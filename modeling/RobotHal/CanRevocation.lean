import RobotHal.CanLedger

/-!
Revoking an owner on the CAN manager.

A close marks its session before it waits for the actor, and only the same future releases the
lease afterwards. What follows a session of the owner until its lease is gone: it is held by
an actor the manager knows, or by a close in flight, and once the owner's revocation has
looked at it, by the revocation, by a close, or by an actor that is about to end.
-/

namespace RobotHal.CanManager

open CanActor (Actor Config Removal cleanupQueueCapacity)

variable {id : SessionId} {r : ResourceId} {e m k : ℕ} {token : LeaseToken} {t : CloseTask}
  {x : ActiveSession} {a : Actor}
variable {fresh : LeaseId} {j : SessionId} {t' : RevokeTask} {res : HalResult Unit} {asleep : Bool}
  {cur : SessionId × LeaseToken} {rest : List (SessionId × LeaseToken)} {ev : Event} {c : Config}

/-- Some close of the session is in flight. -/
def State.Flying (s : State) (id : SessionId) : Prop :=
  ∃ x ∈ s.closes.entries, x.2.pc.InFlight ∧ x.2.session = id

/-- The session's actor is the one the manager knows, and it is about to end: the next
reconciliation after its end retires the session. -/
def State.Doomed (s : State) (x : ActiveSession) : Prop :=
  s.mgr.actors.lookup x.resourceId = some x.actorEpoch ∧ s.Ended x.actorEpoch

/-- A session of the owner that a close leaves behind has an actor that is about to end. -/
def State.Leaves (s : State) (o : OwnerId) (t : CloseTask) : Prop :=
  ∀ x ∈ s.mgr.active.lookup t.session, x.ownerId = o → s.Doomed x

/-- The close has seen its actor finished. -/
def ClosePc.sawFinished : ClosePc → Bool
  | .finishing _ actorFinished => actorFinished
  | _ => false

/-- The close a revocation is inside. -/
def RevokePc.closes : RevokePc → Option ℕ
  | .closing m _ _ => some m
  | _ => none

/-- The session a revocation closes next. -/
def RevokePc.next : RevokePc → Option (SessionId × LeaseToken)
  | .trying _ todo => todo.head?
  | _ => none

/-- Finishing the close takes the entry of its finished actor out of the manager. -/
def State.DropsActor (s : State) (t : CloseTask) : Prop :=
  t.pc.sawFinished ∧ (s.mgr.active.lookup t.session).isSome ∧
    s.mgr.actors.lookup t.resource = some t.epoch ∧ s.isFinished t.epoch

/-- The step lets no session of the owner slip, where `n` is its revocation.

* Nothing is reserved for the owner once the revocation has listed its sessions.
* An open of the owner commits while its actor is still the one the manager knows.
* A close of one of the owner's sessions is not dropped while it awaits the actor, unless the
  session is gone or its actor about to end.
* A close that takes a finished actor's entry out leaves no other session of the owner on it.
* The revocation does not give up on a session because the cleanup queue is full. -/
def Careful (o : OwnerId) (n : ℕ) (s : State) : Event → Prop
  | .reserve id _ => ∀ t ∈ s.opens.lookup id, t.owner = o → s.revokes.lookup n = none
  | .commit id _ => ∀ p ∈ s.mgr.pending.lookup id, p.reservation.ownerId = o →
      s.mgr.actors.lookup p.reservation.resourceId = p.actorEpoch
  | .dropClose m => ∀ t ∈ s.closes.lookup m, s.Leaves o t
  | .dropRevoke m => ∀ t ∈ s.revokes.lookup m, ∀ k ∈ t.pc.closes, ∀ u ∈ s.closes.lookup k,
      s.Leaves o u
  | .closeFinish m => ∀ t ∈ s.closes.lookup m, s.DropsActor t →
      ∀ id x, s.mgr.active.lookup id = some x → x.ownerId = o → x.resourceId = t.resource →
        x.actorEpoch = t.epoch → s.Flying id
  | .revokeClose m _ true => m = n → ∀ t ∈ s.revokes.lookup n, ∀ cur ∈ t.pc.next,
      ∀ x ∈ s.mgr.active.lookup cur.1, x.ownerId = o → x.closing ∨ s.Doomed x ∨
        ∀ a ∈ s.threads.lookup x.actorEpoch, a.cleanup.length < cleanupQueueCapacity
  | _ => True

instance (s : State) (id : SessionId) : Decidable (s.Flying id) :=
  inferInstanceAs (Decidable (∃ x ∈ s.closes.entries, x.2.pc.InFlight ∧ x.2.session = id))

instance (s : State) (x : ActiveSession) : Decidable (s.Doomed x) :=
  inferInstanceAs (Decidable (_ ∧ _))

instance (s : State) (o : OwnerId) (t : CloseTask) : Decidable (s.Leaves o t) :=
  inferInstanceAs (Decidable (∀ x ∈ s.mgr.active.lookup t.session, x.ownerId = o → s.Doomed x))

instance (s : State) (t : CloseTask) : Decidable (s.DropsActor t) :=
  inferInstanceAs (Decidable (_ ∧ _))

instance (o : OwnerId) (n : ℕ) (s : State) : DecidablePred (Careful o n s) := fun e => by
  cases e with
  | revokeClose m k expired => cases expired <;> unfold Careful <;> infer_instance
  | _ => unfold Careful; infer_instance

/-! ### Following the owner's sessions -/

/-- A session of the owner is held by an actor the manager knows, or by a close in flight; once it
is marked or looked at, by a close or an actor that is about to end. -/
structure State.Held (s : State) (o : OwnerId) (n : ℕ) (id : SessionId) (x : ActiveSession) :
    Prop where
  anchored : s.mgr.actors.lookup x.resourceId = some x.actorEpoch ∨ s.Flying id
  closing : x.closing → s.Flying id ∨ s.Doomed x
  listed : ∀ l, s.todo n = some (o, l) → (id, x.token) ∈ l ∨ s.Flying id ∨ s.Doomed x

/-- Whatever is left of the owner has somebody that will release it. -/
structure Orderly (o : OwnerId) (n : ℕ) (s : State) : Prop where
  threads : ∀ r e, s.mgr.actors.lookup r = some e → (s.threads.lookup e).isSome
  bound : ∀ e, (s.threads.lookup e).isSome → e ≤ s.mgr.nextActorEpoch
  held : ∀ id x, s.mgr.active.lookup id = some x → x.ownerId = o → s.Held o n id x
  pending : ∀ l, s.todo n = some (o, l) → ∀ id p, s.mgr.pending.lookup id = some p →
    p.reservation.ownerId ≠ o

lemma flying_iff {s : State} : s.Flying id ↔ ∃ n f, s.flying n = some f ∧ f.session = id := by
  unfold State.Flying State.flying
  constructor
  · rintro ⟨⟨n, t⟩, hm, hpc, hid⟩
    refine ⟨n, ⟨t.session, t.token, t.resource, t.epoch⟩, ?_, hid⟩
    rw [Assoc.mem_entries_iff.mp hm]
    simp only at hpc
    simp [CloseTask.flight, hpc]
  · rintro ⟨n, f, hf, hid⟩
    obtain ⟨t, ht, hfl⟩ := Option.bind_eq_some_iff.mp hf
    unfold CloseTask.flight at hfl
    split at hfl
    · rename_i hpc
      cases hfl
      exact ⟨⟨n, t⟩, Assoc.mem_entries_iff.mpr ht, hpc, hid⟩
    · cases hfl

section Held

variable {o : OwnerId} {n : ℕ} {s s' : State}

lemma State.Held.of_flying (h : s.Flying id) : s.Held o n id x :=
  ⟨.inr h, fun _ => .inl h, fun _ _ => .inr (.inl h)⟩

/-- A step that leaves the session with those who hold it. -/
lemma State.Held.carry (h : s.Held o n id x)
    (hact : s.mgr.actors.lookup x.resourceId = some x.actorEpoch →
      s'.mgr.actors.lookup x.resourceId = some x.actorEpoch ∨ s'.Flying id)
    (hfly : s.Flying id → s'.Flying id ∨ s'.Doomed x)
    (hend : s.Ended x.actorEpoch → s'.Ended x.actorEpoch)
    (htodo : ∀ l, s'.todo n = some (o, l) → (id, x.token) ∈ l ∨
      ∃ l', s.todo n = some (o, l') ∧ ((id, x.token) ∈ l' → (id, x.token) ∈ l)) :
    s'.Held o n id x := by
  have hdoom (hd : s.Doomed x) : s'.Flying id ∨ s'.Doomed x :=
    (hact hd.1).elim (fun ha => .inr ⟨ha, hend hd.2⟩) .inl
  refine ⟨?_, fun hc => (h.closing hc).elim hfly hdoom, fun l hl => ?_⟩
  · rcases h.anchored with ha | hf
    · exact hact ha
    · exact (hfly hf).elim .inr fun hd => .inl hd.1
  · rcases htodo l hl with hin | ⟨l', hl', hmem⟩
    · exact .inl hin
    · rcases h.listed l' hl' with hin | hf | hd
      · exact .inl (hmem hin)
      · exact .inr (hfly hf)
      · exact .inr (hdoom hd)

end Held

namespace Orderly

variable {o : OwnerId} {n : ℕ} {s s' : State} (h : Orderly o n s)

include h

/-- A step that leaves threads and revocations alone. -/
lemma transfer (hthreads : s'.threads = s.threads)
    (hepoch : s'.mgr.nextActorEpoch = s.mgr.nextActorEpoch) (hrevokes : s'.revokes = s.revokes)
    (hactors : ∀ r e, s'.mgr.actors.lookup r = some e → s.mgr.actors.lookup r = some e)
    (hactive : ∀ id x, s'.mgr.active.lookup id = some x → x.ownerId = o →
      s.mgr.active.lookup id = some x ∧
        (s.mgr.actors.lookup x.resourceId = some x.actorEpoch →
          s'.mgr.actors.lookup x.resourceId = some x.actorEpoch ∨ s'.Flying id) ∧
        (s.Flying id → s'.Flying id ∨ s'.Doomed x))
    (hpending : ∀ l, s.todo n = some (o, l) → ∀ id p, s'.mgr.pending.lookup id = some p →
      p.reservation.ownerId = o →
        ∃ q, s.mgr.pending.lookup id = some q ∧ q.reservation.ownerId = o) : Orderly o n s' := by
  have htodo : s'.todo n = s.todo n := by unfold State.todo; rw [hrevokes]
  refine ⟨fun r e he => ?_, fun e he => ?_, fun id x hx ho => ?_, fun l hl id p hp ho => ?_⟩
  · rw [hthreads]
    exact h.threads r e (hactors r e he)
  · rw [hthreads] at he
    exact hepoch ▸ h.bound e he
  · obtain ⟨hx', hact, hfly⟩ := hactive id x hx ho
    refine (h.held id x hx' ho).carry hact hfly ?_ fun l hl => .inr ⟨l, htodo ▸ hl, fun hm => hm⟩
    unfold State.Ended
    rw [hthreads]
    exact fun he => he
  · rw [htodo] at hl
    obtain ⟨q, hq, hqo⟩ := hpending l hl id p hp ho
    exact h.pending l hl id q hq hqo

omit h in
lemma flying_congr (h : ∀ n, s'.flying n = s.flying n) (id : SessionId) :
    s'.Flying id ↔ s.Flying id := by simp only [flying_iff, h]

lemma still (hs : Still s s') : Orderly o n s' := by
  have hfly := flying_congr hs.flying
  refine ⟨fun r e he => ?_, fun e he => ?_, fun id x hx ho => ?_, fun l hl => ?_⟩
  · rw [hs.threads]
    exact h.threads r e (hs.mgr ▸ he)
  · rw [hs.threads] at he
    rw [hs.mgr]
    exact h.bound e he
  · rw [hs.mgr] at hx
    exact (h.held id x hx ho).carry (fun ha => .inl (hs.mgr ▸ ha))
      (fun hf => .inl ((hfly id).mpr hf))
      (hs.ended _) fun l hl => .inr ⟨l, hs.todo n ▸ hl, fun hm => hm⟩
  · rw [hs.todo] at hl
    rw [hs.mgr]
    exact h.pending l hl

lemma shrink (hs : Spared s s')
    (hactors : ∀ r e, s'.mgr.actors.lookup r = some e → s.mgr.actors.lookup r = some e)
    (hpending : ∀ id p, s'.mgr.pending.lookup id = some p → s.mgr.pending.lookup id = some p)
    (hactive : ∀ id x, s'.mgr.active.lookup id = some x → s.mgr.active.lookup id = some x ∧
      (s.mgr.actors.lookup x.resourceId = some x.actorEpoch →
        s'.mgr.actors.lookup x.resourceId = some x.actorEpoch)) : Orderly o n s' := by
  refine h.transfer hs.threads hs.epoch hs.revokes hactors (fun id x hx _ => ?_)
    fun _ _ id p hp ho => ⟨p, hpending id p hp, ho⟩
  refine ⟨(hactive id x hx).1, fun ha => .inl ((hactive id x hx).2 ha), fun hf => .inl ?_⟩
  unfold State.Flying
  rw [hs.closes]
  exact hf

lemma reconcile (r : ResourceId) : Orderly o n (s.reconcileFinishedActor r) := by
  have hr := reconciled s r
  refine h.shrink hr.toSpared (fun q e he => ((hr.actors q e).mp he).1)
    (fun id p hp => ((hr.pending id p).mp hp).1) fun id x hx => ?_
  obtain ⟨hx, hne⟩ := (hr.active id x).mp hx
  exact ⟨hx, fun ha => (hr.actors _ _).mpr ⟨ha, hne⟩⟩

lemma repend (hthreads : s'.threads = s.threads)
    (hepoch : s'.mgr.nextActorEpoch = s.mgr.nextActorEpoch) (hactors : s'.mgr.actors = s.mgr.actors)
    (hactive : s'.mgr.active = s.mgr.active) (hcloses : s'.closes = s.closes)
    (hrevokes : s'.revokes = s.revokes)
    (hp : ∀ l, s.todo n = some (o, l) → ∀ id p, s'.mgr.pending.lookup id = some p →
      p.reservation.ownerId = o →
        ∃ q, s.mgr.pending.lookup id = some q ∧ q.reservation.ownerId = o) : Orderly o n s' := by
  refine h.transfer hthreads hepoch hrevokes (fun r e he => hactors ▸ he) (fun id x hx _ => ?_) hp
  refine ⟨hactive ▸ hx, fun ha => .inl (hactors ▸ ha), fun hf => .inl ?_⟩
  unfold State.Flying
  rw [hcloses]
  exact hf

lemma dropPending (id : SessionId) : Orderly o n { s with mgr := s.mgr.dropPending id } := by
  obtain ⟨ha, hp, hc, hn⟩ := dropPending_fields s.mgr id
  refine h.repend rfl hn hc ha rfl rfl fun l _ j p hj ho => ?_
  simp only [hp] at hj
  split at hj
  · cases hj
  · exact ⟨p, hj, ho⟩

lemma foldl_cancelPending (done : Bool) (ids : List SessionId) :
    Orderly o n (ids.foldl (fun s id => s.cancelPending id done) s) := by
  obtain ⟨hs, ha, hact, hp⟩ := foldl_cancelPending_spec s done ids
  refine h.repend hs.threads hs.epoch ha hact hs.closes hs.revokes fun l _ j p hj ho => ?_
  rw [hp] at hj
  split at hj
  · cases hj
  · exact ⟨p, hj, ho⟩

/-! ### `open` -/

lemma reserved {t : OpenTask} {v : CanReservation} (hc : t.owner = o → s.revokes.lookup n = none)
    (hv : (s.mgr.leases.reserve t.resource id t.owner t.mode fresh).2 = .ok v)
    (leases : CanLeaseTable) : Orderly o n (State.setPc { s with mgr := { s.mgr with
      leases, pending := s.mgr.pending.insert id ⟨v, none⟩ } } id .reserved) := by
  obtain ⟨rfl, -, -⟩ := CanLeaseTable.reserve_ok hv
  refine h.repend rfl rfl rfl rfl rfl rfl fun l hl j p hj ho => ?_
  rcases Assoc.of_lookup_insert hj with ⟨-, rfl⟩ | hj
  · -- the owner reserves nothing once it is revoked
    unfold State.todo at hl
    rw [hc ho] at hl
    cases hl
  · exact ⟨p, hj, ho⟩

lemma spawn (hr : s.mgr.actors.lookup r = none) (he : e = s.mgr.nextActorEpoch + 1)
    (first : CanActor.ActorSessionSpec) :
    Orderly o n ({ s with mgr := { s.mgr with nextActorEpoch := e } }.spawn r e first) := by
  have hfresh : s.threads.lookup e = none := by
    cases ht : s.threads.lookup e with
    | none => rfl
    | some a =>
      have := h.bound e (by rw [ht]; rfl)
      omega
  have hact : ∀ q k, s.mgr.actors.lookup q = some k →
      (s.mgr.actors.insert r e).lookup q = some k := by
    intro q k hq
    rw [Assoc.lookup_insert_ite, if_neg, hq]
    rintro rfl
    rw [hr] at hq; cases hq
  refine ⟨fun q k hq => ?_, fun k hk => ?_, fun id x hx ho => ?_, h.pending⟩
  · -- the actors that are known have a thread
    change ((s.threads.insert e _).lookup k).isSome
    rw [Assoc.lookup_insert_ite]
    split
    · rfl
    · rcases Assoc.of_lookup_insert hq with ⟨-, rfl⟩ | hq
      · contradiction
      · exact h.threads q k hq
  · change ((s.threads.insert e _).lookup k).isSome at hk
    change k ≤ e
    rw [Assoc.lookup_insert_ite] at hk
    split at hk
    · omega
    · have := h.bound k hk
      omega
  · -- the new thread takes nobody's epoch
    refine (h.held id x hx ho).carry (fun ha => .inl (hact _ _ ha)) .inl ?_ fun l hl =>
      .inr ⟨l, hl, fun hm => hm⟩
    rintro ⟨a, hm, hend⟩
    refine ⟨a, ?_, hend⟩
    change (s.threads.insert e _).lookup x.actorEpoch = some a
    rw [Assoc.lookup_insert_ite, if_neg, hm]
    rintro rfl
    rw [hfresh] at hm; cases hm

lemma bump (he : s.mgr.nextActorEpoch ≤ e) :
    Orderly o n { s with mgr := { s.mgr with nextActorEpoch := e } } :=
  ⟨h.threads, fun k hk => (h.bound k hk).trans he,
    fun id x hx ho => { h.held id x hx ho with }, h.pending⟩

lemma assigned (id : SessionId) (e : ℕ) : Orderly o n (s.assigned id e) := by
  refine h.repend rfl rfl rfl rfl rfl rfl fun l _ j p hj ho => ?_
  change (Assoc.modify s.mgr.pending id _).lookup j = some p at hj
  rw [Assoc.lookup_modify] at hj
  split at hj
  · obtain ⟨q, hq, rfl⟩ := Option.map_eq_some_iff.mp hj
    exact ⟨q, hq, ho⟩
  · exact ⟨p, hj, ho⟩

lemma modifyOpen (id : SessionId) (f : OpenTask → OpenTask) : Orderly o n (s.modifyOpen id f) :=
  h.repend rfl rfl rfl rfl rfl rfl fun _ _ _ p hj ho => ⟨p, hj, ho⟩

lemma handedOver {spec : CanActor.ActorSessionSpec} {N : ℕ} {A : Assoc ResourceId ℕ} {a' : Actor}
    (hto : Recipient s r spec e N A a') :
    Orderly o n (s.handOver id e N A a') := by
  cases hto with
  | @present a he ha hconn =>
    have hst : Still s (s.setThread e { a with commands := a.commands ++ [.addSession spec] }) :=
      .setThread ha (ending_of_stage rfl)
    exact (h.still hst).assigned id e
  | started hn he => exact (h.spawn hn he _).assigned id e

lemma issued (hb : Balanced s) {t : OpenTask} {epoch : ℕ} {p : PendingSession}
    (hc : p.reservation.ownerId = o →
      s.mgr.actors.lookup p.reservation.resourceId = p.actorEpoch)
    (hi : Issue s id t e p fresh token epoch) : Orderly o n (s.issue id t p fresh token epoch) := by
  obtain ⟨u, hu, -, hpr, -, hpo, -⟩ := hb.guarded id p hi.pending
  rw [hi.task] at hu
  cases hu
  have hactor : t.owner = o → s.mgr.actors.lookup t.resource = some epoch := by
    intro ho
    rw [← hpr, ← hi.epoch]
    exact hc (hpo.trans ho)
  refine ⟨h.threads, h.bound, fun j x hx ho => ?_,
    fun l hl j q hq => h.pending l hl j q (Assoc.of_lookup_erase hq).2⟩
  rcases Assoc.of_lookup_insert hx with ⟨-, rfl⟩ | hx
  · -- the new session is not listed yet
    refine ⟨.inl (hactor ho), nofun, fun l hl => ?_⟩
    exact absurd (hpo.trans ho) (h.pending l hl id p hi.pending)
  · exact { h.held j x hx ho with }

lemma dropGuard (id : SessionId) (actor : Option ℕ) (pc : OpenPc) :
    Orderly o n (s.dropGuard id actor pc) := by
  have h₁ := h.dropPending id
  unfold State.dropGuard
  cases actor with
  | some e => exact h₁.repend rfl rfl rfl rfl rfl rfl fun _ _ _ p hj ho => ⟨p, hj, ho⟩
  | none => exact h₁.modifyOpen id _

/-! ### `close` -/

omit h in
lemma flying_insert (hm : s.closes.lookup m = none) (h : s.Flying j) :
    { s with closes := s.closes.insert m t }.Flying j := by
  obtain ⟨k, f, hf, hj⟩ := flying_iff.mp h
  refine flying_iff.mpr ⟨k, f, ?_, hj⟩
  unfold State.flying at hf ⊢
  simp only [Assoc.lookup_insert_ite]
  rw [if_neg, hf]
  rintro rfl
  rw [hm] at hf; cases hf

omit h in
lemma flying_handClose (m : ℕ) (parent : Option ℕ) (id : SessionId) (token : LeaseToken)
    (x : ActiveSession) (a : Actor) : (s.handClose m parent id token x a).Flying id := by
  refine flying_iff.mpr ⟨m, ⟨id, token, x.resourceId, x.actorEpoch⟩, ?_, rfl⟩
  simp [State.handClose, State.flying, CloseTask.flight, ClosePc.InFlight]

lemma handClose (hm : s.closes.lookup m = none) (hh : Handed s id token x a) (parent : Option ℕ) :
    Orderly o n (s.handClose m parent id token x a) := by
  have hst : Still s (s.setThread x.actorEpoch { a with
      cleanup := a.cleanup ++ [⟨id, false, some m⟩] }) :=
    .setThread hh.thread (ending_of_stage rfl)
  have h₁ := h.still hst
  have hnew := flying_handClose (s := s) m parent id token x a
  refine ⟨h₁.threads, h₁.bound, fun j y hy ho => ?_, h₁.pending⟩
  rcases Assoc.of_lookup_insert hy with ⟨rfl, -⟩ | hy
  · -- its own close flies
    exact .of_flying hnew
  · exact (h₁.held j y hy ho).carry .inl (fun hf => .inl (flying_insert hm hf)) (fun he => he)
      fun l hl => .inr ⟨l, hl, fun hin => hin⟩

lemma endClose (ht : s.closes.lookup m = some t) (hl : s.Leaves o t) (pc : ClosePc) :
    Orderly o n (s.setClose m t pc) := by
  refine h.transfer rfl rfl rfl (fun _ _ he => he) (fun j x hx ho => ⟨hx, .inl, fun hf => ?_⟩)
    fun _ _ j p hp hpo => ⟨p, hp, hpo⟩
  by_cases hj : j = t.session
  · -- the close that ends is of this session
    rw [hj] at hx
    exact .inr (hl x hx ho)
  · obtain ⟨k, f, hf, hfj⟩ := flying_iff.mp hf
    refine .inl (flying_iff.mpr ⟨k, f, ?_, hfj⟩)
    unfold State.flying State.setClose at *
    simp only [Assoc.lookup_insert_ite]
    rw [if_neg, hf]
    rintro rfl
    -- the close that ends is of another session
    rw [ht] at hf
    simp only [Option.bind_some, CloseTask.flight] at hf
    split at hf
    · rw [← Option.some.inj hf] at hfj
      exact hj hfj.symm
    · cases hf

lemma finishClose {actorFinished : Bool} (closeFailed : Bool)
    (hc : actorFinished → (s.mgr.active.lookup t.session).isSome →
      s.mgr.actors.lookup t.resource = some t.epoch → s.isFinished t.epoch →
      ∀ id x, s.mgr.active.lookup id = some x → x.ownerId = o → x.resourceId = t.resource →
        x.actorEpoch = t.epoch → s.Flying id) :
    Orderly o n (s.finishClose t closeFailed actorFinished) := by
  cases hx : s.mgr.active.lookup t.session with
  | none => rw [finishClose_none s hx]; exact h
  | some x =>
    obtain ⟨events, actors, he, hcase⟩ := finishClose_eq s hx closeFailed actorFinished
    rw [he]
    have hact : ∀ j y, (s.mgr.active.erase t.session).lookup j = some y →
        s.mgr.active.lookup j = some y := fun _ _ hy => (Assoc.of_lookup_erase hy).2
    rcases hcase with rfl | ⟨hseen, hent, hfin, rfl⟩
    · exact h.transfer rfl rfl rfl (fun _ _ hr => hr) (fun j y hy ho => ⟨hact j y hy, .inl, .inl⟩)
        fun _ _ j p hp hpo => ⟨p, hp, hpo⟩
    · -- the entry of the finished actor goes too
      refine h.transfer rfl rfl rfl (fun r e hr => (Assoc.of_lookup_erase hr).2)
        (fun j y hy ho => ⟨hact j y hy, fun ha => ?_, .inl⟩) fun _ _ j p hp hpo => ⟨p, hp, hpo⟩
      simp only [Assoc.lookup_erase_ite]
      split
      · rename_i hr
        rw [hr, hent] at ha
        exact .inr (hc hseen (by rw [hx]; rfl) hent hfin j y (hact j y hy) ho hr
          (Option.some.inj ha).symm)
      · exact .inl ha

lemma finished {result : HalResult Unit} {seen failed : Bool} (hc : Careful o n s (.closeFinish m))
    (ht : s.closes.lookup m = some t) (hpc : t.pc = .finishing result seen) :
    Orderly o n ((s.finishClose t failed seen).setClose m t (.returned result)) := by
  refine (h.finishClose _ fun hseen hact hent hfin => hc t ht
    ⟨by rw [hpc]; exact hseen, hact, hent, hfin⟩).endClose ?_ ?_ _
  · cases hx : s.mgr.active.lookup t.session with
    | none => rw [finishClose_none s hx, ht]
    | some x =>
      obtain ⟨events, actors, he, -⟩ := finishClose_eq s hx failed seen
      rw [he, ht]
  · intro x hx'
    cases hx : s.mgr.active.lookup t.session with
    | none => rw [finishClose_none s hx, hx] at hx'; cases hx'
    | some y =>
      obtain ⟨events, actors, he, -⟩ := finishClose_eq s hx failed seen
      rw [he] at hx'
      change x ∈ (s.mgr.active.erase t.session).lookup t.session at hx'
      rw [Assoc.lookup_erase_ite, if_pos rfl] at hx'
      cases hx'

/-! ### `revoke_owner` -/

omit h in
lemma todo_insert (m : ℕ) (t : RevokeTask) :
    { s with revokes := s.revokes.insert m t }.todo n =
      if n = m then t.pc.todo.map fun l => (t.owner, l) else s.todo n := by
  unfold State.todo
  simp only [Assoc.lookup_insert_ite]
  split <;> rfl

lemma relist {t : RevokeTask} (hk : s.revokes.lookup k = some t) (ho : t'.owner = t.owner)
    (htodo : k = n → ∀ l' ∈ t'.pc.todo, ∃ l ∈ t.pc.todo, ∀ id x, s.mgr.active.lookup id = some x →
      x.ownerId = o → (id, x.token) ∈ l → (id, x.token) ∈ l' ∨ s.Flying id ∨ s.Doomed x) :
    Orderly o n { s with revokes := s.revokes.insert k t' } := by
  have hlist : ∀ l', { s with revokes := s.revokes.insert k t' }.todo n = some (o, l') →
      ∃ l, s.todo n = some (o, l) ∧ ∀ id x, s.mgr.active.lookup id = some x → x.ownerId = o →
        (id, x.token) ∈ l → (id, x.token) ∈ l' ∨ s.Flying id ∨ s.Doomed x := by
    intro l' hl'
    rw [todo_insert] at hl'
    split at hl'
    · -- revocation `n` goes on
      rename_i hnk
      obtain ⟨l₁, hl₁, heq⟩ := Option.map_eq_some_iff.mp hl'
      obtain ⟨rfl, rfl⟩ := Prod.mk.inj heq
      obtain ⟨l, hl, hleft⟩ := htodo hnk.symm l₁ hl₁
      refine ⟨l, ?_, hleft⟩
      rw [State.todo, hnk, hk, Option.bind_some, Option.mem_def.mp hl, ho]
      rfl
    · -- another one does
      exact ⟨l', hl', fun _ _ _ _ hin => .inl hin⟩
  refine ⟨h.threads, h.bound, fun id x hx ho => ?_, fun l' hl' => ?_⟩
  · have hold := h.held id x hx ho
    refine ⟨hold.anchored, hold.closing, fun l' hl' => ?_⟩
    obtain ⟨l, hl, hleft⟩ := hlist l' hl'
    exact (hold.listed l hl).elim (hleft id x hx ho) .inr
  · obtain ⟨l, hl, -⟩ := hlist l' hl'
    exact h.pending l hl

/-- The revocation has cancelled every reservation of its owner and listed every session. -/
lemma revoked {o' : OwnerId} {opens : List SessionId} {todo : List (SessionId × LeaseToken)}
    {t : RevokeTask} (hopens : opens.Perm (s.pendingOf o')) (hlist : todo.Perm (s.activeOf o'))
    (ho' : t.owner = o') (htodo : t.pc.todo = some todo) :
    Orderly o n { opens.foldl (fun s id => s.cancelPending id false) s with
      revokes := s.revokes.insert k t } := by
  have h₁ := h.foldl_cancelPending false opens
  obtain ⟨hsp, -, hact, hpend⟩ := foldl_cancelPending_spec s false opens
  set s₁ := opens.foldl (fun s id => s.cancelPending id false) s
  rw [← hsp.revokes]
  refine ⟨h₁.threads, h₁.bound, fun id x hx ho => ?_, fun l hl id p hp hpo => ?_⟩
  · refine (h₁.held id x hx ho).carry .inl .inl (fun he => he) fun l hl => ?_
    rw [todo_insert, htodo, ho'] at hl
    change s₁.mgr.active.lookup id = some x at hx
    rw [hact] at hx
    split at hl
    · -- it lists every session of its owner
      obtain ⟨rfl, rfl⟩ := Prod.mk.inj (Option.some.inj hl)
      refine .inl (hlist.mem_iff.mpr ?_)
      exact Assoc.mem_pick.mpr ⟨id, x, hx, by simpa using ho, rfl⟩
    · exact .inr ⟨l, hl, fun hm => hm⟩
  · rw [todo_insert, htodo, ho'] at hl
    split at hl
    · obtain ⟨rfl, -⟩ := Prod.mk.inj (Option.some.inj hl)
      change s₁.mgr.pending.lookup id = some p at hp
      rw [hpend] at hp
      split at hp
      · cases hp
      · -- a reservation that is left was cancelled
        rename_i hout
        refine absurd (hopens.mem_iff.mpr ?_) hout
        exact Assoc.mem_pick.mpr ⟨id, p, hp, by simpa using hpo, rfl⟩
    · exact h₁.pending l hl id p hp hpo

omit h in
lemma tryCleanup_refused {x : Removal} {err : HalError} (ha : s.threads.lookup e = some a)
    (h : s.tryCleanup e x = .error err) :
    Ending a ∨ isQueueFull err ∧ cleanupQueueCapacity ≤ a.cleanup.length := by
  unfold State.tryCleanup at h
  rw [ha] at h
  simp only [Actor.tryCleanup] at h
  split at h
  · -- the actor has gone
    rename_i hc
    left
    unfold Actor.connected at hc
    unfold Ending
    split at hc <;> simp_all
  split at h
  · -- its queue is full
    rename_i hfull
    obtain rfl := Except.error.inj h
    exact .inr ⟨rfl, hfull⟩
  · cases h

/-- A close that answers in its lock section has not touched the session. If the session is the
one it was asked to close, somebody else will see to it, or the actor's queue was full. -/
lemma answered (hb : Balanced s) (ha : Answers s id token res)
    (hx : s.mgr.active.lookup id = some x) (ho : x.ownerId = o) (ht : x.token = token) :
    s.Flying id ∨ s.Doomed x ∨ x.closing = false ∧ (∃ e, res = .error e ∧ isQueueFull e) ∧
      ∃ a ∈ s.threads.lookup x.actorEpoch, cleanupQueueCapacity ≤ a.cleanup.length := by
  cases ha with
  | gone hn => rw [hn] at hx; cases hx
  | invalid hy hv =>
    -- the session's own token is valid
    obtain rfl := Option.mem_unique hx hy
    have hok : s.mgr.leases.validate x.resourceId id x.ownerId token .observe "can.close" =
        .ok () := by
      refine CanLeaseTable.validate_eq_ok.mpr ⟨_, hb.leased id x hx, rfl, ht, ?_⟩
      cases token.mode <;> rfl
    rw [hok] at hv
    cases hv
  | closing hy hc =>
    obtain rfl := Option.mem_unique hx hy
    exact ((h.held id x hx ho).closing hc).imp_right .inl
  | refused hy hc hq =>
    obtain rfl := Option.mem_unique hx hy
    rcases (h.held id x hx ho).anchored with ha | hf
    · obtain ⟨a, hta⟩ := Option.isSome_iff_exists.mp (h.threads _ _ ha)
      rcases tryCleanup_refused hta hq with hend | ⟨hfull, hlen⟩
      · exact .inr (.inl ⟨ha, a, hta, hend⟩)
      · exact .inr (.inr ⟨hc, ⟨_, rfl, hfull⟩, a, hta, hlen⟩)
    · exact .inl hf

lemma revokeAnswered (hb : Balanced s) {expired : Bool} {t : RevokeTask}
    (hc : Careful o n s (.revokeClose k m expired)) (hk : s.revokes.lookup k = some t)
    (hpc : t.pc = .trying asleep (cur :: rest)) (ha : Answers s cur.1 cur.2 res)
    (ho : t'.owner = t.owner) (htodo : t'.pc.todo = some (cur :: rest) ∨
      t'.pc.todo = some rest ∧ ∀ e, res = .error e → isQueueFull e → expired) :
    Orderly o n { s with revokes := s.revokes.insert k t' } := by
  refine h.relist hk ho fun hkn l' hl' => ⟨cur :: rest, by rw [hpc]; rfl, fun id x hx hxo hin => ?_⟩
  rcases htodo with htodo | ⟨htodo, hgiveup⟩
  all_goals
    rw [htodo] at hl'
    obtain rfl := Option.some.inj hl'
  · exact .inl hin
  rcases List.mem_cons.mp hin with rfl | hin
  · -- the close in hand
    right
    rcases h.answered hb ha hx hxo rfl with hf | hd | ⟨hopen, ⟨e, rfl, hfull⟩, a, hta, hlen⟩
    · exact .inl hf
    · exact .inr hd
    · -- it gives up on a full queue only where it was careful
      obtain rfl := hgiveup e rfl hfull
      rcases hc hkn t (hkn ▸ hk) _ (by rw [hpc]; rfl) x hx hxo with hcl | hd | hroom
      · rw [hopen] at hcl; cases hcl
      · exact .inr hd
      · exact absurd (hroom a hta) (by omega)
  · exact .inl hin

lemma revokeHanded {t : RevokeTask} (hk : s.revokes.lookup k = some t)
    (hpc : t.pc = .trying asleep (cur :: rest)) (hm : s.closes.lookup m = none)
    (hh : Handed s cur.1 cur.2 x a) :
    Orderly o n ((s.handClose m (some k) cur.1 cur.2 x a).setRevoke k t (.closing m cur rest)) := by
  refine (h.handClose hm hh (some k)).relist hk rfl fun _ l' hl' =>
    ⟨cur :: rest, by rw [hpc]; rfl, fun id y _ _ hin => ?_⟩
  obtain rfl := Option.some.inj hl'
  rcases List.mem_cons.mp hin with hcur | hin
  · -- the close in hand now flies
    have hfly := flying_handClose (s := s) m (some k) cur.1 cur.2 x a
    rw [← hcur] at hfly ⊢
    exact .inr (.inl hfly)
  · exact .inl hin

end Orderly

/-! ### Whole runs -/

section Runs

variable {o : OwnerId} {n : ℕ} {s s' : State}

lemma orderly_empty : Orderly o n {} := by
  refine ⟨?_, ?_, ?_, ?_⟩
  all_goals
    intros
    rename_i h
    simp [State.todo] at *

lemma Careful.reconcile (hc : Careful o n s ev) (hl : Locked (s.reconcileFinishedActor r) ev s') :
    Careful o n (s.reconcileFinishedActor r) ev := by
  have hrec := reconciled s r
  cases ev with
  | reserve id fresh =>
    intro t ht ho
    obtain ⟨u, hu, hcore⟩ := hrec.opens.source ht
    rw [hrec.revokes]
    exact hc u hu ((OpenTask.core_inj hcore).1.symm.trans ho)
  | commit id fresh =>
    intro p hp ho
    obtain ⟨hp, hlive⟩ := (hrec.pending id p).mp hp
    have hactor := hc p hp ho
    cases he : p.actorEpoch with
    | none =>
      rw [he] at hactor
      by_contra hsome
      obtain ⟨e, he⟩ := Option.ne_none_iff_exists'.mp hsome
      rw [((hrec.actors _ e).mp he).1] at hactor
      cases hactor
    | some e => exact (hrec.actors _ e).mpr ⟨hactor.trans he, fun hd => hlive ⟨e, hd.2, he⟩⟩
  | revokeClose m k expired =>
    cases expired with
    | false => trivial
    | true =>
      intro hmn t ht cur hcur x hx ho
      rw [hrec.revokes] at ht
      obtain ⟨hx, hlive⟩ := (hrec.active cur.1 x).mp hx
      rcases hc hmn t ht cur hcur x hx ho with hcl | hd | hroom
      · exact .inl hcl
      · refine .inr (.inl ⟨(hrec.actors _ _).mpr ⟨hd.1, hlive⟩, ?_⟩)
        unfold State.Ended
        rw [hrec.threads]
        exact hd.2
      · -- the queues are the same
        rw [← hrec.threads] at hroom
        exact .inr (.inr hroom)
  | dropClose | dropRevoke | closeFinish => cases hl
  | _ => trivial

lemma Locked.orderly (hl : Locked s ev s') (h : Orderly o n s) (hb : Balanced s)
    (hc : Careful o n s ev) : Orderly o n s' := by
  cases hl with
  | refused => exact h.repend rfl rfl rfl rfl rfl rfl fun _ _ _ p hj ho => ⟨p, hj, ho⟩
  | reserved ht _ hv => exact h.reserved (hc _ ht) hv _
  | unassigned _ _ hN => exact (h.bump hN).modifyOpen _ _
  | assigned _ _ hto => exact h.handedOver hto
  | lapsed => exact h.modifyOpen _ _
  | spoiled =>
    exact h.repend rfl rfl rfl rfl rfl rfl fun _ _ _ q hq hqo =>
      ⟨q, (Assoc.of_lookup_erase hq).2, hqo⟩
  | issued hi => exact h.issued hb (hc _ hi.pending) hi
  | called => exact h.still (.of_eq rfl rfl rfl rfl rfl)
  | answered => exact h
  | handed hm hh => exact h.handClose hm hh none
  | revokeAnswered hk hpc ha ho htodo => exact h.revokeAnswered hb hc hk hpc ha ho htodo
  | revokeHanded hk hpc hm hh => exact h.revokeHanded hk hpc hm hh

/-- **One step** that lets no session slip. -/
theorem orderly_step {e : Event} (hb : Balanced s) (h : Orderly o n s) (hc : Careful o n s e)
    (hs : step c s e = some s') : Orderly o n s' := by
  cases step_act hs with
  | lock hrec hl =>
    rcases hrec with rfl | ⟨r, rfl⟩
    · exact hl.orderly h hb hc
    · exact hl.orderly (h.reconcile r) (hb.reconcile r) (hc.reconcile hl)
  | plain hp => exact h.still hp.still
  | guard => exact h.dropGuard _ _ _
  | finish ht hpc => exact h.finished hc ht hpc
  | dropClose ht => exact h.endClose ht (hc _ ht) _
  | revokeCall hopens hlist ho htodo => exact h.revoked hopens hlist ho htodo
  | revoke _ hk ho htodo =>
    refine h.relist hk ho fun _ l' hl' => ?_
    obtain ⟨l, hl, hsub⟩ := htodo l' hl'
    exact ⟨l, hl, fun _ _ _ _ hin => .inl (hsub hin)⟩
  | dropRevoke hk hpc hu =>
    exact (h.endClose hu (hc _ hk _ (by rw [hpc]; rfl) _ hu) _).relist hk rfl nofun

theorem run_orderly {l : List Event} (h : Machine.Runs (step c) (Careful o n) {} l s) :
    Orderly o n s :=
  (h.invariant (I := fun s => Balanced s ∧ Orderly o n s) ⟨balanced_empty, orderly_empty⟩
    fun _ _ _ ha hc hs => ⟨balanced_step ha.1 hs, orderly_step ha.1 ha.2 hc hs⟩).2

/-- The call has returned or was dropped. -/
def OpenPc.Over : OpenPc → Prop
  | .returned _ | .dropped => True
  | _ => False

/-- The actor has ended, or waits for commands and has none. -/
def Idle (a : Actor) : Prop := a.isFinished ∨ ¬Ending a ∧ a.commands = [] ∧ a.cleanup = []

/-- Every open and every close is over, and every actor has processed what it was sent. -/
@[mk_iff]
structure AtRest (s : State) : Prop where
  opens : ∀ x ∈ s.opens.entries, x.2.pc.Over
  closes : ∀ x ∈ s.closes.entries, ¬x.2.pc.InFlight
  actors : ∀ x ∈ s.threads.entries, Idle x.2

def RevokePc.isReturned : RevokePc → Bool
  | .returned _ => true
  | _ => false

/-- The revocation `n` of the owner has returned. -/
def State.Revoked (s : State) (o : OwnerId) (n : ℕ) : Prop :=
  ∃ t ∈ s.revokes.lookup n, t.owner = o ∧ t.pc.isReturned

/-- No lease of the owner is pending or active. -/
@[mk_iff]
structure Unleased (o : OwnerId) (l : ResourceLeases) : Prop where
  pending : ∀ x ∈ l.pending.entries, x.2.ownerId ≠ o
  observes : ∀ x ∈ l.observes.entries, x.2.ownerId ≠ o
  control : ∀ e ∈ l.control, e.ownerId ≠ o
  maintenance : ∀ e ∈ l.maintenance, e.ownerId ≠ o

lemma todo_of_revoked (h : s.Revoked o n) : s.todo n = some (o, []) := by
  obtain ⟨t, ht, rfl, hpc⟩ := h
  unfold State.todo
  rw [Option.mem_def.mp ht]
  unfold RevokePc.isReturned at hpc
  split at hpc
  · rename_i heq
    simp [heq, RevokePc.todo]
  · cases hpc

/-- At rest, what a revocation has left sits on an actor that is gone. -/
lemma Orderly.dead_of_active (h : Orderly o n s) (hr : s.Revoked o n) (hq : AtRest s)
    (hx : s.mgr.active.lookup id = some x) (ho : x.ownerId = o) :
    s.deadActor x.resourceId = some x.actorEpoch := by
  rcases (h.held id x hx ho).listed [] (todo_of_revoked hr) with hin | hf | ⟨ha, a, hm, hend⟩
  · cases hin
  · obtain ⟨y, hy, hin, -⟩ := hf
    exact absurd hin (hq.closes y hy)
  · have hidle : Idle a := hq.actors ⟨_, a⟩ (Assoc.mem_entries_iff.mpr hm)
    rcases hidle with hfin | ⟨hnot, -⟩
    · have : s.isFinished x.actorEpoch = true := by
        unfold State.isFinished
        rw [Option.mem_def.mp hm]
        exact hfin
      simp [State.deadActor, ha, this]
    · exact absurd hend hnot

/-- **Revocation is complete** in every run that lets no session slip: once the revocation has
returned and everything is at rest, reconciling any resource leaves no lease of the owner there. -/
theorem revoke_owner_complete {c : Config} {l : List Event}
    (h : Machine.Runs (step c) (Careful o n) {} l s) (hr : s.Revoked o n) (hq : AtRest s)
    (r : ResourceId) : Unleased o ((s.reconcileFinishedActor r).mgr.leases.leasesOf r) := by
  have ho := run_orderly h
  have hb := (run_balanced h).reconcile r
  have hrec := reconciled s r
  set s₁ := s.reconcileFinishedActor r
  have hactive : ∀ id e, s₁.mgr.leases.act r id = some e → e.ownerId ≠ o := by
    intro id e he heo
    obtain ⟨x, hx, rfl, rfl⟩ := hb.granted r id e he
    obtain ⟨hx, hlive⟩ := (hrec.active id x).mp hx
    exact hlive ⟨rfl, ho.dead_of_active hr hq hx heo⟩
  -- each container of the table is one of the two
  have hheld : ∀ e, (s₁.mgr.leases.leasesOf r).observes.lookup e.sessionId = some e ∨
      (s₁.mgr.leases.leasesOf r).control = some e ∨
      (s₁.mgr.leases.leasesOf r).maintenance = some e → e.ownerId ≠ o := by
    intro e he
    exact hactive e.sessionId e ((CanLeaseTable.active_eq_some (hb.exclusive r)).mpr ⟨rfl, he⟩)
  refine ⟨fun x hx hxo => ?_, fun x hx => ?_, fun e he => ?_, fun e he => ?_⟩
  · obtain ⟨p, hp, hres⟩ := hb.reserved r x.1 x.2 (Assoc.mem_entries_iff.mp hx)
    refine ho.pending [] (todo_of_revoked hr) x.1 p ((hrec.pending x.1 p).mp hp).1 ?_
    rw [hres]
    exact hxo
  · have hlook := Assoc.mem_entries_iff.mp hx
    have hid := ((hb.exclusive r).typed.observes _ _ hlook).1
    exact hheld x.2 (.inl (by rw [hid]; exact hlook))
  · exact hheld e (.inr (.inl he))
  · exact hheld e (.inr (.inr he))

end Runs

instance (pc : OpenPc) : Decidable pc.Over := by
  cases pc <;> unfold OpenPc.Over <;> infer_instance

instance (a : Actor) : Decidable (Idle a) := inferInstanceAs (Decidable (_ ∨ _))

instance (s : State) : Decidable (AtRest s) :=
  decidable_of_iff' _ (atRest_iff s)

instance (s : State) (o : OwnerId) (n : ℕ) : Decidable (s.Revoked o n) :=
  inferInstanceAs (Decidable (∃ t ∈ s.revokes.lookup n, t.owner = o ∧ t.pc.isReturned))

instance (o : OwnerId) (l : ResourceLeases) : Decidable (Unleased o l) :=
  decidable_of_iff' _ (unleased_iff o l)

/-- An open up to its wait for the actor. -/
def requested (mode : LeaseMode) (id : SessionId) (o : OwnerId) : List Event :=
  [.openCall id o ⟨"can:0"⟩ mode (.attach {}) [], .reserve id ⟨"v"⟩, .assign id (.ok ())]

def returned (id : SessionId) (fresh : LeaseId) : List Event := [.admitted id, .commit id fresh]

/-- One round of the actor's loop, in which it serves so many of each of its queues. -/
def lap (removals commands : ℕ) : List Event :=
  (.actor 1 (.prune (.ok ()))) ::
    List.replicate (removals + 1) (.actor 1 (.clean (.ok ())) : Event) ++
    List.replicate (commands + 1) (.actor 1 (.manage 0 (.ok ⟨.active, none, none⟩)) : Event) ++
    ([.actor 1 (.poll (.ok none) 0), .actor 1 (.serve 0)] : List Event)

/-- The first actor, with the session it was started for. -/
def firstOpened (mode : LeaseMode) (id : SessionId) (o : OwnerId) (fresh : LeaseId) : List Event :=
  requested mode id o ++
    [.actor 1 (.opened (.ok ⟨.classic, { bitrate := 500000 }, none, false, false, "host"⟩))] ++
    returned id fresh

/-- One more session on the same actor. -/
def joined (mode : LeaseMode) (id : SessionId) (o : OwnerId) (fresh : LeaseId) : List Event :=
  requested mode id o ++ lap 0 1 ++ returned id fresh

/-- Two owners share the actor of a resource. -/
def sharedActor : List Event :=
  firstOpened .observe ⟨"sa"⟩ ⟨"a"⟩ ⟨"la"⟩ ++ joined .observe ⟨"sb"⟩ ⟨"b"⟩ ⟨"lb"⟩

def tokenA : LeaseToken := ⟨⟨"la"⟩, 1, .observe⟩

/-- The revocation lists the session of its owner and closes it. -/
def revokedRun : List Event :=
  sharedActor ++ [.revokeCall 0 ⟨"a"⟩ [] [(⟨"sa"⟩, tokenA)], .revokeClose 0 0 false] ++ lap 1 0 ++
    [.closeReplied 0, .closeObserve 0, .closeFinish 0, .revokeClosed 0 false]

theorem revoke_owner_complete_shared : ∃ s,
    Machine.Runs (step ⟨16, 16, "5s"⟩) (Careful ⟨"a"⟩ 0) {} revokedRun s ∧ s.Revoked ⟨"a"⟩ 0 ∧
      AtRest s ∧ Unleased ⟨"a"⟩ ((s.reconcileFinishedActor ⟨"can:0"⟩).mgr.leases.leasesOf
        ⟨"can:0"⟩) := by
  have hexec : ∃ s ∈ Machine.exec (step ⟨16, 16, "5s"⟩) (Careful ⟨"a"⟩ 0) {} revokedRun,
      s.Revoked ⟨"a"⟩ 0 ∧ AtRest s := by decide
  obtain ⟨s, hs, hr, hq⟩ := hexec
  have h := Machine.runs_of_exec hs
  exact ⟨s, h, hr, hq, revoke_owner_complete h hr hq ⟨"can:0"⟩⟩

/-- The close of a session is dropped while it waits for the actor, before the owner is
revoked. -/
def droppedClose : List Event :=
  sharedActor ++ [.closeCall 0 ⟨"sa"⟩ tokenA, .dropClose 0,
    .revokeCall 0 ⟨"a"⟩ [] [(⟨"sa"⟩, tokenA)], .revokeClose 0 1 false] ++ lap 1 0

/-- The revocation is told that the session is closed, the actor removes it, and its lease
stays. -/
theorem dropped_close_keeps_lease :
    ∃ s ∈ Machine.exec (step ⟨16, 16, "5s"⟩) (fun _ _ => True) {} droppedClose,
      s.Revoked ⟨"a"⟩ 0 ∧ AtRest s ∧
        (s.threads.lookup 1).map (fun a => a.sessions.keys) = some [⟨"sb"⟩] ∧
        ¬Unleased ⟨"a"⟩ ((s.reconcileFinishedActor ⟨"can:0"⟩).mgr.leases.leasesOf
          ⟨"can:0"⟩) := by decide

end RobotHal.CanManager
