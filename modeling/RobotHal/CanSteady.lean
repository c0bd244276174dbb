import RobotHal.CanFlow

/-!
The steps of the CAN manager that queue no command and answer no open.

They may take sessions and reservations out, and move futures on, but they leave the order of
the actors' work alone: the relation `Calm` says so once for all of them. Those that end no session
and publish nothing either are `Quiet`.
-/

namespace RobotHal

variable {pc : OpenPc} {t t' : OpenTask} {f : OpenTask → OpenTask} {e : ℕ} {a : Actor}

/-- The actor without its cleanup queue and its account of frames. -/
def CanActor.Actor.front (a : CanActor.Actor) : CanActor.Actor :=
  { a with cleanup := [], txReserved := 0 }

namespace CanManager

open CanActor (Actor Config Notice)

/-! ### Opens that go on -/

/-- The open has not asked an actor yet. -/
def OpenPc.Early : OpenPc → Prop
  | .discovering | .reserved => True
  | _ => False

/-- The open may still return a token. -/
def OpenPc.Ahead : OpenPc → Prop
  | .discovering | .reserved | .awaiting _ | .committing _ => True
  | _ => False

/-- The open has not returned a token and will not. -/
def OpenPc.Lost : OpenPc → Prop
  | .returned (.ok _) => False
  | pc => ¬pc.Ahead

lemma OpenPc.Early.ahead (h : pc.Early) : pc.Ahead := by
  cases pc <;> first | exact h.elim | trivial

/-- An open goes on without getting a token or an actor, and only an answered one has a new
reply. -/
structure OpenTask.Steady (answered : Prop) (t t' : OpenTask) : Prop where
  resource : t'.resource = t.resource
  assigned : t'.assigned = t.assigned
  activation : t'.activation = t.activation
  reply : t'.reply = t.reply ∨ answered ∧ t.reply = .waiting
  ahead : t'.pc.Ahead → t.pc.Ahead
  early : t'.pc.Early → t.pc.Early
  committing : ∀ e, t'.pc = .committing e → t.pc = .committing e ∨ t.reply = .sent (.ok ())
  granted : ∀ v, t'.pc = .returned (.ok v) → t.pc = .returned (.ok v)

/-- An open hears from its actor, and stays where it is. -/
structure OpenTask.Hears (answered : Prop) (t t' : OpenTask) : Prop where
  resource : t'.resource = t.resource
  assigned : t'.assigned = t.assigned
  activation : t'.activation = t.activation
  pc : t'.pc = t.pc
  reply : t'.reply = t.reply ∨ answered ∧ t.reply = .waiting

lemma OpenTask.Hears.refl (P : Prop) (t : OpenTask) : t.Hears P t := ⟨rfl, rfl, rfl, rfl, .inl rfl⟩

lemma OpenTask.Hears.trans {P Q : Prop} {t t' t'' : OpenTask} (h : t.Hears P t')
    (h' : t'.Hears Q t'') : t.Hears (P ∨ Q) t'' := by
  refine ⟨h'.resource.trans h.resource, h'.assigned.trans h.assigned,
    h'.activation.trans h.activation, h'.pc.trans h.pc, ?_⟩
  rcases h.reply with hr | ⟨hp, hw⟩
  · rcases h'.reply with hr' | ⟨hq, hw⟩
    · exact .inl (hr'.trans hr)
    · exact .inr ⟨.inr hq, hr ▸ hw⟩
  · exact .inr ⟨.inl hp, hw⟩

lemma OpenTask.Hears.steady {P : Prop} (h : t.Hears P t') : t.Steady P t' where
  resource := h.resource
  assigned := h.assigned
  activation := h.activation
  reply := h.reply
  ahead ha := h.pc ▸ ha
  early he := h.pc ▸ he
  committing _ he := .inl (h.pc ▸ he)
  granted _ hv := h.pc ▸ hv

namespace OpenTask.Steady

lemma refl (P : Prop) (t : OpenTask) : t.Steady P t := (Hears.refl P t).steady

lemma leave (h : t'.resource = t.resource ∧ t'.assigned = t.assigned ∧
      t'.activation = t.activation ∧ t'.reply = t.reply) (hl : t'.pc.Lost) :
    t.Steady False t' := by
  have hahead : ¬t'.pc.Ahead := by
    unfold OpenPc.Lost at hl
    split at hl
    · exact hl.elim
    · exact hl
  refine ⟨h.1, h.2.1, h.2.2.1, .inl h.2.2.2, fun ha => absurd ha hahead,
    fun he => absurd he.ahead hahead, fun e he => ?_, fun v hv => ?_⟩
  · exact absurd (by rw [he]; trivial) hahead
  · rw [hv] at hl
    exact hl.elim

lemma trans {t'' : OpenTask} (h : t.Steady False t') (h' : t'.Steady False t'') :
    t.Steady False t'' := by
  have hreply : t'.reply = t.reply := h.reply.resolve_right fun hf => hf.1
  have hreply' : t''.reply = t'.reply := h'.reply.resolve_right fun hf => hf.1
  refine ⟨h'.resource.trans h.resource, h'.assigned.trans h.assigned,
    h'.activation.trans h.activation, .inl (hreply'.trans hreply), fun ha => h.ahead (h'.ahead ha),
    fun he => h.early (h'.early he),
    fun e he => ?_, fun v hv => h.granted v (h'.granted v hv)⟩
  rcases h'.committing e he with hc | hr
  · exact h.committing e hc
  · exact .inr (hreply ▸ hr)

end OpenTask.Steady

lemma OpenTask.Goes.steady (h : t.Goes t') : t.Steady False t' := by
  cases h with
  | fail hpc | leave hpc => exact .leave ⟨rfl, rfl, rfl, rfl⟩ (by simp [OpenPc.Lost, OpenPc.Ahead])
  | accept hpc hr =>
    exact ⟨rfl, rfl, rfl, .inl rfl, fun _ => by rw [hpc]; trivial, fun he => he.elim,
      fun _ _ => .inr hr, by simp⟩
  | clean | unwind => exact .leave ⟨rfl, rfl, rfl, rfl⟩ id

/-- The actor an operation has found and has not reached yet. -/
def OpPc.located : OpPc → Option (ResourceId × ℕ)
  | .ready r e | .reserved r e => some (r, e)
  | _ => none

/-- An operation goes on. -/
structure OpTask.Same (t t' : OpTask) : Prop where
  session : t'.session = t.session
  token : t'.token = t.token
  located : ∀ x, t'.pc.located = some x → t.pc.located = some x

lemma OpTask.Same.refl (t : OpTask) : t.Same t := ⟨rfl, rfl, fun _ h => h⟩

lemma OpTask.Same.trans {t t' t'' : OpTask} (h : t.Same t') (h' : t'.Same t'') : t.Same t'' :=
  ⟨h'.session.trans h.session, h'.token.trans h.token, fun x hx => h.located x (h'.located x hx)⟩

lemma OpPc.Next.located {q : Request} {pc pc' : OpPc} (h : pc.Next q pc')
    (x : ResourceId × ℕ) (hx : pc'.located = some x) : pc.located = some x := by
  cases h with
  | reserve => exact hx
  | _ => cases hx

/-! ### Calm steps -/

/-- Actors, their sessions and the opens they are asked for only go, an actor once it has
finished. -/
structure Dwindles (s s' : State) : Prop where
  actors : ∀ r e, s'.mgr.actors.lookup r = some e → s.mgr.actors.lookup r = some e
  kept : ∀ r e, s.mgr.actors.lookup r = some e →
    s'.mgr.actors.lookup r = some e ∨ s.isFinished e = true
  epoch : s'.mgr.nextActorEpoch = s.mgr.nextActorEpoch
  pending : ∀ id p e, s'.mgr.pending.lookup id = some p → p.actorEpoch = some e →
    s.mgr.pending.lookup id = some p
  active : ∀ id x', s'.mgr.active.lookup id = some x' →
    ∃ x, s.mgr.active.lookup id = some x ∧ x.core = x'.core

lemma Dwindles.of_mgr {s s' : State} (hm : s'.mgr = s.mgr) : Dwindles s s' :=
  ⟨fun _ _ h => hm ▸ h, fun _ _ h => .inl (hm ▸ h), by rw [hm], fun _ _ _ h _ => hm ▸ h,
    fun _ x h => ⟨x, hm ▸ h, rfl⟩⟩

/-- Nothing is queued and nobody answered. -/
structure Calm (s s' : State) : Prop extends Dwindles s s' where
  threads : Assoc.Follows (fun _ a a' => a'.front = a.front) s.threads s'.threads
  opens : Assoc.Follows (fun _ => OpenTask.Steady False) s.opens s'.opens
  ops : Assoc.Follows (fun _ => OpTask.Same) s.ops s'.ops

/-- Besides, no session ends and nothing is published. -/
structure Quiet (s s' : State) : Prop extends Calm s s' where
  cores : ∀ id, (s'.mgr.active.lookup id).map ActiveSession.core =
    (s.mgr.active.lookup id).map ActiveSession.core
  events : s'.events = s.events

namespace Calm

variable {s s' : State}

lemma isFinished_of (h : Assoc.Follows (fun _ a a' => a'.front = a.front) s.threads s'.threads)
    (hf : s'.isFinished e = true) : s.isFinished e = true := by
  simp only [State.isFinished, Option.any_eq_true] at hf ⊢
  obtain ⟨a', ha', hfin⟩ := hf
  obtain ⟨a, ha, hfront⟩ := h.source ha'
  exact ⟨a, ha, (congrArg Actor.isFinished hfront).symm.trans hfin⟩

lemma trans {u : State} (h : Calm s s') (h' : Calm s' u) : Calm s u where
  actors r e he := h.actors r e (h'.actors r e he)
  kept r e he := by
    rcases h.kept r e he with hk | hf
    · rcases h'.kept r e hk with hk | hf
      · exact .inl hk
      · exact .inr (isFinished_of h.threads hf)
    · exact .inr hf
  epoch := h'.epoch.trans h.epoch
  pending id p e hp he := h.pending id p e (h'.pending id p e hp he) he
  active id x hx := by
    obtain ⟨y, hy, hyx⟩ := h'.active id x hx
    obtain ⟨z, hz, hzy⟩ := h.active id y hy
    exact ⟨z, hz, hzy.trans hyx⟩
  threads := h.threads.trans h'.threads fun _ _ _ _ hf hf' => hf'.trans hf
  opens := h.opens.trans h'.opens fun _ _ _ _ => .trans
  ops := h.ops.trans h'.ops fun _ _ _ _ => .trans

lemma of_pending (hp : s'.mgr.pending = s.mgr.pending) (ho : s'.opens = s.opens)
    (hs : s'.threads = s.threads ∧ s'.ops = s.ops ∧ s'.mgr.nextActorEpoch = s.mgr.nextActorEpoch)
    (ha : ∀ r e, s'.mgr.actors.lookup r = some e → s.mgr.actors.lookup r = some e)
    (hk : ∀ r e, s.mgr.actors.lookup r = some e →
      s'.mgr.actors.lookup r = some e ∨ s.isFinished e = true)
    (hx : ∀ id x, s'.mgr.active.lookup id = some x → s.mgr.active.lookup id = some x) :
    Calm s s' where
  actors := ha
  kept := hk
  epoch := hs.2.2
  pending _ _ _ h _ := hp ▸ h
  active id x h := ⟨x, hx id x h, rfl⟩
  threads := .of_eq (fun _ _ => rfl) hs.1
  opens := .of_eq (fun _ => .refl False) ho
  ops := .of_eq (fun _ => .refl) hs.2.1

lemma kept_erase {r q : ResourceId} {k : ℕ} (hent : s.mgr.actors.lookup r = some k)
    (hfin : s.isFinished k = true) (e : ℕ) (h : s.mgr.actors.lookup q = some e) :
    (s.mgr.actors.erase r).lookup q = some e ∨ s.isFinished e = true := by
  rw [Assoc.lookup_erase_ite]
  split
  · rename_i hq
    rw [hq, hent] at h
    exact .inr (Option.some.inj h ▸ hfin)
  · exact .inl h

lemma retire (s : State) (r : ResourceId) (id : SessionId) : Calm s (s.retire r id) := by
  obtain ⟨hs, ha, hp, hx⟩ := retire_spec s r id
  have ho : (s.retire r id).opens = s.opens := by
    unfold State.retire
    split
    · rfl
    · dsimp only
      obtain ⟨events, he⟩ := publishClosed_eq { s with mgr := s.mgr.dropActive r id _ _ } r id _ _
      rw [he]
  refine .of_pending hp ho ⟨hs.threads, hs.ops, hs.epoch⟩ (fun _ _ h => ha ▸ h)
    (fun _ _ h => .inl (ha ▸ h)) fun j x h => ?_
  rw [hx] at h
  split at h
  · cases h
  · exact h

end Calm

namespace Quiet

variable {s s' : State} {id : SessionId} {t : OpenTask}

lemma of_mgr (hm : s'.mgr = s.mgr) (he : s'.events = s.events)
    (ht : Assoc.Follows (fun _ a a' => a'.front = a.front) s.threads s'.threads)
    (ho : Assoc.Follows (fun _ => OpenTask.Steady False) s.opens s'.opens)
    (hp : Assoc.Follows (fun _ => OpTask.Same) s.ops s'.ops) : Quiet s s' where
  toDwindles := .of_mgr hm
  threads := ht
  opens := ho
  ops := hp
  cores id := by rw [hm]
  events := he

lemma of_eq (hm : s'.mgr = s.mgr) (he : s'.events = s.events) (ht : s'.threads = s.threads)
    (ho : s'.opens = s.opens) (hp : s'.ops = s.ops) : Quiet s s' :=
  of_mgr hm he (.of_eq (fun _ _ => rfl) ht) (.of_eq (fun _ => .refl False) ho)
    (.of_eq (fun _ => .refl) hp)

lemma refl (s : State) : Quiet s s := of_eq rfl rfl rfl rfl rfl

lemma trans {u : State} (h : Quiet s s') (h' : Quiet s' u) : Quiet s u where
  toCalm := h.toCalm.trans h'.toCalm
  cores id := (h'.cores id).trans (h.cores id)
  events := h'.events.trans h.events

lemma flag (hf : ∀ t : OpenTask, t.Hears False (f t)) : Quiet s (s.modifyOpen id f) :=
  of_mgr rfl rfl (.of_eq (fun _ _ => rfl) rfl)
    (.modify (fun _ => .refl False) fun t _ => (hf t).steady) (.of_eq (fun _ => .refl) rfl)

lemma setThread {a' : Actor} (ha : s.threads.lookup e = some a) (hf : a'.front = a.front) :
    Quiet s (s.setThread e a') :=
  of_mgr rfl rfl (.insert (fun _ _ _ => rfl) ha hf) (.of_eq (fun _ => .refl False) rfl)
    (.of_eq (fun _ => .refl) rfl)

lemma setOp {k : ℕ} {t : OpTask} {pc : OpPc} (ht : s.ops.lookup k = some t)
    (hpc : ∀ x, pc.located = some x → t.pc.located = some x) : Quiet s (s.setOp k t pc) :=
  of_mgr rfl rfl (.of_eq (fun _ _ => rfl) rfl) (.of_eq (fun _ => .refl False) rfl)
    (.insert (fun _ t _ => .refl t) ht ⟨rfl, rfl, hpc⟩)

/-- One open goes on, and only its reservation may come or go with it. -/
lemma one (ho : s'.opens = Assoc.modify s.opens id f)
    (hm : s'.mgr.active = s.mgr.active ∧ s'.mgr.actors = s.mgr.actors ∧
      s'.mgr.nextActorEpoch = s.mgr.nextActorEpoch)
    (hp : ∀ j p, s'.mgr.pending.lookup j = some p →
      p.actorEpoch = none ∨ s.mgr.pending.lookup j = some p)
    (hs : s'.threads = s.threads ∧ s'.ops = s.ops ∧ s'.events = s.events)
    (hf : ∀ t, s.opens.lookup id = some t → t.Steady False (f t)) : Quiet s s' := by
  obtain ⟨hactive, hactors, hepoch⟩ := hm
  refine ⟨⟨⟨fun _ _ h => hactors ▸ h, fun _ _ h => .inl (hactors ▸ h), hepoch,
    fun j p e hj he => ?_, fun _ x h => ⟨x, hactive ▸ h, rfl⟩⟩, .of_eq (fun _ _ => rfl) hs.1, ?_,
    .of_eq (fun _ => .refl) hs.2.1⟩, fun _ => by rw [hactive], hs.2.2⟩
  · exact (hp j p hj).resolve_left (by simp [he])
  · rw [ho]
    exact .modify (fun _ => .refl False) hf

lemma advance (hf : ∀ t, s.opens.lookup id = some t → t.Steady False (f t)) :
    Quiet s (s.modifyOpen id f) :=
  .one rfl ⟨rfl, rfl, rfl⟩ (fun _ _ => .inr) ⟨rfl, rfl, rfl⟩ hf

lemma dropPending (hm : s'.mgr = s.mgr.dropPending id) (ho : s'.opens = Assoc.modify s.opens id f)
    (hs : s'.threads = s.threads ∧ s'.ops = s.ops ∧ s'.events = s.events)
    (hf : ∀ t : OpenTask, t.Steady False (f t)) : Quiet s s' := by
  obtain ⟨ha, hp, hc, hn⟩ := dropPending_fields s.mgr id
  rw [← hm] at ha hp hc hn
  refine .one ho ⟨ha, hc, hn⟩ (fun j p hj => .inr ?_) hs fun t _ => hf t
  rw [hp] at hj
  split at hj
  · cases hj
  · exact hj

lemma cancelPending (s : State) (id : SessionId) (done : Bool) :
    Quiet s (s.cancelPending id done) := by
  unfold State.cancelPending
  split
  · exact .refl s
  · exact .dropPending rfl rfl ⟨rfl, rfl, rfl⟩ fun _ =>
      OpenTask.Hears.steady ⟨rfl, rfl, rfl, rfl, .inl rfl⟩

lemma foldl_cancelPending (s : State) (done : Bool) (ids : List SessionId) :
    Quiet s (ids.foldl (fun s id => s.cancelPending id done) s) := by
  induction ids generalizing s with
  | nil => exact .refl s
  | cons id ids ih => exact (cancelPending s id done).trans (ih _)

end Quiet

/-! ### The pieces of a step -/

section Pieces

variable {s s' : State} {id : SessionId} {t : OpenTask}

/-- A reconciliation drops the actor, retires its sessions and cancels the opens that await it. -/
lemma reconcile_parts (s : State) (r : ResourceId) :
    ∃ (s₁ : State) (ids : List SessionId), Calm s s₁ ∧
      (s₁.mgr.active = s.mgr.active ∧ s₁.events = s.events) ∧
      Quiet (ids.foldl (fun s id => s.retire r id) s₁) (s.reconcileFinishedActor r) := by
  have hrefl : ∃ (s₁ : State) (ids : List SessionId), Calm s s₁ ∧
      (s₁.mgr.active = s.mgr.active ∧ s₁.events = s.events) ∧
      Quiet (ids.foldl (fun s id => s.retire r id) s₁) s :=
    ⟨s, [], (Quiet.refl s).toCalm, ⟨rfl, rfl⟩, .refl s⟩
  unfold State.reconcileFinishedActor
  split
  · exact hrefl
  split
  · exact hrefl
  · rename_i e he hfin
    have hcalm : Calm s { s with mgr := { s.mgr with actors := s.mgr.actors.erase r } } :=
      .of_pending rfl rfl ⟨rfl, rfl, rfl⟩ (fun _ _ h => (Assoc.of_lookup_erase h).2)
        (fun _ => Calm.kept_erase he (by simpa using hfin)) fun _ _ h => h
    exact ⟨_, _, hcalm, ⟨rfl, rfl⟩, .foldl_cancelPending _ true _⟩

lemma Reconciles.calm (h : Reconciles s s') : Calm s s' := by
  rcases h with rfl | ⟨r, rfl⟩
  · exact (Quiet.refl s').toCalm
  · obtain ⟨s₁, ids, h₁, -, h₂⟩ := reconcile_parts s r
    refine (h₁.trans ?_).trans h₂.toCalm
    clear h₁ h₂
    induction ids generalizing s₁ with
    | nil => exact (Quiet.refl s₁).toCalm
    | cons id ids ih => exact (Calm.retire s₁ r id).trans (ih _)

lemma quiet_setPc (s : State) (id : SessionId) (hl : pc.Lost) : Quiet s (s.setPc id pc) :=
  .advance fun _ _ => .leave ⟨rfl, rfl, rfl, rfl⟩ hl

lemma quiet_reserved (ht : s.opens.lookup id = some t) (hpc : t.pc = .discovering)
    (leases : CanLeaseTable) (v : CanReservation) :
    Quiet s (State.setPc { s with mgr := { s.mgr with
      leases, pending := s.mgr.pending.insert id ⟨v, none⟩ } } id .reserved) := by
  refine .one rfl ⟨rfl, rfl, rfl⟩ (fun j p hp => ?_) ⟨rfl, rfl, rfl⟩ fun u hu => ?_
  · rcases Assoc.of_lookup_insert hp with ⟨-, rfl⟩ | hp
    · exact .inl rfl
    · exact .inr hp
  · obtain rfl := Option.mem_unique ht hu
    exact ⟨rfl, rfl, rfl, .inl rfl, fun _ => by rw [hpc]; trivial, fun _ => by rw [hpc]; trivial,
      by simp, by simp⟩

lemma quiet_spoiled {err : HalError} (s : State) (id : SessionId) (e : ℕ)
    (leases : CanLeaseTable) :
    Quiet s (State.beginCleanup { s with mgr := { s.mgr with
      pending := s.mgr.pending.erase id, leases } } id e err) :=
  .one rfl ⟨rfl, rfl, rfl⟩ (fun _ _ hp => .inr (Assoc.of_lookup_erase hp).2) ⟨rfl, rfl, rfl⟩
    fun _ _ => .leave ⟨rfl, rfl, rfl, rfl⟩ fun h => h

lemma Removes.quiet {x : State × State.Removing} (h : Removes s id e x) : Quiet s x.1 := by
  cases h with
  | done => exact .flag fun _ => ⟨rfl, rfl, rfl, rfl, .inl rfl⟩
  | late | again => exact .refl s
  | queued ha => exact .setThread ha rfl

lemma quiet_dropGuard (s : State) (id : SessionId) (actor : Option ℕ) (hl : pc.Lost) :
    Quiet s (s.dropGuard id actor pc) := by
  cases actor <;> exact .dropPending rfl rfl ⟨rfl, rfl, rfl⟩ fun _ => .leave ⟨rfl, rfl, rfl, rfl⟩ hl

lemma Handed.quiet {token : LeaseToken} {x : ActiveSession} (h : Handed s id token x a) (n : ℕ)
    (parent : Option ℕ) : Quiet s (s.handClose n parent id token x a) := by
  have hq : Quiet s (s.setThread x.actorEpoch { a with
      cleanup := a.cleanup ++ [⟨id, false, some n⟩] }) := .setThread h.thread rfl
  refine hq.trans ⟨⟨⟨fun _ _ h => h, fun _ _ h => .inl h, rfl, fun _ _ _ h _ => h,
    fun j y hy => ?_⟩, .of_eq (fun _ _ => rfl) rfl, .of_eq (fun _ => .refl False) rfl,
    .of_eq (fun _ => .refl) rfl⟩, fun j => ?_, rfl⟩
  · rcases Assoc.of_lookup_insert hy with ⟨hj, rfl⟩ | hy
    · exact ⟨x, hj ▸ h.active, rfl⟩
    · exact ⟨y, hy, rfl⟩
  · simp only [State.handClose, State.setThread, Assoc.lookup_insert_ite]
    split
    · rename_i hj; rw [hj, h.active]; rfl
    · rfl

lemma calm_finishClose (s : State) (t : CloseTask) (closeFailed actorFinished : Bool) (n : ℕ)
    (pc : ClosePc) : Calm s ((s.finishClose t closeFailed actorFinished).setClose n t pc) := by
  cases hx : s.mgr.active.lookup t.session with
  | none =>
    rw [finishClose_none s hx]
    exact Quiet.toCalm (.of_eq rfl rfl rfl rfl rfl)
  | some x =>
    obtain ⟨events, actors, he, hcase⟩ := finishClose_eq s hx closeFailed actorFinished
    have hact : ∀ j y, (s.mgr.active.erase t.session).lookup j = some y →
        s.mgr.active.lookup j = some y := fun _ _ hy => (Assoc.of_lookup_erase hy).2
    rw [he]
    rcases hcase with rfl | ⟨-, hent, hfin, rfl⟩
    · exact .of_pending rfl rfl ⟨rfl, rfl, rfl⟩ (fun _ _ h => h) (fun _ _ h => .inl h) hact
    · exact .of_pending rfl rfl ⟨rfl, rfl, rfl⟩ (fun _ _ hr => (Assoc.of_lookup_erase hr).2)
        (fun _ => Calm.kept_erase hent hfin) hact

end Pieces

end CanManager

end RobotHal
