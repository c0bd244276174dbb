import RobotHal.TeardownSteps

/-!
What the USB and GPIO revocations reach.

They spawn the reaper of a session only when the loop comes to it, and leave the loop at the
first session that does not close. A session that nobody is bound to finish stays, so the
outcome is decided by the sessions in front of the last.
-/

namespace RobotHal.WorkerManager

variable {id : SessionId} {u : State} {x : Reaper} {m : ℕ} {t : RevokeTask} {p : OwnerId}
  {rest done : List Target} {e : Event} {cur : Target}
variable {id' : SessionId} {r : ResourceId} {k : LeaseToken} {ev : Event}

/-- The sessions a revocation still deals with. -/
def RevokePc.targets : RevokePc → List Target
  | .requesting _ all => all
  | .waiting cur rest _ | .finishing cur rest _ => cur :: rest
  | _ => []

/-- A session of the owner that nobody but revocation `n` could finish. -/
structure Forsaken (o : OwnerId) (n : ℕ) (s : State) (id : SessionId) : Prop where
  session : (s.sessions.lookup id).map Entry.owner = some o
  opened : ∀ t, s.opens.lookup id = some t → ¬t.pc.InFlight
  known : s.opens.lookup id ≠ none
  reaper : .session id ∉ s.reapers
  close : ∀ m t, s.closes.lookup m = some t → t.session = id → ¬t.pc.Pending
  revoke : ∀ m t, s.revokes.lookup m = some t → m ≠ n → ∀ x ∈ t.pc.targets, x.1 ≠ id

/-- What a step does not do: it finishes no forsaken session and gives it to nobody, it starts no
revocation of the owner and leaves revocation `n` where it is. -/
structure Kept (o : OwnerId) (n : ℕ) (s s' : State) : Prop where
  forsaken : ∀ id, Forsaken o n s id → Forsaken o n s' id
  owners : ∀ m t', s'.revokes.lookup m = some t' → t'.owner = o →
    ∃ t, s.revokes.lookup m = some t ∧ t.owner = o
  task : s'.revokes.lookup n = s.revokes.lookup n

namespace Kept

variable {o : OwnerId} {n : ℕ} {s s' s'' : State}

lemma trans (h : Kept o n s s') (h' : Kept o n s' s'') : Kept o n s s'' where
  forsaken id hf := h'.forsaken id (h.forsaken id hf)
  owners m t ht ho := by
    obtain ⟨t', ht', ho'⟩ := h'.owners m t ht ho
    exact h.owners m t' ht' ho'
  task := h'.task.trans h.task

lemma of_eq (hs : s'.sessions = s.sessions) (ho : s'.opens = s.opens)
    (hr : s'.reapers = s.reapers) (hc : s'.closes = s.closes) (hv : s'.revokes = s.revokes) :
    Kept o n s s' where
  forsaken id h := ⟨hs ▸ h.session, ho ▸ h.opened, ho ▸ h.known, hr ▸ h.reaper, hc ▸ h.close,
    hv ▸ h.revoke⟩
  owners m t ht hto := ⟨t, hv ▸ ht, hto⟩
  task := by rw [hv]

lemma refl (s : State) : Kept o n s s := of_eq rfl rfl rfl rfl rfl

lemma requestClose (s : State) (id : SessionId) : Kept o n s (s.requestClose id) := by
  unfold State.requestClose
  split
  · exact refl s
  · exact of_eq rfl rfl rfl rfl rfl

end Kept

section Blocks

variable {o : OwnerId} {n : ℕ} {s : State}

lemma Forsaken.ne_of_inFlight {t : OpenTask} (h : Forsaken o n s id)
    (ht : s.opens.lookup id' = some t) (hf : t.pc.InFlight) : id ≠ id' := by
  rintro rfl
  exact h.opened t ht hf

lemma Kept.openCall (hn : s.opens.lookup id = none) (t : OpenTask) :
    Kept o n s { s with opens := s.opens.insert id t } where
  forsaken id' h := by
    have hne : id' ≠ id := by
      rintro rfl
      exact h.known hn
    refine ⟨h.session, ?_, ?_, h.reaper, h.close, h.revoke⟩
    · simpa [Assoc.lookup_insert_ite, hne] using h.opened
    · simpa [Assoc.lookup_insert_ite, hne] using h.known
  owners m t ht hto := ⟨t, ht, hto⟩
  task := rfl

lemma Kept.setOpen (hu : Kept o n s u) {t : OpenTask} (ht : s.opens.lookup id = some t)
    (hf : t.pc.InFlight) (pc : OpenPc) :
    Kept o n s (u.setOpen id t pc) where
  forsaken id' h := by
    have hne : id' ≠ id := h.ne_of_inFlight ht hf
    have h' := hu.forsaken id' h
    refine ⟨h'.session, ?_, ?_, h'.reaper, h'.close, h'.revoke⟩
    · simpa [State.setOpen, Assoc.lookup_insert_ite, hne] using h'.opened
    · simpa [State.setOpen, Assoc.lookup_insert_ite, hne] using h'.known
  owners := hu.owners
  task := hu.task

lemma Kept.enter (hne : ∀ id', Forsaken o n s id' → id' ≠ id) (e : Entry) :
    Kept o n s { s with sessions := s.sessions.insert id e } where
  forsaken id' h := by
    refine ⟨?_, h.opened, h.known, h.reaper, h.close, h.revoke⟩
    simpa [Assoc.lookup_insert_ite, hne id' h] using h.session
  owners m t ht hto := ⟨t, ht, hto⟩
  task := rfl

lemma Forsaken.finishSession (h : Forsaken o n s id) (hne : id ≠ id') :
    Forsaken o n (s.finishSession id') id := by
  unfold State.finishSession
  split
  · exact h
  · refine ⟨?_, h.opened, h.known, h.reaper, h.close, h.revoke⟩
    simpa [Assoc.lookup_erase_ite, hne] using h.session

lemma Kept.finishSession (hne : ∀ id', Forsaken o n s id' → id' ≠ id) :
    Kept o n s (s.finishSession id) where
  forsaken id' h := h.finishSession (hne id' h)
  owners m t ht hto := ⟨t, by rwa [revokes_finishSession] at ht, hto⟩
  task := by rw [revokes_finishSession]

lemma Forsaken.spawn (h : Forsaken o n s id) (hx : x ≠ .session id) :
    Forsaken o n (s.spawn x) id := by
  refine ⟨h.session, h.opened, h.known, fun hm => ?_, h.close, h.revoke⟩
  rcases List.mem_append.mp hm with hm | hm
  · exact h.reaper hm
  · exact hx (List.mem_singleton.mp hm).symm

lemma Kept.spawn (hne : ∀ id, Forsaken o n s id → x ≠ .session id) :
    Kept o n s (s.spawn x) where
  forsaken id h := h.spawn (hne id h)
  owners _ t ht hto := ⟨t, ht, hto⟩
  task := rfl

lemma Kept.setClose {t : CloseTask} (hp : ∀ id, Forsaken o n s id → t.session ≠ id) (pc : ClosePc) :
    Kept o n s (s.setClose m t pc) where
  forsaken id h := by
    refine ⟨h.session, h.opened, h.known, h.reaper, fun m' t' ht' hid => ?_, h.revoke⟩
    rcases Assoc.of_lookup_insert ht' with ⟨-, rfl⟩ | ht'
    · exact absurd hid (hp id h)
    · exact h.close m' t' ht' hid
  owners m t ht hto := ⟨t, ht, hto⟩
  task := rfl

lemma Kept.setRevoke {pc : RevokePc} (hm : m ≠ n)
    (ht : t.owner = o → (s.revokes.lookup m).map RevokeTask.owner = some o)
    (hp : ∀ id, Forsaken o n s id → ∀ x ∈ pc.targets, x.1 ≠ id) :
    Kept o n s (s.setRevoke m t pc) where
  forsaken id h := by
    refine ⟨h.session, h.opened, h.known, h.reaper, h.close, fun m' t' ht' hne => ?_⟩
    rcases Assoc.of_lookup_insert ht' with ⟨-, rfl⟩ | ht'
    · exact hp id h
    · exact h.revoke m' t' ht' hne
  owners m' t' ht' hto := by
    rcases Assoc.of_lookup_insert ht' with ⟨rfl, rfl⟩ | ht'
    · simpa using ht hto
    · exact ⟨t', ht', hto⟩
  task := by simp [State.setRevoke, hm.symm]

end Blocks

section Steps

variable {c : Config} {o : OwnerId} {n : ℕ} {s s' : State}

lemma kept_handed (hu : Kept o n s u) {t : OpenTask} (ht : s.opens.lookup id = some t)
    (hf : t.pc.InFlight) (k : LeaseToken) (pc : OpenPc) :
    Kept o n s (((u.requestClose id).spawn (.reservation t.resource id k)).setOpen id t pc) := by
  refine .setOpen ((hu.trans (.requestClose u id)).trans (.spawn ?_)) ht hf pc
  exact fun _ _ => nofun

lemma kept_entered (ht : s.opens.lookup id = some ⟨p, r, .committing k⟩) :
    Kept o n s { s with
      leases := (s.leases.commit r id k).1
      sessions := s.sessions.insert id ⟨r, p, k, .active⟩ } := by
  refine .trans (.enter (fun id' hf => hf.ne_of_inFlight ht trivial) ⟨r, p, k, .active⟩) ?_
  exact .of_eq rfl rfl rfl rfl rfl

lemma kept_attended (ht : s.opens.lookup id = some ⟨p, r, .committing k⟩) :
    Kept o n s ((s.enter id p r k).spawn (.session id)) := by
  refine Kept.setOpen ((kept_entered ht).trans (.spawn (x := .session id) fun id' hf => ?_))
    ht trivial _
  have hid : id' ≠ id := hf.ne_of_inFlight ht trivial
  simpa using hid.symm

lemma kept_looked (h : Looked s id s') (hne : ∀ id', Forsaken o n s id' → id' ≠ id) :
    Kept o n s s' := by
  cases h with
  | kept => exact .refl s
  | buried => exact .finishSession hne

lemma closes_finishSession (s : State) (id : SessionId) :
    (s.finishSession id).closes = s.closes := by
  unfold State.finishSession
  split <;> rfl

lemma Looked.closes (h : Looked s id s') : s'.closes = s.closes := by
  cases h with
  | kept => rfl
  | buried => exact closes_finishSession s id

lemma Forsaken.ne_of_pending (h : Forsaken o n s id) {t : CloseTask}
    (ht : s.closes.lookup m = some t) (hp : t.pc.Pending) : t.session ≠ id :=
  fun hid => h.close m t ht hid hp

lemma kept_beginClose (hu : Kept o n s u) {t : CloseTask}
    (hne : ∀ id, Forsaken o n u id → t.session ≠ id) (m : ℕ) (r : ResourceId) :
    Kept o n s (u.beginClose m t r) := by
  have hs : Kept o n u ((u.requestClose t.session).spawn (.session t.session)) := by
    unfold State.requestClose
    split
    · exact .spawn fun id h => by simpa using hne id h
    · refine .trans (.spawn (x := .session t.session) fun id h => ?_) (.of_eq rfl rfl rfl rfl rfl)
      simpa using hne id h
  refine hu.trans (hs.trans (.setClose (fun id h hid => h.reaper ?_) _))
  exact List.mem_append_right _ (by simp [hid])

lemma Kept.erase (s : State) (x : Reaper) :
    Kept o n s { s with reapers := s.reapers.erase x } where
  forsaken _ h := ⟨h.session, h.opened, h.known, fun hx => h.reaper (List.mem_of_mem_erase hx),
    h.close, h.revoke⟩
  owners _ t ht hto := ⟨t, ht, hto⟩
  task := rfl

lemma kept_reap (hx : x ∈ s.reapers) :
    Kept o n s { s.reapWith c x with reapers := s.reapers.erase x } := by
  cases x with
  | session id =>
    have hf : Kept o n s (s.finishSession id) := by
      refine .finishSession fun id' hf hid => hf.reaper ?_
      rw [hid]; exact hx
    have := hf.trans (.erase (s.finishSession id) (.session id))
    rw [reapers_finishSession] at this
    exact this
  | reservation r id k =>
    refine .trans (.erase s (.reservation r id k)) ?_
    exact .of_eq rfl rfl rfl rfl rfl

/-! ### Other revocations -/

lemma Forsaken.of_spawn (h : Forsaken o n (s.spawn x) id) : Forsaken o n s id :=
  ⟨h.session, h.opened, h.known, fun hx => h.reaper (List.mem_append_left _ hx), h.close, h.revoke⟩

lemma kept_revokeNext (hu : Kept o n s u) (hm : m ≠ n) (hto : t.owner ≠ o) (err : Option HalError)
    (hne : ∀ id, Forsaken o n u id → ∀ x ∈ rest, x.1 ≠ id) :
    Kept o n s (u.revokeNext c m t rest err) := by
  unfold State.revokeNext
  split
  · -- it was the last target
    exact hu.trans (.setRevoke hm (absurd · hto) fun _ _ => nofun)
  · rename_i cur rest
    simp only
    split
    · exact hu.trans (.setRevoke hm (absurd · hto) hne)
    · have hs : Kept o n u (u.spawn (.session cur.1)) :=
        .spawn fun id hf => by simpa using hne id hf cur (by simp)
      exact hu.trans (hs.trans (.setRevoke hm (absurd · hto) fun id hf => hne id hf.of_spawn))

lemma Kept.spawnAll {l : List Target} (hne : ∀ id, Forsaken o n s id → ∀ x ∈ l, x.1 ≠ id) :
    Kept o n s
      { s with reapers := s.reapers ++ l.map fun x : Target => Reaper.session x.1 } where
  forsaken id h := by
    refine ⟨h.session, h.opened, h.known, fun hx => ?_, h.close, h.revoke⟩
    rcases List.mem_append.mp hx with hx | hx
    · exact h.reaper hx
    · obtain ⟨x, hx, hid⟩ := List.mem_map.mp hx
      exact hne id h x hx (Reaper.session.inj hid)
  owners _ t ht hto := ⟨t, ht, hto⟩
  task := rfl

lemma kept_requestNext (hu : Kept o n s u) (hm : m ≠ n) (hto : t.owner ≠ o) {todo all : List Target}
    (hne : ∀ id, Forsaken o n u id → ∀ x ∈ all, x.1 ≠ id) :
    Kept o n s (u.requestNext c m t todo all) := by
  unfold State.requestNext
  split
  · -- all of them were asked to close
    refine kept_revokeNext (hu.trans (.spawnAll hne)) hm hto none fun id hf x hx hid => ?_
    refine hf.reaper (List.mem_append_right _ (List.mem_map.mpr ⟨x, hx, ?_⟩))
    rw [hid]
  · exact hu.trans (.setRevoke hm (absurd · hto) hne)

lemma kept_requestAll (s : State) (l : List Target) :
    Kept o n s (l.foldl (fun s x => s.requestClose x.1) s) := by
  induction l generalizing s with
  | nil => exact .refl s
  | cons x l ih => exact .trans (.requestClose s x.1) (ih _)

lemma sessions_requestAll (s : State) (l : List Target) :
    (l.foldl (fun s x => s.requestClose x.1) s).sessions = s.sessions := by
  induction l generalizing s with
  | nil => rfl
  | cons x l ih =>
    rw [List.foldl_cons, ih]
    unfold State.requestClose
    split <;> rfl

lemma Forsaken.ne_of_listed {c : Config} (hf : Forsaken o n s' id) (hs : s'.sessions = s.sessions)
    (hp : p ≠ o) {order : List Target} (hperm : order.Perm (s.ownedBy p)) {x : Target}
    (hx : x ∈ order) : x.1 ≠ id := by
  rintro rfl
  obtain ⟨e, he, hxe⟩ := Option.map_eq_some_iff.mp
    ((mem_ownedBy (c := c)).mp (hperm.mem_iff.mp hx))
  have hown := hf.session
  simp only [hs, he, Option.map_some, Option.some.injEq] at hown
  exact hp ((Prod.mk.inj hxe).2.symm.trans hown)

lemma revokes_requestClose (s : State) (id : SessionId) :
    (s.requestClose id).revokes = s.revokes := by
  unfold State.requestClose
  split <;> rfl

lemma kept_revokeFailed (hm : m ≠ n) (hto : t.owner ≠ o)
    (hne : ∀ id, Forsaken o n s id → ∀ x ∈ rest, x.1 ≠ id) (err : Option HalError) (e : HalError) :
    Kept o n s (s.revokeFailed c m t rest err e) := by
  unfold State.revokeFailed
  split
  · exact kept_revokeNext (.refl s) hm hto _ hne
  · exact .setRevoke hm (absurd · hto) fun _ _ => nofun

end Steps

/-- Nothing is opened for the owner any more, no call names one of its sessions and nobody else
revokes it. What revocation `n` gets to see of a session's close is `out`: its result, or nothing
before the deadline. -/
def Undisturbed (o : OwnerId) (n : ℕ) (out : SessionId → Option (HalResult Unit)) (s : State) :
    Event → Prop
  | .openCall _ p _ | .revokeCall _ p => p ≠ o
  | .operate id _ _ | .closeCall _ id _ => (s.sessions.lookup id).map Entry.owner ≠ some o
  | .revokeCompleted m => m = n → ∀ t ∈ s.revokes.lookup n, ∀ x ∈ t.pc.waitsFor,
      s.completion x.1.1 = out x.1.1
  | .revokeDeadline m => m = n → ∀ t ∈ s.revokes.lookup n, ∀ x ∈ t.pc.waitsFor,
      out x.1.1 = none
  | _ => True

instance (o : OwnerId) (n : ℕ) (out : SessionId → Option (HalResult Unit)) (s : State) :
    DecidablePred (Undisturbed o n out s) := fun e => by
  apply Event.casesOn (motive := fun e => Decidable (Undisturbed o n out s e)) e <;> intros <;>
    dsimp only [Undisturbed] <;> infer_instance

section Course

variable {c : Config} {o : OwnerId} {n : ℕ} {out : SessionId → Option (HalResult Unit)}
  {s s' : State} {order : List Target}

/-- The only revocation of the owner is `n`. -/
def Sole (o : OwnerId) (n : ℕ) (s : State) : Prop :=
  s.revokes.lookup n ≠ none ∧ ∀ m t, s.revokes.lookup m = some t → t.owner = o → m = n

/-- **A step of anybody but revocation `n`** leaves the forsaken sessions alone. -/
lemma kept_step (h : step c s e = some s') (hu : Undisturbed o n out s e) (hsole : Sole o n s)
    (he : e.revocation ≠ some n) : Kept o n s s' := by
  have hne : ∀ {id}, (s.sessions.lookup id).map Entry.owner ≠ some o →
      ∀ id', Forsaken o n s id' → id' ≠ id := by
    rintro id hid id' hf rfl
    exact hid hf.session
  have hother : ∀ {m}, some m ≠ some n →
      m ≠ n ∧ ∀ t, s.revokes.lookup m = some t → t.owner ≠ o := by
    intro m hm
    have hm : m ≠ n := fun h => hm (congrArg some h)
    exact ⟨hm, fun t ht ho => hm (hsole.2 m t ht ho)⟩
  cases step_did h with
  | openCall hn => exact .openCall hn _
  | @moved _ _ t _ _ ht hgo =>
    refine .setOpen (.refl s) ht ?_ _
    obtain ⟨p, r, pc⟩ := t
    cases hgo <;> trivial
  | refused ht | reserved ht | unspawned ht | gaveBack ht | cancelling ht =>
    refine .setOpen ?_ ht trivial _
    exact .of_eq rfl rfl rfl rfl rfl
  | handed _ ht hh =>
    refine kept_handed ?_ ht hh.inFlight _ _
    exact .of_eq rfl rfl rfl rfl rfl
  | committed ht => exact .setOpen (kept_entered ht) ht trivial _
  | attended ht => exact kept_attended ht
  | dropOpen ht hf =>
    refine .setOpen ?_ ht hf _
    exact .of_eq rfl rfl rfl rfl rfl
  | operate hl => exact kept_looked hl (hne hu)
  | closeCall => exact Kept.setClose (t := ⟨_, _, .locking⟩) (fun id hf => (hne hu id hf).symm) _
  | closeMoved _ ht hp hl =>
    refine (kept_looked hl fun id hf => (hf.ne_of_pending ht hp).symm).trans
      (.setClose (fun id hf => ?_) _)
    exact hf.ne_of_pending (hl.closes ▸ ht) hp
  | begun _ ht hp hl =>
    refine kept_beginClose (kept_looked hl fun id hf => (hf.ne_of_pending ht hp).symm)
      (fun id hf => ?_) _ _
    exact hf.ne_of_pending (hl.closes ▸ ht) hp
  | @marked m t _ ht hp =>
    refine kept_beginClose (.enter (fun id hf => (hf.ne_of_pending ht hp).symm) _)
      (fun id hf => ?_) _ _
    exact hf.ne_of_pending (m := m) ht hp
  | @closeFinish m t _ ht hpc =>
    have hp : t.pc.Pending := by rw [hpc]; trivial
    refine .trans (.finishSession fun id hf => (hf.ne_of_pending ht hp).symm)
      (.setClose (fun id hf => ?_) _)
    exact hf.ne_of_pending (m := m) (by rw [closes_finishSession, ht]) hp
  | @revokeCall m p hn =>
    have hm : m ≠ n := by
      rintro rfl
      exact hsole.1 hn
    have hset : Kept o n s (s.setRevoke m ⟨p, .locking⟩ .locking) :=
      .setRevoke hm (absurd · hu) fun _ _ => nofun
    exact hset
  | @listed _ _ order _ ht hperm =>
    obtain ⟨hm, hp⟩ := hother he
    refine kept_revokeNext (kept_requestAll s order) hm (hp _ ht) none fun id hf x hx => ?_
    exact hf.ne_of_listed (c := c) (sessions_requestAll s order) (hp _ ht) hperm hx
  | asking _ ht hperm =>
    obtain ⟨hm, hp⟩ := hother he
    refine kept_requestNext (.refl s) hm (hp _ ht) fun id hf x hx => ?_
    exact hf.ne_of_listed (c := c) rfl (hp _ ht) hperm hx
  | @asked m _ cur _ _ ht =>
    obtain ⟨hm, hp⟩ := hother he
    refine kept_requestNext (.requestClose s cur.1) hm (hp _ ht) fun id hf x hx => ?_
    have ht' := (congrArg _ (revokes_requestClose s cur.1)).trans ht
    exact hf.revoke m _ ht' hm x hx
  | completed ht =>
    obtain ⟨hm, hp⟩ := hother he
    exact .setRevoke hm (absurd · (hp _ ht)) fun id hf => hf.revoke _ _ ht hm
  | failed ht | expired ht =>
    obtain ⟨hm, hp⟩ := hother he
    refine kept_revokeFailed hm (hp _ ht) (fun id hf x hx => ?_) _ _
    exact hf.revoke _ _ ht hm x (.tail _ hx)
  | @revokeFinish m _ cur rest err ht =>
    obtain ⟨hm, hp⟩ := hother he
    have hf : Kept o n s (s.finishSession cur.1) :=
      .finishSession fun id hf => (hf.revoke m _ ht hm cur (.head _)).symm
    refine kept_revokeNext hf hm (hp _ ht) err fun id hf x hx => ?_
    have ht' := (congrArg _ (revokes_finishSession s cur.1)).trans ht
    exact hf.revoke m _ ht' hm x (.tail _ hx)
  | worker => exact .of_eq rfl rfl rfl rfl rfl
  | reaped hx => exact kept_reap hx

/-- How far the loop of revocation `n` over `order` has come: everything before the session it is
at closed well, and those after it are forsaken. -/
inductive Course (o : OwnerId) (n : ℕ) (out : SessionId → Option (HalResult Unit))
    (order : List Target) (s : State) : Prop
  | waiting (done rest : List Target) (cur : Target) (err : Option HalError)
      (hpc : s.revokes.lookup n = some ⟨o, .waiting cur rest err⟩)
      (ho : order = done ++ cur :: rest) (hd : ∀ x ∈ done, out x.1 = some (.ok ()))
      (hf : ∀ x ∈ rest, Forsaken o n s x.1)
  | finishing (done rest : List Target) (cur : Target) (err : Option HalError)
      (hpc : s.revokes.lookup n = some ⟨o, .finishing cur rest err⟩)
      (ho : order = done ++ cur :: rest) (hd : ∀ x ∈ done, out x.1 = some (.ok ()))
      (hcur : out cur.1 = some (.ok ())) (hf : ∀ x ∈ rest, Forsaken o n s x.1)
  | returned (res : HalResult Unit) (hpc : s.revokes.lookup n = some ⟨o, .returned res⟩)
      (hd : ∀ x ∈ order.dropLast, out x.1 = some (.ok ()))
  | stopped (res : HalResult Unit) (hpc : s.revokes.lookup n = some ⟨o, .returned res⟩)
      (x : Target) (hx : x ∈ order.dropLast) (hout : out x.1 ≠ some (.ok ())) (y : SessionId)
      (hf : Forsaken o n s y)

lemma Course.kept (h : Course o n out order s) (hk : Kept o n s s') :
    Course o n out order s' := by
  cases h with
  | waiting done rest cur err hpc ho hd hf =>
    exact .waiting done rest cur err (hk.task.trans hpc) ho hd fun x hx => hk.forsaken _ (hf x hx)
  | finishing done rest cur err hpc ho hd hcur hf =>
    exact .finishing done rest cur err (hk.task.trans hpc) ho hd hcur
      fun x hx => hk.forsaken _ (hf x hx)
  | returned res hpc hd => exact .returned res (hk.task.trans hpc) hd
  | stopped res hpc x hx hout y hf =>
    exact .stopped res (hk.task.trans hpc) x hx hout y (hk.forsaken y hf)

lemma Course.of_waiting {err : Option HalError} (h : Course o n out order s)
    (ht : s.revokes.lookup n = some ⟨p, .waiting cur rest err⟩) :
    p = o ∧ ∃ done, order = done ++ cur :: rest ∧ (∀ x ∈ done, out x.1 = some (.ok ())) ∧
      ∀ x ∈ rest, Forsaken o n s x.1 := by
  cases h with
  | waiting done rest' cur' err' hpc ho hd hf =>
    obtain ⟨⟩ := Option.mem_unique ht hpc
    exact ⟨rfl, done, ho, hd, hf⟩
  | finishing _ _ _ _ hpc | returned _ hpc | stopped _ hpc => cases ht.symm.trans hpc

lemma Forsaken.setRevoke (h : Forsaken o n s id) (t : RevokeTask) (pc : RevokePc) :
    Forsaken o n (s.setRevoke n t pc) id := by
  refine ⟨h.session, h.opened, h.known, h.reaper, h.close, fun m u hu hm => ?_⟩
  simp only [State.setRevoke, Assoc.lookup_insert_ite, if_neg hm] at hu
  exact h.revoke m u hu hm

lemma ne_of_split (hnd : (order.map Prod.fst).Nodup) {x : Target} (ho : order = done ++ cur :: rest)
    (hx : x ∈ rest) : x.1 ≠ cur.1 := by
  intro hid
  rw [ho, List.map_append, List.map_cons] at hnd
  have hcur := (List.nodup_cons.mp (List.nodup_append.mp hnd).2.1).1
  exact hcur (hid ▸ List.mem_map_of_mem hx)

lemma course_revokeNext (hk : c.kind ≠ .camera) (hnd : (order.map Prod.fst).Nodup)
    (ho : order = done ++ rest) (hd : ∀ x ∈ done, out x.1 = some (.ok ()))
    (hf : ∀ x ∈ rest, Forsaken o n s x.1) (hto : t.owner = o) (err : Option HalError) :
    Course o n out order (s.revokeNext c n t rest err) := by
  unfold State.revokeNext
  split
  · refine .returned _ (by simp [State.setRevoke, hto]; rfl) fun x hx => hd x ?_
    have := List.dropLast_subset _ hx
    simpa [ho] using this
  · rename_i cur rest
    simp only [if_neg hk]
    refine .waiting done rest cur err (by simp [State.setRevoke, hto]) ho hd fun x hx => ?_
    refine .setRevoke ((hf x (.tail _ hx)).spawn fun hid => ?_) t _
    exact ne_of_split hnd ho hx (Reaper.session.inj hid).symm

lemma course_failed (ho : order = done ++ cur :: rest) (hd : ∀ x ∈ done, out x.1 = some (.ok ()))
    (hf : ∀ x ∈ rest, Forsaken o n s x.1) (hcur : out cur.1 ≠ some (.ok ())) (hto : t.owner = o)
    (res : HalResult Unit) : Course o n out order (s.setRevoke n t (.returned res)) := by
  have hpc : (s.setRevoke n t (.returned res)).revokes.lookup n = some ⟨o, .returned res⟩ := by
    simp [State.setRevoke, hto]
  cases rest with
  | nil =>
    refine .returned res hpc fun x hx => hd x ?_
    simpa [ho] using hx
  | cons y rest =>
    refine .stopped res hpc cur ?_ hcur y.1 ((hf y (.head _)).setRevoke t _)
    rw [ho, List.dropLast_append_of_ne_nil (by simp)]
    simp

/-- **A step of revocation `n`** takes its loop on. -/
lemma course_own (hk : c.kind ≠ .camera) (hnd : (order.map Prod.fst).Nodup)
    (h : step c s e = some s') (hu : Undisturbed o n out s e) (he : e.revocation = some n)
    (hc : Course o n out order s) : Course o n out order s' := by
  have hfailed : ∀ {t rest err e}, s.revokeFailed c n t rest err e =
      s.setRevoke n t (.returned (.error e)) := by
    intro t rest err e
    unfold State.revokeFailed
    split
    · exact absurd ‹_› hk
    · rfl
  cases step_did h with
  | moved hev | handed hev => rw [hev] at he; cases he
  | closeMoved hev | begun hev => rw [hev] at he; cases he
  | listed _ ht | asking _ ht | asked ht =>
    cases he
    cases hc with
    | waiting _ _ _ _ hpc | finishing _ _ _ _ hpc | returned _ hpc | stopped _ hpc =>
      cases ht.symm.trans hpc
  | @completed _ _ cur rest err ht hres =>
    cases he
    obtain ⟨rfl, done, ho, hd, hf⟩ := hc.of_waiting ht
    refine .finishing done rest cur err (by simp [State.setRevoke]) ho hd ?_
      fun x hx => (hf x hx).setRevoke _ _
    rw [← hu rfl _ ht (cur, rest) rfl, hres]
  | @failed _ _ cur rest _ _ _ ht hres =>
    cases he
    obtain ⟨rfl, done, ho, hd, hf⟩ := hc.of_waiting ht
    rw [hfailed]
    refine course_failed ho hd hf ?_ rfl _
    rw [← hu rfl _ ht (cur, rest) rfl, hres]; simp
  | @expired _ _ cur rest _ _ ht =>
    cases he
    obtain ⟨rfl, done, ho, hd, hf⟩ := hc.of_waiting ht
    rw [hfailed]
    refine course_failed ho hd hf ?_ rfl _
    rw [hu rfl _ ht (cur, rest) rfl]; simp
  | @revokeFinish _ _ cur rest err ht =>
    cases he
    cases hc with
    | finishing done _ _ _ hpc ho hd hcur hf =>
      obtain ⟨⟩ := Option.mem_unique ht hpc
      have ho' : order = (done ++ [cur]) ++ rest := by simp [ho]
      refine course_revokeNext hk hnd ho' ?_ ?_ (t := ⟨o, .finishing cur rest err⟩) rfl err
      · intro x hx
        rcases List.mem_append.mp hx with hx | hx
        · exact hd x hx
        · rw [List.mem_singleton.mp hx, hcur]
      · exact fun x hx => (hf x hx).finishSession (ne_of_split hnd ho hx)
    | waiting _ _ _ _ hpc | returned _ hpc | stopped _ hpc => cases ht.symm.trans hpc
  | _ => cases he

/-- The owner has committed sessions only: none of its opens is in flight, and nobody is bound to
finish one of its sessions. -/
@[mk_iff]
structure Settled (o : OwnerId) (n : ℕ) (s : State) : Prop where
  opens : ∀ id t, s.opens.lookup id = some t → t.owner = o → ¬t.pc.InFlight
  sessions : ∀ id e, s.sessions.lookup id = some e → e.owner = o →
    .session id ∉ s.reapers ∧
    (∀ m t, s.closes.lookup m = some t → t.session = id → ¬t.pc.Pending) ∧
    ∀ m t, s.revokes.lookup m = some t → m ≠ n → ∀ x ∈ t.pc.targets, x.1 ≠ id
  sole : ∀ m t, s.revokes.lookup m = some t → t.owner = o → m = n

/-- What is true while revocation `n` runs. As long as all closes that matter go well, the duties
of an orderly teardown are kept. -/
structure Revoking (c : Config) (o : OwnerId) (n : ℕ) (out : SessionId → Option (HalResult Unit))
    (order : List Target) (s : State) : Prop where
  course : Course o n out order s
  sole : Sole o n s
  inv : (∀ x ∈ order.dropLast, out x.1 = some (.ok ())) → Inv o (s.view c.kind)

lemma Course.task (h : Course o n out order s) :
    ∃ pc, s.revokes.lookup n = some ⟨o, pc⟩ ∧ pc ≠ .locking := by
  cases h with
  | waiting done rest cur err hpc | finishing done rest cur err hpc | returned res hpc
  | stopped res hpc => exact ⟨_, hpc, nofun⟩

lemma Course.revoked (h : Course o n out order s) : (s.view c.kind).Revoked o := by
  obtain ⟨pc, hpc, hl⟩ := h.task
  exact ⟨n, _, view_revoke hpc, rfl, by simpa [RevokeTask.duty] using hl⟩

lemma revoking_inOrder (h : step c s e = some s') (hu : Undisturbed o n out s e)
    (hr : Revoking c o n out order s) : InOrder o s e := by
  cases e with
  | openCall id p r => exact fun hp => absurd hp hu
  | revokeSnapshot m l =>
    -- the owner's only revocation has listed its sessions already
    intro hm
    obtain ⟨t, ht, hto⟩ := Option.map_eq_some_iff.mp hm
    obtain rfl := hr.sole.2 m t ht hto
    obtain ⟨pc, hpc, hl⟩ := hr.course.task
    cases pc with
    | locking => exact absurd rfl hl
    | _ => simp [step, State.revokeSnapshot, hpc] at h
  | _ => trivial

lemma revoking_clean (hu : Undisturbed o n out s e) (hr : Revoking c o n out order s)
    (hok : ∀ x ∈ order.dropLast, out x.1 = some (.ok ())) : Clean c o s e := by
  -- a session that did not close well is the last one
  have hlast : ∀ {m t x}, s.revokes.lookup m = some t → t.owner = o → x ∈ t.pc.waitsFor →
      m = n ∧ (out x.1.1 = some (.ok ()) ∨ x.2 = []) := by
    rintro m t ⟨cur, rest⟩ ht hto hx
    obtain rfl := hr.sole.2 m t ht hto
    refine ⟨rfl, ?_⟩
    obtain ⟨p, pc⟩ := t
    cases pc with
    | waiting cur' rest' err =>
      obtain ⟨rfl, rfl⟩ := Prod.mk.inj (Option.some.inj hx)
      obtain ⟨-, done, ho, -⟩ := hr.course.of_waiting ht
      cases rest' with
      | nil => exact .inr rfl
      | cons y rest =>
        refine .inl (hok _ ?_)
        rw [ho, List.dropLast_append_of_ne_nil (by simp)]
        simp
    | _ => cases hx
  cases e with
  | dropOpen id =>
    intro t ht hto hh
    exact ((hr.inv hok).doomed hr.course.revoked).1 id t ht hto hh.inFlight
  | revokeCompleted m =>
    intro _ t ht hto x hx
    obtain ⟨rfl, h⟩ := hlast ht hto hx
    rw [hu rfl t ht x hx]
    exact h.imp_right fun h => by simp [h]
  | revokeDeadline m =>
    intro _ t ht hto x hx
    obtain ⟨rfl, h⟩ := hlast ht hto hx
    rw [h.resolve_left (by rw [hu rfl t ht x hx]; nofun)]
    nofun
  | _ => trivial

lemma Sole.kept (h : Sole o n s) (hk : Kept o n s s') : Sole o n s' := by
  refine ⟨hk.task ▸ h.1, fun m t ht hto => ?_⟩
  obtain ⟨t', ht', hto'⟩ := hk.owners m t ht hto
  exact h.2 m t' ht' hto'

lemma revokes_requestAll (s : State) (l : List Target) :
    (l.foldl (fun s x => s.requestClose x.1) s).revokes = s.revokes := by
  induction l generalizing s with
  | nil => rfl
  | cons x l ih => rw [List.foldl_cons, ih, revokes_requestClose]

lemma lookup_revokeNext (hm : m ≠ n) (s : State) (t : RevokeTask) (rest : List Target)
    (err : Option HalError) :
    (s.revokeNext c n t rest err).revokes.lookup m = s.revokes.lookup m := by
  unfold State.revokeNext
  split
  · exact AList.lookup_insert_ne hm
  · refine (AList.lookup_insert_ne hm).trans ?_
    split <;> rfl

lemma lookup_requestNext (hm : m ≠ n) (s : State) (t : RevokeTask) (todo all : List Target) :
    (s.requestNext c n t todo all).revokes.lookup m = s.revokes.lookup m := by
  unfold State.requestNext
  split
  · exact lookup_revokeNext hm _ t all none
  · exact AList.lookup_insert_ne hm

lemma lookup_own (h : step c s e = some s') (he : e.revocation = some n) (hm : m ≠ n) :
    s'.revokes.lookup m = s.revokes.lookup m := by
  have hfailed : ∀ (t : RevokeTask) (rest : List Target) (err : Option HalError) (x : HalError),
      (s.revokeFailed c n t rest err x).revokes.lookup m = s.revokes.lookup m := by
    intro t rest err x
    unfold State.revokeFailed
    split
    · exact lookup_revokeNext hm s _ _ _
    · exact AList.lookup_insert_ne hm
  cases step_did h with
  | moved hev | handed hev => rw [hev] at he; cases he
  | closeMoved hev | begun hev => rw [hev] at he; cases he
  | listed =>
    cases he
    rw [lookup_revokeNext hm, revokes_requestAll]
  | asking =>
    cases he
    exact lookup_requestNext hm s _ _ _
  | asked =>
    cases he
    rw [lookup_requestNext hm, revokes_requestClose]
  | completed =>
    cases he
    exact AList.lookup_insert_ne hm
  | failed | expired =>
    cases he
    exact hfailed _ _ _ _
  | revokeFinish =>
    cases he
    rw [lookup_revokeNext hm, revokes_finishSession]
  | _ => cases he

/-- **While revocation `n` runs**, nobody's step gets in its way. -/
lemma revoking_step (hk : c.kind ≠ .camera) (hnd : (order.map Prod.fst).Nodup)
    (h : step c s e = some s') (hu : Undisturbed o n out s e) (hr : Revoking c o n out order s) :
    Revoking c o n out order s' := by
  have hinv : (∀ x ∈ order.dropLast, out x.1 = some (.ok ())) → Inv o (s'.view c.kind) :=
    fun hok => inv_moves (step_moves h (revoking_inOrder h hu hr) (revoking_clean hu hr hok))
      (hr.inv hok)
  by_cases he : e.revocation = some n
  · have hc := course_own hk hnd h hu he hr.course
    obtain ⟨pc, hpc, -⟩ := hc.task
    refine ⟨hc, ⟨by rw [hpc]; nofun, fun m t ht hto => ?_⟩, hinv⟩
    by_contra hm
    rw [lookup_own h he hm] at ht
    exact hm (hr.sole.2 m t ht hto)
  · have hkept := kept_step h hu hr.sole he
    exact ⟨hr.course.kept hkept, hr.sole.kept hkept, hinv⟩

lemma nodup_ownedBy (s : State) (p : OwnerId) : ((s.ownedBy p).map Prod.fst).Nodup := by
  have hkeys := s.sessions.nodupKeys.sublist
    (List.filter_sublist (p := fun e : Sigma fun _ : SessionId => Entry => e.2.owner = p))
  simpa [State.ownedBy, Function.comp_def, List.NodupKeys, List.keys] using hkeys

lemma Settled.forsaken (hs : Settled o n s) (hinv : Inv o (s.view c.kind)) {x : Target}
    (hx : x ∈ s.ownedBy o) : Forsaken o n s x.1 := by
  have hv := (mem_ownedBy (c := c)).mp hx
  obtain ⟨e, he, hxe⟩ := Option.map_eq_some_iff.mp hv
  obtain ⟨⟨t, ht, -, hf⟩, -⟩ := (hinv x.1).entered x.2 o hv
  have heo : e.owner = o := (Prod.mk.inj hxe).2
  obtain ⟨hreaper, hclose, hrevoke⟩ := hs.sessions x.1 e he heo
  refine ⟨by simp [he, heo], fun t' ht' => ?_, fun hn => ?_, hreaper, hclose, hrevoke⟩
  · obtain rfl := Option.mem_unique ht ht'
    exact hf
  · exact absurd (hn.symm.trans ht) nofun

/-- **The snapshot** finds every session of the owner forsaken. -/
lemma revoking_snapshot (hk : c.kind ≠ .camera) (hinv : Inv o (s.view c.kind))
    (hs : Settled o n s) (ht : s.revokes.lookup n = some ⟨o, .locking⟩)
    (h : step c s (.revokeSnapshot n order) = some s') :
    Revoking c o n out order s' ∧ (order.map Prod.fst).Nodup := by
  have hmoves : Moves o (s.view c.kind) (s'.view c.kind) :=
    step_moves h (fun _ => hs.opens) trivial
  have hown := fun {m} => lookup_own (m := m) h rfl
  cases step_did h with
  | moved hev | handed hev => cases hev
  | closeMoved hev => cases hev
  | begun hev => cases hev
  | asking hcam => exact absurd hcam hk
  | listed _ ht' hperm =>
    obtain ⟨⟩ := Option.mem_unique ht ht'
    have hnd : (order.map Prod.fst).Nodup :=
      (hperm.map Prod.fst).nodup_iff.mpr (nodup_ownedBy s o)
    have hc : Course o n out order ((order.foldl (fun s x => s.requestClose x.1) s).revokeNext c
        n ⟨o, .locking⟩ order none) := by
      refine course_revokeNext hk hnd (List.nil_append order).symm (by simp) (fun x hx => ?_)
        (t := ⟨o, .locking⟩) rfl none
      exact (kept_requestAll s order).forsaken _ (hs.forsaken hinv (hperm.mem_iff.mp hx))
    obtain ⟨pc, hpc, -⟩ := hc.task
    refine ⟨⟨hc, ⟨by rw [hpc]; nofun, fun m t hm hto => ?_⟩, fun _ => inv_moves hmoves hinv⟩, hnd⟩
    by_contra hne
    rw [hown hne] at hm
    exact hne (hs.sole m t hm hto)

/-- **What a USB or GPIO revocation leaves behind.** Once everything has come to rest, the sessions
and leases of the owner are gone exactly if every listed session but the last closed well and
before the deadline. -/
theorem revocation_releases_iff (hk : c.kind ≠ .camera) {l₀ l : List Event} {s₀ s₁ : State}
    (h₀ : Orderly c o l₀ s₀) (hs : Settled o n s₀) (ht : s₀.revokes.lookup n = some ⟨o, .locking⟩)
    (hsnap : step c s₀ (.revokeSnapshot n order) = some s₁)
    (hrun : Machine.Runs (step c) (Undisturbed o n out) s₁ l s) (hq : Quiescent o n s) :
    ((∀ id e, s.sessions.lookup id = some e → e.owner ≠ o) ∧
        ∀ r a, s.leases.active.lookup r = some a → a.ownerId ≠ o) ↔
      ∀ x ∈ order.dropLast, out x.1 = some (.ok ()) := by
  have h₁ : Revoking c o n out order s₁ ∧ _ := revoking_snapshot hk h₀.inv hs ht hsnap
  have hnd := h₁.2
  have hr : Revoking c o n out order s :=
    hrun.invariant h₁.1 fun _ _ _ hr hu h => revoking_step hk hnd h hu hr
  constructor
  · rintro ⟨hsessions, -⟩
    cases hr.course with
    | waiting done rest cur err hpc | finishing done rest cur err hpc =>
      exact (hq.revokes n _ hpc rfl).elim
    | returned res hpc hd => exact hd
    | stopped res hpc x hx hout y hf =>
      obtain ⟨e, he, heo⟩ := Option.map_eq_some_iff.mp hf.session
      exact absurd heo (hsessions y e he)
  · intro hok
    obtain ⟨hholder, hsessions⟩ := (hr.inv hok).quiescent hq
    refine ⟨hsessions, fun r a ha => ?_⟩
    exact hholder r ⟨a.sessionId, a.ownerId, a.token⟩ (by simp [LeaseTable.holder, ha])

end Course

/-! ### Two sessions -/

instance (o : OwnerId) (n : ℕ) (s : State) : Decidable (Settled o n s) :=
  decidable_of_iff' _ (settled_iff o n s)

/-- A session is opened and committed. -/
def openedRun (id : SessionId) (o : OwnerId) (r : ResourceId) : List Event :=
  [.openCall id o r, .enumerated id (.ok ()), .reserve id ⟨id.value⟩ (.ok ()),
    .worker id .opened, .replied id, .commit id]

/-- A worker that was asked to close does so with this result. -/
def closedRun (id : SessionId) (res : HalResult Unit) : List Event :=
  [.worker id .stop, .worker id (.closed res), .worker id .done]

def twoSessions : List Event :=
  openedRun ⟨"s1"⟩ ⟨"a"⟩ ⟨"r:1"⟩ ++ openedRun ⟨"s2"⟩ ⟨"a"⟩ ⟨"r:2"⟩ ++ [.revokeCall 0 ⟨"a"⟩]

def twoTargets : List Target := [(⟨"s1"⟩, ⟨"r:1"⟩), (⟨"s2"⟩, ⟨"r:2"⟩)]

def closeError : HalError := runtimeError "test.close" .internal "close" false "close failed"

/-- The first session closes well, the second only after the deadline. -/
def lateLast (id : SessionId) : Option (HalResult Unit) :=
  if id = ⟨"s1"⟩ then some (.ok ()) else none

def lateLastRun : List Event :=
  closedRun ⟨"s1"⟩ (.ok ()) ++
    [.revokeCompleted 0, .revokeFinish 0, .revokeDeadline 0, .reap (.session ⟨"s1"⟩)] ++
  closedRun ⟨"s2"⟩ (.ok ()) ++ [.reap (.session ⟨"s2"⟩)]

theorem revocation_releases_iff_late_last : ∃ s₀ s₁ s,
    Orderly ⟨.usb, "5s"⟩ ⟨"a"⟩ twoSessions s₀ ∧
    step ⟨.usb, "5s"⟩ s₀ (.revokeSnapshot 0 twoTargets) = some s₁ ∧
    Machine.Runs (step ⟨.usb, "5s"⟩) (Undisturbed ⟨"a"⟩ 0 lateLast) s₁ lateLastRun s ∧
    ∀ r a, s.leases.active.lookup r = some a → a.ownerId ≠ ⟨"a"⟩ := by
  have hexec : ∃ s₀ ∈ Machine.exec (step ⟨.usb, "5s"⟩)
        (fun s e => InOrder ⟨"a"⟩ s e ∧ Clean ⟨.usb, "5s"⟩ ⟨"a"⟩ s e) {} twoSessions,
      Settled ⟨"a"⟩ 0 s₀ ∧ s₀.revokes.lookup 0 = some ⟨⟨"a"⟩, .locking⟩ ∧
      ∃ s₁ ∈ step ⟨.usb, "5s"⟩ s₀ (.revokeSnapshot 0 twoTargets),
      ∃ s ∈ Machine.exec (step ⟨.usb, "5s"⟩) (Undisturbed ⟨"a"⟩ 0 lateLast) s₁ lateLastRun,
        Quiescent ⟨"a"⟩ 0 s := by decide
  obtain ⟨s₀, h₀, hs, ht, s₁, h₁, s, h, hq⟩ := hexec
  have h₀ : Orderly ⟨.usb, "5s"⟩ ⟨"a"⟩ twoSessions s₀ := Machine.runs_of_exec h₀
  have h := Machine.runs_of_exec h
  exact ⟨s₀, s₁, s, h₀, h₁, h,
    ((revocation_releases_iff (by decide) h₀ hs ht h₁ h hq).mpr (by decide)).2⟩

/-- The first of two sessions fails to close, or closes after the deadline. -/
def failedFirstRun (late : Bool) : List Event :=
  twoSessions ++ [.revokeSnapshot 0 twoTargets] ++
  (if late then .revokeDeadline 0 :: closedRun ⟨"s1"⟩ (.ok ())
    else closedRun ⟨"s1"⟩ (.error closeError) ++ [.revokeCompleted 0]) ++
  [.reap (.session ⟨"s1"⟩)] ++ closedRun ⟨"s2"⟩ (.ok ())

/-- The second session and its lease stay. -/
def SecondStays (k : Kind) (late : Bool) : Prop :=
  ∃ s ∈ Machine.exec (step ⟨k, "5s"⟩) (fun _ _ => True) {} (failedFirstRun late),
    Quiescent ⟨"a"⟩ 0 s ∧ (s.sessions.lookup ⟨"s2"⟩).map Entry.owner = some ⟨"a"⟩ ∧
    (s.leases.active.lookup ⟨"r:2"⟩).map ActiveLease.ownerId = some ⟨"a"⟩

instance (k : Kind) (late : Bool) : Decidable (SecondStays k late) :=
  inferInstanceAs (Decidable (∃ s ∈ _, _ ∧ _ ∧ _))

theorem revocation_stops_early :
    SecondStays .usb false ∧ SecondStays .usb true ∧
      SecondStays .gpio false ∧ SecondStays .gpio true := by decide

end RobotHal.WorkerManager
