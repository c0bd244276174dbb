import RobotHal.CanManager

/-!
What a reconciliation of the CAN manager does, read off its two loops.
-/

namespace RobotHal.CanManager

variable {s : State} {t : CloseTask} {r : ResourceId} {e : ℕ} {id : SessionId}

/-- The open without the flags that others may raise at any time. -/
def OpenTask.core (t : OpenTask) : OpenTask :=
  { t with cancelled := false, notified := false, done := false }

/-- The resource's actor, if it has finished and nobody has noticed. -/
def State.deadActor (s : State) (r : ResourceId) : Option ℕ :=
  (s.mgr.actors.lookup r).filter s.isFinished

/-- Nothing changes but the sessions and reservations behind the lock, and raised flags. -/
structure Spared (s s' : State) : Prop where
  threads : s'.threads = s.threads
  opens : Assoc.Follows (fun _ t t' => t'.core = t.core) s.opens s'.opens
  closes : s'.closes = s.closes
  ops : s'.ops = s.ops
  revokes : s'.revokes = s.revokes
  epoch : s'.mgr.nextActorEpoch = s.mgr.nextActorEpoch

namespace Spared

lemma of_mgr {m : ManagerState} {events : List RuntimeEvent}
    (h : m.nextActorEpoch = s.mgr.nextActorEpoch) : Spared s { s with mgr := m, events } :=
  ⟨rfl, .of_eq (fun _ _ => rfl) rfl, rfl, rfl, rfl, h⟩

lemma refl (s : State) : Spared s s := .of_mgr rfl

lemma trans {t u : State} (h : Spared s t) (h' : Spared t u) : Spared s u where
  threads := h'.threads.trans h.threads
  opens := h.opens.trans h'.opens fun _ _ _ _ hc hc' => hc'.trans hc
  closes := h'.closes.trans h.closes
  ops := h'.ops.trans h.ops
  revokes := h'.revokes.trans h.revokes
  epoch := h'.epoch.trans h.epoch

end Spared

section Primitives

variable (s : State)

lemma publishClosed_eq (r : ResourceId) (id : SessionId) (x : ActiveSession) (failed : Bool) :
    ∃ events, s.publishClosed r id x failed = { s with events } := by
  unfold State.publishClosed State.publish
  split <;> exact ⟨_, rfl⟩

lemma dropPending_fields (m : ManagerState) (id : SessionId) :
    (m.dropPending id).active = m.active ∧
      (∀ j, (m.dropPending id).pending.lookup j = if j = id then none else m.pending.lookup j) ∧
      (m.dropPending id).actors = m.actors ∧
      (m.dropPending id).nextActorEpoch = m.nextActorEpoch := by
  unfold ManagerState.dropPending
  split
  · exact ⟨rfl, Assoc.lookup_absent ‹_›, rfl, rfl⟩
  · exact ⟨rfl, fun j => Assoc.lookup_erase_ite _ _ _, rfl, rfl⟩

lemma finishClose_eq {x : ActiveSession} (hx : s.mgr.active.lookup t.session = some x)
    (closeFailed actorFinished : Bool) :
    ∃ events actors, s.finishClose t closeFailed actorFinished = { s with
        events, mgr := { s.mgr.dropActive t.resource t.session t.token x with actors } } ∧
      (actors = s.mgr.actors ∨ actorFinished = true ∧
        s.mgr.actors.lookup t.resource = some t.epoch ∧ s.isFinished t.epoch = true ∧
        actors = s.mgr.actors.erase t.resource) := by
  unfold State.finishClose
  rw [hx]
  simp only
  obtain ⟨events, he⟩ := publishClosed_eq
    { s with mgr := s.mgr.dropActive t.resource t.session t.token x } t.resource t.session x
    closeFailed
  rw [he]
  split
  · rename_i hdrop
    exact ⟨events, _, rfl, .inr ⟨hdrop.1, hdrop.2.1, hdrop.2.2, rfl⟩⟩
  · exact ⟨events, _, rfl, .inl rfl⟩

lemma finishClose_none (hx : s.mgr.active.lookup t.session = none)
    (closeFailed actorFinished : Bool) : s.finishClose t closeFailed actorFinished = s := by
  unfold State.finishClose
  rw [hx]

lemma retire_spec (r : ResourceId) (id : SessionId) :
    Spared s (s.retire r id) ∧ (s.retire r id).mgr.actors = s.mgr.actors ∧
      (s.retire r id).mgr.pending = s.mgr.pending ∧
      ∀ j, (s.retire r id).mgr.active.lookup j =
        if j = id then none else s.mgr.active.lookup j := by
  unfold State.retire
  split
  · exact ⟨.refl s, rfl, rfl, Assoc.lookup_absent ‹_›⟩
  · rename_i x h
    simp only
    obtain ⟨events, he⟩ := publishClosed_eq { s with mgr := s.mgr.dropActive r id x.token x } r id x
      ((s.opens.lookup id).any fun t => !t.terminationExpected || t.terminationFailed)
    rw [he]
    exact ⟨.of_mgr rfl, rfl, rfl,
      fun j => Assoc.lookup_erase_ite _ _ _⟩

lemma cancelPending_spec (id : SessionId) (done : Bool) :
    Spared s (s.cancelPending id done) ∧ (s.cancelPending id done).mgr.actors = s.mgr.actors ∧
      (s.cancelPending id done).mgr.active = s.mgr.active ∧
      ∀ j, (s.cancelPending id done).mgr.pending.lookup j =
        if j = id then none else s.mgr.pending.lookup j := by
  obtain ⟨ha, hp, hc, hn⟩ := dropPending_fields s.mgr id
  unfold State.cancelPending
  split
  · exact ⟨.refl s, rfl, rfl, Assoc.lookup_absent ‹_›⟩
  · exact ⟨⟨rfl, Assoc.Follows.modify (fun _ _ => rfl) fun _ _ => rfl, rfl, rfl, rfl, hn⟩, hc,
      ha, hp⟩

/-- A loop that takes the sessions out of one table. -/
lemma foldl_spec {α β : Type} {f : State → SessionId → State} (kept : State → α)
    (table : State → SessionId → Option β) (h : ∀ s id, Spared s (f s id) ∧
      (f s id).mgr.actors = s.mgr.actors ∧ kept (f s id) = kept s ∧
      ∀ j, table (f s id) j = if j = id then none else table s j) (ids : List SessionId) :
    Spared s (ids.foldl f s) ∧ (ids.foldl f s).mgr.actors = s.mgr.actors ∧
      kept (ids.foldl f s) = kept s ∧
      ∀ j, table (ids.foldl f s) j = if j ∈ ids then none else table s j := by
  induction ids generalizing s with
  | nil => exact ⟨.refl s, rfl, rfl, fun j => by simp⟩
  | cons id ids ih =>
    obtain ⟨hs, ha, hp, hl⟩ := h s id
    obtain ⟨hs', ha', hp', hl'⟩ := ih (f s id)
    refine ⟨hs.trans hs', ha'.trans ha, hp'.trans hp, fun j => ?_⟩
    rw [List.foldl_cons, hl', hl]
    by_cases hj : j = id <;> simp [hj]

lemma foldl_cancelPending_spec (done : Bool) (ids : List SessionId) :
    Spared s (ids.foldl (fun s id => s.cancelPending id done) s) ∧
      (ids.foldl (fun s id => s.cancelPending id done) s).mgr.actors = s.mgr.actors ∧
      (ids.foldl (fun s id => s.cancelPending id done) s).mgr.active = s.mgr.active ∧
      ∀ j, (ids.foldl (fun s id => s.cancelPending id done) s).mgr.pending.lookup j =
        if j ∈ ids then none else s.mgr.pending.lookup j :=
  foldl_spec s (fun s => s.mgr.active) (fun s j => s.mgr.pending.lookup j)
    (fun s id => cancelPending_spec s id done) ids

end Primitives

lemma mem_servedBy :
    id ∈ s.servedBy r e ↔
      ∃ x, s.mgr.active.lookup id = some x ∧ x.resourceId = r ∧ x.actorEpoch = e := by
  simp [State.servedBy, Assoc.mem_pick, exists_comm (α := SessionId)]

lemma mem_awaitedBy :
    id ∈ s.awaitedBy e ↔ ∃ p, s.mgr.pending.lookup id = some p ∧ p.actorEpoch = some e := by
  simp [State.awaitedBy, Assoc.mem_pick, exists_comm (α := SessionId)]

lemma deadActor_eq_some : s.deadActor r = some e ↔
    s.mgr.actors.lookup r = some e ∧ s.isFinished e = true :=
  Option.filter_eq_some_iff

/-- What a reconciliation of `r` does: everything its finished actor served or was asked to serve
is gone, and so is the actor. -/
structure Reconciled (r : ResourceId) (s s' : State) : Prop extends Spared s s' where
  actors : ∀ q e, s'.mgr.actors.lookup q = some e ↔
    s.mgr.actors.lookup q = some e ∧ ¬(q = r ∧ s.deadActor r = some e)
  active : ∀ id x, s'.mgr.active.lookup id = some x ↔
    s.mgr.active.lookup id = some x ∧ ¬(x.resourceId = r ∧ s.deadActor r = some x.actorEpoch)
  pending : ∀ id p, s'.mgr.pending.lookup id = some p ↔
    s.mgr.pending.lookup id = some p ∧ ¬∃ e, s.deadActor r = some e ∧ p.actorEpoch = some e

theorem reconciled (s : State) (r : ResourceId) :
    Reconciled r s (s.reconcileFinishedActor r) := by
  unfold State.reconcileFinishedActor
  split
  · rename_i hn
    have hd : s.deadActor r = none := by simp [State.deadActor, hn]
    exact ⟨.refl s, by simp [hd], by simp [hd], by simp [hd]⟩
  rename_i e hr
  split
  · rename_i hf
    have hd : s.deadActor r = none := by
      simp only [State.deadActor, hr, Option.filter_eq_none_iff]
      simpa using hf
    exact ⟨.refl s, by simp [hd], by simp [hd], by simp [hd]⟩
  · rename_i hf
    have hd : s.deadActor r = some e := by simp_all [State.deadActor]
    simp only
    set s₁ : State := { s with mgr := { s.mgr with actors := s.mgr.actors.erase r } } with hs₁
    obtain ⟨hsp, ha, hp, hl⟩ := foldl_spec s₁ (fun s => s.mgr.pending)
      (fun s j => s.mgr.active.lookup j) (fun s => retire_spec s r) (s₁.servedBy r e)
    set s₂ := (s₁.servedBy r e).foldl (fun s id => s.retire r id) s₁ with hs₂
    obtain ⟨hsp', ha', hp', hl'⟩ := foldl_cancelPending_spec s₂ true (s₂.awaitedBy e)
    have h₁ : Spared s s₁ := .of_mgr rfl
    refine ⟨(h₁.trans hsp).trans hsp', fun q e' => ?_, fun id x => ?_, fun id p => ?_⟩
    · rw [ha', ha, hs₁]
      simp only [Assoc.lookup_erase_ite, hd, Option.some.injEq]
      split
      · rename_i hq
        subst hq
        simp [hr]
      · rename_i hq
        simp [hq]
    · rw [hp', hl]
      have hmem : id ∈ s₁.servedBy r e ↔ _ := mem_servedBy
      have hact : s₁.mgr.active = s.mgr.active := rfl
      rw [hact] at hmem ⊢
      simp only [hd, Option.some.injEq]
      split
      · rename_i hi
        obtain ⟨y, hy, hyr, hye⟩ := hmem.mp hi
        refine ⟨nofun, fun ⟨hx, hne⟩ => ?_⟩
        rw [hy] at hx
        cases hx
        exact absurd ⟨hyr, hye.symm⟩ hne
      · rename_i hi
        refine ⟨fun hx => ⟨hx, fun hxr => hi (hmem.mpr ⟨x, hx, hxr.1, hxr.2.symm⟩)⟩, And.left⟩
    · rw [hl', hp]
      have hmem : id ∈ s₂.awaitedBy e ↔ _ := mem_awaitedBy
      rw [hp] at hmem
      simp only [hd, Option.some.injEq]
      have hpend : s₁.mgr.pending = s.mgr.pending := rfl
      rw [hpend] at hmem ⊢
      split
      · rename_i hi
        obtain ⟨y, hy, hye⟩ := hmem.mp hi
        refine ⟨nofun, fun ⟨hx, hne⟩ => ?_⟩
        rw [hy] at hx
        cases hx
        exact absurd ⟨e, rfl, hye⟩ hne
      · rename_i hi
        refine ⟨fun hx => ⟨hx, ?_⟩, And.left⟩
        rintro ⟨e', rfl, he⟩
        exact hi (hmem.mpr ⟨p, hx, he⟩)

lemma reconcileSession_spared (s : State) (id : SessionId) : Spared s (s.reconcileSession id) := by
  unfold State.reconcileSession
  split
  · exact (reconciled s _).toSpared
  · exact .refl s

lemma sessionActor_fst (s : State) (id : SessionId) (token : LeaseToken) (required : LeaseMode)
    (operation : String) :
    (s.sessionActor id token required operation).1 = s.reconcileSession id := by
  unfold State.sessionActor
  simp only
  split
  · rfl
  split
  · rfl
  split <;> rfl

end RobotHal.CanManager
