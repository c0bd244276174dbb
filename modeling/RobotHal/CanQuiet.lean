import RobotHal.CanSteps
import RobotHal.CanThread

/-!
The steps of the CAN manager that leave everything behind the lock alone.

Most steps only move a future or an actor on. What the rest of the development needs to know
of them is said once, by the relation `Still`.
-/

namespace RobotHal.CanManager

open CanActor (Actor ActorEvent CanCommand Config Flags Notice Removal)

variable {f : OpenTask → OpenTask} {e n : ℕ} {a : Actor}

/-! ### What a step must not lose -/

/-- What a close in flight will finish. -/
structure Flight where
  session : SessionId
  token : LeaseToken
  resource : ResourceId
  epoch : ℕ
deriving DecidableEq

def CloseTask.flight (t : CloseTask) : Option Flight :=
  if t.pc.InFlight then some ⟨t.session, t.token, t.resource, t.epoch⟩ else none

def State.flying (s : State) (n : ℕ) : Option Flight := (s.closes.lookup n).bind CloseTask.flight

/-- Whose sessions a revocation closes, and those it still has to close. -/
def State.todo (s : State) (n : ℕ) : Option (OwnerId × List (SessionId × LeaseToken)) :=
  (s.revokes.lookup n).bind fun t => t.pc.todo.map fun l => (t.owner, l)

/-- The actor is on its way out: it takes no further command from its queues. -/
def Ending (a : Actor) : Prop :=
  match a.stage with
  | .draining _ | .leaving _ | .ending _ | .finished _ => True
  | _ => False

def State.Ended (s : State) (e : ℕ) : Prop := ∃ a ∈ s.threads.lookup e, Ending a

instance (a : Actor) : Decidable (Ending a) := by
  unfold Ending
  split <;> infer_instance

instance (s : State) (e : ℕ) : Decidable (s.Ended e) :=
  inferInstanceAs (Decidable (∃ a ∈ s.threads.lookup e, Ending a))

/-- An open goes on: it stays responsible for what it holds, and what it returned stands. -/
structure OpenTask.Keeps (holds : Prop) (t t' : OpenTask) : Prop where
  owner : t'.owner = t.owner
  resource : t'.resource = t.resource
  mode : t'.mode = t.mode
  guarded : holds → t.pc.Guarded → t'.pc.Guarded
  returned : ∀ res, t.pc = .returned res → t'.pc = .returned res
  activation : ∀ k, t.activation = some k → t'.activation = some k

/-- Every open goes on. -/
def OpensKept (s s' : State) : Prop :=
  ∀ id t, s.opens.lookup id = some t → ∃ t', s'.opens.lookup id = some t' ∧
    t.Keeps (∃ p, s.mgr.pending.lookup id = some p) t'

/-- Nothing behind the lock moves, no close and no revocation ends, and no actor comes back. -/
structure Still (s s' : State) : Prop where
  mgr : s'.mgr = s.mgr
  opens : OpensKept s s'
  flying : ∀ n, s'.flying n = s.flying n
  todo : ∀ n, s'.todo n = s.todo n
  threads : ∀ e, (s'.threads.lookup e).isSome = (s.threads.lookup e).isSome
  ended : ∀ e, s.Ended e → s'.Ended e

section Frame

variable {s s' : State}

lemma OpenTask.Keeps.refl (P : Prop) (t : OpenTask) : t.Keeps P t :=
  ⟨rfl, rfl, rfl, fun _ => id, fun _ => id, fun _ => id⟩

lemma OpensKept.of_eq (h : s'.opens = s.opens) : OpensKept s s' :=
  fun _ t ht => ⟨t, h ▸ ht, .refl _ t⟩

lemma opensKept_modify {id : SessionId} (hf : ∀ t, s.opens.lookup id = some t →
      t.Keeps (∃ p, s.mgr.pending.lookup id = some p) (f t)) : OpensKept s (s.modifyOpen id f) := by
  intro j t ht
  unfold State.modifyOpen
  rw [Assoc.lookup_modify]
  split
  · rename_i hj
    subst hj
    exact ⟨f t, by rw [ht]; rfl, hf t ht⟩
  · exact ⟨t, ht, .refl _ t⟩

end Frame

namespace Still

variable {s s' : State}

lemma of_eq (hm : s'.mgr = s.mgr) (ho : s'.opens = s.opens) (hc : s'.closes = s.closes)
    (hr : s'.revokes = s.revokes) (ht : s'.threads = s.threads) : Still s s' where
  mgr := hm
  opens := .of_eq ho
  flying n := by rw [State.flying, hc]; rfl
  todo n := by rw [State.todo, hr]; rfl
  threads e := by rw [ht]
  ended e := by unfold State.Ended; rw [ht]; exact id

lemma refl (s : State) : Still s s := .of_eq rfl rfl rfl rfl rfl

lemma trans {u : State} (h : Still s s') (h' : Still s' u) : Still s u where
  mgr := h'.mgr.trans h.mgr
  opens id t ht := by
    obtain ⟨t', ht', hk⟩ := h.opens id t ht
    obtain ⟨t'', ht'', hk'⟩ := h'.opens id t' ht'
    rw [h.mgr] at hk'
    exact ⟨t'', ht'', hk'.owner.trans hk.owner, hk'.resource.trans hk.resource,
      hk'.mode.trans hk.mode, fun hp hg => hk'.guarded hp (hk.guarded hp hg),
      fun res hr => hk'.returned res (hk.returned res hr),
      fun k ha => hk'.activation k (hk.activation k ha)⟩
  flying n := (h'.flying n).trans (h.flying n)
  todo n := (h'.todo n).trans (h.todo n)
  threads e := (h'.threads e).trans (h.threads e)
  ended e he := h'.ended e (h.ended e he)

lemma modifyOpen {id : SessionId} (hf : ∀ t, s.opens.lookup id = some t →
      t.Keeps (∃ p, s.mgr.pending.lookup id = some p) (f t)) : Still s (s.modifyOpen id f) where
  mgr := rfl
  opens := opensKept_modify hf
  flying _ := rfl
  todo _ := rfl
  threads _ := rfl
  ended _ he := he

lemma flag (s : State) (id : SessionId) (f : OpenTask → OpenTask)
    (hf : ∀ t, (f t).owner = t.owner ∧ (f t).resource = t.resource ∧ (f t).mode = t.mode ∧
      (f t).pc = t.pc ∧ (f t).activation = t.activation) : Still s (s.modifyOpen id f) :=
  .modifyOpen fun t _ => by
    obtain ⟨ho, hr, hm, hp, ha⟩ := hf t
    exact ⟨ho, hr, hm, fun _ hg => hp ▸ hg, fun _ h => hp ▸ h, fun _ h => ha ▸ h⟩

lemma setThread {a' : Actor} (ha : s.threads.lookup e = some a) (hk : Ending a → Ending a') :
    Still s (s.setThread e a') where
  mgr := rfl
  opens := .of_eq rfl
  flying _ := rfl
  todo _ := rfl
  threads j := by
    unfold State.setThread
    rw [Assoc.lookup_insert_ite]
    split
    · rename_i hj; rw [hj, ha]; rfl
    · rfl
  ended j := by
    rintro ⟨b, hb, he⟩
    unfold State.Ended State.setThread
    simp only [Assoc.lookup_insert_ite]
    split
    · rename_i hj
      subst hj
      rw [Option.mem_def, ha] at hb
      cases hb
      exact ⟨a', rfl, hk he⟩
    · exact ⟨b, hb, he⟩

lemma setOp {t : OpTask} {pc : OpPc} (h : Still s s') : Still s (s'.setOp n t pc) :=
  h.trans (.of_eq rfl rfl rfl rfl rfl)

lemma closes_insert {t t' : CloseTask} (ht : s.closes.lookup n = some t)
    (hf : t'.flight = t.flight) :
    Still s { s with closes := s.closes.insert n t' } where
  mgr := rfl
  opens := .of_eq rfl
  flying m := by
    unfold State.flying
    simp only [Assoc.lookup_insert_ite]
    split
    · rename_i hm; rw [hm, ht]; exact hf
    · rfl
  todo _ := rfl
  threads _ := rfl
  ended _ he := he

lemma setClose {t : CloseTask} {pc : ClosePc} (ht : s.closes.lookup n = some t)
    (hpc : t.pc.InFlight) (hpc' : pc.InFlight) : Still s (s.setClose n t pc) :=
  closes_insert ht (by simp [CloseTask.flight, hpc, hpc'])

end Still

/-! ### Actors -/

lemma ending_step {c : Config} {f : Flags} {e : ActorEvent} {x : Actor × List Notice}
    (h : a.step c f e = some x) (ha : Ending a) : Ending x.1 := by
  unfold Ending at ha ⊢
  cases CanActor.step_does h with
  | drained | completed => trivial
  | left => simp [Actor.abandon]
  | broken hst => rcases hst with hst | ⟨_, hst⟩ | ⟨_, hst⟩ | hst <;> simp [hst] at ha
  | opened hst | unopened hst | pruned hst | removed hst | cleaned hst | executed hst | managed hst
  | refused hst | sent hst | passed hst | polled hst | served hst | brokenOpen hst
  | brokenSend hst => simp [hst] at ha

lemma ending_of_stage {a' : Actor} (h : a'.stage = a.stage) : Ending a → Ending a' := by
  unfold Ending
  rw [h]
  exact id

lemma still_notice (s : State) (x : Notice) : Still s (s.notice x) := by
  cases x with
  | added id res | done id | terminated id failed =>
    exact .flag s id _ fun _ => ⟨rfl, rfl, rfl, rfl, rfl⟩
  | answered n res => exact .of_eq rfl rfl rfl rfl rfl
  | removed n out =>
    unfold State.notice Assoc.modify
    simp only
    split
    · exact .refl s
    · rename_i t ht
      refine .closes_insert ht ?_
      split
      · rename_i hpc
        simp [CloseTask.flight, ClosePc.InFlight, hpc]
      · rfl
  | health id state =>
    unfold State.notice
    simp only
    split
    · split
      · exact .of_eq rfl rfl rfl rfl rfl
      · exact .refl s
    · exact .refl s

lemma still_notices (s : State) (l : List Notice) : Still s (l.foldl State.notice s) := by
  induction l generalizing s with
  | nil => exact .refl s
  | cons x l ih => exact (still_notice s x).trans (ih _)

/-! ### The steps -/

section Steps

variable {c : Config} {s s' : State} {id : SessionId} {t : OpenTask}

lemma Still.advance (ht : s.opens.lookup id = some t)
    (hf : (f t).owner = t.owner ∧ (f t).resource = t.resource ∧ (f t).mode = t.mode ∧
      (f t).activation = t.activation) (hr : ∀ res, t.pc ≠ .returned res)
    (hg : t.pc.Guarded → (f t).pc.Guarded) : Still s (s.modifyOpen id f) := by
  refine .modifyOpen fun u hu => ?_
  rw [ht] at hu
  cases hu
  obtain ⟨ho, hre, hm, ha⟩ := hf
  exact ⟨ho, hre, hm, fun _ => hg, fun res h => absurd h (hr res), fun _ h => ha ▸ h⟩

lemma still_beginCleanup {err : HalError} (ht : s.opens.lookup id = some t)
    (hr : ∀ res, t.pc ≠ .returned res) : Still s (s.beginCleanup id e err) :=
  .advance ht ⟨rfl, rfl, rfl, rfl⟩ hr fun _ => trivial

lemma OpenPc.Guarded.not_returned {pc : OpenPc} (h : pc.Guarded) (res : HalResult _) :
    pc ≠ .returned res := by
  rintro rfl
  exact h

lemma OpenTask.Goes.keeps {t' : OpenTask} (h : t.Goes t') (holds : Prop) : t.Keeps holds t' := by
  cases h with
  | fail hpc | leave hpc =>
    exact ⟨rfl, rfl, rfl, fun _ hg => by rw [hpc] at hg; exact hg.elim, by simp [hpc], fun _ h => h⟩
  | accept hpc | clean hpc =>
    exact ⟨rfl, rfl, rfl, fun _ _ => trivial, by simp [hpc], fun _ h => h⟩
  | unwind hg =>
    exact ⟨rfl, rfl, rfl, fun _ _ => trivial, fun res h => absurd h (hg.not_returned res),
      fun _ h => h⟩

lemma Still.goes (ht : s.opens.lookup id = some t) (h : t.Goes (f t)) :
    Still s (s.modifyOpen id f) := by
  refine .modifyOpen fun u hu => ?_
  rw [ht] at hu
  cases hu
  exact h.keeps _

lemma Removes.still {x : State × State.Removing} (h : Removes s id e x) : Still s x.1 := by
  cases h with
  | done => exact .flag s id _ fun _ => ⟨rfl, rfl, rfl, rfl, rfl⟩
  | late | again => exact .refl s
  | queued ha => exact .setThread ha (ending_of_stage rfl)

/-- A plain step leaves everything behind the lock alone. -/
theorem Plain.still {ev : Event} (h : Plain c s ev s') : Still s s' := by
  cases h with
  | @call id _ _ _ _ _ _ hn =>
    refine ⟨rfl, fun j u hu => ⟨u, ?_, .refl _ u⟩, fun _ => rfl, fun _ => rfl, fun _ => rfl,
      fun _ he => he⟩
    simp only [Assoc.lookup_insert_ite]
    rw [if_neg, hu]
    rintro rfl
    rw [hn] at hu; cases hu
  | move _ ht h => exact .goes ht h
  | @cleaning id _ _ e _ a ht hpc ha =>
    have hq := (@Removes.queued s id e a ha).still
    exact hq.trans (.advance ht ⟨rfl, rfl, rfl, rfl⟩ (by simp [hpc]) fun _ => trivial)
  | rest => exact .refl s
  | remover _ h => exact h.still.trans (.of_eq rfl rfl rfl rfl rfl)
  | op => exact .of_eq rfl rfl rfl rfl rfl
  | room _ _ _ _ ha | queue _ _ ha =>
    exact .setOp (.setThread ha (ending_of_stage rfl))
  | close _ ht hpc hpc' => exact .setClose ht hpc hpc'
  | act ha hx => exact (Still.setThread ha (ending_step hx)).trans (still_notices _ _)

end Steps

end RobotHal.CanManager
