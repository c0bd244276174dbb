import RobotHal.CanActor

/-!
What one step of a CAN actor can do.

The constructors of `Does` are the places the thread can be in, each with what it found there.
Everything that is proved of a step of an actor starts from `step_does`.
-/

namespace RobotHal.CanActor

inductive Does (c : Config) (a : Actor) (f : Flags) : ActorEvent → Actor × List Notice → Prop
  | opened {active : CanActiveConfig} (hst : a.stage = .opening) :
      Does c a f (.opened (.ok active)) ({ a with
          activeConfig := some active
          sessions := AList.singleton a.first.sessionId { filters := a.first.filters }
          stage := .pruning },
        [.added a.first.sessionId (some (.ok ()))])
  | unopened {err : HalError} (hst : a.stage = .opening) :
      Does c a f (.opened (.error err)) ((a.abandon (.error err)).1,
        .added a.first.sessionId (some (.error err)) :: (a.abandon (.error err)).2)
  | pruned {res : HalResult Unit} (hst : a.stage = .pruning) :
      Does c a f (.prune res) (prune a f res)
  | removed {res : HalResult Unit} {left : ℕ} {y : Removal} {rest : List Removal}
      (hst : a.stage = .cleaning (left + 1)) (hc : a.cleanup = y :: rest) :
      Does c a f (.clean res)
        (removeSession { a with cleanup := rest, stage := .cleaning left } y res)
  | cleaned {res : HalResult Unit} {left : ℕ} (hst : a.stage = .cleaning left)
      (hno : left = 0 ∨ a.cleanup = []) :
      Does c a f (.clean res) ({ a with stage := .managing managementCommandBudget }, [])
  | executed {now : ℕ} {answer : HalResult CanBusStatus} {left : ℕ} {cmd : CanCommand}
      {rest : List CanCommand} (hst : a.stage = .managing (left + 1))
      (hc : a.commands = cmd :: rest) :
      Does c a f (.manage now answer)
        (execute { a with commands := rest, stage := .managing left } f now answer left cmd)
  | managed {now : ℕ} {answer : HalResult CanBusStatus} {left : ℕ} {stage : Stage}
      (hst : a.stage = .managing left) (hno : left = 0 ∨ a.commands = [])
      (hnext : stage = .leaving (.ok ()) ∨ stage = .polling) :
      Does c a f (.manage now answer) ({ a with stage }, [])
  | refused {err : HalError} {call count committed left : ℕ} {y : CanFrame} {rest : List CanFrame}
      (hst : a.stage = .sending call count (y :: rest) committed left) :
      Does c a f (.frame (.error err))
        (endBatch (a.pass call y) call count left (.error (.backendPrefix err committed)))
  | sent {call count committed left : ℕ} {y : CanFrame}
      (hst : a.stage = .sending call count [y] committed left) :
      Does c a f (.frame (.ok ())) (endBatch (a.pass call y) call count left (.ok ()))
  | passed {call count committed left : ℕ} {y : CanFrame} {rest : List CanFrame}
      (hst : a.stage = .sending call count (y :: rest) committed left) (hne : rest ≠ []) :
      Does c a f (.frame (.ok ()))
        ({ a.pass call y with stage := .sending call count rest (committed + 1) left }, [])
  | polled {res : HalResult (Option ReceivedCanFrame)} {now : ℕ} (hst : a.stage = .polling) :
      Does c a f (.poll res now)
        ({ (poll a c f now res).1 with stage := .serving }, (poll a c f now res).2)
  | served {now : ℕ} (hst : a.stage = .serving) :
      Does c a f (.serve now)
        ({ (servePending a f now).1 with stage := .pruning }, (servePending a f now).2)
  | drained {result : HalResult Unit} (hst : a.stage = .draining result) :
      Does c a f .drain
        ({ a.rejectRemaining.1 with stage := .leaving result }, a.rejectRemaining.2)
  | left {result : HalResult Unit} (hst : a.stage = .leaving result) :
      Does c a f .leave (a.abandon result)
  | brokenOpen {result : HalResult Unit} (hst : a.stage = .opening) :
      Does c a f .panicked
        ((a.abandon result).1, .added a.first.sessionId none :: (a.abandon result).2)
  | brokenSend {result : HalResult Unit} {call count committed left : ℕ} {y : CanFrame}
      {rest : List CanFrame} (hst : a.stage = .sending call count (y :: rest) committed left) :
      Does c a f .panicked
        ((a.abandon result).1.pass call y, .answered call none :: (a.abandon result).2)
  | broken {result : HalResult Unit}
      (hst : a.stage = .pruning ∨ (∃ left, a.stage = .cleaning left) ∨
        (∃ left, a.stage = .managing left) ∨ a.stage = .polling) :
      Does c a f .panicked (a.abandon result)
  | completed {result : HalResult Unit} {l : List Notice} (hst : a.stage = .ending result)
      (hl : l = [] ∨ l = [.done a.first.sessionId]) :
      Does c a f .complete ({ a with stage := .finished result }, l)

lemma idle_of_not_cons {α : Type} {left : ℕ} {l : List α}
    (h : ∀ n x rest, left = n + 1 → l = x :: rest → False) : left = 0 ∨ l = [] := by
  cases left with
  | zero => exact .inl rfl
  | succ n =>
    cases l with
    | nil => exact .inr rfl
    | cons x rest => exact (h n x rest rfl rfl).elim

theorem step_does {c : Config} {a : Actor} {f : Flags} {e : ActorEvent} {x : Actor × List Notice}
    (h : a.step c f e = some x) : Does c a f e x := by
  unfold Actor.step at h
  split at h
  · cases h
    exact .opened ‹_›
  · cases h
    exact .unopened ‹_›
  · cases h
    exact .pruned ‹_›
  · rename_i hst
    split at h <;> cases h
    · exact .removed hst ‹_›
    · exact .cleaned hst (idle_of_not_cons ‹_›)
  · rename_i hst
    split at h
    · cases h
      exact .executed hst ‹_›
    · rename_i hno
      split at h <;> cases h
      · exact .managed hst (idle_of_not_cons hno) (.inl rfl)
      · exact .managed hst (idle_of_not_cons hno) (.inr rfl)
  · rename_i hst
    split at h <;> cases h
    · exact .refused hst
    · exact .sent hst
    · exact .passed hst ‹_›
  · cases h
    exact .polled ‹_›
  · cases h
    exact .served ‹_›
  · cases h
    exact .drained ‹_›
  · cases h
    exact .left ‹_›
  · -- a panic, wherever a call into the adapter or the channel can be
    simp only at h
    split at h
    on_goal 7 => cases h
    all_goals
      rename_i hst
      cases h
    · exact .brokenOpen hst
    · exact .brokenSend hst
    · exact .broken (.inl hst)
    · exact .broken (.inr (.inl ⟨_, hst⟩))
    · exact .broken (.inr (.inr (.inl ⟨_, hst⟩)))
    · exact .broken (.inr (.inr (.inr hst)))
  · rename_i hst
    cases h
    refine .completed hst ?_
    split
    · exact .inl rfl
    · exact .inr rfl
  · cases h

end RobotHal.CanActor
