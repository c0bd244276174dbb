import RobotHal.CanLedger

/-!
The order in which a CAN actor works.

An actor takes its commands in the order in which they were queued, answers every admission
once, and calls the channel's `send` only inside a batch whose session it still has. What one
step of it can change is said by the relation `Flow`, and what the manager's other steps can
change of all this by the relation `Calm`.
-/

namespace RobotHal.CanActor

variable {a a' : Actor} {id : SessionId} {left : ℕ}

/-- The session a command asks to admit. -/
def CanCommand.admits : CanCommand → Option SessionId
  | .addSession spec => some spec.sessionId
  | _ => none

/-- The open a notice answers. -/
def Notice.admission : Notice → Option SessionId
  | .added id _ => some id
  | _ => none

/-- The call a command came from. -/
def CanCommand.call : CanCommand → Option ℕ
  | .addSession _ => none
  | .sendBatch n _ _ | .receive n _ _ _ | .replaceFilters n _ _ | .busStatus n _ => some n

/-- The call a notice is for. -/
def Notice.call : Notice → Option ℕ
  | .answered n _ => some n
  | _ => none

def admitted (l : List CanCommand) : List SessionId := l.filterMap CanCommand.admits

def answered (l : List Notice) : List SessionId := l.filterMap Notice.admission

/-- The sessions the actor has yet to admit or refuse, in order. -/
def Actor.admissions (a : Actor) : List SessionId :=
  (if a.stage = .opening then [a.first.sessionId] else []) ++ admitted a.commands

/-- The batch the actor is inside. -/
def Actor.sending (a : Actor) : Option ℕ :=
  match a.stage with
  | .sending call _ _ _ _ => some call
  | _ => none

/-- An actor without its queues has no commands. -/
def Actor.Drained (a : Actor) : Prop := a.connected = false → a.commands = []

/-- What a step of the actor does that answers the opens `l`. -/
structure Flow (l : List SessionId) (a a' : Actor) : Prop where
  resource : a'.resource = a.resource
  finished : a'.isFinished = false → a.isFinished = false
  drained : a.Drained → a'.Drained
  admissions : a.admissions = l ++ a'.admissions
  commands : a'.commands <:+ a.commands
  sessions : ∀ id, (a'.sessions.lookup id).isSome → (a.sessions.lookup id).isSome ∨ id ∈ l
  sending : ∀ k, a'.sending = some k → (a.sending = some k ∧ a'.commands = a.commands) ∨
    ∃ id frames, a.commands = .sendBatch k id frames :: a'.commands ∧
      (a.sessions.lookup id).isSome
  passed : ∀ y ∈ a'.passed.drop a.passed.length, a.sending = some y.1

/-! ### The notices of each part of a step -/

@[simp] lemma answered_append (l m : List Notice) :
    answered (l ++ m) = answered l ++ answered m := List.filterMap_append ..

@[simp] lemma answered_reject (l : List CanCommand) :
    answered (l.flatMap CanCommand.reject) = admitted l := by
  induction l with
  | nil => rfl
  | cons c l ih =>
    rw [List.flatMap_cons, answered_append, ih]
    cases c <;> rfl

@[simp] lemma answered_lose (l : List CanCommand) :
    answered (l.flatMap CanCommand.lose) = admitted l := by
  induction l with
  | nil => rfl
  | cons c l ih =>
    rw [List.flatMap_cons, answered_append, ih]
    cases c <;> rfl

lemma answered_eq_nil {l : List Notice} (h : ∀ x ∈ l, x.admission = none) : answered l = [] :=
  List.filterMap_eq_nil_iff.mpr h

lemma answered_flatMap {α : Type*} {f : α → List Notice} (h : ∀ x, answered (f x) = [])
    (l : List α) : answered (l.flatMap f) = [] := by
  induction l with
  | nil => rfl
  | cons x l ih => rw [List.flatMap_cons, answered_append, h, ih]; rfl

@[simp] lemma answered_reply (x : Removal) (out : Option RemoveOutcome) :
    answered (x.reply out) = [] := by
  unfold Removal.reply
  split <;> rfl

@[simp] lemma answered_notify (x : Removal) : answered x.notify = [] := by
  unfold Removal.notify
  split <;> rfl

@[simp] lemma answered_rejected (x : ActorSession) (e : HalError) : answered (x.reject e) = [] := by
  unfold ActorSession.reject
  split <;> rfl

@[simp] lemma answered_removals_reject (l : List Removal) :
    answered (l.flatMap Removal.reject) = [] :=
  answered_flatMap (fun x => by simp [Removal.reject]) l

@[simp] lemma answered_removals_lose (l : List Removal) :
    answered (l.flatMap Removal.lose) = [] :=
  answered_flatMap (fun x => by simp [Removal.lose]) l

@[simp] lemma answered_loseReceives (a : Actor) : answered a.loseReceives = [] := by
  refine answered_flatMap (fun x => ?_) _
  split <;> rfl

lemma answered_servicePending (r : ResourceId) (closed : ℕ → Bool) (now : ℕ) (x : ActorSession) :
    answered (servicePending r closed now x).2 = [] := by
  unfold servicePending
  split
  · rfl
  simp only
  split
  · rfl
  split
  · rfl
  · split <;> rfl

@[simp] lemma answered_servePending (a : Actor) (f : Flags) (now : ℕ) :
    answered (servePending a f now).2 = [] :=
  answered_flatMap (fun _ => answered_servicePending _ _ _ _) _

@[simp] lemma answered_poll (a : Actor) (c : Config) (f : Flags) (now : ℕ)
    (res : HalResult (Option ReceivedCanFrame)) : answered (poll a c f now res).2 = [] := by
  unfold poll
  split
  · rfl
  · split
    · simp [fanOut]
    · rfl
  · rfl

/-! ### Executing commands -/

lemma Flow.of_commands (hr : a'.resource = a.resource) (hc : a'.commands = a.commands)
    (hp : a'.passed = a.passed) (ho : a.stage ≠ .opening) (ho' : a'.stage ≠ .opening)
    (hf : a.isFinished = false) (hq : a'.connected = true)
    (hs : ∀ id, (a'.sessions.lookup id).isSome → (a.sessions.lookup id).isSome)
    (hsend : a'.sending = none) : Flow [] a a' where
  resource := hr
  finished _ := hf
  drained _ h := by rw [hq] at h; cases h
  admissions := by simp [Actor.admissions, ho, ho', hc]
  commands := hc ▸ List.suffix_rfl
  sessions id h := .inl (hs id h)
  sending k hk := by rw [hsend] at hk; cases hk
  passed y hy := by rw [hp] at hy; simp at hy

/-- What a command does to the actor, once it has left the queue. -/
structure Executed (left : ℕ) (cmd : CanCommand) (a a' : Actor) (l : List Notice) : Prop where
  resource : a'.resource = a.resource
  commands : a'.commands = a.commands
  passed : a'.passed = a.passed
  answered : answered l = cmd.admits.toList
  sessions : ∀ id, (a'.sessions.lookup id).isSome →
    (a.sessions.lookup id).isSome ∨ id ∈ cmd.admits
  stage : a'.stage = a.stage ∨ ∃ k id frames, cmd = .sendBatch k id frames ∧
    (a.sessions.lookup id).isSome ∧ frames ≠ [] ∧ a'.stage = .sending k frames.length frames 0 left

lemma lookup_insert_isSome {α : Type*} {m : Assoc SessionId α} {j : SessionId} {v : α}
    (h : ((m.insert id v).lookup j).isSome) (hm : (m.lookup id).isSome) : (m.lookup j).isSome := by
  rw [Assoc.lookup_insert_ite] at h
  split at h
  · rename_i hj; rw [hj]; exact hm
  · exact h

lemma executed_addSession (a : Actor) (f : Flags) (spec : ActorSessionSpec) :
    Executed left (.addSession spec) a (addSession a f spec).1 (addSession a f spec).2 := by
  unfold addSession
  simp only
  split
  · exact ⟨rfl, rfl, rfl, rfl, fun _ => .inl, .inl rfl⟩
  split
  · exact ⟨rfl, rfl, rfl, rfl, fun _ => .inl, .inl rfl⟩
  · refine ⟨rfl, rfl, rfl, rfl, fun id h => ?_, .inl rfl⟩
    simp only [Assoc.lookup_insert_ite] at h
    split at h
    · rename_i hid; rw [hid]; exact .inr rfl
    · exact .inl h

lemma executed_sendBatch (a : Actor) (call : ℕ) (id : SessionId) (frames : List CanFrame)
    (left : ℕ) :
    Executed left (.sendBatch call id frames) a (sendBatch a call id frames left).1
      (sendBatch a call id frames left).2 := by
  unfold sendBatch
  cases hx : a.sessions.lookup id with
  | none => exact ⟨rfl, rfl, rfl, rfl, fun _ => .inl, .inl rfl⟩
  | some x =>
    cases frames with
    | nil => exact ⟨rfl, rfl, rfl, rfl, fun _ => .inl, .inl rfl⟩
    | cons y l =>
      exact ⟨rfl, rfl, rfl, rfl, fun _ => .inl, .inr
        ⟨call, id, y :: l, rfl, by rw [hx]; rfl, nofun, rfl⟩⟩

lemma executed_receive (a : Actor) (now call : ℕ) (id : SessionId) (maxFrames deadline : ℕ) :
    Executed left (.receive call id maxFrames deadline) a
      (receive a now call id maxFrames deadline).1
      (receive a now call id maxFrames deadline).2 := by
  unfold receive
  split
  · exact ⟨rfl, rfl, rfl, rfl, fun _ => .inl, .inl rfl⟩
  rename_i x hx
  have hsome : (a.sessions.lookup id).isSome := by rw [hx]; rfl
  split
  · exact ⟨rfl, rfl, rfl, rfl, fun _ => .inl, .inl rfl⟩
  split
  · exact ⟨rfl, rfl, rfl, rfl, fun _ h => .inl (lookup_insert_isSome h hsome), .inl rfl⟩
  split
  · exact ⟨rfl, rfl, rfl, rfl, fun _ => .inl, .inl rfl⟩
  · exact ⟨rfl, rfl, rfl, rfl, fun _ h => .inl (lookup_insert_isSome h hsome), .inl rfl⟩

lemma executed_replaceFilters (a : Actor) (call : ℕ) (id : SessionId) (filters : CanFilterSet) :
    Executed left (.replaceFilters call id filters) a (replaceFilters a call id filters).1
      (replaceFilters a call id filters).2 := by
  unfold replaceFilters
  split
  · exact ⟨rfl, rfl, rfl, rfl, fun _ => .inl, .inl rfl⟩
  · rename_i x hx
    exact ⟨rfl, rfl, rfl, rfl, fun _ h => .inl (lookup_insert_isSome h (by rw [hx]; rfl)), .inl rfl⟩

lemma executed_busStatus (a : Actor) (call : ℕ) (id : SessionId) (answer : HalResult CanBusStatus) :
    Executed left (.busStatus call id) a (busStatus a call id answer).1
      (busStatus a call id answer).2 := by
  unfold busStatus
  split
  · exact ⟨rfl, rfl, rfl, rfl, fun _ => .inl, .inl rfl⟩
  · exact ⟨rfl, rfl, rfl, rfl, fun _ => .inl, .inl rfl⟩
  · refine ⟨rfl, rfl, rfl, ?_, fun _ => .inl, .inl rfl⟩
    refine answered_eq_nil fun x hx => ?_
    simp only [publishBusTransition, List.mem_append, List.mem_singleton] at hx
    rcases hx with hx | rfl
    · split at hx
      · cases hx
      · split at hx
        · cases hx
        · obtain ⟨e, -, rfl⟩ := List.mem_map.mp hx
          rfl
    · rfl

lemma executed (a : Actor) (f : Flags) (now : ℕ) (answer : HalResult CanBusStatus) (left : ℕ)
    (cmd : CanCommand) :
    Executed left cmd a (execute a f now answer left cmd).1
      (execute a f now answer left cmd).2 := by
  cases cmd with
  | addSession spec => exact executed_addSession a f spec
  | sendBatch call id frames => exact executed_sendBatch a call id frames left
  | receive call id n deadline => exact executed_receive a now call id n deadline
  | replaceFilters call id filters => exact executed_replaceFilters a call id filters
  | busStatus call id => exact executed_busStatus a call id answer

/-! ### One step of the actor -/

lemma flow_managed {cmd : CanCommand} {rest : List CanCommand}
    (hst : a.stage = .managing (left + 1)) (hc : a.commands = cmd :: rest) (f : Flags) (now : ℕ)
    (answer : HalResult CanBusStatus) :
    Flow (answered (execute { a with commands := rest, stage := .managing left } f now answer left
        cmd).2) a
      (execute { a with commands := rest, stage := .managing left } f now answer left cmd).1 := by
  have h := executed { a with commands := rest, stage := .managing left } f now answer left cmd
  set x := execute { a with commands := rest, stage := .managing left } f now answer left cmd
  have hstage : x.1.stage = .managing left ∨ ∃ k id frames, cmd = .sendBatch k id frames ∧
      (a.sessions.lookup id).isSome ∧ frames ≠ [] ∧
      x.1.stage = .sending k frames.length frames 0 left := h.stage
  have hopening : x.1.stage ≠ .opening := by
    rcases hstage with hs | ⟨_, _, _, -, -, -, hs⟩ <;> simp [hs]
  have hconnected : x.1.connected = true := by
    rcases hstage with hs | ⟨_, _, _, -, -, -, hs⟩ <;> simp [Actor.connected, hs]
  refine ⟨h.resource, fun _ => by simp [Actor.isFinished, hst], fun _ hd => ?_, ?_, ?_, ?_, ?_, ?_⟩
  · rw [hconnected] at hd; cases hd
  · rw [h.answered]
    simp only [Actor.admissions, hst, reduceCtorEq, if_false, hopening, h.commands, hc,
      List.nil_append, admitted, List.filterMap_cons]
    cases cmd.admits <;> rfl
  · rw [h.commands, hc]
    exact List.suffix_cons cmd rest
  · intro id hid
    rw [h.answered]
    exact (h.sessions id hid).imp_right Option.mem_toList.mpr
  · intro k hk
    rcases hstage with hs | ⟨k', id, frames, rfl, hsome, -, hs⟩
    · simp [Actor.sending, hs] at hk
    · obtain rfl : k' = k := by simpa [Actor.sending, hs] using hk
      exact .inr ⟨id, frames, by rw [hc, h.commands], hsome⟩
  · intro y hy
    rw [h.passed] at hy
    simp at hy

lemma flow_abandon (a : Actor) (ho : a.stage ≠ .opening) (hf : a.isFinished = false)
    (result : HalResult Unit) : Flow (answered (a.abandon result).2) a (a.abandon result).1 := by
  refine ⟨rfl, fun _ => hf, fun _ _ => rfl, ?_, List.nil_suffix, fun _ => .inl, ?_, ?_⟩
  · simp [Actor.abandon, Actor.admissions, ho, admitted]
  · intro k hk
    simp [Actor.abandon, Actor.sending] at hk
  · intro y hy
    simp [Actor.abandon] at hy

lemma flow_unopened (a : Actor) (ho : a.stage = .opening) (res : Option (HalResult Unit))
    (result : HalResult Unit) :
    Flow (answered (.added a.first.sessionId res :: (a.abandon result).2)) a
      (a.abandon result).1 := by
  refine ⟨rfl, fun _ => by simp [Actor.isFinished, ho], fun _ _ => rfl, ?_, List.nil_suffix,
    fun _ => .inl, ?_, ?_⟩
  · have hcons : ∀ l, answered (.added a.first.sessionId res :: l) =
        a.first.sessionId :: answered l := fun _ => rfl
    rw [hcons]
    simp [Actor.abandon, Actor.admissions, ho, admitted]
  · intro k hk
    simp [Actor.abandon, Actor.sending] at hk
  · intro y hy
    simp [Actor.abandon] at hy

lemma lookup_mapVal_isSome {α β : Type*} {m : Assoc SessionId α} {f : SessionId → α → β}
    (h : ((Assoc.mapVal m f).lookup id).isSome) : (m.lookup id).isSome := by
  simpa [Assoc.lookup_mapVal] using h

lemma servePending_frame (a : Actor) (f : Flags) (now : ℕ) :
    (servePending a f now).1.resource = a.resource ∧
      (servePending a f now).1.commands = a.commands ∧
      (servePending a f now).1.passed = a.passed ∧
      ∀ id, ((servePending a f now).1.sessions.lookup id).isSome → (a.sessions.lookup id).isSome :=
  ⟨rfl, rfl, rfl, fun _ h => lookup_mapVal_isSome h⟩

lemma poll_frame (a : Actor) (c : Config) (f : Flags) (now : ℕ)
    (res : HalResult (Option ReceivedCanFrame)) :
    (poll a c f now res).1.resource = a.resource ∧ (poll a c f now res).1.commands = a.commands ∧
      (poll a c f now res).1.passed = a.passed ∧
      ∀ id, ((poll a c f now res).1.sessions.lookup id).isSome → (a.sessions.lookup id).isSome := by
  unfold poll
  split
  · exact ⟨rfl, rfl, rfl, fun _ h => h⟩
  · split
    · exact ⟨rfl, rfl, rfl, fun id h =>
        lookup_mapVal_isSome ((servePending_frame _ f now).2.2.2 id h)⟩
    · exact ⟨rfl, rfl, rfl, fun _ h => lookup_mapVal_isSome h⟩
  · exact ⟨rfl, rfl, rfl, fun _ h => lookup_mapVal_isSome h⟩

lemma flow_prune (a : Actor) (hst : a.stage = .pruning) (f : Flags) (res : HalResult Unit) :
    Flow (answered (prune a f res).2) a (prune a f res).1 := by
  have hnil : answered (prune a f res).2 = [] := by
    unfold prune
    simp only
    have hgone : ∀ gone : List (Sigma fun _ : SessionId => ActorSession), answered
        (gone.flatMap (fun e => e.2.reject (sessionClosed "can.receive" a.resource)) ++
          gone.map fun e => Notice.done e.1) = [] := by
      intro gone
      rw [answered_append, answered_flatMap (fun _ => answered_rejected _ _),
        answered_eq_nil (l := gone.map fun e => Notice.done e.1)]
      · rfl
      · intro x hx
        obtain ⟨e, -, rfl⟩ := List.mem_map.mp hx
        rfl
    split
    · rfl
    split
    · exact hgone _
    · exact hgone _
  rw [hnil]
  have hsub : ∀ (ids : List SessionId) id,
      ((Assoc.eraseAll a.sessions ids).lookup id).isSome → (a.sessions.lookup id).isSome := by
    intro ids id h
    rw [Assoc.lookup_eraseAll] at h
    split at h
    · cases h
    · exact h
  unfold prune
  simp only
  split
  · exact .of_commands rfl rfl rfl (by simp [hst]) (by simp) (by simp [Actor.isFinished, hst]) rfl
      (fun _ h => h) rfl
  split
  all_goals
    exact .of_commands rfl rfl rfl (by simp [hst]) (by simp)
      (by simp [Actor.isFinished, hst]) rfl (hsub _) rfl

lemma flow_removeSession (a : Actor) (hst : a.stage = .cleaning (left + 1)) {x : Removal}
    {rest : List Removal} (res : HalResult Unit) :
    Flow (answered (removeSession { a with cleanup := rest, stage := .cleaning left } x res).2) a
      (removeSession { a with cleanup := rest, stage := .cleaning left } x res).1 := by
  have hfin : a.isFinished = false := by simp [Actor.isFinished, hst]
  unfold removeSession
  simp only
  split
  · rw [answered_append, answered_notify, answered_reply]
    exact .of_commands rfl rfl rfl (by simp [hst]) (by simp) hfin rfl
      (fun _ h => h) rfl
  have hsub : ∀ id, ((a.sessions.erase x.sessionId).lookup id).isSome →
      (a.sessions.lookup id).isSome := by
    intro id h
    rw [Assoc.lookup_erase_ite] at h
    split at h
    · cases h
    · exact h
  split
  · rw [answered_append, answered_append, answered_append, answered_append, answered_rejected,
      answered_notify, answered_reply]
    exact .of_commands rfl rfl rfl (by simp [hst]) (by simp) hfin rfl hsub rfl
  · rw [answered_append, answered_append, answered_append, answered_rejected, answered_notify,
      answered_reply]
    exact .of_commands rfl rfl rfl (by simp [hst]) (by simp) hfin rfl hsub rfl

lemma Flow.pass {l : List SessionId} {call : ℕ} (h : Flow l a a') (hs : a.sending = some call)
    (hp : a'.passed = a.passed) (x : CanFrame) :
    Flow l a (a'.pass call x) where
  resource := h.resource
  finished := h.finished
  drained := h.drained
  admissions := h.admissions
  commands := h.commands
  sessions := h.sessions
  sending := h.sending
  passed y hy := by
    have : y = (call, x) := by simpa [Actor.pass, hp] using hy
    rw [this, hs]

theorem flow_step {c : Config} {f : Flags} {e : ActorEvent} {x : Actor × List Notice}
    (h : a.step c f e = some x) : Flow (answered x.2) a x.1 := by
  cases step_does h with
  | opened hst =>
    refine ⟨rfl, fun _ => by simp [Actor.isFinished, hst], fun _ hc => (nomatch hc), ?_,
      List.suffix_rfl, fun id hid => ?_, fun k hk => (nomatch hk), fun y hy => by simp at hy⟩
    · simp [Actor.admissions, hst, answered, Notice.admission]
    · have hmem := AList.lookup_isSome.mp hid
      rw [AList.mem_keys, AList.keys_singleton] at hmem
      exact .inr hmem
  | unopened hst | brokenOpen hst => exact flow_unopened a hst _ _
  | pruned hst => exact flow_prune a hst f _
  | removed hst hc => exact flow_removeSession a hst _
  | cleaned hst =>
    exact .of_commands rfl rfl rfl (by simp [hst]) (by simp) (by simp [Actor.isFinished, hst]) rfl
      (fun _ h => h) rfl
  | executed hst hc => exact flow_managed hst hc f _ _
  | managed hst _ hnext =>
    rcases hnext with rfl | rfl <;>
    exact .of_commands rfl rfl rfl (by simp [hst]) (by simp) (by simp [Actor.isFinished, hst]) rfl
      (fun _ h => h) rfl
  | @refused _ call _ _ _ y _ hst | @sent call _ _ _ y hst =>
    -- the batch is over
    have hend (count left : ℕ) : Flow [] a { a.releaseTx count with stage := .managing left } :=
      .of_commands rfl rfl rfl (by simp [hst]) (by simp) (by simp [Actor.isFinished, hst]) rfl
        (fun _ h => h) rfl
    exact (hend _ _).pass (by simp [Actor.sending, hst]) rfl y
  | @passed call count committed left y rest hst =>
    have hsend : a.sending = some call := by simp [Actor.sending, hst]
    have hgo : Flow [] a { a with stage := .sending call count rest (committed + 1) left } := by
      refine ⟨rfl, fun _ => by simp [Actor.isFinished, hst], fun _ hc => (nomatch hc), ?_,
        List.suffix_rfl, fun _ => .inl, fun k hk => .inl ⟨?_, rfl⟩, fun y hy => by simp at hy⟩
      · simp [Actor.admissions, hst]
      · rw [hsend]; exact hk
    exact hgo.pass hsend rfl y
  | @polled res now hst =>
    obtain ⟨hr, hc, hp, hs⟩ := poll_frame a c f now res
    simp only [answered_poll]
    exact .of_commands hr hc hp (by simp [hst]) (by simp)
      (by simp [Actor.isFinished, hst]) rfl hs rfl
  | @served now hst =>
    obtain ⟨hr, hc, hp, hs⟩ := servePending_frame a f now
    simp only [answered_servePending]
    exact .of_commands hr hc hp (by simp [hst]) (by simp)
      (by simp [Actor.isFinished, hst]) rfl hs rfl
  | drained hst =>
    refine ⟨rfl, fun _ => by simp [Actor.isFinished, hst], fun _ _ => rfl, ?_, List.nil_suffix,
      fun _ => .inl, fun k hk => (nomatch hk), fun y hy => by simp [Actor.rejectRemaining] at hy⟩
    simp [Actor.rejectRemaining, Actor.admissions, hst, admitted]
  | left hst => exact flow_abandon a (by simp [hst]) (by simp [Actor.isFinished, hst]) _
  | brokenSend hst =>
    exact (flow_abandon a (by simp [hst]) (by simp [Actor.isFinished, hst]) _).pass
      (by simp [Actor.sending, hst]) rfl _
  | broken hst =>
    rcases hst with hst | ⟨_, hst⟩ | ⟨_, hst⟩ | hst <;>
    exact flow_abandon a (by simp [hst]) (by simp [Actor.isFinished, hst]) _
  | completed hst hl =>
    refine ⟨rfl, fun hf => (nomatch hf), fun hd _ => hd (by simp [Actor.connected, hst]), ?_,
      List.suffix_rfl, fun _ => .inl, fun k hk => (nomatch hk), fun y hy => by simp at hy⟩
    rcases hl with rfl | rfl <;> simp [Actor.admissions, hst, answered, Notice.admission]

end RobotHal.CanActor
