import RobotHal.CanFlow
import RobotHal.LossyQueue

/-!
What one session of a CAN actor sees.

The sessions of an actor share its loop, but a session's ring, its counter and its answers depend
only on what the channel brought and on the commands that name it. A desk is a session by
itself, with its account of arrivals and answers; the actor is as many desks side by side.
-/

namespace RobotHal.CanActor

variable {x : ActorSession} {n : Notice} {now left call : ℕ} {y : Answer}
  {answer : HalResult CanBusStatus} {cmd : CanCommand} {fs : List ReceivedCanFrame}

/-- The answer to a receive. -/
structure Answer where
  call : ℕ
  maxFrames : ℕ
  result : HalResult (List ReceivedCanFrame)
deriving DecidableEq

/-- The frames an answer hands over. -/
def Answer.frames (x : Answer) : List ReceivedCanFrame :=
  match x.result with
  | .ok fs => fs
  | .error _ => []

/-- What reaches a session. `gone` says whether the caller it keeps waiting is gone. -/
inductive Input
  | add (filters : CanFilterSet)
  | remove
  | receive (call maxFrames deadline now : ℕ)
  | filters (filters : CanFilterSet)
  | poll (res : HalResult (Option ReceivedCanFrame)) (now : ℕ) (gone : Bool)
  | serve (now : ℕ) (gone : Bool)
deriving DecidableEq

/-! ### A session by itself -/

/-- The frame a `receive` of the channel brought, if it is a valid one. -/
def validFrame : HalResult (Option ReceivedCanFrame) → Option ReceivedCanFrame
  | .ok (some frame) => if frame.frame.validate.isOk then some frame else none
  | _ => none

namespace ActorSession

variable (x : ActorSession) (r : ResourceId)

/-- The answer to the receive that waits. -/
def service (gone : Bool) (now : ℕ) : ActorSession × List Answer :=
  match x.pendingReceive with
  | none => (x, [])
  | some p =>
    let x := { x with pendingReceive := none }
    if gone then (x, [])
    else
      match takeReceiveResult x p.maxFrames r with
      | (x, some result) => (x, [⟨p.call, p.maxFrames, result⟩])
      | (x, none) =>
        if now ≥ p.deadline then (x, [⟨p.call, p.maxFrames, .ok []⟩])
        else ({ x with pendingReceive := some p }, [])

/-- A receive is answered, or kept waiting. -/
def receive (call maxFrames deadline now : ℕ) : ActorSession × List Answer :=
  if x.pendingReceive.isSome then
    (x, [⟨call, maxFrames, .error
      ((queueFull "can.receive" maxPendingReceivesPerSession).withResourceId r)⟩])
  else
    match takeReceiveResult x maxFrames r with
    | (x, some result) => (x, [⟨call, maxFrames, result⟩])
    | (x, none) =>
      if now ≥ deadline then (x, [⟨call, maxFrames, .ok []⟩])
      else ({ x with pendingReceive := some ⟨call, maxFrames, deadline⟩ }, [])

/-- What the channel brought, before anyone is answered. -/
def polled (cap : ℕ) : HalResult (Option ReceivedCanFrame) → ActorSession
  | .ok none => x
  | .ok (some frame) =>
    match frame.frame.validate with
    | .ok _ => offer cap frame x
    | .error e => { x with receiveError := some (e.withResourceId r) }
  | .error e => receiveFailed e x

def poll (cap : ℕ) (res : HalResult (Option ReceivedCanFrame)) (now : ℕ) (gone : Bool) :
    ActorSession × List Answer :=
  if (validFrame res).isSome then (x.polled r cap res).service r gone now
  else (x.polled r cap res, [])

/-- The frames that arrived for the session. -/
def arrivals (res : HalResult (Option ReceivedCanFrame)) : List ReceivedCanFrame :=
  (validFrame res).toList.filter fun frame => x.filters.matches frame.frame

/-- The receive that waits is turned away. -/
def turnAway : List Answer :=
  match x.pendingReceive with
  | none => []
  | some p => [⟨p.call, p.maxFrames, .error (sessionClosed "can.receive" r)⟩]

end ActorSession

/-- A session with everything that arrived for it and everything it was asked and answered
since its admission. -/
structure Desk where
  session : Option ActorSession := none
  arrived : List ReceivedCanFrame := []
  answers : List Answer := []
deriving DecidableEq

namespace Desk

/-- The session goes on, with a frame and with some answers. -/
def next (d : Desk) (frames : List ReceivedCanFrame) (x : ActorSession × List Answer) : Desk where
  session := some x.1
  arrived := d.arrived ++ frames
  answers := d.answers ++ x.2

def step (cap : ℕ) (r : ResourceId) (d : Desk) (i : Input) : Desk :=
  match i, d.session with
  | .add filters, _ => { session := some { filters } }
  | _, none => d
  | .remove, some x => { d with session := none, answers := d.answers ++ x.turnAway r }
  | .receive call maxFrames deadline now, some x =>
    d.next [] (x.receive r call maxFrames deadline now)
  | .filters filters, some x => d.next [] ({ x with filters }, [])
  | .poll res now gone, some x => d.next (x.arrivals res) (x.poll r cap res now gone)
  | .serve now gone, some x => d.next [] (x.service r gone now)

def run (cap : ℕ) (r : ResourceId) (l : List Input) : Desk := l.foldl (step cap r) {}

end Desk

/-! ### The inputs of the sessions of an actor -/

/-- The caller that a session keeps waiting is gone. -/
def Actor.gone (a : Actor) (f : Flags) (id : SessionId) : Bool :=
  (a.sessions.lookup id).any fun x => x.pendingReceive.any fun p => f.closed p.call

/-- What a command brings to a session. -/
def CanCommand.input (a : Actor) (f : Flags) (now : ℕ) (id : SessionId) :
    CanCommand → Option Input
  | .addSession spec =>
    if spec.sessionId = id ∧ f.cancelled id = false ∧ (admission a spec).isOk then
      some (.add spec.filters)
    else none
  | .receive call id' maxFrames deadline =>
    if id' = id then some (.receive call maxFrames deadline now) else none
  | .replaceFilters _ id' filters => if id' = id then some (.filters filters) else none
  | .sendBatch _ _ _ => none
  | .busStatus _ _ => none

/-- What a step of the actor brings to a session. -/
def Actor.input (a : Actor) (f : Flags) (e : ActorEvent) (id : SessionId) : Option Input :=
  match e, a.stage with
  | .opened (.ok _), .opening =>
    if id = a.first.sessionId then some (.add a.first.filters) else some .remove
  | .prune _, .pruning => if f.stale id then some .remove else none
  | .clean _, .cleaning left =>
    match left, a.cleanup with
    | _ + 1, x :: _ => if x.sessionId = id then some .remove else none
    | _, _ => none
  | .manage now _, .managing left =>
    match left, a.commands with
    | _ + 1, cmd :: _ => cmd.input a f now id
    | _, _ => none
  | .poll res now, .polling => some (.poll res now (a.gone f id))
  | .serve now, .serving => some (.serve now (a.gone f id))
  | _, _ => none

/-! ### The actor as desks -/

/-- An answer as the actor gives it. -/
def Answer.notice (x : Answer) : Notice := .answered x.call (some (.frames x.result))

/-- A step that may bring nothing. -/
def Desk.step? (cap : ℕ) (r : ResourceId) (d : Desk) : Option Input → Desk
  | none => d
  | some i => d.step cap r i

variable {c : Config} {a a' : Actor} {f : Flags} {e : ActorEvent} {l : List Notice}
  {id : SessionId} {d : Desk}

lemma servicePending_eq (r : ResourceId) (closed : ℕ → Bool) (now : ℕ) (x : ActorSession) :
    servicePending r closed now x =
      let y := x.service r (x.pendingReceive.any fun p => closed p.call) now
      (y.1, y.2.map Answer.notice) := by
  unfold servicePending ActorSession.service
  rcases hp : x.pendingReceive with _ | p
  · rfl
  rcases hc : closed p.call with _ | _
  · rcases ht : takeReceiveResult { x with pendingReceive := none } p.maxFrames r with ⟨y, _ | res⟩
    · by_cases hd : now ≥ p.deadline
      · simp [hc, ht, hd, Answer.notice]
      · simp [hc, ht, hd]
    · simp [hc, ht, Answer.notice]
  · simp [hc]

lemma lookup_servePending (now : ℕ) :
    (servePending a f now).1.sessions.lookup id =
      (a.sessions.lookup id).map fun x => (x.service a.resource (a.gone f id) now).1 := by
  unfold servePending
  rw [Assoc.lookup_mapVal]
  rcases h : a.sessions.lookup id with _ | x
  · rfl
  · simp [servicePending_eq, Actor.gone, h]

lemma desk_serve (hd : d.session = a.sessions.lookup id) (now : ℕ) :
    (servePending a f now).1.sessions.lookup id =
      (d.step c.rxCapacity a.resource (.serve now (a.gone f id))).session := by
  rw [lookup_servePending, ← hd]
  rcases h : d.session with _ | x <;> simp [Desk.step, h, Desk.next]

@[simp] lemma offer_pendingReceive (cap : ℕ) (frame : ReceivedCanFrame) (x : ActorSession) :
    (offer cap frame x).pendingReceive = x.pendingReceive := by
  unfold offer
  split
  · rfl
  · dsimp only
    split <;> rfl

lemma desk_poll (hd : d.session = a.sessions.lookup id) (now : ℕ)
    (res : HalResult (Option ReceivedCanFrame)) :
    (poll a c f now res).1.sessions.lookup id =
      (d.step c.rxCapacity a.resource (.poll res now (a.gone f id))).session := by
  rcases res with err | _ | frame
  · rw [poll, Assoc.lookup_mapVal, ← hd]
    rcases h : d.session with _ | x <;>
      simp [Desk.step, h, Desk.next, ActorSession.poll, validFrame, ActorSession.polled]
  · rw [poll, ← hd]
    rcases h : d.session with _ | x <;>
      simp [Desk.step, h, Desk.next, ActorSession.poll, validFrame, ActorSession.polled]
  · rcases hv : frame.frame.validate with err | ⟨⟩
    · simp only [poll, hv]
      rw [Assoc.lookup_mapVal, ← hd]
      rcases h : d.session with _ | x <;>
        simp [Desk.step, h, Desk.next, ActorSession.poll, validFrame, ActorSession.polled, hv,
          Except.isOk, Except.toBool]
    · simp only [poll, hv, fanOut]
      rw [lookup_servePending]
      simp only [Assoc.lookup_mapVal, Actor.gone, ← hd]
      rcases h : d.session with _ | x <;>
        simp [Desk.step, h, Desk.next, ActorSession.poll, validFrame, ActorSession.polled, hv,
          Except.isOk, Except.toBool]

lemma desk_remove (hd : d.session = a.sessions.lookup id) (p : Prop) [Decidable p] :
    (d.step? c.rxCapacity a.resource (if p then some .remove else none)).session =
      if p then none else a.sessions.lookup id := by
  split
  · rcases h : d.session with _ | x <;> simp [Desk.step?, Desk.step, h]
  · exact hd

lemma desk_removeSession (hd : d.session = a.sessions.lookup id) (x : Removal)
    (res : HalResult Unit) :
    (removeSession a x res).1.sessions.lookup id =
      (d.step? c.rxCapacity a.resource
        (if x.sessionId = id then some .remove else none)).session := by
  rw [desk_remove hd]
  unfold removeSession
  dsimp only
  split
  next h =>
    split
    next hid => exact hid ▸ h
    · rfl
  next removed h =>
    split <;> simp [Assoc.lookup_erase_ite, eq_comm]

lemma lookup_prune (res : HalResult Unit) : (prune a f res).1.sessions.lookup id =
    if f.stale id then none else a.sessions.lookup id := by
  have hmem : id ∈ (a.sessions.entries.filter fun e => f.stale e.1).map Sigma.fst ↔
      f.stale id = true ∧ (a.sessions.lookup id).isSome := by
    rw [Assoc.mem_pick, Option.isSome_iff_exists]
    constructor
    · rintro ⟨_, x, hx, hs, rfl⟩
      exact ⟨hs, x, hx⟩
    · rintro ⟨hs, x, hx⟩
      exact ⟨id, x, hx, hs, rfl⟩
  have hrest : (Assoc.eraseAll a.sessions
      ((a.sessions.entries.filter fun e => f.stale e.1).map Sigma.fst)).lookup id =
      if f.stale id then none else a.sessions.lookup id := by
    rw [Assoc.lookup_eraseAll]
    rcases hx : a.sessions.lookup id with _ | x
    · simp
    · simp only [hmem, hx, Option.isSome_some, and_true]
  unfold prune
  dsimp only
  split
  next hempty =>
    rw [← hrest, List.isEmpty_iff.mp hempty]
    rfl
  · split <;> exact hrest

lemma takeReceiveResult_none {y : ActorSession} {maxFrames : ℕ} {r : ResourceId}
    (h : takeReceiveResult x maxFrames r = (y, none)) : y = x := by
  unfold takeReceiveResult at h
  split at h
  · cases h
  split at h
  · cases h
  split at h
  · exact (Prod.mk.inj h).1.symm
  · cases h

lemma lookup_receive (now call maxFrames deadline : ℕ) {id' : SessionId} :
    (receive a now call id' maxFrames deadline).1.sessions.lookup id =
      if id' = id then
        (a.sessions.lookup id).map fun x =>
          (x.receive a.resource call maxFrames deadline now).1
      else a.sessions.lookup id := by
  unfold receive
  rcases hx : a.sessions.lookup id' with _ | x
  · by_cases hid : id' = id
    · subst hid
      simp [hx]
    · simp [hid]
  · by_cases hp : x.pendingReceive.isSome
    · by_cases hid : id' = id
      · subst hid
        simp [hx, hp, ActorSession.receive]
      · simp [hid, hp]
    · rcases ht : takeReceiveResult x maxFrames a.resource with ⟨y, _ | res⟩
      · obtain rfl := takeReceiveResult_none ht
        by_cases hid : id' = id
        · subst hid
          by_cases hn : now ≥ deadline <;> simp [hx, hp, ht, hn, ActorSession.receive]
        · by_cases hn : now ≥ deadline <;> simp [hid, hp, ht, hn, Ne.symm hid]
      · by_cases hid : id' = id
        · subst hid
          simp [hx, hp, ht, ActorSession.receive]
        · simp [hid, hp, ht, Ne.symm hid]

lemma lookup_replaceFilters (call : ℕ) (filters : CanFilterSet) {id' : SessionId} :
    (replaceFilters a call id' filters).1.sessions.lookup id =
      if id' = id then (a.sessions.lookup id).map fun x => { x with filters }
      else a.sessions.lookup id := by
  unfold replaceFilters
  rcases hx : a.sessions.lookup id' with _ | x
  · by_cases hid : id' = id
    · subst hid
      simp [hx]
    · simp [hid]
  · by_cases hid : id' = id
    · subst hid
      simp [hx]
    · simp [hid, Ne.symm hid]

lemma desk_execute (hd : d.session = a.sessions.lookup id) (now : ℕ)
    (answer : HalResult CanBusStatus) (left : ℕ) (cmd : CanCommand) :
    (execute a f now answer left cmd).1.sessions.lookup id =
      (d.step? c.rxCapacity a.resource (cmd.input a f now id)).session := by
  cases cmd with
  | addSession spec =>
    simp only [execute, addSession, CanCommand.input]
    rcases hf : f.cancelled spec.sessionId with _ | _
    · rcases hadm : admission a spec with err | ⟨⟩
      · simp [Desk.step?, hd, Except.isOk, Except.toBool]
      · by_cases hid : spec.sessionId = id
        · subst hid
          simp [Desk.step?, Desk.step, hf, Except.isOk, Except.toBool]
        · simp [Desk.step?, hid, hd, Ne.symm hid]
    · by_cases hid : spec.sessionId = id
      · subst hid
        simp [Desk.step?, hd, hf]
      · simp [Desk.step?, hd, hid]
  | sendBatch call id' frames =>
    simp only [execute, sendBatch, CanCommand.input, Desk.step?, hd]
    split <;> rfl
  | receive call id' maxFrames deadline =>
    simp only [execute, CanCommand.input]
    rw [lookup_receive, ← hd]
    split
    · rcases h : d.session with _ | x <;> simp [Desk.step?, Desk.step, h, Desk.next]
    · rfl
  | replaceFilters call id' filters =>
    simp only [execute, CanCommand.input]
    rw [lookup_replaceFilters, ← hd]
    split
    · rcases h : d.session with _ | x <;> simp [Desk.step?, Desk.step, h, Desk.next]
    · rfl
  | busStatus call id' =>
    simp only [execute, busStatus, CanCommand.input, Desk.step?, hd]
    split <;> rfl

/-- In a step of the actor every session does what its desk does. -/
theorem desk_step {x : Actor × List Notice} (hd : d.session = a.sessions.lookup id)
    (h : a.step c f e = some x) :
    x.1.sessions.lookup id = (d.step? c.rxCapacity a.resource (a.input f e id)).session := by
  cases step_does h with
  | opened hst =>
    simp only [Actor.input, hst, Assoc.lookup_singleton_ite]
    split
    · rfl
    · rcases hs : d.session with _ | x <;> simp [Desk.step?, Desk.step, hs]
  | pruned hst =>
    simp only [Actor.input, hst]
    rw [desk_remove hd, lookup_prune]
  | @removed _ _ y rest hst hc =>
    simp only [Actor.input, hst, hc]
    exact desk_removeSession (a := { a with cleanup := rest, stage := _ }) hd y _
  | @executed now answer _ cmd rest hst hc =>
    simp only [Actor.input, hst, hc]
    exact desk_execute (a := { a with commands := rest, stage := _ }) hd now answer _ cmd
  | cleaned hst hno | managed hst hno =>
    rcases hno with rfl | hno <;> simp [Actor.input, Desk.step?, *]
  | @polled res now hst =>
    simp only [Actor.input, hst]
    exact desk_poll hd now res
  | @served now hst =>
    simp only [Actor.input, hst]
    exact desk_serve hd now
  | unopened | refused | sent | passed | drained | left | brokenOpen | brokenSend | broken
  | completed => exact hd.symm

/-! ### Answers and notices -/

/-- The answers a step of the actor gives on a session. -/
def Actor.answers (c : Config) (a : Actor) (f : Flags) (e : ActorEvent) (id : SessionId) :
    List Answer :=
  (({ session := a.sessions.lookup id } : Desk).step? c.rxCapacity a.resource
    (a.input f e id)).answers

lemma Desk.step?_answers (cap : ℕ) (r : ResourceId) (d : Desk) {o : Option Input}
    (ho : ∀ filters, o ≠ some (.add filters)) :
    (d.step? cap r o).answers =
      d.answers ++ (({ session := d.session } : Desk).step? cap r o).answers := by
  rcases o with _ | i
  · simp [Desk.step?]
  rcases hs : d.session with _ | x <;> cases i <;> simp [Desk.step?, Desk.step, hs, Desk.next]
  all_goals exact absurd rfl (ho _)

lemma mem_servePending : n ∈ (servePending a f now).2 ↔
    ∃ id x, a.sessions.lookup id = some x ∧
      ∃ y ∈ (x.service a.resource (a.gone f id) now).2, y.notice = n := by
  unfold servePending
  simp only [List.mem_flatMap]
  constructor
  · rintro ⟨⟨id, x⟩, hx, hn⟩
    have hl := Assoc.mem_entries_iff.mp hx
    refine ⟨id, x, hl, ?_⟩
    simpa [servicePending_eq, Actor.gone, hl] using hn
  · rintro ⟨id, x, hl, hy⟩
    refine ⟨⟨id, x⟩, Assoc.mem_entries_iff.mpr hl, ?_⟩
    simpa [servicePending_eq, Actor.gone, hl] using hy

lemma reject_eq_turnAway (x : ActorSession) (r : ResourceId) :
    x.reject (sessionClosed "can.receive" r) = (x.turnAway r).map Answer.notice := by
  unfold ActorSession.reject ActorSession.turnAway
  rcases x.pendingReceive with _ | p <;> rfl

lemma receive_notices (now call m deadline : ℕ) {id : SessionId}
    (hx : a.sessions.lookup id = some x) : (receive a now call id m deadline).2 =
      (x.receive a.resource call m deadline now).2.map Answer.notice := by
  unfold receive ActorSession.receive
  simp only [hx]
  split
  · rfl
  · rcases ht : takeReceiveResult x m a.resource with ⟨y, _ | res⟩
    · by_cases hn : now ≥ deadline <;> simp [hn, Answer.notice]
    · rfl

/-- The actor has no sessions before its channel is open. -/
def Actor.Blank (a : Actor) : Prop := a.stage = .opening → ∀ id, a.sessions.lookup id = none

lemma prune_notices {res : HalResult Unit} (hx : a.sessions.lookup id = some x)
    (hs : f.stale id = true) (hy : y ∈ x.turnAway a.resource) : y.notice ∈ (prune a f res).2 := by
  have hgone : (⟨id, x⟩ : Sigma fun _ : SessionId => ActorSession) ∈
      a.sessions.entries.filter fun e => f.stale e.1 :=
    List.mem_filter.mpr ⟨Assoc.mem_entries_iff.mpr hx, hs⟩
  have hin : y.notice ∈ (a.sessions.entries.filter fun e => f.stale e.1).flatMap fun e =>
      e.2.reject (sessionClosed "can.receive" a.resource) := by
    refine List.mem_flatMap.mpr ⟨_, hgone, ?_⟩
    rw [reject_eq_turnAway]
    exact List.mem_map.mpr ⟨y, hy, rfl⟩
  unfold prune
  dsimp only
  split
  next hempty =>
    rw [List.isEmpty_iff.mp hempty] at hgone
    cases hgone
  · split <;> exact List.mem_append.mpr (.inl hin)

lemma removeSession_notices {res : HalResult Unit} {m : Removal}
    (hx : a.sessions.lookup m.sessionId = some x) (hy : y ∈ x.turnAway a.resource) :
    y.notice ∈ (removeSession a m res).2 := by
  have hin : y.notice ∈ x.reject (sessionClosed "can.receive" a.resource) := by
    rw [reject_eq_turnAway]
    exact List.mem_map.mpr ⟨y, hy, rfl⟩
  unfold removeSession
  simp only [hx]
  split <;> simp [hin]

lemma execute_notices
    (hy : y ∈ (({ session := a.sessions.lookup id } : Desk).step? c.rxCapacity a.resource
      (cmd.input a f now id)).answers) : y.notice ∈ (execute a f now answer left cmd).2 := by
  cases cmd with
  | addSession spec =>
    simp only [CanCommand.input] at hy
    split at hy <;> simp [Desk.step?, Desk.step] at hy
  | receive call id' m deadline =>
    simp only [CanCommand.input] at hy
    split at hy
    next hid =>
      subst hid
      rcases hx : a.sessions.lookup id' with _ | z
      · simp [Desk.step?, Desk.step, hx] at hy
      · simp only [execute, receive_notices now call m deadline hx]
        exact List.mem_map.mpr ⟨y, by simpa [Desk.step?, Desk.step, hx, Desk.next] using hy, rfl⟩
    · simp [Desk.step?] at hy
  | replaceFilters call id' filters =>
    simp only [CanCommand.input] at hy
    split at hy
    · rcases hx : a.sessions.lookup id with _ | z <;>
        simp [Desk.step?, Desk.step, hx, Desk.next] at hy
    · simp [Desk.step?] at hy
  | sendBatch call id' frames | busStatus call id' => simp [CanCommand.input, Desk.step?] at hy

lemma mem_fanOut {frame : ReceivedCanFrame} :
    n ∈ (fanOut a c f now frame).2 ↔ ∃ id x, a.sessions.lookup id = some x ∧
      ∃ y ∈ ((offer c.rxCapacity frame x).service a.resource (a.gone f id) now).2,
        y.notice = n := by
  unfold fanOut
  rw [mem_servePending]
  simp only [Assoc.lookup_mapVal, Option.map_eq_some_iff]
  constructor
  · rintro ⟨id, -, ⟨x, hx, rfl⟩, hy⟩
    exact ⟨id, x, hx, by simpa [Actor.gone, Assoc.lookup_mapVal, hx] using hy⟩
  · rintro ⟨id, x, hx, hy⟩
    exact ⟨id, _, ⟨x, hx, rfl⟩, by simpa [Actor.gone, Assoc.lookup_mapVal, hx] using hy⟩

lemma poll_notices {res : HalResult (Option ReceivedCanFrame)} (hx : a.sessions.lookup id = some x)
    (hy : y ∈ (x.poll a.resource c.rxCapacity res now (a.gone f id)).2) :
    y.notice ∈ (poll a c f now res).2 := by
  rcases res with err | _ | frame
  · simp [ActorSession.poll, validFrame] at hy
  · simp [ActorSession.poll, validFrame] at hy
  · rcases hv : frame.frame.validate with err | ⟨⟩
    · simp [ActorSession.poll, validFrame, hv, Except.isOk, Except.toBool] at hy
    · simp only [poll, hv]
      refine mem_fanOut.mpr ⟨id, x, hx, y, ?_, rfl⟩
      simpa [ActorSession.poll, ActorSession.polled, validFrame, hv, Except.isOk, Except.toBool]
        using hy

lemma told_of_answer {x : Actor × List Notice} (ho : a.Blank) (h : a.step c f e = some x)
    (hy : y ∈ a.answers c f e id) : y.notice ∈ x.2 := by
  unfold Actor.answers at hy
  cases step_does h with
  | opened hst =>
    simp only [Actor.input, hst] at hy
    split at hy <;> simp [Desk.step?, Desk.step, ho hst id] at hy
  | pruned hst =>
    simp only [Actor.input, hst] at hy
    split at hy
    next hs =>
      rcases hx : a.sessions.lookup id with _ | z
      · simp [Desk.step?, Desk.step, hx] at hy
      · exact prune_notices hx hs (by simpa [Desk.step?, Desk.step, hx] using hy)
    · simp [Desk.step?] at hy
  | @removed _ _ m rest hst hc =>
    simp only [Actor.input, hst, hc] at hy
    split at hy
    next hid =>
      subst hid
      rcases hx : a.sessions.lookup m.sessionId with _ | z
      · simp [Desk.step?, Desk.step, hx] at hy
      · exact removeSession_notices (a := { a with cleanup := rest, stage := _ }) hx
          (by simpa [Desk.step?, Desk.step, hx] using hy)
    · simp [Desk.step?] at hy
  | @executed _ _ _ _ rest hst hc =>
    simp only [Actor.input, hst, hc] at hy
    exact execute_notices (a := { a with commands := rest, stage := _ }) hy
  | cleaned hst hno | managed hst hno =>
    rcases hno with rfl | hno <;> simp [Actor.input, Desk.step?, *] at hy
  | polled hst =>
    simp only [Actor.input, hst] at hy
    rcases hx : a.sessions.lookup id with _ | z
    · simp [Desk.step?, Desk.step, hx] at hy
    · exact poll_notices hx (by simpa [Desk.step?, Desk.step, hx, Desk.next] using hy)
  | served hst =>
    simp only [Actor.input, hst] at hy
    rcases hx : a.sessions.lookup id with _ | z
    · simp [Desk.step?, Desk.step, hx] at hy
    · exact mem_servePending.mpr ⟨id, z, hx, y,
        by simpa [Desk.step?, Desk.step, hx, Desk.next] using hy, rfl⟩
  | unopened | refused | sent | passed | drained | left | brokenOpen | brokenSend | broken
  | completed => simp [Actor.input, Desk.step?] at hy

/-! ### Where notices come from -/

/-- The notice is about an open or a close. -/
def Notice.aside : Notice → Bool
  | .answered _ _ | .health _ _ => false
  | _ => true

/-- What the call of a command is told that no session answers. -/
inductive CanCommand.Told : CanCommand → ℕ → Option OpReply → Prop
  | lost {cmd : CanCommand} {k : ℕ} (h : cmd.call = some k) : Told cmd k none
  | batch {k : ℕ} {id : SessionId} {frames : List CanFrame} {err : HalError} :
      Told (.sendBatch k id frames) k (some (.batch (.error (.new err))))
  | empty {k : ℕ} {id : SessionId} : Told (.sendBatch k id []) k (some (.batch (.ok ())))
  | receive {k m deadline : ℕ} {id : SessionId} {err : HalError} :
      Told (.receive k id m deadline) k (some (.frames (.error err)))
  | filters {k : ℕ} {id : SessionId} {filters : CanFilterSet} {res : HalResult Unit} :
      Told (.replaceFilters k id filters) k (some (.replaced res))
  | status {k : ℕ} {id : SessionId} {res : HalResult CanBusStatus} :
      Told (.busStatus k id) k (some (.status res))

lemma CanCommand.Told.caller {k : ℕ} {res : Option OpReply} (h : cmd.Told k res) :
    cmd.call = some k := by
  cases h with
  | lost h => exact h
  | _ => rfl

/-- What a step tells. -/
inductive Tells (c : Config) (a : Actor) (f : Flags) (e : ActorEvent) : Notice → Prop
  | aside {n : Notice} (h : n.aside = true) : Tells c a f e n
  | answer (id : SessionId) {k m : ℕ} {res : HalResult (List ReceivedCanFrame)}
      (h : ⟨k, m, res⟩ ∈ a.answers c f e id) : Tells c a f e (.answered k (some (.frames res)))
  | command {cmd : CanCommand} {k : ℕ} {res : Option OpReply} (hmem : cmd ∈ a.commands)
      (h : cmd.Told k res) : Tells c a f e (.answered k res)
  /-- a receive is dropped with its session -/
  | lost {id : SessionId} {x : ActorSession} {p : PendingReceive}
      (hx : a.sessions.lookup id = some x) (hp : x.pendingReceive = some p) :
      Tells c a f e (.answered p.call none)
  | health {id : SessionId} {state : CanBusState} {left : ℕ} (hst : a.stage = .managing left)
      (hx : (a.sessions.lookup id).isSome) : Tells c a f e (.health id state)
  | refused {k count committed left : ℕ} {y : CanFrame} {rest : List CanFrame} {err : HalError}
      (hst : a.stage = .sending k count (y :: rest) committed left) (he : e = .frame (.error err)) :
      Tells c a f e (.answered k (some (.batch (.error (.backendPrefix err committed)))))
  | sent {k count committed left : ℕ} {y : CanFrame}
      (hst : a.stage = .sending k count [y] committed left) (he : e = .frame (.ok ())) :
      Tells c a f e (.answered k (some (.batch (.ok ()))))
  | broken {k count committed left : ℕ} {y : CanFrame} {rest : List CanFrame}
      (hst : a.stage = .sending k count (y :: rest) committed left) (he : e = .panicked) :
      Tells c a f e (.answered k none)

section Tells

variable {res : HalResult Unit} {x : Removal} {rest : List Removal}

lemma aside_reply {out : Option RemoveOutcome} (h : n ∈ x.reply out) : n.aside = true := by
  unfold Removal.reply at h
  split at h
  · obtain rfl := List.mem_singleton.mp h
    rfl
  · cases h

lemma aside_notify (h : n ∈ x.notify) : n.aside = true := by
  unfold Removal.notify at h
  split at h
  · obtain rfl := List.mem_singleton.mp h
    rfl
  · cases h

lemma tells_abandon (h : n ∈ (a.abandon res).2) : Tells c a f e n := by
  rcases List.mem_append.mp h with h | h
  · rcases List.mem_append.mp h with h | h
    · obtain ⟨x, -, hx⟩ := List.mem_flatMap.mp h
      exact .aside (aside_reply hx)
    · obtain ⟨cmd, hmem, hcmd⟩ := List.mem_flatMap.mp h
      cases cmd with
      | addSession spec =>
        obtain rfl := List.mem_singleton.mp hcmd
        exact .aside rfl
      | _ =>
        obtain rfl := List.mem_singleton.mp hcmd
        exact .command hmem (.lost rfl)
  · obtain ⟨⟨id, y⟩, hmem, hy⟩ := List.mem_flatMap.mp h
    dsimp only at hy
    split at hy
    · rename_i p hp
      obtain rfl := List.mem_singleton.mp hy
      exact .lost (Assoc.mem_entries_iff.mp hmem) hp
    · cases hy

lemma tells_rejectRemaining (h : n ∈ a.rejectRemaining.2) : Tells c a f e n := by
  rcases List.mem_append.mp h with h | h
  · obtain ⟨x, -, hx⟩ := List.mem_flatMap.mp h
    exact .aside ((List.mem_append.mp hx).elim aside_notify aside_reply)
  · obtain ⟨cmd, hmem, hcmd⟩ := List.mem_flatMap.mp h
    cases cmd with
    | addSession spec => rcases List.mem_pair.mp hcmd with rfl | rfl <;> exact .aside rfl
    | sendBatch =>
      obtain rfl := List.mem_singleton.mp hcmd
      exact .command hmem .batch
    | receive =>
      obtain rfl := List.mem_singleton.mp hcmd
      exact .command hmem .receive
    | replaceFilters =>
      obtain rfl := List.mem_singleton.mp hcmd
      exact .command hmem .filters
    | busStatus =>
      obtain rfl := List.mem_singleton.mp hcmd
      exact .command hmem .status

lemma tells_prune (hst : a.stage = .pruning) (h : n ∈ (prune a f res).2) :
    Tells c a f (.prune res) n := by
  unfold prune at h
  dsimp only at h
  split at h
  · cases h
  split at h
  all_goals
    rcases List.mem_append.mp h with h | h
    · -- a receive of a session that was let go
      obtain ⟨⟨id, y⟩, hmem, hy⟩ := List.mem_flatMap.mp h
      obtain ⟨hmem, hs⟩ := List.mem_filter.mp hmem
      rw [reject_eq_turnAway] at hy
      obtain ⟨z, hz, rfl⟩ := List.mem_map.mp hy
      refine .answer id (m := z.maxFrames) ?_
      simpa [Actor.answers, Actor.input, hst, hs, Desk.step?, Desk.step,
        Assoc.mem_entries_iff.mp hmem] using hz
    · obtain ⟨y, -, rfl⟩ := List.mem_map.mp h
      exact .aside rfl

lemma tells_removeSession (hst : a.stage = .cleaning (left + 1)) (hc : a.cleanup = x :: rest)
    (h : n ∈ (removeSession { a with cleanup := rest, stage := .cleaning left } x res).2) :
    Tells c a f (.clean res) n := by
  unfold removeSession at h
  dsimp only at h
  split at h
  · -- an unknown session
    exact .aside ((List.mem_append.mp h).elim aside_notify aside_reply)
  · rename_i y hy
    have hn : n ∈ y.reject (sessionClosed "can.receive" a.resource) ∨ n.aside = true := by
      split at h <;> simp only [List.mem_append, List.mem_singleton] at h
      · rcases h with (((h | rfl) | h) | rfl) | h
        exacts [.inl h, .inr rfl, .inr (aside_reply h), .inr rfl, .inr (aside_notify h)]
      · rcases h with ((h | rfl) | h) | h
        exacts [.inl h, .inr rfl, .inr (aside_notify h), .inr (aside_reply h)]
    rcases hn with hn | hn
    · -- the receive that waited
      rw [reject_eq_turnAway] at hn
      obtain ⟨z, hz, rfl⟩ := List.mem_map.mp hn
      refine .answer x.sessionId (m := z.maxFrames) ?_
      simpa [Actor.answers, Actor.input, hst, hc, Desk.step?, Desk.step, hy] using hz
    · exact .aside hn

/-- A command hands frames over to the session it is a receive of, and reports on the bus to the
sessions the actor has. -/
lemma tells_execute {rest : List CanCommand} (hst : a.stage = .managing (left + 1))
    (hc : a.commands = cmd :: rest)
    (h : n ∈ (execute { a with commands := rest, stage := .managing left } f now answer left
      cmd).2) : Tells c a f (.manage now answer) n := by
  have hmem : cmd ∈ a.commands := by
    rw [hc]
    exact List.mem_cons_self
  cases cmd with
  | addSession spec =>
    refine .aside ?_
    simp only [execute, addSession] at h
    split at h
    · rcases List.mem_pair.mp h with rfl | rfl <;> rfl
    split at h
    · rcases List.mem_pair.mp h with rfl | rfl <;> rfl
    · obtain rfl := List.mem_singleton.mp h
      rfl
  | sendBatch k id frames =>
    simp only [execute, sendBatch] at h
    split at h
    · obtain rfl := List.mem_singleton.mp h
      exact .command hmem .batch
    · obtain rfl := List.mem_singleton.mp h
      exact .command hmem .empty
    · cases h
  | receive k id m deadline =>
    rcases hx : a.sessions.lookup id with _ | y
    · -- an unknown session
      simp only [execute, receive, hx] at h
      obtain rfl := List.mem_singleton.mp h
      exact .command hmem .receive
    · rw [execute, receive_notices (a := { a with commands := rest, stage := _ }) now k m deadline
        hx] at h
      obtain ⟨z, hz, rfl⟩ := List.mem_map.mp h
      refine .answer id (m := z.maxFrames) ?_
      simpa [Actor.answers, Actor.input, hst, hc, CanCommand.input, Desk.step?, Desk.step, hx,
        Desk.next] using hz
  | replaceFilters k id filters =>
    simp only [execute, replaceFilters] at h
    split at h <;>
    · obtain rfl := List.mem_singleton.mp h
      exact .command hmem .filters
  | busStatus k id =>
    simp only [execute, busStatus] at h
    split at h
    · obtain rfl := List.mem_singleton.mp h
      exact .command hmem .status
    · obtain rfl := List.mem_singleton.mp h
      exact .command hmem .status
    · rcases List.mem_append.mp h with h | h
      · -- the bus has changed its state
        unfold publishBusTransition at h
        dsimp only at h
        split at h
        · cases h
        split at h
        · cases h
        · obtain ⟨⟨j, y⟩, hj, rfl⟩ := List.mem_map.mp h
          exact .health hst (by simp [Assoc.mem_entries_iff.mp hj])
      · obtain rfl := List.mem_singleton.mp h
        exact .command hmem .status

lemma tells_poll {res : HalResult (Option ReceivedCanFrame)} (hst : a.stage = .polling)
    (h : n ∈ (poll a c f now res).2) : Tells c a f (.poll res now) n := by
  rcases res with err | _ | frame
  · cases h
  · cases h
  · rcases hv : frame.frame.validate with err | ⟨⟩
    · simp [poll, hv] at h
    · simp only [poll, hv] at h
      obtain ⟨id, x, hx, z, hz, rfl⟩ := mem_fanOut.mp h
      refine .answer id (m := z.maxFrames) ?_
      simpa [Actor.answers, Actor.input, hst, Desk.step?, Desk.step, hx, Desk.next,
        ActorSession.poll, ActorSession.polled, validFrame, hv, Except.isOk, Except.toBool] using hz

end Tells

/-- **Where the notices of a step come from.** -/
theorem step_tells {x : Actor × List Notice} (h : a.step c f e = some x) (hn : n ∈ x.2) :
    Tells c a f e n := by
  cases step_does h with
  | cleaned | managed | passed => cases hn
  | opened =>
    obtain rfl := List.mem_singleton.mp hn
    exact .aside rfl
  | unopened | brokenOpen =>
    rcases List.mem_cons.mp hn with rfl | hn
    · exact .aside rfl
    · exact tells_abandon hn
  | pruned hst => exact tells_prune hst hn
  | removed hst hc => exact tells_removeSession hst hc hn
  | executed hst hc => exact tells_execute hst hc hn
  | refused hst =>
    obtain rfl := List.mem_singleton.mp hn
    exact .refused hst rfl
  | sent hst =>
    obtain rfl := List.mem_singleton.mp hn
    exact .sent hst rfl
  | polled hst => exact tells_poll hst hn
  | served hst =>
    obtain ⟨id, y, hy, z, hz, rfl⟩ := mem_servePending.mp hn
    refine .answer id (m := z.maxFrames) ?_
    simpa [Actor.answers, Actor.input, hst, Desk.step?, Desk.step, hy, Desk.next] using hz
  | drained => exact tells_rejectRemaining hn
  | left | broken => exact tells_abandon hn
  | brokenSend hst =>
    rcases List.mem_cons.mp hn with rfl | hn
    · exact .broken hst rfl
    · exact tells_abandon hn
  | completed _ hl =>
    rcases hl with rfl | rfl
    · cases hn
    · obtain rfl := List.mem_singleton.mp hn
      exact .aside rfl

/-- The frames an actor hands over are those of its sessions' answers. -/
lemma answer_of_told {x : Actor × List Notice} (h : a.step c f e = some x)
    (hn : .answered call (some (.frames (.ok fs))) ∈ x.2) :
    ∃ id m, ⟨call, m, .ok fs⟩ ∈ a.answers c f e id := by
  cases step_tells h hn with
  | aside h => cases h
  | answer id hy => exact ⟨id, _, hy⟩
  | command _ hcmd => cases hcmd

end RobotHal.CanActor
