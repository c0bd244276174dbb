import RobotHal.Assoc
import RobotHal.Can

/-!
The CAN actor: the thread that owns a channel and serves the sessions that share it.

Commands reach it through two bounded queues, one for closes and cleanup, one for the rest.
A step is what the thread does up to the next point at which another thread can be seen;
what it tells the tasks that wait for it comes out as a list of notices. Instants and what
the adapter and the channel answer come in with the step.
-/

namespace RobotHal

/-- A one-shot channel as its receiver sees it. -/
inductive Oneshot (α : Type)
  | waiting
  | sent (a : α)
  /-- the sender was dropped -/
  | lost
deriving DecidableEq

/-- Something arrives: a value, or that none will. What comes later is not seen. -/
def Oneshot.deliver {α : Type} : Oneshot α → Option α → Oneshot α
  | .waiting, some a => .sent a
  | .waiting, none => .lost
  | x, _ => x

namespace CanActor

def managementQueueCapacity : ℕ := 64
def cleanupQueueCapacity : ℕ := 64
def managementCommandBudget : ℕ := 16
def cleanupCommandBudget : ℕ := 16
def maxPendingReceivesPerSession : ℕ := 1

/-- What the runtime was built with; the deadline as it is printed in messages. -/
structure Config where
  rxCapacity : ℕ
  txCapacity : ℕ
  closeTimeout : String
deriving DecidableEq

def queueFull (operation : String) (capacity : ℕ) : HalError :=
  runtimeError "runtime.queue.full" .unavailable operation true
    ("the bounded CAN queue has reached its " ++ toString capacity ++ "-item capacity")

def actorUnavailable (operation : String) : HalError :=
  runtimeError "runtime.actor.unavailable" .internal operation false
    "the CAN actor worker is unavailable"

def sessionError (name operation : String) (r : ResourceId) (message : String) : HalError :=
  (runtimeError name .conflict operation false message).withResourceId r

def sessionClosed (operation : String) (r : ResourceId) : HalError :=
  sessionError "runtime.session.closed" operation r "the CAN session is closed"

/-! ### Commands and notices -/

/-- What a session brings to the actor; its flags stay with the open that made it. -/
structure ActorSessionSpec where
  sessionId : SessionId
  config : CanOpenConfig
  filters : CanFilterSet
deriving DecidableEq

/-- The answer to an operation on a session. -/
inductive OpReply
  | batch (res : Except CanBatchSendError Unit)
  | frames (res : HalResult (List ReceivedCanFrame))
  | replaced (res : HalResult Unit)
  | status (res : HalResult CanBusStatus)
deriving DecidableEq

/-- A command of the management queue. An admission names the open that waits for it, an
operation the call. -/
inductive CanCommand
  | addSession (spec : ActorSessionSpec)
  | sendBatch (call : ℕ) (id : SessionId) (frames : List CanFrame)
  | receive (call : ℕ) (id : SessionId) (maxFrames deadline : ℕ)
  | replaceFilters (call : ℕ) (id : SessionId) (filters : CanFilterSet)
  | busStatus (call : ℕ) (id : SessionId)
deriving DecidableEq

/-- `RemoveSession`, the one command of the cleanup queue. It is sent by a close, which waits for
the reply, or by the cleanup of an open, which waits for the notification instead. -/
structure Removal where
  sessionId : SessionId
  cleanupDone : Bool
  close : Option ℕ
deriving DecidableEq

structure RemoveOutcome where
  lastSession : Bool
  result : HalResult Unit
deriving DecidableEq

/-- What an actor tells a waiting task: a reply, or that its sender is gone. -/
inductive Notice
  | added (id : SessionId) (res : Option (HalResult Unit))
  | removed (close : ℕ) (out : Option RemoveOutcome)
  | answered (call : ℕ) (res : Option OpReply)
  /-- the open's `cleanup_done` -/
  | done (id : SessionId)
  /-- the session's `termination_expected` and `termination_failed` -/
  | terminated (id : SessionId) (failed : Bool)
  /-- a bus transition, for a session that may or may not be activated -/
  | health (id : SessionId) (state : CanBusState)
deriving DecidableEq

/-! ### Sessions of the actor -/

structure PendingReceive where
  call : ℕ
  maxFrames : ℕ
  deadline : ℕ
deriving DecidableEq

structure ActorSession where
  filters : CanFilterSet
  received : List ReceivedCanFrame := []
  dropped : ℕ := 0
  receiveError : Option HalError := none
  pendingReceive : Option PendingReceive := none
deriving DecidableEq

/-- `u64::saturating_add`. -/
def saturatingAdd (a b : ℕ) : ℕ := min (a + b) u64Max

/-- `str::parse::<u64>`: an optional sign, then digits that fit. -/
def parseU64 (s : String) : Option ℕ :=
  let digits := match s.toList with
    | '+' :: rest => rest
    | all => all
  if digits.isEmpty || !digits.all Char.isDigit then none
  else
    let n := digits.foldl (fun n c => 10 * n + (c.toNat - '0'.toNat)) 0
    if n ≤ u64Max then some n else none

def lagged (r : ResourceId) (dropped : ℕ) : HalError :=
  ((runtimeError "can.receive.lagged" .unavailable "can.receive" true
    "the bounded CAN receive ring dropped oldest frames").withContext
      [("dropped_count", toString dropped)]).withResourceId r

/-- Lag is reported first, then an error, then frames. -/
def takeReceiveResult (x : ActorSession) (maxFrames : ℕ) (r : ResourceId) :
    ActorSession × Option (HalResult (List ReceivedCanFrame)) :=
  if x.dropped > 0 then ({ x with dropped := 0 }, some (.error (lagged r x.dropped)))
  else
    match x.receiveError with
    | some e => ({ x with receiveError := none }, some (.error (e.withResourceId r)))
    | none =>
      if x.received.isEmpty then (x, none)
      else
        let count := min maxFrames x.received.length
        ({ x with received := x.received.drop count }, some (.ok (x.received.take count)))

/-- `service_pending_receives` for one session. `closed` says whether the caller is gone. -/
def servicePending (r : ResourceId) (closed : ℕ → Bool) (now : ℕ) (x : ActorSession) :
    ActorSession × List Notice :=
  match x.pendingReceive with
  | none => (x, [])
  | some p =>
    let x := { x with pendingReceive := none }
    if closed p.call then (x, [])
    else
      match takeReceiveResult x p.maxFrames r with
      | (x, some res) => (x, [.answered p.call (some (.frames res))])
      | (x, none) =>
        if now ≥ p.deadline then (x, [.answered p.call (some (.frames (.ok [])))])
        else ({ x with pendingReceive := some p }, [])

/-- A frame that passes the filters goes into the ring, and the oldest makes room for it. -/
def offer (rxCapacity : ℕ) (frame : ReceivedCanFrame) (x : ActorSession) : ActorSession :=
  if !x.filters.matches frame.frame then x
  else
    let x := if x.received.length = rxCapacity then
        { x with received := x.received.tail, dropped := saturatingAdd x.dropped 1 }
      else x
    { x with received := x.received ++ [frame] }

/-- What a session sees of a `receive` of the channel that brought no valid frame. -/
def receiveFailed (e : HalError) (x : ActorSession) : ActorSession :=
  if e.name = "can.receive.lagged" then
    let count := ((e.context.find? fun c => c.1 = "dropped_count").bind
      fun c => parseU64 c.2).getD 1
    { x with dropped := saturatingAdd x.dropped count }
  else { x with receiveError := some e }

/-! ### The thread -/

/-- Where the thread is. -/
inductive Stage
  /-- inside the adapter's `open` -/
  | opening
  /-- at the head of the loop -/
  | pruning
  /-- serving the cleanup queue, with so many commands left in the budget -/
  | cleaning (left : ℕ)
  | managing (left : ℕ)
  /-- inside the channel's `send`, with the first of `rest`, in the middle of the budget -/
  | sending (call : ℕ) (count : ℕ) (rest : List CanFrame) (committed left : ℕ)
  /-- inside the channel's `receive` -/
  | polling
  /-- what was received is handed out -/
  | serving
  /-- about to reject what is queued and return -/
  | draining (result : HalResult Unit)
  /-- about to drop the queues -/
  | leaving (result : HalResult Unit)
  /-- the queues are gone, completion is not published yet -/
  | ending (result : HalResult Unit)
  | finished (result : HalResult Unit)
deriving DecidableEq

structure Actor where
  resource : ResourceId
  first : ActorSessionSpec
  stage : Stage := .opening
  activeConfig : Option CanActiveConfig := none
  sessions : Assoc SessionId ActorSession := ∅
  commands : List CanCommand := []
  cleanup : List Removal := []
  txReserved : ℕ := 0
  lastBusState : Option CanBusState := none
  /-- what the channel's `send` was called with, under the call it came from -/
  passed : List (ℕ × CanFrame) := []
  /-- how often the channel's `close` was called -/
  closes : ℕ := 0
deriving DecidableEq

namespace Actor

def isFinished (a : Actor) : Bool :=
  match a.stage with
  | .finished _ => true
  | _ => false

/-- The receiving ends of the queues are still there. -/
def connected (a : Actor) : Bool :=
  match a.stage with
  | .ending _ | .finished _ => false
  | _ => true

def tryCommand (a : Actor) (c : CanCommand) (operation : String) : HalResult Actor :=
  if !a.connected then .error (actorUnavailable operation)
  else if a.commands.length ≥ managementQueueCapacity then
    .error (queueFull operation managementQueueCapacity)
  else .ok { a with commands := a.commands ++ [c] }

def tryCleanup (a : Actor) (c : Removal) : HalResult Actor :=
  if !a.connected then .error (actorUnavailable "can.cleanup")
  else if a.cleanup.length ≥ cleanupQueueCapacity then
    .error (queueFull "can.cleanup" cleanupQueueCapacity)
  else .ok { a with cleanup := a.cleanup ++ [c] }

/-- The first half of `try_send_batch`: room for the frames of a batch. -/
def reserveTx (a : Actor) (frames txCapacity : ℕ) : HalResult Actor :=
  match checkedAdd a.txReserved frames with
  | none => .error (queueFull "can.send_batch" txCapacity)
  | some next =>
    if next > txCapacity then .error (queueFull "can.send_batch" txCapacity)
    else .ok { a with txReserved := next }

def releaseTx (a : Actor) (frames : ℕ) : Actor := { a with txReserved := a.txReserved - frames }

end Actor

/-! ### Executing a command -/

/-- What the actor reads of the tasks around it: the flags of the opens behind its sessions, and
which callers are gone. -/
structure Flags where
  cancelled : SessionId → Bool
  activated : SessionId → Bool
  closed : ℕ → Bool

def expectationMismatch (x : CanLinkExpectation) (active : CanActiveConfig) : Bool :=
  x.mode.any (· ≠ active.mode) || x.nominalBitrate.any (· ≠ active.nominal.bitrate) ||
    x.dataBitrate.any (fun b => active.data.all fun t => t.bitrate ≠ b) ||
    x.listenOnly.any (· ≠ active.listenOnly) || x.loopback.any (· ≠ active.loopback)

def compatibleConfiguration (active : CanActiveConfig) (requested : CanOpenConfig)
    (r : ResourceId) : HalResult Unit :=
  let mismatch := match requested with
    | .attach expectation => expectationMismatch expectation active
    | .configure _ => true
  if mismatch then
    .error ((runtimeError "can.configuration.mismatch" .conflict "can.open" false
      "the requested CAN configuration is incompatible with the live shared actor").withResourceId
      r)
  else .ok ()

/-- The verdict on a session that asks to be added. -/
def admission (a : Actor) (spec : ActorSessionSpec) : HalResult Unit := do
  match a.activeConfig with
  | some active => compatibleConfiguration active spec.config a.resource
  | none => pure ()
  if (a.sessions.lookup spec.sessionId).isSome then
    throw (sessionError "runtime.session.conflict" "can.open" a.resource
      "the CAN actor already contains this session")

def addSession (a : Actor) (f : Flags) (spec : ActorSessionSpec) : Actor × List Notice :=
  let id := spec.sessionId
  if f.cancelled id then
    (a, [.done id, .added id (some (.error (sessionClosed "can.open" a.resource)))])
  else
    match admission a spec with
    | .error e => (a, [.done id, .added id (some (.error e))])
    | .ok _ =>
      ({ a with sessions := a.sessions.insert id { filters := spec.filters } },
        [.added id (some (.ok ()))])

/-- A batch is sent frame by frame if its session is there. -/
def sendBatch (a : Actor) (call : ℕ) (id : SessionId) (frames : List CanFrame) (left : ℕ) :
    Actor × List Notice :=
  match a.sessions.lookup id, frames with
  | none, _ =>
    (a.releaseTx frames.length,
      [.answered call (some (.batch (.error (.new (sessionClosed "can.send_batch" a.resource)))))])
  | some _, [] => (a, [.answered call (some (.batch (.ok ())))])
  | some _, _ => ({ a with stage := .sending call frames.length frames 0 left }, [])

def receive (a : Actor) (now call : ℕ) (id : SessionId) (maxFrames deadline : ℕ) :
    Actor × List Notice :=
  match a.sessions.lookup id with
  | none => (a, [.answered call (some (.frames (.error (sessionClosed "can.receive" a.resource))))])
  | some x =>
    if x.pendingReceive.isSome then
      (a, [.answered call (some (.frames (.error
        ((queueFull "can.receive" maxPendingReceivesPerSession).withResourceId a.resource))))])
    else
      match takeReceiveResult x maxFrames a.resource with
      | (x, some res) =>
        ({ a with sessions := a.sessions.insert id x }, [.answered call (some (.frames res))])
      | (x, none) =>
        if now ≥ deadline then (a, [.answered call (some (.frames (.ok [])))])
        else
          let x := { x with pendingReceive := some ⟨call, maxFrames, deadline⟩ }
          ({ a with sessions := a.sessions.insert id x }, [])

def replaceFilters (a : Actor) (call : ℕ) (id : SessionId) (filters : CanFilterSet) :
    Actor × List Notice :=
  match a.sessions.lookup id with
  | none =>
    (a, [.answered call (some (.replaced (.error
      (sessionClosed "can.replace_filters" a.resource))))])
  | some x =>
    ({ a with sessions := a.sessions.insert id { x with filters } },
      [.answered call (some (.replaced (.ok ())))])

/-- A status other than the last one is announced to every session. -/
def publishBusTransition (a : Actor) (state : CanBusState) : Actor × List Notice :=
  ({ a with lastBusState := some state },
    match a.lastBusState with
    | none => []
    | some old =>
      if old = state then [] else a.sessions.entries.map fun e => .health e.1 state)

def busStatus (a : Actor) (call : ℕ) (id : SessionId) (answer : HalResult CanBusStatus) :
    Actor × List Notice :=
  match a.sessions.lookup id, answer with
  | none, _ =>
    (a, [.answered call (some (.status (.error (sessionClosed "can.status" a.resource))))])
  | some _, .error e => (a, [.answered call (some (.status (.error e)))])
  | some _, .ok status =>
    let published := publishBusTransition a status.state
    (published.1, published.2 ++ [.answered call (some (.status (.ok status)))])

/-- A command of the management queue, with `left` more in the budget. `answer` is what the
channel's `bus_status` would say. -/
def execute (a : Actor) (f : Flags) (now : ℕ) (answer : HalResult CanBusStatus) (left : ℕ) :
    CanCommand → Actor × List Notice
  | .addSession spec => addSession a f spec
  | .sendBatch call id frames => sendBatch a call id frames left
  | .receive call id maxFrames deadline => receive a now call id maxFrames deadline
  | .replaceFilters call id filters => replaceFilters a call id filters
  | .busStatus call id => busStatus a call id answer

def Removal.reply (x : Removal) (out : Option RemoveOutcome) : List Notice :=
  match x.close with
  | some n => [.removed n out]
  | none => []

def Removal.notify (x : Removal) : List Notice := if x.cleanupDone then [.done x.sessionId] else []

/-- The caller waiting on a session that goes is told so. -/
def ActorSession.reject (x : ActorSession) (e : HalError) : List Notice :=
  match x.pendingReceive with
  | some p => [.answered p.call (some (.frames (.error e)))]
  | none => []

/-- `RemoveSession`: the last session takes the channel with it. `closeResult` is what closing it
gave, within the deadline. -/
def removeSession (a : Actor) (x : Removal) (closeResult : HalResult Unit) :
    Actor × List Notice :=
  let id := x.sessionId
  match a.sessions.lookup id with
  | none => (a, x.notify ++ x.reply (some ⟨false, .error (sessionClosed "can.close" a.resource)⟩))
  | some removed =>
    let rest := a.sessions.erase id
    let rejected := removed.reject (sessionClosed "can.receive" a.resource)
    if Assoc.isEmpty rest then
      ({ a with sessions := rest, stage := .draining (.ok ()), closes := a.closes + 1 },
        rejected ++ [.terminated id (match closeResult with | .ok _ => false | .error _ => true)] ++
          x.reply (some ⟨true, closeResult⟩) ++ [.done id] ++ x.notify)
    else
      ({ a with sessions := rest },
        rejected ++ [.done id] ++ x.notify ++ x.reply (some ⟨false, .ok ()⟩))

/-! ### Leaving -/

/-- `reject_remaining`, for a command and for a removal. -/
def CanCommand.reject : CanCommand → List Notice
  | .addSession spec =>
    [.done spec.sessionId, .added spec.sessionId (some (.error (actorUnavailable "can.session")))]
  | .sendBatch call _ _ =>
    [.answered call (some (.batch (.error (.new (actorUnavailable "can.send_batch")))))]
  | .receive call _ _ _ =>
    [.answered call (some (.frames (.error (actorUnavailable "can.receive"))))]
  | .replaceFilters call _ _ =>
    [.answered call (some (.replaced (.error (actorUnavailable "can.session"))))]
  | .busStatus call _ => [.answered call (some (.status (.error (actorUnavailable "can.status"))))]

def Removal.reject (x : Removal) : List Notice :=
  x.notify ++ x.reply (some ⟨false, .error (actorUnavailable "can.close")⟩)

/-- The reply that is lost with a command that is dropped. -/
def CanCommand.lose : CanCommand → List Notice
  | .addSession spec => [.added spec.sessionId none]
  | .sendBatch call _ _ | .receive call _ _ _ | .replaceFilters call _ _ | .busStatus call _ =>
    [.answered call none]

def Removal.lose (x : Removal) : List Notice := x.reply none

/-- The replies lost with the sessions. -/
def Actor.loseReceives (a : Actor) : List Notice :=
  a.sessions.entries.flatMap fun e =>
    match e.2.pendingReceive with
    | some p => [.answered p.call none]
    | none => []

def CanCommand.frameCount : CanCommand → ℕ
  | .sendBatch _ _ frames => frames.length
  | _ => 0

def Actor.rejectRemaining (a : Actor) : Actor × List Notice :=
  ({ a with
      cleanup := [], commands := []
      txReserved := a.txReserved - (a.commands.map CanCommand.frameCount).sum },
    a.cleanup.flatMap Removal.reject ++ a.commands.flatMap CanCommand.reject)

/-- The thread's function is left: its queues and sessions are dropped. -/
def Actor.abandon (a : Actor) (result : HalResult Unit) : Actor × List Notice :=
  ({ a with cleanup := [], commands := [], stage := .ending result },
    a.cleanup.flatMap Removal.lose ++ a.commands.flatMap CanCommand.lose ++ a.loseReceives)

/-! ### The steps of the thread -/

inductive ActorEvent
  /-- the adapter's `open` returned a channel, or failed, or ran out of time -/
  | opened (res : HalResult CanActiveConfig)
  | prune (closeResult : HalResult Unit)
  | clean (closeResult : HalResult Unit)
  | manage (now : ℕ) (answer : HalResult CanBusStatus)
  /-- the channel's `send` of the next frame returned -/
  | frame (res : HalResult Unit)
  /-- the channel's `receive` returned -/
  | poll (res : HalResult (Option ReceivedCanFrame)) (now : ℕ)
  | serve (now : ℕ)
  | drain
  | leave
  /-- a call into the adapter or the channel panics -/
  | panicked
  | complete
deriving DecidableEq

/-- An open that was cancelled before it was committed. -/
def Flags.stale (f : Flags) (id : SessionId) : Bool := f.cancelled id && !f.activated id

/-- `prune_cancelled_sessions`. -/
def prune (a : Actor) (f : Flags) (closeResult : HalResult Unit) : Actor × List Notice :=
  let gone := a.sessions.entries.filter fun e => f.stale e.1
  let rest := Assoc.eraseAll a.sessions (gone.map Sigma.fst)
  let notices := gone.flatMap (fun e => e.2.reject (sessionClosed "can.receive" a.resource)) ++
    gone.map fun e => .done e.1
  if gone.isEmpty then ({ a with stage := .cleaning cleanupCommandBudget }, [])
  else if Assoc.isEmpty rest then
    ({ a with sessions := rest, stage := .draining closeResult, closes := a.closes + 1 }, notices)
  else ({ a with sessions := rest, stage := .cleaning cleanupCommandBudget }, notices)

/-- The batch is over: its room is given back and its sender told. -/
def endBatch (a : Actor) (call count left : ℕ) (res : Except CanBatchSendError Unit) :
    Actor × List Notice :=
  ({ a.releaseTx count with stage := .managing left }, [.answered call (some (.batch res))])

/-- The channel's `send` was called with `x`. -/
def Actor.pass (a : Actor) (call : ℕ) (x : CanFrame) : Actor :=
  { a with passed := a.passed ++ [(call, x)] }

def servePending (a : Actor) (f : Flags) (now : ℕ) : Actor × List Notice :=
  ({ a with sessions := Assoc.mapVal a.sessions fun _ x =>
      (servicePending a.resource f.closed now x).1 },
    a.sessions.entries.flatMap fun e => (servicePending a.resource f.closed now e.2).2)

def fanOut (a : Actor) (c : Config) (f : Flags) (now : ℕ) (frame : ReceivedCanFrame) :
    Actor × List Notice :=
  servePending { a with sessions := Assoc.mapVal a.sessions fun _ => offer c.rxCapacity frame } f
    now

/-- What the channel's `receive` brought. -/
def poll (a : Actor) (c : Config) (f : Flags) (now : ℕ) :
    HalResult (Option ReceivedCanFrame) → Actor × List Notice
  | .ok none => (a, [])
  | .ok (some frame) =>
    match frame.frame.validate with
    | .ok _ => fanOut a c f now frame
    | .error e =>
      ({ a with sessions := Assoc.mapVal a.sessions fun _ x =>
          { x with receiveError := some (e.withResourceId a.resource) } }, [])
  | .error e => ({ a with sessions := Assoc.mapVal a.sessions fun _ => receiveFailed e }, [])

def Actor.step (c : Config) (a : Actor) (f : Flags) (e : ActorEvent) :
    Option (Actor × List Notice) :=
  match e, a.stage with
  | .opened (.ok active), .opening =>
    some ({ a with
        activeConfig := some active
        sessions := AList.singleton a.first.sessionId { filters := a.first.filters }
        stage := .pruning },
      [.added a.first.sessionId (some (.ok ()))])
  | .opened (.error err), .opening =>
    let left := a.abandon (.error err)
    some (left.1, .added a.first.sessionId (some (.error err)) :: left.2)
  | .prune closeResult, .pruning => some (prune a f closeResult)
  | .clean closeResult, .cleaning left =>
    match left, a.cleanup with
    | left + 1, x :: rest =>
      some (removeSession { a with cleanup := rest, stage := .cleaning left } x closeResult)
    | _, _ => some ({ a with stage := .managing managementCommandBudget }, [])
  | .manage now answer, .managing left =>
    match left, a.commands with
    | left + 1, cmd :: rest =>
      some (execute { a with commands := rest, stage := .managing left } f now answer left cmd)
    | _, _ =>
      if Assoc.isEmpty a.sessions then some ({ a with stage := .leaving (.ok ()) }, [])
      else some ({ a with stage := .polling }, [])
  | .frame res, .sending call count (x :: rest) committed left =>
    match res, rest with
    | .error err, _ =>
      some (endBatch (a.pass call x) call count left (.error (.backendPrefix err committed)))
    | .ok _, [] => some (endBatch (a.pass call x) call count left (.ok ()))
    | .ok _, _ =>
      some ({ a.pass call x with stage := .sending call count rest (committed + 1) left }, [])
  | .poll res now, .polling =>
    let polled := poll a c f now res
    some ({ polled.1 with stage := .serving }, polled.2)
  | .serve now, .serving =>
    let served := servePending a f now
    some ({ served.1 with stage := .pruning }, served.2)
  | .drain, .draining result =>
    let rejected := a.rejectRemaining
    some ({ rejected.1 with stage := .leaving result }, rejected.2)
  | .leave, .leaving result => some (a.abandon result)
  | .panicked, stage =>
    let left := a.abandon (.error (actorUnavailable "can.actor"))
    match stage with
    | .opening => some (left.1, .added a.first.sessionId none :: left.2)
    | .sending call _ (x :: _) _ _ => some (left.1.pass call x, .answered call none :: left.2)
    | .pruning | .cleaning _ | .managing _ | .polling => some left
    | _ => none
  | .complete, .ending result =>
    some ({ a with stage := .finished result },
      match result with
      | .ok _ => []
      | .error _ => [.done a.first.sessionId])
  | _, _ => none

end CanActor

end RobotHal
