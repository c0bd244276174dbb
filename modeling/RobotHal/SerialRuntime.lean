import RobotHal.SerialRegistry

/-!
Serial sessions of the runtime: `open_serial`, `close_serial`, `revoke_owner` and the four
operations as futures, and one actor per session that owns the native session
(`serial_actor.rs`).

A future is known by the session it opens or by a number, and may be dropped at any of its
await points. The state holds the registry behind its lock with every future and actor; an
event is what one of them does up to its next await point. The native session lives in its
actor from the moment the adapter's `open` returned it until the actor has closed and dropped
it.
-/

namespace RobotHal.Serial

open WorkerManager (SessionLifecycle)

structure ControlLines where
  dataTerminalReady : Bool
  requestToSend : Bool
deriving DecidableEq, Repr

inductive SerialCommand
  | read (maxBytes : ℕ)
  | write (bytes : List UInt8)
  | flush
  | setControlLines (lines : ControlLines)
deriving DecidableEq, Repr

def SerialCommand.operation : SerialCommand → String
  | .read _ => "serial.read"
  | .write _ => "serial.write"
  | .flush => "serial.flush"
  | .setControlLines _ => "serial.set_control_lines"

inductive Reply
  | bytes (bytes : List UInt8)
  | done
deriving DecidableEq, Repr

def commandQueueCapacity : ℕ := 64

/-! ### Actors -/

inductive Stage
  /-- at the top of the loop, waiting for a command -/
  | waiting
  /-- inside the native operation of a request -/
  | executing (n : ℕ) (cmd : SerialCommand)
  /-- inside the native session's `close` -/
  | closing
  /-- the native session is dropped, the registry does not know yet -/
  | dropped (result : HalResult Unit)
  | finished (result : HalResult Unit)
  /-- a native call panicked; the task is gone, and nothing was published -/
  | died
deriving DecidableEq

/-- The task is over, and with it the receiving end of the command channel. -/
def Stage.ended : Stage → Bool
  | .finished _ | .died => true
  | _ => false

structure Actor where
  resource : ResourceId
  stage : Stage := .waiting
  shutdown : Bool := false
  /-- the queued commands, each with the request that waits for its reply -/
  commands : List (ℕ × SerialCommand) := []
  /-- the calls made into the native session -/
  native : List SerialCommand := []
deriving DecidableEq

namespace Actor

/-- The native session is neither closed nor dropped. -/
def live (a : Actor) : Bool :=
  match a.stage with
  | .waiting => true
  | .executing _ _ => true
  | .closing => true
  | .dropped _ => false
  | .finished _ => false
  | .died => false

def queueFull (operation : String) : HalError :=
  runtimeError "runtime.queue.full" .unavailable operation true
    "the bounded serial actor command queue has reached its 64-command capacity"

/-- Whether the command channel takes a command. -/
def tryEnqueue (a : Actor) (operation : String) : HalResult Unit :=
  if a.stage.ended then .error (sessionClosed operation)
  else if a.commands.length < commandQueueCapacity then .ok () else .error (queueFull operation)

end Actor

/-! ### Futures -/

inductive OpenPc
  /-- awaiting the lock to reserve -/
  | locking
  /-- awaiting the adapter's `open` or the cancellation -/
  | opening (lease : LeaseToken)
  /-- awaiting the lock to give the reservation back -/
  | cancelling (e : HalError)
  /-- the adapter returned a session, its actor was spawned; awaiting the lock to finish -/
  | finishing (lease : LeaseToken)
  /-- the registry rejected the session; awaiting its actor's close -/
  | rejected
  | returned (result : HalResult LeaseToken)
  | dropped
deriving DecidableEq

structure OpenTask where
  owner : OwnerId
  resource : ResourceId
  pc : OpenPc
deriving DecidableEq

inductive ClosePc
  /-- awaiting the close of a session's actor -/
  | waiting (id : SessionId) (r : ResourceId)
  | returned (result : HalResult Unit)
  | dropped
deriving DecidableEq

inductive RevokePc
  | waiting (targets : List RevokeTarget) (firstError : Option HalError)
  | returned (result : HalResult Unit)
  | dropped
deriving DecidableEq

inductive RequestPc
  | waiting (r : ResourceId)
  | returned (result : HalResult Reply)
deriving DecidableEq

/-- Whether an adapter is registered, and the close deadline as messages print it. -/
structure Config where
  adapter : Bool := true
  closeTimeout : String
deriving DecidableEq, Repr

structure State where
  registry : Registry := {}
  actors : Assoc SessionId Actor := ∅
  opens : Assoc SessionId OpenTask := ∅
  closes : Assoc ℕ ClosePc := ∅
  revokes : Assoc ℕ RevokePc := ∅
  requests : Assoc ℕ RequestPc := ∅
  /-- spawned by dropped opens that did not get the lock: give the reservation back -/
  guards : List SessionId := []
  events : List RuntimeEvent := []

namespace State

variable (s : State)

def setOpen (id : SessionId) (t : OpenTask) (pc : OpenPc) : State :=
  { s with opens := s.opens.insert id { t with pc } }

def setActor (id : SessionId) (a : Actor) : State := { s with actors := s.actors.insert id a }

/-- `request_close` on a session's actor. -/
def requestClose (id : SessionId) : State :=
  match s.actors.lookup id with
  | none => s
  | some a => s.setActor id { a with shutdown := true }

def exitedSilently : HalError :=
  runtimeError "runtime.actor.unavailable" .internal "serial.close" false
    "the serial actor exited without publishing its close result"

/-- What `wait_closed` returns: the result that was published, or that there will be none. -/
def completion (id : SessionId) : Option (HalResult Unit) :=
  match s.actors.lookup id with
  | some { stage := .finished result, .. } => some result
  | some { stage := .died, .. } => some (.error exitedSilently)
  | _ => none

/-- Someone keeps a handle of the session's actor. -/
def handled (id : SessionId) : Bool :=
  (s.registry.sessions.lookup id).any SessionEntry.actor ||
  ((s.opens.lookup id).any fun t =>
    match t.pc with
    | .finishing _ => true
    | .rejected => true
    | _ => false) ||
  (Assoc.any s.closes fun pc =>
    match pc with
    | .waiting id' _ => id' = id
    | _ => false) ||
  (Assoc.any s.revokes fun pc =>
    match pc with
    | .waiting targets _ => targets.any fun t => t.session = id && t.actor
    | _ => false)

/-- The reply of a request; a request whose future is gone has no one to read it. -/
def answer (n : ℕ) (result : HalResult Reply) : State :=
  match s.requests.lookup n with
  | some (.waiting r) =>
    { s with
      requests := s.requests.insert n
        (.returned (result.mapError fun e => e.withResourceId r)) }
  | _ => s

def answerAll (requests : List (ℕ × SerialCommand)) (error : String → HalError) : State :=
  requests.foldl (fun s x => s.answer x.1 (.error (error x.2.operation))) s

/-! ### `open_serial` -/

def openClosed : HalError :=
  runtimeError "runtime.session.closed" .conflict "serial.open" false
    "the owner was revoked while the serial resource was opening"

def adapterNotConfigured : HalError :=
  runtimeError "runtime.adapter.not_configured" .unavailable "serial.open" false
    "no serial adapter was registered with the runtime"

def openCall (c : Config) (id : SessionId) (o : OwnerId) (r : ResourceId) : Option State :=
  if (s.opens.lookup id).isSome then none
  else
    let pc := if c.adapter then .locking else .returned (.error adapterNotConfigured)
    some { s with opens := s.opens.insert id { owner := o, resource := r, pc } }

def reserve (id : SessionId) (fresh : LeaseId) : Option State :=
  match s.opens.lookup id with
  | some t =>
    if t.pc = .locking then
      match s.registry.reserveOpen t.resource id t.owner fresh with
      | (registry, .error e) => some ({ s with registry }.setOpen id t (.returned (.error e)))
      | (registry, .ok lease) => some ({ s with registry }.setOpen id t (.opening lease))
    else none
  | none => none

/-- The adapter's `open` returned. -/
def adapterReturned (id : SessionId) (result : HalResult Unit) : Option State :=
  match s.opens.lookup id with
  | some t =>
    match t.pc, result with
    | .opening _, .error e => some (s.setOpen id t (.cancelling e))
    | .opening lease, .ok () =>
      some ((s.setActor id { resource := t.resource }).setOpen id t (.finishing lease))
    | _, _ => none
  | none => none

/-- The cancellation was seen, and the adapter's `open` dropped. -/
def openCancelled (id : SessionId) : Option State :=
  match s.opens.lookup id, s.registry.sessions.lookup id with
  | some t, entry =>
    match t.pc with
    | .opening _ =>
      -- the channel says so, or its sending end is gone with the entry
      if entry.all SessionEntry.cancelled then some (s.setOpen id t (.cancelling openClosed))
      else none
    | _ => none
  | none, _ => none

def cancelOpen (id : SessionId) : Option State :=
  match s.opens.lookup id with
  | some t =>
    match t.pc with
    | .cancelling e =>
      some ({ s with registry := s.registry.cancelOpen id }.setOpen id t
        (.returned (.error (e.withResourceId t.resource))))
    | _ => none
  | none => none

def finishOpen (id : SessionId) : Option State :=
  match s.opens.lookup id with
  | some t =>
    match t.pc with
    | .finishing lease =>
      match s.registry.finishOpen id with
      | (registry, event, true) =>
        some ({ s with registry, events := s.events ++ event.toList }.setOpen id t
          (.returned (.ok lease)))
      | (registry, event, false) =>
        some (({ s with registry, events := s.events ++ event.toList }.requestClose id).setOpen id t
          .rejected)
    | _ => none
  | none => none

def openRejected (id : SessionId) : Option State :=
  match s.opens.lookup id, s.completion id with
  | some t, some result =>
    if t.pc = .rejected then
      let e := match result with
        | .error e => e
        | .ok () => openClosed
      some (s.setOpen id t (.returned (.error (e.withResourceId t.resource))))
    else none
  | _, _ => none

/-- The future is dropped; `free` says whether its guard, if armed, gets the lock at once. -/
def dropOpen (id : SessionId) (free : Bool) : Option State :=
  match s.opens.lookup id with
  | some t =>
    let armed :=
      if free then some ({ s with registry := s.registry.cancelOpen id }.setOpen id t .dropped)
      else some ({ s with guards := s.guards ++ [id] }.setOpen id t .dropped)
    match t.pc with
    | .locking => some (s.setOpen id t .dropped)
    | .opening _ => armed
    | .cancelling _ => armed
    | .finishing _ => armed
    | .rejected => some (s.setOpen id t .dropped)
    | .returned _ => none
    | .dropped => none
  | none => none

def guardCancel (id : SessionId) : Option State :=
  if id ∈ s.guards then
    some { s with registry := s.registry.cancelOpen id, guards := s.guards.erase id }
  else none

/-! ### `close_serial` -/

def closeCall (n : ℕ) (id : SessionId) (lease : LeaseToken) : Option State :=
  if (s.closes.lookup n).isSome then none
  else
    match s.registry.beginClose id lease with
    | (registry, .error e) =>
      some { s with registry, closes := s.closes.insert n (.returned (.error e)) }
    | (registry, .ok .alreadyClosed) =>
      some { s with registry, closes := s.closes.insert n (.returned (.ok ())) }
    | (registry, .ok (.wait r)) =>
      some ({ s with registry, closes := s.closes.insert n (.waiting id r) }.requestClose id)

def closeDone (n : ℕ) : Option State :=
  match s.closes.lookup n with
  | some (.waiting id r) =>
    (s.completion id).map fun result =>
      { s with
        closes := s.closes.insert n
          (.returned (result.mapError fun e => e.withResourceId r)) }
  | _ => none

def dropClose (n : ℕ) : Option State :=
  match s.closes.lookup n with
  | some (.waiting _ _) => some { s with closes := s.closes.insert n .dropped }
  | _ => none

/-! ### `revoke_owner` -/

/-- The serial part of `revoke_owner` takes its targets in the order the map yields them. -/
def revokeCall (n : ℕ) (o : OwnerId) (order : List RevokeTarget) : Option State :=
  if (s.revokes.lookup n).isSome ∨ ¬order.Perm (s.registry.revokeTargets o) then none
  else
    let closed := (order.filter RevokeTarget.actor).foldl (fun s t => s.requestClose t.session)
      { s with registry := s.registry.beginRevoke o }
    some { closed with revokes := closed.revokes.insert n (.waiting order none) }

/-- What the channel a target is waited for on says. -/
def targetDone (t : RevokeTarget) : Option (HalResult Unit) :=
  if t.actor then s.completion t.session else s.registry.done.lookup t.session

def revokeNext (n : ℕ) : Option State :=
  match s.revokes.lookup n with
  | some (.waiting (t :: targets) firstError) =>
    (s.targetDone t).map fun result =>
      let error := match result with
        | .error e => some (e.withResourceId t.resource)
        | .ok () => none
      { s with revokes := s.revokes.insert n (.waiting targets (firstError <|> error)) }
  | _ => none

def revokeReturn (n : ℕ) : Option State :=
  match s.revokes.lookup n with
  | some (.waiting [] firstError) =>
    let result := match firstError with
      | some e => .error e
      | none => .ok ()
    some { s with revokes := s.revokes.insert n (.returned result) }
  | _ => none

def dropRevoke (n : ℕ) : Option State :=
  match s.revokes.lookup n with
  | some (.waiting _ _) => some { s with revokes := s.revokes.insert n .dropped }
  | _ => none

/-! ### Operations -/

def request (n : ℕ) (id : SessionId) (lease : LeaseToken) (cmd : SerialCommand) : Option State :=
  if (s.requests.lookup n).isSome then none
  else
    let actor := s.actors.lookup id
    let sent := match actor with
      | some a => a.tryEnqueue cmd.operation
      | none => .error (sessionClosed cmd.operation)
    match s.registry.enqueue id lease sent cmd.operation, actor with
    | .ok r, some a =>
      some ({ s with requests := s.requests.insert n (.waiting r) }.setActor id
        { a with commands := a.commands ++ [(n, cmd)] })
    | .ok _, none => none
    | .error e, _ => some { s with requests := s.requests.insert n (.returned (.error e)) }

/-! ### The actor -/

def actorTake (id : SessionId) : Option State :=
  match s.actors.lookup id with
  | some a =>
    match a.stage, a.shutdown, a.commands with
    | .waiting, false, (n, cmd) :: rest =>
      some (s.setActor id
        { a with stage := .executing n cmd, commands := rest, native := a.native ++ [cmd] })
    | _, _, _ => none
  | none => none

def actorReply (id : SessionId) (result : HalResult Reply) : Option State :=
  match s.actors.lookup id with
  | some a =>
    match a.stage with
    | .executing n _ => some ((s.setActor id { a with stage := .waiting }).answer n result)
    | _ => none
  | none => none

/-- The loop ends: a close was requested, or every handle is gone. -/
def actorStop (id : SessionId) : Option State :=
  match s.actors.lookup id with
  | some a =>
    if a.shutdown || !s.handled id then
      match a.stage with
      | .waiting => some (s.setActor id { a with stage := .closing })
      | .executing n cmd =>
        some ((s.setActor id { a with stage := .closing }).answer n
          (.error (sessionClosed cmd.operation)))
      | _ => none
    else none
  | none => none

def closeTimedOut (c : Config) : HalError :=
  runtimeError "runtime.session.close_timeout" .unavailable "serial.close" false
    ("serial session close exceeded its " ++ c.closeTimeout ++ " deadline")

/-- The native `close` returned, or its deadline passed; what is still queued is rejected. -/
def actorClosed (c : Config) (id : SessionId) (result : Option (HalResult Unit)) :
    Option State :=
  match s.actors.lookup id with
  | some a =>
    if a.stage = .closing then
      let outcome := result.getD (.error (closeTimedOut c))
      some ((s.setActor id { a with stage := .dropped outcome, commands := [] }).answerAll
        a.commands sessionClosed)
    else none
  | none => none

def actorFinish (id : SessionId) : Option State :=
  match s.actors.lookup id with
  | some a =>
    match a.stage with
    | .dropped result =>
      let (registry, event) := s.registry.finishClose id result
      some ({ s with registry, events := s.events ++ event.toList }.setActor id
        { a with stage := .finished result })
    | _ => none
  | none => none

/-- What `request_serial` makes of a reply that does not come. -/
def replyDropped (operation : String) : HalError :=
  runtimeError "runtime.actor.unavailable" .internal operation false
    "the serial actor dropped an operation reply"

/-- A native call panics. Nothing catches it: the task unwinds, the native session and the replies
that are due are dropped, and the registry is not told. -/
def actorDied (id : SessionId) : Option State :=
  match s.actors.lookup id with
  | some a =>
    let dead := s.setActor id { a with stage := .died, commands := [] }
    match a.stage with
    | .executing n cmd => some (dead.answerAll ((n, cmd) :: a.commands) replyDropped)
    | .closing => some (dead.answerAll a.commands replyDropped)
    | _ => none
  | none => none

end State

/-! ### Events -/

inductive Event
  | openCall (id : SessionId) (o : OwnerId) (r : ResourceId)
  | reserve (id : SessionId) (fresh : LeaseId)
  | adapterReturned (id : SessionId) (result : HalResult Unit)
  | openCancelled (id : SessionId)
  | cancelOpen (id : SessionId)
  | finishOpen (id : SessionId)
  | openRejected (id : SessionId)
  | dropOpen (id : SessionId) (free : Bool)
  | guardCancel (id : SessionId)
  | closeCall (n : ℕ) (id : SessionId) (lease : LeaseToken)
  | closeDone (n : ℕ)
  | dropClose (n : ℕ)
  | revokeCall (n : ℕ) (o : OwnerId) (order : List RevokeTarget)
  | revokeNext (n : ℕ)
  | revokeReturn (n : ℕ)
  | dropRevoke (n : ℕ)
  | request (n : ℕ) (id : SessionId) (lease : LeaseToken) (cmd : SerialCommand)
  | actorTake (id : SessionId)
  | actorReply (id : SessionId) (result : HalResult Reply)
  | actorStop (id : SessionId)
  | actorClosed (id : SessionId) (result : Option (HalResult Unit))
  | actorFinish (id : SessionId)
  | actorDied (id : SessionId)
deriving DecidableEq

def step (c : Config) (s : State) : Event → Option State
  | .openCall id o r => s.openCall c id o r
  | .reserve id fresh => s.reserve id fresh
  | .adapterReturned id result => s.adapterReturned id result
  | .openCancelled id => s.openCancelled id
  | .cancelOpen id => s.cancelOpen id
  | .finishOpen id => s.finishOpen id
  | .openRejected id => s.openRejected id
  | .dropOpen id free => s.dropOpen id free
  | .guardCancel id => s.guardCancel id
  | .closeCall n id lease => s.closeCall n id lease
  | .closeDone n => s.closeDone n
  | .dropClose n => s.dropClose n
  | .revokeCall n o order => s.revokeCall n o order
  | .revokeNext n => s.revokeNext n
  | .revokeReturn n => s.revokeReturn n
  | .dropRevoke n => s.dropRevoke n
  | .request n id lease cmd => s.request n id lease cmd
  | .actorTake id => s.actorTake id
  | .actorReply id result => s.actorReply id result
  | .actorStop id => s.actorStop id
  | .actorClosed id result => s.actorClosed c id result
  | .actorFinish id => s.actorFinish id
  | .actorDied id => s.actorDied id

end RobotHal.Serial
