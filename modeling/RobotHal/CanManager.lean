import RobotHal.CanActor
import RobotHal.CanLeaseTable

/-!
The CAN manager of the runtime.

Sessions of one resource share an actor. A call is a future: it runs from one await point to
the next, takes the manager's lock in between, and can be dropped where it awaits. The state
below holds what is behind the lock together with every actor and every future, and an event
is what one of them does up to the next point at which another can be seen.
-/

namespace RobotHal.CanManager

open CanActor (Actor ActorEvent ActorSessionSpec CanCommand Config Flags Notice OpReply Removal
  RemoveOutcome)

def closedSessionCapacity : ℕ := 256

inductive RuntimeEventKind
  | sessionOpened
  | sessionClosed
  | canBusActive
  | canBusWarning
  | canBusPassive
  | canBusOff
  | canBusStopped
  | canBusUnknown
deriving DecidableEq, Repr

/-- A published event; its sequence number is its place among the published ones. -/
structure RuntimeEvent where
  kind : RuntimeEventKind
  resourceId : ResourceId
  sessionId : SessionId
  ownerId : OwnerId
  leaseGeneration : ℕ
deriving DecidableEq, Repr

def busEventKind : CanBusState → RuntimeEventKind
  | .active => .canBusActive
  | .warning => .canBusWarning
  | .passive => .canBusPassive
  | .busOff => .canBusOff
  | .stopped => .canBusStopped
  | .unknown => .canBusUnknown

/-! ### Errors -/

def actorUnavailable (operation : String) (r : ResourceId) : HalError :=
  (runtimeError "runtime.actor.unavailable" .internal operation false
    "the CAN actor dropped an operation reply").withResourceId r

def sessionClosed (operation : String) (r : ResourceId) : HalError :=
  (runtimeError "runtime.session.closed" .conflict operation false
    "the CAN session is closed").withResourceId r

def sessionNotFound (operation : String) : HalError :=
  runtimeError "runtime.session.not_found" .notFound operation false
    "the CAN session ID is unknown"

def operationTimeout (operation : String) (r : ResourceId) : HalError :=
  (runtimeError "runtime.transport.timeout" .unavailable operation true
    "the CAN actor operation exceeded its finite deadline").withResourceId r

def receiveTimeout (r : ResourceId) : HalError :=
  (runtimeError "runtime.transport.timeout" .unavailable "can.receive" true
    "the CAN receive request exceeded its finite deadline").withResourceId r

def admissionTimeout (r : ResourceId) : HalError :=
  (runtimeError "runtime.transport.timeout" .unavailable "can.open" true
    "the CAN actor did not complete session admission before the deadline").withResourceId r

def closeTimeout (c : Config) (r : ResourceId) : HalError :=
  (runtimeError "runtime.session.close_timeout" .unavailable "can.close" false
    ("CAN session close exceeded its " ++ c.closeTimeout ++ " deadline")).withResourceId r

def provisionalTimeout : HalError :=
  runtimeError "runtime.session.close_timeout" .unavailable "runtime.owner.revoke" false
    "a provisional CAN open did not finish cleanup before the deadline"

def epochExhausted : HalError :=
  runtimeError "runtime.actor.epoch_exhausted" .internal "can.open" false
    "the CAN actor lifecycle epoch reached u64::MAX"

def modeDenied (r : ResourceId) : HalError :=
  (runtimeError "runtime.lease.mode_denied" .conflict "can.open" false
    "CAN Configure requires a Maintenance lease").withResourceId r

def invalidBatch (r : ResourceId) : HalError :=
  (runtimeError "can.frame.invalid" .invalidArgument "can.send_batch" false
    "a CAN send batch must contain 1..=64 frames").withResourceId r

def invalidLimit (r : ResourceId) : HalError :=
  (runtimeError "can.receive.invalid_limit" .invalidArgument "can.receive" false
    "CAN receive max_frames must be 1..=64").withResourceId r

def isQueueFull (e : HalError) : Bool := e.name = "runtime.queue.full"

/-! ### What is behind the lock -/

structure PendingSession where
  reservation : CanReservation
  actorEpoch : Option ℕ := none
deriving DecidableEq

/-- A committed session; the actor handle is the thread under its epoch. -/
structure ActiveSession where
  resourceId : ResourceId
  ownerId : OwnerId
  token : LeaseToken
  actorEpoch : ℕ
  terminalHealthEmitted : Bool := false
  closing : Bool := false
deriving DecidableEq

structure ClosedSession where
  token : LeaseToken
  resourceId : ResourceId
deriving DecidableEq

structure ManagerState where
  leases : CanLeaseTable := {}
  pending : Assoc SessionId PendingSession := ∅
  active : Assoc SessionId ActiveSession := ∅
  /-- the epoch of each resource's actor -/
  actors : Assoc ResourceId ℕ := ∅
  nextActorEpoch : ℕ := 0
  closed : Assoc SessionId ClosedSession := ∅
  closedOrder : List SessionId := []

namespace ManagerState

/-- The oldest records go until there is room for one more. -/
def expireClosed (m : ManagerState) : ManagerState :=
  let excess := m.closedOrder.length + 1 - closedSessionCapacity
  { m with
    closedOrder := m.closedOrder.drop excess
    closed := Assoc.eraseAll m.closed (m.closedOrder.take excess) }

def rememberClosed (m : ManagerState) (id : SessionId) (x : ClosedSession) : ManagerState :=
  let m := m.expireClosed
  { m with closedOrder := m.closedOrder ++ [id], closed := m.closed.insert id x }

/-- A reservation leaves the pending map and the lease table. -/
def dropPending (m : ManagerState) (id : SessionId) : ManagerState :=
  match m.pending.lookup id with
  | none => m
  | some p => { m with
      pending := m.pending.erase id
      leases := (m.leases.cancel p.reservation).1 }

/-- A session leaves the active map, its lease is released and it is remembered as closed. -/
def dropActive (m : ManagerState) (r : ResourceId) (id : SessionId) (token : LeaseToken)
    (x : ActiveSession) : ManagerState :=
  { m with
    active := m.active.erase id
    leases := (m.leases.release r id token).1 }.rememberClosed id ⟨x.token, x.resourceId⟩

end ManagerState

def validateClosedToken (closed supplied : LeaseToken) (operation : String) : HalResult Unit :=
  if supplied.generation < closed.generation then
    .error (runtimeError "runtime.lease.stale_generation" .conflict operation false
      "the supplied lease generation predates the closed CAN session")
  else if supplied ≠ closed then
    .error (runtimeError "runtime.lease.invalid_token" .conflict operation false
      "the supplied lease token does not match the closed CAN session")
  else .ok ()

/-- Closing a closed session again is fine with the right token. -/
def closedResult (m : ManagerState) (id : SessionId) (supplied : LeaseToken)
    (operation : String) : HalResult Unit :=
  match m.closed.lookup id with
  | none => .error (sessionNotFound operation)
  | some x =>
    (validateClosedToken x.token supplied operation).mapError fun e => e.withResourceId x.resourceId

def missingSessionError (m : ManagerState) (id : SessionId) (supplied : LeaseToken)
    (operation : String) : HalError :=
  match m.closed.lookup id with
  | none => sessionNotFound operation
  | some x =>
    match validateClosedToken x.token supplied operation with
    | .error e => e.withResourceId x.resourceId
    | .ok _ => sessionClosed operation x.resourceId

/-! ### Futures -/

/-- Where an `open` is. -/
inductive OpenPc
  /-- awaiting the discovery -/
  | discovering
  /-- reserved, on its way to an actor -/
  | reserved
  /-- awaiting its admission by the actor of this epoch -/
  | awaiting (epoch : ℕ)
  /-- admitted, on its way to the commit -/
  | committing (epoch : ℕ)
  /-- trying to have the session removed again, before it returns the error -/
  | cleaning (epoch : ℕ) (e : HalError)
  /-- awaiting the removal -/
  | cleaned (epoch : ℕ) (e : HalError)
  /-- returning the error; the guard may still hold the actor -/
  | unwinding (actor : Option ℕ) (e : HalError)
  | returned (result : HalResult (SessionId × LeaseToken))
  | dropped
deriving DecidableEq

/-- An `open` call, known by the session identifier it draws, and the flags its session shares
with the actor and the manager. -/
structure OpenTask where
  owner : OwnerId
  resource : ResourceId
  mode : LeaseMode
  config : CanOpenConfig
  filters : CanFilterSet
  pc : OpenPc := .discovering
  assigned : Option ℕ := none
  reply : Oneshot (HalResult Unit) := .waiting
  activation : Option LeaseToken := none
  cancelled : Bool := false
  /-- the `cancellation` the open selects on -/
  notified : Bool := false
  done : Bool := false
  terminationExpected : Bool := false
  terminationFailed : Bool := false
deriving DecidableEq

def OpenTask.spec (t : OpenTask) (id : SessionId) : ActorSessionSpec := ⟨id, t.config, t.filters⟩

inductive ClosePc
  /-- awaiting the actor's reply -/
  | awaiting (reply : Oneshot RemoveOutcome)
  /-- the last session: awaiting the actor's end -/
  | lingering (result : HalResult Unit)
  | settled (result : HalResult Unit)
  /-- on its way to `finish_close`, with what it saw of the actor -/
  | finishing (result : HalResult Unit) (actorFinished : Bool)
  | returned (result : HalResult Unit)
  | dropped
deriving DecidableEq

/-- A close awaits something. -/
def ClosePc.awaits : ClosePc → Bool
  | .awaiting _ | .lingering _ => true
  | _ => false

/-- A `close` that has been handed to the actor; `parent` is the revocation it is part of. -/
structure CloseTask where
  session : SessionId
  token : LeaseToken
  resource : ResourceId
  epoch : ℕ
  parent : Option ℕ
  pc : ClosePc
deriving DecidableEq

/-- An operation on a session. -/
inductive Request
  | sendBatch (frames : List CanFrame)
  | receive (maxFrames : ℕ)
  | replaceFilters (filters : CanFilterSet)
  | busStatus
deriving DecidableEq

namespace Request

def operation : Request → String
  | .sendBatch _ => "can.send_batch"
  | .receive _ => "can.receive"
  | .replaceFilters _ => "can.replace_filters"
  | .busStatus => "can.status"

def requiredMode : Request → LeaseMode
  | .sendBatch _ => .control
  | _ => .observe

/-- The request's own checks, made after the session's. -/
def check (r : ResourceId) : Request → HalResult Unit
  | .sendBatch frames =>
    if frames.isEmpty || frames.length > maxCanBatchFrames then .error (invalidBatch r)
    else (frames.forM CanFrame.validate).mapError fun e => e.withResourceId r
  | .receive maxFrames =>
    if maxFrames < 1 || maxFrames > maxCanBatchFrames then .error (invalidLimit r) else .ok ()
  | _ => .ok ()

/-- The request as a command. -/
def command (call : ℕ) (id : SessionId) (deadline : ℕ) : Request → CanCommand
  | .sendBatch frames => .sendBatch call id frames
  | .receive maxFrames => .receive call id maxFrames deadline
  | .replaceFilters filters => .replaceFilters call id filters
  | .busStatus => .busStatus call id

/-- An error as the answer to the request. -/
def fail (e : HalError) : Request → OpReply
  | .sendBatch _ => .batch (.error (.new e))
  | .receive _ => .frames (.error e)
  | .replaceFilters _ => .replaced (.error e)
  | .busStatus => .status (.error e)

/-- The error at the deadline of the request; a batch has none. -/
def timeout (r : ResourceId) : Request → Option HalError
  | .sendBatch _ => none
  | .receive _ => some (receiveTimeout r)
  | .replaceFilters _ => some (operationTimeout "can.replace_filters" r)
  | .busStatus => some (operationTimeout "can.status" r)

end Request

inductive OpPc
  /-- validated, on its way to the queue of the actor of this epoch -/
  | ready (r : ResourceId) (epoch : ℕ)
  /-- a batch with room reserved for its frames -/
  | reserved (r : ResourceId) (epoch : ℕ)
  | awaiting (r : ResourceId) (epoch : ℕ) (reply : Oneshot OpReply)
  | returned (reply : OpReply)
  | dropped
deriving DecidableEq

structure OpTask where
  session : SessionId
  token : LeaseToken
  request : Request
  pc : OpPc
deriving DecidableEq

inductive RevokePc
  /-- awaiting the cleanup of the opens it cancelled -/
  | waiting (opens : List SessionId) (todo : List (SessionId × LeaseToken))
  /-- about to close the first of `todo`, again if it had to sleep -/
  | trying (asleep : Bool) (todo : List (SessionId × LeaseToken))
  /-- inside the close `close` of `cur` -/
  | closing (close : ℕ) (cur : SessionId × LeaseToken) (rest : List (SessionId × LeaseToken))
  | returned (result : HalResult Unit)
  | dropped
deriving DecidableEq

structure RevokeTask where
  owner : OwnerId
  pc : RevokePc
  firstError : Option HalError := none
deriving DecidableEq

/-- The task a dropped open leaves behind to have its session removed. -/
structure Remover where
  epoch : ℕ
  queued : Bool := false
deriving DecidableEq

structure State where
  mgr : ManagerState := {}
  threads : Assoc ℕ Actor := ∅
  opens : Assoc SessionId OpenTask := ∅
  closes : Assoc ℕ CloseTask := ∅
  ops : Assoc ℕ OpTask := ∅
  revokes : Assoc ℕ RevokeTask := ∅
  removers : Assoc SessionId Remover := ∅
  events : List RuntimeEvent := []

namespace State

def modifyOpen (s : State) (id : SessionId) (f : OpenTask → OpenTask) : State :=
  { s with opens := Assoc.modify s.opens id f }

def setPc (s : State) (id : SessionId) (pc : OpenPc) : State :=
  s.modifyOpen id fun t => { t with pc }

def setClose (s : State) (n : ℕ) (t : CloseTask) (pc : ClosePc) : State :=
  { s with closes := s.closes.insert n { t with pc } }

def setOp (s : State) (n : ℕ) (t : OpTask) (pc : OpPc) : State :=
  { s with ops := s.ops.insert n { t with pc } }

def setRevoke (s : State) (n : ℕ) (t : RevokeTask) (pc : RevokePc) : State :=
  { s with revokes := s.revokes.insert n { t with pc } }

def setThread (s : State) (e : ℕ) (a : Actor) : State := { s with threads := s.threads.insert e a }

def isFinished (s : State) (e : ℕ) : Bool := (s.threads.lookup e).any Actor.isFinished

/-- `try_command` on the handle of an actor. -/
def tryCommand (s : State) (e : ℕ) (cmd : CanCommand) (operation : String) : HalResult State :=
  match s.threads.lookup e with
  | none => .error (CanActor.actorUnavailable operation)
  | some a => (a.tryCommand cmd operation).map (s.setThread e)

def tryCleanup (s : State) (e : ℕ) (x : Removal) : HalResult State :=
  match s.threads.lookup e with
  | none => .error (CanActor.actorUnavailable "can.cleanup")
  | some a => (a.tryCleanup x).map (s.setThread e)

def publish (s : State) (kind : RuntimeEventKind) (r : ResourceId) (id : SessionId) (o : OwnerId)
    (token : LeaseToken) : State :=
  { s with events := s.events ++ [⟨kind, r, id, o, token.generation⟩] }

/-- The events at the end of a session: a failure once, then the close. -/
def publishClosed (s : State) (r : ResourceId) (id : SessionId) (x : ActiveSession)
    (failed : Bool) : State :=
  let s := if failed && !x.terminalHealthEmitted then
      s.publish .canBusUnknown r id x.ownerId x.token
    else s
  s.publish .sessionClosed r id x.ownerId x.token

/-! ### Actors that have finished -/

/-- A session whose actor has finished is retired. -/
def retire (s : State) (r : ResourceId) (id : SessionId) : State :=
  match s.mgr.active.lookup id with
  | none => s
  | some x =>
    let failed := (s.opens.lookup id).any fun t => !t.terminationExpected || t.terminationFailed
    { s with mgr := s.mgr.dropActive r id x.token x }.publishClosed r id x failed

/-- A pending open is cancelled by somebody else. -/
def cancelPending (s : State) (id : SessionId) (done : Bool) : State :=
  match s.mgr.pending.lookup id with
  | none => s
  | some _ =>
    { s with mgr := s.mgr.dropPending id }.modifyOpen id fun t =>
      { t with cancelled := true, notified := true, done := t.done || done }

/-- The sessions of a resource that the actor of this epoch serves. -/
def servedBy (s : State) (r : ResourceId) (e : ℕ) : List SessionId :=
  (s.mgr.active.entries.filter fun x => x.2.resourceId = r ∧ x.2.actorEpoch = e).map Sigma.fst

/-- The opens that wait for the actor of this epoch. -/
def awaitedBy (s : State) (e : ℕ) : List SessionId :=
  (s.mgr.pending.entries.filter fun x => x.2.actorEpoch = some e).map Sigma.fst

def reconcileFinishedActor (s : State) (r : ResourceId) : State :=
  match s.mgr.actors.lookup r with
  | none => s
  | some e =>
    if !s.isFinished e then s
    else
      let s := { s with mgr := { s.mgr with actors := s.mgr.actors.erase r } }
      let s := (s.servedBy r e).foldl (fun s id => s.retire r id) s
      (s.awaitedBy e).foldl (fun s id => s.cancelPending id true) s

/-! ### `open` -/

/-- `open` starts, with the identifier it will draw. -/
def openCall (s : State) (id : SessionId) (o : OwnerId) (r : ResourceId) (mode : LeaseMode)
    (config : CanOpenConfig) (filters : CanFilterSet) : Option State :=
  match s.opens.lookup id with
  | some _ => none
  | none =>
    let pc : OpenPc := if config.isConfigure ∧ mode ≠ .maintenance then
      .returned (.error (modeDenied r)) else .discovering
    let t : OpenTask := { owner := o, resource := r, mode, config, filters, pc }
    some { s with opens := s.opens.insert id t }

/-- The discovery failed, or what it found does not have the resource. -/
def discoveryFailed (s : State) (id : SessionId) (t : OpenTask) (e : HalError) : Option State :=
  match t.pc with
  | .discovering => some (s.setPc id (.returned (.error e)))
  | _ => none

/-- The first lock section: the lease is reserved and the open becomes pending. -/
def reserve (s : State) (id : SessionId) (t : OpenTask) (fresh : LeaseId) : Option State :=
  match t.pc with
  | .discovering =>
    let s := s.reconcileFinishedActor t.resource
    let leases := (s.mgr.leases.reserve t.resource id t.owner t.mode fresh).1
    match (s.mgr.leases.reserve t.resource id t.owner t.mode fresh).2 with
    | .error e =>
      some ({ s with mgr := { s.mgr with leases } }.setPc id (.returned (.error e)))
    | .ok reservation =>
      let pending := s.mgr.pending.insert id ⟨reservation, none⟩
      some ({ s with mgr := { s.mgr with leases, pending } }.setPc id .reserved)
  | _ => none

/-- The open has an actor: it is noted in its pending entry, if that is still there. -/
def assigned (s : State) (id : SessionId) (e : ℕ) : State :=
  { s with mgr := { s.mgr with
      pending := Assoc.modify s.mgr.pending id
        fun p => { p with actorEpoch := some e } } }.modifyOpen
    id fun t => { t with assigned := some e, pc := .awaiting e }

/-- A new actor for the resource. -/
def spawn (s : State) (r : ResourceId) (e : ℕ) (first : ActorSessionSpec) : State :=
  { s with mgr := { s.mgr with actors := s.mgr.actors.insert r e } }.setThread e
    { resource := r, first }

/-- The second lock section: the session goes to the resource's actor, or to a new one, whose
thread may fail to start. -/
def assign (s : State) (id : SessionId) (t : OpenTask) (spawned : HalResult Unit) :
    Option State :=
  match t.pc with
  | .reserved =>
    let s := s.reconcileFinishedActor t.resource
    match s.mgr.actors.lookup t.resource with
    | some e =>
      match s.tryCommand e (.addSession (t.spec id)) "can.open" with
      | .error err => some (s.setPc id (.unwinding none err))
      | .ok s => some (s.assigned id e)
    | none =>
      match checkedAdd s.mgr.nextActorEpoch 1 with
      | none => some (s.setPc id (.unwinding none epochExhausted))
      | some e =>
        let s := { s with mgr := { s.mgr with nextActorEpoch := e } }
        match spawned with
        | .error err => some (s.setPc id (.unwinding none err))
        | .ok _ => some ((s.spawn t.resource e (t.spec id)).assigned id e)
  | _ => none

/-- `cleanup` of the guard is entered. -/
def beginCleanup (s : State) (id : SessionId) (e : ℕ) (err : HalError) : State :=
  s.modifyOpen id fun t => { t with cancelled := true, pc := .cleaning e err }

/-- The actor's answer to the admission is seen. -/
def admitted (s : State) (id : SessionId) (t : OpenTask) : Option State :=
  match t.pc, t.reply with
  | .awaiting e, .sent (.ok _) => some (s.setPc id (.committing e))
  | .awaiting e, .sent (.error err) => some (s.beginCleanup id e (err.withResourceId t.resource))
  | .awaiting e, .lost =>
    some (s.setPc id (.unwinding (some e) (actorUnavailable "can.open" t.resource)))
  | _, _ => none

/-- The deadline passes. The answer may have come since it was last looked for. -/
def openDeadline (s : State) (id : SessionId) (t : OpenTask) : Option State :=
  match t.pc with
  | .awaiting e => some (s.beginCleanup id e (admissionTimeout t.resource))
  | _ => none

def openCancelled (s : State) (id : SessionId) (t : OpenTask) : Option State :=
  match t.pc, t.notified with
  | .awaiting e, true => some (s.beginCleanup id e (sessionClosed "can.open" t.resource))
  | _, _ => none

/-- The third lock section: the reservation becomes a lease and the open a session. -/
def commit (s : State) (id : SessionId) (t : OpenTask) (fresh : LeaseId) : Option State :=
  match t.pc with
  | .committing e =>
    let s := s.reconcileFinishedActor t.resource
    match s.mgr.pending.lookup id with
    | none => some (s.beginCleanup id e (sessionClosed "can.open" t.resource))
    | some p =>
      let mgr := { s.mgr with
        pending := s.mgr.pending.erase id
        leases := (s.mgr.leases.commit p.reservation fresh).1 }
      match (s.mgr.leases.commit p.reservation fresh).2, p.actorEpoch with
      | .error err, _ => some ({ s with mgr }.beginCleanup id e err)
      -- the source panics here: an admitted open has an epoch
      | .ok _, none => none
      | .ok token, some epoch =>
        let session : ActiveSession :=
          { resourceId := t.resource, ownerId := t.owner, token, actorEpoch := epoch }
        let s := { s with mgr := { mgr with active := mgr.active.insert id session } }
        some ((s.publish .sessionOpened t.resource id t.owner token).modifyOpen id fun t =>
          { t with activation := some token, done := true, pc := .returned (.ok (id, token)) })
  | _ => none

/-- How a round of `reliable_actor_remove` ends. -/
inductive Removing
  | over
  | queued
  | again
deriving DecidableEq

/-- The session's removal is put into the cleanup queue, unless the actor is gone or the queue
stays full until the deadline. -/
def reliableActorRemove (s : State) (id : SessionId) (e : ℕ) (expired : Bool) : State × Removing :=
  if s.isFinished e then (s.modifyOpen id fun t => { t with done := true }, .over)
  else
    match s.tryCleanup e ⟨id, true, none⟩ with
    | .ok s => (s, .queued)
    | .error err =>
      if isQueueFull err then (s, if expired then .over else .again)
      else (s.modifyOpen id fun t => { t with done := true }, .over)

/-- The wait for the removal is over: the actor has finished, the session is gone, or the
deadline has passed. -/
def removed (s : State) (id : SessionId) (e : ℕ) (expired : Bool) : Option State :=
  if s.isFinished e then some (s.modifyOpen id fun t => { t with done := true })
  else if (s.opens.lookup id).any OpenTask.done || expired then some s
  else none

def cleanTry (s : State) (id : SessionId) (t : OpenTask) (expired : Bool) : Option State :=
  match t.pc with
  | .cleaning e err =>
    match s.reliableActorRemove id e expired with
    | (s, .over) => some (s.setPc id (.unwinding none err))
    | (s, .queued) => some (s.setPc id (.cleaned e err))
    | (s, .again) => some s
  | _ => none

def cleanDone (s : State) (id : SessionId) (t : OpenTask) (expired : Bool) : Option State :=
  match t.pc with
  | .cleaned e err => (s.removed id e expired).map fun s => s.setPc id (.unwinding none err)
  | _ => none

/-- The guard goes out of scope, armed: what is left of the reservation is cancelled, and a task
takes care of the actor's session if nobody has yet. -/
def dropGuard (s : State) (id : SessionId) (actor : Option ℕ) (pc : OpenPc) : State :=
  let s := { s with mgr := s.mgr.dropPending id }
  match actor with
  | some e =>
    { s with removers := s.removers.insert id ⟨e, false⟩ }.modifyOpen id fun t =>
      { t with cancelled := true, pc }
  | none =>
    s.modifyOpen id fun t => { t with cancelled := true, done := t.done || t.assigned.isNone, pc }

def unwind (s : State) (id : SessionId) (t : OpenTask) : Option State :=
  match t.pc with
  | .unwinding actor err => some (s.dropGuard id actor (.returned (.error err)))
  | _ => none

/-- The future is dropped where it awaits. -/
def dropOpen (s : State) (id : SessionId) (t : OpenTask) : Option State :=
  match t.pc with
  | .discovering => some (s.setPc id .dropped)
  | .awaiting e => some (s.dropGuard id (some e) .dropped)
  | .cleaning _ _ | .cleaned _ _ => some (s.dropGuard id none .dropped)
  | _ => none

def removerTry (s : State) (id : SessionId) (expired : Bool) : Option State :=
  match s.removers.lookup id with
  | some ⟨e, false⟩ =>
    match s.reliableActorRemove id e expired with
    | (s, .over) => some { s with removers := s.removers.erase id }
    | (s, .queued) => some { s with removers := s.removers.insert id ⟨e, true⟩ }
    | (s, .again) => some s
  | _ => none

def removerDone (s : State) (id : SessionId) (expired : Bool) : Option State :=
  match s.removers.lookup id with
  | some ⟨e, true⟩ =>
    (s.removed id e expired).map fun s => { s with removers := s.removers.erase id }
  | _ => none

/-! ### Operations -/

/-- The reconciliation in front of every lock section that names a session. -/
def reconcileSession (s : State) (id : SessionId) : State :=
  match s.mgr.active.lookup id with
  | some x => s.reconcileFinishedActor x.resourceId
  | none => s

/-- The lock section of every operation: the session's resource and the epoch of its actor. -/
def sessionActor (s : State) (id : SessionId) (token : LeaseToken) (required : LeaseMode)
    (operation : String) : State × HalResult (ResourceId × ℕ) :=
  let s := s.reconcileSession id
  match s.mgr.active.lookup id with
  | none => (s, .error (missingSessionError s.mgr id token operation))
  | some x =>
    match s.mgr.leases.validate x.resourceId id x.ownerId token required operation with
    | .error e => (s, .error e)
    | .ok _ =>
      if x.closing then (s, .error (sessionClosed operation x.resourceId))
      else (s, .ok (x.resourceId, x.actorEpoch))

def opCall (s : State) (n : ℕ) (id : SessionId) (token : LeaseToken) (q : Request) :
    Option State :=
  match s.ops.lookup n with
  | some _ => none
  | none =>
    let located := s.sessionActor id token q.requiredMode q.operation
    let pc : OpPc := match located.2 with
      | .error e => .returned (q.fail e)
      | .ok (r, e) =>
        match q.check r with
        | .error err => .returned (q.fail err)
        | .ok _ => .ready r e
    some { located.1 with ops := located.1.ops.insert n ⟨id, token, q, pc⟩ }

/-- A batch reserves room for its frames. -/
def opReserve (c : Config) (s : State) (n : ℕ) : Option State :=
  match s.ops.lookup n with
  | some ⟨id, token, .sendBatch frames, .ready r e⟩ =>
    let t : OpTask := ⟨id, token, .sendBatch frames, .ready r e⟩
    match s.threads.lookup e with
    | none => none
    | some a =>
      match a.reserveTx frames.length c.txCapacity with
      | .error err => some (s.setOp n t (.returned (t.request.fail (err.withResourceId r))))
      | .ok a => some ((s.setThread e a).setOp n t (.reserved r e))
  | _ => none

/-- The command is queued, with the deadline the caller computed; a batch that finds no place
gives its room back. -/
def opEnqueue (s : State) (n : ℕ) (deadline : ℕ) : Option State :=
  match s.ops.lookup n with
  | some ⟨id, token, .sendBatch frames, .reserved r e⟩ =>
    let t : OpTask := ⟨id, token, .sendBatch frames, .reserved r e⟩
    match s.tryCommand e (.sendBatch n id frames) "can.send_batch" with
    | .error err =>
      let threads := Assoc.modify s.threads e fun a => a.releaseTx frames.length
      some ({ s with threads }.setOp n t (.returned (t.request.fail (err.withResourceId r))))
    | .ok s => some (s.setOp n t (.awaiting r e .waiting))
  | some ⟨_, _, .sendBatch _, _⟩ => none
  | some ⟨id, token, q, .ready r e⟩ =>
    let t : OpTask := ⟨id, token, q, .ready r e⟩
    match s.tryCommand e (q.command n id deadline) q.operation with
    | .error err => some (s.setOp n t (.returned (q.fail (err.withResourceId r))))
    | .ok s => some (s.setOp n t (.awaiting r e .waiting))
  | _ => none

def opAnswered (s : State) (n : ℕ) : Option State :=
  match s.ops.lookup n with
  | some ⟨id, token, q, .awaiting r e reply⟩ =>
    let t : OpTask := ⟨id, token, q, .awaiting r e reply⟩
    match reply with
    | .waiting => none
    | .sent x => some (s.setOp n t (.returned x))
    | .lost => some (s.setOp n t (.returned (q.fail (actorUnavailable q.operation r))))
  | _ => none

/-- The deadline passes. `timeout` polls the reply before the timer, and drops it afterwards: what
the actor sends in between is lost. -/
def opDeadline (s : State) (n : ℕ) : Option State :=
  match s.ops.lookup n with
  | some ⟨id, token, q, .awaiting r e reply⟩ =>
    (q.timeout r).map fun err =>
      s.setOp n ⟨id, token, q, .awaiting r e reply⟩ (.returned (q.fail err))
  | _ => none

def dropOp (s : State) (n : ℕ) : Option State :=
  match s.ops.lookup n with
  | some ⟨id, token, q, .awaiting r e reply⟩ =>
    some (s.setOp n ⟨id, token, q, .awaiting r e reply⟩ .dropped)
  | _ => none

/-! ### `close` -/

/-- The lock section of `close`, which answers at once or hands the removal to the actor. -/
def closeLocked (s : State) (n : ℕ) (parent : Option ℕ) (id : SessionId) (token : LeaseToken) :
    State × Option (HalResult Unit) :=
  let s := s.reconcileSession id
  match s.mgr.active.lookup id with
  | none => (s, some (closedResult s.mgr id token "can.close"))
  | some x =>
    match s.mgr.leases.validate x.resourceId id x.ownerId token .observe "can.close" with
    | .error e => (s, some (.error e))
    | .ok _ =>
      if x.closing then (s, some (.error (sessionClosed "can.close" x.resourceId)))
      else
        match s.tryCleanup x.actorEpoch ⟨id, false, some n⟩ with
        | .error e => (s, some (.error (e.withResourceId x.resourceId)))
        | .ok s =>
          ({ s with
              mgr := { s.mgr with active := s.mgr.active.insert id { x with closing := true } }
              closes := s.closes.insert n
                ⟨id, token, x.resourceId, x.actorEpoch, parent, .awaiting .waiting⟩ }, none)

/-- A close that is over in its lock section needs no task. -/
def closeCall (s : State) (n : ℕ) (id : SessionId) (token : LeaseToken) : Option State :=
  match s.closes.lookup n with
  | some _ => none
  | none => some (s.closeLocked n none id token).1

def closeReplied (s : State) (n : ℕ) : Option State :=
  match s.closes.lookup n with
  | some t =>
    match t.pc with
    | .awaiting (.sent out) =>
      some (s.setClose n t (if out.lastSession then .lingering out.result else .settled out.result))
    | .awaiting .lost =>
      some (s.setClose n t (.settled (.error (actorUnavailable "can.close" t.resource))))
    | _ => none
  | none => none

def closeDeadline (c : Config) (s : State) (n : ℕ) : Option State :=
  match s.closes.lookup n with
  | some t =>
    match t.pc with
    | .awaiting _ => some (s.setClose n t (.settled (.error (closeTimeout c t.resource))))
    | _ => none
  | none => none

/-- The wait for the actor's end is over, or has taken too long. -/
def closeLingered (s : State) (n : ℕ) (expired : Bool) : Option State :=
  match s.closes.lookup n with
  | some t =>
    match t.pc with
    | .lingering result =>
      if s.isFinished t.epoch || expired then some (s.setClose n t (.settled result)) else none
    | _ => none
  | none => none

def closeObserve (s : State) (n : ℕ) : Option State :=
  match s.closes.lookup n with
  | some t =>
    match t.pc with
    | .settled result => some (s.setClose n t (.finishing result (s.isFinished t.epoch)))
    | _ => none
  | none => none

def finishClose (s : State) (t : CloseTask) (closeFailed actorFinished : Bool) : State :=
  match s.mgr.active.lookup t.session with
  | none => s
  | some x =>
    let s := { s with mgr := s.mgr.dropActive t.resource t.session t.token x }
    let s := s.publishClosed t.resource t.session x closeFailed
    if actorFinished ∧ s.mgr.actors.lookup t.resource = some t.epoch ∧ s.isFinished t.epoch then
      { s with mgr := { s.mgr with actors := s.mgr.actors.erase t.resource } }
    else s

def closeFinish (s : State) (n : ℕ) : Option State :=
  match s.closes.lookup n with
  | some t =>
    match t.pc with
    | .finishing result actorFinished =>
      let failed := match result with | .ok _ => false | .error _ => true
      some ((s.finishClose t failed actorFinished).setClose n t (.returned result))
    | _ => none
  | none => none

def dropClose (s : State) (n : ℕ) : Option State :=
  match s.closes.lookup n with
  | some t => if t.pc.awaits ∧ t.parent = none then some (s.setClose n t .dropped) else none
  | none => none

/-! ### `revoke_owner` -/

def pendingOf (s : State) (o : OwnerId) : List SessionId :=
  (s.mgr.pending.entries.filter fun x => x.2.reservation.ownerId = o).map Sigma.fst

def activeOf (s : State) (o : OwnerId) : List (SessionId × LeaseToken) :=
  (s.mgr.active.entries.filter fun x => x.2.ownerId = o).map fun x => (x.1, x.2.token)

/-- On to the next session, or out. -/
def revokeNext (s : State) (n : ℕ) (t : RevokeTask) (todo : List (SessionId × LeaseToken))
    (firstError : Option HalError) : State :=
  let pc : RevokePc := match todo with
    | [] => .returned (match firstError with | none => .ok () | some e => .error e)
    | _ => .trying false todo
  { s with revokes := s.revokes.insert n { t with pc, firstError } }

/-- On to the next cancelled open, or to the sessions. -/
def revokeAwait (s : State) (n : ℕ) (t : RevokeTask) (opens : List SessionId)
    (todo : List (SessionId × LeaseToken)) (firstError : Option HalError) : State :=
  match opens with
  | [] => s.revokeNext n t todo firstError
  | _ => { s with revokes := s.revokes.insert n { t with pc := .waiting opens todo, firstError } }

/-- The lock section: pending opens are cancelled and sessions listed, each in whatever order
its map gives. -/
def revokeCall (s : State) (n : ℕ) (o : OwnerId) (opens : List SessionId)
    (todo : List (SessionId × LeaseToken)) : Option State :=
  match s.revokes.lookup n with
  | some _ => none
  | none =>
    if opens.isPerm (s.pendingOf o) ∧ todo.isPerm (s.activeOf o) then
      let s := opens.foldl (fun s id => s.cancelPending id false) s
      some (s.revokeAwait n ⟨o, .waiting opens todo, none⟩ opens todo none)
    else none

/-- Somebody still holds the sending end of the `done` of an open. -/
def doneHeld (s : State) (id : SessionId) : Bool :=
  (s.removers.lookup id).isSome || (s.opens.lookup id).any fun t =>
    (match t.pc with | .returned _ | .dropped => false | _ => true) ||
    t.assigned.any fun e => (s.threads.lookup e).any fun a =>
      (a.first.sessionId = id && !a.isFinished) ||
      (a.connected && ((a.sessions.lookup id).isSome ||
        a.commands.any (fun | .addSession spec => spec.sessionId = id | _ => false) ||
        a.cleanup.any fun x => x.cleanupDone && x.sessionId = id))

/-- The wait for a cancelled open is over: it is cleaned up, or nobody is left to say so, or the
deadline has passed. -/
def revokeWaited (s : State) (n : ℕ) (expired : Bool) : Option State :=
  match s.revokes.lookup n with
  | some ⟨o, .waiting (id :: rest) todo, firstError⟩ =>
    let t : RevokeTask := ⟨o, .waiting (id :: rest) todo, firstError⟩
    if (s.opens.lookup id).any OpenTask.done || !s.doneHeld id then
      some (s.revokeAwait n t rest todo firstError)
    else if expired then
      some (s.revokeAwait n t rest todo (firstError.or (some provisionalTimeout)))
    else none
  | _ => none

/-- `close_reliably` on the answer of a close: a full queue is tried again before the deadline. -/
def revokeAnswer (s : State) (n : ℕ) (t : RevokeTask) (cur : SessionId × LeaseToken)
    (rest : List (SessionId × LeaseToken)) (res : HalResult Unit) (expired : Bool) : State :=
  match res with
  | .ok _ => s.revokeNext n t rest t.firstError
  | .error e =>
    if isQueueFull e && !expired then s.setRevoke n t (.trying true (cur :: rest))
    else s.revokeNext n t rest (t.firstError.or (some e))

/-- The next session is closed, by the close `m`. -/
def revokeClose (s : State) (n m : ℕ) (expired : Bool) : Option State :=
  match s.revokes.lookup n, s.closes.lookup m with
  | some ⟨o, .trying asleep (cur :: rest), firstError⟩, none =>
    let t : RevokeTask := ⟨o, .trying asleep (cur :: rest), firstError⟩
    match s.closeLocked m (some n) cur.1 cur.2 with
    | (s, none) => some (s.setRevoke n t (.closing m cur rest))
    | (s, some res) => some (s.revokeAnswer n t cur rest res expired)
  | _, _ => none

def revokeClosed (s : State) (n : ℕ) (expired : Bool) : Option State :=
  match s.revokes.lookup n with
  | some ⟨o, .closing m cur rest, firstError⟩ =>
    match (s.closes.lookup m).map CloseTask.pc with
    | some (.returned res) =>
      some (s.revokeAnswer n ⟨o, .closing m cur rest, firstError⟩ cur rest res expired)
    | _ => none
  | _ => none

/-- The future is dropped where it awaits, with the close it is inside. -/
def dropRevoke (s : State) (n : ℕ) : Option State :=
  match s.revokes.lookup n with
  | some t =>
    match t.pc with
    | .waiting _ _ | .trying true _ => some (s.setRevoke n t .dropped)
    | .closing m _ _ =>
      match s.closes.lookup m with
      | some x =>
        if x.pc.awaits then some ((s.setClose m x .dropped).setRevoke n t .dropped) else none
      | none => none
    | _ => none
  | none => none

/-! ### Actors -/

def flags (s : State) : Flags where
  cancelled id := (s.opens.lookup id).any OpenTask.cancelled
  activated id := (s.opens.lookup id).any fun t => t.activation.isSome
  closed n := match (s.ops.lookup n).map OpTask.pc with
    | some (.awaiting _ _ _) => false
    | _ => true

/-- What an actor says arrives. -/
def notice (s : State) : Notice → State
  | .added id res => s.modifyOpen id fun t => { t with reply := t.reply.deliver res }
  | .removed n out => { s with closes := Assoc.modify s.closes n fun t =>
      match t.pc with
      | .awaiting reply => { t with pc := .awaiting (reply.deliver out) }
      | _ => t }
  | .answered n res => { s with ops := Assoc.modify s.ops n fun t =>
      match t.pc with
      | .awaiting r e reply => { t with pc := .awaiting r e (reply.deliver res) }
      | _ => t }
  | .done id => s.modifyOpen id fun t => { t with done := true }
  | .terminated id failed => s.modifyOpen id fun t =>
      { t with terminationExpected := true, terminationFailed := failed }
  | .health id state =>
    match s.opens.lookup id with
    | some t =>
      match t.activation with
      | some token => s.publish (busEventKind state) t.resource id t.owner token
      | none => s
    | none => s

def actorStep (c : Config) (s : State) (e : ℕ) (ev : ActorEvent) : Option State :=
  match s.threads.lookup e with
  | none => none
  | some a => (a.step c s.flags ev).map fun x => x.2.foldl notice (s.setThread e x.1)

end State

inductive Event
  | openCall (id : SessionId) (o : OwnerId) (r : ResourceId) (mode : LeaseMode)
      (config : CanOpenConfig) (filters : CanFilterSet)
  | discoveryFailed (id : SessionId) (e : HalError)
  | reserve (id : SessionId) (fresh : LeaseId)
  | assign (id : SessionId) (spawned : HalResult Unit)
  | admitted (id : SessionId)
  | openDeadline (id : SessionId)
  | openCancelled (id : SessionId)
  | commit (id : SessionId) (fresh : LeaseId)
  | cleanTry (id : SessionId) (expired : Bool)
  | cleanDone (id : SessionId) (expired : Bool)
  | unwind (id : SessionId)
  | dropOpen (id : SessionId)
  | removerTry (id : SessionId) (expired : Bool)
  | removerDone (id : SessionId) (expired : Bool)
  | opCall (n : ℕ) (id : SessionId) (token : LeaseToken) (q : Request)
  | opReserve (n : ℕ)
  | opEnqueue (n : ℕ) (deadline : ℕ)
  | opAnswered (n : ℕ)
  | opDeadline (n : ℕ)
  | dropOp (n : ℕ)
  | closeCall (n : ℕ) (id : SessionId) (token : LeaseToken)
  | closeReplied (n : ℕ)
  | closeDeadline (n : ℕ)
  | closeLingered (n : ℕ) (expired : Bool)
  | closeObserve (n : ℕ)
  | closeFinish (n : ℕ)
  | dropClose (n : ℕ)
  | revokeCall (n : ℕ) (o : OwnerId) (opens : List SessionId)
      (todo : List (SessionId × LeaseToken))
  | revokeWaited (n : ℕ) (expired : Bool)
  | revokeClose (n m : ℕ) (expired : Bool)
  | revokeClosed (n : ℕ) (expired : Bool)
  | dropRevoke (n : ℕ)
  | actor (epoch : ℕ) (e : ActorEvent)
deriving DecidableEq

/-- The step of an open, if it is there. -/
def State.onOpen (s : State) (id : SessionId) (f : OpenTask → Option State) : Option State :=
  (s.opens.lookup id).bind f

def step (c : Config) (s : State) : Event → Option State
  | .openCall id o r mode config filters => s.openCall id o r mode config filters
  | .discoveryFailed id e => s.onOpen id fun t => s.discoveryFailed id t e
  | .reserve id fresh => s.onOpen id fun t => s.reserve id t fresh
  | .assign id spawned => s.onOpen id fun t => s.assign id t spawned
  | .admitted id => s.onOpen id fun t => s.admitted id t
  | .openDeadline id => s.onOpen id fun t => s.openDeadline id t
  | .openCancelled id => s.onOpen id fun t => s.openCancelled id t
  | .commit id fresh => s.onOpen id fun t => s.commit id t fresh
  | .cleanTry id expired => s.onOpen id fun t => s.cleanTry id t expired
  | .cleanDone id expired => s.onOpen id fun t => s.cleanDone id t expired
  | .unwind id => s.onOpen id fun t => s.unwind id t
  | .dropOpen id => s.onOpen id fun t => s.dropOpen id t
  | .removerTry id expired => s.removerTry id expired
  | .removerDone id expired => s.removerDone id expired
  | .opCall n id token q => s.opCall n id token q
  | .opReserve n => s.opReserve c n
  | .opEnqueue n deadline => s.opEnqueue n deadline
  | .opAnswered n => s.opAnswered n
  | .opDeadline n => s.opDeadline n
  | .dropOp n => s.dropOp n
  | .closeCall n id token => s.closeCall n id token
  | .closeReplied n => s.closeReplied n
  | .closeDeadline n => s.closeDeadline c n
  | .closeLingered n expired => s.closeLingered n expired
  | .closeObserve n => s.closeObserve n
  | .closeFinish n => s.closeFinish n
  | .dropClose n => s.dropClose n
  | .revokeCall n o opens todo => s.revokeCall n o opens todo
  | .revokeWaited n expired => s.revokeWaited n expired
  | .revokeClose n m expired => s.revokeClose n m expired
  | .revokeClosed n expired => s.revokeClosed n expired
  | .dropRevoke n => s.dropRevoke n
  | .actor epoch e => s.actorStep c epoch e

end RobotHal.CanManager
