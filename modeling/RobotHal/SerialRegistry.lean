import RobotHal.WorkerManager

/-!
The registry of serial sessions (`registry.rs` of the runtime, with the phases of
`session_lifecycle.rs`).

Everything here happens under the registry's lock. A session's entry carries the sending ends
of two watch channels: `cancelled` is what the cancellation channel of its open says, and
`done` keeps, for each session that left the registry, what its completion channel was sent.
-/

namespace RobotHal

namespace WorkerManager.SessionLifecycle

def name : SessionLifecycle → String
  | .opening => "Opening"
  | .active => "Active"
  | .closing => "Closing"

def invalidTransition (operation : String) (actual expected : SessionLifecycle)
    (message : String) : HalError :=
  runtimeError "runtime.session.lifecycle.invalid_transition" .conflict operation false
    ("session lifecycle is " ++ actual.name ++ ", expected " ++ expected.name ++ ": " ++ message)

def commitOpen (x : SessionLifecycle) (operation : String) : HalResult SessionLifecycle :=
  if x ≠ .opening then
    .error (invalidTransition operation x .active "only an opening session can become active")
  else .ok .active

def beginClose (_ : SessionLifecycle) : SessionLifecycle := .closing

def admitIo (x : SessionLifecycle) (operation : String) : HalResult Unit :=
  if x ≠ .active then
    .error (runtimeError "runtime.session.closed" .conflict operation false
      "the session is not active and cannot admit new I/O")
  else .ok ()

end WorkerManager.SessionLifecycle

namespace Serial

open WorkerManager (SessionLifecycle)

def closedSessionCapacity : ℕ := 256

structure SessionEntry where
  resource : ResourceId
  owner : OwnerId
  lease : LeaseToken
  state : SessionLifecycle
  /-- the handle of the session's actor is there -/
  actor : Bool
  cancelled : Bool
deriving DecidableEq

inductive EventKind
  | sessionOpened
  | sessionClosed
deriving DecidableEq, Repr

structure RuntimeEvent where
  kind : EventKind
  resource : ResourceId
  session : SessionId
  owner : OwnerId
  leaseGeneration : ℕ
deriving DecidableEq

structure RevokeTarget where
  session : SessionId
  /-- the target is waited for through its actor, or else through its completion channel -/
  actor : Bool
  resource : ResourceId
deriving DecidableEq

inductive CloseAction
  | alreadyClosed
  | wait (resource : ResourceId)
deriving DecidableEq

structure Registry where
  leases : LeaseTable := {}
  sessions : Assoc SessionId SessionEntry := ∅
  closedSessions : Assoc SessionId LeaseToken := ∅
  closedOrder : List SessionId := []
  done : Assoc SessionId (HalResult Unit) := ∅

def sessionNotFound (operation : String) : HalError :=
  runtimeError "runtime.session.not_found" .notFound operation false
    "the serial session ID is unknown"

def sessionClosed (operation : String) : HalError :=
  runtimeError "runtime.session.closed" .conflict operation false "the serial session is closed"

def validateClosedLease (closed supplied : LeaseToken) (operation : String) : HalResult Unit :=
  if supplied.generation < closed.generation then
    .error (runtimeError "runtime.lease.stale_generation" .conflict operation false
      "the supplied lease generation predates the closed session generation")
  else if supplied ≠ closed then
    .error (runtimeError "runtime.lease.invalid_token" .conflict operation false
      "the supplied lease token does not match the closed session")
  else .ok ()

namespace Registry

variable (g : Registry)

def reserveOpen (r : ResourceId) (id : SessionId) (o : OwnerId) (fresh : LeaseId) :
    Registry × HalResult LeaseToken :=
  match g.leases.reserveControl r id o fresh with
  | (leases, .error e) => ({ g with leases }, .error e)
  | (leases, .ok lease) =>
    ({ g with
        leases
        sessions := g.sessions.insert id
          { resource := r, owner := o, lease, state := .opening, actor := false
            cancelled := false } }, .ok lease)

/-- The entry of an event about a session. -/
def event (kind : EventKind) (id : SessionId) (e : SessionEntry) : RuntimeEvent :=
  { kind, resource := e.resource, session := id, owner := e.owner
    leaseGeneration := e.lease.generation }

def finishOpen (id : SessionId) : Registry × Option RuntimeEvent × Bool :=
  match g.sessions.lookup id with
  | none => (g, none, false)
  | some e =>
    let e := { e with actor := true }
    let g := { g with sessions := g.sessions.insert id e }
    if e.state = .closing then (g, none, false)
    else
      match g.leases.commit e.resource id e.lease with
      | (leases, false) => ({ g with leases }, none, false)
      | (leases, true) =>
        match e.state.commitOpen "serial.open" with
        | .error _ => ({ g with leases }, none, false)
        | .ok state =>
          ({ g with leases, sessions := g.sessions.insert id { e with state } },
            some (event .sessionOpened id e), true)

def cancelOpen (id : SessionId) : Registry :=
  match g.sessions.lookup id with
  | none => g
  | some e =>
    { g with
      sessions := g.sessions.erase id
      leases := (g.leases.release e.resource id).1
      done := g.done.insert id (.ok ()) }

def missingSessionError (id : SessionId) (lease : LeaseToken) (operation : String) : HalError :=
  match g.closedSessions.lookup id with
  | none => sessionNotFound operation
  | some closed =>
    match validateClosedLease closed lease operation with
    | .ok () => sessionClosed operation
    | .error e => e

def actorUnavailable (operation message : String) (r : ResourceId) : HalError :=
  (runtimeError "runtime.actor.unavailable" .internal operation false message).withResourceId r

/-- `enqueue`, where `sent` is what the actor's command channel answers. -/
def enqueue (id : SessionId) (lease : LeaseToken) (sent : HalResult Unit) (operation : String) :
    HalResult ResourceId :=
  match g.sessions.lookup id with
  | none => .error (g.missingSessionError id lease operation)
  | some e => do
    g.leases.validate e.resource id e.owner lease operation
    (e.state.admitIo operation).mapError fun x => x.withResourceId e.resource
    if !e.actor then
      throw (actorUnavailable operation "the active serial session has no actor" e.resource)
    sent.mapError fun x => x.withResourceId e.resource
    return e.resource

def closedCloseResult (id : SessionId) (lease : LeaseToken) : HalResult CloseAction :=
  match g.closedSessions.lookup id with
  | none => .error (sessionNotFound "serial.close")
  | some closed => (validateClosedLease closed lease "serial.close").map fun _ => .alreadyClosed

def beginClose (id : SessionId) (lease : LeaseToken) : Registry × HalResult CloseAction :=
  match g.sessions.lookup id with
  | none => (g, g.closedCloseResult id lease)
  | some e =>
    match g.leases.validate e.resource id e.owner lease "serial.close" with
    | .error x => (g, .error x)
    | .ok () =>
      let e := { e with state := e.state.beginClose }
      let g := { g with sessions := g.sessions.insert id e }
      if e.actor then (g, .ok (.wait e.resource))
      else
        (g, .error (actorUnavailable "serial.close"
          "the serial session is still opening and has no actor" e.resource))

/-- What revoking its owner does to an entry. -/
def revokeEntry (e : SessionEntry) : SessionEntry :=
  { e with state := e.state.beginClose, cancelled := e.cancelled || !e.actor }

def revokeTargets (o : OwnerId) : List RevokeTarget :=
  (g.sessions.entries.filter fun x => x.2.owner = o).map fun x =>
    { session := x.1, actor := x.2.actor, resource := x.2.resource }

def beginRevoke (o : OwnerId) : Registry :=
  { g with
    sessions := Assoc.mapVal g.sessions fun _ e => if e.owner = o then revokeEntry e else e }

/-- The oldest remembered sessions are forgotten until there is room for one more. -/
def evict (closed : Assoc SessionId LeaseToken) :
    List SessionId → Assoc SessionId LeaseToken × List SessionId
  | [] => (closed, [])
  | expired :: order =>
    if (expired :: order).length ≥ closedSessionCapacity then evict (closed.erase expired) order
    else (closed, expired :: order)

def rememberClosed (id : SessionId) (lease : LeaseToken) : Registry :=
  if (g.closedSessions.lookup id).isSome then g
  else
    let (closed, order) := evict g.closedSessions g.closedOrder
    { g with closedOrder := order ++ [id], closedSessions := closed.insert id lease }

def finishClose (id : SessionId) (result : HalResult Unit) : Registry × Option RuntimeEvent :=
  match g.sessions.lookup id with
  | none => (g, none)
  | some e =>
    let (leases, exposed) := g.leases.release e.resource id
    let g := { g with leases, sessions := g.sessions.erase id, done := g.done.insert id result }
    if exposed then (g.rememberClosed id e.lease, some (event .sessionClosed id e))
    else (g, none)

end Registry

end Serial

end RobotHal
