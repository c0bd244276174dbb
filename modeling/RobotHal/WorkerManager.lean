import RobotHal.LeaseTable

/-!
The USB, GPIO and camera managers of the runtime.

The three are one design: a session is a worker thread that owns the native session, a
lease on the resource and an entry in the session map. A call is a future that other
futures and the threads run between two of its await points, and that can be dropped at
any of them; a reaper is a spawned task that waits for a worker to finish. The state below
holds the maps behind the lock together with every future, thread and reaper, and an event
is what one of them does up to its next await point.
-/

namespace RobotHal.WorkerManager

inductive Kind
  | usb
  | gpio
  | camera
deriving DecidableEq, Repr

/-- Which manager it is, and its close deadline as it is printed in messages. -/
structure Config where
  kind : Kind
  closeTimeout : String
deriving DecidableEq, Repr

namespace Kind

def op (k : Kind) (name : String) : String :=
  match k with
  | .usb => "usb." ++ name
  | .gpio => "gpio." ++ name
  | .camera => "camera." ++ name

def label : Kind → String
  | .usb => "USB"
  | .gpio => "GPIO"
  | .camera => "camera"

def workerLabel : Kind → String
  | .usb => "USB interface worker"
  | .gpio => "GPIO line group worker"
  | .camera => "camera worker"

end Kind

def actorUnavailable (k : Kind) (operation : String) : HalError :=
  runtimeError "runtime.actor.unavailable" .internal operation false
    ("the " ++ k.workerLabel ++ " terminated before completing the operation")

def sessionClosed (k : Kind) (operation : String) : HalError :=
  runtimeError "runtime.session.closed" .conflict operation false
    ("the " ++ k.label ++ " session is closed")

/-- What an operation on a session that is not in the map answers in the end. -/
def unknownSession (k : Kind) (operation : String) : HalError :=
  match k with
  | .camera => sessionClosed k operation
  | _ => runtimeError "runtime.session.closed" .conflict operation false
      (k.label ++ " session is closed")

def openCancelled (k : Kind) (r : ResourceId) : HalError :=
  match k with
  | .camera => (sessionClosed k (k.op "open")).withResourceId r
  | _ => runtimeError "runtime.session.closed" .conflict (k.op "open") false
      (k.label ++ " open was cancelled")

def closeTimeout (c : Config) (operation : String) : HalError :=
  runtimeError "runtime.session.close_timeout" .unavailable operation false
    (c.kind.label ++ " worker did not release its native session within " ++ c.closeTimeout ++
      "; the resource remains quarantined")

def openTimeout (c : Config) (operation : String) : HalError :=
  runtimeError "runtime.transport.timeout" .unavailable operation true
    (c.kind.label ++ " worker did not finish opening within " ++ c.closeTimeout ++
      "; the resource remains quarantined")

/-! ### Workers -/

inductive Phase
  /-- inside the adapter's `open` -/
  | opening
  /-- camera: the native session is open, the shared ring is not there yet -/
  | mapping
  /-- camera: the ring could not be created, the native session is still open -/
  | failing (e : HalError)
  /-- the native session is open and takes commands -/
  | serving
  /-- inside the native session's `close` -/
  | closing
  /-- the native session is gone, completion is not published yet -/
  | ending (result : HalResult Unit)
  | finished (result : HalResult Unit)
deriving DecidableEq

/-- The one-shot channel on which a worker reports its native open. -/
inductive Reply
  | pending
  | sent (result : HalResult Unit)
  | dropped
deriving DecidableEq

structure Worker where
  phase : Phase := .opening
  reply : Reply := .pending
  shutdown : Bool := false
  terminalError : Option HalError := none
deriving DecidableEq

namespace Worker

def isFinished (w : Worker) : Bool :=
  match w.phase with
  | .finished _ => true
  | _ => false

def requestClose (w : Worker) : Worker := { w with shutdown := true }

end Worker

inductive WorkerEvent
  /-- the adapter's `open` returned a session, or an error -/
  | opened
  | openFailed (e : HalError)
  /-- camera: the shared ring was created, was refused by the system, or has no valid layout -/
  | mapped
  | mapFailed (e : HalError)
  | mapInvalid (e : HalError)
  /-- camera: a native operation failed for good -/
  | terminal (e : HalError)
  /-- the loop ended: shutdown was seen, or every command sender is gone -/
  | stop
  /-- the native `close` returned -/
  | closed (result : HalResult Unit)
  | panicked
  /-- the outcome is published -/
  | done
deriving DecidableEq

/-- A reply that was never sent is lost with its sender. -/
def Reply.lose : Reply → Reply
  | .pending => .dropped
  | r => r

/-- The camera worker publishes its first error before its completion. -/
def publishTerminal (k : Kind) (w : Worker) (result : HalResult Unit) : Option HalError :=
  match k, w.terminalError, result with
  | .camera, none, .error e => some e
  | _, t, _ => t

def Worker.step (k : Kind) (w : Worker) : WorkerEvent → Option Worker
  | .opened =>
    match w.phase, k with
    | .opening, .camera => some { w with phase := .mapping }
    | .opening, _ => some { w with phase := .serving, reply := .sent (.ok ()) }
    | _, _ => none
  | .openFailed e =>
    match w.phase with
    | .opening => some { w with phase := .ending (.error e), reply := .sent (.error e) }
    | _ => none
  | .mapped =>
    match w.phase with
    | .mapping => some { w with phase := .serving, reply := .sent (.ok ()) }
    | _ => none
  | .mapFailed e =>
    match w.phase with
    | .mapping => some { w with phase := .failing e, reply := .sent (.error e) }
    | _ => none
  | .mapInvalid e =>
    match w.phase with
    | .mapping => some { w with phase := .ending (.error e), reply := w.reply.lose }
    | _ => none
  | .terminal e =>
    match w.phase, k with
    | .serving, .camera => some { w with phase := .closing, terminalError := some e }
    | _, _ => none
  | .stop =>
    match w.phase with
    | .serving => some { w with phase := .closing }
    | _ => none
  | .closed result =>
    match w.phase, w.terminalError with
    | .failing e, _ => some { w with phase := .ending (.error e) }
    | .closing, some e => some { w with phase := .ending (.error e) }
    | .closing, none => some { w with phase := .ending result }
    | _, _ => none
  | .panicked =>
    match w.phase with
    | .ending _ | .finished _ => none
    | _ => some { w with
        phase := .ending (.error (actorUnavailable k (k.op "worker"))), reply := w.reply.lose }
  | .done =>
    match w.phase with
    | .ending result =>
      some { w with phase := .finished result, terminalError := publishTerminal k w result }
    | _ => none

/-! ### The manager -/

/-- The phases the serial registry and the USB manager share. -/
inductive SessionLifecycle
  | opening
  | active
  | closing
deriving DecidableEq, Repr

/-- A session's entry; `lease` is kept by the camera manager, `lifecycle` by the USB one. The
worker handle is the worker under the session's identifier. -/
structure Entry where
  resource : ResourceId
  owner : OwnerId
  lease : LeaseToken
  lifecycle : SessionLifecycle := .active
deriving DecidableEq

/-- What is remembered of a closed session: its owner by USB and GPIO, its lease and terminal
error by the camera manager. -/
structure ClosedEntry where
  resource : ResourceId
  owner : OwnerId
  lease : LeaseToken
  terminalError : Option HalError
deriving DecidableEq

/-- Where an `open` is. -/
inductive OpenPc
  /-- awaiting the adapter's enumeration -/
  | enumerating
  /-- awaiting the lock to reserve -/
  | locking
  /-- awaiting the worker's reply -/
  | awaiting (lease : LeaseToken)
  /-- awaiting the lock to give the reservation back -/
  | releasing (e : HalError)
  /-- camera: timed out, awaiting admission to request the close -/
  | closing (lease : LeaseToken)
  /-- awaiting the lock to commit -/
  | committing (lease : LeaseToken)
  /-- camera: the commit was refused, awaiting admission with the lock held -/
  | cancelling (lease : LeaseToken)
  | returned (result : HalResult (SessionId × LeaseToken))
  | dropped
deriving DecidableEq

/-- An `open` call, known by the session identifier it draws. -/
structure OpenTask where
  owner : OwnerId
  resource : ResourceId
  pc : OpenPc
deriving DecidableEq

inductive ClosePc
  /-- awaiting the lock -/
  | locking
  /-- camera: awaiting admission to request the close -/
  | requesting (r : ResourceId)
  /-- awaiting the worker's completion -/
  | waiting (r : ResourceId)
  /-- awaiting the lock to finish the session -/
  | finishing (result : HalResult Unit)
  | returned (result : HalResult Unit)
  | dropped
deriving DecidableEq

structure CloseTask where
  session : SessionId
  lease : LeaseToken
  pc : ClosePc
deriving DecidableEq

/-- A session to revoke, with the resource its errors name. -/
abbrev Target := SessionId × ResourceId

inductive RevokePc
  /-- awaiting the lock -/
  | locking
  /-- camera: awaiting admission to request the close of `todo`'s first worker -/
  | requesting (todo all : List Target)
  /-- awaiting the completion of `cur`'s worker -/
  | waiting (cur : Target) (rest : List Target) (firstError : Option HalError)
  /-- awaiting the lock to finish `cur` -/
  | finishing (cur : Target) (rest : List Target) (firstError : Option HalError)
  | returned (result : HalResult Unit)
deriving DecidableEq

structure RevokeTask where
  owner : OwnerId
  pc : RevokePc
deriving DecidableEq

/-- A spawned task: once the worker is finished, finish its session, or release what its open
had reserved. -/
inductive Reaper
  | session (id : SessionId)
  | reservation (r : ResourceId) (id : SessionId) (lease : LeaseToken)
deriving DecidableEq

/-- Whose worker a reaper waits for. -/
def Reaper.worker : Reaper → SessionId
  | .session id => id
  | .reservation _ id _ => id

structure State where
  leases : LeaseTable := {}
  sessions : Assoc SessionId Entry := ∅
  closed : Assoc SessionId ClosedEntry := ∅
  /-- the open that holds the state lock across an await -/
  locked : Option SessionId := none
  workers : Assoc SessionId Worker := ∅
  opens : Assoc SessionId OpenTask := ∅
  closes : Assoc ℕ CloseTask := ∅
  revokes : Assoc ℕ RevokeTask := ∅
  reapers : List Reaper := []

namespace State

def setOpen (s : State) (id : SessionId) (t : OpenTask) (pc : OpenPc) : State :=
  { s with opens := s.opens.insert id { t with pc } }

def setClose (s : State) (n : ℕ) (t : CloseTask) (pc : ClosePc) : State :=
  { s with closes := s.closes.insert n { t with pc } }

def setRevoke (s : State) (n : ℕ) (t : RevokeTask) (pc : RevokePc) : State :=
  { s with revokes := s.revokes.insert n { t with pc } }

def spawn (s : State) (r : Reaper) : State := { s with reapers := s.reapers ++ [r] }

/-- `request_close` on a session's worker. -/
def requestClose (s : State) (id : SessionId) : State :=
  match s.workers.lookup id with
  | none => s
  | some w => { s with workers := s.workers.insert id w.requestClose }

def isFinished (s : State) (id : SessionId) : Bool :=
  (s.workers.lookup id).any Worker.isFinished

/-- What a finished worker's completion says. -/
def completion (s : State) (id : SessionId) : Option (HalResult Unit) :=
  match s.workers.lookup id with
  | some ⟨.finished result, _, _, _⟩ => some result
  | _ => none

def terminalError (s : State) (id : SessionId) : Option HalError :=
  (s.workers.lookup id).bind Worker.terminalError

/-- `finish_session`, with the lock held. -/
def finishSession (s : State) (id : SessionId) : State :=
  match s.sessions.lookup id with
  | none => s
  | some e =>
    { s with
      sessions := s.sessions.erase id
      leases := (s.leases.release e.resource id).1
      closed := s.closed.insert id ⟨e.resource, e.owner, e.lease, s.terminalError id⟩ }

/-- The sessions of an owner, in the order of the map. -/
def ownedBy (s : State) (o : OwnerId) : List Target :=
  (s.sessions.entries.filter fun e => e.2.owner = o).map fun e => (e.1, e.2.resource)

/-! ### `open` -/

/-- `open` starts, with the identifier it will draw. -/
def openCall (s : State) (id : SessionId) (o : OwnerId) (r : ResourceId) : Option State :=
  match s.opens.lookup id with
  | none => some { s with opens := s.opens.insert id ⟨o, r, .enumerating⟩ }
  | some _ => none

/-- The adapter was found, its enumeration returned and names the resource; or one of the
three failed. -/
def enumerated (s : State) (id : SessionId) (res : HalResult Unit) : Option State :=
  match s.opens.lookup id with
  | some ⟨o, r, .enumerating⟩ =>
    match res with
    | .ok _ => some (s.setOpen id ⟨o, r, .enumerating⟩ .locking)
    | .error e => some (s.setOpen id ⟨o, r, .enumerating⟩ (.returned (.error e)))
  | _ => none

/-- Under the lock `reserve_control`, and then `spawn_worker`, which may fail. -/
def reserve (s : State) (id : SessionId) (fresh : LeaseId) (spawned : HalResult Unit) :
    Option State :=
  match s.opens.lookup id, s.locked with
  | some ⟨o, r, .locking⟩, none =>
    let t : OpenTask := ⟨o, r, .locking⟩
    let leases := (s.leases.reserveControl r id o fresh).1
    match (s.leases.reserveControl r id o fresh).2, spawned with
    | .error e, _ => some ({ s with leases }.setOpen id t (.returned (.error e)))
    | .ok lease, .ok _ =>
      some ({ s with leases, workers := s.workers.insert id {} }.setOpen id t (.awaiting lease))
    | .ok _, .error e => some ({ s with leases }.setOpen id t (.releasing e))
  | _, _ => none

/-- The worker's reply arrived, or its sender is gone. -/
def replied (c : Config) (s : State) (id : SessionId) : Option State :=
  match s.opens.lookup id, s.workers.lookup id with
  | some ⟨o, r, .awaiting lease⟩, some w =>
    let t : OpenTask := ⟨o, r, .awaiting lease⟩
    match w.reply with
    | .pending => none
    | .sent (.ok _) => some (s.setOpen id t (.committing lease))
    | .sent (.error e) => some (s.setOpen id t (.releasing e))
    | .dropped => some (s.setOpen id t (.releasing (actorUnavailable c.kind (c.kind.op "open"))))
  | _, _ => none

/-- The error a timed-out `open` returns. -/
def openTimedOut (c : Config) (r : ResourceId) : OpenPc :=
  .returned (.error ((openTimeout c (c.kind.op "open")).withResourceId r))

/-- The deadline passed with no reply seen. The reservation is left to a reaper, which the camera
manager only spawns once the close is requested. -/
def openDeadline (c : Config) (s : State) (id : SessionId) : Option State :=
  match s.opens.lookup id with
  | some ⟨o, r, .awaiting lease⟩ =>
    let t : OpenTask := ⟨o, r, .awaiting lease⟩
    match c.kind with
    | .camera => some (s.setOpen id t (.closing lease))
    | _ =>
      some (((s.requestClose id).spawn (.reservation r id lease)).setOpen id t (openTimedOut c r))
  | _ => none

/-- Camera: admission was granted after the deadline. -/
def openCloseRequested (c : Config) (s : State) (id : SessionId) : Option State :=
  match s.opens.lookup id with
  | some ⟨o, r, .closing lease⟩ =>
    some (((s.requestClose id).spawn (.reservation r id lease)).setOpen id ⟨o, r, .closing lease⟩
      (openTimedOut c r))
  | _ => none

/-- The reservation is given back under the lock. -/
def releaseReservation (s : State) (id : SessionId) : Option State :=
  match s.opens.lookup id, s.locked with
  | some ⟨o, r, .releasing e⟩, none =>
    some ({ s with leases := (s.leases.release r id).1 }.setOpen id ⟨o, r, .releasing e⟩
      (.returned (.error e)))
  | _, _ => none

/-- Under the lock the lease is committed and the session entered. -/
def commit (c : Config) (s : State) (id : SessionId) : Option State :=
  match s.opens.lookup id, s.locked with
  | some ⟨o, r, .committing lease⟩, none =>
    let t : OpenTask := ⟨o, r, .committing lease⟩
    let leases := (s.leases.commit r id lease).1
    if (s.leases.commit r id lease).2 then
      let entered := { s with leases, sessions := s.sessions.insert id ⟨r, o, lease, .active⟩ }
      let done := entered.setOpen id t (.returned (.ok (id, lease)))
      some (if c.kind = .camera then done.spawn (.session id) else done)
    else if c.kind = .camera then
      some ({ s with leases, locked := some id }.setOpen id t (.cancelling lease))
    else
      some ((({ s with leases }.requestClose id).spawn (.reservation r id lease)).setOpen id t
        (.returned (.error (openCancelled c.kind r))))
  | _, _ => none

/-- Camera: admission was granted after a refused commit, and the lock is let go. -/
def cancelled (c : Config) (s : State) (id : SessionId) : Option State :=
  match s.opens.lookup id with
  | some ⟨o, r, .cancelling lease⟩ =>
    some ((({ s with locked := none }.requestClose id).spawn (.reservation r id lease)).setOpen id
      ⟨o, r, .cancelling lease⟩ (.returned (.error (openCancelled c.kind r))))
  | _ => none

/-- The future is dropped at the await point it is suspended at; so is a lock it holds. -/
def dropOpen (s : State) (id : SessionId) : Option State :=
  match s.opens.lookup id with
  | some ⟨_, _, .returned _⟩ | some ⟨_, _, .dropped⟩ | none => none
  | some t =>
    let locked := if s.locked = some id then none else s.locked
    some ({ s with locked }.setOpen id t .dropped)

/-! ### Operations and `close` -/

/-- What an operation on a closed session answers. -/
def closedAnswer (c : Config) (s : State) (id : SessionId) (x : ClosedEntry) (lease : LeaseToken)
    (operation : String) : HalError :=
  match c.kind with
  | .camera =>
    if lease.generation < s.leases.currentGeneration x.resource then
      (runtimeError "runtime.lease.stale_generation" .conflict operation false
        "lease generation is older than the closed camera session generation").withResourceId
        x.resource
    else if lease ≠ x.lease then
      (runtimeError "runtime.lease.invalid_token" .conflict operation false
        "the lease token does not match the closed camera session").withResourceId x.resource
    else
      match x.terminalError with
      | some e => e.withResourceId x.resource
      | none => sessionClosed c.kind operation
  | _ =>
    match s.leases.validate x.resource id x.owner lease operation with
    | .error e => e
    | .ok _ => unknownSession c.kind operation

/-- The lock section in front of every operation on a session: `session_worker`, `worker`, and
the first half of the USB `transfer`. A session whose worker is found dead is retired. -/
def sessionWorker (c : Config) (s : State) (id : SessionId) (lease : LeaseToken)
    (operation : String) : State × HalResult ResourceId :=
  match s.sessions.lookup id with
  | none =>
    (s, .error (match s.closed.lookup id with
      | some x => s.closedAnswer c id x lease operation
      | none => unknownSession c.kind operation))
  | some e =>
    match s.leases.validate e.resource id e.owner lease operation with
    | .error err => (s, .error err)
    | .ok _ =>
      if s.isFinished id then
        let err := (s.terminalError id).getD (actorUnavailable c.kind operation)
        (s.finishSession id, .error (err.withResourceId e.resource))
      else if (c.kind = .usb && e.lifecycle ≠ .active) ||
          (s.workers.lookup id).any Worker.shutdown then
        (s, .error ((sessionClosed c.kind operation).withResourceId e.resource))
      else (s, .ok e.resource)

/-- An operation naming the session; what it sends to the worker is not followed. -/
def operate (c : Config) (s : State) (id : SessionId) (lease : LeaseToken) (operation : String) :
    Option State :=
  if s.locked = none then some (s.sessionWorker c id lease operation).1 else none

def closeCall (s : State) (n : ℕ) (id : SessionId) (lease : LeaseToken) : Option State :=
  match s.closes.lookup n with
  | none => some { s with closes := s.closes.insert n ⟨id, lease, .locking⟩ }
  | some _ => none

/-- The close is requested and a reaper spawned for the session. -/
def beginClose (s : State) (n : ℕ) (t : CloseTask) (r : ResourceId) : State :=
  ((s.requestClose t.session).spawn (.session t.session)).setClose n t (.waiting r)

/-- The lock section of `close`. -/
def closeLocked (c : Config) (s : State) (n : ℕ) : Option State :=
  match s.closes.lookup n, s.locked with
  | some ⟨id, lease, .locking⟩, none =>
    let t : CloseTask := ⟨id, lease, .locking⟩
    match c.kind with
    | .usb =>
      -- no check for a dead worker, but the lifecycle moves on
      match s.sessions.lookup id with
      | none => some (s.setClose n t (.returned (.error (unknownSession .usb "usb.close"))))
      | some e =>
        match s.leases.validate e.resource id e.owner lease "usb.close" with
        | .error err => some (s.setClose n t (.returned (.error err)))
        | .ok _ =>
          let sessions := s.sessions.insert id { e with lifecycle := .closing }
          some ({ s with sessions }.beginClose n t e.resource)
    | k =>
      let s' := (s.sessionWorker c id lease (k.op "close")).1
      match (s.sessionWorker c id lease (k.op "close")).2, k with
      | .error err, _ => some (s'.setClose n t (.returned (.error err)))
      | .ok r, .camera => some (s'.setClose n t (.requesting r))
      | .ok r, _ => some (s'.beginClose n t r)
  | _, _ => none

/-- Camera: admission was granted. -/
def closeRequested (s : State) (n : ℕ) : Option State :=
  match s.closes.lookup n with
  | some ⟨id, lease, .requesting r⟩ => some (s.beginClose n ⟨id, lease, .requesting r⟩ r)
  | _ => none

def closeCompleted (s : State) (n : ℕ) : Option State :=
  match s.closes.lookup n with
  | some ⟨id, lease, .waiting r⟩ =>
    match s.completion id with
    | none => none
    | some result =>
      some (s.setClose n ⟨id, lease, .waiting r⟩
        (.finishing (result.mapError fun e => e.withResourceId r)))
  | _ => none

/-- The deadline passed; the worker may have finished since it was last looked at. -/
def closeDeadline (c : Config) (s : State) (n : ℕ) : Option State :=
  match s.closes.lookup n with
  | some ⟨id, lease, .waiting r⟩ =>
    some (s.setClose n ⟨id, lease, .waiting r⟩ (.returned (.error
      ((closeTimeout c (c.kind.op "close")).withResourceId r))))
  | _ => none

def closeFinish (s : State) (n : ℕ) : Option State :=
  match s.closes.lookup n, s.locked with
  | some ⟨id, lease, .finishing result⟩, none =>
    some ((s.finishSession id).setClose n ⟨id, lease, .finishing result⟩ (.returned result))
  | _, _ => none

def dropClose (s : State) (n : ℕ) : Option State :=
  match s.closes.lookup n with
  | some ⟨_, _, .returned _⟩ | some ⟨_, _, .dropped⟩ | none => none
  | some t => some (s.setClose n t .dropped)

/-! ### `revoke_owner` -/

def revokeCall (s : State) (n : ℕ) (o : OwnerId) : Option State :=
  match s.revokes.lookup n with
  | none => some { s with revokes := s.revokes.insert n ⟨o, .locking⟩ }
  | some _ => none

/-- On to the next session, or out of the loop. USB and GPIO spawn the reaper of a session only
here, the camera manager has spawned them all before. -/
def revokeNext (c : Config) (s : State) (n : ℕ) (t : RevokeTask) (rest : List Target)
    (firstError : Option HalError) : State :=
  match rest with
  | [] => s.setRevoke n t (.returned (match firstError with | none => .ok () | some e => .error e))
  | cur :: rest =>
    let s := if c.kind = .camera then s else s.spawn (.session cur.1)
    s.setRevoke n t (.waiting cur rest firstError)

/-- Camera: on to the next close request, or, after the last, all reapers and the waiting. -/
def requestNext (c : Config) (s : State) (n : ℕ) (t : RevokeTask) (todo all : List Target) :
    State :=
  match todo with
  | [] =>
    let spawned := { s with reapers := s.reapers ++ all.map fun x : Target => Reaper.session x.1 }
    spawned.revokeNext c n t all none
  | _ => s.setRevoke n t (.requesting todo all)

/-- Under the lock the owner's sessions are listed, in whatever order the map gives; USB and
GPIO request all closes at once. -/
def revokeSnapshot (c : Config) (s : State) (n : ℕ) (order : List Target) : Option State :=
  match s.revokes.lookup n, s.locked with
  | some ⟨o, .locking⟩, none =>
    let t : RevokeTask := ⟨o, .locking⟩
    if order.isPerm (s.ownedBy o) then
      if c.kind = .camera then some (s.requestNext c n t order order)
      else some ((order.foldl (fun s x => s.requestClose x.1) s).revokeNext c n t order none)
    else none
  | _, _ => none

/-- Camera: admission was granted for the first worker still to be asked. -/
def revokeRequested (c : Config) (s : State) (n : ℕ) : Option State :=
  match s.revokes.lookup n with
  | some ⟨o, .requesting (cur :: todo) all⟩ =>
    some ((s.requestClose cur.1).requestNext c n ⟨o, .requesting (cur :: todo) all⟩ todo all)
  | _ => none

/-- A session did not close: USB and GPIO leave the loop, the camera manager goes on. -/
def revokeFailed (c : Config) (s : State) (n : ℕ) (t : RevokeTask) (rest : List Target)
    (firstError : Option HalError) (e : HalError) : State :=
  match c.kind with
  | .camera => s.revokeNext c n t rest (firstError.or (some e))
  | _ => s.setRevoke n t (.returned (.error e))

def revokeCompleted (c : Config) (s : State) (n : ℕ) : Option State :=
  match s.revokes.lookup n with
  | some ⟨o, .waiting cur rest firstError⟩ =>
    let t : RevokeTask := ⟨o, .waiting cur rest firstError⟩
    match s.completion cur.1 with
    | none => none
    | some (.ok _) => some (s.setRevoke n t (.finishing cur rest firstError))
    | some (.error e) => some (s.revokeFailed c n t rest firstError (e.withResourceId cur.2))
  | _ => none

def revokeDeadline (c : Config) (s : State) (n : ℕ) : Option State :=
  match s.revokes.lookup n with
  | some ⟨o, .waiting cur rest firstError⟩ =>
    some (s.revokeFailed c n ⟨o, .waiting cur rest firstError⟩ rest firstError
      ((closeTimeout c (c.kind.op "revoke_owner")).withResourceId cur.2))
  | _ => none

def revokeFinish (c : Config) (s : State) (n : ℕ) : Option State :=
  match s.revokes.lookup n, s.locked with
  | some ⟨o, .finishing cur rest firstError⟩, none =>
    some ((s.finishSession cur.1).revokeNext c n ⟨o, .finishing cur rest firstError⟩ rest
      firstError)
  | _, _ => none

/-! ### Workers and reapers -/

def workerStep (c : Config) (s : State) (id : SessionId) (e : WorkerEvent) : Option State :=
  match s.workers.lookup id with
  | none => none
  | some w => (w.step c.kind e).map fun w => { s with workers := s.workers.insert id w }

/-- What a reaper does once it has the lock. -/
def reapWith (c : Config) (s : State) : Reaper → State
  | .session id => s.finishSession id
  | .reservation r id lease =>
    let leases := if c.kind = .camera then (s.leases.quarantine r id lease).1 else s.leases
    { s with leases := (leases.release r id).1 }

/-- A spawned reaper whose worker is finished runs to its end. -/
def reap (c : Config) (s : State) (x : Reaper) : Option State :=
  if x ∈ s.reapers ∧ s.isFinished x.worker ∧ s.locked = none then
    some { s.reapWith c x with reapers := s.reapers.erase x }
  else none

end State

inductive Event
  | openCall (id : SessionId) (o : OwnerId) (r : ResourceId)
  | enumerated (id : SessionId) (res : HalResult Unit)
  | reserve (id : SessionId) (fresh : LeaseId) (spawned : HalResult Unit)
  | replied (id : SessionId)
  | openDeadline (id : SessionId)
  | openCloseRequested (id : SessionId)
  | releaseReservation (id : SessionId)
  | commit (id : SessionId)
  | cancelled (id : SessionId)
  | dropOpen (id : SessionId)
  | operate (id : SessionId) (lease : LeaseToken) (operation : String)
  | closeCall (n : ℕ) (id : SessionId) (lease : LeaseToken)
  | closeLocked (n : ℕ)
  | closeRequested (n : ℕ)
  | closeCompleted (n : ℕ)
  | closeDeadline (n : ℕ)
  | closeFinish (n : ℕ)
  | dropClose (n : ℕ)
  | revokeCall (n : ℕ) (o : OwnerId)
  | revokeSnapshot (n : ℕ) (order : List Target)
  | revokeRequested (n : ℕ)
  | revokeCompleted (n : ℕ)
  | revokeDeadline (n : ℕ)
  | revokeFinish (n : ℕ)
  | worker (id : SessionId) (e : WorkerEvent)
  | reap (x : Reaper)

def step (c : Config) (s : State) : Event → Option State
  | .openCall id o r => s.openCall id o r
  | .enumerated id res => s.enumerated id res
  | .reserve id fresh spawned => s.reserve id fresh spawned
  | .replied id => s.replied c id
  | .openDeadline id => s.openDeadline c id
  | .openCloseRequested id => s.openCloseRequested c id
  | .releaseReservation id => s.releaseReservation id
  | .commit id => s.commit c id
  | .cancelled id => s.cancelled c id
  | .dropOpen id => s.dropOpen id
  | .operate id lease operation => s.operate c id lease operation
  | .closeCall n id lease => s.closeCall n id lease
  | .closeLocked n => s.closeLocked c n
  | .closeRequested n => s.closeRequested n
  | .closeCompleted n => s.closeCompleted n
  | .closeDeadline n => s.closeDeadline c n
  | .closeFinish n => s.closeFinish n
  | .dropClose n => s.dropClose n
  | .revokeCall n o => s.revokeCall n o
  | .revokeSnapshot n order => s.revokeSnapshot c n order
  | .revokeRequested n => s.revokeRequested c n
  | .revokeCompleted n => s.revokeCompleted c n
  | .revokeDeadline n => s.revokeDeadline c n
  | .revokeFinish n => s.revokeFinish c n
  | .worker id e => s.workerStep c id e
  | .reap x => s.reap c x

end RobotHal.WorkerManager
