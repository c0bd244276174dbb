import RobotHal.Can
import RobotHal.ErrorWire
import RobotHal.Machine

/-!
The client's side of a connection (`connection.rs` of the client crate).

A request takes a fresh id, is registered as pending and queued for the writer, and then waits for
its reply. The reader takes a response to the request with its id. A request whose future is
dropped leaves its id behind as cancelled, so that the response can still be recognised. Whoever
finds the connection broken ends it: all that is pending is answered with the error.

Every block under the lock of the request table is one step; the steps of requests, of the reader
and of whoever ends the connection may interleave in any order.
-/

namespace RobotHal.Client

/-! ### Messages -/

/-- The responses of the protocol. -/
inductive ResponseKind
  | enumerateSerial | openSerial | serialRead | serialWrite | serialFlush | setSerialControlLines
  | closeSession
  | enumerateCan | openCan | canSend | canReceive | replaceCanFilters | getCanBusStatus
  | enumerateUsb | openUsb | usbTransfer | closeUsb
  | enumerateGpio | openGpio | gpioRead | gpioWrite | gpioNextEdge | closeGpio
  | enumerateCamera | openCamera | captureCamera | cameraMappingDescriptor | cameraNextFrameLease
  | cameraDroppedCount | cameraControls | cameraGetControl | cameraSetControl | cameraSetAuto
  | closeCamera
deriving DecidableEq

inductive RuntimeEventKind
  | unspecified
  | sessionOpened
  | sessionClosed
  | canBusActive
  | canBusWarning
  | canBusPassive
  | canBusOff
  | canBusStopped
  | canBusUnknown
deriving DecidableEq

instance : Proto.Enumeration RuntimeEventKind where
  values := [.unspecified, .sessionOpened, .sessionClosed, .canBusActive, .canBusWarning,
    .canBusPassive, .canBusOff, .canBusStopped, .canBusUnknown]
  number
    | .unspecified => 0
    | .sessionOpened => 1
    | .sessionClosed => 2
    | .canBusActive => 3
    | .canBusWarning => 4
    | .canBusPassive => 5
    | .canBusOff => 6
    | .canBusStopped => 7
    | .canBusUnknown => 8
  mem_values e := by cases e <;> decide
  number_injective a b h := by cases a <;> cases b <;> first | rfl | cases h

/-- What subscribers see of a runtime event. -/
structure ClientEvent where
  sequence : ℕ
  name : String
  resourceId : String
  sessionId : String
  leaseGeneration : ℕ

structure RuntimeEvent extends ClientEvent where
  kind : ℤ

/-- The payload of an envelope; `β` is the body of a message the reader looks into only through its
decoder. -/
inductive Payload (β : Type)
  | response (kind : ResponseKind) (body : β)
  | error (error : V1.Error)
  | runtimeEvent (event : RuntimeEvent)
  /-- a request, or a message of the handshake -/
  | other (body : β)

structure CanSessionProfile where
  mode : CanMode
  classicFrames : Bool
  fdFrames : Bool
  errorFrames : Bool
  timestamps : Bool
  resourceId : ResourceId
  sessionId : SessionId

inductive ExpectedResponse
  | enumerateSerial
  | openSerial
  | serialRead (maxBytes : ℕ)
  | serialWrite
  | serialFlush
  | setControlLines
  | closeSession
  | closeCan (profile : CanSessionProfile)
  | enumerateCan
  | openCan (mode : LeaseMode) (resourceId : ResourceId)
  | canSend (inputCount : ℕ) (profile : CanSessionProfile)
  | canReceive (maxFrames maxReadBytes : ℕ) (profile : CanSessionProfile)
  | replaceCanFilters (profile : CanSessionProfile)
  | canBusStatus (profile : CanSessionProfile)
  | enumerateUsb
  | openUsb (resourceId : ResourceId)
  | usbTransfer (maxReadBytes : ℕ) (resourceId : ResourceId)
  | closeUsb (resourceId : ResourceId)
  | enumerateGpio
  | openGpio (lineCount : ℕ) (resourceId : ResourceId)
  | gpioRead (lineCount : ℕ) (resourceId : ResourceId)
  | gpioWrite (resourceId : ResourceId)
  | gpioNextEdge (resourceId : ResourceId)
  | closeGpio (resourceId : ResourceId)
  | enumerateCamera
  | openCamera (resourceId : ResourceId)
  | captureCamera (resourceId : ResourceId)
  | cameraMappingDescriptor (resourceId : ResourceId)
  | cameraNextFrameLease (resourceId : ResourceId)
  | cameraDroppedCount (resourceId : ResourceId)
  | cameraControls (resourceId : ResourceId)
  | cameraGetControl (resourceId : ResourceId)
  | cameraSetControl (resourceId : ResourceId)
  | cameraSetAuto (resourceId : ResourceId)
  | closeCamera (resourceId : ResourceId)

namespace ExpectedResponse

def resourceId : ExpectedResponse → Option ResourceId
  | .openCan _ resourceId => some resourceId
  | .canSend _ profile | .canReceive _ _ profile | .replaceCanFilters profile
  | .canBusStatus profile | .closeCan profile => some profile.resourceId
  | .openUsb resourceId | .usbTransfer _ resourceId | .closeUsb resourceId | .openGpio _ resourceId
  | .gpioRead _ resourceId | .gpioWrite resourceId | .gpioNextEdge resourceId
  | .closeGpio resourceId | .openCamera resourceId | .captureCamera resourceId
  | .cameraMappingDescriptor resourceId | .cameraNextFrameLease resourceId
  | .cameraDroppedCount resourceId | .cameraControls resourceId | .cameraGetControl resourceId
  | .cameraSetControl resourceId | .cameraSetAuto resourceId | .closeCamera resourceId =>
    some resourceId
  | _ => none

/-- The response that answers the request. -/
def kind : ExpectedResponse → ResponseKind
  | .enumerateSerial => .enumerateSerial
  | .openSerial => .openSerial
  | .serialRead _ => .serialRead
  | .serialWrite => .serialWrite
  | .serialFlush => .serialFlush
  | .setControlLines => .setSerialControlLines
  | .closeSession | .closeCan _ => .closeSession
  | .enumerateCan => .enumerateCan
  | .openCan .. => .openCan
  | .canSend .. => .canSend
  | .canReceive .. => .canReceive
  | .replaceCanFilters _ => .replaceCanFilters
  | .canBusStatus _ => .getCanBusStatus
  | .enumerateUsb => .enumerateUsb
  | .openUsb _ => .openUsb
  | .usbTransfer .. => .usbTransfer
  | .closeUsb _ => .closeUsb
  | .enumerateGpio => .enumerateGpio
  | .openGpio .. => .openGpio
  | .gpioRead .. => .gpioRead
  | .gpioWrite _ => .gpioWrite
  | .gpioNextEdge _ => .gpioNextEdge
  | .closeGpio _ => .closeGpio
  | .enumerateCamera => .enumerateCamera
  | .openCamera _ => .openCamera
  | .captureCamera _ => .captureCamera
  | .cameraMappingDescriptor _ => .cameraMappingDescriptor
  | .cameraNextFrameLease _ => .cameraNextFrameLease
  | .cameraDroppedCount _ => .cameraDroppedCount
  | .cameraControls _ => .cameraControls
  | .cameraGetControl _ => .cameraGetControl
  | .cameraSetControl _ => .cameraSetControl
  | .cameraSetAuto _ => .cameraSetAuto
  | .closeCamera _ => .closeCamera

/-- The body of the response is looked into before it is accepted. -/
def decoded : ExpectedResponse → Bool
  | .enumerateSerial | .openSerial | .serialRead _ | .serialWrite | .serialFlush | .setControlLines
  | .closeSession | .closeCan _ | .replaceCanFilters _ | .closeUsb _ | .gpioWrite _ | .closeGpio _
  | .captureCamera _ | .cameraDroppedCount _ | .cameraSetControl _ | .cameraSetAuto _
  | .closeCamera _ => false
  | _ => true

end ExpectedResponse

/-! ### Errors -/

def clientError (name : String) (category : ErrorCategory) (operation : String) (retryable : Bool)
    (message : String) : HalError :=
  HalError.new name category operation retryable message

def disconnectedError (operation message : String) : HalError :=
  clientError "runtime.broker.disconnected" .unavailable operation true message

def frameTooLarge (message : String) : HalError :=
  clientError "runtime.protocol.frame_too_large" .invalidArgument "runtime.protocol.frame" false
    message

def unexpectedResponse : HalError :=
  clientError "runtime.protocol.unexpected_response" .invalidArgument "runtime.protocol.read" false
    "response payload does not match its request"

def attachResource (error : HalError) (resourceId : ResourceId) : HalError :=
  if error.resourceId.isSome then error else error.withResourceId resourceId

def attachExpected (error : HalError) (expected : ExpectedResponse) : HalError :=
  match expected.resourceId with
  | none => error
  | some resourceId => attachResource error resourceId

/-- `unexpected_response` for a request. -/
def ExpectedResponse.unexpected (expected : ExpectedResponse) : HalError :=
  match expected.resourceId with
  | none => unexpectedResponse
  | some resourceId => unexpectedResponse.withResourceId resourceId

/-- `validate_response`; `decode` is the decoder of a body for a request. -/
def validateResponse {β : Type} (decode : ExpectedResponse → β → HalResult Unit)
    (expected : ExpectedResponse) : Payload β → HalResult Unit
  | .response kind body =>
    if kind = expected.kind then
      if expected.decoded then decode expected body else .ok ()
    else .error expected.unexpected
  | _ => .error expected.unexpected

/-! ### The request table -/

/-- The number of requests that may be pending, and of ids that are remembered. -/
structure ConnectionOptions where
  pendingCapacity : ℕ := 32
  pos : 0 < pendingCapacity := by decide

def ConnectionOptions.withQueueCapacities (_ : ConnectionOptions) (pendingCapacity : ℕ) :
    ConnectionOptions where
  pendingCapacity := max pendingCapacity 1
  pos := by omega

structure RequestState where
  nextRequestId : ℕ := 2
  pending : Assoc ℕ ExpectedResponse := ∅
  cancelled : Assoc ℕ ExpectedResponse := ∅
  completed : Finset ℕ := {1}
  completedOrder : List ℕ := [1]
  terminal : Option HalError := none

namespace RequestState

def takeRequestId (r : RequestState) : HalResult (ℕ × RequestState) :=
  if r.nextRequestId = 0 then
    .error (clientError "runtime.protocol.request_id_exhausted" .internal "runtime.client.request"
      false "request ID space is exhausted")
  else .ok (r.nextRequestId, { r with nextRequestId := (checkedAdd r.nextRequestId 1).getD 0 })

/-- The first block of `request`: the id of the request, once it is registered. -/
def begin (r : RequestState) (capacity : ℕ) (expected : ExpectedResponse) :
    HalResult (ℕ × RequestState) :=
  match r.terminal with
  | some error => .error error
  | none =>
    if r.pending.entries.length ≥ capacity then
      .error (clientError "runtime.queue.full" .unavailable "runtime.client.request" true
        "client pending request storage is full")
    else
      match r.takeRequestId with
      | .error e => .error e
      | .ok (id, r) => .ok (id, { r with pending := r.pending.insert id expected })

def removePending (r : RequestState) (id : ℕ) : RequestState :=
  { r with pending := r.pending.erase id }

/-- The loop of `remember_completed`. -/
def trim (capacity : ℕ) : List ℕ → Finset ℕ → List ℕ × Finset ℕ
  | [], completed => ([], completed)
  | oldest :: order, completed =>
    if (oldest :: order).length > capacity then trim capacity order (completed.erase oldest)
    else (oldest :: order, completed)

def rememberCompleted (r : RequestState) (id capacity : ℕ) : RequestState :=
  let order := if id ∈ r.completed then r.completedOrder else r.completedOrder ++ [id]
  let (order, completed) := trim capacity order (insert id r.completed)
  { r with completedOrder := order, completed }

/-- `begin_termination`: the table and the requests that are to be answered with the error. -/
def beginTermination (r : RequestState) (error : HalError)
    (extra : Option (ℕ × ExpectedResponse)) : Option (RequestState × List ℕ) :=
  if r.terminal.isSome then none
  else
    let drained := (r.pending.entries.map fun e => (e.1, e.2)) ++ extra.toList
    some
      ({ r with
          terminal := some error
          pending := ∅
          cancelled := drained.foldl (fun m e => m.insert e.1 e.2) r.cancelled },
        drained.map Prod.fst)

def cancelledFull : HalError :=
  clientError "runtime.queue.cancelled_full" .unavailable "runtime.client.cancel" false
    "cancelled request tracking is full"

/-- The drop of an armed `CancellationGuard`: the table and the requests to answer with an error. -/
def cancel (r : RequestState) (id capacity : ℕ) : RequestState × List ℕ :=
  match r.pending.lookup id with
  | none => (r, [])
  | some expected =>
    let r := r.removePending id
    if r.cancelled.entries.length ≥ capacity then
      (r.beginTermination cancelledFull (some (id, expected))).getD (r, [])
    else ({ r with cancelled := r.cancelled.insert id expected }, [])

end RequestState

/-! ### The connection -/

/-- Why a registered request is not sent. -/
inductive Refusal
  | tooLarge
  | queueFull
  | writerClosed

def Refusal.error : Refusal → HalError
  | .tooLarge => frameTooLarge "outbound envelope exceeds the active frame limit"
  | .queueFull => clientError "runtime.queue.full" .unavailable "runtime.protocol.write" true
      "client writer queue is full"
  | .writerClosed =>
    disconnectedError "runtime.protocol.write" "client writer task is not available"

/-- How far the future of a request is. -/
inductive Phase (β : Type)
  /-- registered, not yet queued -/
  | submitting
  /-- waiting for its reply, with its guard armed -/
  | waiting
  | resolved (result : HalResult (Payload β))
  | dropped

structure Future (β : Type) where
  expected : ExpectedResponse
  phase : Phase β := .submitting
  /-- what was sent on the reply channel -/
  slot : Option (HalResult (Payload β)) := none

/-- Where the reader is. -/
inductive Reader (β : Type)
  | reading
  /-- it took a response to a pending request and is about to reply -/
  | replying (id : ℕ) (expected : ExpectedResponse) (payload : Option (Payload β))
  /-- it is about to end the connection -/
  | failing (error : HalError)
  | stopped

/-- The reader is between two envelopes. -/
def Reader.isReading {β : Type} : Reader β → Bool
  | .reading => true
  | _ => false

lemma Reader.isReading_iff {β : Type} {r : Reader β} : r.isReading = true ↔ r = .reading := by
  cases r <;> simp [isReading]

structure State (β : Type) where
  requests : RequestState := {}
  futures : Assoc ℕ (Future β) := ∅
  reader : Reader β := .reading
  /-- the replies that `finish_termination` still has to send -/
  finishing : List (ℕ × HalError) := []
  events : List (HalResult ClientEvent) := []
  /-- the ids given out so far, the responses read and the futures resolved -/
  issued : List ℕ := []
  received : List (ℕ × Option (Payload β)) := []
  resolved : List (ℕ × HalResult (Payload β)) := []

inductive Event (β : Type)
  | request (expected : ExpectedResponse)
  | refuse (id : ℕ) (why : Refusal)
  | queued (id : ℕ)
  | poll (id : ℕ)
  | drop (id : ℕ)
  /-- the reader takes an envelope that passed the limits and the preflight -/
  | inbound (id : ℕ) (payload : Option (Payload β))
  /-- the stream ended, or a frame was refused before it was an envelope -/
  | broken (error : HalError)
  | reply
  | readerFail
  /-- the writer, a closing client or a caller ends the connection -/
  | fail (error : HalError)
  | finish

namespace State

variable {β : Type} (capacity : ℕ) (decode : ExpectedResponse → β → HalResult Unit)

/-- `terminate`, up to the replies. -/
def terminate (s : State β) (error : HalError) : State β :=
  match s.requests.beginTermination error none with
  | none => s
  | some (requests, replies) =>
    { s with requests, finishing := s.finishing ++ replies.map fun id => (id, error) }

/-- A reply channel takes what is sent on it; a dropped receiver loses it. -/
def send (s : State β) (id : ℕ) (result : HalResult (Payload β)) : State β :=
  { s with futures := Assoc.modify s.futures id fun f => { f with slot := some result } }

def setPhase (s : State β) (id : ℕ) (phase : Phase β) : State β :=
  { s with futures := Assoc.modify s.futures id fun f => { f with phase } }

def resolve (s : State β) (id : ℕ) (result : HalResult (Payload β)) : State β :=
  { s.setPhase id (.resolved result) with resolved := s.resolved ++ [(id, result)] }

/-- What the reader does with an envelope without an id. -/
def announce (s : State β) : Option (Payload β) → State β
  | some (.runtimeEvent event) =>
    match Proto.Enumeration.tryFrom RuntimeEventKind event.kind with
    | none | some .unspecified => { s with reader := .failing invalidEvent }
    | some _ =>
      if event.sequence = 0 then { s with reader := .failing invalidEvent }
      else { s with events := s.events ++ [.ok event.toClientEvent] }
  | some (.error error) =>
    match errorFromProto error with
    | .ok error => { s with events := s.events ++ [.error error] }
    | .error error => { s with reader := .failing error }
  | _ =>
    { s with
      reader := .failing (clientError "runtime.protocol.invalid_message" .invalidArgument
        "runtime.protocol.read" false "request ID zero is reserved for events") }
where
  invalidEvent := clientError "runtime.protocol.invalid_message" .invalidArgument
    "runtime.protocol.decode" false "runtime event metadata is invalid"

/-- The check of a response to a cancelled request. -/
def validateCancelled (expected : ExpectedResponse) : Option (Payload β) → HalResult Unit
  | some (.error error) =>
    match errorFromProto error with
    | .ok _ => .ok ()
    | .error error => .error (attachExpected error expected)
  | some payload => validateResponse decode expected payload
  | none => .error expected.unexpected

def uncorrelated (duplicate : Bool) : HalError :=
  if duplicate then
    clientError "runtime.protocol.duplicate_response" .conflict "runtime.protocol.read" false
      "broker sent a duplicate response"
  else
    clientError "runtime.protocol.unknown_response" .conflict "runtime.protocol.read" false
      "broker sent an unknown response ID"

/-- The reader takes a response to the request with its id. -/
def correlate (s : State β) (id : ℕ) (payload : Option (Payload β)) : State β :=
  match s.requests.pending.lookup id, s.requests.cancelled.lookup id with
  | some expected, _ =>
    { s with
      requests := (s.requests.removePending id).rememberCompleted id capacity
      reader := .replying id expected payload }
  | none, some expected =>
    let requests := { s.requests with cancelled := s.requests.cancelled.erase id }
    { s with
      requests := requests.rememberCompleted id capacity
      reader := match validateCancelled decode expected payload with
        | .ok () => .reading
        | .error error => .failing error }
  | none, none => { s with reader := .failing (uncorrelated (id ∈ s.requests.completed)) }

/-- The result of a pending request. -/
def result (expected : ExpectedResponse) : Option (Payload β) → HalResult (Payload β)
  | some (.error error) =>
    match errorFromProto error with
    | .ok error => .error (attachExpected error expected)
    | .error error => .error error
  | some payload =>
    match validateResponse decode expected payload with
    | .ok () => .ok payload
    | .error error => .error error
  | none => .error unexpectedResponse

/-- The results that end the connection. -/
def ends : HalResult (Payload β) → Option HalError
  | .ok _ => none
  | .error error =>
    if error.name = "runtime.protocol.unexpected_response" ∨
        error.name = "runtime.protocol.invalid_message" then some error
    else none

def step (s : State β) : Event β → Option (State β)
  | .request expected =>
    match s.requests.begin capacity expected with
    | .error _ => some s
    | .ok (id, requests) =>
      some { s with
        requests, futures := s.futures.insert id { expected }, issued := s.issued ++ [id] }
  | .refuse id why =>
    match s.futures.lookup id with
    | some { phase := .submitting, .. } =>
      some ({ s with requests := s.requests.removePending id }.resolve id (.error why.error))
    | _ => none
  | .queued id =>
    match s.futures.lookup id with
    | some { phase := .submitting, .. } => some (s.setPhase id .waiting)
    | _ => none
  | .poll id =>
    match s.futures.lookup id with
    | some { phase := .waiting, slot := some result, .. } => some (s.resolve id result)
    | _ => none
  | .drop id =>
    match s.futures.lookup id with
    | some { phase := .waiting, .. } =>
      let (requests, replies) := s.requests.cancel id capacity
      some { s.setPhase id .dropped with
        requests
        finishing := s.finishing ++ replies.map fun id => (id, RequestState.cancelledFull) }
    | _ => none
  | .inbound id payload =>
    match s.reader with
    | .reading =>
      let s := { s with received := s.received ++ [(id, payload)] }
      if s.requests.terminal.isSome then some { s with reader := .stopped }
      else if id = 0 then some (s.announce payload)
      else some (s.correlate capacity decode id payload)
    | _ => none
  | .broken error =>
    match s.reader with
    | .reading => some { s with reader := .failing error }
    | _ => none
  | .reply =>
    match s.reader with
    | .replying id expected payload =>
      let result := result decode expected payload
      some { s.send id result with
        reader := match ends result with
          | none => .reading
          | some error => .failing error }
    | _ => none
  | .readerFail =>
    match s.reader with
    | .failing error => some { s.terminate error with reader := .stopped }
    | _ => none
  | .fail error => some (s.terminate error)
  | .finish =>
    match s.finishing with
    | [] => none
    | (id, error) :: finishing => some { s.send id (.error error) with finishing }

abbrev Runs := Machine.Runs (step (β := β) capacity decode) fun _ _ => True

end State

end RobotHal.Client
