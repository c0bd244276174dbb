import RobotHal.BrokerResponses
import RobotHal.Machine

/-!
# One connection of the broker

Three tasks serve a connection. The reader takes frames off the stream, admits a request by its id
and queues it; the dispatcher takes requests off the queue, negotiates the handshake, and spawns an
operation for every other request; the writer sends what the two hand to it. They share the set of
active ids, the two queues and the negotiated frame limit, and each access to one of these is a
step of its own, so the steps of the tasks and of the operations interleave in any order.

Every request that is read gets a ticket, the number of requests read before it. Tickets are not in
the code: they tell requests apart that use the same id one after the other.
-/

namespace RobotHal.Broker

/-- Admission settings; the builder methods keep every capacity positive. -/
structure BrokerConfig where
  requestQueueCapacity : ℕ := 32
  responseQueueCapacity : ℕ := 64
  maxInFlightRequests : ℕ := 32

namespace Connection

/-! ### Messages -/

/-- What a request asks for: the handshake, or any other payload. -/
inductive RequestPayload (π : Type)
  | handshakeRequest (request : V1.HandshakeRequest)
  | operation (payload : π)

/-- A frame that decodes to an envelope, and its length. -/
structure Frame (π : Type) where
  requestId : ℕ
  payload : RequestPayload π
  encodedLen : ℕ

structure InboundRequest (π : Type) extends Frame π where
  ticket : ℕ

inductive ResponseBody (ρ : Type)
  | handshakeResponse (response : V1.HandshakeResponse)
  | error (error : HalError)
  | payload (body : ρ)

/-- An envelope for the writer, with the ticket of the request it answers. -/
structure Response (ρ : Type) where
  requestId : ℕ
  body : ResponseBody ρ
  maxFrameBytes : ℕ
  ticket : Option ℕ

/-- The response to a request carries its id. -/
def InboundRequest.response {π ρ : Type} (request : InboundRequest π) (body : ResponseBody ρ)
    (maxFrameBytes : ℕ) : Response ρ :=
  ⟨request.requestId, body, maxFrameBytes, some request.ticket⟩

/-! ### Errors -/

def queueFull (message : String) : HalError :=
  protocolError "runtime.queue.full" "runtime.protocol.admit" .unavailable true message

def responseQueueFull : HalError :=
  protocolError "runtime.queue.response_full" "runtime.protocol.write" .unavailable true
    "broker response queue is full"

def responseChannelClosed : HalError :=
  protocolError "runtime.protocol.connection_lost" "runtime.protocol.write" .unavailable true
    "broker response channel is closed"

def duplicateRequestId : HalError :=
  protocolError "runtime.protocol.duplicate_request_id" "runtime.protocol.admit" .conflict false
    "request_id is already in flight"

def handshakeRequired : HalError :=
  protocolError "runtime.protocol.handshake_required" "runtime.protocol.dispatch" .conflict false
    "the connection must complete a handshake before operations"

def taskFailed (message : String) : HalError :=
  protocolError "runtime.protocol.task_failed" "runtime.protocol.dispatch" .internal false message

/-! ### The tasks -/

/-- Where the reader is. -/
inductive Reader (π : Type)
  | reading
  /-- the id is active, the request not yet queued -/
  | admitting (request : InboundRequest π)
  /-- the queue was full, the id is still active -/
  | releasing (request : InboundRequest π)
  /-- about to refuse the request -/
  | refusing (request : InboundRequest π)
  /-- `wait_for_negotiated_limit` -/
  | waiting
  | stopped (error : Option HalError)

/-- The reader waits for the outcome of a handshake that it queued. -/
def Reader.afterQueueing {π : Type} (request : InboundRequest π) : Reader π :=
  match request.payload with
  | .handshakeRequest _ => .waiting
  | .operation _ => .reading

/-- Why the dispatcher left its loop. -/
inductive Ending
  | failed (error : HalError)
  /-- the handshake was refused -/
  | refused
  /-- the stream ended, or the connection was cancelled -/
  | closed

/-- Where the dispatcher is. -/
inductive Dispatcher (π ρ : Type)
  | selecting
  /-- about to remove the id of a request that gets this response; `last` ends the loop -/
  | removing (request : InboundRequest π) (body : ResponseBody ρ) (maxFrameBytes : ℕ) (last : Bool)
  /-- about to send the response -/
  | answering (request : InboundRequest π) (body : ResponseBody ρ) (maxFrameBytes : ℕ) (last : Bool)
  | ended (ending : Ending)

/-- A spawned operation; it waits to be joined once it has its result. -/
structure Task (π ρ : Type) where
  request : InboundRequest π
  result : Option ρ := none

structure State (π ρ : Type) where
  reader : Reader π := .reading
  dispatcher : Dispatcher π ρ := .selecting
  active : Finset ℕ := ∅
  queue : List (InboundRequest π) := []
  tasks : List (Task π ρ) := []
  /-- set once `handshaken` is -/
  limits : Option NegotiatedLimits := none
  frameLimit : Option ℕ := none
  responses : List (Response ρ) := []
  writerOpen : Bool := true
  cancel : Bool := false
  /-- the ids of the requests read, what was written, the handshake that was accepted and the
  requests that were spawned, for the record -/
  read : List ℕ := []
  written : List (Response ρ) := []
  accepted : Option V1.HandshakeRequest := none
  dispatched : List (InboundRequest π) := []

inductive Event (π ρ : Type)
  | frame (frame : Frame π)
  /-- the frame is invalid or does not decode -/
  | undecodable (error : HalError)
  | endOfStream
  | readerCancelled
  | trySend
  | release
  | refuse
  | resume
  | recv
  | remove
  | answer
  | complete (i : ℕ) (result : ρ)
  | panicked (i : ℕ) (message : String)
  | join (i : ℕ)
  /-- a runtime event; `none` is one that the connection does not see -/
  | runtimeEvent (body : Option (ResponseBody ρ))
  | cancelled
  | drained
  | write
  | writerFails
  | shutdown

variable {π ρ : Type}

namespace State

variable (config : BrokerConfig) (token : StartupToken)

def readerFrameLimit (s : State π ρ) : ℕ := s.frameLimit.getD RobotHal.maxFrameBytes

def negotiatedFrameLimit (s : State π ρ) : ℕ :=
  (s.limits.map NegotiatedLimits.maxFrameBytes).getD RobotHal.maxFrameBytes

def sendResponse (s : State π ρ) (response : Response ρ) : HalResult (State π ρ) :=
  if s.writerOpen = false then .error responseChannelClosed
  else if s.responses.length < config.responseQueueCapacity then
    .ok { s with responses := s.responses ++ [response] }
  else .error responseQueueFull

/-- The reader sends a response and is then at `next`, unless it fails. -/
def readerSends (s : State π ρ) (response : Response ρ) (next : Reader π) : State π ρ :=
  match s.sendResponse config response with
  | .ok s => { s with reader := next }
  | .error error => { s with reader := .stopped (some error) }

/-- The dispatcher sends a response and is then at `next`, unless it fails. -/
def dispatcherSends (s : State π ρ) (response : Response ρ) (next : Dispatcher π ρ) : State π ρ :=
  match s.sendResponse config response with
  | .ok s => { s with dispatcher := next }
  | .error error => { s with dispatcher := .ended (.failed error) }

/-- `read_requests` with a frame in hand, up to the insertion of its id. -/
def readFrame (s : State π ρ) (frame : Frame π) : State π ρ :=
  if frame.encodedLen > s.readerFrameLimit then
    { s with
      reader :=
        .stopped (some (frameTooLarge "inbound frame exceeds the active connection maximum")) }
  else if frame.requestId = 0 then
    s.readerSends config
      ⟨0, .error (invalidMessage "request_id must be non-zero"), s.readerFrameLimit, none⟩ .reading
  else
    let request : InboundRequest π := { frame with ticket := s.read.length }
    let s := { s with read := s.read ++ [frame.requestId] }
    if frame.requestId ∈ s.active then
      s.readerSends config (request.response (.error duplicateRequestId) s.readerFrameLimit)
        (.stopped none)
    else
      { s with active := insert frame.requestId s.active, reader := .admitting request }

/-- `request_tx.try_send`. -/
def trySend (s : State π ρ) (request : InboundRequest π) : State π ρ :=
  match s.dispatcher with
  | .ended _ => { s with reader := .stopped none }
  | _ =>
    if s.queue.length < config.requestQueueCapacity then
      { s with queue := s.queue ++ [request], reader := .afterQueueing request }
    else { s with reader := .releasing request }

/-- What the dispatcher makes of a request. -/
inductive Verdict (ρ : Type)
  | tooLarge
  | accept (request : V1.HandshakeRequest) (response : V1.HandshakeResponse)
      (negotiated : NegotiatedLimits)
  | refuse (error : HalError) (maxFrameBytes : ℕ) (last : Bool)
  | execute

def verdict (s : State π ρ) (request : InboundRequest π) : Verdict ρ :=
  match s.limits with
  | none =>
    match request.payload with
    | .handshakeRequest handshake =>
      match validateHandshake token handshake with
      | .ok (response, negotiated) => .accept handshake response negotiated
      | .error error => .refuse error RobotHal.maxFrameBytes true
    | .operation _ => .refuse handshakeRequired RobotHal.maxFrameBytes false
  | some limits =>
    if request.encodedLen > limits.maxFrameBytes then .tooLarge
    else
      match request.payload with
      | .handshakeRequest _ =>
        .refuse (invalidMessage "handshake may only be sent once per connection")
          limits.maxFrameBytes false
      | .operation _ =>
        if s.tasks.length ≥ config.maxInFlightRequests then
          .refuse (queueFull "broker task queue is full") limits.maxFrameBytes false
        else .execute

/-- `requests.recv` and what follows, up to the next access to something shared. -/
def dispatch (s : State π ρ) (request : InboundRequest π) : State π ρ :=
  match s.verdict (ρ := ρ) config token request with
  | .tooLarge =>
    { s with
      active := s.active.erase request.requestId
      dispatcher := .ended (.failed
        (frameTooLarge "inbound frame exceeds the negotiated maximum")) }
  | .accept handshake response negotiated =>
    { s with
      limits := some negotiated
      frameLimit := some negotiated.maxFrameBytes
      accepted := some handshake
      dispatcher := .removing request (.handshakeResponse response) negotiated.maxFrameBytes false }
  | .refuse error maxFrameBytes last =>
    { s with dispatcher := .removing request (.error error) maxFrameBytes last }
  | .execute =>
    { s with
      tasks := s.tasks ++ [{ request }]
      dispatched := s.dispatched ++ [request] }

def step (s : State π ρ) : Event π ρ → Option (State π ρ)
  | .frame frame =>
    match s.reader with
    | .reading => some (s.readFrame config frame)
    | _ => none
  | .undecodable error =>
    match s.reader with
    | .reading => some { s with reader := .stopped (some error) }
    | _ => none
  | .endOfStream =>
    match s.reader with
    | .reading => some { s with reader := .stopped none }
    | _ => none
  | .readerCancelled =>
    match s.reader, s.dispatcher with
    | .reading, _ => if s.cancel then some { s with reader := .stopped none } else none
    | .waiting, .ended _ => some { s with reader := .stopped none }
    | .waiting, _ => if s.cancel then some { s with reader := .stopped none } else none
    | _, _ => none
  | .trySend =>
    match s.reader with
    | .admitting request => some (s.trySend config request)
    | _ => none
  | .release =>
    match s.reader with
    | .releasing request =>
      some { s with active := s.active.erase request.requestId, reader := .refusing request }
    | _ => none
  | .refuse =>
    match s.reader with
    | .refusing request =>
      some (s.readerSends config
        (request.response (.error (queueFull "broker request queue is full")) s.readerFrameLimit)
        .reading)
    | _ => none
  | .resume =>
    match s.reader with
    | .waiting => if s.frameLimit.isSome then some { s with reader := .reading } else none
    | _ => none
  | .recv =>
    match s.dispatcher, s.queue with
    | .selecting, request :: queue => some ({ s with queue }.dispatch config token request)
    | _, _ => none
  | .remove =>
    match s.dispatcher with
    | .removing request body maxFrameBytes last =>
      some { s with
        active := s.active.erase request.requestId
        dispatcher := .answering request body maxFrameBytes last }
    | _ => none
  | .answer =>
    match s.dispatcher with
    | .answering request body maxFrameBytes last =>
      some (s.dispatcherSends config (request.response body maxFrameBytes)
        (if last then .ended .refused else .selecting))
    | _ => none
  | .complete i result =>
    match s.tasks[i]? with
    | some { request, result := none } =>
      some { s with tasks := s.tasks.set i { request, result := some result } }
    | _ => none
  | .panicked i message =>
    match s.dispatcher, s.tasks[i]? with
    | .selecting, some { result := none, .. } =>
      some { s with dispatcher := .ended (.failed (taskFailed message)) }
    | _, _ => none
  | .join i =>
    match s.dispatcher, s.tasks[i]? with
    | .selecting, some { request, result := some result } =>
      some { s with
        tasks := s.tasks.eraseIdx i
        dispatcher := .removing request (.payload result) s.negotiatedFrameLimit false }
    | _, _ => none
  | .runtimeEvent body =>
    match s.dispatcher, s.limits, body with
    | .selecting, some _, some body =>
      some (s.dispatcherSends config ⟨0, body, s.negotiatedFrameLimit, none⟩ .selecting)
    | .selecting, some _, none => some s
    | _, _, _ => none
  | .cancelled =>
    match s.dispatcher with
    | .selecting => if s.cancel then some { s with dispatcher := .ended .closed } else none
    | _ => none
  | .drained =>
    match s.dispatcher, s.queue, s.reader with
    | .selecting, [], .stopped _ => some { s with dispatcher := .ended .closed }
    | _, _, _ => none
  | .write =>
    match s.writerOpen, s.responses with
    | true, response :: responses =>
      some { s with responses, written := s.written ++ [response] }
    | _, _ => none
  | .writerFails => some { s with writerOpen := false, cancel := true }
  | .shutdown => some { s with cancel := true }

/-- The client never reuses an id before it has the response to its earlier use. -/
def Fresh (s : State π ρ) : Event π ρ → Prop
  | .frame frame => ∀ t, s.read[t]? = some frame.requestId →
      some t ∈ s.written.map Response.ticket
  | _ => True

abbrev Runs := Machine.Runs (step (π := π) (ρ := ρ) config token) Fresh

end State

end Connection

end RobotHal.Broker
