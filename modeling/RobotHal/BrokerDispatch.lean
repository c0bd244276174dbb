import RobotHal.CanSizes
import RobotHal.SerialRuntime

/-!
# What a connection does with a request that names a session

Every connection keeps its own registries of the sessions it opened. A request is gated by the
negotiated minor and limits, decoded, looked up, and only then does the runtime hear of it. The
dispatchers of CAN, USB, GPIO and camera look the session up in the registry of their transport.

Of a request the fields that these steps read are kept. Where a field goes through a decoder that
reads nothing else (a USB transfer, a camera control), the request carries what it decodes to.
-/

namespace RobotHal.Broker

variable {x : SessionId × LeaseToken} {operation : String} {allowClosed : Bool}

/-! ### Registries -/

structure SessionRecord (π : Type) where
  resourceId : ResourceId
  capabilities : CapabilitySet
  lease : LeaseToken
  /-- what the transport keeps besides -/
  profile : π
  closed : Bool := false

structure SessionRegistry (π : Type) where
  sessions : Assoc SessionId (SessionRecord π) := ∅
  closedOrder : List SessionId := []

inductive SessionKind
  | usb
  | gpio
deriving DecidableEq

abbrev CanSessionRegistry := SessionRegistry CanReceiveWireProfile
abbrev UsbGpioSessionRegistry := SessionRegistry SessionKind
abbrev CameraSessionRegistry := SessionRegistry Unit

structure SerialSessionRegistry where
  active : List SessionId := []
  closed : List SessionId := []
  closedOrder : List SessionId := []

def closedSessionRetention : ℕ := 256

namespace SessionRegistry

variable {π : Type}

def register (g : SessionRegistry π) (id : SessionId) (x : SessionRecord π) : SessionRegistry π :=
  { g with sessions := g.sessions.insert id x }

/-- The oldest closed sessions are let go while there are too many; a record that is not
`removable` stays. -/
def trim (removable : SessionRecord π → Bool) (sessions : Assoc SessionId (SessionRecord π)) :
    List SessionId → SessionRegistry π
  | [] => { sessions, closedOrder := [] }
  | evicted :: order =>
    if (evicted :: order).length > closedSessionRetention then
      trim removable
        (if (sessions.lookup evicted).any removable then sessions.erase evicted else sessions) order
    else { sessions, closedOrder := evicted :: order }

def recordClosedWith (removable : SessionRecord π → Bool) (g : SessionRegistry π)
    (id : SessionId) : SessionRegistry π :=
  match g.sessions.lookup id with
  | none => g
  | some x =>
    if x.closed then g
    else
      trim removable (g.sessions.insert id { x with closed := true }) (g.closedOrder ++ [id])

/-- `record_closed` of the CAN, USB and GPIO dispatchers. -/
def recordClosed (g : SessionRegistry π) (id : SessionId) : SessionRegistry π :=
  recordClosedWith SessionRecord.closed g id

end SessionRegistry

/-- `record_closed` of the camera dispatcher, which does not look at what it evicts. -/
def CameraDispatch.recordClosed (g : CameraSessionRegistry) (id : SessionId) :
    CameraSessionRegistry := SessionRegistry.recordClosedWith (fun _ => true) g id

namespace SerialSessionRegistry

def registerSerialSession (g : SerialSessionRegistry) (id : SessionId) : SerialSessionRegistry :=
  { g with active := if id ∈ g.active then g.active else id :: g.active }

def isSerialSession (g : SerialSessionRegistry) (id : SessionId) : Bool :=
  id ∈ g.active || id ∈ g.closed

def trim (active : List SessionId) : List SessionId → List SessionId → SerialSessionRegistry
  | closed, [] => { active, closed, closedOrder := [] }
  | closed, evicted :: order =>
    if (evicted :: order).length > closedSessionRetention then
      trim active (closed.erase evicted) order
    else { active, closed, closedOrder := evicted :: order }

def recordSerialClosed (g : SerialSessionRegistry) (id : SessionId) : SerialSessionRegistry :=
  if id ∉ g.active then g
  else if id ∈ g.closed then { g with active := g.active.erase id }
  else trim (g.active.erase id) (id :: g.closed) (g.closedOrder ++ [id])

end SerialSessionRegistry

/-- The registries of one connection. -/
structure Registries where
  serial : SerialSessionRegistry := {}
  can : CanSessionRegistry := {}
  usbGpio : UsbGpioSessionRegistry := {}
  camera : CameraSessionRegistry := {}

/-! ### Lookups -/

/-- `session_error` of the dispatchers; they agree on the names that a lookup uses. -/
def sessionError (name operation message : String) (resource : Option ResourceId) : HalError :=
  let category := if name = "runtime.session.not_found" then .notFound else .conflict
  let e := HalError.new name category operation false message
  resource.elim e e.withResourceId

/-- The error for a token that is not the one of the session. -/
def tokenError {π : Type} (record : SessionRecord π) (supplied : LeaseToken)
    (operation message : String) : HalError :=
  let name := if supplied.generation < record.lease.generation then
    "runtime.lease.stale_generation" else "runtime.lease.invalid_token"
  sessionError name operation message (some record.resourceId)

def leaseModeAllows (actual required : LeaseMode) : Bool :=
  match actual, required with
  | .observe, .observe => true
  | .control, .observe => true
  | .control, .control => true
  | .maintenance, _ => true
  | _, _ => false

def CanDispatch.validateSession (g : CanSessionRegistry) (session : SessionId)
    (supplied : LeaseToken) (requiredMode : LeaseMode) (operation : String) (allowClosed : Bool) :
    HalResult (SessionRecord CanReceiveWireProfile) :=
  let mismatch := "the CAN lease token does not match the connection-owned session"
  match g.sessions.lookup session with
  | none =>
    .error (sessionError "runtime.session.not_found" operation
      "the CAN session is not owned by this broker connection" none)
  | some record =>
    if record.closed then
      if supplied = record.lease then
        if !allowClosed then
          .error (sessionError "runtime.session.closed" operation "the CAN session is closed"
            (some record.resourceId))
        else .ok record
      else .error (tokenError record supplied operation mismatch)
    else if supplied ≠ record.lease then .error (tokenError record supplied operation mismatch)
    else if !leaseModeAllows record.lease.mode requiredMode then
      .error (sessionError "runtime.lease.mode_denied" operation
        "the CAN lease mode does not permit this operation" (some record.resourceId))
    else .ok record

/-- The part that the USB, GPIO and camera lookups share. -/
def validateRecord {π : Type} (record : SessionRecord π) (supplied : LeaseToken)
    (operation : String) (allowClosed : Bool) : HalResult (SessionRecord π) :=
  if record.lease ≠ supplied then
    .error (tokenError record supplied operation
      "lease token does not match connection-owned session")
  else if record.closed && !allowClosed then
    .error (sessionError "runtime.session.closed" operation "session is closed"
      (some record.resourceId))
  else .ok record

def notOwned (operation : String) : HalError :=
  sessionError "runtime.session.not_found" operation
    "session is not owned by this broker connection" none

def UsbGpioDispatch.validate (g : UsbGpioSessionRegistry) (session : SessionId)
    (supplied : LeaseToken) (kind : SessionKind) (operation : String) (allowClosed : Bool) :
    HalResult (SessionRecord SessionKind) :=
  match g.sessions.lookup session with
  | none => .error (notOwned operation)
  | some record =>
    if record.profile ≠ kind then
      .error (sessionError "runtime.session.not_found" operation
        "session is not this hardware class" none)
    else validateRecord record supplied operation allowClosed

def CameraDispatch.validate (g : CameraSessionRegistry) (session : SessionId)
    (supplied : LeaseToken) (operation : String) (allowClosed : Bool) :
    HalResult (SessionRecord Unit) :=
  match g.sessions.lookup session with
  | none => .error (notOwned operation)
  | some record => validateRecord record supplied operation allowClosed

/-- `capability_gate::require`. -/
def require {π : Type} (record : SessionRecord π) (capability : String) : HalResult Unit :=
  if capability ∈ record.capabilities then .ok ()
  else
    .error (((HalError.new "runtime.protocol.capability_unsupported" .conflict
      "runtime.protocol.dispatch" false
      "selected resource does not advertise the required capability").withResourceId
        record.resourceId).withContext [("capability", capability)])

/-! ### Requests -/

inductive UsbTransferClass
  | control
  | bulk
  | interrupt
deriving DecidableEq

/-- What a request asks of the session it names. -/
inductive SessionOp
  | serialRead (maxBytes : UInt32)
  | serialWrite (data : List UInt8)
  | serialFlush
  | setSerialControlLines (lines : Serial.ControlLines)
  | closeSession
  | canSend (frames : List V1.CanFrame)
  | canReceive (maxFrames : UInt32)
  | replaceCanFilters (filters : Option V1.CanFilterSet)
  | getCanBusStatus
  | usbTransfer (data : List UInt8) (maxBytes : UInt32) (timeoutMs : UInt64)
      (transfer : HalResult UsbTransferClass)
  | closeUsb
  | gpioRead
  | gpioWrite (values : List Bool)
  | gpioNextEdge (timeoutMs : UInt64) (rising falling : Bool) (capacity : UInt32)
  | closeGpio
  | captureCamera (timeoutMs : UInt64)
  | cameraMappingDescriptor
  | cameraNextFrameLease
  | cameraDroppedCount
  | cameraControls
  | cameraGetControl (kind : HalResult Unit)
  | cameraSetControl (kind : HalResult Unit) (value : Option (HalResult Unit))
  | cameraSetAuto (kind : HalResult Unit)
  | closeCamera

structure SessionRequest where
  sessionId : String
  lease : Option V1.LeaseToken
  op : SessionOp

/-- Where a request ends that is not refused: a close of a session closed before is answered at
once, everything else asks the runtime. -/
inductive Outcome
  | replayed
  | calls (session : SessionId) (lease : LeaseToken)
deriving DecidableEq

def maxGpioEvents : ℕ := 1024

def nonzeroTimeout (value : UInt64) (message : String) : HalResult Unit :=
  if value = 0 then .error (invalidMessage message) else .ok ()

/-- `runtime.close_*`, unless the session was closed before. -/
def closeOnce {π : Type} (record : SessionRecord π) (session : SessionId) (lease : LeaseToken) :
    Outcome := if record.closed then .replayed else .calls session lease

namespace CanDispatch

def validateSendBounds (frames : List V1.CanFrame) (maxWriteBytes : ℕ) : HalResult Unit :=
  if ¬(1 ≤ frames.length ∧ frames.length ≤ maxCanBatchFrames) then
    .error (invalidMessage "CAN send batch must contain 1..=64 frames")
  else if (frames.map fun f => f.data.length).sum > maxWriteBytes then
    .error (invalidMessage "CAN send payload exceeds the negotiated write maximum")
  else .ok ()

def sendCanFramesFromProto (frames : List V1.CanFrame) : HalResult (List CanFrame) :=
  if ¬(1 ≤ frames.length ∧ frames.length ≤ maxCanBatchFrames) then
    .error (invalid "can_send.frames" "must contain 1..=64 frames")
  else frames.mapM CanFrame.tryFrom

def canReceiveParameters (maxFrames : UInt32) : HalResult ℕ :=
  if ¬(1 ≤ maxFrames.toNat ∧ maxFrames.toNat ≤ maxCanBatchFrames) then
    .error (invalid "can_receive.max_frames" "must be 1..=64")
  else .ok maxFrames.toNat

def validateFilterCapabilities (filters : CanFilterSet) (capabilities : CapabilitySet)
    (resourceId : ResourceId) : HalResult Unit :=
  if List.any filters fun f => f.classes.error then
    requireCapability capabilities canErrorFramesCapability resourceId
  else .ok ()

variable (limits : NegotiatedLimits) (g : CanSessionRegistry) (sessionId : String)
  (lease : Option V1.LeaseToken)

def send (frames : List V1.CanFrame) : HalResult Outcome := do
  validateSendBounds frames limits.maxWriteBytes
  let (session, lease) ← parseSessionLease sessionId lease
  let frames ← sendCanFramesFromProto frames
  let record ← validateSession g session lease .control "can.send_batch" false
  validateFrameCapabilities record.capabilities record.resourceId frames
  return .calls session lease

def receive (maxFrames : UInt32) : HalResult Outcome := do
  let (session, lease) ← parseSessionLease sessionId lease
  let maxFrames ← canReceiveParameters maxFrames
  let record ← validateSession g session lease .observe "can.receive" false
  checkReceiveBounds maxFrames record.profile limits
  return .calls session lease

def replaceFilters (filters : Option V1.CanFilterSet) : HalResult Outcome := do
  let (session, lease) ← parseSessionLease sessionId lease
  let filters ← CanFilterSet.tryFrom (← required filters "replace_can_filters.filters")
  let record ← validateSession g session lease .observe "can.replace_filters" false
  validateFilterCapabilities filters record.capabilities record.resourceId
  return .calls session lease

def status : HalResult Outcome := do
  let (session, lease) ← parseSessionLease sessionId lease
  let _ ← validateSession g session lease .observe "can.status" false
  return .calls session lease

def close : HalResult Outcome := do
  let (session, lease) ← parseSessionLease sessionId lease
  let record ← validateSession g session lease .observe "can.close" true
  return closeOnce record session lease

/-- `dispatch`, for the requests that name a session. -/
def gated (x : HalResult Outcome) : HalResult Outcome :=
  if limits.protocolMinor < canWireMinor then
    .error (capabilityUnsupported "CAN operations require negotiated protocol minor 1" none)
  else x

def isCanSession : Bool :=
  match SessionId.parse sessionId with
  | .ok session => (g.sessions.lookup session).isSome
  | .error _ => false

end CanDispatch

namespace UsbGpioDispatch

def transferCapability : UsbTransferClass → String
  | .control => usbControlCapability
  | .bulk => usbBulkCapability
  | .interrupt => usbInterruptCapability

def responseBound (dataLen : ℕ) : ℕ := 24 + dataLen

def gpioEdgeRequestFromProto (rising falling : Bool) (capacity : UInt32) : HalResult Unit :=
  if !rising && !falling then .error (invalidMessage "gpio_next_edge must select an edge")
  else if capacity = 0 ∨ capacity.toNat > maxGpioEvents then
    .error (invalidMessage "gpio_next_edge capacity violates public bounds")
  else .ok ()

variable (limits : NegotiatedLimits) (g : UsbGpioSessionRegistry) (sessionId : String)
  (lease : Option V1.LeaseToken)

def transfer (data : List UInt8) (maxBytes : UInt32) (timeoutMs : UInt64)
    (transfer : HalResult UsbTransferClass) : HalResult Outcome := do
  if data.length > limits.maxWriteBytes ∨ maxBytes.toNat > limits.maxReadBytes then
    throw (invalidMessage "USB transfer exceeds negotiated payload limits")
  nonzeroTimeout timeoutMs "usb_transfer.timeout_ms must be greater than zero"
  let (session, lease) ← parseControlSessionLease sessionId lease "USB"
  let transfer ← transfer
  let record ← validate g session lease .usb "usb.transfer" false
  require record (transferCapability transfer)
  return .calls session lease

def readGpio : HalResult Outcome := do
  let (session, lease) ← parseControlSessionLease sessionId lease "GPIO"
  let record ← validate g session lease .gpio "gpio.read" false
  require record gpioLinesCapability
  return .calls session lease

def gpioWriteRequestFromProto (values : List Bool) : HalResult (SessionId × LeaseToken) := do
  let x ← parseControlSessionLease sessionId lease "GPIO"
  if values.isEmpty ∨ values.length > maxGpioEvents then
    throw (invalidMessage "gpio_write values must be non-empty and bounded")
  return x

def writeGpio (values : List Bool) : HalResult Outcome := do
  if values.length > limits.maxWriteBytes then
    throw (invalidMessage "GPIO write exceeds negotiated write limit")
  let (session, lease) ← gpioWriteRequestFromProto sessionId lease values
  let record ← validate g session lease .gpio "gpio.write" false
  require record gpioLinesCapability
  return .calls session lease

def nextEdge (timeoutMs : UInt64) (rising falling : Bool) (capacity : UInt32) :
    HalResult Outcome := do
  nonzeroTimeout timeoutMs "gpio_next_edge.timeout_ms must be greater than zero"
  let (session, lease) ← parseControlSessionLease sessionId lease "GPIO"
  gpioEdgeRequestFromProto rising falling capacity
  let record ← validate g session lease .gpio "gpio.next_edge" false
  require record gpioEdgesCapability
  if responseBound 24 > limits.maxFrameBytes then
    throw (invalidMessage "GPIO edge response exceeds negotiated frame limit")
  return .calls session lease

def closeUsb : HalResult Outcome := do
  let (session, lease) ← parseControlSessionLease sessionId lease "USB"
  let record ← validate g session lease .usb "usb.close" true
  return closeOnce record session lease

def closeGpio : HalResult Outcome := do
  let (session, lease) ← parseControlSessionLease sessionId lease "GPIO"
  let record ← validate g session lease .gpio "gpio.close" true
  return closeOnce record session lease

end UsbGpioDispatch

namespace CameraDispatch

variable (g : CameraSessionRegistry) (sessionId : String) (lease : Option V1.LeaseToken)

/-- A request on an open session of a resource with the capability, whose other fields decode. -/
def operate (operation capability : String) (decoded : HalResult Unit) : HalResult Outcome := do
  let (session, lease) ← cameraSessionLeaseFromProto sessionId lease
  let record ← validate g session lease operation false
  require record capability
  decoded
  return .calls session lease

def capture (timeoutMs : UInt64) : HalResult Outcome := do
  nonzeroTimeout timeoutMs "camera capture timeout must be greater than zero"
  operate g sessionId lease "camera.capture" cameraCaptureCapability (.ok ())

def mappingDescriptor : HalResult Outcome :=
  operate g sessionId lease "camera.mapping_descriptor" cameraFramesShmCapability (.ok ())

def nextFrameLease : HalResult Outcome :=
  operate g sessionId lease "camera.next_frame_lease" cameraFramesShmCapability (.ok ())

def droppedCount : HalResult Outcome :=
  operate g sessionId lease "camera.dropped_count" cameraFramesShmCapability (.ok ())

def controls : HalResult Outcome :=
  operate g sessionId lease "camera.controls" cameraControlsCapability (.ok ())

def getControl (kind : HalResult Unit) : HalResult Outcome :=
  operate g sessionId lease "camera.control.get" cameraControlsCapability kind

def setControl (kind : HalResult Unit) (value : Option (HalResult Unit)) : HalResult Outcome :=
  operate g sessionId lease "camera.control.set" cameraControlsCapability do
    let value ← okOr value (invalidMessage "camera control value is required")
    kind
    value

def setAuto (kind : HalResult Unit) : HalResult Outcome :=
  operate g sessionId lease "camera.control.auto" cameraControlsCapability kind

def close : HalResult Outcome := do
  let (session, lease) ← cameraSessionLeaseFromProto sessionId lease
  let record ← validate g session lease "camera.close" true
  return closeOnce record session lease

end CameraDispatch

/-! ### Dispatch -/

section Dispatch

variable (limits : NegotiatedLimits) (g : Registries) (sessionId : String)
  (lease : Option V1.LeaseToken)

def serialRead (maxBytes : UInt32) : HalResult Outcome := do
  if maxBytes = 0 ∨ maxBytes.toNat > limits.maxReadBytes then
    throw (invalidMessage "serial read byte limit exceeds the negotiated maximum")
  let (session, lease) ← parseSerialSessionLease sessionId lease
  return .calls session lease

def serialWrite (data : List UInt8) : HalResult Outcome := do
  if data.length > limits.maxWriteBytes then
    throw (invalidMessage "serial write byte limit exceeds the negotiated maximum")
  let (session, lease) ← parseSerialSessionLease sessionId lease
  return .calls session lease

/-- `flush` and `set_control_lines`. -/
def serialOperate : HalResult Outcome := do
  let (session, lease) ← parseSerialSessionLease sessionId lease
  return .calls session lease

/-- Closes of CAN and serial sessions are one request. -/
def closeSession : HalResult Outcome := do
  if CanDispatch.isCanSession g.can sessionId then
    CanDispatch.close g.can sessionId lease
  else
    let (session, lease) ← parseSessionLease sessionId lease
    if !g.serial.isSerialSession session then
      throw (protocolError "runtime.session.not_found" "serial.close" .notFound false
        "the Serial session is not owned by this broker connection")
    return .calls session lease

def unsupportedMinor (message : String) : HalError :=
  protocolError "runtime.protocol.unsupported_capability" "runtime.protocol.dispatch" .conflict
    false message

/-- USB and GPIO requests need minor two. -/
def usbGpioGated (x : HalResult Outcome) : HalResult Outcome :=
  if limits.protocolMinor < usbGpioWireMinor then
    .error (unsupportedMinor "USB and GPIO operations require negotiated protocol minor 2")
  else x

/-- Camera requests need minor three. -/
def cameraGated (x : HalResult Outcome) : HalResult Outcome :=
  if limits.protocolMinor < cameraWireMinor then
    .error (unsupportedMinor "Camera operations require negotiated protocol minor 3")
  else x

end Dispatch

/-- `dispatch_operation` of a request that names a session, up to the runtime's part. -/
def dispatchOperation (limits : NegotiatedLimits) (g : Registries) (r : SessionRequest) :
    HalResult Outcome :=
  match r.op with
  | .serialRead maxBytes => serialRead limits r.sessionId r.lease maxBytes
  | .serialWrite data => serialWrite limits r.sessionId r.lease data
  | .serialFlush => serialOperate r.sessionId r.lease
  | .setSerialControlLines _ => serialOperate r.sessionId r.lease
  | .closeSession => closeSession g r.sessionId r.lease
  | .canSend frames =>
    CanDispatch.gated limits (CanDispatch.send limits g.can r.sessionId r.lease frames)
  | .canReceive maxFrames =>
    CanDispatch.gated limits (CanDispatch.receive limits g.can r.sessionId r.lease maxFrames)
  | .replaceCanFilters filters =>
    CanDispatch.gated limits (CanDispatch.replaceFilters g.can r.sessionId r.lease filters)
  | .getCanBusStatus =>
    CanDispatch.gated limits (CanDispatch.status g.can r.sessionId r.lease)
  | .usbTransfer data maxBytes timeoutMs transfer =>
    usbGpioGated limits
      (UsbGpioDispatch.transfer limits g.usbGpio r.sessionId r.lease data maxBytes timeoutMs
        transfer)
  | .closeUsb => usbGpioGated limits (UsbGpioDispatch.closeUsb g.usbGpio r.sessionId r.lease)
  | .gpioRead => usbGpioGated limits (UsbGpioDispatch.readGpio g.usbGpio r.sessionId r.lease)
  | .gpioWrite values =>
    usbGpioGated limits (UsbGpioDispatch.writeGpio limits g.usbGpio r.sessionId r.lease values)
  | .gpioNextEdge timeoutMs rising falling capacity =>
    usbGpioGated limits
      (UsbGpioDispatch.nextEdge limits g.usbGpio r.sessionId r.lease timeoutMs rising falling
        capacity)
  | .closeGpio => usbGpioGated limits (UsbGpioDispatch.closeGpio g.usbGpio r.sessionId r.lease)
  | .captureCamera timeoutMs =>
    cameraGated limits (CameraDispatch.capture g.camera r.sessionId r.lease timeoutMs)
  | .cameraMappingDescriptor =>
    cameraGated limits (CameraDispatch.mappingDescriptor g.camera r.sessionId r.lease)
  | .cameraNextFrameLease =>
    cameraGated limits (CameraDispatch.nextFrameLease g.camera r.sessionId r.lease)
  | .cameraDroppedCount =>
    cameraGated limits (CameraDispatch.droppedCount g.camera r.sessionId r.lease)
  | .cameraControls =>
    cameraGated limits (CameraDispatch.controls g.camera r.sessionId r.lease)
  | .cameraGetControl kind =>
    cameraGated limits (CameraDispatch.getControl g.camera r.sessionId r.lease kind)
  | .cameraSetControl kind value =>
    cameraGated limits (CameraDispatch.setControl g.camera r.sessionId r.lease kind value)
  | .cameraSetAuto kind =>
    cameraGated limits (CameraDispatch.setAuto g.camera r.sessionId r.lease kind)
  | .closeCamera => cameraGated limits (CameraDispatch.close g.camera r.sessionId r.lease)

/-- The command of the serial actor that a request turns into. -/
def SessionOp.command : SessionOp → Option Serial.SerialCommand
  | .serialRead maxBytes => some (.read maxBytes.toNat)
  | .serialWrite data => some (.write data)
  | .serialFlush => some .flush
  | .setSerialControlLines lines => some (.setControlLines lines)
  | _ => none

/-! ### Whose session it is -/

/-- The registry has a record of the session. -/
def SessionRegistry.Has {π : Type} (g : SessionRegistry π) (sessionId : String) : Prop :=
  (g.sessions.lookup ⟨sessionId⟩).isSome

/-- A session in one of the connection's registries. -/
def Registries.Owns (g : Registries) (id : SessionId) : Prop :=
  g.serial.isSerialSession id = true ∨ (g.can.sessions.lookup id).isSome
    ∨ (g.usbGpio.sessions.lookup id).isSome ∨ (g.camera.sessions.lookup id).isSome

namespace CanDispatch

variable {limits : NegotiatedLimits} {g : CanSessionRegistry} {sessionId : String}
  {lease : Option V1.LeaseToken} {out : Outcome}

lemma owned_of_validate {mode : LeaseMode} {record : SessionRecord CanReceiveWireProfile}
    (hx : parseSessionLease sessionId lease = .ok x)
    (h : validateSession g x.1 x.2 mode operation allowClosed = .ok record) : g.Has sessionId := by
  rw [SessionRegistry.Has, ← parseSessionLease_session hx]
  unfold validateSession at h
  dsimp only at h
  split at h
  · cases h
  · rename_i hlookup
    rw [hlookup]
    rfl

lemma owned_send {frames : List V1.CanFrame} (h : send limits g sessionId lease frames = .ok out) :
    g.Has sessionId := by
  simp only [send, bindM_eq_ok] at h
  obtain ⟨_, -, x, hx, _, -, _, hv, -⟩ := h
  exact owned_of_validate hx hv

lemma owned_receive {maxFrames : UInt32}
    (h : receive limits g sessionId lease maxFrames = .ok out) : g.Has sessionId := by
  simp only [receive, bindM_eq_ok] at h
  obtain ⟨x, hx, _, -, _, hv, -⟩ := h
  exact owned_of_validate hx hv

lemma owned_replaceFilters {filters : Option V1.CanFilterSet}
    (h : replaceFilters g sessionId lease filters = .ok out) : g.Has sessionId := by
  simp only [replaceFilters, bindM_eq_ok] at h
  obtain ⟨x, hx, _, -, _, -, _, hv, -⟩ := h
  exact owned_of_validate hx hv

lemma owned_status (h : status g sessionId lease = .ok out) : g.Has sessionId := by
  simp only [status, bindM_eq_ok] at h
  obtain ⟨x, hx, _, hv, -⟩ := h
  exact owned_of_validate hx hv

lemma owned_close (h : close g sessionId lease = .ok out) : g.Has sessionId := by
  simp only [close, bindM_eq_ok] at h
  obtain ⟨x, hx, _, hv, -⟩ := h
  exact owned_of_validate hx hv

lemma of_gated {x : HalResult Outcome} (h : gated limits x = .ok out) : x = .ok out :=
  (ite_error_eq_ok.mp h).2

end CanDispatch

namespace UsbGpioDispatch

variable {limits : NegotiatedLimits} {g : UsbGpioSessionRegistry} {sessionId : String}
  {lease : Option V1.LeaseToken} {out : Outcome}

lemma owned_of_validate {kind : SessionKind} {cls : String} {record : SessionRecord SessionKind}
    (hx : parseControlSessionLease sessionId lease cls = .ok x)
    (h : validate g x.1 x.2 kind operation allowClosed = .ok record) : g.Has sessionId := by
  rw [SessionRegistry.Has, ← parseSessionLease_session (parseControlSessionLease_parse hx).1]
  unfold validate at h
  split at h
  · cases h
  · rename_i hlookup
    rw [hlookup]
    rfl

lemma owned_transfer {data : List UInt8} {maxBytes : UInt32} {timeoutMs : UInt64}
    {cls : HalResult UsbTransferClass}
    (h : transfer limits g sessionId lease data maxBytes timeoutMs cls = .ok out) :
    g.Has sessionId := by
  unfold transfer at h
  split at h
  · cases h
  simp only [bindM_eq_ok] at h
  obtain ⟨_, -, x, hx, _, -, _, hv, -⟩ := h
  exact owned_of_validate hx hv

lemma owned_readGpio (h : readGpio g sessionId lease = .ok out) : g.Has sessionId := by
  simp only [readGpio, bindM_eq_ok] at h
  obtain ⟨x, hx, _, hv, -⟩ := h
  exact owned_of_validate hx hv

lemma owned_writeGpio {values : List Bool}
    (h : writeGpio limits g sessionId lease values = .ok out) : g.Has sessionId := by
  unfold writeGpio at h
  split at h
  · cases h
  simp only [bindM_eq_ok] at h
  obtain ⟨x, hx, _, hv, -⟩ := h
  obtain ⟨y, hy, hx⟩ := bind_eq_ok.mp hx
  split at hx
  · cases hx
  · obtain rfl := Except.ok.inj hx
    exact owned_of_validate hy hv

lemma owned_nextEdge {timeoutMs : UInt64} {rising falling : Bool} {capacity : UInt32}
    (h : nextEdge limits g sessionId lease timeoutMs rising falling capacity = .ok out) :
    g.Has sessionId := by
  simp only [nextEdge, bindM_eq_ok] at h
  obtain ⟨_, -, x, hx, _, -, _, hv, -⟩ := h
  exact owned_of_validate hx hv

lemma owned_closeUsb (h : closeUsb g sessionId lease = .ok out) : g.Has sessionId := by
  simp only [closeUsb, bindM_eq_ok] at h
  obtain ⟨x, hx, _, hv, -⟩ := h
  exact owned_of_validate hx hv

lemma owned_closeGpio (h : closeGpio g sessionId lease = .ok out) : g.Has sessionId := by
  simp only [closeGpio, bindM_eq_ok] at h
  obtain ⟨x, hx, _, hv, -⟩ := h
  exact owned_of_validate hx hv

end UsbGpioDispatch

namespace CameraDispatch

variable {g : CameraSessionRegistry} {sessionId : String} {lease : Option V1.LeaseToken}
  {out : Outcome}

lemma owned_of_validate {record : SessionRecord Unit}
    (hx : cameraSessionLeaseFromProto sessionId lease = .ok x)
    (h : validate g x.1 x.2 operation allowClosed = .ok record) : g.Has sessionId := by
  rw [SessionRegistry.Has, ← parseSessionLease_session (parseControlSessionLease_parse hx).1]
  unfold validate at h
  split at h
  · cases h
  · rename_i hlookup
    rw [hlookup]
    rfl

lemma owned_operate {capability : String} {decoded : HalResult Unit}
    (h : operate g sessionId lease operation capability decoded = .ok out) : g.Has sessionId := by
  simp only [operate, bindM_eq_ok] at h
  obtain ⟨x, hx, _, hv, -⟩ := h
  exact owned_of_validate hx hv

lemma owned_close (h : close g sessionId lease = .ok out) : g.Has sessionId := by
  simp only [close, bindM_eq_ok] at h
  obtain ⟨x, hx, _, hv, -⟩ := h
  exact owned_of_validate hx hv

end CameraDispatch

section Owned

variable {limits : NegotiatedLimits} {g : Registries} {r : SessionRequest} {out : Outcome}

lemma of_usbGpioGated {x : HalResult Outcome} (h : usbGpioGated limits x = .ok out) : x = .ok out :=
  (ite_error_eq_ok.mp h).2

lemma of_cameraGated {x : HalResult Outcome} (h : cameraGated limits x = .ok out) : x = .ok out :=
  (ite_error_eq_ok.mp h).2

lemma owned_closeSession {sessionId : String} {lease : Option V1.LeaseToken}
    (h : closeSession g sessionId lease = .ok out) : g.Owns ⟨sessionId⟩ := by
  unfold closeSession at h
  split at h
  · exact .inr (.inl (CanDispatch.owned_close h))
  obtain ⟨x, hx, h⟩ := bind_eq_ok.mp h
  dsimp only at h
  split at h
  · cases h
  · rename_i hserial
    rw [parseSessionLease_session hx] at hserial
    exact .inl (by simpa using hserial)

/-- Unless it is I/O on a serial session, a request that is not refused names a session of the
connection's own registries. -/
lemma owns_of_dispatch (h : dispatchOperation limits g r = .ok out) (hop : r.op.command = none) :
    g.Owns ⟨r.sessionId⟩ := by
  obtain ⟨sessionId, lease, op⟩ := r
  have ofCan (hs : g.can.Has sessionId) : g.Owns ⟨sessionId⟩ :=
    .inr (.inl hs)
  have ofUsbGpio (hs : g.usbGpio.Has sessionId) : g.Owns ⟨sessionId⟩ :=
    .inr (.inr (.inl hs))
  have ofCamera (hs : g.camera.Has sessionId) : g.Owns ⟨sessionId⟩ :=
    .inr (.inr (.inr hs))
  cases op with
  | serialRead | serialWrite | serialFlush | setSerialControlLines => cases hop
  | closeSession => exact owned_closeSession h
  | canSend => exact ofCan (CanDispatch.owned_send (CanDispatch.of_gated h))
  | canReceive => exact ofCan (CanDispatch.owned_receive (CanDispatch.of_gated h))
  | replaceCanFilters => exact ofCan (CanDispatch.owned_replaceFilters (CanDispatch.of_gated h))
  | getCanBusStatus => exact ofCan (CanDispatch.owned_status (CanDispatch.of_gated h))
  | usbTransfer => exact ofUsbGpio (UsbGpioDispatch.owned_transfer (of_usbGpioGated h))
  | closeUsb => exact ofUsbGpio (UsbGpioDispatch.owned_closeUsb (of_usbGpioGated h))
  | gpioRead => exact ofUsbGpio (UsbGpioDispatch.owned_readGpio (of_usbGpioGated h))
  | gpioWrite => exact ofUsbGpio (UsbGpioDispatch.owned_writeGpio (of_usbGpioGated h))
  | gpioNextEdge => exact ofUsbGpio (UsbGpioDispatch.owned_nextEdge (of_usbGpioGated h))
  | closeGpio => exact ofUsbGpio (UsbGpioDispatch.owned_closeGpio (of_usbGpioGated h))
  | captureCamera =>
    obtain ⟨_, -, h⟩ := bind_eq_ok.mp (of_cameraGated h)
    exact ofCamera (CameraDispatch.owned_operate h)
  | cameraMappingDescriptor | cameraNextFrameLease | cameraDroppedCount | cameraControls
  | cameraGetControl | cameraSetControl | cameraSetAuto =>
    exact ofCamera (CameraDispatch.owned_operate (of_cameraGated h))
  | closeCamera => exact ofCamera (CameraDispatch.owned_close (of_cameraGated h))

end Owned

end RobotHal.Broker
