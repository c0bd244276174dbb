import RobotHal.BrokerDispatch
import RobotHal.CameraControl

/-!
# The size of USB, GPIO and camera responses

A response is written only if it is no longer than the negotiated frame. A USB transfer and a wait
for an edge are refused where their response could be longer. A GPIO read and the description of
camera controls have no such check, so whether they can end the connection is decided by the frame
length alone.
-/

namespace RobotHal

open Proto

/-! ### Messages -/

namespace V1

structure UsbTransferResponse where
  data : List UInt8

def UsbTransferResponse.encode (m : UsbTransferResponse) : List UInt8 := bytesField 1 m.data

structure GpioReadResponse where
  values : List Bool

def GpioReadResponse.encode (m : GpioReadResponse) : List UInt8 :=
  packedField 1 (m.values.map Bool.toNat)

inductive GpioEdge
  | unspecified
  | rising
  | falling
deriving DecidableEq

instance : Enumeration GpioEdge where
  values := [.unspecified, .rising, .falling]
  number
    | .unspecified => 0
    | .rising => 1
    | .falling => 2
  mem_values e := by cases e <;> decide
  number_injective a b h := by cases a <;> cases b <;> first | rfl | cases h

structure GpioEdgeEvent where
  edge : ℤ
  monotonicNs : UInt64
  sequence : UInt64

def GpioEdgeEvent.encode (m : GpioEdgeEvent) : List UInt8 :=
  enumField 1 m.edge ++ varintField 2 m.monotonicNs.toNat ++ varintField 3 m.sequence.toNat

structure GpioNextEdgeResponse where
  event : Option GpioEdgeEvent

def GpioNextEdgeResponse.encode (m : GpioNextEdgeResponse) : List UInt8 :=
  messageField 1 (m.event.map GpioEdgeEvent.encode)

end V1

namespace Gpio

inductive GpioEdge
  | rising
  | falling
deriving DecidableEq

structure GpioEdgeEvent where
  edge : GpioEdge
  monotonicNs : UInt64
  sequence : UInt64

def GpioEdge.toProto : GpioEdge → V1.GpioEdge
  | .rising => .rising
  | .falling => .falling

def GpioEdgeEvent.toProto (x : GpioEdgeEvent) : V1.GpioEdgeEvent :=
  ⟨Enumeration.number x.edge.toProto, x.monotonicNs, x.sequence⟩

end Gpio

namespace Broker

/-- The payloads these operations answer with. -/
inductive ResponsePayload
  | usbTransferResponse (m : V1.UsbTransferResponse)
  | gpioReadResponse (m : V1.GpioReadResponse)
  | gpioNextEdgeResponse (m : V1.GpioNextEdgeResponse)
  | cameraControlsResponse (m : Camera.V1.CameraControlsResponse)

def ResponsePayload.envelope (requestId : UInt64) : ResponsePayload → List UInt8
  | .usbTransferResponse m => V1.envelope requestId 67 m.encode
  | .gpioReadResponse m => V1.envelope requestId 75 m.encode
  | .gpioNextEdgeResponse m => V1.envelope requestId 79 m.encode
  | .cameraControlsResponse m => V1.envelope requestId 95 m.encode

/-! ### What is done with the answer of the runtime -/

def UsbGpioDispatch.transferResponse (limits : NegotiatedLimits) (data : List UInt8) :
    HalResult ResponsePayload :=
  if data.length > limits.maxReadBytes ∨ responseBound data.length > limits.maxFrameBytes then
    .error (invalidMessage "USB transfer response exceeds negotiated limits")
  else .ok (.usbTransferResponse ⟨data⟩)

def UsbGpioDispatch.readGpioResponse (values : List Bool) : HalResult ResponsePayload :=
  if values.isEmpty ∨ values.length > maxGpioEvents then
    .error (invalidMessage "GPIO read response violates public bounds")
  else .ok (.gpioReadResponse ⟨values⟩)

def UsbGpioDispatch.nextEdgeResponse (event : Option Gpio.GpioEdgeEvent) : ResponsePayload :=
  .gpioNextEdgeResponse ⟨event.map Gpio.GpioEdgeEvent.toProto⟩

def CameraDispatch.controlsResponse (controls : List Camera.CameraControlDescriptor) :
    ResponsePayload :=
  .cameraControlsResponse ⟨controls.map Camera.cameraControlDescriptorToProto⟩

/-- The payload of an operation whose runtime call succeeded. The runtime may return anything
within the public bounds. -/
inductive Responds (limits : NegotiatedLimits) : SessionOp → ResponsePayload → Prop
  | transfer {data maxBytes timeoutMs transfer payload} (answer : List UInt8)
      (h : UsbGpioDispatch.transferResponse limits answer = .ok payload) :
      Responds limits (.usbTransfer data maxBytes timeoutMs transfer) payload
  | readGpio {payload} (values : List Bool)
      (h : UsbGpioDispatch.readGpioResponse values = .ok payload) :
      Responds limits .gpioRead payload
  | nextEdge {timeoutMs rising falling capacity} (event : Option Gpio.GpioEdgeEvent) :
      Responds limits (.gpioNextEdge timeoutMs rising falling capacity)
        (UsbGpioDispatch.nextEdgeResponse event)
  | controls (controls : List Camera.CameraControlDescriptor)
      (h : Camera.PublicControls controls) :
      Responds limits .cameraControls (CameraDispatch.controlsResponse controls)

/-! ### The writer -/

structure OutboundEnvelope where
  envelope : List UInt8
  maxFrameBytes : ℕ

def frameTooLarge (message : String) : HalError :=
  protocolError "runtime.protocol.frame_too_large" "runtime.protocol.frame" .invalidArgument false
    message

/-- `write_responses`: what was sent, and how the writer ended. The sink takes what it is given. -/
def writeResponses : List OutboundEnvelope → List (List UInt8) × HalResult Unit
  | [] => ([], .ok ())
  | response :: responses =>
    if response.envelope.length > RobotHal.maxFrameBytes
        ∨ response.envelope.length > response.maxFrameBytes then
      ([], .error (frameTooLarge "outbound envelope exceeds the negotiated maximum"))
    else
      let (sent, result) := writeResponses responses
      (response.envelope :: sent, result)

/-- The response is one of a request that was dispatched and succeeded. -/
def Handed (limits : NegotiatedLimits) (x : OutboundEnvelope) : Prop :=
  ∃ (g : Registries) (r : SessionRequest) (session : SessionId) (lease : LeaseToken)
    (payload : ResponsePayload) (requestId : UInt64),
    dispatchOperation limits g r = .ok (.calls session lease) ∧ Responds limits r.op payload
      ∧ x = ⟨payload.envelope requestId, limits.maxFrameBytes⟩

/-- The longest response to a GPIO read. -/
def maxGpioReadEnvelope : ℕ := 1042

/-- The longest response to a request for the camera controls. -/
def maxCameraControlsEnvelope : ℕ := 67952

/-- The frame holds the longest response of each transport the minor admits. -/
def NegotiatedLimits.Roomy (limits : NegotiatedLimits) : Prop :=
  (usbGpioWireMinor ≤ limits.protocolMinor → maxGpioReadEnvelope ≤ limits.maxFrameBytes)
    ∧ (cameraWireMinor ≤ limits.protocolMinor → maxCameraControlsEnvelope ≤ limits.maxFrameBytes)

/-! ### Lengths -/

lemma bounded_lengths : (varint (key 67 2)).length = 2
    ∧ (∀ e : Gpio.GpioEdge, e ∈ [.rising, .falling] →
      (enumField 1 (Enumeration.number e.toProto)).length ≤ 2)
    ∧ envelopeEncodedLen 79 (delimitedLen 1 24) = 40
    ∧ envelopeEncodedLen 75 (delimitedLen 1 1024) = maxGpioReadEnvelope := by
  decide +kernel

lemma length_transferResponse {limits : NegotiatedLimits} {data : List UInt8}
    {payload : ResponsePayload} (requestId : UInt64)
    (hframe : limits.maxFrameBytes ≤ RobotHal.maxFrameBytes)
    (h : UsbGpioDispatch.transferResponse limits data = .ok payload) :
    (payload.envelope requestId).length ≤ limits.maxFrameBytes := by
  unfold UsbGpioDispatch.transferResponse at h
  split at h
  · cases h
  rename_i hfits
  cases h
  obtain ⟨-, hbound⟩ := not_or.mp hfits
  unfold UsbGpioDispatch.responseBound at hbound
  have hmax : RobotHal.maxFrameBytes = 1048576 := rfl
  -- every length prefix below the frame limit takes at most three bytes
  have hprefix {n : ℕ} (hn : n < 2097152) : (varint n).length ≤ 3 :=
    length_varint_le_iff.mpr (by omega)
  have hfield : (V1.UsbTransferResponse.encode ⟨data⟩).length ≤ data.length + 4 := by
    have hlen : (bytesField 1 data).length ≤ delimitedLen 1 data.length :=
      length_bytesField_le le_rfl
    have hkey := length_varint_key (by decide : 1 < 16) (by decide : 2 < 8)
    have hdata := hprefix (n := data.length) (by omega)
    unfold delimitedLen at hlen
    simp only [V1.UsbTransferResponse.encode]
    omega
  have hlen : (V1.envelope requestId 67 _).length ≤ _ := length_envelope_le requestId hfield
  have hpayload := hprefix (n := data.length + 4) (by omega)
  rw [envelopeEncodedLen_eq, delimitedLen, bounded_lengths.1] at hlen
  simp only [ResponsePayload.envelope]
  omega

lemma length_readGpioResponse {values : List Bool} {payload : ResponsePayload} (requestId : UInt64)
    (h : UsbGpioDispatch.readGpioResponse values = .ok payload) :
    (payload.envelope requestId).length ≤ maxGpioReadEnvelope := by
  unfold UsbGpioDispatch.readGpioResponse at h
  split at h
  · cases h
  rename_i hbounds
  cases h
  obtain ⟨-, hmax⟩ := not_or.mp hbounds
  have hfield : (V1.GpioReadResponse.encode ⟨values⟩).length ≤ delimitedLen 1 1024 := by
    apply length_packedField_le
    · intro v hv
      obtain ⟨b, -, rfl⟩ := List.mem_map.mp hv
      cases b <;> decide
    · simpa [maxGpioEvents] using hmax
  exact (length_envelope_le requestId hfield).trans_eq bounded_lengths.2.2.2

lemma length_nextEdgeResponse (event : Option Gpio.GpioEdgeEvent) (requestId : UInt64) :
    ((UsbGpioDispatch.nextEdgeResponse event).envelope requestId).length ≤ 40 := by
  have hfield : (V1.GpioNextEdgeResponse.encode
      ⟨event.map Gpio.GpioEdgeEvent.toProto⟩).length ≤ delimitedLen 1 24 := by
    apply length_messageField_le
    intro m hm
    rw [Option.map_map] at hm
    obtain ⟨e, -, rfl⟩ := Option.map_eq_some_iff.mp hm
    have hedge : (enumField 1 (Enumeration.number e.edge.toProto)).length ≤ 2 := by
      apply bounded_lengths.2.1
      cases e.edge <;> decide
    have hint (number : ℕ) (hn : number < 16) (x : UInt64) :
        (varintField number x.toNat).length ≤ 11 := by
      have := x.toNat_lt
      exact length_varintField_le (k := 9) hn (by omega)
    have h2 := hint 2 (by decide) e.monotonicNs
    have h3 := hint 3 (by decide) e.sequence
    simp only [Function.comp_apply, V1.GpioEdgeEvent.encode, Gpio.GpioEdgeEvent.toProto,
      List.length_append]
    omega
  exact (length_envelope_le requestId hfield).trans_eq bounded_lengths.2.2.1

lemma length_controlsResponse {controls : List Camera.CameraControlDescriptor}
    (h : Camera.PublicControls controls) (requestId : UInt64) :
    ((CameraDispatch.controlsResponse controls).envelope requestId).length
      ≤ maxCameraControlsEnvelope :=
  (length_envelope_le requestId (Camera.length_encode_controls h)).trans_eq
    (by decide +kernel)

/-! ### What a dispatched request says about the limits -/

section Gates

variable {limits : NegotiatedLimits} {g : Registries} {r : SessionRequest} {out : Outcome}

lemma minor_of_usbGpioGated {x : HalResult Outcome} (h : usbGpioGated limits x = .ok out) :
    usbGpioWireMinor ≤ limits.protocolMinor := by
  unfold usbGpioGated at h
  split at h
  · cases h
  · exact UInt32.not_lt.mp ‹_›

lemma minor_of_cameraGated {x : HalResult Outcome} (h : cameraGated limits x = .ok out) :
    cameraWireMinor ≤ limits.protocolMinor := by
  unfold cameraGated at h
  split at h
  · cases h
  · exact UInt32.not_lt.mp ‹_›

lemma responseBound_of_nextEdge {g : UsbGpioSessionRegistry} {sessionId : String}
    {lease : Option V1.LeaseToken} {timeoutMs : UInt64} {rising falling : Bool} {capacity : UInt32}
    (h : UsbGpioDispatch.nextEdge limits g sessionId lease timeoutMs rising falling capacity
      = .ok out) : 48 ≤ limits.maxFrameBytes := by
  unfold UsbGpioDispatch.nextEdge at h
  obtain ⟨_, -, h⟩ := bind_eq_ok.mp h
  obtain ⟨_, -, h⟩ := bind_eq_ok.mp h
  obtain ⟨_, -, h⟩ := bind_eq_ok.mp h
  obtain ⟨_, -, h⟩ := bind_eq_ok.mp h
  obtain ⟨_, -, h⟩ := bind_eq_ok.mp h
  split at h
  · cases h
  · exact not_lt.mp ‹_›

end Gates

lemma Handed.fits {limits : NegotiatedLimits} {x : OutboundEnvelope} (h : Handed limits x)
    (hframe : limits.maxFrameBytes ≤ RobotHal.maxFrameBytes) (hroomy : limits.Roomy) :
    x.envelope.length ≤ x.maxFrameBytes ∧ x.envelope.length ≤ RobotHal.maxFrameBytes := by
  obtain ⟨g, ⟨sessionId, token, op⟩, session, lease, payload, requestId, hcalls, hresponds,
    rfl⟩ := h
  suffices hlen : (payload.envelope requestId).length ≤ limits.maxFrameBytes from
    ⟨hlen, hlen.trans hframe⟩
  cases hresponds with
  | transfer answer h => exact length_transferResponse requestId hframe h
  | readGpio values h =>
    exact (length_readGpioResponse requestId h).trans (hroomy.1 (minor_of_usbGpioGated hcalls))
  | nextEdge event =>
    have hbound := responseBound_of_nextEdge (of_usbGpioGated hcalls)
    have hlen := length_nextEdgeResponse event requestId
    omega
  | controls controls h =>
    exact (length_controlsResponse h requestId).trans (hroomy.2 (minor_of_cameraGated hcalls))

lemma writeResponses_ok_iff (responses : List OutboundEnvelope) :
    (writeResponses responses).2 = .ok () ↔ ∀ x ∈ responses,
      x.envelope.length ≤ x.maxFrameBytes ∧ x.envelope.length ≤ RobotHal.maxFrameBytes := by
  induction responses with
  | nil => simp [writeResponses]
  | cons x responses ih =>
    rw [List.forall_mem_cons, ← ih, writeResponses]
    split
    · rename_i hlong
      constructor
      · intro h
        cases h
      · rintro ⟨⟨hframe, hmax⟩, -⟩
        omega
    · rename_i hfits
      obtain ⟨hmax, hframe⟩ := not_or.mp hfits
      exact (and_iff_right ⟨not_lt.mp hframe, not_lt.mp hmax⟩).symm

/-! ### The longest responses -/

def longestGpioRead : V1.GpioReadResponse := ⟨List.replicate maxGpioEvents true⟩

lemma readGpioResponse_longest : UsbGpioDispatch.readGpioResponse longestGpioRead.values
    = .ok (.gpioReadResponse longestGpioRead) := by
  unfold UsbGpioDispatch.readGpioResponse
  have hlen : longestGpioRead.values.length = maxGpioEvents := List.length_replicate
  rw [if_neg]
  rw [hlen]
  decide

/-- A text of the greatest length a control may carry. -/
def longestText : String := String.ofList (List.replicate Camera.maxControlTextBytes 'a')

def longestDescriptor : Camera.CameraControlDescriptor where
  kind := .exposure
  readable := true
  writable := true
  autoSupported := true
  values := .enumerated (List.replicate Camera.maxEnumeratedValues (.enum longestText))
  currentValueAvailable := true
  diagnostic := some longestText

lemma longestText_public : longestText ≠ "" ∧ isAscii longestText = true
    ∧ longestText.utf8ByteSize ≤ Camera.maxControlTextBytes := by
  have hsize : longestText.utf8ByteSize = Camera.maxControlTextBytes := by decide +kernel
  refine ⟨?_, by simp [isAscii, longestText], hsize.le⟩
  intro hempty
  rw [hempty] at hsize
  cases hsize

lemma longestDescriptor_public : longestDescriptor.Public where
  values := by
    refine ⟨by decide, by decide, fun v hv => ?_⟩
    rw [List.eq_of_mem_replicate hv]
    exact longestText_public
  diagnostic text htext := by
    obtain rfl := Option.some.inj htext
    exact longestText_public.2
  current _ := rfl

lemma length_longest_fields :
    (Camera.cameraControlValueToProto (.enum longestText)).encode.length = 258
    ∧ (stringField 7 longestText).length = 258
    ∧ (enumField 1 (Enumeration.number Camera.V1.CameraControlKind.exposure)).length = 2
    ∧ ∀ n ∈ [2, 3, 4, 6], (boolField n true).length = 2 := by
  decide +kernel

lemma length_longestDescriptor :
    (Camera.cameraControlDescriptorToProto longestDescriptor).encode.length = 16980 := by
  obtain ⟨hvalue, hdiagnostic, hkind, hflags⟩ := length_longest_fields
  have hvalues : (Camera.V1.CameraControlValues.encode
      ⟨some longestDescriptor.values.toProto⟩).length = 16708 := by
    simp only [longestDescriptor, Camera.CameraControlValues.toProto, List.map_replicate,
      Camera.V1.CameraControlValues.encode, Camera.V1.CameraControlEnumValues.encode,
      length_delimited, length_repeatedField_replicate, hvalue]
    simp [delimitedLen, key, varint, Camera.maxEnumeratedValues]
  simp only [Camera.cameraControlDescriptorToProto, Camera.V1.CameraControlDescriptor.encode,
    Option.map_some, messageField, Option.elim_some, List.length_append, length_delimited, hvalues]
  simp only [longestDescriptor, Camera.CameraControlKind.toProto, Option.getD_some, hkind,
    hdiagnostic, hflags 2 (by decide), hflags 3 (by decide), hflags 4 (by decide),
    hflags 6 (by decide)]
  simp [delimitedLen, key, varint]

lemma length_longest_controls :
    ((CameraDispatch.controlsResponse
      (List.replicate Camera.maxControls longestDescriptor)).envelope
      0xffffffffffffffff).length = maxCameraControlsEnvelope := by
  have hbody : (Camera.V1.CameraControlsResponse.encode ⟨(List.replicate Camera.maxControls
      longestDescriptor).map Camera.cameraControlDescriptorToProto⟩).length = 67936 := by
    simp only [Camera.V1.CameraControlsResponse.encode, List.map_replicate]
    rw [length_repeatedField_replicate, length_longestDescriptor]
    simp [delimitedLen, key, varint, Camera.maxControls]
  simp only [CameraDispatch.controlsResponse, ResponsePayload.envelope]
  rw [length_envelope_max, hbody]
  simp [envelopeEncodedLen_eq, delimitedLen, key, varint, maxCameraControlsEnvelope]

lemma longest_controls_public :
    Camera.PublicControls (List.replicate Camera.maxControls longestDescriptor) := by
  refine ⟨by decide, fun x hx => ?_⟩
  rw [List.eq_of_mem_replicate hx]
  exact longestDescriptor_public

/-- A GPIO and a camera session that are open. -/
def openRegistries : Registries where
  usbGpio := SessionRegistry.register {} ⟨"s"⟩
    ⟨⟨"r"⟩, [gpioLinesCapability], ⟨⟨"l"⟩, 1, .control⟩, .gpio, false⟩
  camera := SessionRegistry.register {} ⟨"s"⟩
    ⟨⟨"r"⟩, [cameraControlsCapability], ⟨⟨"l"⟩, 1, .control⟩, (), false⟩

def openRequest (op : SessionOp) : SessionRequest :=
  ⟨"s", some ⟨"l", 1, Enumeration.number V1.LeaseMode.control⟩, op⟩

section Reached

variable {limits : NegotiatedLimits}

lemma handed_longest_gpioRead (h : usbGpioWireMinor ≤ limits.protocolMinor) :
    Handed limits ⟨(ResponsePayload.gpioReadResponse longestGpioRead).envelope 0xffffffffffffffff,
      limits.maxFrameBytes⟩ := by
  refine ⟨openRegistries, openRequest .gpioRead, ⟨"s"⟩, ⟨⟨"l"⟩, 1, .control⟩, _, _, ?_,
    .readGpio longestGpioRead.values readGpioResponse_longest, rfl⟩
  simp only [dispatchOperation, openRequest, usbGpioGated]
  rw [if_neg (UInt32.not_lt.mpr h)]
  exact ok_of_toOption (by decide)

lemma handed_longest_controls (h : cameraWireMinor ≤ limits.protocolMinor) :
    Handed limits ⟨(CameraDispatch.controlsResponse
      (List.replicate Camera.maxControls longestDescriptor)).envelope 0xffffffffffffffff,
      limits.maxFrameBytes⟩ := by
  refine ⟨openRegistries, openRequest .cameraControls, ⟨"s"⟩, ⟨⟨"l"⟩, 1, .control⟩, _, _, ?_,
    .controls _ longest_controls_public, rfl⟩
  simp only [dispatchOperation, openRequest, cameraGated]
  rw [if_neg (UInt32.not_lt.mpr h)]
  exact ok_of_toOption (by decide)

end Reached

lemma length_longest_gpioRead :
    ((ResponsePayload.gpioReadResponse longestGpioRead).envelope 0xffffffffffffffff).length =
      maxGpioReadEnvelope := by
  decide +kernel

/-- After a handshake the responses of these operations fit and are all written, whichever they
are, if and only if the frame was negotiated long enough for the minor. -/
theorem responses_fit_iff_roomy (token : StartupToken) (request : V1.HandshakeRequest)
    (response : V1.HandshakeResponse) (limits : NegotiatedLimits)
    (h : validateHandshake token request = .ok (response, limits)) :
    (∀ responses : List OutboundEnvelope, (∀ x ∈ responses, Handed limits x) →
      (∀ x ∈ responses, x.envelope.length ≤ limits.maxFrameBytes)
      ∧ (writeResponses responses).2 = .ok ()) ↔ limits.Roomy := by
  obtain ⟨minor, haccepts, heq⟩ := validateHandshake_eq_ok.mp h
  have hframe : limits.maxFrameBytes ≤ RobotHal.maxFrameBytes := by
    rw [(Prod.mk.inj heq).2]
    exact haccepts.frame_le
  constructor
  · intro hall
    have hone {x : OutboundEnvelope} (hx : Handed limits x) :
        x.envelope.length ≤ limits.maxFrameBytes :=
      (hall [x] (by simpa using hx)).1 x (by simp)
    constructor
    · intro hminor
      rw [← length_longest_gpioRead]
      exact hone (handed_longest_gpioRead hminor)
    · intro hminor
      rw [← length_longest_controls]
      exact hone (handed_longest_controls hminor)
  · intro hroomy responses hresponses
    constructor
    · intro x hx
      have hfits := ((hresponses x hx).fits hframe hroomy).1
      obtain ⟨_, _, _, _, _, _, -, -, rfl⟩ := hresponses x hx
      exact hfits
    · exact (writeResponses_ok_iff responses).mpr fun x hx => (hresponses x hx).fits hframe hroomy

/-- The largest frame leaves enough room. -/
theorem responses_fit_largest_frame :
    ∃ (token : StartupToken) (request : V1.HandshakeRequest) (response : V1.HandshakeResponse)
      (limits : NegotiatedLimits), validateHandshake token request = .ok (response, limits)
      ∧ limits.protocolMinor = 3 ∧ Handed limits ⟨(ResponsePayload.gpioReadResponse
        longestGpioRead).envelope 0xffffffffffffffff, limits.maxFrameBytes⟩
      ∧ ∀ responses : List OutboundEnvelope, (∀ x ∈ responses, Handed limits x) →
        (writeResponses responses).2 = .ok () := by
  have hexec : ∃ x ∈ (validateHandshake ⟨List.replicate 32 7, rfl⟩
      (Client.handshakeRequest (List.replicate 32 7) ⟨3, 1048576, 65536, 65536⟩)).toOption,
        x.2.protocolMinor = 3 ∧ x.2.maxFrameBytes = 1048576 := by decide +kernel
  obtain ⟨⟨response, limits⟩, hx, hminor, hframe⟩ := hexec
  have hok := ok_of_toOption hx
  have hroomy : limits.Roomy := by
    constructor
    · intro _
      exact hframe ▸ (by decide : maxGpioReadEnvelope ≤ 1048576)
    · intro _
      exact hframe ▸ (by decide : maxCameraControlsEnvelope ≤ 1048576)
  refine ⟨_, _, response, limits, hok, hminor, handed_longest_gpioRead ?_, fun responses hall =>
    ((responses_fit_iff_roomy _ _ _ _ hok).mpr hroomy responses hall).2⟩
  exact hminor.symm ▸ (by decide : usbGpioWireMinor ≤ 3)

/-- With a frame of 512 bytes, which the handshake accepts, the longest camera controls end the
connection. A GPIO read of 1024 values does too, but as a request of 512 bytes cannot open as many
lines, it takes an adapter that returns more values than there are lines. -/
theorem responses_end_connection :
    ∃ (token : StartupToken) (request : V1.HandshakeRequest) (response : V1.HandshakeResponse)
      (limits : NegotiatedLimits),
      validateHandshake token request = .ok (response, limits) ∧ limits.maxFrameBytes = 512
      ∧ ∀ n ∈ [67952, 1042], ∃ x, Handed limits x ∧ x.envelope.length = n
        ∧ (writeResponses [x]).2
          = .error (frameTooLarge "outbound envelope exceeds the negotiated maximum") := by
  have hexec : ∃ x ∈ (validateHandshake ⟨List.replicate 32 7, rfl⟩
      (Client.handshakeRequest (List.replicate 32 7) ⟨3, 512, 16, 16⟩)).toOption,
        x.2.protocolMinor = 3 ∧ x.2.maxFrameBytes = 512 := by decide +kernel
  obtain ⟨⟨response, limits⟩, hx, hminor, hframe⟩ := hexec
  refine ⟨_, _, response, limits, ok_of_toOption hx, hframe, fun n hn => ?_⟩
  rcases List.mem_pair.mp hn with rfl | rfl
  · refine ⟨_, handed_longest_controls ?_, length_longest_controls, ?_⟩
    · exact hminor.symm ▸ (by decide : cameraWireMinor ≤ 3)
    · rw [writeResponses, length_longest_controls, hframe]
      rfl
  · refine ⟨_, handed_longest_gpioRead ?_, length_longest_gpioRead, ?_⟩
    · exact hminor.symm ▸ (by decide : usbGpioWireMinor ≤ 3)
    · rw [writeResponses, length_longest_gpioRead, hframe]
      rfl

end Broker

end RobotHal
