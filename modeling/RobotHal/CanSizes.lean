import RobotHal.CanWire
import RobotHal.Handshake
import RobotHal.SessionWire

/-!
# How long a response can get

A broker refuses a CAN receive before it asks the runtime if the longest response to it would
not fit the negotiated frame. It computes that length from constants, one for each kind of frame
a session may receive; the client computes it from sample messages. The serial limits are tied
to the frame limit once, by the handshake.
-/

namespace RobotHal

open Proto

variable {data : List UInt8} {n : ℕ}
variable {id : CanId} {f : CanFrame} {frames : List ReceivedCanFrame} {x : ReceivedCanFrame}
  {session : SessionId} {lease : LeaseToken}

/-! ### Messages -/

namespace V1

def CanId.encode (m : CanId) : List UInt8 := varintField 1 m.value.toNat ++ enumField 2 m.format

def CanFrame.encode (m : CanFrame) : List UInt8 :=
  messageField 1 (m.id.map CanId.encode) ++ enumField 2 m.kind ++ bytesField 3 m.data
    ++ varintField 4 m.remoteDlc.toNat ++ boolField 5 m.bitrateSwitch
    ++ boolField 6 m.errorStateIndicator
    ++ packedField 7 (m.errorClasses.map fun c => (c % 2 ^ 64).toNat)

def CanTimestamp.encode (m : CanTimestamp) : List UInt8 :=
  varintField 1 m.timestampNs.toNat ++ enumField 2 m.source ++ stringField 3 m.clockDomain

def ReceivedCanFrame.encode (m : ReceivedCanFrame) : List UInt8 :=
  messageField 1 (m.frame.map CanFrame.encode) ++
    messageField 2 (m.timestamp.map CanTimestamp.encode)

structure CanReceiveResponse where
  frames : List ReceivedCanFrame

def CanReceiveResponse.encode (m : CanReceiveResponse) : List UInt8 :=
  repeatedField 1 (m.frames.map ReceivedCanFrame.encode)

structure SerialReadResponse where
  data : List UInt8

def SerialReadResponse.encode (m : SerialReadResponse) : List UInt8 := bytesField 1 m.data

structure SerialWriteRequest where
  sessionId : String
  lease : Option LeaseToken
  data : List UInt8

def SerialWriteRequest.encode (m : SerialWriteRequest) : List UInt8 :=
  stringField 1 m.sessionId ++ messageField 2 (m.lease.map LeaseToken.encode) ++ bytesField 3 m.data

end V1

def maxFdDataBytes : ℕ := 64

def CanFrame.isFd : CanFrame → Bool
  | .fdData .. => true
  | _ => false

/-! ### The broker's bound -/

namespace Broker

abbrev CapabilitySet := List String

/-- The longest data frame or remote frame of Classical CAN. -/
def maxClassicCanFrameProtoBytes : ℕ := 22
def maxFdCanFrameProtoBytes : ℕ := 82
def maxErrorCanFrameProtoBytes : ℕ := 2 + 10 + 2 + maxCanErrorClasses
def maxCanTimestampProtoBytes : ℕ := 271
def canReceiveResponseFieldNumber : ℕ := 57

structure CanReceiveWireProfile where
  mode : CanMode
  maxDataBytes : ℕ
  maxFrameProtoBytes : ℕ
  timestamp : Bool

/-- The mode a session runs in: what was asked for, or FD wherever the resource has it. -/
def sessionMode (config : CanOpenConfig) (capabilities : CapabilitySet) : CanMode :=
  match config with
  | .configure config => config.mode
  | .attach expectation =>
    expectation.mode.getD (if canFdCapability ∈ capabilities then .fd else .classic)

def modeFrameBytes : CanMode → ℕ
  | .classic => maxClassicCanFrameProtoBytes
  | .fd => maxFdCanFrameProtoBytes

def modeDataBytes : CanMode → ℕ
  | .classic => maxClassicDataBytes
  | .fd => maxFdDataBytes

def receiveWireProfile (config : CanOpenConfig) (capabilities : CapabilitySet) :
    CanReceiveWireProfile :=
  let mode := sessionMode config capabilities
  { mode
    maxDataBytes := modeDataBytes mode
    maxFrameProtoBytes :=
      if canErrorFramesCapability ∈ capabilities then
        max (modeFrameBytes mode) maxErrorCanFrameProtoBytes
      else modeFrameBytes mode
    timestamp := canRxTimestampCapability ∈ capabilities }

def canReceiveResponseEnvelopeBound (frameCount : ℕ) (profile : CanReceiveWireProfile) :
    Option ℕ := do
  let frameField := lengthDelimitedFieldLen 1 profile.maxFrameProtoBytes
  let timestampField :=
    if profile.timestamp then lengthDelimitedFieldLen 2 maxCanTimestampProtoBytes else 0
  let receivedFrame ← checkedAdd frameField timestampField
  let responsePayload ← checkedMul (lengthDelimitedFieldLen 1 receivedFrame) frameCount
  some (envelopeEncodedLen canReceiveResponseFieldNumber responsePayload)

/-- The checks of `receive` before it asks the runtime. -/
def checkReceiveBounds (maxFrames : ℕ) (profile : CanReceiveWireProfile)
    (limits : NegotiatedLimits) : HalResult Unit :=
  match checkedMul maxFrames profile.maxDataBytes with
  | none => .error (invalidMessage "CAN receive payload bound overflows usize")
  | some maximumPayload =>
    if maximumPayload > limits.maxReadBytes then
      .error (invalidMessage "CAN receive payload bound exceeds the negotiated read maximum")
    else
      match canReceiveResponseEnvelopeBound maxFrames profile with
      | none => .error (invalidMessage "CAN receive response bound overflows usize")
      | some maximumResponse =>
        if maximumResponse > limits.maxFrameBytes then
          .error (invalidMessage
            "CAN receive response bound exceeds the negotiated frame maximum")
        else .ok ()

def capabilityUnsupported (message : String) (resourceId : Option ResourceId) : HalError :=
  let e := HalError.new "runtime.protocol.capability_unsupported" .conflict
    "runtime.protocol.dispatch" false message
  resourceId.elim e e.withResourceId

def requireCapability (capabilities : CapabilitySet) (capability : String)
    (resourceId : ResourceId) : HalResult Unit :=
  if capability ∈ capabilities then .ok ()
  else
    .error (capabilityUnsupported
      ("selected CAN resource does not advertise " ++ capability) (some resourceId))

def frameCapability : CanFrame → String
  | .classicData .. | .classicRemote .. => canClassicCapability
  | .fdData .. => canFdCapability
  | .error .. => canErrorFramesCapability

def validateFrameCapabilities (capabilities : CapabilitySet) (resourceId : ResourceId) :
    List CanFrame → HalResult Unit
  | [] => .ok ()
  | frame :: frames =>
    (frame.validate.mapError fun e => e.withResourceId resourceId).bind fun _ =>
      (requireCapability capabilities (frameCapability frame) resourceId).bind fun _ =>
        validateFrameCapabilities capabilities resourceId frames

def validateReceivedCapabilities (capabilities : CapabilitySet) (resourceId : ResourceId)
    (profile : CanReceiveWireProfile) : List ReceivedCanFrame → HalResult Unit
  | [] => .ok ()
  | received :: frames =>
    if profile.mode = .classic ∧ received.frame.isFd then
      .error (capabilityUnsupported "Classical CAN session received a CAN FD frame"
        (some resourceId))
    else
      (validateFrameCapabilities capabilities resourceId [received.frame]).bind fun _ =>
        (if received.timestamp.isSome then
          requireCapability capabilities canRxTimestampCapability resourceId
        else .ok ()).bind fun _ =>
          validateReceivedCapabilities capabilities resourceId profile frames

end Broker

/-! ### The client's bound -/

namespace Client

/-- What `from_response` keeps of the descriptor and the configuration. -/
def sessionProfile (config : CanOpenConfig) (capabilities : Broker.CapabilitySet)
    (resourceId : ResourceId) (sessionId : SessionId) : CanSessionProfile where
  mode :=
    match config with
    | .attach expectation =>
      expectation.mode.getD (if canFdCapability ∈ capabilities then .fd else .classic)
    | .configure config => config.mode
  classicFrames := canClassicCapability ∈ capabilities
  fdFrames := canFdCapability ∈ capabilities
  errorFrames := canErrorFramesCapability ∈ capabilities
  timestamps := canRxTimestampCapability ∈ capabilities
  resourceId
  sessionId

/-- The largest extended identifier. -/
def sampleId : V1.CanId where
  value := 0x1fffffff
  format := Enumeration.number V1.CanIdFormat.extended

def fdSample : V1.CanFrame where
  id := some sampleId
  kind := Enumeration.number V1.CanFrameKind.fdData
  data := List.replicate maxFdDataBytes 0
  bitrateSwitch := true
  errorStateIndicator := true

def errorSample : V1.CanFrame where
  kind := Enumeration.number V1.CanFrameKind.error
  data := List.replicate maxClassicDataBytes 0
  errorClasses := (List.range maxCanErrorClasses).map fun i => (i : ℤ) + 1

def classicSample : V1.CanFrame where
  id := some sampleId
  kind := Enumeration.number V1.CanFrameKind.classicData
  data := List.replicate maxClassicDataBytes 0

def frameSample (profile : CanSessionProfile) : V1.CanFrame :=
  if profile.mode = .fd then fdSample
  else if profile.errorFrames ∧ errorSample.encode.length > classicSample.encode.length then
    errorSample
  else classicSample

def timestampSample : V1.CanTimestamp where
  timestampNs := 0xffffffffffffffff
  source := Enumeration.number V1.CanTimestampSource.hardware
  clockDomain := String.ofList (List.replicate 255 'x')

def maximumReceiveEnvelopeLen (maxFrames : ℕ) (profile : CanSessionProfile) : ℕ :=
  let received : V1.ReceivedCanFrame :=
    { frame := some (frameSample profile)
      timestamp := if profile.timestamps then some timestampSample else none }
  let response : V1.CanReceiveResponse := { frames := List.replicate maxFrames received }
  (V1.envelope 0xffffffffffffffff 57 response.encode).length

def canReceiveError (name message : String) (profile : CanSessionProfile) : HalError :=
  (HalError.new name .invalidArgument "can.receive" false message).withResourceId profile.resourceId

/-- The checks of `RemoteCanHandle::receive` before it sends. -/
def checkReceive (maxFrames : ℕ) (profile : CanSessionProfile) (limits : Limits) :
    HalResult Unit :=
  if ¬(1 ≤ maxFrames ∧ maxFrames ≤ maxCanBatchFrames) then
    .error (canReceiveError "runtime.argument.invalid" "CAN receive maximum must be 1..=64 frames"
      profile)
  else
    let maxDataBytes := if profile.mode = .fd then maxFdDataBytes else maxClassicDataBytes
    if (checkedMul maxFrames maxDataBytes).all fun bytes => bytes > limits.read then
      .error (canReceiveError "runtime.argument.invalid"
        "CAN receive payload bound exceeds the negotiated read maximum" profile)
    else if maximumReceiveEnvelopeLen maxFrames profile > limits.frame then
      .error (canReceiveError "runtime.protocol.frame_too_large"
        "CAN receive response bound exceeds the negotiated frame maximum" profile)
    else .ok ()

end Client

/-! ### The longest messages -/

lemma length_encode_canId (h : validateId id = .ok ()) : id.toProto.encode.length ≤ 8 := by
  have hvalue : id.value.toNat < 0x80 ^ 5 := by
    cases id with
    | standard v =>
      have := v.toNat_lt
      simp only [CanId.value, UInt16.toNat_toUInt32]
      omega
    | extended v =>
      simp only [validateId] at h
      split at h
      · rename_i hle
        have hle' : v.toNat ≤ 0x1fffffff := UInt32.le_iff_toNat_le.mp hle
        simp only [CanId.value]
        omega
      · cases h
  have hv : (varintField 1 id.value.toNat).length ≤ 6 := length_varintField_le (by decide) hvalue
  have hf : (enumField 2 id.toProto.format).length ≤ 2 := by
    apply length_enumField_le (by decide) <;> unfold CanId.toProto <;> dsimp only <;>
      split <;> decide
  rw [V1.CanId.encode, List.length_append]
  exact Nat.add_le_add hv hf

/-- The bytes a valid frame takes: the constants of the broker, by kind. -/
def protoBytes : CanFrame → ℕ
  | .classicData .. | .classicRemote .. => Broker.maxClassicCanFrameProtoBytes
  | .fdData .. => Broker.maxFdCanFrameProtoBytes
  | .error .. => Broker.maxErrorCanFrameProtoBytes

/-- What `validate` leaves of a frame's size. -/
def CanFrame.Bounded : CanFrame → Prop
  | .classicData id data => validateId id = .ok () ∧ data.length ≤ maxClassicDataBytes
  | .classicRemote id dlc => validateId id = .ok () ∧ dlc.toNat ≤ maxClassicDataBytes
  | .fdData id data _ _ => validateId id = .ok () ∧ data.length ≤ maxFdDataBytes
  | .error classes data =>
    classes.length ≤ maxCanErrorClasses ∧ data.length ≤ maxClassicDataBytes

lemma unless_eq_ok {bad : Prop} [Decidable bad] {e : HalError}
    (h : (if bad then throw e else pure () : HalResult Unit) = .ok ()) : ¬bad := by
  intro hbad
  rw [if_pos hbad] at h
  cases h

lemma CanFrame.bounded_of_validate (h : f.validate = .ok ()) : f.Bounded := by
  cases f with
  | classicData id data | classicRemote id dlc =>
    obtain ⟨_, hid, hlen⟩ := bind_eq_ok.mp h
    exact ⟨hid, Nat.not_lt.mp (unless_eq_ok hlen)⟩
  | fdData id data brs esi =>
    obtain ⟨_, hid, hlen⟩ := bind_eq_ok.mp h
    have hvalid : validFdDataLength data.length = true := by simpa using unless_eq_ok hlen
    refine ⟨hid, ?_⟩
    simp only [validFdDataLength, Bool.or_eq_true, decide_eq_true_eq, List.mem_cons,
      List.not_mem_nil, or_false] at hvalid
    unfold maxFdDataBytes
    omega
  | error classes data =>
    unfold CanFrame.validate at h
    dsimp only at h
    split at h
    · cases h
    rename_i hclasses
    simp only [Bool.or_eq_true, decide_eq_true_eq, not_or, Nat.not_lt] at hclasses
    exact ⟨hclasses.2, Nat.not_lt.mp (unless_eq_ok h)⟩

lemma length_kindField (k : V1.CanFrameKind) : (enumField 2 (Enumeration.number k)).length ≤ 2 := by
  cases k <;> decide +kernel

lemma length_dataField (hn : n < 0x80) (h : data.length ≤ n) : (bytesField 3 data).length ≤ n + 2 :=
  (length_bytesField_le h).trans_eq (delimitedLen_short (by decide) hn)

lemma length_idField (h : validateId id = .ok ()) :
    (messageField 1 (some id.toProto.encode)).length ≤ 10 := by
  have hle : ∀ m ∈ some id.toProto.encode, m.length ≤ 8 := by
    intro m hm
    cases hm
    exact length_encode_canId h
  exact (length_messageField_le hle).trans_eq (delimitedLen_short (by decide) (by decide))

lemma length_encode_frame (h : f.validate = .ok ()) : f.toProto.encode.length ≤ protoBytes f := by
  have hb := CanFrame.bounded_of_validate h
  -- the fields a kind does not set are left out
  have hnil : bytesField 3 [] = [] := rfl
  have hzero : varintField 4 (0 : UInt32).toNat = [] := rfl
  have hfalse : ∀ n, boolField n false = [] := fun _ => rfl
  have hno : packedField 7 [] = [] := rfl
  cases f with
  | classicData id data =>
    have hid := length_idField hb.1
    have hkind := length_kindField .classicData
    have hdata := length_dataField (by decide) hb.2
    simp only [CanFrame.toProto, V1.CanFrame.encode, Option.map_some, List.map_nil, hzero, hfalse,
      hno, List.append_nil, List.length_append, protoBytes, Broker.maxClassicCanFrameProtoBytes]
    unfold maxClassicDataBytes at hdata
    omega
  | classicRemote id dlc =>
    have hid := length_idField hb.1
    have hkind := length_kindField .classicRemote
    have hdlc : (varintField 4 dlc.toUInt32.toNat).length ≤ 2 := by
      apply length_varintField_le (k := 0) (by decide)
      have := hb.2
      rw [UInt8.toNat_toUInt32]
      unfold maxClassicDataBytes at this
      omega
    simp only [CanFrame.toProto, V1.CanFrame.encode, Option.map_some, List.map_nil, hnil, hfalse,
      hno, List.append_nil, List.length_append, protoBytes, Broker.maxClassicCanFrameProtoBytes]
    omega
  | fdData id data brs esi =>
    have hid := length_idField hb.1
    have hkind := length_kindField .fdData
    have hdata := length_dataField (by decide) hb.2
    have hbrs : (boolField 5 brs).length ≤ 2 := length_boolField_le (by decide) brs
    have hesi : (boolField 6 esi).length ≤ 2 := length_boolField_le (by decide) esi
    simp only [CanFrame.toProto, V1.CanFrame.encode, Option.map_some, List.map_nil, hzero,
      hno, List.append_nil, List.length_append, protoBytes, Broker.maxFdCanFrameProtoBytes]
    unfold maxFdDataBytes at hdata
    omega
  | error classes data =>
    have hkind := length_kindField .error
    have hdata := length_dataField (by decide) hb.2
    have hclasses : (packedField 7 ((classes.map fun x => Enumeration.number x.toProto).map
        fun c : ℤ => (c % 2 ^ 64).toNat)).length ≤ maxCanErrorClasses + 2 := by
      refine (length_packedField_le ?_ ?_).trans_eq (delimitedLen_short (by decide) (by decide))
      · intro v hv
        rw [List.map_map] at hv
        obtain ⟨x, -, rfl⟩ := List.mem_map.mp hv
        cases x <;> decide
      · rw [List.length_map, List.length_map]
        exact hb.1
    have hid : messageField 1 (none : Option (List UInt8)) = [] := rfl
    simp only [CanFrame.toProto, V1.CanFrame.encode, Option.map_none, hid, hzero, hfalse,
      List.append_nil, List.nil_append, List.length_append, protoBytes,
      Broker.maxErrorCanFrameProtoBytes]
    unfold maxClassicDataBytes at hdata
    omega

lemma length_encode_timestamp {t : CanTimestamp} (h : t.Built) :
    t.toProto.encode.length ≤ Broker.maxCanTimestampProtoBytes := by
  have hdomain : t.clockDomain.utf8ByteSize ≤ 255 := by
    unfold CanTimestamp.Built CanTimestamp.new at h
    split at h
    · cases h
    split at h
    · cases h
    · rename_i hle
      exact Nat.not_lt.mp hle
  have hns : (varintField 1 t.timestampNs.toNat).length ≤ 11 := by
    have := t.timestampNs.toNat_lt
    exact length_varintField_le (k := 9) (by decide) (by omega)
  have hsource : (enumField 2 (Enumeration.number t.source.toProto)).length ≤ 2 := by
    cases t.source <;> decide +kernel
  have hlen : delimitedLen 3 255 = 258 := by decide +kernel
  have hstring : (stringField 3 t.clockDomain).length ≤ 258 := hlen ▸ length_stringField_le hdomain
  simp only [CanTimestamp.toProto, V1.CanTimestamp.encode, List.length_append,
    Broker.maxCanTimestampProtoBytes]
  omega

namespace Broker

variable {capabilities : CapabilitySet} {resourceId : ResourceId} {config : CanOpenConfig}

/-! ### What the broker lets through -/

lemma requireCapability_eq_ok {capability : String} :
    requireCapability capabilities capability resourceId = .ok () ↔ capability ∈ capabilities := by
  unfold requireCapability
  split <;> simp_all

/-- What `validate_received_capabilities` has checked of a frame. -/
structure Received (capabilities : CapabilitySet) (profile : CanReceiveWireProfile)
    (x : ReceivedCanFrame) : Prop where
  mode : profile.mode = .classic → x.frame.isFd = false
  valid : x.frame.validate = .ok ()
  capability : frameCapability x.frame ∈ capabilities
  timestamp : x.timestamp.isSome → canRxTimestampCapability ∈ capabilities

lemma received_of_validate {profile : CanReceiveWireProfile}
    (h : validateReceivedCapabilities capabilities resourceId profile frames = .ok ()) :
    ∀ x ∈ frames, Received capabilities profile x := by
  induction frames with
  | nil => simp
  | cons received frames ih =>
    unfold validateReceivedCapabilities at h
    split at h
    · cases h
    rename_i hmode
    obtain ⟨_, hframe, h⟩ := bind_eq_ok.mp h
    obtain ⟨_, htimestamp, h⟩ := bind_eq_ok.mp h
    obtain ⟨_, hvalid, hframe⟩ := bind_eq_ok.mp hframe
    obtain ⟨_, hcapability, -⟩ := bind_eq_ok.mp hframe
    intro x hx
    rcases List.mem_cons.mp hx with rfl | hx
    · refine ⟨?_, mapError_eq_ok.mp hvalid, requireCapability_eq_ok.mp hcapability, ?_⟩
      · intro hclassic
        by_contra hfd
        exact hmode ⟨hclassic, by simpa using hfd⟩
      · intro hsome
        rw [if_pos hsome] at htimestamp
        exact requireCapability_eq_ok.mp htimestamp
    · exact ih h x hx

lemma modeFrameBytes_le (config : CanOpenConfig) (capabilities : CapabilitySet) :
    modeFrameBytes (sessionMode config capabilities)
      ≤ (receiveWireProfile config capabilities).maxFrameProtoBytes := by
  unfold receiveWireProfile
  dsimp only
  split
  · exact le_max_left _ _
  · exact le_rfl

/-- A frame that is let through is within the profile: an FD frame needs an FD session, an error
frame a resource that has them. -/
lemma protoBytes_le (h : Received capabilities (receiveWireProfile config capabilities) x) :
    protoBytes x.frame ≤ (receiveWireProfile config capabilities).maxFrameProtoBytes := by
  obtain ⟨frame, timestamp⟩ := x
  have hmode := modeFrameBytes_le config capabilities
  have hclassic :
      maxClassicCanFrameProtoBytes ≤ modeFrameBytes (sessionMode config capabilities) := by
    cases sessionMode config capabilities <;> decide
  cases frame with
  | classicData id data | classicRemote id dlc => exact hclassic.trans hmode
  | fdData id data brs esi =>
    cases hm : sessionMode config capabilities with
    | classic => exact absurd (h.mode hm) (by simp [CanFrame.isFd])
    | fd =>
      rw [hm] at hmode
      exact hmode
  | error classes data =>
    have hcapability : canErrorFramesCapability ∈ capabilities := h.capability
    simp only [receiveWireProfile, if_pos hcapability]
    exact le_max_right _ _

/-- The longest received frame of a profile. -/
def receivedLen (profile : CanReceiveWireProfile) : ℕ :=
  delimitedLen 1 profile.maxFrameProtoBytes
    + if profile.timestamp then delimitedLen 2 maxCanTimestampProtoBytes else 0

lemma length_encode_received (h : Received capabilities (receiveWireProfile config capabilities) x)
    (hbuilt : ∀ t ∈ x.timestamp, t.Built) :
    x.toProto.encode.length ≤ receivedLen (receiveWireProfile config capabilities) := by
  have hframe : (messageField 1 (some x.frame.toProto.encode)).length
      ≤ delimitedLen 1 (receiveWireProfile config capabilities).maxFrameProtoBytes := by
    apply length_messageField_le
    intro m hm
    cases hm
    exact (length_encode_frame h.valid).trans (protoBytes_le h)
  rw [receivedLen, ReceivedCanFrame.toProto, V1.ReceivedCanFrame.encode, List.length_append]
  apply Nat.add_le_add hframe
  cases ht : x.timestamp with
  | none => simp [messageField]
  | some t =>
    have hcapability : canRxTimestampCapability ∈ capabilities := h.timestamp (by rw [ht]; rfl)
    have hflag : (receiveWireProfile config capabilities).timestamp = true :=
      decide_eq_true hcapability
    rw [if_pos hflag]
    apply length_messageField_le
    intro m hm
    cases hm
    exact length_encode_timestamp (hbuilt t ht)

lemma receivedLen_le (config : CanOpenConfig) (capabilities : CapabilitySet) :
    receivedLen (receiveWireProfile config capabilities) ≤ 358 := by
  have hframe : (receiveWireProfile config capabilities).maxFrameProtoBytes ≤ 82 := by
    unfold receiveWireProfile
    dsimp only
    cases sessionMode config capabilities <;> split <;> decide
  have hfield := delimitedLen_mono 1 hframe
  have hmax : delimitedLen 1 82 = 84 := by decide +kernel
  have htimestamp : delimitedLen 2 maxCanTimestampProtoBytes = 274 := by decide +kernel
  unfold receivedLen
  split <;> omega

/-- Within the batch limit nothing overflows, and the bound is the length of so many of the
longest frames. -/
lemma canReceiveResponseEnvelopeBound_eq (hn : n ≤ maxCanBatchFrames) (config : CanOpenConfig)
    (capabilities : CapabilitySet) :
    canReceiveResponseEnvelopeBound n (receiveWireProfile config capabilities)
      = some (envelopeEncodedLen 57
          (delimitedLen 1 (receivedLen (receiveWireProfile config capabilities)) * n)) := by
  have hle := receivedLen_le config capabilities
  have hfield : delimitedLen 1 (receivedLen (receiveWireProfile config capabilities)) ≤ 361 :=
    (delimitedLen_mono 1 hle).trans_eq (by decide +kernel)
  have hprod := Nat.mul_le_mul hfield hn
  have hadd : checkedAdd
      (delimitedLen 1 (receiveWireProfile config capabilities).maxFrameProtoBytes)
      (if (receiveWireProfile config capabilities).timestamp then
        delimitedLen 2 maxCanTimestampProtoBytes else 0)
        = some (receivedLen (receiveWireProfile config capabilities)) :=
    checkedAdd_eq_some.mpr ⟨rfl, hle.trans (by decide)⟩
  have hmul : checkedMul (delimitedLen 1 (receivedLen (receiveWireProfile config capabilities))) n
      = some (delimitedLen 1 (receivedLen (receiveWireProfile config capabilities)) * n) :=
    checkedMul_eq_some.mpr ⟨rfl, hprod.trans (by decide)⟩
  simp only [canReceiveResponseEnvelopeBound, lengthDelimitedFieldLen_eq, hadd, hmul,
    Option.bind_eq_bind, Option.bind_some, canReceiveResponseFieldNumber]

/-- The response to a receive. -/
def canReceiveResponse (frames : List ReceivedCanFrame) : V1.CanReceiveResponse :=
  ⟨frames.map ReceivedCanFrame.toProto⟩

lemma length_encode_response (requestId : UInt64) (hlen : frames.length ≤ n)
    (hbuilt : ∀ x ∈ frames, ∀ t ∈ x.timestamp, t.Built)
    (h : validateReceivedCapabilities capabilities resourceId
      (receiveWireProfile config capabilities) frames = .ok ()) :
    (V1.envelope requestId 57 (canReceiveResponse frames).encode).length
      ≤ envelopeEncodedLen 57
          (delimitedLen 1 (receivedLen (receiveWireProfile config capabilities)) * n) := by
  have hreceived := received_of_validate h
  apply length_envelope_le
  rw [V1.CanReceiveResponse.encode, canReceiveResponse, List.map_map]
  have hframes : ∀ m ∈ frames.map (V1.ReceivedCanFrame.encode ∘ ReceivedCanFrame.toProto),
      m.length ≤ receivedLen (receiveWireProfile config capabilities) := by
    intro m hm
    obtain ⟨x, hx, rfl⟩ := List.mem_map.mp hm
    exact length_encode_received (hreceived x hx) (hbuilt x hx)
  refine (length_repeatedField_le hframes).trans ?_
  rw [List.length_map]
  exact Nat.mul_le_mul_left _ hlen

end Broker

namespace Client

variable (config : CanOpenConfig) (capabilities : Broker.CapabilitySet) (resourceId : ResourceId)
  (sessionId : SessionId)

lemma sessionProfile_mode :
    (sessionProfile config capabilities resourceId sessionId).mode
      = Broker.sessionMode config capabilities := by
  cases config <;> rfl

lemma length_frameSample :
    (frameSample (sessionProfile config capabilities resourceId sessionId)).encode.length
      = (Broker.receiveWireProfile config capabilities).maxFrameProtoBytes := by
  have hfd : fdSample.encode.length = 82 := by decide +kernel
  have herror : errorSample.encode.length = 24 := by decide +kernel
  have hclassic : classicSample.encode.length = 22 := by decide +kernel
  unfold frameSample Broker.receiveWireProfile
  rw [sessionProfile_mode, hclassic, herror]
  cases Broker.sessionMode config capabilities with
  | fd =>
    rw [if_pos rfl, hfd]
    split <;> rfl
  | classic =>
    rw [if_neg (by decide)]
    by_cases h : canErrorFramesCapability ∈ capabilities
    · have hflag : (sessionProfile config capabilities resourceId sessionId).errorFrames = true :=
        decide_eq_true h
      rw [if_pos ⟨hflag, by decide⟩, herror]
      simp only [if_pos h]
      rfl
    · have hflag : (sessionProfile config capabilities resourceId sessionId).errorFrames = false :=
        decide_eq_false h
      rw [if_neg (by rw [hflag]; simp), hclassic]
      simp only [if_neg h]
      rfl

/-- The samples of the client are the longest messages of the broker's profile. -/
lemma maximumReceiveEnvelopeLen_eq (n : ℕ) :
    maximumReceiveEnvelopeLen n (sessionProfile config capabilities resourceId sessionId)
      = Broker.envelopeEncodedLen 57 (delimitedLen 1
          (Broker.receivedLen (Broker.receiveWireProfile config capabilities)) * n) := by
  have htimestamp : timestampSample.encode.length = Broker.maxCanTimestampProtoBytes := by
    decide +kernel
  unfold maximumReceiveEnvelopeLen
  simp only
  rw [Broker.length_envelope_max, V1.CanReceiveResponse.encode, List.map_replicate,
    length_repeatedField_replicate, V1.ReceivedCanFrame.encode, List.length_append]
  have hframe := length_frameSample config capabilities resourceId sessionId
  have hreceived : (messageField 1 (some (frameSample
      (sessionProfile config capabilities resourceId sessionId)).encode)).length
        + (messageField 2 ((if (sessionProfile config capabilities resourceId sessionId).timestamps
          then some timestampSample else none).map V1.CanTimestamp.encode)).length
      = Broker.receivedLen (Broker.receiveWireProfile config capabilities) := by
    simp only [Broker.receivedLen, messageField, Option.elim_some, length_delimited, hframe,
      Nat.add_left_cancel_iff]
    by_cases h : canRxTimestampCapability ∈ capabilities
    · simp [sessionProfile, Broker.receiveWireProfile, h, htimestamp]
    · simp [sessionProfile, Broker.receiveWireProfile, h]
  rw [← hreceived]
  rfl

/-- A receive that the client lets out is let in by the broker. -/
lemma checkReceiveBounds_of_checkReceive {held : Limits} {limits : Broker.NegotiatedLimits}
    (hframe : held.frame = limits.maxFrameBytes) (hread : held.read = limits.maxReadBytes)
    (h : checkReceive n (sessionProfile config capabilities resourceId sessionId) held = .ok ()) :
    Broker.checkReceiveBounds n (Broker.receiveWireProfile config capabilities) limits
      = .ok () := by
  have hmode : (if (sessionProfile config capabilities resourceId sessionId).mode = .fd then
      maxFdDataBytes else maxClassicDataBytes)
        = (Broker.receiveWireProfile config capabilities).maxDataBytes := by
    rw [sessionProfile_mode]
    unfold Broker.receiveWireProfile
    cases Broker.sessionMode config capabilities <;> rfl
  unfold checkReceive at h
  split at h
  · cases h
  rename_i hn
  have hn' := (not_not.mp hn).2
  simp only [hmode, maximumReceiveEnvelopeLen_eq, hframe, hread] at h
  split at h
  · cases h
  rename_i hdata
  split at h
  · cases h
  rename_i hlen
  unfold Broker.checkReceiveBounds
  cases hmul : checkedMul n (Broker.receiveWireProfile config capabilities).maxDataBytes with
  | none => simp [hmul] at hdata
  | some payload =>
    rw [hmul] at hdata
    simp only [Option.all_some, decide_eq_true_eq] at hdata
    simp only [if_neg hdata, Broker.canReceiveResponseEnvelopeBound_eq hn' config capabilities,
      if_neg hlen]

end Client

/-! ### Serial -/

/-- What the runtime hands out: identifiers are UUIDs and generations count in 64 bits. -/
structure RuntimeIssued (session : SessionId) (lease : LeaseToken) : Prop where
  session_len : session.value.utf8ByteSize = Broker.runtimeUuidLen
  lease_len : lease.leaseId.value.utf8ByteSize = Broker.runtimeUuidLen
  generation_le : lease.generation ≤ u64Max

namespace Broker

lemma length_readResponse (requestId : UInt64) (h : data.length ≤ n) :
    (V1.envelope requestId 25 (V1.SerialReadResponse.mk data).encode).length
      ≤ readResponseEncodedLen n := by
  apply length_envelope_le
  rw [lengthDelimitedFieldLen_eq]
  exact length_bytesField_le h

lemma length_encode_lease (h : RuntimeIssued session lease) :
    lease.toProto.encode.length ≤ lengthDelimitedFieldLen 1 runtimeUuidLen + 1 + 10 + 1 + 1 := by
  have hid :
      (stringField 1 lease.leaseId.value).length ≤ lengthDelimitedFieldLen 1 runtimeUuidLen := by
    rw [lengthDelimitedFieldLen_eq]
    exact length_stringField_le h.lease_len.le
  have hgeneration : (varintField 2 lease.generation).length ≤ 11 := by
    have := h.generation_le
    unfold u64Max at this
    exact length_varintField_le (k := 9) (by decide) (by omega)
  have hmode : (enumField 3 (Enumeration.number lease.mode.toProto)).length ≤ 2 := by
    cases lease.mode <;> decide +kernel
  simp only [LeaseToken.toProto, V1.LeaseToken.encode, List.length_append]
  omega

lemma length_writeRequest (requestId : UInt64) (h : RuntimeIssued session lease)
    (hlen : data.length ≤ n) :
    (V1.envelope requestId 26
      (V1.SerialWriteRequest.mk session.value (some lease.toProto) data).encode).length
        ≤ writeRequestEncodedLen n := by
  apply length_envelope_le
  have hsession : (stringField 1 session.value).length ≤ delimitedLen 1 runtimeUuidLen :=
    length_stringField_le h.session_len.le
  have hlease : (messageField 2 (some lease.toProto.encode)).length
      ≤ delimitedLen 2 (lengthDelimitedFieldLen 1 runtimeUuidLen + 1 + 10 + 1 + 1) := by
    apply length_messageField_le
    intro m hm
    cases hm
    exact length_encode_lease h
  have hdata : (bytesField 3 data).length ≤ delimitedLen 3 n := length_bytesField_le hlen
  simp only [V1.SerialWriteRequest.encode, Option.map_some, List.length_append]
  rw [← lengthDelimitedFieldLen_eq] at hsession hlease hdata
  omega

end Broker

/-! ### Sizes -/

/-- No response outgrows the bound that was computed for it: the broker's bound covers every
list of frames it lets through, the client computes the same bound, so that the broker refuses
nothing the client let out, and the serial messages fit any limits that were agreed on. -/
theorem response_sizes_bounded :
    (∀ (config : CanOpenConfig) (capabilities : Broker.CapabilitySet) (resourceId : ResourceId)
        (requestId : UInt64) (n : ℕ) (frames : List ReceivedCanFrame),
        n ≤ maxCanBatchFrames → frames.length ≤ n →
        (∀ x ∈ frames, ∀ t ∈ x.timestamp, t.Built) →
        Broker.validateReceivedCapabilities capabilities resourceId
          (Broker.receiveWireProfile config capabilities) frames = .ok () →
        ∃ bound,
          Broker.canReceiveResponseEnvelopeBound n (Broker.receiveWireProfile config capabilities)
            = some bound
          ∧ (V1.envelope requestId 57 (Broker.canReceiveResponse frames).encode).length ≤ bound)
    ∧ (∀ (config : CanOpenConfig) (capabilities : Broker.CapabilitySet) (resourceId : ResourceId)
        (sessionId : SessionId) (n : ℕ), n ≤ maxCanBatchFrames →
        Broker.canReceiveResponseEnvelopeBound n (Broker.receiveWireProfile config capabilities)
          = some (Client.maximumReceiveEnvelopeLen n
              (Client.sessionProfile config capabilities resourceId sessionId)))
    ∧ (∀ (config : CanOpenConfig) (capabilities : Broker.CapabilitySet) (resourceId : ResourceId)
        (sessionId : SessionId) (n : ℕ) (held : Client.Limits) (limits : Broker.NegotiatedLimits),
        held.frame = limits.maxFrameBytes → held.read = limits.maxReadBytes →
        Client.checkReceive n (Client.sessionProfile config capabilities resourceId sessionId) held
          = .ok () →
        Broker.checkReceiveBounds n (Broker.receiveWireProfile config capabilities) limits
          = .ok ())
    ∧ ∀ (token : Broker.StartupToken) (request : V1.HandshakeRequest)
        (response : V1.HandshakeResponse) (limits : Broker.NegotiatedLimits),
        Broker.validateHandshake token request = .ok (response, limits) →
        (∀ (requestId : UInt64) (data : List UInt8), data.length ≤ limits.maxReadBytes →
          (V1.envelope requestId 25 (V1.SerialReadResponse.mk data).encode).length
            ≤ limits.maxFrameBytes)
        ∧ ∀ (requestId : UInt64) (session : SessionId) (lease : LeaseToken) (data : List UInt8),
          RuntimeIssued session lease → data.length ≤ limits.maxWriteBytes →
          (V1.envelope requestId 26
            (V1.SerialWriteRequest.mk session.value (some lease.toProto) data).encode).length
              ≤ limits.maxFrameBytes := by
  refine ⟨?_, ?_, ?_, ?_⟩
  · intro config capabilities resourceId requestId n frames hn hlen hbuilt h
    exact ⟨_, Broker.canReceiveResponseEnvelopeBound_eq hn config capabilities,
      Broker.length_encode_response requestId hlen hbuilt h⟩
  · intro config capabilities resourceId sessionId n hn
    rw [Client.maximumReceiveEnvelopeLen_eq]
    exact Broker.canReceiveResponseEnvelopeBound_eq hn config capabilities
  · intro config capabilities resourceId sessionId n held limits hframe hread h
    exact Client.checkReceiveBounds_of_checkReceive config capabilities resourceId sessionId hframe
      hread h
  · intro token request response limits h
    obtain ⟨minor, haccepts, heq⟩ := Broker.validateHandshake_eq_ok.mp h
    obtain ⟨rfl, rfl⟩ := Prod.mk.inj heq
    constructor
    · intro requestId data hdata
      exact (Broker.length_readResponse requestId hdata).trans haccepts.read_fits
    · intro requestId session lease data hissued hdata
      exact (Broker.length_writeRequest requestId hissued hdata).trans haccepts.write_fits

theorem response_sizes_bounded_one_frame :
    (∃ bound,
      Broker.canReceiveResponseEnvelopeBound 1
        (Broker.receiveWireProfile (.attach {}) [canClassicCapability]) = some bound
      ∧ (V1.envelope 7 57 (Broker.canReceiveResponse
          [⟨.classicData (.standard 5) [1, 2, 3], none⟩]).encode).length ≤ bound)
    ∧ Broker.checkReceiveBounds 1 (Broker.receiveWireProfile (.attach {}) [canClassicCapability])
        ⟨3, 512, 16, 16⟩ = .ok ()
    ∧ (V1.envelope 7 25 (V1.SerialReadResponse.mk (List.replicate 16 0)).encode).length ≤ 512 := by
  have hexec : ∃ x ∈ (Broker.validateHandshake ⟨List.replicate 32 7, rfl⟩
      (Client.handshakeRequest (List.replicate 32 7) ⟨3, 512, 16, 16⟩)).toOption,
        x.2 = ⟨3, 512, 16, 16⟩ := by decide +kernel
  obtain ⟨⟨response, limits⟩, hx, rfl⟩ := hexec
  refine ⟨?_, ?_, ?_⟩
  · exact response_sizes_bounded.1 (.attach {}) [canClassicCapability] ⟨"can0"⟩ 7 1 _ (by decide)
      (by decide) (by simp) rfl
  · exact response_sizes_bounded.2.2.1 (.attach {}) [canClassicCapability] ⟨"can0"⟩ ⟨"s"⟩ 1
      ⟨3, 512, 16, 16⟩ _ rfl rfl
        (ok_of_toOption (by decide +kernel : () ∈ (Client.checkReceive 1 (Client.sessionProfile
          (.attach {}) [canClassicCapability] ⟨"can0"⟩ ⟨"s"⟩) ⟨3, 512, 16, 16⟩).toOption))
  · exact (response_sizes_bounded.2.2.2 _ _ _ _ (ok_of_toOption hx)).1 7 _ (by decide)

end RobotHal
