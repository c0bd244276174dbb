import RobotHal.Client
import RobotHal.ProtoWire

/-!
# The handshake

The client offers an inclusive range of protocol minors and three byte limits; the broker picks
the greatest minor both support, checks the limits against the longest serial messages and
answers; the client checks the answer again before it adopts it. Peers that predate ranges
leave both bounds zero and offer exactly the minor of the legacy field.

The names of what is supported are left as the lists of strings that travel. Of the limits a
client keeps, the flags it derives from those strings are not part of the model.
-/

namespace RobotHal

open Proto

def protocolMajor : UInt32 := 1
def protocolMinorMinimum : UInt32 := 0
def protocolMinorMaximum : UInt32 := 3
def protocolMinor : UInt32 := protocolMinorMaximum
def serialCapability : String := "serial.bytes/v1"
def canClassicCapability : String := "can.classic/v1"
def canFdCapability : String := "can.fd/v1"
def canConfigureCapability : String := "can.configure/v1"
def canErrorFramesCapability : String := "can.error-frames/v1"
def canRxTimestampCapability : String := "can.rx-timestamp/v1"
def usbControlCapability : String := "usb.control/v1"
def usbBulkCapability : String := "usb.bulk/v1"
def usbInterruptCapability : String := "usb.interrupt/v1"
def gpioLinesCapability : String := "gpio.lines/v1"
def gpioEdgesCapability : String := "gpio.edges/v1"
def cameraCaptureCapability : String := "camera.capture/v1"
def cameraFramesShmCapability : String := "camera.frames.shm/v1"
def cameraControlsCapability : String := "camera.controls/v1"
def maxFrameBytes : ℕ := 1024 * 1024

namespace V1

structure HandshakeRequest where
  startupToken : List UInt8
  protocolMajor : UInt32
  protocolMinor : UInt32
  requiredCapabilities : List String
  maxFrameBytes : UInt32
  maxReadBytes : UInt32
  maxWriteBytes : UInt32
  protocolMinorMinimum : UInt32
  protocolMinorMaximum : UInt32
deriving DecidableEq

structure HandshakeResponse where
  protocolMajor : UInt32
  protocolMinor : UInt32
  capabilities : List String
  maxFrameBytes : UInt32
  maxReadBytes : UInt32
  maxWriteBytes : UInt32
  protocolMinorMinimum : UInt32
  protocolMinorMaximum : UInt32
deriving DecidableEq

def HandshakeResponse.encode (m : HandshakeResponse) : List UInt8 :=
  varintField 1 m.protocolMajor.toNat ++ varintField 2 m.protocolMinor.toNat
    ++ repeatedField 3 (m.capabilities.map utf8)
    ++ varintField 4 m.maxFrameBytes.toNat ++ varintField 5 m.maxReadBytes.toNat
    ++ varintField 6 m.maxWriteBytes.toNat
    ++ varintField 7 m.protocolMinorMinimum.toNat ++ varintField 8 m.protocolMinorMaximum.toNat

/-- The bytes of an envelope whose payload has the given field number and bytes. -/
def envelope (requestId : UInt64) (number : ℕ) (payload : List UInt8) : List UInt8 :=
  varintField 1 requestId.toNat ++ delimited number payload

end V1

/-! ### Minors -/

def handshakeMinorRange (request : V1.HandshakeRequest) : HalResult (UInt32 × UInt32) :=
  if request.protocolMinorMinimum = 0 ∧ request.protocolMinorMaximum = 0 then
    .ok (request.protocolMinor, request.protocolMinor)
  else if request.protocolMinorMinimum > request.protocolMinorMaximum
      ∨ request.protocolMinor ≠ request.protocolMinorMaximum then
    .error (invalidMessage
      "protocol minor range is invalid or conflicts with legacy protocol_minor")
  else .ok (request.protocolMinorMinimum, request.protocolMinorMaximum)

def handshakeResponseMinorRange (response : V1.HandshakeResponse) :
    HalResult (UInt32 × UInt32) :=
  if response.protocolMinorMinimum = 0 ∧ response.protocolMinorMaximum = 0 then
    .ok (response.protocolMinor, response.protocolMinor)
  else if response.protocolMinorMinimum > response.protocolMinorMaximum
      ∨ response.protocolMinor < response.protocolMinorMinimum
      ∨ response.protocolMinor > response.protocolMinorMaximum then
    .error (invalidMessage "broker protocol minor range does not contain the selected minor")
  else .ok (response.protocolMinorMinimum, response.protocolMinorMaximum)

def negotiateProtocolMinor (clientMajor clientMinimum clientMaximum brokerMajor brokerMinimum
    brokerMaximum : UInt32) : HalResult UInt32 :=
  if clientMinimum > clientMaximum ∨ brokerMinimum > brokerMaximum then
    .error (invalidMessage "protocol minor range minimum exceeds maximum")
  else
    let sharedMinimum := max clientMinimum brokerMinimum
    let sharedMaximum := min clientMaximum brokerMaximum
    if clientMajor ≠ brokerMajor ∨ sharedMinimum > sharedMaximum then
      .error (HalError.new "runtime.protocol.version_incompatible" .conflict
        "runtime.protocol.handshake" false
        "client and broker protocol version ranges do not overlap")
    else .ok sharedMaximum

/-- What a broker of the given version makes of a request: the first part of its validation. -/
def negotiate (request : V1.HandshakeRequest) (brokerMajor brokerMinimum brokerMaximum : UInt32) :
    HalResult UInt32 :=
  (handshakeMinorRange request).bind fun client =>
    negotiateProtocolMinor request.protocolMajor client.1 client.2 brokerMajor brokerMinimum
      brokerMaximum

/-- A minor of the inclusive range from `lo` to `hi`. -/
def InRange (m lo hi : UInt32) : Prop := lo ≤ m ∧ m ≤ hi

instance (m lo hi : UInt32) : Decidable (InRange m lo hi) :=
  inferInstanceAs (Decidable (lo ≤ m ∧ m ≤ hi))

/-- The inclusive range that a request offers. Range-aware clients repeat their maximum in the
legacy field; a request with both bounds zero offers the minor of the legacy field alone. -/
inductive Offers (request : V1.HandshakeRequest) : UInt32 → UInt32 → Prop
  | ranged : request.protocolMinor = request.protocolMinorMaximum →
      Offers request request.protocolMinorMinimum request.protocolMinorMaximum
  | legacy : request.protocolMinorMinimum = 0 → request.protocolMinorMaximum = 0 →
      Offers request request.protocolMinor request.protocolMinor

variable {request : V1.HandshakeRequest} {lo hi m lo' hi' : UInt32}

lemma handshakeMinorRange_eq_ok (h : Offers request lo hi) {r : UInt32 × UInt32} :
    handshakeMinorRange request = .ok r ↔ lo ≤ hi ∧ r = (lo, hi) := by
  unfold handshakeMinorRange
  cases h with
  | ranged heq =>
    by_cases hzero : request.protocolMinorMinimum = 0 ∧ request.protocolMinorMaximum = 0
    · rw [if_pos hzero, heq, hzero.1, hzero.2]
      simp [eq_comm]
    · rw [if_neg hzero]
      by_cases hlt : request.protocolMinorMinimum > request.protocolMinorMaximum
      · rw [if_pos (.inl hlt)]
        simp [UInt32.not_le.mpr hlt]
      · have hle := UInt32.not_lt.mp hlt
        rw [if_neg (not_or.mpr ⟨hlt, not_not.mpr heq⟩)]
        simp [hle, eq_comm]
  | legacy hmin hmax =>
    rw [if_pos ⟨hmin, hmax⟩]
    simp [eq_comm]

lemma uint32_max_le {a b : UInt32} : max a b ≤ m ↔ a ≤ m ∧ b ≤ m := by
  have hdef : max a b = if a ≤ b then b else a := rfl
  rw [hdef]
  simp only [UInt32.le_iff_toNat_le]
  split <;> omega

/-- The greatest minor of two ranges. -/
structure Shared (m lo hi lo' hi' : UInt32) : Prop where
  left : InRange m lo hi
  right : InRange m lo' hi'
  greatest : ∀ n, InRange n lo hi → InRange n lo' hi' → n ≤ m

lemma Shared.swap (h : Shared m lo hi lo' hi') :
    Shared m lo' hi' lo hi := ⟨h.right, h.left, fun n hn hn' => h.greatest n hn' hn⟩

lemma Shared.eq_min (h : Shared m lo hi lo' hi') : m = min hi hi' := by
  have hle : m ≤ min hi hi' := Std.le_min_iff.mpr ⟨h.left.2, h.right.2⟩
  have hge : min hi hi' ≤ m := by
    apply h.greatest
    · exact ⟨UInt32.le_trans h.left.1 hle, Std.min_le_left⟩
    · exact ⟨UInt32.le_trans h.right.1 hle, Std.min_le_right⟩
  exact UInt32.le_antisymm hle hge

lemma shared_min (hle : max lo lo' ≤ min hi hi') :
    Shared (min hi hi') lo hi lo' hi' where
  left := ⟨(uint32_max_le.mp hle).1, Std.min_le_left⟩
  right := ⟨(uint32_max_le.mp hle).2, Std.min_le_right⟩
  greatest _ hn hn' := Std.le_min_iff.mpr ⟨hn.2, hn'.2⟩

lemma negotiateProtocolMinor_eq_ok {major major' : UInt32} :
    negotiateProtocolMinor major lo hi major' lo' hi' = .ok m
      ↔ major = major' ∧ Shared m lo hi lo' hi' := by
  unfold negotiateProtocolMinor
  constructor
  · intro h
    split at h
    · cases h
    simp only at h
    split at h
    · cases h
    rename_i hshared
    obtain ⟨hmajor, hle⟩ := not_or.mp hshared
    obtain rfl := Except.ok.inj h
    exact ⟨not_not.mp hmajor, shared_min (UInt32.not_lt.mp hle)⟩
  · rintro ⟨rfl, h⟩
    have hle : lo ≤ hi := UInt32.le_trans h.left.1 h.left.2
    have hle' : lo' ≤ hi' := UInt32.le_trans h.right.1 h.right.2
    have hmax : max lo lo' ≤ min hi hi' := by
      rw [← h.eq_min]
      exact uint32_max_le.mpr ⟨h.left.1, h.right.1⟩
    rw [if_neg (not_or.mpr ⟨UInt32.not_lt.mpr hle, UInt32.not_lt.mpr hle'⟩)]
    simp only
    rw [if_neg (not_or.mpr ⟨not_not.mpr rfl, UInt32.not_lt.mpr hmax⟩), h.eq_min]

/-- A request is taken at the greatest minor that its range shares with the broker's. -/
lemma negotiate_eq_ok (h : Offers request lo hi) {major : UInt32} :
    negotiate request major lo' hi' = .ok m
      ↔ request.protocolMajor = major ∧ Shared m lo hi lo' hi' := by
  unfold negotiate
  rw [bind_eq_ok]
  constructor
  · rintro ⟨r, hr, hm⟩
    obtain ⟨-, rfl⟩ := (handshakeMinorRange_eq_ok h).mp hr
    exact negotiateProtocolMinor_eq_ok.mp hm
  · rintro ⟨hmajor, hm⟩
    have hle : lo ≤ hi := UInt32.le_trans hm.left.1 hm.left.2
    exact ⟨(lo, hi), (handshakeMinorRange_eq_ok h).mpr ⟨hle, rfl⟩,
      negotiateProtocolMinor_eq_ok.mpr ⟨hmajor, hm⟩⟩

lemma exists_shared {n : UInt32} (h : InRange n lo hi) (h' : InRange n lo' hi') :
    ∃ m, Shared m lo hi lo' hi' := by
  refine ⟨min hi hi', shared_min ?_⟩
  exact UInt32.le_trans (uint32_max_le.mpr ⟨h.1, h'.1⟩) (Std.le_min_iff.mpr ⟨h.2, h'.2⟩)

/-! ### The broker -/

namespace Broker

/-- The thirty-two bytes that a client has to present. -/
structure StartupToken where
  bytes : List UInt8
  length_eq : bytes.length = 32

def StartupToken.authenticates (token : StartupToken) (presented : List UInt8) : Bool :=
  presented.length = token.bytes.length && presented = token.bytes

def protocolError (name operation : String) (category : ErrorCategory) (retryable : Bool)
    (debugMessage : String) : HalError :=
  HalError.new name category operation retryable debugMessage

def canWireMinor : UInt32 := 1
def usbGpioWireMinor : UInt32 := 2
def cameraWireMinor : UInt32 := 3

def CanDispatch.brokerCapabilities (protocolMinor : UInt32) : List String :=
  serialCapability ::
    if protocolMinor ≥ canWireMinor then
      [canClassicCapability, canFdCapability, canConfigureCapability, canErrorFramesCapability,
        canRxTimestampCapability]
    else []

def UsbGpioDispatch.brokerCapabilities (protocolMinor : UInt32) : List String :=
  if protocolMinor < usbGpioWireMinor then []
  else [usbControlCapability, usbBulkCapability, usbInterruptCapability, gpioLinesCapability,
    gpioEdgesCapability]

def CameraDispatch.brokerCapabilities (protocolMinor : UInt32) : List String :=
  if protocolMinor < cameraWireMinor then []
  else [cameraCaptureCapability, cameraFramesShmCapability, cameraControlsCapability]

def capabilities (protocolMinor : UInt32) : List String :=
  CanDispatch.brokerCapabilities protocolMinor ++ UsbGpioDispatch.brokerCapabilities protocolMinor
    ++ CameraDispatch.brokerCapabilities protocolMinor

def prostVarintLen (value : ℕ) : ℕ :=
  if value < 0x80 then 1 else prostVarintLen (value >>> 7) + 1
decreasing_by
  rw [Nat.shiftRight_eq_div_pow]
  omega

def lengthDelimitedFieldLen (fieldNumber valueLen : ℕ) : ℕ :=
  prostVarintLen (fieldNumber <<< 3 ||| 2) + prostVarintLen valueLen + valueLen

/-- The length with the largest request identifier. -/
def envelopeEncodedLen (payloadFieldNumber payloadLen : ℕ) : ℕ :=
  1 + 10 + prostVarintLen (payloadFieldNumber <<< 3 ||| 2) + prostVarintLen payloadLen + payloadLen

def readResponseEncodedLen (dataLen : ℕ) : ℕ :=
  envelopeEncodedLen 25 (lengthDelimitedFieldLen 1 dataLen)

def runtimeUuidLen : ℕ := 36

def writeRequestEncodedLen (dataLen : ℕ) : ℕ :=
  let sessionId := lengthDelimitedFieldLen 1 runtimeUuidLen
  let leaseInner := lengthDelimitedFieldLen 1 runtimeUuidLen + 1 + 10 + 1 + 1
  let lease := lengthDelimitedFieldLen 2 leaseInner
  let data := lengthDelimitedFieldLen 3 dataLen
  envelopeEncodedLen 26 (sessionId + lease + data)

structure NegotiatedLimits where
  protocolMinor : UInt32
  maxFrameBytes : ℕ
  maxReadBytes : ℕ
  maxWriteBytes : ℕ
deriving DecidableEq

def handshakeResponse (request : V1.HandshakeRequest) (selectedMinor : UInt32) :
    V1.HandshakeResponse where
  protocolMajor := protocolMajor
  protocolMinor := selectedMinor
  capabilities := capabilities selectedMinor
  maxFrameBytes := request.maxFrameBytes
  maxReadBytes := request.maxReadBytes
  maxWriteBytes := request.maxWriteBytes
  protocolMinorMinimum := protocolMinorMinimum
  protocolMinorMaximum := protocolMinorMaximum

def negotiatedLimits (request : V1.HandshakeRequest) (selectedMinor : UInt32) :
    NegotiatedLimits where
  protocolMinor := selectedMinor
  maxFrameBytes := request.maxFrameBytes.toNat
  maxReadBytes := request.maxReadBytes.toNat
  maxWriteBytes := request.maxWriteBytes.toNat

def validateHandshake (expectedToken : StartupToken) (request : V1.HandshakeRequest) :
    HalResult (V1.HandshakeResponse × NegotiatedLimits) :=
  if !expectedToken.authenticates request.startupToken then
    .error (protocolError "runtime.protocol.authentication_failed" "runtime.protocol.handshake"
      .conflict false "startup token did not authenticate the connection")
  else
    (negotiate request protocolMajor protocolMinorMinimum protocolMinorMaximum).bind
      fun selectedMinor =>
        if request.requiredCapabilities.any fun c => c ∉ capabilities selectedMinor then
          .error (protocolError "runtime.protocol.unsupported_capability"
            "runtime.protocol.handshake" .conflict false "a required capability is not supported")
        else
          let limits := negotiatedLimits request selectedMinor
          if limits.maxFrameBytes = 0 ∨ limits.maxFrameBytes > maxFrameBytes
              ∨ limits.maxReadBytes = 0 ∨ limits.maxWriteBytes = 0
              ∨ readResponseEncodedLen limits.maxReadBytes > limits.maxFrameBytes
              ∨ writeRequestEncodedLen limits.maxWriteBytes > limits.maxFrameBytes then
            .error (invalidMessage "negotiated frame/read/write byte limits are invalid")
          else
            let response := handshakeResponse request selectedMinor
            if (V1.envelope 0xffffffffffffffff 11 response.encode).length >
                limits.maxFrameBytes then
              .error (invalidMessage
                "negotiated frame limit cannot contain the handshake response")
            else .ok (response, limits)

/-- What a request that is accepted satisfies, with the minor it is accepted at. -/
structure Accepts (token : StartupToken) (request : V1.HandshakeRequest) (minor : UInt32) :
    Prop where
  authentic : request.startupToken = token.bytes
  selected : negotiate request protocolMajor protocolMinorMinimum protocolMinorMaximum = .ok minor
  supported : ∀ c ∈ request.requiredCapabilities, c ∈ capabilities minor
  frame_pos : 0 < request.maxFrameBytes.toNat
  frame_le : request.maxFrameBytes.toNat ≤ maxFrameBytes
  read_pos : 0 < request.maxReadBytes.toNat
  write_pos : 0 < request.maxWriteBytes.toNat
  read_fits : readResponseEncodedLen request.maxReadBytes.toNat ≤ request.maxFrameBytes.toNat
  write_fits : writeRequestEncodedLen request.maxWriteBytes.toNat ≤ request.maxFrameBytes.toNat
  response_fits :
    (V1.envelope 0xffffffffffffffff 11 (handshakeResponse request minor).encode).length
    ≤ request.maxFrameBytes.toNat

lemma StartupToken.authenticates_iff {token : StartupToken} {presented : List UInt8} :
    token.authenticates presented = true ↔ presented = token.bytes := by
  simp only [authenticates, Bool.and_eq_true, decide_eq_true_eq, and_iff_right_iff_imp]
  exact congrArg List.length

lemma validateHandshake_eq_ok {token : StartupToken} {r : V1.HandshakeResponse × NegotiatedLimits} :
    validateHandshake token request = .ok r ↔ ∃ minor, Accepts token request minor
      ∧ r = (handshakeResponse request minor, negotiatedLimits request minor) := by
  unfold validateHandshake
  constructor
  · intro h
    split at h
    · cases h
    rename_i htoken
    rw [Bool.not_eq_true', Bool.not_eq_false, StartupToken.authenticates_iff] at htoken
    obtain ⟨minor, hminor, h⟩ := bind_eq_ok.mp h
    split at h
    · cases h
    rename_i hcaps
    simp only at h
    split at h
    · cases h
    rename_i hlimits
    split at h
    · cases h
    rename_i hfits
    simp only [List.any_eq_true, decide_eq_true_eq, not_exists, not_and, not_not] at hcaps
    simp only [negotiatedLimits, not_or, gt_iff_lt, Nat.not_lt] at hlimits
    obtain ⟨hframe, hmax, hread, hwrite, hreads, hwrites⟩ := hlimits
    exact ⟨minor, ⟨htoken, hminor, hcaps, Nat.pos_of_ne_zero hframe, hmax,
      Nat.pos_of_ne_zero hread, Nat.pos_of_ne_zero hwrite, hreads, hwrites,
      Nat.not_lt.mp hfits⟩, (Except.ok.inj h).symm⟩
  · rintro ⟨minor, h, rfl⟩
    have htoken : (!token.authenticates request.startupToken) = false := by
      rw [Bool.not_eq_false']
      exact StartupToken.authenticates_iff.mpr h.authentic
    have hfits : ¬(V1.envelope 0xffffffffffffffff 11
        (handshakeResponse request minor).encode).length
          > (negotiatedLimits request minor).maxFrameBytes := Nat.not_lt.mpr h.response_fits
    rw [htoken, if_neg Bool.false_ne_true, h.selected]
    simp only [Except.bind]
    rw [if_neg (by simpa using h.supported), if_neg, if_neg hfits]
    simp only [negotiatedLimits, not_or, gt_iff_lt, Nat.not_lt]
    exact ⟨h.frame_pos.ne', h.frame_le, h.read_pos.ne', h.write_pos.ne', h.read_fits,
      h.write_fits⟩

lemma prostVarintLen_eq (n : ℕ) : prostVarintLen n = (varint n).length := by
  induction n using Nat.strong_induction_on with
  | _ n ih =>
    rw [prostVarintLen]
    by_cases h : n < 0x80
    · rw [if_pos h, length_varint_small h]
    · have hdiv : n >>> 7 = n / 0x80 := Nat.shiftRight_eq_div_pow n 7
      rw [if_neg h, hdiv, ih (n / 0x80) (by omega), length_varint_large h]

lemma lengthDelimitedFieldLen_eq (number len : ℕ) :
    lengthDelimitedFieldLen number len = delimitedLen number len := by
  simp only [lengthDelimitedFieldLen, prostVarintLen_eq, delimitedLen, key]

lemma envelopeEncodedLen_eq (number len : ℕ) :
    envelopeEncodedLen number len = 11 + delimitedLen number len := by
  simp only [envelopeEncodedLen, prostVarintLen_eq, delimitedLen, key]
  omega

lemma length_envelope_le (requestId : UInt64) {number n : ℕ} {payload : List UInt8}
    (h : payload.length ≤ n) :
    (V1.envelope requestId number payload).length ≤ envelopeEncodedLen number n := by
  have hid : (varintField 1 requestId.toNat).length ≤ 1 + 10 := by
    have hlt := requestId.toNat_lt
    exact length_varintField_le (k := 9) (by decide) (by omega)
  rw [envelopeEncodedLen_eq, V1.envelope, List.length_append, length_delimited]
  have := delimitedLen_mono number h
  omega

lemma length_envelope_max (number : ℕ) (payload : List UInt8) :
    (V1.envelope 0xffffffffffffffff number payload).length
      = envelopeEncodedLen number payload.length := by
  have hid : (varintField 1 (0xffffffffffffffff : UInt64).toNat).length = 11 := by decide +kernel
  rw [envelopeEncodedLen_eq, V1.envelope, List.length_append, length_delimited, hid]

end Broker

/-! ### The client -/

namespace Client

structure Limits where
  protocolMinor : UInt32
  frame : ℕ
  read : ℕ
  write : ℕ
deriving DecidableEq

/-- The request of `perform_handshake`; the limits are cast to 32 bits. -/
def handshakeRequest (startupToken : List UInt8) (requested : Limits) : V1.HandshakeRequest where
  startupToken := startupToken
  protocolMajor := protocolMajor
  protocolMinor := protocolMinor
  requiredCapabilities := [serialCapability]
  maxFrameBytes := UInt32.ofNat requested.frame
  maxReadBytes := UInt32.ofNat requested.read
  maxWriteBytes := UInt32.ofNat requested.write
  protocolMinorMinimum := protocolMinorMinimum
  protocolMinorMaximum := protocolMinorMaximum

def invalidHandshake (message : String) : HalError :=
  clientError "runtime.protocol.invalid_handshake" .conflict "runtime.protocol.handshake" false
    message

def validateHandshakeResponse (response : V1.HandshakeResponse) (requested : Limits) :
    HalResult Unit :=
  ((handshakeResponseMinorRange response).mapError fun _ =>
    invalidHandshake "broker returned an invalid supported protocol minor range").bind
      fun brokerRange =>
        if response.protocolMajor ≠ protocolMajor
            ∨ ¬(protocolMinorMinimum ≤ response.protocolMinor
              ∧ response.protocolMinor ≤ protocolMinorMaximum)
            ∨ ¬(brokerRange.1 ≤ response.protocolMinor ∧ response.protocolMinor ≤ brokerRange.2)
            ∨ response.maxFrameBytes = 0 ∨ response.maxFrameBytes.toNat > requested.frame
            ∨ response.maxReadBytes = 0 ∨ response.maxReadBytes.toNat > requested.read
            ∨ response.maxWriteBytes = 0 ∨ response.maxWriteBytes.toNat > requested.write
            ∨ serialCapability ∉ response.capabilities then
          .error (invalidHandshake "broker returned invalid negotiated settings")
        else .ok ()

/-- The end of `perform_handshake`: a response that arrives under request identifier one is
checked against the offered frame limit and the offer, and its settings are adopted. -/
def adoptResponse (requested : Limits) (response : V1.HandshakeResponse) : HalResult Limits :=
  let frame := V1.envelope 1 11 response.encode
  if frame.length > requested.frame ∨ frame.length > maxFrameBytes then
    .error (frameTooLarge "handshake response exceeds the offered frame limit")
  else
    (validateHandshakeResponse response requested).map fun _ =>
      { protocolMinor := response.protocolMinor, frame := response.maxFrameBytes.toNat
        read := response.maxReadBytes.toNat, write := response.maxWriteBytes.toNat }

lemma toNat_ofNat_le (n : ℕ) : (UInt32.ofNat n).toNat ≤ n := by
  rw [UInt32.toNat_ofNat']
  exact Nat.mod_le n _

section Agreement

variable {token : Broker.StartupToken} {secret : List UInt8} {requested : Limits} {minor : UInt32}

lemma validateHandshakeResponse_of_accepts
    (h : Broker.Accepts token (handshakeRequest secret requested) minor) :
    validateHandshakeResponse
      (Broker.handshakeResponse (handshakeRequest secret requested) minor) requested = .ok () := by
  have hoffers : Offers (handshakeRequest secret requested) protocolMinorMinimum
      protocolMinorMaximum := .ranged rfl
  have hminor : InRange minor protocolMinorMinimum protocolMinorMaximum :=
    ((negotiate_eq_ok hoffers).mp h.selected).2.left
  have hrange : handshakeResponseMinorRange
      (Broker.handshakeResponse (handshakeRequest secret requested) minor)
        = .ok (protocolMinorMinimum, protocolMinorMaximum) := by
    have hzero : ¬(protocolMinorMinimum = 0 ∧ protocolMinorMaximum = 0) := by decide
    have hordered : ¬protocolMinorMinimum > protocolMinorMaximum := by decide
    unfold handshakeResponseMinorRange Broker.handshakeResponse
    rw [if_neg hzero, if_neg]
    rintro (hlt | hlt | hlt)
    · exact hordered hlt
    · exact UInt32.not_lt.mpr hminor.1 hlt
    · exact UInt32.not_lt.mpr hminor.2 hlt
  have hpos : ∀ n : UInt32, 0 < n.toNat → n ≠ 0 := by
    rintro n hn rfl
    exact absurd hn (by decide)
  unfold validateHandshakeResponse
  rw [hrange]
  simp only [Except.mapError, Except.bind]
  rw [if_neg]
  rintro (hbad | hbad | hbad | hbad | hbad | hbad | hbad | hbad | hbad | hbad)
  · exact hbad rfl
  · exact hbad hminor
  · exact hbad hminor
  · exact hpos _ h.frame_pos hbad
  · exact Nat.not_lt.mpr (toNat_ofNat_le _) hbad
  · exact hpos _ h.read_pos hbad
  · exact Nat.not_lt.mpr (toNat_ofNat_le _) hbad
  · exact hpos _ h.write_pos hbad
  · exact Nat.not_lt.mpr (toNat_ofNat_le _) hbad
  · exact hbad (by simp [Broker.handshakeResponse, Broker.capabilities,
      Broker.CanDispatch.brokerCapabilities])

/-- The client adopts whatever the broker answers to its offer. -/
lemma adoptResponse_of_accepts
    (h : Broker.Accepts token (handshakeRequest secret requested) minor) :
    adoptResponse requested (Broker.handshakeResponse (handshakeRequest secret requested) minor)
      = .ok { protocolMinor := minor, frame := (UInt32.ofNat requested.frame).toNat
              read := (UInt32.ofNat requested.read).toNat
              write := (UInt32.ofNat requested.write).toNat } := by
  -- the response fits under the identifier of the handshake, since it fits under the largest one
  have hfits : (V1.envelope 1 11 (Broker.handshakeResponse (handshakeRequest secret requested)
      minor).encode).length ≤ (UInt32.ofNat requested.frame).toNat := by
    refine le_trans (Broker.length_envelope_le 1 le_rfl) ?_
    rw [← Broker.length_envelope_max]
    exact h.response_fits
  have hframe : (UInt32.ofNat requested.frame).toNat ≤ maxFrameBytes := h.frame_le
  have hrequested := toNat_ofNat_le requested.frame
  unfold adoptResponse
  simp only
  rw [if_neg (by omega), validateHandshakeResponse_of_accepts h]
  rfl

end Agreement

end Client

/-! ### Agreement -/

/-- A request is taken exactly when the majors are equal and the two ranges have a minor in
common, at the greatest such minor, whichever side a range is on; and what the broker accepts
from this client the client accepts back, so that both hold one minor and one set of limits. -/
theorem versions_and_limits_agree :
    (∀ (request : V1.HandshakeRequest) (lo hi : UInt32), Offers request lo hi →
      ∀ major lo' hi' : UInt32,
        ((∃ m, negotiate request major lo' hi' = .ok m)
          ↔ request.protocolMajor = major ∧ ∃ m, InRange m lo hi ∧ InRange m lo' hi')
        ∧ ∀ m, negotiate request major lo' hi' = .ok m → Shared m lo hi lo' hi')
    ∧ (∀ major lo hi major' lo' hi' m : UInt32,
        negotiateProtocolMinor major lo hi major' lo' hi' = .ok m
          ↔ negotiateProtocolMinor major' lo' hi' major lo hi = .ok m)
    ∧ ∀ (token : Broker.StartupToken) (secret : List UInt8) (requested : Client.Limits)
        (response : V1.HandshakeResponse) (limits : Broker.NegotiatedLimits),
        Broker.validateHandshake token (Client.handshakeRequest secret requested)
          = .ok (response, limits) →
        Client.validateHandshakeResponse response requested = .ok ()
        ∧ ∃ held, Client.adoptResponse requested response = .ok held
          ∧ held.protocolMinor = limits.protocolMinor ∧ held.frame = limits.maxFrameBytes
          ∧ held.read = limits.maxReadBytes ∧ held.write = limits.maxWriteBytes := by
  refine ⟨?_, ?_, ?_⟩
  · intro request lo hi hoffers major lo' hi'
    constructor
    · constructor
      · rintro ⟨m, hm⟩
        obtain ⟨hmajor, hshared⟩ := (negotiate_eq_ok hoffers).mp hm
        exact ⟨hmajor, m, hshared.left, hshared.right⟩
      · rintro ⟨hmajor, n, hn, hn'⟩
        obtain ⟨m, hm⟩ := exists_shared hn hn'
        exact ⟨m, (negotiate_eq_ok hoffers).mpr ⟨hmajor, hm⟩⟩
    · intro m hm
      exact ((negotiate_eq_ok hoffers).mp hm).2
  · intro major lo hi major' lo' hi' m
    rw [negotiateProtocolMinor_eq_ok, negotiateProtocolMinor_eq_ok]
    constructor
    · rintro ⟨hmajor, h⟩
      exact ⟨hmajor.symm, h.swap⟩
    · rintro ⟨hmajor, h⟩
      exact ⟨hmajor.symm, h.swap⟩
  · intro token secret requested response limits h
    obtain ⟨minor, haccepts, heq⟩ := Broker.validateHandshake_eq_ok.mp h
    obtain ⟨rfl, rfl⟩ := Prod.mk.inj heq
    exact ⟨Client.validateHandshakeResponse_of_accepts haccepts, _,
      Client.adoptResponse_of_accepts haccepts, rfl, rfl, rfl, rfl⟩

theorem versions_and_limits_agree_defaults :
    ∃ (token : Broker.StartupToken) (requested : Client.Limits) (response : V1.HandshakeResponse)
      (limits : Broker.NegotiatedLimits),
      Broker.validateHandshake token (Client.handshakeRequest token.bytes requested)
        = .ok (response, limits)
      ∧ (∃ m, negotiate (Client.handshakeRequest token.bytes requested) 1 1 2 = .ok m)
      ∧ Client.validateHandshakeResponse response requested = .ok () := by
  have hexec : ∃ x ∈ (Broker.validateHandshake ⟨List.replicate 32 7, rfl⟩
      (Client.handshakeRequest (List.replicate 32 7) ⟨3, 65536, 4096, 4096⟩)).toOption,
        x.2.protocolMinor = 3 := by decide +kernel
  obtain ⟨x, hx, -⟩ := hexec
  have hok := ok_of_toOption hx
  refine ⟨_, _, x.1, x.2, hok, ?_, (versions_and_limits_agree.2.2 _ _ _ _ _ hok).1⟩
  exact (versions_and_limits_agree.1 _ _ _ (.ranged rfl) 1 1 2).1.mpr
    ⟨rfl, 1, by decide +kernel, by decide +kernel⟩

end RobotHal
