import RobotHal.CanValues
import RobotHal.ErrorWire

/-!
CAN values on the wire.

A frame becomes a flat record in which each kind leaves other fields empty. The decoder checks
that they are, and that what is left can be built; it accepts what the encoder makes of valid
values, and nothing else.
-/

namespace RobotHal

open Proto (Enumeration)

variable {value : UInt32} {field : String} {f : CanFrame} {n : ℕ}

/-! ### Messages -/

namespace V1

inductive CanIdFormat
  | unspecified
  | standard
  | extended
  | either
deriving DecidableEq

instance : Enumeration CanIdFormat where
  values := [.unspecified, .standard, .extended, .either]
  number
    | .unspecified => 0
    | .standard => 1
    | .extended => 2
    | .either => 3
  mem_values e := by cases e <;> decide
  number_injective a b h := by cases a <;> cases b <;> first | rfl | cases h

inductive CanFrameKind
  | unspecified
  | classicData
  | classicRemote
  | fdData
  | error
deriving DecidableEq

instance : Enumeration CanFrameKind where
  values := [.unspecified, .classicData, .classicRemote, .fdData, .error]
  number
    | .unspecified => 0
    | .classicData => 1
    | .classicRemote => 2
    | .fdData => 3
    | .error => 4
  mem_values e := by cases e <;> decide
  number_injective a b h := by cases a <;> cases b <;> first | rfl | cases h

inductive CanErrorClass
  | unspecified
  | txTimeout
  | lostArbitration
  | controller
  | protocol
  | transceiver
  | noAcknowledgement
  | busOff
  | busError
  | restarted
  | other
deriving DecidableEq

instance : Enumeration CanErrorClass where
  values := [.unspecified, .txTimeout, .lostArbitration, .controller, .protocol, .transceiver,
    .noAcknowledgement, .busOff, .busError, .restarted, .other]
  number
    | .unspecified => 0
    | .txTimeout => 1
    | .lostArbitration => 2
    | .controller => 3
    | .protocol => 4
    | .transceiver => 5
    | .noAcknowledgement => 6
    | .busOff => 7
    | .busError => 8
    | .restarted => 9
    | .other => 10
  mem_values e := by cases e <;> decide
  number_injective a b h := by cases a <;> cases b <;> first | rfl | cases h

inductive CanTimestampSource
  | unspecified
  | hardware
  | kernel
  | hostMonotonic
deriving DecidableEq

instance : Enumeration CanTimestampSource where
  values := [.unspecified, .hardware, .kernel, .hostMonotonic]
  number
    | .unspecified => 0
    | .hardware => 1
    | .kernel => 2
    | .hostMonotonic => 3
  mem_values e := by cases e <;> decide
  number_injective a b h := by cases a <;> cases b <;> first | rfl | cases h

inductive CanMode
  | unspecified
  | classic
  | fd
deriving DecidableEq

instance : Enumeration CanMode where
  values := [.unspecified, .classic, .fd]
  number
    | .unspecified => 0
    | .classic => 1
    | .fd => 2
  mem_values e := by cases e <;> decide
  number_injective a b h := by cases a <;> cases b <;> first | rfl | cases h

structure CanId where
  value : UInt32
  format : ℤ
deriving DecidableEq

structure CanFrame where
  id : Option CanId := none
  kind : ℤ
  data : List UInt8 := []
  remoteDlc : UInt32 := 0
  bitrateSwitch : Bool := false
  errorStateIndicator : Bool := false
  errorClasses : List ℤ := []
deriving DecidableEq

structure CanTimestamp where
  timestampNs : UInt64
  source : ℤ
  clockDomain : String
deriving DecidableEq

structure ReceivedCanFrame where
  frame : Option CanFrame
  timestamp : Option CanTimestamp
deriving DecidableEq

structure CanBitTiming where
  bitrate : UInt32
  samplePointPermill : Option UInt32
  sjw : Option UInt32
deriving DecidableEq

structure CanLinkExpectation where
  mode : Option ℤ
  nominalBitrate : Option UInt32
  dataBitrate : Option UInt32
  listenOnly : Option Bool
  loopback : Option Bool
deriving DecidableEq

structure CanConfigureConfig where
  mode : ℤ
  nominal : Option CanBitTiming
  data : Option CanBitTiming
  listenOnly : Bool
  loopback : Bool
  restartMs : Option UInt32
deriving DecidableEq

/-- The choices of `CanOpenConfig`. -/
inductive CanOpenConfig.Config
  | attach (expectation : CanLinkExpectation)
  | configure (config : CanConfigureConfig)
deriving DecidableEq

structure CanOpenConfig where
  config : Option CanOpenConfig.Config
deriving DecidableEq

structure CanFrameClasses where
  data : Bool
  remote : Bool
  error : Bool
deriving DecidableEq

structure CanFilter where
  id : UInt32
  mask : UInt32
  format : ℤ
  classes : Option CanFrameClasses
deriving DecidableEq

structure CanFilterSet where
  filters : List CanFilter
deriving DecidableEq

end V1

/-! ### Parts of messages -/

def invalid (field detail : String) : HalError := invalidMessage (field ++ " " ++ detail)

def required {α : Type} (value : Option α) (field : String) : HalResult α :=
  okOr value (invalid field "is required")

/-- `u16::try_from(u32)`. -/
def u16TryFrom (value : UInt32) : Option UInt16 :=
  if value.toNat < 2 ^ 16 then some value.toUInt16 else none

/-- `u8::try_from(u32)`. -/
def u8TryFrom (value : UInt32) : Option UInt8 :=
  if value.toNat < 2 ^ 8 then some value.toUInt8 else none

lemma u16TryFrom_eq_some {x : UInt16} : u16TryFrom value = some x ↔ value = x.toUInt32 := by
  unfold u16TryFrom
  constructor
  · intro h
    split at h
    · rename_i hlt
      cases h
      apply UInt32.toNat_inj.mp
      rw [UInt16.toNat_toUInt32, UInt32.toNat_toUInt16, Nat.mod_eq_of_lt hlt]
    · cases h
  · rintro rfl
    have hlt := x.toNat_lt
    rw [if_pos (by rw [UInt16.toNat_toUInt32]; exact hlt)]
    congr 1
    apply UInt16.toNat_inj.mp
    rw [UInt32.toNat_toUInt16, UInt16.toNat_toUInt32, Nat.mod_eq_of_lt hlt]

lemma u8TryFrom_eq_some {x : UInt8} : u8TryFrom value = some x ↔ value = x.toUInt32 := by
  unfold u8TryFrom
  constructor
  · intro h
    split at h
    · rename_i hlt
      cases h
      apply UInt32.toNat_inj.mp
      rw [UInt8.toNat_toUInt32, UInt32.toNat_toUInt8, Nat.mod_eq_of_lt hlt]
    · cases h
  · rintro rfl
    have hlt := x.toNat_lt
    rw [if_pos (by rw [UInt8.toNat_toUInt32]; exact hlt)]
    congr 1
    apply UInt8.toNat_inj.mp
    rw [UInt32.toNat_toUInt8, UInt8.toNat_toUInt32, Nat.mod_eq_of_lt hlt]

/-! ### Encoding -/

def CanMode.toProto : CanMode → V1.CanMode
  | .classic => .classic
  | .fd => .fd

def CanErrorClass.toProto : CanErrorClass → V1.CanErrorClass
  | .txTimeout => .txTimeout
  | .lostArbitration => .lostArbitration
  | .controller => .controller
  | .protocol => .protocol
  | .transceiver => .transceiver
  | .noAcknowledgement => .noAcknowledgement
  | .busOff => .busOff
  | .busError => .busError
  | .restarted => .restarted
  | .other => .other

def CanTimestampSource.toProto : CanTimestampSource → V1.CanTimestampSource
  | .hardware => .hardware
  | .kernel => .kernel
  | .hostMonotonic => .hostMonotonic

def CanIdFormat.toProto : CanIdFormat → V1.CanIdFormat
  | .standard => .standard
  | .extended => .extended
  | .either => .either

def CanId.toProto (id : CanId) : V1.CanId where
  value := id.value
  format := Enumeration.number (if id.isStandard then V1.CanIdFormat.standard else .extended)

def CanFrame.toProto : CanFrame → V1.CanFrame
  | .classicData id data =>
    { id := some id.toProto, kind := Enumeration.number V1.CanFrameKind.classicData, data }
  | .classicRemote id dlc =>
    { id := some id.toProto, kind := Enumeration.number V1.CanFrameKind.classicRemote
      remoteDlc := dlc.toUInt32 }
  | .fdData id data bitrateSwitch errorStateIndicator =>
    { id := some id.toProto, kind := Enumeration.number V1.CanFrameKind.fdData
      data, bitrateSwitch, errorStateIndicator }
  | .error classes data =>
    { kind := Enumeration.number V1.CanFrameKind.error
      data, errorClasses := classes.map fun x => Enumeration.number x.toProto }

def CanTimestamp.toProto (t : CanTimestamp) : V1.CanTimestamp where
  timestampNs := t.timestampNs
  source := Enumeration.number t.source.toProto
  clockDomain := t.clockDomain

def ReceivedCanFrame.toProto (x : ReceivedCanFrame) : V1.ReceivedCanFrame where
  frame := some x.frame.toProto
  timestamp := x.timestamp.map CanTimestamp.toProto

def CanBitTiming.toProto (t : CanBitTiming) : V1.CanBitTiming where
  bitrate := t.bitrate
  samplePointPermill := t.samplePointPermill.map UInt16.toUInt32
  sjw := t.sjw.map UInt16.toUInt32

def CanLinkExpectation.toProto (x : CanLinkExpectation) : V1.CanLinkExpectation where
  mode := x.mode.map fun mode => Enumeration.number mode.toProto
  nominalBitrate := x.nominalBitrate
  dataBitrate := x.dataBitrate
  listenOnly := x.listenOnly
  loopback := x.loopback

def CanConfigureConfig.toProto (x : CanConfigureConfig) : V1.CanConfigureConfig where
  mode := Enumeration.number x.mode.toProto
  nominal := some x.nominal.toProto
  data := x.data.map CanBitTiming.toProto
  listenOnly := x.listenOnly
  loopback := x.loopback
  restartMs := x.restartMs

def CanOpenConfig.toProto : CanOpenConfig → V1.CanOpenConfig
  | .attach expectation => ⟨some (.attach expectation.toProto)⟩
  | .configure config => ⟨some (.configure config.toProto)⟩

def CanFrameClasses.toProto (x : CanFrameClasses) : V1.CanFrameClasses :=
  ⟨x.data, x.remote, x.error⟩

def CanFilter.toProto (f : CanFilter) : V1.CanFilter where
  id := f.id
  mask := f.mask
  format := Enumeration.number f.format.toProto
  classes := some f.classes.toProto

def CanFilterSet.toProto (fs : CanFilterSet) : V1.CanFilterSet := ⟨List.map CanFilter.toProto fs⟩

/-! ### Decoding -/

def modeFromProto (field : String) (value : ℤ) : HalResult CanMode := do
  match ← requiredEnum V1.CanMode value field with
  | .classic => return .classic
  | .fd => return .fd
  | .unspecified => throw (invalid field "is required")

def CanId.tryFrom (m : V1.CanId) : HalResult CanId := do
  match ← requiredEnum V1.CanIdFormat m.format "can_id.format" with
  | .standard =>
    let id ← okOr (u16TryFrom m.value) (invalid "can_id.value" "exceeds the standard ID range")
    (CanId.standard? id).mapError fun _ => invalid "can_id.value" "exceeds the standard ID range"
  | .extended =>
    (CanId.extended? m.value).mapError fun _ =>
      invalid "can_id.value" "exceeds the extended ID range"
  | .either => throw (invalid "can_id.format" "must be standard or extended for a frame")
  | .unspecified => throw (invalid "can_id.format" "is required")

def errorClassFromProto (value : ℤ) : HalResult CanErrorClass := do
  match ← requiredEnum V1.CanErrorClass value "can_frame.error_classes" with
  | .txTimeout => return .txTimeout
  | .lostArbitration => return .lostArbitration
  | .controller => return .controller
  | .protocol => return .protocol
  | .transceiver => return .transceiver
  | .noAcknowledgement => return .noAcknowledgement
  | .busOff => return .busOff
  | .busError => return .busError
  | .restarted => return .restarted
  | .other => return .other
  | .unspecified => throw (invalid "can_frame.error_classes" "contains an unspecified value")

/-- A message of a kind: the fields the kind does not use are empty, the others make a frame. -/
def CanFrame.ofKind (m : V1.CanFrame) : V1.CanFrameKind → HalResult CanFrame
  | .classicData =>
    if m.remoteDlc ≠ 0 || m.bitrateSwitch || m.errorStateIndicator || !m.errorClasses.isEmpty then
      .error (invalid "can_frame" "has fields incompatible with classic data")
    else do
      let id ← CanId.tryFrom (← required m.id "can_frame.id")
      (CanFrame.classicData? id m.data).mapError fun _ =>
        invalid "can_frame.data" "exceeds the classic payload bound"
  | .classicRemote =>
    if !m.data.isEmpty || m.bitrateSwitch || m.errorStateIndicator || !m.errorClasses.isEmpty then
      .error (invalid "can_frame" "has fields incompatible with a classic remote frame")
    else do
      let id ← CanId.tryFrom (← required m.id "can_frame.id")
      let dlc ← okOr (u8TryFrom m.remoteDlc)
        (invalid "can_frame.remote_dlc" "exceeds the classic bound")
      (CanFrame.classicRemote? id dlc).mapError fun _ =>
        invalid "can_frame.remote_dlc" "exceeds the classic bound"
  | .fdData =>
    if m.remoteDlc ≠ 0 || !m.errorClasses.isEmpty then
      .error (invalid "can_frame" "has fields incompatible with FD data")
    else do
      let id ← CanId.tryFrom (← required m.id "can_frame.id")
      (CanFrame.fdData? id m.data m.bitrateSwitch m.errorStateIndicator).mapError fun _ =>
        invalid "can_frame.data" "has an invalid FD payload length"
  | .error =>
    if m.id.isSome || m.remoteDlc ≠ 0 || m.bitrateSwitch || m.errorStateIndicator then
      .error (invalid "can_frame" "has fields incompatible with an error frame")
    else do
      let classes ← m.errorClasses.mapM errorClassFromProto
      (CanFrame.error? classes m.data).mapError fun _ =>
        invalid "can_frame.error_classes/data" "does not form a valid error frame"
  | .unspecified => .error (invalid "can_frame.kind" "is required")

def CanFrame.tryFrom (m : V1.CanFrame) : HalResult CanFrame := do
  CanFrame.ofKind m (← requiredEnum V1.CanFrameKind m.kind "can_frame.kind")

def timestampSourceFromProto (value : ℤ) : HalResult CanTimestampSource := do
  match ← requiredEnum V1.CanTimestampSource value "can_timestamp.source" with
  | .hardware => return .hardware
  | .kernel => return .kernel
  | .hostMonotonic => return .hostMonotonic
  | .unspecified => throw (invalid "can_timestamp.source" "is required")

def CanTimestamp.tryFrom (m : V1.CanTimestamp) : HalResult CanTimestamp := do
  let source ← timestampSourceFromProto m.source
  (CanTimestamp.new m.timestampNs source m.clockDomain).mapError fun _ =>
    invalid "can_timestamp.clock_domain" "is invalid"

def ReceivedCanFrame.tryFrom (m : V1.ReceivedCanFrame) : HalResult ReceivedCanFrame := do
  let frame ← CanFrame.tryFrom (← required m.frame "received_can_frame.frame")
  let timestamp ← m.timestamp.mapM CanTimestamp.tryFrom
  return ⟨frame, timestamp⟩

/-- A field of 16 bits. -/
def u16FromProto (field : String) (value : UInt32) : HalResult UInt16 :=
  okOr (u16TryFrom value) (invalid field "is out of range")

def CanBitTiming.tryFrom (m : V1.CanBitTiming) : HalResult CanBitTiming := do
  let samplePointPermill ←
    m.samplePointPermill.mapM (u16FromProto "can_bit_timing.sample_point_permill")
  let sjw ← m.sjw.mapM (u16FromProto "can_bit_timing.sjw")
  (CanBitTiming.new m.bitrate samplePointPermill sjw).mapError fun _ =>
    invalid "can_bit_timing" "contains invalid timing values"

def CanLinkExpectation.tryFrom (m : V1.CanLinkExpectation) : HalResult CanLinkExpectation := do
  let mode ← m.mode.mapM (modeFromProto "can_link_expectation.mode")
  (CanLinkExpectation.new mode m.nominalBitrate m.dataBitrate m.listenOnly
    m.loopback).mapError fun _ =>
      invalid "can_link_expectation" "contains inconsistent expectations"

def CanConfigureConfig.tryFrom (m : V1.CanConfigureConfig) : HalResult CanConfigureConfig := do
  let mode ← modeFromProto "can_configure_config.mode" m.mode
  let nominal ← CanBitTiming.tryFrom (← required m.nominal "can_configure_config.nominal")
  let data ← m.data.mapM CanBitTiming.tryFrom
  (CanConfigureConfig.newWithRestart mode nominal data m.listenOnly m.loopback
    m.restartMs).mapError fun _ => invalid "can_configure_config" "is inconsistent"

def CanOpenConfig.tryFrom (m : V1.CanOpenConfig) : HalResult CanOpenConfig := do
  match ← required m.config "can_open_config.config" with
  | .attach x => return .attach (← CanLinkExpectation.tryFrom x)
  | .configure x => return .configure (← CanConfigureConfig.tryFrom x)

/-- `From<v1::CanFrameClasses> for CanFrameClasses`. -/
def CanFrameClasses.ofProto (m : V1.CanFrameClasses) : CanFrameClasses :=
  ⟨m.data, m.remote, m.error⟩

def filterFormatFromProto (value : ℤ) : HalResult CanIdFormat := do
  match ← requiredEnum V1.CanIdFormat value "can_filter.format" with
  | .standard => return .standard
  | .extended => return .extended
  | .either => return .either
  | .unspecified => throw (invalid "can_filter.format" "is required")

def CanFilter.tryFrom (m : V1.CanFilter) : HalResult CanFilter := do
  let format ← filterFormatFromProto m.format
  let classes ← required m.classes "can_filter.classes"
  (CanFilter.new m.id m.mask format (.ofProto classes)).mapError fun _ =>
    invalid "can_filter" "contains invalid bounds or frame classes"

def CanFilterSet.tryFrom (m : V1.CanFilterSet) : HalResult CanFilterSet :=
  if m.filters.length > maxCanFilters then
    .error (invalid "can_filter_set.filters" "exceeds the 64-filter bound")
  else do
    let filters ← m.filters.mapM CanFilter.tryFrom
    (CanFilterSet.new filters).mapError fun _ => invalid "can_filter_set.filters" "is invalid"

/-! ### Enumerations are exact -/

lemma requiredEnum_eq_ok {ε : Type} [Enumeration ε] {value : ℤ} {e : ε} :
    requiredEnum ε value field = .ok e ↔ value = Enumeration.number e := by
  unfold requiredEnum
  constructor
  · intro h
    split at h
    · rename_i e' he'
      obtain rfl := Except.ok.inj h
      exact (Enumeration.number_of_tryFrom he').symm
    · cases h
  · rintro rfl
    rw [Enumeration.tryFrom_number]

lemma enum_exact {ε α : Type} [Enumeration ε] {encode : α → ε} {f : ε → HalResult α}
    (hf : ∀ v a, f v = .ok a ↔ v = encode a) (field : String) :
    Codec.Exact (fun _ => True) (fun a => Enumeration.number (encode a))
      fun value => (requiredEnum ε value field).bind f := by
  intro value a
  simp only [bind_eq_ok, requiredEnum_eq_ok, hf, true_and]
  constructor
  · rintro ⟨v, rfl, rfl⟩
    rfl
  · rintro rfl
    exact ⟨encode a, rfl, rfl⟩

lemma mode_exact (field : String) : Codec.Exact (fun _ => True)
    (fun x : CanMode => Enumeration.number x.toProto) (modeFromProto field) :=
  enum_exact (fun v a => by cases v <;> cases a <;> simp [CanMode.toProto, pure, Except.pure, throw,
    throwThe, MonadExceptOf.throw]) field

lemma errorClass_exact : Codec.Exact (fun _ => True)
    (fun x : CanErrorClass => Enumeration.number x.toProto) errorClassFromProto :=
  enum_exact (fun v a => by cases v <;> cases a <;> simp [CanErrorClass.toProto, pure, Except.pure,
    throw, throwThe, MonadExceptOf.throw]) _

lemma timestampSource_exact : Codec.Exact (fun _ => True)
    (fun x : CanTimestampSource => Enumeration.number x.toProto) timestampSourceFromProto :=
  enum_exact (fun v a => by cases v <;> cases a <;> simp [CanTimestampSource.toProto, pure,
    Except.pure, throw, throwThe, MonadExceptOf.throw]) _

lemma filterFormat_exact : Codec.Exact (fun _ => True)
    (fun x : CanIdFormat => Enumeration.number x.toProto) filterFormatFromProto :=
  enum_exact (fun v a => by cases v <;> cases a <;> simp [CanIdFormat.toProto, pure, Except.pure,
    throw, throwThe, MonadExceptOf.throw]) _

/-! ### Frames are exact -/

lemma required_eq_ok {α : Type} {value : Option α} {a : α} :
    required value field = .ok a ↔ value = some a := okOr_eq_ok

lemma required_exact {α : Type} (field : String) :
    Codec.Exact (fun _ : α => True) some (required · field) := by
  intro value a
  rw [required_eq_ok, true_and]

theorem canId_exact :
    Codec.Exact (fun id : CanId => validateId id = .ok ()) CanId.toProto CanId.tryFrom := by
  rintro ⟨value, format⟩ id
  constructor
  · intro h
    obtain ⟨v, hv, h⟩ := bind_eq_ok.mp h
    obtain rfl : format = Enumeration.number v := requiredEnum_eq_ok.mp hv
    cases v with
    | standard =>
      obtain ⟨x, hx, hstandard⟩ := bind_eq_ok.mp h
      obtain rfl : value = x.toUInt32 := u16TryFrom_eq_some.mp (okOr_eq_ok.mp hx)
      obtain ⟨hid, rfl⟩ := CanId.standard?_eq_ok.mp (mapError_eq_ok.mp hstandard)
      exact ⟨hid, rfl⟩
    | extended =>
      obtain ⟨hid, rfl⟩ := CanId.extended?_eq_ok.mp (mapError_eq_ok.mp h)
      exact ⟨hid, rfl⟩
    | either => cases h
    | unspecified => cases h
  · rintro ⟨hid, hm⟩
    rw [hm]
    cases id with
    | standard x =>
      have hformat : requiredEnum V1.CanIdFormat (CanId.standard x).toProto.format
          "can_id.format" = .ok .standard := requiredEnum_eq_ok.mpr rfl
      rw [CanId.tryFrom, hformat, ok_bind]
      exact bind_eq_ok.mpr ⟨x, okOr_eq_ok.mpr (u16TryFrom_eq_some.mpr rfl),
        mapError_eq_ok.mpr (CanId.standard?_eq_ok.mpr ⟨hid, rfl⟩)⟩
    | extended x =>
      have hformat : requiredEnum V1.CanIdFormat (CanId.extended x).toProto.format
          "can_id.format" = .ok .extended := requiredEnum_eq_ok.mpr rfl
      rw [CanId.tryFrom, hformat, ok_bind]
      exact mapError_eq_ok.mpr (CanId.extended?_eq_ok.mpr ⟨hid, rfl⟩)

lemma errorClasses_exact : Codec.Exact (fun _ => True)
    (List.map fun x : CanErrorClass => Enumeration.number x.toProto)
    (fun l => l.mapM errorClassFromProto) := by
  intro l classes
  simpa using errorClass_exact.list l classes

lemma ofKind_toProto (hf : f.validate = .ok ()) :
    ∃ kind, f.toProto.kind = Enumeration.number kind ∧ CanFrame.ofKind f.toProto kind = .ok f := by
  cases f with
  | classicData id data =>
    obtain ⟨⟨⟩, hid, -⟩ := bind_eq_ok.mp hf
    refine ⟨.classicData, rfl, ?_⟩
    rw [CanFrame.ofKind, if_neg (by simp [CanFrame.toProto])]
    exact bind_eq_ok.mpr ⟨id.toProto, required_eq_ok.mpr rfl, bind_eq_ok.mpr ⟨id,
      canId_exact.decode_encode hid,
      mapError_eq_ok.mpr (CanFrame.classicData?_eq_ok.mpr ⟨hf, rfl⟩)⟩⟩
  | classicRemote id dlc =>
    obtain ⟨⟨⟩, hid, -⟩ := bind_eq_ok.mp hf
    refine ⟨.classicRemote, rfl, ?_⟩
    rw [CanFrame.ofKind, if_neg (by simp [CanFrame.toProto])]
    exact bind_eq_ok.mpr ⟨id.toProto, required_eq_ok.mpr rfl, bind_eq_ok.mpr ⟨id,
      canId_exact.decode_encode hid, bind_eq_ok.mpr ⟨dlc,
        okOr_eq_ok.mpr (u8TryFrom_eq_some.mpr rfl),
        mapError_eq_ok.mpr (CanFrame.classicRemote?_eq_ok.mpr ⟨hf, rfl⟩)⟩⟩⟩
  | fdData id data brs esi =>
    obtain ⟨⟨⟩, hid, -⟩ := bind_eq_ok.mp hf
    refine ⟨.fdData, rfl, ?_⟩
    rw [CanFrame.ofKind, if_neg (by simp [CanFrame.toProto])]
    exact bind_eq_ok.mpr ⟨id.toProto, required_eq_ok.mpr rfl, bind_eq_ok.mpr ⟨id,
      canId_exact.decode_encode hid, mapError_eq_ok.mpr (CanFrame.fdData?_eq_ok.mpr ⟨hf, rfl⟩)⟩⟩
  | error classes data =>
    refine ⟨.error, rfl, ?_⟩
    rw [CanFrame.ofKind, if_neg (by simp [CanFrame.toProto])]
    exact bind_eq_ok.mpr ⟨classes, errorClasses_exact.decode_encode trivial,
      mapError_eq_ok.mpr (CanFrame.error?_eq_ok.mpr ⟨hf, rfl⟩)⟩

/-- What is accepted as a frame of a kind is the message of a valid frame of that kind: the fields
the kind leaves empty were empty. -/
lemma toProto_of_ofKind {m : V1.CanFrame} {kind : V1.CanFrameKind}
    (hkind : m.kind = Enumeration.number kind) (h : CanFrame.ofKind m kind = .ok f) :
    f.validate = .ok () ∧ m = f.toProto := by
  obtain ⟨id, _, data, dlc, brs, esi, classes⟩ := m
  obtain rfl : _ = Enumeration.number kind := hkind
  cases kind <;> simp only [CanFrame.ofKind, ite_error_eq_ok, (required_exact _).bind_iff,
    canId_exact.bind_iff, errorClasses_exact.bind_iff, bindM_eq_ok, okOr_eq_ok, u8TryFrom_eq_some,
    mapError_eq_ok, CanFrame.classicData?_eq_ok, CanFrame.classicRemote?_eq_ok,
    CanFrame.fdData?_eq_ok, CanFrame.error?_eq_ok] at h
  case classicData =>
    obtain ⟨hempty, _, ⟨-, rfl⟩, id, ⟨-, rfl⟩, hf, rfl⟩ := h
    obtain ⟨⟨⟨rfl, rfl⟩, rfl⟩, rfl⟩ : ((dlc = 0 ∧ brs = false) ∧ esi = false) ∧ classes = [] := by
      simpa using hempty
    exact ⟨hf, rfl⟩
  case classicRemote =>
    obtain ⟨hempty, _, ⟨-, rfl⟩, id, ⟨-, rfl⟩, n, rfl, hf, rfl⟩ := h
    obtain ⟨⟨⟨rfl, rfl⟩, rfl⟩, rfl⟩ : ((data = [] ∧ brs = false) ∧ esi = false) ∧ classes = [] := by
      simpa using hempty
    exact ⟨hf, rfl⟩
  case fdData =>
    obtain ⟨hempty, _, ⟨-, rfl⟩, id, ⟨-, rfl⟩, hf, rfl⟩ := h
    obtain ⟨rfl, rfl⟩ : dlc = 0 ∧ classes = [] := by simpa using hempty
    exact ⟨hf, rfl⟩
  case error =>
    obtain ⟨hempty, xs, ⟨-, rfl⟩, hf, rfl⟩ := h
    obtain ⟨⟨⟨rfl, rfl⟩, rfl⟩, rfl⟩ : ((id = none ∧ dlc = 0) ∧ brs = false) ∧ esi = false := by
      simpa using hempty
    exact ⟨hf, rfl⟩
  case unspecified => cases h

theorem canFrame_exact :
    Codec.Exact (fun f : CanFrame => f.validate = .ok ()) CanFrame.toProto CanFrame.tryFrom := by
  intro m f
  constructor
  · intro h
    obtain ⟨kind, hkind, h⟩ := bind_eq_ok.mp h
    exact toProto_of_ofKind (requiredEnum_eq_ok.mp hkind) h
  · rintro ⟨hf, rfl⟩
    obtain ⟨kind, hkind, h⟩ := ofKind_toProto hf
    rw [CanFrame.tryFrom, requiredEnum_eq_ok.mpr hkind, ok_bind]
    exact h

/-! ### The rest is exact -/

theorem canTimestamp_exact :
    Codec.Exact CanTimestamp.Built CanTimestamp.toProto CanTimestamp.tryFrom := by
  rintro ⟨ns, source, domain⟩ t
  rw [CanTimestamp.tryFrom, timestampSource_exact.bind_iff]
  simp only [mapError_eq_ok]
  constructor
  · rintro ⟨x, ⟨-, rfl⟩, h⟩
    obtain ⟨ht, rfl⟩ := CanTimestamp.new_eq_ok.mp h
    exact ⟨ht, rfl⟩
  · rintro ⟨ht, ⟨⟩⟩
    exact ⟨t.source, ⟨trivial, rfl⟩, ht⟩

theorem receivedCanFrame_exact :
    Codec.Exact ReceivedCanFrame.Valid ReceivedCanFrame.toProto ReceivedCanFrame.tryFrom := by
  rintro ⟨frame, timestamp⟩ x
  simp only [ReceivedCanFrame.tryFrom, (required_exact _).bind_iff, canFrame_exact.bind_iff,
    canTimestamp_exact.option.bind_iff]
  constructor
  · rintro ⟨_, ⟨-, rfl⟩, f, ⟨hv, rfl⟩, t, ⟨hb, rfl⟩, ⟨⟩⟩
    exact ⟨⟨hv, hb⟩, rfl⟩
  · rintro ⟨⟨hv, hb⟩, ⟨⟩⟩
    exact ⟨_, ⟨trivial, rfl⟩, x.frame, ⟨hv, rfl⟩, x.timestamp, ⟨hb, rfl⟩, rfl⟩

lemma u16_exact (field : String) :
    Codec.Exact (fun _ => True) UInt16.toUInt32 (u16FromProto field) := by
  intro value x
  unfold u16FromProto
  rw [okOr_eq_ok, u16TryFrom_eq_some, true_and]

theorem canBitTiming_exact :
    Codec.Exact CanBitTiming.Built CanBitTiming.toProto CanBitTiming.tryFrom := by
  rintro ⟨bitrate, samplePoint, sjw⟩ t
  simp only [CanBitTiming.tryFrom, (u16_exact _).option.bind_iff, mapError_eq_ok]
  constructor
  · rintro ⟨p, ⟨-, rfl⟩, q, ⟨-, rfl⟩, h⟩
    obtain ⟨ht, rfl⟩ := CanBitTiming.new_eq_ok.mp h
    exact ⟨ht, rfl⟩
  · rintro ⟨ht, ⟨⟩⟩
    exact ⟨_, ⟨fun _ _ => trivial, rfl⟩, _, ⟨fun _ _ => trivial, rfl⟩, ht⟩

theorem canLinkExpectation_exact :
    Codec.Exact CanLinkExpectation.Built CanLinkExpectation.toProto CanLinkExpectation.tryFrom := by
  rintro ⟨mode, nominal, data, listenOnly, loopback⟩ x
  simp only [CanLinkExpectation.tryFrom, (mode_exact _).option.bind_iff, mapError_eq_ok]
  constructor
  · rintro ⟨p, ⟨-, rfl⟩, h⟩
    obtain ⟨hx, rfl⟩ := CanLinkExpectation.new_eq_ok.mp h
    exact ⟨hx, rfl⟩
  · rintro ⟨hx, ⟨⟩⟩
    exact ⟨_, ⟨fun _ _ => trivial, rfl⟩, hx⟩

theorem canConfigureConfig_exact :
    Codec.Exact CanConfigureConfig.Built CanConfigureConfig.toProto CanConfigureConfig.tryFrom := by
  rintro ⟨mode, nominal, data, listenOnly, loopback, restartMs⟩ x
  simp only [CanConfigureConfig.tryFrom, (mode_exact _).bind_iff, (required_exact _).bind_iff,
    canBitTiming_exact.bind_iff, canBitTiming_exact.option.bind_iff, mapError_eq_ok]
  constructor
  · rintro ⟨p, ⟨-, rfl⟩, _, ⟨-, rfl⟩, t, ⟨hnominal, rfl⟩, d, ⟨hdata, rfl⟩, hx⟩
    obtain rfl := CanConfigureConfig.newWithRestart_eq hx
    exact ⟨⟨hnominal, hdata, hx⟩, rfl⟩
  · rintro ⟨⟨hnominal, hdata, hx⟩, ⟨⟩⟩
    exact ⟨_, ⟨trivial, rfl⟩, _, ⟨trivial, rfl⟩, _, ⟨hnominal, rfl⟩, _, ⟨hdata, rfl⟩, hx⟩

theorem canOpenConfig_exact :
    Codec.Exact CanOpenConfig.Built CanOpenConfig.toProto CanOpenConfig.tryFrom := by
  rintro ⟨config⟩ x
  constructor
  · intro h
    obtain ⟨m, hm, h⟩ := bind_eq_ok.mp h
    obtain rfl : config = some m := required_eq_ok.mp hm
    cases m with
    | attach m =>
      obtain ⟨y, hy, hx⟩ := bind_eq_ok.mp h
      obtain ⟨hb, rfl⟩ := (canLinkExpectation_exact m y).mp hy
      obtain rfl := Except.ok.inj hx
      exact ⟨hb, rfl⟩
    | configure m =>
      obtain ⟨y, hy, hx⟩ := bind_eq_ok.mp h
      obtain ⟨hb, rfl⟩ := (canConfigureConfig_exact m y).mp hy
      obtain rfl := Except.ok.inj hx
      exact ⟨hb, rfl⟩
  · rintro ⟨hb, hm⟩
    rw [hm]
    cases x with
    | attach y => exact bind_eq_ok.mpr ⟨y, canLinkExpectation_exact.decode_encode hb, rfl⟩
    | configure y => exact bind_eq_ok.mpr ⟨y, canConfigureConfig_exact.decode_encode hb, rfl⟩

theorem canFilter_exact : Codec.Exact CanFilter.Built CanFilter.toProto CanFilter.tryFrom := by
  rintro ⟨id, mask, format, classes⟩ f
  simp only [CanFilter.tryFrom, filterFormat_exact.bind_iff, (required_exact _).bind_iff,
    mapError_eq_ok]
  constructor
  · rintro ⟨p, ⟨-, rfl⟩, m, ⟨-, rfl⟩, h⟩
    obtain ⟨hf, rfl⟩ := CanFilter.new_eq_ok.mp h
    exact ⟨hf, rfl⟩
  · rintro ⟨hf, ⟨⟩⟩
    exact ⟨_, ⟨trivial, rfl⟩, _, ⟨trivial, rfl⟩, hf⟩

theorem canFilterSet_exact :
    Codec.Exact CanFilterSet.Built CanFilterSet.toProto CanFilterSet.tryFrom := by
  rintro ⟨filters⟩ fs
  constructor
  · intro h
    rw [CanFilterSet.tryFrom] at h
    split at h
    · cases h
    · obtain ⟨l, hl, hnew⟩ := bind_eq_ok.mp h
      obtain ⟨hb, rfl⟩ := (canFilter_exact.list filters l).mp hl
      have hset := mapError_eq_ok.mp hnew
      obtain ⟨-, rfl⟩ := CanFilterSet.new_eq_ok.mp hset
      exact ⟨⟨hb, hset⟩, rfl⟩
  · rintro ⟨⟨hb, hset⟩, hm⟩
    obtain ⟨hlen, -⟩ := CanFilterSet.new_eq_ok.mp hset
    have hshort : ¬fs.toProto.filters.length > maxCanFilters := by
      simpa [CanFilterSet.toProto] using hlen
    rw [hm, CanFilterSet.tryFrom, if_neg hshort]
    exact bind_eq_ok.mpr ⟨fs, canFilter_exact.list.decode_encode hb, mapError_eq_ok.mpr hset⟩

/-- **Nothing of a CAN value is lost or changed on the wire**, and no two messages stand for the
same value. -/
theorem can_values_survive_wire :
    Codec.Exact (fun id : CanId => validateId id = .ok ()) CanId.toProto CanId.tryFrom ∧
    Codec.Exact (fun f : CanFrame => f.validate = .ok ()) CanFrame.toProto CanFrame.tryFrom ∧
    Codec.Exact ReceivedCanFrame.Valid ReceivedCanFrame.toProto ReceivedCanFrame.tryFrom ∧
    Codec.Exact CanFilterSet.Built CanFilterSet.toProto CanFilterSet.tryFrom ∧
    Codec.Exact CanOpenConfig.Built CanOpenConfig.toProto CanOpenConfig.tryFrom :=
  ⟨canId_exact, canFrame_exact, receivedCanFrame_exact, canFilterSet_exact, canOpenConfig_exact⟩

/-! ### The answer to a batch -/

structure V1.CanSendResponse where
  committedCount : UInt32
  error : Option V1.Error

/-- Two messages are equal, and so are the errors in them. -/
structure V1.CanSendResponse.Equal (m m' : V1.CanSendResponse) : Prop where
  committedCount : m'.committedCount = m.committedCount
  error : Option.Rel V1.Error.Equal m.error m'.error

def validateInputCount (inputCount : ℕ) : HalResult Unit :=
  if 1 ≤ inputCount ∧ inputCount ≤ maxCanBatchFrames then .ok ()
  else .error (invalid "can_send.input_count" "must be 1..=64")

def canSendResponseToProto (result : Except CanBatchSendError Unit) (inputCount : ℕ) :
    HalResult V1.CanSendResponse := do
  validateInputCount inputCount
  match result with
  | .ok _ => return ⟨UInt32.ofNat inputCount, none⟩
  | .error e =>
    if e.committed < inputCount then
      return ⟨UInt32.ofNat e.committed, some e.error.toProto⟩
    else
      throw (invalid "can_send_response.committed_count"
        "must be a strict input prefix when error is present")

/-- A count of 32 bits is always in the range of a `usize`. -/
def canSendResponseFromProto (m : V1.CanSendResponse) (inputCount : ℕ) :
    HalResult (Except CanBatchSendError Unit) := do
  validateInputCount inputCount
  let committed := m.committedCount.toNat
  match m.error with
  | none =>
    if committed = inputCount then return .ok ()
    else
      throw (invalid "can_send_response.committed_count"
        "must equal the input count when error is absent")
  | some e =>
    if committed < inputCount then return .error (.backendPrefix (← errorFromProto e) committed)
    else
      throw (invalid "can_send_response.committed_count"
        "must be a strict input prefix when error is present")

lemma toNat_ofNat_count (h : n ≤ maxCanBatchFrames) : (UInt32.ofNat n).toNat = n := by
  apply UInt32.toNat_ofNat_of_lt'
  unfold maxCanBatchFrames at h
  have hsize : UInt32.size = 4294967296 := rfl
  omega

/-- The answer to a batch is read back from any message equal to its own. -/
theorem canSendResponse_roundTrip {result : Except CanBatchSendError Unit}
    (hn : 1 ≤ n ∧ n ≤ maxCanBatchFrames)
    (hres : ∀ e, result = .error e → e.committed < n ∧ e.error.Built) :
    ∃ m, canSendResponseToProto result n = .ok m ∧
      ∀ m', m.Equal m' → canSendResponseFromProto m' n = .ok result := by
  have hcount : validateInputCount n = .ok () := if_pos hn
  rcases result with e | ⟨⟩
  · obtain ⟨hlt, hbuilt⟩ := hres e rfl
    refine ⟨⟨UInt32.ofNat e.committed, some e.error.toProto⟩, ?_, fun m' hm => ?_⟩
    · rw [canSendResponseToProto, hcount, ok_bind]
      exact if_pos hlt
    · obtain ⟨count, error⟩ := m'
      obtain rfl : count = UInt32.ofNat e.committed := hm.committedCount
      have hdec : (UInt32.ofNat e.committed).toNat = e.committed :=
        toNat_ofNat_count (hlt.le.trans hn.2)
      have herr := hm.error
      rcases error with _ | m
      · cases herr
      · obtain ⟨herr⟩ := herr
        rw [canSendResponseFromProto, hcount, ok_bind]
        dsimp only
        rw [hdec, if_pos hlt, errorFromProto_toProto hbuilt.wellFormed herr]
        rfl
  · refine ⟨⟨UInt32.ofNat n, none⟩, ?_, fun m' hm => ?_⟩
    · rw [canSendResponseToProto, hcount]
      rfl
    · obtain ⟨count, error⟩ := m'
      obtain rfl : count = UInt32.ofNat n := hm.committedCount
      have herr := hm.error
      rcases error with _ | m
      · rw [canSendResponseFromProto, hcount, ok_bind]
        dsimp only
        rw [toNat_ofNat_count hn.2, if_pos rfl]
        rfl
      · cases herr

end RobotHal
