import RobotHal.ErrorWire
import RobotHal.ProtoWire

/-!
Camera controls and the messages that describe them.

A control has a range of integers or a list of values. The messages of the list are one-of
fields: a value that is sent is sent even where it is zero or empty.
-/

namespace RobotHal.Camera

open Proto

inductive CameraControlKind
  | exposure
  | gain
  | whiteBalance
  | focus
deriving DecidableEq

inductive CameraControlValue
  | integer (value : Int64)
  | enum (value : String)
deriving DecidableEq

inductive CameraControlValues
  | range (minimum maximum step : Int64)
  | enumerated (values : List CameraControlValue)
deriving DecidableEq

structure CameraControlDescriptor where
  kind : CameraControlKind
  readable : Bool
  writable : Bool
  autoSupported : Bool
  values : CameraControlValues
  currentValueAvailable : Bool
  diagnostic : Option String
deriving DecidableEq

/-! ### Messages -/

namespace V1

inductive CameraControlKind
  | unspecified
  | exposure
  | gain
  | whiteBalance
  | focus
deriving DecidableEq

instance : Enumeration CameraControlKind where
  values := [.unspecified, .exposure, .gain, .whiteBalance, .focus]
  number
    | .unspecified => 0
    | .exposure => 1
    | .gain => 2
    | .whiteBalance => 3
    | .focus => 4
  mem_values e := by cases e <;> decide
  number_injective a b h := by cases a <;> cases b <;> first | rfl | cases h

/-- The one-of of a control value. -/
inductive CameraControlValue.Value
  | integerValue (value : Int64)
  | enumValue (value : String)
deriving DecidableEq

structure CameraControlValue where
  value : Option CameraControlValue.Value
deriving DecidableEq

structure CameraControlRange where
  minimum : Int64
  maximum : Int64
  step : Int64
deriving DecidableEq

structure CameraControlEnumValues where
  values : List CameraControlValue
deriving DecidableEq

inductive CameraControlValues.Values
  | range (range : CameraControlRange)
  | enumerated (values : CameraControlEnumValues)
deriving DecidableEq

structure CameraControlValues where
  values : Option CameraControlValues.Values
deriving DecidableEq

structure CameraControlDescriptor where
  kind : ℤ
  readable : Bool
  writable : Bool
  autoSupported : Bool
  values : Option CameraControlValues
  currentValueAvailable : Bool
  diagnostic : String
deriving DecidableEq

structure CameraControlsResponse where
  controls : List CameraControlDescriptor

def CameraControlValue.encode (m : CameraControlValue) : List UInt8 :=
  match m.value with
  | none => []
  | some (.integerValue value) => varint (key 1 0) ++ varint (zigzag value.toInt)
  | some (.enumValue value) => delimited 2 (utf8 value)

def CameraControlRange.encode (m : CameraControlRange) : List UInt8 :=
  sintField 1 m.minimum.toInt ++ sintField 2 m.maximum.toInt ++ sintField 3 m.step.toInt

def CameraControlEnumValues.encode (m : CameraControlEnumValues) : List UInt8 :=
  repeatedField 1 (m.values.map CameraControlValue.encode)

def CameraControlValues.encode (m : CameraControlValues) : List UInt8 :=
  match m.values with
  | none => []
  | some (.range range) => delimited 1 range.encode
  | some (.enumerated values) => delimited 2 values.encode

def CameraControlDescriptor.encode (m : CameraControlDescriptor) : List UInt8 :=
  enumField 1 m.kind ++ boolField 2 m.readable ++ boolField 3 m.writable
    ++ boolField 4 m.autoSupported ++ messageField 5 (m.values.map CameraControlValues.encode)
    ++ boolField 6 m.currentValueAvailable ++ stringField 7 m.diagnostic

def CameraControlsResponse.encode (m : CameraControlsResponse) : List UInt8 :=
  repeatedField 1 (m.controls.map CameraControlDescriptor.encode)

end V1

/-! ### Conversions -/

def CameraControlKind.toProto : CameraControlKind → V1.CameraControlKind
  | .exposure => .exposure
  | .gain => .gain
  | .whiteBalance => .whiteBalance
  | .focus => .focus

def cameraControlValueToProto : CameraControlValue → V1.CameraControlValue
  | .integer value => ⟨some (.integerValue value)⟩
  | .enum value => ⟨some (.enumValue value)⟩

def CameraControlValues.toProto : CameraControlValues → V1.CameraControlValues.Values
  | .range minimum maximum step => .range ⟨minimum, maximum, step⟩
  | .enumerated values => .enumerated ⟨values.map cameraControlValueToProto⟩

def cameraControlDescriptorToProto (x : CameraControlDescriptor) :
    V1.CameraControlDescriptor where
  kind := Enumeration.number x.kind.toProto
  readable := x.readable
  writable := x.writable
  autoSupported := x.autoSupported
  values := some ⟨some x.values.toProto⟩
  currentValueAvailable := x.currentValueAvailable
  diagnostic := x.diagnostic.getD ""

/-! ### Public bounds -/

def maxControls : ℕ := 4
def maxEnumeratedValues : ℕ := 64
def maxControlTextBytes : ℕ := 255

/-- What `camera_control_value_from_proto` admits. -/
def CameraControlValue.Public : CameraControlValue → Prop
  | .integer _ => True
  | .enum value => value ≠ "" ∧ isAscii value = true ∧ value.utf8ByteSize ≤ maxControlTextBytes

def CameraControlValues.Public : CameraControlValues → Prop
  | .range minimum maximum step => minimum ≤ maximum ∧ 0 < step
  | .enumerated values =>
    values ≠ [] ∧ values.length ≤ maxEnumeratedValues ∧ ∀ v ∈ values, v.Public

/-- What `camera_control_descriptor_from_proto` admits. -/
structure CameraControlDescriptor.Public (x : CameraControlDescriptor) : Prop where
  values : x.values.Public
  diagnostic : ∀ text ∈ x.diagnostic, isAscii text = true ∧ text.utf8ByteSize ≤ maxControlTextBytes
  current : x.currentValueAvailable = true → x.readable = true

/-- The controls a response may describe. -/
def PublicControls (controls : List CameraControlDescriptor) : Prop :=
  controls.length ≤ maxControls ∧ ∀ x ∈ controls, x.Public

/-! ### Lengths -/

lemma length_encode_value {v : CameraControlValue} (h : v.Public) :
    (cameraControlValueToProto v).encode.length ≤ 258 := by
  cases v with
  | integer n =>
    have hlow : -2 ^ 63 ≤ n.toInt := n.le_toInt
    have hhigh : n.toInt < 2 ^ 63 := n.toInt_lt
    have hzigzag := zigzag_lt hlow hhigh
    have hlen : (varint (zigzag n.toInt)).length ≤ 10 := length_varint_le_iff.mpr (by omega)
    simp only [cameraControlValueToProto, V1.CameraControlValue.encode, List.length_append,
      length_varint_key (by decide : 1 < 16) (by decide : 0 < 8)]
    omega
  | enum value =>
    have hmax : delimitedLen 2 255 = 258 := by decide +kernel
    have hlen := delimitedLen_mono 2 h.2.2
    simp only [cameraControlValueToProto, V1.CameraControlValue.encode, length_delimited,
      length_utf8]
    exact hlen.trans_eq hmax

lemma length_encode_values {values : CameraControlValues} (h : values.Public) :
    (V1.CameraControlValues.encode ⟨some values.toProto⟩).length ≤ 16708 := by
  cases values with
  | range minimum maximum step =>
    have hfield (n : ℕ) (hn : n < 16) (x : Int64) : (sintField n x.toInt).length ≤ 11 :=
      length_sintField_le hn x.le_toInt x.toInt_lt
    have h1 := hfield 1 (by decide) minimum
    have h2 := hfield 2 (by decide) maximum
    have h3 := hfield 3 (by decide) step
    have hlen : (V1.CameraControlRange.encode ⟨minimum, maximum, step⟩).length ≤ 33 := by
      simp only [V1.CameraControlRange.encode, List.length_append]
      omega
    have hfits := (delimitedLen_mono 1 hlen).trans_eq (delimitedLen_short (by decide) (by decide))
    simp only [CameraControlValues.toProto, V1.CameraControlValues.encode, length_delimited]
    omega
  | enumerated values =>
    have hvalue : ∀ m ∈ (values.map cameraControlValueToProto).map V1.CameraControlValue.encode,
        m.length ≤ 258 := by
      intro m hm
      rw [List.map_map] at hm
      obtain ⟨v, hv, rfl⟩ := List.mem_map.mp hm
      exact length_encode_value (h.2.2 v hv)
    have hone : delimitedLen 1 258 = 261 := by decide +kernel
    have hlist : (repeatedField 1 _).length ≤ _ := length_repeatedField_le hvalue
    rw [hone, List.length_map, List.length_map] at hlist
    have hcount : values.length ≤ 64 := h.2.1
    have hbody : (V1.CameraControlEnumValues.encode
        ⟨values.map cameraControlValueToProto⟩).length ≤ 16704 := by
      simp only [V1.CameraControlEnumValues.encode]
      omega
    simp only [CameraControlValues.toProto, V1.CameraControlValues.encode, length_delimited]
    exact (delimitedLen_mono 2 hbody).trans_eq (by decide +kernel)

lemma length_encode_descriptor {x : CameraControlDescriptor} (h : x.Public) :
    (cameraControlDescriptorToProto x).encode.length ≤ 16980 := by
  have hkind : (enumField 1 (Enumeration.number x.kind.toProto)).length ≤ 2 := by
    cases x.kind <;> decide +kernel
  have hbool (n : ℕ) (hn : n < 16) (b : Bool) : (boolField n b).length ≤ 2 :=
    length_boolField_le hn b
  have h2 := hbool 2 (by decide) x.readable
  have h3 := hbool 3 (by decide) x.writable
  have h4 := hbool 4 (by decide) x.autoSupported
  have h6 := hbool 6 (by decide) x.currentValueAvailable
  have hvalues : (messageField 5 (some (V1.CameraControlValues.encode
      ⟨some x.values.toProto⟩))).length ≤ 16712 := by
    refine (length_messageField_le (n := 16708) ?_).trans_eq (by decide +kernel)
    intro m hm
    cases hm
    exact length_encode_values h.values
  have hdiagnostic : (stringField 7 (x.diagnostic.getD "")).length ≤ 258 := by
    refine (length_stringField_le (n := 255) ?_).trans_eq (by decide +kernel)
    cases hd : x.diagnostic with
    | none => decide
    | some text => exact (h.diagnostic text hd).2
  simp only [cameraControlDescriptorToProto, V1.CameraControlDescriptor.encode, Option.map_some,
    List.length_append]
  omega

lemma length_encode_controls {controls : List CameraControlDescriptor}
    (h : PublicControls controls) :
    (V1.CameraControlsResponse.encode ⟨controls.map cameraControlDescriptorToProto⟩).length
      ≤ 67936 := by
  have hone : delimitedLen 1 16980 = 16984 := by decide +kernel
  have hdescriptor : ∀ m ∈ (controls.map cameraControlDescriptorToProto).map
      V1.CameraControlDescriptor.encode, m.length ≤ 16980 := by
    intro m hm
    rw [List.map_map] at hm
    obtain ⟨x, hx, rfl⟩ := List.mem_map.mp hm
    exact length_encode_descriptor (h.2 x hx)
  have hlist : (repeatedField 1 _).length ≤ _ := length_repeatedField_le hdescriptor
  rw [hone, List.length_map, List.length_map] at hlist
  have hcount : controls.length ≤ 4 := h.1
  simp only [V1.CameraControlsResponse.encode]
  omega

end RobotHal.Camera
