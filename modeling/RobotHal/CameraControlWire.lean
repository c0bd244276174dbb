import RobotHal.CameraControl
import RobotHal.Client
import RobotHal.Codec

/-!
# Camera controls: what is built, what is contained, what survives the wire

The constructors ask for an ordered range with a positive step and for a list that is not empty.
The decoder asks for more: the texts of a control are short ASCII, a list has at most sixty-four
values, a response at most four controls. It accepts exactly the messages of the descriptors that
meet these bounds, so whatever else an adapter builds does not come back from the wire.
-/

namespace RobotHal.Camera

open Proto

variable {minimum maximum step a b : Int64} {x : CameraControlDescriptor}

/-! ### Constructors -/

def invalidControlDescriptor (operation message : String) : HalError :=
  HalError.new "camera.control.invalid" .invalidArgument operation false message

def CameraControlValues.range? (minimum maximum step : Int64) : HalResult CameraControlValues :=
  if minimum > maximum ∨ step ≤ 0 then
    .error (invalidControlDescriptor "camera.control_values"
      "camera control range must be ordered with a positive step")
  else .ok (.range minimum maximum step)

def CameraControlValues.enumerated? (values : List CameraControlValue) :
    HalResult CameraControlValues :=
  if values = [] then
    .error (invalidControlDescriptor "camera.control_values"
      "camera enumerated controls must have one or more values")
  else .ok (.enumerated values)

def CameraControlDescriptor.new (kind : CameraControlKind) (readable writable autoSupported : Bool)
    (values : CameraControlValues) (currentValueAvailable : Bool) (diagnostic : Option String) :
    HalResult CameraControlDescriptor :=
  if !readable && currentValueAvailable then
    .error (invalidControlDescriptor "camera.control_descriptor"
      "unreadable controls cannot advertise a current value")
  else .ok ⟨kind, readable, writable, autoSupported, values, currentValueAvailable, diagnostic⟩

/-- Values that a constructor returned. -/
inductive CameraControlValues.Built : CameraControlValues → Prop
  | range {minimum maximum step : Int64} {x : CameraControlValues}
      (h : CameraControlValues.range? minimum maximum step = .ok x) : Built x
  | enumerated {values : List CameraControlValue} {x : CameraControlValues}
      (h : CameraControlValues.enumerated? values = .ok x) : Built x

/-- A descriptor that its constructor returned, from such values. -/
def CameraControlDescriptor.Built (x : CameraControlDescriptor) : Prop :=
  ∃ kind readable writable autoSupported values currentValueAvailable diagnostic,
    CameraControlValues.Built values
      ∧ CameraControlDescriptor.new kind readable writable autoSupported values
          currentValueAvailable diagnostic = .ok x

lemma CameraControlValues.range?_eq_ok {x : CameraControlValues} :
    CameraControlValues.range? minimum maximum step = .ok x ↔
      (minimum ≤ maximum ∧ 0 < step) ∧ x = .range minimum maximum step := by
  unfold range?
  simp only [gt_iff_lt, Int64.lt_iff_toInt_lt, Int64.le_iff_toInt_le]
  split
  · rename_i h
    constructor
    · intro heq
      cases heq
    · rintro ⟨⟨hle, hpos⟩, -⟩
      omega
  · rename_i h
    constructor
    · intro heq
      exact ⟨by omega, (Except.ok.inj heq).symm⟩
    · rintro ⟨-, rfl⟩
      rfl

lemma CameraControlValues.enumerated?_eq_ok {values : List CameraControlValue}
    {x : CameraControlValues} :
    CameraControlValues.enumerated? values = .ok x ↔ values ≠ [] ∧ x = .enumerated values := by
  unfold enumerated?
  split <;> simp_all [eq_comm]

lemma CameraControlDescriptor.new_eq_ok {kind : CameraControlKind}
    {readable writable autoSupported current : Bool} {values : CameraControlValues}
    {diagnostic : Option String} :
    CameraControlDescriptor.new kind readable writable autoSupported values current diagnostic =
      .ok x ↔
      (current = true → readable = true)
        ∧ x = ⟨kind, readable, writable, autoSupported, values, current, diagnostic⟩ := by
  unfold new
  cases readable <;> cases current <;> simp [eq_comm]

lemma built_of_values (hvalues : x.values.Built)
    (hcurrent : x.currentValueAvailable = true → x.readable = true) : x.Built :=
  ⟨_, _, _, _, _, _, _, hvalues, CameraControlDescriptor.new_eq_ok.mpr ⟨hcurrent, rfl⟩⟩

/-! ### Membership -/

/-- `a - b`; with overflow checks compiled in, an overflow panics. -/
def subtract (overflowChecks : Bool) (a b : Int64) : Option Int64 :=
  if overflowChecks ∧ ¬(-2 ^ 63 ≤ a.toInt - b.toInt ∧ a.toInt - b.toInt < 2 ^ 63) then none
  else some (a - b)

/-- `a % b`, which panics for a zero divisor and where the quotient overflows. -/
def remainder (a b : Int64) : Option Int64 :=
  if b = 0 ∨ (a = Int64.minValue ∧ b = -1) then none else some (a % b)

/-- `none` is a panic. -/
def CameraControlValues.contains (overflowChecks : Bool) :
    CameraControlValues → CameraControlValue → Option Bool
  | .range minimum maximum step, .integer value =>
    if value ≥ minimum ∧ value ≤ maximum then do
      let offset ← subtract overflowChecks value minimum
      let rest ← remainder offset step
      return rest == 0
    else some false
  | .enumerated values, value => some (values.contains value)
  | _, _ => some false

/-- The values of a range, in unbounded arithmetic. -/
def OnGrid (minimum maximum step value : Int64) : Prop :=
  ∃ k : ℕ, value.toInt = minimum.toInt + k * step.toInt ∧ value.toInt ≤ maximum.toInt

lemma toInt_sub_of_lt (hle : b.toInt ≤ a.toInt) (h : a.toInt - b.toInt < 2 ^ 63) :
    (a - b).toInt = a.toInt - b.toInt := by
  rw [Int64.toInt_sub]
  exact Int.bmod_eq_of_le (by omega) (by omega)

lemma remainder_of_pos (h : 0 < b) : remainder a b = some (a % b) := by
  have hpos : (0 : ℤ) < b.toInt := Int64.lt_iff_toInt_lt.mp h
  unfold remainder
  rw [if_neg]
  rintro (rfl | ⟨-, rfl⟩)
  · exact absurd hpos (by decide)
  · exact absurd hpos (by decide)

lemma mod_beq_zero_iff : (a % b == 0) = true ↔ b.toInt ∣ a.toInt := by
  rw [beq_iff_eq, ← Int64.toInt_inj, Int64.toInt_mod]
  exact (Int.dvd_iff_tmod_eq_zero).symm

lemma onGrid_iff {value : Int64} (hstep : 0 < step) :
    OnGrid minimum maximum step value ↔ (minimum ≤ value ∧ value ≤ maximum)
      ∧ step.toInt ∣ value.toInt - minimum.toInt := by
  have hpos : (0 : ℤ) < step.toInt := Int64.lt_iff_toInt_lt.mp hstep
  rw [Int64.le_iff_toInt_le, Int64.le_iff_toInt_le]
  constructor
  · rintro ⟨k, hk, hmax⟩
    have hnonneg : 0 ≤ k * step.toInt := Int.mul_nonneg (Int.natCast_nonneg k) hpos.le
    refine ⟨⟨by omega, hmax⟩, k, ?_⟩
    rw [Int.mul_comm, hk]
    omega
  · rintro ⟨⟨hmin, hmax⟩, k, hk⟩
    have hk0 : 0 ≤ k := by
      refine nonneg_of_mul_nonneg_right ?_ hpos
      omega
    refine ⟨k.toNat, ?_, hmax⟩
    rw [Int.toNat_of_nonneg hk0, Int.mul_comm, ← hk]
    omega

lemma contains_of_fits {value : Int64} (hstep : 0 < step)
    (h : minimum ≤ value → value ≤ maximum → value.toInt - minimum.toInt < 2 ^ 63)
    (overflowChecks : Bool) :
    ∃ b, (CameraControlValues.range minimum maximum step).contains overflowChecks (.integer value)
        = some b ∧ (b = true ↔ OnGrid minimum maximum step value) := by
  rw [onGrid_iff hstep]
  unfold CameraControlValues.contains
  dsimp only [ge_iff_le]
  split
  · rename_i hin
    have hlt := h hin.1 hin.2
    have hle : minimum.toInt ≤ value.toInt := Int64.le_iff_toInt_le.mp hin.1
    have hsub : subtract overflowChecks value minimum = some (value - minimum) := by
      unfold subtract
      rw [if_neg]
      rintro ⟨-, hno⟩
      omega
    refine ⟨(value - minimum) % step == 0, ?_, ?_⟩
    · rw [hsub, Option.bind_eq_bind, Option.bind_some, remainder_of_pos hstep]
      rfl
    · rw [mod_beq_zero_iff, toInt_sub_of_lt hle hlt, and_iff_right hin]
  · rename_i hout
    exact ⟨false, rfl, by simp [hout]⟩

/-- **Stepped ranges.** Membership of an integer is decided without overflow and as the grid says
exactly for the values that do not lie `2 ^ 63` or more above the minimum. -/
theorem range_contains_iff_fits {minimum maximum step : Int64} {x : CameraControlValues}
    (h : CameraControlValues.range? minimum maximum step = .ok x) (value : Int64) :
    (∀ overflowChecks, ∃ b, x.contains overflowChecks (.integer value) = some b
      ∧ (b = true ↔ OnGrid minimum maximum step value))
    ↔ ¬(minimum ≤ value ∧ value ≤ maximum ∧ 2 ^ 63 ≤ value.toInt - minimum.toInt) := by
  obtain ⟨⟨-, hstep⟩, rfl⟩ := CameraControlValues.range?_eq_ok.mp h
  constructor
  · rintro hall ⟨hmin, hmax, hfar⟩
    obtain ⟨b, hb, -⟩ := hall true
    -- the build with overflow checks panics in the subtraction
    have hpanic : subtract true value minimum = none := by
      unfold subtract
      rw [if_pos ⟨rfl, by omega⟩]
    simp only [CameraControlValues.contains, ge_iff_le, hmin, hmax, and_self, if_true, hpanic] at hb
    cases hb
  · intro hnear
    exact contains_of_fits hstep fun hmin hmax => by
      by_contra hfar
      exact hnear ⟨hmin, hmax, Int.not_lt.mp hfar⟩

theorem range_contains_iff_fits_percent :
    ∃ x, CameraControlValues.range? 0 100 5 = .ok x
      ∧ ∀ overflowChecks, ∃ b, x.contains overflowChecks (.integer 45) = some b
        ∧ (b = true ↔ OnGrid 0 100 5 45) :=
  ⟨.range 0 100 5, rfl, (range_contains_iff_fits rfl 45).mpr (by decide)⟩

/-- One is on the grid of threes from the least `i64` to the greatest. A build with overflow checks
panics over it and a build without them denies it. -/
theorem range_contains_overflows :
    ∃ x, CameraControlValues.range? Int64.minValue Int64.maxValue 3 = .ok x
      ∧ OnGrid Int64.minValue Int64.maxValue 3 1
      ∧ x.contains true (.integer 1) = none
      ∧ x.contains false (.integer 1) = some false :=
  ⟨.range Int64.minValue Int64.maxValue 3, rfl, ⟨3074457345618258603, by decide, by decide⟩,
    by decide, by decide⟩

/-! ### Decoding -/

def cameraControlKindFromProto (value : ℤ) : HalResult CameraControlKind :=
  match Enumeration.tryFrom V1.CameraControlKind value with
  | none => .error (invalidMessage "camera control kind has an unknown value")
  | some .exposure => .ok .exposure
  | some .gain => .ok .gain
  | some .whiteBalance => .ok .whiteBalance
  | some .focus => .ok .focus
  | some .unspecified => .error (invalidMessage "camera control kind is required")

def cameraControlValueFromProto (m : V1.CameraControlValue) : HalResult CameraControlValue :=
  match m.value with
  | some (.integerValue value) => .ok (.integer value)
  | some (.enumValue value) =>
    if value ≠ "" ∧ isAscii value = true ∧ value.utf8ByteSize ≤ maxControlTextBytes then
      .ok (.enum value)
    else .error (invalidMessage "camera enum control value is invalid")
  | none => .error (invalidMessage "camera control value is required")

/-- The values of a descriptor; the errors of the constructors are replaced. -/
def cameraControlValuesFromProto (m : V1.CameraControlValues) : HalResult CameraControlValues :=
  match m.values with
  | some (.range range) =>
    (CameraControlValues.range? range.minimum range.maximum range.step).mapError fun _ =>
      invalidMessage "camera control values are invalid"
  | some (.enumerated values) =>
    if values.values.length > maxEnumeratedValues then
      .error (invalidMessage "camera enumerated control values exceed bound")
    else
      (values.values.mapM cameraControlValueFromProto).bind fun values =>
        (CameraControlValues.enumerated? values).mapError fun _ =>
          invalidMessage "camera control values are invalid"
  | none => .error (invalidMessage "camera control values kind is required")

def cameraControlDescriptorFromProto (m : V1.CameraControlDescriptor) :
    HalResult CameraControlDescriptor :=
  (okOr m.values (invalidMessage "camera control values are required")).bind fun values =>
  (cameraControlValuesFromProto values).bind fun values =>
  if m.diagnostic ≠ "" ∧
      (isAscii m.diagnostic = false ∨ m.diagnostic.utf8ByteSize > maxControlTextBytes) then
    .error (invalidMessage "camera control diagnostic is invalid")
  else
    (cameraControlKindFromProto m.kind).bind fun kind =>
    (CameraControlDescriptor.new kind m.readable m.writable m.autoSupported values
      m.currentValueAvailable (if m.diagnostic = "" then none else some m.diagnostic)).mapError
        fun _ => invalidMessage "camera control descriptor is invalid"

def cameraControlsResponseFromProto (m : V1.CameraControlsResponse) :
    HalResult (List CameraControlDescriptor) :=
  if m.controls.length > maxControls then
    .error (invalidMessage "camera control descriptor count exceeds bound")
  else m.controls.mapM cameraControlDescriptorFromProto

/-! ### The decoders are exact -/

lemma kind_exact : Codec.Exact (fun _ => True)
    (fun x : CameraControlKind => Enumeration.number x.toProto) cameraControlKindFromProto := by
  intro value kind
  unfold cameraControlKindFromProto
  constructor
  · intro h
    refine ⟨trivial, ?_⟩
    split at h <;> cases h <;> exact (Enumeration.number_of_tryFrom ‹_›).symm
  · rintro ⟨-, rfl⟩
    rw [Enumeration.tryFrom_number]
    cases kind <;> rfl

lemma value_exact : Codec.Exact CameraControlValue.Public cameraControlValueToProto
    cameraControlValueFromProto := by
  intro m x
  constructor
  · intro h
    unfold cameraControlValueFromProto at h
    split at h
    · rename_i value hm
      obtain rfl := Except.ok.inj h
      exact ⟨trivial, congrArg V1.CameraControlValue.mk hm⟩
    · rename_i text hm
      split at h
      · rename_i hpublic
        obtain rfl := Except.ok.inj h
        exact ⟨hpublic, congrArg V1.CameraControlValue.mk hm⟩
      · cases h
    · cases h
  · rintro ⟨hpublic, rfl⟩
    cases x with
    | integer value => rfl
    | enum text => exact if_pos hpublic

lemma values_exact : Codec.Exact CameraControlValues.Public
    (fun x : CameraControlValues => ⟨some x.toProto⟩) cameraControlValuesFromProto := by
  intro m x
  constructor
  · intro h
    unfold cameraControlValuesFromProto at h
    split at h
    · rename_i range hm
      obtain ⟨hrange, rfl⟩ := CameraControlValues.range?_eq_ok.mp (mapError_eq_ok.mp h)
      exact ⟨hrange, congrArg V1.CameraControlValues.mk hm⟩
    · rename_i list hm
      split at h
      · cases h
      rename_i hlen
      obtain ⟨values, hvalues, h⟩ := bind_eq_ok.mp h
      obtain ⟨hne, rfl⟩ := CameraControlValues.enumerated?_eq_ok.mp (mapError_eq_ok.mp h)
      obtain ⟨hpublic, heq⟩ := (value_exact.list _ _).mp hvalues
      rw [heq, List.length_map] at hlen
      refine ⟨⟨hne, Nat.not_lt.mp hlen, hpublic⟩, ?_⟩
      rw [show list = ⟨values.map cameraControlValueToProto⟩ from
        congrArg V1.CameraControlEnumValues.mk heq] at hm
      exact congrArg V1.CameraControlValues.mk hm
    · cases h
  · rintro ⟨hpublic, rfl⟩
    cases x with
    | range minimum maximum step =>
      exact mapError_eq_ok.mpr (CameraControlValues.range?_eq_ok.mpr ⟨hpublic, rfl⟩)
    | enumerated values =>
      obtain ⟨hne, hlen, hvalues⟩ := hpublic
      have hdecoded := value_exact.list.decode_encode hvalues
      simp only [cameraControlValuesFromProto, CameraControlValues.toProto, List.length_map]
      rw [if_neg (Nat.not_lt.mpr hlen), hdecoded]
      exact mapError_eq_ok.mpr (CameraControlValues.enumerated?_eq_ok.mpr ⟨hne, rfl⟩)

/-- The diagnostic as the message has it, which knows no empty text. -/
def CameraControlDescriptor.Representable (x : CameraControlDescriptor) : Prop :=
  x.Public ∧ x.diagnostic ≠ some ""

lemma descriptor_exact : Codec.Exact CameraControlDescriptor.Representable
    cameraControlDescriptorToProto cameraControlDescriptorFromProto := by
  intro m x
  constructor
  · intro h
    obtain ⟨number, readable, writable, autoSupported, wire, current, diagnostic⟩ := m
    obtain ⟨_, hwire, hrest⟩ := bind_eq_ok.mp h
    obtain rfl := okOr_eq_ok.mp hwire
    obtain ⟨values, hvalues, hchecked⟩ := bind_eq_ok.mp hrest
    obtain ⟨hpublic, rfl⟩ := (values_exact _ _).mp hvalues
    split at hchecked
    · cases hchecked
    rename_i hdiagnostic
    obtain ⟨kind, hkind, hnew⟩ := bind_eq_ok.mp hchecked
    obtain ⟨-, rfl⟩ := (kind_exact _ _).mp hkind
    obtain ⟨hcurrent, rfl⟩ := CameraControlDescriptor.new_eq_ok.mp (mapError_eq_ok.mp hnew)
    dsimp only at hdiagnostic hcurrent
    by_cases hempty : diagnostic = ""
    · -- no diagnostic was sent
      subst hempty
      exact ⟨⟨⟨hpublic, nofun, hcurrent⟩, nofun⟩, rfl⟩
    · simp only [ne_eq, hempty, not_false_eq_true, true_and, not_or, Bool.not_eq_false,
        Nat.not_lt, gt_iff_lt] at hdiagnostic
      simp only [if_neg hempty]
      refine ⟨⟨⟨hpublic, ?_, hcurrent⟩, ?_⟩, rfl⟩
      · rintro text ⟨⟩
        exact hdiagnostic
      · exact fun heq => hempty (Option.some.inj heq)
  · -- a public descriptor passes the checks
    rintro ⟨⟨hpublic, hne⟩, rfl⟩
    obtain ⟨kind, readable, writable, autoSupported, values, current, diagnostic⟩ := x
    have hok : ¬(diagnostic.getD "" ≠ "" ∧ (isAscii (diagnostic.getD "") = false ∨
        (diagnostic.getD "").utf8ByteSize > maxControlTextBytes)) := by
      cases diagnostic with
      | none => exact fun h => h.1 rfl
      | some text =>
        obtain ⟨hascii, hlen⟩ := hpublic.diagnostic text rfl
        rintro ⟨-, hascii' | hlen'⟩
        · exact Bool.false_ne_true (hascii'.symm.trans hascii)
        · exact Nat.not_lt.mpr hlen hlen'
    have hback : (if diagnostic.getD "" = "" then none else some (diagnostic.getD "")) =
        diagnostic := by
      cases diagnostic with
      | none => rfl
      | some text => exact if_neg fun h => hne (congrArg some h)
    have hvalues := values_exact.decode_encode hpublic.values
    have hkind := kind_exact.decode_encode (a := kind) trivial
    simp only [cameraControlDescriptorFromProto, cameraControlDescriptorToProto, okOr, Except.bind,
      hvalues, hkind, if_neg hok]
    exact mapError_eq_ok.mpr (CameraControlDescriptor.new_eq_ok.mpr
      ⟨hpublic.current, congrArg
        (CameraControlDescriptor.mk kind readable writable autoSupported values current)
          hback.symm⟩)

/-! ### What comes back -/

/-- The descriptor that comes back: an empty diagnostic is none. -/
def CameraControlDescriptor.normal (x : CameraControlDescriptor) : CameraControlDescriptor :=
  { x with diagnostic := x.diagnostic.filter (· ≠ "") }

lemma toProto_normal (x : CameraControlDescriptor) :
    cameraControlDescriptorToProto x.normal = cameraControlDescriptorToProto x := by
  obtain ⟨kind, readable, writable, autoSupported, values, current, _ | text⟩ := x
  · rfl
  · by_cases h : text = "" <;>
      simp [CameraControlDescriptor.normal, cameraControlDescriptorToProto, Option.filter, h]

lemma representable_normal (h : x.Public) : x.normal.Representable := by
  refine ⟨⟨h.values, ?_, h.current⟩, ?_⟩
  · intro text htext
    exact h.diagnostic text (Option.mem_filter_iff.mp htext).1
  · intro hempty
    have := (Option.mem_filter_iff.mp (show "" ∈ x.normal.diagnostic from hempty)).2
    exact absurd this (by decide)

lemma toProto_injective {x y : CameraControlValues} (h : x.toProto = y.toProto) : x = y := by
  have hvalue : Function.Injective cameraControlValueToProto := by
    rintro (a | a) (b | b) hab <;> simp_all [cameraControlValueToProto]
  cases x <;> cases y <;> simp_all [CameraControlValues.toProto, hvalue.list_map.eq_iff]

lemma decodes_iff_public :
    (∃ y, cameraControlDescriptorFromProto (cameraControlDescriptorToProto x) = .ok y) ↔
      x.Public := by
  constructor
  · rintro ⟨y, hy⟩
    obtain ⟨⟨hpublic, -⟩, heq⟩ := (descriptor_exact _ _).mp hy
    simp only [cameraControlDescriptorToProto, V1.CameraControlDescriptor.mk.injEq,
      Option.some.injEq, V1.CameraControlValues.mk.injEq] at heq
    obtain ⟨-, hreadable, -, -, hvalues, hcurrent, hdiagnostic⟩ := heq
    refine ⟨toProto_injective hvalues ▸ hpublic.values, ?_, ?_⟩
    · intro text htext
      rw [Option.mem_def.mp htext, Option.getD_some] at hdiagnostic
      cases hd : y.diagnostic with
      | none =>
        rw [hd] at hdiagnostic
        subst hdiagnostic
        decide
      | some text' =>
        rw [hd, Option.getD_some] at hdiagnostic
        subst hdiagnostic
        exact hpublic.diagnostic _ hd
    · rw [hcurrent, hreadable]
      exact hpublic.current
  · intro h
    rw [← toProto_normal]
    exact ⟨_, descriptor_exact.decode_encode (representable_normal h)⟩

/-! ### The client -/

/-- The reader's look into the response to a controls request. -/
def validateControls (expected : Client.ExpectedResponse) (m : V1.CameraControlsResponse) :
    HalResult Unit :=
  match expected with
  | .cameraControls resourceId =>
    ((cameraControlsResponseFromProto m).map fun _ => ()).mapError
      (Client.attachResource · resourceId)
  | expected => .error expected.unexpected

/-- If it fails, it fails as an invalid message. -/
def FailsInvalid {α : Type} (x : HalResult α) : Prop :=
  ∀ e, x = .error e → e.name = "runtime.protocol.invalid_message"

lemma failsInvalid_ok {α : Type} (a : α) : FailsInvalid (.ok a) := nofun

lemma failsInvalid_invalidMessage {α : Type} (text : String) :
    FailsInvalid (.error (invalidMessage text) : HalResult α) := by
  rintro e ⟨⟩
  rfl

lemma failsInvalid_mapError {α : Type} (x : HalResult α) (text : String) :
    FailsInvalid (x.mapError fun _ => invalidMessage text) := by
  cases x with
  | ok a => exact failsInvalid_ok a
  | error e => exact failsInvalid_invalidMessage text

lemma FailsInvalid.bind {α β : Type} {x : HalResult α} {f : α → HalResult β} (hx : FailsInvalid x)
    (hf : ∀ a, FailsInvalid (f a)) : FailsInvalid (x.bind f) := by
  cases x with
  | ok a => exact hf a
  | error e =>
    rintro e' ⟨⟩
    exact hx e rfl

lemma failsInvalid_mapM {α β : Type} {f : α → HalResult β} (hf : ∀ a, FailsInvalid (f a))
    (l : List α) : FailsInvalid (l.mapM f) := by
  induction l with
  | nil => exact failsInvalid_ok []
  | cons a l ih =>
    rw [List.mapM_cons]
    exact (hf a).bind fun b => ih.bind fun l => failsInvalid_ok (b :: l)

lemma failsInvalid_value (m : V1.CameraControlValue) :
    FailsInvalid (cameraControlValueFromProto m) := by
  unfold cameraControlValueFromProto
  split
  · exact failsInvalid_ok _
  · split
    · exact failsInvalid_ok _
    · exact failsInvalid_invalidMessage _
  · exact failsInvalid_invalidMessage _

lemma failsInvalid_values (m : V1.CameraControlValues) :
    FailsInvalid (cameraControlValuesFromProto m) := by
  unfold cameraControlValuesFromProto
  split
  · exact failsInvalid_mapError _ _
  · split
    · exact failsInvalid_invalidMessage _
    · exact (failsInvalid_mapM failsInvalid_value _).bind fun _ => failsInvalid_mapError _ _
  · exact failsInvalid_invalidMessage _

lemma failsInvalid_kind (value : ℤ) : FailsInvalid (cameraControlKindFromProto value) := by
  unfold cameraControlKindFromProto
  split <;> first | exact failsInvalid_ok _ | exact failsInvalid_invalidMessage _

lemma failsInvalid_descriptor (m : V1.CameraControlDescriptor) :
    FailsInvalid (cameraControlDescriptorFromProto m) := by
  have hvalues :
      FailsInvalid (okOr m.values (invalidMessage "camera control values are required")) := by
    cases m.values with
    | none => exact failsInvalid_invalidMessage _
    | some values => exact failsInvalid_ok values
  refine hvalues.bind fun values => (failsInvalid_values values).bind fun _ => ?_
  split
  · exact failsInvalid_invalidMessage _
  · exact (failsInvalid_kind _).bind fun _ => failsInvalid_mapError _ _

lemma failsInvalid_controls (m : V1.CameraControlsResponse) :
    FailsInvalid (cameraControlsResponseFromProto m) := by
  unfold cameraControlsResponseFromProto
  split
  · exact failsInvalid_invalidMessage _
  · exact failsInvalid_mapM failsInvalid_descriptor _

lemma mapM_isOk {α β : Type} {f : α → HalResult β} (l : List α) :
    (∃ m, l.mapM f = .ok m) ↔ ∀ a ∈ l, ∃ b, f a = .ok b := by
  induction l with
  | nil => exact ⟨fun _ => nofun, fun _ => ⟨[], rfl⟩⟩
  | cons a l ih =>
    rw [List.forall_mem_cons, ← ih, List.mapM_cons]
    constructor
    · rintro ⟨m, hm⟩
      obtain ⟨b, hb, hm⟩ := bind_eq_ok.mp hm
      obtain ⟨m', hm', -⟩ := bind_eq_ok.mp hm
      exact ⟨⟨b, hb⟩, m', hm'⟩
    · rintro ⟨⟨b, hb⟩, m, hm⟩
      rw [hb, ok_bind, hm]
      exact ⟨b :: m, rfl⟩

lemma controls_decode_iff {controls : List CameraControlDescriptor} :
    (∃ l, cameraControlsResponseFromProto ⟨controls.map cameraControlDescriptorToProto⟩ = .ok l)
      ↔ PublicControls controls := by
  simp only [cameraControlsResponseFromProto, List.length_map, PublicControls]
  split
  · rename_i hlen
    simp [Nat.not_le.mpr hlen]
  · rename_i hlen
    rw [mapM_isOk, and_iff_right (Nat.not_lt.mp hlen), List.forall_mem_map]
    exact forall₂_congr fun x _ => decodes_iff_public

/-- The reader goes on after a controls response exactly if it decodes. -/
lemma ends_controls_iff {m : V1.CameraControlsResponse} {resourceId : ResourceId} :
    Client.State.ends (Client.State.result validateControls (.cameraControls resourceId)
      (some (.response .cameraControls m))) = none ↔
        ∃ l, cameraControlsResponseFromProto m = .ok l := by
  cases h : cameraControlsResponseFromProto m with
  | ok l =>
    simp [Client.State.ends, Client.State.result, Client.validateResponse,
      Client.ExpectedResponse.kind, Client.ExpectedResponse.decoded, validateControls, h,
      Except.map, Except.mapError]
  | error e =>
    have hname :
        (Client.attachResource e resourceId).name = "runtime.protocol.invalid_message" := by
      rw [← failsInvalid_controls m e h]
      unfold Client.attachResource
      split <;> rfl
    simp [Client.State.ends, Client.State.result, Client.validateResponse,
      Client.ExpectedResponse.kind, Client.ExpectedResponse.decoded, validateControls, h,
      Except.map, Except.mapError, hname]

/-- **Control descriptors over the wire.** A descriptor comes back as it was exactly if it is within
the decoder's bounds and has no empty diagnostic; a controls response leaves the client's connection
in place exactly if it has at most four descriptors, all within the bounds. -/
theorem controls_survive_iff_public (x : CameraControlDescriptor)
    (controls : List CameraControlDescriptor) (resourceId : ResourceId) :
    (x.Built → (cameraControlDescriptorFromProto (cameraControlDescriptorToProto x) = .ok x
      ↔ x.Public ∧ x.diagnostic ≠ some ""))
    ∧ ((∀ x ∈ controls, x.Built) →
      (Client.State.ends (Client.State.result validateControls (.cameraControls resourceId)
        (some (.response .cameraControls ⟨controls.map cameraControlDescriptorToProto⟩))) = none
          ↔ PublicControls controls)) := by
  constructor
  · intro _
    rw [descriptor_exact, and_iff_left rfl]
    rfl
  · intro _
    rw [ends_controls_iff, controls_decode_iff]

/-- A range of gains is within the bounds. -/
theorem controls_survive_gain :
    ∃ x : CameraControlDescriptor, x.Built
      ∧ cameraControlDescriptorFromProto (cameraControlDescriptorToProto x) = .ok x := by
  have hbuilt :
      CameraControlDescriptor.Built ⟨.gain, true, true, false, .range 0 100 5, true, none⟩ :=
    built_of_values (.range (CameraControlValues.range?_eq_ok.mpr ⟨by decide, rfl⟩)) fun _ => rfl
  refine ⟨_, hbuilt, ((controls_survive_iff_public _ [] ⟨""⟩).1 hbuilt).mpr
    ⟨⟨?_, nofun, fun _ => rfl⟩, nofun⟩⟩
  exact ⟨by decide, by decide⟩

/-- Sixty-five focus steps are built by the constructors, refused by the decoder and end the
client's connection; an empty diagnostic is lost. -/
theorem controls_end_connection :
    (∃ x : CameraControlDescriptor, x.Built
      ∧ cameraControlDescriptorFromProto (cameraControlDescriptorToProto x)
        = .error (invalidMessage "camera enumerated control values exceed bound")
      ∧ Client.State.ends (Client.State.result validateControls (.cameraControls ⟨"camera0"⟩)
        (some (.response .cameraControls ⟨[x].map cameraControlDescriptorToProto⟩))) ≠ none)
    ∧ ∃ x y : CameraControlDescriptor, x.Built
      ∧ cameraControlDescriptorFromProto (cameraControlDescriptorToProto x) = .ok y ∧ y ≠ x := by
  refine ⟨⟨⟨.focus, true, true, false, .enumerated (List.replicate 65 (.integer 1)), false, none⟩,
    built_of_values (.enumerated (CameraControlValues.enumerated?_eq_ok.mpr ⟨by decide, rfl⟩))
      nofun,
    by rfl, ?_⟩,
    ⟨.focus, true, true, false, .range 0 9 1, false, some ""⟩, _,
    built_of_values (.range (CameraControlValues.range?_eq_ok.mpr ⟨by decide, rfl⟩)) nofun, rfl,
    by decide⟩
  rw [ne_eq, ends_controls_iff, controls_decode_iff]
  rintro ⟨-, hpublic⟩
  exact absurd (hpublic _ List.mem_cons_self).values.2.1 (by decide)

end RobotHal.Camera
