import RobotHal.Can
import RobotHal.Codec

/-!
How values of `robot-hal-can` are built.

Constructors refuse what makes no sense on a bus. A frame is an open enumeration that anyone can
write down, so it can be checked afterwards as well; everything else has only its constructor, and
counts as built if that gives it back.
-/

namespace RobotHal

variable {id : CanId} {f : CanFrame} {data : List UInt8}

def maxCanFilters : ℕ := 64

/-! ### Frames -/

/-- `CanId::standard`. -/
def CanId.standard? (value : UInt16) : HalResult CanId :=
  if value > 0x7ff then .error (invalidFrame "standard CAN identifier exceeds 11 bits")
  else .ok (.standard value)

/-- `CanId::extended`. -/
def CanId.extended? (value : UInt32) : HalResult CanId :=
  if value > 0x1fffffff then .error (invalidFrame "extended CAN identifier exceeds 29 bits")
  else .ok (.extended value)

namespace CanFrame

/-- `CanFrame::classic_data`. -/
def classicData? (id : CanId) (data : List UInt8) : HalResult CanFrame := do
  validateId id
  if data.length > maxClassicDataBytes then
    .error (invalidFrame "Classical CAN data exceeds 8 bytes")
  else .ok (.classicData id data)

/-- `CanFrame::classic_remote`. -/
def classicRemote? (id : CanId) (dlc : UInt8) : HalResult CanFrame := do
  validateId id
  if dlc.toNat > maxClassicDataBytes then
    .error (invalidFrame "Classical CAN remote DLC exceeds 8")
  else .ok (.classicRemote id dlc)

/-- `CanFrame::fd_data`. -/
def fdData? (id : CanId) (data : List UInt8) (bitrateSwitch errorStateIndicator : Bool) :
    HalResult CanFrame := do
  validateId id
  if !validFdDataLength data.length then
    .error (invalidFrame "CAN FD data length must be one of 0..=8, 12, 16, 20, 24, 32, 48, or 64")
  else .ok (.fdData id data bitrateSwitch errorStateIndicator)

/-- `CanFrame::error`. -/
def error? (classes : List CanErrorClass) (data : List UInt8) : HalResult CanFrame :=
  if classes.isEmpty || classes.length > maxCanErrorClasses then
    .error (invalidFrame "CAN error frame must contain 1..=10 classes")
  else if data.length > maxClassicDataBytes then
    .error (invalidFrame "CAN error diagnostics exceed 8 bytes")
  else .ok (.error classes data)

end CanFrame

lemma CanId.standard?_eq_ok {value : UInt16} :
    CanId.standard? value = .ok id ↔ validateId id = .ok () ∧ id = .standard value := by
  unfold CanId.standard?
  constructor
  · intro h
    split at h
    · cases h
    · rename_i hle
      obtain rfl := Except.ok.inj h
      exact ⟨if_pos (UInt16.not_lt.mp hle), rfl⟩
  · rintro ⟨hv, rfl⟩
    unfold validateId at hv
    dsimp only at hv
    split at hv
    · rename_i hle
      exact if_neg (UInt16.not_lt.mpr hle)
    · cases hv

lemma CanId.extended?_eq_ok {value : UInt32} :
    CanId.extended? value = .ok id ↔ validateId id = .ok () ∧ id = .extended value := by
  unfold CanId.extended?
  constructor
  · intro h
    split at h
    · cases h
    · rename_i hle
      obtain rfl := Except.ok.inj h
      exact ⟨if_pos (UInt32.not_lt.mp hle), rfl⟩
  · rintro ⟨hv, rfl⟩
    unfold validateId at hv
    dsimp only at hv
    split at hv
    · rename_i hle
      exact if_neg (UInt32.not_lt.mpr hle)
    · cases hv

namespace CanFrame

lemma guard_eq_ok {bad : Prop} [Decidable bad] {e : HalError} {g : CanFrame} {x : HalResult Unit} :
    (x.bind fun _ => if bad then .error e else .ok f) = .ok g ↔
      (x.bind fun _ => if bad then throw e else pure ()) = .ok () ∧ g = f := by
  rcases x with err | ⟨⟩
  · simp [Except.bind]
  · by_cases hbad : bad <;> simp [Except.bind, hbad, throw, throwThe, MonadExceptOf.throw, pure,
      Except.pure, eq_comm]

lemma classicData?_eq_ok :
    classicData? id data = .ok f ↔ f.validate = .ok () ∧ f = .classicData id data := by
  refine guard_eq_ok.trans (and_congr_left ?_)
  rintro rfl
  exact Iff.rfl

lemma classicRemote?_eq_ok {dlc : UInt8} :
    classicRemote? id dlc = .ok f ↔ f.validate = .ok () ∧ f = .classicRemote id dlc := by
  refine guard_eq_ok.trans (and_congr_left ?_)
  rintro rfl
  exact Iff.rfl

lemma fdData?_eq_ok {brs esi : Bool} :
    fdData? id data brs esi = .ok f ↔ f.validate = .ok () ∧ f = .fdData id data brs esi := by
  refine guard_eq_ok.trans (and_congr_left ?_)
  rintro rfl
  exact Iff.rfl

lemma error?_eq_ok {classes : List CanErrorClass} :
    error? classes data = .ok f ↔ f.validate = .ok () ∧ f = .error classes data := by
  unfold error?
  constructor
  · intro h
    split at h
    · cases h
    rename_i hclasses
    split at h
    · cases h
    rename_i hdata
    obtain rfl := Except.ok.inj h
    refine ⟨?_, rfl⟩
    unfold validate
    dsimp only
    rw [if_neg hclasses, if_neg hdata]
    rfl
  · rintro ⟨hv, rfl⟩
    unfold validate at hv
    dsimp only at hv
    split at hv
    · cases hv
    rename_i hclasses
    split at hv
    · cases hv
    rename_i hdata
    rw [if_neg hclasses, if_neg hdata]

end CanFrame

/-! ### Timestamps -/

def CanTimestamp.new (timestampNs : UInt64) (source : CanTimestampSource) (clockDomain : String) :
    HalResult CanTimestamp :=
  if clockDomain.isEmpty then
    .error (invalidFrame "CAN timestamp clock domain must not be empty")
  else if clockDomain.utf8ByteSize > 255 then
    .error (invalidFrame "CAN timestamp clock domain exceeds 255 bytes")
  else if !isAscii clockDomain then
    .error (invalidFrame "CAN timestamp clock domain must be ASCII")
  else .ok ⟨timestampNs, source, clockDomain⟩

/-! ### Links -/

def invalidConfig (message : String) : HalError :=
  HalError.new "can.configuration.invalid" .invalidArgument "can.configuration" false message

def CanBitTiming.new (bitrate : UInt32) (samplePointPermill sjw : Option UInt16) :
    HalResult CanBitTiming :=
  if bitrate = 0 then .error (invalidConfig "CAN bitrate must be nonzero")
  else if samplePointPermill.any fun v => !(1 ≤ v && v ≤ 999) then
    .error (invalidConfig "CAN sample point must be 1..=999 permill")
  else if sjw.any fun v => v = 0 then .error (invalidConfig "CAN SJW must be nonzero")
  else .ok ⟨bitrate, samplePointPermill, sjw⟩

def CanLinkExpectation.new (mode : Option CanMode) (nominalBitrate dataBitrate : Option UInt32)
    (listenOnly loopback : Option Bool) : HalResult CanLinkExpectation :=
  if (nominalBitrate.any fun v => v = 0) || dataBitrate.any fun v => v = 0 then
    .error (invalidConfig "CAN expected bitrates must be nonzero")
  else if mode = some .classic && dataBitrate.isSome then
    .error (invalidConfig "Classical CAN expectation cannot include data bitrate")
  else .ok ⟨mode, nominalBitrate, dataBitrate, listenOnly, loopback⟩

def CanConfigureConfig.newWithRestart (mode : CanMode) (nominal : CanBitTiming)
    (data : Option CanBitTiming) (listenOnly loopback : Bool) (restartMs : Option UInt32) :
    HalResult CanConfigureConfig :=
  if restartMs.any fun v => v = 0 then
    .error (invalidConfig "CAN restart time must be nonzero when specified")
  else
    match mode, data.isSome with
    | .classic, true =>
      .error (invalidConfig "Classical CAN configuration cannot include data timing")
    | .fd, false => .error (invalidConfig "CAN FD configuration requires data timing")
    | _, _ => .ok ⟨mode, nominal, data, listenOnly, loopback, restartMs⟩

/-! ### Filters -/

def invalidFilter (message : String) : HalError :=
  HalError.new "can.filter.invalid" .invalidArgument "can.filter" false message

def CanFrameClasses.any (x : CanFrameClasses) : Bool := x.data || x.remote || x.error

def CanFilter.new (id mask : UInt32) (format : CanIdFormat) (classes : CanFrameClasses) :
    HalResult CanFilter :=
  let max : UInt32 := if format = .standard then 0x7ff else 0x1fffffff
  if id > max || mask > max then
    .error (invalidFilter "CAN filter ID or mask exceeds format width")
  else if !classes.any then .error (invalidFilter "CAN filter must enable a frame class")
  else .ok ⟨id, mask, format, classes⟩

def CanFilterSet.new (filters : List CanFilter) : HalResult CanFilterSet :=
  if filters.length > maxCanFilters then
    .error (invalidFilter "CAN filter set exceeds 64 filters")
  else .ok filters

/-! ### What can be built -/

def CanTimestamp.Built (t : CanTimestamp) : Prop :=
  CanTimestamp.new t.timestampNs t.source t.clockDomain = .ok t

def ReceivedCanFrame.Valid (x : ReceivedCanFrame) : Prop :=
  x.frame.validate = .ok () ∧ ∀ t ∈ x.timestamp, t.Built

def CanBitTiming.Built (t : CanBitTiming) : Prop :=
  CanBitTiming.new t.bitrate t.samplePointPermill t.sjw = .ok t

def CanLinkExpectation.Built (x : CanLinkExpectation) : Prop :=
  CanLinkExpectation.new x.mode x.nominalBitrate x.dataBitrate x.listenOnly x.loopback = .ok x

structure CanConfigureConfig.Built (x : CanConfigureConfig) : Prop where
  nominal : x.nominal.Built
  data : ∀ t ∈ x.data, t.Built
  consistent : CanConfigureConfig.newWithRestart x.mode x.nominal x.data x.listenOnly x.loopback
    x.restartMs = .ok x

def CanOpenConfig.Built : CanOpenConfig → Prop
  | .attach expectation => expectation.Built
  | .configure config => config.Built

def CanFilter.Built (f : CanFilter) : Prop := CanFilter.new f.id f.mask f.format f.classes = .ok f

def CanFilterSet.Built (fs : CanFilterSet) : Prop :=
  (∀ f ∈ (fs : List CanFilter), f.Built) ∧ CanFilterSet.new fs = .ok fs

/-! What a constructor gives has the fields it was given. -/

lemma CanTimestamp.new_eq_ok {ns : UInt64} {source : CanTimestampSource} {domain : String}
    {t : CanTimestamp} :
    CanTimestamp.new ns source domain = .ok t ↔ t.Built ∧ t = ⟨ns, source, domain⟩ := by
  constructor
  · intro h
    have ht : t = ⟨ns, source, domain⟩ := by
      unfold CanTimestamp.new at h
      split at h
      · cases h
      split at h
      · cases h
      split at h
      · cases h
      · exact (Except.ok.inj h).symm
    subst ht
    exact ⟨h, rfl⟩
  · rintro ⟨hb, rfl⟩
    exact hb

lemma CanBitTiming.new_eq_ok {bitrate : UInt32} {samplePointPermill sjw : Option UInt16}
    {t : CanBitTiming} :
    CanBitTiming.new bitrate samplePointPermill sjw = .ok t ↔
      t.Built ∧ t = ⟨bitrate, samplePointPermill, sjw⟩ := by
  constructor
  · intro h
    have ht : t = ⟨bitrate, samplePointPermill, sjw⟩ := by
      unfold CanBitTiming.new at h
      split at h
      · cases h
      split at h
      · cases h
      split at h
      · cases h
      · exact (Except.ok.inj h).symm
    subst ht
    exact ⟨h, rfl⟩
  · rintro ⟨hb, rfl⟩
    exact hb

lemma CanLinkExpectation.new_eq_ok {mode : Option CanMode}
    {nominalBitrate dataBitrate : Option UInt32} {listenOnly loopback : Option Bool}
    {x : CanLinkExpectation} :
    CanLinkExpectation.new mode nominalBitrate dataBitrate listenOnly loopback = .ok x ↔
      x.Built ∧ x = ⟨mode, nominalBitrate, dataBitrate, listenOnly, loopback⟩ := by
  constructor
  · intro h
    have hx : x = ⟨mode, nominalBitrate, dataBitrate, listenOnly, loopback⟩ := by
      unfold CanLinkExpectation.new at h
      split at h
      · cases h
      split at h
      · cases h
      · exact (Except.ok.inj h).symm
    subst hx
    exact ⟨h, rfl⟩
  · rintro ⟨hb, rfl⟩
    exact hb

lemma CanConfigureConfig.newWithRestart_eq {mode : CanMode} {nominal : CanBitTiming}
    {data : Option CanBitTiming} {listenOnly loopback : Bool} {restartMs : Option UInt32}
    {x : CanConfigureConfig}
    (h : CanConfigureConfig.newWithRestart mode nominal data listenOnly loopback restartMs =
      .ok x) :
    x = ⟨mode, nominal, data, listenOnly, loopback, restartMs⟩ := by
  unfold CanConfigureConfig.newWithRestart at h
  split at h
  · cases h
  split at h
  · cases h
  · cases h
  · exact (Except.ok.inj h).symm

lemma CanFilter.new_eq_ok {id mask : UInt32} {format : CanIdFormat} {classes : CanFrameClasses}
    {f : CanFilter} :
    CanFilter.new id mask format classes = .ok f ↔ f.Built ∧ f = ⟨id, mask, format, classes⟩ := by
  constructor
  · intro h
    have hf : f = ⟨id, mask, format, classes⟩ := by
      unfold CanFilter.new at h
      dsimp only at h
      split at h
      all_goals
        split at h
        · cases h
        split at h
        · cases h
        · exact (Except.ok.inj h).symm
    subst hf
    exact ⟨h, rfl⟩
  · rintro ⟨hb, rfl⟩
    exact hb

lemma CanFilterSet.new_eq_ok {filters : List CanFilter} {fs : CanFilterSet} :
    CanFilterSet.new filters = .ok fs ↔ filters.length ≤ maxCanFilters ∧ fs = filters := by
  unfold CanFilterSet.new
  split
  · rename_i hlong
    exact ⟨nofun, fun h => absurd h.1 (by omega)⟩
  · rename_i hlong
    exact ⟨fun h => ⟨by omega, (Except.ok.inj h).symm⟩, fun h => by rw [h.2]⟩

end RobotHal
