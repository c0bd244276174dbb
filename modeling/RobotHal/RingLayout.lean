import RobotHal.Core
import RobotHal.Memory

/-!
The layout of the shared frame ring (`layout.rs` of the shared-memory adapter) and the camera
formats it is built for.

A mapping is a header of 192 bytes followed by equal slots, each a slot header of 128 bytes
and room for one frame. A ring configuration is only built by `RingConfig.new`; the
arithmetic it checked travels with it.
-/

namespace RobotHal

variable {w h : UInt32} {f : CameraFormat} {n p i j : ℕ} {c : RingConfig}

/-! ### Camera formats -/

def maxCameraWidth : ℕ := 4096
def maxCameraHeight : ℕ := 2160
def maxCameraFrameBytes : ℕ := 24 * 1024 * 1024
def minCameraSlotCount : ℕ := 4
def maxCameraSlotCount : ℕ := 8

inductive CameraPixelFormat
  | nv12
  | yuyv
  | mjpeg
deriving DecidableEq, Repr

def invalidFormat (operation message : String) : HalError :=
  HalError.new "camera.format.invalid" .invalidArgument operation false message

@[ext]
structure CameraFormat where
  pixelFormat : CameraPixelFormat
  width : UInt32
  height : UInt32
deriving DecidableEq, Repr

namespace CameraFormat

def worstCaseFrameBytes (f : CameraFormat) : HalResult ℕ :=
  match checkedMul f.width.toNat f.height.toNat with
  | none => .error (invalidFormat "camera.format" "camera dimensions overflow")
  | some pixels =>
    match f.pixelFormat with
    | .nv12 =>
      match checkedMul pixels 3 with
      | none => .error (invalidFormat "camera.format" "NV12 frame size overflows")
      | some bytes => .ok (bytes / 2)
    | .yuyv =>
      match checkedMul pixels 2 with
      | none => .error (invalidFormat "camera.format" "YUYV frame size overflows")
      | some bytes => .ok bytes
    | .mjpeg => .ok maxCameraFrameBytes

def validate (f : CameraFormat) : HalResult Unit :=
  if f.width.toNat = 0 ∨ f.height.toNat = 0 ∨ f.width.toNat > maxCameraWidth ∨
      f.height.toNat > maxCameraHeight then
    .error (invalidFormat "camera.format"
      "camera dimensions must be non-zero and within public bounds")
  else
    match f.worstCaseFrameBytes with
    | .error e => .error e
    | .ok bytes =>
      if bytes > maxCameraFrameBytes then
        .error (invalidFormat "camera.format"
          "camera format worst-case payload exceeds the frame bound")
      else .ok ()

def new (pixelFormat : CameraPixelFormat) (width height : UInt32) : HalResult CameraFormat :=
  match validate { pixelFormat, width, height } with
  | .error e => .error e
  | .ok () => .ok { pixelFormat, width, height }

lemma new_eq_ok {p : CameraPixelFormat} (hn : new p w h = .ok f) :
    f = { pixelFormat := p, width := w, height := h } := by
  unfold new at hn
  split at hn
  · cases hn
  · exact (Except.ok.inj hn).symm

end CameraFormat

namespace Ring

def invalid (operation message : String) : HalError :=
  HalError.new "shared_memory.invalid" .invalidArgument operation false message

def unavailable (operation message : String) : HalError :=
  HalError.new "shared_memory.unavailable" .unavailable operation false message

def maxMappingBytes : ℕ := 256 * 1024 * 1024
def headerBytes : ℕ := 192
def slotHeaderBytes : ℕ := 128
def slotAlignment : ℕ := 64
/-- `SHRING04`. -/
def magic : List UInt8 := [83, 72, 82, 73, 78, 71, 48, 52]
@[simp] lemma length_magic : magic.length = 8 := rfl

def layoutMajor : UInt16 := 1
def layoutMinor : UInt16 := 0
def maxPlanes : ℕ := 3

inductive PixelFormat
  | nv12
  | yuyv
  | mjpeg
deriving DecidableEq, Repr

namespace PixelFormat

def raw : PixelFormat → UInt32
  | .nv12 => 1
  | .yuyv => 2
  | .mjpeg => 3

def tryFrom (value : UInt32) : HalResult PixelFormat :=
  if value = 1 then .ok .nv12
  else if value = 2 then .ok .yuyv
  else if value = 3 then .ok .mjpeg
  else .error (invalid "shared_memory.layout" "unknown pixel format")

def ofCamera : CameraPixelFormat → PixelFormat
  | .nv12 => .nv12
  | .yuyv => .yuyv
  | .mjpeg => .mjpeg

def toCamera : PixelFormat → CameraPixelFormat
  | .nv12 => .nv12
  | .yuyv => .yuyv
  | .mjpeg => .mjpeg

@[simp] lemma tryFrom_raw (f : PixelFormat) : tryFrom f.raw = .ok f := by cases f <;> rfl

@[simp] lemma toCamera_ofCamera (f : CameraPixelFormat) : (ofCamera f).toCamera = f := by
  cases f <;> rfl

end PixelFormat

/-- Where a plane of a frame lies in its payload. -/
structure PlaneLayout where
  offset : UInt32
  length : UInt32
  stride : UInt32
  length_ne : length ≠ 0
  stride_ne : stride ≠ 0
  end_lt : offset.toNat + length.toNat < 2 ^ 32
deriving DecidableEq, Repr

def PlaneLayout.new (offset length stride : ℕ) : HalResult PlaneLayout :=
  if ho : 2 ^ 32 ≤ offset then
    .error (invalid "shared_memory.plane" "plane offset exceeds layout range")
  else if hl : 2 ^ 32 ≤ length then
    .error (invalid "shared_memory.plane" "plane length exceeds layout range")
  else if 2 ^ 32 ≤ stride then
    .error (invalid "shared_memory.plane" "plane stride exceeds layout range")
  else if hz : UInt32.ofNat length = 0 ∨ UInt32.ofNat stride = 0 then
    .error (invalid "shared_memory.plane" "plane length and stride must be non-zero")
  else if he : 2 ^ 32 ≤ offset + length then
    .error (invalid "shared_memory.plane" "plane range overflows")
  else .ok
    { offset := UInt32.ofNat offset
      length := UInt32.ofNat length
      stride := UInt32.ofNat stride
      length_ne := fun h => hz (.inl h)
      stride_ne := fun h => hz (.inr h)
      end_lt := by
        rw [UInt32.toNat_ofNat_of_lt' (by simpa [UInt32.size] using ho),
          UInt32.toNat_ofNat_of_lt' (by simpa [UInt32.size] using hl)]
        omega }

lemma PlaneLayout.new_toNat (p : PlaneLayout) :
    PlaneLayout.new p.offset.toNat p.length.toNat p.stride.toNat = .ok p := by
  have ho := p.offset.toNat_lt
  have hl := p.length.toNat_lt
  have hs := p.stride.toNat_lt
  have he := p.end_lt
  unfold PlaneLayout.new
  rw [dif_neg (by omega), dif_neg (by omega), if_neg (by omega),
    dif_neg (by simp [p.length_ne, p.stride_ne]), dif_neg (by omega)]
  simp

def validateDimensions (format : PixelFormat) (width height : UInt32) : HalResult Unit :=
  if width.toNat = 0 ∨ height.toNat = 0 ∨ width.toNat > maxCameraWidth ∨
      height.toNat > maxCameraHeight then
    .error (invalid "shared_memory.layout" "frame dimensions are outside the negotiated bounds")
  else if format = .nv12 ∧ (width.toNat % 2 ≠ 0 ∨ height.toNat % 2 ≠ 0) then
    .error (invalid "shared_memory.layout" "NV12 dimensions must be even")
  else .ok ()

/-- The least stride and the number of rows of each plane of a format. -/
def minimumPlanes (format : PixelFormat) (width height : ℕ) : List (ℕ × ℕ) :=
  match format with
  | .nv12 => [(width, height), (width, height / 2), (0, 0)]
  | .yuyv => [((checkedMul width 2).getD u64Max, height), (0, 0), (0, 0)]
  | .mjpeg => [(0, 0), (0, 0), (0, 0)]

/-- Every plane ends inside the payload. -/
def checkRanges (payloadLength : ℕ) : List PlaneLayout → HalResult Unit
  | [] => .ok ()
  | plane :: planes =>
    match checkedAdd plane.offset.toNat plane.length.toNat with
    | none => .error (invalid "shared_memory.layout" "plane range overflows")
    | some last =>
      if last > payloadLength then
        .error (invalid "shared_memory.layout" "plane range escapes the frame payload")
      else checkRanges payloadLength planes

/-- Every plane holds the rows its format asks for. -/
def checkCoverage : List (PlaneLayout × ℕ × ℕ) → HalResult Unit
  | [] => .ok ()
  | (plane, minimumStride, rows) :: rest =>
    if plane.stride.toNat < minimumStride then
      .error (invalid "shared_memory.layout" "plane dimensions do not cover the negotiated frame")
    else
      match checkedMul plane.stride.toNat rows with
      | none => .error (invalid "shared_memory.layout" "plane size overflows")
      | some size =>
        if plane.length.toNat < size then
          .error
            (invalid "shared_memory.layout" "plane dimensions do not cover the negotiated frame")
        else checkCoverage rest

def validatePlanes (format : PixelFormat) (width height : UInt32) (planes : List PlaneLayout)
    (payloadLength : ℕ) : HalResult Unit :=
  if planes.length ≠ (if format = .nv12 then 2 else 1) ∨ planes.length > maxPlanes then
    .error (invalid "shared_memory.layout" "plane count does not match the pixel format")
  else
    match checkRanges payloadLength planes with
    | .error e => .error e
    | .ok () =>
      match checkCoverage (planes.zip (minimumPlanes format width.toNat height.toNat)) with
      | .error e => .error e
      | .ok () =>
        let ranges := (planes.map fun p => (p.offset.toNat, p.offset.toNat + p.length.toNat))
          |>.insertionSort fun a b => a.1 ≤ b.1
        if (ranges.zip ranges.tail).any fun r => decide (r.1.2 > r.2.1) then
          .error (invalid "shared_memory.layout" "plane ranges overlap")
        else .ok ()

lemma validatePlanes_count {format : PixelFormat} {width height : UInt32}
    {planes : List PlaneLayout} (h : validatePlanes format width height planes n = .ok ()) :
    planes.length ≤ maxPlanes := by
  by_contra hc
  rw [validatePlanes, if_pos (.inr (by omega))] at h
  cases h

structure FrameMetadata where
  format : PixelFormat
  width : UInt32
  height : UInt32
  sequence : UInt64
  generation : UInt64
  monotonicTimestampNs : UInt64
  droppedCount : UInt64
  planes : List PlaneLayout
deriving DecidableEq, Repr

def FrameMetadata.new (format : PixelFormat) (width height : UInt32)
    (sequence generation monotonicTimestampNs droppedCount : UInt64)
    (planes : List PlaneLayout) : HalResult FrameMetadata := do
  validateDimensions format width height
  validatePlanes format width height planes maxCameraFrameBytes
  return { format, width, height, sequence, generation, monotonicTimestampNs, droppedCount, planes }

lemma FrameMetadata.new_eq_ok {f : PixelFormat} {s g t d : UInt64} {p : List PlaneLayout}
    {md : FrameMetadata} (hn : FrameMetadata.new f w h s g t d p = .ok md) :
    md = ⟨f, w, h, s, g, t, d, p⟩ := by
  unfold FrameMetadata.new at hn
  cases hd : validateDimensions f w h <;>
    cases hp : validatePlanes f w h p maxCameraFrameBytes <;>
    simp_all [bind, Except.bind, pure, Except.pure]

inductive SlotState
  | free
  | writing
  | ready
  | pinned
deriving DecidableEq, Repr

namespace SlotState

def raw : SlotState → UInt64
  | .free => 0
  | .writing => 1
  | .ready => 2
  | .pinned => 3

def fromRaw (value : UInt64) : HalResult SlotState :=
  if value = 0 then .ok .free
  else if value = 1 then .ok .writing
  else if value = 2 then .ok .ready
  else if value = 3 then .ok .pinned
  else .error (invalid "shared_memory.slot" "slot state is invalid")

@[simp] lemma fromRaw_raw (s : SlotState) : fromRaw s.raw = .ok s := by cases s <;> rfl

end SlotState

structure MappingDescriptor where
  name : String
  identity : Vector UInt8 32
  token : Vector UInt8 32
  totalLength : ℕ
deriving DecidableEq

def MappingDescriptor.new (mappingName : String) (mappingIdentity capabilityToken : Vector UInt8 32)
    (totalLength : ℕ) : HalResult MappingDescriptor :=
  if mappingName.toList = [] ∨ ¬(mappingName.toList.all fun c => c.toNat < 128) ∨
      mappingName.utf8ByteSize > 255 ∨ totalLength = 0 ∨ totalLength > maxMappingBytes then
    .error (invalid "shared_memory.descriptor" "mapping descriptor fields are invalid")
  else .ok
    { name := mappingName, identity := mappingIdentity, token := capabilityToken, totalLength }

def alignUp (value alignment : ℕ) : HalResult ℕ :=
  match checkedAdd value (alignment - 1) with
  | some value => .ok (value / alignment * alignment)
  | none => .error (invalid "shared_memory.layout" "alignment overflows")

lemma alignUp_eq_ok {value alignment : ℕ} (h : alignUp value alignment = .ok n) :
    n = (value + (alignment - 1)) / alignment * alignment := by
  unfold alignUp at h
  split at h
  · next h' => rw [← Except.ok.inj h, (checkedAdd_eq_some.mp h').1]
  · cases h

/-- A ring configuration: what was asked for, and the sizes that follow from it. -/
structure RingConfig where
  format : CameraFormat
  slotCount : ℕ
  payloadCapacity : ℕ
  slotStride : ℕ
  totalLength : ℕ
  minCount_le : minCameraSlotCount ≤ slotCount
  slotCount_le : slotCount ≤ maxCameraSlotCount
  payloadCapacity_le : payloadCapacity ≤ maxCameraFrameBytes
  slotStride_eq : slotStride = (slotHeaderBytes + payloadCapacity + 63) / 64 * 64
  totalLength_eq : totalLength = headerBytes + slotStride * slotCount
  totalLength_le : totalLength ≤ maxMappingBytes
deriving DecidableEq

namespace RingConfig

def mappingLengthOverflows : HalError := invalid "shared_memory.config" "mapping length overflows"

/-- The configuration whose slots hold `payloadCapacity` bytes, once the format, the count and
the capacity have been checked. -/
def sized (format : CameraFormat) (slotCount payloadCapacity : ℕ)
    (hmin : minCameraSlotCount ≤ slotCount) (hmax : slotCount ≤ maxCameraSlotCount)
    (hcap : payloadCapacity ≤ maxCameraFrameBytes) : HalResult RingConfig :=
  match hn : checkedAdd slotHeaderBytes payloadCapacity with
  | none => .error (invalid "shared_memory.config" "slot stride overflows")
  | some slot =>
    match hs : alignUp slot slotAlignment with
    | .error e => .error e
    | .ok slotStride =>
      match hm : checkedMul slotStride slotCount with
      | none => .error mappingLengthOverflows
      | some slots =>
        match ht : checkedAdd headerBytes slots with
        | none => .error mappingLengthOverflows
        | some totalLength =>
          if hle : totalLength > maxMappingBytes then
            .error (invalid "shared_memory.config"
              "mapping length exceeds the bounded shared-memory limit")
          else .ok
            { format, slotCount, payloadCapacity, slotStride, totalLength
              minCount_le := hmin
              slotCount_le := hmax
              payloadCapacity_le := hcap
              slotStride_eq := by
                rw [alignUp_eq_ok hs, (checkedAdd_eq_some.mp hn).1]
                rfl
              totalLength_eq := by
                rw [(checkedAdd_eq_some.mp ht).1, (checkedMul_eq_some.mp hm).1]
              totalLength_le := Nat.le_of_not_lt hle }

def new (format : CameraFormat) (slotCount payloadCapacity : ℕ) : HalResult RingConfig :=
  match format.validate with
  | .error e => .error e
  | .ok () =>
    if hs : minCameraSlotCount ≤ slotCount ∧ slotCount ≤ maxCameraSlotCount then
      if hc : payloadCapacity > maxCameraFrameBytes then
        .error (invalid "shared_memory.config"
          "payload capacity must cover the negotiated format within the frame bound")
      else
        match format.worstCaseFrameBytes with
        | .error e => .error e
        | .ok worst =>
          if payloadCapacity < worst then
            .error (invalid "shared_memory.config"
              "payload capacity must cover the negotiated format within the frame bound")
          else sized format slotCount payloadCapacity hs.1 hs.2 (Nat.le_of_not_lt hc)
    else
      .error (invalid "shared_memory.config" "slot count must be within the inclusive public range")

lemma ext_of {d : RingConfig} (hf : c.format = d.format) (hn : c.slotCount = d.slotCount)
    (hp : c.payloadCapacity = d.payloadCapacity) : c = d := by
  have hs : c.slotStride = d.slotStride := by rw [c.slotStride_eq, d.slotStride_eq, hp]
  have ht : c.totalLength = d.totalLength := by rw [c.totalLength_eq, d.totalLength_eq, hs, hn]
  obtain ⟨f, n, p, s, t, _⟩ := c
  obtain ⟨f', n', p', s', t', _⟩ := d
  simp_all

lemma sized_eq_ok {hmin : minCameraSlotCount ≤ n} {hmax : n ≤ maxCameraSlotCount}
    {hcap : p ≤ maxCameraFrameBytes} (h : sized f n p hmin hmax hcap = .ok c) :
    c.format = f ∧ c.slotCount = n ∧ c.payloadCapacity = p := by
  unfold sized at h
  repeat' split at h
  all_goals cases h
  exact ⟨rfl, rfl, rfl⟩

lemma new_eq_ok (h : new f n p = .ok c) :
    c.format = f ∧ c.slotCount = n ∧ c.payloadCapacity = p := by
  unfold new at h
  repeat' split at h
  all_goals first
    | cases h
    | exact sized_eq_ok h

lemma format_of_new (h : new f n p = .ok c) :
    CameraFormat.new f.pixelFormat f.width f.height = .ok f := by
  unfold new at h
  unfold CameraFormat.new
  split at h
  · cases h
  · rename_i hvalid
    rw [hvalid]

variable (c : RingConfig)

lemma slot_le_stride : slotHeaderBytes + c.payloadCapacity ≤ c.slotStride := by
  have h := c.slotStride_eq
  omega

/-- Where slot `i` begins. -/
def slotBase (i : ℕ) : ℕ := headerBytes + i * c.slotStride

lemma slotBase_succ (i : ℕ) : c.slotBase (i + 1) = c.slotBase i + c.slotStride := by
  rw [slotBase, slotBase]
  ring

lemma slotBase_mono (h : i ≤ j) : c.slotBase i ≤ c.slotBase j :=
  Nat.add_le_add_left (Nat.mul_le_mul_right _ h) _

lemma slotBase_lt (h : i < j) : c.slotBase i + c.slotStride ≤ c.slotBase j := by
  rw [← slotBase_succ]
  exact c.slotBase_mono h

lemma headerBytes_le_slotBase (i : ℕ) : headerBytes ≤ c.slotBase i := Nat.le_add_right _ _

lemma slotCount_pos : 0 < c.slotCount := by
  have h := c.minCount_le
  unfold minCameraSlotCount at h
  omega

/-- Every slot, header and payload, lies in the first `n` bytes. -/
def Inside (n : ℕ) : Prop :=
  ∀ i < c.slotCount, c.slotBase i + slotHeaderBytes + c.payloadCapacity ≤ n

instance (n : ℕ) : Decidable (c.Inside n) := inferInstanceAs (Decidable (∀ i < _, _))

lemma inside_iff :
    c.Inside n ↔ c.slotBase (c.slotCount - 1) + slotHeaderBytes + c.payloadCapacity ≤ n := by
  have hpos := c.slotCount_pos
  constructor
  · intro h
    exact h _ (by omega)
  · intro h i hi
    have hle := c.slotBase_mono (show i ≤ c.slotCount - 1 by omega)
    omega

end RingConfig

end Ring

end RobotHal
