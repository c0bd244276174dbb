import RobotHal.Codec
import RobotHal.RingDrops

/-!
Camera frames (the `robot-hal-camera` crate) and how the runtime publishes them in a ring
(`RuntimeFrameSink` of `camera_manager.rs`).

A frame is checked twice: by the camera crate when it is built, and by the ring when it is
published. The two checks count the rows of an `NV12` chroma plane differently, and only the second
asks for even `NV12` dimensions.
-/

namespace RobotHal.Camera

open RobotHal.Ring

variable {n : ℕ} {frame : CameraFrame} {md : FrameMetadata}
variable {planes : List PlaneLayout} {offset length stride : ℕ} {generation : UInt64}
  {b : BrokerMapping}

def invalidFrame (operation message : String) : HalError :=
  HalError.new "camera.frame.invalid" .invalidArgument operation false message

/-! ### Frames -/

structure CameraPlaneLayout where
  offset : ℕ
  length : ℕ
  stride : ℕ
  length_ne : length ≠ 0
  stride_ne : stride ≠ 0
  end_le : offset + length ≤ u64Max
deriving DecidableEq

def CameraPlaneLayout.new (offset length stride : ℕ) : HalResult CameraPlaneLayout :=
  if hz : length = 0 ∨ stride = 0 then
    .error (invalidFrame "camera.plane_layout" "camera plane length and stride must be non-zero")
  else if he : offset + length ≤ u64Max then
    .ok
      { offset, length, stride
        length_ne := fun h => hz (.inl h)
        stride_ne := fun h => hz (.inr h)
        end_le := he }
  else .error (invalidFrame "camera.plane_layout" "camera plane range overflows")

def expectedPlaneCount (f : CameraFormat) : ℕ :=
  match f.pixelFormat with
  | .nv12 => 2
  | .yuyv | .mjpeg => 1

/-- The plane has room for its rows. -/
def checkRows (plane : CameraPlaneLayout) (rows : ℕ) (overflows smaller : String) :
    HalResult Unit :=
  match checkedMul plane.stride rows with
  | none => .error (invalidFrame "camera.frame_metadata" overflows)
  | some size =>
    if plane.length < size then .error (invalidFrame "camera.frame_metadata" smaller) else .ok ()

/-- The planes are large enough for the format. -/
def checkPlanes (f : CameraFormat) (planes : List CameraPlaneLayout) : HalResult Unit :=
  let width := f.width.toNat
  let height := f.height.toNat
  match f.pixelFormat, planes with
  | .nv12, y :: uv :: _ => do
    let smaller := "NV12 plane layout is smaller than its format dimensions"
    if y.stride < width ∨ uv.stride < width then
      throw (invalidFrame "camera.frame_metadata" smaller)
    checkRows y height "camera Y plane layout overflows" smaller
    checkRows uv ((height + 1) / 2) "camera UV plane layout overflows" smaller
  | .yuyv, plane :: _ =>
    let smaller := "YUYV plane layout is smaller than its format dimensions"
    match checkedMul width 2 with
    | none => .error (invalidFrame "camera.frame_metadata" "camera YUYV stride overflows")
    | some minimumStride =>
      if plane.stride < minimumStride then .error (invalidFrame "camera.frame_metadata" smaller)
      else checkRows plane height "camera YUYV plane layout overflows" smaller
  | _, _ => .ok ()

def validatePlaneLayouts (f : CameraFormat) (planes : List CameraPlaneLayout) : HalResult Unit :=
  if planes.length ≠ expectedPlaneCount f then
    .error (invalidFrame "camera.frame_metadata"
      "camera plane count does not match the pixel format")
  else
    match checkPlanes f planes with
    | .error e => .error e
    | .ok () =>
      -- the range of a plane does not overflow
      let ranges := (planes.map fun p => (p.offset, p.offset + p.length))
        |>.insertionSort fun a b => a.1 ≤ b.1
      if (ranges.zip ranges.tail).any fun r => decide (r.1.2 > r.2.1) then
        .error (invalidFrame "camera.frame_metadata" "camera plane ranges must not overlap")
      else .ok ()

structure CameraFrameMetadata where
  format : CameraFormat
  planes : List CameraPlaneLayout
  sequence : UInt64
  monotonicTimestampNs : UInt64
  clockDomain : String
  droppedCount : UInt64
  format_valid : format.validate = .ok ()
  planes_valid : validatePlaneLayouts format planes = .ok ()

def CameraFrameMetadata.new (format : CameraFormat) (planes : List CameraPlaneLayout)
    (sequence monotonicTimestampNs : UInt64) (clockDomain : String) (droppedCount : UInt64) :
    HalResult CameraFrameMetadata :=
  match hf : format.validate with
  | .error e => .error e
  | .ok () =>
    if clockDomain.toList = [] ∨ ¬isAscii clockDomain ∨ clockDomain.utf8ByteSize > 255 then
      .error (invalidFrame "camera.frame_metadata"
        "camera clock domain must be non-empty ASCII of at most 255 bytes")
    else if planes = [] then
      .error (invalidFrame "camera.frame_metadata" "camera frames must declare one or more planes")
    else
      match hp : validatePlaneLayouts format planes with
      | .error e => .error e
      | .ok () => .ok
        { format, planes, sequence, monotonicTimestampNs, clockDomain, droppedCount
          format_valid := hf
          planes_valid := hp }

structure CameraFrame where
  metadata : CameraFrameMetadata
  payload : List UInt8
  payload_le : payload.length ≤ maxCameraFrameBytes
  planes_le : ∀ p ∈ metadata.planes, p.offset + p.length ≤ payload.length

def validatePlaneLayoutsAgainstPayload (f : CameraFormat)
    (planes : List CameraPlaneLayout) (payloadLength : ℕ) : HalResult Unit :=
  match validatePlaneLayouts f planes with
  | .error e => .error e
  | .ok () =>
    if ∃ p ∈ planes, p.offset + p.length > payloadLength then
      .error (invalidFrame "camera.frame" "camera plane layout exceeds payload bounds")
    else .ok ()

def CameraFrame.new (metadata : CameraFrameMetadata) (payload : List UInt8) :
    HalResult CameraFrame :=
  if h : payload.length ≤ maxCameraFrameBytes ∧
      ∀ p ∈ metadata.planes, p.offset + p.length ≤ payload.length then
    match validatePlaneLayoutsAgainstPayload metadata.format metadata.planes payload.length with
    | .error e => .error e
    | .ok () => .ok { metadata, payload, payload_le := h.1, planes_le := h.2 }
  else
    .error
      (invalidFrame "camera.frame" "camera frame payload or plane layout exceeds public bounds")

/-! ### The sink -/

/-- The copier of `capture_into`. -/
def CameraFrame.copier (frame : CameraFrame) : Copier where
  run destination :=
    if frame.payload.length > destination.length then
      (destination, .error (invalidFrame "camera.capture_into"
        "camera frame payload exceeds the provided sink capacity"))
    else (frame.payload ++ destination.drop frame.payload.length, .ok frame.payload.length)
  length_run destination := by
    split
    · rfl
    · simp
      omega

/-- The planes of a frame in the form of the ring. -/
def ringPlanes (planes : List CameraPlaneLayout) : HalResult (List PlaneLayout) :=
  planes.mapM fun plane => PlaneLayout.new plane.offset plane.length plane.stride

structure RuntimeFrameSink where
  mapping : BrokerMapping
  generation : UInt64

namespace RuntimeFrameSink

/-- The metadata of a frame as the ring keeps it. -/
def frameMetadata (generation : UInt64) (metadata : CameraFrameMetadata) :
    HalResult FrameMetadata := do
  let planes ← ringPlanes metadata.planes
  FrameMetadata.new (.ofCamera metadata.format.pixelFormat) metadata.format.width
    metadata.format.height metadata.sequence generation metadata.monotonicTimestampNs
    metadata.droppedCount planes

def publish (sink : RuntimeFrameSink) (metadata : CameraFrameMetadata) (copier : Copier)
    (lock retry unlock : OsResult) : RuntimeFrameSink × HalResult Unit :=
  match frameMetadata sink.generation metadata with
  | .error e => (sink, .error e)
  | .ok md =>
    let (mapping, result) := sink.mapping.publishWith md copier lock retry unlock
    ({ sink with mapping }, result)

end RuntimeFrameSink

/-! ### Formats and their rings -/

variable {f : CameraFormat}

lemma validate_bounds (h : f.validate = .ok ()) :
    (0 < f.width.toNat ∧ f.width.toNat ≤ 4096) ∧ 0 < f.height.toNat ∧ f.height.toNat ≤ 2160 := by
  unfold CameraFormat.validate at h
  split at h
  · cases h
  · rename_i hb
    unfold maxCameraWidth maxCameraHeight at hb
    omega

/-- What a frame of the format may need. -/
def frameBytes (f : CameraFormat) : ℕ :=
  match f.pixelFormat with
  | .nv12 => f.width.toNat * f.height.toNat * 3 / 2
  | .yuyv => f.width.toNat * f.height.toNat * 2
  | .mjpeg => maxCameraFrameBytes

lemma pixels_le (h : f.validate = .ok ()) : f.width.toNat * f.height.toNat ≤ 4096 * 2160 := by
  obtain ⟨⟨-, hw⟩, -, hh⟩ := validate_bounds h
  exact Nat.mul_le_mul hw hh

lemma frameBytes_le (h : f.validate = .ok ()) : frameBytes f ≤ maxCameraFrameBytes := by
  have hp := pixels_le h
  unfold frameBytes maxCameraFrameBytes
  split <;> omega

lemma worstCaseFrameBytes_eq (h : f.validate = .ok ()) :
    f.worstCaseFrameBytes = .ok (frameBytes f) := by
  have hp := pixels_le h
  have hmul : ∀ k ≤ 3, checkedMul (f.width.toNat * f.height.toNat) k =
      some (f.width.toNat * f.height.toNat * k) := by
    intro k hk
    refine checkedMul_eq_some.mpr ⟨rfl, (Nat.mul_le_mul hp hk).trans ?_⟩
    decide
  have hpixels : checkedMul f.width.toNat f.height.toNat = some (f.width.toNat * f.height.toNat) :=
    checkedMul_eq_some.mpr ⟨rfl, hp.trans (by decide)⟩
  unfold CameraFormat.worstCaseFrameBytes frameBytes
  rw [hpixels]
  cases f.pixelFormat with
  | nv12 => simp only [hmul 3 (by decide)]
  | yuyv => simp only [hmul 2 (by decide)]
  | mjpeg => rfl

lemma sized_ok {p : ℕ} (hmin : minCameraSlotCount ≤ n) (hmax : n ≤ maxCameraSlotCount)
    (hcap : p ≤ maxCameraFrameBytes) : ∃ c, RingConfig.sized f n p hmin hmax hcap = .ok c := by
  have hn : n ≤ 8 := hmax
  have hp : p ≤ 25165824 := hcap
  have hslot : checkedAdd slotHeaderBytes p = some (128 + p) :=
    checkedAdd_eq_some.mpr ⟨rfl, by unfold slotHeaderBytes u64Max; omega⟩
  have halign : alignUp (128 + p) slotAlignment = .ok ((128 + p + 63) / 64 * 64) := by
    have hadd : checkedAdd (128 + p) (slotAlignment - 1) = some (128 + p + 63) :=
      checkedAdd_eq_some.mpr ⟨rfl, by unfold slotAlignment u64Max; omega⟩
    rw [alignUp, hadd]
    rfl
  have hslots : (128 + p + 63) / 64 * 64 * n ≤ 25166016 * 8 := Nat.mul_le_mul (by omega) hn
  have hmul : checkedMul ((128 + p + 63) / 64 * 64) n = some ((128 + p + 63) / 64 * 64 * n) :=
    checkedMul_eq_some.mpr ⟨rfl, hslots.trans (by decide)⟩
  have htotal : checkedAdd headerBytes ((128 + p + 63) / 64 * 64 * n) =
      some (192 + (128 + p + 63) / 64 * 64 * n) :=
    checkedAdd_eq_some.mpr ⟨rfl, by unfold headerBytes u64Max; omega⟩
  unfold RingConfig.sized
  split
  · simp_all
  split
  · simp_all
  split
  · simp_all
  split
  · simp_all
  split
  · unfold maxMappingBytes at *
    simp_all
    omega
  · exact ⟨_, rfl⟩

lemma ringConfig_new_ok (h : f.validate = .ok ()) (hmin : minCameraSlotCount ≤ n)
    (hmax : n ≤ maxCameraSlotCount) : ∃ c, RingConfig.new f n (frameBytes f) = .ok c := by
  obtain ⟨c, hc⟩ := sized_ok (f := f) hmin hmax (frameBytes_le h)
  refine ⟨c, ?_⟩
  unfold RingConfig.new
  rw [h]
  simp only [hmin, hmax, and_self, dite_true, worstCaseFrameBytes_eq h, lt_irrefl, if_false,
    frameBytes_le h, gt_iff_lt, not_lt.mpr, dite_false]
  exact hc

/-! ### What the ring accepts -/

lemma checkRanges_eq_ok : checkRanges n planes = .ok () ↔
    ∀ p ∈ planes, p.offset.toNat + p.length.toNat ≤ n := by
  induction planes with
  | nil => simp [checkRanges]
  | cons p planes ih =>
    have hadd : checkedAdd p.offset.toNat p.length.toNat =
        some (p.offset.toNat + p.length.toNat) := by
      have he := p.end_lt
      refine checkedAdd_eq_some.mpr ⟨rfl, ?_⟩
      unfold u64Max
      omega
    rw [checkRanges, hadd]
    simp only [List.forall_mem_cons, ← ih]
    split
    · rename_i hgt
      simp only [reduceCtorEq, false_iff, not_and]
      intro hle
      omega
    · rename_i hle
      simp [Nat.le_of_not_lt hle]

lemma checkCoverage_eq_ok {l : List (PlaneLayout × ℕ × ℕ)} : checkCoverage l = .ok () ↔
    ∀ x ∈ l, x.2.1 ≤ x.1.stride.toNat ∧ x.1.stride.toNat * x.2.2 ≤ x.1.length.toNat := by
  induction l with
  | nil => simp [checkCoverage]
  | cons x l ih =>
    obtain ⟨p, minimumStride, rows⟩ := x
    have hlt := p.length.toNat_lt
    rw [checkCoverage]
    simp only [List.forall_mem_cons, ← ih]
    split
    · rename_i hs
      simp only [reduceCtorEq, false_iff, not_and]
      intro hle
      omega
    rename_i hs
    cases hm : checkedMul p.stride.toNat rows with
    | none =>
      have hover : ¬p.stride.toNat * rows ≤ u64Max := by
        intro hle
        simp [checkedMul, hle] at hm
      unfold u64Max at hover
      simp only [reduceCtorEq, false_iff, not_and]
      intro hle
      omega
    | some size =>
      obtain ⟨rfl, -⟩ := checkedMul_eq_some.mp hm
      dsimp only
      split
      · simp only [reduceCtorEq, false_iff, not_and]
        intro hle
        omega
      · simp only [iff_and_self]
        omega

lemma validatePlanes_of_adjacent {format : PixelFormat} {width height : UInt32}
    (hcount : planes.length = if format = .nv12 then 2 else 1)
    (hranges : ∀ p ∈ planes, p.offset.toNat + p.length.toNat ≤ n)
    (hrows : ∀ x ∈ planes.zip (minimumPlanes format width.toNat height.toNat),
      x.2.1 ≤ x.1.stride.toNat ∧ x.1.stride.toNat * x.2.2 ≤ x.1.length.toNat)
    (hadjacent : planes.IsChain fun p q => p.offset.toNat + p.length.toNat = q.offset.toNat) :
    validatePlanes format width height planes n = .ok () := by
  have hle : planes.length ≤ 2 := by
    rw [hcount]
    split <;> omega
  have hsorted : ((planes.map fun p => (p.offset.toNat, p.offset.toNat + p.length.toNat)).zip
      (planes.map fun p => (p.offset.toNat, p.offset.toNat + p.length.toNat)).tail).any
        (fun r => decide (r.1.2 > r.2.1)) = false := by
    rcases planes with _ | ⟨p, _ | ⟨q, _ | ⟨r, planes⟩⟩⟩
    · rfl
    · rfl
    · simp at hadjacent ⊢
      omega
    · simp at hle
  have hsort : (planes.map fun p => (p.offset.toNat, p.offset.toNat + p.length.toNat)).insertionSort
      (fun a b => a.1 ≤ b.1) =
      planes.map fun p => (p.offset.toNat, p.offset.toNat + p.length.toNat) := by
    rcases planes with _ | ⟨p, _ | ⟨q, _ | ⟨r, planes⟩⟩⟩
    · rfl
    · rfl
    · simp at hadjacent
      simp [List.insertionSort, List.orderedInsert]
      omega
    · simp at hle
  unfold validatePlanes
  rw [if_neg (by unfold maxPlanes; omega), checkRanges_eq_ok.mpr hranges,
    checkCoverage_eq_ok.mpr hrows]
  dsimp only
  rw [hsort, hsorted]
  rfl

lemma planeLayout_new_ok (hl : length ≠ 0) (hs : stride ≠ 0) (hend : offset + length < 2 ^ 32)
    (hstride : stride < 2 ^ 32) :
    ∃ p, PlaneLayout.new offset length stride = .ok p ∧ p.offset.toNat = offset ∧
      p.length.toNat = length ∧ p.stride.toNat = stride := by
  have hof : ∀ n < 2 ^ 32, (UInt32.ofNat n).toNat = n := fun n hn =>
    UInt32.toNat_ofNat_of_lt' (by simpa [UInt32.size] using hn)
  have hne : ∀ n < 2 ^ 32, n ≠ 0 → UInt32.ofNat n ≠ 0 := by
    intro n hn h0 h
    have hz := hof n hn
    rw [h] at hz
    exact h0 hz.symm
  unfold PlaneLayout.new
  rw [dif_neg (by omega), dif_neg (by omega), if_neg (by omega),
    dif_neg (by simp [hne length (by omega) hl, hne stride hstride hs]), dif_neg (by omega)]
  exact ⟨_, rfl, hof _ (by omega), hof _ (by omega), hof _ hstride⟩

lemma stride_of_planeLayout_new {p : PlaneLayout}
    (h : PlaneLayout.new offset length stride = .ok p) :
    stride < 2 ^ 32 := by
  by_contra hs
  unfold PlaneLayout.new at h
  repeat' split at h
  all_goals first
    | omega
    | cases h

/-- A plane as the ring keeps it. -/
def Shown (p : CameraPlaneLayout) (q : PlaneLayout) : Prop :=
  q.offset.toNat = p.offset ∧ q.length.toNat = p.length ∧ q.stride.toNat = p.stride

lemma ringPlanes_ok {planes : List CameraPlaneLayout}
    (h : ∀ p ∈ planes, p.offset + p.length < 2 ^ 32 ∧ p.stride < 2 ^ 32) :
    ∃ qs, ringPlanes planes = .ok qs ∧ List.Forall₂ Shown planes qs := by
  induction planes with
  | nil => exact ⟨[], rfl, .nil⟩
  | cons p planes ih =>
    obtain ⟨hend, hstride⟩ := h p (by simp)
    obtain ⟨q, hq, hshown⟩ := planeLayout_new_ok p.length_ne p.stride_ne hend hstride
    obtain ⟨qs, hqs, hall⟩ := ih fun p hp => h p (by simp [hp])
    refine ⟨q :: qs, ?_, .cons hshown hall⟩
    rw [ringPlanes] at hqs ⊢
    rw [List.mapM_cons, hq, ok_bind, hqs]
    rfl

lemma stride_of_ringPlanes {planes : List CameraPlaneLayout} {qs : List PlaneLayout}
    (h : ringPlanes planes = .ok qs) : ∀ p ∈ planes, p.stride < 2 ^ 32 := by
  induction planes generalizing qs with
  | nil => simp
  | cons p planes ih =>
    rw [ringPlanes, List.mapM_cons] at h
    obtain ⟨q, hq, hrest⟩ := bind_eq_ok.mp h
    obtain ⟨qs', hqs, -⟩ := bind_eq_ok.mp hrest
    simp only [List.forall_mem_cons]
    exact ⟨stride_of_planeLayout_new hq, ih hqs⟩

/-! ### Tightly packed frames -/

/-- The least stride and the number of rows of each plane, as the camera crate counts them. A
compressed frame has no rows. -/
def minimumRows (f : CameraFormat) : List (ℕ × ℕ) :=
  let width := f.width.toNat
  let height := f.height.toNat
  match f.pixelFormat with
  | .nv12 => [(width, height), (width, (height + 1) / 2)]
  | .yuyv => [(width * 2, height)]
  | .mjpeg => []

/-- The planes follow each other from `o` to `n`. -/
def Adjacent : ℕ → List CameraPlaneLayout → ℕ → Prop
  | o, [], n => o = n
  | o, p :: planes, n => p.offset = o ∧ Adjacent (o + p.length) planes n

/-- No byte of the payload is padding. -/
@[mk_iff]
structure CameraFrame.Tight (frame : CameraFrame) : Prop where
  rows : ∀ x ∈ frame.metadata.planes.zip (minimumRows frame.metadata.format),
    x.1.stride = x.2.1 ∧ x.1.length = x.2.1 * x.2.2
  adjacent : Adjacent 0 frame.metadata.planes frame.payload.length

/-- The condition on a frame: even dimensions for `NV12`, and strides the ring can store. -/
def CameraFrame.Publishable (frame : CameraFrame) : Prop :=
  (frame.metadata.format.pixelFormat = .nv12 →
    frame.metadata.format.width.toNat % 2 = 0 ∧ frame.metadata.format.height.toNat % 2 = 0) ∧
  ∀ p ∈ frame.metadata.planes, p.stride < 2 ^ 32

lemma length_planes (md : CameraFrameMetadata) :
    md.planes.length = expectedPlaneCount md.format := by
  by_contra h
  have hv := md.planes_valid
  rw [validatePlaneLayouts, if_pos h] at hv
  cases hv

/-- The layout of a tight frame is determined by its format, but for a compressed frame's length and
stride. -/
inductive CameraFrame.TightLayout (frame : CameraFrame) : Prop
  | nv12 (y uv : CameraPlaneLayout) (hf : frame.metadata.format.pixelFormat = .nv12)
      (hp : frame.metadata.planes = [y, uv])
      (hy : y.offset = 0 ∧ y.stride = frame.metadata.format.width.toNat ∧
        y.length = frame.metadata.format.width.toNat * frame.metadata.format.height.toNat)
      (huv : uv.offset = y.length ∧ uv.stride = frame.metadata.format.width.toNat ∧
        uv.length =
          frame.metadata.format.width.toNat * ((frame.metadata.format.height.toNat + 1) / 2))
      (hn : frame.payload.length = y.length + uv.length)
  | yuyv (p : CameraPlaneLayout) (hf : frame.metadata.format.pixelFormat = .yuyv)
      (hp : frame.metadata.planes = [p])
      (hy : p.offset = 0 ∧ p.stride = frame.metadata.format.width.toNat * 2 ∧
        p.length = frame.metadata.format.width.toNat * 2 * frame.metadata.format.height.toNat)
      (hn : frame.payload.length = p.length)
  | mjpeg (p : CameraPlaneLayout) (hf : frame.metadata.format.pixelFormat = .mjpeg)
      (hp : frame.metadata.planes = [p]) (hy : p.offset = 0) (hn : frame.payload.length = p.length)

lemma CameraFrame.Tight.layout (h : frame.Tight) : frame.TightLayout := by
  obtain ⟨hrows, hadj⟩ := h
  have hlen := length_planes frame.metadata
  unfold expectedPlaneCount at hlen
  unfold minimumRows at hrows
  cases hf : frame.metadata.format.pixelFormat with
  | nv12 =>
    rw [hf] at hlen hrows
    obtain ⟨y, uv, hp⟩ := List.length_eq_two.mp hlen
    rw [hp] at hrows hadj
    simp only [List.zip_cons_cons, List.zip_nil_right, List.forall_mem_cons] at hrows
    obtain ⟨hy, huv, -⟩ := hrows
    obtain ⟨hy0, huv0, hn⟩ := hadj
    rw [Nat.zero_add] at huv0 hn
    exact .nv12 y uv hf hp ⟨hy0, hy⟩ ⟨huv0, huv⟩ hn.symm
  | yuyv =>
    rw [hf] at hlen hrows
    obtain ⟨p, hp⟩ := List.length_eq_one_iff.mp hlen
    rw [hp] at hrows hadj
    simp only [List.zip_cons_cons, List.zip_nil_right, List.forall_mem_cons] at hrows
    obtain ⟨hp0, hn⟩ := hadj
    rw [Adjacent, Nat.zero_add] at hn
    exact .yuyv p hf hp ⟨hp0, hrows.1⟩ hn.symm
  | mjpeg =>
    rw [hf] at hlen
    obtain ⟨p, hp⟩ := List.length_eq_one_iff.mp hlen
    rw [hp] at hadj
    obtain ⟨hp0, hn⟩ := hadj
    rw [Adjacent, Nat.zero_add] at hn
    exact .mjpeg p hf hp hp0 hn.symm

/-- A tight frame that can be published is no larger than the format's worst case. -/
lemma CameraFrame.Tight.length_le (h : frame.Tight) (hpub : frame.Publishable) :
    frame.payload.length ≤ frameBytes frame.metadata.format := by
  unfold frameBytes
  rcases h.layout with ⟨y, uv, hf, -, ⟨-, -, hy⟩, ⟨-, -, huv⟩, hn⟩ | ⟨p, hf, -, ⟨-, -, hp⟩, hn⟩ |
    ⟨p, hf, -, -, hn⟩
  · rw [hf, hn, hy, huv]
    obtain ⟨k, hk⟩ := Nat.dvd_of_mod_eq_zero (hpub.1 hf).2
    have hhalf : (frame.metadata.format.height.toNat + 1) / 2 = k := by omega
    dsimp only
    rw [hhalf, hk, Nat.le_div_iff_mul_le (by decide)]
    exact le_of_eq (by ring)
  · rw [hf, hn, hp]
    exact le_of_eq (by ring)
  · rw [hf]
    exact frame.payload_le

lemma CameraFrame.Tight.validatePlanes (h : frame.Tight) (hpub : frame.Publishable) :
    ∃ qs, ringPlanes frame.metadata.planes = .ok qs ∧
      ∀ n, frame.payload.length ≤ n →
        Ring.validatePlanes (.ofCamera frame.metadata.format.pixelFormat)
          frame.metadata.format.width frame.metadata.format.height qs n = .ok () := by
  have hends : ∀ p ∈ frame.metadata.planes, p.offset + p.length < 2 ^ 32 ∧ p.stride < 2 ^ 32 := by
    intro p hp
    have hle := frame.planes_le p hp
    have hmax := frame.payload_le
    unfold maxCameraFrameBytes at hmax
    exact ⟨by omega, hpub.2 p hp⟩
  obtain ⟨qs, hqs, hall⟩ := ringPlanes_ok hends
  refine ⟨qs, hqs, fun n hle => ?_⟩
  rcases h.layout with ⟨y, uv, hf, hp, ⟨hy0, hys, hyl⟩, ⟨huv0, huvs, huvl⟩, hn⟩ |
    ⟨p, hf, hp, ⟨hp0, hps, hpl⟩, hn⟩ | ⟨p, hf, hp, hp0, hn⟩
  · -- the chroma plane has the rows the ring asks for since the height is even
    obtain ⟨k, hk⟩ := Nat.dvd_of_mod_eq_zero (hpub.1 hf).2
    have hhalf : (frame.metadata.format.height.toNat + 1) / 2 =
        frame.metadata.format.height.toNat / 2 := by omega
    rw [hp] at hall
    obtain ⟨q, qs', ⟨ho, hl, hs⟩, hall', rfl⟩ := List.forall₂_cons_left_iff.mp hall
    obtain ⟨q', qs'', ⟨ho', hl', hs'⟩, hall'', rfl⟩ := List.forall₂_cons_left_iff.mp hall'
    obtain rfl := List.forall₂_nil_left_iff.mp hall''
    refine validatePlanes_of_adjacent ?_ ?_ ?_ ?_
    · rw [hf]
      rfl
    · simp only [List.forall_mem_cons, ho, hl, ho', hl', hy0, huv0]
      exact ⟨by omega, by omega, nofun⟩
    · rw [hf]
      simp only [PixelFormat.ofCamera, minimumPlanes, List.zip_cons_cons, List.zip_nil_left,
        List.forall_mem_cons, hs, hl, hs', hl', hys, hyl, huvs, huvl, hhalf]
      exact ⟨⟨le_rfl, le_rfl⟩, ⟨le_rfl, le_rfl⟩, nofun⟩
    · simp [ho, hl, ho', hy0, huv0]
  · obtain ⟨⟨-, hw⟩, -⟩ := validate_bounds frame.metadata.format_valid
    have hmul : checkedMul frame.metadata.format.width.toNat 2 =
        some (frame.metadata.format.width.toNat * 2) :=
      checkedMul_eq_some.mpr ⟨rfl, by unfold u64Max; omega⟩
    rw [hp] at hall
    obtain ⟨q, qs', ⟨ho, hl, hs⟩, hall', rfl⟩ := List.forall₂_cons_left_iff.mp hall
    obtain rfl := List.forall₂_nil_left_iff.mp hall'
    refine validatePlanes_of_adjacent ?_ ?_ ?_ ?_
    · rw [hf]
      rfl
    · simp only [List.forall_mem_cons, ho, hl, hp0]
      exact ⟨by omega, nofun⟩
    · rw [hf]
      simp only [PixelFormat.ofCamera, minimumPlanes, hmul, Option.getD_some, List.zip_cons_cons,
        List.zip_nil_left, List.forall_mem_cons, hs, hl, hps, hpl]
      exact ⟨⟨le_rfl, le_rfl⟩, nofun⟩
    · simp
  · rw [hp] at hall
    obtain ⟨q, qs', ⟨ho, hl, hs⟩, hall', rfl⟩ := List.forall₂_cons_left_iff.mp hall
    obtain rfl := List.forall₂_nil_left_iff.mp hall'
    refine validatePlanes_of_adjacent ?_ ?_ ?_ ?_
    · rw [hf]
      rfl
    · simp only [List.forall_mem_cons, ho, hl, hp0]
      exact ⟨by omega, nofun⟩
    · rw [hf]
      simp [PixelFormat.ofCamera, minimumPlanes]
    · simp

/-! ### What the sink accepts -/

lemma validateDimensions_eq_ok (h : f.validate = .ok ()) :
    validateDimensions (.ofCamera f.pixelFormat) f.width f.height = .ok () ↔
      (f.pixelFormat = .nv12 → f.width.toNat % 2 = 0 ∧ f.height.toNat % 2 = 0) := by
  have hpf : PixelFormat.ofCamera f.pixelFormat = .nv12 ↔ f.pixelFormat = .nv12 := by
    cases f.pixelFormat <;> simp [PixelFormat.ofCamera]
  obtain ⟨⟨hw, hw'⟩, hh, hh'⟩ := validate_bounds h
  unfold validateDimensions maxCameraWidth maxCameraHeight
  rw [if_neg (by omega)]
  simp only [hpf]
  split
  · rename_i hodd
    simp only [reduceCtorEq, false_iff]
    intro heven
    have := heven hodd.1
    omega
  · rename_i hodd
    simp only [true_iff]
    intro hnv
    by_contra hc
    exact hodd ⟨hnv, by omega⟩

/-- The frame passes every check on its way into a ring of configuration `c`. -/
def CameraFrame.Accepted (frame : CameraFrame) (c : RingConfig) (generation : UInt64) : Prop :=
  ∃ md, RuntimeFrameSink.frameMetadata generation frame.metadata = .ok md ∧
    frame.payload.length ≤ c.payloadCapacity ∧
    Ring.validatePlanes md.format md.width md.height md.planes frame.payload.length = .ok ()

lemma frameMetadata_eq_ok {m : CameraFrameMetadata}
    (h : RuntimeFrameSink.frameMetadata generation m = .ok md) :
    ∃ qs, ringPlanes m.planes = .ok qs ∧
      validateDimensions (.ofCamera m.format.pixelFormat) m.format.width m.format.height = .ok () ∧
      md.format = .ofCamera m.format.pixelFormat ∧ md.width = m.format.width ∧
      md.height = m.format.height := by
  obtain ⟨qs, hqs, hnew⟩ := bind_eq_ok.mp h
  have hmd := FrameMetadata.new_eq_ok hnew
  obtain ⟨_, hdim, _⟩ := bind_eq_ok.mp hnew
  refine ⟨qs, hqs, hdim, ?_⟩
  rw [hmd]
  exact ⟨rfl, rfl, rfl⟩

lemma publishable_of_frameMetadata
    (h : RuntimeFrameSink.frameMetadata generation frame.metadata = .ok md) :
    frame.Publishable := by
  obtain ⟨qs, hqs, hdim, -⟩ := frameMetadata_eq_ok h
  exact ⟨(validateDimensions_eq_ok frame.metadata.format_valid).mp hdim, stride_of_ringPlanes hqs⟩

lemma CameraFrame.Tight.accepted (h : frame.Tight) {c : RingConfig}
    (hc : c.payloadCapacity = frameBytes frame.metadata.format) (generation : UInt64) :
    frame.Accepted c generation ↔ frame.Publishable := by
  constructor
  · rintro ⟨md, hmd, -, -⟩
    exact publishable_of_frameMetadata hmd
  · intro hpub
    obtain ⟨qs, hqs, hvalid⟩ := h.validatePlanes hpub
    have hdim := (validateDimensions_eq_ok frame.metadata.format_valid).mpr hpub.1
    let md : FrameMetadata :=
      { format := .ofCamera frame.metadata.format.pixelFormat
        width := frame.metadata.format.width
        height := frame.metadata.format.height
        sequence := frame.metadata.sequence
        generation
        monotonicTimestampNs := frame.metadata.monotonicTimestampNs
        droppedCount := frame.metadata.droppedCount
        planes := qs }
    refine ⟨md, ?_, hc ▸ h.length_le hpub, hvalid _ le_rfl⟩
    rw [RuntimeFrameSink.frameMetadata, hqs, ok_bind, FrameMetadata.new, hdim, ok_bind,
      hvalid _ frame.payload_le]
    rfl

/-- A publish under a free lock fails for no other reason than the frame, unless the counter of
dropped frames is full. -/
lemma publishLockedWith_ok {copier : Copier} (h : b.Orderly) (hfull : ¬b.Full)
    (hfits : ∀ i, b.Fits i md copier n) : (b.publishLockedWith md copier).2 = .ok () := by
  rcases b.lockedEnd md copier with ⟨e, -, -, hwhy⟩ | ⟨-, -, hr, -⟩ | ⟨i, -, -, hr, -⟩
  · rcases hwhy with hf | ⟨e, hsel⟩ | ⟨i, e, hsel, hst⟩
    · exact absurd hf hfull
    · obtain ⟨r, hr⟩ := h.select_defined
      rw [hsel] at hr
      cases hr
    · obtain ⟨s, hs⟩ := h.defined (BrokerMapping.select_some hsel).1
      rw [hst] at hs
      cases hs
  · exact hr
  · rcases hr with ⟨hr, -⟩ | ⟨-, hno⟩
    · exact hr
    · exact absurd (hfits i) (hno n)

lemma fits_of_accepted (hle : frame.payload.length ≤ b.config.payloadCapacity)
    (hv : Ring.validatePlanes md.format md.width md.height md.planes frame.payload.length = .ok ())
    (i : ℕ) : b.Fits i md frame.copier frame.payload.length := by
  have hlen : (b.payload i).length = b.config.payloadCapacity := Mem.length_read _ _ _
  refine ⟨?_, hle, hv⟩
  simp only [CameraFrame.copier, hlen]
  rw [if_neg (by omega)]

/-- With the lock free, the sink takes a tight frame exactly if it can be published. -/
lemma CameraFrame.Tight.publish (ht : frame.Tight) (sink : RuntimeFrameSink)
    (h : sink.mapping.Orderly) (hfull : ¬sink.mapping.Full)
    (hc : sink.mapping.config.payloadCapacity = frameBytes frame.metadata.format)
    (retry : OsResult) :
    (sink.publish frame.metadata frame.copier (.ok ()) retry (.ok ())).2 = .ok () ↔
      frame.Publishable := by
  constructor
  · intro hp
    unfold RuntimeFrameSink.publish at hp
    split at hp
    · cases hp
    · exact publishable_of_frameMetadata ‹_›
  · intro hpub
    obtain ⟨md, hmd, hle, hv⟩ := (ht.accepted hc sink.generation).mpr hpub
    obtain ⟨-, -, hdim, hformat, hwidth, hheight⟩ := frameMetadata_eq_ok hmd
    have hlocked := publishLockedWith_ok h hfull (fits_of_accepted hle hv)
    simp only [RuntimeFrameSink.publish, hmd, BrokerMapping.publishWith, hformat, hwidth, hheight,
      hdim, released, hlocked]

/-- A ring can be made for every format a camera may negotiate, with any allowed number of slots.
A tight frame fits its slots and is accepted, in whatever state the ring is, exactly if an `NV12`
frame has even dimensions and the strides fit the ring's fields. -/
theorem negotiated_frames_publishable (pixelFormat : CameraPixelFormat) (width height : UInt32)
    (f : CameraFormat) (hf : CameraFormat.new pixelFormat width height = .ok f) (slots : ℕ)
    (hmin : minCameraSlotCount ≤ slots) (hmax : slots ≤ maxCameraSlotCount) :
    ∃ n c, f.worstCaseFrameBytes = .ok n ∧ RingConfig.new f slots n = .ok c ∧
      ∀ frame : CameraFrame, frame.metadata.format = f → frame.Tight → ∀ generation,
        (frame.Accepted c generation ↔ frame.Publishable) ∧
        ∀ sha256 name identity token calls b retry,
          b = List.foldl BrokerMapping.call (.create sha256 c name identity token) calls →
          ¬b.Full →
          ((RuntimeFrameSink.publish ⟨b, generation⟩ frame.metadata frame.copier (.ok ()) retry
            (.ok ())).2 = .ok () ↔ frame.Publishable) := by
  have hv : f.validate = .ok () := by
    unfold CameraFormat.new at hf
    split at hf
    · cases hf
    · rename_i hv
      exact Except.ok.inj hf ▸ hv
  obtain ⟨c, hc⟩ := ringConfig_new_ok hv hmin hmax
  obtain ⟨-, -, hcap⟩ := RingConfig.new_eq_ok hc
  refine ⟨frameBytes f, c, worstCaseFrameBytes_eq hv, hc, ?_⟩
  rintro frame rfl ht generation
  refine ⟨ht.accepted hcap generation, ?_⟩
  intro sha256 name identity token calls b retry hb hfull
  obtain ⟨horderly, hconfig⟩ := BrokerMapping.orderly_calls sha256 c name identity token calls
  rw [← hb] at horderly hconfig
  have hcap' : b.config.payloadCapacity = frameBytes frame.metadata.format := by rw [hconfig, hcap]
  exact ht.publish ⟨b, generation⟩ horderly hfull hcap' retry

/-! ### Two small frames -/

/-- The tight `NV12` planes of a format. -/
def tightPlanes (f : CameraFormat) : HalResult (List CameraPlaneLayout) := do
  let width := f.width.toNat
  let height := f.height.toNat
  let y ← CameraPlaneLayout.new 0 (width * height) width
  let uv ← CameraPlaneLayout.new (width * height) (width * ((height + 1) / 2)) width
  return [y, uv]

/-- A blank `NV12` frame. -/
def blank (width height : UInt32) : HalResult CameraFrame := do
  let f ← CameraFormat.new .nv12 width height
  let planes ← tightPlanes f
  let metadata ← CameraFrameMetadata.new f planes 1 5 "monotonic" 0
  CameraFrame.new metadata
    (List.replicate (width.toNat * height.toNat + width.toNat * ((height.toNat + 1) / 2)) 0)

instance : ∀ o planes n, Decidable (Adjacent o planes n)
  | o, [], n => inferInstanceAs (Decidable (o = n))
  | o, p :: planes, n =>
    have := instDecidableAdjacent (o + p.length) planes n
    inferInstanceAs (Decidable (p.offset = o ∧ Adjacent (o + p.length) planes n))

instance (frame : CameraFrame) : Decidable frame.Tight :=
  decidable_of_iff' _ frame.tight_iff

theorem negotiated_frames_publishable_even : ∃ frame : CameraFrame,
    frame.metadata.format = ⟨.nv12, 2, 2⟩ ∧ frame.payload.length = 6 ∧
    ∃ c, RingConfig.new ⟨.nv12, 2, 2⟩ 4 6 = .ok c ∧ frame.Accepted c 1 := by
  have hframe : ∃ frame ∈ (blank 2 2).toOption,
      frame.metadata.format = ⟨.nv12, 2, 2⟩ ∧ frame.payload.length = 6 ∧ frame.Tight ∧
      ∀ p ∈ frame.metadata.planes, p.stride < 2 ^ 32 := by
    decide +kernel
  obtain ⟨frame, -, hfmt, hlen, ht, hs⟩ := hframe
  obtain ⟨n, c, hn, hc, hall⟩ := negotiated_frames_publishable .nv12 2 2 ⟨.nv12, 2, 2⟩ (by decide) 4
    (by decide) (by decide)
  obtain rfl : 6 = n := Except.ok.inj hn
  refine ⟨frame, hfmt, hlen, c, hc, ((hall frame hfmt ht 1).1).mpr ⟨fun _ => ?_, hs⟩⟩
  rw [hfmt]
  decide

/-- A format of three by three pixels can be negotiated. Its frames do not fit their slots, and none
is accepted. -/
theorem odd_nv12_never_published : ∃ frame ∈ (blank 3 3).toOption,
    frame.metadata.format = ⟨.nv12, 3, 3⟩ ∧ frame.Tight ∧
    ∃ c ∈ (RingConfig.new ⟨.nv12, 3, 3⟩ 4 13).toOption,
      (⟨.nv12, 3, 3⟩ : CameraFormat).worstCaseFrameBytes = .ok 13 ∧
      frame.payload.length = 15 ∧ c.payloadCapacity = 13 ∧
      (RuntimeFrameSink.publish
        ⟨.create id c "/robot-hal-00" (Vector.replicate 32 0) (Vector.replicate 32 0), 1⟩
        frame.metadata frame.copier (.ok ()) (.ok ()) (.ok ())).2 =
          .error (invalid "shared_memory.layout" "NV12 dimensions must be even") := by
  decide +kernel

end RobotHal.Camera
