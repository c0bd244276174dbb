import RobotHal.RingLayout

/-!
The reader's side of the shared frame ring: the header of a mapping, the check a client makes
of it, and the copy of one pinned frame (`validate_header` and `ReadOnlyMapping` of
`ring.rs`).

The header's total length, slot count, stride and capacity are read from bytes the reader
does not trust. The check compares the total length with the descriptor and the stride with a
recomputed configuration, but never the recomputed total with the length that was mapped, so
whether the slots lie inside the mapping is up to the header.
-/

namespace RobotHal.Ring

variable {k n : ℕ} {lease : FrameLease} {m : Mem}

/-! ### Header fields -/

@[simp] def headerMagic : ℕ := 0
@[simp] def headerMajor : ℕ := 8
@[simp] def headerMinor : ℕ := 10
@[simp] def headerTotalLength : ℕ := 16
@[simp] def headerSlotCount : ℕ := 24
@[simp] def headerSlotStride : ℕ := 32
@[simp] def headerFormat : ℕ := 40
@[simp] def headerWidth : ℕ := 44
@[simp] def headerHeight : ℕ := 48
@[simp] def headerPayloadCapacity : ℕ := 56
@[simp] def headerIdentity : ℕ := 64
@[simp] def headerTokenHash : ℕ := 96
@[simp] def headerDroppedCount : ℕ := 128
@[simp] def headerTerminalState : ℕ := 136
def terminalStateOpen : UInt64 := 0
def terminalStateClosed : UInt64 := 1

/-! ### Slot fields -/

@[simp] def slotStateField : ℕ := 0
@[simp] def slotSequenceField : ℕ := 8
@[simp] def slotGenerationField : ℕ := 16
@[simp] def slotTimestampField : ℕ := 24
@[simp] def slotDroppedField : ℕ := 32
@[simp] def slotPayloadLengthField : ℕ := 40
@[simp] def slotPlaneCountField : ℕ := 48
@[simp] def slotPlanesField : ℕ := 56
@[simp] def planeBytes : ℕ := 12

structure ValidatedHeader where
  config : RingConfig
  identity : Vector UInt8 32
deriving DecidableEq

section Header

-- the hash of a capability token, a digest of the same length
variable (sha256 : Vector UInt8 32 → Vector UInt8 32)

def writeHeader (m : Mem) (c : RingConfig) (d : MappingDescriptor) : Mem :=
  m.write headerMagic magic
  |>.writeU16 headerMajor layoutMajor
  |>.writeU16 headerMinor layoutMinor
  |>.writeU64 headerTotalLength (UInt64.ofNat c.totalLength)
  |>.writeU64 headerSlotCount (UInt64.ofNat c.slotCount)
  |>.writeU64 headerSlotStride (UInt64.ofNat c.slotStride)
  |>.writeU32 headerFormat (PixelFormat.ofCamera c.format.pixelFormat).raw
  |>.writeU32 headerWidth c.format.width
  |>.writeU32 headerHeight c.format.height
  |>.writeU64 headerPayloadCapacity (UInt64.ofNat c.payloadCapacity)
  |>.write headerIdentity d.identity.toList
  |>.write headerTokenHash (sha256 d.token).toList
  |>.writeU64 headerTerminalState terminalStateOpen

def validateHeader (m : Mem) (mappedLength : ℕ) (d : MappingDescriptor) :
    HalResult ValidatedHeader :=
  if m.read headerMagic magic.length ≠ magic ∨ m.readU16 headerMajor ≠ layoutMajor ∨
      m.readU16 headerMinor > layoutMinor then
    .error (invalid "shared_memory.open" "mapping magic or layout version is incompatible")
  else if (m.readU64 headerTotalLength).toNat ≠ d.totalLength ∨
      mappedLength < (m.readU64 headerTotalLength).toNat then
    .error (invalid "shared_memory.open" "mapping total length does not match its descriptor")
  else
    match PixelFormat.tryFrom (m.readU32 headerFormat) with
    | .error e => .error e
    | .ok format =>
      match CameraFormat.new format.toCamera (m.readU32 headerWidth) (m.readU32 headerHeight) with
      | .error e => .error e
      | .ok cameraFormat =>
        match RingConfig.new cameraFormat (m.readU64 headerSlotCount).toNat
            (m.readU64 headerPayloadCapacity).toNat with
        | .error e => .error e
        | .ok config =>
          if config.slotStride ≠ (m.readU64 headerSlotStride).toNat then
            .error (invalid "shared_memory.open" "mapping slot stride violates the fixed layout")
          else if m.read headerIdentity 32 = d.identity.toList ∧
              m.read headerTokenHash 32 = (sha256 d.token).toList then
            .ok { config, identity := d.identity }
          else
            .error (invalid "shared_memory.open"
              "mapping session identity or capability token does not match")

/-- What an accepted header says: the configuration is the one its fields name, and the length
checked is the descriptor's. -/
structure Accepted (m : Mem) (mappedLength : ℕ) (d : MappingDescriptor) (v : ValidatedHeader) :
    Prop where
  identity : v.identity = d.identity
  totalLength : (m.readU64 headerTotalLength).toNat = d.totalLength
  mapped : d.totalLength ≤ mappedLength
  format : PixelFormat.tryFrom (m.readU32 headerFormat) =
    .ok (PixelFormat.ofCamera v.config.format.pixelFormat)
  width : m.readU32 headerWidth = v.config.format.width
  height : m.readU32 headerHeight = v.config.format.height
  slotCount : (m.readU64 headerSlotCount).toNat = v.config.slotCount
  slotStride : (m.readU64 headerSlotStride).toNat = v.config.slotStride
  payloadCapacity : (m.readU64 headerPayloadCapacity).toNat = v.config.payloadCapacity

variable {sha256} {m : Mem} {mappedLength : ℕ} {d : MappingDescriptor} {v : ValidatedHeader}
  {c : RingConfig}

/-- The fields that `write_header` puts into a header. -/
def headerFields (sha256 : Vector UInt8 32 → Vector UInt8 32) (c : RingConfig)
    (d : MappingDescriptor) : List (ℕ × List UInt8) :=
  [(headerMagic, magic), (headerMajor, leBytes 2 layoutMajor.toNat),
    (headerMinor, leBytes 2 layoutMinor.toNat),
    (headerTotalLength, leBytes 8 (UInt64.ofNat c.totalLength).toNat),
    (headerSlotCount, leBytes 8 (UInt64.ofNat c.slotCount).toNat),
    (headerSlotStride, leBytes 8 (UInt64.ofNat c.slotStride).toNat),
    (headerFormat, leBytes 4 (PixelFormat.ofCamera c.format.pixelFormat).raw.toNat),
    (headerWidth, leBytes 4 c.format.width.toNat), (headerHeight, leBytes 4 c.format.height.toNat),
    (headerPayloadCapacity, leBytes 8 (UInt64.ofNat c.payloadCapacity).toNat),
    (headerIdentity, d.identity.toList), (headerTokenHash, (sha256 d.token).toList),
    (headerTerminalState, leBytes 8 terminalStateOpen.toNat)]

lemma agreeOn_writeHeader {lo hi : ℕ} (h : headerBytes ≤ lo ∨ headerDroppedCount ≤ lo ∧ hi ≤ 136) :
    Mem.AgreeOn m (writeHeader sha256 m c d) lo hi := by
  unfold headerBytes at h
  refine Mem.agreeOn_writeAll (l := headerFields sha256 c d) ?_
  simp [headerFields] at h ⊢
  omega

lemma read_writeHeader {b : ℕ × List UInt8} (hb : b ∈ headerFields sha256 c d) :
    (writeHeader sha256 m c d).read b.1 b.2.length = b.2 :=
  Mem.read_writeAll (by simp [headerFields, Mem.Apart]) hb

/-- The fields of a header as they are read back. -/
structure Written (sha256 : Vector UInt8 32 → Vector UInt8 32) (c : RingConfig)
    (d : MappingDescriptor) (m : Mem) : Prop where
  magic : m.read headerMagic 8 = magic
  major : m.readU16 headerMajor = layoutMajor
  minor : m.readU16 headerMinor = layoutMinor
  totalLength : (m.readU64 headerTotalLength).toNat = c.totalLength
  slotCount : (m.readU64 headerSlotCount).toNat = c.slotCount
  slotStride : (m.readU64 headerSlotStride).toNat = c.slotStride
  format : m.readU32 headerFormat = (PixelFormat.ofCamera c.format.pixelFormat).raw
  width : m.readU32 headerWidth = c.format.width
  height : m.readU32 headerHeight = c.format.height
  payloadCapacity : (m.readU64 headerPayloadCapacity).toNat = c.payloadCapacity
  identity : m.read headerIdentity 32 = d.identity.toList
  tokenHash : m.read headerTokenHash 32 = (sha256 d.token).toList

lemma written_writeHeader : Written sha256 c d (writeHeader sha256 m c d) := by
  have hcap := c.payloadCapacity_le
  have hcount := c.slotCount_le
  have hstride := Nat.le_mul_of_pos_right c.slotStride c.slotCount_pos
  have htotal := c.totalLength_eq
  have hmax := c.totalLength_le
  unfold maxCameraFrameBytes at hcap
  unfold maxCameraSlotCount at hcount
  unfold maxMappingBytes at hmax
  have hread {a n : ℕ} {bs : List UInt8} (hb : (a, bs) ∈ headerFields sha256 c d)
      (hn : bs.length = n) : (writeHeader sha256 m c d).read a n = bs := hn ▸ read_writeHeader hb
  have hnumber {a n : ℕ} (hb : (a, leBytes 8 (UInt64.ofNat n).toNat) ∈ headerFields sha256 c d)
      (hn : n < 2 ^ 64) : ((writeHeader sha256 m c d).readU64 a).toNat = n := by
    rw [Mem.readU64_of_read (hread hb (length_leBytes 8 _))]
    exact UInt64.toNat_ofNat_of_lt' hn
  exact
    { magic := hread (by simp [headerFields]) rfl
      major := Mem.readU16_of_read (hread (by simp [headerFields]) (length_leBytes 2 _))
      minor := Mem.readU16_of_read (hread (by simp [headerFields]) (length_leBytes 2 _))
      totalLength := hnumber (by simp [headerFields]) (by omega)
      slotCount := hnumber (by simp [headerFields]) (by omega)
      slotStride := hnumber (by simp [headerFields]) (by omega)
      format := Mem.readU32_of_read (hread (by simp [headerFields]) (length_leBytes 4 _))
      width := Mem.readU32_of_read (hread (by simp [headerFields]) (length_leBytes 4 _))
      height := Mem.readU32_of_read (hread (by simp [headerFields]) (length_leBytes 4 _))
      payloadCapacity := hnumber (by simp [headerFields]) (by omega)
      identity := hread (by simp [headerFields]) (by simp)
      tokenHash := hread (by simp [headerFields]) (by simp) }

lemma accepted_of_validateHeader (h : validateHeader sha256 m mappedLength d = .ok v) :
    Accepted m mappedLength d v := by
  unfold validateHeader at h
  split at h
  · cases h
  split at h
  · cases h
  next hlen =>
  split at h
  · cases h
  next format hformat =>
  split at h
  · cases h
  next cameraFormat hcamera =>
  split at h
  · cases h
  next config hconfig =>
  split at h
  · cases h
  next hstride =>
  split at h
  · obtain rfl := Except.ok.inj h
    obtain ⟨hf, hn, hp⟩ := RingConfig.new_eq_ok hconfig
    have hc := CameraFormat.new_eq_ok hcamera
    push Not at hlen hstride
    refine ⟨rfl, hlen.1, by omega, ?_, ?_, ?_, hn.symm, hstride.symm, hp.symm⟩
    · rw [hformat, hf, hc]
      cases format <;> rfl
    · rw [hf, hc]
    · rw [hf, hc]
  · cases h

/-- **What is accepted of a written header**: the descriptors that name its identity, a token with
its hash and its length. -/
lemma validateHeader_writeHeader_iff {d' : MappingDescriptor}
    (hc : RingConfig.new c.format c.slotCount c.payloadCapacity = .ok c) :
    validateHeader sha256 (writeHeader sha256 m c d) mappedLength d' = .ok v ↔
      (d'.totalLength = c.totalLength ∧ c.totalLength ≤ mappedLength) ∧
        (d'.identity = d.identity ∧ sha256 d'.token = sha256 d.token) ∧ v = ⟨c, d.identity⟩ := by
  have hw : Written sha256 c d (writeHeader sha256 m c d) := written_writeHeader
  simp only [validateHeader, length_magic, hw.magic, hw.major, hw.minor, hw.totalLength,
    hw.slotCount, hw.slotStride, hw.format, hw.width, hw.height, hw.payloadCapacity, hw.identity,
    hw.tokenHash, PixelFormat.tryFrom_raw, PixelFormat.toCamera_ofCamera,
    RingConfig.format_of_new hc, hc, Vector.toList_inj]
  split_ifs <;> grind

end Header

/-! ### Reading a slot -/

section Slot

variable (c : RingConfig) (i : ℕ)

def slotState : Reader HalError SlotState := do
  let value ← Reader.u64 (c.slotBase i + slotStateField)
  Reader.lift (SlotState.fromRaw value)

def slotSequence : Reader HalError UInt64 := Reader.u64 (c.slotBase i + slotSequenceField)

def slotGeneration : Reader HalError UInt64 := Reader.u64 (c.slotBase i + slotGenerationField)

/-- `slot_payload_length` of the reader, `read_payload_length` of the broker. -/
def slotPayloadLength : Reader HalError ℕ := do
  let length ← Reader.u64 (c.slotBase i + slotPayloadLengthField)
  if length.toNat > c.payloadCapacity then
    Reader.lift
      (.error (invalid "shared_memory.read" "slot payload exceeds the validated capacity"))
  else return length.toNat

def readPlane (k : ℕ) : Reader HalError PlaneLayout := do
  let base := c.slotBase i + slotPlanesField + k * planeBytes
  let offset ← Reader.u32 base
  let length ← Reader.u32 (base + 4)
  let stride ← Reader.u32 (base + 8)
  Reader.lift (PlaneLayout.new offset.toNat length.toNat stride.toNat)

/-- `read_metadata`, which the reader and the broker each have. -/
def readMetadata (sequence generation : UInt64) : Reader HalError FrameMetadata := do
  let timestamp ← Reader.u64 (c.slotBase i + slotTimestampField)
  let dropped ← Reader.u64 (c.slotBase i + slotDroppedField)
  let payloadLength ← Reader.u64 (c.slotBase i + slotPayloadLengthField)
  let planeCount ← Reader.u64 (c.slotBase i + slotPlaneCountField)
  if payloadLength.toNat > c.payloadCapacity ∨ planeCount.toNat > maxPlanes then
    Reader.lift (.error (invalid "shared_memory.read"
      "slot payload or plane count exceeds the validated layout"))
  else
    let planes ← (List.range planeCount.toNat).mapM (readPlane c i)
    let format := PixelFormat.ofCamera c.format.pixelFormat
    Reader.lift (validatePlanes format c.format.width c.format.height planes payloadLength.toNat)
    Reader.lift (FrameMetadata.new format c.format.width c.format.height sequence generation
      timestamp dropped planes)

variable {c i} {m : Mem} {n : ℕ}

lemma within_slotState (h : c.slotBase i + slotHeaderBytes ≤ n) : (slotState c i).Within m n := by
  unfold slotHeaderBytes at h
  refine Reader.within_bind ?_ fun _ _ => Reader.within_lift _
  simp
  omega

lemma within_slotSequence (h : c.slotBase i + slotHeaderBytes ≤ n) :
    (slotSequence c i).Within m n := by
  unfold slotHeaderBytes at h
  simp [slotSequence]
  omega

lemma within_slotGeneration (h : c.slotBase i + slotHeaderBytes ≤ n) :
    (slotGeneration c i).Within m n := by
  unfold slotHeaderBytes at h
  simp [slotGeneration]
  omega

lemma within_slotPayloadLength (h : c.slotBase i + slotHeaderBytes ≤ n) :
    (slotPayloadLength c i).Within m n := by
  unfold slotHeaderBytes at h
  refine Reader.within_bind (by simp; omega) fun length _ => ?_
  split
  · exact Reader.within_lift _
  · exact Reader.within_pure _

lemma slotPayloadLength_le (h : (slotPayloadLength c i).eval m = .ok k) :
    k = (m.readU64 (c.slotBase i + slotPayloadLengthField)).toNat ∧ k ≤ c.payloadCapacity := by
  simp only [slotPayloadLength, Reader.eval_bind, Reader.eval_u64, Except.bind] at h
  split at h
  · cases h
  · obtain rfl := Except.ok.inj h
    exact ⟨rfl, by omega⟩

lemma within_readPlane (hk : k < maxPlanes) (h : c.slotBase i + slotHeaderBytes ≤ n) :
    (readPlane c i k).Within m n := by
  unfold slotHeaderBytes at h
  unfold maxPlanes at hk
  refine Reader.within_bind (by simp; omega) fun _ _ => ?_
  refine Reader.within_bind (by simp; omega) fun _ _ => ?_
  refine Reader.within_bind (by simp; omega) fun _ _ => ?_
  exact Reader.within_lift _

lemma within_readMetadata {s g : UInt64} (h : c.slotBase i + slotHeaderBytes ≤ n) :
    (readMetadata c i s g).Within m n := by
  have h' := h
  unfold slotHeaderBytes at h'
  refine Reader.within_bind (by simp; omega) fun _ _ => ?_
  refine Reader.within_bind (by simp; omega) fun _ _ => ?_
  refine Reader.within_bind (by simp; omega) fun _ _ => ?_
  refine Reader.within_bind (by simp; omega) fun _ _ => ?_
  split
  · exact Reader.within_lift _
  · next hcount =>
    refine Reader.within_bind (Reader.within_mapM fun k hk => ?_) fun _ _ => ?_
    · have hk := List.mem_range.mp hk
      exact within_readPlane (by omega) h
    · exact Reader.within_bind (Reader.within_lift _) fun _ _ => Reader.within_lift _

end Slot

/-! ### Copying a frame -/

structure FrameLease where
  identity : Vector UInt8 32
  slotIndex : ℕ
  sequence : UInt64
  generation : UInt64
deriving DecidableEq

structure CopiedFrame where
  metadata : FrameMetadata
  payload : List UInt8
deriving DecidableEq

/-- An error of the operating system: whether it says that the call would block, and its
text. -/
structure OsError where
  wouldBlock : Bool
  message : String
deriving DecidableEq, Repr

abbrev OsResult := Except OsError Unit

structure ReadOnlyMapping where
  header : ValidatedHeader
  expectedGeneration : Option UInt64
deriving DecidableEq

namespace ReadOnlyMapping

/-- `open` maps as many bytes as the descriptor names. -/
def «open» (sha256 : Vector UInt8 32 → Vector UInt8 32) (mapped : Mem ⊕ OsError)
    (d : MappingDescriptor) : HalResult ReadOnlyMapping :=
  match mapped with
  | .inr e => .error (unavailable "shared_memory.open" e.message)
  | .inl m =>
    match validateHeader sha256 m d.totalLength d with
    | .error e => .error e
    | .ok header => .ok { header, expectedGeneration := none }

variable (r : ReadOnlyMapping)

def copyLocked (lease : FrameLease) : Reader HalError (Option CopiedFrame) := do
  let c := r.header.config
  let terminalState ← Reader.u64 headerTerminalState
  if terminalState ≠ terminalStateOpen then return none
  if lease.slotIndex ≥ c.slotCount then return none
  let state ← slotState c lease.slotIndex
  if state ≠ .pinned then return none
  let generation ← slotGeneration c lease.slotIndex
  if (r.expectedGeneration.any fun value => value ≠ generation) ∨ generation ≠ lease.generation then
    return none
  let sequence ← slotSequence c lease.slotIndex
  if sequence ≠ lease.sequence then return none
  let metadata ← readMetadata c lease.slotIndex lease.sequence generation
  let sequence ← slotSequence c lease.slotIndex
  if sequence ≠ lease.sequence then return none
  let again ← slotGeneration c lease.slotIndex
  if again ≠ generation then return none
  let payloadLength ← slotPayloadLength c lease.slotIndex
  let payload ← Reader.bytes (c.slotBase lease.slotIndex + slotHeaderBytes) payloadLength
  return some { metadata, payload }

/-- `copy`, where `lock` and `unlock` are what the operating system answers. -/
def copy (lock unlock : OsResult) (lease : FrameLease) : Reader HalError (Option CopiedFrame) :=
  if lease.identity ≠ r.header.identity then return none
  else
    match lock with
    | .error e => Reader.lift (.error (unavailable "shared_memory.copy" e.message))
    | .ok () =>
      (r.copyLocked lease).followedBy
        (unlock.mapError fun e => unavailable "shared_memory.copy" e.message)

variable {r}

lemma within_copyLocked (hn : r.header.config.Inside n) : (r.copyLocked lease).Within m n := by
  have h0 := hn 0 r.header.config.slotCount_pos
  have hb := r.header.config.headerBytes_le_slotBase 0
  unfold headerBytes at hb
  refine Reader.within_bind (by simp; omega) fun _ _ => ?_
  split
  · exact Reader.within_pure _
  split
  · exact Reader.within_pure _
  next hi =>
  have hslot := hn lease.slotIndex (by omega)
  have hhead : r.header.config.slotBase lease.slotIndex + slotHeaderBytes ≤ n := by omega
  refine Reader.within_bind (within_slotState hhead) fun _ _ => ?_
  split
  · exact Reader.within_pure _
  refine Reader.within_bind (within_slotGeneration hhead) fun _ _ => ?_
  split
  · exact Reader.within_pure _
  refine Reader.within_bind (within_slotSequence hhead) fun _ _ => ?_
  split
  · exact Reader.within_pure _
  refine Reader.within_bind (within_readMetadata hhead) fun _ _ => ?_
  refine Reader.within_bind (within_slotSequence hhead) fun _ _ => ?_
  split
  · exact Reader.within_pure _
  refine Reader.within_bind (within_slotGeneration hhead) fun _ _ => ?_
  split
  · exact Reader.within_pure _
  refine Reader.within_bind (within_slotPayloadLength hhead) fun k hk => ?_
  have hk := (slotPayloadLength_le hk).2
  refine Reader.within_bind ?_ fun _ _ => Reader.within_pure _
  rw [Reader.within_bytes]
  omega

/-- Where the slots lie inside the mapping, so does everything a copy touches. -/
lemma within_copy {lock unlock : OsResult} (hn : r.header.config.Inside n) :
    (r.copy lock unlock lease).Within m n := by
  unfold copy
  split
  · exact Reader.within_pure _
  split
  · exact Reader.within_lift _
  · exact (Reader.within_followedBy _ _).mpr (within_copyLocked hn)

end ReadOnlyMapping

/-- **What an accepted header guarantees.** The slots it names, and with them everything a copy
touches, lie inside the mapping exactly if its own slot count, stride and capacity put the end
of the last slot there: nothing compares them with the length that was mapped. -/
theorem accepted_header_confines_iff (sha256 : Vector UInt8 32 → Vector UInt8 32) (m : Mem)
    (mappedLength : ℕ) (d : MappingDescriptor) (v : ValidatedHeader)
    (h : validateHeader sha256 m mappedLength d = .ok v) :
    (v.config.Inside mappedLength ∧
      ∀ (expectedGeneration : Option UInt64) (lock unlock : OsResult) (lease : FrameLease)
        (m' : Mem),
        (ReadOnlyMapping.copy { header := v, expectedGeneration } lock unlock lease).Within
          m' mappedLength) ↔
    headerBytes + ((m.readU64 headerSlotCount).toNat - 1) * (m.readU64 headerSlotStride).toNat +
      slotHeaderBytes + (m.readU64 headerPayloadCapacity).toNat ≤ mappedLength := by
  have ha := accepted_of_validateHeader h
  rw [ha.slotCount, ha.slotStride, ha.payloadCapacity]
  have hiff := v.config.inside_iff (n := mappedLength)
  rw [RingConfig.slotBase] at hiff
  constructor
  · rintro ⟨hin, -⟩
    exact hiff.mp hin
  · intro hle
    have hin := hiff.mpr hle
    exact ⟨hin, fun _ _ _ _ _ => ReadOnlyMapping.within_copy hin⟩

/-- One-pixel frames in four slots. -/
def smallConfig : RingConfig where
  format := { pixelFormat := .yuyv, width := 1, height := 1 }
  slotCount := 4
  payloadCapacity := 2
  slotStride := 192
  totalLength := 960
  minCount_le := by decide
  slotCount_le := by decide
  payloadCapacity_le := by decide
  slotStride_eq := by decide
  totalLength_eq := by decide
  totalLength_le := by decide

def smallDescriptor (totalLength : ℕ) : MappingDescriptor where
  name := "/robot-hal-00"
  identity := Vector.replicate 32 0
  token := Vector.replicate 32 0
  totalLength

theorem accepted_header_confines_small :
    ∃ v, validateHeader id (writeHeader id (fun _ => 0) smallConfig (smallDescriptor 960)) 960
        (smallDescriptor 960) = .ok v ∧ v.config.Inside 960 := by
  have h : validateHeader id (writeHeader id (fun _ => 0) smallConfig (smallDescriptor 960)) 960
      (smallDescriptor 960) = .ok ⟨smallConfig, Vector.replicate 32 0⟩ := by decide
  exact ⟨_, h, ((accepted_header_confines_iff _ _ _ _ _ h).mpr (by decide)).1⟩

/-- A header that names four slots in a mapping that ends with the header is accepted, and the
first copy from it reads beyond the mapping. -/
theorem header_accepted_beyond_mapping :
    let m := (writeHeader id (fun _ => 0) smallConfig (smallDescriptor 192)).writeU64
      headerTotalLength 192
    ∃ d v, MappingDescriptor.new "/robot-hal-00" (Vector.replicate 32 0) (Vector.replicate 32 0) 192
        = .ok d ∧ validateHeader id m 192 d = .ok v ∧ ¬v.config.Inside 192 ∧
      ∃ lease, ¬(ReadOnlyMapping.copy { header := v, expectedGeneration := none } (.ok ()) (.ok ())
        lease).Within m 192 := by
  refine ⟨smallDescriptor 192, ⟨smallConfig, Vector.replicate 32 0⟩, ?_, ?_, ?_,
    ⟨Vector.replicate 32 0, 0, 0, 0⟩, ?_⟩
  · decide
  · decide
  · decide
  · decide

/-- **The header round trip.** A reader with the matching descriptor gets the configuration back.
The slots of that configuration are aligned and apart, and lie behind the header and inside the
mapping. A descriptor with another identity, token or length is turned away. -/
theorem header_round_trip {sha256 : Vector UInt8 32 → Vector UInt8 32}
    (hsha : Function.Injective sha256) {f : CameraFormat} {n p : ℕ} {c : RingConfig}
    (hc : RingConfig.new f n p = .ok c) (m : Mem) (d : MappingDescriptor)
    (hd : d.totalLength = c.totalLength) {mappedLength : ℕ} (hm : c.totalLength ≤ mappedLength) :
    validateHeader sha256 (writeHeader sha256 m c d) mappedLength d = .ok ⟨c, d.identity⟩ ∧
    (∀ i < c.slotCount, headerBytes ≤ c.slotBase i ∧ slotAlignment ∣ c.slotBase i - headerBytes ∧
      slotHeaderBytes + c.payloadCapacity ≤ c.slotStride ∧
      c.slotBase i + c.slotStride ≤ c.totalLength ∧
      ∀ j < c.slotCount, i ≠ j → c.slotBase i + c.slotStride ≤ c.slotBase j ∨
        c.slotBase j + c.slotStride ≤ c.slotBase i) ∧
    c.totalLength ≤ 256 * 1024 * 1024 ∧
    ∀ d' mappedLength' v,
      d'.identity ≠ d.identity ∨ d'.token ≠ d.token ∨ d'.totalLength ≠ d.totalLength →
        validateHeader sha256 (writeHeader sha256 m c d) mappedLength' d' ≠ .ok v := by
  obtain ⟨rfl, rfl, rfl⟩ := RingConfig.new_eq_ok hc
  refine ⟨?_,
    fun i hi => ⟨c.headerBytes_le_slotBase i, ?_, c.slot_le_stride, ?_, fun j _ hij => ?_⟩,
    c.totalLength_le, ?_⟩
  · exact (validateHeader_writeHeader_iff hc).mpr ⟨⟨hd, hm⟩, ⟨rfl, rfl⟩, rfl⟩
  · rw [RingConfig.slotBase, Nat.add_sub_cancel_left, c.slotStride_eq]
    exact (Nat.dvd_mul_left ..).mul_left i
  · have hlast := c.slotBase_lt hi
    rw [RingConfig.slotBase.eq_def c c.slotCount, Nat.mul_comm, ← c.totalLength_eq] at hlast
    exact hlast
  · exact (Nat.lt_or_gt_of_ne hij).imp c.slotBase_lt c.slotBase_lt
  · intro d' mappedLength' v hne hok
    obtain ⟨⟨hlength, -⟩, ⟨hidentity, htoken⟩, -⟩ := (validateHeader_writeHeader_iff hc).mp hok
    rcases hne with hne | hne | hne
    · exact hne hidentity
    · exact hne (hsha htoken)
    · exact hne (hlength.trans hd.symm)

theorem header_round_trip_small :
    RingConfig.new smallConfig.format 4 2 = .ok smallConfig ∧
      validateHeader id (writeHeader id (fun _ => 0) smallConfig (smallDescriptor 960)) 960
        (smallDescriptor 960) = .ok ⟨smallConfig, Vector.replicate 32 0⟩ ∧
      ∀ v, validateHeader id (writeHeader id (fun _ => 0) smallConfig (smallDescriptor 960)) 960
        { smallDescriptor 960 with token := Vector.replicate 32 1 } ≠ .ok v := by
  have hc : RingConfig.new smallConfig.format 4 2 = .ok smallConfig := by decide
  have h := header_round_trip Function.injective_id hc (fun _ => 0) (smallDescriptor 960) rfl
    (le_refl 960)
  exact ⟨hc, h.1, fun v => h.2.2.2 _ 960 v (.inr (.inl (by decide)))⟩

end RobotHal.Ring
