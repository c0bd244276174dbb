import RobotHal.Machine
import RobotHal.Ring

/-!
Shared frame ring integrity: a frame that a reader copies is the frame that was published.

A slot that is ready or pinned holds a published frame, header and payload. Committing a
frame, pinning and releasing keep this. What breaks it is a publish that fails after its
copier ran: the slot it had chosen goes back to its previous state, but if that was a ready
slot, its old header now describes whatever the copier left in the payload. So integrity is
proved for the runs in which a failing copier leaves the frame it landed on alone.
-/

namespace RobotHal.Ring

open Mem

variable {lo hi n : ℕ} {c : RingConfig} {md : FrameMetadata} {b'' : BrokerMapping}

/-- A committed frame. -/
structure Published where
  sequence : UInt64
  generation : UInt64
  timestamp : UInt64
  planes : List PlaneLayout
  payload : List UInt8
deriving DecidableEq

/-- The frame described by `md` with the payload `bytes`. -/
def Published.of (md : FrameMetadata) (bytes : List UInt8) : Published where
  sequence := md.sequence
  generation := md.generation
  timestamp := md.monotonicTimestampNs
  planes := md.planes
  payload := bytes

/-- The pair that identifies a frame. -/
def Published.key (p : Published) : UInt64 × UInt64 := (p.sequence, p.generation)

/-- Slot `i` holds the frame `p`, header and payload. -/
structure Holds (m : Mem) (c : RingConfig) (i : ℕ) (p : Published) : Prop where
  sequence : m.readU64 (c.slotBase i + slotSequenceField) = p.sequence
  generation : m.readU64 (c.slotBase i + slotGenerationField) = p.generation
  timestamp : m.readU64 (c.slotBase i + slotTimestampField) = p.timestamp
  payloadLength :
    (m.readU64 (c.slotBase i + slotPayloadLengthField)).toNat = p.payload.length
  planeCount : (m.readU64 (c.slotBase i + slotPlaneCountField)).toNat = p.planes.length
  planes : ∀ k, (hk : k < p.planes.length) → (readPlane c i k).eval m = .ok p.planes[k]
  payload : m.read (c.slotBase i + slotHeaderBytes) p.payload.length = p.payload
  planes_le : p.planes.length ≤ maxPlanes
  payload_le : p.payload.length ≤ c.payloadCapacity

section Frame

variable {m m' : Mem} {c : RingConfig} {i j k : ℕ} {p : Published}

lemma eval_readPlane : (readPlane c i k).eval m =
    PlaneLayout.new (m.readU32 (c.slotBase i + 56 + k * 12)).toNat
      (m.readU32 (c.slotBase i + 56 + k * 12 + 4)).toNat
      (m.readU32 (c.slotBase i + 56 + k * 12 + 8)).toNat := rfl

lemma Holds.of_agree (h : Holds m c i p)
    (ha : AgreeOn m m' (c.slotBase i + 8) (c.slotBase i + slotHeaderBytes))
    (hp : m'.read (c.slotBase i + slotHeaderBytes) p.payload.length =
      m.read (c.slotBase i + slotHeaderBytes) p.payload.length) : Holds m' c i p := by
  unfold slotHeaderBytes at ha
  have hle := h.planes_le
  unfold maxPlanes at hle
  refine ⟨?_, ?_, ?_, ?_, ?_, fun k hk => ?_, hp.trans h.payload, h.planes_le,
    h.payload_le⟩
  · rw [ha.readU64_eq (by simp) (by simp), h.sequence]
  · rw [ha.readU64_eq (by simp) (by simp), h.generation]
  · rw [ha.readU64_eq (by simp) (by simp), h.timestamp]
  · rw [ha.readU64_eq (by simp) (by simp), h.payloadLength]
  · rw [ha.readU64_eq (by simp) (by simp), h.planeCount]
  · rw [← h.planes k hk, eval_readPlane, eval_readPlane, ha.readU32_eq (by omega) (by omega),
      ha.readU32_eq (by omega) (by omega), ha.readU32_eq (by omega) (by omega)]

lemma slots_apart (c : RingConfig) (h : i ≠ j) :
    c.slotBase i + slotHeaderBytes + c.payloadCapacity ≤ c.slotBase j ∨
      c.slotBase j + slotHeaderBytes + c.payloadCapacity ≤ c.slotBase i := by
  have hs := c.slot_le_stride
  rcases Nat.lt_or_gt_of_ne h with h | h
  · have := c.slotBase_lt h
    omega
  · have := c.slotBase_lt h
    omega

end Frame

namespace BrokerMapping

variable {b b' : BrokerMapping} {i j : ℕ} {s : SlotState} {p : Published} {pub : List Published}

lemma slotState_eq (b : BrokerMapping) (i : ℕ) :
    b.slotState i = SlotState.fromRaw (b.mem.readU64 (b.config.slotBase i)) := by
  simp [slotState, Ring.slotState, Except.bind]

/-! ### One slot state -/

@[simp] lemma slotState_writeSlotState_self (b : BrokerMapping) (i : ℕ) (s : SlotState) :
    (b.writeSlotState i s).slotState i = .ok s := by
  rw [slotState_eq]
  simp [writeSlotState]

lemma agree_writeSlotState (h : hi ≤ b.config.slotBase i ∨ b.config.slotBase i + 8 ≤ lo) :
    AgreeOn b.mem (b.writeSlotState i s).mem lo hi :=
  agreeOn_writeU64 (by simpa using h)

lemma slotState_writeSlotState_ne (h : j ≠ i) :
    (b.writeSlotState i s).slotState j = b.slotState j := by
  have hap := slots_apart b.config h
  unfold slotHeaderBytes at hap
  have ha : AgreeOn b.mem (b.writeSlotState i s).mem (b.config.slotBase j)
      (b.config.slotBase j + 8) := agree_writeSlotState (by omega)
  rw [slotState_eq, slotState_eq]
  exact congrArg SlotState.fromRaw (ha.readU64_eq le_rfl le_rfl)

lemma holds_writeSlotState (h : Holds b.mem b.config j p) :
    Holds (b.writeSlotState i s).mem b.config j p := by
  have hp := h.payload_le
  have hout : b.config.slotBase j + slotHeaderBytes + b.config.payloadCapacity ≤
      b.config.slotBase i ∨ b.config.slotBase i + 8 ≤ b.config.slotBase j + 8 := by
    by_cases hij : j = i
    · subst hij
      omega
    · have := slots_apart b.config hij
      unfold slotHeaderBytes at this ⊢
      omega
  have ha : AgreeOn b.mem (b.writeSlotState i s).mem (b.config.slotBase j + 8)
      (b.config.slotBase j + slotHeaderBytes + b.config.payloadCapacity) :=
    agree_writeSlotState hout
  refine h.of_agree (ha.mono le_rfl (by omega)) (ha.read_eq ?_ (by omega))
  unfold slotHeaderBytes
  omega

/-! ### The slot header -/

variable {m : Mem} {base k : ℕ} {planes : List PlaneLayout}

lemma agree_writePlanes (h : hi ≤ base + 56 + k * 12 ∨ base + 56 + (k + planes.length) * 12 ≤ lo) :
    AgreeOn m (writePlanes base k planes m) lo hi := by
  induction planes generalizing k m with
  | nil => exact AgreeOn.refl
  | cons plane planes ih =>
    simp only [List.length_cons] at h
    refine AgreeOn.trans ?_ (ih (by omega))
    simp only [slotPlanesField, planeBytes]
    have h₁ : AgreeOn m (m.writeU32 (base + 56 + k * 12) plane.offset) lo hi :=
      agreeOn_writeU32 (by omega)
    refine h₁.trans (AgreeOn.trans (agreeOn_writeU32 ?_) (agreeOn_writeU32 ?_))
    · omega
    · omega

lemma readU32_writePlanes (hn : n < planes.length) :
    (writePlanes base k planes m).readU32 (base + 56 + (k + n) * 12) = planes[n].offset ∧
    (writePlanes base k planes m).readU32 (base + 56 + (k + n) * 12 + 4) = planes[n].length ∧
    (writePlanes base k planes m).readU32 (base + 56 + (k + n) * 12 + 8) = planes[n].stride := by
  induction planes generalizing k m n with
  | nil => cases hn
  | cons plane planes ih =>
    cases n with
    | succ n =>
      rw [show k + (n + 1) = k + 1 + n by omega]
      exact ih (Nat.lt_of_succ_lt_succ hn)
    | zero =>
      -- the rest of the table lies above this plane
      have hrest : ∀ m' : Mem, AgreeOn m' (writePlanes base (k + 1) planes m')
          (base + 56 + k * 12) (base + 56 + k * 12 + 12) :=
        fun m' => agree_writePlanes (.inl (by omega))
      simp only [writePlanes, slotPlanesField, planeBytes, Nat.add_zero, List.getElem_cons_zero]
      refine ⟨?_, ?_, ?_⟩
      · rw [(hrest _).readU32_eq le_rfl (by omega), writeU32,
          readU32_write_of_disjoint (.inl (by omega)), writeU32,
          readU32_write_of_disjoint (.inl (by omega)), readU32_writeU32]
      · rw [(hrest _).readU32_eq (by omega) (by omega), writeU32,
          readU32_write_of_disjoint (.inl (by omega)), readU32_writeU32]
      · rw [(hrest _).readU32_eq (by omega) (by omega), readU32_writeU32]

lemma eval_readPlane_writePlanes {v : UInt64} (hk : k < planes.length) :
    (readPlane c i k).eval
      ((writePlanes (c.slotBase i) 0 planes m).writeU64 (c.slotBase i + 8) v) =
        .ok planes[k] := by
  have h : (writePlanes (c.slotBase i) 0 planes m).readU32 (c.slotBase i + 56 + (0 + k) * 12) =
      planes[k].offset ∧ _ ∧ _ := readU32_writePlanes hk
  simp only [Nat.zero_add] at h
  rw [eval_readPlane, writeU64, readU32_write_of_disjoint (by simp; omega),
    readU32_write_of_disjoint (by simp; omega), readU32_write_of_disjoint (by simp; omega),
    h.1, h.2.1, h.2.2, PlaneLayout.new_toNat]

lemma agree_writeSlotHeader {dropped : UInt64} (hpl : md.planes.length ≤ maxPlanes)
    (h : hi ≤ base + 8 ∨ base + slotHeaderBytes ≤ lo) :
    AgreeOn m (writeSlotHeader base md dropped n m) lo hi := by
  unfold maxPlanes at hpl
  unfold slotHeaderBytes at h
  unfold writeSlotHeader
  simp only [slotGenerationField, slotTimestampField, slotDroppedField, slotPayloadLengthField,
    slotPlaneCountField, slotSequenceField]
  refine AgreeOn.trans ?_ (agreeOn_writeU64 (by omega))
  refine AgreeOn.trans ?_ (agree_writePlanes (by omega))
  refine AgreeOn.trans ?_ (agreeOn_writeU64 (by omega))
  refine AgreeOn.trans ?_ (agreeOn_writeU64 (by omega))
  refine AgreeOn.trans ?_ (agreeOn_writeU64 (by omega))
  refine AgreeOn.trans ?_ (agreeOn_writeU64 (by omega))
  exact agreeOn_writeU64 (by omega)

/-- A slot whose payload is in place holds the frame once its header is written. -/
lemma holds_writeSlotHeader (dropped : UInt64) {bytes : List UInt8}
    (hpl : md.planes.length ≤ maxPlanes) (hle : bytes.length ≤ c.payloadCapacity)
    (hpay : m.read (c.slotBase i + slotHeaderBytes) bytes.length = bytes) :
    Holds (writeSlotHeader (c.slotBase i) md dropped bytes.length m) c i (.of md bytes) := by
  have hcap := c.payloadCapacity_le
  have hpl' := hpl
  unfold maxPlanes at hpl'
  unfold maxCameraFrameBytes at hcap
  -- below the plane table, only the sequence is written after the numbers
  have hpre : ∀ (m' : Mem) (off : ℕ), 16 ≤ off → off + 8 ≤ 56 →
      ((writePlanes (c.slotBase i) 0 md.planes m').writeU64 (c.slotBase i + 8)
        md.sequence).readU64 (c.slotBase i + off) = m'.readU64 (c.slotBase i + off) := by
    intro m' off hlo hhi
    have ha : AgreeOn m' (writePlanes (c.slotBase i) 0 md.planes m')
        (c.slotBase i) (c.slotBase i + 56) := agree_writePlanes (.inl (by omega))
    rw [writeU64, readU64_write_of_disjoint (by simp; omega), ha.readU64_eq (by omega) (by omega)]
  refine ⟨?_, ?_, ?_, ?_, ?_, fun k hk => ?_, ?_, hpl, hle⟩
  · exact readU64_writeU64 _ _ _
  · simp only [writeSlotHeader, slotSequenceField]
    rw [hpre _ _ (by simp) (by simp)]
    simp (disch := simp) only [writeU64, readU64_write_of_disjoint, slotGenerationField,
      slotTimestampField, slotDroppedField, slotPayloadLengthField, slotPlaneCountField]
    exact readU64_writeU64 _ _ _
  · simp only [writeSlotHeader, slotSequenceField]
    rw [hpre _ _ (by simp) (by simp)]
    simp (disch := simp) only [writeU64, readU64_write_of_disjoint, slotTimestampField,
      slotDroppedField, slotPayloadLengthField, slotPlaneCountField]
    exact readU64_writeU64 _ _ _
  · simp only [writeSlotHeader, slotSequenceField]
    rw [hpre _ _ (by simp) (by simp)]
    simp (disch := simp) only [writeU64, readU64_write_of_disjoint, slotPayloadLengthField,
      slotPlaneCountField]
    rw [← writeU64, readU64_writeU64, UInt64.toNat_ofNat_of_lt' (by simp [UInt64.size]; omega)]
    rfl
  · simp only [writeSlotHeader, slotSequenceField]
    rw [hpre _ _ (by simp) (by simp), readU64_writeU64,
      UInt64.toNat_ofNat_of_lt' (by simp [UInt64.size]; omega)]
    rfl
  · exact eval_readPlane_writePlanes hk
  · have ha : AgreeOn m (writeSlotHeader (c.slotBase i) md dropped bytes.length m)
        (c.slotBase i + slotHeaderBytes) (c.slotBase i + slotHeaderBytes + bytes.length) :=
      agree_writeSlotHeader hpl (.inr le_rfl)
    exact (ha.read_eq le_rfl le_rfl).trans hpay

/-! ### Filling a slot -/

variable {md : FrameMetadata} {copier : Copier}

/-- The copier succeeds on the slot's bytes with a length and planes that are accepted. -/
def Fits (b : BrokerMapping) (i : ℕ) (md : FrameMetadata) (copier : Copier) (n : ℕ) : Prop :=
  (copier.run (b.payload i)).2 = .ok n ∧ n ≤ b.config.payloadCapacity ∧
    validatePlanes md.format md.width md.height md.planes n = .ok ()

lemma length_copied (b : BrokerMapping) (i : ℕ) (copier : Copier) :
    (copier.run (b.payload i)).1.length = b.config.payloadCapacity := by
  rw [copier.length_run, payload, length_read]

/-- What filling a slot does: the payload is what the copier left; the header is written only
if the copier's result fits. -/
lemma fill_cases (b : BrokerMapping) (i : ℕ) (md : FrameMetadata) (copier : Copier) :
    (∃ n, Fits b i md copier n ∧ b.fill i md copier =
      ({ b with
        mem := writeSlotHeader (b.config.slotBase i) md b.droppedCountLocked n
          (b.mem.write (b.config.slotBase i + slotHeaderBytes) (copier.run (b.payload i)).1) },
        .ok ())) ∨
    ((∀ n, ¬Fits b i md copier n) ∧ ∃ e, b.fill i md copier =
      ({ b with
        mem := b.mem.write (b.config.slotBase i + slotHeaderBytes) (copier.run (b.payload i)).1 },
        .error e)) := by
  unfold fill Fits
  rcases copier.run (b.payload i) with ⟨bytes, e | n⟩
  · exact .inr ⟨by simp, e, rfl⟩
  · by_cases hn : n > b.config.payloadCapacity
    · refine .inr ⟨?_, _, if_pos hn⟩
      rintro k ⟨hk, hle, -⟩
      obtain rfl := Except.ok.inj hk
      omega
    · rcases hv : validatePlanes md.format md.width md.height md.planes n with e | u
      · refine .inr ⟨?_, e, by simp [hn, hv]⟩
        rintro k ⟨hk, -, hk'⟩
        obtain rfl := Except.ok.inj hk
        rw [hv] at hk'
        cases hk'
      · exact .inl ⟨n, ⟨rfl, Nat.le_of_not_lt hn, hv⟩, by simp [hn, hv]⟩

/-- Outside slot `i` the mapping is what it was. -/
structure Confined (b b' : BrokerMapping) (i : ℕ) : Prop where
  config : b'.config = b.config
  descriptor : b'.descriptor = b.descriptor
  pinned : b'.pinned = b.pinned
  outside : ∀ lo hi, hi ≤ b.config.slotBase i ∨
    b.config.slotBase i + slotHeaderBytes + b.config.payloadCapacity ≤ lo →
      AgreeOn b.mem b'.mem lo hi

lemma Confined.trans (h : Confined b b' i) (h' : Confined b' b'' i) : Confined b b'' i := by
  refine ⟨h'.config.trans h.config, h'.descriptor.trans h.descriptor, h'.pinned.trans h.pinned,
    fun lo hi hout => ?_⟩
  exact (h.outside lo hi hout).trans (h'.outside lo hi (h.config ▸ hout))

lemma confined_writeSlotState (b : BrokerMapping) (i : ℕ) (s : SlotState) :
    Confined b (b.writeSlotState i s) i := by
  refine ⟨rfl, rfl, rfl, fun lo hi hout => agree_writeSlotState ?_⟩
  unfold slotHeaderBytes at hout
  omega

lemma confined_fill (b : BrokerMapping) (i : ℕ) (md : FrameMetadata) (copier : Copier) :
    Confined b (b.fill i md copier).1 i := by
  have hw : ∀ lo hi, hi ≤ b.config.slotBase i ∨
      b.config.slotBase i + slotHeaderBytes + b.config.payloadCapacity ≤ lo →
        AgreeOn b.mem (b.mem.write (b.config.slotBase i + slotHeaderBytes)
          (copier.run (b.payload i)).1) lo hi := by
    intro lo hi hout
    refine agreeOn_write ?_
    rw [length_copied]
    omega
  rcases b.fill_cases i md copier with ⟨n, hf, hfill⟩ | ⟨-, e, hfill⟩
  · rw [hfill]
    refine ⟨rfl, rfl, rfl, fun lo hi hout => (hw lo hi hout).trans ?_⟩
    exact agree_writeSlotHeader (validatePlanes_count hf.2.2) (by omega)
  · rw [hfill]
    exact ⟨rfl, rfl, rfl, hw⟩

lemma confined_taken (b : BrokerMapping) (i : ℕ) (previous : SlotState) (md : FrameMetadata)
    (copier : Copier) :
    Confined b (settle i previous ((b.writeSlotState i .writing).fill i md copier)).1 i := by
  have h := (confined_writeSlotState b i .writing).trans (confined_fill _ i md copier)
  rcases hr : (b.writeSlotState i .writing).fill i md copier with ⟨b', e | u⟩ <;> rw [hr] at h
  · exact h.trans (confined_writeSlotState b' i previous)
  · exact h.trans (confined_writeSlotState b' i .ready)

/-! ### Selecting a slot -/

/-- A slot a publish may take: free, or ready. -/
def Writable (b : BrokerMapping) (i : ℕ) : Prop :=
  i < b.config.slotCount ∧ (b.slotState i = .ok .free ∨ b.slotState i = .ok .ready)

/-- What a search of the slots in `l` has met, if it started with `o`. -/
def Met (b : BrokerMapping) (l : List ℕ) (o : Option (ℕ × UInt64)) (x : ℕ × UInt64) : Prop :=
  x ∈ o ∨ x.1 ∈ l ∧ b.slotState x.1 = .ok .ready ∧ x.2 = b.slotSequence x.1

/-- The ready slot that comes first in the order of `rank`. -/
def best (b : BrokerMapping) (rank : UInt64 → ℤ) :
    List ℕ → Option (ℕ × UInt64) → Option (ℕ × UInt64)
  | [], o => o
  | i :: l, o =>
    best b rank l (if b.slotState i = .ok .ready ∧
      o.all (fun o => rank (b.slotSequence i) < rank o.2) then some (i, b.slotSequence i) else o)

/-- Nothing that was met comes before what was found. -/
def Found (b : BrokerMapping) (rank : UInt64 → ℤ) (l : List ℕ) (o : Option (ℕ × UInt64)) :
    Option (ℕ × UInt64) → Prop
  | none => ∀ x, ¬b.Met l o x
  | some x => b.Met l o x ∧ ∀ y, b.Met l o y → rank x.2 ≤ rank y.2

section Search

variable {rank : UInt64 → ℤ} {l : List ℕ} {o r : Option (ℕ × UInt64)} {x : ℕ × UInt64}

lemma Met.cons (h : b.Met l o x) (i : ℕ) : b.Met (i :: l) o x :=
  h.imp_right fun h => ⟨List.mem_cons_of_mem i h.1, h.2⟩

lemma Found.take (hi : b.slotState i = .ok .ready)
    (ho : ∀ y ∈ o, rank (b.slotSequence i) < rank y.2)
    (h : b.Found rank l (some (i, b.slotSequence i)) r) : b.Found rank (i :: l) o r := by
  rcases r with _ | x
  · exact absurd (.inl rfl) (h (i, b.slotSequence i))
  have hix := h.2 (i, b.slotSequence i) (.inl rfl)
  refine ⟨?_, fun y hy => ?_⟩
  · -- it is still the best, or a later one is
    rcases h.1 with hx | hx
    · cases hx
      exact .inr ⟨List.mem_cons_self, hi, rfl⟩
    · exact Met.cons (.inr hx) i
  · rcases hy with hy | ⟨hy, hst, hseq⟩
    · exact hix.trans (ho y hy).le
    · rcases List.mem_cons.mp hy with rfl | hy
      · rw [hseq]
        exact hix
      · exact h.2 y (.inr ⟨hy, hst, hseq⟩)

lemma Found.pass (hi : b.slotState i = .ok .ready →
      ∃ z ∈ o, rank z.2 ≤ rank (b.slotSequence i)) (h : b.Found rank l o r) :
    b.Found rank (i :: l) o r := by
  have hmet {y : ℕ × UInt64} (hy : b.Met (i :: l) o y) :
      b.Met l o y ∨ ∃ z ∈ o, rank z.2 ≤ rank y.2 := by
    rcases hy with hy | ⟨hy, hst, hseq⟩
    · exact .inl (.inl hy)
    · rcases List.mem_cons.mp hy with rfl | hy
      · rw [hseq]
        exact .inr (hi hst)
      · exact .inl (.inr ⟨hy, hst, hseq⟩)
  rcases r with _ | x
  · intro y hy
    rcases hmet hy with hy | ⟨z, hz, -⟩
    · exact h y hy
    · exact h z (.inl hz)
  · refine ⟨h.1.cons i, fun y hy => ?_⟩
    rcases hmet hy with hy | ⟨z, hz, hle⟩
    · exact h.2 y hy
    · exact (h.2 z (.inl hz)).trans hle

lemma found_best (b : BrokerMapping) (rank : UInt64 → ℤ) (l : List ℕ) (o : Option (ℕ × UInt64)) :
    b.Found rank l o (b.best rank l o) := by
  induction l generalizing o with
  | nil =>
    rcases o with _ | x
    · rintro x (hx | ⟨hx, -⟩) <;> cases hx
    · refine ⟨.inl rfl, ?_⟩
      rintro y (hy | ⟨hy, -⟩) <;> cases hy
      exact le_rfl
  | cons i l ih =>
    rw [best]
    split
    · rename_i h
      exact (ih _).take h.1 (by simpa [Option.all_eq_true] using h.2)
    · rename_i h
      refine (ih o).pass fun hi => ?_
      simpa [hi, Option.all_eq_true] using h

/-- The first free slot is selected, or the ready one with the least sequence. -/
inductive Selects (b : BrokerMapping) (l : List ℕ) (o : Option (ℕ × UInt64)) :
    HalResult (Option ℕ) → Prop
  | error {e : HalError} {j : ℕ} (hj : j ∈ l) (h : b.slotState j = .error e) :
    Selects b l o (.error e)
  | free {i : ℕ} (hi : i ∈ l) (h : b.slotState i = .ok .free) : Selects b l o (.ok (some i))
  | best (h : ∀ j ∈ l, b.slotState j ≠ .ok .free) :
      Selects b l o (.ok ((b.best (fun q => q.toNat) l o).map Prod.fst))

lemma Selects.cons {o' : Option (ℕ × UInt64)} {r : HalResult (Option ℕ)} (h : b.Selects l o' r)
    (hi : b.slotState i ≠ .ok .free)
    (hb : b.best (fun q => q.toNat) (i :: l) o = b.best (fun q => q.toNat) l o') :
    b.Selects (i :: l) o r := by
  cases h with
  | error hj h => exact .error (List.mem_cons_of_mem i hj) h
  | free hj h => exact .free (List.mem_cons_of_mem i hj) h
  | best h =>
    rw [← hb]
    exact .best (List.forall_mem_cons.mpr ⟨hi, h⟩)

lemma selects (b : BrokerMapping) (l : List ℕ) (o : Option (ℕ × UInt64)) :
    b.Selects l o (b.selectFrom l o) := by
  induction l generalizing o with
  | nil => exact .best nofun
  | cons k l ih =>
    rw [selectFrom]
    rcases hst : b.slotState k with e | _ | _ | _ | _
    · -- no state at all
      exact .error List.mem_cons_self hst
    · -- a free slot ends the search
      exact .free List.mem_cons_self hst
    all_goals
      refine (ih _).cons (by simp [hst]) ?_
      simp only [best, hst, UInt64.lt_iff_toNat_lt, Nat.cast_lt, true_and, if_false, reduceCtorEq,
        Except.ok.injEq, false_and]

lemma latestFrom_cases (b : BrokerMapping) (l : List ℕ) (o : Option (ℕ × UInt64)) :
    (∃ j ∈ l, ∃ e, b.slotState j = .error e) ∨
      b.latestFrom l o = .ok (b.best (fun q => -q.toNat) l o) := by
  induction l generalizing o with
  | nil => exact .inr rfl
  | cons k l ih =>
    simp only [List.mem_cons, exists_eq_or_imp, or_assoc]
    rw [latestFrom, best]
    rcases hst : b.slotState k with e | s
    · exact .inl ⟨e, rfl⟩
    · right
      cases s with
      | ready =>
        simp only [true_and, neg_lt_neg_iff, Nat.cast_lt, ← UInt64.lt_iff_toNat_lt]
        exact ih _
      | _ => exact ih o

end Search

lemma select_some (h : b.selectWritableSlot = .ok (some i)) : i < b.config.slotCount ∧
    (b.slotState i = .ok .free ∨
      b.slotState i = .ok .ready ∧ (∀ j < b.config.slotCount, b.slotState j ≠ .ok .free) ∧
      ∀ j < b.config.slotCount, b.slotState j = .ok .ready →
        b.slotSequence i ≤ b.slotSequence j) := by
  have hsel := b.selects (List.range b.config.slotCount) none
  rw [← selectWritableSlot, h] at hsel
  generalize hr : Except.ok (some i) = r at hsel
  cases hsel with
  | error => cases hr
  | free hi hfree =>
    cases hr
    exact ⟨List.mem_range.mp hi, .inl hfree⟩
  | best hnone =>
    have hbest := b.found_best (fun q => q.toNat) (List.range b.config.slotCount) none
    obtain ⟨x, hx, rfl⟩ := Option.map_eq_some_iff.mp (Except.ok.inj hr).symm
    rw [hx] at hbest
    obtain ⟨hmem | ⟨hmem, hst, hseq⟩, hmin⟩ := hbest
    · cases hmem
    refine ⟨List.mem_range.mp hmem, .inr ⟨hst, fun j hj => hnone j (List.mem_range.mpr hj),
      fun j hj hready => ?_⟩⟩
    have hle := hmin (j, b.slotSequence j) (.inr ⟨List.mem_range.mpr hj, hready, rfl⟩)
    rw [← hseq, UInt64.le_iff_toNat_le]
    exact Int.ofNat_le.mp hle

lemma writable_of_select (h : b.selectWritableSlot = .ok (some i)) : b.Writable i :=
  ⟨(select_some h).1, (select_some h).2.imp_right And.left⟩

/-! ### Calls that leave the slots alone -/

/-- Nothing but the counter and the terminal state in the header has changed. -/
structure Same (b b' : BrokerMapping) : Prop where
  config : b'.config = b.config
  descriptor : b'.descriptor = b.descriptor
  pinned : b'.pinned = b.pinned
  header : AgreeOn b.mem b'.mem 0 headerDroppedCount
  slots : ∀ hi, AgreeOn b.mem b'.mem headerBytes hi

lemma Same.refl (b : BrokerMapping) : Same b b :=
  ⟨rfl, rfl, rfl, AgreeOn.refl, fun _ => AgreeOn.refl⟩

lemma Same.readU64_eq {a : ℕ} (h : Same b b') (ha : headerBytes ≤ a) :
    b'.mem.readU64 a = b.mem.readU64 a :=
  (h.slots (a + 8)).readU64_eq ha le_rfl

lemma Same.slotState_eq (h : Same b b') (i : ℕ) : b'.slotState i = b.slotState i := by
  rw [BrokerMapping.slotState_eq, BrokerMapping.slotState_eq, h.config,
    h.readU64_eq (b.config.headerBytes_le_slotBase i)]

lemma Same.payload_eq (h : Same b b') (i : ℕ) : b'.payload i = b.payload i := by
  have hb := b.config.headerBytes_le_slotBase i
  rw [payload, payload, h.config, (h.slots _).read_eq (by omega) le_rfl]

lemma Same.holds (h : Same b b') (hp : Holds b.mem b.config i p) :
    Holds b'.mem b'.config i p := by
  have hb := b.config.headerBytes_le_slotBase i
  rw [h.config]
  exact hp.of_agree ((h.slots _).mono (by omega) le_rfl) ((h.slots _).read_eq (by omega) le_rfl)

lemma same_incrementDroppedLocked (h : b.incrementDroppedLocked = .ok b') : Same b b' := by
  unfold incrementDroppedLocked at h
  split at h
  · cases h
  · obtain rfl := Except.ok.inj h
    exact ⟨rfl, rfl, rfl, agreeOn_writeU64 (.inl le_rfl),
      fun _ => agreeOn_writeU64 (.inr (by simp [headerBytes]))⟩

/-! ### Slots that hold what was published -/

/-- Every slot that is ready or pinned holds a published frame. -/
def Sound (pub : List Published) (b : BrokerMapping) : Prop :=
  ∀ i < b.config.slotCount, b.slotState i = .ok .ready ∨ b.slotState i = .ok .pinned →
    ∃ p ∈ pub, Holds b.mem b.config i p

lemma Sound.same (h : Sound pub b) (hs : Same b b') : Sound pub b' := by
  intro i hi hst
  rw [hs.config] at hi
  rw [hs.slotState_eq] at hst
  obtain ⟨p, hp, hh⟩ := h i hi hst
  exact ⟨p, hp, hs.holds hh⟩

lemma Sound.mono {pub' : List Published} (h : Sound pub b) (hp : pub ⊆ pub') : Sound pub' b :=
  fun i hi hst => (h i hi hst).imp fun _ hq => ⟨hp hq.1, hq.2⟩

/-- Setting a slot's state keeps soundness if the slot holds a frame whenever the new state
says so. -/
lemma Sound.writeSlotState (h : Sound pub b)
    (hs : s = .ready ∨ s = .pinned → i < b.config.slotCount →
      ∃ p ∈ pub, Holds b.mem b.config i p) : Sound pub (b.writeSlotState i s) := by
  intro j hj hst
  by_cases hij : j = i
  · subst hij
    rw [slotState_writeSlotState_self] at hst
    obtain ⟨p, hp, hh⟩ := hs (by simpa using hst) hj
    exact ⟨p, hp, holds_writeSlotState hh⟩
  · rw [slotState_writeSlotState_ne hij] at hst
    obtain ⟨p, hp, hh⟩ := h j hj hst
    exact ⟨p, hp, holds_writeSlotState hh⟩

/-- Changing a slot beyond its state, while that state says it is being written, keeps
soundness. -/
lemma Sound.of_writing {m : Mem} (h : Sound pub b) (hw : b.slotState i = .ok .writing)
    (ha : ∀ lo hi, hi ≤ b.config.slotBase i + 8 ∨
      b.config.slotBase i + slotHeaderBytes + b.config.payloadCapacity ≤ lo →
        AgreeOn b.mem m lo hi) : Sound pub { b with mem := m } := by
  intro j hj hst
  have hstate : ({ b with mem := m } : BrokerMapping).slotState j = b.slotState j := by
    rw [slotState_eq, slotState_eq]
    change SlotState.fromRaw (m.readU64 (b.config.slotBase j)) = _
    refine congrArg SlotState.fromRaw ((ha _ _ ?_).readU64_eq le_rfl le_rfl)
    by_cases hij : j = i
    · exact .inl (by rw [hij])
    · have := slots_apart b.config hij
      unfold slotHeaderBytes at *
      omega
  rw [hstate] at hst
  by_cases hij : j = i
  · subst hij
    rw [hw] at hst
    simp at hst
  · obtain ⟨p, hp, hh⟩ := h j hj hst
    have hle := hh.payload_le
    have hap := slots_apart b.config hij
    have hout : AgreeOn b.mem m (b.config.slotBase j)
        (b.config.slotBase j + slotHeaderBytes + b.config.payloadCapacity) :=
      ha _ _ (by omega)
    exact ⟨p, hp,
      hh.of_agree (hout.mono (by omega) (by omega)) (hout.read_eq (by omega) (by omega))⟩

/-! ### Publishing -/

/-- The frame a publish under the lock commits, if it does: the metadata it was given with the
bytes its copier left. -/
def committed (b : BrokerMapping) (md : FrameMetadata) (copier : Copier) : Option Published :=
  match b.selectWritableSlot, (b.publishLockedWith md copier).2 with
  | .ok (some i), .ok () =>
    match copier.run (b.payload i) with
    | (bytes, .ok n) => some (.of md (bytes.take n))
    | (_, .error _) => none
  | _, _ => none

/-- The copier leaves the frame of a ready slot alone unless it commits one of its own. -/
def Clean (b : BrokerMapping) (md : FrameMetadata) (copier : Copier) : Prop :=
  ∀ i, b.selectWritableSlot = .ok (some i) → b.slotState i = .ok .ready →
    (∃ n, Fits b i md copier n) ∨
    let kept := (b.mem.readU64 (b.config.slotBase i + slotPayloadLengthField)).toNat
    (copier.run (b.payload i)).1.take kept = (b.payload i).take kept

/-- A publish either touches no slot and commits nothing, or takes a writable one and fills it. -/
lemma publishLockedWith_cases (b : BrokerMapping) (md : FrameMetadata) (copier : Copier) :
    (Same b (b.publishLockedWith md copier).1 ∧ b.committed md copier = none) ∨
    ∃ i previous b', b.selectWritableSlot = .ok (some i) ∧ b.slotState i = .ok previous ∧
      Same b b' ∧ b.publishLockedWith md copier =
        settle i previous ((b'.writeSlotState i .writing).fill i md copier) := by
  unfold committed publishLockedWith
  rcases hsel : b.selectWritableSlot with e | _ | i
  · exact .inl ⟨Same.refl b, rfl⟩
  · rcases hd : b.incrementDroppedLocked with e | b'
    · exact .inl ⟨Same.refl b, rfl⟩
    · exact .inl ⟨same_incrementDroppedLocked hd, rfl⟩
  · rcases hst : b.slotState i with e | previous
    · simp only [hst]
      exact .inl ⟨Same.refl b, trivial⟩
    · simp only [hst]
      rcases hd : (if previous = .ready then b.incrementDroppedLocked else .ok b) with e | b'
      · exact .inl ⟨Same.refl b, rfl⟩
      · refine .inr ⟨i, previous, b', rfl, hst, ?_, rfl⟩
        split at hd
        · exact same_incrementDroppedLocked hd
        · exact Except.ok.inj hd ▸ Same.refl b

lemma committed_of_select {r : BrokerMapping} (hsel : b.selectWritableSlot = .ok (some i))
    (hp : b.publishLockedWith md copier = (r, .ok ())) (hn : (copier.run (b.payload i)).2 = .ok n) :
    b.committed md copier = some (.of md ((copier.run (b.payload i)).1.take n)) := by
  rw [BrokerMapping.committed, hsel, hp]
  rcases hr : copier.run (b.payload i) with ⟨bytes, x⟩
  rw [hr] at hn
  obtain rfl : x = .ok n := hn
  simp only [hr]

lemma payload_writeSlotState (b : BrokerMapping) (i : ℕ) (s : SlotState) :
    (b.writeSlotState i s).payload i = b.payload i := by
  have ha : AgreeOn b.mem (b.writeSlotState i s).mem (b.config.slotBase i + slotHeaderBytes)
      (b.config.slotBase i + slotHeaderBytes + b.config.payloadCapacity) :=
    agree_writeSlotState (.inr (by unfold slotHeaderBytes; omega))
  exact ha.read_eq le_rfl le_rfl

lemma holds_filled (hf : Fits b i md copier n) :
    Holds (writeSlotHeader (b.config.slotBase i) md b.droppedCountLocked n
      (b.mem.write (b.config.slotBase i + slotHeaderBytes) (copier.run (b.payload i)).1))
      b.config i (.of md ((copier.run (b.payload i)).1.take n)) := by
  obtain ⟨-, hn, hv⟩ := hf
  have hlen := length_copied b i copier
  have htake : ((copier.run (b.payload i)).1.take n).length = n := by
    rw [List.length_take, hlen]
    omega
  have hpay : (b.mem.write (b.config.slotBase i + slotHeaderBytes)
      (copier.run (b.payload i)).1).read (b.config.slotBase i + slotHeaderBytes)
        ((copier.run (b.payload i)).1.take n).length = (copier.run (b.payload i)).1.take n := by
    rw [htake, ← take_read _ _ hn, ← hlen, read_write_self]
  have hhold := holds_writeSlotHeader b.droppedCountLocked (validatePlanes_count hv)
    (htake.trans_le hn) hpay
  rwa [htake] at hhold

lemma Sound.committed (h : Sound pub b) (hw : b.slotState i = .ok .writing)
    (hf : Fits b i md copier n) :
    Sound (pub ++ [.of md ((copier.run (b.payload i)).1.take n)])
      ({ b with
        mem := writeSlotHeader (b.config.slotBase i) md b.droppedCountLocked n
          (b.mem.write (b.config.slotBase i + slotHeaderBytes) (copier.run (b.payload i)).1) :
        BrokerMapping }.writeSlotState i .ready) := by
  have hlen := length_copied b i copier
  refine Sound.writeSlotState ((h.mono (by simp)).of_writing hw fun lo hi hout => ?_)
    fun _ _ => ⟨.of md ((copier.run (b.payload i)).1.take n), by simp, holds_filled hf⟩
  refine AgreeOn.trans (agreeOn_write ?_) (agree_writeSlotHeader (validatePlanes_count hf.2.2) ?_)
  · rw [hlen]
    unfold slotHeaderBytes at hout ⊢
    omega
  · omega

lemma Holds.spared (hp : Holds b.mem b.config i p)
    (hkept : (copier.run (b.payload i)).1.take p.payload.length =
      (b.payload i).take p.payload.length) :
    Holds (b.mem.write (b.config.slotBase i + slotHeaderBytes) (copier.run (b.payload i)).1)
      b.config i p := by
  have hlen := length_copied b i copier
  refine hp.of_agree (agreeOn_write (.inl le_rfl)) ?_
  rw [← take_read _ _ hp.payload_le, ← hlen, read_write_self, hkept, payload, take_read _ _
    hp.payload_le]

/-- A copier that leaves anything in a slot being written harms no other slot. -/
lemma Sound.spilled (h : Sound pub b) (hw : b.slotState i = .ok .writing) :
    Sound pub { b with
      mem := b.mem.write (b.config.slotBase i + slotHeaderBytes)
        (copier.run (b.payload i)).1 } := by
  have hlen := length_copied b i copier
  refine h.of_writing hw fun lo hi hout => agreeOn_write ?_
  rw [hlen]
  unfold slotHeaderBytes at hout ⊢
  omega

/-- **One publish.** Whatever its copier does, the slots hold published frames after it, the
one it committed among them. -/
lemma Sound.publishLockedWith (h : Sound pub b) (hc : b.Clean md copier) :
    Sound (pub ++ (b.committed md copier).toList) (b.publishLockedWith md copier).1 := by
  rcases b.publishLockedWith_cases md copier with ⟨hs, -⟩ | ⟨i, previous, b', hsel, hst, hs, hp⟩
  · exact (h.same hs).mono (by simp)
  -- the slot as it is handed to the copier: being written, with the payload it had
  have hsound : Sound pub (b'.writeSlotState i .writing) :=
    (h.same hs).writeSlotState (by simp)
  have hw := slotState_writeSlotState_self b' i .writing
  have hpay : (b'.writeSlotState i .writing).payload i = b.payload i := by
    rw [payload_writeSlotState, hs.payload_eq]
  rcases (b'.writeSlotState i .writing).fill_cases i md copier with ⟨n, hf, hfill⟩ | ⟨hf, e, hfill⟩
  · have hcom : b.committed md copier = some (.of md ((copier.run (b.payload i)).1.take n)) := by
      have hn := hf.1
      rw [hpay] at hn
      rw [hfill] at hp
      exact committed_of_select hsel hp hn
    rw [hp, hfill, hcom, ← hpay]
    exact hsound.committed hw hf
  · rw [hp, hfill]
    refine Sound.mono (Sound.writeSlotState (hsound.spilled hw) fun hprev hi => ?_) (by simp)
    have hwr := writable_of_select hsel
    obtain rfl : previous = .ready := by
      rcases hprev with hprev | hprev
      · exact hprev
      · simp [Writable, hst, hprev] at hwr
    obtain ⟨p, hpub, hh⟩ := h i hwr.1 (.inl hst)
    refine ⟨p, hpub, Holds.spared (holds_writeSlotState (hs.holds hh)) ?_⟩
    rw [hpay, ← hh.payloadLength]
    refine (hc i hsel hst).resolve_left ?_
    rintro ⟨n, hn⟩
    refine hf n ?_
    rw [Fits, hpay]
    exact hs.config ▸ hn

/-! ### Leases -/

/-- What leasing does to a ring: slots change state, and only a slot that holds a frame is
marked as holding one. -/
inductive Marks (b : BrokerMapping) : BrokerMapping → Prop
  | refl : Marks b b
  | remember {b' : BrokerMapping} (h : Marks b b') (x : Option FrameLease) :
      Marks b { b' with pinned := x }
  | mark {b' : BrokerMapping} (h : Marks b b') (i : ℕ) (s : SlotState)
      (hs : s = .ready ∨ s = .pinned →
        b'.slotState i = .ok .ready ∨ b'.slotState i = .ok .pinned) :
      Marks b (b'.writeSlotState i s)

lemma Marks.trans (h : Marks b b') (h' : Marks b' b'') : Marks b b'' := by
  induction h' with
  | refl => exact h
  | remember _ x ih => exact ih.remember x
  | mark _ i s hs ih => exact ih.mark i s hs

lemma marks_releasePinLocked (b : BrokerMapping) : Marks b b.releasePinLocked.1 := by
  unfold releasePinLocked
  split
  · exact .refl
  · have h' : Marks b { b with pinned := none } := Marks.refl.remember none
    dsimp only
    split
    · split
      · exact h'
      · exact h'.mark _ _ (by simp)
      · exact h'
    · exact h'

lemma marks_pinSlot (b : BrokerMapping) (i : ℕ) (sequence : UInt64) :
    Marks b (b.pinSlot i sequence).1 := by
  unfold pinSlot
  split
  · exact .refl
  · next hst =>
    have hpin : Marks b (b.writeSlotState i .pinned) := Marks.refl.mark i _ fun _ => .inl hst
    dsimp only
    split
    · exact hpin.mark i _ fun _ => .inr (slotState_writeSlotState_self b i _)
    · exact hpin.remember _
  · exact .refl

lemma marks_nextFrameLeaseLocked (b : BrokerMapping) : Marks b b.nextFrameLeaseLocked.1 := by
  unfold nextFrameLeaseLocked
  have hr := marks_releasePinLocked b
  rcases hrel : b.releasePinLocked with ⟨b', e | u⟩ <;> rw [hrel] at hr
  · exact hr
  · dsimp only
    split
    · exact hr
    · exact hr
    · exact hr.trans (marks_pinSlot _ _ _)

lemma Sound.marks (h : Sound pub b) (hm : Marks b b') : Sound pub b' := by
  induction hm with
  | refl => exact h
  | remember _ x ih => exact ih
  | mark _ i s hs ih => exact ih.writeSlotState fun hlive hi => ih i hi (hs hlive)

/-! ### The mapping header -/

/-- The configuration, the descriptor and the header that a reader checks are what they
were. -/
structure Steady (b b' : BrokerMapping) : Prop where
  config : b'.config = b.config
  descriptor : b'.descriptor = b.descriptor
  header : AgreeOn b.mem b'.mem 0 headerDroppedCount

lemma Steady.refl (b : BrokerMapping) : Steady b b := ⟨rfl, rfl, AgreeOn.refl⟩

lemma Steady.trans (h : Steady b b') (h' : Steady b' b'') : Steady b b'' :=
  ⟨h'.config.trans h.config, h'.descriptor.trans h.descriptor, h.header.trans h'.header⟩

lemma Same.steady (h : Same b b') : Steady b b' := ⟨h.config, h.descriptor, h.header⟩

lemma Confined.agree_header (h : Confined b b' i) : AgreeOn b.mem b'.mem 0 headerBytes :=
  h.outside _ _ (.inl (b.config.headerBytes_le_slotBase i))

lemma Confined.steady (h : Confined b b' i) : Steady b b' :=
  ⟨h.config, h.descriptor, h.agree_header.mono le_rfl (by decide)⟩

lemma steady_publishLockedWith (b : BrokerMapping) (md : FrameMetadata) (copier : Copier) :
    Steady b (b.publishLockedWith md copier).1 := by
  rcases b.publishLockedWith_cases md copier with ⟨hs, -⟩ | ⟨i, previous, b', -, -, hs, hp⟩
  · exact hs.steady
  · rw [hp]
    exact hs.steady.trans (confined_taken b' i previous md copier).steady

lemma Marks.steady (hm : Marks b b') : Steady b b' := by
  induction hm with
  | refl => exact .refl b
  | remember _ x ih => exact { ih with }
  | mark _ i s _ ih => exact ih.trans (confined_writeSlotState _ i s).steady

end BrokerMapping

/-! ### Runs -/

/-- The calls on a ring, each with the answers of the operating system. `publish` is
`publishWith` on the copier of its payload. -/
inductive Call
  | publishWith (md : FrameMetadata) (copier : Copier) (lock retry unlock : OsResult)
  | nextFrameLease (lock unlock : OsResult)
  | releasePin (lock unlock : OsResult)
  | acquire (lock unlock shared : OsResult)
  | close (lock unlock unlink : OsResult)

/-- A ring and the frames committed to it so far. -/
structure System where
  broker : BrokerMapping
  published : List Published

namespace BrokerMapping

def call (b : BrokerMapping) : Call → BrokerMapping
  | .publishWith md copier lock retry unlock => (b.publishWith md copier lock retry unlock).1
  | .nextFrameLease lock unlock => (b.nextFrameLease lock unlock).1
  | .releasePin lock unlock => (b.releasePin lock unlock).1
  | .acquire lock unlock shared => (b.acquire lock unlock shared).1
  | .close lock unlock unlink => (b.close lock unlock unlink).1

/-- The frame a call commits. -/
def commits (b : BrokerMapping) : Call → Option Published
  | .publishWith md copier lock _ _ =>
    if validateDimensions md.format md.width md.height = .ok () ∧ lock = .ok () then
      b.committed md copier
    else none
  | _ => none

/-- If the call fails after its copier ran on a ready slot, the copier has left the frame in
that slot alone. -/
def Spares (b : BrokerMapping) : Call → Prop
  | .publishWith md copier lock _ _ =>
    validateDimensions md.format md.width md.height = .ok () → lock = .ok () → b.Clean md copier
  | _ => True

variable {b b' : BrokerMapping} {pub : List Published}

lemma same_incrementDroppedUnlocked (b : BrokerMapping) (retry unlock : OsResult) :
    Same b (b.incrementDroppedUnlocked retry unlock).1 := by
  unfold incrementDroppedUnlocked
  split
  · exact Same.refl b
  · split
    · exact Same.refl b
    · next hd =>
      rw [released_fst]
      exact same_incrementDroppedLocked hd

lemma publishWith_cases (b : BrokerMapping) (md : FrameMetadata) (copier : Copier)
    (lock retry unlock : OsResult) :
    Same b (b.publishWith md copier lock retry unlock).1 ∨
    (validateDimensions md.format md.width md.height = .ok () ∧ lock = .ok () ∧
      (b.publishWith md copier lock retry unlock).1 = (b.publishLockedWith md copier).1) := by
  unfold publishWith
  split
  · exact .inl (Same.refl b)
  next hdim =>
  split
  · split
    · exact .inl (same_incrementDroppedUnlocked b retry unlock)
    · exact .inl (Same.refl b)
  · exact .inr ⟨hdim, rfl, released_fst _ _ _⟩

lemma marks_nextFrameLease (b : BrokerMapping) (lock unlock : OsResult) :
    Marks b (b.nextFrameLease lock unlock).1 := by
  unfold nextFrameLease
  split
  · exact .refl
  · rw [released_fst]
    exact marks_nextFrameLeaseLocked b

lemma marks_releasePin (b : BrokerMapping) (lock unlock : OsResult) :
    Marks b (b.releasePin lock unlock).1 := by
  unfold releasePin
  split
  · exact .refl
  · rw [released_fst]
    exact marks_releasePinLocked b

lemma marks_acquire (b : BrokerMapping) (lock unlock shared : OsResult) :
    Marks b (b.acquire lock unlock shared).1 := by
  unfold acquire
  have hl := marks_nextFrameLeaseLocked b
  dsimp only
  split
  · exact .refl
  · rcases hlease : b.nextFrameLeaseLocked with ⟨b', e | lease⟩ <;> rw [hlease] at hl
    · exact hl
    · dsimp only
      split
      · exact hl
      · exact hl
      · split <;> exact hl

lemma same_close (b : BrokerMapping) (lock unlock unlink : OsResult) :
    Same b (b.close lock unlock unlink).1 := by
  have hw : ∀ closed, Same b { b with
      mem := b.mem.writeU64 headerTerminalState terminalStateClosed, closed } := fun _ =>
    ⟨rfl, rfl, rfl, agreeOn_writeU64 (.inl (by simp)),
      fun _ => agreeOn_writeU64 (.inr (by simp [headerBytes]))⟩
  unfold close
  dsimp only
  split
  · exact Same.refl b
  split
  · exact Same.refl b
  split
  · exact hw _
  split
  · exact hw _
  · exact hw _

/-- **One call keeps the ring sound**, if its copier spares the frame it may land on. -/
lemma Sound.call {c : Call} (h : Sound pub b) (hc : b.Spares c) :
    Sound (pub ++ (b.commits c).toList) (b.call c) := by
  cases c with
  | publishWith md copier lock retry unlock =>
    rcases b.publishWith_cases md copier lock retry unlock with hs | ⟨hdim, hlock, hp⟩
    · exact (h.same hs).mono (by simp)
    · rw [BrokerMapping.call, hp, commits, if_pos ⟨hdim, hlock⟩]
      exact h.publishLockedWith (hc hdim hlock)
  | nextFrameLease lock unlock =>
    exact (h.marks (marks_nextFrameLease b lock unlock)).mono (by simp)
  | releasePin lock unlock => exact (h.marks (marks_releasePin b lock unlock)).mono (by simp)
  | acquire lock unlock shared =>
    exact (h.marks (marks_acquire b lock unlock shared)).mono (by simp)
  | close lock unlock unlink => exact (h.same (same_close b lock unlock unlink)).mono (by simp)

lemma steady_call (b : BrokerMapping) (c : Call) : Steady b (b.call c) := by
  cases c with
  | publishWith md copier lock retry unlock =>
    rcases b.publishWith_cases md copier lock retry unlock with hs | ⟨-, -, hp⟩
    · exact hs.steady
    · rw [call, hp]
      exact steady_publishLockedWith b md copier
  | nextFrameLease lock unlock => exact (marks_nextFrameLease b lock unlock).steady
  | releasePin lock unlock => exact (marks_releasePin b lock unlock).steady
  | acquire lock unlock shared => exact (marks_acquire b lock unlock shared).steady
  | close lock unlock unlink => exact (same_close b lock unlock unlink).steady

lemma slotState_create (sha256 : Vector UInt8 32 → Vector UInt8 32) (c : RingConfig)
    (name : String) (identity token : Vector UInt8 32) (i : ℕ) :
    (create sha256 c name identity token).slotState i = .ok .free := by
  rw [slotState_eq, create, (agreeOn_writeHeader (.inl (c.headerBytes_le_slotBase i))).readU64_eq
    le_rfl le_rfl, readU64_zero]
  exact SlotState.fromRaw_raw .free

lemma sound_create (sha256 : Vector UInt8 32 → Vector UInt8 32) (c : RingConfig) (name : String)
    (identity token : Vector UInt8 32) : Sound [] (create sha256 c name identity token) := by
  intro i _ hst
  rw [slotState_create] at hst
  simp at hst

end BrokerMapping

namespace System

/-- A fresh ring. -/
def create (sha256 : Vector UInt8 32 → Vector UInt8 32) (config : RingConfig) (name : String)
    (identity token : Vector UInt8 32) : System :=
  { broker := .create sha256 config name identity token, published := [] }

def step (s : System) (c : Call) : System :=
  { broker := s.broker.call c, published := s.published ++ (s.broker.commits c).toList }

/-- The runs of a ring in which every copier spares the frame it may land on. -/
abbrev Runs := Machine.Runs (fun s c => some (step s c)) fun s c => s.broker.Spares c

lemma runs_foldl (s : System) (l : List Call) :
    Machine.Runs (fun s c => some (step s c)) (fun _ _ => True) s l (l.foldl step s) := by
  induction l using List.reverseRecOn with
  | nil => exact .nil
  | append_singleton l c ih =>
    rw [List.foldl_append]
    exact ih.snoc trivial rfl

/-- In every such run the slots hold published frames, and the header is as it was. -/
lemma run_sound {s t : System} {l : List Call} (h : Runs s l t)
    (hs : s.broker.Sound s.published) :
    t.broker.Sound t.published ∧ s.broker.Steady t.broker := by
  refine h.invariant (I := fun t => t.broker.Sound t.published ∧ s.broker.Steady t.broker)
    ⟨hs, .refl _⟩ fun a c b ⟨ha, hst⟩ hok hstep => ?_
  cases hstep
  exact ⟨ha.call hok, hst.trans (BrokerMapping.steady_call _ c)⟩

end System

end RobotHal.Ring
