import RobotHal.RingCopy

/-!
The slots of a shared frame ring between two calls.

No slot is left half written, at most one is pinned, and that is the slot of the lease the broker
remembers. A publish takes a free slot or the oldest ready one and leaves every other slot alone,
the pinned one among them.
-/

namespace RobotHal.Ring

namespace BrokerMapping

open Mem

variable {b b' b'' : BrokerMapping} {i j : ℕ} {s : SlotState} {md : FrameMetadata}
  {copier : Copier}

/-! ### Slots that a call leaves alone -/

/-- Slot `j` is the same byte for byte. -/
structure Spared (b b' : BrokerMapping) (j : ℕ) : Prop where
  config : b'.config = b.config
  bytes : AgreeOn b.mem b'.mem (b.config.slotBase j)
    (b.config.slotBase j + slotHeaderBytes + b.config.payloadCapacity)

/-- The header of slot `j` is the same, its payload may differ. -/
structure HeaderKept (b b' : BrokerMapping) (j : ℕ) : Prop where
  config : b'.config = b.config
  state : b'.slotState j = b.slotState j
  sequence : b'.slotSequence j = b.slotSequence j
  generation : b'.slotGeneration j = b.slotGeneration j

lemma Spared.trans (h : Spared b b' j) (h' : Spared b' b'' j) : Spared b b'' j :=
  ⟨h'.config.trans h.config, h.bytes.trans (h.config ▸ h'.bytes)⟩

lemma Spared.headerKept (h : Spared b b' j) : HeaderKept b b' j := by
  have hread : ∀ off, off + 8 ≤ slotHeaderBytes →
      b'.mem.readU64 (b.config.slotBase j + off) = b.mem.readU64 (b.config.slotBase j + off) :=
    fun off hoff => h.bytes.readU64_eq (by omega) (by omega)
  refine ⟨h.config, ?_, ?_, ?_⟩
  · rw [slotState_eq, slotState_eq, h.config]
    exact congrArg SlotState.fromRaw (hread 0 (by decide))
  · rw [slotSequence, slotSequence, h.config]
    exact hread slotSequenceField (by decide)
  · rw [slotGeneration, slotGeneration, h.config]
    exact hread slotGenerationField (by decide)

lemma Same.spared (h : Same b b') (j : ℕ) : Spared b b' j :=
  ⟨h.config, (h.slots _).mono (b.config.headerBytes_le_slotBase j) le_rfl⟩

lemma Confined.spared (h : Confined b b' i) (hij : j ≠ i) : Spared b b' j := by
  have hap := slots_apart b.config hij
  exact ⟨h.config, h.outside _ _ (by omega)⟩

lemma slotFields_writeSlotState (b : BrokerMapping) (i j : ℕ) (s : SlotState) :
    (b.writeSlotState i s).slotSequence j = b.slotSequence j ∧
      (b.writeSlotState i s).slotGeneration j = b.slotGeneration j := by
  by_cases hij : j = i
  · subst hij
    have ha : AgreeOn b.mem (b.writeSlotState j s).mem (b.config.slotBase j + 8)
        (b.config.slotBase j + slotHeaderBytes) := agree_writeSlotState (.inr le_rfl)
    have hread : ∀ off, 8 ≤ off → off + 8 ≤ slotHeaderBytes →
        (b.writeSlotState j s).mem.readU64 (b.config.slotBase j + off) =
          b.mem.readU64 (b.config.slotBase j + off) :=
      fun off hlo hhi => ha.readU64_eq (by omega) (by omega)
    exact ⟨hread slotSequenceField (by decide) (by decide),
      hread slotGenerationField (by decide) (by decide)⟩
  · have hk := ((confined_writeSlotState b i s).spared hij).headerKept
    exact ⟨hk.sequence, hk.generation⟩

/-! ### What a publish does -/

/-- The slot that was taken after a publish: committed, or with the header it had. -/
lemma settle_fill (b : BrokerMapping) (i : ℕ) (md : FrameMetadata) (copier : Copier)
    (previous : SlotState) :
    ((∃ n, Fits b i md copier n) ∧
      (settle i previous (b.fill i md copier)).1.slotState i = .ok .ready ∧
      (settle i previous (b.fill i md copier)).1.slotSequence i = md.sequence ∧
      (settle i previous (b.fill i md copier)).1.slotGeneration i = md.generation ∧
      (settle i previous (b.fill i md copier)).2 = .ok ()) ∨
    ((∀ n, ¬Fits b i md copier n) ∧
      (settle i previous (b.fill i md copier)).1.slotState i = .ok previous ∧
      (settle i previous (b.fill i md copier)).1.slotSequence i = b.slotSequence i ∧
      (settle i previous (b.fill i md copier)).1.slotGeneration i = b.slotGeneration i ∧
      ∃ e, (settle i previous (b.fill i md copier)).2 = .error e) := by
  rcases b.fill_cases i md copier with ⟨n, hf, hfill⟩ | ⟨hf, e, hfill⟩
  · refine .inl ⟨⟨n, hf⟩, ?_⟩
    have hhold := holds_filled hf
    rw [hfill]
    simp only [settle]
    obtain ⟨hseq, hgen⟩ := slotFields_writeSlotState
      { b with mem := writeSlotHeader (b.config.slotBase i) md b.droppedCountLocked n
                  (b.mem.write (b.config.slotBase i + slotHeaderBytes)
                    (copier.run (b.payload i)).1) } i i .ready
    refine ⟨slotState_writeSlotState_self _ i _, ?_, ?_, trivial⟩
    · rw [hseq]
      exact hhold.sequence
    · rw [hgen]
      exact hhold.generation
  · refine .inr ⟨hf, ?_⟩
    rw [hfill]
    simp only [settle]
    obtain ⟨hseq, hgen⟩ := slotFields_writeSlotState
      { b with mem := b.mem.write (b.config.slotBase i + slotHeaderBytes)
                  (copier.run (b.payload i)).1 } i i previous
    have ha : AgreeOn b.mem (b.mem.write (b.config.slotBase i + slotHeaderBytes)
        (copier.run (b.payload i)).1) (b.config.slotBase i)
        (b.config.slotBase i + slotHeaderBytes) := agreeOn_write (.inl le_rfl)
    have hread : ∀ off, off + 8 ≤ slotHeaderBytes →
        (b.mem.write (b.config.slotBase i + slotHeaderBytes) (copier.run (b.payload i)).1).readU64
          (b.config.slotBase i + off) = b.mem.readU64 (b.config.slotBase i + off) :=
      fun off hoff => ha.readU64_eq (by omega) (by omega)
    refine ⟨slotState_writeSlotState_self _ i _, ?_, ?_, e, rfl⟩
    · rw [hseq]
      exact hread slotSequenceField (by decide)
    · rw [hgen]
      exact hread slotGenerationField (by decide)

/-- What a publish does to the slots: nothing, or it takes the selected one and leaves the others
alone. The slot it took is ready with the new frame, or has the header it had. -/
inductive PublishEffect (b : BrokerMapping) (md : FrameMetadata) (copier : Copier)
    (b' : BrokerMapping) : Prop
  | idle (hs : Same b b') (hc : b.committed md copier = none)
  | failed (i : ℕ) (hsel : b.selectWritableSlot = .ok (some i))
      (hothers : ∀ j, j ≠ i → Spared b b' j) (hslot : HeaderKept b b' i)
      (hc : b.committed md copier = none)
  | committed (i : ℕ) (p : Published) (hsel : b.selectWritableSlot = .ok (some i))
      (hothers : ∀ j, j ≠ i → Spared b b' j) (hconfig : b'.config = b.config)
      (hstate : b'.slotState i = .ok .ready) (hseq : b'.slotSequence i = p.sequence)
      (hc : b.committed md copier = some p)

lemma committed_of_error {e : HalError} (h : (b.publishLockedWith md copier).2 = .error e) :
    b.committed md copier = none := by
  unfold committed
  rw [h]
  split
  · rename_i hx
    cases hx
  · rfl

theorem publish_effect (b : BrokerMapping) (md : FrameMetadata) (copier : Copier) :
    PublishEffect b md copier (b.publishLockedWith md copier).1 := by
  rcases b.publishLockedWith_cases md copier with ⟨hs, hc⟩ | ⟨i, previous, b', hsel, hst, hs, hp⟩
  · exact .idle hs hc
  have hwrite : HeaderKept b (b'.writeSlotState i previous) i := by
    obtain ⟨hseq, hgen⟩ := slotFields_writeSlotState b' i i previous
    have hk := (hs.spared i).headerKept
    exact ⟨hs.config, (slotState_writeSlotState_self b' i previous).trans hst.symm,
      hseq.trans hk.sequence, hgen.trans hk.generation⟩
  have hothers : ∀ j, j ≠ i → Spared b (b.publishLockedWith md copier).1 j := by
    intro j hj
    rw [hp]
    exact (hs.spared j).trans ((confined_taken b' i previous md copier).spared hj)
  have hconfig : (b.publishLockedWith md copier).1.config = b.config :=
    (steady_publishLockedWith b md copier).config
  have hpay : (b'.writeSlotState i .writing).payload i = b.payload i := by
    rw [payload_writeSlotState, hs.payload_eq]
  obtain ⟨hwseq, hwgen⟩ := slotFields_writeSlotState b' i i .writing
  have hk := (hs.spared i).headerKept
  rcases settle_fill (b'.writeSlotState i .writing) i md copier previous with
    ⟨⟨n, hf⟩, hstate, hseq, -, hres⟩ | ⟨-, hstate, hseq, hgen, e, hres⟩
  · -- the frame was committed
    rw [← hp] at hstate hseq hres
    have hn := hf.1
    rw [hpay] at hn
    exact .committed i _ hsel hothers hconfig hstate hseq
      (committed_of_select hsel (Prod.ext rfl hres) hn)
  · -- the slot has its old state again
    rw [← hp] at hstate hseq hgen hres
    exact .failed i hsel hothers ⟨hconfig, hstate.trans hst.symm,
      (hseq.trans hwseq).trans hk.sequence, (hgen.trans hwgen).trans hk.generation⟩
      (committed_of_error hres)

/-! ### Between two calls -/

/-- Every slot is free, ready or pinned, and the pinned one is that of the lease the broker
remembers. -/
structure Orderly (b : BrokerMapping) : Prop where
  slots : ∀ i < b.config.slotCount, b.slotState i = .ok .free ∨ b.slotState i = .ok .ready ∨
    b.slotState i = .ok .pinned ∧ ∃ lease, b.pinned = some lease ∧ lease.slotIndex = i
  pin : ∀ lease, b.pinned = some lease → lease.slotIndex < b.config.slotCount ∧
    lease.identity = b.descriptor.identity ∧ b.slotState lease.slotIndex = .ok .pinned ∧
    b.slotSequence lease.slotIndex = lease.sequence ∧
    b.slotGeneration lease.slotIndex = lease.generation

lemma Orderly.defined (h : b.Orderly) (hi : i < b.config.slotCount) :
    ∃ s, b.slotState i = .ok s := by
  rcases h.slots i hi with h | h | ⟨h, -⟩ <;> exact ⟨_, h⟩

lemma Orderly.select_defined (h : b.Orderly) : ∃ r, b.selectWritableSlot = .ok r := by
  have hsel := b.selects (List.range b.config.slotCount) none
  rw [← selectWritableSlot] at hsel
  generalize b.selectWritableSlot = r at hsel
  cases hsel with
  | error hj he =>
    obtain ⟨s, hs⟩ := h.defined (List.mem_range.mp hj)
    cases he.symm.trans hs
  | free | best => exact ⟨_, rfl⟩

lemma Orderly.headerKept (h : b.Orderly) (hk : ∀ j, HeaderKept b b' j)
    (hd : b'.descriptor = b.descriptor) (hp : b'.pinned = b.pinned) : b'.Orderly where
  slots i hi := by
    rw [(hk i).config] at hi
    rw [(hk i).state, hp]
    exact h.slots i hi
  pin lease hl := by
    rw [hp] at hl
    have hi := hk lease.slotIndex
    rw [hi.config, hd, hi.state, hi.sequence, hi.generation]
    exact h.pin lease hl

/-- A publish that took a slot left it free or ready, and the pinned slot alone. -/
lemma Orderly.took (h : b.Orderly) (hw : b.Writable i) (hothers : ∀ j, j ≠ i → Spared b b' j)
    (hconfig : b'.config = b.config)
    (hstate : b'.slotState i = .ok .free ∨ b'.slotState i = .ok .ready)
    (hd : b'.descriptor = b.descriptor) (hp : b'.pinned = b.pinned) : b'.Orderly where
  slots j hj := by
    rw [hconfig] at hj
    by_cases hji : j = i
    · -- the slot that was taken
      subst hji
      exact hstate.imp_right .inl
    · rw [(hothers j hji).headerKept.state, hp]
      exact h.slots j hj
  pin lease hl := by
    rw [hp] at hl
    obtain ⟨hlt, hid, hst, hseq, hgen⟩ := h.pin lease hl
    have hne : lease.slotIndex ≠ i := by
      rintro rfl
      rcases hw.2 with hw | hw <;> rw [hst] at hw <;> cases hw
    have hk := (hothers _ hne).headerKept
    rw [hconfig, hd, hk.state, hk.sequence, hk.generation]
    exact ⟨hlt, hid, hst, hseq, hgen⟩

lemma pinned_publishLockedWith (b : BrokerMapping) (md : FrameMetadata) (copier : Copier) :
    (b.publishLockedWith md copier).1.pinned = b.pinned := by
  rcases b.publishLockedWith_cases md copier with ⟨hs, -⟩ | ⟨i, previous, b', -, -, hs, hp⟩
  · exact hs.pinned
  · rw [hp]
    exact (confined_taken b' i previous md copier).pinned.trans hs.pinned

lemma Orderly.publishLockedWith (h : b.Orderly) (md : FrameMetadata) (copier : Copier) :
    (b.publishLockedWith md copier).1.Orderly := by
  have hd := (steady_publishLockedWith b md copier).descriptor
  have hp := pinned_publishLockedWith b md copier
  rcases publish_effect b md copier with ⟨hs, -⟩ | ⟨i, hsel, hothers, hslot, -⟩ |
    ⟨i, p, hsel, hothers, hconfig, hstate, -, -⟩
  · exact h.headerKept (fun j => (hs.spared j).headerKept) hd hp
  · refine h.headerKept (fun j => ?_) hd hp
    by_cases hj : j = i
    · exact hj ▸ hslot
    · exact (hothers j hj).headerKept
  · exact h.took (writable_of_select hsel) hothers hconfig (.inr hstate) hd hp

/-! ### Leases -/

/-- The slot states after the pin was released: the pinned slot is free. -/
def unpinned (b : BrokerMapping) : BrokerMapping :=
  match b.pinned with
  | none => b
  | some lease => { b with pinned := none }.writeSlotState lease.slotIndex .free

lemma Orderly.releasePinLocked (h : b.Orderly) : b.releasePinLocked = (b.unpinned, .ok ()) := by
  unfold BrokerMapping.releasePinLocked BrokerMapping.unpinned
  cases hl : b.pinned with
  | none => rfl
  | some lease =>
    obtain ⟨-, hid, hst, hseq, hgen⟩ := h.pin lease hl
    have hst' : slotState { b with pinned := none } lease.slotIndex = .ok .pinned := hst
    dsimp only
    rw [if_pos ⟨hid, hseq, hgen⟩]
    simp only [hst']

lemma unpinned_fields (b : BrokerMapping) (j : ℕ) : b.unpinned.config = b.config ∧
    b.unpinned.descriptor = b.descriptor ∧ b.unpinned.pinned = none ∧
    b.unpinned.slotSequence j = b.slotSequence j ∧
    b.unpinned.slotGeneration j = b.slotGeneration j := by
  unfold unpinned
  split
  · rename_i hn
    exact ⟨rfl, rfl, hn, rfl, rfl⟩
  · rename_i lease _
    obtain ⟨hseq, hgen⟩ :=
      slotFields_writeSlotState { b with pinned := none } lease.slotIndex j .free
    exact ⟨rfl, rfl, rfl, hseq, hgen⟩

lemma Orderly.slotState_unpinned (h : b.Orderly) (hi : i < b.config.slotCount) :
    (b.slotState i = .ok .ready ∧ b.unpinned.slotState i = .ok .ready) ∨
      (b.slotState i ≠ .ok .ready ∧ b.unpinned.slotState i = .ok .free) := by
  unfold unpinned
  split
  · rename_i hn
    rcases h.slots i hi with hs | hs | ⟨-, lease, hl, -⟩
    · exact .inr ⟨by simp [hs], hs⟩
    · exact .inl ⟨hs, hs⟩
    · rw [hn] at hl
      cases hl
  · rename_i lease hl
    obtain ⟨-, -, hst, -, -⟩ := h.pin lease hl
    by_cases hli : i = lease.slotIndex
    · subst hli
      exact .inr ⟨by simp [hst], slotState_writeSlotState_self _ _ _⟩
    · have hsame : (writeSlotState { b with pinned := none } lease.slotIndex .free).slotState i =
          b.slotState i := slotState_writeSlotState_ne hli
      rw [hsame]
      rcases h.slots i hi with hs | hs | ⟨-, lease', hl', hi'⟩
      · exact .inr ⟨by simp [hs], hs⟩
      · exact .inl ⟨hs, hs⟩
      · obtain rfl := Option.mem_unique hl hl'
        exact absurd hi'.symm hli

lemma Orderly.unpinned (h : b.Orderly) : b.unpinned.Orderly where
  slots i hi := by
    rw [(unpinned_fields b i).1] at hi
    rcases h.slotState_unpinned hi with ⟨-, hs⟩ | ⟨-, hs⟩
    · exact .inr (.inl hs)
    · exact .inl hs
  pin lease hl := by
    rw [(unpinned_fields b 0).2.2.1] at hl
    cases hl

/-- The lease of the frame in slot `i`. -/
def leaseOf (b : BrokerMapping) (i : ℕ) : FrameLease where
  identity := b.descriptor.identity
  slotIndex := i
  sequence := b.slotSequence i
  generation := b.slotGeneration i

/-- The ring after the pin moved to slot `i`. -/
def repinned (b : BrokerMapping) (i : ℕ) : BrokerMapping :=
  { b.unpinned.writeSlotState i .pinned with pinned := some (b.leaseOf i) }

/-- Slot `i` holds the newest frame that is ready. -/
structure Newest (b : BrokerMapping) (i : ℕ) : Prop where
  lt : i < b.config.slotCount
  ready : b.slotState i = .ok .ready
  max : ∀ j < b.config.slotCount, b.slotState j = .ok .ready → b.slotSequence j ≤ b.slotSequence i

lemma pinSlot_ready (hst : b.slotState i = .ok .ready) :
    b.pinSlot i (b.slotSequence i) =
      ({ b.writeSlotState i .pinned with pinned := some (b.leaseOf i) },
        .ok (some (b.leaseOf i))) := by
  obtain ⟨hseq, hgen⟩ := slotFields_writeSlotState b i i .pinned
  unfold pinSlot
  simp only [hst, hseq, hgen, ne_eq, not_true_eq_false, ↓reduceIte]
  rfl

/-- A lease takes the newest ready frame, if there is one. -/
theorem Orderly.nextFrameLeaseLocked (h : b.Orderly) :
    ((∀ i < b.config.slotCount, b.slotState i ≠ .ok .ready) ∧
      b.nextFrameLeaseLocked = (b.unpinned, .ok none)) ∨
    ∃ i, b.Newest i ∧ b.nextFrameLeaseLocked = (b.repinned i, .ok (some (b.leaseOf i))) := by
  obtain ⟨hconfig, hdesc, -⟩ := unpinned_fields b 0
  have hseq : ∀ j, b.unpinned.slotSequence j = b.slotSequence j :=
    fun j => (unpinned_fields b j).2.2.2.1
  have hgen : ∀ j, b.unpinned.slotGeneration j = b.slotGeneration j :=
    fun j => (unpinned_fields b j).2.2.2.2
  have hready : ∀ j < b.config.slotCount,
      (b.unpinned.slotState j = .ok .ready ↔ b.slotState j = .ok .ready) := by
    intro j hj
    rcases h.slotState_unpinned hj with ⟨hs, hs'⟩ | ⟨hs, hs'⟩ <;> simp [hs, hs']
  unfold BrokerMapping.nextFrameLeaseLocked
  rw [h.releasePinLocked]
  simp only [hconfig]
  have hbest := b.unpinned.found_best (fun q => -q.toNat) (List.range b.config.slotCount) none
  rcases b.unpinned.latestFrom_cases (List.range b.config.slotCount) none with
    ⟨j, hj, e, he⟩ | hr
  · obtain ⟨s, hs⟩ := h.unpinned.defined (hconfig ▸ List.mem_range.mp hj)
    cases he.symm.trans hs
  rw [hr]
  generalize b.unpinned.best _ _ none = r at hbest
  rcases r with _ | ⟨i, q⟩
  · refine .inl ⟨fun i hi hs => ?_, rfl⟩
    exact hbest (i, b.unpinned.slotSequence i)
      (.inr ⟨List.mem_range.mpr hi, (hready i hi).mpr hs, rfl⟩)
  · obtain ⟨hmem | ⟨hi, hst, hq⟩, hmax⟩ := hbest
    · cases hmem
    obtain rfl : q = b.unpinned.slotSequence i := hq
    have hi := List.mem_range.mp hi
    refine .inr ⟨i, ⟨hi, (hready i hi).mp hst, fun j hj hs => ?_⟩, ?_⟩
    · have hle := hmax (j, b.unpinned.slotSequence j)
        (.inr ⟨List.mem_range.mpr hj, (hready j hj).mpr hs, rfl⟩)
      simp only [hseq] at hle
      rw [UInt64.le_iff_toNat_le]
      omega
    · have hlease : b.unpinned.leaseOf i = b.leaseOf i := by
        simp only [leaseOf, hseq, hgen, hdesc]
      simp only [pinSlot_ready hst, hlease]
      rfl

lemma Orderly.repinned (h : b.Orderly) (hi : i < b.config.slotCount) : (b.repinned i).Orderly := by
  obtain ⟨hconfig, hdesc, -, hseq, hgen⟩ := unpinned_fields b i
  obtain ⟨hwseq, hwgen⟩ := slotFields_writeSlotState b.unpinned i i .pinned
  refine ⟨fun j hj => ?_, fun lease hl => ?_⟩
  · by_cases hji : j = i
    · subst hji
      exact .inr (.inr ⟨slotState_writeSlotState_self _ _ _, b.leaseOf j, rfl, rfl⟩)
    · have hj : j < b.config.slotCount := by
        rw [← hconfig]
        exact hj
      have hs : (b.repinned i).slotState j = b.unpinned.slotState j :=
        slotState_writeSlotState_ne hji
      rw [hs]
      rcases h.slotState_unpinned hj with ⟨-, hs'⟩ | ⟨-, hs'⟩
      · exact .inr (.inl hs')
      · exact .inl hs'
  · cases hl
    refine ⟨hconfig ▸ hi, congrArg MappingDescriptor.identity hdesc.symm,
      slotState_writeSlotState_self _ _ _, ?_, ?_⟩
    · exact hwseq.trans hseq
    · exact hwgen.trans hgen

lemma Orderly.leased (h : b.Orderly) : b.nextFrameLeaseLocked.1.Orderly := by
  rcases h.nextFrameLeaseLocked with ⟨-, hl⟩ | ⟨i, hi, hl⟩ <;> rw [hl]
  · exact h.unpinned
  · exact h.repinned hi.lt

/-! ### Every call -/

lemma Orderly.close (h : b.Orderly) (lock unlock unlink : OsResult) :
    (b.close lock unlock unlink).1.Orderly := by
  have hs := same_close b lock unlock unlink
  exact h.headerKept (fun j => (hs.spared j).headerKept) hs.descriptor hs.pinned

/-- **One call** leaves the slots orderly. -/
theorem Orderly.call (h : b.Orderly) (c : Call) : (b.call c).Orderly := by
  cases c with
  | publishWith md copier lock retry unlock =>
    rcases b.publishWith_cases md copier lock retry unlock with hs | ⟨-, -, hp⟩
    · exact h.headerKept (fun j => (hs.spared j).headerKept) hs.descriptor hs.pinned
    · rw [BrokerMapping.call, hp]
      exact h.publishLockedWith md copier
  | nextFrameLease lock unlock =>
    rw [BrokerMapping.call]
    unfold BrokerMapping.nextFrameLease
    split
    · exact h
    · rw [released_fst]
      exact h.leased
  | releasePin lock unlock =>
    rw [BrokerMapping.call]
    unfold BrokerMapping.releasePin
    split
    · exact h
    · rw [released_fst, h.releasePinLocked]
      exact h.unpinned
  | acquire lock unlock shared =>
    rw [BrokerMapping.call]
    unfold BrokerMapping.acquire
    dsimp only
    split
    · exact h
    · have hl := h.leased
      rcases hlease : b.nextFrameLeaseLocked with ⟨b', e | lease⟩ <;> rw [hlease] at hl
      · exact hl
      · dsimp only
        split
        · exact hl
        · exact hl
        · split <;> exact hl
  | close lock unlock unlink => exact h.close lock unlock unlink

lemma orderly_create (sha256 : Vector UInt8 32 → Vector UInt8 32) (c : RingConfig)
    (name : String) (identity token : Vector UInt8 32) :
    (create sha256 c name identity token).Orderly :=
  ⟨fun _ _ => .inl (slotState_create sha256 c name identity token _), nofun⟩

lemma orderly_calls (sha256 : Vector UInt8 32 → Vector UInt8 32) (c : RingConfig) (name : String)
    (identity token : Vector UInt8 32) (l : List Call) :
    (l.foldl BrokerMapping.call (create sha256 c name identity token)).Orderly ∧
    (l.foldl BrokerMapping.call (create sha256 c name identity token)).config = c := by
  induction l using List.reverseRecOn with
  | nil => exact ⟨orderly_create sha256 c name identity token, rfl⟩
  | append_singleton l x ih =>
    rw [List.foldl_append]
    exact ⟨ih.1.call x, (steady_call _ x).config.trans ih.2⟩

lemma spared_publishWith (md : FrameMetadata) (copier : Copier) (lock retry unlock : OsResult)
    (hst : b.slotState i = .ok .pinned) :
    Spared b (b.publishWith md copier lock retry unlock).1 i := by
  rcases b.publishWith_cases md copier lock retry unlock with hs | ⟨-, -, hp⟩
  · exact hs.spared i
  have hne : ∀ k, b.selectWritableSlot = .ok (some k) → i ≠ k := by
    rintro k hk rfl
    rcases (writable_of_select hk).2 with hw | hw <;> rw [hst] at hw <;> cases hw
  rw [hp]
  rcases publish_effect b md copier with ⟨hs, -⟩ | ⟨k, hsel, hothers, -, -⟩ |
    ⟨k, p, hsel, hothers, -, -, -, -⟩
  · exact hs.spared i
  · exact hothers i (hne k hsel)
  · exact hothers i (hne k hsel)

end BrokerMapping

open BrokerMapping in
/-- Between any two calls on a ring no slot is half written and at most one is pinned, that of the
lease the broker remembers; a publish changes no byte of it. -/
theorem ring_slots_safe (sha256 : Vector UInt8 32 → Vector UInt8 32) (c : RingConfig)
    (name : String) (identity token : Vector UInt8 32) (l : List Call) (b : BrokerMapping)
    (hb : b = l.foldl BrokerMapping.call (create sha256 c name identity token)) :
    (∀ i < b.config.slotCount, b.slotState i = .ok .free ∨ b.slotState i = .ok .ready ∨
      b.slotState i = .ok .pinned) ∧
    (∀ i < b.config.slotCount, b.slotState i = .ok .pinned → ∃ lease, b.pinned = some lease ∧
      lease.slotIndex = i ∧ lease.sequence = b.slotSequence i ∧
      lease.generation = b.slotGeneration i) ∧
    (∀ i < b.config.slotCount, ∀ j < b.config.slotCount, b.slotState i = .ok .pinned →
      b.slotState j = .ok .pinned → i = j) ∧
    ∀ (md : FrameMetadata) (copier : Copier) (lock retry unlock : OsResult) (i : ℕ),
      b.slotState i = .ok .pinned →
        Mem.AgreeOn b.mem (b.publishWith md copier lock retry unlock).1.mem (b.config.slotBase i)
          (b.config.slotBase i + slotHeaderBytes + b.config.payloadCapacity) := by
  have h : b.Orderly := hb ▸ (orderly_calls sha256 c name identity token l).1
  have hpin : ∀ i < b.config.slotCount, b.slotState i = .ok .pinned → ∃ lease,
      b.pinned = some lease ∧ lease.slotIndex = i := by
    intro i hi hst
    rcases h.slots i hi with hs | hs | ⟨-, hl⟩
    · rw [hst] at hs
      cases hs
    · rw [hst] at hs
      cases hs
    · exact hl
  refine ⟨fun i hi => ?_, fun i hi hst => ?_, fun i hi j hj hst hst' => ?_, ?_⟩
  · exact (h.slots i hi).imp_right (Or.imp_right And.left)
  · obtain ⟨lease, hl, rfl⟩ := hpin i hi hst
    obtain ⟨-, -, -, hseq, hgen⟩ := h.pin lease hl
    exact ⟨lease, hl, rfl, hseq.symm, hgen.symm⟩
  · obtain ⟨lease, hl, rfl⟩ := hpin i hi hst
    obtain ⟨lease', hl', rfl⟩ := hpin j hj hst'
    rw [Option.mem_unique hl hl']
  · exact fun md copier lock retry unlock i hst =>
      (spared_publishWith md copier lock retry unlock hst).bytes

/-- The ring of one frame that is leased. -/
def oneLeased : BrokerMapping := [published 1 [7, 9], leased].foldl BrokerMapping.call fresh.broker

theorem ring_slots_safe_leased : oneLeased.slotState 0 = .ok .pinned ∧
    oneLeased.pinned.map FrameLease.sequence = some 1 ∧
    Mem.AgreeOn oneLeased.mem (oneLeased.call (published 2 [1, 1])).mem
      (oneLeased.config.slotBase 0)
      (oneLeased.config.slotBase 0 + slotHeaderBytes + oneLeased.config.payloadCapacity) := by
  have hst : oneLeased.slotState 0 = .ok .pinned := by decide +kernel
  have hsafe := ring_slots_safe id smallConfig "/robot-hal-00" (Vector.replicate 32 0)
    (Vector.replicate 32 0) [published 1 [7, 9], leased] oneLeased rfl
  obtain ⟨lease, hl, -, hseq, -⟩ := hsafe.2.1 0 (by decide) hst
  refine ⟨hst, ?_, hsafe.2.2.2 _ _ _ _ _ 0 hst⟩
  rw [hl, Option.map_some, hseq]
  decide +kernel

end RobotHal.Ring
