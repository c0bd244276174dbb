import RobotHal.RingSlots

/-!
The counter of dropped frames.

A publish counts a drop before it knows how it ends: when it takes a ready slot, when there is no
slot to take, and when it finds the lock taken and gets it at the second try. The counter is the
number of frames that were overwritten or skipped as long as every publish that counts ends that
way, and every publish that skips its frame counts.
-/

namespace RobotHal.Ring

open Mem

variable {unlock retry : OsResult}

namespace BrokerMapping

/-- `dropped_count`, with the answer to the shared lock. -/
def droppedCount (b : BrokerMapping) (shared : OsResult) : UInt64 :=
  match shared with
  | .ok () => b.droppedCountLocked
  | .error _ => 0

/-- The slot a publish would take holds a frame. -/
def takesReady (b : BrokerMapping) : Bool :=
  match b.selectWritableSlot with
  | .ok (some i) => b.slotState i = .ok .ready
  | _ => false

/-- The call commits a frame over one that was not leased. -/
def overwrites (b : BrokerMapping) (c : Call) : Bool := b.takesReady && (b.commits c).isSome

/-- The call is a publish that returns `Ok` without committing its frame. -/
def skips (b : BrokerMapping) : Call → Bool
  | .publishWith md copier lock retry unlock =>
    (b.publishWith md copier lock retry unlock).2 = .ok () ∧
      b.commits (.publishWith md copier lock retry unlock) = none
  | _ => false

/-- The counter can not go any further. -/
def Full (b : BrokerMapping) : Prop := b.droppedCountLocked.toNat = u64Max

/-- The call counts a drop exactly if it drops a frame: a frame that would overwrite another one
fits its slot, a frame without a slot is dropped without an error, and a lock that was taken is
free at the second try. -/
def Counted (b : BrokerMapping) : Call → Prop
  | .publishWith md copier lock retry unlock =>
    validateDimensions md.format md.width md.height = .ok () →
      match lock with
      | .ok () =>
        match b.selectWritableSlot with
        | .ok (some i) => b.slotState i = .ok .ready → b.Full ∨ ∃ n, Fits b i md copier n
        | .ok none => b.Full ∨ unlock = .ok ()
        | .error _ => True
      | .error e => e.wouldBlock = true → retry = .ok () ∧ (b.Full ∨ unlock = .ok ())
  | _ => True

variable {b b' : BrokerMapping} {i : ℕ} {s : SlotState} {md : FrameMetadata} {copier : Copier}

/-! ### Where the counter moves -/

lemma Confined.counter (h : Confined b b' i) : b'.droppedCountLocked = b.droppedCountLocked :=
  h.agree_header.readU64_eq (by decide) (by decide)

lemma Marks.counter (h : Marks b b') : b'.droppedCountLocked = b.droppedCountLocked := by
  induction h with
  | refl => rfl
  | remember _ x ih => exact ih
  | mark _ i s _ ih => exact (confined_writeSlotState _ i s).counter.trans ih

lemma counter_close (b : BrokerMapping) (lock unlock unlink : OsResult) :
    (b.close lock unlock unlink).1.droppedCountLocked = b.droppedCountLocked := by
  have ha : AgreeOn b.mem (b.mem.writeU64 headerTerminalState terminalStateClosed) 0 136 :=
    agreeOn_writeU64 (.inl (by simp))
  have hw : (b.mem.writeU64 headerTerminalState terminalStateClosed).readU64 headerDroppedCount =
      b.mem.readU64 headerDroppedCount := ha.readU64_eq (by simp) (by simp)
  unfold close
  dsimp only
  split
  · rfl
  split
  · rfl
  split
  · exact hw
  split
  · exact hw
  · exact hw

lemma counter_create (sha256 : Vector UInt8 32 → Vector UInt8 32) (c : RingConfig) (name : String)
    (identity token : Vector UInt8 32) :
    (create sha256 c name identity token).droppedCountLocked = 0 := by
  rw [droppedCountLocked, create, (agreeOn_writeHeader (.inr ⟨le_rfl, le_rfl⟩)).readU64_eq le_rfl
    le_rfl, readU64_zero]

lemma incrementDroppedLocked_cases (b : BrokerMapping) :
    (b.Full ∧ ∃ e, b.incrementDroppedLocked = .error e) ∨
    (¬b.Full ∧ ∃ b', b.incrementDroppedLocked = .ok b' ∧ Same b b' ∧
      b'.droppedCountLocked.toNat = b.droppedCountLocked.toNat + 1) := by
  have hlt := b.droppedCountLocked.toNat_lt
  unfold Full incrementDroppedLocked
  cases hn : checkedAdd b.droppedCountLocked.toNat 1 with
  | none =>
    refine .inl ⟨?_, _, rfl⟩
    unfold checkedAdd at hn
    split at hn
    · cases hn
    · unfold u64Max at *
      omega
  | some next =>
    obtain ⟨rfl, hle⟩ := checkedAdd_eq_some.mp hn
    refine .inr ⟨by unfold u64Max at *; omega, _, rfl, ?_, ?_⟩
    · exact same_incrementDroppedLocked (by rw [incrementDroppedLocked, hn])
    · have hsize : b.droppedCountLocked.toNat + 1 < UInt64.size := by
        unfold u64Max UInt64.size at *
        omega
      rw [droppedCountLocked, readU64_writeU64, UInt64.toNat_ofNat_of_lt' hsize]

/-! ### What a publish counts -/

lemma released_eq_ok {σ : Type} {operation : String} {x : σ × HalResult Unit} :
    (released operation unlock x).2 = .ok () ↔ unlock = .ok () ∧ x.2 = .ok () := by
  unfold released
  split <;> simp

lemma fits_congr (hs : Same b b') {n : ℕ} :
    Fits (b'.writeSlotState i .writing) i md copier n ↔ Fits b i md copier n := by
  have hc : (b'.writeSlotState i .writing).config = b.config := hs.config
  rw [Fits, Fits, payload_writeSlotState, hs.payload_eq, hc]

/-- The state of a slot cannot be read. -/
def Unreadable (b : BrokerMapping) : Prop :=
  (∃ e, b.selectWritableSlot = .error e) ∨
    ∃ i e, b.selectWritableSlot = .ok (some i) ∧ b.slotState i = .error e

/-- How a publish under the lock ends and by how much it moves the counter. -/
inductive LockedEnd (b : BrokerMapping) (md : FrameMetadata) (copier : Copier) : Prop
  /-- it fails before it counts -/
  | failed (e : HalError) (hr : (b.publishLockedWith md copier).2 = .error e)
      (hcount : (b.publishLockedWith md copier).1.droppedCountLocked = b.droppedCountLocked)
      (hwhy : b.Full ∨ b.Unreadable)
  | noSlot (hfull : ¬b.Full) (hsel : b.selectWritableSlot = .ok none)
      (hr : (b.publishLockedWith md copier).2 = .ok ())
      (hcount : (b.publishLockedWith md copier).1.droppedCountLocked.toNat =
        b.droppedCountLocked.toNat + 1)
  | took (i : ℕ) (hsel : b.selectWritableSlot = .ok (some i))
      (hfull : b.takesReady = true → ¬b.Full)
      (hr : (b.publishLockedWith md copier).2 = .ok () ∧ (b.committed md copier).isSome = true ∧
          (∃ n, Fits b i md copier n) ∨
        (∃ e, (b.publishLockedWith md copier).2 = .error e) ∧ ∀ n, ¬Fits b i md copier n)
      (hcount : (b.publishLockedWith md copier).1.droppedCountLocked.toNat =
        b.droppedCountLocked.toNat + b.takesReady.toNat)

lemma lockedEnd_took {previous : SlotState} (hsel : b.selectWritableSlot = .ok (some i))
    (hfull : b.takesReady = true → ¬b.Full) (hs : Same b b')
    (hcount : b'.droppedCountLocked.toNat = b.droppedCountLocked.toNat + b.takesReady.toNat)
    (hp : b.publishLockedWith md copier =
      settle i previous ((b'.writeSlotState i .writing).fill i md copier)) :
    LockedEnd b md copier := by
  refine .took i hsel hfull ?_ ?_
  · rcases settle_fill (b'.writeSlotState i .writing) i md copier previous with
      ⟨⟨n, hf⟩, -, -, -, hr⟩ | ⟨hf, -, -, -, e, hr⟩
    · rw [fits_congr hs] at hf
      rw [← hp] at hr
      have hc := committed_of_select hsel (Prod.ext rfl hr) hf.1
      exact .inl ⟨hr, by rw [hc, Option.isSome_some], n, hf⟩
    · rw [← hp] at hr
      exact .inr ⟨⟨e, hr⟩, fun n hn => hf n ((fits_congr hs).mpr hn)⟩
  · rw [hp, (confined_taken b' i previous md copier).counter, hcount]

lemma lockedEnd (b : BrokerMapping) (md : FrameMetadata) (copier : Copier) :
    LockedEnd b md copier := by
  have hp := publishLockedWith.eq_1 b md copier
  cases hsel : b.selectWritableSlot with
  | error e =>
    simp only [hsel] at hp
    exact .failed e (by rw [hp]) (by rw [hp]) (.inr (.inl ⟨e, hsel⟩))
  | ok slot =>
    cases slot with
    | none =>
      simp only [hsel] at hp
      rcases b.incrementDroppedLocked_cases with ⟨hfull, e, hinc⟩ | ⟨hfull, b', hinc, -, hcount⟩
      · rw [hinc] at hp
        exact .failed e (by rw [hp]) (by rw [hp]) (.inl hfull)
      · rw [hinc] at hp
        exact .noSlot hfull hsel (by rw [hp]) (by rw [hp]; exact hcount)
    | some i =>
      simp only [hsel] at hp
      cases hst : b.slotState i with
      | error e =>
        simp only [hst] at hp
        exact .failed e (by rw [hp]) (by rw [hp]) (.inr (.inr ⟨i, e, hsel, hst⟩))
      | ok previous =>
        have hready : b.takesReady = decide (previous = .ready) := by simp [takesReady, hsel, hst]
        simp only [hst] at hp
        by_cases hprev : previous = .ready
        · rw [if_pos hprev] at hp
          rcases b.incrementDroppedLocked_cases with
            ⟨hfull, e, hinc⟩ | ⟨hfull, b', hinc, hs, hcount⟩
          · rw [hinc] at hp
            exact .failed e (by rw [hp]) (by rw [hp]) (.inl hfull)
          · rw [hinc] at hp
            refine lockedEnd_took hsel (fun _ => hfull) hs ?_ hp
            simpa [hready, hprev] using hcount
        · rw [if_neg hprev] at hp
          refine lockedEnd_took hsel ?_ (.refl b) ?_ hp
          · simp [hready, hprev]
          · simp [hready, hprev]

/-- A call moves the counter by the frames it drops exactly if it is one of the counted ones. -/
structure Tally (b : BrokerMapping) (c : Call) : Prop where
  le : b.droppedCountLocked.toNat ≤ (b.call c).droppedCountLocked.toNat
  counted : b.Counted c ↔ (b.call c).droppedCountLocked.toNat =
    b.droppedCountLocked.toNat + ((b.overwrites c).toNat + (b.skips c).toNat)

lemma Tally.quiet {c : Call} (h : (b.call c).droppedCountLocked = b.droppedCountLocked)
    (hcommits : b.commits c = none) (hskips : b.skips c = false) (hc : b.Counted c) :
    b.Tally c := by
  refine ⟨by rw [h], iff_of_true hc ?_⟩
  simp [h, overwrites, hcommits, hskips]

lemma tally_locked (hdim : validateDimensions md.format md.width md.height = .ok ()) :
    b.Tally (.publishWith md copier (.ok ()) retry unlock) := by
  set c : Call := .publishWith md copier (.ok ()) retry unlock with hc
  have hpub : b.publishWith md copier (.ok ()) retry unlock =
      released "shared_memory.publish" unlock (b.publishLockedWith md copier) := by
    simp only [publishWith, hdim]
  have hcall : b.call c = (b.publishLockedWith md copier).1 := by
    rw [hc, call, hpub, released_fst]
  have hcommits : b.commits c = b.committed md copier := by simp [hc, commits, hdim]
  have hskips : b.skips c = decide ((unlock = .ok () ∧ (b.publishLockedWith md copier).2 = .ok ()) ∧
      b.committed md copier = none) := by
    simp only [← hcommits, hc, skips, hpub, released_eq_ok]
  have hcounted : b.Counted c ↔ match b.selectWritableSlot with
      | .ok (some i) => b.slotState i = .ok .ready → b.Full ∨ ∃ n, Fits b i md copier n
      | .ok none => b.Full ∨ unlock = .ok ()
      | .error _ => True := by
    simp [hc, Counted, hdim]
  rcases lockedEnd b md copier with ⟨e, hr, hcount, hwhy⟩ | ⟨hfull, hsel, hr, hcount⟩ |
    ⟨i, hsel, hfull, hr, hcount⟩
  · -- nothing is counted and nothing is dropped
    have hnone := committed_of_error hr
    refine .quiet (by rw [hcall, hcount]) (hcommits.trans hnone) (by simp [hskips, hr]) ?_
    rw [hcounted]
    rcases hwhy with hfull | ⟨e, hsel⟩ | ⟨i, e, hsel, hst⟩
    · split
      · exact fun _ => .inl hfull
      · exact .inl hfull
      · trivial
    · rw [hsel]
      trivial
    · rw [hsel]
      intro hready
      rw [hst] at hready
      cases hready
  · -- a drop is counted; it is one if the call succeeds
    have hnone : b.committed md copier = none := by simp [committed, hsel]
    rw [hsel] at hcounted
    refine ⟨by rw [hcall, hcount]; omega, ?_⟩
    rw [hcounted, hcall, hcount]
    by_cases hu : unlock = .ok () <;> simp [overwrites, hcommits, hskips, hr, hnone, hfull, hu]
  · have hready : b.takesReady = decide (b.slotState i = .ok .ready) := by simp [takesReady, hsel]
    rw [hsel] at hcounted
    refine ⟨by rw [hcall, hcount]; omega, ?_⟩
    rw [hcounted, hcall, hcount]
    rcases hr with ⟨hr, hsome, hfits⟩ | ⟨⟨e, hr⟩, hfits⟩
    · have hne : b.committed md copier ≠ none := Option.isSome_iff_ne_none.mp hsome
      simp [overwrites, hcommits, hskips, hsome, hne, hfits]
    · have hnone := committed_of_error hr
      by_cases hst : b.slotState i = .ok .ready
      · have hnf := hfull (by simp [hready, hst])
        simp [overwrites, hcommits, hskips, hnone, hr, hready, hst, hfits, hnf]
      · simp [overwrites, hcommits, hskips, hnone, hr, hready, hst]

lemma tally_contended {e : OsError} (he : e.wouldBlock = true)
    (hdim : validateDimensions md.format md.width md.height = .ok ()) :
    b.Tally (.publishWith md copier (.error e) retry unlock) := by
  set c : Call := .publishWith md copier (.error e) retry unlock with hc
  have hpub : b.publishWith md copier (.error e) retry unlock =
      b.incrementDroppedUnlocked retry unlock := by
    simp only [publishWith, hdim, he, if_true]
  have hcall : b.call c = (b.incrementDroppedUnlocked retry unlock).1 := by rw [hc, call, hpub]
  have hcommits : b.commits c = none := by simp [hc, commits]
  have hskips : b.skips c = decide ((b.incrementDroppedUnlocked retry unlock).2 = .ok ()) := by
    rw [hc, skips, hpub, ← hc, hcommits]
    simp
  have hcounted : b.Counted c ↔ retry = .ok () ∧ (b.Full ∨ unlock = .ok ()) := by
    simp [hc, Counted, hdim, he]
  have hover : b.overwrites c = false := by simp [overwrites, hcommits]
  rcases retry with e' | u
  · refine ⟨by rw [hcall]; rfl, ?_⟩
    rw [hcounted, hcall, hskips, hover]
    simp [incrementDroppedUnlocked]
  · rcases b.incrementDroppedLocked_cases with ⟨hfull, e', hinc⟩ | ⟨hfull, b', hinc, -, hcount⟩
    · have hinc' : b.incrementDroppedUnlocked (.ok u) unlock = (b, .error e') := by
        simp only [incrementDroppedUnlocked, hinc]
      refine ⟨by rw [hcall, hinc'], ?_⟩
      rw [hcounted, hcall, hskips, hover, hinc']
      simp [hfull]
    · have hinc' : b.incrementDroppedUnlocked (.ok u) unlock =
          released "shared_memory.publish" unlock (b', .ok ()) := by
        simp only [incrementDroppedUnlocked, hinc]
      have hnew : (b.call c).droppedCountLocked.toNat = b.droppedCountLocked.toNat + 1 := by
        rw [hcall, hinc', released_fst, hcount]
      refine ⟨by omega, ?_⟩
      rw [hcounted, hnew, hskips, hover, hinc']
      by_cases hu : unlock = .ok () <;> simp [hfull, released_eq_ok, hu]

theorem tally (b : BrokerMapping) (c : Call) : b.Tally c := by
  cases c with
  | publishWith md copier lock retry unlock =>
    cases hdim : validateDimensions md.format md.width md.height with
    | error e =>
      have hpub : b.publishWith md copier lock retry unlock = (b, .error e) := by
        simp only [publishWith, hdim]
      refine .quiet ?_ (by simp [commits, hdim]) ?_ ?_
      · rw [call, hpub]
      · simp [skips, hpub]
      · simp [Counted, hdim]
    | ok u =>
      rcases lock with e | u'
      · cases he : e.wouldBlock with
        | true => exact tally_contended he hdim
        | false =>
          have hpub : b.publishWith md copier (.error e) retry unlock =
              (b, .error (unavailable "shared_memory.publish" e.message)) := by
            simp [publishWith, hdim, he]
          refine .quiet ?_ (by simp [commits]) ?_ ?_
          · rw [call, hpub]
          · simp [skips, hpub]
          · simp [Counted, he]
      · exact tally_locked hdim
  | nextFrameLease lock unlock =>
    exact .quiet (marks_nextFrameLease b lock unlock).counter rfl rfl trivial
  | releasePin lock unlock => exact .quiet (marks_releasePin b lock unlock).counter rfl rfl trivial
  | acquire lock unlock shared =>
    exact .quiet (marks_acquire b lock unlock shared).counter rfl rfl trivial
  | close lock unlock unlink => exact .quiet (counter_close b lock unlock unlink) rfl rfl trivial

instance (b : BrokerMapping) : Decidable b.Full := inferInstanceAs (Decidable (_ = _))

instance (b : BrokerMapping) (i : ℕ) (md : FrameMetadata) (copier : Copier) :
    Decidable (∃ n, Fits b i md copier n) :=
  match h : (copier.run (b.payload i)).2 with
  | .error _ => isFalse fun ⟨_, hn, _⟩ => nomatch h.symm.trans hn
  | .ok n =>
    decidable_of_iff (n ≤ b.config.payloadCapacity ∧
        validatePlanes md.format md.width md.height md.planes n = .ok ())
      ⟨fun hn => ⟨n, h, hn⟩, fun ⟨_, hk, hn⟩ => Except.ok.inj (h.symm.trans hk) ▸ hn⟩

instance (b : BrokerMapping) : ∀ c, Decidable (b.Counted c)
  | .publishWith _ _ (.ok ()) _ _ =>
    match h : b.selectWritableSlot with
    | .ok (some _) =>
      decidable_of_iff (_ → _ → _ ∨ ∃ _, _) (by simp only [Counted, h]; exact Iff.rfl)
    | .ok none => decidable_of_iff (_ → _ ∨ _) (by simp only [Counted, h]; exact Iff.rfl)
    | .error _ => isTrue (by simp [Counted, h])
  | .publishWith _ _ (.error _) _ _ => inferInstanceAs (Decidable (_ → _ → _ ∧ (_ ∨ _)))
  | .nextFrameLease .. | .releasePin .. | .acquire .. | .close .. =>
    inferInstanceAs (Decidable True)

end BrokerMapping

/-! ### A session -/

/-- The calls on a mapping, `dropped_count` included. -/
inductive Act
  | call (c : Call)
  | droppedCount (shared : OsResult)

/-- A ring, the frames it dropped so far and what `dropped_count` returned. -/
structure Account where
  broker : BrokerMapping
  /-- committed frames that a later one was committed over while they were ready -/
  overwritten : ℕ := 0
  /-- publishes that returned `Ok` and committed nothing -/
  skipped : ℕ := 0
  reports : List UInt64 := []

namespace Account

def step (s : Account) : Act → Account
  | .call c =>
    { s with
      broker := s.broker.call c
      overwritten := s.overwritten + (s.broker.overwrites c).toNat
      skipped := s.skipped + (s.broker.skips c).toNat }
  | .droppedCount shared => { s with reports := s.reports ++ [s.broker.droppedCount shared] }

/-- The counter is the number of frames dropped, and what it was reported to be never went down. -/
structure Law (s : Account) : Prop where
  counter : s.broker.droppedCountLocked.toNat = s.overwritten + s.skipped
  reports : s.reports.Pairwise (· ≤ ·)

/-- The condition on a call. The counter is read under the lock, or was never seen above zero. -/
def Faithful (s : Account) : Act → Prop
  | .call c => s.broker.Counted c
  | .droppedCount shared => shared = .ok () ∨ ∀ n ∈ s.reports, n = 0

abbrev Runs (ok : Account → Act → Prop) := Machine.Runs (fun s a => some (step s a)) ok

variable {s : Account} {a : Act}

/-- No report is above the counter. -/
def Bounded (s : Account) : Prop := ∀ n ∈ s.reports, n ≤ s.broker.droppedCountLocked

lemma bounded_step (h : s.Bounded) (a : Act) : (s.step a).Bounded := by
  cases a with
  | call c =>
    intro n hn
    exact UInt64.le_trans (h n hn) (UInt64.le_iff_toNat_le.mpr (s.broker.tally c).le)
  | droppedCount shared =>
    intro n hn
    rcases List.mem_append.mp hn with hn | hn
    · exact h n hn
    · obtain rfl := List.mem_singleton.mp hn
      rcases shared with e | u
      · exact UInt64.le_iff_toNat_le.mpr (Nat.zero_le _)
      · exact UInt64.le_refl _

lemma reports_droppedCount (h : s.Bounded) (hl : s.reports.Pairwise (· ≤ ·)) (shared : OsResult) :
    (s.reports ++ [s.broker.droppedCount shared]).Pairwise (· ≤ ·) ↔
      shared = .ok () ∨ ∀ n ∈ s.reports, n = 0 := by
  have hiff : (s.reports ++ [s.broker.droppedCount shared]).Pairwise (· ≤ ·) ↔
      ∀ n ∈ s.reports, n ≤ s.broker.droppedCount shared := by
    simp [List.pairwise_append, hl]
  rw [hiff]
  rcases shared with e | u
  · simp [BrokerMapping.droppedCount]
  · exact iff_of_true h (.inl rfl)

/-- **One call keeps the law** exactly if it meets the condition. -/
lemma law_step (hb : s.Bounded) (h : s.Law) (a : Act) : s.Faithful a ↔ (s.step a).Law := by
  cases a with
  | call c =>
    have hcounter : (s.step (.call c)).Law ↔ (s.broker.call c).droppedCountLocked.toNat =
        s.overwritten + (s.broker.overwrites c).toNat + (s.skipped + (s.broker.skips c).toNat) :=
      ⟨Law.counter, fun hc => ⟨hc, h.reports⟩⟩
    have hlaw := h.counter
    rw [Faithful, (s.broker.tally c).counted, hcounter]
    omega
  | droppedCount shared =>
    have hreports : (s.step (.droppedCount shared)).Law ↔
        (s.reports ++ [s.broker.droppedCount shared]).Pairwise (· ≤ ·) :=
      ⟨Law.reports, fun hr => ⟨h.counter, hr⟩⟩
    rw [Faithful, hreports, reports_droppedCount hb h.reports]

/-- In every run whose calls meet the condition the counter is the number of frames dropped and
never goes down. A call meets the condition exactly if this still holds after it. -/
theorem drops_counted (sha256 : Vector UInt8 32 → Vector UInt8 32) (config : RingConfig)
    (name : String) (identity token : Vector UInt8 32) (l : List Act) (s : Account)
    (h : Runs Faithful { broker := .create sha256 config name identity token } l s) :
    s.broker.droppedCountLocked.toNat = s.overwritten + s.skipped ∧
    s.reports.Pairwise (· ≤ ·) ∧
    ∀ a, s.Faithful a ↔ (s.step a).Law := by
  have hkept : s.Bounded ∧ s.Law := by
    refine h.invariant (I := fun s => s.Bounded ∧ s.Law) ?_ ?_
    · exact ⟨nofun, by simp [BrokerMapping.counter_create], .nil⟩
    · rintro x a y ⟨hb, hl⟩ ha hs
      cases hs
      exact ⟨bounded_step hb a, (law_step hb hl a).mp ha⟩
  exact ⟨hkept.2.counter, hkept.2.reports, law_step hkept.1 hkept.2⟩

instance (s : Account) : ∀ a, Decidable (s.Faithful a)
  | .call c => inferInstanceAs (Decidable (s.broker.Counted c))
  | .droppedCount _ => inferInstanceAs (Decidable (_ ∨ ∀ n ∈ _, _))

/-- A publish that finds the lock taken. -/
def contended (retry : OsResult) : Act :=
  .call (.publishWith (smallFrame 9) (.ofPayload [9, 9]) (.error ⟨true, "locked"⟩) retry (.ok ()))

theorem drops_counted_overwritten : ∃ s : Account, s.overwritten = 1 ∧ s.skipped = 1 ∧
    s.broker.droppedCountLocked.toNat = 2 ∧ s.reports = [0, 2] := by
  have hexec : ∃ s ∈ Machine.exec (fun s a => some (step s a)) Faithful { broker := fresh.broker }
      [.droppedCount (.ok ()), .call (published 1 [1, 1]), .call (published 2 [2, 2]),
        .call (published 3 [3, 3]), .call (published 4 [4, 4]), .call (published 5 [5, 5]),
        contended (.ok ()), .droppedCount (.ok ())],
      s.overwritten = 1 ∧ s.skipped = 1 ∧ s.reports = [0, 2] := by
    decide +kernel
  obtain ⟨s, hs, ho, hk, hr⟩ := hexec
  have hlaw := drops_counted id smallConfig "/robot-hal-00" (Vector.replicate 32 0)
    (Vector.replicate 32 0) _ s (Machine.runs_of_exec hs)
  exact ⟨s, ho, hk, by rw [hlaw.1, ho, hk], hr⟩

/-- A copier fails over a ready slot: a drop is counted and no frame was dropped. Then the counter
is read while its lock is taken. -/
theorem failed_publish_counts_drop :
    ∃ s ∈ Machine.exec (fun s a => some (step s a)) (fun _ _ => True) { broker := fresh.broker }
      [.call (published 1 [1, 1]), .call (published 2 [2, 2]), .call (published 3 [3, 3]),
        .call (published 4 [4, 4]),
        .call (.publishWith (smallFrame 5) spill (.ok ()) (.ok ()) (.ok ())),
        .droppedCount (.ok ()), .droppedCount (.error ⟨true, "locked"⟩)],
      s.overwritten = 0 ∧ s.skipped = 0 ∧ s.broker.droppedCountLocked = 1 ∧ s.reports = [1, 0] := by
  decide +kernel

end Account

end RobotHal.Ring
