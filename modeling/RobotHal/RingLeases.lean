import RobotHal.LatestWins
import RobotHal.RingSlots

/-!
The order in which frames are leased.

The ready slots of a ring are a shelf: a publish fills a free slot or the oldest ready one, a lease
takes the newest. So a lease is always for the newest frame not leased before. It is for an older
frame than the lease before it if no frame was committed in between and an older one is still
ready.
-/

namespace RobotHal.Ring

namespace BrokerMapping

/-- The frame a call leases, whether or not the call then succeeds. -/
def takes (b : BrokerMapping) : Call → Option FrameLease
  | .nextFrameLease lock _ | .acquire lock _ _ =>
    match lock, b.nextFrameLeaseLocked.2 with
    | .ok (), .ok lease => lease
    | _, _ => none
  | _ => none

/-- The lease a call of `next_frame_lease` returns. -/
def returns (b : BrokerMapping) : Call → Option FrameLease
  | .nextFrameLease lock unlock =>
    match (b.nextFrameLease lock unlock).2 with
    | .ok lease => lease
    | .error _ => none
  | _ => none

/-- The sequence of the frame in a slot, if it is ready. -/
def readySequence (b : BrokerMapping) (i : ℕ) : Option ℕ :=
  if i < b.config.slotCount ∧ b.slotState i = .ok .ready then
    some (b.slotSequence i).toNat else none

end BrokerMapping

/-- A ring and the sequences of the frames committed to it, leased from it and returned by
`next_frame_lease` so far. -/
structure Ledger where
  broker : BrokerMapping
  committed : List ℕ := []
  leased : List ℕ := []
  returned : List ℕ := []
  /-- a frame was committed since the last lease -/
  fresh : Bool := false

namespace Ledger

def step (s : Ledger) (c : Call) : Ledger where
  broker := s.broker.call c
  committed := s.committed ++ ((s.broker.commits c).map fun p => p.sequence.toNat).toList
  leased := s.leased ++ ((s.broker.takes c).map fun x => x.sequence.toNat).toList
  returned := s.returned ++ ((s.broker.returns c).map fun x => x.sequence.toNat).toList
  fresh := (s.fresh || (s.broker.commits c).isSome) && (s.broker.takes c).isNone

/-- A frame is leased only if one was committed since the last lease, or none is ready. -/
def Timely (s : Ledger) : Call → Prop
  | .nextFrameLease lock _ | .acquire lock _ _ =>
    lock = .ok () → (∃ i < s.broker.config.slotCount, s.broker.slotState i = .ok .ready) →
      s.fresh = true
  | _ => True

/-- The ready slots as a shelf. -/
def shelf (s : Ledger) : Shelf ℕ ℕ where
  ready := s.broker.readySequence
  committed := s.committed
  taken := s.leased
  fresh := s.fresh

/-- The runs of a ring. -/
abbrev Runs (ok : Ledger → Call → Prop) := Machine.Runs (fun s c => some (step s c)) ok

end Ledger

namespace BrokerMapping

variable {b b' : BrokerMapping} {i j : ℕ} {q : ℕ}

lemma readySequence_eq_some : b.readySequence i = some q ↔
    i < b.config.slotCount ∧ b.slotState i = .ok .ready ∧ (b.slotSequence i).toNat = q := by
  unfold readySequence
  split
  · rename_i h
    simp [h]
  · rename_i h
    simp only [reduceCtorEq, false_iff]
    exact fun hx => h ⟨hx.1, hx.2.1⟩

lemma readySequence_of_headerKept (h : HeaderKept b b' i) :
    b'.readySequence i = b.readySequence i := by
  rw [readySequence, readySequence, h.config, h.state, h.sequence]

lemma readySequence_unpinned (h : b.Orderly) (i : ℕ) :
    b.unpinned.readySequence i = b.readySequence i := by
  obtain ⟨hconfig, -, -, hseq, -⟩ := unpinned_fields b i
  unfold readySequence
  rw [hconfig, hseq]
  by_cases hi : i < b.config.slotCount
  · rcases h.slotState_unpinned hi with ⟨hs, hs'⟩ | ⟨hs, hs'⟩ <;> simp [hs, hs']
  · simp [hi]

lemma readySequence_repinned (h : b.Orderly) (i : ℕ) :
    (b.repinned i).readySequence = Function.update b.readySequence i none := by
  funext j
  rw [Function.update_apply]
  split
  · rename_i hj
    subst hj
    have hst : (b.repinned j).slotState j = .ok .pinned := slotState_writeSlotState_self _ _ _
    simp [readySequence, hst]
  · rename_i hj
    obtain ⟨hseq, hgen⟩ := slotFields_writeSlotState b.unpinned i j .pinned
    have hk : HeaderKept b.unpinned (b.repinned i) j :=
      ⟨rfl, slotState_writeSlotState_ne hj, hseq, hgen⟩
    rw [readySequence_of_headerKept hk, readySequence_unpinned h]

lemma oldest_of_select {s : Ledger} (hsel : s.broker.selectWritableSlot = .ok (some i)) :
    s.shelf.Oldest i := by
  intro p hp j q hq
  obtain ⟨hi, hst, rfl⟩ := readySequence_eq_some.mp hp
  obtain ⟨hj, hst', rfl⟩ := readySequence_eq_some.mp hq
  rcases (select_some hsel).2 with hfree | ⟨-, -, hmin⟩
  · rw [hst] at hfree
    cases hfree
  · exact UInt64.le_iff_toNat_le.mp (hmin j hj hst')

lemma newest_of_newest {s : Ledger} (h : s.broker.Newest i) :
    s.shelf.Newest i (s.broker.slotSequence i).toNat := by
  refine ⟨readySequence_eq_some.mpr ⟨h.lt, h.ready, rfl⟩, fun j p hp => ?_⟩
  obtain ⟨hj, hst, rfl⟩ := readySequence_eq_some.mp hp
  exact UInt64.le_iff_toNat_le.mp (h.max j hj hst)

end BrokerMapping

/-! ### A call on the shelf -/

namespace Ledger

open BrokerMapping

variable {s : Ledger} {c : Call}

/-- What a call does to the shelf of ready frames. -/
inductive Effect (s : Ledger) (c : Call) : Prop
  | idle (hs : (s.step c).shelf = s.shelf) (ht : s.broker.takes c = none)
  | put (i q : ℕ) (hi : s.shelf.Oldest i) (hs : (s.step c).shelf = s.shelf.put i q)
      (ht : s.broker.takes c = none)
  | take (i : ℕ) (hi : s.broker.Newest i) (ht : s.broker.takes c = some (s.broker.leaseOf i))
      (hs : (s.step c).shelf = s.shelf.take i (s.broker.slotSequence i).toNat)

lemma shelf_eq (hready : (s.broker.call c).readySequence = s.broker.readySequence)
    (hc : s.broker.commits c = none) (ht : s.broker.takes c = none) :
    (s.step c).shelf = s.shelf := by
  simp [shelf, step, hready, hc, ht]

lemma effect_publish (s : Ledger) (md : FrameMetadata) (copier : Copier)
    (lock retry unlock : OsResult) : s.Effect (.publishWith md copier lock retry unlock) := by
  set c : Call := .publishWith md copier lock retry unlock with hc
  have hcommits : s.broker.commits c =
      if validateDimensions md.format md.width md.height = .ok () ∧ lock = .ok () then
        s.broker.committed md copier
      else none := rfl
  by_cases hlocked : validateDimensions md.format md.width md.height = .ok () ∧ lock = .ok ()
  · have hcall : s.broker.call c = (s.broker.publishLockedWith md copier).1 := by
      obtain ⟨hd, rfl⟩ := hlocked
      simp only [hc, call, publishWith, hd, released_fst]
    rw [if_pos hlocked] at hcommits
    rcases publish_effect s.broker md copier with ⟨hs, hn⟩ | ⟨i, -, hothers, hslot, hn⟩ |
      ⟨i, p, hsel, hothers, hconfig, hstate, hseq, hp⟩
    · -- no slot was taken
      refine .idle (shelf_eq (funext fun j => ?_) (hcommits.trans hn) rfl) rfl
      rw [hcall]
      exact readySequence_of_headerKept (hs.spared j).headerKept
    · -- the copier failed
      refine .idle (shelf_eq (funext fun j => ?_) (hcommits.trans hn) rfl) rfl
      rw [hcall]
      by_cases hj : j = i
      · exact hj ▸ readySequence_of_headerKept hslot
      · exact readySequence_of_headerKept (hothers j hj).headerKept
    · -- the frame is committed
      refine .put i p.sequence.toNat (oldest_of_select hsel) ?_ rfl
      have hready : (s.broker.call c).readySequence =
          Function.update s.broker.readySequence i (some p.sequence.toNat) := by
        funext j
        rw [Function.update_apply, hcall]
        split
        · rename_i hj
          subst hj
          rw [readySequence_eq_some, hconfig, hseq]
          exact ⟨(select_some hsel).1, hstate, rfl⟩
        · rename_i hj
          exact readySequence_of_headerKept (hothers j hj).headerKept
      have htakes : s.broker.takes c = none := rfl
      simp [shelf, step, Shelf.put, hready, hcommits, hp, htakes]
  · rw [if_neg hlocked] at hcommits
    refine .idle (shelf_eq (funext fun j => ?_) hcommits rfl) rfl
    rcases s.broker.publishWith_cases md copier lock retry unlock with hs | ⟨hd, hl, -⟩
    · exact readySequence_of_headerKept (hs.spared j).headerKept
    · exact absurd ⟨hd, hl⟩ hlocked

lemma effect_lease (h : s.broker.Orderly)
    (hcall : s.broker.call c = s.broker.nextFrameLeaseLocked.1)
    (hcommits : s.broker.commits c = none)
    (htakes : ∀ x, s.broker.nextFrameLeaseLocked.2 = .ok x → s.broker.takes c = x) :
    s.Effect c := by
  rcases h.nextFrameLeaseLocked with ⟨-, hl⟩ | ⟨i, hi, hl⟩
  · have ht := htakes none (by rw [hl])
    rw [hl] at hcall
    refine .idle (shelf_eq (funext fun j => ?_) hcommits ht) ht
    rw [hcall]
    exact readySequence_unpinned h j
  · have ht := htakes (some (s.broker.leaseOf i)) (by rw [hl])
    rw [hl] at hcall
    refine .take i hi ht ?_
    have hready : (s.broker.call c).readySequence =
        Function.update s.broker.readySequence i none := by
      rw [hcall]
      exact readySequence_repinned h i
    simp [shelf, step, Shelf.take, hready, hcommits, ht, leaseOf]

theorem effect (h : s.broker.Orderly) (c : Call) : s.Effect c := by
  cases c with
  | publishWith md copier lock retry unlock => exact effect_publish s md copier lock retry unlock
  | nextFrameLease lock unlock =>
    rcases lock with e | u
    · exact .idle (shelf_eq rfl rfl rfl) rfl
    · refine effect_lease h (released_fst _ _ _) rfl fun x hx => ?_
      simp only [takes, hx]
  | releasePin lock unlock =>
    refine .idle (shelf_eq (funext fun j => ?_) rfl rfl) rfl
    rw [call]
    unfold releasePin
    split
    · rfl
    · rw [released_fst, h.releasePinLocked]
      exact readySequence_unpinned h j
  | acquire lock unlock shared =>
    rcases lock with e | u
    · exact .idle (shelf_eq rfl rfl rfl) rfl
    · refine effect_lease h ?_ rfl fun x hx => ?_
      · rw [call]
        unfold acquire
        dsimp only
        rcases s.broker.nextFrameLeaseLocked with ⟨b', e | lease⟩
        · rfl
        · dsimp only
          split
          · rfl
          · rfl
          · split <;> rfl
      · simp only [takes, hx]
  | close lock unlock unlink =>
    refine .idle (shelf_eq (funext fun j => ?_) rfl rfl) rfl
    exact readySequence_of_headerKept ((same_close _ lock unlock unlink).spared j).headerKept

lemma timely_iff (h : s.broker.Orderly) :
    s.Timely c ↔ ((s.broker.takes c).isSome = true → s.fresh = true) := by
  have key : (s.broker.nextFrameLeaseLocked.2 = .ok none ∧
        ¬ ∃ i < s.broker.config.slotCount, s.broker.slotState i = .ok .ready) ∨
      ∃ x, s.broker.nextFrameLeaseLocked.2 = .ok (some x) ∧
        ∃ i < s.broker.config.slotCount, s.broker.slotState i = .ok .ready := by
    rcases h.nextFrameLeaseLocked with ⟨hno, hl⟩ | ⟨i, hi, hl⟩
    · exact .inl ⟨by rw [hl], fun ⟨i, hlt, hst⟩ => hno i hlt hst⟩
    · exact .inr ⟨s.broker.leaseOf i, by rw [hl], i, hi.lt, hi.ready⟩
  cases c with
  | nextFrameLease lock unlock | acquire lock unlock shared =>
    rcases lock with e | u
    · simp [Timely, takes]
    · rcases key with ⟨hl, hno⟩ | ⟨x, hl, hyes⟩
      · simp only [Timely, takes, hl]
        simp [hno]
      · simp only [Timely, takes, hl]
        simp [hyes]
  | publishWith | releasePin | close => simp [Timely, takes]

lemma returns_le_takes (b : BrokerMapping) (c : Call) (lease : FrameLease)
    (h : b.returns c = some lease) : b.takes c = some lease := by
  cases c with
  | nextFrameLease lock unlock =>
    rcases lock with e | u
    · cases h
    rcases unlock with e | u
    · cases h
    simp only [returns, nextFrameLease, released] at h
    simp only [takes]
    cases hl : b.nextFrameLeaseLocked.2 with
    | error e => simp [hl] at h
    | ok x => simpa [hl] using h
  | publishWith | releasePin | acquire | close => cases h

/-! ### A run -/

/-- What holds of a ring in every run. -/
structure Kept (s : Ledger) : Prop where
  orderly : s.broker.Orderly
  shelf : s.committed.Pairwise (· < ·) → s.shelf.Inv
  returned : s.returned.Sublist s.leased

lemma committed_of_step (h : (s.step c).committed.Pairwise (· < ·)) :
    s.committed.Pairwise (· < ·) :=
  (List.pairwise_append.mp h).1

lemma kept_step (h : s.Kept) (c : Call) : (s.step c).Kept where
  orderly := h.orderly.call c
  shelf hc := by
    have hinv := h.shelf (committed_of_step hc)
    rcases effect h.orderly c with ⟨hs, -⟩ | ⟨i, q, hi, hs, -⟩ | ⟨i, hi, -, hs⟩
    · exact hs ▸ hinv
    · have hq : (s.step c).committed = s.committed ++ [q] := congrArg Shelf.committed hs
      rw [hq] at hc
      rw [hs]
      refine hinv.put hi fun p hp => ?_
      exact (List.pairwise_append.mp hc).2.2 p hp q (List.mem_singleton_self q)
    · rw [hs]
      exact hinv.take (newest_of_newest hi)
  returned := by
    refine h.returned.append ?_
    cases hr : s.broker.returns c with
    | none => exact List.nil_sublist _
    | some lease => rw [returns_le_takes _ _ _ hr]

lemma kept_create (sha256 : Vector UInt8 32 → Vector UInt8 32) (config : RingConfig)
    (name : String) (identity token : Vector UInt8 32) :
    Kept { broker := create sha256 config name identity token } where
  orderly := orderly_create sha256 config name identity token
  shelf _ := by
    have hnone : ∀ i q,
        (create sha256 config name identity token).readySequence i ≠ some q := by
      intro i q hq
      obtain ⟨-, hst, -⟩ := readySequence_eq_some.mp hq
      rw [slotState_create] at hst
      cases hst
    exact ⟨fun i q hq => absurd hq (hnone i q), fun i _ q hq => absurd hq (hnone i q), nofun, nofun,
      nofun, nofun⟩
  returned := List.nil_sublist _

lemma leased_step (h : s.Kept) (hl : s.committed.Pairwise (· < ·) → s.leased.Pairwise (· < ·))
    (ht : s.Timely c) (hc : (s.step c).committed.Pairwise (· < ·)) :
    (s.step c).leased.Pairwise (· < ·) := by
  have hc' := committed_of_step hc
  rcases effect h.orderly c with ⟨-, hn⟩ | ⟨-, -, -, -, hn⟩ | ⟨i, hi, hx, -⟩
  · simpa [step, hn] using hl hc'
  · simpa [step, hn] using hl hc'
  · -- a new lease is of a newer frame
    have hfresh := (timely_iff h.orderly).mp ht (by simp [hx])
    have hlt := ((h.shelf hc').fresh_iff (newest_of_newest hi)).mp hfresh
    simp only [step, hx, Option.map_some, Option.toList_some]
    refine List.pairwise_append.mpr ⟨hl hc', List.pairwise_singleton _ _, fun p hp q hq => ?_⟩
    rw [List.mem_singleton.mp hq]
    exact hlt p hp

/-- If every lease is made in time, `next_frame_lease` returns ever newer frames, each the newest
one not leased before. A lease is in time exactly if it is for a newer frame than all before it. -/
theorem leases_latest_wins (sha256 : Vector UInt8 32 → Vector UInt8 32) (config : RingConfig)
    (name : String) (identity token : Vector UInt8 32) (l : List Call) (s : Ledger)
    (h : Runs Timely { broker := create sha256 config name identity token } l s)
    (hc : s.committed.Pairwise (· < ·)) :
    s.returned.Pairwise (· < ·) ∧
    (∀ c lease, s.broker.returns c = some lease → lease.sequence.toNat ∈ s.committed ∧
      lease.sequence.toNat ∉ s.leased ∧
      ∀ q ∈ s.committed, q ∉ s.leased → q ≤ lease.sequence.toNat) ∧
    ∀ c, s.Timely c ↔ ∀ lease, s.broker.takes c = some lease →
      ∀ q ∈ s.leased, q < lease.sequence.toNat := by
  have hkept : s.Kept ∧ (s.committed.Pairwise (· < ·) → s.leased.Pairwise (· < ·)) := by
    refine h.invariant (I := fun s => s.Kept ∧
      (s.committed.Pairwise (· < ·) → s.leased.Pairwise (· < ·))) ?_ ?_
    · exact ⟨kept_create sha256 config name identity token, fun _ => .nil⟩
    · rintro a c b ⟨hk, hl⟩ ht hs
      cases hs
      exact ⟨kept_step hk c, leased_step hk hl ht⟩
  obtain ⟨hk, hl⟩ := hkept
  have hinv := hk.shelf hc
  refine ⟨(hl hc).sublist hk.returned, fun c lease hr => ?_, fun c => ?_⟩
  · have ht := returns_le_takes _ _ _ hr
    rcases effect hk.orderly c with ⟨-, hn⟩ | ⟨-, -, -, -, hn⟩ | ⟨i, hi, hx, -⟩
    · rw [hn] at ht
      cases ht
    · rw [hn] at ht
      cases ht
    · have hseq : lease.sequence = s.broker.slotSequence i := by
        rw [Option.mem_unique ht hx]
        rfl
      rw [hseq]
      exact hinv.newest (newest_of_newest hi)
  · rw [timely_iff hk.orderly]
    rcases effect hk.orderly c with ⟨-, hn⟩ | ⟨-, -, -, -, hn⟩ | ⟨i, hi, hx, -⟩
    · simp [hn]
    · simp [hn]
    · rw [hx]
      refine Iff.trans ?_ ((hinv.fresh_iff (newest_of_newest hi)).trans ?_)
      · simp [shelf]
      · simp only [Option.some.injEq, forall_eq']
        exact Iff.rfl

instance (s : Ledger) : ∀ c, Decidable (s.Timely c)
  | .nextFrameLease lock _ | .acquire lock _ _ => inferInstanceAs (Decidable (lock = .ok () →
      (∃ i < s.broker.config.slotCount, s.broker.slotState i = .ok .ready) → s.fresh = true))
  | .publishWith .. | .releasePin .. | .close .. => inferInstanceAs (Decidable True)

theorem leases_latest_wins_alternating :
    ∃ s : Ledger, s.returned = [1, 2] ∧ s.returned.Pairwise (· < ·) := by
  have hexec : ∃ s ∈ Machine.exec (fun s c => some (step s c)) Timely
      { broker := Ring.fresh.broker }
      [published 1 [7, 7], Ring.leased, published 2 [8, 8], Ring.leased],
      s.returned = [1, 2] ∧ s.committed.Pairwise (· < ·) := by
    decide +kernel
  obtain ⟨s, hs, hr, hc⟩ := hexec
  exact ⟨s, hr, (leases_latest_wins id smallConfig "/robot-hal-00" (Vector.replicate 32 0)
    (Vector.replicate 32 0) _ s (Machine.runs_of_exec hs) hc).1⟩

/-- Two frames are published before the first is leased: the older one is leased after the newer. -/
theorem older_frame_after_newer :
    ∃ s ∈ Machine.exec (fun s c => some (step s c)) (fun _ _ => True)
      { broker := Ring.fresh.broker }
      [published 1 [7, 7], published 2 [8, 8], Ring.leased, Ring.leased],
      s.committed = [1, 2] ∧ s.returned = [2, 1] := by
  decide +kernel

end Ledger

end RobotHal.Ring
