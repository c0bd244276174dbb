import RobotHal.CanValues
import RobotHal.Search

/-!
Bit timing of the PCAN adapter: the search for an exact timing, and timings read back from the
driver.

The driver's clock runs at 80 MHz. Its default sample points are not part of the adapter.
-/

namespace RobotHal

/-- `Display` of an error. -/
def HalError.display (e : HalError) : String :=
  e.name ++ " during " ++ e.operation ++ ": " ++ e.debugMessage

namespace Pcan

inductive DriverError
  | unsupported (message : String)
  | unsupportedFrame (message : String)
  | invalidFrame (message : String)
deriving DecidableEq

def pcanClockHz : ℕ := 80000000

/-- The fields are `u32`. -/
structure PcanPhaseTiming where
  brp : ℕ
  tseg1 : ℕ
  tseg2 : ℕ
  sjw : ℕ
deriving DecidableEq

def PcanPhaseTiming.totalTq (t : PcanPhaseTiming) : ℕ := 1 + t.tseg1 + t.tseg2

structure PcanFdTiming where
  nominal : PcanPhaseTiming
  data : PcanPhaseTiming
deriving DecidableEq

inductive TimingPhase
  | nominal
  | data
deriving DecidableEq

def TimingPhase.maxTseg1 : TimingPhase → ℕ
  | .nominal => 256
  | .data => 32

def TimingPhase.maxTseg2 : TimingPhase → ℕ
  | .nominal => 128
  | .data => 16

def TimingPhase.preferredTq : TimingPhase → ℕ
  | .nominal => 20
  | .data => 10

/-! ### The search -/

section Search

variable (default : TimingPhase → UInt16) (timing : CanBitTiming) (phase : TimingPhase)

def samplePoint : UInt16 := timing.samplePointPermill.getD (default phase)

def chosenSjw (tseg1 tseg2 : ℕ) : ℕ :=
  (timing.sjw.map UInt16.toNat).getD (min (min tseg1 tseg2) 4)

/-- `u32::abs_diff` to the preferred number of quanta. -/
def distance (t : PcanPhaseTiming) : ℕ :=
  max t.totalTq phase.preferredTq - min t.totalTq phase.preferredTq

/-- A turn of the inner loop of `exact_phase`. -/
def tryTseg2 (totalTq brp : ℕ) (best : Option (ℕ × PcanPhaseTiming)) (tseg2 : ℕ) :
    Option (ℕ × PcanPhaseTiming) :=
  let tseg1 := totalTq - 1 - tseg2
  if tseg1 = 0 ∨ tseg1 > phase.maxTseg1 then best
  else if (1 + tseg1) * 1000 ≠ (samplePoint default timing phase).toNat * totalTq then best
  else
    let sjw := chosenSjw timing tseg1 tseg2
    if sjw = 0 ∨ sjw > tseg1 ∨ sjw > tseg2 then best
    else
      let candidate : PcanPhaseTiming := ⟨brp, tseg1, tseg2, sjw⟩
      if best.all fun x => distance phase candidate < x.1 then
        some (distance phase candidate, candidate)
      else best

/-- A turn of the outer loop. -/
def tryTotalTq (divisor : ℕ) (best : Option (ℕ × PcanPhaseTiming)) (totalTq : ℕ) :
    Option (ℕ × PcanPhaseTiming) :=
  if divisor % totalTq ≠ 0 then best
  else
    let brp := divisor / totalTq
    if brp = 0 ∨ brp > 1024 then best
    else (List.range' 2 (min phase.maxTseg2 (totalTq - 2) - 1)).foldl
      (tryTseg2 default timing phase totalTq brp) best

def exactPhase : Except DriverError PcanPhaseTiming :=
  let sp := samplePoint default timing phase
  let bitrate := timing.bitrate.toNat
  if ¬(500 ≤ sp ∧ sp ≤ 950) then
    .error (.unsupported ("PCAN sample point " ++ toString sp ++ " permill is outside 500..=950"))
  else if bitrate = 0 ∨ pcanClockHz % bitrate ≠ 0 then
    .error (.unsupported
      ("PCAN cannot represent bitrate " ++ toString bitrate ++ " exactly at 80 MHz"))
  else
    let divisor := pcanClockHz / bitrate
    match (List.range' 3 (min (1 + phase.maxTseg1 + phase.maxTseg2) divisor - 2)).foldl
      (tryTotalTq default timing phase divisor) none with
    | some (_, t) => .ok t
    | none => .error (.unsupported ("PCAN cannot represent bitrate " ++ toString bitrate ++
        ", sample point " ++ toString sp ++ " permill, and SJW " ++
        (match timing.sjw with
          | some sjw => "Some(" ++ toString sjw ++ ")"
          | none => "None") ++ " exactly"))

/-- A timing within the registers' bounds, with the requested sample point and the chosen jump
width. -/
structure Suits (t : PcanPhaseTiming) : Prop where
  brp : 1 ≤ t.brp ∧ t.brp ≤ 1024
  tseg1 : 1 ≤ t.tseg1 ∧ t.tseg1 ≤ phase.maxTseg1
  tseg2 : 2 ≤ t.tseg2 ∧ t.tseg2 ≤ phase.maxTseg2
  sjw : t.sjw = chosenSjw timing t.tseg1 t.tseg2
  sjw_le : 1 ≤ t.sjw ∧ t.sjw ≤ min t.tseg1 t.tseg2
  sample : (1 + t.tseg1) * 1000 = (samplePoint default timing phase).toNat * t.totalTq

/-- The timing gives exactly what was asked for. -/
structure Solves (t : PcanPhaseTiming) : Prop extends Suits default timing phase t where
  range : 500 ≤ samplePoint default timing phase ∧ samplePoint default timing phase ≤ 950
  rate : t.brp * t.totalTq * timing.bitrate.toNat = pcanClockHz

end Search

section Found

variable {default : TimingPhase → UInt16} {timing : CanBitTiming} {phase : TimingPhase}
  {met : PcanPhaseTiming → Prop} {best : Option (ℕ × PcanPhaseTiming)}

lemma least_tryTseg2 {totalTq brp tseg2 : ℕ} (hbrp : 1 ≤ brp ∧ brp ≤ 1024)
    (h2 : 2 ≤ tseg2 ∧ tseg2 ≤ phase.maxTseg2) (htq : tseg2 + 2 ≤ totalTq)
    (h : Least (distance phase) met best) :
    Least (distance phase) (fun t => met t ∨ (Suits default timing phase t ∧ t.brp = brp ∧
      t.totalTq = totalTq) ∧ t.tseg2 = tseg2)
        (tryTseg2 default timing phase totalTq brp best tseg2) := by
  -- the two segments determine each other
  have hseg {t : PcanPhaseTiming} (ht : t.totalTq = totalTq) (h2 : t.tseg2 = tseg2) :
      t.tseg1 = totalTq - 1 - tseg2 := by
    unfold PcanPhaseTiming.totalTq at ht
    omega
  have htotal : 1 + (totalTq - 1 - tseg2) + tseg2 = totalTq := by omega
  unfold tryTseg2
  dsimp only
  split
  · refine h.skip ?_
    rintro t ⟨⟨hs, -, ht⟩, h2⟩
    have := hs.tseg1
    rw [hseg ht h2] at this
    omega
  rename_i h1
  split
  · rename_i hsample
    refine h.skip ?_
    rintro t ⟨⟨hs, -, ht⟩, h2⟩
    have := hs.sample
    rw [hseg ht h2, ht] at this
    exact hsample this
  rename_i hsample
  split
  · rename_i hsjw
    refine h.skip ?_
    rintro t ⟨⟨hs, -, ht⟩, h2⟩
    have hle := hs.sjw_le
    rw [hs.sjw, hseg ht h2, h2] at hle
    omega
  rename_i hsjw
  refine (h.offer _).congr fun t => or_congr_right ?_
  constructor
  · rintro rfl
    refine ⟨⟨⟨hbrp, ?_, h2, rfl, ?_, ?_⟩, rfl, htotal⟩, rfl⟩
    · dsimp only
      omega
    · dsimp only
      omega
    · rw [PcanPhaseTiming.totalTq, htotal]
      exact not_not.mp hsample
  · rintro ⟨⟨hs, rfl, ht⟩, rfl⟩
    have hsjw := hs.sjw
    have h1 := hseg ht rfl
    rw [h1] at hsjw
    obtain ⟨b, s1, s2, j⟩ := t
    simp_all

lemma least_tryTotalTq {divisor totalTq : ℕ} (h3 : 3 ≤ totalTq)
    (h : Least (distance phase) met best) :
    Least (distance phase) (fun t => met t ∨ (Suits default timing phase t ∧
      t.brp * t.totalTq = divisor) ∧ t.totalTq = totalTq)
      (tryTotalTq default timing phase divisor best totalTq) := by
  have hpos : 0 < totalTq := by omega
  unfold tryTotalTq
  split
  · rename_i hdvd
    refine h.skip ?_
    rintro t ⟨⟨-, rfl⟩, rfl⟩
    exact hdvd (Nat.mul_mod_left ..)
  rename_i hdvd
  obtain ⟨brp, rfl⟩ := Nat.dvd_of_mod_eq_zero (not_not.mp hdvd)
  rw [Nat.mul_div_cancel_left brp hpos]
  dsimp only
  have hbrp {t : PcanPhaseTiming} (hrate : t.brp * t.totalTq = totalTq * brp)
      (ht : t.totalTq = totalTq) : t.brp = brp := by
    rw [ht, mul_comm] at hrate
    exact Nat.eq_of_mul_eq_mul_left hpos hrate
  split
  · refine h.skip ?_
    rintro t ⟨⟨hs, hrate⟩, ht⟩
    have := hs.brp
    rw [hbrp hrate ht] at this
    omega
  rename_i hb
  have hb : 1 ≤ brp ∧ brp ≤ 1024 := by omega
  refine (Least.foldl (fun tseg2 t => (Suits default timing phase t ∧ t.brp = brp ∧
    t.totalTq = totalTq) ∧ t.tseg2 = tseg2) (fun met best tseg2 hmem h => ?_) h).congr ?_
  · rw [List.mem_range'_1] at hmem
    exact least_tryTseg2 hb (by omega) (by omega) h
  · intro t
    refine or_congr_right ⟨?_, ?_⟩
    · rintro ⟨tseg2, -, ⟨hs, rfl, rfl⟩, -⟩
      exact ⟨⟨hs, mul_comm ..⟩, rfl⟩
    · rintro ⟨⟨hs, hrate⟩, ht⟩
      refine ⟨t.tseg2, ?_, ⟨hs, hbrp hrate ht, ht⟩, rfl⟩
      have h1 := hs.tseg1
      have h2 := hs.tseg2
      rw [List.mem_range'_1]
      unfold PcanPhaseTiming.totalTq at ht
      omega

/-- The search meets every timing that suits. -/
lemma least_search (divisor : ℕ) :
    Least (distance phase) (fun t => Suits default timing phase t ∧ t.brp * t.totalTq = divisor)
      ((List.range' 3 (min (1 + phase.maxTseg1 + phase.maxTseg2) divisor - 2)).foldl
        (tryTotalTq default timing phase divisor) none) := by
  have hnone : Least (distance phase) (fun _ => False) none := fun _ => id
  refine (hnone.foldl (fun totalTq t => (Suits default timing phase t ∧
    t.brp * t.totalTq = divisor) ∧ t.totalTq = totalTq) fun met best totalTq hmem h => ?_).congr ?_
  · rw [List.mem_range'_1] at hmem
    exact least_tryTotalTq hmem.1 h
  · intro t
    constructor
    · rintro (hf | ⟨totalTq, -, ht, -⟩)
      · exact hf.elim
      · exact ht
    · rintro ⟨hs, hrate⟩
      refine .inr ⟨t.totalTq, ?_, ⟨hs, hrate⟩, rfl⟩
      have h1 := hs.tseg1
      have h2 := hs.tseg2
      have hle : t.totalTq ≤ divisor := hrate ▸ Nat.le_mul_of_pos_left _ hs.brp.1
      rw [List.mem_range'_1]
      unfold PcanPhaseTiming.totalTq at hle ⊢
      omega

end Found

/-! ### Timings read back -/

/-- A `u32` operation with the result `n`. With overflow checks compiled in, an overflow panics. -/
def u32 (overflowChecks : Bool) (n : ℕ) : Option ℕ :=
  if overflowChecks ∧ 2 ^ 32 ≤ n then none else some (n % 2 ^ 32)

/-- `u16::try_from`. -/
def toU16 (n : ℕ) : Option UInt16 := if n < 2 ^ 16 then some (UInt16.ofNat n) else none

/-- The end of `timing_to_public`, once the divisor is known to be exact. -/
def publish (t : PcanPhaseTiming) (totalTq numerator : ℕ) : Except DriverError CanBitTiming :=
  let sample := if numerator % totalTq = 0 then toU16 (numerator / totalTq) else none
  (CanBitTiming.new (UInt32.ofNat (pcanClockHz / (t.brp * totalTq))) sample
    (toU16 t.sjw)).mapError fun e => .unsupported e.display

/-- `timing_to_public` once the quanta are counted; `none` is a panic. -/
def publicOf (overflowChecks : Bool) (t : PcanPhaseTiming) (totalTq : ℕ) :
    Option (Except DriverError CanBitTiming) :=
  let divisor := t.brp * totalTq
  if 2 ^ 32 ≤ divisor then
    some (.error (.unsupported "PCAN FD timing divisor overflowed"))
  else if divisor = 0 ∨ pcanClockHz % divisor ≠ 0 then
    some (.error (.unsupported "PCAN FD timing does not represent an exact bitrate"))
  else do
    let tseg1 ← u32 overflowChecks (1 + t.tseg1)
    let numerator ← u32 overflowChecks (tseg1 * 1000)
    some (publish t totalTq numerator)

def timingToPublic (overflowChecks : Bool) (t : PcanPhaseTiming) :
    Option (Except DriverError CanBitTiming) := do
  let tseg1 ← u32 overflowChecks (1 + t.tseg1)
  let totalTq ← u32 overflowChecks (tseg1 + t.tseg2)
  publicOf overflowChecks t totalTq

/-- `char::is_whitespace`. -/
def isWhitespace (c : Char) : Bool :=
  let n := c.toNat
  (9 ≤ n && n ≤ 13) || (0x2000 ≤ n && n ≤ 0x200a) ||
    n ∈ [0x20, 0x85, 0xa0, 0x1680, 0x2028, 0x2029, 0x202f, 0x205f, 0x3000]

def trim (l : List Char) : List Char :=
  ((l.dropWhile isWhitespace).reverse.dropWhile isWhitespace).reverse

/-- `str::split_once`. -/
def splitOnce (c : Char) (l : List Char) : Option (List Char × List Char) :=
  match l.span (· ≠ c) with
  | (a, _ :: b) => some (a, b)
  | (_, []) => none

/-- `str::parse::<u32>`. -/
def parseU32 (l : List Char) : Option ℕ :=
  let digits : List Char := match l with
    | '+' :: rest => rest
    | l => l
  let n := digits.foldl (fun n c => 10 * n + (c.toNat - 48)) 0
  if digits ≠ [] ∧ digits.all Char.isDigit ∧ n < 2 ^ 32 then some n else none

def parseFdTiming (value : String) : Except DriverError PcanFdTiming := do
  let fields := (value.toList.splitOn ',').filterMap fun item =>
    (splitOnce '=' (trim item)).map fun kv => (trim kv.1, trim kv.2)
  -- a later entry takes the place of an earlier one
  let get (name : String) := (fields.reverse.find? fun kv => kv.1 = name.toList).map Prod.snd
  if ¬(get "f_clock_mhz" = some "80".toList ∨ get "f_clock" = some "80000000".toList) then
    .error (.unsupported "active PCAN FD timing does not use the supported 80 MHz clock")
  else
    let field (name : String) := okOr ((get name).bind parseU32)
      (.unsupported ("active PCAN FD timing is missing or invalid: " ++ name))
    let nominal : PcanPhaseTiming := ⟨← field "nom_brp", ← field "nom_tseg1",
      ← field "nom_tseg2", ← field "nom_sjw"⟩
    let data : PcanPhaseTiming := ⟨← field "data_brp", ← field "data_tseg1",
      ← field "data_tseg2", ← field "data_sjw"⟩
    .ok ⟨nominal, data⟩

/-- No `u32` operation on the way overflows. The numerator of the sample point is only computed
for an exact bitrate. -/
def PcanPhaseTiming.InRange (t : PcanPhaseTiming) : Prop :=
  t.totalTq < 2 ^ 32 ∧ (t.brp * t.totalTq ∣ pcanClockHz → (1 + t.tseg1) * 1000 < 2 ^ 32)

section Public

variable {t : PcanPhaseTiming} {overflowChecks : Bool}

lemma u32_eq {n : ℕ} (h : n < 2 ^ 32) : u32 overflowChecks n = some n := by
  rw [u32, if_neg (by omega), Nat.mod_eq_of_lt h]

lemma divisor_exact_iff {n : ℕ} :
    ¬2 ^ 32 ≤ n ∧ ¬(n = 0 ∨ pcanClockHz % n ≠ 0) ↔ n ∣ pcanClockHz := by
  constructor
  · rintro ⟨-, h⟩
    exact Nat.dvd_of_mod_eq_zero (not_not.mp fun hn => h (.inr hn))
  · intro h
    have hle := Nat.le_of_dvd (by decide) h
    have hpos := Nat.pos_of_dvd_of_pos h (by decide)
    unfold pcanClockHz at hle
    refine ⟨by omega, ?_⟩
    rintro (h0 | hmod)
    · omega
    · exact hmod (Nat.mod_eq_zero_of_dvd h)

lemma timingToPublic_eq (h : 1 + t.tseg1 < 2 ^ 32) : timingToPublic overflowChecks t =
    (u32 overflowChecks t.totalTq).bind (publicOf overflowChecks t) := by
  simp only [timingToPublic, u32_eq h, Option.bind_eq_bind, Option.bind_some]
  rfl

lemma timingToPublic_inRange (overflowChecks : Bool) (h : t.InRange) :
    ∃ r, timingToPublic overflowChecks t = some r ∧
    ∀ x, r = .ok x ↔ t.brp * t.totalTq ∣ pcanClockHz ∧
      publish t t.totalTq ((1 + t.tseg1) * 1000) = .ok x := by
  obtain ⟨htotal, hnum⟩ := h
  have hone : 1 + t.tseg1 < 2 ^ 32 := by
    unfold PcanPhaseTiming.totalTq at htotal
    omega
  rw [timingToPublic_eq hone, u32_eq htotal, Option.bind_some, publicOf]
  simp only [u32_eq hone, Option.bind_eq_bind, Option.bind_some]
  by_cases hdvd : t.brp * t.totalTq ∣ pcanClockHz
  · obtain ⟨h1, h2⟩ := divisor_exact_iff.mpr hdvd
    rw [if_neg h1, if_neg h2, u32_eq (hnum hdvd)]
    exact ⟨_, rfl, fun x => (and_iff_right hdvd).symm⟩
  · have hnot : ¬(¬2 ^ 32 ≤ _ ∧ ¬_) := fun h => hdvd (divisor_exact_iff.mp h)
    by_cases h1 : 2 ^ 32 ≤ t.brp * t.totalTq
    · rw [if_pos h1]
      exact ⟨_, rfl, fun x => ⟨nofun, fun h => absurd h.1 hdvd⟩⟩
    · rw [if_neg h1, if_pos (not_not.mp fun h2 => hnot ⟨h1, h2⟩)]
      exact ⟨_, rfl, fun x => ⟨nofun, fun h => absurd h.1 hdvd⟩⟩

lemma isSome_timingToPublic_iff : (timingToPublic true t).isSome ↔ t.InRange := by
  constructor
  · intro h
    have hu32 {n : ℕ} (hn : 2 ^ 32 ≤ n) : u32 true n = none := if_pos ⟨rfl, hn⟩
    have hone : 1 + t.tseg1 < 2 ^ 32 := by
      by_contra hn
      simp [timingToPublic, hu32 (not_lt.mp hn)] at h
    have htotal : t.totalTq < 2 ^ 32 := by
      by_contra hn
      simp [timingToPublic_eq hone, hu32 (not_lt.mp hn)] at h
    refine ⟨htotal, fun hdvd => ?_⟩
    by_contra hn
    obtain ⟨h1, h2⟩ := divisor_exact_iff.mpr hdvd
    rw [timingToPublic_eq hone, u32_eq htotal, Option.bind_some, publicOf, if_neg h1,
      if_neg h2] at h
    simp [u32_eq hone, hu32 (not_lt.mp hn)] at h
  · intro h
    obtain ⟨r, hr, -⟩ := timingToPublic_inRange true h
    simp [hr]

lemma of_publish {x : CanBitTiming} (hdvd : t.brp * t.totalTq ∣ pcanClockHz)
    (h : publish t t.totalTq ((1 + t.tseg1) * 1000) = .ok x) :
    x.bitrate.toNat * t.brp * t.totalTq = pcanClockHz ∧
      ∀ s ∈ x.samplePointPermill, s.toNat * t.totalTq = (1 + t.tseg1) * 1000 := by
  obtain ⟨-, rfl⟩ := CanBitTiming.new_eq_ok.mp (mapError_eq_ok.mp h)
  constructor
  · have hlt : pcanClockHz / (t.brp * t.totalTq) < 2 ^ 32 :=
      (Nat.div_le_self ..).trans_lt (by decide)
    rw [UInt32.toNat_ofNat_of_lt' hlt, mul_assoc, Nat.div_mul_cancel hdvd]
  · intro s hs
    dsimp only at hs
    split at hs
    · rename_i hmod
      unfold toU16 at hs
      split at hs
      · rename_i hlt
        cases hs
        rw [UInt16.toNat_ofNat_of_lt' hlt, Nat.div_mul_cancel (Nat.dvd_of_mod_eq_zero hmod)]
      · cases hs
    · cases hs

end Public

section Exact

variable {default : TimingPhase → UInt16} {timing : CanBitTiming} {phase : TimingPhase}

/-- For an admissible request the timings that solve it are those of one divisor of the clock. -/
lemma solves_iff {t : PcanPhaseTiming}
    (hrange : 500 ≤ samplePoint default timing phase ∧ samplePoint default timing phase ≤ 950)
    (hrate : ¬(timing.bitrate.toNat = 0 ∨ pcanClockHz % timing.bitrate.toNat ≠ 0)) :
    Suits default timing phase t ∧ t.brp * t.totalTq = pcanClockHz / timing.bitrate.toNat ↔
      Solves default timing phase t := by
  obtain ⟨hne, hmod⟩ := not_or.mp hrate
  constructor
  · rintro ⟨hs, hdiv⟩
    refine ⟨hs, hrange, ?_⟩
    rw [hdiv, Nat.div_mul_cancel (Nat.dvd_of_mod_eq_zero (not_not.mp hmod))]
  · intro h
    have hpos : 0 < timing.bitrate.toNat := Nat.pos_of_ne_zero hne
    exact ⟨h.toSuits, (Nat.div_eq_of_eq_mul_left hpos h.rate.symm).symm⟩

lemma exactPhase_spec : match exactPhase default timing phase with
    | .ok t => Solves default timing phase t ∧
        ∀ t', Solves default timing phase t' → distance phase t ≤ distance phase t'
    | .error _ => ∀ t, ¬Solves default timing phase t := by
  unfold exactPhase
  dsimp only
  split_ifs with hrange hrate
  · intro t h
    have hrate' := h.rate
    rcases hrate with h0 | hmod
    · rw [h0, mul_zero] at hrate'
      cases hrate'
    · exact hmod (hrate' ▸ Nat.mul_mod_left ..)
  · have hleast := (least_search (pcanClockHz / timing.bitrate.toNat)).congr
      fun t => solves_iff hrange hrate
    generalize List.foldl _ _ _ = best at hleast ⊢
    cases best with
    | some best => exact ⟨hleast.1, hleast.2.2⟩
    | none => exact hleast
  · exact fun t h => hrange h.range

/-- A timing that was found is made public as it was requested. -/
lemma Solves.timingToPublic {t : PcanPhaseTiming} (h : Solves default timing phase t)
    (overflowChecks : Bool) : timingToPublic overflowChecks t = some (.ok
      ⟨timing.bitrate, some (samplePoint default timing phase), some (UInt16.ofNat t.sjw)⟩) := by
  obtain ⟨hs, hrange, hrate⟩ := h
  have h1 : t.tseg1 ≤ 256 := hs.tseg1.2.trans (by cases phase <;> decide)
  have h2 : t.tseg2 ≤ 128 := hs.tseg2.2.trans (by cases phase <;> decide)
  have htotal : t.totalTq = 1 + t.tseg1 + t.tseg2 := rfl
  have hdvd : t.brp * t.totalTq ∣ pcanClockHz := ⟨_, hrate.symm⟩
  have hin : t.InRange := ⟨by omega, fun _ => by omega⟩
  obtain ⟨r, hr, hok⟩ := timingToPublic_inRange overflowChecks hin
  rw [hr, (hok _).mpr ⟨hdvd, ?_⟩]
  have hpos : 0 < t.brp * t.totalTq := Nat.mul_pos hs.brp.1 (by omega)
  have hbitrate : pcanClockHz / (t.brp * t.totalTq) = timing.bitrate.toNat :=
    Nat.div_eq_of_eq_mul_right hpos hrate.symm
  have hne : timing.bitrate ≠ 0 := by
    rintro h0
    rw [h0] at hrate
    cases hrate
  have hsample : (samplePoint default timing phase).toNat < 2 ^ 16 := UInt16.toNat_lt ..
  have hsjw := hs.sjw_le
  have hlt : t.sjw < 2 ^ 16 := by omega
  have hsjw' : UInt16.ofNat t.sjw ≠ 0 := by
    intro h0
    have hzero := congrArg UInt16.toNat h0
    rw [UInt16.toNat_ofNat_of_lt' hlt, UInt16.toNat_zero] at hzero
    omega
  simp only [publish, hbitrate, hs.sample, Nat.mul_mod_left, if_true,
    Nat.mul_div_cancel _ (show 0 < t.totalTq by omega), toU16, hsample,
    hlt, UInt16.ofNat_toNat, UInt32.ofNat_toNat]
  rw [CanBitTiming.new, if_neg hne, if_neg, if_neg]
  · rfl
  · simpa using hsjw'
  · obtain ⟨hlo, hhi⟩ := hrange
    rw [UInt16.le_iff_toNat_le] at hlo hhi
    simp [UInt16.le_iff_toNat_le] at hlo hhi ⊢
    omega

end Exact

/-- **Exact bit timing.** The search succeeds if and only if the request can be met exactly. What it
returns meets the request with the number of quanta nearest to the preferred one, and is made public
as it was requested. -/
theorem exact_phase_optimal (default : TimingPhase → UInt16) (timing : CanBitTiming)
    (phase : TimingPhase) :
    ((∃ t, exactPhase default timing phase = .ok t) ↔ ∃ t, Solves default timing phase t) ∧
    ∀ t, exactPhase default timing phase = .ok t →
      Solves default timing phase t ∧
      (∀ t', Solves default timing phase t' → distance phase t ≤ distance phase t') ∧
      ∀ overflowChecks, timingToPublic overflowChecks t = some (.ok
        ⟨timing.bitrate, some (samplePoint default timing phase), some (UInt16.ofNat t.sjw)⟩) := by
  have hspec := @exactPhase_spec default timing phase
  cases hres : exactPhase default timing phase with
  | ok t =>
    rw [hres] at hspec
    refine ⟨⟨fun _ => ⟨t, hspec.1⟩, fun _ => ⟨t, rfl⟩⟩, fun t' h => ?_⟩
    obtain rfl := Except.ok.inj h
    exact ⟨hspec.1, hspec.2, hspec.1.timingToPublic⟩
  | error e =>
    rw [hres] at hspec
    exact ⟨⟨nofun, fun ⟨t, ht⟩ => absurd ht (hspec t)⟩, nofun⟩

/-- **Timings read back from the driver.** Each phase is made public without an overflow, and with
the bitrate and sample point that its registers say, if and only if its registers are in range. -/
theorem fd_timing_public_iff (timing : PcanFdTiming) :
    (∀ t ∈ [timing.nominal, timing.data], (timingToPublic true t).isSome ∧
      ∀ overflowChecks x, timingToPublic overflowChecks t = some (.ok x) →
        x.bitrate.toNat * t.brp * (1 + t.tseg1 + t.tseg2) = 80000000 ∧
        ∀ s ∈ x.samplePointPermill, s.toNat * (1 + t.tseg1 + t.tseg2) = (1 + t.tseg1) * 1000) ↔
      ∀ t ∈ [timing.nominal, timing.data], t.InRange := by
  refine forall₂_congr fun t _ => ⟨fun h => isSome_timingToPublic_iff.mp h.1, fun h => ?_⟩
  refine ⟨isSome_timingToPublic_iff.mpr h, fun overflowChecks x hx => ?_⟩
  obtain ⟨r, hr, hok⟩ := timingToPublic_inRange overflowChecks h
  obtain ⟨hdvd, hpublish⟩ := (hok x).mp (Option.mem_unique hr hx)
  exact of_publish hdvd hpublish

/-- 500 kbit/s, and 8 Mbit/s in the data phase. -/
def usualTiming : String :=
  "f_clock_mhz=80,nom_brp=2,nom_tseg1=63,nom_tseg2=16,nom_sjw=16," ++
    "data_brp=1,data_tseg1=7,data_tseg2=2,data_sjw=2"

theorem fd_timing_public_usual : ∃ timing, parseFdTiming usualTiming = .ok timing ∧
    ∀ t ∈ [timing.nominal, timing.data], (timingToPublic true t).isSome := by
  have hparse : ∃ timing ∈ (parseFdTiming usualTiming).toOption,
      timing = ⟨⟨2, 63, 16, 16⟩, ⟨1, 7, 2, 2⟩⟩ := by decide +kernel
  obtain ⟨timing, ht, rfl⟩ := hparse
  have hok := ok_of_toOption ht
  refine ⟨_, hok, fun t hmem => (((fd_timing_public_iff _).mpr fun t hmem => ?_) t hmem).1⟩
  simp only [List.mem_cons, List.not_mem_nil, or_false] at hmem
  rcases hmem with rfl | rfl
  · exact ⟨by decide, fun _ => by decide⟩
  · exact ⟨by decide, fun _ => by decide⟩

/-- The nominal phase overflows in both sums. -/
def overflowingTiming : String :=
  "f_clock_mhz=80,nom_brp=1,nom_tseg1=536870913,nom_tseg2=3758096462,nom_sjw=1," ++
    "data_brp=1,data_tseg1=7,data_tseg2=2,data_sjw=2"

/-- The build with overflow checks panics, the one without them reports 1 Mbit/s and a sample
point of 2.5 %. -/
theorem fd_timing_public_overflows : ∃ timing, parseFdTiming overflowingTiming = .ok timing ∧
    timingToPublic true timing.nominal = none ∧
    timingToPublic false timing.nominal = some (.ok ⟨1000000, some 25, some 1⟩) := by
  have hparse : ∃ timing ∈ (parseFdTiming overflowingTiming).toOption,
      timing = ⟨⟨1, 536870913, 3758096462, 1⟩, ⟨1, 7, 2, 2⟩⟩ := by decide +kernel
  obtain ⟨timing, ht, rfl⟩ := hparse
  exact ⟨_, ok_of_toOption ht, rfl, rfl⟩

end Pcan

end RobotHal
