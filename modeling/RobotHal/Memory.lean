import Mathlib

/-!
A byte-addressed memory: blocks of bytes, little-endian fields of fixed width, and readers
that remember which ranges they touched.

Whatever a program keeps in such a memory is a question about some range of it, so the rule
that carries facts from one state to the next is agreement: a question about a range has the
same answer in any memory that agrees there. A write agrees with the memory before it
everywhere outside the block written.
-/

namespace RobotHal

/-- The contents of a memory, address by address. -/
abbrev Mem := ℕ → UInt8

/-! ### Little-endian numbers -/

/-- The `w` little-endian bytes of `n`. -/
def leBytes : ℕ → ℕ → List UInt8
  | 0, _ => []
  | w + 1, n => UInt8.ofNat n :: leBytes w (n / 256)

/-- The number with the given little-endian bytes. -/
def leValue : List UInt8 → ℕ
  | [] => 0
  | b :: bs => b.toNat + 256 * leValue bs

@[simp] lemma length_leBytes (w n : ℕ) : (leBytes w n).length = w := by
  induction w generalizing n with
  | zero => rfl
  | succ w ih => simp [leBytes, ih]

lemma leValue_leBytes (w n : ℕ) : leValue (leBytes w n) = n % 256 ^ w := by
  induction w generalizing n with
  | zero => simp [leBytes, leValue, Nat.mod_one]
  | succ w ih =>
    have h : (UInt8.ofNat n).toNat = n % 256 := UInt8.toNat_ofNat
    rw [leBytes, leValue, ih, h, pow_succ', Nat.mod_mul]

lemma leValue_leBytes_of_lt {w n : ℕ} (h : n < 256 ^ w) : leValue (leBytes w n) = n := by
  rw [leValue_leBytes, Nat.mod_eq_of_lt h]

namespace Mem

/-! ### Blocks -/

/-- The `n` bytes at `a`. -/
def read (m : Mem) (a n : ℕ) : List UInt8 := (List.range n).map fun k => m (a + k)

/-- The memory with the bytes `bs` at `a`. -/
def write (m : Mem) (a : ℕ) (bs : List UInt8) : Mem :=
  fun x => if a ≤ x ∧ x < a + bs.length then bs.getD (x - a) 0 else m x

/-- Two memories hold the same bytes from `lo` on, up to `hi`. -/
def AgreeOn (m m' : Mem) (lo hi : ℕ) : Prop := ∀ x, lo ≤ x → x < hi → m' x = m x

variable {m m' m'' : Mem} {a lo hi n k : ℕ} {bs : List UInt8}

lemma AgreeOn.refl : AgreeOn m m lo hi := fun _ _ _ => rfl

lemma AgreeOn.trans (h : AgreeOn m m' lo hi) (h' : AgreeOn m' m'' lo hi) : AgreeOn m m'' lo hi :=
  fun x hlo hhi => (h' x hlo hhi).trans (h x hlo hhi)

lemma AgreeOn.mono {lo' hi' : ℕ} (h : AgreeOn m m' lo hi) (hlo : lo ≤ lo') (hhi : hi' ≤ hi) :
    AgreeOn m m' lo' hi' :=
  fun x hx hx' => h x (hlo.trans hx) (lt_of_lt_of_le hx' hhi)

/-- **A write leaves everything outside its block alone.** -/
lemma agreeOn_write (h : hi ≤ a ∨ a + bs.length ≤ lo) : AgreeOn m (m.write a bs) lo hi := by
  intro x hlo hhi
  have hx : ¬(a ≤ x ∧ x < a + bs.length) := by omega
  rw [write, if_neg hx]

@[simp] lemma length_read (m : Mem) (a n : ℕ) : (m.read a n).length = n := by simp [read]

lemma AgreeOn.read_eq (h : AgreeOn m m' lo hi) (hlo : lo ≤ a) (hhi : a + n ≤ hi) :
    m'.read a n = m.read a n := by
  refine List.map_congr_left fun k hk => ?_
  have hk : k < n := List.mem_range.mp hk
  exact h (a + k) (by omega) (by omega)

lemma read_write_self (m : Mem) (a : ℕ) (bs : List UInt8) :
    (m.write a bs).read a bs.length = bs := by
  refine List.ext_getElem (by simp) fun k hk hk' => ?_
  have hx : a ≤ a + k ∧ a + k < a + bs.length := by omega
  simp [read, write, hk']

lemma take_read (m : Mem) (a : ℕ) (h : k ≤ n) : (m.read a n).take k = m.read a k := by
  rw [read, ← List.map_take, List.take_range, Nat.min_eq_left h, read]

/-- The memory with each of these blocks at its address. -/
def writeAll (m : Mem) (l : List (ℕ × List UInt8)) : Mem :=
  l.foldl (fun m b => m.write b.1 b.2) m

/-- Two blocks share no address. -/
def Apart (b b' : ℕ × List UInt8) : Prop := b.1 + b.2.length ≤ b'.1 ∨ b'.1 + b'.2.length ≤ b.1

lemma agreeOn_writeAll {l : List (ℕ × List UInt8)}
    (h : ∀ b ∈ l, hi ≤ b.1 ∨ b.1 + b.2.length ≤ lo) : AgreeOn m (m.writeAll l) lo hi := by
  induction l generalizing m with
  | nil => exact .refl
  | cons b l ih =>
    obtain ⟨hb, hl⟩ := List.forall_mem_cons.mp h
    exact (agreeOn_write hb).trans (ih hl)

/-- **Blocks that are apart are read back as they were written.** -/
lemma read_writeAll {l : List (ℕ × List UInt8)} (h : l.Pairwise Apart)
    {b : ℕ × List UInt8} (hb : b ∈ l) : (m.writeAll l).read b.1 b.2.length = b.2 := by
  induction l generalizing m with
  | nil => cases hb
  | cons x l ih =>
    obtain ⟨hx, hl⟩ := List.pairwise_cons.mp h
    rcases List.mem_cons.mp hb with rfl | hb
    · exact ((agreeOn_writeAll hx).read_eq le_rfl le_rfl).trans (read_write_self m b.1 b.2)
    · exact ih hl hb

/-! ### Fields -/

def readU16 (m : Mem) (a : ℕ) : UInt16 := UInt16.ofNat (leValue (m.read a 2))
def readU32 (m : Mem) (a : ℕ) : UInt32 := UInt32.ofNat (leValue (m.read a 4))
def readU64 (m : Mem) (a : ℕ) : UInt64 := UInt64.ofNat (leValue (m.read a 8))

def writeU16 (m : Mem) (a : ℕ) (v : UInt16) : Mem := m.write a (leBytes 2 v.toNat)
def writeU32 (m : Mem) (a : ℕ) (v : UInt32) : Mem := m.write a (leBytes 4 v.toNat)
def writeU64 (m : Mem) (a : ℕ) (v : UInt64) : Mem := m.write a (leBytes 8 v.toNat)

lemma readU16_of_read {v : UInt16} (h : m.read a 2 = leBytes 2 v.toNat) : m.readU16 a = v := by
  rw [readU16, h, leValue_leBytes_of_lt (by simpa using v.toNat_lt), UInt16.ofNat_toNat]

lemma readU32_of_read {v : UInt32} (h : m.read a 4 = leBytes 4 v.toNat) : m.readU32 a = v := by
  rw [readU32, h, leValue_leBytes_of_lt (by simpa using v.toNat_lt), UInt32.ofNat_toNat]

lemma readU64_of_read {v : UInt64} (h : m.read a 8 = leBytes 8 v.toNat) : m.readU64 a = v := by
  rw [readU64, h, leValue_leBytes_of_lt (by simpa using v.toNat_lt), UInt64.ofNat_toNat]

@[simp] lemma readU32_writeU32 (m : Mem) (a : ℕ) (v : UInt32) : (m.writeU32 a v).readU32 a = v :=
  readU32_of_read (by simpa [writeU32] using read_write_self m a (leBytes 4 v.toNat))

@[simp] lemma readU64_writeU64 (m : Mem) (a : ℕ) (v : UInt64) : (m.writeU64 a v).readU64 a = v :=
  readU64_of_read (by simpa [writeU64] using read_write_self m a (leBytes 8 v.toNat))

lemma AgreeOn.readU32_eq (h : AgreeOn m m' lo hi) (hlo : lo ≤ a) (hhi : a + 4 ≤ hi) :
    m'.readU32 a = m.readU32 a := by
  rw [readU32, readU32, h.read_eq hlo hhi]

lemma AgreeOn.readU64_eq (h : AgreeOn m m' lo hi) (hlo : lo ≤ a) (hhi : a + 8 ≤ hi) :
    m'.readU64 a = m.readU64 a := by
  rw [readU64, readU64, h.read_eq hlo hhi]

lemma readU64_zero (a : ℕ) : readU64 (fun _ => 0) a = 0 := by
  simp [readU64, read, leValue, List.range_succ]

section Disjoint

-- A field keeps its value when a block elsewhere is written; `writeU16`, `writeU32` and
-- `writeU64` are such blocks.
variable {b : ℕ}

lemma readU32_write_of_disjoint (h : a + 4 ≤ b ∨ b + bs.length ≤ a) :
    (m.write b bs).readU32 a = m.readU32 a :=
  (agreeOn_write h).readU32_eq le_rfl le_rfl

lemma readU64_write_of_disjoint (h : a + 8 ≤ b ∨ b + bs.length ≤ a) :
    (m.write b bs).readU64 a = m.readU64 a :=
  (agreeOn_write h).readU64_eq le_rfl le_rfl

end Disjoint

lemma agreeOn_writeU32 {v : UInt32} (h : hi ≤ a ∨ a + 4 ≤ lo) :
    AgreeOn m (m.writeU32 a v) lo hi :=
  agreeOn_write (by simpa using h)

lemma agreeOn_writeU64 {v : UInt64} (h : hi ≤ a ∨ a + 8 ≤ lo) :
    AgreeOn m (m.writeU64 a v) lo hi :=
  agreeOn_write (by simpa using h)

end Mem

/-! ### Readers -/

/-- A computation that only reads a memory: what it answers, and the ranges
`(address, length)` it touched on the way. -/
def Reader (ε α : Type) := Mem → Except ε α × List (ℕ × ℕ)

namespace Reader

variable {ε α β : Type}

/-- What the reader answers. -/
def eval (x : Reader ε α) (m : Mem) : Except ε α := (x m).1

/-- The ranges the reader touches. -/
def touched (x : Reader ε α) (m : Mem) : List (ℕ × ℕ) := (x m).2

/-- Every range the reader touches lies below `n`. -/
def Within (x : Reader ε α) (m : Mem) (n : ℕ) : Prop := ∀ r ∈ x.touched m, r.1 + r.2 ≤ n

instance (x : Reader ε α) (m : Mem) (n : ℕ) : Decidable (x.Within m n) :=
  inferInstanceAs (Decidable (∀ r ∈ x.touched m, _))

/-- The reader that reads nothing. -/
def lift (r : Except ε α) : Reader ε α := fun _ => (r, [])

/-- The `n` bytes at `a`. -/
def bytes (a n : ℕ) : Reader ε (List UInt8) := fun m => (.ok (m.read a n), [(a, n)])

def u32 (a : ℕ) : Reader ε UInt32 := fun m => (.ok (m.readU32 a), [(a, 4)])
def u64 (a : ℕ) : Reader ε UInt64 := fun m => (.ok (m.readU64 a), [(a, 8)])

protected def bind (x : Reader ε α) (f : α → Reader ε β) : Reader ε β := fun m =>
  match x m with
  | (.ok a, r) => ((f a m).1, r ++ (f a m).2)
  | (.error e, r) => (.error e, r)

/-- The reader followed by a call that may fail whatever was read. -/
def followedBy (x : Reader ε α) (r : Except ε Unit) : Reader ε α := fun m =>
  match r with
  | .ok () => x m
  | .error e => (.error e, x.touched m)

instance : Monad (Reader ε) where
  pure a := lift (.ok a)
  bind := Reader.bind

protected lemma bind_pure (x : Reader ε α) : Reader.bind x (fun a => lift (.ok a)) = x := by
  funext m
  unfold Reader.bind lift
  rcases x m with ⟨e | a, r⟩ <;> simp

protected lemma bind_assoc {γ : Type} (x : Reader ε α) (f : α → Reader ε β)
    (g : β → Reader ε γ) :
    Reader.bind (Reader.bind x f) g = Reader.bind x fun a => Reader.bind (f a) g := by
  funext m
  unfold Reader.bind
  rcases x m with ⟨e | a, r⟩
  · rfl
  · rcases hf : f a m with ⟨e | b, r'⟩ <;> simp [hf]

instance : LawfulMonad (Reader ε) :=
  LawfulMonad.mk' (Reader ε) Reader.bind_pure (fun _ _ => rfl) Reader.bind_assoc

variable {m : Mem} {n : ℕ}

@[simp] lemma eval_lift (r : Except ε α) : (lift r).eval m = r := rfl
@[simp] lemma eval_pure (a : α) : (pure a : Reader ε α).eval m = .ok a := rfl
@[simp] lemma eval_bytes (a k : ℕ) : (bytes a k : Reader ε _).eval m = .ok (m.read a k) := rfl
@[simp] lemma eval_u32 (a : ℕ) : (u32 a : Reader ε _).eval m = .ok (m.readU32 a) := rfl
@[simp] lemma eval_u64 (a : ℕ) : (u64 a : Reader ε _).eval m = .ok (m.readU64 a) := rfl

@[simp] lemma eval_bind (x : Reader ε α) (f : α → Reader ε β) :
    (x >>= f).eval m = (x.eval m).bind fun a => (f a).eval m := by
  change (Reader.bind x f m).1 = _
  unfold Reader.bind eval
  cases hx : x m with
  | mk r l => cases r <;> rfl

lemma bind_eq_ok {x : Reader ε α} {f : α → Reader ε β} {b : β} :
    (x >>= f).eval m = .ok b ↔ ∃ a, x.eval m = .ok a ∧ (f a).eval m = .ok b := by
  rw [eval_bind]
  cases x.eval m with
  | error e | ok a => simp [Except.bind]

lemma eval_followedBy {x : Reader ε α} {r : Except ε Unit} {a : α}
    (h : (x.followedBy r).eval m = .ok a) : x.eval m = .ok a := by
  cases r with
  | ok => exact h
  | error e => cases h

@[simp] lemma within_lift (r : Except ε α) : (lift r).Within m n := by simp [Within, touched, lift]
@[simp] lemma within_pure (a : α) : (pure a : Reader ε α).Within m n := within_lift _

@[simp] lemma within_bytes (a k : ℕ) : (bytes a k : Reader ε _).Within m n ↔ a + k ≤ n := by
  simp [Within, touched, bytes]

@[simp] lemma within_u32 (a : ℕ) : (u32 a : Reader ε _).Within m n ↔ a + 4 ≤ n := by
  simp [Within, touched, u32]

@[simp] lemma within_u64 (a : ℕ) : (u64 a : Reader ε _).Within m n ↔ a + 8 ≤ n := by
  simp [Within, touched, u64]

/-- **Reading in sequence** stays in range if both parts do, the second on what the first
answered. -/
lemma within_bind {x : Reader ε α} {f : α → Reader ε β} (hx : x.Within m n)
    (hf : ∀ a, x.eval m = .ok a → (f a).Within m n) : (x >>= f).Within m n := by
  change ∀ r ∈ (Reader.bind x f m).2, r.1 + r.2 ≤ n
  unfold Within touched at hx hf
  unfold Reader.bind
  intro r hr
  rcases hxm : x m with ⟨e | a, l⟩
  · rw [hxm] at hr hx
    exact hx r hr
  · rw [hxm] at hr hx
    rcases List.mem_append.mp hr with hr | hr
    · exact hx r hr
    · exact hf a (by simp [eval, hxm]) r hr

@[simp] lemma within_followedBy (x : Reader ε α) (r : Except ε Unit) :
    (x.followedBy r).Within m n ↔ x.Within m n := by
  cases r <;> rfl

lemma within_mapM {f : β → Reader ε α} {l : List β} (h : ∀ b ∈ l, (f b).Within m n) :
    (l.mapM f).Within m n := by
  induction l with
  | nil => exact within_pure _
  | cons b l ih =>
    rw [List.mapM_cons]
    refine within_bind (h b (by simp)) fun _ _ => within_bind ?_ fun _ _ => within_pure _
    exact ih fun b hb => h b (by simp [hb])

lemma eval_mapM (f : β → Reader ε α) (l : List β) :
    (l.mapM f).eval m = l.mapM fun b => (f b).eval m := by
  induction l with
  | nil => rfl
  | cons b l ih =>
    rw [List.mapM_cons, List.mapM_cons, eval_bind]
    refine congrArg ((f b).eval m).bind (funext fun a => ?_)
    rw [eval_bind, ih]
    rfl

end Reader

end RobotHal
