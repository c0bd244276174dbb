import Mathlib

/-!
# The proto3 wire format: what is written

A message is the concatenation of its fields. A scalar field with its default value is left out;
a sub-message, a string and a packed list stand behind their length, and that length is itself a
number of seven bits a byte. How long a message gets is therefore a question about numbers
nested in numbers, and every answer here has one form: the length of a field is at most what
the same field would take with the largest contents allowed for it.
-/

namespace RobotHal.Proto

variable {n number : ℕ} {value : ℤ}

/-! ### Numbers -/

/-- Seven bits a byte, the lowest first; every byte but the last has its high bit set. -/
def varint (n : ℕ) : List UInt8 :=
  if n < 0x80 then [UInt8.ofNat n] else UInt8.ofNat (n % 0x80 + 0x80) :: varint (n / 0x80)

lemma length_varint_small (h : n < 0x80) : (varint n).length = 1 := by
  rw [varint, if_pos h, List.length_singleton]

lemma length_varint_large (h : ¬n < 0x80) : (varint n).length = (varint (n / 0x80)).length + 1 := by
  rw [varint, if_neg h, List.length_cons]

lemma length_varint_pos (n : ℕ) : 0 < (varint n).length := by
  rw [varint]
  split <;> simp

lemma length_varint_le_iff {k : ℕ} : (varint n).length ≤ k + 1 ↔ n < 0x80 ^ (k + 1) := by
  induction k generalizing n with
  | zero =>
    by_cases h : n < 0x80
    · simp [length_varint_small h, h]
    · have hpos := length_varint_pos (n / 0x80)
      rw [length_varint_large h]
      constructor
      · intro hle
        omega
      · intro hlt
        omega
  | succ k ih =>
    have hpow : (0x80 : ℕ) ^ (k + 1 + 1) = 0x80 ^ (k + 1) * 0x80 := pow_succ _ _
    have hbase : 0 < (0x80 : ℕ) ^ (k + 1) := by positivity
    by_cases h : n < 0x80
    · rw [length_varint_small h]
      omega
    · rw [length_varint_large h, Nat.add_le_add_iff_right, ih, hpow]
      exact Nat.div_lt_iff_lt_mul (by norm_num)

lemma length_varint_mono {m : ℕ} (h : m ≤ n) : (varint m).length ≤ (varint n).length := by
  obtain ⟨k, hk⟩ := Nat.exists_eq_add_of_lt (length_varint_pos n)
  have hn : n < 0x80 ^ (k + 1) := length_varint_le_iff.mp (by omega)
  have hm : (varint m).length ≤ k + 1 := length_varint_le_iff.mpr (lt_of_le_of_lt h hn)
  omega

/-! ### Fields -/

/-- What stands before a field's contents: its number and how the contents are written. -/
def key (number wireType : ℕ) : ℕ := number <<< 3 ||| wireType

/-- A number, left out when it is zero. -/
def varintField (number value : ℕ) : List UInt8 :=
  if value = 0 then [] else varint (key number 0) ++ varint value

def boolField (number : ℕ) (b : Bool) : List UInt8 := varintField number b.toNat

/-- An `enum` or `int32`: negative numbers are written as 64-bit two's complement. -/
def enumField (number : ℕ) (value : ℤ) : List UInt8 := varintField number (value % 2 ^ 64).toNat

/-- Signed numbers with the small ones first: 0, -1, 1, -2, and so on. -/
def zigzag (n : ℤ) : ℕ := if 0 ≤ n then (2 * n).toNat else (-2 * n - 1).toNat

/-- A `sint64`. -/
def sintField (number : ℕ) (value : ℤ) : List UInt8 := varintField number (zigzag value)

/-- Contents behind their length. -/
def delimited (number : ℕ) (body : List UInt8) : List UInt8 :=
  varint (key number 2) ++ varint body.length ++ body

def bytesField (number : ℕ) (bytes : List UInt8) : List UInt8 :=
  if bytes = [] then [] else delimited number bytes

def utf8 (s : String) : List UInt8 := s.toUTF8.data.toList

def stringField (number : ℕ) (s : String) : List UInt8 := bytesField number (utf8 s)

def packedField (number : ℕ) (values : List ℕ) : List UInt8 :=
  bytesField number (values.flatMap varint)

def messageField (number : ℕ) (message : Option (List UInt8)) : List UInt8 :=
  message.elim [] (delimited number)

def repeatedField (number : ℕ) (messages : List (List UInt8)) : List UInt8 :=
  messages.flatMap (delimited number)

/-! ### Lengths -/

/-- The length of a field whose contents stand behind their length. -/
def delimitedLen (number len : ℕ) : ℕ :=
  (varint (key number 2)).length + (varint len).length + len

@[simp] lemma length_delimited (number : ℕ) (body : List UInt8) :
    (delimited number body).length = delimitedLen number body.length := by
  simp [delimited, delimitedLen, Nat.add_assoc]

lemma delimitedLen_mono (number : ℕ) {m : ℕ} (h : m ≤ n) :
    delimitedLen number m ≤ delimitedLen number n := by
  have := length_varint_mono h
  unfold delimitedLen
  omega

@[simp] lemma length_utf8 (s : String) : (utf8 s).length = s.utf8ByteSize := rfl

lemma length_varint_key {wireType : ℕ} (hn : number < 16) (hw : wireType < 8) :
    (varint (key number wireType)).length = 1 := by
  apply length_varint_small
  have hshift : number <<< 3 < 2 ^ 7 := by
    rw [Nat.shiftLeft_eq]
    omega
  exact Nat.or_lt_two_pow hshift (by omega)

lemma delimitedLen_short {len : ℕ} (hn : number < 16) (hlen : len < 0x80) :
    delimitedLen number len = len + 2 := by
  rw [delimitedLen, length_varint_key hn (by decide), length_varint_small hlen]
  omega

lemma length_varintField_le {value k : ℕ} (hn : number < 16) (h : value < 0x80 ^ (k + 1)) :
    (varintField number value).length ≤ k + 2 := by
  unfold varintField
  split
  · simp
  · have hle := length_varint_le_iff.mpr h
    rw [List.length_append, length_varint_key hn (by decide)]
    omega

lemma length_boolField_le (hn : number < 16) (b : Bool) : (boolField number b).length ≤ 2 :=
  length_varintField_le (k := 0) hn (by cases b <;> decide)

lemma length_enumField_le (hn : number < 16) (h : 0 ≤ value) (hlt : value < 0x80) :
    (enumField number value).length ≤ 2 := by
  apply length_varintField_le (k := 0) hn
  omega

lemma zigzag_lt (h : -2 ^ 63 ≤ value) (hlt : value < 2 ^ 63) : zigzag value < 2 ^ 64 := by
  unfold zigzag
  split <;> omega

lemma length_sintField_le (hn : number < 16) (h : -2 ^ 63 ≤ value) (hlt : value < 2 ^ 63) :
    (sintField number value).length ≤ 11 := by
  have := zigzag_lt h hlt
  exact length_varintField_le (k := 9) hn (by omega)

lemma length_bytesField_le {bytes : List UInt8} (h : bytes.length ≤ n) :
    (bytesField number bytes).length ≤ delimitedLen number n := by
  unfold bytesField
  split
  · simp
  · rw [length_delimited]
    exact delimitedLen_mono number h

lemma length_stringField_le {s : String} (h : s.utf8ByteSize ≤ n) :
    (stringField number s).length ≤ delimitedLen number n := length_bytesField_le (by simpa)

lemma length_messageField_le {message : Option (List UInt8)} (h : ∀ m ∈ message, m.length ≤ n) :
    (messageField number message).length ≤ delimitedLen number n := by
  cases message with
  | none => simp [messageField]
  | some m => simpa [messageField] using delimitedLen_mono number (h m rfl)

lemma length_packedField_le {values : List ℕ} (h : ∀ v ∈ values, v < 0x80)
    (hn : values.length ≤ n) :
    (packedField number values).length ≤ delimitedLen number n := by
  apply length_bytesField_le
  have hone : values.map (fun v => (varint v).length) = values.map fun _ => 1 :=
    List.map_congr_left fun v hv => length_varint_small (h v hv)
  rw [List.length_flatMap, hone]
  simpa [List.map_const'] using hn

lemma length_repeatedField_le {messages : List (List UInt8)} (h : ∀ m ∈ messages, m.length ≤ n) :
    (repeatedField number messages).length ≤ delimitedLen number n * messages.length := by
  rw [repeatedField, List.length_flatMap, Nat.mul_comm]
  have hle :
      ∀ x ∈ messages.map fun m => (delimited number m).length, x ≤ delimitedLen number n := by
    intro x hx
    obtain ⟨m, hm, rfl⟩ := List.mem_map.mp hx
    rw [length_delimited]
    exact delimitedLen_mono number (h m hm)
  simpa using List.sum_le_card_nsmul _ _ hle

lemma length_repeatedField_replicate (number n : ℕ) (message : List UInt8) :
    (repeatedField number (List.replicate n message)).length
      = delimitedLen number message.length * n := by
  simp [repeatedField, List.length_flatMap, Nat.mul_comm]

end RobotHal.Proto
