import Mathlib

/-!
# The proto3 wire format: what is read

A decoder takes the input apart into items: a key with its value, or a mark that opens or closes a
group. What stands inside a group belongs to the group, so the fields of a message are the items
outside of all groups. The message is then built by merging one field after the other into it; how
a field is merged is up to the message, and what holds of a decoded message is shown by induction
over the fields merged so far.
-/

namespace RobotHal.Proto

variable {input rest : List UInt8} {n number : ℕ}

/-! ### Items -/

/-- The number that starts in the byte `index` of its encoding. There are at most ten bytes, and no
bits beyond the sixty-fourth. -/
def varintFrom (index value : ℕ) : List UInt8 → Option (ℕ × List UInt8)
  | [] => none
  | byte :: rest =>
    if 9 < index ∨ index = 9 ∧ byte > 1 then none
    else
      let value := value ||| (byte &&& 0x7f).toNat <<< (index * 7)
      if byte &&& 0x80 = 0 then some (value, rest) else varintFrom (index + 1) value rest

def takeVarint (input : List UInt8) : Option (ℕ × List UInt8) := varintFrom 0 0 input

/-- The value of a field; what no message here looks into is left out. -/
inductive Wire
  | varint (value : ℕ)
  | fixed64
  | bytes (value : List UInt8)
  | group
  | fixed32
deriving DecidableEq

inductive Item
  | value (wire : Wire)
  | startGroup
  | endGroup
deriving DecidableEq

/-- The item at the front, under its field number, and the rest. -/
def takeItem (input : List UInt8) : Option (ℕ × Item × List UInt8) :=
  match takeVarint input with
  | none => none
  | some (key, rest) =>
    if key >>> 3 = 0 then none
    else
      match key &&& 0x07 with
      | 0 => (takeVarint rest).map fun x => (key >>> 3, .value (.varint x.1), x.2)
      | 1 => if 8 ≤ rest.length then some (key >>> 3, .value .fixed64, rest.drop 8) else none
      | 2 =>
        match takeVarint rest with
        | none => none
        | some (len, rest) =>
          if len ≤ rest.length then
            some (key >>> 3, .value (.bytes (rest.take len)), rest.drop len)
          else none
      | 3 => some (key >>> 3, .startGroup, rest)
      | 4 => some (key >>> 3, .endGroup, rest)
      | 5 => if 4 ≤ rest.length then some (key >>> 3, .value .fixed32, rest.drop 4) else none
      | _ => none

lemma length_of_varintFrom {index value v : ℕ} (h : varintFrom index value input = some (v, rest)) :
    rest.length < input.length := by
  induction input generalizing index value with
  | nil => cases h
  | cons byte input ih =>
    rw [varintFrom] at h
    split at h
    · cases h
    · split at h
      · cases h
        simp
      · have := ih h
        simp only [List.length_cons]
        omega

lemma length_of_takeVarint {v : ℕ} (h : takeVarint input = some (v, rest)) :
    rest.length < input.length := length_of_varintFrom h

lemma length_of_takeItem {item : Item} (h : takeItem input = some (n, item, rest)) :
    rest.length < input.length := by
  unfold takeItem at h
  split at h
  · cases h
  rename_i key tail hkey
  have htail := length_of_takeVarint hkey
  split at h
  · cases h
  split at h
  · obtain ⟨x, hx, heq⟩ := Option.map_eq_some_iff.mp h
    have : x.2.length < tail.length := length_of_takeVarint hx
    cases heq
    omega
  · split at h
    · cases h
      rw [List.length_drop]
      omega
    · cases h
  · split at h
    · cases h
    rename_i len tail' hlen
    have := length_of_takeVarint hlen
    split at h
    · cases h
      rw [List.length_drop]
      omega
    · cases h
  · cases h
    exact htail
  · cases h
    exact htail
  · split at h
    · cases h
      rw [List.length_drop]
      omega
    · cases h
  · cases h

def items (input : List UInt8) : Option (List (ℕ × Item)) :=
  if input = [] then some []
  else
    match _ : takeItem input with
    | none => none
    | some (n, item, rest) => (items rest).map ((n, item) :: ·)
termination_by input.length
decreasing_by exact length_of_takeItem ‹_›

lemma items_nil : items [] = some [] := by rw [items, if_pos rfl]

lemma items_of_takeItem {item : Item} (h : takeItem input = some (n, item, rest)) :
    items input = (items rest).map ((n, item) :: ·) := by
  have hne : input ≠ [] := by
    rintro rfl
    have := length_of_takeItem h
    simp at this
  rw [items, if_neg hne]
  split
  · rename_i hnone
    rw [h] at hnone
    cases hnone
  · rename_i hsome
    rw [h] at hsome
    cases hsome
    rfl

/-! ### Fields -/

/-- The fields outside of all groups; `stack` are the groups that are open, the innermost first. A
group counts as one field. -/
def outerFields : List ℕ → List (ℕ × Item) → Option (List (ℕ × Wire))
  | [], [] => some []
  | _ :: _, [] => none
  | [], (n, .value wire) :: l => (outerFields [] l).map ((n, wire) :: ·)
  | g :: stack, (_, .value _) :: l => outerFields (g :: stack) l
  | [], (n, .startGroup) :: l => (outerFields [n] l).map ((n, .group) :: ·)
  | g :: stack, (n, .startGroup) :: l => outerFields (n :: g :: stack) l
  | [], (_, .endGroup) :: _ => none
  | g :: stack, (n, .endGroup) :: l => if n = g then outerFields stack l else none

def fields (input : List UInt8) : Option (List (ℕ × Wire)) := (items input).bind (outerFields [])

/-- The contents of the fields with a number. -/
def contents (number : ℕ) (l : List (ℕ × Wire)) : List (List UInt8) :=
  l.filterMap fun
    | (n, .bytes value) => if n = number then some value else none
    | _ => none

lemma contents_append (number : ℕ) (l l' : List (ℕ × Wire)) :
    contents number (l ++ l') = contents number l ++ contents number l' := List.filterMap_append

lemma contents_singleton_bytes (number : ℕ) (value : List UInt8) :
    contents number [(number, .bytes value)] = [value] := by simp [contents]

lemma contents_singleton_of_ne (wire : Wire) (h : n ≠ number) :
    contents number [(n, wire)] = [] := by
  cases wire <;> simp [contents, h]

lemma mem_contents {l : List (ℕ × Wire)} {value : List UInt8} :
    value ∈ contents number l ↔ (number, .bytes value) ∈ l := by
  simp only [contents, List.mem_filterMap]
  constructor
  · rintro ⟨⟨n, wire⟩, hmem, hvalue⟩
    cases wire with
    | bytes b =>
      obtain ⟨rfl, rfl⟩ : n = number ∧ b = value := by simpa using hvalue
      exact hmem
    | _ => cases hvalue
  · intro hmem
    exact ⟨_, hmem, by simp⟩

/-- The contents of the fields of a message, which stands there as its bytes. -/
def contentsOf (number : ℕ) (input : List UInt8) : List (List UInt8) :=
  contents number ((fields input).getD [])

/-! ### Values -/

def uint64Value : Wire → Option ℕ
  | .varint value => some value
  | _ => none

def uint32Value (wire : Wire) : Option UInt32 := (uint64Value wire).map UInt32.ofNat

/-- Enumerations are open: any number of 32 bits, with its sign. -/
def enumNumber (value : ℕ) : ℤ := (UInt32.ofNat value).toInt32.toInt

def enumValue (wire : Wire) : Option ℤ := (uint64Value wire).map enumNumber

def boolValue (wire : Wire) : Option Bool := (uint64Value wire).map (decide <| · ≠ 0)

def bytesValue : Wire → Option (List UInt8)
  | .bytes value => some value
  | _ => none

def stringValue (wire : Wire) : Option String :=
  (bytesValue wire).bind fun value => String.fromUTF8? ⟨value.toArray⟩

def varints (input : List UInt8) : Option (List ℕ) :=
  if input = [] then some []
  else
    match _ : takeVarint input with
    | none => none
    | some (value, rest) => (varints rest).map (value :: ·)
termination_by input.length
decreasing_by exact length_of_takeVarint ‹_›

/-- A repeated enumeration may come packed or one by one. -/
def enumsValue : Wire → Option (List ℤ)
  | .varint value => some [enumNumber value]
  | .bytes value => (varints value).map (·.map enumNumber)
  | _ => none

/-! ### Messages -/

section Merge

variable {μ : Type} (merge : μ → ℕ → Wire → Option μ)

/-- The fields of the input, merged into the message. -/
def mergeFrom (m : μ) (input : List UInt8) : Option μ :=
  (fields input).bind fun l => l.foldlM (fun m x => merge m x.1 x.2) m

/-- A message field is merged into the message that is there. -/
def messageValue (m : μ) (wire : Wire) : Option μ := (bytesValue wire).bind (mergeFrom merge m)

variable {merge}

lemma messageValue_eq_some {m m' : μ} {wire : Wire} :
    messageValue merge m wire = some m' ↔
      ∃ input, wire = .bytes input ∧ mergeFrom merge m input = some m' := by
  cases wire <;> simp [messageValue, bytesValue]

/-- What holds before the first field and is kept by every merge holds of the whole message. -/
lemma foldlM_induction {α β : Type} {f : β → α → Option β} {P : List α → β → Prop} {b b' : β}
    {l : List α} (h : l.foldlM f b = some b') (h0 : P [] b)
    (hstep : ∀ p, ∀ a ∈ l, ∀ b b', P p b → f b a = some b' → P (p ++ [a]) b') : P l b' := by
  induction l using List.reverseRecOn generalizing b' with
  | nil =>
    cases h
    exact h0
  | append_singleton l a ih =>
    rw [List.foldlM_append] at h
    obtain ⟨c, hc, hlast⟩ := Option.bind_eq_some_iff.mp h
    obtain ⟨c', hc', hnil⟩ := Option.bind_eq_some_iff.mp hlast
    cases hnil
    have hprefix : P l c := ih hc fun p x hx => hstep p x (List.mem_append_left _ hx)
    exact hstep l a (by simp) c _ hprefix hc'

lemma exists_of_foldlM {α β : Type} {f : β → α → Option β} {b b' : β} {l : List α} {a : α}
    (h : l.foldlM f b = some b') (ha : a ∈ l) : ∃ c c', f c a = some c' := by
  refine foldlM_induction (P := fun l _ => ∀ a ∈ l, ∃ c c', f c a = some c') h ?_ ?_ a ha
  · intro a ha
    cases ha
  · intro l x _ c c' ih hx a ha
    rcases List.mem_append.mp ha with hl | hlast
    · exact ih a hl
    · rw [List.mem_singleton.mp hlast]
      exact ⟨c, c', hx⟩

lemma fields_of_mergeFrom {m m' : μ} (h : mergeFrom merge m input = some m') :
    ∃ l, fields input = some l ∧ l.foldlM (fun m x => merge m x.1 x.2) m = some m' :=
  Option.bind_eq_some_iff.mp h

lemma mergeFrom_contents {P : List (List UInt8) → μ → Prop} {m m' : μ}
    (h : mergeFrom merge m input = some m') (h0 : P [] m)
    (hstep : ∀ l n wire m m', P l m → merge m n wire = some m' →
      P (l ++ contents number [(n, wire)]) m') : P (contentsOf number input) m' := by
  obtain ⟨l, hl, hfold⟩ := fields_of_mergeFrom h
  have hP : P (contents number l) m' := by
    refine foldlM_induction (P := fun l m => P (contents number l) m) hfold h0 ?_
    rintro l ⟨n, wire⟩ - m m' hP hmerge
    rw [contents_append]
    exact hstep _ n wire m m' hP hmerge
  rwa [contentsOf, hl]

lemma exists_merge_of_mem {m m' : μ} {value : List UInt8} (h : mergeFrom merge m input = some m')
    (hmem : value ∈ contentsOf number input) : ∃ x x', merge x number (.bytes value) = some x' := by
  obtain ⟨l, hl, hfold⟩ := fields_of_mergeFrom h
  rw [contentsOf, hl, Option.getD_some, mem_contents] at hmem
  obtain ⟨x, x', hx⟩ := exists_of_foldlM hfold hmem
  exact ⟨x, x', hx⟩

end Merge

end RobotHal.Proto
