import Mathlib

/-!
Finite maps with one value type: the lookups of Mathlib's `AList` in the shape the models
below use them, and questions about all values at once.
-/

namespace RobotHal

/-- A finite map from `κ` to `α`. -/
abbrev Assoc (κ α : Type*) := AList fun _ : κ => α

namespace Assoc

variable {κ α : Type*} [DecidableEq κ]

lemma lookup_insert_ite (m : Assoc κ α) (k j : κ) (v : α) :
    (m.insert k v).lookup j = if j = k then some v else m.lookup j := by
  by_cases h : j = k
  · subst h; simp
  · rw [AList.lookup_insert_ne h, if_neg h]

lemma of_lookup_insert {m : Assoc κ α} {k j : κ} {v x : α} (h : (m.insert k v).lookup j = some x) :
    j = k ∧ x = v ∨ m.lookup j = some x := by
  rw [lookup_insert_ite] at h
  split at h
  · exact .inl ⟨‹_›, (Option.some.inj h).symm⟩
  · exact .inr h

lemma lookup_singleton_ite (k j : κ) (v : α) :
    (AList.singleton k v : Assoc κ α).lookup j = if j = k then some v else none := by
  rw [← AList.insert_empty, lookup_insert_ite, AList.lookup_empty]

lemma lookup_erase_ite (m : Assoc κ α) (k j : κ) :
    (m.erase k).lookup j = if j = k then none else m.lookup j := by
  by_cases h : j = k
  · subst h; simp
  · rw [AList.lookup_erase_ne h, if_neg h]

lemma lookup_absent {m : Assoc κ α} {k : κ} (h : m.lookup k = none) (j : κ) :
    m.lookup j = if j = k then none else m.lookup j := by
  split
  · rename_i hj; rw [hj, h]
  · rfl

lemma of_lookup_erase {m : Assoc κ α} {k j : κ} {x : α} (h : (m.erase k).lookup j = some x) :
    j ≠ k ∧ m.lookup j = some x := by
  rw [lookup_erase_ite] at h
  split at h
  · cases h
  · exact ⟨‹_›, h⟩

/-- Some value of the map satisfies `p`. -/
def any (m : Assoc κ α) (p : α → Bool) : Bool := m.entries.any fun e => p e.2

lemma mem_entries_iff {m : Assoc κ α} {k : κ} {v : α} :
    (⟨k, v⟩ : Sigma fun _ : κ => α) ∈ m.entries ↔ m.lookup k = some v :=
  AList.mem_lookup_iff.symm

lemma mem_pick {β : Type*} {m : Assoc κ α} {p : Sigma (fun _ : κ => α) → Bool}
    {f : Sigma (fun _ : κ => α) → β} {y : β} : y ∈ (m.entries.filter p).map f ↔
      ∃ k v, m.lookup k = some v ∧ p ⟨k, v⟩ = true ∧ f ⟨k, v⟩ = y := by
  simp only [List.mem_map, List.mem_filter, Sigma.exists, mem_entries_iff, and_assoc]

lemma forall_lookup_iff {m : Assoc κ α} {p : κ → α → Prop} :
    (∀ x ∈ m.entries, p x.1 x.2) ↔ ∀ k v, m.lookup k = some v → p k v :=
  ⟨fun h k v hk => h ⟨k, v⟩ (mem_entries_iff.mpr hk), fun h ⟨k, v⟩ hx =>
    h k v (mem_entries_iff.mp hx)⟩

instance {m : Assoc κ α} {p : κ → α → Prop} [∀ k v, Decidable (p k v)] :
    Decidable (∀ k v, m.lookup k = some v → p k v) :=
  decidable_of_iff _ forall_lookup_iff

lemma any_eq_true {m : Assoc κ α} {p : α → Bool} :
    any m p = true ↔ ∃ k v, m.lookup k = some v ∧ p v = true := by
  simp only [any, List.any_eq_true]
  constructor
  · rintro ⟨⟨k, v⟩, hm, hp⟩
    exact ⟨k, v, mem_entries_iff.mp hm, hp⟩
  · rintro ⟨k, v, hm, hp⟩
    exact ⟨⟨k, v⟩, mem_entries_iff.mpr hm, hp⟩

lemma any_eq_false {m : Assoc κ α} {p : α → Bool} :
    any m p = false ↔ ∀ k v, m.lookup k = some v → p v = false := by
  rw [← Bool.not_eq_true, any_eq_true]
  push Not
  simp

/-- The map holds nothing. -/
def isEmpty (m : Assoc κ α) : Bool := m.entries.isEmpty

omit [DecidableEq κ] in
lemma eq_empty_of_isEmpty {m : Assoc κ α} (h : isEmpty m = true) : m = ∅ :=
  AList.ext (List.isEmpty_iff.mp h)

lemma entries_perm_erase {m : Assoc κ α} {k : κ} {v : α} (h : m.lookup k = some v) :
    m.entries.Perm (⟨k, v⟩ :: (m.erase k).entries) := by
  have hk : k ∈ m.entries.keys := AList.lookup_isSome.mp (by rw [h]; rfl)
  obtain ⟨w, l₁, l₂, hl₁, hm, he⟩ := List.exists_of_kerase hk
  have hw : m.lookup k = some w := mem_entries_iff.mp (by rw [hm]; simp)
  obtain rfl : v = w := by rw [h] at hw; exact Option.some.inj hw
  have : (m.erase k).entries = l₁ ++ l₂ := he
  rw [this, hm]
  exact List.perm_middle

/-- The map with every value replaced. -/
def mapVal {β : Type*} (m : Assoc κ α) (f : κ → α → β) : Assoc κ β :=
  ⟨m.entries.map fun e => ⟨e.1, f e.1 e.2⟩, by
    have h := m.nodupKeys
    unfold List.NodupKeys List.keys at h ⊢
    simpa [List.map_map, Function.comp_def] using h⟩

lemma lookup_mapVal {β : Type*} (m : Assoc κ α) (f : κ → α → β) (k : κ) :
    (mapVal m f).lookup k = (m.lookup k).map (f k) := by
  unfold AList.lookup mapVal
  simp only
  induction m.entries with
  | nil => rfl
  | cons e l ih =>
    obtain ⟨j, v⟩ := e
    by_cases h : j = k
    · subst h; simp
    · rw [List.map_cons, List.dlookup_cons_ne _ _ (Ne.symm h),
        List.dlookup_cons_ne _ _ (Ne.symm h), ih]

/-- The map without the keys `ks`. -/
def eraseAll (m : Assoc κ α) (ks : List κ) : Assoc κ α := ks.foldl (fun m k => m.erase k) m

lemma lookup_eraseAll (m : Assoc κ α) (ks : List κ) (j : κ) :
    (eraseAll m ks).lookup j = if j ∈ ks then none else m.lookup j := by
  induction ks generalizing m with
  | nil => rfl
  | cons k ks ih =>
    have h : eraseAll m (k :: ks) = eraseAll (m.erase k) ks := rfl
    rw [h, ih, lookup_erase_ite]
    by_cases hj : j ∈ ks <;> by_cases hk : j = k <;> simp [hj, hk]

/-- The value under `k` replaced, if there is one. -/
def modify (m : Assoc κ α) (k : κ) (f : α → α) : Assoc κ α :=
  match m.lookup k with
  | none => m
  | some v => m.insert k (f v)

lemma lookup_modify (m : Assoc κ α) (k j : κ) (f : α → α) :
    (modify m k f).lookup j = if j = k then (m.lookup j).map f else m.lookup j := by
  unfold modify
  split
  · rename_i h
    split
    · rename_i hj; rw [hj, h]; rfl
    · rfl
  · rename_i v h
    rw [lookup_insert_ite]
    split
    · rename_i hj; rw [hj, h]; rfl
    · rfl

/-! ### Maps that go on -/

section Follows

variable {R S T : κ → α → α → Prop} {m m' m'' : Assoc κ α} {k : κ} {a b : α}

/-- No key comes or goes, and every value goes on as `R` says. -/
def Follows (R : κ → α → α → Prop) (m m' : Assoc κ α) : Prop :=
  ∀ k, Option.Rel (R k) (m.lookup k) (m'.lookup k)

namespace Follows

lemma of_eq (hR : ∀ k a, R k a a) (h : m' = m) : Follows R m m' := fun k => by
  rw [h]
  cases m.lookup k with
  | none => exact .none
  | some a => exact .some (hR k a)

lemma get (h : Follows R m m') (hk : m.lookup k = some a) :
    ∃ b, m'.lookup k = some b ∧ R k a b := by
  have hrel := h k
  rw [hk] at hrel
  generalize m'.lookup k = o at hrel ⊢
  cases hrel with
  | some hr => exact ⟨_, rfl, hr⟩

lemma source (h : Follows R m m') (hk : m'.lookup k = some b) :
    ∃ a, m.lookup k = some a ∧ R k a b := by
  have hrel := h k
  rw [hk] at hrel
  generalize m.lookup k = o at hrel ⊢
  cases hrel with
  | some hr => exact ⟨_, rfl, hr⟩

lemma trans (h : Follows R m m') (h' : Follows S m' m'')
    (hT : ∀ k a b c, R k a b → S k b c → T k a c) : Follows T m m'' := fun k => by
  have hrel := h k
  have hrel' := h' k
  generalize m.lookup k = o, m'.lookup k = o', m''.lookup k = o'' at hrel hrel' ⊢
  cases hrel with
  | none => cases hrel' with | none => exact .none
  | some hr => cases hrel' with | some hr' => exact .some (hT k _ _ _ hr hr')

lemma mono (h : Follows R m m') (hS : ∀ k a b, R k a b → S k a b) : Follows S m m' :=
  h.trans (S := fun _ a b => b = a) (.of_eq (fun _ _ => rfl) rfl) fun k a _ _ hr he =>
    hS k a _ (he ▸ hr)

lemma insert (hR : ∀ j a, j ≠ k → R j a a) (hk : m.lookup k = some a) (hb : R k a b) :
    Follows R m (m.insert k b) := fun j => by
  rw [lookup_insert_ite]
  split
  · rename_i hj
    rw [hj, hk]
    exact .some hb
  · cases m.lookup j with
    | none => exact .none
    | some c => exact .some (hR j c ‹_›)

lemma modify {f : α → α} (hR : ∀ k a, R k a a) (hf : ∀ a, m.lookup k = some a → R k a (f a)) :
    Follows R m (Assoc.modify m k f) := by
  unfold Assoc.modify
  split
  · exact of_eq hR rfl
  · exact insert (fun j c _ => hR j c) ‹_› (hf _ ‹_›)

end Follows

end Follows

/-! ### Sums over a map -/

/-- What the entries of a map weigh together. -/
def total (w : κ → α → ℕ) (m : Assoc κ α) : ℕ := (m.entries.map fun e => w e.1 e.2).sum

section Total

variable (w : κ → α → ℕ) (m : Assoc κ α)

lemma erase_of_none {k : κ} (h : m.lookup k = none) : m.erase k = m :=
  AList.ext (List.kerase_of_notMem_keys (AList.lookup_eq_none.mp h))

lemma total_erase {k : κ} {v : α} (h : m.lookup k = some v) :
    total w (m.erase k) + w k v = total w m := by
  have hsum : total w m = w k v + total w (m.erase k) := by
    have hperm := List.Perm.sum_eq ((entries_perm_erase h).map fun e => w e.fst e.snd)
    rwa [List.map_cons, List.sum_cons] at hperm
  omega

lemma total_erase_le (k : κ) : total w (m.erase k) ≤ total w m := by
  rcases h : m.lookup k with _ | v
  · rw [erase_of_none m h]
  · have := total_erase w m h
    omega

lemma total_insert (k : κ) (v : α) : total w (m.insert k v) = w k v + total w (m.erase k) := by
  unfold total
  rw [AList.entries_insert]
  rfl

omit [DecidableEq κ] in
lemma total_mapVal {β : Type*} (w : κ → β → ℕ) (f : κ → α → β) :
    total w (mapVal m f) = total (fun k v => w k (f k v)) m := by
  simp [total, mapVal, Function.comp_def]

lemma total_eraseAll {ks : List κ} (hn : ks.Nodup) :
    total w (eraseAll m ks) + (ks.map fun k => (m.lookup k).elim 0 (w k)).sum = total w m := by
  induction ks generalizing m with
  | nil => rfl
  | cons k ks ih =>
    obtain ⟨hk, hn⟩ := List.nodup_cons.mp hn
    have hrest := ih (m.erase k) hn
    have hsame : (ks.map fun j => ((m.erase k).lookup j).elim 0 (w j)) =
        ks.map fun j => (m.lookup j).elim 0 (w j) := by
      apply List.map_congr_left
      intro j hj
      rw [AList.lookup_erase_ne (ne_of_mem_of_not_mem hj hk)]
    have hone : total w (m.erase k) + (m.lookup k).elim 0 (w k) = total w m := by
      rcases hx : m.lookup k with _ | v
      · rw [erase_of_none m hx]
        rfl
      · exact total_erase w m hx
    have hcons : eraseAll m (k :: ks) = eraseAll (m.erase k) ks := rfl
    rw [hsame] at hrest
    rw [hcons, List.map_cons, List.sum_cons]
    omega

/-- A map falls into the entries whose keys satisfy `p` and those left without them. -/
lemma total_eraseAll_filter (p : κ → Bool) :
    total w (eraseAll m ((m.entries.filter fun e => p e.1).map Sigma.fst)) +
      ((m.entries.filter fun e => p e.1).map fun e => w e.1 e.2).sum = total w m := by
  have hn : ((m.entries.filter fun e => p e.1).map Sigma.fst).Nodup :=
    (List.filter_sublist.map Sigma.fst).nodup m.nodupKeys
  rw [← total_eraseAll w m hn, List.map_map]
  congr 2
  apply List.map_congr_left
  intro e he
  have hl := mem_entries_iff.mp (List.mem_filter.mp he).1
  simp [hl]

end Total

/-! ### Maps with a list of their keys -/

section Listed

variable {m : Assoc κ α} {k : κ} {l : List κ}

/-- Every key of the map is in the list. -/
def Listed (m : Assoc κ α) (l : List κ) : Prop := ∀ k, (m.lookup k).isSome → k ∈ l

lemma Listed.length_le (h : Listed m l) : m.entries.length ≤ l.length := by
  have hsub : m.keys ⊆ l := fun k hk => h k (AList.lookup_isSome.mpr hk)
  have hle := (List.subperm_of_subset m.keys_nodup hsub).length_le
  rwa [AList.keys, List.keys, List.length_map] at hle

lemma Listed.erase_head (h : Listed m (k :: l)) : Listed (m.erase k) l := by
  intro j hj
  rw [lookup_erase_ite] at hj
  split at hj
  · cases hj
  · rename_i hne
    exact (List.mem_cons.mp (h j hj)).resolve_left hne

lemma Listed.eraseAll {l₁ l₂ : List κ} (h : Listed m (l₁ ++ l₂)) :
    Listed (Assoc.eraseAll m l₁) l₂ := by
  induction l₁ generalizing m with
  | nil => exact h
  | cons k l₁ ih => exact ih h.erase_head

lemma Listed.push (h : Listed m l) (k : κ) (v : α) : Listed (m.insert k v) (l ++ [k]) := by
  intro j hj
  rw [lookup_insert_ite] at hj
  split at hj
  · rename_i hjk
    simp [hjk]
  · exact List.mem_append_left _ (h j hj)

lemma length_insert (m : Assoc κ α) (k : κ) (v : α) : (m.insert k v).entries.length =
    if (m.lookup k).isSome then m.entries.length else m.entries.length + 1 := by
  rw [AList.entries_insert, List.length_cons]
  cases hk : m.lookup k with
  | none =>
    have : m.entries.kerase k = m.entries := congrArg AList.entries (erase_of_none m hk)
    rw [this]
    rfl
  | some w =>
    have := (entries_perm_erase hk).length_eq
    rw [List.length_cons] at this
    exact this.symm

lemma length_erase_le (m : Assoc κ α) (k : κ) : (m.erase k).entries.length ≤ m.entries.length := by
  cases hk : m.lookup k with
  | none => rw [erase_of_none m hk]
  | some v =>
    have := (entries_perm_erase hk).length_eq
    rw [List.length_cons] at this
    omega

lemma lookup_foldl_insert {l : List (κ × α)} {v : α}
    (h : (l.foldl (fun m e => m.insert e.1 e.2) m).lookup k = some v) :
    m.lookup k = some v ∨ k ∈ l.map Prod.fst := by
  induction l generalizing m with
  | nil => exact .inl h
  | cons e l ih =>
    rcases ih h with hm | hl
    · rw [lookup_insert_ite] at hm
      split at hm
      · exact .inr (by simp [*])
      · exact .inl hm
    · exact .inr (List.mem_cons_of_mem _ hl)

end Listed

end Assoc

end RobotHal
