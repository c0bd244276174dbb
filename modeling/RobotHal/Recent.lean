import RobotHal.Assoc

/-!
The most recent entries of a history that only grows, and tables that keep just these.

A list that takes every new entry at its end and is cut at its front to a fixed length is always
the list of the most recent entries, whether it is cut before or after the entry is added. A map
that forgets the keys that are cut off has the records of these entries and no others.
-/

namespace RobotHal

variable {α : Type*} {n : ℕ} {l : List α} {a : α}

/-- The last `n` entries. -/
def recent (n : ℕ) (l : List α) : List α := l.drop (l.length - n)

lemma length_recent : (recent n l).length = min n l.length := by
  rw [recent, List.length_drop]
  omega

lemma recent_of_length_le (h : l.length ≤ n) : recent n l = l := by
  rw [recent, Nat.sub_eq_zero_of_le h, List.drop_zero]

lemma recent_sublist (n : ℕ) (l : List α) : (recent n l).Sublist l := List.drop_sublist _ _

lemma mem_of_mem_recent (h : a ∈ recent n l) : a ∈ l := (recent_sublist n l).subset h

lemma recent_map {β : Type*} (f : α → β) (n : ℕ) (l : List α) :
    recent n (l.map f) = (recent n l).map f := by
  rw [recent, recent, List.length_map, List.map_drop]

lemma recent_recent {m : ℕ} (h : m ≤ n) (l : List α) : recent m (recent n l) = recent m l := by
  rw [recent, length_recent, recent, List.drop_drop, recent]
  congr 1
  omega

lemma recent_snoc (n : ℕ) (l : List α) (a : α) :
    recent (n + 1) (l ++ [a]) = recent n l ++ [a] := by
  rw [recent, List.length_append, List.length_singleton, Nat.add_sub_add_right,
    List.drop_append_of_le_length (Nat.sub_le _ _), recent]

lemma recent_recent_snoc (n : ℕ) (l : List α) (a : α) :
    recent n (recent n l ++ [a]) = recent n (l ++ [a]) := by
  cases n with
  | zero => simp [recent]
  | succ n => rw [recent_snoc, recent_snoc, recent_recent (Nat.le_succ n)]

lemma mem_recent_snoc (hn : 0 < n) : a ∈ recent n (l ++ [a]) := by
  obtain ⟨m, rfl⟩ := Nat.exists_eq_add_of_lt hn
  rw [recent_snoc]
  exact List.mem_append_right _ (List.mem_singleton_self a)

lemma mem_recent_of_snoc {b : α} (h : b ∈ recent n (l ++ [a])) : b ∈ recent n l ∨ b = a := by
  rw [← recent_recent_snoc] at h
  rcases List.mem_append.mp (mem_of_mem_recent h) with h | h
  · exact .inl h
  · exact .inr (List.mem_singleton.mp h)

/-! ### Records of the most recent entries -/

namespace Assoc

lemma mem_drop_iff {κ : Type*} {l : List (κ × α)} (hl : (l.map Prod.fst).Nodup) (j : ℕ)
    {x : κ × α} :
    x ∈ l.drop j ↔ x ∈ l ∧ x.1 ∉ (l.map Prod.fst).take j := by
  rw [← List.map_take]
  rw [← List.take_append_drop j l, List.map_append] at hl
  have hdisjoint := (List.nodup_append.mp hl).2.2
  constructor
  · intro hx
    refine ⟨List.mem_of_mem_drop hx, fun hk => ?_⟩
    exact hdisjoint _ hk _ (List.mem_map_of_mem hx) rfl
  · rintro ⟨hx, hk⟩
    rw [← List.take_append_drop j l] at hx
    exact (List.mem_append.mp hx).resolve_left fun ht => hk (List.mem_map_of_mem ht)

variable {κ : Type*} [DecidableEq κ] {α : Type*} {n : ℕ} {m : Assoc κ α} {order : List κ}
  {history : List (κ × α)}

/-- Of the records that were made, each under a key of its own, the map has the last `n`, and their
keys are listed in the order they were made. -/
structure Retains (n : ℕ) (m : Assoc κ α) (order : List κ) (history : List (κ × α)) : Prop where
  nodup : (history.map Prod.fst).Nodup
  order_eq : order = recent n (history.map Prod.fst)
  lookup_iff : ∀ k v, m.lookup k = some v ↔ (k, v) ∈ recent n history

lemma retains_empty (n : ℕ) : Retains n (∅ : Assoc κ α) [] [] where
  nodup := .nil
  order_eq := by simp [recent]
  lookup_iff := by simp [recent]

lemma Retains.mem_order (h : Retains n m order history) {k : κ} :
    k ∈ order ↔ (m.lookup k).isSome := by
  rw [h.order_eq, recent_map, List.mem_map, Option.isSome_iff_exists]
  constructor
  · rintro ⟨⟨_, v⟩, hv, rfl⟩
    exact ⟨v, (h.lookup_iff _ _).mpr hv⟩
  · rintro ⟨v, hv⟩
    exact ⟨(k, v), (h.lookup_iff _ _).mp hv, rfl⟩

lemma Retains.order_nodup (h : Retains n m order history) : order.Nodup := by
  rw [h.order_eq]
  exact (recent_sublist _ _).nodup h.nodup

lemma Retains.length_order (h : Retains n m order history) : order.length ≤ n := by
  rw [h.order_eq, length_recent]
  exact Nat.min_le_left ..

lemma Retains.push (h : Retains (n + 1) m order history) {k : κ} (hk : k ∉ history.map Prod.fst)
    (v : α) :
    Retains (n + 1) ((eraseAll m (order.take (order.length - n))).insert k v)
      (order.drop (order.length - n) ++ [k]) (history ++ [(k, v)]) where
  nodup := by
    rw [List.map_append]
    refine List.nodup_append.mpr ⟨h.nodup, List.nodup_singleton k, fun a ha b hb hab => hk ?_⟩
    rwa [hab, List.mem_singleton.mp hb] at ha
  order_eq := by
    have hcut : order.drop (order.length - n) = recent n (history.map Prod.fst) := by
      rw [← recent_recent (Nat.le_succ n), ← h.order_eq, recent]
    rw [hcut, List.map_append, List.map_cons, List.map_nil, recent_snoc]
  lookup_iff := by
    intro j w
    rw [lookup_insert_ite, recent_snoc, List.mem_append, List.mem_singleton, Prod.mk.injEq]
    by_cases hj : j = k
    · subst hj
      have hnew : (j, w) ∉ recent n history := fun hmem =>
        hk (List.mem_map_of_mem (mem_of_mem_recent hmem))
      simp [hnew, eq_comm]
    · have hold := mem_drop_iff (l := recent (n + 1) history)
        (by rw [← recent_map]; exact (recent_sublist _ _).nodup h.nodup) (order.length - n)
        (x := (j, w))
      have hlength : order.length = (recent (n + 1) history).length := by
        rw [h.order_eq, recent_map, List.length_map]
      rw [← recent_map, ← h.order_eq, hlength, ← recent, recent_recent (Nat.le_succ n),
        ← h.lookup_iff, ← hlength] at hold
      rw [if_neg hj, lookup_eraseAll, hold]
      simp only [hj, false_and, or_false]
      split <;> simp_all

end Assoc

end RobotHal
