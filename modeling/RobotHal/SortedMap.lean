import Mathlib

/-!
Finite maps as lists in the order of their keys, with one entry a key. A map is determined by
its entries, in whatever order they are put in.
-/

namespace RobotHal.SortedMap

variable {κ α : Type*} [LinearOrder κ]

/-- The entries are in the order of their keys, and no key comes twice. -/
def Sorted (l : List (κ × α)) : Prop := l.Pairwise fun a b => a.1 < b.1

/-- A value under a key, which replaces the one that was there. -/
def insert (k : κ) (v : α) : List (κ × α) → List (κ × α)
  | [] => [(k, v)]
  | (j, w) :: l =>
    if k < j then (k, v) :: (j, w) :: l
    else if k = j then (k, v) :: l
    else (j, w) :: insert k v l

lemma mem_insert {k : κ} {v : α} {l : List (κ × α)} {x : κ × α} (h : x ∈ insert k v l) :
    x = (k, v) ∨ x ∈ l := by
  induction l with
  | nil => exact .inl (List.mem_singleton.mp h)
  | cons e l ih =>
    obtain ⟨j, w⟩ := e
    unfold insert at h
    split at h
    · exact List.mem_cons.mp h
    split at h
    · rcases List.mem_cons.mp h with h | h
      · exact .inl h
      · exact .inr (List.mem_cons_of_mem _ h)
    · rcases List.mem_cons.mp h with h | h
      · exact .inr (h ▸ List.mem_cons_self ..)
      · exact (ih h).imp_right (List.mem_cons_of_mem _)

lemma Sorted.insert {l : List (κ × α)} (h : Sorted l) (k : κ) (v : α) :
    Sorted (insert k v l) := by
  induction l with
  | nil => exact List.pairwise_singleton ..
  | cons e l ih =>
    obtain ⟨j, w⟩ := e
    obtain ⟨hj, hl⟩ := List.pairwise_cons.mp h
    unfold SortedMap.insert
    split
    · rename_i hkj
      refine List.pairwise_cons.mpr ⟨fun x hx => ?_, h⟩
      rcases List.mem_cons.mp hx with rfl | hx
      · exact hkj
      · exact hkj.trans (hj x hx)
    split
    · rename_i _ hkj
      subst hkj
      exact List.pairwise_cons.mpr ⟨hj, hl⟩
    · rename_i hlt hne
      refine List.pairwise_cons.mpr ⟨fun x hx => ?_, ih hl⟩
      rcases mem_insert hx with rfl | hx
      · exact lt_of_le_of_ne (not_lt.mp hlt) (Ne.symm hne)
      · exact hj x hx

lemma insert_perm {k : κ} (v : α) {l : List (κ × α)} (h : k ∉ l.map Prod.fst) :
    (insert k v l).Perm ((k, v) :: l) := by
  induction l with
  | nil => exact .refl _
  | cons e l ih =>
    obtain ⟨j, w⟩ := e
    have hj : k ≠ j := fun hk => h (by simp [hk])
    have hl : k ∉ l.map Prod.fst := fun hk => h (by simp [hk])
    unfold insert
    split
    · exact .refl _
    · exact ((ih hl).cons _).trans (.swap ..)

lemma eq_of_perm {l m : List (κ × α)} (hl : Sorted l) (hm : Sorted m) (h : l.Perm m) : l = m :=
  h.eq_of_pairwise (fun _ _ _ _ hab hba => absurd hab (lt_asymm hba)) hl hm

/-- All entries of a list are put in. -/
def insertAll (m l : List (κ × α)) : List (κ × α) := l.foldl (fun m e => insert e.1 e.2 m) m

lemma Sorted.insertAll {m : List (κ × α)} (h : Sorted m) (l : List (κ × α)) :
    Sorted (insertAll m l) := by
  induction l generalizing m with
  | nil => exact h
  | cons e l ih => exact ih (h.insert e.1 e.2)

lemma insertAll_perm {m l : List (κ × α)} (h : ((m ++ l).map Prod.fst).Nodup) :
    (insertAll m l).Perm (m ++ l) := by
  induction l generalizing m with
  | nil => simp [insertAll]
  | cons e l ih =>
    have hmiddle : List.Perm (m ++ e :: l) (e :: m ++ l) := List.perm_middle
    have hmid : ((e :: m ++ l).map Prod.fst).Nodup := (hmiddle.map Prod.fst).nodup_iff.mp h
    have hnew : e.1 ∉ m.map Prod.fst := by
      rw [List.cons_append, List.map_cons, List.map_append] at hmid
      intro he
      exact (List.nodup_cons.mp hmid).1 (List.mem_append_left _ he)
    have hins := insert_perm e.2 hnew
    have hstep : (insertAll (insert e.1 e.2 m) l).Perm (insert e.1 e.2 m ++ l) :=
      ih (((hins.append_right l).map Prod.fst).nodup_iff.mpr hmid)
    calc List.Perm (insertAll m (e :: l)) (insert e.1 e.2 m ++ l) := hstep
      List.Perm _ (e :: m ++ l) := hins.append_right l
      List.Perm _ (m ++ e :: l) := hmiddle.symm

end RobotHal.SortedMap
