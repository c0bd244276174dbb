import Mathlib

/-!
Shelves that are filled at the oldest place and taken from at the newest.

A shelf has places that hold an item or nothing. A new item goes to an empty place or over the
oldest item, and the newest item is the one that is taken. If items come in increasing order, what
is taken is always the newest item that was not taken before; it is newer than everything taken so
far exactly if something came in since the last one was taken.
-/

namespace RobotHal

/-- The places of a shelf, and what was put there and taken from it so far. -/
structure Shelf (ι α : Type*) where
  ready : ι → Option α
  committed : List α := []
  taken : List α := []
  /-- something was put there since the last item was taken -/
  fresh : Bool := false

namespace Shelf

variable {ι α : Type*} [DecidableEq ι] [LinearOrder α] {v v' : Shelf ι α} {i : ι} {q : α}

/-- What is at place `i`, if anything, is the oldest item. -/
def Oldest (v : Shelf ι α) (i : ι) : Prop :=
  ∀ p, v.ready i = some p → ∀ j q, v.ready j = some q → p ≤ q

/-- The newest item is `q`, at place `i`. -/
def Newest (v : Shelf ι α) (i : ι) (q : α) : Prop :=
  v.ready i = some q ∧ ∀ j p, v.ready j = some p → p ≤ q

def put (v : Shelf ι α) (i : ι) (q : α) : Shelf ι α :=
  { v with
    ready := Function.update v.ready i (some q), committed := v.committed ++ [q], fresh := true }

def take (v : Shelf ι α) (i : ι) (q : α) : Shelf ι α :=
  { v with ready := Function.update v.ready i none, taken := v.taken ++ [q], fresh := false }

/-- What is known of a shelf whose items came in increasing order. -/
structure Inv (v : Shelf ι α) : Prop where
  known : ∀ i q, v.ready i = some q → q ∈ v.committed ∧ q ∉ v.taken
  distinct : ∀ i j q, v.ready i = some q → v.ready j = some q → i = j
  /-- an item that is gone without being taken is older than all that is left -/
  lost : ∀ q ∈ v.committed, q ∉ v.taken →
    (∃ i, v.ready i = some q) ∨ ∀ i p, v.ready i = some p → q < p
  taken : ∀ q ∈ v.taken, q ∈ v.committed
  fresh : v.fresh = true → ∃ i q, v.ready i = some q ∧ ∀ p ∈ v.committed, p ≤ q
  stale : v.fresh = false → ∀ p ∈ v.committed, ∃ q ∈ v.taken, p ≤ q

omit [LinearOrder α] in
lemma update_some {f : ι → Option α} {j : ι} {x : Option α} {p : α}
    (h : Function.update f i x j = some p) : (j = i ∧ x = some p) ∨ (j ≠ i ∧ f j = some p) := by
  rw [Function.update_apply] at h
  split at h
  · exact .inl ⟨‹_›, h⟩
  · exact .inr ⟨‹_›, h⟩

lemma Inv.put (h : v.Inv) (hi : v.Oldest i) (hq : ∀ p ∈ v.committed, p < q) : (v.put i q).Inv where
  known j p hp := by
    rcases update_some hp with ⟨-, hx⟩ | ⟨-, hx⟩
    · cases hx
      exact ⟨by simp [Shelf.put], fun ht => (hq q (h.taken q ht)).false⟩
    · obtain ⟨hc, ht⟩ := h.known j p hx
      exact ⟨List.mem_append_left _ hc, ht⟩
  distinct j k p hj hk := by
    rcases update_some hj with ⟨rfl, hx⟩ | ⟨hjne, hx⟩ <;>
      rcases update_some hk with ⟨rfl, hy⟩ | ⟨hkne, hy⟩
    · rfl
    · cases hx
      exact absurd (hq q (h.known k q hy).1) (lt_irrefl q)
    · cases hy
      exact absurd (hq q (h.known j q hx).1) (lt_irrefl q)
    · exact h.distinct j k p hx hy
  lost p hp ht := by
    rcases List.mem_append.mp hp with hpc | hp
    · -- an item that was there is still there, or it was the oldest and gave way
      rcases h.lost p hpc ht with ⟨k, hk⟩ | hold
      · by_cases hki : k = i
        · subst hki
          refine .inr fun j r hr => ?_
          rcases update_some hr with ⟨-, hx⟩ | ⟨hne, hx⟩
          · cases hx
            exact hq p hpc
          · refine lt_of_le_of_ne (hi p hk j r hx) ?_
            rintro rfl
            exact hne (h.distinct j k p hx hk)
        · exact .inl ⟨k, (Function.update_of_ne hki _ _).trans hk⟩
      · refine .inr fun j r hr => ?_
        rcases update_some hr with ⟨-, hx⟩ | ⟨-, hx⟩
        · cases hx
          exact hq p hpc
        · exact hold j r hx
    · obtain rfl := List.mem_singleton.mp hp
      exact .inl ⟨i, Function.update_self _ _ _⟩
  taken p hp := List.mem_append_left _ (h.taken p hp)
  fresh _ := by
    refine ⟨i, q, Function.update_self _ _ _, fun p hp => ?_⟩
    rcases List.mem_append.mp hp with hp | hp
    · exact (hq p hp).le
    · exact (List.mem_singleton.mp hp).le
  stale := nofun

lemma Inv.take (h : v.Inv) (hi : v.Newest i q) : (v.take i q).Inv where
  known j p hp := by
    rcases update_some hp with ⟨-, hx⟩ | ⟨hne, hx⟩
    · cases hx
    · obtain ⟨hc, ht⟩ := h.known j p hx
      refine ⟨hc, fun hp => ?_⟩
      rcases List.mem_append.mp hp with hp | hp
      · exact ht hp
      · obtain rfl := List.mem_singleton.mp hp
        exact hne (h.distinct j i p hx hi.1)
  distinct j k p hj hk := by
    rcases update_some hj with ⟨-, hx⟩ | ⟨-, hx⟩
    · cases hx
    rcases update_some hk with ⟨-, hy⟩ | ⟨-, hy⟩
    · cases hy
    exact h.distinct j k p hx hy
  lost p hp ht := by
    have hpt : p ∉ v.taken := fun hx => ht (List.mem_append_left _ hx)
    have hpq : p ≠ q := by
      rintro rfl
      exact ht (by simp [Shelf.take])
    rcases h.lost p hp hpt with ⟨k, hk⟩ | hold
    · refine .inl ⟨k, (Function.update_of_ne ?_ _ _).trans hk⟩
      rintro rfl
      exact hpq (Option.mem_unique hk hi.1)
    · refine .inr fun j r hr => ?_
      rcases update_some hr with ⟨-, hx⟩ | ⟨-, hx⟩
      · cases hx
      · exact hold j r hx
  taken p hp := by
    rcases List.mem_append.mp hp with hp | hp
    · exact h.taken p hp
    · obtain rfl := List.mem_singleton.mp hp
      exact (h.known i p hi.1).1
  fresh := nofun
  stale _ p hp := by
    have hmem : q ∈ (v.take i q).taken := by simp [Shelf.take]
    cases hf : v.fresh with
    | true =>
      obtain ⟨j, r, hr, hmax⟩ := h.fresh hf
      exact ⟨q, hmem, (hmax p hp).trans (hi.2 j r hr)⟩
    | false =>
      obtain ⟨r, hr, hle⟩ := h.stale hf p hp
      exact ⟨r, List.mem_append_left _ hr, hle⟩

omit [DecidableEq ι] in
lemma Inv.newest (h : v.Inv) (hi : v.Newest i q) : q ∈ v.committed ∧ q ∉ v.taken ∧
    ∀ p ∈ v.committed, p ∉ v.taken → p ≤ q := by
  obtain ⟨hc, ht⟩ := h.known i q hi.1
  refine ⟨hc, ht, fun p hp hpt => ?_⟩
  rcases h.lost p hp hpt with ⟨k, hk⟩ | hold
  · exact hi.2 k p hk
  · exact (hold i q hi.1).le

omit [DecidableEq ι] in
lemma Inv.fresh_iff (h : v.Inv) (hi : v.Newest i q) :
    v.fresh = true ↔ ∀ p ∈ v.taken, p < q := by
  obtain ⟨hc, ht, -⟩ := h.newest hi
  constructor
  · intro hf p hp
    obtain ⟨j, r, hr, hmax⟩ := h.fresh hf
    have hle : p ≤ q := (hmax p (h.taken p hp)).trans (hi.2 j r hr)
    refine lt_of_le_of_ne hle ?_
    rintro rfl
    exact ht hp
  · intro hlt
    by_contra hf
    rw [Bool.not_eq_true] at hf
    obtain ⟨r, hr, hle⟩ := h.stale hf q hc
    exact absurd (hlt r hr) hle.not_gt

end Shelf

end RobotHal
