import Mathlib

/-!
A bounded queue that makes room by dropping its oldest item.

The queue is kept with its past: what has left it, oldest first, and whether it was taken out
or dropped. Everything that ever arrived is then still there, in order.
-/

namespace RobotHal

/-- A queue and what has left it, `true` for what was taken out. -/
structure LossyQueue (α : Type*) where
  past : List (α × Bool) := []
  items : List α := []

namespace LossyQueue

variable {α : Type*} (q : LossyQueue α) (cap k : ℕ) (x : α)

def arrived : List α := q.past.map Prod.fst ++ q.items

def taken : List α := (q.past.filter fun p => p.2).map Prod.fst

def dropped : List α := (q.past.filter fun p => !p.2).map Prod.fst

/-- What has to go before an item is pushed. -/
def evicted : List α := if q.items.length = cap then q.items.take 1 else []

def push : LossyQueue α where
  past := q.past ++ (q.evicted cap).map fun y => (y, false)
  items := q.items.drop (q.evicted cap).length ++ [x]

/-- The oldest `k` items are taken out. -/
def take : LossyQueue α where
  past := q.past ++ (q.items.take k).map fun y => (y, true)
  items := q.items.drop k

lemma evicted_append_drop : q.evicted cap ++ q.items.drop (q.evicted cap).length = q.items := by
  unfold evicted
  split
  · rcases q.items with _ | ⟨y, l⟩ <;> simp
  · simp

@[simp] lemma arrived_push : (q.push cap x).arrived = q.arrived ++ [x] := by
  calc (q.push cap x).arrived
      = q.past.map Prod.fst ++ (q.evicted cap ++ q.items.drop (q.evicted cap).length) ++ [x] := by
        simp [arrived, push, Function.comp_def]
    _ = q.arrived ++ [x] := by rw [evicted_append_drop, arrived]

@[simp] lemma taken_push : (q.push cap x).taken = q.taken := by
  simp [taken, push, List.filter_map, Function.comp_def]

@[simp] lemma dropped_push : (q.push cap x).dropped = q.dropped ++ q.evicted cap := by
  simp [dropped, push, List.filter_map, Function.comp_def]

@[simp] lemma arrived_take : (q.take k).arrived = q.arrived := by
  simp [arrived, take, Function.comp_def]

@[simp] lemma taken_take : (q.take k).taken = q.taken ++ q.items.take k := by
  unfold taken take
  generalize q.items.take k = l
  simp [List.filter_map, Function.comp_def]

@[simp] lemma dropped_take : (q.take k).dropped = q.dropped := by
  unfold dropped take
  generalize q.items.take k = l
  simp [List.filter_map, Function.comp_def]

lemma taken_sublist : q.taken.Sublist q.arrived := by
  have h : q.taken.Sublist (q.past.map Prod.fst) := List.filter_sublist.map _
  exact h.trans (List.sublist_append_left _ _)

lemma items_suffix : q.items <:+ q.arrived := List.suffix_append _ _

/-- An item that arrived was taken out, was dropped, or is there. -/
lemma arrived_perm : q.arrived.Perm (q.taken ++ q.dropped ++ q.items) := by
  have h := (List.filter_append_perm (fun p : α × Bool => p.2) q.past).map Prod.fst
  rw [List.map_append] at h
  exact h.symm.append_right _

lemma length_push_le (hc : 1 ≤ cap) (h : q.items.length ≤ cap) :
    (q.push cap x).items.length ≤ cap := by
  have hl : (q.push cap x).items.length = q.items.length - (q.evicted cap).length + 1 := by
    simp [push]
  have he : q.items.length = cap → (q.evicted cap).length = 1 := by
    intro hfull
    simp only [evicted, hfull, if_true, List.length_take]
    omega
  by_cases hfull : q.items.length = cap
  · have := he hfull
    omega
  · omega

end LossyQueue

end RobotHal
