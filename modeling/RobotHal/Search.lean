import Mathlib

/-!
Searches that keep the best candidate they have met, with its distance.
-/

namespace RobotHal

variable {α ι : Type} {d : α → ℕ}

/-- What a search has settled on is the nearest of the candidates it has met. -/
def Least (d : α → ℕ) (met : α → Prop) : Option (ℕ × α) → Prop
  | none => ∀ a, ¬met a
  | some (n, a) => met a ∧ n = d a ∧ ∀ b, met b → d a ≤ d b

namespace Least

variable {met met' : α → Prop} {best : Option (ℕ × α)}

lemma congr (h : Least d met best) (hm : ∀ a, met a ↔ met' a) : Least d met' best := by
  obtain rfl : met = met' := funext fun a => propext (hm a)
  exact h

lemma skip (h : Least d met best) {new : α → Prop} (hn : ∀ a, ¬new a) :
    Least d (fun a => met a ∨ new a) best :=
  h.congr fun a => by simp [hn a]

lemma offer (h : Least d met best) (a : α) :
    Least d (fun b => met b ∨ b = a)
      (if best.all fun x => d a < x.1 then some (d a, a) else best) := by
  rcases best with _ | ⟨n, b⟩
  · refine ⟨.inr rfl, rfl, fun c hc => ?_⟩
    rcases hc with hc | rfl
    · exact absurd hc (h c)
    · exact Nat.le_refl _
  · obtain ⟨hb, rfl, hle⟩ := h
    simp only [Option.all_some, decide_eq_true_eq]
    split
    · rename_i hlt
      refine ⟨.inr rfl, rfl, fun c hc => ?_⟩
      rcases hc with hc | rfl
      · exact Nat.le_trans (Nat.le_of_lt hlt) (hle c hc)
      · exact Nat.le_refl _
    · rename_i hge
      refine ⟨.inl hb, rfl, fun c hc => ?_⟩
      rcases hc with hc | rfl
      · exact hle c hc
      · exact Nat.not_lt.mp hge

lemma foldl {f : Option (ℕ × α) → ι → Option (ℕ × α)} (new : ι → α → Prop) {l : List ι}
    (hf : ∀ met best, ∀ i ∈ l, Least d met best → Least d (fun a => met a ∨ new i a) (f best i))
    (h : Least d met best) :
    Least d (fun a => met a ∨ ∃ i ∈ l, new i a) (l.foldl f best) := by
  induction l generalizing met best with
  | nil => exact h.congr fun a => by simp
  | cons i l ih =>
    have hstep := hf met best i (List.mem_cons_self ..) h
    refine (ih (fun met best j hj => hf met best j (List.mem_cons_of_mem i hj)) hstep).congr ?_
    intro a
    simp [or_assoc]

end Least

end RobotHal
