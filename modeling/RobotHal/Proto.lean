import Mathlib

/-!
What proto3 messages are made of, as generated code sees them: open enumerations are numbers
that a decoder turns back into values.
-/

namespace RobotHal.Proto

/-- The values of an enumeration and their numbers on the wire. -/
class Enumeration (ε : Type) where
  values : List ε
  number : ε → ℤ
  mem_values : ∀ e, e ∈ values
  number_injective : Function.Injective number

namespace Enumeration

variable {ε : Type} [Enumeration ε]

/-- The value with a number, if there is one. -/
def tryFrom (ε : Type) [Enumeration ε] (n : ℤ) : Option ε :=
  (values (ε := ε)).find? fun e => decide (number e = n)

lemma number_of_tryFrom {n : ℤ} {e : ε} (h : tryFrom ε n = some e) : number e = n := by
  simpa using List.find?_some h

lemma tryFrom_number (e : ε) : tryFrom ε (number e) = some e := by
  rcases h : tryFrom ε (number e) with _ | e'
  · have hno := List.find?_eq_none.mp h e (mem_values e)
    simp at hno
  · rw [number_injective (number_of_tryFrom h)]

end Enumeration

end RobotHal.Proto
