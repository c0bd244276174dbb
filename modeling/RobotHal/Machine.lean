import Mathlib

/-!
Runs of a machine, in two shapes, and what their histories say.

A call machine answers every call: a run is the list of calls made, its trace pairs each
call with the answer. An event machine may refuse an event: a run is a list of events each
of which was allowed in the state it met. Either way a property of all runs is proved by
looking at one step.
-/

namespace RobotHal.Machine

variable {σ α β ε : Type*}

section Calls

variable (step : σ → α → σ × β)

/-- The state after the calls `l`. -/
def final (s : σ) (l : List α) : σ := l.foldl (fun s a => (step s a).1) s

/-- The calls `l`, each with its answer. -/
def trace (s : σ) : List α → List (α × β)
  | [] => []
  | a :: l => (a, (step s a).2) :: trace (step s a).1 l

@[simp] lemma final_nil (s : σ) : final step s [] = s := rfl
@[simp] lemma final_cons (s : σ) (a : α) (l : List α) :
    final step s (a :: l) = final step (step s a).1 l := rfl

lemma final_append (s : σ) (l m : List α) :
    final step s (l ++ m) = final step (final step s l) m := by
  simp [final, List.foldl_append]

lemma trace_append (s : σ) (l m : List α) :
    trace step s (l ++ m) = trace step s l ++ trace step (final step s l) m := by
  induction l generalizing s with
  | nil => rfl
  | cons a l ih => simp [trace, ih]

lemma exists_of_mem_trace {s : σ} {l : List α} {x : α × β} (h : x ∈ trace step s l) :
    ∃ u a v, l = u ++ a :: v ∧ x = (a, (step (final step s u) a).2) := by
  induction l generalizing s with
  | nil => cases h
  | cons a l ih =>
    rcases List.mem_cons.mp h with rfl | h
    · exact ⟨[], a, l, rfl, rfl⟩
    · obtain ⟨u, b, v, rfl, rfl⟩ := ih h
      exact ⟨a :: u, b, v, rfl, rfl⟩

/-- **Induction over a run**: a relation between the trace so far and the state that holds
before the first call and survives every call holds after every run. -/
theorem trace_induction {P : List (α × β) → σ → Prop} {s : σ} (h0 : P [] s)
    (hstep : ∀ tr t a, P tr t → P (tr ++ [(a, (step t a).2)]) (step t a).1) (l : List α) :
    P (trace step s l) (final step s l) := by
  induction l using List.reverseRecOn with
  | nil => exact h0
  | append_singleton l a ih =>
    rw [trace_append, final_append]
    exact hstep _ _ a ih

end Calls

section Histories

/-- Something satisfying `P` happened and nothing satisfying `Q` has happened since. -/
def Since (P Q : ε → Prop) (h : List ε) : Prop :=
  ∃ u x v, h = u ++ x :: v ∧ P x ∧ ∀ y ∈ v, ¬Q y

variable {P Q : ε → Prop} {h : List ε}

lemma not_since_nil : ¬Since P Q [] := by
  rintro ⟨u, x, v, h, -⟩
  simp at h

/-- The place of an event in a history one event longer: last, or where it was. -/
lemma split_snoc {e x : ε} {u v : List ε} (hh : h ++ [e] = u ++ x :: v) :
    (x = e ∧ v = []) ∨ ∃ w, v = w ++ [e] ∧ h = u ++ x :: w := by
  rcases List.eq_nil_or_concat v with rfl | ⟨w, z, rfl⟩
  · obtain ⟨rfl, hxy⟩ := List.append_inj' hh rfl
    exact .inl ⟨by simp_all, rfl⟩
  · have hh : h ++ [e] = (u ++ x :: w) ++ [z] := by simpa using hh
    obtain ⟨rfl, hez⟩ := List.append_inj' hh rfl
    obtain rfl : e = z := by simpa using hez
    exact .inr ⟨w, by simp, rfl⟩

lemma since_snoc {x : ε} : Since P Q (h ++ [x]) ↔ P x ∨ (Since P Q h ∧ ¬Q x) := by
  constructor
  · rintro ⟨u, y, v, hh, hy, hv⟩
    rcases split_snoc hh with ⟨rfl, -⟩ | ⟨w, rfl, rfl⟩
    · exact .inl hy
    · exact .inr ⟨⟨u, y, w, rfl, hy, fun z hz => hv z (by simp [hz])⟩, hv x (by simp)⟩
  · rintro (hx | ⟨⟨u, y, v, rfl, hy, hv⟩, hx⟩)
    · exact ⟨h, x, [], rfl, hx, by simp⟩
    · refine ⟨u, y, v ++ [x], by simp, hy, fun w hw => ?_⟩
      rcases List.mem_append.mp hw with hw | hw
      · exact hv w hw
      · obtain rfl : w = x := by simpa using hw
        exact hx

lemma since_append {later : List ε} (hs : Since P Q h) (hl : ∀ y ∈ later, ¬Q y) :
    Since P Q (h ++ later) := by
  obtain ⟨u, x, v, rfl, hx, hv⟩ := hs
  refine ⟨u, x, v ++ later, by simp, hx, fun y hy => ?_⟩
  rcases List.mem_append.mp hy with hy | hy
  · exact hv y hy
  · exact hl y hy

/-- Two places of one history: one is later, or they are the same. -/
lemma split_cases {x y : ε} {u v u' v' : List ε} (hh : u ++ x :: v = u' ++ y :: v') :
    y ∈ v ∨ x ∈ v' ∨ (u = u' ∧ x = y ∧ v = v') := by
  rcases List.append_eq_append_iff.mp hh with ⟨w, rfl, hw⟩ | ⟨w, rfl, hw⟩
  · cases w with
    | nil => simp_all
    | cons b w => exact .inl (by simp_all)
  · cases w with
    | nil => simp_all
    | cons b w => exact .inr (.inl (by simp_all))

/-- Where labels are never repeated, a label marks one place of the history. -/
lemma split_unique {ι : Type*} {label : ε → Option ι} {i : ι} {x y : ε} {u v u' v' : List ε}
    (hn : (h.filterMap label).Nodup) (hu : h = u ++ x :: v) (hu' : h = u' ++ y :: v')
    (hx : label x = some i) (hy : label y = some i) : u = u' ∧ x = y ∧ v = v' := by
  have hrep : ∀ {a b : ε} {p q : List ε}, h = p ++ a :: q → label a = some i →
      label b = some i → b ∉ q := by
    intro a b p q hp ha hb hq
    rw [hp, List.filterMap_append, List.filterMap_cons_some ha] at hn
    have hi : i ∈ q.filterMap label := List.mem_filterMap.mpr ⟨b, hq, hb⟩
    exact (List.nodup_cons.mp (List.nodup_append.mp hn).2.1).1 hi
  rcases split_cases (hu.symm.trans hu') with h | h | h
  · exact absurd h (hrep hu hx hy)
  · exact absurd h (hrep hu' hy hx)
  · exact h

end Histories

section Events

variable (step : σ → ε → Option σ)

/-- A run in which every event met the condition `ok` in the state before it. -/
inductive Runs (ok : σ → ε → Prop) (s : σ) : List ε → σ → Prop
  | nil : Runs ok s [] s
  | snoc {l : List ε} {t u : σ} {e : ε} (h : Runs ok s l t) (hok : ok t e)
      (hs : step t e = some u) : Runs ok s (l ++ [e]) u

/-- The state after the events `l`, if each met the condition and none was refused. -/
def exec (ok : σ → ε → Prop) [∀ s e, Decidable (ok s e)] (s : σ) (l : List ε) : Option σ :=
  l.foldlM (fun s e => if ok s e then step s e else none) s

variable {step}

/-- **Invariants of an event machine.** -/
theorem Runs.invariant {ok : σ → ε → Prop} {I : σ → Prop} {s t : σ} {l : List ε}
    (h : Runs step ok s l t) (h0 : I s)
    (hstep : ∀ a e b, I a → ok a e → step a e = some b → I b) : I t := by
  induction h with
  | nil => exact h0
  | snoc _ hok hs ih => exact hstep _ _ _ ih hok hs

lemma Runs.cons {ok : σ → ε → Prop} {s t u : σ} {e : ε} {l : List ε} (hok : ok s e)
    (hs : step s e = some u) (h : Runs step ok u l t) : Runs step ok s (e :: l) t := by
  induction h with
  | nil => exact .snoc .nil hok hs
  | snoc _ hok' hs' ih => exact .snoc ih hok' hs'

lemma runs_of_exec {ok : σ → ε → Prop} [∀ s e, Decidable (ok s e)] {s t : σ} {l : List ε}
    (h : exec step ok s l = some t) : Runs step ok s l t := by
  induction l generalizing s with
  | nil =>
    obtain rfl : s = t := by simpa [exec] using h
    exact .nil
  | cons e l ih =>
    simp only [exec, List.foldlM_cons, Option.bind_eq_bind, Option.bind_eq_some_iff] at h
    obtain ⟨u, hu, h⟩ := h
    split at hu
    · exact .cons ‹_› hu (ih h)
    · cases hu

/-- The states a list of events goes through, each with the event that comes next. -/
def steps (step : σ → ε → Option σ) (s : σ) : List ε → List (σ × ε)
  | [] => []
  | e :: l => (s, e) :: (step s e).elim [] fun t => steps step t l

lemma Runs.steps_append {ok : σ → ε → Prop} {s t : σ} {l : List ε} (h : Runs step ok s l t)
    (m : List ε) : steps step s (l ++ m) = steps step s l ++ steps step t m := by
  induction h generalizing m with
  | nil => rfl
  | snoc _ _ hs ih =>
    rw [List.append_assoc, ih, ih, List.append_assoc]
    simp [steps, hs]

lemma Runs.steps_snoc {ok : σ → ε → Prop} {s t : σ} {l : List ε} (h : Runs step ok s l t)
    (e : ε) : steps step s (l ++ [e]) = steps step s l ++ [(t, e)] := by
  rw [h.steps_append]
  cases hs : step t e <;> simp [steps, hs]

/-- However the machine takes its `own` events, `P` comes to hold. -/
inductive Inevitable (step : σ → ε → Option σ) (own : ε → Prop) (P : σ → Prop) : σ → Prop
  | now {s : σ} (h : P s) : Inevitable step own P s
  | later {s : σ} (henabled : ∃ e t, own e ∧ step s e = some t)
      (h : ∀ e t, own e → step s e = some t → Inevitable step own P t) : Inevitable step own P s

/-- What cannot get stuck and always gets closer arrives. -/
theorem inevitable_of_measure {own : ε → Prop} {P I : σ → Prop} (m : σ → ℕ)
    (henabled : ∀ s, I s → ¬P s → ∃ e t, own e ∧ step s e = some t)
    (hcloser : ∀ s e t, I s → ¬P s → own e → step s e = some t → P t ∨ I t ∧ m t < m s) {s : σ}
    (hs : I s) : Inevitable step own P s := by
  induction hm : m s using Nat.strongRecOn generalizing s with
  | ind n ih =>
    by_cases hP : P s
    · exact .now hP
    · refine .later (henabled s hs hP) fun e t howns hstep => ?_
      rcases hcloser s e t hs hP howns hstep with ht | ⟨ht, hlt⟩
      · exact .now ht
      · exact ih _ (hm ▸ hlt) ht rfl

end Events

end RobotHal.Machine
