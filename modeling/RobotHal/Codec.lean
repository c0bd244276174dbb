import Mathlib

/-!
Decoders that may fail, and what it means for one to lose nothing.

A decoder is exact if it accepts the messages of the valid values and no others, and gives each
value back. It undoes the encoder, the encoder undoes it on whatever it accepts, and no two
messages are accepted as the same value.
-/

namespace RobotHal

/-! ### Results -/

section Results

variable {ε α β : Type} {x : Except ε α}

lemma bind_eq_ok {f : α → Except ε β} {b : β} :
    x.bind f = .ok b ↔ ∃ a, x = .ok a ∧ f a = .ok b := by
  rcases x with e | a <;> simp [Except.bind]

lemma bindM_eq_ok {f : α → Except ε β} {b : β} :
    (x >>= f) = .ok b ↔ ∃ a, x = .ok a ∧ f a = .ok b := bind_eq_ok

lemma ok_bind (a : α) (f : α → Except ε β) : (Except.ok a >>= f) = f a := rfl

lemma mapError_eq_ok {ε' : Type} {f : ε → ε'} {a : α} : x.mapError f = .ok a ↔ x = .ok a := by
  rcases x with e | b <;> simp [Except.mapError]

lemma map_eq_ok {f : α → β} {b : β} : x.map f = .ok b ↔ ∃ a, x = .ok a ∧ f a = b := by
  rcases x with e | a <;> simp [Except.map]

lemma ite_error_eq_ok {p : Prop} [Decidable p] {e : ε} {a : α} :
    (if p then .error e else x) = .ok a ↔ ¬p ∧ x = .ok a := by
  split <;> simp [*]

lemma ok_of_toOption {a : α} (h : a ∈ x.toOption) : x = .ok a := by
  rcases x with e | b
  · cases h
  · exact congrArg _ (Option.some.inj h)

/-- `Option::ok_or`. -/
def okOr (o : Option α) (e : ε) : Except ε α :=
  match o with
  | some a => .ok a
  | none => .error e

lemma okOr_eq_ok {o : Option α} {e : ε} {a : α} : okOr o e = .ok a ↔ o = some a := by
  rcases o with _ | b <;> simp [okOr]

end Results

namespace Codec

variable {ε α μ : Type}

/-- What is accepted as a value is the message of that value, which is valid, and nothing else. -/
def Exact (valid : α → Prop) (encode : α → μ) (decode : μ → Except ε α) : Prop :=
  ∀ m a, decode m = .ok a ↔ valid a ∧ m = encode a

namespace Exact

variable {valid : α → Prop} {encode : α → μ} {decode : μ → Except ε α}

lemma bind_iff (h : Exact valid encode decode) {β : Type} {f : α → Except ε β} {m : μ} {b : β} :
    (decode m >>= f) = .ok b ↔ ∃ a, (valid a ∧ m = encode a) ∧ f a = .ok b :=
  bind_eq_ok.trans (exists_congr fun a => and_congr_left' (h m a))

lemma decode_encode (h : Exact valid encode decode) {a : α} (ha : valid a) :
    decode (encode a) = .ok a := (h _ a).mpr ⟨ha, rfl⟩

lemma option (h : Exact valid encode decode) :
    Exact (fun o : Option α => ∀ a ∈ o, valid a) (Option.map encode)
      (fun o => o.mapM decode) := by
  intro o o'
  rcases o with _ | m
  · rcases o' with _ | a
    · simp [pure, Except.pure]
    · simp [pure, Except.pure]
  · have hmap : Option.mapM decode (some m) = (decode m).map some := by
      rcases hd : decode m with e | a <;> simp [Option.mapM, hd, Functor.map, Except.map]
    simp only [hmap, map_eq_ok]
    constructor
    · rintro ⟨a, ha, rfl⟩
      obtain ⟨hv, rfl⟩ := (h m a).mp ha
      exact ⟨by simpa using hv, rfl⟩
    · rintro ⟨hv, hm⟩
      obtain ⟨a, rfl, rfl⟩ := Option.map_eq_some_iff.mp hm.symm
      exact ⟨a, h.decode_encode (hv a rfl), rfl⟩

lemma list (h : Exact valid encode decode) :
    Exact (fun l : List α => ∀ a ∈ l, valid a) (List.map encode) (fun l => l.mapM decode) := by
  intro l
  induction l with
  | nil =>
    intro l'
    rcases l' with _ | ⟨a, l'⟩ <;> simp [pure, Except.pure]
  | cons m l ih =>
    intro l'
    have hcons : (m :: l).mapM decode = (decode m).bind fun a => (l.mapM decode).map (a :: ·) := by
      rw [List.mapM_cons]
      rcases decode m with e | a
      · rfl
      · rcases hl : l.mapM decode with e | l' <;> rfl
    simp only [hcons, bind_eq_ok, map_eq_ok]
    constructor
    · rintro ⟨a, ha, l'', hl, rfl⟩
      obtain ⟨hv, rfl⟩ := (h m a).mp ha
      obtain ⟨hvs, rfl⟩ := (ih l'').mp hl
      exact ⟨List.forall_mem_cons.mpr ⟨hv, hvs⟩, rfl⟩
    · rintro ⟨hv, hm⟩
      rcases l' with _ | ⟨a, l''⟩
      · cases hm
      · obtain ⟨rfl, rfl⟩ := List.cons.inj hm
        obtain ⟨ha, hl⟩ := List.forall_mem_cons.mp hv
        exact ⟨a, h.decode_encode ha, l'', (ih l'').mpr ⟨hl, rfl⟩, rfl⟩

end Exact

end Codec

end RobotHal
