import RobotHal.LeaseTable

/-!
Fencing by the exclusive lease table, told from the history of calls.

A reservation that is released before it was committed gives its generation back, so the
counter alone is not monotone. What is: the floor of a resource, the largest generation
that can no longer be given back.
-/

namespace RobotHal.LeaseTable

variable {x x' : Slot} {c : Call} {a : Answer} {r : ResourceId} {s : SessionId} {o : OwnerId}
  {k : LeaseToken} {h : History}
variable {s' : SessionId} {o' : OwnerId} {k' : LeaseToken} {calls : List Call} {u v : History}

/-- Calls and their answers, oldest first. -/
abbrev History := List (Call × Answer)

/-- The call reserved `r` for the session and owner and returned this token. -/
def ReservedBy (r : ResourceId) (s : SessionId) (o : OwnerId) (token : LeaseToken)
    (x : Call × Answer) : Prop :=
  ∃ fresh, x = (.reserveControl r s o fresh, .reserved (.ok token))

/-- The call committed or quarantined the lease. -/
def KeptBy (r : ResourceId) (s : SessionId) (token : LeaseToken) (x : Call × Answer) : Prop :=
  x = (.commit r s token, .kept true) ∨ x = (.quarantine r s token, .kept true)

/-- The call released what the session had on `r`; the answer only says whether it was kept. -/
def ReleasedBy (r : ResourceId) (s : SessionId) (x : Call × Answer) : Prop :=
  ∃ committed, x = (.release r s, .released committed)

/-- The lease was reserved and its session has not released the resource since. -/
def Live (r : ResourceId) (s : SessionId) (o : OwnerId) (token : LeaseToken)
    (h : History) : Prop :=
  Machine.Since (ReservedBy r s o token) (ReleasedBy r s) h

/-- The lease identifier a call drew. -/
def drawn : Call × Answer → Option LeaseId
  | (.reserveControl _ _ _ _, .reserved (.ok token)) => some token.leaseId
  | _ => none

lemma ReservedBy.resource (h : ReservedBy r s o k (c, a)) : c.resource = r := by
  obtain ⟨f, h⟩ := h
  rw [(Prod.mk.inj h).1]
  rfl

/-- No lease identifier was drawn twice. -/
def Fresh (h : History) : Prop := (h.filterMap drawn).Nodup

instance (h : History) : Decidable (Fresh h) := inferInstanceAs (Decidable (List.Nodup _))

/-! ### The floor of a resource -/

/-- An active lease carries the current generation. -/
def Current (x : Slot) : Prop :=
  ∀ a, x.active = some a → a.token.generation = x.current ∧ 1 ≤ x.current

/-- The largest generation that cannot be given back any more. -/
def floor (x : Slot) : ℕ :=
  match x.active with
  | some a => if a.committed then x.current else x.current - 1
  | none => x.current

lemma floor_le (x : Slot) : floor x ≤ x.current := by
  unfold floor
  split
  · split <;> omega
  · exact le_rfl

lemma effect_current (h : Effect x c a x') (hx : Current x) : Current x' := by
  cases h with
  | refused | unkept | unreleased | validated => exact hx
  | reserved r s o fresh hn hb =>
    intro b hb
    cases hb
    exact ⟨rfl, Nat.le_add_left _ _⟩
  | kept c r b hb hc =>
    intro d hd
    cases hd
    exact hx b hb
  | released r b hb => intro d hd; cases hd

lemma effect_floor (h : Effect x c a x') (hx : Current x) : floor x ≤ floor x' := by
  cases h with
  | refused | unkept | unreleased | validated => exact le_rfl
  | reserved r s o fresh hn hb => simp [floor, hn]
  | kept c r b hb hc => exact floor_le x
  | released r b hb =>
    obtain ⟨hg, -⟩ := hx b hb
    cases hk : b.committed <;> simp [floor, hb, hk, hg]

/-! ### History and table -/

/-- The table and the history tell the same story about a resource. -/
structure Agrees (h : History) (r : ResourceId) (x : Slot) : Prop where
  current : Current x
  live : ∀ s o token, (∃ k, x.active = some ⟨s, o, token, k⟩) ↔ Live r s o token h
  kept : ∀ s token, (∃ y ∈ h, KeptBy r s token y) → token.generation ≤ floor x

lemma reservedBy_iff {r' : ResourceId} {f : LeaseId} :
    ReservedBy r s o k (.reserveControl r' s' o' f, .reserved (.ok k')) ↔
      r' = r ∧ s' = s ∧ o' = o ∧ k' = k := by
  constructor
  · rintro ⟨f', h⟩
    simp only [Prod.mk.injEq, Call.reserveControl.injEq, Answer.reserved.injEq,
      Except.ok.injEq] at h
    exact ⟨h.1.1, h.1.2.1, h.1.2.2.1, h.2⟩
  · rintro ⟨rfl, rfl, rfl, rfl⟩
    exact ⟨f, rfl⟩

lemma not_releasedBy (ha : ∀ k, a ≠ .released k) : ¬ReleasedBy r s (c, a) := by
  rintro ⟨k, h⟩
  exact ha k (Prod.mk.inj h).2

lemma not_reservedBy (ha : ∀ k, a ≠ .reserved (.ok k)) : ¬ReservedBy r s o k (c, a) := by
  rintro ⟨f, h⟩
  exact ha k (Prod.mk.inj h).2

lemma live_snoc {x : Call × Answer} : Live r s o k (h ++ [x]) ↔
      ReservedBy r s o k x ∨ (Live r s o k h ∧ ¬ReleasedBy r s x) := Machine.since_snoc

/-- A call that answers neither with a token nor about a release leaves the live leases alone. -/
lemma live_snoc_of_answer (ht : ∀ k, a ≠ .reserved (.ok k)) (hr : ∀ k, a ≠ .released k) :
    Live r s o k (h ++ [(c, a)]) ↔ Live r s o k h := by
  rw [live_snoc]
  simp [not_reservedBy ht, not_releasedBy hr]

lemma effect_live (hx : ∀ s o token, (∃ k, x.active = some ⟨s, o, token, k⟩) ↔ Live r s o token h)
    (hc : c.resource = r) (he : Effect x c a x') (s : SessionId) (o : OwnerId)
    (token : LeaseToken) :
    (∃ k, x'.active = some ⟨s, o, token, k⟩) ↔ Live r s o token (h ++ [(c, a)]) := by
  cases he with
  | refused | unkept | validated =>
    rw [live_snoc_of_answer (by simp) (by simp)]
    exact hx s o token
  | reserved r' s' o' fresh hn hb =>
    obtain rfl : r' = r := hc
    rw [live_snoc, ← hx, reservedBy_iff]
    simp [hn]
  | kept c r' b hb _ =>
    rw [live_snoc_of_answer (by simp) (by simp), ← hx, hb]
    obtain ⟨s', o', token', k'⟩ := b
    simp
  | unreleased r' s' hs =>
    obtain rfl : r' = r := hc
    rw [live_snoc, ← hx]
    simp only [not_reservedBy (a := .released false) (by simp), false_or]
    refine ⟨fun hk => ⟨hk, ?_⟩, And.left⟩
    rintro ⟨k', h'⟩
    obtain ⟨k, hk⟩ := hk
    obtain ⟨-, rfl⟩ := Call.release.inj (Prod.mk.inj h').1
    exact hs _ hk rfl
  | released r' b hb =>
    obtain rfl : r' = r := hc
    rw [live_snoc, ← hx]
    simp only [not_reservedBy (a := .released b.committed) (by simp), false_or, reduceCtorEq,
      exists_false, false_iff]
    rintro ⟨⟨k, hk⟩, hr⟩
    obtain rfl : b = _ := Option.mem_unique hb hk
    exact hr ⟨_, rfl⟩

lemma effect_kept {token : LeaseToken} (he : Effect x c a x') (hk : KeptBy r s token (c, a)) :
    ∃ b, x.active = some b ∧ b.sessionId = s ∧ b.token = token ∧ floor x' = x.current := by
  have ha : a = .kept true := by
    rcases hk with hk | hk <;> exact (Prod.mk.inj hk).2
  subst ha
  cases he with
  | kept c r' b hb hc =>
    refine ⟨b, hb, ?_, ?_, rfl⟩ <;>
      rcases hk with hk | hk <;> rcases hc with rfl | rfl <;> simp_all

lemma agrees_effect (hx : Agrees h r x) (hc : c.resource = r) (he : Effect x c a x') :
    Agrees (h ++ [(c, a)]) r x' := by
  refine ⟨effect_current he hx.current, effect_live hx.live hc he, ?_⟩
  rintro s token ⟨y, hy, hk⟩
  rcases List.mem_append.mp hy with hy | hy
  · exact Nat.le_trans (hx.kept s token ⟨y, hy, hk⟩) (effect_floor he hx.current)
  · obtain rfl : y = (c, a) := by simpa using hy
    obtain ⟨b, hb, -, rfl, hf⟩ := effect_kept he hk
    rw [hf, (hx.current b hb).1]

lemma agrees_other (hx : Agrees h r x) (hc : r ≠ c.resource) (a : Answer) :
    Agrees (h ++ [(c, a)]) r x := by
  refine ⟨hx.current, fun s o token => ?_, ?_⟩
  · have hs : ¬ReservedBy r s o token (c, a) := fun h => hc h.resource.symm
    have hr : ¬ReleasedBy r s (c, a) := by
      rintro ⟨k, heq⟩; exact hc ((Prod.mk.inj heq).1 ▸ rfl)
    rw [live_snoc, hx.live]
    simp [hs, hr]
  · rintro s token ⟨y, hy, hk⟩
    rcases List.mem_append.mp hy with hy | hy
    · exact hx.kept s token ⟨y, hy, hk⟩
    · obtain rfl : y = (c, a) := by simpa using hy
      rcases hk with hk | hk <;> exact absurd ((Prod.mk.inj hk).1 ▸ rfl) hc

/-! ### The order of reservations -/

lemma drawn_of_reservedBy {x : Call × Answer} (hx : ReservedBy r s o k x) :
    drawn x = some k.leaseId := by
  obtain ⟨f, rfl⟩ := hx; rfl

lemma fresh_of_append {l : History} (hf : Fresh (h ++ l)) : Fresh h := by
  unfold Fresh at hf ⊢
  rw [List.filterMap_append] at hf
  exact (List.nodup_append.mp hf).1

/-- No reservation of `r` succeeds while an earlier one is live. -/
def Alone (h : History) (r : ResourceId) : Prop :=
  ∀ u x v s o k, h = u ++ x :: v → ReservedBy r s o k x → (∀ y ∈ v, ¬ReleasedBy r s y) →
    ∀ z ∈ v, ∀ s' o' k', ¬ReservedBy r s' o' k' z

/-- Every reservation of `r` after one that was ever kept has a larger generation. -/
def Rising (h : History) (r : ResourceId) : Prop :=
  ∀ u x v s o k, h = u ++ x :: v → ReservedBy r s o k x → (∃ y ∈ v, KeptBy r s k y) →
    ∀ z ∈ v, ∀ s' o' k', ReservedBy r s' o' k' z → k.generation < k'.generation

lemma effect_reserved (he : Effect x c a x') (hk : ReservedBy r s o k (c, a)) :
    x.active = none ∧ k.generation = x.current + 1 := by
  obtain ⟨f, hk⟩ := hk
  obtain ⟨rfl, rfl⟩ := Prod.mk.inj hk
  cases he with
  | reserved r s o f hn hb => exact ⟨hn, rfl⟩

lemma alone_snoc (ha : Alone h r) (hx : Agrees h r x) (he : c.resource = r → Effect x c a x') :
    Alone (h ++ [(c, a)]) r := by
  intro u y v s o k hh hy hv z hz s' o' k' hz'
  rcases Machine.split_snoc hh with ⟨-, rfl⟩ | ⟨w, rfl, hw⟩
  · cases hz
  have hlive : ∀ y ∈ w, ¬ReleasedBy r s y := fun y hy => hv y (by simp [hy])
  rcases List.mem_append.mp hz with hz | hz
  · exact ha u y w s o k hw hy hlive z hz s' o' k' hz'
  · -- the new reservation found the resource free, but the lease of `y` is live
    obtain rfl : z = (c, a) := by simpa using hz
    obtain ⟨b, hb⟩ := (hx.live s o k).mpr ⟨u, y, w, hw, hy, hlive⟩
    rw [(effect_reserved (he hz'.resource) hz').1] at hb
    cases hb

lemma rising_snoc (hr : Rising h r) (ha : Alone h r) (hx : Agrees h r x) (hf : Fresh h)
    (he : c.resource = r → Effect x c a x') : Rising (h ++ [(c, a)]) r := by
  rintro u y v s o k hh hy ⟨y', hy', hk⟩ z hz s' o' k' hz'
  rcases Machine.split_snoc hh with ⟨-, rfl⟩ | ⟨w, rfl, hw⟩
  · cases hz
  rcases List.mem_append.mp hy' with hy' | hy' <;> rcases List.mem_append.mp hz with hz | hz
  · exact hr u y w s o k hw hy ⟨y', hy', hk⟩ z hz s' o' k' hz'
  · -- a new reservation: it starts above the floor, which covers the kept lease
    obtain rfl : z = (c, a) := by simpa using hz
    obtain ⟨-, hg⟩ := effect_reserved (he hz'.resource) hz'
    have hle := hx.kept s k ⟨y', by rw [hw]; simp [hy'], hk⟩
    have := floor_le x
    omega
  · -- the lease is being kept, so it is still active and nobody reserved since
    obtain rfl : y' = (c, a) := by simpa using hy'
    have hc : c.resource = r := by
      rcases hk with hk | hk <;> rw [(Prod.mk.inj hk).1] <;> rfl
    obtain ⟨b, hb, hbs, hbk, -⟩ := effect_kept (he hc) hk
    obtain ⟨u₂, x₂, v₂, h₂, hx₂, hv₂⟩ := (hx.live s b.ownerId k).mp
      ⟨b.committed, by rw [hb, ← hbs, ← hbk]⟩
    obtain ⟨-, -, rfl⟩ := Machine.split_unique hf hw h₂ (drawn_of_reservedBy hy)
      (drawn_of_reservedBy hx₂)
    exact absurd hz' (ha u y _ s o k hw hy hv₂ z hz s' o' k')
  · obtain rfl : y' = (c, a) := by simpa using hy'
    obtain rfl : z = (c, a) := by simpa using hz
    obtain ⟨f, hz'⟩ := hz'
    obtain ⟨rfl, rfl⟩ := Prod.mk.inj hz'
    rcases hk with hk | hk <;> cases hk

/-- What a run establishes about a resource. -/
structure Told (h : History) (r : ResourceId) (x : Slot) : Prop where
  agrees : Agrees h r x
  alone : Alone h r
  rising : Fresh h → Rising h r

lemma run_told (calls : List Call) (r : ResourceId) :
    Told (Machine.trace step {} calls) r ((Machine.final step {} calls).slotOf r) := by
  refine Machine.trace_induction step (P := fun h t => ∀ r, Told h r (slotOf t r)) ?_ ?_ calls r
  · intro r
    refine ⟨⟨by simp [Current, slotOf], ?_, by simp⟩, ?_, ?_⟩
    · simp [slotOf, Live, Machine.not_since_nil]
    · intro u x v s o k h; simp at h
    · intro _ u x v s o k h; simp at h
  · intro h t c ih q
    obtain ⟨x', he, hb⟩ := step_effect t c
    obtain ⟨hx, ha, hr⟩ := ih q
    have he' : c.resource = q → Effect (t.slotOf q) c (t.step c).2 x' := fun hc => hc ▸ he
    refine ⟨?_, alone_snoc ha hx he', fun hf =>
      rising_snoc (hr (fresh_of_append hf)) ha hx (fresh_of_append hf) he'⟩
    rw [hb, Function.update_apply]
    split
    · exact agrees_effect hx (Eq.symm ‹_›) (he' (Eq.symm ‹_›))
    · exact agrees_other hx ‹_› _

/-! ### Validation -/

lemma validate_eq_ok {t : LeaseTable} (hc : Current (t.slotOf r)) {operation : String} :
    t.validate r s o k operation = .ok () ↔ ∃ b, t.active.lookup r = some ⟨s, o, k, b⟩ := by
  unfold validate
  cases ha : t.active.lookup r with
  | none => split <;> simp
  | some a =>
    have hg : a.token.generation = t.currentGeneration r := (hc a ha).1
    obtain ⟨s', o', k', b⟩ := a
    simp only at hg
    by_cases hk : k' = k
    · subst hk
      rw [if_neg (by omega)]
      by_cases hs : s' = s
      · by_cases ho : o' = o <;> simp [hs, ho]
      · simp [hs]
    · have : (∃ b', some (⟨s', o', k', b⟩ : ActiveLease) = some ⟨s, o, k, b'⟩) ↔ False := by
        simp [hk]
      rw [this, iff_false]
      split
      · simp
      · by_cases hs : s' = s
        · by_cases ho : o' = o <;> simp [hs, ho, hk]
        · simp [hs]

lemma validate_iff_live (calls : List Call) (r : ResourceId) (s : SessionId) (o : OwnerId)
    (k : LeaseToken) (operation : String) :
    (Machine.final step {} calls).validate r s o k operation = .ok () ↔
      Live r s o k (Machine.trace step {} calls) := by
  have hx := (run_told calls r).agrees
  rw [validate_eq_ok hx.current]
  exact hx.live s o k

/-- Once a lease is released, its token validates nowhere. -/
lemma rejected_of_released (hf : Fresh (Machine.trace step {} calls)) {x : Call × Answer}
    (hh : Machine.trace step {} calls = u ++ x :: v) (hx : ReservedBy r s o k x)
    (hr : ∃ y ∈ v, ReleasedBy r s y) (q : ResourceId) (s' : SessionId) (o' : OwnerId)
    (operation : String) :
    ∃ e, (Machine.final step {} calls).validate q s' o' k operation = .error e := by
  cases hv : (Machine.final step {} calls).validate q s' o' k operation with
  | error e => exact ⟨e, rfl⟩
  | ok =>
    obtain ⟨u', x', v', hh', hx', hlive⟩ := (validate_iff_live calls q s' o' k operation).mp hv
    obtain ⟨-, rfl, rfl⟩ := Machine.split_unique hf hh hh' (drawn_of_reservedBy hx)
      (drawn_of_reservedBy hx')
    -- one call reserved for one resource and one session
    obtain ⟨f, rfl⟩ := hx
    obtain ⟨rfl, rfl, -, -⟩ := reservedBy_iff.mp hx'
    obtain ⟨y, hy, hyr⟩ := hr
    exact absurd hyr (hlive y hy)

/-- A live lease other than a kept and released one is younger, and says so. -/
lemma generation_lt_of_live (hf : Fresh (Machine.trace step {} calls)) {x : Call × Answer}
    (hh : Machine.trace step {} calls = u ++ x :: v) (hx : ReservedBy r s o k x)
    (hr : ∃ y ∈ v, ReleasedBy r s y) (hk : ∃ y ∈ v, KeptBy r s k y)
    (hl : Live r s' o' k' (Machine.trace step {} calls)) : k.generation < k'.generation := by
  obtain ⟨-, halone, hrising⟩ := run_told calls r
  obtain ⟨u', x', v', hh', hx', hlive⟩ := hl
  rcases Machine.split_cases (hh.symm.trans hh') with h | h | ⟨rfl, rfl, rfl⟩
  · exact hrising hf u x v s o k hh hx hk x' h s' o' k' hx'
  · exact absurd hx (halone u' x' v' s' o' k' hh' hx' hlive x h s o k)
  · obtain ⟨f, rfl⟩ := hx
    obtain ⟨-, rfl, -, -⟩ := reservedBy_iff.mp hx'
    obtain ⟨y, hy, hyr⟩ := hr
    exact absurd hyr (hlive y hy)

/-- **Fencing**: a resource has at most one live lease, which the table holds under the current
generation; a reservation made after one that was ever kept has a larger generation; a token
validates exactly while its lease is live; and a released token is rejected for good, as stale
as soon as a newer lease is live if it had been kept. -/
theorem run_lease_fencing (calls : List Call) (hf : Fresh (Machine.trace step {} calls))
    (r : ResourceId) :
    let t := Machine.final step {} calls
    let h := Machine.trace step {} calls
    (∀ s o k s' o' k', Live r s o k h → Live r s' o' k' h → s = s' ∧ o = o' ∧ k = k') ∧
    (∀ s o k, Live r s o k h ↔ ∃ b, t.active.lookup r = some ⟨s, o, k, b⟩) ∧
    (∀ s o k, Live r s o k h → k.generation = t.currentGeneration r) ∧
    Rising h r ∧
    (∀ s o k operation, t.validate r s o k operation = .ok () ↔ Live r s o k h) ∧
    (∀ u x v s o k, h = u ++ x :: v → ReservedBy r s o k x → (∃ y ∈ v, ReleasedBy r s y) →
      (∀ q s' o' operation, ∃ e, t.validate q s' o' k operation = .error e) ∧
      ((∃ y ∈ v, KeptBy r s k y) → (∃ s' o' k', Live r s' o' k' h) →
        ∀ s' o' operation, t.validate r s' o' k operation =
          .error (staleGeneration r k.generation (t.currentGeneration r) operation))) := by
  intro t h
  obtain ⟨hx, -, hrising⟩ := run_told calls r
  have hgen : ∀ s o k, Live r s o k h → k.generation = t.currentGeneration r := by
    intro s o k hl
    obtain ⟨b, hb⟩ := (hx.live s o k).mpr hl
    exact (hx.current _ hb).1
  refine ⟨?_, fun s o k => (hx.live s o k).symm, hgen, hrising hf, validate_iff_live calls r, ?_⟩
  · intro s o k s' o' k' hl hl'
    obtain ⟨b, hb⟩ := (hx.live s o k).mpr hl
    obtain ⟨b', hb'⟩ := (hx.live s' o' k').mpr hl'
    simpa using (congrArg (Option.map fun a : ActiveLease => (a.sessionId, a.ownerId, a.token))
      (hb.symm.trans hb'))
  · intro u x v s o k hh hxr hr
    refine ⟨rejected_of_released hf hh hxr hr, ?_⟩
    rintro hk ⟨s', o', k', hl⟩ s'' o'' operation
    have hlt := generation_lt_of_live hf hh hxr hr hk hl
    rw [hgen s' o' k' hl] at hlt
    exact if_pos hlt

/-- A reservation quarantined and released, and a second one after it. -/
def quarantinedRun : List Call :=
  [.reserveControl ⟨"camera:lease-table"⟩ ⟨"first"⟩ ⟨"owner:lease-table"⟩ ⟨"a"⟩,
    .quarantine ⟨"camera:lease-table"⟩ ⟨"first"⟩ ⟨⟨"a"⟩, 1, .control⟩,
    .release ⟨"camera:lease-table"⟩ ⟨"first"⟩,
    .reserveControl ⟨"camera:lease-table"⟩ ⟨"second"⟩ ⟨"owner:lease-table"⟩ ⟨"b"⟩]

theorem run_lease_fencing_quarantined :
    Fresh (Machine.trace step {} quarantinedRun) ∧
      (Machine.final step {} quarantinedRun).validate ⟨"camera:lease-table"⟩ ⟨"first"⟩
        ⟨"owner:lease-table"⟩ ⟨⟨"a"⟩, 1, .control⟩ "camera.capture" =
        .error (staleGeneration ⟨"camera:lease-table"⟩ 1 2 "camera.capture") := by
  have hf : Fresh (Machine.trace step {} quarantinedRun) := by decide
  obtain ⟨-, -, -, -, -, h⟩ := run_lease_fencing quarantinedRun hf ⟨"camera:lease-table"⟩
  refine ⟨hf, (h [] _ _ ⟨"first"⟩ ⟨"owner:lease-table"⟩ ⟨⟨"a"⟩, 1, .control⟩ rfl ⟨_, rfl⟩
    ⟨_, .tail _ (.head _), true, rfl⟩).2 ⟨_, .head _, .inr rfl⟩ ?_ _ _ _⟩
  exact ⟨⟨"second"⟩, ⟨"owner:lease-table"⟩, ⟨⟨"b"⟩, 2, .control⟩,
    (Machine.trace step {} quarantinedRun).take 3, _, [], rfl, ⟨_, rfl⟩, by simp⟩

end RobotHal.LeaseTable
