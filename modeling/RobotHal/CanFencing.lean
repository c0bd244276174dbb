import RobotHal.CanExclusion

/-!
Fencing on the CAN lease table, told from the history of calls.

The history knows which tokens a resource has issued and which of them were released; the
table knows the active leases. The two agree after every call, so `validate` can be read
off the history alone.
-/

namespace RobotHal.CanLeaseTable

variable {l l' : ResourceLeases} {s : SessionId} {c : Call} {a : Answer} {r : ResourceId}
  {x : Call × Answer} {token : LeaseToken}

/-- Calls and their answers, oldest first. -/
abbrev History := List (Call × Answer)

/-- The generation a call issued on `r`. -/
def issuedGeneration (r : ResourceId) : Call × Answer → Option ℕ
  | (.commit v _, .committed (.ok token)) =>
    if v.resourceId = r then some token.generation else none
  | _ => none

/-- The generations issued on `r`, in order. -/
def generations (r : ResourceId) (h : History) : List ℕ := h.filterMap (issuedGeneration r)

/-- The call committed a reservation of `r`, `s` and `o` with this very token. -/
def IssuedBy (r : ResourceId) (s : SessionId) (o : OwnerId) (token : LeaseToken)
    (x : Call × Answer) : Prop :=
  ∃ v fresh, x = (.commit v fresh, .committed (.ok token)) ∧
    v.resourceId = r ∧ v.sessionId = s ∧ v.ownerId = o

/-- The call released the token. -/
def ReleasedBy (r : ResourceId) (s : SessionId) (token : LeaseToken) (x : Call × Answer) : Prop :=
  x = (.release r s token, .released true)

/-- Some commit of the history issued the token, and no later release took it back. -/
def Issued (r : ResourceId) (s : SessionId) (o : OwnerId) (token : LeaseToken)
    (h : History) : Prop :=
  Machine.Since (IssuedBy r s o token) (ReleasedBy r s token) h

/-! ### The active lease of a session -/

lemma active_eq_some (hl : Exclusive l) {e : LeaseEntry} :
    l.active s = some e ↔ e.sessionId = s ∧
      (l.observes.lookup s = some e ∨ l.control = some e ∨ l.maintenance = some e) := by
  have hsome {d : LeaseEntry} (hd : l.active s = some d) : d.sessionId = s ∧
      (l.observes.lookup s = some d ∨ l.control = some d ∨ l.maintenance = some d) := by
    simp only [ResourceLeases.active, Option.or_eq_some_iff, Option.filter_eq_some_iff,
      decide_eq_true_eq] at hd
    rcases hd with h | ⟨-, ⟨h, hs⟩ | ⟨-, h, hs⟩⟩
    · exact ⟨(hl.typed.observes s d h).1, .inl h⟩
    · exact ⟨hs, .inr (.inl h)⟩
    · exact ⟨hs, .inr (.inr h)⟩
  refine ⟨hsome, fun ⟨hs, he⟩ => ?_⟩
  subst hs
  rcases hd : l.active e.sessionId with _ | d
  · simp only [ResourceLeases.active, Option.or_eq_none_iff, Option.filter_eq_none_iff] at hd
    rcases he with he | he | he <;> simp_all
  · obtain ⟨hs, hd⟩ := hsome hd
    rw [← hs] at hd
    rw [List.inj_on_of_nodup_map hl.nodup ((mem_leases hl.typed).mpr hd)
      ((mem_leases hl.typed).mpr he) hs]

lemma active_iff (hl : Exclusive l) {e : LeaseEntry} :
    l.active s = some e ↔ e.sessionId = s ∧ e ∈ leases l := by
  rw [active_eq_some hl, mem_leases hl.typed]
  exact and_congr_right fun hs => by rw [hs]

/-- The leases differ by one entry. -/
lemma active_cons {e : LeaseEntry} (hl : Exclusive l) (hl' : Exclusive l')
    (hp : (leases l').Perm (e :: leases l)) : l.active e.sessionId = none ∧
      l'.active = Function.update l.active e.sessionId (some e) := by
  have hnone : l.active e.sessionId = none := by
    refine Option.eq_none_iff_forall_ne_some.mpr fun d hd => ?_
    obtain ⟨hs, hd⟩ := (active_iff hl).mp hd
    have hnodup := (hp.map LeaseEntry.sessionId).nodup_iff.mp hl'.nodup
    exact (List.nodup_cons.mp hnodup).1 (List.mem_map.mpr ⟨d, hd, hs⟩)
  refine ⟨hnone, funext fun q => Option.ext fun d => ?_⟩
  rw [active_iff hl', hp.mem_iff, List.mem_cons, Function.update_apply]
  split
  · rename_i hq
    subst hq
    rw [Option.some.injEq]
    constructor
    · rintro ⟨hs, rfl | hd⟩
      · rfl
      · cases hnone.symm.trans ((active_iff hl).mpr ⟨hs, hd⟩)
    · rintro rfl
      exact ⟨rfl, .inl rfl⟩
  · rename_i hq
    rw [active_iff hl]
    exact and_congr_right fun hs => or_iff_right fun h => hq (h ▸ hs.symm)

/-- The call neither issued nor released a token. -/
def Quiet : Call × Answer → Prop
  | (.commit _ _, .committed (.ok _)) | (.release _ _ _, .released true) => False
  | _ => True

/-- What a call does to the active leases of the resource it names. -/
inductive Turn (l l' : ResourceLeases) : Call × Answer → Prop
  | quiet (x : Call × Answer) (hx : Quiet x) (ha : l'.active = l.active)
      (hg : l'.lastGeneration = l.lastGeneration) : Turn l l' x
  | issued (v : CanReservation) (fresh : LeaseId) (hs : l.active v.sessionId = none)
      (ha : l'.active = Function.update l.active v.sessionId
        (some ⟨v.sessionId, v.ownerId, ⟨fresh, l.lastGeneration + 1, v.mode⟩⟩))
      (hg : l'.lastGeneration = l.lastGeneration + 1) :
      Turn l l' (.commit v fresh, .committed (.ok ⟨fresh, l.lastGeneration + 1, v.mode⟩))
  | released (r : ResourceId) (s : SessionId) (e : LeaseEntry) (hs : l.active s = some e)
      (ha : l'.active = Function.update l.active s none)
      (hg : l'.lastGeneration = l.lastGeneration) :
      Turn l l' (.release r s e.token, .released true)

lemma quiet_of_idle (h : a.Idle) : Quiet (c, a) := by
  cases c <;> rcases a with (_ | _) | (_ | _) | (_ | _) | (_ | _) | _ <;> trivial

lemma lastGeneration_place (l : ResourceLeases) (mode : LeaseMode) (e : LeaseEntry) :
    (place l mode e).lastGeneration = l.lastGeneration := by cases mode <;> rfl

lemma effect_turn (h : Effect l c a l') (hl : Exclusive l) : Turn l l' (c, a) := by
  have hl' := effect_exclusive h hl
  have hrelease {e : LeaseEntry} (hp : (leases l).Perm (e :: leases l')) :
      l.active e.sessionId = some e ∧ l'.active = Function.update l.active e.sessionId none := by
    obtain ⟨hn, ha⟩ := active_cons hl' hl hp
    rw [ha, Function.update_self, Function.update_idem, ← hn, Function.update_eq_self]
    exact ⟨rfl, rfl⟩
  cases h with
  | idle c a ha => exact .quiet _ (quiet_of_idle ha) rfl rfl
  | reserved | exhausted | cancelled => exact .quiet _ trivial rfl rfl
  | committed v fresh hp hb =>
    obtain ⟨ho, hc, hm⟩ := room_of_pending hl hp
    obtain ⟨hs, ha⟩ := active_cons (exclusive_of_pending hl hp) hl' (leases_place ho hc hm)
    exact .issued v fresh hs ha (lastGeneration_place _ _ _)
  | releasedObserve r s e he =>
    obtain ⟨hs, ha⟩ := hrelease (leases_perm_observes he)
    rw [(hl.typed.observes s e he).1] at hs ha
    exact .released r s e hs ha rfl
  | releasedControl r e he =>
    have hp := leases_perm_control (l := l) (e := e)
    simp only [← he] at hp
    exact .released r _ e (hrelease hp).1 (hrelease hp).2 rfl
  | releasedMaintenance r e he =>
    have hp := leases_perm_maintenance (l := l) (e := e)
    simp only [← he] at hp
    exact .released r _ e (hrelease hp).1 (hrelease hp).2 rfl

/-! ### History and table -/

/-- The table and the history tell the same story about a resource. -/
structure Agrees (h : History) (r : ResourceId) (l : ResourceLeases) : Prop where
  exclusive : Exclusive l
  generations : generations r h = List.range' 1 l.lastGeneration
  active : ∀ s o token, l.active s = some ⟨s, o, token⟩ ↔ Issued r s o token h

lemma generations_snoc (r : ResourceId) (h : History) (x : Call × Answer) :
    generations r (h ++ [x]) = generations r h ++ (issuedGeneration r x).toList := by
  simp only [generations, List.filterMap_append, List.filterMap_cons, List.filterMap_nil]
  cases issuedGeneration r x <;> rfl

lemma issuedGeneration_of_quiet (hx : Quiet x) : issuedGeneration r x = none := by
  unfold issuedGeneration
  split
  · exact hx.elim
  · rfl

lemma not_issuedBy_of_quiet {o : OwnerId} (hx : Quiet x) : ¬IssuedBy r s o token x := by
  rintro ⟨v, f, rfl, -⟩; exact hx

lemma not_releasedBy_of_quiet (hx : Quiet x) : ¬ReleasedBy r s token x := by
  rintro rfl; exact hx

lemma agrees_other {h : History} (ha : Agrees h r l) (hc : r ≠ c.resource) (a : Answer) :
    Agrees (h ++ [(c, a)]) r l := by
  refine ⟨ha.exclusive, ?_, ?_⟩
  · have : issuedGeneration r (c, a) = none := by
      unfold issuedGeneration
      split
      · rename_i v f token heq
        obtain ⟨rfl, rfl⟩ := Prod.mk.inj heq
        exact if_neg (Ne.symm hc)
      · rfl
    simp [generations_snoc, this, ha.generations]
  · intro s o token
    have hi : ¬IssuedBy r s o token (c, a) := by
      rintro ⟨v, f, heq, hr, -⟩
      obtain ⟨rfl, rfl⟩ := Prod.mk.inj heq
      exact hc hr.symm
    have hr : ¬ReleasedBy r s token (c, a) := by
      intro heq
      obtain ⟨rfl, rfl⟩ := Prod.mk.inj heq
      exact hc rfl
    rw [Issued, Machine.since_snoc, ← Issued, ha.active]
    simp [hi, hr]

lemma issuedBy_iff {o : OwnerId} {v : CanReservation} {f : LeaseId} {k : LeaseToken} :
    IssuedBy r s o token (.commit v f, .committed (.ok k)) ↔
      v.resourceId = r ∧ v.sessionId = s ∧ v.ownerId = o ∧ k = token := by
  constructor
  · rintro ⟨w, f', hw, hr, hs, ho⟩
    cases hw
    exact ⟨hr, hs, ho, rfl⟩
  · rintro ⟨hr, hs, ho, rfl⟩
    exact ⟨v, f, rfl, hr, hs, ho⟩

lemma agrees_turn {h : History} (ha : Agrees h r l) (hl' : Exclusive l') (hc : c.resource = r)
    (ht : Turn l l' (c, a)) : Agrees (h ++ [(c, a)]) r l' := by
  cases ht with
  | quiet x hx hact hg =>
    refine ⟨hl', ?_, fun s o token => ?_⟩
    · simp [generations_snoc, issuedGeneration_of_quiet hx, ha.generations, hg]
    · rw [Issued, Machine.since_snoc, ← Issued, hact, ha.active]
      simp [not_issuedBy_of_quiet hx, not_releasedBy_of_quiet hx]
  | issued v fresh hs hact hg =>
    have hv : v.resourceId = r := hc
    refine ⟨hl', ?_, fun s o token => ?_⟩
    · rw [generations_snoc, ha.generations, hg, List.range'_1_concat]
      simp [issuedGeneration, hv, Nat.add_comm]
    · rw [Issued, Machine.since_snoc, ← Issued, hact, Function.update_apply, ← ha.active,
        issuedBy_iff]
      by_cases hq : s = v.sessionId
      · simp [hq, hs, hv]
      · simp [hq, Ne.symm hq, ReleasedBy]
  | released r' s e hs hact hg =>
    obtain rfl : r' = r := hc
    refine ⟨hl', ?_, fun q o token => ?_⟩
    · simp [generations_snoc, issuedGeneration, ha.generations, hg]
    · rw [Issued, Machine.since_snoc, ← Issued, hact, Function.update_apply, ← ha.active]
      by_cases hq : q = s
      · -- the lease the history still holds for `s` is the one just released
        subst hq
        simp +contextual [hs, IssuedBy, ReleasedBy]
      · simp [hq, Ne.symm hq, IssuedBy, ReleasedBy]

lemma agrees_nil (r : ResourceId) : Agrees [] r {} :=
  ⟨exclusive_default, rfl, fun s o token => by
    simp [ResourceLeases.active, Issued, Machine.not_since_nil]⟩

lemma run_agrees (calls : List Call) (r : ResourceId) :
    Agrees (Machine.trace step {} calls) r ((Machine.final step {} calls).leasesOf r) := by
  refine Machine.trace_induction step (P := fun h t => ∀ r, Agrees h r (leasesOf t r)) ?_ ?_
    calls r
  · exact fun r => agrees_nil r
  · intro h t c ih q
    obtain ⟨l', he, hb⟩ := step_effect t c
    rw [hb, Function.update_apply]
    split
    · rename_i hq
      subst hq
      have hl := (ih c.resource).exclusive
      exact agrees_turn (ih _) (effect_exclusive he hl) rfl (effect_turn he hl)
    · rename_i hq
      exact agrees_other (ih q) hq _

/-! ### Validation -/

lemma validate_eq_ok {t : CanLeaseTable} {o : OwnerId} {required : LeaseMode} {operation : String} :
    t.validate r s o token required operation = .ok () ↔
      ∃ e, (t.leasesOf r).active s = some e ∧ e.ownerId = o ∧ e.token = token ∧
        modeAllows token.mode required = true := by
  unfold validate leasesOf
  cases ht : t.resources.lookup r with
  | none => simp [ResourceLeases.active]
  | some l =>
    simp only [Option.getD_some]
    cases ha : l.active s with
    | none => simp only [reduceCtorEq, false_and, exists_false, iff_false]; split <;> simp
    | some e =>
      simp only [Option.some.injEq, exists_eq_left']
      by_cases ho : e.ownerId = o
      · by_cases hk : e.token = token
        · by_cases hm : modeAllows token.mode required = true
          · simp [ho, hk, hm]
          · simp [ho, hk, hm]
        · simp [ho, hk]
      · simp [ho]

lemma validate_iff_issued (calls : List Call) (r : ResourceId) (s : SessionId) (o : OwnerId)
    (token : LeaseToken) (required : LeaseMode) (operation : String) :
    (Machine.final step {} calls).validate r s o token required operation = .ok () ↔
      Issued r s o token (Machine.trace step {} calls) ∧
        modeAllows token.mode required = true := by
  have ha := run_agrees calls r
  rw [validate_eq_ok, ← ha.active]
  constructor
  · rintro ⟨e, he, rfl, rfl, hm⟩
    obtain rfl := ((active_eq_some ha.exclusive).mp he).1
    exact ⟨he, hm⟩
  · rintro ⟨he, hm⟩
    exact ⟨_, he, rfl, rfl, hm⟩

lemma issuedGeneration_of_issuedBy {o : OwnerId} (hx : IssuedBy r s o token x) :
    issuedGeneration r x = some token.generation := by
  obtain ⟨v, f, rfl, rfl, -⟩ := hx
  exact if_pos rfl

/-- A token that was released is held by nobody: it was issued once, before its release. -/
lemma not_issued_of_released {calls : List Call} {y : Call × Answer}
    (hy : y ∈ Machine.trace step {} calls) (hr : ReleasedBy r s token y) (q : SessionId)
    (o : OwnerId) : ¬Issued r q o token (Machine.trace step {} calls) := by
  rintro ⟨u', x', v', hu', hx', hlive⟩
  obtain ⟨before, c, later, rfl, rfl⟩ := Machine.exists_of_mem_trace step hy
  obtain ⟨rfl, hrel⟩ := Prod.mk.inj hr
  have ha := run_agrees before r
  obtain ⟨l', he, -⟩ := step_effect (Machine.final step {} before) (.release r s token)
  have ht := effect_turn he ha.exclusive
  rw [hrel] at ht
  obtain ⟨o', u, x, v, hu, hx, -⟩ : ∃ o', Issued r s o' token (Machine.trace step {} before) := by
    cases ht with
    | quiet _ hq => exact hq.elim
    | released _ _ e hs =>
      obtain rfl := ((active_iff ha.exclusive).mp hs).1
      exact ⟨e.ownerId, (ha.active _ _ _).mp hs⟩
  have hnodup :
      (generations r (Machine.trace step {} (before ++ .release r s token :: later))).Nodup :=
    (run_agrees _ r).generations ▸ List.nodup_range'
  have hsplit := Machine.trace_append step {} before (.release r s token :: later)
  rw [hu, List.append_assoc, List.cons_append] at hsplit
  obtain ⟨-, rfl, rfl⟩ := Machine.split_unique hnodup hsplit hu'
    (issuedGeneration_of_issuedBy hx) (issuedGeneration_of_issuedBy hx')
  obtain ⟨w, f, rfl, -, rfl, -⟩ := hx
  obtain ⟨-, rfl, -⟩ := issuedBy_iff.mp hx'
  refine hlive _ (List.mem_append_right _ List.mem_cons_self) ?_
  exact Prod.ext rfl hrel

/-- **Fencing**: the generations a resource issues are `1, 2, 3, …` without a gap, and a token
validates exactly when a commit issued it to this session and owner, no release took it back
and its mode allows what is asked. So only its own release ends a token, and for good. -/
theorem run_fencing (calls : List Call) :
    let t := Machine.final step {} calls
    let h := Machine.trace step {} calls
    (∀ r, generations r h = List.range' 1 (generations r h).length) ∧
    (∀ r s o token required operation,
      t.validate r s o token required operation = .ok () ↔
        Issued r s o token h ∧ modeAllows token.mode required = true) ∧
    (∀ r s o token required operation later,
      t.validate r s o token required operation = .ok () →
      (∀ y ∈ Machine.trace step t later, ¬ReleasedBy r s token y) →
      (Machine.final step t later).validate r s o token required operation = .ok ()) ∧
    (∀ r s token, (∃ y ∈ h, ReleasedBy r s token y) → ∀ q o required operation,
      t.validate r q o token required operation ≠ .ok ()) := by
  intro t h
  refine ⟨?_, ?_, ?_, ?_⟩
  · intro r
    rw [(run_agrees calls r).generations, List.length_range']
  · exact validate_iff_issued calls
  · intro r s o token required operation later hv hl
    have := validate_iff_issued (calls ++ later) r s o token required operation
    rw [Machine.final_append, Machine.trace_append] at this
    obtain ⟨hi, hm⟩ := (validate_iff_issued calls r s o token required operation).mp hv
    exact this.mpr ⟨Machine.since_append hi hl, hm⟩
  · intro r s token hrel q o required operation hv
    obtain ⟨y, hy, hyr⟩ := hrel
    have hi := (validate_iff_issued calls r q o token required operation).mp hv
    exact not_issued_of_released hy hyr q o hi.1

end RobotHal.CanLeaseTable
