import RobotHal.CanFencing

/-!
The CAN lease table as its callers see it: who is pending and who is active, for each resource
and session, and what each operation changes of that.
-/

namespace RobotHal.CanLeaseTable

def pend (t : CanLeaseTable) (r : ResourceId) (s : SessionId) : Option PendingEntry :=
  (t.leasesOf r).pending.lookup s

def act (t : CanLeaseTable) (r : ResourceId) (s : SessionId) : Option LeaseEntry :=
  (t.leasesOf r).active s

def AllExclusive (t : CanLeaseTable) : Prop := ∀ r, Exclusive (t.leasesOf r)

section Became

variable {t t' : CanLeaseTable} {r : ResourceId} {l : ResourceLeases}

lemma pend_of_became (h : Became t t' r l) (q : ResourceId) (s : SessionId) :
    t'.pend q s = if q = r then l.pending.lookup s else t.pend q s := by
  unfold pend
  rw [h, Function.update_apply]
  split <;> rfl

lemma act_of_became (h : Became t t' r l) (q : ResourceId) (s : SessionId) :
    t'.act q s = if q = r then l.active s else t.act q s := by
  unfold act
  rw [h, Function.update_apply]
  split <;> rfl

lemma pend_of_same (h : Became t t' r l) (hl : l.pending = (t.leasesOf r).pending) :
    t'.pend = t.pend := by
  funext q s
  rw [pend_of_became h]
  split
  · rename_i hq; rw [hq, hl]; rfl
  · rfl

lemma act_of_same (h : Became t t' r l) (hl : l.active = (t.leasesOf r).active) :
    t'.act = t.act := by
  funext q s
  rw [act_of_became h]
  split
  · rename_i hq; rw [hq, hl]; rfl
  · rfl

end Became

lemma allExclusive_step {t : CanLeaseTable} (ht : t.AllExclusive) (c : Call) :
    (t.step c).1.AllExclusive := by
  intro r
  obtain ⟨l', he, hb⟩ := step_effect t c
  rw [hb, Function.update_apply]
  split
  · exact effect_exclusive he (ht _)
  · exact ht r

/-- One entry of a two-place map is taken out. -/
def without {α : Type} (f : ResourceId → SessionId → Option α) (r : ResourceId) (s : SessionId) :
    ResourceId → SessionId → Option α :=
  fun q x => if q = r ∧ x = s then none else f q x

lemma without_eq_some {α : Type} {f : ResourceId → SessionId → Option α} {r q : ResourceId}
    {s x : SessionId} {a : α} :
    without f r s q x = some a ↔ ¬(q = r ∧ x = s) ∧ f q x = some a := by
  unfold without
  split <;> simp_all

/-- The reservation is the one its pending entry, if any, was made for. -/
def Owns (t : CanLeaseTable) (v : CanReservation) : Prop :=
  ∀ p, t.pend v.resourceId v.sessionId = some p → p = ⟨v.reservationId, v.ownerId, v.mode⟩

variable {t : CanLeaseTable} {v : CanReservation} {r : ResourceId} {s : SessionId} {o : OwnerId}
  {mode : LeaseMode} {fresh : LeaseId} {token : LeaseToken}

lemma without_self {α : Type} {f : ResourceId → SessionId → Option α} (h : f r s = none) :
    without f r s = f := by
  funext q x
  unfold without
  split
  · rename_i hq; rw [hq.1, hq.2, h]
  · rfl

lemma became_without {t' : CanLeaseTable} {l : ResourceLeases} (hb : Became t t' r l)
    (hl : ∀ x, l.pending.lookup x = if x = s then none else t.pend r x) :
    t'.pend = without t.pend r s := by
  funext q x
  rw [pend_of_became hb, without]
  by_cases hq : q = r
  · subst hq; simp [hl]
  · simp [hq]

lemma reserve_ok (h : (t.reserve r s o mode fresh).2 = .ok v) :
    v = ⟨r, s, o, fresh, mode⟩ ∧
      (∀ q x, (t.reserve r s o mode fresh).1.pend q x =
        if q = r ∧ x = s then some ⟨fresh, o, mode⟩ else t.pend q x) ∧
      (t.reserve r s o mode fresh).1.act = t.act := by
  obtain ⟨l', he, hb⟩ := reserve_effect t r s o mode fresh
  rw [h] at he
  cases he with
  | idle _ _ hi => exact hi.elim
  | reserved =>
    refine ⟨rfl, fun q x => ?_, act_of_same hb rfl⟩
    rw [pend_of_became hb]
    by_cases hq : q = r
    · subst hq
      simp only [if_true, true_and, Assoc.lookup_insert_ite]
      rfl
    · simp [hq]

lemma reserve_error {e : HalError} (h : (t.reserve r s o mode fresh).2 = .error e) :
    (t.reserve r s o mode fresh).1.pend = t.pend ∧
      (t.reserve r s o mode fresh).1.act = t.act := by
  obtain ⟨l', he, hb⟩ := reserve_effect t r s o mode fresh
  rw [h] at he
  cases he with
  | idle => exact ⟨pend_of_same hb rfl, act_of_same hb rfl⟩

lemma cancel_eq_true : (t.cancel v).2 = true ↔
    t.pend v.resourceId v.sessionId = some ⟨v.reservationId, v.ownerId, v.mode⟩ := by
  unfold cancel pend leasesOf
  cases t.resources.lookup v.resourceId with
  | none => simp
  | some l =>
    simp only [Option.getD_some]
    cases l.pending.lookup v.sessionId with
    | none => simp
    | some p => cases h : identifies p v <;> simp [h, ← identifies_iff]

lemma cancel_spec (hv : t.Owns v) :
    (t.cancel v).1.pend = without t.pend v.resourceId v.sessionId ∧ (t.cancel v).1.act = t.act := by
  obtain ⟨l', he, hb⟩ := cancel_effect t v
  have hact : l'.active = (t.leasesOf v.resourceId).active := by
    generalize (t.cancel v).2 = a at he
    cases he <;> rfl
  refine ⟨?_, act_of_same hb hact⟩
  cases hc : (t.cancel v).2 with
  | true =>
    rw [hc] at he
    refine became_without hb fun x => ?_
    cases he with
    | idle _ _ hi => exact hi.elim
    | cancelled => rw [Assoc.lookup_erase_ite]; rfl
  | false =>
    -- nothing was pending, so nothing changed
    rw [hc] at he
    have hn : t.pend v.resourceId v.sessionId = none := by
      by_contra hne
      obtain ⟨p, hp⟩ := Option.ne_none_iff_exists'.mp hne
      rw [hv p hp] at hp
      rw [cancel_eq_true.mpr hp] at hc; cases hc
    rw [without_self hn]
    cases he with
    | idle => exact pend_of_same hb rfl

lemma release_of_act (ht : t.AllExclusive) {e : LeaseEntry} (h : t.act r s = some e) :
    (t.release r s e.token).2 = true := by
  obtain ⟨hs, h⟩ := (active_eq_some (ht r)).mp h
  unfold release
  cases hl : t.resources.lookup r with
  | none => simp [leasesOf, hl] at h
  | some l =>
    rw [leasesOf_of_lookup hl] at h
    simp only
    split
    · rfl
    split
    · rfl
    split
    · rfl
    · rename_i ho hc hm
      rcases h with h | h | h
      · simp [h] at ho
      · simp [h, hs] at hc
      · simp [h, hs] at hm

lemma release_spec (ht : t.AllExclusive) (hk : ∀ e, t.act r s = some e → e.token = token) :
    (t.release r s token).1.pend = t.pend ∧ (t.release r s token).1.act = without t.act r s := by
  obtain ⟨l', he, hb⟩ := release_effect t r s token
  have hpend : l'.pending = (t.leasesOf r).pending := by
    generalize (t.release r s token).2 = a at he
    cases he <;> rfl
  have hturn := effect_turn he (ht r)
  refine ⟨pend_of_same hb hpend, ?_⟩
  cases hr : (t.release r s token).2 with
  | true =>
    rw [hr] at hturn
    cases hturn with
    | quiet _ hx => exact hx.elim
    | released _ _ e hs ha =>
      funext q x
      rw [act_of_became hb, without]
      by_cases hq : q = r
      · subst hq; simp only [if_true, true_and, ha, Function.update_apply]; rfl
      · simp [hq]
  | false =>
    have hn : t.act r s = none := by
      by_contra hne
      obtain ⟨e, hs⟩ := Option.ne_none_iff_exists'.mp hne
      rw [← hk e hs, release_of_act ht hs] at hr; cases hr
    rw [hr] at hturn
    rw [without_self hn]
    cases hturn with
    | quiet _ _ ha => exact act_of_same hb ha

lemma commit_ok (ht : t.AllExclusive) (h : (t.commit v fresh).2 = .ok token) :
    token.mode = v.mode ∧
      (t.commit v fresh).1.pend = without t.pend v.resourceId v.sessionId ∧
      ∀ q x, (t.commit v fresh).1.act q x = if q = v.resourceId ∧ x = v.sessionId then
        some ⟨v.sessionId, v.ownerId, token⟩ else t.act q x := by
  obtain ⟨l', he, hb⟩ := commit_effect t v fresh
  rw [h] at he
  have hturn := effect_turn he (ht _)
  cases he with
  | idle _ _ hi => exact hi.elim
  | committed hp hg =>
    refine ⟨rfl, became_without hb fun x => ?_, fun q x => ?_⟩
    · have hplace : ∀ (l : ResourceLeases) (e : LeaseEntry),
          (place l v.mode e).pending = l.pending := by
        intro l e
        cases v.mode <;> rfl
      rw [hplace, Assoc.lookup_erase_ite]; rfl
    · rw [act_of_became hb]
      by_cases hq : q = v.resourceId
      · subst hq
        cases hturn with
        | quiet _ hx => exact hx.elim
        | issued _ _ _ ha => simp only [if_true, true_and, ha, Function.update_apply]; rfl
      · simp [hq]

lemma commit_error (hv : t.Owns v) {e : HalError} (h : (t.commit v fresh).2 = .error e) :
    (t.commit v fresh).1.pend = without t.pend v.resourceId v.sessionId ∧
      (t.commit v fresh).1.act = t.act := by
  unfold commit at h ⊢
  split at h
  · rename_i hl
    exact ⟨(without_self (by simp [pend, leasesOf, hl])).symm, rfl⟩
  rename_i l hl
  have hlo := leasesOf_of_lookup hl
  split at h
  · rename_i hp
    exact ⟨(without_self (by rw [pend, hlo, hp])).symm, rfl⟩
  rename_i p hp
  obtain rfl := hv p (by rw [pend, hlo, hp])
  have hi : identifies ⟨v.reservationId, v.ownerId, v.mode⟩ v = true := identifies_iff.mpr rfl
  simp only [hi, Bool.not_true, Bool.false_eq_true, if_false] at h ⊢
  split at h
  · have hb := leasesOf_insert t v.resourceId { l with pending := l.pending.erase v.sessionId }
    refine ⟨became_without hb fun x => ?_, act_of_same hb (by rw [hlo]; rfl)⟩
    rw [Assoc.lookup_erase_ite, pend, hlo]
  · cases h

end RobotHal.CanLeaseTable
