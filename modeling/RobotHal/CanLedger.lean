import RobotHal.CanLeaseSpec
import RobotHal.CanQuiet

/-!
The books of the CAN manager: what is pending and active behind the lock agrees with the lease
table, and every entry has a future that answers for it.
-/

namespace RobotHal.CanManager

open CanActor (Config)
open CanLeaseTable (AllExclusive Owns allExclusive_step without without_eq_some)

variable {id : SessionId} {x : ActiveSession} {p : PendingSession} {s : State} {token : LeaseToken}

/-- The reservation an open makes. -/
def OpenTask.Reserved (t : OpenTask) (id : SessionId) (v : CanReservation) : Prop :=
  v.resourceId = t.resource ∧ v.sessionId = id ∧ v.ownerId = t.owner ∧ v.mode = t.mode

/-- The open has returned this session. -/
def OpenTask.Committed (t : OpenTask) (id : SessionId) (x : ActiveSession) : Prop :=
  t.resource = x.resourceId ∧ t.activation = some x.token ∧ t.pc = .returned (.ok (id, x.token))

def Flight.Fits (f : Flight) (x : ActiveSession) : Prop :=
  x.token = f.token ∧ x.resourceId = f.resource ∧ x.actorEpoch = f.epoch

/-- The close is of a session that an open has returned and, if it is still there, of this very
one. -/
def Flight.Known (f : Flight) (s : State) : Prop :=
  (∃ t, s.opens.lookup f.session = some t ∧ ∃ res, t.pc = .returned res) ∧
    ∀ x, s.mgr.active.lookup f.session = some x → f.Fits x

/-- The maps behind the lock agree with the lease table and with the futures. -/
structure Balanced (s : State) : Prop where
  exclusive : s.mgr.leases.AllExclusive
  reserved : ∀ r id q, s.mgr.leases.pend r id = some q → ∃ p, s.mgr.pending.lookup id = some p ∧
    p.reservation = ⟨r, id, q.ownerId, q.reservationId, q.mode⟩
  guarded : ∀ id p, s.mgr.pending.lookup id = some p → ∃ t, s.opens.lookup id = some t ∧
    t.pc.Guarded ∧ t.Reserved id p.reservation
  granted : ∀ r id e, s.mgr.leases.act r id = some e → ∃ x, s.mgr.active.lookup id = some x ∧
    x.resourceId = r ∧ e = ⟨id, x.ownerId, x.token⟩
  leased : ∀ id x, s.mgr.active.lookup id = some x →
    s.mgr.leases.act x.resourceId id = some ⟨id, x.ownerId, x.token⟩
  committed : ∀ id x, s.mgr.active.lookup id = some x → ∃ t, s.opens.lookup id = some t ∧
    t.Committed id x
  closing : ∀ n f, s.flying n = some f → f.Known s

def ActiveSession.core (x : ActiveSession) : ActiveSession :=
  { x with terminalHealthEmitted := false, closing := false }

/-- The entries of the books are the same; epochs of reservations and marks may differ. -/
structure SameBooks (s s' : State) : Prop where
  leases : s'.mgr.leases = s.mgr.leases
  pending : Assoc.Follows (fun _ p q => q.reservation = p.reservation) s.mgr.pending s'.mgr.pending
  active : Assoc.Follows (fun _ x y => y.core = x.core) s.mgr.active s'.mgr.active

section Frame

variable {s s' : State}

lemma SameBooks.of_eq (hl : s'.mgr.leases = s.mgr.leases) (hp : s'.mgr.pending = s.mgr.pending)
    (hx : s'.mgr.active = s.mgr.active) : SameBooks s s' :=
  ⟨hl, .of_eq (fun _ _ => rfl) hp, .of_eq (fun _ _ => rfl) hx⟩

lemma SameBooks.of_mgr (h : s'.mgr = s.mgr) : SameBooks s s' :=
  .of_eq (by rw [h]) (by rw [h]) (by rw [h])

lemma ActiveSession.core_inj {y : ActiveSession} (h : x.core = y.core) :
    x.resourceId = y.resourceId ∧ x.ownerId = y.ownerId ∧ x.token = y.token ∧
      x.actorEpoch = y.actorEpoch := by
  simp only [ActiveSession.core, ActiveSession.mk.injEq, and_true] at h
  exact h

/-- **Frame.** With the same entries, the books stay balanced as long as every open goes on and
every new close is of a known session. -/
lemma Balanced.frame (h : Balanced s) (hb : SameBooks s s') (ho : OpensKept s s')
    (hf : ∀ n f, s'.flying n = some f → s.flying n = some f ∨ f.Known s) : Balanced s' where
  exclusive := hb.leases ▸ h.exclusive
  reserved r id q hq := by
    rw [hb.leases] at hq
    obtain ⟨p, hp, hr⟩ := h.reserved r id q hq
    obtain ⟨p', hp', hr'⟩ := hb.pending.get hp
    exact ⟨p', hp', hr'.trans hr⟩
  guarded id p hp := by
    obtain ⟨q, hq, hr⟩ := hb.pending.source hp
    obtain ⟨t, ht, hg, hrv⟩ := h.guarded id q hq
    obtain ⟨t', ht', hk⟩ := ho id t ht
    refine ⟨t', ht', hk.guarded ⟨q, hq⟩ hg, ?_⟩
    unfold OpenTask.Reserved at hrv ⊢
    rw [hk.owner, hk.resource, hk.mode, hr]
    exact hrv
  granted r id e he := by
    rw [hb.leases] at he
    obtain ⟨x, hx, hr, hxe⟩ := h.granted r id e he
    obtain ⟨y, hy, hc⟩ := hb.active.get hx
    obtain ⟨hyr, hyo, hyt, -⟩ := ActiveSession.core_inj hc
    exact ⟨y, hy, hyr.trans hr, by rw [hxe, hyo, hyt]⟩
  leased id x hx := by
    obtain ⟨y, hy, hc⟩ := hb.active.source hx
    obtain ⟨hyr, hyo, hyt, -⟩ := ActiveSession.core_inj hc
    rw [hb.leases, hyr, hyo, hyt]
    exact h.leased id y hy
  committed id x hx := by
    obtain ⟨y, hy, hc⟩ := hb.active.source hx
    obtain ⟨hyr, -, hyt, -⟩ := ActiveSession.core_inj hc
    obtain ⟨t, ht, hr, ha, hpc⟩ := h.committed id y hy
    obtain ⟨t', ht', hk⟩ := ho id t ht
    refine ⟨t', ht', hk.resource.trans (hr.trans hyr.symm), ?_, ?_⟩
    · rw [hyt]; exact hk.activation _ ha
    · rw [hyt]; exact hk.returned _ hpc
  closing n f hfl := by
    obtain ⟨⟨t, ht, res, hpc⟩, hfit⟩ : f.Known s := (hf n f hfl).elim (h.closing n f) id
    obtain ⟨t', ht', hk⟩ := ho _ t ht
    refine ⟨⟨t', ht', res, hk.returned res hpc⟩, fun x hx => ?_⟩
    obtain ⟨y, hy, hc⟩ := hb.active.source hx
    obtain ⟨hyr, -, hyt, hye⟩ := ActiveSession.core_inj hc
    have hfit := hfit y hy
    unfold Flight.Fits at hfit ⊢
    rw [hyr, hyt, hye]
    exact hfit

lemma Balanced.congr (h : Balanced s) (hm : s'.mgr = s.mgr) (ho : s'.opens = s.opens)
    (hc : s'.closes = s.closes) : Balanced s' :=
  h.frame (.of_mgr hm) (.of_eq ho) fun n f hf => .inl (by rwa [State.flying, hc] at hf)

lemma Balanced.modifyOpen (h : Balanced s) {f : OpenTask → OpenTask}
    (hf : ∀ t, s.opens.lookup id = some t →
      t.Keeps (∃ p, s.mgr.pending.lookup id = some p) (f t)) : Balanced (s.modifyOpen id f) :=
  h.frame (.of_mgr rfl) (opensKept_modify hf) fun _ _ => .inl

end Frame

/-! ### Taking entries out -/

lemma Balanced.owns (h : Balanced s) (hp : s.mgr.pending.lookup id = some p) :
    s.mgr.leases.Owns p.reservation := by
  obtain ⟨t, -, -, -, hid, -⟩ := h.guarded id p hp
  intro q hq
  obtain ⟨p', hp', hr⟩ := h.reserved _ _ q hq
  rw [hid, hp] at hp'
  obtain rfl := Option.some.inj hp'
  rw [hr]

lemma Balanced.unreserve (h : Balanced s) (hp : s.mgr.pending.lookup id = some p)
    {leases : CanLeaseTable} (hx : leases.AllExclusive)
    (hpend : leases.pend =
      without s.mgr.leases.pend p.reservation.resourceId p.reservation.sessionId)
    (hact : leases.act = s.mgr.leases.act) :
    Balanced { s with mgr := { s.mgr with pending := s.mgr.pending.erase id, leases } } := by
  obtain ⟨-, -, -, -, hid, -⟩ := h.guarded id p hp
  refine ⟨hx, fun r j q hq => ?_, fun j p' hp' => ?_, ?_, ?_, h.committed, h.closing⟩
  · simp only [hpend, hid, without_eq_some] at hq
    obtain ⟨hne, hq⟩ := hq
    obtain ⟨p', hp', hr⟩ := h.reserved r j q hq
    refine ⟨p', ?_, hr⟩
    simp only [Assoc.lookup_erase_ite]
    rw [if_neg, hp']
    rintro rfl
    rw [hp] at hp'
    obtain rfl := Option.some.inj hp'
    exact hne ⟨by rw [hr], rfl⟩
  · exact h.guarded j p' (Assoc.of_lookup_erase hp').2
  · simpa only [hact] using h.granted
  · simpa only [hact] using h.leased

lemma Balanced.dropPending (h : Balanced s) (id : SessionId) :
    Balanced { s with mgr := s.mgr.dropPending id } := by
  unfold ManagerState.dropPending
  split
  · exact h
  · rename_i p hp
    obtain ⟨hpend, hact⟩ := CanLeaseTable.cancel_spec (h.owns hp)
    exact h.unreserve hp (allExclusive_step h.exclusive (.cancel p.reservation)) hpend hact

lemma Balanced.dropActive (h : Balanced s) (hx : s.mgr.active.lookup id = some x) :
    Balanced { s with mgr := s.mgr.dropActive x.resourceId id x.token x } := by
  have hk : ∀ e, s.mgr.leases.act x.resourceId id = some e → e.token = x.token := by
    intro e he
    rw [h.leased id x hx] at he
    rw [← Option.some.inj he]
  obtain ⟨hpend, hact⟩ := CanLeaseTable.release_spec h.exclusive hk
  refine ⟨allExclusive_step h.exclusive (.release x.resourceId id x.token), ?_, h.guarded,
    fun r j e he => ?_, fun j y hy => ?_, fun j y hy => ?_,
    fun n f hf => ⟨(h.closing n f hf).1, fun y hy => ?_⟩⟩
  · intro r j q hq
    change (s.mgr.leases.release x.resourceId id x.token).1.pend r j = some q at hq
    rw [hpend] at hq
    exact h.reserved r j q hq
  · change (s.mgr.leases.release x.resourceId id x.token).1.act r j = some e at he
    rw [hact, without_eq_some] at he
    obtain ⟨hne, he⟩ := he
    obtain ⟨y, hy, hyr, hye⟩ := h.granted r j e he
    refine ⟨y, ?_, hyr, hye⟩
    change (s.mgr.active.erase id).lookup j = some y
    rw [Assoc.lookup_erase_ite, if_neg, hy]
    rintro rfl
    rw [hx] at hy
    cases hy
    exact hne ⟨hyr.symm, rfl⟩
  all_goals
    change (s.mgr.active.erase id).lookup _ = some y at hy
    rw [Assoc.lookup_erase_ite] at hy
    split at hy
    · cases hy
  · rename_i hj
    change (s.mgr.leases.release x.resourceId id x.token).1.act y.resourceId j = _
    rw [hact, without, if_neg (fun hq => hj hq.2)]
    exact h.leased j y hy
  · exact h.committed j y hy
  · exact (h.closing n f hf).2 y hy

section Reconcile

variable {s : State}

lemma Balanced.retire (h : Balanced s) {r : ResourceId}
    (hr : ∀ x, s.mgr.active.lookup id = some x → x.resourceId = r) : Balanced (s.retire r id) := by
  unfold State.retire
  split
  · exact h
  · rename_i x hx
    obtain rfl := hr x hx
    simp only
    obtain ⟨events, he⟩ := publishClosed_eq
      { s with mgr := s.mgr.dropActive x.resourceId id x.token x } x.resourceId id x
      ((s.opens.lookup id).any fun t => !t.terminationExpected || t.terminationFailed)
    rw [he]
    exact (h.dropActive hx).congr rfl rfl rfl

lemma Balanced.cancelPending (h : Balanced s) (id : SessionId) (done : Bool) :
    Balanced (s.cancelPending id done) := by
  unfold State.cancelPending
  split
  · exact h
  · exact (h.dropPending id).modifyOpen fun t _ =>
      ⟨rfl, rfl, rfl, fun _ hg => hg, fun _ hr => hr, fun _ ha => ha⟩

lemma Balanced.foldl_retire (h : Balanced s) {r : ResourceId} {ids : List SessionId}
    (hr : ∀ id ∈ ids, ∀ x, s.mgr.active.lookup id = some x → x.resourceId = r) :
    Balanced (ids.foldl (fun s id => s.retire r id) s) := by
  induction ids generalizing s with
  | nil => exact h
  | cons id ids ih =>
    refine ih (h.retire (hr id (by simp))) fun j hj x hx => ?_
    rw [(retire_spec s r id).2.2.2] at hx
    split at hx
    · cases hx
    · exact hr j (by simp [hj]) x hx

lemma Balanced.foldl_cancelPending (h : Balanced s) (done : Bool) (ids : List SessionId) :
    Balanced (ids.foldl (fun s id => s.cancelPending id done) s) := by
  induction ids generalizing s with
  | nil => exact h
  | cons id ids ih => exact ih (h.cancelPending id done)

lemma Balanced.retired (h : Balanced s) (r : ResourceId) (e : ℕ) :
    let s₁ := { s with mgr := { s.mgr with actors := s.mgr.actors.erase r } }
    Balanced ((s₁.servedBy r e).foldl (fun s id => s.retire r id) s₁) := by
  refine Balanced.foldl_retire ?_ fun id hid x hx => ?_
  · exact h.frame (.of_eq rfl rfl rfl) (.of_eq rfl) fun _ _ => .inl
  · obtain ⟨y, hy, hyr, -⟩ := mem_servedBy.mp hid
    rw [hy] at hx
    rw [← Option.some.inj hx]
    exact hyr

lemma Balanced.reconcile (h : Balanced s) (r : ResourceId) :
    Balanced (s.reconcileFinishedActor r) := by
  unfold State.reconcileFinishedActor
  split
  · exact h
  split
  · exact h
  · exact (h.retired r _).foldl_cancelPending _ _

lemma Reconciles.balanced {s₁ : State} (h : Reconciles s s₁) (hb : Balanced s) : Balanced s₁ := by
  rcases h with rfl | ⟨r, rfl⟩
  · exact hb
  · exact hb.reconcile r

end Reconcile

/-! ### Putting entries in -/

lemma Balanced.still {s' : State} (h : Balanced s) (hs : Still s s') : Balanced s' :=
  h.frame (.of_mgr hs.mgr) hs.opens fun n _ hf => .inl (hs.flying n ▸ hf)

section Enter

variable {s : State} {id : SessionId} {t : OpenTask}

lemma Balanced.no_active (h : Balanced s) (ht : s.opens.lookup id = some t)
    (hr : ∀ res, t.pc ≠ .returned res) : s.mgr.active.lookup id = none := by
  cases hx : s.mgr.active.lookup id with
  | none => rfl
  | some x =>
    obtain ⟨u, hu, -, -, hpc⟩ := h.committed id x hx
    rw [ht] at hu
    cases hu
    exact absurd hpc (hr _)

lemma Balanced.no_pending (h : Balanced s) (ht : s.opens.lookup id = some t)
    (hg : ¬t.pc.Guarded) : s.mgr.pending.lookup id = none := by
  cases hp : s.mgr.pending.lookup id with
  | none => rfl
  | some p =>
    obtain ⟨u, hu, hug, -⟩ := h.guarded id p hp
    rw [ht] at hu
    cases hu
    exact absurd hug hg

lemma Balanced.addPending (h : Balanced s) (ht : s.opens.lookup id = some t) (hg : t.pc.Guarded)
    (hn : s.mgr.pending.lookup id = none) {fresh : LeaseId} {v : CanReservation}
    (hv : (s.mgr.leases.reserve t.resource id t.owner t.mode fresh).2 = .ok v) :
    Balanced { s with mgr := { s.mgr with
      leases := (s.mgr.leases.reserve t.resource id t.owner t.mode fresh).1
      pending := s.mgr.pending.insert id ⟨v, none⟩ } } := by
  obtain ⟨rfl, hpend, hact⟩ := CanLeaseTable.reserve_ok hv
  refine ⟨allExclusive_step h.exclusive (.reserve t.resource id t.owner t.mode fresh),
    fun r j q hq => ?_, fun j p hp => ?_, ?_, ?_, h.committed, h.closing⟩
  · simp only [hpend] at hq
    simp only [Assoc.lookup_insert_ite]
    split at hq
    · rename_i hj
      cases hq
      exact ⟨_, by rw [if_pos hj.2], by rw [hj.1, hj.2]⟩
    · obtain ⟨p, hp, hr⟩ := h.reserved r j q hq
      refine ⟨p, ?_, hr⟩
      rw [if_neg, hp]
      rintro rfl
      rw [hn] at hp; cases hp
  · rcases Assoc.of_lookup_insert hp with ⟨rfl, rfl⟩ | hp
    · exact ⟨t, ht, hg, rfl, rfl, rfl, rfl⟩
    · exact h.guarded j p hp
  · simpa only [hact] using h.granted
  · simpa only [hact] using h.leased

/-- A reservation becomes a lease and its open a session. -/
lemma Balanced.commitPending (h : Balanced s) (ht : s.opens.lookup id = some t) (hg : t.pc.Guarded)
    (hp : s.mgr.pending.lookup id = some p) {fresh : LeaseId}
    (hk : (s.mgr.leases.commit p.reservation fresh).2 = .ok token)
    (hx : x.resourceId = t.resource ∧ x.ownerId = t.owner ∧ x.token = token)
    {f : OpenTask → OpenTask} (hf : (f t).Committed id x) :
    Balanced ({ s with mgr := { s.mgr with
      pending := s.mgr.pending.erase id
      leases := (s.mgr.leases.commit p.reservation fresh).1
      active := s.mgr.active.insert id x } }.modifyOpen id f) := by
  obtain ⟨u, hu, -, hpr, hpid, hpo, -⟩ := h.guarded id p hp
  rw [ht] at hu
  cases hu
  obtain ⟨hxr, hxo, rfl⟩ := hx
  obtain ⟨-, hpend, hact⟩ := CanLeaseTable.commit_ok h.exclusive hk
  have hna : s.mgr.active.lookup id = none := h.no_active ht (by
    intro res hres
    rw [hres] at hg
    exact hg)
  refine ⟨allExclusive_step h.exclusive (.commit p.reservation fresh), fun r j q hq => ?_,
    fun j p' hp' => ?_, fun r j e he => ?_, fun j y hy => ?_, fun j y hy => ?_,
    fun n fl hfl => ?_⟩
  · -- its reservation is gone
    change (s.mgr.leases.commit p.reservation fresh).1.pend r j = some q at hq
    rw [hpend, hpid, without_eq_some] at hq
    obtain ⟨p', hp', hr'⟩ := h.reserved r j q hq.2
    refine ⟨p', ?_, hr'⟩
    change (s.mgr.pending.erase id).lookup j = some p'
    rw [Assoc.lookup_erase_ite, if_neg, hp']
    rintro rfl
    rw [hp] at hp'
    obtain rfl := Option.some.inj hp'
    exact hq.1 ⟨by rw [hr'], rfl⟩
  · change (s.mgr.pending.erase id).lookup j = some p' at hp'
    obtain ⟨hj, hp'⟩ := Assoc.of_lookup_erase hp'
    obtain ⟨v, hv, hvg, hvr⟩ := h.guarded j p' hp'
    refine ⟨v, ?_, hvg, hvr⟩
    change (Assoc.modify s.opens id f).lookup j = some v
    rw [Assoc.lookup_modify, if_neg hj, hv]
  · change (s.mgr.leases.commit p.reservation fresh).1.act r j = some e at he
    change ∃ y, (s.mgr.active.insert id x).lookup j = some y ∧ _
    rw [hact, hpid] at he
    rw [Assoc.lookup_insert_ite]
    split at he
    · -- the new lease
      rename_i hj
      cases he
      exact ⟨x, by rw [if_pos hj.2], by rw [hj.1, hpr, hxr], by rw [hj.2, hpo, hxo]⟩
    · obtain ⟨y, hy, hyr, hye⟩ := h.granted r j e he
      refine ⟨y, ?_, hyr, hye⟩
      rw [if_neg, hy]
      rintro rfl
      rw [hna] at hy; cases hy
  · change (s.mgr.active.insert id x).lookup j = some y at hy
    change (s.mgr.leases.commit p.reservation fresh).1.act y.resourceId j = _
    rw [hact, hpid]
    rw [Assoc.lookup_insert_ite] at hy
    split at hy
    · -- the new session
      rename_i hj
      cases hy
      rw [if_pos ⟨by rw [hpr, hxr], hj⟩, hpo, hxo, hj]
    · rename_i hj
      rw [if_neg (fun hq => hj hq.2)]
      exact h.leased j y hy
  · change (s.mgr.active.insert id x).lookup j = some y at hy
    change ∃ v, (Assoc.modify s.opens id f).lookup j = some v ∧ _
    rw [Assoc.lookup_insert_ite] at hy
    rw [Assoc.lookup_modify]
    split at hy
    · rename_i hj
      cases hy
      subst hj
      exact ⟨f t, by rw [if_pos rfl, ht]; rfl, hf⟩
    · rename_i hj
      rw [if_neg hj]
      exact h.committed j y hy
  · obtain ⟨⟨v, hv, res, hpc⟩, hfit⟩ := h.closing n fl hfl
    -- a close of this session would mean that the open had returned
    have hne : fl.session ≠ id := by
      intro he
      rw [he, ht] at hv
      cases hv
      rw [hpc] at hg
      exact hg
    refine ⟨⟨v, ?_, res, hpc⟩, fun y hy => hfit y ?_⟩
    · change (Assoc.modify s.opens id f).lookup fl.session = some v
      rw [Assoc.lookup_modify, if_neg hne, hv]
    · change (s.mgr.active.insert id x).lookup fl.session = some y at hy
      rwa [Assoc.lookup_insert_ite, if_neg hne] at hy

end Enter

/-! ### Every step keeps the books -/

section Steps

variable {c : Config} {s s' : State} {id : SessionId} {t : OpenTask}

lemma Balanced.setTable (h : Balanced s) {leases : CanLeaseTable} (hx : leases.AllExclusive)
    (hp : leases.pend = s.mgr.leases.pend) (ha : leases.act = s.mgr.leases.act) :
    Balanced { s with mgr := { s.mgr with leases } } := by
  refine ⟨hx, ?_, h.guarded, ?_, ?_, h.committed, h.closing⟩
  · simpa only [hp] using h.reserved
  · simpa only [ha] using h.granted
  · simpa only [ha] using h.leased

lemma Balanced.dropGuard (h : Balanced s) (ht : s.opens.lookup id = some t)
    (hr : ∀ res, t.pc ≠ .returned res) (actor : Option ℕ) (pc : OpenPc) :
    Balanced (s.dropGuard id actor pc) := by
  have h₁ := h.dropPending id
  have hn : (s.mgr.dropPending id).pending.lookup id = none := by
    rw [(dropPending_fields s.mgr id).2.1, if_pos rfl]
  have hmod : ∀ (s₂ : State) (f : OpenTask → OpenTask), Balanced s₂ → s₂.opens = s.opens →
      s₂.mgr = s.mgr.dropPending id →
      (f t).owner = t.owner ∧ (f t).resource = t.resource ∧ (f t).mode = t.mode ∧
        (f t).activation = t.activation → Balanced (s₂.modifyOpen id f) := by
    intro s₂ f h₂ ho hm ⟨hfo, hfr, hfm, hfa⟩
    refine h₂.modifyOpen fun u hu => ?_
    rw [ho, ht] at hu
    cases hu
    refine ⟨hfo, hfr, hfm, fun ⟨p, hp⟩ => ?_, fun res hres => absurd hres (hr res),
      fun k hk => hfa ▸ hk⟩
    rw [hm, hn] at hp; cases hp
  unfold State.dropGuard
  cases actor with
  | some e => exact hmod _ _ (h₁.congr rfl rfl rfl) rfl rfl ⟨rfl, rfl, rfl, rfl⟩
  | none => exact hmod _ _ h₁ rfl rfl ⟨rfl, rfl, rfl, rfl⟩

lemma Balanced.validated (h : Balanced s) {required : LeaseMode} {operation : String}
    (hx : s.mgr.active.lookup id = some x)
    (hv : s.mgr.leases.validate x.resourceId id x.ownerId token required operation = .ok ()) :
    x.token = token := by
  obtain ⟨e, he, -, htok, -⟩ := CanLeaseTable.validate_eq_ok.mp hv
  have hleased := h.leased id x hx
  unfold CanLeaseTable.act at hleased
  rw [hleased] at he
  cases he
  exact htok

lemma Balanced.handClose (h : Balanced s) {a : CanActor.Actor} (hh : Handed s id token x a) (n : ℕ)
    (parent : Option ℕ) : Balanced (s.handClose n parent id token x a) := by
  refine h.frame ⟨rfl, .of_eq (fun _ _ => rfl) rfl, .insert (fun _ _ _ => rfl) hh.active rfl⟩
    (.of_eq rfl) fun m f hf => ?_
  unfold State.flying at hf ⊢
  simp only [State.handClose, State.setThread, Assoc.lookup_insert_ite] at hf
  split at hf
  · right
    obtain rfl : (⟨id, token, x.resourceId, x.actorEpoch⟩ : Flight) = f := by
      simpa [CloseTask.flight, ClosePc.InFlight] using hf
    obtain ⟨t, ht, -, -, hpc⟩ := h.committed id x hh.active
    refine ⟨⟨t, ht, _, hpc⟩, fun y hy => ?_⟩
    dsimp only at hy
    rw [hh.active] at hy
    cases hy
    exact ⟨h.validated hh.active hh.valid, rfl, rfl⟩
  · exact .inl hf

lemma Balanced.endClose (h : Balanced s) {n : ℕ} {t : CloseTask} {pc : ClosePc}
    (hpc : ¬pc.InFlight) : Balanced (s.setClose n t pc) := by
  refine h.frame (.of_mgr rfl) (.of_eq rfl) fun m f hf => ?_
  unfold State.flying State.setClose at hf
  simp only [Assoc.lookup_insert_ite] at hf
  split at hf
  · simp [CloseTask.flight, hpc] at hf
  · exact .inl hf

lemma Balanced.finishClose (h : Balanced s) {n : ℕ} {t : CloseTask}
    (ht : s.closes.lookup n = some t) (hpc : t.pc.InFlight) (closeFailed actorFinished : Bool) :
    Balanced (s.finishClose t closeFailed actorFinished) := by
  cases hx : s.mgr.active.lookup t.session with
  | none => rw [finishClose_none s hx]; exact h
  | some x =>
    have hf : s.flying n = some ⟨t.session, t.token, t.resource, t.epoch⟩ := by
      simp [State.flying, ht, CloseTask.flight, hpc]
    obtain ⟨htok, hres, -⟩ := (h.closing n _ hf).2 x hx
    simp only at htok hres
    obtain ⟨events, actors, he, -⟩ := finishClose_eq s hx closeFailed actorFinished
    rw [he, ← htok, ← hres]
    exact (h.dropActive hx).frame (.of_eq rfl rfl rfl) (.of_eq rfl) fun _ _ => .inl

/-- A lock section keeps the books. -/
theorem Locked.balanced {ev : Event} (hl : Locked s ev s') (h : Balanced s) : Balanced s' := by
  cases hl with
  | @refused id fresh t e ht hpc he =>
    obtain ⟨hp, ha⟩ := CanLeaseTable.reserve_error he
    have hst : Still s (s.setPc id (.returned (.error e))) := .goes ht (.fail hpc e)
    exact (h.still hst).setTable
      (allExclusive_step h.exclusive (.reserve t.resource id t.owner t.mode fresh)) hp ha
  | @reserved id _ t _ ht hpc hv =>
    have hadv : Still s (s.setPc id .reserved) :=
      .advance ht ⟨rfl, rfl, rfl, rfl⟩ (by simp [hpc]) fun _ => trivial
    have hset : (s.setPc id .reserved).opens.lookup id = some { t with pc := .reserved } := by
      unfold State.setPc State.modifyOpen
      rw [Assoc.lookup_modify, if_pos rfl, ht]
      rfl
    exact (h.still hadv).addPending hset trivial
      (h.no_pending ht (by simp [hpc, OpenPc.Guarded])) hv
  | @unassigned _ _ _ N _ ht hpc =>
    have hb : Balanced { s with mgr := { s.mgr with nextActorEpoch := N } } :=
      h.frame (.of_eq rfl rfl rfl) (.of_eq rfl) fun _ _ => .inl
    exact hb.still (.advance ht ⟨rfl, rfl, rfl, rfl⟩ (by simp [hpc]) fun _ => trivial)
  | @assigned id _ _ e N A a' ht hpc =>
    have hb : Balanced { s with
        mgr := { s.mgr with
          actors := A, nextActorEpoch := N
          pending := Assoc.modify s.mgr.pending id fun p => { p with actorEpoch := some e } }
        threads := s.threads.insert e a' } := by
      exact h.frame ⟨rfl, .modify (fun _ _ => rfl) fun _ _ => rfl, .of_eq (fun _ _ => rfl) rfl⟩
        (.of_eq rfl) fun _ _ => .inl
    exact hb.still (.advance ht ⟨rfl, rfl, rfl, rfl⟩ (by simp [hpc]) fun _ => trivial)
  | lapsed ht hpc => exact h.still (still_beginCleanup ht (by simp [hpc]))
  | @spoiled _ fresh _ _ p _ ht hpc hp he =>
    obtain ⟨hpend, hact⟩ := CanLeaseTable.commit_error (h.owns hp) he
    have hb := h.unreserve hp (allExclusive_step h.exclusive (.commit p.reservation fresh)) hpend
      hact
    exact hb.still (still_beginCleanup ht (by simp [hpc]))
  | issued hi =>
    exact (h.commitPending hi.task (by rw [hi.pc]; trivial) hi.pending hi.granted ⟨rfl, rfl, rfl⟩
      ⟨rfl, rfl, rfl⟩).congr rfl rfl rfl
  | called | revokeAnswered => exact h.congr rfl rfl rfl
  | answered => exact h
  | handed _ hh => exact h.handClose hh _ none
  | revokeHanded _ _ _ hh => exact (h.handClose hh _ _).congr rfl rfl rfl

end Steps

lemma balanced_empty : Balanced {} := by
  refine ⟨fun r => CanLeaseTable.exclusive_default, ?_, ?_, ?_, ?_, ?_, ?_⟩
  all_goals
    intros
    rename_i h
    exact absurd h (by simp [CanLeaseTable.pend, CanLeaseTable.act, CanLeaseTable.leasesOf,
      State.flying, ResourceLeases.active])

/-- **One step** keeps the books balanced, whatever it is. -/
theorem balanced_step {c : Config} {s' : State} {e : Event} (h : Balanced s)
    (hs : step c s e = some s') : Balanced s' := by
  cases step_act hs with
  | lock hrec hl => exact hl.balanced (hrec.balanced h)
  | plain hp => exact h.still hp.still
  | guard _ ht hpc => exact h.dropGuard ht hpc.not_returned _ _
  | finish ht hpc =>
    exact (h.finishClose ht (by rw [hpc]; trivial) _ _).endClose (by simp [ClosePc.InFlight])
  | dropClose => exact h.endClose (by simp [ClosePc.InFlight])
  | @revokeCall _ _ opens => exact (h.foldl_cancelPending false opens).congr rfl rfl rfl
  | revoke => exact h.congr rfl rfl rfl
  | dropRevoke => exact (h.endClose (by simp [ClosePc.InFlight])).congr rfl rfl rfl

/-- The books are balanced in every run. -/
theorem run_balanced {c : Config} {ok : State → Event → Prop} {l : List Event}
    (h : Machine.Runs (step c) ok {} l s) : Balanced s :=
  h.invariant balanced_empty fun _ _ _ ha _ hs => balanced_step ha hs

end RobotHal.CanManager
