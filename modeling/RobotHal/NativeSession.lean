import RobotHal.Revocation

/-!
Native sessions and the leases of their resources.

A worker has a native session from the moment the adapter's `open` returned it until it is closed
and dropped. Whoever releases a lease has seen the worker finish, or has heard from it that there
is no session, with one exception: a camera worker whose shared ring could not be created reports
the failure before it closes the session.
-/

namespace RobotHal.WorkerManager

variable {s u : State} {r : ResourceId} {id : SessionId} {t : OpenTask} {o : OwnerId}
  {k : LeaseToken} {ev : Event} {c : Config}
variable {id' : SessionId} {w : Worker} {q : ResourceId} {pc : OpenPc} {n : ℕ} {fresh : LeaseId}
  {s' : State}

/-! ### What is at stake -/

/-- The worker has not come to its end. -/
def Phase.live : Phase → Bool
  | .ending _ | .finished _ => false
  | _ => true

/-- The adapter returned a native session, and it is neither closed nor dropped. -/
def Phase.native : Phase → Bool
  | .mapping | .failing _ | .serving | .closing => true
  | _ => false

def Phase.isFailing : Phase → Bool
  | .failing _ => true
  | _ => false

/-- The session `id` has a native session of the resource open. -/
def State.Native (s : State) (id : SessionId) (r : ResourceId) : Prop :=
  ∃ w t, s.workers.lookup id = some w ∧ w.phase.native = true ∧ s.opens.lookup id = some t ∧
    t.resource = r

/-- The lease of the resource is the session's, committed or not. -/
def State.Leased (s : State) (r : ResourceId) (id : SessionId) : Prop :=
  (s.leases.holder r).map LeaseTable.Holder.session = some id

/-- No `open` gives its reservation back while its worker is still closing the native session. -/
def Patient (s : State) : Event → Prop
  | .releaseReservation id => (s.workers.lookup id).all (fun w => !w.phase.isFailing) = true
  | _ => True

instance (s : State) (e : Event) : Decidable (Patient s e) := by
  apply Event.casesOn (motive := fun e => Decidable (Patient s e)) e <;> intros <;>
    dsimp only [Patient] <;> infer_instance

lemma Phase.live_of_native {p : Phase} (h : p.native = true) : p.live = true := by
  cases p <;> first | rfl | cases h

lemma State.Leased.eq (h : s.Leased r id) (h' : s.Leased r id') :
    id = id' := Option.mem_unique h h'

/-! ### Workers -/

/-- What a worker has reported, by phase. -/
def Worker.Sound (w : Worker) : Prop :=
  match w.phase with
  | .opening | .mapping => w.reply = .pending
  | .failing _ => ∃ e, w.reply = .sent (.error e)
  | .serving | .closing => w.reply = .sent (.ok ())
  | .ending _ | .finished _ => w.reply ≠ .pending

/-- The worker has come to its end, or is closing what it opened after a failure. -/
def Worker.Over (w : Worker) : Prop := w.phase.live = false ∨ w.phase.isFailing = true

section Workers

variable {k : Kind} {w w' : Worker} {e : WorkerEvent}

lemma Reply.lose_ne_pending (r : Reply) : r.lose ≠ .pending := by
  cases r <;> exact nofun

lemma sound_step (h : w.step k e = some w') (hw : w.Sound) : w'.Sound := by
  obtain ⟨phase, reply, shutdown, terminal⟩ := w
  cases e with
  | opened =>
    cases phase <;> cases k <;> simp only [Worker.step, Option.some.injEq, reduceCtorEq] at h
    all_goals
      subst h
      first | exact hw | exact rfl
  | openFailed e =>
    cases phase <;> simp only [Worker.step, Option.some.injEq, reduceCtorEq] at h
    subst h
    exact nofun
  | mapped =>
    cases phase <;> simp only [Worker.step, Option.some.injEq, reduceCtorEq] at h
    subst h
    rfl
  | mapFailed e =>
    cases phase <;> simp only [Worker.step, Option.some.injEq, reduceCtorEq] at h
    subst h
    exact ⟨e, rfl⟩
  | mapInvalid e =>
    cases phase <;> simp only [Worker.step, Option.some.injEq, reduceCtorEq] at h
    subst h
    exact Reply.lose_ne_pending _
  | terminal e =>
    cases phase <;> cases k <;> simp only [Worker.step, Option.some.injEq, reduceCtorEq] at h
    subst h
    exact hw
  | stop | done =>
    cases phase <;> simp only [Worker.step, Option.some.injEq, reduceCtorEq] at h
    subst h
    exact hw
  | closed result =>
    cases phase <;> cases terminal <;> simp only [Worker.step, Option.some.injEq, reduceCtorEq] at h
    all_goals subst h
    · obtain ⟨e, he⟩ := hw
      exact fun hp => nomatch he.symm.trans hp
    · obtain ⟨e, he⟩ := hw
      exact fun hp => nomatch he.symm.trans hp
    · exact fun hp => nomatch Eq.trans (Eq.symm hw) hp
    · exact fun hp => nomatch Eq.trans (Eq.symm hw) hp
  | panicked =>
    cases phase <;> simp only [Worker.step, Option.some.injEq, reduceCtorEq] at h
    all_goals
      subst h
      exact Reply.lose_ne_pending _

lemma over_step (h : w.step k e = some w') :
    (w.Over → w'.Over) ∧ (w.phase.live = false → w'.phase.live = false) ∧
      (w.isFinished = true → False) := by
  obtain ⟨phase, reply, shutdown, terminal⟩ := w
  cases e <;> cases phase <;> cases k <;> cases terminal <;>
    simp only [Worker.step, Option.some.injEq, reduceCtorEq] at h <;> subst h <;>
    simp [Worker.Over, Phase.live, Phase.isFailing, Worker.isFinished]

lemma Worker.Sound.over (hw : w.Sound) (hp : w.reply ≠ .pending)
    (hok : w.reply ≠ .sent (.ok ())) : w.Over := by
  obtain ⟨phase, reply, shutdown, terminal⟩ := w
  cases phase with
  | opening | mapping => exact absurd hw hp
  | serving | closing => exact absurd hw hok
  | failing e => exact .inr rfl
  | ending res | finished res => exact .inl rfl

end Workers

/-! ### The invariant -/

/-- Every live worker's resource is leased to its session, an `open` gives back a reservation only
after its worker's report, and a session is only finished after its worker. -/
structure Guarded (s : State) : Prop where
  sound : ∀ id w, s.workers.lookup id = some w → w.Sound
  held : ∀ id w, s.workers.lookup id = some w → ∃ t, s.opens.lookup id = some t ∧ ¬t.pc.Early ∧
    (w.phase.live = true → s.Leased t.resource id)
  releasing : ∀ id t e w, s.opens.lookup id = some t → t.pc = .releasing e →
    s.workers.lookup id = some w → w.Over
  closes : ∀ n t res, s.closes.lookup n = some t → t.pc = .finishing res →
    s.isFinished t.session = true
  revokes : ∀ n t cur rest err, s.revokes.lookup n = some t → t.pc = .finishing cur rest err →
    s.isFinished cur.1 = true

/-- Past the reservation, and not about to give it back. -/
def OpenPc.Plain : OpenPc → Prop
  | .enumerating | .locking | .releasing _ => False
  | _ => True

/-- The invariant holds in `u`, and no native session of `s` is gone there. -/
structure Secured (s u : State) : Prop where
  guarded : Guarded u
  native : ∀ id r, s.Native id r → u.Native id r

lemma Guarded.secured (h : Guarded s) : Secured s s := ⟨h, fun _ _ hn => hn⟩

lemma Guarded.leased (h : Guarded s) (hn : s.Native id r) : s.Leased r id := by
  obtain ⟨w, t, hw, hp, ht, rfl⟩ := hn
  obtain ⟨t', ht', -, hl⟩ := h.held id w hw
  obtain rfl := Option.mem_unique ht ht'
  exact hl (Phase.live_of_native hp)

lemma Guarded.absent (h : Guarded s) (hid : ∀ t, s.opens.lookup id = some t → t.pc.Early) :
    s.workers.lookup id = none := by
  cases hw : s.workers.lookup id with
  | none => rfl
  | some w =>
    obtain ⟨t, ht, hne, -⟩ := h.held id w hw
    exact absurd (hid t ht) hne

lemma isFinished_eq : s.isFinished id = true ↔
    ∃ w, s.workers.lookup id = some w ∧ w.isFinished = true := by
  simp [State.isFinished, Option.any_eq_true]

lemma Worker.not_live_of_isFinished (h : w.isFinished = true) : w.phase.live = false := by
  obtain ⟨phase, reply, shutdown, terminal⟩ := w
  cases phase <;> first | rfl | cases h

lemma leased_release {t : LeaseTable} (hne : id' ≠ id)
    (h : (t.holder q).map LeaseTable.Holder.session = some id') :
    ((t.release r id).1.holder q).map LeaseTable.Holder.session = some id' := by
  obtain ⟨x, hx, rfl⟩ := Option.map_eq_some_iff.mp h
  rw [LeaseTable.holder_release, LeaseTable.unhold_apply.mpr ⟨hx, fun h => hne h.2⟩]
  rfl

namespace Secured

variable {s u u' : State} {id : SessionId} (hu : Secured s u)

include hu

/-- Nothing but leases and the books changes, and live workers keep their leases. -/
lemma aside (hw : u'.workers = u.workers) (ho : u'.opens = u.opens) (hc : u'.closes = u.closes)
    (hr : u'.revokes = u.revokes)
    (hl : ∀ r id w, u.workers.lookup id = some w → w.phase.live = true → u.Leased r id →
      u'.Leased r id) : Secured s u' where
  guarded := by
    have hfin : ∀ id, u'.isFinished id = u.isFinished id := fun id => by
      rw [State.isFinished, State.isFinished, hw]
    refine ⟨fun id w h => ?_, fun id w h => ?_, fun id t e w ht hpc h => ?_,
      fun n t res ht hpc => ?_, fun n t cur rest err ht hpc => ?_⟩
    · rw [hw] at h
      exact hu.guarded.sound id w h
    · rw [hw] at h
      obtain ⟨t, ht, hne, hlive⟩ := hu.guarded.held id w h
      exact ⟨t, ho ▸ ht, hne, fun hp => hl t.resource id w h hp (hlive hp)⟩
    · rw [ho] at ht
      rw [hw] at h
      exact hu.guarded.releasing id t e w ht hpc h
    · rw [hc] at ht
      rw [hfin]
      exact hu.guarded.closes n t res ht hpc
    · rw [hr] at ht
      rw [hfin]
      exact hu.guarded.revokes n t cur rest err ht hpc
  native id r h := by
    obtain ⟨w, t, hlw, hp, ht, hres⟩ := hu.native id r h
    exact ⟨w, t, hw ▸ hlw, hp, ho ▸ ht, hres⟩

lemma release (r : ResourceId) (hid : ∀ w, u.workers.lookup id = some w → w.phase.live = false) :
    Secured s { u with leases := (u.leases.release r id).1 } := by
  refine hu.aside rfl rfl rfl rfl fun q id' w hw hp hl => ?_
  refine leased_release ?_ hl
  rintro rfl
  exact absurd hp (by rw [hid w hw]; exact Bool.false_ne_true)

lemma setOpen (ht : u.opens.lookup id = some t) (hearly : pc.Early → t.pc.Early)
    (hrel : ∀ e w, pc = .releasing e → u.workers.lookup id = some w → w.Over) :
    Secured s (u.setOpen id t pc) where
  guarded := by
    have hopen : ∀ j, (u.setOpen id t pc).opens.lookup j =
        if j = id then some { t with pc } else u.opens.lookup j :=
      fun j => Assoc.lookup_insert_ite _ _ _ _
    refine ⟨hu.guarded.sound, fun j w hw => ?_, fun j t' e w ht' hpc hw => ?_,
      hu.guarded.closes, hu.guarded.revokes⟩
    · obtain ⟨t', ht', hne, hl⟩ := hu.guarded.held j w hw
      rw [hopen]
      split
      · -- the open itself
        rename_i hj
        subst hj
        obtain rfl := Option.mem_unique ht ht'
        exact ⟨_, rfl, fun h => hne (hearly h), hl⟩
      · exact ⟨t', ht', hne, hl⟩
    · rw [hopen] at ht'
      split at ht'
      · rename_i hj
        subst hj
        obtain rfl := Option.some.inj ht'
        exact hrel e w hpc hw
      · exact hu.guarded.releasing j t' e w ht' hpc hw
  native j r h := by
    obtain ⟨w, t', hw, hp, ht', rfl⟩ := hu.native j r h
    by_cases hj : j = id
    · subst hj
      obtain rfl := Option.mem_unique ht ht'
      exact ⟨w, { t with pc }, hw, hp, AList.lookup_insert _, rfl⟩
    · exact ⟨w, t', hw, hp, (AList.lookup_insert_ne hj).trans ht', rfl⟩

lemma moveOn (ht : u.opens.lookup id = some t) (hpc : pc.Plain) :
    Secured s (u.setOpen id t pc) := by
  refine hu.setOpen ht (fun h => ?_) fun e w h _ => ?_
  · cases pc <;> first | exact hpc.elim | exact h.elim
  · subst h
    exact hpc.elim

lemma spawn (x : Reaper) : Secured s (u.spawn x) :=
  hu.aside rfl rfl rfl rfl fun _ _ _ _ _ hl => hl

lemma setClose {t : CloseTask} {pc : ClosePc}
    (hpc : ∀ res, pc = .finishing res → u.isFinished t.session = true) :
    Secured s (u.setClose n t pc) where
  guarded := by
    refine ⟨hu.guarded.sound, hu.guarded.held, hu.guarded.releasing, fun m t' res ht' hres => ?_,
      hu.guarded.revokes⟩
    rcases Assoc.of_lookup_insert ht' with ⟨-, rfl⟩ | ht'
    · exact hpc res hres
    · exact hu.guarded.closes m t' res ht' hres
  native := hu.native

lemma setRevoke {t : RevokeTask} {pc : RevokePc}
    (hpc : ∀ cur rest err, pc = .finishing cur rest err → u.isFinished cur.1 = true) :
    Secured s (u.setRevoke n t pc) where
  guarded := by
    refine ⟨hu.guarded.sound, hu.guarded.held, hu.guarded.releasing, hu.guarded.closes,
      fun m t' cur rest err ht' hres => ?_⟩
    rcases Assoc.of_lookup_insert ht' with ⟨-, rfl⟩ | ht'
    · exact hpc cur rest err hres
    · exact hu.guarded.revokes m t' cur rest err ht' hres
  native := hu.native

lemma requestClose (id : SessionId) : Secured s (u.requestClose id) := by
  unfold State.requestClose
  split
  · exact hu
  rename_i w hw
  have hlook : ∀ j w', (u.workers.insert id w.requestClose).lookup j = some w' →
      ∃ v, u.workers.lookup j = some v ∧ v.phase = w'.phase ∧ v.reply = w'.reply := by
    intro j w' h
    rcases Assoc.of_lookup_insert h with ⟨rfl, rfl⟩ | h
    · exact ⟨w, hw, rfl, rfl⟩
    · exact ⟨w', h, rfl, rfl⟩
  have hfin : ∀ j, u.isFinished j = true →
      State.isFinished { u with workers := u.workers.insert id w.requestClose } j = true := by
    intro j h
    obtain ⟨v, hv, hf⟩ := isFinished_eq.mp h
    refine isFinished_eq.mpr ?_
    by_cases hj : j = id
    · subst hj
      obtain rfl := Option.mem_unique hw hv
      exact ⟨_, AList.lookup_insert _, hf⟩
    · exact ⟨v, (AList.lookup_insert_ne hj).trans hv, hf⟩
  refine ⟨⟨fun j w' h => ?_, fun j w' h => ?_, fun j t e w' ht hpc h => ?_,
    fun n t res ht hpc => hfin _ (hu.guarded.closes n t res ht hpc),
    fun n t cur rest err ht hpc => hfin _ (hu.guarded.revokes n t cur rest err ht hpc)⟩,
    fun j r h => ?_⟩
  · obtain ⟨v, hv, hp, hr⟩ := hlook j w' h
    have := hu.guarded.sound j v hv
    rwa [Worker.Sound, hp, hr] at this
  · obtain ⟨v, hv, hp, -⟩ := hlook j w' h
    obtain ⟨t, ht, hne, hl⟩ := hu.guarded.held j v hv
    exact ⟨t, ht, hne, fun hlive => hl (hp ▸ hlive)⟩
  · obtain ⟨v, hv, hp, -⟩ := hlook j w' h
    have := hu.guarded.releasing j t e v ht hpc hv
    rwa [Worker.Over, hp] at this
  · -- native sessions stay
    obtain ⟨v, t, hv, hp, ht, rfl⟩ := hu.native j r h
    by_cases hj : j = id
    · subst hj
      obtain rfl := Option.mem_unique hw hv
      exact ⟨_, t, AList.lookup_insert _, hp, ht, rfl⟩
    · exact ⟨v, t, (AList.lookup_insert_ne hj).trans hv, hp, ht, rfl⟩

lemma finishSession (hid : u.isFinished id = true) : Secured s (u.finishSession id) := by
  unfold State.finishSession
  split
  · exact hu
  · -- its worker has finished
    rename_i e _
    obtain ⟨w, hw, hf⟩ := isFinished_eq.mp hid
    have hend : ∀ v, u.workers.lookup id = some v → v.phase.live = false := fun v hv => by
      obtain rfl := Option.mem_unique hw hv
      exact Worker.not_live_of_isFinished hf
    exact (hu.release e.resource hend).aside rfl rfl rfl rfl fun _ _ _ _ _ hl => hl

end Secured

/-! ### Every step -/

section Steps

variable {c : Config} {s s' : State}

lemma secured_handed (hu : Secured s u) (ht : u.opens.lookup id = some t) (k : LeaseToken)
    (res : HalResult (SessionId × LeaseToken)) :
    Secured s (((u.requestClose id).spawn (.reservation t.resource id k)).setOpen id t
      (.returned res)) := by
  refine ((hu.requestClose id).spawn _).moveOn ?_ trivial
  unfold State.requestClose
  split <;> exact ht

lemma secured_openCall {t₀ : OpenTask} (hg : Guarded s) (hn : s.opens.lookup id = none) :
    Secured s { s with opens := s.opens.insert id t₀ } := by
  have hkeep : ∀ j t, s.opens.lookup j = some t →
      (s.opens.insert id t₀).lookup j = some t := fun j t ht => by
    rw [AList.lookup_insert_ne]
    · exact ht
    · rintro rfl
      exact nomatch hn.symm.trans ht
  refine ⟨⟨hg.sound, fun j w hw => ?_, fun j t e w ht hpc hw => ?_, hg.closes, hg.revokes⟩,
    fun j q hj => ?_⟩
  · obtain ⟨t, ht, hne, hl⟩ := hg.held j w hw
    exact ⟨t, hkeep j t ht, hne, hl⟩
  · obtain ⟨t', ht', -⟩ := hg.held j w hw
    obtain rfl := Option.mem_unique ht (hkeep j t' ht')
    exact hg.releasing j t e w ht' hpc hw
  · obtain ⟨w, t, hw, hp, ht, rfl⟩ := hj
    exact ⟨w, t, hw, hp, hkeep j t ht, rfl⟩

lemma Guarded.grown (hg : Guarded s) (leases : LeaseTable)
    (hl : ∀ q j, s.Leased q j → State.Leased { s with leases } q j) :
    Secured s { s with leases } :=
  hg.secured.aside rfl rfl rfl rfl fun q j _ _ _ h => hl q j h

lemma leased_reserved {j : SessionId} (hk : (s.leases.reserveControl r id o fresh).2 = .ok k)
    (hl : s.Leased q j) :
    State.Leased { s with leases := (s.leases.reserveControl r id o fresh).1 } q j := by
  obtain ⟨hfree, hhold⟩ := LeaseTable.holder_reserveControl_ok hk
  rw [State.Leased, hhold, Function.update_of_ne]
  · exact hl
  · rintro rfl
    rw [State.Leased, hfree] at hl
    exact nomatch hl

lemma secured_reserved (hg : Guarded s) (hnone : s.workers.lookup id = none)
    (hk : (s.leases.reserveControl r id o fresh).2 = .ok k) :
    Secured s { s with
      leases := (s.leases.reserveControl r id o fresh).1
      workers := s.workers.insert id {}
      opens := s.opens.insert id ⟨o, r, .awaiting k⟩ } := by
  have hold : ∀ j w, s.workers.lookup j = some w → j ≠ id := by
    rintro j w hw rfl
    exact nomatch hnone.symm.trans hw
  have hfin : ∀ j, s.isFinished j = true →
      State.isFinished { s with workers := s.workers.insert id {} } j = true := by
    intro j hj
    obtain ⟨w, hw, hf⟩ := isFinished_eq.mp hj
    exact isFinished_eq.mpr ⟨w, (AList.lookup_insert_ne (hold j w hw)).trans hw, hf⟩
  refine ⟨⟨fun j w hw => ?_, fun j w hw => ?_, fun j t e w ht' hpc hw => ?_,
    fun n t res ht hpc => hfin _ (hg.closes n t res ht hpc),
    fun n t cur rest err ht hpc => hfin _ (hg.revokes n t cur rest err ht hpc)⟩,
    fun j q hj => ?_⟩
  · rcases Assoc.of_lookup_insert hw with ⟨-, rfl⟩ | hw
    · rfl
    · exact hg.sound j w hw
  · rw [Assoc.lookup_insert_ite] at hw
    split at hw
    · rename_i hj
      subst hj
      refine ⟨_, AList.lookup_insert _, fun h => h, fun _ => ?_⟩
      rw [State.Leased, (LeaseTable.holder_reserveControl_ok hk).2, Function.update_self]
      rfl
    · rename_i hj
      obtain ⟨t, ht, hne, hl⟩ := hg.held j w hw
      exact ⟨t, (AList.lookup_insert_ne hj).trans ht, hne,
        fun hlive => leased_reserved hk (hl hlive)⟩
  · rw [Assoc.lookup_insert_ite] at ht' hw
    split at ht'
    · obtain rfl := Option.some.inj ht'
      cases hpc
    · rename_i hj
      rw [if_neg hj] at hw
      exact hg.releasing j t e w ht' hpc hw
  · obtain ⟨w, t, hw, hp, ht, rfl⟩ := hj
    have hne := hold j w hw
    exact ⟨w, t, (AList.lookup_insert_ne hne).trans hw, hp,
      (AList.lookup_insert_ne hne).trans ht, rfl⟩

/-- An `open` that gives its reservation back has a worker that is over; the condition excludes
the one that still has a native session. -/
lemma secured_gaveBack {e : HalError} (hg : Guarded s) (hp : Patient s (.releaseReservation id))
    (ht : s.opens.lookup id = some ⟨o, r, .releasing e⟩) :
    Secured s (State.setOpen { s with leases := (s.leases.release r id).1 } id
      ⟨o, r, .releasing e⟩ (.returned (.error e))) := by
  refine (hg.secured.release r fun w hw => ?_).moveOn ht trivial
  rcases hg.releasing id _ e w ht rfl hw with hover | hfail
  · exact hover
  · rw [Patient, hw, Option.all_some, hfail] at hp
    cases hp

lemma secured_enter (hg : Guarded s) (ht : s.opens.lookup id = some ⟨o, r, .committing k⟩) :
    Secured s (s.enter id o r k) := by
  refine Secured.moveOn ?_ ?_ trivial
  · refine hg.secured.aside rfl rfl rfl rfl fun q j _ _ _ hl => ?_
    rw [State.Leased, LeaseTable.commit, LeaseTable.holder_keep]
    exact hl
  · exact ht

lemma secured_looked (hg : Guarded s) (h : Looked s id s') : Secured s s' := by
  cases h with
  | kept => exact hg.secured
  | buried hf => exact hg.secured.finishSession hf

lemma Looked.isFinished (h : Looked s id s') (id' : SessionId) :
    s'.isFinished id' = s.isFinished id' := by
  cases h with
  | kept => rfl
  | buried =>
    unfold State.finishSession
    split <;> rfl

lemma secured_beginClose (hu : Secured s u) (n : ℕ) (t : CloseTask) (r : ResourceId) :
    Secured s (u.beginClose n t r) :=
  ((hu.requestClose t.session).spawn _).setClose nofun

lemma secured_revokeNext (hu : Secured s u) (n : ℕ) (t : RevokeTask) (rest : List Target)
    (err : Option HalError) : Secured s (u.revokeNext c n t rest err) := by
  unfold State.revokeNext
  split
  · exact hu.setRevoke nofun
  · simp only
    split
    · exact hu.setRevoke nofun
    · exact (hu.spawn _).setRevoke nofun

lemma secured_requestNext (hu : Secured s u) (n : ℕ) (t : RevokeTask) (todo all : List Target) :
    Secured s (u.requestNext c n t todo all) := by
  unfold State.requestNext
  split
  · refine secured_revokeNext ?_ n t all none
    exact hu.aside rfl rfl rfl rfl fun _ _ _ _ _ hl => hl
  · exact hu.setRevoke nofun

lemma secured_requestAll (hu : Secured s u) (l : List Target) :
    Secured s (l.foldl (fun s x => s.requestClose x.1) u) := by
  induction l generalizing u with
  | nil => exact hu
  | cons x l ih => exact ih (hu.requestClose x.1)

lemma secured_revokeFailed (hg : Guarded s) (n : ℕ) (t : RevokeTask) (rest : List Target)
    (err : Option HalError) (e : HalError) : Secured s (s.revokeFailed c n t rest err e) := by
  unfold State.revokeFailed
  split
  · exact secured_revokeNext hg.secured _ _ _ _
  · exact hg.secured.setRevoke nofun

lemma secured_reap {x : Reaper} (hg : Guarded s) (hx : s.isFinished x.worker = true) :
    Secured s { s.reapWith c x with reapers := s.reapers.erase x } := by
  have hwith : Secured s (s.reapWith c x) := by
    cases x with
    | session id => exact hg.secured.finishSession hx
    | reservation r id k =>
      obtain ⟨w, hw, hf⟩ := isFinished_eq.mp hx
      refine hg.secured.aside rfl rfl rfl rfl fun q j v hv hp hl => ?_
      refine leased_release ?_ ?_
      · rintro rfl
        obtain rfl := Option.mem_unique hw hv
        exact absurd hp (by rw [Worker.not_live_of_isFinished hf]; exact Bool.false_ne_true)
      · split
        · rw [LeaseTable.quarantine, LeaseTable.holder_keep]
          exact hl
        · exact hl
  exact hwith.aside rfl rfl rfl rfl fun _ _ _ _ _ hl => hl

lemma guarded_worker {e : WorkerEvent} {w' : Worker} (hg : Guarded s)
    (hw : s.workers.lookup id = some w) (hstep : w.step c.kind e = some w') :
    Guarded { s with workers := s.workers.insert id w' } := by
  obtain ⟨hover, hend, hfin⟩ := over_step hstep
  have hkeep : ∀ j, s.isFinished j = true →
      State.isFinished { s with workers := s.workers.insert id w' } j = true := by
    intro j hj
    obtain ⟨v, hv, hf⟩ := isFinished_eq.mp hj
    have hne : j ≠ id := by
      rintro rfl
      obtain rfl := Option.mem_unique hw hv
      exact hfin hf
    exact isFinished_eq.mpr ⟨v, (AList.lookup_insert_ne hne).trans hv, hf⟩
  refine ⟨fun j v hv => ?_, fun j v hv => ?_, fun j t e v ht hpc hv => ?_,
    fun n t res ht hpc => hkeep _ (hg.closes n t res ht hpc),
    fun n t cur rest err ht hpc => hkeep _ (hg.revokes n t cur rest err ht hpc)⟩
  all_goals
    rw [Assoc.lookup_insert_ite] at hv
    split at hv
  · cases hv
    exact sound_step hstep (hg.sound id w hw)
  · exact hg.sound j v hv
  · rename_i hj
    subst hj
    cases hv
    obtain ⟨t, ht, hne, hl⟩ := hg.held j w hw
    refine ⟨t, ht, hne, fun hlive => hl ?_⟩
    cases hp : w.phase.live with
    | true => rfl
    | false => exact absurd hlive (by rw [hend hp]; exact Bool.false_ne_true)
  · exact hg.held j v hv
  · rename_i hj
    subst hj
    cases hv
    exact hover (hg.releasing j t e w ht hpc hw)
  · exact hg.releasing j t e v ht hpc hv

/-- A step that meets the condition keeps the invariant, and either every native session or every
lease. -/
lemma guarded_step (hg : Guarded s) (hp : Patient s ev) (h : step c s ev = some s') :
    Secured s s' ∨ (Guarded s' ∧ s'.leases = s.leases) := by
  have habsent : ∀ {id t}, s.opens.lookup id = some t → t.pc.Early →
      s.workers.lookup id = none := fun ht he => hg.absent fun t' ht' => by
    obtain rfl := Option.mem_unique ht ht'
    exact he
  have hbooks : ∀ locked, Secured s { s with locked } := fun _ =>
    hg.secured.aside rfl rfl rfl rfl fun _ _ _ _ _ hl => hl
  cases step_did h with
  | worker hw hstep => exact .inr ⟨guarded_worker hg hw hstep, rfl⟩
  | openCall hn => exact .inl (secured_openCall hg hn)
  | @moved _ _ t _ _ ht hgo =>
    obtain ⟨o, r, pc⟩ := t
    cases hgo with
    | found => exact .inl (hg.secured.setOpen ht (fun h => h) fun _ _ => nofun)
    | missing | accepted | late => exact .inl (hg.secured.moveOn ht trivial)
    | declined hw hpend hok =>
      refine .inl (hg.secured.setOpen ht (fun h => h.elim) fun _ v _ hv => ?_)
      obtain rfl := Option.mem_unique hw hv
      exact (hg.sound _ _ hw).over hpend hok
  | refused ht he =>
    refine .inl (.moveOn (hg.grown (s.leases.reserveControl _ _ _ _).1 ?_) ht ?_)
    · intro q j hl
      rw [State.Leased, LeaseTable.holder_reserveControl_error he]
      exact hl
    · trivial
  | reserved ht hk => exact .inl (secured_reserved hg (habsent ht trivial) hk)
  | unspawned ht hk =>
    refine .inl (.setOpen (hg.grown _ fun _ _ => leased_reserved hk) ht (fun h => h.elim) ?_)
    exact fun _ w _ hw => nomatch (habsent ht trivial).symm.trans hw
  | @handed _ _ _ _ _ locked _ ht => exact .inl (secured_handed (hbooks locked) ht _ _)
  | gaveBack ht => exact .inl (secured_gaveBack hg hp ht)
  | committed ht => exact .inl (secured_enter hg ht)
  | attended ht => exact .inl ((secured_enter hg ht).spawn _)
  | cancelling ht | dropOpen ht =>
    refine .inl (.moveOn ?_ ?_ ?_)
    · exact hbooks _
    · exact ht
    · trivial
  | operate hl => exact .inl (secured_looked hg hl)
  | closeCall => exact .inl (hg.secured.setClose (t := ⟨_, _, .locking⟩) nofun)
  | closeMoved _ _ _ hl hpc =>
    refine .inl ((secured_looked hg hl).setClose fun res h => ?_)
    exact (hl.isFinished _).trans (hpc res h)
  | begun _ _ _ hl => exact .inl (secured_beginClose (secured_looked hg hl) _ _ _)
  | marked =>
    refine .inl (secured_beginClose ?_ _ _ _)
    exact hg.secured.aside rfl rfl rfl rfl fun _ _ _ _ _ hl => hl
  | closeFinish ht hpc =>
    exact .inl ((hg.secured.finishSession (hg.closes _ _ _ ht hpc)).setClose nofun)
  | revokeCall => exact .inl (hg.secured.setRevoke (t := ⟨_, .locking⟩) nofun)
  | listed => exact .inl (secured_revokeNext (secured_requestAll hg.secured _) _ _ _ _)
  | asking => exact .inl (secured_requestNext hg.secured _ _ _ _)
  | asked => exact .inl (secured_requestNext (hg.secured.requestClose _) _ _ _ _)
  | completed _ hc =>
    refine .inl (hg.secured.setRevoke fun cur rest err hpc => ?_)
    obtain ⟨rfl, -, -⟩ := RevokePc.finishing.inj hpc
    exact isFinished_of_completion hc
  | failed | expired => exact .inl (secured_revokeFailed hg _ _ _ _ _)
  | revokeFinish ht =>
    have hfin := hg.secured.finishSession (hg.revokes _ _ _ _ _ ht rfl)
    exact .inl (secured_revokeNext hfin _ _ _ _)
  | reaped _ hf => exact .inl (secured_reap hg hf)

end Steps

/-! ### Every run -/

lemma guarded_empty : Guarded {} := by
  refine ⟨fun _ _ h => ?_, fun _ _ h => ?_, fun _ _ _ _ h => ?_, fun _ _ _ h => ?_,
    fun _ _ _ _ _ h => ?_⟩ <;> cases h

lemma guarded_run {l : List Event} (h : Machine.Runs (step c) Patient {} l s) : Guarded s := by
  refine h.invariant (I := Guarded) guarded_empty fun s ev s' hg hp hs => ?_
  rcases guarded_step hg hp hs with h | h
  · exact h.guarded
  · exact h.1

/-- A lease taken away by a step that meets the condition is one of a resource with no native
session. -/
lemma Guarded.released (hg : Guarded s) (hp : Patient s ev) (hs : step c s ev = some s')
    (hl : s.Leased r id) (hgone : ¬s'.Leased r id) (id' : SessionId) : ¬s.Native id' r := by
  intro hn
  obtain rfl := hl.eq (hg.leased hn)
  rcases guarded_step hg hp hs with h | ⟨-, h⟩
  · exact hgone (h.guarded.leased (h.native id r hn))
  · exact hgone (by rw [State.Leased, h]; exact hl)

/-- A reservation given back too early leaves a native session without its lease. -/
lemma Guarded.exposed (hg : Guarded s) (hp : ¬Patient s ev) (hs : step c s ev = some s') :
    ∃ r id, s.Leased r id ∧ ¬s'.Leased r id ∧ s.Native id r := by
  cases ev with
  | releaseReservation id =>
    obtain ⟨w, hw, hf⟩ : ∃ w, s.workers.lookup id = some w ∧ w.phase.isFailing = true := by
      rw [Patient] at hp
      cases hw : s.workers.lookup id with
      | none => simp [hw] at hp
      | some w => exact ⟨w, rfl, by simpa [hw] using hp⟩
    have hnative : w.phase.native = true := by
      cases hw' : w.phase <;> rw [hw'] at hf <;> first | rfl | cases hf
    rw [step, State.releaseReservation] at hs
    split at hs
    · rename_i o r e ht _
      cases hs
      have hn : s.Native id r := ⟨w, _, hw, hnative, ht, rfl⟩
      refine ⟨r, id, hg.leased hn, fun hl => ?_, hn⟩
      obtain ⟨x, hx, rfl⟩ := Option.map_eq_some_iff.mp hl
      rw [State.setOpen, LeaseTable.holder_release] at hx
      exact (LeaseTable.unhold_apply.mp hx).2 ⟨rfl, rfl⟩
    · cases hs
  | _ => exact absurd trivial hp

/-- A lease is released only once the native session is gone exactly as long as no `open` gives
its reservation back while its worker is still closing, and then no resource has two native
sessions. -/
theorem lease_outlives_native_session (c : Config) {l : List Event} {s : State}
    (h : Machine.Runs (step c) Patient {} l s) :
    (∀ id id' r, s.Native id r → s.Native id' r → id = id') ∧
      ∀ ev s', step c s ev = some s' → (Patient s ev ↔
        ∀ r id, s.Leased r id → ¬s'.Leased r id → ∀ id', ¬s.Native id' r) := by
  have hg := guarded_run h
  refine ⟨fun id id' r hn hn' => (hg.leased hn).eq (hg.leased hn'), fun ev s' hs => ?_⟩
  refine ⟨fun hp r id hl hgone => hg.released hp hs hl hgone, fun hrel => ?_⟩
  by_contra hp
  obtain ⟨r, id, hl, hgone, hn⟩ := hg.exposed hp hs
  exact hrel r id hl hgone id hn

instance (s : State) (r : ResourceId) (id : SessionId) : Decidable (s.Leased r id) :=
  inferInstanceAs (Decidable (_ = _))

instance (s : State) (id : SessionId) (r : ResourceId) : Decidable (s.Native id r) :=
  decidable_of_iff ((∃ w ∈ s.workers.lookup id, w.phase.native = true) ∧
      ∃ t ∈ s.opens.lookup id, t.resource = r)
    ⟨fun ⟨⟨w, hw, hp⟩, t, ht, hr⟩ => ⟨w, t, hw, hp, ht, hr⟩,
      fun ⟨w, t, hw, hp, ht, hr⟩ => ⟨⟨w, hw, hp⟩, t, ht, hr⟩⟩

theorem lease_outlives_native_session_closed : ∃ s s',
    Machine.Runs (step ⟨.usb, "5s"⟩) Patient {} (openedRun ⟨"s1"⟩ ⟨"a"⟩ ⟨"r:1"⟩ ++
      [.closeCall 0 ⟨"s1"⟩ ⟨⟨"s1"⟩, 1, .control⟩, .closeLocked 0] ++ closedRun ⟨"s1"⟩ (.ok ()) ++
      [.closeCompleted 0]) s ∧
    step ⟨.usb, "5s"⟩ s (.closeFinish 0) = some s' ∧ s.Leased ⟨"r:1"⟩ ⟨"s1"⟩ ∧
    ¬s'.Leased ⟨"r:1"⟩ ⟨"s1"⟩ ∧ ∀ id, ¬s.Native id ⟨"r:1"⟩ := by
  have hexec : ∃ s ∈ Machine.exec (step ⟨.usb, "5s"⟩) Patient {}
        (openedRun ⟨"s1"⟩ ⟨"a"⟩ ⟨"r:1"⟩ ++
          [.closeCall 0 ⟨"s1"⟩ ⟨⟨"s1"⟩, 1, .control⟩, .closeLocked 0] ++
            closedRun ⟨"s1"⟩ (.ok ()) ++
          [.closeCompleted 0]),
      ∃ s' ∈ step ⟨.usb, "5s"⟩ s (.closeFinish 0),
        s.Leased ⟨"r:1"⟩ ⟨"s1"⟩ ∧ ¬s'.Leased ⟨"r:1"⟩ ⟨"s1"⟩ := by decide +kernel
  obtain ⟨s, hs, s', hs', hl, hgone⟩ := hexec
  have h := Machine.runs_of_exec hs
  exact ⟨s, s', h, hs', hl, hgone,
    ((lease_outlives_native_session _ h).2 _ s' hs').mp trivial _ _ hl hgone⟩

/-- The shared ring of a first camera session cannot be created; a second session opens the
camera before the first has closed it. -/
theorem failed_mapping_exposes_camera : ∃ s ∈ Machine.exec (step ⟨.camera, "5s"⟩)
    (fun _ _ => True) {}
    [.openCall ⟨"s1"⟩ ⟨"a"⟩ ⟨"r:1"⟩, .enumerated ⟨"s1"⟩ (.ok ()),
      .reserve ⟨"s1"⟩ ⟨"s1"⟩ (.ok ()), .worker ⟨"s1"⟩ .opened,
      .worker ⟨"s1"⟩ (.mapFailed closeError), .replied ⟨"s1"⟩, .releaseReservation ⟨"s1"⟩,
      .openCall ⟨"s2"⟩ ⟨"b"⟩ ⟨"r:1"⟩, .enumerated ⟨"s2"⟩ (.ok ()),
      .reserve ⟨"s2"⟩ ⟨"s2"⟩ (.ok ()), .worker ⟨"s2"⟩ .opened],
    s.Native ⟨"s1"⟩ ⟨"r:1"⟩ ∧ s.Native ⟨"s2"⟩ ⟨"r:1"⟩ ∧ ¬s.Leased ⟨"r:1"⟩ ⟨"s1"⟩ := by
  decide +kernel

end RobotHal.WorkerManager
