import RobotHal.Machine
import RobotHal.SerialSession

/-!
Every step of the serial runtime moves the views of its sessions, so in every run every session
is sound; and what a revocation has waited for has left the registry when it returns.
-/

namespace RobotHal.Serial

open WorkerManager (SessionLifecycle)

variable {o : OwnerId} {n : ℕ} {ev : Event} {l : List Event} {id : SessionId}
variable {t : OpenTask} {c : Config} {result : HalResult Unit} {a : Actor} {g : Registry}
  {e : SessionEntry} {lease : LeaseToken} {x : RevokeTarget} {order : List RevokeTarget}

namespace State

variable {s s' : State} {id j : SessionId} {orderly : Prop} {dies : SessionId → Prop}

/-! ### The view of a state -/

lemma view_setOpen (t : OpenTask) (pc : OpenPc) : (s.setOpen id t pc).view j =
    if j = id then { s.view id with task := some { t with pc } } else s.view j := by
  rcases eq_or_ne j id with rfl | hj <;> simp [view, setOpen, eventsOf, *]

lemma view_setActor (a : Actor) : (s.setActor id a).view j =
    if j = id then { s.view id with actor := some a } else s.view j := by
  rcases eq_or_ne j id with rfl | hj <;> simp [view, setActor, eventsOf, *]

lemma view_requestClose : (s.requestClose id).view j = if j = id then
    { s.view id with actor := (s.view id).actor.map fun a => { a with shutdown := true } }
    else s.view j := by
  unfold requestClose
  split
  next h => rcases eq_or_ne j id with rfl | hj <;> simp [view, *]
  next a h => rw [view_setActor]; simp [view, h]

@[simp] lemma view_answer (n : ℕ) (result : HalResult Reply) :
    (s.answer n result).view j = s.view j := by
  unfold answer
  split <;> rfl

lemma view_cancelOpen : ({ s with registry := s.registry.cancelOpen id } : State).view j =
    if j = id then (s.view id).leave (.ok ()) else s.view j := by
  rcases h : s.registry.sessions.lookup id with _ | e
  · rcases eq_or_ne j id with rfl | hj <;>
      simp [view, Registry.cancelOpen, View.leave, eventsOf, *]
  · rcases eq_or_ne j id with rfl | hj
    · simp [view, Registry.cancelOpen, View.leave, h, eventsOf, LeaseTable.heldBy_release_self]
    · simp [view, Registry.cancelOpen, h, eventsOf, LeaseTable.heldBy_release_of_ne hj, hj]

/-- Every session sees a move, or nothing. -/
def Moves (orderly : Prop) (dies : SessionId → Prop) (s s' : State) : Prop :=
  ∀ j, View.Move orderly (dies j) (s.view j) (s'.view j)

lemma moves_of_ite (id : SessionId) {v : View} (h : ∀ j, s'.view j = if j = id then v else s.view j)
    (hm : View.Move orderly (dies id) (s.view id) v) : Moves orderly dies s s' := by
  intro j
  rw [h j]
  split
  next hj => exact hj ▸ hm
  · exact .same

/-! ### Moves of the futures -/

lemma moves_setOpen {pc : OpenPc}
    (hm : View.Move orderly (dies id) (s.view id) { s.view id with task := some { t with pc } }) :
    Moves orderly dies s (s.setOpen id t pc) := moves_of_ite id (fun _ => view_setOpen t pc) hm

lemma openCall_moves {r : ResourceId} (h : s.openCall c id o r = some s') :
    Moves orderly dies s s' := by
  unfold openCall at h
  split at h
  · cases h
  next hn =>
  cases h
  have hn : (s.view id).task = none := by simpa [view] using hn
  rcases hc : c.adapter with _ | _
  · exact moves_setOpen (t := ⟨o, r, .locking⟩) (.called _ hn (.inr ⟨_, rfl⟩))
  · exact moves_setOpen (t := ⟨o, r, .locking⟩) (.called _ hn (.inl rfl))

lemma reserve_moves {fresh : LeaseId} (h : s.reserve id fresh = some s') :
    Moves orderly dies s s' := by
  unfold reserve at h
  split at h
  case h_2 => cases h
  next t ht =>
  split at h
  case isFalse => cases h
  next hpc =>
  have htv : (s.view id).task = some t := ht
  unfold Registry.reserveOpen at h
  rcases hr : s.registry.leases.reserveControl t.resource id t.owner fresh with ⟨leases, e | k⟩
  · -- refused: the table of leases is as it was
    have hact := LeaseTable.reserveControl_error hr
    have hv : ∀ j, ({ s with registry := { s.registry with leases } } : State).view j =
        s.view j := fun j => by
      simp [view, eventsOf, LeaseTable.heldBy_congr hact]
    simp only [hr, Option.some.injEq] at h
    subst h
    intro j
    rw [← hv j]
    refine moves_setOpen (.advanced t _ ?_ (hpc ▸ .refused e)) j
    rw [hv]
    exact htv
  · obtain ⟨hfree, hact⟩ := LeaseTable.reserveControl_ok hr
    simp only [hr, Option.some.injEq] at h
    subst h
    refine moves_of_ite id (fun j => ?_) (.reserved t ⟨id, t.owner, k, false⟩ htv hpc rfl)
    rw [view_setOpen]
    rcases eq_or_ne j id with rfl | hj
    · have hl := LeaseTable.heldBy_insert_self hact
      simp [view, eventsOf, hl]
    · have hl := LeaseTable.heldBy_insert_of_ne (by simp [hfree]) hact hj
      simp [view, eventsOf, hj, hl]

lemma adapterReturned_moves (h : s.adapterReturned id result = some s') :
    Moves orderly dies s s' := by
  unfold adapterReturned at h
  split at h
  case h_2 => cases h
  next t ht =>
  split at h
  next k e hpc =>
    cases h
    exact moves_setOpen (.advanced t _ ht (hpc ▸ .failed k e))
  next k hpc =>
    cases h
    refine moves_of_ite id (fun j => ?_) (.arrived t k ht hpc)
    by_cases hj : j = id <;> simp [view_setOpen, view_setActor, hj]
  · cases h

lemma openCancelled_moves (h : s.openCancelled id = some s') : Moves orderly dies s s' := by
  unfold openCancelled at h
  split at h
  case h_2 => cases h
  next t ht =>
  split at h
  case h_2 => cases h
  next k hpc =>
  split at h
  · cases h
    exact moves_setOpen (.advanced t _ ht (hpc ▸ .failed k _))
  · cases h

lemma cancelOpen_moves (h : s.cancelOpen id = some s') : Moves orderly dies s s' := by
  unfold cancelOpen at h
  split at h
  case h_2 => cases h
  next t ht =>
  split at h
  case h_2 => cases h
  next e hpc =>
  cases h
  refine moves_of_ite id (fun j => ?_) (.gaveBack t e (e.withResourceId t.resource) ht hpc)
  by_cases hj : j = id <;> simp [view_setOpen, view_cancelOpen, hj]

lemma openRejected_moves (h : s.openRejected id = some s') : Moves orderly dies s s' := by
  unfold openRejected at h
  split at h
  case h_2 => cases h
  next t result ht hres =>
  split at h
  case isFalse => cases h
  next hpc =>
  cases h
  exact moves_setOpen (.advanced t _ ht (hpc ▸ .closed _))

lemma dropOpen_moves {free : Bool} (h : s.dropOpen id free = some s')
    (ho : orderly → ∀ t, s.opens.lookup id = some t → ¬t.pc.Arriving) :
    Moves orderly dies s s' := by
  unfold dropOpen at h
  split at h
  case h_2 => cases h
  next t ht =>
  -- where the guard is armed
  have armed (hpc : t.pc.Bare ∨ t.pc.Arriving)
      (h : (if free then
          some ({ s with registry := s.registry.cancelOpen id }.setOpen id t .dropped)
        else some ({ s with guards := s.guards ++ [id] }.setOpen id t .dropped)) = some s') :
    Moves orderly dies s s' := by
    split at h
    · cases h
      refine moves_of_ite id (fun j => ?_) (.dropped t ht hpc fun h => ho h t ht)
      by_cases hj : j = id <;> simp [view_setOpen, view_cancelOpen, hj]
    · cases h
      refine moves_of_ite id (fun j => ?_) (.abandoned t ht hpc fun h => ho h t ht)
      rw [view_setOpen]
      rcases eq_or_ne j id with rfl | hj <;> simp [view, eventsOf, *]
  dsimp only at h
  split at h
  next hpc =>
    cases h
    exact moves_setOpen (.advanced t _ ht (hpc ▸ .left))
  next hpc => exact armed (by simp [hpc]) h
  next hpc => exact armed (by simp [hpc]) h
  next hpc => exact armed (by simp [hpc]) h
  next hpc =>
    cases h
    exact moves_setOpen (.advanced t _ ht (hpc ▸ .forgotten))
  · cases h
  · cases h

lemma guardCancel_moves (h : s.guardCancel id = some s') : Moves orderly dies s s' := by
  unfold guardCancel at h
  split at h
  case isFalse => cases h
  next hg =>
  cases h
  refine moves_of_ite id (fun j => ?_) (.guarded (id ∈ s.guards.erase id) hg)
  change { ({ s with registry := s.registry.cancelOpen id } : State).view j with
    guarded := j ∈ s.guards.erase id } = _
  rw [view_cancelOpen]
  rcases eq_or_ne j id with rfl | hj
  · simp
  · simp [hj, view, List.mem_erase_of_ne hj]

lemma finishOpen_moves (hs : (s.view id).Sound) (h : s.finishOpen id = some s') :
    Moves orderly dies s s' := by
  unfold finishOpen at h
  split at h
  case h_2 => cases h
  next t ht =>
  split at h
  case h_2 => cases h
  next k hpc =>
  obtain ⟨e, he, hact⟩ := hs.armed t ht (.inr (by simp [hpc]))
  obtain ⟨_, a, -, -, -, hl, hk, hst, hcom, -⟩ := hs.entry e he
  obtain ⟨hl', hid⟩ := LeaseTable.heldBy_eq_some.mp hl
  have he' : s.registry.sessions.lookup id = some e := he
  subst hid
  rcases hstate : e.state with _ | _ | _
  · rw [Registry.finishOpen_of_opening he' hstate hl' rfl hk] at h
    cases h
    have hins : ({ s.registry.leases with
        active := s.registry.leases.active.insert e.resource { a with committed := true } } :
          LeaseTable).active = _ := rfl
    refine moves_of_ite a.sessionId (fun j => ?_) (.committed t k e a ht hpc he hl hstate)
    rw [view_setOpen]
    rcases eq_or_ne j a.sessionId with rfl | hj
    · have hheld := LeaseTable.heldBy_insert_self hins
      simp [view, eventsOf, hheld, Registry.event]
    · have hheld := LeaseTable.heldBy_insert_of_ne (by simp [hl']) hins hj
      simp [view, eventsOf, hj, hheld, Registry.event, hj.symm]
  · have := (hcom (hst hstate)).1
    simp [hact] at this
  · rw [Registry.finishOpen_of_closing he' hstate] at h
    cases h
    refine moves_of_ite a.sessionId (fun j => ?_) (.rejected t k e ht hpc he hstate)
    rw [view_setOpen, view_requestClose, view_requestClose]
    rcases eq_or_ne j a.sessionId with rfl | hj <;> simp [view, eventsOf, *]

/-! ### Moves of the actors -/

lemma moves_setActor {a' : Actor} (ha : s.actors.lookup id = some a) (hr : a'.resource = a.resource)
    (hf : a'.stage.Finished ↔ a.stage.Finished) (hd : a'.stage = .died → dies id ∨ a.stage = .died)
    (hv : ∀ t, s.opens.lookup id = some t → ¬t.pc.Arriving) :
    Moves orderly dies s (s.setActor id a') := by
  have ha' : (s.view id).actor = some a := ha
  refine moves_of_ite id (fun j => ?_) (.worked (fun e => e) (fun _ => a') (by simp)
    (by simpa [ha', hr, hf] using hd) fun t ht h => absurd h (hv t ht))
  simp [view_setActor, ha']

lemma not_arriving (hs : (s.view id).Sound) (ha : s.actors.lookup id = some a)
    (hne : ∀ r, a ≠ { resource := r }) : ∀ t, s.opens.lookup id = some t → ¬t.pc.Arriving := by
  intro t ht h
  have := hs.arriving t ht h
  exact hne t.resource (Option.mem_unique ha this)

lemma actorTake_moves (hs : (s.view id).Sound) (h : s.actorTake id = some s') :
    Moves orderly dies s s' := by
  unfold actorTake at h
  split at h
  case h_2 => cases h
  next a ha =>
  split at h
  case h_2 => cases h
  next n cmd rest hst hsh hcmd =>
  cases h
  refine moves_setActor ha (by rfl) (by simp [hst, Stage.Finished]) (by simp)
    (not_arriving hs ha ?_)
  rintro r rfl
  cases hcmd

lemma actorReply_moves {result : HalResult Reply} (hs : (s.view id).Sound)
    (h : s.actorReply id result = some s') : Moves orderly dies s s' := by
  unfold actorReply at h
  split at h
  case h_2 => cases h
  next a ha =>
  split at h
  case h_2 => cases h
  next n cmd hst =>
  cases h
  intro j
  rw [view_answer]
  refine moves_setActor ha (by rfl) (by simp [hst, Stage.Finished]) (by simp)
    (not_arriving hs ha ?_) j
  rintro r rfl
  cases hst

lemma handled_of_arriving (ht : s.opens.lookup id = some t) (hpc : t.pc.Arriving) :
    s.handled id = true := by
  obtain ⟨o, r, pc⟩ := t
  cases pc <;> simp_all [handled]

lemma actorStop_moves (hs : (s.view id).Sound) (h : s.actorStop id = some s') :
    Moves orderly dies s s' := by
  unfold actorStop at h
  split at h
  case h_2 => cases h
  next a ha =>
  split at h
  case isFalse => cases h
  next hstop =>
  have hv : ∀ t, s.opens.lookup id = some t → ¬t.pc.Arriving := fun t ht hpc => by
    obtain rfl := Option.mem_unique ha (hs.arriving t ht hpc)
    simp [handled_of_arriving ht hpc] at hstop
  split at h
  next hst =>
    cases h
    exact moves_setActor ha (by rfl) (by simp [hst, Stage.Finished]) (by simp) hv
  next n cmd hst =>
    cases h
    intro j
    rw [view_answer]
    exact moves_setActor ha (by rfl) (by simp [hst, Stage.Finished]) (by simp) hv j
  · cases h

lemma view_answerAll (s : State) (l : List (ℕ × SerialCommand)) (error : String → HalError) :
    (s.answerAll l error).view j = s.view j := by
  induction l generalizing s with
  | nil => rfl
  | cons x l ih => exact (ih _).trans (view_answer x.1 _)

lemma actorClosed_moves {result : Option (HalResult Unit)} (hs : (s.view id).Sound)
    (h : s.actorClosed c id result = some s') : Moves orderly dies s s' := by
  unfold actorClosed at h
  split at h
  case h_2 => cases h
  next a ha =>
  split at h
  case isFalse => cases h
  next hst =>
  cases h
  intro j
  rw [view_answerAll]
  refine moves_setActor ha (by rfl) (by simp [hst, Stage.Finished]) (by simp)
    (not_arriving hs ha ?_) j
  rintro r rfl
  cases hst

lemma actorDied_moves (hs : (s.view id).Sound) (hd : dies id) (h : s.actorDied id = some s') :
    Moves orderly dies s s' := by
  unfold actorDied at h
  split at h
  case h_2 => cases h
  next a ha =>
  have hm (hst : a.stage ≠ .waiting) (hf : ¬a.stage.Finished) :
      Moves orderly dies s (s.setActor id { a with stage := .died, commands := [] }) := by
    refine moves_setActor ha (by rfl) (iff_of_false (fun h => h) hf) (fun _ => .inl hd)
      (not_arriving hs ha ?_)
    rintro r rfl
    exact hst rfl
  split at h
  case h_3 => cases h
  all_goals
    next hst =>
    cases h
    intro j
    rw [view_answerAll]
    exact hm (by simp [hst]) (by simp [hst, Stage.Finished]) j

lemma view_finishClose {event : Option RuntimeEvent}
    (h : s.registry.finishClose id result = (g, event)) :
    ({ s with registry := g, events := s.events ++ event.toList } : State).view j = if j = id then
      { (s.view id).leave result with
        events := (s.view id).events ++ if (s.view id).exposed then [.sessionClosed] else [] }
      else s.view j := by
  rcases he : s.registry.sessions.lookup id with _ | e
  · obtain ⟨rfl, rfl⟩ : s.registry = g ∧ none = event := by
      simpa [Registry.finishClose, he] using h
    rcases eq_or_ne j id with rfl | hj <;> simp [view, View.leave, View.exposed, eventsOf, *]
  · obtain ⟨hl, hs, hd, hev⟩ := Registry.finishClose_of_lookup he result
    simp only [h] at hl hs hd hev
    subst hev
    rcases eq_or_ne j id with rfl | hj
    · simp only [if_true, view, View.leave, View.exposed, he, hl, hs, hd,
        LeaseTable.heldBy_release_self, Option.any_some]
      split <;> simp [eventsOf, Registry.event]
    · simp only [hj, if_false, view, hl, hs, hd, LeaseTable.heldBy_release_of_ne hj]
      split <;> simp [eventsOf, hj, Registry.event, hj.symm]

lemma actorFinish_moves (h : s.actorFinish id = some s') : Moves orderly dies s s' := by
  unfold actorFinish at h
  split at h
  case h_2 => cases h
  next a ha =>
  split at h
  case h_2 => cases h
  next result hst =>
  rcases hfc : s.registry.finishClose id result with ⟨g, event⟩
  rw [hfc] at h
  cases h
  refine moves_of_ite id (fun j => ?_) (.closed a result ha hst)
  by_cases hj : j = id <;> simp [view_setActor, view_finishClose hfc, hj]

/-! ### Moves of closes, revocations and requests -/

lemma moves_of_view_eq (h : ∀ j, s'.view j = s.view j) : Moves orderly dies s s' := fun j => by
  rw [h j]
  exact .same

lemma moves_closing (asked : Bool) (hs : (s.view id).Sound)
    (he : s.registry.sessions.lookup id = some e) (ha : asked = true → e.actor = true)
    (hv : ∀ j, s'.view j = if j = id then { s.view id with
        entry := some { e with state := .closing }
        actor := (s.view id).actor.map fun a => { a with shutdown := a.shutdown || asked } }
      else s.view j) : Moves orderly dies s s' := by
  have he' : (s.view id).entry = some e := he
  refine moves_of_ite id (fun j => ?_) (.worked (fun e => { e with state := .closing })
    (fun a => { a with shutdown := a.shutdown || asked }) (by simp) (fun _ _ => ⟨rfl, .rfl, .inr⟩)
    fun t ht hpc => ?_)
  · simp [hv, he']
  · obtain ⟨e', he'', hact⟩ := hs.armed t ht (.inr hpc)
    obtain rfl := Option.mem_unique he' he''
    rcases asked with _ | _
    · simp
    · simp [ha rfl] at hact

lemma closeCall_moves (hs : (s.view id).Sound) (h : s.closeCall n id lease = some s') :
    Moves orderly dies s s' := by
  unfold closeCall at h
  split at h
  · cases h
  rcases hb : s.registry.beginClose id lease with ⟨g, x⟩
  rcases s.registry.beginClose_cases id lease with ⟨hg, hx⟩ | ⟨e, he, hg, hx⟩
  · -- the session is unknown, or the lease is not its own
    simp only [hb] at hg hx h
    subst hg
    rcases x with x | _ | r
    case wait => exact absurd rfl (hx r)
    all_goals
      cases h
      exact moves_of_view_eq fun _ => rfl
  · simp only [hb] at hg hx h
    subst hg
    rcases x with x | _ | r
    case wait =>
      cases h
      refine moves_closing true hs he (fun _ => hx r rfl) fun j => ?_
      rw [view_requestClose]
      rcases eq_or_ne j id with rfl | hj <;> simp [view, eventsOf, *]
    all_goals
      cases h
      refine moves_closing false hs he (by simp) fun j => ?_
      rcases eq_or_ne j id with rfl | hj <;> simp [view, eventsOf, *]

lemma request_moves {cmd : SerialCommand} (hs : (s.view id).Sound)
    (h : s.request n id lease cmd = some s') : Moves orderly dies s s' := by
  unfold request at h
  split at h
  · cases h
  dsimp only at h
  split at h
  next r a hq ha =>
    cases h
    obtain ⟨e, he, -, hact, -⟩ := Registry.enqueue_ok hq
    refine moves_setActor (s := { s with requests := _ }) ha (by rfl) (by rfl) .inr
      fun t ht hpc => ?_
    obtain ⟨e', he', hact'⟩ := hs.armed t ht (.inr hpc)
    obtain rfl := Option.mem_unique he he'
    simp [hact] at hact'
  · cases h
  · cases h
    exact moves_of_view_eq fun _ => rfl

lemma aside_moves (h : s.closeDone n = some s' ∨ s.dropClose n = some s' ∨
    s.revokeNext n = some s' ∨ s.revokeReturn n = some s' ∨ s.dropRevoke n = some s') :
    Moves orderly dies s s' := by
  refine moves_of_view_eq fun j => ?_
  rcases h with h | h | h | h | h
  all_goals
    simp only [closeDone, dropClose, revokeNext, revokeReturn, dropRevoke] at h
    split at h
    case h_2 => cases h
    first
      | cases h
      | obtain ⟨result, -, rfl⟩ := Option.map_eq_some_iff.mp h
    rfl

lemma view_requestCloseAll (l : List RevokeTarget) (s : State) :
    (l.foldl (fun s t => s.requestClose t.session) s).view j =
      { s.view j with
        actor := (s.view j).actor.map fun a =>
          { a with shutdown := a.shutdown || l.any fun t => t.session = j } } := by
  induction l generalizing s with
  | nil => simp
  | cons t l ih =>
    rw [List.foldl_cons, ih, view_requestClose]
    by_cases hj : j = t.session
    · simp [hj, Function.comp_def]
    · simp [hj, Ne.symm hj]

lemma mem_revokeTargets :
    x ∈ g.revokeTargets o ↔ ∃ e, g.sessions.lookup x.session = some e ∧ e.owner = o ∧
      e.actor = x.actor ∧ e.resource = x.resource := by
  simp only [Registry.revokeTargets, Assoc.mem_pick, decide_eq_true_eq]
  constructor
  · rintro ⟨id, e, he, ho, rfl⟩
    exact ⟨e, he, ho, rfl, rfl⟩
  · rintro ⟨e, he, ho, ha, hr⟩
    exact ⟨x.session, e, he, ho, by simp only [ha, hr]⟩

lemma revokeCall_moves (hs : ∀ j, (s.view j).Sound) (h : s.revokeCall n o order = some s') :
    Moves orderly dies s s' := by
  unfold revokeCall at h
  split at h
  · cases h
  next hn =>
  push Not at hn
  cases h
  intro j
  have hm : View.Move orderly (dies j) (s.view j) _ :=
    .worked (fun e => if e.owner = o then Registry.revokeEntry e else e)
      (fun a => { a with
        shutdown := a.shutdown || (order.filter RevokeTarget.actor).any fun t => t.session = j })
      (fun e => by split <;> simp [Registry.revokeEntry, SessionLifecycle.beginClose])
      (fun _ _ => ⟨rfl, .rfl, .inr⟩) fun t ht hpc => by
        -- an arriving session is no target that has an actor
        have hno : ((order.filter RevokeTarget.actor).any fun t => t.session = j) = false := by
          simp only [List.any_eq_false, List.mem_filter, decide_eq_true_eq]
          rintro x ⟨hx, hxa⟩ rfl
          obtain ⟨e, he, -, ha, -⟩ := mem_revokeTargets.mp (hn.2.mem_iff.mp hx)
          obtain ⟨e', he', hact⟩ := (hs x.session).armed t ht (.inr hpc)
          obtain rfl := Option.mem_unique he he'
          simp [ha, hxa] at hact
        simp [hno]
  have hv := view_requestCloseAll (j := j) (order.filter RevokeTarget.actor)
    { s with registry := s.registry.beginRevoke o }
  change View.Move orderly (dies j) (s.view j) (State.view (List.foldl _ _ _) j)
  rw [hv]
  simpa [view, eventsOf, Registry.beginRevoke, Assoc.lookup_mapVal] using hm

end State

/-! ### Runs -/

/-- No future is dropped while the native session of its adapter arrives. -/
def Orderly (s : State) : Event → Prop
  | .dropOpen id _ => ∀ t, s.opens.lookup id = some t → ¬t.pc.Arriving
  | _ => True

variable {c : Config} {s s' : State}

/-- Every step moves the view of every session. -/
lemma step_moves (hs : ∀ j, (s.view j).Sound) (h : step c s ev = some s') :
    ∀ j, View.Move (Orderly s ev) (ev = .actorDied j) (s.view j) (s'.view j) := by
  cases ev with
  | openCall id o r => exact State.openCall_moves h
  | reserve id fresh => exact State.reserve_moves h
  | adapterReturned id result => exact State.adapterReturned_moves h
  | openCancelled id => exact State.openCancelled_moves h
  | cancelOpen id => exact State.cancelOpen_moves h
  | finishOpen id => exact State.finishOpen_moves (hs id) h
  | openRejected id => exact State.openRejected_moves h
  | dropOpen id free => exact State.dropOpen_moves h fun ho => ho
  | guardCancel id => exact State.guardCancel_moves h
  | closeCall n id lease => exact State.closeCall_moves (hs id) h
  | revokeCall n o order => exact State.revokeCall_moves hs h
  | request n id lease cmd => exact State.request_moves (hs id) h
  | actorTake id => exact State.actorTake_moves (hs id) h
  | actorReply id result => exact State.actorReply_moves (hs id) h
  | actorStop id => exact State.actorStop_moves (hs id) h
  | actorClosed id result => exact State.actorClosed_moves (hs id) h
  | actorFinish id => exact State.actorFinish_moves h
  | actorDied id => exact State.actorDied_moves (hs id) rfl h
  | closeDone n => exact State.aside_moves (.inl h)
  | dropClose n => exact State.aside_moves (.inr (.inl h))
  | revokeNext n => exact State.aside_moves (.inr (.inr (.inl h)))
  | revokeReturn n => exact State.aside_moves (.inr (.inr (.inr (.inl h))))
  | dropRevoke n => exact State.aside_moves (.inr (.inr (.inr (.inr h))))

lemma run_sound_from {ok : State → Event → Prop} (hs : ∀ j, (s.view j).Sound)
    (h : Machine.Runs (step c) ok s l s') : ∀ j, (s'.view j).Sound :=
  h.invariant (I := fun s => ∀ j, (s.view j).Sound) hs
    fun _ _ _ hs _ h j => (hs j).move (step_moves hs h j)

theorem run_sound {ok : State → Event → Prop} (h : Machine.Runs (step c) ok {} l s) :
    ∀ j, (s.view j).Sound :=
  run_sound_from (fun _ => View.sound_empty) h

/-! ### Revocations -/

/-- The session was in the registry and has left it. -/
def View.Left (v : View) : Prop :=
  v.entry = none ∧ ∃ t, v.task = some t ∧ t.pc ≠ .locking

lemma View.Left.move {orderly dies : Prop} {v v' : View} (h : v.Left)
    (m : View.Move orderly dies v v') : v'.Left := by
  obtain ⟨he, t, ht, hpc⟩ := h
  cases m with
  | same => exact ⟨he, t, ht, hpc⟩
  | called t' hn => simp [ht] at hn
  | advanced t' pc ht' hnext => exact ⟨he, _, rfl, hnext.facts.2.2.2.2⟩
  | reserved t' a ht' hpc' =>
    obtain rfl := Option.mem_unique ht ht'
    exact absurd hpc' hpc
  | arrived t' k => exact ⟨he, _, rfl, by simp⟩
  | committed t' k e a ht' hpc' he' | rejected t' k e ht' hpc' he' => simp [he] at he'
  | gaveBack t' e e' | dropped t' => exact ⟨leave_entry _, _, rfl, by simp⟩
  | abandoned t' => exact ⟨he, _, rfl, by simp⟩
  | guarded b => exact ⟨leave_entry _, t, by simpa using ht, hpc⟩
  | worked f g => exact ⟨by simp [he], t, ht, hpc⟩
  | closed a result => exact ⟨leave_entry _, t, by simpa using ht, hpc⟩

lemma State.requestClose_revokes (s : State) (id : SessionId) :
    (s.requestClose id).revokes = s.revokes := by
  unfold requestClose
  split <;> rfl

lemma State.answer_revokes (s : State) (n : ℕ) (result : HalResult Reply) :
    (s.answer n result).revokes = s.revokes := by
  unfold answer
  split <;> rfl

lemma State.requestCloseAll_revokes (l : List RevokeTarget) (s : State) :
    (l.foldl (fun s t => s.requestClose t.session) s).revokes = s.revokes := by
  induction l generalizing s with
  | nil => rfl
  | cons t l ih => rw [List.foldl_cons, ih, requestClose_revokes]

lemma State.answerAll_revokes (s : State) (l : List (ℕ × SerialCommand))
    (error : String → HalError) : (s.answerAll l error).revokes = s.revokes := by
  induction l generalizing s with
  | nil => rfl
  | cons x l ih => exact (ih _).trans (answer_revokes ..)

/-- What a step does to the revocations. -/
lemma step_revokes (h : step c s ev = some s') :
    match ev with
    | .revokeCall n _ order => s.revokes.lookup n = none ∧
        s'.revokes = s.revokes.insert n (.waiting order none)
    | .revokeNext n => ∃ x targets e e', s.revokes.lookup n = some (.waiting (x :: targets) e) ∧
        (s.targetDone x).isSome ∧ s'.revokes = s.revokes.insert n (.waiting targets e')
    | .revokeReturn n => ∃ e result, s.revokes.lookup n = some (.waiting [] e) ∧
        s'.revokes = s.revokes.insert n (.returned result)
    | .dropRevoke n => s'.revokes = s.revokes.insert n .dropped
    | _ => s'.revokes = s.revokes := by
  cases ev
  case revokeCall n o order =>
    simp only [step, State.revokeCall] at h
    split at h
    · cases h
    next hn =>
      cases h
      push Not at hn
      exact ⟨by simpa using hn.1, by simp [State.requestCloseAll_revokes]⟩
  case revokeNext n =>
    simp only [step, State.revokeNext] at h
    split at h
    next x targets e hw =>
      obtain ⟨result, hd, rfl⟩ := Option.map_eq_some_iff.mp h
      exact ⟨x, targets, e, _, hw, by simp [hd], rfl⟩
    · cases h
  case revokeReturn n =>
    simp only [step, State.revokeReturn] at h
    split at h
    next e hw =>
      cases h
      exact ⟨e, _, hw, rfl⟩
    · cases h
  case dropRevoke n =>
    simp only [step, State.dropRevoke] at h
    split at h
    · cases h
      rfl
    · cases h
  case closeDone n =>
    simp only [step, State.closeDone] at h
    split at h
    · obtain ⟨result, -, rfl⟩ := Option.map_eq_some_iff.mp h
      rfl
    · cases h
  all_goals
    simp only [step, State.openCall, State.reserve, State.adapterReturned, State.openCancelled,
      State.cancelOpen, State.finishOpen, State.openRejected, State.dropOpen, State.guardCancel,
      State.closeCall, State.dropClose, State.request, State.actorTake, State.actorReply,
      State.actorStop, State.actorClosed, State.actorFinish, State.actorDied] at h
    repeat' split at h
    all_goals first
      | cases h; done
      | cases h
        simp only [State.setOpen, State.setActor, State.requestClose_revokes,
          State.answer_revokes, State.answerAll_revokes]

/-- What a revocation has to do with a session it has listed: it still waits for it, or the
session has left. -/
def Covered (s : State) (n : ℕ) (id : SessionId) : Prop :=
  match s.revokes.lookup n with
  | some (.waiting targets _) => (∃ x ∈ targets, x.session = id) ∨ (s.view id).Left
  | some (.returned _) => (s.view id).Left
  | some .dropped => True
  | none => False

lemma left_of_targetDone (hs : (s.view x.session).Sound) (hd : ¬(s.view x.session).Died)
    (h : (s.targetDone x).isSome) : (s.view x.session).Left := by
  have hcase : (∃ a, s.actors.lookup x.session = some a ∧ a.stage.Finished) ∨
      (s.registry.done.lookup x.session).isSome := by
    unfold State.targetDone at h
    split at h
    · unfold State.completion at h
      split at h
      next ha => exact .inl ⟨_, ha, by simp [Stage.Finished]⟩
      next ha => exact absurd ⟨_, ha, rfl⟩ hd
      · cases h
    · exact .inr h
  refine ⟨?_, ?_⟩
  · rcases hcase with ⟨a, ha, hf⟩ | hd
    · exact hs.finished a ha hf
    · exact hs.done hd
  · by_contra hn
    push Not at hn
    obtain ⟨-, hact, -, hdone⟩ := hs.fresh hn
    rcases hcase with ⟨a, ha, -⟩ | hd
    · exact absurd (hact.symm.trans ha) (by simp)
    · exact absurd hdone (Option.isSome_iff_ne_none.mp hd)

lemma Covered.of_revokes_eq (h : Covered s n id) (hr : s'.revokes.lookup n = s.revokes.lookup n)
    (hl : (s.view id).Left → (s'.view id).Left) : Covered s' n id := by
  unfold Covered at h ⊢
  rw [hr]
  split at h
  · exact h.imp_right hl
  · exact hl h
  · trivial
  · exact h

lemma Covered.step (hs : ∀ j, (s.view j).Sound) (hd : ¬(s.view id).Died) (h : Covered s n id)
    (hst : step c s ev = some s') : Covered s' n id := by
  have hl : (s.view id).Left → (s'.view id).Left := fun hl => hl.move (step_moves hs hst id)
  have hr := step_revokes hst
  -- only the revocation's own events take it further
  have other (m : ℕ) (pc : RevokePc) (hm : s'.revokes = s.revokes.insert m pc) (hne : n ≠ m) :
      Covered s' n id := h.of_revokes_eq (by rw [hm, AList.lookup_insert_ne hne]) hl
  cases ev
  case revokeCall m o order =>
    obtain ⟨hnone, hm⟩ := hr
    refine other m _ hm ?_
    rintro rfl
    simp [Covered, hnone] at h
  case revokeNext m =>
    obtain ⟨x, targets, e, e', hw, hdone, hm⟩ := hr
    by_cases hne : n = m
    · subst hne
      simp only [Covered, hw, List.mem_cons, exists_eq_or_imp] at h
      simp only [Covered, hm, AList.lookup_insert]
      rcases h with (rfl | h) | h
      · exact .inr (hl (left_of_targetDone (hs x.session) hd hdone))
      · exact .inl h
      · exact .inr (hl h)
    · exact other m _ hm hne
  case revokeReturn m =>
    obtain ⟨e, result, hw, hm⟩ := hr
    by_cases hne : n = m
    · subst hne
      simp only [Covered, hw] at h
      simp only [Covered, hm, AList.lookup_insert]
      exact hl (by simpa using h)
    · exact other m _ hm hne
  case dropRevoke m =>
    by_cases hne : n = m
    · subst hne
      simp [Covered, hr]
    · exact other m _ hr hne
  all_goals exact h.of_revokes_eq (by rw [hr]) hl

/-- A session in the registry is a target of its owner's revocation. -/
lemma covered_revokeCall (h : step c s (.revokeCall n o order) = some s')
    (he : s.registry.sessions.lookup id = some e) (ho : e.owner = o) : Covered s' n id := by
  obtain ⟨-, hm⟩ := step_revokes h
  simp only [Covered, hm, AList.lookup_insert]
  refine .inl ⟨⟨id, e.actor, e.resource⟩, ?_, rfl⟩
  simp only [step, State.revokeCall] at h
  split at h
  · cases h
  next hn =>
    push Not at hn
    exact hn.2.mem_iff.mpr (State.mem_revokeTargets.mpr ⟨e, he, ho, rfl, rfl⟩)

lemma run_died {ok : State → Event → Prop} (hs : ∀ j, (s.view j).Sound)
    (h : Machine.Runs (step c) ok s l s') (hd : (s'.view id).Died) :
    .actorDied id ∈ l ∨ (s.view id).Died := by
  induction h with
  | nil => exact .inr hd
  | snoc h _ hst ih =>
    rcases hd.of_move (step_moves (run_sound_from hs h) hst id) with rfl | hd
    · exact .inl (by simp)
    · exact (ih hd).imp_left (List.mem_append_left _)

lemma run_covered {ok : State → Event → Prop} (hs : ∀ j, (s.view j).Sound) (hc : Covered s n id)
    (hd : ¬(s.view id).Died) (h : Machine.Runs (step c) ok s l s') (hl : .actorDied id ∉ l) :
    Covered s' n id := by
  induction h with
  | nil => exact hc
  | snoc h _ hst ih =>
    simp only [List.mem_append, not_or] at hl
    exact (ih hl.1).step (run_sound_from hs h) (fun h' => (run_died hs h h').elim hl.1 hd) hst

/-! ### The life of a session -/

/-- In every run, what was published about a session is nothing, its opening, or its opening
and then its closing, and nothing if the open failed or was dropped. Unless a native call of the
session panicked, the closing is there once the actor of an opened session has ended, and when the
revocation of its owner returns it has left the registry, and its lease with it. -/
theorem serial_lifecycle_complete {l : List Event}
    (h : Machine.Runs (step c) (fun _ _ => True) {} l s) :
    (∀ id, (s.eventsOf id = [] ∨ s.eventsOf id = [.sessionOpened] ∨
        s.eventsOf id = [.sessionOpened, .sessionClosed]) ∧
      (.actorDied id ∉ l → ∀ a, s.actors.lookup id = some a → a.stage.ended = true →
        .sessionOpened ∈ s.eventsOf id → .sessionClosed ∈ s.eventsOf id) ∧
      ∀ t, s.opens.lookup id = some t →
        (t.pc = .dropped ∨ ∃ e, t.pc = .returned (.error e)) → s.eventsOf id = []) ∧
    ∀ n o order s₁ l' s₂ result, step c s (.revokeCall n o order) = some s₁ →
      Machine.Runs (step c) (fun _ _ => True) s₁ l' s₂ →
      s₂.revokes.lookup n = some (.returned result) →
      ∀ id e, s.registry.sessions.lookup id = some e → e.owner = o → .actorDied id ∉ l ++ l' →
        s₂.registry.sessions.lookup id = none ∧
        ∀ r a, s₂.registry.leases.active.lookup r = some a → a.sessionId ≠ id := by
  have hs := run_sound h
  have halive {id : SessionId} (hl : .actorDied id ∉ l) : ¬(s.view id).Died := fun hd =>
    (run_died (fun _ => View.sound_empty) h hd).elim hl fun ⟨_, ha, _⟩ => by cases ha
  refine ⟨fun id => ⟨(hs id).events_cases, fun hl a ha hend ho => ?_, fun t ht hpc => ?_⟩, ?_⟩
  · refine (hs id).closed_of_finished ha ?_ ho
    rcases hst : a.stage with _ | _ | _ | _ | result | _ <;> rw [hst] at hend <;> cases hend
    · trivial
    · exact absurd ⟨a, ha, hst⟩ (halive hl)
  · refine (hs id).events_of_not_opened ht ?_
    rcases hpc with hpc | ⟨e, hpc⟩ <;> simp [hpc]
  · intro n o order s₁ l' s₂ result hcall hrun hret id e he ho hl
    simp only [List.mem_append, not_or] at hl
    have hm := step_moves hs hcall
    have hs₁ : ∀ j, (s₁.view j).Sound := fun j => (hs j).move (hm j)
    have hd₁ : ¬(s₁.view id).Died := fun hd => (hd.of_move (hm id)).elim nofun (halive hl.1)
    have hcov := run_covered hs₁ (covered_revokeCall hcall he ho) hd₁ hrun hl.2
    simp only [Covered, hret] at hcov
    refine ⟨hcov.1, fun r a ha hid => ?_⟩
    have hs₂ := run_sound_from hs₁ hrun id
    obtain ⟨e', he', -⟩ := hs₂.lease r a (LeaseTable.heldBy_eq_some.mpr ⟨ha, hid⟩)
    exact absurd (hcov.1.symm.trans he') (by simp)

/-- A session is open, and a second one of its owner is opening. -/
def twoOfOwner : List Event :=
  [.openCall ⟨"s1"⟩ ⟨"a"⟩ ⟨"tty0"⟩, .reserve ⟨"s1"⟩ ⟨"l1"⟩, .adapterReturned ⟨"s1"⟩ (.ok ()),
    .finishOpen ⟨"s1"⟩, .openCall ⟨"s2"⟩ ⟨"a"⟩ ⟨"tty1"⟩, .reserve ⟨"s2"⟩ ⟨"l2"⟩]

/-- The owner is revoked. The native close of the first session runs into its deadline. -/
def revocation : Event :=
  .revokeCall 0 ⟨"a"⟩ [⟨⟨"s1"⟩, true, ⟨"tty0"⟩⟩, ⟨⟨"s2"⟩, false, ⟨"tty1"⟩⟩]

def revoked : List Event :=
  [.actorStop ⟨"s1"⟩, .openCancelled ⟨"s2"⟩, .actorClosed ⟨"s1"⟩ none, .cancelOpen ⟨"s2"⟩,
    .actorFinish ⟨"s1"⟩, .revokeNext 0, .revokeNext 0, .revokeReturn 0]

theorem serial_lifecycle_complete_revoked : ∃ s s₁ s₂,
    Machine.Runs (step ⟨true, "5s"⟩) (fun _ _ => True) {} twoOfOwner s ∧
      step ⟨true, "5s"⟩ s revocation = some s₁ ∧
      Machine.Runs (step ⟨true, "5s"⟩) (fun _ _ => True) s₁ revoked s₂ ∧
      (s.registry.sessions.lookup ⟨"s1"⟩).isSome ∧ (s.registry.sessions.lookup ⟨"s2"⟩).isSome ∧
      s₂.registry.sessions.lookup ⟨"s1"⟩ = none ∧ s₂.registry.sessions.lookup ⟨"s2"⟩ = none ∧
      s₂.eventsOf ⟨"s1"⟩ = [.sessionOpened, .sessionClosed] ∧ s₂.eventsOf ⟨"s2"⟩ = [] := by
  have hexec : ∃ s ∈ Machine.exec (step ⟨true, "5s"⟩) (fun _ _ => True) {} twoOfOwner,
      ∃ s₁ ∈ step ⟨true, "5s"⟩ s revocation,
      ∃ s₂ ∈ Machine.exec (step ⟨true, "5s"⟩) (fun _ _ => True) s₁ revoked,
      s₂.revokes.lookup 0 = some (.returned
        (.error ((State.closeTimedOut ⟨true, "5s"⟩).withResourceId ⟨"tty0"⟩))) ∧
      (∃ e ∈ s.registry.sessions.lookup ⟨"s1"⟩, e.owner = ⟨"a"⟩) ∧
      (∃ e ∈ s.registry.sessions.lookup ⟨"s2"⟩, e.owner = ⟨"a"⟩) ∧
      s₂.eventsOf ⟨"s1"⟩ = [.sessionOpened, .sessionClosed] ∧ s₂.eventsOf ⟨"s2"⟩ = [] := by
    decide +kernel
  obtain ⟨s, hs, s₁, hs₁, s₂, hs₂, hret, ⟨e₁, he₁, ho₁⟩, ⟨e₂, he₂, ho₂⟩, hev⟩ := hexec
  have h := Machine.runs_of_exec hs
  have h₂ := Machine.runs_of_exec hs₂
  have hall := (serial_lifecycle_complete h).2 _ _ _ s₁ _ s₂ _ hs₁ h₂ hret
  have he₁ : s.registry.sessions.lookup ⟨"s1"⟩ = some e₁ := he₁
  have he₂ : s.registry.sessions.lookup ⟨"s2"⟩ = some e₂ := he₂
  exact ⟨s, s₁, s₂, h, hs₁, h₂, by simp [he₁], by simp [he₂], (hall _ e₁ he₁ ho₁ (by decide)).1,
    (hall _ e₂ he₂ ho₂ (by decide)).1, hev⟩

/-- A read of an open session panics, and the owner is revoked. -/
def panicked : List Event :=
  [.openCall ⟨"s1"⟩ ⟨"a"⟩ ⟨"tty0"⟩, .reserve ⟨"s1"⟩ ⟨"l1"⟩, .adapterReturned ⟨"s1"⟩ (.ok ()),
    .finishOpen ⟨"s1"⟩, .request 0 ⟨"s1"⟩ ⟨⟨"l1"⟩, 1, .control⟩ (.read 8), .actorTake ⟨"s1"⟩,
    .actorDied ⟨"s1"⟩, .revokeCall 0 ⟨"a"⟩ [⟨⟨"s1"⟩, true, ⟨"tty0"⟩⟩], .revokeNext 0,
    .revokeReturn 0]

/-- The revocation returns, with an error, and the session is still there with its lease. -/
theorem panicked_session_stays :
    ∃ s ∈ Machine.exec (step ⟨true, "5s"⟩) (fun _ _ => True) {} panicked,
      s.revokes.lookup 0 =
        some (.returned (.error (State.exitedSilently.withResourceId ⟨"tty0"⟩))) ∧
      (s.registry.sessions.lookup ⟨"s1"⟩).map SessionEntry.owner = some ⟨"a"⟩ ∧
      (s.registry.leases.active.lookup ⟨"tty0"⟩).map ActiveLease.sessionId = some ⟨"s1"⟩ ∧
      s.eventsOf ⟨"s1"⟩ = [.sessionOpened] := by
  decide +kernel

end RobotHal.Serial
