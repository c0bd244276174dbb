import RobotHal.CanBackend
import RobotHal.CanOps

/-!
What is published about a CAN session.

A session is announced when its open commits and again when it leaves the books, by whichever of
a close and a reconciliation comes first. In between its actor reports the state of the bus. An
actor that has let the session go, or is on its way out, reports nothing about it any more; a
close that gives up on its actor can leave one behind that still does.
-/

namespace RobotHal.CanActor

/-- An actor reports on the bus while it serves its commands, and to the sessions it has. -/
lemma health_step {c : Config} {a : Actor} {f : Flags} {e : ActorEvent} {x : Actor × List Notice}
    {id : SessionId} {state : CanBusState} (h : a.step c f e = some x)
    (hn : .health id state ∈ x.2) :
    (∃ left, a.stage = .managing left) ∧ (a.sessions.lookup id).isSome := by
  cases step_tells h hn with
  | aside h => cases h
  | health hst hx => exact ⟨⟨_, hst⟩, hx⟩

end RobotHal.CanActor

namespace RobotHal.CanManager

open CanActor (Actor ActorEvent Config Notice)

section Course

variable {c : Config} {s s' : State} {ev : Event}

lemma Onward.of_eq (hm : s'.mgr = s.mgr) (ho : s'.opens = s.opens) (he : s'.events = s.events) :
    Onward s s' where
  opens := .of_eq (fun _ _ => rfl) ho
  active id := by rw [hm]
  events := he

lemma onward_handOver (s : State) (id : SessionId) (e N : ℕ) (A : Assoc ResourceId ℕ)
    (a' : Actor) : Onward s (s.handOver id e N A a') :=
  ⟨.modify (fun _ _ => rfl) fun _ _ => rfl, fun _ => rfl, rfl⟩

/-- **What a step does to the life of sessions.** -/
theorem step_course (hp : Placed s) (hb : Balanced s) (hs : step c s ev = some s') :
    Course c s ev s' := by
  cases step_stir hp hb hs with
  | moves _ hc => exact hc
  | @bump _ s₁ id _ N err hev hrec ht hpc =>
    have hq := (@quiet_setPc (.unwinding none err)
      { s₁ with mgr := { s₁.mgr with nextActorEpoch := N } } id fun h => h).onward
    exact .onward hev hrec { hq with }
  | handed hev hrec => exact .onward hev hrec (onward_handOver ..)
  | issued hrec h => exact .issue hrec h
  | called hrec => exact .onward rfl hrec (.of_eq rfl rfl rfl)
  | queued => exact .onward rfl (.inl rfl) (.of_eq rfl rfl rfl)

lemma Told.opensOnward {l : List SessionId} (h : Told l s s') : OpensOnward s s' :=
  h.opens.mono fun _ _ _ ht => ht.activation

end Course

/-! ### What is published -/

/-- What is published about a session, in order. -/
def State.published (s : State) (id : SessionId) : List RuntimeEventKind :=
  (s.events.filter fun e => e.sessionId = id).map RuntimeEvent.kind

/-- Neither the announcement of a session nor that of its end. -/
def RuntimeEventKind.isHealth : RuntimeEventKind → Bool
  | .sessionOpened | .sessionClosed => false
  | _ => true

/-- Nothing, or the announcement of the session, then reports on the bus, then at most once its
end, and nothing more. -/
def Disciplined (l : List RuntimeEventKind) : Prop :=
  l = [] ∨ ∃ h : List RuntimeEventKind, (∀ k ∈ h, k.isHealth) ∧
    (l = .sessionOpened :: h ∨ l = .sessionOpened :: (h ++ [.sessionClosed]))

/-- What is published at the end of a session. -/
def farewell (failed : Bool) : List RuntimeEventKind :=
  if failed then [.canBusUnknown, .sessionClosed] else [.sessionClosed]

section Published

variable {s s' : State} {id : SessionId}

lemma published_congr (h : s'.events = s.events) : s'.published id = s.published id := by
  unfold State.published
  rw [h]

lemma published_publish (s : State) (k : RuntimeEventKind) (r : ResourceId) (id j : SessionId)
    (o : OwnerId) (token : LeaseToken) : (s.publish k r id o token).published j =
      s.published j ++ if id = j then [k] else [] := by
  simp only [State.published, State.publish, List.filter_append, List.map_append]
  by_cases h : id = j <;> simp [h]

lemma published_publishClosed (s : State) (r : ResourceId) (id j : SessionId) (x : ActiveSession)
    (failed : Bool) : (s.publishClosed r id x failed).published j = s.published j ++
      if id = j then farewell (failed && !x.terminalHealthEmitted) else [] := by
  unfold State.publishClosed farewell
  dsimp only
  split <;> by_cases h : id = j <;> simp [published_publish, h]

lemma OpensOnward.activated (h : OpensOnward s s') (id : SessionId) :
    s'.flags.activated id = s.flags.activated id := by
  simp only [State.flags]
  have hid := h id
  generalize s.opens.lookup id = o, s'.opens.lookup id = o' at hid ⊢
  cases hid with
  | none => rfl
  | some hon => exact congrArg Option.isSome hon

lemma published_notice (s : State) (x : Notice) (id : SessionId) :
    ∃ h : List RuntimeEventKind, (∀ k ∈ h, k.isHealth) ∧
      (s.notice x).published id = s.published id ++ h ∧
      (h ≠ [] → s.flags.activated id = true ∧ ∃ state, x = .health id state) := by
  have hnone {s' : State} (he : s'.events = s.events) : ∃ h : List RuntimeEventKind,
      (∀ k ∈ h, k.isHealth) ∧ s'.published id = s.published id ++ h ∧
      (h ≠ [] → s.flags.activated id = true ∧ ∃ state, x = .health id state) :=
    ⟨[], by simp, by simp [published_congr he], by simp⟩
  cases x with
  | health j state =>
    simp only [State.notice]
    split
    · rename_i t ht
      split
      · rename_i token hact
        refine ⟨if j = id then [busEventKind state] else [], ?_, published_publish ..,
          fun hne => ?_⟩
        · split
          · cases state <;> simp [busEventKind, RuntimeEventKind.isHealth]
          · simp
        · have hj : j = id := by
            by_contra hj
            simp [hj] at hne
          subst hj
          exact ⟨by simp [State.flags, ht, hact], state, rfl⟩
      · exact hnone rfl
    · exact hnone rfl
  | added | removed | answered | done | terminated => exact hnone rfl

lemma published_notices (s : State) (l : List Notice) (id : SessionId) :
    ∃ h : List RuntimeEventKind, (∀ k ∈ h, k.isHealth) ∧
      (l.foldl State.notice s).published id = s.published id ++ h ∧
      (h ≠ [] → s.flags.activated id = true ∧ ∃ state, .health id state ∈ l) := by
  induction l generalizing s with
  | nil => exact ⟨[], by simp, by simp, by simp⟩
  | cons x l ih =>
    obtain ⟨h₁, hk₁, hp₁, hne₁⟩ := published_notice s x id
    obtain ⟨h₂, hk₂, hp₂, hne₂⟩ := ih (s.notice x)
    refine ⟨h₁ ++ h₂, List.forall_mem_append.mpr ⟨hk₁, hk₂⟩, ?_, fun hne => ?_⟩
    · rw [List.foldl_cons, hp₂, hp₁, List.append_assoc]
    · by_cases hnil : h₁ = []
      · obtain ⟨hact, state, hmem⟩ := hne₂ (by simpa [hnil] using hne)
        rw [(Told.notice s x).opensOnward.activated] at hact
        exact ⟨hact, state, List.mem_cons_of_mem _ hmem⟩
      · obtain ⟨hact, state, rfl⟩ := hne₁ hnil
        exact ⟨hact, state, List.mem_cons_self⟩

end Published

/-! ### Sessions that end -/

/-- A session stays as it is, or ends and is said farewell. -/
inductive Part (s s' : State) (id : SessionId) : Prop
  | stays (hx : (s'.mgr.active.lookup id).map ActiveSession.core =
        (s.mgr.active.lookup id).map ActiveSession.core)
      (hp : s'.published id = s.published id)
  | ends {x : ActiveSession} (failed : Bool) (hx : s.mgr.active.lookup id = some x)
      (hx' : s'.mgr.active.lookup id = none)
      (hp : s'.published id = s.published id ++ farewell failed)

section Parts

variable {s s' : State} {id : SessionId}

lemma Part.trans {u : State} (h : Part s s' id) (h' : Part s' u id) : Part s u id := by
  cases h with
  | stays hx hp =>
    cases h' with
    | stays hx' hp' => exact .stays (hx'.trans hx) (hp'.trans hp)
    | @ends y failed hy hn hp' =>
      rw [hy] at hx
      obtain ⟨x, hx, -⟩ := Option.map_eq_some_iff.mp hx.symm
      exact .ends failed hx hn (hp'.trans (by rw [hp]))
  | ends failed hx hn hp =>
    cases h' with
    | stays hx' hp' =>
      rw [hn] at hx'
      exact .ends failed hx (Option.map_eq_none_iff.mp hx') (hp'.trans hp)
    | ends _ hy => rw [hn] at hy; cases hy

lemma Onward.part (h : Onward s s') (id : SessionId) : Part s s' id :=
  .stays (h.active id) (published_congr h.events)

lemma part_dropActive {x : ActiveSession} (hx : s.mgr.active.lookup id = some x) (r : ResourceId)
    (token : LeaseToken) (failed : Bool) (j : SessionId) :
    Part s ({ s with mgr := s.mgr.dropActive r id token x }.publishClosed r id x failed) j := by
  set s₁ : State := { s with mgr := s.mgr.dropActive r id token x } with hs₁
  have hactive : (s₁.publishClosed r id x failed).mgr.active = s.mgr.active.erase id := by
    obtain ⟨events, he⟩ := publishClosed_eq s₁ r id x failed
    rw [he]
    rfl
  have hpub := published_publishClosed s₁ r id j x failed
  rw [show s₁.published j = s.published j from rfl] at hpub
  by_cases hj : id = j
  · subst hj
    refine .ends _ hx ?_ (by simpa using hpub)
    rw [hactive, Assoc.lookup_erase_ite, if_pos rfl]
  · refine .stays ?_ (by simpa [hj] using hpub)
    rw [hactive, Assoc.lookup_erase_ite, if_neg (Ne.symm hj)]

lemma part_foldl_retire (s : State) (r : ResourceId) (ids : List SessionId) (j : SessionId) :
    Part s (ids.foldl (fun s id => s.retire r id) s) j := by
  induction ids generalizing s with
  | nil => exact .stays rfl rfl
  | cons id ids ih =>
    refine Part.trans ?_ (ih (s.retire r id))
    unfold State.retire
    split
    · exact .stays rfl rfl
    · rename_i x hx
      exact part_dropActive hx r _ _ j

lemma Reconciles.part (h : Reconciles s s') (id : SessionId) : Part s s' id := by
  rcases h with rfl | ⟨r, rfl⟩
  · exact .stays rfl rfl
  · obtain ⟨s₁, ids, -, ⟨ha, he⟩, hq⟩ := reconcile_parts s r
    have hstay : Part s s₁ id := .stays (by rw [ha]) (published_congr he)
    exact (hstay.trans (part_foldl_retire s₁ r ids id)).trans (hq.onward.part id)

lemma finishClose_active (s : State) (t : CloseTask) (failed seen : Bool) (id : SessionId) :
    (s.finishClose t failed seen).mgr.active.lookup id =
      if id = t.session then none else s.mgr.active.lookup id := by
  cases hx : s.mgr.active.lookup t.session with
  | none =>
    rw [finishClose_none s hx]
    split
    · rename_i hid
      rw [hid, hx]
    · rfl
  | some x =>
    obtain ⟨events, actors, heq, -⟩ := finishClose_eq s hx failed seen
    rw [heq]
    exact Assoc.lookup_erase_ite _ _ _

lemma part_finishClose (s : State) (t : CloseTask) (failed seen : Bool) (id : SessionId) :
    Part s (s.finishClose t failed seen) id := by
  unfold State.finishClose
  split
  · exact .stays rfl rfl
  · rename_i x hx
    dsimp only
    refine (part_dropActive hx t.resource t.token failed id).trans ?_
    split <;> exact .stays rfl rfl

end Parts

/-! ### Every step -/

/-- An actor that is not on its way out has the session. -/
def State.Serves (s : State) (id : SessionId) : Prop :=
  ∃ e a, s.threads.lookup e = some a ∧ ¬Ending a ∧ (a.sessions.lookup id).isSome

/-- How a session fares in a step. -/
inductive Fares (s : State) (ev : Event) (s' : State) (id : SessionId) : Prop
  | stays (ha : s'.flags.activated id = s.flags.activated id)
      (hx : (s'.mgr.active.lookup id).isSome = (s.mgr.active.lookup id).isSome)
      (hp : s'.published id = s.published id)
  | begins (ha : s.flags.activated id = false) (ha' : s'.flags.activated id = true)
      (hx' : (s'.mgr.active.lookup id).isSome)
      (hp : s'.published id = s.published id ++ [.sessionOpened])
  | ends {x : ActiveSession} (failed : Bool) (ha : s'.flags.activated id = s.flags.activated id)
      (hx : s.mgr.active.lookup id = some x) (hx' : s'.mgr.active.lookup id = none)
      (hby : s.isFinished x.actorEpoch = true ∨ ∃ n t, ev = .closeFinish n ∧
        s.closes.lookup n = some t ∧ t.session = id ∧ t.epoch = x.actorEpoch)
      (hp : s'.published id = s.published id ++ farewell failed)
  | reports {h : List RuntimeEventKind} (hk : ∀ k ∈ h, k.isHealth)
      (ha : s'.flags.activated id = s.flags.activated id)
      (hx : (s'.mgr.active.lookup id).isSome = (s.mgr.active.lookup id).isSome)
      (hon : s.flags.activated id = true) (hs : s.Serves id)
      (hp : s'.published id = s.published id ++ h)

section Steps

variable {c : Config} {s s' : State} {ev : Event} {id : SessionId}

lemma Balanced.activated (hb : Balanced s) {x : ActiveSession}
    (hx : s.mgr.active.lookup id = some x) : s.flags.activated id = true := by
  obtain ⟨t, ht, -, hact, -⟩ := hb.committed id x hx
  simp [State.flags, ht, hact]

lemma Part.fares (h : Part s s' id) (ha : s'.flags.activated id = s.flags.activated id)
    (hby : ∀ x, s.mgr.active.lookup id = some x → s'.mgr.active.lookup id = none →
      s.isFinished x.actorEpoch = true ∨ ∃ n t, ev = .closeFinish n ∧
        s.closes.lookup n = some t ∧ t.session = id ∧ t.epoch = x.actorEpoch) :
    Fares s ev s' id := by
  cases h with
  | stays hx hp => exact .stays ha (by simpa using congrArg Option.isSome hx) hp
  | ends failed hx hx' hp => exact .ends failed ha hx hx' (hby _ hx hx') hp

lemma Reconciles.finished (h : Reconciles s s') {x : ActiveSession}
    (hx : s.mgr.active.lookup id = some x) (hx' : s'.mgr.active.lookup id = none) :
    s.isFinished x.actorEpoch = true := by
  rcases h with rfl | ⟨r, rfl⟩
  · rw [hx] at hx'; cases hx'
  · by_contra hfin
    have hstay :=
      ((reconciled s r).active id x).mpr ⟨hx, fun hd => hfin (deadActor_eq_some.mp hd.2).2⟩
    rw [hstay] at hx'; cases hx'

lemma fares_issue (hp : Placed s) (hb : Balanced s) {s₁ : State} {i : SessionId} {fresh : LeaseId}
    {t : OpenTask} {e epoch : ℕ} {p : PendingSession} {token : LeaseToken}
    (hrec : Reconciles s s₁) (h : Issue s₁ i t e p fresh token epoch) (id : SessionId) :
    Fares s ev (s₁.issue i t p fresh token epoch) id := by
  have hact := hrec.calm.opensOnward.activated id
  have hpart := hrec.part id
  have hpub : (s₁.issue i t p fresh token epoch).published id =
      s₁.published id ++ if i = id then [.sessionOpened] else [] := published_publish ..
  have hactive := @Issue.active s₁ i t epoch p fresh token id
  have hopens := h.opens id
  by_cases hid : i = id
  · subst hid
    have hnone : s₁.flags.activated i = false := by
      simp [State.flags, h.task, h.unissued (hp.calm hrec.calm)]
    rw [if_pos rfl] at hpub hactive hopens
    -- the session is not in the books yet, so the reconciliation does not end it
    cases hpart with
    | ends _ hx => rw [hact, hb.activated hx] at hnone; cases hnone
    | stays hx hpub₁ =>
      refine .begins (hact ▸ hnone) (by simp [State.flags, hopens]) (by simp [hactive]) ?_
      rw [hpub, hpub₁]
  · have hj : id ≠ i := fun h => hid h.symm
    rw [if_neg hid, List.append_nil] at hpub
    rw [if_neg hj] at hactive hopens
    have hstay : Part s₁ (s₁.issue i t p fresh token epoch) id := .stays (by rw [hactive]) hpub
    refine (hpart.trans hstay).fares ?_ fun x hx hx' => .inl ?_
    · rw [← hact]
      simp only [State.flags, hopens]
    · exact hrec.finished hx (hactive ▸ hx')

lemma fares_act {e : ℕ} {aev : ActorEvent} {a : Actor} {x : Actor × List Notice}
    (ha : s.threads.lookup e = some a) (hx : a.step c s.flags aev = some x) (id : SessionId) :
    Fares s ev (x.2.foldl State.notice (s.setThread e x.1)) id := by
  obtain ⟨h, hk, hp, hne⟩ := published_notices (s.setThread e x.1) x.2 id
  have hact := (Told.notices (s.setThread e x.1) x.2).opensOnward.activated id
  have hactive : (x.2.foldl State.notice (s.setThread e x.1)).mgr = s.mgr :=
    (still_notices (s.setThread e x.1) x.2).mgr
  by_cases hnil : h = []
  · exact .stays hact (by rw [hactive]) (by rw [hp, hnil, List.append_nil]; rfl)
  · obtain ⟨hon, state, hmem⟩ := hne hnil
    obtain ⟨⟨left, hst⟩, hsome⟩ := CanActor.health_step hx hmem
    exact .reports hk hact (by rw [hactive]) hon ⟨e, a, ha, by simp [Ending, hst], hsome⟩ hp

/-- **How every session fares in a step.** -/
theorem step_fares (hp : Placed s) (hb : Balanced s) (hs : step c s ev = some s')
    (id : SessionId) : Fares s ev s' id := by
  cases step_course hp hb hs with
  | @call _ i t hn ha =>
    refine .stays ?_ rfl rfl
    simp only [State.flags, Assoc.lookup_insert_ite]
    split
    · rename_i hid
      rw [hid, hn]
      simp [ha]
    · rfl
  | onward hev hrec hon =>
    refine ((hrec.part id).trans (hon.part id)).fares
      ((hrec.calm.opensOnward.trans hon.opens).activated id) fun x hx hx' => .inl ?_
    have hcore := hon.active id
    rw [hx'] at hcore
    exact hrec.finished hx (Option.map_eq_none_iff.mp hcore.symm)
  | issue hrec hi => exact fares_issue hp hb hrec hi id
  | @finish n t result seen failed ht hpc =>
    have hon := (calm_finishClose s t failed seen n (.returned result)).opensOnward
    have hpart : Part s ((s.finishClose t failed seen).setClose n t (.returned result)) id :=
      (part_finishClose s t failed seen id).trans (.stays rfl rfl)
    refine hpart.fares (hon.activated id) fun x hx hx' => .inr ?_
    have hid : t.session = id := by
      by_contra hne
      have hkeep := finishClose_active s t failed seen id
      rw [if_neg (Ne.symm hne), hx] at hkeep
      exact absurd (hkeep.symm.trans hx') (by simp)
    have hfly : s.flying n = some ⟨t.session, t.token, t.resource, t.epoch⟩ := by
      simp [State.flying, ht, CloseTask.flight, hpc, ClosePc.InFlight]
    exact ⟨n, t, rfl, ht, hid, ((hb.closing n _ hfly).2 x (hid ▸ hx)).2.2.symm⟩
  | act ha hx => exact fares_act ha hx id

/-- A session with a token is with no actor that did not have it before. -/
lemma serves_back (hp : Placed s) (hs : step c s ev = some s') (hon : s.flags.activated id = true)
    (h : s'.Serves id) : s.Serves id := by
  obtain ⟨e, a', ha', hend, hsome⟩ := h
  have happart (hap : Apart s s') : s.Serves id := by
    rcases hap.threads e a' ha' with ⟨a, ha, hb⟩ | ⟨-, -, hu⟩
    · exact ⟨e, a, ha, fun he => hend (ending_of_stage hb.stage he), hb.sessions ▸ hsome⟩
    · rw [hu.sessions] at hsome; cases hsome
  cases step_turn hs with
  | aside _ _ hap | call _ _ _ hap | turn _ _ _ _ _ hap => exact happart hap
  | @queue _ _ k _ _ a _ _ ha =>
    replace ha' : (s.threads.insert k _).lookup e = some a' := ha'
    rcases Assoc.of_lookup_insert ha' with ⟨-, rfl⟩ | ha'
    · exact ⟨k, a, ha, hend, hsome⟩
    · exact ⟨e, a', ha', hend, hsome⟩
  | @act k _ a x ha hx =>
    rw [(notices_frame (s.setThread k x.1) x.2).1] at ha'
    replace ha' : (s.threads.insert k x.1).lookup e = some a' := ha'
    rcases Assoc.of_lookup_insert ha' with ⟨-, rfl⟩ | ha'
    · have hflow := CanActor.flow_step hx
      refine ⟨k, a, ha, fun he => hend (ending_step hx he), ?_⟩
      rcases hflow.sessions id hsome with h | hin
      · exact h
      · -- an open that waits for its admission has no token
        have hadm : id ∈ a.admissions := hflow.admissions ▸ List.mem_append_left _ hin
        obtain ⟨t, ht, -, hw⟩ := (hp.threads k a ha).awaited id hadm
        have hsent := (hp.tasks id t ht).admitted (.inr (by simpa [State.flags, ht] using hon))
        rw [hw] at hsent; cases hsent
    · exact ⟨e, a', ha', hend, hsome⟩

end Steps

/-! ### Runs -/

/-- No close is finished while the actor it was handed to still has the session and is not on its
way out. -/
def LetGo (s : State) : Event → Prop
  | .closeFinish n => ∀ t ∈ s.closes.lookup n, ∀ a ∈ s.threads.lookup t.epoch,
      ¬Ending a → a.sessions.lookup t.session = none
  | _ => True

instance : ∀ s ev, Decidable (LetGo s ev) := fun s ev => by
  apply Event.casesOn (motive := fun ev => Decidable (LetGo s ev)) ev <;> intros <;>
    dsimp only [LetGo] <;> infer_instance

/-- What is published about a session tells where it is, and nobody is left to report on one that
has ended. -/
structure Chronicled (s : State) (id : SessionId) : Prop where
  silent : s.flags.activated id = false → s.published id = []
  living : (s.mgr.active.lookup id).isSome → ∃ h : List RuntimeEventKind,
    (∀ k ∈ h, k.isHealth) ∧ s.published id = .sessionOpened :: h
  ended : s.flags.activated id = true → s.mgr.active.lookup id = none →
    ∃ h : List RuntimeEventKind, (∀ k ∈ h, k.isHealth) ∧
      s.published id = .sessionOpened :: (h ++ [.sessionClosed])
  gone : s.flags.activated id = true → s.mgr.active.lookup id = none → ¬s.Serves id

section Runs

variable {c : Config} {s s' : State} {ev : Event} {id : SessionId}

lemma not_serves (hp : Placed s) {x : ActiveSession} (hx : s.mgr.active.lookup id = some x)
    (hok : LetGo s ev) (hby : s.isFinished x.actorEpoch = true ∨ ∃ n t, ev = .closeFinish n ∧
      s.closes.lookup n = some t ∧ t.session = id ∧ t.epoch = x.actorEpoch) : ¬s.Serves id := by
  rintro ⟨e, a, ha, hend, hsome⟩
  obtain ⟨t, ht, hat⟩ := (hp.threads e a ha).homed id hsome
  obtain ⟨u, hu, hau⟩ := (hp.active id x hx).2
  rw [ht] at hu
  cases hu
  obtain rfl : e = x.actorEpoch := Option.mem_unique hat hau
  rcases hby with hfin | ⟨n, y, rfl, hy, rfl, hepoch⟩
  · -- its actor has ended
    apply hend
    have hfin : a.isFinished = true := by simpa [State.isFinished, ha] using hfin
    unfold Actor.isFinished at hfin
    unfold Ending
    split at hfin
    · rename_i hst
      rw [hst]
      trivial
    · cases hfin
  · -- its actor let it go
    have := hok y hy a (hepoch ▸ ha) hend
    rw [this] at hsome; cases hsome

lemma chronicled_step (hp : Placed s) (hb : Balanced s) (hok : LetGo s ev)
    (hs : step c s ev = some s') (h : Chronicled s id) : Chronicled s' id := by
  cases step_fares hp hb hs id with
  | stays ha hx hpub =>
    have hnone (hn : s'.mgr.active.lookup id = none) : s.mgr.active.lookup id = none := by
      rw [hn] at hx
      simpa using hx.symm
    refine ⟨fun hoff => ?_, fun hlive => ?_, fun hon hn => ?_, fun hon hn hserve => ?_⟩
    · exact hpub.trans (h.silent (ha ▸ hoff))
    · rw [hpub]
      exact h.living (hx ▸ hlive)
    · rw [hpub]
      exact h.ended (ha ▸ hon) (hnone hn)
    · exact h.gone (ha ▸ hon) (hnone hn) (serves_back hp hs (ha ▸ hon) hserve)
  | begins ha ha' hx' hpub =>
    have hne : s'.mgr.active.lookup id ≠ none := Option.isSome_iff_ne_none.mp hx'
    refine ⟨fun hoff => ?_, fun _ => ⟨[], by simp, ?_⟩, fun _ hn => absurd hn hne,
      fun _ hn => absurd hn hne⟩
    · rw [ha'] at hoff; cases hoff
    · rw [hpub, h.silent ha]
      rfl
  | ends failed ha hx hx' hby hpub =>
    have hon := hb.activated hx
    refine ⟨fun hoff => ?_, fun hlive => ?_, fun _ _ => ?_, fun _ _ hserve => ?_⟩
    · rw [ha, hon] at hoff; cases hoff
    · rw [hx'] at hlive; cases hlive
    · -- a failure is told before the end
      obtain ⟨l, hl, hpub₀⟩ := h.living (by rw [hx]; rfl)
      cases failed with
      | false => exact ⟨l, hl, by rw [hpub, hpub₀]; rfl⟩
      | true =>
        refine ⟨l ++ [.canBusUnknown], ?_, by rw [hpub, hpub₀]; simp [farewell]⟩
        exact List.forall_mem_append.mpr ⟨hl, by simp [RuntimeEventKind.isHealth]⟩
    · exact not_serves hp hx hok hby (serves_back hp hs hon hserve)
  | @reports l hk ha hx hon hserve hpub =>
    have hlive : (s.mgr.active.lookup id).isSome := by
      by_contra hn
      exact h.gone hon (by simpa using hn) hserve
    obtain ⟨l₀, hl₀, hpub₀⟩ := h.living hlive
    have hne : s'.mgr.active.lookup id ≠ none := Option.isSome_iff_ne_none.mp (hx ▸ hlive)
    refine ⟨fun hoff => ?_, fun _ => ⟨l₀ ++ l, List.forall_mem_append.mpr ⟨hl₀, hk⟩, ?_⟩,
      fun _ hn => absurd hn hne, fun _ hn => absurd hn hne⟩
    · rw [ha, hon] at hoff; cases hoff
    · rw [hpub, hpub₀]
      rfl

lemma chronicled_empty (id : SessionId) : Chronicled {} id where
  silent _ := rfl
  living h := by cases h
  ended h := by cases h
  gone h := by cases h

lemma run_chronicled {l : List Event} (h : Machine.Runs (step c) LetGo {} l s) (id : SessionId) :
    Chronicled s id := by
  have hall : Placed s ∧ Balanced s ∧ Chronicled s id := by
    refine h.invariant (I := fun s => Placed s ∧ Balanced s ∧ Chronicled s id)
      ⟨placed_empty, balanced_empty, chronicled_empty id⟩ fun a e b hi hok hs => ?_
    exact ⟨placed_step hi.2.1 hi.1 hs, balanced_step hi.2.1 hs,
      chronicled_step hi.1 hi.2.1 hok hs hi.2.2⟩
  exact hall.2.2

/-- **What is published about a session**, as long as no close is finished while the actor still
has the session: its announcement first and its end last, a failure at most right before the end,
and the end no later than the release of the lease. -/
theorem session_events_disciplined {l : List Event} (h : Machine.Runs (step c) LetGo {} l s)
    (id : SessionId) : Disciplined (s.published id) ∧
      (∀ ev s', step c s ev = some s' → ∃ new, s'.published id = s.published id ++ new ∧
        (.sessionClosed ∈ new → new = [.sessionClosed] ∨ new = [.canBusUnknown, .sessionClosed])) ∧
      (.sessionOpened ∈ s.published id → (∀ r, s.mgr.leases.act r id = none) →
        .sessionClosed ∈ s.published id) := by
  have hc := run_chronicled h id
  have hb := run_balanced h
  refine ⟨?_, fun ev s' hs => ?_, fun hopened hlease => ?_⟩
  · cases hon : s.flags.activated id with
    | false => exact .inl (hc.silent hon)
    | true =>
      cases hx : s.mgr.active.lookup id with
      | none =>
        obtain ⟨r, hr, hpub⟩ := hc.ended hon hx
        exact .inr ⟨r, hr, .inr hpub⟩
      | some x =>
        obtain ⟨r, hr, hpub⟩ := hc.living (by rw [hx]; rfl)
        exact .inr ⟨r, hr, .inl hpub⟩
  · cases step_fares (run_placed h) hb hs id with
    | stays _ _ hpub => exact ⟨[], by simp [hpub], by simp⟩
    | begins _ _ _ hpub => exact ⟨_, hpub, by simp⟩
    | ends failed _ _ _ _ hpub =>
      refine ⟨_, hpub, fun _ => ?_⟩
      cases failed <;> simp [farewell]
    | reports hk _ _ _ _ hpub => exact ⟨_, hpub, fun hmem => by cases hk _ hmem⟩
  · have hon : s.flags.activated id = true := by
      by_contra hoff
      rw [hc.silent (by simpa using hoff)] at hopened
      cases hopened
    have hx : s.mgr.active.lookup id = none := by
      by_contra hne
      obtain ⟨x, hx⟩ := Option.ne_none_iff_exists'.mp hne
      have := hb.leased id x hx
      rw [hlease] at this; cases this
    obtain ⟨r, -, hpub⟩ := hc.ended hon hx
    simp [hpub]

end Runs

/-- The session asks for the state of the bus. -/
def asked (n : ℕ) : List Event :=
  [.opCall n ⟨"s1"⟩ ⟨⟨"l1"⟩, 1, .control⟩ .busStatus, .opEnqueue n 0]

/-- A session sees the bus pass from active to warning, and is closed by its actor. -/
def warnedRun : List Event :=
  firstOpened .control ⟨"s1"⟩ ⟨"a"⟩ ⟨"l1"⟩ ++ asked 0 ++ lap 0 1 ++ asked 1 ++
    ([.actor 1 (.prune (.ok ())), .actor 1 (.clean (.ok ())),
      .actor 1 (.manage 0 (.ok ⟨.warning, none, none⟩)),
      .actor 1 (.manage 0 (.ok ⟨.warning, none, none⟩)), .actor 1 (.poll (.ok none) 0),
      .actor 1 (.serve 0), .closeCall 0 ⟨"s1"⟩ ⟨⟨"l1"⟩, 1, .control⟩,
      .actor 1 (.prune (.ok ())), .actor 1 (.clean (.ok ())), .actor 1 .drain, .actor 1 .leave,
      .actor 1 .complete, .closeReplied 0, .closeLingered 0 false,
      .closeObserve 0, .closeFinish 0] : List Event)

theorem session_events_disciplined_warned : ∃ s,
    Machine.Runs (step ⟨16, 16, "5s"⟩) LetGo {} warnedRun s ∧
      s.published ⟨"s1"⟩ = [.sessionOpened, .canBusWarning, .sessionClosed] ∧
      Disciplined (s.published ⟨"s1"⟩) := by
  have hexec : ∃ s ∈ Machine.exec (step ⟨16, 16, "5s"⟩) LetGo {} warnedRun,
      s.published ⟨"s1"⟩ = [.sessionOpened, .canBusWarning, .sessionClosed] := by
    decide +kernel
  obtain ⟨s, hs, hpub⟩ := hexec
  have h := Machine.runs_of_exec hs
  exact ⟨s, h, hpub, (session_events_disciplined h ⟨"s1"⟩).1⟩

/-- A close runs into its deadline while the actor is inside a batch. The actor then comes to a
command that is still in its queue, and finds that the state of the bus is not known. -/
def lateReport : List Event :=
  firstOpened .control ⟨"s1"⟩ ⟨"a"⟩ ⟨"l1"⟩ ++ asked 0 ++ lap 0 1 ++
    checked 1 ⟨"s1"⟩ ⟨⟨"l1"⟩, 1, .control⟩ ++ [.opEnqueue 1 0] ++ asked 2 ++ toCommand ++
    [.closeCall 0 ⟨"s1"⟩ ⟨⟨"l1"⟩, 1, .control⟩, .closeDeadline 0, .closeObserve 0, .closeFinish 0,
      .actor 1 (.frame (.ok ())), .actor 1 (.manage 0 (.ok ⟨.unknown, none, none⟩))]

/-- The session is reported on after its end was published. -/
theorem report_after_session_closed : ∃ s,
    Machine.Runs (step ⟨16, 16, "5s"⟩) (fun _ _ => True) {} lateReport s ∧
      s.published ⟨"s1"⟩ =
        [.sessionOpened, .canBusUnknown, .sessionClosed, .canBusUnknown] ∧
      ¬Disciplined (s.published ⟨"s1"⟩) := by
  have hexec : ∃ s ∈ Machine.exec (step ⟨16, 16, "5s"⟩) (fun _ _ => True) {} lateReport,
      s.published ⟨"s1"⟩ =
        [.sessionOpened, .canBusUnknown, .sessionClosed, .canBusUnknown] := by decide +kernel
  obtain ⟨s, hs, hpub⟩ := hexec
  refine ⟨s, Machine.runs_of_exec hs, hpub, ?_⟩
  rw [hpub]
  rintro (hnil | ⟨r, hr, hopen | hclosed⟩)
  · cases hnil
  · obtain rfl := (List.cons.inj hopen).2
    cases hr .sessionClosed (by simp)
  · have hlast := congrArg List.getLast? hclosed
    simp [List.getLast?_cons] at hlast

end RobotHal.CanManager
