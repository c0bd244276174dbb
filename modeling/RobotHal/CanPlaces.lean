import RobotHal.CanSteady

/-!
Where the sessions of the CAN manager are.

A session is handed to one actor and stays with it. The steps that hand something over are few;
every other step works off what is queued, which the relation `Moves` says once for all of them.
From that, in every run, the epochs behind the lock are those of threads of the right resource,
an open waits for the actor it was handed to, and that actor alone can have its session.
-/

namespace RobotHal.CanManager

open CanActor (Actor CanCommand Config Flow Notice answered)

variable {a a' : Actor} {s : State} {e k : ℕ} {id j : SessionId} {t : OpenTask} {p : PendingSession}
  {ev : Event}
variable {e₀ N epoch : ℕ} {l : List SessionId} {b : Actor} {A : Assoc ResourceId ℕ}
  {fresh : LeaseId} {token : LeaseToken}

/-! ### Steps that only work off what is queued -/

/-- An open that has just begun, or failed at once. -/
def OpenTask.Fresh (t : OpenTask) : Prop :=
  t.assigned = none ∧ t.reply = .waiting ∧ t.activation = none ∧ (∀ e, t.pc ≠ .committing e) ∧
    ∀ v, t.pc ≠ .returned (.ok v)

/-- The actor `e₀` answers the opens `l`, and nothing is queued. -/
structure Moves (e₀ : ℕ) (l : List SessionId) (s s' : State) : Prop extends Dwindles s s' where
  threads : Assoc.Follows (fun e => Flow (if e = e₀ then l else [])) s.threads s'.threads
  answers : l = [] ∨ (s.threads.lookup e₀).isSome
  opens : ∀ id t, s.opens.lookup id = some t →
    ∃ t', s'.opens.lookup id = some t' ∧ t.Steady (id ∈ l) t'
  noOpens : ∀ id t', s.opens.lookup id = none → s'.opens.lookup id = some t' → t'.Fresh
  ops : Assoc.Follows (fun _ => OpTask.Same) s.ops s'.ops

lemma flow_of_front (h : a'.front = a.front) : Flow [] a a' := by
  obtain ⟨r, first, stage, active, sessions, commands, cleanup, tx, bus, passed, closes⟩ := a
  obtain ⟨r', first', stage', active', sessions', commands', cleanup', tx', bus', passed',
    closes'⟩ :=
    a'
  simp only [Actor.front, Actor.mk.injEq] at h
  obtain ⟨rfl, rfl, rfl, rfl, rfl, rfl, -, -, rfl, rfl, rfl⟩ := h
  exact ⟨rfl, fun h => h, fun h => h, rfl, List.suffix_rfl, fun _ => .inl,
    fun _ hk => .inl ⟨hk, rfl⟩, fun y hy => by simp at hy⟩

lemma Calm.moves {s' : State} (h : Calm s s') : Moves 0 [] s s' where
  toDwindles := h.toDwindles
  threads := h.threads.mono fun e _ _ hf => by
    rw [ite_self]
    exact flow_of_front hf
  answers := .inl rfl
  opens id t ht := by
    obtain ⟨t', ht', hs⟩ := h.opens.get ht
    exact ⟨t', ht', { hs with reply := .inl (hs.reply.resolve_right fun hf => hf.1) }⟩
  noOpens id t' hn ht' := by
    obtain ⟨t, ht, -⟩ := h.opens.source ht'
    rw [hn] at ht; cases ht
  ops := h.ops

namespace Moves

variable {e₀ : ℕ} {l : List SessionId} {s s' : State}

lemma open_of (h : Moves e₀ l s s') {t' : OpenTask} (ht' : s'.opens.lookup id = some t') :
    (∃ t, s.opens.lookup id = some t ∧ t.Steady (id ∈ l) t') ∨ t'.Fresh := by
  cases ht : s.opens.lookup id with
  | none => exact .inr (h.noOpens id t' ht ht')
  | some t =>
    obtain ⟨u, hu, hs⟩ := h.opens id t ht
    rw [ht'] at hu
    cases hu
    exact .inl ⟨t, rfl, hs⟩

end Moves

/-! ### The steps of the actors -/

/-- The notices that answer the opens `l` arrive. -/
structure Told (l : List SessionId) (s s' : State) : Prop where
  mgr : s'.mgr = s.mgr
  threads : s'.threads = s.threads
  opens : Assoc.Follows (fun id => OpenTask.Hears (id ∈ l)) s.opens s'.opens
  ops : Assoc.Follows (fun _ => OpTask.Same) s.ops s'.ops

namespace Told

variable {l m : List SessionId} {s s' u : State}

lemma of_eq (hm : s'.mgr = s.mgr) (ht : s'.threads = s.threads) (ho : s'.opens = s.opens)
    (hp : s'.ops = s.ops) : Told l s s' :=
  ⟨hm, ht, .of_eq (fun _ => .refl _) ho, .of_eq (fun _ => .refl) hp⟩

lemma trans (h : Told l s s') (h' : Told m s' u) : Told (l ++ m) s u where
  mgr := h'.mgr.trans h.mgr
  threads := h'.threads.trans h.threads
  opens := h.opens.trans h'.opens fun id _ _ _ ht ht' => by
    rw [List.mem_append]
    exact ht.trans ht'
  ops := h.ops.trans h'.ops fun _ _ _ _ => .trans

lemma modifyOpen {f : OpenTask → OpenTask} (hf : ∀ t : OpenTask, t.Hears (id ∈ l) (f t)) :
    Told l s (s.modifyOpen id f) :=
  ⟨rfl, rfl, .modify (fun _ => .refl _) fun t _ => hf t, .of_eq (fun _ => .refl) rfl⟩

lemma notice (s : State) (x : Notice) : Told x.admission.toList s (s.notice x) := by
  cases x with
  | added id res =>
    refine .modifyOpen fun t => ⟨rfl, rfl, rfl, rfl, ?_⟩
    cases hr : t.reply with
    | waiting => exact .inr ⟨List.mem_singleton_self id, rfl⟩
    | sent v | lost => exact .inl rfl
  | removed n out => exact .of_eq rfl rfl rfl rfl
  | answered n res =>
    refine ⟨rfl, rfl, .of_eq (fun _ => .refl _) rfl, .modify (fun _ => .refl) fun t _ => ?_⟩
    split
    · exact ⟨rfl, rfl, by simp [OpPc.located]⟩
    · exact .refl t
  | done | terminated => exact .modifyOpen fun t => ⟨rfl, rfl, rfl, rfl, .inl rfl⟩
  | health id state =>
    unfold State.notice
    simp only
    split
    · split
      · exact .of_eq rfl rfl rfl rfl
      · exact .of_eq rfl rfl rfl rfl
    · exact .of_eq rfl rfl rfl rfl

lemma notices (s : State) (l : List Notice) : Told (answered l) s (l.foldl State.notice s) := by
  induction l generalizing s with
  | nil => exact .of_eq rfl rfl rfl rfl
  | cons x l ih =>
    have happ : answered (x :: l) = x.admission.toList ++ answered l := by
      unfold answered
      rw [List.filterMap_cons]
      cases x.admission <;> rfl
    rw [happ]
    exact (notice s x).trans (ih (s.notice x))

end Told

lemma moves_act {c : Config} {ev : CanActor.ActorEvent} {x : Actor × List Notice}
    (ha : s.threads.lookup e = some a) (hx : a.step c s.flags ev = some x) :
    Moves e (answered x.2) s (x.2.foldl State.notice (s.setThread e x.1)) := by
  have hf := CanActor.flow_step hx
  have ht := Told.notices (s.setThread e x.1) x.2
  set u := x.2.foldl State.notice (s.setThread e x.1)
  refine ⟨.of_mgr ht.mgr, ?_, .inr (by rw [ha]; rfl), fun id t hid => ?_, fun id t hn hu => ?_,
    ht.ops⟩
  · rw [ht.threads]
    refine .insert (fun k b hk => ?_) ha ?_
    · rw [if_neg hk]
      exact flow_of_front rfl
    · rw [if_pos rfl]
      exact hf
  · obtain ⟨t', ht', hs⟩ := ht.opens.get hid
    exact ⟨t', ht', hs.steady⟩
  · obtain ⟨t', ht', -⟩ := ht.opens.source hu
    exact absurd (hn.symm.trans ht') (by simp)

lemma moves_call (hn : s.opens.lookup id = none) (hf : t.Fresh) :
    Moves 0 [] s { s with opens := s.opens.insert id t } := by
  refine ⟨.of_mgr rfl, .of_eq (fun e a => by rw [ite_self]; exact flow_of_front rfl) rfl, .inl rfl,
    fun j t ht => ⟨t, ?_, .refl _ t⟩, fun j t hj ht => ?_, .of_eq (fun _ => .refl) rfl⟩
  · simp only [Assoc.lookup_insert_ite]
    rw [if_neg, ht]
    rintro rfl
    rw [hn] at ht; cases ht
  · rcases Assoc.of_lookup_insert ht with ⟨-, rfl⟩ | ht
    · exact hf
    · exact absurd (hj.symm.trans ht) (by simp)

/-! ### Handing an open to an actor -/

/-- The actor `a'` is what `old` becomes by taking on an admission, or a new one. -/
structure Takes (spec : CanActor.ActorSessionSpec) (old : Option Actor) (a' : Actor) : Prop where
  resource : ∀ a ∈ old, a.resource = a'.resource
  passed : ∀ a ∈ old, a'.passed = a.passed
  drained : a'.Drained
  admissions : a'.admissions = (old.map Actor.admissions).getD [] ++ [spec.sessionId]
  queued : ∀ n id frames, .sendBatch n id frames ∈ a'.commands →
    ∃ a ∈ old, .sendBatch n id frames ∈ a.commands
  sending : ∀ n, a'.sending = some n →
    ∃ a ∈ old, a.sending = some n ∧ a'.commands = a.commands ++ [.addSession spec]
  behind : ∀ n id frames post, (.sendBatch n id frames :: post) <:+ a'.commands →
    ∃ a ∈ old, a.sessions = a'.sessions ∧
      ∃ post', (.sendBatch n id frames :: post') <:+ a.commands ∧
      post = post' ++ [.addSession spec]

lemma takes_new (r : ResourceId) (spec : CanActor.ActorSessionSpec) :
    Takes spec none { resource := r, first := spec } := by
  refine ⟨by simp, by simp, fun _ => rfl, rfl, by simp, by simp [Actor.sending],
    fun n id frames post h => ?_⟩
  have := List.suffix_nil.mp h
  cases this

lemma suffix_push {c d : CanCommand} {l post : List CanCommand} (h : (c :: post) <:+ l ++ [d]) :
    (c = d ∧ post = []) ∨ ∃ post', (c :: post') <:+ l ∧ post = post' ++ [d] := by
  rcases List.suffix_concat_iff.mp h with h | ⟨m, hm, hs⟩
  · cases h
  · cases m with
    | nil =>
      obtain ⟨rfl, rfl⟩ := List.cons.inj hm
      exact .inl ⟨rfl, rfl⟩
    | cons x m =>
      obtain ⟨rfl, rfl⟩ := List.cons.inj hm
      exact .inr ⟨m, hs, rfl⟩

lemma live_of_connected (h : a.connected = true) : a.isFinished = false := by
  unfold Actor.connected at h
  unfold Actor.isFinished
  split at h <;> simp_all

lemma takes_queued (hc : a.connected = true) (spec : CanActor.ActorSessionSpec) :
    Takes spec (some a) { a with commands := a.commands ++ [.addSession spec] } := by
  refine ⟨?_, ?_, fun h => ?_, ?_, ?_, ?_, ?_⟩
  · rintro _ ⟨rfl⟩; rfl
  · rintro _ ⟨rfl⟩; rfl
  · exact absurd (hc.symm.trans h) (by simp)
  · simp [Actor.admissions, CanActor.admitted, CanCommand.admits]
  · intro n id frames h
    exact ⟨a, rfl, by simpa using h⟩
  · intro n h
    exact ⟨a, rfl, h, rfl⟩
  · intro n id frames post h
    rcases suffix_push h with ⟨h, -⟩ | ⟨post', hs, hp⟩
    · cases h
    · exact ⟨a, rfl, rfl, post', hs, hp⟩

/-! ### Where everything is -/

/-- The epoch is that of a thread of the resource. -/
def State.ThreadOf (s : State) (e : ℕ) (r : ResourceId) : Prop :=
  ∃ a, s.threads.lookup e = some a ∧ a.resource = r

/-- The open was handed to the actor of the epoch. -/
def State.HandedTo (s : State) (id : SessionId) (e : ℕ) : Prop :=
  ∃ t, s.opens.lookup id = some t ∧ t.assigned = some e

/-- An open gets its token after its actor has admitted it. -/
structure OpenTask.Coherent (t : OpenTask) : Prop where
  unassigned : t.pc.Early → t.assigned = none ∧ t.reply = .waiting
  admitted : (∃ e, t.pc = .committing e) ∨ t.activation.isSome → t.reply = .sent (.ok ())
  unissued : t.pc.Ahead → t.activation = none
  returned : ∀ j k, t.pc = .returned (.ok (j, k)) → t.activation = some k

/-- A thread that works is the one of its resource, and it knows only opens handed to it. -/
structure State.InPlace (s : State) (e : ℕ) (a : Actor) : Prop where
  current : a.isFinished = false → s.mgr.actors.lookup a.resource = some e
  bound : e ≤ s.mgr.nextActorEpoch
  drained : a.Drained
  distinct : a.admissions.Nodup
  outside : ∀ id ∈ a.admissions, a.sessions.lookup id = none
  awaited : ∀ id ∈ a.admissions,
    ∃ t, s.opens.lookup id = some t ∧ t.assigned = some e ∧ t.reply = .waiting
  homed : ∀ id, (a.sessions.lookup id).isSome → s.HandedTo id e

/-- The maps behind the lock name threads of the right resource, and an open is known to the actor
it was handed to and to no other. -/
structure Placed (s : State) : Prop where
  served : ∀ r e, s.mgr.actors.lookup r = some e → s.ThreadOf e r
  threads : ∀ e a, s.threads.lookup e = some a → s.InPlace e a
  tasks : ∀ id t, s.opens.lookup id = some t → t.Coherent
  pending : ∀ id p e, s.mgr.pending.lookup id = some p → p.actorEpoch = some e →
    s.ThreadOf e p.reservation.resourceId ∧ s.HandedTo id e
  active : ∀ id x, s.mgr.active.lookup id = some x →
    s.ThreadOf x.actorEpoch x.resourceId ∧ s.HandedTo id x.actorEpoch

lemma Moves.threadOf {s' : State} {r : ResourceId} (hm : Moves e₀ l s s') (h : s.ThreadOf e r) :
    s'.ThreadOf e r := by
  obtain ⟨a, ha, hr⟩ := h
  obtain ⟨a', ha', hf⟩ := hm.threads.get ha
  exact ⟨a', ha', hf.resource.trans hr⟩

lemma Moves.handedTo {s' : State} (hm : Moves e₀ l s s') (h : s.HandedTo id e) :
    s'.HandedTo id e := by
  obtain ⟨t, ht, he⟩ := h
  obtain ⟨t', ht', hst⟩ := hm.opens id t ht
  exact ⟨t', ht', hst.assigned.trans he⟩

namespace Placed

variable {s s' : State} (h : Placed s)

include h

lemma waits (hm : Moves e₀ l s s') (hid : id ∈ l) :
    ∃ t, s.opens.lookup id = some t ∧ t.assigned = some e₀ ∧ t.reply = .waiting := by
  have hsome : (s.threads.lookup e₀).isSome := by
    rcases hm.answers with rfl | h
    · cases hid
    · exact h
  obtain ⟨a, ha⟩ := Option.isSome_iff_exists.mp hsome
  obtain ⟨a', -, hf⟩ := hm.threads.get ha
  rw [if_pos rfl] at hf
  refine (h.threads e₀ a ha).awaited id ?_
  rw [hf.admissions]
  exact List.mem_append_left _ hid

lemma inPlace_moves (hm : Moves e₀ l s s') (ha' : s'.threads.lookup e = some a') :
    s'.InPlace e a' := by
  obtain ⟨a, ha, hf⟩ := hm.threads.source ha'
  have hold := h.threads e a ha
  have hnd := hold.distinct
  have hmem (id : SessionId) (hid : id ∈ a'.admissions) : id ∈ a.admissions := by
    rw [hf.admissions]
    exact List.mem_append_right _ hid
  rw [hf.admissions] at hnd
  constructor
  · -- an actor that works is the resource's own
    intro hfin
    have hlive := hf.finished hfin
    rw [hf.resource]
    refine (hm.kept _ _ (hold.current hlive)).resolve_right fun hdead => ?_
    simp [State.isFinished, ha, hlive] at hdead
  · rw [hm.epoch]
    exact hold.bound
  · exact hf.drained hold.drained
  · exact hnd.of_append_right
  · -- it has no session of those it waits for
    intro id hid
    by_contra hsome
    rcases hf.sessions id (Option.isSome_iff_ne_none.mpr hsome) with hthere | hnew
    · rw [hold.outside id (hmem id hid)] at hthere
      cases hthere
    · exact List.disjoint_of_nodup_append hnd hnew hid
  · intro id hid
    obtain ⟨t, ht, has, hw⟩ := hold.awaited id (hmem id hid)
    obtain ⟨t', ht', hst⟩ := hm.opens id t ht
    refine ⟨t', ht', hst.assigned.trans has, ?_⟩
    rcases hst.reply with hr | ⟨hin, -⟩
    · rw [hr, hw]
    · -- it would be answered and still wait for the same actor
      obtain ⟨u, hu, hue, -⟩ := h.waits hm hin
      rw [ht] at hu
      cases hu
      rw [if_pos (Option.mem_unique has hue)] at hnd
      exact absurd hid (List.disjoint_of_nodup_append hnd hin)
  · intro id hsome
    rcases hf.sessions id hsome with hthere | hnew
    · exact hm.handedTo (hold.homed id hthere)
    · split at hnew
      · rename_i he
        obtain ⟨t, ht, hte, -⟩ := h.waits hm hnew
        exact hm.handedTo ⟨t, ht, he ▸ hte⟩
      · cases hnew

lemma coherent_moves (hm : Moves e₀ l s s') {t' : OpenTask} (ht' : s'.opens.lookup id = some t') :
    t'.Coherent := by
  rcases hm.open_of ht' with ⟨t, ht, hst⟩ | ⟨has, hw, hn, hnc, hnr⟩
  · have hold := h.tasks id t ht
    constructor
    · intro hearly
      obtain ⟨has, hw⟩ := hold.unassigned (hst.early hearly)
      refine ⟨hst.assigned.trans has, ?_⟩
      rcases hst.reply with hr | ⟨hin, -⟩
      · rw [hr, hw]
      · obtain ⟨u, hu, hue, -⟩ := h.waits hm hin
        rw [ht] at hu
        cases hu
        rw [has] at hue; cases hue
    · intro hc
      have hok : t.reply = .sent (.ok ()) := by
        rcases hc with ⟨e, he⟩ | hk
        · exact (hst.committing e he).elim (fun hc => hold.admitted (.inl ⟨e, hc⟩)) fun hr => hr
        · exact hold.admitted (.inr (hst.activation ▸ hk))
      rcases hst.reply with hr | ⟨-, hw⟩
      · rw [hr, hok]
      · rw [hok] at hw; cases hw
    · exact fun hahead => hst.activation.trans (hold.unissued (hst.ahead hahead))
    · exact fun j k hpc => hst.activation.trans (hold.returned j k (hst.granted _ hpc))
  · -- the open has just begun
    refine ⟨fun _ => ⟨has, hw⟩, ?_, fun _ => hn, fun j k hpc => absurd hpc (hnr _)⟩
    rintro (⟨e, he⟩ | hk)
    · exact absurd he (hnc e)
    · rw [hn] at hk; cases hk

/-- Working off what is queued leaves everything in its place. -/
theorem moves (hm : Moves e₀ l s s') : Placed s' where
  served r e he := hm.threadOf (h.served r e (hm.actors r e he))
  threads _ _ ha' := h.inPlace_moves hm ha'
  tasks _ _ ht' := h.coherent_moves hm ht'
  pending id p e hp he :=
    (h.pending id p e (hm.pending id p e hp he) he).imp hm.threadOf hm.handedTo
  active id x' hx' := by
    obtain ⟨x, hx, hc⟩ := hm.active id x' hx'
    obtain ⟨hr, -, -, he⟩ := ActiveSession.core_inj hc
    rw [← hr, ← he]
    exact (h.active id x hx).imp hm.threadOf hm.handedTo

lemma calm (hc : Calm s s') : Placed s' := h.moves hc.moves

lemma congr (hm : s'.mgr = s.mgr) (ht : s'.threads = s.threads) (ho : s'.opens = s.opens) :
    Placed s' := by
  obtain ⟨mgr, threads, opens, closes, ops, revokes, removers, events⟩ := s
  obtain ⟨mgr', threads', opens', closes', ops', revokes', removers', events'⟩ := s'
  obtain rfl : mgr' = mgr := hm
  obtain rfl : threads' = threads := ht
  obtain rfl : opens' = opens := ho
  exact ⟨h.served, fun e a ha => { h.threads e a ha with }, h.tasks, h.pending, h.active⟩

lemma bump (he : s.mgr.nextActorEpoch ≤ e) :
    Placed { s with mgr := { s.mgr with nextActorEpoch := e } } :=
  { h with
    threads := fun k a ha =>
      { h.threads k a ha with bound := (h.threads k a ha).bound.trans he } }

end Placed

/-! ### Handing over -/

/-- The actor is that of the open's resource, and the only one there that still works. -/
structure Handover (s : State) (id : SessionId) (t : OpenTask) (e N : ℕ) (A : Assoc ResourceId ℕ)
    (a' : Actor) (spec : CanActor.ActorSessionSpec) : Prop where
  task : s.opens.lookup id = some t
  early : t.pc.Early
  reserved : ∀ p, s.mgr.pending.lookup id = some p → p.reservation.resourceId = t.resource
  asks : spec.sessionId = id
  takes : Takes spec (s.threads.lookup e) a'
  sessions : ∀ j, (a'.sessions.lookup j).isSome →
    ∃ a, s.threads.lookup e = some a ∧ (a.sessions.lookup j).isSome
  resource : a'.resource = t.resource
  actors : ∀ q, A.lookup q = if q = t.resource then some e else s.mgr.actors.lookup q
  alone : ∀ k, s.mgr.actors.lookup t.resource = some k → k = e
  epoch : s.mgr.nextActorEpoch ≤ N
  bound : e ≤ N

namespace Handover

variable {s : State} {id : SessionId} {t : OpenTask} {e N : ℕ} {A : Assoc ResourceId ℕ}
  {a' : Actor} {spec : CanActor.ActorSessionSpec}

lemma threads (k : ℕ) : (s.handOver id e N A a').threads.lookup k =
    if k = e then some a' else s.threads.lookup k :=
  Assoc.lookup_insert_ite _ _ _ _

variable (h : Handover s id t e N A a' spec)

include h

lemma opens (j : SessionId) : (s.handOver id e N A a').opens.lookup j = if j = id then
      some { t with assigned := some e, pc := .awaiting e } else s.opens.lookup j := by
  change (Assoc.modify s.opens id _).lookup j = _
  rw [Assoc.lookup_modify]
  split
  · rename_i hj; rw [hj, h.task]; rfl
  · rfl

lemma pending (hj : (s.handOver id e N A a').mgr.pending.lookup j = some p) :
    (j = id ∧ p.actorEpoch = some e ∧ p.reservation.resourceId = t.resource) ∨
      s.mgr.pending.lookup j = some p := by
  change (Assoc.modify s.mgr.pending id _).lookup j = some p at hj
  rw [Assoc.lookup_modify] at hj
  split at hj
  · rename_i hji
    obtain ⟨q, hq, rfl⟩ := Option.map_eq_some_iff.mp hj
    exact .inl ⟨hji, rfl, h.reserved q (hji ▸ hq)⟩
  · exact .inr hj

lemma keeps {r : ResourceId} (hk : s.ThreadOf k r) : (s.handOver id e N A a').ThreadOf k r := by
  obtain ⟨b, hb, hr⟩ := hk
  rw [State.ThreadOf, threads]
  split
  · rename_i hk
    exact ⟨a', rfl, (h.takes.resource b (hk ▸ hb)).symm.trans hr⟩
  · exact ⟨b, hb, hr⟩

lemma other_finished (hp : Placed s) (hb : s.threads.lookup k = some b) (hk : k ≠ e)
    (hr : b.resource = t.resource) :
    b.isFinished = true := by
  by_contra hfin
  have := (hp.threads k b hb).current (by simpa using hfin)
  rw [hr] at this
  exact hk (h.alone k this)

lemma unknown (hp : Placed s) (hin : s.HandedTo id k) : False := by
  obtain ⟨u, hu, hk⟩ := hin
  rw [h.task] at hu
  cases hu
  rw [((hp.tasks id t h.task).unassigned h.early).1] at hk
  cases hk

lemma unawaited (hp : Placed s) (hb : s.threads.lookup k = some b) :
    id ∉ b.admissions := fun hin => by
  obtain ⟨u, hu, hk, -⟩ := (hp.threads k b hb).awaited id hin
  exact h.unknown hp ⟨u, hu, hk⟩

lemma handedTo (hp : Placed s) (hj : s.HandedTo j k) : (s.handOver id e N A a').HandedTo j k := by
  rw [State.HandedTo, h.opens, if_neg fun hji => h.unknown hp (hji ▸ hj)]
  exact hj

/-- The actor waits for the open itself, and for those it was waiting for before. -/
lemma inPlace (hp : Placed s) (hb : (s.handOver id e N A a').threads.lookup k = some b) :
    (s.handOver id e N A a').InPlace k b := by
  have hprev {b : Actor} {j : SessionId} (hb : s.threads.lookup k = some b)
      (hj : j ∈ b.admissions) : ∃ u, (s.handOver id e N A a').opens.lookup j = some u ∧
        u.assigned = some k ∧ u.reply = .waiting := by
    rw [h.opens, if_neg fun hji : j = id => h.unawaited hp hb (hji ▸ hj)]
    exact (hp.threads k b hb).awaited j hj
  rw [threads] at hb
  split at hb
  · -- the actor that takes it
    rename_i hk
    subst hk
    cases hb
    refine ⟨fun _ => (h.actors _).trans (if_pos h.resource), h.bound, h.takes.drained, ?_,
      fun j hj => ?_, fun j hj => ?_, fun j hj => ?_⟩
    · rw [h.takes.admissions, h.asks]
      cases hold : s.threads.lookup k with
      | none => simp
      | some a =>
        simp only [Option.map_some, Option.getD_some]
        exact List.Nodup.append (hp.threads k a hold).distinct (List.nodup_singleton id)
          (List.disjoint_singleton.mpr (h.unawaited hp hold))
    · by_contra hsome
      obtain ⟨a, ha, hthere⟩ := h.sessions j (Option.isSome_iff_ne_none.mpr hsome)
      rw [h.takes.admissions, h.asks, ha] at hj
      rcases List.mem_append.mp hj with hj | hj
      · rw [(hp.threads k a ha).outside j hj] at hthere
        cases hthere
      · -- the open has no session yet
        rw [List.mem_singleton.mp hj] at hthere
        exact h.unknown hp ((hp.threads k a ha).homed id hthere)
    · rw [h.takes.admissions, h.asks] at hj
      rcases List.mem_append.mp hj with hj | hj
      · cases hold : s.threads.lookup k with
        | none => rw [hold] at hj; cases hj
        | some a =>
          rw [hold] at hj
          exact hprev hold hj
      · rw [h.opens, if_pos (List.mem_singleton.mp hj)]
        exact ⟨_, rfl, rfl, ((hp.tasks id t h.task).unassigned h.early).2⟩
    · obtain ⟨a, ha, hsome⟩ := h.sessions j hj
      exact h.handedTo hp ((hp.threads k a ha).homed j hsome)
  · -- another actor
    rename_i hk
    have hold := hp.threads k b hb
    refine ⟨fun hfin => (h.actors _).trans ?_, hold.bound.trans h.epoch, hold.drained,
      hold.distinct, hold.outside, fun j hj => hprev hb hj,
      fun j hj => h.handedTo hp (hold.homed j hj)⟩
    rw [if_neg fun hr => by simp [h.other_finished hp hb hk hr] at hfin]
    exact hold.current hfin

end Handover

/-- An open that is handed over is where it belongs. -/
theorem Placed.handed {spec : CanActor.ActorSessionSpec} (hp : Placed s)
    (h : Handover s id t e N A a' spec) : Placed (s.handOver id e N A a') where
  served r k hk := by
    change A.lookup r = some k at hk
    rw [h.actors] at hk
    split at hk
    · rename_i hr
      cases hk
      exact ⟨a', by rw [Handover.threads, if_pos rfl], by rw [hr, h.resource]⟩
    · exact h.keeps (hp.served r k hk)
  threads _ _ hb := h.inPlace hp hb
  tasks j u hu := by
    rw [h.opens] at hu
    split at hu
    · cases hu
      have hold := hp.tasks id t h.task
      exact ⟨False.elim, fun hc => hold.admitted (.inr (hc.resolve_left (by simp))),
        fun _ => hold.unissued h.early.ahead, by simp⟩
    · exact hp.tasks j u hu
  pending j p k hj hk := by
    rcases h.pending hj with ⟨hji, he, hr⟩ | hj
    · cases he.symm.trans hk
      exact ⟨⟨a', by rw [Handover.threads, if_pos rfl], h.resource.trans hr.symm⟩, _,
        by rw [h.opens, if_pos hji], rfl⟩
    · exact (hp.pending j p k hj hk).imp h.keeps (h.handedTo hp)
  active j x hx := (hp.active j x hx).imp h.keeps (h.handedTo hp)

/-- Whoever takes the session is where it belongs. -/
lemma Recipient.handover (h : Recipient s t.resource (t.spec id) e N A a') (hp : Placed s)
    (hb : Balanced s) (ht : s.opens.lookup id = some t) (hearly : t.pc.Early) :
    Handover s id t e N A a' (t.spec id) := by
  have hpend : ∀ p, s.mgr.pending.lookup id = some p → p.reservation.resourceId = t.resource := by
    intro p hp
    obtain ⟨v, hv, -, hr, -⟩ := hb.guarded id p hp
    rw [ht] at hv
    cases hv
    exact hr
  cases h with
  | @present a he ha hconn =>
    obtain ⟨b, hbt, hbr⟩ := hp.served _ _ he
    obtain rfl : a = b := by rw [ha] at hbt; exact Option.some.inj hbt
    have htakes := takes_queued hconn (t.spec id)
    rw [← ha] at htakes
    refine ⟨ht, hearly, hpend, rfl, htakes, fun j hj => ⟨a, ha, hj⟩, hbr, fun q => ?_,
      fun k hk => ?_, le_rfl, (hp.threads e a ha).bound⟩
    · split
      · rename_i hq; rw [hq, he]
      · rfl
    · rw [he] at hk
      exact (Option.some.inj hk).symm
  | started hn he =>
    have hfresh : s.threads.lookup e = none := by
      cases hth : s.threads.lookup e with
      | none => rfl
      | some b =>
        have := (hp.threads e b hth).bound
        omega
    have htakes := takes_new t.resource (t.spec id)
    rw [← hfresh] at htakes
    refine ⟨ht, hearly, hpend, rfl, htakes, fun j hj => ?_, rfl, fun q => ?_, fun k hk => ?_,
      by omega, le_rfl⟩
    · simp at hj
    · exact Assoc.lookup_insert_ite _ _ _ _
    · rw [hn] at hk; cases hk

/-! ### Giving out a token -/

namespace Issue

variable {s : State} {id : SessionId} {t : OpenTask} {e epoch : ℕ} {p : PendingSession}
  {fresh : LeaseId} {token : LeaseToken}

lemma opens (h : Issue s id t e p fresh token epoch) (j : SessionId) :
    (s.issue id t p fresh token epoch).opens.lookup j = if j = id then some { t with
        activation := some token, done := true, pc := .returned (.ok (id, token)) }
      else s.opens.lookup j := by
  change (Assoc.modify s.opens id _).lookup j = _
  rw [Assoc.lookup_modify]
  split
  · rename_i hj; rw [hj, h.task]; rfl
  · rfl

lemma pending_of {q : PendingSession}
    (hq : (s.issue id t p fresh token epoch).mgr.pending.lookup j = some q) :
    j ≠ id ∧ s.mgr.pending.lookup j = some q :=
  Assoc.of_lookup_erase hq

lemma active (j : SessionId) : (s.issue id t p fresh token epoch).mgr.active.lookup j =
    if j = id then some { resourceId := t.resource, ownerId := t.owner, token, actorEpoch := epoch }
    else s.mgr.active.lookup j :=
  Assoc.lookup_insert_ite _ _ _ _

lemma reply (h : Issue s id t e p fresh token epoch) (hp : Placed s) : t.reply = .sent (.ok ()) :=
  (hp.tasks id t h.task).admitted (.inl ⟨e, h.pc⟩)

lemma unissued (h : Issue s id t e p fresh token epoch) (hp : Placed s) : t.activation = none :=
  (hp.tasks id t h.task).unissued (by rw [h.pc]; trivial)

lemma thread (h : Issue s id t e p fresh token epoch) (hp : Placed s) (hb : Balanced s) :
    s.ThreadOf epoch t.resource := by
  obtain ⟨u, hu, -, hpr, -⟩ := hb.guarded id p h.pending
  rw [h.task] at hu
  cases hu
  exact hpr ▸ (hp.pending id p epoch h.pending h.epoch).1

lemma handedTo (h : Issue s id t e p fresh token epoch) (hj : s.HandedTo j k) :
    (s.issue id t p fresh token epoch).HandedTo j k := by
  obtain ⟨u, hu, hk⟩ := hj
  rw [State.HandedTo, h.opens]
  split
  · rename_i hji
    rw [hji, h.task] at hu
    cases hu
    exact ⟨_, rfl, hk⟩
  · exact ⟨u, hu, hk⟩

end Issue

theorem Placed.issued (hp : Placed s) (hb : Balanced s) (h : Issue s id t e p fresh token epoch) :
    Placed (s.issue id t p fresh token epoch) where
  served := hp.served
  threads k b hb := { hp.threads k b hb with
    awaited := fun j hj => by
      obtain ⟨v, hv, hk, hw⟩ := (hp.threads k b hb).awaited j hj
      rw [h.opens, if_neg]
      · exact ⟨v, hv, hk, hw⟩
      · intro hji
        rw [hji, h.task] at hv
        cases hv
        rw [h.reply hp] at hw; cases hw
    homed := fun j hj => h.handedTo ((hp.threads k b hb).homed j hj) }
  tasks j v hv := by
    rw [h.opens] at hv
    split at hv
    · cases hv
      refine ⟨False.elim, fun _ => h.reply hp, False.elim, fun i k hpc => ?_⟩
      simp only [OpenPc.returned.injEq, Except.ok.injEq, Prod.mk.injEq] at hpc
      rw [hpc.2]
    · exact hp.tasks j v hv
  pending j q k hj hk := (hp.pending j q k (Issue.pending_of hj).2 hk).imp_right h.handedTo
  active j x hx := by
    rw [Issue.active] at hx
    split at hx
    · rename_i hji
      cases hx
      exact ⟨h.thread hp hb, hji ▸ h.handedTo (hp.pending id p epoch h.pending h.epoch).2⟩
    · exact (hp.active j x hx).imp_right h.handedTo

/-! ### Queueing an operation -/

lemma State.ThreadOf.setThread {r : ResourceId} (h : s.ThreadOf k r)
    (ha : s.threads.lookup e = some a) (hr : a'.resource = a.resource) :
    (s.setThread e a').ThreadOf k r := by
  obtain ⟨b, hb, hbr⟩ := h
  rw [State.ThreadOf, State.setThread, Assoc.lookup_insert_ite]
  split
  · rename_i hk
    rw [hk, ha] at hb
    cases hb
    exact ⟨a', rfl, hr.trans hbr⟩
  · exact ⟨b, hb, hbr⟩

/-- A command that admits nobody is queued. -/
theorem Placed.push (h : Placed s) (ha : s.threads.lookup e = some a) (hconn : a.connected = true)
    {cmd : CanCommand} (hadm : cmd.admits = none) :
    Placed (s.setThread e { a with commands := a.commands ++ [cmd] }) where
  served r k hk := (h.served r k hk).setThread ha rfl
  threads k b hb := by
    rcases Assoc.of_lookup_insert hb with ⟨rfl, rfl⟩ | hb
    · have hold := h.threads k a ha
      have hadmissions : Actor.admissions { a with commands := a.commands ++ [cmd] } =
          a.admissions := by
        simp [Actor.admissions, CanActor.admitted, hadm]
      refine { hold with
        drained := fun hd => absurd (hconn.symm.trans hd) (by simp)
        distinct := hadmissions ▸ hold.distinct
        outside := fun j hj => hold.outside j (hadmissions ▸ hj)
        awaited := fun j hj => hold.awaited j (hadmissions ▸ hj) }
    · exact { h.threads k b hb with }
  tasks := h.tasks
  pending j p k hj hk := (h.pending j p k hj hk).imp_left fun ht => ht.setThread ha rfl
  active j x hx := (h.active j x hx).imp_left fun ht => ht.setThread ha rfl

/-! ### What a step does -/

/-- No open gets a token. -/
def OpensOnward (s s' : State) : Prop :=
  Assoc.Follows (fun _ t t' => t'.activation = t.activation) s.opens s'.opens

/-- Opens go on, no session begins or ends, and nothing is published. -/
structure Onward (s s' : State) : Prop where
  opens : OpensOnward s s'
  active : ∀ id, (s'.mgr.active.lookup id).map ActiveSession.core =
    (s.mgr.active.lookup id).map ActiveSession.core
  events : s'.events = s.events

lemma OpensOnward.trans {s s' u : State} (h : OpensOnward s s') (h' : OpensOnward s' u) :
    OpensOnward s u :=
  Assoc.Follows.trans h h' fun _ _ _ _ ht ht' => ht'.trans ht

lemma Calm.opensOnward {s s' : State} (h : Calm s s') : OpensOnward s s' :=
  h.opens.mono fun _ _ _ ht => ht.activation

lemma Quiet.onward {s s' : State} (h : Quiet s s') : Onward s s' :=
  ⟨h.toCalm.opensOnward, h.cores, h.events⟩

/-- What a step does to the life of sessions. -/
inductive Course (c : Config) (s : State) : Event → State → Prop
  | call {ev : Event} {id : SessionId} {t : OpenTask} (hn : s.opens.lookup id = none)
      (ha : t.activation = none) :
      Course c s ev { s with opens := s.opens.insert id t }
  | onward {ev : Event} {s₁ s' : State} (hev : ev.acts = none) (hrec : Reconciles s s₁)
      (h : Onward s₁ s') : Course c s ev s'
  | issue {id : SessionId} {fresh : LeaseId} {s₁ : State} {t : OpenTask} {e epoch : ℕ}
      {p : PendingSession} {token : LeaseToken} (hrec : Reconciles s s₁)
      (h : Issue s₁ id t e p fresh token epoch) :
      Course c s (.commit id fresh) (s₁.issue id t p fresh token epoch)
  | finish {n : ℕ} {t : CloseTask} {result : HalResult Unit} {seen failed : Bool}
      (ht : s.closes.lookup n = some t) (hpc : t.pc = .finishing result seen) :
      Course c s (.closeFinish n) ((s.finishClose t failed seen).setClose n t (.returned result))
  | act {e : ℕ} {ev : CanActor.ActorEvent} {a : Actor} {x : Actor × List Notice}
      (ha : s.threads.lookup e = some a) (hx : a.step c s.flags ev = some x) :
      Course c s (.actor e ev) (x.2.foldl State.notice (s.setThread e x.1))

/-- What a step does to queues and tokens. -/
inductive Stir (c : Config) (s : State) : Event → State → Prop
  | moves {ev : Event} {s' : State} {e : ℕ} {l : List SessionId} (h : Moves e l s s')
      (hc : Course c s ev s') : Stir c s ev s'
  | bump {ev : Event} {s₁ : State} {id : SessionId} {t : OpenTask} {N : ℕ} {err : HalError}
      (hev : ev.acts = none) (hrec : Reconciles s s₁) (ht : s₁.opens.lookup id = some t)
      (hpc : t.pc = .reserved) (hN : s₁.mgr.nextActorEpoch ≤ N) :
      Stir c s ev (State.setPc { s₁ with mgr := { s₁.mgr with nextActorEpoch := N } } id
        (.unwinding none err))
  | handed {ev : Event} {s₁ : State} {id : SessionId} {t : OpenTask} {e N : ℕ}
      {A : Assoc ResourceId ℕ} {a' : Actor} {spec : CanActor.ActorSessionSpec}
      (hev : ev.acts = none) (hrec : Reconciles s s₁) (h : Handover s₁ id t e N A a' spec) :
      Stir c s ev (s₁.handOver id e N A a')
  | issued {s₁ : State} {id : SessionId} {fresh : LeaseId} {t : OpenTask} {e epoch : ℕ}
      {p : PendingSession} {token : LeaseToken} (hrec : Reconciles s s₁)
      (h : Issue s₁ id t e p fresh token epoch) :
      Stir c s (.commit id fresh) (s₁.issue id t p fresh token epoch)
  | called {s₁ : State} {n : ℕ} {id : SessionId} {token : LeaseToken} {q : Request} {pc : OpPc}
      (hrec : Reconciles s s₁) (hn : s₁.ops.lookup n = none) (hpc : s₁.Begins id token q pc) :
      Stir c s (.opCall n id token q) { s₁ with ops := s₁.ops.insert n ⟨id, token, q, pc⟩ }
  | queued {n deadline e : ℕ} {r : ResourceId} {t : OpTask} {a : Actor}
      (ht : s.ops.lookup n = some t) (hloc : t.pc.located = some (r, e))
      (ha : s.threads.lookup e = some a) (hc : a.connected = true) :
      Stir c s (.opEnqueue n deadline) ((s.setThread e { a with
        commands := a.commands ++ [t.request.command n t.session deadline] }).setOp n t
          (.awaiting r e .waiting))

section Runs

variable {c : Config} {s s' : State}

lemma Reconciles.stir {s₁ : State} (hrec : Reconciles s s₁) (hev : ev.acts = none)
    (h : Quiet s₁ s') :
    Stir c s ev s' :=
  .moves (hrec.calm.trans h.toCalm).moves (.onward hev hrec h.onward)

lemma Locked.stir {s₁ : State} (hl : Locked s₁ ev s') (hrec : Reconciles s s₁) (hp : Placed s)
    (hb : Balanced s) : Stir c s ev s' := by
  cases hl with
  | refused ht hpc =>
    exact hrec.stir rfl (.one rfl ⟨rfl, rfl, rfl⟩ (fun _ _ => .inr) ⟨rfl, rfl, rfl⟩
      fun _ _ => .leave ⟨rfl, rfl, rfl, rfl⟩ (by simp [OpenPc.Lost, OpenPc.Ahead]))
  | reserved ht hpc => exact hrec.stir rfl (quiet_reserved ht hpc _ _)
  | unassigned ht hpc hN => exact .bump rfl hrec ht hpc hN
  | assigned ht hpc hto =>
    exact .handed rfl hrec (hto.handover (hp.calm hrec.calm) (hrec.balanced hb) ht
      (by rw [hpc]; trivial))
  | lapsed ht hpc =>
    exact hrec.stir rfl (.advance fun _ _ => .leave ⟨rfl, rfl, rfl, rfl⟩ fun h => h)
  | spoiled ht hpc => exact hrec.stir rfl (quiet_spoiled _ _ _ _)
  | issued h => exact .issued hrec h
  | called hn hpc => exact .called hrec hn hpc
  | answered => exact hrec.stir rfl (.refl _)
  | handed _ h => exact hrec.stir rfl (h.quiet _ none)
  | revokeAnswered => exact hrec.stir rfl (.of_eq rfl rfl rfl rfl rfl)
  | @revokeHanded k _ _ _ _ _ _ _ _ _ _ _ h =>
    exact hrec.stir rfl ((h.quiet _ (some k)).trans (.of_eq rfl rfl rfl rfl rfl))

lemma stir_of_quiet (hev : ev.acts = none) (h : Quiet s s') : Stir c s ev s' :=
  Reconciles.stir (.inl rfl) hev h

lemma Plain.stir (h : Plain c s ev s') : Stir c s ev s' := by
  cases h with
  | call hn hpc =>
    refine .moves (moves_call hn ⟨rfl, rfl, rfl, fun e => ?_, fun v => ?_⟩) (.call hn rfl)
    all_goals rcases hpc with rfl | ⟨e, rfl⟩ <;> simp
  | move hev ht h =>
    refine stir_of_quiet hev (.advance fun u hu => ?_)
    obtain rfl := Option.mem_unique ht hu
    exact h.steady
  | @cleaning id _ _ e _ a ht hpc ha =>
    exact stir_of_quiet rfl ((@Removes.queued s id e a ha).quiet.trans
      (quiet_setPc _ _ fun h => h))
  | rest hev => exact stir_of_quiet hev (.refl s)
  | remover hev h => exact stir_of_quiet hev (h.quiet.trans (.of_eq rfl rfl rfl rfl rfl))
  | op hev ht hpc => exact stir_of_quiet hev (.setOp ht hpc.located)
  | @room _ _ e x _ _ a hev ht hpc _ ha =>
    have hroom : Quiet s (s.setThread e { a with txReserved := x }) := .setThread ha rfl
    exact stir_of_quiet hev (hroom.trans (.setOp ht hpc.located))
  | queue ht hpc ha hc => exact .queued ht (by rcases hpc with h | h <;> rw [h] <;> rfl) ha hc
  | close hev => exact stir_of_quiet hev (.of_eq rfl rfl rfl rfl rfl)
  | act ha hx => exact .moves (moves_act ha hx) (.act ha hx)

/-- **What a step does to queues and tokens.** -/
theorem step_stir (hp : Placed s) (hb : Balanced s) (hs : step c s ev = some s') :
    Stir c s ev s' := by
  cases step_act hs with
  | lock hrec hl => exact hl.stir hrec hp hb
  | plain h => exact h.stir
  | guard hev ht hg hout =>
    refine stir_of_quiet hev (quiet_dropGuard s _ _ ?_)
    rcases hout with rfl | ⟨e, rfl⟩ <;> simp [OpenPc.Lost, OpenPc.Ahead]
  | finish ht hpc => exact .moves (calm_finishClose s _ _ _ _ _).moves (.finish ht hpc)
  | @revokeCall _ _ opens =>
    exact stir_of_quiet rfl
      ((Quiet.foldl_cancelPending s false opens).trans (.of_eq rfl rfl rfl rfl rfl))
  | dropClose | dropRevoke => exact stir_of_quiet rfl (.of_eq rfl rfl rfl rfl rfl)
  | revoke hev => exact stir_of_quiet hev (.of_eq rfl rfl rfl rfl rfl)

lemma command_admits (q : Request) (n : ℕ) (id : SessionId) (deadline : ℕ) :
    (q.command n id deadline).admits = none := by
  cases q <;> rfl

/-- **One step** leaves everything in its place. -/
theorem placed_step (hb : Balanced s) (h : Placed s) (hs : step c s ev = some s') : Placed s' := by
  cases step_stir h hb hs with
  | moves hm => exact h.moves hm
  | bump _ hrec ht hpc hN =>
    exact ((h.calm hrec.calm).bump hN).calm
      (@quiet_setPc (.unwinding none _) _ _ fun h => h).toCalm
  | handed _ hrec hover => exact (h.calm hrec.calm).handed hover
  | issued hrec hi => exact (h.calm hrec.calm).issued (hrec.balanced hb) hi
  | called hrec => exact (h.calm hrec.calm).congr rfl rfl rfl
  | queued _ _ ha hc => exact (h.push ha hc (command_admits _ _ _ _)).congr rfl rfl rfl

lemma placed_empty : Placed {} := by
  constructor
  all_goals
    intros
    simp at *

theorem run_placed {ok : State → Event → Prop} {l : List Event}
    (h : Machine.Runs (step c) ok {} l s) : Placed s :=
  (h.invariant (I := fun s => Balanced s ∧ Placed s) ⟨balanced_empty, placed_empty⟩
    fun _ _ _ ha _ hs => ⟨balanced_step ha.1 hs, placed_step ha.1 ha.2 hs⟩).2

end Runs

end RobotHal.CanManager
