import RobotHal.CanLedger
import RobotHal.SerialRuntime
import RobotHal.NativeSession

/-!
What the managers remember of closed sessions.

The serial registry and the CAN manager list their records in the order they were made and forget
the oldest for a new one. The USB, GPIO and camera managers never forget a session.
-/

namespace RobotHal

variable {l : List Event} {g : Registry} {k : ℕ}

/-! ### CAN -/

namespace CanManager

/-- The records are listed, and the list is within the capacity. -/
def ManagerState.Tidy (m : ManagerState) : Prop :=
  Assoc.Listed m.closed m.closedOrder ∧ m.closedOrder.length ≤ closedSessionCapacity

namespace ManagerState.Tidy

variable {m : ManagerState}

lemma rememberClosed (h : m.Tidy) (id : SessionId) (x : ClosedSession) :
    (m.rememberClosed id x).Tidy := by
  obtain ⟨hl, hb⟩ := h
  have hcap : closedSessionCapacity = 256 := rfl
  unfold ManagerState.Tidy ManagerState.rememberClosed ManagerState.expireClosed
  dsimp only
  generalize hexcess : m.closedOrder.length + 1 - closedSessionCapacity = excess
  have hsplit := List.take_append_drop excess m.closedOrder
  have hleft : Assoc.Listed (Assoc.eraseAll m.closed (m.closedOrder.take excess))
      (m.closedOrder.drop excess) := Assoc.Listed.eraseAll (by rwa [hsplit])
  refine ⟨hleft.push id x, ?_⟩
  rw [List.length_append, List.length_drop, List.length_singleton]
  omega

lemma dropActive (h : m.Tidy) (r : ResourceId) (id : SessionId) (token : LeaseToken)
    (x : ActiveSession) : (m.dropActive r id token x).Tidy := by
  have hm : ManagerState.Tidy { m with
      active := m.active.erase id
      leases := (m.leases.release r id token).1 } := h
  exact hm.rememberClosed id _

lemma dropPending (h : m.Tidy) (id : SessionId) : (m.dropPending id).Tidy := by
  unfold ManagerState.dropPending
  split <;> exact h

end ManagerState.Tidy

section Steps

variable {c : CanActor.Config} {s s' : State}

lemma mgr_publishClosed (s : State) (r : ResourceId) (id : SessionId) (x : ActiveSession)
    (failed : Bool) : (s.publishClosed r id x failed).mgr = s.mgr := by
  obtain ⟨events, he⟩ := publishClosed_eq s r id x failed
  rw [he]

lemma tidy_retire (h : s.mgr.Tidy) (r : ResourceId) (id : SessionId) :
    (s.retire r id).mgr.Tidy := by
  unfold State.retire
  split
  · exact h
  · rename_i x _
    simp only [mgr_publishClosed]
    exact h.dropActive r id x.token x

lemma tidy_cancelPending (h : s.mgr.Tidy) (id : SessionId) (done : Bool) :
    (s.cancelPending id done).mgr.Tidy := by
  unfold State.cancelPending
  split
  · exact h
  · exact h.dropPending id

lemma tidy_retireAll (h : s.mgr.Tidy) (r : ResourceId) (ids : List SessionId) :
    (ids.foldl (fun s id => s.retire r id) s).mgr.Tidy := by
  induction ids generalizing s with
  | nil => exact h
  | cons id ids ih => exact ih (tidy_retire h r id)

lemma tidy_cancelAll (h : s.mgr.Tidy) (done : Bool) (ids : List SessionId) :
    (ids.foldl (fun s id => s.cancelPending id done) s).mgr.Tidy := by
  induction ids generalizing s with
  | nil => exact h
  | cons id ids ih => exact ih (tidy_cancelPending h id done)

lemma tidy_reconcile (h : s.mgr.Tidy) (r : ResourceId) :
    (s.reconcileFinishedActor r).mgr.Tidy := by
  unfold State.reconcileFinishedActor
  split
  · exact h
  split
  · exact h
  · refine tidy_cancelAll (tidy_retireAll ?_ r _) true _
    exact h

lemma Reconciles.tidy {s₁ : State} (hrec : Reconciles s s₁) (h : s.mgr.Tidy) : s₁.mgr.Tidy := by
  rcases hrec with rfl | ⟨r, rfl⟩
  · exact h
  · exact tidy_reconcile h r

lemma tidy_dropGuard (h : s.mgr.Tidy) (id : SessionId) (actor : Option ℕ) (pc : OpenPc) :
    (s.dropGuard id actor pc).mgr.Tidy := by
  unfold State.dropGuard
  simp only
  split <;> exact h.dropPending id

lemma tidy_finishClose (h : s.mgr.Tidy) (t : CloseTask) (failed finished : Bool) :
    (s.finishClose t failed finished).mgr.Tidy := by
  unfold State.finishClose
  split
  · exact h
  · rename_i x _
    have hd := h.dropActive t.resource t.session t.token x
    simp only [ManagerState.Tidy, mgr_publishClosed] at hd ⊢
    split
    · exact hd
    · rw [mgr_publishClosed]
      exact hd

/-- **One step** keeps the records listed and within the capacity. -/
theorem tidy_step {e : Event} (h : s.mgr.Tidy) (hs : step c s e = some s') : s'.mgr.Tidy := by
  cases step_act hs with
  | lock hrec hl => cases hl <;> exact hrec.tidy h
  | plain hp =>
    rw [hp.still.mgr]
    exact h
  | guard => exact tidy_dropGuard h _ _ _
  | finish => exact tidy_finishClose h _ _ _
  | @revokeCall _ _ opens => exact tidy_cancelAll h false opens
  | dropClose | revoke | dropRevoke => exact h

theorem run_tidy {ok : State → Event → Prop} (h : Machine.Runs (step c) ok {} l s) :
    s.mgr.Tidy := by
  refine h.invariant (I := fun s => s.mgr.Tidy) ⟨fun _ hk => ?_, Nat.zero_le _⟩
    fun _ _ _ ha _ hs => tidy_step ha hs
  cases hk

end Steps

end CanManager

/-! ### Serial -/

namespace Serial

/-- The records are listed, and the list is within the capacity. -/
def Registry.Tidy (g : Registry) : Prop :=
  Assoc.Listed g.closedSessions g.closedOrder ∧ g.closedOrder.length ≤ closedSessionCapacity

namespace Registry

variable {g : Registry}

lemma evict_spec {closed : Assoc SessionId LeaseToken} {order : List SessionId}
    (hl : Assoc.Listed closed order) :
    Assoc.Listed (evict closed order).1 (evict closed order).2 ∧
      (evict closed order).2.length < closedSessionCapacity := by
  induction order generalizing closed with
  | nil => exact ⟨hl, Nat.zero_lt_succ 255⟩
  | cons expired order ih =>
    unfold evict
    split
    · exact ih hl.erase_head
    · rename_i hlt
      exact ⟨hl, Nat.lt_of_not_le hlt⟩

lemma Tidy.rememberClosed (h : g.Tidy) (id : SessionId) (lease : LeaseToken) :
    (g.rememberClosed id lease).Tidy := by
  unfold Registry.rememberClosed
  split
  · exact h
  · obtain ⟨hl, hb⟩ := evict_spec h.1
    refine ⟨hl.push id lease, ?_⟩
    rw [List.length_append, List.length_singleton]
    exact hb

lemma Tidy.finishClose (h : g.Tidy) (id : SessionId) (result : HalResult Unit) :
    (g.finishClose id result).1.Tidy := by
  unfold Registry.finishClose
  split
  · exact h
  · rename_i e _
    have hleft : Tidy { g with
        leases := (g.leases.release e.resource id).1
        sessions := g.sessions.erase id
        done := g.done.insert id result } := h
    simp only
    split
    · exact hleft.rememberClosed _ _
    · exact hleft

end Registry

lemma registry_answer (s : State) (n : ℕ) (result : HalResult Reply) :
    (s.answer n result).registry = s.registry := by
  unfold State.answer
  split <;> rfl

lemma registry_answerAll (s : State) (l : List (ℕ × SerialCommand)) (error : String → HalError) :
    (s.answerAll l error).registry = s.registry := by
  induction l generalizing s with
  | nil => rfl
  | cons x l ih => exact (ih _).trans (registry_answer ..)

lemma registry_requestClose (s : State) (id : SessionId) :
    (s.requestClose id).registry = s.registry := by
  unfold State.requestClose
  split <;> rfl

lemma registry_requestCloseAll (l : List RevokeTarget) (s : State) :
    (l.foldl (fun s t => s.requestClose t.session) s).registry = s.registry := by
  induction l generalizing s with
  | nil => rfl
  | cons t l ih => rw [List.foldl_cons, ih, registry_requestClose]

section Steps

variable {c : Config} {s s' : State}

lemma tidy_reserveOpen (h : g.Tidy) (r : ResourceId) (id : SessionId) (o : OwnerId)
    (fresh : LeaseId) : (g.reserveOpen r id o fresh).1.Tidy := by
  unfold Registry.reserveOpen
  split <;> exact h

lemma tidy_finishOpen (h : g.Tidy) (id : SessionId) : (g.finishOpen id).1.Tidy := by
  unfold Registry.finishOpen
  split
  · exact h
  · simp only
    split
    · exact h
    · split
      · exact h
      · split <;> exact h

lemma tidy_cancelOpen (h : g.Tidy) (id : SessionId) : (g.cancelOpen id).Tidy := by
  unfold Registry.cancelOpen
  split <;> exact h

lemma tidy_beginClose (h : g.Tidy) (id : SessionId) (lease : LeaseToken) :
    (g.beginClose id lease).1.Tidy := by
  unfold Registry.beginClose
  split
  · exact h
  · split
    · exact h
    · simp only
      split <;> exact h

/-- **One step** keeps the records listed and within the capacity. -/
theorem tidy_step {e : Event} (h : s.registry.Tidy) (hs : step c s e = some s') :
    s'.registry.Tidy := by
  cases e
  case reserve id fresh =>
    rw [step, State.reserve] at hs
    split at hs
    · rename_i t _
      have hg := tidy_reserveOpen h t.resource id t.owner fresh
      split at hs
      · split at hs <;> rename_i heq <;> obtain rfl := Option.some.inj hs <;> rw [heq] at hg <;>
          exact hg
      · cases hs
    · cases hs
  case finishOpen id =>
    have hg := tidy_finishOpen h id
    rw [step, State.finishOpen] at hs
    split at hs
    · split at hs
      · split at hs <;> rename_i heq <;> obtain rfl := Option.some.inj hs <;> rw [heq] at hg
        · exact hg
        · rw [State.setOpen, registry_requestClose]
          exact hg
      · cases hs
    · cases hs
  case closeCall n id lease =>
    have hg := tidy_beginClose h id lease
    rw [step, State.closeCall] at hs
    split at hs
    · cases hs
    · split at hs <;> rename_i heq <;> obtain rfl := Option.some.inj hs <;> rw [heq] at hg
      · exact hg
      · exact hg
      · rw [registry_requestClose]
        exact hg
  case actorFinish id =>
    rw [step, State.actorFinish] at hs
    split at hs
    · split at hs
      · rename_i result _
        cases hs
        exact h.finishClose id result
      · cases hs
    · cases hs
  case revokeCall n o order =>
    rw [step, State.revokeCall] at hs
    split at hs
    · cases hs
    · cases hs
      rw [registry_requestCloseAll]
      exact h
  case revokeNext n =>
    rw [step, State.revokeNext] at hs
    split at hs
    · obtain ⟨result, -, rfl⟩ := Option.map_eq_some_iff.mp hs
      exact h
    · cases hs
  case closeDone n =>
    rw [step, State.closeDone] at hs
    split at hs
    · obtain ⟨result, -, rfl⟩ := Option.map_eq_some_iff.mp hs
      exact h
    · cases hs
  all_goals
    simp only [step, State.openCall, State.adapterReturned, State.openCancelled,
      State.cancelOpen, State.openRejected, State.dropOpen, State.guardCancel, State.dropClose,
      State.revokeReturn, State.dropRevoke, State.request, State.actorTake, State.actorReply,
      State.actorStop, State.actorClosed, State.actorDied] at hs
    repeat' split at hs
    all_goals first
      | cases hs; done
      | cases hs
        simp only [State.setOpen, State.setActor, registry_answer, registry_answerAll]
        first
          | exact h
          | exact tidy_cancelOpen h _

theorem run_tidy {ok : State → Event → Prop} (h : Machine.Runs (step c) ok {} l s) :
    s.registry.Tidy := by
  refine h.invariant (I := fun s => s.registry.Tidy) ⟨fun _ hk => ?_, Nat.zero_le _⟩
    fun _ _ _ ha _ hs => tidy_step ha hs
  cases hk

end Steps

end Serial

/-! ### USB, GPIO and camera -/

namespace WorkerManager

/-- The sessions that have left the map of sessions in a run. -/
def ended (c : Config) (l : List Event) : List SessionId :=
  (Machine.steps (step c) {} l).flatMap fun x =>
    x.1.sessions.keys.filter fun id =>
      (step c x.1 x.2).any fun s' => (s'.sessions.lookup id).isNone

/-- The same sessions and the same records. -/
def SameBooks (s s' : State) : Prop := s'.closed = s.closed ∧ s'.sessions = s.sessions

section Steps

variable {c : Config} {s s' : State}

lemma SameBooks.trans {t u : State} (h : SameBooks s t) (h' : SameBooks t u) : SameBooks s u :=
  ⟨h'.1.trans h.1, h'.2.trans h.2⟩

lemma sameBooks_requestClose (s : State) (id : SessionId) : SameBooks s (s.requestClose id) := by
  unfold State.requestClose
  split <;> exact ⟨rfl, rfl⟩

lemma sameBooks_requestAll (l : List Target) (s : State) :
    SameBooks s (l.foldl (fun s x => s.requestClose x.1) s) := by
  induction l generalizing s with
  | nil => exact ⟨rfl, rfl⟩
  | cons x l ih => exact (sameBooks_requestClose s x.1).trans (ih _)

lemma sameBooks_revokeNext (s : State) (n : ℕ) (t : RevokeTask) (rest : List Target)
    (err : Option HalError) : SameBooks s (s.revokeNext c n t rest err) := by
  unfold State.revokeNext
  split
  · exact ⟨rfl, rfl⟩
  · simp only
    split <;> exact ⟨rfl, rfl⟩

lemma sameBooks_requestNext (s : State) (n : ℕ) (t : RevokeTask) (todo all : List Target) :
    SameBooks s (s.requestNext c n t todo all) := by
  unfold State.requestNext
  split
  · exact sameBooks_revokeNext _ _ _ _ _
  · exact ⟨rfl, rfl⟩

lemma sameBooks_revokeFailed (s : State) (n : ℕ) (t : RevokeTask) (rest : List Target)
    (err : Option HalError) (e : HalError) : SameBooks s (s.revokeFailed c n t rest err e) := by
  unfold State.revokeFailed
  split
  · exact sameBooks_revokeNext _ _ _ _ _
  · exact ⟨rfl, rfl⟩

/-- The records are kept and the sessions too, though there may be a new one; or one session is
finished. -/
def Booked (s s' : State) : Prop :=
  (s'.closed = s.closed ∧ ∀ id, (s.sessions.lookup id).isSome → (s'.sessions.lookup id).isSome) ∨
    ∃ id, SameBooks (s.finishSession id) s'

lemma step_booked {ev : Event} (hs : step c s ev = some s') : Booked s s' := by
  have hsame {u : State} (h : SameBooks s u) : Booked s u := .inl ⟨h.1, fun _ hid => h.2 ▸ hid⟩
  have hadded {u : State} {i : SessionId} {e : Entry} (hc : u.closed = s.closed)
      (hu : u.sessions = s.sessions.insert i e) : Booked s u := by
    refine .inl ⟨hc, fun id hid => ?_⟩
    rw [hu, Assoc.lookup_insert_ite]
    split
    · rfl
    · exact hid
  cases step_did hs with
  | handed => exact hsame (sameBooks_requestClose _ _)
  | operate h | closeMoved _ _ _ h =>
    cases h with
    | kept => exact hsame ⟨rfl, rfl⟩
    | buried => exact .inr ⟨_, rfl, rfl⟩
  | begun _ _ _ h =>
    cases h with
    | kept => exact hsame (sameBooks_requestClose _ _)
    | buried => exact .inr ⟨_, sameBooks_requestClose _ _⟩
  | marked =>
    obtain ⟨hc, hs⟩ := sameBooks_requestClose _ _
    exact hadded hc hs
  | committed | attended => exact hadded rfl rfl
  | closeFinish => exact .inr ⟨_, rfl, rfl⟩
  | revokeFinish => exact .inr ⟨_, sameBooks_revokeNext _ _ _ _ _⟩
  | listed => exact hsame ((sameBooks_requestAll _ s).trans (sameBooks_revokeNext _ _ _ _ _))
  | asking => exact hsame (sameBooks_requestNext _ _ _ _ _)
  | asked => exact hsame ((sameBooks_requestClose s _).trans (sameBooks_requestNext _ _ _ _ _))
  | failed | expired => exact hsame (sameBooks_revokeFailed _ _ _ _ _ _)
  | @reaped x =>
    cases x with
    | reservation => exact hsame ⟨rfl, rfl⟩
    | session id => exact .inr ⟨id, rfl, rfl⟩
  | _ => exact hsame ⟨rfl, rfl⟩

/-- A step records exactly the session that it takes out of the map. -/
lemma recorded_step {ev : Event} (hs : step c s ev = some s') (id : SessionId) :
    (s'.closed.lookup id).isSome ↔ (s.closed.lookup id).isSome ∨
      (s.sessions.lookup id).isSome ∧ s'.sessions.lookup id = none := by
  rcases step_booked hs with ⟨hc, hkept⟩ | ⟨i, hc, hs⟩
  · -- no session leaves
    rw [hc]
    refine ⟨.inl, fun h => h.resolve_right fun ⟨hsome, hnone⟩ => ?_⟩
    simpa [hnone] using hkept id hsome
  · rw [hc, hs]
    unfold State.finishSession
    split
    · exact ⟨.inl, fun h => h.resolve_right fun ⟨hsome, hnone⟩ => by simp [hnone] at hsome⟩
    · rename_i e he
      simp only [Assoc.lookup_insert_ite, Assoc.lookup_erase_ite]
      by_cases hid : id = i
      · -- the session that is finished
        subst hid
        simp [he]
      · cases s.sessions.lookup id <;> simp [hid]

lemma run_recorded {ok : State → Event → Prop} (h : Machine.Runs (step c) ok {} l s)
    (id : SessionId) : (s.closed.lookup id).isSome ↔ id ∈ ended c l := by
  induction h with
  | nil => exact iff_of_false nofun nofun
  | snoc h _ hs ih =>
    rw [recorded_step hs, ih]
    simp [ended, h.steps_snoc, hs, AList.lookup_isSome, AList.mem_keys]

/-- There is one record for every session that has ended. -/
lemma run_records {ok : State → Event → Prop} (h : Machine.Runs (step c) ok {} l s) :
    s.closed.entries.length = (ended c l).dedup.length := by
  have hperm : s.closed.keys.Perm (ended c l).dedup :=
    (List.perm_ext_iff_of_nodup s.closed.nodupKeys (List.nodup_dedup _)).mpr fun id => by
      rw [List.mem_dedup, ← run_recorded h, AList.lookup_isSome]
      exact AList.mem_keys.symm
  rw [← hperm.length_eq]
  exact (List.length_map _).symm

end Steps

/-! ### One record after another -/

/-- The `k`-th session. -/
def mark (k : ℕ) : SessionId := ⟨String.ofList (List.replicate k 'x')⟩

lemma mark_inj {j : ℕ} : mark j = mark k ↔ j = k := by
  constructor
  · intro h
    have := congrArg (fun id : SessionId => id.value.toList.length) h
    simpa [mark] using this
  · rintro rfl
    rfl

/-- The session is opened, its worker dies, and an operation finds it dead. -/
def lap (kind : Kind) (k : ℕ) : List Event :=
  ([.openCall (mark k) ⟨"a"⟩ ⟨"r:1"⟩, .enumerated (mark k) (.ok ()),
    .reserve (mark k) ⟨"l"⟩ (.ok ()), .worker (mark k) .opened] : List Event) ++
  (if kind = .camera then [.worker (mark k) .mapped] else [] : List Event) ++
  ([.replied (mark k), .commit (mark k), .worker (mark k) .panicked, .worker (mark k) .done,
    .operate (mark k) ⟨⟨"l"⟩, k + 1, .control⟩ "status"] : List Event)

/-- `k` laps are over. -/
structure Idle (k : ℕ) (s : State) : Prop where
  unlocked : s.locked = none
  free : s.leases.active.lookup ⟨"r:1"⟩ = none
  generation : s.leases.currentGeneration ⟨"r:1"⟩ = k
  opens : ∀ j, k ≤ j → s.opens.lookup (mark j) = none
  closed : ∀ j, k ≤ j → s.closed.lookup (mark j) = none
  records : s.closed.entries.length = k

lemma Idle.next {s s' : State} (h : Idle k s) (hlock : s'.locked = none)
    (hfree : s'.leases.active.lookup ⟨"r:1"⟩ = none)
    (hgen : s'.leases.currentGenerations = s.leases.currentGenerations.insert ⟨"r:1"⟩ (k + 1))
    (hopens : ∃ t, s'.opens = s.opens.insert (mark k) t)
    (hclosed : ∃ x, s'.closed = s.closed.insert (mark k) x) : Idle (k + 1) s' := by
  obtain ⟨t, ht⟩ := hopens
  obtain ⟨x, hx⟩ := hclosed
  have hne : ∀ j, k + 1 ≤ j → mark j ≠ mark k := fun j hj hm => by
    have := mark_inj.mp hm
    omega
  refine ⟨hlock, hfree, ?_, fun j hj => ?_, fun j hj => ?_, ?_⟩
  · rw [LeaseTable.currentGeneration, hgen, AList.lookup_insert]
    rfl
  · rw [ht, AList.lookup_insert_ne (hne j hj)]
    exact h.opens j (Nat.le_of_succ_le hj)
  · rw [hx, AList.lookup_insert_ne (hne j hj)]
    exact h.closed j (Nat.le_of_succ_le hj)
  · rw [hx, Assoc.length_insert, h.closed k le_rfl, h.records]
    rfl

lemma idle_lap {c : Config} {s : State} (h : Idle k s) (hk : k < u64Max) :
    ∃ s', Machine.exec (step c) (fun _ _ => True) s (lap c.kind k) = some s' ∧ Idle (k + 1) s' := by
  have hadd : checkedAdd k 1 = some (k + 1) := if_pos hk
  have hgen : (s.leases.currentGenerations.lookup ⟨"r:1"⟩).getD 0 = k := h.generation
  cases hc : c.kind
  all_goals
    -- the lap is executed symbolically, up to the state it ends in
    simp only [Machine.exec, lap, reduceCtorEq, ↓reduceIte, List.append_nil, List.cons_append,
      List.nil_append, List.foldlM_cons, List.foldlM_nil, Option.bind_eq_bind, Option.pure_def,
      Option.bind_some, step, State.openCall, State.enumerated, State.reserve, State.setOpen,
      State.workerStep, State.replied, State.commit, State.spawn, State.operate,
      sessionWorker_state, State.buries, State.isFinished, State.finishSession, Worker.step,
      Worker.isFinished, LeaseTable.reserveControl, LeaseTable.currentGeneration,
      LeaseTable.commit, LeaseTable.keep, LeaseTable.validate, LeaseTable.release,
      h.opens k le_rfl, h.unlocked, h.free, hadd, hgen, hc, AList.lookup_insert,
      AList.insert_insert, Option.isSome_none, Option.map_some, Option.any_some, Option.getD_some,
      Option.some.injEq, exists_eq_left', ne_eq, not_true_eq_false, decide_false, decide_true,
      Bool.or_self, Bool.and_self, Bool.not_true, Bool.false_and, Bool.false_eq_true, lt_irrefl,
      Except.isOk, Except.toBool]
    exact h.next rfl (AList.lookup_erase _ _) rfl ⟨_, rfl⟩ ⟨_, rfl⟩

/-- Any number of records can pile up. -/
lemma idle_after (c : Config) (n : ℕ) (hn : n ≤ u64Max) :
    ∃ l s, Machine.exec (step c) (fun _ _ => True) {} l = some s ∧ Idle n s := by
  induction n with
  | zero =>
    exact ⟨[], {}, rfl, rfl, AList.lookup_empty _, rfl, fun _ _ => AList.lookup_empty _,
      fun _ _ => AList.lookup_empty _, rfl⟩
  | succ n ih =>
    obtain ⟨l, s, hl, hs⟩ := ih (Nat.le_of_succ_le hn)
    obtain ⟨s', hlap, hs'⟩ := idle_lap (c := c) hs hn
    refine ⟨l ++ lap c.kind n, s', ?_, hs'⟩
    unfold Machine.exec at hl hlap ⊢
    rw [List.foldlM_append, hl]
    exact hlap

end WorkerManager

/-! ### All managers -/

/-- The serial registry and the CAN manager never keep more than 256 records; a USB, GPIO or
camera manager keeps to that exactly as long as no more than 256 different sessions have ended. -/
theorem closed_sessions_bounded (can : CanActor.Config) (serial : Serial.Config)
    (c : WorkerManager.Config) :
    (∀ (l : List CanManager.Event) (s : CanManager.State),
      Machine.Runs (CanManager.step can) (fun _ _ => True) {} l s →
        s.mgr.closed.entries.length ≤ 256) ∧
    (∀ (l : List Serial.Event) (s : Serial.State),
      Machine.Runs (Serial.step serial) (fun _ _ => True) {} l s →
        s.registry.closedSessions.entries.length ≤ 256) ∧
    ∀ (l : List WorkerManager.Event) (s : WorkerManager.State),
      Machine.Runs (WorkerManager.step c) (fun _ _ => True) {} l s →
        (s.closed.entries.length ≤ 256 ↔ (WorkerManager.ended c l).dedup.length ≤ 256) := by
  refine ⟨fun l s h => ?_, fun l s h => ?_, fun l s h => ?_⟩
  · obtain ⟨hl, hb⟩ := CanManager.run_tidy h
    exact hl.length_le.trans hb
  · obtain ⟨hl, hb⟩ := Serial.run_tidy h
    exact hl.length_le.trans hb
  · rw [WorkerManager.run_records h]

open WorkerManager in
theorem closed_sessions_bounded_lap : ∃ s,
    Machine.Runs (step ⟨.gpio, "5s"⟩) (fun _ _ => True) {} (lap .gpio 0) s ∧
      ended ⟨.gpio, "5s"⟩ (lap .gpio 0) = [mark 0] ∧ s.closed.entries.length ≤ 256 := by
  have hexec : ∃ s ∈ Machine.exec (step ⟨.gpio, "5s"⟩) (fun _ _ => True) {} (lap .gpio 0),
      ended ⟨.gpio, "5s"⟩ (lap .gpio 0) = [mark 0] := by decide +kernel
  obtain ⟨s, hs, hended⟩ := hexec
  have h := Machine.runs_of_exec hs
  refine ⟨s, h, hended, ?_⟩
  refine ((closed_sessions_bounded ⟨0, 0, "5s"⟩ ⟨true, "5s"⟩ _).2.2 _ s h).mpr ?_
  rw [hended]
  decide

open WorkerManager in
/-- In each of the three managers, sessions opened and found dead one after another. -/
theorem closed_sessions_pile_up : [Kind.usb, .gpio, .camera].Forall fun k => ∃ l s,
    Machine.Runs (step ⟨k, "5s"⟩) (fun _ _ => True) {} l s ∧ s.closed.entries.length = 257 := by
  refine List.forall_iff_forall_mem.mpr fun k _ => ?_
  obtain ⟨l, s, hl, hs⟩ := idle_after ⟨k, "5s"⟩ 257 (by decide)
  exact ⟨l, s, Machine.runs_of_exec hl, hs.records⟩

end RobotHal
