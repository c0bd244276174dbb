import RobotHal.CanReconcile

/-!
What one step of the CAN manager can do.

A lock section reconciles first; what it does then is one of the cases of `Locked`. The steps that
neither open nor end anything behind the lock are those of `Plain`. Everything that is proved of
whole runs starts from `step_act`.
-/

namespace RobotHal.CanManager

open CanActor (Actor ActorEvent ActorSessionSpec CanCommand Config Notice OpReply Removal)

variable {id : SessionId} {t : OpenTask} {e n k : ℕ} {expired : Bool}
variable {ev : Event} {fresh : LeaseId} {token : LeaseToken}

/-! ### Where futures are -/

/-- The open has reserved and answers for what it reserved. -/
def OpenPc.Guarded : OpenPc → Prop
  | .reserved | .awaiting _ | .committing _ | .cleaning _ _ | .cleaned _ _ | .unwinding _ _ => True
  | _ => False

/-- The close has been handed to the actor and has not finished. -/
def ClosePc.InFlight : ClosePc → Prop
  | .returned _ | .dropped => False
  | _ => True

instance : DecidablePred ClosePc.InFlight := fun pc => by
  cases pc <;> unfold ClosePc.InFlight <;> infer_instance

/-- The sessions a revocation still has to close, unless it was dropped. -/
def RevokePc.todo : RevokePc → Option (List (SessionId × LeaseToken))
  | .waiting _ todo | .trying _ todo => some todo
  | .closing _ _ rest => some rest
  | .returned _ => some []
  | .dropped => none

/-- Where an operation goes from where it is. -/
inductive OpPc.Next (q : Request) : OpPc → OpPc → Prop
  | reserve (r : ResourceId) (e : ℕ) : Next q (.ready r e) (.reserved r e)
  | refuse (r : ResourceId) (e : ℕ) (err : HalError) :
      Next q (.ready r e) (.returned (q.fail err))
  | giveUp (r : ResourceId) (e : ℕ) (err : HalError) :
      Next q (.reserved r e) (.returned (q.fail err))
  | answer (r : ResourceId) (e : ℕ) (x : OpReply) :
      Next q (.awaiting r e (.sent x)) (.returned x)
  | lose (r : ResourceId) (e : ℕ) :
      Next q (.awaiting r e .lost) (.returned (q.fail (actorUnavailable q.operation r)))
  | expire (r : ResourceId) (e : ℕ) (reply : Oneshot OpReply) (err : HalError)
      (h : q.timeout r = some err) : Next q (.awaiting r e reply) (.returned (q.fail err))
  | drop (r : ResourceId) (e : ℕ) (reply : Oneshot OpReply) :
      Next q (.awaiting r e reply) .dropped

/-- An answer that has come is read. -/
def OpPc.Reads (pc pc' : OpPc) : Prop :=
  ∀ r e x, pc = .awaiting r e (.sent x) → pc' = .returned x

/-- An open goes on by itself. -/
inductive OpenTask.Goes (t : OpenTask) : OpenTask → Prop
  | fail (h : t.pc = .discovering) (e : HalError) : Goes t { t with pc := .returned (.error e) }
  | leave (h : t.pc = .discovering) : Goes t { t with pc := .dropped }
  | accept {e : ℕ} (h : t.pc = .awaiting e) (hr : t.reply = .sent (.ok ())) :
      Goes t { t with pc := .committing e }
  | clean {e : ℕ} (h : t.pc = .awaiting e) (err : HalError) :
      Goes t { t with cancelled := true, pc := .cleaning e err }
  | unwind (h : t.pc.Guarded) (actor : Option ℕ) (err : HalError) {done : Bool}
      (hd : t.done = true → done = true) : Goes t { t with done, pc := .unwinding actor err }

/-- The actor that acts, and what it does. -/
def Event.acts : Event → Option (ℕ × ActorEvent)
  | .actor e ev => some (e, ev)
  | _ => none

/-- The operation whose caller stops waiting. -/
def Event.leaves : Event → Option ℕ
  | .opDeadline n | .dropOp n => some n
  | _ => none

/-- Nothing, or the reconciliation of one resource. -/
def Reconciles (s s₁ : State) : Prop := s₁ = s ∨ ∃ r, s₁ = s.reconcileFinishedActor r

/-! ### Lock sections -/

/-- The open goes to the actor `a'` of the epoch `e`; the actors are `A` then. -/
def State.handOver (s : State) (id : SessionId) (e N : ℕ) (A : Assoc ResourceId ℕ) (a' : Actor) :
    State :=
  State.assigned { s with
    mgr := { s.mgr with actors := A, nextActorEpoch := N }
    threads := s.threads.insert e a' } id e

/-- The actor that takes a session of the resource: the one that is there, or a new one. -/
inductive Recipient (s : State) (r : ResourceId) (spec : ActorSessionSpec) :
    ℕ → ℕ → Assoc ResourceId ℕ → Actor → Prop
  | present {e : ℕ} {a : Actor} (he : s.mgr.actors.lookup r = some e)
      (ha : s.threads.lookup e = some a) (hc : a.connected = true) :
      Recipient s r spec e s.mgr.nextActorEpoch s.mgr.actors
        { a with commands := a.commands ++ [.addSession spec] }
  | started {e : ℕ} (hn : s.mgr.actors.lookup r = none) (he : e = s.mgr.nextActorEpoch + 1) :
      Recipient s r spec e e (s.mgr.actors.insert r e) { resource := r, first := spec }

/-- The open, which its actor has admitted, becomes a session. -/
def State.issue (s : State) (id : SessionId) (t : OpenTask) (p : PendingSession) (fresh : LeaseId)
    (token : LeaseToken) (epoch : ℕ) : State :=
  let session : ActiveSession :=
    { resourceId := t.resource, ownerId := t.owner, token, actorEpoch := epoch }
  let s : State := { s with mgr := { s.mgr with
    pending := s.mgr.pending.erase id
    leases := (s.mgr.leases.commit p.reservation fresh).1
    active := s.mgr.active.insert id session } }
  (s.publish .sessionOpened t.resource id t.owner token).modifyOpen id fun t =>
    { t with activation := some token, done := true, pc := .returned (.ok (id, token)) }

/-- The reservation is still there and becomes a lease. -/
structure Issue (s : State) (id : SessionId) (t : OpenTask) (e : ℕ) (p : PendingSession)
    (fresh : LeaseId) (token : LeaseToken) (epoch : ℕ) : Prop where
  task : s.opens.lookup id = some t
  pc : t.pc = .committing e
  pending : s.mgr.pending.lookup id = some p
  epoch : p.actorEpoch = some epoch
  granted : (s.mgr.leases.commit p.reservation fresh).2 = .ok token

/-- Where an operation begins: it is refused, or has found the actor of the caller's session. -/
def State.Begins (s : State) (id : SessionId) (token : LeaseToken) (q : Request) (pc : OpPc) :
    Prop :=
  (∃ err, pc = .returned (q.fail err)) ∨ ∃ x, s.mgr.active.lookup id = some x ∧
    s.mgr.leases.validate x.resourceId id x.ownerId token q.requiredMode q.operation = .ok () ∧
    x.closing = false ∧ q.check x.resourceId = .ok () ∧ pc = .ready x.resourceId x.actorEpoch

/-- The removal of the session is queued, and it is marked as closing. -/
def State.handClose (s : State) (n : ℕ) (parent : Option ℕ) (id : SessionId) (token : LeaseToken)
    (x : ActiveSession) (a : Actor) : State :=
  let s := s.setThread x.actorEpoch { a with cleanup := a.cleanup ++ [⟨id, false, some n⟩] }
  { s with
    mgr := { s.mgr with active := s.mgr.active.insert id { x with closing := true } }
    closes := s.closes.insert n
      ⟨id, token, x.resourceId, x.actorEpoch, parent, .awaiting .waiting⟩ }

/-- The session is there for its owner to close. -/
structure Handed (s : State) (id : SessionId) (token : LeaseToken) (x : ActiveSession)
    (a : Actor) : Prop where
  active : s.mgr.active.lookup id = some x
  valid : s.mgr.leases.validate x.resourceId id x.ownerId token .observe "can.close" = .ok ()
  unclosed : x.closing = false
  thread : s.threads.lookup x.actorEpoch = some a

/-- What a close answers when it is over in its lock section. -/
inductive Answers (s : State) (id : SessionId) (token : LeaseToken) : HalResult Unit → Prop
  | gone (hx : s.mgr.active.lookup id = none) :
      Answers s id token (closedResult s.mgr id token "can.close")
  | invalid {x : ActiveSession} {e : HalError} (hx : s.mgr.active.lookup id = some x)
      (hv : s.mgr.leases.validate x.resourceId id x.ownerId token .observe "can.close" =
        .error e) : Answers s id token (.error e)
  | closing {x : ActiveSession} (hx : s.mgr.active.lookup id = some x) (hc : x.closing = true) :
      Answers s id token (.error (sessionClosed "can.close" x.resourceId))
  | refused {x : ActiveSession} {y : Removal} {e : HalError}
      (hx : s.mgr.active.lookup id = some x) (hc : x.closing = false)
      (hq : s.tryCleanup x.actorEpoch y = .error e) :
      Answers s id token (.error (e.withResourceId x.resourceId))

/-- What a lock section does to the state it has reconciled. -/
inductive Locked (s : State) : Event → State → Prop
  | refused {id : SessionId} {fresh : LeaseId} {t : OpenTask} {e : HalError}
      (ht : s.opens.lookup id = some t) (hpc : t.pc = .discovering)
      (he : (s.mgr.leases.reserve t.resource id t.owner t.mode fresh).2 = .error e) :
      Locked s (.reserve id fresh) (State.setPc { s with mgr := { s.mgr with
        leases := (s.mgr.leases.reserve t.resource id t.owner t.mode fresh).1 } } id
          (.returned (.error e)))
  | reserved {id : SessionId} {fresh : LeaseId} {t : OpenTask} {v : CanReservation}
      (ht : s.opens.lookup id = some t) (hpc : t.pc = .discovering)
      (hv : (s.mgr.leases.reserve t.resource id t.owner t.mode fresh).2 = .ok v) :
      Locked s (.reserve id fresh) (State.setPc { s with mgr := { s.mgr with
        leases := (s.mgr.leases.reserve t.resource id t.owner t.mode fresh).1
        pending := s.mgr.pending.insert id ⟨v, none⟩ } } id .reserved)
  | unassigned {id : SessionId} {spawned : HalResult Unit} {t : OpenTask} {N : ℕ} {err : HalError}
      (ht : s.opens.lookup id = some t) (hpc : t.pc = .reserved) (hN : s.mgr.nextActorEpoch ≤ N) :
      Locked s (.assign id spawned) (State.setPc { s with mgr := { s.mgr with
        nextActorEpoch := N } } id (.unwinding none err))
  | assigned {id : SessionId} {spawned : HalResult Unit} {t : OpenTask} {e N : ℕ}
      {A : Assoc ResourceId ℕ} {a' : Actor} (ht : s.opens.lookup id = some t)
      (hpc : t.pc = .reserved) (hto : Recipient s t.resource (t.spec id) e N A a') :
      Locked s (.assign id spawned) (s.handOver id e N A a')
  | lapsed {id : SessionId} {fresh : LeaseId} {t : OpenTask} {e : ℕ} {err : HalError}
      (ht : s.opens.lookup id = some t) (hpc : t.pc = .committing e)
      (hn : s.mgr.pending.lookup id = none) :
      Locked s (.commit id fresh) (s.beginCleanup id e err)
  | spoiled {id : SessionId} {fresh : LeaseId} {t : OpenTask} {e : ℕ} {p : PendingSession}
      {err : HalError} (ht : s.opens.lookup id = some t) (hpc : t.pc = .committing e)
      (hp : s.mgr.pending.lookup id = some p)
      (he : (s.mgr.leases.commit p.reservation fresh).2 = .error err) :
      Locked s (.commit id fresh) (State.beginCleanup { s with mgr := { s.mgr with
        pending := s.mgr.pending.erase id
        leases := (s.mgr.leases.commit p.reservation fresh).1 } } id e err)
  | issued {id : SessionId} {fresh : LeaseId} {t : OpenTask} {e epoch : ℕ} {p : PendingSession}
      {token : LeaseToken} (h : Issue s id t e p fresh token epoch) :
      Locked s (.commit id fresh) (s.issue id t p fresh token epoch)
  | called {n : ℕ} {id : SessionId} {token : LeaseToken} {q : Request} {pc : OpPc}
      (hn : s.ops.lookup n = none) (hpc : s.Begins id token q pc) :
      Locked s (.opCall n id token q) { s with ops := s.ops.insert n ⟨id, token, q, pc⟩ }
  | answered {n : ℕ} {id : SessionId} {token : LeaseToken} {res : HalResult Unit}
      (h : Answers s id token res) : Locked s (.closeCall n id token) s
  | handed {n : ℕ} {id : SessionId} {token : LeaseToken} {x : ActiveSession} {a : Actor}
      (hn : s.closes.lookup n = none) (h : Handed s id token x a) :
      Locked s (.closeCall n id token) (s.handClose n none id token x a)
  | revokeAnswered {k m : ℕ} {expired asleep : Bool} {t t' : RevokeTask}
      {cur : SessionId × LeaseToken} {rest : List (SessionId × LeaseToken)}
      {res : HalResult Unit} (hk : s.revokes.lookup k = some t)
      (hpc : t.pc = .trying asleep (cur :: rest)) (h : Answers s cur.1 cur.2 res)
      (ho : t'.owner = t.owner) (htodo : t'.pc.todo = some (cur :: rest) ∨
        t'.pc.todo = some rest ∧ ∀ e, res = .error e → isQueueFull e → expired) :
      Locked s (.revokeClose k m expired) { s with revokes := s.revokes.insert k t' }
  | revokeHanded {k m : ℕ} {expired asleep : Bool} {t : RevokeTask}
      {cur : SessionId × LeaseToken} {rest : List (SessionId × LeaseToken)} {x : ActiveSession}
      {a : Actor} (hk : s.revokes.lookup k = some t) (hpc : t.pc = .trying asleep (cur :: rest))
      (hm : s.closes.lookup m = none) (h : Handed s cur.1 cur.2 x a) :
      Locked s (.revokeClose k m expired)
        ((s.handClose m (some k) cur.1 cur.2 x a).setRevoke k t (.closing m cur rest))

/-! ### The other steps -/

/-- How a round of the removal of the session from the actor of this epoch ends. -/
inductive Removes (s : State) (id : SessionId) (e : ℕ) : State × State.Removing → Prop
  | done : Removes s id e (s.modifyOpen id fun t => { t with done := true }, .over)
  | late : Removes s id e (s, .over)
  | queued {a : Actor} (ha : s.threads.lookup e = some a) :
      Removes s id e (s.setThread e { a with cleanup := a.cleanup ++ [⟨id, true, none⟩] }, .queued)
  | again : Removes s id e (s, .again)

/-- A step that takes nothing out behind the lock and ends nothing. -/
inductive Plain (c : Config) (s : State) : Event → State → Prop
  | call {id : SessionId} {o : OwnerId} {r : ResourceId} {mode : LeaseMode}
      {config : CanOpenConfig} {filters : CanFilterSet} {pc : OpenPc}
      (hn : s.opens.lookup id = none) (hpc : pc = .discovering ∨ ∃ e, pc = .returned (.error e)) :
      Plain c s (.openCall id o r mode config filters) { s with
        opens := s.opens.insert id { owner := o, resource := r, mode, config, filters, pc } }
  | move {ev : Event} {id : SessionId} {t : OpenTask} {f : OpenTask → OpenTask}
      (hev : ev.acts = none) (ht : s.opens.lookup id = some t) (h : t.Goes (f t)) :
      Plain c s ev (s.modifyOpen id f)
  | cleaning {id : SessionId} {expired : Bool} {t : OpenTask} {e : ℕ} {err : HalError} {a : Actor}
      (ht : s.opens.lookup id = some t) (hpc : t.pc = .cleaning e err)
      (ha : s.threads.lookup e = some a) :
      Plain c s (.cleanTry id expired) ((s.setThread e { a with
        cleanup := a.cleanup ++ [⟨id, true, none⟩] }).setPc id (.cleaned e err))
  | rest {ev : Event} (hev : ev.acts = none) : Plain c s ev s
  | remover {ev : Event} {id : SessionId} {e : ℕ} {x : State × State.Removing}
      {removers : Assoc SessionId Remover} (hev : ev.acts = none) (h : Removes s id e x) :
      Plain c s ev { x.1 with removers }
  | op {ev : Event} {n : ℕ} {t : OpTask} {pc : OpPc} (hev : ev.acts = none)
      (ht : s.ops.lookup n = some t) (hpc : t.pc.Next t.request pc)
      (hread : t.pc.Reads pc ∨ ev.leaves = some n) : Plain c s ev (s.setOp n t pc)
  | room {ev : Event} {n e x : ℕ} {t : OpTask} {pc : OpPc} {a : Actor} (hev : ev.acts = none)
      (ht : s.ops.lookup n = some t) (hpc : t.pc.Next t.request pc) (hread : t.pc.Reads pc)
      (ha : s.threads.lookup e = some a) :
      Plain c s ev ((s.setThread e { a with txReserved := x }).setOp n t pc)
  | queue {n deadline e : ℕ} {r : ResourceId} {t : OpTask} {a : Actor}
      (ht : s.ops.lookup n = some t) (hpc : t.pc = .ready r e ∨ t.pc = .reserved r e)
      (ha : s.threads.lookup e = some a) (hc : a.connected = true) :
      Plain c s (.opEnqueue n deadline) ((s.setThread e { a with
        commands := a.commands ++ [t.request.command n t.session deadline] }).setOp n t
          (.awaiting r e .waiting))
  | close {ev : Event} {n : ℕ} {t : CloseTask} {pc : ClosePc} (hev : ev.acts = none)
      (ht : s.closes.lookup n = some t) (hpc : t.pc.InFlight) (hpc' : pc.InFlight) :
      Plain c s ev (s.setClose n t pc)
  | act {e : ℕ} {ev : ActorEvent} {a : Actor} {x : Actor × List Notice}
      (ha : s.threads.lookup e = some a) (hx : a.step c s.flags ev = some x) :
      Plain c s (.actor e ev) (x.2.foldl State.notice (s.setThread e x.1))

/-- What a step does. -/
inductive Act (c : Config) (s : State) : Event → State → Prop
  | lock {ev : Event} {s₁ s' : State} (hrec : Reconciles s s₁) (h : Locked s₁ ev s') :
      Act c s ev s'
  | plain {ev : Event} {s' : State} (h : Plain c s ev s') : Act c s ev s'
  | guard {ev : Event} {id : SessionId} {t : OpenTask} {actor : Option ℕ} {pc : OpenPc}
      (hev : ev.acts = none) (ht : s.opens.lookup id = some t) (hpc : t.pc.Guarded)
      (hout : pc = .dropped ∨ ∃ e, pc = .returned (.error e)) :
      Act c s ev (s.dropGuard id actor pc)
  | finish {n : ℕ} {t : CloseTask} {result : HalResult Unit} {seen failed : Bool}
      (ht : s.closes.lookup n = some t) (hpc : t.pc = .finishing result seen) :
      Act c s (.closeFinish n) ((s.finishClose t failed seen).setClose n t (.returned result))
  | dropClose {n : ℕ} {t : CloseTask} (ht : s.closes.lookup n = some t) :
      Act c s (.dropClose n) (s.setClose n t .dropped)
  | revokeCall {k : ℕ} {o : OwnerId} {opens : List SessionId}
      {todo : List (SessionId × LeaseToken)} {t : RevokeTask}
      (hopens : opens.Perm (s.pendingOf o)) (hlist : todo.Perm (s.activeOf o)) (ho : t.owner = o)
      (htodo : t.pc.todo = some todo) : Act c s (.revokeCall k o opens todo)
        { opens.foldl (fun s id => s.cancelPending id false) s with
          revokes := s.revokes.insert k t }
  | revoke {ev : Event} {k : ℕ} {t t' : RevokeTask} (hev : ev.acts = none)
      (hk : s.revokes.lookup k = some t) (ho : t'.owner = t.owner)
      (htodo : ∀ l' ∈ t'.pc.todo, ∃ l ∈ t.pc.todo, l ⊆ l') :
      Act c s ev { s with revokes := s.revokes.insert k t' }
  | dropRevoke {k m : ℕ} {t : RevokeTask} {cur : SessionId × LeaseToken}
      {rest : List (SessionId × LeaseToken)} {u : CloseTask} (hk : s.revokes.lookup k = some t)
      (hpc : t.pc = .closing m cur rest) (hu : s.closes.lookup m = some u) :
      Act c s (.dropRevoke k) ((s.setClose m u .dropped).setRevoke k t .dropped)

/-! ### Reading a step off its function -/

section Reading

variable {c : Config} {s s' : State}

lemma OpenTask.core_inj {t' : OpenTask} (h : t'.core = t.core) :
    t'.owner = t.owner ∧ t'.resource = t.resource ∧ t'.mode = t.mode ∧ t'.pc = t.pc := by
  simp only [OpenTask.core, OpenTask.mk.injEq] at h
  exact ⟨h.1, h.2.1, h.2.2.1, h.2.2.2.2.2.1⟩

lemma tryCommand_ok {cmd : CanCommand} {operation : String}
    (h : s.tryCommand e cmd operation = .ok s') :
    ∃ a, s.threads.lookup e = some a ∧ a.connected = true ∧
      s' = s.setThread e { a with commands := a.commands ++ [cmd] } := by
  unfold State.tryCommand at h
  split at h
  · cases h
  · rename_i a ha
    unfold Actor.tryCommand at h
    split at h
    · cases h
    rename_i hc
    split at h
    · cases h
    · exact ⟨a, ha, by simpa using hc, (Except.ok.inj h).symm⟩

lemma tryCleanup_ok {x : Removal} (h : s.tryCleanup e x = .ok s') :
    ∃ a, s.threads.lookup e = some a ∧
      s' = s.setThread e { a with cleanup := a.cleanup ++ [x] } := by
  unfold State.tryCleanup at h
  split at h
  · cases h
  · rename_i a ha
    unfold Actor.tryCleanup at h
    split at h
    · cases h
    split at h
    · cases h
    · exact ⟨a, ha, (Except.ok.inj h).symm⟩

lemma reserveTx_ok {a a' : Actor} {frames capacity : ℕ}
    (h : a.reserveTx frames capacity = .ok a') : ∃ x, a' = { a with txReserved := x } := by
  unfold Actor.reserveTx at h
  split at h
  · cases h
  split at h
  · cases h
  · exact ⟨_, (Except.ok.inj h).symm⟩

lemma reconciles_session (s : State) (id : SessionId) : Reconciles s (s.reconcileSession id) := by
  unfold State.reconcileSession
  split
  · exact .inr ⟨_, rfl⟩
  · exact .inl rfl

lemma Reconciles.spared (h : Reconciles s s') : Spared s s' := by
  rcases h with rfl | ⟨r, rfl⟩
  · exact .refl s'
  · exact (reconciled s r).toSpared

lemma modifyOpen_modifyOpen (s : State) (id : SessionId) (f g : OpenTask → OpenTask) :
    (s.modifyOpen id f).modifyOpen id g = s.modifyOpen id (g ∘ f) := by
  unfold State.modifyOpen Assoc.modify
  cases h : s.opens.lookup id with
  | none => simp only [h]
  | some t => simp [AList.lookup_insert, AList.insert_insert]

lemma removes (s : State) (id : SessionId) (e : ℕ) (expired : Bool) :
    Removes s id e (s.reliableActorRemove id e expired) := by
  unfold State.reliableActorRemove
  split
  · exact .done
  split
  · rename_i u hu
    obtain ⟨a, ha, rfl⟩ := tryCleanup_ok hu
    exact .queued ha
  split
  · cases expired
    · exact .again
    · exact .late
  · exact .done

lemma removed_cases (h : s.removed id e expired = some s') : Removes s id e (s', .over) := by
  unfold State.removed at h
  split at h
  · cases h
    exact .done
  split at h
  · cases h
    exact .late
  · cases h

lemma Removes.unwind (err : HalError) (h : Removes s id e (s', .over)) (hev : ev.acts = none)
    (ht : s.opens.lookup id = some t) (hg : t.pc.Guarded) :
    Plain c s ev (s'.setPc id (.unwinding none err)) := by
  cases h with
  | done =>
    rw [State.setPc, modifyOpen_modifyOpen]
    exact .move hev ht (.unwind hg none err fun _ => rfl)
  | late => exact .move hev ht (.unwind hg none err fun h => h)

lemma revokeNext_eq (s : State) (k : ℕ) (t : RevokeTask) (todo : List (SessionId × LeaseToken))
    (e : Option HalError) : ∃ t' : RevokeTask, s.revokeNext k t todo e =
      { s with revokes := s.revokes.insert k t' } ∧ t'.owner = t.owner ∧
      t'.pc.todo = some todo := by
  refine ⟨_, rfl, rfl, ?_⟩
  cases todo <;> rfl

lemma revokeAwait_eq (s : State) (k : ℕ) (t : RevokeTask) (opens : List SessionId)
    (todo : List (SessionId × LeaseToken)) (e : Option HalError) : ∃ t' : RevokeTask,
      s.revokeAwait k t opens todo e = { s with revokes := s.revokes.insert k t' } ∧
      t'.owner = t.owner ∧ t'.pc.todo = some todo := by
  unfold State.revokeAwait
  split
  · exact revokeNext_eq s k t todo e
  · exact ⟨_, rfl, rfl, rfl⟩

/-- What an answer leaves on the list: the session stays if the queue was full and there is
time left. -/
lemma revokeAnswer_eq (s : State) (k : ℕ) (t : RevokeTask) (cur : SessionId × LeaseToken)
    (rest : List (SessionId × LeaseToken)) (res : HalResult Unit) (expired : Bool) :
    ∃ t' : RevokeTask, s.revokeAnswer k t cur rest res expired =
      { s with revokes := s.revokes.insert k t' } ∧ t'.owner = t.owner ∧
      (t'.pc.todo = some (cur :: rest) ∨
        t'.pc.todo = some rest ∧ ∀ e, res = .error e → isQueueFull e → expired) := by
  unfold State.revokeAnswer
  split
  · obtain ⟨t', heq, ho, htodo⟩ := revokeNext_eq s k t rest t.firstError
    exact ⟨t', heq, ho, .inr ⟨htodo, by simp⟩⟩
  split
  · exact ⟨_, rfl, rfl, .inl rfl⟩
  · rename_i e hfull
    obtain ⟨t', heq, ho, htodo⟩ := revokeNext_eq s k t rest (t.firstError.or (some e))
    refine ⟨t', heq, ho, .inr ⟨htodo, fun e' he' hq => ?_⟩⟩
    obtain rfl := Except.error.inj he'
    simpa [hq] using hfull

/-- The lock section of a close answers, or hands the removal to the actor. -/
lemma closeLocked_cases (s : State) (n : ℕ) (parent : Option ℕ) (id : SessionId)
    (token : LeaseToken) :
    (∃ res, s.closeLocked n parent id token = (s.reconcileSession id, some res) ∧
      Answers (s.reconcileSession id) id token res) ∨
    ∃ x a, s.closeLocked n parent id token =
      ((s.reconcileSession id).handClose n parent id token x a, none) ∧
      Handed (s.reconcileSession id) id token x a := by
  unfold State.closeLocked
  dsimp only
  split
  · exact .inl ⟨_, rfl, .gone ‹_›⟩
  rename_i x hx
  split
  · exact .inl ⟨_, rfl, .invalid hx ‹_›⟩
  rename_i hv
  split
  · exact .inl ⟨_, rfl, .closing hx ‹_›⟩
  rename_i hc
  have hc : x.closing = false := by simpa using hc
  split
  · exact .inl ⟨_, rfl, .refused hx hc ‹_›⟩
  · obtain ⟨a, ha, rfl⟩ := tryCleanup_ok ‹_›
    exact .inr ⟨x, a, rfl, hx, hv, hc, ha⟩

end Reading

/-! ### Every step -/

section Steps

variable {c : Config} {s s' : State} {id : SessionId} {t : OpenTask}

lemma act_reserve (ht : s.opens.lookup id = some t) (h : s.reserve id t fresh = some s') :
    Act c s (.reserve id fresh) s' := by
  unfold State.reserve at h
  split at h
  · rename_i hpc
    obtain ⟨u, hu, hc⟩ := (reconciled s t.resource).opens.get ht
    obtain ⟨ho, hr, hm, hupc⟩ := OpenTask.core_inj hc
    refine .lock (.inr ⟨t.resource, rfl⟩) ?_
    generalize s.reconcileFinishedActor t.resource = s₁ at hu h
    simp only [← ho, ← hr, ← hm] at h
    split at h <;> cases h
    · exact .refused hu (hupc.trans hpc) ‹_›
    · exact .reserved hu (hupc.trans hpc) ‹_›
  · cases h

lemma act_assign {spawned : HalResult Unit} (ht : s.opens.lookup id = some t)
    (h : s.assign id t spawned = some s') : Act c s (.assign id spawned) s' := by
  unfold State.assign at h
  split at h
  · rename_i hpc
    obtain ⟨u, hu, hc⟩ := (reconciled s t.resource).opens.get ht
    obtain ⟨-, hr, -, hupc⟩ := OpenTask.core_inj hc
    have hspec : u.core.spec id = t.core.spec id := congrArg (OpenTask.spec · id) hc
    change u.spec id = t.spec id at hspec
    rw [hpc] at hupc
    refine .lock (.inr ⟨t.resource, rfl⟩) ?_
    generalize s.reconcileFinishedActor t.resource = s₁ at hu h
    dsimp only at h
    split at h
    · -- the resource has an actor
      rename_i e he
      split at h <;> cases h
      · exact .unassigned hu hupc le_rfl
      · obtain ⟨a, ha, hconn, rfl⟩ := tryCommand_ok ‹_›
        exact .assigned hu hupc (by rw [hr, hspec]; exact .present he ha hconn)
    · -- an actor is spawned
      rename_i hn
      split at h
      · cases h
        exact .unassigned hu hupc le_rfl
      · rename_i e hadd
        obtain ⟨he, -⟩ := checkedAdd_eq_some.mp hadd
        split at h <;> cases h
        · exact .unassigned hu hupc (by omega)
        · exact .assigned hu hupc (by rw [hr, hspec]; exact .started hn he)
  · cases h

lemma act_commit (ht : s.opens.lookup id = some t) (h : s.commit id t fresh = some s') :
    Act c s (.commit id fresh) s' := by
  unfold State.commit at h
  split at h
  · rename_i e hpc
    obtain ⟨u, hu, hc⟩ := (reconciled s t.resource).opens.get ht
    obtain ⟨ho, hr, -, hupc⟩ := OpenTask.core_inj hc
    rw [hpc] at hupc
    refine .lock (.inr ⟨t.resource, rfl⟩) ?_
    generalize s.reconcileFinishedActor t.resource = s₁ at hu h
    simp only [← ho, ← hr] at h
    split at h
    · cases h
      exact .lapsed hu hupc ‹_›
    · -- the reservation is there
      rename_i p hp
      split at h
      · cases h
        exact .spoiled hu hupc hp ‹_›
      · cases h
      · rename_i token epoch hok hepoch
        cases h
        exact .issued ⟨hu, hupc, hp, hepoch, hok⟩
  · cases h

lemma act_cleanTry (ht : s.opens.lookup id = some t) (h : s.cleanTry id t expired = some s') :
    Plain c s (.cleanTry id expired) s' := by
  unfold State.cleanTry at h
  split at h
  · rename_i e err hpc
    have hr := removes s id e expired
    generalize s.reliableActorRemove id e expired = x at hr h
    obtain ⟨s₁, out⟩ := x
    cases out <;> cases h
    · exact hr.unwind err rfl ht (by rw [hpc]; trivial)
    · cases hr with
      | queued ha => exact .cleaning ht hpc ha
    · cases hr with
      | again => exact .rest rfl
  · cases h

lemma act_dropOpen (ht : s.opens.lookup id = some t) (h : s.dropOpen id t = some s') :
    Act c s (.dropOpen id) s' := by
  unfold State.dropOpen at h
  split at h
  · cases h
    exact .plain (.move rfl ht (.leave ‹_›))
  iterate 3
    · rename_i hpc
      cases h
      exact .guard rfl ht (by rw [hpc]; trivial) (.inl rfl)
  · cases h

lemma act_removerTry (h : s.removerTry id expired = some s') :
    Plain c s (.removerTry id expired) s' := by
  unfold State.removerTry at h
  split at h
  · rename_i e _
    have hr := removes s id e expired
    generalize s.reliableActorRemove id e expired = x at hr h
    obtain ⟨s₁, out⟩ := x
    cases out <;> cases h
    all_goals exact .remover rfl hr
  · cases h

lemma begins (s : State) (id : SessionId) (token : LeaseToken) (q : Request) :
    (s.reconcileSession id).Begins id token q
      (match (s.sessionActor id token q.requiredMode q.operation).2 with
        | .error e => .returned (q.fail e)
        | .ok (r, e) => match q.check r with
          | .error err => .returned (q.fail err)
          | .ok _ => .ready r e) := by
  unfold State.sessionActor
  dsimp only
  split
  · exact .inl ⟨_, rfl⟩
  · rename_i r e hloc
    split
    · exact .inl ⟨_, rfl⟩
    rename_i hcheck
    split at hloc
    · cases hloc
    rename_i x hx
    split at hloc
    · cases hloc
    rename_i hv
    split at hloc
    · cases hloc
    rename_i hc
    obtain ⟨rfl, rfl⟩ := Prod.mk.inj (Except.ok.inj hloc)
    exact .inr ⟨x, hx, hv, by simpa using hc, hcheck, rfl⟩

lemma act_opCall {q : Request} (h : s.opCall n id token q = some s') :
    Act c s (.opCall n id token q) s' := by
  unfold State.opCall at h
  split at h
  · cases h
  · rename_i hn
    cases h
    rw [sessionActor_fst]
    refine .lock (reconciles_session s id) (.called ?_ (begins s id token q))
    rw [(reconcileSession_spared s id).ops, hn]

lemma plain_opReserve (h : s.opReserve c n = some s') : Plain c s (.opReserve n) s' := by
  unfold State.opReserve at h
  split at h
  · rename_i id token frames r e ht
    dsimp only at h
    split at h
    · cases h
    rename_i a ha
    split at h <;> cases h
    · exact .op rfl ht (.refuse r e _) (.inl fun _ _ _ h => nomatch h)
    · obtain ⟨x, rfl⟩ := reserveTx_ok ‹_›
      exact .room rfl ht (.reserve r e) (fun _ _ _ h => nomatch h) ha
  · cases h

lemma plain_opEnqueue {deadline : ℕ} (h : s.opEnqueue n deadline = some s') :
    Plain c s (.opEnqueue n deadline) s' := by
  unfold State.opEnqueue at h
  split at h
  · rename_i id token frames r e ht
    dsimp only at h
    split at h <;> cases h
    · -- the room for the frames is given back
      unfold Assoc.modify
      split
      · exact .op rfl ht (.giveUp r e _) (.inl fun _ _ _ h => nomatch h)
      · exact .room rfl ht (.giveUp r e _) (fun _ _ _ h => nomatch h) ‹_›
    · obtain ⟨a, ha, hconn, rfl⟩ := tryCommand_ok ‹_›
      exact .queue ht (.inr rfl) ha hconn
  · cases h
  · rename_i id token q r e _ ht
    dsimp only at h
    split at h <;> cases h
    · exact .op rfl ht (.refuse r e _) (.inl fun _ _ _ h => nomatch h)
    · obtain ⟨a, ha, hconn, rfl⟩ := tryCommand_ok ‹_›
      exact .queue ht (.inl rfl) ha hconn
  · cases h

lemma plain_opAnswered (h : s.opAnswered n = some s') : Plain c s (.opAnswered n) s' := by
  unfold State.opAnswered at h
  split at h
  · rename_i id token q r e reply ht
    dsimp only at h
    split at h
    · cases h
    · cases h
      refine .op rfl ht (.answer r e _) (.inl fun _ _ _ hpc => ?_)
      cases hpc
      rfl
    · cases h
      exact .op rfl ht (.lose r e) (.inl fun _ _ _ h => nomatch h)
  · cases h

lemma act_closeCall (h : s.closeCall n id token = some s') :
    Act c s (.closeCall n id token) s' := by
  unfold State.closeCall at h
  split at h
  · cases h
  · rename_i hn
    cases h
    refine .lock (reconciles_session s id) ?_
    rcases closeLocked_cases s n none id token with ⟨res, heq, ha⟩ | ⟨x, a, heq, hh⟩ <;> rw [heq]
    · exact .answered ha
    · refine .handed ?_ hh
      rw [(reconcileSession_spared s id).closes, hn]

lemma act_revokeClose {m : ℕ} (h : s.revokeClose k m expired = some s') :
    Act c s (.revokeClose k m expired) s' := by
  unfold State.revokeClose at h
  split at h
  · rename_i o asleep cur rest firstError hk hm
    have hsp := reconcileSession_spared s cur.1
    rw [← hsp.revokes] at hk
    rw [← hsp.closes] at hm
    refine .lock (reconciles_session s cur.1) ?_
    rcases closeLocked_cases s m (some k) cur.1 cur.2 with ⟨res, heq, ha⟩ | ⟨x, a, heq, hh⟩
    all_goals
      rw [heq] at h
      cases h
    · obtain ⟨t', heq', ho, htodo⟩ := revokeAnswer_eq (s.reconcileSession cur.1) k
        ⟨o, .trying asleep (cur :: rest), firstError⟩ cur rest res expired
      rw [heq']
      exact .revokeAnswered hk rfl ha ho htodo
    · exact .revokeHanded hk rfl hm hh
  · cases h

lemma act_revokeCall {o : OwnerId} {opens : List SessionId} {todo : List (SessionId × LeaseToken)}
    (h : s.revokeCall k o opens todo = some s') : Act c s (.revokeCall k o opens todo) s' := by
  unfold State.revokeCall at h
  split at h
  · cases h
  split at h
  · rename_i hperm
    cases h
    obtain ⟨t, heq, ho, htodo⟩ := revokeAwait_eq
      (opens.foldl (fun s id => s.cancelPending id false) s) k ⟨o, .waiting opens todo, none⟩ opens
      todo none
    rw [heq, (foldl_cancelPending_spec s false opens).1.revokes]
    exact .revokeCall (List.isPerm_iff.mp hperm.1) (List.isPerm_iff.mp hperm.2) ho htodo
  · cases h

lemma act_revokeWaited (h : s.revokeWaited k expired = some s') :
    Act c s (.revokeWaited k expired) s' := by
  unfold State.revokeWaited at h
  split at h
  · rename_i o j rest todo firstError hk
    have hgoes (e : Option HalError) : Act c s (.revokeWaited k expired)
        (s.revokeAwait k ⟨o, .waiting (j :: rest) todo, firstError⟩ rest todo e) := by
      obtain ⟨t', heq, ho, htodo⟩ := revokeAwait_eq s k ⟨o, .waiting (j :: rest) todo, firstError⟩
        rest todo e
      rw [heq]
      refine .revoke rfl hk ho fun l' hl' => ⟨todo, rfl, ?_⟩
      rw [htodo] at hl'
      rw [Option.some.inj hl']
      exact List.Subset.refl l'
    dsimp only at h
    split at h
    · cases h
      exact hgoes _
    split at h
    · cases h
      exact hgoes _
    · cases h
  · cases h

lemma act_revokeClosed (h : s.revokeClosed k expired = some s') :
    Act c s (.revokeClosed k expired) s' := by
  unfold State.revokeClosed at h
  split at h
  · rename_i o m cur rest firstError hk
    split at h
    · rename_i res _
      cases h
      obtain ⟨t', heq, ho, htodo⟩ := revokeAnswer_eq s k ⟨o, .closing m cur rest, firstError⟩ cur
        rest res expired
      rw [heq]
      refine .revoke rfl hk ho fun l' hl' => ⟨rest, rfl, ?_⟩
      rcases htodo with htodo | ⟨htodo, -⟩
      all_goals
        rw [htodo] at hl'
        obtain rfl := Option.some.inj hl'
      · exact List.subset_cons_self cur rest
      · exact List.Subset.refl rest
    · cases h
  · cases h

lemma act_dropRevoke (h : s.dropRevoke k = some s') : Act c s (.dropRevoke k) s' := by
  unfold State.dropRevoke at h
  split at h
  · rename_i t hk
    split at h
    iterate 2
      · cases h
        exact .revoke rfl hk rfl nofun
    · rename_i m cur rest hpc
      split at h
      · rename_i u hu
        split at h
        · cases h
          exact .dropRevoke hk hpc hu
        · cases h
      · cases h
    · cases h
  · cases h

/-- **What a step can do.** -/
theorem step_act (h : step c s ev = some s') : Act c s ev s' := by
  cases ev with
  | openCall =>
    simp only [step, State.openCall] at h
    split at h
    · cases h
    · rename_i hn
      cases h
      refine .plain (.call hn ?_)
      split
      · exact .inr ⟨_, rfl⟩
      · exact .inl rfl
  | discoveryFailed id e =>
    obtain ⟨t, ht, h⟩ := Option.bind_eq_some_iff.mp h
    unfold State.discoveryFailed at h
    split at h
    · cases h
      exact .plain (.move rfl ht (.fail ‹_› e))
    · cases h
  | reserve =>
    obtain ⟨t, ht, h⟩ := Option.bind_eq_some_iff.mp h
    exact act_reserve ht h
  | assign =>
    obtain ⟨t, ht, h⟩ := Option.bind_eq_some_iff.mp h
    exact act_assign ht h
  | admitted =>
    obtain ⟨t, ht, h⟩ := Option.bind_eq_some_iff.mp h
    unfold State.admitted at h
    split at h
    · cases h
      exact .plain (.move rfl ht (.accept ‹_› ‹_›))
    · cases h
      exact .plain (.move rfl ht (.clean ‹_› _))
    · rename_i hpc _
      cases h
      exact .plain (.move rfl ht (.unwind (by rw [hpc]; trivial) _ _ fun h => h))
    · cases h
  | openDeadline =>
    obtain ⟨t, ht, h⟩ := Option.bind_eq_some_iff.mp h
    unfold State.openDeadline at h
    split at h
    · cases h
      exact .plain (.move rfl ht (.clean ‹_› _))
    · cases h
  | openCancelled =>
    obtain ⟨t, ht, h⟩ := Option.bind_eq_some_iff.mp h
    unfold State.openCancelled at h
    split at h
    · cases h
      exact .plain (.move rfl ht (.clean ‹_› _))
    · cases h
  | commit =>
    obtain ⟨t, ht, h⟩ := Option.bind_eq_some_iff.mp h
    exact act_commit ht h
  | cleanTry =>
    obtain ⟨t, ht, h⟩ := Option.bind_eq_some_iff.mp h
    exact .plain (act_cleanTry ht h)
  | cleanDone =>
    obtain ⟨t, ht, h⟩ := Option.bind_eq_some_iff.mp h
    unfold State.cleanDone at h
    split at h
    · rename_i hpc
      obtain ⟨u, hu, rfl⟩ := Option.map_eq_some_iff.mp h
      exact .plain ((removed_cases hu).unwind _ rfl ht (by rw [hpc]; trivial))
    · cases h
  | unwind =>
    obtain ⟨t, ht, h⟩ := Option.bind_eq_some_iff.mp h
    unfold State.unwind at h
    split at h
    · rename_i hpc
      cases h
      exact .guard rfl ht (by rw [hpc]; trivial) (.inr ⟨_, rfl⟩)
    · cases h
  | dropOpen =>
    obtain ⟨t, ht, h⟩ := Option.bind_eq_some_iff.mp h
    exact act_dropOpen ht h
  | removerTry => exact .plain (act_removerTry h)
  | removerDone =>
    simp only [step, State.removerDone] at h
    split at h
    · obtain ⟨u, hu, rfl⟩ := Option.map_eq_some_iff.mp h
      exact .plain (.remover rfl (removed_cases hu))
    · cases h
  | opCall => exact act_opCall h
  | opReserve => exact .plain (plain_opReserve h)
  | opEnqueue => exact .plain (plain_opEnqueue h)
  | opAnswered => exact .plain (plain_opAnswered h)
  | opDeadline =>
    simp only [step, State.opDeadline] at h
    split at h
    · rename_i id token q r e reply ht
      obtain ⟨err, herr, rfl⟩ := Option.map_eq_some_iff.mp h
      exact .plain (.op rfl ht (.expire r e reply err herr) (.inr rfl))
    · cases h
  | dropOp =>
    simp only [step, State.dropOp] at h
    split at h
    · rename_i id token q r e reply ht
      cases h
      exact .plain (.op rfl ht (.drop r e reply) (.inr rfl))
    · cases h
  | closeCall => exact act_closeCall h
  | closeReplied =>
    simp only [step, State.closeReplied] at h
    split at h
    · rename_i t ht
      split at h
      · rename_i hpc
        cases h
        refine .plain (.close rfl ht (by rw [hpc]; trivial) ?_)
        split <;> trivial
      · rename_i hpc
        cases h
        exact .plain (.close rfl ht (by rw [hpc]; trivial) trivial)
      · cases h
    · cases h
  | closeDeadline | closeObserve =>
    simp only [step, State.closeDeadline, State.closeObserve] at h
    split at h
    · rename_i t ht
      split at h
      · rename_i hpc
        cases h
        exact .plain (.close rfl ht (by rw [hpc]; trivial) trivial)
      · cases h
    · cases h
  | closeLingered =>
    simp only [step, State.closeLingered] at h
    split at h
    · rename_i t ht
      split at h
      · rename_i hpc
        split at h
        · cases h
          exact .plain (.close rfl ht (by rw [hpc]; trivial) trivial)
        · cases h
      · cases h
    · cases h
  | closeFinish =>
    simp only [step, State.closeFinish] at h
    split at h
    · rename_i t ht
      split at h
      · cases h
        exact .finish ht ‹_›
      · cases h
    · cases h
  | dropClose =>
    simp only [step, State.dropClose] at h
    split at h
    · rename_i t ht
      split at h
      · cases h
        exact .dropClose ht
      · cases h
    · cases h
  | revokeCall => exact act_revokeCall h
  | revokeWaited => exact act_revokeWaited h
  | revokeClose => exact act_revokeClose h
  | revokeClosed => exact act_revokeClosed h
  | dropRevoke => exact act_dropRevoke h
  | actor =>
    simp only [step, State.actorStep] at h
    split at h
    · cases h
    · rename_i a ha
      obtain ⟨x, hx, rfl⟩ := Option.map_eq_some_iff.mp h
      exact .plain (.act ha hx)

end Steps

end RobotHal.CanManager
