import RobotHal.Teardown

/-!
What one step of a manager with workers can do.

The constructors of `Did` are the steps of the three managers, with the guards that let them
happen. Everything that is proved of whole runs starts from `step_did`.
-/

namespace RobotHal.WorkerManager

variable {id : SessionId} {lease : LeaseToken} {ev : Event}

def ClosePc.Pending : ClosePc → Prop
  | .returned _ | .dropped => False
  | _ => True

instance : DecidablePred ClosePc.Pending := fun pc => by
  cases pc <;> unfold ClosePc.Pending <;> infer_instance

/-- An operation with the right lease finds the session's worker dead. -/
def State.buries (s : State) (id : SessionId) (lease : LeaseToken) (operation : String) : Bool :=
  (s.sessions.lookup id).any fun e =>
    (s.leases.validate e.resource id e.owner lease operation).isOk && s.isFinished id

/-- The revocation whose loop makes the step. -/
def Event.revocation : Event → Option ℕ
  | .revokeSnapshot n _ | .revokeRequested n | .revokeCompleted n | .revokeDeadline n
  | .revokeFinish n => some n
  | _ => none

/-- Where an open goes by itself. -/
inductive Goes (s : State) (id : SessionId) : OpenPc → OpenPc → Prop
  | found : Goes s id .enumerating .locking
  | missing (e : HalError) : Goes s id .enumerating (.returned (.error e))
  | accepted (k : LeaseToken) : Goes s id (.awaiting k) (.committing k)
  | declined {w : Worker} (hw : s.workers.lookup id = some w) (hp : w.reply ≠ .pending)
      (hok : w.reply ≠ .sent (.ok ())) (k : LeaseToken) (e : HalError) :
      Goes s id (.awaiting k) (.releasing e)
  | late (k : LeaseToken) : Goes s id (.awaiting k) (.closing k)

/-- The lock section in front of an operation: a session whose worker is dead is finished. -/
inductive Looked (s : State) (id : SessionId) : State → Prop
  | kept : Looked s id s
  | buried (hf : s.isFinished id = true) : Looked s id (s.finishSession id)

/-- The lease is committed and the session entered. -/
def State.enter (s : State) (id : SessionId) (o : OwnerId) (r : ResourceId) (k : LeaseToken) :
    State :=
  State.setOpen { s with
    leases := (s.leases.commit r id k).1, sessions := s.sessions.insert id ⟨r, o, k, .active⟩ }
      id ⟨o, r, .committing k⟩ (.returned (.ok (id, k)))

inductive Did (c : Config) (s : State) : Event → State → Prop
  | openCall {id : SessionId} {o : OwnerId} {r : ResourceId} (hn : s.opens.lookup id = none) :
      Did c s (.openCall id o r) { s with opens := s.opens.insert id ⟨o, r, .enumerating⟩ }
  | moved {ev : Event} {id : SessionId} {t : OpenTask} {pc : OpenPc}
      (hev : ev.revocation = none) (ht : s.opens.lookup id = some t)
      (h : Goes s id t.pc pc) : Did c s ev (s.setOpen id t pc)
  | refused {id : SessionId} {fresh : LeaseId} {spawned : HalResult Unit} {o : OwnerId}
      {r : ResourceId} {e : HalError} (ht : s.opens.lookup id = some ⟨o, r, .locking⟩)
      (he : (s.leases.reserveControl r id o fresh).2 = .error e) :
      Did c s (.reserve id fresh spawned) (State.setOpen { s with
        leases := (s.leases.reserveControl r id o fresh).1 } id ⟨o, r, .locking⟩
          (.returned (.error e)))
  | reserved {id : SessionId} {fresh : LeaseId} {spawned : HalResult Unit} {o : OwnerId}
      {r : ResourceId} {k : LeaseToken} (ht : s.opens.lookup id = some ⟨o, r, .locking⟩)
      (hk : (s.leases.reserveControl r id o fresh).2 = .ok k) :
      Did c s (.reserve id fresh spawned) (State.setOpen { s with
        leases := (s.leases.reserveControl r id o fresh).1, workers := s.workers.insert id {} } id
          ⟨o, r, .locking⟩ (.awaiting k))
  | unspawned {id : SessionId} {fresh : LeaseId} {spawned : HalResult Unit} {o : OwnerId}
      {r : ResourceId} {k : LeaseToken} {e : HalError}
      (ht : s.opens.lookup id = some ⟨o, r, .locking⟩)
      (hk : (s.leases.reserveControl r id o fresh).2 = .ok k) :
      Did c s (.reserve id fresh spawned) (State.setOpen { s with
        leases := (s.leases.reserveControl r id o fresh).1 } id ⟨o, r, .locking⟩ (.releasing e))
  | handed {ev : Event} {id : SessionId} {t : OpenTask} {k : LeaseToken} {e : HalError}
      {locked : Option SessionId} (hev : ev.revocation = none)
      (ht : s.opens.lookup id = some t) (hh : t.pc.Holds) :
      Did c s ev (((State.requestClose { s with locked } id).spawn
        (.reservation t.resource id k)).setOpen id t (.returned (.error e)))
  | gaveBack {id : SessionId} {o : OwnerId} {r : ResourceId} {e : HalError}
      (ht : s.opens.lookup id = some ⟨o, r, .releasing e⟩) :
      Did c s (.releaseReservation id) (State.setOpen { s with
        leases := (s.leases.release r id).1 } id ⟨o, r, .releasing e⟩ (.returned (.error e)))
  | committed {id : SessionId} {o : OwnerId} {r : ResourceId} {k : LeaseToken}
      (ht : s.opens.lookup id = some ⟨o, r, .committing k⟩) :
      Did c s (.commit id) (s.enter id o r k)
  | attended {id : SessionId} {o : OwnerId} {r : ResourceId} {k : LeaseToken}
      (ht : s.opens.lookup id = some ⟨o, r, .committing k⟩) :
      Did c s (.commit id) ((s.enter id o r k).spawn (.session id))
  | cancelling {id : SessionId} {o : OwnerId} {r : ResourceId} {k : LeaseToken}
      (ht : s.opens.lookup id = some ⟨o, r, .committing k⟩)
      (hno : (s.leases.commit r id k).2 ≠ true) :
      Did c s (.commit id) (State.setOpen { s with locked := some id } id ⟨o, r, .committing k⟩
        (.cancelling k))
  | dropOpen {id : SessionId} {t : OpenTask} {locked : Option SessionId}
      (ht : s.opens.lookup id = some t) (hf : t.pc.InFlight) :
      Did c s (.dropOpen id) (State.setOpen { s with locked } id t .dropped)
  | operate {id : SessionId} {lease : LeaseToken} {operation : String} {u : State}
      (h : Looked s id u) : Did c s (.operate id lease operation) u
  | closeCall {n : ℕ} {id : SessionId} {lease : LeaseToken} (hn : s.closes.lookup n = none) :
      Did c s (.closeCall n id lease) { s with closes := s.closes.insert n ⟨id, lease, .locking⟩ }
  | closeMoved {ev : Event} {n : ℕ} {t : CloseTask} {pc : ClosePc} {u : State}
      (hev : ev.revocation = none) (ht : s.closes.lookup n = some t) (hp : t.pc.Pending)
      (hu : Looked s t.session u)
      (hpc : ∀ res, pc = .finishing res → s.isFinished t.session = true) :
      Did c s ev (u.setClose n t pc)
  | begun {ev : Event} {n : ℕ} {t : CloseTask} {r : ResourceId} {u : State}
      (hev : ev.revocation = none) (ht : s.closes.lookup n = some t) (hp : t.pc.Pending)
      (hu : Looked s t.session u) :
      Did c s ev (u.beginClose n t r)
  | marked {n : ℕ} {t : CloseTask} {e : Entry} (ht : s.closes.lookup n = some t)
      (hp : t.pc.Pending) (hk : c.kind = .usb) (he : s.sessions.lookup t.session = some e) :
      Did c s (.closeLocked n) (State.beginClose { s with
        sessions := s.sessions.insert t.session { e with lifecycle := .closing } } n t e.resource)
  | closeFinish {n : ℕ} {t : CloseTask} {res : HalResult Unit}
      (ht : s.closes.lookup n = some t) (hpc : t.pc = .finishing res) :
      Did c s (.closeFinish n) ((s.finishSession t.session).setClose n t (.returned res))
  | revokeCall {n : ℕ} {o : OwnerId} (hn : s.revokes.lookup n = none) :
      Did c s (.revokeCall n o) { s with revokes := s.revokes.insert n ⟨o, .locking⟩ }
  | listed {n : ℕ} {o : OwnerId} {order : List Target} (hk : c.kind ≠ .camera)
      (ht : s.revokes.lookup n = some ⟨o, .locking⟩) (hperm : order.Perm (s.ownedBy o)) :
      Did c s (.revokeSnapshot n order) ((order.foldl (fun s x => s.requestClose x.1) s).revokeNext
        c n ⟨o, .locking⟩ order none)
  | asking {n : ℕ} {o : OwnerId} {order : List Target} (hk : c.kind = .camera)
      (ht : s.revokes.lookup n = some ⟨o, .locking⟩) (hperm : order.Perm (s.ownedBy o)) :
      Did c s (.revokeSnapshot n order) (s.requestNext c n ⟨o, .locking⟩ order order)
  | asked {n : ℕ} {o : OwnerId} {cur : Target} {todo all : List Target}
      (ht : s.revokes.lookup n = some ⟨o, .requesting (cur :: todo) all⟩) :
      Did c s (.revokeRequested n) ((s.requestClose cur.1).requestNext c n
        ⟨o, .requesting (cur :: todo) all⟩ todo all)
  | completed {n : ℕ} {o : OwnerId} {cur : Target} {rest : List Target} {err : Option HalError}
      (ht : s.revokes.lookup n = some ⟨o, .waiting cur rest err⟩)
      (hc : s.completion cur.1 = some (.ok ())) :
      Did c s (.revokeCompleted n)
        (s.setRevoke n ⟨o, .waiting cur rest err⟩ (.finishing cur rest err))
  | failed {n : ℕ} {o : OwnerId} {cur : Target} {rest : List Target} {err : Option HalError}
      {e e' : HalError} (ht : s.revokes.lookup n = some ⟨o, .waiting cur rest err⟩)
      (hc : s.completion cur.1 = some (.error e)) :
      Did c s (.revokeCompleted n) (s.revokeFailed c n ⟨o, .waiting cur rest err⟩ rest err e')
  | expired {n : ℕ} {o : OwnerId} {cur : Target} {rest : List Target} {err : Option HalError}
      {e : HalError} (ht : s.revokes.lookup n = some ⟨o, .waiting cur rest err⟩) :
      Did c s (.revokeDeadline n) (s.revokeFailed c n ⟨o, .waiting cur rest err⟩ rest err e)
  | revokeFinish {n : ℕ} {o : OwnerId} {cur : Target} {rest : List Target}
      {err : Option HalError} (ht : s.revokes.lookup n = some ⟨o, .finishing cur rest err⟩) :
      Did c s (.revokeFinish n) ((s.finishSession cur.1).revokeNext c n
        ⟨o, .finishing cur rest err⟩ rest err)
  | worker {id : SessionId} {e : WorkerEvent} {w w' : Worker} (hw : s.workers.lookup id = some w)
      (h : w.step c.kind e = some w') :
      Did c s (.worker id e) { s with workers := s.workers.insert id w' }
  | reaped {x : Reaper} (hx : x ∈ s.reapers) (hf : s.isFinished x.worker = true) :
      Did c s (.reap x) { s.reapWith c x with reapers := s.reapers.erase x }

section Reading

variable {c : Config} {s s' : State}

lemma OpenPc.inFlight_of_ne {t : OpenTask} (hr : ∀ o r res, t ≠ ⟨o, r, .returned res⟩)
    (hd : ∀ o r, t ≠ ⟨o, r, .dropped⟩) : t.pc.InFlight := by
  obtain ⟨o, r, pc⟩ := t
  cases pc with
  | returned res => exact absurd rfl (hr o r res)
  | dropped => exact absurd rfl (hd o r)
  | _ => trivial

lemma ClosePc.pending_of_ne {t : CloseTask} (hr : ∀ id k res, t ≠ ⟨id, k, .returned res⟩)
    (hd : ∀ id k, t ≠ ⟨id, k, .dropped⟩) : t.pc.Pending := by
  obtain ⟨id, k, pc⟩ := t
  cases pc with
  | returned res => exact absurd rfl (hr id k res)
  | dropped => exact absurd rfl (hd id k)
  | _ => trivial

lemma commit_of_ne {t : LeaseTable} {r : ResourceId} {k : LeaseToken}
    (h : (t.commit r id k).2 ≠ true) : (t.commit r id k).1 = t := by
  unfold LeaseTable.commit LeaseTable.keep at h ⊢
  split
  · rfl
  · split
    · rfl
    · simp_all

lemma sessionWorker_state (id : SessionId) (lease : LeaseToken) (operation : String) :
    (s.sessionWorker c id lease operation).1 =
      if s.buries id lease operation then s.finishSession id else s := by
  unfold State.sessionWorker State.buries
  split
  · rename_i hn
    rw [hn]
    rfl
  · rename_i e he
    rw [he, Option.any_some]
    split
    · rename_i err hv
      rw [hv]
      rfl
    · rename_i hv
      rw [hv]
      split
      · rename_i hf
        rw [hf]
        rfl
      · rename_i hf
        rw [Bool.not_eq_true] at hf
        rw [hf]
        split <;> rfl

lemma isFinished_of_buries {operation : String} (h : s.buries id lease operation = true) :
    s.isFinished id = true := by
  obtain ⟨e, -, he⟩ := (Option.any_eq_true _ _).mp h
  exact (Bool.and_eq_true_iff.mp he).2

lemma looked (s : State) (id : SessionId) (lease : LeaseToken) (operation : String) :
    Looked s id (s.sessionWorker c id lease operation).1 := by
  rw [sessionWorker_state]
  split
  · exact .buried (isFinished_of_buries ‹_›)
  · exact .kept

lemma did_open (h : step c s ev = some s') (hev : ev matches .openCall .. |
    .enumerated .. | .reserve .. | .replied .. | .openDeadline .. | .openCloseRequested .. |
    .releaseReservation .. | .commit .. | .cancelled .. | .dropOpen ..) : Did c s ev s' := by
  cases ev with
  | openCall id o r =>
    simp only [step, State.openCall] at h
    split at h
    · cases h
      exact .openCall ‹_›
    · cases h
  | enumerated id res =>
    simp only [step, State.enumerated] at h
    split at h
    · rename_i ht
      split at h <;> cases h
      · exact .moved rfl ht .found
      · exact .moved rfl ht (.missing _)
    · cases h
  | reserve id fresh spawned =>
    simp only [step, State.reserve] at h
    split at h
    · rename_i ht _
      split at h <;> cases h
      · exact .refused ht ‹_›
      · exact .reserved ht ‹_›
      · exact .unspawned ht ‹_›
    · cases h
  | replied id =>
    simp only [step, State.replied] at h
    split at h
    · rename_i w ht hw
      split at h
      · cases h
      · cases h
        exact .moved rfl ht (.accepted _)
      all_goals
        rename_i hr
        cases h
        exact .moved rfl ht (.declined hw (by simp [hr]) (by simp [hr]) _ _)
    · cases h
  | openDeadline id =>
    simp only [step, State.openDeadline] at h
    split at h
    · rename_i ht
      split at h
      · cases h
        exact .moved rfl ht (.late _)
      · cases h
        exact .handed rfl ht trivial
    · cases h
  | openCloseRequested id =>
    simp only [step, State.openCloseRequested] at h
    split at h
    · cases h
      exact .handed rfl ‹_› trivial
    · cases h
  | releaseReservation id =>
    simp only [step, State.releaseReservation] at h
    split at h
    · cases h
      exact .gaveBack ‹_›
    · cases h
  | commit id =>
    simp only [step, State.commit] at h
    split at h
    · rename_i ht _
      split at h
      · cases h
        split
        · exact .attended ht
        · exact .committed ht
      · rename_i hno
        rw [commit_of_ne hno] at h
        split at h <;> cases h
        · exact .cancelling ht hno
        · exact .handed rfl ht trivial
    · cases h
  | cancelled id =>
    simp only [step, State.cancelled] at h
    split at h
    · cases h
      exact .handed rfl ‹_› trivial
    · cases h
  | dropOpen id =>
    simp only [step, State.dropOpen] at h
    split at h
    · cases h
    · cases h
    · cases h
    · rename_i hr hd ht
      cases h
      exact .dropOpen ht (OpenPc.inFlight_of_ne hr hd)
  | _ => cases hev

lemma isFinished_of_completion {res : HalResult Unit} (h : s.completion id = some res) :
    s.isFinished id = true := by
  unfold State.completion at h
  split at h
  · rename_i hw
    simp [State.isFinished, hw, Worker.isFinished]
  · cases h

lemma did_closeLocked {n : ℕ} (h : s.closeLocked c n = some s') : Did c s (.closeLocked n) s' := by
  unfold State.closeLocked at h
  split at h
  · rename_i id lease ht _
    dsimp only at h
    split at h
    · rename_i hk
      split at h
      · cases h
        exact .closeMoved rfl ht trivial .kept nofun
      · rename_i e he
        split at h <;> cases h
        · exact .closeMoved rfl ht trivial .kept nofun
        · exact .marked ht trivial hk he
    · rename_i hk
      have hu := looked (c := c) s id lease (c.kind.op "close")
      split at h <;> cases h
      · exact .closeMoved rfl ht trivial hu nofun
      · exact .closeMoved rfl ht trivial hu nofun
      · exact .begun rfl ht trivial hu
  · cases h

lemma did_close (h : step c s ev = some s') (hev : ev matches .operate .. |
    .closeCall .. | .closeLocked .. | .closeRequested .. | .closeCompleted .. |
    .closeDeadline .. | .closeFinish .. | .dropClose ..) : Did c s ev s' := by
  cases ev with
  | operate id lease operation =>
    simp only [step, State.operate] at h
    split at h
    · cases h
      exact .operate (looked ..)
    · cases h
  | closeCall n id lease =>
    simp only [step, State.closeCall] at h
    split at h
    · cases h
      exact .closeCall ‹_›
    · cases h
  | closeLocked n => exact did_closeLocked h
  | closeRequested n =>
    simp only [step, State.closeRequested] at h
    split at h
    · cases h
      exact .begun rfl ‹_› trivial .kept
    · cases h
  | closeCompleted n =>
    simp only [step, State.closeCompleted] at h
    split at h
    · split at h
      · cases h
      · rename_i hc
        cases h
        exact .closeMoved rfl ‹_› trivial .kept fun _ _ => isFinished_of_completion hc
    · cases h
  | closeDeadline n =>
    simp only [step, State.closeDeadline] at h
    split at h
    · cases h
      exact .closeMoved rfl ‹_› trivial .kept nofun
    · cases h
  | closeFinish n =>
    simp only [step, State.closeFinish] at h
    split at h
    · cases h
      exact .closeFinish ‹_› rfl
    · cases h
  | dropClose n =>
    simp only [step, State.dropClose] at h
    split at h
    · cases h
    · cases h
    · cases h
    · rename_i hr hd ht
      cases h
      exact .closeMoved rfl ht (ClosePc.pending_of_ne hr hd) .kept nofun
  | _ => cases hev

theorem step_did (h : step c s ev = some s') : Did c s ev s' := by
  cases ev with
  | revokeCall n o =>
    simp only [step, State.revokeCall] at h
    split at h
    · cases h
      exact .revokeCall ‹_›
    · cases h
  | revokeSnapshot n order =>
    simp only [step, State.revokeSnapshot] at h
    split at h
    · rename_i ht _
      split at h
      · rename_i hperm
        have hperm := List.isPerm_iff.mp hperm
        split at h <;> cases h
        · exact .asking ‹_› ht hperm
        · exact .listed ‹_› ht hperm
      · cases h
    · cases h
  | revokeRequested n =>
    simp only [step, State.revokeRequested] at h
    split at h
    · cases h
      exact .asked ‹_›
    · cases h
  | revokeCompleted n =>
    simp only [step, State.revokeCompleted] at h
    split at h
    · rename_i ht
      split at h
      · cases h
      all_goals cases h
      · exact .completed ht ‹_›
      · exact .failed ht ‹_›
    · cases h
  | revokeDeadline n =>
    simp only [step, State.revokeDeadline] at h
    split at h
    · cases h
      exact .expired ‹_›
    · cases h
  | revokeFinish n =>
    simp only [step, State.revokeFinish] at h
    split at h
    · cases h
      exact .revokeFinish ‹_›
    · cases h
  | worker id e =>
    simp only [step, State.workerStep] at h
    split at h
    · cases h
    · obtain ⟨w, hw, rfl⟩ := Option.map_eq_some_iff.mp h
      exact .worker ‹_› hw
  | reap x =>
    simp only [step, State.reap] at h
    split at h
    · rename_i hx
      cases h
      exact .reaped hx.1 hx.2.1
    · cases h
  | operate | closeCall | closeLocked | closeRequested | closeCompleted | closeDeadline |
      closeFinish | dropClose => exact did_close h rfl
  | _ => exact did_open h rfl

end Reading

end RobotHal.WorkerManager
