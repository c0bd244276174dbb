import RobotHal.CanPlaces
import RobotHal.CanRevocation

/-!
Epochs of the CAN actors.

A resource that is opened again after its actor ended gets an actor of a new epoch, while closes
of the old one may still be under way. An entry behind the lock carries the epoch of its actor,
and what is done in the name of one epoch leaves the entries of all others alone.
-/

namespace RobotHal.CanManager

open CanActor (Config)

/-- Whatever carries another epoch than `e` is still there. -/
structure SparesOthers (e : ℕ) (s s' : State) : Prop where
  active : ∀ id x, s.mgr.active.lookup id = some x → x.actorEpoch ≠ e →
    s'.mgr.active.lookup id = some x
  pending : ∀ id p, s.mgr.pending.lookup id = some p → p.actorEpoch ≠ some e →
    s'.mgr.pending.lookup id = some p
  actors : ∀ r k, s.mgr.actors.lookup r = some k → k ≠ e → s'.mgr.actors.lookup r = some k

/-- Nothing that carries the epoch `e` is left, nor any lease of what carried it. -/
structure Cleared (e : ℕ) (s s' : State) : Prop where
  active : ∀ id x, s'.mgr.active.lookup id = some x → x.actorEpoch ≠ e
  pending : ∀ id p, s'.mgr.pending.lookup id = some p → p.actorEpoch ≠ some e
  actors : ∀ r, s'.mgr.actors.lookup r ≠ some e
  released : ∀ id x r, s.mgr.active.lookup id = some x → x.actorEpoch = e →
    s'.mgr.leases.act r id = none
  cancelled : ∀ id p r, s.mgr.pending.lookup id = some p → p.actorEpoch = some e →
    s'.mgr.leases.pend r id = none

section Epochs

variable {s : State} {r : ResourceId} {e : ℕ}

lemma sparesOthers_reconcile (he : s.mgr.actors.lookup r = some e) :
    SparesOthers e s (s.reconcileFinishedActor r) := by
  have hrec := reconciled s r
  have hdead : ∀ k, s.deadActor r = some k → k = e := fun k hk => by
    have := (deadActor_eq_some.mp hk).1
    rw [he] at this
    exact (Option.some.inj this).symm
  constructor
  · intro id x hx hne
    exact (hrec.active id x).mpr ⟨hx, fun hd => hne (hdead _ hd.2)⟩
  · intro id p hp hne
    refine (hrec.pending id p).mpr ⟨hp, ?_⟩
    rintro ⟨k, hk, hpk⟩
    exact hne (hdead k hk ▸ hpk)
  · intro q k hk hne
    exact (hrec.actors q k).mpr ⟨hk, fun hd => hne (hdead k hd.2)⟩

lemma reconcile_of_none (hn : s.mgr.actors.lookup r = none) : s.reconcileFinishedActor r = s := by
  rw [State.reconcileFinishedActor, hn]

/-- A close in flight is of the session it found, so it removes nothing of another epoch. -/
lemma sparesOthers_finishClose (hb : Balanced s) {n : ℕ} {t : CloseTask}
    (ht : s.closes.lookup n = some t) (hpc : t.pc.InFlight) (closeFailed actorFinished : Bool) :
    SparesOthers t.epoch s (s.finishClose t closeFailed actorFinished) := by
  cases hx : s.mgr.active.lookup t.session with
  | none =>
    rw [finishClose_none s hx]
    exact ⟨fun _ _ h _ => h, fun _ _ h _ => h, fun _ _ h _ => h⟩
  | some x =>
    have hf : s.flying n = some ⟨t.session, t.token, t.resource, t.epoch⟩ := by
      simp [State.flying, ht, CloseTask.flight, hpc]
    have hepoch : x.actorEpoch = t.epoch := ((hb.closing n _ hf).2 x hx).2.2
    obtain ⟨events, actors, heq, hactors⟩ := finishClose_eq s hx closeFailed actorFinished
    rw [heq]
    constructor
    · intro id y hy hne
      change (s.mgr.active.erase t.session).lookup id = some y
      rw [Assoc.lookup_erase_ite, if_neg, hy]
      rintro rfl
      rw [hx] at hy
      exact hne (Option.some.inj hy ▸ hepoch)
    · intro id p hp _
      exact hp
    · intro q k hk hne
      change actors.lookup q = some k
      rcases hactors with rfl | ⟨-, hcur, -, rfl⟩
      · exact hk
      · rw [Assoc.lookup_erase_ite, if_neg, hk]
        rintro rfl
        rw [hcur] at hk
        exact hne (Option.some.inj hk).symm

/-- A finished actor that is reconciled leaves nothing behind: all its sessions are sessions of
its resource. -/
lemma cleared_reconcile (hp : Placed s) (hb : Balanced s) (he : s.mgr.actors.lookup r = some e)
    (hfin : s.isFinished e = true) : Cleared e s (s.reconcileFinishedActor r) := by
  have hrec := reconciled s r
  have hb' := hb.reconcile r
  have hdead : s.deadActor r = some e := deadActor_eq_some.mpr ⟨he, hfin⟩
  obtain ⟨a, ha, har⟩ := hp.served r e he
  have hactive : ∀ id x, (s.reconcileFinishedActor r).mgr.active.lookup id = some x →
      x.actorEpoch ≠ e := by
    intro id x hx hxe
    obtain ⟨hx, hne⟩ := (hrec.active id x).mp hx
    obtain ⟨⟨b, hbt, hbr⟩, -⟩ := hp.active id x hx
    rw [hxe, ha] at hbt
    cases hbt
    exact hne ⟨hbr.symm.trans har, hxe ▸ hdead⟩
  have hpending : ∀ id p, (s.reconcileFinishedActor r).mgr.pending.lookup id = some p →
      p.actorEpoch ≠ some e := by
    intro id p hq hpe
    exact ((hrec.pending id p).mp hq).2 ⟨e, hdead, hpe⟩
  refine ⟨hactive, hpending, fun q hq => ?_, fun id x q hx hxe => ?_, fun id p q hq hpe => ?_⟩
  · obtain ⟨hq, hne⟩ := (hrec.actors q e).mp hq
    obtain ⟨b, hbt, hbr⟩ := hp.served q e hq
    rw [ha] at hbt
    cases hbt
    exact hne ⟨hbr.symm.trans har, hdead⟩
  · rw [Option.eq_none_iff_forall_not_mem]
    intro y hy
    obtain ⟨z, hz, -⟩ := hb'.granted q id y hy
    have hzs := ((hrec.active id z).mp hz).1
    rw [hx] at hzs
    exact hactive id z hz (Option.some.inj hzs ▸ hxe)
  · rw [Option.eq_none_iff_forall_not_mem]
    intro y hy
    obtain ⟨z, hz, -⟩ := hb'.reserved q id y hy
    have hzs := ((hrec.pending id z).mp hz).1
    rw [hq] at hzs
    exact hpending id z hz (Option.some.inj hzs ▸ hpe)

end Epochs

/-- **Epochs keep actors apart** in every run: no entry is ahead of the counter, a resource has one
actor, what a close or a reconciliation does in the name of one epoch spares the others, and a
reconciled epoch is gone with all its leases. -/
theorem epochs_keep_apart {c : Config} {ok : State → Event → Prop} {l : List Event} {s : State}
    (h : Machine.Runs (step c) ok {} l s) :
    (∀ id x, s.mgr.active.lookup id = some x → x.actorEpoch ≤ s.mgr.nextActorEpoch) ∧
    (∀ id p e, s.mgr.pending.lookup id = some p → p.actorEpoch = some e →
      e ≤ s.mgr.nextActorEpoch) ∧
    (∀ r e k, ⟨r, e⟩ ∈ s.mgr.actors.entries → ⟨r, k⟩ ∈ s.mgr.actors.entries → e = k) ∧
    (∀ n t result seen closeFailed actorFinished, s.closes.lookup n = some t →
      t.pc = .finishing result seen →
      SparesOthers t.epoch s (s.finishClose t closeFailed actorFinished)) ∧
    (∀ r, (s.mgr.actors.lookup r = none → s.reconcileFinishedActor r = s) ∧
      ∀ e, s.mgr.actors.lookup r = some e →
        SparesOthers e s (s.reconcileFinishedActor r) ∧
        (s.isFinished e = true → Cleared e s (s.reconcileFinishedActor r))) := by
  have hb := run_balanced h
  have hp := run_placed h
  refine ⟨fun id x hx => ?_, fun id p e hq he => ?_, fun r e k he hk => ?_,
    fun n t result seen failed finished ht hpc => ?_,
    fun r =>
      ⟨reconcile_of_none, fun e he => ⟨sparesOthers_reconcile he, cleared_reconcile hp hb he⟩⟩⟩
  · obtain ⟨⟨a, ha, -⟩, -⟩ := hp.active id x hx
    exact (hp.threads _ a ha).bound
  · obtain ⟨⟨a, ha, -⟩, -⟩ := hp.pending id p e hq he
    exact (hp.threads e a ha).bound
  · rw [Assoc.mem_entries_iff] at he hk
    rw [he] at hk
    exact Option.some.inj hk
  · exact sparesOthers_finishClose hb ht (by simp [hpc, ClosePc.InFlight]) failed finished

/-- An actor panics with a session and an open that waits for it, and then it has ended. -/
def panickedActor : List Event :=
  firstOpened .observe ⟨"sa"⟩ ⟨"a"⟩ ⟨"la"⟩ ++ requested .observe ⟨"sb"⟩ ⟨"b"⟩ ++
    [.actor 1 .panicked, .actor 1 .complete]

theorem epochs_keep_apart_panicked : ∃ s,
    Machine.Runs (step ⟨16, 16, "5s"⟩) (fun _ _ => True) {} panickedActor s ∧
      (s.mgr.active.lookup ⟨"sa"⟩).map ActiveSession.actorEpoch = some 1 ∧
      (s.mgr.pending.lookup ⟨"sb"⟩).map PendingSession.actorEpoch = some (some 1) ∧
      Cleared 1 s (s.reconcileFinishedActor ⟨"can:0"⟩) := by
  have hexec : ∃ s ∈ Machine.exec (step ⟨16, 16, "5s"⟩) (fun _ _ => True) {} panickedActor,
      (s.mgr.active.lookup ⟨"sa"⟩).map ActiveSession.actorEpoch = some 1 ∧
      (s.mgr.pending.lookup ⟨"sb"⟩).map PendingSession.actorEpoch = some (some 1) ∧
      s.mgr.actors.lookup ⟨"can:0"⟩ = some 1 ∧ s.isFinished 1 = true := by decide +kernel
  obtain ⟨s, hs, hactive, hpending, hactor, hfin⟩ := hexec
  have h := Machine.runs_of_exec hs
  exact ⟨s, h, hactive, hpending,
    (((epochs_keep_apart h).2.2.2.2 ⟨"can:0"⟩).2 1 hactor).2 hfin⟩

end RobotHal.CanManager
