import RobotHal.SerialLifecycle

/-!
One live native session for each serial resource.

The lease on a resource stands for its native session only if it is released after the
actor's close. The guard of a dropped open releases it at once. That is right as long as the
adapter has returned nothing; dropped between the adapter's return and the registry's answer,
the open leaves an actor behind whose resource is free to be opened again.
-/

namespace RobotHal.Serial

variable {c : Config} {s s' : State} {orderly dies : Prop} {v v' : View}

instance : DecidablePred OpenPc.Arriving := fun pc =>
  match pc with
  | .locking | .opening _ | .cancelling _ | .rejected | .returned _ | .dropped => .isFalse id
  | .finishing _ => .isTrue trivial

instance (s : State) (ev : Event) : Decidable (Orderly s ev) :=
  match ev with
  | .dropOpen id _ =>
    decidable_of_iff (∀ t ∈ s.opens.lookup id, ¬t.pc.Arriving) Iff.rfl
  | .openCall .. | .reserve .. | .adapterReturned .. | .openCancelled .. | .cancelOpen ..
  | .finishOpen .. | .openRejected .. | .guardCancel .. | .closeCall .. | .closeDone ..
  | .dropClose .. | .revokeCall .. | .revokeNext .. | .revokeReturn .. | .dropRevoke ..
  | .request .. | .actorTake .. | .actorReply .. | .actorStop .. | .actorClosed ..
  | .actorFinish .. | .actorDied .. => .isTrue trivial

/-- A native session that is not closed has its entry in the registry. -/
structure View.Anchored (v : View) : Prop where
  actor : ∀ a, v.actor = some a → ¬a.stage.Finished →
    ∃ e, v.entry = some e ∧ e.resource = a.resource
  guard : v.guarded → v.actor = none

namespace View

lemma anchored_of_actor_none (h : v.actor = none) : v.Anchored :=
  ⟨fun a ha => absurd (h.symm.trans ha) (by simp), fun _ => h⟩

lemma Anchored.move (hs : v.Sound) (h : v.Anchored) (m : Move orderly dies v v') (ho : orderly) :
    v'.Anchored := by
  cases m with
  | same => exact h
  | called t ht | advanced t pc ht hpc => exact ⟨h.actor, h.guard⟩
  | reserved t a ht hpc =>
    exact anchored_of_actor_none (hs.fresh (by simp [ht, hpc])).2.1
  | arrived t k ht hpc =>
    obtain ⟨e, he, -⟩ := hs.armed t ht (.inl (by simp [hpc]))
    obtain ⟨t', -, ht', -, hr, -⟩ := hs.entry e he
    obtain rfl := Option.mem_unique ht ht'
    refine ⟨fun a ha _ => ⟨e, he, ?_⟩, fun hg => ?_⟩
    · cases ha
      exact hr
    · obtain ⟨⟨t', ht', hd⟩, -⟩ := hs.guard hg
      obtain rfl := Option.mem_unique ht ht'
      cases hpc.symm.trans hd
  | committed t k e a ht hpc he ha hst =>
    refine ⟨fun a' ha' hf => ?_, h.guard⟩
    obtain ⟨e', he', hr⟩ := h.actor a' ha' hf
    obtain rfl := Option.mem_unique he he'
    exact ⟨_, rfl, hr⟩
  | rejected t k e ht hpc he hst =>
    refine ⟨fun a' ha' hf => ?_, fun hg => by simp [h.guard hg]⟩
    obtain ⟨a, ha, rfl⟩ := Option.map_eq_some_iff.mp ha'
    obtain ⟨e', he', hr⟩ := h.actor a ha hf
    obtain rfl := Option.mem_unique he he'
    exact ⟨_, rfl, hr⟩
  | gaveBack t e e' ht hpc =>
    exact anchored_of_actor_none (by simpa using hs.bare t ht (by simp [hpc]))
  | dropped t ht hpc hd =>
    -- the adapter has returned nothing yet
    exact anchored_of_actor_none (by simpa using hs.bare t ht (hpc.resolve_right (hd ho)))
  | abandoned t ht hpc hd =>
    exact anchored_of_actor_none (hs.bare t ht (hpc.resolve_right (hd ho)))
  | guarded b hg => exact anchored_of_actor_none (by simpa using h.guard hg)
  | worked f g hf hg =>
    refine ⟨fun a' ha' hfin => ?_, fun hgd => by simp [h.guard hgd]⟩
    obtain ⟨a, ha, rfl⟩ := Option.map_eq_some_iff.mp ha'
    obtain ⟨hr, hiff, -⟩ := hg a ha
    obtain ⟨e, he, her⟩ := h.actor a ha fun hfin' => hfin (hiff.mpr hfin')
    exact ⟨f e, by simp [he], by rw [(hf e).1, her, hr]⟩
  | closed a result ha hst =>
    refine ⟨fun a' ha' hf => ?_, fun hg => ?_⟩
    · obtain rfl := Option.some.inj ha'
      exact absurd trivial hf
    · exact absurd ((h.guard (by simpa using hg)).symm.trans ha) (by simp)

end View

theorem run_anchored {l : List Event} (h : Machine.Runs (step c) Orderly {} l s) :
    ∀ j, (s.view j).Sound ∧ (s.view j).Anchored :=
  h.invariant (I := fun s => ∀ j, (s.view j).Sound ∧ (s.view j).Anchored)
    (fun _ => ⟨View.sound_empty, View.anchored_of_actor_none rfl⟩) fun _ _ _ hi ho hst j => by
      have m := step_moves (fun j => (hi j).1) hst j
      exact ⟨(hi j).1.move m, (hi j).2.move (hi j).1 m ho⟩

lemma Actor.not_finished_of_live {a : Actor} (h : a.live = true) : ¬a.stage.Finished := by
  obtain ⟨r, stage, sd, cmds, nat⟩ := a
  cases stage <;> simp_all [live, Stage.Finished]

lemma View.Sound.holds {id : SessionId} {e : SessionEntry} (h : (s.view id).Sound)
    (he : (s.view id).entry = some e) :
    ∃ a, s.registry.leases.active.lookup e.resource = some a ∧ a.sessionId = id := by
  obtain ⟨-, a, -, -, -, hl, -⟩ := h.entry e he
  exact ⟨a, LeaseTable.heldBy_eq_some.mp hl⟩

lemma holds_of_live {id : SessionId} {a : Actor}
    (hs : (s.view id).Sound ∧ (s.view id).Anchored) (ha : s.actors.lookup id = some a)
    (hl : a.live = true) :
    ∃ k, s.registry.leases.active.lookup a.resource = some k ∧ k.sessionId = id := by
  obtain ⟨e, he, hr⟩ := hs.2.actor a ha (Actor.not_finished_of_live hl)
  exact hr ▸ hs.1.holds he

/-- In a run where no open is dropped while its native session arrives, a resource has at most one
live native session, and while there is one no adapter opens the resource. -/
theorem one_live_native_session {l : List Event} (h : Machine.Runs (step c) Orderly {} l s) :
    (∀ i j a b, s.actors.lookup i = some a → s.actors.lookup j = some b → a.live = true →
      b.live = true → a.resource = b.resource → i = j) ∧
    ∀ i t k j a, s.opens.lookup i = some t → t.pc = .opening k → s.actors.lookup j = some a →
      a.live = true → a.resource ≠ t.resource := by
  have hs := run_anchored h
  refine ⟨fun i j a b ha hb hla hlb hr => ?_, fun i t k j a ht hpc ha hla hr => ?_⟩
  · obtain ⟨x, hx, rfl⟩ := holds_of_live (hs i) ha hla
    obtain ⟨y, hy, rfl⟩ := holds_of_live (hs j) hb hlb
    rw [hr, hy] at hx
    cases hx
    rfl
  · have hbare : t.pc.Bare := by simp [hpc]
    obtain ⟨x, hx, hxj⟩ := holds_of_live (hs j) ha hla
    -- the opening session holds the lease, so it would be the live one
    obtain ⟨e, he, -⟩ := (hs i).1.armed t ht (.inl hbare)
    obtain ⟨t', -, ht', -, her, -⟩ := (hs i).1.entry e he
    obtain rfl := Option.mem_unique ht ht'
    obtain ⟨y, hy, hyi⟩ := (hs i).1.holds he
    rw [hr, ← her, hy] at hx
    cases hx
    obtain rfl := hyi.symm.trans hxj
    exact absurd (((hs _).1.bare t ht hbare).symm.trans ha) (by simp)

/-- An open up to the return of the adapter. -/
def arrival (id : SessionId) (o : OwnerId) (fresh : LeaseId) : List Event :=
  [.openCall id o ⟨"tty0"⟩, .reserve id fresh, .adapterReturned id (.ok ())]

/-- A session is open; an open of the same resource is refused, one is dropped before it gets the
lock, and one of another owner is dropped while its adapter is at work. -/
def contended : List Event :=
  arrival ⟨"s1"⟩ ⟨"a"⟩ ⟨"l1"⟩ ++
    [.finishOpen ⟨"s1"⟩, .openCall ⟨"s2"⟩ ⟨"b"⟩ ⟨"tty0"⟩, .reserve ⟨"s2"⟩ ⟨"l2"⟩,
      .openCall ⟨"s3"⟩ ⟨"b"⟩ ⟨"tty0"⟩, .dropOpen ⟨"s3"⟩ true,
      .openCall ⟨"s4"⟩ ⟨"b"⟩ ⟨"tty1"⟩, .reserve ⟨"s4"⟩ ⟨"l4"⟩, .dropOpen ⟨"s4"⟩ false,
      .guardCancel ⟨"s4"⟩]

theorem one_live_native_session_contended : ∃ s a,
    Machine.Runs (step ⟨true, "5s"⟩) Orderly {} contended s ∧
      s.actors.lookup ⟨"s1"⟩ = some a ∧ a.live = true ∧
      ∀ j b, s.actors.lookup j = some b → b.live = true → a.resource = b.resource →
        ⟨"s1"⟩ = j := by
  have hexec : ∃ s ∈ Machine.exec (step ⟨true, "5s"⟩) Orderly {} contended,
      ∃ a ∈ s.actors.lookup ⟨"s1"⟩, a.live = true := by decide +kernel
  obtain ⟨s, hs, a, ha, hl⟩ := hexec
  have h := Machine.runs_of_exec hs
  exact ⟨s, a, h, ha, hl, fun j b hb hlb hr =>
    (one_live_native_session h).1 _ j a b ha hb hl hlb hr⟩

/-- An open is dropped after its adapter returned and before the registry knows: the lease is
released while the actor has the native session, and the next open gets a second one. -/
def twoLive : List Event :=
  arrival ⟨"s1"⟩ ⟨"a"⟩ ⟨"l1"⟩ ++ [.dropOpen ⟨"s1"⟩ true] ++ arrival ⟨"s2"⟩ ⟨"b"⟩ ⟨"l2"⟩

theorem dropped_arrival_leaves_second_session : ∃ s a b,
    Machine.Runs (step ⟨true, "5s"⟩) (fun _ _ => True) {} twoLive s ∧
      s.actors.lookup ⟨"s1"⟩ = some a ∧ s.actors.lookup ⟨"s2"⟩ = some b ∧
      a.live = true ∧ b.live = true ∧ a.resource = b.resource := by
  have hexec : ∃ s ∈ Machine.exec (step ⟨true, "5s"⟩) (fun _ _ => True) {} twoLive,
      ∃ a ∈ s.actors.lookup ⟨"s1"⟩, ∃ b ∈ s.actors.lookup ⟨"s2"⟩,
      a.live = true ∧ b.live = true ∧ a.resource = b.resource := by decide +kernel
  obtain ⟨s, hs, a, ha, b, hb, h⟩ := hexec
  exact ⟨s, a, b, Machine.runs_of_exec hs, ha, hb, h⟩

end RobotHal.Serial
