import RobotHal.CanEvents

/-!
What the CAN manager guarantees in every run, whichever futures are dropped and actors end.
-/

namespace RobotHal.CanManager

open CanActor (Actor ActorEvent Config Notice told)

variable {c : Config} {ok : State → Event → Prop} {l : List Event} {s : State} {id : SessionId}
  {e : ℕ} {a : Actor}

/-- A session has asked for the state of the bus, and its actor comes to the command. -/
def askedState : Option State :=
  Machine.exec (step ⟨16, 16, "5s"⟩) (fun _ _ => True) {}
    (firstOpened .control ⟨"s1"⟩ ⟨"a"⟩ ⟨"l1"⟩ ++
    asked 0 ++ [.actor 1 (.prune (.ok ())), .actor 1 (.clean (.ok ()))])

/-- **A resource has one live actor**, and that is the one in the books. -/
theorem one_live_actor (h : Machine.Runs (step c) ok {} l s) (ha : s.threads.lookup e = some a)
    (hlive : a.isFinished = false) : s.mgr.actors.lookup a.resource = some e ∧
      ∀ k b, s.threads.lookup k = some b → b.resource = a.resource → b.isFinished = false →
        k = e := by
  have hp := run_placed h
  have he := (hp.threads e a ha).current hlive
  refine ⟨he, fun k b hb hr hlive' => ?_⟩
  have hk := (hp.threads k b hb).current hlive'
  rw [hr, he] at hk
  exact (Option.some.inj hk).symm

theorem one_live_actor_asked : ∃ s ∈ askedState, s.mgr.actors.lookup ⟨"can:0"⟩ = some 1 := by
  have hexec : ∃ s ∈ askedState, ∃ a ∈ s.threads.lookup 1,
      a.isFinished = false ∧ a.resource = ⟨"can:0"⟩ := by decide +kernel
  obtain ⟨s, hs, a, ha, hlive, hr⟩ := hexec
  exact ⟨s, hs, hr ▸ (one_live_actor (Machine.runs_of_exec hs) ha hlive).1⟩

/-- **A session has one actor**, which is the one in the books, and is queued there once or is
in its table, but not both. -/
theorem session_has_one_actor (h : Machine.Runs (step c) ok {} l s)
    (ha : s.threads.lookup e = some a) (hin : id ∈ a.admissions ∨ (a.sessions.lookup id).isSome) :
    (∀ k b, s.threads.lookup k = some b →
      id ∈ b.admissions ∨ (b.sessions.lookup id).isSome → k = e) ∧
    (∀ x, s.mgr.active.lookup id = some x → x.actorEpoch = e) ∧
    a.admissions.Nodup ∧ (id ∈ a.admissions → a.sessions.lookup id = none) := by
  have hp := run_placed h
  have hto {k b} (hb : s.threads.lookup k = some b)
      (hin : id ∈ b.admissions ∨ (b.sessions.lookup id).isSome) : s.HandedTo id k := by
    rcases hin with hin | hin
    · obtain ⟨t, ht, hk, -⟩ := (hp.threads k b hb).awaited id hin
      exact ⟨t, ht, hk⟩
    · exact (hp.threads k b hb).homed id hin
  have hone {k} (hk : s.HandedTo id k) : k = e := by
    obtain ⟨t, ht, hte⟩ := hto ha hin
    obtain ⟨u, hu, huk⟩ := hk
    obtain rfl := Option.mem_unique ht hu
    exact Option.mem_unique huk hte
  exact ⟨fun k b hb hin => hone (hto hb hin), fun x hx => hone (hp.active id x hx).2,
    (hp.threads e a ha).distinct, (hp.threads e a ha).outside id⟩

theorem session_has_one_actor_asked : ∃ s ∈ askedState, ∃ x ∈ s.mgr.active.lookup ⟨"s1"⟩,
    x.actorEpoch = 1 := by
  have hexec : ∃ s ∈ askedState, ∃ a ∈ s.threads.lookup 1, (a.sessions.lookup ⟨"s1"⟩).isSome ∧
      (s.mgr.active.lookup ⟨"s1"⟩).isSome := by decide +kernel
  obtain ⟨s, hs, a, ha, hin, hx⟩ := hexec
  obtain ⟨x, hx⟩ := Option.isSome_iff_exists.mp hx
  exact ⟨s, hs, x, hx, (session_has_one_actor (Machine.runs_of_exec hs) ha (.inr hin)).2.1 x hx⟩

/-- **No call is answered twice**: a step of an actor answers a call at most once, then nobody owes
it an answer any more, and if its caller has not stopped waiting, it was waiting for this actor. -/
theorem calls_answered_once {aev : ActorEvent} {x : Actor × List Notice} {n : ℕ}
    (h : Machine.Runs (step c) ok {} l s) (ha : s.threads.lookup e = some a)
    (hx : a.step c s.flags aev = some x) (hn : 0 < told n x.2) : told n x.2 = 1 ∧
    x.1.owed n = 0 ∧ (∀ k b, s.threads.lookup k = some b → k ≠ e → b.owed n = 0) ∧
    ∃ t, s.ops.lookup n = some t ∧ t.pc.Asked e := by
  have hc := run_called h
  have hstep := CanActor.owed_step hx n
  have honce := hc.once e a n ha
  have hpos : 0 < a.owed n := by omega
  refine ⟨by omega, by omega, fun k b hb hk => ?_, hc.asked e a n ha hpos⟩
  by_contra hb0
  exact hk (hc.alone k b e a n hb ha (by omega) hpos)

theorem calls_answered_once_asked : ∃ s ∈ askedState, ∃ a ∈ s.threads.lookup 1,
    ∃ x ∈ a.step ⟨16, 16, "5s"⟩ s.flags (.manage 0 (.ok ⟨.active, none, none⟩)),
      told 0 x.2 = 1 ∧ x.1.owed 0 = 0 := by
  have hexec : ∃ s ∈ askedState, ∃ a ∈ s.threads.lookup 1,
      ∃ x ∈ a.step ⟨16, 16, "5s"⟩ s.flags (.manage 0 (.ok ⟨.active, none, none⟩)),
        0 < told 0 x.2 := by decide +kernel
  obtain ⟨s, hs, a, ha, x, hx, hn⟩ := hexec
  obtain ⟨h₁, h₂, -⟩ := calls_answered_once (Machine.runs_of_exec hs) ha hx hn
  exact ⟨s, hs, a, ha, x, hx, h₁, h₂⟩

/-- **Every lease traces back to its open**, which has returned this very token after the actor in
the books had admitted the session. -/
theorem leases_trace_back {r : ResourceId} {v : LeaseEntry} (h : Machine.Runs (step c) ok {} l s)
    (hv : s.mgr.leases.act r id = some v) : ∃ x t, s.mgr.active.lookup id = some x ∧
      s.opens.lookup id = some t ∧ x.resourceId = r ∧ v = ⟨id, x.ownerId, x.token⟩ ∧
      t.pc = .returned (.ok (id, x.token)) ∧ t.reply = .sent (.ok ()) ∧
      t.assigned = some x.actorEpoch := by
  have hp := run_placed h
  obtain ⟨x, hx, hr, hv⟩ := (run_balanced h).granted r id v hv
  obtain ⟨t, ht, -, hact, hpc⟩ := (run_balanced h).committed id x hx
  obtain ⟨-, u, hu, hto⟩ := hp.active id x hx
  obtain rfl := Option.mem_unique ht hu
  have hreply := (hp.tasks id t ht).admitted (.inr (by rw [hact]; rfl))
  exact ⟨x, t, hx, ht, hr, hv, hpc, hreply, hto⟩

theorem leases_trace_back_asked : ∃ s ∈ askedState, ∃ t ∈ s.opens.lookup ⟨"s1"⟩,
    t.reply = .sent (.ok ()) := by
  have hexec : ∃ s ∈ askedState, (s.mgr.leases.act ⟨"can:0"⟩ ⟨"s1"⟩).isSome := by decide +kernel
  obtain ⟨s, hs, hv⟩ := hexec
  obtain ⟨v, hv⟩ := Option.isSome_iff_exists.mp hv
  obtain ⟨x, t, -, ht, -, -, -, hreply, -⟩ := leases_trace_back (Machine.runs_of_exec hs) hv
  exact ⟨s, hs, t, ht, hreply⟩

end RobotHal.CanManager
