import RobotHal.CanBackend
import RobotHal.CanRequests

/-!
What the callers of a CAN receive get.

An actor takes frames out of a session's ring to answer a receive. They reach the caller if it
is still waiting when the actor takes them and stays until it has read the answer; a receive
that waits with its session is looked at before it is served, one that comes out of the queue is
not.
-/

namespace RobotHal.CanActor

variable {x : ActorSession} {r : ResourceId}
variable {e : HalError} {y : ActorSession} {m : ℕ}

/-! ### Errors that wait with a session -/

lemma invalidFrame_of_check {v : HalResult Unit} {p : Prop} [Decidable p] {message : String}
    (hv : ∀ e, v = .error e → e.name = "can.frame.invalid")
    (h : (do v; if p then throw (invalidFrame message)) = .error e) :
    e.name = "can.frame.invalid" := by
  rcases v with e | ⟨⟩
  · cases h
    exact hv e rfl
  · simp only [bind, Except.bind] at h
    split at h <;> cases h
    rfl

lemma name_of_validate {x : CanFrame} (h : x.validate = .error e) :
    e.name = "can.frame.invalid" := by
  have hid {id : CanId} (e : HalError) (h : validateId id = .error e) :
      e.name = "can.frame.invalid" := by
    unfold validateId at h
    split at h <;> split at h <;> cases h <;> rfl
  cases x with
  | classicData | classicRemote | fdData => exact invalidFrame_of_check hid h
  | error classes data =>
    simp only [CanFrame.validate] at h
    split at h
    · cases h
      rfl
    · split at h <;> cases h
      rfl

/-- A loss is counted and never kept as an error. -/
def ActorSession.Named (x : ActorSession) : Prop :=
  ∀ e, x.receiveError = some e → e.name ≠ "can.receive.lagged"

lemma named_take (h : x.Named) (m : ℕ) (r : ResourceId) : (takeReceiveResult x m r).1.Named := by
  unfold takeReceiveResult
  split
  · exact h
  split
  · exact nofun
  · split <;> exact h

lemma named_service (h : x.Named) (r : ResourceId) (gone : Bool) (now : ℕ) :
    (x.service r gone now).1.Named := by
  unfold ActorSession.service
  split
  · exact h
  · rename_i p hp
    have htake := named_take (x := { x with pendingReceive := none }) h p.maxFrames r
    dsimp only
    split
    · exact h
    · split
      · rename_i y res ht
        rwa [ht] at htake
      · rename_i y ht
        rw [ht] at htake
        split <;> exact htake

lemma named_receive (h : x.Named) (r : ResourceId) (call m deadline now : ℕ) :
    (x.receive r call m deadline now).1.Named := by
  have htake := named_take h m r
  unfold ActorSession.receive
  split
  · exact h
  · split
    · rename_i y res ht
      rwa [ht] at htake
    · rename_i y ht
      rw [ht] at htake
      split <;> exact htake

lemma named_polled (h : x.Named) (r : ResourceId) (cap : ℕ)
    (res : HalResult (Option ReceivedCanFrame)) : (x.polled r cap res).Named := by
  unfold ActorSession.polled
  split
  · exact h
  · split
    · unfold offer
      split
      · exact h
      · dsimp only
        split <;> exact h
    · rename_i e hv
      intro e' he'
      obtain rfl := Option.some.inj he'
      change e.name ≠ _
      rw [name_of_validate hv]
      decide
  · rename_i e
    unfold receiveFailed
    split
    · exact h
    · rename_i hne
      intro e' he'
      obtain rfl := Option.some.inj he'
      exact hne

lemma named_poll (h : x.Named) (r : ResourceId) (cap : ℕ)
    (res : HalResult (Option ReceivedCanFrame)) (now : ℕ) (gone : Bool) :
    (x.poll r cap res now gone).1.Named := by
  unfold ActorSession.poll
  split
  · exact named_service (named_polled h r cap res) r gone now
  · exact named_polled h r cap res

lemma Desk.step_named {cap : ℕ} {d : Desk} {i : Input} (hd : ∀ x, d.session = some x → x.Named)
    (hy : (d.step cap r i).session = some y) : y.Named := by
  rcases hs : d.session with _ | x
  · cases i <;> simp [Desk.step, hs] at hy
    obtain rfl := hy
    simp [ActorSession.Named]
  · have hx := hd x hs
    cases i <;> simp only [Desk.step, hs, Desk.next, Option.some.injEq, reduceCtorEq] at hy
    all_goals obtain rfl := hy
    · simp [ActorSession.Named]
    · exact named_receive hx _ _ _ _ _
    · exact hx
    · exact named_poll hx _ _ _ _ _
    · exact named_service hx _ _ _

lemma Desk.run_named (cap : ℕ) (r : ResourceId) (l : List Input) :
    ∀ x, (Desk.run cap r l).session = some x → x.Named := by
  induction l using List.reverseRecOn with
  | nil => exact nofun
  | append_singleton l i ih =>
    intro x hx
    unfold Desk.run at hx ih
    rw [List.foldl_append] at hx
    exact Desk.step_named ih hx

/-! ### What a receive takes -/

/-- There is something to be taken out of the session: the count of a loss, or frames. -/
def ActorSession.Ready (x : ActorSession) : Prop :=
  0 < x.dropped ∨ x.receiveError = none ∧ x.received ≠ []

instance (x : ActorSession) : Decidable x.Ready := by
  unfold ActorSession.Ready
  infer_instance

lemma ready_of_bears {res : HalResult (List ReceivedCanFrame)} (hn : x.Named)
    (h : takeReceiveResult x m r = (y, some res)) (hb : Bears res) : x.Ready := by
  unfold takeReceiveResult at h
  split at h
  · rename_i hd
    exact .inl hd
  split at h
  · rename_i e he
    cases h
    exact absurd hb (hn e he)
  · rename_i he
    split at h
    · cases h
    · rename_i hne
      exact .inr ⟨he, by simpa using hne⟩

lemma ready_of_receive {call deadline now : ℕ} {z : Answer} (hn : x.Named)
    (hz : z ∈ (x.receive r call m deadline now).2) (hb : Bears z.result) :
    x.pendingReceive = none ∧ x.Ready := by
  unfold ActorSession.receive at hz
  split at hz
  · obtain rfl := List.mem_singleton.mp hz
    have hname : "runtime.queue.full" ≠ "can.receive.lagged" := by decide
    exact absurd hb hname
  · rename_i hp
    refine ⟨by simpa using hp, ?_⟩
    split at hz
    · rename_i y res ht
      obtain rfl := List.mem_singleton.mp hz
      exact ready_of_bears hn ht hb
    · split at hz
      · obtain rfl := List.mem_singleton.mp hz
        exact absurd rfl hb
      · cases hz

end RobotHal.CanActor

namespace RobotHal.CanManager

open CanActor (Actor ActorEvent ActorSession Answer Bears CanCommand Config Desk Input Load Notice
  OpReply lagCount)

variable {aev : ActorEvent} {a : Actor} {x : Actor × List Notice}

/-! ### Callers that stay -/

/-- The receive that a thread is about to take out of its queue, with its session. -/
def State.nextReceive (s : State) (e : ℕ) : Option (ℕ × ActorSession) :=
  (s.threads.lookup e).bind fun a =>
    match a.stage, a.commands with
    | .managing (_ + 1), .receive call id _ _ :: _ => (a.sessions.lookup id).map (call, ·)
    | _, _ => none

/-- The answer that waits for the caller of a receive to read it. -/
def State.unread (s : State) (n : ℕ) : Option (HalResult (List ReceivedCanFrame)) :=
  match (s.ops.lookup n).map OpTask.pc with
  | some (.awaiting _ _ (.sent (.frames res))) => some res
  | _ => none

/-- A receive that comes out of the queue to take something has a caller, and no caller is dropped
or timed out with something unread. -/
def Attended (s : State) : Event → Prop
  | .actor e (.manage _ _) => ∀ y, y ∈ s.nextReceive e → y.2.pendingReceive = none →
      y.2.Ready → s.flags.closed y.1 = false
  | .opDeadline n | .dropOp n => ∀ res, res ∈ s.unread n → ¬Bears res
  | _ => True

instance (s : State) (ev : Event) : Decidable (Attended s ev) := by
  apply Event.casesOn (motive := fun ev => Decidable (Attended s ev)) ev
  case actor =>
    intro e x
    apply ActorEvent.casesOn (motive := fun x => Decidable (Attended s (.actor e x))) x <;>
      intros <;> dsimp only [Attended] <;> infer_instance
  all_goals intros; dsimp only [Attended]; infer_instance

lemma Attended.leaves {s : State} {ev : Event} {n : ℕ} (h : Attended s ev)
    (hev : ev.leaves = some n) : ∀ res, res ∈ s.unread n → ¬Bears res := by
  cases ev <;> cases hev <;> exact h

/-! ### What reaches a session, and whom it reaches -/

/-- What an event brings to the session `id` of the thread `e`. -/
def State.input (s : State) (e : ℕ) (id : SessionId) (ev : Event) : Option Input :=
  match ev.acts with
  | some (k, x) => if k = e then (s.threads.lookup e).bind fun a => a.input s.flags x id else none
  | none => none

/-- What a run brings to the session `id` of the thread `e`. -/
def inputs (e : ℕ) (id : SessionId) (h : List (State × Event)) : List Input :=
  h.flatMap fun x => (x.1.input e id x.2).toList

lemma inputs_snoc (e : ℕ) (id : SessionId) (h : List (State × Event)) (s : State) (ev : Event) :
    inputs e id (h ++ [(s, ev)]) = inputs e id h ++ (s.input e id ev).toList := by
  simp [inputs]

/-- The caller of the receive has the answer, or has only to read it. -/
def State.Heard (s : State) (id : SessionId) (z : Answer) : Prop :=
  ∃ t, s.ops.lookup z.call = some t ∧ t.session = id ∧ t.request = .receive z.maxFrames ∧
    (t.pc = .returned (.frames z.result) ∨ ∃ r e, t.pc = .awaiting r e (.sent (.frames z.result)))

section Heard

variable {c : Config} {s s' : State} {ev : Event} {id : SessionId} {z : Answer}

lemma hear_of_answered {t : OpTask} {x : OpReply}
    (h : t.pc = .returned x ∨ ∃ r e, t.pc = .awaiting r e (.sent x)) (res : Option OpReply) :
    t.hear res = t := by
  obtain ⟨id, token, q, pc⟩ := t
  rcases h with h | ⟨r, e, h⟩ <;> cases h <;> rfl

lemma State.Heard.step (h : s.Heard id z) (hc : Called s) (hb : Bears z.result)
    (hok : Attended s ev) (hs : Turn c s ev s') : s'.Heard id z := by
  obtain ⟨t, ht, hid, hq, hpc⟩ := h
  have hop := hs.op hc z.call
  rw [ht] at hop
  unfold State.Heard
  generalize s'.ops.lookup z.call = o at hop ⊢
  cases hop with
  | same => exact ⟨t, rfl, hid, hq, hpc⟩
  | @next _ pc _ hnext hread =>
    refine ⟨{ t with pc }, rfl, hid, hq, ?_⟩
    rcases hpc with hpc | ⟨r, e, hpc⟩
    · -- a call that has returned goes nowhere
      rw [hpc] at hnext
      cases hnext
    · -- the answer is read, or the caller leaves it unread
      rcases hread with hread | hleaves
      · exact .inl (hread r e _ hpc)
      · exact absurd hb (hok.leaves hleaves z.result (by simp [State.unread, ht, hpc]))
  | queue _ hpc' =>
    rcases hpc with hpc | ⟨r, e, hpc⟩ <;> rcases hpc' with hpc' | hpc' <;>
      cases hpc.symm.trans hpc'
  | hear =>
    rw [hear_of_answered hpc]
    exact ⟨t, rfl, hid, hq, hpc⟩

/-- What an actor takes out of a session for a caller that is there reaches it. -/
lemma heard_of_answer {e : ℕ} (hcalled : Called s) (hmatched : Matched s) (hblank : a.Blank)
    (hnamed : ∀ y, a.sessions.lookup id = some y → y.Named) (ha : s.threads.lookup e = some a)
    (hx : a.step c s.flags aev = some x) (hok : Attended s (.actor e aev))
    (hz : z ∈ a.answers c s.flags aev id) (hb : Bears z.result) :
    (x.2.foldl State.notice (s.setThread e x.1)).Heard id z := by
  obtain ⟨y, hy, hsource⟩ := CanActor.answer_source hz
  have htold := CanActor.told_of_answer hblank hx hz
  have hpos : 0 < CanActor.told z.call x.2 := told_pos htold rfl
  have hle := CanActor.owed_step hx z.call
  have honce := hcalled.once e a z.call ha
  -- the caller is there, and it asked for this
  have hcaller : s.flags.closed z.call = false ∧ ∃ t, s.ops.lookup z.call = some t ∧
      t.session = id ∧ t.request = .receive z.maxFrames := by
    rcases hsource with ⟨p, hp, hcall, hm, hopen⟩ |
      ⟨now, answer, left, deadline, rest, rfl, hst, hc, hzr⟩
    · refine ⟨hopen hb, ?_⟩
      rw [← hcall, ← hm]
      exact (hmatched e a ha).waiting id y p hy hp
    · obtain ⟨hnone, hready⟩ := CanActor.ready_of_receive (hnamed y hy) hzr hb
      have hnext : s.nextReceive e = some (z.call, y) := by
        simp [State.nextReceive, ha, hst, hc, hy]
      exact ⟨hok (z.call, y) hnext hnone hready,
        (hmatched e a ha).receive (by rw [hc]; exact List.mem_cons_self ..)⟩
  obtain ⟨hopen, t, ht, hid, hq⟩ := hcaller
  obtain ⟨t', ht', hasked⟩ := hcalled.asked e a z.call ha (by omega)
  obtain rfl := Option.mem_unique ht ht'
  rw [State.Heard, ops_notices_of_told_one _ (by omega) htold]
  change ∃ u, (s.ops.lookup z.call).map _ = some u ∧ _
  rw [ht]
  refine ⟨_, rfl, ?_⟩
  obtain ⟨id', token, q, pc⟩ := t
  have hwait : ∃ r, pc = .awaiting r e .waiting := by
    simp only [State.flags, ht, Option.map_some] at hopen
    cases pc with
    | awaiting r e' reply =>
      obtain ⟨rfl, rfl⟩ := hasked
      exact ⟨r, rfl⟩
    | _ => simp at hopen
  obtain ⟨r, rfl⟩ := hwait
  exact ⟨hid, hq, .inr ⟨r, e, rfl⟩⟩

end Heard

/-! ### Runs -/

/-- What a thread has answered on a session has reached its callers. -/
structure Delivered (c : Config) (h : List (State × Event)) (s : State) (e : ℕ) (id : SessionId) :
    Prop where
  late : inputs e id h ≠ [] → e ≤ s.mgr.nextActorEpoch
  blank : ∀ a, s.threads.lookup e = some a → a.Blank
  desk : ∀ a, s.threads.lookup e = some a →
    (Desk.run c.rxCapacity a.resource (inputs e id h)).session = a.sessions.lookup id
  heard : ∀ a, s.threads.lookup e = some a →
    ∀ z ∈ (Desk.run c.rxCapacity a.resource (inputs e id h)).answers, Bears z.result → s.Heard id z

section Delivered

variable {c : Config} {h : List (State × Event)} {s s' : State} {ev : Event} {e : ℕ}
  {id : SessionId}

lemma input_of_acts_ne (hev : ∀ x, ev.acts ≠ some (e, x)) : s.input e id ev = none := by
  unfold State.input
  split
  · rename_i k x hk
    rw [if_neg]
    rintro rfl
    exact hev x hk
  · rfl

lemma Turn.same (hs : Turn c s ev s') (hev : ∀ x, ev.acts ≠ some (e, x)) {a' : Actor}
    (ha' : s'.threads.lookup e = some a') :
    (∃ a, s.threads.lookup e = some a ∧ a'.resource = a.resource ∧ a'.stage = a.stage ∧
      a'.sessions = a.sessions) ∨ (s.mgr.nextActorEpoch < e ∧ a'.sessions = ∅) := by
  cases hs.thread ha' with
  | beside _ ha hb => exact .inl ⟨_, ha, hb.resource, hb.stage, hb.sessions⟩
  | new _ hlt _ hnew => exact .inr ⟨hlt, hnew.sessions⟩
  | queue _ ha => exact .inl ⟨_, ha, rfl, rfl, rfl⟩
  | act hact =>
    subst hact
    exact absurd rfl (hev _)

lemma Delivered.still (hd : Delivered c h s e id) (hcalled : Called s) (hok : Attended s ev)
    (hs : Turn c s ev s') (hev : ∀ x, ev.acts ≠ some (e, x)) :
    Delivered c (h ++ [(s, ev)]) s' e id := by
  have hinputs : inputs e id (h ++ [(s, ev)]) = inputs e id h := by
    rw [inputs_snoc, input_of_acts_ne hev, Option.toList_none, List.append_nil]
  have hnew (hlt : s.mgr.nextActorEpoch < e) : inputs e id h = [] := by
    by_contra hne
    have := hd.late hne
    omega
  constructor
  · intro hne
    rw [hinputs] at hne
    exact (hd.late hne).trans hs.epoch
  · intro a' ha' hst
    rcases hs.same hev ha' with ⟨a, ha, -, hstage, hsess⟩ | ⟨-, hsess⟩
    · rw [hsess]
      exact hd.blank a ha (hstage ▸ hst)
    · rw [hsess]
      exact fun _ => AList.lookup_empty _
  · intro a' ha'
    rw [hinputs]
    rcases hs.same hev ha' with ⟨a, ha, hres, -, hsess⟩ | ⟨hlt, hsess⟩
    · rw [hres, hsess]
      exact hd.desk a ha
    · rw [hnew hlt, hsess]
      rfl
  · intro a' ha' z hz hbears
    rw [hinputs] at hz
    rcases hs.same hev ha' with ⟨a, ha, hres, -, -⟩ | ⟨hlt, -⟩
    · rw [hres] at hz
      exact (hd.heard a ha z hz hbears).step hcalled hbears hok hs
    · rw [hnew hlt] at hz
      cases hz

lemma Delivered.act (hd : Delivered c h s e id) (hcalled : Called s) (hmatched : Matched s)
    (hok : Attended s (.actor e aev)) (ha : s.threads.lookup e = some a)
    (hx : a.step c s.flags aev = some x) :
    Delivered c (h ++ [(s, .actor e aev)]) (x.2.foldl State.notice (s.setThread e x.1)) e id := by
  obtain ⟨hthreads, hmgr⟩ := notices_frame (s.setThread e x.1) x.2
  have hin : s.input e id (.actor e aev) = a.input s.flags aev id := by
    simp [State.input, Event.acts, ha]
  have hinputs : inputs e id (h ++ [(s, .actor e aev)]) =
      inputs e id h ++ (a.input s.flags aev id).toList := by
    rw [inputs_snoc, hin]
  have hthread {b : Actor}
      (hb : (x.2.foldl State.notice (s.setThread e x.1)).threads.lookup e = some b) : b = x.1 := by
    rw [hthreads] at hb
    change (s.threads.insert e x.1).lookup e = some b at hb
    rw [Assoc.lookup_insert_ite, if_pos rfl] at hb
    exact (Option.some.inj hb).symm
  have hres : x.1.resource = a.resource := (CanActor.flow_step hx).resource
  have hdesk := hd.desk a ha
  constructor
  · intro _
    rw [hmgr]
    exact hcalled.bound e a ha
  · intro b hb hst
    obtain rfl := hthread hb
    exact absurd hst (CanActor.stage_ne_opening hx)
  · intro b hb
    obtain rfl := hthread hb
    rw [hinputs, hres, Desk.run_snoc]
    exact (CanActor.desk_step hdesk hx).symm
  · intro b hb z hz hbears
    obtain rfl := hthread hb
    rw [hinputs, hres, Desk.run_snoc] at hz
    by_cases hadd : ∃ filters, a.input s.flags aev id = some (.add filters)
    · -- a new session has not answered anything
      obtain ⟨filters, hadd⟩ := hadd
      rw [hadd] at hz
      cases hz
    · have hno : ∀ filters, a.input s.flags aev id ≠ some (.add filters) :=
        fun filters hf => hadd ⟨filters, hf⟩
      rw [Desk.step?_answers _ _ _ hno, hdesk] at hz
      rcases List.mem_append.mp hz with hz | hz
      · exact (hd.heard a ha z hz hbears).step hcalled hbears hok (.act ha hx)
      · refine heard_of_answer hcalled hmatched (hd.blank a ha) (fun y hy => ?_) ha hx hok hz hbears
        exact Desk.run_named _ _ _ y (hdesk.trans hy)

/-- **One step** with attentive callers keeps the account. -/
theorem Delivered.step (hd : Delivered c h s e id) (hcalled : Called s) (hmatched : Matched s)
    (hok : Attended s ev) (hs : Turn c s ev s') : Delivered c (h ++ [(s, ev)]) s' e id := by
  by_cases hev : ∃ x, ev.acts = some (e, x)
  · obtain ⟨x, hx⟩ := hev
    cases hs with
    | aside hno | turn hno => cases hno.symm.trans hx
    | call | queue => cases hx
    | act ha hstep =>
      cases hx
      exact hd.act hcalled hmatched hok ha hstep
  · exact hd.still hcalled hok hs fun x hx => hev ⟨x, hx⟩

end Delivered

theorem run_delivered {c : Config} {l : List Event} {s : State}
    (h : Machine.Runs (step c) Attended {} l s) (e : ℕ) (id : SessionId) :
    Delivered c (Machine.steps (step c) {} l) s e id := by
  induction h with
  | nil =>
    exact ⟨fun h => absurd rfl h, fun a ha => absurd ha (no_threads e a),
      fun a ha => absurd ha (no_threads e a), fun a ha => absurd ha (no_threads e a)⟩
  | snoc h hok hs ih =>
    rw [h.steps_snoc]
    exact ih.step (run_called h) (run_matched h) hok (step_turn hs)

/-- **Nothing that is received gets lost silently** where callers wait for what they ask for:
every frame that arrived for a session since its admission has reached a caller, is in the
ring, or was lost and is counted, in a report that has reached a caller or in the counter. -/
theorem received_frames_accounted {c : Config} {l : List Event} {s : State}
    (h : Machine.Runs (step c) Attended {} l s) {e : ℕ} {a : Actor} {id : SessionId}
    {x : ActorSession} (ha : s.threads.lookup e = some a) (hx : a.sessions.lookup id = some x) :
    let d := Desk.run c.rxCapacity a.resource (inputs e id (Machine.steps (step c) {} l))
    ∃ (loads : List Load) (lost : List ReceivedCanFrame) (missed : ℕ),
      d.answers.map Answer.result = loads.map (Load.result a.resource) ∧
      d.arrived.Perm (d.answers.flatMap Answer.frames ++ (loads.flatMap Load.lost ++ lost) ++
        x.received) ∧
      x.dropped = lagCount lost missed ∧
      ∀ z ∈ d.answers, Bears z.result → s.Heard id z := by
  intro d
  have hd := run_delivered h e id
  have hsound : d.Sound c.rxCapacity a.resource := Desk.run_sound _ _ _
  obtain ⟨t, ht⟩ := hsound.account x ((hd.desk a ha).trans hx)
  refine ⟨t.loads, t.lost, t.missed, ht.results, ?_, ht.count, hd.heard a ha⟩
  have hperm := t.queue.arrived_perm
  rwa [ht.arrived, ht.taken, ht.dropped, ht.items] at hperm

/-- A frame is in the ring, and a receive in the queue. -/
def receiveQueued : List Event :=
  firstOpened .observe ⟨"sa"⟩ ⟨"a"⟩ ⟨"la"⟩ ++ toCommand ++
    [.actor 1 (.poll (.ok (some (CanActor.dataFrame 1))) 0), .actor 1 (.serve 0),
      .opCall 0 ⟨"sa"⟩ tokenA (.receive 4), .opEnqueue 0 9]

/-- The caller waits for the answer and reads it. -/
def receiveRead : List Event := receiveQueued ++ toCommand ++ [.opAnswered 0]

theorem received_frames_accounted_read : ∃ s,
    Machine.Runs (step ⟨2, 16, "5s"⟩) Attended {} receiveRead s ∧
    ∃ a x, s.threads.lookup 1 = some a ∧ a.sessions.lookup ⟨"sa"⟩ = some x ∧ x.received = [] ∧
      let d := Desk.run 2 a.resource (inputs 1 ⟨"sa"⟩ (Machine.steps (step ⟨2, 16, "5s"⟩) {}
        receiveRead))
      ∀ z ∈ d.answers, Bears z.result → s.Heard ⟨"sa"⟩ z := by
  have hexec : ∃ s ∈ Machine.exec (step ⟨2, 16, "5s"⟩) Attended {} receiveRead,
      ∃ a ∈ s.threads.lookup 1, ∃ x ∈ a.sessions.lookup ⟨"sa"⟩, x.received = [] := by
    decide +kernel
  obtain ⟨s, hs, a, ha, x, hx, hr⟩ := hexec
  have h := Machine.runs_of_exec hs
  obtain ⟨loads, lost, missed, -, -, -, hheard⟩ := received_frames_accounted h ha hx
  exact ⟨s, h, a, x, ha, hx, hr, hheard⟩

/-- The caller's deadline passes while its receive is still queued. -/
def receiveAbandoned : List Event := receiveQueued ++ [.opDeadline 0] ++ toCommand

/-- The frame has left the ring for a caller that is gone, and nothing counts it. -/
theorem abandoned_receive_loses_frame :
    ∃ s ∈ Machine.exec (step ⟨2, 16, "5s"⟩) (fun _ _ => True) {} receiveAbandoned,
    ∃ a ∈ s.threads.lookup 1, ∃ x ∈ a.sessions.lookup ⟨"sa"⟩,
      (Desk.run 2 a.resource (inputs 1 ⟨"sa"⟩ (Machine.steps (step ⟨2, 16, "5s"⟩) {}
        receiveAbandoned))).arrived = [CanActor.dataFrame 1] ∧
      x.received = [] ∧ x.dropped = 0 ∧
      s.ops.entries.map (fun y => y.2.pc) =
        [.returned (.frames (.error (receiveTimeout ⟨"can:0"⟩)))] := by
  decide +kernel

end RobotHal.CanManager
