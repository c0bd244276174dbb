import RobotHal.CanOps
import RobotHal.CanReceiveOrder

/-!
What an actor holds is what the operations asked for.

The command in a queue, the receive that waits with a session and the batch that is being sent
each belong to the operation they name, with its session and its arguments.
-/

namespace RobotHal.CanActor

variable {c : Config} {a : Actor} {f : Flags} {e : ActorEvent} {x : Actor × List Notice}
  {id : SessionId}
variable {y : ActorSession} {r : ResourceId} {now call m deadline cap : ℕ}
  {p : PendingReceive} {z : Answer}

/-! ### Where the receives that wait come from -/

lemma service_pending {gone : Bool} (h : (y.service r gone now).1.pendingReceive = some p) :
    y.pendingReceive = some p := by
  unfold ActorSession.service at h
  rcases hp : y.pendingReceive with _ | q
  · simp [hp] at h
  · rcases gone with _ | _
    · have htake := takeReceiveResult_pending { y with pendingReceive := none } q.maxFrames r
      rcases ht : takeReceiveResult { y with pendingReceive := none } q.maxFrames r with
        ⟨z, _ | res⟩
      · rw [ht] at htake
        simp only [hp, ht, Bool.false_eq_true, if_false] at h
        split at h
        · cases htake.symm.trans h
        · exact h
      · rw [ht] at htake
        simp only [hp, ht, Bool.false_eq_true, if_false] at h
        cases htake.symm.trans h
    · simp [hp] at h

lemma receive_pending (h : (y.receive r call m deadline now).1.pendingReceive = some p) :
    y.pendingReceive = some p ∨ p = ⟨call, m, deadline⟩ := by
  unfold ActorSession.receive at h
  split at h
  · exact .inl h
  · have htake := takeReceiveResult_pending y m r
    rcases ht : takeReceiveResult y m r with ⟨z, _ | res⟩
    · rw [ht] at h htake
      dsimp only at h
      split at h
      · exact .inl (htake.symm.trans h)
      · exact .inr (Option.some.inj h).symm
    · rw [ht] at h htake
      exact .inl (htake.symm.trans h)

lemma polled_pending (y : ActorSession) (r : ResourceId) (cap : ℕ)
    (res : HalResult (Option ReceivedCanFrame)) :
    (y.polled r cap res).pendingReceive = y.pendingReceive := by
  unfold ActorSession.polled
  split
  · rfl
  · split
    · exact offer_pendingReceive ..
    · rfl
  · exact receiveFailed_pending ..

lemma poll_pending {res : HalResult (Option ReceivedCanFrame)} {gone : Bool}
    (h : (y.poll r cap res now gone).1.pendingReceive = some p) : y.pendingReceive = some p := by
  rw [← polled_pending y r cap res]
  unfold ActorSession.poll at h
  split at h
  · exact service_pending h
  · exact h

lemma Desk.step?_pending {d : Desk} {o : Option Input} (hy : (d.step? cap r o).session = some y)
    (hp : y.pendingReceive = some p) :
    (∃ y₀, d.session = some y₀ ∧ y₀.pendingReceive = some p) ∨
      ∃ now, o = some (.receive p.call p.maxFrames p.deadline now) := by
  rcases o with _ | i
  · exact .inl ⟨y, hy, hp⟩
  rcases hs : d.session with _ | y₀
  · cases i <;> simp [Desk.step?, Desk.step, hs] at hy
    obtain rfl := hy
    cases hp
  · cases i with
    | add filters =>
      simp [Desk.step?, Desk.step] at hy
      obtain rfl := hy
      cases hp
    | remove => simp [Desk.step?, Desk.step, hs] at hy
    | receive call m deadline now =>
      simp [Desk.step?, Desk.step, hs, Desk.next] at hy
      obtain rfl := hy
      rcases receive_pending hp with h | rfl
      · exact .inl ⟨y₀, rfl, h⟩
      · exact .inr ⟨now, rfl⟩
    | filters filters =>
      simp [Desk.step?, Desk.step, hs, Desk.next] at hy
      obtain rfl := hy
      exact .inl ⟨y₀, rfl, hp⟩
    | poll res now gone =>
      simp [Desk.step?, Desk.step, hs, Desk.next] at hy
      obtain rfl := hy
      exact .inl ⟨y₀, rfl, poll_pending hp⟩
    | serve now gone =>
      simp [Desk.step?, Desk.step, hs, Desk.next] at hy
      obtain rfl := hy
      exact .inl ⟨y₀, rfl, service_pending hp⟩

/-- What a poll or a serve says of the caller that waits. -/
def Input.gone : Input → Option Bool
  | .poll _ _ gone | .serve _ gone => some gone
  | _ => none

lemma command_of_receive (h : a.input f e id = some (.receive call m deadline now)) :
    ∃ answer left rest, e = .manage now answer ∧ a.stage = .managing (left + 1) ∧
      a.commands = .receive call id m deadline :: rest := by
  unfold Actor.input at h
  split at h
  · split at h <;> cases h
  · split at h <;> cases h
  · split at h
    · split at h <;> cases h
    · cases h
  · rename_i now' answer left hst
    split at h
    · rename_i left cmd rest hc
      cases cmd with
      | addSession | replaceFilters =>
        simp only [CanCommand.input] at h
        split at h <;> cases h
      | receive call' id' m' deadline' =>
        simp only [CanCommand.input] at h
        split at h
        · -- a receive of this session
          rename_i hid
          subst hid
          cases h
          exact ⟨answer, left, rest, rfl, hst, hc⟩
        · cases h
      | sendBatch => cases h
      | busStatus => cases h
    · cases h
  · cases h
  · cases h
  · cases h

lemma gone_of_input {i : Input} (h : a.input f e id = some i) (hi : i.gone = some false) :
    a.gone f id = false := by
  unfold Actor.input at h
  split at h
  · split at h <;> cases h <;> cases hi
  · split at h <;> cases h
    cases hi
  · split at h
    · split at h <;> cases h
      cases hi
    · cases h
  · rename_i hst
    split at h
    · rename_i cmd rest hc
      cases cmd with
      | sendBatch | busStatus => cases h
      | addSession | receive | replaceFilters =>
        simp only [CanCommand.input] at h
        split at h <;> cases h
        cases hi
    · cases h
  · cases h
    exact Option.some.inj hi
  · cases h
    exact Option.some.inj hi
  · cases h

lemma pending_step (h : a.step c f e = some x) (hy : x.1.sessions.lookup id = some y)
    (hp : y.pendingReceive = some p) :
    (∃ y₀, a.sessions.lookup id = some y₀ ∧ y₀.pendingReceive = some p) ∨
      .receive p.call id p.maxFrames p.deadline ∈ a.commands := by
  have hdesk := desk_step (d := { session := a.sessions.lookup id }) rfl h
  rw [hdesk] at hy
  rcases Desk.step?_pending hy hp with hold | ⟨now, ho⟩
  · exact .inl hold
  · obtain ⟨answer, left, rest, -, -, hc⟩ := command_of_receive ho
    rw [hc]
    exact .inr (List.mem_cons_self ..)

/-! ### Whom an answer is for -/

lemma service_source {gone : Bool} (hz : z ∈ (y.service r gone now).2) :
    gone = false ∧ ∃ p, y.pendingReceive = some p ∧ p.call = z.call ∧
      p.maxFrames = z.maxFrames := by
  unfold ActorSession.service at hz
  rcases hp : y.pendingReceive with _ | q
  · simp [hp] at hz
  · rcases gone with _ | _
    · refine ⟨rfl, q, rfl, ?_⟩
      rcases ht : takeReceiveResult { y with pendingReceive := none } q.maxFrames r with
        ⟨y', _ | res⟩
      · simp only [hp, ht, Bool.false_eq_true, if_false] at hz
        split at hz
        · obtain rfl := List.mem_singleton.mp hz
          exact ⟨rfl, rfl⟩
        · cases hz
      · simp only [hp, ht, Bool.false_eq_true, if_false] at hz
        obtain rfl := List.mem_singleton.mp hz
        exact ⟨rfl, rfl⟩
    · simp [hp] at hz

lemma receive_source (hz : z ∈ (y.receive r call m deadline now).2) :
    z.call = call ∧ z.maxFrames = m := by
  unfold ActorSession.receive at hz
  split at hz
  · obtain rfl := List.mem_singleton.mp hz
    exact ⟨rfl, rfl⟩
  · rcases ht : takeReceiveResult y m r with ⟨y', _ | res⟩
    · rw [ht] at hz
      dsimp only at hz
      split at hz
      · obtain rfl := List.mem_singleton.mp hz
        exact ⟨rfl, rfl⟩
      · cases hz
    · rw [ht] at hz
      obtain rfl := List.mem_singleton.mp hz
      exact ⟨rfl, rfl⟩

lemma poll_source {res : HalResult (Option ReceivedCanFrame)} {gone : Bool}
    (hz : z ∈ (y.poll r cap res now gone).2) :
    gone = false ∧ ∃ p, y.pendingReceive = some p ∧ p.call = z.call ∧
      p.maxFrames = z.maxFrames := by
  unfold ActorSession.poll at hz
  split at hz
  · rw [← polled_pending y r cap res]
    exact service_source hz
  · cases hz

/-- What an answer carries out of the session: frames, or the count of a loss. -/
def Bears : HalResult (List ReceivedCanFrame) → Prop
  | .ok fs => fs ≠ []
  | .error e => e.name = "can.receive.lagged"

instance (res : HalResult (List ReceivedCanFrame)) : Decidable (Bears res) := by
  cases res <;> unfold Bears <;> infer_instance

/-- An answer is for the receive that waits with the session, or for the one the queue has just
brought. -/
lemma answer_source (hz : z ∈ a.answers c f e id) :
    ∃ y, a.sessions.lookup id = some y ∧
      ((∃ p, y.pendingReceive = some p ∧ p.call = z.call ∧ p.maxFrames = z.maxFrames ∧
          (Bears z.result → f.closed z.call = false)) ∨
        ∃ now answer left deadline rest, e = .manage now answer ∧ a.stage = .managing (left + 1) ∧
          a.commands = .receive z.call id z.maxFrames deadline :: rest ∧
          z ∈ (y.receive a.resource z.call z.maxFrames deadline now).2) := by
  have hclosed {y : ActorSession} {p : PendingReceive} (hy : a.sessions.lookup id = some y)
      (hp : y.pendingReceive = some p) (hgone : a.gone f id = false) : f.closed p.call = false := by
    simpa [Actor.gone, hy, hp] using hgone
  unfold Actor.answers at hz
  rcases ho : a.input f e id with _ | i
  · rw [ho] at hz
    cases hz
  rw [ho] at hz
  rcases hy : a.sessions.lookup id with _ | y
  · cases i <;> simp [Desk.step?, Desk.step, hy] at hz
  refine ⟨y, rfl, ?_⟩
  cases i with
  | add filters => simp [Desk.step?, Desk.step] at hz
  | remove =>
    simp only [Desk.step?, Desk.step, hy, List.nil_append, ActorSession.turnAway] at hz
    split at hz
    · cases hz
    · rename_i p hp
      obtain rfl := List.mem_singleton.mp hz
      refine .inl ⟨p, hp, rfl, rfl, fun hb => ?_⟩
      have hname : "runtime.session.closed" ≠ "can.receive.lagged" := by decide
      exact absurd hb hname
  | receive call m deadline now =>
    obtain ⟨answer, left, rest, he, hst, hc⟩ := command_of_receive ho
    simp only [Desk.step?, Desk.step, hy, Desk.next, List.nil_append] at hz
    obtain ⟨hcall, hm⟩ := receive_source hz
    refine .inr ⟨now, answer, left, deadline, rest, he, hst, ?_, ?_⟩
    · rw [hcall, hm]
      exact hc
    · rw [hcall, hm]
      exact hz
  | filters filters => simp [Desk.step?, Desk.step, hy, Desk.next] at hz
  | poll res now gone =>
    simp only [Desk.step?, Desk.step, hy, Desk.next, List.nil_append] at hz
    obtain ⟨hgone, p, hp, hcall, hm⟩ := poll_source hz
    exact .inl
      ⟨p, hp, hcall, hm, fun _ => hcall ▸ hclosed hy hp (gone_of_input ho (congrArg some hgone))⟩
  | serve now gone =>
    simp only [Desk.step?, Desk.step, hy, Desk.next, List.nil_append] at hz
    obtain ⟨hgone, p, hp, hcall, hm⟩ := service_source hz
    exact .inl
      ⟨p, hp, hcall, hm, fun _ => hcall ▸ hclosed hy hp (gone_of_input ho (congrArg some hgone))⟩

/-! ### The batch that is being sent -/

lemma sending_step (h : a.step c f e = some x) {n count committed left : ℕ} {rest : List CanFrame}
    (hx : x.1.stage = .sending n count rest committed left) :
    (∃ y k, e = .frame (.ok ()) ∧ a.stage = .sending n count (y :: rest) k left ∧
        committed = k + 1 ∧ rest ≠ []) ∨
      ∃ id, .sendBatch n id rest ∈ a.commands ∧ count = rest.length ∧ committed = 0 ∧
        rest ≠ [] := by
  cases step_does h with
  | pruned =>
    unfold prune at hx
    dsimp only at hx
    split at hx
    · cases hx
    · split at hx <;> cases hx
  | removed =>
    unfold removeSession at hx
    dsimp only at hx
    split at hx
    · cases hx
    · split at hx <;> cases hx
  | @executed now answer left' cmd cmds hst hc =>
    have hdone := CanActor.executed { a with commands := cmds, stage := .managing left' } f now
      answer left' cmd
    rcases hdone.stage with hs | ⟨k, id, frames, rfl, -, hne, hs⟩ <;> cases hs.symm.trans hx
    rw [hc]
    exact .inr ⟨id, List.mem_cons_self .., rfl, rfl, hne⟩
  | managed _ _ hnext => rcases hnext with rfl | rfl <;> cases hx
  | @passed _ _ committed' _ y _ hst hne =>
    simp only [Stage.sending.injEq] at hx
    obtain ⟨rfl, rfl, rfl, rfl, rfl⟩ := hx
    exact .inl ⟨y, committed', rfl, hst, rfl, hne⟩
  | _ => cases hx

end RobotHal.CanActor

namespace RobotHal.CanManager

open CanActor (Actor ActorEvent CanCommand Config Notice OpReply)

variable {c : Config} {s : State}

/-! ### Operations keep their requests -/

/-- The operation is still about the same session and asks for the same. -/
structure OpTask.Alike (t t' : OpTask) : Prop where
  session : t'.session = t.session
  request : t'.request = t.request

lemma OpTask.Alike.refl (t : OpTask) : t.Alike t := ⟨rfl, rfl⟩

lemma OpTask.alike_hear (t : OpTask) (res : Option OpReply) : t.Alike (t.hear res) := by
  unfold OpTask.hear
  split <;> exact ⟨rfl, rfl⟩

lemma Turn.alike {s' : State} {ev : Event} (h : Turn c s ev s') (hc : Called s) {n : ℕ} {t : OpTask}
    (ht : s.ops.lookup n = some t) : ∃ t', s'.ops.lookup n = some t' ∧ t.Alike t' := by
  have hop := h.op hc n
  rw [ht] at hop
  generalize s'.ops.lookup n = o at hop ⊢
  cases hop with
  | same => exact ⟨t, rfl, .refl t⟩
  | next | queue => exact ⟨_, rfl, rfl, rfl⟩
  | hear => exact ⟨_, rfl, t.alike_hear _⟩

/-- Operations stay, and stay alike. -/
def Kept (s s' : State) : Prop :=
  ∀ n t, s.ops.lookup n = some t → ∃ t', s'.ops.lookup n = some t' ∧ t.Alike t'

lemma Kept.request {s' : State} {n : ℕ} {t t' : OpTask} {q : Request} (h : Kept s s')
    (ht : s.ops.lookup n = some t) (ht' : s'.ops.lookup n = some t') (hq : t'.request = q) :
    t.request = q := by
  obtain ⟨u, hu, halike⟩ := h n t ht
  obtain rfl := Option.mem_unique hu ht'
  exact halike.request.symm.trans hq

/-! ### What the actors hold -/

/-- The command is what an operation asks for. -/
def State.Asks (s : State) (cmd : CanCommand) (n : ℕ) : Prop :=
  ∃ t deadline, s.ops.lookup n = some t ∧ cmd = t.request.command n t.session deadline

/-- What an actor holds is what the operations asked for. -/
structure Holds (s : State) (a : Actor) : Prop where
  queued : ∀ cmd n, cmd ∈ a.commands → cmd.call = some n → s.Asks cmd n
  waiting : ∀ id x p, a.sessions.lookup id = some x → x.pendingReceive = some p →
    ∃ t, s.ops.lookup p.call = some t ∧ t.session = id ∧ t.request = .receive p.maxFrames
  sending : ∀ n count rest committed left, a.stage = .sending n count rest committed left →
    ∃ t frames, s.ops.lookup n = some t ∧ t.request = .sendBatch frames ∧ count = frames.length ∧
      rest = frames.drop committed ∧ rest ≠ []

section Holds

variable {c : Config} {s s' : State} {a : Actor}

lemma Holds.later (h : Holds s a) (hkept : Kept s s') : Holds s' a := by
  constructor
  · intro cmd n hmem hcall
    obtain ⟨t, deadline, ht, rfl⟩ := h.queued cmd n hmem hcall
    obtain ⟨t', ht', halike⟩ := hkept n t ht
    refine ⟨t', deadline, ht', ?_⟩
    rw [halike.session, halike.request]
  · intro id x p hx hp
    obtain ⟨t, ht, hid, hq⟩ := h.waiting id x p hx hp
    obtain ⟨t', ht', halike⟩ := hkept _ t ht
    exact ⟨t', ht', halike.session.trans hid, halike.request.trans hq⟩
  · intro n count rest committed left hst
    obtain ⟨t, frames, ht, hq, hrest⟩ := h.sending n count rest committed left hst
    obtain ⟨t', ht', halike⟩ := hkept n t ht
    exact ⟨t', frames, ht', halike.request.trans hq, hrest⟩

lemma Holds.beside {a' : Actor} (h : Holds s a) (hb : Beside a a') : Holds s a' := by
  obtain ⟨l, hl, hcall⟩ := hb.commands
  refine ⟨fun cmd n hmem hn => ?_, ?_, ?_⟩
  · rw [hl] at hmem
    rcases List.mem_append.mp hmem with hmem | hmem
    · exact h.queued cmd n hmem hn
    · rw [hcall cmd hmem] at hn
      cases hn
  · rw [hb.sessions]
    exact h.waiting
  · rw [hb.stage]
    exact h.sending

lemma Untouched.holds (h : Untouched a) : Holds s a := by
  refine ⟨fun cmd n hmem hn => ?_, fun id x p hx => ?_, fun n count rest committed left hst => ?_⟩
  · rw [h.commands cmd hmem] at hn
    cases hn
  · rw [h.sessions, AList.lookup_empty] at hx
    cases hx
  · rw [h.stage] at hst
    cases hst

lemma Holds.enqueue (h : Holds s a) {cmd : CanCommand} {n : ℕ} (hcmd : cmd.call = some n)
    (hasks : s.Asks cmd n) : Holds s { a with commands := a.commands ++ [cmd] } := by
  refine ⟨fun cmd' m hmem hm => ?_, h.waiting, h.sending⟩
  rcases List.mem_append.mp hmem with hmem | hmem
  · exact h.queued cmd' m hmem hm
  · obtain rfl := List.mem_singleton.mp hmem
    obtain rfl := Option.mem_unique hcmd hm
    exact hasks

lemma Holds.receive (h : Holds s a) {call m deadline : ℕ} {id : SessionId}
    (hmem : .receive call id m deadline ∈ a.commands) :
    ∃ t, s.ops.lookup call = some t ∧ t.session = id ∧ t.request = .receive m := by
  obtain ⟨⟨id', token, q, pc⟩, deadline', ht, hcmd⟩ := h.queued _ call hmem rfl
  refine ⟨_, ht, ?_⟩
  cases q <;> cases hcmd
  exact ⟨rfl, rfl⟩

lemma Holds.batch (h : Holds s a) {call : ℕ} {id : SessionId} {frames : List CanFrame}
    (hmem : .sendBatch call id frames ∈ a.commands) :
    ∃ t, s.ops.lookup call = some t ∧ t.session = id ∧ t.request = .sendBatch frames := by
  obtain ⟨⟨id', token, q, pc⟩, deadline', ht, hcmd⟩ := h.queued _ call hmem rfl
  refine ⟨_, ht, ?_⟩
  cases q <;> cases hcmd
  exact ⟨rfl, rfl⟩

lemma Holds.act (h : Holds s a) {f : CanActor.Flags} {ev : ActorEvent} {x : Actor × List Notice}
    (hx : a.step c f ev = some x) : Holds s x.1 := by
  constructor
  · intro cmd n hmem hn
    exact h.queued cmd n ((CanActor.flow_step hx).commands.subset hmem) hn
  · intro id y p hy hp
    rcases CanActor.pending_step hx hy hp with ⟨y₀, hy₀, hp₀⟩ | hmem
    · exact h.waiting id y₀ p hy₀ hp₀
    · exact h.receive hmem
  · intro n count rest committed left hst
    rcases CanActor.sending_step hx hst with
      ⟨y, k, -, hst₀, rfl, hne⟩ | ⟨id, hmem, hcount, rfl, hne⟩
    · obtain ⟨t, frames, ht, hq, hcount, hrest, -⟩ := h.sending n count (y :: rest) k left hst₀
      refine ⟨t, frames, ht, hq, hcount, ?_, hne⟩
      have htail := congrArg List.tail hrest
      rwa [List.tail_cons, List.tail_drop] at htail
    · obtain ⟨t, ht, -, hq⟩ := h.batch hmem
      exact ⟨t, rest, ht, hq, hcount, rfl, hne⟩

end Holds

/-- In every thread. -/
def Matched (s : State) : Prop := ∀ e a, s.threads.lookup e = some a → Holds s a

theorem Matched.step {s' : State} {ev : Event} (h : Matched s) (hc : Called s)
    (hs : Turn c s ev s') :
    Matched s' := by
  have hkept : Kept s s' := fun n t ht => hs.alike hc ht
  intro e a' ha'
  cases hs.thread ha' with
  | beside _ ha hb => exact ((h e _ ha).beside hb).later hkept
  | new _ _ _ hnew => exact hnew.holds
  | queue _ ha ht =>
    exact ((h e _ ha).enqueue (command_call ..) ⟨_, _, ht, rfl⟩).later hkept
  | act _ ha hx => exact ((h e _ ha).act hx).later hkept

lemma matched_init : Matched {} := fun e a ha => absurd ha (no_threads e a)

/-- **In every run** the actors hold what the operations asked for. -/
theorem run_matched {ok : State → Event → Prop} {l : List Event}
    (h : Machine.Runs (step c) ok {} l s) : Matched s := by
  induction h with
  | nil => exact matched_init
  | snoc h _ hs ih => exact ih.step (run_called h) (step_turn hs)

end RobotHal.CanManager
