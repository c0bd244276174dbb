import RobotHal.CanCalls
import RobotHal.CanQuiet

/-!
The operations of the CAN manager and the actors they are handed to.

A step moves one operation on, hands one to its actor, lets an actor act, or has nothing to do
with operations. From that, an operation that an actor owes an answer waits for that actor and
for no other, and an answer that was given stays what it is.
-/

namespace RobotHal.CanManager

open CanActor (Actor ActorEvent CanCommand Config Notice OpReply)

variable {a a' : Actor} {e n : ℕ} {ev : Event} {l : List Notice}
variable {b : Actor} {s : State} {r : ResourceId} {id : SessionId} {x : Notice}

/-! ### What a step can do to operations -/

/-- The manager leaves an actor alone but for its cleanup queue and for sessions to be added. -/
structure Beside (a a' : Actor) : Prop where
  resource : a'.resource = a.resource
  stage : a'.stage = a.stage
  sessions : a'.sessions = a.sessions
  passed : a'.passed = a.passed
  commands : ∃ l, a'.commands = a.commands ++ l ∧ ∀ x ∈ l, x.call = none

/-- A thread that has been asked nothing yet. -/
structure Untouched (a : Actor) : Prop where
  stage : a.stage = .opening
  sessions : a.sessions = ∅
  commands : ∀ x ∈ a.commands, x.call = none

/-- Threads are left alone, and new ones have new epochs. -/
structure Apart (s s' : State) : Prop where
  epoch : s.mgr.nextActorEpoch ≤ s'.mgr.nextActorEpoch
  threads : ∀ e a', s'.threads.lookup e = some a' →
    (∃ a, s.threads.lookup e = some a ∧ Beside a a') ∨
      (s.mgr.nextActorEpoch < e ∧ e ≤ s'.mgr.nextActorEpoch ∧ Untouched a')

/-- What a step does to operations. -/
inductive Turn (c : Config) (s : State) : Event → State → Prop
  | aside {ev : Event} {s' : State} (hev : ev.acts = none) (hops : s'.ops = s.ops)
      (h : Apart s s') : Turn c s ev s'
  | call {n : ℕ} {id : SessionId} {token : LeaseToken} {q : Request} {pc : OpPc} {s' : State}
      (hn : s.ops.lookup n = none)
      (hpc : (∃ err, pc = .returned (q.fail err)) ∨ ∃ r e, q.check r = .ok () ∧ pc = .ready r e)
      (hops : s'.ops = s.ops.insert n ⟨id, token, q, pc⟩) (h : Apart s s') :
      Turn c s (.opCall n id token q) s'
  | turn {ev : Event} {n : ℕ} {t : OpTask} {pc : OpPc} {s' : State} (hev : ev.acts = none)
      (ht : s.ops.lookup n = some t) (hpc : t.pc.Next t.request pc)
      (hread : t.pc.Reads pc ∨ ev.leaves = some n)
      (hops : s'.ops = s.ops.insert n { t with pc }) (h : Apart s s') : Turn c s ev s'
  | queue {n deadline e : ℕ} {r : ResourceId} {t : OpTask} {a : Actor}
      (ht : s.ops.lookup n = some t) (hpc : t.pc = .ready r e ∨ t.pc = .reserved r e)
      (ha : s.threads.lookup e = some a) :
      Turn c s (.opEnqueue n deadline) ((s.setThread e { a with
        commands := a.commands ++ [t.request.command n t.session deadline] }).setOp n t
          (.awaiting r e .waiting))
  | act {e : ℕ} {ev : ActorEvent} {a : Actor} {x : Actor × List Notice}
      (ha : s.threads.lookup e = some a) (hx : a.step c s.flags ev = some x) :
      Turn c s (.actor e ev) (x.2.foldl State.notice (s.setThread e x.1))

lemma Beside.refl (a : Actor) : Beside a a := ⟨rfl, rfl, rfl, rfl, [], by simp, by simp⟩

lemma Beside.trans {d : Actor} (h : Beside a b) (h' : Beside b d) : Beside a d := by
  obtain ⟨l, hl, hcall⟩ := h.commands
  obtain ⟨l', hl', hcall'⟩ := h'.commands
  refine ⟨h'.resource.trans h.resource, h'.stage.trans h.stage, h'.sessions.trans h.sessions,
    h'.passed.trans h.passed, l ++ l', by rw [hl', hl, List.append_assoc], fun x hx => ?_⟩
  exact (List.mem_append.mp hx).elim (hcall x) (hcall' x)

lemma Untouched.beside (h : Untouched a) (h' : Beside a b) : Untouched b := by
  obtain ⟨l, hl, hcall⟩ := h'.commands
  refine ⟨h'.stage.trans h.stage, h'.sessions.trans h.sessions, fun x hx => ?_⟩
  rw [hl] at hx
  exact (List.mem_append.mp hx).elim (h.commands x) (hcall x)

namespace Apart

variable {s s' : State}

lemma of_eq (ht : s'.threads = s.threads) (he : s'.mgr.nextActorEpoch = s.mgr.nextActorEpoch) :
    Apart s s' :=
  ⟨he.ge, fun _ a' ha' => .inl ⟨a', ht ▸ ha', .refl a'⟩⟩

lemma trans {u : State} (h : Apart s s') (h' : Apart s' u) : Apart s u := by
  refine ⟨h.epoch.trans h'.epoch, fun e a'' ha'' => ?_⟩
  rcases h'.threads e a'' ha'' with ⟨a', ha', hb'⟩ | ⟨hlt, hle, hnew⟩
  · rcases h.threads e a' ha' with ⟨a, ha, hb⟩ | ⟨hlt, hle, hnew⟩
    · exact .inl ⟨a, ha, hb.trans hb'⟩
    · exact .inr ⟨hlt, hle.trans h'.epoch, hnew.beside hb'⟩
  · exact .inr ⟨lt_of_le_of_lt h.epoch hlt, hle, hnew⟩

lemma setThread (ha : s.threads.lookup e = some a) (h : Beside a a') :
    Apart s (s.setThread e a') := by
  refine ⟨le_refl _, fun e' b hb => .inl ?_⟩
  unfold State.setThread at hb
  rcases Assoc.of_lookup_insert hb with ⟨he, rfl⟩ | hb
  · exact ⟨a, he ▸ ha, h⟩
  · exact ⟨b, hb, .refl b⟩

end Apart

lemma Spared.apart {s' : State} (h : Spared s s') : Apart s s' := .of_eq h.threads h.epoch

section Turns

variable {c : Config} {s s' : State}

lemma Beside.cleanup (a : Actor) (l : List CanActor.Removal) : Beside a { a with cleanup := l } :=
  ⟨rfl, rfl, rfl, rfl, [], by simp, by simp⟩

lemma Recipient.apart {spec : CanActor.ActorSessionSpec} {N : ℕ} {A : Assoc ResourceId ℕ}
    (h : Recipient s r spec e N A a') (id : SessionId) : Apart s (s.handOver id e N A a') := by
  cases h with
  | @present a he ha hc =>
    have hq : Apart s (s.setThread e { a with commands := a.commands ++ [.addSession spec] }) :=
      .setThread ha ⟨rfl, rfl, rfl, rfl, [_], rfl, by simp [CanCommand.call]⟩
    exact hq.trans (.of_eq rfl rfl)
  | started hn he =>
    -- a new thread has the next epoch
    refine ⟨?_, fun k b hb => ?_⟩
    · change s.mgr.nextActorEpoch ≤ e
      omega
    · rcases Assoc.of_lookup_insert hb with ⟨rfl, rfl⟩ | hb
      · exact .inr ⟨by omega, le_refl k, rfl, rfl, by simp⟩
      · exact .inl ⟨b, hb, .refl b⟩

lemma Handed.apart {token : LeaseToken} {x : ActiveSession} (h : Handed s id token x a) (n : ℕ)
    (parent : Option ℕ) : Apart s (s.handClose n parent id token x a) := by
  have hq := Apart.setThread h.thread (.cleanup a (a.cleanup ++ [⟨id, false, some n⟩]))
  exact hq.trans (.of_eq rfl rfl)

lemma Removes.apart {x : State × State.Removing} (h : Removes s id e x) :
    Apart s x.1 ∧ x.1.ops = s.ops := by
  cases h with
  | queued ha => exact ⟨.setThread ha (.cleanup _ _), rfl⟩
  | _ => exact ⟨.of_eq rfl rfl, rfl⟩

lemma Locked.turn {s₁ : State} (hl : Locked s₁ ev s') (hsp : Spared s s₁) : Turn c s ev s' := by
  have haside {ev : Event} {s' : State} (hev : ev.acts = none) (hops : s'.ops = s₁.ops)
      (h : Apart s₁ s') : Turn c s ev s' :=
    .aside hev (hops.trans hsp.ops) (hsp.apart.trans h)
  cases hl with
  | unassigned _ _ hN =>
    exact haside rfl rfl ⟨hN, fun _ a' ha' => .inl ⟨a', ha', .refl a'⟩⟩
  | assigned _ _ hto => exact haside rfl rfl (hto.apart _)
  | called hn hpc =>
    refine .call (by rw [← hsp.ops]; exact hn) ?_ (by rw [hsp.ops])
      (hsp.apart.trans (.of_eq rfl rfl))
    rcases hpc with herr | ⟨x, -, -, -, hcheck, rfl⟩
    · exact .inl herr
    · exact .inr ⟨_, _, hcheck, rfl⟩
  | handed _ hh => exact haside rfl rfl (hh.apart _ none)
  | @revokeHanded k _ _ _ _ _ _ _ _ _ _ _ hh =>
    exact haside rfl rfl ((hh.apart _ (some k)).trans (.of_eq rfl rfl))
  | _ => exact haside rfl rfl (.of_eq rfl rfl)

lemma Plain.turn (h : Plain c s ev s') : Turn c s ev s' := by
  cases h with
  | call => exact .aside rfl rfl (.of_eq rfl rfl)
  | move hev | rest hev | close hev => exact .aside hev rfl (.of_eq rfl rfl)
  | @cleaning id _ _ e _ a _ _ ha =>
    exact .aside rfl rfl ((@Removes.queued s id e a ha).apart.1.trans (.of_eq rfl rfl))
  | remover hev h => exact .aside hev h.apart.2 (h.apart.1.trans (.of_eq rfl rfl))
  | op hev ht hpc hread => exact .turn hev ht hpc hread rfl (.of_eq rfl rfl)
  | @room _ _ e x _ _ a hev ht hpc hread ha =>
    have hroom : Apart s (s.setThread e { a with txReserved := x }) :=
      .setThread ha ⟨rfl, rfl, rfl, rfl, [], by simp, by simp⟩
    exact .turn hev ht hpc (.inl hread) rfl (hroom.trans (.of_eq rfl rfl))
  | queue ht hpc ha => exact .queue ht hpc ha
  | act ha hx => exact .act ha hx

/-- **What a step does to operations.** -/
theorem step_turn (h : step c s ev = some s') : Turn c s ev s' := by
  cases step_act h with
  | lock hrec hl => exact hl.turn hrec.spared
  | plain hp => exact hp.turn
  | @guard _ id _ actor pc hev =>
    obtain ⟨-, -, -, hepoch⟩ := dropPending_fields s.mgr id
    cases actor <;> exact .aside hev rfl (.of_eq rfl hepoch)
  | @finish n t result seen failed ht =>
    rcases hx : s.mgr.active.lookup t.session with _ | x
    · rw [finishClose_none s hx]
      exact .aside rfl rfl (.of_eq rfl rfl)
    · obtain ⟨events, actors, heq, -⟩ := finishClose_eq s hx failed seen
      rw [heq]
      exact .aside rfl rfl (.of_eq rfl rfl)
  | @revokeCall _ _ opens =>
    have hsp := (foldl_cancelPending_spec s false opens).1
    exact .aside rfl hsp.ops (.of_eq hsp.threads hsp.epoch)
  | dropClose | dropRevoke => exact .aside rfl rfl (.of_eq rfl rfl)
  | revoke hev => exact .aside hev rfl (.of_eq rfl rfl)

end Turns

/-! ### Notices -/

/-- The operation hears from its actor. -/
def OpTask.hear (res : Option OpReply) (t : OpTask) : OpTask :=
  match t.pc with
  | .awaiting r e reply => { t with pc := .awaiting r e (reply.deliver res) }
  | _ => t

section Notices

variable (s : State)

lemma ops_notice_of_ne (h : x.call ≠ some n) : (s.notice x).ops.lookup n = s.ops.lookup n := by
  cases x with
  | answered m res =>
    have hne : n ≠ m := by
      rintro rfl
      exact h rfl
    unfold State.notice
    dsimp only
    rw [Assoc.lookup_modify, if_neg hne]
  | health id state =>
    unfold State.notice
    dsimp only
    split
    · split <;> rfl
    · rfl
  | _ => rfl

lemma ops_notice_answered (n : ℕ) (res : Option OpReply) :
    (s.notice (.answered n res)).ops.lookup n = (s.ops.lookup n).map (OpTask.hear res) := by
  unfold State.notice
  dsimp only
  rw [Assoc.lookup_modify, if_pos rfl]
  rfl

lemma ops_notices_of_told_zero (h : CanActor.told n l = 0) :
    (l.foldl State.notice s).ops.lookup n = s.ops.lookup n := by
  induction l generalizing s with
  | nil => rfl
  | cons x l ih =>
    rw [CanActor.told_cons] at h
    have hx : x.call ≠ some n := by
      intro hx
      rw [if_pos hx] at h
      omega
    rw [List.foldl_cons, ih _ (by omega), ops_notice_of_ne s hx]

lemma told_pos (hx : x ∈ l) (hcall : x.call = some n) : 0 < CanActor.told n l :=
  List.countP_pos_iff.mpr ⟨x, hx, by simpa using hcall⟩

lemma ops_notices_of_told_one {res : Option OpReply} (h : CanActor.told n l ≤ 1)
    (hx : .answered n res ∈ l) :
    (l.foldl State.notice s).ops.lookup n = (s.ops.lookup n).map (OpTask.hear res) := by
  induction l generalizing s with
  | nil => cases hx
  | cons x l ih =>
    rw [CanActor.told_cons] at h
    rw [List.foldl_cons]
    rcases List.mem_cons.mp hx with rfl | hx
    · have hrest : CanActor.told n l = 0 := by
        rw [if_pos (show (Notice.answered n res).call = some n from rfl)] at h
        omega
      rw [ops_notices_of_told_zero _ hrest, ops_notice_answered]
    · have hpos := told_pos hx (show (Notice.answered n res).call = some n from rfl)
      have hne : x.call ≠ some n := by
        intro hc
        rw [if_pos hc] at h
        omega
      rw [ih _ (by omega) hx, ops_notice_of_ne s hne]

lemma notice_frame (x : Notice) :
    (s.notice x).threads = s.threads ∧ (s.notice x).mgr = s.mgr := by
  cases x with
  | health id state =>
    unfold State.notice
    dsimp only
    split
    · split <;> exact ⟨rfl, rfl⟩
    · exact ⟨rfl, rfl⟩
  | _ => exact ⟨rfl, rfl⟩

lemma notices_frame (l : List Notice) :
    (l.foldl State.notice s).threads = s.threads ∧ (l.foldl State.notice s).mgr = s.mgr := by
  induction l generalizing s with
  | nil => exact ⟨rfl, rfl⟩
  | cons x l ih =>
    obtain ⟨ht, hm⟩ := notice_frame s x
    obtain ⟨ht', hm'⟩ := ih (s.notice x)
    exact ⟨ht'.trans ht, hm'.trans hm⟩

end Notices

/-! ### Who waits for whom -/

/-- The operation waits for the actor `e`, or has stopped waiting. -/
def OpPc.Asked (e : ℕ) : OpPc → Prop
  | .ready _ _ | .reserved _ _ => False
  | .awaiting _ e' reply => e' = e ∧ reply = .waiting
  | .returned _ | .dropped => True

/-- A call is owed one answer at most, by one actor, and if it waits, it waits for that. -/
structure Called (s : State) : Prop where
  bound : ∀ e a, s.threads.lookup e = some a → e ≤ s.mgr.nextActorEpoch
  once : ∀ e a n, s.threads.lookup e = some a → a.owed n ≤ 1
  alone : ∀ e a e' a' n, s.threads.lookup e = some a → s.threads.lookup e' = some a' →
    0 < a.owed n → 0 < a'.owed n → e = e'
  asked : ∀ e a n, s.threads.lookup e = some a → 0 < a.owed n →
    ∃ t, s.ops.lookup n = some t ∧ t.pc.Asked e

lemma OpPc.Next.asked {q : Request} {pc pc' : OpPc} (h : pc.Next q pc') (ha : pc.Asked e) :
    pc'.Asked e := by
  cases h with
  | reserve | refuse | giveUp => exact ha.elim
  | answer | lose => exact absurd ha.2 nofun
  | expire | drop => trivial

lemma queued_eq_zero {l : List CanCommand} (h : ∀ x ∈ l, x.call = none) :
    CanActor.queued n l = 0 := by
  apply List.countP_eq_zero.mpr
  intro x hx
  simp [h x hx]

lemma Beside.owed (h : Beside a a') (n : ℕ) : a'.owed n = a.owed n := by
  obtain ⟨l, hl, hcall⟩ := h.commands
  have hqueued : CanActor.queued n a'.commands = CanActor.queued n a.commands := by
    rw [hl, CanActor.queued_append, queued_eq_zero hcall, Nat.add_zero]
  have hconn : a'.connected = a.connected := by
    unfold Actor.connected
    rw [h.stage]
  simp only [Actor.owed, hconn, h.stage, h.sessions, hqueued]

lemma Untouched.owed (h : Untouched a) (n : ℕ) : a.owed n = 0 := by
  have hqueued := queued_eq_zero (n := n) h.commands
  simp [Actor.owed, h.stage, h.sessions, hqueued, CanActor.Stage.owed, CanActor.waiting,
    Assoc.total]

section CalledSteps

variable {c : Config} {s : State}

lemma command_call (q : Request) (n : ℕ) (id : SessionId) (deadline : ℕ) :
    (q.command n id deadline).call = some n := by
  cases q <;> rfl

lemma owed_enqueue (a : Actor) {cmd : CanCommand} (hcmd : cmd.call = some n) (m : ℕ) :
    ({ a with commands := a.commands ++ [cmd] } : Actor).owed m =
      a.owed m + if n = m then 1 else 0 := by
  have hqueued : CanActor.queued m (a.commands ++ [cmd]) =
      CanActor.queued m a.commands + if n = m then 1 else 0 := by
    rw [CanActor.queued_append, CanActor.queued_cons, CanActor.queued_nil, hcmd]
    simp
  have hconn : ({ a with commands := a.commands ++ [cmd] } : Actor).connected = a.connected := rfl
  simp only [Actor.owed, hqueued, hconn]
  omega

lemma Called.unasked (h : Called s) {t : OpTask} (ht : s.ops.lookup n = some t)
    (hpc : t.pc = .ready r e ∨ t.pc = .reserved r e) {e' : ℕ} (ha : s.threads.lookup e' = some a) :
    a.owed n = 0 := by
  by_contra hne
  obtain ⟨t', ht', hasked⟩ := h.asked e' a n ha (by omega)
  obtain rfl := Option.mem_unique ht ht'
  rcases hpc with hpc | hpc <;> rw [hpc] at hasked <;> exact hasked

end CalledSteps

/-! ### One operation, one thread -/

/-- What a step makes of one operation. -/
inductive OpTurn (c : Config) (s : State) (ev : Event) (n : ℕ) :
    Option OpTask → Option OpTask → Prop
  | same {o : Option OpTask} : OpTurn c s ev n o o
  | new {id : SessionId} {token : LeaseToken} {q : Request} {pc : OpPc} (hev : ev.acts = none)
      (hpc : (∃ err, pc = .returned (q.fail err)) ∨ ∃ r e, q.check r = .ok () ∧ pc = .ready r e) :
      OpTurn c s ev n none (some ⟨id, token, q, pc⟩)
  | next {t : OpTask} {pc : OpPc} (hev : ev.acts = none) (hpc : t.pc.Next t.request pc)
      (hread : t.pc.Reads pc ∨ ev.leaves = some n) : OpTurn c s ev n (some t) (some { t with pc })
  | queue {t : OpTask} {r : ResourceId} {e : ℕ} (hev : ev.acts = none)
      (hpc : t.pc = .ready r e ∨ t.pc = .reserved r e) :
      OpTurn c s ev n (some t) (some { t with pc := .awaiting r e .waiting })
  | hear {e : ℕ} {aev : ActorEvent} {a : Actor} {x : Actor × List Notice} {t : OpTask}
      {res : Option OpReply} (hev : ev = .actor e aev) (ha : s.threads.lookup e = some a)
      (hx : a.step c s.flags aev = some x) (hres : .answered n res ∈ x.2) (hp : 0 < a.owed n) :
      OpTurn c s ev n (some t) (some (t.hear res))

/-- Where a thread comes from. -/
inductive Origin (c : Config) (s : State) (ev : Event) (s' : State) (e : ℕ) : Actor → Prop
  | beside {a a' : Actor} (hev : ∀ x, ev.acts ≠ some (e, x)) (ha : s.threads.lookup e = some a)
      (hb : Beside a a') : Origin c s ev s' e a'
  | new {a : Actor} (hev : ev.acts = none) (hlt : s.mgr.nextActorEpoch < e)
      (hle : e ≤ s'.mgr.nextActorEpoch) (h : Untouched a) : Origin c s ev s' e a
  | queue {n deadline : ℕ} {r : ResourceId} {t : OpTask} {a : Actor} (hev : ev.acts = none)
      (ha : s.threads.lookup e = some a) (ht : s.ops.lookup n = some t)
      (hpc : t.pc = .ready r e ∨ t.pc = .reserved r e)
      (ht' : s'.ops.lookup n = some { t with pc := .awaiting r e .waiting }) :
      Origin c s ev s' e
        { a with commands := a.commands ++ [t.request.command n t.session deadline] }
  | act {aev : ActorEvent} {a : Actor} {x : Actor × List Notice} (hev : ev = .actor e aev)
      (ha : s.threads.lookup e = some a) (hx : a.step c s.flags aev = some x) :
      Origin c s ev s' e x.1

section Views

variable {c : Config} {s s' : State} {ev : Event}

lemma told_zero_or_mem (n : ℕ) (l : List Notice) :
    CanActor.told n l = 0 ∨ ∃ res, .answered n res ∈ l := by
  rcases Nat.eq_zero_or_pos (CanActor.told n l) with h | h
  · exact .inl h
  · obtain ⟨y, hy, hcall⟩ := List.countP_pos_iff.mp h
    cases y with
    | answered m res =>
      obtain rfl : m = n := by simpa [Notice.call] using hcall
      exact .inr ⟨res, hy⟩
    | _ => simp [Notice.call] at hcall

lemma Turn.op (hc : Called s) (h : Turn c s ev s') (n : ℕ) :
    OpTurn c s ev n (s.ops.lookup n) (s'.ops.lookup n) := by
  cases h with
  | aside _ hops =>
    rw [hops]
    exact .same
  | call hn hpc hops =>
    rw [hops, Assoc.lookup_insert_ite]
    split
    · rename_i hm
      rw [hm, hn]
      exact .new rfl hpc
    · exact .same
  | turn hev ht hpc hread hops =>
    rw [hops, Assoc.lookup_insert_ite]
    split
    · rename_i hm
      subst hm
      rw [ht]
      exact .next hev hpc hread
    · exact .same
  | @queue m _ _ _ t _ ht hpc =>
    change OpTurn _ _ _ _ _ ((s.ops.insert m _).lookup n)
    rw [Assoc.lookup_insert_ite]
    split
    · rename_i hm
      rw [hm, ht]
      exact .queue rfl hpc
    · exact .same
  | @act e _ a x ha hx =>
    rcases told_zero_or_mem n x.2 with h0 | ⟨res, hres⟩
    · rw [ops_notices_of_told_zero _ h0]
      exact .same
    · have hpos := told_pos hres rfl
      have hle := CanActor.owed_step hx n
      have honce := hc.once e a n ha
      rw [ops_notices_of_told_one _ (by omega) hres]
      change OpTurn _ _ _ _ (s.ops.lookup n) ((s.ops.lookup n).map _)
      rcases s.ops.lookup n with _ | t
      · exact .same
      · exact .hear rfl ha hx hres (by omega)

lemma Turn.thread (h : Turn c s ev s') (ha' : s'.threads.lookup e = some a') :
    Origin c s ev s' e a' := by
  have hapart (hev : ev.acts = none) (hs : Apart s s') : Origin c s ev s' e a' := by
    rcases hs.threads e a' ha' with ⟨a, ha, hb⟩ | ⟨hlt, hle, hnew⟩
    · refine .beside (fun x hx => ?_) ha hb
      cases hev.symm.trans hx
    · exact .new hev hlt hle hnew
  cases h with
  | aside hev _ hs | turn hev _ _ _ _ hs => exact hapart hev hs
  | call _ _ _ hs => exact hapart rfl hs
  | @queue n deadline k r t a ht hpc ha =>
    rcases Assoc.of_lookup_insert ha' with ⟨rfl, rfl⟩ | ha'
    · exact .queue rfl ha ht hpc (AList.lookup_insert s.ops)
    · refine .beside (fun x (hx : none = some (e, x)) => ?_) ha' (.refl a')
      cases hx
  | @act k aev a x ha hx =>
    rw [(notices_frame _ _).1] at ha'
    change (s.threads.insert k x.1).lookup e = some a' at ha'
    rw [Assoc.lookup_insert_ite] at ha'
    split at ha'
    · rename_i hk
      subst hk
      obtain rfl := Option.some.inj ha'
      exact .act rfl ha hx
    · rename_i hk
      refine .beside (fun y hy => ?_) ha' (.refl a')
      exact hk (congrArg Prod.fst (Option.some.inj hy)).symm

lemma Turn.epoch (h : Turn c s ev s') : s.mgr.nextActorEpoch ≤ s'.mgr.nextActorEpoch := by
  cases h with
  | aside _ _ hs | call _ _ _ hs | turn _ _ _ _ _ hs => exact hs.epoch
  | queue => exact le_refl _
  | act =>
    rw [(notices_frame _ _).2]
    exact le_refl _

/-- What a thread owes it owed before and has told nobody, or it was just handed over. -/
lemma Origin.owed {m : ℕ} (ho : Origin c s ev s' e a') (h : Called s) (hp : 0 < a'.owed m) :
    (∃ a, s.threads.lookup e = some a ∧ a'.owed m ≤ a.owed m ∧ ∀ aev x, ev = .actor e aev →
      a.step c s.flags aev = some x → CanActor.told m x.2 = 0) ∨
    a'.owed m = 1 ∧ ∃ r t, s.ops.lookup m = some t ∧
      (t.pc = .ready r e ∨ t.pc = .reserved r e) ∧
      s'.ops.lookup m = some { t with pc := .awaiting r e .waiting } := by
  cases ho with
  | beside hev ha hb =>
    exact .inl
      ⟨_, ha, (hb.owed m).le, fun aev x hact => absurd (congrArg Event.acts hact) (hev aev)⟩
  | new _ _ _ hnew =>
    rw [hnew.owed m] at hp
    cases hp
  | @queue n deadline r t a hev ha ht hpc ht' =>
    have howed := owed_enqueue a (command_call t.request n t.session deadline) m
    by_cases hm : n = m
    · subst hm
      rw [if_pos rfl, h.unasked ht hpc ha] at howed
      exact .inr ⟨howed, r, t, ht, hpc, ht'⟩
    · rw [if_neg hm] at howed
      refine .inl ⟨a, ha, howed.le, fun aev x hact => ?_⟩
      cases hev.symm.trans (congrArg Event.acts hact)
  | @act aev a x hev ha hx =>
    have hle := CanActor.owed_step hx m
    have honce := h.once e a m ha
    refine .inl ⟨a, ha, by omega, fun aev' x' hact hx' => ?_⟩
    cases hev.symm.trans hact
    obtain rfl := Option.mem_unique hx hx'
    omega

/-- **One step** keeps who waits for whom. -/
theorem Called.step (h : Called s) (hs : Turn c s ev s') : Called s' := by
  constructor
  · intro e a' ha'
    cases hs.thread ha' with
    | new _ _ hle => exact hle
    | beside _ ha | queue _ ha | act _ ha => exact (h.bound e _ ha).trans hs.epoch
  · intro e a' m ha'
    by_contra hm
    rcases (hs.thread ha').owed h (m := m) (by omega) with ⟨a, ha, hle, -⟩ | ⟨h1, -⟩
    · have := h.once e a m ha
      omega
    · omega
  · intro e a e' a' m ha ha' hp hp'
    rcases (hs.thread ha).owed h hp with ⟨b, hb, hle, -⟩ | ⟨-, r, t, ht, hpc, -⟩ <;>
      rcases (hs.thread ha').owed h hp' with ⟨b', hb', hle', -⟩ | ⟨-, r', t', ht', hpc', -⟩
    · exact h.alone e b e' b' m hb hb' (by omega) (by omega)
    · have := h.unasked ht' hpc' hb
      omega
    · have := h.unasked ht hpc hb'
      omega
    · obtain rfl := Option.mem_unique ht ht'
      rcases hpc with hpc | hpc <;> rcases hpc' with hpc' | hpc' <;> cases hpc.symm.trans hpc' <;>
        rfl
  · intro e a' m ha' hp
    rcases (hs.thread ha').owed h hp with ⟨a, ha, hle, hquiet⟩ | ⟨-, r, t, -, -, ht'⟩
    · obtain ⟨t, ht, hasked⟩ := h.asked e a m ha (by omega)
      have hop := hs.op h m
      rw [ht] at hop
      generalize s'.ops.lookup m = o at hop ⊢
      cases hop with
      | same => exact ⟨t, rfl, hasked⟩
      | next _ hpc => exact ⟨_, rfl, hpc.asked hasked⟩
      | queue _ hpc => rcases hpc with hpc | hpc <;> rw [hpc] at hasked <;> exact hasked.elim
      | hear hev ha₂ hx hres hp₂ =>
        -- the actor that answers owes no more
        obtain rfl := h.alone _ _ _ _ m ha ha₂ (by omega) hp₂
        obtain rfl := Option.mem_unique ha ha₂
        have := hquiet _ _ hev hx
        have := told_pos hres rfl
        omega
    · exact ⟨_, ht', rfl, rfl⟩

end Views

lemma no_threads (e : ℕ) (a : Actor) : ({} : State).threads.lookup e ≠ some a := by
  change (∅ : Assoc ℕ Actor).lookup e ≠ some a
  rw [AList.lookup_empty]
  exact nofun

lemma called_init : Called {} :=
  ⟨fun e a h => absurd h (no_threads e a), fun e a _ h => absurd h (no_threads e a),
    fun e a _ _ _ h => absurd h (no_threads e a), fun e a _ h => absurd h (no_threads e a)⟩

/-- **In every run** a call is owed one answer at most, and waits for who owes it. -/
theorem run_called {c : Config} {ok : State → Event → Prop} {l : List Event}
    (h : Machine.Runs (step c) ok {} l s) : Called s :=
  h.invariant (I := Called) called_init fun _ _ _ hc _ hs => hc.step (step_turn hs)

end RobotHal.CanManager
