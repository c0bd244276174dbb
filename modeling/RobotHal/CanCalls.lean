import RobotHal.CanReceive

/-!
What a CAN actor owes its callers.

A call that was handed to an actor waits in its queue, with a session, or for the batch that is
being sent. Counting the places it waits in shows that no call is answered twice: what a step
tells a call and what it leaves owed to it is never more than what was owed before.
-/

namespace RobotHal.CanActor

variable {m : Assoc SessionId ActorSession} {x : ActorSession} {left : ℕ}

/-! ### Counting -/

/-- How often the notices tell the call `n` something. -/
def told (n : ℕ) (l : List Notice) : ℕ := l.countP fun x => x.call = some n

/-- How often the call `n` waits in the queue. -/
def queued (n : ℕ) (l : List CanCommand) : ℕ := l.countP fun x => x.call = some n

/-- Whether the call `n` waits with the session. -/
def ActorSession.owed (n : ℕ) (x : ActorSession) : ℕ :=
  if x.pendingReceive.map PendingReceive.call = some n then 1 else 0

/-- How often the call `n` waits with the sessions. -/
def waiting (n : ℕ) (m : Assoc SessionId ActorSession) : ℕ :=
  Assoc.total (fun _ x => x.owed n) m

/-- Whether the batch of the call `n` is being sent. -/
def Stage.owed (n : ℕ) : Stage → ℕ
  | .sending call _ _ _ _ => if call = n then 1 else 0
  | _ => 0

/-- How many answers the actor owes the call `n`. What is left of the sessions once the queues
are gone owes nothing. -/
def Actor.owed (n : ℕ) (a : Actor) : ℕ :=
  a.stage.owed n + queued n a.commands + if a.connected then waiting n a.sessions else 0

section Told

variable (n : ℕ)

@[simp] lemma told_nil : told n [] = 0 := rfl

@[simp] lemma told_append (l m : List Notice) : told n (l ++ m) = told n l + told n m :=
  List.countP_append

@[simp] lemma told_cons (x : Notice) (l : List Notice) :
    told n (x :: l) = told n l + if x.call = some n then 1 else 0 := by
  simp [told, List.countP_cons]

@[simp] lemma queued_nil : queued n [] = 0 := rfl

@[simp] lemma queued_cons (x : CanCommand) (l : List CanCommand) :
    queued n (x :: l) = queued n l + if x.call = some n then 1 else 0 := by
  simp [queued, List.countP_cons]

lemma queued_append (l m : List CanCommand) : queued n (l ++ m) = queued n l + queued n m :=
  List.countP_append

lemma told_eq_zero {l : List Notice} (h : ∀ x ∈ l, x.call = none) : told n l = 0 := by
  apply List.countP_eq_zero.mpr
  intro x hx
  simp [h x hx]

lemma told_flatMap {α : Type*} (g : α → List Notice) (l : List α) :
    told n (l.flatMap g) = (l.map fun x => told n (g x)).sum := by
  induction l with
  | nil => rfl
  | cons x l ih => rw [List.flatMap_cons, told_append, List.map_cons, List.sum_cons, ih]

lemma told_flatMap_commands {g : CanCommand → List Notice}
    (h : ∀ x, told n (g x) ≤ if x.call = some n then 1 else 0) (l : List CanCommand) :
    told n (l.flatMap g) ≤ queued n l := by
  induction l with
  | nil => exact le_refl 0
  | cons x l ih =>
    have hx := h x
    rw [List.flatMap_cons, told_append, queued_cons]
    omega

@[simp] lemma told_reply (x : Removal) (out : Option RemoveOutcome) : told n (x.reply out) = 0 := by
  unfold Removal.reply
  split <;> simp [Notice.call]

@[simp] lemma told_notify (x : Removal) : told n x.notify = 0 := by
  unfold Removal.notify
  split <;> simp [Notice.call]

lemma told_flatMap_removals {g : Removal → List Notice} (h : ∀ x, told n (g x) = 0)
    (l : List Removal) : told n (l.flatMap g) = 0 := by
  rw [told_flatMap]
  simp [h]

lemma told_reject (x : ActorSession) (e : HalError) : told n (x.reject e) = x.owed n := by
  unfold ActorSession.reject ActorSession.owed
  rcases x.pendingReceive with _ | p <;> simp [Notice.call]

end Told

/-! ### What a step leaves owed -/

section Owed

variable {n : ℕ} {a : Actor} {f : Flags}

lemma waiting_insert {id : SessionId} (hx : m.lookup id = some x) (y : ActorSession) :
    waiting n (m.insert id y) + x.owed n = waiting n m + y.owed n := by
  have herase := Assoc.total_erase (fun _ x => ActorSession.owed n x) m hx
  have hinsert := Assoc.total_insert (fun _ x => ActorSession.owed n x) m id y
  unfold waiting
  omega

lemma waiting_mapVal {g : SessionId → ActorSession → ActorSession}
    (hg : ∀ id x, (g id x).pendingReceive = x.pendingReceive) :
    waiting n (Assoc.mapVal m g) = waiting n m := by
  unfold waiting
  rw [Assoc.total_mapVal]
  simp only [ActorSession.owed, hg]

lemma takeReceiveResult_pending (x : ActorSession) (m : ℕ) (r : ResourceId) :
    (takeReceiveResult x m r).1.pendingReceive = x.pendingReceive := by
  unfold takeReceiveResult
  split
  · rfl
  split
  · rfl
  · split <;> rfl

lemma owed_of_pending {y : ActorSession} (h : y.pendingReceive = x.pendingReceive) :
    y.owed n = x.owed n := by
  unfold ActorSession.owed
  rw [h]

lemma owed_of_none (h : x.pendingReceive = none) : x.owed n = 0 := by
  simp [ActorSession.owed, h]

lemma owed_servicePending (r : ResourceId) (closed : ℕ → Bool) (now : ℕ) (x : ActorSession) :
    told n (servicePending r closed now x).2 + (servicePending r closed now x).1.owed n ≤
      x.owed n := by
  unfold servicePending
  rcases hp : x.pendingReceive with _ | p
  · simp [ActorSession.owed, hp]
  · have hx : x.owed n = if p.call = n then 1 else 0 := by simp [ActorSession.owed, hp]
    rcases hc : closed p.call with _ | _
    · have htake := takeReceiveResult_pending { x with pendingReceive := none } p.maxFrames r
      rcases ht : takeReceiveResult { x with pendingReceive := none } p.maxFrames r with
        ⟨y, _ | res⟩
      · rw [ht] at htake
        by_cases hd : now ≥ p.deadline
        · simp [hc, ht, hd, hx, Notice.call, owed_of_none htake]
        · simp [hc, ht, hd, ActorSession.owed, hp]
      · rw [ht] at htake
        simp [hc, ht, hx, Notice.call, owed_of_none htake]
    · simp [hc, ActorSession.owed]

lemma owed_servePending (a : Actor) (f : Flags) (now : ℕ) :
    told n (servePending a f now).2 + waiting n (servePending a f now).1.sessions ≤
      waiting n a.sessions := by
  unfold servePending waiting
  dsimp only
  rw [told_flatMap, Assoc.total_mapVal]
  unfold Assoc.total
  rw [← List.sum_map_add]
  apply List.sum_le_sum
  intro e _
  exact owed_servicePending a.resource f.closed now e.2

lemma receiveFailed_pending (e : HalError) (x : ActorSession) :
    (receiveFailed e x).pendingReceive = x.pendingReceive := by
  unfold receiveFailed
  split <;> rfl

lemma owed_poll (a : Actor) (c : Config) (f : Flags) (now : ℕ)
    (res : HalResult (Option ReceivedCanFrame)) :
    told n (poll a c f now res).2 + waiting n (poll a c f now res).1.sessions ≤
      waiting n a.sessions := by
  rcases res with err | _ | frame
  · simp [poll, waiting_mapVal fun _ => receiveFailed_pending err]
  · simp [poll]
  · rcases hv : frame.frame.validate with err | ⟨⟩
    · simp only [poll, hv, told_nil, Nat.zero_add]
      exact (waiting_mapVal fun _ _ => by rfl).le
    · simp only [poll, hv, fanOut]
      have hserve := owed_servePending (n := n)
        { a with sessions := Assoc.mapVal a.sessions fun _ => offer c.rxCapacity frame } f now
      rwa [waiting_mapVal fun _ => offer_pendingReceive c.rxCapacity frame] at hserve

lemma owed_of_connected (h : a.connected = true) :
    a.owed n = a.stage.owed n + queued n a.commands + waiting n a.sessions := by
  simp [Actor.owed, h]

lemma owed_abandon (a : Actor) (res : HalResult Unit) : (a.abandon res).1.owed n = 0 := by
  simp [Actor.owed, Actor.abandon, Stage.owed, Actor.connected]

lemma told_loseReceives (a : Actor) : told n a.loseReceives = waiting n a.sessions := by
  unfold Actor.loseReceives
  rw [told_flatMap]
  unfold waiting Assoc.total
  congr 1
  apply List.map_congr_left
  intro e _
  unfold ActorSession.owed
  rcases hp : e.2.pendingReceive with _ | p <;> simp [Notice.call, hp]

lemma told_abandon (a : Actor) (res : HalResult Unit) :
    told n (a.abandon res).2 ≤ queued n a.commands + waiting n a.sessions := by
  have hclean : told n (a.cleanup.flatMap Removal.lose) = 0 :=
    told_flatMap_removals n (fun x => told_reply n x none) _
  have hlose : told n (a.commands.flatMap CanCommand.lose) ≤ queued n a.commands :=
    told_flatMap_commands n
      (fun x => by cases x <;> simp [CanCommand.lose, Notice.call, CanCommand.call]) _
  have hreceives := told_loseReceives (n := n) a
  unfold Actor.abandon
  simp only [told_append]
  omega

/-- Leaving settles everything but the batch that is being sent. -/
lemma owed_left (a : Actor) (hconn : a.connected = true) (res : HalResult Unit) :
    told n (a.abandon res).2 + (a.abandon res).1.owed n + a.stage.owed n ≤ a.owed n := by
  have htold := told_abandon (n := n) a res
  have howed := owed_abandon (n := n) a res
  have ha := owed_of_connected (n := n) hconn
  omega

lemma told_rejectRemaining (a : Actor) : told n a.rejectRemaining.2 ≤ queued n a.commands := by
  have hclean : told n (a.cleanup.flatMap Removal.reject) = 0 :=
    told_flatMap_removals n (fun x => by simp [Removal.reject]) _
  have hreject : told n (a.commands.flatMap CanCommand.reject) ≤ queued n a.commands :=
    told_flatMap_commands n
      (fun x => by cases x <;> simp [CanCommand.reject, Notice.call, CanCommand.call]) _
  unfold Actor.rejectRemaining
  simp only [told_append]
  omega

lemma owed_prune (a : Actor) (hst : a.stage = .pruning) (f : Flags) (res : HalResult Unit) :
    told n (prune a f res).2 + (prune a f res).1.owed n ≤ a.owed n := by
  have hsplit := Assoc.total_eraseAll_filter (fun _ x => ActorSession.owed n x) a.sessions f.stale
  have hreject : told n ((a.sessions.entries.filter fun e => f.stale e.1).flatMap fun e =>
      e.2.reject (sessionClosed "can.receive" a.resource)) =
      ((a.sessions.entries.filter fun e => f.stale e.1).map fun e => e.2.owed n).sum := by
    rw [told_flatMap]
    simp only [told_reject]
  have hdone : told n ((a.sessions.entries.filter fun e => f.stale e.1).map fun e =>
      Notice.done e.1) = 0 := by
    apply told_eq_zero
    intro x hx
    obtain ⟨e, -, rfl⟩ := List.mem_map.mp hx
    rfl
  have ha : a.owed n = queued n a.commands + waiting n a.sessions := by
    simp [Actor.owed, hst, Actor.connected, Stage.owed]
  unfold waiting at ha
  rw [ha]
  unfold prune
  dsimp only
  split
  · simp [Actor.owed, Actor.connected, Stage.owed, waiting]
  split <;>
  · simp only [told_append, hreject, hdone, Actor.owed, Actor.connected, Stage.owed, waiting,
      if_true]
    omega

lemma owed_removeSession (a : Actor) (hst : a.stage = .cleaning left) (x : Removal)
    (res : HalResult Unit) :
    told n (removeSession a x res).2 + (removeSession a x res).1.owed n ≤ a.owed n := by
  have ha : a.owed n = queued n a.commands + waiting n a.sessions := by
    simp [Actor.owed, hst, Actor.connected, Stage.owed]
  unfold removeSession
  dsimp only
  split
  · simp
  · rename_i removed hx
    have herase := Assoc.total_erase (fun _ x => ActorSession.owed n x) a.sessions hx
    have hreject := told_reject n removed (sessionClosed "can.receive" a.resource)
    rw [ha]
    split
    · simp only [told_append, told_cons, told_nil, told_reply, told_notify, Notice.call, hreject,
        Actor.owed, Actor.connected, Stage.owed, waiting, if_true, reduceCtorEq, if_false]
      omega
    · simp only [told_append, told_cons, told_nil, told_reply, told_notify, Notice.call, hreject,
        Actor.owed, Actor.connected, hst, Stage.owed, waiting, if_true, reduceCtorEq, if_false]
      omega

lemma owed_receive (a : Actor) (hst : a.stage = .managing left) (now call : ℕ) (id : SessionId)
    (m deadline : ℕ) :
    told n (receive a now call id m deadline).2 + (receive a now call id m deadline).1.owed n ≤
      a.owed n + if call = n then 1 else 0 := by
  have hconn : a.connected = true := by simp [Actor.connected, hst]
  have ha := owed_of_connected (n := n) hconn
  unfold receive
  split
  · simp [Notice.call]
    omega
  rename_i x hx
  split
  · simp [Notice.call]
    omega
  rename_i hp
  have hnone : x.pendingReceive = none := by simpa using hp
  have htake := takeReceiveResult_pending x m a.resource
  split
  · -- something is there to be taken
    rename_i y res ht
    rw [ht] at htake
    have hins := waiting_insert (n := n) hx y
    have hy : y.owed n = x.owed n := owed_of_pending htake
    have hnew := owed_of_connected (n := n)
      (a := { a with sessions := a.sessions.insert id y }) hconn
    simp only [told_cons, told_nil, Notice.call, Option.some.injEq] at hnew ⊢
    omega
  · rename_i y ht
    rw [ht] at htake
    split
    · simp [Notice.call]
      omega
    · -- the caller is kept waiting
      have hins := waiting_insert (n := n) hx
        { y with pendingReceive := some ⟨call, m, deadline⟩ }
      have hx0 := owed_of_none (n := n) hnone
      have hy : ActorSession.owed n { y with pendingReceive := some ⟨call, m, deadline⟩ } =
          if call = n then 1 else 0 := by simp [ActorSession.owed]
      have hnew := owed_of_connected (n := n) (a := { a with
        sessions := a.sessions.insert id { y with pendingReceive := some ⟨call, m, deadline⟩ } })
        hconn
      simp only [told_nil] at hnew ⊢
      omega

lemma owed_replaceFilters (a : Actor) (hst : a.stage = .managing left) (call : ℕ) (id : SessionId)
    (filters : CanFilterSet) :
    told n (replaceFilters a call id filters).2 + (replaceFilters a call id filters).1.owed n ≤
      a.owed n + if call = n then 1 else 0 := by
  have hconn : a.connected = true := by simp [Actor.connected, hst]
  have ha := owed_of_connected (n := n) hconn
  unfold replaceFilters
  split
  · simp [Notice.call]
    omega
  · rename_i x hx
    have hins := waiting_insert (n := n) hx { x with filters }
    have hy : ActorSession.owed n { x with filters } = x.owed n := owed_of_pending rfl
    have hnew := owed_of_connected (n := n)
      (a := { a with sessions := a.sessions.insert id { x with filters } }) hconn
    simp only [told_cons, told_nil, Notice.call, Option.some.injEq] at hnew ⊢
    omega

lemma told_publishBusTransition (a : Actor) (state : CanBusState) :
    told n (publishBusTransition a state).2 = 0 := by
  apply told_eq_zero
  intro x hx
  unfold publishBusTransition at hx
  dsimp only at hx
  split at hx
  · cases hx
  split at hx
  · cases hx
  · obtain ⟨e, -, rfl⟩ := List.mem_map.mp hx
    rfl

/-- A command is answered, or its call waits where the command put it. -/
lemma owed_execute (a : Actor) (hst : a.stage = .managing left) (f : Flags) (now : ℕ)
    (answer : HalResult CanBusStatus) (cmd : CanCommand) :
    told n (execute a f now answer left cmd).2 + (execute a f now answer left cmd).1.owed n ≤
      a.owed n + if cmd.call = some n then 1 else 0 := by
  cases cmd with
  | addSession spec =>
    simp only [execute, addSession, CanCommand.call]
    split
    · simp [Notice.call]
    split
    · simp [Notice.call]
    · have hins := Assoc.total_insert (fun _ x => ActorSession.owed n x) a.sessions spec.sessionId
        { filters := spec.filters }
      have herase := Assoc.total_erase_le (fun _ x => ActorSession.owed n x) a.sessions
        spec.sessionId
      have hfresh : ActorSession.owed n { filters := spec.filters } = 0 := owed_of_none rfl
      simp [Notice.call, Actor.owed, Actor.connected, hst, waiting]
      omega
  | sendBatch call id frames =>
    simp only [execute, sendBatch, CanCommand.call]
    split
    · have howed (k : ℕ) : (a.releaseTx k).owed n = a.owed n := rfl
      simp [Notice.call, howed]
      omega
    · simp [Notice.call]
      omega
    · simp [Actor.owed, Actor.connected, hst, Stage.owed]
      omega
  | receive call id m deadline =>
    have h := owed_receive (n := n) a hst now call id m deadline
    simpa [execute, CanCommand.call] using h
  | replaceFilters call id filters =>
    have h := owed_replaceFilters (n := n) a hst call id filters
    simpa [execute, CanCommand.call] using h
  | busStatus call id =>
    simp only [execute, busStatus, CanCommand.call]
    split
    · simp [Notice.call]
      omega
    · simp [Notice.call]
      omega
    · rename_i status hx
      have htold := told_publishBusTransition (n := n) a status.state
      have howed : (publishBusTransition a status.state).1.owed n = a.owed n := rfl
      simp [Notice.call]
      omega

/-- **No call is answered twice**: a step of the actor tells a call no more than it was owed, and
owes it as much less. -/
theorem owed_step {c : Config} {e : ActorEvent} {x : Actor × List Notice}
    (h : a.step c f e = some x) (n : ℕ) : told n x.2 + x.1.owed n ≤ a.owed n := by
  have hleft (hconn : a.connected = true) (result : HalResult Unit) :=
    owed_left (n := n) a hconn result
  cases step_does h with
  | opened hst =>
    simp [Actor.owed, Actor.connected, Stage.owed, hst, Notice.call, waiting, Assoc.total,
      ActorSession.owed]
  | @unopened err hst =>
    have := hleft (by simp [Actor.connected, hst]) (.error err)
    simp only [told_cons, Notice.call, reduceCtorEq, if_false]
    omega
  | @pruned res hst => exact owed_prune a hst f res
  | @removed res left y rest hst hc =>
    have hrem := owed_removeSession (n := n) { a with cleanup := rest, stage := .cleaning left }
      rfl y res
    refine hrem.trans ?_
    simp [Actor.owed, Actor.connected, Stage.owed, hst]
  | cleaned hst => simp [Actor.owed, Actor.connected, Stage.owed, hst]
  | @executed now answer left cmd rest hst hc =>
    have hexec := owed_execute (n := n) { a with commands := rest, stage := .managing left } rfl
      f now answer cmd
    refine hexec.trans ?_
    simp [Actor.owed, Actor.connected, Stage.owed, hst, hc]
    omega
  | managed hst _ hnext =>
    rcases hnext with rfl | rfl <;> simp [Actor.owed, Actor.connected, Stage.owed, hst]
  | refused hst | sent hst =>
    simp [Actor.owed, Actor.connected, Stage.owed, hst, endBatch, Notice.call, Actor.pass,
      Actor.releaseTx]
    omega
  | passed hst => simp [Actor.owed, Actor.connected, Stage.owed, hst, Actor.pass]
  | @polled res now hst =>
    have hpoll := owed_poll (n := n) a c f now res
    obtain ⟨-, hcmds, -⟩ := poll_frame a c f now res
    simp [Actor.owed, Actor.connected, Stage.owed, hst, hcmds]
    omega
  | @served now hst =>
    have hserve := owed_servePending (n := n) a f now
    have hcmds : (servePending a f now).1.commands = a.commands := rfl
    simp [Actor.owed, Actor.connected, Stage.owed, hst, hcmds]
    omega
  | drained hst =>
    have htold := told_rejectRemaining (n := n) a
    have hcmds : a.rejectRemaining.1.commands = [] := rfl
    have hsess : a.rejectRemaining.1.sessions = a.sessions := rfl
    simp [Actor.owed, Actor.connected, Stage.owed, hst, hcmds, hsess]
    exact htold
  | @left result hst =>
    have := hleft (by simp [Actor.connected, hst]) result
    omega
  | @brokenOpen result hst =>
    have := hleft (by simp [Actor.connected, hst]) result
    simp only [told_cons, Notice.call, reduceCtorEq, if_false]
    omega
  | @brokenSend result _ _ _ _ _ _ hst =>
    -- the batch that was being sent loses its reply as well
    have := hleft (by simp [Actor.connected, hst]) result
    rw [hst, Stage.owed] at this
    have hpass (b : Actor) (k : ℕ) (y : CanFrame) : (b.pass k y).owed n = b.owed n := rfl
    simp only [told_cons, Notice.call, Option.some.injEq, hpass]
    omega
  | @broken result hst =>
    have :=
      hleft (by rcases hst with hst | ⟨_, hst⟩ | ⟨_, hst⟩ | hst <;> simp [Actor.connected, hst])
      result
    omega
  | completed hst hl =>
    rcases hl with rfl | rfl <;> simp [Actor.owed, Actor.connected, Stage.owed, hst, Notice.call]

end Owed

end RobotHal.CanActor
