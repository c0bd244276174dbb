import RobotHal.LossyQueue
import RobotHal.Machine

/-!
The event subscriptions of the Python client (`EventSubscription` of `client.py`).

The client publishes into a bounded queue and finishes it; one reader at a time receives. The
queue is that of `asyncio`: a `get` on an empty queue waits, goes on with the first item once
there is one, and takes nothing if it is cancelled before.
-/

namespace RobotHal.Python.Events

/-- What is published: an event, or an error of the broker. -/
inductive Item (α δ : Type)
  | event (e : α)
  | error (d : δ)
deriving DecidableEq

/-- What is queued: something published, or the `_terminal` error of a finished subscription. -/
inductive Entry (α δ : Type)
  | item (x : Item α δ)
  | terminal
deriving DecidableEq

/-- How a `receive` ends, unless it is cancelled. -/
inductive Outcome (α δ : Type)
  /-- an event is returned, an error raised -/
  | item (x : Item α δ)
  | lagged (skipped : ℕ)
  /-- the `_terminal` error -/
  | closed
deriving DecidableEq

structure State (α δ : Type) where
  queue : List (Entry α δ) := []
  lagged : ℕ := 0
  /-- `_terminal` is set -/
  terminal : Bool := false
  /-- a `receive` waits inside `get` -/
  waiting : Bool := false
  /-- the client still has it among its subscriptions -/
  subscribed : Bool := true
  /-- what was published before it finished -/
  published : List (Item α δ) := []
  outcomes : List (Outcome α δ) := []
deriving DecidableEq

inductive Event (α δ : Type)
  | publish (x : Item α δ)
  | receive
  /-- the waiting `get` goes on -/
  | resume
  /-- the waiting `receive` is cancelled -/
  | cancel
  | close
  /-- the client terminates -/
  | terminate

variable {α δ : Type} {capacity maxsize : ℕ} {s t : State α δ} {x : Item α δ}

def Entry.outcome : Entry α δ → Outcome α δ
  | .item x => .item x
  | .terminal => .closed

def Entry.published : Entry α δ → Option (Item α δ)
  | .item x => some x
  | .terminal => none

def Outcome.delivered : Outcome α δ → Option (Item α δ)
  | .item x => some x
  | _ => none

def Outcome.skipped : Outcome α δ → ℕ
  | .lagged n => n
  | _ => 0

namespace State

/-- `_publish`: the oldest entry of a full queue makes room. -/
def publish (capacity maxsize : ℕ) (s : State α δ) (x : Item α δ) : State α δ :=
  if s.terminal then s
  else
    let s := if s.queue.length ≥ capacity then
        { s with queue := s.queue.tail, lagged := min (s.lagged + 1) maxsize }
      else s
    { s with queue := s.queue ++ [.item x], published := s.published ++ [x] }

/-- `_finish`. -/
def finish (s : State α δ) : State α δ :=
  { s with terminal := true, queue := if s.queue = [] then [.terminal] else s.queue }

def tell (s : State α δ) (o : Outcome α δ) : State α δ :=
  { s with outcomes := s.outcomes ++ [o], waiting := false }

/-- `get`, and what `receive` makes of the entry. -/
def get (s : State α δ) : State α δ :=
  match s.queue with
  | [] => { s with waiting := true }
  | y :: rest => { s with queue := rest }.tell y.outcome

def receive (s : State α δ) : State α δ :=
  if s.lagged ≠ 0 then { s with lagged := 0 }.tell (.lagged s.lagged)
  else if s.terminal ∧ s.queue = [] then s.tell .closed
  else s.get

/-- The published items that are still queued. -/
def queued (s : State α δ) : List (Item α δ) := s.queue.filterMap Entry.published

/-- The published items that receives returned or raised, in this order. -/
def delivered (s : State α δ) : List (Item α δ) := s.outcomes.filterMap Outcome.delivered

/-- What the lag errors add up to. -/
def reported (s : State α δ) : ℕ := (s.outcomes.map Outcome.skipped).sum

end State

def step (capacity maxsize : ℕ) (s : State α δ) : Event α δ → Option (State α δ)
  | .publish x => some (if s.subscribed then s.publish capacity maxsize x else s)
  | .receive => if s.waiting then none else some s.receive
  | .resume => if s.waiting ∧ s.queue ≠ [] then some s.get else none
  | .cancel => if s.waiting then some { s with waiting := false } else none
  | .close => some { s with subscribed := false }.finish
  | .terminate => some (if s.subscribed then s.finish else s)

/-- The lag counter is below `sys.maxsize` when something is published. -/
def Counts (maxsize : ℕ) (s : State α δ) : Event α δ → Prop
  | .publish _ => s.lagged < maxsize
  | _ => True

instance (s : State α δ) : (e : Event α δ) → Decidable (Counts maxsize s e)
  | .publish _ => inferInstanceAs (Decidable (s.lagged < maxsize))
  | .receive | .resume | .cancel | .close | .terminate => .isTrue trivial

/-! ### The books of a subscription -/

/-- The queue holds what the ledger `q` has not let go, or the mark of the end. -/
structure Kept (capacity : ℕ) (q : LossyQueue (Item α δ)) (s : State α δ) : Prop where
  capacity : s.queue.length ≤ capacity
  queue : s.queue = q.items.map .item ∨ s.queue = [.terminal] ∧ q.items = [] ∧ s.terminal = true
  published : q.arrived = s.published
  delivered : q.taken = s.delivered
  dropped : q.dropped.length = s.reported + s.lagged

/-- A `receive` that waits has seen no lag, and there is something for it once the subscription has
finished; after the first closed error there is nothing left. -/
structure Ends (q : LossyQueue (Item α δ)) (s : State α δ) : Prop where
  waiting : s.waiting = true → s.lagged = 0 ∨ q.items ≠ []
  served : s.waiting = true → s.terminal = true → s.queue ≠ []
  closed : .closed ∈ s.outcomes → s.terminal = true ∧ q.items = [] ∧ s.lagged = 0
  last : ∀ u v, s.outcomes = u ++ .closed :: v → ∀ o ∈ v, o = .closed

def Booked (capacity : ℕ) (s : State α δ) : Prop :=
  ∃ q : LossyQueue (Item α δ), Kept capacity q s ∧ Ends q s

variable {q : LossyQueue (Item α δ)}

lemma Kept.queued (h : Kept capacity q s) : s.queued = q.items := by
  rcases h.queue with hq | ⟨hq, hi, -⟩
  · simp [State.queued, hq, List.filterMap_map, Function.comp_def, Entry.published]
  · simp [State.queued, hq, hi, Entry.published]

lemma booked_publish (hc : 1 ≤ capacity) (hl : s.lagged < maxsize) (h : Booked capacity s)
    (x : Item α δ) : Booked capacity (s.publish capacity maxsize x) := by
  obtain ⟨q, hk, he⟩ := h
  unfold State.publish
  split
  · exact ⟨q, hk, he⟩
  rename_i hopen
  have hq : s.queue = q.items.map .item := hk.queue.resolve_right fun hr => hopen hr.2.2
  have hle : q.items.length ≤ capacity := by simpa [hq] using hk.capacity
  have hpush := q.length_push_le capacity x hc hle
  set n := (q.evicted capacity).length with hn
  have hroom : (if s.queue.length ≥ capacity then
      { s with queue := s.queue.tail, lagged := min (s.lagged + 1) maxsize } else s) =
      { s with queue := (q.items.drop n).map .item, lagged := s.lagged + n } := by
    by_cases hfull : q.items.length = capacity
    · have hone : n = 1 := by
        simp only [hn, LossyQueue.evicted, hfull, if_true, List.length_take]
        omega
      rw [if_pos (by simp [hq, hfull]), hone, min_eq_left (by omega)]
      simp [hq]
    · have hnone : n = 0 := by simp [hn, LossyQueue.evicted, hfull]
      rw [if_neg (by simp [hq]; omega), hnone, List.drop_zero, ← hq]
      rfl
  rw [hroom]
  refine ⟨q.push capacity x, ⟨?_, .inl ?_, ?_, ?_, ?_⟩, ⟨fun _ => .inr ?_, by simp, fun hm => ?_,
    he.last⟩⟩
  · simpa [LossyQueue.push] using hpush
  · simp [LossyQueue.push, hn]
  · simp [hk.published]
  · exact (q.taken_push capacity x).trans hk.delivered
  · rw [LossyQueue.dropped_push, List.length_append, hk.dropped, Nat.add_assoc]
    rfl
  · simp [LossyQueue.push]
  · exact absurd (he.closed hm).1 hopen

lemma booked_finish (hc : 1 ≤ capacity) (h : Booked capacity s) : Booked capacity s.finish := by
  obtain ⟨q, hk, he⟩ := h
  unfold State.finish
  by_cases hnil : s.queue = []
  · have hitems : q.items = [] := by
      rcases hk.queue with hq | ⟨-, hi, -⟩
      · simpa [hnil] using hq.symm
      · exact hi
    simp only [hnil, if_true]
    exact ⟨q, { hk with capacity := hc, queue := .inr ⟨rfl, hitems, rfl⟩ },
      { he with served := by simp, closed := fun hm => ⟨rfl, (he.closed hm).2⟩ }⟩
  · simp only [hnil, if_false]
    exact ⟨q, { hk with queue := hk.queue.imp_right fun hr => ⟨hr.1, hr.2.1, rfl⟩ },
      { he with served := fun _ _ => hnil, closed := fun hm => ⟨rfl, (he.closed hm).2⟩ }⟩

lemma last_snoc {l : List (Outcome α δ)} {o : Outcome α δ}
    (h : ∀ u v, l = u ++ .closed :: v → ∀ o ∈ v, o = .closed) (ho : .closed ∈ l → o = .closed)
    (u v : List (Outcome α δ)) (huv : l ++ [o] = u ++ .closed :: v) : ∀ o ∈ v, o = .closed := by
  rcases Machine.split_snoc huv with ⟨-, rfl⟩ | ⟨w, rfl, hw⟩
  · simp
  · intro p hp
    rcases List.mem_append.mp hp with hp | hp
    · exact h u w hw p hp
    · rw [List.mem_singleton.mp hp]
      exact ho (by simp [hw])

/-- A `receive` ends with `o`: an item that leaves the queue, the lag so far, or the end. -/
lemma booked_tell (q' : LossyQueue (Item α δ)) {s' : State α δ} {o : Outcome α δ}
    (he : Ends q s) (hso : s'.outcomes = s.outcomes) (hcap : s'.queue.length ≤ capacity)
    (hq : s'.queue = q'.items.map .item ∨ s'.queue = [.terminal] ∧ q'.items = [] ∧
      s'.terminal = true)
    (hp : q'.arrived = s'.published) (hd : q'.taken = s.delivered ++ o.delivered.toList)
    (hr : q'.dropped.length = s.reported + o.skipped + s'.lagged)
    (hlast : .closed ∈ s.outcomes → o = .closed)
    (hend : o = .closed → s'.terminal = true ∧ q'.items = [] ∧ s'.lagged = 0) :
    Booked capacity (s'.tell o) := by
  refine ⟨q', ⟨hcap, hq, hp, ?_, ?_⟩,
    ⟨by simp [State.tell], by simp [State.tell], fun hm => ?_, ?_⟩⟩
  · rw [hd]
    cases o <;> simp [State.delivered, State.tell, hso, Outcome.delivered]
  · rw [hr]
    simp [State.reported, State.tell, hso]
  · simp only [State.tell, hso, List.mem_append, List.mem_singleton] at hm
    exact hend (hm.elim hlast Eq.symm)
  · simp only [State.tell, hso]
    exact last_snoc he.last hlast

lemma booked_get (hk : Kept capacity q s) (he : Ends q s) (hlag : s.lagged = 0 ∨ q.items ≠ [])
    (hwait : s.queue = [] → s.terminal = false) : Booked capacity s.get := by
  unfold State.get
  split
  · rename_i hnil
    refine ⟨q, { hk with }, { he with waiting := fun _ => hlag, served := fun _ ht => ?_ }⟩
    rw [hwait hnil] at ht
    cases ht
  rename_i y rest hqueue
  have hcap : rest.length ≤ capacity := by
    have := hk.capacity
    rw [hqueue, List.length_cons] at this
    omega
  rcases hk.queue with hq | ⟨hq, hi, ht⟩
  · cases hitems : q.items with
    | nil => simp [hq, hitems] at hqueue
    | cons x xs =>
      obtain ⟨rfl, rfl⟩ : .item x = y ∧ xs.map .item = rest := by simpa [hq, hitems] using hqueue
      refine booked_tell (q.take 1) he rfl hcap (.inl ?_)
        ((q.arrived_take 1).trans hk.published) ?_ ?_ (fun hm => ?_)
        (by simp [Entry.outcome])
      · simp [LossyQueue.take, hitems]
      · simp [hitems, hk.delivered, Entry.outcome, Outcome.delivered]
      · simp [hk.dropped, Entry.outcome, Outcome.skipped]
      · have hnil := (he.closed hm).2.1
        simp [hitems] at hnil
  · obtain ⟨rfl, rfl⟩ : .terminal = y ∧ [] = rest := by simpa [hq] using hqueue
    exact booked_tell q he rfl hcap (.inl (by simp [hi])) hk.published
      (hk.delivered.trans (List.append_nil _).symm) hk.dropped (fun _ => rfl)
      fun _ => ⟨ht, hi, hlag.resolve_right fun hne => hne hi⟩

lemma booked_receive (h : Booked capacity s) : Booked capacity s.receive := by
  obtain ⟨q, hk, he⟩ := h
  have hdel : q.taken = s.delivered ++ [] := hk.delivered.trans (List.append_nil _).symm
  unfold State.receive
  split
  · rename_i hlag
    exact booked_tell q he rfl hk.capacity hk.queue hk.published hdel hk.dropped
      (fun hm => absurd (he.closed hm).2.2 hlag) (by simp)
  rename_i hlag
  rw [not_not] at hlag
  split
  · rename_i hend
    refine booked_tell q he rfl hk.capacity hk.queue hk.published hdel hk.dropped (fun _ => rfl)
      fun _ => ⟨hend.1, ?_, hlag⟩
    rw [← hk.queued, State.queued, hend.2]
    rfl
  · rename_i hend
    refine booked_get hk he (.inl hlag) fun hnil => ?_
    simpa [hnil] using hend

theorem booked_step (hc : 1 ≤ capacity) {e : Event α δ} (h : Booked capacity s)
    (hok : Counts maxsize s e) (hs : step capacity maxsize s e = some t) : Booked capacity t := by
  have hflag : ∀ b, Booked capacity { s with subscribed := b } := by
    obtain ⟨q, hk, he⟩ := h
    exact fun b => ⟨q, { hk with }, { he with }⟩
  cases e with
  | publish x =>
    obtain rfl := Option.some.inj hs
    split
    · exact booked_publish hc hok h x
    · exact h
  | receive =>
    simp only [step, Option.ite_none_left_eq_some, Option.some.injEq] at hs
    exact hs.2 ▸ booked_receive h
  | resume =>
    obtain ⟨q, hk, he⟩ := h
    simp only [step, Option.ite_none_right_eq_some, Option.some.injEq] at hs
    obtain ⟨⟨hw, hne⟩, rfl⟩ := hs
    exact booked_get hk he (he.waiting hw) fun hnil => absurd hnil hne
  | cancel =>
    obtain ⟨q, hk, he⟩ := h
    simp only [step, Option.ite_none_right_eq_some, Option.some.injEq] at hs
    obtain ⟨-, rfl⟩ := hs
    exact ⟨q, { hk with }, { he with waiting := by simp, served := by simp }⟩
  | close =>
    obtain rfl := Option.some.inj hs
    exact booked_finish hc (hflag false)
  | terminate =>
    obtain rfl := Option.some.inj hs
    split
    · exact booked_finish hc h
    · exact h

lemma run_booked (hc : 1 ≤ capacity) {l : List (Event α δ)}
    (h : Machine.Runs (step capacity maxsize) (Counts maxsize) {} l s) : Booked capacity s := by
  refine h.invariant (I := Booked capacity) ⟨{}, ?_, ?_⟩ fun a e b hi hok hs =>
    booked_step hc hi hok hs
  · exact ⟨Nat.zero_le _, .inl rfl, rfl, rfl, rfl⟩
  · exact ⟨by simp, by simp, by simp, by simp⟩

lemma outcomes_get (h : Kept capacity q s) (hne : s.queue ≠ []) :
    ∃ o, s.get.outcomes = s.outcomes ++ [o] ∧ (o = .closed → s.queued = []) := by
  unfold State.get
  split
  · contradiction
  · rename_i y rest hqueue
    refine ⟨_, rfl, fun hy => ?_⟩
    rw [h.queued]
    rcases h.queue with hq | ⟨-, hi, -⟩
    · obtain ⟨x, -, rfl⟩ : ∃ x ∈ q.items, .item x = y := by
        rw [← List.mem_map, ← hq, hqueue]
        exact List.mem_cons_self
      cases hy
    · exact hi

lemma outcomes_receive (h : Kept capacity q s) (ht : s.terminal = true) :
    ∃ o, s.receive.outcomes = s.outcomes ++ [o] ∧ (o = .closed → s.queued = []) := by
  unfold State.receive
  split
  · exact ⟨_, rfl, by simp⟩
  split
  · rename_i hend
    exact ⟨_, rfl, fun _ => by rw [State.queued, hend.2]; rfl⟩
  · rename_i hend
    exact outcomes_get h fun hnil => hend ⟨ht, hnil⟩

/-- A receive waits, three items reach a queue of two before it goes on, and the client
terminates. -/
def overflow : List (Event ℕ ℕ) :=
  [.receive, .publish (.event 1), .publish (.error 2), .publish (.event 3), .resume, .receive,
    .terminate, .receive, .receive, .receive]

end RobotHal.Python.Events
