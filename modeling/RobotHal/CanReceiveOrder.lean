import RobotHal.CanReceive
import RobotHal.LossyQueue

/-!
The order and the bounds of what a CAN session receives.

A session's ring is a queue that drops its oldest frame. With its past kept, every frame that
arrived for the session is handed over, lost, or there; and what is lost is counted until an
answer reports it.
-/

namespace RobotHal.CanActor

variable {c : Config} {d : Desk}
variable {cap : ℕ} {r : ResourceId} {x : ActorSession}

/-! ### The account of a session -/

/-- What an answer carries: frames, the report of a loss with what was lost on the way here and
what the channel had missed, or neither. -/
inductive Load
  | frames (frames : List ReceivedCanFrame)
  | lag (lost : List ReceivedCanFrame) (missed : ℕ)
  | failed (e : HalError)

/-- The number a loss is reported with. -/
def lagCount (lost : List ReceivedCanFrame) (missed : ℕ) : ℕ := min (lost.length + missed) u64Max

def Load.result (r : ResourceId) : Load → HalResult (List ReceivedCanFrame)
  | .frames fs => .ok fs
  | .lag lost missed => .error (lagged r (lagCount lost missed))
  | .failed e => .error e

def Load.lost : Load → List ReceivedCanFrame
  | .lag lost _ => lost
  | _ => []

/-- The ring with its past, what each answer carried, and what is not reported yet. -/
structure Tally where
  queue : LossyQueue ReceivedCanFrame := {}
  loads : List Load := []
  lost : List ReceivedCanFrame := []
  missed : ℕ := 0

/-- The account of a session is in order. -/
structure Tally.Fits (t : Tally) (cap : ℕ) (r : ResourceId) (x : ActorSession)
    (arrived : List ReceivedCanFrame) (answers : List Answer) : Prop where
  items : t.queue.items = x.received
  arrived : t.queue.arrived = arrived
  taken : t.queue.taken = answers.flatMap Answer.frames
  dropped : t.queue.dropped = t.loads.flatMap Load.lost ++ t.lost
  results : answers.map Answer.result = t.loads.map (Load.result r)
  count : x.dropped = lagCount t.lost t.missed
  room : 1 ≤ cap → t.queue.items.length ≤ cap

namespace Tally

variable {t : Tally} {cap : ℕ} {r : ResourceId} {x y : ActorSession}
  {arrived : List ReceivedCanFrame}
  {answers : List Answer}
  (h : t.Fits cap r x arrived answers)

include h

lemma Fits.congr (hr : y.received = x.received) (hd : y.dropped = x.dropped) :
    t.Fits cap r y arrived answers :=
  ⟨h.items.trans hr.symm, h.arrived, h.taken, h.dropped, h.results, hd.trans h.count,
    h.room⟩

lemma Fits.still (hr : y.received = x.received) (hd : y.dropped = x.dropped) :
    ∃ t' : Tally, t'.Fits cap r y arrived (answers ++ []) :=
  ⟨t, by rw [List.append_nil]; exact h.congr hr hd⟩

lemma Fits.fail (call m : ℕ) (e : HalError) :
    ∃ t' : Tally, t'.Fits cap r x arrived (answers ++ [⟨call, m, .error e⟩]) :=
  ⟨{ t with loads := t.loads ++ [.failed e] }, h.items, h.arrived, by simp [h.taken, Answer.frames],
    by simp [h.dropped, Load.lost], by simp [h.results, Load.result], h.count, h.room⟩

lemma Fits.hand (call m k : ℕ) :
    ∃ t' : Tally, t'.Fits cap r { x with received := x.received.drop k } arrived
      (answers ++ [⟨call, m, .ok (x.received.take k)⟩]) := by
  refine ⟨{ t with queue := t.queue.take k, loads := t.loads ++ [.frames (x.received.take k)] },
    ?_, by simp [h.arrived], ?_, by simp [h.dropped, Load.lost], by simp [h.results, Load.result],
    h.count, fun hc => ?_⟩
  · simp [LossyQueue.take, h.items]
  · simp [h.taken, h.items, Answer.frames]
  · have := h.room hc
    simp only [LossyQueue.take, List.length_drop]
    omega

lemma Fits.report (call m : ℕ) : ∃ t' : Tally, t'.Fits cap r { x with dropped := 0 } arrived
      (answers ++ [⟨call, m, .error (lagged r x.dropped)⟩]) :=
  ⟨{ t with loads := t.loads ++ [.lag t.lost t.missed], lost := [], missed := 0 }, h.items,
    h.arrived, by simp [h.taken, Answer.frames], by simp [h.dropped, Load.lost],
    by simp [h.results, Load.result, h.count], by simp [lagCount], h.room⟩

lemma Fits.offer (frame : ReceivedCanFrame) (hm : x.filters.matches frame.frame = true) :
    ∃ t' : Tally, t'.Fits cap r (CanActor.offer cap frame x) (arrived ++ [frame]) answers := by
  -- a ring without room counts a loss even if it was empty
  let extra := if x.received.length = cap then 1 - (t.queue.evicted cap).length else 0
  refine ⟨{ t with
    queue := t.queue.push cap frame
    lost := t.lost ++ t.queue.evicted cap
    missed := t.missed + extra }, ?_, by simp [h.arrived], by simp [h.taken],
    by simp [h.dropped], h.results, ?_, fun hc => t.queue.length_push_le cap frame hc (h.room hc)⟩
  · by_cases hfull : x.received.length = cap
    · rcases hx : x.received with _ | ⟨y, l⟩ <;>
        simp_all [CanActor.offer, LossyQueue.push, LossyQueue.evicted, h.items]
    · simp [CanActor.offer, hm, hfull, LossyQueue.push, LossyQueue.evicted, h.items]
  · by_cases hfull : x.received.length = cap
    · -- the oldest frame is lost
      have hle : (t.queue.evicted cap).length ≤ 1 := by
        simp only [LossyQueue.evicted, h.items, hfull, if_true, List.length_take]
        omega
      simp only [CanActor.offer, hm, hfull, extra, lagCount, List.length_append, h.count,
        saturatingAdd, if_true, Bool.not_true, Bool.false_eq_true, if_false]
      omega
    · simp [CanActor.offer, hm, hfull, extra, LossyQueue.evicted, h.items, h.count]

lemma Fits.miss (n : ℕ) : ∃ t' : Tally,
      t'.Fits cap r { x with dropped := saturatingAdd x.dropped n } arrived answers := by
  refine ⟨{ t with missed := t.missed + n }, h.items, h.arrived, h.taken, h.dropped, h.results, ?_,
    h.room⟩
  simp only [h.count, saturatingAdd, lagCount]
  omega

lemma Fits.takeReceiveResult {m : ℕ} {result : HalResult (List ReceivedCanFrame)}
    (ht : CanActor.takeReceiveResult x m r = (y, some result)) (call : ℕ) :
    (∃ t' : Tally, t'.Fits cap r y arrived (answers ++ [⟨call, m, result⟩])) ∧
      (Answer.mk call m result).frames.length ≤ m := by
  unfold CanActor.takeReceiveResult at ht
  split at ht
  · -- a lag comes first
    obtain ⟨rfl, hr⟩ := Prod.mk.inj ht
    cases hr
    exact ⟨h.report call m, by simp [Answer.frames]⟩
  split at ht
  · obtain ⟨rfl, hr⟩ := Prod.mk.inj ht
    cases hr
    obtain ⟨t', ht'⟩ := h.fail call m _
    exact ⟨⟨t', ht'.congr rfl rfl⟩, by simp [Answer.frames]⟩
  split at ht
  · cases ht
  · obtain ⟨rfl, hr⟩ := Prod.mk.inj ht
    cases hr
    refine ⟨h.hand call m _, ?_⟩
    simp only [Answer.frames, List.length_take]
    omega

lemma Fits.service (gone : Bool) (now : ℕ) :
    (∃ t' : Tally, t'.Fits cap r (x.service r gone now).1 arrived
      (answers ++ (x.service r gone now).2)) ∧
      ∀ y ∈ (x.service r gone now).2, y.frames.length ≤ y.maxFrames := by
  unfold ActorSession.service
  split
  · exact ⟨h.still rfl rfl, by simp⟩
  next p hp =>
  dsimp only
  split
  · exact ⟨h.still rfl rfl, by simp⟩
  have h' : t.Fits cap r { x with pendingReceive := none } arrived answers := h.congr rfl rfl
  split
  next y result ht => simpa using h'.takeReceiveResult ht p.call
  next y ht =>
    obtain rfl := takeReceiveResult_none ht
    split
    · obtain ⟨t', ht'⟩ := h'.hand p.call p.maxFrames 0
      exact ⟨⟨t', by simpa using ht'⟩, by simp [Answer.frames]⟩
    · exact ⟨h.still rfl rfl, by simp⟩

lemma Fits.receive (call m deadline now : ℕ) :
    (∃ t' : Tally, t'.Fits cap r (x.receive r call m deadline now).1 arrived
      (answers ++ (x.receive r call m deadline now).2)) ∧
      ∀ y ∈ (x.receive r call m deadline now).2, y.frames.length ≤ y.maxFrames := by
  unfold ActorSession.receive
  split
  · exact ⟨h.fail call m _, by simp [Answer.frames]⟩
  split
  next y result ht => simpa using h.takeReceiveResult ht call
  next y ht =>
    obtain rfl := takeReceiveResult_none ht
    split
    · obtain ⟨t', ht'⟩ := h.hand call m 0
      exact ⟨⟨t', by simpa using ht'⟩, by simp [Answer.frames]⟩
    · exact ⟨h.still rfl rfl, by simp⟩

lemma Fits.polled (res : HalResult (Option ReceivedCanFrame)) :
    ∃ t' : Tally, t'.Fits cap r (x.polled r cap res) (arrived ++ x.arrivals res) answers := by
  rcases res with err | _ | frame
  · -- the poll failed
    rw [show x.arrivals (.error err) = [] from rfl, List.append_nil]
    simp only [ActorSession.polled, receiveFailed]
    split
    · exact h.miss _
    · exact ⟨t, h.congr rfl rfl⟩
  · exact ⟨t, by simpa [ActorSession.polled, ActorSession.arrivals, validFrame] using h⟩
  · rcases hv : frame.frame.validate with err | ⟨⟩
    · -- the frame is invalid
      refine ⟨t, ?_⟩
      simp only [ActorSession.polled, hv]
      have : x.arrivals (.ok (some frame)) = [] := by
        simp [ActorSession.arrivals, validFrame, hv, Except.isOk, Except.toBool]
      rw [this, List.append_nil]
      exact h.congr rfl rfl
    · simp only [ActorSession.polled, hv]
      rcases hm : x.filters.matches frame.frame with _ | _
      · -- the filters drop it
        refine ⟨t, ?_⟩
        simpa [CanActor.offer, hm, ActorSession.arrivals, validFrame, hv, Except.isOk,
          Except.toBool] using h
      · have : x.arrivals (.ok (some frame)) = [frame] := by
          simp [ActorSession.arrivals, validFrame, hv, Except.isOk, Except.toBool, hm]
        rw [this]
        exact h.offer frame hm

lemma Fits.poll (res : HalResult (Option ReceivedCanFrame)) (now : ℕ) (gone : Bool) :
    (∃ t' : Tally, t'.Fits cap r (x.poll r cap res now gone).1 (arrived ++ x.arrivals res)
      (answers ++ (x.poll r cap res now gone).2)) ∧
      ∀ y ∈ (x.poll r cap res now gone).2, y.frames.length ≤ y.maxFrames := by
  obtain ⟨t', h'⟩ := h.polled res
  unfold ActorSession.poll
  split
  · exact h'.service gone now
  · exact ⟨h'.still rfl rfl, by simp⟩

end Tally

/-- What holds of a desk: frames are handed over in the order of their arrival, never more than
asked for, and the account of the session is in order. -/
structure Desk.Sound (cap : ℕ) (r : ResourceId) (d : Desk) : Prop where
  order : (d.answers.flatMap Answer.frames).Sublist d.arrived
  bound : ∀ y ∈ d.answers, y.frames.length ≤ y.maxFrames
  account : ∀ x, d.session = some x → ∃ t : Tally, t.Fits cap r x d.arrived d.answers

lemma Desk.Sound.next {frames : List ReceivedCanFrame} {x : ActorSession × List Answer}
    (h : d.Sound cap r)
    (hx : (∃ t : Tally, t.Fits cap r x.1 (d.arrived ++ frames) (d.answers ++ x.2)) ∧
      ∀ y ∈ x.2, y.frames.length ≤ y.maxFrames) : (d.next frames x).Sound cap r := by
  obtain ⟨⟨t, ht⟩, hb⟩ := hx
  refine ⟨?_, ?_, ?_⟩
  · have := t.queue.taken_sublist
    rwa [ht.taken, ht.arrived] at this
  · intro y hy
    rcases List.mem_append.mp hy with hy | hy
    · exact h.bound y hy
    · exact hb y hy
  · intro y hy
    cases hy
    exact ⟨t, ht⟩

lemma Desk.sound_empty (cap : ℕ) (r : ResourceId) : ({} : Desk).Sound cap r :=
  ⟨by simp, by simp, by simp⟩

lemma Desk.sound_add (cap : ℕ) (r : ResourceId) (filters : CanFilterSet) :
    ({ session := some { filters } } : Desk).Sound cap r := by
  refine ⟨by simp, by simp, fun y hy => ⟨{}, ?_⟩⟩
  cases hy
  constructor <;> simp [LossyQueue.arrived, LossyQueue.taken, LossyQueue.dropped, lagCount]

lemma Desk.Sound.remove (h : d.Sound cap r) (x : ActorSession) :
    ({ d with session := none, answers := d.answers ++ x.turnAway r } : Desk).Sound cap r := by
  have hno : ∀ y ∈ x.turnAway r, y.frames = [] := by
    unfold ActorSession.turnAway
    split <;> simp [Answer.frames]
  refine ⟨?_, fun y hy => ?_, by simp⟩
  · rw [List.flatMap_append, List.flatMap_eq_nil_iff.mpr hno, List.append_nil]
    exact h.order
  · rcases List.mem_append.mp hy with hy | hy
    · exact h.bound y hy
    · simp [hno y hy]

lemma Desk.Sound.step (h : d.Sound cap r) (i : Input) : (d.step cap r i).Sound cap r := by
  rcases hs : d.session with _ | x
  · cases i with
    | add filters => exact Desk.sound_add cap r filters
    | _ => simpa [Desk.step, hs] using h
  · obtain ⟨t, ht⟩ := h.account x hs
    cases i with
    | add filters => exact Desk.sound_add cap r filters
    | remove =>
      simp only [Desk.step, hs]
      exact h.remove x
    | receive call m deadline now =>
      simp only [Desk.step, hs]
      exact h.next (by simpa using ht.receive call m deadline now)
    | filters filters =>
      simp only [Desk.step, hs]
      exact h.next ⟨by rw [List.append_nil]; exact ht.still rfl rfl, by simp⟩
    | poll res now gone =>
      simp only [Desk.step, hs]
      exact h.next (ht.poll res now gone)
    | serve now gone =>
      simp only [Desk.step, hs]
      exact h.next (by simpa using ht.service gone now)

lemma Desk.run_snoc (cap : ℕ) (r : ResourceId) (l : List Input) (o : Option Input) :
    Desk.run cap r (l ++ o.toList) = (Desk.run cap r l).step? cap r o := by
  cases o <;> simp [Desk.run, Desk.step?]

lemma Desk.run_sound (cap : ℕ) (r : ResourceId) (l : List Input) :
    (Desk.run cap r l).Sound cap r := by
  induction l using List.reverseRecOn with
  | nil => exact Desk.sound_empty cap r
  | append_singleton l i ih =>
    have := Desk.run_snoc cap r l (some i)
    rw [Option.toList_some] at this
    rw [this]
    exact ih.step i

/-! ### Runs of an actor -/

/-- What happens to an actor: others fill its queues, or its thread goes on. -/
inductive Drive
  | queue (commands : List CanCommand) (cleanup : List Removal) (txReserved : ℕ)
  | thread (f : Flags) (e : ActorEvent)

def drive (c : Config) (a : Actor) : Drive → Option Actor
  | .queue commands cleanup txReserved =>
    some { a with
      commands := a.commands ++ commands, cleanup := a.cleanup ++ cleanup, txReserved }
  | .thread f e => (a.step c f e).map Prod.fst

/-- What a run brings to a session. -/
def inputs (id : SessionId) (h : List (Actor × Drive)) : List Input :=
  h.flatMap fun x =>
    match x.2 with
    | .queue _ _ _ => []
    | .thread f e => (x.1.input f e id).toList

variable {r : ResourceId} {first : ActorSessionSpec} {l : List Drive} {a : Actor}
  {ok : Actor → Drive → Prop}

/-- A session of an actor is its desk, whatever the others do. -/
theorem run_desk (h : Machine.Runs (drive c) ok { resource := r, first } l a) (id : SessionId) :
    a.resource = r ∧ (Desk.run c.rxCapacity r
      (inputs id (Machine.steps (drive c) { resource := r, first } l))).session =
        a.sessions.lookup id := by
  induction h with
  | nil => exact ⟨rfl, rfl⟩
  | @snoc l a a' ev h hok hs ih =>
    obtain ⟨hr, hd⟩ := ih
    rw [h.steps_snoc, inputs, List.flatMap_append, ← inputs]
    cases ev with
    | queue commands cleanup txReserved =>
      cases hs
      exact ⟨hr, by simpa using hd⟩
    | thread f e =>
      obtain ⟨x, hx, rfl⟩ := Option.map_eq_some_iff.mp hs
      refine ⟨(flow_step hx).resource.trans hr, ?_⟩
      have hd' := desk_step hd hx
      rw [hd', hr, ← Desk.run_snoc]
      simp

lemma stage_ne_opening {f : Flags} {e : ActorEvent} {x : Actor × List Notice}
    (h : a.step c f e = some x) : x.1.stage ≠ .opening := by
  cases step_does h with
  | pruned =>
    unfold prune
    dsimp only
    split
    · simp
    · split <;> simp
  | removed =>
    unfold removeSession
    dsimp only
    split
    · simp
    · split <;> simp
  | @executed now answer left cmd rest _ _ =>
    intro hopen
    have hx := executed { a with commands := rest, stage := .managing left } f now answer left cmd
    rcases hx.stage with hs | ⟨_, _, _, -, -, -, hs⟩ <;> cases hs.symm.trans hopen
  | managed _ _ hnext => rcases hnext with rfl | rfl <;> simp
  | _ => simp [Actor.abandon, endBatch, Actor.pass]

lemma run_blank (h : Machine.Runs (drive c) ok { resource := r, first } l a) : a.Blank := by
  refine h.invariant (I := Actor.Blank) (fun _ _ => rfl) fun a ev a' hb _ hs => ?_
  cases ev with
  | queue commands cleanup txReserved =>
    cases hs
    exact hb
  | thread f e =>
    obtain ⟨x, hx, rfl⟩ := Option.map_eq_some_iff.mp hs
    intro hst
    exact absurd hst (stage_ne_opening hx)

/-! ### Losses come first -/

lemma takeReceiveResult_of_dropped (hx : x.dropped > 0) (m : ℕ) (r : ResourceId) :
    takeReceiveResult x m r =
      ({ x with dropped := 0 }, some (.error (lagged r x.dropped))) := by
  rw [takeReceiveResult, if_pos hx]

lemma service_of_dropped (hx : x.dropped > 0) (r : ResourceId) (gone : Bool) (now : ℕ) :
    ∀ y ∈ (x.service r gone now).2, y.frames = [] := by
  unfold ActorSession.service
  split
  · simp
  next p hp =>
  dsimp only
  split
  · simp
  · rw [takeReceiveResult_of_dropped (x := { x with pendingReceive := none }) hx]
    simp [Answer.frames]

lemma dropped_polled (hx : x.dropped > 0) (r : ResourceId) (cap : ℕ)
    (res : HalResult (Option ReceivedCanFrame)) : (x.polled r cap res).dropped > 0 := by
  have hadd (n : ℕ) : saturatingAdd x.dropped n > 0 := by
    simp only [saturatingAdd, u64Max]
    omega
  unfold ActorSession.polled
  split
  · exact hx
  · split
    · unfold offer
      split
      · exact hx
      · dsimp only
        split
        · exact hadd 1
        · exact hx
    · exact hx
  · unfold receiveFailed
    split
    · exact hadd _
    · exact hx

/-- As long as a loss is not reported, no frame is handed over. -/
lemma lag_first (hx : x.dropped > 0) (cap : ℕ) (r : ResourceId) (o : Option Input) :
    ∀ y ∈ (({ session := some x } : Desk).step? cap r o).answers, y.frames = [] := by
  rcases o with _ | i
  · simp [Desk.step?]
  cases i with
  | add filters => simp [Desk.step?, Desk.step]
  | remove =>
    simp only [Desk.step?, Desk.step, List.nil_append, ActorSession.turnAway]
    split <;> simp [Answer.frames]
  | receive call m deadline now =>
    simp only [Desk.step?, Desk.step, Desk.next, List.nil_append, ActorSession.receive]
    split
    · simp [Answer.frames]
    · rw [takeReceiveResult_of_dropped hx]
      simp [Answer.frames]
  | filters filters => simp [Desk.step?, Desk.step, Desk.next]
  | poll res now gone =>
    simp only [Desk.step?, Desk.step, Desk.next, List.nil_append, ActorSession.poll]
    split
    · exact service_of_dropped (dropped_polled hx r cap res) r gone now
    · simp
  | serve now gone =>
    simp only [Desk.step?, Desk.step, Desk.next, List.nil_append]
    exact service_of_dropped hx r gone now

lemma offer_received (hx : x.received.length ≤ cap) {frame : ReceivedCanFrame}
    (hm : x.filters.matches frame.frame = true) :
    (offer cap frame x).received = x.received.drop (x.received.length + 1 - cap) ++ [frame] := by
  unfold offer
  rw [hm]
  by_cases hfull : x.received.length = cap
  · simp [hfull]
  · have : x.received.length + 1 - cap = 0 := by omega
    simp [hfull, this]

/-- **Order and bounds of what a session receives.** -/
theorem receive_order_and_bounds (hc : 1 ≤ c.rxCapacity)
    (h : Machine.Runs (drive c) (fun _ _ => True) { resource := r, first } l a) (id : SessionId) :
    let d := Desk.run c.rxCapacity r
      (inputs id (Machine.steps (drive c) { resource := r, first } l))
    -- the session is what its own inputs make of it, whatever the other sessions do
    d.session = a.sessions.lookup id ∧
    -- frames are handed over in the order in which they arrived, each at most once
    (d.answers.flatMap Answer.frames).Sublist d.arrived ∧
    (∀ y ∈ d.answers, y.frames.length ≤ y.maxFrames) ∧
    (∀ x, a.sessions.lookup id = some x →
      x.received.length ≤ c.rxCapacity ∧ x.received <:+ d.arrived ∧
      (∀ frame, x.filters.matches frame.frame = true → (offer c.rxCapacity frame x).received =
        x.received.drop (x.received.length + 1 - c.rxCapacity) ++ [frame]) ∧
      (x.dropped > 0 → ∀ f e, ∀ y ∈ a.answers c f e id, y.frames = [])) ∧
    -- what the actor hands out next is what the sessions answer
    ∀ f e x, a.step c f e = some x → ∀ call fs,
      .answered call (some (.frames (.ok fs))) ∈ x.2 ↔
        ∃ id m, ⟨call, m, .ok fs⟩ ∈ a.answers c f e id := by
  intro d
  obtain ⟨hr, hd⟩ := run_desk h id
  have hs : d.Sound c.rxCapacity r := Desk.run_sound c.rxCapacity r _
  refine ⟨hd, hs.order, hs.bound, fun x hx => ?_, fun f e x hx call fs => ?_⟩
  · obtain ⟨t, ht⟩ := hs.account x (hd.trans hx)
    have hroom : x.received.length ≤ c.rxCapacity := ht.items ▸ ht.room hc
    refine ⟨hroom, ?_, fun frame hm => offer_received hroom hm, fun hlag f e => ?_⟩
    · have := t.queue.items_suffix
      rwa [ht.items, ht.arrived] at this
    · unfold Actor.answers
      rw [hx]
      exact lag_first hlag _ _ _
  · refine ⟨answer_of_told hx, ?_⟩
    rintro ⟨id', m, hy⟩
    exact told_of_answer (run_blank h) hx hy

/-- Nobody has cancelled anything or is gone. -/
def present : Flags := ⟨fun _ => false, fun _ => true, fun _ => false⟩

def dataFrame (n : UInt8) : ReceivedCanFrame := ⟨.classicData (.standard 1) [n], none⟩

/-- A lap of the actor's loop that finds its queues empty and brings a frame. -/
def frameLap (n : UInt8) : List Drive :=
  [.thread present (.prune (.ok ())), .thread present (.clean (.ok ())),
    .thread present (.manage 0 (.ok ⟨.active, none, none⟩)),
    .thread present (.poll (.ok (some (dataFrame n))) 0), .thread present (.serve 0)]

/-- A lap that executes a receive and brings nothing. -/
def receiveLap (call : ℕ) : List Drive :=
  [.queue [.receive call ⟨"s1"⟩ 4 9] [] 0, .thread present (.prune (.ok ())),
    .thread present (.clean (.ok ())), .thread present (.manage 0 (.ok ⟨.active, none, none⟩)),
    .thread present (.manage 0 (.ok ⟨.active, none, none⟩)),
    .thread present (.poll (.ok none) 0), .thread present (.serve 0)]

/-- Three frames arrive where two have room; the loss is reported, then the two are received. -/
def overrun : List Drive :=
  .thread present (.opened (.ok ⟨.classic, { bitrate := 500000 }, none, false, false, "host"⟩)) ::
    (frameLap 1 ++ frameLap 2 ++ frameLap 3 ++ receiveLap 0 ++ receiveLap 1)

def observer : ActorSessionSpec := ⟨⟨"s1"⟩, .attach {}, []⟩

theorem receive_order_and_bounds_overrun :
    ∃ a, Machine.Runs (drive ⟨2, 16, "5s"⟩) (fun _ _ => True)
        { resource := ⟨"can0"⟩, first := observer } overrun a ∧
      let d := Desk.run 2 ⟨"can0"⟩ (inputs ⟨"s1"⟩ (Machine.steps (drive ⟨2, 16, "5s"⟩)
        { resource := ⟨"can0"⟩, first := observer } overrun))
      d.arrived = [dataFrame 1, dataFrame 2, dataFrame 3] ∧
      d.answers.map Answer.result =
        [.error (lagged ⟨"can0"⟩ 1), .ok [dataFrame 2, dataFrame 3]] ∧
      d.session = a.sessions.lookup ⟨"s1"⟩ ∧
      (d.answers.flatMap Answer.frames).Sublist d.arrived := by
  have hexec : ∃ a ∈ Machine.exec (drive ⟨2, 16, "5s"⟩) (fun _ _ => True)
      { resource := ⟨"can0"⟩, first := observer } overrun, a.stage = .pruning := by decide +kernel
  obtain ⟨a, ha, -⟩ := hexec
  have h := Machine.runs_of_exec ha
  obtain ⟨hd, hsub, -⟩ := receive_order_and_bounds (by decide) h ⟨"s1"⟩
  exact ⟨a, h, by decide +kernel, by decide +kernel, hd, hsub⟩

end RobotHal.CanActor
