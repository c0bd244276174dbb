import RobotHal.CanBackend
import RobotHal.CanRequests
import RobotHal.CanWire

/-!
What the sender of a batch is told, against what the channel did.

The calls of the channel's `send` are read off a run. A batch that is waiting has none, one that
is being sent has the frames that were accepted so far, and the answer counts them. The calls of
two batches are never mixed.
-/

namespace RobotHal.CanActor

variable {c : Config} {a : Actor} {f : Flags} {e : ActorEvent} {x : Actor × List Notice} {n : ℕ}
variable {cmd : CanCommand} {now : ℕ}
variable {left : ℕ} {y : ActorSession} {closeResult : HalResult Unit}

/-- A call of the channel's `send` and what came of it; a panic has no result. -/
structure Sent where
  call : ℕ
  frame : CanFrame
  result : Option (HalResult Unit)

/-- The call of `send` that ends with this event. -/
def Actor.sent (a : Actor) : ActorEvent → Option Sent
  | .frame res =>
    match a.stage with
    | .sending n _ (x :: _) _ _ => some ⟨n, x, some res⟩
    | _ => none
  | .panicked =>
    match a.stage with
    | .sending n _ (x :: _) _ _ => some ⟨n, x, none⟩
    | _ => none
  | _ => none

lemma sent_stage {y : Sent} (h : a.sent e = some y) :
    ∃ count rest k left, a.stage = .sending y.call count (y.frame :: rest) k left := by
  unfold Actor.sent at h
  split at h
  · split at h
    · rename_i hst
      cases h
      exact ⟨_, _, _, _, hst⟩
    · cases h
  · split at h
    · rename_i hst
      cases h
      exact ⟨_, _, _, _, hst⟩
    · cases h
  · cases h

lemma owed_of_sending {count k : ℕ} {rest : List CanFrame}
    (h : a.stage = .sending n count rest k left) : 0 < a.owed n := by
  simp only [Actor.owed, h, Stage.owed, if_true]
  omega

end RobotHal.CanActor

namespace RobotHal.CanManager

open CanActor (Actor ActorEvent CanCommand Config Notice OpReply Sent)

variable {e n count k left e' : ℕ} {a b : Actor} {rest frames : List CanFrame} {t : OpTask}
  {ev : Event}
variable {s : State} {pc : OpPc} {cmd : CanCommand} {r : ResourceId} {y : Sent}
  {x : CanBatchSendError}

/-! ### What was sent in a run -/

/-- The call of `send` that ends with an event, and the actor that made it. -/
def State.sent (s : State) : Event → Option (ℕ × Sent)
  | .actor e ev => ((s.threads.lookup e).bind fun a => a.sent ev).map fun y => (e, y)
  | _ => none

/-- All calls of `send` of a run. -/
def sends (l : List (State × Event)) : List (ℕ × Sent) := l.filterMap fun x => x.1.sent x.2

/-- The frames of one call and what became of them. -/
def sendsOf (n : ℕ) (l : List (ℕ × Sent)) : List (CanFrame × Option (HalResult Unit)) :=
  (l.filter fun y => y.2.call = n).map fun y => (y.2.frame, y.2.result)

/-- The calls that the channel of an actor served, once for each frame. -/
def callsOn (e : ℕ) (l : List (ℕ × Sent)) : List ℕ :=
  (l.filter fun y => y.1 = e).map fun y => y.2.call

def accepted (frames : List CanFrame) : List (CanFrame × Option (HalResult Unit)) :=
  frames.map fun x => (x, some (.ok ()))

/-- Between two entries of one call there is no other. -/
def Uninterrupted (l : List ℕ) : Prop := ∀ u v w n, l = u ++ n :: v ++ n :: w → ∀ m ∈ v, m = n

/-- What the answer to a batch says of what was sent. -/
def Verdict (frames : List CanFrame) (sent : List (CanFrame × Option (HalResult Unit))) :
    Except CanBatchSendError Unit → Prop
  | .ok _ => sent = accepted frames
  | .error x => (x.committed = 0 ∧ sent = []) ∨
    ∃ y out, frames[x.committed]? = some y ∧
      sent = accepted (frames.take x.committed) ++ [(y, out)] ∧
      (out = some (.error x.error) ∨ out = none)

/-- The channel does not panic in a batch of which it has accepted a frame, unless its sender is
gone. -/
def Unbroken (s : State) : Event → Prop
  | .actor e .panicked =>
    match (s.threads.lookup e).map Actor.stage with
    | some (.sending n _ _ (_ + 1) _) => (s.ops.lookup n).map OpTask.pc = some .dropped
    | _ => True
  | _ => True

instance (s : State) (ev : Event) : Decidable (Unbroken s ev) := by
  unfold Unbroken
  split
  · split <;> infer_instance
  · infer_instance

lemma Unbroken.spec (h : Unbroken s (.actor e .panicked)) (ha : s.threads.lookup e = some a)
    (hst : a.stage = .sending n count rest k left) :
    k = 0 ∨ ∃ t, s.ops.lookup n = some t ∧ t.pc = .dropped := by
  rcases k with _ | k
  · exact .inl rfl
  · unfold Unbroken at h
    simp only [ha, Option.map_some, hst] at h
    exact .inr (Option.map_eq_some_iff.mp h)

section Logs

variable {l : List (ℕ × Sent)} {n : ℕ}

lemma sends_snoc (l : List (State × Event)) (s : State) (ev : Event) :
    sends (l ++ [(s, ev)]) = sends l ++ (s.sent ev).toList := by
  unfold sends
  rw [List.filterMap_append]
  rcases h : s.sent ev with _ | y <;> simp [h]

lemma sendsOf_snoc (l : List (ℕ × Sent)) (e : ℕ) (y : Sent) :
    sendsOf n (l ++ [(e, y)]) =
      sendsOf n l ++ if y.call = n then [(y.frame, y.result)] else [] := by
  unfold sendsOf
  rw [List.filter_append, List.map_append]
  split <;> simp_all

lemma callsOn_snoc (l : List (ℕ × Sent)) (e e' : ℕ) (y : Sent) :
    callsOn e (l ++ [(e', y)]) = callsOn e l ++ if e' = e then [y.call] else [] := by
  unfold callsOn
  rw [List.filter_append, List.map_append]
  split <;> simp_all

lemma mem_callsOn (h : n ∈ callsOn e l) : sendsOf n l ≠ [] := by
  obtain ⟨y, hy, rfl⟩ := List.mem_map.mp h
  have hmem := List.mem_of_mem_filter hy
  intro hnil
  have hfilter := List.map_eq_nil_iff.mp hnil
  have := List.filter_eq_nil_iff.mp hfilter y hmem
  simp at this

lemma Uninterrupted.snoc {l : List ℕ} (h : Uninterrupted l)
    (hn : n ∉ l ∨ l.getLast? = some n) : Uninterrupted (l ++ [n]) := by
  intro u v w m hl k hk
  rcases Machine.split_snoc hl with ⟨rfl, rfl⟩ | ⟨w', rfl, hl'⟩
  · -- the second of the two is the new one
    have hl' : l = u ++ m :: v := List.append_cancel_right hl
    rcases hn with hn | hn
    · exact absurd (by simp [hl']) hn
    · rcases List.eq_nil_or_concat v with rfl | ⟨v', z, hv⟩
      · cases hk
      · rw [List.concat_eq_append] at hv
        subst hv
        have hlast : l = (u ++ m :: v') ++ [z] := by simpa using hl'
        rw [hlast, List.getLast?_concat] at hn
        obtain rfl := Option.some.inj hn
        rcases List.mem_append.mp hk with hk | hk
        · exact h u v' [] z hlast k hk
        · exact List.mem_singleton.mp hk
  · exact h u v w' m hl' k hk

end Logs

/-! ### The account -/

variable {sent : List (CanFrame × Option (HalResult Unit))}

/-- What an operation that sends a batch knows of what was sent. -/
def OpPc.Reported (frames : List CanFrame) (sent : List (CanFrame × Option (HalResult Unit))) :
    OpPc → Prop
  | .ready _ _ | .reserved _ _ => sent = []
  | .awaiting _ _ .waiting | .dropped => True
  | .awaiting _ _ (.sent reply) | .returned reply =>
    ∃ res, reply = .batch res ∧ Verdict frames sent res
  | .awaiting _ _ .lost => sent = [] ∨ ∃ y, frames[0]? = some y ∧ sent = [(y, none)]

/-- What was sent of the batches an actor holds. -/
structure Laid (s : State) (l : List (ℕ × Sent)) (e : ℕ) (a : Actor) : Prop where
  queued : ∀ n id frames, .sendBatch n id frames ∈ a.commands → sendsOf n l = []
  sending : ∀ n count rest k left t frames, a.stage = .sending n count rest k left →
    s.ops.lookup n = some t → t.request = .sendBatch frames →
      sendsOf n l = accepted (frames.take k)
  last : ∀ n count rest k left, a.stage = .sending n count rest (k + 1) left →
    (callsOn e l).getLast? = some n

/-- The account of the calls of `send` against the operations and the actors. -/
structure Tally (s : State) (l : List (ℕ × Sent)) : Prop where
  laid : ∀ e a, s.threads.lookup e = some a → Laid s l e a
  fresh : ∀ n, s.ops.lookup n = none → sendsOf n l = []
  reported : ∀ n t frames, s.ops.lookup n = some t → t.request = .sendBatch frames →
    t.pc.Reported frames (sendsOf n l)
  owed : ∀ e a n t frames, s.threads.lookup e = some a → 0 < a.owed n → s.ops.lookup n = some t →
    t.request = .sendBatch frames → ∀ reply, t.pc ≠ .returned reply
  apart : ∀ e, Uninterrupted (callsOn e l)

lemma accepted_append (frames more : List CanFrame) :
    accepted (frames ++ more) = accepted frames ++ accepted more := List.map_append

lemma verdict_refused (err : HalError) :
    Verdict frames [] (.error (.new err)) := .inl ⟨rfl, rfl⟩

lemma OpPc.Next.reported {pc' : OpPc} (h : pc.Next (.sendBatch frames) pc')
    (hr : pc.Reported frames sent) : pc'.Reported frames sent := by
  cases h with
  | reserve r e => exact hr
  | refuse r e err | giveUp r e err =>
    obtain rfl : sent = [] := hr
    exact ⟨_, rfl, verdict_refused err⟩
  | answer r e reply => exact hr
  | lose r e =>
    refine ⟨_, rfl, ?_⟩
    rcases hr with rfl | ⟨y, hy, rfl⟩
    · -- nothing was sent
      exact verdict_refused _
    · -- one frame may have been sent
      exact .inr ⟨y, none, hy, rfl, .inr rfl⟩
  | expire r e reply err h => cases h
  | drop r e reply => trivial

section Steps

variable {c : Config} {s s' : State} {l : List (ℕ × Sent)}

lemma Tally.init : Tally {} [] := by
  refine ⟨fun e a ha => absurd ha (no_threads e a), fun _ _ => rfl, fun n t frames ht => ?_,
    fun e a n t frames ha => absurd ha (no_threads e a), fun e u v w n h => ?_⟩
  · change (∅ : Assoc ℕ OpTask).lookup n = some t at ht
    rw [AList.lookup_empty] at ht
    cases ht
  · simp [callsOn] at h

lemma Laid.later (h : Laid s l e a) (hm : Holds s a) (hkept : Kept s s') : Laid s' l e a := by
  refine ⟨h.queued, fun n count rest k left t' frames hst ht' hq' => ?_, h.last⟩
  obtain ⟨t, frames₀, ht, hq, -⟩ := hm.sending n count rest k left hst
  exact h.sending n count rest k left t frames hst ht (hkept.request ht ht' hq')

lemma Laid.beside {a' : Actor} (h : Laid s l e a) (hb : Beside a a') : Laid s l e a' := by
  obtain ⟨m, hcommands, hcall⟩ := hb.commands
  refine ⟨fun n id frames hmem => ?_, ?_, ?_⟩
  · -- no batch was queued
    rw [hcommands] at hmem
    rcases List.mem_append.mp hmem with hmem | hmem
    · exact h.queued n id frames hmem
    · exact absurd (hcall _ hmem) nofun
  · rw [hb.stage]
    exact h.sending
  · rw [hb.stage]
    exact h.last

lemma Untouched.laid (h : Untouched a) : Laid s l e a := by
  refine ⟨fun n id frames hmem => absurd (h.commands _ hmem) nofun,
    fun n count rest k left t frames hst => ?_, fun n count rest k left hst => ?_⟩
  · rw [h.stage] at hst
    cases hst
  · rw [h.stage] at hst
    cases hst

lemma Laid.enqueue (h : Laid s l e a)
    (hcmd : ∀ n id frames, cmd = .sendBatch n id frames → sendsOf n l = []) :
    Laid s l e { a with commands := a.commands ++ [cmd] } := by
  refine ⟨fun n id frames hmem => ?_, h.sending, h.last⟩
  rcases List.mem_append.mp hmem with hmem | hmem
  · exact h.queued n id frames hmem
  · exact hcmd n id frames (List.mem_singleton.mp hmem).symm

lemma Tally.unsent (h : Tally s l) {deadline : ℕ} (ht : s.ops.lookup n = some t)
    (hpc : t.pc = .ready r e ∨ t.pc = .reserved r e) (m : ℕ) (id : SessionId)
    (frames : List CanFrame)
    (hcmd : t.request.command n t.session deadline = .sendBatch m id frames) :
    sendsOf m l = [] := by
  obtain ⟨session, token, q, pc⟩ := t
  cases q <;> cases hcmd
  have hrep := h.reported n _ frames ht rfl
  rcases hpc with hpc | hpc <;> obtain rfl := hpc <;> exact hrep

/-! ### One step -/

lemma sent_of (ha : s.threads.lookup e = some a) {aev : ActorEvent} (hy : a.sent aev = some y) :
    s.sent (.actor e aev) = some (e, y) := by
  simp only [State.sent, ha, Option.bind_some, hy, Option.map_some]

lemma sent_acts (hy : s.sent ev = some (e, y)) : ∃ aev a count rest k left,
    ev.acts = some (e, aev) ∧ s.threads.lookup e = some a ∧
      a.stage = .sending y.call count (y.frame :: rest) k left := by
  cases ev with
  | actor e' aev =>
    obtain ⟨z, hz, heq⟩ := Option.map_eq_some_iff.mp hy
    obtain ⟨a, ha, hsent⟩ := Option.bind_eq_some_iff.mp hz
    cases heq
    obtain ⟨count, rest, k, left, hst⟩ := CanActor.sent_stage hsent
    exact ⟨aev, a, count, rest, k, left, rfl, ha, hst⟩
  | _ => cases hy

lemma sent_of_acts (h : ev.acts = none) : s.sent ev = none := by
  rcases hy : s.sent ev with _ | ⟨e, y⟩
  · rfl
  · obtain ⟨aev, _, _, _, _, _, hev, -⟩ := sent_acts hy
    cases h.symm.trans hev

lemma sendsOf_of_acts (h : ev.acts = none) :
    sendsOf n (l ++ (s.sent ev).toList) = sendsOf n l := by
  rw [sent_of_acts h, Option.toList_none, List.append_nil]

lemma sendsOf_of_ne (hn : ∀ e y, s.sent ev = some (e, y) → y.call ≠ n) :
    sendsOf n (l ++ (s.sent ev).toList) = sendsOf n l := by
  rcases hy : s.sent ev with _ | ⟨e, y⟩
  · rw [Option.toList_none, List.append_nil]
  · rw [Option.toList_some, sendsOf_snoc, if_neg (hn e y hy), List.append_nil]

lemma callsOn_of_ne (hn : ∀ y, s.sent ev ≠ some (e, y)) :
    callsOn e (l ++ (s.sent ev).toList) = callsOn e l := by
  rcases hy : s.sent ev with _ | ⟨e', y⟩
  · rw [Option.toList_none, List.append_nil]
  · rw [Option.toList_some, callsOn_snoc, if_neg, List.append_nil]
    rintro rfl
    exact hn y hy

/-- Who sends is owed by its actor, and has an operation. -/
lemma Called.sender (hc : Called s) (hy : s.sent ev = some (e, y)) : ∃ a t,
    s.threads.lookup e = some a ∧ 0 < a.owed y.call ∧ s.ops.lookup y.call = some t ∧
      t.pc.Asked e := by
  obtain ⟨aev, a, count, rest, k, left, -, ha, hst⟩ := sent_acts hy
  have howed := CanActor.owed_of_sending hst
  obtain ⟨t, ht, hasked⟩ := hc.asked e a y.call ha howed
  exact ⟨a, t, ha, howed, ht, hasked⟩

lemma Called.queued_not_sent (hc : Called s) (hy : s.sent ev = some (e, y))
    (hb : s.threads.lookup e' = some b) (hmem : cmd ∈ b.commands) : cmd.call ≠ some y.call := by
  intro hcall
  obtain ⟨aev, a, count, rest, k, left, -, ha, hst⟩ := sent_acts hy
  have hqueued : 0 < CanActor.queued y.call b.commands :=
    List.countP_pos_iff.mpr ⟨cmd, hmem, by simpa using hcall⟩
  have howed : 0 < b.owed y.call := by
    unfold Actor.owed
    omega
  obtain rfl := hc.alone e a e' b _ ha hb (CanActor.owed_of_sending hst) howed
  obtain rfl := Option.mem_unique ha hb
  have honce := hc.once e a y.call ha
  simp only [Actor.owed, hst, CanActor.Stage.owed, if_true] at honce
  omega

lemma Tally.queued_step (h : Tally s l) (hc : Called s) (hb : s.threads.lookup e' = some b)
    {id : SessionId} (hmem : .sendBatch n id frames ∈ b.commands) :
    sendsOf n (l ++ (s.sent ev).toList) = [] := by
  rw [sendsOf_of_ne, (h.laid e' b hb).queued n id frames hmem]
  rintro e y hy rfl
  exact hc.queued_not_sent hy hb hmem rfl

lemma Tally.sending_step (h : Tally s l) (hm : Matched s) (ha : s.threads.lookup e = some a)
    (hy : s.sent ev = some (e, y)) (hst : a.stage = .sending y.call count (y.frame :: rest) k left)
    (ht : s.ops.lookup y.call = some t) (hq : t.request = .sendBatch frames) :
    frames.drop k = y.frame :: rest ∧
      sendsOf y.call (l ++ (s.sent ev).toList) =
        accepted (frames.take k) ++ [(y.frame, y.result)] := by
  obtain ⟨t₀, frames₀, ht₀, hq₀, -, hrest, -⟩ := (hm e a ha).sending _ _ _ _ _ hst
  obtain rfl := Option.mem_unique ht ht₀
  obtain rfl : frames = frames₀ := by
    rw [hq] at hq₀
    exact Request.sendBatch.inj hq₀
  rw [hy, Option.toList_some, sendsOf_snoc, if_pos rfl,
    (h.laid e a ha).sending _ _ _ _ _ t frames hst ht hq]
  exact ⟨hrest.symm, rfl⟩

lemma getElem?_of_drop {y : CanFrame} (h : frames.drop k = y :: rest) : frames[k]? = some y := by
  have hget : (frames.drop k)[0]? = some y := by
    rw [h]
    rfl
  rwa [List.getElem?_drop, Nat.add_zero] at hget

lemma take_succ_of_drop {y : CanFrame} (h : frames.drop k = y :: rest) :
    frames.take (k + 1) = frames.take k ++ [y] := by
  rw [List.take_add_one, getElem?_of_drop h, Option.toList_some]

/-- After a step of the actor: what it still holds, and what its channel served last. -/
lemma Tally.laid_act (h : Tally s l) (hm : Matched s) (hc : Called s)
    (ha : s.threads.lookup e = some a) {aev : ActorEvent} {x : Actor × List Notice}
    (hx : a.step c s.flags aev = some x) (hkept : Kept s s') :
    Laid s' (l ++ (s.sent (.actor e aev)).toList) e x.1 := by
  constructor
  · intro n id frames hmem
    exact h.queued_step hc ha ((CanActor.flow_step hx).commands.subset hmem)
  · intro n count rest k left t' frames hst ht' hq'
    rcases CanActor.sending_step hx hst with ⟨y, k, rfl, hst₀, rfl, hne⟩ | ⟨id, hmem, -, rfl, -⟩
    · obtain ⟨t, frames₀, ht, -⟩ := (hm e a ha).sending _ _ _ _ _ hst₀
      have hy := sent_of ha (show a.sent (.frame (.ok ())) = some ⟨n, y, some (.ok ())⟩ by
        simp [Actor.sent, hst₀])
      obtain ⟨hdrop, hsends⟩ := h.sending_step hm ha hy hst₀ ht (hkept.request ht ht' hq')
      rw [take_succ_of_drop hdrop, accepted_append]
      exact hsends
    · exact h.queued_step hc ha hmem
  · intro n count rest k left hst
    rcases CanActor.sending_step hx hst with ⟨y, k, rfl, hst₀, -, hne⟩ | ⟨id, hmem, -, h0, -⟩
    · rw [sent_of ha (show a.sent (.frame (.ok ())) = some ⟨n, y, some (.ok ())⟩ by
        simp [Actor.sent, hst₀]), Option.toList_some, callsOn_snoc, if_pos rfl,
          List.getLast?_concat]
    · cases h0

lemma Tally.laid_other (h : Tally s l) (hm : Matched s) (hc : Called s) (hkept : Kept s s')
    (hb : s.threads.lookup e' = some b) (hne : ∀ x, ev.acts ≠ some (e', x)) :
    Laid s' (l ++ (s.sent ev).toList) e' b := by
  have hlater := (h.laid e' b hb).later (hm e' b hb) hkept
  have hnot {e : ℕ} {y : Sent} (hy : s.sent ev = some (e, y)) : e' ≠ e := by
    rintro rfl
    obtain ⟨aev, _, _, _, _, _, hev, -⟩ := sent_acts hy
    exact hne aev hev
  constructor
  · intro n id frames hmem
    exact h.queued_step hc hb hmem
  · intro n count rest k left t frames hst ht hq
    rw [sendsOf_of_ne, hlater.sending n count rest k left t frames hst ht hq]
    rintro e y hy rfl
    obtain ⟨a, _, ha, howed, -⟩ := hc.sender hy
    exact hnot hy (hc.alone e' b e a _ hb ha (CanActor.owed_of_sending hst) howed)
  · intro n count rest k left hst
    rw [callsOn_of_ne fun y hy => hnot hy rfl]
    exact hlater.last n count rest k left hst

lemma Tally.apart_step (h : Tally s l) (hm : Matched s) (e' : ℕ) :
    Uninterrupted (callsOn e' (l ++ (s.sent ev).toList)) := by
  rcases hy : s.sent ev with _ | ⟨e, y⟩
  · rw [Option.toList_none, List.append_nil]
    exact h.apart e'
  rw [Option.toList_some, callsOn_snoc]
  split
  · rename_i he
    subst he
    refine (h.apart e).snoc ?_
    obtain ⟨aev, a, count, rest, k, left, -, ha, hst⟩ := sent_acts hy
    rcases k with _ | k
    · obtain ⟨t, frames, ht, hq, -⟩ := (hm e a ha).sending _ _ _ _ _ hst
      have hnone := (h.laid e a ha).sending _ _ _ _ _ t frames hst ht hq
      exact .inl fun hmem => mem_callsOn hmem hnone
    · exact .inr ((h.laid e a ha).last _ _ _ _ _ hst)
  · rw [List.append_nil]
    exact h.apart e'

lemma OpPc.Asked.reported (h : pc.Asked e) (hne : ∀ reply, pc ≠ .returned reply) :
    pc.Reported frames sent := by
  cases pc with
  | ready | reserved => exact h.elim
  | awaiting r e' reply =>
    obtain ⟨-, rfl⟩ := h
    trivial
  | returned reply => exact absurd rfl (hne reply)
  | dropped => trivial

/-- What an operation is told is what was sent. -/
lemma Tally.told_act (h : Tally s l) (hm : Matched s) (hc : Called s)
    (ha : s.threads.lookup e = some a) {aev : ActorEvent} (hok : Unbroken s (.actor e aev))
    (ht : s.ops.lookup n = some t) (hq : t.request = .sendBatch frames)
    (hpc : t.pc = .awaiting r e .waiting) {res : Option OpReply}
    (htells : CanActor.Tells c a s.flags aev (.answered n res)) :
    OpPc.Reported frames (sendsOf n (l ++ (s.sent (.actor e aev)).toList))
      (.awaiting r e (Oneshot.deliver .waiting res)) := by
  have hno {t₀ : OpTask} {m : ℕ} (ht₀ : s.ops.lookup n = some t₀)
      (hq₀ : t₀.request = .receive m) : False := by
    cases ht.symm.trans ht₀
    cases hq.symm.trans hq₀
  cases htells with
  | aside h => cases h
  | answer id hy =>
    obtain ⟨y, hx, ⟨p, hp, rfl, -⟩ | ⟨_, _, _, _, _, -, -, hcmds, -⟩⟩ := CanActor.answer_source hy
    · obtain ⟨t₀, ht₀, -, hq₀⟩ := (hm e a ha).waiting id y p hx hp
      exact (hno ht₀ hq₀).elim
    · obtain ⟨t₀, ht₀, -, hq₀⟩ := (hm e a ha).receive (hcmds ▸ List.mem_cons_self ..)
      exact (hno ht₀ hq₀).elim
  | lost hy hp =>
    obtain ⟨t₀, ht₀, -, hq₀⟩ := (hm e a ha).waiting _ _ _ hy hp
    exact (hno ht₀ hq₀).elim
  | command hmem hcmd =>
    obtain ⟨t₀, deadline, ht₀, rfl⟩ := (hm e a ha).queued _ n hmem hcmd.caller
    obtain rfl := Option.mem_unique ht ht₀
    rw [hq] at hmem hcmd
    rw [h.queued_step hc ha hmem]
    cases hcmd with
    | lost => exact .inl rfl
    | batch => exact ⟨_, rfl, verdict_refused _⟩
    | empty => exact ⟨_, rfl, rfl⟩
  | @refused _ count k left y rest err hst he =>
    subst he
    have hy : a.sent (.frame (.error err)) = some ⟨n, y, some (.error err)⟩ := by
      simp [Actor.sent, hst]
    obtain ⟨hdrop, hsends⟩ := h.sending_step hm ha (sent_of ha hy) hst ht hq
    exact ⟨_, rfl, .inr ⟨y, _, getElem?_of_drop hdrop, hsends, .inl rfl⟩⟩
  | @sent _ count k left y hst he =>
    subst he
    have hy : a.sent (.frame (.ok ())) = some ⟨n, y, some (.ok ())⟩ := by
      simp [Actor.sent, hst]
    obtain ⟨hdrop, hsends⟩ := h.sending_step hm ha (sent_of ha hy) hst ht hq
    refine ⟨_, rfl, ?_⟩
    have hall : frames = frames.take k ++ [y] := by rw [← hdrop, List.take_append_drop]
    calc sendsOf n _ = accepted (frames.take k) ++ accepted [y] := hsends
      _ = accepted frames := by rw [← accepted_append, ← hall]
  | @broken _ count k left y rest hst he =>
    subst he
    have hy : a.sent .panicked = some ⟨n, y, none⟩ := by simp [Actor.sent, hst]
    obtain ⟨hdrop, hsends⟩ := h.sending_step hm ha (sent_of ha hy) hst ht hq
    rcases hok.spec ha hst with rfl | ⟨t₀, ht₀, hdropped⟩
    · exact .inr ⟨y, getElem?_of_drop hdrop, hsends⟩
    · obtain rfl := Option.mem_unique ht ht₀
      rw [hpc] at hdropped
      cases hdropped

lemma Tally.reported_step (h : Tally s l) (hm : Matched s) (hc : Called s) (hok : Unbroken s ev)
    {t' : OpTask} (hop : OpTurn c s ev n (s.ops.lookup n) (some t'))
    (hq : t'.request = .sendBatch frames) :
    t'.pc.Reported frames (sendsOf n (l ++ (s.sent ev).toList)) := by
  generalize ho : s.ops.lookup n = o at hop
  cases hop with
  | same =>
    by_cases hsent : ∃ e y, s.sent ev = some (e, y) ∧ y.call = n
    · obtain ⟨e, y, hy, rfl⟩ := hsent
      obtain ⟨a, t, ha, hp, ht, hasked⟩ := hc.sender hy
      obtain rfl := Option.mem_unique ho ht
      exact hasked.reported (h.owed e a _ _ frames ha hp ho hq)
    · rw [sendsOf_of_ne fun e y hy hcall => hsent ⟨e, y, hy, hcall⟩]
      exact h.reported n _ frames ho hq
  | @new _ _ q _ hev hpc =>
    obtain rfl : q = .sendBatch frames := hq
    rw [sendsOf_of_acts hev, h.fresh n ho]
    rcases hpc with ⟨err, rfl⟩ | ⟨r, e, -, rfl⟩
    · exact ⟨_, rfl, verdict_refused err⟩
    · rfl
  | @next t pc hev hpc =>
    have hq' : t.request = .sendBatch frames := hq
    rw [hq'] at hpc
    rw [sendsOf_of_acts hev]
    exact hpc.reported (h.reported n t frames ho hq')
  | queue => trivial
  | @hear e aev a x t res hev ha hx hres hp =>
    subst hev
    have hq' := (t.alike_hear res).request.symm.trans hq
    obtain ⟨t₀, ht₀, hasked⟩ := hc.asked e a n ha hp
    obtain rfl := Option.mem_unique ho ht₀
    unfold OpTask.hear
    split
    · rename_i r e' reply hpc
      rw [hpc] at hasked
      obtain ⟨rfl, rfl⟩ := hasked
      exact h.told_act hm hc ha hok ho hq' hpc (CanActor.step_tells hx hres)
    · exact hasked.reported (h.owed e a n t frames ha hp ho hq')

/-- An answer that has come is no longer owed, and a batch has no deadline. -/
lemma not_returned_step {t' : OpTask} (hop : OpTurn c s ev n (some t) (some t'))
    (hasked : t.pc.Asked e) (hq : t'.request = .sendBatch frames)
    (howed : t.request = .sendBatch frames → ∀ reply, t.pc ≠ .returned reply) (reply : OpReply) :
    t'.pc ≠ .returned reply := by
  intro hpc
  cases hop with
  | same => exact howed hq reply hpc
  | queue => cases hpc
  | @next _ pc _ hnext =>
    obtain rfl : pc = .returned reply := hpc
    have hq' : t.request = .sendBatch frames := hq
    rw [hq'] at hnext
    generalize t.pc = pc₀ at hnext hasked
    cases hnext with
    | refuse | giveUp => exact hasked
    | answer | lose => exact absurd hasked.2 nofun
    | expire r e reply err hto => cases hto
  | @hear _ _ _ _ _ res =>
    refine howed ((t.alike_hear res).request.symm.trans hq) reply ?_
    unfold OpTask.hear at hpc
    split at hpc
    · cases hpc
    · exact hpc

theorem Tally.step (h : Tally s l) (hm : Matched s) (hc : Called s) (hok : Unbroken s ev)
    (hs : Turn c s ev s') : Tally s' (l ++ (s.sent ev).toList) := by
  have hkept : Kept s s' := fun n t ht => hs.alike hc ht
  refine ⟨fun e a' ha' => ?_, fun n hn => ?_, fun n t' frames ht' hq => ?_,
    fun e a' n t' frames ha' hp ht' hq => ?_, h.apart_step hm⟩
  · cases hs.thread ha' with
    | beside hev ha hb => exact (h.laid_other hm hc hkept ha hev).beside hb
    | new _ _ _ hnew => exact hnew.laid
    | queue hev ha ht hpc =>
      refine (h.laid_other hm hc hkept ha fun x hx => ?_).enqueue fun m id frames hcmd => ?_
      · cases hev.symm.trans hx
      · rw [sendsOf_of_acts hev]
        exact h.unsent ht hpc m id frames hcmd
    | act hev ha hx =>
      subst hev
      exact h.laid_act hm hc ha hx hkept
  · have hop := hs.op hc n
    rw [hn] at hop
    generalize ho : s.ops.lookup n = o at hop
    cases hop
    rw [sendsOf_of_ne, h.fresh n ho]
    rintro e y hy rfl
    obtain ⟨_, t, -, -, ht, -⟩ := hc.sender hy
    cases ho.symm.trans ht
  · have hop := hs.op hc n
    rw [ht'] at hop
    exact h.reported_step hm hc hok hop hq
  · rcases (hs.thread ha').owed hc hp with ⟨a, ha, hle, -⟩ | ⟨-, r, t, -, -, hwait⟩
    · obtain ⟨t, ht, hasked⟩ := hc.asked e a n ha (by omega)
      have hop := hs.op hc n
      rw [ht, ht'] at hop
      exact not_returned_step hop hasked hq (h.owed e a n t frames ha (by omega) ht)
    · obtain rfl := Option.mem_unique hwait ht'
      exact nofun

end Steps

/-- **In every run** in which no batch is broken off by a panic, the account is right. -/
theorem run_tally {c : Config} {l : List Event} (h : Machine.Runs (step c) Unbroken {} l s) :
    Tally s (sends (Machine.steps (step c) {} l)) := by
  induction h with
  | nil => exact Tally.init
  | snoc hr hok hs ih =>
    rw [hr.steps_snoc, sends_snoc]
    exact ih.step (run_matched hr) (run_called hr) hok (step_turn hs)

/-! ### What the sender is told -/

/-- Exactly the first `k` frames were accepted, and the next one was not. -/
def FailedAfter (frames : List CanFrame) (sent : List (CanFrame × Option (HalResult Unit)))
    (k : ℕ) : Prop :=
  ∃ y out, frames[k]? = some y ∧ sent = accepted (frames.take k) ++ [(y, out)] ∧
    out ≠ some (.ok ())

lemma accepted_ne_failed (h : FailedAfter frames (accepted frames) k) : False := by
  obtain ⟨y, out, -, hsent, hout⟩ := h
  have hmem : (y, out) ∈ accepted frames := by
    rw [hsent]
    simp
  obtain ⟨z, -, hz⟩ := List.mem_map.mp hmem
  exact hout (Prod.mk.inj hz).2.symm

lemma FailedAfter.length (h : FailedAfter frames sent k) : sent.length = k + 1 := by
  obtain ⟨y, out, hy, rfl, -⟩ := h
  obtain ⟨hlt, -⟩ := List.getElem?_eq_some_iff.mp hy
  simp only [accepted, List.length_append, List.length_map, List.length_take,
    List.length_singleton]
  omega

section Verdicts

variable {frames : List CanFrame} {sent : List (CanFrame × Option (HalResult Unit))}
  {res : Except CanBatchSendError Unit}

lemma Verdict.error (h : Verdict frames sent (.error x)) :
    x.committed = 0 ∧ sent = [] ∨ FailedAfter frames sent x.committed := by
  rcases h with h | ⟨y, out, hy, hsent, hout⟩
  · exact .inl h
  · refine .inr ⟨y, out, hy, hsent, ?_⟩
    rcases hout with rfl | rfl <;> exact nofun

lemma Verdict.ok_iff (h : Verdict frames sent res) (hne : frames ≠ []) :
    res = .ok () ↔ sent = accepted frames := by
  rcases res with x | ⟨⟩
  · refine ⟨nofun, fun hsent => ?_⟩
    subst hsent
    rcases h.error with ⟨-, hnil⟩ | hfailed
    · exact absurd (List.map_eq_nil_iff.mp hnil) hne
    · exact (accepted_ne_failed hfailed).elim
  · exact ⟨fun _ => h, fun _ => rfl⟩

lemma Verdict.committed_iff (h : Verdict frames sent res) (hne : frames ≠ []) (k : ℕ) :
    (∃ err, res = .error ⟨err, k⟩) ↔ k = 0 ∧ sent = [] ∨ FailedAfter frames sent k := by
  rcases res with ⟨err, k'⟩ | ⟨⟩
  · constructor
    · rintro ⟨err', heq⟩
      cases heq
      exact h.error
    · intro hk
      obtain rfl : k' = k := by
        rcases h.error with ⟨rfl, rfl⟩ | hfailed
        · rcases hk with ⟨rfl, -⟩ | hk
          · rfl
          · cases hk.length
        · have hlen : sent.length = k' + 1 := hfailed.length
          rcases hk with ⟨rfl, rfl⟩ | hk
          · cases hlen
          · have := hk.length
            omega
      exact ⟨err, rfl⟩
  · refine ⟨nofun, fun hk => ?_⟩
    obtain rfl : sent = accepted frames := h
    rcases hk with ⟨-, hnil⟩ | hk
    · exact absurd (List.map_eq_nil_iff.mp hnil) hne
    · exact (accepted_ne_failed hk).elim

lemma Verdict.committed_lt (h : Verdict frames sent (.error x)) (hne : frames ≠ []) :
    x.committed < frames.length := by
  rcases h with ⟨h0, -⟩ | ⟨y, -, hy, -⟩
  · rw [h0]
    exact List.length_pos_iff.mpr hne
  · exact (List.getElem?_eq_some_iff.mp hy).1

end Verdicts

/-- **The answer to a batch counts what the channel accepted**: it is a success if every frame was
accepted, in order, and an error with `k` if the first `k` were and the next was not, where a
batch that was not executed counts as zero. The frames of two batches are never mixed on a
channel, and the answer survives the wire. -/
theorem batch_sends_accounted {c : Config} {l : List Event} {s : State}
    (h : Machine.Runs (step c) Unbroken {} l s) {n : ℕ} {t : OpTask} {frames : List CanFrame}
    {reply : OpReply} (ht : s.ops.lookup n = some t) (hq : t.request = .sendBatch frames)
    (hlen : 1 ≤ frames.length ∧ frames.length ≤ maxCanBatchFrames)
    (hpc : t.pc = .returned reply) :
    let log := sends (Machine.steps (step c) {} l)
    (∃ res, reply = .batch res ∧ (res = .ok () ↔ sendsOf n log = accepted frames) ∧
      (∀ k, (∃ err, res = .error ⟨err, k⟩) ↔
        k = 0 ∧ sendsOf n log = [] ∨ FailedAfter frames (sendsOf n log) k) ∧
      (∀ err k, res = .error ⟨err, k⟩ → k < frames.length) ∧
      -- every error a program can hold was built by the constructors
      ((∀ err k, res = .error ⟨err, k⟩ → err.Built) →
        ∃ m, canSendResponseToProto res frames.length = .ok m ∧
          ∀ m', m.Equal m' → canSendResponseFromProto m' frames.length = .ok res)) ∧
      ∀ e, Uninterrupted (callsOn e log) := by
  intro log
  have htally : Tally s log := run_tally h
  have hne : frames ≠ [] := List.length_pos_iff.mp hlen.1
  have hreported := htally.reported n t frames ht hq
  rw [hpc] at hreported
  obtain ⟨res, rfl, hverdict⟩ := hreported
  refine ⟨⟨res, rfl, hverdict.ok_iff hne, hverdict.committed_iff hne, ?_, fun hbuilt => ?_⟩,
    htally.apart⟩
  · rintro err k rfl
    exact hverdict.committed_lt hne
  · refine canSendResponse_roundTrip hlen ?_
    rintro x rfl
    exact ⟨hverdict.committed_lt hne, hbuilt x.error x.committed rfl⟩

/-- A batch of two frames, the first of which is accepted. -/
def batchStarted : List Event :=
  firstOpened .control ⟨"s1"⟩ ⟨"a"⟩ ⟨"l1"⟩ ++
    [.opCall 0 ⟨"s1"⟩ ⟨⟨"l1"⟩, 1, .control⟩ (.sendBatch [frame, .classicData (.standard 2) []]),
      .opReserve 0, .opEnqueue 0 0] ++ toCommand ++ [.actor 1 (.frame (.ok ()))]

/-- The second one is refused. -/
def batchRefused : List Event :=
  batchStarted ++ [.actor 1 (.frame (.error (invalidFrame ""))), .opAnswered 0]

theorem batch_sends_accounted_refused : ∃ s t,
    Machine.Runs (step ⟨16, 16, "5s"⟩) Unbroken {} batchRefused s ∧ s.ops.lookup 0 = some t ∧
      t.pc = .returned (.batch (.error ⟨invalidFrame "", 1⟩)) ∧
      FailedAfter [frame, .classicData (.standard 2) []]
        (sendsOf 0 (sends (Machine.steps (step ⟨16, 16, "5s"⟩) {} batchRefused))) 1 := by
  have hexec : ∃ s ∈ Machine.exec (step ⟨16, 16, "5s"⟩) Unbroken {} batchRefused,
      ∃ t ∈ s.ops.lookup 0, t.request = .sendBatch [frame, .classicData (.standard 2) []] ∧
        t.pc = .returned (.batch (.error ⟨invalidFrame "", 1⟩)) := by decide +kernel
  obtain ⟨s, hs, t, ht, hq, hpc⟩ := hexec
  have h := Machine.runs_of_exec hs
  obtain ⟨⟨res, hres, -, hcount, -⟩, -⟩ := batch_sends_accounted h ht hq (by decide) hpc
  obtain rfl := OpReply.batch.inj hres
  rcases (hcount 1).mp ⟨_, rfl⟩ with ⟨h0, -⟩ | hfailed
  · cases h0
  · exact ⟨s, t, h, ht, hpc, hfailed⟩

/-- The channel panics in the second one. -/
def batchBroken : List Event := batchStarted ++ [.actor 1 .panicked, .opAnswered 0]

/-- A frame was accepted and the sender is told that none was. -/
theorem panic_hides_accepted_frame :
    ∃ s ∈ Machine.exec (step ⟨16, 16, "5s"⟩) (fun _ _ => True) {} batchBroken,
    ∃ t ∈ s.ops.lookup 0, t.request = .sendBatch [frame, .classicData (.standard 2) []] ∧
      t.pc = .returned (.batch (.error ⟨actorUnavailable "can.send_batch" ⟨"can:0"⟩, 0⟩)) ∧
      (sendsOf 0 (sends (Machine.steps (step ⟨16, 16, "5s"⟩) {} batchBroken))) =
        [(frame, some (.ok ())), (.classicData (.standard 2) [], none)] := by
  decide +kernel

end RobotHal.CanManager
