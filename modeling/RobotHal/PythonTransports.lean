import RobotHal.Machine

/-!
The two transports of the Python client.

On Unix the writer wipes the buffer of an envelope as soon as `drain` returns, but the socket
transport may still hold a view of that buffer: what it then sends are zeros. On Windows a thread
serves a queue of commands until it is told to stop; a caller that has passed the check of the
shutdown flag may put its command into the queue after the thread has emptied it for the last time.
-/

namespace RobotHal.Python

/-- `struct.pack(">I", n)`. -/
def packLength (n : ℕ) : List UInt8 :=
  [UInt8.ofNat (n / 2 ^ 24), UInt8.ofNat (n / 2 ^ 16), UInt8.ofNat (n / 2 ^ 8), UInt8.ofNat n]

def hardFrameBytes : ℕ := 1024 * 1024

namespace Unix

/-- What the socket transport keeps of a `write`: bytes of its own, or what it sees of the caller's
buffer. -/
structure Chunk where
  view : Bool
  bytes : List UInt8

structure State where
  unsent : List Chunk := []
  /-- the writer waits in `drain` -/
  draining : Bool := false
  running : Bool := true
  /-- what the socket took -/
  accepted : List UInt8 := []
  /-- the envelopes as they were serialized -/
  envelopes : List (List UInt8) := []

inductive Event
  /-- the next envelope, the frame limits, how much the socket takes of its two parts at once, and
  whether the transport keeps a view of the rest or copies it -/
  | send (encoded : List UInt8) (frameLimit transportLimit header body : ℕ) (view : Bool)
  /-- the socket takes more of what is unsent -/
  | socket (n : ℕ)
  | drained (highWater : ℕ)
  | cancelled
  /-- the connection is lost -/
  | failed

namespace State

def unsentBytes (s : State) : List UInt8 := s.unsent.flatMap Chunk.bytes

/-- `StreamWriter.write`: the socket is tried at once if nothing is waiting. -/
def write (s : State) (c : Chunk) (n : ℕ) : State :=
  if s.unsent = [] then
    { s with
      accepted := s.accepted ++ c.bytes.take n
      unsent := if c.bytes.length ≤ n then [] else [{ c with bytes := c.bytes.drop n }] }
  else { s with unsent := s.unsent ++ [c] }

/-- `UnixFramedTransport.send` up to its `drain`. -/
def send (s : State) (encoded : List UInt8) (header body : ℕ) (view : Bool) : State :=
  let s := (s.write ⟨false, packLength encoded.length⟩ header).write ⟨view, encoded⟩ body
  { s with draining := true, envelopes := s.envelopes ++ [encoded] }

/-- What is left of the chunks after `n` more bytes went out. -/
def leftover : ℕ → List Chunk → List Chunk
  | _, [] => []
  | n, c :: rest =>
    if c.bytes.length ≤ n then leftover (n - c.bytes.length) rest
    else { c with bytes := c.bytes.drop n } :: rest

/-- `_wipe` on the buffer of the envelope. The buffers of earlier ones are wiped already. -/
def wipe (s : State) : State :=
  { s with
    draining := false
    unsent := s.unsent.map fun c =>
      if c.view then { c with bytes := List.replicate c.bytes.length 0 } else c }

/-- `_writer_loop` and the socket it writes to. -/
def step (s : State) : Event → Option State
  | .send encoded frameLimit transportLimit header body view =>
    if s.running = true ∧ s.draining = false then
      if encoded.length > frameLimit ∨ encoded.length > transportLimit ∨
          encoded.length > hardFrameBytes then
        some { s with running := false }
      else some (s.send encoded header body view)
    else none
  | .socket n =>
    some { s with accepted := s.accepted ++ s.unsentBytes.take n, unsent := leftover n s.unsent }
  | .drained highWater =>
    if s.draining = true ∧ s.unsentBytes.length ≤ highWater then some s.wipe else none
  | .cancelled => some { if s.draining then s.wipe else s with running := false }
  | .failed => some { s with unsent := [], draining := false, running := false }

/-- No unsent byte would change by being wiped. -/
def Spared (s : State) : Prop := ∀ c ∈ s.unsent, c.view = true → ∀ b ∈ c.bytes, b = 0

/-- The condition on a step: nothing is wiped that is still to be sent. -/
def Meets (s : State) : Event → Prop
  | .drained _ | .cancelled => s.draining = true → s.Spared
  | _ => True

/-- What the socket took and what is to be sent, one after the other. -/
def outbound (s : State) : List UInt8 := s.accepted ++ s.unsentBytes

def stream (s : State) : List UInt8 := s.envelopes.flatMap fun e => packLength e.length ++ e

/-- What goes out is what was serialized, up to a lost connection. -/
structure Faithful (s : State) : Prop where
  front : s.outbound <+: s.stream
  whole : s.running = true → s.outbound = s.stream

variable {s t : State}

lemma flatMap_leftover (n : ℕ) (l : List Chunk) :
    (leftover n l).flatMap Chunk.bytes = (l.flatMap Chunk.bytes).drop n := by
  induction l generalizing n with
  | nil => simp [leftover]
  | cons c rest ih =>
    rw [leftover, List.flatMap_cons, List.drop_append]
    split
    · rename_i hle
      rw [ih, List.drop_eq_nil_of_le hle, List.nil_append]
    · rename_i hlt
      rw [List.flatMap_cons, Nat.sub_eq_zero_of_le (by omega), List.drop_zero]

lemma outbound_write (s : State) (c : Chunk) (n : ℕ) :
    (s.write c n).outbound = s.outbound ++ c.bytes := by
  unfold write
  split
  · rename_i hempty
    by_cases hle : c.bytes.length ≤ n
    · simp [outbound, unsentBytes, hempty, hle, List.take_of_length_le hle]
    · simp [outbound, unsentBytes, hempty, hle]
  · simp [outbound, unsentBytes]

lemma Faithful.send (h : s.Faithful) (hr : s.running = true) (encoded : List UInt8)
    (header body : ℕ) (view : Bool) : (s.send encoded header body view).Faithful := by
  have henv (s : State) (c : Chunk) (n : ℕ) : (s.write c n).envelopes = s.envelopes := by
    unfold write
    split <;> rfl
  have hall : (s.send encoded header body view).outbound =
      (s.send encoded header body view).stream := by
    change outbound (write (write _ _ _) _ _) =
      List.flatMap _ (envelopes (write (write _ _ _) _ _) ++ _)
    rw [outbound_write, outbound_write, h.whole hr, henv, henv, List.flatMap_append]
    simp [stream]
  exact ⟨hall ▸ List.prefix_rfl, fun _ => hall⟩

lemma Faithful.wipe (h : s.Faithful) (hs : s.Spared) : s.wipe.Faithful := by
  have hsame : s.unsent.map (fun c =>
      if c.view then { c with bytes := List.replicate c.bytes.length 0 } else c) = s.unsent := by
    refine (List.map_congr_left fun c hc => ?_).trans (List.map_id _)
    split
    · rename_i hv
      have hzero : c.bytes = List.replicate c.bytes.length 0 :=
        List.eq_replicate_iff.mpr ⟨rfl, hs c hc hv⟩
      rw [← hzero, id]
    · rfl
  rw [State.wipe, hsame]
  exact ⟨h.front, h.whole⟩

lemma Faithful.stop (h : s.Faithful) : Faithful { s with running := false } :=
  ⟨h.front, nofun⟩

lemma faithful_step {e : Event} (h : s.Faithful) (hm : s.Meets e) (hs : s.step e = some t) :
    t.Faithful := by
  cases e with
  | send encoded frameLimit transportLimit header body view =>
    simp only [step] at hs
    split at hs
    · rename_i hr
      split at hs <;> cases hs
      · exact h.stop
      · exact h.send hr.1 encoded header body view
    · cases hs
  | socket n =>
    cases hs
    have hsame : outbound { s with
        accepted := s.accepted ++ s.unsentBytes.take n, unsent := leftover n s.unsent } =
          s.outbound := by
      simp only [outbound, unsentBytes, flatMap_leftover, List.append_assoc, List.take_append_drop]
    exact ⟨hsame ▸ h.front, fun hr => hsame.trans (h.whole hr)⟩
  | drained highWater =>
    simp only [step] at hs
    split at hs <;> cases hs
    rename_i hd
    exact h.wipe (hm hd.1)
  | cancelled =>
    cases hs
    split
    · exact (h.wipe (hm ‹_›)).stop
    · exact h.stop
  | failed =>
    cases hs
    refine ⟨?_, nofun⟩
    rw [outbound, unsentBytes, List.flatMap_nil, List.append_nil]
    exact (List.prefix_append _ _).trans h.front

/-- **Outbound bytes.** In every run in which no unsent byte is wiped, the socket took the stream of
length-prefixed envelopes from its beginning. -/
theorem accepted_as_serialized (l : List Event) (s : State)
    (h : Machine.Runs step Meets {} l s) :
    s.accepted <+: s.envelopes.flatMap fun e => packLength e.length ++ e := by
  have hf : s.Faithful := h.invariant (I := Faithful) ⟨List.prefix_rfl, fun _ => rfl⟩
    fun _ _ _ hi hm hs => faithful_step hi hm hs
  exact (List.prefix_append _ _).trans hf.front

instance (s : State) : Decidable s.Spared := by
  unfold Spared
  infer_instance

instance (s : State) : ∀ e, Decidable (s.Meets e)
  | .drained _ | .cancelled => inferInstanceAs (Decidable (_ → _))
  | .send .. | .socket _ | .failed => inferInstanceAs (Decidable True)

theorem accepted_as_serialized_twice : ∃ s : State, s.accepted <+:
      s.envelopes.flatMap (fun e => packLength e.length ++ e) ∧ s.accepted.length = 8 := by
  have hexec : ∃ s ∈ Machine.exec step Meets {} [.send [8, 1] 64 64 3 0 true, .socket 3,
      .drained 4, .send [8, 2] 64 64 2 0 false], s.accepted.length = 8 := by
    decide +kernel
  obtain ⟨s, hs, hlen⟩ := hexec
  exact ⟨s, accepted_as_serialized _ s (Machine.runs_of_exec hs), hlen⟩

/-- The socket takes an envelope in two parts, the second one after `drain` has returned: the last
byte it gets is not the one that was serialized. -/
theorem wiped_bytes_accepted :
    ∃ s ∈ Machine.exec step (fun _ _ => True) {}
        [.send [8, 1] 64 64 4 1 true, .drained 65536, .socket 1],
      s.envelopes = [[8, 1]] ∧ s.accepted = [0, 0, 0, 2, 8, 0] ∧
        ¬s.accepted <+: s.envelopes.flatMap fun e => packLength e.length ++ e := by
  decide +kernel

end State

end Unix

namespace Pipe

inductive Kind
  | read | write
deriving DecidableEq

structure Command where
  id : ℕ
  kind : Kind
  payload : List UInt8 := []
  frameLimit : ℕ := hardFrameBytes
  offset : ℕ := 0
  buffer : List UInt8 := []
  expected : ℕ := 4
  readingBody : Bool := false
deriving DecidableEq

def commandCapacity : ℕ := 4

/-- `struct.unpack(">I", buffer)`. -/
def unpackLength (buffer : List UInt8) : ℕ := buffer.foldl (fun n b => 256 * n + b.toNat) 0

/-- Where the thread is. -/
inductive Pc
  | checking | draining | writing | reading | failing | closing | terminated
deriving DecidableEq

/-- What a native call comes to: an error that means it would block, another native error, any other
exception, or its result. -/
inductive Native
  | blocks | fails | raises
  | done (written : Option ℕ) (chunk : List UInt8)

inductive Failure
  | native | noProgress | closed | frameTooLarge | terminal
deriving DecidableEq

/-- What a future is completed with. -/
inductive Outcome
  | value (value : Option (List UInt8))
  | error (error : Failure)
deriving DecidableEq

/-- The calls under way, and the futures that were returned. -/
structure Calls where
  /-- calls that have found the flag clear -/
  checked : List Command := []
  /-- calls that have a slot -/
  acquired : List Command := []
  returned : List ℕ := []

structure State where
  commands : List Command := []
  slots : ℕ := commandCapacity
  shutdown : Bool := false
  pc : Pc := .checking
  reads : List Command := []
  writes : List Command := []
  calls : Calls := {}
  /-- the futures that the thread has completed -/
  finished : List ℕ := []
  /-- the calls of `_finish` -/
  outcomes : List (Command × Outcome) := []

/-- A call of `submit_read` or `submit_write` in its three steps, `request_close`, and a step of the
thread with what its native call comes to. -/
inductive Event
  | submit (c : Command)
  | acquire (c : Command)
  | put (c : Command)
  | requestClose
  | run (native : Native)

namespace State

/-- `_finish` leaves a future alone that is done. -/
def finish (s : State) (c : Command) (outcome : Outcome) : State :=
  { s with
    finished := if c.id ∈ s.finished then s.finished else s.finished ++ [c.id]
    slots := s.slots + 1
    outcomes := s.outcomes ++ [(c, outcome)] }

/-- An exception ends the loop. -/
def raise (s : State) : State := { s with shutdown := true, pc := .failing }

def advanceWrite (s : State) (c : Command) (rest : List Command) : Native → State
  | .blocks | .done (some 0) _ => { s with pc := .reading }
  | .raises => s.raise
  | .fails => (finish { s with writes := rest } c (.error .native)).raise
  | .done none _ => (finish { s with writes := rest } c (.error .noProgress)).raise
  | .done (some n) _ =>
    if c.offset + n ≥ c.payload.length then
      finish { s with writes := rest, pc := .reading } c (.value none)
    else { s with writes := { c with offset := c.offset + n } :: rest, pc := .reading }

def advanceRead (s : State) (c : Command) (rest : List Command) : Native → State
  | .blocks => { s with pc := .checking }
  | .raises => s.raise
  | .fails => (finish { s with reads := rest } c (.error .native)).raise
  | .done _ [] => (finish { s with reads := rest } c (.error .closed)).raise
  | .done _ chunk =>
    let buffer := c.buffer ++ chunk
    if buffer.length < c.expected then
      { s with reads := { c with buffer } :: rest, pc := .checking }
    else if c.readingBody then
      finish { s with reads := rest, pc := .checking } c (.value (some buffer))
    else
      let size := unpackLength buffer
      if size > c.frameLimit ∨ size > hardFrameBytes then
        (finish { s with reads := rest } c (.error .frameTooLarge)).raise
      else if size = 0 then finish { s with reads := rest, pc := .checking } c (.value (some []))
      else
        { s with
          reads := { c with buffer := [], expected := size, readingBody := true } :: rest
          pc := .checking }

/-- `_run`, one step of the thread. -/
def run (s : State) (native : Native) : Option State :=
  match s.pc with
  | .checking => some { s with pc := if s.shutdown then .failing else .draining }
  | .draining =>
    match s.commands with
    | [] => some { s with pc := .writing }
    | c :: rest =>
      match c.kind with
      | .read => some { s with commands := rest, reads := s.reads ++ [c] }
      | .write => some { s with commands := rest, writes := s.writes ++ [c] }
  | .writing =>
    match s.writes with
    | [] => some { s with pc := .reading }
    | c :: rest => some (s.advanceWrite c rest native)
  | .reading =>
    match s.reads with
    | [] => some { s with pc := .checking }
    | c :: rest => some (s.advanceRead c rest native)
  | .failing =>
    match s.reads, s.writes, s.commands with
    | c :: rest, _, _ => some (finish { s with reads := rest } c (.error .terminal))
    | [], c :: rest, _ => some (finish { s with writes := rest } c (.error .terminal))
    | [], [], c :: rest => some (finish { s with commands := rest } c (.error .terminal))
    | [], [], [] => some { s with pc := .closing }
  | .closing => some { s with pc := .terminated }
  | .terminated => none

def step (s : State) : Event → Option State
  | .submit c =>
    some (if s.shutdown then s
      else { s with calls.checked := s.calls.checked ++ [c] })
  | .acquire c =>
    if c ∈ s.calls.checked then
      let s := { s with calls.checked := s.calls.checked.erase c }
      some (if s.slots = 0 then s
        else { s with slots := s.slots - 1, calls.acquired := s.calls.acquired ++ [c] })
    else none
  | .put c =>
    if c ∈ s.calls.acquired then
      let s := { s with calls.acquired := s.calls.acquired.erase c }
      some (if s.commands.length < commandCapacity then
        { s with commands := s.commands ++ [c], calls.returned := s.calls.returned ++ [c.id] }
      else { s with slots := s.slots + 1 })
    else none
  | .requestClose => some { s with shutdown := true }
  | .run native => s.run native

/-- The condition on a step: the thread finds the queue empty for the last time when no call is
between its check of the flag and its `put`. -/
def Meets (s : State) : Event → Prop
  | .run _ => s.pc = .failing → s.reads = [] → s.writes = [] → s.commands = [] →
      s.calls.checked = [] ∧ s.calls.acquired = []
  | _ => True

/-! ### Where the futures are -/

/-- The futures of the commands that were put into the queue and are not finished. -/
def queued (s : State) : List ℕ := (s.commands ++ s.reads ++ s.writes).map Command.id

/-- What the thread does to the queues: at most one command leaves them, and is finished. -/
inductive Ran (s t : State) : Prop
  | on (ho : t.outcomes = s.outcomes) (hc : t.calls = s.calls) (hf : t.finished = s.finished)
      (hs : t.slots = s.slots)
      (hq : s.queued.Perm t.queued)
  | finished (k : ℕ) (ho : ∃ x, t.outcomes = s.outcomes ++ [x]) (hc : t.calls = s.calls)
      (hf : t.finished = if k ∈ s.finished then s.finished else s.finished ++ [k])
      (hs : t.slots = s.slots + 1) (hq : s.queued.Perm (k :: t.queued))

variable {s t : State} {c : Command} {rest : List Command} {native : Native}

lemma queued_writes (h : s.writes = c :: rest) :
    s.queued.Perm (c.id :: queued { s with writes := rest }) := by
  refine List.perm_iff_count.mpr fun k => ?_
  simp [queued, h, List.count_cons]
  omega

lemma queued_reads (h : s.reads = c :: rest) :
    s.queued.Perm (c.id :: queued { s with reads := rest }) := by
  refine List.perm_iff_count.mpr fun k => ?_
  simp [queued, h, List.count_cons]
  omega

lemma ran_advanceWrite (h : s.writes = c :: rest) : Ran s (s.advanceWrite c rest native) := by
  have hfinish := queued_writes h
  unfold advanceWrite
  split
  · exact .on rfl rfl rfl rfl .rfl
  · exact .on rfl rfl rfl rfl .rfl
  · exact .on rfl rfl rfl rfl .rfl
  · exact .finished c.id ⟨_, rfl⟩ rfl rfl rfl hfinish
  · exact .finished c.id ⟨_, rfl⟩ rfl rfl rfl hfinish
  · split
    · exact .finished c.id ⟨_, rfl⟩ rfl rfl rfl hfinish
    · exact .on rfl rfl rfl rfl (by simp [queued, h])

lemma ran_advanceRead (h : s.reads = c :: rest) : Ran s (s.advanceRead c rest native) := by
  have hfinish := queued_reads h
  unfold advanceRead
  split
  · exact .on rfl rfl rfl rfl .rfl
  · exact .on rfl rfl rfl rfl .rfl
  · exact .finished c.id ⟨_, rfl⟩ rfl rfl rfl hfinish
  · exact .finished c.id ⟨_, rfl⟩ rfl rfl rfl hfinish
  · dsimp only
    split
    · exact .on rfl rfl rfl rfl (by simp [queued, h])
    split
    · exact .finished c.id ⟨_, rfl⟩ rfl rfl rfl hfinish
    split
    · exact .finished c.id ⟨_, rfl⟩ rfl rfl rfl hfinish
    split
    · exact .finished c.id ⟨_, rfl⟩ rfl rfl rfl hfinish
    · exact .on rfl rfl rfl rfl (by simp [queued, h])

lemma ran_run (h : s.run native = some t) : Ran s t := by
  unfold run at h
  split at h
  · cases h
    exact .on rfl rfl rfl rfl .rfl
  · split at h
    · cases h
      exact .on rfl rfl rfl rfl .rfl
    · rename_i hq
      split at h <;> cases h
      all_goals
        refine .on rfl rfl rfl rfl (List.perm_iff_count.mpr fun k => ?_)
        simp [queued, hq, List.count_cons]
        omega
  · split at h <;> cases h
    · exact .on rfl rfl rfl rfl .rfl
    · exact ran_advanceWrite ‹_›
  · split at h <;> cases h
    · exact .on rfl rfl rfl rfl .rfl
    · exact ran_advanceRead ‹_›
  · split at h <;> cases h
    · exact .finished _ ⟨_, rfl⟩ rfl rfl rfl (queued_reads ‹_›)
    · exact .finished _ ⟨_, rfl⟩ rfl rfl rfl (queued_writes ‹_›)
    · exact .finished _ ⟨_, rfl⟩ rfl rfl rfl (by simp [queued, finish, *])
    · exact .on rfl rfl rfl rfl .rfl
  · cases h
    exact .on rfl rfl rfl rfl .rfl
  · cases h

/-- Who has a slot is on the way to being finished, or is. -/
structure Sound (s : State) : Prop where
  slots : s.slots + s.calls.acquired.length + s.queued.length = commandCapacity
  returned : ∀ k ∈ s.calls.returned, k ∈ s.queued ∨ k ∈ s.finished
  nodup : s.finished.Nodup

lemma sound_run (hs : s.Sound) (h : s.run native = some t) : t.Sound := by
  obtain ⟨hslots, hret, hnodup⟩ := hs
  rcases ran_run h with ⟨-, hc, hf, hs, hq⟩ | ⟨k, -, hc, hf, hs, hq⟩
  · refine ⟨by rw [hs, hc, ← hq.length_eq, hslots], fun j hj => ?_, hf ▸ hnodup⟩
    rw [hf, ← hq.mem_iff]
    exact hret j (hc ▸ hj)
  · have hlen := hq.length_eq
    have hmem : ∀ j, j ∈ t.finished ↔ j ∈ s.finished ∨ j = k := by
      intro j
      rw [hf]
      split
      · simp +contextual [*]
      · simp
    refine ⟨?_, fun j hj => ?_, ?_⟩
    · rw [List.length_cons] at hlen
      rw [hs, hc]
      omega
    · rw [hmem]
      rcases hret j (hc ▸ hj) with hj | hj
      · exact (List.mem_cons.mp (hq.mem_iff.mp hj)).elim (fun hj => .inr (.inr hj)) .inl
      · exact .inr (.inl hj)
    · rw [hf]
      split
      · exact hnodup
      · exact List.nodup_append.mpr ⟨hnodup, by simp, by grind⟩

/-- The thread is past its last look at the queue: nobody is left. -/
structure Empty (s : State) : Prop where
  shutdown : s.shutdown = true
  calls : s.calls.checked = [] ∧ s.calls.acquired = []
  queues : s.reads = [] ∧ s.writes = [] ∧ s.commands = []

structure Kept (s : State) : Prop where
  sound : s.Sound
  failing : s.pc = .failing → s.shutdown = true
  empty : s.pc = .closing ∨ s.pc = .terminated → s.Empty

lemma kept_run (hk : s.Kept) (hm : s.Meets (.run native)) (h : s.run native = some t) : t.Kept := by
  have hsound := sound_run hk.sound h
  unfold run at h
  split at h
  · cases h
    refine ⟨hsound, ?_, ?_⟩ <;> cases hs : s.shutdown <;> simp
  · split at h
    · cases h
      exact ⟨hsound, nofun, by simp⟩
    · split at h <;> cases h <;> exact ⟨hsound, by simp [*], by simp [*]⟩
  · split at h <;> cases h
    · exact ⟨hsound, nofun, by simp⟩
    · refine ⟨hsound, ?_, ?_⟩ <;> unfold advanceWrite raise finish <;> grind
  · split at h <;> cases h
    · exact ⟨hsound, nofun, by simp⟩
    · refine ⟨hsound, ?_, ?_⟩ <;> unfold advanceRead raise finish <;> grind
  · have hs := hk.failing ‹_›
    split at h <;> cases h
    · exact ⟨hsound, fun _ => hs, by simp [finish, *]⟩
    · exact ⟨hsound, fun _ => hs, by simp [finish, *]⟩
    · exact ⟨hsound, fun _ => hs, by simp [finish, *]⟩
    · exact ⟨hsound, nofun, fun _ => ⟨hs, hm ‹_› ‹_› ‹_› ‹_›, ‹_›, ‹_›, ‹_›⟩⟩
  · cases h
    obtain ⟨hs, hc, hq⟩ := hk.empty (.inl ‹_›)
    exact ⟨hsound, nofun, fun _ => ⟨hs, hc, hq⟩⟩
  · cases h

lemma Kept.step {e : Event} (hk : s.Kept) (hm : s.Meets e) (h : s.step e = some t) : t.Kept := by
  have ⟨⟨hslots, hret, hnodup⟩, hfail, hempty⟩ := hk
  cases e with
  | submit c =>
    cases h
    split
    · exact hk
    · rename_i hs
      exact ⟨⟨hslots, hret, hnodup⟩, hfail, fun hpc => absurd (hempty hpc).shutdown hs⟩
  | acquire c =>
    simp only [State.step] at h
    split at h
    · rename_i hc
      -- a call under way: the thread is not at its end
      have hopen : ¬(s.pc = .closing ∨ s.pc = .terminated) := fun hpc => by
        simp [(hempty hpc).calls.1] at hc
      cases h
      split
      · exact ⟨⟨hslots, hret, hnodup⟩, hfail, fun hpc => absurd hpc hopen⟩
      · refine ⟨⟨?_, hret, hnodup⟩, hfail, fun hpc => absurd hpc hopen⟩
        simp only [queued, List.length_append, List.length_singleton] at hslots ⊢
        omega
    · cases h
  | put c =>
    simp only [State.step] at h
    split at h
    · rename_i hc
      have hopen : ¬(s.pc = .closing ∨ s.pc = .terminated) := fun hpc => by
        simp [(hempty hpc).calls.2] at hc
      have hlen := List.length_erase_of_mem hc
      have hpos := List.length_pos_of_mem hc
      cases h
      split
      · refine ⟨⟨?_, fun k hret' => ?_, hnodup⟩, hfail, fun hpc => absurd hpc hopen⟩
        · simp [queued] at hslots ⊢
          omega
        · rcases List.mem_append.mp hret' with hold | hnew
          · refine (hret k hold).imp_left fun hq => ?_
            simp only [queued, List.map_append, List.mem_append] at hq ⊢
            tauto
          · exact .inl (by simp [queued, List.mem_singleton.mp hnew])
      · refine ⟨⟨?_, hret, hnodup⟩, hfail, fun hpc => absurd hpc hopen⟩
        simp only [queued] at hslots ⊢
        omega
    · cases h
  | requestClose =>
    cases h
    exact ⟨⟨hslots, hret, hnodup⟩, fun _ => rfl,
      fun hpc => ⟨rfl, (hempty hpc).calls, (hempty hpc).queues⟩⟩
  | run native => exact kept_run hk hm h

/-- **Every command is resolved.** In every run in which no call is on its way to the queue when the
thread looks into it for the last time, a future is completed at most once; when the thread has
terminated, every future that was returned is completed and all slots are free. -/
theorem commands_resolved (l : List Event) (s : State) (h : Machine.Runs step Meets {} l s) :
    s.finished.Nodup ∧ (s.pc = .terminated →
      (∀ k ∈ s.calls.returned, k ∈ s.finished) ∧ s.slots = commandCapacity) := by
  have hk : s.Kept := h.invariant (I := Kept) ⟨⟨rfl, nofun, .nil⟩, nofun, by simp⟩
    fun _ _ _ hi hm hs => hi.step hm hs
  refine ⟨hk.sound.nodup, fun hpc => ?_⟩
  obtain ⟨-, ⟨-, ha⟩, hr, hw, hq⟩ := hk.empty (.inr hpc)
  have hnone : s.queued = [] := by simp [queued, hr, hw, hq]
  have hslots := hk.sound.slots
  rw [ha, hnone] at hslots
  refine ⟨fun k hk' => (hk.sound.returned k hk').resolve_left ?_, hslots⟩
  simp [hnone]

instance (s : State) : ∀ e, Decidable (s.Meets e)
  | .run _ => inferInstanceAs (Decidable (_ → _))
  | .submit _ | .acquire _ | .put _ | .requestClose => inferInstanceAs (Decidable True)

/-- A write of one byte. -/
def one : Command := { id := 1, kind := .write, payload := [7] }

theorem commands_resolved_one : ∃ s : State,
    (∀ k ∈ s.calls.returned, k ∈ s.finished) ∧ s.calls.returned = [1] ∧ s.slots = 4 := by
  have hexec : ∃ s ∈ Machine.exec step Meets {} (([.submit one, .acquire one, .put one] :
      List Event) ++ List.replicate 4 (.run (.done (some 1) []) : Event) ++
      ([.run .blocks, .requestClose] : List Event) ++ List.replicate 3 (.run .blocks : Event)),
      s.pc = .terminated ∧ s.calls.returned = [1] := by
    decide +kernel
  obtain ⟨s, hs, hpc, hret⟩ := hexec
  have hall := (commands_resolved _ s (Machine.runs_of_exec hs)).2 hpc
  exact ⟨s, hall.1, hret, hall.2⟩

/-- The thread stops between a caller's check of the flag and its `put`. -/
theorem late_command_unresolved :
    ∃ s ∈ Machine.exec step (fun _ _ => True) {} (([.submit one, .acquire one, .requestClose] :
      List Event) ++ List.replicate 3 (.run .blocks : Event) ++ ([.put one] : List Event)),
      s.pc = .terminated ∧ s.calls.returned = [1] ∧ s.finished = [] ∧ s.slots = 3 := by
  decide +kernel

end State

end Pipe

end RobotHal.Python
