import RobotHal.Core

/-!
The transfer loops of a native serial session (`session.rs` of the serial adapter).

A loop is handed its turns: what each one loads of the session's lifecycle and reads off the clock,
and what the port answers if it is asked. It is followed as far as they go, together with the
calls of the port that it made.
-/

namespace RobotHal.SerialPort

/-- The kinds of `std::io::Error` that the adapter tells apart. -/
inductive IoErrorKind
  | notFound
  | permissionDenied
  | timedOut
  | wouldBlock
  | addrInUse
  | alreadyExists
  | invalidInput
  | invalidData
  | interrupted
  | other
deriving DecidableEq

/-- `kindText` and `text` are how the kind and the error print. -/
structure IoError where
  kind : IoErrorKind
  kindText : String
  text : String
  rawOsError : Option ℤ
deriving DecidableEq

def ioErrorDecision : IoErrorKind → String × ErrorCategory × Bool
  | .notFound => ("runtime.resource.not_found", .notFound, false)
  | .permissionDenied => ("runtime.transport.permission_denied", .conflict, false)
  | .timedOut | .wouldBlock => ("runtime.transport.timeout", .unavailable, true)
  | .addrInUse | .alreadyExists => ("runtime.transport.busy", .conflict, true)
  | .invalidInput | .invalidData =>
    ("runtime.transport.unsupported_configuration", .invalidArgument, false)
  | .interrupted | .other => ("runtime.transport.disconnected", .unavailable, true)

def mapIoError (operation : String) (e : IoError) : HalError :=
  let (name, category, retryable) := ioErrorDecision e.kind
  let code := e.rawOsError.map toString
  { HalError.new name category operation retryable ("io error kind=" ++ e.kindText ++
      " raw_os_error=" ++ code.getD "none" ++ ": " ++ e.text) with platformCode := code }

def timeout (operation message : String) : HalError :=
  .new "runtime.transport.timeout" .unavailable operation true message

def sessionClosed (operation : String) : HalError :=
  .new "runtime.session.closed" .conflict operation false "serial session is closing"

def disconnected (operation message : String) : HalError :=
  .new "runtime.transport.disconnected" .unavailable operation true message

/-- The lifecycle flag of a session. -/
inductive Lifecycle
  | opened
  | closing
  | closed
deriving DecidableEq

/-- One turn of a loop. `configured` is what the port says to the timeout it is given; a flush
gives it none. -/
structure Turn (α : Type) where
  lifecycle : Lifecycle
  now : ℕ
  configured : Except IoError Unit
  outcome : Except IoError α

/-- A call of the port, with what its turn had seen. `timeout` is the timeout set before it, for
a flush the wait after it. -/
structure Call (β : Type) where
  lifecycle : Lifecycle
  now : ℕ
  timeout : ℕ
  result : β

/-- In nanoseconds. -/
def normalizeNativeTimeout (timeout : ℕ) : ℕ :=
  let roundedMillis := timeout / 10 ^ 6 + if timeout % 10 ^ 6 ≠ 0 then 1 else 0
  max 1 (min roundedMillis 100) * 10 ^ 6

def checkedDurationSince (deadline now : ℕ) : Option ℕ :=
  if now ≤ deadline then some (deadline - now) else none

def IoError.retried (e : IoError) : Bool := e.kind = .interrupted || e.kind = .timedOut

namespace Turn

variable {α β : Type} (t : Turn α) (operation what : String) (deadline : ℕ)

/-- The head of every turn: the time that is left. -/
def remaining : HalResult ℕ :=
  if t.lifecycle ≠ .opened then .error (sessionClosed operation)
  else
    match checkedDurationSince deadline t.now with
    | none | some 0 =>
      .error (timeout operation (what ++ " exceeded its configured operation deadline"))
    | some remaining => .ok remaining

/-- The timeout the port is given. -/
def configure : HalResult ℕ := do
  let remaining ← t.remaining operation what deadline
  match t.configured with
  | .ok _ => pure (normalizeNativeTimeout remaining)
  | .error e => throw (mapIoError operation e)

def call (timeout : ℕ) (result : β) : Call β := ⟨t.lifecycle, t.now, timeout, result⟩

end Turn

/-- What a loop has come to, and its calls; without a result it is still at work. -/
abbrev Loop (α β : Type) := Option (HalResult α) × List (Call β)

def Loop.after {α β : Type} (c : Call β) (x : Loop α β) : Loop α β := (x.1, c :: x.2)

/-- A port that is willing to take `n` bytes takes so many of those it is offered. -/
def writeAllBounded (deadline : ℕ) : List UInt8 → List (Turn ℕ) → Loop Unit (List UInt8)
  | [], _ => (some (.ok ()), [])
  | _, [] => (none, [])
  | bytes, t :: turns =>
    match t.configure "serial.write" "write" deadline with
    | .error e => (some (.error e), [])
    | .ok timeout =>
      match t.outcome with
      | .ok 0 =>
        (some (.error (disconnected "serial.write" "serial port made no progress while writing")),
          [t.call timeout []])
      | .ok n =>
        (writeAllBounded deadline (bytes.drop n) turns).after (t.call timeout (bytes.take n))
      | .error e =>
        if e.retried then (writeAllBounded deadline bytes turns).after (t.call timeout [])
        else (some (.error (mapIoError "serial.write" e)), [t.call timeout []])

/-- A port that has bytes delivers those that fit into the buffer. -/
def readBounded (maxBytes deadline : ℕ) : List (Turn (List UInt8)) → Loop (List UInt8) (List UInt8)
  | [] => (none, [])
  | t :: turns =>
    match t.configure "serial.read" "read" deadline with
    | .error e => (some (.error e), [])
    | .ok timeout =>
      match t.outcome.map (List.take maxBytes) with
      | .ok [] =>
        (some (.error (disconnected "serial.read" "serial port returned end of stream")),
          [t.call timeout []])
      | .ok buffer => (some (.ok buffer), [t.call timeout buffer])
      | .error e =>
        if e.retried then (readBounded maxBytes deadline turns).after (t.call timeout [])
        else (some (.error (mapIoError "serial.read" e)), [t.call timeout []])

/-- In turns of at most five milliseconds. -/
def flushBounded (deadline : ℕ) : List (Turn ℕ) → Loop Unit (Except IoError ℕ)
  | [] => (none, [])
  | t :: turns =>
    match t.remaining "serial.flush" "flush" deadline with
    | .error e => (some (.error e), [])
    | .ok remaining =>
      let call := t.call (min remaining (5 * 10 ^ 6)) t.outcome
      match t.outcome with
      | .error e => (some (.error (mapIoError "serial.flush" e)), [call])
      | .ok 0 => (some (.ok ()), [call])
      | .ok _ => (flushBounded deadline turns).after call

/-! ### What the loops have in common -/

section Loops

variable {α β : Type} {t : Turn α} {operation what : String} {deadline timeout : ℕ}

/-- The bytes that were moved. -/
def moved (l : List (Call (List UInt8))) : List UInt8 := l.flatMap Call.result

/-- Every call was made before the deadline, in an open session. -/
def Timely (deadline : ℕ) (l : List (Call β)) : Prop :=
  ∀ c ∈ l, c.lifecycle = .opened ∧ c.now < deadline

lemma timely_nil : Timely deadline ([] : List (Call β)) := nofun

lemma Turn.timely_of_remaining (h : t.remaining operation what deadline = .ok timeout)
    {l : List (Call β)} (hl : Timely deadline l) (k : ℕ) (r : β) :
    Timely deadline (t.call k r :: l) := by
  have ht : t.lifecycle = .opened ∧ t.now < deadline := by
    unfold Turn.remaining checkedDurationSince at h
    split at h
    · cases h
    rename_i hopen
    split at h
    · cases h
    · cases h
    · rename_i k hpos hk
      have hpos : k ≠ 0 := hpos
      refine ⟨by simpa using hopen, ?_⟩
      split at hk
      · have := Option.some.inj hk
        omega
      · cases hk
  intro c hc
  rcases List.mem_cons.mp hc with rfl | hc
  · exact ht
  · exact hl c hc

lemma Turn.timely_of_configure (h : t.configure operation what deadline = .ok timeout)
    {l : List (Call β)} (hl : Timely deadline l) (r : β) :
    Timely deadline (t.call timeout r :: l) := by
  unfold Turn.configure at h
  rcases hr : t.remaining operation what deadline with e | remaining
  · rw [hr] at h
    cases h
  · exact timely_of_remaining hr hl timeout r

end Loops

/-! ### Each loop -/

variable {bytes : List UInt8} {deadline : ℕ}

/-- What writing `bytes` must come to. -/
structure Writes (deadline : ℕ) (bytes : List UInt8) (x : Loop Unit (List UInt8)) : Prop where
  part : moved x.2 <+: bytes
  whole : moved x.2 = bytes ↔ x.1 = some (.ok ())
  timely : Timely deadline x.2

lemma Writes.done : Writes deadline [] (some (.ok ()), []) :=
  ⟨List.prefix_rfl, ⟨fun _ => rfl, fun _ => rfl⟩, timely_nil⟩

lemma Writes.stopped {r : Option (HalResult Unit)} {l : List (Call (List UInt8))} (b : UInt8)
    (hr : r ≠ some (.ok ())) (hl : moved l = []) (ht : Timely deadline l) :
    Writes deadline (b :: bytes) (r, l) := by
  refine ⟨hl ▸ List.nil_prefix, ⟨fun h => ?_, fun h => absurd h hr⟩, ht⟩
  rw [hl] at h
  cases h

lemma Writes.after {x : Loop Unit (List UInt8)} {n : ℕ} (h : Writes deadline (bytes.drop n) x)
    {c : Call (List UInt8)} (hc : c.result = bytes.take n) (ht : Timely deadline (c :: x.2)) :
    Writes deadline bytes (x.after c) := by
  have hmoved : moved (x.after c).2 = bytes.take n ++ moved x.2 := by
    rw [← hc]
    rfl
  refine ⟨?_, ?_, ht⟩
  · rw [hmoved]
    obtain ⟨rest, hrest⟩ := h.part
    exact ⟨rest, by rw [List.append_assoc, hrest, List.take_append_drop]⟩
  · rw [hmoved]
    refine Iff.trans ⟨fun heq => ?_, fun heq => ?_⟩ h.whole
    · exact List.append_cancel_left (heq.trans (List.take_append_drop n bytes).symm)
    · rw [heq, List.take_append_drop]

lemma writeAllBounded_writes (bytes : List UInt8) (turns : List (Turn ℕ)) :
    Writes deadline bytes (writeAllBounded deadline bytes turns) := by
  induction turns generalizing bytes with
  | nil =>
    cases bytes with
    | nil => exact .done
    | cons b bytes => exact .stopped b nofun rfl timely_nil
  | cons t turns ih =>
    cases bytes with
    | nil => exact .done
    | cons b bytes =>
      unfold writeAllBounded
      split
      · exact .stopped b nofun rfl timely_nil
      rename_i timeout hc
      split
      · exact .stopped b nofun rfl (Turn.timely_of_configure hc timely_nil _)
      · exact (ih _).after rfl (Turn.timely_of_configure hc (ih _).timely _)
      · -- nothing was taken
        split
        · exact Writes.after (n := 0) (ih _) rfl (Turn.timely_of_configure hc (ih _).timely _)
        · exact .stopped b nofun rfl (Turn.timely_of_configure hc timely_nil _)

/-- What reading at most `maxBytes` must come to: only the last call can have brought bytes, and
they are the result. -/
structure Reads (deadline maxBytes : ℕ) (x : Loop (List UInt8) (List UInt8)) : Prop where
  single : ∀ b, x.1 = some (.ok b) → 1 ≤ b.length ∧ b.length ≤ maxBytes ∧
    ∃ l c, x.2 = l ++ [c] ∧ c.result = b ∧ ∀ y ∈ l, y.result = []
  none_lost : moved x.2 = match x.1 with | some (.ok b) => b | _ => []
  timely : Timely deadline x.2

lemma readBounded_reads (maxBytes : ℕ) (turns : List (Turn (List UInt8))) :
    Reads deadline maxBytes (readBounded maxBytes deadline turns) := by
  induction turns with
  | nil => exact ⟨nofun, rfl, timely_nil⟩
  | cons t turns ih =>
    unfold readBounded
    split
    · exact ⟨nofun, rfl, timely_nil⟩
    rename_i timeout hc
    split
    · exact ⟨nofun, rfl, Turn.timely_of_configure hc timely_nil _⟩
    · rename_i buffer hne hbuffer
      refine ⟨fun b hb => ?_, List.flatMap_singleton .., Turn.timely_of_configure hc timely_nil _⟩
      obtain rfl : buffer = b := by simpa using hb
      refine ⟨List.length_pos_iff.mpr hne, ?_, [], _, rfl, rfl, nofun⟩
      rcases hout : t.outcome with e | offered
      · simp [hout, Except.map] at hbuffer
      · simp only [hout, Except.map, Except.ok.injEq] at hbuffer
        rw [← hbuffer]
        exact List.length_take_le maxBytes offered
    · split
      · refine ⟨fun b hb => ?_, ih.none_lost, Turn.timely_of_configure hc ih.timely _⟩
        obtain ⟨hpos, hle, l, c, hl, hcb, hnil⟩ := ih.single b hb
        refine ⟨hpos, hle, t.call timeout [] :: l, c, congrArg _ hl, hcb, fun y hy => ?_⟩
        rcases List.mem_cons.mp hy with rfl | hy
        · rfl
        · exact hnil y hy
      · exact ⟨nofun, rfl, Turn.timely_of_configure hc timely_nil _⟩

/-- What flushing must come to. -/
structure Flushes (deadline : ℕ) (x : Loop Unit (Except IoError ℕ)) : Prop where
  empty : x.1 = some (.ok ()) → ∃ l c, x.2 = l ++ [c] ∧ c.result = .ok 0
  timely : Timely deadline x.2

lemma flushBounded_flushes (turns : List (Turn ℕ)) :
    Flushes deadline (flushBounded deadline turns) := by
  induction turns with
  | nil => exact ⟨nofun, timely_nil⟩
  | cons t turns ih =>
    unfold flushBounded
    split
    · exact ⟨nofun, timely_nil⟩
    rename_i remaining hr
    dsimp only
    split
    · exact ⟨nofun, Turn.timely_of_remaining hr timely_nil _ _⟩
    · rename_i hout
      exact ⟨fun _ => ⟨[], _, rfl, hout⟩, Turn.timely_of_remaining hr timely_nil _ _⟩
    · refine ⟨fun h => ?_, Turn.timely_of_remaining hr ih.timely _ _⟩
      obtain ⟨l, c, hl, hc⟩ := ih.empty h
      exact ⟨_ :: l, c, congrArg _ hl, hc⟩

/-- **The transfer loops move what they report.** The bytes the port took form a part of the input
from its start, and all of it exactly if the write succeeds; a read that succeeds returns what
one call brought, and no call brought anything else; a flush succeeds on an empty queue only; and
the port is called in open sessions and before the deadline only. -/
theorem transfer_loops_report (deadline : ℕ) :
    (∀ bytes turns, Writes deadline bytes (writeAllBounded deadline bytes turns)) ∧
      (∀ maxBytes turns, Reads deadline maxBytes (readBounded maxBytes deadline turns)) ∧
      ∀ turns, Flushes deadline (flushBounded deadline turns) :=
  ⟨writeAllBounded_writes, readBounded_reads, flushBounded_flushes⟩

end RobotHal.SerialPort
