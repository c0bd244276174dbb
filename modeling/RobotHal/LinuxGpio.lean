import RobotHal.Core
import RobotHal.Machine

/-!
GPIO lines of Linux.

A session holds a line request of the kernel: the settings of its lines and a queue of edges. The
settings are given when the lines are requested and again in every wait for an edge; a setting that
is not given takes the default of the library. Of the edges a wait reads it returns the first.
-/

namespace RobotHal.LinuxGpio

/-! ### Values of `robot-hal-gpio` -/

def maxGpioEvents : ℕ := 1024

inductive GpioDirection
  | input
  | output
deriving DecidableEq

inductive GpioBias
  | disabled
  | pullUp
  | pullDown
deriving DecidableEq

inductive GpioDrive
  | pushPull
  | openDrain
  | openSource
deriving DecidableEq

/-- `GpioLineConfig` has no constructors but these. -/
inductive GpioLineConfig
  | input (activeLow : Bool) (bias : GpioBias)
  | output (activeLow initialValue : Bool) (drive : GpioDrive)
deriving DecidableEq

namespace GpioLineConfig

def direction : GpioLineConfig → GpioDirection
  | .input .. => .input
  | .output .. => .output

def activeLow : GpioLineConfig → Bool
  | .input activeLow _ => activeLow
  | .output activeLow .. => activeLow

def bias : GpioLineConfig → GpioBias
  | .input _ bias => bias
  | .output .. => .disabled

def drive : GpioLineConfig → Option GpioDrive
  | .input .. => none
  | .output _ _ drive => some drive

def initialValue : GpioLineConfig → Option Bool
  | .input .. => none
  | .output _ initialValue _ => some initialValue

end GpioLineConfig

inductive GpioEdge
  | rising
  | falling
deriving DecidableEq

inductive EdgeMask
  | empty
  | rising
  | falling
  | both
deriving DecidableEq

def EdgeMask.contains : EdgeMask → GpioEdge → Bool
  | .empty, _ => false
  | .rising, edge => edge = .rising
  | .falling, edge => edge = .falling
  | .both, _ => true

structure GpioEdgeRequest where
  edges : EdgeMask
  capacity : ℕ
  edges_ne : edges ≠ .empty
  capacity_pos : 0 < capacity
  capacity_le : capacity ≤ maxGpioEvents

def GpioEdgeRequest.new (edges : EdgeMask) (capacity : ℕ) : HalResult GpioEdgeRequest :=
  if h : edges ≠ .empty ∧ 0 < capacity ∧ capacity ≤ maxGpioEvents then
    .ok ⟨edges, capacity, h.1, h.2.1, h.2.2⟩
  else .error (HalError.new "gpio.edge_request.invalid" .invalidArgument "gpio.edge_request" false
    "edge request must select edges and use a bounded non-zero capacity")

structure GpioEdgeEvent where
  edge : GpioEdge
  monotonicNs : UInt64
  sequence : UInt64
deriving DecidableEq

/-! ### The kernel's line request -/

inductive Edge
  | rising
  | falling
  | both
deriving DecidableEq

/-- What the library starts from: no direction, bias or edge detection is asked for. The clock of
events is left out, as nothing sets another than the default. -/
structure Settings where
  direction : Option GpioDirection := none
  bias : Option GpioBias := none
  drive : GpioDrive := .pushPull
  activeLow : Bool := false
  edgeDetection : Option Edge := none
  outputValue : Bool := false
deriving DecidableEq

structure KernelEdge where
  kind : GpioEdge
  timestampNs : ℕ
  globalSeqno : ℕ
deriving DecidableEq

structure Request where
  settings : Settings
  queue : List KernelEdge := []
  /-- what was read so far -/
  taken : List KernelEdge := []
deriving DecidableEq

def Request.readEdgeEvents (r : Request) (capacity : ℕ) : Request :=
  { r with
    queue := r.queue.drop capacity
    taken := r.taken ++ r.queue.take capacity }

/-! ### Sessions -/

structure LinuxGpioSession where
  lines : List ℕ
  config : GpioLineConfig
  request : Request
  closed : Bool := false
deriving DecidableEq

def invalid (operation message : String) : HalError :=
  HalError.new "runtime.argument.invalid" .invalidArgument operation false message

def unsupported (operation message : String) : HalError :=
  HalError.new "runtime.protocol.capability_unsupported" .conflict operation false message

def sessionClosed (operation : String) : HalError :=
  HalError.new "runtime.session.closed" .conflict operation false "GPIO session is closed"

def platformError (operation error : String) : HalError :=
  HalError.new "runtime.transport.unavailable" .unavailable operation true
    ("libgpiod error: " ++ error)

def ensureOpen (closed : Bool) (operation : String) : HalResult Unit :=
  if closed then .error (sessionClosed operation) else .ok ()

def requestLines (config : GpioLineConfig) : Settings :=
  { direction := some config.direction
    bias := some config.bias
    drive := config.drive.getD .pushPull
    activeLow := config.activeLow
    outputValue := config.initialValue.getD false }

/-- An open on a chip that was found; `native` is the failure of the library, if it fails. -/
def openSync (lines : List ℕ) (config : GpioLineConfig) (native : Option String) :
    HalResult LinuxGpioSession :=
  if lines.isEmpty then .error (invalid "gpio.open" "at least one GPIO line is required")
  else match native with
    | some error => .error (platformError "gpio.open" error)
    | none => .ok { lines, config, request := { settings := requestLines config } }

namespace LinuxGpioSession

/-- `values` is what the kernel says about the lines. -/
def read (x : LinuxGpioSession) (values : Except String (ℕ → Option Bool)) :
    HalResult (List Bool) := do
  ensureOpen x.closed "gpio.read"
  let values ← values.mapError (platformError "gpio.read")
  x.lines.mapM fun line => match values line with
    | some value => .ok value
    | none => .error (invalid "gpio.read" "requested GPIO line disappeared")

def write (x : LinuxGpioSession) (values : List Bool) (native : Option String) :
    HalResult Unit := do
  ensureOpen x.closed "gpio.write"
  if x.config.direction ≠ .output then
    throw (unsupported "gpio.write" "GPIO lines were requested as inputs")
  if values.length ≠ x.lines.length then
    throw (invalid "gpio.write" "value count must equal requested line count")
  match native with
  | some error => throw (platformError "gpio.write" error)
  | none => return ()

end LinuxGpioSession

/-- What happens once the kernel has taken the settings of a wait: waiting fails, or edges arrive
while it waits, after which the buffer may not be had or reading may fail. -/
inductive Wait
  | failed (error : String)
  | waited (arrived : List KernelEdge) (native : Option String)
deriving DecidableEq

/-- The settings or the line configuration cannot be built, or the kernel refuses them, or takes
them. -/
inductive Reconfigure
  | failed (error : String)
  | taken (wait : Wait)
deriving DecidableEq

def edgeDetection (edges : EdgeMask) : HalResult Edge :=
  match edges.contains .rising, edges.contains .falling with
  | true, true => .ok .both
  | true, false => .ok .rising
  | false, true => .ok .falling
  | false, false => .error (invalid "gpio.next_edge" "no edge selected")

def edgeSettings (config : GpioLineConfig) (edge : Edge) : Settings :=
  { direction := some .input, activeLow := config.activeLow, edgeDetection := some edge }

def GpioEdgeEvent.ofKernel (e : KernelEdge) : GpioEdgeEvent :=
  ⟨e.kind, .ofNat (min e.timestampNs (UInt64.size - 1)), .ofNat e.globalSeqno⟩

namespace LinuxGpioSession

def waitEdge (r : Request) (capacity : ℕ) : Wait → Request × HalResult (Option GpioEdgeEvent)
  | .failed error => (r, .error (platformError "gpio.next_edge" error))
  | .waited arrived native =>
    let r := { r with queue := r.queue ++ arrived }
    if r.queue.isEmpty then (r, .ok none)
    else match native with
      | some error => (r, .error (platformError "gpio.next_edge" error))
      | none =>
        (r.readEdgeEvents capacity, match r.queue.take capacity with
          | [] => .error (platformError "gpio.next_edge" "edge wakeup without event")
          | e :: _ => .ok (some (.ofKernel e)))

def nextEdge (x : LinuxGpioSession) (request : GpioEdgeRequest) (native : Reconfigure) :
    LinuxGpioSession × HalResult (Option GpioEdgeEvent) :=
  match ensureOpen x.closed "gpio.next_edge" with
  | .error e => (x, .error e)
  | .ok _ =>
    if x.config.direction ≠ .input then
      (x, .error (unsupported "gpio.next_edge" "GPIO edges require input lines"))
    else match edgeDetection request.edges, native with
      | .error e, _ => (x, .error e)
      | .ok _, .failed error => (x, .error (platformError "gpio.next_edge" error))
      | .ok edge, .taken wait =>
        let out := waitEdge { x.request with settings := edgeSettings x.config edge }
          request.capacity wait
        ({ x with request := out.1 }, out.2)

end LinuxGpioSession

/-! ### Runs -/

structure State where
  session : LinuxGpioSession
  /-- what calls of `next_edge` returned -/
  returned : List GpioEdgeEvent := []
  /-- what calls of `read` returned, and of `write` -/
  readings : List (HalResult (List Bool)) := []
  writes : List (HalResult Unit) := []

inductive Event
  | edge (e : KernelEdge)
  | read (values : Except String (ℕ → Option Bool))
  | write (values : List Bool) (native : Option String)
  | nextEdge (request : GpioEdgeRequest) (native : Reconfigure)
  | close

def State.nextEdge (s : State) (request : GpioEdgeRequest) (native : Reconfigure) : State :=
  let out := s.session.nextEdge request native
  { s with
    session := out.1
    returned := match out.2 with
      | .ok (some e) => s.returned ++ [e]
      | _ => s.returned }

def step (s : State) : Event → Option State
  | .edge e => some { s with session.request.queue := s.session.request.queue ++ [e] }
  | .read values => some { s with readings := s.readings ++ [s.session.read values] }
  | .write values native => some { s with writes := s.writes ++ [s.session.write values native] }
  | .nextEdge request native => some (s.nextEdge request native)
  | .close => some { s with session.closed := true }

variable {s s' : State} {ev : Event} {x : LinuxGpioSession} {request : GpioEdgeRequest}
  {native : Reconfigure}

/-! ### One wait -/

/-- A session whose waits reach the kernel. -/
def LinuxGpioSession.Waits (x : LinuxGpioSession) : Prop :=
  x.closed = false ∧ x.config.direction = .input

instance : Decidable x.Waits := inferInstanceAs (Decidable (_ ∧ _))

lemma nextEdge_cases (x : LinuxGpioSession) (request : GpioEdgeRequest) (native : Reconfigure) :
    (∃ edge wait, native = .taken wait ∧ x.Waits ∧
      x.nextEdge request native =
        let out := LinuxGpioSession.waitEdge
          { x.request with settings := edgeSettings x.config edge } request.capacity wait
        ({ x with request := out.1 }, out.2)) ∨
    ∃ e, (∀ wait, native = .taken wait → ¬x.Waits) ∧ x.nextEdge request native = (x, .error e) := by
  unfold LinuxGpioSession.nextEdge ensureOpen
  by_cases hclosed : x.closed = true
  · rw [if_pos hclosed]
    exact .inr ⟨_, fun _ _ h => absurd (h.1.symm.trans hclosed) nofun, rfl⟩
  rw [if_neg hclosed]
  dsimp only
  by_cases hinput : x.config.direction = .input
  swap
  · rw [if_pos hinput]
    exact .inr ⟨_, fun _ _ h => hinput h.2, rfl⟩
  rw [if_neg (not_not.mpr hinput)]
  have hedge : ∃ edge, edgeDetection request.edges = .ok edge := by
    have hne := request.edges_ne
    cases h : request.edges with
    | empty => exact absurd h hne
    | rising => exact ⟨.rising, rfl⟩
    | falling => exact ⟨.falling, rfl⟩
    | both => exact ⟨.both, rfl⟩
  obtain ⟨edge, hedge⟩ := hedge
  rw [hedge]
  cases native with
  | failed error => exact .inr ⟨_, nofun, rfl⟩
  | taken wait => exact .inl ⟨edge, wait, rfl, ⟨Bool.eq_false_iff.mpr hclosed, hinput⟩, rfl⟩

/-! ### Edges -/

/-- How many edges the call reads from the kernel. -/
def State.takes (s : State) : Event → ℕ
  | .nextEdge request (.taken (.waited arrived none)) =>
    if s.session.Waits then min request.capacity (s.session.request.queue ++ arrived).length else 0
  | _ => 0

/-- Every edge that was read was returned, once and in order. -/
def State.Conserved (s : State) : Prop :=
  s.returned = s.session.request.taken.map .ofKernel

lemma step_reads (h : step s ev = some s') :
    (s.takes ev = 0 ∧ s'.session.request.taken = s.session.request.taken ∧
      s'.returned = s.returned) ∨
      ∃ e rest, s.takes ev = rest.length + 1 ∧
        s'.session.request.taken = s.session.request.taken ++ e :: rest ∧
        s'.returned = s.returned ++ [.ofKernel e] := by
  cases ev with
  | edge e | read values | write values native | close => cases h; exact .inl ⟨rfl, rfl, rfl⟩
  | nextEdge request native =>
    cases h
    unfold State.nextEdge
    obtain ⟨edge, wait, rfl, hwaits, hout⟩ | ⟨e, hno, hout⟩ :=
      nextEdge_cases s.session request native
    · rw [hout]
      cases wait with
      | failed error => exact .inl ⟨rfl, rfl, rfl⟩
      | waited arrived native =>
        unfold State.takes LinuxGpioSession.waitEdge
        dsimp only
        rcases hq : s.session.request.queue ++ arrived with _ | ⟨e, q⟩
        · cases native <;> exact .inl ⟨by simp [List.append_eq_nil_iff.mp hq], rfl, rfl⟩
        · cases native with
          | some error => exact .inl ⟨rfl, rfl, rfl⟩
          | none =>
            obtain ⟨c, hc⟩ := Nat.exists_eq_add_one.mpr request.capacity_pos
            refine .inr ⟨e, q.take c, ?_, ?_, ?_⟩ <;> simp [hwaits, hc, Request.readEdgeEvents, hq]
    · rw [hout]
      refine .inl ⟨?_, rfl, rfl⟩
      cases native with
      | failed error => rfl
      | taken wait =>
        cases wait with
        | failed error => rfl
        | waited arrived native =>
          cases native with
          | none => exact if_neg (hno _ rfl)
          | some error => rfl

lemma conserved_step_iff (hc : s.Conserved) (h : step s ev = some s') :
    s'.Conserved ↔ s.takes ev ≤ 1 := by
  unfold State.Conserved at hc ⊢
  obtain ⟨htakes, htaken, hreturned⟩ | ⟨e, rest, htakes, htaken, hreturned⟩ := step_reads h
  · rw [htaken, hreturned, htakes]
    exact iff_of_true hc (Nat.zero_le 1)
  · rw [htaken, hreturned, htakes, hc, List.map_append, List.append_cancel_left_eq]
    cases rest <;> simp

/-- A session whose lines were just requested. -/
def State.initial (session : LinuxGpioSession) : State := { session }

/-- **Edges are returned one for each read.** As long as no call reads two edges, every edge that
leaves the kernel's queue is returned; a call that reads more loses all of them but one. -/
theorem edges_conserved_iff {lines : List ℕ} {config : GpioLineConfig} {session : LinuxGpioSession}
    (hopen : openSync lines config none = .ok session) :
    (∀ l s, Machine.Runs step (fun s ev => s.takes ev ≤ 1) (.initial session) l s → s.Conserved) ∧
    ∀ l s, Machine.Runs step (fun _ _ => True) (.initial session) l s → s.Conserved →
      ∀ ev s', step s ev = some s' → (s'.Conserved ↔ s.takes ev ≤ 1) := by
  have h0 : (State.initial session).Conserved := by
    unfold openSync at hopen
    split at hopen
    · cases hopen
    · cases hopen
      rfl
  constructor
  · intro l s hrun
    exact hrun.invariant (I := State.Conserved) h0
      fun a e b hi hok hs => (conserved_step_iff hi hs).mpr hok
  · intro l s _ hc ev s' hs
    exact conserved_step_iff hc hs

def pressed : KernelEdge := ⟨.rising, 1000, 1⟩
def released : KernelEdge := ⟨.falling, 2000, 2⟩

/-- A button with a pull-up. -/
def button : LinuxGpioSession :=
  { lines := [4]
    config := .input false .pullUp
    request := { settings := requestLines (.input false .pullUp) } }

/-- A wait for any edge, with room for that many. -/
def waitBoth (capacity : Fin 8) : Event :=
  .nextEdge ⟨.both, capacity + 1, nofun, Nat.succ_pos _, by unfold maxGpioEvents; omega⟩
    (.taken (.waited [] none))

theorem edges_conserved_one_by_one : ∃ s,
    Machine.Runs step (fun s ev => s.takes ev ≤ 1) (.initial button)
      [.edge pressed, .edge released, waitBoth 0, waitBoth 0] s ∧
    s.Conserved ∧ s.returned = [.ofKernel pressed, .ofKernel released] := by
  have hexec : ∃ s ∈ Machine.exec step (fun s ev => s.takes ev ≤ 1) (.initial button)
      [.edge pressed, .edge released, waitBoth 0, waitBoth 0],
      s.returned = [.ofKernel pressed, .ofKernel released] := by decide +kernel
  obtain ⟨s, hs, hreturned⟩ := hexec
  have hrun := Machine.runs_of_exec hs
  have hopen : openSync [4] (.input false .pullUp) none = .ok button := rfl
  exact ⟨s, hrun, (edges_conserved_iff hopen).1 _ s hrun, hreturned⟩

/-- With room for two, the wait reads both edges and returns the first; the second is gone. -/
theorem edges_lost_in_batch : ∃ s,
    Machine.Runs step (fun _ _ => True) (.initial button)
      [.edge pressed, .edge released, waitBoth 1, waitBoth 1] s ∧
    ¬s.Conserved ∧ s.session.request.taken = [pressed, released] ∧
    s.returned = [.ofKernel pressed] := by
  have hexec : ∃ s ∈ Machine.exec step (fun _ _ => True) (.initial button)
      [.edge pressed, .edge released, waitBoth 1, waitBoth 1],
      s.returned ≠ s.session.request.taken.map .ofKernel ∧
      s.session.request.taken = [pressed, released] ∧ s.returned = [.ofKernel pressed] := by
    decide +kernel
  obtain ⟨s, hs, h⟩ := hexec
  exact ⟨s, Machine.runs_of_exec hs, h⟩

/-! ### Settings -/

/-- The settings agree but for edge detection and what was written. -/
def Settings.Same (a b : Settings) : Prop :=
  a.direction = b.direction ∧ a.bias = b.bias ∧ a.drive = b.drive ∧ a.activeLow = b.activeLow

def State.Reconfigures (s : State) : Event → Prop
  | .nextEdge _ (.taken _) => s.session.Waits
  | _ => False

lemma not_same_edgeSettings (c config : GpioLineConfig) (edge : Edge) :
    ¬(edgeSettings c edge).Same (requestLines config) := fun h => nomatch h.2.1

lemma waitEdge_settings (r : Request) (capacity : ℕ) (wait : Wait) :
    (LinuxGpioSession.waitEdge r capacity wait).1.settings = r.settings := by
  cases wait with
  | failed error => rfl
  | waited arrived native =>
    unfold LinuxGpioSession.waitEdge
    dsimp only
    split
    · rfl
    · cases native <;> rfl

lemma same_step_iff {config : GpioLineConfig} (h : step s ev = some s') :
    s'.session.request.settings.Same (requestLines config) ↔
      s.session.request.settings.Same (requestLines config) ∧ ¬s.Reconfigures ev := by
  cases ev with
  | edge e | read values | write values native | close =>
    cases h; exact (and_iff_left not_false).symm
  | nextEdge request native =>
    cases h
    unfold State.nextEdge
    obtain ⟨edge, wait, rfl, hwaits, hout⟩ | ⟨e, hno, hout⟩ :=
      nextEdge_cases s.session request native
    · rw [hout]
      dsimp only
      rw [waitEdge_settings]
      exact iff_of_false (not_same_edgeSettings _ _ edge) fun h => h.2 hwaits
    · rw [hout]
      refine (and_iff_left ?_).symm
      cases native with
      | failed error => exact not_false
      | taken wait => exact hno wait rfl

/-- **Lines keep the settings they were opened with** until a wait for edges reaches the kernel,
which asks for no bias: after a call they are as they were requested exactly if they were before
and the call was no such wait. -/
theorem line_settings_kept_iff {lines : List ℕ} {config : GpioLineConfig}
    {session : LinuxGpioSession} (hopen : openSync lines config none = .ok session) :
    (∀ l s, Machine.Runs step (fun s ev => ¬s.Reconfigures ev) (.initial session) l s →
      s.session.request.settings.Same (requestLines config)) ∧
    ∀ l s, Machine.Runs step (fun _ _ => True) (.initial session) l s → ∀ ev s',
      step s ev = some s' → (s'.session.request.settings.Same (requestLines config) ↔
        s.session.request.settings.Same (requestLines config) ∧ ¬s.Reconfigures ev) := by
  have h0 : session.request.settings.Same (requestLines config) := by
    unfold openSync at hopen
    split at hopen
    · cases hopen
    · cases hopen
      exact ⟨rfl, rfl, rfl, rfl⟩
  constructor
  · intro l s hrun
    exact hrun.invariant (I := fun s => s.session.request.settings.Same (requestLines config)) h0
      fun a e b hi hok hs => (same_step_iff hs).mpr ⟨hi, hok⟩
  · intro l s _ ev s' hs
    exact same_step_iff hs

instance (s : State) : ∀ ev, Decidable (s.Reconfigures ev)
  | .nextEdge _ (.taken _) => inferInstanceAs (Decidable s.session.Waits)
  | .nextEdge _ (.failed _) | .edge _ | .read _ | .write .. | .close =>
    inferInstanceAs (Decidable False)

/-- A wait that the kernel refuses, then a read of the line. -/
def refusedWait : List Event :=
  [.nextEdge ⟨.both, 1, nofun, Nat.succ_pos _, by decide⟩ (.failed "EBUSY"),
    .read (.ok fun _ => true)]

theorem line_settings_kept_read : ∃ s,
    Machine.Runs step (fun s ev => ¬s.Reconfigures ev) (.initial button) refusedWait s ∧
      s.readings = [.ok [true]] ∧
      s.session.request.settings.Same (requestLines (.input false .pullUp)) := by
  have hexec : ∃ s ∈ Machine.exec step (fun s ev => ¬s.Reconfigures ev) (.initial button)
      refusedWait, s.readings = [.ok [true]] := by decide +kernel
  obtain ⟨s, hs, hreadings⟩ := hexec
  have hrun := Machine.runs_of_exec hs
  have hopen : openSync [4] (.input false .pullUp) none = .ok button := rfl
  exact ⟨s, hrun, hreadings, (line_settings_kept_iff hopen).1 _ s hrun⟩

/-- One wait takes the pull-up away. -/
theorem line_settings_lost : ∃ s,
    Machine.Runs step (fun _ _ => True) (.initial button) [waitBoth 0] s ∧
      button.request.settings.bias = some .pullUp ∧ s.session.request.settings.bias = none := by
  have hexec : ∃ s ∈ Machine.exec step (fun _ _ => True) (.initial button) [waitBoth 0],
      button.request.settings.bias = some .pullUp ∧ s.session.request.settings.bias = none := by
    decide +kernel
  obtain ⟨s, hs, h⟩ := hexec
  exact ⟨s, Machine.runs_of_exec hs, h⟩

end RobotHal.LinuxGpio
