import RobotHal.BrokerDispatch
import RobotHal.SerialSession

/-!
# Whose requests reach a session

A broker serves many connections on one runtime. What a connection opens goes into its own
registries, so for most requests a session of another connection does not exist. Serial reads,
writes, flushes and control lines are dispatched without a lookup: they reach whatever session
the runtime knows under the token they carry.

The machine here interleaves connections that open and close sessions with everything the serial
side of the runtime does. Session identifiers are drawn at random and do not repeat. A connection
that ended is left in place; nothing is said about requests it no longer reads.
-/

namespace RobotHal.Broker

/-- What an open put into the registry of its transport. -/
inductive Opened
  | serial
  | can (record : SessionRecord CanReceiveWireProfile)
  | usbGpio (record : SessionRecord SessionKind)
  | camera (record : SessionRecord Unit)

inductive Transport
  | serial
  | can
  | usbGpio
  | camera
deriving DecidableEq

namespace Registries

def register (g : Registries) (id : SessionId) : Opened → Registries
  | .serial => { g with serial := g.serial.registerSerialSession id }
  | .can record => { g with can := g.can.register id record }
  | .usbGpio record => { g with usbGpio := g.usbGpio.register id record }
  | .camera record => { g with camera := g.camera.register id record }

def recordClosed (g : Registries) (id : SessionId) : Transport → Registries
  | .serial => { g with serial := g.serial.recordSerialClosed id }
  | .can => { g with can := g.can.recordClosed id }
  | .usbGpio => { g with usbGpio := g.usbGpio.recordClosed id }
  | .camera => { g with camera := CameraDispatch.recordClosed g.camera id }

end Registries

structure State where
  serial : Serial.State := {}
  connections : Assoc ℕ Registries := ∅
  /-- the connection that opened a session -/
  openedBy : Assoc SessionId ℕ := ∅

inductive Event
  | connect (k : ℕ)
  | opened (k : ℕ) (id : SessionId) (what : Opened)
  | closed (k : ℕ) (id : SessionId) (transport : Transport)
  /-- connection `k` dispatches a request; `n` names the runtime call it may make -/
  | dispatch (k n : ℕ) (limits : NegotiatedLimits) (r : SessionRequest)
  | serial (e : Serial.Event)

namespace State

/-- The runtime returned the session; only its serial side is part of the state. -/
def returned (s : State) (id : SessionId) : Opened → Bool
  | .serial =>
    match s.serial.opens.lookup id with
    | some { pc := .returned (.ok _), .. } => true
    | _ => false
  | _ => true

def step (c : Serial.Config) (s : State) : Event → Option State
  | .connect k =>
    if (s.connections.lookup k).isSome then none
    else some { s with connections := s.connections.insert k {} }
  | .opened k id what =>
    match s.connections.lookup k with
    | none => none
    | some g =>
      if (s.openedBy.lookup id).isSome || !s.returned id what then none
      else
        some { s with
          connections := s.connections.insert k (g.register id what)
          openedBy := s.openedBy.insert id k }
  | .closed k id transport =>
    (s.connections.lookup k).map fun g =>
      { s with connections := s.connections.insert k (g.recordClosed id transport) }
  | .dispatch k n limits r =>
    match s.connections.lookup k with
    | none => none
    | some g =>
      match dispatchOperation limits g r, r.op.command with
      | .ok (.calls id lease), some cmd =>
        (s.serial.request n id lease cmd).map fun serial => { s with serial }
      | _, _ => some s
  | .serial e => (Serial.step c s.serial e).map fun serial => { s with serial }

abbrev Runs (c : Serial.Config) := Machine.Runs (step c) fun _ _ => True

end State

/-! ### The sessions of a connection are its own -/

namespace SessionRegistry

variable {π : Type} {g : SessionRegistry π} {id id' : SessionId}

lemma lookup_trim {removable : SessionRecord π → Bool}
    {sessions : Assoc SessionId (SessionRecord π)} {order : List SessionId}
    (h : ((trim removable sessions order).sessions.lookup id).isSome) :
    (sessions.lookup id).isSome := by
  induction order generalizing sessions with
  | nil => exact h
  | cons evicted order ih =>
    unfold trim at h
    split at h
    · have h' := ih h
      split at h'
      · rw [Assoc.lookup_erase_ite] at h'
        split at h'
        · cases h'
        · exact h'
      · exact h'
    · exact h

lemma lookup_recordClosedWith {removable : SessionRecord π → Bool}
    (h : ((recordClosedWith removable g id').sessions.lookup id).isSome) :
    (g.sessions.lookup id).isSome := by
  unfold recordClosedWith at h
  split at h
  · exact h
  rename_i x hx
  split at h
  · exact h
  have h' := lookup_trim h
  rw [Assoc.lookup_insert_ite] at h'
  split at h'
  · rename_i heq
    rw [heq, hx]
    rfl
  · exact h'

end SessionRegistry

namespace SerialSessionRegistry

variable {g : SerialSessionRegistry} {id id' : SessionId}

lemma isSerialSession_iff : g.isSerialSession id = true ↔ id ∈ g.active ∨ id ∈ g.closed := by
  unfold isSerialSession
  rw [Bool.or_eq_true, decide_eq_true_eq, decide_eq_true_eq]

lemma isSerialSession_trim {active closed order : List SessionId}
    (h : (trim active closed order).isSerialSession id = true) : id ∈ active ∨ id ∈ closed := by
  induction order generalizing closed with
  | nil => exact isSerialSession_iff.mp h
  | cons evicted order ih =>
    unfold trim at h
    split at h
    · exact (ih h).imp_right List.mem_of_mem_erase
    · exact isSerialSession_iff.mp h

lemma isSerialSession_recordSerialClosed
    (h : (g.recordSerialClosed id').isSerialSession id = true) : g.isSerialSession id = true := by
  unfold recordSerialClosed at h
  split at h
  · exact h
  rename_i hactive
  rw [isSerialSession_iff]
  split at h
  · exact (isSerialSession_iff.mp h).imp_left List.mem_of_mem_erase
  · rcases isSerialSession_trim h with h | h
    · exact .inl (List.mem_of_mem_erase h)
    · rcases List.mem_cons.mp h with rfl | h
      · exact .inl (not_not.mp hactive)
      · exact .inr h

lemma isSerialSession_register
    (h : (g.registerSerialSession id').isSerialSession id = true) :
    id = id' ∨ g.isSerialSession id = true := by
  unfold registerSerialSession at h
  rw [isSerialSession_iff] at h ⊢
  dsimp only at h
  split at h
  · exact .inr h
  · rw [List.mem_cons] at h
    tauto

end SerialSessionRegistry

namespace Registries

variable {g : Registries} {id id' : SessionId}

lemma owns_register {what : Opened} (h : (g.register id' what).Owns id) : id = id' ∨ g.Owns id := by
  have hinsert {π : Type} {sessions : Assoc SessionId (SessionRecord π)} {x : SessionRecord π}
      (hs : ((sessions.insert id' x).lookup id).isSome) :
      id = id' ∨ (sessions.lookup id).isSome := by
    rw [Assoc.lookup_insert_ite] at hs
    split at hs
    · exact .inl ‹_›
    · exact .inr hs
  cases what with
  | serial =>
    rcases h with h | h
    · exact (SerialSessionRegistry.isSerialSession_register h).imp_right .inl
    · exact .inr (.inr h)
  | can record =>
    rcases h with h | h | h
    · exact .inr (.inl h)
    · exact (hinsert h).imp_right fun h => .inr (.inl h)
    · exact .inr (.inr (.inr h))
  | usbGpio record =>
    rcases h with h | h | h | h
    · exact .inr (.inl h)
    · exact .inr (.inr (.inl h))
    · exact (hinsert h).imp_right fun h => .inr (.inr (.inl h))
    · exact .inr (.inr (.inr (.inr h)))
  | camera record =>
    rcases h with h | h | h | h
    · exact .inr (.inl h)
    · exact .inr (.inr (.inl h))
    · exact .inr (.inr (.inr (.inl h)))
    · exact (hinsert h).imp_right fun h => .inr (.inr (.inr h))

lemma owns_recordClosed {transport : Transport} (h : (g.recordClosed id' transport).Owns id) :
    g.Owns id := by
  cases transport with
  | serial => exact h.imp_left SerialSessionRegistry.isSerialSession_recordSerialClosed
  | can => exact h.imp_right (Or.imp_left SessionRegistry.lookup_recordClosedWith)
  | usbGpio =>
    exact h.imp_right (Or.imp_right (Or.imp_left SessionRegistry.lookup_recordClosedWith))
  | camera =>
    exact h.imp_right (Or.imp_right (Or.imp_right SessionRegistry.lookup_recordClosedWith))

end Registries

namespace State

/-- What a connection has in its registries it opened itself. -/
def Owned (s : State) : Prop :=
  ∀ k g, s.connections.lookup k = some g → ∀ id, g.Owns id → s.openedBy.lookup id = some k

lemma owned_initial : Owned {} := by
  intro k g hg
  simp at hg

variable {c : Serial.Config} {s s' : State}

lemma owned_step {e : Event} (h : s.Owned) (hs : s.step c e = some s') : s'.Owned := by
  cases e with
  | connect k =>
    unfold step at hs
    dsimp only at hs
    split at hs
    · cases hs
    cases hs
    intro k' g hg id hid
    dsimp only at hg
    rcases Assoc.of_lookup_insert hg with ⟨-, rfl⟩ | hg
    · exact absurd hid (by simp [Registries.Owns, SerialSessionRegistry.isSerialSession])
    · exact h k' g hg id hid
  | opened k id what =>
    unfold step at hs
    dsimp only at hs
    split at hs
    · cases hs
    rename_i g hg
    split at hs
    · cases hs
    rename_i hguard
    cases hs
    have hfresh : s.openedBy.lookup id = none := by
      cases hl : s.openedBy.lookup id with
      | none => rfl
      | some _ => simp [hl] at hguard
    have hkept {id' : SessionId} {k' : ℕ} (ho : s.openedBy.lookup id' = some k') :
        (s.openedBy.insert id k).lookup id' = some k' := by
      rw [Assoc.lookup_insert_ite, if_neg]
      · exact ho
      · rintro rfl
        rw [hfresh] at ho
        cases ho
    intro k' g' hg' id' hid
    dsimp only at hg' ⊢
    rcases Assoc.of_lookup_insert hg' with ⟨heq, rfl⟩ | hg'
    · rw [heq]
      rcases Registries.owns_register hid with rfl | hid
      · rw [Assoc.lookup_insert_ite, if_pos rfl]
      · exact hkept (h k g hg id' hid)
    · exact hkept (h k' g' hg' id' hid)
  | closed k id transport =>
    obtain ⟨g, hg, rfl⟩ := Option.map_eq_some_iff.mp hs
    intro k' g' hg' id' hid
    dsimp only at hg' ⊢
    rcases Assoc.of_lookup_insert hg' with ⟨heq, rfl⟩ | hg'
    · rw [heq]
      exact h k g hg id' (Registries.owns_recordClosed hid)
    · exact h k' g' hg' id' hid
  | dispatch k n limits r =>
    unfold step at hs
    dsimp only at hs
    split at hs
    · cases hs
    split at hs
    · obtain ⟨serial, -, rfl⟩ := Option.map_eq_some_iff.mp hs
      exact h
    · cases hs
      exact h
  | serial e =>
    obtain ⟨serial, -, rfl⟩ := Option.map_eq_some_iff.mp hs
    exact h

lemma run_owned {l : List Event} (h : Runs c {} l s) : s.Owned :=
  h.invariant (I := Owned) owned_initial fun _ _ _ hi _ hs => owned_step hi hs

end State

/-! ### Serial I/O -/

/-- The byte limits of a serial request. -/
def SessionOp.within (limits : NegotiatedLimits) : SessionOp → Bool
  | .serialRead maxBytes => maxBytes ≠ 0 && maxBytes.toNat ≤ limits.maxReadBytes
  | .serialWrite data => data.length ≤ limits.maxWriteBytes
  | _ => true

/-- Serial I/O is dispatched on its limits and the form of its token alone. -/
lemma dispatch_serial {limits : NegotiatedLimits} {g : Registries} {r : SessionRequest}
    {cmd : Serial.SerialCommand} (hcmd : r.op.command = some cmd) {out : Outcome} :
    dispatchOperation limits g r = .ok out ↔ r.op.within limits = true ∧
      ∃ x, parseSerialSessionLease r.sessionId r.lease = .ok x ∧ out = .calls x.1 x.2 := by
  obtain ⟨sessionId, lease, op⟩ := r
  have hparse : serialOperate sessionId lease = .ok out ↔
      ∃ x, parseSerialSessionLease sessionId lease = .ok x ∧ out = .calls x.1 x.2 := by
    refine bind_eq_ok.trans (exists_congr fun x => and_congr_right fun _ => ?_)
    exact ⟨fun h => (Except.ok.inj h).symm, fun h => congrArg _ h.symm⟩
  cases op with
  | serialRead maxBytes =>
    simp only [dispatchOperation, serialRead, SessionOp.within]
    split
    · rename_i hbad
      constructor
      · intro h
        cases h
      · rintro ⟨hin, -⟩
        simp only [ne_eq, decide_not, Bool.and_eq_true, Bool.not_eq_true', decide_eq_false_iff_not,
          decide_eq_true_eq] at hin
        rcases hbad with hzero | hbig
        · exact absurd hzero hin.1
        · exact absurd hbig (Nat.not_lt.mpr hin.2)
    · rename_i hgood
      obtain ⟨hzero, hbig⟩ := not_or.mp hgood
      refine hparse.trans (Iff.symm (and_iff_right ?_))
      simp [hzero, Nat.not_lt.mp hbig]
  | serialWrite data =>
    simp only [dispatchOperation, serialWrite, SessionOp.within]
    split
    · rename_i hbad
      constructor
      · intro h
        cases h
      · rintro ⟨hin, -⟩
        exact absurd hbad (Nat.not_lt.mpr (decide_eq_true_eq.mp hin))
    · rename_i hgood
      exact hparse.trans (Iff.symm (and_iff_right (decide_eq_true (Nat.not_lt.mp hgood))))
  | serialFlush | setSerialControlLines lines => exact hparse.trans (Iff.symm (and_iff_right rfl))
  | _ => cases hcmd

/-- The runtime queues a command for the session: it is active, its actor runs and has room, and
the token is the one of its lease. -/
structure Admitted (s : Serial.State) (id : SessionId) (lease : LeaseToken)
    (cmd : Serial.SerialCommand) (e : Serial.SessionEntry) (a : Serial.Actor) : Prop where
  entry : s.registry.sessions.lookup id = some e
  active : e.state = .active
  handle : e.actor = true
  token : s.registry.leases.validate e.resource id e.owner lease cmd.operation = .ok ()
  actor : s.actors.lookup id = some a
  running : a.stage.ended = false
  room : a.commands.length < Serial.commandQueueCapacity

lemma tryEnqueue_eq_ok {a : Serial.Actor} {operation : String} :
    a.tryEnqueue operation = .ok () ↔
      a.stage.ended = false ∧ a.commands.length < Serial.commandQueueCapacity := by
  unfold Serial.Actor.tryEnqueue
  cases a.stage.ended <;> by_cases hroom : a.commands.length < Serial.commandQueueCapacity <;>
    simp [hroom]

section Request

variable {s : Serial.State} {n : ℕ} {id : SessionId} {lease : LeaseToken}
  {cmd : Serial.SerialCommand}

lemma request_admitted {e : Serial.SessionEntry} {a : Serial.Actor}
    (hn : s.requests.lookup n = none) (h : Admitted s id lease cmd e a) :
    s.request n id lease cmd =
      some ({ s with requests := s.requests.insert n (.waiting e.resource) }.setActor id
        { a with commands := a.commands ++ [(n, cmd)] }) := by
  have henqueue : s.registry.enqueue id lease (.ok ()) cmd.operation = .ok e.resource := by
    unfold Serial.Registry.enqueue
    simp [h.entry, h.token, h.active, h.handle, WorkerManager.SessionLifecycle.admitIo, bind,
      Except.bind, Except.mapError, pure, Except.pure]
  unfold Serial.State.request
  rw [hn, if_neg (by simp)]
  simp only [h.actor, tryEnqueue_eq_ok.mpr ⟨h.running, h.room⟩, henqueue]

lemma request_refused (hn : s.requests.lookup n = none)
    (h : ∀ e a, ¬Admitted s id lease cmd e a) :
    ∃ x, s.request n id lease cmd =
      some { s with requests := s.requests.insert n (.returned (.error x)) } := by
  unfold Serial.State.request
  rw [hn, if_neg (by simp)]
  simp only
  split
  · -- an accepted command would have been admitted
    rename_i r a henqueue hactor
    obtain ⟨e, he, rfl, hhandle, hactive, htoken, hsent⟩ := Serial.Registry.enqueue_ok henqueue
    rw [hactor] at hsent
    obtain ⟨hrunning, hroom⟩ := tryEnqueue_eq_ok.mp hsent
    exact absurd ⟨he, hactive, hhandle, htoken, hactor, hrunning, hroom⟩ (h e a)
  · rename_i r henqueue hactor
    obtain ⟨-, -, -, -, -, -, hsent⟩ := Serial.Registry.enqueue_ok henqueue
    rw [hactor] at hsent
    cases hsent
  · exact ⟨_, rfl⟩

end Request

/-! ### Isolation -/

/-- The request is answered with an error, and the runtime neither makes a call for it nor
changes a session or a lease. `n` names the runtime call, if there is one. -/
def Isolated (limits : NegotiatedLimits) (g : Registries) (s : Serial.State) (n : ℕ)
    (r : SessionRequest) : Prop :=
  match dispatchOperation limits g r, r.op.command with
  | .error _, _ => True
  | .ok (.calls id lease), some cmd =>
    ∃ s' x, s.request n id lease cmd = some s'
      ∧ s'.requests.lookup n = some (.returned (.error x))
      ∧ s'.registry = s.registry ∧ s'.actors = s.actors
  | _, _ => False

/-- Serial I/O within the limits, with a token under which the runtime admits it. -/
def Reaches (limits : NegotiatedLimits) (s : Serial.State) (r : SessionRequest) : Prop :=
  ∃ cmd x e a, r.op.command = some cmd ∧ r.op.within limits = true
    ∧ parseSerialSessionLease r.sessionId r.lease = .ok x ∧ Admitted s x.1 x.2 cmd e a

namespace State

/-- **Isolation**: on whichever connection it is sent, a request for a session that another
connection opened is answered with an error and leaves no trace, unless it is serial I/O that
the runtime admits; that is let through. -/
theorem foreign_request_isolated (c : Serial.Config) (l : List Event) (s : State)
    (h : Runs c {} l s) (k k' : ℕ) (hk : k ≠ k') (id : SessionId)
    (hopened : s.openedBy.lookup id = some k') (g : Registries)
    (hg : s.connections.lookup k = some g) (limits : NegotiatedLimits) (r : SessionRequest)
    (hr : r.sessionId = id.value) (n : ℕ) (hn : s.serial.requests.lookup n = none) :
    Isolated limits g s.serial n r ↔ ¬Reaches limits s.serial r := by
  have hforeign : ¬g.Owns ⟨r.sessionId⟩ := by
    intro howns
    rw [hr] at howns
    have := run_owned h k g hg id howns
    rw [hopened] at this
    exact hk (Option.some.inj this).symm
  unfold Isolated
  cases hcmd : r.op.command with
  | none =>
    -- everything but serial I/O is refused without the registries of the connection
    have hnone : ¬Reaches limits s.serial r := by
      rintro ⟨cmd, x, e, a, hc, -⟩
      rw [hcmd] at hc
      cases hc
    cases hd : dispatchOperation limits g r with
    | error x => simp [hnone]
    | ok out => exact absurd (owns_of_dispatch hd hcmd) hforeign
  | some cmd =>
    cases hd : dispatchOperation limits g r with
    | error x =>
      have hnone : ¬Reaches limits s.serial r := by
        rintro ⟨cmd', x', e, a, hc, hin, hp, -⟩
        have hok : dispatchOperation limits g r = .ok (.calls x'.1 x'.2) :=
          (dispatch_serial hc).mpr ⟨hin, x', hp, rfl⟩
        rw [hd] at hok
        cases hok
      simp [hnone]
    | ok out =>
      obtain ⟨hin, x, hp, rfl⟩ := (dispatch_serial hcmd).mp hd
      constructor
      · rintro ⟨s', y, hs', hret, -⟩ ⟨cmd', x', e, a, hc, -, hp', hadmitted⟩
        rw [hcmd] at hc
        cases hc
        rw [hp] at hp'
        obtain rfl := Except.ok.inj hp'
        rw [request_admitted hn hadmitted] at hs'
        obtain rfl := Option.some.inj hs'
        simp [Serial.State.setActor] at hret
      · intro hno
        have hrefused : ∀ e a, ¬Admitted s.serial x.1 x.2 cmd e a := by
          intro e a hadmitted
          exact hno ⟨cmd, x, e, a, hcmd, hin, hp, hadmitted⟩
        obtain ⟨y, hy⟩ := request_refused hn hrefused
        exact ⟨_, y, hy, by simp, rfl, rfl⟩

/-- Connection one opens a serial session; connection zero is there as well. -/
def openedRun : List Event :=
  [.connect 0, .connect 1, .serial (.openCall ⟨"s"⟩ ⟨"o"⟩ ⟨"r"⟩),
    .serial (.reserve ⟨"s"⟩ ⟨"l"⟩), .serial (.adapterReturned ⟨"s"⟩ (.ok ())),
    .serial (.finishOpen ⟨"s"⟩), .opened 1 ⟨"s"⟩ .serial]

/-- The session of that run under its own token. -/
def exactRequest (op : SessionOp) : SessionRequest where
  sessionId := "s"
  lease := some (LeaseToken.toProto ⟨⟨"l"⟩, 1, .control⟩)
  op

theorem foreign_request_isolated_close :
    ∃ s g, Runs ⟨true, "5s"⟩ {} openedRun s ∧ s.openedBy.lookup ⟨"s"⟩ = some 1
      ∧ s.connections.lookup 0 = some g
      ∧ Isolated ⟨3, 512, 16, 16⟩ g s.serial 7 (exactRequest .closeSession) := by
  have hexec : ∃ s ∈ Machine.exec (step ⟨true, "5s"⟩) (fun _ _ => True) {} openedRun,
      s.openedBy.lookup ⟨"s"⟩ = some 1 ∧ s.serial.requests.lookup 7 = none
        ∧ (s.connections.lookup 0).isSome := by decide +kernel
  obtain ⟨s, hs, hopened, hn, hsome⟩ := hexec
  obtain ⟨g, hg⟩ := Option.isSome_iff_exists.mp hsome
  have hrun := Machine.runs_of_exec hs
  refine ⟨s, g, hrun, hopened, hg, ?_⟩
  refine (foreign_request_isolated _ _ s hrun 0 1 (by decide) ⟨"s"⟩ hopened g hg ⟨3, 512, 16, 16⟩
    (exactRequest .closeSession) rfl 7 hn).mpr ?_
  rintro ⟨cmd, x, e, a, hc, -⟩
  cases hc

theorem foreign_flush_not_isolated :
    ∃ s g, Runs ⟨true, "5s"⟩ {} openedRun s ∧ s.openedBy.lookup ⟨"s"⟩ = some 1
      ∧ s.connections.lookup 0 = some g
      ∧ ¬Isolated ⟨3, 512, 16, 16⟩ g s.serial 7 (exactRequest .serialFlush) := by
  have hexec : ∃ s ∈ Machine.exec (step ⟨true, "5s"⟩) (fun _ _ => True) {} openedRun,
      s.openedBy.lookup ⟨"s"⟩ = some 1 ∧ ∃ g ∈ s.connections.lookup 0,
        Outcome.calls ⟨"s"⟩ ⟨⟨"l"⟩, 1, .control⟩
          ∈ (dispatchOperation ⟨3, 512, 16, 16⟩ g (exactRequest .serialFlush)).toOption
        ∧ ∃ s' ∈ s.serial.request 7 ⟨"s"⟩ ⟨⟨"l"⟩, 1, .control⟩ .flush,
          s'.requests.lookup 7 = some (.waiting ⟨"r"⟩) := by decide +kernel
  obtain ⟨s, hs, hopened, g, hg, hdispatch, s', hs', hwaiting⟩ := hexec
  refine ⟨s, g, Machine.runs_of_exec hs, hopened, hg, ?_⟩
  unfold Isolated
  rw [ok_of_toOption hdispatch]
  rintro ⟨s'', x, hs'', hret, -⟩
  have heq : s' = s'' := Option.mem_unique hs' hs''
  rw [← heq, hwaiting] at hret
  cases hret

end State

end RobotHal.Broker
