import RobotHal.ClientCorrelation

/-!
What an error from the broker does to the connection.

The error of a request and the client's own complaint about a response are the same kind of value
when the reader decides whether to end the connection; it looks at the name only.
-/

namespace RobotHal.Client.State

variable {β : Type} {capacity id : ℕ} {decode : ExpectedResponse → β → HalResult Unit}
  {s t : State β}
variable {x : ExpectedResponse} {m : V1.Error} {error : HalError}

/-- The reader's way from an envelope to the next one, or to the end. -/
def process (capacity : ℕ) (decode : ExpectedResponse → β → HalResult Unit) (s : State β) (id : ℕ)
    (payload : Option (Payload β)) : State β :=
  let s := (s.step capacity decode (.inbound id payload)).getD s
  let s := (s.step capacity decode .reply).getD s
  (s.step capacity decode .readerFail).getD s

/-- Names that end the connection when they reach the reader as a result. -/
def Fatal (error : HalError) : Prop :=
  error.name = "runtime.protocol.unexpected_response" ∨
    error.name = "runtime.protocol.invalid_message"

instance (error : HalError) : Decidable (Fatal error) := inferInstanceAs (Decidable (_ ∨ _))

/-- Only the request with the id is done, with `error`; the connection goes on. -/
structure Isolated (s t : State β) (id : ℕ) (error : HalError) : Prop where
  terminal : t.requests.terminal = none
  reader : t.reader = .reading
  pending : ∀ j, t.requests.pending.lookup j =
    if j = id then none else s.requests.pending.lookup j
  cancelled : ∀ j, t.requests.cancelled.lookup j =
    if j = id then none else s.requests.cancelled.lookup j
  futures : ∀ j, j ≠ id → t.futures.lookup j = s.futures.lookup j
  answered : ∀ x, s.requests.pending.lookup id = some x →
    ∃ f, t.futures.lookup id = some f ∧ f.slot = some (.error (attachExpected error x))

lemma name_attachExpected (error : HalError) (x : ExpectedResponse) :
    (attachExpected error x).name = error.name := by
  unfold attachExpected attachResource
  split
  · rfl
  · split <;> rfl

lemma ends_error (error : HalError) (x : ExpectedResponse) :
    ends (β := β) (.error (attachExpected error x)) =
      if Fatal error then some (attachExpected error x) else none := by
  simp only [ends, name_attachExpected, Fatal]
  rfl

lemma step_inbound (hr : s.reader = .reading) (ht : s.requests.terminal = none) (hid : id ≠ 0)
    (payload : Option (Payload β)) :
    s.step capacity decode (.inbound id payload) = some
      ({ s with received := s.received ++ [(id, payload)] }.correlate
        capacity decode id payload) := by
  simp only [step, hr, ht, Option.isSome_none, Bool.false_eq_true, if_false, if_neg hid]

lemma isolated_pending (hr : s.reader = .reading) (ht : s.requests.terminal = none) (hid : id ≠ 0)
    (hp : s.requests.pending.lookup id = some x) (hc : s.requests.cancelled.lookup id = none)
    (hf : ∃ f, s.futures.lookup id = some f) (he : errorFromProto m = .ok error) :
    Isolated s (s.process capacity decode id (some (.error m))) id error ↔ ¬Fatal error := by
  have hresult : result decode x (some (.error m)) = .error (attachExpected error x) := by
    simp only [result, he]
  obtain ⟨f, hf⟩ := hf
  unfold process
  rw [step_inbound hr ht hid, Option.getD_some]
  simp only [correlate, hp]
  -- the reader replies and then looks at the name
  simp only [step, hresult, ends_error, Option.getD_some]
  by_cases hfatal : Fatal error
  · simp only [hfatal, if_true, not_true_eq_false, iff_false, Option.getD_some]
    intro hiso
    have hterm := hiso.terminal
    simp [terminate, RequestState.beginTermination, RequestState.rememberCompleted,
      RequestState.removePending, send, ht] at hterm
  · simp only [hfatal, if_false, not_false_eq_true, iff_true, Option.getD_none]
    refine ⟨ht, rfl, fun j => ?_, fun j => ?_, fun j hj => ?_, fun y hy => ?_⟩
    · exact Assoc.lookup_erase_ite _ _ _
    · exact Assoc.lookup_absent hc j
    · simp only [send, Assoc.lookup_modify, if_neg hj]
    · obtain rfl := Option.mem_unique hp hy
      refine ⟨{ f with slot := some (.error (attachExpected error x)) }, ?_, rfl⟩
      simp only [send, Assoc.lookup_modify, if_true, hf, Option.map_some]

lemma isolated_cancelled (hr : s.reader = .reading) (ht : s.requests.terminal = none) (hid : id ≠ 0)
    (hp : s.requests.pending.lookup id = none) (hc : s.requests.cancelled.lookup id = some x)
    (he : errorFromProto m = .ok error) :
    Isolated s (s.process capacity decode id (some (.error m))) id error := by
  unfold process
  rw [step_inbound hr ht hid, Option.getD_some]
  simp only [correlate, hp, hc, validateCancelled, he]
  simp only [step, Option.getD_none]
  refine ⟨ht, rfl, fun j => ?_, fun j => ?_, fun j _ => rfl, fun y hy => ?_⟩
  · exact Assoc.lookup_absent hp j
  · exact Assoc.lookup_erase_ite _ _ _
  · rw [hp] at hy
    cases hy

/-- An error from the broker that is well formed touches its own request only, exactly if that
request was cancelled or the error does not bear one of the names the client gives to a broken
connection. -/
theorem error_response_isolated (options : ConnectionOptions)
    (decode : ExpectedResponse → β → HalResult Unit) (l : List (Event β)) (s : State β)
    (h : Runs options.pendingCapacity decode {} l s) (hr : s.reader = .reading)
    (ht : s.requests.terminal = none) (id : ℕ)
    (hid : (s.requests.pending.lookup id).isSome ∨ (s.requests.cancelled.lookup id).isSome)
    (m : V1.Error) (error : HalError) (he : errorFromProto m = .ok error) :
    Isolated s (s.process options.pendingCapacity decode id (some (.error m))) id error ↔
      (s.requests.cancelled.lookup id).isSome ∨
        error.name ≠ "runtime.protocol.unexpected_response" ∧
        error.name ≠ "runtime.protocol.invalid_message" := by
  obtain ⟨htable, hl⟩ := run_good options.pos h
  have hne : ∀ j ∈ s.issued, j ≠ 0 := fun j hj => by
    have := htable.ids j hj
    omega
  cases hp : s.requests.pending.lookup id with
  | some x =>
    have hc := htable.pending_cancelled id x hp
    obtain ⟨f, hf, -⟩ := hl.pending id x hp
    rw [isolated_pending hr ht (hne id (htable.pending_issued id x hp)) hp hc ⟨f, hf⟩ he, hc]
    simp [Fatal]
  | none =>
    obtain ⟨x, hc⟩ := Option.isSome_iff_exists.mp (hid.resolve_left (by simp [hp]))
    rw [hc]
    exact iff_of_true
      (isolated_cancelled hr ht (hne id (htable.cancelled_issued id x hc)) hp hc he) (.inl rfl)

/-! ### Two requests, and an error for the first -/

def twoPending : List (Event Unit) :=
  [.request .enumerateSerial, .queued 2, .request .enumerateCan, .queued 3]

def refused (name operation : String) : V1.Error where
  name
  category := 1
  operation
  retryable := false
  debugMessage := "refused"
  resourceId := ""
  platformCode := ""
  vendorCode := ""
  context := ∅

theorem error_response_isolated_refused : ∃ s : State Unit, ∃ error : HalError,
    (s.requests.pending.lookup 3).isSome ∧ error.name = "serial.enumerate_failed" ∧
    Isolated s (s.process 32 (fun _ _ => .ok ()) 2
      (some (.error (refused "serial.enumerate_failed" "serial.enumerate")))) 2 error := by
  have hexec : ∃ s ∈ Machine.exec (step 32 fun _ _ => .ok ()) (fun _ _ => True) {} twoPending,
      (s.requests.pending.lookup 2).isSome ∧ (s.requests.pending.lookup 3).isSome ∧
      s.requests.terminal = none ∧ s.reader.isReading = true := by
    decide +kernel
  have herror : ∃ error ∈ (errorFromProto
      (refused "serial.enumerate_failed" "serial.enumerate")).toOption,
      error.name = "serial.enumerate_failed" := by
    decide +kernel
  obtain ⟨s, hs, h2, h3, ht, hr⟩ := hexec
  obtain ⟨error, he, hname⟩ := herror
  refine ⟨s, error, h3, hname, (error_response_isolated {} (fun _ _ => .ok ()) twoPending s
    (Machine.runs_of_exec hs) (Reader.isReading_iff.mp hr) ht 2 (.inl h2) _ error
    (ok_of_toOption he)).mpr (.inr ?_)⟩
  rw [hname]
  decide

/-- The broker's complaint about a message of the first request ends the connection, and with it
the second request. -/
theorem refused_message_ends_connection :
    ∃ s ∈ Machine.exec (step 32 fun _ _ => .ok ()) (fun _ _ => True) {} twoPending,
    ∃ error ∈ (errorFromProto (refused "runtime.protocol.invalid_message"
      "runtime.protocol.decode")).toOption,
      s.requests.terminal = none ∧ (s.requests.pending.lookup 2).isSome ∧
      (s.requests.pending.lookup 3).isSome ∧
      (s.process 32 (fun _ _ => .ok ()) 2 (some (.error (refused "runtime.protocol.invalid_message"
        "runtime.protocol.decode")))).requests.terminal = some error ∧
      (s.process 32 (fun _ _ => .ok ()) 2 (some (.error (refused "runtime.protocol.invalid_message"
        "runtime.protocol.decode")))).requests.pending.lookup 3 = none := by
  decide +kernel

end RobotHal.Client.State
