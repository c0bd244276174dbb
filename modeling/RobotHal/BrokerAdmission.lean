import RobotHal.BrokerConnection

/-!
# Admission and correlation on a connection

A request that was read is held by exactly one of the reader, the queue, the dispatcher and the
operations, until one response with its id is handed to the writer. What a step can do to the
requests is said once (`Moves`); that no request is lost or answered twice, and that the active ids
are those of the requests in flight, follows from it.
-/

namespace RobotHal.Broker.Connection

variable {π ρ : Type}

/-! ### Where requests are -/

def Reader.held : Reader π → List (InboundRequest π)
  | .admitting request | .releasing request | .refusing request => [request]
  | _ => []

/-- The id of the request is active. -/
def Reader.admitted : Reader π → List (InboundRequest π)
  | .admitting request | .releasing request => [request]
  | _ => []

lemma Reader.held_afterQueueing (r : InboundRequest π) : (Reader.afterQueueing r).held = [] := by
  unfold afterQueueing
  split <;> rfl

lemma Reader.admitted_afterQueueing (r : InboundRequest π) :
    (Reader.afterQueueing r).admitted = [] := by
  unfold afterQueueing
  split <;> rfl

def Dispatcher.held : Dispatcher π ρ → List (InboundRequest π)
  | .removing request .. | .answering request .. => [request]
  | _ => []

def Dispatcher.admitted : Dispatcher π ρ → List (InboundRequest π)
  | .removing request .. => [request]
  | _ => []

namespace State

variable {config : BrokerConfig} {token : StartupToken} {s t : State π ρ} {e : Event π ρ}

/-- The requests read that have no response yet. -/
def held (s : State π ρ) : List (InboundRequest π) :=
  s.reader.held ++ s.queue ++ s.dispatcher.held ++ s.tasks.map Task.request

/-- The requests that are queued, on their way into the queue or out of it, or executing. -/
def admitted (s : State π ρ) : List (InboundRequest π) :=
  s.reader.admitted ++ s.queue ++ s.dispatcher.admitted ++ s.tasks.map Task.request

/-- The responses handed to the writer. -/
def sent (s : State π ρ) : List (Response ρ) := s.written ++ s.responses

/-- The connection has not failed, and neither did its peer close it nor was it cancelled. -/
structure Serving (s : State π ρ) : Prop where
  writer : s.writerOpen = true
  reader : ∀ error, s.reader ≠ .stopped (some error)
  dispatcher : ∀ error, s.dispatcher ≠ .ended (.failed error)
  closed : s.dispatcher ≠ .ended .closed

lemma admitted_sublist (s : State π ρ) : s.admitted.Sublist s.held := by
  have hreader : s.reader.admitted.Sublist s.reader.held := by
    cases s.reader <;> simp [Reader.admitted, Reader.held]
  have hdispatcher : s.dispatcher.admitted.Sublist s.dispatcher.held := by
    cases s.dispatcher <;> simp [Dispatcher.admitted, Dispatcher.held]
  exact ((hreader.append_right _).append hdispatcher).append_right _

/-! ### Steps -/

section Takes

variable (config token)

/-- The steps, each with what it needs and what comes of it. -/
inductive Takes (s : State π ρ) : Event π ρ → State π ρ → Prop
  | frameFails (frame : Frame π) (read : List ℕ) (error : HalError) (h : s.reader = .reading) :
      Takes s (.frame frame) { s with read, reader := .stopped (some error) }
  | zero (frame : Frame π) (body : ResponseBody ρ) (limit : ℕ) (h : s.reader = .reading) :
      Takes s (.frame frame)
        { s with responses := s.responses ++ [⟨0, body, limit, none⟩], reader := .reading }
  | duplicate (frame : Frame π) (x : Response ρ) (h : s.reader = .reading)
      (hactive : frame.requestId ∈ s.active) :
      Takes s (.frame frame)
        { s with
          read := s.read ++ [frame.requestId]
          responses := s.responses ++ [x]
          reader := .stopped none }
  | taken (frame : Frame π) (h : s.reader = .reading) :
      Takes s (.frame frame)
        { s with
          read := s.read ++ [frame.requestId]
          active := insert frame.requestId s.active
          reader := .admitting { frame with ticket := s.read.length } }
  | undecodable (error : HalError) (h : s.reader = .reading) :
      Takes s (.undecodable error) { s with reader := .stopped (some error) }
  | endOfStream (h : s.reader = .reading) : Takes s .endOfStream { s with reader := .stopped none }
  | readerCancelled (h : s.reader = .reading ∨ s.reader = .waiting) :
      Takes s .readerCancelled { s with reader := .stopped none }
  | gone (r : InboundRequest π) (ending : Ending) (h : s.reader = .admitting r)
      (hended : s.dispatcher = .ended ending) : Takes s .trySend { s with reader := .stopped none }
  | enqueue (r : InboundRequest π) (h : s.reader = .admitting r) :
      Takes s .trySend { s with queue := s.queue ++ [r], reader := .afterQueueing r }
  | full (r : InboundRequest π) (h : s.reader = .admitting r) :
      Takes s .trySend { s with reader := .releasing r }
  | release (r : InboundRequest π) (h : s.reader = .releasing r) :
      Takes s .release { s with active := s.active.erase r.requestId, reader := .refusing r }
  | refuse (r : InboundRequest π) (body : ResponseBody ρ) (limit : ℕ) (h : s.reader = .refusing r) :
      Takes s .refuse
        { s with responses := s.responses ++ [r.response body limit], reader := .reading }
  | refuseFails (r : InboundRequest π) (error : HalError) (h : s.reader = .refusing r) :
      Takes s .refuse { s with reader := .stopped (some error) }
  | resume (h : s.reader = .waiting) (hlimit : s.frameLimit.isSome) :
      Takes s .resume { s with reader := .reading }
  | recv (r : InboundRequest π) (queue : List (InboundRequest π)) (h : s.dispatcher = .selecting)
      (hqueue : s.queue = r :: queue) :
      Takes s .recv ({ s with queue }.dispatch config token r)
  | remove (r : InboundRequest π) (body : ResponseBody ρ) (limit : ℕ) (last : Bool)
      (h : s.dispatcher = .removing r body limit last) :
      Takes s .remove
        { s with
          active := s.active.erase r.requestId
          dispatcher := .answering r body limit last }
  | answer (r : InboundRequest π) (body : ResponseBody ρ) (limit : ℕ) (last : Bool)
      (h : s.dispatcher = .answering r body limit last) :
      Takes s .answer
        { s with
          responses := s.responses ++ [r.response body limit]
          dispatcher := if last then .ended .refused else .selecting }
  | answerFails (r : InboundRequest π) (body : ResponseBody ρ) (limit : ℕ) (last : Bool)
      (error : HalError) (h : s.dispatcher = .answering r body limit last) :
      Takes s .answer { s with dispatcher := .ended (.failed error) }
  | complete (i : ℕ) (r : InboundRequest π) (result : ρ) (h : s.tasks[i]? = some ⟨r, none⟩) :
      Takes s (.complete i result) { s with tasks := s.tasks.set i ⟨r, some result⟩ }
  | panicked (i : ℕ) (message : String) :
      Takes s (.panicked i message) { s with dispatcher := .ended (.failed (taskFailed message)) }
  | join (i : ℕ) (r : InboundRequest π) (result : ρ) (h : s.dispatcher = .selecting)
      (htask : s.tasks[i]? = some ⟨r, some result⟩) :
      Takes s (.join i)
        { s with
          tasks := s.tasks.eraseIdx i
          dispatcher := .removing r (.payload result) s.negotiatedFrameLimit false }
  | notice (body : ResponseBody ρ) (limit : ℕ) (h : s.dispatcher = .selecting) :
      Takes s (.runtimeEvent (some body))
        { s with responses := s.responses ++ [⟨0, body, limit, none⟩], dispatcher := .selecting }
  | noticeFails (body : ResponseBody ρ) (error : HalError) :
      Takes s (.runtimeEvent (some body)) { s with dispatcher := .ended (.failed error) }
  | unseen : Takes s (.runtimeEvent none) s
  | cancelled : Takes s .cancelled { s with dispatcher := .ended .closed }
  | drained : Takes s .drained { s with dispatcher := .ended .closed }
  | write (x : Response ρ) (responses : List (Response ρ)) (h : s.responses = x :: responses) :
      Takes s .write { s with responses, written := s.written ++ [x] }
  | writerFails : Takes s .writerFails { s with writerOpen := false, cancel := true }
  | shutdown : Takes s .shutdown { s with cancel := true }

end Takes

lemma sendResponse_eq_ok {x : Response ρ} (h : s.sendResponse config x = .ok t) :
    t = { s with responses := s.responses ++ [x] } := by
  unfold sendResponse at h
  split at h
  · cases h
  split at h
  · exact (Except.ok.inj h).symm
  · cases h

lemma readerSends_cases (config : BrokerConfig) (s : State π ρ) (x : Response ρ)
    (next : Reader π) :
    s.readerSends config x next = { s with responses := s.responses ++ [x], reader := next }
      ∨ ∃ error, s.readerSends config x next = { s with reader := .stopped (some error) } := by
  unfold readerSends
  split
  · next h =>
    obtain rfl := sendResponse_eq_ok h
    exact .inl rfl
  · exact .inr ⟨_, rfl⟩

lemma dispatcherSends_cases (config : BrokerConfig) (s : State π ρ) (x : Response ρ)
    (next : Dispatcher π ρ) :
    s.dispatcherSends config x next =
        { s with responses := s.responses ++ [x], dispatcher := next }
      ∨ ∃ error, s.dispatcherSends config x next =
        { s with dispatcher := .ended (.failed error) } := by
  unfold dispatcherSends
  split
  · next h =>
    obtain rfl := sendResponse_eq_ok h
    exact .inl rfl
  · exact .inr ⟨_, rfl⟩

lemma takes_readFrame (frame : Frame π) (h : s.reader = .reading) :
    Takes config token s (.frame frame) (s.readFrame config frame) := by
  unfold readFrame
  split
  · exact .frameFails frame s.read _ h
  split
  · rcases readerSends_cases config s _ .reading with hsent | ⟨error, hfailed⟩
    · rw [hsent]
      exact .zero frame _ _ h
    · rw [hfailed]
      exact .frameFails frame s.read error h
  dsimp only
  split
  · rename_i hactive
    rcases readerSends_cases config { s with read := s.read ++ [frame.requestId] } _
      (.stopped none) with hsent | ⟨error, hfailed⟩
    · rw [hsent]
      exact .duplicate frame _ h hactive
    · rw [hfailed]
      exact .frameFails frame _ error h
  · exact .taken frame h

lemma takes_of_step (h : step config token s e = some t) : Takes config token s e t := by
  cases e with
  | frame frame =>
    simp only [step] at h
    split at h <;> cases h
    exact takes_readFrame frame ‹_›
  | readerCancelled =>
    simp only [step] at h
    split at h
    · split at h <;> cases h
      exact .readerCancelled (.inl ‹_›)
    · cases h
      exact .readerCancelled (.inr ‹_›)
    · split at h <;> cases h
      exact .readerCancelled (.inr ‹_›)
    · cases h
  | trySend =>
    simp only [step] at h
    split at h <;> cases h
    rename_i r hreader
    unfold trySend
    split
    · exact .gone r _ hreader ‹_›
    split
    · exact .enqueue r hreader
    · exact .full r hreader
  | refuse =>
    simp only [step] at h
    split at h <;> cases h
    rename_i r hreader
    rcases readerSends_cases config s _ .reading with hsent | ⟨error, hfailed⟩
    · rw [hsent]
      exact .refuse r _ _ hreader
    · rw [hfailed]
      exact .refuseFails r error hreader
  | resume =>
    simp only [step] at h
    split at h
    · split at h <;> cases h
      exact .resume ‹_› ‹_›
    · cases h
  | cancelled =>
    simp only [step] at h
    split at h
    · split at h <;> cases h
      exact .cancelled
    · cases h
  | recv =>
    simp only [step] at h
    split at h <;> cases h
    exact .recv _ _ ‹_› ‹_›
  | answer =>
    simp only [step] at h
    split at h <;> cases h
    rename_i r body limit last hdispatcher
    rcases dispatcherSends_cases config s (r.response body limit)
      (if last then .ended .refused else .selecting) with hsent | ⟨error, hfailed⟩
    · rw [hsent]
      exact .answer r body limit last hdispatcher
    · rw [hfailed]
      exact .answerFails r body limit last error hdispatcher
  | join i =>
    simp only [step] at h
    split at h <;> cases h
    exact .join i _ _ ‹_› ‹_›
  | runtimeEvent body =>
    simp only [step] at h
    split at h <;> cases h
    · rename_i body hdispatcher hlimits
      rcases dispatcherSends_cases config s ⟨0, body, s.negotiatedFrameLimit, none⟩ .selecting with
        hsent | ⟨error, hfailed⟩
      · rw [hsent]
        exact .notice body _ hdispatcher
      · rw [hfailed]
        exact .noticeFails body error
    · exact .unseen
  | panicked i message =>
    simp only [step] at h
    split at h <;> cases h
    exact .panicked i message
  | drained =>
    simp only [step] at h
    split at h <;> cases h
    exact .drained
  | writerFails =>
    cases h
    exact .writerFails
  | shutdown =>
    cases h
    exact .shutdown
  | _ =>
    simp only [step] at h
    split at h <;> cases h
    constructor; assumption

/-! ### What a step does -/

/-- What a step does to the requests. -/
inductive Moves (s t : State π ρ) : Prop
  | arrive (r : InboundRequest π) (hticket : r.ticket = s.read.length)
      (hfresh : r.requestId ∉ s.held.map fun r => r.requestId)
      (hread : t.read = s.read ++ [r.requestId]) (hheld : t.held.Perm (r :: s.held))
      (hadmitted : t.admitted.Perm (r :: s.admitted))
      (hactive : t.active = insert r.requestId s.active)
      (hsent : t.sent = s.sent)
  | shift (hread : t.read = s.read) (hheld : t.held.Perm s.held)
      (hadmitted : t.admitted.Perm s.admitted) (hactive : t.active = s.active)
      (hsent : t.sent = s.sent)
  | release (r : InboundRequest π) (hread : t.read = s.read) (hheld : t.held.Perm s.held)
      (hadmitted : s.admitted.Perm (r :: t.admitted))
      (hactive : t.active = s.active.erase r.requestId) (hsent : t.sent = s.sent)
  | answer (r : InboundRequest π) (body : ResponseBody ρ) (limit : ℕ) (hread : t.read = s.read)
      (hheld : s.held.Perm (r :: t.held)) (hadmitted : t.admitted.Perm s.admitted)
      (hactive : t.active = s.active) (hsent : t.sent = s.sent ++ [r.response body limit])
  | notice (x : Response ρ) (hx : x.ticket = none ∧ x.requestId = 0) (hread : t.read = s.read)
      (hheld : t.held.Perm s.held) (hadmitted : t.admitted.Perm s.admitted)
      (hactive : t.active = s.active) (hsent : t.sent = s.sent ++ [x])

lemma Serving.of_reader (h : t.Serving) (hwriter : t.writerOpen = s.writerOpen)
    (hdispatcher : t.dispatcher = s.dispatcher)
    (hreader : ∀ error, s.reader ≠ .stopped (some error)) :
    s.Serving :=
  ⟨hwriter ▸ h.writer, hreader, hdispatcher ▸ h.dispatcher, hdispatcher ▸ h.closed⟩

lemma Serving.of_dispatcher (h : t.Serving) (hwriter : t.writerOpen = s.writerOpen)
    (hreader : t.reader = s.reader) (hdispatcher : ∀ ending, s.dispatcher ≠ .ended ending) :
    s.Serving :=
  ⟨hwriter ▸ h.writer, hreader ▸ h.reader, fun _ => hdispatcher _, hdispatcher _⟩

lemma dispatch_fields (config : BrokerConfig) (token : StartupToken) (s : State π ρ)
    (r : InboundRequest π) :
    (s.dispatch config token r).writerOpen = s.writerOpen
      ∧ (s.dispatch config token r).reader = s.reader := by
  unfold dispatch
  split <;> exact ⟨rfl, rfl⟩

lemma Moves.still (hread : t.read = s.read) (hreader : t.reader.held = s.reader.held)
    (hreader' : t.reader.admitted = s.reader.admitted) (hqueue : t.queue = s.queue)
    (hdispatcher : t.dispatcher.held = s.dispatcher.held)
    (hdispatcher' : t.dispatcher.admitted = s.dispatcher.admitted)
    (htasks : t.tasks.map Task.request = s.tasks.map Task.request) (hactive : t.active = s.active)
    (hsent : t.sent = s.sent) : Moves s t := by
  refine .shift hread ?_ ?_ hactive hsent
  · rw [held, held, hreader, hqueue, hdispatcher, htasks]
  · rw [admitted, admitted, hreader', hqueue, hdispatcher', htasks]

lemma moves_dispatch {r : InboundRequest π} {queue : List (InboundRequest π)}
    (hqueue : s.queue = r :: queue) (hdispatcher : s.dispatcher = .selecting)
    (h : ({ s with queue }.dispatch config token r).Serving) :
    Moves s ({ s with queue }.dispatch config token r) := by
  -- the request goes from the queue to the dispatcher, or to the operations
  have hmove (l m : List (InboundRequest π)) :
      (l ++ queue ++ [r] ++ m).Perm (l ++ s.queue ++ [] ++ m) := by
    rw [hqueue, List.append_nil, List.append_assoc l]
    exact ((List.perm_append_singleton r queue).append_left l).append_right m
  unfold dispatch at h ⊢
  split at h
  · exact absurd rfl (h.dispatcher _)
  iterate 2
    · -- the dispatcher answers it itself
      refine .shift rfl ?_ ?_ rfl rfl
      · simp only [held, hdispatcher, Dispatcher.held]
        exact hmove _ _
      · simp only [admitted, hdispatcher, Dispatcher.admitted]
        exact hmove _ _
  · have htasks (l : List (InboundRequest π)) : (l ++ queue ++ [] ++
        (s.tasks ++ [(⟨r, none⟩ : Task π ρ)]).map Task.request).Perm
        (l ++ s.queue ++ [] ++ s.tasks.map Task.request) := by
      refine List.Perm.trans ?_ (hmove l _)
      rw [List.map_append, List.append_nil, List.append_assoc (l ++ queue) [r]]
      exact (List.perm_append_singleton r _).append_left _
    refine .shift rfl ?_ ?_ rfl rfl
    · simp only [held, hdispatcher, Dispatcher.held]
      exact htasks _
    · simp only [admitted, hdispatcher, Dispatcher.admitted]
      exact htasks _

lemma moves_join {i : ℕ} {r : InboundRequest π} {result : Option ρ} {body : ResponseBody ρ}
    {limit : ℕ} {last : Bool} (hdispatcher : s.dispatcher = .selecting)
    (htask : s.tasks[i]? = some ⟨r, result⟩) :
    Moves s { s with
      tasks := s.tasks.eraseIdx i
      dispatcher := .removing r body limit last } := by
  obtain ⟨hi, hget⟩ := List.getElem?_eq_some_iff.mp htask
  have hperm : (r :: (s.tasks.eraseIdx i).map Task.request).Perm (s.tasks.map Task.request) := by
    have := (List.getElem_cons_eraseIdx_perm hi).map Task.request
    rwa [hget] at this
  refine .shift rfl ?_ ?_ rfl rfl
  · simp only [held, hdispatcher, Dispatcher.held, List.append_nil, List.append_assoc]
    exact (hperm.append_left _).append_left _
  · simp only [admitted, hdispatcher, Dispatcher.admitted, List.append_nil, List.append_assoc]
    exact (hperm.append_left _).append_left _

lemma map_set_result {i : ℕ} {r : InboundRequest π} {old new : Option ρ} {tasks : List (Task π ρ)}
    (h : tasks[i]? = some ⟨r, old⟩) :
    (tasks.set i ⟨r, new⟩).map Task.request = tasks.map Task.request := by
  apply List.ext_getElem?
  intro j
  rw [List.getElem?_map, List.getElem?_map, List.getElem?_set]
  split
  · rename_i hij
    subst hij
    obtain ⟨hi, -⟩ := List.getElem?_eq_some_iff.mp h
    rw [if_pos hi, h]
    rfl
  · rfl

/-- A connection that still serves has served all along. -/
lemma serving_of_step (hs : step config token s e = some t) (ht : t.Serving) : s.Serving := by
  cases takes_of_step hs with
  | frameFails | undecodable | refuseFails => exact absurd rfl (ht.reader _)
  | readerCancelled hreader =>
    refine ht.of_reader rfl rfl ?_
    rcases hreader with hreader | hreader <;> simp [hreader]
  | zero _ _ _ hreader | duplicate _ _ hreader | taken _ hreader | gone _ _ hreader
  | enqueue _ hreader | full _ hreader | refuse _ _ _ hreader | endOfStream hreader
  | release _ hreader | resume hreader => exact ht.of_reader rfl rfl (by simp [hreader])
  | recv r queue hdispatcher =>
    obtain ⟨hwriter, hreader⟩ := dispatch_fields config token { s with queue } r
    exact ht.of_dispatcher hwriter hreader (by simp [hdispatcher])
  | remove _ _ _ _ hdispatcher | join _ _ _ hdispatcher | answer _ _ _ _ hdispatcher
  | notice _ _ hdispatcher => exact ht.of_dispatcher rfl rfl (by simp [hdispatcher])
  | panicked | answerFails | noticeFails => exact absurd rfl (ht.dispatcher _)
  | cancelled | drained => exact absurd rfl ht.closed
  | writerFails => cases ht.writer
  | unseen => exact ht
  | complete | write | shutdown => exact ⟨ht.writer, ht.reader, ht.dispatcher, ht.closed⟩

lemma step_moves (hs : step config token s e = some t) (ht : t.Serving)
    (hfresh : ∀ frame, e = .frame frame →
      frame.requestId ∉ (s.held.map fun r => r.requestId) ∧ frame.requestId ∉ s.active)
    (hended : ∀ ending, s.dispatcher = .ended ending → s.reader.held = []) : Moves s t := by
  cases takes_of_step hs with
  | frameFails | undecodable | refuseFails => exact absurd rfl (ht.reader _)
  | zero frame body limit hreader =>
    refine .notice _ ⟨rfl, rfl⟩ rfl ?_ ?_ rfl (List.append_assoc _ _ _).symm
    · simp [held, hreader]
    · simp [admitted, hreader]
  | duplicate frame x hreader hactive => exact absurd hactive (hfresh frame rfl).2
  | taken frame hreader =>
    exact .arrive { frame with ticket := s.read.length } rfl (hfresh frame rfl).1 rfl
      (by simp [held, hreader, Reader.held]) (by simp [admitted, hreader, Reader.admitted]) rfl rfl
  | endOfStream hreader | resume hreader | full _ hreader =>
    exact .still rfl (by rw [hreader]; rfl) (by rw [hreader]; rfl) rfl rfl rfl rfl rfl rfl
  | readerCancelled hreader =>
    rcases hreader with hreader | hreader <;>
      exact .still rfl (by rw [hreader]; rfl) (by rw [hreader]; rfl) rfl rfl rfl rfl rfl rfl
  | gone r ending hreader heq =>
    have hheld := hended ending heq
    rw [hreader] at hheld
    cases hheld
  | enqueue r hreader =>
    refine .shift rfl ?_ ?_ rfl rfl
    · simp only [held, Reader.held_afterQueueing, hreader]
      exact ((List.perm_append_singleton r s.queue).append_right _).append_right _
    · simp only [admitted, Reader.admitted_afterQueueing, hreader]
      exact ((List.perm_append_singleton r s.queue).append_right _).append_right _
  | release r hreader =>
    refine .release r rfl ?_ ?_ rfl rfl
    · simp [held, hreader, Reader.held]
    · simp [admitted, hreader, Reader.admitted]
  | refuse r body limit hreader =>
    refine .answer r body limit rfl ?_ ?_ rfl (List.append_assoc _ _ _).symm
    · simp [held, hreader, Reader.held]
    · simp [admitted, hreader, Reader.admitted]
  | recv r queue hdispatcher hqueue => exact moves_dispatch hqueue hdispatcher ht
  | remove r body limit last hdispatcher =>
    refine .release r rfl ?_ ?_ rfl rfl
    · simp [held, hdispatcher, Dispatcher.held]
    · simp only [admitted, hdispatcher, Dispatcher.admitted, List.append_nil]
      exact (List.perm_append_singleton r _).append_right _
  | answer r body limit last hdispatcher =>
    refine .answer r body limit rfl ?_ ?_ rfl (List.append_assoc _ _ _).symm
    · cases last <;> simp only [held, hdispatcher] <;>
        exact (List.append_nil (s.reader.held ++ s.queue)).symm ▸
          (List.perm_append_singleton r _).append_right _
    · cases last <;> simp [admitted, hdispatcher, Dispatcher.admitted]
  | complete i r result htask =>
    exact .still rfl rfl rfl rfl rfl rfl (map_set_result htask) rfl rfl
  | panicked | answerFails | noticeFails => exact absurd rfl (ht.dispatcher _)
  | join i r result hdispatcher htask => exact moves_join hdispatcher htask
  | notice body limit hdispatcher =>
    refine .notice _ ⟨rfl, rfl⟩ rfl ?_ ?_ rfl (List.append_assoc _ _ _).symm
    · simp [held, hdispatcher]
    · simp [admitted, hdispatcher]
  | cancelled | drained => exact absurd rfl ht.closed
  | write x responses hresponses =>
    refine .still rfl rfl rfl rfl rfl rfl rfl rfl ?_
    simp [sent, hresponses]
  | writerFails => cases ht.writer
  | unseen | shutdown => exact .still rfl rfl rfl rfl rfl rfl rfl rfl rfl

end State

end RobotHal.Broker.Connection
