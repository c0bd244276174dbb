import RobotHal.BrokerAdmission

/-!
# What a connection guarantees

Three invariants. A handshake that is undecided is the last request in the queue and the reader is
paused behind it (`Ordered`), so a refused handshake leaves no request behind. Operations are
spawned after an accepted handshake, within its frame limit and up to the configured number
(`Limited`). Every request read is held or has one response (`Sound`). That none is held for ever
comes from a weight that the connection's own steps bring down.
-/

namespace RobotHal.Broker.Connection

variable {π ρ : Type}
variable {i ticket id : ℕ}

/-- The reader takes no frame. -/
def Reader.Paused : Reader π → Prop
  | .waiting | .stopped _ => True
  | _ => False

/-- The dispatcher refuses a handshake and leaves its loop. -/
def Dispatcher.Leaving : Dispatcher π ρ → Prop
  | .removing _ _ _ last | .answering _ _ _ last => last = true
  | .ended .refused => True
  | _ => False

def Reader.weight : Reader π → ℕ
  | .admitting _ => 7
  | .releasing _ => 3
  | .refusing _ => 2
  | _ => 0

def Dispatcher.weight : Dispatcher π ρ → ℕ
  | .removing .. => 3
  | .answering .. => 2
  | _ => 0

def Task.weight : Task π ρ → ℕ
  | ⟨_, none⟩ => 5
  | ⟨_, some _⟩ => 4

/-- The steps that the connection takes by itself, the operations included. -/
def Event.Own : Event π ρ → Prop
  | .trySend | .release | .refuse | .recv | .remove | .answer | .complete .. | .join _ | .write =>
    True
  | _ => False

def InboundRequest.IsHandshake (r : InboundRequest π) : Prop :=
  ∃ handshake, r.payload = .handshakeRequest handshake

namespace State

variable {config : BrokerConfig} {token : StartupToken} {s t : State π ρ} {e : Event π ρ}

/-! ### An undecided handshake -/

structure Ordered (s : State π ρ) : Prop where
  frameLimit : s.frameLimit = s.limits.map NegotiatedLimits.maxFrameBytes
  idle : s.limits = none → s.tasks = []
  undecided : s.limits = none → ∀ front r back, s.queue = front ++ r :: back → r.IsHandshake →
    back = [] ∧ s.reader.Paused
  leaving : s.dispatcher.Leaving → s.limits = none ∧ s.queue = [] ∧ s.reader.Paused

lemma Ordered.still (h : s.Ordered) (hpaused : s.reader.Paused → t.reader.Paused)
    (hframeLimit : t.frameLimit = s.frameLimit) (hlimits : t.limits = s.limits)
    (htasks : t.tasks = s.tasks) (hqueue : t.queue = s.queue)
    (hdispatcher : t.dispatcher.Leaving → s.dispatcher.Leaving) : t.Ordered where
  frameLimit := by rw [hframeLimit, hlimits, h.frameLimit]
  idle := by rw [hlimits, htasks]; exact h.idle
  undecided := by
    rw [hlimits, hqueue]
    intro hnone front r back heq hr
    exact (h.undecided hnone front r back heq hr).imp_right hpaused
  leaving := by
    rw [hlimits, hqueue]
    intro hleaving
    obtain ⟨hnone, hempty, hr⟩ := h.leaving (hdispatcher hleaving)
    exact ⟨hnone, hempty, hpaused hr⟩

lemma verdict_refuse_last {r : InboundRequest π} {error : HalError} {limit : ℕ}
    (h : s.verdict (ρ := ρ) config token r = .refuse error limit true) :
    s.limits = none ∧ r.IsHandshake := by
  unfold verdict at h
  split at h
  · -- before the handshake
    split at h
    · exact ⟨‹_›, _, ‹_›⟩
    · cases h
  · -- after it
    split at h
    · cases h
    split at h
    · cases h
    split at h <;> cases h

lemma verdict_accept {r : InboundRequest π} {handshake : V1.HandshakeRequest}
    {response : V1.HandshakeResponse} {limits : NegotiatedLimits}
    (h : s.verdict (ρ := ρ) config token r = .accept handshake response limits) :
    s.limits = none ∧ validateHandshake token handshake = .ok (response, limits) := by
  unfold verdict at h
  split at h
  · split at h
    · split at h <;> cases h
      exact ⟨‹_›, ‹_›⟩
    · cases h
  · split at h
    · cases h
    split at h
    · cases h
    split at h <;> cases h

lemma verdict_execute {r : InboundRequest π}
    (h : s.verdict (ρ := ρ) config token r = .execute) :
    ∃ limits, s.limits = some limits ∧ r.encodedLen ≤ limits.maxFrameBytes
      ∧ s.tasks.length < config.maxInFlightRequests := by
  unfold verdict at h
  split at h
  · split at h
    · split at h <;> cases h
    · cases h
  · rename_i limits hlimits
    split at h
    · cases h
    rename_i hlen
    split at h
    · cases h
    split at h
    · cases h
    rename_i htasks
    exact ⟨limits, hlimits, Nat.not_lt.mp hlen, Nat.not_le.mp htasks⟩

lemma Ordered.dispatch (h : s.Ordered) {r : InboundRequest π} {queue : List (InboundRequest π)}
    (hqueue : s.queue = r :: queue) (hdispatcher : s.dispatcher = .selecting) :
    ({ s with queue }.dispatch config token r).Ordered := by
  have hrest : s.limits = none → ∀ front r' back, queue = front ++ r' :: back → r'.IsHandshake →
      back = [] ∧ s.reader.Paused := by
    intro hnone front r' back heq
    exact h.undecided hnone (r :: front) r' back (by rw [hqueue, heq]; rfl)
  unfold State.dispatch
  split
  · exact ⟨h.frameLimit, h.idle, hrest, False.elim⟩
  · exact ⟨rfl, nofun, nofun, nofun⟩
  · -- a refused handshake was the last request
    rename_i error limit last hverdict
    refine ⟨h.frameLimit, h.idle, hrest, ?_⟩
    rintro rfl
    obtain ⟨hnone, hr⟩ := verdict_refuse_last hverdict
    obtain ⟨hempty, hpaused⟩ := h.undecided hnone [] r queue hqueue hr
    exact ⟨hnone, hempty, hpaused⟩
  · -- an operation: the limits are known
    rename_i hverdict
    obtain ⟨limits, hlimits, -⟩ := verdict_execute hverdict
    have hsome : s.limits ≠ none := by
      intro hnone
      cases hlimits.symm.trans hnone
    exact ⟨h.frameLimit, fun hnone => (hsome hnone).elim, hrest,
      by simp [hdispatcher, Dispatcher.Leaving]⟩

lemma Ordered.step (h : s.Ordered) (hs : step config token s e = some t) : t.Ordered := by
  cases takes_of_step hs with
  | frameFails | undecodable | endOfStream | readerCancelled | refuseFails | duplicate | gone =>
    exact h.still (fun _ => trivial) rfl rfl rfl rfl id
  | zero _ _ _ hreader | taken _ hreader | full _ hreader | release _ hreader
  | refuse _ _ _ hreader =>
    refine h.still ?_ rfl rfl rfl rfl id
    rw [hreader]
    exact False.elim
  | enqueue r hreader =>
    have hnot : ¬s.reader.Paused := by
      rw [hreader]
      exact id
    refine ⟨h.frameLimit, h.idle, ?_, fun hl => (hnot (h.leaving hl).2.2).elim⟩
    intro hnone front r' back heq hr'
    -- the queue held no handshake, so this is the request just queued
    rcases Machine.split_snoc heq with ⟨rfl, rfl⟩ | ⟨back, rfl, hqueue⟩
    · obtain ⟨handshake, hpayload⟩ := hr'
      exact ⟨rfl, by simp [Reader.afterQueueing, hpayload, Reader.Paused]⟩
    · exact (hnot (h.undecided hnone front r' back hqueue hr').2).elim
  | resume hreader hlimit =>
    -- the limit is known, so no handshake is undecided
    have hsome : s.limits ≠ none := by
      intro hnone
      rw [h.frameLimit, hnone] at hlimit
      cases hlimit
    exact ⟨h.frameLimit, h.idle, fun hnone => (hsome hnone).elim,
      fun hleaving => (hsome (h.leaving hleaving).1).elim⟩
  | recv r queue hdispatcher hqueue => exact h.dispatch hqueue hdispatcher
  | remove r body limit last hdispatcher =>
    refine h.still id rfl rfl rfl rfl ?_
    rw [hdispatcher]
    exact id
  | answer r body limit last hdispatcher =>
    refine h.still id rfl rfl rfl rfl ?_
    rw [hdispatcher]
    cases last
    · exact False.elim
    · exact fun _ => rfl
  | complete i r result htask =>
    refine ⟨h.frameLimit, fun hnone => ?_, h.undecided, h.leaving⟩
    rw [h.idle hnone] at htask
    cases htask
  | join i r result hdispatcher htask =>
    refine ⟨h.frameLimit, fun hnone => ?_, h.undecided, nofun⟩
    rw [h.idle hnone] at htask
    cases htask
  | unseen => exact h
  | panicked | answerFails | notice | noticeFails | cancelled | drained =>
    exact h.still id rfl rfl rfl rfl False.elim
  | write | writerFails | shutdown => exact h.still id rfl rfl rfl rfl id

lemma Ordered.held_ended (h : s.Ordered) {ending : Ending} (hended : s.dispatcher = .ended ending)
    (hserving : s.Serving) : s.held = [] := by
  obtain rfl : ending = .refused := by
    cases ending with
    | failed error => exact (hserving.dispatcher error hended).elim
    | refused => rfl
    | closed => exact (hserving.closed hended).elim
  obtain ⟨hnone, hqueue, hpaused⟩ := h.leaving (by rw [hended]; exact trivial)
  have hreader : s.reader.held = [] := by
    cases hr : s.reader <;> rw [hr] at hpaused <;> first | rfl | cases hpaused
  simp [held, hreader, hqueue, hended, Dispatcher.held, h.idle hnone]

/-! ### What is dispatched -/

/-- Operations are spawned after an accepted handshake, within its frame limit and not more at a
time than the configuration allows. -/
structure Limited (config : BrokerConfig) (token : StartupToken) (s : State π ρ) : Prop where
  accepted : ∀ limits, s.limits = some limits → ∃ request response, s.accepted = some request
    ∧ validateHandshake token request = .ok (response, limits)
  dispatched : ∀ r ∈ s.dispatched, ∃ limits, s.limits = some limits
    ∧ r.encodedLen ≤ limits.maxFrameBytes
  tasks : s.tasks.map Task.request ⊆ s.dispatched
  inFlight : s.tasks.length ≤ config.maxInFlightRequests

lemma Limited.still (h : s.Limited config token) (hlimits : t.limits = s.limits)
    (haccepted : t.accepted = s.accepted) (hdispatched : t.dispatched = s.dispatched)
    (htasks : t.tasks = s.tasks) : t.Limited config token := by
  constructor
  · rw [hlimits, haccepted]
    exact h.accepted
  · rw [hlimits, hdispatched]
    exact h.dispatched
  · rw [htasks, hdispatched]
    exact h.tasks
  · rw [htasks]
    exact h.inFlight

lemma Limited.dispatch (h : s.Limited config token) (queue : List (InboundRequest π))
    (r : InboundRequest π) : ({ s with queue }.dispatch config token r).Limited config token := by
  unfold State.dispatch
  split
  · exact h.still rfl rfl rfl rfl
  · rename_i handshake response limits hverdict
    obtain ⟨hnone, hvalid⟩ := verdict_accept hverdict
    refine ⟨?_, ?_, h.tasks, h.inFlight⟩
    · rintro _ ⟨⟩
      exact ⟨handshake, response, rfl, hvalid⟩
    · -- nothing ran before the handshake
      intro r' hr'
      obtain ⟨limits', hsome, -⟩ := h.dispatched r' hr'
      cases hsome.symm.trans hnone
  · exact h.still rfl rfl rfl rfl
  · -- one operation more
    rename_i hverdict
    obtain ⟨limits, hlimits, hlen, htasks⟩ := verdict_execute hverdict
    refine ⟨h.accepted, ?_, ?_, ?_⟩
    · intro r' hr'
      rcases List.mem_append.mp hr' with hr' | hr'
      · exact h.dispatched r' hr'
      · obtain rfl := List.mem_singleton.mp hr'
        exact ⟨limits, hlimits, hlen⟩
    · rw [List.map_append]
      exact List.append_subset.mpr ⟨List.Subset.trans h.tasks (List.subset_append_left _ _),
        List.subset_append_right _ _⟩
    · rw [List.length_append]
      exact htasks

lemma Limited.step (h : s.Limited config token) (hs : step config token s e = some t) :
    t.Limited config token := by
  cases takes_of_step hs with
  | recv r queue => exact h.dispatch queue r
  | complete i r result htask =>
    refine ⟨h.accepted, h.dispatched, ?_, ?_⟩
    · rw [map_set_result htask]
      exact h.tasks
    · rw [List.length_set]
      exact h.inFlight
  | join i =>
    refine ⟨h.accepted, h.dispatched, ?_, ?_⟩
    · exact List.Subset.trans (List.map_subset _ (List.eraseIdx_sublist _ i).subset) h.tasks
    · exact (List.length_eraseIdx_le s.tasks i).trans h.inFlight
  | _ => exact h.still rfl rfl rfl rfl

/-! ### Requests and responses -/

/-- Every request read is held or has one response, and the ids of the admitted ones are active. -/
structure Sound (s : State π ρ) : Prop where
  tickets : (s.held.map InboundRequest.ticket ++ s.sent.filterMap Response.ticket).Perm
    (List.range s.read.length)
  held_id : ∀ r ∈ s.held, s.read[r.ticket]? = some r.requestId
  sent_id : ∀ x ∈ s.sent, ∀ ticket, x.ticket = some ticket → s.read[ticket]? = some x.requestId
  notice_id : ∀ x ∈ s.sent, x.ticket = none → x.requestId = 0
  distinct : (s.held.map fun r => r.requestId).Nodup
  active : s.active = (s.admitted.map fun r => r.requestId).toFinset

lemma Sound.disjoint (h : s.Sound) {r : InboundRequest π} (hr : r ∈ s.held) :
    r.ticket ∉ s.sent.filterMap Response.ticket := by
  have hnodup := h.tickets.nodup_iff.mpr List.nodup_range
  intro hmem
  exact (List.nodup_append.mp hnodup).2.2 _ (List.mem_map_of_mem hr) _ hmem rfl

/-- The id of a frame from a client that waits for its responses is not in use. -/
lemma Sound.fresh (h : s.Sound) {frame : Frame π} (hfresh : s.Fresh (.frame frame : Event π ρ)) :
    frame.requestId ∉ s.held.map fun r => r.requestId := by
  intro hmem
  obtain ⟨r, hr, hid⟩ := List.mem_map.mp hmem
  have hread : s.read[r.ticket]? = some frame.requestId := by rw [h.held_id r hr, hid]
  obtain ⟨x, hx, hticket⟩ := List.mem_map.mp (hfresh r.ticket hread)
  refine h.disjoint hr (List.mem_filterMap.mpr ⟨x, ?_, hticket⟩)
  exact List.mem_append_left _ hx

lemma Sound.fresh_active (h : s.Sound) {frame : Frame π}
    (hfresh : s.Fresh (.frame frame : Event π ρ)) : frame.requestId ∉ s.active := by
  rw [h.active, List.mem_toFinset]
  intro hmem
  exact h.fresh hfresh ((s.admitted_sublist.map _).subset hmem)

lemma getElem?_snoc_of_some {α : Type} {l : List α} {a b : α} (h : l[i]? = some a) :
    (l ++ [b])[i]? = some a := by
  obtain ⟨hi, -⟩ := List.getElem?_eq_some_iff.mp h
  rw [List.getElem?_append_left hi, h]

lemma Sound.arrive (h : s.Sound) {r : InboundRequest π} (hticket : r.ticket = s.read.length)
    (hfresh : r.requestId ∉ s.held.map fun r => r.requestId)
    (hread : t.read = s.read ++ [r.requestId]) (hheld : t.held.Perm (r :: s.held))
    (hadmitted : t.admitted.Perm (r :: s.admitted))
    (hactive : t.active = insert r.requestId s.active)
    (hsent : t.sent = s.sent) : t.Sound where
  tickets := by
    rw [hsent, hread, List.length_append, List.length_singleton, List.range_succ]
    refine ((hheld.map _).append_right _).trans ((h.tickets.cons r.ticket).trans ?_)
    rw [hticket]
    exact (List.perm_append_singleton _ _).symm
  held_id := by
    intro r' hr'
    rw [hread]
    rcases List.mem_cons.mp (hheld.mem_iff.mp hr') with rfl | hr'
    · rw [hticket]
      simp
    · exact getElem?_snoc_of_some (h.held_id r' hr')
  sent_id := by
    rw [hsent, hread]
    intro x hx ticket hx'
    exact getElem?_snoc_of_some (h.sent_id x hx ticket hx')
  notice_id := by
    rw [hsent]
    exact h.notice_id
  distinct := by
    rw [(hheld.map _).nodup_iff]
    exact List.nodup_cons.mpr ⟨hfresh, h.distinct⟩
  active := by
    rw [hactive, h.active, List.toFinset_eq_of_perm _ _ (hadmitted.map _), List.map_cons,
      List.toFinset_cons]

lemma Sound.erase_active (h : s.Sound) {r : InboundRequest π} {rest : List (InboundRequest π)}
    (hadmitted : s.admitted.Perm (r :: rest)) :
    s.active.erase r.requestId = (rest.map fun r => r.requestId).toFinset := by
  have hnodup : ((r :: rest).map fun r => r.requestId).Nodup :=
    (hadmitted.map _).nodup_iff.mp ((s.admitted_sublist.map _).nodup h.distinct)
  have hnot := (List.nodup_cons.mp hnodup).1
  rw [h.active, List.toFinset_eq_of_perm _ _ (hadmitted.map _), List.map_cons, List.toFinset_cons,
    Finset.erase_insert (by rwa [List.mem_toFinset])]

lemma Sound.same (h : s.Sound) (hread : t.read = s.read) (hheld : t.held.Perm s.held)
    (hsent : t.sent = s.sent)
    (hactive : t.active = (t.admitted.map fun r => r.requestId).toFinset) :
    t.Sound where
  tickets := by
    rw [hsent, hread]
    exact ((hheld.map _).append_right _).trans h.tickets
  held_id := by
    rw [hread]
    exact fun r hr => h.held_id r (hheld.mem_iff.mp hr)
  sent_id := by
    rw [hsent, hread]
    exact h.sent_id
  notice_id := by
    rw [hsent]
    exact h.notice_id
  distinct := (hheld.map _).nodup_iff.mpr h.distinct
  active := hactive

lemma Sound.answer (h : s.Sound) {r : InboundRequest π} {body : ResponseBody ρ} {limit : ℕ}
    (hread : t.read = s.read) (hheld : s.held.Perm (r :: t.held))
    (hadmitted : t.admitted.Perm s.admitted) (hactive : t.active = s.active)
    (hsent : t.sent = s.sent ++ [r.response body limit]) : t.Sound where
  tickets := by
    rw [hsent, hread, List.filterMap_append, ← List.append_assoc]
    refine List.Perm.trans ?_ h.tickets
    refine (List.perm_append_singleton r.ticket _).trans ?_
    exact ((hheld.map InboundRequest.ticket).symm.append_right _)
  held_id := by
    rw [hread]
    exact fun r' hr' => h.held_id r' (hheld.mem_iff.mpr (List.mem_cons_of_mem _ hr'))
  sent_id := by
    rw [hsent, hread]
    intro x hx ticket hx'
    rcases List.mem_append.mp hx with hx | hx
    · exact h.sent_id x hx ticket hx'
    · obtain rfl := List.mem_singleton.mp hx
      obtain rfl : r.ticket = ticket := Option.some.inj hx'
      exact h.held_id r (hheld.mem_iff.mpr List.mem_cons_self)
  notice_id := by
    rw [hsent]
    intro x hx hx'
    rcases List.mem_append.mp hx with hx | hx
    · exact h.notice_id x hx hx'
    · obtain rfl := List.mem_singleton.mp hx
      cases hx'
  distinct := (List.nodup_cons.mp ((hheld.map _).nodup_iff.mp h.distinct)).2
  active := by rw [hactive, h.active, List.toFinset_eq_of_perm _ _ (hadmitted.map _)]

lemma Sound.moves (h : s.Sound) (hmoves : Moves s t) : t.Sound := by
  cases hmoves with
  | arrive r hticket hfresh hread hheld hadmitted hactive hsent =>
    exact h.arrive hticket hfresh hread hheld hadmitted hactive hsent
  | answer r body limit hread hheld hadmitted hactive hsent =>
    exact h.answer hread hheld hadmitted hactive hsent
  | shift hread hheld hadmitted hactive hsent =>
    exact h.same hread hheld hsent
      (by rw [hactive, h.active, List.toFinset_eq_of_perm _ _ (hadmitted.map _)])
  | release r hread hheld hadmitted hactive hsent =>
    exact h.same hread hheld hsent (hactive.trans (h.erase_active hadmitted))
  | notice x hx hread hheld hadmitted hactive hsent =>
    have heq : t.active = (t.admitted.map fun r => r.requestId).toFinset := by
      rw [hactive, h.active, List.toFinset_eq_of_perm _ _ (hadmitted.map _)]
    have hsame : { t with written := s.written, responses := s.responses }.Sound :=
      h.same hread hheld rfl heq
    refine ⟨?_, hsame.held_id, ?_, ?_, hsame.distinct, hsame.active⟩
    · -- an event has no ticket
      rw [hsent, List.filterMap_append, List.filterMap_cons_none hx.1, List.filterMap_nil,
        List.append_nil]
      exact hsame.tickets
    · rw [hsent]
      intro y hy ticket hy'
      rcases List.mem_append.mp hy with hy | hy
      · exact hsame.sent_id y hy ticket hy'
      · obtain rfl := List.mem_singleton.mp hy
        cases hx.1.symm.trans hy'
    · rw [hsent]
      intro y hy hy'
      rcases List.mem_append.mp hy with hy | hy
      · exact h.notice_id y hy hy'
      · obtain rfl := List.mem_singleton.mp hy
        exact hx.2

lemma sound_step (hordered : s.Ordered) (h : s.Serving → s.Sound) (hfresh : s.Fresh e)
    (hs : step config token s e = some t) (ht : t.Serving) : t.Sound := by
  have hserving : s.Serving := serving_of_step hs ht
  have hsound := h hserving
  refine hsound.moves (step_moves hs ht ?_ ?_)
  · -- the client waits before it uses an id again
    rintro frame rfl
    exact ⟨hsound.fresh hfresh, hsound.fresh_active hfresh⟩
  · -- the reader holds nothing then
    intro ending hended
    have hheld := hordered.held_ended hended hserving
    simp only [held, List.append_eq_nil_iff] at hheld
    exact hheld.1.1.1

/-! ### Every request is answered -/

/-- How many steps are left at most until a request here has its response written. -/
def weight (s : State π ρ) : ℕ :=
  s.reader.weight + 6 * s.queue.length + s.dispatcher.weight + (s.tasks.map Task.weight).sum
    + s.responses.length

lemma sum_weight_erase {task : Task π ρ} {tasks : List (Task π ρ)} (h : tasks[i]? = some task) :
    (tasks.map Task.weight).sum = task.weight + ((tasks.eraseIdx i).map Task.weight).sum := by
  obtain ⟨hi, hget⟩ := List.getElem?_eq_some_iff.mp h
  have hperm := (List.getElem_cons_eraseIdx_perm hi).map Task.weight
  rw [hget] at hperm
  rw [← hperm.sum_eq, List.map_cons, List.sum_cons]

lemma sum_weight_set {task task' : Task π ρ} {tasks : List (Task π ρ)} (h : tasks[i]? = some task) :
    ((tasks.set i task').map Task.weight).sum
      = task'.weight + ((tasks.eraseIdx i).map Task.weight).sum := by
  obtain ⟨hi, -⟩ := List.getElem?_eq_some_iff.mp h
  rw [((List.set_perm_cons_eraseIdx hi task').map Task.weight).sum_eq, List.map_cons, List.sum_cons]

lemma weight_afterQueueing (r : InboundRequest π) : (Reader.afterQueueing r).weight = 0 := by
  unfold Reader.afterQueueing
  split <;> rfl

/-- A step of its own brings the connection closer to having answered what it read. -/
lemma own_step (hown : e.Own) (hs : step config token s e = some t) :
    t.weight < s.weight ∧ t.read = s.read := by
  cases takes_of_step hs with
  | gone _ _ hreader | full _ hreader | release _ hreader | refuseFails _ _ hreader =>
    refine ⟨?_, rfl⟩
    simp only [weight, hreader, Reader.weight]
    omega
  | enqueue r hreader =>
    refine ⟨?_, rfl⟩
    simp only [weight, hreader, weight_afterQueueing, List.length_append, List.length_singleton]
    simp only [Reader.weight]
    omega
  | refuse r body limit hreader =>
    refine ⟨?_, rfl⟩
    simp only [weight, hreader, Reader.weight, List.length_append, List.length_singleton]
    omega
  | recv r queue hdispatcher hqueue =>
    unfold dispatch
    split <;> refine ⟨?_, rfl⟩ <;>
      simp [weight, hqueue, hdispatcher, Dispatcher.weight, Task.weight] <;> omega
  | remove _ _ _ _ hdispatcher | answerFails _ _ _ _ _ hdispatcher =>
    refine ⟨?_, rfl⟩
    simp only [weight, hdispatcher, Dispatcher.weight]
    omega
  | answer r body limit last hdispatcher =>
    have hnext : (if last then .ended .refused else .selecting : Dispatcher π ρ).weight = 0 := by
      cases last <;> rfl
    refine ⟨?_, rfl⟩
    simp only [weight, hnext, hdispatcher, List.length_append, List.length_singleton]
    simp only [Dispatcher.weight]
    omega
  | complete i r result htask =>
    refine ⟨?_, rfl⟩
    simp only [weight, sum_weight_set htask, sum_weight_erase htask, Task.weight]
    omega
  | join i r result hdispatcher htask =>
    refine ⟨?_, rfl⟩
    simp only [weight, hdispatcher, Dispatcher.weight, sum_weight_erase htask, Task.weight]
    omega
  | write x responses hresponses =>
    refine ⟨?_, rfl⟩
    simp only [weight, hresponses, List.length_cons]
    omega
  | _ => cases hown

/-- A connection that serves is never stuck with a request. -/
lemma exists_own_step [Nonempty ρ] (hordered : s.Ordered) (hserving : s.Serving)
    (h : ¬(s.held = [] ∧ s.responses = [])) :
    ∃ e t, Event.Own e ∧ step config token s e = some t := by
  have htakes {e : Event π ρ} (hown : e.Own) (he : (step config token s e).isSome) :
      ∃ e t, Event.Own e ∧ step config token s e = some t :=
    ⟨e, _, hown, (Option.some_get he).symm⟩
  cases hresponses : s.responses with
  | cons x responses =>
    exact htakes (e := .write) trivial (by simp [step, hserving.writer, hresponses])
  | nil =>
    cases hdispatcher : s.dispatcher with
    | removing r body limit last =>
      exact htakes (e := .remove) trivial (by simp [step, hdispatcher])
    | answering r body limit last =>
      exact htakes (e := .answer) trivial (by simp [step, hdispatcher])
    | ended ending => exact (h ⟨hordered.held_ended hdispatcher hserving, hresponses⟩).elim
    | selecting =>
      cases hqueue : s.queue with
      | cons r queue => exact htakes (e := .recv) trivial (by simp [step, hdispatcher, hqueue])
      | nil =>
        cases htasks : s.tasks with
        | cons task tasks =>
          obtain ⟨r, _ | result⟩ := task
          · -- it executes
            exact htakes (e := .complete 0 (Classical.arbitrary ρ)) trivial (by simp [step, htasks])
          · -- its result is there
            exact htakes (e := .join 0) trivial (by simp [step, hdispatcher, htasks])
        | nil =>
          cases hreader : s.reader with
          | admitting r => exact htakes (e := .trySend) trivial (by simp [step, hreader])
          | releasing r => exact htakes (e := .release) trivial (by simp [step, hreader])
          | refusing r => exact htakes (e := .refuse) trivial (by simp [step, hreader])
          | reading | waiting | stopped =>
            refine (h ⟨?_, hresponses⟩).elim
            simp [held, hreader, hqueue, hdispatcher, htasks, Reader.held, Dispatcher.held]

/-! ### Runs -/

variable {l : List (Event π ρ)}

lemma ordered_initial : ({} : State π ρ).Ordered where
  frameLimit := rfl
  idle := fun _ => rfl
  undecided := by
    intro _ front r back h
    exact absurd h.symm (by simp)
  leaving := False.elim

lemma sound_initial : ({} : State π ρ).Sound where
  tickets := .refl _
  held_id := fun _ h => (List.not_mem_nil h).elim
  sent_id := fun _ h => (List.not_mem_nil h).elim
  notice_id := fun _ h => (List.not_mem_nil h).elim
  distinct := .nil
  active := rfl

lemma ordered_of_runs (h : Runs config token {} l s) : s.Ordered :=
  h.invariant (I := Ordered) ordered_initial fun _ _ _ hi _ hs => hi.step hs

lemma limited_of_runs (h : Runs config token {} l s) : s.Limited config token :=
  h.invariant (I := Limited config token) ⟨nofun, nofun, nofun, Nat.zero_le _⟩
    fun _ _ _ hi _ hs => hi.step hs

lemma sound_of_runs (h : Runs config token {} l s) (hserving : s.Serving) : s.Sound := by
  refine (h.invariant (I := fun s => s.Ordered ∧ (s.Serving → s.Sound)) ?_ ?_).2 hserving
  · exact ⟨ordered_initial, fun _ => sound_initial⟩
  · rintro a e b ⟨hordered, hsound⟩ hfresh hs
    exact ⟨hordered.step hs, sound_step hordered hsound hfresh hs⟩

/-- One of the responses answers this ticket, with this id. -/
def AnsweredOnce (responses : List (Response ρ)) (ticket id : ℕ) : Prop :=
  ∃ x, responses.filter (fun x => x.ticket = some ticket) = [x] ∧ x.requestId = id

lemma filter_eq_singleton {responses : List (Response ρ)} {x : Response ρ}
    (hnodup : (responses.filterMap Response.ticket).Nodup) (hx : x ∈ responses)
    (hticket : x.ticket = some ticket) :
    responses.filter (fun x => x.ticket = some ticket) = [x] := by
  obtain ⟨front, back, rfl⟩ := List.append_of_mem hx
  rw [List.filterMap_append, List.filterMap_cons_some hticket, List.nodup_append,
    List.nodup_cons] at hnodup
  obtain ⟨-, ⟨hback, -⟩, hfront⟩ := hnodup
  have hmem {m : List (Response ρ)} {y : Response ρ} (hy : y ∈ m) (hyt : y.ticket = some ticket) :
      ticket ∈ m.filterMap Response.ticket := List.mem_filterMap.mpr ⟨y, hy, hyt⟩
  rw [List.filter_append, List.filter_cons_of_pos (by simpa using hticket),
    List.filter_eq_nil_iff.mpr, List.filter_eq_nil_iff.mpr]
  · rfl
  · intro y hy hyt
    exact hback (hmem hy (by simpa using hyt))
  · intro y hy hyt
    exact hfront ticket (hmem hy (by simpa using hyt)) ticket List.mem_cons_self rfl

lemma Sound.answeredOnce (h : s.Sound) (hread : s.read[ticket]? = some id)
    (hmem : ticket ∈ s.sent.filterMap Response.ticket) : AnsweredOnce s.sent ticket id := by
  obtain ⟨x, hx, hticket⟩ := List.mem_filterMap.mp hmem
  have hnodup := (List.nodup_append.mp (h.tickets.nodup_iff.mpr List.nodup_range)).2.1
  refine ⟨x, filter_eq_singleton hnodup hx hticket, ?_⟩
  exact Option.mem_unique (h.sent_id x hx ticket hticket) hread

/-- A request that was read is held and has no response, or it has one. -/
lemma Sound.held_or_answered (h : s.Sound) (hread : s.read[ticket]? = some id) :
    (∃ r ∈ s.held, r.ticket = ticket ∧ r.requestId = id ∧ ∀ x ∈ s.sent, x.ticket ≠ some ticket)
      ∨ AnsweredOnce s.sent ticket id := by
  obtain ⟨hlt, -⟩ := List.getElem?_eq_some_iff.mp hread
  rcases List.mem_append.mp (h.tickets.mem_iff.mpr (List.mem_range.mpr hlt)) with hmem | hmem
  · -- it is still held
    obtain ⟨r, hr, rfl⟩ := List.mem_map.mp hmem
    refine .inl ⟨r, hr, rfl, Option.mem_unique (h.held_id r hr) hread, ?_⟩
    intro x hx hticket
    exact h.disjoint hr (List.mem_filterMap.mpr ⟨x, hx, hticket⟩)
  · exact .inr (h.answeredOnce hread hmem)

lemma Sound.written_of_idle (h : s.Sound) (hheld : s.held = []) (hresponses : s.responses = [])
    (hread : s.read[ticket]? = some id) : AnsweredOnce s.written ticket id := by
  rcases h.held_or_answered hread with ⟨r, hr, -⟩ | hsent
  · rw [hheld] at hr
    cases hr
  · rwa [sent, hresponses, List.append_nil] at hsent

/-- However the connection goes on, it stops serving or writes what it owes. -/
lemma inevitably_answered [Nonempty ρ] (h : Runs config token {} l s) :
    Machine.Inevitable (step config token) Event.Own
      (fun t => t.Serving → ∀ ticket id, s.read[ticket]? = some id →
        AnsweredOnce t.written ticket id) s := by
  refine Machine.inevitable_of_measure weight
    (I := fun t => t.Ordered ∧ (t.Serving → t.Sound) ∧ t.read = s.read) ?_ ?_
    ⟨ordered_of_runs h, sound_of_runs h, rfl⟩
  · -- a request is left, so there is a step
    rintro t ⟨hordered, htsound, hread⟩ hnot
    push Not at hnot
    obtain ⟨htserving, ticket, id, hid, hnone⟩ := hnot
    refine exists_own_step hordered htserving fun hidle => hnone ?_
    exact (htsound htserving).written_of_idle hidle.1 hidle.2 (by rwa [hread])
  · -- that step brings it closer
    rintro t e u ⟨hordered, htsound, hread⟩ - hown hs
    obtain ⟨hlt, hsame⟩ := own_step hown hs
    have hfresh : t.Fresh e := by
      cases e <;> trivial
    exact .inr ⟨⟨hordered.step hs, sound_step hordered htsound hfresh hs, hsame.trans hread⟩, hlt⟩

/-- **Admission and correlation**, for every interleaving of the reader, the dispatcher, the writer
and the operations, with a client that waits for a response before it uses an id again. Operations
are dispatched under an authentic handshake and within its limit. While the connection serves, the
active ids are those of the requests between their admission and their removal, which are the queued
and the executing ones when neither task is between two of its waits; every response with a
non-zero id answers a request that was read; and every request read has at most one response,
carries its id in it, and gets it. -/
theorem requests_answered_once [Nonempty ρ] (h : Runs config token {} l s) :
    (∀ r ∈ s.dispatched, ∃ request response limits, s.accepted = some request
      ∧ request.startupToken = token.bytes
      ∧ validateHandshake token request = .ok (response, limits) ∧ s.limits = some limits
      ∧ r.encodedLen ≤ limits.maxFrameBytes)
    ∧ s.tasks.map Task.request ⊆ s.dispatched
    ∧ s.tasks.length ≤ config.maxInFlightRequests
    ∧ (s.Serving →
      s.active = (s.admitted.map fun r => r.requestId).toFinset
      ∧ (s.reader.held = [] → s.dispatcher.held = [] →
        s.active = ((s.queue ++ s.tasks.map Task.request).map fun r => r.requestId).toFinset)
      ∧ (∀ x ∈ s.sent, x.requestId ≠ 0 →
        ∃ ticket, x.ticket = some ticket ∧ s.read[ticket]? = some x.requestId)
      ∧ ∀ ticket id, s.read[ticket]? = some id →
        (∃ r ∈ s.held, r.ticket = ticket ∧ r.requestId = id
          ∧ ∀ x ∈ s.sent, x.ticket ≠ some ticket) ∨ AnsweredOnce s.sent ticket id)
    ∧ Machine.Inevitable (step config token) Event.Own
      (fun t => t.Serving → ∀ ticket id, s.read[ticket]? = some id →
        AnsweredOnce t.written ticket id) s := by
  have hlimited := limited_of_runs h
  refine ⟨?_, hlimited.tasks, hlimited.inFlight, fun hserving => ?_, inevitably_answered h⟩
  · -- the handshake came first
    intro r hr
    obtain ⟨limits, hlimits, hlen⟩ := hlimited.dispatched r hr
    obtain ⟨request, response, haccepted, hvalid⟩ := hlimited.accepted limits hlimits
    obtain ⟨minor, haccepts, -⟩ := validateHandshake_eq_ok.mp hvalid
    exact ⟨request, response, limits, haccepted, haccepts.authentic, hvalid, hlimits, hlen⟩
  · have hsound := sound_of_runs h hserving
    refine ⟨hsound.active, ?_, ?_, fun ticket id => hsound.held_or_answered⟩
    · intro hreader hdispatcher
      have hadmitted : s.admitted = s.queue ++ s.tasks.map Task.request := by
        have hr : s.reader.admitted = [] := by
          cases hr : s.reader <;> first | rfl | (rw [hr] at hreader; cases hreader)
        have hd : s.dispatcher.admitted = [] := by
          cases hd : s.dispatcher <;> first | rfl | (rw [hd] at hdispatcher; cases hdispatcher)
        rw [admitted, hr, hd, List.nil_append, List.append_nil]
      rw [hsound.active, hadmitted]
    · -- only events have no ticket
      intro x hx hid
      cases hticket : x.ticket with
      | none => exact (hid (hsound.notice_id x hx hticket)).elim
      | some ticket => exact ⟨ticket, rfl, hsound.sent_id x hx ticket hticket⟩

instance : DecidableRel (Fresh (π := π) (ρ := ρ)) := fun s e =>
  match e with
  | .frame frame => decidable_of_iff
      (∀ t ∈ List.range s.read.length, s.read[t]? = some frame.requestId →
        some t ∈ s.written.map Response.ticket)
      ⟨fun h t ht => h t (List.mem_range.mpr (List.getElem?_eq_some_iff.mp ht).1) ht,
        fun h t _ => h t⟩
  | .undecodable _ | .endOfStream | .readerCancelled | .trySend | .release | .refuse | .resume
  | .recv | .remove | .answer | .complete _ _ | .panicked _ _ | .join _ | .runtimeEvent _
  | .cancelled | .drained | .write | .writerFails | .shutdown => .isTrue trivial

/-- The reader and the dispatcher wait for what comes next. -/
def waiting (s : State π ρ) : Bool :=
  match s.reader, s.dispatcher with
  | .reading, .selecting => true
  | _, _ => false

def sevens : StartupToken := ⟨List.replicate 32 7, rfl⟩

/-- A handshake, then an operation, which executes. -/
def executing : List (Event Unit Unit) :=
  [.frame ⟨1, .handshakeRequest (Client.handshakeRequest sevens.bytes ⟨3, 65536, 4096, 4096⟩), 100⟩,
    .trySend, .recv, .remove, .answer, .write, .resume, .frame ⟨2, .operation (), 20⟩, .trySend,
    .recv]

/-- Another operation is queued behind it. -/
theorem requests_answered_once_pipelined :
    ∃ (token : StartupToken) (l : List (Event Unit Unit)) (s : State Unit Unit),
      Runs {} token {} l s ∧ s.Serving ∧ s.read = [1, 2, 3] ∧ s.active = {2, 3}
      ∧ Machine.Inevitable (step {} token) Event.Own
        (fun t => t.Serving → ∀ ticket id, s.read[ticket]? = some id →
          AnsweredOnce t.written ticket id) s := by
  have hexec : ∃ s ∈ Machine.exec (step {} sevens) Fresh {}
      (executing ++ [.frame ⟨3, .operation (), 20⟩, .trySend]), s.writerOpen = true
      ∧ s.waiting = true ∧ s.read = [1, 2, 3] ∧ s.active = {2, 3} := by
    decide +kernel
  obtain ⟨s, hs, hwriter, hwaiting, hread, hactive⟩ := hexec
  have hruns := Machine.runs_of_exec hs
  refine ⟨_, _, s, hruns, ⟨hwriter, ?_, ?_, ?_⟩, hread, hactive,
    (requests_answered_once hruns).2.2.2.2⟩
  · intro error heq
    simp [waiting, heq] at hwaiting
  · intro error heq
    simp [waiting, heq] at hwaiting
  · intro heq
    simp [waiting, heq] at hwaiting

/-- Reader and dispatcher are over, and neither has failed. -/
def closed (s : State π ρ) : Bool :=
  match s.reader, s.dispatcher with
  | .stopped none, .ended .closed => true
  | _, _ => false

lemma closed_step {e : Event π ρ} (h : s.closed = true) (hs : step config token s e = some t) :
    t.closed = true ∧ ∀ x ∈ t.sent, x ∈ s.sent := by
  obtain ⟨hr, hd⟩ : s.reader = .stopped none ∧ s.dispatcher = .ended .closed := by
    unfold closed at h
    split at h
    · exact ⟨‹_›, ‹_›⟩
    · cases h
  cases e <;> simp only [step, hr, hd] at hs
  -- what is left are the running tasks, the writer and the owner of the connection
  all_goals try (cases hs; done)
  case complete =>
    split at hs <;> cases hs
    exact ⟨rfl, fun _ hx => hx⟩
  case write =>
    split at hs <;> cases hs
    rename_i heq
    exact ⟨rfl, fun x hx => by simpa [sent, heq] using hx⟩
  all_goals
    cases hs
    exact ⟨rfl, fun _ hx => hx⟩

/-- The peer closes the connection while its operation executes: nothing fails, and the request
never gets a response. -/
theorem closed_connection_leaves_unanswered :
    ∃ (token : StartupToken) (l : List (Event Unit Unit)) (s : State Unit Unit),
      Runs {} token {} l s ∧ s.closed = true ∧ s.writerOpen = true ∧ s.read = [1, 2]
      ∧ ∀ l' t, Runs {} token s l' t → ∀ x ∈ t.sent, x.requestId ≠ 2 := by
  have hexec : ∃ s ∈ Machine.exec (step {} sevens) Fresh {}
      (executing ++ [.endOfStream, .drained]), s.closed = true ∧ s.writerOpen = true
      ∧ s.read = [1, 2] ∧ ∀ x ∈ s.sent, x.requestId ≠ 2 := by
    decide +kernel
  obtain ⟨s, hs, hclosed, hwriter, hread, hsent⟩ := hexec
  refine ⟨_, _, s, Machine.runs_of_exec hs, hclosed, hwriter, hread, fun l' t h => ?_⟩
  refine (h.invariant (I := fun t => t.closed = true ∧ ∀ x ∈ t.sent, x.requestId ≠ 2)
    ⟨hclosed, hsent⟩ fun _ _ _ ha _ hst => ?_).2
  obtain ⟨hc, hsub⟩ := closed_step ha.1 hst
  exact ⟨hc, fun x hx => ha.2 x (hsub x hx)⟩

end State

end RobotHal.Broker.Connection
