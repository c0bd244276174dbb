import RobotHal.SerialRuntime

/-!
What holds of every serial session in every run.

An opening session can be ended by its adapter, by the cancellation that the revocation of its
owner sends, by the guard of its dropped future, and by the registry's rejection. One invariant
ties these together: it says what the registry's entry, the lease, the actor, the future, the
guard and the published events of one session have to do with each other. The view of a
session keeps exactly these, and a step of the runtime is one move of each session's view.
-/

namespace RobotHal.LeaseTable

variable {t t' : LeaseTable} {r : ResourceId} {s : SessionId} {o : OwnerId} {fresh : LeaseId}
  {k : LeaseToken} {a : ActiveLease}

lemma reserveControl_ok (h : t.reserveControl r s o fresh = (t', .ok k)) :
    t.active.lookup r = none ∧ t'.active = t.active.insert r ⟨s, o, k, false⟩ := by
  unfold reserveControl at h
  split at h
  · cases h
  next hn =>
  dsimp only at h
  split at h
  · cases h
  · obtain ⟨rfl, rfl⟩ : _ = t' ∧ _ = k := by simpa using h
    exact ⟨by simpa using hn, rfl⟩

lemma reserveControl_error {e : HalError} (h : t.reserveControl r s o fresh = (t', .error e)) :
    t'.active = t.active := by
  unfold reserveControl at h
  split at h
  · obtain ⟨rfl, -⟩ := Prod.mk.inj h
    rfl
  dsimp only at h
  split at h
  · obtain ⟨rfl, -⟩ := Prod.mk.inj h
    rfl
  · cases h

lemma commit_of_active (h : t.active.lookup r = some a) :
    t.commit r a.sessionId a.token =
      ({ t with active := t.active.insert r { a with committed := true } }, true) := by
  simp [commit, keep, h]

/-- The lease on a resource, if it is the session's. -/
def heldBy (t : LeaseTable) (s : SessionId) (r : ResourceId) : Option ActiveLease :=
  (t.active.lookup r).filter fun a => a.sessionId = s

lemma heldBy_eq_some : t.heldBy s r = some a ↔ t.active.lookup r = some a ∧ a.sessionId = s := by
  simp [heldBy, Option.filter_eq_some_iff]

lemma heldBy_congr (h : t'.active = t.active) : t'.heldBy s = t.heldBy s := by
  funext q
  rw [heldBy, heldBy, h]

lemma heldBy_insert_self (ht : t'.active = t.active.insert r a) :
    t'.heldBy a.sessionId = Function.update (t.heldBy a.sessionId) r (some a) := by
  funext q
  simp only [heldBy, ht, Assoc.lookup_insert_ite, Function.update_apply]
  split <;> simp

lemma heldBy_insert_of_ne (h : ∀ b, t.active.lookup r = some b → b.sessionId = a.sessionId)
    (ht : t'.active = t.active.insert r a) (hs : s ≠ a.sessionId) : t'.heldBy s = t.heldBy s := by
  funext q
  simp only [heldBy, ht, Assoc.lookup_insert_ite]
  split
  next hq =>
    subst hq
    rcases hl : t.active.lookup q with _ | b
    · simp [Option.filter, hs.symm]
    · simp [Option.filter, h b hl, hs.symm]
  · rfl

lemma lookup_release (q : ResourceId) : (t.release r s).1.active.lookup q =
    if q = r ∧ (t.heldBy s r).isSome then none else t.active.lookup q := by
  rcases h : t.active.lookup r with _ | a
  · simp [release, heldBy, h]
  · by_cases hs : a.sessionId = s
    · simp [release, heldBy, h, hs, Option.filter, Assoc.lookup_erase_ite]
    · simp [release, heldBy, h, hs, Option.filter]

lemma release_snd : (t.release r s).2 = (t.heldBy s r).any ActiveLease.committed := by
  rcases h : t.active.lookup r with _ | a
  · simp [release, heldBy, h]
  · by_cases hs : a.sessionId = s
    · simp [release, heldBy, h, hs, Option.filter]
    · simp [release, heldBy, h, hs, Option.filter]

lemma heldBy_release_self : (t.release r s).1.heldBy s = Function.update (t.heldBy s) r none := by
  funext q
  ext b
  rw [heldBy_eq_some, lookup_release, Function.update_apply]
  by_cases hq : q = r
  · subst hq
    rcases hb : t.heldBy s q with _ | b'
    · simp [← heldBy_eq_some, hb]
    · simp
  · simp [hq, heldBy_eq_some]

lemma heldBy_release_of_ne {s' : SessionId} (hs : s' ≠ s) :
    (t.release r s).1.heldBy s' = t.heldBy s' := by
  funext q
  ext b
  rw [heldBy_eq_some, heldBy_eq_some, lookup_release]
  split
  next h =>
    obtain ⟨rfl, h⟩ := h
    obtain ⟨b', hb'⟩ := Option.isSome_iff_exists.mp h
    obtain ⟨hl, hid⟩ := heldBy_eq_some.mp hb'
    grind
  · rfl

end RobotHal.LeaseTable

namespace RobotHal.Serial.Registry

open WorkerManager (SessionLifecycle)

variable {g : Registry} {id : SessionId} {e : SessionEntry} {a : ActiveLease}

lemma finishOpen_of_closing (he : g.sessions.lookup id = some e) (hs : e.state = .closing) :
    g.finishOpen id =
      ({ g with sessions := g.sessions.insert id { e with actor := true } }, none, false) := by
  simp [finishOpen, he, hs]

lemma finishOpen_of_opening (he : g.sessions.lookup id = some e) (hs : e.state = .opening)
    (ha : g.leases.active.lookup e.resource = some a) (hid : a.sessionId = id)
    (hk : a.token = e.lease) :
    g.finishOpen id =
      ({ g with
          leases :=
            { g.leases with
              active := g.leases.active.insert e.resource { a with committed := true } }
          sessions := (g.sessions.insert id { e with actor := true }).insert id
            { e with actor := true, state := .active } },
        some (event .sessionOpened id { e with actor := true }), true) := by
  have hc := LeaseTable.commit_of_active ha
  subst hid
  rw [hk] at hc
  simp [finishOpen, he, hs, hc, hk, SessionLifecycle.commitOpen]

lemma rememberClosed_fields (g : Registry) (id : SessionId) (lease : LeaseToken) :
    (g.rememberClosed id lease).leases = g.leases ∧
    (g.rememberClosed id lease).sessions = g.sessions ∧
    (g.rememberClosed id lease).done = g.done := by
  unfold rememberClosed
  split <;> exact ⟨rfl, rfl, rfl⟩

lemma finishClose_of_lookup (he : g.sessions.lookup id = some e) (result : HalResult Unit) :
    (g.finishClose id result).1.leases = (g.leases.release e.resource id).1 ∧
    (g.finishClose id result).1.sessions = g.sessions.erase id ∧
    (g.finishClose id result).1.done = g.done.insert id result ∧
    (g.finishClose id result).2 =
      if (g.leases.heldBy id e.resource).any ActiveLease.committed then
        some (event .sessionClosed id e)
      else none := by
  rw [← LeaseTable.release_snd]
  unfold finishClose
  simp only [he]
  rcases hx : (g.leases.release e.resource id).2 with _ | _
  · simp
  · simpa using rememberClosed_fields _ _ _

lemma beginClose_cases (g : Registry) (id : SessionId) (lease : LeaseToken) :
    (g.beginClose id lease).1 = g ∧ (∀ r, (g.beginClose id lease).2 ≠ .ok (.wait r)) ∨
    ∃ e, g.sessions.lookup id = some e ∧
      (g.beginClose id lease).1 =
        { g with sessions := g.sessions.insert id { e with state := .closing } } ∧
      ∀ r, (g.beginClose id lease).2 = .ok (.wait r) → e.actor = true := by
  unfold beginClose
  split
  next hn =>
    refine .inl ⟨rfl, fun r => ?_⟩
    unfold closedCloseResult
    split
    · simp
    next closed hc => cases validateClosedLease closed lease "serial.close" <;> simp [Except.map]
  next e he =>
    split
    · exact .inl ⟨rfl, by simp⟩
    · refine .inr ⟨e, he, ?_⟩
      dsimp only [SessionLifecycle.beginClose]
      split
      next ha => exact ⟨rfl, fun _ _ => ha⟩
      · exact ⟨rfl, by simp⟩

lemma enqueue_ok {lease : LeaseToken} {sent : HalResult Unit} {operation : String}
    {r : ResourceId} (h : g.enqueue id lease sent operation = .ok r) :
    ∃ e, g.sessions.lookup id = some e ∧ e.resource = r ∧ e.actor = true ∧ e.state = .active ∧
      g.leases.validate r id e.owner lease operation = .ok () ∧ sent = .ok () := by
  unfold enqueue at h
  split at h
  · cases h
  next e he =>
  refine ⟨e, he, ?_⟩
  rcases hv : g.leases.validate e.resource id e.owner lease operation with x | ⟨⟩
  · simp [hv, bind, Except.bind] at h
  rcases hst : e.state with _ | _ | _
  · simp [hv, hst, bind, Except.bind, SessionLifecycle.admitIo, Except.mapError] at h
  · rcases hact : e.actor with _ | _
    · simp [hv, hst, hact, bind, Except.bind, SessionLifecycle.admitIo, Except.mapError, throw,
        throwThe, MonadExceptOf.throw] at h
    · rcases sent with x | ⟨⟩
      · simp [hv, hst, hact, bind, Except.bind, SessionLifecycle.admitIo, Except.mapError] at h
      · obtain rfl : e.resource = r := by
          simpa [hv, hst, hact, bind, Except.bind, SessionLifecycle.admitIo, Except.mapError, pure,
            Except.pure] using h
        exact ⟨rfl, rfl, rfl, hv, rfl⟩
  · simp [hv, hst, bind, Except.bind, SessionLifecycle.admitIo, Except.mapError] at h

end RobotHal.Serial.Registry

namespace RobotHal.Serial

open WorkerManager (SessionLifecycle)

variable {t : OpenTask} {a : Actor}
variable {pc : OpenPc} {result : HalResult Unit} {k : LeaseToken} {e : SessionEntry}

/-! ### Views -/

namespace OpenPc

/-- The session is reserved, and no native session has arrived. -/
@[simp, grind =] def Bare : OpenPc → Prop
  | .opening _ => True
  | .cancelling _ => True
  | _ => False

/-- The adapter returned a native session. -/
@[simp, grind =] def Arriving : OpenPc → Prop
  | .finishing _ => True
  | _ => False

@[simp, grind =] def Opened : OpenPc → Prop
  | .returned (.ok _) => True
  | _ => False

/-- What a future does without the registry. -/
inductive Next : OpenPc → OpenPc → Prop
  | refused (e : HalError) : Next .locking (.returned (.error e))
  | left : Next .locking .dropped
  | failed (k : LeaseToken) (e : HalError) : Next (.opening k) (.cancelling e)
  | closed (e : HalError) : Next .rejected (.returned (.error e))
  | forgotten : Next .rejected .dropped

lemma Next.facts {pc' : OpenPc} (h : pc.Next pc') : (pc'.Bare → pc.Bare) ∧ ¬pc'.Arriving ∧
    ¬pc.Opened ∧ pc ≠ .dropped ∧ pc' ≠ .locking := by
  cases h <;> simp

end OpenPc

@[grind =] def Stage.Finished : Stage → Prop
  | .finished _ => True
  | _ => False

/-- What there is of one session. -/
structure View where
  task : Option OpenTask
  entry : Option SessionEntry
  actor : Option Actor
  guarded : Prop
  events : List EventKind
  done : Option (HalResult Unit)
  lease : ResourceId → Option ActiveLease

/-- The kinds of the events published about a session. -/
def State.eventsOf (s : State) (id : SessionId) : List EventKind :=
  (s.events.filter fun e => e.session = id).map RuntimeEvent.kind

def State.view (s : State) (id : SessionId) : View where
  task := s.opens.lookup id
  entry := s.registry.sessions.lookup id
  actor := s.actors.lookup id
  guarded := id ∈ s.guards
  events := s.eventsOf id
  done := s.registry.done.lookup id
  lease := s.registry.leases.heldBy id

namespace View

/-- The session leaves the registry, and its lease with it. -/
def leave (v : View) (result : HalResult Unit) : View :=
  match v.entry with
  | none => v
  | some e =>
    { v with
      entry := none
      lease := Function.update v.lease e.resource none
      done := some result }

/-- The session's lease is committed. -/
def exposed (v : View) : Bool :=
  v.entry.any fun e => (v.lease e.resource).any ActiveLease.committed

/-- What the registry's entry, the lease, the actor, the future, the guard and the events of
a session have to do with each other. -/
@[grind cases] structure Sound (v : View) : Prop where
  entry : ∀ e, v.entry = some e → ∃ t a, v.task = some t ∧ t.pc ≠ .locking ∧
    e.resource = t.resource ∧ v.lease e.resource = some a ∧ a.token = e.lease ∧
    (e.state = .active → a.committed = true) ∧
    (a.committed = true → e.actor = true ∧ t.pc.Opened) ∧
    v.events = if a.committed then [.sessionOpened] else []
  lease : ∀ r a, v.lease r = some a → ∃ e, v.entry = some e ∧ e.resource = r
  gone : v.entry = none → v.events = [] ∨
    v.events = [.sessionOpened, .sessionClosed] ∧ ∃ t, v.task = some t ∧ t.pc.Opened
  armed : ∀ t, v.task = some t → t.pc.Bare ∨ t.pc.Arriving →
    ∃ e, v.entry = some e ∧ e.actor = false
  guard : v.guarded → (∃ t, v.task = some t ∧ t.pc = .dropped) ∧
    ∀ e, v.entry = some e → e.actor = false
  bare : ∀ t, v.task = some t → t.pc.Bare → v.actor = none
  arriving : ∀ t, v.task = some t → t.pc.Arriving → v.actor = some { resource := t.resource }
  fresh : (∀ t, v.task = some t → t.pc = .locking) →
    v.entry = none ∧ v.actor = none ∧ v.events = [] ∧ v.done = none
  finished : ∀ a, v.actor = some a → a.stage.Finished → v.entry = none
  done : v.done.isSome → v.entry = none

/-- The moves of a view. In an orderly one no future is dropped while the native session of
its adapter arrives; the actor only dies in one that says so. -/
inductive Move (orderly dies : Prop) (v : View) : View → Prop
  | same : Move orderly dies v v
  | called (t : OpenTask) (h : v.task = none)
      (hpc : t.pc = .locking ∨ ∃ e, t.pc = .returned (.error e)) :
      Move orderly dies v { v with task := some t }
  | advanced (t : OpenTask) (pc : OpenPc) (ht : v.task = some t) (hpc : t.pc.Next pc) :
      Move orderly dies v { v with task := some { t with pc } }
  | reserved (t : OpenTask) (a : ActiveLease) (ht : v.task = some t) (hpc : t.pc = .locking)
      (ha : a.committed = false) :
      Move orderly dies v { v with
        task := some { t with pc := .opening a.token }
        entry := some
          { resource := t.resource, owner := t.owner, lease := a.token, state := .opening
            actor := false, cancelled := false }
        lease := Function.update v.lease t.resource (some a) }
  | arrived (t : OpenTask) (k : LeaseToken) (ht : v.task = some t) (hpc : t.pc = .opening k) :
      Move orderly dies v { v with
        task := some { t with pc := .finishing k }
        actor := some { resource := t.resource } }
  | committed (t : OpenTask) (k : LeaseToken) (e : SessionEntry) (a : ActiveLease)
      (ht : v.task = some t) (hpc : t.pc = .finishing k) (he : v.entry = some e)
      (ha : v.lease e.resource = some a) (hs : e.state = .opening) :
      Move orderly dies v { v with
        task := some { t with pc := .returned (.ok k) }
        entry := some { e with actor := true, state := .active }
        lease := Function.update v.lease e.resource (some { a with committed := true })
        events := v.events ++ [.sessionOpened] }
  | rejected (t : OpenTask) (k : LeaseToken) (e : SessionEntry) (ht : v.task = some t)
      (hpc : t.pc = .finishing k) (he : v.entry = some e) (hs : e.state = .closing) :
      Move orderly dies v { v with
        task := some { t with pc := .rejected }
        entry := some { e with actor := true }
        actor := v.actor.map fun a => { a with shutdown := true } }
  | gaveBack (t : OpenTask) (e e' : HalError) (ht : v.task = some t) (hpc : t.pc = .cancelling e) :
      Move orderly dies v
        { v.leave (.ok ()) with task := some { t with pc := .returned (.error e') } }
  | dropped (t : OpenTask) (ht : v.task = some t) (hpc : t.pc.Bare ∨ t.pc.Arriving)
      (ho : orderly → ¬t.pc.Arriving) :
      Move orderly dies v { v.leave (.ok ()) with task := some { t with pc := .dropped } }
  | abandoned (t : OpenTask) (ht : v.task = some t) (hpc : t.pc.Bare ∨ t.pc.Arriving)
      (ho : orderly → ¬t.pc.Arriving) :
      Move orderly dies v { v with task := some { t with pc := .dropped }, guarded := True }
  | guarded (b : Prop) (hg : v.guarded) :
      Move orderly dies v { v.leave (.ok ()) with guarded := b }
  | worked (f : SessionEntry → SessionEntry) (g : Actor → Actor)
      (hf : ∀ e, (f e).resource = e.resource ∧ (f e).owner = e.owner ∧ (f e).lease = e.lease ∧
        (f e).actor = e.actor ∧ ((f e).state = .active → e.state = .active))
      (hg : ∀ a, v.actor = some a → (g a).resource = a.resource ∧
        ((g a).stage.Finished ↔ a.stage.Finished) ∧ ((g a).stage = .died → dies ∨ a.stage = .died))
      (hv : ∀ t, v.task = some t → t.pc.Arriving → v.actor.map g = v.actor) :
      Move orderly dies v { v with entry := v.entry.map f, actor := v.actor.map g }
  | closed (a : Actor) (result : HalResult Unit) (ha : v.actor = some a)
      (hst : a.stage = .dropped result) :
      Move orderly dies v { v.leave result with
        actor := some { a with stage := .finished result }
        events := v.events ++ if v.exposed then [.sessionClosed] else [] }

variable {v v' : View} {orderly dies : Prop}

@[simp] lemma leave_task (result : HalResult Unit) : (v.leave result).task = v.task := by
  unfold leave
  split <;> rfl

@[simp] lemma leave_entry (result : HalResult Unit) : (v.leave result).entry = none := by
  unfold leave
  split
  next h => exact h
  · rfl

@[simp] lemma leave_actor (result : HalResult Unit) : (v.leave result).actor = v.actor := by
  unfold leave
  split <;> rfl

@[simp] lemma leave_guarded (result : HalResult Unit) :
    (v.leave result).guarded = v.guarded := by
  unfold leave
  split <;> rfl

@[simp] lemma leave_events (result : HalResult Unit) : (v.leave result).events = v.events := by
  unfold leave
  split <;> rfl

lemma Sound.leave_lease (h : v.Sound) (result : HalResult Unit) (r : ResourceId) :
    (v.leave result).lease r = none := by
  by_contra hr
  obtain ⟨a, ha⟩ := Option.ne_none_iff_exists'.mp hr
  unfold leave at ha
  split at ha
  next he =>
    obtain ⟨e, he', -⟩ := h.lease r a ha
    simp [he] at he'
  next e he =>
    simp only [Function.update_apply] at ha
    split at ha
    · cases ha
    next hne =>
      obtain ⟨e', he', rfl⟩ := h.lease r a ha
      rw [he, Option.some.injEq] at he'
      exact hne (he' ▸ rfl)

lemma Sound.of_gone (he : v.entry = none) (hl : ∀ r, v.lease r = none)
    (hev : v.events = [] ∨
      v.events = [.sessionOpened, .sessionClosed] ∧ ∃ t, v.task = some t ∧ t.pc.Opened)
    (hpc : ∃ t, v.task = some t ∧ t.pc ≠ .locking ∧ ¬t.pc.Bare ∧ ¬t.pc.Arriving)
    (hg : v.guarded → ∃ t, v.task = some t ∧ t.pc = .dropped) : v.Sound := by
  obtain ⟨t, ht, hlock, hbare, harr⟩ := hpc
  constructor
  · simp [he]
  · simp [hl]
  · exact fun _ => hev
  · intro t' ht' h
    obtain rfl : t = t' := by simpa [ht] using ht'
    exact h.elim (absurd · hbare) (absurd · harr)
  · exact fun h => ⟨hg h, by simp [he]⟩
  · intro t' ht' h
    obtain rfl : t = t' := by simpa [ht] using ht'
    exact absurd h hbare
  · intro t' ht' h
    obtain rfl : t = t' := by simpa [ht] using ht'
    exact absurd h harr
  · exact fun h => absurd (h t ht) hlock
  · exact fun _ _ _ => he
  · exact fun _ => he

lemma Sound.events_of_not_opened (h : v.Sound) (ht : v.task = some t) (ho : ¬t.pc.Opened) :
    v.events = [] := by
  rcases he : v.entry with _ | e
  · rcases h.gone he with hev | ⟨-, t', ht', ho'⟩
    · exact hev
    · obtain rfl := Option.mem_unique ht ht'
      exact absurd ho' ho
  · obtain ⟨t', a, ht', -, -, -, -, -, hcom, hev⟩ := h.entry e he
    obtain rfl := Option.mem_unique ht ht'
    rw [hev, if_neg fun hc => ho (hcom hc).2]

lemma Sound.events_cases (h : v.Sound) : v.events = [] ∨ v.events = [.sessionOpened] ∨
    v.events = [.sessionOpened, .sessionClosed] := by
  rcases he : v.entry with _ | e
  · exact (h.gone he).imp_right fun hev => .inr hev.1
  · obtain ⟨-, a, -, -, -, -, -, -, -, hev⟩ := h.entry e he
    rcases hc : a.committed with _ | _
    · exact .inl (by simp [hev, hc])
    · exact .inr (.inl (by simp [hev, hc]))

lemma Sound.closed_of_finished (h : v.Sound) (ha : v.actor = some a) (hf : a.stage.Finished)
    (ho : .sessionOpened ∈ v.events) : .sessionClosed ∈ v.events := by
  rcases h.gone (h.finished a ha hf) with hev | ⟨hev, -⟩
  · simp [hev] at ho
  · simp [hev]

lemma Sound.left (h : v.Sound) (ht : v.task = some t) (hpc : t.pc.Bare ∨ t.pc.Arriving)
    (hd : pc = .dropped ∨ ∃ e, pc = .returned (.error e)) :
    Sound { v.leave (.ok ()) with task := some { t with pc } } := by
  have hev := h.events_of_not_opened ht fun ho => by
    obtain ⟨o, r, pc⟩ := t
    cases pc <;> simp at hpc ho
  refine .of_gone (leave_entry _) (h.leave_lease _) (.inl (by simpa using hev)) ⟨_, rfl, ?_⟩ ?_
  · rcases hd with rfl | ⟨e, rfl⟩ <;> simp
  · intro hg
    obtain ⟨⟨t', ht', hpc'⟩, -⟩ := h.guard (by simpa using hg)
    obtain rfl : t = t' := by simpa [ht] using ht'
    simp [hpc'] at hpc

lemma Sound.worked {f : SessionEntry → SessionEntry} {g : Actor → Actor} (h : v.Sound)
    (hf : ∀ e, (f e).resource = e.resource ∧ (f e).owner = e.owner ∧ (f e).lease = e.lease ∧
      (f e).actor = e.actor ∧ ((f e).state = .active → e.state = .active))
    (hg : ∀ a, v.actor = some a → ((g a).stage.Finished ↔ a.stage.Finished))
    (hv : ∀ t, v.task = some t → t.pc.Arriving → v.actor.map g = v.actor) :
    Sound { v with entry := v.entry.map f, actor := v.actor.map g } where
  entry e' he' := by
    obtain ⟨e, he, rfl⟩ := Option.map_eq_some_iff.mp he'
    obtain ⟨t, a, ht, hpc, hr, hl, hk, hst, hcom, hev⟩ := h.entry e he
    obtain ⟨hfr, -, hfk, hfa, hfs⟩ := hf e
    rw [hfr, hfk, hfa]
    exact ⟨t, a, ht, hpc, hr, hl, hk, fun h => hst (hfs h), hcom, hev⟩
  lease r a hl := by
    obtain ⟨e, he, hr⟩ := h.lease r a hl
    exact ⟨f e, by simp [he], (hf e).1.trans hr⟩
  gone he := h.gone (by simpa using he)
  armed t ht hpc := by
    obtain ⟨e, he, ha⟩ := h.armed t ht hpc
    exact ⟨f e, by simp [he], (hf e).2.2.2.1.trans ha⟩
  guard hg := by
    refine ⟨(h.guard hg).1, fun e' he' => ?_⟩
    obtain ⟨e, he, rfl⟩ := Option.map_eq_some_iff.mp he'
    exact (hf e).2.2.2.1.trans ((h.guard hg).2 e he)
  bare t ht hpc := by simp [h.bare t ht hpc]
  arriving t ht hpc := (hv t ht hpc).trans (h.arriving t ht hpc)
  fresh ht := by
    obtain ⟨he, ha, hev⟩ := h.fresh ht
    simp [he, ha, hev]
  finished a' ha' hfin := by
    obtain ⟨a, ha, rfl⟩ := Option.map_eq_some_iff.mp ha'
    simp [h.finished a ha ((hg a ha).mp hfin)]
  done hd := by simp [h.done hd]

/-- A session whose actor has come as far as dropping the native session is past its open. -/
lemma Sound.task_of_dropped (h : v.Sound) (ha : v.actor = some a)
    (hst : a.stage = .dropped result) :
    ∃ t, v.task = some t ∧ t.pc ≠ .locking ∧ ¬t.pc.Bare ∧ ¬t.pc.Arriving := by
  have hn : ¬∀ t, v.task = some t → t.pc = .locking := fun hn => by
    simp [(h.fresh hn).2.1] at ha
  push Not at hn
  obtain ⟨t, ht, hlock⟩ := hn
  refine ⟨t, ht, hlock, fun hb => ?_, fun harr => ?_⟩
  · simp [h.bare t ht hb] at ha
  · rw [h.arriving t ht harr] at ha
    cases ha
    cases hst

lemma Sound.closed {a' : Actor} (h : v.Sound) (ha : v.actor = some a)
    (hst : a.stage = .dropped result) :
    Sound { v.leave result with
      actor := some a'
      events := v.events ++ if v.exposed then [.sessionClosed] else [] } := by
  obtain ⟨t, ht, hpc⟩ := h.task_of_dropped ha hst
  refine .of_gone (leave_entry _) (h.leave_lease _) ?_ ⟨t, by simpa using ht, hpc⟩ ?_
  · rcases he : v.entry with _ | e
    · simpa [exposed, he] using h.gone he
    · obtain ⟨t', k, ht', -, -, hl, -, -, hcom, hev⟩ := h.entry e he
      rcases hk : k.committed with _ | _
      · exact .inl (by simp [exposed, he, hl, hk, hev])
      · exact .inr ⟨by simp [exposed, he, hl, hk, hev], t', by simpa using ht', (hcom hk).2⟩
  · intro hg
    simpa using (h.guard (by simpa using hg)).1

lemma sound_empty {id : SessionId} : (({} : State).view id).Sound := by
  constructor <;> simp [State.view, State.eventsOf, LeaseTable.heldBy]

lemma Sound.move (h : v.Sound) (m : Move orderly dies v v') : v'.Sound := by
  cases m with
  | same => exact h
  | called t ht hpc =>
    obtain ⟨he, ha, hev⟩ := h.fresh (by simp [ht])
    constructor <;> grind -linarith
  | advanced t pc ht hpc =>
    obtain ⟨hb, hna, hno, hnd, hnl⟩ := hpc.facts
    constructor <;> grind -linarith
  | reserved t a ht hpc ha =>
    obtain ⟨he, hact, hev, hd⟩ := h.fresh (by simp [ht, hpc])
    constructor <;> grind -linarith
  | arrived t k ht hpc =>
    constructor <;> grind -linarith
  | committed t k e a ht hpc he ha hs =>
    constructor <;> grind -linarith
  | rejected t k e ht hpc he hs =>
    constructor <;> grind -linarith
  | gaveBack t e e' ht hpc => exact h.left ht (.inl (by simp [hpc])) (.inr ⟨e', rfl⟩)
  | dropped t ht hpc ho => exact h.left ht hpc (.inl rfl)
  | abandoned t ht hpc ho =>
    constructor <;> grind -linarith
  | guarded b hg =>
    obtain ⟨⟨t, ht, hpc⟩, -⟩ := h.guard hg
    have hev := h.events_of_not_opened ht (by simp [hpc])
    exact .of_gone (leave_entry _) (h.leave_lease _)
      (.inl (by simpa using hev)) ⟨t, by simpa using ht, by simp [hpc]⟩
      fun _ => ⟨t, by simpa using ht, hpc⟩
  | worked f g hf hg hv => exact h.worked hf (fun a ha => (hg a ha).2.1) hv
  | closed a result ha hst => exact h.closed ha (by simp [hst])

def Died (v : View) : Prop := ∃ a, v.actor = some a ∧ a.stage = .died

lemma Died.of_move (m : Move orderly dies v v') (h : v'.Died) : dies ∨ v.Died := by
  obtain ⟨a', ha', hst⟩ := h
  cases m with
  | arrived | closed =>
    cases ha'
    cases hst
  | rejected =>
    obtain ⟨a, ha, rfl⟩ := Option.map_eq_some_iff.mp ha'
    exact .inr ⟨a, ha, hst⟩
  | worked f g hf hg =>
    obtain ⟨a, ha, rfl⟩ := Option.map_eq_some_iff.mp ha'
    exact ((hg a ha).2.2 hst).imp_right fun h => ⟨a, ha, h⟩
  | gaveBack | dropped | guarded => exact .inr ⟨a', by simpa using ha', hst⟩
  | _ => exact .inr ⟨a', ha', hst⟩

end View

end RobotHal.Serial
