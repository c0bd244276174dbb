import RobotHal.Assoc
import RobotHal.Core
import RobotHal.Machine

/-!
The CAN lease table of the runtime: per resource any number of observers, at most one
controller and at most one maintainer, each first reserved and then committed.

The operations follow the source call by call. Below them, what each does to the leases of
the resource it names, and that it leaves every other resource alone.
-/

namespace RobotHal

structure CanReservation where
  resourceId : ResourceId
  sessionId : SessionId
  ownerId : OwnerId
  reservationId : LeaseId
  mode : LeaseMode
deriving DecidableEq, Repr

structure LeaseEntry where
  sessionId : SessionId
  ownerId : OwnerId
  token : LeaseToken
deriving DecidableEq, Repr

structure PendingEntry where
  reservationId : LeaseId
  ownerId : OwnerId
  mode : LeaseMode
deriving DecidableEq, Repr

structure ResourceLeases where
  lastGeneration : ℕ := 0
  pending : Assoc SessionId PendingEntry := ∅
  observes : Assoc SessionId LeaseEntry := ∅
  control : Option LeaseEntry := none
  maintenance : Option LeaseEntry := none

namespace ResourceLeases

def isEmpty (l : ResourceLeases) : Bool :=
  Assoc.isEmpty l.pending && Assoc.isEmpty l.observes && l.control.isNone && l.maintenance.isNone

def hasAnyLease (l : ResourceLeases) : Bool := !l.isEmpty

/-- The session is in one of the four containers. -/
def holds (l : ResourceLeases) (s : SessionId) : Bool :=
  (l.pending.lookup s).isSome || (l.observes.lookup s).isSome ||
    l.control.any (fun e => e.sessionId = s) || l.maintenance.any (fun e => e.sessionId = s)

/-- A reservation in `mode` is refused next to what is held. -/
def incompatible (l : ResourceLeases) (mode : LeaseMode) : Bool :=
  match mode with
  | .observe | .control =>
    l.maintenance.isSome || Assoc.any l.pending (fun p => p.mode = .maintenance) ||
      (mode = .control &&
        (l.control.isSome || Assoc.any l.pending (fun p => p.mode = .control)))
  | .maintenance => l.hasAnyLease

/-- The active lease of a session: observers first, then control, then maintenance. -/
def active (l : ResourceLeases) (s : SessionId) : Option LeaseEntry :=
  (l.observes.lookup s).or
    ((l.control.filter fun e => e.sessionId = s).or
      (l.maintenance.filter fun e => e.sessionId = s))

end ResourceLeases

def modeAllows (actual required : LeaseMode) : Bool :=
  match actual, required with
  | .observe, .observe => true
  | .control, .observe | .control, .control => true
  | .maintenance, _ => true
  | _, _ => false

structure CanLeaseTable where
  resources : Assoc ResourceId ResourceLeases := ∅

namespace CanLeaseTable

def conflict (r : ResourceId) (message : String) : HalError :=
  (HalError.new "runtime.lease.conflict" .conflict "can.open" false message).withResourceId r

def sessionClosed (r : ResourceId) (operation : String) : HalError :=
  (HalError.new "runtime.session.closed" .conflict operation false
    "the CAN session is closed").withResourceId r

/-- The errors of `validate` differ in name and message only. -/
def denied (name operation message : String) (r : ResourceId) : HalError :=
  (HalError.new name .conflict operation false message).withResourceId r

def generationExhausted (r : ResourceId) : HalError :=
  (HalError.new "runtime.lease.generation_exhausted" .internal "can.open" false
    "the CAN lease generation reached u64::MAX").withResourceId r

def reserve (t : CanLeaseTable) (r : ResourceId) (s : SessionId) (o : OwnerId) (mode : LeaseMode)
    (fresh : LeaseId) : CanLeaseTable × HalResult CanReservation :=
  let leases := (t.resources.lookup r).getD {}
  -- the entry is created before the checks, and stays when they fail
  let created : CanLeaseTable := ⟨t.resources.insert r leases⟩
  if leases.holds s then
    (created, .error (conflict r "the session already owns or is opening a CAN lease"))
  else if leases.incompatible mode then
    (created, .error (conflict r
      "the CAN lease is incompatible with an active or provisional lease"))
  else
    (⟨t.resources.insert r { leases with pending := leases.pending.insert s ⟨fresh, o, mode⟩ }⟩,
      .ok ⟨r, s, o, fresh, mode⟩)

/-- The pending entry is the one the reservation was handed out for. -/
def identifies (p : PendingEntry) (v : CanReservation) : Bool :=
  p.reservationId = v.reservationId && p.ownerId = v.ownerId && p.mode = v.mode

/-- Put a committed entry into the container of its mode. -/
def place (l : ResourceLeases) (mode : LeaseMode) (e : LeaseEntry) : ResourceLeases :=
  match mode with
  | .observe => { l with observes := l.observes.insert e.sessionId e }
  | .control => { l with control := some e }
  | .maintenance => { l with maintenance := some e }

def commit (t : CanLeaseTable) (v : CanReservation) (fresh : LeaseId) :
    CanLeaseTable × HalResult LeaseToken :=
  match t.resources.lookup v.resourceId with
  | none => (t, .error (conflict v.resourceId "the CAN reservation is no longer pending"))
  | some leases =>
    match leases.pending.lookup v.sessionId with
    | none => (t, .error (conflict v.resourceId "the CAN reservation is no longer pending"))
    | some p =>
      if !identifies p v then
        (t, .error (conflict v.resourceId "the CAN reservation identity is invalid"))
      else
        let rest := { leases with pending := leases.pending.erase v.sessionId }
        match checkedAdd leases.lastGeneration 1 with
        | none =>
          (⟨t.resources.insert v.resourceId rest⟩, .error (generationExhausted v.resourceId))
        | some generation =>
          let token : LeaseToken := ⟨fresh, generation, v.mode⟩
          (⟨t.resources.insert v.resourceId
              (place { rest with lastGeneration := generation } v.mode
                ⟨v.sessionId, v.ownerId, token⟩)⟩, .ok token)

def cancel (t : CanLeaseTable) (v : CanReservation) : CanLeaseTable × Bool :=
  match t.resources.lookup v.resourceId with
  | none => (t, false)
  | some leases =>
    if !(leases.pending.lookup v.sessionId).any (fun p => identifies p v) then (t, false)
    else
      let rest := { leases with pending := leases.pending.erase v.sessionId }
      -- a resource that never had a lease leaves no trace of the cancelled reservation
      (if rest.lastGeneration = 0 && rest.isEmpty then ⟨t.resources.erase v.resourceId⟩
        else ⟨t.resources.insert v.resourceId rest⟩, true)

def release (t : CanLeaseTable) (r : ResourceId) (s : SessionId) (token : LeaseToken) :
    CanLeaseTable × Bool :=
  match t.resources.lookup r with
  | none => (t, false)
  | some leases =>
    if (leases.observes.lookup s).any (fun e => e.token = token) then
      (⟨t.resources.insert r { leases with observes := leases.observes.erase s }⟩, true)
    else if leases.control.any (fun e => e.sessionId = s && e.token = token) then
      (⟨t.resources.insert r { leases with control := none }⟩, true)
    else if leases.maintenance.any (fun e => e.sessionId = s && e.token = token) then
      (⟨t.resources.insert r { leases with maintenance := none }⟩, true)
    else (t, false)

def validate (t : CanLeaseTable) (r : ResourceId) (s : SessionId) (o : OwnerId)
    (token : LeaseToken) (required : LeaseMode) (operation : String) : HalResult Unit :=
  match t.resources.lookup r with
  | none => .error (sessionClosed r operation)
  | some leases =>
    match leases.active s with
    | none =>
      if token.generation < leases.lastGeneration then
        .error (denied "runtime.lease.stale_generation" operation
          "the lease generation is no longer active" r)
      else .error (sessionClosed r operation)
    | some entry =>
      if entry.ownerId ≠ o then
        .error (denied "runtime.lease.owner_mismatch" operation
          "the CAN lease owner does not match the session owner" r)
      else if entry.token ≠ token then
        .error (denied
          (if token.generation < entry.token.generation then "runtime.lease.stale_generation"
            else "runtime.lease.invalid_token") operation
          "the CAN lease token does not match the active lease" r)
      else if !modeAllows entry.token.mode required then
        .error (denied "runtime.lease.mode_denied" operation
          "the CAN lease mode does not permit this operation" r)
      else .ok ()

/-! ### Calls on the table -/

inductive Call
  | reserve (r : ResourceId) (s : SessionId) (o : OwnerId) (mode : LeaseMode) (fresh : LeaseId)
  | commit (v : CanReservation) (fresh : LeaseId)
  | cancel (v : CanReservation)
  | release (r : ResourceId) (s : SessionId) (token : LeaseToken)
  | validate (r : ResourceId) (s : SessionId) (o : OwnerId) (token : LeaseToken)
      (required : LeaseMode) (operation : String)

inductive Answer
  | reserved (res : HalResult CanReservation)
  | committed (res : HalResult LeaseToken)
  | cancelled (done : Bool)
  | released (done : Bool)
  | validated (res : HalResult Unit)

def step (t : CanLeaseTable) : Call → CanLeaseTable × Answer
  | .reserve r s o mode fresh => ((t.reserve r s o mode fresh).1,
      .reserved (t.reserve r s o mode fresh).2)
  | .commit v fresh => ((t.commit v fresh).1, .committed (t.commit v fresh).2)
  | .cancel v => ((t.cancel v).1, .cancelled (t.cancel v).2)
  | .release r s token => ((t.release r s token).1, .released (t.release r s token).2)
  | .validate r s o token required operation =>
      (t, .validated (t.validate r s o token required operation))

def Call.resource : Call → ResourceId
  | .reserve r _ _ _ _ => r
  | .commit v _ => v.resourceId
  | .cancel v => v.resourceId
  | .release r _ _ => r
  | .validate r _ _ _ _ _ => r

/-- The answer neither handed anything out nor took anything back. -/
def Answer.Idle : Answer → Prop
  | .reserved (.ok _) | .committed (.ok _) | .cancelled true | .released true => False
  | _ => True

/-! ### What a call does to the leases of its resource -/

/-- The leases of a resource; a resource the table does not know has none. -/
def leasesOf (t : CanLeaseTable) (r : ResourceId) : ResourceLeases :=
  (t.resources.lookup r).getD {}

lemma leasesOf_of_lookup {t : CanLeaseTable} {r : ResourceId} {l : ResourceLeases}
    (h : t.resources.lookup r = some l) : t.leasesOf r = l := by simp [leasesOf, h]

lemma leasesOf_insert (t : CanLeaseTable) (r : ResourceId) (l : ResourceLeases) :
    leasesOf ⟨t.resources.insert r l⟩ = Function.update t.leasesOf r l := by
  funext q
  unfold leasesOf
  rw [Assoc.lookup_insert_ite, Function.update_apply]
  split <;> rfl

lemma leasesOf_erase (t : CanLeaseTable) (r : ResourceId) :
    leasesOf ⟨t.resources.erase r⟩ = Function.update t.leasesOf r {} := by
  funext q
  unfold leasesOf
  rw [Assoc.lookup_erase_ite, Function.update_apply]
  split <;> rfl

lemma eq_default_of_isEmpty {l : ResourceLeases} (hg : l.lastGeneration = 0)
    (h : l.isEmpty = true) : l = {} := by
  obtain ⟨g, p, o, c, m⟩ := l
  simp only [ResourceLeases.isEmpty, Bool.and_eq_true, Option.isNone_iff_eq_none] at h hg
  obtain ⟨⟨⟨hp, ho⟩, rfl⟩, rfl⟩ := h
  obtain rfl := Assoc.eq_empty_of_isEmpty hp
  obtain rfl := Assoc.eq_empty_of_isEmpty ho
  rw [hg]

/-- Everything a call can do to the leases `l` of the resource it names. -/
inductive Effect (l : ResourceLeases) : Call → Answer → ResourceLeases → Prop
  | idle (c : Call) (a : Answer) (h : a.Idle) : Effect l c a l
  | reserved (r : ResourceId) (s : SessionId) (o : OwnerId) (mode : LeaseMode) (fresh : LeaseId)
      (hs : l.holds s = false) (hm : l.incompatible mode = false) :
      Effect l (.reserve r s o mode fresh) (.reserved (.ok ⟨r, s, o, fresh, mode⟩))
        { l with pending := l.pending.insert s ⟨fresh, o, mode⟩ }
  | committed (v : CanReservation) (fresh : LeaseId)
      (hp : l.pending.lookup v.sessionId = some ⟨v.reservationId, v.ownerId, v.mode⟩)
      (hb : l.lastGeneration + 1 ≤ u64Max) :
      Effect l (.commit v fresh) (.committed (.ok ⟨fresh, l.lastGeneration + 1, v.mode⟩))
        (place { l with
            pending := l.pending.erase v.sessionId, lastGeneration := l.lastGeneration + 1 }
          v.mode ⟨v.sessionId, v.ownerId, ⟨fresh, l.lastGeneration + 1, v.mode⟩⟩)
  | exhausted (v : CanReservation) (fresh : LeaseId) (e : HalError)
      (hp : l.pending.lookup v.sessionId = some ⟨v.reservationId, v.ownerId, v.mode⟩) :
      Effect l (.commit v fresh) (.committed (.error e))
        { l with pending := l.pending.erase v.sessionId }
  | cancelled (v : CanReservation)
      (hp : l.pending.lookup v.sessionId = some ⟨v.reservationId, v.ownerId, v.mode⟩) :
      Effect l (.cancel v) (.cancelled true) { l with pending := l.pending.erase v.sessionId }
  | releasedObserve (r : ResourceId) (s : SessionId) (e : LeaseEntry)
      (he : l.observes.lookup s = some e) :
      Effect l (.release r s e.token) (.released true) { l with observes := l.observes.erase s }
  | releasedControl (r : ResourceId) (e : LeaseEntry) (he : l.control = some e) :
      Effect l (.release r e.sessionId e.token) (.released true) { l with control := none }
  | releasedMaintenance (r : ResourceId) (e : LeaseEntry) (he : l.maintenance = some e) :
      Effect l (.release r e.sessionId e.token) (.released true) { l with maintenance := none }

/-- The table after a call has the leases `l` for `r` and everything else as before. -/
def Became (t t' : CanLeaseTable) (r : ResourceId) (l : ResourceLeases) : Prop :=
  t'.leasesOf = Function.update t.leasesOf r l

lemma became_self (t : CanLeaseTable) (r : ResourceId) : Became t t r (t.leasesOf r) := by
  unfold Became
  rw [Function.update_eq_self]

lemma identifies_iff {p : PendingEntry} {v : CanReservation} :
    identifies p v = true ↔ p = ⟨v.reservationId, v.ownerId, v.mode⟩ := by
  obtain ⟨i, o, m⟩ := p
  simp only [identifies, Bool.and_eq_true, decide_eq_true_eq, PendingEntry.mk.injEq, and_assoc]

lemma reserve_effect (t : CanLeaseTable) (r : ResourceId) (s : SessionId) (o : OwnerId)
    (mode : LeaseMode) (fresh : LeaseId) :
    ∃ l', Effect (t.leasesOf r) (.reserve r s o mode fresh)
        (.reserved (t.reserve r s o mode fresh).2) l' ∧
      Became t (t.reserve r s o mode fresh).1 r l' := by
  unfold reserve
  simp only
  split
  · exact ⟨_, .idle _ _ trivial, leasesOf_insert t r _⟩
  · rename_i hs
    split
    · exact ⟨_, .idle _ _ trivial, leasesOf_insert t r _⟩
    · rename_i hm
      exact ⟨_, .reserved r s o mode fresh (Bool.not_eq_true _ ▸ hs) (Bool.not_eq_true _ ▸ hm),
        leasesOf_insert t r _⟩

lemma commit_effect (t : CanLeaseTable) (v : CanReservation) (fresh : LeaseId) :
    ∃ l', Effect (t.leasesOf v.resourceId) (.commit v fresh) (.committed (t.commit v fresh).2) l' ∧
      Became t (t.commit v fresh).1 v.resourceId l' := by
  unfold commit
  split
  · exact ⟨_, .idle _ _ trivial, became_self t _⟩
  rename_i l hl
  obtain rfl := leasesOf_of_lookup hl
  split
  · exact ⟨_, .idle _ _ trivial, became_self t _⟩
  rename_i p hp
  split
  · exact ⟨_, .idle _ _ trivial, became_self t _⟩
  rename_i hv
  have hv : p = ⟨v.reservationId, v.ownerId, v.mode⟩ := identifies_iff.mp (by simpa using hv)
  subst hv
  simp only
  split
  · exact ⟨_, .exhausted v fresh _ hp, leasesOf_insert t _ _⟩
  · rename_i g hg
    obtain ⟨rfl, hb⟩ := checkedAdd_eq_some.mp hg
    exact ⟨_, .committed v fresh hp hb, leasesOf_insert t _ _⟩

lemma cancel_effect (t : CanLeaseTable) (v : CanReservation) :
    ∃ l', Effect (t.leasesOf v.resourceId) (.cancel v) (.cancelled (t.cancel v).2) l' ∧
      Became t (t.cancel v).1 v.resourceId l' := by
  unfold cancel
  split
  · exact ⟨_, .idle _ _ trivial, became_self t _⟩
  rename_i l hl
  obtain rfl := leasesOf_of_lookup hl
  split
  · exact ⟨_, .idle _ _ trivial, became_self t _⟩
  rename_i hv
  simp only [Bool.not_eq_true', Bool.not_eq_false, Option.any_eq_true] at hv
  obtain ⟨p, hp, hv⟩ := hv
  rw [identifies_iff.mp hv] at hp
  refine ⟨_, .cancelled v hp, ?_⟩
  simp only
  split
  · -- nothing is left, so the removed entry reads back as the default one
    rename_i he
    simp only [Bool.and_eq_true, decide_eq_true_eq] at he
    have hd := eq_default_of_isEmpty (l := { t.leasesOf v.resourceId with
      pending := (t.leasesOf v.resourceId).pending.erase v.sessionId }) he.1 he.2
    rw [hd]
    exact leasesOf_erase t _
  · exact leasesOf_insert t _ _

lemma release_effect (t : CanLeaseTable) (r : ResourceId) (s : SessionId) (token : LeaseToken) :
    ∃ l', Effect (t.leasesOf r) (.release r s token) (.released (t.release r s token).2) l' ∧
      Became t (t.release r s token).1 r l' := by
  unfold release
  split
  · exact ⟨_, .idle _ _ trivial, became_self t _⟩
  rename_i l hl
  obtain rfl := leasesOf_of_lookup hl
  split
  · rename_i h
    simp only [Option.any_eq_true, decide_eq_true_eq] at h
    obtain ⟨e, he, rfl⟩ := h
    exact ⟨_, .releasedObserve r s e he, leasesOf_insert t _ _⟩
  split
  · rename_i h
    simp only [Option.any_eq_true, Bool.and_eq_true, decide_eq_true_eq] at h
    obtain ⟨e, he, rfl, rfl⟩ := h
    exact ⟨_, .releasedControl r e he, leasesOf_insert t _ _⟩
  split
  · rename_i h
    simp only [Option.any_eq_true, Bool.and_eq_true, decide_eq_true_eq] at h
    obtain ⟨e, he, rfl, rfl⟩ := h
    exact ⟨_, .releasedMaintenance r e he, leasesOf_insert t _ _⟩
  · exact ⟨_, .idle _ _ trivial, became_self t _⟩

/-- **One call**: an effect on the resource it names, nothing anywhere else. -/
theorem step_effect (t : CanLeaseTable) (c : Call) :
    ∃ l', Effect (t.leasesOf c.resource) c (t.step c).2 l' ∧
      Became t (t.step c).1 c.resource l' := by
  cases c with
  | reserve r s o mode fresh => exact reserve_effect t r s o mode fresh
  | commit v fresh => exact commit_effect t v fresh
  | cancel v => exact cancel_effect t v
  | release r s token => exact release_effect t r s token
  | validate r s o token required operation => exact ⟨_, .idle _ _ trivial, became_self t _⟩

/-- A property of single resources that every effect keeps holds of all of them after a run. -/
theorem leases_invariant {P : ResourceLeases → Prop} (h0 : P {})
    (hstep : ∀ l c a l', Effect l c a l' → P l → P l') (calls : List Call) (r : ResourceId) :
    P ((Machine.final step {} calls).leasesOf r) := by
  refine Machine.trace_induction step (P := fun _ t => ∀ r, P (leasesOf t r)) ?_ ?_ calls r
  · exact fun _ => h0
  · intro _ t c ih q
    obtain ⟨l', he, hb⟩ := step_effect t c
    rw [hb, Function.update_apply]
    split
    · exact hstep _ _ _ _ he (ih _)
    · exact ih q

end CanLeaseTable

end RobotHal
