import RobotHal.Assoc
import RobotHal.Core
import RobotHal.Machine

/-!
The exclusive lease table behind serial, USB, GPIO and camera sessions: one lease per
resource, numbered by a generation that a reservation released before it was committed
gives back.
-/

namespace RobotHal

variable {t : LeaseTable} {r : ResourceId} {s : SessionId}
variable {o : OwnerId} {f : LeaseId} {k : LeaseToken}

structure ActiveLease where
  sessionId : SessionId
  ownerId : OwnerId
  token : LeaseToken
  committed : Bool
deriving DecidableEq, Repr

structure LeaseTable where
  currentGenerations : Assoc ResourceId ℕ := ∅
  active : Assoc ResourceId ActiveLease := ∅

namespace LeaseTable

/-- The errors of `validate` are conflicts and differ in name and message. -/
def denied (name operation message : String) (r : ResourceId) : HalError :=
  (runtimeError name .conflict operation false message).withResourceId r

def leaseConflict (r : ResourceId) : HalError :=
  denied "runtime.lease.conflict" "serial.open" "the resource already has an active control lease" r

def generationExhausted (r : ResourceId) : HalError :=
  (runtimeError "runtime.lease.generation_exhausted" .internal "serial.open" false
    "the resource lease generation reached u64::MAX").withResourceId r

def staleGeneration (r : ResourceId) (generation current : ℕ) (operation : String) : HalError :=
  denied "runtime.lease.stale_generation" operation
    ("lease generation " ++ toString generation ++ " is older than current generation " ++
      toString current) r

def currentGeneration (t : LeaseTable) (r : ResourceId) : ℕ :=
  (t.currentGenerations.lookup r).getD 0

def reserveControl (t : LeaseTable) (r : ResourceId) (s : SessionId) (o : OwnerId)
    (fresh : LeaseId) : LeaseTable × HalResult LeaseToken :=
  if (t.active.lookup r).isSome then (t, .error (leaseConflict r))
  else
    let current := t.currentGeneration r
    match checkedAdd current 1 with
    | none =>
      -- the counter's entry was created by the lookup
      ({ t with currentGenerations := t.currentGenerations.insert r current },
        .error (generationExhausted r))
    | some generation =>
      let token : LeaseToken := ⟨fresh, generation, .control⟩
      (⟨t.currentGenerations.insert r generation, t.active.insert r ⟨s, o, token, false⟩⟩,
        .ok token)

/-- The shared body of `commit` and `quarantine`. -/
def keep (t : LeaseTable) (r : ResourceId) (s : SessionId) (token : LeaseToken) :
    LeaseTable × Bool :=
  match t.active.lookup r with
  | none => (t, false)
  | some a =>
    if a.sessionId ≠ s || a.token ≠ token then (t, false)
    else ({ t with active := t.active.insert r { a with committed := true } }, true)

def commit (t : LeaseTable) (r : ResourceId) (s : SessionId) (token : LeaseToken) :
    LeaseTable × Bool := t.keep r s token

/-- Retains a reservation's generation while its worker still owns native resources. -/
def quarantine (t : LeaseTable) (r : ResourceId) (s : SessionId) (token : LeaseToken) :
    LeaseTable × Bool := t.keep r s token

def validate (t : LeaseTable) (r : ResourceId) (s : SessionId) (o : OwnerId) (lease : LeaseToken)
    (operation : String) : HalResult Unit :=
  if lease.generation < t.currentGeneration r then
    .error (staleGeneration r lease.generation (t.currentGeneration r) operation)
  else
    match t.active.lookup r with
    | none => .error (denied "runtime.session.closed" operation "the serial session is closed" r)
    | some a =>
      if a.sessionId ≠ s then
        .error (denied "runtime.lease.invalid_token" operation
          "the lease does not belong to the requested session" r)
      else if a.ownerId ≠ o then
        .error (denied "runtime.lease.owner_mismatch" operation
          "the lease owner does not match the session owner" r)
      else if a.token ≠ lease then
        .error (denied "runtime.lease.invalid_token" operation
          "the lease token does not match the active lease" r)
      else .ok ()

/-- Takes an uncommitted reservation's generation back. -/
def rollBack (generations : Assoc ResourceId ℕ) (r : ResourceId) (generation : ℕ) :
    Assoc ResourceId ℕ :=
  if generation = 1 then generations.erase r else generations.insert r (generation - 1)

def release (t : LeaseTable) (r : ResourceId) (s : SessionId) : LeaseTable × Bool :=
  match t.active.lookup r with
  | none => (t, false)
  | some a =>
    if a.sessionId ≠ s then (t, false)
    else
      (⟨if !a.committed && t.currentGenerations.lookup r = some a.token.generation then
            rollBack t.currentGenerations r a.token.generation
          else t.currentGenerations,
        t.active.erase r⟩, a.committed)

/-! ### Calls on the table -/

inductive Call
  | reserveControl (r : ResourceId) (s : SessionId) (o : OwnerId) (fresh : LeaseId)
  | commit (r : ResourceId) (s : SessionId) (token : LeaseToken)
  | quarantine (r : ResourceId) (s : SessionId) (token : LeaseToken)
  | release (r : ResourceId) (s : SessionId)
  | validate (r : ResourceId) (s : SessionId) (o : OwnerId) (token : LeaseToken)
      (operation : String)

inductive Answer
  | reserved (res : HalResult LeaseToken)
  | kept (done : Bool)
  | released (committed : Bool)
  | validated (res : HalResult Unit)

def step (t : LeaseTable) : Call → LeaseTable × Answer
  | .reserveControl r s o fresh =>
    ((t.reserveControl r s o fresh).1, .reserved (t.reserveControl r s o fresh).2)
  | .commit r s token => ((t.commit r s token).1, .kept (t.commit r s token).2)
  | .quarantine r s token => ((t.quarantine r s token).1, .kept (t.quarantine r s token).2)
  | .release r s => ((t.release r s).1, .released (t.release r s).2)
  | .validate r s o token operation => (t, .validated (t.validate r s o token operation))

def Call.resource : Call → ResourceId
  | .reserveControl r _ _ _ => r
  | .commit r _ _ => r
  | .quarantine r _ _ => r
  | .release r _ => r
  | .validate r _ _ _ _ => r

/-! ### What a call does to its resource -/

/-- The counter and the lease of one resource. -/
@[ext]
structure Slot where
  current : ℕ := 0
  active : Option ActiveLease := none

def slotOf (t : LeaseTable) (r : ResourceId) : Slot := ⟨t.currentGeneration r, t.active.lookup r⟩

/-- Everything a call can do to the slot of the resource it names. -/
inductive Effect (x : Slot) : Call → Answer → Slot → Prop
  | refused (r : ResourceId) (s : SessionId) (o : OwnerId) (fresh : LeaseId) (e : HalError) :
      Effect x (.reserveControl r s o fresh) (.reserved (.error e)) x
  | reserved (r : ResourceId) (s : SessionId) (o : OwnerId) (fresh : LeaseId)
      (hn : x.active = none) (hb : x.current + 1 ≤ u64Max) :
      Effect x (.reserveControl r s o fresh) (.reserved (.ok ⟨fresh, x.current + 1, .control⟩))
        ⟨x.current + 1, some ⟨s, o, ⟨fresh, x.current + 1, .control⟩, false⟩⟩
  | unkept (c : Call) : Effect x c (.kept false) x
  | kept (c : Call) (r : ResourceId) (a : ActiveLease) (ha : x.active = some a)
      (hc : c = .commit r a.sessionId a.token ∨ c = .quarantine r a.sessionId a.token) :
      Effect x c (.kept true) { x with active := some { a with committed := true } }
  | unreleased (r : ResourceId) (s : SessionId)
      (hs : ∀ a, x.active = some a → a.sessionId ≠ s) : Effect x (.release r s) (.released false) x
  | released (r : ResourceId) (a : ActiveLease) (ha : x.active = some a) :
      Effect x (.release r a.sessionId) (.released a.committed)
        ⟨if a.committed = false ∧ x.current = a.token.generation then a.token.generation - 1
          else x.current, none⟩
  | validated (r : ResourceId) (s : SessionId) (o : OwnerId) (token : LeaseToken)
      (operation : String) (res : HalResult Unit) :
      Effect x (.validate r s o token operation) (.validated res) x

def Became (t t' : LeaseTable) (r : ResourceId) (x : Slot) : Prop :=
  t'.slotOf = Function.update t.slotOf r x

lemma became_iff {t' : LeaseTable} {x : Slot} :
    Became t t' r x ↔ ∀ q, t'.currentGeneration q =
        (if q = r then x.current else t.currentGeneration q) ∧
      t'.active.lookup q = (if q = r then x.active else t.active.lookup q) := by
  unfold Became
  rw [funext_iff]
  refine forall_congr' fun q => ?_
  rw [Function.update_apply]
  split <;> simp [slotOf, Slot.ext_iff]

lemma became_self (t : LeaseTable) (r : ResourceId) : Became t t r (t.slotOf r) := by
  unfold Became
  rw [Function.update_eq_self]

lemma currentGeneration_insert (t : LeaseTable) (r q : ResourceId) (g : ℕ)
    (act : Assoc ResourceId ActiveLease) :
    currentGeneration ⟨t.currentGenerations.insert r g, act⟩ q =
      if q = r then g else t.currentGeneration q := by
  unfold currentGeneration
  rw [Assoc.lookup_insert_ite]
  split <;> rfl

lemma currentGeneration_rollBack (t : LeaseTable) (r q : ResourceId) (g : ℕ)
    (act : Assoc ResourceId ActiveLease) :
    currentGeneration ⟨rollBack t.currentGenerations r g, act⟩ q =
      if q = r then g - 1 else t.currentGeneration q := by
  unfold currentGeneration rollBack
  by_cases h : g = 1
  · rw [if_pos h, Assoc.lookup_erase_ite]
    split <;> simp [h]
  · rw [if_neg h, Assoc.lookup_insert_ite]
    split <;> rfl

lemma reserveControl_effect (t : LeaseTable) (r : ResourceId) (s : SessionId) (o : OwnerId)
    (fresh : LeaseId) :
    ∃ x, Effect (t.slotOf r) (.reserveControl r s o fresh)
        (.reserved (t.reserveControl r s o fresh).2) x ∧
      Became t (t.reserveControl r s o fresh).1 r x := by
  unfold reserveControl
  split
  · exact ⟨_, .refused r s o fresh _, became_self t r⟩
  rename_i hn
  simp only
  split
  · refine ⟨_, .refused r s o fresh _, became_iff.mpr fun q => ?_⟩
    rw [currentGeneration_insert]
    refine ⟨rfl, ?_⟩
    split
    · rename_i hq; subst hq; rfl
    · rfl
  · rename_i g hg
    obtain ⟨rfl, hb⟩ := checkedAdd_eq_some.mp hg
    have hn : (t.slotOf r).active = none := by simpa [slotOf] using hn
    refine ⟨_, .reserved r s o fresh hn hb, became_iff.mpr fun q => ?_⟩
    rw [currentGeneration_insert, Assoc.lookup_insert_ite]
    exact ⟨rfl, rfl⟩

lemma keep_effect (t : LeaseTable) (r : ResourceId) (s : SessionId) (token : LeaseToken) (c : Call)
    (hc : c = .commit r s token ∨ c = .quarantine r s token) :
    ∃ x, Effect (t.slotOf r) c (.kept (t.keep r s token).2) x ∧
      Became t (t.keep r s token).1 r x := by
  unfold keep
  split
  · exact ⟨_, .unkept c, became_self t r⟩
  rename_i a ha
  split
  · exact ⟨_, .unkept c, became_self t r⟩
  rename_i hv
  simp only [Bool.or_eq_true, decide_eq_true_eq, not_or, not_not] at hv
  obtain ⟨rfl, rfl⟩ := hv
  refine ⟨_, .kept c r a ha hc, became_iff.mpr fun q => ?_⟩
  rw [Assoc.lookup_insert_ite]
  refine ⟨?_, rfl⟩
  split
  · rename_i hq; subst hq; rfl
  · rfl

lemma release_effect (t : LeaseTable) (r : ResourceId) (s : SessionId) :
    ∃ x, Effect (t.slotOf r) (.release r s) (.released (t.release r s).2) x ∧
      Became t (t.release r s).1 r x := by
  unfold release
  split
  · rename_i hn
    have hs : ∀ a, (t.slotOf r).active = some a → a.sessionId ≠ s := by simp [slotOf, hn]
    exact ⟨_, .unreleased r s hs, became_self t r⟩
  rename_i a ha
  split
  · rename_i hs
    have hs : ∀ b, (t.slotOf r).active = some b → b.sessionId ≠ s := by
      simpa [slotOf, ha] using hs
    exact ⟨_, .unreleased r s hs, became_self t r⟩
  rename_i hs
  obtain rfl : a.sessionId = s := by simpa using hs
  refine ⟨_, .released r a ha, became_iff.mpr fun q => ⟨?_, Assoc.lookup_erase_ite _ _ _⟩⟩
  have hx : (t.slotOf r).current = t.currentGeneration r := rfl
  rw [hx]
  by_cases hc : a.committed = false ∧ t.currentGenerations.lookup r = some a.token.generation
  · have hg : t.currentGeneration r = a.token.generation := by simp [currentGeneration, hc.2]
    have hback : (if a.committed = false ∧ t.currentGeneration r = a.token.generation then
        a.token.generation - 1 else t.currentGeneration r) = a.token.generation - 1 :=
      if_pos ⟨hc.1, hg⟩
    rw [if_pos (by simpa using hc), currentGeneration_rollBack, hback]
  · rw [if_neg (by simpa using hc)]
    have hsame : (if a.committed = false ∧ t.currentGeneration r = a.token.generation then
        a.token.generation - 1 else t.currentGeneration r) = t.currentGeneration r := by
      split
      · -- the counter has no entry and reads as `0`
        rename_i h
        cases hl : t.currentGenerations.lookup r with
        | none => simp [currentGeneration, hl] at h ⊢; omega
        | some g => simp_all [currentGeneration]
      · rfl
    rw [hsame]
    split
    · rename_i hq; subst hq; rfl
    · rfl

/-- **One call**: an effect on the slot it names, nothing anywhere else. -/
theorem step_effect (t : LeaseTable) (c : Call) :
    ∃ x, Effect (t.slotOf c.resource) c (t.step c).2 x ∧ Became t (t.step c).1 c.resource x := by
  cases c with
  | reserveControl r s o fresh => exact reserveControl_effect t r s o fresh
  | commit r s token => exact keep_effect t r s token _ (.inl rfl)
  | quarantine r s token => exact keep_effect t r s token _ (.inr rfl)
  | release r s => exact release_effect t r s
  | validate r s o token operation =>
    exact ⟨_, .validated r s o token operation _, became_self t r⟩

/-! ### Who holds a resource -/

/-- The session, owner and token of an active lease, committed or not. -/
@[ext]
structure Holder where
  session : SessionId
  owner : OwnerId
  token : LeaseToken
deriving DecidableEq

def holder (t : LeaseTable) (r : ResourceId) : Option Holder :=
  (t.active.lookup r).map fun a => ⟨a.sessionId, a.ownerId, a.token⟩

lemma holder_reserveControl_ok (h : (t.reserveControl r s o f).2 = .ok k) :
    t.holder r = none ∧
      (t.reserveControl r s o f).1.holder = Function.update t.holder r (some ⟨s, o, k⟩) := by
  unfold reserveControl at h ⊢
  split at h
  · cases h
  rename_i hn
  rw [if_neg hn]
  simp only at h ⊢
  split at h
  · cases h
  · rename_i g hg
    obtain rfl := Except.ok.inj h
    refine ⟨by simpa [holder] using hn, ?_⟩
    funext q
    rw [Function.update_apply]
    simp only [holder, Assoc.lookup_insert_ite]
    split <;> rfl

lemma holder_reserveControl_error {e : HalError} (h : (t.reserveControl r s o f).2 = .error e) :
    (t.reserveControl r s o f).1.holder = t.holder := by
  unfold reserveControl at h ⊢
  split
  · rfl
  · rename_i hn
    rw [if_neg hn] at h
    simp only at h ⊢
    split
    · rfl
    · rename_i g hg
      rw [hg] at h; cases h

@[simp] lemma holder_keep (t : LeaseTable) (r : ResourceId) (s : SessionId) (k : LeaseToken) :
    (t.keep r s k).1.holder = t.holder := by
  unfold keep
  split
  · rfl
  rename_i a ha
  split
  · rfl
  funext q
  simp only [holder, Assoc.lookup_insert_ite]
  split
  · rename_i hq; subst hq; rw [ha]; rfl
  · rfl

lemma keep_eq_true : (t.keep r s k).2 = true ↔ ∃ o, t.holder r = some ⟨s, o, k⟩ := by
  unfold keep holder
  cases ha : t.active.lookup r with
  | none => simp
  | some a =>
    simp only
    split
    · rename_i h
      simp only [ne_eq, Bool.or_eq_true, decide_eq_true_eq] at h
      simp only [Bool.false_eq_true, Option.map_some, Option.some.injEq, Holder.mk.injEq,
        false_iff, not_exists]
      rintro o ⟨rfl, -, rfl⟩
      simp at h
    · rename_i h
      simpa using h

/-- The lease of a resource taken away from a session, if it has it. -/
def unhold (h : ResourceId → Option Holder) (r : ResourceId) (s : SessionId) :
    ResourceId → Option Holder :=
  if (h r).any (fun x => x.session = s) then Function.update h r none else h

lemma holder_release (t : LeaseTable) (r : ResourceId) (s : SessionId) :
    (t.release r s).1.holder = unhold t.holder r s := by
  unfold release unhold
  cases ha : t.active.lookup r with
  | none => simp [holder, ha]
  | some a =>
    have hh : t.holder r = some ⟨a.sessionId, a.ownerId, a.token⟩ := by simp [holder, ha]
    simp only [hh, Option.any_some, decide_eq_true_eq]
    by_cases hs : a.sessionId = s
    · rw [if_neg (by simpa using hs), if_pos hs]
      funext q
      rw [Function.update_apply]
      unfold holder
      rw [Assoc.lookup_erase_ite]
      split <;> rfl
    · rw [if_pos hs, if_neg hs]

lemma unhold_apply {h : ResourceId → Option Holder} {q : ResourceId} {x : Holder} :
    unhold h r s q = some x ↔ h q = some x ∧ ¬(q = r ∧ x.session = s) := by
  unfold unhold
  by_cases hq : q = r
  · subst hq
    cases hh : h q with
    | none => simp [hh]
    | some y =>
      by_cases hs : y.session = s
      · simp only [Option.any_some, hs, decide_true, if_true, Function.update_self, reduceCtorEq,
          Option.some.injEq, true_and, false_iff, not_and, not_not]
        rintro rfl; exact hs
      · simp only [Option.any_some, hs, decide_false, Bool.false_eq_true, if_false, hh,
          Option.some.injEq, true_and, iff_self_and]
        rintro rfl; exact hs
  · split
    · rw [Function.update_of_ne hq]; simp [hq]
    · simp [hq]

end LeaseTable

end RobotHal
