import RobotHal.WorkerManager

/-!
Tearing an owner down on the USB, GPIO and camera managers.

Whether a lease is ever released depends on who is still bound to release it: the open
that reserved it, a reaper, or whoever finishes its session. The view below keeps exactly
that of a manager's state, and a step of the manager is a few moves of the view.
-/

namespace RobotHal.WorkerManager

open LeaseTable (Holder unhold unhold_apply)

variable {pc : OpenPc} {r : ResourceId} {k : LeaseToken} {reapers : List Reaper}

/-- The call has neither returned nor been dropped. -/
def OpenPc.InFlight : OpenPc → Prop
  | .returned _ | .dropped => False
  | _ => True

instance : DecidablePred OpenPc.InFlight := fun pc => by
  cases pc <;> unfold OpenPc.InFlight <;> infer_instance

/-- The call holds a reservation that it alone is bound to release. -/
def OpenPc.Holds : OpenPc → Prop
  | .awaiting _ | .releasing _ | .closing _ | .committing _ | .cancelling _ => True
  | _ => False

instance : DecidablePred OpenPc.Holds := fun pc => by
  cases pc <;> unfold OpenPc.Holds <;> infer_instance

/-- The call has not reserved anything yet. -/
def OpenPc.Early : OpenPc → Prop
  | .enumerating | .locking => True
  | _ => False

def OpenPc.lease : OpenPc → Option LeaseToken
  | .awaiting k | .closing k | .committing k | .cancelling k => some k
  | _ => none

/-- What a revocation is bound to do: once it has listed the sessions of the owner, give a reaper
to each in `todo`. -/
structure Duty where
  owner : OwnerId
  listed : Bool
  todo : List Target

/-- The sessions a revocation has still to give a reaper. The camera manager gives all of them
one before it waits for the first. -/
def RevokePc.todo (k : Kind) : RevokePc → List Target
  | .requesting _ all => all
  | .waiting _ rest _ | .finishing _ rest _ => if k = .camera then [] else rest
  | _ => []

def RevokeTask.duty (k : Kind) (t : RevokeTask) : Duty :=
  ⟨t.owner, t.pc ≠ .locking, t.pc.todo k⟩

/-- Who holds what, and who is bound to give it back. -/
structure View where
  holder : ResourceId → Option Holder
  session : SessionId → Option (ResourceId × OwnerId)
  opening : SessionId → Option OpenTask
  reapers : List Reaper
  revoke : ℕ → Option Duty

lemma OpenPc.Holds.inFlight (h : pc.Holds) : pc.InFlight := by
  cases pc <;> first | exact h | trivial

lemma OpenPc.Holds.not_early (h : pc.Holds) : ¬pc.Early := by
  cases pc <;> first | exact h.elim | exact id

/-- Some revocation of the owner has listed its sessions. -/
def View.Revoked (v : View) (o : OwnerId) : Prop :=
  ∃ n d, v.revoke n = some d ∧ d.owner = o ∧ d.listed = true

/-- No open of the owner is in flight. -/
def View.NoOpen (v : View) (o : OwnerId) : Prop :=
  ∀ id t, v.opening id = some t → t.owner = o → ¬t.pc.InFlight

/-- The revocation has to see to it that the session gets a reaper: it has listed it, or will. -/
def View.Owed (v : View) (d : Duty) (x : Target) : Prop :=
  if d.listed then x ∈ d.todo else v.session x.1 = some (x.2, d.owner)

/-- The session is gone or has a reaper. -/
def View.Attended (v : View) (id : SessionId) : Prop :=
  .session id ∈ v.reapers ∨ v.session id = none

/-- The moves of a view. For the owner `o` they are those of an orderly teardown: no open is
dropped with a reservation, none runs into the revocation, and the revocation leaves no
session without a reaper. -/
inductive Move (o : OwnerId) (v : View) : View → Prop
  | openCall (id : SessionId) (p : OwnerId) (r : ResourceId) (hid : v.opening id = none)
      (ho : p = o → ¬v.Revoked o) :
      Move o v { v with opening := Function.update v.opening id (some ⟨p, r, .enumerating⟩) }
  | advance (id : SessionId) (t : OpenTask) (pc : OpenPc) (ht : v.opening id = some t)
      (hf : t.pc.InFlight) (hh : pc.Holds ↔ t.pc.Holds) (he : pc.Early → t.pc.Early)
      (hk : ∀ k, pc.lease = some k → t.pc.lease = some k) :
      Move o v { v with opening := Function.update v.opening id (some { t with pc }) }
  | reserved (id : SessionId) (t : OpenTask) (k : LeaseToken) (pc : OpenPc)
      (ht : v.opening id = some t) (hpc : t.pc = .locking) (hn : v.holder t.resource = none)
      (hh : pc.Holds) (hk : ∀ k', pc.lease = some k' → k' = k) :
      Move o v { v with
        holder := Function.update v.holder t.resource (some ⟨id, t.owner, k⟩)
        opening := Function.update v.opening id (some { t with pc }) }
  | handed (id : SessionId) (t : OpenTask) (k : LeaseToken) (e : HalError)
      (ht : v.opening id = some t) (hh : t.pc.Holds) :
      Move o v { v with
        reapers := v.reapers ++ [.reservation t.resource id k]
        opening := Function.update v.opening id (some { t with pc := .returned (.error e) }) }
  | gaveBack (id : SessionId) (t : OpenTask) (e : HalError)
      (ht : v.opening id = some t) (hh : t.pc.Holds) :
      Move o v { v with
        holder := unhold v.holder t.resource id
        opening := Function.update v.opening id (some { t with pc := .returned (.error e) }) }
  | committed (id : SessionId) (t : OpenTask) (k : LeaseToken) (ht : v.opening id = some t)
      (hpc : t.pc = .committing k) :
      Move o v { v with
        session := Function.update v.session id (some (t.resource, t.owner))
        opening := Function.update v.opening id (some { t with pc := .returned (.ok (id, k)) }) }
  | refused (id : SessionId) (t : OpenTask) (k : LeaseToken) (v' : View)
      (ht : v.opening id = some t) (hpc : t.pc = .committing k)
      (hno : ∀ p, v.holder t.resource ≠ some ⟨id, p, k⟩) : Move o v v'
  | dropped (id : SessionId) (t : OpenTask) (ht : v.opening id = some t) (hf : t.pc.InFlight)
      (ho : t.owner = o → ¬t.pc.Holds) :
      Move o v { v with opening := Function.update v.opening id (some { t with pc := .dropped }) }
  | reaped (r : ResourceId) (id : SessionId) (k : LeaseToken)
      (hx : .reservation r id k ∈ v.reapers) :
      Move o v { v with
        holder := unhold v.holder r id, reapers := v.reapers.erase (.reservation r id k) }
  | finished (id : SessionId) (r : ResourceId) (p : OwnerId) (hs : v.session id = some (r, p)) :
      Move o v { v with
        session := Function.update v.session id none, holder := unhold v.holder r id }
  | reaperGone (id : SessionId) (hs : v.session id = none) :
      Move o v { v with reapers := v.reapers.erase (.session id) }
  | spawned (id : SessionId) : Move o v { v with reapers := v.reapers ++ [.session id] }
  | revokeCall (n : ℕ) (p : OwnerId) (hn : v.revoke n = none) :
      Move o v { v with revoke := Function.update v.revoke n (some ⟨p, false, []⟩) }
  | revoked (n : ℕ) (d d' : Duty) (hd : v.revoke n = some d) (hp : d'.owner = d.owner)
      (hno : d.owner = o → d.listed = false → v.NoOpen o)
      (hcov : d.owner = o → ∀ x, v.Owed d x → x ∈ d'.todo ∨ v.Attended x.1) :
      Move o v { v with revoke := Function.update v.revoke n (some d') }

/-- What there is under one identifier: of the revocations, those of `o` that have its session
still to give a reaper. -/
structure Part where
  opening : Option OpenTask
  session : Option (ResourceId × OwnerId)
  holds : ResourceId → OwnerId → LeaseToken → Prop
  reserved : ResourceId → LeaseToken → Prop
  reaped : Prop
  owed : ResourceId → Prop

def View.part (o : OwnerId) (v : View) (id : SessionId) : Part where
  opening := v.opening id
  session := v.session id
  holds r p k := v.holder r = some ⟨id, p, k⟩
  reserved r k := .reservation r id k ∈ v.reapers
  reaped := .session id ∈ v.reapers
  owed r := ∃ n d, v.revoke n = some d ∧ d.owner = o ∧ (id, r) ∈ d.todo

/-- Every lease has somebody bound to give it back, and what it takes to keep it so. -/
structure Part.Inv (o : OwnerId) (revoked : Prop) (x : Part) : Prop where
  held : ∀ t, x.opening = some t → t.pc.Holds →
    ∃ k, x.holds t.resource t.owner k ∧ ∀ k', t.pc.lease = some k' → k' = k
  known : ∀ r p k, x.holds r p k →
    ∃ t, x.opening = some t ∧ t.owner = p ∧ t.resource = r ∧ ¬t.pc.Early
  entered : ∀ r p, x.session = some (r, p) →
    (∃ t, x.opening = some t ∧ t.owner = p ∧ ¬t.pc.InFlight) ∧ ∃ k, x.holds r p k
  orphan : ∀ r k, x.reserved r k → x.session = none ∧ ∃ t, x.opening = some t ∧ ¬t.pc.InFlight
  covered : ∀ r k, x.holds r o k → (∃ t, x.opening = some t ∧ t.pc.Holds) ∨
    (∃ k, x.reserved r k) ∨ x.session = some (r, o)
  doomed : revoked → (∀ t, x.opening = some t → t.owner = o → ¬t.pc.InFlight) ∧
    ∀ r, x.session = some (r, o) → x.reaped ∨ x.owed r

def Inv (o : OwnerId) (v : View) : Prop := ∀ id, (v.part o id).Inv o (v.Revoked o)

/-! ### One identifier -/

namespace Part.Inv

variable {o p : OwnerId} {R : Prop} {x : Part} {t : OpenTask}

lemma session_none (h : x.Inv o R) (ht : x.opening = some t) (hf : t.pc.InFlight) :
    x.session = none := by
  by_contra hne
  obtain ⟨⟨r, p⟩, hs⟩ := Option.ne_none_iff_exists'.mp hne
  obtain ⟨⟨t', ht', -, hn⟩, -⟩ := h.entered r p hs
  cases ht.symm.trans ht'
  exact hn hf

lemma not_orphan (h : x.Inv o R) (ht : x.opening = some t) (hf : t.pc.InFlight) :
    ¬x.reserved r k := by
  intro hx
  obtain ⟨-, t', ht', hn⟩ := h.orphan r k hx
  cases ht.symm.trans ht'
  exact hn hf

/-- An identifier has one lease: the one on the resource it was opened for. -/
lemma one (h : x.Inv o R) (ht : x.opening = some t) (hr : x.holds r p k) :
    t.owner = p ∧ t.resource = r ∧ ¬t.pc.Early := by
  obtain ⟨t', ht', hfacts⟩ := h.known r p k hr
  cases ht.symm.trans ht'
  exact hfacts

lemma retask (h : x.Inv o R) (ht : x.opening = some t) (hf : t.pc.InFlight) (pc : OpenPc)
    (hh : pc.Holds → t.pc.Holds) (hk : ∀ k, pc.lease = some k → t.pc.lease = some k)
    (he : pc.Early → t.pc.Early) (hc : t.owner = o → t.pc.Holds → pc.Holds) :
    Part.Inv o R { x with opening := some { t with pc } } := by
  refine ⟨?_, fun r p k hr => ?_, fun r p hs => ?_, fun r k hx => ?_, fun r k hr => ?_,
    fun hr => ⟨?_, (h.doomed hr).2⟩⟩
  · rintro _ ⟨rfl⟩ hp
    obtain ⟨k, hkr, hkk⟩ := h.held t ht (hh hp)
    exact ⟨k, hkr, fun k' hk' => hkk k' (hk k' hk')⟩
  · obtain ⟨hto, htr, hte⟩ := h.one ht hr
    exact ⟨_, rfl, hto, htr, fun hp => hte (he hp)⟩
  · exact absurd ((h.session_none ht hf).symm.trans hs) nofun
  · exact absurd hx (h.not_orphan ht hf)
  · refine (h.covered r k hr).imp_left ?_
    rintro ⟨t', ht', hp⟩
    cases ht.symm.trans ht'
    exact ⟨_, rfl, hc (h.one ht hr).1 hp⟩
  · rintro _ ⟨rfl⟩ ho
    exact absurd hf ((h.doomed hr).1 t ht ho)

/-- The identifier is new, so nobody refers to it. -/
lemma openCall (h : x.Inv o R) (hid : x.opening = none) (ho : p = o → ¬R) :
    Part.Inv o R { x with opening := some ⟨p, r, .enumerating⟩ } := by
  have hno {P : OpenTask → Prop} (ht : ∃ t, x.opening = some t ∧ P t) : False := by
    obtain ⟨t, ht, -⟩ := ht
    exact absurd (hid.symm.trans ht) nofun
  refine ⟨?_, fun q p k hq => (hno (h.known q p k hq)).elim,
    fun q p hs => (hno (h.entered q p hs).1).elim, fun q k hx => (hno (h.orphan q k hx).2).elim,
    fun q k hq => (hno (h.known q o k hq)).elim,
    fun hr => ⟨?_, fun q hs => (hno (h.entered q o hs).1).elim⟩⟩
  · rintro _ ⟨rfl⟩ hp
    exact hp.elim
  · rintro _ ⟨rfl⟩ hto
    exact absurd hr (ho hto)

lemma reserve (holds : ResourceId → OwnerId → LeaseToken → Prop) (h : x.Inv o R)
    (ht : x.opening = some t) (hpc : t.pc = .locking) (hh : pc.Holds)
    (hk : ∀ k', pc.lease = some k' → k' = k) (hnew : holds t.resource t.owner k)
    (hold : ∀ r p k, holds r p k → t.owner = p ∧ t.resource = r ∨ x.holds r p k) :
    Part.Inv o R { x with opening := some { t with pc }, holds } := by
  have hf : t.pc.InFlight := by rw [hpc]; trivial
  refine ⟨?_, fun r p k hr => ?_, fun r p hs => ?_, fun r k hx => ?_,
    fun r k _ => .inl ⟨_, rfl, hh⟩, fun hr => ⟨?_, (h.doomed hr).2⟩⟩
  · rintro _ ⟨rfl⟩ hp
    exact ⟨k, hnew, hk⟩
  · rcases hold r p k hr with ⟨hto, htr⟩ | hr
    · exact ⟨_, rfl, hto, htr, hh.not_early⟩
    · exact absurd (by rw [hpc]; trivial) (h.one ht hr).2.2
  · exact absurd ((h.session_none ht hf).symm.trans hs) nofun
  · exact absurd hx (h.not_orphan ht hf)
  · rintro _ ⟨rfl⟩ ho
    exact absurd hf ((h.doomed hr).1 t ht ho)

/-- An open returns, and a lease it held is given back or left to a reaper. -/
lemma returned (holds : ResourceId → OwnerId → LeaseToken → Prop)
    (reserved : ResourceId → LeaseToken → Prop) (h : x.Inv o R) (ht : x.opening = some t)
    (hh : t.pc.Holds) (e : HalError) (hsub : ∀ r p k, holds r p k → x.holds r p k)
    (hcov : ∀ r p k, holds r p k → ∃ k, reserved r k) :
    Part.Inv o R { x with
      opening := some { t with pc := .returned (.error e) }, holds, reserved } := by
  have hs := h.session_none ht hh.inFlight
  refine ⟨?_, fun r p k hr => ?_, fun r p hs' => ?_, fun r k _ => ⟨hs, _, rfl, nofun⟩,
    fun r k hr => .inr (.inl (hcov r o k hr)), fun hr => ⟨?_, (h.doomed hr).2⟩⟩
  · rintro _ ⟨rfl⟩ hp
    exact hp.elim
  · obtain ⟨hto, htr, -⟩ := h.one ht (hsub r p k hr)
    exact ⟨_, rfl, hto, htr, nofun⟩
  · exact absurd (hs.symm.trans hs') nofun
  · rintro _ ⟨rfl⟩ -
    exact nofun

lemma committed (id : SessionId) (h : x.Inv o R) (ht : x.opening = some t)
    (hpc : t.pc = .committing k) :
    Part.Inv o R { x with
      opening := some { t with pc := .returned (.ok (id, k)) }
      session := some (t.resource, t.owner) } := by
  have hh : t.pc.Holds := by rw [hpc]; trivial
  obtain ⟨k', hk', -⟩ := h.held t ht hh
  refine ⟨?_, fun r p k hr => ?_, ?_, fun r k hx => absurd hx (h.not_orphan ht hh.inFlight),
    fun r k hr => ?_, fun hr => ⟨?_, ?_⟩⟩
  · rintro _ ⟨rfl⟩ hp
    exact hp.elim
  · obtain ⟨hto, htr, -⟩ := h.one ht hr
    exact ⟨_, rfl, hto, htr, nofun⟩
  · rintro _ _ ⟨rfl, rfl⟩
    exact ⟨⟨_, rfl, rfl, nofun⟩, k', hk'⟩
  · obtain ⟨rfl, rfl, -⟩ := h.one ht hr
    exact .inr (.inr rfl)
  · rintro _ ⟨rfl⟩ -
    exact nofun
  · rintro _ ⟨rfl, rfl⟩
    exact absurd hh.inFlight ((h.doomed hr).1 t ht rfl)

/-- A lease goes, with the session or the reaper that was bound to release it. -/
lemma unhold (reserved : ResourceId → LeaseToken → Prop) (h : x.Inv o R)
    (hidle : ∀ t, x.opening = some t → ¬t.pc.InFlight)
    (hses : ∀ q, x.session = some (q, o) → q = r) (hres : ∀ q k, reserved q k → x.reserved q k)
    (hkeep : ∀ q k, x.reserved q k → q ≠ r → reserved q k) :
    Part.Inv o R { x with
      holds := fun q p k => x.holds q p k ∧ q ≠ r, session := none, reserved } := by
  refine ⟨fun t ht hp => absurd hp.inFlight (hidle t ht), fun q p k hq => h.known q p k hq.1, nofun,
    fun q k hx => ⟨rfl, (h.orphan q k (hres q k hx)).2⟩, fun q k hq => ?_,
    fun hr => ⟨(h.doomed hr).1, nofun⟩⟩
  rcases h.covered q k hq.1 with ht | ⟨k, hx⟩ | hs
  · exact .inl ht
  · exact .inr (.inl ⟨k, hkeep q k hx hq.2⟩)
  · exact absurd (hses q hs) hq.2

end Part.Inv

/-! ### All of them -/

section Invariant

variable {o : OwnerId} {v : View} {id : SessionId} {t : OpenTask}

lemma Inv.doomed (hi : Inv o v) (hr : v.Revoked o) : v.NoOpen o ∧
    ∀ id r, v.session id = some (r, o) → .session id ∈ v.reapers ∨
      ∃ n d, v.revoke n = some d ∧ d.owner = o ∧ (id, r) ∈ d.todo :=
  ⟨fun id => ((hi id).doomed hr).1, fun id => ((hi id).doomed hr).2⟩

/-- A move that leaves the revocations alone and concerns one identifier. -/
lemma Inv.change (hi : Inv o v) {v' : View} {x : Part} (id : SessionId)
    (hrev : v'.revoke = v.revoke) (hother : ∀ j, j ≠ id → v'.part o j = v.part o j)
    (hself : v'.part o id = x) (hx : (v.part o id).Inv o (v.Revoked o) → x.Inv o (v.Revoked o)) :
    Inv o v' := by
  intro j
  have hr : v'.Revoked o = v.Revoked o := by rw [View.Revoked, hrev]; rfl
  rw [hr]
  by_cases hj : j = id
  · rw [hj, hself]
    exact hx (hi id)
  · rw [hother j hj]
    exact hi j

/-- Only the revocations change, or reapers of sessions come and go. -/
lemma Inv.rerevoke (hi : Inv o v) {revoke : ℕ → Option Duty}
    (hres : ∀ q id' k, .reservation q id' k ∈ reapers ↔ .reservation q id' k ∈ v.reapers)
    (hdoom : (∃ n d, revoke n = some d ∧ d.owner = o ∧ d.listed = true) → v.NoOpen o ∧
      ∀ id' q, v.session id' = some (q, o) → .session id' ∈ reapers ∨
        ∃ n d, revoke n = some d ∧ d.owner = o ∧ (id', q) ∈ d.todo) :
    Inv o { v with reapers, revoke } := by
  intro id
  have h := hi id
  refine ⟨h.held, h.known, h.entered, fun q k hx => h.orphan q k ((hres q id k).mp hx),
    fun q k hq => ?_, fun hr => ⟨(hdoom hr).1 id, (hdoom hr).2 id⟩⟩
  refine (h.covered q k hq).imp_right (Or.imp_left ?_)
  exact fun ⟨k, hx⟩ => ⟨k, (hres q id k).mpr hx⟩

lemma update_some {κ α : Type} [DecidableEq κ] {f : κ → Option α} {i j : κ} {a b : α}
    (h : Function.update f i (some a) j = some b) : (j = i ∧ b = a) ∨ (j ≠ i ∧ f j = some b) := by
  rw [Function.update_apply] at h
  split at h
  · exact .inl ⟨‹_›, (Option.some.inj h).symm⟩
  · exact .inr ⟨‹_›, h⟩

lemma update_keep {κ α : Type} [DecidableEq κ] {f : κ → Option α} {i j : κ} {a : Option α} {b : α}
    (hj : j ≠ i) (h : f j = some b) : Function.update f i a j = some b := by
  rw [Function.update_of_ne hj, h]

lemma Inv.retask (hi : Inv o v) (ht : v.opening id = some t) (hf : t.pc.InFlight) (pc : OpenPc)
    (hh : pc.Holds → t.pc.Holds) (hk : ∀ k, pc.lease = some k → t.pc.lease = some k)
    (he : pc.Early → t.pc.Early) (hc : t.owner = o → t.pc.Holds → pc.Holds) :
    Inv o { v with opening := Function.update v.opening id (some { t with pc }) } :=
  hi.change id rfl (fun j hj => by simp [View.part, hj]) (by simp [View.part]) fun h =>
    h.retask ht hf pc hh hk he hc

lemma Inv.reserved (hi : Inv o v) (ht : v.opening id = some t) (hpc : t.pc = .locking)
    (hn : v.holder t.resource = none) (hh : pc.Holds) (hk : ∀ k', pc.lease = some k' → k' = k) :
    Inv o { v with
      holder := Function.update v.holder t.resource (some ⟨id, t.owner, k⟩)
      opening := Function.update v.opening id (some { t with pc }) } := by
  refine hi.change id rfl (fun j hj => ?_) ?_ fun h => h.reserve (fun r p k' =>
    Function.update v.holder t.resource (some ⟨id, t.owner, k⟩) r = some ⟨id, p, k'⟩) ht hpc hh hk
    (by simp) fun r p k' hr => ?_
  · have hholds (r : ResourceId) (p : OwnerId) (k' : LeaseToken) :
        Function.update v.holder t.resource (some ⟨id, t.owner, k⟩) r = some ⟨j, p, k'⟩ ↔
          v.holder r = some ⟨j, p, k'⟩ := by
      by_cases hr : r = t.resource
      · simp [hr, hn, Ne.symm hj]
      · simp [hr]
    simp [View.part, hj, hholds]
  · simp [View.part]
  · rcases update_some hr with ⟨rfl, hp⟩ | ⟨-, hr⟩
    · cases hp
      exact .inl ⟨rfl, rfl⟩
    · exact .inr hr

lemma Inv.handed (hi : Inv o v) (ht : v.opening id = some t) (hh : t.pc.Holds) (k : LeaseToken)
    (e : HalError) :
    Inv o { v with
      reapers := v.reapers ++ [.reservation t.resource id k]
      opening := Function.update v.opening id (some { t with pc := .returned (.error e) }) } := by
  refine hi.change id rfl (fun j hj => by simp [View.part, hj]) ?_ fun h =>
    h.returned _ (fun r k' => .reservation r id k' ∈ v.reapers ++ [.reservation t.resource id k]) ht
      hh e (fun _ _ _ hr => hr) fun r p k' hr => ?_
  · simp [View.part]
  · obtain ⟨-, rfl, -⟩ := h.one ht hr
    exact ⟨k, by simp⟩

lemma Inv.gaveBack (hi : Inv o v) (ht : v.opening id = some t) (hh : t.pc.Holds) (e : HalError) :
    Inv o { v with
      holder := LeaseTable.unhold v.holder t.resource id
      opening := Function.update v.opening id (some { t with pc := .returned (.error e) }) } := by
  refine hi.change id rfl (fun j hj => by simp [View.part, unhold_apply, hj]) ?_ fun h =>
    h.returned (fun q p k => v.holder q = some ⟨id, p, k⟩ ∧ q ≠ t.resource) (v.part o id).reserved
      ht hh e (fun _ _ _ hr => hr.1) fun r p k hr => absurd (h.one ht hr.1).2.1.symm hr.2
  simp [View.part, unhold_apply]

lemma Inv.reaped (hi : Inv o v) (hx : .reservation r id k ∈ v.reapers) :
    Inv o { v with
      holder := LeaseTable.unhold v.holder r id
      reapers := v.reapers.erase (.reservation r id k) } := by
  obtain ⟨hs, t, ht, hn⟩ := (hi id).orphan r k hx
  refine hi.change id rfl (fun j hj => ?_) ?_ fun h =>
    h.unhold (r := r)
      (fun q k' => .reservation q id k' ∈ v.reapers.erase (.reservation r id k)) ?_ ?_
      (fun _ _ hx => List.mem_of_mem_erase hx) fun q k' hx' hq => ?_
  · simp [View.part, unhold_apply, hj, List.mem_erase_of_ne]
  · change v.session id = none at hs
    simp [View.part, unhold_apply, hs, List.mem_erase_of_ne]
  · intro t' ht'
    cases ht.symm.trans ht'
    exact hn
  · exact fun q hq => absurd (hs.symm.trans hq) nofun
  · exact (List.mem_erase_of_ne (by simp [hq])).mpr hx'

lemma Inv.finished (hi : Inv o v) {p : OwnerId} (hs : v.session id = some (r, p)) :
    Inv o { v with
      session := Function.update v.session id none
      holder := LeaseTable.unhold v.holder r id } := by
  obtain ⟨⟨t, ht, -, hn⟩, -⟩ := (hi id).entered r p hs
  refine hi.change id rfl (fun j hj => by simp [View.part, unhold_apply, hj]) ?_ fun h =>
    h.unhold (r := r) (v.part o id).reserved ?_ (fun q hq => ?_) (fun _ _ hx => hx)
      fun _ _ hx _ => hx
  · simp [View.part, unhold_apply]
  · intro t' ht'
    cases ht.symm.trans ht'
    exact hn
  · cases hs.symm.trans hq
    rfl

lemma View.Attended.reaper {x : ResourceId × OwnerId} (h : v.Attended id)
    (hs : v.session id = some x) : .session id ∈ v.reapers := by
  rcases h with h | h
  · exact h
  · rw [hs] at h; cases h

/-- A revocation moves on; the first time it lists the sessions, and whatever it drops later has a
reaper. -/
lemma Inv.revoked (hi : Inv o v) {n : ℕ} {d d' : Duty} (hd : v.revoke n = some d)
    (hp : d'.owner = d.owner) (hno : d.owner = o → d.listed = false → v.NoOpen o)
    (hcov : d.owner = o → ∀ x, v.Owed d x → x ∈ d'.todo ∨ v.Attended x.1) :
    Inv o { v with revoke := Function.update v.revoke n (some d') } := by
  refine hi.rerevoke (fun _ _ _ => .rfl) ?_
  rintro ⟨m, b, hb, hbo, hbl⟩
  by_cases hfirst : d.owner = o ∧ d.listed = false
  · obtain ⟨hdo, hl⟩ := hfirst
    refine ⟨hno hdo hl, fun id' q hq => ?_⟩
    rcases hcov hdo (id', q) (by simp [View.Owed, hl, hdo, hq]) with hx | hx
    · exact .inr ⟨n, d', by simp, hp.trans hdo, hx⟩
    · exact .inl (hx.reaper hq)
  · -- the owner was listed before, by this revocation or by another
    have hr : v.Revoked o := by
      rcases update_some hb with ⟨rfl, rfl⟩ | ⟨-, hb⟩
      · have hdo : d.owner = o := hp ▸ hbo
        exact ⟨m, d, hd, hdo, by simpa [hdo] using hfirst⟩
      · exact ⟨m, b, hb, hbo, hbl⟩
    obtain ⟨hn, hs⟩ := hi.doomed hr
    refine ⟨hn, fun id' q hq => ?_⟩
    rcases hs id' q hq with hx | ⟨m', u, hu, huo, hux⟩
    · exact .inl hx
    · by_cases hm : m' = n
      · -- it is this revocation's own target
        subst hm
        rw [hd] at hu
        cases hu
        have hl : d.listed = true := by simpa [huo] using hfirst
        rcases hcov huo (id', q) (by simpa [View.Owed, hl] using hux) with hx | hx
        · exact .inr ⟨m', d', by simp, hp.trans huo, hx⟩
        · exact .inl (hx.reaper hq)
      · -- it is another's
        exact .inr ⟨m', u, update_keep hm hu, huo, hux⟩

theorem inv_move {v' : View} (hi : Inv o v) (hm : Move o v v') : Inv o v' := by
  cases hm with
  | openCall id p r hid ho =>
    exact hi.change id rfl (fun j hj => by simp [View.part, hj]) (by simp [View.part]) fun h =>
      h.openCall (r := r) hid ho
  | advance id t pc ht hf hh he hk => exact hi.retask ht hf pc hh.mp hk he fun _ => hh.mpr
  | reserved id t k pc ht hpc hn hh hk => exact hi.reserved ht hpc hn hh hk
  | handed id t k e ht hh => exact hi.handed ht hh k e
  | gaveBack id t e ht hh => exact hi.gaveBack ht hh e
  | committed id t k ht hpc =>
    exact hi.change id rfl (fun j hj => by simp [View.part, hj]) (by simp [View.part]) fun h =>
      h.committed id ht hpc
  | refused id t k v' ht hpc hno =>
    obtain ⟨k', hk', hkk⟩ := (hi id).held t ht (by rw [hpc]; trivial)
    obtain rfl := hkk k (by rw [hpc]; rfl)
    exact absurd hk' (hno t.owner)
  | dropped id t ht hf ho =>
    exact hi.retask ht hf .dropped nofun nofun nofun fun h hp => absurd hp (ho h)
  | reaped r id k hx => exact hi.reaped hx
  | finished id r p hs => exact hi.finished hs
  | reaperGone id hs =>
    refine hi.rerevoke (fun q id' k => List.mem_erase_of_ne (by simp)) fun hr => ?_
    obtain ⟨hno, hd⟩ := hi.doomed hr
    refine ⟨hno, fun id' q hq => (hd id' q hq).imp_left fun hx => ?_⟩
    refine (List.mem_erase_of_ne ?_).mpr hx
    rintro ⟨⟩
    rw [hs] at hq; cases hq
  | spawned id =>
    refine hi.rerevoke (fun q id' k => by simp) fun hr => ?_
    obtain ⟨hno, hd⟩ := hi.doomed hr
    exact ⟨hno, fun id' q hq => (hd id' q hq).imp_left fun hx => by simp [hx]⟩
  | revokeCall n p hn =>
    refine hi.rerevoke (fun _ _ _ => .rfl) ?_
    rintro ⟨m, b, hb, hbo, hbl⟩
    rcases update_some hb with ⟨-, rfl⟩ | ⟨-, hb⟩
    · cases hbl
    obtain ⟨hno, hd⟩ := hi.doomed ⟨m, b, hb, hbo, hbl⟩
    refine ⟨hno, fun id' q hq => (hd id' q hq).imp_right ?_⟩
    rintro ⟨m', u, hu, huo, hux⟩
    refine ⟨m', u, update_keep ?_ hu, huo, hux⟩
    rintro rfl
    rw [hn] at hu; cases hu
  | revoked n d d' hd hp hno hcov => exact hi.revoked hd hp hno hcov

end Invariant

end RobotHal.WorkerManager
