import RobotHal.Recent
import RobotHal.SerialSession

/-!
What the serial registry says after any sequence of calls.

Calls come one at a time, under the registry's lock, with whatever arguments. Session identifiers
are drawn at random, so no two `reserve_open` calls share one. Next to the registry stands what
happened: the tokens that were reserved, the sessions that became active, and those of them that
were closed, in order.
-/

namespace RobotHal.Serial

open WorkerManager (SessionLifecycle)

variable {lease token : LeaseToken} {operation : String} {x : SessionEntry} {r : ResourceId}

structure History where
  registry : Registry := {}
  /-- the sessions that `reserve_open` was called for -/
  drawn : List SessionId := []
  opened : List (SessionId × LeaseToken) := []
  committed : List SessionId := []
  closes : List SessionId := []

inductive RegistryCall
  | reserveOpen (r : ResourceId) (id : SessionId) (o : OwnerId) (fresh : LeaseId)
  | finishOpen (id : SessionId)
  | cancelOpen (id : SessionId)
  | enqueue (id : SessionId) (lease : LeaseToken) (sent : HalResult Unit) (operation : String)
  | beginClose (id : SessionId) (lease : LeaseToken)
  | beginRevoke (o : OwnerId)
  | finishClose (id : SessionId) (result : HalResult Unit)

namespace History

def reserveOpen (s : History) (r : ResourceId) (id : SessionId) (o : OwnerId) (fresh : LeaseId) :
    History :=
  { s with
    registry := (s.registry.reserveOpen r id o fresh).1
    drawn := s.drawn ++ [id]
    opened := match (s.registry.reserveOpen r id o fresh).2 with
      | .ok token => s.opened ++ [(id, token)]
      | .error _ => s.opened }

def finishOpen (s : History) (id : SessionId) : History :=
  { s with
    registry := (s.registry.finishOpen id).1
    committed := if (s.registry.finishOpen id).2.2 then s.committed ++ [id] else s.committed }

/-- The session of a close counts if it is open and became active. -/
def finishClose (s : History) (id : SessionId) (result : HalResult Unit) : History :=
  { s with
    registry := (s.registry.finishClose id result).1
    closes := if (s.registry.sessions.lookup id).isSome ∧ id ∈ s.committed then s.closes ++ [id]
      else s.closes }

def step (s : History) : RegistryCall → Option History
  | .reserveOpen r id o fresh => if id ∈ s.drawn then none else some (s.reserveOpen r id o fresh)
  | .finishOpen id => some (s.finishOpen id)
  | .cancelOpen id => some { s with registry := s.registry.cancelOpen id }
  -- the registry hands the command on and stays as it is
  | .enqueue .. => some s
  | .beginClose id lease => some { s with registry := (s.registry.beginClose id lease).1 }
  | .beginRevoke o => some { s with registry := s.registry.beginRevoke o }
  | .finishClose id result => some (s.finishClose id result)

abbrev Runs := Machine.Runs step fun _ _ => True

/-- A session has its lease, and the lease says whether it became active; every lease has its
session. -/
structure Matched (s : History) : Prop where
  lease : ∀ id e, s.registry.sessions.lookup id = some e →
    s.registry.leases.active.lookup e.resource
      = some ⟨id, e.owner, e.lease, decide (id ∈ s.committed)⟩
  session : ∀ r a, s.registry.leases.active.lookup r = some a →
    ∃ e, s.registry.sessions.lookup a.sessionId = some e ∧ e.resource = r

structure Kept (s : History) : Prop where
  matched : s.Matched
  opened_nodup : (s.opened.map Prod.fst).Nodup
  opened_drawn : ∀ x ∈ s.opened, x.1 ∈ s.drawn
  committed_drawn : ∀ id ∈ s.committed, id ∈ s.drawn
  entry : ∀ id e, s.registry.sessions.lookup id = some e → (id, e.lease) ∈ s.opened
  active : ∀ id e, s.registry.sessions.lookup id = some e → e.state = .active → id ∈ s.committed
  unclosed : ∀ id e, s.registry.sessions.lookup id = some e → id ∉ s.closes
  retains : ∃ history, history.map Prod.fst = s.closes ∧ (∀ x ∈ history, x ∈ s.opened) ∧
    Assoc.Retains closedSessionCapacity s.registry.closedSessions s.registry.closedOrder history

variable {s : History} {id : SessionId}

lemma kept_initial : Kept {} where
  matched := ⟨by simp, by simp⟩
  opened_nodup := .nil
  opened_drawn := nofun
  committed_drawn := nofun
  entry := by simp
  active := by simp
  unclosed := by simp
  retains := ⟨[], rfl, nofun, Assoc.retains_empty _⟩

end History

/-! ### The lease of a session -/

section Leases

variable {t : LeaseTable} {r : ResourceId} {id : SessionId} {o : OwnerId} {token : LeaseToken}
  {committed : Bool}

lemma release_of_active (h : t.active.lookup r = some ⟨id, o, token, committed⟩) :
    (t.release r id).1.active = t.active.erase r ∧ (t.release r id).2 = committed := by
  simp [LeaseTable.release, h]

lemma token_of_validate {a : ActiveLease} (ha : t.active.lookup r = some a)
    (h : t.validate r id o lease operation = .ok ()) : a.token = lease := by
  unfold LeaseTable.validate at h
  rw [ha] at h
  split at h
  · cases h
  dsimp only at h
  split at h
  · cases h
  split at h
  · cases h
  split at h
  · cases h
  · exact not_not.mp (by assumption)

lemma reserveControl_cases (t : LeaseTable) (r : ResourceId) (id : SessionId) (o : OwnerId)
    (fresh : LeaseId) :
    (∃ e, (t.reserveControl r id o fresh).2 = .error e
        ∧ (t.reserveControl r id o fresh).1.active = t.active)
      ∨ ∃ token, (t.reserveControl r id o fresh).2 = .ok token ∧ t.active.lookup r = none
        ∧ (t.reserveControl r id o fresh).1.active = t.active.insert r ⟨id, o, token, false⟩ := by
  unfold LeaseTable.reserveControl
  split
  · exact .inl ⟨_, rfl, rfl⟩
  rename_i hfree
  dsimp only
  split
  · exact .inl ⟨_, rfl, rfl⟩
  · exact .inr ⟨_, rfl, by simpa using hfree, rfl⟩

end Leases

/-! ### Steps -/

namespace History

variable {s t : History} {id : SessionId} {e : SessionEntry}

/-- The entry of a session, changed in what is not its lease. -/
structure Renewed (e x : SessionEntry) : Prop where
  resource : x.resource = e.resource
  owner : x.owner = e.owner
  lease : x.lease = e.lease
  active : x.state = .active → e.state = .active

lemma Kept.update (h : s.Kept) {sessions : Assoc SessionId SessionEntry}
    (f : SessionId → SessionEntry → SessionEntry)
    (hsessions : ∀ j, sessions.lookup j = (s.registry.sessions.lookup j).map (f j))
    (hf : ∀ j e, s.registry.sessions.lookup j = some e → Renewed e (f j e)) :
    Kept { s with registry := { s.registry with sessions } } := by
  have hold {j : SessionId} {x : SessionEntry} (hx : sessions.lookup j = some x) :
      ∃ y, s.registry.sessions.lookup j = some y ∧ Renewed y x := by
    rw [hsessions] at hx
    obtain ⟨y, hy, rfl⟩ := Option.map_eq_some_iff.mp hx
    exact ⟨y, hy, hf j y hy⟩
  refine ⟨⟨fun j x hx => ?_, fun r a ha => ?_⟩, h.opened_nodup, h.opened_drawn,
    h.committed_drawn, fun j x hx => ?_, fun j x hx hstate => ?_, fun j x hx => ?_, h.retains⟩
  · obtain ⟨y, hy, hxy⟩ := hold hx
    rw [hxy.resource, hxy.owner, hxy.lease]
    exact h.matched.lease j y hy
  · obtain ⟨y, hy, hr⟩ := h.matched.session r a ha
    refine ⟨f a.sessionId y, ?_, (hf _ y hy).resource.trans hr⟩
    exact (hsessions _).trans (by rw [hy]; rfl)
  · obtain ⟨y, hy, hxy⟩ := hold hx
    rw [hxy.lease]
    exact h.entry j y hy
  · obtain ⟨y, hy, hxy⟩ := hold hx
    exact h.active j y hy (hxy.active hstate)
  · obtain ⟨y, hy, -⟩ := hold hx
    exact h.unclosed j y hy

lemma Kept.updateOne (h : s.Kept) (he : s.registry.sessions.lookup id = some e) (hx : Renewed e x) :
    Kept { s with
      registry := { s.registry with sessions := s.registry.sessions.insert id x } } := by
  refine h.update (fun j y => if j = id then x else y) (fun j => ?_) fun j y hy => ?_
  · rw [Assoc.lookup_insert_ite]
    split
    · rename_i hj
      rw [hj, he]
      rfl
    · simp
  · split
    · rename_i hj
      obtain rfl := Option.mem_unique (hj ▸ hy) he
      exact hx
    · exact ⟨rfl, rfl, rfl, fun hs => hs⟩

lemma Kept.beginClose (h : s.Kept) (id : SessionId) (lease : LeaseToken) :
    Kept { s with registry := (s.registry.beginClose id lease).1 } := by
  obtain ⟨hsame, -⟩ | ⟨e, he, hclosing, -⟩ := s.registry.beginClose_cases id lease
  · rw [hsame]
    exact h
  · rw [hclosing]
    exact h.updateOne he (x := { e with state := .closing }) ⟨rfl, rfl, rfl, nofun⟩

lemma Kept.beginRevoke (h : s.Kept) (o : OwnerId) :
    Kept { s with registry := s.registry.beginRevoke o } := by
  refine h.update (fun _ e => if e.owner = o then Registry.revokeEntry e else e)
    (fun j => Assoc.lookup_mapVal ..) fun j e _ => ?_
  split
  · exact ⟨rfl, rfl, rfl, nofun⟩
  · exact ⟨rfl, rfl, rfl, fun hs => hs⟩

lemma Kept.remove (h : s.Kept) (he : s.registry.sessions.lookup id = some e)
    (done : Assoc SessionId (HalResult Unit)) :
    Kept { s with
      registry := { s.registry with
        sessions := s.registry.sessions.erase id
        leases := (s.registry.leases.release e.resource id).1
        done } } := by
  obtain ⟨hactive, -⟩ := release_of_active (h.matched.lease id e he)
  have hold {j : SessionId} {x : SessionEntry}
      (hx : (s.registry.sessions.erase id).lookup j = some x) :
      j ≠ id ∧ s.registry.sessions.lookup j = some x := by
    exact Assoc.of_lookup_erase hx
  refine ⟨⟨fun j x hx => ?_, fun r a ha => ?_⟩, h.opened_nodup, h.opened_drawn,
    h.committed_drawn, fun j x hx => h.entry j x (hold hx).2,
    fun j x hx => h.active j x (hold hx).2, fun j x hx => h.unclosed j x (hold hx).2, h.retains⟩
  · -- other sessions keep their leases
    obtain ⟨hne, hx⟩ := hold hx
    have hlease := h.matched.lease j x hx
    change (s.registry.leases.release e.resource id).1.active.lookup x.resource = _
    rw [hactive, Assoc.lookup_erase_ite, if_neg]
    · exact hlease
    · -- one resource has one lease
      intro heq
      rw [heq, h.matched.lease id e he] at hlease
      exact hne (congrArg ActiveLease.sessionId (Option.some.inj hlease)).symm
  · change (s.registry.leases.release e.resource id).1.active.lookup r = some a at ha
    rw [hactive, Assoc.lookup_erase_ite] at ha
    split at ha
    · cases ha
    rename_i hne
    obtain ⟨x, hx, rfl⟩ := h.matched.session r a ha
    refine ⟨x, ?_, rfl⟩
    change (s.registry.sessions.erase id).lookup a.sessionId = some x
    rw [Assoc.lookup_erase_ite, if_neg]
    · exact hx
    · intro hid
      rw [hid, he] at hx
      exact hne (by rw [Option.some.inj hx])

lemma Kept.cancelOpen (h : s.Kept) (id : SessionId) :
    Kept { s with registry := s.registry.cancelOpen id } := by
  unfold Registry.cancelOpen
  split
  · exact h
  · rename_i e he
    exact h.remove he _

lemma evict_eq (closed : Assoc SessionId LeaseToken) (order : List SessionId) :
    Registry.evict closed order =
      (Assoc.eraseAll closed (order.take (order.length - 255)),
        order.drop (order.length - 255)) := by
  induction order generalizing closed with
  | nil => rfl
  | cons expired order ih =>
    have hcap : closedSessionCapacity = 256 := rfl
    unfold Registry.evict
    rw [hcap, List.length_cons]
    split
    · -- the oldest one goes
      have hlen : order.length + 1 - 255 = order.length - 255 + 1 := by omega
      rw [ih, hlen, List.take_succ_cons, List.drop_succ_cons]
      simp only [Assoc.eraseAll, List.foldl_cons]
    · have hlen : order.length + 1 - 255 = 0 := by omega
      rw [hlen, List.take_zero, List.drop_zero, Assoc.eraseAll, List.foldl_nil]

lemma Kept.rememberClosed (h : s.Kept) (hgone : s.registry.sessions.lookup id = none)
    (hopened : (id, token) ∈ s.opened) (hnew : id ∉ s.closes) :
    Kept { s with
      registry := s.registry.rememberClosed id token
      closes := s.closes ++ [id] } := by
  obtain ⟨history, hcloses, hhistory, hretains⟩ := h.retains
  have hfresh : id ∉ history.map Prod.fst := hcloses ▸ hnew
  have hunknown : (s.registry.closedSessions.lookup id).isSome = false := by
    rw [Bool.eq_false_iff, ne_eq, ← hretains.mem_order, hretains.order_eq]
    exact fun hmem => hfresh (mem_of_mem_recent hmem)
  unfold Registry.rememberClosed
  rw [hunknown, if_neg Bool.false_ne_true, evict_eq]
  refine ⟨⟨h.matched.lease, h.matched.session⟩, h.opened_nodup, h.opened_drawn, h.committed_drawn,
    h.entry, h.active, fun j x hx hj => ?_, history ++ [(id, token)], ?_, fun x hx => ?_,
    hretains.push hfresh token⟩
  · rcases List.mem_append.mp hj with hj | hj
    · exact h.unclosed j x hx hj
    · rw [List.mem_singleton.mp hj] at hx
      exact absurd (hgone.symm.trans hx) nofun
  · rw [List.map_append, hcloses]
    rfl
  · rcases List.mem_append.mp hx with hx | hx
    · exact hhistory x hx
    · rw [List.mem_singleton.mp hx]
      exact hopened

lemma Kept.finishClose (h : s.Kept) (id : SessionId) (result : HalResult Unit) :
    (s.finishClose id result).Kept := by
  unfold History.finishClose Registry.finishClose
  cases he : s.registry.sessions.lookup id with
  | none => simpa using h
  | some e =>
    have hremoved := h.remove he (s.registry.done.insert id result)
    have hexposed := (release_of_active (h.matched.lease id e he)).2
    dsimp only
    rw [hexposed]
    by_cases hcommitted : id ∈ s.committed
    · -- a session that was open is remembered
      have hgone := AList.lookup_erase id s.registry.sessions
      have hremembered := hremoved.rememberClosed hgone (h.entry id e he) (h.unclosed id e he)
      simpa [hcommitted] using hremembered
    · simpa [hcommitted] using hremoved

lemma Kept.grant (h : s.Kept) {o : OwnerId} (hdrawn : id ∉ s.drawn)
    (hfree : s.registry.leases.active.lookup r = none) (generations : Assoc ResourceId ℕ) :
    Kept { s with
      registry := { s.registry with
        leases := ⟨generations, s.registry.leases.active.insert r ⟨id, o, token, false⟩⟩
        sessions := s.registry.sessions.insert id
          { resource := r, owner := o, lease := token, state := .opening, actor := false
            cancelled := false } }
      drawn := s.drawn ++ [id]
      opened := s.opened ++ [(id, token)] } := by
  have hunused : id ∉ s.opened.map Prod.fst := by
    intro hid
    obtain ⟨x, hx, rfl⟩ := List.mem_map.mp hid
    exact hdrawn (h.opened_drawn x hx)
  have hnone : s.registry.sessions.lookup id = none := by
    cases he : s.registry.sessions.lookup id with
    | none => rfl
    | some e => exact absurd (List.mem_map_of_mem (h.entry id e he)) hunused
  have huncommitted : id ∉ s.committed := fun hid => hdrawn (h.committed_drawn id hid)
  have hunclosed : id ∉ s.closes := by
    obtain ⟨history, hcloses, hhistory, -⟩ := h.retains
    intro hid
    rw [← hcloses] at hid
    obtain ⟨x, hx, rfl⟩ := List.mem_map.mp hid
    exact hunused (List.mem_map_of_mem (hhistory x hx))
  have hsession (j : SessionId) := Assoc.lookup_insert_ite s.registry.sessions id j
    { resource := r, owner := o, lease := token, state := .opening, actor := false
      cancelled := false }
  have hlease (q : ResourceId) := Assoc.lookup_insert_ite s.registry.leases.active r q
    ⟨id, o, token, false⟩
  constructor
  case matched =>
    constructor
    · intro j x hx
      rw [hsession] at hx
      rw [hlease]
      split at hx
      · rename_i hj
        subst hj
        cases hx
        rw [if_pos rfl, decide_eq_false huncommitted]
      · -- nobody had this resource
        have hown := h.matched.lease j x hx
        rw [if_neg, hown]
        intro heq
        rw [heq, hfree] at hown
        cases hown
    · intro q a ha
      rw [hlease] at ha
      rw [hsession]
      split at ha
      · rename_i hq
        cases ha
        exact ⟨_, if_pos rfl, hq.symm⟩
      · obtain ⟨x, hx, hr⟩ := h.matched.session q a ha
        refine ⟨x, ?_, hr⟩
        rw [if_neg, hx]
        intro heq
        rw [heq, hnone] at hx
        cases hx
  case opened_nodup =>
    rw [List.map_append]
    refine List.nodup_append.mpr ⟨h.opened_nodup, List.nodup_singleton _, fun a ha b hb hab =>
      hunused ?_⟩
    rwa [hab, List.mem_singleton.mp hb] at ha
  case opened_drawn =>
    intro x hx
    rcases List.mem_append.mp hx with hx | hx
    · exact List.mem_append_left _ (h.opened_drawn x hx)
    · rw [List.mem_singleton.mp hx]
      exact List.mem_append_right _ (List.mem_singleton_self _)
  case committed_drawn => exact fun j hj => List.mem_append_left _ (h.committed_drawn j hj)
  case entry =>
    intro j x hx
    rw [hsession] at hx
    split at hx
    · rename_i hj
      cases hx
      rw [hj]
      exact List.mem_append_right _ (List.mem_singleton_self _)
    · exact List.mem_append_left _ (h.entry j x hx)
  case active =>
    intro j x hx hstate
    rw [hsession] at hx
    split at hx
    · cases hx
      cases hstate
    · exact h.active j x hx hstate
  case unclosed =>
    intro j x hx
    rw [hsession] at hx
    split at hx
    · rename_i hj
      rwa [hj]
    · exact h.unclosed j x hx
  case retains =>
    obtain ⟨history, hcloses, hhistory, hretains⟩ := h.retains
    exact ⟨history, hcloses, fun x hx => List.mem_append_left _ (hhistory x hx), hretains⟩

lemma Kept.reserveOpen (h : s.Kept) (r : ResourceId) (o : OwnerId) (fresh : LeaseId)
    (hdrawn : id ∉ s.drawn) : (s.reserveOpen r id o fresh).Kept := by
  unfold History.reserveOpen Registry.reserveOpen
  have hcases := reserveControl_cases s.registry.leases r id o fresh
  generalize s.registry.leases.reserveControl r id o fresh = res at hcases ⊢
  obtain ⟨⟨generations, active⟩, answer⟩ := res
  dsimp only at hcases
  obtain ⟨x, rfl, rfl⟩ | ⟨token, rfl, hfree, rfl⟩ := hcases
  · exact ⟨⟨h.matched.lease, h.matched.session⟩, h.opened_nodup,
      fun x hx => List.mem_append_left _ (h.opened_drawn x hx),
      fun j hj => List.mem_append_left _ (h.committed_drawn j hj), h.entry, h.active, h.unclosed,
      h.retains⟩
  · exact h.grant hdrawn hfree generations

lemma Kept.commit (h : s.Kept) (he : s.registry.sessions.lookup id = some e)
    (hr : x.resource = e.resource) (ho : x.owner = e.owner) (hl : x.lease = e.lease)
    (committed : List SessionId) (hcommitted : ∀ j, j ∈ committed ↔ j ∈ s.committed ∨ j = id) :
    Kept { s with
      registry := { s.registry with
        leases := { s.registry.leases with
          active := s.registry.leases.active.insert e.resource ⟨id, e.owner, e.lease, true⟩ }
        sessions := s.registry.sessions.insert id x }
      committed } := by
  have hsession (j : SessionId) := Assoc.lookup_insert_ite s.registry.sessions id j x
  have hlease (q : ResourceId) := Assoc.lookup_insert_ite s.registry.leases.active e.resource q
    ⟨id, e.owner, e.lease, true⟩
  have hid : id ∈ committed := (hcommitted id).mpr (.inr rfl)
  constructor
  case matched =>
    constructor
    · intro j y hy
      rw [hsession] at hy
      rw [hlease]
      split at hy
      · rename_i hj
        subst hj
        cases hy
        rw [if_pos hr, ho, hl, decide_eq_true hid]
      · rename_i hj
        have hown := h.matched.lease j y hy
        have hiff : decide (j ∈ committed) = decide (j ∈ s.committed) := by
          rw [decide_eq_decide, hcommitted, or_iff_left hj]
        rw [if_neg, hown, hiff]
        -- one resource has one lease
        intro heq
        rw [heq, h.matched.lease id e he] at hown
        exact hj (congrArg ActiveLease.sessionId (Option.some.inj hown)).symm
    · intro q a ha
      rw [hlease] at ha
      rw [hsession]
      split at ha
      · rename_i hq
        cases ha
        exact ⟨x, if_pos rfl, hr.trans hq.symm⟩
      · rename_i hq
        obtain ⟨y, hy, hyr⟩ := h.matched.session q a ha
        refine ⟨y, ?_, hyr⟩
        rw [if_neg, hy]
        intro heq
        rw [heq, he] at hy
        exact hq (by rw [← hyr, Option.some.inj hy])
  case opened_nodup => exact h.opened_nodup
  case opened_drawn => exact h.opened_drawn
  case committed_drawn =>
    intro j hj
    rcases (hcommitted j).mp hj with hj | rfl
    · exact h.committed_drawn j hj
    · exact h.opened_drawn _ (h.entry j e he)
  case entry =>
    intro j y hy
    rw [hsession] at hy
    split at hy
    · rename_i hj
      cases hy
      rw [hj, hl]
      exact h.entry id e he
    · exact h.entry j y hy
  case active =>
    intro j y hy hstate
    rw [hsession] at hy
    rw [hcommitted]
    split at hy
    · exact .inr (by assumption)
    · exact .inl (h.active j y hy hstate)
  case unclosed =>
    intro j y hy
    rw [hsession] at hy
    split at hy
    · rename_i hj
      rw [hj]
      exact h.unclosed id e he
    · exact h.unclosed j y hy
  case retains => exact h.retains

lemma Kept.finishOpen (h : s.Kept) (id : SessionId) : (s.finishOpen id).Kept := by
  cases he : s.registry.sessions.lookup id with
  | none =>
    have hanswer : s.registry.finishOpen id = (s.registry, none, false) := by
      simp [Registry.finishOpen, he]
    rw [History.finishOpen, hanswer]
    exact h
  | some e =>
    have hlease := h.matched.lease id e he
    cases hstate : e.state with
    | opening =>
      rw [History.finishOpen, Registry.finishOpen_of_opening he hstate hlease rfl rfl,
        AList.insert_insert]
      exact h.commit he (x := { e with state := .active, actor := true }) rfl rfl rfl
        (s.committed ++ [id]) (by simp)
    | active =>
      -- a second `finish_open` of the session commits a lease that is committed
      have hanswer : s.registry.finishOpen id = ({ s.registry with
          leases := { s.registry.leases with
            active := s.registry.leases.active.insert e.resource ⟨id, e.owner, e.lease, true⟩ }
          sessions := s.registry.sessions.insert id { e with actor := true } }, none, false) := by
        have hcommit := LeaseTable.commit_of_active hlease
        dsimp only at hcommit
        simp [Registry.finishOpen, he, hstate, hcommit, SessionLifecycle.commitOpen]
      rw [History.finishOpen, hanswer]
      have hid := h.active id e he hstate
      exact h.commit he (x := { e with actor := true }) rfl rfl rfl s.committed fun j =>
        ⟨.inl, fun hj => hj.elim (fun hj => hj) fun hj => hj ▸ hid⟩
    | closing =>
      rw [History.finishOpen, Registry.finishOpen_of_closing he hstate]
      exact h.updateOne he (x := { e with actor := true }) ⟨rfl, rfl, rfl, fun hs => hs⟩

lemma Kept.step {call : RegistryCall} (h : s.Kept) (hs : s.step call = some t) : t.Kept := by
  cases call with
  | reserveOpen r id o fresh =>
    simp only [History.step] at hs
    split at hs
    · cases hs
    · rename_i hdrawn
      cases hs
      exact h.reserveOpen r o fresh hdrawn
  | finishOpen id =>
    cases hs
    exact h.finishOpen id
  | cancelOpen id =>
    cases hs
    exact h.cancelOpen id
  | enqueue id lease sent operation =>
    cases hs
    exact h
  | beginClose id lease =>
    cases hs
    exact h.beginClose id lease
  | beginRevoke o =>
    cases hs
    exact h.beginRevoke o
  | finishClose id result =>
    cases hs
    exact h.finishClose id result

lemma kept_of_runs {l : List RegistryCall} (h : Runs {} l s) : s.Kept :=
  h.invariant (I := Kept) kept_initial fun _ _ _ hi _ hs => hi.step hs

/-! ### What the registry answers -/

/-- A command goes to the actor of an active session, under the token of that session. -/
lemma Kept.of_enqueue (h : s.Kept) {sent : HalResult Unit}
    (hok : s.registry.enqueue id lease sent operation = .ok r) :
    ∃ e, s.registry.sessions.lookup id = some e ∧ e.state = .active ∧ e.lease = lease := by
  obtain ⟨e, he, rfl, -, hstate, hvalid, -⟩ := Registry.enqueue_ok hok
  exact ⟨e, he, hstate, token_of_validate (h.matched.lease id e he) hvalid⟩

lemma validateClosedLease_eq_ok {closed supplied : LeaseToken} (operation : String) :
    validateClosedLease closed supplied operation = .ok () ↔ supplied = closed := by
  unfold validateClosedLease
  constructor
  · intro h
    split at h
    · cases h
    split at h
    · cases h
    · exact not_not.mp (by assumption)
  · rintro rfl
    simp

lemma alreadyClosed_iff {g : Registry} (h : g.sessions.lookup id = none) :
    (g.beginClose id lease).2 = .ok .alreadyClosed ↔ g.closedSessions.lookup id = some lease := by
  have hanswer : (g.beginClose id lease).2 = g.closedCloseResult id lease := by
    simp [Registry.beginClose, h]
  rw [hanswer, Registry.closedCloseResult]
  cases g.closedSessions.lookup id with
  | none => simp
  | some closed =>
    rw [Option.some.injEq, eq_comm (a := closed), ← validateClosedLease_eq_ok "serial.close"]
    dsimp only
    cases validateClosedLease closed lease "serial.close" with
    | error e | ok x => simp [Except.map]

/-- A session that was closed is remembered under its token while it is recent. -/
lemma Kept.remembered_iff (h : s.Kept) :
    s.registry.closedSessions.lookup id = some lease
      ↔ id ∈ recent 256 s.closes ∧ (id, lease) ∈ s.opened := by
  obtain ⟨history, hcloses, hhistory, hretains⟩ := h.retains
  rw [hretains.lookup_iff, ← hcloses, recent_map]
  constructor
  · intro hmem
    exact ⟨List.mem_map_of_mem hmem, hhistory _ (mem_of_mem_recent hmem)⟩
  · rintro ⟨hid, hopened⟩
    obtain ⟨x, hx, rfl⟩ := List.mem_map.mp hid
    have heq :=
      List.inj_on_of_nodup_map h.opened_nodup (hhistory x (mem_of_mem_recent hx)) hopened rfl
    exact heq ▸ hx

/-- After any sequence of calls: sessions and leases belong together, commands reach active sessions
only, and a close is repeated without harm as long as the session is remembered. -/
theorem registry_consistent {l : List RegistryCall} (h : Runs {} l s) :
    (∀ id e, s.registry.sessions.lookup id = some e →
        s.registry.leases.holder e.resource = some ⟨id, e.owner, e.lease⟩)
      ∧ (∀ r x, s.registry.leases.holder r = some x →
        ∃ e, s.registry.sessions.lookup x.session = some e ∧ e.resource = r ∧ e.owner = x.owner
          ∧ e.lease = x.token)
      ∧ (∀ id lease sent operation r, s.registry.enqueue id lease sent operation = .ok r →
        ∃ e, s.registry.sessions.lookup id = some e ∧ e.state = .active ∧ e.lease = lease)
      ∧ s.registry.closedOrder.Nodup
      ∧ (∀ id, id ∈ s.registry.closedOrder ↔ (s.registry.closedSessions.lookup id).isSome)
      ∧ s.registry.closedOrder.length ≤ 256
      ∧ (∀ id ∈ s.registry.closedOrder, s.registry.sessions.lookup id = none)
      ∧ ∀ id lease, s.registry.sessions.lookup id = none →
        ((s.registry.beginClose id lease).2 = .ok .alreadyClosed
          ↔ id ∈ recent 256 s.closes ∧ (id, lease) ∈ s.opened) := by
  have hkept := kept_of_runs h
  obtain ⟨history, hcloses, -, hretains⟩ := hkept.retains
  refine ⟨fun id e he => ?_, fun r x hx => ?_, fun id lease sent operation r hok =>
    hkept.of_enqueue hok, hretains.order_nodup, fun id => hretains.mem_order,
    hretains.length_order, fun id hid => ?_, fun id lease hid => ?_⟩
  · rw [LeaseTable.holder, hkept.matched.lease id e he]
    rfl
  · obtain ⟨a, ha, rfl⟩ := Option.map_eq_some_iff.mp hx
    obtain ⟨e, he, rfl⟩ := hkept.matched.session r a ha
    have hlease := Option.mem_unique (hkept.matched.lease _ e he) ha
    exact ⟨e, he, rfl, congrArg ActiveLease.ownerId hlease, congrArg ActiveLease.token hlease⟩
  · rw [hretains.order_eq, hcloses] at hid
    cases he : s.registry.sessions.lookup id with
    | none => rfl
    | some e => exact absurd (mem_of_mem_recent hid) (hkept.unclosed id e he)
  · rw [alreadyClosed_iff hid, hkept.remembered_iff]

/-- A session is opened and closed. -/
def lifetime : List RegistryCall :=
  [.reserveOpen ⟨"r"⟩ ⟨"s"⟩ ⟨"o"⟩ ⟨"l"⟩, .finishOpen ⟨"s"⟩,
    .enqueue ⟨"s"⟩ ⟨⟨"l"⟩, 1, .control⟩ (.ok ()) "serial.write",
    .beginClose ⟨"s"⟩ ⟨⟨"l"⟩, 1, .control⟩, .finishClose ⟨"s"⟩ (.ok ())]

theorem registry_consistent_lifetime :
    ∃ s, Runs {} lifetime s ∧ s.registry.sessions.lookup ⟨"s"⟩ = none
      ∧ (s.registry.beginClose ⟨"s"⟩ ⟨⟨"l"⟩, 1, .control⟩).2 = .ok .alreadyClosed := by
  have hexec : ∃ s ∈ Machine.exec step (fun _ _ => True) {} lifetime,
      s.registry.sessions.lookup ⟨"s"⟩ = none ∧ s.closes = [⟨"s"⟩]
        ∧ s.opened = [(⟨"s"⟩, ⟨⟨"l"⟩, 1, .control⟩)] := by decide +kernel
  obtain ⟨s, hs, hgone, hcloses, hopened⟩ := hexec
  have hrun := Machine.runs_of_exec hs
  refine ⟨s, hrun, hgone, ?_⟩
  have hanswers := (registry_consistent hrun).2.2.2.2.2.2.2
  refine (hanswers ⟨"s"⟩ _ hgone).mpr ⟨?_, ?_⟩
  · rw [hcloses]
    decide
  · rw [hopened]
    exact List.mem_singleton_self _

end History

end RobotHal.Serial
