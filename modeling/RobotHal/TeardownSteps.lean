import RobotHal.WorkerSteps

/-!
The steps of a manager as moves of its view, and what a teardown leaves behind.
-/

namespace RobotHal.WorkerManager

open LeaseTable (Holder)

variable {s : State} {id : SessionId} {p o : OwnerId} {r : ResourceId} {e : HalError} {n : ℕ}
  {t : RevokeTask} {rest : List Target}
variable {pc : OpenPc} {fresh : LeaseId} {k : LeaseToken} {todo all order : List Target}
  {cur : Target} {c : Config}

/-- The duties a state imposes. -/
def State.view (k : Kind) (s : State) : View where
  holder := s.leases.holder
  session id := (s.sessions.lookup id).map fun e => (e.resource, e.owner)
  opening id := s.opens.lookup id
  reapers := s.reapers
  revoke n := (s.revokes.lookup n).map (RevokeTask.duty k)

abbrev Moves (o : OwnerId) : View → View → Prop := Relation.ReflTransGen (Move o)

/-- A few moves lead from the view of one state to the view of another. -/
abbrev Leads (c : Config) (o : OwnerId) (s s' : State) : Prop :=
  Moves o (s.view c.kind) (s'.view c.kind)

/-- A teardown in order: nothing is opened for the owner once its revocation has listed the
sessions, and it lists them only after every open has returned or been dropped. -/
def InOrder (o : OwnerId) (s : State) : Event → Prop
  | .openCall _ p _ =>
      p = o → ∀ n t, s.revokes.lookup n = some t → t.owner = o → t.pc = .locking
  | .revokeSnapshot n _ => (s.revokes.lookup n).map RevokeTask.owner = some o →
      ∀ id t, s.opens.lookup id = some t → t.owner = o → ¬t.pc.InFlight
  | _ => True

/-- The session is gone or has a reaper. -/
def State.Attended (s : State) (id : SessionId) : Prop :=
  .session id ∈ s.reapers ∨ s.sessions.lookup id = none

/-- The session a revocation waits for, and those after it. -/
def RevokePc.waitsFor : RevokePc → Option (Target × List Target)
  | .waiting cur rest _ => some (cur, rest)
  | _ => none

/-- The step forgets no duty towards the owner: it does not drop an open that holds a
reservation, and a USB or GPIO revocation does not stop at a session that failed to close while a
later one is still without a reaper. -/
def Clean (c : Config) (o : OwnerId) (s : State) : Event → Prop
  | .dropOpen id => ∀ t ∈ s.opens.lookup id, t.owner = o → ¬t.pc.Holds
  | .revokeCompleted n => c.kind ≠ .camera → ∀ t ∈ s.revokes.lookup n, t.owner = o →
      ∀ x ∈ t.pc.waitsFor, s.completion x.1.1 = some (.ok ()) ∨ ∀ y ∈ x.2, s.Attended y.1
  | .revokeDeadline n => c.kind ≠ .camera → ∀ t ∈ s.revokes.lookup n, t.owner = o →
      ∀ x ∈ t.pc.waitsFor, ∀ y ∈ x.2, s.Attended y.1
  | _ => True

instance (s : State) (id : SessionId) : Decidable (s.Attended id) :=
  inferInstanceAs (Decidable (_ ∨ _ = none))

instance (o : OwnerId) (s : State) : DecidablePred (InOrder o s) := fun e => by
  cases e <;> unfold InOrder <;> infer_instance

instance (c : Config) (o : OwnerId) (s : State) : DecidablePred (Clean c o s) := fun e => by
  cases e <;> unfold Clean <;> infer_instance

/-! ### Views of updated states -/

section Views

variable (k : Kind) (s : State)

lemma view_setOpen (id : SessionId) (t : OpenTask) (pc : OpenPc) :
    (s.setOpen id t pc).view k =
      { s.view k with opening := Function.update (s.view k).opening id (some { t with pc }) } := by
  have : (fun j => (s.opens.insert id { t with pc }).lookup j) =
      Function.update (fun j => s.opens.lookup j) id (some { t with pc }) := by
    funext j
    rw [Assoc.lookup_insert_ite, Function.update_apply]
  simp only [State.view, State.setOpen, this]

lemma view_setRevoke (n : ℕ) (t : RevokeTask) (pc : RevokePc) :
    (s.setRevoke n t pc).view k = { s.view k with
      revoke := Function.update (s.view k).revoke n (some (RevokeTask.duty k { t with pc })) } := by
  have : (fun j => ((s.revokes.insert n { t with pc }).lookup j).map (RevokeTask.duty k)) =
      Function.update (s.view k).revoke n (some (RevokeTask.duty k { t with pc })) := by
    funext j
    rw [Assoc.lookup_insert_ite, Function.update_apply]
    split <;> rfl
  simp only [State.view, State.setRevoke, this]

@[simp] lemma view_setClose (n : ℕ) (t : CloseTask) (pc : ClosePc) :
    (s.setClose n t pc).view k = s.view k := rfl

lemma view_spawn (x : Reaper) :
    (s.spawn x).view k = { s.view k with reapers := (s.view k).reapers ++ [x] } := rfl

@[simp] lemma view_requestClose (id : SessionId) : (s.requestClose id).view k = s.view k := by
  unfold State.requestClose
  split <;> rfl

end Views

section Moves

variable {o : OwnerId} {c : Config}

lemma moves_finishSession (s : State) (id : SessionId) : Leads c o s (s.finishSession id) := by
  unfold State.finishSession
  split
  · exact .refl
  · rename_i e he
    refine .single ?_
    have hs : (s.view c.kind).session id = some (e.resource, e.owner) := by simp [State.view, he]
    have hview : State.view c.kind { s with
        sessions := s.sessions.erase id
        leases := (s.leases.release e.resource id).1
        closed := s.closed.insert id ⟨e.resource, e.owner, e.lease, s.terminalError id⟩ } =
        { s.view c.kind with
        session := Function.update (s.view c.kind).session id none
        holder := LeaseTable.unhold (s.view c.kind).holder e.resource id } := by
      have : (fun j => ((s.sessions.erase id).lookup j).map fun e => (e.resource, e.owner)) =
          Function.update (s.view c.kind).session id none := by
        funext j
        rw [Assoc.lookup_erase_ite, Function.update_apply]
        split <;> rfl
      simp only [State.view, this, LeaseTable.holder_release]
    rw [hview]
    exact .finished id e.resource e.owner hs

lemma moves_looked {u : State} (h : Looked s id u) : Leads c o s u := by
  cases h with
  | kept => exact .refl
  | buried => exact moves_finishSession s id

lemma moves_setOpen {t : OpenTask} (ht : s.opens.lookup id = some t) (hf : t.pc.InFlight)
    (hh : pc.Holds ↔ t.pc.Holds) (he : pc.Early → t.pc.Early)
    (hk : ∀ k, pc.lease = some k → t.pc.lease = some k) : Leads c o s (s.setOpen id t pc) := by
  rw [Leads, view_setOpen]
  exact .single (.advance id t pc ht hf hh he hk)

lemma moves_handed {t : OpenTask} (k : LeaseToken) (e : HalError) (ht : s.opens.lookup id = some t)
    (hh : t.pc.Holds) : Leads c o s (((s.requestClose id).spawn
      (.reservation t.resource id k)).setOpen id t (.returned (.error e))) := by
  rw [Leads, view_setOpen, view_spawn, view_requestClose]
  exact .single (.handed id t k e ht hh)

lemma moves_openCall (hn : s.opens.lookup id = none) (hin : InOrder o s (.openCall id p r)) :
    Leads c o s { s with opens := s.opens.insert id ⟨p, r, .enumerating⟩ } := by
  have := view_setOpen c.kind s id ⟨p, r, .enumerating⟩ .enumerating
  simp only [State.setOpen] at this
  rw [Leads, this]
  refine .single (.openCall id p r hn ?_)
  rintro ho ⟨n, d, hd, hdo, hl⟩
  obtain ⟨t, ht, rfl⟩ := Option.map_eq_some_iff.mp hd
  simp [RevokeTask.duty, hin ho n t ht hdo] at hl

lemma moves_refused (ht : s.opens.lookup id = some ⟨p, r, .locking⟩)
    (he : (s.leases.reserveControl r id p fresh).2 = .error e) : Leads c o s (State.setOpen { s with
      leases := (s.leases.reserveControl r id p fresh).1 } id ⟨p, r, .locking⟩
        (.returned (.error e))) := by
  have hview : State.view c.kind { s with
      leases := (s.leases.reserveControl r id p fresh).1 } = s.view c.kind := by
    simp only [State.view, LeaseTable.holder_reserveControl_error he]
  rw [Leads, view_setOpen, hview, ← view_setOpen]
  exact moves_setOpen ht trivial .rfl nofun nofun

lemma moves_reserved (workers : Assoc SessionId Worker)
    (ht : s.opens.lookup id = some ⟨p, r, .locking⟩)
    (hk : (s.leases.reserveControl r id p fresh).2 = .ok k) (hh : pc.Holds)
    (hpc : ∀ k', pc.lease = some k' → k' = k) : Leads c o s (State.setOpen { s with
      leases := (s.leases.reserveControl r id p fresh).1, workers } id ⟨p, r, .locking⟩ pc) := by
  obtain ⟨hn, hu⟩ := LeaseTable.holder_reserveControl_ok hk
  rw [Leads, view_setOpen]
  simp only [State.view, hu]
  exact .single (.reserved (v := s.view c.kind) id ⟨p, r, .locking⟩ k pc ht rfl hn hh hpc)

lemma moves_gaveBack (ht : s.opens.lookup id = some ⟨p, r, .releasing e⟩) :
    Leads c o s (State.setOpen { s with
      leases := (s.leases.release r id).1 } id ⟨p, r, .releasing e⟩ (.returned (.error e))) := by
  rw [Leads, view_setOpen]
  simp only [State.view, LeaseTable.holder_release]
  exact .single (.gaveBack (v := s.view c.kind) id ⟨p, r, .releasing e⟩ e ht trivial)

lemma moves_enter (ht : s.opens.lookup id = some ⟨p, r, .committing k⟩) :
    Leads c o s (s.enter id p r k) := by
  have hview : State.view c.kind (s.enter id p r k) = { s.view c.kind with
      session := Function.update (s.view c.kind).session id (some (r, p))
      opening := Function.update (s.view c.kind).opening id
        (some ⟨p, r, .returned (.ok (id, k))⟩) } := by
    have : (fun j => ((s.sessions.insert id ⟨r, p, k, .active⟩).lookup j).map
        fun e => (e.resource, e.owner)) =
          Function.update (s.view c.kind).session id (some (r, p)) := by
      funext j
      rw [Assoc.lookup_insert_ite, Function.update_apply]
      split <;> rfl
    rw [State.enter, view_setOpen]
    simp only [State.view, this, LeaseTable.commit, LeaseTable.holder_keep]
  rw [Leads, hview]
  exact .single (.committed id ⟨p, r, .committing k⟩ k ht rfl)

/-! ### `close` -/

lemma moves_beginClose (s : State) (n : ℕ) (t : CloseTask) (r : ResourceId) :
    Leads c o s (s.beginClose n t r) := by
  unfold State.beginClose
  rw [Leads, view_setClose, view_spawn, view_requestClose]
  exact .single (.spawned t.session)

lemma view_marked {e : Entry} (he : s.sessions.lookup id = some e) :
    State.view c.kind { s with
      sessions := s.sessions.insert id { e with lifecycle := .closing } } = s.view c.kind := by
  have : (fun j => ((s.sessions.insert id { e with lifecycle := .closing }).lookup j).map
      fun e => (e.resource, e.owner)) = (s.view c.kind).session := by
    funext j
    rw [Assoc.lookup_insert_ite]
    split
    · rename_i hj; subst hj; simp [State.view, he]
    · rfl
  simp only [State.view, this]

/-! ### `revoke_owner` -/

lemma view_requestAll (s : State) (l : List Target) :
    (l.foldl (fun s x => s.requestClose x.1) s).view c.kind = s.view c.kind := by
  induction l generalizing s with
  | nil => rfl
  | cons x l ih => rw [List.foldl_cons, ih, view_requestClose]

lemma moves_spawnAll (s : State) (l : List Target) :
    Leads c o s { s with reapers := s.reapers ++ l.map fun x : Target => Reaper.session x.1 } := by
  induction l generalizing s with
  | nil => simpa [Leads, State.view] using Relation.ReflTransGen.refl
  | cons x l ih =>
    refine .head (.spawned x.1) ?_
    have := ih (s.spawn (.session x.1))
    simpa [Leads, State.view, State.spawn] using this

/-- A revocation may go on to do `todo`: a first listing finds no open in flight, and whatever the
revocation owes is still to do or has a reaper. -/
structure MayGoOn (o : OwnerId) (v : View) (d : Duty) (todo : List Target) : Prop where
  noOpen : d.owner = o → d.listed = false → v.NoOpen o
  owed : d.owner = o → ∀ x, v.Owed d x → x ∈ todo ∨ v.Attended x.1

lemma moves_setRevoke {pc : RevokePc} (ht : (s.view c.kind).revoke n = some (t.duty c.kind))
    (hm : MayGoOn o (s.view c.kind) (t.duty c.kind) (pc.todo c.kind)) :
    Leads c o s (s.setRevoke n t pc) := by
  rw [Leads, view_setRevoke]
  exact .single (.revoked n _ _ ht rfl hm.noOpen hm.owed)

lemma moves_revokeNext (err : Option HalError)
    (ht : (s.view c.kind).revoke n = some (t.duty c.kind))
    (hm : MayGoOn o (s.view c.kind) (t.duty c.kind) (if c.kind = .camera then [] else rest)) :
    Leads c o s (s.revokeNext c n t rest err) := by
  unfold State.revokeNext
  split
  · exact moves_setRevoke ht (by simpa [RevokePc.todo] using hm)
  · rename_i cur rest
    simp only
    split
    · rename_i hk
      exact moves_setRevoke ht (by simpa [RevokePc.todo, hk] using hm)
    · rename_i hk
      refine .trans (.single (.spawned cur.1)) (moves_setRevoke (s := s.spawn _) ht ?_)
      refine ⟨hm.noOpen, fun ho x hx => ?_⟩
      have hx := hm.owed ho x hx
      simp only [RevokePc.todo, if_neg hk, view_spawn, List.mem_cons] at hx ⊢
      rcases hx with (rfl | hx) | hx
      · exact .inr (.inl (by simp))
      · exact .inl hx
      · exact .inr (hx.imp_left (List.mem_append_left _))

lemma moves_requestNext (ht : (s.view c.kind).revoke n = some (t.duty c.kind))
    (hm : MayGoOn o (s.view c.kind) (t.duty c.kind) all) :
    Leads c o s (s.requestNext c n t todo all) := by
  unfold State.requestNext
  split
  · refine .trans (moves_spawnAll s all) (moves_revokeNext none ht ⟨hm.noOpen, fun ho x hx => ?_⟩)
    refine .inr ?_
    rcases hm.owed ho x hx with hx | hx
    · exact .inl (List.mem_append_right _ (List.mem_map_of_mem hx))
    · exact hx.imp_left (List.mem_append_left _)
  · exact moves_setRevoke ht hm

lemma mem_ownedBy {x : Target} : x ∈ s.ownedBy p ↔ (s.view c.kind).session x.1 = some (x.2, p) := by
  obtain ⟨id, r⟩ := x
  simp only [State.ownedBy, State.view, Assoc.mem_pick, decide_eq_true_eq, Option.map_eq_some_iff,
    Prod.mk.injEq]
  constructor
  · rintro ⟨_, e, he, ho, rfl, rfl⟩
    exact ⟨e, he, rfl, ho⟩
  · rintro ⟨e, he, hr, ho⟩
    exact ⟨id, e, he, ho, rfl, hr⟩

lemma moves_revokeCall (hn : s.revokes.lookup n = none) :
    Leads c o s { s with revokes := s.revokes.insert n ⟨p, .locking⟩ } := by
  have := view_setRevoke c.kind s n ⟨p, .locking⟩ .locking
  simp only [State.setRevoke] at this
  rw [Leads, this]
  exact .single (.revokeCall n p (by simp [State.view, hn]))

lemma view_revoke (ht : s.revokes.lookup n = some t) :
    (s.view c.kind).revoke n = some (t.duty c.kind) := by
  simp [State.view, ht]

/-- What a revocation owes that lists the sessions of its owner. -/
lemma mayGoOn_listed (ht : s.revokes.lookup n = some ⟨p, .locking⟩)
    (hperm : order.Perm (s.ownedBy p)) (hin : InOrder o s (.revokeSnapshot n order)) :
    MayGoOn o (s.view c.kind) (RevokeTask.duty c.kind ⟨p, .locking⟩) order := by
  refine ⟨fun ho _ => hin (by simp [ht, ← ho, RevokeTask.duty]), fun ho x hx => .inl ?_⟩
  have hx : x ∈ s.ownedBy p := mem_ownedBy.mpr (by simpa [View.Owed, RevokeTask.duty] using hx)
  exact hperm.mem_iff.mpr hx

lemma moves_listed (hk : c.kind ≠ .camera) (ht : s.revokes.lookup n = some ⟨p, .locking⟩)
    (hm : MayGoOn o (s.view c.kind) (RevokeTask.duty c.kind ⟨p, .locking⟩) order) :
    Leads c o s ((order.foldl (fun s x => s.requestClose x.1)
      s).revokeNext c n ⟨p, .locking⟩ order none) := by
  have hv := view_requestAll (c := c) s order
  rw [← hv] at hm
  rw [Leads, ← hv]
  refine moves_revokeNext none (hv ▸ view_revoke ht) ?_
  rwa [if_neg hk]

lemma moves_asked (ht : s.revokes.lookup n = some ⟨p, .requesting (cur :: todo) all⟩) :
    Leads c o s ((s.requestClose cur.1).requestNext c n
      ⟨p, .requesting (cur :: todo) all⟩ todo all) := by
  have hv := view_requestClose c.kind s cur.1
  rw [Leads, ← hv]
  refine moves_requestNext (hv ▸ view_revoke ht) ⟨fun _ hl => ?_, fun _ x hx => .inl ?_⟩
  · simp [RevokeTask.duty] at hl
  · simpa [View.Owed, RevokeTask.duty, RevokePc.todo] using hx

lemma mayGoOn_loop {pc : RevokePc} (hpc : pc ≠ .locking)
    (hx : p = o → ∀ x ∈ pc.todo c.kind, x ∈ rest ∨ (s.view c.kind).Attended x.1) :
    MayGoOn o (s.view c.kind) (RevokeTask.duty c.kind ⟨p, pc⟩) rest := by
  refine ⟨fun _ hl => ?_, fun ho x hx' => ?_⟩
  · simp [RevokeTask.duty, hpc] at hl
  · exact hx ho x (by simpa [View.Owed, RevokeTask.duty, hpc] using hx')

lemma State.Attended.view (h : s.Attended id) : (s.view c.kind).Attended id :=
  h.imp_right fun hs => by simp [State.view, hs]

/-- A failed close: the camera manager goes on, the others may only stop after the last. -/
lemma moves_revokeFailed {err : Option HalError}
    (ht : s.revokes.lookup n = some ⟨p, .waiting cur rest err⟩)
    (hc : p = o → c.kind ≠ .camera → ∀ x ∈ rest, (s.view c.kind).Attended x.1) :
    Leads c o s (s.revokeFailed c n ⟨p, .waiting cur rest err⟩ rest err e) := by
  unfold State.revokeFailed
  split
  · rename_i hk
    refine moves_revokeNext _ (view_revoke ht) (mayGoOn_loop nofun fun _ => ?_)
    simp [RevokePc.todo, hk]
  · rename_i hk
    refine moves_setRevoke (view_revoke ht) (mayGoOn_loop nofun fun ho x hx => .inr ?_)
    simp only [RevokePc.todo, if_neg hk] at hx
    exact hc ho hk x hx

lemma revokes_finishSession (s : State) (id : SessionId) :
    (s.finishSession id).revokes = s.revokes := by
  unfold State.finishSession
  split <;> rfl

/-! ### Reapers and the whole step -/

lemma session_finishSession (s : State) (id : SessionId) :
    (s.finishSession id).sessions.lookup id = none := by
  unfold State.finishSession
  split
  · assumption
  · exact AList.lookup_erase _ _

lemma reapers_finishSession (s : State) (id : SessionId) :
    (s.finishSession id).reapers = s.reapers := by
  unfold State.finishSession
  split <;> rfl

lemma moves_reap {x : Reaper} (hx : x ∈ s.reapers) :
    Leads c o s { s.reapWith c x with reapers := s.reapers.erase x } := by
  cases x with
  | session id =>
    refine .tail (moves_finishSession s id) ?_
    have hgone : ((s.finishSession id).view c.kind).session id = none := by
      simp [State.view, session_finishSession]
    have hr : ((s.finishSession id).view c.kind).reapers = s.reapers :=
      reapers_finishSession s id
    have := Move.reaperGone (o := o) id hgone
    rw [hr] at this
    exact this
  | reservation r id k =>
    have := Move.reaped (o := o) (v := s.view c.kind) r id k hx
    refine .single ?_
    have hl : ((if c.kind = .camera then (s.leases.quarantine r id k).1 else s.leases).release
        r id).1.holder = LeaseTable.unhold s.leases.holder r id := by
      rw [LeaseTable.holder_release]
      split
      · rw [LeaseTable.quarantine, LeaseTable.holder_keep]
      · rfl
    simp only [State.view, State.reapWith, hl] at this ⊢
    exact this

/-- An orderly step is a few moves of the view. -/
theorem step_moves {s' : State} {e : Event} (h : step c s e = some s') (hin : InOrder o s e)
    (hc : Clean c o s e) : Leads c o s s' := by
  cases step_did h with
  | openCall hn => exact moves_openCall hn hin
  | @moved _ _ t _ _ ht hgo =>
    obtain ⟨p, r, pc⟩ := t
    cases hgo with
    | found => exact moves_setOpen ht trivial .rfl (fun _ => trivial) nofun
    | missing | declined => exact moves_setOpen ht trivial .rfl nofun nofun
    | accepted | late => exact moves_setOpen ht trivial .rfl nofun fun _ hk => hk
  | refused ht he => exact moves_refused ht he
  | reserved ht hk => exact moves_reserved _ ht hk trivial fun _ hk' => (Option.some.inj hk').symm
  | unspawned ht hk => exact moves_reserved _ ht hk trivial nofun
  | @handed _ _ _ _ _ locked _ ht hh => exact moves_handed (s := { s with locked }) _ _ ht hh
  | gaveBack ht => exact moves_gaveBack ht
  | committed ht => exact moves_enter ht
  | attended ht => exact .tail (moves_enter ht) (.spawned _)
  | cancelling ht hno =>
    -- a refused commit would mean that the reservation is gone
    exact .single (.refused _ _ _ _ ht rfl fun p hp => hno (LeaseTable.keep_eq_true.mpr ⟨p, hp⟩))
  | dropOpen ht hf =>
    rw [Leads, view_setOpen]
    exact .single (.dropped (v := s.view c.kind) _ _ ht hf (hc _ ht))
  | operate hu => exact moves_looked hu
  | closeCall | worker => exact .refl
  | closeMoved _ ht hp hu =>
    rw [Leads, view_setClose]
    exact moves_looked hu
  | begun _ ht hp hu => exact (moves_looked hu).trans (moves_beginClose _ _ _ _)
  | marked ht hp hk he =>
    rw [Leads, ← view_marked he]
    exact moves_beginClose _ _ _ _
  | closeFinish => exact moves_finishSession s _
  | revokeCall hn => exact moves_revokeCall hn
  | listed hk ht hperm => exact moves_listed hk ht (mayGoOn_listed ht hperm hin)
  | asking _ ht hperm => exact moves_requestNext (view_revoke ht) (mayGoOn_listed ht hperm hin)
  | asked ht => exact moves_asked ht
  | completed ht => exact moves_setRevoke (view_revoke ht) (mayGoOn_loop nofun fun _ _ => .inl)
  | failed ht he =>
    refine moves_revokeFailed ht fun ho hk y hy => ?_
    have hrest := (hc hk _ ht ho (_, _) rfl).resolve_left (by rw [he]; nofun)
    exact (hrest y hy).view
  | expired ht => exact moves_revokeFailed ht fun ho hk y hy => (hc hk _ ht ho (_, _) rfl y hy).view
  | revokeFinish ht =>
    refine .trans (moves_finishSession s _) (moves_revokeNext _ (view_revoke ?_) ?_)
    · rw [revokes_finishSession, ht]
    · exact mayGoOn_loop nofun fun _ _ => .inl
  | reaped hx => exact moves_reap hx

end Moves

/-! ### What a teardown leaves behind -/

lemma inv_moves {v v' : View} (h : Moves o v v') (hi : Inv o v) : Inv o v' := by
  induction h with
  | refl => exact hi
  | tail _ hm ih => exact inv_move ih hm

lemma inv_empty (k : Kind) (o : OwnerId) : Inv o (State.view k {}) := by
  refine fun id => ⟨nofun, nofun, nofun, nofun, nofun, ?_⟩
  rintro ⟨n, d, hd, -⟩
  cases hd

/-- An orderly run: every step is in order and forgets no duty towards the owner. -/
abbrev Orderly (c : Config) (o : OwnerId) : List Event → State → Prop :=
  Machine.Runs (step c) (fun s e => InOrder o s e ∧ Clean c o s e) {}

lemma Orderly.inv {l : List Event} (h : Orderly c o l s) : Inv o (s.view c.kind) :=
  Machine.Runs.invariant (I := fun s => Inv o (s.view c.kind)) h (inv_empty c.kind o)
    fun _ _ _ hi hok hs => inv_moves (step_moves hs hok.1 hok.2) hi

def RevokePc.Returned : RevokePc → Prop
  | .returned _ => True
  | _ => False

instance : DecidablePred RevokePc.Returned := fun pc => by
  cases pc <;> unfold RevokePc.Returned <;> infer_instance

/-- Everything has come to rest: the opens of the owner have returned or been dropped, revocation
`n` is one of the owner's and they have all returned, every worker has finished and every reaper
has run. -/
@[mk_iff]
structure Quiescent (o : OwnerId) (n : ℕ) (s : State) : Prop where
  opens : ∀ id t, s.opens.lookup id = some t → t.owner = o → ¬t.pc.InFlight
  revoked : (s.revokes.lookup n).map RevokeTask.owner = some o
  revokes : ∀ n t, s.revokes.lookup n = some t → t.owner = o → t.pc.Returned
  workers : ∀ id w, s.workers.lookup id = some w → w.isFinished = true
  reapers : s.reapers = []

instance (o : OwnerId) (n : ℕ) (s : State) : Decidable (Quiescent o n s) :=
  decidable_of_iff' _ (quiescent_iff o n s)

/-- At rest nobody is left to give a lease of the owner back, so there is none. -/
lemma Inv.quiescent (hi : Inv o (s.view c.kind)) (hq : Quiescent o n s) :
    (∀ r h, s.leases.holder r = some h → h.owner ≠ o) ∧
      ∀ id e, s.sessions.lookup id = some e → e.owner ≠ o := by
  have hreapers : (s.view c.kind).reapers = [] := hq.reapers
  have hrev : (s.view c.kind).Revoked o := by
    obtain ⟨t, ht, hto⟩ := Option.map_eq_some_iff.mp hq.revoked
    have hret := hq.revokes n t ht hto
    refine ⟨n, _, view_revoke ht, hto, ?_⟩
    cases hpc : t.pc <;> simp_all [RevokePc.Returned, RevokeTask.duty]
  have hsession : ∀ id r, (s.view c.kind).session id ≠ some (r, o) := by
    intro id r hs
    rcases (hi.doomed hrev).2 id r hs with hx | ⟨m, d, hd, ho, hx⟩
    · exact List.not_mem_nil (hreapers ▸ hx)
    · obtain ⟨t, ht, rfl⟩ := Option.map_eq_some_iff.mp hd
      have hret := hq.revokes m t ht ho
      cases hpc : t.pc <;> simp_all [RevokePc.Returned, RevokeTask.duty, RevokePc.todo]
  constructor
  · rintro r ⟨id, _, k⟩ hr rfl
    rcases (hi id).covered r k hr with ⟨t, ht, hh⟩ | ⟨k, (hx : _ ∈ s.reapers)⟩ | hs
    · exact hq.opens id t ht ((hi id).one ht hr).1 hh.inFlight
    · exact List.not_mem_nil (hq.reapers ▸ hx)
    · exact hsession _ _ hs
  · rintro id e he rfl
    exact hsession id e.resource (by simp [State.view, he])

/-- **No lease is left behind** by an orderly teardown: once everything has come to rest the table
has no lease of the owner and the manager no session of it, and a lease conflict is never about
one of its leases. -/
theorem orderly_teardown_releases (c : Config) (o : OwnerId) {n : ℕ} {l : List Event} {s : State}
    (hrun : Orderly c o l s) (hq : Quiescent o n s) :
    (∀ r a, s.leases.active.lookup r = some a → a.ownerId ≠ o) ∧
    (∀ id e, s.sessions.lookup id = some e → e.owner ≠ o) ∧
    ∀ r id p fresh, (s.leases.reserveControl r id p fresh).2 =
        .error (LeaseTable.leaseConflict r) →
      ∃ a, s.leases.active.lookup r = some a ∧ a.ownerId ≠ o := by
  obtain ⟨hholder, hsession⟩ := hrun.inv.quiescent hq
  have hactive : ∀ r a, s.leases.active.lookup r = some a → a.ownerId ≠ o := by
    intro r a ha
    exact hholder r ⟨a.sessionId, a.ownerId, a.token⟩ (by simp [LeaseTable.holder, ha])
  refine ⟨hactive, hsession, fun r id p fresh h => ?_⟩
  cases ha : s.leases.active.lookup r with
  | some a => exact ⟨a, rfl, hactive r a ha⟩
  | none =>
    -- a free resource is refused only when its generations are used up
    simp only [LeaseTable.reserveControl, ha, Option.isSome_none, Bool.false_eq_true,
      if_false] at h
    split at h <;> simp [LeaseTable.generationExhausted, LeaseTable.leaseConflict,
      LeaseTable.denied, runtimeError, HalError.new, HalError.withResourceId] at h

/-- One session is opened, its owner revoked and its reaper run. -/
def revokedRun : List Event :=
  [.openCall ⟨"s1"⟩ ⟨"a"⟩ ⟨"usb:1"⟩, .enumerated ⟨"s1"⟩ (.ok ()), .reserve ⟨"s1"⟩ ⟨"l1"⟩ (.ok ()),
    .worker ⟨"s1"⟩ .opened, .replied ⟨"s1"⟩, .commit ⟨"s1"⟩, .revokeCall 0 ⟨"a"⟩,
    .revokeSnapshot 0 [(⟨"s1"⟩, ⟨"usb:1"⟩)], .worker ⟨"s1"⟩ .stop,
    .worker ⟨"s1"⟩ (.closed (.ok ())), .worker ⟨"s1"⟩ .done, .revokeCompleted 0, .revokeFinish 0,
    .reap (.session ⟨"s1"⟩)]

theorem orderly_teardown_releases_revoked : ∃ s,
    Orderly ⟨.usb, "5s"⟩ ⟨"a"⟩ revokedRun s ∧ Quiescent ⟨"a"⟩ 0 s ∧
      ∀ a, s.leases.active.lookup ⟨"usb:1"⟩ = some a → a.ownerId ≠ ⟨"a"⟩ := by
  have hexec : ∃ s ∈ Machine.exec (step ⟨.usb, "5s"⟩)
      (fun s e => InOrder ⟨"a"⟩ s e ∧ Clean ⟨.usb, "5s"⟩ ⟨"a"⟩ s e) {} revokedRun,
      Quiescent ⟨"a"⟩ 0 s := by decide
  obtain ⟨s, hs, hq⟩ := hexec
  have hrun : Orderly ⟨.usb, "5s"⟩ ⟨"a"⟩ revokedRun s := Machine.runs_of_exec hs
  exact ⟨s, hrun, hq, (orderly_teardown_releases ⟨.usb, "5s"⟩ ⟨"a"⟩ hrun hq).1 ⟨"usb:1"⟩⟩

/-- An open is dropped while it waits for its worker, and its owner revoked after that. -/
def abortedRun (k : Kind) : List Event :=
  [.openCall ⟨"s1"⟩ ⟨"a"⟩ ⟨"r:1"⟩, .enumerated ⟨"s1"⟩ (.ok ()), .reserve ⟨"s1"⟩ ⟨"l1"⟩ (.ok ()),
    .dropOpen ⟨"s1"⟩, .revokeCall 0 ⟨"a"⟩, .revokeSnapshot 0 [], .worker ⟨"s1"⟩ .opened] ++
  (if k = .camera then [.worker ⟨"s1"⟩ .mapped] else []) ++
  [.worker ⟨"s1"⟩ .stop, .worker ⟨"s1"⟩ (.closed (.ok ())), .worker ⟨"s1"⟩ .done]

/-- The run is in order and comes to rest, and the lease is still there. -/
def AbortedLeaks (k : Kind) : Prop :=
  ∃ s ∈ Machine.exec (step ⟨k, "5s"⟩) (InOrder ⟨"a"⟩) {} (abortedRun k),
    Quiescent ⟨"a"⟩ 0 s ∧
    s.leases.active.lookup ⟨"r:1"⟩ = some ⟨⟨"s1"⟩, ⟨"a"⟩, ⟨⟨"l1"⟩, 1, .control⟩, false⟩ ∧
    (s.leases.reserveControl ⟨"r:1"⟩ ⟨"s2"⟩ ⟨"b"⟩ ⟨"l2"⟩).2 =
      .error (LeaseTable.leaseConflict ⟨"r:1"⟩)

instance (k : Kind) : Decidable (AbortedLeaks k) :=
  inferInstanceAs (Decidable (∃ s ∈ _, _ ∧ _ ∧ _))

theorem aborted_open_leaks :
    AbortedLeaks .usb ∧ AbortedLeaks .gpio ∧ AbortedLeaks .camera := by decide

end RobotHal.WorkerManager
