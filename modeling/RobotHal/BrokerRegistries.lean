import RobotHal.BrokerIsolation
import RobotHal.Recent

/-!
# What a connection remembers of its sessions

A registry has a record for every session that the connection opened, and the order in which the
closed ones were closed. A close first looks the session up, then waits for the runtime, and only
then records the session as closed, so several closes of one session may be under way. The record
of a session that is not closed stays; of the closed ones the registry keeps the most recent.
-/

namespace RobotHal.Broker

/-! ### Registries -/

namespace SessionRegistry

variable {π : Type} {g : SessionRegistry π} {removable : SessionRecord π → Bool}
  {opened : List (SessionId × SessionRecord π)} {closes : List SessionId} {id : SessionId}

/-- A registry after these sessions were opened, with these records, and of them these were closed,
in this order. -/
structure Keeps (g : SessionRegistry π) (opened : List (SessionId × SessionRecord π))
    (closes : List SessionId) : Prop where
  unclosed : ∀ x ∈ opened, x.2.closed = false
  fresh : (opened.map Prod.fst).Nodup
  closes_nodup : closes.Nodup
  closes_opened : ∀ id ∈ closes, id ∈ opened.map Prod.fst
  order : g.closedOrder = recent closedSessionRetention closes
  lookup : ∀ id x, g.sessions.lookup id = some x ↔ (id ∉ closes ∧ (id, x) ∈ opened)
    ∨ (id ∈ g.closedOrder ∧ ∃ y, (id, y) ∈ opened ∧ x = { y with closed := true })

lemma keeps_initial : Keeps ({} : SessionRegistry π) [] [] where
  unclosed := nofun
  fresh := .nil
  closes_nodup := .nil
  closes_opened := nofun
  order := rfl
  lookup := by simp

lemma trim_spec {sessions : Assoc SessionId (SessionRecord π)} {order : List SessionId}
    (hnodup : order.Nodup)
    (hremovable : ∀ id ∈ order, ∃ x, sessions.lookup id = some x ∧ removable x = true) :
    (trim removable sessions order).closedOrder = recent closedSessionRetention order
      ∧ ∀ id, (trim removable sessions order).sessions.lookup id =
        if id ∈ order ∧ id ∉ recent closedSessionRetention order then none
        else sessions.lookup id := by
  induction order generalizing sessions with
  | nil => exact ⟨rfl, fun id => by simp [trim]⟩
  | cons evicted order ih =>
    obtain ⟨hnot, hnodup⟩ := List.nodup_cons.mp hnodup
    unfold trim
    split
    · rename_i hlong
      obtain ⟨x, hx, hrem⟩ := hremovable evicted List.mem_cons_self
      have hcut : recent closedSessionRetention (evicted :: order)
          = recent closedSessionRetention order := by
        have hlen : (evicted :: order).length - closedSessionRetention
            = order.length - closedSessionRetention + 1 := by
          rw [List.length_cons] at hlong ⊢
          omega
        rw [recent, hlen, List.drop_succ_cons, recent]
      have herase (id : SessionId) : (sessions.erase evicted).lookup id =
          if id = evicted then none else sessions.lookup id := Assoc.lookup_erase_ite ..
      rw [hx, Option.any_some, hrem, if_pos rfl, hcut]
      have hleft : ∀ id ∈ order, ∃ x, (sessions.erase evicted).lookup id = some x
          ∧ removable x = true := by
        intro id hid
        rw [herase, if_neg (by rintro rfl; exact hnot hid)]
        exact hremovable id (List.mem_cons_of_mem _ hid)
      obtain ⟨horder, hlookup⟩ := ih hnodup hleft
      refine ⟨horder, fun id => ?_⟩
      rw [hlookup, herase]
      by_cases hid : id = evicted
      · subst hid
        have hgone : id ∉ recent closedSessionRetention order := fun h => hnot (mem_of_mem_recent h)
        simp [hnot, hgone]
      · simp [hid]
    · rename_i hshort
      have hall : recent closedSessionRetention (evicted :: order) = evicted :: order :=
        recent_of_length_le (Nat.not_lt.mp hshort)
      rw [hall]
      exact ⟨rfl, fun id => (if_neg fun h => h.2 h.1).symm⟩

lemma Keeps.record_unique (h : g.Keeps opened closes) {x y : SessionRecord π}
    (hx : (id, x) ∈ opened) (hy : (id, y) ∈ opened) : x = y :=
  congrArg Prod.snd (List.inj_on_of_nodup_map h.fresh hx hy rfl)

lemma Keeps.order_closes (h : g.Keeps opened closes) (hid : id ∈ g.closedOrder) : id ∈ closes := by
  rw [h.order] at hid
  exact mem_of_mem_recent hid

lemma Keeps.closed_iff (h : g.Keeps opened closes) :
    (∃ x, g.sessions.lookup id = some x ∧ x.closed = true) ↔ id ∈ g.closedOrder := by
  constructor
  · rintro ⟨x, hx, hclosed⟩
    rcases (h.lookup id x).mp hx with ⟨-, hopened⟩ | ⟨hid, -⟩
    · rw [h.unclosed _ hopened] at hclosed
      cases hclosed
    · exact hid
  · intro hid
    obtain ⟨⟨id', y⟩, hy, rfl⟩ := List.mem_map.mp (h.closes_opened id (h.order_closes hid))
    exact ⟨_, (h.lookup _ _).mpr (.inr ⟨hid, y, hy, rfl⟩), rfl⟩

lemma Keeps.register (h : g.Keeps opened closes) {x : SessionRecord π} (hx : x.closed = false)
    (hfresh : id ∉ opened.map Prod.fst) : (g.register id x).Keeps (opened ++ [(id, x)]) closes where
  unclosed := by
    intro y hy
    rcases List.mem_append.mp hy with hy | hy
    · exact h.unclosed y hy
    · rw [List.mem_singleton.mp hy]
      exact hx
  fresh := by
    rw [List.map_append]
    exact List.nodup_append.mpr ⟨h.fresh, List.nodup_singleton _, fun a ha b hb hab =>
      hfresh (by rwa [hab, List.mem_singleton.mp hb] at ha)⟩
  closes_nodup := h.closes_nodup
  closes_opened := fun id' hid' => by
    rw [List.map_append]
    exact List.mem_append_left _ (h.closes_opened id' hid')
  order := h.order
  lookup := by
    intro id' y
    have hnot : id ∉ closes := fun hid => hfresh (h.closes_opened id hid)
    have hnone : ∀ z, (id, z) ∉ opened := fun z hz => hfresh (List.mem_map_of_mem hz)
    change (g.sessions.insert id x).lookup id' = some y ↔ _
    rw [Assoc.lookup_insert_ite]
    split
    · rename_i heq
      subst heq
      have horder : id' ∉ g.closedOrder := fun hid => hnot (h.order_closes hid)
      simp [SessionRegistry.register, hnot, horder, hnone, eq_comm]
    · rename_i hne
      rw [h.lookup]
      simp [SessionRegistry.register, hne]

lemma Keeps.of_unclosed (h : g.Keeps opened closes) {x : SessionRecord π}
    (hlookup : g.sessions.lookup id = some x) (hx : x.closed = false) :
    id ∉ closes ∧ (id, x) ∈ opened := by
  rcases (h.lookup id x).mp hlookup with hopen | ⟨-, y, -, rfl⟩
  · exact hopen
  · cases hx

/-- A session that is open is marked, listed, and the oldest of the list gives way. -/
lemma Keeps.mark (h : g.Keeps opened closes)
    (hremovable : ∀ x, x.closed = true → removable x = true) {x : SessionRecord π}
    (hlookup : g.sessions.lookup id = some x) (hx : x.closed = false) :
    (trim removable (g.sessions.insert id { x with closed := true })
      (g.closedOrder ++ [id])).Keeps opened (closes ++ [id]) := by
  obtain ⟨hnot, hopened⟩ := h.of_unclosed hlookup hx
  have hunlisted : id ∉ g.closedOrder := fun hid => hnot (h.order_closes hid)
  have hnodup : (g.closedOrder ++ [id]).Nodup := by
    refine List.nodup_append.mpr ⟨?_, List.nodup_singleton id, fun a ha b hb hab =>
      hunlisted (by rwa [hab, List.mem_singleton.mp hb] at ha)⟩
    rw [h.order]
    exact (recent_sublist _ _).nodup h.closes_nodup
  have hlisted : ∀ id' ∈ g.closedOrder ++ [id], ∃ y,
      (g.sessions.insert id { x with closed := true }).lookup id' = some y ∧
        removable y = true := by
    intro id' hid'
    rw [Assoc.lookup_insert_ite]
    split
    · exact ⟨_, rfl, hremovable _ rfl⟩
    · rename_i hne
      have hold := (List.mem_append.mp hid').resolve_right fun hid =>
        hne (List.mem_singleton.mp hid)
      obtain ⟨y, hy, hclosed⟩ := h.closed_iff.mpr hold
      exact ⟨y, hy, hremovable y hclosed⟩
  obtain ⟨horder, hspec⟩ := trim_spec hnodup hlisted
  have hrecent : recent closedSessionRetention (g.closedOrder ++ [id])
      = recent closedSessionRetention (closes ++ [id]) := by rw [h.order, recent_recent_snoc]
  refine ⟨h.unclosed, h.fresh, ?_, ?_, horder.trans hrecent, fun id' y => ?_⟩
  · exact List.nodup_append.mpr ⟨h.closes_nodup, List.nodup_singleton id, fun a ha b hb hab =>
      hnot (by rwa [hab, List.mem_singleton.mp hb] at ha)⟩
  · intro id' hid'
    rcases List.mem_append.mp hid' with hid' | hid'
    · exact h.closes_opened id' hid'
    · rw [List.mem_singleton.mp hid']
      exact List.mem_map_of_mem hopened
  · rw [hspec, horder, hrecent, Assoc.lookup_insert_ite]
    by_cases hid : id' = id
    · subst hid
      have hmem : id' ∈ recent closedSessionRetention (closes ++ [id']) :=
        mem_recent_snoc (by decide)
      rw [if_neg fun hgone => hgone.2 hmem, if_pos rfl]
      constructor
      · rintro ⟨⟩
        exact .inr ⟨hmem, x, hopened, rfl⟩
      · rintro (⟨hnew, -⟩ | ⟨-, z, hz, rfl⟩)
        · exact (hnew (List.mem_append_right _ (List.mem_singleton_self _))).elim
        · rw [h.record_unique hz hopened]
    · have hcloses : id' ∈ closes ++ [id] ↔ id' ∈ closes := by simp [hid]
      have hrec : id' ∈ recent closedSessionRetention (closes ++ [id]) → id' ∈ g.closedOrder := by
        intro hmem
        rw [h.order]
        exact (mem_recent_of_snoc hmem).resolve_right hid
      rw [if_neg hid, hcloses]
      split
      · -- the session was evicted: it is closed, and no longer among the recent
        rename_i hgone
        have hclosed : id' ∈ closes :=
          h.order_closes ((List.mem_append.mp hgone.1).resolve_right fun hid' =>
            hid (List.mem_singleton.mp hid'))
        simp [hgone.2, hclosed]
      · rename_i hkept
        have hiff : id' ∈ recent closedSessionRetention (closes ++ [id]) ↔ id' ∈ g.closedOrder := by
          refine ⟨hrec, fun hmem => ?_⟩
          by_contra hout
          exact hkept ⟨List.mem_append_left _ hmem, hout⟩
        rw [h.lookup, hiff]

/-- The sessions in the order in which they were closed, when one more close returned. -/
def closing (closes : List SessionId) (id : SessionId) : List SessionId :=
  if id ∈ closes then closes else closes ++ [id]

lemma Keeps.recordClosedWith (h : g.Keeps opened closes)
    (hremovable : ∀ x, x.closed = true → removable x = true) (hid : id ∈ opened.map Prod.fst) :
    (recordClosedWith removable g id).Keeps opened (closing closes id) := by
  obtain ⟨⟨id', x⟩, hx, heq⟩ := List.mem_map.mp hid
  obtain rfl : id' = id := heq
  unfold SessionRegistry.recordClosedWith closing
  by_cases hclosed : id' ∈ closes
  · rw [if_pos hclosed]
    cases hlookup : g.sessions.lookup id' with
    | none => exact h
    | some y =>
      have hy : y.closed = true := by
        rcases (h.lookup _ _).mp hlookup with ⟨hnot, -⟩ | ⟨-, z, -, rfl⟩
        · exact (hnot hclosed).elim
        · rfl
      simpa [hy] using h
  · have hlookup := (h.lookup _ _).mpr (.inl ⟨hclosed, hx⟩)
    have hopen : x.closed = false := h.unclosed _ hx
    rw [if_neg hclosed]
    simpa [hlookup, hopen] using h.mark hremovable hlookup hopen

lemma Keeps.opened_of_lookup (h : g.Keeps opened closes)
    (hlookup : (g.sessions.lookup id).isSome) : id ∈ opened.map Prod.fst := by
  obtain ⟨x, hx⟩ := Option.isSome_iff_exists.mp hlookup
  rcases (h.lookup id x).mp hx with ⟨-, hopened⟩ | ⟨-, y, hopened, -⟩
  · exact List.mem_map_of_mem hopened
  · exact List.mem_map_of_mem hopened

lemma Keeps.lookup_recent (h : g.Keeps opened closes) {x : SessionRecord π}
    (hx : (id, x) ∈ opened) (hid : id ∈ recent closedSessionRetention closes) :
    g.sessions.lookup id = some { x with closed := true } :=
  (h.lookup _ _).mpr (.inr ⟨h.order ▸ hid, x, hx, rfl⟩)

/-- What a registry promises about the sessions that were opened and, in this order, closed. -/
structure Exact (g : SessionRegistry π) (opened : List (SessionId × SessionRecord π))
    (closes : List SessionId) : Prop where
  closed : ∀ id, (∃ x, g.sessions.lookup id = some x ∧ x.closed = true) ↔ id ∈ g.closedOrder
  nodup : g.closedOrder.Nodup
  bounded : g.closedOrder.length ≤ 256
  order : g.closedOrder = recent 256 closes
  unclosed : ∀ id x, (id, x) ∈ opened → id ∉ closes → g.sessions.lookup id = some x

lemma Keeps.exact (h : g.Keeps opened closes) : g.Exact opened closes where
  closed := fun _ => h.closed_iff
  nodup := by
    rw [h.order]
    exact (recent_sublist _ _).nodup h.closes_nodup
  bounded := by
    rw [h.order, length_recent]
    exact Nat.min_le_left ..
  order := h.order
  unclosed := fun id x hx hnot => (h.lookup id x).mpr (.inl ⟨hnot, hx⟩)

end SessionRegistry

/-! ### A close request with the token of its session -/

section Close

variable {sessionId : String} {wire : Option V1.LeaseToken} {id : SessionId}

lemma sessionId_of_parse {token : LeaseToken}
    (h : parseSessionLease sessionId wire = .ok (id, token)) :
    SessionId.parse sessionId = .ok id := by
  obtain ⟨session, hsession, hrest⟩ := bind_eq_ok.mp h
  obtain ⟨_, -, hlease⟩ := bind_eq_ok.mp hrest
  obtain ⟨_, -, hpair⟩ := bind_eq_ok.mp hlease
  obtain ⟨rfl, -⟩ := Prod.mk.inj (Except.ok.inj hpair)
  exact mapError_eq_ok.mp hsession

lemma parseControlSessionLease_of_parse {token : LeaseToken} (hardwareClass : String)
    (h : parseSessionLease sessionId wire = .ok (id, token)) (hmode : token.mode = .control) :
    parseControlSessionLease sessionId wire hardwareClass = .ok (id, token) := by
  unfold parseControlSessionLease
  rw [h]
  change (if token.mode ≠ .control then _ else _) = _
  rw [if_neg (not_not.mpr hmode)]
  rfl

lemma CanDispatch.validateSession_own {g : CanSessionRegistry}
    {record : SessionRecord CanReceiveWireProfile} (hlookup : g.sessions.lookup id = some record)
    (operation : String) :
    validateSession g id record.lease .observe operation true = .ok record := by
  have hallows : leaseModeAllows record.lease.mode .observe = true := by
    cases record.lease.mode <;> rfl
  simp [validateSession, hlookup, hallows]

lemma validateRecord_own {π : Type} (record : SessionRecord π) (operation : String) :
    validateRecord record record.lease operation true = .ok record := by
  simp [validateRecord]

variable {g : Registries}

lemma closeSession_own {record : SessionRecord CanReceiveWireProfile}
    (hlookup : g.can.sessions.lookup id = some record)
    (hparse : parseSessionLease sessionId wire = .ok (id, record.lease)) :
    closeSession g sessionId wire = .ok (closeOnce record id record.lease) := by
  have hcan : CanDispatch.isCanSession g.can sessionId = true := by
    rw [CanDispatch.isCanSession, sessionId_of_parse hparse]
    simp [hlookup]
  unfold closeSession CanDispatch.close
  rw [if_pos hcan, hparse]
  change (CanDispatch.validateSession _ _ _ _ _ _).bind _ = _
  rw [CanDispatch.validateSession_own hlookup]
  rfl

lemma close_own {π : Type} {record : SessionRecord π} {transport : String}
    {validate : SessionId × LeaseToken → HalResult (SessionRecord π)}
    (hvalid : validate (id, record.lease) = .ok record) (hmode : record.lease.mode = .control)
    (hparse : parseSessionLease sessionId wire = .ok (id, record.lease)) :
    (parseControlSessionLease sessionId wire transport >>= fun x =>
      validate x >>= fun record => pure (closeOnce record x.1 x.2))
        = .ok (closeOnce record id record.lease) := by
  rw [parseControlSessionLease_of_parse transport hparse hmode]
  change (validate _).bind _ = _
  rw [hvalid]
  rfl

lemma closeUsb_own {record : SessionRecord SessionKind}
    (hlookup : g.usbGpio.sessions.lookup id = some record) (hkind : record.profile = .usb)
    (hmode : record.lease.mode = .control)
    (hparse : parseSessionLease sessionId wire = .ok (id, record.lease)) :
    UsbGpioDispatch.closeUsb g.usbGpio sessionId wire
      = .ok (closeOnce record id record.lease) :=
  close_own (by simp [UsbGpioDispatch.validate, hlookup, hkind, validateRecord_own]) hmode hparse

lemma closeGpio_own {record : SessionRecord SessionKind}
    (hlookup : g.usbGpio.sessions.lookup id = some record) (hkind : record.profile = .gpio)
    (hmode : record.lease.mode = .control)
    (hparse : parseSessionLease sessionId wire = .ok (id, record.lease)) :
    UsbGpioDispatch.closeGpio g.usbGpio sessionId wire
      = .ok (closeOnce record id record.lease) :=
  close_own (by simp [UsbGpioDispatch.validate, hlookup, hkind, validateRecord_own]) hmode hparse

lemma closeCamera_own {record : SessionRecord Unit}
    (hlookup : g.camera.sessions.lookup id = some record) (hmode : record.lease.mode = .control)
    (hparse : parseSessionLease sessionId wire = .ok (id, record.lease)) :
    CameraDispatch.close g.camera sessionId wire = .ok (closeOnce record id record.lease) :=
  close_own (by simp [CameraDispatch.validate, hlookup, validateRecord_own]) hmode hparse

variable {token : LeaseToken}

lemma session_of_close {π : Type} {parsed : HalResult (SessionId × LeaseToken)}
    {validate : SessionId × LeaseToken → HalResult (SessionRecord π)}
    (h : (parsed >>= fun x => validate x >>= fun record => pure (closeOnce record x.1 x.2))
      = .ok (.calls id token)) : ∃ x, parsed = .ok x ∧ x.1 = id := by
  obtain ⟨x, hx, hrest⟩ := bind_eq_ok.mp h
  obtain ⟨record, -, hout⟩ := bind_eq_ok.mp hrest
  have hcalls := Except.ok.inj hout
  unfold closeOnce at hcalls
  split at hcalls
  · cases hcalls
  · exact ⟨x, hx, (Outcome.calls.inj hcalls).1⟩

lemma CanDispatch.called_close {g : CanSessionRegistry}
    (h : close g sessionId wire = .ok (.calls id token)) : (g.sessions.lookup id).isSome := by
  obtain ⟨x, hx, rfl⟩ := session_of_close h
  rw [parseSessionLease_session hx]
  exact owned_close h

lemma UsbGpioDispatch.called_closeUsb {g : UsbGpioSessionRegistry}
    (h : closeUsb g sessionId wire = .ok (.calls id token)) : (g.sessions.lookup id).isSome := by
  obtain ⟨x, hx, rfl⟩ := session_of_close h
  rw [parseSessionLease_session (parseControlSessionLease_parse hx).1]
  exact owned_closeUsb h

lemma UsbGpioDispatch.called_closeGpio {g : UsbGpioSessionRegistry}
    (h : closeGpio g sessionId wire = .ok (.calls id token)) : (g.sessions.lookup id).isSome := by
  obtain ⟨x, hx, rfl⟩ := session_of_close h
  rw [parseSessionLease_session (parseControlSessionLease_parse hx).1]
  exact owned_closeGpio h

lemma CameraDispatch.called_close {g : CameraSessionRegistry}
    (h : close g sessionId wire = .ok (.calls id token)) : (g.sessions.lookup id).isSome := by
  obtain ⟨x, hx, rfl⟩ := session_of_close h
  rw [parseSessionLease_session (parseControlSessionLease_parse hx).1]
  exact owned_close h

end Close

/-! ### One connection -/

namespace Sessions

/-- The registries of a connection, and the closes that wait for the runtime. What was opened, and
the sessions of a transport in the order they were closed, is for the record. -/
structure State where
  registries : Registries := {}
  waiting : List (SessionId × Transport) := []
  opened : List (SessionId × Opened) := []
  closes : Transport → List SessionId := fun _ => []

inductive Event
  | opened (id : SessionId) (what : Opened)
  /-- a close request is dispatched -/
  | close (r : SessionRequest)
  /-- the runtime has closed the session of a close that waits -/
  | closed (i : ℕ)
  /-- the runtime's close failed -/
  | failed (i : ℕ)

end Sessions

deriving instance DecidableEq for CanReceiveWireProfile, SessionRecord, Opened

namespace Opened

def can? : Opened → Option (SessionRecord CanReceiveWireProfile)
  | .can record => some record
  | _ => none

def usbGpio? : Opened → Option (SessionRecord SessionKind)
  | .usbGpio record => some record
  | _ => none

def camera? : Opened → Option (SessionRecord Unit)
  | .camera record => some record
  | _ => none

/-- The token in the record; of a serial session the broker keeps none. -/
def lease? : Opened → Option LeaseToken
  | .serial => none
  | .can record => some record.lease
  | .usbGpio record => some record.lease
  | .camera record => some record.lease

def transport : Opened → Transport
  | .serial => .serial
  | .can _ => .can
  | .usbGpio _ => .usbGpio
  | .camera _ => .camera

/-- The request that closes such a session. -/
def closeOp : Opened → SessionOp
  | .serial => .closeSession
  | .can _ => .closeSession
  | .usbGpio record =>
    match record.profile with
    | .usb => .closeUsb
    | .gpio => .closeGpio
  | .camera _ => .closeCamera

/-- What an open leaves behind: the record is not closed, and the request passed the gate of its
transport. The lease table of USB, GPIO and camera grants control only. -/
def granted (limits : NegotiatedLimits) : Opened → Bool
  | .serial => true
  | .can record => !record.closed && decide (canWireMinor ≤ limits.protocolMinor)
  | .usbGpio record =>
    !record.closed && decide (record.lease.mode = .control)
      && decide (usbGpioWireMinor ≤ limits.protocolMinor)
  | .camera record =>
    !record.closed && decide (record.lease.mode = .control)
      && decide (cameraWireMinor ≤ limits.protocolMinor)

end Opened

namespace Sessions

/-- What was opened of one transport. -/
def openedAs {β : Type} (pick : Opened → Option β) (opened : List (SessionId × Opened)) :
    List (SessionId × β) := opened.filterMap fun x => (pick x.2).map (Prod.mk x.1)

/-- The registry that a close request is about. -/
def closeTransport (g : Registries) (r : SessionRequest) : Option Transport :=
  match r.op with
  | .closeSession => some (if CanDispatch.isCanSession g.can r.sessionId then .can else .serial)
  | .closeUsb | .closeGpio => some .usbGpio
  | .closeCamera => some .camera
  | _ => none

namespace State

/-- Identifiers are drawn at random and do not repeat. -/
def step (limits : NegotiatedLimits) (s : State) : Event → Option State
  | .opened id what =>
    if id ∈ s.opened.map Prod.fst ∨ what.granted limits = false then none
    else
      some { s with
        registries := s.registries.register id what
        opened := s.opened ++ [(id, what)] }
  | .close r =>
    match closeTransport s.registries r with
    | none => none
    | some transport =>
      match dispatchOperation limits s.registries r with
      | .ok (.calls id _) => some { s with waiting := s.waiting ++ [(id, transport)] }
      | _ => some s
  | .closed i =>
    match s.waiting[i]? with
    | none => none
    | some (id, transport) =>
      some { s with
        registries := s.registries.recordClosed id transport
        waiting := s.waiting.eraseIdx i
        closes := fun t =>
          if t = transport then SessionRegistry.closing (s.closes t) id else s.closes t }
  | .failed i =>
    if i < s.waiting.length then some { s with waiting := s.waiting.eraseIdx i } else none

abbrev Runs (limits : NegotiatedLimits) := Machine.Runs (step limits) fun _ _ => True

/-- The session is one of its transport that this connection opened. -/
def Known (opened : List (SessionId × Opened)) (id : SessionId) : Transport → Prop
  | .serial => True
  | .can => id ∈ (openedAs Opened.can? opened).map Prod.fst
  | .usbGpio => id ∈ (openedAs Opened.usbGpio? opened).map Prod.fst
  | .camera => id ∈ (openedAs Opened.camera? opened).map Prod.fst

/-- Each registry is what its opens and closes make it. -/
structure Kept (limits : NegotiatedLimits) (s : State) : Prop where
  granted : ∀ x ∈ s.opened, x.2.granted limits = true
  known : ∀ x ∈ s.waiting, Known s.opened x.1 x.2
  can : s.registries.can.Keeps (openedAs Opened.can? s.opened) (s.closes .can)
  usbGpio : s.registries.usbGpio.Keeps (openedAs Opened.usbGpio? s.opened) (s.closes .usbGpio)
  camera : s.registries.camera.Keeps (openedAs Opened.camera? s.opened) (s.closes .camera)

end State

variable {β : Type} {pick : Opened → Option β} {opened : List (SessionId × Opened)}
  {id : SessionId} {what : Opened}

lemma mem_openedAs {x : β} :
    (id, x) ∈ openedAs pick opened ↔ ∃ what, (id, what) ∈ opened ∧ pick what = some x := by
  simp [openedAs]

lemma fresh_openedAs (h : id ∉ opened.map Prod.fst) : id ∉ (openedAs pick opened).map Prod.fst := by
  intro hmem
  obtain ⟨y, hy, rfl⟩ := List.mem_map.mp hmem
  obtain ⟨x, hx, hxy⟩ := List.mem_filterMap.mp hy
  obtain ⟨_, -, rfl⟩ := Option.map_eq_some_iff.mp hxy
  exact h (List.mem_map_of_mem hx)

lemma keeps_opened {π : Type} {pick : Opened → Option (SessionRecord π)} {g : SessionRegistry π}
    {closes : List SessionId} (h : g.Keeps (openedAs pick opened) closes)
    (hfresh : id ∉ opened.map Prod.fst) (hunclosed : ∀ x, pick what = some x → x.closed = false) :
    ((pick what).elim g (g.register id)).Keeps (openedAs pick (opened ++ [(id, what)])) closes := by
  have hsnoc : openedAs pick (opened ++ [(id, what)])
      = openedAs pick opened ++ ((pick what).map (Prod.mk id)).toList := by
    simp only [openedAs, List.filterMap_append, List.filterMap_cons, List.filterMap_nil]
    cases pick what <;> rfl
  rw [hsnoc]
  cases hpick : pick what with
  | none => simpa using h
  | some x => exact h.register (hunclosed x hpick) (fresh_openedAs hfresh)

namespace State

variable {limits : NegotiatedLimits} {s t : State} {e : Event}

lemma kept_initial : Kept limits {} where
  granted := nofun
  known := nofun
  can := SessionRegistry.keeps_initial
  usbGpio := SessionRegistry.keeps_initial
  camera := SessionRegistry.keeps_initial

lemma Known.snoc {opened : List (SessionId × Opened)} {transport : Transport}
    (h : Known opened id transport) (x : SessionId × Opened) :
    Known (opened ++ [x]) id transport := by
  have hsub {β : Type} {pick : Opened → Option β} (hid : id ∈ (openedAs pick opened).map Prod.fst) :
      id ∈ (openedAs pick (opened ++ [x])).map Prod.fst := by
    rw [openedAs, List.filterMap_append, List.map_append]
    exact List.mem_append_left _ hid
  cases transport with
  | serial => trivial
  | can => exact hsub h
  | usbGpio => exact hsub h
  | camera => exact hsub h

lemma Kept.register (h : s.Kept limits) (hfresh : id ∉ s.opened.map Prod.fst)
    (hgranted : what.granted limits = true) :
    Kept limits { s with
      registries := s.registries.register id what
      opened := s.opened ++ [(id, what)] } := by
  have hall : ∀ x ∈ s.opened ++ [(id, what)], x.2.granted limits = true := by
    intro x hx
    rcases List.mem_append.mp hx with hx | hx
    · exact h.granted x hx
    · rw [List.mem_singleton.mp hx]
      exact hgranted
  have hknown : ∀ x ∈ s.waiting, Known (s.opened ++ [(id, what)]) x.1 x.2 :=
    fun x hx => (h.known x hx).snoc _
  have hcan (x) (hx : what.can? = some x) : x.closed = false := by
    cases what <;> cases hx
    simp_all [Opened.granted]
  have husbGpio (x) (hx : what.usbGpio? = some x) : x.closed = false := by
    cases what <;> cases hx
    simp_all [Opened.granted]
  have hcamera (x) (hx : what.camera? = some x) : x.closed = false := by
    cases what <;> cases hx
    simp_all [Opened.granted]
  -- each registry takes the record or is left alone, as its selection says
  cases what <;>
    exact ⟨hall, hknown, keeps_opened h.can hfresh hcan, keeps_opened h.usbGpio hfresh husbGpio,
      keeps_opened h.camera hfresh hcamera⟩

lemma Kept.called (h : s.Kept limits) {r : SessionRequest} {transport : Transport}
    {token : LeaseToken} (htransport : closeTransport s.registries r = some transport)
    (hcalls : dispatchOperation limits s.registries r = .ok (.calls id token)) :
    Known s.opened id transport := by
  obtain ⟨sessionId, wire, op⟩ := r
  cases op <;> try cases htransport
  case closeSession =>
    change closeSession s.registries sessionId wire = _ at hcalls
    unfold closeSession at hcalls
    split at hcalls
    · rename_i hcan
      rw [if_pos hcan]
      exact h.can.opened_of_lookup (CanDispatch.called_close hcalls)
    · rename_i hcan
      rw [if_neg hcan]
      trivial
  case closeUsb =>
    exact h.usbGpio.opened_of_lookup (UsbGpioDispatch.called_closeUsb (of_usbGpioGated hcalls))
  case closeGpio =>
    exact h.usbGpio.opened_of_lookup (UsbGpioDispatch.called_closeGpio (of_usbGpioGated hcalls))
  case closeCamera =>
    exact h.camera.opened_of_lookup (CameraDispatch.called_close (of_cameraGated hcalls))

lemma Kept.recordClosed (h : s.Kept limits) {transport : Transport}
    {waiting : List (SessionId × Transport)} (hid : Known s.opened id transport)
    (hwaiting : waiting ⊆ s.waiting) :
    Kept limits { s with
      registries := s.registries.recordClosed id transport
      waiting := waiting
      closes := fun t =>
        if t = transport then SessionRegistry.closing (s.closes t) id else s.closes t } := by
  obtain ⟨hgranted, hall, hcan, husbGpio, hcamera⟩ := h
  have hknown : ∀ x ∈ waiting, Known s.opened x.1 x.2 := fun x hx => hall x (hwaiting hx)
  cases transport with
  | serial => exact ⟨hgranted, hknown, hcan, husbGpio, hcamera⟩
  | can =>
    exact ⟨hgranted, hknown, hcan.recordClosedWith (fun _ hx => hx) hid, husbGpio, hcamera⟩
  | usbGpio =>
    exact ⟨hgranted, hknown, hcan, husbGpio.recordClosedWith (fun _ hx => hx) hid, hcamera⟩
  | camera =>
    exact ⟨hgranted, hknown, hcan, husbGpio, hcamera.recordClosedWith (fun _ _ => rfl) hid⟩

lemma Kept.step (h : s.Kept limits) (hs : s.step limits e = some t) : t.Kept limits := by
  cases e with
  | opened id what =>
    simp only [State.step] at hs
    split at hs
    · cases hs
    · rename_i hok
      cases hs
      obtain ⟨hfresh, hgranted⟩ := not_or.mp hok
      exact h.register hfresh (by simpa using hgranted)
  | close r =>
    simp only [State.step] at hs
    split at hs
    · cases hs
    rename_i transport htransport
    split at hs <;> cases hs
    · rename_i id token hcalls
      refine ⟨h.granted, fun x hx => ?_, h.can, h.usbGpio, h.camera⟩
      rcases List.mem_append.mp hx with hx | hx
      · exact h.known x hx
      · rw [List.mem_singleton.mp hx]
        exact h.called htransport hcalls
    · exact h
  | closed i =>
    simp only [State.step] at hs
    split at hs
    · cases hs
    · rename_i id transport hwaits
      cases hs
      exact h.recordClosed (h.known _ (List.mem_of_getElem? hwaits))
        (List.eraseIdx_sublist _ _).subset
  | failed i =>
    simp only [State.step] at hs
    split at hs
    · cases hs
      exact ⟨h.granted, fun x hx => h.known x ((List.eraseIdx_sublist _ _).subset hx), h.can,
        h.usbGpio, h.camera⟩
    · cases hs

theorem kept_of_runs {l : List Event} (h : Runs limits {} l s) : s.Kept limits :=
  h.invariant (I := Kept limits) kept_initial fun _ _ _ hi _ hs => hi.step hs

variable {sessionId : String} {wire : Option V1.LeaseToken} {token : LeaseToken}

/-- A session of whatever transport that was closed not long ago: its close is answered from the
registry. -/
lemma Kept.replayed (h : s.Kept limits) (hopened : (id, what) ∈ s.opened)
    (htoken : what.lease? = some token)
    (hrecent : id ∈ recent closedSessionRetention (s.closes what.transport))
    (hparse : parseSessionLease sessionId wire = .ok (id, token)) :
    dispatchOperation limits s.registries ⟨sessionId, wire, what.closeOp⟩ = .ok .replayed := by
  have hgranted := h.granted _ hopened
  cases what with
  | serial => cases htoken
  | can record =>
    cases htoken
    have hlookup := h.can.lookup_recent (mem_openedAs.mpr ⟨_, hopened, rfl⟩) hrecent
    exact closeSession_own hlookup hparse
  | usbGpio record =>
    cases htoken
    have hlookup := h.usbGpio.lookup_recent (mem_openedAs.mpr ⟨_, hopened, rfl⟩) hrecent
    obtain ⟨⟨-, hmode⟩, hminor⟩ : (_ ∧ record.lease.mode = .control) ∧ _ := by
      simpa [Opened.granted] using hgranted
    obtain ⟨_, _, _, kind, _⟩ := record
    cases kind with
    | usb => exact (if_neg (Nat.not_lt.mpr hminor)).trans (closeUsb_own hlookup rfl hmode hparse)
    | gpio => exact (if_neg (Nat.not_lt.mpr hminor)).trans (closeGpio_own hlookup rfl hmode hparse)
  | camera record =>
    cases htoken
    have hlookup := h.camera.lookup_recent (mem_openedAs.mpr ⟨_, hopened, rfl⟩) hrecent
    obtain ⟨⟨-, hmode⟩, hminor⟩ : (_ ∧ record.lease.mode = .control) ∧ _ := by
      simpa [Opened.granted] using hgranted
    exact (if_neg (Nat.not_lt.mpr hminor)).trans (closeCamera_own hlookup hmode hparse)

/-- The registries of a connection after whatever sequence of opens and closes, several closes of a
session at a time included. -/
theorem closes_remembered {l : List Event} (h : Runs limits {} l s) :
    s.registries.can.Exact (openedAs Opened.can? s.opened) (s.closes .can)
      ∧ s.registries.usbGpio.Exact (openedAs Opened.usbGpio? s.opened) (s.closes .usbGpio)
      ∧ s.registries.camera.Exact (openedAs Opened.camera? s.opened) (s.closes .camera)
      ∧ ∀ id what token, (id, what) ∈ s.opened → what.lease? = some token →
          id ∈ recent 256 (s.closes what.transport) →
          ∀ sessionId wire, parseSessionLease sessionId wire = .ok (id, token) →
            dispatchOperation limits s.registries ⟨sessionId, wire, what.closeOp⟩
              = .ok .replayed := by
  have hkept := kept_of_runs h
  refine ⟨hkept.can.exact, hkept.usbGpio.exact, hkept.camera.exact, ?_⟩
  intro id what token hopened htoken hrecent sessionId wire hparse
  exact hkept.replayed hopened htoken hrecent hparse

/-- Two closes of one camera session that overlap. -/
def overlapping : List Event :=
  [.opened ⟨"s"⟩ (.camera ⟨⟨"r"⟩, [], ⟨⟨"l"⟩, 1, .control⟩, (), false⟩),
    .close (Broker.State.exactRequest .closeCamera),
    .close (Broker.State.exactRequest .closeCamera), .closed 1, .closed 0]

theorem closes_remembered_overlapping :
    ∃ s, Runs ⟨3, 512, 16, 16⟩ {} overlapping s ∧ s.registries.camera.closedOrder = [⟨"s"⟩]
      ∧ dispatchOperation ⟨3, 512, 16, 16⟩ s.registries (Broker.State.exactRequest .closeCamera)
        = .ok .replayed := by
  have hexec : ∃ s ∈ Machine.exec (step ⟨3, 512, 16, 16⟩) (fun _ _ => True) {} overlapping,
      s.registries.camera.closedOrder = [⟨"s"⟩] ∧ s.closes .camera = [⟨"s"⟩]
        ∧ (⟨"s"⟩, .camera ⟨⟨"r"⟩, [], ⟨⟨"l"⟩, 1, .control⟩, (), false⟩) ∈ s.opened := by
    decide +kernel
  obtain ⟨s, hs, horder, hcloses, hopened⟩ := hexec
  have hparse : (⟨"s"⟩, ⟨⟨"l"⟩, 1, .control⟩) ∈ (parseSessionLease "s"
      (some (LeaseToken.toProto ⟨⟨"l"⟩, 1, .control⟩))).toOption := by decide +kernel
  have hrun := Machine.runs_of_exec hs
  refine ⟨s, hrun, horder, ?_⟩
  refine (closes_remembered hrun).2.2.2 ⟨"s"⟩ _ _ hopened rfl ?_ "s" _ (ok_of_toOption hparse)
  change _ ∈ recent 256 (s.closes .camera)
  rw [hcloses]
  decide

end State

end Sessions

end RobotHal.Broker
