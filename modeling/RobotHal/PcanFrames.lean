import RobotHal.PcanTiming

/-!
Raw frames of the PCAN adapter.

The driver has two message layouts, one for classical and one for FD channels, which differ in the
room for data alone. A message carries an identifier, a byte of type bits, a length code and the
data. Frames are written to messages and messages read as frames; reading leaves out type bits
that make no sense together.
-/

namespace RobotHal.Pcan

/-! ### Messages -/

def pcanMessageRtr : UInt8 := 0x01
def pcanMessageExtended : UInt8 := 0x02
def pcanMessageFd : UInt8 := 0x04
def pcanMessageBrs : UInt8 := 0x08
def pcanMessageEsi : UInt8 := 0x10
def pcanMessageErrframe : UInt8 := 0x40
def pcanMessageStatus : UInt8 := 0x80

structure RawMessage (size : ℕ) where
  id : UInt32
  messageType : UInt8
  len : UInt8
  data : List UInt8
  length_eq : data.length = size
deriving DecidableEq

abbrev PcanMessage := RawMessage 8
abbrev PcanMessageFd := RawMessage 64

def rawId : CanId → UInt32 × UInt8
  | .standard value => (value.toUInt32, 0)
  | .extended value => (value, pcanMessageExtended)

def fromRawId (id : UInt32) (messageType : UInt8) : Except DriverError CanId :=
  if messageType &&& pcanMessageExtended ≠ 0 then
    (CanId.extended? id).mapError fun e => .invalidFrame e.display
  else if id.toNat < UInt16.size then
    (CanId.standard? id.toUInt16).mapError fun e => .invalidFrame e.display
  else
    .error (.invalidFrame ("PCAN standard identifier 0x" ++
      String.ofList ((Nat.toDigits 16 id.toNat).map Char.toUpper) ++ " exceeds u16"))

def lenToDlc (length : ℕ) : Option UInt8 :=
  if length ≤ 8 then some (.ofNat length)
  else match length with
    | 12 => some 9
    | 16 => some 10
    | 20 => some 11
    | 24 => some 12
    | 32 => some 13
    | 48 => some 14
    | 64 => some 15
    | _ => none

def dlcToLen (dlc : UInt8) : Option UInt8 :=
  if dlc ≤ 8 then some dlc
  else match dlc.toNat with
    | 9 => some 12
    | 10 => some 16
    | 11 => some 20
    | 12 => some 24
    | 13 => some 32
    | 14 => some 48
    | 15 => some 64
    | _ => none

/-! ### Writing -/

/-- A message whose data was zero and then overwritten, which panics if there is no room. -/
def rawMessage (size : ℕ) (id : CanId) (bits len : UInt8) (data : List UInt8) :
    Option (RawMessage size) :=
  if h : data.length ≤ size then
    some ⟨(rawId id).1, (rawId id).2 ||| bits, len, data ++ List.replicate (size - data.length) 0,
      by rw [List.length_append, List.length_replicate]; omega⟩
  else none

/-- `none` is a panic. -/
def toClassicMessage : CanFrame → Option (Except DriverError PcanMessage)
  | .classicData id data => (rawMessage 8 id 0 (.ofNat data.length) data).map .ok
  | .classicRemote id dlc => (rawMessage 8 id pcanMessageRtr dlc []).map .ok
  | .fdData .. =>
    some (.error (.unsupportedFrame "CAN FD frame requires an FD-configured PCAN channel"))
  | .error .. => some (.error (.unsupportedFrame "PCAN cannot transmit HAL error frames"))

def fdBits (bitrateSwitch errorStateIndicator : Bool) : UInt8 :=
  pcanMessageFd ||| (if bitrateSwitch then pcanMessageBrs else 0) |||
    (if errorStateIndicator then pcanMessageEsi else 0)

def toFdMessage : CanFrame → Option (Except DriverError PcanMessageFd)
  | .classicData id data => (rawMessage 64 id 0 (.ofNat data.length) data).map .ok
  | .classicRemote id dlc => (rawMessage 64 id pcanMessageRtr dlc []).map .ok
  | .fdData id data bitrateSwitch errorStateIndicator =>
    match lenToDlc data.length with
    | none => some (.error (.invalidFrame "invalid CAN FD payload length"))
    | some dlc => (rawMessage 64 id (fdBits bitrateSwitch errorStateIndicator) dlc data).map .ok
  | .error .. => some (.error (.unsupportedFrame "PCAN cannot transmit HAL error frames"))

/-! ### Reading -/

/-- A frame as the outcome of reading a message. -/
def received (x : HalResult CanFrame) : Except DriverError (Option CanFrame) :=
  (x.map some).mapError fun e => .invalidFrame e.display

def dlcExceeds (len : UInt8) : DriverError :=
  .invalidFrame ("PCAN Classical DLC " ++ toString len ++ " exceeds 8")

def fromClassicMessage (m : PcanMessage) : Except DriverError (Option CanFrame) :=
  if m.messageType &&& (pcanMessageStatus ||| pcanMessageErrframe) ≠ 0 then .ok none
  else (fromRawId m.id m.messageType).bind fun id =>
    if m.messageType &&& pcanMessageRtr ≠ 0 then
      if m.messageType &&& pcanMessageFd ≠ 0 then
        .error (.invalidFrame "PCAN FD remote frames are invalid")
      else received (CanFrame.classicRemote? id m.len)
    else if m.len.toNat > m.data.length then .error (dlcExceeds m.len)
    else received (CanFrame.classicData? id (m.data.take m.len.toNat))

def fromFdMessage (m : PcanMessageFd) : Except DriverError (Option CanFrame) :=
  if m.messageType &&& (pcanMessageStatus ||| pcanMessageErrframe) ≠ 0 then .ok none
  else (fromRawId m.id m.messageType).bind fun id =>
    if m.messageType &&& pcanMessageRtr ≠ 0 then received (CanFrame.classicRemote? id m.len)
    else if m.messageType &&& pcanMessageFd ≠ 0 then
      match dlcToLen m.len with
      | none => .error (.invalidFrame ("PCAN FD DLC " ++ toString m.len ++ " exceeds 15"))
      | some len => received (CanFrame.fdData? id (m.data.take len.toNat)
          (m.messageType &&& pcanMessageBrs ≠ 0) (m.messageType &&& pcanMessageEsi ≠ 0))
    else if m.len.toNat > 8 then .error (dlcExceeds m.len)
    else received (CanFrame.classicData? id (m.data.take m.len.toNat))

/-! ### Type bits and length codes -/

/-- The type bits that say what a frame is. -/
def kept (t : UInt8) : UInt8 :=
  t &&& (pcanMessageRtr ||| pcanMessageExtended ||| pcanMessageFd ||| pcanMessageBrs |||
    pcanMessageEsi)

def NoFdBits (t : UInt8) : Prop := t &&& (pcanMessageFd ||| pcanMessageBrs ||| pcanMessageEsi) = 0

instance (t : UInt8) : Decidable (NoFdBits t) := inferInstanceAs (Decidable (_ = _))

/-- What the bits a frame is written with have to do with those it was read from. -/
structure Bits (t : UInt8) : Prop where
  extended : t &&& pcanMessageExtended = 0 ∨ t &&& pcanMessageExtended = pcanMessageExtended
  remote : t &&& pcanMessageRtr ≠ 0 →
    (kept ((t &&& pcanMessageExtended) ||| pcanMessageRtr) = kept t ↔ NoFdBits t)
  data : t &&& pcanMessageRtr = 0 →
    (kept ((t &&& pcanMessageExtended) ||| 0) = kept t ↔ NoFdBits t)
  fd : t &&& pcanMessageRtr = 0 → t &&& pcanMessageFd ≠ 0 →
    kept ((t &&& pcanMessageExtended) |||
      fdBits (t &&& pcanMessageBrs ≠ 0) (t &&& pcanMessageEsi ≠ 0)) = kept t

lemma bits (t : UInt8) : Bits t := by
  have h : ∀ n : Fin 256, let t := UInt8.ofFin n
      (t &&& pcanMessageExtended = 0 ∨ t &&& pcanMessageExtended = pcanMessageExtended) ∧
      (t &&& pcanMessageRtr ≠ 0 →
        (kept ((t &&& pcanMessageExtended) ||| pcanMessageRtr) = kept t ↔ NoFdBits t)) ∧
      (t &&& pcanMessageRtr = 0 →
        (kept ((t &&& pcanMessageExtended) ||| 0) = kept t ↔ NoFdBits t)) ∧
      (t &&& pcanMessageRtr = 0 → t &&& pcanMessageFd ≠ 0 →
        kept ((t &&& pcanMessageExtended) |||
          fdBits (t &&& pcanMessageBrs ≠ 0) (t &&& pcanMessageEsi ≠ 0)) = kept t) := by
    decide +kernel
  obtain ⟨hextended, hremote, hdata, hfd⟩ := h t.toFin
  exact ⟨hextended, hremote, hdata, hfd⟩

lemma dlcToLen_of_lenToDlc {length : ℕ} {dlc : UInt8} (h : lenToDlc length = some dlc) :
    ∃ len, dlcToLen dlc = some len ∧ len.toNat = length ∧ length ≤ 64 := by
  unfold lenToDlc at h
  split at h
  · rename_i hle
    obtain rfl := Option.some.inj h
    interval_cases length <;> exact ⟨_, rfl, rfl, by decide⟩
  · split at h <;> cases h <;> exact ⟨_, rfl, rfl, by decide⟩

lemma lenToDlc_of_dlcToLen {dlc len : UInt8} (h : dlcToLen dlc = some len) :
    lenToDlc len.toNat = some dlc ∧ len.toNat ≤ 64 := by
  unfold dlcToLen at h
  split at h
  · rename_i hle
    obtain rfl := Option.some.inj h
    have hle : dlc.toNat ≤ 8 := UInt8.le_iff_toNat_le.mp hle
    exact ⟨by unfold lenToDlc; rw [if_pos hle, UInt8.ofNat_toNat], by omega⟩
  · split at h <;> cases h <;> rename_i hd
    all_goals exact ⟨by rw [← UInt8.ofNat_toNat (x := dlc), hd]; rfl, by decide⟩

lemma fromRawId_eq_ok {id : UInt32} {t : UInt8} {c : CanId} :
    fromRawId id t = .ok c ↔
      validateId c = .ok () ∧ rawId c = (id, t &&& pcanMessageExtended) := by
  unfold fromRawId
  split
  · rename_i hext
    have ht := (bits t).extended.resolve_left hext
    rw [mapError_eq_ok, CanId.extended?_eq_ok, ht]
    cases c <;> simp [rawId, pcanMessageExtended]
  rename_i hext
  have ht := not_not.mp hext
  split
  · rename_i hsize
    rw [mapError_eq_ok, CanId.standard?_eq_ok, ht]
    refine and_congr_right fun _ => ?_
    cases c with
    | standard value =>
      simp only [rawId, CanId.standard.injEq, Prod.mk.injEq, and_true]
      constructor
      · rintro rfl
        apply UInt32.toNat.inj
        simpa using hsize
      · rintro rfl
        simp
    | extended value => simp [rawId, pcanMessageExtended]
  · rename_i hsize
    refine ⟨nofun, fun h => absurd h.2 ?_⟩
    rw [ht]
    cases c with
    | standard value =>
      rintro hraw
      obtain rfl := (Prod.mk.inj hraw).1
      exact hsize (by simpa using value.toNat_lt)
    | extended value => simp [rawId, pcanMessageExtended]

/-! ### What a frame read from a message is -/

variable {size : ℕ} {m : RawMessage size} {f : CanFrame}

lemma received_eq_ok {x : HalResult CanFrame} : received x = .ok (some f) ↔ x = .ok f := by
  simp [received, mapError_eq_ok, map_eq_ok]

inductive Reads (m : RawMessage size) : CanFrame → Prop
  | remote {id : CanId} (hid : rawId id = (m.id, m.messageType &&& pcanMessageExtended))
      (hrtr : m.messageType &&& pcanMessageRtr ≠ 0) : Reads m (.classicRemote id m.len)
  | data {id : CanId} (hid : rawId id = (m.id, m.messageType &&& pcanMessageExtended))
      (hrtr : m.messageType &&& pcanMessageRtr = 0) (hlen : m.len.toNat ≤ 8) :
      Reads m (.classicData id (m.data.take m.len.toNat))

inductive ReadsFd (m : RawMessage size) : CanFrame → Prop
  | fd {id : CanId} {len : UInt8} (hid : rawId id = (m.id, m.messageType &&& pcanMessageExtended))
      (hlen : dlcToLen m.len = some len) :
      ReadsFd m (.fdData id (m.data.take len.toNat) (m.messageType &&& pcanMessageBrs ≠ 0)
        (m.messageType &&& pcanMessageEsi ≠ 0))

lemma fromClassicMessage_reads {m : PcanMessage} (h : fromClassicMessage m = .ok (some f)) :
    f.validate = .ok () ∧ Reads m f := by
  unfold fromClassicMessage at h
  split at h
  · cases h
  obtain ⟨id, hid, h⟩ := bind_eq_ok.mp h
  have hraw := (fromRawId_eq_ok.mp hid).2
  split at h
  · rename_i hrtr
    split at h
    · cases h
    obtain ⟨hv, rfl⟩ := CanFrame.classicRemote?_eq_ok.mp (received_eq_ok.mp h)
    exact ⟨hv, .remote hraw hrtr⟩
  rename_i hrtr
  split at h
  · cases h
  rename_i hlen
  obtain ⟨hv, rfl⟩ := CanFrame.classicData?_eq_ok.mp (received_eq_ok.mp h)
  exact ⟨hv, .data hraw (not_not.mp hrtr) ((not_lt.mp hlen).trans_eq m.length_eq)⟩

lemma fromFdMessage_reads {m : PcanMessageFd} (h : fromFdMessage m = .ok (some f)) :
    f.validate = .ok () ∧
      (Reads m f ∧ ¬(m.messageType &&& pcanMessageFd ≠ 0 ∧ m.messageType &&& pcanMessageRtr = 0) ∨
        ReadsFd m f ∧ m.messageType &&& pcanMessageFd ≠ 0 ∧
          m.messageType &&& pcanMessageRtr = 0) := by
  unfold fromFdMessage at h
  split at h
  · cases h
  obtain ⟨id, hid, h⟩ := bind_eq_ok.mp h
  have hraw := (fromRawId_eq_ok.mp hid).2
  split at h
  · rename_i hrtr
    obtain ⟨hv, rfl⟩ := CanFrame.classicRemote?_eq_ok.mp (received_eq_ok.mp h)
    exact ⟨hv, .inl ⟨.remote hraw hrtr, fun hfd => hrtr hfd.2⟩⟩
  rename_i hrtr
  rw [not_not] at hrtr
  split at h
  · rename_i hfd
    split at h
    · cases h
    · rename_i len hlen
      obtain ⟨hv, rfl⟩ := CanFrame.fdData?_eq_ok.mp (received_eq_ok.mp h)
      exact ⟨hv, .inr ⟨.fd hraw hlen, hfd, hrtr⟩⟩
  rename_i hfd
  split at h
  · cases h
  rename_i hlen
  obtain ⟨hv, rfl⟩ := CanFrame.classicData?_eq_ok.mp (received_eq_ok.mp h)
  exact ⟨hv, .inl ⟨.data hraw hrtr (not_lt.mp hlen), fun h => hfd h.1⟩⟩

/-! ### Writing it again -/

/-- The data bytes up to the length the code stands for. -/
def RawMessage.payload (m : RawMessage size) : List UInt8 :=
  m.data.take ((dlcToLen m.len).elim size UInt8.toNat)

structure Recodes (m m' : RawMessage size) : Prop where
  id : m'.id = m.id
  messageType : kept m'.messageType = kept m.messageType
  len : m'.len = m.len
  payload : m.messageType &&& pcanMessageRtr = 0 → m'.payload = m.payload

lemma rawMessage_recodes {id : CanId} (b : UInt8) {data : List UInt8}
    (hid : rawId id = (m.id, m.messageType &&& pcanMessageExtended)) (hsize : data.length ≤ size)
    (hdata : m.messageType &&& pcanMessageRtr = 0 → data = m.payload) :
    ∃ m', rawMessage size id b m.len data = some m' ∧ (Recodes m m' ↔
      kept ((m.messageType &&& pcanMessageExtended) ||| b) = kept m.messageType) := by
  refine ⟨_, dif_pos hsize, ?_⟩
  rw [hid]
  refine ⟨fun h => h.messageType, fun h => ⟨rfl, h, rfl, fun hrtr => ?_⟩⟩
  -- what was written over the zeros is as long as the code says, or fills the message
  have hlen : data.length = min ((dlcToLen m.len).elim size UInt8.toNat) size := by
    rw [hdata hrtr, RawMessage.payload, List.length_take, m.length_eq]
  rw [← hdata hrtr]
  unfold RawMessage.payload
  dsimp only
  rcases le_total ((dlcToLen m.len).elim size UInt8.toNat) size with hle | hle
  · rw [List.take_append_of_le_length (by omega), List.take_of_length_le (by omega)]
  · rw [show size - data.length = 0 by omega, List.replicate_zero, List.append_nil,
      List.take_of_length_le (by omega)]

lemma Reads.recodes (h : Reads m f) (hsize : 8 ≤ size)
    {encode : CanFrame → Option (Except DriverError (RawMessage size))}
    (hdata : ∀ id data, encode (.classicData id data) =
      (rawMessage size id 0 (.ofNat data.length) data).map .ok)
    (hremote : ∀ id dlc, encode (.classicRemote id dlc) =
      (rawMessage size id pcanMessageRtr dlc []).map .ok) :
    (∃ m', encode f = some (.ok m') ∧ Recodes m m') ↔ NoFdBits m.messageType := by
  have hsome {x : Option (RawMessage size)} {m'} (hx : x = some m') {p : RawMessage size → Prop} :
      (∃ m', x.map (Except.ok (ε := DriverError)) = some (.ok m') ∧ p m') ↔ p m' := by
    subst hx
    simp
  cases h with
  | remote hid hrtr =>
    obtain ⟨m', hm', hiff⟩ := rawMessage_recodes pcanMessageRtr hid
      (show ([] : List UInt8).length ≤ size from Nat.zero_le _) fun h => absurd h hrtr
    rw [hremote, hsome hm', hiff, (bits _).remote hrtr]
  | data hid hrtr hlen =>
    have hlength : (m.data.take m.len.toNat).length = m.len.toNat := by
      rw [List.length_take, m.length_eq]
      omega
    have hpayload : m.data.take m.len.toNat = m.payload := by
      unfold RawMessage.payload dlcToLen
      rw [if_pos (UInt8.le_iff_toNat_le.mpr hlen)]
      rfl
    obtain ⟨m', hm', hiff⟩ := rawMessage_recodes 0 hid (by omega) fun _ => hpayload
    rw [hdata, hlength, UInt8.ofNat_toNat, hsome hm', hiff, (bits _).data hrtr]

lemma ReadsFd.recodes {m : PcanMessageFd} (h : ReadsFd m f)
    (hfd : m.messageType &&& pcanMessageFd ≠ 0) (hrtr : m.messageType &&& pcanMessageRtr = 0) :
    ∃ m', toFdMessage f = some (.ok m') ∧ Recodes m m' := by
  obtain ⟨hid, hlen⟩ := h
  rename_i id len
  obtain ⟨hdlc, hle⟩ := lenToDlc_of_dlcToLen hlen
  have hlength : (m.data.take len.toNat).length = len.toNat := by
    rw [List.length_take, m.length_eq]
    omega
  have hpayload : m.data.take len.toNat = m.payload := by
    unfold RawMessage.payload
    rw [hlen]
    rfl
  obtain ⟨m', hm', hiff⟩ := rawMessage_recodes
    (fdBits (m.messageType &&& pcanMessageBrs ≠ 0) (m.messageType &&& pcanMessageEsi ≠ 0)) hid
    (by omega) fun _ => hpayload
  refine ⟨m', ?_, hiff.mpr ((bits _).fd hrtr hfd)⟩
  unfold toFdMessage
  dsimp only
  rw [hlength, hdlc]
  dsimp only
  rw [hm']
  rfl

/-! ### Reading what was written -/

lemma or_and_distrib (a b x : UInt8) : (a ||| b) &&& x = a &&& x ||| b &&& x := by
  apply UInt8.eq_of_toBitVec_eq
  simp only [UInt8.toBitVec_and, UInt8.toBitVec_or]
  exact BitVec.and_or_distrib_right

/-- What is found in a message that was written: bits other than the one for the format of the
identifier are those that were asked for. -/
structure Written (m : RawMessage size) (id : CanId) (b len : UInt8) (data : List UInt8) :
    Prop where
  id : fromRawId m.id m.messageType = .ok id
  messageType {x : UInt8} (hx : pcanMessageExtended &&& x = 0) : m.messageType &&& x = b &&& x
  len : m.len = len
  data : m.data.take data.length = data

lemma rawMessage_written {id : CanId} {b len : UInt8} {data : List UInt8}
    {k : Unit → HalResult Unit} (hv : (validateId id).bind k = .ok ())
    (hb : b &&& pcanMessageExtended = 0)
    (h : (rawMessage size id b len data).map .ok = some (Except.ok (ε := DriverError) m)) :
    Written m id b len data := by
  obtain ⟨m', hm, heq⟩ := Option.map_eq_some_iff.mp h
  obtain rfl := Except.ok.inj heq
  obtain ⟨⟨⟩, hid, -⟩ := bind_eq_ok.mp hv
  unfold rawMessage at hm
  split at hm
  · cases hm
    refine ⟨fromRawId_eq_ok.mpr ⟨hid, ?_⟩, fun hx => ?_, rfl, List.take_left⟩
    · rw [or_and_distrib, hb, UInt8.or_zero]
      cases id with
      | standard value => exact congrArg (Prod.mk _) UInt8.zero_and.symm
      | extended value => exact congrArg (Prod.mk _) UInt8.and_self.symm
    · rw [or_and_distrib]
      cases id with
      | standard value => exact (congrArg (· ||| _) UInt8.zero_and).trans UInt8.zero_or
      | extended value => exact (congrArg (· ||| _) hx).trans UInt8.zero_or
  · cases hm

lemma length_of_validate {id : CanId} {data : List UInt8}
    (hv : (CanFrame.classicData id data).validate = .ok ()) :
    data.length ≤ 8 ∧ (UInt8.ofNat data.length).toNat = data.length := by
  obtain ⟨⟨⟩, -, h⟩ := bind_eq_ok.mp hv
  split at h
  · cases h
  rename_i hle
  have hle : data.length ≤ 8 := not_lt.mp hle
  exact ⟨hle, UInt8.toNat_ofNat_of_lt' (by rw [UInt8.size]; omega)⟩

lemma fromClassicMessage_toClassicMessage {m : PcanMessage} (hv : f.validate = .ok ())
    (h : toClassicMessage f = some (.ok m)) : fromClassicMessage m = .ok (some f) := by
  unfold fromClassicMessage
  cases f with
  | classicData id data =>
    have hw := rawMessage_written hv (by decide) h
    obtain ⟨hle, hnat⟩ := length_of_validate hv
    rw [hw.messageType (by decide), hw.messageType (by decide), hw.id, hw.len, hnat, hw.data]
    simp only [Except.bind, UInt8.zero_and, ne_eq, not_true_eq_false, if_false]
    rw [if_neg (by rw [m.length_eq]; omega), received_eq_ok]
    exact CanFrame.classicData?_eq_ok.mpr ⟨hv, rfl⟩
  | classicRemote id dlc =>
    have hw : Written m id pcanMessageRtr dlc [] := rawMessage_written hv (by decide) h
    rw [hw.messageType (by decide), hw.messageType (by decide), hw.messageType (by decide), hw.id,
      hw.len, if_neg (by decide), Except.bind, if_pos (by decide), if_neg (by decide),
      received_eq_ok]
    exact CanFrame.classicRemote?_eq_ok.mpr ⟨hv, rfl⟩
  | fdData => cases h
  | error => cases h

lemma fromFdMessage_toFdMessage {m : PcanMessageFd} (hv : f.validate = .ok ())
    (h : toFdMessage f = some (.ok m)) : fromFdMessage m = .ok (some f) := by
  unfold fromFdMessage
  cases f with
  | classicData id data =>
    have hw := rawMessage_written hv (by decide) h
    obtain ⟨hle, hnat⟩ := length_of_validate hv
    rw [hw.messageType (by decide), hw.messageType (by decide), hw.messageType (by decide), hw.id,
      hw.len, hnat, hw.data, if_neg (by decide), Except.bind, if_neg (by decide),
      if_neg (by decide), if_neg (not_lt.mpr hle), received_eq_ok]
    exact CanFrame.classicData?_eq_ok.mpr ⟨hv, rfl⟩
  | classicRemote id dlc =>
    have hw : Written m id pcanMessageRtr dlc [] := rawMessage_written hv (by decide) h
    rw [hw.messageType (by decide), hw.messageType (by decide), hw.id, hw.len, if_neg (by decide),
      Except.bind, if_pos (by decide), received_eq_ok]
    exact CanFrame.classicRemote?_eq_ok.mpr ⟨hv, rfl⟩
  | fdData id data brs esi =>
    unfold toFdMessage at h
    dsimp only at h
    split at h
    · cases h
    rename_i dlc hdlc
    have hw := rawMessage_written hv (by cases brs <;> cases esi <;> decide) h
    obtain ⟨len, hcode, hnat, -⟩ := dlcToLen_of_lenToDlc hdlc
    have hbrs : decide (fdBits brs esi &&& pcanMessageBrs ≠ 0) = brs := by
      cases brs <;> cases esi <;> rfl
    have hesi : decide (fdBits brs esi &&& pcanMessageEsi ≠ 0) = esi := by
      cases brs <;> cases esi <;> rfl
    rw [hw.messageType (by decide), hw.messageType (by decide), hw.messageType (by decide),
      hw.messageType (by decide), hw.messageType (by decide), hw.id, hw.len, hcode,
      if_neg (by cases brs <;> cases esi <;> decide), Except.bind,
      if_neg (by cases brs <;> cases esi <;> decide),
      if_pos (by cases brs <;> cases esi <;> decide)]
    dsimp only
    rw [hnat, hw.data, hbrs, hesi, received_eq_ok]
    exact CanFrame.fdData?_eq_ok.mpr ⟨hv, rfl⟩
  | error => cases h

/-! ### The codec -/

/-- Valid frames come back as they were written, on either kind of channel. A frame read from a
message is valid, and is written as it was read exactly if the message had no bit of an FD frame,
or was an FD data frame on an FD channel. -/
theorem frame_codec_iff (f : CanFrame) (c : PcanMessage) (m : PcanMessageFd) :
    (f.validate = .ok () → toClassicMessage f = some (.ok c) →
      fromClassicMessage c = .ok (some f)) ∧
    (f.validate = .ok () → toFdMessage f = some (.ok m) → fromFdMessage m = .ok (some f)) ∧
    (fromClassicMessage c = .ok (some f) →
      f.validate = .ok () ∧ ((∃ c', toClassicMessage f = some (.ok c') ∧ Recodes c c') ↔
        NoFdBits c.messageType)) ∧
    (fromFdMessage m = .ok (some f) →
      f.validate = .ok () ∧ ((∃ m', toFdMessage f = some (.ok m') ∧ Recodes m m') ↔
        NoFdBits m.messageType ∨
          m.messageType &&& pcanMessageFd ≠ 0 ∧ m.messageType &&& pcanMessageRtr = 0)) := by
  refine ⟨fromClassicMessage_toClassicMessage, fromFdMessage_toFdMessage, fun h => ?_,
    fun h => ?_⟩
  · obtain ⟨hv, hreads⟩ := fromClassicMessage_reads h
    exact ⟨hv, hreads.recodes le_rfl (fun _ _ => rfl) fun _ _ => rfl⟩
  · obtain ⟨hv, ⟨hreads, hno⟩ | ⟨hreads, hfd⟩⟩ := fromFdMessage_reads h
    · refine ⟨hv, ?_⟩
      rw [or_iff_left hno]
      exact hreads.recodes (by decide) (fun _ _ => rfl) fun _ _ => rfl
    · exact ⟨hv, iff_of_true (hreads.recodes hfd.1 hfd.2) (.inr hfd)⟩

/-- A message on an FD channel that asks for a remote frame and has the FD bit set as well. -/
def fdRemote : PcanMessageFd :=
  ⟨0x123, pcanMessageRtr ||| pcanMessageFd, 4, List.replicate 64 0, rfl⟩

/-- The FD bit is dropped: the message is read as a classical remote frame. -/
theorem frame_codec_fd_remote :
    fromFdMessage fdRemote = .ok (some (.classicRemote (.standard 0x123) 4)) ∧
      ¬∃ m', toFdMessage (.classicRemote (.standard 0x123) 4) = some (.ok m') ∧
        Recodes fdRemote m' := by
  refine ⟨rfl, ?_⟩
  rintro ⟨m', hm', hrecodes⟩
  obtain rfl := Except.ok.inj (Option.some.inj hm')
  exact absurd hrecodes.messageType (by decide)

theorem frame_codec_fd_data :
    fromFdMessage ⟨0x123, pcanMessageFd ||| pcanMessageBrs, 9, List.replicate 64 7, rfl⟩ =
        .ok (some (.fdData (.standard 0x123) (List.replicate 12 7) true false)) ∧
      ∃ m', toFdMessage (.fdData (.standard 0x123) (List.replicate 12 7) true false) =
          some (.ok m') ∧
        Recodes ⟨0x123, pcanMessageFd ||| pcanMessageBrs, 9, List.replicate 64 7, rfl⟩ m' :=
  ⟨rfl, ((frame_codec_iff _ ⟨0, 0, 0, List.replicate 8 0, rfl⟩ _).2.2.2 rfl).2.mpr
    (.inr (by decide))⟩

end RobotHal.Pcan
