import RobotHal.CanSizes
import RobotHal.ProtoFields

/-!
# Decoding an envelope

The messages that carry received bytes, as a proto3 decoder builds them. A scalar field keeps its
last value, a message field that comes twice is merged, a repeated field grows. The payload of the
envelope is a one-of: a payload of another kind replaces the one before.

What a decoded response holds is read off the bytes it was decoded from: `lastData` for a received
frame, `mergedContents` for the bodies that ended up in the payload.
-/

namespace RobotHal.V1

open Proto

variable {n : ℕ} {wire : Wire} {input : List UInt8} {m m' : CanReceiveResponse}

/-! ### Messages -/

def CanId.merge (m : CanId) : ℕ → Wire → Option CanId
  | 1, wire => (uint32Value wire).map fun value => { m with value }
  | 2, wire => (enumValue wire).map fun format => { m with format }
  | _, _ => some m

def CanFrame.merge (m : CanFrame) : ℕ → Wire → Option CanFrame
  | 1, wire => (messageValue CanId.merge (m.id.getD ⟨0, 0⟩) wire).map fun id =>
      { m with id := some id }
  | 2, wire => (enumValue wire).map fun kind => { m with kind }
  | 3, wire => (bytesValue wire).map fun data => { m with data }
  | 4, wire => (uint32Value wire).map fun remoteDlc => { m with remoteDlc }
  | 5, wire => (boolValue wire).map fun bitrateSwitch => { m with bitrateSwitch }
  | 6, wire => (boolValue wire).map fun errorStateIndicator => { m with errorStateIndicator }
  | 7, wire => (enumsValue wire).map fun classes =>
      { m with errorClasses := m.errorClasses ++ classes }
  | _, _ => some m

def CanTimestamp.merge (m : CanTimestamp) : ℕ → Wire → Option CanTimestamp
  | 1, wire => (uint64Value wire).map fun value => { m with timestampNs := UInt64.ofNat value }
  | 2, wire => (enumValue wire).map fun source => { m with source }
  | 3, wire => (stringValue wire).map fun clockDomain => { m with clockDomain }
  | _, _ => some m

def ReceivedCanFrame.merge (m : ReceivedCanFrame) : ℕ → Wire → Option ReceivedCanFrame
  | 1, wire => (messageValue CanFrame.merge (m.frame.getD { kind := 0 }) wire).map fun frame =>
      { m with frame := some frame }
  | 2, wire => (messageValue CanTimestamp.merge (m.timestamp.getD ⟨0, 0, ""⟩) wire).map
      fun timestamp => { m with timestamp := some timestamp }
  | _, _ => some m

def CanReceiveResponse.merge (m : CanReceiveResponse) : ℕ → Wire → Option CanReceiveResponse
  | 1, wire => (messageValue ReceivedCanFrame.merge ⟨none, none⟩ wire).map fun frame =>
      { m with frames := m.frames ++ [frame] }
  | _, _ => some m

def SerialReadResponse.merge (m : SerialReadResponse) : ℕ → Wire → Option SerialReadResponse
  | 1, wire => (bytesValue wire).map fun data => { m with data }
  | _, _ => some m

/-- The payload of an envelope; `β` is what a body of any other kind decodes to. -/
inductive EnvelopePayload (β : Type)
  | serialReadResponse (m : SerialReadResponse)
  | canReceiveResponse (m : CanReceiveResponse)
  | other (number : ℕ) (body : β)

structure Envelope (β : Type) where
  requestId : ℕ := 0
  payload : Option (EnvelopePayload β) := none

/-- The members of the one-of `payload`. -/
def isPayload (n : ℕ) : Bool :=
  n = 10 || n = 11 || (20 ≤ n && n ≤ 33) || n = 40 || (50 ≤ n && n ≤ 104)

namespace Envelope

variable {β : Type}

def serialRead (e : Envelope β) : SerialReadResponse :=
  match e.payload with
  | some (.serialReadResponse m) => m
  | _ => ⟨[]⟩

def canReceive (e : Envelope β) : CanReceiveResponse :=
  match e.payload with
  | some (.canReceiveResponse m) => m
  | _ => ⟨[]⟩

/-- The body that a payload of another kind is merged into. -/
def body (e : Envelope β) (n : ℕ) : Option β :=
  match e.payload with
  | some (.other number body) => if number = n then some body else none
  | _ => none

/-- `others` merges the bytes of any other payload into a body of its kind. -/
def merge (others : ℕ → Option β → List UInt8 → Option β) (e : Envelope β) (n : ℕ) (wire : Wire) :
    Option (Envelope β) :=
  if n = 1 then (uint64Value wire).map fun requestId => { e with requestId }
  else if n = 25 then (messageValue SerialReadResponse.merge e.serialRead wire).map fun m =>
    { e with payload := some (.serialReadResponse m) }
  else if n = 57 then (messageValue CanReceiveResponse.merge e.canReceive wire).map fun m =>
    { e with payload := some (.canReceiveResponse m) }
  else if isPayload n then (bytesValue wire).bind fun input =>
    (others n (e.body n) input).map fun body => { e with payload := some (.other n body) }
  else some e

def decode (others : ℕ → Option β → List UInt8 → Option β) (input : List UInt8) :
    Option (Envelope β) := mergeFrom (merge others) {} input

end Envelope

/-! ### What the bytes say -/

/-- The data of a received frame, read off its bytes: the last that is given. -/
def lastData (received : List UInt8) : List UInt8 :=
  ((contentsOf 1 received).flatMap (contentsOf 3)).getLastD []

/-- The bodies with a number that no later payload of another kind has replaced. -/
def mergedContents (number : ℕ) (l : List (ℕ × Wire)) : List (List UInt8) :=
  l.foldl (fun bodies x =>
    if x.1 = number then bodies ++ contents number [x]
    else if isPayload x.1 then [] else bodies) []

def ReceivedCanFrame.data (m : ReceivedCanFrame) : List UInt8 := m.frame.elim [] CanFrame.data

/-! ### What is decoded -/

lemma getLastD_append {α : Type} (l l' : List α) (a : α) :
    (l ++ l').getLastD a = l'.getLastD (l.getLastD a) := by
  induction l' using List.reverseRecOn with
  | nil => simp
  | append_singleton l' x => simp [← List.append_assoc]

lemma CanFrame.merge_data {m m' : CanFrame} (h : CanFrame.merge m n wire = some m') :
    m'.data = (contents 3 [(n, wire)]).getLastD m.data := by
  by_cases hn : n = 3
  · subst hn
    obtain ⟨data, hdata, rfl⟩ := Option.map_eq_some_iff.mp h
    cases wire <;> cases hdata
    rfl
  -- no other field touches the data
  · rw [contents_singleton_of_ne wire hn]
    unfold CanFrame.merge at h
    split at h
    case h_3 => exact absurd rfl hn
    case h_8 =>
      cases h
      rfl
    all_goals
      obtain ⟨_, -, rfl⟩ := Option.map_eq_some_iff.mp h
      rfl

lemma CanFrame.data_of_mergeFrom {m m' : CanFrame}
    (h : mergeFrom CanFrame.merge m input = some m') :
    m'.data = (contentsOf 3 input).getLastD m.data := by
  refine mergeFrom_contents (P := fun l x => x.data = l.getLastD m.data) h rfl ?_
  intro l n wire x x' hx hmerge
  rw [getLastD_append, ← hx]
  exact CanFrame.merge_data hmerge

lemma ReceivedCanFrame.merge_data {m m' : ReceivedCanFrame}
    (h : ReceivedCanFrame.merge m n wire = some m') :
    m'.data = ((contents 1 [(n, wire)]).flatMap (contentsOf 3)).getLastD m.data := by
  by_cases hn : n = 1
  · subst hn
    obtain ⟨frame, hframe, rfl⟩ := Option.map_eq_some_iff.mp h
    obtain ⟨input, rfl, hinput⟩ := messageValue_eq_some.mp hframe
    have hold : (m.frame.getD { kind := 0 }).data = m.data := by
      unfold ReceivedCanFrame.data
      cases m.frame <;> rfl
    rw [contents_singleton_bytes, List.flatMap_singleton, ← hold]
    exact CanFrame.data_of_mergeFrom hinput
  · rw [contents_singleton_of_ne wire hn]
    unfold ReceivedCanFrame.merge at h
    split at h
    · exact absurd rfl hn
    · obtain ⟨_, -, rfl⟩ := Option.map_eq_some_iff.mp h
      rfl
    · cases h
      rfl

lemma ReceivedCanFrame.data_of_mergeFrom {m : ReceivedCanFrame}
    (h : mergeFrom ReceivedCanFrame.merge ⟨none, none⟩ input = some m) :
    m.data = lastData input := by
  refine mergeFrom_contents (P := fun l x => x.data = (l.flatMap (contentsOf 3)).getLastD []) h
    rfl ?_
  intro l n wire x x' hx hmerge
  rw [List.flatMap_append, getLastD_append, ← hx]
  exact ReceivedCanFrame.merge_data hmerge

lemma CanReceiveResponse.merge_data (h : CanReceiveResponse.merge m n wire = some m') :
    m'.frames.map ReceivedCanFrame.data
      = m.frames.map ReceivedCanFrame.data ++ (contents 1 [(n, wire)]).map lastData := by
  by_cases hn : n = 1
  · subst hn
    obtain ⟨frame, hframe, rfl⟩ := Option.map_eq_some_iff.mp h
    obtain ⟨input, rfl, hinput⟩ := messageValue_eq_some.mp hframe
    rw [contents_singleton_bytes, List.map_append, List.map_singleton, List.map_singleton,
      ReceivedCanFrame.data_of_mergeFrom hinput]
  · rw [contents_singleton_of_ne wire hn, List.map_nil, List.append_nil]
    unfold CanReceiveResponse.merge at h
    split at h
    · exact absurd rfl hn
    · cases h
      rfl

lemma CanReceiveResponse.data_of_mergeFrom
    (h : mergeFrom CanReceiveResponse.merge m input = some m') :
    m'.frames.map ReceivedCanFrame.data
      = m.frames.map ReceivedCanFrame.data ++ (contentsOf 1 input).map lastData := by
  refine mergeFrom_contents (P := fun l x => x.frames.map ReceivedCanFrame.data
    = m.frames.map ReceivedCanFrame.data ++ l.map lastData) h (List.append_nil _).symm ?_
  intro l n wire x x' hx hmerge
  rw [List.map_append, ← List.append_assoc, ← hx]
  exact CanReceiveResponse.merge_data hmerge

lemma SerialReadResponse.data_of_mergeFrom {m m' : SerialReadResponse}
    (h : mergeFrom SerialReadResponse.merge m input = some m') :
    m'.data = (contentsOf 1 input).getLastD m.data := by
  refine mergeFrom_contents (P := fun l x => x.data = l.getLastD m.data) h rfl ?_
  intro l n wire x x' hx hmerge
  rw [getLastD_append, ← hx]
  by_cases hn : n = 1
  · subst hn
    obtain ⟨data, hdata, rfl⟩ := Option.map_eq_some_iff.mp hmerge
    cases wire <;> cases hdata
    rfl
  · rw [contents_singleton_of_ne wire hn]
    unfold SerialReadResponse.merge at hmerge
    split at hmerge
    · exact absurd rfl hn
    · cases hmerge
      rfl

/-! ### Nested messages -/

/-- The messages nested in the body of a receive response can all be read. -/
structure Readable (input : List UInt8) : Prop where
  body : (fields input).isSome
  received : ∀ r ∈ contentsOf 1 input, (fields r).isSome
  frame : ∀ r ∈ contentsOf 1 input, ∀ f ∈ contentsOf 1 r, (fields f).isSome

lemma isSome_fields_of_mergeFrom {μ : Type} {merge : μ → ℕ → Wire → Option μ} {m m' : μ}
    (h : mergeFrom merge m input = some m') : (fields input).isSome := by
  obtain ⟨l, hl, -⟩ := fields_of_mergeFrom h
  rw [hl]
  rfl

lemma CanReceiveResponse.readable (h : mergeFrom CanReceiveResponse.merge m input = some m') :
    Readable input := by
  have hreceived {r : List UInt8} (hr : r ∈ contentsOf 1 input) :
      ∃ x, mergeFrom ReceivedCanFrame.merge ⟨none, none⟩ r = some x := by
    obtain ⟨x, x', hx⟩ := exists_merge_of_mem h hr
    obtain ⟨frame, hframe, -⟩ := Option.map_eq_some_iff.mp hx
    exact ⟨frame, hframe⟩
  refine ⟨isSome_fields_of_mergeFrom h, fun r hr => ?_, fun r hr f hf => ?_⟩
  · obtain ⟨x, hx⟩ := hreceived hr
    exact isSome_fields_of_mergeFrom hx
  · obtain ⟨x, hx⟩ := hreceived hr
    obtain ⟨y, y', hy⟩ := exists_merge_of_mem hx hf
    obtain ⟨frame, hframe, -⟩ := Option.map_eq_some_iff.mp hy
    exact isSome_fields_of_mergeFrom hframe

/-! ### The envelope -/

/-- The number that a scalar field ends up with. -/
def lastVarint (number : ℕ) (l : List (ℕ × Wire)) : ℕ :=
  l.foldl (fun last x => if x.1 = number then (uint64Value x.2).getD last else last) 0

namespace Envelope

variable {β : Type} {others : ℕ → Option β → List UInt8 → Option β} {e e' : Envelope β} {n : ℕ}
  {wire : Wire}

/-- What a field does to the envelope. -/
inductive Merged (e : Envelope β) : ℕ → Wire → Envelope β → Prop
  | requestId (value : ℕ) : Merged e 1 (.varint value) { e with requestId := value }
  | serialRead (input : List UInt8) (m : SerialReadResponse)
      (h : mergeFrom SerialReadResponse.merge e.serialRead input = some m) :
      Merged e 25 (.bytes input) { e with payload := some (.serialReadResponse m) }
  | canReceive (input : List UInt8) (m : CanReceiveResponse)
      (h : mergeFrom CanReceiveResponse.merge e.canReceive input = some m) :
      Merged e 57 (.bytes input) { e with payload := some (.canReceiveResponse m) }
  | other (n : ℕ) (wire : Wire) (body : β) (h1 : n ≠ 1) (h25 : n ≠ 25) (h57 : n ≠ 57)
      (h : isPayload n = true) : Merged e n wire { e with payload := some (.other n body) }
  | skipped (n : ℕ) (wire : Wire) (h1 : n ≠ 1) (h57 : n ≠ 57) (h : isPayload n = false) :
      Merged e n wire e

lemma merged_of_merge (h : merge others e n wire = some e') : Merged e n wire e' := by
  unfold merge at h
  split at h
  · rename_i h1
    obtain ⟨value, hvalue, rfl⟩ := Option.map_eq_some_iff.mp h
    cases wire <;> cases hvalue
    exact h1 ▸ .requestId value
  rename_i h1
  split at h
  · rename_i h25
    obtain ⟨m, hm, rfl⟩ := Option.map_eq_some_iff.mp h
    obtain ⟨input, rfl, hinput⟩ := messageValue_eq_some.mp hm
    exact h25 ▸ .serialRead input m hinput
  rename_i h25
  split at h
  · rename_i h57
    obtain ⟨m, hm, rfl⟩ := Option.map_eq_some_iff.mp h
    obtain ⟨input, rfl, hinput⟩ := messageValue_eq_some.mp hm
    exact h57 ▸ .canReceive input m hinput
  rename_i h57
  split at h
  · rename_i hpayload
    obtain ⟨input, -, hbody⟩ := Option.bind_eq_some_iff.mp h
    obtain ⟨body, -, rfl⟩ := Option.map_eq_some_iff.mp hbody
    exact .other n wire body h1 h25 h57 hpayload
  · rename_i hpayload
    cases h
    exact .skipped n wire h1 h57 (Bool.not_eq_true _ ▸ hpayload)

/-- What an envelope holds, by the fields merged into it. -/
structure Reflects (l : List (ℕ × Wire)) (e : Envelope β) : Prop where
  requestId : e.requestId = lastVarint 1 l
  serial : e.serialRead.data = [] ∨ ∃ body ∈ contents 25 l, e.serialRead.data ∈ contentsOf 1 body
  can : e.canReceive.frames.map ReceivedCanFrame.data
    = (mergedContents 57 l).flatMap fun body => (contentsOf 1 body).map lastData

lemma lastVarint_snoc (number : ℕ) (l : List (ℕ × Wire)) (n : ℕ) (wire : Wire) :
    lastVarint number (l ++ [(n, wire)])
      = if n = number then (uint64Value wire).getD (lastVarint number l)
        else lastVarint number l := by
  rw [lastVarint, List.foldl_append]
  rfl

lemma mergedContents_snoc (number : ℕ) (l : List (ℕ × Wire)) (n : ℕ) (wire : Wire) :
    mergedContents number (l ++ [(n, wire)])
      = if n = number then mergedContents number l ++ contents number [(n, wire)]
        else if isPayload n then [] else mergedContents number l := by
  rw [mergedContents, List.foldl_append]
  rfl

lemma getLastD_eq_or_mem {α : Type} (l : List α) (a : α) : l.getLastD a = a ∨ l.getLastD a ∈ l := by
  induction l using List.reverseRecOn with
  | nil => exact .inl rfl
  | append_singleton l x => simp

lemma Reflects.merged {l : List (ℕ × Wire)} (h : Reflects l e) (hm : Merged e n wire e') :
    Reflects (l ++ [(n, wire)]) e' := by
  -- a body of field 25 among the earlier ones is still there
  have hkeep {data : List UInt8}
      (hdata : data = [] ∨ ∃ body ∈ contents 25 l, data ∈ contentsOf 1 body) :
      data = [] ∨ ∃ body ∈ contents 25 (l ++ [(n, wire)]), data ∈ contentsOf 1 body := by
    refine hdata.imp_right ?_
    rintro ⟨body, hbody, hmem⟩
    exact ⟨body, contents_append _ _ _ ▸ List.mem_append_left _ hbody, hmem⟩
  cases hm with
  | requestId value =>
    refine ⟨by rw [lastVarint_snoc, if_pos rfl]; rfl, hkeep h.serial, h.can.trans ?_⟩
    rw [mergedContents_snoc, if_neg (by decide), if_neg (by decide)]
  | serialRead input m hinput =>
    refine ⟨h.requestId.trans (by rw [lastVarint_snoc, if_neg (by decide)]), ?_, ?_⟩
    · have hdata : m.data = (contentsOf 1 input).getLastD e.serialRead.data :=
        SerialReadResponse.data_of_mergeFrom hinput
      rcases getLastD_eq_or_mem (contentsOf 1 input) e.serialRead.data with hold | hnew
      · exact hdata.trans hold ▸ hkeep h.serial
      · refine .inr ⟨input, ?_, hdata ▸ hnew⟩
        rw [contents_append, contents_singleton_bytes]
        simp
    · rw [mergedContents_snoc, if_neg (by decide), if_pos (by decide)]
      rfl
  | canReceive input m hinput =>
    refine ⟨h.requestId.trans (by rw [lastVarint_snoc, if_neg (by decide)]), .inl rfl, ?_⟩
    have hdata := CanReceiveResponse.data_of_mergeFrom hinput
    rw [mergedContents_snoc, if_pos rfl, contents_singleton_bytes, List.flatMap_append, ← h.can,
      List.flatMap_singleton]
    exact hdata
  | other _ _ body h1 h25 h57 hpayload =>
    refine ⟨h.requestId.trans (by rw [lastVarint_snoc, if_neg h1]), .inl rfl, ?_⟩
    rw [mergedContents_snoc, if_neg h57, if_pos hpayload]
    rfl
  | skipped _ _ h1 h57 hpayload =>
    refine ⟨h.requestId.trans (by rw [lastVarint_snoc, if_neg h1]), hkeep h.serial, h.can.trans ?_⟩
    rw [mergedContents_snoc, if_neg h57, hpayload]
    rfl

lemma reflects_of_decode (h : decode others input = some e) :
    ∃ l, fields input = some l ∧ Reflects l e
      ∧ (∀ body ∈ contents 25 l, (fields body).isSome) ∧ ∀ body ∈ contents 57 l, Readable body := by
  obtain ⟨l, hl, hfold⟩ := fields_of_mergeFrom h
  refine ⟨l, hl, ?_, fun body hbody => ?_, fun body hbody => ?_⟩
  · refine foldlM_induction (P := Reflects) hfold ⟨rfl, .inl rfl, rfl⟩ ?_
    intro l x _ e e' hreflects hmerge
    exact hreflects.merged (merged_of_merge hmerge)
  · obtain ⟨x, x', hx⟩ := exists_of_foldlM hfold (mem_contents.mp hbody)
    cases merged_of_merge hx with
    | serialRead _ _ hinput => exact isSome_fields_of_mergeFrom hinput
    | other _ _ _ _ h25 => exact absurd rfl h25
    | skipped _ _ _ _ hpayload => cases hpayload
  · obtain ⟨x, x', hx⟩ := exists_of_foldlM hfold (mem_contents.mp hbody)
    cases merged_of_merge hx with
    | canReceive _ _ hinput => exact CanReceiveResponse.readable hinput
    | other _ _ _ _ _ h57 | skipped _ _ _ h57 => exact absurd rfl h57

end Envelope

end RobotHal.V1
