import RobotHal.Client
import RobotHal.EnvelopeDecode

/-!
# The client looks at a frame before it decodes it

`preflight_inbound` walks over the fields of a frame three times: for the id of the request, for
the data of serial responses, and for the frames of CAN responses. It bounds every response body by
itself. The decoder merges the bodies of one kind, so the bodies together may hold more than the
request allows.
-/

namespace RobotHal.Client

open Proto

variable {input rest body : List UInt8} {field depth turns : ℕ} {l : List (ℕ × Wire)}
  {c : ReceiveCounts}
variable {n v len turns' number negotiatedRead maxFrames maxReadBytes : ℕ} {next : Next}
  {loop : List UInt8 → ℕ → ℕ → HalResult (List UInt8)} {requested : Option ℕ}
  {data frame : List UInt8} {c' : ReceiveCounts} {profile : CanSessionProfile}

/-! ### The walker -/

def invalidWire (message : String) : HalError :=
  clientError "runtime.protocol.invalid_message" .invalidArgument "runtime.protocol.decode" false
    message

inductive WireValue
  | varint (value : ℕ)
  | bytes (value : List UInt8)
  | fixed

def readVarintFrom (index value : ℕ) : List UInt8 → HalResult (ℕ × ℕ)
  | [] => .error (invalidWire "truncated protobuf varint")
  | byte :: input =>
    if index = 9 ∧ byte > 1 then .error (invalidWire "protobuf varint overflows u64")
    else
      let value := value ||| (byte &&& 0x7f).toNat <<< (index * 7)
      if byte &&& 0x80 = 0 then .ok (value, index + 1) else readVarintFrom (index + 1) value input

/-- A number and how many bytes it took. -/
def readVarint (input : List UInt8) : HalResult (ℕ × ℕ) := readVarintFrom 0 0 (input.take 10)

/-- `u32::try_from(n).unwrap_or(u32::MAX)`. -/
def saturate (n : ℕ) : ℕ := if n < 2 ^ 32 then n else 2 ^ 32 - 1

/-- What a key announces. -/
inductive Next
  | value (wire : WireValue)
  | startGroup
  | endGroup

/-- The key at the front and its value. `visit_fields` and `skip_group` read them alike. -/
def nextField (input : List UInt8) : HalResult (ℕ × Next × List UInt8) := do
  let (key, keyLen) ← readVarint input
  let input := input.drop keyLen
  let field := saturate (key >>> 3)
  if field = 0 then .error (invalidWire "protobuf field number zero is invalid")
  else
    match key &&& 0x07 with
    | 0 => do
      let (value, len) ← readVarint input
      .ok (field, .value (.varint value), input.drop len)
    | 1 =>
      if input.length < 8 then .error (invalidWire "truncated fixed64 protobuf field")
      else .ok (field, .value .fixed, input.drop 8)
    | 2 => do
      let (len, prefixLen) ← readVarint input
      let input := input.drop prefixLen
      if input.length < len then
        .error (invalidWire "truncated length-delimited protobuf field")
      else .ok (field, .value (.bytes (input.take len)), input.drop len)
    | 3 => .ok (field, .startGroup, input)
    | 4 => .ok (field, .endGroup, input)
    | 5 =>
      if input.length < 4 then .error (invalidWire "truncated fixed32 protobuf field")
      else .ok (field, .value .fixed, input.drop 4)
    | _ => .error (invalidWire "unsupported protobuf wire type")

def maxProtobufGroupDepth : ℕ := 64

/-- A turn of the loop of `skip_group`; `loop` goes on with the rest. -/
def skipTurn (loop : List UInt8 → ℕ → ℕ → HalResult (List UInt8)) (input : List UInt8)
    (expectedField depth : ℕ) : HalResult (List UInt8) :=
  if depth > maxProtobufGroupDepth then
    .error (invalidWire "protobuf group nesting is too deep")
  else if input = [] then .error (invalidWire "unterminated protobuf group")
  else do
    let (field, next, input) ← nextField input
    match next with
    | .value _ => loop input expectedField depth
    | .startGroup => do
      let input ← loop input field (depth + 1)
      loop input expectedField depth
    | .endGroup =>
      if field = expectedField then .ok input
      else .error (invalidWire "protobuf end-group field does not match start-group")

/-- A turn takes a byte at least, so the turns never run out (`skipGroup_eq`). -/
def skipGroupFrom : ℕ → List UInt8 → ℕ → ℕ → HalResult (List UInt8)
  | 0 => fun _ _ _ => .error (invalidWire "unterminated protobuf group")
  | turns + 1 => skipTurn (skipGroupFrom turns)

def skipGroup (input : List UInt8) : ℕ → ℕ → HalResult (List UInt8) :=
  skipGroupFrom (input.length + 1) input

section Visit

variable {σ : Type} (visitor : σ → ℕ → WireValue → HalResult σ)

/-- A turn of the loop of `visit_fields`; `σ` is what the visitor keeps. -/
def visitTurn (loop : σ → List UInt8 → HalResult σ) (s : σ) (input : List UInt8) : HalResult σ :=
  if input = [] then .ok s
  else do
    let (field, next, input) ← nextField input
    match next with
    | .value wire => do
      let s ← visitor s field wire
      loop s input
    | .startGroup => do
      let input ← skipGroup input field 1
      loop s input
    | .endGroup => .error (invalidWire "unexpected protobuf end-group field")

def visitFieldsFrom : ℕ → σ → List UInt8 → HalResult σ
  | 0 => fun s _ => .ok s
  | turns + 1 => visitTurn visitor (visitFieldsFrom turns)

def visitFields (s : σ) (input : List UInt8) : HalResult σ :=
  visitFieldsFrom visitor (input.length + 1) s input

end Visit

/-! ### The preflight -/

def RequestState.expected (r : RequestState) (id : ℕ) : Option ExpectedResponse :=
  (r.pending.lookup id).orElse fun _ => r.cancelled.lookup id

def visitRequestId (requestId : ℕ) : ℕ → WireValue → HalResult ℕ
  | 1, .varint value => .ok value
  | _, _ => .ok requestId

def requestedRead : Option ExpectedResponse → Option ℕ
  | some (.serialRead maxBytes) => some maxBytes
  | _ => none

def visitReadResponse (negotiatedRead : ℕ) (requestedRead : Option ℕ) (_ : Unit) :
    ℕ → WireValue → HalResult Unit
  | 1, .bytes data =>
    if data.length > negotiatedRead ∨ requestedRead.any (decide <| data.length > ·) then
      .error (frameTooLarge "serial read response exceeds the negotiated or requested byte limit")
    else .ok ()
  | _, _ => .ok ()

def visitSerial (negotiatedRead : ℕ) (requestedRead : Option ℕ) (_ : Unit) :
    ℕ → WireValue → HalResult Unit
  | 25, .bytes readResponse =>
    visitFields (visitReadResponse negotiatedRead requestedRead) () readResponse
  | _, _ => .ok ()

/-- What is counted in the body of a receive response. -/
structure ReceiveCounts where
  frameCount : ℕ := 0
  payloadBytes : ℕ := 0
  hasTimestamp : Bool := false

def visitCanFrame (c : ReceiveCounts) : ℕ → WireValue → HalResult ReceiveCounts
  | 3, .bytes data => do
    let payloadBytes ← okOr (checkedAdd c.payloadBytes data.length)
      (invalidWire "CAN receive response payload overflows usize")
    .ok { c with payloadBytes }
  | _, _ => .ok c

def visitReceived (c : ReceiveCounts) : ℕ → WireValue → HalResult ReceiveCounts
  | 1, .bytes canFrame => visitFields visitCanFrame c canFrame
  | 2, .bytes _ => .ok { c with hasTimestamp := true }
  | _, _ => .ok c

def visitReceiveResponse (c : ReceiveCounts) : ℕ → WireValue → HalResult ReceiveCounts
  | 1, .bytes received => do
    let frameCount ← okOr (checkedAdd c.frameCount 1)
      (invalidWire "CAN receive response frame count overflows usize")
    visitFields visitReceived { c with frameCount } received
  | _, _ => .ok c

def attachProfile (error : HalError) (profile : CanSessionProfile) : HalError :=
  attachResource error profile.resourceId

def checkReceiveCounts (c : ReceiveCounts) : Option ExpectedResponse → HalResult Unit
  | some (.canReceive maxFrames maxReadBytes profile) =>
    if c.frameCount > maxFrames ∨ c.payloadBytes > maxReadBytes then
      .error (attachProfile
        (invalidWire "CAN receive response exceeds the requested frame or byte bound") profile)
    else if c.hasTimestamp && !profile.timestamps then
      .error (attachProfile
        (invalidWire "CAN receive response contains an unadvertised timestamp") profile)
    else .ok ()
  | _ => .ok ()

def visitCan (expected : Option ExpectedResponse) (_ : Unit) : ℕ → WireValue → HalResult Unit
  | 57, .bytes receiveResponse => do
    let counts ← visitFields visitReceiveResponse {} receiveResponse
    checkReceiveCounts counts expected
  | _, _ => .ok ()

def preflightInbound (negotiatedRead : ℕ) (requests : RequestState) (frame : List UInt8) :
    HalResult Unit := do
  let requestId ← visitFields visitRequestId 0 frame
  let expected := requests.expected requestId
  visitFields (visitSerial negotiatedRead (requestedRead expected)) () frame
  visitFields (visitCan expected) () frame

/-! ### The walker and the decoder see the same fields -/

lemma saturate_eq_iff {k : ℕ} (hk : k < 2 ^ 32 - 1) : saturate n = k ↔ n = k := by
  unfold saturate
  split <;> omega

lemma varintFrom_of_readVarintFrom {index value : ℕ}
    (h : readVarintFrom index value (input.take (10 - index)) = .ok (v, len)) :
    index < len ∧ varintFrom index value input = some (v, input.drop (len - index)) := by
  induction input generalizing index value with
  | nil =>
    rw [List.take_nil] at h
    cases h
  | cons byte input ih =>
    by_cases hindex : 10 ≤ index
    · rw [Nat.sub_eq_zero_of_le hindex] at h
      cases h
    · have htake : 10 - index = 10 - (index + 1) + 1 := by omega
      rw [htake, List.take_succ_cons, readVarintFrom] at h
      rw [varintFrom]
      split at h
      · cases h
      rename_i hfits
      have hfits' : ¬(9 < index ∨ index = 9 ∧ byte > 1) := by
        rintro (hlt | hover)
        · omega
        · exact hfits hover
      rw [if_neg hfits']
      split at h
      · rename_i hlast
        cases h
        exact ⟨by omega, by simp only [if_pos hlast]; simp⟩
      · rename_i hmore
        obtain ⟨hlt, htail⟩ := ih h
        refine ⟨by omega, ?_⟩
        have hdrop : len - index = len - (index + 1) + 1 := by omega
        simp only [if_neg hmore]
        rw [htail, hdrop, List.drop_succ_cons]

lemma takeVarint_of_readVarint (h : readVarint input = .ok (v, len)) :
    takeVarint input = some (v, input.drop len) :=
  (varintFrom_of_readVarintFrom h).2

/-- What the visitor gets to see of a field; groups are passed over. -/
def seen : Wire → Option WireValue
  | .varint value => some (.varint value)
  | .bytes value => some (.bytes value)
  | .fixed64 | .fixed32 => some .fixed
  | .group => none

inductive Sees : Item → Next → Prop
  | value {wire : Wire} {w : WireValue} (h : seen wire = some w) : Sees (.value wire) (.value w)
  | startGroup : Sees .startGroup .startGroup
  | endGroup : Sees .endGroup .endGroup

lemma takeItem_of_nextField (h : nextField input = .ok (field, next, rest)) :
    ∃ n item, takeItem input = some (n, item, rest) ∧ field = saturate n ∧ Sees item next := by
  unfold nextField at h
  obtain ⟨⟨key, keyLen⟩, hkey, h⟩ := bind_eq_ok.mp h
  dsimp only at h
  split at h
  · cases h
  rename_i hzero
  have hne : key >>> 3 ≠ 0 := fun heq => hzero ((saturate_eq_iff (by decide)).mpr heq)
  refine ⟨key >>> 3, ?_⟩
  rw [takeItem, takeVarint_of_readVarint hkey]
  simp only [if_neg hne]
  split at h <;> rename_i hwire <;> try simp only [hwire]
  · obtain ⟨⟨value, len⟩, hvalue, h⟩ := bind_eq_ok.mp h
    cases h
    rw [takeVarint_of_readVarint hvalue]
    exact ⟨.value (.varint value), rfl, rfl, .value rfl⟩
  · split at h
    · cases h
    rename_i hlen
    cases h
    exact ⟨.value .fixed64, if_pos (not_lt.mp hlen), rfl, .value rfl⟩
  · obtain ⟨⟨len, lenLen⟩, hvalue, h⟩ := bind_eq_ok.mp h
    dsimp only at h
    split at h
    · cases h
    rename_i hlen
    cases h
    rw [takeVarint_of_readVarint hvalue]
    exact ⟨.value (.bytes _), if_pos (not_lt.mp hlen), rfl, .value rfl⟩
  · cases h
    exact ⟨.startGroup, rfl, rfl, .startGroup⟩
  · cases h
    exact ⟨.endGroup, rfl, rfl, .endGroup⟩
  · split at h
    · cases h
    rename_i hlen
    cases h
    exact ⟨.value .fixed32, if_pos (not_lt.mp hlen), rfl, .value rfl⟩
  · cases h

lemma length_of_nextField (h : nextField input = .ok (field, next, rest)) :
    rest.length < input.length := by
  obtain ⟨n, item, htake, -⟩ := takeItem_of_nextField h
  exact length_of_takeItem htake

/-! ### The loops -/

lemma skipTurn_congr {loop' : List UInt8 → ℕ → ℕ → HalResult (List UInt8)} (field depth : ℕ)
    (h : ∀ rest field depth, rest.length < input.length →
      loop rest field depth = loop' rest field depth)
    (hlen : ∀ rest field depth tail, loop' rest field depth = .ok tail →
      tail.length < rest.length) :
    skipTurn loop input field depth = skipTurn loop' input field depth := by
  simp only [skipTurn]
  cases hnext : nextField input with
  | error e => rfl
  | ok x =>
    obtain ⟨n, next, tail⟩ := x
    have htail := length_of_nextField hnext
    simp only [ok_bind]
    cases next with
    | value wire => rw [h tail field depth htail]
    | startGroup =>
      simp only [h tail n (depth + 1) htail]
      cases hmid : loop' tail n (depth + 1) with
      | error e => rfl
      | ok mid =>
        simp only [ok_bind]
        rw [h mid field depth ((hlen _ _ _ _ hmid).trans htail)]
    | endGroup => rfl

lemma length_of_skipTurn
    (hlen : ∀ rest field depth tail, loop rest field depth = .ok tail → tail.length < rest.length)
    (h : skipTurn loop input field depth = .ok rest) : rest.length < input.length := by
  unfold skipTurn at h
  split at h
  · cases h
  split at h
  · cases h
  obtain ⟨⟨n, next, tail⟩, hnext, h⟩ := bind_eq_ok.mp h
  have htail := length_of_nextField hnext
  cases next with
  | value wire => exact (hlen _ _ _ _ h).trans htail
  | startGroup =>
    obtain ⟨mid, hmid, h⟩ := bind_eq_ok.mp h
    exact (hlen _ _ _ _ h).trans ((hlen _ _ _ _ hmid).trans htail)
  | endGroup =>
    dsimp only at h
    split at h
    · cases h
      exact htail
    · cases h

lemma length_of_skipGroupFrom (h : skipGroupFrom turns input field depth = .ok rest) :
    rest.length < input.length := by
  induction turns generalizing input rest field depth with
  | zero => cases h
  | succ turns ih => exact length_of_skipTurn (fun _ _ _ _ => ih) h

lemma skipGroupFrom_congr (field depth : ℕ) (h : input.length < turns)
    (h' : input.length < turns') :
    skipGroupFrom turns input field depth = skipGroupFrom turns' input field depth := by
  induction turns generalizing turns' input field depth with
  | zero => omega
  | succ turns ih =>
    obtain ⟨turns', rfl⟩ : ∃ k, turns' = k + 1 := ⟨turns' - 1, by omega⟩
    refine skipTurn_congr field depth ?_ fun _ _ _ _ => length_of_skipGroupFrom
    intro rest field depth hrest
    exact ih field depth (by omega) (by omega)

lemma length_of_skipGroup (h : skipGroup input field depth = .ok rest) :
    rest.length < input.length :=
  length_of_skipGroupFrom h

lemma skipGroup_eq (input : List UInt8) (field depth : ℕ) :
    skipGroup input field depth = skipTurn skipGroup input field depth := by
  refine skipTurn_congr field depth ?_ fun _ _ _ _ => length_of_skipGroup
  intro rest field depth hrest
  exact skipGroupFrom_congr field depth hrest (Nat.lt_succ_self _)

section Visit

variable {σ : Type} {visitor : σ → ℕ → WireValue → HalResult σ}

lemma visitTurn_congr {loop loop' : σ → List UInt8 → HalResult σ} (s : σ)
    (h : ∀ s rest, rest.length < input.length → loop s rest = loop' s rest) :
    visitTurn visitor loop s input = visitTurn visitor loop' s input := by
  simp only [visitTurn]
  cases hnext : nextField input with
  | error e => rfl
  | ok x =>
    obtain ⟨n, next, tail⟩ := x
    have htail := length_of_nextField hnext
    simp only [ok_bind]
    cases next with
    | value wire => simp only [h _ tail htail]
    | startGroup =>
      cases hrest : skipGroup tail n 1 with
      | error e => rfl
      | ok rest =>
        simp only [ok_bind]
        rw [h s rest ((length_of_skipGroup hrest).trans htail)]
    | endGroup => rfl

lemma visitFieldsFrom_congr (s : σ) (h : input.length < turns) (h' : input.length < turns') :
    visitFieldsFrom visitor turns s input = visitFieldsFrom visitor turns' s input := by
  induction turns generalizing turns' input s with
  | zero => omega
  | succ turns ih =>
    obtain ⟨turns', rfl⟩ : ∃ k, turns' = k + 1 := ⟨turns' - 1, by omega⟩
    apply visitTurn_congr
    intro s rest hrest
    exact ih s (by omega) (by omega)

lemma visitFields_eq (s : σ) (input : List UInt8) :
    visitFields visitor s input = visitTurn visitor (visitFields visitor) s input := by
  apply visitTurn_congr
  intro s rest hrest
  exact visitFieldsFrom_congr s hrest (Nat.lt_succ_self _)

end Visit

/-! ### What is visited -/

/-- A group that is skipped is one that the decoder leaves out. -/
lemma outerFields_of_skipGroup {stack : List ℕ} {its : List (ℕ × Item)}
    (h : skipGroup input (saturate n) depth = .ok rest) (hitems : items input = some its)
    (hl : outerFields (n :: stack) its = some l) :
    ∃ its', items rest = some its' ∧ outerFields stack its' = some l := by
  induction hsize : input.length using Nat.strong_induction_on
    generalizing input rest n depth stack its with
  | _ size ih =>
    rw [skipGroup_eq, skipTurn] at h
    split at h
    · cases h
    split at h
    · cases h
    obtain ⟨⟨field, next, tail⟩, hnext, h⟩ := bind_eq_ok.mp h
    obtain ⟨k, item, htake, rfl, hsees⟩ := takeItem_of_nextField hnext
    have htail := length_of_nextField hnext
    rw [items_of_takeItem htake] at hitems
    obtain ⟨its, hits, rfl⟩ := Option.map_eq_some_iff.mp hitems
    cases hsees with
    | value hseen => exact ih _ (hsize ▸ htail) h hits hl rfl
    | startGroup =>
      obtain ⟨mid, hmid, h⟩ := bind_eq_ok.mp h
      obtain ⟨its', hits', hl'⟩ := ih _ (hsize ▸ htail) hmid hits hl rfl
      exact ih _ (hsize ▸ (length_of_skipGroup hmid).trans htail) h hits' hl' rfl
    | endGroup =>
      dsimp only at h
      split at h
      · cases h
        rw [outerFields] at hl
        split at hl
        · exact ⟨its, hits, hl⟩
        · cases hl
      · cases h

/-- What the visitor does with a field of the decoder. -/
def visit {σ : Type} (visitor : σ → ℕ → WireValue → HalResult σ) (s : σ) (x : ℕ × Wire) :
    HalResult σ :=
  match seen x.2 with
  | none => .ok s
  | some w => visitor s (saturate x.1) w

lemma foldlM_of_visitFields {σ : Type} {visitor : σ → ℕ → WireValue → HalResult σ} {s t : σ}
    (h : visitFields visitor s input = .ok t) (hl : fields input = some l) :
    l.foldlM (fun s x => (visit visitor s x).toOption) s = some t := by
  obtain ⟨its, hitems, houter⟩ := Option.bind_eq_some_iff.mp hl
  clear hl
  induction hsize : input.length using Nat.strong_induction_on generalizing input s its l with
  | _ size ih =>
    rw [visitFields_eq, visitTurn] at h
    split at h
    · -- the input is at its end
      rename_i hnil
      subst hnil
      cases h
      rw [items_nil] at hitems
      cases hitems
      cases houter
      rfl
    obtain ⟨⟨field, next, tail⟩, hnext, h⟩ := bind_eq_ok.mp h
    obtain ⟨k, item, htake, rfl, hsees⟩ := takeItem_of_nextField hnext
    have htail := length_of_nextField hnext
    rw [items_of_takeItem htake] at hitems
    obtain ⟨its, hits, rfl⟩ := Option.map_eq_some_iff.mp hitems
    cases hsees with
    | value hseen =>
      obtain ⟨s', hs', h⟩ := bind_eq_ok.mp h
      obtain ⟨l, hl, rfl⟩ := Option.map_eq_some_iff.mp houter
      rw [List.foldlM_cons]
      simp only [visit, hseen, hs']
      exact ih _ (hsize ▸ htail) h its hits hl rfl
    | startGroup =>
      obtain ⟨rest, hrest, h⟩ := bind_eq_ok.mp h
      obtain ⟨l, hl, rfl⟩ := Option.map_eq_some_iff.mp houter
      obtain ⟨its', hits', hl'⟩ := outerFields_of_skipGroup hrest hits hl
      rw [List.foldlM_cons]
      exact ih _ (hsize ▸ (length_of_skipGroup hrest).trans htail) h its' hits' hl' rfl
    | endGroup => cases h

section Visited

variable {σ : Type} {visitor : σ → ℕ → WireValue → HalResult σ} {s t : σ} {input : List UInt8}

lemma visitFields_contents (number : ℕ) {P : List (List UInt8) → σ → Prop}
    (hnumber : number < 2 ^ 32 - 1) (h : visitFields visitor s input = .ok t)
    (hfields : (fields input).isSome) (h0 : P [] s)
    (hcontent : ∀ p, ∀ b ∈ contentsOf number input, ∀ s s', P p s →
      visitor s number (.bytes b) = .ok s' → P (p ++ [b]) s')
    (hother : ∀ p field w s s', (field = number → ∀ b, w ≠ .bytes b) → P p s →
      visitor s field w = .ok s' → P p s') : P (contentsOf number input) t := by
  obtain ⟨l, hl⟩ := Option.isSome_iff_exists.mp hfields
  have hcontents : contentsOf number input = contents number l := by rw [contentsOf, hl]; rfl
  rw [hcontents] at hcontent ⊢
  refine foldlM_induction (P := fun p s => P (contents number p) s) (foldlM_of_visitFields h hl)
    h0 ?_
  rintro p ⟨n, wire⟩ hmem s s' hP hvisit
  have hvisit := ok_of_toOption hvisit
  rw [contents_append]
  by_cases hn : n = number
  · subst hn
    have hsaturate : saturate n = n := (saturate_eq_iff hnumber).mpr rfl
    cases wire with
    | bytes b =>
      rw [contents_singleton_bytes]
      refine hcontent _ b (mem_contents.mpr hmem) s s' hP ?_
      rw [← hsaturate]
      exact hvisit
    | group =>
      cases hvisit
      simpa [contents] using hP
    | _ =>
      refine (List.append_nil _).symm ▸ hother _ _ _ s s' ?_ hP hvisit
      intro _ b hb
      cases hb
  · rw [contents_singleton_of_ne wire hn, List.append_nil]
    unfold visit at hvisit
    split at hvisit
    · cases hvisit
      exact hP
    · exact hother _ _ _ s s' (fun heq => absurd ((saturate_eq_iff hnumber).mp heq) hn) hP hvisit

lemma exists_visit_of_mem {value : List UInt8} (hnumber : number < 2 ^ 32 - 1)
    (h : visitFields visitor s input = .ok t) (hl : fields input = some l)
    (hmem : value ∈ contents number l) : ∃ s s', visitor s number (.bytes value) = .ok s' := by
  obtain ⟨s, s', hvisit⟩ := exists_of_foldlM (foldlM_of_visitFields h hl) (mem_contents.mp hmem)
  have hsaturate : saturate number = number := (saturate_eq_iff hnumber).mpr rfl
  refine ⟨s, s', ?_⟩
  rw [← hsaturate]
  exact ok_of_toOption hvisit

end Visited

lemma requestId_of_visitFields {id : ℕ} (h : visitFields visitRequestId 0 input = .ok id)
    (hl : fields input = some l) : id = V1.lastVarint 1 l := by
  refine foldlM_induction (P := fun p id => id = V1.lastVarint 1 p) (foldlM_of_visitFields h hl)
    rfl ?_
  rintro p ⟨n, wire⟩ - id id' hid hvisit
  have hvisit := ok_of_toOption hvisit
  rw [V1.Envelope.lastVarint_snoc, ← hid]
  by_cases hn : n = 1
  · subst hn
    cases wire <;> cases hvisit <;> rfl
  · rw [if_neg hn]
    have hfield : saturate n ≠ 1 := fun heq => hn ((saturate_eq_iff (by decide)).mp heq)
    unfold visit at hvisit
    split at hvisit
    · cases hvisit
      rfl
    · unfold visitRequestId at hvisit
      split at hvisit
      · exact absurd ‹saturate n = 1› hfield
      · cases hvisit
        rfl

/-! ### Serial responses -/

lemma length_le_of_visitReadResponse {u : Unit}
    (h : visitReadResponse negotiatedRead requested u 1 (.bytes data) = .ok ()) :
    data.length ≤ negotiatedRead ∧ ∀ maxBytes ∈ requested, data.length ≤ maxBytes := by
  rw [visitReadResponse] at h
  split at h
  · cases h
  rename_i hbounds
  obtain ⟨hread, hrequested⟩ := not_or.mp hbounds
  refine ⟨not_lt.mp hread, fun maxBytes hmax => ?_⟩
  rw [Option.mem_def.mp hmax] at hrequested
  simpa using hrequested

lemma length_le_of_visitSerial
    (h : visitFields (visitSerial negotiatedRead requested) () frame = .ok ())
    (hl : fields frame = some l) (hbody : body ∈ contents 25 l) (hfields : (fields body).isSome)
    (hdata : data ∈ contentsOf 1 body) :
    data.length ≤ negotiatedRead ∧ ∀ maxBytes ∈ requested, data.length ≤ maxBytes := by
  obtain ⟨_, _, hvisit⟩ := exists_visit_of_mem (by decide) h hl hbody
  obtain ⟨l', hl'⟩ := Option.isSome_iff_exists.mp hfields
  rw [contentsOf, hl', Option.getD_some] at hdata
  obtain ⟨_, _, hinner⟩ := exists_visit_of_mem (by decide) hvisit hl' hdata
  exact length_le_of_visitReadResponse hinner

/-! ### CAN responses -/

/-- The bytes of a list of data fields. -/
def totalBytes (l : List (List UInt8)) : ℕ := (l.map List.length).sum

@[simp] lemma totalBytes_nil : totalBytes [] = 0 := rfl

@[simp] lemma totalBytes_append (l l' : List (List UInt8)) :
    totalBytes (l ++ l') = totalBytes l + totalBytes l' := by
  simp [totalBytes]

lemma length_getLastD_le (l : List (List UInt8)) : (l.getLastD []).length ≤ totalBytes l := by
  induction l using List.reverseRecOn with
  | nil => simp
  | append_singleton l x => simp [totalBytes]

lemma counts_of_visitCanFrame (h : visitFields visitCanFrame c input = .ok c')
    (hfields : (fields input).isSome) :
    c'.frameCount = c.frameCount
      ∧ c'.payloadBytes = c.payloadBytes + totalBytes (contentsOf 3 input) := by
  refine visitFields_contents 3 (P := fun p x => x.frameCount = c.frameCount
    ∧ x.payloadBytes = c.payloadBytes + totalBytes p) (by decide) h hfields ⟨rfl, rfl⟩ ?_ ?_
  · rintro p b - x x' ⟨hcount, hbytes⟩ hvisit
    obtain ⟨total, htotal, hx⟩ := bind_eq_ok.mp hvisit
    cases hx
    obtain ⟨rfl, -⟩ := checkedAdd_eq_some.mp (okOr_eq_ok.mp htotal)
    refine ⟨hcount, ?_⟩
    simp [hbytes, totalBytes]
    omega
  · rintro p field w x x' hw hx hvisit
    unfold visitCanFrame at hvisit
    split at hvisit
    · exact absurd rfl (hw rfl _)
    · cases hvisit
      exact hx

lemma counts_of_visitReceived (h : visitFields visitReceived c input = .ok c')
    (hfields : (fields input).isSome) (hframes : ∀ f ∈ contentsOf 1 input, (fields f).isSome) :
    c'.frameCount = c.frameCount ∧ c'.payloadBytes
      = c.payloadBytes + totalBytes ((contentsOf 1 input).flatMap (contentsOf 3)) := by
  refine visitFields_contents 1 (P := fun p x => x.frameCount = c.frameCount ∧ x.payloadBytes
    = c.payloadBytes + totalBytes (p.flatMap (contentsOf 3))) (by decide) h hfields ⟨rfl, rfl⟩ ?_ ?_
  · rintro p b hb x x' ⟨hcount, hbytes⟩ hvisit
    obtain ⟨hcount', hbytes'⟩ := counts_of_visitCanFrame hvisit (hframes b hb)
    refine ⟨hcount'.trans hcount, ?_⟩
    rw [hbytes', hbytes, List.flatMap_append, totalBytes_append, List.flatMap_singleton, add_assoc]
  · rintro p field w x x' hw hx hvisit
    unfold visitReceived at hvisit
    split at hvisit
    · exact absurd rfl (hw rfl _)
    · cases hvisit
      exact hx
    · cases hvisit
      exact hx

/-- All data fields in the body of a receive response. -/
def allData (body : List UInt8) : List (List UInt8) :=
  (contentsOf 1 body).flatMap fun r => (contentsOf 1 r).flatMap (contentsOf 3)

lemma counts_of_visitReceiveResponse (h : visitFields visitReceiveResponse {} body = .ok c)
    (hread : V1.Readable body) :
    c.frameCount = (contentsOf 1 body).length ∧ c.payloadBytes = totalBytes (allData body) := by
  refine visitFields_contents 1 (P := fun p x => x.frameCount = p.length ∧ x.payloadBytes
    = totalBytes (p.flatMap fun r => (contentsOf 1 r).flatMap (contentsOf 3))) (by decide) h
    hread.body ⟨rfl, rfl⟩ ?_ ?_
  · rintro p b hb x x' ⟨hcount, hbytes⟩ hvisit
    obtain ⟨count, hadd, hvisit⟩ := bind_eq_ok.mp hvisit
    obtain ⟨rfl, -⟩ := checkedAdd_eq_some.mp (okOr_eq_ok.mp hadd)
    obtain ⟨hcount', hbytes'⟩ :=
      counts_of_visitReceived hvisit (hread.received b hb) (hread.frame b hb)
    refine ⟨?_, ?_⟩
    · rw [hcount', List.length_append, List.length_singleton, ← hcount]
    · rw [hbytes', List.flatMap_append, totalBytes_append, List.flatMap_singleton, ← hbytes]
  · rintro p field w x x' hw hx hvisit
    unfold visitReceiveResponse at hvisit
    split at hvisit
    · exact absurd rfl (hw rfl _)
    · cases hvisit
      exact hx

lemma bounds_of_visitCan
    (h : visitFields (visitCan (some (.canReceive maxFrames maxReadBytes profile))) () frame =
      .ok ())
    (hl : fields frame = some l) (hbody : body ∈ contents 57 l) (hread : V1.Readable body) :
    (contentsOf 1 body).length ≤ maxFrames ∧ totalBytes (allData body) ≤ maxReadBytes := by
  obtain ⟨_, _, hvisit⟩ := exists_visit_of_mem (by decide) h hl hbody
  obtain ⟨c, hc, hcheck⟩ := bind_eq_ok.mp hvisit
  obtain ⟨hcount, hbytes⟩ := counts_of_visitReceiveResponse hc hread
  rw [checkReceiveCounts] at hcheck
  split at hcheck
  · cases hcheck
  rename_i hbounds
  omega

/-! ### Bounds on what is decoded -/

/-- The received frames in the bodies that the decoder merges into the payload. -/
def mergedFrames (frame : List UInt8) : List (List UInt8) :=
  (V1.mergedContents 57 ((fields frame).getD [])).flatMap (contentsOf 1)

/-- The merged bodies together are within the bounds. -/
def MergedWithin (frame : List UInt8) (maxFrames maxReadBytes : ℕ) : Prop :=
  (mergedFrames frame).length ≤ maxFrames
    ∧ totalBytes ((mergedFrames frame).map V1.lastData) ≤ maxReadBytes

/-- The response is within the bounds of its request. -/
def Within (response : V1.CanReceiveResponse) (maxFrames maxReadBytes : ℕ) : Prop :=
  response.frames.length ≤ maxFrames
    ∧ (response.frames.map fun f => f.data.length).sum ≤ maxReadBytes

lemma mem_contents_of_mem_mergedContents (h : body ∈ V1.mergedContents number l) :
    body ∈ contents number l := by
  induction l using List.reverseRecOn with
  | nil => cases h
  | append_singleton l x ih =>
    obtain ⟨n, wire⟩ := x
    rw [V1.Envelope.mergedContents_snoc] at h
    rw [contents_append, List.mem_append]
    split at h
    · exact (List.mem_append.mp h).imp_left ih
    split at h
    · cases h
    · exact .inl (ih h)

lemma totalBytes_lastData_le (l : List (List UInt8)) :
    totalBytes (l.map V1.lastData)
      ≤ totalBytes (l.flatMap fun r => (contentsOf 1 r).flatMap (contentsOf 3)) := by
  induction l with
  | nil => rfl
  | cons r l ih =>
    have hlast : (V1.lastData r).length ≤ totalBytes ((contentsOf 1 r).flatMap (contentsOf 3)) :=
      length_getLastD_le _
    have hcons : totalBytes ((r :: l).map V1.lastData)
        = (V1.lastData r).length + totalBytes (l.map V1.lastData) := rfl
    rw [List.flatMap_cons, totalBytes_append, hcons]
    omega

section Bounds

variable {β : Type} {others : ℕ → Option β → List UInt8 → Option β} {negotiatedRead : ℕ}
  {requests : RequestState} {frame : List UInt8} {e : V1.Envelope β}

lemma within_iff_mergedWithin {response : V1.CanReceiveResponse} (maxFrames maxReadBytes : ℕ)
    (hdecode : V1.Envelope.decode others frame = some e)
    (hpayload : e.payload = some (.canReceiveResponse response)) :
    Within response maxFrames maxReadBytes ↔ MergedWithin frame maxFrames maxReadBytes := by
  obtain ⟨l, hl, hreflects, -⟩ := V1.Envelope.reflects_of_decode hdecode
  have hcan := hreflects.can
  have hresponse : e.canReceive = response := by rw [V1.Envelope.canReceive, hpayload]
  have hmerged : mergedFrames frame = (V1.mergedContents 57 l).flatMap (contentsOf 1) := by
    rw [mergedFrames, hl]
    rfl
  have hdata : response.frames.map V1.ReceivedCanFrame.data
      = (mergedFrames frame).map V1.lastData := by
    rw [← hresponse, hcan, hmerged, List.map_flatMap]
  have hlen : response.frames.length = (mergedFrames frame).length := by
    simpa using congrArg List.length hdata
  have hsum : (response.frames.map fun f => f.data.length).sum
      = totalBytes ((mergedFrames frame).map V1.lastData) := by
    rw [totalBytes, ← hdata, List.map_map]
    rfl
  rw [Within, MergedWithin, hlen, hsum]

lemma visited_of_preflight {expected : Option ExpectedResponse}
    (h : preflightInbound negotiatedRead requests frame = .ok ())
    (hdecode : V1.Envelope.decode others frame = some e)
    (hexpected : requests.expected e.requestId = expected) :
    visitFields (visitSerial negotiatedRead (requestedRead expected)) () frame = .ok ()
      ∧ visitFields (visitCan expected) () frame = .ok () := by
  obtain ⟨l, hl, hreflects, -⟩ := V1.Envelope.reflects_of_decode hdecode
  obtain ⟨id, hid, h⟩ := bind_eq_ok.mp h
  rw [requestId_of_visitFields hid hl, ← hreflects.requestId, hexpected] at h
  obtain ⟨_, hserial, hcan⟩ := bind_eq_ok.mp h
  exact ⟨hserial, hcan⟩

lemma serial_within {maxBytes : ℕ} {response : V1.SerialReadResponse}
    (h : preflightInbound negotiatedRead requests frame = .ok ())
    (hdecode : V1.Envelope.decode others frame = some e)
    (hexpected : requests.expected e.requestId = some (.serialRead maxBytes))
    (hpayload : e.payload = some (.serialReadResponse response)) :
    response.data.length ≤ min maxBytes negotiatedRead := by
  obtain ⟨l, hl, hreflects, hread, -⟩ := V1.Envelope.reflects_of_decode hdecode
  have hresponse : e.serialRead = response := by rw [V1.Envelope.serialRead, hpayload]
  rcases hresponse ▸ hreflects.serial with hnil | ⟨body, hbody, hdata⟩
  · rw [hnil]
    exact Nat.zero_le _
  · obtain ⟨hnegotiated, hrequested⟩ := length_le_of_visitSerial
      (visited_of_preflight h hdecode hexpected).1 hl hbody (hread body hbody) hdata
    exact le_min (hrequested maxBytes rfl) hnegotiated

lemma mergedWithin_of_single (h : preflightInbound negotiatedRead requests frame = .ok ())
    (hdecode : V1.Envelope.decode others frame = some e)
    (hexpected : requests.expected e.requestId = some (.canReceive maxFrames maxReadBytes profile))
    (hsingle : (V1.mergedContents 57 ((fields frame).getD [])).length ≤ 1) :
    MergedWithin frame maxFrames maxReadBytes := by
  obtain ⟨l, hl, -, -, hread⟩ := V1.Envelope.reflects_of_decode hdecode
  rw [hl, Option.getD_some] at hsingle
  unfold MergedWithin mergedFrames
  rw [hl, Option.getD_some]
  rcases hbodies : V1.mergedContents 57 l with _ | ⟨body, _ | ⟨_, _⟩⟩
  · exact ⟨Nat.zero_le _, Nat.zero_le _⟩
  · have hbody : body ∈ contents 57 l := by
      apply mem_contents_of_mem_mergedContents
      rw [hbodies]
      exact List.mem_singleton_self _
    obtain ⟨hframes, hbytes⟩ := bounds_of_visitCan (visited_of_preflight h hdecode hexpected).2 hl
      hbody (hread body hbody)
    rw [List.flatMap_singleton]
    exact ⟨hframes, (totalBytes_lastData_le _).trans hbytes⟩
  · rw [hbodies] at hsingle
    simp at hsingle

lemma payload_of_canReceive (h : e.canReceive.frames ≠ []) :
    e.payload = some (.canReceiveResponse e.canReceive) := by
  unfold V1.Envelope.canReceive at h ⊢
  split
  · assumption
  · rename_i hother
    split at h
    · exact absurd ‹_› (hother _)
    · exact absurd rfl h

end Bounds

/-- What passes the preflight decodes to a serial response within its bounds; it decodes to a CAN
response within its bounds if and only if the bodies that the decoder merges are within them
together, which is so if there is only one. -/
theorem preflight_bounds_decoding {β : Type} (others : ℕ → Option β → List UInt8 → Option β)
    (negotiatedRead : ℕ) (requests : RequestState) (frame : List UInt8) (e : V1.Envelope β)
    (h : preflightInbound negotiatedRead requests frame = .ok ())
    (hdecode : V1.Envelope.decode others frame = some e) :
    (∀ maxBytes response, requests.expected e.requestId = some (.serialRead maxBytes) →
      e.payload = some (.serialReadResponse response) →
        response.data.length ≤ min maxBytes negotiatedRead)
    ∧ ∀ maxFrames maxReadBytes profile response,
      requests.expected e.requestId = some (.canReceive maxFrames maxReadBytes profile) →
      e.payload = some (.canReceiveResponse response) →
        (Within response maxFrames maxReadBytes ↔ MergedWithin frame maxFrames maxReadBytes)
        ∧ ((V1.mergedContents 57 ((fields frame).getD [])).length ≤ 1 →
          Within response maxFrames maxReadBytes) := by
  constructor
  · intro maxBytes response hexpected hpayload
    exact serial_within h hdecode hexpected hpayload
  · intro maxFrames maxReadBytes profile response hexpected hpayload
    have hiff := within_iff_mergedWithin maxFrames maxReadBytes hdecode hpayload
    refine ⟨hiff, fun hsingle => hiff.mpr ?_⟩
    exact mergedWithin_of_single h hdecode hexpected hsingle

/-- A receive of one frame is pending under the id 2. -/
def oneReceive : RequestState where
  pending := ({} : Assoc ℕ ExpectedResponse).insert 2
    (.canReceive 1 64 ⟨.classic, true, false, false, false, ⟨"r"⟩, ⟨"s"⟩⟩)

theorem preflight_bounds_one_body :
    ∃ (e : V1.Envelope Unit) (response : V1.CanReceiveResponse),
      preflightInbound 64 oneReceive [8, 2, 0xca, 3, 2, 10, 0] = .ok ()
      ∧ V1.Envelope.decode (fun _ _ _ => some ()) [8, 2, 0xca, 3, 2, 10, 0] = some e
      ∧ e.payload = some (.canReceiveResponse response) ∧ response.frames.length = 1
      ∧ Within response 1 64 := by
  have hok : () ∈ (preflightInbound 64 oneReceive [8, 2, 0xca, 3, 2, 10, 0]).toOption := by
    decide +kernel
  have hexec : ∃ e ∈ V1.Envelope.decode (β := Unit) (fun _ _ _ => some ())
        [8, 2, 0xca, 3, 2, 10, 0],
      e.requestId = 2 ∧ e.canReceive.frames.length = 1 := by decide +kernel
  have hsingle :
      (V1.mergedContents 57 ((fields [8, 2, 0xca, 3, 2, 10, 0]).getD [])).length ≤ 1 := by
    decide +kernel
  obtain ⟨e, he, hid, hframes⟩ := hexec
  have hpayload := payload_of_canReceive (e := e) (by
    rw [← List.length_pos_iff_ne_nil, hframes]
    exact Nat.one_pos)
  refine ⟨e, e.canReceive, ok_of_toOption hok, he, hpayload, hframes, ?_⟩
  exact ((preflight_bounds_decoding _ _ _ _ e (ok_of_toOption hok) he).2 1 64 _ _
    (by rw [hid]; rfl) hpayload).2 hsingle

/-- Two bodies of one frame each pass where one frame was asked for, and decode to two frames. -/
theorem split_receive_response_exceeds :
    ∃ (e : V1.Envelope Unit) (profile : CanSessionProfile) (response : V1.CanReceiveResponse),
      preflightInbound 64 oneReceive [8, 2, 0xca, 3, 2, 10, 0, 0xca, 3, 2, 10, 0] = .ok ()
      ∧ V1.Envelope.decode (fun _ _ _ => some ()) [8, 2, 0xca, 3, 2, 10, 0, 0xca, 3, 2, 10, 0]
        = some e
      ∧ oneReceive.pending.lookup e.requestId = some (.canReceive 1 64 profile)
      ∧ e.payload = some (.canReceiveResponse response) ∧ ¬Within response 1 64 := by
  have hok : () ∈ (preflightInbound 64 oneReceive
      [8, 2, 0xca, 3, 2, 10, 0, 0xca, 3, 2, 10, 0]).toOption := by decide +kernel
  have hexec : ∃ e ∈ V1.Envelope.decode (β := Unit) (fun _ _ _ => some ())
      [8, 2, 0xca, 3, 2, 10, 0, 0xca, 3, 2, 10, 0],
      e.requestId = 2 ∧ e.canReceive.frames.length = 2 := by decide +kernel
  obtain ⟨e, he, hid, hframes⟩ := hexec
  have hpayload := payload_of_canReceive (e := e) (by
    rw [← List.length_pos_iff_ne_nil, hframes]
    exact Nat.two_pos)
  refine ⟨e, _, e.canReceive, ok_of_toOption hok, he, by rw [hid]; rfl, hpayload, ?_⟩
  rintro ⟨hle, -⟩
  omega

end RobotHal.Client
