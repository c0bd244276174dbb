import RobotHal.Assoc
import RobotHal.ErrorContext
import RobotHal.Proto

/-!
Errors on the wire.

An error becomes a protobuf message in which what is absent is empty and the context is a hash
map. The decoder checks everything again; nothing that was built is refused, and nothing that is
accepted is changed.
-/

namespace RobotHal

namespace V1

inductive ErrorCategory
  | unspecified
  | invalidArgument
  | notFound
  | conflict
  | unavailable
  | internal
deriving DecidableEq

instance : Proto.Enumeration ErrorCategory where
  values := [.unspecified, .invalidArgument, .notFound, .conflict, .unavailable, .internal]
  number
    | .unspecified => 0
    | .invalidArgument => 1
    | .notFound => 2
    | .conflict => 3
    | .unavailable => 4
    | .internal => 5
  mem_values e := by cases e <;> decide
  number_injective a b h := by cases a <;> cases b <;> first | rfl | cases h

/-- The message `Error`; the map of its context is unordered, its entries come in whatever order
it is read. -/
structure Error where
  name : String
  category : ℤ
  operation : String
  retryable : Bool
  debugMessage : String
  resourceId : String
  platformCode : String
  vendorCode : String
  context : Assoc String String

/-- Two messages are equal; hash maps are if they have the same entries. -/
structure Error.Equal (m m' : Error) : Prop where
  name : m'.name = m.name
  category : m'.category = m.category
  operation : m'.operation = m.operation
  retryable : m'.retryable = m.retryable
  debugMessage : m'.debugMessage = m.debugMessage
  resourceId : m'.resourceId = m.resourceId
  platformCode : m'.platformCode = m.platformCode
  vendorCode : m'.vendorCode = m.vendorCode
  context : ∀ key, m'.context.lookup key = m.context.lookup key

end V1

open Proto (Enumeration)

/-! ### The conversions -/

def invalidMessage (debugMessage : String) : HalError :=
  HalError.new "runtime.protocol.invalid_message" .invalidArgument "runtime.protocol.decode" false
    debugMessage

def requiredEnum (ε : Type) [Enumeration ε] (value : ℤ) (field : String) : HalResult ε :=
  match Enumeration.tryFrom ε value with
  | some e => .ok e
  | none => .error (invalidMessage (field ++ " has an unknown value"))

def ErrorCategory.toProto : ErrorCategory → V1.ErrorCategory
  | .invalidArgument => .invalidArgument
  | .notFound => .notFound
  | .conflict => .conflict
  | .unavailable => .unavailable
  | .internal => .internal

/-- `collect` into a hash map. -/
def collect (l : List (String × String)) : Assoc String String :=
  l.foldl (fun m e => m.insert e.1 e.2) ∅

/-- The entries of a map as they are read. -/
def pairs (m : Assoc String String) : List (String × String) := m.entries.map fun e => (e.1, e.2)

/-- `From<&HalError> for v1::Error`. -/
def HalError.toProto (e : HalError) : V1.Error where
  name := e.name
  category := Enumeration.number e.category.toProto
  operation := e.operation
  retryable := e.retryable
  debugMessage := e.debugMessage
  resourceId := match e.resourceId with | some r => r.value | none => ""
  platformCode := e.platformCode.getD ""
  vendorCode := e.vendorCode.getD ""
  context := collect e.context

def categoryFromProto (value : ℤ) : HalResult ErrorCategory := do
  match ← requiredEnum V1.ErrorCategory value "category" with
  | .invalidArgument => return .invalidArgument
  | .notFound => return .notFound
  | .conflict => return .conflict
  | .unavailable => return .unavailable
  | .internal => return .internal
  | .unspecified => throw (invalidMessage "error category is required")

/-- A field that may be left empty. -/
def optional (value : String) (e : HalError) (f : String → HalResult HalError) (message : String) :
    HalResult HalError :=
  if value.isEmpty then .ok e else (f value).mapError fun _ => invalidMessage message

def errorFromProto (m : V1.Error) : HalResult HalError := do
  let category ← categoryFromProto m.category
  let e ← (HalError.new? m.name category m.operation m.retryable m.debugMessage).mapError
    fun _ => invalidMessage "error has invalid name or operation"
  let e ← optional m.resourceId e (fun s => (ResourceId.parse s).map e.withResourceId)
    "error has an invalid resource_id"
  let e ← optional m.platformCode e e.withPlatformCode "error has an invalid platform_code"
  let e ← optional m.vendorCode e e.withVendorCode "error has an invalid vendor_code"
  let context ← (ErrorContext.new (pairs m.context)).mapError
    fun _ => invalidMessage "error has an invalid context"
  return e.withContext context

/-! ### Maps -/

lemma pairs_keys (m : Assoc String String) : (pairs m).map Prod.fst = m.keys := by
  simp [pairs, AList.keys, List.keys, Function.comp_def]

lemma pairs_insert {m : Assoc String String} {key : String} (value : String)
    (h : key ∉ (pairs m).map Prod.fst) : pairs (m.insert key value) = (key, value) :: pairs m := by
  rw [pairs_keys] at h
  unfold pairs
  rw [AList.entries_insert_of_notMem h, List.map_cons]

lemma pairs_foldl_insert (m : Assoc String String) {l : List (String × String)}
    (h : ((pairs m ++ l).map Prod.fst).Nodup) :
    (pairs (l.foldl (fun m e => m.insert e.1 e.2) m)).Perm (pairs m ++ l) := by
  induction l generalizing m with
  | nil => simp
  | cons e l ih =>
    have hmiddle : List.Perm (pairs m ++ e :: l) (e :: pairs m ++ l) := List.perm_middle
    have hmid : ((e :: pairs m ++ l).map Prod.fst).Nodup :=
      (hmiddle.map Prod.fst).nodup_iff.mp h
    have hnew : e.1 ∉ (pairs m).map Prod.fst := by
      rw [List.cons_append, List.map_cons, List.map_append] at hmid
      intro he
      exact (List.nodup_cons.mp hmid).1 (List.mem_append_left _ he)
    have hins := pairs_insert e.2 hnew
    have hrest := ih (m.insert e.1 e.2) (by rw [hins]; exact hmid)
    rw [hins] at hrest
    exact hrest.trans hmiddle.symm

lemma pairs_collect {l : List (String × String)} (h : (l.map Prod.fst).Nodup) :
    (pairs (collect l)).Perm l := by
  have hempty : pairs ∅ = [] := rfl
  have hperm := pairs_foldl_insert ∅ (l := l) (by rwa [hempty])
  rwa [hempty] at hperm

lemma pairs_perm_iff {m m' : Assoc String String} :
    (pairs m).Perm (pairs m') ↔ ∀ key, m.lookup key = m'.lookup key := by
  constructor
  · intro h key
    have hentries (m : Assoc String String) :
        (pairs m).map (fun e => (⟨e.1, e.2⟩ : Sigma fun _ : String => String)) = m.entries := by
      simp [pairs, Function.comp_def]
    apply AList.perm_lookup
    have hp := h.map fun e => (⟨e.1, e.2⟩ : Sigma fun _ : String => String)
    rwa [hentries, hentries] at hp
  · intro h
    have hp : m.entries.Perm m'.entries :=
      List.lookup_ext m.nodupKeys m'.nodupKeys fun key value => by
        have hk : m.entries.dlookup key = m'.entries.dlookup key := h key
        rw [hk]
    exact hp.map _

/-! ### From errors to messages and back -/

lemma categoryFromProto_number (c : ErrorCategory) :
    categoryFromProto (Enumeration.number c.toProto) = .ok c := by
  unfold categoryFromProto requiredEnum
  rw [Enumeration.tryFrom_number]
  cases c <;> rfl

lemma number_of_categoryFromProto {n : ℤ} {c : ErrorCategory} (h : categoryFromProto n = .ok c) :
    Enumeration.number c.toProto = n := by
  obtain ⟨v, hv, h⟩ := bind_eq_ok.mp h
  unfold requiredEnum at hv
  split at hv
  · rename_i w hw
    obtain rfl := Except.ok.inj hv
    rw [← Enumeration.number_of_tryFrom hw]
    cases w <;> cases h <;> rfl
  · cases hv

lemma optional_empty (e : HalError) (f : String → HalResult HalError) (message : String) :
    optional "" e f message = .ok e := rfl

lemma optional_of_ne {value : String} {e e' : HalError} {f : String → HalResult HalError}
    {message : String} (h : value ≠ "") :
    optional value e f message = .ok e' ↔ f value = .ok e' := by
  unfold optional
  rw [if_neg (by simpa using h), mapError_eq_ok]

lemma errorFromProto_eq_ok {m : V1.Error} {e : HalError} :
    errorFromProto m = .ok e ↔
      ∃ category e₁ e₂ e₃ context, categoryFromProto m.category = .ok category ∧
        Identifier m.name ∧ Identifier m.operation ∧
        optional m.resourceId (HalError.new m.name category m.operation m.retryable m.debugMessage)
          (fun s => (ResourceId.parse s).map (HalError.new m.name category m.operation m.retryable
            m.debugMessage).withResourceId) "error has an invalid resource_id" = .ok e₁ ∧
        optional m.platformCode e₁ e₁.withPlatformCode "error has an invalid platform_code" =
          .ok e₂ ∧
        optional m.vendorCode e₂ e₂.withVendorCode "error has an invalid vendor_code" = .ok e₃ ∧
        ErrorContext.new (pairs m.context) = .ok context ∧ e = e₃.withContext context := by
  constructor
  · intro h
    obtain ⟨category, hcat, h⟩ := bind_eq_ok.mp h
    obtain ⟨e₀, h₀, h⟩ := bind_eq_ok.mp h
    obtain ⟨hname, hop, rfl⟩ := HalError.new?_eq_ok.mp (mapError_eq_ok.mp h₀)
    obtain ⟨e₁, h₁, h⟩ := bind_eq_ok.mp h
    obtain ⟨e₂, h₂, h⟩ := bind_eq_ok.mp h
    obtain ⟨e₃, h₃, h⟩ := bind_eq_ok.mp h
    obtain ⟨context, hcontext, h⟩ := bind_eq_ok.mp h
    exact ⟨category, e₁, e₂, e₃, context, hcat, hname, hop, h₁, h₂, h₃,
      mapError_eq_ok.mp hcontext, (Except.ok.inj h).symm⟩
  · rintro ⟨category, e₁, e₂, e₃, context, hcat, hname, hop, h₁, h₂, h₃, hcontext, rfl⟩
    refine bind_eq_ok.mpr ⟨category, hcat, bind_eq_ok.mpr ⟨_, ?_, bind_eq_ok.mpr ⟨e₁, h₁,
      bind_eq_ok.mpr ⟨e₂, h₂, bind_eq_ok.mpr ⟨e₃, h₃, bind_eq_ok.mpr ⟨context, ?_, rfl⟩⟩⟩⟩⟩⟩
    · exact mapError_eq_ok.mpr (HalError.new?_eq_ok.mpr ⟨hname, hop, rfl⟩)
    · exact mapError_eq_ok.mpr hcontext

lemma optional_resource {e : HalError} (he : e.WellFormed) (e₀ : HalError)
    (h₀ : e₀.resourceId = none) (message : String) :
    optional e.toProto.resourceId e₀ (fun s => (ResourceId.parse s).map e₀.withResourceId) message =
      .ok { e₀ with resourceId := e.resourceId } := by
  rcases hr : e.resourceId with _ | r
  · have hempty : e.toProto.resourceId = "" := by simp [HalError.toProto, hr]
    rw [hempty, optional_empty, ← h₀]
  · have hid := he.resourceId r hr
    have hval : e.toProto.resourceId = r.value := by simp [HalError.toProto, hr]
    rw [hval, optional_of_ne hid.1]
    exact map_eq_ok.mpr ⟨r, ResourceId.parse_eq_ok.mpr ⟨hid, rfl⟩, rfl⟩

lemma optional_platformCode {e : HalError} (he : e.WellFormed) (e₀ : HalError)
    (h₀ : e₀.platformCode = none) (message : String) :
    optional e.toProto.platformCode e₀ e₀.withPlatformCode message =
      .ok { e₀ with platformCode := e.platformCode } := by
  rcases hc : e.platformCode with _ | code
  · have hempty : e.toProto.platformCode = "" := by simp [HalError.toProto, hc]
    rw [hempty, optional_empty, ← h₀]
  · have hid := he.platformCode code hc
    have hval : e.toProto.platformCode = code := by simp [HalError.toProto, hc]
    rw [hval, optional_of_ne hid.1]
    exact HalError.withPlatformCode_eq_ok.mpr ⟨hid, rfl⟩

lemma optional_vendorCode {e : HalError} (he : e.WellFormed) (e₀ : HalError)
    (h₀ : e₀.vendorCode = none) (message : String) :
    optional e.toProto.vendorCode e₀ e₀.withVendorCode message =
      .ok { e₀ with vendorCode := e.vendorCode } := by
  rcases hc : e.vendorCode with _ | code
  · have hempty : e.toProto.vendorCode = "" := by simp [HalError.toProto, hc]
    rw [hempty, optional_empty, ← h₀]
  · have hid := he.vendorCode code hc
    have hval : e.toProto.vendorCode = code := by simp [HalError.toProto, hc]
    rw [hval, optional_of_ne hid.1]
    exact HalError.withVendorCode_eq_ok.mpr ⟨hid, rfl⟩

/-- An error is read back from its message, whatever the order of its context. -/
theorem errorFromProto_toProto {e : HalError} (he : e.WellFormed) {m : V1.Error}
    (hm : e.toProto.Equal m) : errorFromProto m = .ok e := by
  have hcontext : (pairs m.context).Perm e.context :=
    (pairs_perm_iff.mpr hm.context).trans (pairs_collect he.context.nodup)
  rw [errorFromProto_eq_ok]
  refine ⟨e.category, { HalError.new e.name e.category e.operation e.retryable e.debugMessage with
    resourceId := e.resourceId }, { HalError.new e.name e.category e.operation e.retryable
      e.debugMessage with resourceId := e.resourceId, platformCode := e.platformCode },
    { HalError.new e.name e.category e.operation e.retryable e.debugMessage with
      resourceId := e.resourceId, platformCode := e.platformCode, vendorCode := e.vendorCode },
    e.context, ?_, ?_, ?_, ?_, ?_, ?_, ?_, rfl⟩
  · rw [hm.category]
    exact categoryFromProto_number e.category
  · rw [hm.name]
    exact he.name
  · rw [hm.operation]
    exact he.operation
  · rw [hm.resourceId, hm.name, hm.operation, hm.retryable, hm.debugMessage]
    exact optional_resource he _ rfl _
  · rw [hm.platformCode]
    exact optional_platformCode he _ rfl _
  · rw [hm.vendorCode]
    exact optional_vendorCode he _ rfl _
  · exact ErrorContext.new_eq_ok.mpr ⟨he.context.perm hcontext.symm, he.sorted, hcontext.symm⟩

lemma optional_cases {value message : String} {e e' : HalError} {f : String → HalResult HalError}
    (h : optional value e f message = .ok e') :
    value = "" ∧ e' = e ∨ value ≠ "" ∧ f value = .ok e' := by
  by_cases hv : value = ""
  · subst hv
    rw [optional_empty] at h
    exact .inl ⟨rfl, (Except.ok.inj h).symm⟩
  · exact .inr ⟨hv, (optional_of_ne hv).mp h⟩

/-- What is accepted could have been built, and is the message of what it is read as. -/
theorem toProto_of_errorFromProto {m : V1.Error} {e : HalError} (h : errorFromProto m = .ok e) :
    e.Built ∧ e.toProto.Equal m := by
  obtain ⟨category, e₁, e₂, e₃, context, hcat, hname, hop, h₁, h₂, h₃, hcontext, rfl⟩ :=
    errorFromProto_eq_ok.mp h
  set e₀ := HalError.new m.name category m.operation m.retryable m.debugMessage with he₀
  have hb₀ : e₀.Built := .new (HalError.new?_eq_ok.mpr ⟨hname, hop, rfl⟩)
  -- each field is taken over, and the earlier ones stay
  have hr : e₁.Built ∧ m.resourceId = e₁.toProto.resourceId ∧
      e₁ = { e₀ with resourceId := e₁.resourceId } := by
    rcases optional_cases h₁ with ⟨hv, rfl⟩ | ⟨-, hv⟩
    · exact ⟨hb₀, hv, rfl⟩
    · obtain ⟨r, hr, rfl⟩ := map_eq_ok.mp hv
      have hid := (ResourceId.parse_eq_ok.mp hr).2
      refine ⟨.withResourceId hb₀ hr, ?_, rfl⟩
      rw [hid]
      rfl
  have hp : e₂.Built ∧ m.platformCode = e₂.toProto.platformCode ∧
      e₂ = { e₁ with platformCode := e₂.platformCode } := by
    rcases optional_cases h₂ with ⟨hv, rfl⟩ | ⟨-, hv⟩
    · refine ⟨hr.1, ?_, rfl⟩
      rw [hv, hr.2.2]
      rfl
    · obtain ⟨-, hid⟩ := HalError.withPlatformCode_eq_ok.mp hv
      exact ⟨.withPlatformCode hr.1 hv, by rw [hid]; rfl, by rw [hid]⟩
  have hc : e₃.Built ∧ m.vendorCode = e₃.toProto.vendorCode ∧
      e₃ = { e₂ with vendorCode := e₃.vendorCode } := by
    rcases optional_cases h₃ with ⟨hv, rfl⟩ | ⟨-, hv⟩
    · refine ⟨hp.1, ?_, rfl⟩
      rw [hv, hp.2.2, hr.2.2]
      rfl
    · obtain ⟨-, hid⟩ := HalError.withVendorCode_eq_ok.mp hv
      exact ⟨.withVendorCode hp.1 hv, by rw [hid]; rfl, by rw [hid]⟩
  obtain ⟨hf, hs, hperm⟩ := ErrorContext.new_eq_ok.mp hcontext
  refine ⟨.withContext hc.1 hcontext, ?_⟩
  constructor
  · rw [hc.2.2, hp.2.2, hr.2.2]
    rfl
  · rw [hc.2.2, hp.2.2, hr.2.2]
    exact (number_of_categoryFromProto hcat).symm
  · rw [hc.2.2, hp.2.2, hr.2.2]
    rfl
  · rw [hc.2.2, hp.2.2, hr.2.2]
    rfl
  · rw [hc.2.2, hp.2.2, hr.2.2]
    rfl
  · rw [hr.2.1, hc.2.2, hp.2.2]
    rfl
  · rw [hp.2.1, hc.2.2]
    rfl
  · exact hc.2.1
  · apply pairs_perm_iff.mp
    have hnodup : (context.map Prod.fst).Nodup := (hperm.map Prod.fst).nodup_iff.mpr hf.nodup
    exact hperm.symm.trans (pairs_collect hnodup).symm

/-- **Errors survive the wire**: what was built is read back as it was from any message equal to
its own, and every message that is accepted is equal to that of the error it is read as. -/
theorem hal_error_survives_wire :
    (∀ e : HalError, e.Built → ∀ m, e.toProto.Equal m → errorFromProto m = .ok e) ∧
      ∀ m e, errorFromProto m = .ok e → e.Built ∧ e.toProto.Equal m :=
  ⟨fun _ he _ hm => errorFromProto_toProto he.wellFormed hm,
    fun _ _ h => toProto_of_errorFromProto h⟩

end RobotHal
