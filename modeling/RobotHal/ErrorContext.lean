import RobotHal.Codec
import RobotHal.Core
import RobotHal.SortedMap

/-!
How an error of `robot-hal-core` is built: validated names and codes, and a bounded context.

A context is accepted or refused as a whole, whatever the order in which its entries come, and
what is accepted is kept in the order of its keys.
-/

namespace RobotHal

variable {l context : List (String × String)} {total : ℕ} {value : String} {e : HalError}

/-! ### Identifiers -/

/-- `HalError::invalid_argument_error`. -/
def HalError.invalidArgumentError (name operation debugMessage : String) : HalError :=
  HalError.new name .invalidArgument operation false debugMessage

def validateIdentifier (field value : String) : HalResult Unit :=
  if value.isEmpty then
    .error (.invalidArgumentError (field ++ ".empty") field "identifier must not be empty")
  else if value.utf8ByteSize > 255 then
    .error (.invalidArgumentError (field ++ ".too_long") field
      "identifier must be at most 255 bytes")
  else if !isAscii value then
    .error (.invalidArgumentError (field ++ ".non_ascii") field "identifier must be ASCII")
  else .ok ()

def ResourceId.parse (value : String) : HalResult ResourceId := do
  validateIdentifier "resource.id" value
  return ⟨value⟩

namespace ErrorContext

def maxEntries : ℕ := 16
def maxKeyBytes : ℕ := 64
def maxValueBytes : ℕ := 1024
def maxTotalBytes : ℕ := 8192

def invalid (name message : String) : HalError :=
  .invalidArgumentError name "error.context.new" message

/-- `char::is_ascii_alphanumeric`, `_` or `-`. -/
def isKeyChar (c : Char) : Bool :=
  ('a' ≤ c && c ≤ 'z') || ('A' ≤ c && c ≤ 'Z') || ('0' ≤ c && c ≤ '9') || c = '_' || c = '-'

def validateContextKey (key : String) : HalResult Unit :=
  if key.isEmpty then .error (invalid "error.context.key.empty" "context keys must not be empty")
  else if key.utf8ByteSize > maxKeyBytes then
    .error (invalid "error.context.key.too_long" "context keys must be at most 64 bytes")
  else if !isAscii key then
    .error (invalid "error.context.key.non_ascii" "context keys must be ASCII")
  else
    match key.toList with
    | c :: rest =>
      if ('a' ≤ c && c ≤ 'z') && rest.all isKeyChar then .ok ()
      else .error
        (invalid "error.context.key.invalid" "context keys must match [a-z][a-zA-Z0-9_-]*")
    | [] =>
      .error (invalid "error.context.key.invalid" "context keys must match [a-z][a-zA-Z0-9_-]*")

def entryBytes (e : String × String) : ℕ := e.1.utf8ByteSize + e.2.utf8ByteSize

/-- The loop of `ErrorContext::new`, with what it has collected. -/
def extend (context : List (String × String)) (totalBytes : ℕ) :
    List (String × String) → HalResult (List (String × String))
  | [] => .ok context
  | (key, value) :: rest =>
    if context.length ≥ maxEntries then
      .error (invalid "error.context.too_many_entries" "context must contain at most 16 entries")
    else
      match validateContextKey key with
      | .error e => .error e
      | .ok _ =>
        if value.utf8ByteSize > maxValueBytes then
          .error (invalid "error.context.value.too_long"
            "context values must be at most 1024 bytes")
        else if key ∈ context.map Prod.fst then
          .error (invalid "error.context.duplicate_key" "context keys must be unique")
        else if totalBytes + entryBytes (key, value) > maxTotalBytes then
          .error (invalid "error.context.too_large"
            "context key/value bytes must total at most 8192")
        else
          extend (SortedMap.insert key value context) (totalBytes + entryBytes (key, value)) rest

def new (entries : List (String × String)) : HalResult (List (String × String)) :=
  extend [] 0 entries

/-! ### What is accepted -/

/-- The entries make a context: few enough, each in bounds, no key twice, and together not too
large. -/
structure Fits (l : List (String × String)) : Prop where
  count : l.length ≤ maxEntries
  keys : ∀ e ∈ l, validateContextKey e.1 = .ok ()
  values : ∀ e ∈ l, e.2.utf8ByteSize ≤ maxValueBytes
  nodup : (l.map Prod.fst).Nodup
  size : (l.map entryBytes).sum ≤ maxTotalBytes

lemma Fits.perm {m : List (String × String)} (h : Fits l) (hp : l.Perm m) : Fits m where
  count := hp.length_eq ▸ h.count
  keys e he := h.keys e (hp.mem_iff.mpr he)
  values e he := h.values e (hp.mem_iff.mpr he)
  nodup := (hp.map Prod.fst).nodup_iff.mp h.nodup
  size := (hp.map entryBytes).sum_nat ▸ h.size

lemma extend_cons_of_fits {rest : List (String × String)} {key : String}
    (hcount : context.length < maxEntries) (hkey : validateContextKey key = .ok ())
    (hvalue : value.utf8ByteSize ≤ maxValueBytes) (hnew : key ∉ context.map Prod.fst)
    (hsize : total + entryBytes (key, value) ≤ maxTotalBytes) :
    extend context total ((key, value) :: rest) =
      extend (SortedMap.insert key value context) (total + entryBytes (key, value)) rest := by
  rw [extend, if_neg (by omega), hkey]
  simp only
  rw [if_neg (by omega), if_neg hnew, if_neg (by omega)]

lemma extend_of_fits (hcount : context.length + l.length ≤ maxEntries)
    (hkeys : ∀ e ∈ l, validateContextKey e.1 = .ok ())
    (hvalues : ∀ e ∈ l, e.2.utf8ByteSize ≤ maxValueBytes)
    (hnodup : ((context ++ l).map Prod.fst).Nodup)
    (hsize : total + (l.map entryBytes).sum ≤ maxTotalBytes) :
    extend context total l = .ok (SortedMap.insertAll context l) := by
  induction l generalizing context total with
  | nil => rfl
  | cons e l ih =>
    obtain ⟨key, value⟩ := e
    rw [List.length_cons] at hcount
    rw [List.map_cons, List.sum_cons] at hsize
    have hmiddle : List.Perm (context ++ (key, value) :: l) ((key, value) :: context ++ l) :=
      List.perm_middle
    have hmid : (((key, value) :: context ++ l).map Prod.fst).Nodup :=
      (hmiddle.map Prod.fst).nodup_iff.mp hnodup
    have hnew : key ∉ context.map Prod.fst := by
      rw [List.cons_append, List.map_cons, List.map_append] at hmid
      intro hk
      exact (List.nodup_cons.mp hmid).1 (List.mem_append_left _ hk)
    have hins := SortedMap.insert_perm value hnew
    have hkey : validateContextKey key = .ok () := hkeys (key, value) (List.mem_cons_self ..)
    have hvalue : value.utf8ByteSize ≤ maxValueBytes :=
      hvalues (key, value) (List.mem_cons_self ..)
    rw [extend_cons_of_fits (by omega) hkey hvalue hnew (by omega)]
    apply ih
    · rw [hins.length_eq, List.length_cons]
      omega
    · exact fun e he => hkeys e (List.mem_cons_of_mem _ he)
    · exact fun e he => hvalues e (List.mem_cons_of_mem _ he)
    · exact ((hins.append_right l).map Prod.fst).nodup_iff.mpr hmid
    · omega

lemma fits_of_extend {context' : List (String × String)} (hcount : context.length ≤ maxEntries)
    (hnodup : (context.map Prod.fst).Nodup) (hsize : total ≤ maxTotalBytes)
    (h : extend context total l = .ok context') :
    context.length + l.length ≤ maxEntries ∧ (∀ e ∈ l, validateContextKey e.1 = .ok ()) ∧
      (∀ e ∈ l, e.2.utf8ByteSize ≤ maxValueBytes) ∧ ((context ++ l).map Prod.fst).Nodup ∧
      total + (l.map entryBytes).sum ≤ maxTotalBytes := by
  induction l generalizing context total with
  | nil => simpa using ⟨hcount, hnodup, hsize⟩
  | cons e l ih =>
    obtain ⟨key, value⟩ := e
    unfold extend at h
    split at h
    · cases h
    rename_i hlen
    split at h
    · cases h
    rename_i hkey
    split at h
    · cases h
    rename_i hvalue
    split at h
    · cases h
    rename_i hnew
    split at h
    · cases h
    rename_i hbytes
    have hins := SortedMap.insert_perm value hnew
    have hlength := hins.length_eq
    rw [List.length_cons] at hlength
    have hnodup' : ((SortedMap.insert key value context).map Prod.fst).Nodup :=
      (hins.map Prod.fst).nodup_iff.mpr (List.nodup_cons.mpr ⟨hnew, hnodup⟩)
    obtain ⟨h1, h2, h3, h4, h5⟩ := ih (by omega) hnodup' (by omega) h
    refine ⟨by rw [List.length_cons]; omega, fun e he => ?_, fun e he => ?_, ?_, ?_⟩
    · rcases List.mem_cons.mp he with rfl | he
      · exact hkey
      · exact h2 e he
    · rcases List.mem_cons.mp he with rfl | he
      · exact not_lt.mp hvalue
      · exact h3 e he
    · have hmiddle : List.Perm (context ++ (key, value) :: l) ((key, value) :: context ++ l) :=
        List.perm_middle
      have hperm : List.Perm (context ++ (key, value) :: l)
          (SortedMap.insert key value context ++ l) := hmiddle.trans (hins.symm.append_right l)
      exact (hperm.map Prod.fst).nodup_iff.mpr h4
    · rw [List.map_cons, List.sum_cons]
      omega

/-- **A context is accepted** exactly if its entries fit, and then it is those entries in the
order of their keys. -/
theorem new_eq_ok : new l = .ok context ↔ Fits l ∧ SortedMap.Sorted context ∧ context.Perm l := by
  have hkept (hf : Fits l) : new l = .ok (SortedMap.insertAll [] l) := by
    unfold new
    refine extend_of_fits ?_ hf.keys hf.values ?_ ?_
    · simpa using hf.count
    · simpa using hf.nodup
    · simpa using hf.size
  have hsorted : SortedMap.Sorted (SortedMap.insertAll [] l) :=
    SortedMap.Sorted.insertAll List.Pairwise.nil l
  have hperm (hf : Fits l) : (SortedMap.insertAll [] l).Perm l := by
    have h : (([] ++ l).map Prod.fst).Nodup := by simpa using hf.nodup
    simpa using SortedMap.insertAll_perm h
  constructor
  · intro h
    obtain ⟨h1, h2, h3, h4, h5⟩ := @fits_of_extend l [] 0 context (Nat.zero_le _) List.nodup_nil
      (Nat.zero_le _) h
    have hf : Fits l :=
      ⟨by simpa using h1, h2, h3, by simpa using h4, by simpa using h5⟩
    obtain rfl := Except.ok.inj ((hkept hf).symm.trans h)
    exact ⟨hf, hsorted, hperm hf⟩
  · rintro ⟨hf, hs, hp⟩
    rw [hkept hf, SortedMap.eq_of_perm hsorted hs ((hperm hf).trans hp.symm)]

end ErrorContext

/-! ### Errors -/

namespace HalError

/-- `HalError::new`, on metadata that may be refused. -/
def new? (name : String) (category : ErrorCategory) (operation : String) (retryable : Bool)
    (debugMessage : String) : HalResult HalError := do
  validateIdentifier "error.name" name
  validateIdentifier "operation.name" operation
  return new name category operation retryable debugMessage

def withPlatformCode (e : HalError) (code : String) : HalResult HalError := do
  validateIdentifier "error.platform_code" code
  return { e with platformCode := some code }

def withVendorCode (e : HalError) (code : String) : HalResult HalError := do
  validateIdentifier "error.vendor_code" code
  return { e with vendorCode := some code }

/-- The errors that can be built. -/
inductive Built : HalError → Prop
  | new {name operation debugMessage : String} {category : ErrorCategory} {retryable : Bool}
      {e : HalError} (h : new? name category operation retryable debugMessage = .ok e) : Built e
  | withResourceId {e : HalError} {value : String} {r : ResourceId} (h : Built e)
      (hr : ResourceId.parse value = .ok r) : Built (e.withResourceId r)
  | withPlatformCode {e e' : HalError} {code : String} (h : Built e)
      (hc : e.withPlatformCode code = .ok e') : Built e'
  | withVendorCode {e e' : HalError} {code : String} (h : Built e)
      (hc : e.withVendorCode code = .ok e') : Built e'
  | withContext {e : HalError} {entries context : List (String × String)} (h : Built e)
      (hc : ErrorContext.new entries = .ok context) : Built (e.withContext context)

end HalError

/-- An identifier is not empty, short and ASCII; the same for every field. -/
def Identifier (value : String) : Prop :=
  value ≠ "" ∧ value.utf8ByteSize ≤ 255 ∧ isAscii value = true

lemma validateIdentifier_eq_ok {field : String} {u : Unit} :
    validateIdentifier field value = .ok u ↔ Identifier value := by
  unfold validateIdentifier
  constructor
  · intro h
    split at h
    · cases h
    rename_i hempty
    split at h
    · cases h
    rename_i hlong
    split at h
    · cases h
    rename_i hascii
    exact ⟨by simpa using hempty, by omega, by simpa using hascii⟩
  · rintro ⟨hempty, hlong, hascii⟩
    rw [if_neg (by simpa using hempty), if_neg (by omega), if_neg (by simpa using hascii)]

lemma identified_eq_ok {α : Type} {field value : String} {x y : α} :
    (validateIdentifier field value >>= fun _ => pure x) = .ok y ↔ Identifier value ∧ y = x := by
  constructor
  · intro h
    obtain ⟨u, hu, h⟩ := bind_eq_ok.mp h
    exact ⟨validateIdentifier_eq_ok.mp hu, (Except.ok.inj h).symm⟩
  · rintro ⟨hid, rfl⟩
    exact bind_eq_ok.mpr ⟨(), validateIdentifier_eq_ok.mpr hid, rfl⟩

lemma ResourceId.parse_eq_ok {r : ResourceId} :
    ResourceId.parse value = .ok r ↔ Identifier value ∧ r = ⟨value⟩ :=
  identified_eq_ok

/-- What every error that was built satisfies. -/
structure HalError.WellFormed (e : HalError) : Prop where
  name : Identifier e.name
  operation : Identifier e.operation
  resourceId : ∀ r, e.resourceId = some r → Identifier r.value
  platformCode : ∀ code, e.platformCode = some code → Identifier code
  vendorCode : ∀ code, e.vendorCode = some code → Identifier code
  sorted : SortedMap.Sorted e.context
  context : ErrorContext.Fits e.context

lemma HalError.new?_eq_ok {name operation debugMessage : String} {category : ErrorCategory}
    {retryable : Bool} :
    new? name category operation retryable debugMessage = .ok e ↔
      Identifier name ∧ Identifier operation ∧
        e = new name category operation retryable debugMessage := by
  constructor
  · intro h
    obtain ⟨u, hname, h⟩ := bind_eq_ok.mp h
    obtain ⟨v, hop, h⟩ := bind_eq_ok.mp h
    exact ⟨validateIdentifier_eq_ok.mp hname, validateIdentifier_eq_ok.mp hop,
      (Except.ok.inj h).symm⟩
  · rintro ⟨hname, hop, rfl⟩
    exact bind_eq_ok.mpr ⟨(), validateIdentifier_eq_ok.mpr hname,
      bind_eq_ok.mpr ⟨(), validateIdentifier_eq_ok.mpr hop, rfl⟩⟩

lemma HalError.withPlatformCode_eq_ok {e' : HalError} {code : String} :
    e.withPlatformCode code = .ok e' ↔ Identifier code ∧ e' = { e with platformCode := code } :=
  identified_eq_ok

lemma HalError.withVendorCode_eq_ok {e' : HalError} {code : String} :
    e.withVendorCode code = .ok e' ↔ Identifier code ∧ e' = { e with vendorCode := code } :=
  identified_eq_ok

lemma HalError.Built.wellFormed (h : e.Built) : e.WellFormed := by
  induction h with
  | new h =>
    obtain ⟨hname, hop, rfl⟩ := HalError.new?_eq_ok.mp h
    refine ⟨hname, hop, nofun, nofun, nofun, List.Pairwise.nil, ?_⟩
    exact ⟨Nat.zero_le _, nofun, nofun, List.nodup_nil, Nat.zero_le _⟩
  | withResourceId h hr ih =>
    obtain ⟨hid, rfl⟩ := ResourceId.parse_eq_ok.mp hr
    refine ⟨ih.name, ih.operation, fun r hr => ?_, ih.platformCode, ih.vendorCode, ih.sorted,
      ih.context⟩
    cases hr
    exact hid
  | withPlatformCode h hc ih =>
    obtain ⟨hid, rfl⟩ := HalError.withPlatformCode_eq_ok.mp hc
    refine ⟨ih.name, ih.operation, ih.resourceId, fun code hcode => ?_, ih.vendorCode, ih.sorted,
      ih.context⟩
    cases hcode
    exact hid
  | withVendorCode h hc ih =>
    obtain ⟨hid, rfl⟩ := HalError.withVendorCode_eq_ok.mp hc
    refine ⟨ih.name, ih.operation, ih.resourceId, ih.platformCode, fun code hcode => ?_, ih.sorted,
      ih.context⟩
    cases hcode
    exact hid
  | withContext h hc ih =>
    obtain ⟨hf, hs, hp⟩ := ErrorContext.new_eq_ok.mp hc
    exact ⟨ih.name, ih.operation, ih.resourceId, ih.platformCode, ih.vendorCode, hs,
      hf.perm hp.symm⟩

end RobotHal
