import Mathlib

/-!
The vocabulary of `robot-hal-core`: the identifiers, lease tokens and errors that every
manager, table and dispatcher of the runtime exchanges.

Identifiers are the validated strings of the source. The random ones (lease and session
identifiers) are not drawn here: whoever draws one is handed it as an argument.
-/

namespace RobotHal

structure ResourceId where
  value : String
deriving DecidableEq, Repr

structure SessionId where
  value : String
deriving DecidableEq, Repr

structure OwnerId where
  value : String
deriving DecidableEq, Repr

structure LeaseId where
  value : String
deriving DecidableEq, Repr

inductive LeaseMode
  | observe
  | control
  | maintenance
deriving DecidableEq, Repr

structure LeaseToken where
  leaseId : LeaseId
  generation : ℕ
  mode : LeaseMode
deriving DecidableEq, Repr

inductive ErrorCategory
  | invalidArgument
  | notFound
  | conflict
  | unavailable
  | internal
deriving DecidableEq, Repr

/-- An error with the fields a caller decides on, its message, the resource it names, the codes
of the platform and the vendor, and its context in the order of its keys. -/
structure HalError where
  name : String
  category : ErrorCategory
  operation : String
  retryable : Bool
  debugMessage : String
  resourceId : Option ResourceId
  platformCode : Option String
  vendorCode : Option String
  context : List (String × String)
deriving DecidableEq, Repr

abbrev HalResult (α : Type) := Except HalError α

namespace HalError

def new (name : String) (category : ErrorCategory) (operation : String) (retryable : Bool)
    (debugMessage : String) : HalError :=
  { name, category, operation, retryable, debugMessage, resourceId := none, platformCode := none,
    vendorCode := none, context := [] }

def withResourceId (e : HalError) (r : ResourceId) : HalError := { e with resourceId := some r }

def withContext (e : HalError) (context : List (String × String)) : HalError := { e with context }

end HalError

/-- `runtime_error` of the runtime crate: `HalError::new` on static, valid metadata. -/
def runtimeError (name : String) (category : ErrorCategory) (operation : String)
    (retryable : Bool) (debugMessage : String) : HalError :=
  HalError.new name category operation retryable debugMessage

/-- `str::is_ascii`. -/
def isAscii (s : String) : Bool := s.toList.all fun c => c.toNat < 128

/-- The largest `u64`. -/
def u64Max : ℕ := 2 ^ 64 - 1

/-- `u64::checked_add`. -/
def checkedAdd (a b : ℕ) : Option ℕ := if a + b ≤ u64Max then some (a + b) else none

lemma checkedAdd_eq_some {a b c : ℕ} : checkedAdd a b = some c ↔ c = a + b ∧ a + b ≤ u64Max := by
  unfold checkedAdd
  split
  · simp_all [eq_comm]
  · simp_all

/-- `u64::checked_mul`. -/
def checkedMul (a b : ℕ) : Option ℕ := if a * b ≤ u64Max then some (a * b) else none

lemma checkedMul_eq_some {a b c : ℕ} : checkedMul a b = some c ↔ c = a * b ∧ a * b ≤ u64Max := by
  unfold checkedMul
  split
  · simp_all [eq_comm]
  · simp_all

end RobotHal
