import RobotHal.ErrorWire
import RobotHal.ProtoWire

/-!
How a request names a session: the identifier as a string and the lease token as a message, both
checked before anything is looked up.
-/

namespace RobotHal

open Proto

namespace V1

inductive LeaseMode
  | unspecified
  | observe
  | control
  | maintenance
deriving DecidableEq

instance : Enumeration LeaseMode where
  values := [.unspecified, .observe, .control, .maintenance]
  number
    | .unspecified => 0
    | .observe => 1
    | .control => 2
    | .maintenance => 3
  mem_values e := by cases e <;> decide
  number_injective a b h := by cases a <;> cases b <;> first | rfl | cases h

structure LeaseToken where
  leaseId : String
  generation : ℕ
  mode : ℤ
deriving DecidableEq

def LeaseToken.encode (m : LeaseToken) : List UInt8 :=
  stringField 1 m.leaseId ++ varintField 2 m.generation ++ enumField 3 m.mode

end V1

def LeaseMode.toProto : LeaseMode → V1.LeaseMode
  | .observe => .observe
  | .control => .control
  | .maintenance => .maintenance

def LeaseToken.toProto (token : LeaseToken) : V1.LeaseToken where
  leaseId := token.leaseId.value
  generation := token.generation
  mode := Enumeration.number token.mode.toProto

def LeaseId.parse (value : String) : HalResult LeaseId := do
  validateIdentifier "lease.id" value
  return ⟨value⟩

def SessionId.parse (value : String) : HalResult SessionId := do
  validateIdentifier "session.id" value
  return ⟨value⟩

def leaseModeFromProto (value : ℤ) : HalResult LeaseMode := do
  match ← requiredEnum V1.LeaseMode value "lease mode" with
  | .observe => return .observe
  | .control => return .control
  | .maintenance => return .maintenance
  | .unspecified => throw (invalidMessage "lease mode is required")

def LeaseToken.tryFrom (m : V1.LeaseToken) : HalResult LeaseToken := do
  let leaseId ← (LeaseId.parse m.leaseId).mapError fun _ =>
    invalidMessage "lease token has an invalid lease_id"
  if m.generation = 0 then throw (invalidMessage "lease generation must be greater than zero")
  let mode ← leaseModeFromProto m.mode
  return ⟨leaseId, m.generation, mode⟩

def parseSessionLease (sessionId : String) (lease : Option V1.LeaseToken) :
    HalResult (SessionId × LeaseToken) := do
  let session ← (SessionId.parse sessionId).mapError fun _ =>
    invalidMessage "request has an invalid session_id"
  let lease ← okOr lease (invalidMessage "request is missing lease")
  return (session, ← LeaseToken.tryFrom lease)

def parseControlSessionLease (sessionId : String) (lease : Option V1.LeaseToken)
    (hardwareClass : String) : HalResult (SessionId × LeaseToken) := do
  let (session, lease) ← parseSessionLease sessionId lease
  if lease.mode ≠ .control then
    throw (invalidMessage (hardwareClass ++ " session lease mode must be Control"))
  return (session, lease)

def parseSerialSessionLease (sessionId : String) (lease : Option V1.LeaseToken) :
    HalResult (SessionId × LeaseToken) := parseControlSessionLease sessionId lease "Serial"

def cameraSessionLeaseFromProto (sessionId : String) (lease : Option V1.LeaseToken) :
    HalResult (SessionId × LeaseToken) := parseControlSessionLease sessionId lease "Camera"

lemma parseSessionLease_session {sessionId : String} {lease : Option V1.LeaseToken}
    {x : SessionId × LeaseToken} (h : parseSessionLease sessionId lease = .ok x) :
    x.1 = ⟨sessionId⟩ := by
  obtain ⟨session, hsession, h⟩ := bind_eq_ok.mp h
  obtain ⟨_, -, h⟩ := bind_eq_ok.mp h
  obtain ⟨_, -, h⟩ := bind_eq_ok.mp h
  obtain ⟨_, -, hid⟩ := bind_eq_ok.mp (mapError_eq_ok.mp hsession)
  obtain rfl := Except.ok.inj h
  exact (Except.ok.inj hid).symm

lemma parseControlSessionLease_parse {sessionId hardwareClass : String}
    {lease : Option V1.LeaseToken} {x : SessionId × LeaseToken}
    (h : parseControlSessionLease sessionId lease hardwareClass = .ok x) :
    parseSessionLease sessionId lease = .ok x ∧ x.2.mode = .control := by
  obtain ⟨y, hy, h⟩ := bind_eq_ok.mp h
  dsimp only at h
  split at h
  · cases h
  · rename_i hmode
    obtain rfl := Except.ok.inj h
    exact ⟨hy, not_not.mp hmode⟩

end RobotHal
