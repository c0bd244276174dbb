import RobotHal.RingReader

/-!
The broker's side of the shared frame ring (`BrokerMapping` and `SlotWriter` of `ring.rs`).

Every call takes the answers of the operating system to its lock, unlock and unlink requests
as arguments. A payload copier may leave anything in the bytes it is given and then succeed
or fail; only the number of those bytes is fixed.
-/

namespace RobotHal.Ring

/-- A payload copier: the bytes it leaves in its destination, and its result. -/
structure Copier where
  run : List UInt8 → List UInt8 × HalResult ℕ
  length_run : ∀ destination, (run destination).1.length = destination.length

/-- The copier of `publish`. -/
def Copier.ofPayload (payload : List UInt8) : Copier where
  run destination :=
    if payload.length > destination.length then
      (destination, .error (invalid "shared_memory.publish"
        "payload exceeds the negotiated slot capacity"))
    else (payload ++ destination.drop payload.length, .ok payload.length)
  length_run destination := by
    split
    · rfl
    · simp
      omega

structure BrokerMapping where
  mem : Mem
  descriptor : MappingDescriptor
  config : RingConfig
  closed : Bool
  pinned : Option FrameLease

/-- What a call returns after giving the lock back. -/
def released {σ α : Type} (operation : String) (unlock : OsResult) (x : σ × HalResult α) :
    σ × HalResult α :=
  match unlock with
  | .error e => (x.1, .error (unavailable operation e.message))
  | .ok () => x

@[simp] lemma released_fst {σ α : Type} (operation : String) (unlock : OsResult)
    (x : σ × HalResult α) : (released operation unlock x).1 = x.1 := by
  unfold released
  split <;> rfl

namespace BrokerMapping

/-- `create`, once the identity, the token and the name were drawn; a fresh mapping is zero. -/
def create (sha256 : Vector UInt8 32 → Vector UInt8 32) (config : RingConfig) (name : String)
    (identity token : Vector UInt8 32) : BrokerMapping :=
  let descriptor := { name, identity, token, totalLength := config.totalLength }
  { mem := writeHeader sha256 (fun _ => 0) config descriptor
    descriptor, config, closed := false, pinned := none }

variable (b : BrokerMapping)

/-! ### Slots -/

def slotState (i : ℕ) : HalResult SlotState := (Ring.slotState b.config i).eval b.mem
def slotSequence (i : ℕ) : UInt64 := b.mem.readU64 (b.config.slotBase i + slotSequenceField)
def slotGeneration (i : ℕ) : UInt64 := b.mem.readU64 (b.config.slotBase i + slotGenerationField)

def writeSlotState (i : ℕ) (s : SlotState) : BrokerMapping :=
  { b with mem := b.mem.writeU64 (b.config.slotBase i + slotStateField) s.raw }

/-- The payload bytes of a slot. -/
def payload (i : ℕ) : List UInt8 :=
  b.mem.read (b.config.slotBase i + slotHeaderBytes) b.config.payloadCapacity

def droppedCountLocked : UInt64 := b.mem.readU64 headerDroppedCount

def incrementDroppedLocked : HalResult BrokerMapping :=
  match checkedAdd b.droppedCountLocked.toNat 1 with
  | none => .error (invalid "shared_memory.publish" "dropped-frame counter overflow")
  | some next => .ok { b with mem := b.mem.writeU64 headerDroppedCount (UInt64.ofNat next) }

/-- A producer never blocks: a contended lock counts as a dropped frame only when the lock is
there at the second try. -/
def incrementDroppedUnlocked (retry unlock : OsResult) : BrokerMapping × HalResult Unit :=
  match retry with
  | .error _ => (b, .ok ())
  | .ok () =>
    match b.incrementDroppedLocked with
    | .error e => (b, .error e)
    | .ok b => released "shared_memory.publish" unlock (b, .ok ())

/-- The loop of `select_writable_slot`: the first free slot, or else the oldest ready one. -/
def selectFrom : List ℕ → Option (ℕ × UInt64) → HalResult (Option ℕ)
  | [], oldest => .ok (oldest.map Prod.fst)
  | i :: rest, oldest =>
    match b.slotState i with
    | .error e => .error e
    | .ok .free => .ok (some i)
    | .ok .ready =>
      selectFrom rest
        (if oldest.all fun o => b.slotSequence i < o.2 then some (i, b.slotSequence i) else oldest)
    | .ok .writing => selectFrom rest oldest
    | .ok .pinned => selectFrom rest oldest

def selectWritableSlot : HalResult (Option ℕ) :=
  b.selectFrom (List.range b.config.slotCount) none

/-! ### Publishing -/

/-- The plane table of a slot, from plane `k` on. -/
def writePlanes (base : ℕ) : ℕ → List PlaneLayout → Mem → Mem
  | _, [], m => m
  | k, plane :: planes, m =>
    let offset := base + slotPlanesField + k * planeBytes
    writePlanes base (k + 1) planes
      (m.writeU32 offset plane.offset |>.writeU32 (offset + 4) plane.length
        |>.writeU32 (offset + 8) plane.stride)

/-- The slot header of a committed frame. -/
def writeSlotHeader (base : ℕ) (md : FrameMetadata) (dropped : UInt64) (payloadLength : ℕ)
    (m : Mem) : Mem :=
  let m := m.writeU64 (base + slotGenerationField) md.generation
    |>.writeU64 (base + slotTimestampField) md.monotonicTimestampNs
    |>.writeU64 (base + slotDroppedField) dropped
    |>.writeU64 (base + slotPayloadLengthField) (UInt64.ofNat payloadLength)
    |>.writeU64 (base + slotPlaneCountField) (UInt64.ofNat md.planes.length)
  (writePlanes base 0 md.planes m).writeU64 (base + slotSequenceField) md.sequence

/-- The body of a publish, on the slot that was marked as being written. -/
def fill (i : ℕ) (md : FrameMetadata) (copier : Copier) : BrokerMapping × HalResult Unit :=
  let base := b.config.slotBase i
  let (bytes, copied) := copier.run (b.payload i)
  let m := b.mem.write (base + slotHeaderBytes) bytes
  match copied with
  | .error e => ({ b with mem := m }, .error e)
  | .ok payloadLength =>
    if payloadLength > b.config.payloadCapacity then
      ({ b with mem := m }, .error (invalid "shared_memory.publish"
        "payload copier exceeded the negotiated slot capacity"))
    else
      match validatePlanes md.format md.width md.height md.planes payloadLength with
      | .error e => ({ b with mem := m }, .error e)
      | .ok () =>
        ({ b with mem := writeSlotHeader base md b.droppedCountLocked payloadLength m }, .ok ())

/-- The end of a publish that took slot `i`: the slot is ready, or what it was. -/
def settle (i : ℕ) (previous : SlotState) : BrokerMapping × HalResult Unit →
    BrokerMapping × HalResult Unit
  | (b, .ok ()) => (b.writeSlotState i .ready, .ok ())
  | (b, .error e) => (b.writeSlotState i previous, .error e)

def publishLockedWith (md : FrameMetadata) (copier : Copier) : BrokerMapping × HalResult Unit :=
  match b.selectWritableSlot with
  | .error e => (b, .error e)
  | .ok none =>
    match b.incrementDroppedLocked with
    | .error e => (b, .error e)
    | .ok b => (b, .ok ())
  | .ok (some i) =>
    match b.slotState i with
    | .error e => (b, .error e)
    | .ok previous =>
      match (if previous = .ready then b.incrementDroppedLocked else .ok b) with
      | .error e => (b, .error e)
      | .ok b => settle i previous ((b.writeSlotState i .writing).fill i md copier)

def publishWith (md : FrameMetadata) (copier : Copier) (lock retry unlock : OsResult) :
    BrokerMapping × HalResult Unit :=
  match validateDimensions md.format md.width md.height with
  | .error e => (b, .error e)
  | .ok () =>
    match lock with
    | .error e =>
      if e.wouldBlock then b.incrementDroppedUnlocked retry unlock
      else (b, .error (unavailable "shared_memory.publish" e.message))
    | .ok () => released "shared_memory.publish" unlock (b.publishLockedWith md copier)

def publish (md : FrameMetadata) (payload : List UInt8) (lock retry unlock : OsResult) :
    BrokerMapping × HalResult Unit :=
  b.publishWith md (.ofPayload payload) lock retry unlock

/-! ### Leases -/

def releasePinLocked : BrokerMapping × HalResult Unit :=
  match b.pinned with
  | none => (b, .ok ())
  | some lease =>
    let b := { b with pinned := none }
    if lease.identity = b.descriptor.identity ∧ b.slotSequence lease.slotIndex = lease.sequence ∧
        b.slotGeneration lease.slotIndex = lease.generation then
      match b.slotState lease.slotIndex with
      | .error e => (b, .error e)
      | .ok .pinned => (b.writeSlotState lease.slotIndex .free, .ok ())
      | .ok _ => (b, .ok ())
    else (b, .ok ())

/-- The loop of `next_frame_lease`: the newest ready slot. -/
def latestFrom : List ℕ → Option (ℕ × UInt64) → HalResult (Option (ℕ × UInt64))
  | [], latest => .ok latest
  | i :: rest, latest =>
    match b.slotState i with
    | .error e => .error e
    | .ok .ready =>
      latestFrom rest
        (if latest.all fun l => b.slotSequence i > l.2 then some (i, b.slotSequence i) else latest)
    | .ok _ => latestFrom rest latest

/-- Pinning the slot that was found. -/
def pinSlot (i : ℕ) (sequence : UInt64) : BrokerMapping × HalResult (Option FrameLease) :=
  match b.slotState i with
  | .error e => (b, .error e)
  | .ok .ready =>
    let b := b.writeSlotState i .pinned
    if b.slotSequence i ≠ sequence then (b.writeSlotState i .ready, .ok none)
    else
      let lease : FrameLease :=
        { identity := b.descriptor.identity, slotIndex := i, sequence
          generation := b.slotGeneration i }
      ({ b with pinned := some lease }, .ok (some lease))
  | .ok _ => (b, .ok none)

def nextFrameLeaseLocked : BrokerMapping × HalResult (Option FrameLease) :=
  match b.releasePinLocked with
  | (b, .error e) => (b, .error e)
  | (b, .ok ()) =>
    match b.latestFrom (List.range b.config.slotCount) none with
    | .error e => (b, .error e)
    | .ok none => (b, .ok none)
    | .ok (some (i, sequence)) => b.pinSlot i sequence

def nextFrameLease (lock unlock : OsResult) : BrokerMapping × HalResult (Option FrameLease) :=
  match lock with
  | .error e => (b, .error (unavailable "shared_memory.lease" e.message))
  | .ok () => released "shared_memory.lease" unlock b.nextFrameLeaseLocked

def releasePin (lock unlock : OsResult) : BrokerMapping × HalResult Unit :=
  match lock with
  | .error e => (b, .error (unavailable "shared_memory.release" e.message))
  | .ok () => released "shared_memory.release" unlock b.releasePinLocked

/-- The zero-copy view of a pinned frame: the metadata and the bytes it shows. -/
def frameView (lease : FrameLease) : HalResult CopiedFrame := do
  let mismatch := invalid "shared_memory.acquire" "pinned lease no longer matches slot"
  if lease.identity ≠ b.descriptor.identity then throw mismatch
  let state ← b.slotState lease.slotIndex
  if state ≠ .pinned ∨ b.slotSequence lease.slotIndex ≠ lease.sequence ∨
      b.slotGeneration lease.slotIndex ≠ lease.generation then
    throw mismatch
  let metadata ←
    (readMetadata b.config lease.slotIndex lease.sequence lease.generation).eval b.mem
  let payloadLength ← (slotPayloadLength b.config lease.slotIndex).eval b.mem
  let base := b.config.slotBase lease.slotIndex
  return { metadata, payload := b.mem.read (base + slotHeaderBytes) payloadLength }

/-- `acquire`, where `shared` is the answer to the lock the view keeps. -/
def acquire (lock unlock shared : OsResult) : BrokerMapping × HalResult (Option CopiedFrame) :=
  let failed (e : OsError) := unavailable "shared_memory.acquire" e.message
  match lock with
  | .error e => (b, .error (failed e))
  | .ok () =>
    match b.nextFrameLeaseLocked with
    | (b, .error e) => (b, .error e)
    | (b, .ok lease) =>
      match unlock, lease with
      | .error e, _ => (b, .error (failed e))
      | .ok (), none => (b, .ok none)
      | .ok (), some lease =>
        match shared with
        | .error e => (b, .error (failed e))
        | .ok () => (b, (b.frameView lease).map some)

/-- `close`: `lock` is the answer that ends the waiting for the lock. -/
def close (lock unlock unlink : OsResult) : BrokerMapping × HalResult Unit :=
  let failed (e : OsError) := unavailable "shared_memory.close" e.message
  if b.closed then (b, .ok ())
  else
    match lock with
    | .error e => (b, .error (failed e))
    | .ok () =>
      let b := { b with mem := b.mem.writeU64 headerTerminalState terminalStateClosed }
      match unlock with
      | .error e => (b, .error (failed e))
      | .ok () =>
        match unlink with
        | .error e => (b, .error (failed e))
        | .ok () => ({ b with closed := true }, .ok ())

end BrokerMapping

end RobotHal.Ring
