import RobotHal.Core

/-!
The vocabulary of `robot-hal-can`: frames and what makes one valid, filters, link
configurations, bus states and the error of a batch.
-/

namespace RobotHal

def maxClassicDataBytes : ℕ := 8
def maxCanBatchFrames : ℕ := 64
def maxCanErrorClasses : ℕ := 10

inductive CanId
  | standard (value : UInt16)
  | extended (value : UInt32)
deriving DecidableEq, Repr

inductive CanErrorClass
  | txTimeout
  | lostArbitration
  | controller
  | protocol
  | transceiver
  | noAcknowledgement
  | busOff
  | busError
  | restarted
  | other
deriving DecidableEq, Repr

inductive CanFrame
  | classicData (id : CanId) (data : List UInt8)
  | classicRemote (id : CanId) (dlc : UInt8)
  | fdData (id : CanId) (data : List UInt8) (bitrateSwitch errorStateIndicator : Bool)
  | error (classes : List CanErrorClass) (data : List UInt8)
deriving DecidableEq, Repr

def invalidFrame (message : String) : HalError :=
  HalError.new "can.frame.invalid" .invalidArgument "can.frame" false message

def validateId : CanId → HalResult Unit
  | .standard value =>
    if value ≤ 0x7ff then .ok ()
    else .error (invalidFrame "standard CAN identifier exceeds 11 bits")
  | .extended value =>
    if value ≤ 0x1fffffff then .ok ()
    else .error (invalidFrame "extended CAN identifier exceeds 29 bits")

def validFdDataLength (length : ℕ) : Bool :=
  length ≤ 8 || length ∈ [12, 16, 20, 24, 32, 48, 64]

def CanFrame.validate : CanFrame → HalResult Unit
  | .classicData id data => do
    validateId id
    if data.length > maxClassicDataBytes then
      throw (invalidFrame "Classical CAN data exceeds 8 bytes")
  | .classicRemote id dlc => do
    validateId id
    if dlc.toNat > maxClassicDataBytes then
      throw (invalidFrame "Classical CAN remote DLC exceeds 8")
  | .fdData id data _ _ => do
    validateId id
    if !validFdDataLength data.length then
      throw (invalidFrame
        "CAN FD data length must be one of 0..=8, 12, 16, 20, 24, 32, 48, or 64")
  | .error classes data => do
    if classes.isEmpty || classes.length > maxCanErrorClasses then
      throw (invalidFrame "CAN error frame must contain 1..=10 classes")
    if data.length > maxClassicDataBytes then
      throw (invalidFrame "CAN error diagnostics exceed 8 bytes")

def CanId.value : CanId → UInt32
  | .standard value => value.toUInt32
  | .extended value => value

def CanId.isStandard : CanId → Bool
  | .standard _ => true
  | .extended _ => false

inductive CanTimestampSource
  | hardware
  | kernel
  | hostMonotonic
deriving DecidableEq, Repr

structure CanTimestamp where
  timestampNs : UInt64
  source : CanTimestampSource
  clockDomain : String
deriving DecidableEq, Repr

structure ReceivedCanFrame where
  frame : CanFrame
  timestamp : Option CanTimestamp
deriving DecidableEq, Repr

/-- How many frames of a batch the backend took before the error. -/
structure CanBatchSendError where
  error : HalError
  committed : ℕ
deriving DecidableEq

namespace CanBatchSendError

/-- A batch that was not admitted commits nothing. -/
def new (error : HalError) : CanBatchSendError := ⟨error, 0⟩

def backendPrefix (error : HalError) (committed : ℕ) : CanBatchSendError := ⟨error, committed⟩

end CanBatchSendError

/-! ### Filters -/

inductive CanIdFormat
  | standard
  | extended
  | either
deriving DecidableEq, Repr

structure CanFrameClasses where
  data : Bool
  remote : Bool
  error : Bool
deriving DecidableEq, Repr

structure CanFilter where
  id : UInt32
  mask : UInt32
  format : CanIdFormat
  classes : CanFrameClasses
deriving DecidableEq, Repr

/-- The part of `CanFilter::matches` that data and remote frames share. -/
def CanFilter.matchesId (f : CanFilter) (id : CanId) (classEnabled : Bool) : Bool :=
  classEnabled &&
    (match f.format with
      | .standard => id.isStandard
      | .extended => !id.isStandard
      | .either => true) &&
    (id.value &&& f.mask) == (f.id &&& f.mask)

def CanFilter.matches (f : CanFilter) : CanFrame → Bool
  | .error _ _ => f.classes.error
  | .classicData id _ => f.matchesId id f.classes.data
  | .fdData id _ _ _ => f.matchesId id f.classes.data
  | .classicRemote id _ => f.matchesId id f.classes.remote

abbrev CanFilterSet := List CanFilter

/-- An empty set lets everything through. -/
def CanFilterSet.matches (fs : CanFilterSet) (x : CanFrame) : Bool :=
  fs.isEmpty || fs.any fun f => f.matches x

/-! ### Links -/

inductive CanMode
  | classic
  | fd
deriving DecidableEq, Repr

structure CanBitTiming where
  bitrate : UInt32
  samplePointPermill : Option UInt16 := none
  sjw : Option UInt16 := none
deriving DecidableEq, Repr

structure CanLinkExpectation where
  mode : Option CanMode := none
  nominalBitrate : Option UInt32 := none
  dataBitrate : Option UInt32 := none
  listenOnly : Option Bool := none
  loopback : Option Bool := none
deriving DecidableEq, Repr

structure CanConfigureConfig where
  mode : CanMode
  nominal : CanBitTiming
  data : Option CanBitTiming
  listenOnly : Bool
  loopback : Bool
  restartMs : Option UInt32
deriving DecidableEq, Repr

inductive CanOpenConfig
  | attach (expectation : CanLinkExpectation)
  | configure (config : CanConfigureConfig)
deriving DecidableEq, Repr

def CanOpenConfig.isConfigure : CanOpenConfig → Bool
  | .attach _ => false
  | .configure _ => true

structure CanActiveConfig where
  mode : CanMode
  nominal : CanBitTiming
  data : Option CanBitTiming
  listenOnly : Bool
  loopback : Bool
  clockDomain : String
deriving DecidableEq, Repr

inductive CanBusState
  | active
  | warning
  | passive
  | busOff
  | stopped
  | unknown
deriving DecidableEq, Repr

structure CanBusStatus where
  state : CanBusState
  txErrorCounter : Option UInt32
  rxErrorCounter : Option UInt32
deriving DecidableEq, Repr

end RobotHal
