import RobotHal.Assoc
import RobotHal.BrokerAdmission
import RobotHal.BrokerCorrelation
import RobotHal.BrokerDispatch
import RobotHal.BrokerIsolation
import RobotHal.BrokerRegistries
import RobotHal.BrokerResponses
import RobotHal.CameraControl
import RobotHal.CameraControlWire
import RobotHal.CameraFrame
import RobotHal.Can
import RobotHal.CanActor
import RobotHal.CanBackend
import RobotHal.CanBatch
import RobotHal.CanCalls
import RobotHal.CanDelivery
import RobotHal.CanEpochs
import RobotHal.CanEvents
import RobotHal.CanExclusion
import RobotHal.CanFencing
import RobotHal.CanFlow
import RobotHal.CanGuarantees
import RobotHal.CanLeaseSpec
import RobotHal.CanLeaseTable
import RobotHal.CanLedger
import RobotHal.CanManager
import RobotHal.CanOps
import RobotHal.CanQuiet
import RobotHal.CanReceive
import RobotHal.CanReceiveOrder
import RobotHal.CanReconcile
import RobotHal.CanRevocation
import RobotHal.CanSelection
import RobotHal.CanSizes
import RobotHal.CanSteady
import RobotHal.CanValues
import RobotHal.CanWire
import RobotHal.Client
import RobotHal.ClientCorrelation
import RobotHal.ClientErrors
import RobotHal.ClosedSessions
import RobotHal.Core
import RobotHal.EnvelopeDecode
import RobotHal.ErrorContext
import RobotHal.ErrorWire
import RobotHal.Handshake
import RobotHal.LatestWins
import RobotHal.LeaseFencing
import RobotHal.LeaseTable
import RobotHal.LinuxGpio
import RobotHal.Machine
import RobotHal.Memory
import RobotHal.NativeSession
import RobotHal.PcanFrames
import RobotHal.PcanTiming
import RobotHal.Preflight
import RobotHal.ProtoFields
import RobotHal.ProtoWire
import RobotHal.PythonEvents
import RobotHal.PythonTransports
import RobotHal.Revocation
import RobotHal.Ring
import RobotHal.RingCopy
import RobotHal.RingIntegrity
import RobotHal.RingLayout
import RobotHal.RingLeases
import RobotHal.RingReader
import RobotHal.RingSlots
import RobotHal.SerialExclusive
import RobotHal.SerialHistory
import RobotHal.SerialLifecycle
import RobotHal.SerialPort
import RobotHal.SerialRegistry
import RobotHal.SerialRuntime
import RobotHal.Teardown
import RobotHal.TeardownSteps
import RobotHal.WorkerManager
