import NgGateway.McRandomPlanner
import NgGateway.ModbusPlannerOverflow
import NgGateway.McWritePlanner
import NgGateway.EthernetIpCollect
import NgGateway.Iec104Numbering
import NgGateway.Iec104PendingBytes
import NgGateway.Iec104Window
import NgGateway.S7PartialRead
import NgGateway.ModbusRoundTrip
import NgGateway.S7WritePlanner
import NgGateway.Iec104Time
import NgGateway.Iec104Extract
import NgGateway.Iec104SnapshotRuns
import NgGateway.S7ValueRoundTrip
import NgGateway.Cjt188Registry
import NgGateway.Cjt188LateAnswers
import NgGateway.Dl645LateFrames
import NgGateway.S7SessionLoop
import NgGateway.IntegerMapping
import NgGateway.OpcUaSnapshotRuns
import NgGateway.OpcUaSubscriptionRuns
import NgGateway.SnapshotGc
import NgGateway.SnapshotRuns
import NgGateway.RuntimeNames
import NgGateway.RemoveDevicesRevert
import NgGateway.ReplaceDevicesRevert
import NgGateway.SubscriptionUpdates
import NgGateway.SupervisorAttempts
import NgGateway.SupervisorEnd
import NgGateway.TopicPatterns
import NgGateway.KafkaDownlink
import NgGateway.KafkaUplink
import NgGateway.RuntimeAgreement
import NgGateway.CasbinHistory
import NgGateway.WriteOrder
import NgGateway.AppSendOrder
import NgGateway.Iec104Backlog
import NgGateway.Iec104Codec
import NgGateway.Iec104ReceiveAcks
import NgGateway.LogOverrides
import NgGateway.OpcUaServerSpace
import NgGateway.ThingsboardPayload
import NgGateway.MappingPaths
import NgGateway.UpdateQueue
