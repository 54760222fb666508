import NgGateway.Value

namespace NgGateway.GatewayData

open Value

structure PointValue where
  pointId : Int32
  pointKey : String
  value : NGValue
  ts : Option Int64
  deriving DecidableEq

structure TelemetryData where
  deviceId : Int32
  deviceName : String
  values : List PointValue
  deriving DecidableEq

structure AttributeData where
  deviceId : Int32
  deviceName : String
  clientAttributes : List PointValue
  sharedAttributes : List PointValue
  serverAttributes : List PointValue
  deriving DecidableEq

structure DeviceLifecycleData where
  deviceId : Int32
  deviceName : String
  deviceType : String
  deriving DecidableEq

/-- `NorthwardData`. Of alarms and responses only the device is read. -/
inductive NorthwardData where
  | deviceConnected (data : DeviceLifecycleData)
  | deviceDisconnected (data : DeviceLifecycleData)
  | telemetry (data : TelemetryData)
  | attributes (data : AttributeData)
  | alarm (deviceId : Int32)
  | rpcResponse (deviceId : Int32)
  | writePointResponse (deviceId : Int32)
  deriving DecidableEq

def NorthwardData.deviceId : NorthwardData → Int32
  | .deviceConnected data => data.deviceId
  | .deviceDisconnected data => data.deviceId
  | .telemetry data => data.deviceId
  | .attributes data => data.deviceId
  | .alarm deviceId => deviceId
  | .rpcResponse deviceId => deviceId
  | .writePointResponse deviceId => deviceId

def isNanF32 (bits : UInt32) : Bool :=
  0x7F800000 < bits &&& 0x7FFFFFFF

def isNanF64 (bits : UInt64) : Bool :=
  0x7FF0000000000000 < bits &&& 0x7FFFFFFFFFFFFFFF

/-- What a value is compared by. No number that is not a number has it, and the zeros share
it. -/
def comparedBy : NGValue → Option NGValue
  | .float32 bits =>
    if isNanF32 bits then none
    else if bits = 0x80000000 then some (.float32 0)
    else some (.float32 bits)
  | .float64 bits =>
    if isNanF64 bits then none
    else if bits = 0x8000000000000000 then some (.float64 0)
    else some (.float64 bits)
  | v => some v

def valueEq (u v : NGValue) : Bool :=
  (comparedBy u).isSome ∧ comparedBy u = comparedBy v

theorem valueEq_iff :
    valueEq u v = true ↔ (comparedBy u).isSome ∧ comparedBy u = comparedBy v :=
  decide_eq_true_iff

theorem valueEq_symm (u v) (h : valueEq u v = true) : valueEq v u = true := by
  obtain ⟨hsome, heq⟩ := valueEq_iff.mp h
  exact valueEq_iff.mpr ⟨heq ▸ hsome, heq.symm⟩

theorem valueEq_trans (u v w) (huv : valueEq u v = true) (hvw : valueEq v w = true) :
    valueEq u w = true := by
  obtain ⟨hsome, huv⟩ := valueEq_iff.mp huv
  exact valueEq_iff.mpr ⟨hsome, huv.trans (valueEq_iff.mp hvw).2⟩

/-- The zeros are equal. -/
example : valueEq (.float64 0) (.float64 0x8000000000000000) = true := by decide

/-- A number that is not a number differs from itself. -/
example : valueEq (.float64 0x7FF8000000000000) (.float64 0x7FF8000000000000) = false := by decide

end NgGateway.GatewayData
