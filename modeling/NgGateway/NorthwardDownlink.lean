import NgGateway.NGValueJson
import NgGateway.NorthwardMapping

/-!
Downlink decoding: `decode_event` reads an envelope or a mapped document as a northward event.
-/

namespace NgGateway.NorthwardDownlink

open JsonDocuments NGValueJson NorthwardMapping Value

inductive EnvelopeKind where
  | deviceConnected | deviceDisconnected | telemetry | attributes | alarm | rpcResponse
  | writePointResponse
  | writePoint | commandReceived | rpcResponseReceived
  deriving DecidableEq

def EnvelopeKind.debug : EnvelopeKind → String
  | .deviceConnected => "DeviceConnected"
  | .deviceDisconnected => "DeviceDisconnected"
  | .telemetry => "Telemetry"
  | .attributes => "Attributes"
  | .alarm => "Alarm"
  | .rpcResponse => "RpcResponse"
  | .writePointResponse => "WritePointResponse"
  | .writePoint => "WritePoint"
  | .commandReceived => "CommandReceived"
  | .rpcResponseReceived => "RpcResponseReceived"

def EnvelopeKind.ofStr : String → Except ReadError EnvelopeKind
  | "device_connected" => .ok .deviceConnected
  | "device_disconnected" => .ok .deviceDisconnected
  | "telemetry" => .ok .telemetry
  | "attributes" => .ok .attributes
  | "alarm" => .ok .alarm
  | "rpc_response" => .ok .rpcResponse
  | "write_point_response" => .ok .writePointResponse
  | "write_point" => .ok .writePoint
  | "command_received" => .ok .commandReceived
  | "rpc_response_received" => .ok .rpcResponseReceived
  | other => .error (.unknownVariant other)

inductive DownlinkKind where
  | writePoint | commandReceived | rpcResponseReceived

def DownlinkKind.toEnvelopeKind : DownlinkKind → EnvelopeKind
  | .writePoint => .writePoint
  | .commandReceived => .commandReceived
  | .rpcResponseReceived => .rpcResponseReceived

inductive TargetType where
  | gateway | subDevice

def TargetType.ofStr : String → Except ReadError TargetType
  | "GATEWAY" => .ok .gateway
  | "SUBDEVICE" => .ok .subDevice
  | other => .error (.unknownVariant other)

/-- A `DateTime<Utc>` in nanoseconds. -/
abbrev DateTime := Int

structure WritePoint where
  requestId : String
  pointId : Int32
  value : NGValue
  timestamp : DateTime
  timeoutMs : Option UInt64

structure Command where
  commandId : String
  key : String
  targetType : TargetType
  deviceId : Option Int32
  deviceName : Option String
  params : Option Json
  timeoutMs : Option UInt64
  timestamp : DateTime

structure ServerRpcResponse where
  requestId : String
  targetType : TargetType
  result : Option Json
  error : Option String
  timestamp : DateTime

inductive NorthwardEvent where
  | writePoint (w : WritePoint)
  | commandReceived (c : Command)
  | rpcResponseReceived (r : ServerRpcResponse)

structure Runtime extends MappingRuntime where
  fromSlice : List UInt8 → Except String Json
  errorText : ReadError → String
  parseDateTime : String → Except String DateTime
  pointer : Json → String → Option Json
  floatText : UInt64 → String
  decodeData : EnvelopeKind → Json → Except ReadError Unit

def readI32 (doc : Json) : Except ReadError Int32 :=
  (readInteger "i32" (-2147483648) 2147483647 doc).map Int32.ofInt

def readI64 (doc : Json) : Except ReadError Int64 :=
  (readInteger "i64" (-9223372036854775808) 9223372036854775807 doc).map Int64.ofInt

def readU32 (doc : Json) : Except ReadError UInt32 :=
  (readInteger "u32" 0 4294967295 doc).map fun n => UInt32.ofNat n.toNat

def readU64 (doc : Json) : Except ReadError UInt64 :=
  (readInteger "u64" 0 18446744073709551615 doc).map fun n => UInt64.ofNat n.toNat

section

variable (rt : Runtime)

def readDateTime (doc : Json) : Except ReadError DateTime := do
  let text ← readString doc
  (rt.parseDateTime text).mapError .custom

structure WritePointFields where
  requestId : Json
  pointId : Json
  value : Json
  timestamp : Json
  timeoutMs : Option Json

def WritePoint.fields (payload : Json) : Except ReadError WritePointFields := do
  let requestId ← payload.field .value 0 "request_id"
  let pointId ← payload.field .value 1 "point_id"
  let value ← payload.field .value 2 "value"
  let timestamp ← payload.field .value 3 "timestamp"
  let timeoutMs ← payload.optionalField .value 4 "timeout_ms" false
  payload.noFieldsAfter 5
  .ok ⟨requestId, pointId, value, timestamp, timeoutMs⟩

/-- Of several fields that cannot be read, the first one declared is reported. -/
def WritePoint.fromValue (payload : Json) : Except ReadError WritePoint := do
  let raw ← WritePoint.fields payload
  let requestId ← readString raw.requestId
  let pointId ← readI32 raw.pointId
  let value ← deserialize raw.value
  let timestamp ← readDateTime rt raw.timestamp
  let timeoutMs ← readOption readU64 raw.timeoutMs
  .ok ⟨requestId, pointId, value, timestamp, timeoutMs⟩

def readTargetType (doc : Json) : Except ReadError TargetType := do
  let name ← readVariant doc
  TargetType.ofStr name

def Command.fromValue (payload : Json) : Except ReadError Command := do
  let commandId ← readString (← payload.field .value 0 "command_id")
  let key ← readString (← payload.field .value 1 "key")
  let targetType ← readTargetType (← payload.field .value 2 "target_type")
  let deviceId ← readOption readI32 (← payload.optionalField .value 3 "device_id" false)
  let deviceName ← readOption readString (← payload.optionalField .value 4 "device_name" false)
  let params ← readOption .ok (← payload.optionalField .value 5 "params" false)
  let timeoutMs ← readOption readU64 (← payload.optionalField .value 6 "timeout_ms" false)
  let timestamp ← readDateTime rt (← payload.field .value 7 "timestamp")
  payload.noFieldsAfter 8
  .ok ⟨commandId, key, targetType, deviceId, deviceName, params, timeoutMs, timestamp⟩

def ServerRpcResponse.fromValue (payload : Json) : Except ReadError ServerRpcResponse := do
  let requestId ← readString (← payload.field .value 0 "request_id")
  let targetType ← readTargetType (← payload.field .value 1 "target_type")
  let result ← readOption .ok (← payload.optionalField .value 2 "result" false)
  let error ← readOption readString (← payload.optionalField .value 3 "error" false)
  let timestamp ← readDateTime rt (← payload.field .value 4 "timestamp")
  payload.noFieldsAfter 5
  .ok ⟨requestId, targetType, result, error, timestamp⟩

end

structure EnvelopeApp where
  id : Int32
  name : String
  pluginType : String

structure EnvelopeDevice where
  id : Int32
  name : String
  type : Option String

structure EnvelopeMeta where
  tsMs : Int64
  app : EnvelopeApp
  device : EnvelopeDevice

structure WireEnvelope where
  schemaVersion : UInt32
  kind : EnvelopeKind
  envelope : Option EnvelopeMeta
  data : Json

def EnvelopeApp.fromText (doc : Json) : Except ReadError EnvelopeApp := do
  let id ← readI32 (← doc.field .text 0 "id")
  let name ← readString (← doc.field .text 1 "name")
  let pluginType ← readString (← doc.field .text 2 "plugin_type")
  doc.noFieldsAfter 3
  .ok ⟨id, name, pluginType⟩

def EnvelopeDevice.fromText (doc : Json) : Except ReadError EnvelopeDevice := do
  let id ← readI32 (← doc.field .text 0 "id")
  let name ← readString (← doc.field .text 1 "name")
  let type ← readOption readString (← doc.optionalField .text 2 "type" true)
  doc.noFieldsAfter 3
  .ok ⟨id, name, type⟩

def EnvelopeMeta.fromText (doc : Json) : Except ReadError EnvelopeMeta := do
  let tsMs ← readI64 (← doc.field .text 0 "ts_ms")
  let app ← EnvelopeApp.fromText (← doc.field .text 1 "app")
  let device ← EnvelopeDevice.fromText (← doc.field .text 2 "device")
  doc.noFieldsAfter 3
  .ok ⟨tsMs, app, device⟩

def EnvelopeEvent.fromText (doc : Json) : Except ReadError EnvelopeKind := do
  let name ← readVariant (← doc.field .text 0 "kind")
  doc.noFieldsAfter 1
  EnvelopeKind.ofStr name

def WirePayload.fromText (doc : Json) : Except ReadError Json := do
  let data ← doc.field .text 0 "data"
  doc.noFieldsAfter 1
  .ok data

def WireEnvelope.fromText (doc : Json) : Except ReadError WireEnvelope := do
  let schemaVersion ← readU32 (← doc.field .text 0 "schema_version")
  let kind ← EnvelopeEvent.fromText (← doc.field .text 1 "event")
  let envelope ← readOption EnvelopeMeta.fromText (← doc.optionalField .text 2 "envelope" true)
  let data ← WirePayload.fromText (← doc.field .text 3 "payload")
  doc.noFieldsAfter 4
  .ok ⟨schemaVersion, kind, envelope, data⟩

inductive DecodeError where
  | json (message : String)
  | schema (message : String)
  | payload (message : String)
  | mapping (e : MappingError)

inductive NorthwardEnvelopePayload where
  | data (kind : EnvelopeKind)
  | event (ev : NorthwardEvent)

structure KeyValue where
  key : String
  value : String

structure DownlinkMessageMeta where
  key : Option String
  properties : Option (List KeyValue)

inductive MappedDownlinkFilterConfig where
  | none
  | jsonPointer (pointer equals : String)
  | property (key equals : String)
  | key (equals : String)

/-- `MappedJsonConfig` is a sorted map from output paths to expressions. -/
inductive DownlinkPayloadConfig where
  | envelopeJson
  | mappedJson (config : List (String × String)) (filter : MappedDownlinkFilterConfig)

structure DownlinkRoute where
  kind : DownlinkKind
  payload : DownlinkPayloadConfig

section

variable (rt : Runtime)

def decodePayloadByKind (kind : EnvelopeKind) (raw : Json) :
    Except ReadError NorthwardEnvelopePayload :=
  match kind with
  | .writePoint => (WritePoint.fromValue rt raw).map fun w => .event (.writePoint w)
  | .commandReceived => (Command.fromValue rt raw).map fun c => .event (.commandReceived c)
  | .rpcResponseReceived =>
    (ServerRpcResponse.fromValue rt raw).map fun r => .event (.rpcResponseReceived r)
  | kind => (rt.decodeData kind raw).map fun _ => .data kind

def payloadDecodeError (kind : EnvelopeKind) (source : ReadError) : DecodeError :=
  .payload ("payload decode failed (kind=" ++ kind.debug ++ "): " ++ rt.errorText source)

def decodeWireEnvelope (wire : WireEnvelope) (expectedKind : EnvelopeKind) :
    Except DecodeError (Option NorthwardEvent) :=
  if wire.schemaVersion ≠ 1 then
    .error (.schema ("unsupported schema_version " ++ toString wire.schemaVersion.toNat))
  else if wire.kind ≠ expectedKind then .ok none
  else do
    let payload ←
      (decodePayloadByKind rt wire.kind wire.data).mapError (payloadDecodeError rt wire.kind)
    match expectedKind, payload with
    | .writePoint, .event (.writePoint w) => .ok (some (.writePoint w))
    | .commandReceived, .event (.commandReceived c) => .ok (some (.commandReceived c))
    | .rpcResponseReceived, .event (.rpcResponseReceived r) =>
      .ok (some (.rpcResponseReceived r))
    | other, _ =>
      .error (.schema ("expected_kind " ++ other.debug ++ " is not a supported downlink kind"))

def decodeDownlinkEnvelope (bytes : List UInt8) (expectedKind : EnvelopeKind) :
    Except DecodeError (Option NorthwardEvent) := do
  let doc ← (rt.fromSlice bytes).mapError .json
  let wire ← (WireEnvelope.fromText doc).mapError fun e => .json (rt.errorText e)
  decodeWireEnvelope rt wire expectedKind

def mappedFilterMatches (msg : DownlinkMessageMeta) (input : Json) :
    MappedDownlinkFilterConfig → Bool
  | .none => true
  | .jsonPointer pointer equals =>
    match rt.pointer input pointer with
    | some (.string s) => s = equals
    | some (.number n) => n.text rt.floatText = equals
    | some (.bool b) => (if b then "true" else "false") = equals
    | _ => false
  | .property key equals =>
    match msg.properties with
    | some props => props.any fun kv => kv.key = key ∧ kv.value = equals
    | none => false
  | .key equals => msg.key = some equals

def decodeMappedEvent (kind : DownlinkKind) (out : Json) : Except ReadError NorthwardEvent :=
  match kind with
  | .writePoint => (WritePoint.fromValue rt out).map .writePoint
  | .commandReceived => (Command.fromValue rt out).map .commandReceived
  | .rpcResponseReceived => (ServerRpcResponse.fromValue rt out).map .rpcResponseReceived

def applyMapping (cfg : List (String × String)) (input : Json) : Except MappingError Json := do
  let compiled ←
    CompiledMappedJson.compile rt.toMappingRuntime (cfg.map fun rule => ⟨rule.1, rule.2⟩)
  compiled.apply input

def decodeMapped (kind : DownlinkKind) (msg : DownlinkMessageMeta) (bytes : List UInt8)
    (cfg : List (String × String)) (filter : MappedDownlinkFilterConfig) :
    Except DecodeError (Option NorthwardEvent) := do
  let input ← (rt.fromSlice bytes).mapError .json
  if mappedFilterMatches rt msg input filter = false then .ok none
  else do
    let out ← (applyMapping rt cfg input).mapError .mapping
    let ev ← (decodeMappedEvent rt kind out).mapError fun e => .payload (rt.errorText e)
    .ok (some ev)

def decodeEvent (route : DownlinkRoute) (msg : DownlinkMessageMeta) (bytes : List UInt8) :
    Except DecodeError (Option NorthwardEvent) :=
  match route.payload with
  | .envelopeJson => decodeDownlinkEnvelope rt bytes route.kind.toEnvelopeKind
  | .mappedJson config filter => decodeMapped rt route.kind msg bytes config filter

end

/-- The payload is a write request for the point, with this JSON for its value. -/
def RequestsWrite (rt : Runtime) (payload : Json) (pointId : Int32) (json : Json) : Prop :=
  ∃ raw requestId timestamp timeoutMs,
    WritePoint.fields payload = .ok raw ∧ raw.value = json ∧
      readString raw.requestId = .ok requestId ∧ readI32 raw.pointId = .ok pointId ∧
      readDateTime rt raw.timestamp = .ok timestamp ∧
      readOption readU64 raw.timeoutMs = .ok timeoutMs

/-- A write route finds a write request: in an envelope of that kind, or as the output of its
mapping. -/
inductive CarriesWrite (rt : Runtime) (msg : DownlinkMessageMeta) (bytes : List UInt8)
    (pointId : Int32) (json : Json) : DownlinkPayloadConfig → Prop
  | envelope {doc : Json} {wire : WireEnvelope} (hdoc : rt.fromSlice bytes = .ok doc)
      (hwire : WireEnvelope.fromText doc = .ok wire) (hversion : wire.schemaVersion = 1)
      (hkind : wire.kind = .writePoint) (hdata : RequestsWrite rt wire.data pointId json) :
      CarriesWrite rt msg bytes pointId json .envelopeJson
  | mapped {input out : Json} {cfg : List (String × String)}
      {filter : MappedDownlinkFilterConfig} (hinput : rt.fromSlice bytes = .ok input)
      (hfilter : mappedFilterMatches rt msg input filter = true)
      (hout : applyMapping rt cfg input = .ok out) (hdata : RequestsWrite rt out pointId json) :
      CarriesWrite rt msg bytes pointId json (.mappedJson cfg filter)

theorem fromValue_of_requestsWrite (h : RequestsWrite rt payload pointId json)
    (hv : deserialize json = .ok v) :
    ∃ w, WritePoint.fromValue rt payload = .ok w ∧ w.pointId = pointId ∧ w.value = v := by
  obtain ⟨raw, requestId, timestamp, timeoutMs, hraw, rfl, hreq, hpoint, htime, htimeout⟩ := h
  refine ⟨⟨requestId, pointId, v, timestamp, timeoutMs⟩, ?_, rfl, rfl⟩
  rw [WritePoint.fromValue, hraw]
  change (readString raw.requestId >>= _) = _
  rw [hreq]
  rw [hpoint]
  rw [hv]
  rw [htime]
  rw [htimeout]
  rfl

theorem decodeEvent_of_carriesWrite (h : CarriesWrite rt msg bytes pointId json config)
    (hv : deserialize json = .ok v) :
    ∃ w, decodeEvent rt ⟨.writePoint, config⟩ msg bytes = .ok (some (.writePoint w)) ∧
      w.pointId = pointId ∧ w.value = v := by
  cases h with
  | envelope hdoc hwire hversion hkind hdata =>
    obtain ⟨w, hw, hpoint, hval⟩ := fromValue_of_requestsWrite hdata hv
    refine ⟨w, ?_, hpoint, hval⟩
    change decodeDownlinkEnvelope rt bytes .writePoint = _
    rw [decodeDownlinkEnvelope, hdoc]
    change ((WireEnvelope.fromText _).mapError _ >>= _) = _
    rw [hwire]
    change decodeWireEnvelope rt _ .writePoint = _
    rw [decodeWireEnvelope, if_neg (not_not.mpr hversion), if_neg (not_not.mpr hkind), hkind,
      decodePayloadByKind, hw]
    rfl
  | mapped hinput hfilter hout hdata =>
    obtain ⟨w, hw, hpoint, hval⟩ := fromValue_of_requestsWrite hdata hv
    refine ⟨w, ?_, hpoint, hval⟩
    change decodeMapped rt .writePoint msg bytes _ _ = _
    rw [decodeMapped, hinput]
    change (if mappedFilterMatches rt msg _ _ = false then _ else _) = _
    rw [hfilter, if_neg (by decide), hout]
    change ((decodeMappedEvent rt .writePoint _).mapError _ >>= _) = _
    rw [decodeMappedEvent, hw]
    rfl

end NgGateway.NorthwardDownlink
