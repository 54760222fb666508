import NgGateway.FiniteMaps
import NgGateway.GatewayData
import NgGateway.NorthwardDownlink

/-!
Uplink of the Kafka plugin: `process_data` chooses a channel and `encode_uplink` writes the payload.
Times are Unix milliseconds.
-/

namespace NgGateway.KafkaUplink

open FiniteMaps GatewayData JsonDocuments NorthwardDownlink NorthwardMapping Value

inductive UplinkData where
  | deviceConnected (data : DeviceLifecycleData)
  | deviceDisconnected (data : DeviceLifecycleData)
  | telemetry (data : TelemetryData) (timestamp : Int64)
  | attributes (data : AttributeData) (timestamp : Int64)
  | alarm (deviceId : Int32) (deviceName : String) (timestamp : Int64)
  | rpcResponse (deviceId : Int32) (deviceName : Option String) (timestamp : Int64)
  | writePointResponse (deviceId : Int32) (completedAt : Int64)

def UplinkData.envelopeKind : UplinkData → EnvelopeKind
  | .deviceConnected _ => .deviceConnected
  | .deviceDisconnected _ => .deviceDisconnected
  | .telemetry _ _ => .telemetry
  | .attributes _ _ => .attributes
  | .alarm _ _ _ => .alarm
  | .rpcResponse _ _ _ => .rpcResponse
  | .writePointResponse _ _ => .writePointResponse

def UplinkData.device : UplinkData → EnvelopeDevice
  | .deviceConnected data => ⟨data.deviceId, data.deviceName, some data.deviceType⟩
  | .deviceDisconnected data => ⟨data.deviceId, data.deviceName, some data.deviceType⟩
  | .telemetry data _ => ⟨data.deviceId, data.deviceName, none⟩
  | .attributes data _ => ⟨data.deviceId, data.deviceName, none⟩
  | .alarm deviceId deviceName _ => ⟨deviceId, deviceName, none⟩
  | .rpcResponse deviceId deviceName _ => ⟨deviceId, deviceName.getD "", none⟩
  | .writePointResponse deviceId _ => ⟨deviceId, "", none⟩

/-- The lifecycle of a device has no time of its own. -/
def UplinkData.tsMs (now : Int64) : UplinkData → Int64
  | .deviceConnected _ => now
  | .deviceDisconnected _ => now
  | .telemetry _ timestamp => timestamp
  | .attributes _ timestamp => timestamp
  | .alarm _ _ timestamp => timestamp
  | .rpcResponse _ _ timestamp => timestamp
  | .writePointResponse _ completedAt => completedAt

def attributePoints (data : AttributeData) : List PointValue :=
  data.clientAttributes ++ data.sharedAttributes ++ data.serverAttributes

inductive KvValue where
  | plain (value : NGValue)
  | typed (value : NGValue) (dataType : DataType)

/-- `values` is written in the order of its keys. -/
structure KvEnvelope where
  tsMs : Int64
  values : AssocMap String KvValue

structure TimeseriesRow where
  tsMs : Int64
  pointId : Int32
  pointKey : String
  value : NGValue
  dataType : Option DataType

structure UplinkEnvelope where
  schemaVersion : UInt32
  kind : EnvelopeKind
  envelope : EnvelopeMeta
  data : UplinkData

inductive Document where
  | envelope (env : UplinkEnvelope)
  | kv (kv : KvEnvelope)
  | rows (rows : List TimeseriesRow)
  | mapped (v : Json)

structure PointMeta where
  channelName : String
  dataType : DataType

inductive UplinkEventKind where
  | deviceConnected
  | deviceDisconnected
  | telemetry
  | attributes

def UplinkEventKind.asStr : UplinkEventKind → String
  | .deviceConnected => "device_connected"
  | .deviceDisconnected => "device_disconnected"
  | .telemetry => "telemetry"
  | .attributes => "attributes"

structure RenderContext where
  appId : Int32
  appName : String
  pluginType : String
  eventKind : UplinkEventKind
  ts : Int64
  deviceId : Int32
  deviceName : String
  deviceType : Option String
  channelName : Option String

/-- `getPointMeta` is the gateway's, `toVec` and `toValue` are `serde_json`, `render` is the
template engine. -/
structure UplinkRuntime extends MappingRuntime where
  now : Int64
  getPointMeta : Int32 → Option PointMeta
  toVec : Document → Except String (List UInt8)
  toValue : UplinkData → Option Json
  render : String → RenderContext → String

inductive EncodeError where
  | json (message : String)
  | mapping (e : MappingError)

/-- How an encoder can end without a payload: an error, or `unreachable!()`. -/
inductive Fault where
  | err (e : EncodeError)
  | unreachable

inductive NorthwardUplinkFormat where
  | envelopeJson
  | kv (includeMeta : Bool)
  | timeseriesRows (includeMeta : Bool)

/-- `MappedJsonConfig` is a sorted map from output paths to expressions. -/
inductive UplinkPayloadConfig where
  | envelopeJson
  | kv (includeMeta : Bool)
  | timeseriesRows (includeMeta : Bool)
  | mappedJson (config : List (String × String))

def EnvelopeKind.asStr : EnvelopeKind → String
  | .deviceConnected => "device_connected"
  | .deviceDisconnected => "device_disconnected"
  | .telemetry => "telemetry"
  | .attributes => "attributes"
  | .alarm => "alarm"
  | .rpcResponse => "rpc_response"
  | .writePointResponse => "write_point_response"
  | .writePoint => "write_point"
  | .commandReceived => "command_received"
  | .rpcResponseReceived => "rpc_response_received"

section

variable (rt : UplinkRuntime)

def buildEnvelopeMeta (app : EnvelopeApp) (data : UplinkData) : EnvelopeMeta :=
  ⟨data.tsMs rt.now, app, data.device⟩

def kvValue (includeMeta : Bool) (pv : PointValue) : KvValue :=
  if includeMeta then
    match rt.getPointMeta pv.pointId with
    | some pm => .typed pv.value pm.dataType
    | none => .plain pv.value
  else .plain pv.value

/-- A later point with the same key replaces an earlier one. -/
def kvValues (includeMeta : Bool) (points : List PointValue) : AssocMap String KvValue :=
  points.foldl (fun values pv => values.insert pv.pointKey (kvValue rt includeMeta pv)) .empty

def buildKv (data : UplinkData) (includeMeta : Bool) : Except Fault KvEnvelope :=
  match data with
  | .telemetry t timestamp => .ok ⟨timestamp, kvValues rt includeMeta t.values⟩
  | .attributes a timestamp => .ok ⟨timestamp, kvValues rt includeMeta (attributePoints a)⟩
  | _ => .error .unreachable

def mkRow (includeMeta : Bool) (batchTsMs : Int64) (pv : PointValue) : TimeseriesRow where
  tsMs := pv.ts.getD batchTsMs
  pointId := pv.pointId
  pointKey := pv.pointKey
  value := pv.value
  dataType := if includeMeta then (rt.getPointMeta pv.pointId).map PointMeta.dataType else none

def buildTimeseriesRows (data : UplinkData) (includeMeta : Bool) : List TimeseriesRow :=
  match data with
  | .telemetry t timestamp => t.values.map (mkRow rt includeMeta timestamp)
  | .attributes a timestamp => (attributePoints a).map (mkRow rt includeMeta timestamp)
  | _ => []

def writeDocument (doc : Document) : Except Fault (List UInt8) :=
  (rt.toVec doc).mapError fun e => .err (.json e)

def encodeUplink (format : NorthwardUplinkFormat) (app : EnvelopeApp) (data : UplinkData) :
    Except Fault (List UInt8) :=
  match format with
  | .envelopeJson =>
    writeDocument rt (.envelope ⟨1, data.envelopeKind, buildEnvelopeMeta rt app data, data⟩)
  | .kv includeMeta => do
      let kv ← buildKv rt data includeMeta
      writeDocument rt (.kv kv)
  | .timeseriesRows includeMeta =>
    writeDocument rt (.rows (buildTimeseriesRows rt data includeMeta))

def jsonInt (n : Int64) : Json := .number (.ofInt64 n)

def buildMappingInput (app : EnvelopeApp) (data : UplinkData) : Json :=
  .object
    [("schema_version", jsonInt 1),
      ("event_kind", .string (EnvelopeKind.asStr data.envelopeKind)),
      ("ts_ms", jsonInt (data.tsMs rt.now)),
      ("app", .object
        [("id", jsonInt app.id.toInt64), ("name", .string app.name),
          ("plugin_type", .string app.pluginType)]),
      ("device", .object
        ([("id", jsonInt data.device.id.toInt64), ("name", .string data.device.name)] ++
          (data.device.type.map fun t => ("type", Json.string t)).toList)),
      ("data", (rt.toValue data).getD .null)]

def encodeMappedJsonRef (app : EnvelopeApp) (data : UplinkData) (cfg : List (String × String)) :
    Except MappingError Json := do
  let compiled ←
    CompiledMappedJson.compile rt.toMappingRuntime (cfg.map fun rule => ⟨rule.1, rule.2⟩)
  compiled.apply (buildMappingInput rt app data)

def RenderContext.app (ctx : RenderContext) : EnvelopeApp :=
  ⟨ctx.appId, ctx.appName, ctx.pluginType⟩

def encodeUplinkPayloadRef (mode : UplinkPayloadConfig) (ctx : RenderContext)
    (data : UplinkData) : Except Fault (List UInt8) :=
  match mode with
  | .envelopeJson => encodeUplink rt .envelopeJson ctx.app data
  | .kv includeMeta => encodeUplink rt (.kv includeMeta) ctx.app data
  | .timeseriesRows includeMeta => encodeUplink rt (.timeseriesRows includeMeta) ctx.app data
  | .mappedJson config => do
      let v ← (encodeMappedJsonRef rt ctx.app data config).mapError fun e => .err (.mapping e)
      writeDocument rt (.mapped v)

end

structure EventUplink where
  enabled : Bool
  topic : String
  key : String
  payload : UplinkPayloadConfig

structure UplinkConfig where
  enabled : Bool
  deviceConnected : EventUplink
  deviceDisconnected : EventUplink
  telemetry : EventUplink
  attributes : EventUplink

structure KafkaHandle where
  uplink : UplinkConfig
  appId : Int32
  appName : String

def KafkaHandle.app (handle : KafkaHandle) : EnvelopeApp :=
  ⟨handle.appId, handle.appName, "kafka"⟩

def selectUplinkMapping (handle : KafkaHandle) :
    UplinkData → Option (UplinkEventKind × EventUplink)
  | .deviceConnected _ => some (.deviceConnected, handle.uplink.deviceConnected)
  | .deviceDisconnected _ => some (.deviceDisconnected, handle.uplink.deviceDisconnected)
  | .telemetry _ _ => some (.telemetry, handle.uplink.telemetry)
  | .attributes _ _ => some (.attributes, handle.uplink.attributes)
  | _ => none

def channelOf (rt : UplinkRuntime) (first : Option PointValue) : Option String := do
  let pv ← first
  let pm ← rt.getPointMeta pv.pointId
  some pm.channelName

def buildContextRef (rt : UplinkRuntime) (app : EnvelopeApp) (eventKind : UplinkEventKind)
    (data : UplinkData) : Option RenderContext :=
  let context := fun channelName : Option String =>
    some ⟨app.id, app.name, app.pluginType, eventKind, data.tsMs rt.now, data.device.id,
      data.device.name, data.device.type, channelName⟩
  match data with
  | .deviceConnected _ => context none
  | .deviceDisconnected _ => context none
  | .telemetry t _ => context (channelOf rt t.values.head?)
  | .attributes a _ => context (channelOf rt (attributePoints a).head?)
  | _ => none

def RenderContext.toPropertiesMap (ctx : RenderContext) : List (String × String) :=
  [("app_id", toString ctx.appId.toInt), ("app_name", ctx.appName),
      ("plugin_type", ctx.pluginType), ("event_kind", ctx.eventKind.asStr),
      ("ts_ms", toString ctx.ts.toInt), ("device_id", toString ctx.deviceId.toInt),
      ("device_name", ctx.deviceName)] ++
    (ctx.deviceType.map fun t => ("device_type", t)).toList ++
    (ctx.channelName.map fun name => ("channel_name", name)).toList

structure OutboundPublish where
  topic : String
  payload : List UInt8
  key : Option String
  headers : List (String × String)
  tsMs : Option Int64

def mappingErrorText : MappingError → String
  | .invalidRule message => "invalid rule: " ++ message
  | .compile expr error => "compile failed (expr=" ++ expr ++ "): " ++ error
  | .eval expr error => "eval failed (expr=" ++ expr ++ "): " ++ error
  | .outPath path error => "out_path conflict (path=" ++ path ++ "): " ++ error

def EncodeError.text : EncodeError → String
  | .json message => "json encode failed: " ++ message
  | .mapping e => "mapping failed: " ++ mappingErrorText e

inductive NorthwardError where
  | serializationError (reason : String)
  | publishFailed (platform reason : String)

/-- What a call does: it panics, or returns, with what it put into the outbound queue. -/
inductive Response where
  | panicked
  | returned (result : Except NorthwardError Unit) (published : Option OutboundPublish)

def publish (trySend : Except String Unit) (message : OutboundPublish) : Response :=
  match trySend with
  | .ok () => .returned (.ok ()) (some message)
  | .error e =>
    .returned (.error (.publishFailed "kafka" ("outbound queue rejected: " ++ e))) none

def nothing : Response := .returned (.ok ()) none

def publishEncoded (rt : UplinkRuntime) (trySend : Except String Unit) (mapping : EventUplink)
    (ctx : RenderContext) (data : UplinkData) : Response :=
  let keyRendered := rt.render mapping.key ctx
  match encodeUplinkPayloadRef rt mapping.payload ctx data with
  | .ok payload =>
    publish trySend
      ⟨rt.render mapping.topic ctx, payload,
        if rt.trim keyRendered = "" then none else some keyRendered, ctx.toPropertiesMap,
        some ctx.ts⟩
  | .error (.err e) => .returned (.error (.serializationError e.text)) none
  | .error .unreachable => .panicked

def processData (rt : UplinkRuntime) (trySend : Except String Unit) (handle : KafkaHandle)
    (data : UplinkData) : Response :=
  if handle.uplink.enabled = false then nothing
  else
    match selectUplinkMapping handle data with
    | none => nothing
    | some (eventKind, mapping) =>
      if mapping.enabled = false then nothing
      else
        match buildContextRef rt handle.app eventKind data with
        | none => nothing
        | some ctx => publishEncoded rt trySend mapping ctx data

structure Routed (rt : UplinkRuntime) (handle : KafkaHandle) (data : UplinkData)
    (mapping : EventUplink) (ctx : RenderContext) : Prop where
  uplink : handle.uplink.enabled = true
  channel : mapping.enabled = true
  selected : ∃ eventKind, selectUplinkMapping handle data = some (eventKind, mapping) ∧
    buildContextRef rt handle.app eventKind data = some ctx

def UplinkData.HasPoints : UplinkData → Prop
  | .telemetry _ _ => True
  | .attributes _ _ => True
  | _ => False

theorem writeDocument_ne_unreachable (doc) : writeDocument rt doc ≠ .error .unreachable := by
  rw [writeDocument]
  cases rt.toVec doc with
  | ok bytes | error e => exact fun h => by cases h

theorem encodeUplink_kv_ne_unreachable_iff (includeMeta app data) :
    encodeUplink rt (.kv includeMeta) app data ≠ .error .unreachable ↔ data.HasPoints := by
  cases data with
  | telemetry t timestamp
  | attributes a timestamp => exact iff_of_true (writeDocument_ne_unreachable _) trivial
  | deviceConnected data | deviceDisconnected data
  | alarm deviceId deviceName timestamp
  | rpcResponse deviceId deviceName timestamp
  | writePointResponse deviceId completedAt => exact iff_of_false (fun h => h rfl) not_false

theorem encodeUplinkPayloadRef_ne_unreachable_iff :
    encodeUplinkPayloadRef rt mode ctx data ≠ .error .unreachable ↔
      ((∃ includeMeta, mode = .kv includeMeta) → data.HasPoints) := by
  cases mode with
  | envelopeJson | timeseriesRows includeMeta =>
    refine iff_of_true (writeDocument_ne_unreachable _) ?_
    rintro ⟨_, ⟨⟩⟩
  | kv includeMeta =>
    rw [forall_prop_of_true ⟨includeMeta, rfl⟩]
    exact encodeUplink_kv_ne_unreachable_iff includeMeta ctx.app data
  | mappedJson config =>
    refine iff_of_true ?_ ?_
    · rw [encodeUplinkPayloadRef]
      cases encodeMappedJsonRef rt ctx.app data config with
      | error e => exact fun h => by cases h
      | ok v => exact writeDocument_ne_unreachable _
    · rintro ⟨_, ⟨⟩⟩

theorem ne_unreachable_iff (x : Except Fault (List UInt8)) :
    x ≠ .error .unreachable ↔ (∃ bytes, x = .ok bytes) ∨ ∃ e, x = .error (.err e) := by
  rcases x with (e | -) | bytes
  · exact iff_of_true (fun h => by cases h) (.inr ⟨e, rfl⟩)
  · refine iff_of_false (fun h => h rfl) ?_
    rintro (⟨_, ⟨⟩⟩ | ⟨_, ⟨⟩⟩)
  · exact iff_of_true (fun h => by cases h) (.inl ⟨bytes, rfl⟩)

theorem publishEncoded_panicked_iff :
    publishEncoded rt trySend mapping ctx data = .panicked ↔
      encodeUplinkPayloadRef rt mapping.payload ctx data = .error .unreachable := by
  unfold publishEncoded
  rcases encodeUplinkPayloadRef rt mapping.payload ctx data with (e | -) | payload
  · refine iff_of_false (fun h => ?_) fun h => ?_
    · cases h
    · cases h
  · exact iff_of_true rfl rfl
  · refine iff_of_false (fun h => ?_) fun h => ?_
    · unfold publish at h
      rcases trySend with e | _
      · cases h
      · cases h
    · cases h

theorem processData_of_routed (h : Routed rt handle data mapping ctx) (trySend) :
    processData rt trySend handle data = publishEncoded rt trySend mapping ctx data := by
  obtain ⟨eventKind, hselected, hctx⟩ := h.selected
  simp [processData, h.uplink, hselected, h.channel, hctx]

/-- `process_data` panics exactly if the encoder of an enabled channel does. -/
theorem processData_panicked_iff (trySend : Except String Unit) (handle : KafkaHandle)
    (data : UplinkData) :
    processData rt trySend handle data = .panicked ↔
      ∃ mapping ctx, Routed rt handle data mapping ctx ∧
        (∃ includeMeta, mapping.payload = .kv includeMeta) ∧ ¬data.HasPoints := by
  have henc : ∀ (mapping : EventUplink) (ctx : RenderContext),
      publishEncoded rt trySend mapping ctx data = .panicked ↔
        (∃ includeMeta, mapping.payload = .kv includeMeta) ∧ ¬data.HasPoints := by
    intro mapping ctx
    rw [publishEncoded_panicked_iff, ← not_iff_not, ← ne_eq,
      encodeUplinkPayloadRef_ne_unreachable_iff, not_and_not_right]
  constructor
  · intro h
    unfold processData at h
    split at h
    · cases h
    · rename_i huplink
      split at h
      · cases h
      · rename_i eventKind mapping hselect
        split at h
        · cases h
        · rename_i hchan
          split at h
          · cases h
          · rename_i ctx hctx
            exact ⟨mapping, ctx, ⟨by simpa using huplink, by simpa using hchan, eventKind,
              hselect, hctx⟩, (henc mapping ctx).mp h⟩
  · rintro ⟨mapping, ctx, hrouted, h⟩
    rw [processData_of_routed hrouted]
    exact (henc mapping ctx).mpr h

/-- Data for an enabled channel is encoded, or refused with an error, unless a device lifecycle
channel is configured with `Kv`. -/
theorem encode_returns_iff (handle : KafkaHandle) (data : UplinkData) :
    (∀ mapping ctx, Routed rt handle data mapping ctx →
      (∃ bytes, encodeUplinkPayloadRef rt mapping.payload ctx data = .ok bytes) ∨
        ∃ e, encodeUplinkPayloadRef rt mapping.payload ctx data = .error (.err e)) ↔
      ∀ mapping ctx, Routed rt handle data mapping ctx →
        (∃ includeMeta, mapping.payload = .kv includeMeta) → data.HasPoints := by
  refine forall_congr' fun mapping => forall_congr' fun ctx => imp_congr_right fun _ => ?_
  rw [← ne_unreachable_iff]
  exact encodeUplinkPayloadRef_ne_unreachable_iff

def sampleRuntime : UplinkRuntime where
  compileExpr := fun _ => .error ""
  trim := id
  now := 0
  getPointMeta := fun _ => none
  toVec := fun _ => .ok []
  toValue := fun _ => none
  render := fun template _ => template

def sampleHandle : KafkaHandle where
  uplink :=
    ⟨true, ⟨true, "up", "", .kv false⟩, ⟨true, "up", "", .kv false⟩, ⟨true, "up", "", .kv false⟩,
      ⟨true, "up", "", .kv false⟩⟩
  appId := 1
  appName := "app"

def sampleConnected : UplinkData := .deviceConnected ⟨1, "pump", "modbus"⟩

theorem connected_panics_with_kv :
    processData sampleRuntime (.ok ()) sampleHandle sampleConnected = .panicked ∧
      ¬∀ mapping ctx, Routed sampleRuntime sampleHandle sampleConnected mapping ctx →
        (∃ bytes, encodeUplinkPayloadRef sampleRuntime mapping.payload ctx sampleConnected =
            .ok bytes) ∨
          ∃ e, encodeUplinkPayloadRef sampleRuntime mapping.payload ctx sampleConnected =
            .error (.err e) := by
  refine ⟨rfl, fun hreturns => ?_⟩
  have hreturn := hreturns ⟨true, "up", "", .kv false⟩ _ ⟨rfl, rfl, .deviceConnected, rfl, rfl⟩
  obtain ⟨_, h⟩ | ⟨_, h⟩ := hreturn
  · cases h
  · cases h

end NgGateway.KafkaUplink
