import NgGateway.DownlinkCodec
import NgGateway.FiniteMaps
import NgGateway.NorthwardDownlink

namespace NgGateway.ResolveWrite

open DownlinkCodec FallibleLoops FiniteMaps JsonDocuments NGValueJson NorthwardDownlink
open NorthwardMapping Value ValueCodec

inductive AccessMode where
  | read | write | readWrite
  deriving DecidableEq

def AccessMode.debug : AccessMode → String
  | .read => "Read"
  | .write => "Write"
  | .readWrite => "ReadWrite"

structure RuntimePoint where
  id : Int32
  key : String
  dataType : DataType
  accessMode : AccessMode
  minValue : Option UInt64
  maxValue : Option UInt64
  transform : Transform

def RuntimePoint.wireDataType (point : RuntimePoint) : DataType := point.dataType

structure RuntimeDevice where
  id : Int32
  channelId : Int32
  deviceName : String

structure PointMeta where
  pointId : Int32
  channelId : Int32
  deviceId : Int32
  deviceName : String
  pointKey : String
  dataType : DataType
  accessMode : AccessMode
  minValue : Option UInt64
  maxValue : Option UInt64
  transform : Transform

def PointMeta.logicalDataType (m : PointMeta) : DataType :=
  m.transform.resolveLogicalDatatype m.dataType

/-- The metadata of an entry is made from its point. -/
structure PointEntry where
  point : RuntimePoint
  pointMeta : PointMeta
  dataType_eq : pointMeta.dataType = point.dataType
  transform_eq : pointMeta.transform = point.transform

structure SouthwardManager where
  pointEntriesById : AssocMap Int32 PointEntry
  /-- Whether the channel is connected. -/
  channels : AssocMap Int32 Bool

def PointEntry.new (device : RuntimeDevice) (point : RuntimePoint) : PointEntry where
  point := point
  pointMeta :=
    { pointId := point.id, channelId := device.channelId, deviceId := device.id
      deviceName := device.deviceName, pointKey := point.key, dataType := point.dataType
      accessMode := point.accessMode, minValue := point.minValue, maxValue := point.maxValue
      transform := point.transform }
  dataType_eq := rfl
  transform_eq := rfl

def SouthwardManager.upsertPoint (manager : SouthwardManager) (device : RuntimeDevice)
    (point : RuntimePoint) : SouthwardManager :=
  { manager with
    pointEntriesById := manager.pointEntriesById.insert point.id (PointEntry.new device point) }

def SouthwardManager.getPointEntry (manager : SouthwardManager) (pointId : Int32) :
    Option PointEntry :=
  manager.pointEntriesById.lookup pointId

def SouthwardManager.isChannelConnected (manager : SouthwardManager) (channelId : Int32) : Bool :=
  (manager.channels.lookup channelId).getD false

inductive WritePointErrorKind where
  | notFound | notWriteable | typeMismatch | outOfRange | notConnected | queueTimeout | driverError

structure WritePointError where
  kind : WritePointErrorKind
  message : String

structure ResolvedWrite where
  pointId : Int32
  deviceId : Int32
  channelId : Int32
  deviceName : String
  pointKey : String
  point : RuntimePoint
  wireValue : NGValue

def driverErrorText : DriverError → String
  | .validationError message => "Validation error: " ++ message
  | .executionError message => "Execution error: " ++ message
  | .configurationError message => "Configuration error: " ++ message
  | .codecError message => "Codec error: " ++ message

def containsText (text part : String) : Bool :=
  decide (part.toList <:+: text.toList)

def conversionErrorKind : DriverError → WritePointErrorKind
  | .validationError message =>
    if containsText message "out of range" then .outOfRange else .typeMismatch
  | _ => .driverError

section

variable (codec : CodecRuntime) (manager : SouthwardManager)

def lookupPoint (pointId : Int32) : Except WritePointError PointEntry :=
  match manager.getPointEntry pointId with
  | some entry => .ok entry
  | none =>
    .error ⟨.notFound, "point " ++ toString pointId.toInt ++ " not found in runtime index"⟩

def PointMeta.writable (m : PointMeta) : Bool :=
  m.accessMode = .write ∨ m.accessMode = .readWrite

def checkAccessMode (m : PointMeta) : Except WritePointError Unit :=
  if m.writable then .ok ()
  else
    .error ⟨.notWriteable,
      "point '" ++ m.pointKey ++ "' on device " ++ toString m.deviceId.toInt ++
        " is not writable (mode=" ++ m.accessMode.debug ++ ")"⟩

def checkDatatype (m : PointMeta) (value : NGValue) : Except WritePointError Unit :=
  if validateDatatype value m.logicalDataType then .ok ()
  else
    .error ⟨.typeMismatch,
      "type mismatch: expected " ++ m.logicalDataType.debug ++ ", got " ++ value.dataType.debug⟩

/-- Limits hold only together, and for values that read as numbers. -/
def checkRange (m : PointMeta) (value : NGValue) : Except WritePointError Unit :=
  match m.minValue, m.maxValue with
  | some min, some max =>
    match tryF64 codec value with
    | .ok n =>
      if codec.lt n min || codec.lt max n then
        .error ⟨.outOfRange,
          "value out of range: " ++ codec.ops.display n ++ " not in [" ++
            codec.ops.display min ++ ", " ++ codec.ops.display max ++ "]"⟩
      else .ok ()
    | .error _ => .ok ()
  | _, _ => .ok ()

def checkConnected (channelId : Int32) : Except WritePointError Unit :=
  if manager.isChannelConnected channelId then .ok ()
  else .error ⟨.notConnected, "channel " ++ toString channelId.toInt ++ " not connected"⟩

def toWire (entry : PointEntry) (value : NGValue) : Except DriverError NGValue :=
  logicalToWireValue codec value entry.pointMeta.logicalDataType entry.point.wireDataType
    entry.point.transform

def ResolvedWrite.new (pointId : Int32) (entry : PointEntry) (wireValue : NGValue) :
    ResolvedWrite where
  pointId := pointId
  deviceId := entry.pointMeta.deviceId
  channelId := entry.pointMeta.channelId
  deviceName := entry.pointMeta.deviceName
  pointKey := entry.pointMeta.pointKey
  point := entry.point
  wireValue := wireValue

def resolveWrite (pointId : Int32) (value : NGValue) : Except WritePointError ResolvedWrite := do
  let entry ← lookupPoint manager pointId
  checkAccessMode entry.pointMeta
  checkDatatype entry.pointMeta value
  checkRange codec entry.pointMeta value
  checkConnected manager entry.pointMeta.channelId
  let wireValue ←
    (toWire codec entry value).mapError fun e => ⟨conversionErrorKind e, driverErrorText e⟩
  .ok (ResolvedWrite.new pointId entry wireValue)

end

theorem lookupPoint_eq_ok_iff :
    lookupPoint manager pointId = .ok entry ↔ manager.getPointEntry pointId = some entry := by
  rw [lookupPoint]
  cases manager.getPointEntry pointId with
  | none | some found => simp

theorem checkAccessMode_eq_ok_iff : checkAccessMode m = .ok () ↔ m.writable = true := by
  rw [checkAccessMode]
  split_ifs with h <;> simp [h]

theorem checkDatatype_eq_ok_iff :
    checkDatatype m value = .ok () ↔ value.dataType = m.logicalDataType := by
  rw [checkDatatype, validateDatatype]
  split_ifs with h <;> simpa using h

theorem checkConnected_eq_ok_iff :
    checkConnected manager channelId = .ok () ↔ manager.isChannelConnected channelId = true := by
  rw [checkConnected]
  split_ifs with h <;> simp [h]

theorem resolveWrite_eq_ok_iff :
    resolveWrite codec manager pointId value = .ok resolved ↔
      ∃ entry w, manager.getPointEntry pointId = some entry ∧ entry.pointMeta.writable = true ∧
        value.dataType = entry.pointMeta.logicalDataType ∧
        checkRange codec entry.pointMeta value = .ok () ∧
        manager.isChannelConnected entry.pointMeta.channelId = true ∧
        toWire codec entry value = .ok w ∧ resolved = ResolvedWrite.new pointId entry w := by
  constructor
  · intro h
    obtain ⟨entry, hentry, h⟩ := bind_eq_ok_iff.mp h
    obtain ⟨⟨⟩, haccess, h⟩ := bind_eq_ok_iff.mp h
    obtain ⟨⟨⟩, htype, h⟩ := bind_eq_ok_iff.mp h
    obtain ⟨⟨⟩, hrange, h⟩ := bind_eq_ok_iff.mp h
    obtain ⟨⟨⟩, hconn, h⟩ := bind_eq_ok_iff.mp h
    obtain ⟨w, hw, h⟩ := bind_eq_ok_iff.mp h
    cases h
    exact ⟨entry, w, lookupPoint_eq_ok_iff.mp hentry, checkAccessMode_eq_ok_iff.mp haccess,
      checkDatatype_eq_ok_iff.mp htype, hrange, checkConnected_eq_ok_iff.mp hconn,
      mapError_eq_ok_iff.mp hw, rfl⟩
  · rintro ⟨entry, w, hentry, haccess, htype, hrange, hconn, hw, rfl⟩
    refine bind_eq_ok_iff.mpr ⟨entry, lookupPoint_eq_ok_iff.mpr hentry, ?_⟩
    refine bind_eq_ok_iff.mpr ⟨(), checkAccessMode_eq_ok_iff.mpr haccess, ?_⟩
    refine bind_eq_ok_iff.mpr ⟨(), checkDatatype_eq_ok_iff.mpr htype, ?_⟩
    refine bind_eq_ok_iff.mpr ⟨(), hrange, ?_⟩
    refine bind_eq_ok_iff.mpr ⟨(), checkConnected_eq_ok_iff.mpr hconn, ?_⟩
    exact bind_eq_ok_iff.mpr ⟨w, mapError_eq_ok_iff.mpr hw, rfl⟩

def Denotes (codec : CodecRuntime) (entry : PointEntry) (w v : NGValue) : Prop :=
  wireToLogicalValue codec w entry.point.wireDataType entry.pointMeta.logicalDataType
    entry.point.transform = .ok v

def ReadsBack (codec : CodecRuntime) (entry : PointEntry) (v : NGValue) : Prop :=
  ∀ w, toWire codec entry v = .ok w → Denotes codec entry w v

/-- The message gives a write event whose value passes the point's type check, and what the driver
gets for it denotes `v`. -/
def DeliversWrite (rt : Runtime) (codec : CodecRuntime) (manager : SouthwardManager)
    (msg : DownlinkMessageMeta) (bytes : List UInt8) (config : DownlinkPayloadConfig)
    (entry : PointEntry) (v : NGValue) : Prop :=
  ∃ w, decodeEvent rt ⟨.writePoint, config⟩ msg bytes = .ok (some (.writePoint w)) ∧
    checkDatatype entry.pointMeta w.value = .ok () ∧
    ∀ resolved, resolveWrite codec manager w.pointId w.value = .ok resolved →
      Denotes codec entry resolved.wireValue v

theorem readsBack_of_identity (hlogical : v.dataType = entry.pointMeta.logicalDataType)
    (hfloat : isFloat v.dataType = false) (ht : entry.pointMeta.transform.isIdentityNumeric)
    (hwire : isFloat entry.pointMeta.dataType = false) : ReadsBack codec entry v := by
  intro w hw
  rw [entry.transform_eq] at ht
  rw [entry.dataType_eq] at hwire
  rw [toWire, ← hlogical] at hw
  rw [Denotes, ← hlogical]
  exact wireToLogicalValue_logicalToWireValue ht hfloat hwire hw

theorem resolved_denotes_iff (hentry : manager.getPointEntry pointId = some entry)
    (hwritable : entry.pointMeta.writable = true)
    (htype : v.dataType = entry.pointMeta.logicalDataType)
    (hlimits : checkRange codec entry.pointMeta v = .ok ()) :
    (∀ resolved, resolveWrite codec manager pointId v = .ok resolved →
        Denotes codec entry resolved.wireValue v) ↔
      (manager.isChannelConnected entry.pointMeta.channelId = true → ReadsBack codec entry v) := by
  constructor
  · intro h hconn w hw
    exact h (ResolvedWrite.new pointId entry w) (resolveWrite_eq_ok_iff.mpr
      ⟨entry, w, hentry, hwritable, htype, hlimits, hconn, hw, rfl⟩)
  · intro h resolved hresolved
    obtain ⟨entry', w, hentry', -, -, -, hconn, hw, rfl⟩ := resolveWrite_eq_ok_iff.mp hresolved
    rw [hentry] at hentry'
    cases hentry'
    exact h hconn w hw

/-- A message with the JSON of `v` delivers `v` iff JSON gives `v` back and the codec reads the wire
value of `v` as `v`, which is so without a numeric transform and with a wire type other than a
float. -/
theorem deliversWrite_iff (rt : Runtime) (codec : CodecRuntime) (readF32 : UInt32 → UInt64)
    (manager : SouthwardManager) (msg : DownlinkMessageMeta) (bytes : List UInt8)
    (config : DownlinkPayloadConfig) (pointId : Int32) (entry : PointEntry) (v : NGValue)
    (hentry : manager.getPointEntry pointId = some entry)
    (hwritable : entry.pointMeta.writable = true)
    (htype : v.dataType = entry.pointMeta.logicalDataType) (hfloat : isFloat v.dataType = false)
    (hlimits : checkRange codec entry.pointMeta v = .ok ())
    (hcarries : CarriesWrite rt msg bytes pointId (serialize readF32 v) config) :
    (DeliversWrite rt codec manager msg bytes config entry v ↔
        SurvivesJson v ∧ (manager.isChannelConnected entry.pointMeta.channelId = true →
          ReadsBack codec entry v)) ∧
      (entry.pointMeta.transform.isIdentityNumeric → isFloat entry.pointMeta.dataType = false →
        (DeliversWrite rt codec manager msg bytes config entry v ↔ SurvivesJson v)) := by
  obtain ⟨u, hu, hsame, hsurvives⟩ := exists_deserialize readF32 hfloat
  obtain ⟨w, hdec, hpoint, hval⟩ := decodeEvent_of_carriesWrite hcarries hu
  have hiff : DeliversWrite rt codec manager msg bytes config entry v ↔
      SurvivesJson v ∧ (manager.isChannelConnected entry.pointMeta.channelId = true →
        ReadsBack codec entry v) := by
    constructor
    · rintro ⟨w', hdec', hcheck, hdriver⟩
      rw [hdec] at hdec'
      cases hdec'
      rw [hval, checkDatatype_eq_ok_iff, ← htype] at hcheck
      have hv := hsurvives hcheck
      rw [hpoint, hval, hsame hv] at hdriver
      exact ⟨hv, (resolved_denotes_iff hentry hwritable htype hlimits).mp hdriver⟩
    · rintro ⟨hv, hreads⟩
      rw [hsame hv] at hval
      refine ⟨w, hdec, ?_, ?_⟩
      · rw [hval, checkDatatype_eq_ok_iff]
        exact htype
      · rw [hpoint, hval]
        exact (resolved_denotes_iff hentry hwritable htype hlimits).mpr hreads
  refine ⟨hiff, fun ht hwire => ?_⟩
  rw [hiff]
  exact and_iff_left fun _ => readsBack_of_identity htype hfloat ht hwire

def sampleExprs : MappingRuntime where
  compileExpr := fun name => .ok fun input => .ok (lastOf input.entries name)
  trim := id

def sampleRuntime (text : String) (doc : Json) : Runtime where
  toMappingRuntime := sampleExprs
  fromSlice := fun bytes => if bytes = text.toUTF8.toList then .ok doc else .error "expected value"
  errorText := fun _ => ""
  parseDateTime := fun _ => .ok 0
  pointer := fun _ _ => none
  floatText := fun _ => ""
  decodeData := fun _ _ => .ok ()

def sampleCodec : CodecRuntime where
  ops := noFloats
  sub := fun _ _ => 0
  lt := fun _ _ => false
  parseF64 := fun s => .error (.parseError "f64" s)
  debugF64 := fun _ => ""
  debugValue := fun _ => ""
  other :=
    { toBool := fun _ => .error .notFinite, toInteger := fun _ _ => .error .notFinite
      toF32 := fun _ => .error .notFinite, toF64 := fun _ => .error .notFinite }

def samplePoint (dataType : DataType) : RuntimePoint :=
  ⟨7, "p7", dataType, .readWrite, none, none, .default⟩

def sampleDevice : RuntimeDevice := ⟨3, 2, "d3"⟩

def sampleManager (dataType : DataType) : SouthwardManager :=
  SouthwardManager.upsertPoint ⟨.empty, AssocMap.empty.insert 2 true⟩ sampleDevice
    (samplePoint dataType)

def sampleEntry (dataType : DataType) : PointEntry :=
  PointEntry.new sampleDevice (samplePoint dataType)

def sampleRequest (json : Json) : Json :=
  .object [("request_id", .string "r1"), ("point_id", .number (.posInt 7)), ("value", json),
    ("timestamp", .string "2025-01-01T00:00:00Z")]

def sampleFields (json : Json) : WritePointFields :=
  ⟨.string "r1", .number (.posInt 7), json, .string "2025-01-01T00:00:00Z", none⟩

def sampleEnvelope (json : Json) : Json :=
  .object [("schema_version", .number (.posInt 1)),
    ("event", .object [("kind", .string "write_point")]),
    ("payload", .object [("data", sampleRequest json)])]

theorem carriesWrite_envelope (text : String) (json : Json) :
    CarriesWrite (sampleRuntime text (sampleEnvelope json)) ⟨none, none⟩ text.toUTF8.toList 7 json
      .envelopeJson :=
  .envelope (if_pos rfl) rfl rfl rfl
    ⟨sampleFields json, "r1", 0, none, rfl, rfl, rfl, rfl, rfl, rfl⟩

def sampleRules : List (String × String) :=
  [("point_id", "point_id"), ("request_id", "request_id"), ("timestamp", "timestamp"),
    ("value", "value")]

def sampleOutput (json : Json) : Json :=
  .object [("point_id", .number (.posInt 7)), ("request_id", .string "r1"),
    ("timestamp", .string "2025-01-01T00:00:00Z"), ("value", json)]

theorem applyMapping_sample (text : String) (json : Json) :
    applyMapping (sampleRuntime text (sampleRequest json)) sampleRules (sampleRequest json) =
      .ok (sampleOutput json) := by
  change (CompiledMappedJson.compile sampleExprs _ >>= _) = _
  rfl

theorem carriesWrite_mapped (text : String) (json : Json) :
    CarriesWrite (sampleRuntime text (sampleRequest json)) ⟨none, none⟩ text.toUTF8.toList 7 json
      (.mappedJson sampleRules .none) :=
  .mapped (if_pos rfl) rfl (applyMapping_sample text json)
    ⟨sampleFields json, "r1", 0, none, rfl, rfl, rfl, rfl, rfl, rfl⟩

def requestText : String :=
  "\x7b\"request_id\":\"r1\",\"point_id\":7,\"value\":5,\"timestamp\":\"2025-01-01T00:00:00Z\"\x7d"

def envelopeText : String :=
  "\x7b\"schema_version\":1,\"event\":\x7b\"kind\":\"write_point\"\x7d,\"payload\":\x7b\"data\":" ++
    requestText ++ "\x7d\x7d"

theorem deliversWrite_int64 :
    DeliversWrite (sampleRuntime envelopeText (sampleEnvelope (serialize (fun _ => 0) (.int64 5))))
      sampleCodec (sampleManager .int64) ⟨none, none⟩ envelopeText.toUTF8.toList .envelopeJson
      (sampleEntry .int64) (.int64 5) :=
  ((deliversWrite_iff _ sampleCodec (fun _ => 0) (sampleManager .int64) ⟨none, none⟩ _
    .envelopeJson 7 (sampleEntry .int64) (.int64 5) rfl rfl rfl rfl rfl
    (carriesWrite_envelope envelopeText _)).2 rfl rfl).2 trivial

def fiveJson : Json := serialize (fun _ => 0) (.uint16 5)

def enveloped : Runtime := sampleRuntime envelopeText (sampleEnvelope fiveJson)

def mapped : Runtime := sampleRuntime requestText (sampleRequest fiveJson)

/-- Five, written to a `UInt16` point, is read as an `Int64` and refused, in an envelope and through
a mapping. -/
theorem uint16_write_refused :
    (CarriesWrite enveloped ⟨none, none⟩ envelopeText.toUTF8.toList 7 fiveJson .envelopeJson ∧
      ¬DeliversWrite enveloped sampleCodec (sampleManager .uint16) ⟨none, none⟩
        envelopeText.toUTF8.toList .envelopeJson (sampleEntry .uint16) (.uint16 5)) ∧
    (CarriesWrite mapped ⟨none, none⟩ requestText.toUTF8.toList 7 fiveJson
        (.mappedJson sampleRules .none) ∧
      ¬DeliversWrite mapped sampleCodec (sampleManager .uint16) ⟨none, none⟩
        requestText.toUTF8.toList (.mappedJson sampleRules .none) (sampleEntry .uint16)
        (.uint16 5)) ∧
    (sampleManager .uint16).getPointEntry 7 = some (sampleEntry .uint16) ∧
    decodeEvent enveloped ⟨.writePoint, .envelopeJson⟩ ⟨none, none⟩ envelopeText.toUTF8.toList =
      .ok (some (.writePoint ⟨"r1", 7, .int64 5, 0, none⟩)) ∧
    resolveWrite sampleCodec (sampleManager .uint16) 7 (.int64 5) =
      .error ⟨.typeMismatch, "type mismatch: expected UInt16, got Int64"⟩ := by
  have hrefused : ∀ {rt : Runtime} {bytes : List UInt8} {config : DownlinkPayloadConfig},
      CarriesWrite rt ⟨none, none⟩ bytes 7 fiveJson config →
      ¬DeliversWrite rt sampleCodec (sampleManager .uint16) ⟨none, none⟩ bytes
        config (sampleEntry .uint16) (.uint16 5) := by
    intro rt bytes config hcarries
    obtain ⟨w, hdec, -, hval⟩ := decodeEvent_of_carriesWrite (v := .int64 5) hcarries rfl
    rintro ⟨w', hdec', hcheck, -⟩
    rw [hdec] at hdec'
    cases hdec'
    rw [hval] at hcheck
    cases hcheck
  have henvelope := carriesWrite_envelope envelopeText fiveJson
  have hmapped := carriesWrite_mapped requestText fiveJson
  have hdoc : enveloped.fromSlice envelopeText.toUTF8.toList = .ok (sampleEnvelope fiveJson) :=
    if_pos rfl
  refine ⟨⟨henvelope, hrefused henvelope⟩, ⟨hmapped, hrefused hmapped⟩, rfl, ?_, rfl⟩
  rw [decodeEvent, decodeDownlinkEnvelope, hdoc]
  rfl

end NgGateway.ResolveWrite
