import NgGateway.Binary64
import NgGateway.JsonScalars
import NgGateway.SouthwardIndex

/-!
The two ways of a write to a driver: `write_point` with a JSON value, and a `WritePoint` event with
a typed one. The range is checked only when both limits are set.
-/

namespace NgGateway.BoundedWrites

open Binary64 (IsInteger isInteger_ofInt lt_iff_of_isInteger exponentOf)
open DownlinkCodec FallibleLoops FiniteMaps JsonDocuments JsonScalars NGValueJson ResolveWrite
open SouthwardIndex (DeviceConfig DeviceInstance)
open Value ValueCasts ValueCodec

structure WriteRuntime where
  manager : SouthwardManager
  devicePoints : AssocMap Int32 (List RuntimePoint)
  devices : AssocMap Int32 DeviceInstance

def WriteRuntime.getDevicePoints (runtime : WriteRuntime) (deviceId : Int32) :
    List RuntimePoint :=
  (runtime.devicePoints.lookup deviceId).getD []

structure DriverCall where
  driver : Nat
  device : DeviceConfig
  point : RuntimePoint
  wireValue : NGValue

/-- `execute_write` up to the call. `gate` is how the wait for the channel's permit ends. -/
def executeWrite (runtime : WriteRuntime) (gate : Except WritePointError Unit)
    (resolved : ResolvedWrite) : Except WritePointError DriverCall := do
  gate
  match runtime.devices.lookup resolved.deviceId with
  | some device => .ok ⟨device.driver, device.config, resolved.point, resolved.wireValue⟩
  | none =>
    .error ⟨.notFound, "device " ++ toString resolved.deviceId.toInt ++ " not found in runtime"⟩

inductive WriteRequest where
  | api (deviceId : Int32) (pointKey : String) (value : Json)
  | event (pointId : Int32) (value : NGValue)

section

variable (codec : CodecRuntime) (scalars : ScalarRuntime) (runtime : WriteRuntime)
  (gate : Except WritePointError Unit)

def handleWritePoint (pointId : Int32) (value : NGValue) : Except WritePointError DriverCall := do
  let resolved ← resolveWrite codec runtime.manager pointId value
  executeWrite runtime gate resolved

def findPoint (deviceId : Int32) (pointKey : String) : Except String RuntimePoint :=
  match (runtime.getDevicePoints deviceId).find? fun p => p.key = pointKey with
  | some point => .ok point
  | none =>
    .error ("point '" ++ pointKey ++ "' not found on device " ++ toString deviceId.toInt)

def findEntry (pointId : Int32) : Except String PointEntry :=
  match runtime.manager.getPointEntry pointId with
  | some entry => .ok entry
  | none => .error ("point entry " ++ toString pointId.toInt ++ " not found in runtime index")

def readScalar (debugJson : Json → String) (expected : DataType) (value : Json) :
    Except String NGValue :=
  match tryFromJsonScalar scalars expected value with
  | some v => .ok v
  | none => .error ("cannot convert JSON value to " ++ expected.debug ++ ": " ++ debugJson value)

def writePoint (debugJson : Json → String) (deviceId : Int32) (pointKey : String) (value : Json) :
    Except String DriverCall := do
  let point ← findPoint runtime deviceId pointKey
  let entry ← findEntry runtime point.id
  let ngValue ← readScalar scalars debugJson entry.pointMeta.logicalDataType value
  (handleWritePoint codec runtime gate point.id ngValue).mapError WritePointError.message

def WriteRequest.call? (debugJson : Json → String) : WriteRequest → Option DriverCall
  | .api deviceId pointKey value =>
    (writePoint codec scalars runtime gate debugJson deviceId pointKey value).toOption
  | .event pointId value => (handleWritePoint codec runtime gate pointId value).toOption

/-- What the way to the driver asks of a value, and the call it ends with. -/
structure Reaches (entry : PointEntry) (value : NGValue) (call : DriverCall) : Prop where
  writable : entry.pointMeta.writable = true
  type_eq : value.dataType = entry.pointMeta.logicalDataType
  range : checkRange codec entry.pointMeta value = .ok ()
  connected : runtime.manager.isChannelConnected entry.pointMeta.channelId = true
  converts : toWire codec entry value = .ok call.wireValue
  permit : gate = .ok ()
  device : ∃ device, runtime.devices.lookup entry.pointMeta.deviceId = some device ∧
    call = ⟨device.driver, device.config, entry.point, call.wireValue⟩

end

def isInteger (dataType : DataType) : Bool := isNumeric dataType && !isFloat dataType

def ieee (codec : CodecRuntime) : CodecRuntime :=
  { codec with ops := { codec.ops with ofInt := Binary64.ofInt }, lt := Binary64.lt }

def IsLimit : Option UInt64 → Option Int → Prop
  | some bits, some n => IsInteger bits n
  | none, none => True
  | _, _ => False

structure IntegerPoint (entry : PointEntry) (lo hi : Option Int) : Prop where
  identity : entry.pointMeta.transform.isIdentityNumeric
  wire : isInteger entry.point.wireDataType
  min : IsLimit entry.pointMeta.minValue lo
  max : IsLimit entry.pointMeta.maxValue hi

def WriteRequest.Carries (runtime : WriteRuntime) (entry : PointEntry) (v : Int) :
    WriteRequest → Prop
  | .api deviceId pointKey value =>
    isInteger entry.pointMeta.logicalDataType ∧
      (∃ number, value = .number number ∧ number.integer? = some v) ∧
      ∃ point, (runtime.getDevicePoints deviceId).find? (fun p => p.key = pointKey) =
          some point ∧ runtime.manager.getPointEntry point.id = some entry
  | .event pointId value =>
    isInteger value.dataType ∧ integerOf? value = some v ∧
      runtime.manager.getPointEntry pointId = some entry

def WriteRequest.logicalValue? (scalars : ScalarRuntime) (entry : PointEntry) :
    WriteRequest → Option NGValue
  | .api _ _ value => tryFromJsonScalar scalars entry.pointMeta.logicalDataType value
  | .event _ value => some value

structure SafeCall (entry : PointEntry) (value : Option NGValue) (lo hi : Option Int) (v : Int)
    (call : DriverCall) : Prop where
  writable : entry.pointMeta.writable = true
  type_eq : value.map NGValue.dataType = some entry.pointMeta.logicalDataType
  min_le : ∀ n, lo = some n → n ≤ v
  le_max : ∀ n, hi = some n → v ≤ n
  wire : call.wireValue.dataType = entry.point.wireDataType ∧ integerOf? call.wireValue = some v

def MeetsLoneLimit (v : Int) : Option Int → Option Int → Prop
  | some lo, none => lo ≤ v
  | none, some hi => v ≤ hi
  | _, _ => True

theorem isFiniteF64_of_exponentOf (h : exponentOf bits ≠ 2047) : isFiniteF64 bits = true := by
  rw [isFiniteF64, decide_eq_true_eq]
  intro heq
  have hnat := congrArg UInt64.toNat heq
  change bits.toNat >>> 52 &&& (2 ^ 11 - 1) = 2047 at hnat
  rw [Nat.and_two_pow_sub_one_eq_mod, Nat.shiftRight_eq_div_pow] at hnat
  exact h hnat

theorem tryF64_of_integer (hv : integerOf? value = some v) (hsmall : v.natAbs < 2 ^ 53) :
    tryF64 (ieee codec) value = .ok (Binary64.ofInt v) := by
  have hf64 : f64Of (ieee codec) value = .ok (Binary64.ofInt v) := by
    simp only [f64Of, hv]
    rfl
  rw [tryF64, hf64]
  exact if_pos (isFiniteF64_of_exponentOf (isInteger_ofInt hsmall).finite)

theorem checkRange_eq_ok_iff (hv : integerOf? value = some v)
    (hsmall : v.natAbs < 2 ^ 53) (hmin : IsLimit m.minValue lo) (hmax : IsLimit m.maxValue hi) :
    checkRange (ieee codec) m value = .ok () ↔
      ∀ l h, lo = some l → hi = some h → l ≤ v ∧ v ≤ h := by
  have hint := isInteger_ofInt hsmall
  rw [checkRange, tryF64_of_integer hv hsmall]
  generalize m.minValue = min at hmin
  generalize m.maxValue = max at hmax
  match min, lo, hmin, max, hi, hmax with
  | none, none, _, _, _, _ => simp
  | some _, some _, _, none, none, _ => simp
  | some minBits, some l, hmin, some maxBits, some h, hmax =>
    have hlow := lt_iff_of_isInteger hint hmin
    have hhigh := lt_iff_of_isInteger hmax hint
    have hout : ((ieee codec).lt (Binary64.ofInt v) minBits ||
        (ieee codec).lt maxBits (Binary64.ofInt v)) = true ↔ v < l ∨ h < v :=
      Bool.or_eq_true_iff.trans (or_congr hlow hhigh)
    simp only [hout]
    split_ifs with hrange
    · refine iff_of_false (by simp) fun hall => ?_
      have hwithin := hall l h rfl rfl
      omega
    · refine iff_of_true rfl ?_
      rintro _ _ ⟨⟩ ⟨⟩
      omega

theorem handleWritePoint_eq_ok_iff (hentry : runtime.manager.getPointEntry pointId = some entry) :
    handleWritePoint codec runtime gate pointId value = .ok call ↔
      Reaches codec runtime gate entry value call := by
  constructor
  · intro h
    obtain ⟨resolved, hresolved, h⟩ := bind_eq_ok_iff.mp h
    obtain ⟨⟨⟩, hgate, h⟩ := bind_eq_ok_iff.mp h
    obtain ⟨entry', w, hentry', hwritable, htype, hrange, hconn, hw, rfl⟩ :=
      resolveWrite_eq_ok_iff.mp hresolved
    rw [hentry] at hentry'
    cases hentry'
    cases hdev : runtime.devices.lookup entry.pointMeta.deviceId with
    | none =>
      rw [ResolvedWrite.new, hdev] at h
      cases h
    | some device =>
      rw [ResolvedWrite.new, hdev] at h
      cases h
      exact ⟨hwritable, htype, hrange, hconn, hw, hgate, device, hdev, rfl⟩
  · rintro ⟨hwritable, htype, hrange, hconn, hw, hgate, device, hdev, hcall⟩
    refine bind_eq_ok_iff.mpr ⟨_, resolveWrite_eq_ok_iff.mpr
      ⟨entry, _, hentry, hwritable, htype, hrange, hconn, hw, rfl⟩, ?_⟩
    refine bind_eq_ok_iff.mpr ⟨(), hgate, ?_⟩
    rw [ResolvedWrite.new, hdev]
    exact congrArg Except.ok hcall.symm

theorem integerOf?_toWire (hpoint : IntegerPoint entry lo hi) (hv : integerOf? value = some v)
    (htype : value.dataType = entry.pointMeta.logicalDataType) (hint : isInteger value.dataType)
    (h : toWire codec entry value = .ok w) :
    w.dataType = entry.point.wireDataType ∧ integerOf? w = some v := by
  have hidentity := hpoint.identity
  have hwire := hpoint.wire
  rw [isInteger, Bool.and_eq_true, Bool.not_eq_true'] at hwire hint
  rw [entry.transform_eq] at hidentity
  rw [toWire, ← htype, logicalToWireValue, if_neg (by simp [validateDatatype])] at h
  by_cases hsame : value.dataType = entry.point.wireDataType
  · rw [if_pos ⟨hsame, hidentity⟩] at h
    cases h
    exact ⟨hsame, hv⟩
  · rw [if_neg fun hand => hsame hand.1, if_neg (by simp [hint.1, hwire.1]),
      if_pos hidentity] at h
    exact integerOf?_numericIdentity hv hsame hwire.2 h

theorem safeCall_iff (hpoint : IntegerPoint entry lo hi)
    (hvalue : isInteger value.dataType ∧ integerOf? value = some v) (hsmall : v.natAbs < 2 ^ 53)
    (hreach : Reaches (ieee codec) runtime gate entry value call) :
    SafeCall entry (some value) lo hi v call ↔ MeetsLoneLimit v lo hi := by
  obtain ⟨hint, hv⟩ := hvalue
  have hrange := (checkRange_eq_ok_iff hv hsmall hpoint.min hpoint.max).mp hreach.range
  constructor
  · intro hsafe
    match lo, hi, hsafe with
    | none, none, _ => trivial
    | none, some h, hsafe => exact hsafe.le_max h rfl
    | some l, none, hsafe => exact hsafe.min_le l rfl
    | some _, some _, _ => trivial
  · intro hlone
    refine ⟨hreach.writable, congrArg some hreach.type_eq, ?_, ?_,
      integerOf?_toWire hpoint hv hreach.type_eq hint hreach.converts⟩
    · rintro l rfl
      cases hi with
      | none => exact hlone
      | some h => exact (hrange l h rfl rfl).1
    · rintro h rfl
      cases lo with
      | none => exact hlone
      | some l => exact (hrange l h rfl rfl).2

theorem mem_call?_api
    (hpoint : (runtime.getDevicePoints deviceId).find? (fun p => p.key = pointKey) = some point)
    (hentry : runtime.manager.getPointEntry point.id = some entry) :
    (WriteRequest.api deviceId pointKey json).call? codec scalars runtime gate debugJson =
        some call ↔
      ∃ value, tryFromJsonScalar scalars entry.pointMeta.logicalDataType json = some value ∧
        handleWritePoint codec runtime gate point.id value = .ok call := by
  have hfind : findPoint runtime deviceId pointKey = .ok point := by rw [findPoint, hpoint]
  have hfound : findEntry runtime point.id = .ok entry := by rw [findEntry, hentry]
  rw [WriteRequest.call?, toOption_eq_some_iff]
  constructor
  · intro h
    obtain ⟨_, hpoint', h⟩ := bind_eq_ok_iff.mp h
    rw [hfind] at hpoint'
    cases hpoint'
    obtain ⟨_, hentry', h⟩ := bind_eq_ok_iff.mp h
    rw [hfound] at hentry'
    cases hentry'
    obtain ⟨value, hval, h⟩ := bind_eq_ok_iff.mp h
    refine ⟨value, ?_, mapError_eq_ok_iff.mp h⟩
    rw [readScalar] at hval
    cases hread : tryFromJsonScalar scalars entry.pointMeta.logicalDataType json with
    | none =>
      rw [hread] at hval
      cases hval
    | some read =>
      rw [hread] at hval
      cases hval
      rfl
  · rintro ⟨value, hval, h⟩
    refine bind_eq_ok_iff.mpr ⟨point, hfind, ?_⟩
    refine bind_eq_ok_iff.mpr ⟨entry, hfound, ?_⟩
    refine bind_eq_ok_iff.mpr ⟨value, ?_, mapError_eq_ok_iff.mpr h⟩
    rw [readScalar, hval]

/-- For an integer write over either route, every call of the driver is safe exactly if a value
that reaches the driver meets a limit that stands alone. -/
theorem calls_safe_iff (codec : CodecRuntime) (scalars : ScalarRuntime) (runtime : WriteRuntime)
    (gate : Except WritePointError Unit) (debugJson : Json → String) (request : WriteRequest)
    (entry : PointEntry) (lo hi : Option Int) (v : Int) (hpoint : IntegerPoint entry lo hi)
    (hcarries : request.Carries runtime entry v) (hsmall : v.natAbs < 2 ^ 53) :
    (∀ call, request.call? (ieee codec) scalars runtime gate debugJson = some call →
        SafeCall entry (request.logicalValue? scalars entry) lo hi v call) ↔
      ∀ value call, request.logicalValue? scalars entry = some value →
        Reaches (ieee codec) runtime gate entry value call → MeetsLoneLimit v lo hi := by
  obtain ⟨hcalls, hvalue⟩ :
      (∀ call, request.call? (ieee codec) scalars runtime gate debugJson = some call ↔
        ∃ value, request.logicalValue? scalars entry = some value ∧
          Reaches (ieee codec) runtime gate entry value call) ∧
      ∀ value, request.logicalValue? scalars entry = some value →
        isInteger value.dataType ∧ integerOf? value = some v := by
    cases request with
    | api deviceId pointKey json =>
      obtain ⟨hlogical, ⟨number, rfl, hnum⟩, point, hfind, hentry⟩ := hcarries
      refine ⟨fun call => ?_, fun value hval => ?_⟩
      · exact (mem_call?_api hfind hentry).trans
          (exists_congr fun _ => and_congr_right' (handleWritePoint_eq_ok_iff hentry))
      · exact ⟨dataType_of_json hval ▸ hlogical, integerOf?_of_json hlogical hnum hval⟩
    | event pointId value =>
      obtain ⟨hint, hv, hentry⟩ := hcarries
      refine ⟨fun call => ?_, ?_⟩
      · rw [WriteRequest.call?, toOption_eq_some_iff, handleWritePoint_eq_ok_iff hentry]
        simp [WriteRequest.logicalValue?]
      · rintro _ ⟨⟩
        exact ⟨hint, hv⟩
  constructor
  · intro hall value call hval hreach
    have hsafe := hall call ((hcalls call).mpr ⟨value, hval, hreach⟩)
    rw [hval] at hsafe
    exact (safeCall_iff hpoint (hvalue value hval) hsmall hreach).mp hsafe
  · intro hlone call hcall
    obtain ⟨value, hval, hreach⟩ := (hcalls call).mp hcall
    rw [hval]
    exact (safeCall_iff hpoint (hvalue value hval) hsmall hreach).mpr
      (hlone value call hval hreach)

/-- A setpoint that must not be negative, without an upper limit. -/
def setpoint : RuntimePoint := ⟨7, "setpoint", .int16, .readWrite, some 0, none, .default⟩

def setpointRuntime : WriteRuntime where
  manager := SouthwardManager.upsertPoint ⟨.empty, AssocMap.empty.insert 2 true⟩ sampleDevice
    setpoint
  devicePoints := AssocMap.empty.insert 3 [setpoint]
  devices := AssocMap.empty.insert 3 ⟨⟨sampleDevice, "pump", .enabled⟩, .enabled, 1⟩

def setpointEntry : PointEntry := PointEntry.new sampleDevice setpoint

theorem integerPoint_setpoint : IntegerPoint setpointEntry (some 0) none :=
  ⟨rfl, rfl, ⟨by decide, (by decide : Binary64.units 0 = 0).trans (Int.zero_mul _).symm⟩, trivial⟩

def setpointCall? (request : WriteRequest) : Option DriverCall :=
  request.call? (ieee sampleCodec) bareRuntime setpointRuntime (.ok ()) fun _ => ""

/-- A write within the limit, over the API. -/
theorem setpoint_written_safely :
    let request := .api 3 "setpoint" (.number (.posInt 5))
    (setpointCall? request).isSome ∧ ∀ call, setpointCall? request = some call →
      SafeCall setpointEntry (some (.int16 5)) (some 0) none 5 call := by
  intro request
  exact ⟨rfl, (calls_safe_iff _ _ setpointRuntime _ _ request setpointEntry _ _ 5
    integerPoint_setpoint ⟨rfl, ⟨_, rfl, rfl⟩, setpoint, rfl, rfl⟩ (by decide)).mpr fun _ _ _ _ =>
      (by decide : (0 : Int) ≤ 5)⟩

/-- A negative setpoint is handed to the driver, from JSON and from an event. -/
theorem negative_setpoint_written :
    IntegerPoint setpointEntry (some 0) none ∧
      (setpointCall? (.api 3 "setpoint" (.number (.negInt (-5))))).map DriverCall.wireValue =
        some (.int16 (-5)) ∧
      (setpointCall? (.event 7 (.int16 (-5)))).map DriverCall.wireValue = some (.int16 (-5)) ∧
      ∀ value call, ¬SafeCall setpointEntry value (some 0) none (-5) call :=
  ⟨integerPoint_setpoint, rfl, rfl, fun _ _ hsafe => absurd (hsafe.min_le 0 rfl) (by decide)⟩

end NgGateway.BoundedWrites
