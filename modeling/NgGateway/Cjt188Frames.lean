import Mathlib.Data.UInt

namespace NgGateway.Cjt188Frames

inductive Cjt188Version where
  | v2004 | v2018

inductive ProtocolError where
  | io (message : String)
  | frameTooShort (message : String)
  | invalidFrame (message : String)
  | checksumMismatch (expected calculated : UInt8)
  | semantic (message : String)
  | transport (message : String)
  | timeout (message : String)
  deriving DecidableEq

/-- `{:02X}`. -/
def hex2 (b : UInt8) : String :=
  let digit (n : Nat) : Char := Char.ofNat (if n < 10 then 48 + n else 55 + n)
  String.ofList [digit (b.toNat / 16), digit (b.toNat % 16)]

inductive DataIdentifier where
  | cumulativeFlow | heatPower | returnTemp | supplyTemp | workTime | time
  | priceTable | settlementDate | readingDate | purchaseAmount | newKey | standardTime
  | motorSync | valveControl | address | factoryEnable
  | enterVerification | exitVerification | writeCommParams | writeFreeze | writeAlarmVol
  | writeAlarmMoney | modifyKey
  | unknown
  deriving DecidableEq

def DataIdentifier.ofU16 (val : UInt16) : DataIdentifier :=
  match val with
  | 0x901F => .cumulativeFlow
  | 0x903F => .heatPower
  | 0x904F => .returnTemp
  | 0x905F => .supplyTemp
  | 0x906F => .workTime
  | 0x907F => .time
  | 0xA010 => .priceTable
  | 0xA011 => .settlementDate
  | 0xA012 => .readingDate
  | 0xA013 => .purchaseAmount
  | 0xA014 => .newKey
  | 0xA015 => .standardTime
  | 0xA016 => .motorSync
  | 0xA017 => .valveControl
  | 0xA018 => .address
  | 0xA019 => .factoryEnable
  | 0xA101 => .enterVerification
  | 0xA102 => .exitVerification
  | 0xA103 => .writeCommParams
  | 0xA104 => .writeFreeze
  | 0xA105 => .writeAlarmVol
  | 0xA106 => .writeAlarmMoney
  | 0xA107 => .modifyKey
  | _ => .unknown

def DataIdentifier.toU16 : DataIdentifier → UInt16
  | .cumulativeFlow => 0x901F
  | .heatPower => 0x903F
  | .returnTemp => 0x904F
  | .supplyTemp => 0x905F
  | .workTime => 0x906F
  | .time => 0x907F
  | .priceTable => 0xA010
  | .settlementDate => 0xA011
  | .readingDate => 0xA012
  | .purchaseAmount => 0xA013
  | .newKey => 0xA014
  | .standardTime => 0xA015
  | .motorSync => 0xA016
  | .valveControl => 0xA017
  | .address => 0xA018
  | .factoryEnable => 0xA019
  | .enterVerification => 0xA101
  | .exitVerification => 0xA102
  | .writeCommParams => 0xA103
  | .writeFreeze => 0xA104
  | .writeAlarmVol => 0xA105
  | .writeAlarmMoney => 0xA106
  | .modifyKey => 0xA107
  | .unknown => 0xFFFF

inductive FunctionCode where
  | reserved | readData | readAddr | writeData | writeAddr | writeMotorSync | unknown
  deriving DecidableEq

def FunctionCode.fromBits (bits : UInt8) : FunctionCode :=
  match bits &&& 0x1F with
  | 0x00 => .reserved
  | 0x01 => .readData
  | 0x03 => .readAddr
  | 0x04 => .writeData
  | 0x15 => .writeAddr
  | 0x16 => .writeMotorSync
  | _ => .unknown

def FunctionCode.toBits : FunctionCode → UInt8
  | .reserved => 0x00
  | .readData => 0x01
  | .readAddr => 0x03
  | .writeData => 0x04
  | .writeAddr => 0x15
  | .writeMotorSync => 0x16
  | .unknown => 0x00

inductive MeterTypeFamily where
  | water | heat | gas | custom

structure MeterType where
  code : UInt8
  deriving DecidableEq

structure Cjt188Address where
  bytes : List UInt8
  size : bytes.length = 7
  deriving DecidableEq

def Cjt188Address.low (b : UInt8) : Cjt188Address := ⟨[b, 0, 0, 0, 0, 0, 0], rfl⟩

def Cjt188Address.fromBytes (bytes : List UInt8) : Except ProtocolError Cjt188Address :=
  if h : 7 ≤ bytes.length then .ok ⟨bytes.take 7, by simp [h]⟩
  else .error (.frameTooShort "address requires 7 bytes")

def Cjt188Address.broadcastAa : Cjt188Address := ⟨List.replicate 7 0xAA, rfl⟩

inductive Direction where
  | masterToSlave | slaveToMaster
  deriving DecidableEq

structure ControlWord where
  raw : UInt8
  deriving DecidableEq

def ControlWord.fromParts (dir : Direction) (error follow : Bool) (func : FunctionCode) :
    ControlWord :=
  let raw := func.toBits &&& 0x1F
  let raw := if dir = .slaveToMaster then raw ||| 0x80 else raw
  let raw := if error then raw ||| 0x40 else raw
  let raw := if follow then raw ||| 0x20 else raw
  ⟨raw⟩

def ControlWord.isError (control : ControlWord) : Bool := control.raw &&& 0x40 ≠ 0

def ControlWord.hasFollowUp (control : ControlWord) : Bool := control.raw &&& 0x20 ≠ 0

def ControlWord.functionCode (control : ControlWord) : FunctionCode :=
  FunctionCode.fromBits control.raw

inductive Cjt188Body where
  | raw (bytes : List UInt8)
  | readData (di : DataIdentifier) (serial : UInt8)
  | readDataResponse (di : DataIdentifier) (serial : UInt8) (valueBytes : List UInt8)
  | writeData (di : DataIdentifier) (serial : UInt8) (valueBytes : List UInt8)
  | writeDataResponse (di : DataIdentifier) (serial status : UInt8)
  | writeMotorSync (di : DataIdentifier) (serial : UInt8) (valueBytes : List UInt8)
  | writeMotorSyncResponse (di : DataIdentifier) (serial status : UInt8)
  | readAddr (di : DataIdentifier) (serial : UInt8)
  | readAddrResponse (di : DataIdentifier) (serial : UInt8) (address : Cjt188Address)
  | writeAddr (di : DataIdentifier) (serial : UInt8) (newAddress : Cjt188Address)
  | writeAddrResponse (di : DataIdentifier) (serial status : UInt8)
  | exceptionResponse (originalFunc : FunctionCode) (errorStatus : UInt8)
  deriving DecidableEq

def Cjt188Body.dataPayload : Cjt188Body → Option (List UInt8)
  | .raw bytes => some bytes
  | .readDataResponse _ _ valueBytes => some valueBytes
  | .readAddrResponse _ _ address => some address.bytes
  | _ => none

def putDi (version : Cjt188Version) (di : UInt16) : List UInt8 :=
  let hi := UInt8.ofNat (di.toNat / 256)
  let lo := UInt8.ofNat (di.toNat % 256)
  match version with
  | .v2004 => [hi, lo]
  | .v2018 => [lo, hi]

def getDi (version : Cjt188Version) (first second : UInt8) : UInt16 :=
  match version with
  | .v2004 => UInt16.ofNat (first.toNat * 256 + second.toNat)
  | .v2018 => UInt16.ofNat (second.toNat * 256 + first.toNat)

theorem getDi_putDi (version di) :
    ∃ first second, putDi version di = [first, second] ∧ getDi version first second = di := by
  have hlt := di.toNat_lt
  have hjoined : UInt16.ofNat ((UInt8.ofNat (di.toNat / 256)).toNat * 256 +
      (UInt8.ofNat (di.toNat % 256)).toNat) = di := by
    rw [UInt8.toNat_ofNat', UInt8.toNat_ofNat']
    have hsum : di.toNat / 256 % 2 ^ 8 * 256 + di.toNat % 256 % 2 ^ 8 = di.toNat := by omega
    rw [hsum, UInt16.ofNat_toNat]
  cases version with
  | v2004 | v2018 => exact ⟨_, _, rfl, hjoined⟩

def Cjt188Body.encodeTo (version : Cjt188Version) : Cjt188Body → List UInt8
  | .raw bytes => bytes
  | .readData di serial => putDi version di.toU16 ++ [serial]
  | .readDataResponse di serial valueBytes => putDi version di.toU16 ++ [serial] ++ valueBytes
  | .writeData di serial valueBytes => putDi version di.toU16 ++ [serial] ++ valueBytes
  | .writeDataResponse di serial status => putDi version di.toU16 ++ [serial, status]
  | .writeMotorSync di serial valueBytes => putDi version di.toU16 ++ [serial] ++ valueBytes
  | .writeMotorSyncResponse di serial status => putDi version di.toU16 ++ [serial, status]
  | .readAddr di serial => putDi version di.toU16 ++ [serial]
  | .readAddrResponse di serial address => putDi version di.toU16 ++ [serial] ++ address.bytes
  | .writeAddr di serial newAddress => putDi version di.toU16 ++ [serial] ++ newAddress.bytes
  | .writeAddrResponse di serial status => putDi version di.toU16 ++ [serial, status]
  | .exceptionResponse _ errorStatus => [errorStatus]

def Cjt188Body.parse (version : Cjt188Version) (func : FunctionCode) (isError : Bool)
    (input : List UInt8) : Except ProtocolError Cjt188Body :=
  if isError then
    match input with
    | [] => .error (.frameTooShort "Exception response missing status byte")
    | errorStatus :: _ => .ok (.exceptionResponse func errorStatus)
  else
    match func, input with
    | .readData, first :: second :: serial :: valueBytes =>
      .ok (.readDataResponse (DataIdentifier.ofU16 (getDi version first second)) serial valueBytes)
    | .readData, _ => .error (.frameTooShort "Body too short for ReadData Response")
    | .writeData, first :: second :: serial :: status :: _ =>
      .ok (.writeDataResponse (DataIdentifier.ofU16 (getDi version first second)) serial status)
    | .writeData, _ => .error (.frameTooShort "Body too short for WriteData Response")
    | .writeMotorSync, first :: second :: serial :: status :: _ =>
      .ok (.writeMotorSyncResponse (DataIdentifier.ofU16 (getDi version first second)) serial
        status)
    | .writeMotorSync, _ => .error (.frameTooShort "Body too short for WriteMotorSync Response")
    | .readAddr, first :: second :: serial :: rest =>
      if rest.length < 7 then
        .error (.frameTooShort "Body too short for ReadAddr Response (min 10)")
      else do
        let address ← Cjt188Address.fromBytes (rest.take 7)
        .ok (.readAddrResponse (DataIdentifier.ofU16 (getDi version first second)) serial address)
    | .readAddr, _ => .error (.frameTooShort "Body too short for ReadAddr Response (min 10)")
    | .writeAddr, [first, second, serial, status] =>
      .ok (.writeAddrResponse (DataIdentifier.ofU16 (getDi version first second)) serial status)
    | .writeAddr, _ =>
      .error (.frameTooShort "Body length mismatch for WriteAddr Response (expected 4)")
    | _, input => .ok (.raw input)

structure Cjt188TypedFrame where
  meterType : MeterType
  address : Cjt188Address
  control : ControlWord
  body : Cjt188Body
  deriving DecidableEq

def checksum (bytes : List UInt8) : UInt8 := bytes.foldl (· + ·) 0

def Cjt188TypedFrame.head (version : Cjt188Version) (frame : Cjt188TypedFrame) : List UInt8 :=
  [0x68, frame.meterType.code] ++ frame.address.bytes ++
    [frame.control.raw, UInt8.ofNat (frame.body.encodeTo version).length] ++
      frame.body.encodeTo version

def Cjt188TypedFrame.encodeTo (version : Cjt188Version) (frame : Cjt188TypedFrame) :
    Except ProtocolError (List UInt8) :=
  if 255 < (frame.body.encodeTo version).length then
    .error (.semantic ("Body too large: " ++ toString (frame.body.encodeTo version).length))
  else .ok (frame.head version ++ [checksum (frame.head version), 0x16])

/-- One frame, whose function is that of its control word, and the bytes behind it. -/
def Cjt188TypedFrame.parse (version : Cjt188Version) (input : List UInt8) :
    Except ProtocolError (List UInt8 × Cjt188TypedFrame) := do
  if input.length < 13 then
    throw (.frameTooShort "min length 13")
  if input.getD 0 0 ≠ 0x68 then
    throw (.invalidFrame "missing leading 0x68")
  let address ← Cjt188Address.fromBytes ((input.drop 2).take 7)
  let control : ControlWord := ⟨input.getD 9 0⟩
  let len := (input.getD 10 0).toNat
  if input.length < 11 + len + 2 then
    throw (.frameTooShort "buffer shorter than declared length")
  let csCalc := checksum (input.take (11 + len))
  let csWire := input.getD (11 + len) 0
  if csWire ≠ csCalc then
    throw (.checksumMismatch csWire csCalc)
  if input.getD (11 + len + 1) 0 ≠ 0x16 then
    throw (.invalidFrame "missing trailing 0x16")
  let body ← Cjt188Body.parse version control.functionCode control.isError
    ((input.drop 11).take len)
  return (input.drop (11 + len + 2), ⟨⟨input.getD 1 0⟩, address, control, body⟩)

def buildReadDataFrame (meterType : MeterType) (address : Cjt188Address) (di : DataIdentifier)
    (serial : UInt8) : Cjt188TypedFrame :=
  ⟨meterType, address, .fromParts .masterToSlave false false .readData, .readData di serial⟩

def buildWriteDataFrame (meterType : MeterType) (address : Cjt188Address) (di : DataIdentifier)
    (serial : UInt8) (valueBytes : List UInt8) : Cjt188TypedFrame :=
  ⟨meterType, address, .fromParts .masterToSlave false false .writeData,
    .writeData di serial valueBytes⟩

def buildWriteMotorSyncFrame (meterType : MeterType) (address : Cjt188Address)
    (di : DataIdentifier) (serial : UInt8) (valueBytes : List UInt8) : Cjt188TypedFrame :=
  ⟨meterType, address, .fromParts .masterToSlave false false .writeMotorSync,
    .writeMotorSync di serial valueBytes⟩

def buildReadAddressFrame (serial : UInt8) : Cjt188TypedFrame :=
  ⟨⟨0xAA⟩, .broadcastAa, .fromParts .masterToSlave false false .readAddr,
    .readAddr (DataIdentifier.ofU16 0x810A) serial⟩

def buildWriteAddressFrame (meterType : MeterType) (currentAddress newAddress : Cjt188Address)
    (serial : UInt8) : Cjt188TypedFrame :=
  ⟨meterType, currentAddress, .fromParts .masterToSlave false false .writeAddr,
    .writeAddr .address serial newAddress⟩

end NgGateway.Cjt188Frames
