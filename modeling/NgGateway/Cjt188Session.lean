import NgGateway.Cjt188Frames
import NgGateway.FollowUpFrames

namespace NgGateway.Cjt188Session

open Cjt188Frames FallibleLoops FollowUpFrames

abbrev Received := Except ProtocolError Cjt188TypedFrame

structure ReadDataParams where
  meterType : MeterType
  address : Cjt188Address
  di : DataIdentifier

structure Cjt188LogicalResponse where
  meterType : MeterType
  address : Cjt188Address
  frames : List Cjt188TypedFrame
  payload : List UInt8

def reqSerial : Cjt188Body → Option UInt8
  | .readData _ serial => some serial
  | .writeData _ serial _ => some serial
  | .writeMotorSync _ serial _ => some serial
  | .writeAddr _ serial _ => some serial
  | _ => none

def respSerial : Cjt188Body → Option UInt8
  | .readDataResponse _ serial _ => some serial
  | .writeDataResponse _ serial _ => some serial
  | .writeMotorSyncResponse _ serial _ => some serial
  | .writeAddrResponse _ serial _ => some serial
  | _ => none

def serialMismatch (reqS respS : UInt8) : ProtocolError :=
  .semantic ("Serial mismatch: request=" ++ hex2 reqS ++ ", response=" ++ hex2 respS)

def checkFirst (req first : Cjt188Body) : Except ProtocolError Unit :=
  match first with
  | .exceptionResponse _ errorStatus =>
    .error (.semantic ("Device exception response: status=" ++ hex2 errorStatus))
  | first =>
    match reqSerial req, respSerial first with
    | some reqS, some respS => if reqS ≠ respS then .error (serialMismatch reqS respS) else .ok ()
    | _, _ => .ok ()

def checkNext (next : Cjt188Body) : Except ProtocolError Unit :=
  match next with
  | .exceptionResponse _ errorStatus =>
    .error (.semantic ("Device exception in follow-up frame: status=" ++ hex2 errorStatus))
  | _ => .ok ()

def logicalResponse (first : Cjt188TypedFrame) (rest : List Cjt188TypedFrame) :
    Cjt188LogicalResponse :=
  { meterType := first.meterType
    address := first.address
    frames := first :: rest
    payload := ((first :: rest).filterMap fun f => f.body.dataPayload).flatten }

def checks : Checks Cjt188Body Cjt188TypedFrame ProtocolError where
  checkFirst req first := checkFirst req first.body
  checkNext _ next := checkNext next.body
  more frame := frame.control.hasFollowUp
  room _ := .ok ()

def requestFull (req : Cjt188TypedFrame) (stream : List Received) :
    Except ProtocolError Cjt188LogicalResponse := do
  let (first, rest) ← readFrames checks (.timeout "Request timeout") (.timeout "Read next timeout")
    req.body stream
  return logicalResponse first rest

def readData (params : ReadDataParams) (serial : UInt8) (stream : List Received) :
    Except ProtocolError Cjt188LogicalResponse :=
  requestFull (buildReadDataFrame params.meterType params.address params.di serial) stream

def Reads (params : ReadDataParams) (frame : Cjt188TypedFrame) : Prop :=
  frame.address = params.address ∧
    ∃ serial valueBytes, frame.body = .readDataResponse params.di serial valueBytes

def Answers (params : ReadDataParams) (serial : UInt8) (frame : Cjt188TypedFrame) : Prop :=
  frame.address = params.address ∧
    ∃ valueBytes, frame.body = .readDataResponse params.di serial valueBytes

variable {params : ReadDataParams}

theorem Answers.reads (h : Answers params serial frame) : Reads params frame :=
  ⟨h.1, serial, h.2⟩

def wantedAddress : Cjt188Address := .low 1

def flowParams : ReadDataParams := ⟨⟨0x10⟩, wantedAddress, .cumulativeFlow⟩

end NgGateway.Cjt188Session
