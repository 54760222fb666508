import Mathlib.Data.List.GetD
import NgGateway.ByteReaders
import NgGateway.FrameStreams
import NgGateway.Value

namespace NgGateway.Dl645Frames

open ByteReaders FrameStreams List Nat Value

inductive Dl645Version where
  | v1997 | v2007 | v2021

inductive Dl645ExceptionCode where
  | illegalCommand | illegalData | operationNotAllowed | authenticationFailed | objectNotSupported
  | vendor (code : UInt8)
  | unknown (code : UInt8)

def Dl645ExceptionCode.fromByte (b : UInt8) : Dl645ExceptionCode :=
  match b with
  | 0x01 => .illegalCommand
  | 0x02 => .illegalData
  | 0x03 => .operationNotAllowed
  | 0x04 => .authenticationFailed
  | 0x05 => .objectNotSupported
  | b => if 0x80 ≤ b then .vendor b else .unknown b

inductive ProtocolError where
  | invalidFrame (message : String)
  | checksumMismatch
  | frameTooLarge (size : Nat)
  | exception (code : Dl645ExceptionCode)
  | semantic (message : String)
  | timeout (millis : Nat)
  | transport (message : String)
  | io (message : String)

structure Dl645Address where
  bytes : List UInt8
  size : bytes.length = 6
  deriving DecidableEq

def Dl645Address.low (b : UInt8) : Dl645Address := ⟨[b, 0, 0, 0, 0, 0], rfl⟩

inductive Dl645Direction where
  | masterToSlave | slaveToMaster
  deriving DecidableEq

inductive Dl645Function where
  | reserved | broadcastTimeSync | readData | readNextData | reReadData | readAddress | writeData
  | writeAddress | freeze | updateBaudRate | modifyPassword | clearMaxDemand | clearMeter
  | clearEvents
  | unknown (bits : UInt8)
  deriving DecidableEq

/-- The codes of 1997 and 2007 do not conflict. -/
def Dl645Function.fromBits (bits : UInt8) : Dl645Function :=
  match bits &&& 0x1F with
  | 0x00 => .reserved
  | 0x01 => .readData
  | 0x11 => .readData
  | 0x02 => .readNextData
  | 0x12 => .readNextData
  | 0x03 => .reReadData
  | 0x08 => .broadcastTimeSync
  | 0x13 => .readAddress
  | 0x04 => .writeData
  | 0x14 => .writeData
  | 0x0A => .writeAddress
  | 0x15 => .writeAddress
  | 0x16 => .freeze
  | 0x0C => .updateBaudRate
  | 0x17 => .updateBaudRate
  | 0x0F => .modifyPassword
  | 0x18 => .modifyPassword
  | 0x10 => .clearMaxDemand
  | 0x19 => .clearMaxDemand
  | 0x1A => .clearMeter
  | 0x1B => .clearEvents
  | other => .unknown other

def Dl645Function.toBits : Dl645Function → UInt8
  | .reserved => 0x00
  | .broadcastTimeSync => 0x08
  | .readData => 0x11
  | .readNextData => 0x12
  | .reReadData => 0x03
  | .readAddress => 0x13
  | .writeData => 0x14
  | .writeAddress => 0x15
  | .freeze => 0x16
  | .updateBaudRate => 0x17
  | .modifyPassword => 0x18
  | .clearMaxDemand => 0x19
  | .clearMeter => 0x1A
  | .clearEvents => 0x1B
  | .unknown bits => bits &&& 0x1F

structure Dl645ControlWord where
  raw : UInt8
  deriving DecidableEq

def Dl645ControlWord.forRequest (version : Dl645Version) (function : Dl645Function) :
    Dl645ControlWord :=
  match version, function with
  | .v1997, .readData => ⟨0x01⟩
  | .v1997, .readNextData => ⟨0x02⟩
  | .v1997, .reReadData => ⟨0x03⟩
  | .v1997, .writeData => ⟨0x04⟩
  | .v1997, .broadcastTimeSync => ⟨0x08⟩
  | .v1997, .writeAddress => ⟨0x0A⟩
  | .v1997, .updateBaudRate => ⟨0x0C⟩
  | .v1997, .modifyPassword => ⟨0x0F⟩
  | .v1997, .clearMaxDemand => ⟨0x10⟩
  | _, function => ⟨function.toBits⟩

def Dl645ControlWord.function (control : Dl645ControlWord) : Dl645Function :=
  Dl645Function.fromBits (control.raw &&& 0x1F)

def Dl645ControlWord.hasFollowingFrame (control : Dl645ControlWord) : Bool :=
  control.raw &&& 0x20 ≠ 0

def Dl645ControlWord.isExceptionResponse (control : Dl645ControlWord) : Bool :=
  control.raw &&& 0x40 ≠ 0

def Dl645ControlWord.direction (control : Dl645ControlWord) : Dl645Direction :=
  if control.raw &&& 0x80 ≠ 0 then .slaveToMaster else .masterToSlave

inductive Dl645Body where
  | readData (di : UInt32) (data : List UInt8)
  | writeData (di : UInt32) (value : List UInt8) (password operatorCode : UInt32)
  | writeAddress (newAddress : Dl645Address)
  | broadcastTimeSync (timestamp : List UInt8)
  | freeze (pattern : List UInt8)
  | updateBaudRate (code : UInt8)
  | modifyPassword (di : Option UInt32) (oldPassword newPassword : UInt32)
  | clearMaxDemand (password operatorCode : UInt32)
  | clearMeter (password operatorCode : UInt32)
  | clearEvents (di password operatorCode : UInt32)
  | raw (bytes : List UInt8)
  deriving DecidableEq

def Dl645Body.dataPayload : Dl645Body → Option (List UInt8)
  | .readData _ data => some data
  | .raw bytes => some bytes
  | _ => none

def diLen : Dl645Version → Nat
  | .v1997 => 2
  | _ => 4

def getDiBytes (di : UInt32) (version : Dl645Version) : List UInt8 :=
  leBytes (diLen version) di.toNat

def u32Bytes (v : UInt32) : List UInt8 := leBytes 4 v.toNat

def u32Of (bytes : List UInt8) : UInt32 := UInt32.ofNat (ofLeBytes bytes)

def parseDi (version : Dl645Version) (input : List UInt8) :
    Except ProtocolError (UInt32 × List UInt8) :=
  if input.length < diLen version then .error (.invalidFrame "Insufficient bytes for DI")
  else .ok (u32Of (input.take (diLen version)), input.drop (diLen version))

def Dl645Body.encodeTo (version : Dl645Version) : Dl645Body → Except ProtocolError (List UInt8)
  | .readData di data => .ok (getDiBytes di version ++ data)
  | .writeData di value password operatorCode =>
    match version with
    | .v1997 => .ok (getDiBytes di version ++ value)
    | _ => .ok (getDiBytes di version ++ u32Bytes password ++ u32Bytes operatorCode ++ value)
  | .writeAddress newAddress => .ok newAddress.bytes
  | .broadcastTimeSync timestamp => .ok timestamp
  | .freeze pattern => .ok pattern
  | .updateBaudRate code => .ok [code]
  | .modifyPassword di oldPassword newPassword =>
    match version, di with
    | .v1997, _ => .ok (u32Bytes oldPassword ++ u32Bytes newPassword)
    | _, some di => .ok (getDiBytes di version ++ u32Bytes oldPassword ++ u32Bytes newPassword)
    | _, none => .error (.invalidFrame "DI is required for ModifyPassword V2007")
  | .clearMaxDemand password operatorCode =>
    match version with
    | .v1997 => .ok []
    | _ => .ok (u32Bytes password ++ u32Bytes operatorCode)
  | .clearMeter password operatorCode =>
    match version with
    | .v1997 => .ok []
    | _ => .ok (u32Bytes password ++ u32Bytes operatorCode)
  | .clearEvents di password operatorCode =>
    match version with
    | .v1997 => .ok (u32Bytes di)
    | _ => .ok (u32Bytes password ++ u32Bytes operatorCode ++ u32Bytes di)
  | .raw bytes => .ok bytes

def parseClear (version : Dl645Version) (message : String) (build : UInt32 → UInt32 → Dl645Body)
    (input : List UInt8) : Except ProtocolError Dl645Body :=
  match version with
  | .v1997 => .ok (build 0 0)
  | _ =>
    if input.length < 8 then .error (.invalidFrame message)
    else .ok (build (u32Of (input.take 4)) (u32Of ((input.drop 4).take 4)))

def Dl645Body.parse (version : Dl645Version) (function : Dl645Function) (isException : Bool)
    (input : List UInt8) : Except ProtocolError Dl645Body :=
  if isException then .ok (.raw input)
  else
    match function with
    | .readData => do
        let (di, data) ← parseDi version input
        return .readData di data
    | .writeData =>
      if input = [] then .ok (.raw [])
      else do
        let (di, rem) ← parseDi version input
        match version with
        | .v1997 => return .writeData di rem 0 0
        | _ =>
          if rem.length < 8 then
            throw (.invalidFrame "Insufficient bytes for WriteData header")
          return .writeData di (rem.drop 8) (u32Of (rem.take 4)) (u32Of ((rem.drop 4).take 4))
    | .writeAddress =>
      if input = [] then .ok (.raw [])
      else if h : 6 ≤ input.length then .ok (.writeAddress ⟨input.take 6, by simp [h]⟩)
      else .error (.invalidFrame "Insufficient bytes for WriteAddress")
    | .broadcastTimeSync =>
      if input = [] then .ok (.raw [])
      else if input.length < 6 then .error (.invalidFrame "Insufficient bytes for TimeSync")
      else .ok (.broadcastTimeSync (input.take 6))
    | .freeze =>
      if input = [] then .ok (.raw [])
      else if input.length < 4 then .error (.invalidFrame "Insufficient bytes for Freeze")
      else .ok (.freeze (input.take 4))
    | .updateBaudRate =>
      match input with
      | [] => .ok (.raw [])
      | code :: _ => .ok (.updateBaudRate code)
    | .clearMaxDemand =>
      if input = [] then .ok (.raw [])
      else parseClear version "Insufficient bytes for ClearMaxDemand" .clearMaxDemand input
    | .clearMeter =>
      if input = [] then .ok (.raw [])
      else parseClear version "Insufficient bytes for ClearMeter" .clearMeter input
    | .clearEvents =>
      if input = [] then .ok (.raw [])
      else
        match version with
        | .v1997 =>
          if input.length < 4 then
            .error (.invalidFrame "Insufficient bytes for ClearEvents DI")
          else .ok (.clearEvents (u32Of (input.take 4)) 0 0)
        | _ =>
          if input.length < 12 then
            .error (.invalidFrame "Insufficient bytes for ClearEvents PW/OP/DI")
          else
            .ok (.clearEvents (u32Of ((input.drop 8).take 4)) (u32Of (input.take 4))
              (u32Of ((input.drop 4).take 4)))
    | _ => .ok (.raw input)

structure Dl645TypedFrame where
  address : Dl645Address
  control : Dl645ControlWord
  body : Dl645Body
  deriving DecidableEq

def checksum (bytes : List UInt8) : UInt8 := bytes.foldl (· + ·) 0

/-- Everything before the checksum; data bytes are sent with an offset of 0x33. -/
def frameHead (address : Dl645Address) (control : Dl645ControlWord) (body : List UInt8) :
    List UInt8 :=
  [0x68] ++ address.bytes ++ [0x68, control.raw, UInt8.ofNat body.length] ++ body.map (· + 0x33)

def frameBytes (address : Dl645Address) (control : Dl645ControlWord) (body : List UInt8) :
    List UInt8 :=
  frameHead address control body ++ [checksum (frameHead address control body), 0x16]

def Dl645TypedFrame.encodeTo (version : Dl645Version) (frame : Dl645TypedFrame) :
    Except ProtocolError (List UInt8) := do
  let body ← frame.body.encodeTo version
  if 255 < body.length then
    throw (.frameTooLarge body.length)
  return frameBytes frame.address frame.control body

/-- A frame of exactly these bytes, or with more behind it. -/
def Dl645TypedFrame.parse (version : Dl645Version) (input : List UInt8) :
    Except ProtocolError Dl645TypedFrame :=
  if h : 12 ≤ input.length then do
    if input.getD 0 0 ≠ 0x68 then
      throw (.invalidFrame "missing leading 0x68")
    let address : Dl645Address := ⟨(input.drop 1).take 6, by simp; omega⟩
    if input.getD 7 0 ≠ 0x68 then
      throw (.invalidFrame "missing second 0x68")
    let control : Dl645ControlWord := ⟨input.getD 8 0⟩
    let len := (input.getD 9 0).toNat
    if input.length < 10 + len + 2 then
      throw (.invalidFrame "buffer shorter than declared length")
    if input.getD (10 + len) 0 ≠ checksum (input.take (10 + len)) then
      throw .checksumMismatch
    if input.getD (10 + len + 1) 0 ≠ 0x16 then
      throw (.invalidFrame "missing trailing 0x16")
    let body ← Dl645Body.parse version control.function control.isExceptionResponse
      (((input.drop 10).take len).map (· - 0x33))
    return ⟨address, control, body⟩
  else .error (.invalidFrame "frame too short")

open Dl645TypedFrame (parse)

/-- The first frame and the bytes behind it. Bytes that begin no frame are skipped, an incomplete
frame is waited for. -/
def tryExtractFrame (version : Dl645Version) : List UInt8 → Option (Dl645TypedFrame × List UInt8)
  | [] => none
  | b :: rest =>
    if (b :: rest).length < 12 then none
    else if b ≠ 0x68 then tryExtractFrame version rest
    else if (b :: rest).getD 7 0 ≠ 0x68 then tryExtractFrame version rest
    else
      let frameLen := 10 + ((b :: rest).getD 9 0).toNat + 2
      if (b :: rest).length < frameLen then none
      else
        match Dl645TypedFrame.parse version ((b :: rest).take frameLen) with
        | .ok frame => some (frame, (b :: rest).drop frameLen)
        | .error _ => tryExtractFrame version rest

def decode (version : Dl645Version) (src : List UInt8) :
    Except String (Option (Dl645TypedFrame × List UInt8)) :=
  .ok (tryExtractFrame version src)

def buildReadDataFrame (version : Dl645Version) (address : Dl645Address) (di : UInt32) :
    Dl645TypedFrame :=
  ⟨address, .forRequest version .readData, .readData di []⟩

theorem leBytes_succ (count v) :
    leBytes (count + 1) v = UInt8.ofNat v :: leBytes count (v / 256) := by
  rw [leBytes, range_succ_eq_map, map_cons, map_map, Nat.pow_zero, Nat.div_one]
  refine congrArg _ (map_congr_left fun i _ => ?_)
  change UInt8.ofNat (v / 256 ^ (i + 1)) = UInt8.ofNat (v / 256 / 256 ^ i)
  rw [Nat.pow_succ', Nat.div_div_eq_div_mul]

theorem length_leBytes (count v) : (leBytes count v).length = count := by
  simp [leBytes]

theorem ofLeBytes_leBytes (count v) : ofLeBytes (leBytes count v) = v % 256 ^ count := by
  induction count generalizing v with
  | zero => simp [leBytes, ofLeBytes, mod_one]
  | succ count ih =>
    have hpow : 256 ^ (count + 1) = 256 * 256 ^ count := pow_succ'
    rw [leBytes_succ, ofLeBytes, ih, UInt8.toNat_ofNat', hpow]
    exact mod_mul.symm

theorem leBytes_mod (count v) : leBytes count (v % 256 ^ count) = leBytes count v := by
  induction count generalizing v with
  | zero => rfl
  | succ count ih =>
    have hlow : UInt8.ofNat (v % (256 * 256 ^ count)) = UInt8.ofNat v := by
      apply UInt8.toNat_inj.mp
      exact mod_mul_right_mod v 256 (256 ^ count)
    rw [leBytes_succ, leBytes_succ, pow_succ', hlow, mod_mul_right_div_self, ih]

def wireDi (version : Dl645Version) (di : UInt32) : UInt32 := u32Of (getDiBytes di version)

theorem length_getDiBytes (di version) :
    (getDiBytes di version).length = diLen version := length_leBytes _ _

theorem toNat_wireDi : (wireDi version di).toNat = di.toNat % 256 ^ diLen version := by
  have hlt := di.toNat_lt
  rw [wireDi, u32Of, getDiBytes, ofLeBytes_leBytes, UInt32.toNat_ofNat']
  apply mod_eq_of_lt
  exact lt_of_le_of_lt (mod_le _ _) hlt

theorem getDiBytes_wireDi (version di) :
    getDiBytes (wireDi version di) version = getDiBytes di version := by
  rw [getDiBytes, toNat_wireDi, leBytes_mod]
  rfl

theorem parseDi_getDiBytes (version di data) :
    parseDi version (getDiBytes di version ++ data) = .ok (wireDi version di, data) := by
  have hlen := length_getDiBytes di version
  rw [parseDi, if_neg, ← hlen, take_left, drop_left]
  · rfl
  · rw [length_append]
    omega

section

variable (address : Dl645Address) (control : Dl645ControlWord) (body : List UInt8)

theorem length_frameHead : (frameHead address control body).length = 10 + body.length := by
  simp [frameHead, address.size]
  omega

theorem frameHead_eq :
    ∃ a0 a1 a2 a3 a4 a5, address.bytes = [a0, a1, a2, a3, a4, a5] ∧
      frameHead address control body = 0x68 :: a0 :: a1 :: a2 :: a3 :: a4 :: a5 :: 0x68 ::
        control.raw :: UInt8.ofNat body.length :: body.map (· + 0x33) := by
  rcases address with ⟨_ | ⟨a0, _ | ⟨a1, _ | ⟨a2, _ | ⟨a3, _ | ⟨a4, _ | ⟨a5, rest⟩⟩⟩⟩⟩⟩, hsize⟩
  case cons.cons.cons.cons.cons.cons =>
    have hrest : rest = [] := by
      apply length_eq_zero_iff.mp
      simp only [length_cons] at hsize
      omega
    subst hrest
    exact ⟨a0, a1, a2, a3, a4, a5, rfl, rfl⟩
  all_goals simp at hsize

theorem map_sub_add : (body.map (· + 0x33)).map (· - 0x33) = body := by
  rw [map_map]
  conv_rhs => rw [← map_id body]
  refine map_congr_left fun b _ => ?_
  simp

theorem length_frameBytes : (frameBytes address control body).length = 12 + body.length := by
  have hhead := length_frameHead address control body
  rw [frameBytes, length_append, hhead, length_cons, length_singleton]
  omega

theorem getD_frameBytes (body more) :
    (frameBytes address control body ++ more).getD 0 0 = 0x68 ∧
      (frameBytes address control body ++ more).getD 7 0 = 0x68 ∧
      (frameBytes address control body ++ more).getD 8 0 = control.raw ∧
      (frameBytes address control body ++ more).getD 9 0 = UInt8.ofNat body.length := by
  obtain ⟨a0, a1, a2, a3, a4, a5, -, hhead⟩ := frameHead_eq address control body
  rw [frameBytes, hhead]
  exact ⟨rfl, rfl, rfl, rfl⟩

theorem fields_frameBytes :
    ((frameBytes address control body).drop 1).take 6 = address.bytes ∧
      ((frameBytes address control body).drop 10).take body.length = body.map (· + 0x33) := by
  obtain ⟨a0, a1, a2, a3, a4, a5, haddr, hhead⟩ := frameHead_eq address control body
  rw [frameBytes, hhead, haddr]
  exact ⟨rfl, by simp⟩

theorem trailer_frameBytes :
    (frameBytes address control body).getD (10 + body.length) 0 =
        checksum ((frameBytes address control body).take (10 + body.length)) ∧
      (frameBytes address control body).getD (10 + body.length + 1) 0 = 0x16 := by
  have hhead := length_frameHead address control body
  rw [frameBytes, getD_append_right _ _ _ _ (by omega), getD_append_right _ _ _ _ (by omega),
    ← hhead, take_left, Nat.sub_self, Nat.add_sub_cancel_left]
  exact ⟨rfl, rfl⟩

variable {body : List UInt8}

theorem toNat_ofNat_length (hbody : body.length ≤ 255) :
    (UInt8.ofNat body.length).toNat = body.length := by
  rw [UInt8.toNat_ofNat']
  omega

theorem parse_frameBytes (version address control) (hbody : body.length ≤ 255) :
    parse version (frameBytes address control body) =
      (Dl645Body.parse version control.function control.isExceptionResponse body).map
        (fun parsed => ⟨address, control, parsed⟩) := by
  have hlength := length_frameBytes address control body
  have henough : ¬ (frameBytes address control body).length < 10 + body.length + 2 := by omega
  obtain ⟨hlead, hsnd, hcontrol, hlen⟩ := getD_frameBytes address control body []
  rw [append_nil] at hlead hsnd hcontrol hlen
  obtain ⟨hcs, htail⟩ := trailer_frameBytes address control body
  obtain ⟨haddr, hdata⟩ := fields_frameBytes address control body
  rw [parse, dif_pos (by omega)]
  simp only [hlead, hsnd, hcontrol, hlen, toNat_ofNat_length hbody, henough, hcs, htail, hdata,
    haddr, map_sub_add, ne_eq, not_true_eq_false, if_false]
  rcases Dl645Body.parse version control.function control.isExceptionResponse body with e | parsed
  · rfl
  · rfl

theorem tryExtractFrame_frameBytes (hbody : body.length ≤ 255)
    (hparsed : Dl645Body.parse version control.function control.isExceptionResponse body =
      .ok parsed) (more) :
    tryExtractFrame version (frameBytes address control body ++ more) =
      some (⟨address, control, parsed⟩, more) := by
  have hlength := length_frameBytes address control body
  obtain ⟨hlead, hsnd, -, hlen⟩ := getD_frameBytes address control body more
  have htotal : 10 + body.length + 2 = (frameBytes address control body).length := by omega
  rcases hinput : frameBytes address control body ++ more with - | ⟨b, rest⟩
  · have hnil := congrArg List.length hinput
    rw [length_append, length_nil] at hnil
    omega
  · rw [hinput] at hlead hsnd hlen
    have hb : b = 0x68 := hlead
    have hcount : ¬ (b :: rest).length < 10 + body.length + 2 := by
      rw [← hinput, length_append]
      omega
    have hparse : parse version ((b :: rest).take (10 + body.length + 2)) =
        .ok ⟨address, control, parsed⟩ := by
      rw [← hinput, htotal, take_left, parse_frameBytes version address control hbody, hparsed]
      rfl
    have hdrop : (b :: rest).drop (10 + body.length + 2) = more := by
      rw [← hinput, htotal, drop_left]
    rw [tryExtractFrame, if_neg (by omega), if_neg (not_not.mpr hb), if_neg (not_not.mpr hsnd)]
    simp only [hlen, toNat_ofNat_length hbody, hcount, if_false, hparse, hdrop]

end

theorem tryExtractFrame_shorter (h : tryExtractFrame version buf = some (m, rest)) :
    rest.length < buf.length := by
  induction buf with
  | nil => cases h
  | cons b buf ih =>
    rw [tryExtractFrame] at h
    dsimp only at h
    split_ifs at h with hshort hlead hsnd hpartial
    · exact (ih h).trans (lt_succ_self _)
    · exact (ih h).trans (lt_succ_self _)
    · split at h
      · cases h
        rw [length_drop]
        omega
      · exact (ih h).trans (lt_succ_self _)

theorem tryExtractFrame_append (h : tryExtractFrame version buf = some (m, rest))
    (more) : tryExtractFrame version (buf ++ more) = some (m, rest ++ more) := by
  induction buf with
  | nil => cases h
  | cons b buf ih =>
    rw [tryExtractFrame] at h
    dsimp only at h
    rw [cons_append, tryExtractFrame]
    split_ifs at h with hshort hlead hsnd hpartial
    all_goals
      have hlong : ¬ (b :: (buf ++ more)).length < 12 := by
        simp only [length_cons, length_append] at hshort ⊢
        omega
      rw [if_neg hlong]
    · rw [if_pos hlead, ih h]
    · have hsnd' : (b :: (buf ++ more)).getD 7 0 ≠ 0x68 := by
        rw [← cons_append, getD_append _ _ _ _ (by omega)]
        exact hsnd
      rw [if_neg hlead, if_pos hsnd', ih h]
    · have hget : ∀ i < 12, (b :: (buf ++ more)).getD i 0 = (b :: buf).getD i 0 := by
        intro i hi
        rw [← cons_append, getD_append _ _ _ _ (by omega)]
      have hfull : ¬ (b :: (buf ++ more)).length < 10 + ((b :: buf).getD 9 0).toNat + 2 := by
        simp only [length_cons, length_append] at hpartial ⊢
        omega
      rw [hget 7 (by omega), hget 9 (by omega), if_neg hlead, if_neg hsnd, if_neg hfull,
        ← cons_append, take_append_of_le_length (by omega), drop_append_of_le_length (by omega)]
      split at h
      · cases h
        rfl
      · exact ih h

theorem incremental_decode (version) : Incremental (decode version) where
  nil := rfl
  shorter h := tryExtractFrame_shorter (Except.ok.inj h)
  more_ok h more := congrArg Except.ok (tryExtractFrame_append (Except.ok.inj h) more)
  more_error h := by cases h

end NgGateway.Dl645Frames
