import Mathlib.Data.List.DropRight
import NgGateway.Dl645Frames
import NgGateway.FollowUpFrames
import NgGateway.ValueCodec

namespace NgGateway.Dl645Session

open Dl645Frames FollowUpFrames FrameStreams List Value ValueCodec

abbrev Received := Except ProtocolError Dl645TypedFrame

structure Dl645LogicalResponse where
  address : Dl645Address
  frames : List Dl645TypedFrame
  payload : List UInt8

def exceptionOf (frame : Dl645TypedFrame) : ProtocolError :=
  .exception (((frame.body.dataPayload.bind List.head?).map .fromByte).getD (.unknown 0))

def checkFirst (first : Dl645TypedFrame) : Except ProtocolError Unit :=
  if first.control.direction ≠ .slaveToMaster then
    .error (.semantic "unexpected direction in first response")
  else if first.control.isExceptionResponse then .error (exceptionOf first)
  else .ok ()

def checkNext (first next : Dl645TypedFrame) : Except ProtocolError Unit :=
  if next.address ≠ first.address then
    .error (.semantic "address mismatch in subsequent frame")
  else if next.control.direction ≠ .slaveToMaster then
    .error (.semantic "unexpected direction in subsequent frame")
  else if next.control.function ≠ first.control.function then
    .error (.semantic "function code mismatch in subsequent frame")
  else if next.control.isExceptionResponse then .error (exceptionOf next)
  else .ok ()

def checks (maxFrames : Nat) : Checks Dl645TypedFrame Dl645TypedFrame ProtocolError where
  checkFirst _ first := checkFirst first
  checkNext := checkNext
  more frame := frame.control.hasFollowingFrame
  room count :=
    if count < maxFrames then .ok ()
    else .error (.semantic "too many subsequent frames, possible protocol loop")

def contribution (version : Dl645Version) (body : Dl645Body) : List UInt8 :=
  match body with
  | .raw data => data
  | other =>
    match other.encodeTo version with
    | .ok buf => buf
    | .error _ => other.dataPayload.getD []

def logicalResponse (version : Dl645Version) (first : Dl645TypedFrame)
    (rest : List Dl645TypedFrame) : Dl645LogicalResponse :=
  { address := first.address
    frames := first :: rest
    payload := (first :: rest).flatMap fun frame => contribution version frame.body }

def requestFull (version : Dl645Version) (maxFrames timeout : Nat) (request : Dl645TypedFrame)
    (stream : List Received) : Except ProtocolError Dl645LogicalResponse :=
  if maxFrames = 0 then .error (.semantic "DL/T645: max_frames must be greater than zero")
  else do
    let (first, rest) ← readFrames (checks maxFrames) (.timeout timeout) (.timeout timeout) request
      stream
    return logicalResponse version first rest

def readData (version : Dl645Version) (address : Dl645Address) (di : UInt32)
    (timeout maxFrames : Nat) (stream : List Received) :
    Except ProtocolError Dl645LogicalResponse :=
  requestFull version maxFrames timeout (buildReadDataFrame version address di) stream

def combinedFrame (logical : Dl645LogicalResponse) : Except ProtocolError Dl645TypedFrame :=
  match logical.frames.getLast? with
  | some last => .ok ⟨logical.address, last.control, .raw logical.payload⟩
  | none => .error (.semantic "DL/T 645 logical response contained no frames")

structure Dl645Point where
  dataType : DataType
  transform : Transform
  di : UInt32
  decimals : Option UInt8

structure Floats where
  ops : FloatOps
  pow10 : UInt8 → UInt64

def lowDigit (b : UInt8) : Nat := b.toNat % 16

def highDigit (b : UInt8) : Nat := b.toNat / 16

def bcdLow : List UInt8 → Except DriverError Nat
  | [] => .ok 0
  | b :: bytes =>
    if 9 < lowDigit b ∨ 9 < highDigit b then .error (.codecError "Invalid BCD digit")
    else do
      let higher ← bcdLow bytes
      return lowDigit b + highDigit b * 10 + 100 * higher

/-- At most eight bytes, so that the number stays below `10 ^ 16`. -/
def decodeBcdToF64 (floats : Floats) (bytes : List UInt8) (decimals : UInt8) (isSigned : Bool) :
    Except DriverError UInt64 :=
  match bytes.getLast? with
  | none => .error (.codecError "BCD payload must not be empty")
  | some last =>
    if 8 < bytes.length then .error (.codecError "BCD payload too long for u64")
    else do
      let low ← bcdLow bytes.dropLast
      let negative := isSigned && decide (8 ≤ highDigit last)
      let hi := if negative then highDigit last - 8 else highDigit last
      if 9 < lowDigit last ∨ 9 < hi then
        throw (.codecError "Invalid BCD digit")
      let value := low + (lowDigit last + hi * 10) * 100 ^ bytes.dropLast.length
      let floatVal := floats.ops.ofInt value
      let signed := if negative then floats.ops.neg floatVal else floatVal
      return floats.ops.div signed (floats.pow10 decimals)

def okOr {α : Type} (e : DriverError) : Option α → Except DriverError α
  | some a => .ok a
  | none => .error e

def pointData (frame : Dl645TypedFrame) : List UInt8 := frame.body.dataPayload.getD []

/-- An identifier other than the one of the point is only logged. -/
def decodePointValue (floats : Floats) (version : Dl645Version) (point : Dl645Point)
    (frame : Dl645TypedFrame) : Except DriverError NGValue :=
  if (pointData frame).length ≤ diLen version then
    .error (.codecError "DL/T 645 response payload too short")
  else
    let payload := (pointData frame).drop (diLen version)
    let logicalDt := point.transform.resolveLogicalDatatype point.dataType
    let number (default : UInt8) (isSigned : Bool) (message : String) := do
      let v ← decodeBcdToF64 floats payload (point.decimals.getD default) isSigned
      okOr (.codecError message) (coerceF64ToValue floats.ops v logicalDt point.transform)
    match point.dataType with
    | .float32 | .float64 => number 2 true "DL/T 645 value out of range after scaling"
    | .int8 | .int16 | .int32 | .int64 => number 0 true "DL/T 645 value out of range after scaling"
    | .uint8 | .uint16 | .uint32 | .uint64 =>
      number 0 false "DL/T 645 value out of range after scaling"
    | .boolean =>
      okOr (.codecError "DL/T 645 bool coercion failed")
        (coerceBoolToValue floats.ops (decide (payload.headD 0 &&& 0x01 ≠ 0)) logicalDt
          point.transform)
    | .string =>
      match String.fromUTF8? ⟨(payload.rdropWhile (· = 0)).toArray⟩ with
      | some s => .ok (.string s)
      | none => .ok (.binary payload)
    | .timestamp => number 0 false "DL/T 645 value out of range for timestamp"
    | .binary => .ok (.binary payload)

structure ResponsePart where
  control : Dl645ControlWord
  data : List UInt8

def ResponsePart.more (part : ResponsePart) : Bool := part.control.hasFollowingFrame

structure IsReadResponse (control : Dl645ControlWord) : Prop where
  direction : control.direction = .slaveToMaster
  accepted : control.isExceptionResponse = false
  function : control.function = .readData

def responseBytes (version : Dl645Version) (address : Dl645Address) (di : UInt32)
    (part : ResponsePart) : List UInt8 :=
  frameBytes address part.control (getDiBytes di version ++ part.data)

def responseFrame (version : Dl645Version) (address : Dl645Address) (di : UInt32)
    (part : ResponsePart) : Dl645TypedFrame :=
  ⟨address, part.control, .readData (wireDi version di) part.data⟩

theorem decodes_responses {parts : List ResponsePart}
    (hresp : ∀ part ∈ parts, IsReadResponse part.control)
    (hsize : ∀ part ∈ parts, diLen version + part.data.length ≤ 255) :
    Decodes (decode version) (parts.flatMap (responseBytes version address di))
      (parts.map (responseFrame version address di)) := by
  induction parts with
  | nil => exact .nil
  | cons part parts ih =>
    rw [forall_mem_cons] at hresp hsize
    obtain ⟨hpart, hresp⟩ := hresp
    have hlen : (getDiBytes di version ++ part.data).length ≤ 255 := by
      rw [length_append, length_getDiBytes]
      exact hsize.1
    have hbody : Dl645Body.parse version part.control.function part.control.isExceptionResponse
        (getDiBytes di version ++ part.data) = .ok (.readData (wireDi version di) part.data) := by
      rw [hpart.function, hpart.accepted, Dl645Body.parse, parseDi_getDiBytes]
      rfl
    refine Decodes.cons ?_ (ih hresp hsize.2)
    exact congrArg Except.ok (tryExtractFrame_frameBytes _ _ hlen hbody _)

theorem checkFirst_responseFrame (h : IsReadResponse part.control) :
    checkFirst (responseFrame version address di part) = .ok () := by
  simp [checkFirst, responseFrame, h.direction, h.accepted]

theorem checkNext_responseFrame {next : ResponsePart} (h : IsReadResponse part.control)
    (hnext : IsReadResponse next.control) :
    checkNext (responseFrame version address di part) (responseFrame version address di next) =
      .ok () := by
  simp [checkNext, responseFrame, hnext.direction, hnext.accepted, hnext.function, h.function]

theorem contribution_responseFrame (part) :
    contribution version (responseFrame version address di part).body =
      getDiBytes di version ++ part.data := by
  change getDiBytes (wireDi version di) version ++ part.data = _
  rw [getDiBytes_wireDi]

theorem announced_map {more : β → Bool} {f : α → β} {l : List α}
    (h : Announced (fun a => more (f a)) l) : Announced more (l.map f) := by
  induction l with
  | nil => exact h
  | cons a l ih =>
    cases l with
    | nil => exact h
    | cons b l => exact ⟨h.1, ih h.2⟩

theorem combinedFrame_logicalResponse (version first rest) :
    ∃ frame, combinedFrame (logicalResponse version first rest) = .ok frame ∧
      pointData frame = (first :: rest).flatMap fun f => contribution version f.body := by
  have hframes : (logicalResponse version first rest).frames.getLast? =
      some ((first :: rest).getLast (cons_ne_nil _ _)) :=
    getLast?_eq_some_getLast (cons_ne_nil first rest)
  refine ⟨⟨first.address, ((first :: rest).getLast (cons_ne_nil _ _)).control,
    .raw (logicalResponse version first rest).payload⟩, ?_, rfl⟩
  rfl

theorem readData_responses {timeout maxFrames : Nat} {part : ResponsePart}
    {parts : List ResponsePart} (hresp : ∀ p ∈ part :: parts, IsReadResponse p.control)
    (hannounced : Announced ResponsePart.more (part :: parts))
    (hcount : (part :: parts).length ≤ maxFrames) :
    ∃ logical frame, readData version address di timeout maxFrames
        (((part :: parts).map (responseFrame version address di)).map .ok) = .ok logical ∧
      combinedFrame logical = .ok frame ∧
        pointData frame = (part :: parts).flatMap fun p => getDiBytes di version ++ p.data := by
  rw [forall_mem_cons] at hresp
  rw [length_cons] at hcount
  have hread : readFrames (checks maxFrames) (.timeout timeout) (.timeout timeout)
      (buildReadDataFrame version address di)
      (((part :: parts).map (responseFrame version address di)).map .ok) =
        .ok (responseFrame version address di part,
          parts.map (responseFrame version address di)) := by
    refine readFrames_of_announced ?_ ?_ ?_ ?_
    · rw [← map_cons]
      exact announced_map hannounced
    · exact checkFirst_responseFrame hresp.1
    · intro next hnext
      obtain ⟨p, hp, rfl⟩ := mem_map.mp hnext
      exact checkNext_responseFrame hresp.1 (hresp.2 p hp)
    · intro n _ hn
      rw [length_map] at hn
      exact if_pos (by omega)
  have hfull : readData version address di timeout maxFrames
      (((part :: parts).map (responseFrame version address di)).map .ok) =
        .ok (logicalResponse version (responseFrame version address di part)
          (parts.map (responseFrame version address di))) := by
    rw [readData, requestFull, if_neg (by omega), hread]
    rfl
  obtain ⟨frame, hframe, hdata⟩ := combinedFrame_logicalResponse version
    (responseFrame version address di part) (parts.map (responseFrame version address di))
  refine ⟨_, frame, hfull, hframe, ?_⟩
  rw [hdata, ← map_cons, flatMap_map]
  exact flatMap_congr fun p _ => contribution_responseFrame p

theorem diLen_pos (version) : 0 < diLen version := by
  cases version with
  | v1997 | v2007 | v2021 => decide

theorem length_repeated (parts : List ResponsePart) :
    (parts.flatMap fun p => getDiBytes di version ++ p.data).length =
      parts.length * diLen version + (parts.flatMap fun p => p.data).length := by
  induction parts with
  | nil => simp
  | cons p parts ih =>
    simp only [flatMap_cons, length_append, ih, length_getDiBytes, length_cons, Nat.add_mul]
    omega

/-- However the answer is cut, it is read; the decoder sees the parts joined behind one identifier
exactly when there is one frame. -/
theorem decoder_sees_parts_iff (version : Dl645Version) (address : Dl645Address) (di : UInt32)
    (timeout maxFrames : Nat) (parts : List ResponsePart) (chunks : List (List UInt8))
    (hresponse : ∀ part ∈ parts, IsReadResponse part.control)
    (hannounced : Announced ResponsePart.more parts) (hcount : parts.length ≤ maxFrames)
    (hsize : ∀ part ∈ parts, diLen version + part.data.length ≤ 255)
    (hchunks : chunks.flatten = parts.flatMap (responseBytes version address di)) :
    ∃ logical frame, readData version address di timeout maxFrames
        ((feed (decode version) [] chunks).messages.map .ok) = .ok logical ∧
      combinedFrame logical = .ok frame ∧
        (pointData frame = getDiBytes di version ++ parts.flatMap (fun part => part.data) ↔
          parts.length = 1) := by
  have hfeed : (feed (decode version) [] chunks).messages =
      parts.map (responseFrame version address di) := by
    rw [feed_nil_eq_of_decodes (incremental_decode version)
      (hchunks ▸ decodes_responses hresponse hsize)]
  rw [hfeed]
  rcases parts with - | ⟨part, parts⟩
  · cases hannounced
  · obtain ⟨logical, frame, hread, hframe, hdata⟩ :=
      @readData_responses _ _ _ timeout _ _ _ hresponse hannounced hcount
    refine ⟨logical, frame, hread, hframe, ?_⟩
    rw [hdata]
    constructor
    · intro hsame
      -- every further frame adds an identifier
      have hlen := congrArg List.length hsame
      rw [length_repeated, length_append, length_getDiBytes] at hlen
      have hmul : (part :: parts).length * diLen version = 1 * diLen version := by omega
      exact Nat.eq_of_mul_eq_mul_right (diLen_pos version) hmul
    · intro hone
      have hnil : parts = [] := length_eq_zero_iff.mp (Nat.succ.inj hone)
      subst hnil
      simp

def meterAddress : Dl645Address := .low 1

def firstHalf : ResponsePart := ⟨⟨0xB1⟩, [0x12, 0x34]⟩

def secondHalf : ResponsePart := ⟨⟨0x91⟩, [0x56, 0x78]⟩

theorem isReadResponse_halves : ∀ part ∈ [firstHalf, secondHalf], IsReadResponse part.control := by
  rw [forall_mem_cons, forall_mem_singleton]
  exact ⟨⟨by decide, by decide, by decide⟩, ⟨by decide, by decide, by decide⟩⟩

theorem decoder_sees_single_part :
    ∃ logical frame, readData .v2007 meterAddress 0x00010000 500 8
        ((feed (decode .v2007) []
          [responseBytes .v2007 meterAddress 0x00010000 secondHalf]).messages.map .ok) =
            .ok logical ∧
      combinedFrame logical = .ok frame ∧
        (pointData frame = getDiBytes 0x00010000 .v2007 ++
          [secondHalf].flatMap (fun part => part.data) ↔ [secondHalf].length = 1) :=
  decoder_sees_parts_iff .v2007 meterAddress 0x00010000 500 8 [secondHalf]
    [responseBytes .v2007 meterAddress 0x00010000 secondHalf]
    (fun part hpart => isReadResponse_halves part (mem_cons_of_mem _ hpart))
    rfl (by decide) (by decide) (by simp)

/-- The identifier of the second frame ends up in the middle of the value. -/
theorem decoder_sees_identifier_twice :
    ∃ logical frame, readData .v2007 meterAddress 0x00010000 500 8
        ((feed (decode .v2007) [] [responseBytes .v2007 meterAddress 0x00010000 firstHalf,
          responseBytes .v2007 meterAddress 0x00010000 secondHalf]).messages.map .ok) =
            .ok logical ∧
      combinedFrame logical = .ok frame ∧
        (pointData frame).drop 4 = [0x12, 0x34, 0x00, 0x00, 0x01, 0x00, 0x56, 0x78] := by
  refine ⟨_, _, rfl, rfl, ?_⟩
  decide

end NgGateway.Dl645Session
