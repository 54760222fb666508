import NgGateway.BigEndian
import NgGateway.FrameStreams

namespace NgGateway.S7Frames

open BigEndian FrameStreams List

inductive FrameError where
  | insufficientData (needed available : Nat)
  | protocolViolation (context : String)
  | invalidFrame
  deriving DecidableEq

def u16At (bytes : List UInt8) (index : Nat) : UInt16 :=
  UInt16.ofNat (ofBeBytes ((bytes.drop index).take 2))

def u16Bytes (n : UInt16) : List UInt8 := beBytes 2 n.toNat

inductive S7PduType where
  | job
  | ack
  | ackData
  | userData
  deriving DecidableEq

def S7PduType.toU8 : S7PduType → UInt8
  | .job => 0x01
  | .ack => 0x02
  | .ackData => 0x03
  | .userData => 0x07

def S7PduType.ofU8 (v : UInt8) : Option S7PduType :=
  [S7PduType.job, .ack, .ackData, .userData].find? fun type => type.toU8 = v

/-- An acknowledgement carries an error code behind the header. -/
def S7PduType.hasErrorCode : S7PduType → Bool
  | .ack | .ackData => true
  | .job | .userData => false

def errorCodes : List UInt16 :=
  [0x0000, 0x0110, 0x0111, 0x0112, 0x0113, 0x0114, 0x0115, 0x0116, 0x0117, 0x0118, 0x0119, 0x011A,
    0x011B, 0x011C, 0x011D, 0x011E, 0x011F, 0x0120, 0x0140, 0x0141, 0x8001, 0x8003, 0x8100, 0x8104,
    0x8204, 0x8205, 0x8301, 0x8302, 0x8304, 0x8305, 0x8306, 0x8307, 0x8401, 0x8402, 0x8404, 0x8405,
    0x8500, 0x8503, 0x8701, 0x8702, 0x8703, 0x8704, 0xD001, 0xD002, 0xD003, 0xD004, 0xD005, 0xD006,
    0xD007, 0xD008, 0xD009, 0xD00A, 0xD00B, 0xD011, 0xD012, 0xD014, 0xD015, 0xD016, 0xD017, 0xD025,
    0xD026, 0xD027, 0xD031, 0xD032, 0xD033, 0xD03F, 0xD041, 0xD042, 0xD043, 0xD044, 0xD045, 0xD046,
    0xD047, 0xD048, 0xD049, 0xD04A, 0xD05F, 0xD061, 0xD062, 0xD063, 0xD064, 0xD065, 0xD066, 0xD067,
    0xD081, 0xD082, 0xD0A1, 0xD0A2, 0xD0A3, 0xD0A4, 0xD0A5, 0xD0A6, 0xD0A7, 0xD0A8, 0xD0A9, 0xD0AA,
    0xD0AB, 0xD0AC, 0xD0AD, 0xD0AE, 0xD0C1, 0xD0C2, 0xD0C3, 0xD0C4, 0xD0C5, 0xD0C6, 0xD0C7, 0xD0C8,
    0xD0C9, 0xD0CA, 0xD0CB, 0xD0CC, 0xD201, 0xD202, 0xD205, 0xD206, 0xD208, 0xD209, 0xD20A, 0xD20B,
    0xD20C, 0xD20D, 0xD20E, 0xD20F, 0xD210, 0xD212, 0xD213, 0xD216, 0xD217, 0xD218, 0xD219, 0xD21A,
    0xD21B, 0xD21D, 0xD21E, 0xD220, 0xD221, 0xD222, 0xD223, 0xD224, 0xD225, 0xD226, 0xD230, 0xD231,
    0xD232, 0xD234, 0xD235, 0xD236, 0xD237, 0xD238, 0xD239, 0xD23A, 0xD240, 0xD241, 0xD242, 0xD250,
    0xD251, 0xD252, 0xD253, 0xD254, 0xD280, 0xD2A1, 0xD2A2, 0xD2A3, 0xD2A4, 0xD2A6, 0xD2A7, 0xD2A8,
    0xD2A9, 0xD2AA, 0xD2AB, 0xD2AC, 0xD2B0, 0xD2C0, 0xD2C1, 0xD2C2, 0xD401, 0xD402, 0xD403, 0xD404,
    0xD405, 0xD406, 0xD407, 0xD408, 0xD409, 0xD601, 0xD602, 0xD603, 0xD604, 0xD605, 0xD801, 0xD802,
    0xD803, 0xD804, 0xD805, 0xD806, 0xD807, 0xDC01, 0xE201, 0xE202, 0xE203, 0xE204, 0xE205, 0xE206,
    0xEF01, 0xEF02]

/-- `ErrorCode`, as the number it is on the wire. -/
def ErrorCode : Type := { code : UInt16 // code ∈ errorCodes }

instance : DecidableEq ErrorCode := inferInstanceAs (DecidableEq (Subtype (· ∈ errorCodes)))

def ErrorCode.ofU16 (code : UInt16) : Option ErrorCode :=
  if h : code ∈ errorCodes then some ⟨code, h⟩ else none

structure S7Header where
  protocolId : UInt8
  pduType : S7PduType
  reserved : UInt16
  pduRef : UInt16
  paramLen : UInt16
  payloadLen : UInt16
  errorCode : Option ErrorCode
  deriving DecidableEq

def S7Header.parse (input : List UInt8) : Except FrameError (S7Header × List UInt8) :=
  match input with
  | protocolId :: type :: fields =>
    if fields.length < 8 then .error (.insufficientData 10 input.length)
    else if protocolId ≠ 0x32 then .error .invalidFrame
    else
      match S7PduType.ofU8 type with
      | none => .error .invalidFrame
      | some pduType =>
        let header : S7Header :=
          { protocolId := protocolId
            pduType := pduType
            reserved := u16At fields 0
            pduRef := u16At fields 2
            paramLen := u16At fields 4
            payloadLen := u16At fields 6
            errorCode := none }
        let rest := fields.drop 8
        if pduType.hasErrorCode then
          if rest.length < 2 then .error (.insufficientData 2 rest.length)
          else
            match ErrorCode.ofU16 (u16At rest 0) with
            | none => .error .invalidFrame
            | some code => .ok ({ header with errorCode := some code }, rest.drop 2)
        else .ok (header, rest)
  | _ => .error (.insufficientData 10 input.length)

def headerFields (header : S7Header) : List UInt8 :=
  u16Bytes header.reserved ++ (u16Bytes header.pduRef ++ (u16Bytes header.paramLen ++
    u16Bytes header.payloadLen))

def errorCodeBytes (header : S7Header) : List UInt8 :=
  match header.pduType.hasErrorCode, header.errorCode with
  | true, some code => u16Bytes code.1
  | _, _ => []

def S7Header.encode (header : S7Header) : List UInt8 :=
  header.protocolId :: header.pduType.toU8 :: (headerFields header ++ errorCodeBytes header)

structure S7Pdu where
  header : S7Header
  param : List UInt8
  payload : List UInt8
  deriving DecidableEq

def S7Pdu.parse (input : List UInt8) : Except FrameError (List UInt8 × S7Pdu) := do
  let (header, rest) ← S7Header.parse input
  let paramLen := header.paramLen.toNat
  let payloadLen := header.payloadLen.toNat
  if rest.length < paramLen + payloadLen then throw .invalidFrame
  else
    pure ((rest.drop paramLen).drop payloadLen,
      { header := header
        param := rest.take paramLen
        payload := (rest.drop paramLen).take payloadLen })

def S7Pdu.intoBytes (pdu : S7Pdu) : List UInt8 :=
  pdu.header.encode ++ pdu.param ++ pdu.payload

/-- The header describes the PDU: its lengths, and an error code exactly on an acknowledgement. -/
structure S7Pdu.WellFormed (pdu : S7Pdu) : Prop where
  protocolId : pdu.header.protocolId = 0x32
  paramLen : pdu.header.paramLen.toNat = pdu.param.length
  payloadLen : pdu.header.payloadLen.toNat = pdu.payload.length
  errorCode : pdu.header.errorCode.isSome = pdu.header.pduType.hasErrorCode

@[simp] theorem length_u16Bytes (n) : (u16Bytes n).length = 2 := length_beBytes 2 _

theorem u16At_append (before n rest) :
    u16At (before ++ (u16Bytes n ++ rest)) before.length = n := by
  have htake : (u16Bytes n ++ rest).take 2 = u16Bytes n := by
    rw [← length_u16Bytes n, take_left]
  rw [u16At, drop_left, htake, u16Bytes, ofBeBytes_beBytes_of_lt n.toNat_lt, UInt16.ofNat_toNat]

@[simp] theorem ofU8_pduType (type) : S7PduType.ofU8 type.toU8 = some type := by
  cases type <;> rfl

@[simp] theorem ofU16_errorCode (code) : ErrorCode.ofU16 code.1 = some code :=
  dif_pos code.2

theorem length_headerFields (header : S7Header) : (headerFields header).length = 8 := by
  simp [headerFields]

theorem u16At_headerFields (header : S7Header) (rest) :
    u16At (headerFields header ++ rest) 0 = header.reserved ∧
      u16At (headerFields header ++ rest) 2 = header.pduRef ∧
      u16At (headerFields header ++ rest) 4 = header.paramLen ∧
      u16At (headerFields header ++ rest) 6 = header.payloadLen := by
  simp only [headerFields]
  refine ⟨u16At_append [] _ _, ?_, ?_, ?_⟩
  · exact u16At_append (u16Bytes header.reserved) _ _
  · exact u16At_append (u16Bytes header.reserved ++ u16Bytes header.pduRef) _ _
  · exact u16At_append (u16Bytes header.reserved ++ u16Bytes header.pduRef ++
      u16Bytes header.paramLen) _ _

theorem parse_encode_header (hid : header.protocolId = 0x32)
    (hcode : header.errorCode.isSome = header.pduType.hasErrorCode) (rest) :
    S7Header.parse (header.encode ++ rest) = .ok (header, rest) := by
  obtain ⟨hreserved, href, hparam, hpayload⟩ :=
    u16At_headerFields header (errorCodeBytes header ++ rest)
  have hlen : ¬(headerFields header ++ (errorCodeBytes header ++ rest)).length < 8 := by
    rw [length_append, length_headerFields]
    omega
  have hdrop : (headerFields header ++ (errorCodeBytes header ++ rest)).drop 8 =
      errorCodeBytes header ++ rest := by
    rw [← length_headerFields header, drop_left]
  simp only [S7Header.encode, cons_append, append_assoc, S7Header.parse, hlen, hid, ne_eq,
    not_true_eq_false, ofU8_pduType, hreserved, href, hparam, hpayload, hdrop]
  rcases herror : header.errorCode with - | code
  · rw [herror] at hcode
    simp only [← hcode, Option.isSome_none, Bool.false_eq_true, if_false, errorCodeBytes,
      nil_append]
    rw [← hid, ← herror]
  · rw [herror] at hcode
    have hbytes : errorCodeBytes header = u16Bytes code.1 := by
      simp only [errorCodeBytes, ← hcode, Option.isSome_some, herror]
    have hshort : ¬(u16Bytes code.1 ++ rest).length < 2 := by
      rw [length_append, length_u16Bytes]
      omega
    have hread : u16At (u16Bytes code.1 ++ rest) 0 = code.1 := u16At_append [] code.1 rest
    have hrest : (u16Bytes code.1 ++ rest).drop 2 = rest := by
      rw [← length_u16Bytes code.1, drop_left]
    simp only [← hcode, Option.isSome_some, if_true, hbytes, hshort, if_false, hread,
      ofU16_errorCode, hrest]
    rw [← hid, ← herror]

theorem parse_intoBytes (h : pdu.WellFormed) : S7Pdu.parse pdu.intoBytes = .ok ([], pdu) := by
  have hhdr := parse_encode_header h.protocolId h.errorCode (pdu.param ++ pdu.payload)
  have henough : ¬(pdu.param ++ pdu.payload).length < pdu.param.length + pdu.payload.length := by
    rw [length_append]
    omega
  simp only [S7Pdu.parse, S7Pdu.intoBytes, append_assoc, hhdr]
  change (if (pdu.param ++ pdu.payload).length <
    pdu.header.paramLen.toNat + pdu.header.payloadLen.toNat then _ else _) = _
  rw [h.paramLen, h.payloadLen, if_neg henough, drop_left, take_left, drop_length, take_length]
  rfl

theorem intoBytes_ne_nil (pdu : S7Pdu) : pdu.intoBytes ≠ [] := nofun

structure ClassOption where
  classNumber : UInt8
  extendedFormat : Bool
  noExplicitFlowControl : Bool
  deriving DecidableEq

def ClassOption.ofU8 (b : UInt8) : ClassOption where
  classNumber := (b >>> 4) &&& 0x0F
  extendedFormat := b &&& 0b10 ≠ 0
  noExplicitFlowControl := b &&& 0b01 ≠ 0

structure CotpConnectParams where
  dstRef : UInt16
  srcRef : UInt16
  classOption : ClassOption
  tpduSize : UInt8
  srcTsap : UInt16
  dstTsap : UInt16
  deriving DecidableEq

structure CotpDrParams where
  dstRef : UInt16
  srcRef : UInt16
  classOption : ClassOption
  additionalInfo : Option (List UInt8)
  deriving DecidableEq

structure CotpDcParams where
  dstRef : UInt16
  srcRef : UInt16
  deriving DecidableEq

structure CotpReParams where
  dstRef : UInt16
  cause : UInt8
  deriving DecidableEq

structure CotpDataParams where
  eot : Bool
  tpduNr : UInt8
  deriving DecidableEq

inductive Cotp where
  | cr (params : CotpConnectParams)
  | cc (params : CotpConnectParams)
  | dr (params : CotpDrParams)
  | dc (params : CotpDcParams)
  | re (params : CotpReParams)
  | d (params : CotpDataParams)
  deriving DecidableEq

/-- The parameters code, length, value of a body; fewer than two bytes at the end are ignored. -/
def parseTlvs (fuel : Nat) (data : List UInt8) : Except FrameError (List (UInt8 × List UInt8)) :=
  match fuel, data with
  | fuel + 1, code :: len :: rest =>
    if rest.length < len.toNat then .error .invalidFrame
    else do
      let tlvs ← parseTlvs fuel (rest.drop len.toNat)
      pure ((code, rest.take len.toNat) :: tlvs)
  | _, _ => .ok []

def lastTlv (tlvs : List (UInt8 × List UInt8)) (code : UInt8) (len : Nat) : Option (List UInt8) :=
  (tlvs.reverse.find? fun tlv => tlv.1 = code ∧ tlv.2.length = len).map Prod.snd

def parseConnectionParams (data : List UInt8) : Except FrameError (UInt8 × UInt16 × UInt16) := do
  let tlvs ← parseTlvs data.length data
  match lastTlv tlvs 0xC0 1, lastTlv tlvs 0xC1 2, lastTlv tlvs 0xC2 2 with
  | some tpduSize, some srcTsap, some dstTsap =>
    pure (tpduSize.headD 0, u16At srcTsap 0, u16At dstTsap 0)
  | _, _, _ => throw .invalidFrame

def CotpConnectParams.parseBody (body : List UInt8) : Except FrameError CotpConnectParams := do
  if body.length < 5 then throw .invalidFrame
  else
    let (tpduSize, srcTsap, dstTsap) ← parseConnectionParams (body.drop 5)
    pure
      { dstRef := u16At body 0
        srcRef := u16At body 2
        classOption := ClassOption.ofU8 (body.getD 4 0)
        tpduSize := tpduSize
        srcTsap := srcTsap
        dstTsap := dstTsap }

def CotpDrParams.parseBody (body : List UInt8) : Except FrameError CotpDrParams := do
  if body.length < 5 then throw .invalidFrame
  else
    let tlvs ← parseTlvs body.length (body.drop 5)
    pure
      { dstRef := u16At body 0
        srcRef := u16At body 2
        classOption := ClassOption.ofU8 (body.getD 4 0)
        additionalInfo := (tlvs.reverse.find? fun tlv => tlv.1 = 0xE0).map Prod.snd }

def CotpDcParams.parseBody (body : List UInt8) : Except FrameError CotpDcParams :=
  if body.length < 4 then .error .invalidFrame
  else .ok ⟨u16At body 0, u16At body 2⟩

def CotpReParams.parseBody (body : List UInt8) : Except FrameError CotpReParams :=
  if body.length < 3 then .error .invalidFrame
  else .ok ⟨u16At body 0, body.getD 2 0⟩

def CotpDataParams.parseBody : List UInt8 → Except FrameError CotpDataParams
  | [] => .error .invalidFrame
  | eotNr :: _ => .ok ⟨eotNr &&& 0x80 ≠ 0, eotNr &&& 0x7F⟩

open CotpDataParams (parseBody)

def Cotp.parse (input : List UInt8) : Except FrameError Cotp :=
  match input with
  | li :: type :: rest =>
    if 1 + li.toNat > input.length ∨ li.toNat < 1 then
      .error (.protocolViolation "invalid COTP LI")
    else
      let body := rest.take (li.toNat - 1)
      if type = 0xF0 then (CotpDataParams.parseBody body).map .d
      else if type = 0xE0 then (CotpConnectParams.parseBody body).map .cr
      else if type = 0xD0 then (CotpConnectParams.parseBody body).map .cc
      else if type = 0x80 then (CotpDrParams.parseBody body).map .dr
      else if type = 0xC0 then (CotpDcParams.parseBody body).map .dc
      else if type = 0x70 then (CotpReParams.parseBody body).map .re
      else .error (.protocolViolation "unknown COTP PDU type")
  | _ => .error (.insufficientData 2 input.length)

inductive S7AppBody where
  | segmented (data : List UInt8)
  | parsed (pdu : S7Pdu)
  deriving DecidableEq

structure Tpkt where
  version : UInt8
  reserved : UInt8
  length : UInt16
  deriving DecidableEq

structure S7Message where
  tpkt : Tpkt
  cotp : Cotp
  app : Option S7AppBody
  deriving DecidableEq

inductive CodecError where
  | invalidTpktHeader
  | invalidTpktLength
  | cotp (e : FrameError)
  deriving DecidableEq

/-- The application body of the user data: a last segment that parses is taken for a PDU. -/
def appBody (eot : Bool) (user : List UInt8) : Option S7AppBody :=
  if user = [] then none
  else if eot then
    match S7Pdu.parse user with
    | .ok (_, pdu) => some (.parsed pdu)
    | .error _ => some (.segmented user)
  else some (.segmented user)

/-- The application body of a frame; a data TPDU has a header of three bytes behind the TPKT. -/
def frameBody (frame : List UInt8) : Cotp → Option S7AppBody
  | .d params => if 7 ≤ frame.length then appBody params.eot (frame.drop 7) else none
  | _ => none

/-- `Codec::decode`: nothing yet, or a message and what is left of the buffer. -/
def decode (src : List UInt8) : Except CodecError (Option (S7Message × List UInt8)) :=
  match src with
  | version :: reserved :: hi :: lo :: _ =>
    let length := ofBeBytes [hi, lo]
    if version ≠ 0x03 ∨ reserved ≠ 0x00 then .error .invalidTpktHeader
    else if length < 4 then .error .invalidTpktLength
    else if src.length < length then .ok none
    else
      let frame := src.take length
      match Cotp.parse (frame.drop 4) with
      | .error e => .error (.cotp e)
      | .ok cotp =>
        .ok (some
          ({ tpkt := ⟨version, reserved, UInt16.ofNat length⟩
             cotp := cotp
             app := frameBody frame cotp }, src.drop length))
  | _ => .ok none

theorem decode_of_frame {tail : List UInt8} (hsrc : src = version :: reserved :: hi :: lo :: tail)
    (hhdr : ¬(version ≠ 0x03 ∨ reserved ≠ 0x00)) (hlen : ¬ofBeBytes [hi, lo] < 4)
    (henough : ¬src.length < ofBeBytes [hi, lo]) :
    decode src =
      match Cotp.parse ((src.take (ofBeBytes [hi, lo])).drop 4) with
      | .error e => .error (.cotp e)
      | .ok cotp =>
        .ok (some
          ({ tpkt := ⟨version, reserved, UInt16.ofNat (ofBeBytes [hi, lo])⟩
             cotp := cotp
             app := frameBody (src.take (ofBeBytes [hi, lo])) cotp },
            src.drop (ofBeBytes [hi, lo]))) := by
  subst hsrc
  rw [decode, if_neg hhdr, if_neg hlen, if_neg henough]

theorem decode_append (hdecided : decode src ≠ .ok none) (more) :
    decode (src ++ more) = (decode src).map (Option.map (Prod.map id (· ++ more))) := by
  rcases src with - | ⟨version, - | ⟨reserved, - | ⟨hi, - | ⟨lo, tail⟩⟩⟩⟩
  · exact absurd rfl hdecided
  · exact absurd rfl hdecided
  · exact absurd rfl hdecided
  · exact absurd rfl hdecided
  · by_cases hhdr : version ≠ 0x03 ∨ reserved ≠ 0x00
    · simp only [cons_append, decode, if_pos hhdr]
      rfl
    · by_cases hlen : ofBeBytes [hi, lo] < 4
      · simp only [cons_append, decode, if_neg hhdr, if_pos hlen]
        rfl
      · by_cases hshort : (version :: reserved :: hi :: lo :: tail).length < ofBeBytes [hi, lo]
        · exfalso
          apply hdecided
          rw [decode, if_neg hhdr, if_neg hlen, if_pos hshort]
        · have hshort' : ¬(version :: reserved :: hi :: lo :: tail ++ more).length <
              ofBeBytes [hi, lo] := by
            rw [length_append]
            omega
          have hle := Nat.le_of_not_lt hshort
          rw [decode_of_frame rfl hhdr hlen hshort, decode_of_frame (by rfl) hhdr hlen
            hshort', take_append_of_le_length hle, drop_append_of_le_length hle]
          split
          · rfl
          · rfl

theorem length_lt_of_decode
    (h : decode src = .ok (some (msg, rest))) : rest.length < src.length := by
  unfold decode at h
  split at h
  · simp only at h
    split at h
    · cases h
    · split at h
      · cases h
      · split at h
        · cases h
        · split at h
          · cases h
          · cases h
            rw [length_drop]
            omega
  · cases h

theorem incremental_decode : Incremental decode where
  nil := rfl
  shorter := length_lt_of_decode
  more_ok := by
    intro buf rest msg h more
    rw [decode_append (by rw [h]; nofun), h]
    rfl
  more_error := by
    intro buf e h more
    rw [decode_append (by rw [h]; nofun), h]
    rfl

def eotNr (params : CotpDataParams) : UInt8 :=
  if params.eot then 0x80 ||| params.tpduNr else params.tpduNr

def dataFrame (params : CotpDataParams) (user : List UInt8) : List UInt8 :=
  [0x03, 0x00] ++ beBytes 2 (7 + user.length) ++ [0x02, 0xF0, eotNr params] ++ user

def dataMessage (params : CotpDataParams) (user : List UInt8) : S7Message where
  tpkt := ⟨0x03, 0x00, UInt16.ofNat (7 + user.length)⟩
  cotp := .d params
  app := appBody params.eot user

variable {params : CotpDataParams}

theorem parseBody_eotNr (hnr : params.tpduNr < 0x80) : parseBody [eotNr params] = .ok params := by
  have hbits : ∀ n : Fin 128, (0x80 ||| UInt8.ofNat n.val) &&& 0x80 ≠ 0 ∧
      (0x80 ||| UInt8.ofNat n.val) &&& 0x7F = UInt8.ofNat n.val ∧
      UInt8.ofNat n.val &&& 0x80 = 0 ∧ UInt8.ofNat n.val &&& 0x7F = UInt8.ofNat n.val := by
    decide
  have hlt : params.tpduNr.toNat < 128 := UInt8.lt_iff_toNat_lt.mp hnr
  obtain ⟨hset, hkeep, hclear, hsame⟩ := hbits ⟨params.tpduNr.toNat, hlt⟩
  rw [UInt8.ofNat_toNat] at hset hkeep hclear hsame
  rcases params with ⟨- | -, nr⟩
  · simp only [eotNr, Bool.false_eq_true, if_false, parseBody] at hclear hsame ⊢
    rw [hclear, hsame]
    rfl
  · simp only [eotNr, if_true, parseBody] at hset hkeep ⊢
    rw [hkeep, decide_eq_true hset]

section

variable (eotNr : UInt8) (extra user : List UInt8)

/-- A data frame whose COTP header has `extra` behind its third byte. -/
def headedFrame : List UInt8 :=
  [0x03, 0x00] ++ beBytes 2 (7 + (extra ++ user).length) ++
    [UInt8.ofNat (2 + extra.length), 0xF0, eotNr] ++ (extra ++ user)

def headedMessage (app : Bool → Option S7AppBody) : S7Message where
  tpkt := ⟨0x03, 0x00, UInt16.ofNat (7 + (extra ++ user).length)⟩
  cotp := .d ⟨eotNr &&& 0x80 ≠ 0, eotNr &&& 0x7F⟩
  app := app (eotNr &&& 0x80 ≠ 0)

variable {extra user}

theorem decode_headedFrame (hli : 2 + extra.length < 256)
    (hfits : 7 + (extra ++ user).length < 65536) (rest) :
    decode (headedFrame eotNr extra user ++ rest) =
      .ok (some (headedMessage eotNr extra user (appBody · (extra ++ user)), rest)) := by
  obtain ⟨hi, lo, hpair⟩ : ∃ hi lo, beBytes 2 (7 + (extra ++ user).length) = [hi, lo] := ⟨_, _, rfl⟩
  have hlen : ofBeBytes [hi, lo] = 7 + (extra ++ user).length := by
    rw [← hpair]
    exact ofBeBytes_beBytes_of_lt hfits
  have hframe : headedFrame eotNr extra user = 0x03 :: 0x00 :: hi :: lo ::
      UInt8.ofNat (2 + extra.length) :: 0xF0 :: eotNr :: (extra ++ user) := by
    rw [headedFrame, hpair]
    rfl
  have hsize : (headedFrame eotNr extra user).length = ofBeBytes [hi, lo] := by
    rw [hframe, hlen]
    simp only [length_cons]
    omega
  have hcotp : Cotp.parse ((headedFrame eotNr extra user).drop 4) =
      .ok (.d ⟨eotNr &&& 0x80 ≠ 0, eotNr &&& 0x7F⟩) := by
    have hnat : (UInt8.ofNat (2 + extra.length)).toNat = 2 + extra.length :=
      UInt8.toNat_ofNat_of_lt' hli
    rw [hframe]
    simp only [drop_succ_cons, drop_zero, Cotp.parse, hnat, length_cons, length_append]
    rw [if_neg (by omega), if_pos trivial, Nat.add_comm 2]
    rfl
  rw [decode_of_frame (by rw [hframe]; rfl) (by decide) (by omega)
    (by rw [length_append]; omega), ← hsize, take_left, drop_left, hcotp, hsize, hlen]
  dsimp only [frameBody]
  rw [if_pos (by omega), hframe]
  rfl

theorem appBody_eq_none_iff : appBody eot user = none ↔ user = [] := by
  unfold appBody
  split_ifs with huser
  · exact iff_of_true rfl huser
  · split <;> simp [huser]
  · simp [huser]

theorem decode_headedFrame_iff (hli : 2 + extra.length < 256) :
    ((∀ user rest, 7 + (extra ++ user).length < 65536 →
      decode (headedFrame eotNr extra user ++ rest) =
        .ok (some (headedMessage eotNr extra user (appBody · user), rest))) ↔ extra = []) ∧
      ∀ chunks chunks' : List (List UInt8), chunks.flatten = chunks'.flatten →
        (feed decode [] chunks).messages = (feed decode [] chunks').messages := by
  refine ⟨⟨fun hall => ?_, ?_⟩, fun _ _ => messages_feed_nil incremental_decode⟩
  · have hfits : 7 + (extra ++ []).length < 65536 := by
      rw [append_nil]
      omega
    have hdec := (decode_headedFrame eotNr hli hfits []).symm.trans (hall [] [] hfits)
    have happ : appBody (eotNr &&& 0x80 ≠ 0) (extra ++ []) = appBody (eotNr &&& 0x80 ≠ 0) [] := by
      simpa [headedMessage] using hdec
    rwa [append_nil, appBody_eq_none_iff.mpr rfl, appBody_eq_none_iff] at happ
  · rintro rfl user rest hfits
    exact decode_headedFrame eotNr hli hfits rest

theorem decode_headedFrame_plain :
    2 + ([] : List UInt8).length < 256 ∧
      ((∀ user rest, 7 + ([] ++ user).length < 65536 →
        decode (headedFrame 0x80 [] user ++ rest) =
          .ok (some (headedMessage 0x80 [] user (appBody · user), rest))) ↔
            ([] : List UInt8) = []) ∧
        ∀ chunks chunks' : List (List UInt8), chunks.flatten = chunks'.flatten →
          (feed decode [] chunks).messages = (feed decode [] chunks').messages :=
  ⟨by decide, decode_headedFrame_iff 0x80 (by decide)⟩

/-- The fourth byte of the COTP header is handed up before the user data. -/
theorem decode_headedFrame_longHeader :
    headedFrame 0 [1] [2] = [3, 0, 0, 9, 3, 0xF0, 0, 1, 2] ∧
      decode [3, 0, 0, 9, 3, 0xF0, 0, 1, 2] =
        .ok (some (⟨⟨3, 0, 9⟩, .d ⟨false, 0⟩, some (.segmented [1, 2])⟩, [])) := by
  decide +kernel

end

theorem decode_dataFrame (hnr : params.tpduNr < 0x80) (hfits : 7 + user.length < 65536) (rest) :
    decode (dataFrame params user ++ rest) = .ok (some (dataMessage params user, rest)) := by
  have hparams : ⟨eotNr params &&& 0x80 ≠ 0, eotNr params &&& 0x7F⟩ = params :=
    Except.ok.inj (parseBody_eotNr hnr)
  have heot : decide (eotNr params &&& 0x80 ≠ 0) = params.eot := congrArg CotpDataParams.eot hparams
  have hdec := decode_headedFrame (eotNr params) (by decide : 2 + ([] : List UInt8).length < 256)
    hfits rest
  rwa [headedMessage, hparams, heot] at hdec

end NgGateway.S7Frames
