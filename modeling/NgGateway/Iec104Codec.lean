import NgGateway.FrameStreams
import NgGateway.Iec104Asdu
import NgGateway.Iec104Frame

namespace NgGateway.Iec104Codec

open ByteReaders FrameStreams Iec104Asdu List
open Iec104Frame hiding Asdu Apdu
open Asdu (tryFrom)

structure Apdu where
  apci : Apci
  asdu : Option Asdu

def encodeApci (apci : Apci) : List UInt8 :=
  [apci.start, apci.apduLength, apci.ctrl1, apci.ctrl2, apci.ctrl3, apci.ctrl4]

def encodeIdentifier (identifier : Identifier) : List UInt8 :=
  [identifier.typeId.toU8, identifier.variableStruct.raw, identifier.cot.raw, identifier.origAddr,
    identifier.commonAddr.toUInt8, (identifier.commonAddr >>> 8).toUInt8]

def encodeAsdu (asdu : Asdu) : List UInt8 := encodeIdentifier asdu.identifier ++ asdu.raw

def encode (apdu : Apdu) : List UInt8 :=
  encodeApci apdu.apci ++ (apdu.asdu.map encodeAsdu).getD []

/-- An unreadable ASDU is dropped. The body of a frame other than an I frame stays in the buffer. -/
def decode (buf : List UInt8) : Except String (Option (Apdu × List UInt8)) :=
  match buf with
  | start :: apduLength :: ctrl1 :: ctrl2 :: ctrl3 :: ctrl4 :: body =>
    let len := apduLength.toNat + 2
    if ¬(apciFieldSize ≤ len ∧ len ≤ apduSizeMax) then
      .error ("Invalid APDU length:" ++ toString len)
    else if buf.length < len then .ok none
    else if start ≠ startFrame then .error ("Invalid start frame:" ++ toString start)
    else
      let apci : Apci := ⟨start, apduLength, ctrl1, ctrl2, ctrl3, ctrl4⟩
      match apci.kind with
      | .i _ =>
        let size := len - apciFieldSize
        .ok (some (⟨apci, (Asdu.tryFrom (body.take size)).toOption⟩, body.drop size))
      | _ => .ok (some (⟨apci, none⟩, body))
  | _ => .ok none

inductive Frame where
  | i (asdu : Asdu) (sendSn rcvSn : UInt16)
  | s (rcvSn : UInt16)
  | u (function : UInt8)

def onLink (asdu : Asdu) : Iec104Frame.Asdu := ⟨encodeIdentifier asdu.identifier, asdu.raw⟩

def Frame.apdu : Frame → Apdu
  | .i asdu sendSn rcvSn => ⟨(newIframe (onLink asdu) sendSn rcvSn).apci, some asdu⟩
  | .s rcvSn => ⟨(newSframe rcvSn).apci, none⟩
  | .u function => ⟨(newUframe function).apci, none⟩

def Frame.kind : Frame → ApciKind
  | .i _ sendSn rcvSn => .i ⟨sendSn, rcvSn⟩
  | .s rcvSn => .s ⟨rcvSn⟩
  | .u function => .u ⟨function⟩

def uFunctions : List UInt8 :=
  [uStartdtActive, uStartdtConfirm, uStopdtActive, uStopdtConfirm, uTestfrActive, uTestfrConfirm]

def Frame.Encodable : Frame → Prop
  | .i asdu _ _ => iframeWireSizeForAsdu (onLink asdu) ≤ apduSizeMax
  | .s _ => True
  | .u function => function ∈ uFunctions

def Frame.Numbers15 : Frame → Prop
  | .i _ sendSn rcvSn => sendSn.toNat < 32768 ∧ rcvSn.toNat < 32768
  | .s rcvSn => rcvSn.toNat < 32768
  | .u _ => True

theorem ofU8_toU8 (typeId) : TypeID.ofU8 typeId.toU8 = some typeId := by
  cases typeId <;> rfl

theorem ofNat_leBytes (n : UInt16) :
    UInt16.ofNat (n.toUInt8.toNat + 256 * (n >>> 8).toUInt8.toNat) = n := by
  have hn := n.toNat_lt
  apply UInt16.toNat_inj.mp
  simp [Nat.shiftRight_eq_div_pow]
  omega

theorem okOr_some_run (a : α) : (okOr e (some a)).run bytes = .ok (a, bytes) := rfl

theorem tryFrom_encodeAsdu : tryFrom (encodeAsdu asdu) = .ok asdu := by
  have hcause : CauseOfTransmission.ofU8 asdu.identifier.cot.raw = some asdu.identifier.cot :=
    dif_pos asdu.identifier.cot.valid
  have hread : readIdentifier.run (encodeAsdu asdu) = .ok (asdu.identifier, asdu.raw) := by
    change readIdentifier.run (_ :: _ :: _ :: _ :: _ :: _ :: asdu.raw) = _
    rw [readIdentifier, bind_run_of_ok (readU8_cons _ _ _), ofU8_toU8,
      bind_run_of_ok (okOr_some_run _), bind_run_of_ok (readU8_cons _ _ _),
      bind_run_of_ok (readU8_cons _ _ _), hcause, bind_run_of_ok (okOr_some_run _),
      bind_run_of_ok (readU8_cons _ _ _), bind_run_of_ok (readU16_cons _ _ _ _), ofNat_leBytes]
    rfl
  rw [tryFrom, hread]
  rfl

theorem decode_append (rest) (hstart : apci.start = startFrame)
    (hlen : apci.apduLength.toNat = 4 + body.length) (hmax : body.length ≤ 249) :
    decode (encodeApci apci ++ (body ++ rest)) = .ok (some
      (match apci.kind with
      | .i _ => (⟨apci, (tryFrom body).toOption⟩, rest)
      | _ => (⟨apci, none⟩, body ++ rest))) := by
  have hsize : apci.apduLength.toNat + 2 - apciFieldSize = body.length := by
    rw [hlen, apciFieldSize]
    omega
  have hbuf : ¬(encodeApci apci ++ (body ++ rest)).length < apci.apduLength.toNat + 2 := by
    simp [encodeApci]
    omega
  have hrange : apciFieldSize ≤ apci.apduLength.toNat + 2 ∧
      apci.apduLength.toNat + 2 ≤ apduSizeMax := by
    simp [apciFieldSize, apduSizeMax]
    omega
  rcases apci with ⟨start, apduLength, ctrl1, ctrl2, ctrl3, ctrl4⟩
  change (if ¬(_ ∧ _) then _ else _) = _
  rw [if_neg (not_not.mpr hrange), if_neg hbuf, if_neg (not_not.mpr hstart), hsize]
  dsimp only
  cases Apci.kind ⟨start, apduLength, ctrl1, ctrl2, ctrl3, ctrl4⟩ with
  | i _ =>
    change Except.ok (some (Apdu.mk _ (tryFrom ((body ++ rest).take body.length)).toOption,
      (body ++ rest).drop body.length)) = _
    rw [take_left, drop_left]
  | u _ | s _ => rfl

theorem kind_apdu {frame : Frame} (h : frame.Encodable) (hnums : frame.Numbers15) :
    frame.apdu.apci.kind = frame.kind := by
  cases frame with
  | i asdu sendSn rcvSn => exact kind_newIframe _ hnums.1 hnums.2
  | s rcvSn => exact (kind_newSframe rcvSn).trans (by rw [ctrlNumber_encode hnums]; rfl)
  | u function =>
    have hall : uFunctions.all fun f => (f ||| 0x03) &&& 0xfc = f := by decide
    have hback := of_decide_eq_true (all_eq_true.mp hall function h)
    exact (kind_newUframe function).trans (by rw [hback]; rfl)

/-- An encodable frame comes back with its numbers or function, and leaves what follows it. -/
theorem decode_encode_append (frame : Frame) (h : frame.Encodable) (rest : List UInt8) :
    decode (encode frame.apdu ++ rest) = .ok (some (frame.apdu, rest)) ∧
      (frame.Numbers15 → frame.apdu.apci.kind = frame.kind) := by
  refine ⟨?_, kind_apdu h⟩
  cases frame with
  | i asdu sendSn rcvSn =>
    have hsize : 12 + asdu.raw.length ≤ 255 := h
    obtain ⟨iapci, hkind⟩ := exists_kind_newIframe (onLink asdu) sendSn rcvSn
    have hbody : (encodeAsdu asdu).length = 6 + asdu.raw.length := length_append
    have hlen : (newIframe (onLink asdu) sendSn rcvSn).apci.apduLength.toNat =
        4 + (encodeAsdu asdu).length := by
      change (4 + 6 + UInt8.ofNat asdu.raw.length).toNat = _
      rw [UInt8.toNat_add, UInt8.toNat_ofNat', hbody]
      change (10 + _) % 256 = _
      omega
    refine (decode_append rest rfl hlen (by omega)).trans ?_
    rw [hkind, tryFrom_encodeAsdu]
    rfl
  | s rcvSn =>
    have hlen : (newSframe rcvSn).apci.apduLength.toNat = 4 + ([] : List UInt8).length := rfl
    refine (decode_append rest rfl hlen (Nat.zero_le _)).trans ?_
    rw [kind_newSframe]
    rfl
  | u function =>
    have hlen : (newUframe function).apci.apduLength.toNat = 4 + ([] : List UInt8).length := rfl
    refine (decode_append rest rfl hlen (Nat.zero_le _)).trans ?_
    rw [kind_newUframe]
    rfl

def interrogation : Asdu := ⟨⟨.cIcNa1, ⟨1⟩, ⟨6, by decide⟩, 0, 1⟩, [0, 0, 0, 20]⟩

theorem decode_encode_interrogation :
    decode (encode (Frame.i interrogation 3 5).apdu ++ [0x68]) =
      .ok (some ((Frame.i interrogation 3 5).apdu, [0x68])) :=
  (decode_encode_append (.i interrogation 3 5) (by change _ ≤ _; decide) [0x68]).1

theorem readU8_inv (h : (readU8 eof).run bytes = .ok (b, rest)) : bytes = b :: rest := by
  cases bytes with
  | nil => cases h
  | cons c bytes =>
    rw [readU8_cons] at h
    cases h
    rfl

theorem readU16_inv (h : (readU16 eof).run bytes = .ok (n, rest)) :
    bytes = n.toUInt8 :: (n >>> 8).toUInt8 :: rest := by
  rcases bytes with - | ⟨lo, - | ⟨hi, bytes⟩⟩
  · cases h
  · cases h
  · rw [readU16_cons] at h
    cases h
    have hlo : (UInt16.ofNat (lo.toNat + 256 * hi.toNat)).toUInt8 = lo := by
      apply UInt8.toNat_inj.mp
      simp
    have hhi : (UInt16.ofNat (lo.toNat + 256 * hi.toNat) >>> 8).toUInt8 = hi := by
      have := lo.toNat_lt
      have := hi.toNat_lt
      apply UInt8.toNat_inj.mp
      simp [Nat.shiftRight_eq_div_pow]
      omega
    rw [hlo, hhi]

theorem okOr_inv (h : (okOr e o).run bytes = .ok (a, rest)) : o = some a ∧ bytes = rest := by
  cases o with
  | none => cases h
  | some b =>
    cases h
    exact ⟨rfl, rfl⟩

theorem exists_of_tryFrom (h : tryFrom bytes = .ok asdu) :
    ∃ value, TypeID.ofU8 value = some asdu.identifier.typeId ∧
      bytes = value :: (encodeAsdu asdu).tail := by
  rw [tryFrom] at h
  rcases hread : readIdentifier.run bytes with e | ⟨identifier, rest⟩
  · rw [hread] at h
    cases h
  · rw [hread] at h
    cases h
    obtain ⟨value, _, hval, h⟩ := bind_run_eq_ok_iff.mp hread
    obtain ⟨typeId, _, htype, h⟩ := bind_run_eq_ok_iff.mp h
    obtain ⟨struct, _, hstruct, h⟩ := bind_run_eq_ok_iff.mp h
    obtain ⟨cause, _, hcause, h⟩ := bind_run_eq_ok_iff.mp h
    obtain ⟨cot, _, hcot, h⟩ := bind_run_eq_ok_iff.mp h
    obtain ⟨orig, _, horig, h⟩ := bind_run_eq_ok_iff.mp h
    obtain ⟨common, _, hcommon, h⟩ := bind_run_eq_ok_iff.mp h
    cases h
    obtain ⟨hid, rfl⟩ := okOr_inv htype
    obtain ⟨hvalid, rfl⟩ := okOr_inv hcot
    rw [CauseOfTransmission.ofU8] at hvalid
    split at hvalid
    · cases hvalid
      obtain rfl := readU16_inv hcommon
      obtain rfl := readU8_inv horig
      obtain rfl := readU8_inv hcause
      obtain rfl := readU8_inv hstruct
      obtain rfl := readU8_inv hval
      exact ⟨value, hid, rfl⟩
    · cases hvalid

/-- An ASDU that was read is written as the same bytes exactly if its type is not one of 52 to 57.
-/
theorem encodeAsdu_eq_iff {bytes : List UInt8} {asdu : Asdu} (h : Asdu.tryFrom bytes = .ok asdu) :
    encodeAsdu asdu = bytes ↔ ¬∃ value ∈ bytes.head?, 52 ≤ value ∧ value ≤ 57 := by
  obtain ⟨value, htype, rfl⟩ := exists_of_tryFrom h
  have hsame : encodeAsdu asdu = value :: (encodeAsdu asdu).tail ↔
      asdu.identifier.typeId.toU8 = value := cons_eq_cons.trans (and_iff_left rfl)
  rw [hsame, head?_cons]
  rw [TypeID.ofU8] at htype
  split at htype
  · rename_i hfolded
    refine iff_of_false ?_ fun hnone => hnone ⟨value, rfl, hfolded⟩
    rw [← Option.some.inj htype]
    rintro rfl
    exact absurd hfolded (by decide)
  · rename_i hother
    have hfound := find?_some htype
    refine iff_of_true (of_decide_eq_true hfound) ?_
    rintro ⟨_, ⟨⟩, hrange⟩
    exact hother hrange

theorem encodeAsdu_interrogation :
    Asdu.tryFrom [100, 1, 6, 0, 1, 0, 0, 0, 0, 20] = .ok interrogation ∧
      encodeAsdu interrogation = [100, 1, 6, 0, 1, 0, 0, 0, 0, 20] :=
  ⟨rfl, (encodeAsdu_eq_iff rfl).mpr (by decide)⟩

theorem exists_tryFrom_of_folded_type : ∃ asdu, Asdu.tryFrom [52, 1, 3, 0, 1, 0] = .ok asdu ∧
    encodeAsdu asdu = [16, 1, 3, 0, 1, 0] :=
  ⟨_, rfl, rfl⟩

/-- What the decoder takes of a frame: all of an I frame, the APCI alone of another. -/
def taken (apci : Apci) : Nat :=
  match apci.kind with
  | .i _ => apci.apduLength.toNat + 2
  | _ => apciFieldSize

theorem decode_append_of_decided (h : decode buf ≠ .ok none) : decode (buf ++ more) =
      (decode buf).map (Option.map fun (apdu, rest) => (apdu, rest ++ more)) := by
  rcases buf with - | ⟨start, - | ⟨apduLength, - | ⟨c1, - | ⟨c2, - | ⟨c3, - | ⟨c4, body⟩⟩⟩⟩⟩⟩
  iterate 6 exact absurd rfl h
  dsimp only [cons_append, decode, length_cons] at h ⊢
  split at h
  · rename_i hrange
    rw [if_pos hrange, if_pos hrange]
    rfl
  · rename_i hrange
    rw [if_neg hrange, if_neg hrange]
    split at h
    · exact absurd rfl h
    · rename_i hbuf
      have hsize : apduLength.toNat + 2 - apciFieldSize ≤ body.length := by
        rw [apciFieldSize]
        omega
      rw [if_neg hbuf, if_neg (by rw [length_append]; omega),
        take_append_of_le_length hsize, drop_append_of_le_length hsize]
      split
      · rfl
      · split <;> rfl

theorem length_of_decode (h : decode buf = .ok (some (apdu, rest))) :
    buf.length = taken apdu.apci + rest.length := by
  rcases buf with - | ⟨start, - | ⟨apduLength, - | ⟨c1, - | ⟨c2, - | ⟨c3, - | ⟨c4, body⟩⟩⟩⟩⟩⟩
  iterate 6 cases h
  rw [decode] at h
  dsimp only [length_cons] at h ⊢
  split_ifs at h with hrange hbuf hstart
  · cases h
  rw [taken]
  split at h <;> cases h <;> rename_i hkind
  · rw [hkind, length_drop]
    dsimp only [apciFieldSize] at *
    omega
  · split
    · rename_i hi
      exact absurd hi (hkind _)
    · exact Nat.add_comm _ apciFieldSize

theorem incremental_decode : Incremental decode where
  nil := rfl
  shorter {_ _ apdu} h := by
    have hlen := length_of_decode h
    have htaken : 0 < taken apdu.apci := by
      rw [taken]
      split
      · exact Nat.succ_pos _
      · exact Nat.succ_pos _
    omega
  more_ok h more := by rw [decode_append_of_decided (by rw [h]; simp), h]; rfl
  more_error h more := by rw [decode_append_of_decided (by rw [h]; simp), h]; rfl

/-- The decoded APDUs of a stream that arrives in chunks, each with the bytes it took. -/
def received (chunks : List (List UInt8)) : List (Apdu × Nat) :=
  (feed (counted decode) [] chunks).messages

theorem taken_of_mem_received (hx : x ∈ received chunks) : x.2 = taken x.1.apci := by
  have hdrains : Drains _ ([] ++ chunks.flatten) (received chunks) _ _ :=
    drains_feed incremental_decode.counted rfl
  refine hdrains.forall_mem (P := fun x => x.2 = taken x.1.apci) ?_ x hx
  intro buf rest m h
  obtain ⟨h, hcount⟩ := counted_eq_some_iff.mp h
  rw [hcount, length_of_decode h, Nat.add_sub_cancel]

theorem taken_eq_iff : taken apci = apci.apduLength.toNat + 2 ↔
    apci.ctrl1 &&& 0x01 = 0 ∨ apci.apduLength = 4 := by
  have hfour : apciFieldSize = apci.apduLength.toNat + 2 ↔ apci.apduLength = 4 := by
    rw [← UInt8.toNat_inj]
    exact eq_comm.trans Nat.add_right_cancel_iff
  rw [taken, Apci.kind]
  split
  · split_ifs at *
    simp_all
  · split_ifs at * <;> simp_all

/-- Cut in whatever way, a stream gives the same APDUs, each of the bytes its length says, exactly
if only I frames have a body. -/
theorem received_eq_and_counts_iff (stream : List UInt8) :
    (∀ chunks, chunks.flatten = stream → received chunks = received [stream] ∧
      ∀ x ∈ received chunks, x.2 = x.1.apci.apduLength.toNat + 2) ↔
    ∀ x ∈ received [stream], x.1.apci.ctrl1 &&& 0x01 = 0 ∨ x.1.apci.apduLength = 4 := by
  constructor
  · intro h x hx
    have hcount := (h [stream] (append_nil _)).2 x hx
    exact taken_eq_iff.mp ((taken_of_mem_received hx).symm.trans hcount)
  · intro h chunks hchunks
    have hsame : received chunks = received [stream] :=
      messages_feed_nil incremental_decode.counted (hchunks.trans (append_nil _).symm)
    refine ⟨hsame, fun x hx => ?_⟩
    rw [taken_of_mem_received hx, taken_eq_iff]
    exact h x (hsame ▸ hx)

theorem received_of_supervisory_body :
    ¬∀ x ∈ received [[0x68, 5, 1, 0, 0, 0, 0xAA]], x.2 = x.1.apci.apduLength.toNat + 2 := by
  decide

end NgGateway.Iec104Codec
