import NgGateway.FiniteMaps
import NgGateway.S7Frames
import NgGateway.TracedRuns

namespace NgGateway.S7Reassembly

open FiniteMaps FrameStreams S7Frames TracedRuns TracedRuns.Traced

structure Session (κ : Type) where
  reasm : Option (List UInt8)
  inflight : AssocMap UInt16 κ
  inflightGauge : UInt64

inductive Output (κ : Type) where
  | response (caller : κ) (pdu : S7Pdu)
  | fragmentReassemblyDrop
  | transportError

section

variable {κ : Type}

def respond (pdu : S7Pdu) (s : Session κ) : Traced (Output κ) Unit (Session κ) :=
  match s.inflight.lookup pdu.header.pduRef with
  | some caller =>
    emit [.response caller pdu]
      { s with
        inflight := s.inflight.erase pdu.header.pduRef
        inflightGauge := s.inflightGauge - 1 }
  | none => done s

def respondTo (bytes : List UInt8) (s : Session κ) : Traced (Output κ) Unit (Session κ) :=
  match S7Pdu.parse bytes with
  | .ok (_, pdu) => respond pdu s
  | .error _ => emit [.fragmentReassemblyDrop] s

def handleIncomingS7Message (s : Session κ) (msg : S7Message) :
    Traced (Output κ) Unit (Session κ) :=
  match msg.cotp with
  | .d params =>
    match msg.app with
    | some (.segmented pl) =>
      if params.eot then
        match s.reasm with
        | some buf => respondTo (buf ++ pl) { s with reasm := none }
        | none => respondTo pl s
      else done { s with reasm := some (s.reasm.getD [] ++ pl) }
    | some (.parsed pdu) => respond pdu s
    | none => done s
  | _ => done s

def receive (s : Session κ) (chunks : List (List UInt8)) : Traced (Output κ) Unit (Session κ) :=
  let incoming := feed decode [] chunks
  (run handleIncomingS7Message s incoming.messages).andThen fun last =>
    match incoming.error with
    | none => done last
    | some _ => stop [.transportError, .transportError] () last

end

structure Segment where
  data : List UInt8
  tpduNr : UInt8
  fits : 7 + data.length < 65536
  number : tpduNr < 0x80

def Segment.params (segment : Segment) (eot : Bool) : CotpDataParams := ⟨eot, segment.tpduNr⟩

def Segment.frame (segment : Segment) (eot : Bool) : List UInt8 :=
  dataFrame (segment.params eot) segment.data

def Segment.message (segment : Segment) (eot : Bool) : S7Message :=
  dataMessage (segment.params eot) segment.data

def joined (segments : List Segment) : List UInt8 := segments.flatMap Segment.data

def cutFrames (earlier : List Segment) (last : Segment) : List UInt8 :=
  earlier.flatMap (Segment.frame · false) ++ last.frame true

def cutMessages (earlier : List Segment) (last : Segment) : List S7Message :=
  earlier.map (Segment.message · false) ++ [last.message true]

theorem decodes_cutFrames (earlier last) :
    Decodes decode (cutFrames earlier last) (cutMessages earlier last) := by
  induction earlier with
  | nil =>
    have hlast := @decode_dataFrame (last.params true) last.data last.number last.fits []
    rw [List.append_nil] at hlast
    exact Decodes.cons hlast Decodes.nil
  | cons segment earlier ih =>
    have hsegment := @decode_dataFrame (segment.params false) segment.data segment.number
      segment.fits (cutFrames earlier last)
    have hframes : cutFrames (segment :: earlier) last =
        dataFrame (segment.params false) segment.data ++ cutFrames earlier last := by
      rw [cutFrames, List.flatMap_cons, List.append_assoc]
      rfl
    rw [hframes]
    exact Decodes.cons hsegment ih

section

variable {κ : Type}

def extend (reasm : Option (List UInt8)) (data : List UInt8) : Option (List UInt8) :=
  if data = [] then reasm else some (reasm.getD [] ++ data)

theorem extend_extend : extend (extend reasm first) second = extend reasm (first ++ second) := by
  by_cases hfirst : first = []
  · simp [extend, hfirst]
  · by_cases hsnd : second = []
    · simp [extend, hsnd]
    · simp [extend, hfirst, hsnd]

theorem handle_segment (s : Session κ) (segment : Segment) :
    handleIncomingS7Message s (segment.message false) =
      done { s with reasm := extend s.reasm segment.data } := by
  change handleIncomingS7Message s ⟨_, .d ⟨false, _⟩, appBody false segment.data⟩ = _
  by_cases hdata : segment.data = []
  · simp [handleIncomingS7Message, appBody, extend, hdata]
  · simp [handleIncomingS7Message, appBody, extend, hdata, Bool.false_eq_true]

theorem run_cutMessages (s : Session κ) :
    run handleIncomingS7Message s (cutMessages earlier last) =
      handleIncomingS7Message { s with reasm := extend s.reasm (joined earlier) }
        (last.message true) := by
  induction earlier generalizing s with
  | nil =>
    exact andThen_done (handleIncomingS7Message s (last.message true))
  | cons segment earlier ih =>
    change (handleIncomingS7Message s (segment.message false)).andThen
      (fun next => run handleIncomingS7Message next (cutMessages earlier last)) = _
    rw [handle_segment, done_andThen, ih]
    simp only [extend_extend]
    rfl

theorem receive_cutFrames (s : Session κ) (hchunks : chunks.flatten = cutFrames earlier last) :
    receive s chunks =
      handleIncomingS7Message { s with reasm := extend s.reasm (joined earlier) }
        (last.message true) := by
  have hfeed := feed_nil_eq_of_decodes incremental_decode (hchunks ▸ decodes_cutFrames earlier last)
  simp only [receive, hfeed, run_cutMessages]
  exact andThen_done _

/-- The caller got this PDU and nothing else was sent, and no bytes are left over. -/
def DeliveredOnce (caller : κ) (pdu : S7Pdu) (x : Traced (Output κ) Unit (Session κ)) : Prop :=
  x.trace = [.response caller pdu] ∧ x.state.reasm = none

theorem respond_of_waiting (hreasm : s.reasm = none)
    (hwait : s.inflight.lookup pdu.header.pduRef = some caller) :
    DeliveredOnce caller pdu (respond pdu s) := by
  rw [respond, hwait]
  exact ⟨rfl, hreasm⟩

theorem reasm_respond (s : Session κ) : (respond pdu s).state.reasm = s.reasm := by
  unfold respond
  split
  · rfl
  · rfl

theorem handle_last (s : Session κ) (last : Segment) :
    handleIncomingS7Message s (last.message true) =
      if last.data = [] then done s
      else
        match S7Pdu.parse last.data, s.reasm with
        | .ok (_, pdu), _ => respond pdu s
        | .error _, some buf => respondTo (buf ++ last.data) { s with reasm := none }
        | .error _, none => respondTo last.data s := by
  change handleIncomingS7Message s ⟨_, .d ⟨true, _⟩, appBody true last.data⟩ = _
  by_cases hdata : last.data = []
  · simp [handleIncomingS7Message, appBody, hdata]
  · rcases hparse : S7Pdu.parse last.data with e | ⟨rest, pdu⟩
    · rcases hreasm : s.reasm with - | buf
      · simp [handleIncomingS7Message, appBody, hdata, hparse, hreasm]
      · simp [handleIncomingS7Message, appBody, hdata, hparse, hreasm]
    · simp [handleIncomingS7Message, appBody, hdata, hparse]

/-- A response cut into data TPDUs reaches its caller once and leaves no bytes behind, exactly when
the last TPDU carries bytes and either carries all of them or does not itself parse as a PDU. -/
theorem deliveredOnce_iff (s : Session κ) (pdu : S7Pdu) (caller : κ) (earlier : List Segment)
    (last : Segment) (chunks : List (List UInt8)) (hpdu : pdu.WellFormed)
    (hcut : joined (earlier ++ [last]) = pdu.intoBytes)
    (hchunks : chunks.flatten = cutFrames earlier last) (hidle : s.reasm = none)
    (hwait : s.inflight.lookup pdu.header.pduRef = some caller) :
    DeliveredOnce caller pdu (receive s chunks) ↔
      last.data ≠ [] ∧ (joined earlier = [] ∨ ∃ e, S7Pdu.parse last.data = .error e) := by
  have hjoined : joined earlier ++ last.data = pdu.intoBytes := by
    rw [← hcut, joined, joined, List.flatMap_append, List.flatMap_singleton]
  have hwhole := parse_intoBytes hpdu
  rw [receive_cutFrames s hchunks, handle_last, hidle]
  by_cases hlast : last.data = []
  · -- the end mark comes without bytes and the buffer is never looked at
    have hearlier : joined earlier ≠ [] := by
      intro hempty
      rw [hempty, hlast] at hjoined
      exact intoBytes_ne_nil pdu hjoined.symm
    rw [if_pos hlast]
    refine iff_of_false ?_ (fun h => h.1 hlast)
    rintro ⟨-, hleft⟩
    simp [done, emit, extend, hearlier] at hleft
  · rw [if_neg hlast]
    by_cases hearlier : joined earlier = []
    · rw [hearlier, List.nil_append] at hjoined
      rw [hjoined, hwhole]
      refine iff_of_true ?_ ⟨intoBytes_ne_nil pdu, Or.inl hearlier⟩
      exact respond_of_waiting (by simp [extend, hearlier]) hwait
    · have hreasm : extend none (joined earlier) = some (joined earlier) := by
        simp [extend, hearlier]
      rw [hreasm]
      rcases hparse : S7Pdu.parse last.data with e | ⟨rest, other⟩
      · refine iff_of_true ?_ ⟨hlast, Or.inr ⟨e, rfl⟩⟩
        simp only [respondTo, hjoined, hwhole]
        exact respond_of_waiting rfl hwait
      · refine iff_of_false ?_ ?_
        · rintro ⟨-, hleft⟩
          rw [reasm_respond] at hleft
          cases hleft
        · rintro ⟨-, hempty | ⟨e, he⟩⟩
          · exact hearlier hempty
          · cases he

end

def jobBytes : List UInt8 := [0x32, 0x01, 0, 0, 0, 9, 0, 0, 0, 0]

def nestedResponse : S7Pdu where
  header :=
    { protocolId := 0x32
      pduType := .ackData
      reserved := 0
      pduRef := 7
      paramLen := 0
      payloadLen := 10
      errorCode := some ⟨0, by decide⟩ }
  param := []
  payload := jobBytes

theorem nestedResponse_wellFormed : nestedResponse.WellFormed where
  protocolId := rfl
  paramLen := rfl
  payloadLen := rfl
  errorCode := rfl

def waiting : Session Nat where
  reasm := none
  inflight := (AssocMap.empty.insert 7 0).insert 9 1
  inflightGauge := 2

def front (n : Nat) : Segment where
  data := nestedResponse.intoBytes.take n
  tpduNr := 0
  fits := by
    have hlength : nestedResponse.intoBytes.length = 22 := rfl
    rw [List.length_take, hlength]
    omega
  number := by decide

def back (n : Nat) : Segment where
  data := nestedResponse.intoBytes.drop n
  tpduNr := 0
  fits := by
    have hlength : nestedResponse.intoBytes.length = 22 := rfl
    rw [List.length_drop, hlength]
    omega
  number := by decide

theorem deliveredOnce_two_segments :
    DeliveredOnce 0 nestedResponse (receive waiting [cutFrames [front 5] (back 5)]) :=
  (deliveredOnce_iff waiting nestedResponse 0 [front 5] (back 5) _ nestedResponse_wellFormed rfl
    (List.flatten_singleton) rfl rfl).mpr ⟨by decide, Or.inr ⟨.invalidFrame, rfl⟩⟩

/-- Cut before the payload, caller 1 gets the job inside the response, and the header stays in the
buffer. With an empty last TPDU nobody gets anything. -/
theorem not_deliveredOnce_nested :
    ((receive waiting [cutFrames [front 12] (back 12)]).trace =
        [.response 1 ⟨⟨0x32, .job, 0, 9, 0, 0, none⟩, [], []⟩] ∧
      (receive waiting [cutFrames [front 12] (back 12)]).state.reasm = some (front 12).data ∧
      ¬DeliveredOnce 0 nestedResponse (receive waiting [cutFrames [front 12] (back 12)])) ∧
    ¬DeliveredOnce 0 nestedResponse (receive waiting [cutFrames [front 22] (back 22)]) := by
  refine ⟨⟨rfl, rfl, ?_⟩, ?_⟩
  · rintro ⟨-, hleft⟩
    cases hleft
  · rintro ⟨-, hleft⟩
    cases hleft

end NgGateway.S7Reassembly
