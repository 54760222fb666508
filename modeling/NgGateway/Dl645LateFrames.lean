import NgGateway.Dl645Session

namespace NgGateway.Dl645LateFrames

open Dl645Frames Dl645Session FollowUpFrames StreamExchange TracedRuns Value ValueCodec

structure PointRead where
  address : Dl645Address
  point : Dl645Point

abbrev Progress := Waiting Dl645TypedFrame Dl645TypedFrame

abbrev Frames := Dl645TypedFrame × List Dl645TypedFrame

def reader (version : Dl645Version) :
    Reader PointRead Received Progress (Except ProtocolError Frames) where
  start read := .awaitFirst (buildReadDataFrame version read.address read.point.di)
  take := takeFrame (checks 8)

abbrev Done := Finished PointRead Received Progress (Except ProtocolError Frames)

def reported (floats : Floats) (version : Dl645Version) (f : Done) :
    Option (NGValue × List Dl645TypedFrame) :=
  match f.result with
  | some (.ok (first, rest)) =>
    match combinedFrame (logicalResponse version first rest) with
    | .ok frame =>
      match decodePointValue floats version f.call.request.point frame with
      | .ok value => some (value, first :: rest)
      | .error _ => none
    | .error _ => none
  | _ => none

def identifier (version : Dl645Version) (frame : Dl645TypedFrame) : Option UInt32 :=
  match frame.body with
  | .readData di _ => some di
  | .writeData di _ _ _ => some di
  | .clearEvents di _ _ => some di
  | .raw bytes =>
    match frame.control.function with
    | .readNextData | .reReadData => (parseDi version bytes).toOption.map Prod.fst
    | _ => none
  | _ => none

def CarriesDi (version : Dl645Version) (read : PointRead) (frame : Dl645TypedFrame) : Prop :=
  identifier version frame = some (wireDi version read.point.di)

def FromPoint (version : Dl645Version) (read : PointRead) (frame : Dl645TypedFrame) : Prop :=
  frame.address = read.address ∧ CarriesDi version read frame

theorem reported_eq_some (h : reported floats version f = some (value, frames)) :
    ∃ first rest, f.result = some (.ok (first, rest)) ∧ frames = first :: rest := by
  unfold reported at h
  split at h
  · rename_i first rest hres
    split at h
    · split at h
      · cases h
        exact ⟨first, rest, hres, rfl⟩
      · cases h
    · cases h
  · cases h

theorem address_of_checkNext (h : checkNext first next = .ok ()) :
    next.address = first.address := by
  unfold checkNext at h
  split_ifs at h with haddr
  exact not_not.mp haddr

/-- In every run a reported value comes from frames of the meter for the point exactly when the
first frame unread when the request was sent, or arriving while it waited, is from the meter, and it
and the frames its flags ask for carry the identifier. -/
theorem reported_fromPoint_iff (floats : Floats) (version : Dl645Version)
    (events : List (Event PointRead Received)) {f : Done}
    (hf : f ∈ (run (step (reader version)) (idle []) events).trace) (value : NGValue)
    {frames : List Dl645TypedFrame} (hreported : reported floats version f = some (value, frames)) :
    (∀ frame ∈ frames, FromPoint version f.call.request frame) ↔
      ∃ first rest, responseFrames (checks 8).more (f.call.before ++ f.call.since) = first :: rest ∧
        first.address = f.call.request.address ∧
          ∀ frame ∈ first :: rest, CarriesDi version f.call.request frame := by
  obtain ⟨first, rest, hres, rfl⟩ := reported_eq_some hreported
  have hok := finishedOk_run events (channelOk_idle []) f hf
  obtain ⟨later, hlater⟩ := hok.taken
  have hread := readFrames_of_consume (.timeout 0) (.timeout 0) (hok.answered _ hres) later
  rw [hlater] at hread
  obtain ⟨hframes, -, hnext⟩ := readFrames_eq_ok hread
  rw [← hframes]
  constructor
  · intro hall
    refine ⟨first, rest, rfl, (hall first List.mem_cons_self).1, fun frame hframe => ?_⟩
    exact (hall frame hframe).2
  · rintro ⟨_, _, ⟨⟩, haddr, hcarries⟩ frame hframe
    refine ⟨?_, hcarries frame hframe⟩
    rcases List.mem_cons.mp hframe with rfl | hrest
    · exact haddr
    · rw [address_of_checkNext (hnext frame hrest), haddr]

def energyPoint : Dl645Point := ⟨.binary, .default, 0x00010000, none⟩

def wantedMeter : Dl645Address := .low 1

def otherMeter : Dl645Address := .low 2

def energyOf (address : Dl645Address) (data : List UInt8) : Dl645TypedFrame :=
  ⟨address, ⟨0x91⟩, .readData 0x00010000 data⟩

def plainFloats : Floats := ⟨noFloats, fun _ => 0⟩

/-- A point is read again after a timeout, and its late answer is there by then. -/
def readAgain : List (Event PointRead Received) :=
  [.send ⟨wantedMeter, energyPoint⟩, .expire, .arrive (.ok (energyOf wantedMeter [7])),
    .send ⟨wantedMeter, energyPoint⟩, .read]

theorem reported_fromPoint_late :
    ∃ f, (run (step (reader .v2007)) (idle []) readAgain).trace[1]? = some f ∧
      ∀ frame ∈ [energyOf wantedMeter [7]], FromPoint .v2007 f.call.request frame := by
  refine ⟨_, rfl, ?_⟩
  refine (reported_fromPoint_iff plainFloats .v2007 readAgain
    (List.mem_of_getElem? (i := 1) rfl) (.binary [7]) rfl).mpr ?_
  refine ⟨energyOf wantedMeter [7], [], rfl, rfl, ?_⟩
  intro frame hframe
  rw [List.mem_singleton.mp hframe]
  rfl

/-- The answer of one meter comes after its timeout and is reported for the next one. -/
theorem reported_other_meter :
    ∃ f, (run (step (reader .v2007)) (idle []) [.send ⟨otherMeter, energyPoint⟩, .expire,
        .arrive (.ok (energyOf otherMeter [7])), .send ⟨wantedMeter, energyPoint⟩,
        .read]).trace[1]? = some f ∧
      f.call.request.address = wantedMeter ∧
        reported plainFloats .v2007 f = some (.binary [7], [energyOf otherMeter [7]]) ∧
          ¬ FromPoint .v2007 f.call.request (energyOf otherMeter [7]) := by
  refine ⟨_, rfl, rfl, rfl, ?_⟩
  rintro ⟨haddr, -⟩
  revert haddr
  decide

end NgGateway.Dl645LateFrames
