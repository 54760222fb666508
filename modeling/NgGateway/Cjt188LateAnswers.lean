import NgGateway.Cjt188Session

namespace NgGateway.Cjt188LateAnswers

open Cjt188Frames Cjt188Session FollowUpFrames List StreamExchange TracedRuns TracedRuns.Traced

inductive Operation where
  | readData (params : ReadDataParams)
  | writeData (params : ReadDataParams) (valueBytes : List UInt8)
  | writeMotorSync (params : ReadDataParams) (valueBytes : List UInt8)
  | readAddress
  | writeAddress (meterType : MeterType) (currentAddress newAddress : Cjt188Address)

def Operation.frame (serial : UInt8) : Operation → Cjt188TypedFrame
  | .readData p => buildReadDataFrame p.meterType p.address p.di serial
  | .writeData p valueBytes => buildWriteDataFrame p.meterType p.address p.di serial valueBytes
  | .writeMotorSync p valueBytes =>
    buildWriteMotorSyncFrame p.meterType p.address p.di serial valueBytes
  | .readAddress => buildReadAddressFrame serial
  | .writeAddress meterType currentAddress newAddress =>
    buildWriteAddressFrame meterType currentAddress newAddress serial

def Differs (req frame : Cjt188TypedFrame) : Prop :=
  ∃ reqS respS, reqSerial req.body = some reqS ∧ respSerial frame.body = some respS ∧ reqS ≠ respS

structure Meter where
  answer : Cjt188TypedFrame → List Cjt188TypedFrame
  answers : ∀ req, answer req ≠ []
  echoes : ∀ req, ∀ frame ∈ answer req, ¬ Differs req frame

/-- A request on the bus. `queue` is what could be read or was still to come when it was
sent. -/
structure Request where
  index : Nat
  frame : Cjt188TypedFrame
  deadline : Nat
  queue : List Cjt188TypedFrame
  answer : List Cjt188TypedFrame
  echoes : ∀ f ∈ answer, ¬ Differs frame f

abbrev Progress := Waiting Cjt188Body Cjt188TypedFrame

abbrev Frames := Cjt188TypedFrame × List Cjt188TypedFrame

def reader : Reader Request Cjt188TypedFrame Progress (Except ProtocolError Frames) where
  start request := .awaitFirst request.frame.body
  take progress frame := takeFrame checks progress (.ok frame)

abbrev Done := Finished Request Cjt188TypedFrame Progress (Except ProtocolError Frames)

/-- The session, what the meter has still to send with its requests, and which request's frames
arrived when. -/
structure Bus where
  channel : Channel Request Cjt188TypedFrame Progress
  outstanding : List (Nat × Cjt188TypedFrame)
  clock : Nat
  timeout : Nat
  timer : Nat
  nextSerial : UInt8
  sent : Nat
  arrivals : List (Nat × Nat)

def Bus.new : Bus := ⟨idle [], [], 0, 0, 0, 0, 0, []⟩

def Bus.pending (b : Bus) : List Cjt188TypedFrame := b.outstanding.map fun entry => entry.2

inductive BusEvent where
  | send (now : Nat) (op : Operation) (timeout : Nat) (meter : Meter)
  | arrive (now : Nat)
  | read (now : Nat)
  | expire (now : Nat)

def Bus.request (b : Bus) (now : Nat) (op : Operation) (timeout : Nat) (meter : Meter) : Request :=
  { index := b.sent
    frame := op.frame b.nextSerial
    deadline := max b.clock now + timeout
    queue := b.channel.inbox ++ b.pending
    answer := meter.answer (op.frame b.nextSerial)
    echoes := meter.echoes (op.frame b.nextSerial) }

/-- One event; the clock does not run backwards. Each read has a timer of its own. -/
def busStep (b : Bus) : BusEvent → Traced Done Unit Bus
  | .send now op timeout meter =>
    match b.channel.call with
    | some _ => done b
    | none =>
      let request := b.request now op timeout meter
      (step reader b.channel (.send request)).map fun channel =>
        { b with
          channel := channel
          outstanding := b.outstanding ++ request.answer.map fun frame => (b.sent, frame)
          clock := max b.clock now
          timeout := timeout
          timer := request.deadline
          nextSerial := b.nextSerial + 1
          sent := b.sent + 1 }
  | .arrive now =>
    match b.outstanding with
    | [] => done b
    | (index, frame) :: rest =>
      (step reader b.channel (.arrive frame)).map fun channel =>
        { b with
          channel := channel
          outstanding := rest
          clock := max b.clock now
          arrivals := (index, max b.clock now) :: b.arrivals }
  | .read now =>
    match b.channel.inbox with
    | [] => done b
    | _ :: _ =>
      (step reader b.channel .read).map fun channel =>
        { b with
          channel := channel
          clock := max b.clock now
          timer := max b.clock now + b.timeout }
  | .expire now =>
    if b.timer ≤ max b.clock now then
      (step reader b.channel .expire).map fun channel =>
        { b with channel := channel, clock := max b.clock now }
    else done b

structure CallFits (b : Bus) (call : Call Request Cjt188TypedFrame Progress) : Prop where
  queue : call.before ++ call.since ++ b.pending = call.request.queue ++ call.request.answer
  timer : call.taken = [] → b.timer = call.request.deadline
  came : ∀ time, (call.request.index, time) ∈ b.arrivals → call.since ≠ []

structure DoneFits (b : Bus) (f : Done) : Prop where
  taken : f.call.taken <+: f.call.request.queue ++ f.call.request.answer
  late : f.call.taken = [] → f.call.request.deadline ≤ b.clock ∧
    ∀ time, (f.call.request.index, time) ∈ b.arrivals → f.call.request.deadline ≤ time

structure BusOk (history : List Done) (b : Bus) : Prop where
  channel : ChannelOk reader b.channel
  finished : ∀ f ∈ history, FinishedOk reader f
  call : ∀ call, b.channel.call = some call → CallFits b call
  done : ∀ f ∈ history, DoneFits b f
  arrivals : ∀ entry ∈ b.arrivals, entry.1 < b.sent
  outstanding : ∀ entry ∈ b.outstanding, entry.1 < b.sent

theorem DoneFits.mono (h : DoneFits b f) (hclock : b.clock ≤ b'.clock)
    (harrivals : ∀ entry ∈ b'.arrivals, entry ∈ b.arrivals ∨ b.clock ≤ entry.2) :
    DoneFits b' f := by
  refine ⟨h.taken, fun htaken => ?_⟩
  obtain ⟨hdeadline, hlate⟩ := h.late htaken
  refine ⟨hdeadline.trans hclock, fun time htime => ?_⟩
  rcases harrivals _ htime with hold | hnew
  · exact hlate time hold
  · exact hdeadline.trans hnew

theorem busOk_new : BusOk [] Bus.new where
  channel := channelOk_idle []
  finished := by rintro f ⟨⟩
  call := by rintro call ⟨⟩
  done := by rintro f ⟨⟩
  arrivals := by rintro entry ⟨⟩
  outstanding := by rintro entry ⟨⟩

theorem busOk_send (h : BusOk history b) (now op timeout meter) :
    BusOk (history ++ (busStep b (.send now op timeout meter)).trace)
      (busStep b (.send now op timeout meter)).state := by
  rcases hcall : b.channel.call with - | call
  · simp only [busStep, hcall, step, Traced.map, done, emit, append_nil]
    have hchan := (channelOk_step h.channel (.send (b.request now op timeout meter))).1
    simp only [step, hcall] at hchan
    refine ⟨hchan, h.finished, ?_, ?_, ?_, ?_⟩
    · rintro _ ⟨⟩
      refine ⟨?_, fun _ => rfl, ?_⟩
      · simp [Bus.pending, Bus.request]
      · -- the number of this request is new
        intro time htime
        exact absurd (h.arrivals _ htime) (lt_irrefl b.sent)
    · intro f hf
      exact (h.done f hf).mono (le_max_left _ _) fun entry hentry => .inl hentry
    · intro entry hentry
      exact (h.arrivals entry hentry).trans (Nat.lt_succ_self b.sent)
    · intro entry hentry
      rcases mem_append.mp hentry with hold | hnew
      · exact (h.outstanding entry hold).trans (Nat.lt_succ_self b.sent)
      · obtain ⟨frame, -, rfl⟩ := mem_map.mp hnew
        exact Nat.lt_succ_self b.sent
  · simpa only [busStep, hcall, done, emit, append_nil] using h

theorem busOk_arrive (h : BusOk history b) (now) :
    BusOk (history ++ (busStep b (.arrive now)).trace) (busStep b (.arrive now)).state := by
  rcases hout : b.outstanding with - | ⟨⟨index, frame⟩, rest⟩
  · simpa only [busStep, hout, done, emit, append_nil] using h
  · simp only [busStep, hout, step, Traced.map, done, emit, append_nil]
    have hchan := (channelOk_step h.channel (.arrive frame)).1
    have hknown := h.outstanding
    rw [hout, forall_mem_cons] at hknown
    refine ⟨hchan, h.finished, ?_, ?_, ?_, ?_⟩
    · intro call hcall
      obtain ⟨call, hold, rfl⟩ := Option.map_eq_some_iff.mp hcall
      have hfits := h.call call hold
      refine ⟨?_, hfits.timer, fun time _ => append_ne_nil_of_right_ne_nil _ (by simp)⟩
      have hqueue := hfits.queue
      simp only [Bus.pending, hout, map_cons] at hqueue
      simpa [Bus.pending] using hqueue
    · intro f hf
      refine (h.done f hf).mono (le_max_left _ _) (forall_mem_cons.mpr ⟨?_, fun _ => .inl⟩)
      exact .inr (le_max_left _ _)
    · exact forall_mem_cons.mpr ⟨hknown.1, h.arrivals⟩
    · exact hknown.2

theorem prefix_of_callFits (hfits : CallFits b call)
    (hbalance : call.before ++ call.since = taken ++ inbox) :
    taken <+: call.request.queue ++ call.request.answer := by
  rw [← hfits.queue, hbalance, append_assoc]
  exact prefix_append _ _

theorem busOk_finish (h : BusOk history b) (hchan : ChannelOk reader b'.channel)
    (hidle : b'.channel.call = none) (hclock : b.clock ≤ b'.clock)
    (harrivals : b'.arrivals = b.arrivals) (houtstanding : b'.outstanding = b.outstanding)
    (hsent : b'.sent = b.sent) (hfinished : FinishedOk reader f) (hdone : DoneFits b' f) :
    BusOk (history ++ [f]) b' := by
  refine ⟨hchan, ?_, ?_, ?_, ?_, ?_⟩
  · exact forall_mem_append.mpr ⟨h.finished, forall_mem_singleton.mpr hfinished⟩
  · intro call hcall
    rw [hidle] at hcall
    cases hcall
  · refine forall_mem_append.mpr ⟨fun f' hf => ?_, forall_mem_singleton.mpr hdone⟩
    refine (h.done f' hf).mono hclock ?_
    rw [harrivals]
    exact fun _ => .inl
  · rw [harrivals, hsent]
    exact h.arrivals
  · rw [houtstanding, hsent]
    exact h.outstanding

theorem busOk_read (h : BusOk history b) (now) :
    BusOk (history ++ (busStep b (.read now)).trace) (busStep b (.read now)).state := by
  rcases hinbox : b.channel.inbox with - | ⟨item, rest⟩
  · simpa only [busStep, hinbox, done, emit, append_nil] using h
  · have hold : ∀ f ∈ history, ∀ channel timer, DoneFits
        { b with channel := channel, clock := max b.clock now, timer := timer } f := by
      intro f hf channel timer
      exact (h.done f hf).mono (le_max_left _ _) fun entry hentry => .inl hentry
    obtain ⟨hchan, htrace⟩ := channelOk_step h.channel .read
    rcases hcall : b.channel.call with - | call
    · simp only [step, hcall] at hchan
      simp only [busStep, hinbox, step, hcall, Traced.map, done, emit, append_nil]
      refine ⟨hchan, h.finished, ?_, fun f hf => hold f hf _ _, h.arrivals, h.outstanding⟩
      intro call hsome
      rw [hcall] at hsome
      cases hsome
    · have hfits := h.call call hcall
      have hbalance := (h.channel call hcall).balance
      rw [hinbox] at hbalance
      rcases htake : takeFrame checks call.state (.ok item) with next | result
      · simp only [step, hcall, hinbox, reader, htake] at hchan
        simp only [busStep, hinbox, step, hcall, reader, htake, Traced.map, done, emit, append_nil]
        refine ⟨hchan, h.finished, ?_, fun f hf => hold f hf _ _, h.arrivals, h.outstanding⟩
        rintro _ ⟨⟩
        exact ⟨hfits.queue, fun htaken => absurd htaken (by simp), hfits.came⟩
      · simp only [step, hcall, hinbox, reader, htake, emit] at hchan htrace
        simp only [busStep, hinbox, step, hcall, reader, htake, Traced.map, emit]
        have hsplit : call.before ++ call.since = call.taken ++ [item] ++ rest := by
          rw [hbalance, append_assoc, singleton_append]
        have hfront := prefix_of_callFits hfits hsplit
        exact busOk_finish h hchan rfl (le_max_left _ _) rfl rfl rfl
          (htrace _ (mem_singleton_self _)) ⟨hfront, fun htaken => absurd htaken (by simp)⟩

theorem busOk_expire (h : BusOk history b) (now) :
    BusOk (history ++ (busStep b (.expire now)).trace) (busStep b (.expire now)).state := by
  by_cases htimer : b.timer ≤ max b.clock now
  · have hkept : BusOk history { b with clock := max b.clock now } := by
      refine ⟨h.channel, h.finished, ?_, ?_, h.arrivals, h.outstanding⟩
      · intro call hcall
        exact ⟨(h.call call hcall).queue, (h.call call hcall).timer, (h.call call hcall).came⟩
      · intro f hf
        exact (h.done f hf).mono (le_max_left _ _) fun entry hentry => .inl hentry
    obtain ⟨hchan, htrace⟩ := channelOk_step h.channel .expire
    rcases hcall : b.channel.call with - | call
    · simpa only [busStep, if_pos htimer, step, hcall, Traced.map, done, emit, append_nil]
        using hkept
    · rcases hinbox : b.channel.inbox with - | ⟨item, rest⟩
      · have hfits := h.call call hcall
        have hbalance := (h.channel call hcall).balance
        rw [hinbox] at hbalance
        simp only [step, hcall, hinbox, emit] at hchan htrace
        simp only [busStep, if_pos htimer, step, hcall, hinbox, Traced.map, emit]
        refine busOk_finish h hchan rfl (le_max_left _ _) rfl rfl rfl
          (htrace _ (mem_singleton_self _))
          ⟨prefix_of_callFits hfits hbalance, fun htaken => ?_⟩
        -- it has read nothing, so nothing has come
        rw [htaken] at hbalance
        have hsince : call.since = [] := (append_eq_nil_iff.mp hbalance).2
        refine ⟨?_, fun time htime => absurd hsince (hfits.came time htime)⟩
        rw [← hfits.timer htaken]
        exact htimer
      · simpa only [busStep, if_pos htimer, step, hcall, hinbox, Traced.map, done, emit,
          append_nil] using hkept
  · simpa only [busStep, if_neg htimer, done, emit, append_nil] using h

theorem busOk_run (events) :
    BusOk (run busStep Bus.new events).trace (run busStep Bus.new events).state := by
  refine run_invariant (I := BusOk) ?_ events busOk_new
  intro history b e h
  cases e with
  | send now op timeout meter => exact busOk_send h now op timeout meter
  | arrive now => exact busOk_arrive h now
  | read now => exact busOk_read h now
  | expire now => exact busOk_expire h now

def IsSerialMismatch (e : ProtocolError) : Prop := ∃ reqS respS, e = serialMismatch reqS respS

theorem not_isSerialMismatch_semantic (h : message.toList.head? = some 'D') :
    ¬ IsSerialMismatch (.semantic message) := by
  rintro ⟨reqS, respS, heq⟩
  injection heq with heq
  rw [heq] at h
  simp [String.toList_append] at h

theorem checkFirst_of_differs (h : Differs req first) :
    ∃ e, IsSerialMismatch e ∧ checkFirst req.body first.body = .error e := by
  obtain ⟨reqS, respS, hreq, hresp, hne⟩ := h
  refine ⟨_, ⟨reqS, respS, rfl⟩, ?_⟩
  unfold checkFirst
  split
  · rename_i hbody
    rw [hbody] at hresp
    cases hresp
  · rw [hreq, hresp]
    exact if_pos hne

theorem differs_of_checkFirst (hmis : IsSerialMismatch e)
    (h : checkFirst req.body first.body = .error e) : Differs req first := by
  unfold checkFirst at h
  split at h
  · cases h
    exact absurd hmis (not_isSerialMismatch_semantic (by simp [String.toList_append]))
  · split at h
    · rename_i hreq hresp
      split at h
      · rename_i hne
        exact ⟨_, _, hreq, hresp, hne⟩
      · cases h
    · cases h

theorem not_isSerialMismatch_checkNext {next : Cjt188Body} (h : checkNext next = .error e) :
    ¬ IsSerialMismatch e := by
  unfold checkNext at h
  split at h
  · cases h
    exact not_isSerialMismatch_semantic (by simp [String.toList_append])
  · cases h

theorem reader_take : reader.take progress frame = takeFrame checks progress (.ok frame) := rfl

theorem not_isSerialMismatch_awaitNext
    (h : consume reader.take (.awaitNext first rest) frames = .inr (.error e)) :
    ¬ IsSerialMismatch e := by
  induction frames generalizing rest with
  | nil => cases h
  | cons frame frames ih =>
    rw [consume, reader_take] at h
    rcases hcheck : Waiting.check checks (.awaitNext first rest) frame with e' | ⟨⟩
    · rw [takeFrame_of_error hcheck] at h
      cases h
      exact not_isSerialMismatch_checkNext hcheck
    · rw [takeFrame_of_ok hcheck] at h
      split_ifs at h
      · exact ih h
      · cases h

theorem consume_serialMismatch_iff :
    (∃ e, IsSerialMismatch e ∧
        consume reader.take (reader.start req) (first :: frames) = .inr (.error e)) ↔
      Differs req.frame first := by
  rw [consume, reader_take]
  constructor
  · rintro ⟨e, hmis, h⟩
    rcases hcheck : (reader.start req).check checks first with e' | ⟨⟩
    · rw [takeFrame_of_error hcheck] at h
      cases h
      exact differs_of_checkFirst hmis hcheck
    · rw [takeFrame_of_ok hcheck] at h
      split_ifs at h
      · exact absurd hmis (not_isSerialMismatch_awaitNext h)
      · cases h
  · intro hdiffers
    obtain ⟨e, hmis, hcheck⟩ := checkFirst_of_differs hdiffers
    have hstart : (reader.start req).check checks first = .error e := hcheck
    refine ⟨e, hmis, ?_⟩
    rw [takeFrame_of_error hstart]

/-- In every run, a request answered in time fails with a serial mismatch exactly when the first
frame unread or still to come when it was sent has another serial. -/
theorem serialMismatch_iff_stale (events : List BusEvent) {f : Done}
    (hf : f ∈ (run busStep Bus.new events).trace) (time : Nat)
    (harrived : (f.call.request.index, time) ∈ (run busStep Bus.new events).state.arrivals)
    (htime : time < f.call.request.deadline) :
    (∃ e, IsSerialMismatch e ∧ f.result = some (.error e)) ↔
      ∃ stale, f.call.request.queue.head? = some stale ∧ Differs f.call.request.frame stale := by
  have hok := busOk_run events
  have hfinished := hok.finished f hf
  have hfits := hok.done f hf
  have hread : f.call.taken ≠ [] := by
    intro hnil
    exact absurd ((hfits.late hnil).2 time harrived) (not_le.mpr htime)
  obtain ⟨first, rest, htaken⟩ := exists_cons_of_ne_nil hread
  have hfront := hfits.taken
  rw [htaken] at hfront
  have hdecides : (∃ e, IsSerialMismatch e ∧ f.result = some (.error e)) ↔
      Differs f.call.request.frame first := by
    rw [← @consume_serialMismatch_iff _ first rest, ← htaken]
    constructor
    · rintro ⟨e, hmis, hres⟩
      exact ⟨e, hmis, hfinished.answered _ hres⟩
    · rintro ⟨e, hmis, hconsume⟩
      refine ⟨e, hmis, ?_⟩
      exact hfinished.result_of_consume hconsume
  rw [hdecides]
  rcases head_of_prefix hfront with hqueue | ⟨hqueue, hown⟩
  · rw [hqueue]
    constructor
    · intro hdiffers
      exact ⟨first, rfl, hdiffers⟩
    · rintro ⟨_, ⟨⟩, hdiffers⟩
      exact hdiffers
  · -- nothing was before its own answer
    rw [hqueue]
    constructor
    · intro hdiffers
      exact absurd hdiffers (f.call.request.echoes first hown)
    · rintro ⟨stale, ⟨⟩, -⟩

def zeroBody : Cjt188Body → Cjt188Body
  | .readData di serial => .readDataResponse di serial [0]
  | _ => .raw []

theorem not_differs_zeroBody (req meterType address control) :
    ¬ Differs req ⟨meterType, address, control, zeroBody req.body⟩ := by
  rintro ⟨reqS, respS, hreq, hresp, hne⟩
  rcases req with ⟨reqType, reqAddress, reqControl, body⟩
  cases body with
  | readData di serial =>
    cases hreq
    cases hresp
    exact hne rfl
  | _ => cases hresp

def zeroMeter : Meter where
  answer req := [⟨req.meterType, req.address, ⟨0x81⟩, zeroBody req.body⟩]
  answers _ := cons_ne_nil _ _
  echoes := by
    intro req frame hframe
    rw [mem_singleton.mp hframe]
    exact not_differs_zeroBody req _ _ _

def readFlow (now : Nat) : BusEvent := .send now (.readData flowParams) 10 zeroMeter

/-- The late answer to the first request was unread when the second one was sent. -/
theorem serialMismatch_of_stale_answer :
    let events := [readFlow 0, .expire 10, .arrive 11, readFlow 20, .read 20, .arrive 21]
    ∃ f, (run busStep Bus.new events).trace[1]? = some f ∧
      ∃ e, IsSerialMismatch e ∧ f.result = some (.error e) := by
  intro events
  have hdone := mem_of_getElem? (show (run busStep Bus.new events).trace[1]? = _ from rfl)
  refine ⟨_, rfl, (serialMismatch_iff_stale events hdone 21 ?_ ?_).mpr ?_⟩
  · exact mem_cons_self
  · decide
  · exact ⟨_, rfl, 1, 0, rfl, rfl, by decide⟩

/-- The first answer comes 1 after its timeout. The request sent at 20 takes it for its own, which
arrives at 21, before the deadline 30. -/
theorem serialMismatch_after_late_answer :
    ∃ f, (run busStep Bus.new [readFlow 0, .expire 10, .arrive 11, readFlow 20, .read 20,
        .arrive 21]).trace[1]? = some f ∧
      (f.call.request.index, 21) ∈ (run busStep Bus.new [readFlow 0, .expire 10, .arrive 11,
        readFlow 20, .read 20, .arrive 21]).state.arrivals ∧
      f.call.request.deadline = 30 ∧ f.call.request.answer.length = 1 ∧
      f.result = some (.error (serialMismatch 1 0)) := by
  refine ⟨_, rfl, ?_, rfl, rfl, rfl⟩
  exact mem_cons_self

end NgGateway.Cjt188LateAnswers
