import NgGateway.Iec104SessionState
import NgGateway.TracedRuns

/-!
`run_connection_with_stream`: the loop of an IEC 104 session. One event is one turn of the
`select!`, with every value the loop takes from outside.
-/

namespace NgGateway.Iec104SessionLoop

open Iec104Frame Iec104SessionState TracedRuns TracedRuns.Traced

inductive SessionLifecycleState where
  | idle
  | connecting
  | handshaking
  | active
  | inactive
  | closing
  | closed
  | failed (reason : String)
  deriving DecidableEq

inductive SessionEvent where
  | lifecycleChanged (lifecycle : SessionLifecycleState)
  | windowFullDrop
  | lowPriorityMerged
  | memoryBudgetDrop
  | frameTooLargeDrop
  | t1Timeout
  deriving DecidableEq

inductive Priority where
  | high
  | low

inductive Request where
  | i (asdu : Asdu) (prio : Priority)
  | u (apci : UApci)
  | s (apci : SApci)

/-- What the loop does to its surroundings; `accepted` marks an I frame that passed both number
checks. -/
inductive Obs where
  | sent (apdu : Apdu)
  | sendFailed (apdu : Apdu)
  | event (event : SessionEvent)
  | accepted (apci : IApci)
  | delivered (asdu : Asdu)
  | resubmitted (asdu : Asdu)
  deriving DecidableEq

inductive ExitReason where
  | startFailed
  | cancelled
  | t1Timeouts
  | t0Timeout
  | sendFailed
  | requestsClosed
  | invalidAckOrSeq
  | invalidSAck
  | streamEnded
  deriving DecidableEq

structure LoopState where
  state : SessionState
  lifecycle : SessionLifecycleState
  hiQueue : List (Asdu × Nat)
  hiQueueBytes : Nat
  testSentSince : Int
  startSentSince : Int
  stopSentSince : Int

/-- `flushOk n` is the result of the backlog send with `n` slots left behind it. -/
inductive LoopEvent where
  | cancelled
  | tick (now : Int) (testOk sAckOk : Bool) (flushOk : Nat → Bool)
  | request (request : Option Request) (now : Int) (sendOk : Bool)
  | arrival (apdu : Option Apdu) (now markNow : Int) (replyOk : Bool)

abbrev LoopResult := Traced Obs ExitReason LoopState

def satAddUsize (a b : Nat) : Nat := min (a + b) usizeMax

def LoopState.new (start startdtSent : Int) : LoopState where
  state := SessionState.new start
  lifecycle := .inactive
  hiQueue := []
  hiQueueBytes := 0
  testSentSince := maxUtc
  startSentSince := startdtSent
  stopSentSince := maxUtc

def startSession (start startdtSent : Int) (sendOk : Bool) : LoopResult :=
  let opening := [Obs.event (.lifecycleChanged .handshaking), .event (.lifecycleChanged .inactive)]
  if sendOk then
    emit (opening ++ [.sent (newUframe uStartdtActive)]) (LoopState.new start startdtSent)
  else
    stop (opening ++ [.sendFailed (newUframe uStartdtActive)]) .startFailed
      (LoopState.new start startdtSent)

def handleT1 (config : SessionConfig) (now : Int) (s : LoopState) : LoopResult :=
  match s.state.checkAndHandleT1Timeout now config.t1Ms with
  | (state, some _) =>
    if state.consecutiveT1Timeouts ≥ 5 then
      stop [.event .t1Timeout] .t1Timeouts { s with state := state }
    else emit [.event .t1Timeout] { s with state := state }
  | (state, none) => done { s with state := state }

def sendSAck (config : SessionConfig) (now : Int) (sendOk : Bool) (s : LoopState) :
    LoopResult :=
  if s.state.shouldSendSAck now config.t2Ms config.wThreshold then
    let apdu := newSframe s.state.rcvSn
    emit [if sendOk then .sent apdu else .sendFailed apdu] { s with state := s.state.markSAckSent }
  else done s

/-- The backlog loop. An ASDU whose send fails has already left the queue. -/
def flushSlots (now : Int) (sendOk : Nat → Bool) : Nat → LoopState → LoopResult
  | 0, s => done s
  | slots + 1, s =>
    match s.hiQueue with
    | [] => done s
    | (asdu, sizeBytes) :: rest =>
      let apdu := newIframe asdu s.state.sendSn s.state.rcvSn
      match apdu.apci.kind with
      | .i iapci =>
        if sendOk slots then
          (emit [.sent apdu]
            { s with
              state := s.state.recordSent iapci.sendSn now sizeBytes
              hiQueue := rest
              hiQueueBytes := s.hiQueueBytes - sizeBytes }).andThen
            (flushSlots now sendOk slots)
        else emit [.sendFailed apdu] { s with hiQueue := rest }
      | _ => done { s with hiQueue := rest }

def flushLowPrio (config : SessionConfig) (now : Int) (s : LoopState) : LoopResult :=
  if s.hiQueue.isEmpty && decide (config.lowPrioFlushMaxAgeMs > 0) &&
      s.state.shouldFlushLowPrio now config.lowPrioFlushMaxAgeMs then
    match s.state.takeLastLowPrio with
    | (state, some asdu) => emit [.resubmitted asdu] { s with state := state }
    | (state, none) => done { s with state := state }
  else done s

def flushBacklog (config : SessionConfig) (now : Int) (sendOk : Nat → Bool) (s : LoopState) :
    LoopResult :=
  if s.lifecycle = .active ∧ s.state.windowHasCapacity config.kWindow then
    (flushSlots now sendOk (s.state.windowAvailableSlots config.kWindow).toNat s).andThen
      (flushLowPrio config now)
  else done s

def t0Exceeded (config : SessionConfig) (now since : Int) : Bool :=
  decide (millisecondsSince now since ≥ 0) && decide (elapsedMs now since ≥ config.t0Ms)

def checkT0 (config : SessionConfig) (now : Int) (s : LoopState) : LoopResult :=
  if t0Exceeded config now s.testSentSince || t0Exceeded config now s.startSentSince ||
      t0Exceeded config now s.stopSentSince then
    stop [] .t0Timeout s
  else done s

def finishTick (config : SessionConfig) (now : Int) (sAckOk : Bool) (flushOk : Nat → Bool)
    (s : LoopState) : LoopResult :=
  ((sendSAck config now sAckOk s).andThen (flushBacklog config now flushOk)).andThen
    (checkT0 config now)

/-- The tick from the `t3` check on. A failed test frame ends the tick. -/
def testAndFinishTick (config : SessionConfig) (now : Int) (testOk sAckOk : Bool)
    (flushOk : Nat → Bool) (s : LoopState) : LoopResult :=
  if elapsedMs now s.state.idleSince ≥ config.t3Ms then
    let s := { s with testSentSince := now }
    let apdu := newUframe uTestfrActive
    if testOk then
      (emit [.sent apdu] { s with state := { s.state with idleSince := now } }).andThen
        (finishTick config now sAckOk flushOk)
    else emit [.sendFailed apdu] s
  else finishTick config now sAckOk flushOk s

def handleTick (config : SessionConfig) (now : Int) (testOk sAckOk : Bool)
    (flushOk : Nat → Bool) (s : LoopState) : LoopResult :=
  (handleT1 config now s).andThen (testAndFinishTick config now testOk sAckOk flushOk)

def overBudget (config : SessionConfig) (s : LoopState) (sizeBytes : Nat) : Bool :=
  satAddUsize (satAddUsize s.state.totalPendingBytes s.hiQueueBytes) sizeBytes >
    config.maxPendingAsduBytes

def enqueue (config : SessionConfig) (asdu : Asdu) (sizeBytes : Nat) (s : LoopState) :
    LoopResult :=
  if s.hiQueue.length < config.sendQueueCapacity ∧ !overBudget config s sizeBytes then
    done { s with
      hiQueue := s.hiQueue ++ [(asdu, sizeBytes)]
      hiQueueBytes := satAddUsize s.hiQueueBytes sizeBytes }
  else emit [.event .windowFullDrop] s

def mergeLowPrio (asdu : Asdu) (now : Int) (s : LoopState) : LoopResult :=
  emit [.event .lowPriorityMerged] { s with state := s.state.setLastLowPrio asdu now }

def requestWindowFull (config : SessionConfig) (asdu : Asdu) (prio : Priority) (sizeBytes : Nat)
    (now : Int) (s : LoopState) : LoopResult :=
  match prio with
  | .high => enqueue config asdu sizeBytes s
  | .low =>
    if config.discardLowPriorityWhenWindowFull then emit [.event .windowFullDrop] s
    else if config.mergeLowPriority then mergeLowPrio asdu now s
    else enqueue config asdu sizeBytes s

def requestOverBudget (config : SessionConfig) (asdu : Asdu) (prio : Priority) (now : Int)
    (s : LoopState) : LoopResult :=
  match prio with
  | .high => emit [.event .memoryBudgetDrop] s
  | .low =>
    if config.discardLowPriorityWhenWindowFull then emit [.event .memoryBudgetDrop] s
    else if config.mergeLowPriority then mergeLowPrio asdu now s
    else emit [.event .memoryBudgetDrop] s

def sendDirect (asdu : Asdu) (sizeBytes : Nat) (now : Int) (sendOk : Bool) (s : LoopState) :
    LoopResult :=
  let apdu := newIframe asdu s.state.sendSn s.state.rcvSn
  match apdu.apci.kind with
  | .i iapci =>
    if sendOk then
      emit [.sent apdu] { s with state := s.state.recordSent iapci.sendSn now sizeBytes }
    else stop [.sendFailed apdu] .sendFailed s
  | _ => done s

def requestI (config : SessionConfig) (asdu : Asdu) (prio : Priority) (now : Int) (sendOk : Bool)
    (s : LoopState) : LoopResult :=
  let sizeBytes := iframeWireSizeForAsdu asdu
  if s.lifecycle ≠ .active then done s
  else if sizeBytes > apduSizeMax then emit [.event .frameTooLargeDrop] s
  else if !s.state.windowHasCapacity config.kWindow then
    requestWindowFull config asdu prio sizeBytes now s
  else if overBudget config s sizeBytes then requestOverBudget config asdu prio now s
  else sendDirect asdu sizeBytes now sendOk s

def sendOrExit (apdu : Apdu) (sendOk : Bool) (s : LoopState) : LoopResult :=
  if sendOk then emit [.sent apdu] s else stop [.sendFailed apdu] .sendFailed s

def requestU (function : UInt8) (now : Int) (sendOk : Bool) (s : LoopState) : LoopResult :=
  let s :=
    if function = uStartdtActive then { s with startSentSince := now }
    else if function = uStopdtActive then { s with stopSentSince := now }
    else s
  sendOrExit (newUframe function) sendOk s

def handleRequest (config : SessionConfig) (request : Option Request) (now : Int) (sendOk : Bool)
    (s : LoopState) : LoopResult :=
  match request with
  | some (.i asdu prio) => requestI config asdu prio now sendOk s
  | some (.u apci) => requestU apci.function now sendOk s
  | some (.s apci) => sendOrExit (newSframe apci.rcvSn) sendOk s
  | none => stop [] .requestsClosed s

def arrivalI (apci : IApci) (asdu : Option Asdu) (markNow : Int) (s : LoopState) : LoopResult :=
  match s.state.updateSendAck apci.rcvSn with
  | none => stop [] .invalidAckOrSeq s
  | some acked =>
    match acked.advanceReceiveSeq apci.sendSn with
    | none => stop [] .invalidAckOrSeq { s with state := acked }
    | some state =>
      emit (.accepted apci :: (asdu.map Obs.delivered).toList)
        { s with state := state.markUnackedReceive markNow }

def arrivalS (apci : SApci) (s : LoopState) : LoopResult :=
  match s.state.updateSendAck apci.rcvSn with
  | none => stop [] .invalidSAck s
  | some state => done { s with state := state }

def enter (lifecycle : SessionLifecycleState) (s : LoopState) : LoopResult :=
  emit [.event (.lifecycleChanged lifecycle)] { s with lifecycle := lifecycle }

def replyThen (function : UInt8) (replyOk : Bool) (next : LoopState → LoopResult)
    (s : LoopState) : LoopResult :=
  let apdu := newUframe function
  if replyOk then (emit [.sent apdu] s).andThen next else emit [.sendFailed apdu] s

def arrivalU (function : UInt8) (replyOk : Bool) (s : LoopState) : LoopResult :=
  if function = uStartdtConfirm then enter .active { s with startSentSince := maxUtc }
  else if function = uStopdtConfirm then enter .inactive { s with stopSentSince := maxUtc }
  else if function = uTestfrConfirm then done { s with testSentSince := maxUtc }
  else if function = uStartdtActive then replyThen uStartdtConfirm replyOk (enter .active) s
  else if function = uStopdtActive then replyThen uStopdtConfirm replyOk (enter .inactive) s
  else if function = uTestfrActive then replyThen uTestfrConfirm replyOk done s
  else done s

def handleArrival (apdu : Option Apdu) (now markNow : Int) (replyOk : Bool) (s : LoopState) :
    LoopResult :=
  match apdu with
  | none => stop [] .streamEnded s
  | some apdu =>
    let s := { s with state := { s.state with idleSince := now } }
    match apdu.apci.kind with
    | .i apci => arrivalI apci apdu.asdu markNow s
    | .u apci => arrivalU apci.function replyOk s
    | .s apci => arrivalS apci s

def loopStep (config : SessionConfig) (s : LoopState) : LoopEvent → LoopResult
  | .cancelled => stop [] .cancelled s
  | .tick now testOk sAckOk flushOk => handleTick config now testOk sAckOk flushOk s
  | .request request now sendOk => handleRequest config request now sendOk s
  | .arrival apdu now markNow replyOk => handleArrival apdu now markNow replyOk s

def sessionRun (config : SessionConfig) (start startdtSent : Int) (startOk : Bool)
    (events : List LoopEvent) : LoopResult :=
  (startSession start startdtSent startOk).andThen fun s => run (loopStep config) s events

end NgGateway.Iec104SessionLoop
