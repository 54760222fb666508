import NgGateway.SaturatingArith
import NgGateway.TracedRuns

/-!
The supervision loop of a channel or an app. A step of the model is what happens between two points
at which `run_loop` waits.
-/

namespace NgGateway.SupervisorLoop

open SaturatingArith TracedRuns TracedRuns.Traced

inductive Phase where
  | disconnected
  | connecting
  | initializing
  | connected
  | reconnecting
  | failed
  deriving DecidableEq

inductive FailureKind where
  | retryable
  | fatal
  | stop
  deriving DecidableEq

inductive FailurePhase where
  | connect
  | init
  | run

structure FailureReport where
  phase : FailurePhase
  kind : FailureKind
  summary : String
  code : Option String

structure RetryBudgetSnapshot where
  exhausted : Bool
  remainingHint : Option UInt32

/-- `ConnectionState` without its timestamps. Durations are in milliseconds. -/
structure ConnectionState where
  phase : Phase
  attempt : UInt64
  backoff : Option Nat
  lastFailure : Option FailureReport
  budget : RetryBudgetSnapshot

def ConnectionState.now (phase : Phase) (attempt : UInt64) : ConnectionState :=
  ⟨phase, attempt, none, none, ⟨false, none⟩⟩

structure RetryController where
  maxAttempts : Option UInt32
  retriesUsed : UInt32

inductive RetryDecision where
  | retryAfter (delay : Nat)
  | exhausted

def RetryController.new (maxAttempts : Option UInt32) : RetryController := ⟨maxAttempts, 0⟩

def RetryController.reset (retry : RetryController) : RetryController :=
  { retry with retriesUsed := 0 }

/-- `nextBackoff` is the next delay of the exponential backoff, none when its time is over. -/
def RetryController.onFailure (retry : RetryController) (nextBackoff : Option Nat) :
    RetryDecision × RetryController :=
  if retry.maxAttempts.any fun max => max ≤ retry.retriesUsed then (.exhausted, retry)
  else
    match nextBackoff with
    | some delay =>
      (.retryAfter delay, { retry with retriesUsed := satAdd32 retry.retriesUsed 1 })
    | none => (.exhausted, retry)

def RetryController.budgetSnapshot (retry : RetryController) : RetryBudgetSnapshot :=
  match retry.maxAttempts with
  | some max =>
    let remaining := satSub32 max retry.retriesUsed
    ⟨remaining == 0, some remaining⟩
  | none => ⟨false, none⟩

structure Failure where
  kind : FailureKind
  summary : String
  code : Option String

def buildFailureReport (phase : FailurePhase) (failure : Failure) : FailureReport :=
  ⟨phase, failure.kind, failure.summary, failure.code⟩

inductive RunOutcome where
  | disconnected
  | reconnectRequested (reason : String)
  | fatal (report : FailureReport)

/-- Why the loop stops waiting for a session. The session's task may panic: `joinError`. -/
inductive StopReason where
  | cancelled
  | reconnect (request : Option String)
  | completed (outcome : RunOutcome)
  | error (failure : Failure)
  | joinError (message : String)

def StopReason.toOutcome : StopReason → RunOutcome
  | .cancelled => .disconnected
  | .reconnect (some reason) => .reconnectRequested reason
  | .reconnect none => .disconnected
  | .completed outcome => outcome
  | .error failure => .fatal (buildFailureReport .run failure)
  | .joinError message => .fatal ⟨.run, .fatal, message, some "join_error"⟩

/-- The published states, the handle cell, and the other calls of the observer. -/
inductive Effect where
  | publishState (state : ConnectionState)
  | storeHandle (present : Bool)
  | onFailure (report : FailureReport)
  | onBackoff (delay : Nat) (budget : RetryBudgetSnapshot)

inductive Point where
  | loopTop
  | connect
  | init
  | run
  | backoff
  | returned
  deriving DecidableEq

inductive Exit where
  | cancelled
  | failed

structure Loop where
  point : Point
  cancelled : Bool
  attempt : UInt64
  retry : RetryController

def Loop.start (maxAttempts : Option UInt32) : Loop :=
  ⟨.loopTop, false, 0, .new maxAttempts⟩

/-- `stop` is `SupervisorHandle::stop`; the others are what the loop waits for. -/
inductive Event where
  | stop
  | top
  | connected (result : Except Failure Unit) (nextBackoff : Option Nat)
  | initialized (result : Except Failure Unit) (nextBackoff : Option Nat)
  | stopped (reason : StopReason) (nextBackoff : Option Nat)
  | slept
  | woken

def publishFailureAndState (loop : Loop) (report : FailureReport) : Traced Effect Exit Loop :=
  .stop
    [.onFailure report,
      .publishState { ConnectionState.now .failed loop.attempt with lastFailure := some report },
      .storeHandle false]
    .failed { loop with point := .returned }

def backoffOrFail (loop : Loop) (report : FailureReport) (nextBackoff : Option Nat) :
    Traced Effect Exit Loop :=
  match loop.retry.onFailure nextBackoff with
  | (.retryAfter delay, retry) =>
    emit
      [.onFailure report, .onBackoff delay retry.budgetSnapshot,
        .publishState ⟨.reconnecting, loop.attempt, some delay, some report, retry.budgetSnapshot⟩]
      { loop with point := .backoff, retry := retry }
  | (.exhausted, retry) =>
    .stop
      [.onFailure report, .publishState ⟨.failed, loop.attempt, none, some report, ⟨true, some 0⟩⟩]
      .failed { loop with point := .returned, retry := retry }

def onError (loop : Loop) (report : FailureReport) (nextBackoff : Option Nat) :
    Traced Effect Exit Loop :=
  match report.kind with
  | .stop => publishFailureAndState loop report
  | .fatal => publishFailureAndState loop report
  | .retryable => backoffOrFail loop report nextBackoff

def atTop (loop : Loop) : Traced Effect Exit Loop :=
  if loop.cancelled then
    .stop [.publishState (.now .disconnected loop.attempt), .storeHandle false] .cancelled
      { loop with point := .returned }
  else
    let attempt := satAdd64 loop.attempt 1
    emit [.publishState (.now .connecting attempt)]
      { loop with point := .connect, attempt := attempt }

def afterConnect (loop : Loop) (nextBackoff : Option Nat) :
    Except Failure Unit → Traced Effect Exit Loop
  | .ok () =>
    emit [.publishState (.now .initializing loop.attempt)] { loop with point := .init }
  | .error failure => onError loop (buildFailureReport .connect failure) nextBackoff

def afterInit (loop : Loop) (nextBackoff : Option Nat) :
    Except Failure Unit → Traced Effect Exit Loop
  | .ok () =>
    emit [.storeHandle true, .publishState (.now .connected loop.attempt)]
      { loop with point := .run, retry := loop.retry.reset }
  | .error failure => onError loop (buildFailureReport .init failure) nextBackoff

def afterRun (loop : Loop) (nextBackoff : Option Nat) : RunOutcome → Traced Effect Exit Loop
  | .disconnected =>
    (emit [.storeHandle false, .publishState (.now .disconnected loop.attempt)] loop).andThen
      fun loop =>
        backoffOrFail loop ⟨.run, .retryable, "disconnected", some "disconnected"⟩ nextBackoff
  | .reconnectRequested _ =>
    emit [.storeHandle false, .publishState (.now .reconnecting loop.attempt)]
      { loop with point := .loopTop, retry := loop.retry.reset }
  | .fatal report =>
    (emit [.storeHandle false] loop).andThen fun loop => publishFailureAndState loop report

/-- Cancellation ends the wait for a session only after `stop`. -/
def StopReason.possible (loop : Loop) : StopReason → Bool
  | .cancelled => loop.cancelled
  | _ => true

def step (loop : Loop) (event : Event) : Traced Effect Exit Loop :=
  match loop.point, event with
  | _, .stop => done { loop with cancelled := true }
  | .loopTop, .top => atTop loop
  | .connect, .connected result nextBackoff => afterConnect loop nextBackoff result
  | .init, .initialized result nextBackoff => afterInit loop nextBackoff result
  | .run, .stopped reason nextBackoff =>
    if reason.possible loop then afterRun loop nextBackoff reason.toOutcome else done loop
  | .backoff, .slept => done { loop with point := .loopTop }
  | .backoff, .woken =>
    if loop.cancelled then .stop [] .cancelled { loop with point := .returned } else done loop
  | _, _ => done loop

def runLoop (maxAttempts : Option UInt32) (events : List Event) : Traced Effect Exit Loop :=
  run step (.start maxAttempts) events

def Effect.state? : Effect → Option ConnectionState
  | .publishState state => some state
  | _ => none

def published (trace : List Effect) : List ConnectionState :=
  trace.filterMap Effect.state?

def phases (trace : List Effect) : List Phase :=
  (published trace).map ConnectionState.phase

theorem phases_append (first second) :
    phases (first ++ second) = phases first ++ phases second := by
  rw [phases, published, List.filterMap_append, List.map_append]
  rfl

inductive Moves : Point → List Phase → Point → Prop
  | stay (p : Point) : Moves p [] p
  | attempt : Moves .loopTop [.connecting] .connect
  | cancelled : Moves .loopTop [.disconnected] .returned
  | session : Moves .connect [.initializing] .init
  | connectFails : Moves .connect [.failed] .returned
  | connectAgain : Moves .connect [.reconnecting] .backoff
  | ready : Moves .init [.connected] .run
  | initFails : Moves .init [.failed] .returned
  | initAgain : Moves .init [.reconnecting] .backoff
  | dropped : Moves .run [.disconnected, .reconnecting] .backoff
  | droppedForGood : Moves .run [.disconnected, .failed] .returned
  | reconnect : Moves .run [.reconnecting] .loopTop
  | fatal : Moves .run [.failed] .returned
  | slept : Moves .backoff [] .loopTop
  | woken : Moves .backoff [] .returned

def Point.working : Point → Bool
  | .connect | .init | .run => true
  | _ => false

def Loop.ending (loop : Loop) : List Effect :=
  if loop.point = .run then [.storeHandle false, .publishState (.now .disconnected loop.attempt)]
  else []

inductive Acts (loop : Loop) : Event → Traced Effect Exit Loop → Prop
  | idle (event : Event) (cancelled : Bool) :
      Acts loop event (done { loop with cancelled := cancelled })
  | attempt (hpoint : loop.point = .loopTop) (attempt : UInt64) :
      Acts loop .top
        (emit [.publishState (.now .connecting attempt)]
          { loop with point := .connect, attempt := attempt })
  | cancelled (hpoint : loop.point = .loopTop) :
      Acts loop .top
        (.stop [.publishState (.now .disconnected loop.attempt), .storeHandle false] .cancelled
          { loop with point := .returned })
  | session (hpoint : loop.point = .connect) (event : Event) :
      Acts loop event
        (emit [.publishState (.now .initializing loop.attempt)] { loop with point := .init })
  | ready (hpoint : loop.point = .init) (event : Event) :
      Acts loop event
        (emit [.storeHandle true, .publishState (.now .connected loop.attempt)]
          { loop with point := .run, retry := loop.retry.reset })
  | again (hpoint : loop.point.working) (event : Event) (report : FailureReport)
      (nextBackoff : Option Nat) (delay : Nat) (retry : RetryController)
      (hretry : loop.retry.onFailure nextBackoff = (.retryAfter delay, retry)) :
      Acts loop event
        (emit
          (loop.ending ++ [.onFailure report, .onBackoff delay retry.budgetSnapshot, .publishState
            ⟨.reconnecting, loop.attempt, some delay, some report, retry.budgetSnapshot⟩])
          { loop with point := .backoff, retry := retry })
  | exhausted (hpoint : loop.point.working) {event : Event} (hevent : event ≠ .top)
      (report : FailureReport) (retry : RetryController) :
      Acts loop event
        (.stop
          (loop.ending ++ [.onFailure report,
            .publishState ⟨.failed, loop.attempt, none, some report, ⟨true, some 0⟩⟩])
          .failed { loop with point := .returned, retry := retry })
  | fails (hpoint : loop.point.working) {event : Event} (hevent : event ≠ .top)
      (report : FailureReport) :
      Acts loop event
        (.stop (loop.ending.take 1 ++ (publishFailureAndState loop report).trace) .failed
          { loop with point := .returned })
  | reconnect (hpoint : loop.point = .run) (event : Event) :
      Acts loop event
        (emit [.storeHandle false, .publishState (.now .reconnecting loop.attempt)]
          { loop with point := .loopTop, retry := loop.retry.reset })
  | slept (hpoint : loop.point = .backoff) (event : Event) :
      Acts loop event (done { loop with point := .loopTop })
  | woken (hpoint : loop.point = .backoff) (hcancelled : loop.cancelled = true) :
      Acts loop .woken (.stop [] .cancelled { loop with point := .returned })

section

variable {loop : Loop} (hpoint : loop.point.working) {event : Event} (hevent : event ≠ .top)

include hpoint hevent

theorem acts_backoffOrFail (report nextBackoff) :
    Acts loop event
      ((emit loop.ending loop).andThen fun loop => backoffOrFail loop report nextBackoff) := by
  change Acts loop event ⟨loop.ending ++ (backoffOrFail loop report nextBackoff).trace,
    (backoffOrFail loop report nextBackoff).state, (backoffOrFail loop report nextBackoff).exit⟩
  unfold backoffOrFail
  rcases hretry : loop.retry.onFailure nextBackoff with ⟨delay | -, retry⟩
  · exact .again hpoint event report nextBackoff delay retry hretry
  · exact .exhausted hpoint hevent report retry

theorem acts_onError (hrun : loop.point ≠ .run) (report nextBackoff) :
    Acts loop event (onError loop report nextBackoff) := by
  have hfails := Acts.fails hpoint hevent report
  have hbackoff := acts_backoffOrFail hpoint hevent report nextBackoff
  rw [Loop.ending, if_neg hrun] at hfails hbackoff
  unfold onError
  cases report.kind with
  | retryable => exact hbackoff
  | fatal | stop => exact hfails

theorem acts_afterRun (hrun : loop.point = .run) (nextBackoff outcome) :
    Acts loop event (afterRun loop nextBackoff outcome) := by
  cases outcome with
  | disconnected =>
    have hbackoff := acts_backoffOrFail hpoint hevent
      ⟨.run, .retryable, "disconnected", some "disconnected"⟩ nextBackoff
    rw [Loop.ending, if_pos hrun] at hbackoff
    exact hbackoff
  | reconnectRequested reason => exact .reconnect hrun event
  | fatal report =>
    have hfails := Acts.fails hpoint hevent report
    rw [Loop.ending, if_pos hrun] at hfails
    exact hfails

end

theorem acts_step (loop event) : Acts loop event (step loop event) := by
  unfold step
  split
  · exact .idle _ true
  · rename_i hpoint
    unfold atTop
    split_ifs
    · exact .cancelled hpoint
    · exact .attempt hpoint _
  · rename_i result nextBackoff hpoint
    cases result with
    | ok _ => exact .session hpoint _
    | error failure =>
      exact acts_onError (by rw [hpoint]; rfl) Event.noConfusion (by simp [hpoint]) _ nextBackoff
  · rename_i result nextBackoff hpoint
    cases result with
    | ok _ => exact .ready hpoint _
    | error failure =>
      exact acts_onError (by rw [hpoint]; rfl) Event.noConfusion (by simp [hpoint]) _ nextBackoff
  · rename_i reason nextBackoff hpoint
    split_ifs
    · exact acts_afterRun (by rw [hpoint]; rfl) Event.noConfusion hpoint nextBackoff
        reason.toOutcome
    · exact .idle _ loop.cancelled
  · exact .slept ‹_› _
  · split_ifs with hcancelled
    · exact .woken ‹_› hcancelled
    · exact .idle _ loop.cancelled
  · exact .idle _ loop.cancelled

theorem moves_step (loop event) :
    Moves loop.point (phases (step loop event).trace) (step loop event).state.point := by
  rcases loop with ⟨point, cancelled, attempt, retry⟩
  obtain hacts := acts_step ⟨point, cancelled, attempt, retry⟩ event
  generalize step _ event = x at hacts ⊢
  cases hacts with
  | idle => exact .stay _
  | attempt hpoint => cases hpoint; exact .attempt
  | cancelled hpoint => cases hpoint; exact .cancelled
  | session hpoint => cases hpoint; exact .session
  | ready hpoint => cases hpoint; exact .ready
  | again hpoint =>
    cases point <;> cases hpoint
    · exact .connectAgain
    · exact .initAgain
    · exact .dropped
  | exhausted hpoint =>
    cases point <;> cases hpoint
    · exact .connectFails
    · exact .initFails
    · exact .droppedForGood
  | fails hpoint =>
    cases point <;> cases hpoint
    · exact .connectFails
    · exact .initFails
    · exact .fatal
  | reconnect hpoint => cases hpoint; exact .reconnect
  | slept hpoint => cases hpoint; exact .slept
  | woken hpoint => cases hpoint; exact .woken

end NgGateway.SupervisorLoop
