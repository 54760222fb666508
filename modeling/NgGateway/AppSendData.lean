import NgGateway.SubscriptionSync
import NgGateway.SupervisorLoop

/-!
The two ways of data into a plugin's queue: `send_data` while it is connected, and `flush_buffer`
when it becomes connected. The flush holds the lock of the buffer until its end.
-/

namespace NgGateway.AppSendData

open RuntimeMutation (NGError)
open SubscriptionSync (AppActorState SendResult)
open SupervisorLoop (Phase)

inductive DropPolicy where
  | discard
  | block

structure QueuePolicy where
  capacity : Nat
  dropPolicy : DropPolicy
  bufferEnabled : Bool
  bufferCapacity : Nat
  bufferExpireMs : Nat

variable {α : Type*}

/-- Data that was accepted, and how many were accepted before. -/
structure Item (α : Type*) where
  data : α
  number : Nat

/-- Where a call of `send_data` is. A blocking call waits for a free slot and reserves it. -/
inductive CallPhase where
  | entered
  | running
  | loaded (connected : Bool)
  | waiting
  | reserved
  | returned (result : SendResult)
  deriving DecidableEq

structure Call (α : Type*) where
  data : α
  phase : CallPhase

/-- Where `on_state` is. A flush keeps the items that found the queue full. -/
inductive ObserverPhase (α : Type*) where
  | idle
  | stored (phase : Phase)
  | flushing (now : Nat) (toSend : List (Item α × Nat))

/-- The buffer has times in nanoseconds. The last fields record what was accepted, entered the queue
and was dropped. -/
structure State (α : Type*) where
  appState : AppActorState
  connState : Phase
  lastPhase : Phase
  observer : ObserverPhase α
  queue : List (Item α)
  free : Nat
  waiters : List Nat
  closed : Bool
  buffer : List (Item α × Nat)
  calls : List (Call α)
  accepted : Nat
  entered : List Nat
  lost : List Nat

def State.setPhase (s : State α) (i : Nat) (call : Call α) (phase : CallPhase) : State α :=
  { s with calls := s.calls.set i { call with phase := phase } }

def State.enter (s : State α) (data : α) : State α :=
  { s with
    queue := s.queue ++ [⟨data, s.accepted⟩]
    accepted := s.accepted + 1
    entered := s.entered ++ [s.accepted] }

def stateDebug : AppActorState → String
  | .uninitialized => "Uninitialized"
  | .starting => "Starting"
  | .running => "Running"
  | .stopping => "Stopping"
  | .stopped => "Stopped"
  | .error => "Error"

def notRunning (appId : Int32) (state : AppActorState) : NGError :=
  .invalidStateError ("App " ++ toString appId.toInt ++ " is not running (state: " ++
    stateDebug state ++ ")")

def channelClosed (appId : Int32) : NGError :=
  .error ("App " ++ toString appId.toInt ++ " data channel closed")

def evictOldest (s : State α) : State α :=
  match s.buffer with
  | [] => s
  | (item, _) :: rest => { s with buffer := rest, lost := s.lost ++ [item.number] }

def pushBuffer (s : State α) (now : Nat) (data : α) : State α :=
  { s with
    buffer := s.buffer ++ [(⟨data, s.accepted⟩, now)]
    accepted := s.accepted + 1 }

def bufferData (policy : QueuePolicy) (s : State α) (now : Nat) (data : α) :
    SendResult × State α :=
  if policy.bufferCapacity = 0 then (.dropped, s)
  else if policy.bufferCapacity ≤ s.buffer.length then
    (.accepted, pushBuffer (evictOldest s) now data)
  else (.accepted, pushBuffer s now data)

def State.locked (s : State α) : Bool :=
  match s.observer with
  | .flushing _ _ => true
  | _ => false

section

variable (policy : QueuePolicy) (appId : Int32)

def sendData (s : State α) (i : Nat) (now : Nat) (call : Call α) : CallPhase → Option (State α)
  | .entered =>
    if s.appState = .running then some (s.setPhase i call .running)
    else some (s.setPhase i call (.returned (.failed (notRunning appId s.appState))))
  | .running => some (s.setPhase i call (.loaded (s.connState = .connected)))
  | .loaded false =>
    if policy.bufferEnabled then
      if s.locked then none
      else
        some ((bufferData policy s now call.data).2.setPhase i call
          (.returned (bufferData policy s now call.data).1))
    else some (s.setPhase i call (.returned .dropped))
  | .loaded true =>
    if s.closed then some (s.setPhase i call (.returned (.failed (channelClosed appId))))
    else
      match policy.dropPolicy with
      | .discard =>
        if s.free = 0 then some (s.setPhase i call (.returned .dropped))
        else
          some { (s.enter call.data).setPhase i call (.returned .accepted) with
            free := s.free - 1 }
      | .block =>
        if s.free = 0 then
          some { s.setPhase i call .waiting with waiters := s.waiters ++ [i] }
        else some { s.setPhase i call .reserved with free := s.free - 1 }
  | .waiting =>
    if s.closed then some (s.setPhase i call (.returned (.failed (channelClosed appId))))
    else none
  | .reserved => some ((s.enter call.data).setPhase i call (.returned .accepted))
  | .returned _ => none

def sendTimeout (s : State α) (i : Nat) (call : Call α) : Option (State α) :=
  if call.phase = .waiting ∧ s.closed = false then
    some { s.setPhase i call (.returned .dropped) with waiters := s.waiters.erase i }
  else none

def expired (now timestamp : Nat) : Bool :=
  policy.bufferExpireMs > 0 ∧ now - timestamp > policy.bufferExpireMs * 1000000

def flushBuffer (s : State α) (now : Nat) (toSend : List (Item α × Nat)) : State α :=
  match s.buffer with
  | [] => { s with buffer := toSend, observer := .idle }
  | (item, timestamp) :: rest =>
    if expired policy now timestamp then
      { s with buffer := rest, lost := s.lost ++ [item.number] }
    else if s.closed then
      { s with buffer := toSend ++ (item, timestamp) :: rest, observer := .idle }
    else if s.free = 0 then
      { s with buffer := rest, observer := .flushing now (toSend ++ [(item, timestamp)]) }
    else
      { s with
        buffer := rest
        queue := s.queue ++ [item]
        free := s.free - 1
        entered := s.entered ++ [item.number] }

/-- The phase is swapped, and a new connection is followed by a flush. -/
def settle (s : State α) (now : Nat) (phase : Phase) : State α :=
  { s with
    lastPhase := phase
    observer :=
      if s.lastPhase = phase then .idle
      else if phase = .connected ∧ policy.bufferEnabled = true then .flushing now []
      else .idle }

def freeSlot (s : State α) : State α :=
  match s.waiters with
  | [] => { s with free := s.free + 1 }
  | i :: waiters =>
    match s.calls[i]? with
    | some call => { s.setPhase i call .reserved with waiters := waiters }
    | none => { s with free := s.free + 1, waiters := waiters }

inductive Label (α : Type*) where
  | setState (state : AppActorState)
  | onState (phase : Phase)
  | settle (now : Nat)
  | flush
  | call (data : α)
  | send (i : Nat) (now : Nat)
  | timeout (i : Nat)
  | receive
  | close

def step (s : State α) : Label α → Option (State α)
  | .setState state => some { s with appState := state }
  | .onState phase =>
    match s.observer with
    | .idle => some { s with connState := phase, observer := .stored phase }
    | _ => none
  | .settle now =>
    match s.observer with
    | .stored phase => some (settle policy s now phase)
    | _ => none
  | .flush =>
    match s.observer with
    | .flushing now toSend => some (flushBuffer policy s now toSend)
    | _ => none
  | .call data => some { s with calls := s.calls ++ [⟨data, .entered⟩] }
  | .send i now =>
    match s.calls[i]? with
    | some call => sendData policy appId s i now call call.phase
    | none => none
  | .timeout i =>
    match s.calls[i]? with
    | some call => sendTimeout s i call
    | none => none
  | .receive =>
    match s.queue with
    | [] => none
    | _ :: queue => some (freeSlot { s with queue := queue })
  | .close => some { s with closed := true, waiters := [] }

end

def initial (policy : QueuePolicy) : State α where
  appState := .uninitialized
  connState := .disconnected
  lastPhase := .disconnected
  observer := .idle
  queue := []
  free := policy.capacity
  waiters := []
  closed := false
  buffer := []
  calls := []
  accepted := 0
  entered := []
  lost := []

end NgGateway.AppSendData
