import NgGateway.BoundedWrites
import NgGateway.FairSemaphore
import NgGateway.Interleavings

/-!
The tasks of writes and the gates of their channels. A task resolves its write, asks for the permit
of the channel, and holds it while `driver.write_point` runs.
-/

namespace NgGateway.WriteSerializers

open BoundedWrites DownlinkCodec FairSemaphore FiniteMaps JsonScalars ResolveWrite

inductive Phase where
  | received
  | resolved (write : ResolvedWrite)
  /-- It asked for the permit, and waits for it or has it. -/
  | queued (write : ResolvedWrite)
  | writing (write : ResolvedWrite) (call : DriverCall)
  | ended (write : Option ResolvedWrite)

def Phase.write? : Phase → Option ResolvedWrite
  | .received => none
  | .resolved write => some write
  | .queued write => some write
  | .writing write _ => some write
  | .ended write => write

structure Task where
  request : WriteRequest
  timeoutMs : Option UInt64
  phase : Phase

/-- Tasks are numbered as they were received. `started` lists those that called the driver. -/
structure State where
  runtime : WriteRuntime
  perChannel : AssocMap Int32 (Semaphore Nat)
  tasks : List Task
  started : List Nat

def State.semaphoreFor (s : State) (channelId : Int32) : Semaphore Nat :=
  (s.perChannel.lookup channelId).getD .new

def State.setPhase (s : State) (i : Nat) (task : Task) (phase : Phase) : State :=
  { s with tasks := s.tasks.set i { task with phase := phase } }

def State.setSemaphore (s : State) (channelId : Int32) (semaphore : Semaphore Nat) : State :=
  { s with perChannel := s.perChannel.insert channelId semaphore }

inductive Action where
  | resolve
  | acquire
  | expire
  | execute
  | finish
  | cancel
  deriving DecidableEq

inductive Label where
  | configure (runtime : WriteRuntime)
  | receive (request : WriteRequest) (timeoutMs : Option UInt64)
  | act (i : Nat) (action : Action)

section

variable (codec : CodecRuntime) (scalars : ScalarRuntime)

def resolveRequest (runtime : WriteRuntime) : WriteRequest → Option ResolvedWrite
  | .api deviceId pointKey value => do
      let point ← (findPoint runtime deviceId pointKey).toOption
      let entry ← (findEntry runtime point.id).toOption
      let ngValue ← tryFromJsonScalar scalars entry.pointMeta.logicalDataType value
      (resolveWrite codec runtime.manager point.id ngValue).toOption
  | .event pointId value => (resolveWrite codec runtime.manager pointId value).toOption

def driverCall (runtime : WriteRuntime) (write : ResolvedWrite) : Option DriverCall :=
  (executeWrite runtime (.ok ()) write).toOption

def cancel (s : State) (i : Nat) (task : Task) : WriteRequest → Phase → Option State
  | .api _ _ _, .received => some (s.setPhase i task (.ended none))
  | .api _ _ _, .queued write =>
    some ((s.setPhase i task (.ended (some write))).setSemaphore write.channelId
      (if (s.semaphoreFor write.channelId).holder = some i
        then (s.semaphoreFor write.channelId).release
        else (s.semaphoreFor write.channelId).abandon i))
  | .api _ _ _, .writing write _ =>
    some ((s.setPhase i task (.ended (some write))).setSemaphore write.channelId
      (s.semaphoreFor write.channelId).release)
  | _, _ => none

def act (s : State) (i : Nat) (task : Task) : Action → Phase → Option State
  | .resolve, .received =>
    match resolveRequest codec scalars s.runtime task.request with
    | some write => some (s.setPhase i task (.resolved write))
    | none => some (s.setPhase i task (.ended none))
  | .acquire, .resolved write =>
    some ((s.setPhase i task (.queued write)).setSemaphore write.channelId
      ((s.semaphoreFor write.channelId).acquire i))
  -- Only a wait without the permit can run into the timeout.
  | .expire, .queued write =>
    if task.timeoutMs.isSome ∧ i ∈ (s.semaphoreFor write.channelId).waiters then
      some ((s.setPhase i task (.ended (some write))).setSemaphore write.channelId
        ((s.semaphoreFor write.channelId).abandon i))
    else none
  | .execute, .queued write =>
    if (s.semaphoreFor write.channelId).holder = some i then
      match driverCall s.runtime write with
      | some call =>
        some { s.setPhase i task (.writing write call) with started := s.started ++ [i] }
      | none =>
        some ((s.setPhase i task (.ended (some write))).setSemaphore write.channelId
          (s.semaphoreFor write.channelId).release)
    else none
  | .finish, .writing write _ =>
    some ((s.setPhase i task (.ended (some write))).setSemaphore write.channelId
      (s.semaphoreFor write.channelId).release)
  | .cancel, phase => cancel s i task task.request phase
  | _, _ => none

def step (s : State) : Label → Option State
  | .configure runtime => some { s with runtime := runtime }
  | .receive request timeoutMs =>
    some { s with tasks := s.tasks ++ [⟨request, timeoutMs, .received⟩] }
  | .act i action =>
    match s.tasks[i]? with
    | some task => act codec scalars s i task action task.phase
    | none => none

end

def initial (runtime : WriteRuntime) : State := ⟨runtime, .empty, [], []⟩

def State.IsEvent (s : State) (pointId : Int32) (i : Nat) : Prop :=
  ∃ task value, s.tasks[i]? = some task ∧ task.request = .event pointId value

def State.phase? (s : State) (i : Nat) : Option Phase := s.tasks[i]?.map Task.phase

def State.write? (s : State) (i : Nat) : Option ResolvedWrite := (s.phase? i).bind Phase.write?

/-- Of two resolved events about one point, the driver is called in their order. -/
def Ordered (s : State) : Prop :=
  ∀ pointId i j, i < j → s.IsEvent pointId i → s.IsEvent pointId j → (s.write? i).isSome →
    (s.write? j).isSome → j ∈ s.started → [i, j].Sublist s.started

def Exclusive (s : State) : Prop :=
  ∀ i j write write' call call', i ≠ j → s.phase? i = some (.writing write call) →
    s.phase? j = some (.writing write' call') →
    call.device.channelId ≠ call'.device.channelId

structure Serialized (s : State) : Prop where
  ordered : Ordered s
  exclusive : Exclusive s

/-- The task ended without a call: its wait timed out, or its device was not found. -/
def State.Refused (s : State) (i : Nat) : Prop :=
  (∃ write, s.phase? i = some (.ended (some write))) ∧ i ∉ s.started

/-- Each earlier resolved event about the point asked the gate before and was not refused; if the
point changed its channel in between, its call started already. -/
def InOrder (s : State) (j : Nat) (write : ResolvedWrite) : Prop :=
  ∀ pointId i first, i < j → s.IsEvent pointId i → s.IsEvent pointId j →
    s.write? i = some first →
    if first.channelId = write.channelId then
      [i, j].Sublist (s.semaphoreFor write.channelId).asked ∧ ¬s.Refused i
    else i ∈ s.started

/-- The calls that run on the channel of the device hold the permit of the same gate. -/
def SameGate (s : State) (write : ResolvedWrite) (call : DriverCall) : Prop :=
  ∀ k other running, s.phase? k = some (.writing other running) →
    running.device.channelId = call.device.channelId → other.channelId = write.channelId

def Right (codec : CodecRuntime) (scalars : ScalarRuntime) (s : State) : Label → Prop
  | .act j .execute =>
    ∀ write call, s.phase? j = some (.queued write) → driverCall s.runtime write = some call →
      InOrder s j write ∧ SameGate s write call
  | .act i .resolve =>
    ∀ pointId task, s.tasks[i]? = some task → s.IsEvent pointId i →
      (resolveRequest codec scalars s.runtime task.request).isSome →
      ∀ j, i < j → s.IsEvent pointId j → j ∉ s.started
  | _ => True

end NgGateway.WriteSerializers
