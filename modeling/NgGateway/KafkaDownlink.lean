import NgGateway.CumulativeCommits
import NgGateway.FiniteMaps
import NgGateway.NorthwardDownlink

namespace NgGateway.KafkaDownlink

open CumulativeCommits FiniteMaps Interleavings NorthwardDownlink

inductive AckPolicy where
  | onSuccess
  | always
  | never

inductive FailurePolicy where
  | drop
  | error

structure Route extends DownlinkRoute where
  ackPolicy : AckPolicy
  failurePolicy : FailurePolicy

abbrev DownlinkRouteTable := AssocMap String (List Route)

structure KafkaRuntime extends Runtime where
  fromUtf8 : List UInt8 → Option String

/-- A `lost` commit is lost after the call. -/
inductive CommitFate where
  | stored
  | lost
  | refused (message : String)
  deriving DecidableEq

/-- A message, with what its handling meets. -/
structure Message where
  offset : Nat
  key : Option (List UInt8)
  headers : List (String × Option (List UInt8))
  payload : Option (List UInt8)
  eventsOpen : Bool
  commit : CommitFate

section

variable (rt : KafkaRuntime)

def headerPair (header : String × Option (List UInt8)) : Option KeyValue := do
  let value ← header.2
  let text ← rt.fromUtf8 value
  some ⟨header.1, text⟩

def messageMeta (msg : Message) : DownlinkMessageMeta :=
  let kvs := msg.headers.filterMap (headerPair rt)
  ⟨msg.key.bind rt.fromUtf8, if kvs.isEmpty then none else some kvs⟩

/-- What the loop over the routes leaves in `forwarded` and `last_error`. -/
structure Decoded where
  forwarded : Option NorthwardEvent
  lastError : Option DecodeError

def decodeRoutes (msg : Message) : List Route → Option DecodeError → Decoded
  | [], lastError => ⟨none, lastError⟩
  | route :: rest, lastError =>
    match decodeEvent rt.toRuntime route.toDownlinkRoute (messageMeta rt msg)
        (msg.payload.getD []) with
    | .ok (some ev) =>
      if msg.eventsOpen then ⟨some ev, lastError⟩
      else ⟨none, some (.payload "events channel closed")⟩
    | .ok none => decodeRoutes msg rest lastError
    | .error e => decodeRoutes msg rest (some e)

def Decoded.ok (decoded : Decoded) : Bool :=
  decoded.forwarded.isSome || decoded.lastError.isNone

def shouldCommit (ackPolicy : AckPolicy) (failurePolicy : FailurePolicy) (ok : Bool) : Bool :=
  match ackPolicy with
  | .never => false
  | .always => true
  | .onSuccess =>
    if ok then true
    else
      match failurePolicy with
      | .drop => true
      | .error => false

/-- The result of `handle_downlink_message`, the event it sent, its success, and whether a commit is
stored. -/
structure Handled where
  forwarded : Option NorthwardEvent
  ok : Bool
  commits : Bool
  result : Except String Unit

def handleDownlinkMessage (table : DownlinkRouteTable) (topic : String) (msg : Message) :
    Handled :=
  match table.lookup topic with
  | none => ⟨none, true, msg.commit = .stored, .ok ()⟩
  | some [] => ⟨none, true, msg.commit = .stored, .ok ()⟩
  | some (policy :: routes) =>
    let decoded := decodeRoutes rt msg (policy :: routes) none
    if shouldCommit policy.ackPolicy policy.failurePolicy decoded.ok then
      match msg.commit with
      | .stored => ⟨decoded.forwarded, decoded.ok, true, .ok ()⟩
      | .lost => ⟨decoded.forwarded, decoded.ok, false, .ok ()⟩
      | .refused e => ⟨decoded.forwarded, decoded.ok, false, .error ("commit failed: " ++ e)⟩
    else ⟨decoded.forwarded, decoded.ok, false, .ok ()⟩

def outcome (table : DownlinkRouteTable) (topic : String) (msg : Message) : Outcome :=
  let handled := handleDownlinkMessage rt table topic msg
  ⟨handled.ok, handled.commits, !handled.result.isOk⟩

/-- The consumer on one partition. A session begins at the committed offset, also after a stream
error. -/
def consume (table : DownlinkRouteTable) (topic : String) :
    Reader → Happening Message → Option Reader :=
  step Message.offset (outcome rt table topic)

end

variable {rt : KafkaRuntime} {table : DownlinkRouteTable}

theorem commits_iff (hroutes : table.lookup topic = some (policy :: routes))
    (hack : policy.ackPolicy = .onSuccess) (hfailure : policy.failurePolicy = .error) (msg) :
    (outcome rt table topic msg).commits = true ↔
      (outcome rt table topic msg).ok = true ∧ msg.commit = .stored := by
  unfold outcome handleDownlinkMessage
  simp only [hroutes, hack, hfailure, shouldCommit]
  cases (decodeRoutes rt msg (policy :: routes) none).ok with
  | false => simp
  | true =>
    cases msg.commit with
    | stored => simp
    | lost => simp
    | refused e => simp

/-- With `OnSuccess` and `Error` the committed offset never passes a failed message exactly if none
is committed while an earlier one's last handling failed. -/
theorem committed_notPassed_iff {topic : String} {policy : Route} {routes : List Route}
    (hroutes : table.lookup topic = some (policy :: routes))
    (hack : policy.ackPolicy = .onSuccess) (hfailure : policy.failurePolicy = .error)
    (committed : Option Nat) (happenings : List (Happening Message)) :
    Always (consume rt table topic) NotPassed ⟨none, committed, []⟩ happenings ↔
      EveryStep (consume rt table topic)
        (fun reader happening => ∀ msg, happening = .record msg →
          (outcome rt table topic msg).ok = true → msg.commit = .stored →
            ∀ failed ∈ reader.failed, msg.offset ≤ failed)
        ⟨none, committed, []⟩ happenings := by
  have hbehind : Behind ⟨none, committed, []⟩ := fun _ _ position hpos => by cases hpos
  have hnot : NotPassed ⟨none, committed, []⟩ := List.forall_mem_nil _
  unfold consume
  rw [always_notPassed_iff hbehind hnot]
  refine everyStep_congr (I := fun _ => True) (fun _ _ _ _ _ => trivial)
    (fun reader happening _ => forall_congr' fun msg => ?_) trivial
  rw [commits_iff hroutes hack hfailure]
  refine imp_congr_right fun _ => ?_
  constructor
  · intro h hok hstored
    exact (h ⟨hok, hstored⟩).2
  · rintro h ⟨hok, hstored⟩
    exact ⟨hok, h hok hstored⟩

def nullText : List UInt8 := [110, 117, 108, 108]

def otherKey : List UInt8 := [111, 116, 104, 101, 114]

def sampleRuntime : KafkaRuntime where
  compileExpr := fun _ => .error ""
  trim := id
  fromSlice := fun bytes => if bytes = nullText then .ok .null else .error "expected value"
  errorText := fun _ => ""
  parseDateTime := fun _ => .error ""
  pointer := fun _ _ => none
  floatText := fun _ => ""
  decodeData := fun _ _ => .ok ()
  fromUtf8 := fun bytes => if bytes = otherKey then some "other" else none

def sampleRoute : Route where
  kind := .writePoint
  payload := .mappedJson [] (.key "write")
  ackPolicy := .onSuccess
  failurePolicy := .error

def sampleTable : DownlinkRouteTable := AssocMap.empty.insert "downlink" [sampleRoute]

def ignoredMessage (offset : Nat) : Message :=
  ⟨offset, some otherKey, [], some nullText, true, .stored⟩

def brokenMessage (offset : Nat) : Message := ⟨offset, none, [], none, true, .stored⟩

theorem ignored_then_broken_not_passed :
    sampleTable.lookup "downlink" = some [sampleRoute] ∧
      Always (consume sampleRuntime sampleTable "downlink") NotPassed ⟨none, none, []⟩
        [.session 0, .record (ignoredMessage 0), .record (brokenMessage 1)] := by
  refine ⟨rfl, (committed_notPassed_iff rfl rfl rfl none _).mpr ?_⟩
  have hnone : ∀ n failed : Nat, failed ∈ ([] : List Nat) → n ≤ failed := fun _ _ hmem =>
    absurd hmem List.not_mem_nil
  rintro _ ⟨⟩
  refine ⟨fun msg _ _ _ => hnone msg.offset, ?_⟩
  rintro _ ⟨⟩
  refine ⟨fun msg _ _ _ => hnone msg.offset, ?_⟩
  rintro _ ⟨⟩
  exact ⟨fun msg _ _ _ => hnone msg.offset, trivial⟩

/-- The message after a broken one is committed, and with it the broken one. -/
theorem broken_passed_by_ignored :
    ¬Always (consume sampleRuntime sampleTable "downlink") NotPassed ⟨none, none, []⟩
      [.session 0, .record (brokenMessage 0), .record (ignoredMessage 1)] := by
  intro halways
  have hpassed := halways.last rfl 0 List.mem_cons_self 2 rfl
  exact absurd hpassed (by decide)

end NgGateway.KafkaDownlink
