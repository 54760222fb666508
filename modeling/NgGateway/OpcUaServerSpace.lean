import NgGateway.Interleavings
import NgGateway.OpcUaServerNodes

/-!
The address spaces of the OPC UA server plugin. The node cache outlives them: every connect starts a
new server with only the root object.
-/

namespace NgGateway.OpcUaServerSpace

open FiniteMaps Interleavings OpcUaServerNodes

variable {V : Type*}

inductive Node (V : Type*) where
  | object
  | variable (value : Option V)
  deriving DecidableEq

abbrev AddressSpace (V : Type*) := AssocMap NodeId (Node V)

def rootId (namespaceIndex : UInt16) : NodeId := ⟨namespaceIndex, "NG-Gateway"⟩

def channelObj (namespaceIndex : UInt16) (point : PointMeta) : NodeId :=
  ⟨namespaceIndex, "ch." ++ point.channelName⟩

def deviceObj (namespaceIndex : UInt16) (point : PointMeta) : NodeId :=
  ⟨namespaceIndex, "ch." ++ point.channelName ++ ".dev." ++ point.deviceName⟩

def insertMissing (space : AddressSpace V) (nodeId : NodeId) (node : Node V) : AddressSpace V :=
  if space.contains nodeId then space else space.insert nodeId node

def ensureHierarchy (namespaceIndex : UInt16) (space : AddressSpace V) (point : PointMeta) :
    AddressSpace V :=
  let space := insertMissing space (rootId namespaceIndex) .object
  let space := insertMissing space (channelObj namespaceIndex point) .object
  insertMissing space (deviceObj namespaceIndex point) .object

def upsertPointNode (namespaceIndex : UInt16) (space : AddressSpace V) (point : PointMeta)
    (nodeId : NodeId) : AddressSpace V :=
  insertMissing (ensureHierarchy namespaceIndex space point) nodeId (.variable none)

/-- The error for a node that is missing or no variable is ignored. -/
def setValue (space : AddressSpace V) (nodeId : NodeId) (value : V) : AddressSpace V :=
  match space.lookup nodeId with
  | some (.variable _) => space.insert nodeId (.variable (some value))
  | _ => space

def removeNode (space : AddressSpace V) (nodeId : NodeId) : AddressSpace V := space.erase nodeId

/-- `applied` is the value last set by `apply_batch`, until a delta removes its point. -/
structure Plugin (V : Type*) where
  nodeCache : NodeCache
  space : AddressSpace V
  applied : Option (NodeId × V)

/-- Batches are applied value by value and deltas point by point, with what the runtime knows of the
point then. -/
inductive Event (V : Type*) where
  | connect
  | buildNode (pointId : Int32) (pointMeta : Option PointMeta)
  | pointChanged (pointId : Int32) (pointMeta : Option PointMeta)
  | pointRemoved (pointId : Int32)
  | applyValue (pointId : Int32) (value : V) (pointMeta : Option PointMeta)

def Plugin.connect (namespaceIndex : UInt16) (s : Plugin V) : Plugin V :=
  ⟨s.nodeCache, AssocMap.empty.insert (rootId namespaceIndex) .object, none⟩

def Plugin.makeNode (namespaceIndex : UInt16) (s : Plugin V) (point : PointMeta) : Plugin V :=
  let nodeId := makeNodeId namespaceIndex point
  { s with
    nodeCache := s.nodeCache.upsert point.pointId nodeId
    space := upsertPointNode namespaceIndex s.space point nodeId }

/-- The node of a point, which is made when the cache has none. -/
def Plugin.nodeOf (namespaceIndex : UInt16) (s : Plugin V) (pointId : Int32)
    (pointMeta : Option PointMeta) : Option NodeId × Plugin V :=
  match s.nodeCache.getNodeId pointId with
  | some nodeId => (some nodeId, s)
  | none =>
    match pointMeta with
    | none => (none, s)
    | some point => (some (makeNodeId namespaceIndex point), s.makeNode namespaceIndex point)

/-- `run_delta_listener` for an added or updated point: only points with a node get a new one. -/
def Plugin.pointChanged (namespaceIndex : UInt16) (s : Plugin V) (pointId : Int32)
    (pointMeta : Option PointMeta) : Plugin V :=
  match s.nodeCache.getNodeId pointId, pointMeta with
  | some _, some point => s.makeNode namespaceIndex point
  | _, _ => s

def Plugin.pointRemoved (s : Plugin V) (pointId : Int32) : Plugin V :=
  match s.nodeCache.removeByPoint pointId with
  | (none, _) => s
  | (some nodeId, nodeCache) =>
    ⟨nodeCache, removeNode s.space nodeId, s.applied.filter fun applied => applied.1 ≠ nodeId⟩

def step (namespaceIndex : UInt16) (s : Plugin V) : Event V → Plugin V
  | .connect => s.connect namespaceIndex
  | .buildNode pointId pointMeta => (s.nodeOf namespaceIndex pointId pointMeta).2
  | .pointChanged pointId pointMeta => s.pointChanged namespaceIndex pointId pointMeta
  | .pointRemoved pointId => s.pointRemoved pointId
  | .applyValue pointId value pointMeta =>
    match s.nodeOf namespaceIndex pointId pointMeta with
    | (none, s) => s
    | (some nodeId, s) =>
      { s with space := setValue s.space nodeId value, applied := some (nodeId, value) }

def Plugin.initial : Plugin V := ⟨.new, .empty, none⟩

def Stored (s : Plugin V) : Prop :=
  ∀ nodeId value, s.applied = some (nodeId, value) →
    s.space.lookup nodeId = some (.variable (some value))

def objectsOf (namespaceIndex : UInt16) (point : PointMeta) : List NodeId :=
  [rootId namespaceIndex, channelObj namespaceIndex point, deviceObj namespaceIndex point]

/-- A server starts while the cache has no nodes, no point has an object's node, and no removed
point shares its node. -/
def Fresh (namespaceIndex : UInt16) (s : Plugin V) : Event V → Prop
  | .connect => ∀ pointId, s.nodeCache.getNodeId pointId = none
  | .buildNode _ pointMeta | .pointChanged _ pointMeta | .applyValue _ _ pointMeta =>
    ∀ point, pointMeta = some point →
      s.space.lookup (makeNodeId namespaceIndex point) ≠ some .object ∧
        makeNodeId namespaceIndex point ∉ objectsOf namespaceIndex point
  | .pointRemoved pointId => ∀ other nodeId, s.nodeCache.getNodeId pointId = some nodeId →
      s.nodeCache.getNodeId other = some nodeId → other = pointId

def IsVariable (space : AddressSpace V) (nodeId : NodeId) : Prop :=
  ∃ value, space.lookup nodeId = some (.variable value)

structure Sound (s : Plugin V) : Prop where
  stored : Stored s
  cached : ∀ pointId nodeId, s.nodeCache.getNodeId pointId = some nodeId → IsVariable s.space nodeId

variable {namespaceIndex : UInt16} {s : Plugin V} {space : AddressSpace V} {nodeId k : NodeId}
  {old : Node V} {point : PointMeta} {pointId : Int32} {pointMeta : Option PointMeta}

theorem lookup_insertMissing (node : Node V) :
    (insertMissing space nodeId node).lookup k =
      if k = nodeId then some ((space.lookup k).getD node) else space.lookup k := by
  cases hold : space.lookup nodeId with
  | none | some old => grind [insertMissing, AssocMap.contains, lookup_insert]

theorem lookup_upsertPointNode (h : space.lookup k = some old) :
    (upsertPointNode namespaceIndex space point nodeId).lookup k = some old := by
  simp [upsertPointNode, ensureHierarchy, lookup_insertMissing, h]

theorem isVariable_upsertPointNode (h : space.lookup nodeId ≠ some .object)
    (hobjs : nodeId ∉ objectsOf namespaceIndex point) :
    IsVariable (upsertPointNode namespaceIndex space point nodeId) nodeId := by
  obtain ⟨hroot, hchan, hdev⟩ : _ ∧ _ ∧ _ := by simpa [objectsOf] using hobjs
  rw [IsVariable, upsertPointNode, ensureHierarchy, lookup_insertMissing, if_pos rfl,
    lookup_insertMissing, if_neg hdev, lookup_insertMissing, if_neg hchan,
    lookup_insertMissing, if_neg hroot]
  rcases hold : space.lookup nodeId with - | (- | value)
  · exact ⟨none, rfl⟩
  · exact absurd hold h
  · exact ⟨value, rfl⟩

theorem sound_makeNode (hs : Sound s)
    (hmade : IsVariable (upsertPointNode namespaceIndex s.space point
      (makeNodeId namespaceIndex point)) (makeNodeId namespaceIndex point)) :
    Sound (s.makeNode namespaceIndex point) := by
  constructor
  · intro nodeId value happlied
    exact lookup_upsertPointNode (hs.stored nodeId value happlied)
  · intro other nodeId hnode
    change (s.nodeCache.byPoint.insert _ _).lookup other = some nodeId at hnode
    rw [lookup_insert] at hnode
    split at hnode
    · exact Option.some.inj hnode ▸ hmade
    · obtain ⟨value, hval⟩ := hs.cached other nodeId hnode
      exact ⟨value, lookup_upsertPointNode hval⟩

theorem nodeOf_spec (hs : Sound s)
    (hfresh : Fresh namespaceIndex s (.buildNode pointId pointMeta)) :
    Sound (s.nodeOf namespaceIndex pointId pointMeta).2 ∧
      ∀ nodeId, (s.nodeOf namespaceIndex pointId pointMeta).1 = some nodeId →
        IsVariable (s.nodeOf namespaceIndex pointId pointMeta).2.space nodeId := by
  unfold Plugin.nodeOf
  cases hcache : s.nodeCache.getNodeId pointId with
  | some cached =>
    refine ⟨hs, ?_⟩
    rintro _ ⟨⟩
    exact hs.cached pointId cached hcache
  | none =>
    cases pointMeta with
    | none => exact ⟨hs, fun nodeId h => by cases h⟩
    | some point =>
      obtain ⟨hold, hobjs⟩ := hfresh point rfl
      have hmade := isVariable_upsertPointNode hold hobjs
      refine ⟨sound_makeNode hs hmade, ?_⟩
      rintro _ ⟨⟩
      exact hmade

theorem sound_pointChanged (hs : Sound s)
    (hfresh : Fresh namespaceIndex s (.pointChanged pointId pointMeta)) :
    Sound (s.pointChanged namespaceIndex pointId pointMeta) := by
  unfold Plugin.pointChanged
  split
  · obtain ⟨hold, hobjs⟩ := hfresh _ rfl
    exact sound_makeNode hs (isVariable_upsertPointNode hold hobjs)
  · exact hs

theorem sound_pointRemoved (hs : Sound s)
    (hfresh : Fresh namespaceIndex s (.pointRemoved pointId)) : Sound (s.pointRemoved pointId) := by
  unfold Plugin.pointRemoved NodeCache.removeByPoint
  cases hnode : s.nodeCache.byPoint.lookup pointId with
  | none => exact hs
  | some nodeId =>
    constructor
    · intro k value happlied
      obtain ⟨happlied, hne⟩ := Option.filter_eq_some_iff.mp happlied
      change (s.space.erase nodeId).lookup k = _
      rw [lookup_erase, if_neg (of_decide_eq_true hne)]
      exact hs.stored k value happlied
    · intro other k hother
      change (s.nodeCache.byPoint.erase pointId).lookup other = some k at hother
      rw [lookup_erase] at hother
      split_ifs at hother with hsame
      obtain ⟨value, hval⟩ := hs.cached other k hother
      refine ⟨value, ?_⟩
      change (s.space.erase nodeId).lookup k = _
      rw [lookup_erase, if_neg, hval]
      rintro rfl
      exact hsame (hfresh other k hnode hother)

theorem sound_setValue (hs : Sound s) (hnode : IsVariable s.space nodeId) (value : V) :
    Sound { s with space := setValue s.space nodeId value, applied := some (nodeId, value) } := by
  obtain ⟨old, hold⟩ := hnode
  have hget : ∀ k, (setValue s.space nodeId value).lookup k =
      if k = nodeId then some (.variable (some value)) else s.space.lookup k := by
    intro k
    rw [setValue, hold]
    exact lookup_insert _ _ _ _
  constructor
  · rintro _ _ ⟨⟩
    exact (hget nodeId).trans (if_pos rfl)
  · intro pointId k hk
    rw [IsVariable, hget]
    split
    · exact ⟨_, rfl⟩
    · exact hs.cached pointId k hk

theorem sound_step {event : Event V} (hs : Sound s) (hfresh : Fresh namespaceIndex s event) :
    Sound (step namespaceIndex s event) := by
  cases event with
  | connect =>
    constructor
    · rintro _ _ ⟨⟩
    · intro pointId nodeId h
      cases (hfresh pointId).symm.trans h
  | buildNode pointId pointMeta => exact (nodeOf_spec hs hfresh).1
  | pointChanged pointId pointMeta => exact sound_pointChanged hs hfresh
  | pointRemoved pointId => exact sound_pointRemoved hs hfresh
  | applyValue pointId value pointMeta =>
    obtain ⟨hsound, hvariable⟩ := nodeOf_spec hs (hfresh : Fresh _ _ (.buildNode pointId _))
    rw [step]
    generalize s.nodeOf namespaceIndex pointId pointMeta = made at hsound hvariable ⊢
    rcases made with ⟨- | nodeId, next⟩
    · exact hsound
    · exact sound_setValue hsound (hvariable nodeId rfl) value

/-- Every value that is applied is in a variable of the running server. -/
theorem always_stored {history : List (Event V)}
    (h : EveryStep (fun s event => some (step namespaceIndex s event)) (Fresh namespaceIndex)
      .initial history) :
    Always (fun s event => some (step namespaceIndex s event)) Stored .initial history := by
  refine always_of_everyStep (I := Sound) ?_ (fun _ hs => hs.stored) ?_ h
  · rintro s event _ hs hfresh ⟨⟩
    exact sound_step hs hfresh
  · constructor
    · rintro _ _ ⟨⟩
    · rintro _ _ ⟨⟩

def applyFive : Event Nat := .applyValue 1 5 (some (keyOf "a"))

/-- A value, the removal of its point, and the value of a point with the same node. -/
theorem stored_after_removal :
    Always (fun s event => some (step 2 s event)) Stored .initial
      [.connect, applyFive, .pointRemoved 1,
        .applyValue 2 6 (some { keyOf "a" with pointId := 2 })] := by
  refine always_stored ?_
  rintro _ ⟨⟩
  refine ⟨fun _ => rfl, ?_⟩
  rintro _ ⟨⟩
  constructor
  · rintro _ ⟨⟩
    exact ⟨by decide, by decide⟩
  rintro _ ⟨⟩
  constructor
  · intro other nodeId _ hother
    exact congrArg Prod.fst (List.mem_singleton.mp (lookup_eq_some_iff.mp hother))
  rintro _ ⟨⟩
  refine ⟨?_, trivial⟩
  rintro _ ⟨⟩
  exact ⟨by decide, by decide⟩

/-- The second server has no node for the point, but the cache has. -/
theorem second_server_misses_node :
    let s := [.connect, applyFive, .connect, applyFive].foldl (step 2) .initial
    s.applied = some (nodeA, 5) ∧ s.space.contains nodeA = false := by
  decide

end NgGateway.OpcUaServerSpace
