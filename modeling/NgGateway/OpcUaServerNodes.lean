import Mathlib.Data.List.SplitOn
import NgGateway.SecondaryIndex

namespace NgGateway.OpcUaServerNodes

open FiniteMaps List SecondaryIndex

structure NodeId where
  namespaceIndex : UInt16
  identifier : String
  deriving DecidableEq

structure PointMeta where
  pointId : Int32
  channelName : String
  deviceName : String
  pointKey : String

def nodeIdPathSeparator : Char := '/'

def nodeIdPathSeparatorEscaped : Char := '／'

def controlCharReplacement : Char := '_'

/-- The C0 control characters and DEL. -/
def isControl (ch : Char) : Bool := ch.toNat < 0x20 || ch = '\u007F'

def escapeChar (ch : Char) : Char :=
  if ch = nodeIdPathSeparator then nodeIdPathSeparatorEscaped
  else if isControl ch then controlCharReplacement
  else ch

def escapeSegment (input : String) : String := .ofList (input.toList.map escapeChar)

def makeNodeIdIdentifier (channel device pointKey : String) : String :=
  ((escapeSegment channel).push nodeIdPathSeparator ++ escapeSegment device).push
    nodeIdPathSeparator ++ escapeSegment pointKey

def makeNodeId (namespaceIndex : UInt16) (point : PointMeta) : NodeId :=
  ⟨namespaceIndex, makeNodeIdIdentifier point.channelName point.deviceName point.pointKey⟩

def PointMeta.names (point : PointMeta) : List String :=
  [point.channelName, point.deviceName, point.pointKey]

open PointMeta (names)

theorem separator_notMem_escape (chars : List Char) :
    nodeIdPathSeparator ∉ chars.map escapeChar := by
  intro hmem
  obtain ⟨ch, -, hch⟩ := mem_map.mp hmem
  unfold escapeChar at hch
  split_ifs at hch with hsep hcontrol
  · exact absurd hch (by decide)
  · exact absurd hch (by decide)
  · exact hsep hch

theorem toList_identifier (point : PointMeta) :
    (makeNodeIdIdentifier point.channelName point.deviceName point.pointKey).toList =
      [nodeIdPathSeparator].intercalate
        (point.names.map fun name => name.toList.map escapeChar) := by
  simp [makeNodeIdIdentifier, escapeSegment, names, List.intercalate]

theorem makeNodeId_eq_iff :
    makeNodeId namespaceIndex point = makeNodeId namespaceIndex other ↔
      point.names.map (fun name => name.toList.map escapeChar) =
        other.names.map fun name => name.toList.map escapeChar := by
  have hsplit : ∀ names : List String, names ≠ [] →
      ([nodeIdPathSeparator].intercalate
        (names.map fun name => name.toList.map escapeChar)).splitOn nodeIdPathSeparator =
          names.map fun name => name.toList.map escapeChar := by
    intro names hnames
    refine splitOn_intercalate _ ?_ (by simpa using hnames)
    intro segment hsegment
    obtain ⟨name, -, rfl⟩ := mem_map.mp hsegment
    exact separator_notMem_escape name.toList
  rw [makeNodeId, makeNodeId, NodeId.mk.injEq, ← String.toList_inj, toList_identifier,
    toList_identifier, eq_self_iff_true, true_and]
  refine ⟨fun h => ?_, fun h => by rw [h]⟩
  rw [← hsplit point.names (by simp [names]), h, hsplit other.names (by simp [names])]

/-- The two characters that the escape of a segment does not tell apart. -/
def IsSolidus (ch : Char) : Prop := ch = nodeIdPathSeparator ∨ ch = nodeIdPathSeparatorEscaped

def SameButSolidus (name name' : String) : Prop :=
  List.Forall₂ (fun ch ch' => ch = ch' ∨ IsSolidus ch ∧ IsSolidus ch') name.toList name'.toList

def PointMeta.NoControl (point : PointMeta) : Prop :=
  ∀ name ∈ point.names, ∀ ch ∈ name.toList, isControl ch = false

theorem escapeChar_eq_iff (hch : isControl ch = false) (hch' : isControl ch' = false) :
    escapeChar ch = escapeChar ch' ↔ ch = ch' ∨ IsSolidus ch ∧ IsSolidus ch' := by
  have hescape : ∀ c, isControl c = false → escapeChar c =
      if c = nodeIdPathSeparator then nodeIdPathSeparatorEscaped else c := by
    intro c hc
    simp [escapeChar, hc]
  unfold IsSolidus
  grind

theorem escape_eq_iff (h : ∀ ch ∈ name.toList, isControl ch = false)
    (h' : ∀ ch ∈ name'.toList, isControl ch = false) :
    name.toList.map escapeChar = name'.toList.map escapeChar ↔ SameButSolidus name name' := by
  rw [SameButSolidus]
  generalize name.toList = chars at h ⊢
  generalize name'.toList = chars' at h' ⊢
  induction chars generalizing chars' with
  | nil =>
    cases chars' with
    | nil => exact iff_of_true rfl .nil
    | cons ch' chars' => exact iff_of_false (by simp) (by simp)
  | cons ch chars ih =>
    cases chars' with
    | nil => exact iff_of_false (by simp) (by simp)
    | cons ch' chars' =>
      obtain ⟨hch, hchars⟩ := forall_mem_cons.mp h
      obtain ⟨hch', hchars'⟩ := forall_mem_cons.mp h'
      rw [map_cons, map_cons, cons_eq_cons, List.forall₂_cons,
        escapeChar_eq_iff hch hch', ih hchars _ hchars']

/-- Points of different names share a node exactly if only the choice of the solidus differs. -/
theorem names_eq_of_makeNodeId_eq_iff {namespaceIndex : UInt16} {point other : PointMeta}
    (hpoint : point.NoControl) (hother : other.NoControl) :
    (makeNodeId namespaceIndex point = makeNodeId namespaceIndex other →
        point.names = other.names) ↔
      (List.Forall₂ SameButSolidus point.names other.names → point.names = other.names) := by
  refine imp_congr ?_ Iff.rfl
  obtain ⟨hchan, hdev, hkey, -⟩ : _ ∧ _ ∧ _ ∧ _ := by
    simpa only [PointMeta.NoControl, names, forall_mem_cons] using hpoint
  obtain ⟨hchan', hdev', hkey', -⟩ : _ ∧ _ ∧ _ ∧ _ := by
    simpa only [PointMeta.NoControl, names, forall_mem_cons] using hother
  rw [makeNodeId_eq_iff]
  simp [names, map_cons, map_nil, and_true, List.forall₂_cons, escape_eq_iff hchan hchan',
    escape_eq_iff hdev hdev', escape_eq_iff hkey hkey']

def keyOf (pointKey : String) : PointMeta := ⟨1, "line", "pump", pointKey⟩

theorem names_eq_of_makeNodeId_eq_of_other_key :
    (keyOf "a/b").NoControl ∧ (keyOf "a.b").NoControl ∧
      (makeNodeId 2 (keyOf "a/b") = makeNodeId 2 (keyOf "a.b") →
        (keyOf "a/b").names = (keyOf "a.b").names) := by
  have hslash : (keyOf "a/b").NoControl := by
    simp [PointMeta.NoControl, keyOf, names, isControl]
  have hdot : (keyOf "a.b").NoControl := by
    simp [PointMeta.NoControl, keyOf, names, isControl]
  refine ⟨hslash, hdot, (names_eq_of_makeNodeId_eq_iff hslash hdot).mpr ?_⟩
  simp [keyOf, names, SameButSolidus, IsSolidus, nodeIdPathSeparator, nodeIdPathSeparatorEscaped]

/-- A key that already has the full-width solidus. -/
theorem different_keys_share_node :
    (∀ name ∈ (keyOf "a/b").names ++ (keyOf "a／b").names,
        name ≠ "" ∧ name.toList.all fun ch => !isControl ch) ∧
      makeNodeId 2 (keyOf "a/b") = makeNodeId 2 (keyOf "a／b") ∧
      (keyOf "a/b").names ≠ (keyOf "a／b").names := by
  decide

structure NodeCache where
  byPoint : AssocMap Int32 NodeId
  byNode : AssocMap NodeId Int32

def NodeCache.new : NodeCache := ⟨.empty, .empty⟩

def NodeCache.getNodeId (cache : NodeCache) (pointId : Int32) : Option NodeId :=
  cache.byPoint.lookup pointId

def NodeCache.getPointId (cache : NodeCache) (nodeId : NodeId) : Option Int32 :=
  cache.byNode.lookup nodeId

def NodeCache.upsert (cache : NodeCache) (pointId : Int32) (nodeId : NodeId) : NodeCache :=
  let byNode := match cache.byPoint.lookup pointId with
    | some old => if old ≠ nodeId then cache.byNode.erase old else cache.byNode
    | none => cache.byNode
  ⟨cache.byPoint.insert pointId nodeId, byNode.insert nodeId pointId⟩

def NodeCache.removeByPoint (cache : NodeCache) (pointId : Int32) : Option NodeId × NodeCache :=
  match cache.byPoint.lookup pointId with
  | none => (none, cache)
  | some old => (some old, ⟨cache.byPoint.erase pointId, cache.byNode.erase old⟩)

def NodeCache.apply (cache : NodeCache) : Op Int32 NodeId → NodeCache
  | .put pointId nodeId => cache.upsert pointId nodeId
  | .remove pointId => (cache.removeByPoint pointId).2

def runOps (ops : List (Op Int32 NodeId)) : NodeCache := ops.foldl NodeCache.apply .new

def NodeCache.indexed (cache : NodeCache) : Indexed Int32 NodeId NodeId :=
  ⟨cache.byPoint, cache.byNode⟩

theorem insert_erase_same (m : AssocMap NodeId Int32) :
    (m.erase nodeId).insert nodeId pointId = m.insert nodeId pointId := by
  have hagain : (m.erase nodeId).erase nodeId = m.erase nodeId := by
    apply erase_of_lookup_eq_none
    rw [lookup_erase, if_pos rfl]
  simp [AssocMap.insert, hagain]

theorem indexed_apply (cache : NodeCache) :
    (cache.apply op).indexed = step id cache.indexed op := by
  cases op with
  | put pointId nodeId =>
    simp only [NodeCache.apply, NodeCache.upsert, NodeCache.indexed, step, dropPath, id_eq]
    cases cache.byPoint.lookup pointId with
    | none => rfl
    | some old =>
      dsimp only
      split_ifs with hne
      · rfl
      · rw [not_not.mp hne, insert_erase_same]
  | remove pointId =>
    simp only [NodeCache.apply, NodeCache.removeByPoint, NodeCache.indexed, step, dropPath, id_eq]
    cases hold : cache.byPoint.lookup pointId with
    | none => rw [erase_of_lookup_eq_none hold]
    | some old => rfl

theorem indexed_runOps (ops) : (runOps ops).indexed = after id ops := by
  induction ops using List.reverseRecOn with
  | nil => rfl
  | append_singleton ops op ih =>
    rw [after_append, ← ih, ← indexed_apply, runOps, foldl_append]
    rfl

def DistinctNodes (cache : NodeCache) : Prop :=
  ∀ p q nodeId, cache.getNodeId p = some nodeId → cache.getNodeId q = some nodeId → p = q

/-- Bound points are found by their nodes, and only bound points are found. -/
structure Inverse (cache : NodeCache) : Prop where
  found : ∀ p nodeId, cache.getNodeId p = some nodeId → cache.getPointId nodeId = some p
  bound : ∀ nodeId p, cache.getPointId nodeId = some p → cache.getNodeId p ≠ none

/-- The operation takes its point off the node that the point `p` is bound to as well. -/
def LeavesNodeOf (cache : NodeCache) (op : Op Int32 NodeId) (p : Int32) : Prop :=
  Takes id cache.indexed op p

/-- Whenever a point leaves a node that it shares, the other points of the node are touched by a
later operation. -/
theorem inverse_runOps_iff {ops : List (Op Int32 NodeId)} (hdistinct : DistinctNodes (runOps ops)) :
    Inverse (runOps ops) ↔
      ∀ pre op post p, ops = pre ++ op :: post → LeavesNodeOf (runOps pre) op p →
        p ∈ post.map Op.key := by
  have hlost : ∀ p, Lost id ops p ↔ ∃ pre op post, ops = pre ++ op :: post ∧
      LeavesNodeOf (runOps pre) op p ∧ p ∉ post.map Op.key := by
    intro p
    simp only [LeavesNodeOf, indexed_runOps]
    rfl
  have hstate := indexed_runOps ops
  have hpts : ∀ p, (runOps ops).getNodeId p = (after id ops).entries.lookup p := by
    intro p
    rw [← hstate]
    rfl
  have hnodes : ∀ nodeId, (runOps ops).getPointId nodeId = (after id ops).paths.lookup nodeId := by
    intro nodeId
    rw [← hstate]
    rfl
  constructor
  · rintro ⟨hfound, -⟩ pre op post p heq hleaves
    by_contra huntouched
    have hp := (hlost p).mpr ⟨pre, op, post, heq, hleaves, huntouched⟩
    obtain ⟨nodeId, hnode⟩ := stored_of_lost _ hp
    refine lookup_ne_of_lost _ hnode hp ?_
    rw [id_eq, ← hnodes]
    exact hfound p nodeId ((hpts p).trans hnode)
  · intro huntaken
    constructor
    · intro p nodeId hnode
      rw [hpts] at hnode
      rw [hnodes]
      refine (lookup_path_iff _ hnode ?_).mpr ?_
      · rintro q nodeId' hq rfl
        exact hdistinct q p nodeId' ((hpts q).trans hq) ((hpts p).trans hnode)
      · intro hp
        obtain ⟨pre, op, post, heq, hleaves, huntouched⟩ := (hlost p).mp hp
        exact huntouched (huntaken pre op post p heq hleaves)
    · intro nodeId p hfound
      rw [hnodes] at hfound
      obtain ⟨nodeId', hp, -⟩ := sound_after _ _ _ hfound
      rw [hpts, hp]
      exact Option.some_ne_none _

def nodeA : NodeId := ⟨2, "line/pump/a"⟩

def nodeB : NodeId := ⟨2, "line/pump/b"⟩

/-- Two points exchange their nodes, and the one that is lost is bound once more. -/
theorem inverse_of_exchange_repeated :
    let ops := [.put 1 nodeA, .put 2 nodeB, .put 1 nodeB, .put 2 nodeA, .put 1 nodeB]
    DistinctNodes (runOps ops) ∧ Inverse (runOps ops) := by
  intro ops
  have hdist : DistinctNodes (runOps ops) := by
    intro p q nodeId hp hq
    have hp : (p, nodeId) ∈ [(1, nodeB), (2, nodeA)] := lookup_eq_some_iff.mp hp
    have hq : (q, nodeId) ∈ [(1, nodeB), (2, nodeA)] := lookup_eq_some_iff.mp hq
    simp only [mem_cons, Prod.mk.injEq, not_mem_nil, or_false] at hp hq
    grind [nodeA, nodeB]
  refine ⟨hdist, (inverse_runOps_iff hdist).mpr ?_⟩
  intro pre op post p heq hleaves
  have hsettled : settled id .empty ops := by decide
  rw [heq] at hsettled
  rw [LeavesNodeOf, indexed_runOps] at hleaves
  exact mem_of_settled hsettled hleaves

/-- Two points exchange their nodes; the second update takes the first one's new node out of the
reverse map. -/
theorem exchanged_node_not_found :
    let cache := runOps [.put 1 nodeA, .put 2 nodeB, .put 1 nodeB, .put 2 nodeA]
    cache.byPoint.entries = [(2, nodeA), (1, nodeB)] ∧ nodeA ≠ nodeB ∧
      cache.getNodeId 1 = some nodeB ∧ cache.getPointId nodeB = none := by
  refine ⟨rfl, ?_, rfl, ?_⟩
  · decide
  · decide

end NgGateway.OpcUaServerNodes
