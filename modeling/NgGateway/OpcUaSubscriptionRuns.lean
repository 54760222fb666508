import Mathlib.Data.List.MinMax
import Mathlib.Order.Nat
import NgGateway.OpcUaSubscriptionPlacing

namespace NgGateway.OpcUaSubscriptionRuns

open FiniteMaps KeyedGroups List OpcUaSnapshot OpcUaSubscriptionPlacing OpcUaSubscriptions

variable {subs subs' subs'' : List (SubscriptionState NodeId)}

def Doomed (perSubIds : List (Nat × List Nat)) (sid id : Nat) : Prop :=
  ∃ entry ∈ perSubIds, entry.1 = sid ∧ id ∈ entry.2

instance (perSubIds : List (Nat × List Nat)) (sid id : Nat) : Decidable (Doomed perSubIds sid id) :=
  inferInstanceAs (Decidable (∃ entry ∈ perSubIds, entry.1 = sid ∧ id ∈ entry.2))

def kept (perSubIds : List (Nat × List Nat)) (v : Nat × List (NodeId × Nat)) :
    Nat × List (NodeId × Nat) :=
  (v.1, v.2.filter fun item => ¬ Doomed perSubIds v.1 item.2)

theorem doomed_cons {sid id : Nat} :
    Doomed (entry :: perSubIds) sid id ↔
      (entry.1 = sid ∧ id ∈ entry.2) ∨ Doomed perSubIds sid id := by
  rw [Doomed, exists_mem_cons_iff]
  rfl

theorem doomed_pushEntry {sid id k v : Nat} :
    Doomed (pushEntry k v perSubIds) sid id ↔ Doomed perSubIds sid id ∨ (sid = k ∧ id = v) := by
  induction perSubIds with
  | nil =>
    rw [pushEntry, doomed_cons, mem_singleton, or_comm, eq_comm]
  | cons entry perSubIds ih =>
    obtain ⟨k', vs⟩ := entry
    rw [pushEntry]
    split_ifs with hk
    · rw [doomed_cons, doomed_cons, mem_append, mem_singleton, hk]
      constructor
      · rintro (⟨hsid, hid | hid⟩ | hrest)
        · exact .inl (.inl ⟨hsid, hid⟩)
        · exact .inr ⟨hsid.symm, hid⟩
        · exact .inl (.inr hrest)
      · rintro ((⟨hsid, hid⟩ | hrest) | ⟨hsid, hid⟩)
        · exact .inl ⟨hsid, .inl hid⟩
        · exact .inr hrest
        · exact .inl ⟨hsid.symm, .inr hid⟩
    · rw [doomed_cons, doomed_cons, ih, or_assoc]

theorem subscriptions_foldl_delete (server : Session NodeId) :
    (perSubIds.foldl (fun server entry => deleteMonitoredItems server entry.1 entry.2)
        server).subscriptions =
      server.subscriptions.map (kept perSubIds) := by
  induction perSubIds generalizing server with
  | nil =>
    have hkept : (kept [] : Nat × List (NodeId × Nat) → _) = id := by
      funext v
      simp [kept, Doomed]
    rw [hkept, map_id]
    rfl
  | cons entry perSubIds ih =>
    rw [foldl_cons, ih, deleteMonitoredItems, map_map]
    apply map_congr_left
    rintro ⟨sid, items⟩ -
    dsimp only [Function.comp_apply]
    split_ifs with hsid
    · rw [kept, kept, filter_filter]
      congr 1
      apply filter_congr
      intro item _
      simp [doomed_cons, hsid, true_and, not_or, Bool.decide_and, Bool.and_comm]
    · rw [kept, kept]
      congr 1
      apply filter_congr
      intro item _
      have hne : ¬ entry.1 = sid := fun h => hsid h.symm
      simp [doomed_cons, hne, false_and, false_or]

theorem kept_arrange (order : IterationOrder Nat (List Nat)) :
    kept (order.arrange perSubIds) = (kept perSubIds : Nat × List (NodeId × Nat) → _) := by
  funext v
  have hdoomed : ∀ id, Doomed (order.arrange perSubIds) v.1 id ↔ Doomed perSubIds v.1 id := by
    intro id
    simp [Doomed, (order.perm perSubIds).mem_iff]
  simp [kept, hdoomed]

structure Shrunk (subs subs' : List (SubscriptionState NodeId)) : Prop where
  ids : subs'.map SubscriptionState.id = subs.map SubscriptionState.id
  nodes : (nodesOf subs').Sublist (nodesOf subs)
  items : (∀ sub ∈ subs, sub.items.values.Nodup) → ∀ sub ∈ subs', sub.items.values.Nodup
  within : ∀ limit, Within limit subs → Within limit subs'

theorem Shrunk.refl (subs : List (SubscriptionState NodeId)) : Shrunk subs subs :=
  ⟨rfl, .refl _, id, fun _ => id⟩

theorem Shrunk.trans (h : Shrunk subs subs') (h' : Shrunk subs' subs'') : Shrunk subs subs'' where
  ids := h'.ids.trans h.ids
  nodes := h'.nodes.trans h.nodes
  items := fun hitems => h'.items (h.items hitems)
  within := fun limit hwithin => h'.within limit (h.within limit hwithin)

theorem kept_pushEntry (sid id) (v : Nat × List (NodeId × Nat)) :
    kept (pushEntry sid id perSubIds) v =
      if (kept perSubIds v).1 = sid then
        ((kept perSubIds v).1, (kept perSubIds v).2.filter (·.2 ≠ id))
      else kept perSubIds v := by
  rw [kept, kept]
  dsimp only
  split_ifs with hsid
  · rw [filter_filter]
    congr 1
    apply filter_congr
    intro item _
    simp [doomed_pushEntry, hsid, true_and, not_or, Bool.decide_and, Bool.and_comm]
  · congr 1
    apply filter_congr
    intro item _
    simp [doomed_pushEntry, hsid, false_and, or_false]

theorem subscriptions_foldl_deleteSubscription (sids : List Nat) (server : Session NodeId) :
    (sids.foldl deleteSubscription server).subscriptions =
      server.subscriptions.filter (·.1 ∉ sids) := by
  induction sids generalizing server with
  | nil => simp
  | cons sid sids ih =>
    rw [foldl_cons, ih, deleteSubscription, filter_filter]
    apply filter_congr
    intro v _
    simp [mem_cons, not_or, Bool.decide_and, ne_eq, Bool.and_comm]

theorem linked_filter (h : Linked server subs) (sids : List Nat) :
    Linked (sids.foldl deleteSubscription server) (subs.filter fun sub => sub.id ∉ sids) := by
  constructor
  · rw [subscriptions_foldl_deleteSubscription, h.mirror, filter_map]
    rfl
  · exact h.ids.sublist (filter_sublist.map _)
  · intro sub hsub
    exact h.items sub (mem_of_mem_filter hsub)

theorem nodesOf_sublist (h : subs'.Sublist subs) : (nodesOf subs').Sublist (nodesOf subs) := by
  induction h with
  | slnil => exact .refl _
  | cons sub _ ih => exact ih.trans (sublist_append_right _ _)
  | cons_cons sub _ ih => exact (List.Sublist.refl _).append ih

theorem consistent_filter (h : Consistent capacity server subs) (sids : List Nat) :
    Consistent capacity (sids.foldl deleteSubscription server)
      (subs.filter fun sub => sub.id ∉ sids) := by
  have hnodes : (nodesOf (subs.filter fun sub => sub.id ∉ sids)).Sublist (nodesOf subs) :=
    nodesOf_sublist filter_sublist
  refine ⟨linked_filter h.linked sids, h.nodes.sublist hnodes, ?_, ?_, ?_⟩
  · intro limit hsome sub hsub
    exact h.perSub limit hsome sub (mem_of_mem_filter hsub)
  · intro limit hsome
    exact hnodes.length_le.trans (h.total limit hsome)
  · intro limit hsome
    exact (length_filter_le _ _).trans (h.count limit hsome)

def ActorOk (a : SubscriptionActor NodeId) : Prop :=
  match a.session with
  | none => a.subscriptions = []
  | some server => Consistent a.capacity server a.subscriptions

theorem actorOk_of_session (h : ActorOk a) (hsess : a.session = some server) :
    Consistent a.capacity server a.subscriptions := by
  rw [ActorOk, hsess] at h
  exact h

theorem linked_new : Linked (Session.new : Session NodeId) [] :=
  ⟨rfl, nodup_nil, by simp⟩

def serverNodes (server : Session NodeId) : List NodeId :=
  server.subscriptions.flatMap fun sub => sub.2.map Prod.fst

theorem serverNodes_eq (h : Linked server subs) : serverNodes server = nodesOf subs := by
  rw [serverNodes, h.mirror, flatMap_map]
  rfl

variable [DecidableEq NodeId] (alloc : Allocation)

theorem removeNode_cases (node : NodeId) (subs perSubIds) :
    (node ∉ nodesOf subs ∧ removeNode node subs perSubIds = (subs, perSubIds)) ∨
      ∃ front sub back id, subs = front ++ sub :: back ∧ sub.items.lookup node = some id ∧
        removeNode node subs perSubIds =
          (front ++ ⟨sub.id, sub.items.erase node⟩ :: back, pushEntry sub.id id perSubIds) := by
  induction subs with
  | nil => exact .inl ⟨not_mem_nil, rfl⟩
  | cons sub subs ih =>
    rw [removeNode]
    rcases hget : sub.items.lookup node with - | id
    · rcases ih with ⟨hnot, hremove⟩ | ⟨front, found, back, id, rfl, hfound, hremove⟩
      · refine .inl ⟨?_, by rw [hremove]⟩
        rw [nodesOf, flatMap_cons, mem_append, not_or]
        refine ⟨?_, hnot⟩
        intro hkey
        obtain ⟨⟨n, id⟩, hentry, rfl⟩ := mem_map.mp hkey
        rw [lookup_eq_some_iff.mpr hentry] at hget
        cases hget
      · refine .inr ⟨sub :: front, found, back, id, rfl, hfound, ?_⟩
        rw [hremove]
        rfl
    · exact .inr ⟨[], sub, subs, id, rfl, hget, rfl⟩

theorem shrunk_erase (front back : List (SubscriptionState NodeId)) (sub node) :
    Shrunk (front ++ sub :: back) (front ++ ⟨sub.id, sub.items.erase node⟩ :: back) := by
  have hents : (sub.items.erase node).entries.Sublist sub.items.entries := filter_sublist
  constructor
  · rw [map_append, map_append, map_cons, map_cons]
  · rw [nodesOf_middle, nodesOf_middle]
    exact (List.Sublist.refl _).append ((hents.map Prod.fst).append (.refl _))
  · intro hitems other hother
    rw [mem_append, mem_cons] at hother
    rcases hother with hother | rfl | hother
    · exact hitems other (mem_append_left _ hother)
    · exact (hitems sub (mem_append_right _ mem_cons_self)).sublist
        (hents.map Prod.snd)
    · exact hitems other (mem_append_right _ (mem_cons_of_mem _ hother))
  · intro limit hwithin other hother
    rw [mem_append, mem_cons] at hother
    rcases hother with hother | rfl | hother
    · exact hwithin other (mem_append_left _ hother)
    · exact hents.length_le.trans
        (hwithin sub (mem_append_right _ mem_cons_self))
    · exact hwithin other (mem_append_right _ (mem_cons_of_mem _ hother))

theorem entries_erase_eq {items : AssocMap NodeId Nat} (hitems : items.values.Nodup) {id : Nat}
    (hget : items.lookup node = some id) :
    (items.erase node).entries = items.entries.filter (·.2 ≠ id) := by
  have hentry := lookup_eq_some_iff.mp hget
  apply filter_congr
  intro entry hmem
  apply decide_eq_decide.mpr
  constructor
  · intro hne hid
    exact hne (congrArg Prod.fst (inj_on_of_nodup_map hitems hmem hentry hid))
  · intro hne hnode
    exact hne (congrArg Prod.snd (inj_on_of_nodup_map items.nodup hmem hentry hnode))

structure Removing (server : Session NodeId) (subs : List (SubscriptionState NodeId))
    (perSubIds : List (Nat × List Nat)) : Prop where
  mirror : server.subscriptions.map (kept perSubIds) = subs.map view
  ids : (subs.map SubscriptionState.id).Nodup
  items : ∀ sub ∈ subs, sub.items.values.Nodup
  nodes : (nodesOf subs).Nodup

theorem removing_removeNode (h : Removing server subs perSubIds) (node) :
    Removing server (removeNode node subs perSubIds).1 (removeNode node subs perSubIds).2 ∧
      Shrunk subs (removeNode node subs perSubIds).1 ∧
      node ∉ nodesOf (removeNode node subs perSubIds).1 := by
  rcases removeNode_cases node subs perSubIds with
    ⟨hnot, hremove⟩ | ⟨front, sub, back, id, rfl, hget, hremove⟩
  · rw [hremove]
    exact ⟨h, Shrunk.refl subs, hnot⟩
  · rw [hremove]
    have hshrunk := shrunk_erase front back sub node
    have hsubItems := h.items sub (mem_append_right _ mem_cons_self)
    refine ⟨⟨?_, ?_, hshrunk.items h.items, h.nodes.sublist hshrunk.nodes⟩, hshrunk, ?_⟩
    · have hmap := map_view_middle h.ids fun v => (v.1, v.2.filter (·.2 ≠ id))
      rw [← h.mirror, map_map] at hmap
      rw [map_append, map_cons, view, entries_erase_eq hsubItems hget]
      refine Eq.trans ?_ hmap
      apply map_congr_left
      intro v _
      exact kept_pushEntry sub.id id v
    · rw [hshrunk.ids]
      exact h.ids
    · -- the other subscriptions do not have the node, because it had one item
      have hnodes := h.nodes
      have hkey : node ∈ keys sub := mem_map_of_mem (lookup_eq_some_iff.mp hget)
      have hperm : (nodesOf front ++ (keys sub ++ nodesOf back)).Perm
          (keys sub ++ (nodesOf front ++ nodesOf back)) := by
        rw [← append_assoc, ← append_assoc]
        exact perm_append_comm.append_right _
      rw [nodesOf_middle, hperm.nodup_iff] at hnodes
      have hapart := (nodup_append.mp hnodes).2.2 node hkey
      rw [nodesOf_middle, mem_append, mem_append]
      rintro (hmem | hmem | hmem)
      · exact hapart node (mem_append_left _ hmem) rfl
      · obtain ⟨entry, hentry, hnode⟩ := mem_map.mp hmem
        exact of_decide_eq_true (mem_filter.mp hentry).2 hnode
      · exact hapart node (mem_append_right _ hmem) rfl

theorem removing_foldl (nodes : List NodeId) (state) (h : Removing server state.1 state.2) :
    Removing server
        (nodes.foldl (fun state node => removeNode node state.1 state.2) state).1
        (nodes.foldl (fun state node => removeNode node state.1 state.2) state).2 ∧
      Shrunk state.1 (nodes.foldl (fun state node => removeNode node state.1 state.2) state).1 ∧
      ∀ n ∈ nodes,
        n ∉ nodesOf (nodes.foldl (fun state node => removeNode node state.1 state.2) state).1 := by
  induction nodes generalizing state with
  | nil => exact ⟨h, Shrunk.refl _, by simp⟩
  | cons node nodes ih =>
    obtain ⟨hone, hshrunk, hgone⟩ := removing_removeNode h node
    obtain ⟨hrest, hshrunkRest, hgoneRest⟩ := ih _ hone
    refine ⟨hrest, hshrunk.trans hshrunkRest, ?_⟩
    rw [forall_mem_cons]
    refine ⟨?_, hgoneRest⟩
    intro hmem
    exact hgone (hshrunkRest.nodes.subset hmem)

theorem consistent_deleteNodesFrom (order nodes) (h : Consistent capacity server subs) :
    Consistent capacity (deleteNodesFrom order nodes server subs).1
        (deleteNodesFrom order nodes server subs).2 ∧
      ∀ n ∈ nodes, n ∉ nodesOf (deleteNodesFrom order nodes server subs).2 := by
  have hstart : Removing server subs [] := by
    refine ⟨?_, h.linked.ids, h.linked.items, h.nodes⟩
    rw [← subscriptions_foldl_delete]
    exact h.linked.mirror
  obtain ⟨hremoving, hshrunk, hgone⟩ := removing_foldl nodes (subs, []) hstart
  rw [deleteNodesFrom]
  rcases hremoved : removeNodes nodes subs with ⟨left, perSubIds⟩
  rw [removeNodes] at hremoved
  rw [hremoved] at hremoving hshrunk hgone
  dsimp only at hremoving hshrunk hgone ⊢
  have hcons : Consistent capacity ((order.arrange perSubIds).foldl
      (fun server entry => deleteMonitoredItems server entry.1 entry.2) server) left := by
    refine ⟨⟨?_, hremoving.ids, hremoving.items⟩, hremoving.nodes, ?_, ?_, ?_⟩
    · rw [subscriptions_foldl_delete, kept_arrange]
      exact hremoving.mirror
    · intro limit hsome
      exact hshrunk.within _ (h.perSub limit hsome)
    · intro limit hsome
      exact hshrunk.nodes.length_le.trans (h.total limit hsome)
    · intro limit hsome
      have hlen := congrArg List.length hshrunk.ids
      rw [length_map, length_map] at hlen
      rw [hlen]
      exact h.count limit hsome
  refine ⟨consistent_filter hcons _, ?_⟩
  intro n hn hmem
  exact hgone n hn ((nodesOf_sublist filter_sublist).subset hmem)

def Distinct (a : SubscriptionActor NodeId) (snap : PointSnapshot NodeId) :
    SubscriptionCommand NodeId → Prop
  | .newSession capacity => (truncateTo capacity.maxMonitoredItems (enabledNodes snap)).Nodup
  | .createNodes nodes =>
    if a.subscriptions = [] then
      (truncateTo a.capacity.maxMonitoredItems (enabledNodes snap)).Nodup
    else (nodesToRegister a.capacity a.subscriptions nodes).Nodup
  | .deleteNodes _ => True

instance (a : SubscriptionActor NodeId) (snap : PointSnapshot NodeId)
    (cmd : SubscriptionCommand NodeId) : Decidable (Distinct a snap cmd) :=
  match cmd with
  | .newSession _ => inferInstanceAs (Decidable (List.Nodup _))
  | .createNodes nodes =>
    inferInstanceAs (Decidable (if a.subscriptions = [] then
      (truncateTo a.capacity.maxMonitoredItems (enabledNodes snap)).Nodup
    else (nodesToRegister a.capacity a.subscriptions nodes).Nodup))
  | .deleteNodes _ => inferInstanceAs (Decidable True)

variable (order : IterationOrder Nat (List Nat))

inductive DistinctStep : SubscriptionActor NodeId → SubscriptionActor NodeId → Prop
  | command (a : SubscriptionActor NodeId) (snap : PointSnapshot NodeId)
      (cmd : SubscriptionCommand NodeId) (h : Distinct a snap cmd) :
      DistinctStep a (handleCommand alloc order a snap cmd)

variable {a a' : SubscriptionActor NodeId}

theorem actorOk_deleteNodes (h : ActorOk a) (snap nodes) :
    ActorOk (handleCommand alloc order a snap (.deleteNodes nodes)) ∧
      ∀ n ∈ nodes,
        n ∉ nodesOf (handleCommand alloc order a snap (.deleteNodes nodes)).subscriptions := by
  rw [handleCommand]
  rcases hsess : a.session with - | server
  · rw [ActorOk, hsess] at h
    refine ⟨?_, ?_⟩
    · rw [ActorOk, hsess]
      exact h
    · rw [h]
      exact fun _ _ => not_mem_nil
  · split_ifs with hempty
    · refine ⟨h, ?_⟩
      rw [hempty]
      exact fun _ _ => not_mem_nil
    · exact consistent_deleteNodesFrom order nodes (actorOk_of_session h hsess)

theorem actorOk_step (h : ActorOk a) (snap) (hdist : Distinct a snap cmd) :
    ActorOk (handleCommand alloc order a snap cmd) := by
  cases cmd with
  | newSession capacity => exact consistent_rebuild alloc a.batchSize linked_new hdist
  | createNodes nodes =>
    rw [handleCommand]
    rcases hsess : a.session with - | server
    · exact h
    · have hcons := actorOk_of_session h hsess
      rw [Distinct] at hdist
      split_ifs at hdist ⊢ with hempty
      · rw [hempty] at hcons
        exact consistent_rebuild alloc a.batchSize hcons.linked hdist
      · exact consistent_addNodes alloc a.batchSize hcons hdist
  | deleteNodes nodes => exact (actorOk_deleteNodes alloc order h snap nodes).1

theorem actorOk_run
    (hrun : Relation.ReflTransGen (DistinctStep alloc order) (.new batchSize) a) : ActorOk a := by
  induction hrun with
  | refl => rfl
  | tail _ hstep ih =>
    cases hstep with
    | command snap cmd h => exact actorOk_step alloc order ih snap h

/-- If no command registers a node twice, every node has at most one item, the local maps are the
server's, the limits are kept, and `DeleteNodes` leaves no item of its nodes. -/
theorem subscriptions_consistent (alloc : Allocation) (order : IterationOrder Nat (List Nat))
    (batchSize : Nat) (a : SubscriptionActor NodeId)
    (hrun : Relation.ReflTransGen (DistinctStep alloc order) (.new batchSize) a)
    (server : Session NodeId) (hsession : a.session = some server) :
    (serverNodes server).Nodup ∧
      server.subscriptions = a.subscriptions.map (fun sub => (sub.id, sub.items.entries)) ∧
      (∀ limit, a.capacity.maxMonitoredItemsPerSubscription = some limit →
        ∀ sub ∈ server.subscriptions, sub.2.length ≤ limit.toNat) ∧
      (∀ limit, a.capacity.maxMonitoredItems = some limit →
        (serverNodes server).length ≤ limit.toNat) ∧
      (∀ limit, a.capacity.maxSubscriptionsPerSession = some limit →
        server.subscriptions.length ≤ limit.toNat) ∧
      ∀ snap nodes after,
        (handleCommand alloc order a snap (.deleteNodes nodes)).session = some after →
          ∀ n ∈ nodes, n ∉ serverNodes after := by
  have hok := actorOk_run alloc order hrun
  have h := actorOk_of_session hok hsession
  have hnodes := serverNodes_eq h.linked
  refine ⟨?_, h.linked.mirror, ?_, ?_, ?_, ?_⟩
  · rw [hnodes]
    exact h.nodes
  · intro limit hsome sub hsub
    rw [h.linked.mirror] at hsub
    obtain ⟨state, hstate, rfl⟩ := mem_map.mp hsub
    exact h.perSub limit hsome state hstate
  · intro limit hsome
    rw [hnodes]
    exact h.total limit hsome
  · intro limit hsome
    rw [h.linked.mirror, length_map]
    exact h.count limit hsome
  · intro snap nodes after hafter n hn
    obtain ⟨hdeleted, hgone⟩ := actorOk_deleteNodes alloc order hok snap nodes
    rw [serverNodes_eq (actorOk_of_session hdeleted hafter).linked]
    exact hgone n hn

def ascending : Allocation where
  pick := fun _ live => live.foldr max 0 + 1
  fresh := fun _ _ hmem => Nat.not_succ_le_self _ (le_max_of_le hmem le_rfl)

def oneNode : PointSnapshot Nat where
  nodeToMeta := .empty
  pointIdToNode := .empty
  deviceToNodes := AssocMap.empty.insert 1 [1]
  devices := AssocMap.empty.insert 1 ⟨"plant", .enabled⟩

def connectedActor : SubscriptionActor Nat :=
  handleCommand ascending insertionOrder (.new 10) oneNode (.newSession noLimits)

def createdActor (nodes : List Nat) : SubscriptionActor Nat :=
  handleCommand ascending insertionOrder connectedActor oneNode (.createNodes nodes)

theorem subscriptions_of_two_nodes :
    (createdActor [2, 3, 1]).session = some ⟨[(1, [(3, 3), (2, 2), (1, 1)])], 4⟩ ∧
      (serverNodes (⟨[(1, [(3, 3), (2, 2), (1, 1)])], 4⟩ : Session Nat)).Nodup := by
  have hrun : Relation.ReflTransGen (DistinctStep ascending insertionOrder) (.new 10)
      (createdActor [2, 3, 1]) := by
    apply (Relation.ReflTransGen.single
      (DistinctStep.command _ oneNode (.newSession noLimits) (by decide))).tail
    exact DistinctStep.command _ oneNode (.createNodes [2, 3, 1]) (by decide)
  have hsess : (createdActor [2, 3, 1]).session =
      some ⟨[(1, [(3, 3), (2, 2), (1, 1)])], 4⟩ := by decide
  exact ⟨hsess, (subscriptions_consistent ascending insertionOrder 10 _ hrun _ hsess).1⟩

/-- A node listed twice gets two items, of which the actor knows one, and deleting it leaves the
other. -/
theorem repeated_node_has_two_items :
    (createdActor [2, 2]).session = some ⟨[(1, [(2, 3), (2, 2), (1, 1)])], 4⟩ ∧
      (createdActor [2, 2]).subscriptions.map (fun sub => (sub.id, sub.items.entries)) =
        [(1, [(2, 3), (1, 1)])] ∧
      (handleCommand ascending insertionOrder (createdActor [2, 2]) oneNode
        (.deleteNodes [2])).session = some ⟨[(1, [(2, 2), (1, 1)])], 4⟩ := by
  decide

end NgGateway.OpcUaSubscriptionRuns
