import NgGateway.OpcUaSubscriptions

namespace NgGateway.OpcUaSubscriptionPlacing

open FiniteMaps List OpcUaSnapshot OpcUaSubscriptions

def view (sub : SubscriptionState NodeId) : Nat × List (NodeId × Nat) := (sub.id, sub.items.entries)

def keys (sub : SubscriptionState NodeId) : List NodeId := sub.items.entries.map Prod.fst

def nodesOf (subs : List (SubscriptionState NodeId)) : List NodeId := subs.flatMap keys

structure Linked (server : Session NodeId) (subs : List (SubscriptionState NodeId)) : Prop where
  mirror : server.subscriptions = subs.map view
  ids : (subs.map SubscriptionState.id).Nodup
  items : ∀ sub ∈ subs, sub.items.values.Nodup

variable {sub : SubscriptionState NodeId} {subs subs' : List (SubscriptionState NodeId)}
  {capacity : SubscriptionCapacity}

theorem nodesOf_middle :
    nodesOf (front ++ sub :: back) = nodesOf front ++ (keys sub ++ nodesOf back) := by
  rw [nodesOf, flatMap_append, flatMap_cons]
  rfl

theorem map_view_middle (h : ((front ++ sub :: back).map SubscriptionState.id).Nodup)
    (f : Nat × List (NodeId × Nat) → Nat × List (NodeId × Nat)) :
    ((front ++ sub :: back).map view).map (fun v => if v.1 = sub.id then f v else v) =
      front.map view ++ f (view sub) :: back.map view := by
  rw [map_append, map_cons, nodup_middle, nodup_cons, mem_append, not_or] at h
  have hother : ∀ subs : List (SubscriptionState NodeId),
      sub.id ∉ subs.map SubscriptionState.id →
      (subs.map view).map (fun v => if v.1 = sub.id then f v else v) = subs.map view := by
    intro subs hsubs
    rw [map_map]
    apply map_congr_left
    intro other hmem
    apply if_neg
    intro hid
    exact hsubs (mem_map.mpr ⟨other, hmem, hid⟩)
  have hview : (view sub).1 = sub.id := rfl
  rw [map_append, map_cons, map_append, map_cons, hother front h.1.1,
    hother back h.1.2, if_pos hview]

theorem itemsOf_middle (h : Linked server (front ++ sub :: back)) :
    itemsOf server sub.id = sub.items.entries := by
  have hids := h.ids
  rw [map_append, map_cons, nodup_middle, nodup_cons, mem_append, not_or] at hids
  have hother : ∀ subs : List (SubscriptionState NodeId),
      sub.id ∉ subs.map SubscriptionState.id →
      (subs.map view).filter (fun v => decide (v.1 = sub.id)) = [] := by
    intro subs hsubs
    rw [filter_eq_nil_iff]
    intro v hv hid
    obtain ⟨other, hmem, rfl⟩ := mem_map.mp hv
    exact hsubs (mem_map.mpr ⟨other, hmem, of_decide_eq_true hid⟩)
  have hview : (view sub).1 = sub.id := rfl
  rw [itemsOf, h.mirror, map_append, map_cons, filter_append, filter_cons,
    hother front hids.1.1, hother back hids.1.2, if_pos (decide_eq_true hview)]
  exact append_nil _

/-- The server has the new subscriptions, and every node is where it was or placed from the pending
ones. -/
structure Placing (subs : List (SubscriptionState NodeId)) (pending : List NodeId)
    (server : Session NodeId) (subs' : List (SubscriptionState NodeId)) (rest : List NodeId) :
    Prop where
  linked : Linked server subs'
  perm : (nodesOf subs' ++ rest).Perm (nodesOf subs ++ pending)

theorem linked_createSubscription (alloc) (h : Linked server subs) :
    Linked (createSubscription alloc server).2
      (subs ++ [⟨(createSubscription alloc server).1, .empty⟩]) := by
  have hfresh := alloc.fresh server.requests (server.subscriptions.map Prod.fst)
  have hids : server.subscriptions.map Prod.fst = subs.map SubscriptionState.id := by
    rw [h.mirror, map_map]
    rfl
  constructor
  · rw [createSubscription, h.mirror, map_append]
    rfl
  · rw [map_append, map_singleton, nodup_append_comm, singleton_append,
      nodup_cons]
    refine ⟨?_, h.ids⟩
    rw [← hids]
    exact hfresh
  · intro sub hsub
    rw [mem_append, mem_singleton] at hsub
    rcases hsub with hsub | rfl
    · exact h.items sub hsub
    · exact nodup_nil

theorem nodesOf_snoc_empty (subs : List (SubscriptionState NodeId)) (sid) :
    nodesOf (subs ++ [⟨sid, .empty⟩]) = nodesOf subs := by
  rw [nodesOf, flatMap_append]
  exact append_nil _

theorem Placing.nodes (h : Placing subs pending server subs' rest)
    (hnodup : (nodesOf subs ++ pending).Nodup) : (nodesOf subs').Nodup :=
  (h.perm.nodup_iff.mpr hnodup).of_append_left

theorem Placing.length_le (h : Placing subs pending server subs' rest) :
    (nodesOf subs').length ≤ (nodesOf subs).length + pending.length := by
  have hlen := h.perm.length_eq
  rw [length_append, length_append] at hlen
  omega

theorem perSubscription_pos
    (h : capacity.maxMonitoredItemsPerSubscription = some limit) : 0 < limit := by
  have hnormal := capacity.normalized capacity.maxMonitoredItemsPerSubscription (by simp)
  rw [h] at hnormal
  by_contra hzero
  have hlimit : limit = 0 := by
    apply UInt32.toNat_inj.mp
    change ¬ 0 < limit.toNat at hzero
    change limit.toNat = 0
    omega
  rw [hlimit] at hnormal
  cases hnormal

theorem maxSubsPerSession_of_some (h : capacity.maxSubscriptionsPerSession = some limit) :
    maxSubsPerSession capacity = limit.toNat := by
  rw [maxSubsPerSession, h]
  rfl

theorem length_truncateTo_le (h : capacity.maxMonitoredItems = some limit)
    (nodes : List NodeId) : (truncateTo capacity.maxMonitoredItems nodes).length ≤ limit.toNat := by
  rw [h]
  exact length_take_le _ _

theorem itemCount_eq (subs : List (SubscriptionState NodeId)) :
    itemCount subs = (nodesOf subs).length := by
  rw [itemCount, nodesOf, length_flatMap]
  congr 1
  apply map_congr_left
  intro sub _
  rw [keys, length_map]

variable [DecidableEq NodeId] (alloc : Allocation) {server : Session NodeId}
  {items : AssocMap NodeId Nat}

theorem lookup_eq_none_of_notMem (h : n ∉ items.entries.map Prod.fst) : items.lookup n = none := by
  rw [Option.eq_none_iff_forall_ne_some]
  intro id hid
  exact h (mem_map_of_mem (lookup_eq_some_iff.mp hid))

theorem entries_insert_of_none (h : items.lookup n = none) (id) :
    (items.insert n id).entries = (n, id) :: items.entries := by
  change (n, id) :: (items.erase n).entries = _
  rw [erase_of_lookup_eq_none h]

def registerOne (alloc : Allocation) (sid : Nat) (state : Session NodeId × AssocMap NodeId Nat)
    (node : NodeId) : Session NodeId × AssocMap NodeId Nat :=
  ((createItem alloc sid state.1 node).2, state.2.insert node (createItem alloc sid state.1 node).1)

theorem foldl_registerOne (sid) (nodes : List NodeId) (server items) :
    nodes.foldl (registerOne alloc sid) (server, items) =
      ((createMonitoredItems alloc sid nodes server).2,
        insertResults items nodes (createMonitoredItems alloc sid nodes server).1) := by
  induction nodes generalizing server items with
  | nil => rfl
  | cons node nodes ih =>
    rw [foldl_cons, registerOne, ih]
    rfl

theorem registerChunks_eq (hchunk : 0 < chunk) (fuel)
    (h : nodes.length ≤ fuel) (state : Session NodeId × AssocMap NodeId Nat) :
    registerChunks alloc sid chunk fuel nodes state =
      nodes.foldl (registerOne alloc sid) state := by
  induction fuel generalizing nodes state with
  | zero =>
    obtain rfl := eq_nil_of_length_eq_zero (Nat.le_zero.mp h)
    rfl
  | succ fuel ih =>
    rcases nodes with - | ⟨node, nodes⟩
    · rfl
    · obtain ⟨server, items⟩ := state
      have hdrop : ((node :: nodes).drop chunk).length ≤ fuel := by
        rw [length_drop]
        omega
      rw [registerChunks]
      · dsimp only
        rw [ih hdrop, ← foldl_registerOne, ← foldl_append, take_append_drop]
      · exact cons_ne_nil node nodes

theorem registerNodesChunked_eq (sid) (nodes : List NodeId) (batchSize state) :
    registerNodesChunked alloc sid nodes batchSize state =
      nodes.foldl (registerOne alloc sid) state :=
  registerChunks_eq alloc (by omega) nodes.length (Nat.le_refl _) state

theorem linked_registerOne (h : Linked server (front ++ ⟨sid, items⟩ :: back))
    (hnew : items.lookup node = none) :
    Linked (registerOne alloc sid (server, items) node).1
      (front ++ ⟨sid, (registerOne alloc sid (server, items) node).2⟩ :: back) := by
  have hlive := itemsOf_middle h
  have hfresh := alloc.fresh server.requests (items.entries.map Prod.snd)
  have hid : (createItem alloc sid server node).1 =
      alloc.pick server.requests (items.entries.map Prod.snd) := by
    rw [← hlive]
    rfl
  constructor
  · rw [registerOne]
    rw [createItem]
    rw [h.mirror, map_view_middle h.ids fun v => (v.1, (node, _) :: v.2), map_append, map_cons]
    rw [view, view, entries_insert_of_none hnew]
  · have hids := h.ids
    rw [map_append, map_cons] at hids ⊢
    exact hids
  · intro sub hsub
    rw [mem_append, mem_cons] at hsub
    rcases hsub with hsub | rfl | hsub
    · exact h.items sub (mem_append_left _ hsub)
    · rw [registerOne, hid, AssocMap.values, entries_insert_of_none hnew, map_cons,
        nodup_cons]
      exact ⟨hfresh, h.items ⟨sid, items⟩ (mem_append_right _ mem_cons_self)⟩
    · exact h.items sub (mem_append_right _ (mem_cons_of_mem _ hsub))

theorem linked_foldl_registerOne (nodes : List NodeId)
    (h : Linked server (front ++ ⟨sid, items⟩ :: back)) (hnodup : nodes.Nodup)
    (hnew : ∀ n ∈ nodes, items.lookup n = none) :
    Linked (nodes.foldl (registerOne alloc sid) (server, items)).1
        (front ++ ⟨sid, (nodes.foldl (registerOne alloc sid) (server, items)).2⟩ :: back) ∧
      (nodes.foldl (registerOne alloc sid) (server, items)).2.entries.map Prod.fst =
        nodes.reverse ++ items.entries.map Prod.fst := by
  induction nodes generalizing server items with
  | nil => exact ⟨h, rfl⟩
  | cons node nodes ih =>
    rw [nodup_cons] at hnodup
    rw [forall_mem_cons] at hnew
    have hone := linked_registerOne alloc h hnew.1
    have hrest : ∀ n ∈ nodes,
        (registerOne alloc sid (server, items) node).2.lookup n = none := by
      intro n hn
      rw [registerOne, lookup_insert, if_neg, hnew.2 n hn]
      rintro rfl
      exact hnodup.1 hn
    obtain ⟨hlinked, hkeys⟩ := ih hone hnodup.2 hrest
    refine ⟨hlinked, ?_⟩
    rw [foldl_cons, hkeys, registerOne, entries_insert_of_none hnew.1, map_cons,
      reverse_cons, append_assoc]
    rfl

def Within (limit : Nat) (subs : List (SubscriptionState NodeId)) : Prop :=
  ∀ sub ∈ subs, sub.items.entries.length ≤ limit

variable (batchSize : Nat)

theorem placing_register (k) (h : Linked server (front ++ sub :: back))
    (hnodup : (nodesOf (front ++ sub :: back) ++ pending).Nodup) :
    Placing (front ++ sub :: back) pending
        (registerNodesChunked alloc sub.id (pending.take k) batchSize (server, sub.items)).1
        (front ++ ⟨sub.id, (registerNodesChunked alloc sub.id (pending.take k) batchSize
          (server, sub.items)).2⟩ :: back) (pending.drop k) ∧
      (registerNodesChunked alloc sub.id (pending.take k) batchSize
        (server, sub.items)).2.entries.length =
          (pending.take k).length + sub.items.entries.length := by
  rw [registerNodesChunked_eq]
  obtain ⟨-, hpend, hapart⟩ := nodup_append.mp hnodup
  have hnew : ∀ n ∈ pending.take k, sub.items.lookup n = none := by
    intro n hn
    apply lookup_eq_none_of_notMem
    intro hkey
    refine hapart n ?_ n (mem_of_mem_take hn) rfl
    rw [nodesOf_middle]
    exact mem_append_right _ (mem_append_left _ hkey)
  obtain ⟨hlinked, hkeys⟩ := linked_foldl_registerOne alloc (pending.take k) h
    (hpend.sublist (take_sublist k pending)) hnew
  refine ⟨⟨hlinked, ?_⟩, ?_⟩
  · rw [nodesOf_middle, nodesOf_middle, keys, keys, hkeys]
    rw [perm_iff_count]
    intro n
    have hsplit := congrArg (List.count n) (take_append_drop k pending)
    rw [count_append] at hsplit
    simp only [count_append, count_reverse]
    omega
  · have hlen := congrArg List.length hkeys
    rw [length_map, length_append, length_map, length_reverse] at hlen
    exact hlen

theorem fillSubscriptions_spec (limit front subs) (h : Linked server (front ++ subs))
    (hnodup : (nodesOf (front ++ subs) ++ pending).Nodup) :
    Placing (front ++ subs) pending
        (fillSubscriptions alloc batchSize limit subs pending server).2.2
        (front ++ (fillSubscriptions alloc batchSize limit subs pending server).1)
        (fillSubscriptions alloc batchSize limit subs pending server).2.1 ∧
      (fillSubscriptions alloc batchSize limit subs pending server).1.length = subs.length ∧
      (Within limit subs →
        Within limit (fillSubscriptions alloc batchSize limit subs pending server).1) := by
  induction subs generalizing front pending server with
  | nil => exact ⟨⟨h, .refl _⟩, rfl, id⟩
  | cons sub subs ih =>
    rw [fillSubscriptions]
    split_ifs with hpend hfull
    · exact ⟨⟨h, .refl _⟩, rfl, id⟩
    · rw [append_cons] at h hnodup
      obtain ⟨⟨hlinked, hperm⟩, hlen, hwithin⟩ := ih _ h hnodup
      rw [append_cons front sub subs, append_cons front sub (fillSubscriptions _ _ _ _ _ _).1]
      refine ⟨⟨hlinked, hperm⟩, congrArg Nat.succ hlen, ?_⟩
      intro hbefore
      rw [Within, forall_mem_cons] at hbefore ⊢
      exact ⟨hbefore.1, hwithin hbefore.2⟩
    · obtain ⟨hplaced, hcount⟩ := placing_register alloc batchSize
        (limit - sub.items.entries.length) h hnodup
      have hnodup' := hplaced.perm.nodup_iff.mpr hnodup
      have hlinked' := hplaced.linked
      rw [append_cons] at hnodup' hlinked'
      obtain ⟨⟨hlinked, hperm⟩, hlen, hwithin⟩ := ih _ hlinked' hnodup'
      rw [append_cons front _ (fillSubscriptions _ _ _ _ _ _).1]
      rw [← append_cons front _ subs] at hperm
      refine ⟨⟨hlinked, hperm.trans hplaced.perm⟩, congrArg Nat.succ hlen, ?_⟩
      intro hbefore
      rw [Within, forall_mem_cons] at hbefore ⊢
      refine ⟨?_, hwithin hbefore.2⟩
      rw [hcount, length_take]
      omega

theorem openSubscriptions_spec (perSubLimit maxSubs fuel) (h : Linked server subs)
    (hnodup : (nodesOf subs ++ pending).Nodup) :
    (∃ rest, Placing subs pending
        (openSubscriptions alloc batchSize perSubLimit maxSubs fuel pending (server, subs)).1
        (openSubscriptions alloc batchSize perSubLimit maxSubs fuel pending (server, subs)).2
        rest) ∧
      (openSubscriptions alloc batchSize perSubLimit maxSubs fuel pending
        (server, subs)).2.length ≤ max subs.length maxSubs ∧
      (Within perSubLimit subs → Within perSubLimit
        (openSubscriptions alloc batchSize perSubLimit maxSubs fuel pending (server, subs)).2) := by
  induction fuel generalizing subs pending server with
  | zero => exact ⟨⟨pending, h, .refl _⟩, Nat.le_max_left _ _, id⟩
  | succ fuel ih =>
    rw [openSubscriptions]
    dsimp only
    split_ifs with hmore hslice
    · exact ⟨⟨pending, h, .refl _⟩, Nat.le_max_left _ _, id⟩
    · have hcreated := linked_createSubscription alloc h
      have hnodup' := hnodup
      rw [← nodesOf_snoc_empty subs (createSubscription alloc server).1] at hnodup'
      obtain ⟨hplaced, hcount⟩ := placing_register alloc batchSize perSubLimit hcreated hnodup'
      obtain ⟨⟨rest, hlinked, hperm⟩, hlen, hwithin⟩ := ih hplaced.linked
        (hplaced.perm.nodup_iff.mpr hnodup')
      have hperm' := hperm.trans hplaced.perm
      rw [nodesOf_snoc_empty] at hperm'
      refine ⟨⟨rest, hlinked, hperm'⟩, ?_, ?_⟩
      · refine hlen.trans ?_
        rw [length_append, length_singleton]
        omega
      · intro hbefore
        apply hwithin
        intro sub hsub
        rw [mem_append, mem_singleton] at hsub
        rcases hsub with hsub | rfl
        · exact hbefore sub hsub
        · rw [hcount, length_take]
          exact Nat.min_le_left _ _
    · exact ⟨⟨pending, h, .refl _⟩, Nat.le_max_left _ _, id⟩

/-- The local maps are the server's, every node has one item, and the limits hold. -/
structure Consistent (capacity : SubscriptionCapacity) (server : Session NodeId)
    (subs : List (SubscriptionState NodeId)) : Prop where
  linked : Linked server subs
  nodes : (nodesOf subs).Nodup
  perSub : ∀ limit, capacity.maxMonitoredItemsPerSubscription = some limit → Within limit.toNat subs
  total : ∀ limit, capacity.maxMonitoredItems = some limit → (nodesOf subs).length ≤ limit.toNat
  count : ∀ limit, capacity.maxSubscriptionsPerSession = some limit → subs.length ≤ limit.toNat

theorem consistent_rebuild (h : Linked server [])
    (hnodes : (truncateTo capacity.maxMonitoredItems (enabledNodes snap)).Nodup) :
    Consistent capacity (rebuildSubscriptions alloc batchSize capacity snap server).1
      (rebuildSubscriptions alloc batchSize capacity snap server).2 := by
  rw [rebuildSubscriptions]
  generalize hall : truncateTo capacity.maxMonitoredItems (enabledNodes snap) = allNodes at hnodes
  obtain ⟨⟨rest, hplaced⟩, hcount, hwithin⟩ :=
    openSubscriptions_spec alloc batchSize (rebuildLimit capacity allNodes)
      (maxSubsPerSession capacity) allNodes.length h hnodes
  refine ⟨hplaced.linked, hplaced.nodes hnodes, ?_, ?_, ?_⟩
  · intro limit hsome
    have hlimit : rebuildLimit capacity allNodes = limit.toNat := by
      rw [rebuildLimit, hsome]
      exact if_pos (perSubscription_pos hsome)
    rw [hlimit] at hwithin ⊢
    exact hwithin (by simp [Within])
  · intro limit hsome
    have hle := length_truncateTo_le hsome (enabledNodes snap)
    rw [hall] at hle
    refine hplaced.length_le.trans ?_
    change 0 + allNodes.length ≤ limit.toNat
    omega
  · intro limit hsome
    refine hcount.trans ?_
    rw [maxSubsPerSession_of_some hsome]
    exact Nat.max_le.mpr ⟨Nat.zero_le _, Nat.le_refl _⟩

theorem consistent_placeNodes (h : Consistent capacity server subs)
    (hnodup : (nodesOf subs ++ pending).Nodup)
    (htotal : ∀ limit, capacity.maxMonitoredItems = some limit →
      (nodesOf subs).length + pending.length ≤ limit.toNat) :
    Consistent capacity (placeNodes alloc batchSize capacity pending server subs).1
      (placeNodes alloc batchSize capacity pending server subs).2 := by
  rw [placeNodes.eq_def]
  rcases hlimit : capacity.maxMonitoredItemsPerSubscription with - | perSubLimit
  · rcases subs with - | ⟨first, others⟩
    · exact h
    · have hreg := placing_register alloc batchSize pending.length
        (h.linked : Linked server ([] ++ first :: others))
        (hnodup : (nodesOf ([] ++ first :: others) ++ pending).Nodup)
      rw [take_length] at hreg
      obtain ⟨hplaced, -⟩ := hreg
      refine ⟨hplaced.linked, hplaced.nodes hnodup, ?_, ?_, h.count⟩
      · intro limit hsome
        rw [hlimit] at hsome
        cases hsome
      · intro limit hsome
        exact hplaced.length_le.trans (htotal limit hsome)
  · obtain ⟨hfilled, hlen, hwithin⟩ := fillSubscriptions_spec alloc
      batchSize perSubLimit.toNat [] subs h.linked hnodup
    rw [nil_append, nil_append] at hfilled
    have hnodup' := hfilled.perm.nodup_iff.mpr hnodup
    obtain ⟨⟨rest, hopened⟩, hcount, hopenedWithin⟩ :=
      openSubscriptions_spec alloc batchSize perSubLimit.toNat
        (maxSubsPerSession capacity)
        (fillSubscriptions alloc batchSize perSubLimit.toNat subs pending server).2.1.length
        hfilled.linked hnodup'
    have hplaced : Placing subs pending _ _ rest :=
      ⟨hopened.linked, hopened.perm.trans hfilled.perm⟩
    refine ⟨hplaced.linked, hplaced.nodes hnodup, ?_, ?_, ?_⟩
    · intro limit hsome
      rw [hlimit] at hsome
      cases hsome
      exact hopenedWithin (hwithin (h.perSub _ hlimit))
    · intro limit hsome
      exact hplaced.length_le.trans (htotal limit hsome)
    · intro limit hsome
      refine hcount.trans ?_
      rw [maxSubsPerSession_of_some hsome, hlen]
      exact Nat.max_le.mpr ⟨h.count limit hsome, Nat.le_refl _⟩

/-- The nodes a `CreateNodes` command registers: those without an item, as many as the limit allows.
-/
def nodesToRegister (capacity : SubscriptionCapacity) (subs : List (SubscriptionState NodeId))
    (nodes : List NodeId) : List NodeId :=
  let pending := nodes.filter fun node => !isMonitored subs node
  match capacity.maxMonitoredItems with
  | some limit => pending.take (limit.toNat - itemCount subs)
  | none => pending

theorem isMonitored_iff : isMonitored subs node = true ↔ node ∈ nodesOf subs := by
  rw [isMonitored, any_eq_true, nodesOf, mem_flatMap]
  refine exists_congr fun sub => and_congr_right fun _ => ?_
  rw [AssocMap.contains, Option.isSome_iff_exists, keys, mem_map]
  constructor
  · rintro ⟨id, hid⟩
    exact ⟨(node, id), lookup_eq_some_iff.mp hid, rfl⟩
  · rintro ⟨⟨n, id⟩, hentry, rfl⟩
    exact ⟨id, lookup_eq_some_iff.mpr hentry⟩

theorem nodup_append_pending {nodes taken : List NodeId} (hsubs : (nodesOf subs).Nodup)
    (htaken : taken.Nodup)
    (hsub : taken.Sublist (nodes.filter fun node => !isMonitored subs node)) :
    (nodesOf subs ++ taken).Nodup := by
  rw [nodup_append]
  refine ⟨hsubs, htaken, ?_⟩
  rintro n hn m hm rfl
  have hfree := (mem_filter.mp (hsub.subset hm)).2
  rw [isMonitored_iff.mpr hn] at hfree
  cases hfree

theorem consistent_addNodes (h : Consistent capacity server subs)
    (hnodes : (nodesToRegister capacity subs nodes).Nodup) :
    Consistent capacity (addNodesToSubscriptions alloc batchSize capacity nodes server subs).1
      (addNodesToSubscriptions alloc batchSize capacity nodes server subs).2 := by
  rw [addNodesToSubscriptions]
  rw [nodesToRegister] at hnodes
  split_ifs with hempty
  · exact h
  · rcases hlimit : capacity.maxMonitoredItems with - | limit
    · rw [hlimit] at hnodes
      refine consistent_placeNodes alloc batchSize h
        (nodup_append_pending h.nodes hnodes (List.Sublist.refl _)) ?_
      intro limit hsome
      rw [hlimit] at hsome
      cases hsome
    · rw [hlimit] at hnodes
      dsimp only at hnodes ⊢
      split_ifs with hfull
      · exact h
      · refine consistent_placeNodes alloc batchSize h
          (nodup_append_pending h.nodes hnodes (take_sublist _ _)) ?_
        intro limit' hsome
        rw [hlimit] at hsome
        cases hsome
        have htake := length_take_le (limit.toNat - itemCount subs)
          (nodes.filter fun node => !isMonitored subs node)
        rw [itemCount_eq] at htake hfull ⊢
        omega

end NgGateway.OpcUaSubscriptionPlacing
