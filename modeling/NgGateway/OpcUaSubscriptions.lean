import NgGateway.KeyedGroups
import NgGateway.OpcUaSnapshot

/-!
The subscription actor of the OPC UA driver and its server, which honours every request and gives
out identifiers that are not in use.
-/

namespace NgGateway.OpcUaSubscriptions

open FiniteMaps KeyedGroups OpcUaSnapshot

/-- How a server chooses an identifier, given the number of requests so far and those in use. -/
structure Allocation where
  pick : Nat → List Nat → Nat
  fresh : ∀ requests live, pick requests live ∉ live

/-- The subscriptions of a session on the server, with node and identifier of each monitored item.
-/
structure Session (NodeId : Type) where
  subscriptions : List (Nat × List (NodeId × Nat))
  requests : Nat
  deriving DecidableEq

structure SubscriptionState (NodeId : Type) where
  id : Nat
  items : AssocMap NodeId Nat

structure SubscriptionActor (NodeId : Type) where
  batchSize : Nat
  session : Option (Session NodeId)
  subscriptions : List (SubscriptionState NodeId)
  capacity : SubscriptionCapacity

def noLimits : SubscriptionCapacity :=
  ⟨none, none, none, by simp [SubscriptionCapacity.normalize]⟩

variable {NodeId : Type}

def SubscriptionActor.new (batchSize : Nat) : SubscriptionActor NodeId :=
  ⟨batchSize, none, [], noLimits⟩

section

def Session.new : Session NodeId := ⟨[], 0⟩

variable (alloc : Allocation)

def createSubscription (server : Session NodeId) : Nat × Session NodeId :=
  let sid := alloc.pick server.requests (server.subscriptions.map Prod.fst)
  (sid, ⟨server.subscriptions ++ [(sid, [])], server.requests + 1⟩)

def itemsOf (server : Session NodeId) (sid : Nat) : List (NodeId × Nat) :=
  (server.subscriptions.filter (·.1 = sid)).flatMap Prod.snd

def createItem (sid : Nat) (server : Session NodeId) (node : NodeId) : Nat × Session NodeId :=
  let id := alloc.pick server.requests ((itemsOf server sid).map Prod.snd)
  (id,
    { subscriptions := server.subscriptions.map fun sub =>
        if sub.1 = sid then (sub.1, (node, id) :: sub.2) else sub
      requests := server.requests + 1 })

def createMonitoredItems (sid : Nat) : List NodeId → Session NodeId → List Nat × Session NodeId
  | [], server => ([], server)
  | node :: nodes, server =>
    let (id, server) := createItem alloc sid server node
    let (ids, server) := createMonitoredItems sid nodes server
    (id :: ids, server)

def deleteMonitoredItems (server : Session NodeId) (sid : Nat) (ids : List Nat) : Session NodeId :=
  { server with
    subscriptions := server.subscriptions.map fun sub =>
      if sub.1 = sid then (sub.1, sub.2.filter (·.2 ∉ ids)) else sub }

def deleteSubscription (server : Session NodeId) (sid : Nat) : Session NodeId :=
  { server with subscriptions := server.subscriptions.filter (·.1 ≠ sid) }

end

variable [DecidableEq NodeId]

section

variable (alloc : Allocation)

def insertResults (items : AssocMap NodeId Nat) : List NodeId → List Nat → AssocMap NodeId Nat
  | node :: nodes, id :: ids => insertResults (items.insert node id) nodes ids
  | _, _ => items

def registerChunks (sid chunk : Nat) :
    Nat → List NodeId → Session NodeId × AssocMap NodeId Nat → Session NodeId × AssocMap NodeId Nat
  | 0, _, state => state
  | _, [], state => state
  | fuel + 1, nodes, (server, items) =>
    let (ids, server) := createMonitoredItems alloc sid (nodes.take chunk) server
    registerChunks sid chunk fuel (nodes.drop chunk)
      (server, insertResults items (nodes.take chunk) ids)

def registerNodesChunked (sid : Nat) (nodes : List NodeId) (batchSize : Nat)
    (state : Session NodeId × AssocMap NodeId Nat) : Session NodeId × AssocMap NodeId Nat :=
  registerChunks alloc sid (max batchSize 1) nodes.length nodes state

end

section

variable (alloc : Allocation) (batchSize : Nat)

def openSubscriptions (perSubLimit maxSubs : Nat) :
    Nat → List NodeId → Session NodeId × List (SubscriptionState NodeId) →
      Session NodeId × List (SubscriptionState NodeId)
  | 0, _, state => state
  | fuel + 1, pending, (server, subs) =>
    if pending ≠ [] ∧ subs.length < maxSubs then
      let slice := pending.take perSubLimit
      if slice = [] then (server, subs)
      else
        let (sid, server) := createSubscription alloc server
        let (server, items) := registerNodesChunked alloc sid slice batchSize (server, .empty)
        openSubscriptions perSubLimit maxSubs fuel (pending.drop perSubLimit)
          (server, subs ++ [⟨sid, items⟩])
    else (server, subs)

def fillSubscriptions (perSubLimit : Nat) :
    List (SubscriptionState NodeId) → List NodeId → Session NodeId →
      List (SubscriptionState NodeId) × List NodeId × Session NodeId
  | [], pending, server => ([], pending, server)
  | sub :: subs, pending, server =>
    if pending = [] then (sub :: subs, pending, server)
    else if perSubLimit ≤ sub.items.entries.length then
      let (subs, pending, server) := fillSubscriptions perSubLimit subs pending server
      (sub :: subs, pending, server)
    else
      let remaining := perSubLimit - sub.items.entries.length
      let (server, items) :=
        registerNodesChunked alloc sub.id (pending.take remaining) batchSize (server, sub.items)
      let (subs, pending, server) :=
        fillSubscriptions perSubLimit subs (pending.drop remaining) server
      (⟨sub.id, items⟩ :: subs, pending, server)

def maxSubsPerSession (capacity : SubscriptionCapacity) : Nat :=
  (capacity.maxSubscriptionsPerSession.getD 4294967295).toNat

def enabledNodes (snap : PointSnapshot NodeId) : List NodeId :=
  snap.deviceToNodes.entries.flatMap fun entry =>
    if (snap.devices.lookup entry.1).any (·.status = .enabled) then entry.2 else []

def truncateTo (limit : Option UInt32) (nodes : List NodeId) : List NodeId :=
  match limit with
  | some limit => nodes.take limit.toNat
  | none => nodes

/-- Without a limit all nodes go into one subscription. -/
def rebuildLimit (capacity : SubscriptionCapacity) (allNodes : List NodeId) : Nat :=
  match capacity.maxMonitoredItemsPerSubscription with
  | some limit => if 0 < limit then limit.toNat else max allNodes.length 1
  | none => max allNodes.length 1

def rebuildSubscriptions (capacity : SubscriptionCapacity) (snap : PointSnapshot NodeId)
    (server : Session NodeId) : Session NodeId × List (SubscriptionState NodeId) :=
  let allNodes := truncateTo capacity.maxMonitoredItems (enabledNodes snap)
  openSubscriptions alloc batchSize (rebuildLimit capacity allNodes) (maxSubsPerSession capacity)
    allNodes.length allNodes (server, [])

def placeNodes (capacity : SubscriptionCapacity) (pending : List NodeId) (server : Session NodeId)
    (subs : List (SubscriptionState NodeId)) :
    Session NodeId × List (SubscriptionState NodeId) :=
  match capacity.maxMonitoredItemsPerSubscription with
  | some limit =>
    let (subs, rest, server) := fillSubscriptions alloc batchSize limit.toNat subs pending server
    openSubscriptions alloc batchSize limit.toNat (maxSubsPerSession capacity) rest.length rest
      (server, subs)
  | none =>
    match subs with
    | first :: others =>
      let (server, items) :=
        registerNodesChunked alloc first.id pending batchSize (server, first.items)
      (server, ⟨first.id, items⟩ :: others)
    | [] => (server, [])

def isMonitored (subs : List (SubscriptionState NodeId)) (node : NodeId) : Bool :=
  subs.any fun sub => sub.items.contains node

def itemCount (subs : List (SubscriptionState NodeId)) : Nat :=
  (subs.map fun sub => sub.items.entries.length).sum

def addNodesToSubscriptions (capacity : SubscriptionCapacity) (nodes : List NodeId)
    (server : Session NodeId) (subs : List (SubscriptionState NodeId)) :
    Session NodeId × List (SubscriptionState NodeId) :=
  let pending := nodes.filter fun node => !isMonitored subs node
  if pending = [] then (server, subs)
  else
    match capacity.maxMonitoredItems with
    | some limit =>
      if limit.toNat ≤ itemCount subs then (server, subs)
      else
        placeNodes alloc batchSize capacity (pending.take (limit.toNat - itemCount subs)) server
          subs
    | none => placeNodes alloc batchSize capacity pending server subs

/-- The item of the node is taken from the first subscription that has one. -/
def removeNode (node : NodeId) :
    List (SubscriptionState NodeId) → List (Nat × List Nat) →
      List (SubscriptionState NodeId) × List (Nat × List Nat)
  | [], perSubIds => ([], perSubIds)
  | sub :: subs, perSubIds =>
    match sub.items.lookup node with
    | some id => (⟨sub.id, sub.items.erase node⟩ :: subs, pushEntry sub.id id perSubIds)
    | none =>
      let (subs, perSubIds) := removeNode node subs perSubIds
      (sub :: subs, perSubIds)

def removeNodes (nodes : List NodeId) (subs : List (SubscriptionState NodeId)) :
    List (SubscriptionState NodeId) × List (Nat × List Nat) :=
  nodes.foldl (fun state node => removeNode node state.1 state.2) (subs, [])

def dropEmpty (server : Session NodeId) (subs : List (SubscriptionState NodeId)) :
    Session NodeId × List (SubscriptionState NodeId) :=
  let emptySubIds := (subs.filter fun sub => sub.items.entries = []).map SubscriptionState.id
  (emptySubIds.foldl deleteSubscription server, subs.filter fun sub => sub.id ∉ emptySubIds)

variable (order : IterationOrder Nat (List Nat))

def deleteNodesFrom (nodes : List NodeId) (server : Session NodeId)
    (subs : List (SubscriptionState NodeId)) : Session NodeId × List (SubscriptionState NodeId) :=
  let (subs, perSubIds) := removeNodes nodes subs
  let server := (order.arrange perSubIds).foldl
    (fun server entry => deleteMonitoredItems server entry.1 entry.2) server
  dropEmpty server subs

end

def handleCommand (alloc : Allocation) (order : IterationOrder Nat (List Nat))
    (a : SubscriptionActor NodeId) (snap : PointSnapshot NodeId) :
    SubscriptionCommand NodeId → SubscriptionActor NodeId
  | .newSession capacity =>
    let (server, subs) := rebuildSubscriptions alloc a.batchSize capacity snap .new
    { a with session := some server, subscriptions := subs, capacity := capacity }
  | .createNodes nodes =>
    match a.session with
    | none => a
    | some server =>
      let (server, subs) :=
        if a.subscriptions = [] then
          rebuildSubscriptions alloc a.batchSize a.capacity snap server
        else
          addNodesToSubscriptions alloc a.batchSize a.capacity nodes server a.subscriptions
      { a with session := some server, subscriptions := subs }
  | .deleteNodes nodes =>
    match a.session with
    | none => a
    | some server =>
      if a.subscriptions = [] then a
      else
        let (server, subs) := deleteNodesFrom order nodes server a.subscriptions
        { a with session := some server, subscriptions := subs }

end NgGateway.OpcUaSubscriptions
