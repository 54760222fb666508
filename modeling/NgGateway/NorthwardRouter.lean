import Mathlib.Data.List.Sort
import NgGateway.BinarySearch
import NgGateway.FiniteMaps
import NgGateway.KeyedGroups

/-!
The router from devices to the apps that subscribe to them. `resolve` merges the apps that list a
device with those that take all devices, both by priority.
-/

namespace NgGateway.NorthwardRouter

open BinarySearch FiniteMaps KeyedGroups List

abbrev AppPriority := Int32 × Int16

def cmpAppPriority (a b : AppPriority) : Ordering :=
  (compare b.2 a.2).then (compare a.1 b.1)

def Precedes (a b : AppPriority) : Prop := cmpAppPriority a b ≠ .gt

instance : DecidableRel Precedes := fun a b =>
  inferInstanceAs (Decidable (cmpAppPriority a b ≠ .gt))

def sortByPriority (entries : List AppPriority) : List AppPriority :=
  if entries.length ≤ 1 then entries else entries.insertionSort Precedes

def insertSorted (entries : List AppPriority) (value : AppPriority) : List AppPriority :=
  match binarySearchBy (fun probe => cmpAppPriority probe value) entries with
  | .ok pos => insertAt entries pos value
  | .error pos => insertAt entries pos value

structure AppSubModel where
  allDevices : Bool
  deviceIds : Option (List Int32)
  priority : Int16

structure SubscriptionInfo where
  appId : Int32
  allDevices : Bool
  deviceIds : List Int32
  priority : Int16

structure SubscriptionRouter where
  deviceSubscriptions : AssocMap Int32 (List AppPriority)
  allDevicesApps : AssocMap Int32 Int16
  allDevicesSorted : List AppPriority
  appSubscriptions : AssocMap Int32 SubscriptionInfo

namespace SubscriptionRouter

def new : SubscriptionRouter := ⟨.empty, .empty, [], .empty⟩

/-- `order` is the order in which the map is iterated. -/
def refreshAllDevicesSorted (order : IterationOrder Int32 Int16) (router : SubscriptionRouter) :
    SubscriptionRouter :=
  { router with
    allDevicesSorted := sortByPriority (order.arrange router.allDevicesApps.entries) }

def upsertDeviceSubscription (appId : Int32) (priority : Int16) (router : SubscriptionRouter)
    (deviceId : Int32) : SubscriptionRouter :=
  match router.deviceSubscriptions.lookup deviceId with
  | none =>
    { router with
      deviceSubscriptions := router.deviceSubscriptions.insert deviceId [(appId, priority)] }
  | some entries =>
    { router with
      deviceSubscriptions :=
        router.deviceSubscriptions.insert deviceId (insertSorted entries (appId, priority)) }

def removeDeviceSubscription (appId : Int32) (router : SubscriptionRouter) (deviceId : Int32) :
    SubscriptionRouter :=
  match router.deviceSubscriptions.lookup deviceId with
  | none => router
  | some entries =>
    let kept := entries.filter fun entry => entry.1 ≠ appId
    if kept.isEmpty then
      { router with deviceSubscriptions := router.deviceSubscriptions.erase deviceId }
    else { router with deviceSubscriptions := router.deviceSubscriptions.insert deviceId kept }

def remove (order : IterationOrder Int32 Int16) (router : SubscriptionRouter) (appId : Int32) :
    SubscriptionRouter :=
  match router.appSubscriptions.lookup appId with
  | none => router
  | some info =>
    let router := { router with appSubscriptions := router.appSubscriptions.erase appId }
    if info.allDevices then
      refreshAllDevicesSorted order
        { router with allDevicesApps := router.allDevicesApps.erase appId }
    else info.deviceIds.foldl (removeDeviceSubscription appId) router

def subscribe (order : IterationOrder Int32 Int16) (router : SubscriptionRouter) (appId : Int32)
    (sub : AppSubModel) : SubscriptionRouter :=
  if sub.allDevices then
    let router := refreshAllDevicesSorted order
      { router with allDevicesApps := router.allDevicesApps.insert appId sub.priority }
    { router with
      appSubscriptions := router.appSubscriptions.insert appId ⟨appId, true, [], sub.priority⟩ }
  else
    match sub.deviceIds with
    | none => router
    | some ids =>
      let router := ids.foldl (upsertDeviceSubscription appId sub.priority) router
      { router with
        appSubscriptions :=
          router.appSubscriptions.insert appId ⟨appId, false, ids, sub.priority⟩ }

def update (order : IterationOrder Int32 Int16) (router : SubscriptionRouter) (appId : Int32)
    (sub : AppSubModel) : SubscriptionRouter :=
  subscribe order (router.remove order appId) appId sub

def clear (_ : SubscriptionRouter) : SubscriptionRouter := new

end SubscriptionRouter

/-- `MergedApps::next` on what is left of the two lists. -/
def next : List AppPriority → List AppPriority →
    Option (Int32 × List AppPriority × List AppPriority)
  | [], [] => none
  | [], a :: all => some (a.1, [], all)
  | d :: device, [] => some (d.1, device, [])
  | d :: device, a :: all =>
    if d.1 = a.1 then some (d.1, device, all)
    else if a.2 < d.2 ∨ d.2 = a.2 ∧ d.1 < a.1 then some (d.1, device, a :: all)
    else some (a.1, d :: device, all)

def collect : (fuel : Nat) → List AppPriority → List AppPriority → List Int32
  | 0, _, _ => []
  | fuel + 1, device, all =>
    match next device all with
    | none => []
    | some (app, device, all) => app :: collect fuel device all

def SubscriptionRouter.device (router : SubscriptionRouter) (deviceId : Int32) :
    List AppPriority :=
  (router.deviceSubscriptions.lookup deviceId).getD []

/-- Each call of `next` takes an entry, so there are at most as many as there are entries. -/
def SubscriptionRouter.resolve (router : SubscriptionRouter) (deviceId : Int32) : List Int32 :=
  collect ((router.device deviceId).length + router.allDevicesSorted.length)
    (router.device deviceId) router.allDevicesSorted

theorem precedes_iff :
    Precedes a b ↔ b.2.toInt < a.2.toInt ∨ b.2.toInt = a.2.toInt ∧ a.1.toInt ≤ b.1.toInt := by
  unfold Precedes cmpAppPriority
  rw [ne_eq, Ordering.then_eq_gt, Std.compare_eq_gt, Std.compare_eq_gt, Std.compare_eq_iff_eq,
    Int16.lt_iff_toInt_lt, Int32.lt_iff_toInt_lt, ← Int16.toInt_inj]
  omega

theorem precedes_trans (hab : Precedes a b) (hbc : Precedes b c) : Precedes a c := by
  rw [precedes_iff] at hab hbc ⊢
  omega

theorem precedes_total (a b) : Precedes a b ∨ Precedes b a := by
  rw [precedes_iff, precedes_iff]
  omega

theorem cmpAppPriority_eq_lt_iff : cmpAppPriority a b = .lt ↔ ¬Precedes b a := by
  rw [precedes_iff]
  unfold cmpAppPriority
  rw [Ordering.then_eq_lt, Std.compare_eq_lt, Std.compare_eq_lt, Std.compare_eq_iff_eq,
    Int16.lt_iff_toInt_lt, Int32.lt_iff_toInt_lt, ← Int16.toInt_inj]
  omega

instance : IsTrans AppPriority Precedes := ⟨fun _ _ _ => precedes_trans⟩

instance : Std.Total Precedes := ⟨precedes_total⟩

theorem perm_sortByPriority (entries) : (sortByPriority entries).Perm entries := by
  unfold sortByPriority
  split_ifs
  · exact .refl entries
  · exact perm_insertionSort Precedes entries

theorem pairwise_sortByPriority (entries) : (sortByPriority entries).Pairwise Precedes := by
  unfold sortByPriority
  split_ifs with hshort
  · rw [pairwise_iff_getElem]
    intro i j _ _ _
    omega
  · exact pairwise_insertionSort Precedes entries

theorem perm_insertSorted (entries value) :
    (insertSorted entries value).Perm (value :: entries) := by
  unfold insertSorted
  split
  · exact perm_insertAt entries _ value
  · exact perm_insertAt entries _ value

theorem orderedFor_of_pairwise (h : entries.Pairwise Precedes) (value) :
    OrderedFor (fun probe => cmpAppPriority probe value) entries := by
  refine h.imp fun {x y} hxy => ⟨fun hx => ?_, fun hy => ?_⟩
  · by_contra hy
    exact precedes_trans hxy hy hx
  · rw [cmpAppPriority_eq_lt_iff] at hy ⊢
    exact fun hx => hy (precedes_trans hx hxy)

theorem pairwise_insertSorted (h : entries.Pairwise Precedes)
    (value) : (insertSorted entries value).Pairwise Precedes := by
  have hinsert : ∀ pos, Separates (fun probe => cmpAppPriority probe value) entries pos →
      (insertAt entries pos value).Pairwise Precedes := by
    rintro pos ⟨hbefore, hafter⟩
    refine pairwise_insertAt h hbefore fun x hx => ?_
    by_contra hnot
    exact hafter x hx (cmpAppPriority_eq_lt_iff.mpr hnot)
  unfold insertSorted
  split
  · rename_i pos hfound
    exact hinsert pos (separates_binarySearchBy (orderedFor_of_pairwise h value) (.inl hfound))
  · rename_i pos hfound
    exact hinsert pos (separates_binarySearchBy (orderedFor_of_pairwise h value) (.inr hfound))

theorem precedes_of_before (h : a.2 < d.2 ∨ d.2 = a.2 ∧ d.1 < a.1) : Precedes d a := by
  rw [Int16.lt_iff_toInt_lt, Int32.lt_iff_toInt_lt, ← Int16.toInt_inj] at h
  rw [precedes_iff]
  omega

theorem precedes_of_not_before (h : ¬(a.2 < d.2 ∨ d.2 = a.2 ∧ d.1 < a.1)) : Precedes a d := by
  rw [Int16.lt_iff_toInt_lt, Int32.lt_iff_toInt_lt, ← Int16.toInt_inj] at h
  rw [precedes_iff]
  omega

theorem strictly_of_precedes (h : Precedes a b) (hne : a.1 ≠ b.1) :
    b.2 < a.2 ∨ b.2 = a.2 ∧ a.1 < b.1 := by
  rw [precedes_iff] at h
  rw [ne_eq, ← Int32.toInt_inj] at hne
  rw [Int16.lt_iff_toInt_lt, Int32.lt_iff_toInt_lt, ← Int16.toInt_inj]
  omega

theorem precedes_cons {all : List AppPriority} (hda : Precedes d a)
    (ha : ∀ x ∈ all, Precedes a x) : ∀ x ∈ a :: all, Precedes d x := by
  rw [forall_mem_cons]
  exact ⟨hda, fun x hx => precedes_trans hda (ha x hx)⟩

theorem merged_cons
    (h : ∃ merged : List AppPriority, apps = merged.map Prod.fst ∧ merged.Perm rest ∧
      merged.Pairwise Precedes) (hfirst : ∀ x ∈ rest, Precedes first x) :
    ∃ merged : List AppPriority, first.1 :: apps = merged.map Prod.fst ∧
      merged.Perm (first :: rest) ∧ merged.Pairwise Precedes := by
  obtain ⟨merged, rfl, hperm, hsort⟩ := h
  refine ⟨first :: merged, rfl, hperm.cons first, pairwise_cons.mpr ⟨?_, hsort⟩⟩
  intro x hx
  exact hfirst x (hperm.mem_iff.mp hx)

theorem exists_collect {device all : List AppPriority} (hfuel : device.length + all.length ≤ fuel)
    (hdev : device.Pairwise Precedes) (hall : all.Pairwise Precedes)
    (hapart : ∀ d ∈ device, ∀ a ∈ all, d.1 ≠ a.1) :
    ∃ merged : List AppPriority, collect fuel device all = merged.map Prod.fst ∧
      merged.Perm (device ++ all) ∧ merged.Pairwise Precedes := by
  induction fuel generalizing device all with
  | zero =>
    obtain rfl := length_eq_zero_iff.mp (by omega : device.length = 0)
    obtain rfl := length_eq_zero_iff.mp (by omega : all.length = 0)
    exact ⟨[], rfl, .nil, .nil⟩
  | succ fuel ih =>
    cases device with
    | nil =>
      cases all with
      | nil => exact ⟨[], rfl, .nil, .nil⟩
      | cons a all =>
        obtain ⟨ha, hall⟩ := pairwise_cons.mp hall
        refine merged_cons (ih ?_ .nil hall (forall_mem_nil _)) ha
        simp only [length_cons, length_nil] at hfuel ⊢
        omega
    | cons d device =>
      obtain ⟨hd, hdev'⟩ := pairwise_cons.mp hdev
      cases all with
      | nil =>
        rw [append_nil]
        refine merged_cons ?_ hd
        have hrest := @ih device [] ?_ hdev' .nil fun _ _ a ha => absurd ha not_mem_nil
        · rw [append_nil] at hrest
          exact hrest
        · simp only [length_cons, length_nil] at hfuel ⊢
          omega
      | cons a all =>
        obtain ⟨ha, hall'⟩ := pairwise_cons.mp hall
        have hne : d.1 ≠ a.1 := hapart d mem_cons_self a mem_cons_self
        simp only [length_cons] at hfuel
        rw [collect, next, if_neg hne]
        split_ifs with hbefore
        · have hrest := precedes_cons (precedes_of_before hbefore) ha
          refine merged_cons
            (ih ?_ hdev' hall fun x hx => hapart x (mem_cons_of_mem d hx))
            (forall_mem_append.mpr ⟨hd, hrest⟩)
          rw [length_cons]
          omega
        · have hrest := precedes_cons (precedes_of_not_before hbefore) hd
          obtain ⟨merged, hcollect, hperm, hsort⟩ := merged_cons
            (ih (by rw [length_cons]; omega) hdev hall' fun x hx y hy =>
              hapart x hx y (mem_cons_of_mem a hy))
            (forall_mem_append.mpr ⟨hrest, ha⟩)
          exact ⟨merged, hcollect, hperm.trans perm_middle.symm, hsort⟩

end NgGateway.NorthwardRouter
