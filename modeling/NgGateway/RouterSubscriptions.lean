import NgGateway.NorthwardRouter

namespace NgGateway.RouterSubscriptions

open FiniteMaps Function KeyedGroups NorthwardRouter
open SubscriptionRouter (device)

abbrev Subscriptions := Int32 → Option AppSubModel

def Covers (sub : AppSubModel) (deviceId : Int32) : Prop :=
  sub.allDevices = true ∨ ∃ ids, sub.deviceIds = some ids ∧ deviceId ∈ ids

inductive Op where
  | update (appId : Int32) (sub : AppSubModel)
  | remove (appId : Int32)
  | clear

def Op.apply (order : IterationOrder Int32 Int16) (router : SubscriptionRouter) :
    Op → SubscriptionRouter
  | .update appId sub => router.update order appId sub
  | .remove appId => router.remove order appId
  | .clear => router.clear

def routerAfter (order : IterationOrder Int32 Int16) (ops : List Op) : SubscriptionRouter :=
  ops.foldl (Op.apply order) .new

def Op.effect (subs : Subscriptions) : Op → Subscriptions
  | .update appId sub => Function.update subs appId (some sub)
  | .remove appId => Function.update subs appId none
  | .clear => fun _ => none

def currentAfter (ops : List Op) : Subscriptions :=
  ops.foldl Op.effect fun _ => none

theorem upsert_spec (appId priority) (router : SubscriptionRouter) (deviceId) :
    ∃ lists, router.upsertDeviceSubscription appId priority deviceId =
        { router with deviceSubscriptions := lists } ∧
      ∀ x, (lists.lookup x).getD [] =
        if x = deviceId then insertSorted (router.device deviceId) (appId, priority)
        else router.device x := by
  unfold SubscriptionRouter.upsertDeviceSubscription device
  cases hlist : router.deviceSubscriptions.lookup deviceId with
  | none | some entries =>
    refine ⟨_, rfl, fun x => ?_⟩
    rw [lookup_insert]
    split_ifs
    · rfl
    · rfl

theorem upsert_foldl (appId priority) (ids : List Int32) (router)
    (hsort : ∀ x, (router.device x).Pairwise Precedes) :
    ∃ lists, ids.foldl (SubscriptionRouter.upsertDeviceSubscription appId priority) router =
        { router with deviceSubscriptions := lists } ∧
      (∀ x, ((lists.lookup x).getD []).Pairwise Precedes) ∧
      ∀ x e, ((lists.lookup x).getD []).count e =
        (router.device x).count e + if e = (appId, priority) then ids.count x else 0 := by
  induction ids generalizing router with
  | nil =>
    refine ⟨router.deviceSubscriptions, rfl, hsort, fun x e => ?_⟩
    simp [device]
  | cons id ids ih =>
    obtain ⟨lists, hfirst, hlists⟩ := upsert_spec appId priority router id
    have hdev : ∀ x, device { router with deviceSubscriptions := lists } x =
        if x = id then insertSorted (router.device id) (appId, priority)
        else router.device x := hlists
    obtain ⟨lists', hrest, hsort', hcount⟩ := ih { router with deviceSubscriptions := lists }
      fun x => by
        rw [hdev]
        split_ifs
        · exact pairwise_insertSorted (hsort id) _
        · exact hsort x
    refine ⟨lists', ?_, hsort', fun x e => ?_⟩
    · rw [List.foldl_cons, hfirst, hrest]
    · rw [hcount, hdev]
      by_cases hx : x = id
      · subst hx
        rw [if_pos rfl, (perm_insertSorted _ _).count_eq, List.count_cons, List.count_cons_self]
        by_cases he : e = (appId, priority)
        · simp [he]
          omega
        · simp [he, Ne.symm he]
      · rw [if_neg hx, List.count_cons_of_ne (fun heq => hx heq.symm)]

theorem removeDevice_spec (appId) (router : SubscriptionRouter) (deviceId) :
    ∃ lists, router.removeDeviceSubscription appId deviceId =
        { router with deviceSubscriptions := lists } ∧
      ∀ x, (lists.lookup x).getD [] =
        if x = deviceId then (router.device x).filter fun entry => entry.1 ≠ appId
        else router.device x := by
  unfold SubscriptionRouter.removeDeviceSubscription device
  cases hlist : router.deviceSubscriptions.lookup deviceId with
  | none =>
    refine ⟨router.deviceSubscriptions, rfl, fun x => ?_⟩
    split_ifs with hx
    · rw [hx, hlist]
      rfl
    · rfl
  | some entries =>
    dsimp only
    split_ifs with hempty
    · refine ⟨_, rfl, fun x => ?_⟩
      rw [lookup_erase]
      split_ifs with hx
      · rw [hx, hlist]
        exact (List.isEmpty_iff.mp hempty).symm
      · rfl
    · refine ⟨_, rfl, fun x => ?_⟩
      rw [lookup_insert]
      split_ifs with hx
      · rw [hx, hlist]
        rfl
      · rfl

theorem removeDevice_foldl (appId) (ids : List Int32) (router) :
    ∃ lists, ids.foldl (SubscriptionRouter.removeDeviceSubscription appId) router =
        { router with deviceSubscriptions := lists } ∧
      ∀ x, (lists.lookup x).getD [] =
        if x ∈ ids then (router.device x).filter fun entry => entry.1 ≠ appId
        else router.device x := by
  induction ids generalizing router with
  | nil => exact ⟨router.deviceSubscriptions, rfl, fun x => by simp [device]⟩
  | cons id ids ih =>
    obtain ⟨lists, hfirst, hlists⟩ := removeDevice_spec appId router id
    obtain ⟨lists', hrest, hlists'⟩ := ih { router with deviceSubscriptions := lists }
    refine ⟨lists', ?_, fun x => ?_⟩
    · rw [List.foldl_cons, hfirst, hrest]
    · rw [hlists', device, hlists]
      by_cases hx : x = id
      · by_cases hmem : x ∈ ids
        · simp [hx, List.filter_filter]
        · simp [hx, List.filter_filter]
      · simp [hx]

def infoOf (appId : Int32) (sub : AppSubModel) : Option SubscriptionInfo :=
  if sub.allDevices then some ⟨appId, true, [], sub.priority⟩
  else sub.deviceIds.map fun ids => ⟨appId, false, ids, sub.priority⟩

theorem infoOf_of_all (hall : sub.allDevices = true) :
    infoOf appId sub = some ⟨appId, true, [], sub.priority⟩ := by
  unfold infoOf
  exact if_pos hall

theorem infoOf_of_listed (hall : sub.allDevices = false) (hids : sub.deviceIds = some ids) :
    infoOf appId sub = some ⟨appId, false, ids, sub.priority⟩ := by
  unfold infoOf
  rw [hall, hids]
  rfl

theorem infoOf_eq_none_iff :
    infoOf appId sub = none ↔ sub.allDevices = false ∧ sub.deviceIds = none := by
  unfold infoOf
  cases sub.allDevices with
  | true | false => simp

def listed (subs : Subscriptions) (deviceId : Int32) (e : AppPriority) : Nat :=
  match subs e.1 with
  | none => 0
  | some sub =>
    if sub.allDevices = false ∧ sub.priority = e.2 then (sub.deviceIds.getD []).count deviceId
    else 0

structure Mirrors (subs : Subscriptions) (router : SubscriptionRouter) : Prop where
  infos : ∀ appId, router.appSubscriptions.lookup appId = (subs appId).bind (infoOf appId)
  allApps : ∀ appId priority, router.allDevicesApps.lookup appId = some priority ↔
    ∃ sub, subs appId = some sub ∧ sub.allDevices = true ∧ sub.priority = priority
  allPerm : router.allDevicesSorted.Perm router.allDevicesApps.entries
  allSorted : router.allDevicesSorted.Pairwise Precedes
  sorted : ∀ deviceId, (router.device deviceId).Pairwise Precedes
  counts : ∀ deviceId e, (router.device deviceId).count e = listed subs deviceId e

theorem mirrors_new : Mirrors (fun _ => none) .new :=
  ⟨fun _ => rfl, fun _ _ => by simp [SubscriptionRouter.new, lookup_empty], .nil, .nil,
    fun _ => .nil, fun _ _ => rfl⟩

theorem refresh_sorted (order) (router : SubscriptionRouter) :
    (router.refreshAllDevicesSorted order).allDevicesSorted.Perm
        (router.refreshAllDevicesSorted order).allDevicesApps.entries ∧
      (router.refreshAllDevicesSorted order).allDevicesSorted.Pairwise Precedes :=
  ⟨(perm_sortByPriority _).trans (order.perm _), pairwise_sortByPriority _⟩

theorem lookup_infos_erase (h : Mirrors subs router) (x) :
    (router.appSubscriptions.erase appId).lookup x =
      (Function.update subs appId none x).bind (infoOf x) := by
  rw [lookup_erase, h.infos]
  split_ifs with hx
  · rw [hx, update_self]
    rfl
  · rw [update_of_ne hx]

theorem listed_update_none :
    listed (Function.update subs appId none) deviceId e =
      if e.1 = appId then 0 else listed subs deviceId e := by
  unfold listed
  split_ifs with he
  · rw [he, update_self]
  · rw [update_of_ne he]

theorem counts_update_none (h : Mirrors subs router)
    (hnone : ∀ deviceId e, e.1 = appId → listed subs deviceId e = 0) (deviceId e) :
    (router.device deviceId).count e = listed (Function.update subs appId none) deviceId e := by
  rw [listed_update_none, h.counts]
  split_ifs with he
  · exact hnone deviceId e he
  · rfl

theorem lookup_allApps_erase (h : Mirrors subs router) (x priority) :
    (router.allDevicesApps.erase appId).lookup x = some priority ↔
      ∃ sub, Function.update subs appId none x = some sub ∧ sub.allDevices = true ∧
        sub.priority = priority := by
  rw [lookup_erase]
  split_ifs with hx
  · rw [hx, update_self]
    simp
  · rw [update_of_ne hx]
    exact h.allApps x priority

theorem allApps_lookup_eq_none (h : Mirrors subs router)
    (hsome : ∀ sub, subs appId = some sub → sub.allDevices = false) :
    router.allDevicesApps.lookup appId = none := by
  refine Option.eq_none_iff_forall_ne_some.mpr fun priority hprio => ?_
  obtain ⟨sub, hsub, hall, -⟩ := (h.allApps appId priority).mp hprio
  rw [hsome sub hsub] at hall
  cases hall

theorem count_removed (h : Mirrors subs router) (hsub : subs appId = some sub)
    (hids : sub.deviceIds = some ids) (x e) :
    (if x ∈ ids then (router.device x).filter fun entry => entry.1 ≠ appId
      else router.device x).count e = listed (Function.update subs appId none) x e := by
  rw [listed_update_none]
  by_cases he : e.1 = appId
  · split_ifs with hx
    · exact List.count_eq_zero.mpr fun hmem =>
        of_decide_eq_true (List.mem_filter.mp hmem).2 he
    · rw [h.counts, listed, he, hsub]
      simp [hids, List.count_eq_zero.mpr hx]
  · rw [if_neg he, ← h.counts]
    split_ifs
    · exact List.count_filter (decide_eq_true he)
    · rfl

theorem mirrors_remove (h : Mirrors subs router) (appId) :
    Mirrors (Function.update subs appId none) (router.remove order appId) := by
  have hinfo := h.infos appId
  unfold SubscriptionRouter.remove
  cases hget : router.appSubscriptions.lookup appId with
  | none =>
    rw [hget] at hinfo
    have hempty : ∀ sub, subs appId = some sub → sub.allDevices = false ∧ sub.deviceIds = none := by
      intro sub hsub
      rw [hsub, Option.bind_some] at hinfo
      exact infoOf_eq_none_iff.mp hinfo.symm
    have happs := allApps_lookup_eq_none h fun sub hsub => (hempty sub hsub).1
    refine ⟨fun x => ?_, fun x priority => ?_, h.allPerm, h.allSorted, h.sorted,
      counts_update_none h fun deviceId e he => ?_⟩
    · rw [← lookup_infos_erase h, erase_of_lookup_eq_none hget]
    · rw [← lookup_allApps_erase h, erase_of_lookup_eq_none happs]
    · unfold listed
      rw [he]
      cases hsub : subs appId with
      | none => rfl
      | some sub => simp [(hempty sub hsub).2]
  | some info =>
    rw [hget] at hinfo
    obtain ⟨sub, hsub, hinfo⟩ := Option.bind_eq_some_iff.mp hinfo.symm
    dsimp only
    cases hall : sub.allDevices with
    | true =>
      rw [infoOf_of_all hall, Option.some.injEq] at hinfo
      subst hinfo
      obtain ⟨hperm, hsort⟩ := refresh_sorted order
        { router with
          appSubscriptions := router.appSubscriptions.erase appId
          allDevicesApps := router.allDevicesApps.erase appId }
      have hnone : ∀ deviceId e, e.1 = appId → listed subs deviceId e = 0 := by
        intro deviceId e he
        rw [listed, he, hsub]
        simp [hall]
      exact ⟨lookup_infos_erase h, lookup_allApps_erase h, hperm, hsort, h.sorted,
        fun x e => counts_update_none h hnone x e⟩
    | false =>
      obtain ⟨ids, hids⟩ : ∃ ids, sub.deviceIds = some ids := by
        refine Option.ne_none_iff_exists'.mp fun hnone => ?_
        rw [infoOf_eq_none_iff.mpr ⟨hall, hnone⟩] at hinfo
        cases hinfo
      rw [infoOf_of_listed hall hids, Option.some.injEq] at hinfo
      subst hinfo
      rw [if_neg Bool.false_ne_true]
      have happs : router.allDevicesApps.lookup appId = none := by
        refine allApps_lookup_eq_none h fun sub' hsub' => ?_
        cases hsub.symm.trans hsub'
        exact hall
      obtain ⟨lists, hfold, hlists⟩ := removeDevice_foldl appId ids
        { router with appSubscriptions := router.appSubscriptions.erase appId }
      rw [hfold]
      refine ⟨lookup_infos_erase h, fun x priority => ?_, h.allPerm, h.allSorted, fun x => ?_,
        fun x e => ?_⟩
      · rw [← lookup_allApps_erase h, erase_of_lookup_eq_none happs]
      · rw [device, hlists]
        split_ifs
        · exact (h.sorted x).filter _
        · exact h.sorted x
      · rw [device, hlists]
        exact count_removed h hsub hids x e

theorem listed_update_some (hnone : subs appId = none) (sub deviceId e) :
    listed (Function.update subs appId (some sub)) deviceId e =
      listed subs deviceId e +
        if sub.allDevices = false ∧ e = (appId, sub.priority) then
          (sub.deviceIds.getD []).count deviceId
        else 0 := by
  obtain ⟨x, priority⟩ := e
  unfold listed
  by_cases hx : x = appId
  · subst hx
    simp [hnone, eq_comm (a := priority)]
  · simp [hx]

theorem lookup_infos_insert (h : Mirrors subs router) {sub : AppSubModel}
    (hinfo : infoOf appId sub = some info) (x) :
    (router.appSubscriptions.insert appId info).lookup x =
      (Function.update subs appId (some sub) x).bind (infoOf x) := by
  rw [lookup_insert, h.infos]
  split_ifs with hx
  · rw [hx, update_self, Option.bind_some, hinfo]
  · rw [update_of_ne hx]

theorem allApps_update_some (h : Mirrors subs router) (hnone : subs appId = none)
    {sub : AppSubModel} (hall : sub.allDevices = false) (x priority) :
    router.allDevicesApps.lookup x = some priority ↔
      ∃ s, Function.update subs appId (some sub) x = some s ∧ s.allDevices = true ∧
        s.priority = priority := by
  rw [h.allApps]
  by_cases hx : x = appId
  · subst hx
    simp [hnone, hall]
  · rw [update_of_ne hx]

theorem mirrors_subscribe (h : Mirrors subs router) (hnone : subs appId = none) (sub) :
    Mirrors (Function.update subs appId (some sub)) (router.subscribe order appId sub) := by
  unfold SubscriptionRouter.subscribe
  cases hall : sub.allDevices with
  | true =>
    obtain ⟨hperm, hsort⟩ := refresh_sorted order
      { router with allDevicesApps := router.allDevicesApps.insert appId sub.priority }
    refine ⟨lookup_infos_insert h (infoOf_of_all hall), fun x priority => ?_, hperm, hsort,
      h.sorted, fun x e => ?_⟩
    · change (router.allDevicesApps.insert appId sub.priority).lookup x = some priority ↔ _
      rw [lookup_insert]
      split_ifs with hx
      · rw [hx, update_self]
        simp [hall]
      · rw [update_of_ne hx, h.allApps]
    · change (router.device x).count e = _
      rw [listed_update_some hnone, h.counts]
      simp [hall]
  | false =>
    rw [if_neg Bool.false_ne_true]
    cases hids : sub.deviceIds with
    | none =>
      refine ⟨fun x => ?_, allApps_update_some h hnone hall, h.allPerm, h.allSorted, h.sorted,
        fun x e => ?_⟩
      · rw [h.infos]
        by_cases hx : x = appId
        · subst hx
          simp [hnone, infoOf_eq_none_iff.mpr ⟨hall, hids⟩]
        · rw [update_of_ne hx]
      · rw [listed_update_some hnone, h.counts]
        simp [hids]
    | some ids =>
      obtain ⟨lists, hfold, hsort, hcount⟩ := upsert_foldl appId sub.priority ids router h.sorted
      dsimp only
      rw [hfold]
      refine ⟨lookup_infos_insert h (infoOf_of_listed hall hids),
        allApps_update_some h hnone hall, h.allPerm, h.allSorted, hsort, fun x e => ?_⟩
      rw [device, hcount, listed_update_some hnone, h.counts]
      simp [hall, hids]

theorem mirrors_apply (h : Mirrors subs router) (op : Op) :
    Mirrors (op.effect subs) (op.apply order router) := by
  cases op with
  | update appId sub =>
    have hidem : Function.update (Function.update subs appId none) appId (some sub) =
        Function.update subs appId (some sub) := update_idem ..
    rw [Op.effect, ← hidem]
    exact mirrors_subscribe (mirrors_remove h appId) (update_self ..) sub
  | remove appId => exact mirrors_remove h appId
  | clear => exact mirrors_new

theorem mirrors_after (order ops) : Mirrors (currentAfter ops) (routerAfter order ops) := by
  have hrun : ∀ subs router, Mirrors subs router →
      Mirrors (ops.foldl Op.effect subs) (ops.foldl (Op.apply order) router) := by
    induction ops with
    | nil => exact fun _ _ h => h
    | cons op ops ih => exact fun subs router h => ih _ _ (mirrors_apply h op)
  exact hrun _ _ mirrors_new

/-- Exactly the apps that cover the device, each once, by priority and then by id. -/
structure Routes (subs : Subscriptions) (deviceId : Int32) (apps : List Int32) : Prop where
  mem : ∀ appId, appId ∈ apps ↔ ∃ sub, subs appId = some sub ∧ Covers sub deviceId
  nodup : apps.Nodup
  ordered : apps.Pairwise fun a b => ∀ s t, subs a = some s → subs b = some t →
    t.priority < s.priority ∨ t.priority = s.priority ∧ a < b

theorem mem_device_iff (h : Mirrors subs router) :
    (appId, priority) ∈ router.device deviceId ↔
      ∃ sub ids, subs appId = some sub ∧ sub.allDevices = false ∧ sub.priority = priority ∧
        sub.deviceIds = some ids ∧ deviceId ∈ ids := by
  rw [← List.count_pos_iff, h.counts, listed]
  cases hsub : subs appId with
  | none => simp
  | some sub =>
    cases hids : sub.deviceIds with
    | none => simp [hids]
    | some ids =>
      by_cases hlisted : sub.allDevices = false ∧ sub.priority = priority
      · simp [hids, hlisted, List.count_pos_iff]
      · simp only [hlisted, if_false, Nat.lt_irrefl, false_iff]
        rintro ⟨s, ids', hs, hall, hprio, -⟩
        cases hs
        exact hlisted ⟨hall, hprio⟩

theorem mem_all_iff (h : Mirrors subs router) :
    (appId, priority) ∈ router.allDevicesSorted ↔
      ∃ sub, subs appId = some sub ∧ sub.allDevices = true ∧ sub.priority = priority := by
  rw [h.allPerm.mem_iff, ← lookup_eq_some_iff, h.allApps]

theorem apart (h : Mirrors subs router) (deviceId) :
    ∀ d ∈ router.device deviceId, ∀ a ∈ router.allDevicesSorted, d.1 ≠ a.1 := by
  rintro ⟨app, pri⟩ hd ⟨app', pri'⟩ ha heq
  obtain ⟨sub, ids, hsub, hfalse, -⟩ := (mem_device_iff h).mp hd
  obtain ⟨sub', hsub', htrue, -⟩ := (mem_all_iff h).mp ha
  subst heq
  cases hsub.symm.trans hsub'
  rw [hfalse] at htrue
  cases htrue

theorem exists_resolve (h : Mirrors subs router) (deviceId) :
    ∃ merged : List AppPriority, router.resolve deviceId = merged.map Prod.fst ∧
      merged.Perm (router.device deviceId ++ router.allDevicesSorted) ∧
      merged.Pairwise Precedes :=
  exists_collect (Nat.le_refl _) (h.sorted deviceId) h.allSorted (apart h deviceId)

theorem priority_of_mem (h : Mirrors subs router)
    (hmem : (appId, priority) ∈ router.device deviceId ++ router.allDevicesSorted) :
    ∃ sub, subs appId = some sub ∧ sub.priority = priority ∧ Covers sub deviceId := by
  obtain hmem | hmem := List.mem_append.mp hmem
  · obtain ⟨sub, ids, hsub, -, hprio, hids, hdev⟩ := (mem_device_iff h).mp hmem
    exact ⟨sub, hsub, hprio, .inr ⟨ids, hids, hdev⟩⟩
  · obtain ⟨sub, hsub, hall, hprio⟩ := (mem_all_iff h).mp hmem
    exact ⟨sub, hsub, hprio, .inl hall⟩

theorem ids_of_covers (hall : sub.allDevices = false) (hcovers : Covers sub deviceId) :
    ∃ ids, sub.deviceIds = some ids ∧ deviceId ∈ ids := by
  obtain htrue | hids := hcovers
  · rw [hall] at htrue
    cases htrue
  · exact hids

theorem mem_of_covers (h : Mirrors subs router) (hsub : subs appId = some sub)
    (hcovers : Covers sub deviceId) :
    (appId, sub.priority) ∈ router.device deviceId ++ router.allDevicesSorted := by
  cases hall : sub.allDevices with
  | true => exact List.mem_append_right _ ((mem_all_iff h).mpr ⟨sub, hsub, hall, rfl⟩)
  | false =>
    obtain ⟨ids, hids, hdev⟩ := ids_of_covers hall hcovers
    exact List.mem_append_left _ ((mem_device_iff h).mpr ⟨sub, ids, hsub, hall, rfl, hids, hdev⟩)

theorem mem_resolve_iff (h : Mirrors subs router) (deviceId appId) :
    appId ∈ router.resolve deviceId ↔ ∃ sub, subs appId = some sub ∧ Covers sub deviceId := by
  obtain ⟨merged, hresolve, hperm, -⟩ := exists_resolve h deviceId
  rw [hresolve]
  constructor
  · intro hmem
    obtain ⟨e, he, rfl⟩ := List.mem_map.mp hmem
    obtain ⟨sub, hsub, -, hcovers⟩ := priority_of_mem h (hperm.mem_iff.mp he)
    exact ⟨sub, hsub, hcovers⟩
  · rintro ⟨sub, hsub, hcovers⟩
    exact List.mem_map.mpr ⟨_, hperm.mem_iff.mpr (mem_of_covers h hsub hcovers), rfl⟩

theorem nodup_resolve_iff (h : Mirrors subs router) (deviceId) :
    (router.device deviceId ++ router.allDevicesSorted).Nodup ↔
      ∀ appId sub, subs appId = some sub → sub.allDevices = false →
        (sub.deviceIds.getD []).count deviceId ≤ 1 := by
  have hall : router.allDevicesSorted.Nodup :=
    h.allPerm.nodup_iff.mpr router.allDevicesApps.nodup.of_map
  have hne : ∀ d ∈ router.device deviceId, ∀ a ∈ router.allDevicesSorted, d ≠ a :=
    fun d hd a ha heq => apart h deviceId d hd a ha (congrArg Prod.fst heq)
  rw [List.nodup_append, and_iff_left (And.intro hall hne), List.nodup_iff_count_le_one]
  simp only [h.counts]
  constructor
  · intro hle appId sub hsub hfalse
    have hcount := hle (appId, sub.priority)
    rw [listed, hsub] at hcount
    simpa [hfalse] using hcount
  · rintro hle ⟨appId, priority⟩
    unfold listed
    cases hsub : subs appId with
    | none => exact Nat.zero_le 1
    | some sub =>
      dsimp only
      split_ifs with hlisted
      · exact hle appId sub hsub hlisted.1
      · exact Nat.zero_le 1

/-- After any operations a device is resolved to the apps that cover it, each once and in order, if
and only if no current subscription lists it twice. -/
theorem routes_resolve_iff (order : IterationOrder Int32 Int16) (ops : List Op) (deviceId : Int32) :
    Routes (currentAfter ops) deviceId ((routerAfter order ops).resolve deviceId) ↔
      ∀ appId sub, currentAfter ops appId = some sub → sub.allDevices = false →
        (sub.deviceIds.getD []).count deviceId ≤ 1 := by
  have h := mirrors_after order ops
  obtain ⟨merged, hresolve, hperm, hsort⟩ := exists_resolve h deviceId
  have hprio : ∀ e ∈ merged, ∃ sub, currentAfter ops e.1 = some sub ∧ sub.priority = e.2 ∧
      Covers sub deviceId := fun e he => priority_of_mem h (hperm.mem_iff.mp he)
  have hnodup : (merged.map Prod.fst).Nodup ↔ merged.Nodup := by
    refine ⟨List.Nodup.of_map Prod.fst, List.Nodup.map_on fun x hx y hy heq => ?_⟩
    obtain ⟨sub, hsub, hx, -⟩ := hprio x hx
    obtain ⟨sub', hsub', hy, -⟩ := hprio y hy
    rw [heq] at hsub
    cases hsub.symm.trans hsub'
    exact Prod.ext heq (hx.symm.trans hy)
  rw [← nodup_resolve_iff h, ← hperm.nodup_iff, ← hnodup]
  constructor
  · intro hroutes
    rw [← hresolve]
    exact hroutes.nodup
  · intro hdist
    refine ⟨mem_resolve_iff h deviceId, ?_, ?_⟩
    · rw [hresolve]
      exact hdist
    · rw [hresolve, List.pairwise_map]
      refine (hsort.and (List.pairwise_map.mp hdist)).imp_of_mem ?_
      rintro a b ha hb ⟨hprecedes, hne⟩ s t hs ht
      obtain ⟨s', hs', hpa, -⟩ := hprio a ha
      obtain ⟨t', ht', hpb, -⟩ := hprio b hb
      cases hs.symm.trans hs'
      cases ht.symm.trans ht'
      rw [hpa, hpb]
      exact strictly_of_precedes hprecedes hne

/-- Device 1 is listed twice by app 7. -/
theorem listed_twice_resolved_twice :
    currentAfter [.update 7 ⟨false, some [1, 1], 0⟩] 7 = some ⟨false, some [1, 1], 0⟩ ∧
      (routerAfter insertionOrder [.update 7 ⟨false, some [1, 1], 0⟩]).resolve 1 = [7, 7] := by
  constructor
  · rfl
  · decide

end NgGateway.RouterSubscriptions
