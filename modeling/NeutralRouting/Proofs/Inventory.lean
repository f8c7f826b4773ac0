import NeutralRouting.Proofs.Generated

/-!
# Inventories

What is registered at each point of a conversion, as lists of objects.  On any device for which they
succeed, the skeleton, the match lists and the processes add to these lists what they are there for,
and nothing else.
-/

namespace NeutralRouting

open Std Conversion

namespace Configuration

/-- The policies, the route filter lists and the routes of VRFs are the given ones. -/
structure Inventory (configuration : Configuration) (policies : List RoutingPolicy)
    (lists : List RouteFilterList) (routes : List (String × GeneratedRoute)) : Prop where
  policies : Table.Holds (·.name) configuration.policies policies
  lists : Table.Holds (·.name) configuration.routeFilterLists lists
  routes : ∀ (name : String) (vrf : Vrf), configuration.vrfs[name]? = some vrf →
    ∀ route, route ∈ vrf.generatedRoutes ↔ (name, route) ∈ routes

variable {configuration changed : Configuration} {policies : List RoutingPolicy}
  {lists : List RouteFilterList} {routes : List (String × GeneratedRoute)}

theorem inventory_initial (hostname : String) : (initial hostname).Inventory [] [] [] where
  policies := .empty
  lists := .empty
  routes name vrf found route := by
    simp only [initial, ExtTreeMap.getElem?_insert, ExtTreeMap.getElem?_empty] at found
    split at found
    · cases found
      exact iff_of_false ExtTreeSet.not_mem_empty List.not_mem_nil
    · cases found

/-- A policy under a new name is registered by either way of adding one. -/
theorem addPolicy_eq_ensurePolicy {policy : RoutingPolicy}
    (fresh : policy.name ∉ configuration.policies) :
    configuration.addPolicy policy = ((configuration.ensurePolicy policy), .ok ()) := by
  have same : configuration.policies.insert policy.name policy =
      configuration.policies.insertIfNew policy.name policy := by
    apply ExtTreeMap.ext_getElem?
    intro name
    rw [ExtTreeMap.getElem?_insert, ExtTreeMap.getElem?_insertIfNew]
    simp only [fresh, not_false_eq_true, and_true]
  rw [addPolicy, insertNew, if_neg fresh, same]
  rfl

namespace Inventory

variable (inventory : configuration.Inventory policies lists routes)
include inventory

theorem addPolicy {policy : RoutingPolicy}
    (added : configuration.addPolicy policy = (changed, .ok ())) :
    changed.Inventory (policies ++ [policy]) lists routes := by
  have holds := policyShelf.holds_of_add added inventory.policies
  obtain ⟨-, rfl⟩ := policyShelf.add_eq_ok_iff.mp added
  exact ⟨holds, inventory.lists, inventory.routes⟩

theorem addRouteFilterList {list : RouteFilterList}
    (added : configuration.addRouteFilterList list = (changed, .ok ())) :
    changed.Inventory policies (lists ++ [list]) routes := by
  have holds := routeFilterShelf.holds_of_add added inventory.lists
  obtain ⟨-, rfl⟩ := routeFilterShelf.add_eq_ok_iff.mp added
  exact ⟨inventory.policies, holds, inventory.routes⟩

/-- A VRF with the same routes is put under a name. -/
theorem insert_vrf (name : String) {vrf : Vrf}
    (same : ∀ route, route ∈ vrf.generatedRoutes ↔ (name, route) ∈ routes) :
    { configuration with vrfs := configuration.vrfs.insert name vrf }.Inventory
      policies lists routes where
  policies := inventory.policies
  lists := inventory.lists
  routes other found present := by
    rw [ExtTreeMap.getElem?_insert] at present
    split at present
    · next equal =>
        cases present
        rw [← LawfulEqOrd.eq_of_compare equal]
        exact same
    · exact inventory.routes other found present

theorem of_updateVrf {name : String} {change : Vrf → Attempt Vrf}
    (updated : configuration.updateVrf name change = (changed, .ok ()))
    (same : ∀ vrf result, change vrf = (result, .ok ()) →
      result.generatedRoutes = vrf.generatedRoutes) :
    changed.Inventory policies lists routes := by
  obtain ⟨vrf, result, found, accepted, rfl⟩ := updateVrf_eq_ok_iff.mp updated
  apply inventory.insert_vrf
  rw [same vrf result accepted]
  exact inventory.routes name vrf found

theorem addGeneratedRoute {name : String} {route : GeneratedRoute}
    (updated : configuration.updateVrf name (fun owner => (owner.addGeneratedRoute route, .ok ())) =
      (changed, .ok ())) :
    changed.Inventory policies lists (routes ++ [(name, route)]) := by
  obtain ⟨vrf, result, found, accepted, rfl⟩ := updateVrf_eq_ok_iff.mp updated
  cases accepted
  refine ⟨inventory.policies, inventory.lists, fun other current present added => ?_⟩
  rw [ExtTreeMap.getElem?_insert] at present
  rw [List.mem_append, List.mem_singleton, Prod.mk.injEq]
  split at present
  · next equal =>
      cases present
      have same : name = other := LawfulEqOrd.eq_of_compare equal
      rw [Vrf.addGeneratedRoute, ExtTreeSet.mem_insert, LawfulEqOrd.compare_eq_iff_eq,
        inventory.routes name vrf found, ← same, or_comm]
      simp only [true_and, eq_comm]
  · next different =>
      have other_name : ¬other = name := fun same =>
        different (LawfulEqOrd.compare_eq_iff_eq.mpr same.symm)
      rw [inventory.routes other current present]
      simp only [other_name, false_and, or_false]

theorem addIdleProcesses (device : Device) (params : ConversionParams) :
    (addIdleProcesses device params configuration).Inventory policies lists routes := by
  rw [NeutralRouting.addIdleProcesses]
  cases configuration.bgpProcess? defaultVrfName with
  | none => exact inventory
  | some own =>
      refine ⟨inventory.policies, inventory.lists, fun name vrf found => ?_⟩
      rw [ExtTreeMap.getElem?_map, Option.map_eq_some_iff] at found
      obtain ⟨earlier, found, changed⟩ := found
      split at changed <;>
        · subst changed
          exact inventory.routes name earlier found

end Inventory
end Configuration

section Skeleton

variable {device : Device} {progress after : Progress}

/-- The changes that the skeleton of a device makes to a configuration after its VRFs. -/
structure Conversion.Frame.AdmitsSkeleton (frame : Frame) : Prop where
  addInterface : ∀ {before after interface},
    Configuration.addInterface before interface = (after, .ok ()) → frame.Related before after
  addLayer2Vni : ∀ {before after name segment},
    before.updateVrf name (fun vrf => (vrf.addLayer2Vni segment, .ok ())) = (after, .ok ()) →
    frame.Related before after
  addDnsServer : ∀ before server, frame.Related before (before.addDnsServer server)

/-- Build what the skeleton has besides VRFs. -/
theorem Conversion.Frame.AdmitsSkeleton.related_of_buildSkeleton {frame : Frame}
    (admits : frame.AdmitsSkeleton)
    (run : (buildSkeleton device).runFrom progress = (.ok (), after)) :
    ∃ declared : Progress,
      (device.vrfs.all.forM addDeclaredVrf).runFrom progress = (.ok (), declared) ∧
        frame.Related declared.configuration after.configuration := by
  have add_servers : ∀ servers before,
      frame.Related before (List.foldl Configuration.addDnsServer before servers) := by
    intro servers
    induction servers with
    | nil => exact frame.refl
    | cons server servers ih =>
        exact fun before => frame.trans (admits.addDnsServer before server) (ih _)
  have interfaces : frame.Keeps (device.interfaces.values.forM addDeviceInterface) := by
    refine .forM fun interface _ => .bind .configuration fun configuration => ?_
    split
    · exact .bind (.warn _) fun _ => .store fun _ _ added => admits.addInterface added
    · exact .store fun _ _ added => admits.addInterface added
  have loopback : frame.Keeps (addLoopback device.loopback) := by
    refine .bind .configuration fun configuration => ?_
    split
    · exact .store fun _ _ added => admits.addInterface added
    · exact .pure _
  have segments : frame.Keeps
      ((device.vxlans.values.filterMap (bridgedSegment? device)).forM addBridgedSegment) :=
    .forM fun segment _ => .store fun _ _ updated => admits.addLayer2Vni updated
  have rest := interfaces.bind fun _ => loopback.bind fun _ => segments.bind fun _ =>
    .update (add_servers device.nameservers)
  obtain ⟨_, declared, declare_run, run⟩ := runFrom_bind_eq_ok_iff.mp run
  exact ⟨declared, declare_run, rest _ _ _ run⟩

theorem sameVrfs_admitsSkeleton : sameVrfs.AdmitsSkeleton where
  addInterface added := by
    obtain ⟨-, rfl⟩ := Configuration.interfaceShelf.add_eq_ok_iff.mp added
    exact sameVrfs.refl _
  addLayer2Vni updated := sameVrfs_of_updateVrf updated
  addDnsServer before server := sameVrfs.refl before

theorem inventory_admitsSkeleton {policies : List RoutingPolicy} {lists : List RouteFilterList}
    {routes : List (String × GeneratedRoute)} :
    (Frame.invariant (·.Inventory policies lists routes)).AdmitsSkeleton where
  addInterface added inventory := by
    obtain ⟨-, rfl⟩ := Configuration.interfaceShelf.add_eq_ok_iff.mp added
    exact ⟨inventory.policies, inventory.lists, inventory.routes⟩
  addLayer2Vni updated inventory := by
    refine inventory.of_updateVrf updated ?_
    rintro vrf _ same
    cases same
    rfl
  addDnsServer _ _ inventory := ⟨inventory.policies, inventory.lists, inventory.routes⟩

/-- Nothing is registered with the skeleton but VRFs. -/
theorem inventory_of_buildSkeleton
    (run : (buildSkeleton device).runFrom (.initial device.hostname) = (.ok (), after)) :
    after.configuration.Inventory [] [] [] ∧
      ∀ name : String, name ∈ after.configuration.vrfs ↔ device.HasVrf name := by
  obtain ⟨declared, declare_run, kept⟩ :=
    inventory_admitsSkeleton.related_of_buildSkeleton run
  obtain ⟨_, declare_again, same_vrfs⟩ := sameVrfs_admitsSkeleton.related_of_buildSkeleton run
  obtain ⟨_, bare_progress, bare_run, bare, -⟩ :=
    @addDeclaredVrfs_succeeds device (.initial device.hostname)
      (Configuration.bare_initial device.hostname)
  cases declare_run.symm.trans declare_again
  cases declare_run.symm.trans bare_run
  have declare_keeps : (Frame.invariant (·.Inventory [] [] [])).Keeps
      (device.vrfs.all.forM addDeclaredVrf) := by
    refine .forM fun vrf _ => ?_
    rw [addDeclaredVrf]
    split
    · exact .pure _
    · refine .store fun before changed added inventory => ?_
      have shelved : Configuration.vrfShelf.add before (.bare vrf.name) = (changed, .ok ()) := added
      obtain ⟨-, rfl⟩ := Configuration.vrfShelf.add_eq_ok_iff.mp shelved
      exact inventory.insert_vrf vrf.name fun route =>
        iff_of_false ExtTreeSet.not_mem_empty List.not_mem_nil
  have start := declare_keeps _ _ _ declare_run (Configuration.inventory_initial device.hostname)
  exact ⟨kept start, fun name => (same_vrfs name).trans (bare.vrfs name)⟩

/-- The match lists of the device are registered after it, and its VRFs stay. -/
theorem inventory_of_convertLists
    (run : (convertLists device).runFrom progress = (.ok (), after))
    (inventory : progress.configuration.Inventory [] [] []) :
    after.configuration.Inventory [] (device.prefixLists.values.map (·.toRouteFilterList)) [] ∧
      after.configuration.vrfs = progress.configuration.vrfs := by
  let Start (configuration : Configuration) : Prop := configuration.Inventory [] [] [] ∧
    configuration.vrfs = progress.configuration.vrfs
  obtain ⟨_, first, community_run, run⟩ := runFrom_bind_eq_ok_iff.mp run
  obtain ⟨_, second, as_path_run, prefix_run⟩ := runFrom_bind_eq_ok_iff.mp run
  have community_keeps : (Frame.invariant Start).Keeps (device.communityLists.values.forM
      fun list => store (Configuration.communityShelf.add · list.toCommunityList)) := by
    refine .forM fun list _ => .store fun before changed added start => ?_
    obtain ⟨-, rfl⟩ := Configuration.communityShelf.add_eq_ok_iff.mp added
    exact ⟨⟨start.1.policies, start.1.lists, start.1.routes⟩, start.2⟩
  have as_path_keeps : (Frame.invariant Start).Keeps (device.asPathLists.values.forM
      fun list => store (Configuration.asPathShelf.add · list.toAccessList)) := by
    refine .forM fun list _ => .store fun before changed added start => ?_
    obtain ⟨-, rfl⟩ := Configuration.asPathShelf.add_eq_ok_iff.mp added
    exact ⟨⟨start.1.policies, start.1.lists, start.1.routes⟩, start.2⟩
  have start := as_path_keeps _ _ _ as_path_run
    (community_keeps _ _ _ community_run ⟨inventory, rfl⟩)
  refine made_of_runFrom_forM (fun done configuration =>
    configuration.Inventory [] (done.map (·.toRouteFilterList)) [] ∧
      configuration.vrfs = progress.configuration.vrfs) ?_ prefix_run start
  rintro done list rest - before next here ⟨listed, same_vrfs⟩
  have added : Configuration.routeFilterShelf.add before.configuration list.toRouteFilterList =
      (next.configuration, .ok ()) := configuration_of_runFrom_store here
  rw [List.map_append]
  refine ⟨listed.addRouteFilterList added, ?_⟩
  obtain ⟨-, same⟩ := Configuration.routeFilterShelf.add_eq_ok_iff.mp added
  rw [← same]
  exact same_vrfs

end Skeleton

section Processes

variable {device : Device} {params : ConversionParams} {inst defaultInstance : BgpInstance}
  {before after : Progress} {policies : List RoutingPolicy} {lists : List RouteFilterList}
  {routes : List (String × GeneratedRoute)}

theorem inventory_of_addAggregates {vrf : String} {aggregates : AggregateTable} {admin : UInt32}
    (run : (addAggregates vrf aggregates admin).runFrom before = (.ok (), after))
    (inventory : before.configuration.Inventory policies lists routes) :
    after.configuration.Inventory (policies ++ aggregates.keys.map (aggregatePolicy vrf)) lists
      (routes ++ aggregates.keys.map fun block => (vrf, aggregateRoute vrf admin block)) := by
  refine made_of_runFrom_forM (fun done configuration => configuration.Inventory
    (policies ++ done.map (aggregatePolicy vrf)) lists
    (routes ++ done.map fun block => (vrf, aggregateRoute vrf admin block))) ?_ run
    (by simpa using inventory)
  intro done block rest _ start next here inventory
  obtain ⟨_, middle, policy_run, route_run⟩ := runFrom_bind_eq_ok_iff.mp here
  have with_policy := inventory.addPolicy (configuration_of_runFrom_store policy_run)
  have with_route := with_policy.addGeneratedRoute (configuration_of_runFrom_store route_run)
  rw [List.map_append, List.map_append, ← List.append_assoc, ← List.append_assoc]
  exact with_route

theorem inventory_of_suppressSummarized {suppress : Option Statement}
    (run : (suppressSummarized inst.vrf inst.summaryOnlyAggregates).runFrom before =
      (.ok suppress, after))
    (inventory : before.configuration.Inventory policies lists routes) :
    after.configuration.Inventory policies (lists ++ inst.suppressionLists) routes := by
  rw [suppressSummarized] at run
  rw [BgpInstance.suppressionLists_eq]
  split at run
  · next no_block =>
      cases run
      rw [if_pos no_block, List.append_nil]
      exact inventory
  · next some_block =>
      obtain ⟨_, middle, added, rest⟩ := runFrom_bind_eq_ok_iff.mp run
      cases rest
      rw [if_neg some_block]
      exact inventory.addRouteFilterList (configuration_of_runFrom_store added)

/-- What an instance brings along if its VRF exists. -/
theorem inventory_of_addInstanceProcess
    (run : (addInstanceProcess device params defaultInstance inst).runFrom before = (.ok (), after))
    (has_vrf : inst.vrf ∈ before.configuration.vrfs)
    (inventory : before.configuration.Inventory policies lists routes) :
    after.configuration.Inventory (policies ++ inst.sharedPolicies device)
      (lists ++ inst.suppressionLists)
      (routes ++ inst.aggregateRoutes params.aggregateAdmin) := by
  obtain ⟨_, _, asked, run⟩ := runFrom_bind_eq_ok_iff.mp run
  cases asked
  rw [if_pos has_vrf] at run
  obtain ⟨_, aggregated, aggregate_run, run⟩ := runFrom_bind_eq_ok_iff.mp run
  obtain ⟨_, shared, share_run, process_run⟩ := runFrom_bind_eq_ok_iff.mp run
  obtain ⟨suppress, suppressed, suppress_run, share_run⟩ := runFrom_bind_eq_ok_iff.mp share_run
  rw [runFrom_bind_of_ok _ (runFrom_warnAll _ _)] at share_run
  obtain ⟨rfl, -⟩ := suppression_of_suppressSummarized suppress_run
  have with_aggregates := inventory_of_addAggregates aggregate_run inventory
  have with_lists := inventory_of_suppressSummarized suppress_run with_aggregates
  have with_policy := with_lists.addPolicy (configuration_of_runFrom_store share_run)
  rw [BgpInstance.sharedPolicies, ← List.append_assoc]
  refine with_policy.of_updateVrf (configuration_of_runFrom_store process_run) ?_
  rintro vrf _ same
  cases same
  rfl

theorem inventory_of_buildProcesses {instances : BgpInstances}
    (run : (buildProcesses device params instances).runFrom before = (.ok (), after))
    (vrfs : ∀ name : String, name ∈ before.configuration.vrfs ↔ device.HasVrf name)
    (inventory : before.configuration.Inventory [] lists []) :
    let active := instances.all.filter (device.HasVrf ·.vrf)
    after.configuration.Inventory (active.flatMap (·.sharedPolicies device))
      (lists ++ active.flatMap (·.suppressionLists))
      (active.flatMap (·.aggregateRoutes params.aggregateAdmin)) := by
  intro active
  obtain ⟨_, built, loop, idle⟩ := runFrom_bind_eq_ok_iff.mp run
  let Made (done : List BgpInstance) (configuration : Configuration) : Prop :=
    let active := done.filter (device.HasVrf ·.vrf)
    (∀ name : String, name ∈ configuration.vrfs ↔ device.HasVrf name) ∧
      configuration.Inventory (active.flatMap (·.sharedPolicies device))
        (lists ++ active.flatMap (·.suppressionLists))
        (active.flatMap (·.aggregateRoutes params.aggregateAdmin))
  have made : Made instances.all built.configuration := by
    refine made_of_runFrom_forM Made ?_ loop ⟨vrfs, by simpa using inventory⟩
    rintro done inst rest - start next here ⟨vrfs, inventory⟩
    have same_vrfs := sameVrfs_admitsBgp.keeps_addInstanceProcess device params
      instances.defaultVrf inst _ _ _ here
    refine ⟨fun name => (same_vrfs name).trans (vrfs name), ?_⟩
    by_cases has_vrf : device.HasVrf inst.vrf
    · have more := inventory_of_addInstanceProcess here ((vrfs _).mpr has_vrf) inventory
      simpa [List.filter_append, has_vrf] using more
    · obtain ⟨_, _, asked, here⟩ := runFrom_bind_eq_ok_iff.mp here
      cases asked
      rw [if_neg (mt (vrfs _).mp has_vrf)] at here
      cases here
      simpa [List.filter_append, has_vrf] using inventory
  cases idle
  exact made.2.addIdleProcesses device params

end Processes
end NeutralRouting
