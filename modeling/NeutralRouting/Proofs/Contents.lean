import NeutralRouting.Proofs.PeerInventory
import NeutralRouting.Proofs.Result

/-!
# Contents of results

Everything that is registered once a conversion has come to its end, whatever the device and the
compiler of route maps are.
-/

namespace NeutralRouting

open Std Conversion

section Phases

variable {device : Device} {params : ConversionParams} {compile : RouteMapCompiler}
  {before after : Progress} {policies : List RoutingPolicy} {lists : List RouteFilterList}
  {routes : List (String × GeneratedRoute)}

theorem inventory_admitsOspf :
    (Frame.invariant (·.Inventory policies lists routes)).AdmitsOspf where
  setProcess updated inventory := by
    refine inventory.of_updateVrf updated ?_
    rintro vrf _ same
    cases same
    rfl
  modifyInterface _ _ _ inventory := ⟨inventory.policies, inventory.lists, inventory.routes⟩

/-- A route map is registered only with a policy of its name. -/
theorem exists_of_addRouteMapPolicy {map : RouteMap}
    (run : (addRouteMapPolicy compile device map).runFrom before = (.ok (), after)) :
    ∃ policy, (compile device map).2 = .ok policy ∧ policy.name = map.name ∧
      before.configuration.addPolicy policy = (after.configuration, .ok ()) := by
  rw [addRouteMapPolicy, runFrom_bind_of_ok _ (runFrom_warnAll _ _)] at run
  obtain ⟨policy, _, required, run⟩ := runFrom_bind_eq_ok_iff.mp run
  obtain ⟨compiled, rfl⟩ := runFrom_require_eq_ok_iff.mp required
  split at run
  · next same_name => exact ⟨policy, compiled, same_name, configuration_of_runFrom_store run⟩
  · simp at run

/-- Every route map adds its policy, under its own name. -/
theorem inventory_of_convertRouteMaps
    (run : (convertRouteMaps compile device).runFrom before = (.ok (), after))
    (inventory : before.configuration.Inventory policies lists routes) :
    after.configuration.Inventory (policies ++ device.compiledPolicies compile) lists routes ∧
      (device.compiledPolicies compile).map (·.name) = device.routeMaps.values.map (·.name) := by
  let compiled (maps : List RouteMap) : List RoutingPolicy :=
    maps.filterMap fun map => (compile device map).2.toOption
  refine made_of_runFrom_forM (fun done configuration =>
    configuration.Inventory (policies ++ compiled done) lists routes ∧
      (compiled done).map (·.name) = done.map (·.name)) ?_ run
    ⟨by simpa [compiled] using inventory, rfl⟩
  rintro done map rest - start next here ⟨inventory, names⟩
  obtain ⟨policy, made, same_name, added⟩ := exists_of_addRouteMapPolicy here
  have one_more : compiled (done ++ [map]) = compiled done ++ [policy] := by
    simp [compiled, made, Except.toOption]
  rw [one_more, ← List.append_assoc]
  refine ⟨inventory.addPolicy added, ?_⟩
  rw [List.map_append, List.map_append, names, List.map_singleton, List.map_singleton, same_name]

/-- What a successful conversion has registered. -/
theorem inventory_of_convert (converted : device.convert params compile = .ok after) :
    after.configuration.Inventory
        (device.generatedPolicies ++ device.compiledPolicies compile)
        (device.prefixLists.values.map (·.toRouteFilterList) ++
          device.activeInstances.flatMap (·.suppressionLists))
        (device.activeInstances.flatMap (·.aggregateRoutes params.aggregateAdmin)) ∧
      (device.compiledPolicies compile).map (·.name) = device.routeMaps.values.map (·.name) := by
  obtain ⟨skeleton, listed, bgp, ospf, skeleton_run, lists_run, bgp_run, ospf_run, maps_run⟩ :=
    exists_runs_of_convert converted
  obtain ⟨start, vrfs⟩ := inventory_of_buildSkeleton skeleton_run
  obtain ⟨with_lists, same_vrfs⟩ := inventory_of_convertLists lists_run start
  rw [← same_vrfs] at vrfs
  refine inventory_of_convertRouteMaps maps_run
    (inventory_admitsOspf.keeps_convertOspf device params _ _ _ ospf_run ?_)
  rw [Device.generatedPolicies, Device.activeInstances, Device.peers, Device.neighbors]
  rw [convertBgp] at bgp_run
  cases runs_bgp : device.bgp with
  | none =>
      rw [runs_bgp] at bgp_run
      cases bgp_run
      simpa using with_lists
  | some instances =>
      rw [runs_bgp] at bgp_run
      obtain ⟨_, built, build_run, attach_run⟩ := runFrom_bind_eq_ok_iff.mp bgp_run
      have with_processes := inventory_of_buildProcesses build_run vrfs with_lists
      have runs := Configuration.RunsInstances.of_buildProcesses build_run vrfs
      exact inventory_of_attachNeighbors attach_run runs with_processes

end Phases

section Names

variable {device : Device} {params : ConversionParams} {compile : RouteMapCompiler}
  {progress : Progress}

/-- The routes of the aggregates of a VRF differ, as the names of their policies do. -/
theorem nodup_aggregateRoutes (distinct : (device.policyNames.map (·.text)).Nodup) (vrf : String)
    (admin : UInt32) :
    ((device.activeInstances.filter (·.vrf = vrf)).flatMap fun inst =>
      inst.aggregates.keys.map (aggregateRoute vrf admin)).Nodup := by
  rw [Device.policyNames, List.map_append, List.map_flatMap] at distinct
  have apart := (List.nodup_flatMap.mp (List.nodup_append.mp distinct).1).2
  have named : ∀ {inst : BgpInstance}, inst ∈ device.activeInstances.filter (·.vrf = vrf) →
      ∀ block ∈ inst.aggregates.keys,
        (GeneratedName.aggregate .v4 vrf block.text).text ∈ inst.policyNames.map (·.text) := by
    intro inst member block listed
    have own_vrf : inst.vrf = vrf := by simpa using (List.mem_filter.mp member).2
    rw [← own_vrf]
    exact List.mem_map_of_mem (List.mem_append_left _ (List.mem_map_of_mem listed))
  refine List.nodup_flatMap.mpr ⟨fun inst _ => ?_, ?_⟩
  · refine List.Nodup.map_on ?_ ExtTreeMap.nodup_keys
    intro block _ other _ same
    exact congrArg GeneratedRoute.network same
  · refine (apart.filter _).imp_of_mem fun {first second} first_mem second_mem disjoint route => ?_
    intro in_first in_second
    obtain ⟨block, first_block, rfl⟩ := List.mem_map.mp in_first
    obtain ⟨other, second_block, same⟩ := List.mem_map.mp in_second
    have same_block : other = block := congrArg GeneratedRoute.network same
    subst same_block
    exact disjoint (named first_mem _ first_block) (named second_mem _ second_block)

/-- The routes of a VRF are those of its instance, each once. -/
theorem generatedRoutes_perm {configuration : Configuration} {policies : List RoutingPolicy}
    {lists : List RouteFilterList} {admin : UInt32} {name : String} {vrf : Vrf}
    (inventory : configuration.Inventory policies lists
      (device.activeInstances.flatMap (·.aggregateRoutes admin)))
    (distinct : (device.policyNames.map (·.text)).Nodup)
    (found : configuration.vrfs[name]? = some vrf) :
    vrf.generatedRoutes.toList.Perm
      ((device.activeInstances.filter (·.vrf = name)).flatMap fun inst =>
        inst.aggregates.keys.map (aggregateRoute name admin)) := by
  refine (List.perm_ext_iff_of_nodup (Table.nodup_toList _)
    (nodup_aggregateRoutes distinct name admin)).mpr fun route => ?_
  rw [ExtTreeSet.mem_toList, inventory.routes name vrf found, List.mem_flatMap, List.mem_flatMap]
  constructor
  · rintro ⟨inst, active, listed⟩
    obtain ⟨block, member, same⟩ := List.mem_map.mp listed
    cases same
    exact ⟨inst, List.mem_filter.mpr ⟨active, by simp⟩, List.mem_map_of_mem member⟩
  · rintro ⟨inst, active, listed⟩
    obtain ⟨active, own_vrf⟩ := List.mem_filter.mp active
    obtain ⟨block, member, rfl⟩ := List.mem_map.mp listed
    refine ⟨inst, active, List.mem_map.mpr ⟨block, member, ?_⟩⟩
    rw [of_decide_eq_true own_vrf]

/-- A conversion that succeeds registers exactly the policies, route filter lists and routes that
the instances, peers, route maps and prefix lists of the device call for. -/
theorem convert_registers_exactly (converted : device.convert params compile = .ok progress) :
    progress.configuration.policies.keys.Perm
        (device.policyNames.map (·.text) ++ device.routeMaps.values.map (·.name)) ∧
      Table.KeyedBy (·.name) progress.configuration.policies ∧
      progress.configuration.routeFilterLists.toList.Perm
        ((device.prefixLists.values.map (·.toRouteFilterList) ++
          device.activeInstances.flatMap (·.suppressionLists)).map fun list =>
            (list.name, list)) ∧
      ∀ (name : String) (vrf : Vrf), progress.configuration.vrfs[name]? = some vrf →
        vrf.generatedRoutes.toList.Perm
          ((device.activeInstances.filter (·.vrf = name)).flatMap fun inst =>
            inst.aggregates.keys.map fun block =>
              { network := block
                admin := params.aggregateAdmin
                discard := true
                generationPolicy :=
                  some (GeneratedName.aggregate .v4 name block.text).text }) := by
  obtain ⟨inventory, compiled_names⟩ := inventory_of_convert converted
  have names : (device.generatedPolicies ++ device.compiledPolicies compile).map (·.name) =
      device.policyNames.map (·.text) ++ device.routeMaps.values.map (·.name) := by
    rw [List.map_append, device.map_name_generatedPolicies, compiled_names]
  have distinct := inventory.policies.nodup
  rw [names] at distinct
  refine ⟨?_, inventory.policies.keyedBy, inventory.lists.toList_perm, fun name vrf found => ?_⟩
  · rw [← names]
    exact inventory.policies.keys_perm
  · exact generatedRoutes_perm inventory (List.nodup_append.mp distinct).1 found

/-- The aggregate of the border router brings a policy, a list and a route along. -/
theorem convert_borderRouter_registers :
    ∃ progress vrf, borderRouter.convert .standard entrywiseCompiler = .ok progress ∧
      progress.configuration.policies.keys.Perm
        ["~AGGREGATE_ROUTE_GEN:default:10.0.0.0/8~", "~BGP_COMMON_EXPORT_POLICY:default~",
          "~BGP_DEFAULT_ROUTE_PEER_EXPORT_POLICY:IPv4:default:192.0.2.1~",
          "~BGP_PEER_EXPORT_POLICY:default:192.0.2.1~",
          "~BGP_PEER_IMPORT_POLICY:default:192.0.2.1~", "internal"] ∧
      progress.configuration.routeFilterLists.toList.Perm
        [("internal", ⟨"internal", [⟨.permit, ⟨internalNetwork, 8, 24⟩⟩]⟩),
          ("~MATCH_SUPPRESSED_SUMMARY_ONLY:default~",
            ⟨"~MATCH_SUPPRESSED_SUMMARY_ONLY:default~",
              [⟨.permit, .moreSpecificThan internalNetwork⟩]⟩)] ∧
      progress.configuration.vrfs[defaultVrfName]? = some vrf ∧
      vrf.generatedRoutes.toList.Perm
        [⟨internalNetwork, 200, true, some "~AGGREGATE_ROUTE_GEN:default:10.0.0.0/8~"⟩] := by
  obtain ⟨progress, converted⟩ := borderRouter_converts
  obtain ⟨registered, -, listed, generated⟩ := convert_registers_exactly converted
  have has_vrf := ((isResult_of_convert borderRouter_keyed converted).vrfs _).mpr (.inl rfl)
  obtain ⟨vrf, found⟩ := Table.mem_iff_getElem?_eq_some.mp has_vrf
  exact ⟨progress, vrf, converted, registered.trans (.of_eq (by decide +kernel)),
    listed.trans (.of_eq (by decide +kernel)), found,
    (generated _ _ found).trans (.of_eq (by decide +kernel))⟩

end Names
end NeutralRouting
