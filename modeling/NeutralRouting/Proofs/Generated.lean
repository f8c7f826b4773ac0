import NeutralRouting.Proofs.Failure

/-!
# What is generated for a device

The policies, match lists and routes that a conversion makes on its own, given the BGP instances
whose VRFs exist and their neighbors that become peers.
-/

namespace NeutralRouting

open Std

instance (device : Device) (vrf : String) : Decidable (device.HasVrf vrf) :=
  inferInstanceAs (Decidable (_ ∨ _))

/-- The AS number of the neighbor is given, or its type. -/
def NeighborSettings.namesAs (settings : NeighborSettings) : Bool :=
  settings.remoteAs.isSome || settings.remoteAsType.isSome

theorem NeighborSettings.isValid_eq_namesAs (settings : NeighborSettings) :
    settings.isValid = settings.namesAs := rfl

/-- The neighbor is no peer group and is validly configured: something is known about its AS, and
it has an address unless it is an interface. -/
def Neighbor.isPeer : Neighbor → Bool
  | interface settings => settings.namesAs
  | ip settings address => settings.namesAs && address.isSome
  | peerGroup _ => false

theorem Neighbor.isSome_peerId? (neighbor : Neighbor) :
    neighbor.peerId?.isSome = neighbor.isPeer := by
  cases neighbor with
  | interface settings =>
      rw [peerId?, isPeer, NeighborSettings.isValid_eq_namesAs]
      cases settings.namesAs <;> rfl
  | ip settings address =>
      rw [peerId?, isPeer, NeighborSettings.isValid_eq_namesAs]
      cases settings.namesAs with
      | false => rfl
      | true => exact Option.isSome_map
  | peerGroup settings => rfl

namespace Device

/-- The BGP instances whose VRF exists. -/
def activeInstances (device : Device) : List BgpInstance :=
  match device.bgp with
  | none => []
  | some instances => instances.all.filter (device.HasVrf ·.vrf)

/-- A neighbor with its instance and all settings, if it becomes a peer of an existing VRF. -/
def peer? (device : Device) : BgpInstance × Neighbor → Option (BgpInstance × NeighborSettings)
  | (inst, neighbor) =>
    if device.HasVrf inst.vrf ∧ (neighbor.resolve inst.neighbors).isPeer then
      some (inst, (neighbor.resolve inst.neighbors).settings)
    else none

/-- The neighbors that become peers, with their instances and all settings. -/
def peers (device : Device) : List (BgpInstance × NeighborSettings) :=
  device.neighbors.filterMap device.peer?

variable {device : Device} {inst : BgpInstance} {neighbor : Neighbor} {settings : NeighborSettings}

theorem peer?_of_not_hasVrf (no_vrf : ¬device.HasVrf inst.vrf) :
    device.peer? (inst, neighbor) = none :=
  if_neg fun both => no_vrf both.1

theorem peer?_of_peerId?_eq_none
    (no_peer : (neighbor.resolve inst.neighbors).peerId? = none) :
    device.peer? (inst, neighbor) = none := by
  refine if_neg fun both => ?_
  rw [← Neighbor.isSome_peerId?, no_peer] at both
  cases both.2

theorem peer?_of_peerId? {id : PeerId} (has_vrf : device.HasVrf inst.vrf)
    (identity : (neighbor.resolve inst.neighbors).peerId? = some id) :
    device.peer? (inst, neighbor) = some (inst, (neighbor.resolve inst.neighbors).settings) := by
  refine if_pos ⟨has_vrf, ?_⟩
  rw [← Neighbor.isSome_peerId?, identity]
  rfl

theorem mem_activeInstances_iff :
    inst ∈ device.activeInstances ↔
      ∃ instances, device.bgp = some instances ∧ inst ∈ instances.all ∧
        device.HasVrf inst.vrf := by
  rw [activeInstances]
  cases device.bgp with
  | none => simp
  | some instances => simp

/-- The instance of a peer is active. -/
theorem mem_activeInstances_of_mem_peers (member : (inst, settings) ∈ device.peers) :
    inst ∈ device.activeInstances := by
  obtain ⟨⟨own, neighbor⟩, attached, found⟩ := List.mem_filterMap.mp member
  rw [neighbors] at attached
  rw [mem_activeInstances_iff]
  cases runs_bgp : device.bgp with
  | none => simp [runs_bgp] at attached
  | some instances =>
      rw [runs_bgp] at attached
      rw [peer?, Option.ite_none_right_eq_some] at found
      cases found.2
      exact ⟨instances, rfl, (BgpInstances.mem_neighbors_iff.mp attached).1, found.1.1⟩

end Device

/-- The policies of the aggregates of an instance and its common export policy. -/
def BgpInstance.sharedPolicies (inst : BgpInstance) (device : Device) : List RoutingPolicy :=
  inst.aggregates.keys.map (aggregatePolicy inst.vrf) ++
    [commonExportPolicy device inst inst.suppression?]

/-- The policy of the default route of a peer, if it is originated. -/
def defaultRoutePolicies (inst : BgpInstance) (settings : NeighborSettings) :
    List RoutingPolicy :=
  if settings.originatesDefault then [defaultRoutePolicy inst.vrf settings.name] else []

/-- The policies of a peer. -/
def peerPolicies (inst : BgpInstance) (settings : NeighborSettings) : List RoutingPolicy :=
  defaultRoutePolicies inst settings ++
    peerExportPolicy inst settings :: (peerImportPolicy? inst settings).toList

/-- The names of the policies shared by the peers of an instance. -/
def BgpInstance.policyNames (inst : BgpInstance) : List GeneratedName :=
  inst.aggregates.keys.map (fun block => .aggregate .v4 inst.vrf block.text) ++
    [.commonExport inst.vrf]

/-- The names of the policies of a peer: its export policy, its import policy if it has an inbound
route map, and the policy of the default route if one is originated. -/
def peerPolicyNames (inst : BgpInstance) (settings : NeighborSettings) : List GeneratedName :=
  (if settings.originatesDefault then [.defaultRoute .v4 inst.vrf settings.name] else []) ++
    .peerExport inst.vrf settings.name ::
      (if (settings.ipv4Setting (·.routeMapIn)).isSome then [.peerImport inst.vrf settings.name]
        else [])

/-- The list of the networks that the summary-only aggregates of an instance stand for, if it has
such an aggregate. -/
def BgpInstance.suppressionLists (inst : BgpInstance) : List RouteFilterList :=
  if inst.aggregates.values.any (·.summaryOnly) then
    [{ name := (GeneratedName.suppressed inst.vrf).text
       lines := inst.aggregates.toList.filterMap fun (block, aggregate) =>
         if aggregate.summaryOnly then some ⟨.permit, .moreSpecificThan block⟩ else none }]
  else []

namespace BgpInstance

theorem summaryOnlyAggregates_eq (inst : BgpInstance) : inst.summaryOnlyAggregates =
    (inst.aggregates.toList.filter (·.2.summaryOnly)).map (·.1) := by
  rw [summaryOnlyAggregates, aggregates]
  cases inst.ipv4Unicast <;> rfl

theorem any_summaryOnly_values_aggregates (inst : BgpInstance) :
    inst.aggregates.values.any (·.summaryOnly) = !inst.summaryOnlyAggregates.isEmpty := by
  rw [summaryOnlyAggregates_eq, Table.values_eq_map_snd, List.any_map, List.isEmpty_map,
    Bool.eq_iff_iff, Bool.not_eq_true', ← Bool.not_eq_true, List.isEmpty_iff,
    List.filter_eq_nil_iff]
  simp

theorem suppressionLists_eq (inst : BgpInstance) :
    inst.suppressionLists = if inst.summaryOnlyAggregates.isEmpty then []
      else [suppressionList inst.vrf inst.summaryOnlyAggregates] := by
  have lines : (inst.aggregates.toList.filterMap fun (block, aggregate) =>
      if aggregate.summaryOnly then some (⟨.permit, .moreSpecificThan block⟩ : RouteFilterLine)
      else none) =
        inst.summaryOnlyAggregates.map fun block => ⟨.permit, .moreSpecificThan block⟩ := by
    rw [summaryOnlyAggregates_eq, List.map_map, ← List.filterMap_eq_map, List.filterMap_filter]
    rfl
  rw [suppressionLists, suppressionList, any_summaryOnly_values_aggregates, lines]
  cases inst.summaryOnlyAggregates.isEmpty <;> rfl

end BgpInstance

/-- The routes of the aggregates of an instance, with their VRF. -/
def BgpInstance.aggregateRoutes (inst : BgpInstance) (admin : UInt32) :
    List (String × GeneratedRoute) :=
  inst.aggregates.keys.map fun block => (inst.vrf, aggregateRoute inst.vrf admin block)

namespace Device

/-- The policies generated for a device. -/
def generatedPolicies (device : Device) : List RoutingPolicy :=
  device.activeInstances.flatMap (·.sharedPolicies device) ++
    device.peers.flatMap fun (inst, settings) => peerPolicies inst settings

/-- The names of the policies generated for a device. -/
def policyNames (device : Device) : List GeneratedName :=
  device.activeInstances.flatMap (·.policyNames) ++
    device.peers.flatMap fun (inst, settings) => peerPolicyNames inst settings

/-- The policies that a compiler makes of the route maps of a device. -/
def compiledPolicies (device : Device) (compile : RouteMapCompiler) : List RoutingPolicy :=
  device.routeMaps.values.filterMap fun map => (compile device map).2.toOption

theorem compiledPolicies_entrywiseCompiler (device : Device) :
    device.compiledPolicies entrywiseCompiler = device.routeMaps.values.map (·.policy device) :=
  congrFun List.filterMap_eq_map device.routeMaps.values

end Device

section Names

theorem BgpInstance.map_name_sharedPolicies (inst : BgpInstance) (device : Device) :
    (inst.sharedPolicies device).map (·.name) = inst.policyNames.map (·.text) := by
  rw [sharedPolicies, policyNames, List.map_append, List.map_append, List.map_map, List.map_map]
  rfl

theorem map_name_peerPolicies (inst : BgpInstance) (settings : NeighborSettings) :
    (peerPolicies inst settings).map (·.name) = (peerPolicyNames inst settings).map (·.text) := by
  have default_names : (defaultRoutePolicies inst settings).map (·.name) =
      (if settings.originatesDefault then [GeneratedName.defaultRoute .v4 inst.vrf settings.name]
        else []).map (·.text) := by
    rw [defaultRoutePolicies]
    split <;> rfl
  have import_names : (peerImportPolicy? inst settings).toList.map (·.name) =
      (if (settings.ipv4Setting (·.routeMapIn)).isSome then
        [GeneratedName.peerImport inst.vrf settings.name] else []).map (·.text) := by
    rw [peerImportPolicy?]
    cases settings.ipv4Setting (·.routeMapIn) <;> rfl
  rw [peerPolicies, peerPolicyNames, List.map_append, List.map_append, List.map_cons,
    List.map_cons, default_names, import_names]
  rfl

/-- The policies generated for a device have the names listed for it. -/
theorem Device.map_name_generatedPolicies (device : Device) :
    device.generatedPolicies.map (·.name) = device.policyNames.map (·.text) := by
  rw [generatedPolicies, policyNames, List.map_append, List.map_append]
  simp only [List.map_flatMap, BgpInstance.map_name_sharedPolicies, map_name_peerPolicies]

end Names
end NeutralRouting
