import NeutralRouting.Proofs.Contents
import NeutralRouting.Proofs.GeneratedReferences

/-!
# Roles of policies

Every policy that a conversion registers is there for one purpose, which tells what it may refer to.
-/

namespace NeutralRouting

open Std Conversion

/-- What a policy is for. -/
inductive PolicyRole where
  | routeMap
  | aggregate
  | defaultRoute
  | commonExport
  | peerExport
  | peerImport
deriving DecidableEq

/-- The policies that are made of a device, by what they are for. -/
inductive Device.Makes (device : Device) : PolicyRole → RoutingPolicy → Prop
  | routeMap {map : RouteMap} : map ∈ device.routeMaps.values →
      device.Makes .routeMap (map.policy device)
  | aggregate {inst : BgpInstance} {block : Prefix} : inst ∈ device.activeInstances →
      block ∈ inst.aggregates → device.Makes .aggregate (aggregatePolicy inst.vrf block)
  | defaultRoute {inst : BgpInstance} {settings : NeighborSettings} :
      (inst, settings) ∈ device.peers → settings.originatesDefault = true →
      device.Makes .defaultRoute (defaultRoutePolicy inst.vrf settings.name)
  | commonExport {inst : BgpInstance} : inst ∈ device.activeInstances →
      device.Makes .commonExport (commonExportPolicy device inst inst.suppression?)
  | peerExport {inst : BgpInstance} {settings : NeighborSettings} :
      (inst, settings) ∈ device.peers → device.Makes .peerExport (peerExportPolicy inst settings)
  | peerImport {inst : BgpInstance} {settings : NeighborSettings} {policy : RoutingPolicy} :
      (inst, settings) ∈ device.peers → peerImportPolicy? inst settings = some policy →
      device.Makes .peerImport policy

namespace Device

variable {device : Device} {policy : RoutingPolicy}

theorem exists_makes_of_mem_shared
    (member : policy ∈ device.activeInstances.flatMap (·.sharedPolicies device)) :
    ∃ role, device.Makes role policy := by
  obtain ⟨inst, active, shared⟩ := List.mem_flatMap.mp member
  rcases List.mem_append.mp shared with aggregate | common
  · obtain ⟨block, listed, rfl⟩ := List.mem_map.mp aggregate
    exact ⟨_, .aggregate active (ExtTreeMap.mem_keys.mp listed)⟩
  · rw [List.mem_singleton.mp common]
    exact ⟨_, .commonExport active⟩

theorem exists_makes_of_mem_peerPolicies {inst : BgpInstance} {settings : NeighborSettings}
    (attached : (inst, settings) ∈ device.peers) (member : policy ∈ peerPolicies inst settings) :
    ∃ role, device.Makes role policy := by
  rcases List.mem_append.mp member with default_route | other
  · rw [defaultRoutePolicies] at default_route
    split at default_route
    · next originates =>
        rw [List.mem_singleton.mp default_route]
        exact ⟨_, .defaultRoute attached originates⟩
    · cases default_route
  · rcases List.mem_cons.mp other with rfl | imported
    · exact ⟨_, .peerExport attached⟩
    · exact ⟨_, .peerImport attached (Option.mem_toList.mp imported)⟩

/-- The policies listed for a device are those that are made of it. -/
theorem exists_makes_iff :
    (∃ role, device.Makes role policy) ↔
      policy ∈ device.generatedPolicies ++ device.routeMaps.values.map (·.policy device) := by
  rw [generatedPolicies, List.mem_append, List.mem_append]
  constructor
  · rintro ⟨role, made⟩
    cases made with
    | routeMap member => exact .inr (List.mem_map_of_mem member)
    | aggregate active listed =>
        refine .inl (.inl (List.mem_flatMap.mpr ⟨_, active, List.mem_append_left _ ?_⟩))
        exact List.mem_map_of_mem (ExtTreeMap.mem_keys.mpr listed)
    | commonExport active =>
        exact .inl (.inl (List.mem_flatMap.mpr ⟨_, active, by simp [BgpInstance.sharedPolicies]⟩))
    | defaultRoute attached originates =>
        refine .inl (.inr (List.mem_flatMap.mpr ⟨_, attached, ?_⟩))
        simp [peerPolicies, defaultRoutePolicies, originates]
    | peerExport attached =>
        exact .inl (.inr (List.mem_flatMap.mpr ⟨_, attached, by simp [peerPolicies]⟩))
    | peerImport attached used =>
        exact .inl (.inr (List.mem_flatMap.mpr ⟨_, attached, by simp [peerPolicies, used]⟩))
  · rintro ((shared | own) | compiled)
    · exact exists_makes_of_mem_shared shared
    · obtain ⟨⟨inst, settings⟩, attached, member⟩ := List.mem_flatMap.mp own
      exact exists_makes_of_mem_peerPolicies attached member
    · obtain ⟨map, member, rfl⟩ := List.mem_map.mp compiled
      exact ⟨_, .routeMap member⟩

/-- What is made of a device for any purpose but a route map has a generated name. -/
theorem Makes.exists_generatedName {role : PolicyRole} (made : device.Makes role policy)
    (other : role ≠ .routeMap) : ∃ name : GeneratedName, policy.name = name.text := by
  cases made with
  | routeMap member => exact absurd rfl other
  | aggregate active listed => exact ⟨.aggregate .v4 _ _, rfl⟩
  | defaultRoute attached originates => exact ⟨.defaultRoute .v4 _ _, rfl⟩
  | commonExport active => exact ⟨.commonExport _, rfl⟩
  | peerExport attached => exact ⟨.peerExport _ _, rfl⟩
  | peerImport attached used =>
      obtain ⟨routeMap, -, rfl⟩ := Option.map_eq_some_iff.mp used
      exact ⟨.peerImport _ _, rfl⟩

end Device

section Results

variable {device : Device} {params : ConversionParams} {progress : Progress}

/-- The policies of a result are those that are made of the device, each under its name. -/
theorem getElem?_policies_iff_makes
    (converted : device.convert params entrywiseCompiler = .ok progress) {name : String}
    {policy : RoutingPolicy} :
    progress.configuration.policies[name]? = some policy ↔
      (∃ role, device.Makes role policy) ∧ policy.name = name := by
  have inventory := (inventory_of_convert converted).1
  rw [device.compiledPolicies_entrywiseCompiler] at inventory
  rw [inventory.policies.getElem?_eq_some_iff, Device.exists_makes_iff]

theorem mem_policies_of_makes
    (converted : device.convert params entrywiseCompiler = .ok progress) {role : PolicyRole}
    {policy : RoutingPolicy} (made : device.Makes role policy) :
    policy.name ∈ progress.configuration.policies :=
  Table.mem_iff_getElem?_eq_some.mpr
    ⟨policy, (getElem?_policies_iff_makes converted).mpr ⟨⟨role, made⟩, rfl⟩⟩

/-- A route map of a keyed device is registered under the name that it is kept under. -/
theorem exists_makes_of_mem_routeMaps (keyed : device.Keyed) {name : String}
    (member : name ∈ device.routeMaps) :
    ∃ policy, device.Makes .routeMap policy ∧ policy.name = name := by
  obtain ⟨map, found⟩ := Table.mem_iff_getElem?_eq_some.mp member
  exact ⟨map.policy device, .routeMap (Table.mem_values_iff.mpr ⟨name, found⟩),
    keyed.routeMaps name map found⟩

theorem mem_policies_of_mem_routeMaps (keyed : device.Keyed)
    (converted : device.convert params entrywiseCompiler = .ok progress) {name : String}
    (member : name ∈ device.routeMaps) : name ∈ progress.configuration.policies := by
  obtain ⟨policy, made, rfl⟩ := exists_makes_of_mem_routeMaps keyed member
  exact mem_policies_of_makes converted made

end Results
end NeutralRouting
