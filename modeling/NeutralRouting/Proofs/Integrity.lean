import NeutralRouting.Proofs.Roles
import NeutralRouting.Proofs.UndefinedRouteMaps

/-!
# Integrity of references

Whatever an object of a result refers to by name is there, but for route maps of neighbors that the
device lacks, which are all reported.
-/

namespace NeutralRouting

open Std Conversion

/-- The policies that are named by routes and by peers of VRFs are registered. -/
structure Configuration.NamesPolicies (configuration : Configuration) : Prop where
  routes : ∀ (name : String) (vrf : Vrf), configuration.vrfs[name]? = some vrf →
    ∀ route ∈ vrf.generatedRoutes, ∀ policy ∈ route.generationPolicy,
      policy ∈ configuration.policies
  peerRoutes : ∀ name, ∀ process ∈ configuration.bgpProcess? name, ∀ peer ∈ process.peers,
    ∀ route ∈ peer.generatedRoutes, ∀ policy ∈ route.generationPolicy,
      policy ∈ configuration.policies
  ipv4Unicast : ∀ name, ∀ process ∈ configuration.bgpProcess? name, ∀ peer ∈ process.peers,
    ∀ family ∈ peer.ipv4Unicast, family.exportPolicy ∈ configuration.policies ∧
      ∀ policy ∈ family.importPolicy, policy ∈ configuration.policies
  evpn : ∀ name, ∀ process ∈ configuration.bgpProcess? name, ∀ peer ∈ process.peers,
    ∀ family ∈ peer.evpn, family.exportPolicy ∈ configuration.policies

section Objects

variable {device : Device} {params : ConversionParams} {progress : Progress}

/-- Routes generated for a peer are always active. -/
theorem generationPolicy_of_mem_peerGeneratedRoutes {settings : NeighborSettings}
    {route : GeneratedRoute}
    (member : route ∈ ExtTreeSet.ofList (peerGeneratedRoutes params settings)) :
    route.generationPolicy = none := by
  rw [ExtTreeSet.mem_ofList, List.contains_iff_mem, peerGeneratedRoutes] at member
  split at member
  · rw [List.mem_singleton.mp member]
  · cases member

/-- Peers come from instances of the device, so there are none without any. -/
theorem exists_explains_of_convert (keyed : device.Keyed)
    (converted : device.convert params entrywiseCompiler = .ok progress) {name : String}
    {process : BgpProcess} {peer : BgpPeer}
    (running : progress.configuration.bgpProcess? name = some process)
    (member : peer ∈ process.peers) :
    ∃ instances, progress.configuration.Explains device params instances name peer := by
  obtain ⟨id, found⟩ := BgpProcess.mem_peers_iff.mp member
  cases runs_bgp : device.bgp with
  | some instances =>
      have explains := (isResult_of_convert keyed converted).peers instances runs_bgp
      exact ⟨instances, (explains name process id peer running found).2⟩
  | none =>
      obtain ⟨listed, bgp, ospf, is_listed, bgp_run, ospf_run, maps_run⟩ :=
        exists_phases_of_convert keyed converted
      rw [convertBgp, runs_bgp] at bgp_run
      cases bgp_run
      rw [bgpProcess?_of_later_phases ospf_run maps_run] at running
      rw [is_listed.peerless name process running id] at found
      cases found

theorem namesPolicies_of_convert (keyed : device.Keyed)
    (converted : device.convert params entrywiseCompiler = .ok progress) :
    progress.configuration.NamesPolicies := by
  have exported : ∀ {inst settings}, progress.configuration.HasPeerPolicies inst settings →
      (peerExportPolicy inst settings).name ∈ progress.configuration.policies :=
    fun has => Table.mem_iff_getElem?_eq_some.mpr ⟨_, has.exported⟩
  refine ⟨?routes, ?peerRoutes, ?ipv4Unicast, ?evpn⟩
  case routes =>
    intro name vrf found route member policy names
    have listed := ((inventory_of_convert converted).1.routes name vrf found route).mp member
    obtain ⟨inst, active, own⟩ := List.mem_flatMap.mp listed
    obtain ⟨block, in_table, same⟩ := List.mem_map.mp own
    cases same
    cases names
    exact mem_policies_of_makes converted (.aggregate active (ExtTreeMap.mem_keys.mp in_table))
  case peerRoutes =>
    intro name process running peer member route generated policy names
    obtain ⟨instances, inst, neighbor, -, -, -, -, earlier, routerId, remoteAsns, made⟩ :=
      exists_explains_of_convert keyed converted running member
    rw [made] at generated
    rw [generationPolicy_of_mem_peerGeneratedRoutes generated] at names
    cases names
  case ipv4Unicast =>
    intro name process running peer member family activated
    obtain ⟨instances, inst, neighbor, -, -, -, has, earlier, routerId, remoteAsns, made⟩ :=
      exists_explains_of_convert keyed converted running member
    have own_family : ipv4UnicastFamily? inst (neighbor.resolve inst.neighbors).settings =
        some family := by
      rw [made] at activated
      exact activated
    rw [ipv4UnicastFamily?, Option.ite_none_right_eq_some] at own_family
    obtain ⟨-, same⟩ := own_family
    cases same
    refine ⟨exported has, fun policy names => ?_⟩
    obtain ⟨imported, used, rfl⟩ := Option.map_eq_some_iff.mp names
    exact Table.mem_iff_getElem?_eq_some.mpr ⟨imported, has.imported imported used⟩
  case evpn =>
    intro name process running peer member family activated
    obtain ⟨instances, inst, neighbor, -, -, -, has, earlier, routerId, remoteAsns, made⟩ :=
      exists_explains_of_convert keyed converted running member
    rw [made] at activated
    obtain ⟨activation, -, rfl⟩ := Option.map_eq_some_iff.mp activated
    exact exported has

end Objects

section References

variable {device : Device} {params : ConversionParams} {progress : Progress}
  {policy : RoutingPolicy} {reference : Reference}

/-- The reference is to a route map that a peer uses and that the device lacks. -/
def Device.Lacks (device : Device) (reference : Reference) : Prop :=
  ∃ map inst settings, reference = .policy map ∧ (inst, settings) ∈ device.peers ∧
    map ∈ device.undefinedRouteMaps settings

/-- The route maps of peers resolve unless the device lacks them. -/
theorem resolves_or_lacks_of_routeMap (keyed : device.Keyed)
    (converted : device.convert params entrywiseCompiler = .ok progress) {inst : BgpInstance}
    {settings : NeighborSettings} (attached : (inst, settings) ∈ device.peers) {map : String}
    (used : settings.ipv4Setting (·.routeMapOut) = some map ∨
      settings.ipv4Setting (·.routeMapIn) = some map) :
    progress.configuration.Resolves (.policy map) ∨ device.Lacks (.policy map) := by
  by_cases defined : map ∈ device.routeMaps
  · exact .inl (mem_policies_of_mem_routeMaps keyed converted defined)
  · exact .inr ⟨map, inst, settings, rfl, attached, mem_undefinedRouteMaps_iff.mpr ⟨used, defined⟩⟩

/-- The lists that summary-only aggregates stand for are registered. -/
theorem mem_routeFilterLists_of_active
    (converted : device.convert params entrywiseCompiler = .ok progress) {inst : BgpInstance}
    (active : inst ∈ device.activeInstances)
    (some_block : inst.summaryOnlyAggregates.isEmpty = false) :
    (GeneratedName.suppressed inst.vrf).text ∈ progress.configuration.routeFilterLists := by
  have listed : suppressionList inst.vrf inst.summaryOnlyAggregates ∈
      device.activeInstances.flatMap (·.suppressionLists) :=
    List.mem_flatMap.mpr ⟨inst, active, by simp [BgpInstance.suppressionLists_eq, some_block]⟩
  have found := (inventory_of_convert converted).1.lists.getElem? (List.mem_append_right _ listed)
  exact Table.mem_iff_getElem?_eq_some.mpr ⟨_, found⟩

/-- The match lists of a keyed device resolve. -/
theorem resolves_of_device_list (keyed : device.Keyed)
    (converted : device.convert params entrywiseCompiler = .ok progress)
    (defined : (∃ name, name ∈ device.prefixLists ∧ reference = .destinationList name) ∨
      (∃ name, name ∈ device.communityLists ∧ reference = .communityList name) ∨
      ∃ name, name ∈ device.asPathLists ∧ reference = .asPathList name) :
    progress.configuration.Resolves reference := by
  have lists := (isResult_of_convert keyed converted).lists
  rcases defined with ⟨name, member, rfl⟩ | ⟨name, member, rfl⟩ | ⟨name, member, rfl⟩
  · obtain ⟨list, found⟩ := Table.mem_iff_getElem?_eq_some.mp member
    exact Table.mem_iff_getElem?_eq_some.mpr ⟨_, lists.prefixLists name list found⟩
  · obtain ⟨list, found⟩ := Table.mem_iff_getElem?_eq_some.mp member
    exact Table.mem_iff_getElem?_eq_some.mpr ⟨_, lists.communityLists name list found⟩
  · obtain ⟨list, found⟩ := Table.mem_iff_getElem?_eq_some.mp member
    exact Table.mem_iff_getElem?_eq_some.mpr ⟨_, lists.asPathLists name list found⟩

/-- What a policy refers to is there, or it is a route map that a peer uses in vain. -/
theorem resolves_or_lacks_of_makes (keyed : device.Keyed)
    (converted : device.convert params entrywiseCompiler = .ok progress) {role : PolicyRole}
    (made : device.Makes role policy) (mentions : policy.Mentions reference) :
    progress.configuration.Resolves reference ∨ device.Lacks reference := by
  have resolves : ∀ {role : PolicyRole} {other : RoutingPolicy}, device.Makes role other →
      progress.configuration.Resolves (.policy other.name) :=
    fun other_made => mem_policies_of_makes converted other_made
  cases made with
  | routeMap member =>
      exact .inl (resolves_of_device_list keyed converted
        (RouteMap.exists_of_mentions_policy mentions))
  | aggregate active listed => exact absurd mentions (not_mentions_aggregatePolicy _ _)
  | defaultRoute attached originates =>
      exact absurd mentions (not_mentions_defaultRoutePolicy _ _)
  | commonExport active =>
      rcases cases_of_mentions_commonExportPolicy mentions with
        ⟨some_block, rfl⟩ | ⟨name, defined, rfl⟩
      · exact .inl (mem_routeFilterLists_of_active converted active some_block)
      · exact .inl (mem_policies_of_mem_routeMaps keyed converted defined)
  | peerExport attached =>
      rcases mentions_peerExportPolicy_iff.mp mentions with
        rfl | ⟨originates, rfl⟩ | ⟨map, used, rfl⟩
      · exact .inl (resolves (.commonExport (Device.mem_activeInstances_of_mem_peers attached)))
      · exact .inl (resolves (.defaultRoute attached originates))
      · exact resolves_or_lacks_of_routeMap keyed converted attached (.inl used)
  | peerImport attached used =>
      obtain ⟨map, own, rfl⟩ := (mentions_iff_of_peerImportPolicy? used).mp mentions
      exact resolves_or_lacks_of_routeMap keyed converted attached (.inr own)

end References

section Outcome

variable {device : Device} {params : ConversionParams} {progress : Progress}

/-- Every reference leads to a registered object of its kind, except for route maps that the device
lacks, and each use of these by a peer has its own warning. -/
theorem convert_references_resolve (keyed : device.Keyed)
    (converted : device.convert params entrywiseCompiler = .ok progress) :
    progress.configuration.NamesPolicies ∧
      (∀ (name : String) (policy : RoutingPolicy),
        progress.configuration.policies[name]? = some policy →
        ∀ reference, policy.Mentions reference → progress.configuration.Resolves reference ∨
          ∃ map inst settings, reference = .policy map ∧ (inst, settings) ∈ device.peers ∧
            (settings.ipv4Setting (·.routeMapOut) = some map ∨
              settings.ipv4Setting (·.routeMapIn) = some map) ∧ map ∉ device.routeMaps) ∧
      (progress.warnings.starting "Undefined route-map " =
        device.peers.flatMap fun (_, settings) =>
          (device.undefinedRouteMaps settings).map fun map =>
            s!"Undefined route-map {map} is used by BGP neighbor {settings.name}") ∧
      ∀ name ∈ progress.configuration.undefinedCalls, ∃ inst settings,
        (inst, settings) ∈ device.peers ∧ name ∈ device.undefinedRouteMaps settings ∧
          s!"Undefined route-map {name} is used by BGP neighbor {settings.name}" ∈
            progress.warnings.entries := by
  have reported := starting_of_convert converted
  have sound : ∀ (name : String) (policy : RoutingPolicy),
      progress.configuration.policies[name]? = some policy → ∀ reference,
        policy.Mentions reference →
          progress.configuration.Resolves reference ∨ device.Lacks reference := by
    intro name policy found reference mentions
    obtain ⟨⟨role, made⟩, -⟩ := (getElem?_policies_iff_makes converted).mp found
    exact resolves_or_lacks_of_makes keyed converted made mentions
  refine ⟨namesPolicies_of_convert keyed converted, ?_, reported, fun name member => ?_⟩
  · intro name policy found reference mentions
    refine (sound name policy found reference mentions).imp_right ?_
    rintro ⟨map, inst, settings, same, attached, lacking⟩
    exact ⟨map, inst, settings, same, attached, mem_undefinedRouteMaps_iff.mp lacking⟩
  · obtain ⟨⟨caller, policy, found, mentions⟩, undefined⟩ :=
      Configuration.mem_undefinedCalls_iff.mp member
    obtain ⟨map, inst, settings, same, attached, lacking⟩ :=
      (sound caller policy found _ mentions).resolve_left undefined
    cases same
    refine ⟨inst, settings, attached, lacking, ?_⟩
    have warned : undefinedRouteMapWarning name settings.name ∈
        progress.warnings.starting undefinedLabel := by
      rw [reported]
      exact List.mem_flatMap.mpr ⟨(inst, settings), attached, List.mem_map_of_mem lacking⟩
    exact (List.mem_filter.mp warned).1

end Outcome

/-- The border router without its route map. -/
def unmappedRouter : Device := { borderRouter with routeMaps := ∅ }

theorem unmappedRouter_keyed : unmappedRouter.Keyed :=
  { borderRouter_keyed with routeMaps := .empty }

/-- The route map that the neighbor uses both ways is reported twice, and nothing else dangles. -/
theorem convert_unmappedRouter_references :
    ∃ progress, unmappedRouter.convert .standard entrywiseCompiler = .ok progress ∧
      progress.configuration.NamesPolicies ∧
      progress.warnings.starting "Undefined route-map " =
        ["Undefined route-map internal is used by BGP neighbor 192.0.2.1",
          "Undefined route-map internal is used by BGP neighbor 192.0.2.1"] := by
  have succeeds : (unmappedRouter.convert .standard entrywiseCompiler).isOk = true := by
    decide +kernel
  cases converted : unmappedRouter.convert .standard entrywiseCompiler with
  | error cause =>
      rw [converted] at succeeds
      cases succeeds
  | ok progress =>
      obtain ⟨names, -, reported, -⟩ := convert_references_resolve unmappedRouter_keyed converted
      refine ⟨progress, rfl, names, reported.trans ?_⟩
      decide +kernel

end NeutralRouting
