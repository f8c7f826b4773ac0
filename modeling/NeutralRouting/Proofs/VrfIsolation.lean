import NeutralRouting.Proofs.InstanceChange
import NeutralRouting.Proofs.OspfAreas
import NeutralRouting.Proofs.VniAnnouncements

/-!
# Isolation of VRFs

What the BGP instance of one VRF says stays with this VRF.  The results for two devices that differ
in such an instance are compared level by level, from the announcements of VRFs up to whole
configurations.  Only two fields of the announcement of the VRF itself reach the peers of others.
-/

namespace NeutralRouting

open Std Conversion

/-- An announcement without what it takes from the instance of the given VRF. -/
def Layer3Entry.forget (name : String) (entry : Layer3Entry) : Layer3Entry :=
  if entry.vrf = name then
    { entry with
      distinguisher := { entry.distinguisher with address := .unspecified }
      advertiseIpv4 := false }
  else entry

/-- The address families are the same but for the two fields of the announcement of the VRF. -/
structure EvpnFamily.SameBut (name : String) (first second : EvpnFamily) : Prop where
  rest : { first with layer3 := ∅ } = { second with layer3 := ∅ }
  layer3 : (first.layer3.toList.map (·.forget name)).Perm
    (second.layer3.toList.map (·.forget name))

/-- The peers are the same but for the announcement of the VRF. -/
structure BgpPeer.SameBut (name : String) (first second : BgpPeer) : Prop where
  rest : { first with evpn := none } = { second with evpn := none }
  evpn : Option.Rel (EvpnFamily.SameBut name) first.evpn second.evpn

theorem BgpPeer.SameBut.id_eq {name : String} {first second : BgpPeer}
    (alike : first.SameBut name second) : first.id = second.id := by
  have same := congrArg BgpPeer.id alike.rest
  exact same

/-- The processes are the same but for the announcement of the VRF to their peers. -/
structure BgpProcess.SameBut (name : String) (first second : BgpProcess) : Prop where
  rest : first.withoutPeers = second.withoutPeers
  peers : ∀ id, Option.Rel (BgpPeer.SameBut name) (first.peer? id) (second.peer? id)

/-- The VRFs are the same but for the announcement of the given one. -/
structure Vrf.SameBut (name : String) (first second : Vrf) : Prop where
  rest : { first with bgp := none } = { second with bgp := none }
  bgp : Option.Rel (BgpProcess.SameBut name) first.bgp second.bgp

/-- The configurations are the same but for the VRF, its announcement, and the policies and the
route filter list that carry its name. -/
structure Configuration.SameBut (name : String) (first second : Configuration) : Prop where
  rest : { first with vrfs := ∅, policies := ∅, routeFilterLists := ∅ } =
    { second with vrfs := ∅, policies := ∅, routeFilterLists := ∅ }
  policies : ∀ key, (∀ generated : GeneratedName, generated.vrf = name → generated.text ≠ key) →
    first.policies[key]? = second.policies[key]?
  routeFilterLists : ∀ key, key ≠ (GeneratedName.suppressed name).text →
    first.routeFilterLists[key]? = second.routeFilterLists[key]?
  ospf : ∀ vrf, first.ospfProcess? vrf = second.ospfProcess? vrf
  vrfs : ∀ vrf, vrf ≠ name →
    Option.Rel (Vrf.SameBut name) first.vrfs[vrf]? second.vrfs[vrf]?

section Families

variable {name : String} {first second : Device} {params : ConversionParams}
  {before after : Configuration} {inst : BgpInstance} {settings : NeighborSettings}
  {routerId : Address} (alike : first.SameBut name second)
  (same_processes : ∀ vrf, vrf ≠ name → before.bgpProcess? vrf = after.bgpProcess? vrf)
include alike same_processes

/-- The announcement of a VRF takes two fields from its process and its instance. -/
theorem forget_layer3Announcement? (asn : UInt32) (vrf : VrfDeclaration) :
    (layer3Announcement? first before asn routerId vrf).map (·.forget name) =
      (layer3Announcement? second after asn routerId vrf).map (·.forget name) := by
  have same_index := alike.congr (·.vniIndex) fun _ _ => rfl
  rw [layer3Announcement?, layer3Announcement?, same_index]
  cases vrf.vni with
  | none => rfl
  | some vni =>
      simp only [Option.bind_eq_bind, Option.bind_some]
      cases first.vniIndex[vni]? with
      | none => rfl
      | some rank =>
          by_cases own : vrf.name = name
          · simp [Layer3Entry.forget, own]
          · rw [same_processes vrf.name own, alike.advertisesIpv4_eq own]

theorem sameBut_evpnFamily? (same_segments : bridgedVnis before inst = bridgedVnis after inst)
    (exportPolicy : String) :
    Option.Rel (EvpnFamily.SameBut name)
      (evpnFamily? first before inst settings routerId exportPolicy)
      (evpnFamily? second after inst settings routerId exportPolicy) := by
  have same_index := alike.congr (·.vniIndex) fun _ _ => rfl
  have same_vrfs := alike.congr (·.vrfs) fun _ _ => rfl
  rw [evpnFamily?, evpnFamily?, same_segments, same_index]
  cases evpnActivation? inst settings with
  | none => exact .none
  | some active =>
      obtain ⟨family, asn, own⟩ := active
      rw [Option.map_some, Option.map_some]
      refine .some ⟨rfl, ?_⟩
      have listed := (toList_layer3_perm first before asn routerId).map (·.forget name)
      have listed_too := (toList_layer3_perm second after asn routerId).map (·.forget name)
      refine (listed.trans (.of_eq ?_)).trans listed_too.symm
      rw [List.map_filterMap, List.map_filterMap, same_vrfs]
      exact List.filterMap_congr fun vrf _ =>
        forget_layer3Announcement? alike same_processes asn vrf

/-- A neighbor becomes the same peer. -/
theorem sameBut_attachedPeer? (other : inst.vrf ≠ name) (neighbor : Neighbor)
    (same_interfaces : before.interfaces = after.interfaces)
    (same_segments : bridgedVnis before inst = bridgedVnis after inst) :
    Option.Rel (BgpPeer.SameBut name) (attachedPeer? first params before inst neighbor)
      (attachedPeer? second params after inst neighbor) := by
  rw [attachedPeer?, attachedPeer?, same_processes inst.vrf other]
  cases after.bgpProcess? inst.vrf with
  | none => exact .none
  | some process =>
      simp only [Option.bind_eq_bind, Option.bind_some]
      cases (neighbor.resolve inst.neighbors).peerId? with
      | none => exact .none
      | some id =>
          simp only [Option.bind_some]
          cases ((neighbor.resolve inst.neighbors).settings.remoteAsns inst.asn).toOption with
          | none => exact .none
          | some remoteAsns =>
              refine .some ⟨?_, sameBut_evpnFamily? alike same_processes same_segments _⟩
              rw [instancePeer, instancePeer,
                Configuration.sessionAddress?_of_interfaces_eq same_interfaces]

/-- Every peer of another VRF has its counterpart. -/
theorem exists_sameBut_peer {instances others : BgpInstances} {vrf : String} {peer : BgpPeer}
    (same : instances.SameBut name others) (keyed : instances.Keyed) (other : vrf ≠ name)
    (same_interfaces : before.interfaces = after.interfaces)
    (same_segments : ∀ inst, bridgedVnis before inst = bridgedVnis after inst)
    (member : peer ∈ (instances.neighbors.filter (·.1.vrf = vrf)).filterMap fun pair =>
      attachedPeer? first params before pair.1 pair.2) :
    ∃ counterpart ∈ (others.neighbors.filter (·.1.vrf = vrf)).filterMap (fun pair =>
      attachedPeer? second params after pair.1 pair.2), peer.SameBut name counterpart := by
  obtain ⟨⟨inst, neighbor⟩, chosen, became⟩ := List.mem_filterMap.mp member
  obtain ⟨listed, own_vrf⟩ := List.mem_filter.mp chosen
  obtain rfl : inst.vrf = vrf := of_decide_eq_true own_vrf
  obtain ⟨counterpart, became_too, both⟩ := exists_of_rel (sameBut_attachedPeer? alike
    same_processes other neighbor same_interfaces (same_segments inst)) became
  refine ⟨counterpart, List.mem_filterMap.mpr ⟨(inst, neighbor), ?_, became_too⟩, both⟩
  exact List.mem_filter.mpr ⟨same.mem_neighbors keyed other listed, own_vrf⟩

end Families

/-- Processes whose peers are counterparts have counterparts under every identity. -/
theorem sameBut_of_hasPeers {name : String} {first second : BgpProcess}
    {peers others : List BgpPeer} (has : first.HasPeers peers) (has_too : second.HasPeers others)
    (rest : first.withoutPeers = second.withoutPeers)
    (forth : ∀ peer ∈ peers, ∃ counterpart ∈ others, peer.SameBut name counterpart)
    (back : ∀ peer ∈ others, ∃ counterpart ∈ peers, peer.SameBut name counterpart) :
    first.SameBut name second := by
  refine ⟨rest, fun id => rel_of_exists (fun peer found => ?_) fun peer found => ?_⟩
  · obtain ⟨member, rfl⟩ := (has.peer?_eq_some_iff id peer).mp found
    obtain ⟨counterpart, listed, both⟩ := forth peer member
    exact ⟨counterpart, (has_too.peer?_eq_some_iff _ _).mpr ⟨listed, both.id_eq.symm⟩, both⟩
  · obtain ⟨member, rfl⟩ := (has_too.peer?_eq_some_iff id peer).mp found
    obtain ⟨counterpart, listed, both⟩ := back peer member
    exact ⟨counterpart, (has.peer?_eq_some_iff _ _).mpr ⟨listed, both.id_eq.symm⟩⟩

section Processes

variable {name vrf : String} {first second : Device} {params : ConversionParams}
  {compile : RouteMapCompiler} {instances others : BgpInstances}
  {built attached result built_too attached_too result_too : Progress}
  (alike : first.SameBut name second) (same : instances.SameBut name others)
  (keyed : instances.Keyed) (keyed_too : others.Keyed) (not_default : name ≠ defaultVrfName)
  (attaches : first.Attaches params compile instances built attached result)
  (attaches_too : second.Attaches params compile others built_too attached_too result_too)
include alike attaches attaches_too

theorem same_interfaces_of_attaches :
    built.configuration.interfaces = built_too.configuration.interfaces := by
  have holds := attaches_too.skeleton.interfaces
  rw [alike.congr (·.routedInterfaces) fun _ _ => rfl] at holds
  exact attaches.skeleton.interfaces.unique holds

theorem same_bridgedVnis_of_attaches (inst : BgpInstance) :
    bridgedVnis built.configuration inst = bridgedVnis built_too.configuration inst := by
  have same_list := alike.congr (·.bridgedSegments) fun _ _ => rfl
  have same_vrfs : built.configuration.underlay.vrfs[inst.vrf]? =
      built_too.configuration.underlay.vrfs[inst.vrf]? := by
    apply Option.ext
    intro vrf
    rw [attaches.skeleton.vrfs, attaches_too.skeleton.vrfs, alike.hasVrf_iff, same_list]
  rw [← bridgedVnis_underlay, ← bridgedVnis_underlay built_too.configuration, bridgedVnis,
    bridgedVnis, same_vrfs]

include same keyed keyed_too not_default

theorem same_processes_of_attaches (other : vrf ≠ name) :
    built.configuration.bgpProcess? vrf = built_too.configuration.bgpProcess? vrf := by
  apply Option.ext
  intro process
  rw [attaches.running, attaches_too.running]
  exact ⟨alike.runs same keyed keyed_too not_default other,
    alike.symm.runs same.symm keyed_too keyed not_default other⟩

/-- The process of another VRF has its counterpart, with the same peers. -/
theorem exists_sameBut_process (other : vrf ≠ name) {process : BgpProcess}
    (running : result.configuration.bgpProcess? vrf = some process) :
    ∃ counterpart, result_too.configuration.bgpProcess? vrf = some counterpart ∧
      process.SameBut name counterpart := by
  have same_processes := fun vrf (other : vrf ≠ name) => same_processes_of_attaches alike same
    keyed keyed_too not_default attaches attaches_too other
  have same_interfaces := same_interfaces_of_attaches alike attaches attaches_too
  have same_segments := same_bridgedVnis_of_attaches alike attaches attaches_too
  rw [attaches.processes] at running
  obtain ⟨ground, ground_runs, rest, has⟩ :=
    hasPeers_of_bgpProcess? attaches.run attaches.running running
  have ground_running := (attaches.running vrf ground).mpr ground_runs
  rw [same_processes vrf other] at ground_running
  obtain ⟨counterpart, running_too, rest_too, has_too⟩ :=
    hasPeers_of_attachNeighbors attaches_too.run ground_running ground_runs.peer?_eq_none
  rw [attaches_too.processes]
  refine ⟨counterpart, running_too, sameBut_of_hasPeers has has_too (rest.trans rest_too.symm)
    (fun peer member => ?_) fun peer member => ?_⟩
  · exact exists_sameBut_peer alike same_processes same keyed other same_interfaces same_segments
      member
  · exact exists_sameBut_peer alike.symm (fun vrf other => (same_processes vrf other).symm)
      same.symm keyed_too other same_interfaces.symm (fun inst => (same_segments inst).symm) member

end Processes

section Convert

variable {name : String} {first second : Device} {params : ConversionParams}
  {compile : RouteMapCompiler} {progress result : Progress} (alike : first.SameBut name second)
include alike

/-- BGP has no part in the underlay, so the underlays are the same. -/
theorem same_underlay_of_convert (converted : first.convert params compile = .ok progress)
    (converted_too : second.convert params compile = .ok result) :
    progress.configuration.underlay = result.configuration.underlay := by
  obtain ⟨bgp, rfl⟩ : ∃ bgp, second = { first with bgp := bgp } := ⟨_, alike.eq⟩
  obtain ⟨skeleton, listed, skeleton_run, lists_run, -, same⟩ := underlay_of_convert converted
  obtain ⟨_, _, skeleton_again, lists_again, -, same_too⟩ := underlay_of_convert converted_too
  have same_skeleton := skeleton_run.symm.trans skeleton_again
  cases same_skeleton
  have same_lists := lists_run.symm.trans lists_again
  cases same_lists
  exact same.trans same_too.symm

variable (keyed : first.Keyed) (keyed_too : second.Keyed)
  (converted : first.convert params compile = .ok progress)
  (converted_too : second.convert params compile = .ok result)
include keyed keyed_too converted converted_too

theorem exists_process_of_convert (not_default : name ≠ defaultVrfName) {vrf : String}
    (other : vrf ≠ name) {process : BgpProcess}
    (running : progress.configuration.bgpProcess? vrf = some process) :
    ∃ counterpart, result.configuration.bgpProcess? vrf = some counterpart ∧
      process.SameBut name counterpart := by
  obtain ⟨instances, built, attached, runs_bgp, attaches⟩ :=
    exists_attaches_of_bgpProcess? converted running
  obtain ⟨others, runs_too, same⟩ := exists_of_rel alike.bgp runs_bgp
  obtain ⟨_, _, attaches_too⟩ := exists_attaches_of_convert converted_too runs_too
  exact exists_sameBut_process alike same (keyed.bgp instances runs_bgp)
    (keyed_too.bgp others runs_too) not_default attaches attaches_too other running

/-- Another VRF has its counterpart, which generates the same routes. -/
theorem exists_vrf_of_convert (not_default : name ≠ defaultVrfName) {key : String}
    (other : key ≠ name) {vrf : Vrf} (found : progress.configuration.vrfs[key]? = some vrf) :
    ∃ counterpart, result.configuration.vrfs[key]? = some counterpart ∧
      vrf.SameBut name counterpart := by
  obtain ⟨counterpart, found_too, same⟩ := Configuration.exists_vrf_of_underlay_eq
    (same_underlay_of_convert alike converted converted_too) found
  have routes := (inventory_of_convert converted).1.routes key vrf found
  have routes_too := (inventory_of_convert converted_too).1.routes key counterpart found_too
  have same_routes : vrf.generatedRoutes = counterpart.generatedRoutes := by
    refine ExtTreeSet.ext_mem fun route => ?_
    rw [routes, routes_too]
    exact ⟨alike.mem_aggregateRoutes keyed other, alike.symm.mem_aggregateRoutes keyed_too other⟩
  have running : progress.configuration.bgpProcess? key = vrf.bgp := by
    rw [Configuration.bgpProcess?, found]
    rfl
  have running_too : result.configuration.bgpProcess? key = counterpart.bgp := by
    rw [Configuration.bgpProcess?, found_too]
    rfl
  refine ⟨counterpart, found_too, ?rest, rel_of_exists (fun process own => ?forth)
    fun process own => ?back⟩
  case rest =>
    calc
      { vrf with bgp := none } = { vrf.underlay with generatedRoutes := vrf.generatedRoutes } := rfl
      _ = { counterpart.underlay with generatedRoutes := counterpart.generatedRoutes } := by
        rw [same, same_routes]
  case forth =>
    rw [← running_too]
    exact exists_process_of_convert alike keyed keyed_too converted converted_too not_default other
      (running.trans own)
  case back =>
    rw [← running]
    obtain ⟨earlier, running_earlier, -⟩ := exists_process_of_convert alike.symm keyed_too keyed
      converted_too converted not_default other (running_too.trans own)
    exact ⟨earlier, running_earlier⟩

end Convert

section Isolation

variable {name : String} {first second : Device} {params : ConversionParams}
  {progress result : Progress}

/-- What the BGP instance of a VRF other than the default one says reaches other VRFs only through
the way in which its VRF is announced to EVPN peers. -/
theorem convert_isolates_vrfs (alike : first.SameBut name second) (keyed : first.Keyed)
    (keyed_too : second.Keyed) (not_default : name ≠ defaultVrfName)
    (converted : first.convert params entrywiseCompiler = .ok progress)
    (converted_too : second.convert params entrywiseCompiler = .ok result) :
    progress.configuration.SameBut name result.configuration ∧
      ∀ generated : GeneratedName, ':' ∉ generated.vrf.toList → ':' ∉ name.toList →
        generated.vrf ≠ name → progress.configuration.policies[generated.text]? =
          result.configuration.policies[generated.text]? := by
  suffices same : progress.configuration.SameBut name result.configuration by
    refine ⟨same, fun generated free name_free other => same.policies _ ?_⟩
    rintro another rfl same_text
    rw [GeneratedName.eq_of_text_eq name_free free same_text] at other
    exact other rfl
  have underlay := same_underlay_of_convert alike converted converted_too
  obtain ⟨inventory, -⟩ := inventory_of_convert converted
  obtain ⟨inventory_too, -⟩ := inventory_of_convert converted_too
  refine ⟨?rest, fun key other => ?policies, fun key other => ?lists, fun vrf => ?ospf,
    fun vrf other => rel_of_exists (fun entry found => ?forth) fun entry found => ?back⟩
  case rest => exact congrArg (fun configuration : Configuration =>
    { configuration with vrfs := ∅, policies := ∅, routeFilterLists := ∅ }) underlay
  case policies =>
    have compiled := alike.congr (·.compiledPolicies entrywiseCompiler) fun _ _ => rfl
    refine inventory.policies.getElem?_eq_getElem? inventory_too.policies fun policy named => ?_
    subst named
    rw [List.mem_append, List.mem_append, compiled]
    exact or_congr_left ⟨alike.mem_generatedPolicies keyed other,
      alike.symm.mem_generatedPolicies keyed_too other⟩
  case lists =>
    have same_lists := alike.congr (·.prefixLists) fun _ _ => rfl
    refine inventory.lists.getElem?_eq_getElem? inventory_too.lists fun list named => ?_
    subst named
    rw [List.mem_append, List.mem_append, same_lists]
    exact or_congr_right ⟨alike.mem_suppressionLists keyed other,
      alike.symm.mem_suppressionLists keyed_too other⟩
  case ospf =>
    rw [← Configuration.ospfProcess?_underlay, underlay, Configuration.ospfProcess?_underlay]
  case forth =>
    exact exists_vrf_of_convert alike keyed keyed_too converted converted_too not_default other
      found
  case back =>
    obtain ⟨counterpart, found_too, -⟩ := exists_vrf_of_convert alike.symm keyed_too keyed
      converted_too converted not_default other found
    exact ⟨counterpart, found_too⟩

/-- An instance of the VRF `blue` with a router id of its own, a summary-only aggregate and the
neighbors of the default VRF.  It announces its IPv4 unicast routes. -/
def tenantInstance : BgpInstance :=
  { leafInstance with
    vrf := "blue"
    routerId := some (.ofOctets 10 1 0 1)
    ipv4Unicast := some {
      networks := ∅
      aggregates := (∅ : AggregateTable).insert internalNetwork ⟨true⟩
      redistribute := ∅ }
    evpn := some ⟨false, true⟩ }

/-- The leaf switch with an instance of the VRF `blue`. -/
def tenantSwitch : Device :=
  { leafSwitch with
    bgp := some ⟨leafInstance, (∅ : ExtTreeMap String BgpInstance).insert "blue" tenantInstance⟩ }

theorem tenantSwitch_keyed : tenantSwitch.Keyed :=
  { leafSwitch_keyed with
    bgp := by
      rintro instances same
      cases same
      refine ⟨Table.KeyedBy.empty.insert rfl, fun inst member => ?_⟩
      have listed : inst ∈ [leafInstance, tenantInstance] := by
        convert member using 1
        decide +kernel
      rcases List.mem_pair.mp listed with rfl | rfl <;> exact leafInstance_neighbors_keyed }

/-- The instance gives the VRF `blue` another router id, but the other VRF stays as it is. -/
theorem convert_tenantSwitch_isolated :
    ∃ progress result, leafSwitch.convert .standard entrywiseCompiler = .ok progress ∧
      tenantSwitch.convert .standard entrywiseCompiler = .ok result ∧
      (progress.configuration.bgpProcess? "blue").map (·.routerId) =
        some (.ofOctets 192 0 2 254) ∧
      (result.configuration.bgpProcess? "blue").map (·.routerId) = some (.ofOctets 10 1 0 1) ∧
      progress.configuration.SameBut "blue" result.configuration := by
  have routerId : (leafSwitch.convert .standard entrywiseCompiler).toOption.map
      (fun progress => (progress.configuration.bgpProcess? "blue").map (·.routerId)) =
        some (some (.ofOctets 192 0 2 254)) := by decide +kernel
  have routerId_too : (tenantSwitch.convert .standard entrywiseCompiler).toOption.map
      (fun progress => (progress.configuration.bgpProcess? "blue").map (·.routerId)) =
        some (some (.ofOctets 10 1 0 1)) := by decide +kernel
  obtain ⟨progress, converted, routerId⟩ := Option.map_eq_some_iff.mp routerId
  obtain ⟨result, converted_too, routerId_too⟩ := Option.map_eq_some_iff.mp routerId_too
  rw [toOption_eq_some_iff] at converted converted_too
  have alike : leafSwitch.SameBut "blue" tenantSwitch := by
    refine ⟨rfl, .some ⟨rfl, fun key other => ?_⟩⟩
    rw [ExtTreeMap.getElem?_insert, if_neg fun same => other (LawfulEqOrd.eq_of_compare same).symm]
    rfl
  exact ⟨progress, result, converted, converted_too, routerId, routerId_too,
    (convert_isolates_vrfs alike leafSwitch_keyed tenantSwitch_keyed (by decide) converted
      converted_too).1⟩

end Isolation
end NeutralRouting
