import NeutralRouting.Conversion.Skeleton
import NeutralRouting.Proofs.Store
import NeutralRouting.Proofs.VrfTable

/-!
# What skeletons and match lists leave behind

On a device whose tables are keyed by the names of their objects the first two phases of a
conversion always succeed.  They leave the VRFs of the device without any process, and every match
list of the device under its name.
-/

namespace NeutralRouting

open Std

/-- Instances are kept under the names of their VRFs, and neighbors under their own names. -/
structure BgpInstances.Keyed (instances : BgpInstances) : Prop where
  vrfs : Table.KeyedBy (·.vrf) instances.vrfs
  neighbors : ∀ inst ∈ instances.all, Table.KeyedBy (·.settings.name) inst.neighbors

/-- Everything is kept under its own name. -/
structure Device.Keyed (device : Device) : Prop where
  bgp : ∀ instances, device.bgp = some instances → instances.Keyed
  ospf : ∀ instances, device.ospf = some instances → Table.KeyedBy (·.vrf) instances.vrfs
  interfaces : Table.KeyedBy (·.name) device.interfaces
  routeMaps : Table.KeyedBy (·.name) device.routeMaps
  prefixLists : Table.KeyedBy (·.name) device.prefixLists
  communityLists : Table.KeyedBy (·.name) device.communityLists
  asPathLists : Table.KeyedBy (·.name) device.asPathLists
  vxlans : Table.KeyedBy (·.name) device.vxlans

/-- The neighbor of a border router: it goes through the route map `internal` both ways and gets a
default route. -/
def borderNeighbor : NeighborSettings :=
  { NeighborSettings.unset "192.0.2.1" with
    remoteAs := some 65002
    remoteAsType := some .explicit
    ipv4Unicast := some { NeighborIpv4Unicast.unset with
      routeMapIn := some "internal"
      routeMapOut := some "internal"
      defaultOriginate := some true } }

/-- The network 10.0.0.0/8. -/
def internalNetwork : Prefix := .ofAddress (.ofOctets 10 0 0 0) 8 (by decide)

/-- The network 10.1.0.0/16, a part of it. -/
def announcedNetwork : Prefix := .ofAddress (.ofOctets 10 1 0 0) 16 (by decide)

/-- The instance of a border router, with a network, a summary-only aggregate of it and the static
routes that go through the route map `internal`. -/
def borderInstance : BgpInstance where
  vrf := defaultVrfName
  routerId := none
  asn := some 65001
  confederationId := none
  multipathRelax := false
  defaultIpv4Unicast := true
  ipv4Unicast := some {
    networks := (∅ : ExtTreeSet Prefix).insert announcedNetwork
    aggregates := (∅ : AggregateTable).insert internalNetwork ⟨true⟩
    redistribute :=
      (∅ : ExtTreeMap RedistributionSource (Option String)).insert .static (some "internal") }
  evpn := none
  neighbors := (∅ : NeighborTable).insert "192.0.2.1"
    (.ip borderNeighbor (some (.ofOctets 192 0 2 1)))

/-- A route map that permits internal networks.  Its first entry refers to a list that does not
exist. -/
def internalRouteMap : RouteMap where
  name := "internal"
  nextNumber := 30
  entries := ((∅ : ExtTreeMap Nat RouteMapEntry).insert 10
    ⟨.deny, [.prefixList "missing"], []⟩).insert 20
      ⟨.permit, [.prefixList "internal"], [.metric 50]⟩

/-- A device with one instance and one neighbor. -/
def borderRouter : Device :=
  { Device.bare "border" with
    bgp := some ⟨borderInstance, ∅⟩
    routeMaps := (∅ : ExtTreeMap String RouteMap).insert "internal" internalRouteMap
    prefixLists := (∅ : ExtTreeMap String PrefixList).insert "internal" ⟨"internal", 10,
      (∅ : ExtTreeMap UInt32 PrefixListLine).insert 5 ⟨.permit, internalNetwork, 8, 24⟩⟩ }

theorem borderRouter_keyed : borderRouter.Keyed where
  bgp := by
    rintro instances same
    cases same
    refine ⟨.empty, fun inst member => ?_⟩
    rcases List.mem_cons.mp member with rfl | other
    · exact Table.KeyedBy.empty.insert rfl
    · obtain ⟨key, present⟩ := Table.mem_values_iff.mp other
      cases present
  ospf := by
    rintro instances same
    cases same
  interfaces := .empty
  routeMaps := Table.KeyedBy.empty.insert rfl
  prefixLists := Table.KeyedBy.empty.insert rfl
  communityLists := .empty
  asPathLists := .empty
  vxlans := .empty

/-- The peer group of a leaf switch: neighbors of any AS but its own that take EVPN routes. -/
def spineGroup : NeighborSettings :=
  { NeighborSettings.unset "SPINE" with
    remoteAsType := some .external
    evpn := some ⟨some true, none⟩ }

/-- The instance of a leaf switch.  One neighbor belongs to the peer group, one has an address of
its own, and of one nothing is known. -/
def leafInstance : BgpInstance where
  vrf := defaultVrfName
  routerId := some (.ofOctets 192 0 2 254)
  asn := some 65001
  confederationId := none
  multipathRelax := true
  defaultIpv4Unicast := true
  ipv4Unicast := some {
    networks := (∅ : ExtTreeSet Prefix).insert announcedNetwork
    aggregates := ∅
    redistribute := ∅ }
  evpn := some ⟨true, false⟩
  neighbors := ((((∅ : NeighborTable).insert "SPINE" (.peerGroup spineGroup)).insert "swp1"
    (.interface { NeighborSettings.unset "swp1" with peerGroup := some "SPINE" })).insert
    "192.0.2.1" (.ip borderNeighbor (some (.ofOctets 192 0 2 1)))).insert
    "swp9" (.interface (.unset "swp9"))

/-- The only instance of a leaf switch. -/
def leafInstances : BgpInstances := ⟨leafInstance, ∅⟩

/-- A device with one instance, and with a VRF that runs no BGP of its own but has a VNI. -/
def leafSwitch : Device :=
  { Device.bare "leaf" with
    bgp := some leafInstances
    vrfs := ⟨(∅ : ExtTreeMap String (Option UInt32)).insert "blue" (some 4001)⟩
    vxlans := (∅ : ExtTreeMap String Vxlan).insert "vni4001" ⟨"vni4001", some 4001, none⟩ }

theorem leafInstance_neighbors_keyed :
    Table.KeyedBy (·.settings.name) leafInstance.neighbors := by
  refine Table.KeyedBy.insert ?_ rfl
  refine Table.KeyedBy.insert ?_ rfl
  refine Table.KeyedBy.insert ?_ rfl
  exact Table.KeyedBy.empty.insert rfl

theorem leafSwitch_keyed : leafSwitch.Keyed where
  bgp := by
    rintro instances same
    cases same
    refine ⟨.empty, fun inst member => ?_⟩
    rw [List.mem_singleton.mp (show inst ∈ [leafInstance] from member)]
    exact leafInstance_neighbors_keyed
  ospf := by
    rintro instances same
    cases same
  interfaces := .empty
  routeMaps := .empty
  prefixLists := .empty
  communityLists := .empty
  asPathLists := .empty
  vxlans := Table.KeyedBy.empty.insert rfl

/-- The VRF exists: it is the default one or declared. -/
def Device.HasVrf (device : Device) (vrf : String) : Prop :=
  vrf = defaultVrfName ∨ vrf ∈ device.vrfs.vnis

namespace Configuration

/-- No policy, no match list and no BGP process exists yet; the VRFs are the given ones. -/
structure Bare (configuration : Configuration) (present : String → Prop) : Prop where
  policies : configuration.policies = ∅
  routeFilterLists : configuration.routeFilterLists = ∅
  communityLists : configuration.communityLists = ∅
  asPathAccessLists : configuration.asPathAccessLists = ∅
  vrfs : ∀ name : String, name ∈ configuration.vrfs ↔ present name
  idle : ∀ (name : String) (vrf : Vrf), configuration.vrfs[name]? = some vrf → vrf.bgp = none

theorem bare_initial (hostname : String) : (initial hostname).Bare (· = defaultVrfName) where
  policies := rfl
  routeFilterLists := rfl
  communityLists := rfl
  asPathAccessLists := rfl
  vrfs name := by
    simp only [initial, ExtTreeMap.mem_insert, ExtTreeMap.not_mem_empty, or_false,
      LawfulEqOrd.compare_eq_iff_eq]
    exact eq_comm
  idle name vrf present := by
    simp only [initial, ExtTreeMap.getElem?_insert, ExtTreeMap.getElem?_empty] at present
    split at present
    · cases present
      rfl
    · cases present

namespace Bare

variable {configuration changed : Configuration} {present : String → Prop}

/-- Changes of interfaces and servers do not matter. -/
theorem set_others (bare : configuration.Bare present) (interfaces : ExtTreeMap String Interface)
    (dnsServers : ExtTreeSet Address) :
    { configuration with interfaces, dnsServers }.Bare present :=
  ⟨bare.policies, bare.routeFilterLists, bare.communityLists, bare.asPathAccessLists, bare.vrfs,
    bare.idle⟩

/-- A VRF without a process is put under a name. -/
theorem insert_vrf (bare : configuration.Bare present) (name : String) {vrf : Vrf}
    (idle : vrf.bgp = none) :
    { configuration with vrfs := configuration.vrfs.insert name vrf }.Bare
      fun other => other = name ∨ present other where
  policies := bare.policies
  routeFilterLists := bare.routeFilterLists
  communityLists := bare.communityLists
  asPathAccessLists := bare.asPathAccessLists
  vrfs other := by rw [ExtTreeMap.mem_insert, bare.vrfs, LawfulEqOrd.compare_eq_iff_eq, eq_comm]
  idle other found present := by
    simp only [ExtTreeMap.getElem?_insert] at present
    split at present
    · cases present
      exact idle
    · exact bare.idle other found present

theorem of_iff {other : String → Prop} (bare : configuration.Bare present)
    (same : ∀ name, present name ↔ other name) : configuration.Bare other :=
  { bare with vrfs := fun name => (bare.vrfs name).trans (same name) }

end Bare
end Configuration

open Conversion

section Skeleton

variable {device : Device} {progress : Progress}

theorem addDeclaredVrf_succeeds {vrf : VrfDeclaration} {present : String → Prop}
    (bare : progress.configuration.Bare present) (has_default : present defaultVrfName)
    (fresh : vrf.name = defaultVrfName ∨ ¬present vrf.name) :
    Succeeds (addDeclaredVrf vrf) progress fun _ after =>
      after.Bare (fun name => name = vrf.name ∨ present name) ∧
        after.interfaces = progress.configuration.interfaces := by
  rw [addDeclaredVrf]
  split
  · next is_default =>
      refine ⟨(), progress, rfl, bare.of_iff fun name => ?_, rfl⟩
      rw [is_default]
      constructor
      · exact .inr
      · rintro (rfl | held)
        · exact has_default
        · exact held
  · next other =>
      have absent : vrf.name ∉ progress.configuration.vrfs := by
        rw [bare.vrfs]
        exact fresh.resolve_left other
      apply Succeeds.imp (Configuration.vrfShelf.succeeds_add (.bare vrf.name) absent)
      rintro _ after rfl
      exact ⟨bare.insert_vrf vrf.name rfl, rfl⟩

theorem addDeclaredVrfs_succeeds (bare : progress.configuration.Bare (· = defaultVrfName)) :
    Succeeds (device.vrfs.all.forM addDeclaredVrf) progress fun _ after =>
      after.Bare device.HasVrf ∧ after.interfaces = progress.configuration.interfaces := by
  have distinct : (device.vrfs.all.map (·.name)).Nodup := by
    rw [VrfTable.map_name_all]
    exact ExtTreeMap.nodup_keys
  apply Succeeds.imp (Succeeds.forM (fun done after =>
    after.Bare (fun name => name = defaultVrfName ∨ name ∈ done.map (·.name)) ∧
      after.interfaces = progress.configuration.interfaces) ?each ?start)
  case each =>
    rintro done vrf rest split before ⟨bare, same⟩
    have fresh : vrf.name ∉ done.map (·.name) := not_mem_map_of_split distinct split
    apply Succeeds.imp (addDeclaredVrf_succeeds bare (.inl rfl) ?_)
    · rintro _ after ⟨more, kept⟩
      refine ⟨more.of_iff fun name => ?_, kept.trans same⟩
      rw [List.map_append, List.mem_append, List.map_singleton, List.mem_singleton]
      tauto
    · tauto
  case start =>
    exact ⟨bare.of_iff fun name => by simp, rfl⟩
  rintro _ after ⟨bare, same⟩
  refine ⟨bare.of_iff fun name => ?_, same⟩
  rw [VrfTable.map_name_all, ExtTreeMap.mem_keys]
  rfl

theorem addDeviceInterface_succeeds {interface : DeviceInterface}
    (fresh : interface.name ∉ progress.configuration.interfaces) :
    Succeeds (addDeviceInterface interface) progress fun _ after =>
      after = Configuration.interfaceShelf.put progress.configuration
        (.ofAddresses interface.name interface.vrfName interface.addresses) := by
  apply Succeeds.bind_of_ok (runFrom_configuration progress)
  let object := Interface.ofAddresses interface.name interface.vrfName interface.addresses
  split
  · apply Succeeds.bind_of_ok (runFrom_warn _ _)
    exact Configuration.interfaceShelf.succeeds_add object fresh
  · exact Configuration.interfaceShelf.succeeds_add object fresh

theorem addDeviceInterfaces_succeeds {present : String → Prop}
    (keyed : Table.KeyedBy (·.name) device.interfaces)
    (bare : progress.configuration.Bare present)
    (none_yet : progress.configuration.interfaces = ∅) :
    Succeeds (device.interfaces.values.forM addDeviceInterface) progress fun _ after =>
      after.Bare present := by
  have distinct := keyed.nodup
  apply Succeeds.imp (Succeeds.forM (fun done after =>
    after.Bare present ∧ ∀ name : String, name ∈ after.interfaces → name ∈ done.map (·.name))
    ?each ?start)
  case each =>
    rintro done interface rest split before ⟨bare, known⟩
    have fresh : interface.name ∉ before.configuration.interfaces := fun taken =>
      not_mem_map_of_split distinct split (known _ taken)
    apply Succeeds.imp (addDeviceInterface_succeeds fresh)
    rintro _ after rfl
    refine ⟨bare.set_others _ _, fun name member => ?_⟩
    change name ∈ before.configuration.interfaces.insert interface.name _ at member
    rw [ExtTreeMap.mem_insert, LawfulEqOrd.compare_eq_iff_eq] at member
    rw [List.map_append, List.mem_append, List.map_singleton, List.mem_singleton]
    rcases member with rfl | member
    · exact .inr rfl
    · exact .inl (known _ member)
  case start =>
    refine ⟨bare, fun name member => ?_⟩
    rw [none_yet] at member
    exact absurd member ExtTreeMap.not_mem_empty
  exact fun _ _ holds => holds.1

theorem addLoopback_succeeds {present : String → Prop} (loopback : Loopback)
    (bare : progress.configuration.Bare present) :
    Succeeds (addLoopback loopback) progress fun _ after => after.Bare present := by
  apply Succeeds.bind_of_ok (runFrom_configuration progress)
  split
  · next absent =>
      let object := Interface.ofAddresses loopbackName defaultVrfName loopback.addresses
      apply Succeeds.imp (Configuration.interfaceShelf.succeeds_add object absent.2)
      rintro _ after rfl
      exact bare.set_others _ _
  · exact ⟨(), progress, rfl, bare⟩

theorem addBridgedSegment_succeeds {present : String → Prop} (segment : Layer2Vni)
    (bare : progress.configuration.Bare present) (has_default : present defaultVrfName) :
    Succeeds (addBridgedSegment segment) progress fun _ after => after.Bare present := by
  obtain ⟨vrf, found⟩ := Table.mem_iff_getElem?_eq_some.mp ((bare.vrfs _).mpr has_default)
  have changed : progress.configuration.updateVrf defaultVrfName
      (fun vrf => (vrf.addLayer2Vni segment, .ok ())) = ({ progress.configuration with
        vrfs := progress.configuration.vrfs.insert defaultVrfName (vrf.addLayer2Vni segment) },
        .ok ()) := by
    rw [Configuration.updateVrf, found]
    rfl
  apply Succeeds.store changed
  have idle : (vrf.addLayer2Vni segment).bgp = none := bare.idle defaultVrfName vrf found
  apply (bare.insert_vrf defaultVrfName idle).of_iff
  intro name
  constructor
  · rintro (rfl | held)
    · exact has_default
    · exact held
  · exact .inr

theorem Configuration.Bare.addDnsServers {configuration : Configuration} {present : String → Prop}
    (servers : List Address) (bare : configuration.Bare present) :
    (servers.foldl Configuration.addDnsServer configuration).Bare present := by
  induction servers generalizing configuration with
  | nil => exact bare
  | cons server servers ih => exact ih (bare.set_others _ _)

/-- Building the skeleton of a device succeeds. -/
theorem buildSkeleton_succeeds (keyed : device.Keyed) :
    Succeeds (buildSkeleton device) ⟨.initial device.hostname, .empty⟩ fun _ after =>
      after.Bare device.HasVrf := by
  have has_default : device.HasVrf defaultVrfName := .inl rfl
  apply Succeeds.bind (addDeclaredVrfs_succeeds (Configuration.bare_initial device.hostname))
  rintro _ vrfs ⟨bare, none_yet⟩
  apply Succeeds.bind (addDeviceInterfaces_succeeds keyed.interfaces bare none_yet)
  intro _ interfaces bare
  apply Succeeds.bind (addLoopback_succeeds device.loopback bare)
  intro _ loopback bare
  apply Succeeds.bind (Succeeds.forM (fun _ after => after.Bare device.HasVrf) ?_ bare)
  · intro _ segments bare
    exact ⟨(), _, rfl, bare.addDnsServers device.nameservers⟩
  · intro _ segment _ _ before bare
    exact addBridgedSegment_succeeds segment bare has_default

end Skeleton

/-- Every match list of the device stands under its name. -/
structure Configuration.HasLists (configuration : Configuration) (device : Device) : Prop where
  prefixLists : ∀ (name : String) (list : PrefixList), device.prefixLists[name]? = some list →
    configuration.routeFilterLists[name]? = some list.toRouteFilterList
  communityLists : ∀ (name : String) (list : LiteralCommunityList),
    device.communityLists[name]? = some list →
    configuration.communityLists[name]? = some list.toCommunityList
  asPathLists : ∀ (name : String) (list : AsPathList), device.asPathLists[name]? = some list →
    configuration.asPathAccessLists[name]? = some list.toAccessList

section Lists

variable {device : Device} {progress : Progress}

/-- Match lists are converted without failure, and nothing else changes. -/
theorem convertLists_succeeds (keyed : device.Keyed)
    (no_prefix_lists : progress.configuration.routeFilterLists = ∅)
    (no_community_lists : progress.configuration.communityLists = ∅)
    (no_as_path_lists : progress.configuration.asPathAccessLists = ∅) :
    Succeeds (convertLists device) progress fun _ after =>
      after.HasLists device ∧
        (∀ name : String, name ∈ after.routeFilterLists → name ∈ device.prefixLists) ∧
        after.policies = progress.configuration.policies ∧
        after.vrfs = progress.configuration.vrfs := by
  apply Succeeds.bind (Configuration.communityShelf.succeeds_forM_add
    LiteralCommunityList.toCommunityList keyed.communityLists no_community_lists)
  rintro _ first ⟨communityLists, made, found_communities, -⟩
  have no_as_path_lists : first.configuration.asPathAccessLists = ∅ := by
    rw [made]
    exact no_as_path_lists
  apply Succeeds.bind (Configuration.asPathShelf.succeeds_forM_add
    AsPathList.toAccessList keyed.asPathLists no_as_path_lists)
  rintro _ second ⟨asPathLists, made_next, found_as_paths, -⟩
  rw [made] at made_next
  have no_prefix_lists : second.configuration.routeFilterLists = ∅ := by
    rw [made_next]
    exact no_prefix_lists
  apply Succeeds.imp (Configuration.routeFilterShelf.succeeds_forM_add
    PrefixList.toRouteFilterList keyed.prefixLists no_prefix_lists)
  rintro _ after ⟨prefixLists, rfl, found_prefixes, known⟩
  rw [made_next]
  exact ⟨⟨found_prefixes, found_communities, found_as_paths⟩, known, rfl, rfl⟩

/-- The VRFs and match lists of the device are all there is. -/
structure Configuration.IsListed (configuration : Configuration) (device : Device) : Prop where
  lists : configuration.HasLists device
  routeFilterLists : ∀ name : String, name ∈ configuration.routeFilterLists →
    name ∈ device.prefixLists
  policies : configuration.policies = ∅
  vrfs : ∀ name : String, name ∈ configuration.vrfs ↔ device.HasVrf name
  idle : ∀ (name : String) (vrf : Vrf), configuration.vrfs[name]? = some vrf → vrf.bgp = none

/-- The first two phases never fail, and leave what the others start from. -/
theorem exists_listed (keyed : device.Keyed) :
    ∃ listed : Progress, listed.configuration.IsListed device ∧ ∀ rest : Conversion Unit,
      (do
        buildSkeleton device
        convertLists device
        rest).runFrom ⟨.initial device.hostname, .empty⟩ = rest.runFrom listed := by
  obtain ⟨_, skeleton, skeleton_run, bare⟩ := buildSkeleton_succeeds keyed
  obtain ⟨_, listed, lists_run, lists, known, same_policies, same_vrfs⟩ := convertLists_succeeds
    keyed bare.routeFilterLists bare.communityLists bare.asPathAccessLists
  refine ⟨listed, ⟨lists, known, same_policies.trans bare.policies, ?_, ?_⟩, fun rest => ?_⟩
  · rw [same_vrfs]
    exact bare.vrfs
  · rw [same_vrfs]
    exact bare.idle
  · rw [runFrom_bind_of_ok _ skeleton_run, runFrom_bind_of_ok _ lists_run]

end Lists
end NeutralRouting
