import NeutralRouting.Conversion.Params
import NeutralRouting.Device
import NeutralRouting.Document.Neighbor
import NeutralRouting.Document.Policy

/-!
# Documents of devices

A device is a record of its parts.  Parts with names are listed, and go into their table one after
the other, under the name or, where the record has one, under a key of its own; a later part
replaces an earlier one with the same key.
-/

namespace NeutralRouting

open Std

/-- The keywords of the OSPF network types. -/
def OspfNetwork.documentNames : List (String × OspfNetwork) :=
  [OspfNetwork.broadcast, .nonBroadcast, .pointToPoint, .pointToMultipoint].map fun network =>
    (network.text, network)

/-- The keywords of the redistributed sources. -/
def RedistributionSource.documentNames : List (String × RedistributionSource) :=
  [RedistributionSource.connected, .kernel, .ospf, .static].map fun source =>
    (source.text, source)

namespace Document

/-- Keyed parts as a table. -/
def tableOf {κ α : Type} [Ord κ] [TransOrd κ] (parts : List (κ × α)) : ExtTreeMap κ α :=
  parts.foldl (fun table (key, part) => table.insert key part) ∅

/-- A part under its key or else its name. -/
def keyed? {α : Type} (fields : Fields) (name : String) (part : α) : Option (String × α) := do
  return ((← fields.optional "key" string?).getD name, part)

/-- Parts described in order, as a table. -/
def builtTable {α : Type} (parts : List (Built (String × α))) :
    Built (ExtTreeMap String α) :=
  (Built.all parts).map tableOf

/-- The declaration of a VRF. -/
def vrfDeclaration? (document : Document) : Option VrfDeclaration := do
  let fields ← document.fieldsAmong? ["name", "vni"]
  return ⟨← fields.string "name", ← fields.optional "vni" uint32?⟩

/-- What an interface says about OSPF. -/
def ospfOptions? (document : Document) : Option OspfOptions := do
  let fields ← document.fieldsAmong?
    ["area", "passive", "network", "dead_interval", "hello_interval"]
  return {
    area := ← fields.optional "area" uint32?
    passive := ← fields.optional "passive" bool?
    network := ← fields.optional "network" (named? OspfNetwork.documentNames)
    deadInterval := ← fields.optional "dead_interval" uint32?
    helloInterval := ← fields.optional "hello_interval" uint32? }

/-- An interface. -/
def deviceInterface? (document : Document) : Option (Built (String × DeviceInterface)) := do
  let fields ← document.fieldsAmong? ["key", "name", "vrf", "addresses", "ospf"]
  let name ← fields.string "name"
  let vrf ← fields.optional "vrf" string?
  let addresses ← fields.items "addresses" interfaceAddressText?
  let ospf ← fields.optional "ospf" ospfOptions?
  let (key, ()) ← keyed? fields name ()
  return (Built.all addresses).map fun addresses => (key, ⟨name, vrf, addresses, ospf⟩)

/-- The loopback, which is configured unless the record says otherwise. -/
def loopback? (document : Document) : Option (Built Loopback) := do
  let fields ← document.fieldsAmong? ["configured", "addresses", "ospf"]
  let configured ← fields.optional "configured" bool?
  let addresses ← fields.items "addresses" interfaceAddressText?
  let ospf ← fields.optional "ospf" ospfOptions?
  return (Built.all addresses).map fun addresses => ⟨configured.getD true, addresses, ospf⟩

/-- A line of a prefix list, with its number.  The lower bound is set before the upper one, unless
the record says otherwise. -/
def prefixListLine? (document : Document) : Option (Built (Option UInt32 × PrefixListLine)) := do
  let fields ← document.fieldsAmong? ["seq", "action", "prefix", "ge", "le", "le_first"]
  let seq ← fields.optional "seq" uint32?
  let action ← fields.required "action" action?
  let base ← ownPrefix? fields
  let lower ← fields.optional "ge" byte?
  let upper ← fields.optional "le" byte?
  let upperFirst ← fields.optional "le_first" bool?
  let setLower (line : PrefixListLine) := (lower.map line.atLeast).getD line
  let setUpper (line : PrefixListLine) := (upper.map line.atMost).getD line
  let setBounds := if upperFirst.getD false then setLower ∘ setUpper else setUpper ∘ setLower
  return base.map fun base => (seq, setBounds (.exact action base))

/-- A prefix list. -/
def prefixList? (document : Document) : Option (Built (String × PrefixList)) := do
  let fields ← document.fieldsAmong? ["key", "name", "lines"]
  let name ← fields.string "name"
  let lines ← fields.items "lines" prefixListLine?
  let (key, ()) ← keyed? fields name ()
  return do
    let list ← lines.foldlM (fun list line => do
      let (seq, line) ← line
      Built.ofDevice (list.addLine seq line)) (PrefixList.empty name)
    return (key, list)

/-- A community list. -/
def literalCommunityList? (document : Document) : Option (String × LiteralCommunityList) := do
  let fields ← document.fieldsAmong? ["key", "name", "action", "communities"]
  let name ← fields.string "name"
  keyed? fields name
    ⟨name, ← fields.required "action" action?, ← fields.items "communities" community?⟩

/-- A line of an AS-path list. -/
def asPathLine? (document : Document) : Option AsPathLine := do
  let fields ← document.fieldsAmong? ["action", "asn"]
  return ⟨← fields.required "action" action?, ← fields.required "asn" uint32?⟩

/-- An AS-path list. -/
def asPathList? (document : Document) : Option (String × AsPathList) := do
  let fields ← document.fieldsAmong? ["key", "name", "lines"]
  let name ← fields.string "name"
  keyed? fields name ⟨name, ← fields.items "lines" asPathLine?⟩

/-- A redistributed source. -/
def source? : Reader RedistributionSource := named? RedistributionSource.documentNames

/-- A test of a route map entry. -/
def routeMapTest? (document : Document) : Option RouteMapTest := do
  match ← document.field? with
  | ("prefix_list", name) => name.string?.map .prefixList
  | ("community_list", name) => name.string?.map .communityList
  | ("as_path_list", name) => name.string?.map .asPathList
  | ("tag", value) => value.uint32?.map .tag
  | ("source_protocol", origin) => (source? origin).map .source
  | _ => none

/-- A change made by a route map entry. -/
def routeMapSet? (document : Document) : Option RouteMapSet := do
  match ← document.field? with
  | ("tag", value) => value.uint32?.map .tag
  | ("metric", value) => value.uint32?.map .metric
  | ("weight", value) => value.uint32?.map .weight
  | ("local_preference", value) => value.uint32?.map .localPreference
  | ("community", values) =>
    (pair? (list? community?) bool? values).map fun (values, additive) =>
      .communities values additive
  | _ => none

/-- A route map entry, with its number. -/
def routeMapEntry? (document : Document) : Option (Option Nat × RouteMapEntry) := do
  let fields ← document.fieldsAmong? ["seq", "action", "matches", "sets"]
  let seq ← fields.optional "seq" natural?
  return (seq, {
    action := ← fields.required "action" action?
    tests := ← fields.items "matches" routeMapTest?
    sets := ← fields.items "sets" routeMapSet? })

/-- A route map. -/
def routeMap? (document : Document) : Option (Built (String × RouteMap)) := do
  let fields ← document.fieldsAmong? ["key", "name", "entries"]
  let name ← fields.string "name"
  let entries ← fields.items "entries" routeMapEntry?
  let (key, ()) ← keyed? fields name ()
  return do
    let map ← entries.foldlM (fun map (seq, entry) => Built.ofDevice (map.addEntry seq entry))
      (RouteMap.empty name)
    return (key, map)

/-- A VXLAN device. -/
def vxlan? (document : Document) : Option (String × Vxlan) := do
  let fields ← document.fieldsAmong? ["key", "name", "id", "local_tunnel_ip"]
  let name ← fields.string "name"
  keyed? fields name
    ⟨name, ← fields.optional "id" uint32?, ← fields.optional "local_tunnel_ip" address?⟩

/-- An aggregate, under its network. -/
def aggregate? (document : Document) : Option (Built (Prefix × Aggregate)) := do
  let fields ← document.fieldsAmong? ["prefix", "summary_only"]
  let block ← ownPrefix? fields
  let summaryOnly ← fields.flag "summary_only"
  return block.map fun block => (block, ⟨summaryOnly⟩)

/-- Aggregates described in order, as a table. -/
def aggregateTable (aggregates : List (Built (Prefix × Aggregate))) : Built AggregateTable :=
  (Built.all aggregates).map tableOf

/-- A redistribution, under its source. -/
def redistribution? (document : Document) :
    Option (RedistributionSource × Option String) := do
  let fields ← document.fieldsAmong? ["protocol", "route_map"]
  return (← fields.required "protocol" source?, ← fields.optional "route_map" string?)

/-- What an instance does with IPv4 unicast routes. -/
def instanceIpv4Unicast? (document : Document) : Option (Built InstanceIpv4Unicast) := do
  let fields ← document.fieldsAmong? ["networks", "aggregates", "redistribute"]
  let networks ← fields.items "networks" prefixText?
  let aggregates ← fields.items "aggregates" aggregate?
  let redistributions ← fields.items "redistribute" redistribution?
  return do
    let aggregates ← aggregateTable aggregates
    let networks ← Built.all networks
    return ⟨.ofList networks, aggregates, tableOf redistributions⟩

/-- What an instance does with EVPN routes. -/
def instanceEvpn? (document : Document) : Option InstanceEvpn := do
  let fields ← document.fieldsAmong? ["adv_all_vni", "adv_ipv4_unicast"]
  return ⟨← fields.flag "adv_all_vni", ← fields.flag "adv_ipv4_unicast"⟩

/-- A BGP instance, under its key or else the name of its VRF. -/
def bgpInstance? (document : Document) : Option (Built (String × BgpInstance)) := do
  let fields ← document.fieldsAmong? ["key", "vrf_name", "router_id", "asn", "confederation_id",
    "as_path_multipath_relax", "default_ipv4_unicast", "af_ipv4unicast", "af_l2vpnevpn",
    "neighbors"]
  let vrf ← fields.string "vrf_name"
  let (key, ()) ← keyed? fields vrf ()
  let ipv4Unicast ← fields.optional "af_ipv4unicast" instanceIpv4Unicast?
  let inst : BgpInstance := {
    vrf := vrf
    routerId := ← fields.optional "router_id" address?
    asn := ← fields.optional "asn" uint32?
    confederationId := ← fields.optional "confederation_id" uint32?
    multipathRelax := (← fields.optional "as_path_multipath_relax" bool?).getD false
    defaultIpv4Unicast := (← fields.optional "default_ipv4_unicast" bool?).getD true
    ipv4Unicast := none
    evpn := ← fields.optional "af_l2vpnevpn" instanceEvpn?
    neighbors := neighborTable (← fields.items "neighbors" neighbor?) }
  return (Built.optional ipv4Unicast).map fun ipv4Unicast =>
    (key, { inst with ipv4Unicast := ipv4Unicast })

/-- The BGP instances of a device. -/
def bgpInstances? (document : Document) : Option (Built BgpInstances) := do
  let fields ← document.fieldsAmong? ["default_vrf", "vrfs"]
  let defaultVrf ← fields.required "default_vrf" bgpInstance?
  let vrfs ← fields.items "vrfs" bgpInstance?
  return do
    let (_, defaultVrf) ← defaultVrf
    return ⟨defaultVrf, ← builtTable vrfs⟩

/-- An OSPF instance, under its key or else the name of its VRF. -/
def ospfInstance? (document : Document) : Option (String × OspfInstance) := do
  let fields ← document.fieldsAmong? ["key", "vrf_name", "router_id"]
  let vrf ← fields.string "vrf_name"
  keyed? fields vrf ⟨vrf, ← fields.optional "router_id" address?⟩

/-- The OSPF instances of a device. -/
def ospfInstances? (document : Document) : Option OspfInstances := do
  let fields ← document.fieldsAmong? ["default_vrf", "vrfs"]
  let (_, defaultVrf) ← fields.required "default_vrf" ospfInstance?
  return ⟨defaultVrf, tableOf (← fields.items "vrfs" ospfInstance?)⟩

/-- A device.  VRFs, interfaces, the loopback, prefix lists, route maps and BGP instances are
built in this order, and the first failure is that of the whole. -/
def device? (document : Document) : Option (Built Device) := do
  let fields ← document.fieldsAmong? ["hostname", "bgp", "ospf", "vrfs", "interfaces",
    "loopback", "route_maps", "prefix_lists", "community_lists", "as_path_lists", "vxlans",
    "nameservers"]
  let bgp ← fields.optional "bgp" bgpInstances?
  let vrfs ← fields.items "vrfs" vrfDeclaration?
  let interfaces ← fields.items "interfaces" deviceInterface?
  let loopback ← fields.optional "loopback" loopback?
  let routeMaps ← fields.items "route_maps" routeMap?
  let prefixLists ← fields.items "prefix_lists" prefixList?
  let device : Device := { Device.bare (← fields.string "hostname") with
    ospf := ← fields.optional "ospf" ospfInstances?
    communityLists := tableOf (← fields.items "community_lists" literalCommunityList?)
    asPathLists := tableOf (← fields.items "as_path_lists" asPathList?)
    vxlans := tableOf (← fields.items "vxlans" vxlan?)
    nameservers := ← fields.items "nameservers" address? }
  return do
    let vrfs ← vrfs.foldlM (fun table vrf => Built.ofDevice (table.add vrf)) VrfTable.empty
    let interfaces ← builtTable interfaces
    let loopback ← Built.optional loopback
    let prefixLists ← builtTable prefixLists
    let routeMaps ← builtTable routeMaps
    let bgp ← Built.optional bgp
    return { device with
      vrfs := vrfs
      interfaces := interfaces
      loopback := loopback.getD .unconfigured
      prefixLists := prefixLists
      routeMaps := routeMaps
      bgp := bgp }

/-- Conversion parameters; those that the record leaves out are the standard ones. -/
def params? (document : Document) : Option ConversionParams := do
  let fields ← document.fieldsAmong? ["ebgp_admin", "ibgp_admin", "aggregate_admin",
    "default_route_admin", "ospf_reference_bandwidth", "ospf_process"]
  let word (name : String) (standard : ConversionParams → UInt32) :=
    (fields.optional name uint32?).map (·.getD (standard .standard))
  let bandwidth ← fields.optional "ospf_reference_bandwidth" uint64?
  let process ← fields.optional "ospf_process" string?
  return {
    ebgpAdmin := ← word "ebgp_admin" (·.ebgpAdmin)
    ibgpAdmin := ← word "ibgp_admin" (·.ibgpAdmin)
    aggregateAdmin := ← word "aggregate_admin" (·.aggregateAdmin)
    defaultRouteAdmin := ← word "default_route_admin" (·.defaultRouteAdmin)
    ospfReferenceBandwidth := bandwidth.getD ConversionParams.standard.ospfReferenceBandwidth
    ospfProcess := process.getD ConversionParams.standard.ospfProcess }

end Document
end NeutralRouting
