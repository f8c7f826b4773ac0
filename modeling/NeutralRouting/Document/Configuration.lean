import NeutralRouting.Configuration
import NeutralRouting.Document.Policy

/-!
# Documents of configurations

A configuration is shown as a record whose tables are records of their own, under the keys of
their objects.
-/

namespace NeutralRouting

open Std

/-- The names of the OSPF network types. -/
def OspfNetworkType.documentNames : List (String × OspfNetworkType) :=
  [("Broadcast", .broadcast), ("PointToPoint", .pointToPoint)]

/-- The names of the multipath modes. -/
def MultipathMode.documentNames : List (String × MultipathMode) :=
  [("ExactPath", .exactPath), ("PathLength", .pathLength)]

namespace Document

/-- A line of a route filter list. -/
def routeFilterLine? (document : Document) : Option RouteFilterLine := do
  let fields ← document.fields?
  return ⟨← fields.required "action" action?, ← fields.required "range" range?⟩

/-- A line of a community list. -/
def communityLine? (document : Document) : Option CommunityLine := do
  let fields ← document.fields?
  return ⟨← fields.required "action" action?, ← fields.required "community" community?⟩

/-- A line of an AS-path access list. -/
def asPathAccessLine? (document : Document) : Option AsPathAccessLine := do
  let fields ← document.fields?
  return ⟨← fields.required "action" action?, ← fields.required "regex" string?⟩

/-- The identity of a peer. -/
def peerId? : Reader PeerId
  | record [("Address", peer)] => peer.address?.map .address
  | record [("Interface", name)] => name.string?.map .interface
  | _ => none

/-- The OSPF settings of an interface. -/
def ospfSettings? (document : Document) : Option OspfSettings := do
  let fields ← document.fields?
  return {
    passive := ← fields.required "passive" bool?
    area := ← fields.required "area" uint32?
    networkType := ← fields.optional "network_type" (named? OspfNetworkType.documentNames)
    deadInterval := ← fields.required "dead_interval" uint32?
    helloInterval := ← fields.required "hello_interval" uint32?
    process := ← fields.required "process" string? }

/-- A table with texts as keys. -/
def ofTable {α : Type} (write : α → Document) (table : ExtTreeMap String α) : Document :=
  record (table.toList.map fun (name, value) => (name, write value))

/-- A route filter list. -/
def ofRouteFilterList (filter : RouteFilterList) : Document :=
  record [("name", text filter.name),
    ("lines", ofList (fun line : RouteFilterLine =>
      record [("action", ofAction line.action), ("range", ofRange line.range)]) filter.lines)]

/-- The lines of a community list. -/
def ofCommunityLines (lines : List CommunityLine) : Document :=
  ofList (fun line : CommunityLine =>
    record [("action", ofAction line.action), ("community", ofCommunity line.community)]) lines

/-- A community list. -/
def ofCommunityList (filter : CommunityList) : Document :=
  record [("name", text filter.name), ("lines", ofCommunityLines filter.lines),
    ("invert_match", bool filter.invertMatch)]

/-- An AS-path access list. -/
def ofAsPathAccessList (filter : AsPathAccessList) : Document :=
  record [("name", text filter.name),
    ("lines", ofList (fun line : AsPathAccessLine =>
      record [("action", ofAction line.action), ("regex", text line.regex)]) filter.lines)]

/-- The OSPF settings of an interface. -/
def ofOspfSettings (settings : OspfSettings) : Document :=
  record [("passive", bool settings.passive), ("area", ofUInt32 settings.area),
    ("network_type", ofOption (ofNamed OspfNetworkType.documentNames) settings.networkType),
    ("dead_interval", ofUInt32 settings.deadInterval),
    ("hello_interval", ofUInt32 settings.helloInterval), ("process", text settings.process)]

/-- An interface. -/
def ofInterface (interface : Interface) : Document :=
  record [("name", text interface.name), ("vrf", text interface.vrf),
    ("primary", ofOption ofInterfaceAddress interface.primary),
    ("secondaries", ofList ofInterfaceAddress interface.secondaries),
    ("ospf", ofOption ofOspfSettings interface.ospf)]

/-- An OSPF area. -/
def ofOspfArea (area : OspfArea) : Document :=
  record [("number", ofUInt32 area.number), ("interfaces", ofList text area.interfaces.toList)]

/-- An OSPF process. -/
def ofOspfProcess (process : OspfProcess) : Document :=
  record [("process_id", text process.name), ("router_id", ofAddress process.routerId),
    ("reference_bandwidth", ofNat process.referenceBandwidth.toNat),
    ("areas", record (process.areas.toList.map fun (key, area) =>
      (toString key, ofOspfArea area)))]

/-- A generated route. -/
def ofGeneratedRoute (route : GeneratedRoute) : Document :=
  record [("network", text route.network.text), ("admin", ofUInt32 route.admin),
    ("discard", bool route.discard), ("generation_policy", ofOption text route.generationPolicy)]

/-- What is sent to and accepted from a peer. -/
def ofCapabilities (capabilities : Capabilities) : Document :=
  record [("send_community", bool capabilities.sendCommunity),
    ("send_extended_community", bool capabilities.sendExtendedCommunity),
    ("allow_local_as_in", bool capabilities.allowLocalAsIn)]

/-- An IPv4 unicast address family. -/
def ofIpv4UnicastFamily (family : Ipv4UnicastFamily) : Document :=
  record [("capabilities", ofCapabilities family.capabilities),
    ("export_policy", text family.exportPolicy),
    ("import_policy", ofOption text family.importPolicy),
    ("route_reflector_client", bool family.routeReflectorClient)]

/-- A route distinguisher. -/
def ofDistinguisher (distinguisher : RouteDistinguisher) : Document :=
  record [("ip", ofAddress distinguisher.address), ("index", ofNat distinguisher.index)]

/-- A route target. -/
def ofTarget (target : RouteTarget) : Document :=
  record [("asn", ofNat target.asn.toNat), ("value", ofUInt32 target.value)]

/-- A bridged segment announced to a peer. -/
def ofLayer2Entry (entry : Layer2Entry) : Document :=
  record [("vni", ofUInt32 entry.vni), ("vrf", text entry.vrf),
    ("rd", ofDistinguisher entry.distinguisher), ("rt", ofTarget entry.target)]

/-- A routed VRF announced to a peer. -/
def ofLayer3Entry (entry : Layer3Entry) : Document :=
  record [("vni", ofUInt32 entry.vni), ("vrf", text entry.vrf),
    ("rd", ofDistinguisher entry.distinguisher), ("rt", ofTarget entry.target),
    ("import_route_target", text entry.importPattern),
    ("advertise_v4_unicast", bool entry.advertiseIpv4)]

/-- An EVPN address family. -/
def ofEvpnFamily (family : EvpnFamily) : Document :=
  record [("l2_vnis", ofList ofLayer2Entry family.layer2.toList),
    ("l3_vnis", ofList ofLayer3Entry family.layer3.toList),
    ("propagate_unmatched", bool family.propagateUnmatched),
    ("capabilities", ofCapabilities family.capabilities),
    ("route_reflector_client", bool family.routeReflectorClient),
    ("export_policy", text family.exportPolicy)]

/-- The ranges of a space of AS numbers, each as its two ends. -/
def ofAsnSpace (space : AsnSpace) : Document :=
  ofList (fun range : AsnRange => list [ofUInt32 range.first, ofUInt32 range.last]) space.ranges

/-- The identity of a peer. -/
def ofPeerId : PeerId → Document
  | .address peer => tagged "Address" (ofAddress peer)
  | .interface name => tagged "Interface" (text name)

/-- A BGP peer. -/
def ofBgpPeer (peer : BgpPeer) : Document :=
  record [("id", ofPeerId peer.id), ("local_ip", ofOption ofAddress peer.localAddress),
    ("description", ofOption text peer.description), ("group", ofOption text peer.group),
    ("local_as", ofOption ofUInt32 peer.localAs), ("remote_asns", ofAsnSpace peer.remoteAsns),
    ("confederation", ofOption ofUInt32 peer.confederation),
    ("ebgp_multihop", bool peer.ebgpMultihop),
    ("generated_routes", ofList ofGeneratedRoute peer.generatedRoutes.toList),
    ("ipv4_unicast", ofOption ofIpv4UnicastFamily peer.ipv4Unicast),
    ("evpn", ofOption ofEvpnFamily peer.evpn)]

/-- A confederation. -/
def ofConfederation (confederation : Confederation) : Document :=
  record [("id", ofUInt32 confederation.id),
    ("members", ofList ofUInt32 confederation.members.toList)]

/-- A BGP process. -/
def ofBgpProcess (process : BgpProcess) : Document :=
  record [("router_id", ofAddress process.routerId), ("ebgp_admin", ofUInt32 process.ebgpAdmin),
    ("ibgp_admin", ofUInt32 process.ibgpAdmin), ("multipath_ebgp", bool process.multipathEbgp),
    ("multipath_ibgp", bool process.multipathIbgp),
    ("multipath_match_mode", ofNamed MultipathMode.documentNames process.multipathMode),
    ("confederation", ofOption ofConfederation process.confederation),
    ("origination_space", ofSpace process.originations),
    ("active_peers", record (process.activePeers.toList.map fun (address, peer) =>
      (address.text, ofBgpPeer peer))),
    ("interface_peers", ofTable ofBgpPeer process.interfacePeers)]

/-- A bridged segment. -/
def ofLayer2Vni (segment : Layer2Vni) : Document :=
  record [("vni", ofUInt32 segment.vni), ("vrf", text segment.vrf),
    ("source_address", ofOption ofAddress segment.sourceAddress)]

/-- The bridged segments of a VRF. -/
def ofLayer2Vnis (vrf : Vrf) : Document :=
  record (vrf.layer2Vnis.toList.map fun (vni, segment) => (toString vni, ofLayer2Vni segment))

/-- The generated routes of a VRF. -/
def ofGeneratedRoutes (vrf : Vrf) : Document :=
  ofList ofGeneratedRoute vrf.generatedRoutes.toList

/-- A VRF. -/
def ofVrf (vrf : Vrf) : Document :=
  record [("name", text vrf.name), ("bgp", ofOption ofBgpProcess vrf.bgp),
    ("ospf", ofOption ofOspfProcess vrf.ospf), ("generated_routes", ofGeneratedRoutes vrf),
    ("layer2_vnis", ofLayer2Vnis vrf)]

/-- A set of addresses. -/
def ofAddresses (addresses : ExtTreeSet Address) : Document := ofList ofAddress addresses.toList

/-- A configuration. -/
def ofConfiguration (configuration : Configuration) : Document :=
  record [("hostname", text configuration.hostname),
    ("vrfs", ofTable ofVrf configuration.vrfs),
    ("interfaces", ofTable ofInterface configuration.interfaces),
    ("routing_policies", ofTable ofPolicy configuration.policies),
    ("route_filter_lists", ofTable ofRouteFilterList configuration.routeFilterLists),
    ("community_lists", ofTable ofCommunityList configuration.communityLists),
    ("as_path_access_lists", ofTable ofAsPathAccessList configuration.asPathAccessLists),
    ("dns_servers", ofAddresses configuration.dnsServers)]

end Document
end NeutralRouting
