import NeutralRouting.Bgp.Neighbor
import NeutralRouting.Document.Network

/-!
# Documents of BGP neighbors

A neighbor is a record of the settings it has.  A remote AS number is of the explicit type unless
the record says otherwise.
-/

namespace NeutralRouting

/-- The names of the types of remote AS. -/
def RemoteAsType.documentNames : List (String × RemoteAsType) :=
  [("explicit", .explicit), ("external", .external), ("internal", .internal)]

namespace Document

/-- An update source. -/
def updateSource? : Reader UpdateSource
  | record [("address", source)] => source.address?.map .address
  | record [("interface", name)] => name.string?.map .interface
  | _ => none

/-- Settings for IPv4 unicast routes. -/
def neighborIpv4Unicast? (document : Document) : Option NeighborIpv4Unicast := do
  let fields ← document.fieldsAmong? ["activated", "route_map_in", "route_map_out",
    "next_hop_self", "default_originate", "route_reflector_client", "allowas_in"]
  return {
    activated := ← fields.optional "activated" bool?
    routeMapIn := ← fields.optional "route_map_in" string?
    routeMapOut := ← fields.optional "route_map_out" string?
    nextHopSelf := ← fields.optional "next_hop_self" bool?
    defaultOriginate := ← fields.optional "default_originate" bool?
    routeReflectorClient := ← fields.optional "route_reflector_client" bool?
    allowAsIn := ← fields.optional "allowas_in" uint32? }

/-- Settings for EVPN routes. -/
def neighborEvpn? (document : Document) : Option NeighborEvpn := do
  let fields ← document.fieldsAmong? ["activated", "route_reflector_client"]
  return ⟨← fields.optional "activated" bool?, ← fields.optional "route_reflector_client" bool?⟩

/-- The type of the remote AS: the one given, or else explicit for a number that is not said to be
of unknown type. -/
def remoteAsType? (fields : Fields) (remoteAs : Option UInt32) :
    Option (Option RemoteAsType) := do
  let given ← fields.optional "remote_as_type" (named? RemoteAsType.documentNames)
  let untyped ← fields.optional "untyped" bool?
  let implied := if untyped.getD false then none else remoteAs.map fun _ => .explicit
  return given <|> implied

/-- The settings of a neighbor, whose address stands for a missing name.  Without an address a
missing name is empty. -/
def neighborSettings? (fields : Fields) (peer : Option Address) : Option NeighborSettings := do
  let name := ((← fields.optional "name" string?) <|> peer.map (·.text)).getD ""
  let remoteAs ← fields.optional "remote_as" uint32?
  return {
    name := name
    remoteAs := remoteAs
    remoteAsType := ← remoteAsType? fields remoteAs
    peerGroup := ← fields.optional "peer_group" string?
    description := ← fields.optional "description" string?
    ebgpMultihop := ← fields.optional "ebgp_multihop" uint8?
    updateSource := ← fields.optional "update_source" updateSource?
    ipv4Unicast := ← fields.optional "ipv4_unicast" neighborIpv4Unicast?
    evpn := ← fields.optional "l2vpn_evpn" neighborEvpn? }

/-- A neighbor, under its key or else its name. -/
def neighbor? (document : Document) : Option (String × Neighbor) := do
  let fields ← document.fieldsAmong? ["kind", "key", "name", "peer_ip", "remote_as", "untyped",
    "remote_as_type", "peer_group", "description", "ebgp_multihop", "update_source",
    "ipv4_unicast", "l2vpn_evpn"]
  let key ← fields.optional "key" string?
  let peer ← fields.optional "peer_ip" address?
  let neighbor ← match ← fields.required "kind" string? with
    | "interface" => (neighborSettings? fields none).map .interface
    | "peer_group" => (neighborSettings? fields none).map .peerGroup
    | "ip" => (neighborSettings? fields peer).map (.ip · peer)
    | _ => none
  return (key.getD neighbor.settings.name, neighbor)

/-- The settings of a neighbor on their own, apart from its kind and address: a missing name is
empty even if there is an address. -/
def ownSettings? (document : Document) : Option NeighborSettings := do
  let _ ← neighbor? document
  neighborSettings? (← document.fields?) none

/-- Neighbors under their keys; a later one replaces an earlier one with the same key. -/
def neighborTable (neighbors : List (String × Neighbor)) : NeighborTable :=
  neighbors.foldl (fun table (key, neighbor) => table.insert key neighbor) ∅

/-- Settings for IPv4 unicast routes, with null for those that are unset. -/
def ofNeighborIpv4Unicast (settings : NeighborIpv4Unicast) : Document :=
  record [("activated", ofOption bool settings.activated),
    ("route_map_in", ofOption text settings.routeMapIn),
    ("route_map_out", ofOption text settings.routeMapOut),
    ("next_hop_self", ofOption bool settings.nextHopSelf),
    ("default_originate", ofOption bool settings.defaultOriginate),
    ("route_reflector_client", ofOption bool settings.routeReflectorClient),
    ("allowas_in", ofOption ofUInt32 settings.allowAsIn)]

/-- Settings for EVPN routes, with null for those that are unset. -/
def ofNeighborEvpn (settings : NeighborEvpn) : Document :=
  record [("activated", ofOption bool settings.activated),
    ("route_reflector_client", ofOption bool settings.routeReflectorClient)]

/-- An update source. -/
def ofUpdateSource : UpdateSource → Document
  | .address source => tagged "address" (ofAddress source)
  | .interface name => tagged "interface" (text name)

/-- The settings of a neighbor, with null for those that are unset. -/
def ofNeighborSettings (settings : NeighborSettings) : Document :=
  record [("name", text settings.name), ("remote_as", ofOption ofUInt32 settings.remoteAs),
    ("remote_as_type", ofOption (ofNamed RemoteAsType.documentNames) settings.remoteAsType),
    ("peer_group", ofOption text settings.peerGroup),
    ("description", ofOption text settings.description),
    ("ebgp_multihop", ofOption (fun hops => ofNat hops.toNat) settings.ebgpMultihop),
    ("update_source", ofOption ofUpdateSource settings.updateSource),
    ("ipv4_unicast", ofOption ofNeighborIpv4Unicast settings.ipv4Unicast),
    ("l2vpn_evpn", ofOption ofNeighborEvpn settings.evpn)]

end Document
end NeutralRouting
