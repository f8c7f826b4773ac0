import NeutralRouting.Bgp.Neighbor
import NeutralRouting.Configuration

/-!
# Local addresses of sessions

The local address of a session with an IP neighbor: the update source of the neighbor if it has
one that can be found, or else the first address of the VRF that shares a subnet with the peer.
-/

namespace NeutralRouting

/-- Why an update source gives no address. -/
inductive UpdateSourceFault where
  | noInterface (name : String)
  | noAddress (interface : String)
deriving DecidableEq, Inhabited

/-- The wording of each cause. -/
def UpdateSourceFault.message (neighbor : String) : UpdateSourceFault → String
  | noInterface name =>
    s!"Cannot find interface named {name} for update-source of BGP neighbor {neighbor}"
  | noAddress interface =>
    s!"Cannot find an address for interface named {interface} for update-source of BGP " ++
      s!"neighbor {neighbor}"

/-- The address of an update source; that of an interface is its primary address. -/
def UpdateSource.find (configuration : Configuration) :
    UpdateSource → Except UpdateSourceFault Address
  | address source => .ok source
  | interface name =>
    match configuration.interfaces[name]? with
    | none => .error (.noInterface name)
    | some found =>
      match found.primary with
      | none => .error (.noAddress name)
      | some primary => .ok primary.address

/-- The first address of a VRF, by interface, whose subnet holds the peer and which is not the
address of the peer itself. -/
def subnetAddress? (configuration : Configuration) (vrf : String) (peer : Address) :
    Option Address :=
  let candidates := (configuration.interfacesIn vrf).flatMap (·.addresses)
  let shared := candidates.find? fun candidate =>
    candidate.subnet.coversAddress peer && candidate.address ≠ peer
  shared.map (·.address)

/-- The local address of a session with an IP neighbor. -/
def localAddress? (configuration : Configuration) (vrf : String) (settings : NeighborSettings)
    (peer : Address) : Option Address :=
  (settings.updateSource >>= fun source => (source.find configuration).toOption) <|>
    subnetAddress? configuration vrf peer

/-- The complaint about an update source that gives no address. -/
def updateSourceWarnings (configuration : Configuration) (settings : NeighborSettings) :
    List String :=
  match settings.updateSource with
  | none => []
  | some source =>
    match source.find configuration with
    | .ok _ => []
    | .error fault => [fault.message settings.name]

end NeutralRouting
