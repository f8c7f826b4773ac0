import NeutralRouting.Net.Address
import Std.Data.ExtTreeMap

/-!
# BGP neighbors

A neighbor of the device is reached by address or over an interface, or is a peer group: a set of
settings under a name, which the neighbors that name it take over where they set nothing
themselves.
-/

namespace NeutralRouting

open Std

/-- How the AS of a neighbor is given. -/
inductive RemoteAsType where
  /-- As a number. -/
  | explicit
  /-- Any AS but the local one. -/
  | external
  /-- The local AS. -/
  | internal
deriving DecidableEq, Inhabited

/-- Where the local address of a session is taken from. -/
inductive UpdateSource where
  | address (source : Address)
  | interface (name : String)
deriving DecidableEq

/-- Settings of a neighbor for IPv4 unicast routes. -/
structure NeighborIpv4Unicast where
  activated : Option Bool
  routeMapIn : Option String
  routeMapOut : Option String
  nextHopSelf : Option Bool
  defaultOriginate : Option Bool
  routeReflectorClient : Option Bool
  /-- How often the local AS may occur in the paths of the neighbor. -/
  allowAsIn : Option UInt32
deriving DecidableEq

/-- Nothing is set for IPv4 unicast. -/
def NeighborIpv4Unicast.unset : NeighborIpv4Unicast :=
  ⟨none, none, none, none, none, none, none⟩

/-- Settings of a neighbor for EVPN routes. -/
structure NeighborEvpn where
  activated : Option Bool
  routeReflectorClient : Option Bool
deriving DecidableEq

/-- The settings that every kind of neighbor has. -/
structure NeighborSettings where
  name : String
  remoteAs : Option UInt32
  remoteAsType : Option RemoteAsType
  peerGroup : Option String
  description : Option String
  /-- The greatest distance to an external neighbor, in hops. -/
  ebgpMultihop : Option UInt8
  updateSource : Option UpdateSource
  ipv4Unicast : Option NeighborIpv4Unicast
  evpn : Option NeighborEvpn
deriving DecidableEq

namespace NeighborSettings

/-- Nothing is set but the name. -/
def unset (name : String) : NeighborSettings :=
  ⟨name, none, none, none, none, none, none, none, none⟩

/-- The value of an IPv4 unicast setting. -/
def ipv4Setting {α : Type} (settings : NeighborSettings)
    (setting : NeighborIpv4Unicast → Option α) : Option α :=
  settings.ipv4Unicast >>= setting

/-- A default route is sent to the neighbor. -/
def originatesDefault (settings : NeighborSettings) : Bool :=
  (settings.ipv4Setting (·.defaultOriginate)).getD false

/-- The settings can make a peer: they say something about the AS of the neighbor. -/
def isValid (settings : NeighborSettings) : Bool :=
  settings.remoteAs.isSome || settings.remoteAsType.isSome

end NeighborSettings

/-- A BGP neighbor. -/
inductive Neighbor where
  /-- A neighbor on the interface it is named after. -/
  | interface (settings : NeighborSettings)
  /-- A neighbor with an address. -/
  | ip (settings : NeighborSettings) (peer : Option Address)
  /-- Settings for other neighbors, never a peer. -/
  | peerGroup (settings : NeighborSettings)
deriving DecidableEq

namespace Neighbor

/-- The settings of a neighbor of any kind. -/
def settings : Neighbor → NeighborSettings
  | interface settings => settings
  | ip settings _ => settings
  | peerGroup settings => settings

/-- The neighbor only serves others as a set of settings. -/
def isPeerGroup : Neighbor → Bool
  | peerGroup _ => true
  | _ => false

/-- The address of a neighbor that is configured with one. -/
def address? : Neighbor → Option Address
  | ip _ peer => peer
  | _ => none

end Neighbor

/-- The neighbors of an instance, by the key they are configured under. -/
abbrev NeighborTable := ExtTreeMap String Neighbor

end NeutralRouting
