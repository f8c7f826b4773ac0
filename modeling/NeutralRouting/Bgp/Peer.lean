import NeutralRouting.Bgp.AsnSpace
import NeutralRouting.Evpn.Vni
import NeutralRouting.GeneratedRoute

/-!
# BGP peers

A peer of a BGP process with its address families.
-/

namespace NeutralRouting

open Std

/-- What is sent to and accepted from a peer in an address family. -/
structure Capabilities where
  sendCommunity : Bool
  sendExtendedCommunity : Bool
  /-- Paths that already contain the local AS are accepted. -/
  allowLocalAsIn : Bool
deriving DecidableEq

/-- Communities of both kinds are sent. -/
def Capabilities.communities : Capabilities := ⟨true, true, false⟩

/-- The IPv4 unicast address family of a peer. -/
structure Ipv4UnicastFamily where
  capabilities : Capabilities
  exportPolicy : String
  /-- Without an import policy every route is accepted. -/
  importPolicy : Option String
  routeReflectorClient : Bool
deriving DecidableEq

/-- The EVPN address family of a peer. -/
structure EvpnFamily where
  layer2 : ExtTreeSet Layer2Entry
  layer3 : ExtTreeSet Layer3Entry
  /-- Routes that no VNI imports are passed on. -/
  propagateUnmatched : Bool
  capabilities : Capabilities
  routeReflectorClient : Bool
  exportPolicy : String
deriving DecidableEq

/-- How a peer is told apart from the others of its process. -/
inductive PeerId where
  /-- The address of the peer is known. -/
  | address (peer : Address)
  /-- The peer is whatever answers on the named interface. -/
  | interface (name : String)
deriving DecidableEq

/-- The address or the interface. -/
def PeerId.text : PeerId → String
  | .address peer => peer.text
  | .interface name => name

/-- A BGP peer. -/
structure BgpPeer where
  id : PeerId
  localAddress : Option Address
  description : Option String
  /-- The peer group the peer belongs to. -/
  group : Option String
  localAs : Option UInt32
  /-- The AS numbers that the peer may have. -/
  remoteAsns : AsnSpace
  confederation : Option UInt32
  ebgpMultihop : Bool
  generatedRoutes : ExtTreeSet GeneratedRoute
  ipv4Unicast : Option Ipv4UnicastFamily
  evpn : Option EvpnFamily
deriving DecidableEq

/-- A peer of which only the identity is known. -/
def BgpPeer.unconfigured (id : PeerId) : BgpPeer where
  id := id
  localAddress := none
  description := none
  group := none
  localAs := none
  remoteAsns := .empty
  confederation := none
  ebgpMultihop := false
  generatedRoutes := ∅
  ipv4Unicast := none
  evpn := none

end NeutralRouting
