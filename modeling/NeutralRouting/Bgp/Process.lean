import NeutralRouting.Bgp.Peer
import NeutralRouting.Net.PrefixSpace
import NeutralRouting.StoreError
import Std.Data.ExtTreeMap

/-!
# BGP processes

The BGP process of a VRF.  Its peers are kept by address or by interface, and a second peer with
the same identity is refused.
-/

namespace NeutralRouting

open Std

/-- Which paths to a destination may share the traffic. -/
inductive MultipathMode where
  /-- The paths go through the same ASes. -/
  | exactPath
  /-- The paths go through the same number of ASes. -/
  | pathLength
deriving DecidableEq, Inhabited

/-- A confederation and the ASes it consists of. -/
structure Confederation where
  id : UInt32
  members : ExtTreeSet UInt32
deriving DecidableEq

/-- The BGP process of a VRF. -/
structure BgpProcess where
  routerId : Address
  /-- Administrative distance of routes from external peers. -/
  ebgpAdmin : UInt32
  /-- Administrative distance of routes from internal peers. -/
  ibgpAdmin : UInt32
  multipathEbgp : Bool
  multipathIbgp : Bool
  multipathMode : MultipathMode
  confederation : Option Confederation
  /-- The networks that the process originates. -/
  originations : PrefixSpace
  activePeers : ExtTreeMap Address BgpPeer
  interfacePeers : ExtTreeMap String BgpPeer
deriving DecidableEq

namespace BgpProcess

/-- A process without peers, networks or multipath. -/
def bare (routerId : Address) (ebgpAdmin ibgpAdmin : UInt32) : BgpProcess where
  routerId := routerId
  ebgpAdmin := ebgpAdmin
  ibgpAdmin := ibgpAdmin
  multipathEbgp := false
  multipathIbgp := false
  multipathMode := .exactPath
  confederation := none
  originations := .empty
  activePeers := ∅
  interfacePeers := ∅

/-- Originate one more network. -/
def originate (process : BgpProcess) (block : Prefix) : BgpProcess :=
  { process with originations := process.originations.addPrefix block }

/-- The peer with the given identity. -/
def peer? (process : BgpProcess) : PeerId → Option BgpPeer
  | .address peer => process.activePeers[peer]?
  | .interface name => process.interfacePeers[name]?

/-- Add a peer under its identity. -/
def addPeer (process : BgpProcess) (peer : BgpPeer) : Attempt BgpProcess :=
  if (process.peer? peer.id).isSome then
    (process, .error (.duplicateName .bgpPeer peer.id.text))
  else
    let added := match peer.id with
      | .address key => { process with activePeers := process.activePeers.insert key peer }
      | .interface key => { process with interfacePeers := process.interfacePeers.insert key peer }
    (added, .ok ())

/-- All peers: by address first, then by interface. -/
def peers (process : BgpProcess) : List BgpPeer :=
  process.activePeers.values ++ process.interfacePeers.values

end BgpProcess
end NeutralRouting
