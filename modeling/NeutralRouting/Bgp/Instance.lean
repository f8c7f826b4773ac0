import NeutralRouting.Bgp.Neighbor
import NeutralRouting.Interface
import NeutralRouting.Net.Prefix
import NeutralRouting.Protocol

/-!
# BGP as configured on the device

The BGP instances of a device, one per VRF.
-/

namespace NeutralRouting

open Std

/-- An aggregate of more specific networks. -/
structure Aggregate where
  /-- The more specific networks are not announced themselves. -/
  summaryOnly : Bool
deriving DecidableEq

/-- The aggregates of an instance. -/
abbrev AggregateTable := ExtTreeMap Prefix Aggregate

/-- The aggregates that stand for their more specific networks. -/
def AggregateTable.summaryOnly (aggregates : AggregateTable) : List Prefix :=
  (aggregates.toList.filter (·.2.summaryOnly)).map (·.1)

/-- What an instance does with IPv4 unicast routes. -/
structure InstanceIpv4Unicast where
  /-- The networks announced by the instance. -/
  networks : ExtTreeSet Prefix
  aggregates : AggregateTable
  /-- The sources whose routes are announced, with the route map they go through. -/
  redistribute : ExtTreeMap RedistributionSource (Option String)
deriving DecidableEq

/-- What an instance does with EVPN routes. -/
structure InstanceEvpn where
  advertiseAllVni : Bool
  advertiseIpv4 : Bool
deriving DecidableEq

/-- The BGP instance of a VRF. -/
structure BgpInstance where
  vrf : String
  routerId : Option Address
  asn : Option UInt32
  confederationId : Option UInt32
  /-- Paths of the same length may share the traffic. -/
  multipathRelax : Bool
  /-- Neighbors take part in IPv4 unicast unless they say otherwise. -/
  defaultIpv4Unicast : Bool
  ipv4Unicast : Option InstanceIpv4Unicast
  evpn : Option InstanceEvpn
  neighbors : NeighborTable
deriving DecidableEq

/-- The BGP instances of a device. -/
structure BgpInstances where
  defaultVrf : BgpInstance
  vrfs : ExtTreeMap String BgpInstance
deriving DecidableEq

namespace BgpInstances

/-- The instance of a VRF. -/
def find? (instances : BgpInstances) (vrf : String) : Option BgpInstance :=
  if vrf = defaultVrfName then some instances.defaultVrf else instances.vrfs[vrf]?

/-- The instances, that of the default VRF first. -/
def all (instances : BgpInstances) : List BgpInstance :=
  instances.defaultVrf :: instances.vrfs.values

end BgpInstances
end NeutralRouting
