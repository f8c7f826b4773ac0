import NeutralRouting.Net.Address
import Std.Data.ExtTreeMap

/-!
# OSPF as configured on the device

The OSPF instances of a device, one per VRF, and what its interfaces say about OSPF.
-/

namespace NeutralRouting

open Std

/-- The network types of OSPF interfaces. -/
inductive OspfNetwork where
  | broadcast
  | nonBroadcast
  | pointToPoint
  | pointToMultipoint
deriving DecidableEq, Inhabited

/-- The keyword of a network type. -/
def OspfNetwork.text : OspfNetwork → String
  | broadcast => "broadcast"
  | nonBroadcast => "non-broadcast"
  | pointToPoint => "point-to-point"
  | pointToMultipoint => "point-to-multipoint"

instance : ToString OspfNetwork := ⟨OspfNetwork.text⟩

/-- What an interface says about OSPF.  It runs OSPF only if it has an area. -/
structure OspfOptions where
  area : Option UInt32
  passive : Option Bool
  network : Option OspfNetwork
  deadInterval : Option UInt32
  helloInterval : Option UInt32
deriving DecidableEq

/-- The OSPF instance of a VRF. -/
structure OspfInstance where
  vrf : String
  routerId : Option Address
deriving DecidableEq

/-- The OSPF instances of a device. -/
structure OspfInstances where
  defaultVrf : OspfInstance
  vrfs : ExtTreeMap String OspfInstance
deriving DecidableEq

/-- The instances, that of the default VRF first. -/
def OspfInstances.all (instances : OspfInstances) : List OspfInstance :=
  instances.defaultVrf :: instances.vrfs.values

end NeutralRouting
