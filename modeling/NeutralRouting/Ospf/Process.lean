import NeutralRouting.Net.Address
import Std.Data.ExtTreeMap

/-!
# OSPF processes

The OSPF process of a VRF, its areas, and the settings of the interfaces that run OSPF.
-/

namespace NeutralRouting

open Std

/-- How routers meet on the network of an interface. -/
inductive OspfNetworkType where
  | broadcast
  | pointToPoint
deriving DecidableEq, Inhabited

/-- The OSPF settings of an interface. -/
structure OspfSettings where
  /-- The network is announced but no neighbor is sought on it. -/
  passive : Bool
  area : UInt32
  networkType : Option OspfNetworkType
  /-- Seconds without a hello after which a neighbor is lost. -/
  deadInterval : UInt32
  /-- Seconds between two hellos. -/
  helloInterval : UInt32
  /-- The process the interface belongs to. -/
  process : String
deriving DecidableEq

/-- An OSPF area. -/
structure OspfArea where
  number : UInt32
  interfaces : ExtTreeSet String
deriving DecidableEq

/-- The OSPF process of a VRF. -/
structure OspfProcess where
  name : String
  routerId : Address
  /-- Reference bandwidth, in bits per second. -/
  referenceBandwidth : UInt64
  areas : ExtTreeMap UInt32 OspfArea
deriving DecidableEq

/-- Put an interface into an area, which is created when it is its first interface. -/
def OspfProcess.addInterface (process : OspfProcess) (area : UInt32) (interface : String) :
    OspfProcess :=
  let interfaces := (process.areas[area]?.map (·.interfaces)).getD ∅
  { process with areas := process.areas.insert area ⟨area, interfaces.insert interface⟩ }

end NeutralRouting
