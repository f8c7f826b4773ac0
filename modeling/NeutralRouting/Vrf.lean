import NeutralRouting.Bgp.Process
import NeutralRouting.Ospf.Process

/-!
# VRFs

A routing instance of the device with its protocol processes.
-/

namespace NeutralRouting

open Std

/-- A routing instance. -/
structure Vrf where
  name : String
  bgp : Option BgpProcess
  ospf : Option OspfProcess
  generatedRoutes : ExtTreeSet GeneratedRoute
  /-- The bridged segments, by VNI. -/
  layer2Vnis : ExtTreeMap UInt32 Layer2Vni
deriving DecidableEq

namespace Vrf

/-- A VRF without processes or routes. -/
def bare (name : String) : Vrf := ⟨name, none, none, ∅, ∅⟩

/-- Generate one more route. -/
def addGeneratedRoute (vrf : Vrf) (route : GeneratedRoute) : Vrf :=
  { vrf with generatedRoutes := vrf.generatedRoutes.insert route }

/-- Add a bridged segment; an earlier one with the same VNI is replaced. -/
def addLayer2Vni (vrf : Vrf) (segment : Layer2Vni) : Vrf :=
  { vrf with layer2Vnis := vrf.layer2Vnis.insert segment.vni segment }

end Vrf
end NeutralRouting
