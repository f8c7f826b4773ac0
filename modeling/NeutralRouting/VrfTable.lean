import NeutralRouting.DeviceError
import Std.Data.ExtTreeMap

/-!
# VRFs of the device

The VRFs that a device declares, each with the VNI that carries its routed traffic, if any.
-/

namespace NeutralRouting

open Std

/-- A VRF as the device declares it. -/
structure VrfDeclaration where
  name : String
  /-- The VNI of the routed traffic of the VRF. -/
  vni : Option UInt32
deriving DecidableEq

/-- The declared VRFs, each name once. -/
structure VrfTable where
  vnis : ExtTreeMap String (Option UInt32)
deriving DecidableEq

namespace VrfTable

/-- No VRF is declared. -/
def empty : VrfTable := ⟨∅⟩

/-- Declare a VRF, unless its name is taken. -/
def add (table : VrfTable) (vrf : VrfDeclaration) : VrfTable × Except DeviceError Unit :=
  if vrf.name ∈ table.vnis then (table, .error (.duplicateVrf vrf.name))
  else (⟨table.vnis.insert vrf.name vrf.vni⟩, .ok ())

/-- The VRF declared under a name. -/
def lookup (table : VrfTable) (name : String) : Option VrfDeclaration :=
  table.vnis[name]?.map (⟨name, ·⟩)

/-- The declared VRFs, by name. -/
def all (table : VrfTable) : List VrfDeclaration :=
  table.vnis.toList.map fun (name, vni) => ⟨name, vni⟩

/-- The VRFs that have a VNI, by name. -/
def routed (table : VrfTable) : List VrfDeclaration := table.all.filter (·.vni.isSome)

/-- The VNI carries the routed traffic of some VRF. -/
def isRoutedVni (table : VrfTable) (vni : UInt32) : Bool := table.all.any (·.vni = some vni)

end VrfTable
end NeutralRouting
