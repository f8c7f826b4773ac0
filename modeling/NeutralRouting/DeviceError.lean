/-!
# Refused declarations

The parts of a device configuration that cannot stand beside what is already declared.
-/

namespace NeutralRouting

/-- Lists whose lines carry numbers. -/
inductive NumberedList where
  | prefixList
  | routeMap
deriving DecidableEq, Inhabited

/-- The words for a kind of numbered lists. -/
def NumberedList.text : NumberedList → String
  | prefixList => "prefix list"
  | routeMap => "route map"

instance : ToString NumberedList := ⟨NumberedList.text⟩

/-- Why a declaration was refused. -/
inductive DeviceError where
  /-- The VRF is declared already. -/
  | duplicateVrf (name : String)
  /-- The list has a line of that number already. -/
  | duplicateNumber (kind : NumberedList) (name : String) (number : Nat)
deriving DecidableEq, Inhabited

/-- The wording of each cause. -/
def DeviceError.message : DeviceError → String
  | duplicateVrf name => s!"A VRF named '{name}' already exists"
  | duplicateNumber kind name number => s!"Duplicate seq {number} in {kind} {name}"

end NeutralRouting
