import NeutralRouting.Net.InterfaceAddress
import NeutralRouting.Ospf.Process

/-!
# Interfaces

A routed interface, the VRF it belongs to and its addresses.
-/

namespace NeutralRouting

/-- The VRF that every device has. -/
def defaultVrfName : String := "default"

/-- A routed interface. -/
structure Interface where
  name : String
  vrf : String
  /-- The address that the device uses as its own on this interface. -/
  primary : Option InterfaceAddress
  secondaries : List InterfaceAddress
  ospf : Option OspfSettings
deriving DecidableEq

namespace Interface

/-- An interface whose first address is the primary one. -/
def ofAddresses (name vrf : String) (addresses : List InterfaceAddress) : Interface :=
  ⟨name, vrf, addresses.head?, addresses.tail, none⟩

/-- The addresses of an interface, the primary one first. -/
def addresses (interface : Interface) : List InterfaceAddress :=
  interface.primary.toList ++ interface.secondaries

end Interface
end NeutralRouting
