import NeutralRouting.Bgp.Instance
import NeutralRouting.Filter.AttributeList
import NeutralRouting.Filter.PrefixList
import NeutralRouting.Ospf.Instance
import NeutralRouting.RouteMap.Basic
import NeutralRouting.VrfTable

/-!
# Devices

The routing configuration of a device as its operator wrote it.
-/

namespace NeutralRouting

open Std

/-- An interface of the device. -/
structure DeviceInterface where
  name : String
  /-- The VRF of the interface; the default one if unset. -/
  vrf : Option String
  addresses : List InterfaceAddress
  ospf : Option OspfOptions
deriving DecidableEq

/-- The VRF that an interface belongs to. -/
def DeviceInterface.vrfName (interface : DeviceInterface) : String :=
  interface.vrf.getD defaultVrfName

/-- The loopback interface, which every device has. -/
structure Loopback where
  configured : Bool
  addresses : List InterfaceAddress
  ospf : Option OspfOptions
deriving DecidableEq

/-- A loopback that is not configured. -/
def Loopback.unconfigured : Loopback := ⟨false, [], none⟩

/-- The name of the loopback interface. -/
def loopbackName : String := "lo"

/-- A VXLAN device, the end of the tunnels of a VNI. -/
structure Vxlan where
  name : String
  /-- The VNI, unless the device is only partly configured. -/
  vni : Option UInt32
  localTunnelIp : Option Address
deriving DecidableEq

/-- The routing configuration of a device.  The tables are keyed by the names that the rest of the
configuration uses. -/
structure Device where
  hostname : String
  bgp : Option BgpInstances
  ospf : Option OspfInstances
  vrfs : VrfTable
  interfaces : ExtTreeMap String DeviceInterface
  loopback : Loopback
  routeMaps : ExtTreeMap String RouteMap
  prefixLists : ExtTreeMap String PrefixList
  communityLists : ExtTreeMap String LiteralCommunityList
  asPathLists : ExtTreeMap String AsPathList
  vxlans : ExtTreeMap String Vxlan
  nameservers : List Address
deriving DecidableEq

namespace Device

/-- A device without routing. -/
def bare (hostname : String) : Device where
  hostname := hostname
  bgp := none
  ospf := none
  vrfs := .empty
  interfaces := ∅
  loopback := .unconfigured
  routeMaps := ∅
  prefixLists := ∅
  communityLists := ∅
  asPathLists := ∅
  vxlans := ∅
  nameservers := []

/-- The VRF of an interface that exists. -/
def interfaceVrf? (device : Device) (interface : String) : Option String :=
  device.interfaces[interface]?.map (·.vrfName)

/-- The router id of the processes that are given none: the greatest address of a configured
loopback outside 127.0.0.0/8, or else the greatest address of any interface, or else 0.0.0.0. -/
def routerId (device : Device) : Address :=
  let loopback := if device.loopback.configured then
    (device.loopback.addresses.filter fun address => !address.address.isInternal).max?
  else none
  let interface := (device.interfaces.values.flatMap (·.addresses)).max?
  ((loopback <|> interface).map (·.address)).getD .unspecified

end Device
end NeutralRouting
