import NeutralRouting.Conversion.Basic
import NeutralRouting.Device

/-!
# Skeletons

What the protocols of a configuration build on: VRFs, interfaces, bridged segments, DNS servers
and match lists.
-/

namespace NeutralRouting

/-- Add a declared VRF.  The default VRF is there from the start. -/
def addDeclaredVrf (vrf : VrfDeclaration) : Conversion Unit :=
  if vrf.name = defaultVrfName then pure ()
  else Conversion.store (·.addVrf (.bare vrf.name))

/-- Add an interface of the device. -/
def addDeviceInterface (interface : DeviceInterface) : Conversion Unit := do
  if interface.vrfName ∉ (← Conversion.configuration).vrfs then
    Conversion.warn s!"Interface {interface.name} is in undefined vrf {interface.vrfName}"
  Conversion.store (·.addInterface
    (.ofAddresses interface.name interface.vrfName interface.addresses))

/-- Add the loopback if it is configured and no interface has its name. -/
def addLoopback (loopback : Loopback) : Conversion Unit := do
  if loopback.configured ∧ loopbackName ∉ (← Conversion.configuration).interfaces then
    Conversion.store (·.addInterface
      (.ofAddresses loopbackName defaultVrfName loopback.addresses))

/-- The bridged segment that ends at a VXLAN device.  A VNI that carries routed traffic is no
bridged segment. -/
def bridgedSegment? (device : Device) (vxlan : Vxlan) : Option Layer2Vni :=
  (vxlan.vni.filter fun vni => !device.vrfs.isRoutedVni vni).map fun vni =>
    ⟨vni, defaultVrfName, vxlan.localTunnelIp⟩

/-- Add a bridged segment to the default VRF. -/
def addBridgedSegment (segment : Layer2Vni) : Conversion Unit :=
  Conversion.store (·.updateVrf defaultVrfName fun vrf => (vrf.addLayer2Vni segment, .ok ()))

/-- Build VRFs, interfaces, bridged segments and DNS servers. -/
def buildSkeleton (device : Device) : Conversion Unit := do
  device.vrfs.all.forM addDeclaredVrf
  device.interfaces.values.forM addDeviceInterface
  addLoopback device.loopback
  (device.vxlans.values.filterMap (bridgedSegment? device)).forM addBridgedSegment
  Conversion.update fun configuration =>
    device.nameservers.foldl Configuration.addDnsServer configuration

/-- Add the match lists of the device. -/
def convertLists (device : Device) : Conversion Unit := do
  device.communityLists.values.forM fun list =>
    Conversion.store (·.addCommunityList list.toCommunityList)
  device.asPathLists.values.forM fun list =>
    Conversion.store (·.addAsPathAccessList list.toAccessList)
  device.prefixLists.values.forM fun list =>
    Conversion.store (·.addRouteFilterList list.toRouteFilterList)

end NeutralRouting
