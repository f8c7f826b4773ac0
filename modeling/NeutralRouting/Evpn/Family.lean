import NeutralRouting.Configuration
import NeutralRouting.Device

/-!
# EVPN address families

What a peer is told about the virtual networks of the device.  Every VNI has one index on the
whole device, its rank among the VNIs of the VXLAN devices, so its route distinguishers differ
from those of other VNIs.
-/

namespace NeutralRouting

open Std

/-- The VNIs of VXLAN devices, each with its rank in ascending order. -/
def vniIndex (vxlans : List Vxlan) : ExtTreeMap UInt32 Nat :=
  .ofList (ExtTreeSet.ofList (vxlans.filterMap (·.vni))).toList.zipIdx

/-- The index of the VNIs of a device. -/
def Device.vniIndex (device : Device) : ExtTreeMap UInt32 Nat :=
  NeutralRouting.vniIndex device.vxlans.values

/-- The bridged segments of the VRF of an instance. -/
def bridgedVnis (configuration : Configuration) (inst : BgpInstance) : List UInt32 :=
  match configuration.vrfs[inst.vrf]? with
  | none => []
  | some vrf => vrf.layer2Vnis.keys

/-- The announcement of a bridged segment, if its VNI has an index. -/
def layer2Announcement? (index : ExtTreeMap UInt32 Nat) (inst : BgpInstance) (asn : UInt32)
    (routerId : Address) (vni : UInt32) : Option Layer2Entry :=
  index[vni]?.map fun rank => ⟨vni, inst.vrf, ⟨routerId, rank⟩, .ofVni asn vni⟩

/-- The instance of a VRF announces the IPv4 unicast routes of the VRF to EVPN peers. -/
def Device.advertisesIpv4 (device : Device) (vrf : String) : Bool :=
  match device.bgp >>= (·.find? vrf) >>= (·.evpn) with
  | none => false
  | some evpn => evpn.advertiseIpv4

/-- The announcement of a routed VRF, if its VNI has an index.  The distinguisher has the router
id of the BGP process of the VRF, or else the given one. -/
def layer3Announcement? (device : Device) (configuration : Configuration) (asn : UInt32)
    (routerId : Address) (vrf : VrfDeclaration) : Option Layer3Entry := do
  let vni ← vrf.vni
  let rank ← device.vniIndex[vni]?
  let address := ((configuration.bgpProcess? vrf.name).map (·.routerId)).getD routerId
  return {
    vni := vni
    vrf := vrf.name
    distinguisher := ⟨address, rank⟩
    target := .ofVni asn vni
    importPattern := RouteTarget.importPattern vni
    advertiseIpv4 := device.advertisesIpv4 vrf.name }

/-- An instance and a neighbor for which there is an EVPN address family: the instance has one and
an AS number, and the neighbor activates it. -/
def evpnActivation? (inst : BgpInstance) (settings : NeighborSettings) :
    Option (InstanceEvpn × UInt32 × NeighborEvpn) := do
  let family ← inst.evpn
  let asn ← inst.asn
  let own ← settings.evpn
  if own.activated.getD false then some (family, asn, own) else none

/-- The EVPN address family of a peer.  Bridged segments are announced if the instance announces
all VNIs; routed VRFs are announced whether they run BGP or not. -/
def evpnFamily? (device : Device) (configuration : Configuration) (inst : BgpInstance)
    (settings : NeighborSettings) (routerId : Address) (exportPolicy : String) :
    Option EvpnFamily :=
  (evpnActivation? inst settings).map fun (family, asn, own) =>
    { layer2 :=
        if family.advertiseAllVni then
          .ofList ((bridgedVnis configuration inst).filterMap
            (layer2Announcement? device.vniIndex inst asn routerId))
        else ∅
      layer3 :=
        .ofList (device.vrfs.routed.filterMap
          (layer3Announcement? device configuration asn routerId))
      propagateUnmatched := true
      capabilities := .communities
      routeReflectorClient := own.routeReflectorClient.getD false
      exportPolicy := exportPolicy }

/-- The complaint about a bridged segment whose VNI has no VXLAN device. -/
def layer2Warning? (device : Device) (vni : UInt32) : Option String :=
  if vni ∈ device.vniIndex then none
  else some s!"Skipping L2 VNI {vni}: no VXLAN device has that id"

/-- The complaint about a routed VRF whose VNI has no VXLAN device. -/
def layer3Warning? (device : Device) (vrf : VrfDeclaration) : Option String :=
  (vrf.vni.filter (· ∉ device.vniIndex)).map fun vni =>
    s!"Skipping L3 VNI {vni} of vrf {vrf.name}: no VXLAN device has that id"

/-- The complaints about VNIs that the EVPN address family of a peer leaves out. -/
def evpnWarnings (device : Device) (configuration : Configuration) (inst : BgpInstance)
    (settings : NeighborSettings) : List String :=
  match evpnActivation? inst settings with
  | none => []
  | some (family, _, _) =>
    (if family.advertiseAllVni then
      (bridgedVnis configuration inst).filterMap (layer2Warning? device)
    else []) ++ device.vrfs.routed.filterMap (layer3Warning? device)

end NeutralRouting
