import NeutralRouting.Bgp.AsnSpace
import NeutralRouting.Bgp.InstanceProcess
import NeutralRouting.Bgp.LocalAddress
import NeutralRouting.Bgp.PeerGroup
import NeutralRouting.Bgp.PeerPolicy
import NeutralRouting.Evpn.Family

/-!
# Attaching peers

The neighbors of an instance, with what they inherit from their peer groups, become peers of the
process of its VRF.  All processes exist by then, since a peer may announce other VRFs.
-/

namespace NeutralRouting

/-- The local address of sessions over an interface, 169.254.0.1. -/
def unnumberedAddress : Address := .ofOctets 169 254 0 1

/-- The identity of the peer that a neighbor becomes, if it is validly configured. -/
def Neighbor.peerId? : Neighbor → Option PeerId
  | interface settings => if settings.isValid then some (.interface settings.name) else none
  | ip settings peer => if settings.isValid then peer.map .address else none
  | peerGroup _ => none

/-- The AS numbers that a neighbor may have.  Without a local AS number the words external and
internal leave nothing; with one, an AS number of unknown type is an error. -/
def NeighborSettings.remoteAsns (settings : NeighborSettings) (localAs : Option UInt32) :
    Except ConversionError AsnSpace :=
  match settings.remoteAsType, localAs with
  | some .explicit, _ => .ok ((settings.remoteAs.map .singleton).getD .empty)
  | _, none => .ok .empty
  | some .external, some own => .ok (AsnSpace.all.difference (.singleton own))
  | some .internal, some own => .ok (.singleton own)
  | none, some _ => .error (.untypedRemoteAs settings.name)

/-- The IPv4 unicast address family of a peer, if it is activated. -/
def ipv4UnicastFamily? (inst : BgpInstance) (settings : NeighborSettings) :
    Option Ipv4UnicastFamily :=
  let own := settings.ipv4Unicast.getD .unset
  if own.activated.getD inst.defaultIpv4Unicast then
    some {
      capabilities :=
        { Capabilities.communities with allowLocalAsIn := own.allowAsIn.any (0 < ·) }
      exportPolicy := (peerExportPolicy inst settings).name
      importPolicy := (peerImportPolicy? inst settings).map (·.name)
      routeReflectorClient := own.routeReflectorClient.getD false }
  else none

/-- The routes generated for a peer: the default route, if it is originated. -/
def peerGeneratedRoutes (params : ConversionParams) (settings : NeighborSettings) :
    List GeneratedRoute :=
  if settings.originatesDefault then [⟨.root, params.defaultRouteAdmin, false, none⟩] else []

/-- The local address of the session with a peer. -/
def sessionAddress? (configuration : Configuration) (vrf : String) (settings : NeighborSettings) :
    PeerId → Option Address
  | .interface _ => some unnumberedAddress
  | .address peer => localAddress? configuration vrf settings peer

/-- The complaints about the local address of the session with a peer. -/
def sessionWarnings (configuration : Configuration) (settings : NeighborSettings) :
    PeerId → List String
  | .interface _ => []
  | .address _ => updateSourceWarnings configuration settings

/-- The peer that a neighbor with the given resolved settings becomes. -/
def instancePeer (device : Device) (params : ConversionParams) (configuration : Configuration)
    (inst : BgpInstance) (routerId : Address) (settings : NeighborSettings) (id : PeerId)
    (remoteAsns : AsnSpace) : BgpPeer where
  id := id
  localAddress := sessionAddress? configuration inst.vrf settings id
  description := settings.description
  group := settings.peerGroup
  localAs := inst.asn
  remoteAsns := remoteAsns
  confederation := inst.confederationId
  ebgpMultihop := settings.ebgpMultihop.isSome
  generatedRoutes := .ofList (peerGeneratedRoutes params settings)
  ipv4Unicast := ipv4UnicastFamily? inst settings
  evpn :=
    evpnFamily? device configuration inst settings routerId (peerExportPolicy inst settings).name

/-- Register the policies of a peer, and the peer itself with the process of its VRF. -/
def addInstancePeer (device : Device) (params : ConversionParams) (inst : BgpInstance)
    (routerId : Address) (settings : NeighborSettings) (id : PeerId) : Conversion Unit := do
  let configuration ← Conversion.configuration
  Conversion.warnAll (sessionWarnings configuration settings id)
  let remoteAsns ← Conversion.require (settings.remoteAsns inst.asn)
  addPeerExportPolicy device inst settings
  addPeerImportPolicy device inst settings
  Conversion.warnAllOnce (evpnWarnings device configuration inst settings)
  Conversion.store (·.updateBgpProcess inst.vrf (·.addPeer
    (instancePeer device params configuration inst routerId settings id remoteAsns)))

/-- Attach a neighbor of an instance, if the VRF of the instance has a process.  Peer groups are no
peers, and a neighbor that is not validly configured is skipped. -/
def attachNeighbor (device : Device) (params : ConversionParams) (inst : BgpInstance)
    (neighbor : Neighbor) : Conversion Unit := do
  match (← Conversion.configuration).bgpProcess? inst.vrf with
  | none => pure ()
  | some process =>
    if neighbor.isPeerGroup then pure ()
    else
      let resolved := neighbor.resolve inst.neighbors
      match resolved.peerId? with
      | some id => addInstancePeer device params inst process.routerId resolved.settings id
      | none =>
        Conversion.warn s!"Skipping invalidly configured BGP peer {resolved.settings.name}"

/-- The neighbors of all instances, each with its instance. -/
def BgpInstances.neighbors (instances : BgpInstances) : List (BgpInstance × Neighbor) :=
  instances.all.flatMap fun inst => inst.neighbors.values.map fun neighbor => (inst, neighbor)

/-- Attach the neighbors of all instances. -/
def attachNeighbors (device : Device) (params : ConversionParams) (instances : BgpInstances) :
    Conversion Unit :=
  instances.neighbors.forM fun (inst, neighbor) => attachNeighbor device params inst neighbor

/-- Build the BGP processes of a device and attach its neighbors, if it runs BGP. -/
def convertBgp (device : Device) (params : ConversionParams) : Conversion Unit :=
  match device.bgp with
  | none => pure ()
  | some instances => do
    buildProcesses device params instances
    attachNeighbors device params instances

end NeutralRouting
