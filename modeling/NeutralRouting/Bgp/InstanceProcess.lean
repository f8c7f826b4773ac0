import NeutralRouting.Bgp.CommonExport
import NeutralRouting.Conversion.Params

/-!
# Processes of BGP instances

Every instance whose VRF exists gives its VRF a BGP process, without peers so far.  If the default
VRF then has one, VRFs whose routed traffic has a VNI get an idle process where they have none.
-/

namespace NeutralRouting

/-- The confederation that the instance of the default VRF belongs to. -/
def BgpInstance.confederation? (inst : BgpInstance) : Option Confederation := do
  let id ← inst.confederationId
  let asn ← inst.asn
  return ⟨id, .ofList [asn]⟩

/-- The networks that an instance announces. -/
def BgpInstance.networks (inst : BgpInstance) : List Prefix :=
  match inst.ipv4Unicast with
  | none => []
  | some family => family.networks.toList

/-- The aggregates of an instance. -/
def BgpInstance.aggregates (inst : BgpInstance) : AggregateTable :=
  match inst.ipv4Unicast with
  | none => ∅
  | some family => family.aggregates

/-- The router id of an instance. -/
def BgpInstance.effectiveRouterId (inst : BgpInstance) (device : Device) : Address :=
  inst.routerId.getD device.routerId

/-- The process of an instance, without peers.  All instances share the confederation of that of
the default VRF. -/
def instanceProcess (device : Device) (params : ConversionParams)
    (defaultInstance inst : BgpInstance) : BgpProcess :=
  { BgpProcess.bare (inst.effectiveRouterId device) params.ebgpAdmin params.ibgpAdmin with
    multipathEbgp := true
    multipathIbgp := true
    multipathMode := if inst.multipathRelax then .pathLength else .exactPath
    confederation := defaultInstance.confederation?
    originations := .ofPrefixes inst.networks }

/-- Give the VRF of an instance its process, with the aggregates and the common export policy.
An instance whose VRF does not exist is skipped. -/
def addInstanceProcess (device : Device) (params : ConversionParams)
    (defaultInstance inst : BgpInstance) : Conversion Unit := do
  if inst.vrf ∈ (← Conversion.configuration).vrfs then
    addAggregates inst.vrf inst.aggregates params.aggregateAdmin
    addCommonExportPolicy device inst
    Conversion.store (·.updateVrf inst.vrf fun vrf =>
      ({ vrf with bgp := some (instanceProcess device params defaultInstance inst) }, .ok ()))
  else Conversion.warn s!"Skipping BGP instance of unknown vrf {inst.vrf}"

/-- The VRF is declared with a VNI for its routed traffic. -/
def Device.routesByVni (device : Device) (vrf : String) : Bool :=
  match device.vrfs.lookup vrf with
  | none => false
  | some declaration => declaration.vni.isSome

/-- Give an idle process to every VRF that needs one for its VNI. -/
def addIdleProcesses (device : Device) (params : ConversionParams)
    (configuration : Configuration) : Configuration :=
  match configuration.bgpProcess? defaultVrfName with
  | none => configuration
  | some process =>
    let idle := BgpProcess.bare process.routerId params.ebgpAdmin params.ibgpAdmin
    { configuration with
      vrfs := configuration.vrfs.map fun _ vrf =>
        if vrf.bgp.isNone && device.routesByVni vrf.name then { vrf with bgp := some idle }
        else vrf }

/-- Build the processes of all instances, then the idle ones. -/
def buildProcesses (device : Device) (params : ConversionParams) (instances : BgpInstances) :
    Conversion Unit := do
  instances.all.forM (addInstanceProcess device params instances.defaultVrf)
  Conversion.update (addIdleProcesses device params)

end NeutralRouting
