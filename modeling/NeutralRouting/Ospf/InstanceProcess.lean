import NeutralRouting.Conversion.Basic
import NeutralRouting.Conversion.Params
import NeutralRouting.Device

/-!
# Processes of OSPF instances

Every OSPF instance whose VRF exists gives its VRF an OSPF process.  The interfaces of the VRF
that have an area get their settings and are listed in that area.
-/

namespace NeutralRouting

/-- What an interface says about OSPF.  The name of a configured loopback stands for the
loopback. -/
def Device.ospfOptions? (device : Device) (interface : String) : Option OspfOptions :=
  if interface = loopbackName ∧ device.loopback.configured then device.loopback.ospf
  else device.interfaces[interface]? >>= (·.ospf)

/-- The network types that have a counterpart. -/
def OspfNetwork.toNetworkType? : OspfNetwork → Option OspfNetworkType
  | broadcast => some .broadcast
  | pointToPoint => some .pointToPoint
  | nonBroadcast | pointToMultipoint => none

/-- The settings of an interface that has an area. -/
def OspfOptions.settings? (options : OspfOptions) (process : String) : Option OspfSettings :=
  options.area.map fun area =>
    { passive := options.passive.getD false
      area := area
      networkType := options.network >>= (·.toNetworkType?)
      deadInterval := options.deadInterval.getD 40
      helloInterval := options.helloInterval.getD 10
      process := process }

/-- The settings of an interface of the device, if it runs OSPF. -/
def ospfSettings? (device : Device) (params : ConversionParams) (interface : String) :
    Option OspfSettings :=
  device.ospfOptions? interface >>= (·.settings? params.ospfProcess)

/-- The complaint about a network type that has no counterpart. -/
def OspfNetwork.warning? (network : OspfNetwork) (interface : String) : Option String :=
  if network.toNetworkType?.isSome then none
  else some
    s!"Conversion of OSPF network type '{network}' on interface {interface} is not handled."

/-- The complaint about the network type of an interface that runs OSPF. -/
def ospfWarning? (device : Device) (interface : String) : Option String := do
  let options ← device.ospfOptions? interface
  let _ ← options.area
  let network ← options.network
  network.warning? interface

/-- The process of an instance, given the interfaces that run OSPF and their areas. -/
def ospfInstanceProcess (device : Device) (params : ConversionParams) (inst : OspfInstance)
    (interfaces : List (String × OspfSettings)) : OspfProcess :=
  interfaces.foldl (fun process (name, settings) => process.addInterface settings.area name)
    { name := params.ospfProcess
      routerId := inst.routerId.getD device.routerId
      referenceBandwidth := params.ospfReferenceBandwidth
      areas := ∅ }

/-- Give interfaces their OSPF settings. -/
def configureOspfInterfaces (interfaces : List (String × OspfSettings))
    (configuration : Configuration) : Configuration :=
  interfaces.foldl (fun configuration (name, settings) =>
    configuration.modifyInterface name ({ · with ospf := some settings })) configuration

/-- Give the VRF of an instance its process, and the interfaces of the VRF their settings. -/
def addOspfInstance (device : Device) (params : ConversionParams) (inst : OspfInstance) :
    Conversion Unit := do
  let configuration ← Conversion.configuration
  if inst.vrf ∈ configuration.vrfs then
    let names := (configuration.interfacesIn inst.vrf).map (·.name)
    let interfaces := names.filterMap fun name =>
      (ospfSettings? device params name).map fun settings => (name, settings)
    Conversion.warnAll (names.filterMap (ospfWarning? device))
    Conversion.update (configureOspfInterfaces interfaces)
    Conversion.store (·.updateVrf inst.vrf fun vrf =>
      ({ vrf with ospf := some (ospfInstanceProcess device params inst interfaces) }, .ok ()))
  else Conversion.warn s!"Vrf {inst.vrf} is not found."

/-- Build the OSPF processes of a device, if it runs OSPF. -/
def convertOspf (device : Device) (params : ConversionParams) : Conversion Unit :=
  match device.ospf with
  | none => pure ()
  | some instances => instances.all.forM (addOspfInstance device params)

end NeutralRouting
