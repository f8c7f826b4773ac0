import NeutralRouting.Bgp.Attachment
import NeutralRouting.Conversion.Skeleton
import NeutralRouting.Ospf.InstanceProcess
import NeutralRouting.RouteMap.Policy

/-!
# Conversion of a whole device

The skeleton and the match lists come first, then the protocols that refer to them, and route maps
last, so that their names are taken only after all generated policies are registered.
-/

namespace NeutralRouting

/-- Convert the configuration of a device. -/
def convertDevice (compile : RouteMapCompiler) (params : ConversionParams) (device : Device) :
    Conversion Unit := do
  buildSkeleton device
  convertLists device
  convertBgp device params
  convertOspf device params
  convertRouteMaps compile device

/-- Nothing is built yet but the default VRF. -/
def Progress.initial (hostname : String) : Progress := ⟨.initial hostname, .empty⟩

/-- The vendor-neutral configuration of a device, with the warnings met on the way.  Any error
gives up the whole conversion. -/
def Device.convert (device : Device) (params : ConversionParams) (compile : RouteMapCompiler) :
    Except ConversionError Progress :=
  match (convertDevice compile params device).runFrom (.initial device.hostname) with
  | (.ok (), progress) => .ok progress
  | (.error cause, _) => .error cause

end NeutralRouting
