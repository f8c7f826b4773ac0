import NeutralRouting.Filter.MatchList
import NeutralRouting.Interface
import NeutralRouting.Policy.Calls
import NeutralRouting.Vrf

/-!
# Configurations

The vendor-neutral configuration of a device: its VRFs and interfaces, and the routing policies
and match lists that refer to one another by name.  A name is given to at most one object of each
kind.
-/

namespace NeutralRouting

open Std

/-- The vendor-neutral configuration of a device. -/
structure Configuration where
  hostname : String
  vrfs : ExtTreeMap String Vrf
  interfaces : ExtTreeMap String Interface
  policies : ExtTreeMap String RoutingPolicy
  routeFilterLists : ExtTreeMap String RouteFilterList
  communityLists : ExtTreeMap String CommunityList
  asPathAccessLists : ExtTreeMap String AsPathAccessList
  dnsServers : ExtTreeSet Address

namespace Configuration

/-- Insert an object under a name that is not taken yet. -/
def insertNew {α : Type} (table : ExtTreeMap String α) (kind : ObjectKind) (name : String)
    (object : α) : Attempt (ExtTreeMap String α) :=
  if name ∈ table then (table, .error (.duplicateName kind name))
  else (table.insert name object, .ok ())

/-- A configuration with an empty default VRF and nothing else. -/
def initial (hostname : String) : Configuration where
  hostname := hostname
  vrfs := (∅ : ExtTreeMap String Vrf).insert defaultVrfName (.bare defaultVrfName)
  interfaces := ∅
  policies := ∅
  routeFilterLists := ∅
  communityLists := ∅
  asPathAccessLists := ∅
  dnsServers := ∅

/-- Add a VRF. -/
def addVrf (configuration : Configuration) (vrf : Vrf) : Attempt Configuration :=
  (insertNew configuration.vrfs .vrf vrf.name vrf).within ({ configuration with vrfs := · })

/-- Add an interface. -/
def addInterface (configuration : Configuration) (interface : Interface) :
    Attempt Configuration :=
  (insertNew configuration.interfaces .interface interface.name interface).within
    ({ configuration with interfaces := · })

/-- Add a routing policy. -/
def addPolicy (configuration : Configuration) (policy : RoutingPolicy) :
    Attempt Configuration :=
  (insertNew configuration.policies .routingPolicy policy.name policy).within
    ({ configuration with policies := · })

/-- Add a routing policy unless there is one of that name. -/
def ensurePolicy (configuration : Configuration) (policy : RoutingPolicy) : Configuration :=
  { configuration with policies := configuration.policies.insertIfNew policy.name policy }

/-- Add a route filter list. -/
def addRouteFilterList (configuration : Configuration) (list : RouteFilterList) :
    Attempt Configuration :=
  (insertNew configuration.routeFilterLists .routeFilterList list.name list).within
    ({ configuration with routeFilterLists := · })

/-- Add a community list. -/
def addCommunityList (configuration : Configuration) (list : CommunityList) :
    Attempt Configuration :=
  (insertNew configuration.communityLists .communityList list.name list).within
    ({ configuration with communityLists := · })

/-- Add an AS-path access list. -/
def addAsPathAccessList (configuration : Configuration) (list : AsPathAccessList) :
    Attempt Configuration :=
  (insertNew configuration.asPathAccessLists .asPathAccessList list.name list).within
    ({ configuration with asPathAccessLists := · })

/-- Change a VRF that exists. -/
def updateVrf (configuration : Configuration) (name : String)
    (change : Vrf → Attempt Vrf) : Attempt Configuration :=
  match configuration.vrfs[name]? with
  | none => (configuration, .error (.noSuchVrf name))
  | some vrf =>
    (change vrf).within fun vrf =>
      { configuration with vrfs := configuration.vrfs.insert name vrf }

/-- Change the BGP process of a VRF that has one. -/
def updateBgpProcess (configuration : Configuration) (name : String)
    (change : BgpProcess → Attempt BgpProcess) : Attempt Configuration :=
  configuration.updateVrf name fun vrf =>
    match vrf.bgp with
    | none => (vrf, .error (.noSuchVrf name))
    | some process => (change process).within fun process => { vrf with bgp := some process }

/-- Change an interface, if it exists. -/
def modifyInterface (configuration : Configuration) (name : String)
    (change : Interface → Interface) : Configuration :=
  { configuration with interfaces := configuration.interfaces.modify name change }

/-- Add a DNS server. -/
def addDnsServer (configuration : Configuration) (server : Address) : Configuration :=
  { configuration with dnsServers := configuration.dnsServers.insert server }

/-- The interfaces of a VRF, by name. -/
def interfacesIn (configuration : Configuration) (vrf : String) : List Interface :=
  configuration.interfaces.values.filter (·.vrf = vrf)

/-- The BGP process of a VRF. -/
def bgpProcess? (configuration : Configuration) (vrf : String) : Option BgpProcess :=
  configuration.vrfs[vrf]? >>= (·.bgp)

/-- The names that some policy calls and that no policy has. -/
def undefinedCalls (configuration : Configuration) : ExtTreeSet String :=
  .ofList ((configuration.policies.values.flatMap (·.calls.toList)).filter
    (· ∉ configuration.policies))

end Configuration
end NeutralRouting
