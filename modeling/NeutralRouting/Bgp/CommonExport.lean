import NeutralRouting.Bgp.Aggregate
import NeutralRouting.Device

/-!
# Common export policies

The export policy that the peers of a VRF share.  It marks the networks that summary-only
aggregates stand for, and holds for BGP routes, redistributed routes, announced networks and
aggregates.
-/

namespace NeutralRouting

/-- The test that a redistributed route has to pass: its route map, if that exists. -/
def redistributionTest (device : Device) (routeMap : Option String) : Condition :=
  match routeMap with
  | some name => if name ∈ device.routeMaps then .call name else .always
  | none => .always

/-- The route comes from a redistributed source and passes its route map. -/
def redistributionCondition (device : Device) (source : RedistributionSource)
    (routeMap : Option String) : Condition :=
  .all
    [.protocols source.protocols,
      .announcing (redistributionTest device routeMap) .incomplete]
    (some s!"Redistribute {source} routes into BGP")

/-- The route leads to an announced network and is no aggregate. -/
def networkCondition (block : Prefix) : Condition :=
  .all
    [.destinationIs block, .negation (.protocols [.aggregate]), .announcing .always .igp] none

/-- The alternatives under which the peers of a VRF get a route.  Without IPv4 unicast they get
BGP routes only. -/
def exportConditions (device : Device) (inst : BgpInstance) : List Condition :=
  .protocols [.bgp, .ibgp] ::
    match inst.ipv4Unicast with
    | none => []
    | some family =>
      (family.redistribute.toList.map fun (source, routeMap) =>
        redistributionCondition device source routeMap) ++
      family.networks.toList.map networkCondition ++
      [aggregatesCondition family.aggregates]

/-- The complaint about a redistribution whose route map does not exist. -/
def redistributionWarning? (device : Device) (vrf : String) (source : RedistributionSource)
    (routeMap : Option String) : Option String :=
  (routeMap.filter (· ∉ device.routeMaps)).map fun name =>
    s!"Ignoring undefined route-map {name} for redistribution of {source} routes in vrf {vrf}"

/-- The complaints about the redistributions of an instance. -/
def redistributionWarnings (device : Device) (inst : BgpInstance) : List String :=
  match inst.ipv4Unicast with
  | none => []
  | some family =>
    family.redistribute.toList.filterMap fun (source, routeMap) =>
      redistributionWarning? device inst.vrf source routeMap

/-- The common export policy of a VRF, which starts by suppressing summarized networks if there
are any. -/
def commonExportPolicy (device : Device) (inst : BgpInstance) (suppress : Option Statement) :
    RoutingPolicy where
  name := GeneratedName.text (.commonExport inst.vrf)
  statements :=
    suppress.toList ++ [.returnWhether (.any (exportConditions device inst) none)]

/-- The summary-only aggregates of an instance. -/
def BgpInstance.summaryOnlyAggregates (inst : BgpInstance) : List Prefix :=
  match inst.ipv4Unicast with
  | none => []
  | some family => family.aggregates.summaryOnly

/-- Register the common export policy of a VRF. -/
def addCommonExportPolicy (device : Device) (inst : BgpInstance) : Conversion Unit := do
  let suppress ← suppressSummarized inst.vrf inst.summaryOnlyAggregates
  Conversion.warnAll (redistributionWarnings device inst)
  Conversion.store (·.addPolicy (commonExportPolicy device inst suppress))

end NeutralRouting
