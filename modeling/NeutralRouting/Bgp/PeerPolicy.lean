import NeutralRouting.Bgp.CommonExport

/-!
# Policies of peers

The export policy of a peer sends what the common policy of its VRF and the outbound route map of
the peer both hold for, except default routes.  A default route is only sent to peers it is
originated for, by a policy of its own.  The import policy of a peer is its inbound route map.
-/

namespace NeutralRouting

/-- The policy that lets the originated default route out. -/
def defaultRoutePolicy (vrf peer : String) : RoutingPolicy where
  name := GeneratedName.text (.defaultRoute .v4 vrf peer)
  statements :=
    [.when (.all [.isDefaultRoute, .protocols [.aggregate]] none)
      [.setOrigin .incomplete, .directive .returnTrue],
    .directive .returnFalse]

/-- The device puts itself as next hop into the routes it sends to the neighbor, which has the
local AS and asks for it. -/
def setsNextHop (settings : NeighborSettings) (inst : BgpInstance) : Bool :=
  settings.remoteAs.isSome && settings.remoteAs == inst.asn &&
    (settings.ipv4Setting (·.nextHopSelf)).getD false

/-- The statement that puts the device as next hop, where it does. -/
def nextHopStatement? (settings : NeighborSettings) (inst : BgpInstance) : Option Statement :=
  if setsNextHop settings inst then some (.setNextHop .self) else none

/-- The condition under which a route is sent to a peer, default routes apart. -/
def peerExportCondition (inst : BgpInstance) (settings : NeighborSettings) : Condition :=
  let common := Condition.call (GeneratedName.text (.commonExport inst.vrf))
  match settings.ipv4Setting (·.routeMapOut) with
  | some routeMap => .all [common, .call routeMap] none
  | none => common

/-- The statement by which a peer gets the default route originated for it. -/
def sendDefaultRoute (inst : BgpInstance) (settings : NeighborSettings) : Statement :=
  .branch (some "Export default route from peer with default-originate configured")
    (.call (defaultRoutePolicy inst.vrf settings.name).name) [.directive .returnTrue] []

/-- The statement that keeps every other default route back. -/
def keepDefaultRoute : Statement := .when .isDefaultRoute [.directive .returnFalse]

/-- The statement that decides on all other routes. -/
def peerExportStatement (inst : BgpInstance) (settings : NeighborSettings) : Statement :=
  .branch
    (some "peer-export policy main conditional: exitAccept if true / exitReject if false")
    (peerExportCondition inst settings)
    ((nextHopStatement? settings inst).toList ++ [.directive .exitAccept])
    [.directive .exitReject]

/-- The export policy of a peer. -/
def peerExportPolicy (inst : BgpInstance) (settings : NeighborSettings) : RoutingPolicy where
  name := GeneratedName.text (.peerExport inst.vrf settings.name)
  statements :=
    (if settings.originatesDefault then [sendDefaultRoute inst settings] else []) ++
      [keepDefaultRoute, peerExportStatement inst settings]

/-- The import policy of a peer.  Without an inbound route map there is none. -/
def peerImportPolicy? (inst : BgpInstance) (settings : NeighborSettings) :
    Option RoutingPolicy :=
  (settings.ipv4Setting (·.routeMapIn)).map fun routeMap =>
    { name := GeneratedName.text (.peerImport inst.vrf settings.name)
      statements :=
        [.branch
          (some "peer-import policy main conditional: exitAccept if true / exitReject if false")
          (.call routeMap) [.directive .exitAccept] [.directive .exitReject]] }

/-- The complaint about a route map that a neighbor uses and that does not exist. -/
def routeMapWarnings (device : Device) (settings : NeighborSettings)
    (routeMap : Option String) : List String :=
  (routeMap.filter (· ∉ device.routeMaps)).toList.map fun name =>
    s!"Undefined route-map {name} is used by BGP neighbor {settings.name}"

/-- Register the export policy of a peer, and before it the policy for the default route that is
originated for the peer. -/
def addPeerExportPolicy (device : Device) (inst : BgpInstance) (settings : NeighborSettings) :
    Conversion Unit := do
  if settings.originatesDefault then
    Conversion.update (·.ensurePolicy (defaultRoutePolicy inst.vrf settings.name))
  Conversion.warnAll (routeMapWarnings device settings (settings.ipv4Setting (·.routeMapOut)))
  Conversion.store (·.addPolicy (peerExportPolicy inst settings))

/-- Register the import policy of a peer, if it has one. -/
def addPeerImportPolicy (device : Device) (inst : BgpInstance) (settings : NeighborSettings) :
    Conversion Unit := do
  Conversion.warnAll (routeMapWarnings device settings (settings.ipv4Setting (·.routeMapIn)))
  (peerImportPolicy? inst settings).toList.forM fun policy =>
    Conversion.store (·.addPolicy policy)

end NeutralRouting
