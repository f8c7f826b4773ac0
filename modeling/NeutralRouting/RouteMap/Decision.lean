import NeutralRouting.Device
import NeutralRouting.Policy.Evaluation

/-!
# Decisions of route maps

What a route map says about a route by itself, without the policy it becomes: the first entry
whose tests all hold decides.
-/

namespace NeutralRouting

/-- The test holds for a route.  A test on a list that does not exist never does. -/
def RouteMapTest.holds (device : Device) (reading : ListReading) (route : Route) :
    RouteMapTest → Bool
  | prefixList name => device.prefixLists[name]?.any (·.permits route.destination)
  | communityList name =>
    device.communityLists[name]?.any (reading.communityList ·.toCommunityList route)
  | asPathList name => device.asPathLists[name]?.any (reading.asPathList ·.toAccessList route)
  | tag value => route.tag == value
  | source origin => origin.protocols.contains route.protocol

/-- Make a change to a route. -/
def RouteMapSet.apply (route : Route) : RouteMapSet → Route
  | tag value => { route with tag := value }
  | metric value => { route with metric := value }
  | weight value => { route with weight := value }
  | localPreference value => { route with localPreference := value }
  | communities values additive => route.setCommunities (.ofList values) additive

/-- Every test of the entry holds for the route. -/
def RouteMapEntry.accepts (entry : RouteMapEntry) (device : Device) (reading : ListReading)
    (route : Route) : Bool :=
  entry.tests.all (·.holds device reading route)

namespace RouteMap

/-- The first entry, by number, whose tests all hold. -/
def decider? (map : RouteMap) (device : Device) (reading : ListReading) (route : Route) :
    Option RouteMapEntry :=
  map.entries.values.find? (·.accepts device reading route)

/-- The verdict of a route map, and the route with its changes.  A route that is denied stays as
it was. -/
def decision (map : RouteMap) (device : Device) (reading : ListReading) (route : Route) :
    Bool × Route :=
  match map.decider? device reading route with
  | none => (false, route)
  | some entry =>
    match entry.action with
    | .deny => (false, route)
    | .permit => (true, entry.sets.foldl RouteMapSet.apply route)

end RouteMap
end NeutralRouting
