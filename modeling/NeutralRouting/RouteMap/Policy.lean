import NeutralRouting.Conversion.Basic
import NeutralRouting.Device

/-!
# Policies of route maps

A route map becomes a policy of the same name: one conditional per entry, in the order of the
entries' numbers, and a final verdict of false.  A test on a list that does not exist never holds.
-/

namespace NeutralRouting

open Std

/-- A way to turn the route maps of a device into policies, with the warnings it gives. -/
abbrev RouteMapCompiler :=
  Device → RouteMap → List String × Except ConversionError RoutingPolicy

/-- The complaint that a list does not exist. -/
def undefinedList? {α : Type} (lists : ExtTreeMap String α) (kind name : String) :
    Option String :=
  if name ∈ lists then none else some s!"undefined {kind} {name}"

/-- The list that a test refers to in vain. -/
def RouteMapTest.undefined? (device : Device) : RouteMapTest → Option String
  | prefixList name => undefinedList? device.prefixLists "prefix-list" name
  | communityList name => undefinedList? device.communityLists "community-list" name
  | asPathList name => undefinedList? device.asPathLists "as-path access-list" name
  | tag _ | source _ => none

/-- The condition of a test whose list exists. -/
def RouteMapTest.definedCondition : RouteMapTest → Condition
  | prefixList name => .destinationIn (.list name)
  | communityList name => .communityList name
  | asPathList name => .asPathList name
  | tag value => .tagIs value
  | source origin => .protocols origin.protocols

/-- The condition of a test. -/
def RouteMapTest.condition (device : Device) (test : RouteMapTest) : Condition :=
  if (test.undefined? device).isSome then .never else test.definedCondition

/-- The statement of a change. -/
def RouteMapSet.statement : RouteMapSet → Statement
  | tag value => .setTag value
  | metric value => .setMetric value
  | weight value => .setWeight value
  | localPreference value => .setLocalPreference value
  | communities values additive => .setCommunities (.ofList values) additive

/-- What an entry does with the routes it matches. -/
def RouteMapEntry.verdict (entry : RouteMapEntry) : List Statement :=
  match entry.action with
  | .permit => entry.sets.map (·.statement) ++ [.directive .returnTrue]
  | .deny => [.directive .returnFalse]

/-- The conditional of an entry. -/
def RouteMapEntry.statement (entry : RouteMapEntry) (device : Device) (map : String)
    (number : Nat) : Statement :=
  .branch (some s!"route-map {map} seq {number}")
    (.all (entry.tests.map (·.condition device)) none) entry.verdict []

/-- The complaints about the lists that an entry refers to in vain. -/
def RouteMapEntry.warnings (entry : RouteMapEntry) (device : Device) (map : String)
    (number : Nat) : List String :=
  (entry.tests.filterMap (·.undefined? device)).map fun list =>
    s!"Route-map {map} entry {number} refers to {list}"

namespace RouteMap

/-- The policy of a route map. -/
def policy (map : RouteMap) (device : Device) : RoutingPolicy where
  name := map.name
  statements :=
    (map.entries.toList.map fun (number, entry) => entry.statement device map.name number) ++
      [.directive .returnFalse]

/-- The complaints about a route map. -/
def warnings (map : RouteMap) (device : Device) : List String :=
  map.entries.toList.flatMap fun (number, entry) => entry.warnings device map.name number

end RouteMap

/-- The compiler that turns entries into conditionals. -/
def entrywiseCompiler : RouteMapCompiler := fun device map =>
  (map.warnings device, .ok (map.policy device))

/-- Compile a route map and register its policy, which has to have the name of the route map. -/
def addRouteMapPolicy (compile : RouteMapCompiler) (device : Device) (map : RouteMap) :
    Conversion Unit := do
  let (warnings, policy) := compile device map
  Conversion.warnAll warnings
  let policy ← Conversion.require policy
  if policy.name = map.name then Conversion.store (·.addPolicy policy)
  else throw (.routeMapRenamed map.name policy.name)

/-- Compile and register all route maps. -/
def convertRouteMaps (compile : RouteMapCompiler) (device : Device) : Conversion Unit :=
  device.routeMaps.values.forM (addRouteMapPolicy compile device)

end NeutralRouting
