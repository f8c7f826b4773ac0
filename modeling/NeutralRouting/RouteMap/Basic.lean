import NeutralRouting.DeviceError
import NeutralRouting.Filter.MatchList
import NeutralRouting.Protocol
import Std.Data.ExtTreeMap

/-!
# Route maps

A route map has numbered entries.  The first entry, by number, whose tests all hold decides:
it permits the route and sets its attributes, or denies it.  A route that no entry matches is
denied.
-/

namespace NeutralRouting

open Std

/-- A test that an entry makes of a route. -/
inductive RouteMapTest where
  | prefixList (name : String)
  | communityList (name : String)
  | asPathList (name : String)
  | tag (tag : UInt32)
  | source (source : RedistributionSource)
deriving DecidableEq

/-- A change made by a route map entry. -/
inductive RouteMapSet where
  | tag (tag : UInt32)
  | metric (metric : UInt32)
  | weight (weight : UInt32)
  | localPreference (preference : UInt32)
  /-- Set the communities, or add to them. -/
  | communities (communities : List Community) (additive : Bool)
deriving DecidableEq

/-- An entry of a route map. -/
structure RouteMapEntry where
  action : Action
  tests : List RouteMapTest
  sets : List RouteMapSet
deriving DecidableEq

/-- A route map with its numbered entries. -/
structure RouteMap where
  name : String
  /-- The number at which the next entry without one of its own is tried. -/
  nextNumber : Nat
  entries : ExtTreeMap Nat RouteMapEntry
deriving DecidableEq

namespace RouteMap

/-- A route map without entries. -/
def empty (name : String) : RouteMap := ⟨name, 10, ∅⟩

/-- The number at which an entry is tried, and the route map after taking that number.  Numbers
given by the route map go up by ten, whatever the numbers given by entries. -/
def takeNumber (map : RouteMap) : Option Nat → Nat × RouteMap
  | some number => (number, map)
  | none => (map.nextNumber, { map with nextNumber := map.nextNumber + 10 })

/-- Try to add an entry under its number, or under the next one.  A refused entry still uses up
the number that the route map gave it. -/
def addEntry (map : RouteMap) (number : Option Nat) (entry : RouteMapEntry) :
    RouteMap × Except DeviceError Unit :=
  let (number, map) := map.takeNumber number
  if number ∈ map.entries then (map, .error (.duplicateNumber .routeMap map.name number))
  else ({ map with entries := map.entries.insert number entry }, .ok ())

end RouteMap
end NeutralRouting
