import NeutralRouting.Filter.Community
import NeutralRouting.Net.Prefix
import NeutralRouting.Protocol
import Std.Data.ExtTreeSet

/-!
# Routes

A route on its way through routing policies, with the attributes that policies test and set.
-/

namespace NeutralRouting

open Std

/-- A route with its attributes. -/
structure Route where
  /-- The protocol the route was learnt from. -/
  protocol : Protocol
  destination : Prefix
  /-- The numbers of the ASes that the route came through, the nearest first. -/
  asPath : List UInt32
  communities : ExtTreeSet Community
  origin : Origin
  /-- The next hop; unset while it is the device itself. -/
  nextHop : Option Address
  localPreference : UInt32
  metric : UInt32
  tag : UInt32
  weight : UInt32
deriving DecidableEq

/-- Replace the communities of a route, or add to them. -/
def Route.setCommunities (route : Route) (communities : ExtTreeSet Community) (additive : Bool) :
    Route :=
  { route with
    communities := if additive then route.communities ∪ communities else communities }

end NeutralRouting
