import NeutralRouting.Filter.Community
import NeutralRouting.Net.PrefixSpace
import NeutralRouting.Protocol

/-!
# Routing policies

A routing policy is a named list of statements over the attributes of a route.  Statements test
conditions, and conditions may bracket statements, so the two are defined together.  Policies and
match lists refer to one another by name only.
-/

namespace NeutralRouting

open Std

/-- A set of destinations, given in place or as a route filter list. -/
inductive DestinationSet where
  | space (prefixes : PrefixSpace)
  | list (name : String)
deriving DecidableEq

/-- The next hop given to a route. -/
inductive NextHop where
  /-- The address of the device itself. -/
  | self
  | address (target : Address)
deriving DecidableEq

/-- Statements without arguments. -/
inductive Directive where
  /-- End the policy with the verdict true. -/
  | returnTrue
  /-- End the policy with the verdict false. -/
  | returnFalse
  /-- End the whole evaluation and accept the route. -/
  | exitAccept
  /-- End the whole evaluation and reject the route. -/
  | exitReject
  /-- Mark the route as suppressed and go on. -/
  | suppress
  /-- Write attributes to the intermediate BGP route from here on. -/
  | beginIntermediateWrite
  /-- Stop writing to the intermediate BGP route. -/
  | endIntermediateWrite
  /-- Read attributes from the intermediate BGP route from here on. -/
  | readIntermediate
deriving DecidableEq

mutual

/-- A test of a route. -/
inductive Condition where
  | always
  | never
  | protocolIn (protocols : ExtTreeSet Protocol)
  | destinationIn (destinations : DestinationSet)
  /-- The named community list permits the route. -/
  | communityList (name : String)
  /-- The named AS-path access list permits the route. -/
  | asPathList (name : String)
  | tagIs (tag : UInt32)
  | negation (condition : Condition)
  /-- Every condition holds; they are tested from the left until one fails. -/
  | all (conditions : List Condition) (comment : Option String)
  /-- Some condition holds; they are tested from the left until one holds. -/
  | any (conditions : List Condition) (comment : Option String)
  /-- The verdict of the named policy. -/
  | call (policy : String)
  /-- A condition tested after some statements and before others.  The statements of `afterTrue`
  run last, and only if the condition holds. -/
  | bracket (before : List Statement) (condition : Condition) (after afterTrue : List Statement)

/-- A step of a policy. -/
inductive Statement where
  /-- Run the statements that the guard selects. -/
  | branch (comment : Option String) (guard : Condition) (whenTrue whenFalse : List Statement)
  /-- Run the statements of the named policy. -/
  | call (policy : String)
  | setOrigin (origin : Origin)
  | setNextHop (nextHop : NextHop)
  | setLocalPreference (preference : UInt32)
  | setMetric (metric : UInt32)
  | setTag (tag : UInt32)
  | setWeight (weight : UInt32)
  /-- Set the communities of the route, or add to them. -/
  | setCommunities (communities : ExtTreeSet Community) (additive : Bool)
  | directive (directive : Directive)

end

instance : Inhabited Condition := ⟨.never⟩

instance : Inhabited Statement := ⟨.directive .returnFalse⟩

namespace Condition

/-- The route was learnt from one of the given protocols. -/
def protocols (protocols : List Protocol) : Condition := .protocolIn (.ofList protocols)

/-- The destination lies in a range. -/
def destinationInRange (range : PrefixRange) : Condition :=
  .destinationIn (.space (.ofRange range))

/-- The destination is exactly the given prefix. -/
def destinationIs (block : Prefix) : Condition := destinationInRange (.exact block)

/-- The route is a default route. -/
def isDefaultRoute : Condition := destinationIs .root

end Condition

namespace Statement

/-- A conditional with nothing to run when the guard fails. -/
def when (guard : Condition) (whenTrue : List Statement) : Statement :=
  .branch none guard whenTrue []

/-- End the policy with a verdict that depends on the guard. -/
def returnWhether (guard : Condition) : Statement :=
  .branch none guard [.directive .returnTrue] [.directive .returnFalse]

end Statement

/-- A named list of statements. -/
structure RoutingPolicy where
  name : String
  statements : List Statement
deriving Inhabited

end NeutralRouting
