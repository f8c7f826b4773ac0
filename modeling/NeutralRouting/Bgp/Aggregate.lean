import NeutralRouting.Bgp.GeneratedName
import NeutralRouting.Bgp.Instance
import NeutralRouting.Conversion.Basic
import NeutralRouting.Policy.Basic

/-!
# Aggregates

An aggregate is a generated route that is active while some more specific route exists.  The more
specific routes of a summary-only aggregate are suppressed on export.
-/

namespace NeutralRouting

open Std

/-- The policy that holds for the routes more specific than an aggregate. -/
def aggregatePolicy (vrf : String) (block : Prefix) : RoutingPolicy where
  name := GeneratedName.text (.aggregate .v4 vrf block.text)
  statements := [.returnWhether (.destinationInRange (.moreSpecificThan block))]

/-- The route generated for an aggregate: it drops what no more specific route takes. -/
def aggregateRoute (vrf : String) (admin : UInt32) (block : Prefix) : GeneratedRoute where
  network := block
  admin := admin
  discard := true
  generationPolicy := some (aggregatePolicy vrf block).name

/-- Register the policy and the route of an aggregate. -/
def addAggregate (vrf : String) (admin : UInt32) (block : Prefix) : Conversion Unit := do
  Conversion.store (·.addPolicy (aggregatePolicy vrf block))
  Conversion.store (·.updateVrf vrf fun owner =>
    (owner.addGeneratedRoute (aggregateRoute vrf admin block), .ok ()))

/-- Register the policies and routes of all aggregates. -/
def addAggregates (vrf : String) (aggregates : AggregateTable) (admin : UInt32) :
    Conversion Unit :=
  aggregates.keys.forM (addAggregate vrf admin)

/-- The list of the networks that the given aggregates stand for. -/
def suppressionList (vrf : String) (blocks : List Prefix) : RouteFilterList where
  name := GeneratedName.text (.suppressed vrf)
  lines := blocks.map fun block => ⟨.permit, .moreSpecificThan block⟩

/-- The statement that suppresses the networks of the list. -/
def suppression (vrf : String) : Statement :=
  .branch
    (some "Suppress more specific networks for summary-only aggregate-address networks")
    (.destinationIn (.list (GeneratedName.text (.suppressed vrf))))
    [.directive .suppress] []

/-- Register the list of the networks that the given aggregates stand for, if there is any
aggregate, and give the statement that suppresses them. -/
def suppressSummarized (vrf : String) (blocks : List Prefix) : Conversion (Option Statement) :=
  if blocks.isEmpty then return none
  else do
    Conversion.store (·.addRouteFilterList (suppressionList vrf blocks))
    return some (suppression vrf)

/-- Test a route while writing intermediate BGP attributes.  If the test holds, these attributes
become readable and the route gets the given origin. -/
def Condition.announcing (condition : Condition) (origin : Origin) : Condition :=
  .bracket [.directive .beginIntermediateWrite] condition [.directive .endIntermediateWrite]
    [.directive .readIntermediate, .setOrigin origin]

/-- The route is the aggregate of the given network. -/
def aggregateCondition (block : Prefix) : Condition :=
  .all [.destinationIs block, .protocols [.aggregate], .announcing .always .igp] none

/-- The route is one of the aggregates. -/
def aggregatesCondition (aggregates : AggregateTable) : Condition :=
  .any (aggregates.keys.map aggregateCondition) none

end NeutralRouting
