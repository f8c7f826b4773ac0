import NeutralRouting.Configuration
import NeutralRouting.Route

/-!
# Evaluation of routing policies

What a policy does with a route.  Statements run in order and may change the route; a verdict ends
the policy, and an exit ends the evaluation as a whole.  A policy that comes to its end without a
verdict does not hold, and neither does one that does not exist.

That attributes are kept apart for BGP is recorded with the route, and changes no verdict.

Policies call one another by name, so an evaluation is given how many calls may be open at a time.
A chain of calls with more members than there are policies goes round in a circle, so the number
of policies is enough for every evaluation that ends.
-/

namespace NeutralRouting

open Std

/-- How statements end before the last of them. -/
inductive Halt where
  /-- The policy ends with a verdict. -/
  | returned (verdict : Bool)
  /-- The evaluation ends with a verdict. -/
  | exited (verdict : Bool)
  /-- Too many calls are open. -/
  | endlessCalls
deriving DecidableEq

/-- A route under evaluation. -/
structure RouteState where
  route : Route
  /-- The route is covered by a summary-only aggregate. -/
  suppressed : Bool
  /-- Attributes are written to the intermediate BGP route as well. -/
  writesIntermediate : Bool
  /-- Attributes are read from the intermediate BGP route. -/
  readsIntermediate : Bool
deriving DecidableEq

/-- A route before its evaluation. -/
def RouteState.initial (route : Route) : RouteState := ⟨route, false, false, false⟩

/-- A step of an evaluation.  What it did to the route stays also if it halts. -/
abbrev Evaluation := ExceptT Halt (StateM RouteState)

namespace Evaluation

/-- The outcome of a step, and the route after it. -/
def runFrom {α : Type} (step : Evaluation α) (state : RouteState) : Except Halt α × RouteState :=
  (ExceptT.run step).run state

/-- Ask something about the route. -/
def ask {α : Type} (question : Route → α) : Evaluation α := return question (← get).route

/-- Change the route. -/
def change (edit : Route → Route) : Evaluation Unit :=
  modify fun state => { state with route := edit state.route }

end Evaluation

/-- What policies refer to by name. -/
structure Environment where
  /-- The named route filter list permits a destination. -/
  destinationList : String → Prefix → Bool
  /-- The named community list permits a route. -/
  communityList : String → Route → Bool
  /-- The named AS-path access list permits a route. -/
  asPathList : String → Route → Bool
  /-- The verdict of the named policy. -/
  call : String → Evaluation Bool

/-- The destination belongs to the set. -/
def DestinationSet.holds (environment : Environment) (destinations : DestinationSet)
    (block : Prefix) : Bool :=
  match destinations with
  | space prefixes => prefixes.contains block
  | list name => environment.destinationList name block

/-- Run a statement without arguments. -/
def Directive.run : Directive → Evaluation Unit
  | returnTrue => throw (.returned true)
  | returnFalse => throw (.returned false)
  | exitAccept => throw (.exited true)
  | exitReject => throw (.exited false)
  | suppress => modify ({ · with suppressed := true })
  | beginIntermediateWrite => modify ({ · with writesIntermediate := true })
  | endIntermediateWrite => modify ({ · with writesIntermediate := false })
  | readIntermediate => modify ({ · with readsIntermediate := true })

/-- The next hop that a route is given. -/
def NextHop.address? : NextHop → Option Address
  | self => none
  | address target => some target

mutual

/-- Test a condition. -/
def Condition.test (environment : Environment) : Condition → Evaluation Bool
  | .always => return true
  | .never => return false
  | .protocolIn protocols => Evaluation.ask fun route => protocols.contains route.protocol
  | .destinationIn destinations =>
    Evaluation.ask fun route => destinations.holds environment route.destination
  | .communityList name => Evaluation.ask (environment.communityList name)
  | .asPathList name => Evaluation.ask (environment.asPathList name)
  | .tagIs tag => Evaluation.ask fun route => route.tag == tag
  | .negation condition => return !(← condition.test environment)
  | .all conditions _ => Condition.testAll environment conditions
  | .any conditions _ => Condition.testAny environment conditions
  | .call policy => environment.call policy
  | .bracket before condition after afterTrue => do
    Statement.runAll environment before
    let held ← condition.test environment
    Statement.runAll environment after
    if held then Statement.runAll environment afterTrue
    return held

/-- Test conditions until one fails. -/
def Condition.testAll (environment : Environment) : List Condition → Evaluation Bool
  | [] => return true
  | condition :: rest => do
    if ← condition.test environment then Condition.testAll environment rest else return false

/-- Test conditions until one holds. -/
def Condition.testAny (environment : Environment) : List Condition → Evaluation Bool
  | [] => return false
  | condition :: rest => do
    if ← condition.test environment then return true else Condition.testAny environment rest

/-- Run a statement. -/
def Statement.run (environment : Environment) : Statement → Evaluation Unit
  | .branch _ guard whenTrue whenFalse => do
    if ← guard.test environment then Statement.runAll environment whenTrue
    else Statement.runAll environment whenFalse
  | .call policy => discard (environment.call policy)
  | .setOrigin origin => Evaluation.change ({ · with origin := origin })
  | .setNextHop nextHop => Evaluation.change ({ · with nextHop := nextHop.address? })
  | .setLocalPreference preference =>
    Evaluation.change ({ · with localPreference := preference })
  | .setMetric metric => Evaluation.change ({ · with metric := metric })
  | .setTag tag => Evaluation.change ({ · with tag := tag })
  | .setWeight weight => Evaluation.change ({ · with weight := weight })
  | .setCommunities communities additive =>
    Evaluation.change (·.setCommunities communities additive)
  | .directive directive => directive.run

/-- Run statements in order. -/
def Statement.runAll (environment : Environment) : List Statement → Evaluation Unit
  | [] => return ()
  | statement :: rest => do
    statement.run environment
    Statement.runAll environment rest

end

/-- The verdict of a policy. -/
def RoutingPolicy.verdict (environment : Environment) (policy : RoutingPolicy) :
    Evaluation Bool :=
  tryCatch
    (do
      Statement.runAll environment policy.statements
      return false)
    fun
    | .returned verdict => return verdict
    | halt => throw halt

/-- What community lists and AS-path access lists permit. -/
structure ListReading where
  communityList : CommunityList → Route → Bool
  asPathList : AsPathAccessList → Route → Bool

namespace Configuration

/-- What the policies of a configuration refer to.  A list that does not exist permits nothing. -/
def environment (configuration : Configuration) (reading : ListReading)
    (call : String → Evaluation Bool) : Environment where
  destinationList name block := configuration.routeFilterLists[name]?.any (·.permits block)
  communityList name route :=
    configuration.communityLists[name]?.any (reading.communityList · route)
  asPathList name route :=
    configuration.asPathAccessLists[name]?.any (reading.asPathList · route)
  call := call

/-- The verdict of a policy, with at most `depth` calls open at a time. -/
def call (configuration : Configuration) (reading : ListReading) : Nat → String → Evaluation Bool
  | 0, _ => throw .endlessCalls
  | depth + 1, name =>
    match configuration.policies[name]? with
    | none => return false
    | some policy =>
      policy.verdict (configuration.environment reading (configuration.call reading depth))

/-- Evaluate a policy on a route. -/
def evaluate (configuration : Configuration) (reading : ListReading) (policy : String)
    (route : Route) : Except Halt Bool × RouteState :=
  (configuration.call reading (configuration.policies.size + 1) policy).runFrom (.initial route)

end Configuration
end NeutralRouting
