import NeutralRouting.Policy.Basic

/-!
# Calls between policies

The names of the policies that a policy calls, in its statements and conditions at any depth.
-/

namespace NeutralRouting

open Std

mutual

/-- The policies called in a condition, in the order of the calls. -/
def Condition.calls : Condition → List String
  | .call policy => [policy]
  | .negation condition => condition.calls
  | .all conditions _ => Condition.callsOf conditions
  | .any conditions _ => Condition.callsOf conditions
  | .bracket before condition after afterTrue =>
    condition.calls ++ Statement.callsOf before ++ Statement.callsOf after ++
      Statement.callsOf afterTrue
  | _ => []

/-- The policies called in several conditions. -/
def Condition.callsOf : List Condition → List String
  | [] => []
  | condition :: rest => condition.calls ++ Condition.callsOf rest

/-- The policies called in a statement. -/
def Statement.calls : Statement → List String
  | .call policy => [policy]
  | .branch _ guard whenTrue whenFalse =>
    guard.calls ++ Statement.callsOf whenTrue ++ Statement.callsOf whenFalse
  | _ => []

/-- The policies called in several statements. -/
def Statement.callsOf : List Statement → List String
  | [] => []
  | statement :: rest => statement.calls ++ Statement.callsOf rest

end

/-- The policies that a policy calls. -/
def RoutingPolicy.calls (policy : RoutingPolicy) : ExtTreeSet String :=
  .ofList (Statement.callsOf policy.statements)

end NeutralRouting
