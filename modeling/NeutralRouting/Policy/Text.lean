import NeutralRouting.Policy.Basic

/-!
# Text of routing policies

Conditions and single statements are written on one line.  A whole policy is laid out with one
line per statement, two spaces of indentation per nesting level, and the branches of a conditional
one level below it.
-/

namespace NeutralRouting

open Std

/-- Items separated by a comma and a space. -/
def commaSeparated (items : List String) : String := ", ".intercalate items

/-- A space in braces, or the name of a list. -/
def DestinationSet.text : DestinationSet → String
  | space prefixes => prefixes.text
  | list name => s!"list {name}"

instance : ToString DestinationSet := ⟨DestinationSet.text⟩

/-- The keyword `self` or an address. -/
def NextHop.text : NextHop → String
  | self => "self"
  | address target => target.text

instance : ToString NextHop := ⟨NextHop.text⟩

/-- The keyword of a directive. -/
def Directive.text : Directive → String
  | returnTrue => "return-true"
  | returnFalse => "return-false"
  | exitAccept => "exit-accept"
  | exitReject => "exit-reject"
  | suppress => "suppress"
  | beginIntermediateWrite => "set-write-intermediate-bgp"
  | endIntermediateWrite => "unset-write-intermediate-bgp"
  | readIntermediate => "set-read-intermediate-bgp"

instance : ToString Directive := ⟨Directive.text⟩

mutual

/-- A condition on one line. -/
def Condition.text : Condition → String
  | .always => "true"
  | .never => "false"
  | .protocolIn protocols =>
    "protocol in \x7b" ++ commaSeparated (protocols.toList.map toString) ++ "\x7d"
  | .destinationIn destinations => s!"destination in {destinations}"
  | .communityList name => s!"community-list {name}"
  | .asPathList name => s!"as-path-list {name}"
  | .tagIs tag => s!"tag {tag}"
  | .negation condition => "not(" ++ condition.text ++ ")"
  | .all conditions _ => "and(" ++ commaSeparated (Condition.texts conditions) ++ ")"
  | .any conditions _ => "or(" ++ commaSeparated (Condition.texts conditions) ++ ")"
  | .call policy => s!"call {policy}"
  | .bracket before condition after afterTrue =>
    "with-env[" ++ commaSeparated (Statement.texts before) ++ "](" ++ condition.text ++ ")[" ++
      commaSeparated (Statement.texts after) ++ "][" ++
      commaSeparated (Statement.texts afterTrue) ++ "]"

/-- Conditions, each on one line. -/
def Condition.texts : List Condition → List String
  | [] => []
  | condition :: rest => condition.text :: Condition.texts rest

/-- A statement on one line; the branches of a conditional are left out. -/
def Statement.text : Statement → String
  | .branch _ guard _ _ => "if " ++ guard.text ++ " \x7b..\x7d"
  | .call policy => s!"call {policy}"
  | .setOrigin origin => s!"set origin {origin}"
  | .setNextHop nextHop => s!"set next-hop {nextHop}"
  | .setLocalPreference preference => s!"set local-preference {preference}"
  | .setMetric metric => s!"set metric {metric}"
  | .setTag tag => s!"set tag {tag}"
  | .setWeight weight => s!"set weight {weight}"
  | .setCommunities communities additive =>
    "set community" ++ String.join (communities.toList.map fun community => s!" {community}") ++
      (if additive then " additive" else "")
  | .directive directive => directive.text

/-- Statements, each on one line. -/
def Statement.texts : List Statement → List String
  | [] => []
  | statement :: rest => statement.text :: Statement.texts rest

end

instance : ToString Condition := ⟨Condition.text⟩

instance : ToString Statement := ⟨Statement.text⟩

/-- A line indented by two spaces per nesting level. -/
def indented (depth : Nat) (line : String) : String :=
  String.ofList (List.replicate (2 * depth) ' ') ++ line

mutual

/-- The lines of a statement at a nesting level. -/
def Statement.lines (depth : Nat) : Statement → List String
  | .branch comment guard whenTrue whenFalse =>
    (comment.map fun comment => indented depth s!"# {comment}").toList ++
      [indented depth ("if " ++ guard.text)] ++
      Statement.linesOf (depth + 1) whenTrue ++
      (if whenFalse.isEmpty then []
        else indented depth "else" :: Statement.linesOf (depth + 1) whenFalse)
  | statement => [indented depth statement.text]

/-- The lines of several statements, one after the other. -/
def Statement.linesOf (depth : Nat) : List Statement → List String
  | [] => []
  | statement :: rest => statement.lines depth ++ Statement.linesOf depth rest

end

namespace RoutingPolicy

/-- The header of a policy, then its statements one level deeper. -/
def lines (policy : RoutingPolicy) (depth : Nat) : List String :=
  indented depth s!"policy {policy.name}" :: Statement.linesOf (depth + 1) policy.statements

/-- The lines of a policy, each ended by a line feed. -/
def render (policy : RoutingPolicy) (depth : Nat) : String :=
  String.join ((policy.lines depth).map (· ++ "\n"))

/-- A policy laid out from the left margin. -/
def text (policy : RoutingPolicy) : String := policy.render 0

end RoutingPolicy
end NeutralRouting
