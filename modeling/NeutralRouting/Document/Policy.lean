import NeutralRouting.Document.Network
import NeutralRouting.Filter.MatchList
import NeutralRouting.Policy.Basic

/-!
# Documents of routing policies

A condition or statement without arguments is its name; one with arguments is a record whose only
field has the name of the condition or statement.
-/

namespace NeutralRouting

open Std

/-- The names of the actions. -/
def Action.documentNames : List (String × Action) := [("Permit", .permit), ("Deny", .deny)]

/-- The names of the protocols. -/
def Protocol.documentNames : List (String × Protocol) :=
  [("Aggregate", .aggregate), ("Bgp", .bgp), ("Ibgp", .ibgp), ("Connected", .connected),
    ("Local", .hostLocal), ("Kernel", .kernel), ("Static", .static), ("Ospf", .ospf),
    ("OspfIa", .ospfInterArea), ("OspfE1", .ospfExternal1), ("OspfE2", .ospfExternal2),
    ("Isis", .isis), ("Rip", .rip)]

/-- The names of the origins. -/
def Origin.documentNames : List (String × Origin) :=
  [("Igp", .igp), ("Egp", .egp), ("Incomplete", .incomplete)]

/-- The names of the well-known communities. -/
def Community.documentNames : List (String × Community) :=
  [("NoAdvertise", .noAdvertise), ("NoExport", .noExport), ("NoPeer", .noPeer),
    ("Blackhole", .blackhole), ("LocalAs", .localAs), ("GracefulShutdown", .gracefulShutdown),
    ("AcceptOwn", .acceptOwn)]

/-- The names of the directives. -/
def Directive.documentNames : List (String × Directive) :=
  [("ReturnTrue", .returnTrue), ("ReturnFalse", .returnFalse), ("ExitAccept", .exitAccept),
    ("ExitReject", .exitReject), ("Suppress", .suppress),
    ("SetWriteIntermediateBgpAttributes", .beginIntermediateWrite),
    ("UnsetWriteIntermediateBgpAttributes", .endIntermediateWrite),
    ("SetReadIntermediateBgpAttributes", .readIntermediate)]

namespace Document

/-- An action. -/
def action? : Reader Action := named? Action.documentNames

/-- A protocol. -/
def protocol? : Reader Protocol := named? Protocol.documentNames

/-- An origin. -/
def origin? : Reader Origin := named? Origin.documentNames

/-- A community. -/
def community? : Reader Community
  | record [("Standard", words)] =>
    (pair? uint16? uint16? words).map fun (asn, value) => .standard asn value
  | document => named? Community.documentNames document

/-- A next hop. -/
def nextHop? : Reader NextHop
  | text "SelfNextHop" => some .self
  | record [("Address", target)] => target.address?.map .address
  | _ => none

/-- A set of destinations. -/
def destinations? : Reader DestinationSet
  | record [("Explicit", ranges)] => ranges.space?.map .space
  | record [("Named", name)] => name.string?.map .list
  | _ => none

/-- A condition that contains no other condition or statement. -/
def leafCondition? (kind : String) (value : Document) : Option Condition :=
  match kind with
  | "MatchProtocol" => (list? protocol? value).map .protocols
  | "MatchPrefixSet" => (destinations? value).map .destinationIn
  | "MatchCommunities" => value.string?.map .communityList
  | "MatchAsPath" => value.string?.map .asPathList
  | "MatchTag" => value.uint32?.map .tagIs
  | "Call" => value.string?.map .call
  | _ => none

/-- The communities set by a statement. -/
def setCommunities? (value : Document) : Option Statement := do
  let fields ← value.fields?
  let communities ← fields.required "communities" (list? community?)
  return .setCommunities (.ofList communities) (← fields.required "additive" bool?)

/-- A statement that contains no condition. -/
def leafStatement? (kind : String) (value : Document) : Option Statement :=
  match kind with
  | "Call" => value.string?.map .call
  | "SetOrigin" => (origin? value).map .setOrigin
  | "SetNextHop" => (nextHop? value).map .setNextHop
  | "SetLocalPreference" => value.uint32?.map .setLocalPreference
  | "SetMetric" => value.uint32?.map .setMetric
  | "SetTag" => value.uint32?.map .setTag
  | "SetWeight" => value.uint32?.map .setWeight
  | "SetCommunities" => setCommunities? value
  | "Static" => (named? Directive.documentNames value).map .directive
  | _ => none

mutual

/-- A condition. -/
def condition? : Reader Condition
  | text "True" => some .always
  | text "False" => some .never
  | record [("Not", value)] => (condition? value).map .negation
  | record [("Conjunction", record fields)] => do
    return .all (← conditionsField? "exprs" fields) (← Fields.optional fields "comment" string?)
  | record [("Disjunction", record fields)] => do
    return .any (← conditionsField? "exprs" fields) (← Fields.optional fields "comment" string?)
  | record [("WithEnvironment", record fields)] => do
    let inner ← conditionField? "expr" fields
    let before ← statementsField? "pre" fields
    let after ← statementsField? "post" fields
    return .bracket before inner after (← statementsField? "post_true" fields)
  | record [(kind, value)] => leafCondition? kind value
  | _ => none

/-- The condition in a field. -/
def conditionField? (name : String) : Fields → Option Condition
  | [] => none
  | (key, value) :: rest => if key = name then condition? value else conditionField? name rest

/-- The conditions in a field. -/
def conditionsField? (name : String) : Fields → Option (List Condition)
  | [] => none
  | (key, list items) :: rest =>
    if key = name then conditions? items else conditionsField? name rest
  | (key, _) :: rest => if key = name then none else conditionsField? name rest

/-- Conditions in order. -/
def conditions? : List Document → Option (List Condition)
  | [] => some []
  | item :: rest => do return (← condition? item) :: (← conditions? rest)

/-- A statement. -/
def statement? : Reader Statement
  | record [("If", record fields)] => do
    let guard ← conditionField? "guard" fields
    let whenTrue ← statementsField? "true_statements" fields
    let whenFalse ← statementsField? "false_statements" fields
    return .branch (← Fields.optional fields "comment" string?) guard whenTrue whenFalse
  | record [(kind, value)] => leafStatement? kind value
  | _ => none

/-- The statements in a field. -/
def statementsField? (name : String) : Fields → Option (List Statement)
  | [] => none
  | (key, list items) :: rest =>
    if key = name then statements? items else statementsField? name rest
  | (key, _) :: rest => if key = name then none else statementsField? name rest

/-- Statements in order. -/
def statements? : List Document → Option (List Statement)
  | [] => some []
  | item :: rest => do return (← statement? item) :: (← statements? rest)

end

/-- A routing policy. -/
def policy? (document : Document) : Option RoutingPolicy := do
  let fields ← document.fields?
  return ⟨← fields.required "name" string?, ← statementsField? "statements" fields⟩

/-- An action by name. -/
def ofAction : Action → Document := ofNamed Action.documentNames

/-- A protocol by name. -/
def ofProtocol : Protocol → Document := ofNamed Protocol.documentNames

/-- A community: its two words, or its name. -/
def ofCommunity : Community → Document
  | .standard asn value => tagged "Standard" (list [ofNat asn.toNat, ofNat value.toNat])
  | community => ofNamed Community.documentNames community

/-- A next hop. -/
def ofNextHop : NextHop → Document
  | .self => text "SelfNextHop"
  | .address target => tagged "Address" (ofAddress target)

/-- A set of destinations. -/
def ofDestinations : DestinationSet → Document
  | .space prefixes => tagged "Explicit" (ofSpace prefixes)
  | .list name => tagged "Named" (text name)

/-- A comment, or null. -/
def ofComment : Option String → Document := ofOption text

mutual

/-- A condition under its name. -/
def ofCondition : Condition → Document
  | .always => text "True"
  | .never => text "False"
  | .protocolIn protocols => tagged "MatchProtocol" (ofList ofProtocol protocols.toList)
  | .destinationIn destinations => tagged "MatchPrefixSet" (ofDestinations destinations)
  | .communityList name => tagged "MatchCommunities" (text name)
  | .asPathList name => tagged "MatchAsPath" (text name)
  | .tagIs tag => tagged "MatchTag" (ofUInt32 tag)
  | .negation condition => tagged "Not" (ofCondition condition)
  | .all conditions comment =>
    tagged "Conjunction"
      (record [("exprs", list (ofConditions conditions)), ("comment", ofComment comment)])
  | .any conditions comment =>
    tagged "Disjunction"
      (record [("exprs", list (ofConditions conditions)), ("comment", ofComment comment)])
  | .call policy => tagged "Call" (text policy)
  | .bracket before condition after afterTrue =>
    tagged "WithEnvironment"
      (record [("expr", ofCondition condition), ("pre", list (ofStatements before)),
        ("post", list (ofStatements after)), ("post_true", list (ofStatements afterTrue))])

/-- Conditions in order. -/
def ofConditions : List Condition → List Document
  | [] => []
  | condition :: rest => ofCondition condition :: ofConditions rest

/-- A statement under its name. -/
def ofStatement : Statement → Document
  | .branch comment guard whenTrue whenFalse =>
    tagged "If"
      (record [("comment", ofComment comment), ("guard", ofCondition guard),
        ("true_statements", list (ofStatements whenTrue)),
        ("false_statements", list (ofStatements whenFalse))])
  | .call policy => tagged "Call" (text policy)
  | .setOrigin origin => tagged "SetOrigin" (ofNamed Origin.documentNames origin)
  | .setNextHop nextHop => tagged "SetNextHop" (ofNextHop nextHop)
  | .setLocalPreference preference => tagged "SetLocalPreference" (ofUInt32 preference)
  | .setMetric metric => tagged "SetMetric" (ofUInt32 metric)
  | .setTag tag => tagged "SetTag" (ofUInt32 tag)
  | .setWeight weight => tagged "SetWeight" (ofUInt32 weight)
  | .setCommunities communities additive =>
    tagged "SetCommunities"
      (record [("communities", ofList ofCommunity communities.toList),
        ("additive", bool additive)])
  | .directive directive => tagged "Static" (ofNamed Directive.documentNames directive)

/-- Statements in order. -/
def ofStatements : List Statement → List Document
  | [] => []
  | statement :: rest => ofStatement statement :: ofStatements rest

end

/-- A routing policy with its statements. -/
def ofPolicy (policy : RoutingPolicy) : Document :=
  record [("name", text policy.name), ("statements", list (ofStatements policy.statements))]

end Document
end NeutralRouting
