import Mathlib.Logic.Relation
import NeutralRouting.Proofs.References

/-!
# The tree of a policy

The conditions and statements of a policy are the nodes of a tree.  A policy mentions what some node
of its tree refers to by itself; in particular the names that a policy is said to call are those of
its call nodes, wherever these are.
-/

namespace NeutralRouting

open Std

/-- A node of the tree of a policy. -/
inductive PolicyNode where
  | condition (condition : Condition)
  | statement (statement : Statement)

namespace PolicyNode

/-- The second node is a child of the first one. -/
inductive Child : PolicyNode → PolicyNode → Prop
  | guard {comment : Option String} {guard : Condition} {whenTrue whenFalse : List Statement} :
      Child (.statement (.branch comment guard whenTrue whenFalse)) (.condition guard)
  | whenTrue {comment : Option String} {guard : Condition} {whenTrue whenFalse : List Statement}
      {statement : Statement} : statement ∈ whenTrue →
      Child (.statement (.branch comment guard whenTrue whenFalse)) (.statement statement)
  | whenFalse {comment : Option String} {guard : Condition} {whenTrue whenFalse : List Statement}
      {statement : Statement} : statement ∈ whenFalse →
      Child (.statement (.branch comment guard whenTrue whenFalse)) (.statement statement)
  | negated {condition : Condition} :
      Child (.condition (.negation condition)) (.condition condition)
  | conjunct {conditions : List Condition} {comment : Option String} {condition : Condition} :
      condition ∈ conditions → Child (.condition (.all conditions comment)) (.condition condition)
  | disjunct {conditions : List Condition} {comment : Option String} {condition : Condition} :
      condition ∈ conditions → Child (.condition (.any conditions comment)) (.condition condition)
  | bracketed {before after afterTrue : List Statement} {condition : Condition} :
      Child (.condition (.bracket before condition after afterTrue)) (.condition condition)
  | before {before after afterTrue : List Statement} {condition : Condition}
      {statement : Statement} : statement ∈ before →
      Child (.condition (.bracket before condition after afterTrue)) (.statement statement)
  | after {before after afterTrue : List Statement} {condition : Condition}
      {statement : Statement} : statement ∈ after →
      Child (.condition (.bracket before condition after afterTrue)) (.statement statement)
  | afterTrue {before after afterTrue : List Statement} {condition : Condition}
      {statement : Statement} : statement ∈ afterTrue →
      Child (.condition (.bracket before condition after afterTrue)) (.statement statement)

/-- What a node refers to by itself. -/
def reference? : PolicyNode → Option Reference
  | .condition (.call name) => some (.policy name)
  | .condition (.destinationIn (.list name)) => some (.destinationList name)
  | .condition (.communityList name) => some (.communityList name)
  | .condition (.asPathList name) => some (.asPathList name)
  | .statement (.call name) => some (.policy name)
  | _ => none

/-- The reference occurs in the condition or statement. -/
def Mentions : PolicyNode → Reference → Prop
  | .condition test => test.Mentions
  | .statement step => step.Mentions

/-- The node or one of its descendants refers to this by itself. -/
def Reaches (node : PolicyNode) (reference : Reference) : Prop :=
  ∃ descendant, Relation.ReflTransGen Child node descendant ∧
    descendant.reference? = some reference

variable {node child : PolicyNode} {reference : Reference}

theorem Reaches.of_child (reaches : child.Reaches reference) (below : Child node child) :
    node.Reaches reference := by
  obtain ⟨descendant, path, refers⟩ := reaches
  exact ⟨descendant, .head below path, refers⟩

theorem mentions_of_reference? (refers : node.reference? = some reference) :
    node.Mentions reference := by
  unfold reference? at refers
  split at refers
  all_goals cases refers
  case h_1 name => exact Condition.Mentions.call name
  case h_2 name => exact Condition.Mentions.destinationList name
  case h_3 name => exact Condition.Mentions.communityList name
  case h_4 name => exact Condition.Mentions.asPathList name
  case h_5 name => exact Statement.Mentions.call name

/-- A node mentions what its children mention. -/
theorem Mentions.of_child (mentions : child.Mentions reference) (below : Child node child) :
    node.Mentions reference := by
  cases below with
  | guard => exact Statement.Mentions.guard mentions
  | whenTrue member =>
      exact Statement.Mentions.branch (List.mem_append_left _ member) mentions
  | whenFalse member =>
      exact Statement.Mentions.branch (List.mem_append_right _ member) mentions
  | negated => exact Condition.Mentions.negation mentions
  | conjunct member => exact Condition.Mentions.all member mentions
  | disjunct member => exact Condition.Mentions.any member mentions
  | bracketed => exact Condition.Mentions.bracketed mentions
  | before member =>
      exact Condition.Mentions.bracket
        (List.mem_append_left _ (List.mem_append_left _ member)) mentions
  | after member =>
      exact Condition.Mentions.bracket
        (List.mem_append_left _ (List.mem_append_right _ member)) mentions
  | afterTrue member =>
      exact Condition.Mentions.bracket (List.mem_append_right _ member) mentions

theorem Reaches.mentions (reaches : node.Reaches reference) : node.Mentions reference := by
  obtain ⟨descendant, path, refers⟩ := reaches
  induction path using Relation.ReflTransGen.head_induction_on with
  | refl => exact mentions_of_reference? refers
  | head below _ mentions => exact mentions.of_child below

mutual

/-- What occurs in a condition is referred to by a node of its tree. -/
theorem reaches_of_condition {test : Condition} {reference : Reference}
    (mentions : test.Mentions reference) :
    Reaches (.condition test) reference := by
  match mentions with
  | .call name => exact ⟨_, .refl, rfl⟩
  | .destinationList name => exact ⟨_, .refl, rfl⟩
  | .communityList name => exact ⟨_, .refl, rfl⟩
  | .asPathList name => exact ⟨_, .refl, rfl⟩
  | .negation inside => exact (reaches_of_condition inside).of_child .negated
  | .all member inside => exact (reaches_of_condition inside).of_child (.conjunct member)
  | .any member inside => exact (reaches_of_condition inside).of_child (.disjunct member)
  | .bracketed inside => exact (reaches_of_condition inside).of_child .bracketed
  | .bracket member inside =>
      have reaches := reaches_of_statement inside
      rcases List.mem_append.mp member with around | afterTrue
      · rcases List.mem_append.mp around with before | after
        · exact reaches.of_child (.before before)
        · exact reaches.of_child (.after after)
      · exact reaches.of_child (.afterTrue afterTrue)
termination_by structural mentions

/-- What occurs in a statement is referred to by a node of its tree. -/
theorem reaches_of_statement {step : Statement} {reference : Reference}
    (mentions : step.Mentions reference) :
    Reaches (.statement step) reference := by
  match mentions with
  | .call name => exact ⟨_, .refl, rfl⟩
  | .guard inside => exact (reaches_of_condition inside).of_child .guard
  | .branch member inside =>
      have reaches := reaches_of_statement inside
      rcases List.mem_append.mp member with whenTrue | whenFalse
      · exact reaches.of_child (.whenTrue whenTrue)
      · exact reaches.of_child (.whenFalse whenFalse)
termination_by structural mentions

end

/-- A statement mentions what the nodes of its tree refer to. -/
theorem statement_mentions_iff {step : Statement} :
    step.Mentions reference ↔ Reaches (.statement step) reference :=
  ⟨reaches_of_statement, Reaches.mentions⟩

end PolicyNode

namespace RoutingPolicy

/-- The node occurs in the tree of one of the statements of the policy. -/
def HasNode (policy : RoutingPolicy) (node : PolicyNode) : Prop :=
  ∃ step ∈ policy.statements, Relation.ReflTransGen PolicyNode.Child (.statement step) node

/-- The policy has a call of this name among its nodes, as a condition or as a statement. -/
def HasCall (policy : RoutingPolicy) (name : String) : Prop :=
  policy.HasNode (.condition (.call name)) ∨ policy.HasNode (.statement (.call name))

variable {policy : RoutingPolicy} {reference : Reference} {name : String}

theorem mentions_iff_exists_node :
    policy.Mentions reference ↔
      ∃ node, policy.HasNode node ∧ node.reference? = some reference := by
  simp only [Mentions, PolicyNode.statement_mentions_iff, PolicyNode.Reaches, HasNode]
  constructor
  · intro ⟨step, member, node, path, refers⟩
    exact ⟨node, ⟨step, member, path⟩, refers⟩
  · intro ⟨node, ⟨step, member, path⟩, refers⟩
    exact ⟨step, member, node, path, refers⟩

end RoutingPolicy

/-- Calls are the only nodes that refer to policies. -/
theorem PolicyNode.reference?_eq_policy_iff {node : PolicyNode} {name : String} :
    node.reference? = some (.policy name) ↔
      node = .condition (.call name) ∨ node = .statement (.call name) := by
  constructor
  · intro refers
    unfold reference? at refers
    split at refers
    all_goals cases refers
    case h_1 => exact .inl rfl
    case h_5 => exact .inr rfl
  · intro call
    rcases call with same | same
    all_goals
      rw [same]
      rfl

theorem RoutingPolicy.hasCall_iff {policy : RoutingPolicy} {name : String} :
    policy.HasCall name ↔ policy.Mentions (.policy name) := by
  rw [mentions_iff_exists_node, HasCall]
  simp only [PolicyNode.reference?_eq_policy_iff, and_or_left, exists_or, exists_eq_right]

/-- A policy calls the names at the call nodes of its tree, and the undefined calls of a
configuration are those of them that no policy has. -/
theorem calls_are_call_nodes :
    (∀ (policy : RoutingPolicy) (name : String), name ∈ policy.calls ↔ policy.HasCall name) ∧
    ∀ (configuration : Configuration) (name : String), name ∈ configuration.undefinedCalls ↔
      (∃ (caller : String) (policy : RoutingPolicy),
        configuration.policies[caller]? = some policy ∧ policy.HasCall name) ∧
      name ∉ configuration.policies := by
  simp only [RoutingPolicy.hasCall_iff]
  exact ⟨fun _ _ => RoutingPolicy.mem_calls_iff, fun _ _ => Configuration.mem_undefinedCalls_iff⟩

example :
    (RoutingPolicy.mk "outer"
      [.when (.any [.call "b", .bracket [.call "a"] .always [] [.call "c"]] none)
        [.call "d"]]).calls.toList = ["a", "b", "c", "d"] := by decide

end NeutralRouting
