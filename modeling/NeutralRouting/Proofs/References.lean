import NeutralRouting.Configuration
import NeutralRouting.Proofs.Table

/-!
# References of policies

Policies refer to other policies and to match lists by name, anywhere in the tree of their
statements and conditions.  The names that a policy is said to call are exactly those of the calls
that occur in it.
-/

namespace NeutralRouting

open Std

/-- What a policy may refer to by name. -/
inductive Reference where
  | policy (name : String)
  | destinationList (name : String)
  | communityList (name : String)
  | asPathList (name : String)
deriving DecidableEq

mutual

/-- The reference occurs in a condition, at any depth. -/
inductive Condition.Mentions : Condition → Reference → Prop
  | call (name : String) : Condition.Mentions (.call name) (.policy name)
  | destinationList (name : String) :
      Condition.Mentions (.destinationIn (.list name)) (.destinationList name)
  | communityList (name : String) : Condition.Mentions (.communityList name) (.communityList name)
  | asPathList (name : String) : Condition.Mentions (.asPathList name) (.asPathList name)
  | negation {condition : Condition} {reference : Reference} :
      condition.Mentions reference → Condition.Mentions (.negation condition) reference
  | all {conditions : List Condition} {comment : Option String} {condition : Condition}
      {reference : Reference} :
      condition ∈ conditions → condition.Mentions reference →
      Condition.Mentions (.all conditions comment) reference
  | any {conditions : List Condition} {comment : Option String} {condition : Condition}
      {reference : Reference} :
      condition ∈ conditions → condition.Mentions reference →
      Condition.Mentions (.any conditions comment) reference
  | bracketed {before after afterTrue : List Statement} {condition : Condition}
      {reference : Reference} :
      condition.Mentions reference →
      Condition.Mentions (.bracket before condition after afterTrue) reference
  | bracket {before after afterTrue : List Statement} {condition : Condition}
      {statement : Statement} {reference : Reference} :
      statement ∈ before ++ after ++ afterTrue → statement.Mentions reference →
      Condition.Mentions (.bracket before condition after afterTrue) reference

/-- The reference occurs in a statement, at any depth. -/
inductive Statement.Mentions : Statement → Reference → Prop
  | call (name : String) : Statement.Mentions (.call name) (.policy name)
  | guard {comment : Option String} {guard : Condition} {whenTrue whenFalse : List Statement}
      {reference : Reference} :
      guard.Mentions reference →
      Statement.Mentions (.branch comment guard whenTrue whenFalse) reference
  | branch {comment : Option String} {guard : Condition} {whenTrue whenFalse : List Statement}
      {statement : Statement} {reference : Reference} :
      statement ∈ whenTrue ++ whenFalse → statement.Mentions reference →
      Statement.Mentions (.branch comment guard whenTrue whenFalse) reference

end

/-- The reference occurs in a policy. -/
def RoutingPolicy.Mentions (policy : RoutingPolicy) (reference : Reference) : Prop :=
  ∃ statement ∈ policy.statements, statement.Mentions reference

namespace Condition

variable {reference : Reference} {comment : Option String} {conditions : List Condition}
  {condition : Condition} {before after afterTrue : List Statement}

@[simp]
theorem not_mentions_always : ¬always.Mentions reference := nofun

@[simp]
theorem not_mentions_never : ¬never.Mentions reference := nofun

@[simp]
theorem not_mentions_protocolIn (protocols : ExtTreeSet Protocol) :
    ¬(protocolIn protocols).Mentions reference := nofun

@[simp]
theorem not_mentions_space (space : PrefixSpace) :
    ¬(destinationIn (.space space)).Mentions reference := nofun

@[simp]
theorem not_mentions_tagIs (tag : UInt32) : ¬(tagIs tag).Mentions reference := nofun

@[simp]
theorem mentions_list_iff {name : String} :
    (destinationIn (.list name)).Mentions reference ↔ reference = .destinationList name := by
  constructor
  · rintro ⟨⟩
    rfl
  · rintro rfl
    exact .destinationList name

@[simp]
theorem mentions_communityList_iff {name : String} :
    (communityList name).Mentions reference ↔ reference = .communityList name := by
  constructor
  · rintro ⟨⟩
    rfl
  · rintro rfl
    exact .communityList name

@[simp]
theorem mentions_asPathList_iff {name : String} :
    (asPathList name).Mentions reference ↔ reference = .asPathList name := by
  constructor
  · rintro ⟨⟩
    rfl
  · rintro rfl
    exact .asPathList name

@[simp]
theorem mentions_call_iff {name : String} :
    (call name).Mentions reference ↔ reference = .policy name := by
  constructor
  · rintro ⟨⟩
    rfl
  · rintro rfl
    exact .call name

@[simp]
theorem mentions_negation_iff :
    (negation condition).Mentions reference ↔ condition.Mentions reference := by
  constructor
  · rintro ⟨⟩
    assumption
  · exact .negation

@[simp]
theorem mentions_all_iff :
    (all conditions comment).Mentions reference ↔
      ∃ condition ∈ conditions, condition.Mentions reference := by
  constructor
  · intro mentions
    cases mentions with
    | all member inside => exact ⟨_, member, inside⟩
  · rintro ⟨condition, member, inside⟩
    exact .all member inside

@[simp]
theorem mentions_any_iff :
    (any conditions comment).Mentions reference ↔
      ∃ condition ∈ conditions, condition.Mentions reference := by
  constructor
  · intro mentions
    cases mentions with
    | any member inside => exact ⟨_, member, inside⟩
  · rintro ⟨condition, member, inside⟩
    exact .any member inside

@[simp]
theorem mentions_bracket_iff :
    (bracket before condition after afterTrue).Mentions reference ↔
      condition.Mentions reference ∨
        ∃ statement ∈ before ++ after ++ afterTrue, statement.Mentions reference := by
  constructor
  · intro mentions
    cases mentions with
    | bracketed inside => exact .inl inside
    | bracket member inside => exact .inr ⟨_, member, inside⟩
  · rintro (inside | ⟨statement, member, inside⟩)
    · exact .bracketed inside
    · exact .bracket member inside

end Condition

namespace Statement

variable {reference : Reference} {comment : Option String} {guard : Condition}
  {whenTrue whenFalse : List Statement}

@[simp]
theorem mentions_call_iff {name : String} :
    (call name).Mentions reference ↔ reference = .policy name := by
  constructor
  · rintro ⟨⟩
    rfl
  · rintro rfl
    exact .call name

@[simp]
theorem mentions_branch_iff :
    (branch comment guard whenTrue whenFalse).Mentions reference ↔
      guard.Mentions reference ∨
        ∃ statement ∈ whenTrue ++ whenFalse, statement.Mentions reference := by
  constructor
  · intro mentions
    cases mentions with
    | guard inside => exact .inl inside
    | branch member inside => exact .inr ⟨_, member, inside⟩
  · rintro (inside | ⟨statement, member, inside⟩)
    · exact .guard inside
    · exact .branch member inside

@[simp]
theorem not_mentions_setOrigin (origin : Origin) : ¬(setOrigin origin).Mentions reference := nofun

@[simp]
theorem not_mentions_setNextHop (nextHop : NextHop) :
    ¬(setNextHop nextHop).Mentions reference := nofun

@[simp]
theorem not_mentions_setLocalPreference (preference : UInt32) :
    ¬(setLocalPreference preference).Mentions reference := nofun

@[simp]
theorem not_mentions_setMetric (metric : UInt32) : ¬(setMetric metric).Mentions reference := nofun

@[simp]
theorem not_mentions_setTag (tag : UInt32) : ¬(setTag tag).Mentions reference := nofun

@[simp]
theorem not_mentions_setWeight (weight : UInt32) : ¬(setWeight weight).Mentions reference := nofun

@[simp]
theorem not_mentions_setCommunities (communities : ExtTreeSet Community) (additive : Bool) :
    ¬(setCommunities communities additive).Mentions reference := nofun

@[simp]
theorem not_mentions_directive (directive : Directive) :
    ¬(Statement.directive directive).Mentions reference := nofun

end Statement

section Calls

variable {name : String}

mutual

/-- The names called in a condition are those of the calls that occur in it. -/
theorem Condition.mem_calls_iff : ∀ condition : Condition,
    name ∈ condition.calls ↔ condition.Mentions (.policy name)
  | .always | .never | .protocolIn _ | .destinationIn (.space _) | .tagIs _ => by
    simp [Condition.calls]
  | .destinationIn (.list _) | .communityList _ | .asPathList _ | .call _ => by
    simp [Condition.calls]
  | .negation condition => by
    rw [Condition.calls, Condition.mentions_negation_iff, condition.mem_calls_iff]
  | .all conditions _ => by
    rw [Condition.calls, Condition.mentions_all_iff, Condition.mem_callsOf_iff conditions]
  | .any conditions _ => by
    rw [Condition.calls, Condition.mentions_any_iff, Condition.mem_callsOf_iff conditions]
  | .bracket before condition after afterTrue => by
    rw [Condition.calls, Condition.mentions_bracket_iff]
    simp only [List.mem_append, condition.mem_calls_iff, Statement.mem_callsOf_iff before,
      Statement.mem_callsOf_iff after, Statement.mem_callsOf_iff afterTrue, or_and_right,
      exists_or, or_assoc]

theorem Condition.mem_callsOf_iff : ∀ conditions : List Condition,
    name ∈ Condition.callsOf conditions ↔
      ∃ condition ∈ conditions, condition.Mentions (.policy name)
  | [] => by simp [Condition.callsOf]
  | condition :: rest => by
    rw [Condition.callsOf, List.mem_append, condition.mem_calls_iff,
      Condition.mem_callsOf_iff rest, List.exists_mem_cons_iff]

/-- The names called in a statement are those of the calls that occur in it. -/
theorem Statement.mem_calls_iff : ∀ statement : Statement,
    name ∈ statement.calls ↔ statement.Mentions (.policy name)
  | .setOrigin _ | .setNextHop _ | .setLocalPreference _ | .setMetric _ | .setTag _ => by
    simp [Statement.calls]
  | .setWeight _ | .setCommunities _ _ | .directive _ | .call _ => by
    simp [Statement.calls]
  | .branch _ guard whenTrue whenFalse => by
    rw [Statement.calls, Statement.mentions_branch_iff]
    simp only [List.mem_append, guard.mem_calls_iff, Statement.mem_callsOf_iff whenTrue,
      Statement.mem_callsOf_iff whenFalse, or_and_right, exists_or, or_assoc]

theorem Statement.mem_callsOf_iff : ∀ statements : List Statement,
    name ∈ Statement.callsOf statements ↔
      ∃ statement ∈ statements, statement.Mentions (.policy name)
  | [] => by simp [Statement.callsOf]
  | statement :: rest => by
    rw [Statement.callsOf, List.mem_append, statement.mem_calls_iff,
      Statement.mem_callsOf_iff rest, List.exists_mem_cons_iff]

end

theorem RoutingPolicy.mem_calls_iff {policy : RoutingPolicy} :
    name ∈ policy.calls ↔ policy.Mentions (.policy name) := by
  rw [calls, ExtTreeSet.mem_ofList, List.contains_iff_mem, Statement.mem_callsOf_iff]
  rfl

end Calls

namespace Configuration

variable {configuration : Configuration}

/-- The reference leads to an object of the configuration. -/
def Resolves (configuration : Configuration) : Reference → Prop
  | .policy name => name ∈ configuration.policies
  | .destinationList name => name ∈ configuration.routeFilterLists
  | .communityList name => name ∈ configuration.communityLists
  | .asPathList name => name ∈ configuration.asPathAccessLists

/-- The undefined calls are the calls of registered policies that do not resolve. -/
theorem mem_undefinedCalls_iff {name : String} :
    name ∈ configuration.undefinedCalls ↔
      (∃ (caller : String) (policy : RoutingPolicy),
        configuration.policies[caller]? = some policy ∧ policy.Mentions (.policy name)) ∧
      ¬configuration.Resolves (.policy name) := by
  rw [undefinedCalls, ExtTreeSet.mem_ofList, List.contains_iff_mem, List.mem_filter,
    decide_eq_true_iff, List.mem_flatMap]
  simp only [Table.mem_values_iff, ExtTreeSet.mem_toList, RoutingPolicy.mem_calls_iff, Resolves]
  constructor
  · rintro ⟨⟨policy, ⟨caller, found⟩, mentions⟩, undefined⟩
    exact ⟨⟨caller, policy, found, mentions⟩, undefined⟩
  · rintro ⟨⟨caller, policy, found, mentions⟩, undefined⟩
    exact ⟨⟨policy, ⟨caller, found⟩, mentions⟩, undefined⟩

end Configuration
end NeutralRouting
