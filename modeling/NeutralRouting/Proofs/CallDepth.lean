import Mathlib.Logic.Relation
import NeutralRouting.Proofs.Evaluation
import NeutralRouting.Proofs.References

/-!
# How many calls an evaluation opens

An evaluation depends only on what a policy refers to.  If its chains of calls are short, it ends
with the same outcome whatever larger number of open calls it is given, and never for having opened
too many of them.
-/

namespace NeutralRouting

open Std

namespace Evaluation

variable {α β : Type} {first second : Evaluation α}

/-- The two steps do the same, and neither ends because too many calls are open. -/
def SettlesAs (first second : Evaluation α) : Prop :=
  ∀ state, first.runFrom state = second.runFrom state ∧
    (first.runFrom state).1 ≠ .error .endlessCalls

theorem SettlesAs.of_ok {step : Evaluation α}
    (ends : ∀ state, ∃ value, (step.runFrom state).1 = .ok value) : step.SettlesAs step := by
  intro state
  obtain ⟨value, ended⟩ := ends state
  exact ⟨rfl, by simp [ended]⟩

theorem SettlesAs.pure (value : α) : (Pure.pure value : Evaluation α).SettlesAs (Pure.pure value) :=
  .of_ok fun _ => ⟨value, rfl⟩

theorem SettlesAs.ask (question : Route → α) : (ask question).SettlesAs (ask question) :=
  .of_ok fun state => ⟨question state.route, rfl⟩

theorem SettlesAs.change (edit : Route → Route) : (change edit).SettlesAs (change edit) :=
  .of_ok fun _ => ⟨(), rfl⟩

theorem SettlesAs.throw {halt : Halt} (other : halt ≠ .endlessCalls) :
    (throw halt : Evaluation α).SettlesAs (throw halt) := by
  intro state
  exact ⟨rfl, fun same => other (Except.error.inj same)⟩

theorem SettlesAs.bind {next others : α → Evaluation β} (front : first.SettlesAs second)
    (back : ∀ value, (next value).SettlesAs (others value)) :
    (first >>= next).SettlesAs (second >>= others) := by
  intro state
  obtain ⟨same, ends⟩ := front state
  rw [runFrom_bind, runFrom_bind, ← same]
  rcases outcome : first.runFrom state with ⟨halt | value, after⟩
  · rw [outcome] at ends
    exact ⟨rfl, fun endless => ends (by rw [Except.error.inj endless])⟩
  · exact back value after

end Evaluation

open Evaluation

theorem Directive.run_settlesAs (directive : Directive) :
    directive.run.SettlesAs directive.run := by
  cases directive with
  | returnTrue => exact .throw nofun
  | returnFalse => exact .throw nofun
  | exitAccept => exact .throw nofun
  | exitReject => exact .throw nofun
  | suppress => exact .of_ok fun _ => ⟨(), rfl⟩
  | beginIntermediateWrite => exact .of_ok fun _ => ⟨(), rfl⟩
  | endIntermediateWrite => exact .of_ok fun _ => ⟨(), rfl⟩
  | readIntermediate => exact .of_ok fun _ => ⟨(), rfl⟩

/-- The environments read a list of that name alike, or a call of the policy settles. -/
def Environment.SettlesAs (first second : Environment) : Reference → Prop
  | .policy name => (first.call name).SettlesAs (second.call name)
  | .destinationList name => first.destinationList name = second.destinationList name
  | .communityList name => first.communityList name = second.communityList name
  | .asPathList name => first.asPathList name = second.asPathList name

section Agreement

variable {first second : Environment}

mutual

/-- A condition settles if everything it mentions does. -/
theorem Condition.test_settlesAs : ∀ condition : Condition,
    (∀ reference, condition.Mentions reference → first.SettlesAs second reference) →
    (condition.test first).SettlesAs (condition.test second)
  | .always, _ | .never, _ => by
    simp only [Condition.test]
    exact .pure _
  | .protocolIn _, _ | .tagIs _, _ => by
    simp only [Condition.test]
    exact .ask _
  | .destinationIn (.space prefixes), _ => by
    simp only [Condition.test]
    exact .ask _
  | .destinationIn (.list name), settles => by
    have same : first.destinationList name = second.destinationList name :=
      settles _ (.destinationList name)
    simp only [Condition.test, DestinationSet.holds, same]
    exact .ask _
  | .communityList name, settles => by
    have same : first.communityList name = second.communityList name :=
      settles _ (.communityList name)
    simp only [Condition.test, same]
    exact .ask _
  | .asPathList name, settles => by
    have same : first.asPathList name = second.asPathList name := settles _ (.asPathList name)
    simp only [Condition.test, same]
    exact .ask _
  | .negation condition, settles => by
    simp only [Condition.test]
    exact .bind (condition.test_settlesAs fun reference inside =>
      settles reference (.negation inside)) fun _ => .pure _
  | .all conditions _, settles => by
    simp only [Condition.test]
    exact Condition.testAll_settlesAs conditions fun condition member reference inside =>
      settles reference (.all member inside)
  | .any conditions _, settles => by
    simp only [Condition.test]
    exact Condition.testAny_settlesAs conditions fun condition member reference inside =>
      settles reference (.any member inside)
  | .call name, settles => by
    simp only [Condition.test]
    exact settles _ (.call name)
  | .bracket before condition after afterTrue, settles => by
    have around : ∀ statement ∈ before ++ after ++ afterTrue, ∀ reference,
        statement.Mentions reference → first.SettlesAs second reference :=
      fun statement member reference inside => settles reference (.bracket member inside)
    simp only [Condition.test]
    refine .bind (Statement.runAll_settlesAs before fun statement member =>
      around statement (by simp [member])) fun _ => ?_
    refine .bind (condition.test_settlesAs fun reference inside =>
      settles reference (.bracketed inside)) fun held => ?_
    refine .bind (Statement.runAll_settlesAs after fun statement member =>
      around statement (by simp [member])) fun _ => ?_
    split
    · exact .bind (Statement.runAll_settlesAs afterTrue fun statement member =>
        around statement (by simp [member])) fun _ => .pure _
    · exact .pure _

theorem Condition.testAll_settlesAs : ∀ conditions : List Condition,
    (∀ condition ∈ conditions, ∀ reference, condition.Mentions reference →
      first.SettlesAs second reference) →
    (Condition.testAll first conditions).SettlesAs (Condition.testAll second conditions)
  | [], _ => by
    simp only [Condition.testAll]
    exact .pure _
  | condition :: rest, settles => by
    simp only [Condition.testAll]
    refine .bind (condition.test_settlesAs (settles condition List.mem_cons_self)) fun held => ?_
    split
    · exact Condition.testAll_settlesAs rest fun other member =>
        settles other (List.mem_cons_of_mem _ member)
    · exact .pure _

theorem Condition.testAny_settlesAs : ∀ conditions : List Condition,
    (∀ condition ∈ conditions, ∀ reference, condition.Mentions reference →
      first.SettlesAs second reference) →
    (Condition.testAny first conditions).SettlesAs (Condition.testAny second conditions)
  | [], _ => by
    simp only [Condition.testAny]
    exact .pure _
  | condition :: rest, settles => by
    simp only [Condition.testAny]
    refine .bind (condition.test_settlesAs (settles condition List.mem_cons_self)) fun held => ?_
    split
    · exact .pure _
    · exact Condition.testAny_settlesAs rest fun other member =>
        settles other (List.mem_cons_of_mem _ member)

/-- A statement settles if everything it mentions does. -/
theorem Statement.run_settlesAs : ∀ statement : Statement,
    (∀ reference, statement.Mentions reference → first.SettlesAs second reference) →
    (statement.run first).SettlesAs (statement.run second)
  | .branch _ guard whenTrue whenFalse, settles => by
    have branches : ∀ statement ∈ whenTrue ++ whenFalse, ∀ reference,
        statement.Mentions reference → first.SettlesAs second reference :=
      fun statement member reference inside => settles reference (.branch member inside)
    simp only [Statement.run]
    refine .bind (guard.test_settlesAs fun reference inside =>
      settles reference (.guard inside)) fun held => ?_
    split
    · exact Statement.runAll_settlesAs whenTrue fun statement member =>
        branches statement (List.mem_append_left _ member)
    · exact Statement.runAll_settlesAs whenFalse fun statement member =>
        branches statement (List.mem_append_right _ member)
  | .call name, settles => by
    have called : (first.call name).SettlesAs (second.call name) := settles _ (.call name)
    simp only [Statement.run]
    exact called.bind fun _ => .pure _
  | .setOrigin _, _ | .setNextHop _, _ | .setLocalPreference _, _ | .setMetric _, _ => by
    simp only [Statement.run]
    exact .change _
  | .setTag _, _ | .setWeight _, _ | .setCommunities _ _, _ => by
    simp only [Statement.run]
    exact .change _
  | .directive directive, _ => by
    simp only [Statement.run]
    exact directive.run_settlesAs

theorem Statement.runAll_settlesAs : ∀ statements : List Statement,
    (∀ statement ∈ statements, ∀ reference, statement.Mentions reference →
      first.SettlesAs second reference) →
    (Statement.runAll first statements).SettlesAs (Statement.runAll second statements)
  | [], _ => by
    simp only [Statement.runAll]
    exact .pure _
  | statement :: rest, settles => by
    simp only [Statement.runAll]
    exact .bind (statement.run_settlesAs (settles statement List.mem_cons_self)) fun _ =>
      Statement.runAll_settlesAs rest fun other member =>
        settles other (List.mem_cons_of_mem _ member)

end

/-- The verdict of a policy settles if everything it mentions does. -/
theorem RoutingPolicy.verdict_settlesAs {policy : RoutingPolicy}
    (settles : ∀ reference, policy.Mentions reference → first.SettlesAs second reference) :
    (policy.verdict first).SettlesAs (policy.verdict second) := by
  have statements := Statement.runAll_settlesAs policy.statements
    fun statement member reference inside => settles reference ⟨statement, member, inside⟩
  have body := statements.bind fun _ => .pure false
  intro state
  obtain ⟨same, ends⟩ := body state
  rw [verdict, verdict, runFrom_tryCatch, runFrom_tryCatch, ← same]
  rcases outcome : (Statement.runAll first policy.statements >>= fun _ =>
    (pure false : Evaluation Bool)).runFrom state with ⟨halt | value, after⟩
  · rw [outcome] at ends
    refine ⟨rfl, ?_⟩
    cases halt with
    | returned verdict => simp
    | exited verdict => simp
    | endlessCalls => exact absurd rfl ends
  · exact ⟨rfl, by simp⟩

end Agreement

namespace Configuration

variable {configuration : Configuration}

/-- Evaluating the named policy opens at most that many calls at a time, its own among them.  A call
of a policy that does not exist counts as well. -/
inductive OpensAtMost (configuration : Configuration) : Nat → String → Prop
  | undefined {depth : Nat} {name : String} : name ∉ configuration.policies →
      configuration.OpensAtMost (depth + 1) name
  | policy {depth : Nat} {name : String} {policy : RoutingPolicy} :
      configuration.policies[name]? = some policy →
      (∀ callee, policy.Mentions (.policy callee) → configuration.OpensAtMost depth callee) →
      configuration.OpensAtMost (depth + 1) name

theorem OpensAtMost.mono {depth larger : Nat} {name : String}
    (opens : configuration.OpensAtMost depth name) (enough : depth ≤ larger) :
    configuration.OpensAtMost larger name := by
  induction opens generalizing larger with
  | undefined absent =>
      obtain ⟨extra, rfl⟩ := Nat.exists_eq_add_of_le' enough
      exact .undefined absent
  | policy found _ ih =>
      obtain ⟨extra, rfl⟩ := Nat.exists_eq_add_of_le' enough
      exact .policy found fun callee mentions => ih callee mentions (Nat.le_add_left _ _)

/-- As many open calls as are needed are enough, and more make no difference. -/
theorem OpensAtMost.call_settlesAs {depth : Nat} {name : String}
    (opens : configuration.OpensAtMost depth name) (reading : ListReading) (extra : Nat) :
    (configuration.call reading depth name).SettlesAs
      (configuration.call reading (depth + extra) name) := by
  induction opens with
  | @undefined depth name absent =>
      have missing : configuration.policies[name]? = none := ExtTreeMap.getElem?_eq_none absent
      rw [Nat.add_right_comm, call, call, missing]
      exact .pure false
  | @policy depth name policy found _ ih =>
      rw [Nat.add_right_comm, call, call, found]
      refine RoutingPolicy.verdict_settlesAs fun reference mentions => ?_
      cases reference with
      | policy callee => exact ih callee mentions
      | destinationList _ => rfl
      | communityList _ => rfl
      | asPathList _ => rfl

theorem OpensAtMost.runFrom_call_eq {depth other : Nat} {name : String}
    (opens : configuration.OpensAtMost depth name)
    (opens_other : configuration.OpensAtMost other name) (reading : ListReading)
    (state : RouteState) :
    (configuration.call reading depth name).runFrom state =
      (configuration.call reading other name).runFrom state := by
  rcases Nat.le_total depth other with fewer | fewer
  · obtain ⟨extra, rfl⟩ := Nat.exists_eq_add_of_le fewer
    exact (opens.call_settlesAs reading extra state).1
  · obtain ⟨extra, rfl⟩ := Nat.exists_eq_add_of_le fewer
    exact (opens_other.call_settlesAs reading extra state).1.symm

/-- A registered policy calls another one, at any depth. -/
def Calls (configuration : Configuration) (caller callee : String) : Prop :=
  callee ∈ configuration.policies ∧
    ∃ policy, configuration.policies[caller]? = some policy ∧ policy.Mentions (.policy callee)

theorem OpensAtMost.exists_lt_of_calls {depth : Nat} {caller callee : String}
    (opens : configuration.OpensAtMost depth caller) (calls : configuration.Calls caller callee) :
    ∃ fewer < depth, configuration.OpensAtMost fewer callee := by
  obtain ⟨-, policy, found, mentions⟩ := calls
  cases opens with
  | undefined absent => exact absurd (Table.mem_iff_getElem?_eq_some.mpr ⟨policy, found⟩) absent
  | policy same callees =>
      cases found.symm.trans same
      exact ⟨_, Nat.lt_succ_self _, callees callee mentions⟩

theorem OpensAtMost.exists_lt_of_transGen {depth : Nat} {caller callee : String}
    (opens : configuration.OpensAtMost depth caller)
    (calls : Relation.TransGen configuration.Calls caller callee) :
    ∃ fewer < depth, configuration.OpensAtMost fewer callee := by
  induction calls with
  | single call => exact opens.exists_lt_of_calls call
  | tail _ call ih =>
      obtain ⟨fewer, fewer_lt, between⟩ := ih
      obtain ⟨fewest, fewest_lt, last⟩ := between.exists_lt_of_calls call
      exact ⟨fewest, Nat.lt_trans fewest_lt fewer_lt, last⟩

/-- A policy with a bound on its open calls is on no cycle. -/
theorem OpensAtMost.not_transGen_self {depth : Nat} {name : String}
    (opens : configuration.OpensAtMost depth name) :
    ¬Relation.TransGen configuration.Calls name name := by
  intro cycle
  induction depth using Nat.strongRecOn with
  | ind depth ih =>
      obtain ⟨fewer, fewer_lt, again⟩ := opens.exists_lt_of_transGen cycle
      exact ih fewer fewer_lt again

/-- A chain of calls visits no more policies than are open at its end. -/
theorem OpensAtMost.length_le {depth : Nat} {name : String} {rest : List String}
    (opens : configuration.OpensAtMost depth name)
    (chain : (name :: rest).IsChain configuration.Calls) : (name :: rest).length ≤ depth := by
  induction rest generalizing depth name with
  | nil =>
      cases opens with
      | undefined => exact Nat.le_add_left _ _
      | policy => exact Nat.le_add_left _ _
  | cons callee rest ih =>
      obtain ⟨call, chain⟩ := List.isChain_cons_cons.mp chain
      obtain ⟨fewer, fewer_lt, callee_opens⟩ := opens.exists_lt_of_calls call
      exact Nat.succ_le_of_lt (Nat.lt_of_le_of_lt (ih callee_opens chain) fewer_lt)

/-- Without a cycle of calls the policies that are open at a time all differ, so one call more than
there are policies is enough. -/
theorem opensAtMost_of_acyclic
    (acyclic : ∀ name, ¬Relation.TransGen configuration.Calls name name) (name : String) :
    configuration.OpensAtMost (configuration.policies.size + 1) name := by
  suffices general : ∀ (room : Nat) (callers : List String) (name : String), callers.Nodup →
      (∀ caller ∈ callers, caller ∈ configuration.policies) →
      callers.length + room = configuration.policies.size →
      (name ∈ configuration.policies →
        ∀ caller ∈ callers, Relation.TransGen configuration.Calls caller name) →
      configuration.OpensAtMost (room + 1) name from
    general _ [] name List.nodup_nil nofun (Nat.zero_add _) nofun
  intro room
  induction room with
  | zero =>
      intro callers name distinct registered full called
      refine .undefined fun present => ?_
      have fresh : name ∉ callers := fun member => acyclic name (called present name member)
      have more := Table.length_le_size_of_nodup (List.nodup_cons.mpr ⟨fresh, distinct⟩)
        (List.forall_mem_cons.mpr ⟨present, registered⟩)
      rw [List.length_cons] at more
      omega
  | succ room ih =>
      intro callers name distinct registered rest called
      by_cases present : name ∈ configuration.policies
      · have fresh : name ∉ callers := fun member => acyclic name (called present name member)
        obtain ⟨policy, found⟩ := Table.mem_iff_getElem?_eq_some.mp present
        refine .policy found fun callee mentions => ih (name :: callers) callee
          (List.nodup_cons.mpr ⟨fresh, distinct⟩) (List.forall_mem_cons.mpr ⟨present, registered⟩)
          (by rw [List.length_cons]; omega) fun callee_present => ?_
        have calls : configuration.Calls name callee := ⟨callee_present, policy, found, mentions⟩
        exact List.forall_mem_cons.mpr
          ⟨.single calls, fun caller member => (called present caller member).tail calls⟩
      · exact .undefined present

/-- Without a cycle of calls an evaluation ends with an outcome of its own. -/
theorem evaluate_ne_endlessCalls
    (acyclic : ∀ name, ¬Relation.TransGen configuration.Calls name name) (reading : ListReading)
    (name : String) (route : Route) :
    (configuration.evaluate reading name route).1 ≠ .error .endlessCalls :=
  ((opensAtMost_of_acyclic acyclic name).call_settlesAs reading 0 (.initial route)).2

/-- An evaluation needs no more open calls than its policy opens. -/
theorem OpensAtMost.runFrom_call_eq_evaluate {depth : Nat} {name : String}
    (opens : configuration.OpensAtMost depth name)
    (acyclic : ∀ name, ¬Relation.TransGen configuration.Calls name name) (reading : ListReading)
    (route : Route) :
    (configuration.call reading depth name).runFrom (.initial route) =
      configuration.evaluate reading name route :=
  opens.runFrom_call_eq (opensAtMost_of_acyclic acyclic name) reading _

end Configuration
end NeutralRouting
