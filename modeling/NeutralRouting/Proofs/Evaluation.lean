import NeutralRouting.Policy.Evaluation

/-!
# Running conditions and statements

Equations for the steps of an evaluation.  The conditions of generated policies all have one shape:
either they hold and leave a route behind, or they fail and leave the route as they found it.  For
such conditions an alternative is a search for the first one that holds.
-/

namespace NeutralRouting

open Std

namespace Evaluation

variable {α β : Type} {step : Evaluation α} {state after : RouteState}

@[simp]
theorem runFrom_pure (value : α) (state : RouteState) :
    (pure value : Evaluation α).runFrom state = (.ok value, state) := rfl

@[simp]
theorem runFrom_throw (halt : Halt) (state : RouteState) :
    (throw halt : Evaluation α).runFrom state = (.error halt, state) := rfl

theorem runFrom_bind (step : Evaluation α) (next : α → Evaluation β) (state : RouteState) :
    (step >>= next).runFrom state =
      match step.runFrom state with
      | (.ok value, after) => (next value).runFrom after
      | (.error halt, after) => (.error halt, after) := by
  change (ExceptT.bindCont next (step.runFrom state).1).run (step.runFrom state).2 = _
  rcases step.runFrom state with ⟨_ | _, after⟩ <;> rfl

theorem runFrom_tryCatch (body : Evaluation α) (handler : Halt → Evaluation α)
    (state : RouteState) :
    (tryCatch body handler).runFrom state =
      match body.runFrom state with
      | (.ok value, after) => (.ok value, after)
      | (.error halt, after) => (handler halt).runFrom after := by
  simp only [runFrom, tryCatch, tryCatchThe, MonadExceptOf.tryCatch, ExceptT.tryCatch, ExceptT.run,
    ExceptT.mk, StateT.run_bind]
  rcases StateT.run body state with ⟨_ | _, after⟩ <;> rfl

theorem runFrom_bind_of_ok {value : α} (next : α → Evaluation β)
    (run : step.runFrom state = (.ok value, after)) :
    (step >>= next).runFrom state = (next value).runFrom after := by
  rw [runFrom_bind, run]

theorem runFrom_bind_of_error {halt : Halt} (next : α → Evaluation β)
    (run : step.runFrom state = (.error halt, after)) :
    (step >>= next).runFrom state = (.error halt, after) := by
  rw [runFrom_bind, run]

/-- The test holds and leaves the given state behind, or it fails and leaves everything as it
was. -/
def Finds (step : Evaluation Bool) (state : RouteState) (found : Option RouteState) : Prop :=
  step.runFrom state = (.ok found.isSome, found.getD state)

end Evaluation

namespace Condition

open Evaluation

variable {environment : Environment} {state : RouteState}

/-- A condition that only looks at the route. -/
theorem finds_of_quiet {condition : Condition} {answer : Bool}
    (quiet : (condition.test environment).runFrom state = (.ok answer, state)) :
    Finds (condition.test environment) state (if answer then some state else none) := by
  cases answer <;> exact quiet

theorem testAll_cons (condition : Condition) (rest : List Condition) :
    testAll environment (condition :: rest) =
      (condition.test environment >>= fun holds =>
        if holds then testAll environment rest else return false) := by
  rw [testAll]

theorem testAny_cons (condition : Condition) (rest : List Condition) :
    testAny environment (condition :: rest) =
      (condition.test environment >>= fun holds =>
        if holds then return true else testAny environment rest) := by
  rw [testAny]

/-- Conditions that only look at the route are tested in one go. -/
theorem runFrom_testAll_map {τ : Type} {tests : List τ} {condition : τ → Condition}
    {holds : τ → Bool}
    (quiet : ∀ item ∈ tests,
      ((condition item).test environment).runFrom state = (.ok (holds item), state)) :
    (testAll environment (tests.map condition)).runFrom state = (.ok (tests.all holds), state) := by
  induction tests with
  | nil => rfl
  | cons item tests ih =>
      have first := quiet item List.mem_cons_self
      have others := ih fun other member => quiet other (List.mem_cons_of_mem item member)
      rw [List.map_cons, testAll_cons, runFrom_bind_of_ok _ first, List.all_cons]
      cases holds item with
      | false => rfl
      | true => simpa using others

/-- A condition that only looks at the route guards the conditions after it. -/
theorem finds_testAll_cons {condition : Condition} {answer : Bool} {rest : List Condition}
    {found : Option RouteState}
    (quiet : (condition.test environment).runFrom state = (.ok answer, state))
    (others : Finds (testAll environment rest) state found) :
    Finds (testAll environment (condition :: rest)) state (if answer then found else none) := by
  rw [Finds, testAll_cons, runFrom_bind_of_ok _ quiet]
  cases answer with
  | false => rfl
  | true => exact others

/-- The last condition may leave a changed route behind. -/
theorem finds_testAll_singleton {condition : Condition} {found : Option RouteState}
    (last : Finds (condition.test environment) state found) :
    Finds (testAll environment [condition]) state found := by
  rw [Finds, testAll_cons, runFrom_bind_of_ok _ last]
  cases found <;> rfl

theorem finds_testAny_cons {condition : Condition} {rest : List Condition}
    {found others : Option RouteState}
    (first : Finds (condition.test environment) state found)
    (next : Finds (testAny environment rest) state others) :
    Finds (testAny environment (condition :: rest)) state (found <|> others) := by
  rw [Finds, testAny_cons, runFrom_bind_of_ok _ first]
  cases found with
  | none => exact next
  | some after => rfl

/-- Alternatives of one kind are a search for the first one that holds. -/
theorem finds_testAny_map {τ : Type} {tests : List τ} {condition : τ → Condition}
    {outcome : τ → Option RouteState}
    (each : ∀ item ∈ tests, Finds ((condition item).test environment) state (outcome item)) :
    Finds (testAny environment (tests.map condition)) state (tests.findSome? outcome) := by
  induction tests with
  | nil => rfl
  | cons item tests ih =>
      have others := ih fun other member => each other (List.mem_cons_of_mem item member)
      have both := finds_testAny_cons (each item List.mem_cons_self) others
      rw [List.map_cons, List.findSome?_cons]
      cases first : outcome item with
      | none => simpa [first] using both
      | some after => simpa [first] using both

theorem finds_testAny_append {left right : List Condition} {found others : Option RouteState}
    (first : Finds (testAny environment left) state found)
    (next : Finds (testAny environment right) state others) :
    Finds (testAny environment (left ++ right)) state (found <|> others) := by
  have split : testAny environment (left ++ right) =
      (testAny environment left >>= fun holds =>
        if holds then return true else testAny environment right) := by
    clear first next
    induction left with
    | nil => simp [testAny]
    | cons condition left ih =>
        rw [List.cons_append, testAny_cons, testAny_cons, ih, bind_assoc]
        congr 1
        funext holds
        cases holds <;> simp
  rw [Finds, split, runFrom_bind_of_ok _ first]
  cases found with
  | none => exact next
  | some after => rfl

end Condition

namespace Statement

open Evaluation

variable {environment : Environment} {state after : RouteState}

theorem runAll_cons (statement : Statement) (rest : List Statement) :
    runAll environment (statement :: rest) =
      (statement.run environment >>= fun _ => runAll environment rest) := by
  rw [runAll]

theorem runFrom_runAll_cons_of_ok {statement : Statement} (rest : List Statement)
    (run : (statement.run environment).runFrom state = (.ok (), after)) :
    (runAll environment (statement :: rest)).runFrom state =
      (runAll environment rest).runFrom after := by
  rw [runAll_cons, runFrom_bind_of_ok _ run]

theorem runFrom_runAll_cons_of_error {statement : Statement} (rest : List Statement) {halt : Halt}
    (run : (statement.run environment).runFrom state = (.error halt, after)) :
    (runAll environment (statement :: rest)).runFrom state = (.error halt, after) := by
  rw [runAll_cons, runFrom_bind_of_error _ run]

/-- A conditional runs the branch that its guard selects. -/
theorem runFrom_branch {comment : Option String} {guard : Condition} {answer : Bool}
    (whenTrue whenFalse : List Statement)
    (test : (guard.test environment).runFrom state = (.ok answer, after)) :
    ((branch comment guard whenTrue whenFalse).run environment).runFrom state =
      (runAll environment (if answer then whenTrue else whenFalse)).runFrom after := by
  rw [run, runFrom_bind_of_ok _ test]
  cases answer <;> rfl

/-- The guard is the verdict. -/
theorem runFrom_runAll_returnWhether {guard : Condition} {answer : Bool}
    (test : (guard.test environment).runFrom state = (.ok answer, after)) :
    (runAll environment [returnWhether guard]).runFrom state =
      (.error (.returned answer), after) := by
  apply runFrom_runAll_cons_of_error
  rw [returnWhether, runFrom_branch _ _ test]
  cases answer <;> rfl

end Statement

namespace RoutingPolicy

open Evaluation

variable {environment : Environment} {policy : RoutingPolicy} {state after : RouteState}

theorem runFrom_verdict (environment : Environment) (policy : RoutingPolicy)
    (state : RouteState) :
    (policy.verdict environment).runFrom state =
      match (Statement.runAll environment policy.statements).runFrom state with
      | (.ok (), after) => (.ok false, after)
      | (.error (.returned verdict), after) => (.ok verdict, after)
      | (.error halt, after) => (.error halt, after) := by
  rw [verdict, runFrom_tryCatch, runFrom_bind]
  rcases (Statement.runAll environment policy.statements).runFrom state with
    ⟨⟨_ | _ | _⟩ | _, after⟩ <;> rfl

/-- A verdict given by the statements is the verdict of the policy. -/
theorem runFrom_verdict_of_returned {verdict : Bool}
    (run : (Statement.runAll environment policy.statements).runFrom state =
      (.error (.returned verdict), after)) :
    (policy.verdict environment).runFrom state = (.ok verdict, after) := by
  rw [runFrom_verdict, run]

/-- An exit leaves the policy as well. -/
theorem runFrom_verdict_of_exited {verdict : Bool}
    (run : (Statement.runAll environment policy.statements).runFrom state =
      (.error (.exited verdict), after)) :
    (policy.verdict environment).runFrom state = (.error (.exited verdict), after) := by
  rw [runFrom_verdict, run]

end RoutingPolicy

namespace Configuration

/-- Calling a policy that exists gives its verdict. -/
theorem call_of_getElem? {configuration : Configuration} {name : String} {policy : RoutingPolicy}
    (reading : ListReading) (depth : Nat) (found : configuration.policies[name]? = some policy) :
    configuration.call reading (depth + 1) name =
      policy.verdict (configuration.environment reading (configuration.call reading depth)) := by
  rw [call, found]

end Configuration
end NeutralRouting
