import NeutralRouting.Proofs.CommonExport

/-!
# What aggregates suppress

An aggregate is active for the routes strictly inside it, and a summary-only aggregate suppresses
exactly these.  The policy that activates an aggregate, the list of suppressed networks and the
export conditions of the aggregates are made separately from one table; here they are compared.
-/

namespace NeutralRouting

open Std Conversion

/-- The block lies inside the other one and is not the same. -/
def Prefix.StrictlyInside (inner outer : Prefix) : Prop :=
  outer.covers inner = true ∧ inner ≠ outer

instance (inner outer : Prefix) : Decidable (inner.StrictlyInside outer) :=
  inferInstanceAs (Decidable (_ ∧ _))

/-- The aggregate is in the table and stands for its more specific networks. -/
def AggregateTable.Summarizes (aggregates : AggregateTable) (aggregate : Prefix) : Prop :=
  aggregates[aggregate]? = some ⟨true⟩

theorem AggregateTable.mem_summaryOnly_iff {aggregates : AggregateTable} {aggregate : Prefix} :
    aggregate ∈ aggregates.summaryOnly ↔ aggregates.Summarizes aggregate := by
  simp only [summaryOnly, Summarizes, List.mem_map, List.mem_filter, Prod.exists,
    ExtTreeMap.mem_toList_iff_getElem?_eq_some]
  constructor
  · rintro ⟨_, ⟨only⟩, ⟨found, rfl⟩, rfl⟩
    exact found
  · intro found
    exact ⟨_, _, ⟨found, rfl⟩, rfl⟩

theorem AggregateTable.isEmpty_summaryOnly_iff {aggregates : AggregateTable} :
    aggregates.summaryOnly.isEmpty = true ↔ ¬∃ aggregate, aggregates.Summarizes aggregate := by
  simp only [List.isEmpty_iff, List.eq_nil_iff_forall_not_mem, mem_summaryOnly_iff, not_exists]

theorem PrefixRange.includes_moreSpecificThan (outer inner : Prefix) :
    (moreSpecificThan outer).includes inner = decide (inner.StrictlyInside outer) := by
  rw [Bool.eq_iff_iff, moreSpecificThan_includes_iff, decide_eq_true_iff, Prefix.StrictlyInside]

/-- A test that answers, and marks no route as suppressed on the way. -/
def Evaluation.KeepsMark (step : Evaluation Bool) : Prop :=
  ∀ state, ∃ answer after, step.runFrom state = (.ok answer, after) ∧
    after.suppressed = state.suppressed

section Marks

open Evaluation

variable {environment : Environment}

theorem Evaluation.KeepsMark.bind {step : Evaluation Bool} {next : Bool → Evaluation Bool}
    (first : KeepsMark step) (rest : ∀ answer, KeepsMark (next answer)) :
    KeepsMark (step >>= next) := by
  intro state
  obtain ⟨answer, middle, run, kept⟩ := first state
  obtain ⟨last, after, run_next, kept_next⟩ := rest answer middle
  exact ⟨last, after, by rw [runFrom_bind_of_ok _ run, run_next], kept_next.trans kept⟩

theorem Evaluation.keepsMark_pure (answer : Bool) : KeepsMark (pure answer) :=
  fun state => ⟨answer, state, rfl, rfl⟩

theorem Condition.keepsMark_testAll {conditions : List Condition}
    (each : ∀ condition ∈ conditions, KeepsMark (condition.test environment)) :
    KeepsMark (testAll environment conditions) := by
  induction conditions with
  | nil => exact keepsMark_pure true
  | cons condition rest ih =>
      rw [testAll_cons]
      refine (each condition List.mem_cons_self).bind fun answer => ?_
      cases answer with
      | false => exact keepsMark_pure false
      | true => exact ih fun other member => each other (List.mem_cons_of_mem _ member)

theorem Condition.keepsMark_testAny {conditions : List Condition}
    (each : ∀ condition ∈ conditions, KeepsMark (condition.test environment)) :
    KeepsMark (testAny environment conditions) := by
  induction conditions with
  | nil => exact keepsMark_pure false
  | cons condition rest ih =>
      rw [testAny_cons]
      refine (each condition List.mem_cons_self).bind fun answer => ?_
      cases answer with
      | false => exact ih fun other member => each other (List.mem_cons_of_mem _ member)
      | true => exact keepsMark_pure true

/-- Whether a route is an aggregate is tested without marking it. -/
theorem keepsMark_aggregateCondition (aggregate : Prefix) :
    KeepsMark ((aggregateCondition aggregate).test environment) := by
  rw [aggregateCondition, Condition.test]
  apply Condition.keepsMark_testAll
  refine List.forall_mem_cons.mpr ⟨fun state => ?_,
    List.forall_mem_cons.mpr ⟨fun state => ?_, List.forall_mem_singleton.mpr fun state => ?_⟩⟩
  · exact ⟨_, _, Condition.runFrom_destinationIs environment state aggregate, rfl⟩
  · exact ⟨_, _, Condition.runFrom_protocols environment state [.aggregate], rfl⟩
  · exact ⟨true, { state with
      route := { state.route with origin := .igp }
      writesIntermediate := false
      readsIntermediate := true }, rfl, rfl⟩

theorem keepsMark_aggregatesCondition (aggregates : AggregateTable) :
    KeepsMark ((aggregatesCondition aggregates).test environment) := by
  rw [aggregatesCondition, Condition.test]
  apply Condition.keepsMark_testAny
  intro condition member
  obtain ⟨aggregate, -, rfl⟩ := List.mem_map.mp member
  exact keepsMark_aggregateCondition aggregate

end Marks

section Artefacts

variable (vrf : String) (aggregates : AggregateTable)

/-- The policy of an aggregate holds for the routes strictly inside it, and changes nothing. -/
theorem runFrom_verdict_aggregatePolicy (aggregate : Prefix) (environment : Environment)
    (state : RouteState) :
    ((aggregatePolicy vrf aggregate).verdict environment).runFrom state =
      (.ok (decide (state.route.destination.StrictlyInside aggregate)), state) := by
  apply RoutingPolicy.runFrom_verdict_of_returned
  rw [← PrefixRange.includes_moreSpecificThan]
  exact Statement.runFrom_runAll_returnWhether
    (Condition.runFrom_destinationInRange environment state _)

theorem permits_suppressionList_iff {block : Prefix} :
    (suppressionList vrf aggregates.summaryOnly).permits block = true ↔
      ∃ aggregate, aggregates.Summarizes aggregate ∧ block.StrictlyInside aggregate := by
  simp only [permits_suppressionList, List.any_eq_true, AggregateTable.mem_summaryOnly_iff,
    PrefixRange.includes_moreSpecificThan, decide_eq_true_eq]

theorem mem_lines_suppressionList_iff {line : RouteFilterLine} :
    line ∈ (suppressionList vrf aggregates.summaryOnly).lines ↔
      ∃ aggregate, aggregates.Summarizes aggregate ∧
        line = ⟨.permit, .moreSpecificThan aggregate⟩ := by
  simp only [suppressionList, List.mem_map, AggregateTable.mem_summaryOnly_iff, eq_comm]

/-- The statement and its list are built together, and only for summary-only aggregates. -/
theorem exists_suppressSummarized {progress : Progress}
    (unused : (GeneratedName.suppressed vrf).text ∉ progress.configuration.routeFilterLists) :
    ∃ suppress after,
      (suppressSummarized vrf aggregates.summaryOnly).runFrom progress = (.ok suppress, after) ∧
      (suppress.isSome = true ↔ ∃ aggregate, aggregates.Summarizes aggregate) ∧
      ((GeneratedName.suppressed vrf).text ∈ after.configuration.routeFilterLists ↔
        ∃ aggregate, aggregates.Summarizes aggregate) ∧
      ∀ statement ∈ suppress, statement = suppression vrf ∧
        after.configuration.routeFilterLists[(GeneratedName.suppressed vrf).text]? =
          some (suppressionList vrf aggregates.summaryOnly) := by
  rw [suppressSummarized]
  cases none_only : aggregates.summaryOnly.isEmpty with
  | true =>
      have no_aggregate := AggregateTable.isEmpty_summaryOnly_iff.mp none_only
      refine ⟨none, progress, rfl, iff_of_false Bool.false_ne_true no_aggregate,
        iff_of_false unused no_aggregate, ?_⟩
      intro statement given
      cases given
  | false =>
      have some_aggregate : ∃ aggregate, aggregates.Summarizes aggregate := by
        by_contra no_aggregate
        rw [AggregateTable.isEmpty_summaryOnly_iff.mpr no_aggregate] at none_only
        cases none_only
      have added : Configuration.routeFilterShelf.add progress.configuration
          (suppressionList vrf aggregates.summaryOnly) = (_, .ok ()) :=
        Configuration.routeFilterShelf.add_of_not_mem unused
      have listed := Configuration.routeFilterShelf.getElem?_name_of_add added
      refine ⟨some (suppression vrf), _, runFrom_bind_of_ok _ (runFrom_store_of_ok added),
        iff_of_true rfl some_aggregate,
        iff_of_true (Table.mem_iff_getElem?_eq_some.mpr ⟨_, listed⟩) some_aggregate, ?_⟩
      intro statement given
      cases given
      exact ⟨rfl, listed⟩

/-- No network is suppressed for the sake of single addresses. -/
theorem permits_suppressionList_of_hosts
    (hosts : ∀ aggregate, aggregates.Summarizes aggregate → aggregate.length = Prefix.maxLength)
    (block : Prefix) : (suppressionList vrf aggregates.summaryOnly).permits block = false := by
  rw [← Bool.not_eq_true, permits_suppressionList_iff]
  rintro ⟨aggregate, summarizes, covers, distinct⟩
  have lengths := Prefix.length_le_of_covers covers
  have bound : block.length ≤ Prefix.maxLength := block.length_le
  rw [hosts aggregate summarizes] at lengths
  exact distinct (Prefix.eq_of_covers_of_length_eq covers
    ((Nat.le_antisymm bound lengths).trans (hosts aggregate summarizes).symm))

/-- A summary-only aggregate has a line that permits exactly the routes which activate it. -/
theorem exists_line_of_summarizes {aggregate : Prefix}
    (summarizes : aggregates.Summarizes aggregate) :
    ∃ line ∈ (suppressionList vrf aggregates.summaryOnly).lines, line.action = .permit ∧
      line.range.includes aggregate = false ∧
      ∀ environment state,
        ((aggregatePolicy vrf aggregate).verdict environment).runFrom state =
          (.ok (line.range.includes state.route.destination), state) := by
  refine ⟨_, (mem_lines_suppressionList_iff vrf aggregates).mpr ⟨aggregate, summarizes, rfl⟩, rfl,
    ?_, ?_⟩
  · rw [PrefixRange.includes_moreSpecificThan]
    exact decide_eq_false fun inside => inside.2 rfl
  · intro environment state
    rw [runFrom_verdict_aggregatePolicy, PrefixRange.includes_moreSpecificThan]

/-- A summary-only aggregate suppresses exactly the routes that activate it, which are those
strictly inside it. -/
theorem suppresses_what_activates :
    (∀ aggregate environment state,
      ((aggregatePolicy vrf aggregate).verdict environment).runFrom state =
        (.ok (decide (state.route.destination.StrictlyInside aggregate)), state)) ∧
    (∀ block, (suppressionList vrf aggregates.summaryOnly).permits block = true ↔
      ∃ aggregate, aggregates.Summarizes aggregate ∧ block.StrictlyInside aggregate) ∧
    (∀ aggregate, aggregates.Summarizes aggregate →
      ∃ line ∈ (suppressionList vrf aggregates.summaryOnly).lines, line.action = .permit ∧
        line.range.includes aggregate = false ∧
        ∀ environment state,
          ((aggregatePolicy vrf aggregate).verdict environment).runFrom state =
            (.ok (line.range.includes state.route.destination), state)) ∧
    (∀ line ∈ (suppressionList vrf aggregates.summaryOnly).lines,
      ∃ aggregate, aggregates.Summarizes aggregate ∧
        line = ⟨.permit, .moreSpecificThan aggregate⟩) ∧
    (∀ aggregate, (suppressionList vrf aggregates.summaryOnly).permits aggregate = true →
      ∃ other, aggregates.Summarizes other ∧ other ≠ aggregate ∧
        other.covers aggregate = true) ∧
    (∀ progress : Progress,
      (GeneratedName.suppressed vrf).text ∉ progress.configuration.routeFilterLists →
      ∃ suppress after,
        (suppressSummarized vrf aggregates.summaryOnly).runFrom progress = (.ok suppress, after) ∧
        (suppress.isSome = true ↔ ∃ aggregate, aggregates.Summarizes aggregate) ∧
        ((GeneratedName.suppressed vrf).text ∈ after.configuration.routeFilterLists ↔
          ∃ aggregate, aggregates.Summarizes aggregate) ∧
        ∀ statement ∈ suppress, ∀ reading call state,
          (statement.run (after.configuration.environment reading call)).runFrom state =
            (.ok (), { state with
              suppressed := state.suppressed ||
                (suppressionList vrf aggregates.summaryOnly).permits state.route.destination })) ∧
    ((∀ aggregate, aggregates.Summarizes aggregate → aggregate.length = Prefix.maxLength) →
      ∀ block, (suppressionList vrf aggregates.summaryOnly).permits block = false) ∧
    ∀ environment, Evaluation.KeepsMark ((aggregatesCondition aggregates).test environment) := by
  refine ⟨runFrom_verdict_aggregatePolicy vrf, fun _ => permits_suppressionList_iff vrf aggregates,
    fun _ => exists_line_of_summarizes vrf aggregates,
    fun _ => (mem_lines_suppressionList_iff vrf aggregates).mp, ?_, ?_,
    permits_suppressionList_of_hosts vrf aggregates,
    fun _ => keepsMark_aggregatesCondition aggregates⟩
  · intro aggregate permitted
    obtain ⟨other, summarizes, inside⟩ := (permits_suppressionList_iff vrf aggregates).mp permitted
    exact ⟨other, summarizes, Ne.symm inside.2, inside.1⟩
  · intro progress unused
    obtain ⟨suppress, after, run, built, registered, given⟩ :=
      exists_suppressSummarized vrf aggregates unused
    refine ⟨suppress, after, run, built, registered, ?_⟩
    intro statement member reading call state
    obtain ⟨rfl, listed⟩ := given statement member
    exact runFrom_run_suppression listed reading call state

end Artefacts

end NeutralRouting
