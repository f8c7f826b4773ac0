import Mathlib.Data.Option.Basic
import NeutralRouting.Proofs.Result
import NeutralRouting.Proofs.RouteMap

/-!
# What common export policies decide

A common export policy, evaluated in the result of a conversion, lets exactly the routes out that
its instance exports: BGP routes, redistributed routes that pass their route map, announced networks
and aggregates.  On the way it marks the routes strictly inside a summary-only aggregate.
-/

namespace NeutralRouting

open Std Evaluation

/-- A route that is announced with an origin, in the state in which it is announced. -/
def RouteState.announced (state : RouteState) (origin : Origin) (route : Route) : RouteState :=
  { state with route := { route with origin := origin }, readsIntermediate := true }

namespace Condition

section Destinations

variable (environment : Environment) (state : RouteState)

theorem runFrom_protocols (protocols : List Protocol) :
    ((Condition.protocols protocols).test environment).runFrom state =
      (.ok (decide (state.route.protocol ∈ protocols)), state) := by
  change (Except.ok ((ExtTreeSet.ofList protocols).contains state.route.protocol), state) = _
  rw [ExtTreeSet.contains_ofList, List.contains_eq_mem]

theorem runFrom_destinationInRange (range : PrefixRange) :
    ((destinationInRange range).test environment).runFrom state =
      (.ok (range.includes state.route.destination), state) := by
  change (Except.ok ((PrefixSpace.ofRange range).contains state.route.destination), state) = _
  rw [PrefixSpace.contains_ofRange]

theorem runFrom_destinationIs (block : Prefix) :
    ((destinationIs block).test environment).runFrom state =
      (.ok (decide (state.route.destination = block)), state) := by
  have same : (PrefixRange.exact block).includes state.route.destination =
      decide (state.route.destination = block) := by
    rw [Bool.eq_iff_iff, PrefixRange.exact_includes_iff, decide_eq_true_eq]
  rw [destinationIs, runFrom_destinationInRange, same]

end Destinations

variable {environment : Environment} {state : RouteState}

theorem runFrom_negation {condition : Condition} {answer : Bool}
    (quiet : (condition.test environment).runFrom state = (.ok answer, state)) :
    ((negation condition).test environment).runFrom state = (.ok (!answer), state) := by
  rw [test, runFrom_bind_of_ok _ quiet]
  rfl

/-- A route is announced if the inner test finds it, as that test leaves it. -/
theorem finds_announcing {condition : Condition} (origin : Origin) (found : Option Route)
    (calm : state.writesIntermediate = false)
    (inner : (condition.test environment).runFrom { state with writesIntermediate := true } =
      (.ok found.isSome,
        { state with writesIntermediate := true, route := found.getD state.route })) :
    Finds ((condition.announcing origin).test environment) state
      (found.map (state.announced origin)) := by
  have begin_run : (Statement.runAll environment [.directive .beginIntermediateWrite]).runFrom
      state = (.ok (), { state with writesIntermediate := true }) := rfl
  have end_run : (Statement.runAll environment [.directive .endIntermediateWrite]).runFrom
      { state with writesIntermediate := true, route := found.getD state.route } =
        (.ok (), { state with route := found.getD state.route }) := by
    cases state
    cases calm
    rfl
  rw [Finds, announcing, test, runFrom_bind_of_ok _ begin_run, runFrom_bind_of_ok _ inner,
    runFrom_bind_of_ok _ end_run]
  cases found <;> rfl

end Condition

/-- Calls of route maps are decided as the route maps themselves decide. -/
def CallsRouteMaps (device : Device) (reading : ListReading) (call : String → Evaluation Bool) :
    Prop :=
  ∀ (name : String) (map : RouteMap) (state : RouteState), device.routeMaps[name]? = some map →
    (call name).runFrom state = (.ok (map.decision device reading state.route).1,
      { state with route := (map.decision device reading state.route).2 })

/-- A route after a route map that may be missing. -/
def passed? (device : Device) (reading : ListReading) (routeMap : Option String) (route : Route) :
    Option Route :=
  match routeMap >>= (device.routeMaps[·]?) with
  | none => some route
  | some map =>
    if (map.decision device reading route).1 then some (map.decision device reading route).2
    else none

/-- The routes that pass a route map, and what becomes of them.  If the route map is not given or
does not exist, every route passes. -/
def Passes (device : Device) (reading : ListReading) (routeMap : Option String)
    (route after : Route) : Prop :=
  (∀ name, routeMap = some name → name ∉ device.routeMaps) ∧ after = route ∨
    ∃ name map, routeMap = some name ∧ device.routeMaps[name]? = some map ∧
      map.Gives device reading route true after

section Alternatives

variable {device : Device} {reading : ListReading} {environment : Environment}
  {state : RouteState}

theorem passed?_eq_some_iff {routeMap : Option String} {route after : Route} :
    passed? device reading routeMap route = some after ↔
      Passes device reading routeMap route after := by
  cases routeMap with
  | none => simp [passed?, Passes, eq_comm]
  | some name =>
      cases found : device.routeMaps[name]? with
      | none =>
          have absent : name ∉ device.routeMaps := by
            rw [Table.mem_iff_getElem?_eq_some, found]
            simp
          simp [passed?, Passes, absent, eq_comm]
      | some map =>
          have present : name ∈ device.routeMaps :=
            Table.mem_iff_getElem?_eq_some.mpr ⟨map, found⟩
          simp [passed?, Passes, present, RouteMap.gives_iff, Prod.ext_iff]

theorem runFrom_redistributionTest (calls : CallsRouteMaps device reading environment.call)
    (routeMap : Option String) :
    ((redistributionTest device routeMap).test environment).runFrom state =
      (.ok (passed? device reading routeMap state.route).isSome,
        { state with
          route := (passed? device reading routeMap state.route).getD state.route }) := by
  cases routeMap with
  | none => rfl
  | some name =>
      cases found : device.routeMaps[name]? with
      | none =>
          have absent : name ∉ device.routeMaps := by
            rw [Table.mem_iff_getElem?_eq_some, found]
            simp
          simp only [redistributionTest, if_neg absent, passed?, Option.bind_eq_bind,
            Option.bind_some, found]
          rfl
      | some map =>
          have present : name ∈ device.routeMaps :=
            Table.mem_iff_getElem?_eq_some.mpr ⟨map, found⟩
          simp only [redistributionTest, if_pos present, passed?, Option.bind_eq_bind,
            Option.bind_some, found]
          rw [Condition.test, calls name map state found]
          cases verdict : (map.decision device reading state.route).1 with
          | true => rfl
          | false => rw [RouteMap.decision_of_denied verdict]; rfl

/-- The redistribution of a source as a search. -/
def redistributed? (device : Device) (reading : ListReading) (state : RouteState)
    (source : RedistributionSource) (routeMap : Option String) : Option RouteState :=
  if state.route.protocol ∈ source.protocols then
    (passed? device reading routeMap state.route).map (state.announced .incomplete)
  else none

/-- The announcement of a network as a search. -/
def network? (state : RouteState) (block : Prefix) : Option RouteState :=
  if state.route.destination = block ∧ state.route.protocol ≠ .aggregate then
    some (state.announced .igp state.route)
  else none

/-- The announcement of an aggregate as a search. -/
def aggregate? (state : RouteState) (block : Prefix) : Option RouteState :=
  if state.route.destination = block ∧ state.route.protocol = .aggregate then
    some (state.announced .igp state.route)
  else none

theorem finds_redistributionCondition (calls : CallsRouteMaps device reading environment.call)
    (calm : state.writesIntermediate = false) (source : RedistributionSource)
    (routeMap : Option String) :
    Finds ((redistributionCondition device source routeMap).test environment) state
      (redistributed? device reading state source routeMap) := by
  have announce := Condition.finds_announcing .incomplete _ calm
    (runFrom_redistributionTest calls routeMap)
  have both := Condition.finds_testAll_cons
    (Condition.runFrom_protocols environment state source.protocols)
    (Condition.finds_testAll_singleton announce)
  rw [redistributionCondition, Condition.test]
  simpa only [redistributed?, decide_eq_true_eq] using both

theorem finds_announcing_always (environment : Environment)
    (calm : state.writesIntermediate = false) (origin : Origin) :
    Finds ((Condition.always.announcing origin).test environment) state
      (some (state.announced origin state.route)) :=
  Condition.finds_announcing origin (some state.route) calm rfl

theorem finds_networkCondition (environment : Environment)
    (calm : state.writesIntermediate = false) (block : Prefix) :
    Finds ((networkCondition block).test environment) state (network? state block) := by
  have announce := finds_announcing_always environment calm .igp
  have other := Condition.runFrom_negation
    (Condition.runFrom_protocols environment state [.aggregate])
  have both := Condition.finds_testAll_cons
    (Condition.runFrom_destinationIs environment state block)
    (Condition.finds_testAll_cons other (Condition.finds_testAll_singleton announce))
  rw [networkCondition, Condition.test]
  convert both using 1
  rw [network?]
  by_cases same : state.route.destination = block <;>
    by_cases aggregate : state.route.protocol = .aggregate <;> simp [same, aggregate]

theorem finds_aggregateCondition (environment : Environment)
    (calm : state.writesIntermediate = false) (block : Prefix) :
    Finds ((aggregateCondition block).test environment) state (aggregate? state block) := by
  have announce := finds_announcing_always environment calm .igp
  have both := Condition.finds_testAll_cons
    (Condition.runFrom_destinationIs environment state block)
    (Condition.finds_testAll_cons (Condition.runFrom_protocols environment state [.aggregate])
      (Condition.finds_testAll_singleton announce))
  rw [aggregateCondition, Condition.test]
  convert both using 1
  rw [aggregate?]
  by_cases same : state.route.destination = block <;>
    by_cases aggregate : state.route.protocol = .aggregate <;> simp [same, aggregate]

/-- The alternatives of a common export policy as a search: the first one that holds decides what
becomes of the route. -/
def exported? (device : Device) (reading : ListReading) (inst : BgpInstance) (state : RouteState) :
    Option RouteState :=
  (if state.route.protocol = .bgp ∨ state.route.protocol = .ibgp then some state else none) <|>
    match inst.ipv4Unicast with
    | none => none
    | some family =>
      ((family.redistribute.toList.findSome? fun (source, routeMap) =>
          redistributed? device reading state source routeMap) <|>
        family.networks.toList.findSome? (network? state)) <|>
      (family.aggregates.keys.findSome? (aggregate? state) <|> none)

theorem finds_exportConditions (environment : Environment)
    (calls : CallsRouteMaps device reading environment.call)
    (calm : state.writesIntermediate = false) (inst : BgpInstance) :
    Finds (Condition.testAny environment (exportConditions device inst)) state
      (exported? device reading inst state) := by
  have learnt := Condition.finds_of_quiet
    (Condition.runFrom_protocols environment state [.bgp, .ibgp])
  simp only [decide_eq_true_eq, List.mem_cons, List.not_mem_nil, or_false] at learnt
  rw [exportConditions]
  apply Condition.finds_testAny_cons learnt
  cases inst.ipv4Unicast with
  | none => rfl
  | some family =>
      apply Condition.finds_testAny_append
      · apply Condition.finds_testAny_append
        · exact Condition.finds_testAny_map fun source _ =>
            finds_redistributionCondition calls calm source.1 source.2
        · exact Condition.finds_testAny_map fun block _ => finds_networkCondition _ calm block
      · have no_more : Finds (Condition.testAny environment []) state none := rfl
        apply Condition.finds_testAny_cons _ no_more
        rw [aggregatesCondition, Condition.test]
        exact Condition.finds_testAny_map fun block _ => finds_aggregateCondition _ calm block

/-- The routes that an instance exports, and what becomes of them. -/
inductive BgpInstance.Exports (inst : BgpInstance) (device : Device) (reading : ListReading)
    (route : Route) : Route → Prop
  | learnt (protocol : route.protocol = .bgp ∨ route.protocol = .ibgp) :
      inst.Exports device reading route route
  | redistributed {family : InstanceIpv4Unicast} {source : RedistributionSource}
      {routeMap : Option String} {after : Route} (active : inst.ipv4Unicast = some family)
      (redistributes : family.redistribute[source]? = some routeMap)
      (covered : route.protocol ∈ source.protocols)
      (passes : Passes device reading routeMap route after) :
      inst.Exports device reading route { after with origin := .incomplete }
  | network {family : InstanceIpv4Unicast} (active : inst.ipv4Unicast = some family)
      (announced : route.destination ∈ family.networks) (other : route.protocol ≠ .aggregate) :
      inst.Exports device reading route { route with origin := .igp }
  | aggregate {family : InstanceIpv4Unicast} (active : inst.ipv4Unicast = some family)
      (announced : route.destination ∈ family.aggregates) (own : route.protocol = .aggregate) :
      inst.Exports device reading route { route with origin := .igp }

/-- What the search finds is exported, and stays suppressed or not as it was. -/
theorem exports_of_exported? {inst : BgpInstance} {after : RouteState}
    (found : exported? device reading inst state = some after) :
    inst.Exports device reading state.route after.route ∧ after.suppressed = state.suppressed := by
  rw [exported?, Option.orElse_eq_some] at found
  rcases found with found | ⟨-, found⟩
  · split at found
    · next protocol =>
        cases found
        exact ⟨.learnt protocol, rfl⟩
    · cases found
  · cases active : inst.ipv4Unicast with
    | none =>
        rw [active] at found
        cases found
    | some family =>
        rw [active] at found
        simp only [Option.orElse_eq_some, reduceCtorEq, and_false, or_false] at found
        rcases found with (found | ⟨-, found⟩) | ⟨-, found⟩
        · obtain ⟨⟨source, routeMap⟩, member, found⟩ := List.exists_of_findSome?_eq_some found
          simp only [redistributed?] at found
          split at found
          · next covered =>
              obtain ⟨passed, passes, rfl⟩ := Option.map_eq_some_iff.mp found
              exact ⟨.redistributed active (ExtTreeMap.mem_toList_iff_getElem?_eq_some.mp member)
                covered (passed?_eq_some_iff.mp passes), rfl⟩
          · cases found
        · obtain ⟨block, member, found⟩ := List.exists_of_findSome?_eq_some found
          rw [network?] at found
          split at found
          · next holds =>
              cases found
              obtain ⟨rfl, other⟩ := holds
              exact ⟨.network active (ExtTreeSet.mem_toList.mp member) other, rfl⟩
          · cases found
        · obtain ⟨block, member, found⟩ := List.exists_of_findSome?_eq_some found
          rw [aggregate?] at found
          split at found
          · next holds =>
              cases found
              obtain ⟨rfl, own⟩ := holds
              exact ⟨.aggregate active (ExtTreeMap.mem_keys.mp member) own, rfl⟩
          · cases found

/-- Every exported route is found. -/
theorem isSome_exported? {inst : BgpInstance} {sent : Route}
    (exports : inst.Exports device reading state.route sent) :
    (exported? device reading inst state).isSome = true := by
  by_contra missing
  rw [Bool.not_eq_true, Option.isSome_eq_false_iff, Option.isNone_iff_eq_none, exported?,
    Option.orElse_eq_none] at missing
  obtain ⟨not_learnt, missing⟩ := missing
  cases exports with
  | learnt protocol =>
      rw [if_pos protocol] at not_learnt
      cases not_learnt
  | redistributed active redistributes covered passes =>
      simp only [active, Option.orElse_eq_none] at missing
      have missed := List.findSome?_eq_none_iff.mp missing.1.1 _
        (ExtTreeMap.mem_toList_iff_getElem?_eq_some.mpr redistributes)
      simp [redistributed?, covered, passed?_eq_some_iff.mpr passes] at missed
  | network active announced other =>
      simp only [active, Option.orElse_eq_none] at missing
      have missed := List.findSome?_eq_none_iff.mp missing.1.2 _
        (ExtTreeSet.mem_toList.mpr announced)
      simp [network?, other] at missed
  | aggregate active announced own =>
      simp only [active, Option.orElse_eq_none] at missing
      have missed := List.findSome?_eq_none_iff.mp missing.2.1 _ (ExtTreeMap.mem_keys.mpr announced)
      simp [aggregate?, own] at missed

end Alternatives

/-- The destination lies strictly inside a summary-only aggregate of the instance. -/
def BgpInstance.Summarizes (inst : BgpInstance) (block : Prefix) : Prop :=
  ∃ family aggregate settings, inst.ipv4Unicast = some family ∧
    family.aggregates[aggregate]? = some settings ∧ settings.summaryOnly = true ∧
    aggregate.covers block = true ∧ block ≠ aggregate

/-- The list of suppressed networks, read as a test. -/
def BgpInstance.suppresses (inst : BgpInstance) (block : Prefix) : Bool :=
  inst.summaryOnlyAggregates.any fun aggregate =>
    (PrefixRange.moreSpecificThan aggregate).includes block

section Suppression

variable {device : Device} {reading : ListReading} {configuration : Configuration}
  {inst : BgpInstance} {state : RouteState}

theorem BgpInstance.mem_summaryOnlyAggregates_iff {aggregate : Prefix} :
    aggregate ∈ inst.summaryOnlyAggregates ↔ ∃ family settings, inst.ipv4Unicast = some family ∧
      family.aggregates[aggregate]? = some settings ∧ settings.summaryOnly = true := by
  rw [summaryOnlyAggregates]
  cases inst.ipv4Unicast with
  | none => simp
  | some family =>
      simp [AggregateTable.summaryOnly, ExtTreeMap.mem_toList_iff_getElem?_eq_some]

theorem BgpInstance.suppresses_iff {block : Prefix} :
    inst.suppresses block = true ↔ inst.Summarizes block := by
  simp only [suppresses, Summarizes, List.any_eq_true, mem_summaryOnlyAggregates_iff,
    PrefixRange.moreSpecificThan_includes_iff]
  constructor
  · rintro ⟨aggregate, ⟨family, settings, active, found, only⟩, covers, other⟩
    exact ⟨family, aggregate, settings, active, found, only, covers, other⟩
  · rintro ⟨family, aggregate, settings, active, found, only, covers, other⟩
    exact ⟨aggregate, ⟨family, settings, active, found, only⟩, covers, other⟩

theorem permits_suppressionList (vrf : String) (blocks : List Prefix) (block : Prefix) :
    (suppressionList vrf blocks).permits block =
      blocks.any fun aggregate => (PrefixRange.moreSpecificThan aggregate).includes block := by
  have all_permit : ∀ line : Option Prefix,
      (line.map fun aggregate =>
        (⟨.permit, .moreSpecificThan aggregate⟩ : RouteFilterLine)).any (·.action = .permit) =
          line.isSome := by
    intro line
    cases line <;> rfl
  rw [RouteFilterList.permits, suppressionList, List.find?_map, all_permit, List.isSome_find?]
  rfl

/-- The statement marks what the list of suppressed networks permits. -/
theorem runFrom_run_suppression {vrf : String} {list : RouteFilterList}
    (listed : configuration.routeFilterLists[(GeneratedName.suppressed vrf).text]? = some list)
    (reading : ListReading) (call : String → Evaluation Bool) (state : RouteState) :
    ((suppression vrf).run (configuration.environment reading call)).runFrom state =
      (.ok (), { state with
        suppressed := state.suppressed || list.permits state.route.destination }) := by
  have guard : ((Condition.destinationIn
      (.list (GeneratedName.text (.suppressed vrf)))).test
        (configuration.environment reading call)).runFrom state =
          (.ok (list.permits state.route.destination), state) := by
    change (Except.ok (configuration.routeFilterLists[
      (GeneratedName.suppressed vrf).text]?.any (·.permits state.route.destination)),
        state) = _
    rw [listed, Option.any_some]
  rw [suppression, Statement.runFrom_branch _ _ guard]
  cases list.permits state.route.destination with
  | false => rw [Bool.or_false]; rfl
  | true => rw [Bool.or_true]; rfl

/-- A common export policy starts by marking the suppressed networks. -/
theorem runFrom_suppression (has : configuration.HasCommonExport device inst)
    (call : String → Evaluation Bool) (rest : List Statement) :
    (Statement.runAll (configuration.environment reading call)
        (inst.suppression?.toList ++ rest)).runFrom state =
      (Statement.runAll (configuration.environment reading call) rest).runFrom
        { state with
          suppressed := state.suppressed || inst.suppresses state.route.destination } := by
  rw [BgpInstance.suppression?]
  cases none_only : inst.summaryOnlyAggregates.isEmpty with
  | true =>
      rw [BgpInstance.suppresses, List.isEmpty_iff.mp none_only, List.any_nil, Bool.or_false]
      rfl
  | false =>
      have marked := runFrom_run_suppression (has.suppressed none_only) reading call state
      rw [permits_suppressionList] at marked
      exact Statement.runFrom_runAll_cons_of_ok rest marked

/-- A state in which the suppressed networks are marked. -/
def BgpInstance.marked (inst : BgpInstance) (state : RouteState) : RouteState :=
  { state with suppressed := state.suppressed || inst.suppresses state.route.destination }

/-- The common export policy as a search. -/
theorem runFrom_verdict_commonExportPolicy (has : configuration.HasCommonExport device inst)
    {call : String → Evaluation Bool} (calls : CallsRouteMaps device reading call)
    (calm : state.writesIntermediate = false) :
    ((commonExportPolicy device inst inst.suppression?).verdict
        (configuration.environment reading call)).runFrom state =
      (.ok (exported? device reading inst (inst.marked state)).isSome,
        (exported? device reading inst (inst.marked state)).getD (inst.marked state)) := by
  have still_calm : (inst.marked state).writesIntermediate = false := calm
  have search := finds_exportConditions (configuration.environment reading call) calls still_calm
    inst
  apply RoutingPolicy.runFrom_verdict_of_returned
  rw [commonExportPolicy, runFrom_suppression has]
  apply Statement.runFrom_runAll_returnWhether
  rw [Condition.test]
  exact search

end Suppression

section Results

variable {device : Device} {params : ConversionParams} {configuration : Configuration}
  {inst : BgpInstance}

theorem Configuration.IsResult.callsRouteMaps (result : configuration.IsResult device params)
    (reading : ListReading) (depth : Nat) :
    CallsRouteMaps device reading (configuration.call reading (depth + 1)) := by
  intro name map state found
  rw [Configuration.call_of_getElem? reading depth (result.routeMaps name map found)]
  exact RouteMap.runFrom_verdict_policy result.lists map

/-- Calling the common export policy of an instance. -/
theorem Configuration.IsResult.runFrom_call_commonExport
    (result : configuration.IsResult device params)
    (has : configuration.HasCommonExport device inst) (reading : ListReading) (depth : Nat)
    (state : RouteState) (calm : state.writesIntermediate = false) :
    (configuration.call reading (depth + 2) (GeneratedName.commonExport inst.vrf).text).runFrom
        state =
      (.ok (exported? device reading inst (inst.marked state)).isSome,
        (exported? device reading inst (inst.marked state)).getD (inst.marked state)) := by
  rw [Configuration.call_of_getElem? reading (depth + 1) has.policy]
  exact runFrom_verdict_commonExportPolicy has (result.callsRouteMaps reading depth) calm

/-- The common export policy of an instance lets out exactly the routes that the instance exports,
and marks those strictly inside a summary-only aggregate. -/
theorem evaluate_commonExport {instances : BgpInstances} {progress : Progress}
    (keyed : device.Keyed) (converted : device.convert params entrywiseCompiler = .ok progress)
    (runs_bgp : device.bgp = some instances) (member : inst ∈ instances.all)
    (has_vrf : device.HasVrf inst.vrf) (reading : ListReading) (route : Route) :
    ∃ verdict after, progress.configuration.evaluate reading
        (GeneratedName.commonExport inst.vrf).text route = (.ok verdict, after) ∧
      (verdict = true ↔ ∃ sent, inst.Exports device reading route sent) ∧
      (verdict = true → inst.Exports device reading route after.route) ∧
      (verdict = false → after.route = route) ∧
      (after.suppressed = true ↔ inst.Summarizes route.destination) := by
  have result := isResult_of_convert keyed converted
  have has := result.commonExports instances inst runs_bgp member has_vrf
  have nonempty := Table.size_pos (Table.mem_iff_getElem?_eq_some.mpr ⟨_, has.policy⟩)
  obtain ⟨depth, size_eq⟩ := Nat.exists_eq_succ_of_ne_zero (Nat.ne_of_gt nonempty)
  have run := result.runFrom_call_commonExport has reading depth (.initial route) rfl
  let marked := inst.marked (.initial route)
  have marked_iff : marked.suppressed = true ↔ inst.Summarizes route.destination :=
    BgpInstance.suppresses_iff
  rw [Configuration.evaluate, size_eq]
  refine ⟨_, _, run, ?_⟩
  cases search : exported? device reading inst marked with
  | none =>
      have none_exported : ¬∃ sent, inst.Exports device reading route sent := by
        rintro ⟨sent, exports⟩
        have found := @isSome_exported? device reading marked inst sent exports
        rw [search] at found
        cases found
      exact ⟨by simp [none_exported], nofun, fun _ => rfl, marked_iff⟩
  | some after =>
      obtain ⟨exports, same⟩ := exports_of_exported? search
      refine ⟨?_, fun _ => exports, nofun, ?_⟩
      · exact ⟨fun _ => ⟨_, exports⟩, fun _ => rfl⟩
      · rw [← marked_iff, ← same]
        rfl

/-- The internal network is announced, and marked as part of the aggregate. -/
theorem evaluate_commonExport_borderRouter :
    ∃ progress after, borderRouter.convert .standard entrywiseCompiler = .ok progress ∧
      progress.configuration.evaluate silentReading
          (GeneratedName.commonExport defaultVrfName).text internalRoute = (.ok true, after) ∧
      after.suppressed = true := by
  obtain ⟨progress, converted⟩ := borderRouter_converts
  obtain ⟨verdict, after, evaluated, exported_iff, -, -, suppressed_iff⟩ :=
    evaluate_commonExport borderRouter_keyed converted rfl List.mem_cons_self (.inl rfl)
      silentReading internalRoute
  have announced : borderInstance.Exports borderRouter silentReading internalRoute
      { internalRoute with origin := .igp } :=
    .network rfl ExtTreeSet.mem_insert_self (by decide)
  have summarized : borderInstance.Summarizes internalRoute.destination :=
    ⟨_, internalNetwork, ⟨true⟩, rfl, ExtTreeMap.getElem?_insert_self, rfl, by decide, by decide⟩
  have verdict_eq : verdict = true := exported_iff.mpr ⟨_, announced⟩
  subst verdict_eq
  exact ⟨progress, after, converted, evaluated, suppressed_iff.mpr summarized⟩

end Results
end NeutralRouting
