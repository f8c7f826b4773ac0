import NeutralRouting.Conversion.Whole
import NeutralRouting.Proofs.Evaluation
import NeutralRouting.Proofs.PrefixRange
import NeutralRouting.Proofs.Skeleton
import NeutralRouting.RouteMap.Decision

/-!
# Route maps and their policies

What a route map makes of a route is said without any search: of the entries whose tests all hold
the one with the least number decides, and a prefix list is read the same way.  The policy that a
route map is compiled to makes the same of the route, on every configuration that has the match
lists of the device.
-/

namespace NeutralRouting

open Std

/-- Of the lines that include the destination, this one has the least number. -/
def PrefixList.Decides (list : PrefixList) (block : Prefix) (line : PrefixListLine) : Prop :=
  ∃ number : UInt32, list.lines[number]? = some line ∧ line.includes block = true ∧
    ∀ (smaller : UInt32) (other : PrefixListLine), smaller < number →
      list.lines[smaller]? = some other → other.includes block = false

theorem PrefixList.permits_iff {list : PrefixList} {block : Prefix} :
    list.permits block = true ↔ ∃ line, list.Decides block line ∧ line.action = .permit := by
  rw [permits, Option.any_eq_true]
  constructor
  · rintro ⟨line, found, permitted⟩
    exact ⟨line, Table.find?_values_eq_some_iff.mp found, of_decide_eq_true permitted⟩
  · rintro ⟨line, decides, permitted⟩
    exact ⟨line, Table.find?_values_eq_some_iff.mpr decides, decide_eq_true permitted⟩

/-- The test holds for a route.  A test on a list that does not exist never does. -/
def RouteMapTest.Holds (device : Device) (reading : ListReading) (route : Route) :
    RouteMapTest → Prop
  | prefixList name => ∃ list line, device.prefixLists[name]? = some list ∧
      list.Decides route.destination line ∧ line.action = .permit
  | communityList name => ∃ list, device.communityLists[name]? = some list ∧
      reading.communityList list.toCommunityList route = true
  | asPathList name => ∃ list, device.asPathLists[name]? = some list ∧
      reading.asPathList list.toAccessList route = true
  | tag value => route.tag = value
  | source origin => route.protocol ∈ origin.protocols

theorem RouteMapTest.holds_iff {device : Device} {reading : ListReading} {route : Route}
    {test : RouteMapTest} :
    test.holds device reading route = true ↔ test.Holds device reading route := by
  cases test with
  | prefixList name =>
      simp only [holds, Holds, Option.any_eq_true, PrefixList.permits_iff]
      constructor
      · rintro ⟨list, found, line, decides⟩
        exact ⟨list, line, found, decides⟩
      · rintro ⟨list, line, found, decides⟩
        exact ⟨list, found, line, decides⟩
  | communityList name => simp only [holds, Holds, Option.any_eq_true]
  | asPathList name => simp only [holds, Holds, Option.any_eq_true]
  | tag value => simp only [holds, Holds, beq_iff_eq]
  | source origin => simp only [holds, Holds, List.contains_iff_mem]

theorem RouteMapEntry.accepts_iff {entry : RouteMapEntry} {device : Device}
    {reading : ListReading} {route : Route} :
    entry.accepts device reading route = true ↔
      ∀ test ∈ entry.tests, test.Holds device reading route := by
  simp only [accepts, List.all_eq_true, RouteMapTest.holds_iff]

theorem RouteMapEntry.accepts_eq_false_iff {entry : RouteMapEntry} {device : Device}
    {reading : ListReading} {route : Route} :
    entry.accepts device reading route = false ↔
      ∃ test ∈ entry.tests, ¬test.Holds device reading route := by
  rw [← Bool.not_eq_true, accepts_iff]
  simp only [not_forall, exists_prop]

namespace RouteMap

variable {map : RouteMap} {device : Device} {reading : ListReading} {route : Route}

/-- Of the entries whose tests all hold, this one has the least number. -/
def Decides (map : RouteMap) (device : Device) (reading : ListReading) (route : Route)
    (entry : RouteMapEntry) : Prop :=
  ∃ number : Nat, map.entries[number]? = some entry ∧
    (∀ test ∈ entry.tests, test.Holds device reading route) ∧
    ∀ (smaller : Nat) (other : RouteMapEntry), smaller < number →
      map.entries[smaller]? = some other → ∃ test ∈ other.tests, ¬test.Holds device reading route

theorem decider?_eq_some_iff {entry : RouteMapEntry} :
    map.decider? device reading route = some entry ↔
      map.Decides device reading route entry := by
  rw [decider?, Table.find?_values_eq_some_iff]
  simp only [RouteMapEntry.accepts_iff, RouteMapEntry.accepts_eq_false_iff]
  rfl

/-- What a route map makes of a route: a verdict, and the route with its changes. -/
inductive Gives (map : RouteMap) (device : Device) (reading : ListReading) (route : Route) :
    Bool → Route → Prop
  /-- No entry has only tests that hold. -/
  | unmatched (none_decides : ∀ entry, ¬map.Decides device reading route entry) :
      map.Gives device reading route false route
  | denied {entry : RouteMapEntry} (decides : map.Decides device reading route entry)
      (action : entry.action = .deny) : map.Gives device reading route false route
  | permitted {entry : RouteMapEntry} (decides : map.Decides device reading route entry)
      (action : entry.action = .permit) :
      map.Gives device reading route true (entry.sets.foldl RouteMapSet.apply route)

/-- The search for the deciding entry gives what the route map gives, and nothing else does. -/
theorem gives_iff {verdict : Bool} {after : Route} :
    map.Gives device reading route verdict after ↔
      map.decision device reading route = (verdict, after) := by
  constructor
  · intro gives
    cases gives with
    | unmatched none_decides =>
        have search : map.decider? device reading route = none := by
          rw [Option.eq_none_iff_forall_ne_some]
          intro entry found
          exact none_decides entry (decider?_eq_some_iff.mp found)
        simp only [decision, search]
    | denied decides action =>
        simp only [decision, decider?_eq_some_iff.mpr decides, action]
    | permitted decides action =>
        simp only [decision, decider?_eq_some_iff.mpr decides, action]
  · intro decision_eq
    cases search : map.decider? device reading route with
    | none =>
        simp only [decision, search] at decision_eq
        cases decision_eq
        refine .unmatched fun entry decides => ?_
        rw [decider?_eq_some_iff.mpr decides] at search
        cases search
    | some entry =>
        have decides := decider?_eq_some_iff.mp search
        cases action : entry.action with
        | permit =>
            simp only [decision, search, action] at decision_eq
            cases decision_eq
            exact .permitted decides action
        | deny =>
            simp only [decision, search, action] at decision_eq
            cases decision_eq
            exact .denied decides action

/-- A route that is not permitted stays as it was. -/
theorem decision_of_denied (denied : (map.decision device reading route).1 = false) :
    map.decision device reading route = (false, route) := by
  rw [decision] at denied ⊢
  cases search : map.decider? device reading route with
  | none => rfl
  | some entry =>
      cases action : entry.action with
      | deny => simp only [action]
      | permit => simp only [search, action, Bool.true_eq_false] at denied

end RouteMap

section Compilation

variable {configuration : Configuration} {device : Device} {reading : ListReading}
  {call : String → Evaluation Bool} {state : RouteState}

/-- Lines are translated one by one, in the order of their numbers. -/
theorem PrefixList.permits_toRouteFilterList (list : PrefixList) (block : Prefix) :
    list.toRouteFilterList.permits block = list.permits block := by
  have line_includes : ∀ line : PrefixListLine,
      line.toRouteFilterLine.range.includes block = line.includes block := by
    intro line
    rw [Bool.eq_iff_iff, PrefixRange.includes_iff]
    simp only [PrefixListLine.includes, PrefixListLine.toRouteFilterLine, Bool.and_eq_true,
      decide_eq_true_eq]
    tauto
  rw [RouteFilterList.permits, permits, toRouteFilterList, List.find?_map, Option.any_map]
  simp only [Function.comp_def, line_includes]
  rfl

theorem undefinedList?_of_some {α : Type} {lists : ExtTreeMap String α} {kind name : String}
    {list : α} (found : lists[name]? = some list) : undefinedList? lists kind name = none := by
  rw [undefinedList?, if_pos (Table.mem_iff_getElem?_eq_some.mpr ⟨list, found⟩)]

theorem isSome_undefinedList? {α : Type} {lists : ExtTreeMap String α} {kind name : String}
    (absent : lists[name]? = none) : (undefinedList? lists kind name).isSome = true := by
  have outside : name ∉ lists := by
    rw [Table.mem_iff_getElem?_eq_some, absent]
    simp
  rw [undefinedList?, if_neg outside]
  rfl

/-- A test holds exactly when its condition does. -/
theorem RouteMapTest.runFrom_condition (lists : configuration.HasLists device)
    (test : RouteMapTest) :
    ((test.condition device).test (configuration.environment reading call)).runFrom state =
      (.ok (test.holds device reading state.route), state) := by
  cases test with
  | prefixList name =>
      cases found : device.prefixLists[name]? with
      | none =>
          rw [condition, undefined?, if_pos (isSome_undefinedList? found), holds, found]
          rfl
      | some list =>
          have kept := lists.prefixLists name list found
          rw [condition, undefined?, undefinedList?_of_some found, holds, found, Option.any_some,
            ← list.permits_toRouteFilterList]
          change (Except.ok (configuration.routeFilterLists[name]?.any
            (·.permits state.route.destination)), state) = _
          rw [kept, Option.any_some]
  | communityList name =>
      cases found : device.communityLists[name]? with
      | none =>
          rw [condition, undefined?, if_pos (isSome_undefinedList? found), holds, found]
          rfl
      | some list =>
          have kept := lists.communityLists name list found
          rw [condition, undefined?, undefinedList?_of_some found, holds, found, Option.any_some]
          change (Except.ok (configuration.communityLists[name]?.any
            (reading.communityList · state.route)), state) = _
          rw [kept, Option.any_some]
  | asPathList name =>
      cases found : device.asPathLists[name]? with
      | none =>
          rw [condition, undefined?, if_pos (isSome_undefinedList? found), holds, found]
          rfl
      | some list =>
          have kept := lists.asPathLists name list found
          rw [condition, undefined?, undefinedList?_of_some found, holds, found, Option.any_some]
          change (Except.ok (configuration.asPathAccessLists[name]?.any
            (reading.asPathList · state.route)), state) = _
          rw [kept, Option.any_some]
  | tag value => rfl
  | source origin =>
      change (Except.ok ((ExtTreeSet.ofList origin.protocols).contains state.route.protocol),
        state) = _
      rw [ExtTreeSet.contains_ofList]
      rfl

theorem RouteMapSet.runFrom_statement (environment : Environment) (set : RouteMapSet)
    (state : RouteState) :
    (set.statement.run environment).runFrom state =
      (.ok (), { state with route := set.apply state.route }) := by
  cases set <;> rfl

theorem RouteMapSet.runFrom_runAll (environment : Environment) (sets : List RouteMapSet)
    (rest : List Statement) (state : RouteState) :
    (Statement.runAll environment (sets.map (·.statement) ++ rest)).runFrom state =
      (Statement.runAll environment rest).runFrom
        { state with route := sets.foldl RouteMapSet.apply state.route } := by
  induction sets generalizing state with
  | nil => rfl
  | cons set sets ih =>
      rw [List.map_cons, List.cons_append,
        Statement.runFrom_runAll_cons_of_ok _ (set.runFrom_statement environment state), ih]
      rfl

/-- What a deciding entry makes of a route. -/
def RouteMapEntry.effect (entry : RouteMapEntry) (route : Route) : Bool × Route :=
  match entry.action with
  | .deny => (false, route)
  | .permit => (true, entry.sets.foldl RouteMapSet.apply route)

theorem RouteMap.decision_eq_elim (map : RouteMap) (route : Route) :
    map.decision device reading route =
      (map.decider? device reading route).elim (false, route) (·.effect route) := by
  rw [decision]
  cases map.decider? device reading route <;> rfl

theorem RouteMapEntry.runFrom_verdict (environment : Environment) (entry : RouteMapEntry)
    (state : RouteState) :
    (Statement.runAll environment entry.verdict).runFrom state =
      (.error (.returned (entry.effect state.route).1),
        { state with route := (entry.effect state.route).2 }) := by
  cases action : entry.action with
  | deny =>
      simp only [verdict, effect, action]
      rfl
  | permit =>
      simp only [verdict, effect, action]
      rw [RouteMapSet.runFrom_runAll]
      rfl

/-- An entry decides if its tests hold, and is passed over otherwise. -/
theorem RouteMapEntry.runFrom_statement (lists : configuration.HasLists device)
    (reading : ListReading) (call : String → Evaluation Bool) (entry : RouteMapEntry)
    (name : String) (number : Nat) (state : RouteState) :
    ((entry.statement device name number).run (configuration.environment reading call)).runFrom
        state =
      if entry.accepts device reading state.route then
        (.error (.returned (entry.effect state.route).1),
          { state with route := (entry.effect state.route).2 })
      else (.ok (), state) := by
  have tests : ((Condition.all (entry.tests.map (·.condition device)) none).test
      (configuration.environment reading call)).runFrom state =
        (.ok (entry.accepts device reading state.route), state) := by
    rw [Condition.test]
    exact Condition.runFrom_testAll_map fun test _ => test.runFrom_condition lists
  rw [statement, Statement.runFrom_branch _ _ tests]
  cases entry.accepts device reading state.route with
  | false => rfl
  | true => exact entry.runFrom_verdict _ state

/-- Entries are tried one after the other until one decides. -/
theorem RouteMap.runFrom_entries (lists : configuration.HasLists device) (name : String)
    (entries : List (Nat × RouteMapEntry)) :
    (Statement.runAll (configuration.environment reading call)
        (entries.map (fun (number, entry) => entry.statement device name number) ++
          [.directive .returnFalse])).runFrom state =
      let decider := (entries.map (·.2)).find? (·.accepts device reading state.route)
      let made := decider.elim (false, state.route) (·.effect state.route)
      (.error (.returned made.1), { state with route := made.2 }) := by
  induction entries with
  | nil => rfl
  | cons head entries ih =>
      obtain ⟨number, entry⟩ := head
      have first := entry.runFrom_statement lists reading call name number state
      rw [List.map_cons, List.cons_append, List.map_cons, List.find?_cons]
      cases accepted : entry.accepts device reading state.route with
      | false =>
          rw [accepted] at first
          rw [Statement.runFrom_runAll_cons_of_ok _ first, ih]
      | true =>
          rw [accepted] at first
          rw [Statement.runFrom_runAll_cons_of_error _ first]
          rfl

/-- The policy of a route map decides as the route map does. -/
theorem RouteMap.runFrom_verdict_policy (lists : configuration.HasLists device) (map : RouteMap) :
    ((map.policy device).verdict (configuration.environment reading call)).runFrom state =
      (.ok (map.decision device reading state.route).1,
        { state with route := (map.decision device reading state.route).2 }) := by
  apply RoutingPolicy.runFrom_verdict_of_returned
  rw [policy, runFrom_entries lists, decision_eq_elim, decider?, Table.values_eq_map_snd]

/-- With the lists of the device registered, the policy of a route map gives every route the verdict
and the attributes that the route map gives it. -/
theorem convertLists_policy_gives {device : Device} (keyed : device.Keyed) {progress : Progress}
    (no_prefix_lists : progress.configuration.routeFilterLists = ∅)
    (no_community_lists : progress.configuration.communityLists = ∅)
    (no_as_path_lists : progress.configuration.asPathAccessLists = ∅) :
    ∃ after, (convertLists device).runFrom progress = (.ok (), after) ∧
      ∀ (map : RouteMap) (reading : ListReading) (call : String → Evaluation Bool)
        (state : RouteState), ∃ policy verdict route,
        (entrywiseCompiler device map).2 = .ok policy ∧
          map.Gives device reading state.route verdict route ∧
          (policy.verdict (after.configuration.environment reading call)).runFrom state =
            (.ok verdict, { state with route := route }) := by
  obtain ⟨_, after, run, lists, -⟩ :=
    convertLists_succeeds keyed no_prefix_lists no_community_lists no_as_path_lists
  refine ⟨after, run, fun map reading call state => ?_⟩
  exact ⟨_, _, _, rfl, RouteMap.gives_iff.mpr rfl, RouteMap.runFrom_verdict_policy lists map⟩

/-- A static route to an internal network. -/
def internalRoute : Route where
  protocol := .static
  destination := announcedNetwork
  asPath := []
  communities := ∅
  origin := .igp
  nextHop := none
  localPreference := 100
  metric := 0
  tag := 0
  weight := 0

/-- No community list and no AS-path list permits anything. -/
def silentReading : ListReading := ⟨fun _ _ => false, fun _ _ => false⟩

/-- The entry that refers to a missing list is passed over, and the next one permits the route. -/
theorem convertLists_policy_gives_internalRouteMap :
    ∃ after policy, (convertLists borderRouter).runFrom (.initial "border") = (.ok (), after) ∧
      (entrywiseCompiler borderRouter internalRouteMap).2 = .ok policy ∧
      (policy.verdict (after.configuration.environment silentReading fun _ => return false)).runFrom
          (.initial internalRoute) =
        (.ok true, .initial { internalRoute with metric := 50 }) := by
  obtain ⟨after, run, all⟩ :=
    @convertLists_policy_gives _ borderRouter_keyed (.initial "border") rfl rfl rfl
  obtain ⟨policy, verdict, route, compiled, gives, evaluated⟩ :=
    all internalRouteMap silentReading (fun _ => return false) (.initial internalRoute)
  have decision : internalRouteMap.decision borderRouter silentReading internalRoute =
      (true, { internalRoute with metric := 50 }) := by decide +kernel
  have given := RouteMap.gives_iff.mp gives
  rw [RouteState.initial, decision] at given
  cases given
  exact ⟨after, policy, run, compiled, evaluated⟩

end Compilation
end NeutralRouting
