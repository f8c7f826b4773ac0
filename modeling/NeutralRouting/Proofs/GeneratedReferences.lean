import NeutralRouting.Proofs.Generated
import NeutralRouting.Proofs.References

/-!
# What policies of a conversion refer to

Policies for aggregates and default routes refer to nothing.  The common export policy of a VRF
refers to its list of suppressed networks and to route maps that exist, the policies of a peer to
that common policy and to the route maps of the peer, and route maps to match lists that exist.
-/

namespace NeutralRouting

open Std

variable {device : Device} {inst : BgpInstance} {settings : NeighborSettings}
  {reference : Reference}

@[simp]
theorem Condition.not_mentions_protocols (protocols : List Protocol) :
    ¬(Condition.protocols protocols).Mentions reference := nofun

@[simp]
theorem Condition.not_mentions_destinationInRange (range : PrefixRange) :
    ¬(destinationInRange range).Mentions reference := nofun

@[simp]
theorem Condition.not_mentions_destinationIs (block : Prefix) :
    ¬(destinationIs block).Mentions reference := nofun

@[simp]
theorem Condition.not_mentions_isDefaultRoute : ¬isDefaultRoute.Mentions reference := nofun

@[simp]
theorem Condition.mentions_announcing_iff {condition : Condition} {origin : Origin} :
    (condition.announcing origin).Mentions reference ↔ condition.Mentions reference := by
  simp [announcing]

theorem not_mentions_aggregatePolicy (vrf : String) (block : Prefix) :
    ¬(aggregatePolicy vrf block).Mentions reference := by
  simp [RoutingPolicy.Mentions, aggregatePolicy, Statement.returnWhether]

theorem not_mentions_defaultRoutePolicy (vrf peer : String) :
    ¬(defaultRoutePolicy vrf peer).Mentions reference := by
  simp [RoutingPolicy.Mentions, defaultRoutePolicy, Statement.when]

/-- A redistribution refers to its route map, if that exists. -/
theorem mentions_redistributionCondition_iff {source : RedistributionSource}
    {routeMap : Option String} :
    (redistributionCondition device source routeMap).Mentions reference ↔
      ∃ name, routeMap = some name ∧ name ∈ device.routeMaps ∧ reference = .policy name := by
  have test : (redistributionTest device routeMap).Mentions reference ↔
      ∃ name, routeMap = some name ∧ name ∈ device.routeMaps ∧ reference = .policy name := by
    cases routeMap with
    | none => simp [redistributionTest]
    | some name =>
        by_cases defined : name ∈ device.routeMaps <;> simp [redistributionTest, defined]
  simp [redistributionCondition, test]

theorem not_mentions_networkCondition (block : Prefix) :
    ¬(networkCondition block).Mentions reference := by
  simp [networkCondition]

theorem not_mentions_aggregatesCondition (aggregates : AggregateTable) :
    ¬(aggregatesCondition aggregates).Mentions reference := by
  simp [aggregatesCondition, aggregateCondition]

/-- The alternatives of an export refer to route maps that exist. -/
theorem exists_of_mentions_exportConditions {condition : Condition}
    (member : condition ∈ exportConditions device inst) (mentions : condition.Mentions reference) :
    ∃ name, name ∈ device.routeMaps ∧ reference = .policy name := by
  rw [exportConditions] at member
  rcases List.mem_cons.mp member with rfl | member
  · simp at mentions
  · cases family_eq : inst.ipv4Unicast with
    | none => simp [family_eq] at member
    | some family =>
        simp only [family_eq, List.mem_append, List.mem_map, List.mem_singleton] at member
        rcases member with (⟨⟨source, routeMap⟩, -, rfl⟩ | ⟨block, -, rfl⟩) | rfl
        · obtain ⟨name, -, defined, same⟩ := mentions_redistributionCondition_iff.mp mentions
          exact ⟨name, defined, same⟩
        · exact absurd mentions (not_mentions_networkCondition block)
        · exact absurd mentions (not_mentions_aggregatesCondition family.aggregates)

theorem cases_of_mentions_commonExportPolicy
    (mentions : (commonExportPolicy device inst inst.suppression?).Mentions reference) :
    (inst.summaryOnlyAggregates.isEmpty = false ∧
        reference = .destinationList (GeneratedName.suppressed inst.vrf).text) ∨
      ∃ name, name ∈ device.routeMaps ∧ reference = .policy name := by
  obtain ⟨statement, member, mentions⟩ := mentions
  rcases List.mem_append.mp member with suppresses | exports
  · rw [BgpInstance.suppression?] at suppresses
    split at suppresses
    · cases suppresses
    · next some_block =>
        rw [Option.toList_some, List.mem_singleton] at suppresses
        subst suppresses
        exact .inl ⟨eq_false_of_ne_true some_block, by simpa [suppression] using mentions⟩
  · rw [List.mem_singleton] at exports
    subst exports
    rw [Statement.returnWhether, Statement.mentions_branch_iff] at mentions
    rcases mentions with guarded | verdict
    · obtain ⟨condition, member, inside⟩ := Condition.mentions_any_iff.mp guarded
      exact .inr (exists_of_mentions_exportConditions member inside)
    · simp at verdict

/-- The export policy of a peer refers to the common export policy, to the outbound route map and,
if a default route is originated, to the policy for it. -/
theorem mentions_peerExportPolicy_iff :
    (peerExportPolicy inst settings).Mentions reference ↔
      reference = .policy (GeneratedName.commonExport inst.vrf).text ∨
      (settings.originatesDefault = true ∧
        reference = .policy (GeneratedName.defaultRoute .v4 inst.vrf settings.name).text) ∨
      ∃ name, settings.ipv4Setting (·.routeMapOut) = some name ∧ reference = .policy name := by
  have sends : (sendDefaultRoute inst settings).Mentions reference ↔
      reference = .policy (GeneratedName.defaultRoute .v4 inst.vrf settings.name).text := by
    simp [sendDefaultRoute, defaultRoutePolicy]
  have keeps : ¬keepDefaultRoute.Mentions reference := by
    simp [keepDefaultRoute, Statement.when]
  have condition : (peerExportCondition inst settings).Mentions reference ↔
      reference = .policy (GeneratedName.commonExport inst.vrf).text ∨
      ∃ name, settings.ipv4Setting (·.routeMapOut) = some name ∧ reference = .policy name := by
    rw [peerExportCondition]
    cases settings.ipv4Setting (·.routeMapOut) <;> simp
  have next_hop : ∀ statement ∈ (nextHopStatement? settings inst).toList,
      ¬statement.Mentions reference := by
    intro statement member
    rw [nextHopStatement?] at member
    split at member
    · rw [List.mem_singleton.mp member]
      exact Statement.not_mentions_setNextHop _
    · cases member
  have decides : (peerExportStatement inst settings).Mentions reference ↔
      (peerExportCondition inst settings).Mentions reference := by
    rw [peerExportStatement, Statement.mentions_branch_iff, or_iff_left]
    rintro ⟨statement, member, inside⟩
    simp only [List.mem_append, List.mem_singleton] at member
    rcases member with (own | rfl) | rfl
    · exact next_hop statement own inside
    · cases inside
    · cases inside
  rw [RoutingPolicy.Mentions, peerExportPolicy]
  cases settings.originatesDefault <;> simp [sends, keeps, decides, condition, or_left_comm]

theorem mentions_iff_of_peerImportPolicy? {policy : RoutingPolicy}
    (used : peerImportPolicy? inst settings = some policy) :
    policy.Mentions reference ↔
      ∃ name, settings.ipv4Setting (·.routeMapIn) = some name ∧ reference = .policy name := by
  obtain ⟨routeMap, same, rfl⟩ := Option.map_eq_some_iff.mp used
  simp [RoutingPolicy.Mentions, same]

theorem isSome_undefinedList?_iff {α : Type} {lists : ExtTreeMap String α} {kind name : String} :
    (undefinedList? lists kind name).isSome = true ↔ name ∉ lists := by
  by_cases defined : name ∈ lists <;> simp [undefinedList?, defined]

/-- A test of a route map refers to its list if that exists, and to nothing otherwise. -/
theorem exists_of_mentions_testCondition {test : RouteMapTest}
    (mentions : (test.condition device).Mentions reference) :
    (∃ name, name ∈ device.prefixLists ∧ reference = .destinationList name) ∨
      (∃ name, name ∈ device.communityLists ∧ reference = .communityList name) ∨
      ∃ name, name ∈ device.asPathLists ∧ reference = .asPathList name := by
  rw [RouteMapTest.condition] at mentions
  split at mentions
  · simp at mentions
  · next defined =>
      cases test with
      | prefixList name =>
          rw [RouteMapTest.undefined?, isSome_undefinedList?_iff, not_not] at defined
          exact .inl ⟨name, defined, Condition.mentions_list_iff.mp mentions⟩
      | communityList name =>
          rw [RouteMapTest.undefined?, isSome_undefinedList?_iff, not_not] at defined
          exact .inr (.inl ⟨name, defined, Condition.mentions_communityList_iff.mp mentions⟩)
      | asPathList name =>
          rw [RouteMapTest.undefined?, isSome_undefinedList?_iff, not_not] at defined
          exact .inr (.inr ⟨name, defined, Condition.mentions_asPathList_iff.mp mentions⟩)
      | tag value => cases mentions
      | source origin => cases mentions

theorem RouteMapEntry.not_mentions_of_mem_verdict {entry : RouteMapEntry} {statement : Statement}
    (member : statement ∈ entry.verdict) : ¬statement.Mentions reference := by
  have quiet : ∀ change : RouteMapSet, ¬change.statement.Mentions reference := by
    intro change
    cases change <;> exact nofun
  rw [verdict] at member
  split at member
  · rcases List.mem_append.mp member with changes | ends
    · obtain ⟨change, -, rfl⟩ := List.mem_map.mp changes
      exact quiet change
    · rw [List.mem_singleton.mp ends]
      exact Statement.not_mentions_directive _
  · rw [List.mem_singleton.mp member]
    exact Statement.not_mentions_directive _

/-- The policy of a route map refers to match lists of the device only. -/
theorem RouteMap.exists_of_mentions_policy {map : RouteMap}
    (mentions : (map.policy device).Mentions reference) :
    (∃ name, name ∈ device.prefixLists ∧ reference = .destinationList name) ∨
      (∃ name, name ∈ device.communityLists ∧ reference = .communityList name) ∨
      ∃ name, name ∈ device.asPathLists ∧ reference = .asPathList name := by
  obtain ⟨statement, member, mentions⟩ := mentions
  rcases List.mem_append.mp member with entries | last
  · obtain ⟨⟨number, entry⟩, -, rfl⟩ := List.mem_map.mp entries
    rcases Statement.mentions_branch_iff.mp mentions with guarded | ⟨statement, selected, inside⟩
    · obtain ⟨condition, tested, inside⟩ := Condition.mentions_all_iff.mp guarded
      obtain ⟨test, -, rfl⟩ := List.mem_map.mp tested
      exact exists_of_mentions_testCondition inside
    · rw [List.append_nil] at selected
      exact absurd inside (RouteMapEntry.not_mentions_of_mem_verdict selected)
  · rw [List.mem_singleton.mp last] at mentions
    exact absurd mentions (Statement.not_mentions_directive _)

end NeutralRouting
