import NeutralRouting.Proofs.CommonExport

/-!
# What the policies of peers decide

The export policy of a peer lets a default route out only if it is originated for the peer, whatever
the VRF exports otherwise; every other route has to be let out by the common export policy and then
by the outbound route map.  The import policy is the inbound route map.
-/

namespace NeutralRouting

open Std Evaluation

/-- How an evaluation that gives a verdict comes to its end: by that verdict, or by leaving. -/
inductive EndsWith : Except Halt Bool → Bool → Prop
  | returned (verdict : Bool) : EndsWith (.ok verdict) verdict
  | exited (verdict : Bool) : EndsWith (.error (.exited verdict)) verdict

/-- The verdict that a halt carries. -/
def Halt.verdict? : Halt → Option Bool
  | returned verdict => some verdict
  | exited verdict => some verdict
  | endlessCalls => none

theorem EndsWith.of_runAll {environment : Environment} {policy : RoutingPolicy}
    {state after : RouteState} {halt : Halt} {verdict : Bool}
    (run : (Statement.runAll environment policy.statements).runFrom state = (.error halt, after))
    (gives : halt.verdict? = some verdict) :
    EndsWith ((policy.verdict environment).runFrom state).1 verdict := by
  cases halt with
  | returned own =>
      cases gives
      rw [RoutingPolicy.runFrom_verdict_of_returned run]
      exact .returned verdict
  | exited own =>
      cases gives
      rw [RoutingPolicy.runFrom_verdict_of_exited run]
      exact .exited verdict
  | endlessCalls => cases gives

section Conditions

variable {environment : Environment} {state : RouteState}

theorem runFrom_isDefaultRoute (environment : Environment) (state : RouteState) :
    (Condition.isDefaultRoute.test environment).runFrom state =
      (.ok (decide (state.route.destination = .root)), state) :=
  Condition.runFrom_destinationIs environment state .root

/-- The guard of the policy for the default route of a peer. -/
theorem runFrom_aggregatedDefault (environment : Environment) (state : RouteState) :
    ((Condition.all [.isDefaultRoute, .protocols [.aggregate]] none).test environment).runFrom
        state =
      (.ok (decide (state.route.destination = .root ∧ state.route.protocol = .aggregate)),
        state) := by
  have own := Condition.finds_testAll_singleton
    (Condition.finds_of_quiet (Condition.runFrom_protocols environment state [.aggregate]))
  have both := Condition.finds_testAll_cons (runFrom_isDefaultRoute environment state) own
  rw [Condition.test]
  by_cases is_default : state.route.destination = .root <;>
    by_cases is_aggregate : state.route.protocol = .aggregate <;>
      simpa [Finds, is_default, is_aggregate] using both

/-- A default route is let out if it is an aggregate; nothing else is. -/
theorem runFrom_verdict_defaultRoutePolicy (environment : Environment) (vrf peer : String)
    (state : RouteState) :
    ((defaultRoutePolicy vrf peer).verdict environment).runFrom state =
      if state.route.destination = .root ∧ state.route.protocol = .aggregate then
        (.ok true, { state with route := { state.route with origin := .incomplete } })
      else (.ok false, state) := by
  have test := runFrom_aggregatedDefault environment state
  by_cases holds : state.route.destination = .root ∧ state.route.protocol = .aggregate
  · rw [decide_eq_true holds] at test
    rw [if_pos holds]
    apply RoutingPolicy.runFrom_verdict_of_returned
    apply Statement.runFrom_runAll_cons_of_error
    rw [Statement.when, Statement.runFrom_branch _ _ test]
    rfl
  · rw [decide_eq_false holds] at test
    rw [if_neg holds]
    apply RoutingPolicy.runFrom_verdict_of_returned
    have passed : ((Statement.when (.all [.isDefaultRoute, .protocols [.aggregate]] none)
        [.setOrigin .incomplete, .directive .returnTrue]).run environment).runFrom state =
          (.ok (), state) := by
      rw [Statement.when, Statement.runFrom_branch _ _ test]
      rfl
    rw [defaultRoutePolicy, Statement.runFrom_runAll_cons_of_ok _ passed]
    rfl

/-- A default route is kept back, and any other route goes on unchanged. -/
theorem runFrom_keepDefaultRoute (environment : Environment) (state : RouteState) :
    (keepDefaultRoute.run environment).runFrom state =
      if state.route.destination = .root then (.error (.returned false), state)
      else (.ok (), state) := by
  rw [keepDefaultRoute, Statement.when,
    Statement.runFrom_branch _ _ (runFrom_isDefaultRoute environment state)]
  by_cases is_default : state.route.destination = .root
  · simp only [is_default, decide_true, if_true]
    rfl
  · simp only [is_default, decide_false, if_false]
    rfl

end Conditions

/-- The route maps that neighbors use exist.  Peer groups may name others. -/
def BgpInstances.RouteMapsExist (instances : BgpInstances) (device : Device) : Prop :=
  ∀ inst neighbor, (inst, neighbor) ∈ instances.neighbors → neighbor.isPeerGroup = false → ∀ name,
    (neighbor.resolve inst.neighbors).settings.ipv4Setting (·.routeMapIn) = some name ∨
      (neighbor.resolve inst.neighbors).settings.ipv4Setting (·.routeMapOut) = some name →
    name ∈ device.routeMaps

section Exports

variable {device : Device} {params : ConversionParams} {reading : ListReading}
  {configuration : Configuration} {inst : BgpInstance} {settings : NeighborSettings}

/-- The route that the common export policy left, if it let one out, passes the outbound route map
of the neighbor. -/
def PassesOutbound (device : Device) (reading : ListReading) (settings : NeighborSettings)
    (route : Route) : Prop :=
  ∀ name, settings.ipv4Setting (·.routeMapOut) = some name →
    ∃ map after, device.routeMaps[name]? = some map ∧ map.Gives device reading route true after

/-- The condition of the export policy asks the common export policy first and the outbound route
map then. -/
theorem exists_runFrom_peerExportCondition (result : configuration.IsResult device params)
    (has : configuration.HasCommonExport device inst)
    (exist : ∀ name, settings.ipv4Setting (·.routeMapOut) = some name → name ∈ device.routeMaps)
    (depth : Nat) (state : RouteState) (calm : state.writesIntermediate = false) :
    ∃ verdict after, ((peerExportCondition inst settings).test
        (configuration.environment reading (configuration.call reading (depth + 2)))).runFrom
          state = (.ok verdict, after) ∧
      (verdict = true ↔ ∃ sent, exported? device reading inst (inst.marked state) = some sent ∧
        PassesOutbound device reading settings sent.route) := by
  let environment := configuration.environment reading (configuration.call reading (depth + 2))
  have common : ((Condition.call (GeneratedName.commonExport inst.vrf).text).test
      environment).runFrom state = _ :=
    result.runFrom_call_commonExport has reading depth state calm
  rw [peerExportCondition]
  cases outbound : settings.ipv4Setting (·.routeMapOut) with
  | none =>
      refine ⟨_, _, common, ?_⟩
      rw [Option.isSome_iff_exists]
      constructor
      · rintro ⟨sent, found⟩
        refine ⟨sent, found, fun name used => ?_⟩
        rw [outbound] at used
        cases used
      · rintro ⟨sent, found, -⟩
        exact ⟨sent, found⟩
  | some name =>
      obtain ⟨map, present⟩ := Table.mem_iff_getElem?_eq_some.mp (exist name outbound)
      cases search : exported? device reading inst (inst.marked state) with
      | none =>
          rw [search] at common
          refine ⟨false, inst.marked state, ?_, by simp⟩
          rw [Condition.test, Condition.testAll_cons, runFrom_bind_of_ok _ common]
          rfl
      | some sent =>
          rw [search] at common
          have mapped : ((Condition.call name).test environment).runFrom sent = _ :=
            result.callsRouteMaps reading (depth + 1) name map sent present
          refine ⟨(map.decision device reading sent.route).1,
            { sent with route := (map.decision device reading sent.route).2 }, ?_, ?_⟩
          · rw [Condition.test, Condition.testAll_cons, runFrom_bind_of_ok _ common]
            change (Condition.testAll environment [.call name]).runFrom sent = _
            rw [Condition.testAll_cons, runFrom_bind_of_ok _ mapped]
            cases (map.decision device reading sent.route).1 <;> rfl
          · constructor
            · intro permitted
              refine ⟨sent, rfl, fun other used => ?_⟩
              rw [outbound] at used
              cases used
              exact ⟨map, _, present, RouteMap.gives_iff.mpr (Prod.ext permitted rfl)⟩
            · rintro ⟨_, same, passes⟩
              cases same
              obtain ⟨other, after, found, gives⟩ := passes name outbound
              rw [present] at found
              cases found
              rw [RouteMap.gives_iff.mp gives]

/-- The main conditional leaves the evaluation with the answer to its condition. -/
theorem exists_runFrom_peerExportStatement (environment : Environment) {verdict : Bool}
    {state after : RouteState}
    (guard : ((peerExportCondition inst settings).test environment).runFrom state =
      (.ok verdict, after)) :
    ∃ last, (Statement.runAll environment [peerExportStatement inst settings]).runFrom state =
      (.error (.exited verdict), last) := by
  have exits : ∃ last, (Statement.runAll environment
      (if verdict then (nextHopStatement? settings inst).toList ++ [.directive .exitAccept]
        else [.directive .exitReject])).runFrom after = (.error (.exited verdict), last) := by
    cases verdict with
    | false => exact ⟨after, rfl⟩
    | true =>
        rw [if_pos rfl, nextHopStatement?]
        cases setsNextHop settings inst with
        | false => exact ⟨after, rfl⟩
        | true => exact ⟨{ after with route := { after.route with nextHop := none } }, rfl⟩
  obtain ⟨last, run⟩ := exits
  refine ⟨last, Statement.runFrom_runAll_cons_of_error _ ?_⟩
  rw [peerExportStatement, Statement.runFrom_branch _ _ guard, run]

/-- The statement for the originated default route, where there is one. -/
theorem runFrom_sendDefaultRoute (policies : configuration.HasPeerPolicies inst settings)
    (originates : settings.originatesDefault = true) (depth : Nat) (state : RouteState) :
    ((sendDefaultRoute inst settings).run
        (configuration.environment reading (configuration.call reading (depth + 1)))).runFrom
          state =
      if state.route.destination = .root ∧ state.route.protocol = .aggregate then
        (.error (.returned true),
          { state with route := { state.route with origin := .incomplete } })
      else (.ok (), state) := by
  have called : ((Condition.call (defaultRoutePolicy inst.vrf settings.name).name).test
      (configuration.environment reading (configuration.call reading (depth + 1)))).runFrom state =
        if state.route.destination = .root ∧ state.route.protocol = .aggregate then
          (.ok true, { state with route := { state.route with origin := .incomplete } })
        else (.ok false, state) := by
    rw [← runFrom_verdict_defaultRoutePolicy (configuration.environment reading
      (configuration.call reading depth)) inst.vrf settings.name state,
      ← Configuration.call_of_getElem? reading depth (policies.defaultRoute originates)]
    rfl
  split at called
  · next holds =>
      rw [if_pos holds, sendDefaultRoute, Statement.runFrom_branch _ _ called]
      rfl
  · next fails =>
      rw [if_neg fails, sendDefaultRoute, Statement.runFrom_branch _ _ called]
      rfl

/-- The statements after the one for the originated default route.  They keep default routes back,
so the condition that asks the common export policy never sees one. -/
theorem exists_runFrom_keepThenExport (result : configuration.IsResult device params)
    (has : configuration.HasCommonExport device inst)
    (exist : ∀ name, settings.ipv4Setting (·.routeMapOut) = some name → name ∈ device.routeMaps)
    (depth : Nat) (state : RouteState) (calm : state.writesIntermediate = false) :
    ∃ halt last verdict, (Statement.runAll
        (configuration.environment reading (configuration.call reading (depth + 2)))
        [keepDefaultRoute, peerExportStatement inst settings]).runFrom state =
          (.error halt, last) ∧
      halt.verdict? = some verdict ∧
      (state.route.destination = .root → verdict = false) ∧
      (state.route.destination ≠ .root →
        (verdict = true ↔ ∃ sent, exported? device reading inst (inst.marked state) = some sent ∧
          PassesOutbound device reading settings sent.route)) := by
  let environment := configuration.environment reading (configuration.call reading (depth + 2))
  have keeps := runFrom_keepDefaultRoute environment state
  by_cases is_default : state.route.destination = .root
  · rw [if_pos is_default] at keeps
    exact ⟨_, _, false, Statement.runFrom_runAll_cons_of_error _ keeps, rfl, fun _ => rfl,
      fun other => absurd is_default other⟩
  · rw [if_neg is_default] at keeps
    obtain ⟨verdict, after, guard, verdict_iff⟩ :=
      exists_runFrom_peerExportCondition result has exist depth state calm
    obtain ⟨last, run⟩ := exists_runFrom_peerExportStatement environment guard
    exact ⟨_, last, verdict, (Statement.runFrom_runAll_cons_of_ok _ keeps).trans run, rfl,
      fun same => absurd same is_default, fun _ => verdict_iff⟩

/-- The export policy of a peer comes to its end with a verdict. -/
theorem exists_call_peerExport (result : configuration.IsResult device params)
    (has : configuration.HasCommonExport device inst)
    (policies : configuration.HasPeerPolicies inst settings)
    (exist : ∀ name, settings.ipv4Setting (·.routeMapOut) = some name → name ∈ device.routeMaps)
    (depth : Nat) (state : RouteState) (calm : state.writesIntermediate = false) :
    ∃ verdict, EndsWith ((configuration.call reading (depth + 3)
        (GeneratedName.peerExport inst.vrf settings.name).text).runFrom state).1 verdict ∧
      (state.route.destination = .root →
        (verdict = true ↔
          settings.originatesDefault = true ∧ state.route.protocol = .aggregate)) ∧
      (state.route.destination ≠ .root →
        (verdict = true ↔ ∃ sent, exported? device reading inst (inst.marked state) = some sent ∧
          PassesOutbound device reading settings sent.route)) := by
  obtain ⟨halt, last, verdict, rest_run, gives, kept, verdict_iff⟩ :=
    exists_runFrom_keepThenExport result has exist depth state calm
  rw [Configuration.call_of_getElem? reading (depth + 2) policies.exported]
  by_cases originates : settings.originatesDefault = true
  · have statements : (peerExportPolicy inst settings).statements =
        sendDefaultRoute inst settings ::
          [keepDefaultRoute, peerExportStatement inst settings] := by
      rw [peerExportPolicy, if_pos originates, List.singleton_append]
    have sends := @runFrom_sendDefaultRoute reading configuration inst settings policies originates
      (depth + 1) state
    by_cases own : state.route.destination = .root ∧ state.route.protocol = .aggregate
    · rw [if_pos own] at sends
      have run := Statement.runFrom_runAll_cons_of_error
        [keepDefaultRoute, peerExportStatement inst settings] sends
      rw [← statements] at run
      refine ⟨true, EndsWith.of_runAll run rfl, fun _ => ?_, fun other => absurd own.1 other⟩
      simp [originates, own.2]
    · rw [if_neg own] at sends
      have run := (Statement.runFrom_runAll_cons_of_ok _ sends).trans rest_run
      rw [← statements] at run
      refine ⟨verdict, EndsWith.of_runAll run gives, fun is_default => ?_, verdict_iff⟩
      rw [kept is_default]
      simp [not_and.mp own is_default]
  · have statements : (peerExportPolicy inst settings).statements =
        [keepDefaultRoute, peerExportStatement inst settings] := by
      rw [peerExportPolicy, if_neg originates, List.nil_append]
    rw [← statements] at rest_run
    refine ⟨verdict, EndsWith.of_runAll rest_run gives, fun is_default => ?_, verdict_iff⟩
    rw [kept is_default]
    simp [originates]

/-- The import policy of a peer comes to its end with the verdict of the inbound route map. -/
theorem exists_call_peerImport (result : configuration.IsResult device params)
    (policies : configuration.HasPeerPolicies inst settings) {name : String} {map : RouteMap}
    (used : settings.ipv4Setting (·.routeMapIn) = some name)
    (present : device.routeMaps[name]? = some map) (depth : Nat) (state : RouteState) :
    ∃ verdict after, EndsWith ((configuration.call reading (depth + 2)
        (GeneratedName.peerImport inst.vrf settings.name).text).runFrom state).1 verdict ∧
      map.Gives device reading state.route verdict after := by
  let environment := configuration.environment reading (configuration.call reading (depth + 1))
  have called : ((Condition.call name).test environment).runFrom state = _ :=
    result.callsRouteMaps reading depth name map state present
  have imports : ∃ comment, peerImportPolicy? inst settings = some
      ⟨(GeneratedName.peerImport inst.vrf settings.name).text,
        [.branch comment (.call name) [.directive .exitAccept] [.directive .exitReject]]⟩ := by
    rw [peerImportPolicy?, used, Option.map_some]
    exact ⟨_, rfl⟩
  obtain ⟨comment, imports⟩ := imports
  let decision := map.decision device reading state.route
  have branch_run := @Statement.runFrom_branch environment state _ comment _ _
    [.directive .exitAccept] [.directive .exitReject] called
  have exits : ∀ (verdict : Bool) (after : RouteState), (Statement.runAll environment
      (if verdict then [.directive .exitAccept] else [.directive .exitReject])).runFrom after =
        (.error (.exited verdict), after) := by
    intro verdict after
    cases verdict <;> rfl
  rw [exits] at branch_run
  refine ⟨decision.1, decision.2, ?_, RouteMap.gives_iff.mpr rfl⟩
  rw [Configuration.call_of_getElem? reading (depth + 1) (policies.imported _ imports)]
  exact EndsWith.of_runAll (Statement.runFrom_runAll_cons_of_error _ branch_run) rfl

end Exports

section Results

variable {device : Device} {params : ConversionParams} {configuration : Configuration}
  {inst : BgpInstance} {settings : NeighborSettings}

/-- What the policies of a peer do with routes, as the settings of its neighbor ask for. -/
structure Configuration.GovernsPeer (configuration : Configuration) (device : Device)
    (inst : BgpInstance) (settings : NeighborSettings) (peer : BgpPeer) : Prop where
  /-- All families use the export policy, and IPv4 unicast uses an import policy if there is an
  inbound route map. -/
  ipv4Policies : ∀ family, peer.ipv4Unicast = some family →
    family.exportPolicy = (GeneratedName.peerExport inst.vrf settings.name).text ∧
    family.importPolicy = (settings.ipv4Setting (·.routeMapIn)).map fun _ =>
      (GeneratedName.peerImport inst.vrf settings.name).text
  evpnPolicy : ∀ family, peer.evpn = some family →
    family.exportPolicy = (GeneratedName.peerExport inst.vrf settings.name).text
  /-- A default route is let out if it is originated for the peer, and not otherwise. -/
  defaultRoute : ∀ (reading : ListReading) (route : Route), route.destination = .root →
    ∃ verdict, EndsWith (configuration.evaluate reading
        (GeneratedName.peerExport inst.vrf settings.name).text route).1 verdict ∧
      (verdict = true ↔ settings.originatesDefault = true ∧ route.protocol = .aggregate)
  /-- Any other route is let out if the common export policy lets it out and the outbound route map
  permits what is left of it. -/
  otherRoute : ∀ (reading : ListReading) (route : Route), route.destination ≠ .root →
    ∃ verdict, EndsWith (configuration.evaluate reading
        (GeneratedName.peerExport inst.vrf settings.name).text route).1 verdict ∧
      (verdict = true ↔ ∃ sent, configuration.evaluate reading
          (GeneratedName.commonExport inst.vrf).text route = (.ok true, sent) ∧
        PassesOutbound device reading settings sent.route)
  /-- The import policy decides as the inbound route map. -/
  imports : ∀ name, settings.ipv4Setting (·.routeMapIn) = some name →
    ∀ (reading : ListReading) (route : Route), ∃ map verdict after,
      device.routeMaps[name]? = some map ∧
      EndsWith (configuration.evaluate reading
        (GeneratedName.peerImport inst.vrf settings.name).text route).1 verdict ∧
      map.Gives device reading route verdict after

/-- The policies of a peer and of its VRF leave room for the calls between them. -/
theorem Configuration.exists_size_eq (has : configuration.HasCommonExport device inst)
    (policies : configuration.HasPeerPolicies inst settings) :
    ∃ depth, configuration.policies.size = depth + 2 := by
  have distinct : (GeneratedName.commonExport inst.vrf).text ≠
      (GeneratedName.peerExport inst.vrf settings.name).text := by
    intro same
    cases (GeneratedName.kind_fields_of_text_eq same).1
  have enough := Table.two_le_size distinct
    (Table.mem_iff_getElem?_eq_some.mpr ⟨_, has.policy⟩)
    (Table.mem_iff_getElem?_eq_some.mpr ⟨_, policies.exported⟩)
  exact ⟨configuration.policies.size - 2, by omega⟩

theorem Configuration.IsResult.governsPeer (result : configuration.IsResult device params)
    (has : configuration.HasCommonExport device inst)
    (policies : configuration.HasPeerPolicies inst settings)
    (exist : ∀ name, settings.ipv4Setting (·.routeMapIn) = some name ∨
      settings.ipv4Setting (·.routeMapOut) = some name → name ∈ device.routeMaps)
    {peer : BgpPeer} (ipv4Unicast : peer.ipv4Unicast = ipv4UnicastFamily? inst settings)
    (evpn : ∃ earlier routerId, peer.evpn = evpnFamily? device earlier inst settings routerId
      (peerExportPolicy inst settings).name) :
    configuration.GovernsPeer device inst settings peer := by
  obtain ⟨depth, size_eq⟩ := Configuration.exists_size_eq has policies
  have exports := fun reading route => @exists_call_peerExport device params reading configuration
    inst settings result has policies (fun name used => exist name (.inr used)) depth
    (.initial route) rfl
  refine ⟨?ipv4, ?evpn, ?default, ?other, ?imports⟩
  case ipv4 =>
    intro family active
    rw [ipv4Unicast, ipv4UnicastFamily?] at active
    split at active
    · cases active
      refine ⟨rfl, ?_⟩
      rw [peerImportPolicy?, Option.map_map]
      rfl
    · cases active
  case evpn =>
    intro family active
    obtain ⟨earlier, routerId, made⟩ := evpn
    rw [made, evpnFamily?, Option.map_eq_some_iff] at active
    obtain ⟨_, -, rfl⟩ := active
    rfl
  case default =>
    intro reading route is_default
    obtain ⟨verdict, ends, verdict_iff, -⟩ := exports reading route
    rw [Configuration.evaluate, size_eq]
    exact ⟨verdict, ends, verdict_iff is_default⟩
  case other =>
    intro reading route other
    obtain ⟨verdict, ends, -, verdict_iff⟩ := exports reading route
    have common := result.runFrom_call_commonExport has reading (depth + 1) (.initial route) rfl
    simp only [Configuration.evaluate, size_eq]
    refine ⟨verdict, ends, (verdict_iff other).trans ?_⟩
    apply exists_congr
    intro sent
    apply and_congr_left'
    rw [common]
    cases exported? device reading inst (inst.marked (.initial route)) <;> simp
  case imports =>
    intro name used reading route
    obtain ⟨map, present⟩ := Table.mem_iff_getElem?_eq_some.mp (exist name (.inl used))
    obtain ⟨verdict, after, ends, gives⟩ := exists_call_peerImport result policies used present
      (depth + 1) (.initial route)
    rw [Configuration.evaluate, size_eq]
    exact ⟨map, verdict, after, present, ends, gives⟩

/-- Every peer of a result is made from a neighbor of an instance of its VRF, and its policies do
with routes what the resolved settings of that neighbor ask for. -/
theorem evaluate_peerPolicies {instances : BgpInstances} {progress : Progress}
    (keyed : device.Keyed) (converted : device.convert params entrywiseCompiler = .ok progress)
    (runs_bgp : device.bgp = some instances) (exist : instances.RouteMapsExist device)
    {vrf : String} {process : BgpProcess} {id : PeerId} {peer : BgpPeer}
    (running : progress.configuration.bgpProcess? vrf = some process)
    (attached : process.peer? id = some peer) :
    ∃ inst neighbor, (inst, neighbor) ∈ instances.neighbors ∧ inst.vrf = vrf ∧
      (neighbor.resolve inst.neighbors).peerId? = some id ∧
      progress.configuration.GovernsPeer device inst (neighbor.resolve inst.neighbors).settings
        peer := by
  have result := isResult_of_convert keyed converted
  obtain ⟨own, inst, neighbor, member, same_vrf, identity, policies, earlier, routerId, remoteAsns,
    made⟩ := result.peers instances runs_bgp vrf process id peer running attached
  rw [own] at identity
  refine ⟨inst, neighbor, member, same_vrf, identity, ?_⟩
  have inst_mem := (BgpInstances.mem_neighbors_iff.mp member).1
  have has_vrf : device.HasVrf inst.vrf := by
    obtain ⟨owner, found, -⟩ := Configuration.bgpProcess?_eq_some_iff.mp running
    rw [same_vrf, ← result.vrfs]
    exact Table.mem_iff_getElem?_eq_some.mpr ⟨owner, found⟩
  have has := result.commonExports instances inst runs_bgp inst_mem has_vrf
  have no_group := (Neighbor.isValid_of_peerId? identity).1
  exact result.governsPeer has policies (exist inst neighbor member no_group) (by rw [made]; rfl)
    ⟨earlier, routerId, by rw [made]; rfl⟩

theorem borderRouter_routeMapsExist :
    BgpInstances.RouteMapsExist ⟨borderInstance, ∅⟩ borderRouter := by
  intro inst neighbor member _ name used
  have neighbors : BgpInstances.neighbors ⟨borderInstance, ∅⟩ =
      [(borderInstance, .ip borderNeighbor (some (.ofOctets 192 0 2 1)))] := by decide +kernel
  rw [neighbors, List.mem_singleton] at member
  cases member
  have resolved : ((Neighbor.ip borderNeighbor (some (.ofOctets 192 0 2 1))).resolve
      borderInstance.neighbors).settings = borderNeighbor := by decide +kernel
  rw [resolved] at used
  have same : name = "internal" := by
    rcases used with used | used <;> cases used <;> rfl
  rw [same]
  exact ExtTreeMap.mem_insert_self

/-- The neighbor of the border router becomes a peer, which gets the default route that is
originated for it. -/
theorem evaluate_peerPolicies_borderRouter :
    ∃ (progress : Progress) (process : BgpProcess) (peer : BgpPeer),
      borderRouter.convert .standard entrywiseCompiler = .ok progress ∧
      progress.configuration.bgpProcess? defaultVrfName = some process ∧
      process.peer? (.address (.ofOctets 192 0 2 1)) = some peer ∧
      ∃ inst neighbor, (inst, neighbor) ∈ BgpInstances.neighbors ⟨borderInstance, ∅⟩ ∧
        progress.configuration.GovernsPeer borderRouter inst
          (neighbor.resolve inst.neighbors).settings peer := by
  obtain ⟨progress, converted⟩ := borderRouter_converts
  have attaches : (match borderRouter.convert .standard entrywiseCompiler with
      | .ok progress => (progress.configuration.bgpProcess? defaultVrfName >>=
          (·.peer? (.address (.ofOctets 192 0 2 1)))).isSome
      | .error _ => false) = true := by decide +kernel
  rw [converted, Option.isSome_iff_exists] at attaches
  obtain ⟨peer, attached⟩ := attaches
  obtain ⟨process, running, attached⟩ := Option.bind_eq_some_iff.mp attached
  obtain ⟨inst, neighbor, member, -, -, governs⟩ := evaluate_peerPolicies borderRouter_keyed
    converted rfl borderRouter_routeMapsExist running attached
  exact ⟨progress, process, peer, converted, running, attached, inst, neighbor, member, governs⟩

end Results
end NeutralRouting
