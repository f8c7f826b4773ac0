import NeutralRouting.Proofs.CallDepth
import NeutralRouting.Proofs.Roles
import NeutralRouting.Proofs.RouteMap

/-!
# Who calls whom

Policies of peers call shared policies and route maps, the common export policy of a VRF calls route
maps, and all others call nothing.  Names of generated policies and of route maps share one space,
so this needs route maps of peers whose names cannot be taken for generated ones.
-/

namespace NeutralRouting

open Std Conversion

/-- What a policy with that role may call. -/
def PolicyRole.callees : PolicyRole → List PolicyRole
  | routeMap | aggregate | defaultRoute => []
  | commonExport => [routeMap]
  | peerExport => [commonExport, defaultRoute, routeMap]
  | peerImport => [routeMap]

/-- How many calls a policy with that role has open at most, its own among them. -/
def PolicyRole.depth : PolicyRole → Nat
  | routeMap | aggregate | defaultRoute => 1
  | commonExport => 2
  | peerExport | peerImport => 3

theorem PolicyRole.depth_pos (role : PolicyRole) : 0 < role.depth := by
  cases role <;> decide

theorem PolicyRole.depth_le (role : PolicyRole) : role.depth ≤ 3 := by
  cases role <;> decide

theorem PolicyRole.depth_lt_of_mem_callees {role callee : PolicyRole}
    (member : callee ∈ role.callees) : callee.depth < role.depth := by
  cases role <;> cases callee <;> first | decide | exact absurd member (by decide)

theorem PolicyRole.two_le_depth_of_callees_ne_nil {role : PolicyRole} (calls : role.callees ≠ []) :
    2 ≤ role.depth := by
  cases role <;> first | decide | exact absurd rfl calls

/-- No route map of a peer, inbound or outbound, starts like a generated name. -/
def Device.PeersAvoidTildes (device : Device) : Prop :=
  ∀ inst settings, (inst, settings) ∈ device.peers → ∀ map : String,
    (settings.ipv4Setting (·.routeMapOut) = some map ∨
      settings.ipv4Setting (·.routeMapIn) = some map) → map.toList.head? ≠ some '~'

/-- The name leads to a policy with one of the roles. -/
def Configuration.PlaysAmong (configuration : Configuration) (device : Device)
    (roles : List PolicyRole) (name : String) : Prop :=
  ∃ role ∈ roles, ∃ policy, configuration.policies[name]? = some policy ∧ device.Makes role policy

section Layers

variable {device : Device} {params : ConversionParams} {progress : Progress} {role : PolicyRole}
  {roles : List PolicyRole} {policy : RoutingPolicy}

theorem playsAmong_of_makes (converted : device.convert params entrywiseCompiler = .ok progress)
    (made : device.Makes role policy) (member : role ∈ roles) :
    progress.configuration.PlaysAmong device roles policy.name :=
  ⟨role, member, policy, (getElem?_policies_iff_makes converted).mpr ⟨⟨role, made⟩, rfl⟩, made⟩

/-- A registered policy whose name is not a generated one is a route map. -/
theorem playsAmong_of_head?_ne (converted : device.convert params entrywiseCompiler = .ok progress)
    {name : String} (present : name ∈ progress.configuration.policies)
    (plain : name.toList.head? ≠ some '~') (member : .routeMap ∈ roles) :
    progress.configuration.PlaysAmong device roles name := by
  obtain ⟨policy, found⟩ := Table.mem_iff_getElem?_eq_some.mp present
  obtain ⟨⟨role, made⟩, rfl⟩ := (getElem?_policies_iff_makes converted).mp found
  by_cases own : role = .routeMap
  · exact ⟨.routeMap, member, policy, found, own ▸ made⟩
  · obtain ⟨generated, same⟩ := made.exists_generatedName own
    rw [same] at plain
    exact absurd generated.head?_text plain

/-- A policy whose role may call nothing does not even call what is missing. -/
theorem not_mentions_policy_of_callees_eq_nil (made : device.Makes role policy)
    (quiet : role.callees = []) (callee : String) : ¬policy.Mentions (.policy callee) := by
  intro mentions
  cases made with
  | routeMap member =>
      rcases RouteMap.exists_of_mentions_policy mentions with
        ⟨name, -, same⟩ | ⟨name, -, same⟩ | ⟨name, -, same⟩ <;> cases same
  | aggregate active listed => exact not_mentions_aggregatePolicy _ _ mentions
  | defaultRoute attached originates => exact not_mentions_defaultRoutePolicy _ _ mentions
  | commonExport active => cases quiet
  | peerExport attached => cases quiet
  | peerImport attached imported => cases quiet

/-- A policy calls registered policies with roles that its own role may call. -/
theorem playsAmong_callees_of_mentions (keyed : device.Keyed) (plain : device.PeersAvoidTildes)
    (converted : device.convert params entrywiseCompiler = .ok progress)
    (made : device.Makes role policy) {callee : String}
    (mentions : policy.Mentions (.policy callee))
    (present : callee ∈ progress.configuration.policies) :
    progress.configuration.PlaysAmong device role.callees callee := by
  have silent : role.callees = [] → progress.configuration.PlaysAmong device role.callees callee :=
    fun quiet => absurd mentions (not_mentions_policy_of_callees_eq_nil made quiet callee)
  cases made with
  | routeMap member => exact silent rfl
  | aggregate active listed => exact silent rfl
  | defaultRoute attached originates => exact silent rfl
  | commonExport active =>
      rcases cases_of_mentions_commonExportPolicy mentions with ⟨-, same⟩ | ⟨name, defined, same⟩
      · cases same
      · cases same
        obtain ⟨map_policy, map_made, rfl⟩ := exists_makes_of_mem_routeMaps keyed defined
        exact playsAmong_of_makes converted map_made (by decide)
  | @peerExport inst settings attached =>
      rcases mentions_peerExportPolicy_iff.mp mentions with
        same | ⟨originates, same⟩ | ⟨map, used, same⟩
      · cases same
        have active := Device.mem_activeInstances_of_mem_peers attached
        exact playsAmong_of_makes converted (.commonExport active) (by decide)
      · cases same
        exact playsAmong_of_makes converted (.defaultRoute attached originates) (by decide)
      · cases same
        exact playsAmong_of_head?_ne converted present
          (plain inst settings attached callee (.inl used)) (by decide)
  | @peerImport inst settings _ attached imported =>
      obtain ⟨map, used, same⟩ := (mentions_iff_of_peerImportPolicy? imported).mp mentions
      cases same
      exact playsAmong_of_head?_ne converted present
        (plain inst settings attached callee (.inr used)) (by decide)

/-- A policy opens no more calls than its role allows: calls lead to roles that allow fewer. -/
theorem opensAtMost_of_makes (keyed : device.Keyed) (plain : device.PeersAvoidTildes)
    (converted : device.convert params entrywiseCompiler = .ok progress) {depth : Nat}
    (made : device.Makes role policy) (enough : role.depth ≤ depth) :
    progress.configuration.OpensAtMost depth policy.name := by
  have found := (getElem?_policies_iff_makes converted).mpr ⟨⟨role, made⟩, rfl⟩
  induction depth generalizing role policy with
  | zero => exact absurd enough (Nat.not_le.mpr role.depth_pos)
  | succ depth ih =>
      refine .policy found fun callee mentions => ?_
      by_cases present : callee ∈ progress.configuration.policies
      · obtain ⟨other, member, other_policy, other_found, other_made⟩ :=
          playsAmong_callees_of_mentions keyed plain converted made mentions present
        obtain ⟨-, rfl⟩ := (getElem?_policies_iff_makes converted).mp other_found
        have less := PolicyRole.depth_lt_of_mem_callees member
        exact ih other_made (by omega) other_found
      · have calls : role.callees ≠ [] := fun quiet =>
          not_mentions_policy_of_callees_eq_nil made quiet callee mentions
        have two_le := PolicyRole.two_le_depth_of_callees_ne_nil calls
        obtain ⟨rest, rfl⟩ : ∃ rest, depth = rest + 1 := ⟨depth - 1, by omega⟩
        exact .undefined present

theorem opensAtMost_three (keyed : device.Keyed) (plain : device.PeersAvoidTildes)
    (converted : device.convert params entrywiseCompiler = .ok progress) (name : String) :
    progress.configuration.OpensAtMost 3 name := by
  by_cases present : name ∈ progress.configuration.policies
  · obtain ⟨policy, found⟩ := Table.mem_iff_getElem?_eq_some.mp present
    obtain ⟨⟨role, made⟩, rfl⟩ := (getElem?_policies_iff_makes converted).mp found
    exact opensAtMost_of_makes keyed plain converted made role.depth_le
  · exact .undefined present

end Layers

section Outcome

variable {device : Device} {params : ConversionParams} {progress : Progress}

/-- Policies call each other in layers by their roles, so there are no cycles and no chain of calls
visits more than three policies. -/
theorem convert_calls_layered (keyed : device.Keyed) (plain : device.PeersAvoidTildes)
    (converted : device.convert params entrywiseCompiler = .ok progress) :
    (∀ name, ¬Relation.TransGen progress.configuration.Calls name name) ∧
      (∀ (caller : String) (policy : RoutingPolicy),
        progress.configuration.policies[caller]? = some policy →
        (∃ role, device.Makes role policy) ∧ ∀ role, device.Makes role policy →
          (role.callees = [] → policy.calls = ∅) ∧
          ∀ callee, progress.configuration.Calls caller callee →
            progress.configuration.PlaysAmong device role.callees callee) ∧
      (∀ path : List String, path.IsChain progress.configuration.Calls → path.length ≤ 3) ∧
      ∀ reading name route,
        (progress.configuration.evaluate reading name route).1 ≠ .error .endlessCalls ∧
          ∀ depth ≥ 3, (progress.configuration.call reading depth name).runFrom (.initial route) =
            progress.configuration.evaluate reading name route := by
  have opens := opensAtMost_three keyed plain converted
  have acyclic : ∀ name, ¬Relation.TransGen progress.configuration.Calls name name :=
    fun name => (opens name).not_transGen_self
  refine ⟨acyclic, ?layers, ?chains, fun reading name route => ⟨?ends, ?stable⟩⟩
  case layers =>
    intro caller policy found
    have made_for_a_role := ((getElem?_policies_iff_makes converted).mp found).1
    refine ⟨made_for_a_role, fun role made => ⟨fun quiet => ?_, ?_⟩⟩
    · refine ExtTreeSet.eq_empty_iff_forall_not_mem.mpr fun callee member => ?_
      exact not_mentions_policy_of_callees_eq_nil made quiet callee
        (RoutingPolicy.mem_calls_iff.mp member)
    · rintro callee ⟨present, same, same_found, mentions⟩
      cases found.symm.trans same_found
      exact playsAmong_callees_of_mentions keyed plain converted made mentions present
  case chains =>
    intro path chain
    cases path with
    | nil => exact Nat.zero_le 3
    | cons name rest => exact (opens name).length_le chain
  case ends => exact Configuration.evaluate_ne_endlessCalls acyclic reading name route
  case stable =>
    intro depth enough
    exact ((opens name).mono enough).runFrom_call_eq_evaluate acyclic reading route

end Outcome

/-- The route map that the neighbor uses both ways does not look like a generated name. -/
theorem borderRouter_peersAvoidTildes : borderRouter.PeersAvoidTildes := by
  have used : borderRouter.peers.map (fun pair =>
      (pair.2.ipv4Setting (·.routeMapOut), pair.2.ipv4Setting (·.routeMapIn))) =
        [(some "internal", some "internal")] := by decide +kernel
  intro inst settings attached map names
  have listed := List.mem_map_of_mem (f := fun pair =>
    (pair.2.ipv4Setting (·.routeMapOut), pair.2.ipv4Setting (·.routeMapIn))) attached
  rw [used, List.mem_singleton, Prod.mk.injEq] at listed
  obtain ⟨outbound, inbound⟩ := listed
  rw [outbound, inbound, or_self, Option.some.injEq] at names
  rw [← names]
  decide

/-- Its policies run to an end on any route. -/
theorem convert_borderRouter_calls :
    ∃ progress, borderRouter.convert .standard entrywiseCompiler = .ok progress ∧
      (∀ name, ¬Relation.TransGen progress.configuration.Calls name name) ∧
      ∀ name route, (progress.configuration.evaluate silentReading name route).1 ≠
        .error .endlessCalls := by
  obtain ⟨progress, converted⟩ := borderRouter_converts
  obtain ⟨acyclic, -, -, outcome⟩ :=
    convert_calls_layered borderRouter_keyed borderRouter_peersAvoidTildes converted
  exact ⟨progress, converted, acyclic, fun name route => (outcome silentReading name route).1⟩

end NeutralRouting
