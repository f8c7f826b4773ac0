import NeutralRouting.Proofs.Contents
import NeutralRouting.Proofs.ProcessPresence

/-!
# Devices that differ in one BGP instance

Two devices may have different instances of one VRF, or one of them may have none.  All that is
generated for other VRFs is then the same, and so is everything that BGP has no part in.
-/

namespace NeutralRouting

open Std Conversion

section Options

variable {α β : Type} {related : α → β → Prop} {left : Option α} {right : Option β}

theorem rel_swap {swapped : β → α → Prop}
    (both : ∀ first second, related first second → swapped second first)
    (rel : Option.Rel related left right) : Option.Rel swapped right left := by
  cases rel with
  | none => exact .none
  | some same => exact .some (both _ _ same)

theorem exists_of_rel {value : α} (rel : Option.Rel related left right)
    (known : left = some value) : ∃ other, right = some other ∧ related value other := by
  subst known
  cases rel with
  | some same => exact ⟨_, rfl, same⟩

/-- Optional values are related if each of them has its counterpart. -/
theorem rel_of_exists
    (forth : ∀ value, left = some value → ∃ other, right = some other ∧ related value other)
    (back : ∀ other, right = some other → ∃ value, left = some value) :
    Option.Rel related left right := by
  cases left with
  | some value =>
      obtain ⟨other, rfl, same⟩ := forth value rfl
      exact .some same
  | none =>
      cases right with
      | none => exact .none
      | some other =>
          obtain ⟨_, known⟩ := back other rfl
          cases known

end Options

/-- The instances are the same but for the one that is kept under a name, which either may lack. -/
structure BgpInstances.SameBut (name : String) (first second : BgpInstances) : Prop where
  defaultVrf : first.defaultVrf = second.defaultVrf
  vrfs : ∀ key : String, key ≠ name → first.vrfs[key]? = second.vrfs[key]?

/-- The devices are the same but for the BGP instance that is kept under a name. -/
structure Device.SameBut (name : String) (first second : Device) : Prop where
  rest : { first with bgp := none } = { second with bgp := none }
  bgp : Option.Rel (BgpInstances.SameBut name) first.bgp second.bgp

section Instances

variable {name : String} {first second : BgpInstances} {inst : BgpInstance}

theorem BgpInstances.SameBut.symm (alike : first.SameBut name second) :
    second.SameBut name first where
  defaultVrf := alike.defaultVrf.symm
  vrfs key different := (alike.vrfs key different).symm

/-- Both have the instances of other VRFs. -/
theorem BgpInstances.SameBut.mem_all (alike : first.SameBut name second) (keyed : first.Keyed)
    (member : inst ∈ first.all) (other : inst.vrf ≠ name) : inst ∈ second.all := by
  rcases List.mem_cons.mp member with rfl | listed
  · exact List.mem_cons.mpr (.inl alike.defaultVrf)
  · have found := keyed.vrfs.getElem?_name listed
    rw [alike.vrfs _ other] at found
    exact List.mem_cons_of_mem _ (Table.mem_values_iff.mpr ⟨_, found⟩)

theorem BgpInstances.SameBut.mem_neighbors (alike : first.SameBut name second)
    (keyed : first.Keyed) (other : inst.vrf ≠ name) {neighbor : Neighbor}
    (listed : (inst, neighbor) ∈ first.neighbors) : (inst, neighbor) ∈ second.neighbors := by
  obtain ⟨member, own⟩ := mem_neighbors_iff.mp listed
  exact mem_neighbors_iff.mpr ⟨alike.mem_all keyed member other, own⟩

theorem BgpInstances.SameBut.find?_eq (alike : first.SameBut name second) {vrf : String}
    (other : vrf ≠ name) : first.find? vrf = second.find? vrf := by
  rw [find?, find?, alike.defaultVrf, alike.vrfs vrf other]

end Instances

namespace Device.SameBut

variable {name : String} {first second : Device}

/-- Only the BGP instances have to be exchanged. -/
theorem eq (alike : first.SameBut name second) : second = { first with bgp := second.bgp } := by
  obtain ⟨rest, -⟩ := alike
  cases first
  cases second
  simp_all

theorem symm (alike : first.SameBut name second) : second.SameBut name first where
  rest := alike.rest.symm
  bgp := rel_swap (fun _ _ same => same.symm) alike.bgp

variable (alike : first.SameBut name second)
include alike

/-- What does not look at the BGP instances of a device is the same. -/
theorem congr {β : Sort _} (look : Device → β)
    (blind : ∀ device bgp, look { device with bgp := bgp } = look device) :
    look second = look first := by
  rw [alike.eq]
  exact blind first second.bgp

theorem hasVrf_iff (vrf : String) : second.HasVrf vrf ↔ first.HasVrf vrf :=
  iff_of_eq (alike.congr (·.HasVrf vrf) fun _ _ => rfl)

theorem advertisesIpv4_eq {vrf : String} (other : vrf ≠ name) :
    first.advertisesIpv4 vrf = second.advertisesIpv4 vrf := by
  have instances : first.bgp >>= (·.find? vrf) = second.bgp >>= (·.find? vrf) := by
    have bgp := alike.bgp
    generalize first.bgp = left at bgp ⊢
    generalize second.bgp = right at bgp ⊢
    cases bgp with
    | none => rfl
    | some same => exact same.find?_eq other
  rw [advertisesIpv4, advertisesIpv4, instances]

section Generated

variable (keyed : first.Keyed) {inst : BgpInstance} (other : inst.vrf ≠ name)
include keyed other

theorem mem_activeInstances (active : inst ∈ first.activeInstances) :
    inst ∈ second.activeInstances := by
  obtain ⟨instances, runs_bgp, member, has_vrf⟩ := mem_activeInstances_iff.mp active
  obtain ⟨others, runs_too, same⟩ := exists_of_rel alike.bgp runs_bgp
  exact mem_activeInstances_iff.mpr ⟨others, runs_too,
    same.mem_all (keyed.bgp instances runs_bgp) member other, (alike.hasVrf_iff _).mpr has_vrf⟩

theorem mem_neighbors {neighbor : Neighbor} (listed : (inst, neighbor) ∈ first.neighbors) :
    (inst, neighbor) ∈ second.neighbors := by
  rw [neighbors] at listed ⊢
  cases runs_bgp : first.bgp with
  | none => simp [runs_bgp] at listed
  | some instances =>
      obtain ⟨others, runs_too, same⟩ := exists_of_rel alike.bgp runs_bgp
      rw [runs_bgp] at listed
      rw [runs_too]
      exact same.mem_neighbors (keyed.bgp instances runs_bgp) other listed

theorem mem_peers {settings : NeighborSettings} (attached : (inst, settings) ∈ first.peers) :
    (inst, settings) ∈ second.peers := by
  obtain ⟨⟨own, neighbor⟩, listed, becomes⟩ := List.mem_filterMap.mp attached
  have same : second.peer? = first.peer? := alike.congr (·.peer?) fun _ _ => rfl
  obtain ⟨-, own_settings⟩ := Option.ite_none_right_eq_some.mp becomes
  cases own_settings
  exact List.mem_filterMap.mpr
    ⟨_, alike.mem_neighbors keyed other listed, by rw [same, becomes]⟩

end Generated

/-- A process runs in the VRF as soon as it runs for one of the devices. -/
theorem runs {params : ConversionParams} {instances others : BgpInstances}
    (same : instances.SameBut name others) (keyed : instances.Keyed) (keyed_too : others.Keyed)
    (not_default : name ≠ defaultVrfName) {vrf : String} (other : vrf ≠ name)
    {process : BgpProcess} (running : first.Runs params instances vrf process) :
    second.Runs params others vrf process := by
  rw [alike.eq]
  cases running with
  | configured member has_vrf =>
      have mine := @Device.Runs.configured { first with bgp := second.bgp } params others _
        (same.mem_all keyed member other) has_vrf
      rwa [← same.defaultVrf] at mine
  | idle no_instance has_vrf routes member own_vrf =>
      refine Device.Runs.idle (fun inst listed own => ?_) has_vrf routes
        (same.mem_all keyed member ?_) own_vrf
      · exact no_instance inst (same.symm.mem_all keyed_too listed (own ▸ other)) own
      · rw [own_vrf]
        exact not_default.symm

end Device.SameBut

section Names

variable {device : Device} {inst : BgpInstance} {settings : NeighborSettings}

/-- The policies of an instance carry the name of its VRF. -/
theorem exists_name_of_mem_sharedPolicies {policy : RoutingPolicy}
    (member : policy ∈ inst.sharedPolicies device) :
    ∃ generated : GeneratedName, generated.vrf = inst.vrf ∧ generated.text = policy.name := by
  have named : policy.name ∈ (inst.sharedPolicies device).map (·.name) :=
    List.mem_map_of_mem member
  rw [inst.map_name_sharedPolicies, List.mem_map] at named
  obtain ⟨generated, listed, same⟩ := named
  refine ⟨generated, ?_, same⟩
  rcases List.mem_append.mp listed with aggregate | common
  · obtain ⟨block, -, rfl⟩ := List.mem_map.mp aggregate
    rfl
  · rw [List.mem_singleton.mp common]
    rfl

theorem exists_name_of_mem_peerPolicies {policy : RoutingPolicy}
    (member : policy ∈ peerPolicies inst settings) :
    ∃ generated : GeneratedName, generated.vrf = inst.vrf ∧ generated.text = policy.name := by
  have named : policy.name ∈ (peerPolicies inst settings).map (·.name) :=
    List.mem_map_of_mem member
  rw [map_name_peerPolicies, List.mem_map] at named
  obtain ⟨generated, listed, same⟩ := named
  refine ⟨generated, ?_, same⟩
  rcases List.mem_append.mp listed with default_route | own
  · split at default_route
    · rw [List.mem_singleton.mp default_route]
      rfl
    · cases default_route
  · rcases List.mem_cons.mp own with rfl | imported
    · rfl
    · split at imported
      · rw [List.mem_singleton.mp imported]
        rfl
      · cases imported

/-- The only list of an instance carries the name of its VRF. -/
theorem name_of_mem_suppressionLists {list : RouteFilterList}
    (member : list ∈ inst.suppressionLists) :
    list.name = (GeneratedName.suppressed inst.vrf).text := by
  rw [BgpInstance.suppressionLists] at member
  split at member
  · rw [List.mem_singleton.mp member]
  · cases member

end Names

namespace Device.SameBut

variable {name : String} {first second : Device} (alike : first.SameBut name second)
  (keyed : first.Keyed)
include alike keyed

/-- Both devices generate the policies of other VRFs. -/
theorem mem_generatedPolicies {policy : RoutingPolicy}
    (other : ∀ generated : GeneratedName, generated.vrf = name → generated.text ≠ policy.name)
    (member : policy ∈ first.generatedPolicies) : policy ∈ second.generatedPolicies := by
  have same : ∀ inst : BgpInstance, inst.sharedPolicies second = inst.sharedPolicies first :=
    fun inst => alike.congr inst.sharedPolicies fun _ _ => rfl
  rcases List.mem_append.mp member with shared | own
  · obtain ⟨inst, active, listed⟩ := List.mem_flatMap.mp shared
    obtain ⟨generated, about, named⟩ := exists_name_of_mem_sharedPolicies listed
    have inst_other : inst.vrf ≠ name := fun own => other generated (about.trans own) named
    exact List.mem_append_left _ (List.mem_flatMap.mpr
      ⟨inst, alike.mem_activeInstances keyed inst_other active, by rwa [same]⟩)
  · obtain ⟨⟨inst, settings⟩, attached, listed⟩ := List.mem_flatMap.mp own
    obtain ⟨generated, about, named⟩ := exists_name_of_mem_peerPolicies listed
    have inst_other : inst.vrf ≠ name := fun own => other generated (about.trans own) named
    exact List.mem_append_right _ (List.mem_flatMap.mpr
      ⟨(inst, settings), alike.mem_peers keyed inst_other attached, listed⟩)

theorem mem_suppressionLists {list : RouteFilterList}
    (other : list.name ≠ (GeneratedName.suppressed name).text)
    (member : list ∈ first.activeInstances.flatMap (·.suppressionLists)) :
    list ∈ second.activeInstances.flatMap (·.suppressionLists) := by
  obtain ⟨inst, active, listed⟩ := List.mem_flatMap.mp member
  refine List.mem_flatMap.mpr ⟨inst, alike.mem_activeInstances keyed (fun own => ?_) active, listed⟩
  exact other (own ▸ name_of_mem_suppressionLists listed)

theorem mem_aggregateRoutes {admin : UInt32} {vrf : String} (other : vrf ≠ name)
    {route : GeneratedRoute}
    (member : (vrf, route) ∈ first.activeInstances.flatMap (·.aggregateRoutes admin)) :
    (vrf, route) ∈ second.activeInstances.flatMap (·.aggregateRoutes admin) := by
  obtain ⟨inst, active, listed⟩ := List.mem_flatMap.mp member
  obtain ⟨block, -, same⟩ := List.mem_map.mp listed
  refine List.mem_flatMap.mpr ⟨inst, alike.mem_activeInstances keyed ?_ active, listed⟩
  rw [(Prod.mk.inj same).1]
  exact other

end Device.SameBut
end NeutralRouting
