import NeutralRouting.Proofs.Frames
import NeutralRouting.Proofs.NetworkText

/-!
# Names in use

An object is refused only if its name is taken, and generated names are taken only by earlier
objects for the same VRF and peer.  What is known while processes and peers are built is therefore
which generated names may be in use so far.
-/

namespace NeutralRouting

open Std Conversion

/-- The peer that a name is about, if it is about one. -/
def GeneratedName.peer? : GeneratedName → Option String
  | commonExport _ => none
  | peerExport _ peer => some peer
  | peerImport _ peer => some peer
  | defaultRoute _ _ peer => some peer
  | aggregate _ _ _ => none
  | suppressed _ => none

/-- Names of VRFs are free of colons, those of route maps and prefix lists do not start with a
tilde, and the instance of the default VRF is kept apart. -/
structure Device.WellNamed (device : Device) : Prop where
  vrfs : ∀ name : String, name ∈ device.vrfs.vnis → ':' ∉ name.toList
  routeMaps : ∀ name : String, name ∈ device.routeMaps → name.toList.head? ≠ some '~'
  prefixLists : ∀ name : String, name ∈ device.prefixLists → name.toList.head? ≠ some '~'
  defaultVrf : ∀ instances, device.bgp = some instances →
    instances.defaultVrf.vrf = defaultVrfName ∧ defaultVrfName ∉ instances.vrfs

theorem Device.WellNamed.colon_not_mem {device : Device} (named : device.WellNamed) {vrf : String}
    (has_vrf : device.HasVrf vrf) : ':' ∉ vrf.toList := by
  rcases has_vrf with rfl | declared
  · decide
  · exact named.vrfs vrf declared

namespace Configuration

/-- The VRFs are those of the device.  Policies have generated names that may be in use, and so have
route filter lists that are no prefix lists. -/
structure UsesOnly (configuration : Configuration) (device : Device) (used : GeneratedName → Prop) :
    Prop where
  vrfs : ∀ name : String, name ∈ configuration.vrfs ↔ device.HasVrf name
  policies : ∀ name : String, name ∈ configuration.policies → ∃ generated : GeneratedName,
    used generated ∧ generated.text = name
  routeFilterLists : ∀ name : String, name ∈ configuration.routeFilterLists →
    name ∈ device.prefixLists ∨ ∃ generated : GeneratedName, used generated ∧ generated.text = name
  known : ∀ generated, used generated → device.HasVrf generated.vrf

variable {configuration changed : Configuration} {device : Device}
  {used more : GeneratedName → Prop} {generated : GeneratedName}

namespace UsesOnly

theorem imp (uses : configuration.UsesOnly device used)
    (weaker : ∀ name, used name → more name)
    (known : ∀ name, more name → device.HasVrf name.vrf) : configuration.UsesOnly device more where
  vrfs := uses.vrfs
  policies name member := by
    obtain ⟨generated, own, same⟩ := uses.policies name member
    exact ⟨generated, weaker generated own, same⟩
  routeFilterLists name member := by
    rcases uses.routeFilterLists name member with listed | ⟨generated, own, same⟩
    · exact .inl listed
    · exact .inr ⟨generated, weaker generated own, same⟩
  known := known

/-- One more name may be in use. -/
theorem or_eq (uses : configuration.UsesOnly device used) (has_vrf : device.HasVrf generated.vrf) :
    configuration.UsesOnly device fun name => name = generated ∨ used name :=
  uses.imp (fun _ => .inr) fun name either => by
    rcases either with rfl | own
    · exact has_vrf
    · exact uses.known name own

/-- A name that is not in use is not the text of one in use. -/
theorem eq_of_text_eq (uses : configuration.UsesOnly device used) (named : device.WellNamed)
    (has_vrf : device.HasVrf generated.vrf) {other : GeneratedName} (own : used other)
    (same : other.text = generated.text) : other = generated :=
  GeneratedName.eq_of_text_eq (named.colon_not_mem (uses.known other own))
    (named.colon_not_mem has_vrf) same

theorem not_mem_policies (uses : configuration.UsesOnly device used) (named : device.WellNamed)
    (has_vrf : device.HasVrf generated.vrf) (unused : ¬used generated) :
    generated.text ∉ configuration.policies := by
  intro member
  obtain ⟨other, own, same⟩ := uses.policies _ member
  rw [uses.eq_of_text_eq named has_vrf own same] at own
  exact unused own

theorem not_mem_routeFilterLists (uses : configuration.UsesOnly device used)
    (named : device.WellNamed) (has_vrf : device.HasVrf generated.vrf) (unused : ¬used generated) :
    generated.text ∉ configuration.routeFilterLists := by
  intro member
  rcases uses.routeFilterLists _ member with listed | ⟨other, own, same⟩
  · exact named.prefixLists _ listed generated.head?_text
  · rw [uses.eq_of_text_eq named has_vrf own same] at own
    exact unused own

/-- One more policy takes one more name. -/
theorem insert_policy (uses : configuration.UsesOnly device used)
    (has_vrf : device.HasVrf generated.vrf) {policies : ExtTreeMap String RoutingPolicy}
    (grown : ∀ name : String, name ∈ policies → name = generated.text ∨
      name ∈ configuration.policies) :
    { configuration with policies }.UsesOnly device fun name => name = generated ∨ used name where
  vrfs := uses.vrfs
  policies name member := by
    rcases grown name member with rfl | earlier
    · exact ⟨generated, .inl rfl, rfl⟩
    · exact (uses.or_eq has_vrf).policies name earlier
  routeFilterLists := (uses.or_eq has_vrf).routeFilterLists
  known := (uses.or_eq has_vrf).known

/-- One more route filter list takes one more name. -/
theorem insert_routeFilterList (uses : configuration.UsesOnly device used)
    (has_vrf : device.HasVrf generated.vrf) {lists : ExtTreeMap String RouteFilterList}
    (grown : ∀ name : String, name ∈ lists → name = generated.text ∨
      name ∈ configuration.routeFilterLists) :
    { configuration with routeFilterLists := lists }.UsesOnly device fun name =>
      name = generated ∨ used name where
  vrfs := uses.vrfs
  policies := (uses.or_eq has_vrf).policies
  routeFilterLists name member := by
    rcases grown name member with rfl | earlier
    · exact .inr ⟨generated, .inl rfl, rfl⟩
    · exact (uses.or_eq has_vrf).routeFilterLists name earlier
  known := (uses.or_eq has_vrf).known

theorem of_same (uses : configuration.UsesOnly device used)
    (vrfs : sameVrfs.Related configuration changed)
    (policies : changed.policies = configuration.policies)
    (routeFilterLists : changed.routeFilterLists = configuration.routeFilterLists) :
    changed.UsesOnly device used where
  vrfs name := (vrfs name).trans (uses.vrfs name)
  policies := by
    rw [policies]
    exact uses.policies
  routeFilterLists := by
    rw [routeFilterLists]
    exact uses.routeFilterLists
  known := uses.known

theorem of_updateVrf (uses : configuration.UsesOnly device used) {vrf : String}
    {change : Vrf → Attempt Vrf}
    (updated : configuration.updateVrf vrf change = (changed, .ok ())) :
    changed.UsesOnly device used := by
  have same_vrfs := sameVrfs_of_updateVrf updated
  obtain ⟨_, _, -, -, rfl⟩ := updateVrf_eq_ok_iff.mp updated
  exact uses.of_same same_vrfs rfl rfl

end UsesOnly
end Configuration

section Additions

variable {device : Device} {progress : Progress} {used : GeneratedName → Prop}

theorem addPolicy_succeeds (named : device.WellNamed) (generated : GeneratedName)
    {policy : RoutingPolicy} (has_name : policy.name = generated.text)
    (has_vrf : device.HasVrf generated.vrf)
    (uses : progress.configuration.UsesOnly device used) (unused : ¬used generated) :
    Succeeds (store (·.addPolicy policy)) progress fun _ after =>
      after.UsesOnly device fun name => name = generated ∨ used name := by
  have fresh : policy.name ∉ progress.configuration.policies := by
    rw [has_name]
    exact uses.not_mem_policies named has_vrf unused
  apply Succeeds.imp (Configuration.policyShelf.succeeds_add policy fresh)
  rintro _ after rfl
  refine uses.insert_policy has_vrf fun name member => ?_
  rw [← has_name]
  change name ∈ progress.configuration.policies.insert policy.name policy at member
  rwa [ExtTreeMap.mem_insert, LawfulEqOrd.compare_eq_iff_eq, eq_comm] at member

theorem addRouteFilterList_succeeds (named : device.WellNamed) (generated : GeneratedName)
    {list : RouteFilterList} (has_name : list.name = generated.text)
    (has_vrf : device.HasVrf generated.vrf)
    (uses : progress.configuration.UsesOnly device used) (unused : ¬used generated) :
    Succeeds (store (·.addRouteFilterList list)) progress fun _ after =>
      after.UsesOnly device fun name => name = generated ∨ used name := by
  have fresh : list.name ∉ progress.configuration.routeFilterLists := by
    rw [has_name]
    exact uses.not_mem_routeFilterLists named has_vrf unused
  apply Succeeds.imp (Configuration.routeFilterShelf.succeeds_add list fresh)
  rintro _ after rfl
  refine uses.insert_routeFilterList has_vrf fun name member => ?_
  rw [← has_name]
  change name ∈ progress.configuration.routeFilterLists.insert list.name list at member
  rwa [ExtTreeMap.mem_insert, LawfulEqOrd.compare_eq_iff_eq, eq_comm] at member

theorem updateVrf_succeeds (uses : progress.configuration.UsesOnly device used) {vrf : String}
    (has_vrf : device.HasVrf vrf) (change : Vrf → Vrf) :
    Succeeds (store (·.updateVrf vrf fun owner => (change owner, .ok ()))) progress fun _ after =>
      after.UsesOnly device used := by
  obtain ⟨owner, found⟩ := Table.mem_iff_getElem?_eq_some.mp ((uses.vrfs vrf).mpr has_vrf)
  have updated : progress.configuration.updateVrf vrf (fun owner => (change owner, .ok ())) =
      (_, .ok ()) :=
    Configuration.updateVrf_eq_ok_iff.mpr ⟨owner, change owner, found, rfl, rfl⟩
  exact .store updated (uses.of_updateVrf updated)

end Additions
end NeutralRouting
