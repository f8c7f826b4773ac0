import NeutralRouting.Proofs.SkeletonContents

/-!
# The underlay of a configuration

What is left of a configuration without what BGP puts into it: its interfaces, match lists other
than route filter lists, and the VRFs with their OSPF processes and bridged segments.  BGP leaves
the underlay alone.
-/

namespace NeutralRouting

open Std Conversion

/-- A VRF without its BGP process and the routes that are generated for it. -/
def Vrf.underlay (vrf : Vrf) : Vrf := { vrf with bgp := none, generatedRoutes := ∅ }

namespace Configuration

/-- A configuration without what BGP puts into it. -/
def underlay (configuration : Configuration) : Configuration :=
  { configuration with
    vrfs := configuration.vrfs.map fun _ vrf => vrf.underlay
    policies := ∅
    routeFilterLists := ∅ }

variable {before after : Configuration}

theorem underlay_insert_vrf {configuration : Configuration} {name : String} {vrf result : Vrf}
    (found : configuration.vrfs[name]? = some vrf) (same : result.underlay = vrf.underlay) :
    { configuration with vrfs := configuration.vrfs.insert name result }.underlay =
      configuration.underlay := by
  have same_vrfs : (configuration.vrfs.insert name result).map (fun _ vrf => vrf.underlay) =
      configuration.vrfs.map fun _ vrf => vrf.underlay := by
    apply ExtTreeMap.ext_getElem?
    intro other
    simp only [ExtTreeMap.getElem?_map, ExtTreeMap.getElem?_insert]
    split
    · next own =>
        rw [← LawfulEqOrd.eq_of_compare own, found, Option.map_some, Option.map_some, same]
    · rfl
  rw [underlay, same_vrfs]
  rfl

theorem underlay_addIdleProcesses (device : Device) (params : ConversionParams)
    (configuration : Configuration) :
    (addIdleProcesses device params configuration).underlay = configuration.underlay := by
  rw [addIdleProcesses]
  cases configuration.bgpProcess? defaultVrfName with
  | none => rfl
  | some process =>
      have same : ∀ idle (vrf : Vrf),
          (if vrf.bgp.isNone && device.routesByVni vrf.name then { vrf with bgp := some idle }
            else vrf).underlay = vrf.underlay := by
        intro idle vrf
        split <;> rfl
      simp only [underlay, ExtTreeMap.map_map, same]

theorem same_underlay_admitsBgp : (Frame.same underlay).AdmitsBgp where
  addPolicy _ added := by
    obtain ⟨-, rfl⟩ := policyShelf.add_eq_ok_iff.mp added
    rfl
  ensurePolicy _ _ _ := rfl
  addRouteFilterList added := by
    obtain ⟨-, rfl⟩ := routeFilterShelf.add_eq_ok_iff.mp added
    rfl
  addGeneratedRoute updated := by
    obtain ⟨vrf, _, found, changed, rfl⟩ := updateVrf_eq_ok_iff.mp updated
    cases changed
    exact underlay_insert_vrf found rfl
  setProcess updated := by
    obtain ⟨vrf, _, found, changed, rfl⟩ := updateVrf_eq_ok_iff.mp updated
    cases changed
    exact underlay_insert_vrf found rfl
  addIdleProcesses device params configuration :=
    underlay_addIdleProcesses device params configuration
  addPeer updated := by
    obtain ⟨vrf, process, result, found, -, -, rfl⟩ := updateBgpProcess_eq_ok_iff.mp updated
    exact underlay_insert_vrf found rfl

theorem same_underlay_keeps_convertRouteMaps (compile : RouteMapCompiler) (device : Device) :
    (Frame.same underlay).Keeps (convertRouteMaps compile device) :=
  .forM fun map _ => Frame.keeps_addRouteMapPolicy device compile map fun added => by
    obtain ⟨-, rfl⟩ := policyShelf.add_eq_ok_iff.mp added
    rfl

theorem IsSkeleton.underlay {configuration : Configuration} {present : String → Prop}
    {interfaces : List Interface} {segments : List Layer2Vni}
    (skeleton : configuration.IsSkeleton present interfaces segments) :
    configuration.underlay.IsSkeleton present interfaces segments where
  vrfs name vrf := by
    have bare : (Vrf.ground segments name).underlay = Vrf.ground segments name := rfl
    rw [Configuration.underlay, ExtTreeMap.getElem?_map, Option.map_eq_some_iff]
    constructor
    · rintro ⟨earlier, found, rfl⟩
      obtain ⟨present, rfl⟩ := (skeleton.vrfs name earlier).mp found
      exact ⟨present, bare⟩
    · rintro ⟨present, rfl⟩
      exact ⟨_, (skeleton.vrfs name _).mpr ⟨present, rfl⟩, bare⟩
  interfaces := skeleton.interfaces

section Lookup

/-- What is under a name in the one underlay is under it in the other. -/
theorem exists_vrf_of_underlay_eq (same : after.underlay = before.underlay) {name : String}
    {vrf : Vrf} (found : after.vrfs[name]? = some vrf) :
    ∃ earlier, before.vrfs[name]? = some earlier ∧ earlier.underlay = vrf.underlay := by
  have same_vrfs := congrArg (fun configuration => configuration.vrfs[name]?) same
  simp only [underlay, ExtTreeMap.getElem?_map, found, Option.map_some] at same_vrfs
  obtain ⟨earlier, earlier_found, equal⟩ := Option.map_eq_some_iff.mp same_vrfs.symm
  exact ⟨earlier, earlier_found, equal⟩

theorem interfaces_of_underlay_eq (same : after.underlay = before.underlay) :
    after.interfaces = before.interfaces := congrArg (·.interfaces) same

end Lookup
end Configuration
end NeutralRouting
