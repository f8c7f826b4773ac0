import NeutralRouting.Proofs.Peers

/-!
# Results of conversions

What is known of a configuration once a conversion of a keyed device has come to its end.
-/

namespace NeutralRouting

open Std Conversion

/-- What a conversion leaves behind: everything that policies refer to is found under its name. -/
structure Configuration.IsResult (configuration : Configuration) (device : Device)
    (params : ConversionParams) : Prop where
  lists : configuration.HasLists device
  routeMaps : ∀ (name : String) (map : RouteMap), device.routeMaps[name]? = some map →
    configuration.policies[name]? = some (map.policy device)
  vrfs : ∀ name : String, name ∈ configuration.vrfs ↔ device.HasVrf name
  commonExports : ∀ instances inst, device.bgp = some instances → inst ∈ instances.all →
    device.HasVrf inst.vrf → configuration.HasCommonExport device inst
  peers : ∀ instances, device.bgp = some instances →
    configuration.ExplainsPeers device params instances

section Phases

variable {device : Device} {params : ConversionParams} {before after : Progress}

/-- Every route map of a keyed device becomes a policy under its name. -/
theorem getElem?_of_convertRouteMaps (keyed : device.Keyed)
    (run : (convertRouteMaps entrywiseCompiler device).runFrom before = (.ok (), after))
    {name : String} {map : RouteMap} (found : device.routeMaps[name]? = some map) :
    after.configuration.policies[name]? = some (map.policy device) := by
  have member : map ∈ device.routeMaps.values := Table.mem_values_iff.mpr ⟨name, found⟩
  obtain ⟨done, rest, start, next, -, -, here, back⟩ := exists_run_of_mem run member
  have grows := (Frame.Keeps.forM fun other _ => growth.keeps_addRouteMapPolicy device
    entrywiseCompiler other Configuration.extends_of_addPolicy) _ _ _ back
  obtain ⟨_, warned, -, here⟩ := runFrom_bind_eq_ok_iff.mp here
  obtain ⟨policy, known, required, here⟩ := runFrom_bind_eq_ok_iff.mp here
  obtain ⟨compiled, rfl⟩ := runFrom_require_eq_ok_iff.mp required
  cases compiled
  rw [if_pos (show (map.policy device).name = map.name from rfl)] at here
  have registered := getElem?_of_addPolicy here
  rw [← keyed.routeMaps name map found]
  exact grows.policies _ _ registered

/-- A conversion goes through its phases one after the other. -/
theorem exists_phases_of_convert {compile : RouteMapCompiler} (keyed : device.Keyed)
    (converted : device.convert params compile = .ok after) :
    ∃ listed bgp ospf : Progress, listed.configuration.IsListed device ∧
      (convertBgp device params).runFrom listed = (.ok (), bgp) ∧
      (convertOspf device params).runFrom bgp = (.ok (), ospf) ∧
      (convertRouteMaps compile device).runFrom ospf = (.ok (), after) := by
  have run : (convertDevice compile params device).runFrom (.initial device.hostname) =
      (.ok (), after) := by
    rw [Device.convert] at converted
    split at converted
    · next whole => cases converted; exact whole
    · cases converted
  obtain ⟨listed, is_listed, phases⟩ := exists_listed keyed
  rw [convertDevice, Progress.initial, phases] at run
  obtain ⟨_, bgp, bgp_run, run⟩ := runFrom_bind_eq_ok_iff.mp run
  obtain ⟨_, ospf, ospf_run, maps_run⟩ := runFrom_bind_eq_ok_iff.mp run
  exact ⟨listed, bgp, ospf, is_listed, bgp_run, ospf_run, maps_run⟩

/-- A conversion that succeeds has the result it should have. -/
theorem isResult_of_convert (keyed : device.Keyed)
    (converted : device.convert params entrywiseCompiler = .ok after) :
    after.configuration.IsResult device params := by
  obtain ⟨listed, bgp, ospf, is_listed, bgp_run, ospf_run, maps_run⟩ :=
    exists_phases_of_convert keyed converted
  have bgp_grows := growth_admitsBgp.keeps_convertBgp device params _ _ _ bgp_run
  have late_grows : Configuration.Extends bgp.configuration after.configuration :=
    (growth_admitsOspf.keeps_convertOspf device params _ _ _ ospf_run).trans
      (growth_keeps_convertRouteMaps device entrywiseCompiler _ _ _ maps_run)
  have late_same := bgpProcess?_of_later_phases ospf_run maps_run
  have same_vrfs := sameVrfs.trans
    (sameVrfs_admitsBgp.keeps_convertBgp device params _ _ _ bgp_run)
    (sameVrfs.trans (sameVrfs_admitsOspf.keeps_convertOspf device params _ _ _ ospf_run)
      (sameVrfs_keeps_convertRouteMaps device entrywiseCompiler _ _ _ maps_run))
  have only : listed.configuration.OnlyGenerated := by
    intro name policy found
    rw [is_listed.policies] at found
    cases found
  have peerless := is_listed.peerless
  refine ⟨is_listed.lists.of_extends (bgp_grows.trans late_grows), ?_, ?_, ?_, ?_⟩
  · exact fun name map found => getElem?_of_convertRouteMaps keyed maps_run found
  · exact fun name => (same_vrfs name).trans (is_listed.vrfs name)
  · intro instances inst runs_bgp member has_vrf
    rw [convertBgp, runs_bgp] at bgp_run
    obtain ⟨_, built, build_run, attach_run⟩ := runFrom_bind_eq_ok_iff.mp bgp_run
    have attach_grows := growth_admitsBgp.keeps_attachNeighbors device params _ _ _ _ attach_run
    have has := hasCommonExport_of_buildProcesses build_run member
      ((is_listed.vrfs _).mpr has_vrf)
    exact has.of_extends (attach_grows.trans late_grows)
  · intro instances runs_bgp
    rw [convertBgp, runs_bgp] at bgp_run
    obtain ⟨_, built, build_run, attach_run⟩ := runFrom_bind_eq_ok_iff.mp bgp_run
    have still_only := Configuration.onlyGenerated_admitsBgp.keeps_buildProcesses device params
      instances _ _ _ build_run only
    have still_peerless := Configuration.peerless_admitsProcesses.keeps_buildProcesses device params
      instances _ _ _ build_run peerless
    exact (explainsPeers_of_attachNeighbors attach_run still_only still_peerless).of_same late_grows
      late_same

theorem exists_convert_of_isOk {compile : RouteMapCompiler}
    (succeeds : (device.convert params compile).isOk = true) :
    ∃ progress, device.convert params compile = .ok progress := by
  cases converted : device.convert params compile with
  | error cause =>
      rw [converted] at succeeds
      cases succeeds
  | ok progress => exact ⟨progress, rfl⟩

theorem borderRouter_converts :
    ∃ progress, borderRouter.convert .standard entrywiseCompiler = .ok progress :=
  exists_convert_of_isOk (by decide +kernel)

theorem leafSwitch_converts :
    ∃ progress, leafSwitch.convert .standard entrywiseCompiler = .ok progress :=
  exists_convert_of_isOk (by decide +kernel)

/-- Without match lists, the neighbors of the leaf switch are attached right after its processes are
built on the skeleton. -/
theorem leafSwitch_attaches :
    ∃ skeleton built attached : Progress,
      (buildSkeleton leafSwitch).runFrom (.initial "leaf") = (.ok (), skeleton) ∧
      (buildProcesses leafSwitch .standard leafInstances).runFrom skeleton = (.ok (), built) ∧
      (attachNeighbors leafSwitch .standard leafInstances).runFrom built = (.ok (), attached) := by
  have succeeds : ((do
      buildSkeleton leafSwitch
      buildProcesses leafSwitch .standard leafInstances
      attachNeighbors leafSwitch .standard leafInstances).runFrom (.initial "leaf")).1.isOk =
        true := by decide +kernel
  obtain ⟨attached, run⟩ := exists_run_of_isOk succeeds
  obtain ⟨_, skeleton, skeleton_run, run⟩ := runFrom_bind_eq_ok_iff.mp run
  obtain ⟨_, built, build_run, attach_run⟩ := runFrom_bind_eq_ok_iff.mp run
  exact ⟨skeleton, built, attached, skeleton_run, build_run, attach_run⟩

end Phases
end NeutralRouting
