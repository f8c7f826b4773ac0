import NeutralRouting.Proofs.PeerCorrespondence
import NeutralRouting.Proofs.Underlay

/-!
# The phase in which neighbors are attached

What is known of the states before and after the neighbors of a device are attached, and of the
result that they lead to.
-/

namespace NeutralRouting

open Std Conversion

/-- The states before and after a device attaches its neighbors, on the way to a result. -/
structure Device.Attaches (device : Device) (params : ConversionParams)
    (compile : RouteMapCompiler) (instances : BgpInstances) (built attached result : Progress) :
    Prop where
  skeleton : built.configuration.underlay.IsSkeleton device.HasVrf device.routedInterfaces
    device.bridgedSegments
  running : ∀ vrf process, built.configuration.bgpProcess? vrf = some process ↔
    device.Runs params instances vrf process
  nodup : ((instances.all.filter (device.HasVrf ·.vrf)).map (·.vrf)).Nodup
  run : (attachNeighbors device params instances).runFrom built = (.ok (), attached)
  processes : result.configuration.bgpProcess? = attached.configuration.bgpProcess?
  nothing_said : ∀ label, (∀ opening ∈ phaseOpenings, Apart label opening) →
    built.warnings.starting label = []
  warnings : ∀ label, (∀ opening ∈ phaseOpenings, Apart label opening) →
    result.warnings.starting label = attached.warnings.starting label ++
      (compile.warnings device).filter (startsWith label)

section Convert

variable {device : Device} {params : ConversionParams} {compile : RouteMapCompiler}
  {instances : BgpInstances} {progress : Progress}

/-- A device that runs BGP attaches its neighbors on the way to its result. -/
theorem exists_attaches_of_convert (converted : device.convert params compile = .ok progress)
    (runs_bgp : device.bgp = some instances) :
    ∃ built attached, device.Attaches params compile instances built attached progress := by
  obtain ⟨skeleton, listed, bgp, ospf, skeleton_run, lists_run, bgp_run, ospf_run, maps_run⟩ :=
    exists_runs_of_convert converted
  rw [convertBgp, runs_bgp] at bgp_run
  obtain ⟨_, built, build_run, attach_run⟩ := runFrom_bind_eq_ok_iff.mp bgp_run
  obtain ⟨with_lists, same_vrfs⟩ :=
    inventory_of_convertLists lists_run (inventory_of_buildSkeleton skeleton_run).1
  have ground := (isGround_of_buildSkeleton skeleton_run).of_same_vrfs same_vrfs
  have made := (inventory_of_buildProcesses build_run ground.vrfs with_lists).policies
  have same_underlay : built.configuration.underlay = listed.configuration.underlay :=
    Configuration.same_underlay_admitsBgp.keeps_buildProcesses device params _ _ _ _ build_run
  refine ⟨built, bgp, ?skeleton, fun _ _ => bgpProcess?_of_buildProcesses_iff build_run ground
    with_lists, nodup_vrfs_of_nodup_names made.nodup, attach_run,
    bgpProcess?_of_later_phases ospf_run maps_run, fun label apart => ?nothing_said,
    fun label apart => ?warnings⟩
  case skeleton =>
    rw [same_underlay]
    exact (isSkeleton_of_convertLists lists_run (isSkeleton_of_buildSkeleton skeleton_run)).underlay
  case nothing_said =>
    rw [silent_buildProcesses apart _ _ _ _ build_run, silent_convertLists _ _ _ lists_run,
      silent_buildSkeleton apart _ _ _ skeleton_run]
    rfl
  case warnings =>
    rw [reports_convertRouteMaps _ _ _ _ maps_run, silent_convertOspf apart _ _ _ ospf_run,
      List.append_nil]

/-- A result with a process is that of a device that runs BGP and attaches its neighbors. -/
theorem exists_attaches_of_bgpProcess? {vrf : String} {process : BgpProcess}
    (converted : device.convert params compile = .ok progress)
    (serving : progress.configuration.bgpProcess? vrf = some process) :
    ∃ instances built attached, device.bgp = some instances ∧
      device.Attaches params compile instances built attached progress := by
  cases runs_bgp : device.bgp with
  | none =>
      rw [bgpProcess?_eq_none_of_convert converted runs_bgp] at serving
      cases serving
  | some instances =>
      obtain ⟨built, attached, attaches⟩ := exists_attaches_of_convert converted runs_bgp
      exact ⟨instances, built, attached, rfl, attaches⟩

end Convert

section Peers

variable {device : Device} {params : ConversionParams} {compile : RouteMapCompiler}
  {instances : BgpInstances} {built attached result : Progress} {vrf : String}
  {process : BgpProcess} {peer : BgpPeer}

/-- Every peer of the result is what some neighbor became. -/
theorem Device.Attaches.exists_attachedPeer?
    (attaches : device.Attaches params compile instances built attached result)
    (serving : result.configuration.bgpProcess? vrf = some process)
    (member : peer ∈ process.peers) :
    ∃ inst neighbor, (inst, neighbor) ∈ instances.neighbors ∧ inst.vrf = vrf ∧
      device.HasVrf vrf ∧
      attachedPeer? device params built.configuration inst neighbor = some peer := by
  rw [attaches.processes] at serving
  obtain ⟨_, runs, -, has⟩ := hasPeers_of_bgpProcess? attaches.run attaches.running serving
  obtain ⟨⟨inst, neighbor⟩, listed, became⟩ :=
    List.mem_filterMap.mp (has.perm.mem_iff.mp member)
  obtain ⟨listed, own_vrf⟩ := List.mem_filter.mp listed
  exact ⟨inst, neighbor, listed, of_decide_eq_true own_vrf, runs.hasVrf, became⟩

/-- Instances of the same VRF are the same. -/
theorem Device.Attaches.eq_of_same_vrf
    (attaches : device.Attaches params compile instances built attached result)
    {first second : BgpInstance} (first_mem : first ∈ instances.all)
    (second_mem : second ∈ instances.all) (has_vrf : device.HasVrf first.vrf)
    (same : first.vrf = second.vrf) : first = second := by
  have active : ∀ inst ∈ instances.all, device.HasVrf inst.vrf →
      inst ∈ instances.all.filter (device.HasVrf ·.vrf) := fun inst member has =>
    List.mem_filter.mpr ⟨member, by simpa using has⟩
  exact List.inj_on_of_nodup_map attaches.nodup (active first first_mem has_vrf)
    (active second second_mem (same ▸ has_vrf)) same

end Peers
end NeutralRouting
