import NeutralRouting.Proofs.PeerInventory
import NeutralRouting.Proofs.Reports

/-!
# How warnings start

Every step of a conversion starts its warnings in its own way.  A step is therefore silent on each
label that is apart from the ways in which its warnings start.
-/

namespace NeutralRouting

open Std Conversion

/-- How the warnings start that are not about neighbors or route maps. -/
def phaseOpenings : List String :=
  ["Interface ", "Ignoring undefined route-map ", "Skipping BGP instance of unknown vrf ",
    "Conversion of OSPF network type '", "Vrf "]

/-- How the complaints about entries of route maps start. -/
def entryOpening : String := "Route-map "

/-- How the complaints about update sources start. -/
def sessionOpening : String := "Cannot find "

/-- How the complaints about VNIs start. -/
def vniOpening : String := "Skipping L"

/-- How the complaints about neighbors start that are not validly configured. -/
def skipLabel : String := "Skipping invalidly configured BGP peer "

section Phases

variable {label : String} {device : Device} {params : ConversionParams}
  (apart : ∀ opening ∈ phaseOpenings, Apart label opening)
include apart

theorem silent_buildSkeleton : Silent label (buildSkeleton device) := by
  have vrfs : Silent label (device.vrfs.all.forM addDeclaredVrf) := by
    refine .forM fun vrf _ => ?_
    rw [addDeclaredVrf]
    split
    · exact .pure ()
    · exact .store _
  have interfaces : Silent label (device.interfaces.values.forM addDeviceInterface) := by
    refine .forM fun interface _ => .bind .configuration fun configuration => ?_
    split
    · refine .bind (.warn ((apart "Interface " (by decide)).startsWith_eq_false ?_))
        fun _ => .store _
      simp only [startsWith, String.toList_append, List.append_assoc]
      rfl
    · exact .store _
  have loopback : Silent label (addLoopback device.loopback) := by
    refine .bind .configuration fun configuration => ?_
    split
    · exact .store _
    · exact .pure _
  exact vrfs.bind fun _ => interfaces.bind fun _ => loopback.bind fun _ =>
    .bind (.forM fun _ _ => .store _) fun _ => .update _

theorem silent_addCommonExportPolicy (inst : BgpInstance) :
    Silent label (addCommonExportPolicy device inst) := by
  have suppresses : Silent label (suppressSummarized inst.vrf inst.summaryOnlyAggregates) := by
    rw [suppressSummarized]
    split
    · exact .pure _
    · exact .bind (.store _) fun _ => .pure _
  have opens : AllStart "Ignoring undefined route-map " (redistributionWarnings device inst) := by
    intro warning member
    rw [redistributionWarnings] at member
    split at member
    · cases member
    · obtain ⟨⟨source, routeMap⟩, -, complaint⟩ := List.mem_filterMap.mp member
      obtain ⟨name, -, rfl⟩ := Option.map_eq_some_iff.mp complaint
      simp only [startsWith, String.toList_append, List.append_assoc]
      rfl
  have others := opens.startsWith_eq_false (apart "Ignoring undefined route-map " (by decide))
  exact suppresses.bind fun _ => .bind (.warnAll others) fun _ => .store _

theorem silent_buildProcesses (instances : BgpInstances) :
    Silent label (buildProcesses device params instances) := by
  refine .bind (.forM fun inst _ => .bind .configuration fun configuration => ?_) fun _ =>
    .update _
  split
  · exact .bind (.forM fun _ _ => .bind (.store _) fun _ => .store _) fun _ =>
      .bind (silent_addCommonExportPolicy apart inst) fun _ => .store _
  · refine .warn ((apart "Skipping BGP instance of unknown vrf "
      (by decide)).startsWith_eq_false ?_)
    simp only [startsWith, String.toList_append]
    rfl

theorem silent_convertOspf : Silent label (convertOspf device params) := by
  rw [convertOspf]
  split
  · exact .pure _
  · refine .forM fun inst _ => .bind .configuration fun configuration => ?_
    split
    · refine .bind (.warnAll ?_) fun _ => .bind (.update _) fun _ => .store _
      intro warning member
      obtain ⟨interface, -, complaint⟩ := List.mem_filterMap.mp member
      simp only [ospfWarning?, Option.bind_eq_bind, Option.bind_eq_some_iff] at complaint
      obtain ⟨options, -, area, -, network, -, complaint⟩ := complaint
      rw [OspfNetwork.warning?] at complaint
      split at complaint
      · cases complaint
      · cases complaint
        refine (apart "Conversion of OSPF network type '" (by decide)).startsWith_eq_false ?_
        simp only [startsWith, String.toList_append, List.append_assoc]
        rfl
    · refine .warn ((apart "Vrf " (by decide)).startsWith_eq_false ?_)
      simp only [startsWith, String.toList_append, List.append_assoc]
      rfl

end Phases

section Lists

variable {label : String} {device : Device}

theorem silent_convertLists : Silent label (convertLists device) :=
  .bind (.forM fun _ _ => .store _) fun _ => .bind (.forM fun _ _ => .store _) fun _ =>
    .forM fun _ _ => .store _

/-- The complaints of a compiler about the route maps of a device. -/
def RouteMapCompiler.warnings (compile : RouteMapCompiler) (device : Device) : List String :=
  device.routeMaps.values.flatMap fun map => (compile device map).1

theorem allStart_warnings_entrywiseCompiler :
    AllStart entryOpening (RouteMapCompiler.warnings entrywiseCompiler device) := by
  intro warning member
  obtain ⟨map, -, reported⟩ := List.mem_flatMap.mp member
  obtain ⟨⟨number, entry⟩, -, listed⟩ := List.mem_flatMap.mp reported
  obtain ⟨list, -, rfl⟩ := List.mem_map.mp listed
  simp only [entryOpening, startsWith, String.toList_append, List.append_assoc]
  rfl

/-- Converting route maps reports what the compiler reports about them. -/
theorem reports_convertRouteMaps (compile : RouteMapCompiler) :
    Reports label (convertRouteMaps compile device)
      ((compile.warnings device).filter (startsWith label)) := by
  have each : ∀ map, Reports label (addRouteMapPolicy compile device map)
      ((compile device map).1.filter (startsWith label)) := by
    intro map
    have rest : Silent label (do
        let policy ← require (compile device map).2
        if policy.name = map.name then store (·.addPolicy policy)
        else throw (.routeMapRenamed map.name policy.name)) := by
      refine .bind (.require _) fun policy => ?_
      split
      · exact .store _
      · exact .throw _
    have both := (@Reports.warnAll label (compile device map).1).bind fun _ => rest
    rwa [List.append_nil] at both
  rw [convertRouteMaps, RouteMapCompiler.warnings, List.forM_eq_forM]
  induction device.routeMaps.values with
  | nil => exact Silent.pure ()
  | cons map maps ih =>
      rw [List.flatMap_cons, List.filter_append, List.forM_cons]
      exact (each map).bind fun _ => ih

end Lists

section Neighbors

variable {label : String} {device : Device} {params : ConversionParams} {inst : BgpInstance}
  {settings : NeighborSettings} {configuration : Configuration}

theorem startsWith_message (neighbor : String) (fault : UpdateSourceFault) :
    startsWith sessionOpening (fault.message neighbor) = true := by
  cases fault with
  | noInterface name =>
      change startsWith sessionOpening
        s!"Cannot find interface named {name} for update-source of BGP neighbor {neighbor}" = true
      simp only [sessionOpening, startsWith, String.toList_append, List.append_assoc]
      rfl
  | noAddress interface =>
      change startsWith sessionOpening
        (s!"Cannot find an address for interface named {interface} for update-source of BGP " ++
          s!"neighbor {neighbor}") = true
      simp only [sessionOpening, startsWith, String.toList_append, List.append_assoc]
      rfl

theorem allStart_sessionWarnings (id : PeerId) :
    AllStart sessionOpening (sessionWarnings configuration settings id) := by
  intro warning member
  cases id with
  | interface name => cases member
  | address peer =>
      rw [sessionWarnings, updateSourceWarnings] at member
      split at member
      · cases member
      · split at member
        · cases member
        · next fault _ =>
            rw [List.mem_singleton.mp member]
            exact startsWith_message settings.name fault

theorem allStart_skipWarnings (neighbor : Neighbor) :
    AllStart skipLabel neighbor.skipWarnings := by
  intro warning member
  rw [Neighbor.skipWarnings] at member
  split at member
  · cases member
  · rw [List.mem_singleton.mp member]
    simp only [skipLabel, startsWith, String.toList_append]
    rfl

theorem allStart_evpnWarnings :
    AllStart vniOpening (evpnWarnings device configuration inst settings) := by
  intro warning member
  rw [evpnWarnings] at member
  split at member
  · cases member
  · rcases List.mem_append.mp member with bridged | routed
    · split at bridged
      · obtain ⟨vni, -, complaint⟩ := List.mem_filterMap.mp bridged
        rw [layer2Warning?] at complaint
        split at complaint
        · cases complaint
        · cases complaint
          simp only [vniOpening, startsWith, String.toList_append, List.append_assoc]
          rfl
      · cases bridged
    · obtain ⟨vrf, -, complaint⟩ := List.mem_filterMap.mp routed
      obtain ⟨vni, -, rfl⟩ := Option.map_eq_some_iff.mp complaint
      simp only [vniOpening, startsWith, String.toList_append, List.append_assoc]
      rfl

end Neighbors

/-- Warnings that start in none of the ways of the other phases come from attaching neighbors and
from the compiler of route maps. -/
theorem starting_of_convert_of_attach {label : String} {device : Device}
    {params : ConversionParams} {compile : RouteMapCompiler} {progress : Progress}
    {reported : List String} (apart : ∀ opening ∈ phaseOpenings, Apart label opening)
    (converted : device.convert params compile = .ok progress)
    (no_bgp : device.bgp = none → reported = [])
    (attach : ∀ (instances : BgpInstances) (built bgp : Progress), device.bgp = some instances →
      built.configuration.RunsInstances device instances →
      (attachNeighbors device params instances).runFrom built = (.ok (), bgp) →
      bgp.warnings.starting label = built.warnings.starting label ++ reported) :
    progress.warnings.starting label =
      reported ++ (compile.warnings device).filter (startsWith label) := by
  obtain ⟨skeleton, listed, bgp, ospf, skeleton_run, lists_run, bgp_run, ospf_run, maps_run⟩ :=
    exists_runs_of_convert converted
  have nothing : listed.warnings.starting label = [] := by
    rw [silent_convertLists _ _ _ lists_run, silent_buildSkeleton apart _ _ _ skeleton_run]
    rfl
  rw [reports_convertRouteMaps _ _ _ _ maps_run, silent_convertOspf apart _ _ _ ospf_run,
    List.append_nil]
  rw [convertBgp] at bgp_run
  cases runs_bgp : device.bgp with
  | none =>
      rw [runs_bgp] at bgp_run
      cases bgp_run
      rw [nothing, no_bgp runs_bgp]
  | some instances =>
      rw [runs_bgp] at bgp_run
      obtain ⟨start, vrfs⟩ := inventory_of_buildSkeleton skeleton_run
      obtain ⟨-, same_vrfs⟩ := inventory_of_convertLists lists_run start
      rw [← same_vrfs] at vrfs
      obtain ⟨_, built, build_run, attach_run⟩ := runFrom_bind_eq_ok_iff.mp bgp_run
      rw [attach instances built bgp runs_bgp (.of_buildProcesses build_run vrfs) attach_run,
        silent_buildProcesses apart _ _ _ _ build_run, nothing]
      rfl

end NeutralRouting
