import NeutralRouting.Proofs.Silence

/-!
# Undefined route maps

The route maps that peers use and that do not exist.  A conversion records one warning for each use,
in the order in which neighbors are attached, and no other warning starts the same way.
-/

namespace NeutralRouting

open Std Conversion

/-- How the complaints about undefined route maps of neighbors start. -/
def undefinedLabel : String := "Undefined route-map "

/-- The complaint about an undefined route map of a neighbor. -/
def undefinedRouteMapWarning (map neighbor : String) : String :=
  s!"Undefined route-map {map} is used by BGP neighbor {neighbor}"

/-- The route maps that a neighbor uses and that do not exist, the outbound one first. -/
def Device.undefinedRouteMaps (device : Device) (settings : NeighborSettings) : List String :=
  [settings.ipv4Setting (·.routeMapOut), settings.ipv4Setting (·.routeMapIn)].filterMap
    (Option.filter (· ∉ device.routeMaps))

/-- The complaints about undefined route maps of a neighbor. -/
def Device.undefinedUses (device : Device) (settings : NeighborSettings) : List String :=
  (device.undefinedRouteMaps settings).map (undefinedRouteMapWarning · settings.name)

theorem Device.undefinedUses_eq_append (device : Device) (settings : NeighborSettings) :
    device.undefinedUses settings =
      routeMapWarnings device settings (settings.ipv4Setting (·.routeMapOut)) ++
        routeMapWarnings device settings (settings.ipv4Setting (·.routeMapIn)) := by
  rw [undefinedUses, undefinedRouteMaps, List.filterMap_cons, List.filterMap_cons,
    routeMapWarnings, routeMapWarnings]
  cases (settings.ipv4Setting (·.routeMapOut)).filter (· ∉ device.routeMaps) <;>
    cases (settings.ipv4Setting (·.routeMapIn)).filter (· ∉ device.routeMaps) <;> rfl

theorem startsWith_undefinedRouteMapWarning (map neighbor : String) :
    startsWith undefinedLabel (undefinedRouteMapWarning map neighbor) = true := by
  have whole : undefinedRouteMapWarning map neighbor =
      undefinedLabel ++ (map ++ " is used by BGP neighbor " ++ neighbor) := by
    simp only [← String.append_assoc]
    rfl
  rw [startsWith, whole, String.toList_append, List.isPrefixOf_iff_prefix]
  exact List.prefix_append _ _

theorem mem_undefinedRouteMaps_iff {device : Device} {settings : NeighborSettings} {map : String} :
    map ∈ device.undefinedRouteMaps settings ↔
      (settings.ipv4Setting (·.routeMapOut) = some map ∨
        settings.ipv4Setting (·.routeMapIn) = some map) ∧ map ∉ device.routeMaps := by
  simp only [Device.undefinedRouteMaps, List.mem_filterMap, Option.filter_eq_some_iff,
    decide_eq_true_iff, List.mem_cons, List.not_mem_nil, or_false]
  constructor
  · rintro ⟨_, rfl | rfl, used, absent⟩
    · exact ⟨.inl used, absent⟩
    · exact ⟨.inr used, absent⟩
  · rintro ⟨used | used, absent⟩
    · exact ⟨_, .inl rfl, used, absent⟩
    · exact ⟨_, .inr rfl, used, absent⟩

theorem apart_phaseOpenings_undefinedLabel :
    ∀ opening ∈ phaseOpenings, Apart undefinedLabel opening := by decide

section Peers

variable {device : Device} {params : ConversionParams} {inst : BgpInstance}
  {settings : NeighborSettings} {configuration : Configuration}

theorem allStart_routeMapWarnings (routeMap : Option String) :
    AllStart undefinedLabel (routeMapWarnings device settings routeMap) := by
  intro warning member
  obtain ⟨name, -, rfl⟩ := List.mem_map.mp member
  exact startsWith_undefinedRouteMapWarning name settings.name

theorem Device.allStart_undefinedUses :
    AllStart undefinedLabel (device.undefinedUses settings) := by
  rw [device.undefinedUses_eq_append]
  intro warning member
  exact (List.mem_append.mp member).elim (allStart_routeMapWarnings _ warning)
    (allStart_routeMapWarnings _ warning)

/-- All complaints about undefined route maps of a neighbor are counted. -/
theorem reports_routeMapWarnings (routeMap : Option String) :
    Reports undefinedLabel (warnAll (routeMapWarnings device settings routeMap))
      (routeMapWarnings device settings routeMap) := by
  have reported := @Reports.warnAll undefinedLabel (routeMapWarnings device settings routeMap)
  rwa [(allStart_routeMapWarnings routeMap).filter_eq_self] at reported

/-- Adding a peer reports its uses of undefined route maps. -/
theorem reports_addInstancePeer (routerId : Address) (id : PeerId) :
    Reports undefinedLabel (addInstancePeer device params inst routerId settings id)
      (device.undefinedUses settings) := by
  have exports : Reports undefinedLabel (addPeerExportPolicy device inst settings)
      (routeMapWarnings device settings (settings.ipv4Setting (·.routeMapOut))) := by
    have last := (@reports_routeMapWarnings device settings
      (settings.ipv4Setting (·.routeMapOut))).bind fun _ =>
        Silent.store (·.addPolicy (peerExportPolicy inst settings))
    rw [List.append_nil] at last
    rw [addPeerExportPolicy]
    split
    · exact Silent.bind_reports (.update _) fun _ => last
    · exact last
  have imports : Reports undefinedLabel (addPeerImportPolicy device inst settings)
      (routeMapWarnings device settings (settings.ipv4Setting (·.routeMapIn))) := by
    have both := (@reports_routeMapWarnings device settings
      (settings.ipv4Setting (·.routeMapIn))).bind fun _ =>
        @Silent.forM RoutingPolicy undefinedLabel (peerImportPolicy? inst settings).toList
          (fun policy => store (·.addPolicy policy)) fun _ _ => .store _
    rwa [List.append_nil] at both
  have last : ∀ configuration remoteAsns, Silent undefinedLabel (do
      warnAllOnce (evpnWarnings device configuration inst settings)
      store (·.updateBgpProcess inst.vrf (·.addPeer
        (instancePeer device params configuration inst routerId settings id remoteAsns)))) :=
    fun _ _ => .bind (.warnAllOnce (allStart_evpnWarnings.startsWith_eq_false (by decide)))
      fun _ => .store _
  rw [device.undefinedUses_eq_append, ← List.append_nil (routeMapWarnings device settings
    (settings.ipv4Setting (·.routeMapIn)))]
  exact Silent.bind_reports .configuration fun configuration =>
    Silent.bind_reports
      (.warnAll ((allStart_sessionWarnings id).startsWith_eq_false (by decide))) fun _ =>
    Silent.bind_reports (.require _) fun remoteAsns => exports.bind fun _ =>
    imports.bind fun _ => last configuration remoteAsns

/-- Attaching all neighbors reports the uses of undefined route maps by those that become
peers. -/
theorem starting_of_attachNeighbors {instances : BgpInstances} {before after : Progress}
    (run : (attachNeighbors device params instances).runFrom before = (.ok (), after))
    (runs : before.configuration.RunsInstances device instances) :
    after.warnings.starting undefinedLabel = before.warnings.starting undefinedLabel ++
      (instances.neighbors.filterMap device.peer?).flatMap fun (_, settings) =>
        device.undefinedUses settings := by
  let Reached (done : List (BgpInstance × Neighbor)) (progress : Progress) : Prop :=
    progress.configuration.RunsInstances device instances ∧
      progress.warnings.starting undefinedLabel = before.warnings.starting undefinedLabel ++
        (done.filterMap device.peer?).flatMap fun (_, settings) => device.undefinedUses settings
  have reached : Reached instances.neighbors after := by
    refine reached_of_runFrom_forM Reached ?_ run ⟨runs, by simp⟩
    rintro done ⟨inst, neighbor⟩ rest split start next here ⟨runs, reported⟩
    have attached : (inst, neighbor) ∈ instances.neighbors := by
      rw [split]
      simp
    refine ⟨runs.of_attachNeighbor here, ?_⟩
    rw [List.filterMap_append, List.flatMap_append, ← List.append_assoc, ← reported]
    rcases attachNeighbor_cases (BgpInstances.mem_neighbors_iff.mp attached).1 runs here with
      ⟨no_peer, rfl⟩ | ⟨no_peer, rfl⟩ | ⟨routerId, id, becomes, peer_run⟩
    · simp [no_peer]
    · have silent := (allStart_skipWarnings neighbor).filter_eq_nil
        (show Apart undefinedLabel skipLabel by decide)
      simp [no_peer, Warnings.starting_foldl_flag, silent]
    · simpa [becomes] using reports_addInstancePeer routerId id _ _ _ peer_run
  exact reached.2

end Peers

/-- The warnings of a conversion about undefined route maps of neighbors: one for every peer and
every direction in which it uses a route map that does not exist. -/
theorem starting_of_convert {device : Device} {params : ConversionParams} {progress : Progress}
    (converted : device.convert params entrywiseCompiler = .ok progress) :
    progress.warnings.starting undefinedLabel =
      device.peers.flatMap fun (_, settings) => device.undefinedUses settings := by
  have quiet := @allStart_warnings_entrywiseCompiler device
  rw [← List.append_nil (List.flatMap _ _), ← quiet.filter_eq_nil
    (show Apart undefinedLabel entryOpening by decide)]
  refine starting_of_convert_of_attach apart_phaseOpenings_undefinedLabel converted
    (fun no_bgp => ?_) fun instances built bgp runs_bgp runs attach_run => ?_
  · rw [Device.peers, Device.neighbors, no_bgp]
    rfl
  · rw [Device.peers, Device.neighbors, runs_bgp]
    exact starting_of_attachNeighbors attach_run runs

end NeutralRouting
