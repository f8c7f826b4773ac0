import NeutralRouting.Proofs.Inventory

/-!
# Inventories of peers

The neighbors that become peers bring their policies along, and nothing else: a policy for a default
route is never there before the peer it is for, since the export policy of that peer would be, too.
-/

namespace NeutralRouting

open Std Conversion

section Peers

variable {device : Device} {params : ConversionParams} {instances : BgpInstances}
  {inst : BgpInstance} {settings : NeighborSettings} {neighbor : Neighbor}
  {before after : Progress} {policies : List RoutingPolicy} {lists : List RouteFilterList}
  {routes : List (String × GeneratedRoute)}

/-- Wherever the name for the default route of a peer is taken, that of its export policy is. -/
def ReservesExports (policies : List RoutingPolicy) : Prop :=
  ∀ vrf peer, (GeneratedName.defaultRoute .v4 vrf peer).text ∈ policies.map (·.name) →
    (GeneratedName.peerExport vrf peer).text ∈ policies.map (·.name)

/-- Of the names for a device only the first one of a peer can be for a default route. -/
theorem exists_peer_of_kind_eq_defaultRoute {active : List BgpInstance}
    {peers : List (BgpInstance × NeighborSettings)} {name : GeneratedName}
    (member : name ∈ active.flatMap (·.policyNames) ++
      peers.flatMap fun (inst, settings) => peerPolicyNames inst settings)
    (kind : name.kind = .defaultRoute) :
    ∃ inst settings, (inst, settings) ∈ peers ∧
      name = .defaultRoute .v4 inst.vrf settings.name := by
  rcases List.mem_append.mp member with shared | own
  · obtain ⟨inst, -, listed⟩ := List.mem_flatMap.mp shared
    rcases List.mem_append.mp listed with aggregate | common
    · obtain ⟨block, -, rfl⟩ := List.mem_map.mp aggregate
      cases kind
    · rw [List.mem_singleton.mp common] at kind
      cases kind
  · obtain ⟨⟨inst, settings⟩, attached, listed⟩ := List.mem_flatMap.mp own
    rcases List.mem_append.mp listed with default_route | other
    · split at default_route
      · exact ⟨inst, settings, attached, List.mem_singleton.mp default_route⟩
      · cases default_route
    · rcases List.mem_cons.mp other with rfl | imported
      · cases kind
      · split at imported
        · rw [List.mem_singleton.mp imported] at kind
          cases kind
        · cases imported

theorem reservesExports_generated (device : Device) (active : List BgpInstance)
    (peers : List (BgpInstance × NeighborSettings)) :
    ReservesExports (active.flatMap (·.sharedPolicies device) ++
      peers.flatMap fun (inst, settings) => peerPolicies inst settings) := by
  intro vrf peer taken
  have names : (active.flatMap (·.sharedPolicies device) ++
      peers.flatMap fun (inst, settings) => peerPolicies inst settings).map (·.name) =
      (active.flatMap (·.policyNames) ++
        peers.flatMap fun (inst, settings) => peerPolicyNames inst settings).map (·.text) := by
    simp only [List.map_append, List.map_flatMap, BgpInstance.map_name_sharedPolicies,
      map_name_peerPolicies]
  rw [names] at taken ⊢
  obtain ⟨name, member, same⟩ := List.mem_map.mp taken
  obtain ⟨inst, settings, attached, rfl⟩ := exists_peer_of_kind_eq_defaultRoute member
    (GeneratedName.kind_fields_of_text_eq same).1
  have exported : GeneratedName.peerExport inst.vrf settings.name ∈
      peerPolicyNames inst settings := by simp [peerPolicyNames]
  rw [← GeneratedName.peerExport_text_eq_of_defaultRoute_text_eq same]
  exact List.mem_map_of_mem
    (List.mem_append_right _ (List.mem_flatMap.mpr ⟨(inst, settings), attached, exported⟩))

theorem inventory_of_addPeerExportPolicy
    (run : (addPeerExportPolicy device inst settings).runFrom before = (.ok (), after))
    (reserves : ReservesExports policies)
    (inventory : before.configuration.Inventory policies lists routes) :
    after.configuration.Inventory (policies ++
      (defaultRoutePolicies inst settings ++ [peerExportPolicy inst settings])) lists routes := by
  rw [addPeerExportPolicy] at run
  rw [defaultRoutePolicies, ← List.append_assoc]
  split at run
  · next originates =>
      obtain ⟨_, ensured, ensure_run, run⟩ := runFrom_bind_eq_ok_iff.mp run
      cases ensure_run
      rw [runFrom_bind_of_ok _ (runFrom_warnAll _ _)] at run
      have exported := configuration_of_runFrom_store run
      have shelved : Configuration.policyShelf.add (before.configuration.ensurePolicy
          (defaultRoutePolicy inst.vrf settings.name)) (peerExportPolicy inst settings) =
          (after.configuration, .ok ()) := exported
      obtain ⟨fresh_export, -⟩ := Configuration.policyShelf.add_eq_ok_iff.mp shelved
      have fresh : (defaultRoutePolicy inst.vrf settings.name).name ∉
          before.configuration.policies := by
        rw [inventory.policies.mem_iff]
        intro taken
        have reserved := reserves _ _ taken
        rw [← inventory.policies.mem_iff] at reserved
        exact fresh_export (ExtTreeMap.mem_insertIfNew.mpr (.inr reserved))
      rw [if_pos originates]
      exact (inventory.addPolicy (Configuration.addPolicy_eq_ensurePolicy fresh)).addPolicy exported
  · next keeps =>
      rw [runFrom_bind_of_ok _ (runFrom_warnAll _ _)] at run
      rw [if_neg keeps, List.append_nil]
      exact inventory.addPolicy (configuration_of_runFrom_store run)

theorem inventory_of_addPeerImportPolicy
    (run : (addPeerImportPolicy device inst settings).runFrom before = (.ok (), after))
    (inventory : before.configuration.Inventory policies lists routes) :
    after.configuration.Inventory (policies ++ (peerImportPolicy? inst settings).toList) lists
      routes := by
  rw [addPeerImportPolicy, runFrom_bind_of_ok _ (runFrom_warnAll _ _)] at run
  refine made_of_runFrom_forM (fun done configuration =>
    configuration.Inventory (policies ++ done) lists routes) ?_ run (by simpa using inventory)
  intro done policy rest _ start next here inventory
  rw [← List.append_assoc]
  exact inventory.addPolicy (configuration_of_runFrom_store here)

/-- What a peer brings along. -/
theorem inventory_of_addInstancePeer {routerId : Address} {id : PeerId}
    (run : (addInstancePeer device params inst routerId settings id).runFrom before =
      (.ok (), after)) (reserves : ReservesExports policies)
    (inventory : before.configuration.Inventory policies lists routes) :
    after.configuration.Inventory (policies ++ peerPolicies inst settings) lists routes := by
  obtain ⟨start, exported, imported, remoteAsns, same_start, exporting, importing, updated⟩ :=
    exists_steps_of_addInstancePeer run
  rw [← same_start] at inventory
  have with_export := inventory_of_addPeerExportPolicy exporting reserves inventory
  have with_import := inventory_of_addPeerImportPolicy importing with_export
  have same : policies ++ peerPolicies inst settings = policies ++
      (defaultRoutePolicies inst settings ++ [peerExportPolicy inst settings]) ++
        (peerImportPolicy? inst settings).toList := by
    simp only [peerPolicies, List.append_assoc, List.singleton_append]
  rw [same]
  obtain ⟨vrf, process, result, found, -, -, changed⟩ :=
    Configuration.updateBgpProcess_eq_ok_iff.mp updated
  rw [← changed]
  exact with_import.insert_vrf inst.vrf (with_import.routes inst.vrf vrf found)

theorem stillRunning_admitsBgp : stillRunning.AdmitsBgp where
  toAdmitsProcesses := stillRunning_admitsProcesses
  addPeer updated := by
    obtain ⟨vrf, process, result, -, -, -, rfl⟩ :=
      Configuration.updateBgpProcess_eq_ok_iff.mp updated
    intro other running
    rw [Configuration.bgpProcess?_of_insert rfl]
    split
    · rfl
    · exact running

/-- The VRFs are those of the device, and the instances of these VRFs have their processes. -/
structure Configuration.RunsInstances (configuration : Configuration) (device : Device)
    (instances : BgpInstances) : Prop where
  vrfs : ∀ name : String, name ∈ configuration.vrfs ↔ device.HasVrf name
  running : ∀ inst ∈ instances.all, device.HasVrf inst.vrf →
    (configuration.bgpProcess? inst.vrf).isSome = true

namespace Configuration.RunsInstances

theorem bgpProcess?_eq_none {configuration : Configuration}
    (runs : configuration.RunsInstances device instances) (no_vrf : ¬device.HasVrf inst.vrf) :
    configuration.bgpProcess? inst.vrf = none := by
  rw [Option.eq_none_iff_forall_ne_some]
  intro process running
  obtain ⟨vrf, found, -⟩ := bgpProcess?_eq_some_iff.mp running
  exact no_vrf ((runs.vrfs _).mp (Table.mem_iff_getElem?_eq_some.mpr ⟨vrf, found⟩))

theorem of_attachNeighbor
    (run : (attachNeighbor device params inst neighbor).runFrom before = (.ok (), after))
    (runs : before.configuration.RunsInstances device instances) :
    after.configuration.RunsInstances device instances where
  vrfs name := (sameVrfs_admitsBgp.keeps_attachNeighbor device params inst neighbor _ _ _ run
    name).trans (runs.vrfs name)
  running other member has_vrf := stillRunning_admitsBgp.keeps_attachNeighbor device params inst
    neighbor _ _ _ run _ (runs.running other member has_vrf)

theorem of_buildProcesses
    (run : (buildProcesses device params instances).runFrom before = (.ok (), after))
    (vrfs : ∀ name : String, name ∈ before.configuration.vrfs ↔ device.HasVrf name) :
    after.configuration.RunsInstances device instances where
  vrfs name := (sameVrfs_admitsBgp.keeps_buildProcesses device params instances _ _ _ run
    name).trans (vrfs name)
  running _ member has_vrf :=
    isSome_bgpProcess?_of_buildProcesses run member ((vrfs _).mpr has_vrf)

end Configuration.RunsInstances

/-- The complaint about a neighbor that is no peer group and is not validly configured. -/
def Neighbor.skipWarnings (neighbor : Neighbor) : List String :=
  if neighbor.isPeerGroup then []
  else [s!"Skipping invalidly configured BGP peer {neighbor.settings.name}"]

/-- A neighbor that does not become a peer leaves a warning at most. -/
theorem runFrom_attachNeighbor_of_no_peer {process : BgpProcess}
    (running : before.configuration.bgpProcess? inst.vrf = some process)
    (no_peer : (neighbor.resolve inst.neighbors).peerId? = none) :
    (attachNeighbor device params inst neighbor).runFrom before = (.ok (), { before with
      warnings := neighbor.skipWarnings.foldl Warnings.flag before.warnings }) := by
  rw [attachNeighbor, runFrom_bind_of_ok _ (runFrom_configuration before)]
  simp only [running, no_peer, neighbor.name_resolve]
  rw [Neighbor.skipWarnings]
  split
  · rfl
  · rfl

/-- Either the VRF of the neighbor does not exist, or the neighbor does not become a peer, or it is
added to the process of its VRF. -/
theorem attachNeighbor_cases (member : inst ∈ instances.all)
    (runs : before.configuration.RunsInstances device instances)
    (run : (attachNeighbor device params inst neighbor).runFrom before = (.ok (), after)) :
    (device.peer? (inst, neighbor) = none ∧ after = before) ∨
      (device.peer? (inst, neighbor) = none ∧ after = { before with
        warnings := neighbor.skipWarnings.foldl Warnings.flag before.warnings }) ∨
      ∃ routerId id,
        device.peer? (inst, neighbor) = some (inst, (neighbor.resolve inst.neighbors).settings) ∧
        (addInstancePeer device params inst routerId (neighbor.resolve inst.neighbors).settings
          id).runFrom before = (.ok (), after) := by
  by_cases has_vrf : device.HasVrf inst.vrf
  · obtain ⟨process, running⟩ := Option.isSome_iff_exists.mp (runs.running inst member has_vrf)
    cases identity : (neighbor.resolve inst.neighbors).peerId? with
    | none =>
        rw [runFrom_attachNeighbor_of_no_peer running identity] at run
        cases run
        exact .inr (.inl ⟨Device.peer?_of_peerId?_eq_none identity, rfl⟩)
    | some id =>
        rw [runFrom_attachNeighbor running identity] at run
        exact .inr (.inr ⟨_, _, Device.peer?_of_peerId? has_vrf identity, run⟩)
  · have idle := runs.bgpProcess?_eq_none has_vrf
    rw [attachNeighbor, runFrom_bind_of_ok _ (runFrom_configuration before)] at run
    simp only [idle] at run
    cases run
    exact .inl ⟨Device.peer?_of_not_hasVrf has_vrf, rfl⟩

theorem inventory_of_attachNeighbors {active : List BgpInstance}
    (run : (attachNeighbors device params instances).runFrom before = (.ok (), after))
    (runs : before.configuration.RunsInstances device instances)
    (inventory : before.configuration.Inventory (active.flatMap (·.sharedPolicies device)) lists
      routes) :
    after.configuration.Inventory (active.flatMap (·.sharedPolicies device) ++
      (instances.neighbors.filterMap device.peer?).flatMap fun (inst, settings) =>
        peerPolicies inst settings) lists routes := by
  let Made (done : List (BgpInstance × Neighbor)) (configuration : Configuration) : Prop :=
    configuration.RunsInstances device instances ∧
      configuration.Inventory (active.flatMap (·.sharedPolicies device) ++
        (done.filterMap device.peer?).flatMap fun (inst, settings) =>
          peerPolicies inst settings) lists routes
  have made : Made instances.neighbors after.configuration := by
    refine made_of_runFrom_forM Made ?_ run ⟨runs, by simpa using inventory⟩
    rintro done ⟨inst, neighbor⟩ rest split start next here ⟨runs, inventory⟩
    have attached : (inst, neighbor) ∈ instances.neighbors := by
      rw [split]
      simp
    refine ⟨runs.of_attachNeighbor here, ?_⟩
    rw [List.filterMap_append, List.flatMap_append, ← List.append_assoc]
    rcases attachNeighbor_cases (BgpInstances.mem_neighbors_iff.mp attached).1 runs here with
      ⟨no_peer, rfl⟩ | ⟨no_peer, rfl⟩ | ⟨routerId, id, becomes, peer_run⟩
    · simpa [no_peer] using inventory
    · simpa [no_peer] using inventory
    · have reserves := reservesExports_generated device active (done.filterMap device.peer?)
      simpa [becomes] using inventory_of_addInstancePeer peer_run reserves inventory
  exact made.2

end Peers
end NeutralRouting
