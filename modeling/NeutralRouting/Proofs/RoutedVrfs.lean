import NeutralRouting.Proofs.PeerCorrespondence

/-!
# VRFs with routed traffic

A VRF whose routed traffic has a VNI runs BGP whenever the default VRF does, from before the first
neighbor is attached.  What peers are told about such a VRF therefore has the router id of its own
process.
-/

namespace NeutralRouting

open Std Conversion

/-- Processes are built after the skeleton, or after the skeleton and the match lists. -/
def Device.Prepares (device : Device) (progress : Progress) : Prop :=
  ∃ skeleton : Progress,
    (buildSkeleton device).runFrom (.initial device.hostname) = (.ok (), skeleton) ∧
      (progress = skeleton ∨ (convertLists device).runFrom skeleton = (.ok (), progress))

section Processes

variable {device : Device} {params : ConversionParams} {instances : BgpInstances}
  {inst : BgpInstance} {vrf : String} {process own : BgpProcess} {before after : Progress}

theorem Device.Prepares.exists_ground (prepares : device.Prepares before) :
    ∃ lists, before.configuration.IsGround device ∧
      before.configuration.Inventory [] lists [] := by
  obtain ⟨skeleton, skeleton_run, rfl | lists_run⟩ := prepares
  · exact ⟨_, isGround_of_buildSkeleton skeleton_run, (inventory_of_buildSkeleton skeleton_run).1⟩
  · obtain ⟨with_lists, same_vrfs⟩ :=
      inventory_of_convertLists lists_run (inventory_of_buildSkeleton skeleton_run).1
    exact ⟨_, (isGround_of_buildSkeleton skeleton_run).of_same_vrfs same_vrfs, with_lists⟩

/-- Building processes leaves the VRFs of the device. -/
theorem Device.Prepares.mem_vrfs_iff (prepares : device.Prepares before)
    (run : (buildProcesses device params instances).runFrom before = (.ok (), after))
    (name : String) : name ∈ after.configuration.vrfs ↔ device.HasVrf name := by
  obtain ⟨_, ground, -⟩ := prepares.exists_ground
  exact (sameVrfs_admitsBgp.keeps_buildProcesses device params instances _ _ _ run name).trans
    (ground.vrfs name)

/-- VRFs that have a VNI exist. -/
theorem Device.hasVrf_of_mem_routed {declaration : VrfDeclaration}
    (routed : declaration ∈ device.vrfs.routed) :
    device.HasVrf declaration.name ∧ device.routesByVni declaration.name = true := by
  obtain ⟨declared, has_vni⟩ := List.mem_filter.mp routed
  obtain ⟨⟨name, vni⟩, listed, rfl⟩ := List.mem_map.mp declared
  have found := ExtTreeMap.mem_toList_iff_getElem?_eq_some.mp listed
  obtain ⟨number, rfl⟩ := Option.isSome_iff_exists.mp has_vni
  refine ⟨.inr (Table.mem_iff_getElem?_eq_some.mpr ⟨_, found⟩), Device.routesByVni_iff.mpr ?_⟩
  exact ⟨number, by rw [VrfTable.lookup, found]; rfl⟩

namespace Device.Runs

/-- The process of the default VRF is that of an instance. -/
theorem exists_own (runs : device.Runs params instances defaultVrfName own) :
    ∃ inst ∈ instances.all, inst.vrf = defaultVrfName ∧
      own = instanceProcess device params instances.defaultVrf inst := by
  generalize same : defaultVrfName = vrf at runs
  cases runs with
  | configured member => exact ⟨_, member, rfl, rfl⟩
  | idle others _ _ member own_vrf => exact absurd (own_vrf.trans same) (others _ member)

theorem of_default_instance (member : inst ∈ instances.all) (own_vrf : inst.vrf = defaultVrfName) :
    device.Runs params instances defaultVrfName
      (instanceProcess device params instances.defaultVrf inst) := by
  have runs := @configured device params instances inst member (.inl own_vrf)
  rwa [own_vrf] at runs

/-- A VRF has a process if it has an instance, or if it has a VNI and the default VRF has a
process. -/
theorem exists_iff (has_vrf : device.HasVrf vrf) :
    (∃ process, device.Runs params instances vrf process) ↔
      (∃ inst ∈ instances.all, inst.vrf = vrf) ∨
        (∃ own, device.Runs params instances defaultVrfName own) ∧
          device.routesByVni vrf = true := by
  constructor
  · rintro ⟨process, ⟨member⟩ | ⟨-, -, routes, member, own_vrf⟩⟩
    · exact .inl ⟨_, member, rfl⟩
    · exact .inr ⟨⟨_, of_default_instance member own_vrf⟩, routes⟩
  · rintro (⟨inst, member, rfl⟩ | ⟨⟨own, runs⟩, routes⟩)
    · exact ⟨_, .configured member has_vrf⟩
    · by_cases of_instance : ∃ inst ∈ instances.all, inst.vrf = vrf
      · obtain ⟨inst, member, rfl⟩ := of_instance
        exact ⟨_, .configured member has_vrf⟩
      · obtain ⟨inst, member, own_vrf, -⟩ := runs.exists_own
        refine ⟨_, .idle (fun other listed same => ?_) has_vrf routes member own_vrf⟩
        exact of_instance ⟨other, listed, same⟩

/-- The process of a VRF without an instance has the router id of that of the default VRF, and
nothing else. -/
theorem exists_own_of_no_instance (runs : device.Runs params instances vrf process)
    (no_instance : ∀ inst ∈ instances.all, inst.vrf ≠ vrf) :
    ∃ own, device.Runs params instances defaultVrfName own ∧
      process = .bare own.routerId params.ebgpAdmin params.ibgpAdmin := by
  cases runs with
  | configured member => exact absurd rfl (no_instance _ member)
  | idle _ _ _ member own_vrf => exact ⟨_, of_default_instance member own_vrf, rfl⟩

end Device.Runs

end Processes

section Announcements

variable {device : Device} {params : ConversionParams} {instances : BgpInstances}
  {configuration : Configuration} {inst : BgpInstance} {neighbor : Neighbor} {peer : BgpPeer}
  {family : EvpnFamily} {entry : Layer3Entry}

/-- What a peer is told about routed traffic is about routed VRFs. -/
theorem exists_announcement_of_mem_layer3
    (attached : attachedPeer? device params configuration inst neighbor = some peer)
    (evpn : peer.evpn = some family) (member : entry ∈ family.layer3) :
    ∃ asn routerId, ∃ declaration ∈ device.vrfs.routed,
      layer3Announcement? device configuration asn routerId declaration = some entry := by
  simp only [attachedPeer?, Option.bind_eq_bind, Option.bind_eq_some_iff, Option.pure_def,
    Option.some.injEq] at attached
  obtain ⟨process, -, id, -, remoteAsns, -, rfl⟩ := attached
  obtain ⟨⟨own, asn, settings⟩, -, rfl⟩ := Option.map_eq_some_iff.mp evpn
  rw [ExtTreeSet.mem_ofList, List.contains_iff_mem, List.mem_filterMap] at member
  exact ⟨asn, process.routerId, member⟩

/-- The distinguisher of a routed VRF that runs BGP has the router id of its process. -/
theorem address_of_layer3Announcement? {asn : UInt32} {routerId : Address}
    {declaration : VrfDeclaration} {process : BgpProcess}
    (announced : layer3Announcement? device configuration asn routerId declaration = some entry)
    (running : configuration.bgpProcess? declaration.name = some process) :
    entry.vrf = declaration.name ∧ entry.distinguisher.address = process.routerId := by
  simp only [layer3Announcement?, Option.bind_eq_bind, Option.bind_eq_some_iff, Option.pure_def,
    Option.some.injEq] at announced
  obtain ⟨vni, -, rank, -, rfl⟩ := announced
  exact ⟨rfl, by rw [running]; rfl⟩

/-- If the default VRF has a process, no peer is told the router id of another VRF in the place of
that of a routed one. -/
theorem exists_owner_of_mem_layer3 {before after : Progress} {vrf : String}
    {process own : BgpProcess}
    (run : (attachNeighbors device params instances).runFrom before = (.ok (), after))
    (runs : ∀ vrf process, before.configuration.bgpProcess? vrf = some process ↔
      device.Runs params instances vrf process)
    (default_runs : device.Runs params instances defaultVrfName own)
    (running : after.configuration.bgpProcess? vrf = some process) (member : peer ∈ process.peers)
    (evpn : peer.evpn = some family) (listed : entry ∈ family.layer3) :
    ∃ owner, after.configuration.bgpProcess? entry.vrf = some owner ∧
      entry.distinguisher.address = owner.routerId := by
  obtain ⟨-, -, -, has⟩ := hasPeers_of_bgpProcess? run runs running
  obtain ⟨pair, -, attached⟩ := List.mem_filterMap.mp (has.perm.mem_iff.mp member)
  obtain ⟨asn, routerId, declaration, routed, announced⟩ :=
    exists_announcement_of_mem_layer3 attached evpn listed
  obtain ⟨has_vrf, routes⟩ := Device.hasVrf_of_mem_routed routed
  obtain ⟨first, first_runs⟩ :=
    (Device.Runs.exists_iff has_vrf).mpr (.inr ⟨⟨own, default_runs⟩, routes⟩)
  have first_running := (runs _ _).mpr first_runs
  obtain ⟨owner, owner_running, same, -⟩ :=
    hasPeers_of_attachNeighbors run first_running first_runs.peer?_eq_none
  obtain ⟨entry_vrf, address⟩ := address_of_layer3Announcement? announced first_running
  rw [← entry_vrf] at owner_running
  exact ⟨owner, owner_running,
    address.trans (BgpProcess.routerId_of_withoutPeers_eq same).symm⟩

end Announcements

section Presence

variable {device : Device} {params : ConversionParams} {instances : BgpInstances}
  {before built : Progress}

/-- A VRF runs BGP if it has an instance, or else, idly and with the router id of the default VRF,
if it has a VNI and the default VRF runs BGP. -/
theorem buildProcesses_runs_routed_vrfs (prepares : device.Prepares before)
    (run : (buildProcesses device params instances).runFrom before = (.ok (), built)) :
    (∀ vrf : String, vrf ∈ built.configuration.vrfs →
      ((built.configuration.bgpProcess? vrf).isSome = true ↔
        (∃ inst ∈ instances.all, inst.vrf = vrf) ∨
          (built.configuration.bgpProcess? defaultVrfName).isSome = true ∧
            ∃ vni, device.vrfs.lookup vrf = some ⟨vrf, some vni⟩)) ∧
    (∀ inst ∈ instances.all, inst.vrf ∈ built.configuration.vrfs → ∃ process,
      built.configuration.bgpProcess? inst.vrf = some process ∧
        process = instanceProcess device params instances.defaultVrf inst ∧
        process.routerId = inst.routerId.getD device.routerId ∧
        ∀ block, process.originations.contains block = true ↔
          ∃ family, inst.ipv4Unicast = some family ∧ block ∈ family.networks) ∧
    (∀ vrf process, built.configuration.bgpProcess? vrf = some process →
      (∀ inst ∈ instances.all, inst.vrf ≠ vrf) →
        (∃ own, built.configuration.bgpProcess? defaultVrfName = some own ∧
          process.routerId = own.routerId) ∧
        process.originations = .empty ∧ process.peers = []) ∧
    ∀ attached, (attachNeighbors device params instances).runFrom built = (.ok (), attached) →
      (∀ vrf process, attached.configuration.bgpProcess? vrf = some process →
        (∀ inst ∈ instances.all, inst.vrf ≠ vrf) → process.peers = []) ∧
      ((built.configuration.bgpProcess? defaultVrfName).isSome = true →
        ∀ vrf process peer family entry,
          attached.configuration.bgpProcess? vrf = some process → peer ∈ process.peers →
          peer.evpn = some family → entry ∈ family.layer3 → ∃ owner,
            attached.configuration.bgpProcess? entry.vrf = some owner ∧
              entry.distinguisher.address = owner.routerId) := by
  obtain ⟨lists, ground, inventory⟩ := prepares.exists_ground
  have runs : ∀ vrf process, built.configuration.bgpProcess? vrf = some process ↔
      device.Runs params instances vrf process := fun _ _ =>
    bgpProcess?_of_buildProcesses_iff run ground inventory
  refine ⟨fun vrf present => ?_, fun inst member present => ?_,
    fun vrf process running no_instance => ?_, fun attached attach_run =>
      ⟨fun vrf process running no_instance => ?_, fun default_running => ?_⟩⟩
  · simp only [Option.isSome_iff_exists, runs, ← Device.routesByVni_iff]
    exact Device.Runs.exists_iff ((prepares.mem_vrfs_iff run vrf).mp present)
  · have has_vrf := (prepares.mem_vrfs_iff run _).mp present
    refine ⟨_, (runs _ _).mpr (.configured member has_vrf), rfl, rfl, fun block => ?_⟩
    exact (PrefixSpace.contains_ofPrefixes _ block).trans BgpInstance.mem_networks_iff
  · obtain ⟨own, default_runs, rfl⟩ :=
      ((runs vrf process).mp running).exists_own_of_no_instance no_instance
    exact ⟨⟨own, (runs _ _).mpr default_runs, rfl⟩, rfl, rfl⟩
  · exact peers_eq_nil_of_no_instance attach_run runs running no_instance
  · obtain ⟨own, default_running⟩ := Option.isSome_iff_exists.mp default_running
    intro vrf process peer family entry running member evpn listed
    exact exists_owner_of_mem_layer3 attach_run runs ((runs _ _).mp default_running) running member
      evpn listed

/-- The VRF `blue` of the leaf switch runs BGP without peers for the sake of its VNI, and it is
announced with the router id of its process. -/
theorem buildProcesses_leafSwitch_runs_blue :
    ∃ before built attached : Progress, leafSwitch.Prepares before ∧
      (buildProcesses leafSwitch .standard leafInstances).runFrom before = (.ok (), built) ∧
      (attachNeighbors leafSwitch .standard leafInstances).runFrom built = (.ok (), attached) ∧
      (∃ process, built.configuration.bgpProcess? "blue" = some process ∧
        process.routerId = .ofOctets 192 0 2 254 ∧ process.originations = .empty ∧
        process.peers = []) ∧
      (∃ process, built.configuration.bgpProcess? defaultVrfName = some process ∧
        process.routerId = .ofOctets 192 0 2 254 ∧
        process.originations.contains announcedNetwork = true) ∧
      ∃ process peer family entry,
        attached.configuration.bgpProcess? defaultVrfName = some process ∧ peer ∈ process.peers ∧
        peer.evpn = some family ∧ entry ∈ family.layer3 ∧ ∃ owner,
          attached.configuration.bgpProcess? "blue" = some owner ∧
            entry.distinguisher.address = owner.routerId := by
  obtain ⟨before, built, attached, skeleton_run, build_run, attach_run⟩ := leafSwitch_attaches
  have whole : ((do
      buildSkeleton leafSwitch
      buildProcesses leafSwitch .standard leafInstances
      attachNeighbors leafSwitch .standard leafInstances).runFrom (.initial "leaf")) =
        (.ok (), attached) := by
    rw [runFrom_bind_of_ok _ skeleton_run, runFrom_bind_of_ok _ build_run, attach_run]
  have announced : (attached.configuration.bgpProcess? defaultVrfName).any (fun process =>
      process.peers.any fun peer => peer.evpn.any fun family =>
        family.layer3.toList.any fun entry => entry.vrf = "blue") = true := by
    rw [← show _ = attached from congrArg Prod.snd whole]
    decide +kernel
  have prepares : leafSwitch.Prepares before := ⟨before, skeleton_run, .inl rfl⟩
  obtain ⟨presence, configured, idle, later⟩ := buildProcesses_runs_routed_vrfs prepares build_run
  have present := prepares.mem_vrfs_iff build_run
  have own_member : leafInstance ∈ leafInstances.all := List.mem_cons_self
  have others : ∀ inst ∈ leafInstances.all, inst.vrf ≠ "blue" := by decide +kernel
  obtain ⟨own, own_running, -, own_id, networks⟩ :=
    configured leafInstance own_member ((present _).mpr (.inl rfl))
  have blue_runs : (built.configuration.bgpProcess? "blue").isSome = true :=
    (presence "blue" ((present _).mpr (.inr (by decide +kernel)))).mpr
      (.inr ⟨Option.isSome_iff_exists.mpr ⟨own, own_running⟩, 4001, by decide +kernel⟩)
  obtain ⟨process, running⟩ := Option.isSome_iff_exists.mp blue_runs
  obtain ⟨⟨_, default_running, same⟩, no_networks, no_peers⟩ := idle "blue" process running others
  cases own_running.symm.trans default_running
  refine ⟨before, built, attached, prepares, build_run, attach_run, ⟨process, running,
    same.trans own_id, no_networks, no_peers⟩, ⟨own, own_running, own_id, (networks _).mpr ?_⟩, ?_⟩
  · exact ⟨_, rfl, by decide +kernel⟩
  · simp only [Option.any_eq_true, List.any_eq_true, decide_eq_true_iff] at announced
    obtain ⟨server, serving, peer, member, family, evpn, entry, listed, about_blue⟩ := announced
    rw [ExtTreeSet.mem_toList] at listed
    have owner := (later attached attach_run).2 (Option.isSome_iff_exists.mpr ⟨own, own_running⟩)
      defaultVrfName server peer family entry serving member evpn listed
    rw [about_blue] at owner
    exact ⟨server, peer, family, entry, serving, member, evpn, listed, owner⟩

end Presence
end NeutralRouting
