import Mathlib.Data.List.Nodup
import NeutralRouting.Proofs.Refusals

/-!
# Attaching neighbors

Neighbors are attached one after the other until one is refused.  So far the processes have exactly
the peers of the neighbors before it, and only names about those neighbors are in use.
-/

namespace NeutralRouting

open Std Conversion

section Policies

variable {device : Device} {progress : Progress} {used : GeneratedName → Prop}
  {inst : BgpInstance} {settings : NeighborSettings}

/-- The names of the policies that are registered for a neighbor. -/
def NamesPeer (inst : BgpInstance) (settings : NeighborSettings) (name : GeneratedName) : Prop :=
  name.vrf = inst.vrf ∧ name.peer? = some settings.name

theorem addPeerExportPolicy_succeeds (named : device.WellNamed)
    (uses : progress.configuration.UsesOnly device used) (has_vrf : device.HasVrf inst.vrf)
    (unused : ∀ name, NamesPeer inst settings name → ¬used name) :
    Succeeds (addPeerExportPolicy device inst settings) progress fun _ after =>
      after.UsesOnly device fun name => name = .peerExport inst.vrf settings.name ∨
        name = .defaultRoute .v4 inst.vrf settings.name ∨ used name := by
  have fresh : ¬(GeneratedName.peerExport inst.vrf settings.name =
      .defaultRoute .v4 inst.vrf settings.name ∨ used (.peerExport inst.vrf settings.name)) := by
    rintro (different | own)
    · cases different
    · exact unused _ ⟨rfl, rfl⟩ own
  have export_succeeds : ∀ start : Progress, (start.configuration.UsesOnly device fun name =>
      name = .defaultRoute .v4 inst.vrf settings.name ∨ used name) →
      Succeeds (do
        warnAll (routeMapWarnings device settings (settings.ipv4Setting (·.routeMapOut)))
        store (·.addPolicy (peerExportPolicy inst settings))) start fun _ after =>
          after.UsesOnly device fun name => name = .peerExport inst.vrf settings.name ∨
            name = .defaultRoute .v4 inst.vrf settings.name ∨ used name := by
    intro start uses
    apply Succeeds.bind (.warnAll _ start)
    rintro _ middle same
    rw [← same] at uses
    exact addPolicy_succeeds named (.peerExport inst.vrf settings.name) rfl has_vrf uses fresh
  rw [addPeerExportPolicy]
  split
  · apply Succeeds.bind_of_ok (runFrom_update _ _)
    apply export_succeeds
    refine @uses.insert_policy _ _ _ (.defaultRoute .v4 inst.vrf settings.name) has_vrf _ ?_
    intro name member
    rwa [ExtTreeMap.mem_insertIfNew, LawfulEqOrd.compare_eq_iff_eq, eq_comm] at member
  · apply export_succeeds
    exact @uses.or_eq _ _ _ (.defaultRoute .v4 inst.vrf settings.name) has_vrf

theorem addPeerImportPolicy_succeeds (named : device.WellNamed)
    (uses : progress.configuration.UsesOnly device used) (has_vrf : device.HasVrf inst.vrf)
    (unused : ¬used (.peerImport inst.vrf settings.name)) :
    Succeeds (addPeerImportPolicy device inst settings) progress fun _ after =>
      after.UsesOnly device fun name =>
        name = .peerImport inst.vrf settings.name ∨ used name := by
  apply Succeeds.bind (.warnAll _ progress)
  rintro _ middle same
  rw [← same] at uses
  cases imports : peerImportPolicy? inst settings with
  | none =>
      exact ⟨(), _, rfl, @uses.or_eq _ _ _ (.peerImport inst.vrf settings.name) has_vrf⟩
  | some policy =>
      have has_name : policy.name = (GeneratedName.peerImport inst.vrf settings.name).text := by
        obtain ⟨routeMap, -, rfl⟩ := Option.map_eq_some_iff.mp imports
        rfl
      apply Succeeds.bind (addPolicy_succeeds named _ has_name has_vrf uses unused)
      intro _ after uses
      exact ⟨(), _, rfl, uses⟩

/-- If the AS of the neighbor is clear, nothing but the peer itself can still be refused once its
policies are registered, and the VRFs have not changed by then. -/
theorem exists_runFrom_addInstancePeer {params : ConversionParams} {routerId : Address}
    {id : PeerId} {remoteAsns : AsnSpace} (named : device.WellNamed)
    (uses : progress.configuration.UsesOnly device used) (has_vrf : device.HasVrf inst.vrf)
    (unused : ∀ name, NamesPeer inst settings name → ¬used name)
    (clear : settings.remoteAsns inst.asn = .ok remoteAsns) :
    ∃ peer middle, peer.id = id ∧
      (addInstancePeer device params inst routerId settings id).runFrom progress =
        (store (·.updateBgpProcess inst.vrf (·.addPeer peer))).runFrom middle ∧
      middle.configuration.vrfs = progress.configuration.vrfs ∧
      middle.configuration.UsesOnly device fun name =>
        NamesPeer inst settings name ∨ used name := by
  let peer := instancePeer device params progress.configuration inst routerId settings id remoteAsns
  have required : ∀ start : Progress,
      (require (settings.remoteAsns inst.asn)).runFrom start = (.ok remoteAsns, start) :=
    fun start => runFrom_require_eq_ok_iff.mpr ⟨clear, rfl⟩
  obtain ⟨_, warned, warn_run, same_warned⟩ :=
    Succeeds.warnAll (sessionWarnings progress.configuration settings id) progress
  rw [← same_warned] at uses
  obtain ⟨_, exported, export_run, uses, same_exported⟩ :=
    (addPeerExportPolicy_succeeds named uses has_vrf unused).and_related
      (Configuration.same_vrfs_admitsPolicies.keeps_addPeerExportPolicy device inst settings)
  have unused_import : ¬(GeneratedName.peerImport inst.vrf settings.name =
      .peerExport inst.vrf settings.name ∨ GeneratedName.peerImport inst.vrf settings.name =
        .defaultRoute .v4 inst.vrf settings.name ∨ used (.peerImport inst.vrf settings.name)) := by
    rintro (different | different | own)
    · cases different
    · cases different
    · exact unused _ ⟨rfl, rfl⟩ own
  obtain ⟨_, imported, import_run, uses, same_imported⟩ :=
    (addPeerImportPolicy_succeeds named uses has_vrf unused_import).and_related
      (Configuration.same_vrfs_admitsPolicies.keeps_addPeerImportPolicy device inst settings)
  obtain ⟨_, told, tell_run, same_told⟩ :=
    Succeeds.warnAllOnce (evpnWarnings device progress.configuration inst settings) imported
  refine ⟨peer, told, rfl, ?_, ?_, ?_⟩
  · rw [addInstancePeer, runFrom_bind_of_ok _ (runFrom_configuration progress),
      runFrom_bind_of_ok _ warn_run, runFrom_bind_of_ok _ (required warned),
      runFrom_bind_of_ok _ export_run, runFrom_bind_of_ok _ import_run,
      runFrom_bind_of_ok _ tell_run]
  · rw [same_told, ← same_warned]
    exact same_imported.trans same_exported
  · rw [same_told]
    refine uses.imp (fun name => ?_) fun name => ?_
    · rintro (rfl | rfl | rfl | own)
      · exact .inl ⟨rfl, rfl⟩
      · exact .inl ⟨rfl, rfl⟩
      · exact .inl ⟨rfl, rfl⟩
      · exact .inr own
    · rintro (⟨same_vrf, -⟩ | own)
      · rwa [same_vrf]
      · exact uses.known name (.inr (.inr (.inr own)))

end Policies

section Neighbors

variable {device : Device} {params : ConversionParams} {instances : BgpInstances}

/-- Neighbors are told apart by the VRF of their instance and their name. -/
theorem BgpInstances.nodup_neighbors (keyed : device.Keyed) (named : device.WellNamed)
    (runs_bgp : device.bgp = some instances) :
    (instances.neighbors.map fun pair => (pair.1.vrf, pair.2.settings.name)).Nodup := by
  have distinct := instances.nodup_vrfs keyed named runs_bgp
  rw [List.Nodup, List.pairwise_map] at distinct
  rw [neighbors, List.map_flatMap, List.nodup_flatMap]
  constructor
  · intro inst member
    have names := ((keyed.bgp instances runs_bgp).neighbors inst member).nodup
    rw [List.map_map]
    rw [List.Nodup, List.pairwise_map] at names ⊢
    exact names.imp fun different same => different (Prod.mk.inj same).2
  · refine distinct.imp fun {first second} different => ?_
    intro pair in_first in_second
    simp only [List.map_map] at in_first in_second
    obtain ⟨_, -, rfl⟩ := List.mem_map.mp in_first
    obtain ⟨_, -, same⟩ := List.mem_map.mp in_second
    exact different (Prod.mk.inj same).1.symm

/-- The names that may be in use for the given neighbors. -/
def UsedByNeighbors (device : Device) (done : List (BgpInstance × Neighbor))
    (name : GeneratedName) : Prop :=
  ∃ inst neighbor, (inst, neighbor) ∈ done ∧ device.HasVrf inst.vrf ∧
    NamesPeer inst neighbor.settings name

/-- All instances run, their processes have exactly the peers of the given neighbors, and the names
in use are those of the instances and of these neighbors. -/
structure Configuration.HasAttached (configuration : Configuration) (device : Device)
    (instances : BgpInstances) (done : List (BgpInstance × Neighbor)) : Prop where
  uses : configuration.UsesOnly device fun name =>
    UsedByInstances device instances.all name ∨ UsedByNeighbors device done name
  runs : ∀ inst ∈ instances.all, device.HasVrf inst.vrf →
    ∃ process, configuration.bgpProcess? inst.vrf = some process
  peers : ∀ (vrf : String) (process : BgpProcess) (id : PeerId),
    configuration.bgpProcess? vrf = some process →
    ((process.peer? id).isSome = true ↔ ∃ inst neighbor, (inst, neighbor) ∈ done ∧
      inst.vrf = vrf ∧ (neighbor.resolve inst.neighbors).peerId? = some id)

variable {done : List (BgpInstance × Neighbor)} {inst : BgpInstance} {neighbor : Neighbor}

/-- Some neighbor is among the given ones and one more if it is among the given ones or is that
one. -/
theorem exists_mem_append_singleton_iff {holds : BgpInstance → Neighbor → Prop} :
    (∃ other another, (other, another) ∈ done ++ [(inst, neighbor)] ∧ holds other another) ↔
      (∃ other another, (other, another) ∈ done ∧ holds other another) ∨ holds inst neighbor := by
  simp only [List.mem_append, List.mem_singleton, Prod.mk.injEq]
  constructor
  · rintro ⟨other, another, member | ⟨rfl, rfl⟩, own⟩
    · exact .inl ⟨other, another, member, own⟩
    · exact .inr own
  · rintro (⟨other, another, member, own⟩ | own)
    · exact ⟨other, another, .inl member, own⟩
    · exact ⟨inst, neighbor, .inr ⟨rfl, rfl⟩, own⟩

theorem UsedByNeighbors.append {name : GeneratedName} (own : UsedByNeighbors device done name)
    (later : List (BgpInstance × Neighbor)) : UsedByNeighbors device (done ++ later) name := by
  obtain ⟨inst, neighbor, member, has_vrf, names⟩ := own
  exact ⟨inst, neighbor, List.mem_append_left later member, has_vrf, names⟩

namespace Configuration.HasAttached

variable {configuration changed : Configuration}

theorem hasVrf_of_running (attached : configuration.HasAttached device instances done)
    {vrf : String} {process : BgpProcess}
    (running : configuration.bgpProcess? vrf = some process) : device.HasVrf vrf := by
  obtain ⟨owner, found, -⟩ := bgpProcess?_eq_some_iff.mp running
  exact (attached.uses.vrfs vrf).mp (Table.mem_iff_getElem?_eq_some.mpr ⟨owner, found⟩)

/-- A neighbor that becomes no peer makes no difference. -/
theorem append_skipped (attached : configuration.HasAttached device instances done)
    (skipped : device.HasVrf inst.vrf → (neighbor.resolve inst.neighbors).peerId? = none) :
    configuration.HasAttached device instances (done ++ [(inst, neighbor)]) where
  uses := attached.uses.imp (fun name => Or.imp_right fun own => own.append _) fun name => by
    rintro (own | ⟨other, _, -, has_vrf, same, -⟩)
    · exact own.2.1
    · rwa [same]
  runs := attached.runs
  peers vrf process id running := by
    have no_peer : ¬(inst.vrf = vrf ∧ (neighbor.resolve inst.neighbors).peerId? = some id) := by
      rintro ⟨same_vrf, identity⟩
      rw [← same_vrf] at running
      rw [skipped (attached.hasVrf_of_running running)] at identity
      cases identity
    rw [attached.peers vrf process id running, exists_mem_append_singleton_iff,
      or_iff_left no_peer]

/-- The neighbor becomes a peer of the process of its VRF. -/
theorem append_attached (attached : configuration.HasAttached device instances done)
    (has_vrf : device.HasVrf inst.vrf) {settings : NeighborSettings}
    (same_name : settings.name = neighbor.settings.name)
    (uses : changed.UsesOnly device fun name => NamesPeer inst settings name ∨
      UsedByInstances device instances.all name ∨ UsedByNeighbors device done name)
    {process result : BgpProcess} {peer : BgpPeer}
    (running : configuration.bgpProcess? inst.vrf = some process)
    (added : process.addPeer peer = (result, .ok ()))
    (identity : (neighbor.resolve inst.neighbors).peerId? = some peer.id)
    (updated : ∀ other : String, changed.bgpProcess? other =
      if other = inst.vrf then some result else configuration.bgpProcess? other) :
    changed.HasAttached device instances (done ++ [(inst, neighbor)]) where
  uses := by
    refine uses.imp (fun name => ?_) fun name => ?_
    · rintro (⟨same_vrf, same_peer⟩ | own | own)
      · rw [same_name] at same_peer
        exact .inr ⟨inst, neighbor, by simp, has_vrf, same_vrf, same_peer⟩
      · exact .inl own
      · exact .inr (own.append _)
    · rintro (own | ⟨other, _, -, has_vrf, same, -⟩)
      · exact own.2.1
      · rwa [same]
  runs other member has_other := by
    obtain ⟨old, old_running⟩ := attached.runs other member has_other
    rw [updated]
    split
    · exact ⟨result, rfl⟩
    · exact ⟨old, old_running⟩
  peers vrf current id current_running := by
    rw [updated] at current_running
    split at current_running
    · next same_vrf =>
        cases current_running
        have earlier := attached.peers inst.vrf process id running
        rw [BgpProcess.peer?_of_addPeer added, exists_mem_append_singleton_iff, same_vrf, ← earlier,
          identity]
        split
        · next own => simp [own]
        · next other =>
            have different : ¬peer.id = id := fun same => other same.symm
            simp [different]
    · next other_vrf =>
        have different : ¬inst.vrf = vrf := fun same => other_vrf same.symm
        rw [attached.peers vrf current id current_running, exists_mem_append_singleton_iff]
        simp [different]

end Configuration.HasAttached

section Steps

variable {rest : List (BgpInstance × Neighbor)} {before : Progress}

/-- A neighbor whose VRF does not exist or that is not validly configured is skipped. -/
theorem attachNeighbor_skips (skipped : before.configuration.bgpProcess? inst.vrf = none ∨
      (neighbor.resolve inst.neighbors).peerId? = none) :
    Succeeds (attachNeighbor device params inst neighbor) before fun _ after =>
      after = before.configuration := by
  apply Succeeds.bind_of_ok (runFrom_configuration before)
  cases running : before.configuration.bgpProcess? inst.vrf with
  | none => exact ⟨(), before, rfl, rfl⟩
  | some process =>
      have unidentified := skipped.resolve_left (by simp [running])
      dsimp only
      split
      · exact ⟨(), before, rfl, rfl⟩
      · rw [unidentified]
        exact ⟨(), _, rfl, rfl⟩

theorem runFrom_attachNeighbor {process : BgpProcess} {id : PeerId}
    (running : before.configuration.bgpProcess? inst.vrf = some process)
    (identity : (neighbor.resolve inst.neighbors).peerId? = some id) :
    (attachNeighbor device params inst neighbor).runFrom before =
      (addInstancePeer device params inst process.routerId
        (neighbor.resolve inst.neighbors).settings id).runFrom before := by
  have no_group : ¬neighbor.isPeerGroup = true := by
    rw [(Neighbor.isValid_of_peerId? identity).1]
    simp
  rw [attachNeighbor, runFrom_bind_of_ok _ (runFrom_configuration before)]
  simp only [running, if_neg no_group, identity]

variable (keyed : device.Keyed) (named : device.WellNamed)
  (runs_bgp : device.bgp = some instances)
  (split : instances.neighbors = done ++ (inst, neighbor) :: rest)
include keyed named runs_bgp split

/-- A neighbor shares its name with no earlier one of the same VRF. -/
theorem not_mem_done_of_same_name {other : BgpInstance} {another : Neighbor}
    (member : (other, another) ∈ done) (same_vrf : other.vrf = inst.vrf)
    (same_name : another.settings.name = neighbor.settings.name) : False := by
  have distinct := instances.nodup_neighbors keyed named runs_bgp
  apply not_mem_map_of_split distinct split
  exact List.mem_map.mpr ⟨_, member, by rw [same_vrf, same_name]⟩

theorem eq_inst_of_mem_done {other : BgpInstance} {another : Neighbor}
    (member : (other, another) ∈ done) (same_vrf : other.vrf = inst.vrf) : other = inst := by
  have in_all : ∀ pair ∈ instances.neighbors, pair.1 ∈ instances.all := fun pair found =>
    (BgpInstances.mem_neighbors_iff.mp found).1
  rw [split] at in_all
  exact List.inj_on_of_nodup_map (instances.nodup_vrfs keyed named runs_bgp)
    (in_all (other, another) (by simp [member])) (in_all (inst, neighbor) (by simp)) same_vrf

theorem unused_of_split {name : GeneratedName}
    (names : NamesPeer inst (neighbor.resolve inst.neighbors).settings name) :
    ¬(UsedByInstances device instances.all name ∨ UsedByNeighbors device done name) := by
  rw [NamesPeer, neighbor.name_resolve] at names
  rintro (⟨no_peer, -⟩ | ⟨other, another, member, -, same_vrf, same_peer⟩)
  · rw [names.2] at no_peer
    cases no_peer
  · rw [names.2, Option.some.injEq] at same_peer
    exact not_mem_done_of_same_name keyed named runs_bgp split member
      (same_vrf.symm.trans names.1) same_peer.symm

/-- The identity of a neighbor is taken if it is an address and an earlier neighbor has it. -/
theorem isSome_peer?_iff (attached : before.configuration.HasAttached device instances done)
    {process : BgpProcess} {id : PeerId}
    (running : before.configuration.bgpProcess? inst.vrf = some process)
    (identity : (neighbor.resolve inst.neighbors).peerId? = some id) :
    (process.peer? id).isSome = true ↔ ∃ address other, id = .address address ∧
      inst.PeersAt neighbor address ∧ (inst, other) ∈ done ∧ inst.PeersAt other address := by
  rw [attached.peers inst.vrf process id running]
  constructor
  · rintro ⟨other, another, member, same_vrf, same_identity⟩
    cases eq_inst_of_mem_done keyed named runs_bgp split member same_vrf
    cases id with
    | address address =>
        exact ⟨address, another, rfl, Neighbor.peerId?_eq_address_iff.mp identity, member,
          Neighbor.peerId?_eq_address_iff.mp same_identity⟩
    | interface name =>
        have same_name := (Neighbor.eq_name_of_peerId? same_identity).symm.trans
          (Neighbor.eq_name_of_peerId? identity)
        exact (not_mem_done_of_same_name keyed named runs_bgp split member rfl same_name).elim
  · rintro ⟨address, other, rfl, -, member, there⟩
    exact ⟨inst, other, member, rfl, Neighbor.peerId?_eq_address_iff.mpr there⟩

/-- What is left of attaching a neighbor that the type of its AS does not stop. -/
theorem exists_runFrom_attachNeighbor
    (attached : before.configuration.HasAttached device instances done)
    {process : BgpProcess} {id : PeerId}
    (running : before.configuration.bgpProcess? inst.vrf = some process)
    (identity : (neighbor.resolve inst.neighbors).peerId? = some id)
    (typed : ¬inst.LacksType neighbor) :
    ∃ peer middle, peer.id = id ∧
      (attachNeighbor device params inst neighbor).runFrom before =
        (store (·.updateBgpProcess inst.vrf (·.addPeer peer))).runFrom middle ∧
      middle.configuration.vrfs = before.configuration.vrfs ∧
      middle.configuration.UsesOnly device fun name =>
        NamesPeer inst (neighbor.resolve inst.neighbors).settings name ∨
          UsedByInstances device instances.all name ∨ UsedByNeighbors device done name := by
  have clear : ∃ remoteAsns,
      (neighbor.resolve inst.neighbors).settings.remoteAsns inst.asn = .ok remoteAsns := by
    cases outcome : (neighbor.resolve inst.neighbors).settings.remoteAsns inst.asn with
    | ok remoteAsns => exact ⟨remoteAsns, rfl⟩
    | error cause => exact absurd ((inst.remoteAsns_eq_error_iff identity).mp outcome).1 typed
  obtain ⟨remoteAsns, clear⟩ := clear
  rw [runFrom_attachNeighbor running identity]
  exact exists_runFrom_addInstancePeer named attached.uses (attached.hasVrf_of_running running)
    (fun name names => unused_of_split keyed named runs_bgp split names) clear

/-- A validly configured neighbor whose identity is free becomes a peer. -/
theorem attachNeighbor_attaches
    (attached : before.configuration.HasAttached device instances done)
    {process : BgpProcess} {id : PeerId}
    (running : before.configuration.bgpProcess? inst.vrf = some process)
    (identity : (neighbor.resolve inst.neighbors).peerId? = some id)
    (typed : ¬inst.LacksType neighbor) (free : ¬(process.peer? id).isSome = true) :
    Succeeds (attachNeighbor device params inst neighbor) before fun _ after =>
      after.HasAttached device instances (done ++ [(inst, neighbor)]) := by
  obtain ⟨peer, middle, rfl, run, same_vrfs, uses⟩ := exists_runFrom_attachNeighbor keyed named
    runs_bgp split attached running identity typed
  obtain ⟨result, added⟩ := BgpProcess.exists_addPeer_of_free free
  obtain ⟨owner, found, own⟩ := Configuration.bgpProcess?_eq_some_iff.mp running
  rw [← same_vrfs] at found
  have updated : middle.configuration.updateBgpProcess inst.vrf (·.addPeer peer) = (_, .ok ()) :=
    Configuration.updateBgpProcess_eq_ok_iff.mpr ⟨owner, process, result, found, own, added, rfl⟩
  refine ⟨(), _, run.trans (runFrom_store_of_ok updated), ?_⟩
  refine attached.append_attached (attached.hasVrf_of_running running) (neighbor.name_resolve _)
    (uses.of_updateVrf updated) running added identity fun other => ?_
  rw [Configuration.bgpProcess?_of_insert rfl, Configuration.bgpProcess?, same_vrfs]
  rfl

/-- A neighbor that is not refused is attached or skipped. -/
theorem attachNeighbor_succeeds
    (attached : before.configuration.HasAttached device instances done)
    (accepted : ∀ cause, ¬device.Refuses done (inst, neighbor) cause) :
    Succeeds (attachNeighbor device params inst neighbor) before fun _ after =>
      after.HasAttached device instances (done ++ [(inst, neighbor)]) := by
  cases running : before.configuration.bgpProcess? inst.vrf with
  | none =>
      apply Succeeds.imp (attachNeighbor_skips (.inl running))
      rintro _ after rfl
      refine attached.append_skipped fun has_vrf => ?_
      have member : (inst, neighbor) ∈ instances.neighbors := by simp [split]
      obtain ⟨process, found⟩ := attached.runs inst (BgpInstances.mem_neighbors_iff.mp member).1
        has_vrf
      rw [running] at found
      cases found
  | some process =>
      have has_vrf := attached.hasVrf_of_running running
      cases identity : (neighbor.resolve inst.neighbors).peerId? with
      | none =>
          apply Succeeds.imp (attachNeighbor_skips (.inr identity))
          rintro _ after rfl
          exact attached.append_skipped fun _ => identity
      | some id =>
          have typed : ¬inst.LacksType neighbor := fun lacks =>
            accepted _ (.untyped has_vrf lacks)
          have free : ¬(process.peer? id).isSome = true := by
            rw [isSome_peer?_iff keyed named runs_bgp split attached running identity]
            rintro ⟨address, other, -, here, earlier, there⟩
            exact accepted _ (.duplicate has_vrf typed here earlier there)
          exact attachNeighbor_attaches keyed named runs_bgp split attached running identity typed
            free

/-- A neighbor that is refused ends the conversion. -/
theorem attachNeighbor_fails {cause : ConversionError}
    (attached : before.configuration.HasAttached device instances done)
    (refused : device.Refuses done (inst, neighbor) cause) :
    Fails (attachNeighbor device params inst neighbor) before cause := by
  have member : (inst, neighbor) ∈ instances.neighbors := by simp [split]
  have in_all := (BgpInstances.mem_neighbors_iff.mp member).1
  cases refused with
  | untyped has_vrf lacks =>
      obtain ⟨process, running⟩ := attached.runs inst in_all has_vrf
      obtain ⟨id, identity⟩ := lacks.exists_peerId?
      have unclear := (inst.remoteAsns_eq_error_iff identity).mpr ⟨lacks, rfl⟩
      rw [Fails, runFrom_attachNeighbor running identity, addInstancePeer,
        runFrom_bind_of_ok _ (runFrom_configuration before),
        runFrom_bind_of_ok _ (runFrom_warnAll _ before), unclear]
      exact ⟨_, rfl⟩
  | @duplicate _ _ other address has_vrf typed here earlier there =>
      obtain ⟨process, running⟩ := attached.runs inst in_all has_vrf
      have identity := Neighbor.peerId?_eq_address_iff.mpr here
      have taken := (isSome_peer?_iff keyed named runs_bgp split attached running identity).mpr
        ⟨address, other, rfl, here, earlier, there⟩
      obtain ⟨peer, middle, own_id, run, same_vrfs, -⟩ := @exists_runFrom_attachNeighbor device
        params instances done inst neighbor rest before keyed named runs_bgp split attached process
        _ running identity typed
      rw [← own_id] at taken
      obtain ⟨owner, found, own⟩ := Configuration.bgpProcess?_eq_some_iff.mp running
      rw [← same_vrfs] at found
      obtain ⟨left, refusal⟩ : ∃ left, middle.configuration.updateBgpProcess inst.vrf
          (·.addPeer peer) = (left, .error (.duplicateName .bgpPeer address.text)) := by
        rw [Configuration.updateBgpProcess_of_getElem? found own, BgpProcess.addPeer_of_taken taken,
          own_id]
        exact ⟨_, rfl⟩
      exact ⟨_, run.trans (runFrom_store_of_error refusal)⟩

end Steps
end Neighbors
end NeutralRouting
