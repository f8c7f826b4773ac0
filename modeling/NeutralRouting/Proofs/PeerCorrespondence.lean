import Mathlib.Data.List.Forall2
import NeutralRouting.Proofs.AsnSpaceCanonical
import NeutralRouting.Proofs.AttachedPeers
import NeutralRouting.Proofs.Result

/-!
# Neighbors and their peers

A conversion turns exactly the validly configured neighbors of the instances whose VRFs exist into
peers, each into one of its own, and complains about the others once each.
-/

namespace NeutralRouting

open Std Conversion

namespace Neighbor

/-- The interface of a validly configured neighbor on one. -/
def validInterface? : Neighbor → Option String
  | interface settings => if settings.namesAs then some settings.name else none
  | _ => none

/-- The address of a validly configured neighbor with one. -/
def validAddress? : Neighbor → Option Address
  | ip settings peer => if settings.namesAs then peer else none
  | _ => none

variable {neighbor : Neighbor} {id : PeerId}

/-- A peer has the interface or the address of its neighbor. -/
theorem valid_of_peerId? (identity : neighbor.peerId? = some id) :
    id.interface? = neighbor.validInterface? ∧ id.address? = neighbor.validAddress? := by
  cases neighbor with
  | interface settings =>
      rw [peerId?, NeighborSettings.isValid_eq_namesAs, Option.ite_none_right_eq_some] at identity
      obtain ⟨valid, ⟨⟩⟩ := identity
      rw [validInterface?, if_pos valid]
      exact ⟨rfl, rfl⟩
  | ip settings peer =>
      rw [peerId?, NeighborSettings.isValid_eq_namesAs, Option.ite_none_right_eq_some] at identity
      obtain ⟨valid, made⟩ := identity
      obtain ⟨address, rfl, rfl⟩ := Option.map_eq_some_iff.mp made
      rw [validAddress?, if_pos valid]
      exact ⟨rfl, rfl⟩
  | peerGroup settings => cases identity

theorem valid_of_not_isPeer (no_peer : neighbor.isPeer = false) :
    neighbor.validInterface? = none ∧ neighbor.validAddress? = none := by
  cases neighbor with
  | interface settings => simpa [validInterface?, validAddress?, isPeer] using no_peer
  | ip settings peer =>
      cases valid : settings.namesAs <;> cases peer <;>
        simp_all [validInterface?, validAddress?, isPeer]
  | peerGroup settings => exact ⟨rfl, rfl⟩

end Neighbor

/-- The neighbors of an instance with what they inherit from their peer groups. -/
def BgpInstance.resolvedNeighbors (inst : BgpInstance) : List Neighbor :=
  inst.neighbors.values.map (·.resolve inst.neighbors)

/-- The peer is that of a neighbor of the instance: everything that tells it from other peers is
taken from the settings of that neighbor and the VRF of the instance. -/
structure BgpPeer.StandsFor (peer : BgpPeer) (inst : BgpInstance) (neighbor : Neighbor) :
    Prop where
  interface : peer.id.interface? = neighbor.validInterface?
  address : peer.id.address? = neighbor.validAddress?
  group : peer.group = neighbor.settings.peerGroup
  description : peer.description = neighbor.settings.description
  /-- Without a local AS number the type of the AS may be missing. -/
  typed : neighbor.settings.remoteAsType = none → inst.asn = none
  remoteAsns : ∀ asn, peer.remoteAsns.contains asn = true ↔
    neighbor.settings.MayHave inst.asn asn
  canonical : peer.remoteAsns.Canonical
  sendsIpv4 : peer.ipv4Unicast.isSome =
    (neighbor.settings.ipv4Setting (·.activated)).getD inst.defaultIpv4Unicast
  ipv4Unicast : ∀ family ∈ peer.ipv4Unicast,
    family.exportPolicy = (GeneratedName.peerExport inst.vrf neighbor.settings.name).text ∧
      family.importPolicy = (neighbor.settings.ipv4Setting (·.routeMapIn)).map fun _ =>
        (GeneratedName.peerImport inst.vrf neighbor.settings.name).text
  sendsEvpn : peer.evpn.isSome = true ↔ inst.evpn.isSome = true ∧ inst.asn.isSome = true ∧
    ∃ own ∈ neighbor.settings.evpn, own.activated = some true
  evpn : ∀ family ∈ peer.evpn,
    family.exportPolicy = (GeneratedName.peerExport inst.vrf neighbor.settings.name).text

section Correspondence

variable {device : Device} {params : ConversionParams} {configuration : Configuration}
  {inst : BgpInstance} {neighbor : Neighbor} {peer : BgpPeer}

theorem isSome_ipv4UnicastFamily? {settings : NeighborSettings} :
    (ipv4UnicastFamily? inst settings).isSome =
      (settings.ipv4Setting (·.activated)).getD inst.defaultIpv4Unicast := by
  have own : (settings.ipv4Unicast.getD .unset).activated = settings.ipv4Setting (·.activated) := by
    rw [NeighborSettings.ipv4Setting]
    cases settings.ipv4Unicast <;> rfl
  rw [ipv4UnicastFamily?, ← own]
  split <;> simp_all

theorem isSome_evpnFamily?_iff {settings : NeighborSettings} {routerId : Address}
    {exportPolicy : String} :
    (evpnFamily? device configuration inst settings routerId exportPolicy).isSome = true ↔
      inst.evpn.isSome = true ∧ inst.asn.isSome = true ∧
        ∃ own ∈ settings.evpn, own.activated = some true := by
  rw [evpnFamily?, Option.isSome_map, evpnActivation?]
  cases inst.evpn <;> cases inst.asn <;> cases settings.evpn <;>
    simp [Option.getD_eq_iff]

theorem standsFor_of_attachedPeer?
    (attached : attachedPeer? device params configuration inst neighbor = some peer) :
    peer.StandsFor inst (neighbor.resolve inst.neighbors) := by
  simp only [attachedPeer?, Option.bind_eq_bind, Option.bind_eq_some_iff, Option.pure_def,
    Option.some.injEq, toOption_eq_some_iff] at attached
  obtain ⟨process, -, id, identity, remoteAsns, clear, rfl⟩ := attached
  obtain ⟨interface, address⟩ := Neighbor.valid_of_peerId? identity
  refine ⟨interface, address, rfl, rfl, fun untyped => ?_,
    fun asn => NeighborSettings.contains_remoteAsns_iff clear,
    AsnSpace.canonical_remoteAsns clear, isSome_ipv4UnicastFamily?, ?_, isSome_evpnFamily?_iff, ?_⟩
  · by_contra known
    rw [NeighborSettings.remoteAsns_eq_error_iff.mpr
      ⟨untyped, Option.isSome_iff_ne_none.mpr known, rfl⟩] at clear
    cases clear
  · intro family member
    have given : ipv4UnicastFamily? inst (neighbor.resolve inst.neighbors).settings =
        some family := member
    simp only [ipv4UnicastFamily?, Option.ite_none_right_eq_some] at given
    cases given.2
    exact ⟨rfl, by rw [peerImportPolicy?, Option.map_map]; rfl⟩
  · intro family member
    obtain ⟨_, -, rfl⟩ := Option.map_eq_some_iff.mp member
    rfl

theorem attachedPeer?_eq_none (no_peer : (neighbor.resolve inst.neighbors).isPeer = false) :
    attachedPeer? device params configuration inst neighbor = none := by
  rw [← Neighbor.isSome_peerId?, Option.isSome_eq_false_iff, Option.isNone_iff_eq_none] at no_peer
  rw [attachedPeer?]
  cases configuration.bgpProcess? inst.vrf with
  | none => rfl
  | some process => simp [no_peer]

/-- A neighbor of a process that can be attached becomes a peer if it is validly configured. -/
theorem exists_attachedPeer? {process : BgpProcess}
    (running : configuration.bgpProcess? inst.vrf = some process)
    (known : (attachment? device params configuration (inst, neighbor)).isSome = true)
    (valid : (neighbor.resolve inst.neighbors).isPeer = true) :
    ∃ peer, attachedPeer? device params configuration inst neighbor = some peer := by
  rw [← Neighbor.isSome_peerId?] at valid
  obtain ⟨id, identity⟩ := Option.isSome_iff_exists.mp valid
  simp only [attachment?, running, identity, Option.isSome_map] at known
  obtain ⟨remoteAsns, clear⟩ := Option.isSome_iff_exists.mp known
  exact ⟨_, by simp [attachedPeer?, running, identity, clear]; rfl⟩

/-- The validly configured neighbors and the peers they become stand in the same order. -/
theorem forall₂_standsFor {process : BgpProcess} {neighbors : List Neighbor}
    (running : configuration.bgpProcess? inst.vrf = some process)
    (known : ∀ neighbor ∈ neighbors,
      (attachment? device params configuration (inst, neighbor)).isSome = true) :
    List.Forall₂ (fun neighbor peer => BgpPeer.StandsFor peer inst neighbor)
      ((neighbors.map (·.resolve inst.neighbors)).filter (·.isPeer))
      (neighbors.filterMap (attachedPeer? device params configuration inst)) := by
  induction neighbors with
  | nil => exact .nil
  | cons neighbor neighbors ih =>
      rw [List.forall_mem_cons] at known
      cases valid : (neighbor.resolve inst.neighbors).isPeer with
      | false =>
          rw [List.map_cons, List.filter_cons_of_neg (by simp [valid]),
            List.filterMap_cons_none (attachedPeer?_eq_none valid)]
          exact ih known.2
      | true =>
          obtain ⟨peer, attached⟩ := exists_attachedPeer? running known.1 valid
          rw [List.map_cons, List.filter_cons_of_pos valid, List.filterMap_cons_some attached]
          exact .cons (standsFor_of_attachedPeer? attached) (ih known.2)

/-- What a peer shares with the neighbor it stands for can be read off either list. -/
theorem filterMap_eq_of_forall₂ {α β γ : Type} {related : α → β → Prop} {f : α → Option γ}
    {g : β → Option γ} (same : ∀ left right, related left right → f left = g right)
    {lefts : List α} {rights : List β} (all : List.Forall₂ related lefts rights) :
    lefts.filterMap f = rights.filterMap g := by
  induction all with
  | nil => rfl
  | cons head _ ih => rw [List.filterMap_cons, List.filterMap_cons, ih, same _ _ head]

theorem exists_mem_of_forall₂ {α β : Type} {related : α → β → Prop} {lefts : List α}
    {rights : List β} (all : List.Forall₂ related lefts rights) {right : β}
    (member : right ∈ rights) : ∃ left ∈ lefts, related left right := by
  induction all with
  | nil => cases member
  | cons head _ ih =>
      rcases List.mem_cons.mp member with rfl | later
      · exact ⟨_, List.mem_cons_self, head⟩
      · obtain ⟨left, listed, both⟩ := ih later
        exact ⟨left, List.mem_cons_of_mem _ listed, both⟩

/-- Only validly configured neighbors have the identity of a peer. -/
theorem filterMap_filter_isPeer {γ : Type} {key? : Neighbor → Option γ}
    (only_valid : ∀ neighbor : Neighbor, neighbor.isPeer = false → key? neighbor = none)
    (neighbors : List Neighbor) :
    (neighbors.filter (·.isPeer)).filterMap key? = neighbors.filterMap key? := by
  rw [List.filterMap_filter]
  refine List.filterMap_congr fun neighbor _ => ?_
  cases valid : neighbor.isPeer with
  | false => simp [only_valid neighbor valid]
  | true => simp

end Correspondence

/-- The peers of the process are those of the validly configured neighbors of the instance, one for
each of them. -/
structure BgpProcess.ServesNeighbors (process : BgpProcess) (inst : BgpInstance) : Prop where
  interfacePeers : process.interfacePeers.keys.Perm
    (inst.resolvedNeighbors.filterMap (·.validInterface?))
  activePeers : process.activePeers.keys.Perm
    (inst.resolvedNeighbors.filterMap (·.validAddress?))
  nodup : (process.peers.map (·.id)).Nodup
  standsFor : ∃ peers, process.peers.Perm peers ∧
    List.Forall₂ (fun neighbor peer => BgpPeer.StandsFor peer inst neighbor)
      (inst.resolvedNeighbors.filter (·.isPeer)) peers

section Instances

variable {device : Device} {params : ConversionParams} {configuration : Configuration}
  {instances : BgpInstances} {inst : BgpInstance} {process result : BgpProcess}
  {before after : Progress}

theorem servesNeighbors_of_hasPeers
    (running : configuration.bgpProcess? inst.vrf = some process)
    (known : ∀ neighbor ∈ inst.neighbors.values,
      (attachment? device params configuration (inst, neighbor)).isSome = true)
    (has : result.HasPeers
      (inst.neighbors.values.filterMap (attachedPeer? device params configuration inst))) :
    result.ServesNeighbors inst := by
  have stand := forall₂_standsFor running known
  have keys : ∀ {γ : Type} {key? : Neighbor → Option γ} {of_id : PeerId → Option γ},
      (∀ neighbor : Neighbor, neighbor.isPeer = false → key? neighbor = none) →
      (∀ neighbor (peer : BgpPeer), peer.StandsFor inst neighbor →
        key? neighbor = of_id peer.id) →
      inst.resolvedNeighbors.filterMap key? =
        (inst.neighbors.values.filterMap
          (attachedPeer? device params configuration inst)).filterMap (of_id ·.id) := by
    intro γ key? of_id only_valid same
    rw [← filterMap_filter_isPeer only_valid]
    exact filterMap_eq_of_forall₂ same stand
  refine ⟨?_, ?_, (has.perm.map _).nodup_iff.mpr has.nodup, _, has.perm, stand⟩
  · rw [keys (fun _ no_peer => (Neighbor.valid_of_not_isPeer no_peer).1)
      fun _ _ stands => stands.interface.symm]
    exact has.keys_perm.2
  · rw [keys (fun _ no_peer => (Neighbor.valid_of_not_isPeer no_peer).2)
      fun _ _ stands => stands.address.symm]
    exact has.keys_perm.1

/-- The neighbors for a VRF are those of the instances of the VRF. -/
theorem BgpInstances.filter_neighbors (instances : BgpInstances) (vrf : String) :
    instances.neighbors.filter (·.1.vrf = vrf) =
      (instances.all.filter (·.vrf = vrf)).flatMap fun inst =>
        inst.neighbors.values.map fun neighbor => (inst, neighbor) := by
  rw [neighbors]
  induction instances.all with
  | nil => rfl
  | cons inst rest ih =>
      rw [List.flatMap_cons, List.filter_append, ih, List.filter_cons]
      by_cases same : inst.vrf = vrf
      · rw [if_pos (by simpa using same), List.flatMap_cons, List.filter_eq_self.mpr]
        intro pair member
        obtain ⟨neighbor, -, rfl⟩ := List.mem_map.mp member
        simpa using same
      · rw [if_neg (by simpa using same), List.filter_eq_nil_iff.mpr, List.nil_append]
        intro pair member
        obtain ⟨neighbor, -, rfl⟩ := List.mem_map.mp member
        simpa using same

/-- If instances of existing VRFs are of different VRFs, only its own neighbors are for the VRF of
an instance. -/
theorem filter_neighbors_of_hasVrf
    (distinct : ((instances.all.filter (device.HasVrf ·.vrf)).map (·.vrf)).Nodup)
    (member : inst ∈ instances.all) (has_vrf : device.HasVrf inst.vrf) :
    instances.neighbors.filter (·.1.vrf = inst.vrf) =
      inst.neighbors.values.map fun neighbor => (inst, neighbor) := by
  have active : inst ∈ instances.all.filter (device.HasVrf ·.vrf) :=
    List.mem_filter.mpr ⟨member, by simpa using has_vrf⟩
  have own : instances.all.filter (·.vrf = inst.vrf) =
      (instances.all.filter (device.HasVrf ·.vrf)).filter (· == inst) := by
    rw [List.filter_filter]
    refine List.filter_congr fun other listed => ?_
    rw [Bool.eq_iff_iff]
    simp only [decide_eq_true_iff, Bool.and_eq_true, beq_iff_eq]
    constructor
    · intro same
      rw [← same] at has_vrf
      exact ⟨List.inj_on_of_nodup_map distinct
        (List.mem_filter.mpr ⟨listed, by simpa using has_vrf⟩) active same, has_vrf⟩
    · rintro ⟨rfl, -⟩
      rfl
  rw [BgpInstances.filter_neighbors, own, List.filter_beq,
    List.count_eq_one_of_mem (.of_map _ distinct) active, List.replicate_one,
    List.flatMap_singleton]

/-- The VRF of a process exists. -/
theorem Device.Runs.hasVrf {vrf : String} (runs : device.Runs params instances vrf process) :
    device.HasVrf vrf := by
  cases runs with
  | configured _ has_vrf => exact has_vrf
  | idle _ has_vrf => exact has_vrf

end Instances

section Attached

variable {device : Device} {params : ConversionParams} {instances : BgpInstances}
  {inst : BgpInstance} {vrf : String} {result : BgpProcess} {before after : Progress}
  (run : (attachNeighbors device params instances).runFrom before = (.ok (), after))
  (runs : ∀ vrf process, before.configuration.bgpProcess? vrf = some process ↔
    device.Runs params instances vrf process)
include run runs

/-- Every process has the peers that the neighbors for its VRF become. -/
theorem hasPeers_of_bgpProcess? (running : after.configuration.bgpProcess? vrf = some result) :
    ∃ process, device.Runs params instances vrf process ∧
      result.withoutPeers = process.withoutPeers ∧
      result.HasPeers ((instances.neighbors.filter (·.1.vrf = vrf)).filterMap fun pair =>
        attachedPeer? device params before.configuration pair.1 pair.2) := by
  obtain ⟨process, ran⟩ := exists_bgpProcess?_of_attachNeighbors run running
  have own := (runs vrf process).mp ran
  obtain ⟨_, running_again, same, has⟩ := hasPeers_of_attachNeighbors run ran own.peer?_eq_none
  cases running.symm.trans running_again
  exact ⟨process, own, same, has⟩

/-- The process of an instance serves the neighbors of the instance. -/
theorem exists_servesNeighbors
    (distinct : ((instances.all.filter (device.HasVrf ·.vrf)).map (·.vrf)).Nodup)
    (member : inst ∈ instances.all) (has_vrf : device.HasVrf inst.vrf) :
    ∃ process, after.configuration.bgpProcess? inst.vrf = some process ∧
      process.ServesNeighbors inst := by
  have own := @Device.Runs.configured device params instances inst member has_vrf
  have ran := (runs _ _).mpr own
  obtain ⟨result, running, -, has⟩ := hasPeers_of_attachNeighbors run ran own.peer?_eq_none
  rw [filter_neighbors_of_hasVrf distinct member has_vrf, List.filterMap_map] at has
  refine ⟨result, running, servesNeighbors_of_hasPeers ran (fun neighbor listed => ?_) has⟩
  exact (runFrom_attachNeighbors_eq_ok_iff.mp run).1 _
    (BgpInstances.mem_neighbors_iff.mpr ⟨member, listed⟩)

/-- A process of a VRF without an instance has no peers. -/
theorem peers_eq_nil_of_no_instance
    (running : after.configuration.bgpProcess? vrf = some result)
    (no_instance : ∀ inst ∈ instances.all, inst.vrf ≠ vrf) : result.peers = [] := by
  obtain ⟨-, -, -, has⟩ := hasPeers_of_bgpProcess? run runs running
  have nothing : instances.all.filter (·.vrf = vrf) = [] :=
    List.filter_eq_nil_iff.mpr fun inst member => by simpa using no_instance inst member
  rw [BgpInstances.filter_neighbors, nothing] at has
  exact has.perm.eq_nil

end Attached

/-- The neighbors of an instance that are neither peer groups nor validly configured. -/
def BgpInstance.skippedNeighbors (inst : BgpInstance) : List Neighbor :=
  inst.resolvedNeighbors.filter fun neighbor => !neighbor.isPeerGroup && !neighbor.isPeer

section Skipped

variable {device : Device} {params : ConversionParams} {compile : RouteMapCompiler}
  {instances : BgpInstances} {progress : Progress}

theorem flatMap_skipWarnings (inst : BgpInstance) :
    (inst.neighbors.values.filter fun neighbor =>
        (neighbor.resolve inst.neighbors).peerId?.isNone).flatMap (·.skipWarnings) =
      inst.skippedNeighbors.map fun neighbor =>
        s!"Skipping invalidly configured BGP peer {neighbor.settings.name}" := by
  rw [BgpInstance.skippedNeighbors, BgpInstance.resolvedNeighbors]
  induction inst.neighbors.values with
  | nil => rfl
  | cons neighbor neighbors ih =>
      have kind : (neighbor.resolve inst.neighbors).isPeerGroup = neighbor.isPeerGroup := by
        cases neighbor <;> rfl
      have is_peer := (neighbor.resolve inst.neighbors).isSome_peerId?
      have warnings : neighbor.skipWarnings = if neighbor.isPeerGroup then [] else
          [s!"Skipping invalidly configured BGP peer {neighbor.settings.name}"] := rfl
      rw [List.map_cons, List.filter_cons, List.filter_cons, kind, ← is_peer]
      cases grouped : neighbor.isPeerGroup <;>
        cases identity : (neighbor.resolve inst.neighbors).peerId? <;>
        simp [ih, warnings, grouped, neighbor.name_resolve]

/-- The complaints of attaching neighbors about those that become no peers. -/
theorem flatMap_skipWarnings_neighbors {configuration : Configuration}
    (runs : configuration.RunsInstances device instances) :
    (instances.neighbors.filter fun pair => (configuration.bgpProcess? pair.1.vrf).isSome &&
        (pair.2.resolve pair.1.neighbors).peerId?.isNone).flatMap (·.2.skipWarnings) =
      (instances.all.filter (device.HasVrf ·.vrf)).flatMap fun inst =>
        inst.skippedNeighbors.map fun neighbor =>
          s!"Skipping invalidly configured BGP peer {neighbor.settings.name}" := by
  have running : ∀ inst ∈ instances.all,
      (configuration.bgpProcess? inst.vrf).isSome = decide (device.HasVrf inst.vrf) := by
    intro inst member
    by_cases has_vrf : device.HasVrf inst.vrf
    · rw [runs.running inst member has_vrf, decide_eq_true has_vrf]
    · rw [runs.bgpProcess?_eq_none has_vrf, decide_eq_false has_vrf]
      rfl
  rw [BgpInstances.neighbors, ← List.filter_congr running]
  induction instances.all with
  | nil => rfl
  | cons inst rest ih =>
      rw [List.flatMap_cons, List.filter_append, List.flatMap_append, ih, List.filter_map,
        List.flatMap_map, List.filter_cons]
      cases has : (configuration.bgpProcess? inst.vrf).isSome with
      | false => simp [Function.comp_def, has]
      | true => simpa [Function.comp_def, has] using flatMap_skipWarnings inst

/-- A conversion complains about the neighbors that are skipped, and its compiler may use the same
words. -/
theorem starting_skipLabel_of_convert (converted : device.convert params compile = .ok progress) :
    progress.warnings.starting skipLabel =
      (device.activeInstances.flatMap fun inst => inst.skippedNeighbors.map fun neighbor =>
        s!"Skipping invalidly configured BGP peer {neighbor.settings.name}") ++
        (compile.warnings device).filter (startsWith skipLabel) := by
  refine starting_of_convert_of_attach (by decide) converted (fun no_bgp => ?_)
    fun instances built bgp runs_bgp runs attach_run => ?_
  · rw [Device.activeInstances, no_bgp]
    rfl
  · rw [Device.activeInstances, runs_bgp, starting_skipLabel_of_attachNeighbors attach_run,
      flatMap_skipWarnings_neighbors runs]

end Skipped

section Convert

variable {device : Device} {params : ConversionParams} {compile : RouteMapCompiler}
  {progress : Progress}

/-- The BGP phase of a conversion starts without processes, and later phases keep its processes. -/
theorem exists_bgp_run_of_convert (converted : device.convert params compile = .ok progress) :
    ∃ (lists : List RouteFilterList) (listed bgp : Progress),
      listed.configuration.IsGround device ∧ listed.configuration.Inventory [] lists [] ∧
      (convertBgp device params).runFrom listed = (.ok (), bgp) ∧
      progress.configuration.bgpProcess? = bgp.configuration.bgpProcess? := by
  obtain ⟨skeleton, listed, bgp, ospf, skeleton_run, lists_run, bgp_run, ospf_run, maps_run⟩ :=
    exists_runs_of_convert converted
  obtain ⟨start, -⟩ := inventory_of_buildSkeleton skeleton_run
  obtain ⟨with_lists, same_vrfs⟩ := inventory_of_convertLists lists_run start
  have ground := (isGround_of_buildSkeleton skeleton_run).of_same_vrfs same_vrfs
  exact ⟨_, listed, bgp, ground, with_lists, bgp_run, bgpProcess?_of_later_phases ospf_run maps_run⟩

/-- A conversion of a device that runs BGP attaches its neighbors to the processes that its VRFs
should run. -/
theorem exists_attachment_of_convert {instances : BgpInstances}
    (converted : device.convert params compile = .ok progress)
    (runs_bgp : device.bgp = some instances) :
    ∃ built bgp : Progress,
      (∀ vrf process, built.configuration.bgpProcess? vrf = some process ↔
        device.Runs params instances vrf process) ∧
      ((instances.all.filter (device.HasVrf ·.vrf)).map (·.vrf)).Nodup ∧
      (attachNeighbors device params instances).runFrom built = (.ok (), bgp) ∧
      progress.configuration.bgpProcess? = bgp.configuration.bgpProcess? := by
  obtain ⟨lists, listed, bgp, ground, inventory, bgp_run, same⟩ :=
    exists_bgp_run_of_convert converted
  rw [convertBgp, runs_bgp] at bgp_run
  obtain ⟨_, built, build_run, attach_run⟩ := runFrom_bind_eq_ok_iff.mp bgp_run
  have made := (inventory_of_buildProcesses build_run ground.vrfs inventory).policies
  exact ⟨built, bgp, fun _ _ => bgpProcess?_of_buildProcesses_iff build_run ground inventory,
    nodup_vrfs_of_nodup_names made.nodup, attach_run, same⟩

theorem bgpProcess?_eq_none_of_convert (converted : device.convert params compile = .ok progress)
    (no_bgp : device.bgp = none) (vrf : String) :
    progress.configuration.bgpProcess? vrf = none := by
  obtain ⟨lists, listed, bgp, ground, -, bgp_run, same⟩ := exists_bgp_run_of_convert converted
  rw [convertBgp, no_bgp] at bgp_run
  cases bgp_run
  rw [same]
  exact ground.idle vrf

theorem exists_servesNeighbors_of_convert {inst : BgpInstance}
    (converted : device.convert params compile = .ok progress)
    (active : inst ∈ device.activeInstances) :
    ∃ process, progress.configuration.bgpProcess? inst.vrf = some process ∧
      process.ServesNeighbors inst := by
  obtain ⟨instances, runs_bgp, member, has_vrf⟩ := Device.mem_activeInstances_iff.mp active
  obtain ⟨built, bgp, runs, distinct, attach_run, same⟩ :=
    exists_attachment_of_convert converted runs_bgp
  rw [same]
  exact exists_servesNeighbors attach_run runs distinct member has_vrf

theorem peers_eq_nil_of_convert {vrf : String} {process : BgpProcess}
    (converted : device.convert params compile = .ok progress)
    (running : progress.configuration.bgpProcess? vrf = some process)
    (no_instance : ∀ inst ∈ device.activeInstances, inst.vrf ≠ vrf) : process.peers = [] := by
  cases runs_bgp : device.bgp with
  | none =>
      rw [bgpProcess?_eq_none_of_convert converted runs_bgp] at running
      cases running
  | some instances =>
      obtain ⟨built, bgp, runs, -, attach_run, same⟩ :=
        exists_attachment_of_convert converted runs_bgp
      rw [same] at running
      obtain ⟨_, ran, -⟩ := hasPeers_of_bgpProcess? attach_run runs running
      refine peers_eq_nil_of_no_instance attach_run runs running fun inst member own_vrf => ?_
      exact no_instance inst (Device.mem_activeInstances_iff.mpr
        ⟨instances, runs_bgp, member, own_vrf ▸ ran.hasVrf⟩) own_vrf

/-- Every peer stands for a validly configured neighbor of the instance of its VRF. -/
theorem exists_standsFor_of_mem_peers {vrf : String} {process : BgpProcess} {peer : BgpPeer}
    (converted : device.convert params compile = .ok progress)
    (running : progress.configuration.bgpProcess? vrf = some process)
    (member : peer ∈ process.peers) :
    ∃ inst ∈ device.activeInstances, ∃ neighbor ∈ inst.resolvedNeighbors, inst.vrf = vrf ∧
      neighbor.isPeer = true ∧ peer.StandsFor inst neighbor := by
  by_cases of_instance : ∃ inst ∈ device.activeInstances, inst.vrf = vrf
  · obtain ⟨inst, active, rfl⟩ := of_instance
    obtain ⟨_, running_again, serves⟩ := exists_servesNeighbors_of_convert converted active
    cases running.symm.trans running_again
    obtain ⟨peers, permuted, stand⟩ := serves.standsFor
    obtain ⟨neighbor, valid, stands⟩ :=
      exists_mem_of_forall₂ stand (permuted.mem_iff.mp member)
    obtain ⟨listed, is_peer⟩ := List.mem_filter.mp valid
    exact ⟨inst, active, neighbor, listed, rfl, is_peer, stands⟩
  · rw [peers_eq_nil_of_convert converted running
      fun inst active own_vrf => of_instance ⟨inst, active, own_vrf⟩] at member
    cases member

/-- Exactly the validly configured neighbors of the instances whose VRFs exist become peers, each
one of its own, and each of the others has one warning. -/
theorem convert_attaches_exactly (converted : device.convert params compile = .ok progress) :
    (∀ inst ∈ device.activeInstances, ∃ process,
      progress.configuration.bgpProcess? inst.vrf = some process ∧
      process.interfacePeers.keys.Perm (inst.resolvedNeighbors.filterMap (·.validInterface?)) ∧
      process.activePeers.keys.Perm (inst.resolvedNeighbors.filterMap (·.validAddress?)) ∧
      (process.peers.map (·.id)).Nodup ∧
      ∃ peers, process.peers.Perm peers ∧
        List.Forall₂ (fun neighbor peer => BgpPeer.StandsFor peer inst neighbor)
          (inst.resolvedNeighbors.filter (·.isPeer)) peers) ∧
    (∀ vrf process, progress.configuration.bgpProcess? vrf = some process →
      (∀ inst ∈ device.activeInstances, inst.vrf ≠ vrf) → process.peers = []) ∧
    (compile = entrywiseCompiler →
      progress.warnings.starting "Skipping invalidly configured BGP peer " =
        device.activeInstances.flatMap fun inst => inst.skippedNeighbors.map fun neighbor =>
          s!"Skipping invalidly configured BGP peer {neighbor.settings.name}") := by
  refine ⟨fun inst active => ?_, fun vrf process running no_instance => ?_, ?_⟩
  · obtain ⟨process, running, serves⟩ := exists_servesNeighbors_of_convert converted active
    exact ⟨process, running, serves.interfacePeers, serves.activePeers, serves.nodup,
      serves.standsFor⟩
  · exact peers_eq_nil_of_convert converted running no_instance
  · rintro rfl
    have warned := starting_skipLabel_of_convert converted
    rwa [allStart_warnings_entrywiseCompiler.filter_eq_nil (by decide), List.append_nil] at warned

/-- The peer on `swp1` may have any AS number but the local one, the one with an address has its
own.  Of `swp9` nothing is known. -/
theorem convert_leafSwitch_attaches :
    ∃ progress, leafSwitch.convert .standard entrywiseCompiler = .ok progress ∧
      (∃ process, progress.configuration.bgpProcess? defaultVrfName = some process ∧
        process.interfacePeers.keys.Perm ["swp1"] ∧
        process.activePeers.keys.Perm [.ofOctets 192 0 2 1] ∧
        (∃ peer ∈ process.peers, peer.id = .interface "swp1" ∧ peer.group = some "SPINE" ∧
          peer.evpn.isSome = true ∧
          ∀ asn, peer.remoteAsns.contains asn = true ↔ asn ≠ 0 ∧ asn ≠ 65001) ∧
        ∃ peer ∈ process.peers, peer.id = .address (.ofOctets 192 0 2 1) ∧ peer.evpn = none ∧
          (∃ family ∈ peer.ipv4Unicast, family.importPolicy =
            some "~BGP_PEER_IMPORT_POLICY:default:192.0.2.1~") ∧
          ∀ asn, peer.remoteAsns.contains asn = true ↔ asn = 65002) ∧
      (∀ process, progress.configuration.bgpProcess? "blue" = some process →
        process.peers = []) ∧
      progress.warnings.starting "Skipping invalidly configured BGP peer " =
        ["Skipping invalidly configured BGP peer swp9"] := by
  obtain ⟨progress, converted⟩ := leafSwitch_converts
  obtain ⟨serves, others, warned⟩ := convert_attaches_exactly converted
  have active : leafSwitch.activeInstances = [leafInstance] := by decide +kernel
  have interfaces : leafInstance.resolvedNeighbors.filterMap (·.validInterface?) = ["swp1"] := by
    decide +kernel
  have addresses : leafInstance.resolvedNeighbors.filterMap (·.validAddress?) =
      [.ofOctets 192 0 2 1] := by decide +kernel
  have skipped : (leafInstance.skippedNeighbors.map fun neighbor =>
      s!"Skipping invalidly configured BGP peer {neighbor.settings.name}") =
        ["Skipping invalidly configured BGP peer swp9"] := by decide +kernel
  have valid : leafInstance.resolvedNeighbors.filter (·.isPeer) =
      [.ip borderNeighbor (some (.ofOctets 192 0 2 1)),
        .interface { spineGroup with name := "swp1", peerGroup := some "SPINE" }] := by
    decide +kernel
  rw [active] at serves others warned
  obtain ⟨process, running, by_interface, by_address, -, peers, permuted, stand⟩ :=
    serves leafInstance (List.mem_singleton.mpr rfl)
  rw [interfaces] at by_interface
  rw [addresses] at by_address
  rw [valid] at stand
  obtain _ | ⟨of_address, _ | ⟨of_interface, ⟨⟩⟩⟩ := stand
  refine ⟨progress, converted, ⟨process, running, by_interface, by_address,
    ⟨_, permuted.mem_iff.mpr (by simp), PeerId.interface?_eq_some_iff.mp of_interface.interface,
      of_interface.group, of_interface.sendsEvpn.mpr ⟨rfl, rfl, _, rfl, rfl⟩, fun asn => ?_⟩,
    _, permuted.mem_iff.mpr (by simp), PeerId.address?_eq_some_iff.mp of_address.address,
      ?_, ?_, fun asn => ?_⟩, ?_, ?_⟩
  · rw [of_interface.remoteAsns]
    simp [NeighborSettings.MayHave, Neighbor.settings, spineGroup, leafInstance]
  · refine Option.not_isSome_iff_eq_none.mp fun announces => ?_
    obtain ⟨-, -, own, given, -⟩ := of_address.sendsEvpn.mp announces
    cases given
  · obtain ⟨family, active⟩ := Option.isSome_iff_exists.mp of_address.sendsIpv4
    refine ⟨family, active, (of_address.ipv4Unicast family active).2.trans ?_⟩
    decide +kernel
  · rw [of_address.remoteAsns]
    simp [NeighborSettings.MayHave, Neighbor.settings, borderNeighbor, eq_comm]
  · intro process running
    refine others "blue" process running fun inst member => ?_
    rw [List.mem_singleton.mp member]
    decide
  · rw [warned rfl, List.flatMap_singleton, skipped]

end Convert
end NeutralRouting
