import NeutralRouting.Proofs.Registration

/-!
# Peers of processes

Processes are built without peers, and every peer they get later is made from a neighbor of an
instance of the same VRF, whose policies are registered with it.
-/

namespace NeutralRouting

open Std Conversion

namespace BgpProcess

variable {process result : BgpProcess} {peer : BgpPeer}

/-- A peer is found under its own identity only, and the other peers stay. -/
theorem peer?_of_addPeer (added : process.addPeer peer = (result, .ok ())) (id : PeerId) :
    result.peer? id = if id = peer.id then some peer else process.peer? id := by
  rw [addPeer] at added
  split at added
  · cases added
  · cases added
    cases own : peer.id with
    | address key =>
        cases id with
        | address other =>
            have same : compare key other = .eq ↔ PeerId.address other = .address key := by
              rw [LawfulEqOrd.compare_eq_iff_eq, PeerId.address.injEq, eq_comm]
            simp only [peer?, ExtTreeMap.getElem?_insert, same]
        | interface other => rfl
    | interface key =>
        cases id with
        | address other => rfl
        | interface other =>
            have same : compare key other = .eq ↔ PeerId.interface other = .interface key := by
              rw [LawfulEqOrd.compare_eq_iff_eq, PeerId.interface.injEq, eq_comm]
            simp only [peer?, ExtTreeMap.getElem?_insert, same]

theorem mem_peers_iff : peer ∈ process.peers ↔ ∃ id, process.peer? id = some peer := by
  rw [peers, List.mem_append, Table.mem_values_iff, Table.mem_values_iff]
  constructor
  · rintro (⟨key, found⟩ | ⟨key, found⟩)
    · exact ⟨.address key, found⟩
    · exact ⟨.interface key, found⟩
  · rintro ⟨_ | _, found⟩
    · exact .inl ⟨_, found⟩
    · exact .inr ⟨_, found⟩

theorem addPeer_of_taken (taken : (process.peer? peer.id).isSome = true) :
    process.addPeer peer = (process, .error (.duplicateName .bgpPeer peer.id.text)) := by
  rw [addPeer, if_pos taken]

theorem exists_addPeer_of_free (free : ¬(process.peer? peer.id).isSome = true) :
    ∃ result, process.addPeer peer = (result, .ok ()) := by
  rw [addPeer, if_neg free]
  exact ⟨_, rfl⟩

theorem peer?_bare (routerId : Address) (ebgpAdmin ibgpAdmin : UInt32) (id : PeerId) :
    (bare routerId ebgpAdmin ibgpAdmin).peer? id = none := by
  cases id <;> simp [bare, peer?]

theorem peer?_instanceProcess (device : Device) (params : ConversionParams)
    (defaultInstance inst : BgpInstance) (id : PeerId) :
    (instanceProcess device params defaultInstance inst).peer? id = none := by
  cases id <;> simp [instanceProcess, bare, peer?]

end BgpProcess

namespace Configuration

/-- No process has a peer. -/
def Peerless (configuration : Configuration) : Prop :=
  ∀ (name : String) (process : BgpProcess), configuration.bgpProcess? name = some process →
    ∀ id, process.peer? id = none

/-- The peer is made from a neighbor, and the policies of that neighbor are registered. -/
def Explains (configuration : Configuration) (device : Device) (params : ConversionParams)
    (instances : BgpInstances) (vrf : String) (peer : BgpPeer) : Prop :=
  ∃ inst neighbor, (inst, neighbor) ∈ instances.neighbors ∧ inst.vrf = vrf ∧
    (neighbor.resolve inst.neighbors).peerId? = some peer.id ∧
    configuration.HasPeerPolicies inst (neighbor.resolve inst.neighbors).settings ∧
    ∃ earlier routerId remoteAsns, peer = instancePeer device params earlier inst routerId
      (neighbor.resolve inst.neighbors).settings peer.id remoteAsns

/-- Every peer is found under its own identity and made from a neighbor. -/
def ExplainsPeers (configuration : Configuration) (device : Device) (params : ConversionParams)
    (instances : BgpInstances) : Prop :=
  ∀ (name : String) (process : BgpProcess) (id : PeerId) (peer : BgpPeer),
    configuration.bgpProcess? name = some process → process.peer? id = some peer →
    peer.id = id ∧ configuration.Explains device params instances name peer

variable {before after : Configuration} {device : Device} {params : ConversionParams}
  {instances : BgpInstances}

theorem Explains.of_extends {vrf : String} {peer : BgpPeer}
    (explained : before.Explains device params instances vrf peer) (grows : Extends before after) :
    after.Explains device params instances vrf peer := by
  obtain ⟨inst, neighbor, member, same, identity, policies, made⟩ := explained
  exact ⟨inst, neighbor, member, same, identity, policies.of_extends grows, made⟩

theorem IsListed.peerless (listed : before.IsListed device) : before.Peerless := by
  intro name process running
  obtain ⟨vrf, found, own⟩ := bgpProcess?_eq_some_iff.mp running
  rw [listed.idle name vrf found] at own
  cases own

theorem Peerless.explainsPeers (peerless : before.Peerless) :
    before.ExplainsPeers device params instances := by
  intro name process id peer running found
  rw [peerless name process running id] at found
  cases found

theorem ExplainsPeers.of_same (explained : before.ExplainsPeers device params instances)
    (grows : Extends before after) (same : after.bgpProcess? = before.bgpProcess?) :
    after.ExplainsPeers device params instances := by
  intro name process id peer running found
  rw [same] at running
  obtain ⟨own, known⟩ := explained name process id peer running found
  exact ⟨own, known.of_extends grows⟩

/-- The process of a VRF after the VRF is replaced. -/
theorem bgpProcess?_of_insert {name : String} {vrf : Vrf}
    (changed : after.vrfs = before.vrfs.insert name vrf) (other : String) :
    after.bgpProcess? other = if other = name then vrf.bgp else before.bgpProcess? other := by
  have equal_iff : compare name other = .eq ↔ other = name := by
    rw [LawfulEqOrd.compare_eq_iff_eq, eq_comm]
  simp only [bgpProcess?, changed, ExtTreeMap.getElem?_insert, equal_iff]
  split <;> rfl

theorem bgpProcess?_of_updateVrf {name : String} {change : Vrf → Attempt Vrf}
    (updated : before.updateVrf name change = (after, .ok ()))
    (same : ∀ vrf result, change vrf = (result, .ok ()) → result.bgp = vrf.bgp) :
    after.bgpProcess? = before.bgpProcess? := by
  obtain ⟨vrf, result, found, changed, rfl⟩ := updateVrf_eq_ok_iff.mp updated
  funext other
  rw [bgpProcess?_of_insert rfl]
  split
  · next equal =>
      rw [same vrf result changed, equal, bgpProcess?, found]
      rfl
  · rfl

/-- What the peers of an instance have in common leaves processes alone. -/
theorem same_bgpProcess?_admitsShared : (Frame.same (·.bgpProcess?)).AdmitsShared where
  addPolicy _ added := by
    obtain ⟨-, rfl⟩ := policyShelf.add_eq_ok_iff.mp added
    rfl
  ensurePolicy _ _ _ := rfl
  addRouteFilterList added := by
    obtain ⟨-, rfl⟩ := routeFilterShelf.add_eq_ok_iff.mp added
    rfl
  addGeneratedRoute updated := by
    refine bgpProcess?_of_updateVrf updated ?_
    rintro vrf _ same
    cases same
    rfl

/-- Processes are built without peers. -/
theorem peerless_admitsProcesses : (Frame.invariant Peerless).AdmitsProcesses where
  addPolicy _ added peerless := by
    obtain ⟨-, rfl⟩ := policyShelf.add_eq_ok_iff.mp added
    exact peerless
  ensurePolicy _ _ _ peerless := peerless
  addRouteFilterList added peerless := by
    obtain ⟨-, rfl⟩ := routeFilterShelf.add_eq_ok_iff.mp added
    exact peerless
  addGeneratedRoute updated peerless := by
    intro name process running
    rw [bgpProcess?_of_updateVrf updated (by rintro vrf _ same; cases same; rfl)] at running
    exact peerless name process running
  setProcess updated peerless := by
    obtain ⟨vrf, result, found, changed, rfl⟩ := updateVrf_eq_ok_iff.mp updated
    cases changed
    intro name process running
    rw [bgpProcess?_of_insert rfl] at running
    split at running
    · cases running
      exact BgpProcess.peer?_instanceProcess _ _ _ _
    · exact peerless name process running
  addIdleProcesses device params before peerless := by
    rw [addIdleProcesses]
    cases before.bgpProcess? defaultVrfName with
    | none => exact peerless
    | some own =>
        intro name process running
        obtain ⟨vrf, found, own_process⟩ := bgpProcess?_eq_some_iff.mp running
        rw [ExtTreeMap.getElem?_map, Option.map_eq_some_iff] at found
        obtain ⟨earlier, found, changed⟩ := found
        split at changed
        · subst changed
          cases own_process
          exact BgpProcess.peer?_bare _ _ _
        · subst changed
          exact peerless name process (bgpProcess?_eq_some_iff.mpr ⟨earlier, found, own_process⟩)

/-- The policies of peers leave VRFs alone. -/
theorem same_vrfs_admitsPolicies : (Frame.same (·.vrfs)).AdmitsPolicies where
  addPolicy _ added := by
    obtain ⟨-, rfl⟩ := policyShelf.add_eq_ok_iff.mp added
    rfl
  ensurePolicy _ _ _ := rfl

end Configuration

section Neighbors

variable {instances : BgpInstances} {inst : BgpInstance} {neighbor : Neighbor}

theorem BgpInstances.mem_neighbors_iff {inst : BgpInstance} {neighbor : Neighbor} :
    (inst, neighbor) ∈ instances.neighbors ↔
      inst ∈ instances.all ∧ neighbor ∈ inst.neighbors.values := by
  rw [neighbors, List.mem_flatMap]
  constructor
  · rintro ⟨_, member, pair⟩
    obtain ⟨_, own, same⟩ := List.mem_map.mp pair
    cases same
    exact ⟨member, own⟩
  · rintro ⟨member, own⟩
    exact ⟨inst, member, List.mem_map.mpr ⟨neighbor, own, rfl⟩⟩

theorem NeighborSettings.name_resolve (settings : NeighborSettings) (table : NeighborTable) :
    (settings.resolve table).name = settings.name := by
  rw [resolve]
  induction (settings.groupChain table).groups generalizing settings with
  | nil => rfl
  | cons group groups ih => exact ih (settings.inherit group)

theorem Neighbor.name_resolve (neighbor : Neighbor) (table : NeighborTable) :
    (neighbor.resolve table).settings.name = neighbor.settings.name := by
  cases neighbor <;> exact NeighborSettings.name_resolve _ table

theorem Neighbor.eq_name_of_peerId? {name : String}
    (identity : (neighbor.resolve inst.neighbors).peerId? = some (.interface name)) :
    name = neighbor.settings.name := by
  cases neighbor with
  | interface settings =>
      rw [resolve, peerId?] at identity
      split at identity
      · cases identity
        exact settings.name_resolve _
      · cases identity
  | ip settings own =>
      rw [resolve, peerId?] at identity
      split at identity
      · obtain ⟨_, -, different⟩ := Option.map_eq_some_iff.mp identity
        cases different
      · cases identity
  | peerGroup settings => cases identity

/-- A neighbor with an identity is validly configured. -/
theorem Neighbor.isValid_of_peerId? {id : PeerId}
    (identity : (neighbor.resolve inst.neighbors).peerId? = some id) :
    neighbor.isPeerGroup = false ∧
      (∀ settings address, neighbor = .ip settings address → address.isSome = true) ∧
      (neighbor.resolve inst.neighbors).settings.isValid = true := by
  cases neighbor with
  | interface settings =>
      rw [resolve, peerId?] at identity
      split at identity
      · next valid =>
          refine ⟨rfl, ?_, valid⟩
          rintro _ _ ⟨⟩
      · cases identity
  | ip settings own =>
      rw [resolve, peerId?] at identity
      split at identity
      · next valid =>
          refine ⟨rfl, ?_, valid⟩
          rintro _ _ same
          cases same
          obtain ⟨_, rfl, -⟩ := Option.map_eq_some_iff.mp identity
          rfl
      · cases identity
  | peerGroup settings => cases identity

end Neighbors

section Attachment

variable {device : Device} {params : ConversionParams} {instances : BgpInstances}
  {before after : Progress}

/-- The steps of adding a peer, without its warnings. -/
theorem exists_steps_of_addInstancePeer {inst : BgpInstance} {routerId : Address}
    {settings : NeighborSettings} {id : PeerId}
    (run : (addInstancePeer device params inst routerId settings id).runFrom before =
      (.ok (), after)) :
    ∃ (start exported imported : Progress) (remoteAsns : AsnSpace),
      start.configuration = before.configuration ∧
        (addPeerExportPolicy device inst settings).runFrom start = (.ok (), exported) ∧
        (addPeerImportPolicy device inst settings).runFrom exported = (.ok (), imported) ∧
        imported.configuration.updateBgpProcess inst.vrf (·.addPeer (instancePeer device params
          before.configuration inst routerId settings id remoteAsns)) =
            (after.configuration, .ok ()) := by
  rw [addInstancePeer, runFrom_bind_of_ok _ (runFrom_configuration before),
    runFrom_bind_of_ok _ (runFrom_warnAll _ before)] at run
  obtain ⟨remoteAsns, start, required, run⟩ := runFrom_bind_eq_ok_iff.mp run
  obtain ⟨-, rfl⟩ := runFrom_require_eq_ok_iff.mp required
  obtain ⟨_, exported, exporting, run⟩ := runFrom_bind_eq_ok_iff.mp run
  obtain ⟨_, imported, importing, run⟩ := runFrom_bind_eq_ok_iff.mp run
  rw [runFrom_bind_of_ok _ (runFrom_warnAllOnce _ imported)] at run
  refine ⟨_, exported, imported, remoteAsns, ?_, exporting, importing,
    configuration_of_runFrom_store run⟩
  rfl

/-- Adding a peer registers its policies and puts it into the process of its VRF. -/
theorem exists_of_addInstancePeer {inst : BgpInstance} {routerId : Address}
    {settings : NeighborSettings} {id : PeerId}
    (run : (addInstancePeer device params inst routerId settings id).runFrom before =
      (.ok (), after)) (only : before.configuration.OnlyGenerated) :
    after.configuration.HasPeerPolicies inst settings ∧
      ∃ vrf process result remoteAsns, before.configuration.vrfs[inst.vrf]? = some vrf ∧
        vrf.bgp = some process ∧
        process.addPeer (instancePeer device params before.configuration inst routerId settings id
          remoteAsns) = (result, .ok ()) ∧
        after.configuration.vrfs =
          before.configuration.vrfs.insert inst.vrf { vrf with bgp := some result } := by
  obtain ⟨start, exported, imported, remoteAsns, same_start, exporting, importing, updated⟩ :=
    exists_steps_of_addInstancePeer run
  rw [← same_start] at only
  have grows := Configuration.extends_of_updateVrf updated
  have import_grows := growth_admitsBgp.keeps_addPeerImportPolicy device inst settings _ _ _
    importing
  obtain ⟨found, found_default⟩ := getElem?_of_addPeerExportPolicy exporting only
  refine ⟨⟨?_, ?_, ?_⟩, ?_⟩
  · exact grows.policies _ _ (import_grows.policies _ _ found)
  · exact fun originates =>
      grows.policies _ _ (import_grows.policies _ _ (found_default originates))
  · exact fun policy used => grows.policies _ _ (getElem?_of_addPeerImportPolicy importing used)
  · have same_first := Configuration.same_vrfs_admitsPolicies.keeps_addPeerExportPolicy
      device inst settings _ _ _ exporting
    have same_second := Configuration.same_vrfs_admitsPolicies.keeps_addPeerImportPolicy
      device inst settings _ _ _ importing
    have same_vrfs : imported.configuration.vrfs = before.configuration.vrfs :=
      (same_second.trans same_first).trans (congrArg (·.vrfs) same_start)
    obtain ⟨vrf, process, result, found, running, added, changed⟩ :=
      Configuration.updateBgpProcess_eq_ok_iff.mp updated
    rw [same_vrfs] at found changed
    exact ⟨vrf, process, result, remoteAsns, found, running, added, by rw [← changed]⟩

/-- Attaching a neighbor adds peers only with the policies they need. -/
theorem explainsPeers_of_attachNeighbor {inst : BgpInstance} {neighbor : Neighbor}
    (member : (inst, neighbor) ∈ instances.neighbors)
    (run : (attachNeighbor device params inst neighbor).runFrom before = (.ok (), after))
    (only : before.configuration.OnlyGenerated)
    (explained : before.configuration.ExplainsPeers device params instances) :
    after.configuration.ExplainsPeers device params instances := by
  obtain ⟨configuration, start, asked, run⟩ := runFrom_bind_eq_ok_iff.mp run
  cases asked
  split at run
  · cases run
    exact explained
  · split at run
    · cases run
      exact explained
    · dsimp only at run
      split at run
      · next process _ _ id identity =>
          obtain ⟨policies, vrf, process, result, remoteAsns, found, running, added, changed⟩ :=
            exists_of_addInstancePeer run only
          have grows := growth_admitsBgp.keeps_addInstancePeer device params inst _ _ _ _ _ _ run
          intro name current other peer current_running peer_found
          rw [Configuration.bgpProcess?_of_insert changed] at current_running
          split at current_running
          · next same_vrf =>
              cases current_running
              rw [BgpProcess.peer?_of_addPeer added] at peer_found
              split at peer_found
              · next own =>
                  cases peer_found
                  exact ⟨own.symm, inst, neighbor, member, same_vrf.symm, identity, policies,
                    before.configuration, _, remoteAsns, rfl⟩
              · have old_running : before.configuration.bgpProcess? name = some process := by
                  rw [same_vrf]
                  exact Configuration.bgpProcess?_eq_some_iff.mpr ⟨vrf, found, running⟩
                obtain ⟨own, known⟩ := explained name process other peer old_running peer_found
                exact ⟨own, known.of_extends grows⟩
          · obtain ⟨own, known⟩ := explained name current other peer current_running peer_found
            exact ⟨own, known.of_extends grows⟩
      · cases run
        exact explained

theorem explainsPeers_of_attachNeighbors
    (run : (attachNeighbors device params instances).runFrom before = (.ok (), after))
    (only : before.configuration.OnlyGenerated) (peerless : before.configuration.Peerless) :
    after.configuration.ExplainsPeers device params instances := by
  have both := made_of_runFrom_forM (fun _ configuration => configuration.OnlyGenerated ∧
    configuration.ExplainsPeers device params instances) ?_ run ⟨only, peerless.explainsPeers⟩
  · exact both.2
  · rintro done ⟨inst, neighbor⟩ rest split start next here ⟨only, explained⟩
    have member : (inst, neighbor) ∈ instances.neighbors := by
      rw [split]
      simp
    exact ⟨Configuration.onlyGenerated_admitsBgp.keeps_attachNeighbor device params inst neighbor
      _ _ _ here only, explainsPeers_of_attachNeighbor member here only explained⟩

/-- What is done for OSPF leaves BGP processes alone. -/
theorem same_bgpProcess?_admitsOspf : (Frame.same (·.bgpProcess?)).AdmitsOspf where
  setProcess updated := Configuration.bgpProcess?_of_updateVrf updated (by
    rintro vrf _ same
    cases same
    rfl)
  modifyInterface _ _ _ := rfl

theorem same_bgpProcess?_keeps_convertRouteMaps (device : Device) (compile : RouteMapCompiler) :
    (Frame.same (·.bgpProcess?)).Keeps (convertRouteMaps compile device) := by
  refine .forM fun map _ => Frame.keeps_addRouteMapPolicy device compile map fun added => ?_
  obtain ⟨-, rfl⟩ := Configuration.policyShelf.add_eq_ok_iff.mp added
  rfl

/-- The phases after BGP leave its processes alone. -/
theorem bgpProcess?_of_later_phases {compile : RouteMapCompiler} {start : Progress}
    (ospf_run : (convertOspf device params).runFrom before = (.ok (), start))
    (maps_run : (convertRouteMaps compile device).runFrom start = (.ok (), after)) :
    after.configuration.bgpProcess? = before.configuration.bgpProcess? :=
  (same_bgpProcess?_keeps_convertRouteMaps device compile _ _ _ maps_run).trans
    (same_bgpProcess?_admitsOspf.keeps_convertOspf device params _ _ _ ospf_run)

end Attachment
end NeutralRouting
