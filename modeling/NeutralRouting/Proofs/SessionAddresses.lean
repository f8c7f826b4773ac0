import NeutralRouting.Proofs.AttachedPeers
import NeutralRouting.Proofs.LocalAddresses
import NeutralRouting.Proofs.Skeleton

/-!
# Local addresses of attached peers

Attaching neighbors gives every IP peer the local address that the configuration chooses for it,
and complains once about every update source that has no address.
-/

namespace NeutralRouting

open Std Conversion

namespace Configuration

/-- The peer with an address in a VRF. -/
def activePeer? (configuration : Configuration) (vrf : String) (peer : Address) :
    Option BgpPeer :=
  configuration.bgpProcess? vrf >>= (·.activePeers[peer]?)

/-- The neighbor is validly configured and has an address, and the VRF of its instance has a
process. -/
structure Admits (configuration : Configuration) (pair : BgpInstance × Neighbor)
    (settings : NeighborSettings) (peer : Address) : Prop where
  running : ∃ process, configuration.bgpProcess? pair.1.vrf = some process
  resolved : pair.2.resolve pair.1.neighbors = .ip settings (some peer)
  named : settings.namesAs = true

/-- The process of a VRF has the peer, under its identity. -/
def HasPeer (configuration : Configuration) (vrf : String) (peer : BgpPeer) : Prop :=
  ∃ process, configuration.bgpProcess? vrf = some process ∧ process.peer? peer.id = some peer

end Configuration

section Changes

variable {vrf : String} {peer : BgpPeer} {before after : Configuration}

/-- A change removes no peer, and it brings the one that it adds. -/
theorem hasPeer_of_make? {change : PeerChange} (made : change.make? before = some after)
    (has : before.HasPeer vrf peer ∨ change = .addPeer vrf peer) : after.HasPeer vrf peer := by
  obtain ⟨same, no_peer⟩ | ⟨name, fresh, current, result, rfl, own, added, processes⟩ :=
    PeerChange.make?_cases made
  · rcases has with ⟨process, running, present⟩ | rfl
    · exact ⟨process, by rwa [same], present⟩
    · have own := no_peer vrf
      rw [PeerChange.peerIn?, if_pos rfl] at own
      cases own
  · rw [Configuration.HasPeer, processes]
    rcases has with ⟨process, running, present⟩ | same
    · by_cases same : vrf = name
      · subst same
        cases running.symm.trans own
        refine ⟨result, if_pos rfl, ?_⟩
        rw [BgpProcess.peer?_of_addPeer added, if_neg, present]
        intro taken
        rw [BgpProcess.addPeer_of_taken (by rw [← taken, present]; rfl)] at added
        cases added
      · exact ⟨process, by rwa [if_neg same], present⟩
    · cases same
      exact ⟨result, if_pos rfl, by rw [BgpProcess.peer?_of_addPeer added, if_pos rfl]⟩

/-- The peers that are added by changes are there in the end. -/
theorem hasPeer_of_makeAll? {changes : List PeerChange}
    (made : PeerChange.makeAll? changes before = some after)
    (has : before.HasPeer vrf peer ∨ .addPeer vrf peer ∈ changes) : after.HasPeer vrf peer := by
  induction changes generalizing before with
  | nil =>
      cases made
      simpa using has
  | cons change changes ih =>
      rw [PeerChange.makeAll?, List.foldlM_cons, Option.bind_eq_bind,
        Option.bind_eq_some_iff] at made
      obtain ⟨middle, first, rest⟩ := made
      refine ih rest ?_
      rcases has with there | member
      · exact .inl (hasPeer_of_make? first (.inl there))
      · rcases List.mem_cons.mp member with same | later
        · exact .inl (hasPeer_of_make? first (.inr same.symm))
        · exact .inr later

end Changes

section Neighbors

variable {device : Device} {params : ConversionParams} {configuration : Configuration}
  {pair : BgpInstance × Neighbor} {settings : NeighborSettings} {peer : Address}

theorem Configuration.Admits.peerId?_eq (admits : configuration.Admits pair settings peer) :
    (pair.2.resolve pair.1.neighbors).peerId? = some (.address peer) := by
  rw [admits.resolved, Neighbor.peerId?, NeighborSettings.isValid_eq_namesAs,
    if_pos admits.named, Option.map_some]

/-- A neighbor with the identity of an address is validly configured with that address. -/
theorem Neighbor.eq_ip_of_peerId? {neighbor : Neighbor}
    (identity : neighbor.peerId? = some (.address peer)) :
    neighbor = .ip neighbor.settings (some peer) ∧ neighbor.settings.namesAs = true := by
  cases neighbor with
  | interface settings =>
      rw [peerId?] at identity
      split at identity <;> cases identity
  | ip settings own =>
      rw [peerId?] at identity
      split at identity
      · next valid =>
          obtain ⟨address, rfl, same⟩ := Option.map_eq_some_iff.mp identity
          cases same
          exact ⟨rfl, valid⟩
      · cases identity
  | peerGroup settings => cases identity

/-- The complaint about the update source of a neighbor that becomes an IP peer. -/
def attachmentComplaint? (configuration : Configuration) (pair : BgpInstance × Neighbor) :
    Option String := do
  let _ ← configuration.bgpProcess? pair.1.vrf
  let id ← (pair.2.resolve pair.1.neighbors).peerId?
  let _ ← id.address?
  sourceComplaint? configuration (pair.2.resolve pair.1.neighbors).settings

theorem attachmentComplaint?_eq_some_iff {complaint : String} :
    attachmentComplaint? configuration pair = some complaint ↔
      ∃ settings peer source fault, configuration.Admits pair settings peer ∧
        settings.updateSource = some source ∧ source.Fails configuration fault ∧
        fault.message settings.name = complaint := by
  simp only [attachmentComplaint?, Option.bind_eq_bind, Option.bind_eq_some_iff,
    sourceComplaint?_eq_some_iff]
  constructor
  · rintro ⟨process, running, id, identity, peer, address, source, fault, fails⟩
    cases id with
    | address key =>
        cases address
        obtain ⟨resolved, valid⟩ := Neighbor.eq_ip_of_peerId? identity
        exact ⟨_, peer, source, fault, ⟨⟨process, running⟩, resolved, valid⟩, fails⟩
    | interface name => cases address
  · rintro ⟨settings, peer, source, fault, admits, fails⟩
    obtain ⟨process, running⟩ := admits.running
    refine ⟨process, running, .address peer, admits.peerId?_eq, peer, rfl, source, fault, ?_⟩
    rwa [admits.resolved]

/-- What the effect of a neighbor complains about update sources. -/
theorem filter_sessionOpening_of_attachment? {effect : Effect}
    (known : attachment? device params configuration pair = some effect) :
    effect.warnings.filter (startsWith sessionOpening) =
      (attachmentComplaint? configuration pair).toList := by
  rw [attachment?] at known
  split at known
  · next idle =>
      cases known
      simp [attachmentComplaint?, idle, Effect.nothing]
  · next process running =>
      split at known
      · next no_peer =>
          cases known
          simp only [attachmentComplaint?, running, no_peer, Option.bind_eq_bind,
            Option.bind_some, Option.bind_none, Option.toList_none]
          exact (allStart_skipWarnings _).filter_eq_nil (by decide)
      · next id identity =>
          obtain ⟨remoteAsns, -, rfl⟩ := Option.map_eq_some_iff.mp known
          rw [peerEffect, List.filter_append, List.filter_append,
            (allStart_sessionWarnings id).filter_eq_self,
            Device.allStart_undefinedUses.filter_eq_nil (by decide),
            allStart_evpnWarnings.filter_eq_nil (by decide), List.append_nil, List.append_nil]
          simp only [attachmentComplaint?, running, identity, Option.bind_eq_bind,
            Option.bind_some]
          cases id with
          | address key => exact updateSourceWarnings_eq
          | interface name => rfl

/-- A neighbor that is admitted brings a peer with the chosen local address. -/
theorem exists_addPeer_of_attachment? {effect : Effect}
    (known : attachment? device params configuration pair = some effect)
    (admits : configuration.Admits pair settings peer) :
    ∃ attached : BgpPeer, attached.id = .address peer ∧
      attached.localAddress = localAddress? configuration pair.1.vrf settings peer ∧
      .addPeer pair.1.vrf attached ∈ effect.changes := by
  obtain ⟨process, running⟩ := admits.running
  simp only [attachment?, running, admits.peerId?_eq] at known
  obtain ⟨remoteAsns, -, rfl⟩ := Option.map_eq_some_iff.mp known
  refine ⟨_, ?_, ?_, List.mem_append_right _ (List.mem_singleton.mpr rfl)⟩
  · rfl
  · rw [admits.resolved]
    rfl

end Neighbors

section Runs

variable {device : Device} {params : ConversionParams} {instances : BgpInstances}
  {before after : Progress} {pair : BgpInstance × Neighbor} {settings : NeighborSettings}
  {peer : Address}

/-- Attaching neighbors makes a peer of every one that is admitted, with the chosen local
address. -/
theorem exists_activePeer?_of_attachNeighbors
    (run : (attachNeighbors device params instances).runFrom before = (.ok (), after))
    (listed : pair ∈ instances.neighbors)
    (admits : before.configuration.Admits pair settings peer) :
    ∃ attached, after.configuration.activePeer? pair.1.vrf peer = some attached ∧
      attached.localAddress = localAddress? before.configuration pair.1.vrf settings peer := by
  obtain ⟨known, ran⟩ := runFrom_attachNeighbors_eq_ok_iff.mp run
  obtain ⟨configuration, made, rfl⟩ := Option.map_eq_some_iff.mp ran
  obtain ⟨effect, own⟩ := Option.isSome_iff_exists.mp (known pair listed)
  obtain ⟨attached, id, chosen, member⟩ := exists_addPeer_of_attachment? own admits
  have changes : .addPeer pair.1.vrf attached ∈
      (effectsOf device params before.configuration instances.neighbors).changes :=
    List.mem_flatMap.mpr ⟨effect, List.mem_filterMap.mpr ⟨pair, listed, own⟩, member⟩
  obtain ⟨process, running, present⟩ := hasPeer_of_makeAll? made (.inr changes)
  rw [id] at present
  exact ⟨attached, Option.bind_eq_some_iff.mpr ⟨process, running, present⟩, chosen⟩

/-- Attaching neighbors complains about the update sources that fail, one after the other. -/
theorem starting_sessionOpening_of_attachNeighbors
    (run : (attachNeighbors device params instances).runFrom before = (.ok (), after)) :
    after.warnings.starting sessionOpening = before.warnings.starting sessionOpening ++
      instances.neighbors.filterMap (attachmentComplaint? before.configuration) := by
  obtain ⟨known, ran⟩ := runFrom_attachNeighbors_eq_ok_iff.mp run
  obtain ⟨configuration, -, rfl⟩ := Option.map_eq_some_iff.mp ran
  rw [List.filterMap_eq_flatMap_toList, ← filter_warnings_effectsOf
    (fun pair effect own => filter_sessionOpening_of_attachment? own) known]
  exact Warnings.starting_foldl_note (by decide) _ _

/-- Every validly configured neighbor with an address gets the local address that is chosen for it,
and an update source that fails is complained about once. -/
theorem attachNeighbors_chooses_localAddress
    (run : (attachNeighbors device params instances).runFrom before = (.ok (), after)) :
    (∀ pair ∈ instances.neighbors, ∀ settings peer,
      before.configuration.Admits pair settings peer →
        ∃ attached, after.configuration.activePeer? pair.1.vrf peer = some attached ∧
          ∀ chosen, before.configuration.Chooses pair.1.vrf settings peer chosen ↔
            attached.localAddress = chosen) ∧
    (∃ complaint? : BgpInstance × Neighbor → Option String,
      (∀ pair complaint, complaint? pair = some complaint ↔
        ∃ settings peer source fault, before.configuration.Admits pair settings peer ∧
          settings.updateSource = some source ∧ source.Fails before.configuration fault ∧
          fault.message settings.name = complaint) ∧
      after.warnings.starting "Cannot find " = before.warnings.starting "Cannot find " ++
        instances.neighbors.filterMap complaint?) ∧
    ∀ (other : Device) (otherParams : ConversionParams) (others : BgpInstances)
      (start finish : Progress),
      (attachNeighbors other otherParams others).runFrom start = (.ok (), finish) →
      start.configuration.interfaces = before.configuration.interfaces →
      ∀ pair ∈ instances.neighbors, ∀ same ∈ others.neighbors, ∀ settings plain peer,
        before.configuration.Admits pair settings peer →
        start.configuration.Admits same plain peer → same.1.vrf = pair.1.vrf →
        (∃ source fault, settings.updateSource = some source ∧
          source.Fails before.configuration fault) →
        plain.updateSource = none →
        ∃ attached unsourced, after.configuration.activePeer? pair.1.vrf peer = some attached ∧
          finish.configuration.activePeer? pair.1.vrf peer = some unsourced ∧
          attached.localAddress = unsourced.localAddress := by
  refine ⟨fun pair listed settings peer admits => ?chosen,
    ⟨_, fun _ _ => attachmentComplaint?_eq_some_iff,
      starting_sessionOpening_of_attachNeighbors run⟩, ?unsourced⟩
  case chosen =>
    obtain ⟨attached, present, address⟩ := exists_activePeer?_of_attachNeighbors run listed admits
    refine ⟨attached, present, fun chosen => ?_⟩
    rw [address]
    exact Configuration.chooses_iff
  case unsourced =>
    intro other otherParams others start finish run_again same_interfaces pair listed same
      listed_too settings plain peer admits admits_too same_vrf ⟨source, fault, configured, fails⟩
      no_source
    obtain ⟨attached, present, address⟩ := exists_activePeer?_of_attachNeighbors run listed admits
    obtain ⟨unsourced, present_too, address_too⟩ :=
      exists_activePeer?_of_attachNeighbors run_again listed_too admits_too
    rw [same_vrf] at present_too address_too
    refine ⟨attached, unsourced, present, present_too, ?_⟩
    have all_fail : ∀ source, settings.updateSource = some source →
        ∃ fault, source.Fails before.configuration fault := by
      intro own configured_too
      cases configured.symm.trans configured_too
      exact ⟨fault, fails⟩
    have none_fails : ∀ source, plain.updateSource = some source →
        ∃ fault, source.Fails start.configuration fault := by
      intro source configured_too
      cases no_source.symm.trans configured_too
    rw [address, address_too, localAddress?_eq_subnetAddress? all_fail,
      localAddress?_eq_subnetAddress? none_fails, subnetAddress?, subnetAddress?,
      Configuration.interfacesIn, Configuration.interfacesIn, same_interfaces]

end Runs

section Link

/-- A neighbor at the other end of a point-to-point link, whose update source may be set. -/
def linkNeighbor (updateSource : Option UpdateSource) : NeighborSettings :=
  { NeighborSettings.unset "10.0.0.0" with
    remoteAsType := some .external
    updateSource := updateSource }

/-- The instance of a leaf switch with this neighbor only. -/
def linkInstance (updateSource : Option UpdateSource) : BgpInstance :=
  { leafInstance with
    neighbors := (∅ : NeighborTable).insert "10.0.0.0"
      (.ip (linkNeighbor updateSource) (some (.ofOctets 10 0 0 0))) }

/-- The link is the primary address of the second interface, whose secondary one and the first
interface, of another VRF, also share a subnet with the neighbor. -/
def linkConfiguration : Configuration :=
  { Configuration.initial "leaf" with
    vrfs := (∅ : ExtTreeMap String Vrf).insert defaultVrfName
      { Vrf.bare defaultVrfName with bgp := some (.bare (.ofOctets 192 0 2 254) 20 200) }
    interfaces := ((∅ : ExtTreeMap String Interface).insert "swp1"
      (.ofAddresses "swp1" "red" [⟨.ofOctets 10 0 0 5, 29, by decide⟩])).insert "swp2"
      (.ofAddresses "swp2" defaultVrfName
        [⟨.ofOctets 10 0 0 1, 31, by decide⟩, ⟨.ofOctets 10 0 0 7, 27, by decide⟩]) }

theorem linkConfiguration_admits (updateSource : Option UpdateSource) :
    linkConfiguration.Admits
      (linkInstance updateSource, .ip (linkNeighbor updateSource) (some (.ofOctets 10 0 0 0)))
      (linkNeighbor updateSource) (.ofOctets 10 0 0 0) where
  running :=
    have running : linkConfiguration.bgpProcess? defaultVrfName =
        some (.bare (.ofOctets 192 0 2 254) 20 200) := by decide +kernel
    ⟨_, running⟩
  resolved := by
    rw [Neighbor.resolve, NeighborSettings.resolve, NeighborSettings.groupChain, linkNeighbor,
      NeighborSettings.unset, NeighborTable.chainFrom]
    rfl
  named := rfl

/-- An update source without an interface is complained about, and the primary address of the link
is used, as it is without an update source. -/
theorem attachNeighbors_link_chooses_localAddress :
    ∃ after finish attached unsourced,
      (attachNeighbors leafSwitch .standard ⟨linkInstance (some (.interface "gone")), ∅⟩).runFrom
        ⟨linkConfiguration, .empty⟩ = (.ok (), after) ∧
      (attachNeighbors leafSwitch .standard ⟨linkInstance none, ∅⟩).runFrom
        ⟨linkConfiguration, .empty⟩ = (.ok (), finish) ∧
      after.configuration.activePeer? defaultVrfName (.ofOctets 10 0 0 0) = some attached ∧
      finish.configuration.activePeer? defaultVrfName (.ofOctets 10 0 0 0) = some unsourced ∧
      (linkConfiguration.interfaces["swp2"]? >>= (·.primary)).map (·.address) =
        some (.ofOctets 10 0 0 1) ∧
      attached.localAddress = some (.ofOctets 10 0 0 1) ∧
      unsourced.localAddress = some (.ofOctets 10 0 0 1) ∧
      "Cannot find interface named gone for update-source of BGP neighbor 10.0.0.0" ∈
        after.warnings.starting "Cannot find " := by
  obtain ⟨after, run⟩ := exists_run_of_isOk (show ((attachNeighbors leafSwitch .standard
    ⟨linkInstance (some (.interface "gone")), ∅⟩).runFrom ⟨linkConfiguration, .empty⟩).1.isOk =
      true by decide +kernel)
  obtain ⟨finish, run_again⟩ := exists_run_of_isOk (show ((attachNeighbors leafSwitch .standard
    ⟨linkInstance none, ∅⟩).runFrom ⟨linkConfiguration, .empty⟩).1.isOk = true by
      decide +kernel)
  have listed : ∀ updateSource,
      (linkInstance updateSource, .ip (linkNeighbor updateSource) (some (.ofOctets 10 0 0 0))) ∈
        BgpInstances.neighbors ⟨linkInstance updateSource, ∅⟩ := by
    intro updateSource
    exact BgpInstances.mem_neighbors_iff.mpr ⟨List.mem_cons_self,
      Table.mem_values_iff.mpr ⟨"10.0.0.0", ExtTreeMap.getElem?_insert_self⟩⟩
  have fails : (UpdateSource.interface "gone").Fails linkConfiguration (.noInterface "gone") :=
    .noInterface (by decide +kernel)
  have admits := linkConfiguration_admits
  obtain ⟨chooses, ⟨complaint?, complains, warned⟩, unsourced⟩ :=
    attachNeighbors_chooses_localAddress run
  obtain ⟨attached, unsourced, present, present_too, same⟩ := unsourced leafSwitch _ _ _ _ run_again
    rfl _ (listed _) _ (listed _) _ _ _ (admits _) (admits _) rfl ⟨_, _, rfl, fails⟩ rfl
  have chosen : linkConfiguration.Chooses defaultVrfName (linkNeighbor (some (.interface "gone")))
      (.ofOctets 10 0 0 0) (some (.ofOctets 10 0 0 1)) :=
    Configuration.chooses_iff.mpr (by decide +kernel)
  have address : attached.localAddress = some (.ofOctets 10 0 0 1) := by
    obtain ⟨other, other_present, choice⟩ := chooses _ (listed _) _ _ (admits _)
    cases other_present.symm.trans present
    exact (choice _).mp chosen
  refine ⟨after, finish, attached, unsourced, run, run_again, present, present_too,
    by decide +kernel, address, same.symm.trans address, ?_⟩
  rw [warned]
  refine List.mem_append_right _ (List.mem_filterMap.mpr ⟨_, listed _, (complains _ _).mpr
    ⟨_, _, _, _, admits _, rfl, fails, ?_⟩⟩)
  rfl

end Link

end NeutralRouting
