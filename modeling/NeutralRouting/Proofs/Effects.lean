import Mathlib.Data.List.Basic
import NeutralRouting.Proofs.PeerChanges
import NeutralRouting.Proofs.UndefinedRouteMaps

/-!
# Effects of attaching neighbors

What attaching a neighbor does is decided by a part of the configuration that no attached neighbor
changes.  The effects of all neighbors are therefore known before the first one is attached.
-/

namespace NeutralRouting

open Std Conversion

/-- A process without its peers. -/
def BgpProcess.withoutPeers (process : BgpProcess) : BgpProcess :=
  { process with activePeers := ∅, interfacePeers := ∅ }

theorem BgpProcess.withoutPeers_of_addPeer {process result : BgpProcess} {peer : BgpPeer}
    (added : process.addPeer peer = (result, .ok ())) :
    result.withoutPeers = process.withoutPeers := by
  rw [addPeer] at added
  split at added
  · cases added
  · cases added
    cases peer.id <;> rfl

theorem BgpProcess.routerId_of_withoutPeers_eq {process result : BgpProcess}
    (same : result.withoutPeers = process.withoutPeers) : result.routerId = process.routerId :=
  congrArg (·.routerId) same

/-- What attaching neighbors looks up in a configuration. -/
structure Outlook where
  interfaces : ExtTreeMap String Interface
  /-- The bridged segments of a VRF. -/
  segments : String → Option (ExtTreeMap UInt32 Layer2Vni)
  /-- The router id of the process of a VRF. -/
  routerId? : String → Option Address

namespace Configuration

/-- The outlook that a configuration gives. -/
def outlook (configuration : Configuration) : Outlook where
  interfaces := configuration.interfaces
  segments vrf := configuration.vrfs[vrf]?.map (·.layer2Vnis)
  routerId? vrf := (configuration.bgpProcess? vrf).map (·.routerId)

/-- The outlook stays if a VRF keeps its bridged segments and the router id of its process. -/
theorem outlook_of_insert {configuration : Configuration} {name : String} {vrf changed : Vrf}
    (found : configuration.vrfs[name]? = some vrf)
    (segments : changed.layer2Vnis = vrf.layer2Vnis)
    (routerId : changed.bgp.map (·.routerId) = vrf.bgp.map (·.routerId)) :
    { configuration with vrfs := configuration.vrfs.insert name changed }.outlook =
      configuration.outlook := by
  have all_segments : ∀ other : String,
      (configuration.vrfs.insert name changed)[other]?.map Vrf.layer2Vnis =
        configuration.vrfs[other]?.map Vrf.layer2Vnis := by
    intro other
    rw [ExtTreeMap.getElem?_insert]
    split
    · next same =>
        rw [← LawfulEqOrd.eq_of_compare same, found, Option.map_some, Option.map_some, segments]
    · rfl
  have all_routerIds : ∀ other : String,
      ({ configuration with vrfs := configuration.vrfs.insert name changed }.bgpProcess?
        other).map BgpProcess.routerId =
          (configuration.bgpProcess? other).map BgpProcess.routerId := by
    intro other
    rw [bgpProcess?_of_insert rfl]
    split
    · next same =>
        rw [routerId, same, bgpProcess?, found]
        rfl
    · rfl
  rw [outlook, outlook]
  simp only [all_segments, all_routerIds]

/-- Changes that are made for peers leave the outlook alone. -/
theorem outlook_of_make? {change : PeerChange} {before after : Configuration}
    (made : change.make? before = some after) : after.outlook = before.outlook := by
  cases change with
  | allowDefaultRoute vrf peer =>
      rw [PeerChange.make?_allowDefaultRoute] at made
      cases made
      rfl
  | addPolicy policy =>
      rw [PeerChange.make?_addPolicy, Attempt.result?_eq_some_iff] at made
      obtain ⟨-, rfl⟩ := policyShelf.add_eq_ok_iff.mp made
      rfl
  | addPeer name peer =>
      rw [PeerChange.make?_addPeer, Attempt.result?_eq_some_iff] at made
      obtain ⟨vrf, process, result, found, running, added, rfl⟩ :=
        updateBgpProcess_eq_ok_iff.mp made
      refine outlook_of_insert found rfl ?_
      rw [running, Option.map_some, Option.map_some,
        BgpProcess.routerId_of_withoutPeers_eq (BgpProcess.withoutPeers_of_addPeer added)]

theorem outlook_of_makeAll? {changes : List PeerChange} {before after : Configuration}
    (made : PeerChange.makeAll? changes before = some after) :
    after.outlook = before.outlook := by
  induction changes generalizing before with
  | nil =>
      cases made
      rfl
  | cons change changes ih =>
      rw [PeerChange.makeAll?, List.foldlM_cons, Option.bind_eq_bind,
        Option.bind_eq_some_iff] at made
      obtain ⟨middle, first, rest⟩ := made
      rw [ih rest, outlook_of_make? first]

variable {first second : Configuration}

theorem find_of_interfaces_eq (same : first.interfaces = second.interfaces)
    (source : UpdateSource) : source.find first = source.find second := by
  cases source with
  | address source => rfl
  | interface name => rw [UpdateSource.find, UpdateSource.find, same]

theorem sessionAddress?_of_interfaces_eq (same : first.interfaces = second.interfaces)
    (vrf : String) (settings : NeighborSettings) (id : PeerId) :
    sessionAddress? first vrf settings id = sessionAddress? second vrf settings id := by
  cases id with
  | interface name => rfl
  | address peer =>
      simp only [sessionAddress?, localAddress?, find_of_interfaces_eq same, subnetAddress?,
        interfacesIn, same]

variable (same : first.outlook = second.outlook)
include same

theorem interfaces_of_outlook_eq : first.interfaces = second.interfaces :=
  congrArg Outlook.interfaces same

theorem routerId?_of_outlook_eq (vrf : String) :
    (first.bgpProcess? vrf).map (·.routerId) = (second.bgpProcess? vrf).map (·.routerId) :=
  congrFun (congrArg Outlook.routerId? same) vrf

theorem bridgedVnis_of_outlook_eq (inst : BgpInstance) :
    bridgedVnis first inst = bridgedVnis second inst := by
  have segments : ∀ configuration : Configuration, bridgedVnis configuration inst =
      ((configuration.outlook.segments inst.vrf).map (·.keys)).getD [] := by
    intro configuration
    cases found : configuration.vrfs[inst.vrf]? <;> simp [bridgedVnis, outlook, found]
  rw [segments, segments, same]

theorem evpnWarnings_of_outlook_eq (device : Device) (inst : BgpInstance)
    (settings : NeighborSettings) :
    evpnWarnings device first inst settings = evpnWarnings device second inst settings := by
  rw [evpnWarnings, evpnWarnings, bridgedVnis_of_outlook_eq same]

theorem sessionWarnings_of_outlook_eq (settings : NeighborSettings) (id : PeerId) :
    sessionWarnings first settings id = sessionWarnings second settings id := by
  cases id with
  | interface name => rfl
  | address peer => simp only [sessionWarnings, updateSourceWarnings,
      find_of_interfaces_eq (interfaces_of_outlook_eq same)]

theorem instancePeer_of_outlook_eq (device : Device) (params : ConversionParams)
    (inst : BgpInstance) (routerId : Address) (settings : NeighborSettings) (id : PeerId)
    (remoteAsns : AsnSpace) :
    instancePeer device params first inst routerId settings id remoteAsns =
      instancePeer device params second inst routerId settings id remoteAsns := by
  have session := sessionAddress?_of_interfaces_eq (interfaces_of_outlook_eq same) inst.vrf
    settings id
  have announcement : ∀ asn, layer3Announcement? device first asn routerId =
      layer3Announcement? device second asn routerId := by
    intro asn
    funext vrf
    simp only [layer3Announcement?, routerId?_of_outlook_eq same]
  simp only [instancePeer, session, evpnFamily?, bridgedVnis_of_outlook_eq same, announcement]

end Configuration

/-- Record a warning the way attaching neighbors does: one about a VNI is not repeated. -/
def Warnings.note (warnings : Warnings) (warning : String) : Warnings :=
  if startsWith vniOpening warning then warnings.flagOnce warning else warnings.flag warning

/-- What a step does: the changes it makes and the warnings it records, each in order. -/
structure Effect where
  changes : List PeerChange
  warnings : List String

namespace Effect

/-- Nothing is done. -/
def nothing : Effect := ⟨[], []⟩

/-- One effect after the other. -/
def append (first second : Effect) : Effect :=
  ⟨first.changes ++ second.changes, first.warnings ++ second.warnings⟩

/-- Effects one after the other. -/
def all (effects : List Effect) : Effect :=
  ⟨effects.flatMap (·.changes), effects.flatMap (·.warnings)⟩

/-- Where an effect leads, unless one of its changes is refused. -/
def run? (effect : Effect) (before : Progress) : Option Progress :=
  (PeerChange.makeAll? effect.changes before.configuration).map fun configuration =>
    ⟨configuration, effect.warnings.foldl Warnings.note before.warnings⟩

theorem run?_append (first second : Effect) (before : Progress) :
    (first.append second).run? before = (first.run? before).bind second.run? := by
  have both : PeerChange.makeAll? (first.append second).changes before.configuration =
      (PeerChange.makeAll? first.changes before.configuration).bind
        (PeerChange.makeAll? second.changes) :=
    List.foldlM_append
  rw [run?, both]
  cases made : PeerChange.makeAll? first.changes before.configuration <;>
    simp [run?, append, made, List.foldl_append]

theorem all_cons (effect : Effect) (effects : List Effect) :
    all (effect :: effects) = effect.append (all effects) := by
  simp only [all, append, List.flatMap_cons]

/-- The outlook is the same after an effect. -/
theorem outlook_of_run? {effect : Effect} {before after : Progress}
    (ran : effect.run? before = some after) :
    after.configuration.outlook = before.configuration.outlook := by
  obtain ⟨configuration, made, rfl⟩ := Option.map_eq_some_iff.mp ran
  exact Configuration.outlook_of_makeAll? made

end Effect

/-- A step has the effect, and it fails where the effect is refused. -/
def Conversion.Performs (step : Conversion Unit) (effect : Effect) : Prop :=
  ∀ before after, step.runFrom before = (.ok (), after) ↔ effect.run? before = some after

namespace Conversion.Performs

theorem of_eq {step : Conversion Unit} {effect other : Effect} (performs : Performs step effect)
    (same : effect = other) : Performs step other :=
  same ▸ performs

theorem pure : Performs (Pure.pure ()) .nothing := by
  intro before after
  simp [Effect.run?, Effect.nothing, PeerChange.makeAll?]

theorem bind {step next : Conversion Unit} {first second : Effect} (front : Performs step first)
    (back : Performs next second) : Performs (step >>= fun _ => next) (first.append second) := by
  intro before after
  rw [runFrom_bind_eq_ok_iff, Effect.run?_append, Option.bind_eq_some_iff]
  constructor
  · rintro ⟨⟨⟩, middle, here, later⟩
    exact ⟨middle, (front before middle).mp here, (back middle after).mp later⟩
  · rintro ⟨middle, here, later⟩
    exact ⟨(), middle, (front before middle).mpr here, (back middle after).mpr later⟩

theorem store {change : Configuration → Attempt Configuration} {made : PeerChange}
    (same : ∀ configuration, made.make? configuration = (change configuration).result?) :
    Performs (Conversion.store change) ⟨[made], []⟩ := by
  intro before after
  rw [runFrom_store]
  rcases outcome : change before.configuration with ⟨changed, cause | ⟨⟩⟩ <;>
    simp [Effect.run?, PeerChange.makeAll?, same, outcome, Attempt.result?, Except.mapError]

theorem update {change : Configuration → Configuration} {made : PeerChange}
    (same : ∀ configuration, made.make? configuration = some (change configuration)) :
    Performs (Conversion.update change) ⟨[made], []⟩ := by
  intro before after
  simp [Effect.run?, PeerChange.makeAll?, same]

theorem warnAll {warnings : List String}
    (others : ∀ warning ∈ warnings, startsWith vniOpening warning = false) :
    Performs (Conversion.warnAll warnings) ⟨[], warnings⟩ := by
  have same : ∀ recorded : Warnings,
      warnings.foldl Warnings.note recorded = warnings.foldl Warnings.flag recorded := by
    refine fun recorded => List.foldl_ext _ _ recorded fun earlier warning member => ?_
    rw [Warnings.note, if_neg (by simp [others warning member])]
  intro before after
  rw [runFrom_warnAll]
  simp [Effect.run?, PeerChange.makeAll?, same]

theorem warnAllOnce {warnings : List String} (about_vnis : AllStart vniOpening warnings) :
    Performs (Conversion.warnAllOnce warnings) ⟨[], warnings⟩ := by
  have same : ∀ recorded : Warnings,
      warnings.foldl Warnings.note recorded = warnings.foldl Warnings.flagOnce recorded := by
    refine fun recorded => List.foldl_ext _ _ recorded fun earlier warning member => ?_
    rw [Warnings.note, if_pos (about_vnis warning member)]
  intro before after
  rw [runFrom_warnAllOnce]
  simp [Effect.run?, PeerChange.makeAll?, same]

end Conversion.Performs

section Neighbors

variable {device : Device} {params : ConversionParams} {inst : BgpInstance} {neighbor : Neighbor}
  {settings : NeighborSettings} {before after : Progress}

/-- The changes that register the export policy of a peer. -/
def exportChanges (inst : BgpInstance) (settings : NeighborSettings) : List PeerChange :=
  (if settings.originatesDefault then [.allowDefaultRoute inst.vrf settings.name] else []) ++
    [.addPolicy (peerExportPolicy inst settings)]

/-- The changes that register the import policy of a peer. -/
def importChanges (inst : BgpInstance) (settings : NeighborSettings) : List PeerChange :=
  (peerImportPolicy? inst settings).toList.map .addPolicy

/-- What adding a peer does.  All that it takes from the configuration is in the outlook. -/
def peerEffect (device : Device) (params : ConversionParams) (configuration : Configuration)
    (inst : BgpInstance) (routerId : Address) (settings : NeighborSettings) (id : PeerId)
    (remoteAsns : AsnSpace) : Effect where
  changes := exportChanges inst settings ++ importChanges inst settings ++
    [.addPeer inst.vrf
      (instancePeer device params configuration inst routerId settings id remoteAsns)]
  warnings := sessionWarnings configuration settings id ++ device.undefinedUses settings ++
    evpnWarnings device configuration inst settings

theorem performs_routeMapWarnings (device : Device) (settings : NeighborSettings)
    (routeMap : Option String) :
    Performs (warnAll (routeMapWarnings device settings routeMap))
      ⟨[], routeMapWarnings device settings routeMap⟩ :=
  .warnAll ((allStart_routeMapWarnings routeMap).startsWith_eq_false (by decide))

theorem performs_addPeerExportPolicy (device : Device) (inst : BgpInstance)
    (settings : NeighborSettings) :
    Performs (addPeerExportPolicy device inst settings)
      ⟨exportChanges inst settings,
        routeMapWarnings device settings (settings.ipv4Setting (·.routeMapOut))⟩ := by
  have last := (performs_routeMapWarnings device settings
    (settings.ipv4Setting (·.routeMapOut))).bind
      (.store fun _ => PeerChange.make?_addPolicy (peerExportPolicy inst settings))
  rw [addPeerExportPolicy, exportChanges]
  split
  · refine (Performs.bind (.update fun _ => PeerChange.make?_allowDefaultRoute inst.vrf
      settings.name) last).of_eq ?_
    simp [Effect.append]
  · exact last.of_eq (by simp [Effect.append])

theorem performs_addPeerImportPolicy (device : Device) (inst : BgpInstance)
    (settings : NeighborSettings) :
    Performs (addPeerImportPolicy device inst settings)
      ⟨importChanges inst settings,
        routeMapWarnings device settings (settings.ipv4Setting (·.routeMapIn))⟩ := by
  have register : Performs ((peerImportPolicy? inst settings).toList.forM fun policy =>
      store (·.addPolicy policy)) ⟨importChanges inst settings, []⟩ := by
    rw [importChanges]
    cases peerImportPolicy? inst settings with
    | none => exact .pure
    | some policy =>
        exact Performs.bind (.store fun _ => PeerChange.make?_addPolicy policy) .pure
  exact ((performs_routeMapWarnings device settings _).bind register).of_eq
    (by simp [Effect.append])

/-- The part of adding a peer that changes the configuration. -/
theorem performs_registration (device : Device) (inst : BgpInstance) (settings : NeighborSettings)
    {warnings : List String} (about_vnis : AllStart vniOpening warnings) (peer : BgpPeer) :
    Performs (do
      addPeerExportPolicy device inst settings
      addPeerImportPolicy device inst settings
      warnAllOnce warnings
      store (·.updateBgpProcess inst.vrf (·.addPeer peer)))
      ⟨exportChanges inst settings ++ importChanges inst settings ++ [.addPeer inst.vrf peer],
        device.undefinedUses settings ++ warnings⟩ := by
  have last : Performs (store (·.updateBgpProcess inst.vrf (·.addPeer peer)))
      ⟨[.addPeer inst.vrf peer], []⟩ := .store fun _ => PeerChange.make?_addPeer inst.vrf peer
  have told : Performs (warnAllOnce warnings) ⟨[], warnings⟩ := .warnAllOnce about_vnis
  exact ((performs_addPeerExportPolicy device inst settings).bind
    ((performs_addPeerImportPolicy device inst settings).bind (told.bind last))).of_eq
      (by simp [Effect.append, device.undefinedUses_eq_append])

/-- A peer is added exactly when its AS is clear and none of its changes is refused. -/
theorem runFrom_addInstancePeer_eq_ok_iff {routerId : Address} {id : PeerId} :
    (addInstancePeer device params inst routerId settings id).runFrom before = (.ok (), after) ↔
      ∃ remoteAsns, settings.remoteAsns inst.asn = .ok remoteAsns ∧
        (peerEffect device params before.configuration inst routerId settings id
          remoteAsns).run? before = some after := by
  have first : Performs (warnAll (sessionWarnings before.configuration settings id))
      ⟨[], sessionWarnings before.configuration settings id⟩ :=
    .warnAll ((allStart_sessionWarnings id).startsWith_eq_false (by decide))
  have rest := fun remoteAsns => performs_registration device inst settings
    (@allStart_evpnWarnings device inst settings before.configuration)
    (instancePeer device params before.configuration inst routerId settings id remoteAsns)
  have whole : ∀ remoteAsns, peerEffect device params before.configuration inst routerId settings
      id remoteAsns = Effect.append ⟨[], sessionWarnings before.configuration settings id⟩
        ⟨exportChanges inst settings ++ importChanges inst settings ++ [.addPeer inst.vrf
          (instancePeer device params before.configuration inst routerId settings id remoteAsns)],
          device.undefinedUses settings ++
            evpnWarnings device before.configuration inst settings⟩ := by
    intro remoteAsns
    simp [peerEffect, Effect.append]
  rw [addInstancePeer, runFrom_bind_of_ok _ (runFrom_configuration before)]
  constructor
  · intro run
    obtain ⟨_, warned, warn_run, run⟩ := runFrom_bind_eq_ok_iff.mp run
    obtain ⟨remoteAsns, _, required, run⟩ := runFrom_bind_eq_ok_iff.mp run
    obtain ⟨clear, rfl⟩ := runFrom_require_eq_ok_iff.mp required
    refine ⟨remoteAsns, clear, ?_⟩
    rw [whole, Effect.run?_append, (first _ _).mp warn_run]
    exact (rest remoteAsns _ _).mp run
  · rintro ⟨remoteAsns, clear, ran⟩
    rw [whole, Effect.run?_append, Option.bind_eq_some_iff] at ran
    obtain ⟨warned, warn_run, ran⟩ := ran
    rw [runFrom_bind_of_ok _ ((first _ _).mpr warn_run),
      runFrom_bind_of_ok _ (runFrom_require_eq_ok_iff.mpr ⟨clear, rfl⟩)]
    exact (rest remoteAsns _ _).mpr ran

/-- What attaching a neighbor does, unless the type of its AS is unknown. -/
def attachment? (device : Device) (params : ConversionParams) (configuration : Configuration) :
    BgpInstance × Neighbor → Option Effect
  | (inst, neighbor) =>
    let resolved := neighbor.resolve inst.neighbors
    match configuration.bgpProcess? inst.vrf with
    | none => some .nothing
    | some process =>
      match resolved.peerId? with
      | none => some ⟨[], neighbor.skipWarnings⟩
      | some id => (resolved.settings.remoteAsns inst.asn).toOption.map
          (peerEffect device params configuration inst process.routerId resolved.settings id)

/-- A neighbor is attached exactly when its effect is known and not refused. -/
theorem runFrom_attachNeighbor_eq_ok_iff :
    (attachNeighbor device params inst neighbor).runFrom before = (.ok (), after) ↔
      ∃ effect, attachment? device params before.configuration (inst, neighbor) = some effect ∧
        effect.run? before = some after := by
  cases running : before.configuration.bgpProcess? inst.vrf with
  | none =>
      rw [attachNeighbor, runFrom_bind_of_ok _ (runFrom_configuration before)]
      simp only [attachment?, running, Option.some.injEq, exists_eq_left']
      exact Performs.pure before after
  | some process =>
      cases identity : (neighbor.resolve inst.neighbors).peerId? with
      | none =>
          have skips : Performs (warnAll neighbor.skipWarnings) ⟨[], neighbor.skipWarnings⟩ :=
            .warnAll ((allStart_skipWarnings neighbor).startsWith_eq_false (by decide))
          rw [runFrom_attachNeighbor_of_no_peer running identity, ← runFrom_warnAll,
            skips before after]
          simp only [attachment?, running, identity, Option.some.injEq, exists_eq_left']
      | some id =>
          rw [runFrom_attachNeighbor running identity, runFrom_addInstancePeer_eq_ok_iff]
          simp only [attachment?, running, identity, Option.map_eq_some_iff, toOption_eq_some_iff]
          constructor
          · rintro ⟨remoteAsns, clear, ran⟩
            exact ⟨_, ⟨remoteAsns, clear, rfl⟩, ran⟩
          · rintro ⟨_, ⟨remoteAsns, clear, rfl⟩, ran⟩
            exact ⟨remoteAsns, clear, ran⟩

/-- The effect of a neighbor is a matter of the outlook. -/
theorem attachment?_of_outlook_eq {first second : Configuration}
    (same : first.outlook = second.outlook) :
    attachment? device params first = attachment? device params second := by
  funext ⟨inst, neighbor⟩
  have routerIds := Configuration.routerId?_of_outlook_eq same inst.vrf
  cases running : first.bgpProcess? inst.vrf with
  | none =>
      rw [running, Option.map_none, eq_comm, Option.map_eq_none_iff] at routerIds
      simp only [attachment?, running, routerIds]
  | some process =>
      rw [running, Option.map_some, eq_comm, Option.map_eq_some_iff] at routerIds
      obtain ⟨other, other_running, same_id⟩ := routerIds
      have effects : ∀ settings id,
          peerEffect device params first inst process.routerId settings id =
            peerEffect device params second inst other.routerId settings id := by
        intro settings id
        funext remoteAsns
        rw [peerEffect, peerEffect, Configuration.instancePeer_of_outlook_eq same,
          Configuration.sessionWarnings_of_outlook_eq same,
          Configuration.evpnWarnings_of_outlook_eq same, same_id]
      simp only [attachment?, running, other_running, effects]

/-- Attach neighbors in the given order. -/
def attachAll (device : Device) (params : ConversionParams)
    (order : List (BgpInstance × Neighbor)) : Conversion Unit :=
  order.forM fun pair => attachNeighbor device params pair.1 pair.2

/-- The effects that neighbors have on a configuration, as far as they are known. -/
def effectsOf (device : Device) (params : ConversionParams) (configuration : Configuration)
    (order : List (BgpInstance × Neighbor)) : Effect :=
  .all (order.filterMap (attachment? device params configuration))

/-- Neighbors are attached exactly when the effects that they have at the start are all known and
none of them is refused. -/
theorem runFrom_attachAll_eq_ok_iff {order : List (BgpInstance × Neighbor)} :
    (attachAll device params order).runFrom before = (.ok (), after) ↔
      (∀ pair ∈ order, (attachment? device params before.configuration pair).isSome = true) ∧
        (effectsOf device params before.configuration order).run? before = some after := by
  induction order generalizing before with
  | nil =>
      have ran := Performs.pure before after
      simpa [attachAll, effectsOf, Effect.all, Effect.nothing] using ran
  | cons pair order ih =>
      rw [attachAll, runFrom_forM_cons_eq_ok_iff]
      simp only [runFrom_attachNeighbor_eq_ok_iff, effectsOf, List.forall_mem_cons]
      constructor
      · rintro ⟨middle, ⟨effect, known, ran⟩, rest⟩
        obtain ⟨others, ran_rest⟩ := ih.mp rest
        rw [attachment?_of_outlook_eq (Effect.outlook_of_run? ran)] at others
        rw [effectsOf, attachment?_of_outlook_eq (Effect.outlook_of_run? ran)] at ran_rest
        refine ⟨⟨Option.isSome_of_eq_some known, others⟩, ?_⟩
        rw [List.filterMap_cons_some known, Effect.all_cons, Effect.run?_append, ran]
        exact ran_rest
      · rintro ⟨⟨known, others⟩, ran⟩
        obtain ⟨effect, known⟩ := Option.isSome_iff_exists.mp known
        rw [List.filterMap_cons_some known, Effect.all_cons, Effect.run?_append,
          Option.bind_eq_some_iff] at ran
        obtain ⟨middle, ran, ran_rest⟩ := ran
        rw [← attachment?_of_outlook_eq (Effect.outlook_of_run? ran)] at others ran_rest
        exact ⟨middle, ⟨effect, known, ran⟩, ih.mpr ⟨others, ran_rest⟩⟩

theorem runFrom_attachNeighbors_eq_ok_iff {instances : BgpInstances} :
    (attachNeighbors device params instances).runFrom before = (.ok (), after) ↔
      (∀ pair ∈ instances.neighbors,
          (attachment? device params before.configuration pair).isSome = true) ∧
        (effectsOf device params before.configuration instances.neighbors).run? before =
          some after :=
  runFrom_attachAll_eq_ok_iff

end Neighbors
end NeutralRouting
