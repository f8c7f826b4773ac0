import NeutralRouting.Proofs.Effects
import NeutralRouting.Proofs.ProcessPresence

/-!
# Attached peers

After all neighbors are attached, the peers of a process are in one-to-one correspondence with the
validly configured neighbors of the instance of its VRF, and the neighbors that are left out are
complained about.
-/

namespace NeutralRouting

open Std Conversion

/-- The address of a peer that is known by one. -/
def PeerId.address? : PeerId → Option Address
  | address peer => some peer
  | interface _ => none

/-- The interface of a peer that is known by one. -/
def PeerId.interface? : PeerId → Option String
  | address _ => none
  | interface name => some name

theorem PeerId.address?_eq_some_iff {id : PeerId} {peer : Address} :
    id.address? = some peer ↔ id = .address peer := by
  cases id <;> simp [address?]

theorem PeerId.interface?_eq_some_iff {id : PeerId} {name : String} :
    id.interface? = some name ↔ id = .interface name := by
  cases id <;> simp [interface?]

/-- The process has exactly the given peers, whose identities differ. -/
structure BgpProcess.HasPeers (process : BgpProcess) (peers : List BgpPeer) : Prop where
  nodup : (peers.map (·.id)).Nodup
  peer?_eq_some_iff : ∀ id peer, process.peer? id = some peer ↔ peer ∈ peers ∧ peer.id = id

namespace BgpProcess

variable {process result : BgpProcess} {peers : List BgpPeer} {peer : BgpPeer}

theorem HasPeers.nil (free : ∀ id, process.peer? id = none) : process.HasPeers [] where
  nodup := List.nodup_nil
  peer?_eq_some_iff id peer := by simp [free]

theorem HasPeers.addPeer (has : process.HasPeers peers)
    (added : process.addPeer peer = (result, .ok ())) :
    result.HasPeers (peers ++ [peer]) := by
  have free : process.peer? peer.id = none := by
    rw [BgpProcess.addPeer] at added
    split at added
    · cases added
    · next free => simpa using free
  have fresh : ∀ other ∈ peers, other.id ≠ peer.id := by
    intro other member same
    rw [(has.peer?_eq_some_iff peer.id other).mpr ⟨member, same⟩] at free
    cases free
  constructor
  · rw [List.map_append, List.map_singleton, List.nodup_append]
    refine ⟨has.nodup, List.nodup_singleton _, fun id earlier last member same => ?_⟩
    obtain ⟨other, listed, rfl⟩ := List.mem_map.mp earlier
    exact fresh other listed (same.trans (List.mem_singleton.mp member))
  · intro id other
    rw [peer?_of_addPeer added, List.mem_append, List.mem_singleton]
    split
    · next own =>
        rw [Option.some.injEq]
        constructor
        · rintro rfl
          exact ⟨.inr rfl, own.symm⟩
        · rintro ⟨earlier | rfl, same⟩
          · exact absurd (same.trans own) (fresh other earlier)
          · rfl
    · next different =>
        rw [has.peer?_eq_some_iff]
        constructor
        · rintro ⟨earlier, same⟩
          exact ⟨.inl earlier, same⟩
        · rintro ⟨earlier | rfl, same⟩
          · exact ⟨earlier, same⟩
          · exact absurd same.symm different

theorem HasPeers.mem_activePeers_iff (has : process.HasPeers peers) {address : Address} :
    address ∈ process.activePeers ↔ address ∈ peers.filterMap (·.id.address?) := by
  rw [Table.mem_iff_getElem?_eq_some, List.mem_filterMap]
  refine exists_congr fun peer => (has.peer?_eq_some_iff (.address address) peer).trans
    (and_congr_right fun _ => ?_)
  cases peer.id <;> simp [PeerId.address?]

theorem HasPeers.mem_interfacePeers_iff (has : process.HasPeers peers) {name : String} :
    name ∈ process.interfacePeers ↔ name ∈ peers.filterMap (·.id.interface?) := by
  rw [Table.mem_iff_getElem?_eq_some, List.mem_filterMap]
  refine exists_congr fun peer => (has.peer?_eq_some_iff (.interface name) peer).trans
    (and_congr_right fun _ => ?_)
  cases peer.id <;> simp [PeerId.interface?]

/-- The keys of a process are the identities of its peers. -/
theorem HasPeers.keys_perm (has : process.HasPeers peers) :
    process.activePeers.keys.Perm (peers.filterMap (·.id.address?)) ∧
      process.interfacePeers.keys.Perm (peers.filterMap (·.id.interface?)) := by
  have distinct : ∀ {κ : Type} (key? : PeerId → Option κ),
      (∀ first second key, key? first = some key → key? second = some key → first = second) →
      (peers.filterMap fun peer => key? peer.id).Nodup := by
    intro κ key? injective
    have keys := has.nodup.filterMap injective
    rwa [List.filterMap_map] at keys
  constructor
  · rw [List.perm_ext_iff_of_nodup ExtTreeMap.nodup_keys (distinct PeerId.address? ?_)]
    · intro address
      rw [ExtTreeMap.mem_keys, has.mem_activePeers_iff]
    · intro first second key own other
      cases first <;> cases second <;> simp_all [PeerId.address?]
  · rw [List.perm_ext_iff_of_nodup ExtTreeMap.nodup_keys (distinct PeerId.interface? ?_)]
    · intro name
      rw [ExtTreeMap.mem_keys, has.mem_interfacePeers_iff]
    · intro first second key own other
      cases first <;> cases second <;> simp_all [PeerId.interface?]

theorem HasPeers.perm (has : process.HasPeers peers) : process.peers.Perm peers := by
  have own : ∀ id peer, process.peer? id = some peer → peer.id = id := fun id peer found =>
    ((has.peer?_eq_some_iff id peer).mp found).2
  have ids : process.peers.map (·.id) =
      process.activePeers.keys.map .address ++ process.interfacePeers.keys.map .interface := by
    rw [BgpProcess.peers, List.map_append,
      Table.map_values_eq_map_keys fun key peer found => own (.address key) peer found,
      Table.map_values_eq_map_keys fun key peer found => own (.interface key) peer found]
  have distinct : (process.peers.map (·.id)).Nodup := by
    rw [ids, List.nodup_append]
    refine ⟨?_, ?_, ?_⟩
    · exact ExtTreeMap.nodup_keys.map fun _ _ same => PeerId.address.inj same
    · exact ExtTreeMap.nodup_keys.map fun _ _ same => PeerId.interface.inj same
    · intro first active second interface same
      obtain ⟨_, -, rfl⟩ := List.mem_map.mp active
      obtain ⟨_, -, rfl⟩ := List.mem_map.mp interface
      cases same
  refine (List.perm_ext_iff_of_nodup (.of_map _ distinct) (.of_map _ has.nodup)).mpr fun peer => ?_
  rw [mem_peers_iff]
  simp only [has.peer?_eq_some_iff]
  simp

end BgpProcess

/-- The peer that the process of a VRF gets by a change. -/
def PeerChange.peerIn? (vrf : String) : PeerChange → Option BgpPeer
  | addPeer other peer => if other = vrf then some peer else none
  | _ => none

section Changes

variable {vrf : String} {before after : Configuration} {process : BgpProcess}
  {peers : List BgpPeer}

/-- A change leaves all processes alone, or it adds its peer to one of them. -/
theorem PeerChange.make?_cases {change : PeerChange} (made : change.make? before = some after) :
    (after.bgpProcess? = before.bgpProcess? ∧ ∀ vrf, change.peerIn? vrf = none) ∨
      ∃ name peer process result, change = .addPeer name peer ∧
        before.bgpProcess? name = some process ∧ process.addPeer peer = (result, .ok ()) ∧
        ∀ vrf, after.bgpProcess? vrf = if vrf = name then some result
          else before.bgpProcess? vrf := by
  cases change with
  | allowDefaultRoute other peer =>
      rw [make?_allowDefaultRoute] at made
      cases made
      exact .inl ⟨rfl, fun _ => rfl⟩
  | addPolicy policy =>
      rw [make?_addPolicy, Attempt.result?_eq_some_iff] at made
      obtain ⟨-, rfl⟩ := Configuration.policyShelf.add_eq_ok_iff.mp made
      exact .inl ⟨rfl, fun _ => rfl⟩
  | addPeer name peer =>
      rw [make?_addPeer, Attempt.result?_eq_some_iff] at made
      obtain ⟨owner, process, result, found, own, added, rfl⟩ :=
        Configuration.updateBgpProcess_eq_ok_iff.mp made
      exact .inr ⟨name, peer, process, result, rfl,
        Configuration.bgpProcess?_eq_some_iff.mpr ⟨owner, found, own⟩, added,
        fun vrf => by rw [Configuration.bgpProcess?_of_insert rfl]⟩

/-- A change adds its peer to the process of the VRF, if it has one for it. -/
theorem hasPeers_of_make? {change : PeerChange} (made : change.make? before = some after)
    (running : before.bgpProcess? vrf = some process) (has : process.HasPeers peers) :
    ∃ result, after.bgpProcess? vrf = some result ∧
      result.withoutPeers = process.withoutPeers ∧
      result.HasPeers (peers ++ (change.peerIn? vrf).toList) := by
  obtain ⟨same, no_peer⟩ | ⟨name, peer, current, result, rfl, own, added, processes⟩ :=
    PeerChange.make?_cases made
  · exact ⟨process, by rwa [same], rfl, by simpa [no_peer] using has⟩
  · rw [processes]
    by_cases same : vrf = name
    · subst same
      cases running.symm.trans own
      refine ⟨result, if_pos rfl, BgpProcess.withoutPeers_of_addPeer added, ?_⟩
      simpa [PeerChange.peerIn?] using has.addPeer added
    · refine ⟨process, ?_, rfl, ?_⟩
      · rwa [if_neg same]
      · simpa [PeerChange.peerIn?, Ne.symm same] using has

/-- Changes add their peers to the process of the VRF, in order. -/
theorem hasPeers_of_makeAll? {changes : List PeerChange}
    (made : PeerChange.makeAll? changes before = some after)
    (running : before.bgpProcess? vrf = some process) (has : process.HasPeers peers) :
    ∃ result, after.bgpProcess? vrf = some result ∧
      result.withoutPeers = process.withoutPeers ∧
      result.HasPeers (peers ++ changes.filterMap (·.peerIn? vrf)) := by
  induction changes generalizing before process peers with
  | nil =>
      cases made
      exact ⟨process, running, rfl, by simpa using has⟩
  | cons change changes ih =>
      rw [PeerChange.makeAll?, List.foldlM_cons, Option.bind_eq_bind,
        Option.bind_eq_some_iff] at made
      obtain ⟨middle, first, rest⟩ := made
      obtain ⟨current, running, same_first, has⟩ := hasPeers_of_make? first running has
      obtain ⟨result, running, same_rest, has⟩ := ih rest running has
      refine ⟨result, running, same_rest.trans same_first, ?_⟩
      rw [List.append_assoc] at has
      cases own : change.peerIn? vrf <;> simpa [own] using has

end Changes

section Neighbors

variable {device : Device} {params : ConversionParams} {configuration : Configuration}
  {inst : BgpInstance} {neighbor : Neighbor} {effect : Effect} {vrf : String}

/-- The peer that a neighbor becomes, if it becomes one. -/
def attachedPeer? (device : Device) (params : ConversionParams) (configuration : Configuration)
    (inst : BgpInstance) (neighbor : Neighbor) : Option BgpPeer := do
  let process ← configuration.bgpProcess? inst.vrf
  let resolved := neighbor.resolve inst.neighbors
  let id ← resolved.peerId?
  let remoteAsns ← (resolved.settings.remoteAsns inst.asn).toOption
  return instancePeer device params configuration inst process.routerId resolved.settings id
    remoteAsns

theorem filterMap_peerIn?_peerEffect (routerId : Address) (settings : NeighborSettings)
    (id : PeerId) (remoteAsns : AsnSpace) :
    (peerEffect device params configuration inst routerId settings id
      remoteAsns).changes.filterMap (·.peerIn? vrf) =
        if inst.vrf = vrf then
          [instancePeer device params configuration inst routerId settings id remoteAsns]
        else [] := by
  have exported : (exportChanges inst settings).filterMap (·.peerIn? vrf) = [] := by
    rw [exportChanges]
    split <;> simp [PeerChange.peerIn?]
  have imported : (importChanges inst settings).filterMap (·.peerIn? vrf) = [] := by
    rw [importChanges, List.filterMap_map]
    exact List.filterMap_eq_nil_iff.mpr fun _ _ => rfl
  rw [peerEffect, List.filterMap_append, List.filterMap_append, exported, imported]
  split
  · next same => simp [PeerChange.peerIn?, same]
  · next different => simp [PeerChange.peerIn?, different]

/-- The effect of a neighbor brings the peer that the neighbor becomes, and no other. -/
theorem filterMap_peerIn?_of_attachment?
    (known : attachment? device params configuration (inst, neighbor) = some effect) :
    effect.changes.filterMap (·.peerIn? vrf) =
      if inst.vrf = vrf then (attachedPeer? device params configuration inst neighbor).toList
      else [] := by
  rw [attachment?] at known
  split at known
  · next idle =>
      cases known
      simp [attachedPeer?, idle, Effect.nothing]
  · next process running =>
      split at known
      · next no_peer =>
          cases known
          simp [attachedPeer?, no_peer]
      · next id identity =>
          obtain ⟨remoteAsns, clear, rfl⟩ := Option.map_eq_some_iff.mp known
          rw [filterMap_peerIn?_peerEffect]
          simp [attachedPeer?, running, identity, clear]

/-- The peers that neighbors bring to the process of a VRF. -/
theorem filterMap_peerIn?_effectsOf {order : List (BgpInstance × Neighbor)}
    (known : ∀ pair ∈ order, (attachment? device params configuration pair).isSome = true) :
    (effectsOf device params configuration order).changes.filterMap (·.peerIn? vrf) =
      (order.filter (·.1.vrf = vrf)).filterMap fun pair =>
        attachedPeer? device params configuration pair.1 pair.2 := by
  induction order with
  | nil => rfl
  | cons pair order ih =>
      rw [List.forall_mem_cons] at known
      obtain ⟨effect, own⟩ := Option.isSome_iff_exists.mp known.1
      have rest := ih known.2
      rw [effectsOf, Effect.all] at rest ⊢
      simp only at rest ⊢
      rw [List.filterMap_cons_some own, List.flatMap_cons, List.filterMap_append, rest,
        filterMap_peerIn?_of_attachment? own, List.filter_cons]
      by_cases same : pair.1.vrf = vrf
      · cases attached : attachedPeer? device params configuration pair.1 pair.2 <;>
          simp [same, attached]
      · simp [same]

/-- What the effects of neighbors that become no peers complain about. -/
theorem filter_warnings_of_attachment?
    (known : attachment? device params configuration (inst, neighbor) = some effect) :
    effect.warnings.filter (startsWith skipLabel) =
      if (configuration.bgpProcess? inst.vrf).isSome = true ∧
          (neighbor.resolve inst.neighbors).peerId? = none then neighbor.skipWarnings
      else [] := by
  rw [attachment?] at known
  split at known
  · next idle =>
      cases known
      simp [idle, Effect.nothing]
  · next process running =>
      split at known
      · next no_peer =>
          cases known
          rw [running, if_pos ⟨rfl, no_peer⟩]
          exact (allStart_skipWarnings neighbor).filter_eq_self
      · next id identity =>
          obtain ⟨remoteAsns, -, rfl⟩ := Option.map_eq_some_iff.mp known
          rw [if_neg (by simp [identity]), peerEffect, List.filter_append, List.filter_append,
            (allStart_sessionWarnings id).filter_eq_nil (by decide),
            Device.allStart_undefinedUses.filter_eq_nil (by decide),
            allStart_evpnWarnings.filter_eq_nil (by decide)]
          rfl

/-- The warnings of a kind are known for all neighbors as soon as they are known for each. -/
theorem filter_warnings_effectsOf {label : String}
    {reported : BgpInstance × Neighbor → List String}
    (each : ∀ pair effect, attachment? device params configuration pair = some effect →
      effect.warnings.filter (startsWith label) = reported pair)
    {order : List (BgpInstance × Neighbor)}
    (known : ∀ pair ∈ order, (attachment? device params configuration pair).isSome = true) :
    (effectsOf device params configuration order).warnings.filter (startsWith label) =
      order.flatMap reported := by
  induction order with
  | nil => rfl
  | cons pair order ih =>
      rw [List.forall_mem_cons] at known
      obtain ⟨effect, own⟩ := Option.isSome_iff_exists.mp known.1
      have rest := ih known.2
      rw [effectsOf, Effect.all] at rest ⊢
      simp only at rest ⊢
      rw [List.filterMap_cons_some own, List.flatMap_cons, List.filter_append, rest,
        each pair effect own, List.flatMap_cons]

/-- What only some items contribute is contributed by these. -/
theorem flatMap_ite_eq_flatMap_filter {α β : Type} (some_do : α → Prop) [DecidablePred some_do]
    (contribute : α → List β) (items : List α) :
    (items.flatMap fun item => if some_do item then contribute item else []) =
      (items.filter (some_do ·)).flatMap contribute := by
  induction items with
  | nil => rfl
  | cons item items ih =>
      rw [List.flatMap_cons, ih, List.filter_cons]
      by_cases contributes : some_do item <;> simp [contributes]

theorem filter_skipLabel_effectsOf {order : List (BgpInstance × Neighbor)}
    (known : ∀ pair ∈ order, (attachment? device params configuration pair).isSome = true) :
    (effectsOf device params configuration order).warnings.filter (startsWith skipLabel) =
      (order.filter fun pair => (configuration.bgpProcess? pair.1.vrf).isSome &&
        (pair.2.resolve pair.1.neighbors).peerId?.isNone).flatMap (·.2.skipWarnings) := by
  rw [filter_warnings_effectsOf (fun pair effect own => filter_warnings_of_attachment? own) known,
    flatMap_ite_eq_flatMap_filter]
  refine congrArg (List.flatMap _) (List.filter_congr fun pair _ => ?_)
  rw [Bool.decide_and, Bool.decide_eq_true]
  cases (pair.2.resolve pair.1.neighbors).peerId? <;> rfl

end Neighbors

section Runs

variable {device : Device} {params : ConversionParams} {instances : BgpInstances}
  {before after : Progress}

/-- What a process without peers gets by attaching all neighbors. -/
theorem hasPeers_of_attachNeighbors {vrf : String} {process : BgpProcess}
    (run : (attachNeighbors device params instances).runFrom before = (.ok (), after))
    (running : before.configuration.bgpProcess? vrf = some process)
    (free : ∀ id, process.peer? id = none) :
    ∃ result, after.configuration.bgpProcess? vrf = some result ∧
      result.withoutPeers = process.withoutPeers ∧
      result.HasPeers ((instances.neighbors.filter (·.1.vrf = vrf)).filterMap fun pair =>
        attachedPeer? device params before.configuration pair.1 pair.2) := by
  obtain ⟨known, ran⟩ := runFrom_attachNeighbors_eq_ok_iff.mp run
  obtain ⟨configuration, made, rfl⟩ := Option.map_eq_some_iff.mp ran
  have result := hasPeers_of_makeAll? made running (.nil free)
  rwa [List.nil_append, filterMap_peerIn?_effectsOf known] at result

/-- Attaching neighbors starts no process. -/
theorem exists_bgpProcess?_of_attachNeighbors {vrf : String} {result : BgpProcess}
    (run : (attachNeighbors device params instances).runFrom before = (.ok (), after))
    (running : after.configuration.bgpProcess? vrf = some result) :
    ∃ process, before.configuration.bgpProcess? vrf = some process := by
  obtain ⟨-, ran⟩ := runFrom_attachNeighbors_eq_ok_iff.mp run
  have routerIds := Configuration.routerId?_of_outlook_eq (Effect.outlook_of_run? ran) vrf
  rw [running, Option.map_some, eq_comm, Option.map_eq_some_iff] at routerIds
  obtain ⟨process, running, -⟩ := routerIds
  exact ⟨process, running⟩

/-- Recording warnings the way attaching neighbors does keeps all of a kind that is not about
VNIs. -/
theorem Warnings.starting_foldl_note {label : String} (apart : Apart label vniOpening)
    (texts : List String) (warnings : Warnings) :
    (texts.foldl note warnings).starting label =
      warnings.starting label ++ texts.filter (startsWith label) := by
  induction texts generalizing warnings with
  | nil => simp
  | cons text texts ih =>
      have one : (warnings.note text).starting label =
          warnings.starting label ++ [text].filter (startsWith label) := by
        rw [note]
        split
        · next about_vni =>
            have other := apart.startsWith_eq_false about_vni
            rw [flagOnce, List.filter_cons_of_neg (by simp [other]), List.filter_nil,
              List.append_nil]
            split
            · rfl
            · exact starting_flag_of_other other
        · exact starting_flag text
      rw [List.foldl_cons, ih, one, List.append_assoc, ← List.filter_append, List.singleton_append]

/-- Attaching neighbors complains about those that become no peers of a process. -/
theorem starting_skipLabel_of_attachNeighbors
    (run : (attachNeighbors device params instances).runFrom before = (.ok (), after)) :
    after.warnings.starting skipLabel = before.warnings.starting skipLabel ++
      (instances.neighbors.filter fun pair =>
        (before.configuration.bgpProcess? pair.1.vrf).isSome &&
          (pair.2.resolve pair.1.neighbors).peerId?.isNone).flatMap (·.2.skipWarnings) := by
  obtain ⟨known, ran⟩ := runFrom_attachNeighbors_eq_ok_iff.mp run
  obtain ⟨configuration, -, rfl⟩ := Option.map_eq_some_iff.mp ran
  rw [← filter_skipLabel_effectsOf known]
  exact Warnings.starting_foldl_note (by decide) _ _

end Runs
end NeutralRouting
