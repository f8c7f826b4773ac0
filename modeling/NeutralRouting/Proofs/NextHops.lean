import NeutralRouting.Proofs.Contents
import NeutralRouting.Proofs.PeerCorrespondence

/-!
# Next hops of exported routes

The device puts itself as next hop into the routes it sends to a neighbor that asks for it and has
the local AS number as its remote one.  What else is said about the AS of the neighbor makes no
difference, so a neighbor that is called external although it has the local number gets this next
hop as well.
-/

namespace NeutralRouting

open Std Conversion

mutual

/-- The next hops set in a condition, in the order of the statements. -/
def Condition.nextHops : Condition → List NextHop
  | .negation condition => condition.nextHops
  | .all conditions _ => Condition.nextHopsOf conditions
  | .any conditions _ => Condition.nextHopsOf conditions
  | .bracket before condition after afterTrue =>
    Statement.nextHopsOf before ++ condition.nextHops ++ Statement.nextHopsOf after ++
      Statement.nextHopsOf afterTrue
  | _ => []

/-- The next hops set in several conditions. -/
def Condition.nextHopsOf : List Condition → List NextHop
  | [] => []
  | condition :: rest => condition.nextHops ++ Condition.nextHopsOf rest

/-- The next hops set in a statement. -/
def Statement.nextHops : Statement → List NextHop
  | .setNextHop nextHop => [nextHop]
  | .branch _ guard whenTrue whenFalse =>
    guard.nextHops ++ Statement.nextHopsOf whenTrue ++ Statement.nextHopsOf whenFalse
  | _ => []

/-- The next hops set in several statements. -/
def Statement.nextHopsOf : List Statement → List NextHop
  | [] => []
  | statement :: rest => statement.nextHops ++ Statement.nextHopsOf rest

end

/-- The next hops that a policy sets itself, at any depth. -/
def RoutingPolicy.nextHops (policy : RoutingPolicy) : List NextHop :=
  Statement.nextHopsOf policy.statements

section Policies

variable {inst : BgpInstance} {settings : NeighborSettings}

theorem Statement.nextHopsOf_append (first second : List Statement) :
    Statement.nextHopsOf (first ++ second) =
      Statement.nextHopsOf first ++ Statement.nextHopsOf second := by
  induction first with
  | nil => rfl
  | cons statement rest ih =>
      rw [List.cons_append, Statement.nextHopsOf, Statement.nextHopsOf, ih, List.append_assoc]

/-- The export policy of a peer sets the next hop at most once, to the device. -/
theorem nextHops_peerExportPolicy :
    (peerExportPolicy inst settings).nextHops =
      if setsNextHop settings inst then [.self] else [] := by
  have condition : (peerExportCondition inst settings).nextHops = [] := by
    rw [peerExportCondition]
    cases settings.ipv4Setting (·.routeMapOut) <;> rfl
  have decides : (peerExportStatement inst settings).nextHops =
      if setsNextHop settings inst then [.self] else [] := by
    rw [peerExportStatement, Statement.nextHops, condition, nextHopStatement?]
    split <;> rfl
  have defaults : Statement.nextHopsOf
      (if settings.originatesDefault then [sendDefaultRoute inst settings] else []) = [] := by
    split <;> rfl
  rw [RoutingPolicy.nextHops, peerExportPolicy, Statement.nextHopsOf_append, defaults,
    Statement.nextHopsOf, Statement.nextHopsOf, Statement.nextHopsOf, decides, List.append_nil]
  rfl

theorem setsNextHop_iff :
    setsNextHop settings inst = true ↔ settings.ipv4Setting (·.nextHopSelf) = some true ∧
      ∃ asn, inst.asn = some asn ∧ settings.remoteAs = some asn := by
  simp only [setsNextHop, Bool.and_eq_true, beq_iff_eq, Option.isSome_iff_exists]
  constructor
  · rintro ⟨⟨⟨asn, remote⟩, same⟩, asked⟩
    exact ⟨by simpa [Option.getD_eq_iff] using asked, asn, same.symm.trans remote, remote⟩
  · rintro ⟨asked, asn, own, remote⟩
    exact ⟨⟨⟨asn, remote⟩, remote.trans own.symm⟩, by rw [asked]; rfl⟩

end Policies

section Peers

variable {device : Device} {params : ConversionParams} {compile : RouteMapCompiler}
  {progress : Progress} {inst : BgpInstance} {settings : NeighborSettings} {neighbor : Neighbor}
  {vrf : String} {process : BgpProcess} {peer : BgpPeer}

theorem Device.mem_peers_of_isPeer (active : inst ∈ device.activeInstances)
    (member : neighbor ∈ inst.resolvedNeighbors) (valid : neighbor.isPeer = true) :
    (inst, neighbor.settings) ∈ device.peers := by
  obtain ⟨instances, runs_bgp, listed, has_vrf⟩ := mem_activeInstances_iff.mp active
  obtain ⟨own, configured, rfl⟩ := List.mem_map.mp member
  refine List.mem_filterMap.mpr ⟨(inst, own), ?_, if_pos ⟨has_vrf, valid⟩⟩
  rw [neighbors, runs_bgp]
  exact BgpInstances.mem_neighbors_iff.mpr ⟨listed, configured⟩

theorem getElem?_peerExportPolicy (converted : device.convert params compile = .ok progress)
    (attached : (inst, settings) ∈ device.peers) :
    progress.configuration.policies[(GeneratedName.peerExport inst.vrf settings.name).text]? =
      some (peerExportPolicy inst settings) := by
  have made : peerExportPolicy inst settings ∈ device.generatedPolicies :=
    List.mem_append_right _ (List.mem_flatMap.mpr ⟨_, attached, by simp [peerPolicies]⟩)
  exact (inventory_of_convert converted).1.policies.getElem? (List.mem_append_left _ made)

/-- A peer with the local AS number as its remote one may have the local AS number unless its AS is
called external. -/
theorem BgpPeer.StandsFor.contains_asn_iff {asn : UInt32} (stands : peer.StandsFor inst neighbor)
    (own : inst.asn = some asn) (remote : neighbor.settings.remoteAs = some asn) :
    peer.remoteAsns.contains asn = true ↔ neighbor.settings.remoteAsType ≠ some .external := by
  rw [stands.remoteAsns, own, NeighborSettings.MayHave, remote]
  cases kind : neighbor.settings.remoteAsType with
  | none => simp [stands.typed kind] at own
  | some given => cases given <;> simp

/-- The export policy of a peer puts the device as next hop exactly if its neighbor asks for that
and has the local AS number, of whatever type. -/
theorem convert_sets_next_hop_self (converted : device.convert params compile = .ok progress)
    (running : progress.configuration.bgpProcess? vrf = some process)
    (member : peer ∈ process.peers) :
    ∃ inst ∈ device.activeInstances, ∃ neighbor ∈ inst.resolvedNeighbors,
      inst.vrf = vrf ∧ peer.StandsFor inst neighbor ∧ ∃ policy,
        progress.configuration.policies[
          (GeneratedName.peerExport vrf neighbor.settings.name).text]? = some policy ∧
        (.self ∈ policy.nextHops ↔ neighbor.settings.ipv4Setting (·.nextHopSelf) = some true ∧
          ∃ asn, inst.asn = some asn ∧ neighbor.settings.remoteAs = some asn) ∧
        (.self ∈ policy.nextHops → ∀ asn, inst.asn = some asn →
          (peer.remoteAsns.contains asn = true ↔
            neighbor.settings.remoteAsType ≠ some .external)) := by
  obtain ⟨inst, active, neighbor, listed, rfl, valid, stands⟩ :=
    exists_standsFor_of_mem_peers converted running member
  have exported :=
    getElem?_peerExportPolicy converted (Device.mem_peers_of_isPeer active listed valid)
  have sets : .self ∈ (peerExportPolicy inst neighbor.settings).nextHops ↔
      setsNextHop neighbor.settings inst = true := by
    rw [nextHops_peerExportPolicy]
    split <;> simp [*]
  refine ⟨inst, active, neighbor, listed, rfl, stands, _, exported, sets.trans setsNextHop_iff, ?_⟩
  intro sets_self asn own
  obtain ⟨-, remote, own_again, same⟩ := setsNextHop_iff.mp (sets.mp sets_self)
  cases own.symm.trans own_again
  exact stands.contains_asn_iff own same

/-- The neighbor of the border router has another AS number. -/
theorem convert_borderRouter_keeps_next_hop :
    ∃ progress process peer policy,
      borderRouter.convert .standard entrywiseCompiler = .ok progress ∧
      progress.configuration.bgpProcess? defaultVrfName = some process ∧ peer ∈ process.peers ∧
      progress.configuration.policies["~BGP_PEER_EXPORT_POLICY:default:192.0.2.1~"]? =
        some policy ∧ .self ∉ policy.nextHops := by
  obtain ⟨progress, converted⟩ := borderRouter_converts
  have active : borderRouter.activeInstances = [borderInstance] := by decide +kernel
  have neighbors : borderInstance.resolvedNeighbors =
      [.ip borderNeighbor (some (.ofOctets 192 0 2 1))] := by decide +kernel
  obtain ⟨process, running, serves⟩ := exists_servesNeighbors_of_convert converted
    (show borderInstance ∈ borderRouter.activeInstances by rw [active]; exact List.mem_cons_self)
  have some_peer : process.peers ≠ [] := by
    obtain ⟨peers, permuted, stand⟩ := serves.standsFor
    rintro nothing
    rw [nothing, List.nil_perm] at permuted
    rw [permuted, neighbors, List.forall₂_nil_right_iff] at stand
    exact absurd stand (by decide +kernel)
  obtain ⟨peer, member⟩ := List.exists_mem_of_ne_nil _ some_peer
  obtain ⟨inst, listed, neighbor, own, -, -, policy, exported, sets, -⟩ :=
    convert_sets_next_hop_self converted running member
  rw [active, List.mem_singleton] at listed
  subst listed
  rw [neighbors, List.mem_singleton] at own
  subst own
  refine ⟨progress, process, peer, policy, converted, running, member, exported, ?_⟩
  intro sets_self
  obtain ⟨-, asn, local_asn, remote_asn⟩ := sets.mp sets_self
  cases local_asn
  exact absurd remote_asn (by decide)

/-- A device with the neighbor `swp1`, which asks for the device as next hop and is called external,
and whose peer group has the local AS number. -/
def mislabeledLeaf : Device :=
  { Device.bare "leaf1" with
    bgp := some ⟨{
      vrf := defaultVrfName
      routerId := none
      asn := some 65001
      confederationId := none
      multipathRelax := false
      defaultIpv4Unicast := true
      ipv4Unicast := none
      evpn := none
      neighbors := ((∅ : NeighborTable).insert "SPINE"
        (.peerGroup { NeighborSettings.unset "SPINE" with remoteAs := some 65001 })).insert "swp1"
        (.interface { NeighborSettings.unset "swp1" with
          peerGroup := some "SPINE"
          remoteAsType := some .external
          ipv4Unicast := some { NeighborIpv4Unicast.unset with nextHopSelf := some true } }) }, ∅⟩ }

/-- Its peer may have any AS number but the local one, and yet the export policy of the peer puts
the device as next hop. -/
theorem convert_mislabeledLeaf_sets_next_hop_of_external :
    ∃ progress process peer family policy,
      mislabeledLeaf.convert .standard entrywiseCompiler = .ok progress ∧
      progress.configuration.bgpProcess? defaultVrfName = some process ∧ peer ∈ process.peers ∧
      peer.localAs = some 65001 ∧ peer.remoteAsns.contains 65001 = false ∧
      peer.ipv4Unicast = some family ∧
      progress.configuration.policies[family.exportPolicy]? = some policy ∧
      .self ∈ policy.nextHops := by
  have checked : ((mislabeledLeaf.convert .standard entrywiseCompiler).toOption.any fun progress =>
      (progress.configuration.bgpProcess? defaultVrfName).any fun process =>
        process.peers.any fun peer => peer.localAs = some 65001 &&
          !peer.remoteAsns.contains 65001 && peer.ipv4Unicast.any fun family =>
            (progress.configuration.policies[family.exportPolicy]?).any fun policy =>
              decide (.self ∈ policy.nextHops)) = true := by decide +kernel
  simp only [Option.any_eq_true, List.any_eq_true, Bool.and_eq_true, decide_eq_true_iff,
    Bool.not_eq_true', toOption_eq_some_iff] at checked
  obtain ⟨progress, converted, process, running, peer, member, ⟨own, other⟩, family, activated,
    policy, exported, sets⟩ := checked
  exact ⟨progress, process, peer, family, policy, converted, running, member, own, other, activated,
    exported, sets⟩

end Peers
end NeutralRouting
