import NeutralRouting.Proofs.Peers
import NeutralRouting.Proofs.Processes

/-!
# Neighbors that are refused

A neighbor is refused if the type of its AS is needed and missing, or if an earlier neighbor of its
instance has its address.  Both are about the settings with what they inherit from peer groups.
-/

namespace NeutralRouting

open Std Conversion

namespace BgpInstance

/-- The neighbor would become a peer of the instance and has a remote AS, but nothing says of which
type, and that matters since the instance has an AS itself. -/
structure LacksType (inst : BgpInstance) (neighbor : Neighbor) : Prop where
  no_group : neighbor.isPeerGroup = false
  addressed : ∀ settings address, neighbor = .ip settings address → address.isSome = true
  remoteAs : (neighbor.resolve inst.neighbors).settings.remoteAs.isSome = true
  untyped : (neighbor.resolve inst.neighbors).settings.remoteAsType = none
  localAs : inst.asn.isSome = true

/-- The neighbor is validly configured and has the given address. -/
def PeersAt (inst : BgpInstance) (neighbor : Neighbor) (address : Address) : Prop :=
  ∃ settings, neighbor = .ip settings (some address) ∧
    (settings.resolve inst.neighbors).isValid = true

end BgpInstance

/-- Why a neighbor is refused after the given ones. -/
inductive Device.Refuses (device : Device) (done : List (BgpInstance × Neighbor)) :
    BgpInstance × Neighbor → ConversionError → Prop
  | untyped {inst : BgpInstance} {neighbor : Neighbor} (has_vrf : device.HasVrf inst.vrf)
      (lacks : inst.LacksType neighbor) :
      device.Refuses done (inst, neighbor) (.untypedRemoteAs neighbor.settings.name)
  | duplicate {inst : BgpInstance} {neighbor other : Neighbor} {address : Address}
      (has_vrf : device.HasVrf inst.vrf) (typed : ¬inst.LacksType neighbor)
      (here : inst.PeersAt neighbor address) (earlier : (inst, other) ∈ done)
      (there : inst.PeersAt other address) :
      device.Refuses done (inst, neighbor) (.store (.duplicateName .bgpPeer address.text))

section Identities

variable {inst : BgpInstance} {neighbor : Neighbor}

theorem Neighbor.peerId?_eq_address_iff {address : Address} :
    (neighbor.resolve inst.neighbors).peerId? = some (.address address) ↔
      inst.PeersAt neighbor address := by
  cases neighbor with
  | interface settings =>
      constructor
      · intro identity
        rw [resolve, peerId?] at identity
        split at identity <;> cases identity
      · rintro ⟨_, same, -⟩
        cases same
  | ip settings own =>
      rw [resolve, peerId?, BgpInstance.PeersAt]
      constructor
      · intro identity
        split at identity
        · next valid =>
            obtain ⟨_, rfl, same⟩ := Option.map_eq_some_iff.mp identity
            cases same
            exact ⟨settings, rfl, valid⟩
        · cases identity
      · rintro ⟨_, same, valid⟩
        cases same
        rw [if_pos valid]
        rfl
  | peerGroup settings =>
      constructor
      · intro identity
        cases identity
      · rintro ⟨_, same, -⟩
        cases same

theorem BgpInstance.LacksType.exists_peerId? (lacks : inst.LacksType neighbor) :
    ∃ id, (neighbor.resolve inst.neighbors).peerId? = some id := by
  have valid : (neighbor.resolve inst.neighbors).settings.isValid = true := by
    rw [NeighborSettings.isValid, lacks.remoteAs, Bool.true_or]
  cases neighbor with
  | interface settings =>
      rw [Neighbor.resolve, Neighbor.settings] at valid
      rw [Neighbor.resolve, Neighbor.peerId?, if_pos valid]
      exact ⟨_, rfl⟩
  | ip settings address =>
      obtain ⟨own, rfl⟩ := Option.isSome_iff_exists.mp (lacks.addressed _ _ rfl)
      rw [Neighbor.resolve, Neighbor.settings] at valid
      rw [Neighbor.resolve, Neighbor.peerId?, if_pos valid]
      exact ⟨_, rfl⟩
  | peerGroup settings => cases lacks.no_group

theorem NeighborSettings.remoteAsns_eq_error_iff {settings : NeighborSettings}
    {localAs : Option UInt32} {cause : ConversionError} :
    settings.remoteAsns localAs = .error cause ↔ settings.remoteAsType = none ∧
      localAs.isSome = true ∧ cause = .untypedRemoteAs settings.name := by
  unfold remoteAsns
  cases settings.remoteAsType with
  | none => cases localAs <;> simp [eq_comm]
  | some kind => cases kind <;> cases localAs <;> simp

/-- The AS numbers of a neighbor that becomes a peer cannot be told exactly if its AS lacks a
type. -/
theorem BgpInstance.remoteAsns_eq_error_iff {id : PeerId}
    (identity : (neighbor.resolve inst.neighbors).peerId? = some id) {cause : ConversionError} :
    (neighbor.resolve inst.neighbors).settings.remoteAsns inst.asn = .error cause ↔
      inst.LacksType neighbor ∧ cause = .untypedRemoteAs neighbor.settings.name := by
  rw [NeighborSettings.remoteAsns_eq_error_iff, neighbor.name_resolve]
  obtain ⟨no_group, addressed, valid⟩ := Neighbor.isValid_of_peerId? identity
  constructor
  · rintro ⟨untyped, localAs, same⟩
    rw [NeighborSettings.isValid, untyped, Option.isSome_none, Bool.or_false] at valid
    exact ⟨⟨no_group, addressed, valid, untyped, localAs⟩, same⟩
  · rintro ⟨lacks, same⟩
    exact ⟨lacks.untyped, lacks.localAs, same⟩

end Identities
end NeutralRouting
