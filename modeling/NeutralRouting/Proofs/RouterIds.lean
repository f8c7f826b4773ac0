import NeutralRouting.Proofs.OspfAreas
import NeutralRouting.Proofs.PeerCorrespondence
import NeutralRouting.Proofs.PrefixCovering

/-!
# Router ids

Processes whose instance has no router id share one.  It is the numerically greatest address of the
loopback outside 127.0.0.0/8, or else that of all interfaces.  Interface addresses are compared
with their mask lengths, but these only decide between equal addresses.
-/

namespace NeutralRouting

open Std Conversion

/-- Of the given addresses, this one has the greatest value. -/
structure Address.IsGreatestOf (address : Address) (addresses : List Address) : Prop where
  mem : address ∈ addresses
  toNat_le : ∀ other ∈ addresses, other.toNat ≤ address.toNat

theorem Address.IsGreatestOf.ne_nil {address : Address} {addresses : List Address}
    (greatest : address.IsGreatestOf addresses) : addresses ≠ [] :=
  List.ne_nil_of_mem greatest.mem

/-- Which address is the greatest depends on which ones there are alone. -/
theorem Address.IsGreatestOf.eq_of_mem_iff {address other : Address}
    {addresses others : List Address}
    (greatest : address.IsGreatestOf addresses) (greatest_too : other.IsGreatestOf others)
    (same : ∀ candidate, candidate ∈ addresses ↔ candidate ∈ others) : address = other := by
  apply eq_of_toNat_eq
  apply Nat.le_antisymm
  · exact greatest_too.toNat_le address ((same address).mp greatest.mem)
  · exact greatest.toNat_le other ((same other).mpr greatest_too.mem)

section Maximum

/-- Interface addresses are ordered by their addresses first. -/
theorem InterfaceAddress.toNat_le_of_isLE {left right : InterfaceAddress}
    (ordered : (compare left right).isLE = true) : left.address.toNat ≤ right.address.toNat := by
  change ((compare left.address right.address).then
    (compare left.maskLength right.maskLength)).isLE = true at ordered
  rw [Ordering.isLE_then_iff_or, Address.compare_eq_lt_iff, LawfulEqOrd.compare_eq_iff_eq]
    at ordered
  rcases ordered with less | ⟨same, -⟩
  · exact Nat.le_of_lt less
  · exact Nat.le_of_eq (congrArg Address.toNat same)

/-- The later of two interface addresses is one of them, and neither has a greater address. -/
theorem InterfaceAddress.max_bounds (left right : InterfaceAddress) :
    (max left right = left ∨ max left right = right) ∧
      left.address.toNat ≤ (max left right).address.toNat ∧
      right.address.toNat ≤ (max left right).address.toNat := by
  by_cases ordered : (compare left right).isLE = true
  · have later : max left right = right := if_pos ordered
    rw [later]
    exact ⟨.inr rfl, toNat_le_of_isLE ordered, Nat.le_refl _⟩
  · have later : max left right = left := if_neg ordered
    rw [Bool.not_eq_true, Ordering.isLE_eq_false] at ordered
    have reversed : (compare right left).isLE = true :=
      OrientedCmp.isLE_of_isGE (by rw [ordered]; rfl)
    rw [later]
    exact ⟨.inl rfl, Nat.le_refl _, toNat_le_of_isLE reversed⟩

theorem isGreatestOf_foldl_max (first : InterfaceAddress) (rest : List InterfaceAddress) :
    (rest.foldl max first).address.IsGreatestOf ((first :: rest).map (·.address)) := by
  induction rest generalizing first with
  | nil =>
      refine ⟨List.mem_singleton_self _, fun other member => ?_⟩
      rw [List.mem_singleton.mp member]
      exact Nat.le_refl _
  | cons next rest ih =>
      obtain ⟨mem, toNat_le⟩ := ih (max first next)
      obtain ⟨either, first_le, next_le⟩ := first.max_bounds next
      have max_le := toNat_le _ List.mem_cons_self
      rw [List.map_cons, List.map_cons, List.foldl_cons]
      refine ⟨?_, fun other member => ?_⟩
      · rcases List.mem_cons.mp mem with same | later
        · rw [same]
          rcases either with same | same <;> simp [same]
        · exact List.mem_cons_of_mem _ (List.mem_cons_of_mem _ later)
      · rcases List.mem_cons.mp member with rfl | member
        · exact Nat.le_trans first_le max_le
        · rcases List.mem_cons.mp member with rfl | later
          · exact Nat.le_trans next_le max_le
          · exact toNat_le other (List.mem_cons_of_mem _ later)

/-- The last of some interface addresses has the greatest address. -/
theorem isGreatestOf_of_max? {chosen : InterfaceAddress} {addresses : List InterfaceAddress}
    (last : addresses.max? = some chosen) :
    chosen.address.IsGreatestOf (addresses.map (·.address)) := by
  cases addresses with
  | nil => cases last
  | cons first rest =>
      cases last
      exact isGreatestOf_foldl_max first rest

end Maximum

theorem internalLength_le : 8 ≤ Prefix.maxLength := by decide

/-- The block of addresses that never leave the device, 127.0.0.0/8. -/
def internalBlock : Prefix := .ofAddress (.ofOctets 127 0 0 0) 8 internalLength_le

theorem coversAddress_internalBlock (address : Address) :
    internalBlock.coversAddress address = address.isInternal := by
  rw [Bool.eq_iff_iff, Prefix.coversAddress_iff, Address.isInternal, beq_iff_eq]
  have first : internalBlock.network.toNat = 127 * 16777216 := by decide
  have size : internalBlock.size = 16777216 := by decide
  rw [first, size]
  omega

namespace Device

/-- The addresses of a configured loopback outside 127.0.0.0/8. -/
def externalAddresses (device : Device) : List Address :=
  if device.loopback.configured then
    (device.loopback.addresses.map (·.address)).filter (!internalBlock.coversAddress ·)
  else []

/-- The addresses of all interfaces, whatever their VRF and mask length. -/
def interfaceAddresses (device : Device) : List Address :=
  device.interfaces.values.flatMap fun interface => interface.addresses.map (·.address)

/-- The router ids that may be inferred for a device. -/
inductive Infers (device : Device) : Address → Prop
  /-- The greatest address of the loopback outside 127.0.0.0/8. -/
  | loopback {address : Address} : address.IsGreatestOf device.externalAddresses →
      device.Infers address
  /-- The greatest address of all interfaces, if the loopback has none to offer. -/
  | interface {address : Address} : device.externalAddresses = [] →
      address.IsGreatestOf device.interfaceAddresses → device.Infers address
  /-- The address 0.0.0.0, if there is no other. -/
  | unspecified : device.externalAddresses = [] → device.interfaceAddresses = [] →
      device.Infers .unspecified

theorem infers_routerId (device : Device) : device.Infers device.routerId := by
  let offered := if device.loopback.configured then
    device.loopback.addresses.filter fun address => !address.address.isInternal else []
  let all := device.interfaces.values.flatMap (·.addresses)
  have external : device.externalAddresses = offered.map (·.address) := by
    simp only [externalAddresses, offered, coversAddress_internalBlock, List.filter_map,
      Function.comp_def, apply_ite (List.map _), List.map_nil]
  have interfaces : device.interfaceAddresses = all.map (·.address) :=
    List.map_flatMap.symm
  have routerId : device.routerId =
      ((offered.max? <|> all.max?).map (·.address)).getD .unspecified := by
    simp only [Device.routerId, offered, apply_ite List.max?, List.max?_nil]
    rfl
  rw [routerId]
  cases from_loopback : offered.max? with
  | some chosen => exact .loopback (external ▸ isGreatestOf_of_max? from_loopback)
  | none =>
      have no_external : device.externalAddresses = [] := by
        rw [external, List.max?_eq_none_iff.mp from_loopback, List.map_nil]
      cases from_interfaces : all.max? with
      | some chosen =>
          exact .interface no_external (interfaces ▸ isGreatestOf_of_max? from_interfaces)
      | none =>
          refine .unspecified no_external ?_
          rw [interfaces, List.max?_eq_none_iff.mp from_interfaces, List.map_nil]

/-- The router id depends on nothing but which addresses there are. -/
theorem Infers.eq_of_mem_iff {device other : Device} {id id_too : Address}
    (inferred : device.Infers id) (inferred_too : other.Infers id_too)
    (same_external : ∀ address,
      address ∈ other.externalAddresses ↔ address ∈ device.externalAddresses)
    (same_interfaces : ∀ address,
      address ∈ other.interfaceAddresses ↔ address ∈ device.interfaceAddresses) :
    id_too = id := by
  have no_external : other.externalAddresses = [] ↔ device.externalAddresses = [] := by
    simp only [List.eq_nil_iff_forall_not_mem, same_external]
  have no_interfaces : other.interfaceAddresses = [] ↔ device.interfaceAddresses = [] := by
    simp only [List.eq_nil_iff_forall_not_mem, same_interfaces]
  cases inferred with
  | loopback greatest =>
      have offered := mt no_external.mp greatest.ne_nil
      cases inferred_too with
      | loopback greatest_too => exact greatest_too.eq_of_mem_iff greatest same_external
      | interface none => exact absurd none offered
      | unspecified none => exact absurd none offered
  | interface none greatest =>
      cases inferred_too with
      | loopback greatest_too => exact absurd (no_external.mpr none) greatest_too.ne_nil
      | interface _ greatest_too => exact greatest_too.eq_of_mem_iff greatest same_interfaces
      | unspecified _ empty => exact absurd (no_interfaces.mp empty) greatest.ne_nil
  | unspecified none empty =>
      cases inferred_too with
      | loopback greatest_too => exact absurd (no_external.mpr none) greatest_too.ne_nil
      | interface _ greatest_too => exact absurd (no_interfaces.mpr empty) greatest_too.ne_nil
      | unspecified => rfl

/-- The OSPF instance that the process of a VRF is built from: the last one that names it. -/
def ospfInstance? (device : Device) (vrf : String) : Option OspfInstance :=
  device.ospfInstances.reverse.find? (·.vrf = vrf)

end Device

theorem routerId_ospfInstanceProcess (device : Device) (params : ConversionParams)
    (inst : OspfInstance) (interfaces : List (String × OspfSettings)) :
    (ospfInstanceProcess device params inst interfaces).routerId =
      inst.routerId.getD device.routerId := by
  rw [ospfInstanceProcess]
  induction interfaces using List.reverseRecOn with
  | nil => rfl
  | append_singleton interfaces interface ih =>
      rw [List.foldl_append]
      exact ih

section Conversions

variable {device : Device} {params : ConversionParams} {compile : RouteMapCompiler}
  {progress : Progress}

/-- The process of a BGP instance has the router id of the instance, or the inferred one.  Attaching
neighbors and later phases do not change it. -/
theorem exists_bgpProcess_of_convert (converted : device.convert params compile = .ok progress)
    {inst : BgpInstance} (active : inst ∈ device.activeInstances) :
    ∃ process, progress.configuration.bgpProcess? inst.vrf = some process ∧
      process.routerId = inst.routerId.getD device.routerId := by
  obtain ⟨instances, runs_bgp, member, has_vrf⟩ := Device.mem_activeInstances_iff.mp active
  obtain ⟨built, bgp, runs, -, attach_run, same⟩ := exists_attachment_of_convert converted runs_bgp
  have own := @Device.Runs.configured device params instances inst member has_vrf
  obtain ⟨process, running, kept, -⟩ :=
    hasPeers_of_attachNeighbors attach_run ((runs _ _).mpr own) own.peer?_eq_none
  rw [same]
  exact ⟨process, running, BgpProcess.routerId_of_withoutPeers_eq kept⟩

/-- The process of an OSPF instance has the router id of the instance, or the inferred one. -/
theorem exists_ospfProcess_of_convert (converted : device.convert params compile = .ok progress)
    {vrf : String} {inst : OspfInstance} (present : vrf ∈ progress.configuration.vrfs)
    (names : device.ospfInstance? vrf = some inst) :
    ∃ process, progress.configuration.ospfProcess? vrf = some process ∧
      process.routerId = inst.routerId.getD device.routerId := by
  have running := ((runsOspf_of_convert converted).ospfProcess?_eq_some_iff vrf _).mpr
    ⟨present, inst, names, rfl⟩
  exact ⟨_, running, routerId_ospfInstanceProcess device params inst _⟩

/-- All instances without a router id have the same one: the greatest address of the loopback
outside 127.0.0.0/8, or else of all interfaces, or else 0.0.0.0. -/
theorem convert_shares_routerId (converted : device.convert params compile = .ok progress) :
    device.Infers device.routerId ∧
    (∀ inst ∈ device.activeInstances, inst.routerId = none →
      ∃ process, progress.configuration.bgpProcess? inst.vrf = some process ∧
        process.routerId = device.routerId) ∧
    (∀ (vrf : String) (inst : OspfInstance), vrf ∈ progress.configuration.vrfs →
      device.ospfInstance? vrf = some inst → inst.routerId = none →
      ∃ process, progress.configuration.ospfProcess? vrf = some process ∧
        process.routerId = device.routerId) ∧
    ∀ (other : Device) (id : Address), other.Infers id →
      (∀ address, address ∈ other.externalAddresses ↔ address ∈ device.externalAddresses) →
      (∀ address, address ∈ other.interfaceAddresses ↔ address ∈ device.interfaceAddresses) →
      id = device.routerId := by
  refine ⟨device.infers_routerId, fun inst active unset => ?_,
    fun vrf inst present names unset => ?_, fun other id inferred => ?_⟩
  · obtain ⟨process, running, routerId⟩ := exists_bgpProcess_of_convert converted active
    rw [unset] at routerId
    exact ⟨process, running, routerId⟩
  · obtain ⟨process, running, routerId⟩ := exists_ospfProcess_of_convert converted present names
    rw [unset] at routerId
    exact ⟨process, running, routerId⟩
  · exact device.infers_routerId.eq_of_mem_iff inferred

/-- A device that runs BGP in one VRF and OSPF in another.  Its loopback has internal addresses
only,
and its greatest address is that of an interface. -/
def innerLoopbackRouter : Device :=
  { Device.bare "inner" with
    bgp := some ⟨{ borderInstance with ipv4Unicast := none, neighbors := ∅ }, ∅⟩
    ospf := some ⟨⟨defaultVrfName, some (.ofOctets 10 0 0 1)⟩,
      (∅ : ExtTreeMap String OspfInstance).insert "blue" ⟨"blue", none⟩⟩
    vrfs := ⟨(∅ : ExtTreeMap String (Option UInt32)).insert "blue" none⟩
    interfaces := ((∅ : ExtTreeMap String DeviceInterface).insert "swp1"
      ⟨"swp1", none, [⟨.ofOctets 172 16 0 1, 30, by decide⟩, ⟨.ofOctets 10 9 0 1, 28, by decide⟩],
        none⟩).insert "swp2"
      ⟨"swp2", some "blue", [⟨.ofOctets 192 168 0 1, 16, by decide⟩], none⟩
    loopback := ⟨true, [⟨.ofOctets 127 0 0 1, 8, by decide⟩], none⟩ }

/-- Both processes have the greatest address of all interfaces as their router id. -/
theorem convert_innerLoopbackRouter_shares_routerId :
    ∃ progress, innerLoopbackRouter.convert .standard entrywiseCompiler = .ok progress ∧
      innerLoopbackRouter.Infers (.ofOctets 192 168 0 1) ∧
      (∃ process, progress.configuration.bgpProcess? defaultVrfName = some process ∧
        process.routerId = .ofOctets 192 168 0 1) ∧
      ∃ process, progress.configuration.ospfProcess? "blue" = some process ∧
        process.routerId = .ofOctets 192 168 0 1 := by
  have succeeds : (innerLoopbackRouter.convert .standard entrywiseCompiler).isOk = true := by
    decide +kernel
  obtain ⟨progress, converted⟩ := exists_convert_of_isOk succeeds
  have routerId : innerLoopbackRouter.routerId = .ofOctets 192 168 0 1 := by decide +kernel
  have has_vrf : innerLoopbackRouter.HasVrf "blue" := .inr (by decide +kernel)
  obtain ⟨infers, by_bgp, by_ospf, -⟩ := convert_shares_routerId converted
  rw [routerId] at infers by_bgp by_ospf
  refine ⟨progress, converted, infers, ?_, ?_⟩
  · exact by_bgp { borderInstance with ipv4Unicast := none, neighbors := ∅ } (by decide +kernel) rfl
  · exact by_ospf "blue" ⟨"blue", none⟩ ((mem_vrfs_of_convert converted _).mpr has_vrf)
      (by decide +kernel) rfl

end Conversions
end NeutralRouting
