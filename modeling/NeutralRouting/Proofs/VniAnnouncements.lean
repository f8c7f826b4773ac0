import NeutralRouting.Proofs.AttachmentPhase
import NeutralRouting.Proofs.RoutedVrfs
import NeutralRouting.Proofs.VniIndex

/-!
# Announced VNIs

Which VNIs the EVPN address families of peers contain.  A VNI of a VXLAN device carries the routed
traffic of VRFs or is a bridged segment of the default VRF, never both, and its entries have its
index wherever they stand.
-/

namespace NeutralRouting

open Std

namespace Device

variable (device : Device)

/-- The VRFs whose routed traffic has the VNI of a VXLAN device, each with this VNI. -/
def announcedVrfs : List (String × UInt32) :=
  device.vrfs.all.filterMap fun vrf =>
    (vrf.vni.filter (· ∈ device.vxlanVnis)).map fun vni => (vrf.name, vni)

/-- The VRFs whose routed traffic has a VNI that no VXLAN device has, each with this VNI. -/
def unannouncedVrfs : List (String × UInt32) :=
  device.vrfs.all.filterMap fun vrf =>
    (vrf.vni.filter (· ∉ device.vxlanVnis)).map fun vni => (vrf.name, vni)

end Device

section Segments

variable {device : Device} {configuration : Configuration} {inst : BgpInstance} {vni : UInt32}

/-- Different VRFs are told apart by what is selected of their VNIs. -/
theorem VrfTable.nodup_filterMap (table : VrfTable) (selected : UInt32 → Bool) :
    (table.all.filterMap fun vrf =>
      (vrf.vni.filter selected).map fun vni => (vrf.name, vni)).Nodup := by
  refine table.nodup_all.filterMap fun first second pair in_first in_second => ?_
  obtain ⟨vni, kept, rfl⟩ := Option.map_eq_some_iff.mp in_first
  obtain ⟨_, kept_again, same⟩ := Option.map_eq_some_iff.mp in_second
  obtain ⟨same_name, rfl⟩ := Prod.mk.inj same
  have first_vni := (Option.filter_eq_some_iff.mp kept).1
  have second_vni := (Option.filter_eq_some_iff.mp kept_again).1
  cases first
  cases second
  simp_all

/-- The bridged segments are the VNIs of VXLAN devices that carry no routed traffic. -/
theorem Device.exists_bridgedSegment_iff :
    (∃ segment ∈ device.bridgedSegments, segment.vni = vni) ↔
      vni ∈ device.vxlanVnis ∧ device.vrfs.isRoutedVni vni = false := by
  simp only [bridgedSegments, List.mem_filterMap, bridgedSegment?, Option.map_eq_some_iff,
    Option.filter_eq_some_iff, mem_vxlanVnis_iff, Bool.not_eq_true']
  constructor
  · rintro ⟨_, ⟨vxlan, member, _, ⟨own, no_routes⟩, rfl⟩, rfl⟩
    exact ⟨⟨vxlan, member, own⟩, no_routes⟩
  · rintro ⟨⟨vxlan, member, own⟩, no_routes⟩
    exact ⟨_, ⟨vxlan, member, vni, ⟨own, no_routes⟩, rfl⟩, rfl⟩

theorem Vrf.mem_layer2Vnis_ground_iff {segments : List Layer2Vni} {name : String} :
    vni ∈ (Vrf.ground segments name).layer2Vnis ↔
      name = defaultVrfName ∧ ∃ segment ∈ segments, segment.vni = vni := by
  have folded : ∀ bridged : ExtTreeMap UInt32 Layer2Vni,
      vni ∈ segments.foldl (fun bridged segment => bridged.insert segment.vni segment) bridged ↔
        vni ∈ bridged ∨ ∃ segment ∈ segments, segment.vni = vni := by
    induction segments with
    | nil => simp
    | cons segment segments ih =>
        intro bridged
        rw [List.foldl_cons, ih, ExtTreeMap.mem_insert, LawfulEqOrd.compare_eq_iff_eq,
          List.exists_mem_cons_iff]
        tauto
  rw [ground]
  split
  · next is_default => simp [folded, is_default]
  · next other => simp [other]

/-- BGP has no part in the bridged segments. -/
theorem bridgedVnis_underlay (configuration : Configuration) (inst : BgpInstance) :
    bridgedVnis configuration.underlay inst = bridgedVnis configuration inst := by
  rw [bridgedVnis, bridgedVnis, Configuration.underlay, ExtTreeMap.getElem?_map]
  cases configuration.vrfs[inst.vrf]? <;> rfl

/-- The bridged segments of the VRF of an instance. -/
theorem mem_bridgedVnis_iff {interfaces : List Interface}
    (skeleton : configuration.underlay.IsSkeleton device.HasVrf interfaces
      device.bridgedSegments) :
    vni ∈ bridgedVnis configuration inst ↔
      inst.vrf = defaultVrfName ∧ vni ∈ device.vxlanVnis ∧
        device.vrfs.isRoutedVni vni = false := by
  rw [← Device.exists_bridgedSegment_iff, ← bridgedVnis_underlay, bridgedVnis]
  cases found : configuration.underlay.vrfs[inst.vrf]? with
  | none =>
      refine iff_of_false List.not_mem_nil ?_
      rintro ⟨is_default, -⟩
      have present := (skeleton.vrfs defaultVrfName _).mpr ⟨.inl rfl, rfl⟩
      rw [← is_default, found] at present
      cases present
  | some vrf =>
      obtain ⟨-, rfl⟩ := (skeleton.vrfs _ _).mp found
      rw [ExtTreeMap.mem_keys, Vrf.mem_layer2Vnis_ground_iff]

end Segments

section Families

variable {device : Device} {params : ConversionParams} {configuration : Configuration}
  {inst : BgpInstance} {neighbor : Neighbor} {peer : BgpPeer} {family : EvpnFamily}
  {asn : UInt32} {routerId : Address}

/-- The VNIs of an address family, each with the index of its entry. -/
def EvpnFamily.announcements (family : EvpnFamily) : List (UInt32 × Nat) :=
  (family.layer2.toList.map fun entry => (entry.vni, entry.distinguisher.index)) ++
    family.layer3.toList.map fun entry => (entry.vni, entry.distinguisher.index)

theorem layer2Announcement?_eq_some_iff {vni : UInt32} {entry : Layer2Entry} :
    layer2Announcement? device.vniIndex inst asn routerId vni = some entry ↔
      vni ∈ device.vxlanVnis ∧
        ⟨vni, inst.vrf, ⟨routerId, device.vniRank vni⟩, .ofVni asn vni⟩ = entry := by
  rw [layer2Announcement?, device.getElem?_vniIndex]
  split
  · next member => simp [member]
  · next absent => simp [absent]

theorem layer3Announcement?_eq_some_iff {vrf : VrfDeclaration} {entry : Layer3Entry} :
    layer3Announcement? device configuration asn routerId vrf = some entry ↔
      ∃ vni, vrf.vni = some vni ∧ vni ∈ device.vxlanVnis ∧
        { vni := vni
          vrf := vrf.name
          distinguisher :=
            ⟨((configuration.bgpProcess? vrf.name).map (·.routerId)).getD routerId,
              device.vniRank vni⟩
          target := .ofVni asn vni
          importPattern := RouteTarget.importPattern vni
          advertiseIpv4 := device.advertisesIpv4 vrf.name } = entry := by
  rw [layer3Announcement?]
  cases vrf.vni with
  | none => simp
  | some vni =>
      simp only [Option.bind_eq_bind, Option.bind_some, device.getElem?_vniIndex]
      by_cases member : vni ∈ device.vxlanVnis <;> simp [member]

/-- The announcements of routed VRFs, one for each whose VNI is that of a VXLAN device. -/
theorem map_layer3Announcement? (device : Device) (configuration : Configuration) (asn : UInt32)
    (routerId : Address) :
    (device.vrfs.routed.filterMap (layer3Announcement? device configuration asn routerId)).map
      (fun entry => (entry.vrf, entry.vni)) = device.announcedVrfs := by
  rw [List.map_filterMap, VrfTable.routed, List.filterMap_filter, Device.announcedVrfs]
  refine List.filterMap_congr fun vrf _ => ?_
  rw [layer3Announcement?]
  cases vrf.vni with
  | none => simp
  | some vni =>
      simp only [Option.bind_eq_bind, Option.bind_some, device.getElem?_vniIndex]
      by_cases member : vni ∈ device.vxlanVnis <;> simp [member, Option.filter]

/-- No announcement of a routed VRF is made twice. -/
theorem toList_layer3_perm (device : Device) (configuration : Configuration) (asn : UInt32)
    (routerId : Address) :
    (ExtTreeSet.ofList (device.vrfs.routed.filterMap
      (layer3Announcement? device configuration asn routerId))).toList.Perm
      (device.vrfs.routed.filterMap
        (layer3Announcement? device configuration asn routerId)) := by
  refine Table.toList_ofList_perm (.of_map (fun entry => (entry.vrf, entry.vni)) ?_)
  rw [map_layer3Announcement?]
  exact device.vrfs.nodup_filterMap _

theorem mem_announcements_iff {vni : UInt32} {index : Nat} :
    (vni, index) ∈ family.announcements ↔
      (∃ entry ∈ family.layer2, entry.vni = vni ∧ entry.distinguisher.index = index) ∨
        ∃ entry ∈ family.layer3, entry.vni = vni ∧ entry.distinguisher.index = index := by
  simp [EvpnFamily.announcements]

/-- What an address family of a peer of the instance contains, if the instance announces all VNIs
or not. -/
structure Device.Tells (device : Device) (inst : BgpInstance) (family : EvpnFamily) : Prop where
  layer2 : ∀ entry ∈ family.layer2, entry.vni ∈ device.vxlanVnis ∧
    device.vrfs.isRoutedVni entry.vni = false ∧
      entry.distinguisher.index = device.vniRank entry.vni
  distinct : ∀ first ∈ family.layer2, ∀ second ∈ family.layer2, first.vni = second.vni →
    first = second
  layer3 : ∀ entry ∈ family.layer3, entry.vni ∈ device.vxlanVnis ∧
    device.vrfs.isRoutedVni entry.vni = true ∧
      entry.distinguisher.index = device.vniRank entry.vni
  routed : (family.layer3.toList.map fun entry => (entry.vrf, entry.vni)).Perm
    device.announcedVrfs
  bridged : inst.vrf = defaultVrfName → ∀ evpn, inst.evpn = some evpn →
    evpn.advertiseAllVni = true → ∀ vni ∈ device.vxlanVnis,
      device.vrfs.isRoutedVni vni = false → ∃ entry ∈ family.layer2, entry.vni = vni

theorem evpn_of_evpnActivation? {settings : NeighborSettings} {evpn : InstanceEvpn}
    {own : NeighborEvpn} (active : evpnActivation? inst settings = some (evpn, asn, own)) :
    inst.evpn = some evpn := by
  simp only [evpnActivation?, Option.bind_eq_bind, Option.bind_eq_some_iff] at active
  obtain ⟨_, own_evpn, _, -, _, -, chosen⟩ := active
  split at chosen
  · cases chosen
    exact own_evpn
  · cases chosen

/-- What an address family is made of. -/
theorem exists_activation_of_evpnFamily? {settings : NeighborSettings} {exportPolicy : String}
    (made : evpnFamily? device configuration inst settings routerId exportPolicy = some family) :
    ∃ evpn asn own, evpnActivation? inst settings = some (evpn, asn, own) ∧
      (∀ entry, entry ∈ family.layer2 ↔ evpn.advertiseAllVni = true ∧
        ∃ vni ∈ bridgedVnis configuration inst,
          layer2Announcement? device.vniIndex inst asn routerId vni = some entry) ∧
      family.layer3 = .ofList (device.vrfs.routed.filterMap
        (layer3Announcement? device configuration asn routerId)) := by
  obtain ⟨⟨evpn, asn, own⟩, active, rfl⟩ := Option.map_eq_some_iff.mp made
  refine ⟨evpn, asn, own, active, fun entry => ?_, rfl⟩
  dsimp only
  split
  · next all_vnis =>
      rw [ExtTreeSet.mem_ofList, List.contains_iff_mem, List.mem_filterMap]
      simp [all_vnis]
  · next some_vnis => simp [some_vnis]

/-- The address families that are made over a skeleton. -/
theorem tells_of_evpnFamily? {interfaces : List Interface} {settings : NeighborSettings}
    {exportPolicy : String}
    (skeleton : configuration.underlay.IsSkeleton device.HasVrf interfaces
      device.bridgedSegments)
    (made : evpnFamily? device configuration inst settings routerId exportPolicy = some family) :
    device.Tells inst family := by
  obtain ⟨evpn, asn, own, active, layer2, layer3⟩ := exists_activation_of_evpnFamily? made
  refine ⟨fun entry member => ?layer2, ?distinct, fun entry member => ?layer3, ?routed, ?bridged⟩
  case layer2 =>
    obtain ⟨-, vni, listed, announced⟩ := (layer2 entry).mp member
    obtain ⟨known, rfl⟩ := layer2Announcement?_eq_some_iff.mp announced
    exact ⟨known, ((mem_bridgedVnis_iff skeleton).mp listed).2.2, rfl⟩
  case distinct =>
    intro first first_mem second second_mem same
    obtain ⟨-, vni, -, announced⟩ := (layer2 first).mp first_mem
    obtain ⟨-, other, -, announced_too⟩ := (layer2 second).mp second_mem
    obtain ⟨-, rfl⟩ := layer2Announcement?_eq_some_iff.mp announced
    obtain ⟨-, rfl⟩ := layer2Announcement?_eq_some_iff.mp announced_too
    cases same
    rfl
  case layer3 =>
    rw [layer3, ExtTreeSet.mem_ofList, List.contains_iff_mem, List.mem_filterMap] at member
    obtain ⟨vrf, routed, announced⟩ := member
    obtain ⟨vni, own_vni, known, rfl⟩ := layer3Announcement?_eq_some_iff.mp announced
    exact ⟨known, VrfTable.isRoutedVni_iff.mpr ⟨vrf, (List.mem_filter.mp routed).1, own_vni⟩,
      rfl⟩
  case routed =>
    rw [layer3, ← map_layer3Announcement? device configuration asn routerId]
    exact (toList_layer3_perm device configuration asn routerId).map _
  case bridged =>
    intro is_default _ same all_vnis vni member no_routes
    cases (evpn_of_evpnActivation? active).symm.trans same
    refine ⟨⟨vni, inst.vrf, ⟨routerId, device.vniRank vni⟩, .ofVni asn vni⟩, ?_, rfl⟩
    exact (layer2 _).mpr ⟨all_vnis, vni,
      (mem_bridgedVnis_iff skeleton).mpr ⟨is_default, member, no_routes⟩,
      layer2Announcement?_eq_some_iff.mpr ⟨member, rfl⟩⟩

namespace Device.Tells

variable (tells : device.Tells inst family)
include tells

/-- Every VNI that is announced is that of a VXLAN device, under its index. -/
theorem of_mem_announcements {vni : UInt32} {index : Nat}
    (member : (vni, index) ∈ family.announcements) :
    vni ∈ device.vxlanVnis ∧ index = device.vniRank vni := by
  rcases mem_announcements_iff.mp member with ⟨entry, listed, rfl, rfl⟩ | ⟨entry, listed, rfl, rfl⟩
  · exact ⟨(tells.layer2 entry listed).1, (tells.layer2 entry listed).2.2⟩
  · exact ⟨(tells.layer3 entry listed).1, (tells.layer3 entry listed).2.2⟩

/-- An instance of the default VRF that announces all VNIs announces those of all VXLAN devices. -/
theorem mem_announced_iff (is_default : inst.vrf = defaultVrfName) {evpn : InstanceEvpn}
    (own_evpn : inst.evpn = some evpn) (all_vnis : evpn.advertiseAllVni = true) {vni : UInt32} :
    vni ∈ family.announcements.map Prod.fst ↔ vni ∈ device.vxlanVnis := by
  constructor
  · intro member
    obtain ⟨⟨_, index⟩, listed, rfl⟩ := List.mem_map.mp member
    exact (tells.of_mem_announcements listed).1
  · intro member
    refine List.mem_map.mpr ⟨(vni, device.vniRank vni), mem_announcements_iff.mpr ?_, rfl⟩
    cases routes : device.vrfs.isRoutedVni vni with
    | false =>
        obtain ⟨entry, listed, rfl⟩ :=
          tells.bridged is_default evpn own_evpn all_vnis vni member routes
        exact .inl ⟨entry, listed, rfl, (tells.layer2 entry listed).2.2⟩
    | true =>
        obtain ⟨vrf, declared, own_vni⟩ := VrfTable.isRoutedVni_iff.mp routes
        have announced : (vrf.name, vni) ∈ device.announcedVrfs := by
          refine List.mem_filterMap.mpr ⟨vrf, declared, ?_⟩
          rw [own_vni, Option.filter_some, if_pos (decide_eq_true member)]
          rfl
        obtain ⟨entry, listed, same⟩ := List.mem_map.mp (tells.routed.mem_iff.mpr announced)
        obtain ⟨-, rfl⟩ := Prod.mk.inj same
        rw [ExtTreeSet.mem_toList] at listed
        exact .inr ⟨entry, listed, rfl, (tells.layer3 entry listed).2.2⟩

end Device.Tells

end Families
end NeutralRouting
