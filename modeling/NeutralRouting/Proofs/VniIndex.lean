import Mathlib.Data.Finset.Card
import NeutralRouting.Evpn.Family
import NeutralRouting.Proofs.Table

/-!
# The index of VNIs

The VNIs of the VXLAN devices are numbered by their rank among these VNIs.  Neither the names of the
devices nor the order in which they are written matter, and different VNIs have different numbers.
-/

namespace NeutralRouting

open Std

/-- The VNIs of the VXLAN devices. -/
def Device.vxlanVnis (device : Device) : Finset UInt32 :=
  (device.vxlans.values.filterMap (·.vni)).toFinset

/-- How many VNIs of VXLAN devices are less than the given one. -/
def Device.vniRank (device : Device) (vni : UInt32) : Nat :=
  (device.vxlanVnis.filter (· < vni)).card

namespace Device

variable {device : Device} {vni other : UInt32}

theorem mem_vxlanVnis_iff :
    vni ∈ device.vxlanVnis ↔ ∃ vxlan ∈ device.vxlans.values, vxlan.vni = some vni := by
  rw [vxlanVnis, List.mem_toFinset, List.mem_filterMap]

/-- A VNI is ranked lower than the greater ones. -/
theorem vniRank_lt_vniRank (member : vni ∈ device.vxlanVnis) (lower : vni < other) :
    device.vniRank vni < device.vniRank other := by
  refine Finset.card_lt_card (Finset.ssubset_iff_of_subset ?_ |>.mpr ⟨vni, ?_, ?_⟩)
  · intro smaller listed
    rw [Finset.mem_filter] at listed ⊢
    exact ⟨listed.1, UInt32.lt_trans listed.2 lower⟩
  · exact Finset.mem_filter.mpr ⟨member, lower⟩
  · simp

/-- Two VNIs of VXLAN devices have the same rank only if they are the same. -/
theorem vniRank_eq_vniRank_iff (member : vni ∈ device.vxlanVnis)
    (other_mem : other ∈ device.vxlanVnis) :
    device.vniRank vni = device.vniRank other ↔ vni = other := by
  refine ⟨fun same => ?_, fun same => congrArg _ same⟩
  by_contra different
  rcases UInt32.lt_or_lt_of_ne different with lower | lower
  · exact absurd same (vniRank_lt_vniRank member lower).ne
  · exact absurd same (vniRank_lt_vniRank other_mem lower).ne'

end Device

section Numbering

/-- In an ascending list every item is numbered by how many of them are less. -/
theorem mem_zipIdx_iff_of_ascending {items : List UInt32} (ascending : items.Pairwise (· < ·))
    (start : Nat) (item : UInt32) (number : Nat) :
    (item, number) ∈ items.zipIdx start ↔
      item ∈ items ∧ number = start + items.countP (· < item) := by
  induction items generalizing start with
  | nil => simp
  | cons head items ih =>
      obtain ⟨above, ascending⟩ := List.pairwise_cons.mp ascending
      rw [List.zipIdx_cons, List.mem_cons, ih ascending, List.mem_cons, Prod.mk.injEq,
        List.countP_cons]
      by_cases own : item = head
      · subst own
        have fresh : item ∉ items := fun later => UInt32.lt_irrefl item (above item later)
        have none_below : items.countP (· < item) = 0 := by
          rw [List.countP_eq_zero]
          intro other later
          simpa using UInt32.le_of_lt (above other later)
        simp [fresh, none_below]
      · simp only [own, false_and, false_or]
        refine and_congr_right fun later => ?_
        rw [if_pos (by simpa using above item later)]
        omega

end Numbering

/-- The index of a VNI is its rank, if it is that of a VXLAN device. -/
theorem Device.getElem?_vniIndex (device : Device) (vni : UInt32) :
    device.vniIndex[vni]? =
      if vni ∈ device.vxlanVnis then some (device.vniRank vni) else none := by
  let vnis := device.vxlans.values.filterMap (·.vni)
  let sorted := (ExtTreeSet.ofList vnis).toList
  have ascending : sorted.Pairwise (· < ·) :=
    ExtTreeSet.ordered_toList.imp fun {_ _} ordered => compare_eq_lt.mp ordered
  have mem_sorted : ∀ vni, vni ∈ sorted ↔ vni ∈ device.vxlanVnis := by
    intro vni
    rw [vxlanVnis, List.mem_toFinset]
    simp only [sorted, vnis, ExtTreeSet.mem_toList, ExtTreeSet.mem_ofList, List.contains_iff_mem]
  have distinct : sorted.Nodup := ascending.imp fun {_ _} lower => UInt32.ne_of_lt lower
  have rank : sorted.countP (· < vni) = device.vniRank vni := by
    have same : device.vxlanVnis.filter (· < vni) =
        (sorted.filter (· < vni)).toFinset := by
      ext other
      simp [mem_sorted]
    rw [vniRank, same, List.toFinset_card_of_nodup (distinct.filter _),
      List.countP_eq_length_filter]
  change (ExtTreeMap.ofList sorted.zipIdx)[vni]? = _
  split
  · next member =>
      apply ExtTreeMap.getElem?_ofList_of_mem ReflCmp.compare_self
      · have keys : (sorted.zipIdx.map Prod.fst).Nodup := by rwa [List.zipIdx_map_fst]
        rw [List.Nodup, List.pairwise_map] at keys
        exact keys.imp fun different same => different (LawfulEqOrd.eq_of_compare same)
      · rw [mem_zipIdx_iff_of_ascending ascending, mem_sorted, rank, Nat.zero_add]
        exact ⟨member, rfl⟩
  · next absent =>
      refine ExtTreeMap.getElem?_eq_none fun listed => absent ?_
      rwa [ExtTreeMap.mem_ofList, List.zipIdx_map_fst, List.contains_iff_mem, mem_sorted] at listed

end NeutralRouting
