import Mathlib.Data.FinEnum
import Mathlib.Data.Set.Card
import Mathlib.Order.Interval.Set.Nat
import NeutralRouting.Proofs.AsnSpace

/-!
# Spaces of AS numbers in canonical form

The spaces that arise from single numbers and the space of all numbers by taking differences keep
their ranges in order, none of them empty, and any two of them with a number in between that is
missing.  So the sizes of the ranges add up to the number of members, and the members determine the
space.
-/

namespace NeutralRouting

namespace AsnRange

variable {range other cut part : AsnRange} {asn : UInt32}

/-- The first range ends before the other one starts, with a number in between. -/
def Before (range other : AsnRange) : Prop := range.last.toNat + 1 < other.first.toNat

theorem before_iff : range.Before other ↔ ∃ gap, range.last < gap ∧ gap < other.first := by
  simp only [Before, UInt32.lt_iff_toNat_lt]
  constructor
  · intro apart
    have fits : range.last.toNat + 1 < UInt32.size := Nat.lt_trans apart other.first.toNat_lt
    refine ⟨UInt32.ofNat (range.last.toNat + 1), ?_⟩
    rw [UInt32.toNat_ofNat_of_lt' fits]
    omega
  · rintro ⟨gap, above, below⟩
    omega

/-- What a cut leaves of a range is not empty, and lies within the range. -/
theorem bounds_of_mem_without (cut : AsnRange) (nonempty : range.first ≤ range.last)
    (member : part ∈ range.without cut) :
    part.first ≤ part.last ∧ range.first ≤ part.first ∧ part.last ≤ range.last := by
  simp only [without] at member
  grind

/-- Between the two parts that a cut leaves of a range lies the cut. -/
theorem pairwise_without (nonempty : cut.first ≤ cut.last) :
    (range.without cut).Pairwise Before := by
  rw [without]
  split
  · exact List.pairwise_singleton _ _
  · rw [List.pairwise_append]
    refine ⟨by split <;> simp, by split <;> simp, ?_⟩
    intro below in_below above in_above
    refine before_iff.mpr ⟨cut.first, ?_⟩
    grind

/-- A range has as many members as its size says. -/
theorem ncard_members (nonempty : range.first ≤ range.last) :
    {asn | range.contains asn = true}.ncard = range.size := by
  have image : UInt32.toNat '' {asn | range.contains asn = true} =
      Set.Icc range.first.toNat range.last.toNat := by
    ext number
    simp only [Set.mem_image, Set.mem_ofPred_eq, contains_iff, Set.mem_Icc, UInt32.le_iff_toNat_le]
    constructor
    · rintro ⟨asn, bounds, rfl⟩
      exact bounds
    · intro bounds
      have fits : number < UInt32.size := lt_of_le_of_lt bounds.2 range.last.toNat_lt
      refine ⟨UInt32.ofNat number, ?_⟩
      rw [UInt32.toNat_ofNat_of_lt' fits]
      exact ⟨bounds, rfl⟩
  have ordered := UInt32.le_iff_toNat_le.mp nonempty
  rw [← Set.ncard_image_of_injective _ fun _ _ => UInt32.toNat_inj.mp, image, Set.ncard_Icc_nat,
    size]
  omega

end AsnRange

namespace AsnSpace

open AsnRange

variable {space other : AsnSpace} {range cut : AsnRange} {rest : List AsnRange} {asn : UInt32}

/-- The ranges are in order, none of them is empty, and no two of them touch. -/
structure Canonical (space : AsnSpace) : Prop where
  nonempty : ∀ range ∈ space.ranges, range.first ≤ range.last
  apart : space.ranges.Pairwise Before

/-- The spaces that arise by taking differences. -/
inductive Built : AsnSpace → Prop
  | all : Built all
  | empty : Built empty
  | singleton (asn : UInt32) : Built (singleton asn)
  | difference {space other : AsnSpace} (built : Built space) (taken : Built other) :
      Built (space.difference other)

theorem canonical_cons_iff :
    Canonical ⟨range :: rest⟩ ↔
      range.first ≤ range.last ∧ (∀ later ∈ rest, range.Before later) ∧ Canonical ⟨rest⟩ := by
  constructor
  · rintro ⟨nonempty, apart⟩
    obtain ⟨first, others⟩ := List.forall_mem_cons.mp nonempty
    obtain ⟨before, apart⟩ := List.pairwise_cons.mp apart
    exact ⟨first, before, others, apart⟩
  · rintro ⟨first, before, others, apart⟩
    exact ⟨List.forall_mem_cons.mpr ⟨first, others⟩, List.pairwise_cons.mpr ⟨before, apart⟩⟩

theorem contains_cons_iff :
    contains ⟨range :: rest⟩ asn = true ↔
      range.contains asn = true ∨ contains ⟨rest⟩ asn = true := by
  simp only [contains, List.any_cons, Bool.or_eq_true]

section Invariant

theorem canonical_singleton_range (nonempty : range.first ≤ range.last) :
    Canonical ⟨[range]⟩ where
  nonempty := List.forall_mem_singleton.mpr nonempty
  apart := List.pairwise_singleton _ _

theorem Canonical.withoutRange (canonical : space.Canonical) (cut_nonempty : cut.first ≤ cut.last) :
    (space.withoutRange cut).Canonical where
  nonempty := by
    intro part member
    obtain ⟨range, in_space, in_range⟩ := List.mem_flatMap.mp member
    exact (bounds_of_mem_without cut (canonical.nonempty range in_space) in_range).1
  apart := by
    refine List.pairwise_flatMap.mpr ⟨fun range _ => pairwise_without cut_nonempty, ?_⟩
    refine canonical.apart.imp_of_mem ?_
    intro left right in_left in_right before below in_below above in_above
    obtain ⟨gap, left_lt, lt_right⟩ := before_iff.mp before
    obtain ⟨-, -, ends⟩ := bounds_of_mem_without cut (canonical.nonempty left in_left) in_below
    obtain ⟨-, starts, -⟩ := bounds_of_mem_without cut (canonical.nonempty right in_right) in_above
    exact before_iff.mpr
      ⟨gap, UInt32.lt_of_le_of_lt ends left_lt, UInt32.lt_of_lt_of_le lt_right starts⟩

theorem Canonical.difference (canonical : space.Canonical) (taken : other.Canonical) :
    (space.difference other).Canonical := by
  obtain ⟨cuts⟩ := other
  induction cuts generalizing space with
  | nil => exact canonical
  | cons cut cuts ih =>
      obtain ⟨cut_nonempty, -, taken⟩ := canonical_cons_iff.mp taken
      exact ih (canonical.withoutRange cut_nonempty) taken

theorem Built.canonical (built : space.Built) : space.Canonical := by
  induction built with
  | all => exact canonical_singleton_range (by decide)
  | empty => exact ⟨nofun, List.Pairwise.nil⟩
  | singleton asn => exact canonical_singleton_range (UInt32.le_refl asn)
  | difference _ _ canonical taken => exact canonical.difference taken

/-- The AS numbers that a neighbor may have arise by taking differences. -/
theorem canonical_remoteAsns {settings : NeighborSettings} {localAs : Option UInt32}
    (clear : settings.remoteAsns localAs = .ok space) : space.Canonical := by
  refine Built.canonical ?_
  revert clear
  unfold NeighborSettings.remoteAsns
  rcases settings.remoteAsType with _ | _ | _ | _ <;> rcases localAs with _ | own <;> rintro ⟨⟩
  case some.explicit.none | some.explicit.some =>
    cases settings.remoteAs with
    | none => exact .empty
    | some given => exact .singleton given
  case some.external.some => exact .difference .all (.singleton own)
  case some.internal.some => exact .singleton own
  all_goals exact .empty

example :
    (all.difference (singleton 65000)).ranges = [⟨1, 64999⟩, ⟨65001, 4294967295⟩] := by decide

end Invariant

section Members

/-- The members of the later ranges are beyond the first one, and do not touch it. -/
theorem gap_of_contains_rest (before : ∀ later ∈ rest, range.Before later)
    (inside : contains ⟨rest⟩ asn = true) : range.last.toNat + 1 < asn.toNat := by
  obtain ⟨later, member, within⟩ := contains_iff.mp inside
  have starts := UInt32.le_iff_toNat_le.mp (AsnRange.contains_iff.mp within).1
  exact Nat.lt_of_lt_of_le (before later member) starts

theorem not_contains_of_contains_rest (before : ∀ later ∈ rest, range.Before later)
    (inside : contains ⟨rest⟩ asn = true) : ¬range.contains asn = true := by
  intro within
  have ends := UInt32.le_iff_toNat_le.mp (AsnRange.contains_iff.mp within).2
  have beyond := gap_of_contains_rest before inside
  omega

theorem size_cons : size ⟨range :: rest⟩ = range.size + size ⟨rest⟩ := by
  simp only [size, ← List.sum_eq_foldl_nat, List.map_cons, List.sum_cons]

theorem Canonical.size_eq_ncard (canonical : space.Canonical) :
    space.size = {asn | space.contains asn = true}.ncard := by
  obtain ⟨ranges⟩ := space
  induction ranges with
  | nil => simp [size, contains]
  | cons range rest ih =>
      obtain ⟨nonempty, before, canonical⟩ := canonical_cons_iff.mp canonical
      have union : {asn | contains ⟨range :: rest⟩ asn = true} =
          {asn | range.contains asn = true} ∪ {asn | contains ⟨rest⟩ asn = true} :=
        Set.ext fun _ => contains_cons_iff
      have disjoint : Disjoint {asn | range.contains asn = true}
          {asn | contains ⟨rest⟩ asn = true} :=
        Set.disjoint_right.mpr fun _ => not_contains_of_contains_rest before
      rw [size_cons, ih canonical, union, Set.ncard_union_eq disjoint, ncard_members nonempty]

theorem Canonical.isEmpty_iff (canonical : space.Canonical) :
    space.isEmpty = true ↔ space.size = 0 := by
  obtain ⟨_ | ⟨range, rest⟩⟩ := space
  · exact iff_of_true rfl rfl
  · refine iff_of_false nofun ?_
    rw [size_cons, AsnRange.size]
    omega

theorem contains_first (canonical : Canonical ⟨range :: rest⟩) :
    contains ⟨range :: rest⟩ range.first = true := by
  obtain ⟨nonempty, -, -⟩ := canonical_cons_iff.mp canonical
  exact contains_cons_iff.mpr (.inl (AsnRange.contains_iff.mpr ⟨UInt32.le_refl _, nonempty⟩))

theorem contains_rest_iff (canonical : Canonical ⟨range :: rest⟩) :
    contains ⟨rest⟩ asn = true ↔
      contains ⟨range :: rest⟩ asn = true ∧ ¬range.contains asn = true := by
  obtain ⟨-, before, -⟩ := canonical_cons_iff.mp canonical
  rw [contains_cons_iff]
  refine ⟨fun later => ⟨.inr later, fun within => ?_⟩, fun ⟨some_range, outside⟩ =>
    some_range.resolve_left outside⟩
  exact not_contains_of_contains_rest before later within

theorem first_le_of_contains (canonical : Canonical ⟨range :: rest⟩)
    (inside : contains ⟨range :: rest⟩ asn = true) : range.first ≤ asn := by
  obtain ⟨nonempty, before, -⟩ := canonical_cons_iff.mp canonical
  rcases contains_cons_iff.mp inside with within | later
  · exact (AsnRange.contains_iff.mp within).1
  · have beyond := gap_of_contains_rest before later
    rw [UInt32.le_iff_toNat_le] at nonempty ⊢
    omega

/-- If all members of a range belong to a space that starts with a range from the same number on,
they belong to that first range, since the next number is missing. -/
theorem last_le_of_contains {leader : AsnRange} (canonical : Canonical ⟨leader :: rest⟩)
    (starts : range.first ≤ leader.first)
    (within : ∀ asn, range.contains asn = true → contains ⟨leader :: rest⟩ asn = true) :
    range.last ≤ leader.last := by
  obtain ⟨nonempty, before, -⟩ := canonical_cons_iff.mp canonical
  by_contra longer
  rw [UInt32.not_le] at longer
  have next_in_range : range.contains (leader.last + 1) = true := by
    rw [AsnRange.contains_iff]
    grind
  have next_eq : (leader.last + 1).toNat = leader.last.toNat + 1 := by
    have below := UInt32.lt_iff_toNat_lt.mp longer
    have bound := range.last.toNat_lt
    rw [UInt32.toNat_add, Nat.mod_eq_of_lt]
    · rfl
    · simp only [UInt32.reduceToNat]
      omega
  rcases contains_cons_iff.mp (within _ next_in_range) with in_leader | later
  · have ends := UInt32.le_iff_toNat_le.mp (AsnRange.contains_iff.mp in_leader).2
    omega
  · have beyond := gap_of_contains_rest before later
    omega

/-- Spaces with the same members start with the same range. -/
theorem head_eq_of_contains_eq {leader : AsnRange} {others : List AsnRange}
    (canonical : Canonical ⟨range :: rest⟩) (also : Canonical ⟨leader :: others⟩)
    (same : ∀ asn, contains ⟨range :: rest⟩ asn = contains ⟨leader :: others⟩ asn) :
    range = leader := by
  have first_le : range.first ≤ leader.first :=
    first_le_of_contains canonical ((same _).trans (contains_first also))
  have first_ge : leader.first ≤ range.first :=
    first_le_of_contains also ((same _).symm.trans (contains_first canonical))
  have last_le : range.last ≤ leader.last := last_le_of_contains also first_le
    fun asn inside => (same asn).symm.trans (contains_cons_iff.mpr (.inl inside))
  have last_ge : leader.last ≤ range.last := last_le_of_contains canonical first_ge
    fun asn inside => (same asn).trans (contains_cons_iff.mpr (.inl inside))
  cases range
  cases leader
  rw [AsnRange.mk.injEq]
  exact ⟨UInt32.le_antisymm first_le first_ge, UInt32.le_antisymm last_le last_ge⟩

/-- The members determine a canonical space. -/
theorem Canonical.eq_of_contains_eq (canonical : space.Canonical) (also : other.Canonical)
    (same : ∀ asn, space.contains asn = other.contains asn) : space = other := by
  obtain ⟨ranges⟩ := space
  obtain ⟨others⟩ := other
  induction ranges generalizing others with
  | nil =>
      cases others with
      | nil => rfl
      | cons leader others =>
          have present := contains_first also
          rw [← same] at present
          cases present
  | cons range ranges ih =>
      cases others with
      | nil =>
          have present := contains_first canonical
          rw [same] at present
          cases present
      | cons leader others =>
          obtain rfl := head_eq_of_contains_eq canonical also same
          have tails : ∀ asn, contains ⟨ranges⟩ asn = contains ⟨others⟩ asn := by
            intro asn
            rw [Bool.eq_iff_iff, contains_rest_iff canonical, contains_rest_iff also, same]
          have rest_eq := ih (canonical_cons_iff.mp canonical).2.2 others
            (canonical_cons_iff.mp also).2.2 tails
          rw [AsnSpace.mk.injEq] at rest_eq ⊢
          rw [rest_eq]

end Members
end AsnSpace
end NeutralRouting
