import NeutralRouting.Bgp.Attachment

/-!
# Members of spaces of AS numbers

Taking a space away from another leaves exactly the numbers that are only in the other one.  So the
AS numbers that a neighbor may have are told by the type of its AS and the local AS number.
-/

namespace NeutralRouting

namespace AsnRange

variable {range cut : AsnRange} {asn : UInt32}

theorem contains_iff : range.contains asn = true ↔ range.first ≤ asn ∧ asn ≤ range.last := by
  simp [contains]

/-- The parts that a cut leaves of a range hold the numbers of the range outside the cut. -/
theorem exists_mem_without_iff :
    (∃ part ∈ range.without cut, part.contains asn = true) ↔
      range.contains asn = true ∧ ¬cut.contains asn = true := by
  have below : ∀ {bound : UInt32}, range.first < bound → (asn ≤ bound - 1 ↔ asn < bound) := by
    grind
  have above : ∀ {bound : UInt32}, bound < range.last → (bound + 1 ≤ asn ↔ bound < asn) := by
    grind
  simp only [without, contains_iff]
  split
  · simp only [List.mem_singleton, exists_eq_left]
    grind
  · simp only [List.mem_append, or_and_right, exists_or, List.mem_ite_nil_right,
      List.mem_singleton, and_assoc, exists_and_left, exists_eq_left]
    grind

end AsnRange

namespace AsnSpace

variable {space other : AsnSpace} {asn : UInt32}

theorem contains_iff :
    space.contains asn = true ↔ ∃ range ∈ space.ranges, range.contains asn = true := by
  rw [contains, List.any_eq_true]

theorem contains_withoutRange_iff {cut : AsnRange} :
    (space.withoutRange cut).contains asn = true ↔
      space.contains asn = true ∧ ¬cut.contains asn = true := by
  simp only [contains_iff, withoutRange, List.mem_flatMap]
  constructor
  · rintro ⟨part, ⟨range, member, listed⟩, inside⟩
    obtain ⟨within, outside⟩ := AsnRange.exists_mem_without_iff.mp ⟨part, listed, inside⟩
    exact ⟨⟨range, member, within⟩, outside⟩
  · rintro ⟨⟨range, member, within⟩, outside⟩
    obtain ⟨part, listed, inside⟩ := AsnRange.exists_mem_without_iff.mpr ⟨within, outside⟩
    exact ⟨part, ⟨range, member, listed⟩, inside⟩

/-- A difference holds the numbers of the first space that are not in the second. -/
theorem contains_difference_iff :
    (space.difference other).contains asn = true ↔
      space.contains asn = true ∧ ¬other.contains asn = true := by
  rw [difference, @contains_iff other]
  induction other.ranges generalizing space with
  | nil => simp
  | cons cut cuts ih =>
      rw [List.foldl_cons, ih, contains_withoutRange_iff]
      simp only [List.mem_cons, exists_eq_or_imp, not_or, and_assoc]

theorem contains_all_iff : all.contains asn = true ↔ asn ≠ 0 := by
  simp only [contains_iff, all, List.mem_singleton, exists_eq_left, AsnRange.contains_iff]
  grind

theorem contains_singleton_iff {own : UInt32} :
    (singleton own).contains asn = true ↔ asn = own := by
  simp only [contains_iff, singleton, List.mem_singleton, exists_eq_left, AsnRange.contains_iff]
  exact ⟨fun ⟨low, high⟩ => UInt32.le_antisymm high low, fun same => by simp [same]⟩

end AsnSpace

/-- The neighbor may have the AS number: an explicit one is its own, an internal neighbor has the
local one, and an external neighbor has any other but zero. -/
def NeighborSettings.MayHave (settings : NeighborSettings) (localAs : Option UInt32)
    (asn : UInt32) : Prop :=
  match settings.remoteAsType with
  | none => False
  | some .explicit => settings.remoteAs = some asn
  | some .internal => localAs = some asn
  | some .external => asn ≠ 0 ∧ ∃ own, localAs = some own ∧ asn ≠ own

theorem NeighborSettings.contains_remoteAsns_iff {settings : NeighborSettings}
    {localAs : Option UInt32} {asn : UInt32} {space : AsnSpace}
    (clear : settings.remoteAsns localAs = .ok space) :
    space.contains asn = true ↔ settings.MayHave localAs asn := by
  have nothing : AsnSpace.empty.contains asn = false := rfl
  have alone : ∀ own, (AsnSpace.singleton own).contains asn = true ↔ some own = some asn :=
    fun own => AsnSpace.contains_singleton_iff.trans (by rw [Option.some.injEq, eq_comm])
  revert clear
  unfold remoteAsns MayHave
  rcases settings.remoteAsType with _ | _ | _ | _ <;> rcases localAs with _ | own <;> rintro ⟨⟩
  case some.explicit.none | some.explicit.some =>
    cases settings.remoteAs with
    | none => simp [nothing]
    | some given => exact alone given
  case some.external.some =>
    simp [AsnSpace.contains_difference_iff, AsnSpace.contains_all_iff,
      AsnSpace.contains_singleton_iff]
  case some.internal.some => exact alone own
  all_goals simp [nothing]

end NeutralRouting
