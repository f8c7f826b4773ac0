import NeutralRouting.Proofs.AsnSpaceCanonical
import NeutralRouting.Proofs.CheckedWords

/-!
# Arithmetic of spaces of AS numbers

Differences and sizes are computed with words of fixed width: the ends of ranges have 32 bits, sizes
have 64.  Here they are computed again with operations that give up where a word overflows.  A
difference never gives up, and the size of a canonical space does not either.
-/

namespace NeutralRouting

/-- The part of a range below a cut, unless its end overflows. -/
def AsnRange.checkedBelow (range cut : AsnRange) : Option (List AsnRange) :=
  if range.first < cut.first then
    (checkedSub cut.first.toBitVec 1#32).map fun last => [⟨range.first, ⟨last⟩⟩]
  else some []

/-- The part of a range above a cut, unless its start overflows. -/
def AsnRange.checkedAbove (range cut : AsnRange) : Option (List AsnRange) :=
  if cut.last < range.last then
    (checkedAdd cut.last.toBitVec 1#32).map fun first => [⟨⟨first⟩, range.last⟩]
  else some []

/-- The parts of a range outside a cut, unless an end overflows. -/
def AsnRange.checkedWithout (range cut : AsnRange) : Option (List AsnRange) :=
  if cut.last < range.first ∨ range.last < cut.first then some [range]
  else do
    let below ← range.checkedBelow cut
    let above ← range.checkedAbove cut
    some (below ++ above)

/-- The numbers of a space outside a range, unless an end overflows. -/
def AsnSpace.checkedWithoutRange (space : AsnSpace) (cut : AsnRange) : Option AsnSpace :=
  (space.ranges.mapM (AsnRange.checkedWithout · cut)).map fun parts => ⟨parts.flatten⟩

/-- The difference of two spaces, unless an end overflows. -/
def AsnSpace.checkedDifference (space other : AsnSpace) : Option AsnSpace :=
  other.ranges.foldlM checkedWithoutRange space

/-- The size of a range as a word of 64 bits, unless that overflows. -/
def AsnRange.checkedSize (range : AsnRange) : Option (BitVec 64) := do
  let distance ← checkedSub range.last.toUInt64.toBitVec range.first.toUInt64.toBitVec
  checkedAdd distance 1#64

/-- The size of a space as a word of 64 bits, unless that overflows. -/
def AsnSpace.checkedSize (space : AsnSpace) : Option (BitVec 64) :=
  space.ranges.foldlM (fun total range => range.checkedSize.bind (checkedAdd total)) 0#64

section Parts

variable (range cut : AsnRange)

theorem AsnRange.checkedBelow_eq_some :
    range.checkedBelow cut =
      some (if range.first < cut.first then [⟨range.first, cut.first - 1⟩] else []) := by
  rw [checkedBelow]
  split
  · next proper =>
      have positive : (1#32).toNat ≤ cut.first.toBitVec.toNat := by
        have lower := UInt32.lt_iff_toNat_lt.mp proper
        rw [BitVec.toNat_one (by decide), UInt32.toNat_toBitVec]
        omega
      rw [checkedSub_eq_some positive]
      rfl
  · rfl

theorem AsnRange.checkedAbove_eq_some :
    range.checkedAbove cut =
      some (if cut.last < range.last then [⟨cut.last + 1, range.last⟩] else []) := by
  rw [checkedAbove]
  split
  · next proper =>
      have fits : cut.last.toBitVec.toNat + (1#32).toNat < 2 ^ 32 := by
        have upper := UInt32.lt_iff_toNat_lt.mp proper
        have bound := range.last.toNat_lt
        rw [BitVec.toNat_one (by decide), UInt32.toNat_toBitVec]
        omega
      rw [checkedAdd_eq_some fits]
      rfl
  · rfl

/-- No end of a part overflows, since the range reaches beyond the cut there. -/
theorem AsnRange.checkedWithout_eq_some :
    range.checkedWithout cut = some (range.without cut) := by
  rw [checkedWithout, without, checkedBelow_eq_some, checkedAbove_eq_some]
  split <;> rfl

end Parts

/-- A difference is computed without overflow, whatever the spaces. -/
theorem AsnSpace.checkedDifference_eq_some (space other : AsnSpace) :
    space.checkedDifference other = some (space.difference other) := by
  have step : checkedWithoutRange = fun space cut => pure (space.withoutRange cut) := by
    funext space cut
    have each : (fun range : AsnRange => range.checkedWithout cut) =
        fun range => pure (range.without cut) :=
      funext fun range => range.checkedWithout_eq_some cut
    rw [checkedWithoutRange, each, List.mapM_pure]
    rfl
  rw [checkedDifference, step, List.foldlM_pure]
  rfl

theorem AsnRange.exists_checkedSize {range : AsnRange} (nonempty : range.first ≤ range.last) :
    ∃ size, range.checkedSize = some size ∧ size.toNat = range.size := by
  have ordered : range.first.toUInt64.toBitVec.toNat ≤ range.last.toUInt64.toBitVec.toNat := by
    simpa using UInt32.le_iff_toNat_le.mp nonempty
  let distance := range.last.toUInt64.toBitVec - range.first.toUInt64.toBitVec
  have distance_eq : distance.toNat = range.last.toNat - range.first.toNat := by
    rw [BitVec.toNat_sub_of_le ordered]
    simp
  have fits : distance.toNat + (1#64).toNat < 2 ^ 64 := by
    have bound := range.last.toNat_lt
    rw [distance_eq, BitVec.toNat_one (by decide)]
    omega
  refine ⟨distance + 1#64, ?_, ?_⟩
  · rw [checkedSize, checkedSub_eq_some ordered]
    exact checkedAdd_eq_some fits
  · rw [BitVec.toNat_add_of_lt fits, distance_eq]
    rfl

theorem AsnSpace.Canonical.size_le {space : AsnSpace} (canonical : space.Canonical) :
    space.size ≤ UInt32.size := by
  have within : UInt32.toNat '' {asn | space.contains asn = true} ⊆ Set.Iio UInt32.size := by
    rintro _ ⟨asn, -, rfl⟩
    exact asn.toNat_lt
  rw [canonical.size_eq_ncard, ← Set.ncard_image_of_injective _ fun _ _ => UInt32.toNat_inj.mp,
    ← Set.ncard_Iio_nat UInt32.size]
  exact Set.ncard_le_ncard within

/-- Sizes are added up without overflow as long as the sum fits. -/
theorem AsnSpace.exists_foldlM_checkedAdd {ranges : List AsnRange} {total : BitVec 64}
    (nonempty : ∀ range ∈ ranges, range.first ≤ range.last)
    (fits : total.toNat + size ⟨ranges⟩ < 2 ^ 64) :
    ∃ sum, ranges.foldlM (fun total range => range.checkedSize.bind (checkedAdd total)) total =
      some sum ∧ sum.toNat = total.toNat + size ⟨ranges⟩ := by
  induction ranges generalizing total with
  | nil => exact ⟨total, rfl, rfl⟩
  | cons range rest ih =>
      rw [size_cons] at fits ⊢
      obtain ⟨first_nonempty, rest_nonempty⟩ := List.forall_mem_cons.mp nonempty
      obtain ⟨word, checked, word_eq⟩ := AsnRange.exists_checkedSize first_nonempty
      have word_fits : total.toNat + word.toNat < 2 ^ 64 := by omega
      have sum_eq : (total + word).toNat = total.toNat + word.toNat :=
        BitVec.toNat_add_of_lt word_fits
      have rest_fits : (total + word).toNat + size ⟨rest⟩ < 2 ^ 64 := by omega
      obtain ⟨sum, run, rest_eq⟩ := ih rest_nonempty rest_fits
      refine ⟨sum, ?_, by omega⟩
      rw [List.foldlM_cons, checked, Option.bind_some, checkedAdd_eq_some word_fits]
      exact run

theorem AsnSpace.Canonical.exists_checkedSize {space : AsnSpace} (canonical : space.Canonical) :
    ∃ total, space.checkedSize = some total ∧ total.toNat = space.size := by
  have fits : (0#64).toNat + space.size < 2 ^ 64 := by
    have bound := canonical.size_le
    rw [BitVec.toNat_zero, Nat.zero_add]
    exact Nat.lt_of_le_of_lt bound (by decide)
  obtain ⟨total, run, total_eq⟩ := exists_foldlM_checkedAdd canonical.nonempty fits
  exact ⟨total, run, by simpa using total_eq⟩

section Built

open AsnSpace

variable {space other : AsnSpace}

/-- A space that arises by taking differences is the set of its members, keeps its ranges in order
and apart, and is computed without overflow. -/
theorem AsnSpace.Built.is_canonical_set (built : space.Built) (taken : other.Built) :
    space.Canonical ∧
    (∀ asn, (space.difference other).contains asn = true ↔
      space.contains asn = true ∧ ¬other.contains asn = true) ∧
    space.size = {asn | space.contains asn = true}.ncard ∧
    (space.isEmpty = true ↔ space.size = 0) ∧
    (space = other ↔ ∀ asn, space.contains asn = other.contains asn) ∧
    space.checkedDifference other = some (space.difference other) ∧
    ∃ total, space.checkedSize = some total ∧ total.toNat = space.size := by
  have canonical := built.canonical
  refine ⟨canonical, fun _ => contains_difference_iff, canonical.size_eq_ncard,
    canonical.isEmpty_iff, ⟨?_, canonical.eq_of_contains_eq taken.canonical⟩,
    checkedDifference_eq_some space other, canonical.exists_checkedSize⟩
  rintro rfl asn
  rfl

/-- All AS numbers but the smallest and the largest. -/
def AsnSpace.inner : AsnSpace :=
  (all.difference (singleton 1)).difference (singleton 4294967295)

theorem AsnSpace.inner_is_canonical_set :
    inner.Built ∧ (singleton 0).Built ∧ inner.Canonical ∧
      {asn | inner.contains asn = true}.ncard = 4294967293 ∧ inner.isEmpty = false ∧
      inner ≠ singleton 0 ∧ inner.checkedDifference (singleton 0) = some inner ∧
      ∃ total, inner.checkedSize = some total ∧ total.toNat = 4294967293 := by
  have built : inner.Built := .difference (.difference .all (.singleton 1)) (.singleton 4294967295)
  have taken : (singleton 0).Built := .singleton 0
  obtain ⟨canonical, -, count, empty_iff, eq_iff, difference_eq, size_eq⟩ :=
    built.is_canonical_set taken
  have size_value : inner.size = 4294967293 := by decide
  rw [size_value] at count empty_iff size_eq
  refine ⟨built, taken, canonical, count.symm, ?_, ?_, difference_eq, size_eq⟩
  · exact Bool.eq_false_iff.mpr fun empty => absurd (empty_iff.mp empty) (by decide)
  · exact fun equal => absurd (eq_iff.mp equal 0) (by decide)

end Built

end NeutralRouting
