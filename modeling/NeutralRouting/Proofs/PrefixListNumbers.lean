import Mathlib.Order.Bounds.Basic
import NeutralRouting.Proofs.CheckedWords
import NeutralRouting.Proofs.PrefixListRuns

/-!
# Numbers of prefix list lines

A line without a number of its own gets the next one of its list.  Whatever lines were offered
before, that number is above all in use, unless the greatest word is among them.
-/

namespace NeutralRouting

open Std

namespace PrefixList

section Next

variable {lines : ExtTreeMap UInt32 PrefixListLine}

/-- The number after the lines, unless computing it overflows. -/
def checkedNumberAfter (lines : ExtTreeMap UInt32 PrefixListLine) : Option (BitVec 32) := do
  let fives ← checkedAdd ((lines.maxKey?.getD 0).toBitVec / 5#32) 1#32
  checkedMul fives 5#32

/-- The numbers that a line without one of its own may get: positive multiples of five above all
numbers in use. -/
def NextNumbers (lines : ExtTreeMap UInt32 PrefixListLine) : Set Nat :=
  {number | 0 < number ∧ 5 ∣ number ∧ ∀ used : UInt32, used ∈ lines → used.toNat < number}

theorem le_maxKey?_getD {used : UInt32} (member : used ∈ lines) :
    used ≤ lines.maxKey?.getD 0 := by
  cases greatest : lines.maxKey? with
  | none =>
      rw [ExtTreeMap.maxKey?_eq_none_iff.mp greatest] at member
      simp at member
  | some last =>
      obtain ⟨-, bound⟩ := ExtTreeMap.maxKey?_eq_some_iff_mem_and_forall.mp greatest
      exact isLE_compare.mp (bound used member)

/-- Zero and the numbers in use are below the same numbers as the greatest number in use. -/
theorem maxKey?_getD_lt_iff {number : Nat} :
    (lines.maxKey?.getD 0).toNat < number ↔
      0 < number ∧ ∀ used : UInt32, used ∈ lines → used.toNat < number := by
  constructor
  · intro above
    refine ⟨by omega, fun used member => ?_⟩
    exact Nat.lt_of_le_of_lt (UInt32.le_iff_toNat_le.mp (le_maxKey?_getD member)) above
  · rintro ⟨positive, above⟩
    cases greatest : lines.maxKey? with
    | none => exact positive
    | some last =>
        obtain ⟨member, -⟩ := ExtTreeMap.maxKey?_eq_some_iff_mem_and_forall.mp greatest
        exact above last member

/-- Once the greatest word is in use, the numbers start again from the bottom. -/
theorem numberAfter_of_greatest_mem (greatest : 4294967295 ∈ lines) : numberAfter lines = 4 := by
  have last : lines.maxKey?.getD 0 = 4294967295 :=
    UInt32.le_antisymm (UInt32.le_iff_toNat_le.mpr (Nat.le_of_lt_succ (UInt32.toNat_lt _)))
      (le_maxKey?_getD greatest)
  rw [numberAfter, last]
  rfl

variable (fits : ∀ used : UInt32, used ∈ lines → used.toNat < 2 ^ 32 - 1)
include fits

theorem maxKey?_getD_fits : (lines.maxKey?.getD 0).toNat < 2 ^ 32 - 1 :=
  maxKey?_getD_lt_iff.mpr ⟨by decide, fits⟩

/-- Below the greatest word the next number does not wrap around. -/
theorem toNat_numberAfter :
    (numberAfter lines).toNat = ((lines.maxKey?.getD 0).toNat / 5 + 1) * 5 := by
  have last_fits := maxKey?_getD_fits fits
  have five : (5 : UInt32).toNat = 5 := rfl
  have one : (1 : UInt32).toNat = 1 := rfl
  rw [numberAfter, UInt32.toNat_mul, UInt32.toNat_add, UInt32.toNat_div, five, one]
  omega

theorem isLeast_numberAfter : IsLeast (NextNumbers lines) (numberAfter lines).toNat := by
  rw [toNat_numberAfter fits]
  constructor
  · have above : (lines.maxKey?.getD 0).toNat < ((lines.maxKey?.getD 0).toNat / 5 + 1) * 5 := by
      omega
    obtain ⟨positive, all_below⟩ := maxKey?_getD_lt_iff.mp above
    exact ⟨positive, Nat.dvd_mul_left 5 _, all_below⟩
  · rintro number ⟨positive, ⟨fives, rfl⟩, all_below⟩
    have above := maxKey?_getD_lt_iff.mpr ⟨positive, all_below⟩
    omega

/-- Below the greatest word neither operation overflows. -/
theorem checkedNumberAfter_eq_some :
    checkedNumberAfter lines = some (numberAfter lines).toBitVec := by
  have last_fits := maxKey?_getD_fits fits
  rw [checkedNumberAfter, numberAfter]
  generalize lines.maxKey?.getD 0 = last at last_fits
  have quotient : (last.toBitVec / 5#32).toNat = last.toNat / 5 := BitVec.toNat_udiv
  have sum_fits : (last.toBitVec / 5#32).toNat + (1#32).toNat < 2 ^ 32 := by
    rw [quotient, BitVec.toNat_one (by decide)]
    omega
  have sum : (last.toBitVec / 5#32 + 1#32).toNat = last.toNat / 5 + 1 := by
    rw [BitVec.toNat_add_of_lt sum_fits, quotient]
    rfl
  have product_fits : (last.toBitVec / 5#32 + 1#32).toNat * (5#32).toNat < 2 ^ 32 := by
    rw [sum, BitVec.toNat_ofNat]
    omega
  rw [checkedAdd_eq_some sum_fits, Option.bind_eq_bind, Option.bind_some,
    checkedMul_eq_some product_fits]
  rfl

end Next

section Offers

variable {list : PrefixList} {line : PrefixListLine}

theorem Tidy.forall_lt_nextNumber (tidy : list.Tidy)
    (fits : ∀ used : UInt32, used ∈ list.lines → used.toNat < 2 ^ 32 - 1) :
    ∀ used ∈ list.lines, used < list.nextNumber := by
  rw [tidy]
  exact fun used member =>
    UInt32.lt_iff_toNat_lt.mpr ((isLeast_numberAfter fits).1.2.2 used member)

theorem Tidy.nextNumber_not_mem (tidy : list.Tidy)
    (fits : ∀ used : UInt32, used ∈ list.lines → used.toNat < 2 ^ 32 - 1) :
    list.nextNumber ∉ list.lines :=
  fun used => UInt32.lt_irrefl _ (tidy.forall_lt_nextNumber fits _ used)

/-- A line without a number of its own comes after the others. -/
theorem Tidy.toList_tryAdd_unnumbered (tidy : list.Tidy)
    (fits : ∀ used : UInt32, used ∈ list.lines → used.toNat < 2 ^ 32 - 1) (line : PrefixListLine) :
    (list.tryAdd ⟨none, line⟩).lines.toList =
      list.lines.toList ++ [(list.nextNumber, line)] := by
  have unused : list.numberFor ⟨none, line⟩ ∉ list.lines := tidy.nextNumber_not_mem fits
  rw [lines_tryAdd_of_not_mem unused]
  exact Table.toList_insert_of_forall_lt (tidy.forall_lt_nextNumber fits)

theorem addLine_eq_ok_tryAdd {offer : LineOffer} (unused : list.numberFor offer ∉ list.lines) :
    list.addLine offer.number offer.line = (list.tryAdd offer, .ok ()) := by
  rw [tryAdd, addLine_of_not_mem unused]

theorem decides_iff_find? {block : Prefix} :
    list.Decides block line ↔ list.lines.values.find? (·.includes block) = some line := by
  rw [Table.find?_values_eq_some_iff]
  rfl

/-- A line that comes last decides about the blocks that none of the others matches. -/
theorem decides_iff_of_values_eq_append {longer : PrefixList} {block : Prefix}
    {decider : PrefixListLine} (values : longer.lines.values = list.lines.values ++ [line]) :
    longer.Decides block decider ↔ list.Decides block decider ∨
      (∀ earlier, ¬list.Decides block earlier) ∧ line.Matches block ∧ decider = line := by
  simp only [decides_iff_find?, values, List.find?_append, ← PrefixListLine.includes_iff]
  cases list.lines.values.find? (·.includes block) with
  | none =>
      rw [Option.none_or, List.find?_singleton]
      by_cases matched : line.includes block = true
      · simp [matched, eq_comm]
      · simp [matched]
  | some earlier => simp

end Offers

/-- While the greatest word is not in use, a line without a number of its own is taken and comes
last.  A refused line leaves the list as it was. -/
theorem run_numbers_never_collide (name : String) (offers : List LineOffer) :
    let list := (empty name).run offers
    (list.lines = ∅ → list.nextNumber = 5) ∧
    ((∀ used : UInt32, used ∈ list.lines → used.toNat < 2 ^ 32 - 1) →
      IsLeast (NextNumbers list.lines) list.nextNumber.toNat ∧
      checkedNumberAfter list.lines = some list.nextNumber.toBitVec ∧
      ∀ line, let after := (empty name).run (offers ++ [⟨none, line⟩])
        list.addLine none line = (after, .ok ()) ∧
        after.lines.toList = list.lines.toList ++ [(list.nextNumber, line)] ∧
        after.toRouteFilterList.lines =
          list.toRouteFilterList.lines ++ [line.toRouteFilterLine] ∧
        ∀ block decider, after.Decides block decider ↔ list.Decides block decider ∨
          (∀ earlier, ¬list.Decides block earlier) ∧ line.Matches block ∧ decider = line) ∧
    (∀ number line, number ∉ list.lines →
      let after := (empty name).run (offers ++ [⟨some number, line⟩])
      list.addLine (some number) line = (after, .ok ()) ∧
      after.lines = list.lines.insert number line) ∧
    (∀ number line, number ∈ list.lines → list.addLine (some number) line =
      (list, .error (.duplicateNumber .prefixList name number.toNat))) ∧
    ∀ (refused : LineOffer) (cause : DeviceError),
      (list.addLine refused.number refused.line).2 = .error cause →
      (empty name).run (offers ++ [refused]) = list := by
  intro list
  have tidy : list.Tidy := (tidy_empty name).run offers
  have named : list.name = name := name_run _ offers
  have once_more : ∀ offer, (empty name).run (offers ++ [offer]) = list.tryAdd offer :=
    fun offer => run_append _ offers [offer]
  refine ⟨fun none_used => ?_, fun fits => ⟨?_, ?_, fun line => ?_⟩,
    fun number line unused => ?_, fun number line used => ?_, fun refused cause error => ?_⟩
  · rw [tidy, none_used]
    simp [numberAfter]
  · rw [tidy]
    exact isLeast_numberAfter fits
  · rw [tidy]
    exact checkedNumberAfter_eq_some fits
  · intro after
    have after_eq : after = list.tryAdd ⟨none, line⟩ := once_more _
    have listed : after.lines.toList = list.lines.toList ++ [(list.nextNumber, line)] := by
      rw [after_eq]
      exact tidy.toList_tryAdd_unnumbered fits line
    have values : after.lines.values = list.lines.values ++ [line] := by
      rw [Table.values_eq_map_snd, Table.values_eq_map_snd, listed, List.map_append,
        List.map_singleton]
    refine ⟨?_, listed, ?_, fun _ _ => decides_iff_of_values_eq_append values⟩
    · rw [after_eq]
      exact @addLine_eq_ok_tryAdd list ⟨none, line⟩ (tidy.nextNumber_not_mem fits)
    · rw [toRouteFilterList, toRouteFilterList, values, List.map_append, List.map_singleton]
  · rw [once_more]
    exact ⟨@addLine_eq_ok_tryAdd list ⟨some number, line⟩ unused, lines_tryAdd_of_not_mem unused⟩
  · rw [← named]
    exact @addLine_of_mem list ⟨some number, line⟩ used
  · rw [once_more]
    exact tryAdd_of_error error

end PrefixList
end NeutralRouting
