import NeutralRouting.Proofs.Skeleton
import NeutralRouting.Proofs.PrefixRange

/-!
# Bounds of prefix list lines

A line of a prefix list starts out with the length of its base as both bounds, and the bounds that
are given are then set in either order.  Bounds that are in order give the same line both ways.  It
matches what the bounds ask for, with one exception: a lower bound that is the length of the base
leaves the upper bound there too, so without an upper bound of its own the line matches the base
alone.
-/

namespace NeutralRouting

open Std

namespace Prefix

/-- The lower half of a block of more than one address. -/
def lowerHalf (block : Prefix) (wide : block.length < 32) : Prefix where
  network := block.network
  length := block.length + 1
  length_le := wide
  aligned := by
    refine Nat.dvd_trans ?_ block.aligned
    rw [blockSize, blockSize, Nat.one_shiftLeft, Nat.one_shiftLeft]
    exact Nat.pow_dvd_pow 2 (by omega)

theorem covers_lowerHalf (block : Prefix) (wide : block.length < 32) :
    block.covers (block.lowerHalf wide) = true := by
  have halves : (block.lowerHalf wide).size ≤ block.size := by
    rw [size_eq_two_pow, size_eq_two_pow]
    exact Nat.pow_le_pow_right (by decide) (Nat.sub_le_sub_left (Nat.le_succ _) _)
  rw [covers_iff]
  exact ⟨Nat.le_refl _, Nat.add_le_add_left halves _⟩

end Prefix

namespace PrefixListLine

/-- Set the lower bound, if one is given. -/
def setLower (line : PrefixListLine) (lower : Option Nat) : PrefixListLine :=
  (lower.map line.atLeast).getD line

/-- Set the upper bound, if one is given. -/
def setUpper (line : PrefixListLine) (upper : Option Nat) : PrefixListLine :=
  (upper.map line.atMost).getD line

/-- A line that is written with a base and bounds, which are set one after the other. -/
inductive Written (action : Action) (base : Prefix) (lower upper : Option Nat) :
    PrefixListLine → Prop
  | lowerFirst :
      Written action base lower upper (((exact action base).setLower lower).setUpper upper)
  | upperFirst :
      Written action base lower upper (((exact action base).setUpper upper).setLower lower)

/-- The length of the base, the bounds that are given and the greatest length do not decrease. -/
def InOrder (base : Prefix) (lower upper : Option Nat) : Prop :=
  (base.length :: (lower.toList ++ upper.toList ++ [Prefix.maxLength])).Pairwise (· ≤ ·)

/-- The block is one that the bounds ask for.  A missing lower bound is the length of the base, and
so is a missing upper one unless there is a lower one. -/
def Asks (base : Prefix) (lower upper : Option Nat) (block : Prefix) : Prop :=
  base.covers block = true ∧ lower.getD base.length ≤ block.length ∧
    block.length ≤ upper.getD (if lower.isSome then Prefix.maxLength else base.length)

instance (base : Prefix) (lower upper : Option Nat) : Decidable (InOrder base lower upper) :=
  inferInstanceAs (Decidable (List.Pairwise _ _))

instance (base : Prefix) (lower upper : Option Nat) (block : Prefix) :
    Decidable (Asks base lower upper block) :=
  inferInstanceAs (Decidable (_ ∧ _))

/-- The greatest length that a line matches. -/
def lastLength (base : Prefix) (lower upper : Option Nat) : Nat :=
  upper.getD (if lower.any (base.length < ·) then Prefix.maxLength else base.length)

variable {action : Action} {base : Prefix} {lower upper : Option Nat} {line : PrefixListLine}

/-- Bounds in order give the same line, whichever of them is set first. -/
theorem Written.eq_of_inOrder (written : Written action base lower upper line)
    (ordered : InOrder base lower upper) :
    line = ⟨action, base, lower.getD base.length, lastLength base lower upper⟩ := by
  cases written with
  | lowerFirst =>
      cases lower <;> cases upper <;>
        simp [setLower, setUpper, exact, atLeast, atMost, lastLength]
  | upperFirst =>
      cases lower with
      | none => cases upper <;> rfl
      | some least =>
          cases upper with
          | none => simp [setLower, setUpper, exact, atLeast, lastLength]
          | some most =>
              have least_le_most : least ≤ most := by
                simp only [InOrder, Option.toList_some, List.cons_append, List.nil_append,
                  List.pairwise_cons, List.mem_cons] at ordered
                exact ordered.2.1 most (.inl rfl)
              simp [setLower, setUpper, exact, atLeast, atMost, lastLength,
                Nat.not_lt.mpr least_le_most]

theorem Written.includes_iff (written : Written action base lower upper line)
    (ordered : InOrder base lower upper) (block : Prefix) :
    line.toRouteFilterLine.range.includes block = true ↔
      base.covers block = true ∧ lower.getD base.length ≤ block.length ∧
        block.length ≤ lastLength base lower upper := by
  rw [written.eq_of_inOrder ordered, PrefixRange.includes_iff]
  exact and_comm

/-- The length of the base is the only bound, and the base has room for longer blocks. -/
def LoneBaseLength (base : Prefix) (lower upper : Option Nat) : Prop :=
  lower = some base.length ∧ upper = none ∧ base.length < Prefix.maxLength

theorem lastLength_of_not_loneBaseLength (ordered : InOrder base lower upper)
    (other : ¬LoneBaseLength base lower upper) :
    lastLength base lower upper =
      upper.getD (if lower.isSome then Prefix.maxLength else base.length) := by
  cases upper with
  | some most => rfl
  | none =>
      cases lower with
      | none => rfl
      | some least =>
          have above : base.length ≤ least := by
            simp only [InOrder, Option.toList_some, List.cons_append, List.nil_append,
              List.pairwise_cons, List.mem_cons] at ordered
            exact ordered.1 least (.inl rfl)
          rcases Nat.lt_or_eq_of_le above with strict | same
          · simp [lastLength, strict]
          · have host : base.length = Prefix.maxLength :=
              Nat.le_antisymm base.length_le
                (Nat.le_of_not_lt fun room => other ⟨same ▸ rfl, rfl, room⟩)
            simp [lastLength, host]

/-- The range of a line includes what its bounds ask for, unless the only bound is the length of the
base and the base has room for longer blocks. -/
theorem Written.translated_range (written : Written action base lower upper line)
    (ordered : InOrder base lower upper) {list : PrefixList} {number : UInt32}
    (listed : list.lines[number]? = some line) :
    ∃ range, ⟨action, range⟩ ∈ list.toRouteFilterList.lines ∧
      (∀ block, range.includes block = true ↔
        base.covers block = true ∧ lower.getD base.length ≤ block.length ∧
          block.length ≤ lastLength base lower upper) ∧
      ((∀ block, range.includes block = true ↔ Asks base lower upper block) ↔
        ¬LoneBaseLength base lower upper) := by
  have includes := written.includes_iff ordered
  have translated : line.toRouteFilterLine ∈ list.toRouteFilterList.lines :=
    List.mem_map_of_mem (Table.mem_values_iff.mpr ⟨number, listed⟩)
  have same_action : line.action = action := by rw [written.eq_of_inOrder ordered]
  subst same_action
  refine ⟨line.toRouteFilterLine.range, translated, includes, ?_, ?_⟩
  · rintro asked ⟨rfl, rfl, room⟩
    have half : Asks base (some base.length) none (base.lowerHalf room) :=
      ⟨base.covers_lowerHalf room, Nat.le_succ _, room⟩
    have short := ((includes _).mp ((asked _).mpr half)).2.2
    simp only [lastLength, Option.any_some, Nat.lt_irrefl, decide_false, Option.getD_none] at short
    exact Nat.not_succ_le_self _ short
  · intro other block
    rw [includes, lastLength_of_not_loneBaseLength ordered other, Asks]

/-- The subnets of a network, of lengths from 16 to 24. -/
def subnetList : PrefixList where
  name := "SUBNETS"
  nextNumber := 15
  lines := (∅ : ExtTreeMap UInt32 PrefixListLine).insert 10
    (((exact .permit internalNetwork).atMost 24).atLeast 16)

/-- The list permits a subnet, and not the network itself. -/
theorem translated_range_subnetList :
    InOrder internalNetwork (some 16) (some 24) ∧
      ∃ range, ⟨.permit, range⟩ ∈ subnetList.toRouteFilterList.lines ∧
        range.includes announcedNetwork = true ∧ range.includes internalNetwork = false := by
  have ordered : InOrder internalNetwork (some 16) (some 24) := by decide
  have listed : subnetList.lines[(10 : UInt32)]? =
      some (((exact .permit internalNetwork).atMost 24).atLeast 16) :=
    ExtTreeMap.getElem?_insert_self
  obtain ⟨range, translated, includes, -⟩ :=
    (Written.upperFirst : Written .permit internalNetwork (some 16) (some 24) _).translated_range
      ordered listed
  refine ⟨ordered, range, translated, (includes _).mpr (by decide), ?_⟩
  rw [← Bool.not_eq_true, includes]
  decide

/-- With the length of a network as their only bound, subnets are asked for and left out, whichever
bound is set first. -/
theorem lone_base_length_excludes_subnet :
    InOrder internalNetwork (some 8) none ∧ Asks internalNetwork (some 8) none announcedNetwork ∧
      ∀ line, Written .permit internalNetwork (some 8) none line →
        line.toRouteFilterLine.range.includes announcedNetwork = false := by
  refine ⟨by decide, by decide, ?_⟩
  rintro line (_ | _) <;> decide

end PrefixListLine
end NeutralRouting
