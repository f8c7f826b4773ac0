import NeutralRouting.Net.PrefixSpace

/-!
# What ranges include

A block lies inside another one only if its length is no smaller, and a block of the same length
inside another one is the same block.
-/

namespace NeutralRouting

open Std

theorem Address.eq_of_toNat_eq {left right : Address} (equal : left.toNat = right.toNat) :
    left = right := by
  cases left
  cases right
  exact congrArg Address.mk (UInt32.toNat_inj.mp equal)

namespace Prefix

theorem eq_of_network_eq {left right : Prefix} (network_eq : left.network = right.network)
    (length_eq : left.length = right.length) : left = right := by
  cases left
  cases right
  cases network_eq
  cases length_eq
  rfl

theorem size_eq_two_pow (block : Prefix) : block.size = Nat.pow 2 (32 - block.length) :=
  Nat.one_shiftLeft _

theorem size_pos (block : Prefix) : 0 < block.size := by
  rw [size_eq_two_pow]
  exact Nat.two_pow_pos _

theorem covers_iff {outer inner : Prefix} :
    outer.covers inner = true ↔
      outer.network.toNat ≤ inner.network.toNat ∧
        inner.network.toNat + inner.size ≤ outer.network.toNat + outer.size := by
  have inner_pos := inner.size_pos
  have outer_pos := outer.size_pos
  simp only [covers, Bool.and_eq_true, decide_eq_true_eq]
  simp only [last]
  omega

theorem size_le_of_covers {outer inner : Prefix} (covers : outer.covers inner = true) :
    inner.size ≤ outer.size := by
  rw [covers_iff] at covers
  omega

theorem length_le_of_covers {outer inner : Prefix} (covers : outer.covers inner = true) :
    outer.length ≤ inner.length := by
  have sizes := size_le_of_covers covers
  rw [size_eq_two_pow, size_eq_two_pow] at sizes
  have exponents := (Nat.pow_le_pow_iff_right (by decide)).mp sizes
  have bound := outer.length_le
  omega

theorem eq_of_covers_of_length_eq {outer inner : Prefix} (covers : outer.covers inner = true)
    (length_eq : inner.length = outer.length) : inner = outer := by
  have size_eq : inner.size = outer.size := by rw [size, size, length_eq]
  rw [covers_iff] at covers
  exact eq_of_network_eq (Address.eq_of_toNat_eq (by omega)) length_eq

@[simp]
theorem covers_self (block : Prefix) : block.covers block = true := by
  rw [covers_iff]
  omega

end Prefix

namespace PrefixRange

theorem includes_iff {range : PrefixRange} {block : Prefix} :
    range.includes block = true ↔
      (range.minLength ≤ block.length ∧ block.length ≤ range.maxLength) ∧
        range.base.covers block = true := by
  simp only [includes, Bool.and_eq_true, decide_eq_true_eq]

/-- The range of one prefix. -/
theorem exact_includes_iff {block other : Prefix} :
    (exact block).includes other = true ↔ other = block := by
  rw [includes_iff]
  simp only [exact]
  constructor
  · rintro ⟨⟨lower, upper⟩, covers⟩
    exact Prefix.eq_of_covers_of_length_eq covers (by omega)
  · rintro rfl
    simp

/-- The range of the prefixes strictly inside another one. -/
theorem moreSpecificThan_includes_iff {block other : Prefix} :
    (moreSpecificThan block).includes other = true ↔
      block.covers other = true ∧ other ≠ block := by
  rw [includes_iff]
  simp only [moreSpecificThan]
  constructor
  · rintro ⟨⟨lower, upper⟩, covers⟩
    refine ⟨covers, ?_⟩
    rintro rfl
    omega
  · rintro ⟨covers, distinct⟩
    have lengths := Prefix.length_le_of_covers covers
    have bound : other.length ≤ Prefix.maxLength := other.length_le
    have strict : block.length ≠ other.length := fun length_eq =>
      distinct (Prefix.eq_of_covers_of_length_eq covers length_eq.symm)
    exact ⟨⟨by omega, bound⟩, covers⟩

end PrefixRange

namespace PrefixSpace

theorem contains_iff {space : PrefixSpace} {block : Prefix} :
    space.contains block = true ↔ ∃ range ∈ space.ranges, range.includes block = true := by
  simp only [contains, List.any_eq_true, ExtTreeSet.mem_toList]

theorem contains_ofRange (range : PrefixRange) (block : Prefix) :
    (ofRange range).contains block = range.includes block := by
  rw [Bool.eq_iff_iff, contains_iff]
  constructor
  · rintro ⟨other, member, included⟩
    simp only [ofRange, addRange, empty, ExtTreeSet.mem_insert, ExtTreeSet.not_mem_empty,
      or_false] at member
    rwa [LawfulEqOrd.eq_of_compare member]
  · intro included
    exact ⟨range, by simp [ofRange, addRange], included⟩

end PrefixSpace
end NeutralRouting
