import Mathlib.Algebra.Group.Nat.Defs
import NeutralRouting.Proofs.PrefixRange

/-!
# Covering of prefixes

An address lies in a block exactly if it starts with the same bits as the network of the block, as
many as the length of the block says.  So a block covers another one exactly if all addresses of the
other one lie in it, and two blocks with an address in common are nested.
-/

namespace NeutralRouting

open Std

theorem blockSize_eq_two_pow (length : Nat) : blockSize length = 2 ^ (32 - length) :=
  Nat.one_shiftLeft _

namespace Address

/-- A bit of an address, the most significant one having the index 0. -/
def bit (address : Address) (index : Nat) : Bool := address.bits.toBitVec.getMsbD index

/-- Two addresses have the same first bits. -/
def AgreeOn (length : Nat) (left right : Address) : Prop :=
  ∀ index < length, left.bit index = right.bit index

variable {left right third : Address} {length : Nat}

/-- The bit with a given index counted from the least significant one. -/
theorem testBit_toNat (address : Address) {position : Nat} (inside : position < 32) :
    address.toNat.testBit position = address.bit (31 - position) := by
  have index_lt : 31 - position < 32 := by omega
  have position_eq : 32 - 1 - (31 - position) = position := by omega
  rw [bit, BitVec.getMsbD_eq_getLsbD, decide_eq_true index_lt, Bool.true_and, position_eq,
    ← BitVec.testBit_toNat, UInt32.toNat_toBitVec, toNat]

theorem testBit_toNat_of_le (address : Address) {position : Nat} (outside : 32 ≤ position) :
    address.toNat.testBit position = false := by
  have powers : UInt32.size ≤ 2 ^ position := Nat.pow_le_pow_right Nat.two_pos outside
  exact Nat.testBit_lt_two_pow (Nat.lt_of_lt_of_le address.toNat_lt powers)

/-- Addresses agree on their first bits exactly if these stand for the same number. -/
theorem agreeOn_iff_div_eq (length_le : length ≤ 32) :
    AgreeOn length left right ↔
      left.toNat / blockSize length = right.toNat / blockSize length := by
  rw [blockSize_eq_two_pow]
  constructor
  · intro agree
    apply Nat.eq_of_testBit_eq
    intro position
    rw [Nat.testBit_div_two_pow, Nat.testBit_div_two_pow]
    by_cases inside : position < length
    · rw [testBit_toNat left (by omega), testBit_toNat right (by omega)]
      exact agree _ (by omega)
    · rw [testBit_toNat_of_le left (by omega), testBit_toNat_of_le right (by omega)]
  · intro same index index_lt
    have position_eq : length - 1 - index + (32 - length) = 31 - index := by omega
    have index_eq : 31 - (31 - index) = index := by omega
    have bits : (left.toNat / 2 ^ (32 - length)).testBit (length - 1 - index) =
        (right.toNat / 2 ^ (32 - length)).testBit (length - 1 - index) := by rw [same]
    rwa [Nat.testBit_div_two_pow, Nat.testBit_div_two_pow, position_eq,
      testBit_toNat left (by omega), testBit_toNat right (by omega), index_eq] at bits

theorem AgreeOn.symm (agree : AgreeOn length left right) : AgreeOn length right left :=
  fun index index_lt => (agree index index_lt).symm

theorem AgreeOn.trans (agree : AgreeOn length left right) (also : AgreeOn length right third) :
    AgreeOn length left third :=
  fun index index_lt => (agree index index_lt).trans (also index index_lt)

theorem AgreeOn.mono {shorter : Nat} (agree : AgreeOn length left right)
    (shorter_le : shorter ≤ length) : AgreeOn shorter left right :=
  fun index index_lt => agree index (Nat.lt_of_lt_of_le index_lt shorter_le)

/-- The bits determine an address. -/
theorem eq_of_agreeOn (agree : AgreeOn 32 left right) : left = right := by
  have same := (agreeOn_iff_div_eq (Nat.le_refl 32)).mp agree
  rw [blockSize_eq_two_pow, Nat.sub_self, Nat.pow_zero, Nat.div_one, Nat.div_one] at same
  exact eq_of_toNat_eq same

theorem compare_eq_lt_iff : compare left right = .lt ↔ left.toNat < right.toNat := by
  change compare left.bits right.bits = .lt ↔ _
  rw [compare_eq_lt, UInt32.lt_iff_toNat_lt, toNat, toNat]

end Address

namespace Prefix

/-- The network of the block is the address with its host bits cleared. -/
def Truncates (block : Prefix) (address : Address) : Prop :=
  ∀ index < 32, block.network.bit index = (decide (index < block.length) && address.bit index)

variable {block other outer inner third : Prefix} {address : Address}

section Truncation

theorem ofAddress_truncates (address : Address) {length : Nat} (length_le : length ≤ 32) :
    (ofAddress address length length_le).Truncates address := by
  intro index index_lt
  have floor_lt : address.toNat / blockSize length * blockSize length < UInt32.size :=
    Nat.lt_of_le_of_lt (Nat.div_mul_le_self _ _) address.toNat_lt
  have index_eq : 31 - (31 - index) = index := by omega
  have position_lt : 31 - index < 32 := by omega
  have bits := (Address.ofNat (address.toNat / blockSize length * blockSize length)).testBit_toNat
    position_lt
  rw [Address.toNat_ofNat floor_lt, blockSize_eq_two_pow, Nat.testBit_mul_two_pow,
    Nat.testBit_div_two_pow, index_eq] at bits
  change Address.bit (Address.ofNat _) index = _
  rw [blockSize_eq_two_pow, ← bits]
  by_cases inside : index < length
  · have position_eq : 31 - index - (32 - length) + (32 - length) = 31 - index := by omega
    have above : 32 - length ≤ 31 - index := by omega
    rw [position_eq, address.testBit_toNat position_lt, index_eq]
    simp [ofAddress, inside, above]
  · have below : ¬32 - length ≤ 31 - index := by omega
    simp [ofAddress, inside, below]

/-- Blocks of one length that clear the host bits of one address are the same. -/
theorem eq_of_truncates (truncates : block.Truncates address) (also : other.Truncates address)
    (length_eq : block.length = other.length) : block = other := by
  refine eq_of_network_eq (Address.eq_of_agreeOn ?_) length_eq
  intro index index_lt
  rw [truncates index index_lt, also index index_lt, length_eq]

/-- A prefix is made by clearing the host bits. -/
theorem make_eq_ok_iff {length : Nat} :
    make address length = .ok block ↔ block.length = length ∧ block.Truncates address := by
  rw [make]
  constructor
  · intro made
    split at made
    · cases made
      exact ⟨rfl, ofAddress_truncates address _⟩
    · cases made
  · intro ⟨length_eq, truncates⟩
    subst length_eq
    rw [dif_pos block.length_le]
    exact congrArg Except.ok (eq_of_truncates (ofAddress_truncates address _) truncates rfl)

/-- A prefix is the one of its length that holds its network. -/
theorem ofAddress_network (block : Prefix) :
    ofAddress block.network block.length block.length_le = block := by
  have floor_eq : block.network.toNat / blockSize block.length * blockSize block.length =
      block.network.toNat := Nat.div_mul_cancel block.aligned
  refine eq_of_network_eq (Address.eq_of_toNat_eq ?_) rfl
  change (Address.ofNat _).toNat = _
  rw [floor_eq, Address.toNat_ofNat block.network.toNat_lt]

/-- The network of a prefix has no host bits. -/
theorem truncates_network (block : Prefix) : block.Truncates block.network := by
  have truncates := ofAddress_truncates block.network block.length_le
  rwa [ofAddress_network] at truncates

end Truncation

section Addresses

/-- The network of a block is a multiple of its size. -/
theorem network_eq_mul (block : Prefix) :
    block.network.toNat / block.size * block.size = block.network.toNat :=
  Nat.div_mul_cancel block.aligned

theorem coversAddress_iff :
    block.coversAddress address = true ↔
      block.network.toNat ≤ address.toNat ∧ address.toNat < block.network.toNat + block.size := by
  have size_pos := block.size_pos
  rw [coversAddress, Bool.and_eq_true, decide_eq_true_iff, decide_eq_true_iff, last,
    and_congr_right_iff]
  omega

/-- An address lies in a block if it starts with the bits of the block. -/
theorem coversAddress_iff_agreeOn :
    block.coversAddress address = true ↔ Address.AgreeOn block.length address block.network := by
  have size_pos := block.size_pos
  have network_eq := block.network_eq_mul
  rw [Address.agreeOn_iff_div_eq block.length_le, coversAddress_iff]
  change _ ↔ address.toNat / block.size = block.network.toNat / block.size
  rw [Nat.div_eq_iff size_pos, network_eq, and_congr_right_iff]
  omega

theorem Truncates.coversAddress (truncates : block.Truncates address) :
    block.coversAddress address = true := by
  rw [coversAddress_iff_agreeOn]
  intro index index_lt
  have bound := block.length_le
  rw [truncates index (by omega), decide_eq_true index_lt, Bool.true_and]

theorem coversAddress_network (block : Prefix) : block.coversAddress block.network = true :=
  block.truncates_network.coversAddress

/-- No block reaches beyond the last address. -/
theorem network_add_size_le (block : Prefix) :
    block.network.toNat + block.size ≤ UInt32.size := by
  obtain ⟨blocks, blocks_eq⟩ : block.size ∣ UInt32.size := by
    rw [size_eq_two_pow]
    exact Nat.pow_dvd_pow 2 (Nat.sub_le _ _)
  obtain ⟨before, before_eq⟩ : block.size ∣ block.network.toNat := block.aligned
  have network_lt := block.network.toNat_lt
  rw [before_eq, blocks_eq] at network_lt ⊢
  exact Nat.mul_le_mul_left block.size (Nat.lt_of_mul_lt_mul_left network_lt)

theorem toNat_ofNat_last (block : Prefix) : (Address.ofNat block.last).toNat = block.last := by
  have size_pos := block.size_pos
  have bound := block.network_add_size_le
  apply Address.toNat_ofNat
  rw [last]
  omega

end Addresses

section Order

/-- One block covers another one exactly if all addresses of the other one lie in it. -/
theorem covers_iff_forall_coversAddress :
    outer.covers inner = true ↔
      ∀ address, inner.coversAddress address = true → outer.coversAddress address = true := by
  have inner_pos := inner.size_pos
  constructor
  · intro covers address inside
    rw [covers_iff] at covers
    rw [coversAddress_iff] at inside ⊢
    omega
  · intro within
    have first := coversAddress_iff.mp (within _ inner.coversAddress_network)
    have final := coversAddress_iff.mp (within (.ofNat inner.last) (by
      rw [coversAddress_iff, toNat_ofNat_last, last]
      omega))
    rw [toNat_ofNat_last, last] at final
    rw [covers_iff]
    omega

theorem covers_trans (covers : outer.covers inner = true) (also : inner.covers third = true) :
    outer.covers third = true := by
  rw [covers_iff] at covers also ⊢
  omega

theorem covers_antisymm (covers : outer.covers inner = true) (back : inner.covers outer = true) :
    outer = inner :=
  eq_of_covers_of_length_eq back
    (Nat.le_antisymm (length_le_of_covers covers) (length_le_of_covers back))

/-- Of two blocks with a common address, the shorter prefix covers the longer one. -/
theorem covers_of_common_address (common : outer.coversAddress address = true)
    (also : inner.coversAddress address = true) (length_le : outer.length ≤ inner.length) :
    outer.covers inner = true := by
  rw [coversAddress_iff_agreeOn] at common also
  rw [covers_iff_forall_coversAddress]
  intro member inside
  rw [coversAddress_iff_agreeOn] at inside ⊢
  exact ((inside.trans also.symm).mono length_le).trans common

theorem exists_common_address_iff :
    (∃ address, block.coversAddress address = true ∧ other.coversAddress address = true) ↔
      block.covers other = true ∨ other.covers block = true := by
  constructor
  · intro ⟨address, inside, also⟩
    rcases Nat.le_total block.length other.length with shorter | longer
    · exact .inl (covers_of_common_address inside also shorter)
    · exact .inr (covers_of_common_address also inside longer)
  · intro nested
    rcases nested with covers | covers
    · exact ⟨other.network, covers_iff_forall_coversAddress.mp covers _ other.coversAddress_network,
        other.coversAddress_network⟩
    · exact ⟨block.network, block.coversAddress_network,
        covers_iff_forall_coversAddress.mp covers _ block.coversAddress_network⟩

/-- A prefix comes before those nested in it. -/
theorem isLE_compare_of_covers (covers : outer.covers inner = true) :
    (compare outer inner).isLE = true := by
  have length_le := length_le_of_covers covers
  rw [covers_iff] at covers
  change ((compare outer.network inner.network).then (compare outer.length inner.length)).isLE = _
  rw [Ordering.isLE_then_iff_or, Address.compare_eq_lt_iff, LawfulEqOrd.compare_eq_iff_eq,
    Nat.isLE_compare]
  rcases Nat.lt_or_eq_of_le covers.1 with before | same
  · exact .inl before
  · exact .inr ⟨Address.eq_of_toNat_eq same, length_le⟩

end Order

/-- Covering is inclusion of the sets of addresses that start with the bits of a prefix, and the two
ranges hold one prefix and the more specific ones. -/
theorem covering_is_inclusion :
    (∀ (address : Address) (length : Nat), length ≤ maxLength →
      ∃ block, make address length = .ok block ∧ block.length = length ∧
        block.Truncates address) ∧
    (∀ (block : Prefix) (address : Address), block.coversAddress address = true ↔
      Address.AgreeOn block.length address block.network) ∧
    (∀ outer inner : Prefix, outer.covers inner = true ↔
      ∀ address, inner.coversAddress address = true → outer.coversAddress address = true) ∧
    (∀ block : Prefix, block.covers block = true) ∧
    (∀ first second third : Prefix, first.covers second = true → second.covers third = true →
      first.covers third = true) ∧
    (∀ first second : Prefix, first.covers second = true → second.covers first = true →
      first = second) ∧
    (∀ first second : Prefix,
      (∃ address, first.coversAddress address = true ∧ second.coversAddress address = true) ↔
        first.covers second = true ∨ second.covers first = true) ∧
    (∀ outer inner : Prefix, outer.covers inner = true → (compare outer inner).isLE = true) ∧
    (∀ block other : Prefix, (PrefixRange.exact block).includes other = true ↔ other = block) ∧
    (∀ block other : Prefix, (PrefixRange.moreSpecificThan block).includes other = true ↔
      block.covers other = true ∧ other ≠ block) ∧
    ∀ block other : Prefix, block.isHost = true →
      (PrefixRange.moreSpecificThan block).includes other = false := by
  refine ⟨fun address length length_le => ?_, fun _ _ => coversAddress_iff_agreeOn,
    fun _ _ => covers_iff_forall_coversAddress, covers_self, fun _ _ _ => covers_trans,
    fun _ _ => covers_antisymm, fun _ _ => exists_common_address_iff,
    fun _ _ => isLE_compare_of_covers, fun _ _ => PrefixRange.exact_includes_iff,
    fun _ _ => PrefixRange.moreSpecificThan_includes_iff, fun block other host => ?_⟩
  · exact ⟨ofAddress address length length_le, dif_pos length_le, rfl,
      ofAddress_truncates address length_le⟩
  · refine Bool.eq_false_iff.mpr fun included => ?_
    obtain ⟨covers, distinct⟩ := PrefixRange.moreSpecificThan_includes_iff.mp included
    have host_length : block.length = maxLength := beq_iff_eq.mp host
    have lengths := length_le_of_covers covers
    have bound : other.length ≤ maxLength := other.length_le
    exact distinct (eq_of_covers_of_length_eq covers (by omega))

end Prefix
end NeutralRouting
