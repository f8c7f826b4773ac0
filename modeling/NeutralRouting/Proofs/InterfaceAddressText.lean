import NeutralRouting.Net.InterfaceAddress
import NeutralRouting.Proofs.PrefixText

/-!
# Reading and writing interface addresses

What a text comes to when it is read as an interface address, as a list of cases that are tried one
after the other: the parts of the text, the address, the mask, and the length of the mask.  The
written form of an interface address is read as that address.
-/

namespace NeutralRouting
namespace InterfaceAddress

/-- The text has two parts, with a slash in between and no other slash. -/
structure Parts (text quad mask : List Char) : Prop where
  joined : text = quad ++ '/' :: mask
  quad_free : '/' ∉ quad
  mask_free : '/' ∉ mask

/-- Digits that stand for a number up to 255, with an optional plus sign in front.  Leading zeros
are allowed. -/
inductive Mask : List Char → Nat → Prop
  | digits {text : List Char} {value : Nat} :
      Decimal.Numeral text value → value ≤ 255 → Mask text value
  | signed {text : List Char} {value : Nat} :
      Decimal.Numeral text value → value ≤ 255 → Mask ('+' :: text) value

/-- What a text comes to when it is read. -/
inductive Outcome (text : String) : Except NetError InterfaceAddress → Prop
  | noParts : (∀ quad mask, ¬Parts text.toList quad mask) →
      Outcome text (.error (.notInterfaceAddress text))
  | noQuad {quad mask : List Char} : Parts text.toList quad mask →
      (∀ address, ¬Address.Quad Address.PlainOctet quad address) →
      Outcome text (.error .notInterfaceQuad)
  | noMask {quad mask : List Char} {address : Address} : Parts text.toList quad mask →
      Address.Quad Address.PlainOctet quad address → (∀ length, ¬Mask mask length) →
      Outcome text (.error (.notInterfaceAddress text))
  | tooLong {quad mask : List Char} {address : Address} {length : Nat} :
      Parts text.toList quad mask → Address.Quad Address.PlainOctet quad address →
      Mask mask length → Prefix.maxLength < length → Outcome text (.error (.lengthTooLong length))
  | read {quad mask : List Char} {address : Address} {length : Nat} :
      Parts text.toList quad mask → Address.Quad Address.PlainOctet quad address →
      Mask mask length → (small : length ≤ Prefix.maxLength) →
      Outcome text (.ok ⟨address, length, small⟩)

variable {text : String} {quad mask : List Char} {address : Address} {length : Nat}

section Making

theorem make_eq_ok_iff {result : InterfaceAddress} :
    make address length = .ok result ↔
      length ≤ Prefix.maxLength ∧ result.address = address ∧ result.maskLength = length := by
  rw [make]
  constructor
  · intro made
    split at made
    case isTrue small =>
      cases made
      exact ⟨small, rfl, rfl⟩
    case isFalse => cases made
  · intro ⟨small, address_eq, length_eq⟩
    subst address_eq length_eq
    exact dif_pos small

theorem make_eq_error_iff {cause : NetError} :
    make address length = .error cause ↔
      Prefix.maxLength < length ∧ cause = .lengthTooLong length := by
  rw [make]
  by_cases small : length ≤ Prefix.maxLength
  · simp [small, Nat.not_lt_of_le small]
  · simp [small, Nat.lt_of_not_le small, eq_comm]

/-- The subnet is the prefix that is made from the address and its mask. -/
theorem make_subnet (address : InterfaceAddress) :
    Prefix.make address.address address.maskLength = .ok address.subnet :=
  dif_pos address.maskLength_le

end Making

section Reading

theorem parts_iff {characters : List Char} :
    Parts characters quad mask ↔ characters.splitOn '/' = [quad, mask] := by
  rw [splitOn_eq_pair_iff]
  exact ⟨fun ⟨joined, quad_free, mask_free⟩ => ⟨joined, quad_free, mask_free⟩,
    fun ⟨joined, quad_free, mask_free⟩ => ⟨joined, quad_free, mask_free⟩⟩

theorem readMask?_eq_some_iff : readMask? mask = some length ↔ Mask mask length := by
  simp only [readMask?, Option.filter_eq_some_iff, Decimal.read?_eq_some_iff, decide_eq_true_iff]
  constructor
  · intro ⟨numeral, small⟩
    split at numeral
    case h_1 => exact .signed numeral small
    case h_2 => exact .digits numeral small
  · intro is_mask
    cases is_mask with
    | signed numeral small => exact ⟨numeral, small⟩
    | digits numeral small =>
        refine ⟨?_, small⟩
        split
        case h_1 rest => exact absurd List.mem_cons_self (numeral.not_mem (by decide))
        case h_2 => exact numeral

theorem ofText_of_noParts (misshapen : ∀ quad mask, ¬Parts text.toList quad mask) :
    ofText text = .error (.notInterfaceAddress text) := by
  rw [ofText]
  split
  case h_1 quad mask pieces => exact absurd (parts_iff.mpr pieces) (misshapen quad mask)
  case h_2 => rfl

theorem ofText_of_parts (parts : Parts text.toList quad mask) :
    ofText text =
      match Address.ofQuad? Address.octet? quad with
      | none => .error .notInterfaceQuad
      | some address =>
        match readMask? mask with
        | none => .error (.notInterfaceAddress text)
        | some length => make address length := by
  rw [ofText]
  split
  case h_1 first second pieces =>
    cases (parts_iff.mp parts).symm.trans pieces
    rfl
  case h_2 misshapen => exact absurd (parts_iff.mp parts) (misshapen quad mask)

theorem ofText_of_noQuad (parts : Parts text.toList quad mask)
    (unaddressed : ∀ address, ¬Address.Quad Address.PlainOctet quad address) :
    ofText text = .error .notInterfaceQuad := by
  have refused : Address.ofQuad? Address.octet? quad = none := by
    rw [Option.eq_none_iff_forall_ne_some]
    intro address accepted
    exact unaddressed address (Address.ofQuad?_octet?_eq_some_iff.mp accepted)
  rw [ofText_of_parts parts, refused]

theorem ofText_of_noMask (parts : Parts text.toList quad mask)
    (is_quad : Address.Quad Address.PlainOctet quad address)
    (unmasked : ∀ length, ¬Mask mask length) :
    ofText text = .error (.notInterfaceAddress text) := by
  have refused : readMask? mask = none := by
    rw [Option.eq_none_iff_forall_ne_some]
    intro length accepted
    exact unmasked length (readMask?_eq_some_iff.mp accepted)
  rw [ofText_of_parts parts, Address.ofQuad?_octet?_eq_some_iff.mpr is_quad, refused]

/-- Once the address and the mask are read, only the length of the mask is left to check. -/
theorem ofText_of_mask (parts : Parts text.toList quad mask)
    (is_quad : Address.Quad Address.PlainOctet quad address) (is_mask : Mask mask length) :
    ofText text = make address length := by
  rw [ofText_of_parts parts, Address.ofQuad?_octet?_eq_some_iff.mpr is_quad,
    readMask?_eq_some_iff.mpr is_mask]

theorem Outcome.ofText_eq {outcome : Except NetError InterfaceAddress}
    (applies : Outcome text outcome) : ofText text = outcome := by
  cases applies with
  | noParts misshapen => exact ofText_of_noParts misshapen
  | noQuad parts unaddressed => exact ofText_of_noQuad parts unaddressed
  | noMask parts is_quad unmasked => exact ofText_of_noMask parts is_quad unmasked
  | tooLong parts is_quad is_mask long =>
      rw [ofText_of_mask parts is_quad is_mask, make_eq_error_iff]
      exact ⟨long, rfl⟩
  | read parts is_quad is_mask small =>
      rw [ofText_of_mask parts is_quad is_mask, make_eq_ok_iff]
      exact ⟨small, rfl, rfl⟩

/-- Some case applies to every text. -/
theorem exists_outcome (text : String) : ∃ outcome, Outcome text outcome := by
  by_cases shaped : ∃ quad mask, Parts text.toList quad mask
  case neg =>
    exact ⟨_, .noParts fun quad mask parts => shaped ⟨quad, mask, parts⟩⟩
  obtain ⟨quad, mask, parts⟩ := shaped
  by_cases addressed : ∃ address, Address.Quad Address.PlainOctet quad address
  case neg =>
    exact ⟨_, .noQuad parts fun address is_quad => addressed ⟨address, is_quad⟩⟩
  obtain ⟨address, is_quad⟩ := addressed
  by_cases masked : ∃ length, Mask mask length
  case neg =>
    exact ⟨_, .noMask parts is_quad fun length is_mask => masked ⟨length, is_mask⟩⟩
  obtain ⟨length, is_mask⟩ := masked
  rcases Nat.lt_or_ge Prefix.maxLength length with long | small
  · exact ⟨_, .tooLong parts is_quad is_mask long⟩
  · exact ⟨_, .read parts is_quad is_mask small⟩

theorem ofText_eq_iff {outcome : Except NetError InterfaceAddress} :
    ofText text = outcome ↔ Outcome text outcome := by
  constructor
  · intro outcome_eq
    obtain ⟨other, applies⟩ := exists_outcome text
    rwa [← outcome_eq, applies.ofText_eq]
  · exact Outcome.ofText_eq

end Reading

section Writing

theorem toList_text (address : InterfaceAddress) :
    address.text.toList =
      address.address.text.toList ++ '/' :: address.maskLength.repr.toList := by
  change (address.address.text ++ "/" ++ address.maskLength.repr).toList = _
  rw [String.toList_append, String.toList_append, List.append_assoc]
  rfl

/-- The text of an interface address has the two parts that are read as its address and mask. -/
theorem outcome_text (address : InterfaceAddress) : Outcome address.text (.ok address) := by
  have bound : address.maskLength ≤ 32 := address.maskLength_le
  have parts : Parts address.text.toList address.address.text.toList
      address.maskLength.repr.toList :=
    ⟨address.toList_text, address.address.slash_not_mem_text, not_mem_toList_repr (by decide) _⟩
  have mask : Mask address.maskLength.repr.toList address.maskLength :=
    .digits (Decimal.numeral_repr _) (by omega)
  exact .read parts address.address.quad_text mask address.maskLength_le

end Writing

/-- What a text is read as is settled by the first case that applies to it, and an address that is
read keeps its host bits and lies in its subnet. -/
theorem ofText_settled_by_outcome :
    (∀ address : InterfaceAddress, ofText address.text = .ok address) ∧
    (∀ (text : String) (outcome : Except NetError InterfaceAddress),
      ofText text = outcome ↔ Outcome text outcome) ∧
    (∀ (address : Address) (length : Nat) (result : InterfaceAddress),
      make address length = .ok result ↔
        length ≤ Prefix.maxLength ∧ result.address = address ∧ result.maskLength = length) ∧
    (∀ (address : Address) (length : Nat) (cause : NetError),
      make address length = .error cause ↔
        Prefix.maxLength < length ∧ cause = .lengthTooLong length) ∧
    ∀ address : InterfaceAddress,
      Prefix.make address.address address.maskLength = .ok address.subnet ∧
        address.subnet.length = address.maskLength ∧
        address.subnet.coversAddress address.address = true := by
  refine ⟨fun address => address.outcome_text.ofText_eq, fun _ _ => ofText_eq_iff,
    fun _ _ _ => make_eq_ok_iff, fun _ _ _ => make_eq_error_iff, fun address => ?_⟩
  obtain ⟨length_eq, truncates⟩ := Prefix.make_eq_ok_iff.mp address.make_subnet
  exact ⟨address.make_subnet, length_eq, truncates.coversAddress⟩

example : ofText "010.0.1.5/400" = .error .notInterfaceQuad := by decide

end InterfaceAddress
end NeutralRouting
