import NeutralRouting.Net.Prefix

/-!
# Interface addresses

The address of an interface together with the length of its subnet mask.  Unlike a prefix it
keeps its host bits.
-/

namespace NeutralRouting

open Std

/-- An address configured on an interface. -/
structure InterfaceAddress where
  address : Address
  maskLength : Nat
  maskLength_le : maskLength ≤ Prefix.maxLength
deriving DecidableEq

namespace InterfaceAddress

/-- Interface addresses are ordered by address, then by mask length. -/
instance : Ord InterfaceAddress := ⟨compareLex (compareOn address) (compareOn maskLength)⟩

instance : TransOrd InterfaceAddress :=
  inferInstanceAs (TransCmp (compareLex (compareOn address) (compareOn maskLength)))

instance : LawfulEqOrd InterfaceAddress :=
  lawfulEqCmp_compareLex address fun left right sameAddress sameLength => by
    cases left
    cases right
    cases sameAddress
    cases compareOn_eq_eq.mp sameLength
    rfl

/-- The later of two interface addresses. -/
instance : Max InterfaceAddress where
  max left right := if (compare left right).isLE then right else left

/-- An interface address, unless the mask length exceeds 32. -/
def make (address : Address) (maskLength : Nat) : Except NetError InterfaceAddress :=
  if maskLength_le : maskLength ≤ Prefix.maxLength then .ok ⟨address, maskLength, maskLength_le⟩
  else .error (.lengthTooLong maskLength)

/-- The subnet of an interface address. -/
def subnet (address : InterfaceAddress) : Prefix :=
  .ofAddress address.address address.maskLength address.maskLength_le

/-- The address and the mask length, separated by a slash. -/
def text (address : InterfaceAddress) : String := s!"{address.address}/{address.maskLength}"

instance : ToString InterfaceAddress := ⟨text⟩

/-- A mask length is a numeral up to 255, with an optional plus sign and leading zeros. -/
def readMask? (text : List Char) : Option Nat :=
  let digits := match text with
    | '+' :: rest => rest
    | _ => text
  (Decimal.read? digits).filter (· ≤ 255)

/-- The interface address with the given text.  A text that is wrong in several ways is refused
for its shape first, then for its address, its mask, and the length of its mask. -/
def ofText (text : String) : Except NetError InterfaceAddress :=
  match text.toList.splitOn '/' with
  | [quad, mask] =>
    match Address.ofQuad? Address.octet? quad with
    | none => .error .notInterfaceQuad
    | some address =>
      match readMask? mask with
      | none => .error (.notInterfaceAddress text)
      | some length => make address length
  | _ => .error (.notInterfaceAddress text)

end InterfaceAddress
end NeutralRouting
