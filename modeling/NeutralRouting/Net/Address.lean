import NeutralRouting.Order
import NeutralRouting.Text.Decimal

/-!
# IPv4 addresses

An address is a word of 32 bits, ordered by its value.  Its text is the dotted quad, whose octets
are written and read without leading zeros.
-/

namespace NeutralRouting

open Std

/-- An IPv4 address. -/
structure Address where
  /-- The address as a number, its first octet being the most significant. -/
  bits : UInt32
deriving DecidableEq, Inhabited

namespace Address

/-- Addresses are ordered by their value. -/
instance : Ord Address := ⟨compareOn bits⟩

instance : TransOrd Address := inferInstanceAs (TransCmp (compareOn bits))

instance : LawfulEqOrd Address :=
  lawfulEqCmp_compareOn bits fun ⟨_⟩ ⟨_⟩ equal => congrArg mk equal

/-- The value of an address. -/
def toNat (address : Address) : Nat := address.bits.toNat

/-- The address with the given value, taken modulo 2^32. -/
def ofNat (value : Nat) : Address := ⟨UInt32.ofNat value⟩

theorem toNat_lt (address : Address) : address.toNat < UInt32.size := address.bits.toNat_lt

theorem toNat_ofNat {value : Nat} (small : value < UInt32.size) : (ofNat value).toNat = value := by
  simp only [toNat, ofNat, UInt32.toNat_ofNat']
  exact Nat.mod_eq_of_lt small

/-- The address with the given octets. -/
def ofOctets (a b c d : Nat) : Address := ofNat (((a * 256 + b) * 256 + c) * 256 + d)

/-- The four octets of an address, the most significant first. -/
def octets (address : Address) : List Nat :=
  [address.toNat / 16777216, address.toNat / 65536 % 256, address.toNat / 256 % 256,
    address.toNat % 256]

/-- The dotted quad of an address. -/
def text (address : Address) : String := ".".intercalate (address.octets.map toString)

instance : ToString Address := ⟨text⟩

/-- The address written as four groups separated by dots, each group read by `octet`. -/
def ofQuad? (octet : List Char → Option Nat) (text : List Char) : Option Address :=
  match text.splitOn '.' with
  | [a, b, c, d] => return ofOctets (← octet a) (← octet b) (← octet c) (← octet d)
  | _ => none

/-- An octet of one to three digits, leading zeros allowed. -/
def paddedOctet? (text : List Char) : Option Nat := Decimal.readAtMost? 3 255 text

/-- An octet of one to three digits, without leading zeros. -/
def octet? (text : List Char) : Option Nat :=
  if Decimal.hasLeadingZero text then none else paddedOctet? text

/-- The address with the given dotted quad, if the text is one. -/
def ofText? (text : String) : Option Address := ofQuad? octet? text.toList

/-- The address 0.0.0.0. -/
def unspecified : Address := ⟨0⟩

/-- Addresses of 127.0.0.0/8 never leave the device. -/
def isInternal (address : Address) : Bool := address.toNat / 16777216 == 127

end Address
end NeutralRouting
