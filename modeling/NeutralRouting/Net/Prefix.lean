import NeutralRouting.Net.Address
import NeutralRouting.Net.Error

/-!
# IPv4 prefixes

A prefix is a block of 2^(32 - length) addresses that starts at a multiple of its size: its host
bits are clear, so two prefixes that hold the same addresses are equal.  Prefixes are ordered by
network address, then by length, so a prefix comes before those nested in it.
-/

namespace NeutralRouting

open Std

/-- The number of addresses that share their first `length` bits, 2^(32 - length). -/
def blockSize (length : Nat) : Nat := 1 <<< (32 - length)

/-- An IPv4 prefix. -/
structure Prefix where
  /-- First address of the block. -/
  network : Address
  /-- Number of leading bits that the addresses of the block share. -/
  length : Nat
  length_le : length ≤ 32
  /-- The host bits of the network address are clear. -/
  aligned : blockSize length ∣ network.toNat
deriving DecidableEq

namespace Prefix

/-- The length of a prefix that holds one address. -/
def maxLength : Nat := 32

/-- Prefixes are ordered by network address, then by length. -/
instance : Ord Prefix := ⟨compareLex (compareOn network) (compareOn length)⟩

instance : TransOrd Prefix :=
  inferInstanceAs (TransCmp (compareLex (compareOn network) (compareOn length)))

instance : LawfulEqOrd Prefix :=
  lawfulEqCmp_compareLex network fun left right sameNetwork sameLength => by
    cases left
    cases right
    cases sameNetwork
    cases compareOn_eq_eq.mp sameLength
    rfl

/-- Number of addresses in a prefix. -/
def size (block : Prefix) : Nat := blockSize block.length

/-- The prefix of the given length that holds `address`. -/
def ofAddress (address : Address) (length : Nat) (length_le : length ≤ 32) : Prefix where
  network := .ofNat (address.toNat / blockSize length * blockSize length)
  length := length
  length_le := length_le
  aligned := by
    rw [Address.toNat_ofNat (Nat.lt_of_le_of_lt (Nat.div_mul_le_self _ _) address.toNat_lt)]
    exact Nat.dvd_mul_left _ _

/-- The prefix of the given length that holds `address`, unless the length exceeds 32. -/
def make (address : Address) (length : Nat) : Except NetError Prefix :=
  if length_le : length ≤ 32 then .ok (ofAddress address length length_le)
  else .error (.lengthTooLong length)

/-- The prefix of the given length that holds the address written as a dotted quad. -/
def ofQuadText (address : String) (length : Nat) : Except NetError Prefix :=
  match Address.ofText? address with
  | some address => make address length
  | none => .error .notAddress

/-- The prefix that holds every address. -/
def root : Prefix := ofAddress .unspecified 0 (Nat.zero_le _)

/-- The prefix holds every address. -/
def isRoot (block : Prefix) : Bool := block.length == 0

/-- The prefix holds one address. -/
def isHost (block : Prefix) : Bool := block.length == maxLength

/-- The last address of a prefix, as a number. -/
def last (block : Prefix) : Nat := block.network.toNat + (block.size - 1)

/-- The address lies in the block. -/
def coversAddress (block : Prefix) (address : Address) : Bool :=
  block.network.toNat ≤ address.toNat && address.toNat ≤ block.last

/-- The other block lies in this one.  A prefix covers itself. -/
def covers (outer inner : Prefix) : Bool :=
  outer.network.toNat ≤ inner.network.toNat && inner.last ≤ outer.last

/-- The network address and the length, separated by a slash. -/
def text (block : Prefix) : String := s!"{block.network}/{block.length}"

instance : ToString Prefix := ⟨text⟩

/-- Reads four octets and a length; both may have leading zeros, and the host bits are cleared. -/
def ofChars? (text : List Char) : Option Prefix :=
  match text.splitOn '/' with
  | [quad, length] => do
    let address ← Address.ofQuad? Address.paddedOctet? quad
    let length ← Decimal.readAtMost? 2 32 length
    (make address length).toOption
  | _ => none

/-- The prefix with the given text. -/
def ofText (text : String) : Except NetError Prefix :=
  match ofChars? text.toList with
  | some block => .ok block
  | none => .error (.notPrefix text)

end Prefix
end NeutralRouting
