/-!
# Decimal numerals

Reading of unsigned decimal numerals.  A numeral is one or more ASCII digits; leading zeros are
allowed unless a caller refuses them.  Numbers are written by `toString`, without leading zeros.
-/

namespace NeutralRouting
namespace Decimal

/-- The value of a numeral, if the text is one. -/
def read? (text : List Char) : Option Nat :=
  if text ≠ [] ∧ text.all Char.isDigit then some (Nat.ofDigitChars 10 text 0) else none

/-- The value of a numeral of at most `width` digits that does not exceed `bound`. -/
def readAtMost? (width bound : Nat) (text : List Char) : Option Nat :=
  if text.length ≤ width then (read? text).filter (· ≤ bound) else none

/-- The text starts with a zero that is not its only digit. -/
def hasLeadingZero : List Char → Bool
  | '0' :: _ :: _ => true
  | _ => false

end Decimal
end NeutralRouting
