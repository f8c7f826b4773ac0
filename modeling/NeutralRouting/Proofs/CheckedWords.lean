import Mathlib.Algebra.Group.Nat.Defs

/-!
# Words that may overflow

Operations on words of fixed width that give up where the result does not fit, and otherwise give
the exact result.
-/

namespace NeutralRouting

/-- The sum of two words, unless it overflows. -/
def checkedAdd {width : Nat} (left right : BitVec width) : Option (BitVec width) :=
  if left.uaddOverflow right then none else some (left + right)

/-- The difference of two words, unless it is negative. -/
def checkedSub {width : Nat} (left right : BitVec width) : Option (BitVec width) :=
  if left.usubOverflow right then none else some (left - right)

/-- The product of two words, unless it overflows. -/
def checkedMul {width : Nat} (left right : BitVec width) : Option (BitVec width) :=
  if left.umulOverflow right then none else some (left * right)

theorem checkedAdd_eq_some {width : Nat} {left right : BitVec width}
    (fits : left.toNat + right.toNat < 2 ^ width) :
    checkedAdd left right = some (left + right) := by
  rw [checkedAdd, if_neg]
  simpa [BitVec.uaddOverflow] using fits

theorem checkedSub_eq_some {width : Nat} {left right : BitVec width}
    (fits : right.toNat ≤ left.toNat) : checkedSub left right = some (left - right) := by
  rw [checkedSub, if_neg]
  simpa [BitVec.usubOverflow] using fits

theorem checkedMul_eq_some {width : Nat} {left right : BitVec width}
    (fits : left.toNat * right.toNat < 2 ^ width) :
    checkedMul left right = some (left * right) := by
  rw [checkedMul, if_neg]
  simpa [BitVec.umulOverflow] using fits

end NeutralRouting
