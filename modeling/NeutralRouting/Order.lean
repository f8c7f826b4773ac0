import Std.Data.ExtTreeSet

/-!
# Orders given by keys

The keyed tables and sets of this library are extensional ordered trees, so every key type needs
a comparison that is transitive and answers `eq` only on equal values.  Comparing through keys
gives such a comparison as soon as the keys together determine the value.
-/

namespace NeutralRouting

open Std

/-- Comparing by a key finds two values equal exactly when their keys are. -/
theorem compareOn_eq_eq {α β : Type _} [Ord β] [LawfulEqOrd β] {key : α → β} {left right : α} :
    compareOn key left right = .eq ↔ key left = key right :=
  compare_eq_iff_eq

/-- Comparison by an injective key answers `eq` only on equal values. -/
theorem lawfulEqCmp_compareOn {α β : Type _} [Ord β] [LawfulEqOrd β] (key : α → β)
    (injective : ∀ left right, key left = key right → left = right) :
    LawfulEqCmp (compareOn key) where
  compare_self := compareOn_eq_eq.mpr rfl
  eq_of_compare equal := injective _ _ (compareOn_eq_eq.mp equal)

/-- Comparison by two keys in turn answers `eq` only on equal values, if the keys together
determine the value. -/
theorem lawfulEqCmp_compareLex {α β : Type _} [Ord β] [LawfulEqOrd β]
    (key : α → β) {second : α → α → Ordering} [ReflCmp second]
    (determined : ∀ left right, key left = key right → second left right = .eq → left = right) :
    LawfulEqCmp (compareLex (compareOn key) second) where
  compare_self := compareLex_eq_eq.mpr ⟨compareOn_eq_eq.mpr rfl, ReflCmp.compare_self⟩
  eq_of_compare equal :=
    determined _ _ (compareOn_eq_eq.mp (compareLex_eq_eq.mp equal).1) (compareLex_eq_eq.mp equal).2

end NeutralRouting
