import NeutralRouting.Net.Prefix

/-!
# Generated routes

A generated route is installed while its generation policy holds for some other route.
-/

namespace NeutralRouting

open Std

/-- A route that the device installs by itself. -/
structure GeneratedRoute where
  network : Prefix
  /-- Administrative distance. -/
  admin : UInt32
  /-- Packets that follow the route are dropped. -/
  discard : Bool
  /-- The policy that activates the route; without one it is always active. -/
  generationPolicy : Option String
deriving DecidableEq

namespace GeneratedRoute

/-- Generated routes are ordered field by field. -/
instance : Ord GeneratedRoute :=
  ⟨compareLex (compareOn network) (compareLex (compareOn admin)
    (compareLex (compareOn discard) (compareOn generationPolicy)))⟩

instance : TransOrd GeneratedRoute :=
  inferInstanceAs (TransCmp (compareLex (compareOn network) (compareLex (compareOn admin)
    (compareLex (compareOn discard) (compareOn generationPolicy)))))

instance : LawfulEqOrd GeneratedRoute :=
  lawfulEqCmp_compareLex network fun left right sameNetwork sameRest => by
    simp only [compareLex_eq_eq, compareOn_eq_eq] at sameRest
    cases left
    cases right
    simp_all

end GeneratedRoute
end NeutralRouting
