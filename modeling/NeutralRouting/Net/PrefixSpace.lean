import NeutralRouting.Net.Prefix

/-!
# Prefix ranges and prefix spaces

A prefix range holds the prefixes that a given prefix covers and whose length lies between two
bounds.  A prefix space is a finite union of ranges.
-/

namespace NeutralRouting

open Std

/-- The prefixes that `base` covers with a length between the two bounds.  A range whose bounds
are crossed holds nothing. -/
structure PrefixRange where
  base : Prefix
  minLength : Nat
  maxLength : Nat
deriving DecidableEq

namespace PrefixRange

/-- Ranges are ordered by base, then by bounds. -/
instance : Ord PrefixRange :=
  ⟨compareLex (compareOn base) (compareLex (compareOn minLength) (compareOn maxLength))⟩

instance : TransOrd PrefixRange :=
  inferInstanceAs (TransCmp
    (compareLex (compareOn base) (compareLex (compareOn minLength) (compareOn maxLength))))

instance : LawfulEqOrd PrefixRange :=
  lawfulEqCmp_compareLex base fun left right sameBase sameBounds => by
    obtain ⟨sameMin, sameMax⟩ := compareLex_eq_eq.mp sameBounds
    cases left
    cases right
    cases sameBase
    cases compareOn_eq_eq.mp sameMin
    cases compareOn_eq_eq.mp sameMax
    rfl

/-- The range that holds one prefix. -/
def exact (block : Prefix) : PrefixRange := ⟨block, block.length, block.length⟩

/-- The range of the prefixes strictly inside another one. -/
def moreSpecificThan (block : Prefix) : PrefixRange :=
  ⟨block, block.length + 1, Prefix.maxLength⟩

/-- The prefix belongs to the range. -/
def includes (range : PrefixRange) (block : Prefix) : Bool :=
  range.minLength ≤ block.length && block.length ≤ range.maxLength && range.base.covers block

/-- The base, then the bounds. -/
def text (range : PrefixRange) : String := s!"{range.base}:{range.minLength}-{range.maxLength}"

instance : ToString PrefixRange := ⟨text⟩

end PrefixRange

/-- A finite union of prefix ranges. -/
structure PrefixSpace where
  ranges : ExtTreeSet PrefixRange
deriving DecidableEq

namespace PrefixSpace

/-- The space that holds nothing. -/
def empty : PrefixSpace := ⟨∅⟩

instance : Inhabited PrefixSpace := ⟨empty⟩

/-- Add the prefixes of a range. -/
def addRange (space : PrefixSpace) (range : PrefixRange) : PrefixSpace :=
  ⟨space.ranges.insert range⟩

/-- Add one prefix. -/
def addPrefix (space : PrefixSpace) (block : Prefix) : PrefixSpace :=
  space.addRange (.exact block)

/-- The space of one range. -/
def ofRange (range : PrefixRange) : PrefixSpace := empty.addRange range

/-- The space that holds exactly the given prefixes. -/
def ofPrefixes (blocks : List Prefix) : PrefixSpace := blocks.foldl addPrefix empty

/-- Some range of the space includes the prefix. -/
def contains (space : PrefixSpace) (block : Prefix) : Bool :=
  space.ranges.toList.any (·.includes block)

/-- The space has no range. -/
def isEmpty (space : PrefixSpace) : Bool := space.ranges.isEmpty

/-- The ranges in order, in braces. -/
def text (space : PrefixSpace) : String :=
  "\x7b" ++ ", ".intercalate (space.ranges.toList.map toString) ++ "\x7d"

instance : ToString PrefixSpace := ⟨text⟩

end PrefixSpace
end NeutralRouting
