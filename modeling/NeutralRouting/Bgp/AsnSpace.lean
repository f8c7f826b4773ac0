/-!
# Spaces of AS numbers

A set of AS numbers is kept as a list of ranges.  Taking numbers away cuts the ranges they meet;
it never joins ranges, so a list whose ranges are in order and apart stays so.
-/

namespace NeutralRouting

/-- The AS numbers from `first` to `last`, both included. -/
structure AsnRange where
  first : UInt32
  last : UInt32
deriving DecidableEq

namespace AsnRange

/-- The number lies between the ends. -/
def contains (range : AsnRange) (asn : UInt32) : Bool :=
  range.first ≤ asn && asn ≤ range.last

/-- How many numbers lie between the ends. -/
def size (range : AsnRange) : Nat := range.last.toNat - range.first.toNat + 1

/-- The parts of a range below and above the numbers taken away. -/
def without (range cut : AsnRange) : List AsnRange :=
  if cut.last < range.first ∨ range.last < cut.first then [range]
  else
    (if range.first < cut.first then [⟨range.first, cut.first - 1⟩] else []) ++
      (if cut.last < range.last then [⟨cut.last + 1, range.last⟩] else [])

/-- One number, or the two ends separated by a hyphen. -/
def text (range : AsnRange) : String :=
  if range.first = range.last then toString range.first else s!"{range.first}-{range.last}"

end AsnRange

/-- A set of AS numbers, as a list of ranges. -/
structure AsnSpace where
  ranges : List AsnRange
deriving DecidableEq

namespace AsnSpace

/-- Every valid AS number: zero is reserved. -/
def all : AsnSpace := ⟨[⟨1, 4294967295⟩]⟩

/-- No AS number. -/
def empty : AsnSpace := ⟨[]⟩

/-- One AS number. -/
def singleton (asn : UInt32) : AsnSpace := ⟨[⟨asn, asn⟩]⟩

/-- Some range contains the number. -/
def contains (space : AsnSpace) (asn : UInt32) : Bool := space.ranges.any (·.contains asn)

/-- The space holds no number. -/
def isEmpty (space : AsnSpace) : Bool := space.ranges.isEmpty

/-- How many numbers the space holds. -/
def size (space : AsnSpace) : Nat := (space.ranges.map (·.size)).foldl (· + ·) 0

/-- The numbers of a space outside a range. -/
def withoutRange (space : AsnSpace) (cut : AsnRange) : AsnSpace :=
  ⟨space.ranges.flatMap (·.without cut)⟩

/-- The numbers of the first space that are not in the second. -/
def difference (space other : AsnSpace) : AsnSpace := other.ranges.foldl withoutRange space

/-- The ranges in order, in braces. -/
def text (space : AsnSpace) : String :=
  "\x7b" ++ ",".intercalate (space.ranges.map (·.text)) ++ "\x7d"

end AsnSpace
end NeutralRouting
