import NeutralRouting.DeviceError
import NeutralRouting.Filter.MatchList
import Std.Data.ExtTreeMap

/-!
# Prefix lists

A prefix list of the device has numbered lines, which are read in the order of their numbers
whatever the order in which they were written.  A line without a number of its own is put after
all the others, at the next multiple of five.
-/

namespace NeutralRouting

open Std

/-- A line of a prefix list: the prefixes that `base` covers with a length between the bounds. -/
structure PrefixListLine where
  action : Action
  base : Prefix
  minLength : Nat
  maxLength : Nat
deriving DecidableEq

namespace PrefixListLine

/-- A line without bounds matches one prefix. -/
def exact (action : Action) (base : Prefix) : PrefixListLine :=
  ⟨action, base, base.length, base.length⟩

/-- Set the lower bound.  An upper bound below it is lifted to the greatest length. -/
def atLeast (line : PrefixListLine) (length : Nat) : PrefixListLine :=
  { line with
    minLength := length
    maxLength := if line.maxLength < length then Prefix.maxLength else line.maxLength }

/-- Set the upper bound. -/
def atMost (line : PrefixListLine) (length : Nat) : PrefixListLine :=
  { line with maxLength := length }

/-- The line matches the prefix. -/
def includes (line : PrefixListLine) (block : Prefix) : Bool :=
  line.base.covers block && line.minLength ≤ block.length && block.length ≤ line.maxLength

/-- The same line in a route filter list. -/
def toRouteFilterLine (line : PrefixListLine) : RouteFilterLine :=
  ⟨line.action, ⟨line.base, line.minLength, line.maxLength⟩⟩

end PrefixListLine

/-- A prefix list with its numbered lines. -/
structure PrefixList where
  name : String
  /-- The number of the next line that has none of its own. -/
  nextNumber : UInt32
  lines : ExtTreeMap UInt32 PrefixListLine
deriving DecidableEq

namespace PrefixList

/-- A list without lines. -/
def empty (name : String) : PrefixList := ⟨name, 5, ∅⟩

/-- The least multiple of five above every number in use, and five if none is.  Above the greatest
word it starts again from the bottom. -/
def numberAfter (lines : ExtTreeMap UInt32 PrefixListLine) : UInt32 :=
  (lines.maxKey?.getD 0 / 5 + 1) * 5

/-- Add a line under its number, or under the next one, unless that is taken. -/
def addLine (list : PrefixList) (number : Option UInt32) (line : PrefixListLine) :
    PrefixList × Except DeviceError Unit :=
  let number := number.getD list.nextNumber
  if number ∈ list.lines then
    (list, .error (.duplicateNumber .prefixList list.name number.toNat))
  else
    let lines := list.lines.insert number line
    ({ list with nextNumber := numberAfter lines, lines := lines }, .ok ())

/-- The first line, by number, that matches the prefix permits it.  What no line matches is
denied. -/
def permits (list : PrefixList) (block : Prefix) : Bool :=
  (list.lines.values.find? (·.includes block)).any (·.action = .permit)

/-- The lines in the order of their numbers. -/
def toRouteFilterList (list : PrefixList) : RouteFilterList :=
  ⟨list.name, list.lines.values.map (·.toRouteFilterLine)⟩

end PrefixList
end NeutralRouting
