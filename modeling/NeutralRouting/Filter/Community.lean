import NeutralRouting.Order

/-!
# BGP communities

A community is a pair of 16-bit words or one of the well-known values.
-/

namespace NeutralRouting

open Std

/-- A BGP community. -/
inductive Community where
  | standard (asn value : UInt16)
  | noAdvertise
  | noExport
  | noPeer
  | blackhole
  | localAs
  | gracefulShutdown
  | acceptOwn
deriving DecidableEq, Inhabited

namespace Community

/-- The words of a standard community. -/
def words : Community → UInt16 × UInt16
  | standard asn value => (asn, value)
  | _ => (0, 0)

/-- First word of a standard community. -/
def asn (community : Community) : UInt16 := community.words.1

/-- Second word of a standard community. -/
def value (community : Community) : UInt16 := community.words.2

/-- Standard communities come first, by their words; the others follow as they are listed. -/
instance : Ord Community :=
  ⟨compareLex (compareOn Community.ctorIdx) (compareLex (compareOn asn) (compareOn value))⟩

instance : TransOrd Community :=
  inferInstanceAs (TransCmp
    (compareLex (compareOn Community.ctorIdx) (compareLex (compareOn asn) (compareOn value))))

instance : LawfulEqOrd Community :=
  lawfulEqCmp_compareLex Community.ctorIdx fun left right sameKind sameWords => by
    obtain ⟨sameAsn, sameValue⟩ := compareLex_eq_eq.mp sameWords
    cases left <;> cases right <;> first
      | (cases compareOn_eq_eq.mp sameAsn; cases compareOn_eq_eq.mp sameValue; rfl)
      | cases sameKind

/-- The two words separated by a colon, or the keyword. -/
def text : Community → String
  | standard asn value => s!"{asn}:{value}"
  | noAdvertise => "no-advertise"
  | noExport => "no-export"
  | noPeer => "no-peer"
  | blackhole => "blackhole"
  | localAs => "local-AS"
  | gracefulShutdown => "graceful-shutdown"
  | acceptOwn => "accept-own"

instance : ToString Community := ⟨text⟩

end Community
end NeutralRouting
