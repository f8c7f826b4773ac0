import NeutralRouting.Filter.MatchList

/-!
# Community lists and AS-path lists of the device

The device lists communities with one action for all of them, and names the AS numbers that a path
may contain.  Both become match lists line by line.
-/

namespace NeutralRouting

/-- Communities that are all permitted or all denied. -/
structure LiteralCommunityList where
  name : String
  action : Action
  communities : List Community
deriving DecidableEq

/-- One line per community, all with the action of the list. -/
def LiteralCommunityList.toCommunityList (list : LiteralCommunityList) : CommunityList :=
  ⟨list.name, list.communities.map fun community => ⟨list.action, community⟩, false⟩

/-- A line of an AS-path list. -/
structure AsPathLine where
  action : Action
  /-- The line matches the paths that contain this AS. -/
  asn : UInt32
deriving DecidableEq

/-- The AS numbers looked for in a path. -/
structure AsPathList where
  name : String
  lines : List AsPathLine
deriving DecidableEq

/-- Pattern of the paths that contain an AS: its number stands between spaces or the ends. -/
def asPathPattern (asn : UInt32) : String := s!"(^| ){asn}($| )"

/-- One pattern per line. -/
def AsPathList.toAccessList (list : AsPathList) : AsPathAccessList :=
  ⟨list.name, list.lines.map fun line => ⟨line.action, asPathPattern line.asn⟩⟩

end NeutralRouting
