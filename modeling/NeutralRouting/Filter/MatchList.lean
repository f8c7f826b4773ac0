import NeutralRouting.Filter.Community
import NeutralRouting.Net.PrefixSpace

/-!
# Match lists

Named lists that routing policies match on: route filter lists over destinations, community
lists, and AS-path access lists.  A list is read line by line and the first matching line decides.
-/

namespace NeutralRouting

/-- What a line of a match list does with what it matches. -/
inductive Action where
  | permit
  | deny
deriving DecidableEq, Inhabited

/-- The keyword of an action. -/
def Action.text : Action → String
  | permit => "permit"
  | deny => "deny"

instance : ToString Action := ⟨Action.text⟩

/-- A line of a route filter list. -/
structure RouteFilterLine where
  action : Action
  range : PrefixRange
deriving DecidableEq

/-- A list of destination ranges. -/
structure RouteFilterList where
  name : String
  lines : List RouteFilterLine
deriving DecidableEq

/-- The first line whose range includes the prefix permits it.  What no line includes is
denied. -/
def RouteFilterList.permits (list : RouteFilterList) (block : Prefix) : Bool :=
  (list.lines.find? (·.range.includes block)).any (·.action = .permit)

/-- A line of a community list. -/
structure CommunityLine where
  action : Action
  community : Community
deriving DecidableEq

/-- A list of communities. -/
structure CommunityList where
  name : String
  lines : List CommunityLine
  /-- The list matches the routes that its lines do not. -/
  invertMatch : Bool
deriving DecidableEq

/-- A line of an AS-path access list. -/
structure AsPathAccessLine where
  action : Action
  /-- Pattern searched for in the AS path, written as numbers separated by spaces. -/
  regex : String
deriving DecidableEq

/-- A list of AS-path patterns. -/
structure AsPathAccessList where
  name : String
  lines : List AsPathAccessLine
deriving DecidableEq

end NeutralRouting
