import NeutralRouting.Proofs.GroupChain

/-!
# What is inherited from peer groups

Taking over what is unset, member by member of a chain, gives every setting the value of the first
member that has it set.  An address family is there as soon as one member has it, even with nothing
set in it, and its settings are looked up in the members that have the family.
-/

namespace NeutralRouting

/-- Each setting from the first of the families that has it set, if there is a family at all. -/
def NeighborIpv4Unicast.firstSet : List NeighborIpv4Unicast → Option NeighborIpv4Unicast
  | [] => none
  | families => some
    { activated := families.findSome? (·.activated)
      routeMapIn := families.findSome? (·.routeMapIn)
      routeMapOut := families.findSome? (·.routeMapOut)
      nextHopSelf := families.findSome? (·.nextHopSelf)
      defaultOriginate := families.findSome? (·.defaultOriginate)
      routeReflectorClient := families.findSome? (·.routeReflectorClient)
      allowAsIn := families.findSome? (·.allowAsIn) }

/-- Each setting from the first of the families that has it set, if there is a family at all. -/
def NeighborEvpn.firstSet : List NeighborEvpn → Option NeighborEvpn
  | [] => none
  | families => some
    { activated := families.findSome? (·.activated)
      routeReflectorClient := families.findSome? (·.routeReflectorClient) }

/-- The name and the peer group of a neighbor, and each other setting from the first of it and its
groups that has it set. -/
def NeighborSettings.firstSet (own : NeighborSettings) (groups : List NeighborSettings) :
    NeighborSettings where
  name := own.name
  remoteAs := (own :: groups).findSome? (·.remoteAs)
  remoteAsType := (own :: groups).findSome? (·.remoteAsType)
  peerGroup := own.peerGroup
  description := (own :: groups).findSome? (·.description)
  ebgpMultihop := (own :: groups).findSome? (·.ebgpMultihop)
  updateSource := (own :: groups).findSome? (·.updateSource)
  ipv4Unicast := NeighborIpv4Unicast.firstSet ((own :: groups).filterMap (·.ipv4Unicast))
  evpn := NeighborEvpn.firstSet ((own :: groups).filterMap (·.evpn))

section Merging

variable {α β : Type} {setting : α → Option β} {merged first second : α}

/-- A search finds in a merged pair what it finds in the pair. -/
theorem findSome?_merged (same : setting merged = (setting first <|> setting second))
    (rest : List α) :
    (merged :: rest).findSome? setting = (first :: second :: rest).findSome? setting := by
  simp only [List.findSome?_cons, same]
  cases setting first <;> rfl

/-- A summary that is the same for merged families is the same for members that inherit them. -/
theorem filterMap_merged {merge : β → β → β} {summary : List β → Option β}
    (pair : ∀ own other rest, summary (merge own other :: rest) = summary (own :: other :: rest))
    (same : setting merged = inheritFamily merge (setting first) (setting second))
    (rest : List α) :
    summary ((merged :: rest).filterMap setting) =
      summary ((first :: second :: rest).filterMap setting) := by
  simp only [List.filterMap_cons, same]
  cases setting first with
  | none => rfl
  | some own =>
      cases setting second with
      | none => rfl
      | some other => exact pair own other _

/-- A summary of one member has its family, if that is how a family is summarized. -/
theorem filterMap_alone {summary : List β → Option β} (empty : summary [] = none)
    (alone : ∀ own, summary [own] = some own) :
    summary ([first].filterMap setting) = setting first := by
  rw [List.filterMap_cons]
  cases setting first with
  | none => exact empty
  | some own => exact alone own

end Merging

theorem NeighborIpv4Unicast.firstSet_singleton (own : NeighborIpv4Unicast) :
    firstSet [own] = some own := by
  simp only [firstSet, List.findSome?_singleton]

theorem NeighborEvpn.firstSet_singleton (own : NeighborEvpn) : firstSet [own] = some own := by
  simp only [firstSet, List.findSome?_singleton]

theorem NeighborIpv4Unicast.firstSet_inherit (own other : NeighborIpv4Unicast)
    (rest : List NeighborIpv4Unicast) :
    firstSet (own.inherit other :: rest) = firstSet (own :: other :: rest) := by
  simp only [firstSet, Option.some.injEq, NeighborIpv4Unicast.mk.injEq]
  exact ⟨findSome?_merged rfl rest, findSome?_merged rfl rest, findSome?_merged rfl rest,
    findSome?_merged rfl rest, findSome?_merged rfl rest, findSome?_merged rfl rest,
    findSome?_merged rfl rest⟩

theorem NeighborEvpn.firstSet_inherit (own other : NeighborEvpn) (rest : List NeighborEvpn) :
    firstSet (own.inherit other :: rest) = firstSet (own :: other :: rest) := by
  simp only [firstSet, Option.some.injEq, NeighborEvpn.mk.injEq]
  exact ⟨findSome?_merged rfl rest, findSome?_merged rfl rest⟩

namespace NeighborSettings

theorem firstSet_nil (own : NeighborSettings) : own.firstSet [] = own := by
  simp only [firstSet, List.findSome?_singleton,
    filterMap_alone rfl NeighborIpv4Unicast.firstSet_singleton,
    filterMap_alone rfl NeighborEvpn.firstSet_singleton]

/-- Inheriting from a group first makes no difference to what is found in the rest. -/
theorem firstSet_inherit (own group : NeighborSettings) (groups : List NeighborSettings) :
    (own.inherit group).firstSet groups = own.firstSet (group :: groups) := by
  simp only [firstSet, NeighborSettings.mk.injEq]
  exact ⟨rfl, findSome?_merged rfl groups, findSome?_merged rfl groups, rfl,
    findSome?_merged rfl groups, findSome?_merged rfl groups, findSome?_merged rfl groups,
    filterMap_merged NeighborIpv4Unicast.firstSet_inherit rfl groups,
    filterMap_merged NeighborEvpn.firstSet_inherit rfl groups⟩

/-- Inheriting from one group after the other finds the first that has a setting. -/
theorem foldl_inherit (own : NeighborSettings) (groups : List NeighborSettings) :
    groups.foldl inherit own = own.firstSet groups := by
  induction groups generalizing own with
  | nil => rw [List.foldl_nil, firstSet_nil]
  | cons group groups ih => rw [List.foldl_cons, ih, firstSet_inherit]

/-- Every neighbor has one chain of peer groups, and takes each setting from the first of itself and
the chain that has it set. -/
theorem resolve_takes_first_set (table : NeighborTable) (settings : NeighborSettings) :
    ∃ names members last,
      table.ChainFrom [settings.name] settings.peerGroup names members last ∧
      (∀ others neighbors final,
        table.ChainFrom [settings.name] settings.peerGroup others neighbors final →
          others = names ∧ neighbors = members ∧ final = last) ∧
      (∃ steps ≤ table.size + 1,
        ((GroupWalk.step table)^[steps] (.start settings)).next = none ∧
        ((GroupWalk.step table)^[steps] (.start settings)).resolved = settings.resolve table) ∧
      settings.resolve table = settings.firstSet (members.map (·.settings)) := by
  obtain ⟨names, members, last, chain, -⟩ :=
    table.exists_chainFrom [settings.name] settings.peerGroup
  refine ⟨names, members, last, chain, ?_, GroupWalk.resolves table settings, ?_⟩
  · intro others neighbors final other
    exact other.unique chain
  · rw [chain.resolve_eq, foldl_inherit]

end NeighborSettings
end NeutralRouting
