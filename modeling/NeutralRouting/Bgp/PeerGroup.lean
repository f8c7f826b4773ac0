import NeutralRouting.Bgp.Neighbor

/-!
# Inheritance from peer groups

A neighbor takes over from its peer group what it does not set itself, then from the peer group of
that group, and so on.  The chain of groups ends at a group that is missing or that was met before,
so it is never longer than the table of neighbors.
-/

namespace NeutralRouting

open Std

/-- Take over the settings that are unset. -/
def NeighborIpv4Unicast.inherit (own other : NeighborIpv4Unicast) : NeighborIpv4Unicast where
  activated := own.activated <|> other.activated
  routeMapIn := own.routeMapIn <|> other.routeMapIn
  routeMapOut := own.routeMapOut <|> other.routeMapOut
  nextHopSelf := own.nextHopSelf <|> other.nextHopSelf
  defaultOriginate := own.defaultOriginate <|> other.defaultOriginate
  routeReflectorClient := own.routeReflectorClient <|> other.routeReflectorClient
  allowAsIn := own.allowAsIn <|> other.allowAsIn

/-- Take over the settings that are unset. -/
def NeighborEvpn.inherit (own other : NeighborEvpn) : NeighborEvpn where
  activated := own.activated <|> other.activated
  routeReflectorClient := own.routeReflectorClient <|> other.routeReflectorClient

/-- Take over a whole family if there is none, and its unset settings otherwise. -/
def inheritFamily {α : Type} (inherit : α → α → α) : Option α → Option α → Option α
  | some own, some other => some (inherit own other)
  | some own, none => some own
  | none, other => other

/-- Take over the settings that are unset.  The name and the peer group stay. -/
def NeighborSettings.inherit (own other : NeighborSettings) : NeighborSettings where
  name := own.name
  remoteAs := own.remoteAs <|> other.remoteAs
  remoteAsType := own.remoteAsType <|> other.remoteAsType
  peerGroup := own.peerGroup
  description := own.description <|> other.description
  ebgpMultihop := own.ebgpMultihop <|> other.ebgpMultihop
  updateSource := own.updateSource <|> other.updateSource
  ipv4Unicast := inheritFamily NeighborIpv4Unicast.inherit own.ipv4Unicast other.ipv4Unicast
  evpn := inheritFamily NeighborEvpn.inherit own.evpn other.evpn

/-- The groups met from a neighbor on. -/
structure GroupChain where
  /-- The settings of the groups, in the order in which they are met. -/
  groups : List NeighborSettings
  /-- The group that was met a second time, if that ended the chain. -/
  repeated : Option String
deriving DecidableEq

/-- The chain with one more group in front. -/
def GroupChain.cons (group : NeighborSettings) (chain : GroupChain) : GroupChain :=
  { chain with groups := group :: chain.groups }

namespace NeighborTable

/-- The keys of a table outside a list. -/
def keysOutside (table : NeighborTable) (visited : List String) : List String :=
  table.keys.filter (· ∉ visited)

theorem length_keysOutside_cons_lt {table : NeighborTable} {visited : List String} {key : String}
    (present : key ∈ table) (fresh : key ∉ visited) :
    (table.keysOutside (key :: visited)).length < (table.keysOutside visited).length := by
  have split : table.keysOutside (key :: visited) =
      (table.keysOutside visited).filter (· ≠ key) := by
    simp only [keysOutside, List.filter_filter]
    congr 1
    funext other
    simp
  rw [split]
  refine List.length_filter_lt_length_iff_exists.mpr ⟨key, ?_, by simp⟩
  simpa [keysOutside] using ⟨present, fresh⟩

/-- Follow peer groups through the table, from `next` on, after the groups in `visited`. -/
def chainFrom (table : NeighborTable) (visited : List String) : Option String → GroupChain
  | none => ⟨[], none⟩
  | some group =>
    if _ : group ∈ visited then ⟨[], some group⟩
    else
      match _ : table[group]? with
      | none => ⟨[], none⟩
      | some neighbor =>
        .cons neighbor.settings
          (table.chainFrom (group :: visited) neighbor.settings.peerGroup)
termination_by (table.keysOutside visited).length
decreasing_by
  exact length_keysOutside_cons_lt (ExtTreeMap.mem_iff_isSome_getElem?.mpr (by simp [*])) ‹_›

end NeighborTable

namespace NeighborSettings

/-- The chain of groups of a neighbor, which is over when it comes back to the neighbor. -/
def groupChain (settings : NeighborSettings) (table : NeighborTable) : GroupChain :=
  table.chainFrom [settings.name] settings.peerGroup

/-- The settings of a neighbor with what it inherits. -/
def resolve (settings : NeighborSettings) (table : NeighborTable) : NeighborSettings :=
  (settings.groupChain table).groups.foldl inherit settings

/-- The complaint about a chain that came back to a group. -/
def cycleWarnings (settings : NeighborSettings) (table : NeighborTable) : List String :=
  (settings.groupChain table).repeated.toList.map fun group =>
    s!"Peer group '{group}' of neighbor {settings.name} is part of a cycle"

end NeighborSettings

namespace Neighbor

/-- A neighbor with what it inherits. -/
def resolve (neighbor : Neighbor) (table : NeighborTable) : Neighbor :=
  match neighbor with
  | interface settings => interface (settings.resolve table)
  | ip settings peer => ip (settings.resolve table) peer
  | peerGroup settings => peerGroup (settings.resolve table)

end Neighbor
end NeutralRouting
