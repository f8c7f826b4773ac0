import Mathlib.Data.List.TakeWhile
import NeutralRouting.Proofs.Inheritance

/-!
# Groups that are no peer groups

Peer groups and the neighbors that use them are kept in one table, and a neighbor inherits from
whatever it finds under the name of its peer group.  From peer groups alone it inherits what the
front of its chain has set, up to the first member that is an interface or has an address.  The
members from there on are not passed over: they are inherited from as well.
-/

namespace NeutralRouting

open Std

namespace NeighborTable

/-- The peer groups of a table. -/
def peerGroups (table : NeighborTable) : NeighborTable :=
  table.filter fun _ neighbor => neighbor.isPeerGroup

variable {table other : NeighborTable} {visited names : List String} {name : String}
  {next last : Option String} {members : List Neighbor}

theorem getElem?_peerGroups_eq_some_iff {neighbor : Neighbor} :
    table.peerGroups[name]? = some neighbor ↔
      table[name]? = some neighbor ∧ neighbor.isPeerGroup = true := by
  rw [peerGroups, ExtTreeMap.getElem?_filter', Option.filter_eq_some_iff]

theorem mem_of_mem_peerGroups (member : name ∈ table.peerGroups) : name ∈ table := by
  obtain ⟨neighbor, found⟩ := Table.mem_iff_getElem?_eq_some.mp member
  exact Table.mem_iff_getElem?_eq_some.mpr ⟨neighbor, (getElem?_peerGroups_eq_some_iff.mp found).1⟩

/-- Among the peer groups alone a chain is over at the first member that is none. -/
theorem ChainFrom.peerGroups (chain : table.ChainFrom visited next names members last) :
    ∃ others final,
      table.peerGroups.ChainFrom visited next others (members.takeWhile (·.isPeerGroup)) final := by
  induction names generalizing visited next members with
  | nil =>
      rcases chain.cases with ⟨-, rfl, rfl⟩ | ⟨_, _, _, _, split, -⟩
      · refine ⟨[], last, rfl, rfl, nofun, List.nodup_nil, fun group here => ?_⟩
        exact (chain.ends group here).imp (mt mem_of_mem_peerGroups) id
      · cases split
  | cons name names ih =>
      rcases chain.cases with
        ⟨split, -⟩ | ⟨_, neighbor, _, neighbors, ⟨⟩, rfl, rfl, new, found, rest⟩
      · cases split
      · by_cases template : neighbor.isPeerGroup = true
        · obtain ⟨others, final, behind⟩ := ih rest
          rw [List.takeWhile_cons_of_pos template]
          exact ⟨name :: others, final,
            behind.cons new (getElem?_peerGroups_eq_some_iff.mpr ⟨found, template⟩)⟩
        · rw [List.takeWhile_cons_of_neg template]
          refine ⟨[], some name, .stop (.inl fun member => template ?_)⟩
          obtain ⟨_, listed⟩ := Table.mem_iff_getElem?_eq_some.mp member
          obtain ⟨also_found, kind⟩ := getElem?_peerGroups_eq_some_iff.mp listed
          cases found.symm.trans also_found
          exact kind

/-- A chain only looks at the names it follows, and at the one it stops at. -/
theorem ChainFrom.of_agree (chain : table.ChainFrom visited next names members last)
    (agree : ∀ name ∈ names, other[name]? = table[name]?)
    (missing : ∀ group, last = some group → group ∉ table → group ∉ other) :
    other.ChainFrom visited next names members last where
  entries := (List.map_congr_left agree).trans chain.entries
  links := chain.links
  fresh := chain.fresh
  distinct := chain.distinct
  ends group here := (chain.ends group here).imp (missing group here) id

end NeighborTable

namespace NeighborSettings

/-- From the table a neighbor inherits what its whole chain has set, and from the peer groups alone
only what stands before the first that is no peer group. -/
theorem resolve_inherits_past_peer_groups (table : NeighborTable) (settings : NeighborSettings) :
    ∃ names members last,
      table.ChainFrom [settings.name] settings.peerGroup names members last ∧
      settings.resolve table.peerGroups =
        settings.firstSet ((members.takeWhile (·.isPeerGroup)).map (·.settings)) ∧
      settings.resolve table = (settings.resolve table.peerGroups).firstSet
        ((members.dropWhile (·.isPeerGroup)).map (·.settings)) ∧
      ((∀ member ∈ members, member.isPeerGroup = true) →
        settings.resolve table = settings.resolve table.peerGroups) ∧
      ∀ other : NeighborTable, (∀ name ∈ names, other[name]? = table[name]?) →
        (∀ group, last = some group → group ∉ table → group ∉ other) →
        settings.resolve other = settings.resolve table := by
  obtain ⟨names, members, last, chain, -⟩ :=
    table.exists_chainFrom [settings.name] settings.peerGroup
  obtain ⟨others, final, front⟩ := chain.peerGroups
  have restricted := front.resolve_eq
  have whole : settings.resolve table = (settings.resolve table.peerGroups).firstSet
      ((members.dropWhile (·.isPeerGroup)).map (·.settings)) := by
    rw [chain.resolve_eq, restricted, ← foldl_inherit, ← List.foldl_append, ← List.map_append,
      List.takeWhile_append_dropWhile]
  refine ⟨names, members, last, chain, ?_, whole, ?_, ?_⟩
  · rw [restricted, foldl_inherit]
  · intro templates
    rw [whole, List.dropWhile_eq_nil_iff.mpr templates, List.map_nil, firstSet_nil]
  · intro other agree missing
    rw [(chain.of_agree agree missing).resolve_eq, chain.resolve_eq]

end NeighborSettings

/-- Two interfaces, one of which names the other as its peer group. -/
def pairedPorts : NeighborTable :=
  ((∅ : NeighborTable).insert "swp1"
      (.interface { NeighborSettings.unset "swp1" with peerGroup := some "swp2" })).insert "swp2"
    (.interface { NeighborSettings.unset "swp2" with
      remoteAs := some 65001
      remoteAsType := some .explicit })

/-- The one takes over the remote AS of the other, although there is no peer group. -/
theorem resolve_pairedPorts_takes_remoteAs_of_interface :
    ∃ own, pairedPorts["swp1"]? = some (.interface own) ∧
      (∀ neighbor ∈ pairedPorts.values, neighbor.isPeerGroup = false) ∧
      own.resolve pairedPorts.peerGroups = own ∧
      (own.resolve pairedPorts).remoteAs = some 65001 ∧ own.remoteAs = none := by
  refine ⟨{ NeighborSettings.unset "swp1" with peerGroup := some "swp2" }, ?_⟩
  decide +kernel

end NeutralRouting
