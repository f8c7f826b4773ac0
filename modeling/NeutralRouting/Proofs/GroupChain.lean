import Mathlib.Logic.Function.Iterate
import NeutralRouting.Bgp.PeerGroup
import NeutralRouting.Proofs.Table

/-!
# Chains of peer groups

A neighbor follows peer groups from one to the next until there is none, it is missing, or it was
met before.  Every table has exactly one such chain for every neighbor, it is no longer than the
table, and each setting is inherited from the first member of the chain that sets it.
-/

namespace NeutralRouting

open Std

/-- The members are met from the name `next` on, until there is no further name, or one that is not
in the table, was visited before or is that of a member. -/
structure NeighborTable.ChainFrom (table : NeighborTable) (visited : List String)
    (next : Option String) (names : List String) (members : List Neighbor)
    (last : Option String) : Prop where
  entries : names.map (table[·]?) = members.map some
  links : next :: members.map (·.settings.peerGroup) = names.map some ++ [last]
  fresh : ∀ name ∈ names, name ∉ visited
  distinct : names.Nodup
  ends : ∀ group, last = some group → group ∉ table ∨ group ∈ visited ∨ group ∈ names

namespace NeighborTable.ChainFrom

variable {table : NeighborTable} {visited names others : List String}
  {next last final : Option String} {members neighbors : List Neighbor}

theorem none (table : NeighborTable) (visited : List String) :
    table.ChainFrom visited none [] [] none :=
  ⟨rfl, rfl, nofun, List.nodup_nil, nofun⟩

theorem stop {group : String} (stops : group ∉ table ∨ group ∈ visited) :
    table.ChainFrom visited (some group) [] [] (some group) := by
  refine ⟨rfl, rfl, nofun, List.nodup_nil, ?_⟩
  rintro _ ⟨⟩
  exact stops.imp id .inl

theorem cons {group : String} {neighbor : Neighbor} (new : group ∉ visited)
    (found : table[group]? = some neighbor)
    (rest : table.ChainFrom (group :: visited) neighbor.settings.peerGroup names members last) :
    table.ChainFrom visited (some group) (group :: names) (neighbor :: members) last where
  entries := by rw [List.map_cons, List.map_cons, rest.entries, found]
  links := by rw [List.map_cons, rest.links, List.map_cons, List.cons_append]
  fresh name member := by
    rcases List.mem_cons.mp member with rfl | later
    · exact new
    · exact fun seen => rest.fresh name later (List.mem_cons_of_mem group seen)
  distinct := by
    refine List.nodup_cons.mpr ⟨fun later => ?_, rest.distinct⟩
    exact rest.fresh group later List.mem_cons_self
  ends other same := by
    rcases rest.ends other same with missing | seen | later
    · exact .inl missing
    · rcases List.mem_cons.mp seen with rfl | earlier
      · exact .inr (.inr List.mem_cons_self)
      · exact .inr (.inl earlier)
    · exact .inr (.inr (List.mem_cons_of_mem group later))

/-- A chain is over at once, or it goes on behind its first member. -/
theorem cases (chain : table.ChainFrom visited next names members last) :
    (names = [] ∧ members = [] ∧ last = next) ∨
      ∃ group neighbor others neighbors, names = group :: others ∧
        members = neighbor :: neighbors ∧ next = some group ∧ group ∉ visited ∧
        table[group]? = some neighbor ∧
        table.ChainFrom (group :: visited) neighbor.settings.peerGroup others neighbors last := by
  obtain ⟨entries, links, fresh, distinct, ends⟩ := chain
  cases names with
  | nil =>
      obtain rfl := List.map_eq_nil_iff.mp entries.symm
      exact .inl ⟨rfl, rfl, (List.cons.inj links).1.symm⟩
  | cons group others =>
      cases members with
      | nil => cases entries
      | cons neighbor neighbors =>
          obtain ⟨found, entries⟩ := List.cons.inj entries
          obtain ⟨here, links⟩ := List.cons.inj links
          obtain ⟨new, distinct⟩ := List.nodup_cons.mp distinct
          refine .inr ⟨group, neighbor, others, neighbors, rfl, rfl, here,
            fresh group List.mem_cons_self, found, entries, links, ?_, distinct, ?_⟩
          · intro name later seen
            rcases List.mem_cons.mp seen with rfl | earlier
            · exact new later
            · exact fresh name (List.mem_cons_of_mem group later) earlier
          · intro other same
            rcases ends other same with missing | seen | member
            · exact .inl missing
            · exact .inr (.inl (List.mem_cons_of_mem group seen))
            · rcases List.mem_cons.mp member with rfl | later
              · exact .inr (.inl List.mem_cons_self)
              · exact .inr (.inr later)

/-- A name at which a chain is over is not the first name of another one. -/
theorem false_of_stops (short : table.ChainFrom visited next [] [] next) {group : String}
    {neighbor : Neighbor} (here : next = some group) (new : group ∉ visited)
    (found : table[group]? = some neighbor) : False := by
  rcases short.ends group here with missing | seen | member
  · exact missing (Table.mem_iff_getElem?_eq_some.mpr ⟨neighbor, found⟩)
  · exact new seen
  · cases member

/-- There is no other chain from the same name on. -/
theorem unique (chain : table.ChainFrom visited next names members last)
    (other : table.ChainFrom visited next others neighbors final) :
    names = others ∧ members = neighbors ∧ last = final := by
  induction names generalizing visited next members others neighbors with
  | nil =>
      rcases chain.cases with ⟨-, rfl, rfl⟩ | ⟨_, _, _, _, split, -⟩
      · rcases other.cases with ⟨rfl, rfl, rfl⟩ | ⟨group, neighbor, _, _, -, -, here, new, found, -⟩
        · exact ⟨rfl, rfl, rfl⟩
        · exact (chain.false_of_stops here new found).elim
      · cases split
  | cons name names ih =>
      rcases chain.cases with ⟨split, -⟩ | ⟨_, member, _, rest, ⟨⟩, rfl, here, new, found, behind⟩
      · cases split
      · rcases other.cases with
          ⟨rfl, rfl, rfl⟩ | ⟨group, neighbor, _, _, rfl, rfl, same, -, also_found, also_behind⟩
        · exact (other.false_of_stops here new found).elim
        · rw [here] at same
          cases same
          rw [found] at also_found
          cases also_found
          obtain ⟨rfl, rfl, rfl⟩ := ih behind also_behind
          exact ⟨rfl, rfl, rfl⟩

/-- A chain is no longer than the table. -/
theorem length_le_size (chain : table.ChainFrom visited next names members last) :
    names.length ≤ table.size := by
  refine Table.length_le_size_of_nodup chain.distinct fun name member => ?_
  have listed : table[name]? ∈ members.map some := by
    rw [← chain.entries]
    exact List.mem_map_of_mem member
  obtain ⟨neighbor, -, found⟩ := List.mem_map.mp listed
  exact Table.mem_iff_getElem?_eq_some.mpr ⟨neighbor, found.symm⟩

end NeighborTable.ChainFrom

namespace NeighborTable

variable {table : NeighborTable} {visited : List String} {group : String}

theorem chainFrom_none : table.chainFrom visited none = ⟨[], none⟩ := by rw [chainFrom]

theorem chainFrom_of_mem (seen : group ∈ visited) :
    table.chainFrom visited (some group) = ⟨[], some group⟩ := by
  rw [chainFrom, dif_pos seen]

theorem chainFrom_of_missing (new : group ∉ visited) (missing : table[group]? = none) :
    table.chainFrom visited (some group) = ⟨[], none⟩ := by
  rw [chainFrom, dif_neg new]
  split
  · rfl
  · next found => cases missing.symm.trans found

theorem chainFrom_of_found {neighbor : Neighbor} (new : group ∉ visited)
    (found : table[group]? = some neighbor) :
    table.chainFrom visited (some group) =
      .cons neighbor.settings
        (table.chainFrom (group :: visited) neighbor.settings.peerGroup) := by
  rw [chainFrom, dif_neg new]
  split
  · next missing => cases missing.symm.trans found
  · next other also_found => cases also_found.symm.trans found; rfl

/-- Following groups goes through a chain. -/
theorem exists_chainFrom (table : NeighborTable) (visited : List String) (next : Option String) :
    ∃ names members last, table.ChainFrom visited next names members last ∧
      (table.chainFrom visited next).groups = members.map (·.settings) := by
  induction visited, next using NeighborTable.chainFrom.induct table with
  | case1 visited =>
      refine ⟨[], [], none, .none table visited, ?_⟩
      rw [chainFrom_none, List.map_nil]
  | case2 visited group seen =>
      refine ⟨[], [], some group, .stop (.inr seen), ?_⟩
      rw [chainFrom_of_mem seen, List.map_nil]
  | case3 visited group new missing =>
      refine ⟨[], [], some group, .stop (.inl fun member => ?_), ?_⟩
      · obtain ⟨neighbor, found⟩ := Table.mem_iff_getElem?_eq_some.mp member
        cases missing.symm.trans found
      · rw [chainFrom_of_missing new missing, List.map_nil]
  | case4 visited group new neighbor found ih =>
      obtain ⟨names, members, last, rest, groups⟩ := ih
      refine ⟨group :: names, neighbor :: members, last, .cons new found rest, ?_⟩
      rw [chainFrom_of_found new found, GroupChain.cons, groups, List.map_cons]

/-- What is met when groups are followed is the chain, whichever way it was found. -/
theorem ChainFrom.groups {names : List String} {next last : Option String}
    {members : List Neighbor} (chain : table.ChainFrom visited next names members last) :
    (table.chainFrom visited next).groups = members.map (·.settings) := by
  obtain ⟨_, _, _, other, groups⟩ := table.exists_chainFrom visited next
  obtain ⟨-, rfl, -⟩ := chain.unique other
  exact groups

end NeighborTable

/-- A neighbor takes over the settings of the members of its chain, one after the other. -/
theorem NeighborTable.ChainFrom.resolve_eq {table : NeighborTable} {settings : NeighborSettings}
    {names : List String} {last : Option String} {members : List Neighbor}
    (chain : table.ChainFrom [settings.name] settings.peerGroup names members last) :
    settings.resolve table =
      (members.map (·.settings)).foldl NeighborSettings.inherit settings := by
  rw [NeighborSettings.resolve, NeighborSettings.groupChain, chain.groups]

/-- A neighbor on the way through its peer groups. -/
structure GroupWalk where
  /-- The settings of the neighbor, with what was inherited on the way. -/
  resolved : NeighborSettings
  /-- The names met so far. -/
  visited : List String
  /-- The group to go to, unless the way is over. -/
  next : Option String

namespace GroupWalk

/-- A neighbor before it goes to its own peer group. -/
def start (settings : NeighborSettings) : GroupWalk :=
  ⟨settings, [settings.name], settings.peerGroup⟩

/-- Go to the next group: give up if it was met before or is missing, and otherwise inherit from it
and turn to its own peer group. -/
def step (table : NeighborTable) (walk : GroupWalk) : GroupWalk :=
  match walk.next with
  | none => walk
  | some group =>
    if group ∈ walk.visited then { walk with next := none }
    else
      match table[group]? with
      | none => { walk with visited := group :: walk.visited, next := none }
      | some neighbor =>
        { resolved := walk.resolved.inherit neighbor.settings
          visited := group :: walk.visited
          next := neighbor.settings.peerGroup }

variable {table : NeighborTable} {walk : GroupWalk} {group : String}

theorem step_of_found {neighbor : Neighbor} (here : walk.next = some group)
    (new : group ∉ walk.visited) (found : table[group]? = some neighbor) :
    walk.step table = ⟨walk.resolved.inherit neighbor.settings, group :: walk.visited,
      neighbor.settings.peerGroup⟩ := by
  simp only [step, here, if_neg new, found]

/-- The step to a group that is missing or was met before is the last one. -/
theorem step_of_stop (stops : ∀ group, walk.next = some group →
      group ∉ table ∨ group ∈ walk.visited) :
    (walk.step table).next = none ∧ (walk.step table).resolved = walk.resolved := by
  rw [step]
  split
  · next still => exact ⟨still, rfl⟩
  · next group here =>
      split
      · exact ⟨rfl, rfl⟩
      · next new =>
          have missing : table[group]? = none := by
            rcases stops group here with missing | seen
            · exact ExtTreeMap.getElem?_eq_none missing
            · exact absurd seen new
          rw [missing]
          exact ⟨rfl, rfl⟩

/-- The walk inherits from the members of a chain in one step each, and is over in one more. -/
theorem iterate_step {names : List String} {last : Option String} {members : List Neighbor}
    (chain : table.ChainFrom walk.visited walk.next names members last) :
    ((step table)^[names.length + 1] walk).next = none ∧
      ((step table)^[names.length + 1] walk).resolved =
        (members.map (·.settings)).foldl NeighborSettings.inherit walk.resolved := by
  induction names generalizing walk members with
  | nil =>
      rcases chain.cases with ⟨-, rfl, rfl⟩ | ⟨_, _, _, _, split, -⟩
      · refine step_of_stop fun group here => ?_
        rcases chain.ends group here with missing | seen | member
        · exact .inl missing
        · exact .inr seen
        · cases member
      · cases split
  | cons name names ih =>
      rcases chain.cases with ⟨split, -⟩ | ⟨_, _, _, _, ⟨⟩, rfl, here, new, found, rest⟩
      · cases split
      · rw [List.length_cons, Function.iterate_succ_apply, step_of_found here new found,
          List.map_cons, List.foldl_cons]
        exact ih rest

/-- A neighbor is resolved in at most one step more than the table has neighbors. -/
theorem resolves (table : NeighborTable) (settings : NeighborSettings) :
    ∃ steps ≤ table.size + 1,
      ((step table)^[steps] (start settings)).next = none ∧
      ((step table)^[steps] (start settings)).resolved = settings.resolve table := by
  obtain ⟨names, members, last, chain, -⟩ :=
    table.exists_chainFrom (start settings).visited (start settings).next
  have resolved : settings.resolve table =
      (members.map (·.settings)).foldl NeighborSettings.inherit settings := chain.resolve_eq
  rw [resolved]
  exact ⟨names.length + 1, Nat.succ_le_succ chain.length_le_size, iterate_step chain⟩

end GroupWalk
end NeutralRouting
