import Mathlib.Data.List.Nodup
import Mathlib.Data.List.Perm.Subperm
import Std.Data.ExtTreeMap

/-!
# Keyed tables

What the objects of a table are, in the order of their keys, tables whose keys are the names of the
objects under them, and tables that are filled with given objects and hold nothing else.
-/

namespace NeutralRouting

open Std

/-- What stands before an item differs from it, if all do. -/
theorem not_mem_map_of_split {α β : Type} {key : α → β} {items done rest : List α} {item : α}
    (distinct : (items.map key).Nodup) (split : items = done ++ item :: rest) :
    key item ∉ done.map key := by
  rw [split, List.map_append, List.map_cons] at distinct
  have apart := (List.nodup_append.mp distinct).2.2
  exact fun earlier => apart _ earlier _ List.mem_cons_self rfl

namespace Table

section Values

variable {κ α : Type} [Ord κ] [TransOrd κ]

theorem values_eq_map_snd (table : ExtTreeMap κ α) : table.values = table.toList.map (·.2) := by
  have fold : table.values = table.foldr (fun _ object objects => object :: objects) [] := rfl
  rw [fold, ExtTreeMap.foldr_eq_foldr_toList]
  induction table.toList with
  | nil => rfl
  | cons entry entries ih => rw [List.foldr_cons, ih, List.map_cons]

theorem mem_values_iff [LawfulEqOrd κ] {table : ExtTreeMap κ α} {object : α} :
    object ∈ table.values ↔ ∃ key : κ, table[key]? = some object := by
  rw [values_eq_map_snd, List.mem_map]
  constructor
  · rintro ⟨⟨key, found⟩, member, rfl⟩
    exact ⟨key, ExtTreeMap.mem_toList_iff_getElem?_eq_some.mp member⟩
  · rintro ⟨key, found⟩
    exact ⟨(key, object), ExtTreeMap.mem_toList_iff_getElem?_eq_some.mpr found, rfl⟩

/-- What is known of every object by its key is known of all in the order of the keys. -/
theorem map_values_eq_map_keys [LawfulEqOrd κ] {β : Type} {table : ExtTreeMap κ α} {f : α → β}
    {g : κ → β} (same : ∀ (key : κ) (object : α), table[key]? = some object → f object = g key) :
    table.values.map f = table.keys.map g := by
  rw [values_eq_map_snd, List.map_map, ← ExtTreeMap.map_fst_toList_eq_keys, List.map_map]
  apply List.map_congr_left
  rintro ⟨key, object⟩ member
  exact same key object (ExtTreeMap.mem_toList_iff_getElem?_eq_some.mp member)

theorem mem_iff_getElem?_eq_some [LawfulEqOrd κ] {table : ExtTreeMap κ α} {key : κ} :
    key ∈ table ↔ ∃ object, table[key]? = some object := by
  rw [ExtTreeMap.mem_iff_isSome_getElem?, Option.isSome_iff_exists]

theorem getElem?_insert_eq [LawfulEqOrd κ] [DecidableEq κ] (table : ExtTreeMap κ α) (key : κ)
    (object : α) (other : κ) :
    (table.insert key object)[other]? = if other = key then some object else table[other]? := by
  rw [ExtTreeMap.getElem?_insert]
  by_cases own : other = key
  · rw [if_pos own, if_pos (LawfulEqOrd.compare_eq_iff_eq.mpr own.symm)]
  · rw [if_neg own, if_neg fun same => own (LawfulEqOrd.eq_of_compare same).symm]

theorem size_pos [LawfulEqOrd κ] {table : ExtTreeMap κ α} {key : κ} (member : key ∈ table) :
    0 < table.size := by
  rw [← ExtTreeMap.length_keys]
  exact List.length_pos_of_mem (ExtTreeMap.mem_keys.mpr member)

/-- Different keys of a table are not more than its objects. -/
theorem length_le_size_of_nodup [LawfulEqOrd κ] {table : ExtTreeMap κ α} {keys : List κ}
    (distinct : keys.Nodup) (present : ∀ key ∈ keys, key ∈ table) :
    keys.length ≤ table.size := by
  rw [← ExtTreeMap.length_keys]
  refine (List.subperm_of_subset distinct fun key member => ?_).length_le
  exact ExtTreeMap.mem_keys.mpr (present key member)

/-- Two different keys make a table of at least two objects. -/
theorem two_le_size [LawfulEqOrd κ] {table : ExtTreeMap κ α} {first second : κ}
    (distinct : first ≠ second) (first_mem : first ∈ table) (second_mem : second ∈ table) :
    2 ≤ table.size := by
  have pair : [first, second].Nodup := by simpa using distinct
  refine length_le_size_of_nodup pair fun key member => ?_
  rw [List.mem_cons, List.mem_singleton] at member
  rcases member with rfl | rfl
  · exact first_mem
  · exact second_mem

end Values

section Sets

variable {α : Type} [Ord α] [TransOrd α] [LawfulEqOrd α]

theorem nodup_toList (objects : ExtTreeSet α) : objects.toList.Nodup :=
  ExtTreeSet.distinct_toList.imp fun different same =>
    different (LawfulEqOrd.compare_eq_iff_eq.mpr same)

/-- A set of different objects lists each of them once. -/
theorem toList_ofList_perm [BEq α] [LawfulBEqOrd α] [LawfulBEq α] {objects : List α}
    (distinct : objects.Nodup) : (ExtTreeSet.ofList objects).toList.Perm objects := by
  refine (List.perm_ext_iff_of_nodup (nodup_toList _) distinct).mpr fun object => ?_
  rw [ExtTreeSet.mem_toList, ExtTreeSet.mem_ofList, List.contains_iff_mem]

end Sets

section Numbered

variable {α κ : Type} [Ord κ] [LE κ] [LT κ] [LawfulOrderOrd κ] [LawfulOrderLT κ] [IsLinearOrder κ]
  {table : ExtTreeMap κ α}

theorem ascending_toList (table : ExtTreeMap κ α) :
    table.toList.Pairwise fun before after => before.1 < after.1 := by
  simpa only [compare_eq_lt] using table.ordered_keys_toList

/-- Searching a numbered table from the front finds the accepted object of the least number. -/
theorem find?_values_eq_some_iff {accepts : α → Bool} {object : α} :
    table.values.find? accepts = some object ↔
      ∃ number : κ, table[number]? = some object ∧ accepts object = true ∧
        ∀ (smaller : κ) (other : α), smaller < number → table[smaller]? = some other →
          accepts other = false := by
  have ordered := ascending_toList table
  rw [values_eq_map_snd, List.find?_map, Option.map_eq_some_iff]
  constructor
  · rintro ⟨⟨number, found⟩, search, rfl⟩
    obtain ⟨accepted, before, after, split, rejected⟩ :=
      List.find?_eq_some_iff_append.mp search
    have member : (number, found) ∈ table.toList := by rw [split]; simp
    refine ⟨number, ExtTreeMap.mem_toList_iff_getElem?_eq_some.mp member, accepted, ?_⟩
    intro smaller other lower present
    have other_mem : (smaller, other) ∈ table.toList :=
      ExtTreeMap.mem_toList_iff_getElem?_eq_some.mpr present
    rw [split] at ordered other_mem
    rcases List.mem_append.mp other_mem with front | back
    · simpa using rejected _ front
    · exfalso
      rcases List.mem_cons.mp back with same | later
      · cases same
        exact Std.lt_irrefl lower
      · have above := List.rel_of_pairwise_cons (List.pairwise_append.mp ordered).2.1 later
        exact Std.not_lt.mpr (Std.le_of_lt above) lower
  · rintro ⟨number, present, accepted, least⟩
    have member : (number, object) ∈ table.toList :=
      ExtTreeMap.mem_toList_iff_getElem?_eq_some.mpr present
    obtain ⟨before, after, split⟩ := List.append_of_mem member
    refine ⟨(number, object), List.find?_eq_some_iff_append.mpr
      ⟨accepted, before, after, split, ?_⟩, rfl⟩
    rintro ⟨smaller, other⟩ front
    have other_mem : (smaller, other) ∈ table.toList := by rw [split]; simp [front]
    rw [split] at ordered
    have below := (List.pairwise_append.mp ordered).2.2 _ front _ List.mem_cons_self
    simpa using least smaller other below
      (ExtTreeMap.mem_toList_iff_getElem?_eq_some.mp other_mem)

/-- Only one list has the objects of a numbered table in the order of their numbers. -/
theorem toList_eq_of_ascending {entries : List (κ × α)}
    (ascending : entries.Pairwise fun before after => before.1 < after.1)
    (listed : ∀ entry, entry ∈ entries ↔ table[entry.1]? = some entry.2) :
    table.toList = entries := by
  have nodup : ∀ {entries : List (κ × α)},
      entries.Pairwise (fun before after => before.1 < after.1) → entries.Nodup :=
    fun ascending => ascending.imp fun below same => Std.ne_of_lt below (congrArg Prod.fst same)
  refine List.Perm.eq_of_pairwise
    (fun _ _ _ _ below above => absurd below (Std.not_lt.mpr (Std.le_of_lt above)))
    (ascending_toList table) ascending
    ((List.perm_ext_iff_of_nodup (nodup (ascending_toList table)) (nodup ascending)).mpr ?_)
  intro entry
  rw [listed]
  exact ExtTreeMap.mem_toList_iff_getElem?_eq_some

/-- An object with a number above all others comes last. -/
theorem toList_insert_of_forall_lt {number : κ} {object : α}
    (above : ∀ used ∈ table, used < number) :
    (table.insert number object).toList = table.toList ++ [(number, object)] := by
  have listed : ∀ {entry : κ × α}, entry ∈ table.toList ↔ table[entry.1]? = some entry.2 :=
    ExtTreeMap.mem_toList_iff_getElem?_eq_some
  have below : ∀ {entry : κ × α}, table[entry.1]? = some entry.2 → entry.1 < number :=
    fun present => above _ (mem_iff_getElem?_eq_some.mpr ⟨_, present⟩)
  apply toList_eq_of_ascending
  · refine List.pairwise_append.mpr
      ⟨ascending_toList table, List.pairwise_singleton _ _, fun entry member last own => ?_⟩
    rw [List.mem_singleton.mp own]
    exact below (listed.mp member)
  · rintro ⟨other, found⟩
    rw [List.mem_append, listed, List.mem_singleton, Prod.mk.injEq, ExtTreeMap.getElem?_insert]
    by_cases own : other = number
    · subst own
      have free : table[other]? = none :=
        ExtTreeMap.getElem?_eq_none fun used => Std.lt_irrefl (above other used)
      simp [free, eq_comm]
    · have apart : compare number other ≠ .eq :=
        fun same => own (LawfulEqOrd.eq_of_compare same).symm
      simp [own, apart]

end Numbered

/-- Every object of the table is kept under its own name. -/
def KeyedBy {α : Type} (name : α → String) (table : ExtTreeMap String α) : Prop :=
  ∀ (key : String) (object : α), table[key]? = some object → name object = key

section KeyedBy

variable {α : Type} {name : α → String} {table : ExtTreeMap String α}

theorem KeyedBy.empty : KeyedBy name (∅ : ExtTreeMap String α) := by
  intro key object present
  simp at present

theorem KeyedBy.insert (keyed : KeyedBy name table) {key : String} {object : α}
    (same : name object = key) : KeyedBy name (table.insert key object) := by
  intro other found present
  rw [ExtTreeMap.getElem?_insert] at present
  split at present
  · next equal =>
      cases present
      rw [same, LawfulEqOrd.eq_of_compare equal]
  · exact keyed other found present

/-- The names of the objects are the keys, in the same order. -/
theorem KeyedBy.map_values (keyed : KeyedBy name table) : table.values.map name = table.keys := by
  rw [map_values_eq_map_keys keyed, List.map_id']

theorem KeyedBy.nodup (keyed : KeyedBy name table) : (table.values.map name).Nodup := by
  rw [keyed.map_values]
  exact ExtTreeMap.nodup_keys

theorem KeyedBy.getElem?_name (keyed : KeyedBy name table) {object : α}
    (member : object ∈ table.values) : table[name object]? = some object := by
  obtain ⟨key, present⟩ := mem_values_iff.mp member
  rwa [keyed key object present]

/-- Objects made from those of a keyed table are found under the same keys. -/
theorem KeyedBy.getElem?_insertMany {β : Type} (keyed : KeyedBy name table)
    (make : α → β) (others : ExtTreeMap String β) {key : String} {object : α}
    (present : table[key]? = some object) :
    (others.insertMany (table.values.map fun object => (name object, make object)))[key]? =
      some (make object) := by
  have distinct : (table.values.map fun object => (name object, make object)).Pairwise
      fun left right => ¬compare left.1 right.1 = .eq := by
    have names := keyed.nodup
    rw [List.Nodup, List.pairwise_map] at names
    rw [List.pairwise_map]
    exact names.imp fun different same => different (LawfulEqOrd.eq_of_compare same)
  apply ExtTreeMap.getElem?_insertMany_list_of_mem ReflCmp.compare_self distinct
  rw [← keyed key object present]
  exact List.mem_map_of_mem (mem_values_iff.mpr ⟨key, present⟩)

theorem KeyedBy.mem_insertMany_iff {β : Type} (keyed : KeyedBy name table)
    (make : α → β) {others : ExtTreeMap String β} {key : String} :
    key ∈ others.insertMany (table.values.map fun object => (name object, make object)) ↔
      key ∈ others ∨ key ∈ table := by
  have names : (table.values.map fun object => (name object, make object)).map Prod.fst =
      table.keys := by
    rw [List.map_map, ← keyed.map_values]
    rfl
  rw [ExtTreeMap.mem_insertMany_list, names, List.contains_iff_mem, ExtTreeMap.mem_keys]

end KeyedBy

/-- The table holds the objects under their names, which differ, and nothing else. -/
structure Holds {α : Type} (name : α → String) (table : ExtTreeMap String α)
    (objects : List α) : Prop where
  nodup : (objects.map name).Nodup
  getElem?_eq_some_iff : ∀ (key : String) (object : α),
    table[key]? = some object ↔ object ∈ objects ∧ name object = key

section Holds

variable {α : Type} {name : α → String} {table : ExtTreeMap String α} {objects : List α}
  {object : α}

theorem Holds.empty : Holds name (∅ : ExtTreeMap String α) [] where
  nodup := List.nodup_nil
  getElem?_eq_some_iff key object := by simp

theorem Holds.getElem? (holds : Holds name table objects) (member : object ∈ objects) :
    table[name object]? = some object :=
  (holds.getElem?_eq_some_iff _ _).mpr ⟨member, rfl⟩

theorem Holds.keyedBy (holds : Holds name table objects) : KeyedBy name table :=
  fun key object found => ((holds.getElem?_eq_some_iff key object).mp found).2

theorem Holds.mem_iff (holds : Holds name table objects) {key : String} :
    key ∈ table ↔ key ∈ objects.map name := by
  rw [mem_iff_getElem?_eq_some, List.mem_map]
  simp only [holds.getElem?_eq_some_iff]

theorem Holds.insert (holds : Holds name table objects) (fresh : name object ∉ table) :
    Holds name (table.insert (name object) object) (objects ++ [object]) where
  nodup := by
    rw [holds.mem_iff] at fresh
    rw [List.map_append, List.map_singleton, List.nodup_append]
    refine ⟨holds.nodup, List.nodup_singleton _, fun key earlier last member same => ?_⟩
    rw [List.mem_singleton.mp member] at same
    exact fresh (same ▸ earlier)
  getElem?_eq_some_iff key other := by
    rw [ExtTreeMap.getElem?_insert, List.mem_append, List.mem_singleton]
    split
    · next equal =>
        have same : name object = key := LawfulEqOrd.eq_of_compare equal
        rw [Option.some.injEq]
        constructor
        · rintro rfl
          exact ⟨.inr rfl, same⟩
        · rintro ⟨earlier | rfl, own⟩
          · rw [same, ← own, holds.mem_iff] at fresh
            exact absurd (List.mem_map_of_mem earlier) fresh
          · rfl
    · next different =>
        rw [holds.getElem?_eq_some_iff]
        constructor
        · rintro ⟨earlier, own⟩
          exact ⟨.inl earlier, own⟩
        · rintro ⟨earlier | rfl, own⟩
          · exact ⟨earlier, own⟩
          · exact absurd (LawfulEqOrd.compare_eq_iff_eq.mpr own) different

/-- Tables have the same under a name if the same objects of this name are given. -/
theorem Holds.getElem?_eq_getElem? {other : ExtTreeMap String α} {others : List α} {key : String}
    (holds : Holds name table objects) (holds_too : Holds name other others)
    (same : ∀ object, name object = key → (object ∈ objects ↔ object ∈ others)) :
    table[key]? = other[key]? := by
  apply Option.ext
  intro object
  rw [holds.getElem?_eq_some_iff, holds_too.getElem?_eq_some_iff]
  exact and_congr_left (same object)

theorem Holds.unique {other : ExtTreeMap String α} (holds : Holds name table objects)
    (holds_too : Holds name other objects) : table = other :=
  ExtTreeMap.ext_getElem? fun _ => holds.getElem?_eq_getElem? holds_too fun _ _ => Iff.rfl

theorem Holds.keys_perm (holds : Holds name table objects) :
    table.keys.Perm (objects.map name) := by
  rw [List.perm_ext_iff_of_nodup ExtTreeMap.nodup_keys holds.nodup]
  intro key
  rw [ExtTreeMap.mem_keys, holds.mem_iff]

theorem Holds.toList_perm (holds : Holds name table objects) :
    table.toList.Perm (objects.map fun object => (name object, object)) := by
  have names : (objects.map fun object => (name object, object)).map Prod.fst =
      objects.map name := by rw [List.map_map]; rfl
  have keys : (table.toList.map Prod.fst).Nodup := by
    rw [ExtTreeMap.map_fst_toList_eq_keys]
    exact ExtTreeMap.nodup_keys
  rw [List.perm_ext_iff_of_nodup (List.Nodup.of_map Prod.fst keys)
    (List.Nodup.of_map Prod.fst (names ▸ holds.nodup))]
  rintro ⟨key, object⟩
  rw [ExtTreeMap.mem_toList_iff_getElem?_eq_some, holds.getElem?_eq_some_iff, List.mem_map]
  constructor
  · rintro ⟨member, rfl⟩
    exact ⟨object, member, rfl⟩
  · rintro ⟨_, member, same⟩
    cases same
    exact ⟨member, rfl⟩

end Holds

section Revisions

variable {κ α : Type}

/-- Changes of an entry that give the same in either order. -/
def Commute (first second : Option α → Option α) : Prop :=
  ∀ entry, (first entry).bind (second ∘ some) = (second entry).bind (first ∘ some)

/-- The object becomes the entry unless there is one, which is refused. -/
def addNew (object : α) (entry : Option α) : Option α :=
  if entry.isSome then none else some object

/-- The object becomes the entry unless there is one, which stays. -/
def ensure (object : α) (entry : Option α) : Option α := some (entry.getD object)

theorem commute_addNew (first second : α) : Commute (addNew first) (addNew second) := by
  intro entry
  cases entry <;> rfl

theorem commute_ensure (object : α) : Commute (ensure object) (ensure object) :=
  fun _ => rfl

variable [Ord κ] [TransOrd κ] [LawfulEqOrd κ]

/-- Change the entry under a key, unless that is refused. -/
def revise? (table : ExtTreeMap κ α) (key : κ) (change : Option α → Option α) :
    Option (ExtTreeMap κ α) :=
  (change table[key]?).map (table.insert key)

theorem revise?_ensure (table : ExtTreeMap κ α) (key : κ) (object : α) :
    revise? table key (ensure object) = some (table.insertIfNew key object) := by
  refine congrArg some (ExtTreeMap.ext_getElem? fun other => ?_)
  simp only [ExtTreeMap.getElem?_insert, ExtTreeMap.getElem?_insertIfNew,
    LawfulEqOrd.compare_eq_iff_eq]
  by_cases own : key = other
  · subst own
    cases known : table[key]? with
    | none =>
        have new : key ∉ table := by
          rw [mem_iff_getElem?_eq_some, known]
          simp
        simp [new]
    | some entry =>
        have taken := mem_iff_getElem?_eq_some.mpr ⟨entry, known⟩
        simp [taken]
  · simp [own]

/-- Revisions of one table give the same in either order, if those of one entry do. -/
theorem revise?_comm {first second : κ} {change other : Option α → Option α}
    (commute : first = second → Commute change other) (table : ExtTreeMap κ α) :
    (revise? table first change).bind (revise? · second other) =
      (revise? table second other).bind (revise? · first change) := by
  by_cases same : first = second
  · subst same
    have twice : ∀ {front back : Option α → Option α},
        (revise? table first front).bind (revise? · first back) =
          ((front table[first]?).bind (back ∘ some)).map (table.insert first) := by
      intro front back
      cases changed : front table[first]? with
      | none => simp [revise?, changed]
      | some object =>
          have again : ∀ next, (table.insert first object).insert first next =
              table.insert first next := by
            intro next
            apply ExtTreeMap.ext_getElem?
            intro key
            simp only [ExtTreeMap.getElem?_insert]
            split <;> rfl
          simp only [revise?, changed, Option.map_some, Option.bind_some, Function.comp_apply,
            ExtTreeMap.getElem?_insert_self]
          cases back (some object) with
          | none => rfl
          | some next => simp only [Option.map_some, again]
    rw [twice, twice, commute rfl]
  · have apart : ∀ {front back : κ}, front ≠ back → ∀ object,
        (table.insert front object)[back]? = table[back]? := by
      intro front back different object
      rw [ExtTreeMap.getElem?_insert, if_neg (mt LawfulEqOrd.compare_eq_iff_eq.mp different)]
    have swap : ∀ object next, (table.insert first object).insert second next =
        (table.insert second next).insert first object := by
      intro object next
      apply ExtTreeMap.ext_getElem?
      intro key
      simp only [ExtTreeMap.getElem?_insert, LawfulEqOrd.compare_eq_iff_eq]
      grind
    cases front : change table[first]? with
    | none =>
        cases back : other table[second]? with
        | none => simp [revise?, front, back]
        | some next => simp [revise?, front, back, apart (Ne.symm same)]
    | some object =>
        cases back : other table[second]? with
        | none => simp [revise?, front, back, apart same]
        | some next => simp [revise?, front, back, apart same, apart (Ne.symm same), swap]

end Revisions
end Table
end NeutralRouting
