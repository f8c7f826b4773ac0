import NeutralRouting.Proofs.Table
import NeutralRouting.VrfTable

/-!
# Tables of declared VRFs

What a table answers after VRFs are declared one after the other.  A name belongs to the VRF that
was first declared under it; a later declaration of the name is refused and changes nothing.
-/

namespace NeutralRouting

open Std

/-- What a table of VRFs can be asked. -/
structure VrfAnswers where
  lookup : String → Option VrfDeclaration
  all : List VrfDeclaration
  routed : List VrfDeclaration
  isRoutedVni : UInt32 → Bool

/-- The answers are about the first one of the VRFs of each name. -/
structure VrfAnswers.KeepFirst (answers : VrfAnswers) (declared : List VrfDeclaration) :
    Prop where
  lookup : ∀ name, answers.lookup name = declared.find? (·.name = name)
  mem_all_iff : ∀ vrf, vrf ∈ answers.all ↔ answers.lookup vrf.name = some vrf
  ascending : answers.all.Pairwise (·.name < ·.name)
  routed_sublist : answers.routed.Sublist answers.all
  mem_routed_iff : ∀ vrf, vrf ∈ answers.routed ↔ vrf ∈ answers.all ∧ ∃ vni, vrf.vni = some vni
  isRoutedVni_iff : ∀ vni, answers.isRoutedVni vni = true ↔ ∃ vrf ∈ answers.all, vrf.vni = some vni

namespace VrfTable

/-- The answers of a table. -/
def answers (table : VrfTable) : VrfAnswers :=
  ⟨table.lookup, table.all, table.routed, table.isRoutedVni⟩

/-- The table after a declaration, whether or not the VRF is refused. -/
def declare (table : VrfTable) (vrf : VrfDeclaration) : VrfTable := (table.add vrf).1

/-- The table after some declarations. -/
def declareAll (table : VrfTable) (declared : List VrfDeclaration) : VrfTable :=
  declared.foldl declare table

variable {table after : VrfTable} {vrf : VrfDeclaration} {name : String} {vni : UInt32}

section Queries

theorem map_name_all (table : VrfTable) : table.all.map (·.name) = table.vnis.keys := by
  rw [all, List.map_map, ← ExtTreeMap.map_fst_toList_eq_keys]
  rfl

theorem nodup_all (table : VrfTable) : table.all.Nodup := by
  have names : (table.all.map (·.name)).Nodup := by
    rw [table.map_name_all]
    exact ExtTreeMap.nodup_keys
  exact names.of_map

/-- The VRFs are listed in ascending order of their names. -/
theorem pairwise_all (table : VrfTable) : table.all.Pairwise (·.name < ·.name) := by
  rw [all, List.pairwise_map]
  exact table.vnis.ordered_keys_toList.imp compareOfLessAndEq_eq_lt.mp

theorem lookup_empty (name : String) : empty.lookup name = none := by
  rw [lookup, empty, ExtTreeMap.getElem?_empty, Option.map_none]

theorem lookup_eq_some_iff : table.lookup name = some vrf ↔
    vrf.name = name ∧ table.vnis[name]? = some vrf.vni := by
  rw [lookup, Option.map_eq_some_iff]
  constructor
  · rintro ⟨vni, found, rfl⟩
    exact ⟨rfl, found⟩
  · rintro ⟨rfl, found⟩
    exact ⟨vrf.vni, found, rfl⟩

theorem isSome_lookup_iff : (table.lookup name).isSome = true ↔ name ∈ table.vnis := by
  rw [lookup, Option.isSome_map, ExtTreeMap.isSome_getElem?_iff_mem]

/-- The listed VRFs are those that are found under their names. -/
theorem mem_all_iff : vrf ∈ table.all ↔ table.lookup vrf.name = some vrf := by
  rw [all, List.mem_map, lookup_eq_some_iff]
  constructor
  · rintro ⟨⟨name, vni⟩, listed, rfl⟩
    exact ⟨rfl, ExtTreeMap.mem_toList_iff_getElem?_eq_some.mp listed⟩
  · rintro ⟨-, found⟩
    exact ⟨(vrf.name, vrf.vni), ExtTreeMap.mem_toList_iff_getElem?_eq_some.mpr found, rfl⟩

theorem isRoutedVni_iff :
    table.isRoutedVni vni = true ↔ ∃ vrf ∈ table.all, vrf.vni = some vni := by
  rw [isRoutedVni, List.any_eq_true]
  simp only [decide_eq_true_iff]

end Queries

section Declarations

variable {cause : DeviceError}

/-- A VRF whose name is taken is refused, and the table stays as it is. -/
theorem add_of_taken (taken : (table.lookup vrf.name).isSome = true) :
    table.add vrf = (table, .error (.duplicateVrf vrf.name)) := by
  rw [add, if_pos (isSome_lookup_iff.mp taken)]

theorem add_of_free (free : ¬(table.lookup vrf.name).isSome = true) :
    table.add vrf = (⟨table.vnis.insert vrf.name vrf.vni⟩, .ok ()) := by
  rw [add, if_neg (mt isSome_lookup_iff.mpr free)]

/-- A VRF is refused exactly if its name is taken, as a duplicate. -/
theorem add_eq_error_iff : (table.add vrf).2 = .error cause ↔
    (table.lookup vrf.name).isSome = true ∧ cause = .duplicateVrf vrf.name := by
  by_cases taken : (table.lookup vrf.name).isSome = true
  · rw [add_of_taken taken]
    simp [taken, eq_comm]
  · rw [add_of_free taken]
    simp [taken]

theorem lookup_eq_none_of_add (added : table.add vrf = (after, .ok ())) :
    table.lookup vrf.name = none := by
  rw [← Option.not_isSome_iff_eq_none]
  intro taken
  rw [add_of_taken taken] at added
  cases added

/-- A VRF that is taken in is found under its name, and the others are found as before. -/
theorem lookup_of_add (added : table.add vrf = (after, .ok ())) (name : String) :
    after.lookup name = if name = vrf.name then some vrf else table.lookup name := by
  rw [add] at added
  split at added
  · cases added
  · cases added
    rw [lookup, lookup, Table.getElem?_insert_eq]
    split
    · next own =>
        rw [own]
        rfl
    · rfl

theorem all_perm_of_add (added : table.add vrf = (after, .ok ())) :
    after.all.Perm (vrf :: table.all) := by
  have free := lookup_eq_none_of_add added
  have unlisted : vrf ∉ table.all := by
    simp [mem_all_iff, free]
  refine (List.perm_ext_iff_of_nodup after.nodup_all
    (List.nodup_cons.mpr ⟨unlisted, table.nodup_all⟩)).mpr fun other => ?_
  rw [List.mem_cons, mem_all_iff, mem_all_iff, lookup_of_add added]
  split
  · next same_name =>
      rw [same_name, free, Option.some.injEq, eq_comm]
      simp
  · next different =>
      refine ⟨.inr, fun listed => listed.resolve_left ?_⟩
      rintro rfl
      exact different rfl

/-- A VRF that is refused changes nothing. -/
theorem declare_of_error (refused : (table.add vrf).2 = .error cause) :
    table.declare vrf = table := by
  rw [declare, add_of_taken (add_eq_error_iff.mp refused).1]

/-- One more declaration counts if its name is new. -/
theorem lookup_declare (table : VrfTable) (vrf : VrfDeclaration) (name : String) :
    (table.declare vrf).lookup name =
      (table.lookup name).or (if vrf.name = name then some vrf else none) := by
  by_cases taken : (table.lookup vrf.name).isSome = true
  · rw [declare, add_of_taken taken]
    split
    · next own => rw [← own, Option.or_of_isSome taken]
    · rw [Option.or_none]
  · have added := add_of_free taken
    rw [declare, added, lookup_of_add added]
    by_cases own : vrf.name = name
    · subst own
      rw [if_pos rfl, if_pos rfl, lookup_eq_none_of_add added, Option.none_or]
    · rw [if_neg (Ne.symm own), if_neg own, Option.or_none]

theorem lookup_declareAll (table : VrfTable) (declared : List VrfDeclaration) (name : String) :
    (table.declareAll declared).lookup name =
      (table.lookup name).or (declared.find? (·.name = name)) := by
  induction declared generalizing table with
  | nil => rw [List.find?_nil, Option.or_none, declareAll, List.foldl_nil]
  | cons vrf declared ih =>
      have rest := ih (table.declare vrf)
      rw [lookup_declare, Option.or_assoc] at rest
      rw [declareAll, List.foldl_cons]
      refine rest.trans (congrArg _ ?_)
      rw [List.find?_cons]
      by_cases own : vrf.name = name <;> simp [own]

/-- After any declarations the answers of a table are about the first VRF of each name. -/
theorem keepFirst_declareAll (declared : List VrfDeclaration) :
    (empty.declareAll declared).answers.KeepFirst declared where
  lookup name := by
    have found := lookup_declareAll empty declared name
    rwa [lookup_empty, Option.none_or] at found
  mem_all_iff _ := mem_all_iff
  ascending := pairwise_all _
  routed_sublist := List.filter_sublist
  mem_routed_iff vrf := by
    change vrf ∈ List.filter _ _ ↔ _
    rw [List.mem_filter, Option.isSome_iff_exists]
    rfl
  isRoutedVni_iff _ := isRoutedVni_iff

end Declarations

end VrfTable
end NeutralRouting
