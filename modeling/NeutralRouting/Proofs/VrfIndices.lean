import NeutralRouting.Proofs.VrfTable

/-!
# Tables of VRFs with two indices

A container that keeps VRFs under their names, each name once, and under their VNIs, which several
VRFs may share.  As long as an insertion updates both indices they are about the same VRFs, so a
container that is filled by any declarations answers what the table answers.
-/

namespace NeutralRouting

open Std

/-- A container of VRFs that is searched by name and by VNI. -/
structure VrfContainer (τ : Type) where
  empty : τ
  /-- The content with one more VRF, unless the VRF is refused. -/
  insert? : τ → VrfDeclaration → Option τ
  find? : τ → String → Option VrfDeclaration
  /-- The VRFs in the order of the index of names. -/
  byName : τ → List VrfDeclaration
  /-- The VRFs under a key of the index of VNIs. -/
  withVni : τ → Option UInt32 → List VrfDeclaration

namespace VrfContainer

/-- A VRF is refused if its name is taken, and otherwise put into both indices.  The index of names
is in order. -/
structure Lawful {τ : Type} (container : VrfContainer τ) : Prop where
  find?_empty : ∀ name, container.find? container.empty name = none
  byName_empty : container.byName container.empty = []
  withVni_empty : ∀ key, container.withVni container.empty key = []
  insert?_eq_none_iff : ∀ content vrf,
    container.insert? content vrf = none ↔ (container.find? content vrf.name).isSome = true
  find?_of_insert? : ∀ {content vrf after}, container.insert? content vrf = some after →
    ∀ name, container.find? after name =
      if name = vrf.name then some vrf else container.find? content name
  byName_of_insert? : ∀ {content vrf after}, container.insert? content vrf = some after →
    (container.byName after).Perm (vrf :: container.byName content)
  withVni_of_insert? : ∀ {content vrf after}, container.insert? content vrf = some after →
    ∀ key, (container.withVni after key).Perm
      ((if vrf.vni = key then [vrf] else []) ++ container.withVni content key)
  ascending : ∀ content, (container.byName content).Pairwise (·.name ≤ ·.name)

variable {τ : Type} (container : VrfContainer τ)

/-- Declare a VRF. -/
def add (content : τ) (vrf : VrfDeclaration) : τ × Except DeviceError Unit :=
  match container.insert? content vrf with
  | some after => (after, .ok ())
  | none => (content, .error (.duplicateVrf vrf.name))

/-- The content after a declaration. -/
def declare (content : τ) (vrf : VrfDeclaration) : τ := (container.add content vrf).1

/-- The content after some declarations. -/
def declareAll (content : τ) (declared : List VrfDeclaration) : τ :=
  declared.foldl container.declare content

/-- The answers of a container, each from the index that is made for it. -/
def answers (content : τ) : VrfAnswers where
  lookup := container.find? content
  all := container.byName content
  routed := (container.byName content).filter (·.vni.isSome)
  isRoutedVni vni := !(container.withVni content (some vni)).isEmpty

/-- Both indices of the container are about the VRFs of the table. -/
structure Represents (content : τ) (table : VrfTable) : Prop where
  find? : ∀ name, container.find? content name = table.lookup name
  byName : container.byName content = table.all
  withVni : ∀ key, (container.withVni content key).Perm (table.all.filter (·.vni = key))

section Steps

variable {container} {content : τ} {table : VrfTable} {vrf : VrfDeclaration}

theorem Lawful.represents_empty (lawful : container.Lawful) :
    container.Represents container.empty .empty where
  find? name := (lawful.find?_empty name).trans (VrfTable.lookup_empty name).symm
  byName := lawful.byName_empty
  withVni key := by
    rw [lawful.withVni_empty]
    exact .nil

namespace Represents

/-- A VRF that the table takes in is taken in by the container, and both stay about the same
VRFs. -/
theorem exists_insert? {after : VrfTable} (represents : container.Represents content table)
    (lawful : container.Lawful) (added : table.add vrf = (after, .ok ())) :
    ∃ filled, container.insert? content vrf = some filled ∧
      container.Represents filled after := by
  have free : container.insert? content vrf ≠ none := by
    rw [ne_eq, lawful.insert?_eq_none_iff, represents.find?,
      VrfTable.lookup_eq_none_of_add added]
    exact Bool.false_ne_true
  obtain ⟨filled, inserted⟩ := Option.ne_none_iff_exists'.mp free
  have listed := VrfTable.all_perm_of_add added
  refine ⟨filled, inserted, fun name => ?_, ?_, fun key => ?_⟩
  · rw [lawful.find?_of_insert? inserted, VrfTable.lookup_of_add added, represents.find?]
  · have same := lawful.byName_of_insert? inserted
    rw [represents.byName] at same
    refine (same.trans listed.symm).eq_of_pairwise ?_ (lawful.ascending filled)
      (after.pairwise_all.imp Std.le_of_lt)
    intro first second first_mem second_mem le ge
    have first_found := VrfTable.mem_all_iff.mp ((same.trans listed.symm).mem_iff.mp first_mem)
    have second_found := VrfTable.mem_all_iff.mp second_mem
    rw [String.le_antisymm le ge] at first_found
    exact Option.some.inj (first_found.symm.trans second_found)
  · refine (lawful.withVni_of_insert? inserted key).trans ?_
    refine ((represents.withVni key).append_left _).trans (.symm ?_)
    refine (listed.filter _).trans (.of_eq ?_)
    rw [List.filter_cons]
    by_cases own : vrf.vni = key <;> simp [own]

/-- A container refuses what the table refuses, for the same reason. -/
theorem add_eq_error_iff (represents : container.Represents content table)
    (lawful : container.Lawful) {cause : DeviceError} :
    (container.add content vrf).2 = .error cause ↔ (table.add vrf).2 = .error cause := by
  rw [VrfTable.add_eq_error_iff, ← represents.find?, ← lawful.insert?_eq_none_iff, add]
  cases container.insert? content vrf <;> simp [eq_comm]

theorem declare (represents : container.Represents content table) (lawful : container.Lawful)
    (vrf : VrfDeclaration) :
    container.Represents (container.declare content vrf) (table.declare vrf) := by
  by_cases taken : (table.lookup vrf.name).isSome = true
  · have refused := (lawful.insert?_eq_none_iff content vrf).mpr
      (by rw [represents.find?]; exact taken)
    rw [VrfContainer.declare, add, refused, VrfTable.declare, VrfTable.add_of_taken taken]
    exact represents
  · have added := VrfTable.add_of_free taken
    obtain ⟨filled, inserted, both⟩ := represents.exists_insert? lawful added
    rw [VrfContainer.declare, add, inserted, VrfTable.declare, added]
    exact both

theorem declareAll (represents : container.Represents content table) (lawful : container.Lawful)
    (declared : List VrfDeclaration) :
    container.Represents (container.declareAll content declared) (table.declareAll declared) := by
  induction declared generalizing content table with
  | nil => exact represents
  | cons vrf declared ih => exact ih (represents.declare lawful vrf)

/-- A container answers what the table answers. -/
theorem answers_eq (represents : container.Represents content table) :
    container.answers content = table.answers := by
  have looked_up : container.find? content = table.lookup := funext represents.find?
  have routed : (fun vni => !(container.withVni content (some vni)).isEmpty) =
      table.isRoutedVni := by
    funext vni
    rw [(represents.withVni (some vni)).isEmpty_eq, VrfTable.isRoutedVni, Bool.eq_iff_iff]
    simp
  rw [answers, looked_up, represents.byName, routed]
  rfl

end Represents
end Steps
end VrfContainer

/-- VRFs under their names, and their names under their VNIs. -/
structure IndexedVrfs where
  byName : VrfTable
  byVni : ExtTreeMap (Option UInt32) (List String)

namespace IndexedVrfs

/-- A VRF is put into the index of names first, which refuses a name that is taken. -/
def container : VrfContainer IndexedVrfs where
  empty := ⟨.empty, ∅⟩
  insert? content vrf :=
    match content.byName.add vrf with
    | (_, .error _) => none
    | (byName, .ok ()) =>
      some ⟨byName, content.byVni.insert vrf.vni (vrf.name :: content.byVni.getD vrf.vni [])⟩
  find? content := content.byName.lookup
  byName content := content.byName.all
  withVni content key := (content.byVni.getD key []).map (⟨·, key⟩)

theorem container_insert?_eq_some_iff {content after : IndexedVrfs} {vrf : VrfDeclaration} :
    container.insert? content vrf = some after ↔
      content.byName.add vrf = (after.byName, .ok ()) ∧
        after.byVni = content.byVni.insert vrf.vni (vrf.name :: content.byVni.getD vrf.vni []) := by
  obtain ⟨byName, byVni⟩ := after
  rcases outcome : content.byName.add vrf with ⟨left, cause | ⟨⟩⟩
  · simp [container, outcome]
  · simp [container, outcome, eq_comm]

theorem container_lawful : container.Lawful where
  find?_empty := VrfTable.lookup_empty
  byName_empty := rfl
  withVni_empty key := by simp [container]
  insert?_eq_none_iff content vrf := by
    by_cases taken : (content.byName.lookup vrf.name).isSome = true
    · simp [container, VrfTable.add_of_taken taken, taken]
    · simp [container, VrfTable.add_of_free taken, taken]
  find?_of_insert? inserted :=
    VrfTable.lookup_of_add (container_insert?_eq_some_iff.mp inserted).1
  byName_of_insert? inserted :=
    VrfTable.all_perm_of_add (container_insert?_eq_some_iff.mp inserted).1
  withVni_of_insert? {content vrf after} inserted key := by
    change ((after.byVni.getD key []).map _).Perm _
    rw [(container_insert?_eq_some_iff.mp inserted).2, ExtTreeMap.getD_insert]
    by_cases own : vrf.vni = key
    · subst own
      simp [container]
    · simp [own, container]
  ascending content := content.byName.pairwise_all.imp Std.le_of_lt

end IndexedVrfs

/-- After any declarations a table is about the first VRF of each name, refuses exactly the names
that are taken, and answers like any container with two indices. -/
theorem declared_vrfs_keep_first (declared : List VrfDeclaration) :
    let table := VrfTable.empty.declareAll declared
    table.answers.KeepFirst declared ∧
    (∀ vrf cause, (table.add vrf).2 = .error cause ↔
      (table.lookup vrf.name).isSome = true ∧ cause = .duplicateVrf vrf.name) ∧
    (∀ vrf cause, (table.add vrf).2 = .error cause → (table.declare vrf).answers = table.answers) ∧
    ∀ {τ : Type} (container : VrfContainer τ), container.Lawful →
      let content := container.declareAll container.empty declared
      container.answers content = table.answers ∧
      (∀ vrf cause, (container.add content vrf).2 = .error cause ↔
        (table.add vrf).2 = .error cause) ∧
      ∀ vrf cause, (container.add content vrf).2 = .error cause →
        container.answers (container.declare content vrf) = container.answers content := by
  intro table
  have stays : ∀ vrf cause, (table.add vrf).2 = .error cause →
      (table.declare vrf).answers = table.answers := by
    intro vrf cause refused
    rw [VrfTable.declare_of_error refused]
  refine ⟨VrfTable.keepFirst_declareAll declared, fun _ _ => VrfTable.add_eq_error_iff, stays, ?_⟩
  intro τ container lawful content
  have represents : container.Represents content table :=
    lawful.represents_empty.declareAll lawful declared
  refine ⟨represents.answers_eq, fun _ _ => represents.add_eq_error_iff lawful, ?_⟩
  intro vrf cause refused
  rw [(represents.declare lawful vrf).answers_eq, represents.answers_eq]
  exact stays vrf cause ((represents.add_eq_error_iff lawful).mp refused)

/-- Of two VRFs `red` the first one is kept, and `green` may have the same VNI. -/
theorem declared_vrfs_keep_first_red :
    let declared : List VrfDeclaration :=
      [⟨"red", some 10100⟩, ⟨"blue", none⟩, ⟨"red", none⟩, ⟨"green", some 10100⟩]
    let content := IndexedVrfs.container.declareAll IndexedVrfs.container.empty declared
    let answers := IndexedVrfs.container.answers content
    IndexedVrfs.container.Lawful ∧
      answers.all = [⟨"blue", none⟩, ⟨"green", some 10100⟩, ⟨"red", some 10100⟩] ∧
      answers.routed = [⟨"green", some 10100⟩, ⟨"red", some 10100⟩] ∧
      answers.lookup "red" = some ⟨"red", some 10100⟩ ∧
      answers.isRoutedVni 10100 = true ∧ answers.isRoutedVni 10200 = false ∧
      (IndexedVrfs.container.add content ⟨"red", none⟩).2 = .error (.duplicateVrf "red") := by
  intro declared content answers
  obtain ⟨-, -, -, same⟩ := declared_vrfs_keep_first declared
  obtain ⟨same_answers, same_refusals, -⟩ :=
    same IndexedVrfs.container IndexedVrfs.container_lawful
  have table_answers : answers = (VrfTable.empty.declareAll declared).answers := same_answers
  rw [table_answers, same_refusals]
  exact ⟨IndexedVrfs.container_lawful, by decide +kernel⟩

end NeutralRouting
