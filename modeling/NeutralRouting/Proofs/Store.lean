import NeutralRouting.Proofs.Conversion
import NeutralRouting.Proofs.Table

/-!
# Filling the tables of a configuration

A configuration has one table for each kind of named objects.  An object goes into its table and
leaves the other tables alone, so objects of one kind with new and different names can be added
one after the other.
-/

namespace NeutralRouting

open Std

namespace Configuration

/-- A table of a configuration, and the way objects get into it. -/
structure Shelf (β : Type) where
  kind : ObjectKind
  name : β → String
  get : Configuration → ExtTreeMap String β
  set : Configuration → ExtTreeMap String β → Configuration
  get_set : ∀ configuration table, get (set configuration table) = table
  set_set : ∀ configuration first second,
    set (set configuration first) second = set configuration second
  set_get : ∀ configuration, set configuration (get configuration) = configuration

/-- The table of VRFs. -/
def vrfShelf : Shelf Vrf :=
  ⟨.vrf, (·.name), (·.vrfs), fun configuration table => { configuration with vrfs := table },
    fun _ _ => rfl, fun _ _ _ => rfl, fun _ => rfl⟩

/-- The table of interfaces. -/
def interfaceShelf : Shelf Interface :=
  ⟨.interface, (·.name), (·.interfaces),
    fun configuration table => { configuration with interfaces := table },
    fun _ _ => rfl, fun _ _ _ => rfl, fun _ => rfl⟩

/-- The table of routing policies. -/
def policyShelf : Shelf RoutingPolicy :=
  ⟨.routingPolicy, (·.name), (·.policies),
    fun configuration table => { configuration with policies := table },
    fun _ _ => rfl, fun _ _ _ => rfl, fun _ => rfl⟩

/-- The table of route filter lists. -/
def routeFilterShelf : Shelf RouteFilterList :=
  ⟨.routeFilterList, (·.name), (·.routeFilterLists),
    fun configuration table => { configuration with routeFilterLists := table },
    fun _ _ => rfl, fun _ _ _ => rfl, fun _ => rfl⟩

/-- The table of community lists. -/
def communityShelf : Shelf CommunityList :=
  ⟨.communityList, (·.name), (·.communityLists),
    fun configuration table => { configuration with communityLists := table },
    fun _ _ => rfl, fun _ _ _ => rfl, fun _ => rfl⟩

/-- The table of AS-path access lists. -/
def asPathShelf : Shelf AsPathAccessList :=
  ⟨.asPathAccessList, (·.name), (·.asPathAccessLists),
    fun configuration table => { configuration with asPathAccessLists := table },
    fun _ _ => rfl, fun _ _ _ => rfl, fun _ => rfl⟩

namespace Shelf

variable {α β : Type} (shelf : Shelf β)

/-- Add an object under a name that is not taken yet. -/
def add (configuration : Configuration) (object : β) : Attempt Configuration :=
  (insertNew (shelf.get configuration) shelf.kind (shelf.name object) object).within
    (shelf.set configuration)

/-- The configuration with one more object. -/
def put (configuration : Configuration) (object : β) : Configuration :=
  shelf.set configuration ((shelf.get configuration).insert (shelf.name object) object)

variable {configuration changed : Configuration} {object : β}

theorem add_of_mem (taken : shelf.name object ∈ shelf.get configuration) :
    shelf.add configuration object =
      (configuration, .error (.duplicateName shelf.kind (shelf.name object))) := by
  rw [add, insertNew, if_pos taken, Attempt.within, shelf.set_get]

theorem add_of_not_mem (fresh : shelf.name object ∉ shelf.get configuration) :
    shelf.add configuration object = (shelf.put configuration object, .ok ()) := by
  rw [add, insertNew, if_neg fresh]
  rfl

/-- An object is added exactly when its name is new. -/
theorem add_eq_ok_iff :
    shelf.add configuration object = (changed, .ok ()) ↔
      shelf.name object ∉ shelf.get configuration ∧ shelf.put configuration object = changed := by
  by_cases taken : shelf.name object ∈ shelf.get configuration
  · simp [shelf.add_of_mem taken, taken]
  · simp [shelf.add_of_not_mem taken, taken]

@[simp]
theorem get_put (configuration : Configuration) (object : β) :
    shelf.get (shelf.put configuration object) =
      (shelf.get configuration).insert (shelf.name object) object :=
  shelf.get_set _ _

/-- What is kept already is not replaced. -/
theorem getElem?_of_add (added : shelf.add configuration object = (changed, .ok ())) {name : String}
    {other : β} (kept : (shelf.get configuration)[name]? = some other) :
    (shelf.get changed)[name]? = some other := by
  obtain ⟨fresh, rfl⟩ := shelf.add_eq_ok_iff.mp added
  rw [get_put, ExtTreeMap.getElem?_insert, if_neg, kept]
  intro same
  rw [LawfulEqOrd.eq_of_compare same] at fresh
  exact fresh (Table.mem_iff_getElem?_eq_some.mpr ⟨other, kept⟩)

theorem getElem?_name_of_add (added : shelf.add configuration object = (changed, .ok ())) :
    (shelf.get changed)[shelf.name object]? = some object := by
  obtain ⟨fresh, rfl⟩ := shelf.add_eq_ok_iff.mp added
  rw [get_put, ExtTreeMap.getElem?_insert_self]

theorem holds_of_add {objects : List β} (added : shelf.add configuration object = (changed, .ok ()))
    (holds : Table.Holds shelf.name (shelf.get configuration) objects) :
    Table.Holds shelf.name (shelf.get changed) (objects ++ [object]) := by
  obtain ⟨fresh, rfl⟩ := shelf.add_eq_ok_iff.mp added
  rw [get_put]
  exact holds.insert fresh

theorem succeeds_add (object : β) {progress : Progress}
    (fresh : shelf.name object ∉ shelf.get progress.configuration) :
    Conversion.Succeeds (Conversion.store (shelf.add · object)) progress fun _ after =>
      after = shelf.put progress.configuration object :=
  .store (shelf.add_of_not_mem fresh) rfl

/-- Objects with new and different names can all be added. -/
theorem runFrom_forM_add {items : List α} {make : α → β} {progress : Progress}
    (distinct : (items.map fun item => shelf.name (make item)).Nodup)
    (fresh : ∀ item ∈ items, shelf.name (make item) ∉ shelf.get progress.configuration) :
    (items.forM fun item => Conversion.store (shelf.add · (make item))).runFrom progress =
      (.ok (), { progress with
        configuration := shelf.set progress.configuration
          ((shelf.get progress.configuration).insertMany
            (items.map fun item => (shelf.name (make item), make item))) }) := by
  rw [List.forM_eq_forM]
  induction items generalizing progress with
  | nil =>
      rw [List.map_nil, ExtTreeMap.insertMany_nil, shelf.set_get]
      rfl
  | cons item items ih =>
      obtain ⟨different, distinct⟩ := List.nodup_cons.mp distinct
      have first := shelf.add_of_not_mem (fresh item List.mem_cons_self)
      have others : ∀ other ∈ items,
          shelf.name (make other) ∉ shelf.get (shelf.put progress.configuration (make item)) := by
        intro other member
        rw [get_put, ExtTreeMap.mem_insert, not_or]
        refine ⟨?_, fresh other (List.mem_cons_of_mem item member)⟩
        intro same
        apply different
        exact List.mem_map.mpr ⟨other, member, (LawfulEqOrd.eq_of_compare same).symm⟩
      rw [List.forM_cons, Conversion.runFrom_bind_of_ok _ (Conversion.runFrom_store_of_ok first),
        ih distinct others, get_put, put, shelf.set_set, List.map_cons, ExtTreeMap.insertMany_cons]

/-- The objects of a keyed table move to an empty table and are found there under the same keys. -/
theorem succeeds_forM_add (make : α → β) {table : ExtTreeMap String α} {progress : Progress}
    (keyed : Table.KeyedBy (fun object => shelf.name (make object)) table)
    (empty : shelf.get progress.configuration = ∅) :
    Conversion.Succeeds (table.values.forM fun item => Conversion.store (shelf.add · (make item)))
      progress fun _ after => ∃ filled, after = shelf.set progress.configuration filled ∧
        (∀ (key : String) (object : α), table[key]? = some object →
          filled[key]? = some (make object)) ∧
        ∀ key : String, key ∈ filled → key ∈ table := by
  have run := shelf.runFrom_forM_add keyed.nodup fun object _ taken => by
    rw [empty] at taken
    exact ExtTreeMap.not_mem_empty taken
  refine ⟨(), _, run, _, rfl, ?_, ?_⟩
  · intro key object present
    exact keyed.getElem?_insertMany make _ present
  · intro key member
    rw [keyed.mem_insertMany_iff make, empty] at member
    exact member.resolve_left ExtTreeMap.not_mem_empty

end Shelf
section Vrfs

variable {configuration changed : Configuration} {name : String}

/-- A VRF is changed exactly when it exists and the change is not refused. -/
theorem updateVrf_eq_ok_iff {change : Vrf → Attempt Vrf} :
    configuration.updateVrf name change = (changed, .ok ()) ↔
      ∃ vrf result, configuration.vrfs[name]? = some vrf ∧ change vrf = (result, .ok ()) ∧
        { configuration with vrfs := configuration.vrfs.insert name result } = changed := by
  rw [updateVrf]
  cases found : configuration.vrfs[name]? with
  | none => simp
  | some vrf =>
      simp only [Option.some.injEq]
      rcases outcome : change vrf with ⟨result, cause | ⟨⟩⟩
      · simp [Attempt.within, outcome]
      · simp [Attempt.within, outcome]

/-- The process of a VRF is changed exactly when it exists and the change is not refused. -/
theorem updateBgpProcess_eq_ok_iff {change : BgpProcess → Attempt BgpProcess} :
    configuration.updateBgpProcess name change = (changed, .ok ()) ↔
      ∃ vrf process result, configuration.vrfs[name]? = some vrf ∧ vrf.bgp = some process ∧
        change process = (result, .ok ()) ∧
        { configuration with
          vrfs := configuration.vrfs.insert name { vrf with bgp := some result } } = changed := by
  rw [updateBgpProcess, updateVrf_eq_ok_iff]
  constructor
  · rintro ⟨vrf, updated, found, outcome, rfl⟩
    cases running : vrf.bgp with
    | none => simp [running] at outcome
    | some process =>
        simp only [running] at outcome
        rcases accepted : change process with ⟨result, cause | ⟨⟩⟩
        · simp [Attempt.within, accepted] at outcome
        · simp only [Attempt.within, accepted, Prod.mk.injEq, and_true] at outcome
          subst outcome
          exact ⟨vrf, process, result, found, running, accepted, rfl⟩
  · rintro ⟨vrf, process, result, found, running, accepted, rfl⟩
    exact ⟨vrf, _, found, by simp [running, Attempt.within, accepted], rfl⟩

/-- The change of a process that exists decides. -/
theorem updateBgpProcess_of_getElem? {vrf : Vrf} {process : BgpProcess}
    (found : configuration.vrfs[name]? = some vrf) (running : vrf.bgp = some process)
    (change : BgpProcess → Attempt BgpProcess) :
    configuration.updateBgpProcess name change = (change process).within fun result =>
      { configuration with
        vrfs := configuration.vrfs.insert name { vrf with bgp := some result } } := by
  rw [updateBgpProcess, updateVrf, found]
  simp only [running]
  rfl

theorem bgpProcess?_eq_some_iff {process : BgpProcess} :
    configuration.bgpProcess? name = some process ↔
      ∃ vrf, configuration.vrfs[name]? = some vrf ∧ vrf.bgp = some process := by
  rw [bgpProcess?, Option.bind_eq_bind, Option.bind_eq_some_iff]

end Vrfs
end Configuration
end NeutralRouting
