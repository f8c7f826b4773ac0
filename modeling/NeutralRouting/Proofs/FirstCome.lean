import NeutralRouting.Proofs.Effects
import NeutralRouting.Proofs.Inventory

/-!
# First come, first kept

A configuration and a BGP process that are filled by any run of operations.  An object is found
under its own name, or a peer under its identity, and it is the first one that was offered there:
a later one is refused, or gives way to the registered one, and leaves everything as it was.
-/

namespace NeutralRouting

open Std

/-- An object that is kept under a name of its own among those of its kind. -/
inductive NamedObject where
  | vrf (vrf : Vrf)
  | interface (interface : Interface)
  | policy (policy : RoutingPolicy)
  | routeFilterList (list : RouteFilterList)
  | communityList (list : CommunityList)
  | asPathAccessList (list : AsPathAccessList)
  | peer (peer : BgpPeer)

/-- What an object is kept under. -/
inductive ObjectKey where
  | vrf (name : String)
  | interface (name : String)
  | policy (name : String)
  | routeFilterList (name : String)
  | communityList (name : String)
  | asPathAccessList (name : String)
  | peer (id : PeerId)
deriving DecidableEq

/-- The key that an object is to be kept under. -/
def NamedObject.key : NamedObject → ObjectKey
  | vrf object => .vrf object.name
  | interface object => .interface object.name
  | policy object => .policy object.name
  | routeFilterList object => .routeFilterList object.name
  | communityList object => .communityList object.name
  | asPathAccessList object => .asPathAccessList object.name
  | peer object => .peer object.id

/-- The refusal of a second object under a key. -/
def ObjectKey.duplicate : ObjectKey → StoreError
  | vrf name => .duplicateName .vrf name
  | interface name => .duplicateName .interface name
  | policy name => .duplicateName .routingPolicy name
  | routeFilterList name => .duplicateName .routeFilterList name
  | communityList name => .duplicateName .communityList name
  | asPathAccessList name => .duplicateName .asPathAccessList name
  | peer id => .duplicateName .bgpPeer id.text

/-- A way to put an object into a store. -/
inductive StoreOperation where
  /-- The object is refused if its key is taken. -/
  | add (object : NamedObject)
  /-- The policy gives way to one that is registered under its name. -/
  | ensurePolicy (policy : RoutingPolicy)

/-- The object that an operation offers. -/
def StoreOperation.object : StoreOperation → NamedObject
  | add object => object
  | ensurePolicy policy => .policy policy

/-- A configuration and a BGP process that are being filled. -/
structure ObjectStore where
  configuration : Configuration
  process : BgpProcess

namespace ObjectStore

/-- A new configuration, and a process that has no peers yet. -/
def fresh (hostname : String) (process : BgpProcess) : ObjectStore :=
  ⟨.initial hostname, process.withoutPeers⟩

/-- The object under a key. -/
def object? (store : ObjectStore) : ObjectKey → Option NamedObject
  | .vrf name => store.configuration.vrfs[name]?.map .vrf
  | .interface name => store.configuration.interfaces[name]?.map .interface
  | .policy name => store.configuration.policies[name]?.map .policy
  | .routeFilterList name => store.configuration.routeFilterLists[name]?.map .routeFilterList
  | .communityList name => store.configuration.communityLists[name]?.map .communityList
  | .asPathAccessList name => store.configuration.asPathAccessLists[name]?.map .asPathAccessList
  | .peer id => (store.process.peer? id).map .peer

/-- Add an object under its key. -/
def add (store : ObjectStore) : NamedObject → Attempt ObjectStore
  | .vrf vrf => (store.configuration.addVrf vrf).within ({ store with configuration := · })
  | .interface interface =>
    (store.configuration.addInterface interface).within ({ store with configuration := · })
  | .policy policy =>
    (store.configuration.addPolicy policy).within ({ store with configuration := · })
  | .routeFilterList list =>
    (store.configuration.addRouteFilterList list).within ({ store with configuration := · })
  | .communityList list =>
    (store.configuration.addCommunityList list).within ({ store with configuration := · })
  | .asPathAccessList list =>
    (store.configuration.addAsPathAccessList list).within ({ store with configuration := · })
  | .peer peer => (store.process.addPeer peer).within ({ store with process := · })

/-- The answer to an operation, with the registered policy if one is asked for, and the store after
it. -/
def perform (store : ObjectStore) :
    StoreOperation → Except StoreError (Option RoutingPolicy) × ObjectStore
  | .add object =>
    let attempt := store.add object
    (attempt.2.map fun _ => none, attempt.1)
  | .ensurePolicy policy =>
    let after := { store with configuration := store.configuration.ensurePolicy policy }
    (.ok after.configuration.policies[policy.name]?, after)

/-- The store after a run of operations, whatever the answers to them are. -/
def run (store : ObjectStore) (operations : List StoreOperation) : ObjectStore :=
  operations.foldl (fun store operation => (store.perform operation).2) store

/-- What a store is besides the objects that are kept in it. -/
def shell (store : ObjectStore) : ObjectStore where
  configuration :=
    { store.configuration with
      vrfs := ∅, interfaces := ∅, policies := ∅, routeFilterLists := ∅, communityLists := ∅,
      asPathAccessLists := ∅ }
  process := store.process.withoutPeers

/-- The second store has the object under its key, and all else is as in the first one. -/
structure Gains (before : ObjectStore) (object : NamedObject) (after : ObjectStore) : Prop where
  object? : ∀ key, after.object? key =
    if key = object.key then some object else before.object? key
  shell : after.shell = before.shell

section Steps

variable {store : ObjectStore} {object : NamedObject} {policy : RoutingPolicy}
  {operation : StoreOperation}

theorem add_of_taken (taken : (store.object? object.key).isSome = true) :
    store.add object = (store, .error object.key.duplicate) := by
  cases object with
  | peer peer =>
      have known : (store.process.peer? peer.id).isSome = true := by
        simpa [object?, NamedObject.key] using taken
      rw [add, BgpProcess.addPeer_of_taken known]
      rfl
  | vrf | interface | policy | routeFilterList | communityList | asPathAccessList =>
      simp only [object?, NamedObject.key, Option.isSome_map,
        ExtTreeMap.isSome_getElem?_iff_mem] at taken
      simp only [add, Configuration.addVrf, Configuration.addInterface, Configuration.addPolicy,
        Configuration.addRouteFilterList, Configuration.addCommunityList,
        Configuration.addAsPathAccessList, Configuration.insertNew, if_pos taken]
      rfl

theorem exists_add_of_free (free : ¬(store.object? object.key).isSome = true) :
    ∃ after, store.add object = (after, .ok ()) ∧ Gains store object after := by
  cases object with
  | peer peer =>
      have unknown : ¬(store.process.peer? peer.id).isSome = true := by
        simpa [object?, NamedObject.key] using free
      obtain ⟨process, added⟩ := BgpProcess.exists_addPeer_of_free unknown
      refine ⟨{ store with process }, by rw [add, added]; rfl, fun key => ?_, ?_⟩
      · cases key with
        | peer id =>
            simp only [object?, BgpProcess.peer?_of_addPeer added, NamedObject.key,
              ObjectKey.peer.injEq]
            split <;> rfl
        | _ => simp [object?, NamedObject.key]
      · rw [shell, BgpProcess.withoutPeers_of_addPeer added]
        rfl
  | vrf | interface | policy | routeFilterList | communityList | asPathAccessList =>
      simp only [object?, NamedObject.key, Option.isSome_map,
        ExtTreeMap.isSome_getElem?_iff_mem] at free
      simp only [add, Configuration.addVrf, Configuration.addInterface, Configuration.addPolicy,
        Configuration.addRouteFilterList, Configuration.addCommunityList,
        Configuration.addAsPathAccessList, Configuration.insertNew, if_neg free]
      refine ⟨_, rfl, fun key => ?_, rfl⟩
      cases key <;>
        simp [object?, NamedObject.key, Table.getElem?_insert_eq, Attempt.within]
      split <;> rfl

theorem ensurePolicy_of_taken (taken : policy.name ∈ store.configuration.policies) :
    store.configuration.ensurePolicy policy = store.configuration := by
  have same : store.configuration.policies.insertIfNew policy.name policy =
      store.configuration.policies := by
    apply ExtTreeMap.ext_getElem?
    intro name
    rw [ExtTreeMap.getElem?_insertIfNew, if_neg (fun new => new.2 taken)]
  rw [Configuration.ensurePolicy, same]

/-- A policy under a new name is put in as if it were added. -/
theorem gains_ensurePolicy (free : policy.name ∉ store.configuration.policies) :
    Gains store (.policy policy)
      { store with configuration := store.configuration.ensurePolicy policy } := by
  have unknown : ¬(store.object? (NamedObject.policy policy).key).isSome = true := by
    simpa [object?, NamedObject.key] using free
  obtain ⟨after, added, gains⟩ := exists_add_of_free unknown
  rw [add, Configuration.addPolicy_eq_ensurePolicy free] at added
  cases added
  exact gains

theorem perform_add_of_taken (taken : (store.object? object.key).isSome = true) :
    store.perform (.add object) = (.error object.key.duplicate, store) := by
  rw [perform, add_of_taken taken]
  rfl

theorem exists_perform_add_of_free (free : ¬(store.object? object.key).isSome = true) :
    ∃ after, store.perform (.add object) = (.ok none, after) ∧ Gains store object after := by
  obtain ⟨after, added, gains⟩ := exists_add_of_free free
  exact ⟨after, by rw [perform, added]; rfl, gains⟩

theorem perform_ensurePolicy_of_registered {registered : RoutingPolicy}
    (found : store.configuration.policies[policy.name]? = some registered) :
    store.perform (.ensurePolicy policy) = (.ok (some registered), store) := by
  have taken := Table.mem_iff_getElem?_eq_some.mpr ⟨registered, found⟩
  rw [perform, ensurePolicy_of_taken taken, found]

theorem exists_perform_ensurePolicy_of_free (free : policy.name ∉ store.configuration.policies) :
    ∃ after, store.perform (.ensurePolicy policy) = (.ok (some policy), after) ∧
      Gains store (.policy policy) after := by
  refine ⟨_, ?_, gains_ensurePolicy free⟩
  have found : (store.configuration.policies.insertIfNew policy.name policy)[policy.name]? =
      some policy := by
    rw [ExtTreeMap.getElem?_insertIfNew, if_pos ⟨ReflCmp.compare_self, free⟩]
  rw [perform, Configuration.ensurePolicy, found]

theorem perform_of_taken (taken : (store.object? operation.object.key).isSome = true) :
    (store.perform operation).2 = store := by
  cases operation with
  | add object => exact congrArg Prod.snd (perform_add_of_taken taken)
  | ensurePolicy policy =>
      have known : policy.name ∈ store.configuration.policies := by
        simpa [object?, StoreOperation.object, NamedObject.key] using taken
      rw [perform, ensurePolicy_of_taken known]

theorem gains_perform (free : ¬(store.object? operation.object.key).isSome = true) :
    Gains store operation.object (store.perform operation).2 := by
  cases operation with
  | add object =>
      have unknown : ¬(store.object? object.key).isSome = true := free
      obtain ⟨after, performed, gains⟩ := exists_perform_add_of_free unknown
      rw [performed]
      exact gains
  | ensurePolicy policy =>
      have unknown : policy.name ∉ store.configuration.policies := by
        simpa [object?, StoreOperation.object, NamedObject.key] using free
      exact gains_ensurePolicy unknown

end Steps

section Runs

/-- Under every key there is the first of the offered objects that belongs there. -/
def KeepsFirst (store : ObjectStore) (offered : List NamedObject) : Prop :=
  ∀ key, store.object? key = offered.find? (·.key = key)

theorem keepsFirst_fresh (hostname : String) (process : BgpProcess) :
    (fresh hostname process).KeepsFirst [.vrf (.bare defaultVrfName)] := by
  intro key
  cases key with
  | vrf name =>
      simp [fresh, object?, Configuration.initial, Table.getElem?_insert_eq, NamedObject.key,
        Vrf.bare, List.find?_singleton, apply_ite, eq_comm]
  | peer id => cases id <;> rfl
  | _ => rfl

/-- One more operation offers one more object. -/
theorem KeepsFirst.perform {store : ObjectStore} {offered : List NamedObject}
    (keeps : store.KeepsFirst offered) (operation : StoreOperation) :
    (store.perform operation).2.KeepsFirst (offered ++ [operation.object]) := by
  intro key
  rw [List.find?_append, ← keeps key, List.find?_singleton]
  simp only [decide_eq_true_eq]
  by_cases taken : (store.object? operation.object.key).isSome = true
  · rw [perform_of_taken taken]
    split
    · next own =>
        rw [own] at taken
        rw [Option.or_of_isSome taken]
    · rw [Option.or_none]
  · rw [(gains_perform taken).object? key]
    rw [Option.not_isSome_iff_eq_none] at taken
    split
    · next own => rw [← own, own, taken, if_pos rfl, Option.none_or]
    · next other => rw [if_neg (Ne.symm other), Option.or_none]

theorem KeepsFirst.run {store : ObjectStore} {offered : List NamedObject}
    (keeps : store.KeepsFirst offered) (operations : List StoreOperation) :
    (store.run operations).KeepsFirst (offered ++ operations.map (·.object)) := by
  induction operations generalizing store offered with
  | nil =>
      rw [List.map_nil, List.append_nil]
      exact keeps
  | cons operation operations ih =>
      have later := ih (keeps.perform operation)
      rwa [List.append_assoc, List.singleton_append, ← List.map_cons] at later

/-- After any run of operations there is under every key the first object that was offered for it,
and a further one is refused or gives way without a trace. -/
theorem run_keeps_first (hostname : String) (process : BgpProcess)
    (operations : List StoreOperation) :
    let store := (fresh hostname process).run operations
    let offered := NamedObject.vrf (.bare defaultVrfName) :: operations.map (·.object)
    (∀ key, store.object? key = offered.find? (·.key = key)) ∧
    (∀ key object, store.object? key = some object → object.key = key) ∧
    (∀ object, if (store.object? object.key).isSome then
        store.perform (.add object) = (.error object.key.duplicate, store)
      else ∃ after, store.perform (.add object) = (.ok none, after) ∧
        Gains store object after) ∧
    (∀ policy registered, store.configuration.policies[policy.name]? = some registered →
      store.perform (.ensurePolicy policy) = (.ok (some registered), store)) ∧
    (∀ policy, policy.name ∉ store.configuration.policies →
      ∃ after, store.perform (.ensurePolicy policy) = (.ok (some policy), after) ∧
        Gains store (.policy policy) after) ∧
    store.configuration.vrfs[defaultVrfName]? = some (.bare defaultVrfName) ∧
    ∀ vrf, vrf.name = defaultVrfName → store.perform (.add (.vrf vrf)) =
      (.error (.duplicateName .vrf defaultVrfName), store) := by
  intro store offered
  have keeps : store.KeepsFirst offered := (keepsFirst_fresh hostname process).run operations
  have default_found : store.object? (.vrf defaultVrfName) =
      some (.vrf (.bare defaultVrfName)) := by
    rw [keeps]
    exact List.find?_cons_of_pos (by rfl)
  refine ⟨keeps, ?_, ?_, fun _ _ => perform_ensurePolicy_of_registered,
    fun _ => exists_perform_ensurePolicy_of_free, ?_, ?_⟩
  · intro key object found
    rw [keeps key] at found
    have own := List.find?_some found
    exact of_decide_eq_true own
  · intro object
    split
    · next taken => exact perform_add_of_taken taken
    · next free => exact exists_perform_add_of_free free
  · obtain ⟨vrf, found, same⟩ := Option.map_eq_some_iff.mp default_found
    cases same
    exact found
  · intro vrf named
    have same_key : (NamedObject.vrf vrf).key = .vrf defaultVrfName :=
      congrArg ObjectKey.vrf named
    have taken : (store.object? (NamedObject.vrf vrf).key).isSome = true := by
      rw [same_key, default_found]
      rfl
    rw [perform_add_of_taken taken, same_key]
    rfl

end Runs

end ObjectStore
end NeutralRouting
