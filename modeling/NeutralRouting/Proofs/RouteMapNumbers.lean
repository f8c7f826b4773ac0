import Mathlib.Data.List.Induction
import NeutralRouting.Proofs.CheckedWords
import NeutralRouting.Proofs.Table
import NeutralRouting.RouteMap.Policy

/-!
# Numbers of route map entries

Entries are offered to a route map one after the other, with numbers of their own or without.  The
numbers that a route map gives go up by ten with every entry that has none, also with those that are
refused, and pay no attention to the others.  At each number the first entry that was tried stays,
and the policy of the route map tests the entries in the order of their numbers.
-/

namespace NeutralRouting

open Std

/-- An entry that is offered to a route map, with a number of its own or without. -/
structure EntryOffer where
  number : Option Nat
  entry : RouteMapEntry

namespace RouteMap

/-- How many entries are offered without a number of their own. -/
def unnumbered (offers : List EntryOffer) : Nat := offers.countP (·.number.isNone)

/-- The number at which an entry is tried after others were offered to a new route map. -/
def triedAt (earlier : List EntryOffer) (offer : EntryOffer) : Nat :=
  offer.number.getD (10 * (unnumbered earlier + 1))

/-- The numbers at which the entries are tried that are offered to a new route map. -/
def attempts (offers : List EntryOffer) : List (Nat × RouteMapEntry) :=
  offers.mapIdx fun position offer => (triedAt (offers.take position) offer, offer.entry)

/-- The entry that is tried first at a number. -/
def firstAt? (offers : List EntryOffer) (number : Nat) : Option RouteMapEntry :=
  ((attempts offers).find? (·.1 = number)).map (·.2)

/-- The number that a new route map gives next after some offers, computed with words of 32 bits,
unless that overflows. -/
def checkedNextNumber (offers : List EntryOffer) : Option (BitVec 32) :=
  offers.foldlM
    (fun next offer => if offer.number.isNone then checkedAdd next 10#32 else some next) 10#32

/-- The route map after an offer.  Its entries stay as they are if the entry is refused. -/
def tryEntry (map : RouteMap) (offer : EntryOffer) : RouteMap :=
  (map.addEntry offer.number offer.entry).1

/-- The route map after some offers. -/
def run (map : RouteMap) (offers : List EntryOffer) : RouteMap := offers.foldl tryEntry map

section Attempts

variable (offers : List EntryOffer) (offer : EntryOffer)

theorem unnumbered_concat :
    unnumbered (offers ++ [offer]) =
      unnumbered offers + if offer.number.isNone then 1 else 0 := by
  rw [unnumbered, List.countP_append, List.countP_singleton]
  rfl

theorem attempts_concat :
    attempts (offers ++ [offer]) = attempts offers ++ [(triedAt offers offer, offer.entry)] := by
  rw [attempts, List.mapIdx_concat, List.take_left]
  congr 1
  refine List.mapIdx_eq_mapIdx_iff.mpr fun position inside => ?_
  rw [List.take_append_of_le_length (Nat.le_of_lt inside)]

theorem firstAt?_concat (number : Nat) :
    firstAt? (offers ++ [offer]) number =
      (firstAt? offers number).or
        (if number = triedAt offers offer then some offer.entry else none) := by
  rw [firstAt?, firstAt?, attempts_concat, List.find?_append, List.find?_singleton]
  cases (attempts offers).find? (·.1 = number) with
  | some earlier => rfl
  | none =>
      by_cases own : triedAt offers offer = number
      · simp [own]
      · simp [own, Ne.symm own]

theorem checkedNextNumber_concat :
    checkedNextNumber (offers ++ [offer]) = (checkedNextNumber offers).bind fun next =>
      if offer.number.isNone then checkedAdd next 10#32 else some next := by
  rw [checkedNextNumber, List.foldlM_append]
  refine congrArg (Option.bind (checkedNextNumber offers)) (funext fun next => ?_)
  rw [List.foldlM_cons]
  exact Option.bind_fun_some _

/-- The words suffice as long as the next number is one of them. -/
theorem checkedNextNumber_eq_some (fits : 10 * (unnumbered offers + 1) < 2 ^ 32) :
    checkedNextNumber offers = some (BitVec.ofNat 32 (10 * (unnumbered offers + 1))) := by
  induction offers using List.reverseRecOn with
  | nil => rfl
  | append_singleton offers offer ih =>
      rw [unnumbered_concat] at fits ⊢
      rw [checkedNextNumber_concat, ih (by omega), Option.bind_some]
      cases unnumbered_too : offer.number.isNone with
      | false => rfl
      | true =>
          rw [if_pos unnumbered_too] at fits
          have sum_fits : (BitVec.ofNat 32 (10 * (unnumbered offers + 1))).toNat +
              (10#32).toNat < 2 ^ 32 := by
            rw [BitVec.toNat_ofNat, BitVec.toNat_ofNat, Nat.mod_eq_of_lt (by omega)]
            omega
          rw [if_pos rfl, if_pos rfl, checkedAdd_eq_some sum_fits, ← BitVec.ofNat_add]
          rfl

end Attempts

section Steps

variable (map : RouteMap) (offer : EntryOffer)

/-- The number at which an entry is tried. -/
def numberFor : Nat := offer.number.getD map.nextNumber

theorem takeNumber_eq :
    map.takeNumber offer.number = (map.numberFor offer,
      { map with nextNumber := map.nextNumber + if offer.number.isNone then 10 else 0 }) := by
  rw [numberFor]
  cases offer.number <;> rfl

/-- An entry is refused exactly if its number is in use.  That changes nothing but the next
number, which goes up as if the entry were added. -/
theorem addEntry_eq :
    map.addEntry offer.number offer.entry =
      ({ map with
          nextNumber := map.nextNumber + if offer.number.isNone then 10 else 0
          entries :=
            if map.numberFor offer ∈ map.entries then map.entries
            else map.entries.insert (map.numberFor offer) offer.entry },
        if map.numberFor offer ∈ map.entries then
          .error (.duplicateNumber .routeMap map.name (map.numberFor offer))
        else .ok ()) := by
  rw [addEntry, takeNumber_eq]
  by_cases used : map.numberFor offer ∈ map.entries
  · rw [if_pos used, if_pos used]
    exact if_pos used
  · rw [if_neg used, if_neg used]
    exact if_neg used

theorem tryEntry_eq :
    map.tryEntry offer =
      { map with
        nextNumber := map.nextNumber + if offer.number.isNone then 10 else 0
        entries :=
          if map.numberFor offer ∈ map.entries then map.entries
          else map.entries.insert (map.numberFor offer) offer.entry } :=
  congrArg Prod.fst (map.addEntry_eq offer)

theorem nextNumber_tryEntry :
    (map.tryEntry offer).nextNumber =
      map.nextNumber + if offer.number.isNone then 10 else 0 := by
  rw [tryEntry_eq]

/-- An entry that is added or refused is found at its number unless another one was there. -/
theorem getElem?_tryEntry (number : Nat) :
    (map.tryEntry offer).entries[number]? =
      map.entries[number]?.or
        (if number = map.numberFor offer then some offer.entry else none) := by
  rw [tryEntry_eq]
  by_cases used : map.numberFor offer ∈ map.entries
  · rw [if_pos used]
    by_cases own : number = map.numberFor offer
    · obtain ⟨earlier, present⟩ := Table.mem_iff_getElem?_eq_some.mp (own ▸ used)
      rw [present, Option.some_or]
    · rw [if_neg own, Option.or_none]
  · rw [if_neg used, Table.getElem?_insert_eq]
    by_cases own : number = map.numberFor offer
    · rw [if_pos own, if_pos own, own, ExtTreeMap.getElem?_eq_none used, Option.none_or]
    · rw [if_neg own, if_neg own, Option.or_none]

end Steps

section Runs

variable (name : String) (offers : List EntryOffer)

theorem run_concat (map : RouteMap) (offer : EntryOffer) :
    map.run (offers ++ [offer]) = (map.run offers).tryEntry offer :=
  List.foldl_concat ..

theorem name_run : ((empty name).run offers).name = name := by
  induction offers using List.reverseRecOn with
  | nil => rfl
  | append_singleton offers offer ih => rw [run_concat, tryEntry_eq, ih]

/-- The next number only depends on how many entries had none of their own. -/
theorem nextNumber_run :
    ((empty name).run offers).nextNumber = 10 * (unnumbered offers + 1) := by
  induction offers using List.reverseRecOn with
  | nil => rfl
  | append_singleton offers offer ih =>
      rw [run_concat, nextNumber_tryEntry, unnumbered_concat, ih]
      split <;> omega

theorem numberFor_run (offer : EntryOffer) :
    ((empty name).run offers).numberFor offer = triedAt offers offer := by
  rw [numberFor, nextNumber_run, triedAt]

/-- Each number holds the entry that was tried first. -/
theorem getElem?_run (number : Nat) :
    ((empty name).run offers).entries[number]? = firstAt? offers number := by
  induction offers using List.reverseRecOn with
  | nil => exact ExtTreeMap.getElem?_empty
  | append_singleton offers offer ih =>
      rw [run_concat, getElem?_tryEntry, ih, numberFor_run, firstAt?_concat]

end Runs

/-- Each number of a route map holds the entry that was tried there first, and the entries become
conditionals in ascending order of the numbers. -/
theorem run_holds_first_tried (name : String) (offers : List EntryOffer) :
    let map := (empty name).run offers
    (∀ offer, let after := (empty name).run (offers ++ [offer])
      let number := offer.number.getD (10 * (unnumbered offers + 1))
      map.addEntry offer.number offer.entry = (after, if number ∈ map.entries then
          .error (.duplicateNumber .routeMap name number) else .ok ()) ∧
      after.entries =
        if number ∈ map.entries then map.entries else map.entries.insert number offer.entry) ∧
    map.nextNumber = 10 * (unnumbered offers + 1) ∧
    (map.nextNumber < 2 ^ 32 →
      checkedNextNumber offers = some (BitVec.ofNat 32 map.nextNumber)) ∧
    (∀ number, map.entries[number]? = firstAt? offers number) ∧
    ∀ device, ∃ (policy : RoutingPolicy) (entries : List (Nat × RouteMapEntry)),
      (entrywiseCompiler device map).2 = .ok policy ∧ policy.name = name ∧
      entries.Pairwise (fun before after => before.1 < after.1) ∧
      (∀ number entry, (number, entry) ∈ entries ↔ firstAt? offers number = some entry) ∧
      policy.statements = entries.map (fun (number, entry) =>
        .branch (some s!"route-map {name} seq {number}")
          (.all (entry.tests.map (·.condition device)) none) entry.verdict []) ++
        [.directive .returnFalse] := by
  intro map
  have named : map.name = name := name_run name offers
  refine ⟨fun offer => ?_, nextNumber_run name offers, fun fits => ?_, getElem?_run name offers,
    fun device => ?_⟩
  · intro after number
    have after_eq : after = map.tryEntry offer := run_concat _ _ _
    have number_eq : map.numberFor offer = number := numberFor_run name offers offer
    rw [after_eq, addEntry_eq, tryEntry_eq, number_eq, named]
    exact ⟨rfl, rfl⟩
  · rw [nextNumber_run] at fits ⊢
    exact checkedNextNumber_eq_some offers fits
  · refine ⟨map.policy device, map.entries.toList, rfl, named, Table.ascending_toList _,
      fun number entry => ?_, ?_⟩
    · rw [ExtTreeMap.mem_toList_iff_getElem?_eq_some, getElem?_run]
    · rw [policy, named]
      rfl

/-- The second entry without a number of its own is tried at 20, where it is refused. -/
example :
    let entry : RouteMapEntry := ⟨.permit, [], []⟩
    let offers : List EntryOffer :=
      [⟨none, entry⟩, ⟨some 20, entry⟩, ⟨none, entry⟩, ⟨some 5, entry⟩, ⟨none, entry⟩]
    ((empty "import").run offers).entries.keys = [5, 10, 20, 30] := by
  decide +kernel

end RouteMap
end NeutralRouting
