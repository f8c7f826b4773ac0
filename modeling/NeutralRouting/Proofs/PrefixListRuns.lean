import NeutralRouting.Proofs.RouteMap

/-!
# Prefix lists that are filled line by line

Lines are offered to a list one after the other, with numbers of their own or without.  A line is
taken unless its number is in use, and a refused one changes nothing.  So a list is determined by
the lines that were taken and their numbers, in whatever order this happened.
-/

namespace NeutralRouting

open Std

/-- The block lies inside the base of the line, and its length between the bounds of the line. -/
def PrefixListLine.Matches (line : PrefixListLine) (block : Prefix) : Prop :=
  line.base.covers block = true ∧ line.minLength ≤ block.length ∧ block.length ≤ line.maxLength

theorem PrefixListLine.includes_iff {line : PrefixListLine} {block : Prefix} :
    line.includes block = true ↔ line.Matches block := by
  simp only [includes, Matches, Bool.and_eq_true, decide_eq_true_eq, and_assoc]

/-- A line that is offered to a prefix list, with a number of its own or without. -/
structure LineOffer where
  number : Option UInt32
  line : PrefixListLine

/-- The offer of a line under a number of its own. -/
def LineOffer.numbered (entry : UInt32 × PrefixListLine) : LineOffer := ⟨some entry.1, entry.2⟩

namespace PrefixList

/-- The number under which a line is offered. -/
def numberFor (list : PrefixList) (offer : LineOffer) : UInt32 :=
  offer.number.getD list.nextNumber

/-- The list after an offer. -/
def tryAdd (list : PrefixList) (offer : LineOffer) : PrefixList :=
  (list.addLine offer.number offer.line).1

/-- The list after some offers. -/
def run (list : PrefixList) (offers : List LineOffer) : PrefixList := offers.foldl tryAdd list

/-- The lines that are taken from some offers, with the numbers that they are given. -/
def taken (list : PrefixList) : List LineOffer → List (UInt32 × PrefixListLine)
  | [] => []
  | offer :: rest =>
    match list.addLine offer.number offer.line with
    | (after, .ok ()) => (list.numberFor offer, offer.line) :: after.taken rest
    | (after, .error _) => after.taken rest

/-- The number of the next line follows from the lines. -/
def Tidy (list : PrefixList) : Prop := list.nextNumber = numberAfter list.lines

section Offers

variable {list : PrefixList} {offer : LineOffer} {rest : List LineOffer}

theorem addLine_of_mem (used : list.numberFor offer ∈ list.lines) :
    list.addLine offer.number offer.line =
      (list, .error (.duplicateNumber .prefixList list.name (list.numberFor offer).toNat)) :=
  if_pos used

theorem addLine_of_not_mem (unused : list.numberFor offer ∉ list.lines) :
    list.addLine offer.number offer.line =
      ({ list with
          nextNumber := numberAfter (list.lines.insert (list.numberFor offer) offer.line)
          lines := list.lines.insert (list.numberFor offer) offer.line }, .ok ()) :=
  if_neg unused

theorem tryAdd_of_mem (used : list.numberFor offer ∈ list.lines) : list.tryAdd offer = list := by
  rw [tryAdd, addLine_of_mem used]

/-- A line that is refused leaves the list as it was. -/
theorem tryAdd_of_error {cause : DeviceError}
    (refused : (list.addLine offer.number offer.line).2 = .error cause) :
    list.tryAdd offer = list := by
  by_cases used : list.numberFor offer ∈ list.lines
  · exact tryAdd_of_mem used
  · rw [addLine_of_not_mem used] at refused
    cases refused

theorem taken_cons_of_mem (used : list.numberFor offer ∈ list.lines) :
    list.taken (offer :: rest) = list.taken rest := by
  rw [taken, addLine_of_mem used]

theorem taken_cons_of_not_mem (unused : list.numberFor offer ∉ list.lines) :
    list.taken (offer :: rest) =
      (list.numberFor offer, offer.line) :: (list.tryAdd offer).taken rest := by
  rw [taken, tryAdd, addLine_of_not_mem unused]

theorem lines_tryAdd_of_not_mem (unused : list.numberFor offer ∉ list.lines) :
    (list.tryAdd offer).lines = list.lines.insert (list.numberFor offer) offer.line := by
  rw [tryAdd, addLine_of_not_mem unused]

theorem name_tryAdd (list : PrefixList) (offer : LineOffer) :
    (list.tryAdd offer).name = list.name := by
  rw [tryAdd]
  by_cases used : list.numberFor offer ∈ list.lines
  · rw [addLine_of_mem used]
  · rw [addLine_of_not_mem used]

theorem Tidy.tryAdd (tidy : list.Tidy) (offer : LineOffer) : (list.tryAdd offer).Tidy := by
  by_cases used : list.numberFor offer ∈ list.lines
  · rwa [tryAdd_of_mem used]
  · rw [PrefixList.tryAdd, addLine_of_not_mem used]
    exact rfl

/-- Nothing but the name and the lines makes a difference. -/
theorem Tidy.eq_of_lines_eq {other : PrefixList} (tidy : list.Tidy) (other_tidy : other.Tidy)
    (same_name : list.name = other.name) (same_lines : list.lines = other.lines) :
    list = other := by
  have same_number : list.nextNumber = other.nextNumber := by
    rw [tidy, other_tidy, same_lines]
  cases list
  cases other
  cases same_name
  cases same_lines
  cases same_number
  rfl

theorem tidy_empty (name : String) : (empty name).Tidy := by
  simp [Tidy, empty, numberAfter]

end Offers

section Runs

variable {list : PrefixList} {offers : List LineOffer}

theorem run_append (list : PrefixList) (front back : List LineOffer) :
    list.run (front ++ back) = (list.run front).run back :=
  List.foldl_append

theorem name_run (list : PrefixList) (offers : List LineOffer) :
    (list.run offers).name = list.name := by
  induction offers generalizing list with
  | nil => rfl
  | cons offer rest ih => exact (ih _).trans (list.name_tryAdd offer)

theorem Tidy.run (tidy : list.Tidy) (offers : List LineOffer) : (list.run offers).Tidy := by
  induction offers generalizing list with
  | nil => exact tidy
  | cons offer rest ih => exact ih (tidy.tryAdd offer)

/-- A run adds the lines that are taken, under the numbers that they are given. -/
theorem getElem?_run_iff {number : UInt32} {line : PrefixListLine} :
    (list.run offers).lines[number]? = some line ↔
      list.lines[number]? = some line ∨ (number, line) ∈ list.taken offers := by
  induction offers generalizing list with
  | nil => simp [PrefixList.run, taken]
  | cons offer rest ih =>
      change ((list.tryAdd offer).run rest).lines[number]? = some line ↔ _
      rw [ih]
      by_cases used : list.numberFor offer ∈ list.lines
      · rw [taken_cons_of_mem used, tryAdd_of_mem used]
      · rw [taken_cons_of_not_mem used, lines_tryAdd_of_not_mem used, Table.getElem?_insert_eq,
          List.mem_cons, Prod.mk.injEq, ← or_assoc]
        refine or_congr_left ?_
        by_cases own : number = list.numberFor offer
        · subst own
          have free : list.lines[list.numberFor offer]? = none :=
            ExtTreeMap.getElem?_eq_none used
          simp [free, eq_comm]
        · simp [own]

/-- Runs that take the same lines under the same numbers lead to the same list. -/
theorem run_eq_of_taken_perm (tidy : list.Tidy) {others : List LineOffer}
    (same : (list.taken others).Perm (list.taken offers)) : list.run others = list.run offers := by
  apply (tidy.run others).eq_of_lines_eq (tidy.run offers)
  · rw [name_run, name_run]
  · refine ExtTreeMap.ext_getElem? fun number => Option.ext fun line => ?_
    rw [getElem?_run_iff, getElem?_run_iff, same.mem_iff]

theorem length_taken_le (list : PrefixList) (offers : List LineOffer) :
    (list.taken offers).length ≤ offers.length := by
  induction offers generalizing list with
  | nil => exact Nat.le_refl _
  | cons offer rest ih =>
      by_cases used : list.numberFor offer ∈ list.lines
      · rw [taken_cons_of_mem used]
        exact Nat.le_succ_of_le (ih list)
      · rw [taken_cons_of_not_mem used]
        exact Nat.succ_le_succ (ih _)

/-- Lines with numbers of their own are all taken exactly if these numbers differ and none of them
is in use. -/
theorem taken_numbered_eq_self_iff {lines : List (UInt32 × PrefixListLine)} :
    list.taken (lines.map .numbered) = lines ↔
      (lines.map Prod.fst).Nodup ∧ ∀ entry ∈ lines, entry.1 ∉ list.lines := by
  induction lines generalizing list with
  | nil => simp [taken]
  | cons entry lines ih =>
      have own : list.numberFor (.numbered entry) = entry.1 := rfl
      rw [List.map_cons, List.map_cons, List.nodup_cons, List.forall_mem_cons]
      by_cases used : entry.1 ∈ list.lines
      · rw [taken_cons_of_mem (own ▸ used)]
        have few := list.length_taken_le (lines.map .numbered)
        refine iff_of_false (fun all => ?_) fun all => all.2.1 used
        rw [all, List.length_map, List.length_cons] at few
        exact Nat.not_succ_le_self _ few
      · have apart : (∀ other ∈ lines, other.1 ∉ (list.tryAdd (.numbered entry)).lines) ↔
            entry.1 ∉ lines.map Prod.fst ∧ ∀ other ∈ lines, other.1 ∉ list.lines := by
          simp only [lines_tryAdd_of_not_mem (own ▸ used), own, ExtTreeMap.mem_insert,
            LawfulEqOrd.compare_eq_iff_eq, not_or, List.mem_map, not_exists, not_and]
          exact ⟨fun all => ⟨fun other member same => (all other member).1 same.symm,
            fun other member => (all other member).2⟩,
            fun ⟨new, unused⟩ other member =>
              ⟨fun same => new other member same.symm, unused other member⟩⟩
        rw [taken_cons_of_not_mem (own ▸ used), List.cons_eq_cons, ih, apart]
        tauto

/-- The lines that are taken would also be taken under the numbers that they are given. -/
theorem taken_numbered_taken (list : PrefixList) (offers : List LineOffer) :
    list.taken ((list.taken offers).map .numbered) = list.taken offers := by
  induction offers generalizing list with
  | nil => rfl
  | cons offer rest ih =>
      by_cases used : list.numberFor offer ∈ list.lines
      · rw [taken_cons_of_mem used, ih]
      · have again : list.numberFor (.numbered (list.numberFor offer, offer.line)) ∉ list.lines :=
          used
        rw [taken_cons_of_not_mem used, List.map_cons, taken_cons_of_not_mem again]
        exact congrArg (_ :: ·) (ih (list.tryAdd offer))

theorem nodup_taken (list : PrefixList) (offers : List LineOffer) :
    ((list.taken offers).map Prod.fst).Nodup :=
  (taken_numbered_eq_self_iff.mp (list.taken_numbered_taken offers)).1

/-- Lines with numbers of their own that are offered one after the other and all taken may be
offered in any order. -/
theorem run_numbered_perm (tidy : list.Tidy) {lines reordered : List (UInt32 × PrefixListLine)}
    (all : list.taken (lines.map .numbered) = lines) (perm : reordered.Perm lines) :
    list.run (reordered.map .numbered) = list.run (lines.map .numbered) := by
  obtain ⟨distinct, unused⟩ := taken_numbered_eq_self_iff.mp all
  have all_again : list.taken (reordered.map .numbered) = reordered :=
    taken_numbered_eq_self_iff.mpr
      ⟨(perm.map Prod.fst).nodup_iff.mpr distinct,
        fun entry member => unused entry (perm.mem_iff.mp member)⟩
  refine run_eq_of_taken_perm tidy ?_
  rwa [all, all_again]

end Runs

/-- Of the given lines that match a block, this one has the least number. -/
def Least (lines : List (UInt32 × PrefixListLine)) (block : Prefix)
    (number : UInt32) (line : PrefixListLine) : Prop :=
  (number, line) ∈ lines ∧ line.Matches block ∧
    ∀ other rival, (other, rival) ∈ lines → rival.Matches block → number ≤ other

/-- After a run on a new list, the line of the least number decides among those that were taken. -/
theorem decides_run_iff {name : String} {offers : List LineOffer} {block : Prefix}
    {line : PrefixListLine} :
    ((empty name).run offers).Decides block line ↔
      ∃ number, Least ((empty name).taken offers) block number line := by
  have listed : ∀ {number : UInt32} {line : PrefixListLine},
      ((empty name).run offers).lines[number]? = some line ↔
        (number, line) ∈ (empty name).taken offers := by
    intro number line
    rw [getElem?_run_iff]
    simp [empty]
  simp only [Decides, Least, listed, PrefixListLine.includes_iff, ← Bool.not_eq_true]
  refine exists_congr fun number => and_congr_right fun _ => and_congr_right fun _ => ?_
  exact ⟨fun none_below other rival member matches_too => UInt32.not_lt.mp fun below =>
      none_below other rival below member matches_too,
    fun least other rival below member matches_too =>
      UInt32.not_le.mpr below (least other rival member matches_too)⟩

/-- Of the lines that a new list takes, the one of the least number that matches decides, whatever
the order in which they were offered and whatever was refused. -/
theorem run_decides_by_least_number (name : String) (offers : List LineOffer) :
    (((empty name).taken offers).map Prod.fst).Nodup ∧
    (∀ block, ((empty name).run offers).toRouteFilterList.permits block = true ↔
      ∃ number line, Least ((empty name).taken offers) block number line ∧
        line.action = .permit) ∧
    (∀ others, ((empty name).taken others).Perm ((empty name).taken offers) →
      (empty name).run others = (empty name).run offers) ∧
    (∀ (lines reordered : List (UInt32 × PrefixListLine)) (rest : List LineOffer),
      ((empty name).run offers).taken (lines.map .numbered) = lines → reordered.Perm lines →
      (empty name).run (offers ++ reordered.map .numbered ++ rest) =
        (empty name).run (offers ++ lines.map .numbered ++ rest)) ∧
    ∀ (refused : LineOffer) (cause : DeviceError) (rest : List LineOffer),
      (((empty name).run offers).addLine refused.number refused.line).2 = .error cause →
      (empty name).run (offers ++ refused :: rest) = (empty name).run (offers ++ rest) := by
  refine ⟨nodup_taken _ offers, fun block => ?_,
    fun others same => run_eq_of_taken_perm (tidy_empty name) same, ?_, ?_⟩
  · rw [permits_toRouteFilterList, permits_iff]
    simp only [decides_run_iff]
    constructor
    · rintro ⟨line, ⟨number, least⟩, permits⟩
      exact ⟨number, line, least, permits⟩
    · rintro ⟨number, line, least, permits⟩
      exact ⟨line, ⟨number, least⟩, permits⟩
  · intro lines reordered rest all perm
    have tidy := (tidy_empty name).run offers
    simp only [run_append, run_numbered_perm tidy all perm]
  · intro refused cause rest error
    rw [run_append, run_append]
    exact congrArg (·.run rest) (tryAdd_of_error error)

end PrefixList
end NeutralRouting
