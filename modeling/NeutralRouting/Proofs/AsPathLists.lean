import NeutralRouting.Filter.AttributeList
import NeutralRouting.Proofs.PatternSearch
import NeutralRouting.Proofs.PrefixText

/-!
# AS-path lists over paths

An AS path is written as its numbers with single spaces in between.  The pattern of a line is found
in this text exactly if the number of the line is one of the path, so a translated list is decided
by the first line whose AS is on the path.
-/

namespace NeutralRouting

open Pattern

/-- The token stands in the text with separators around it, or an end of the text in their
place. -/
def StandsIn (separator : Char) (token text : List Char) : Prop :=
  ∃ before after, text = before ++ token ++ after ∧
    (before = [] ∨ ∃ front, before = front ++ [separator]) ∧
    (after = [] ∨ ∃ back, after = separator :: back)

section Tokens

variable {separator : Char} {token text : List Char} {pieces : List (List Char)}

theorem splitOn_append_cons (separator : Char) (front back : List Char) :
    (front ++ separator :: back).splitOn separator =
      front.splitOn separator ++ back.splitOn separator :=
  List.splitOnP_append_cons front back (beq_self_eq_true separator)

/-- A piece of a joined text stands between its separators. -/
theorem standsIn_intercalate (member : token ∈ pieces) :
    StandsIn separator token ([separator].intercalate pieces) := by
  induction pieces with
  | nil => cases member
  | cons piece pieces ih =>
      by_cases last : pieces = []
      · subst last
        rw [List.mem_singleton] at member
        subst member
        exact ⟨[], [], by simp, .inl rfl, .inl rfl⟩
      · rw [List.intercalate_cons_of_ne_nil last]
        rcases List.mem_cons.mp member with rfl | later
        · exact ⟨[], separator :: [separator].intercalate pieces, by simp, .inl rfl,
            .inr ⟨_, rfl⟩⟩
        · obtain ⟨before, after, joined, front, back⟩ := ih later
          refine ⟨piece ++ separator :: before, after, by simp [joined], .inr ?_, back⟩
          rcases front with rfl | ⟨front, rfl⟩
          · exact ⟨piece, rfl⟩
          · exact ⟨piece ++ separator :: front, by simp⟩

/-- A token without separators stands in a text exactly if it is one of the pieces between
them. -/
theorem standsIn_iff_mem_splitOn (free : separator ∉ token) :
    StandsIn separator token text ↔ token ∈ text.splitOn separator := by
  constructor
  · have whole : token.splitOn separator = [token] := List.splitOn_eq_singleton free
    rintro ⟨_, _, rfl, rfl | ⟨front, rfl⟩, rfl | ⟨back, rfl⟩⟩ <;>
      simp [splitOn_append_cons, whole]
  · intro member
    have rejoined : [separator].intercalate (text.splitOn separator) = text :=
      List.intercalate_splitOn separator
    rw [← rejoined]
    exact standsIn_intercalate member

end Tokens

/-- An AS path in writing. -/
def asPathText (path : List UInt32) : String := " ".intercalate (path.map toString)

theorem splitOn_asPathText {path : List UInt32} (nonempty : path ≠ []) :
    (asPathText path).toList.splitOn ' ' = path.map (·.toNat.repr.toList) := by
  have joined : (asPathText path).toList = [' '].intercalate (path.map (·.toNat.repr.toList)) := by
    rw [asPathText, String.toList_intercalate, List.map_map]
    rfl
  rw [joined]
  refine List.splitOn_intercalate ' ' (fun piece member => ?_) (by simpa using nonempty)
  obtain ⟨asn, -, rfl⟩ := List.mem_map.mp member
  exact not_mem_toList_repr (by decide) asn.toNat

/-- The numbers between the spaces are those of the path. -/
theorem standsIn_asPathText_iff {path : List UInt32} {asn : UInt32} :
    StandsIn ' ' asn.toNat.repr.toList (asPathText path).toList ↔ asn ∈ path := by
  rw [standsIn_iff_mem_splitOn (not_mem_toList_repr (by decide) asn.toNat)]
  by_cases empty : path = []
  · subst empty
    simp [asPathText]
  · rw [splitOn_asPathText empty, List.mem_map]
    constructor
    · rintro ⟨other, member, same⟩
      have numbers := Nat.repr_injective (String.toList_inj.mp same)
      rwa [← UInt32.toNat_inj.mp numbers]
    · intro member
      exact ⟨asn, member, rfl⟩

/-- A space, or what the given pattern describes instead. -/
def Pattern.spaceOr (anchor : Pattern) : Pattern :=
  either (seq anchor nothing) (seq (literal ' ') nothing)

/-- The pattern of the line for a numeral. -/
def asPathSearch (numeral : List Char) : Pattern :=
  sequence ([spaceOr start] ++ (numeral.map literal ++ [spaceOr finish]))

theorem ofText?_asPathPattern (asn : UInt32) :
    ofText? (asPathPattern asn) = some (asPathSearch asn.toNat.repr.toList) := by
  have written : (asPathPattern asn).toList =
      "(^| )".toList ++ (asn.toNat.repr.toList ++ "($| )".toList) := by
    change (("(^| )" ++ toString asn) ++ "($| )").toList = _
    rw [String.toList_append, String.toList_append, List.append_assoc]
    rfl
  exact ofText?_around_numeral written (Decimal.numeral_repr asn.toNat).all_isDigit rfl
    fun _ => rfl

section Matching

variable {before part after : List Char}

theorem Pattern.matches_spaceOr {anchor : Pattern} :
    (spaceOr anchor).Matches before part after ↔
      anchor.Matches before part after ∨ part = [' '] :=
  or_congr matches_seq_nothing matches_seq_nothing

/-- The pattern describes the numeral together with the spaces that it finds around it. -/
theorem matches_asPathSearch {numeral : List Char} :
    (asPathSearch numeral).Matches before part after ↔
      ∃ left right, part = left ++ (numeral ++ right) ∧
        ((before = [] ∧ left = []) ∨ left = [' ']) ∧
        ((right = [] ∧ after = []) ∨ right = [' ']) := by
  simp only [asPathSearch, matches_sequence_append, matches_sequence_literals,
    matches_sequence_singleton, matches_spaceOr]
  constructor
  · rintro ⟨left, _, rfl, opening, _, right, rfl, rfl, closing⟩
    exact ⟨left, right, rfl, opening, closing⟩
  · rintro ⟨left, right, rfl, opening, closing⟩
    exact ⟨left, _, rfl, opening, numeral, right, rfl, rfl, closing⟩

/-- The pattern is found where the numeral stands between spaces or ends. -/
theorem foundIn_asPathSearch_iff {numeral : List Char} {text : String} :
    (asPathSearch numeral).FoundIn text ↔ StandsIn ' ' numeral text.toList := by
  simp only [FoundIn, matches_asPathSearch, StandsIn]
  constructor
  · rintro ⟨before, _, after, whole, left, right, rfl, opening, closing⟩
    refine ⟨before ++ left, right ++ after, by simp [whole], ?_, ?_⟩
    · rcases opening with ⟨rfl, rfl⟩ | rfl
      · exact .inl rfl
      · exact .inr ⟨before, rfl⟩
    · rcases closing with ⟨rfl, rfl⟩ | rfl
      · exact .inl rfl
      · exact .inr ⟨after, rfl⟩
  · rintro ⟨before, after, whole, opening, closing⟩
    have cut_before : ∃ front left, before = front ++ left ∧
        ((front = [] ∧ left = []) ∨ left = [' ']) := by
      rcases opening with rfl | ⟨front, rfl⟩
      · exact ⟨[], [], rfl, .inl ⟨rfl, rfl⟩⟩
      · exact ⟨front, [' '], rfl, .inr rfl⟩
    have cut_after : ∃ right back, after = right ++ back ∧
        ((right = [] ∧ back = []) ∨ right = [' ']) := by
      rcases closing with rfl | ⟨back, rfl⟩
      · exact ⟨[], [], rfl, .inl ⟨rfl, rfl⟩⟩
      · exact ⟨[' '], back, rfl, .inr rfl⟩
    obtain ⟨front, left, rfl, opened⟩ := cut_before
    obtain ⟨right, back, rfl, closed⟩ := cut_after
    exact ⟨front, left ++ (numeral ++ right), back, by simp [whole], left, right, rfl, opened,
      closed⟩

end Matching

/-- The pattern of an AS is found in the paths that contain the AS, and in no others. -/
theorem finds_asPathPattern_iff {asn : UInt32} {path : List UInt32} :
    Finds (asPathPattern asn) (asPathText path) ↔ asn ∈ path := by
  rw [finds_iff (ofText?_asPathPattern asn), foundIn_asPathSearch_iff, standsIn_asPathText_iff]

/-- A line of an AS-path list as one of an access list. -/
def AsPathLine.toAccessLine (line : AsPathLine) : AsPathAccessLine :=
  ⟨line.action, asPathPattern line.asn⟩

/-- The first line of an access list whose pattern is found in a path, if there is one. -/
inductive AsPathAccessList.Decides (list : AsPathAccessList) (path : List UInt32) :
    Option AsPathAccessLine → Prop where
  | line {line : AsPathAccessLine} {earlier later : List AsPathAccessLine}
      (split : list.lines = earlier ++ line :: later)
      (found : Finds line.regex (asPathText path))
      (first : ∀ other ∈ earlier, ¬Finds other.regex (asPathText path)) :
      Decides list path (some line)
  | nothing (unfound : ∀ line ∈ list.lines, ¬Finds line.regex (asPathText path)) :
      Decides list path none

section Decision

variable {path : List UInt32} {result : Option AsPathAccessLine}

/-- A test that agrees with the patterns finds the deciding line. -/
theorem AsPathAccessList.decides_iff_find? {list : AsPathAccessList}
    {test : AsPathAccessLine → Bool}
    (agrees : ∀ line ∈ list.lines, test line = true ↔ Finds line.regex (asPathText path)) :
    list.Decides path result ↔ list.lines.find? test = result := by
  constructor
  · intro decides
    cases decides with
    | @line line earlier later split found first =>
        rw [split] at agrees
        refine List.find?_eq_some_iff_append.mpr
          ⟨(agrees line (by simp)).mpr found, earlier, later, split, fun other member => ?_⟩
        have unfound := mt (agrees other (by simp [member])).mp (first other member)
        simpa using unfound
    | nothing unfound =>
        exact List.find?_eq_none.mpr fun line member =>
          mt (agrees line member).mp (unfound line member)
  · rintro rfl
    cases search : list.lines.find? test with
    | none =>
        exact .nothing fun line member =>
          mt (agrees line member).mpr (List.find?_eq_none.mp search line member)
    | some line =>
        obtain ⟨passes, earlier, later, split, first⟩ := List.find?_eq_some_iff_append.mp search
        rw [split] at agrees
        refine .line split ((agrees line (by simp)).mp passes) fun other member => ?_
        have fails : ¬test other = true := by simpa using first other member
        exact mt (agrees other (by simp [member])).mpr fails

/-- The access list is decided by the first line of the device whose AS is on the path. -/
theorem AsPathList.decides_toAccessList_iff {list : AsPathList} :
    list.toAccessList.Decides path result ↔
      (list.lines.find? (·.asn ∈ path)).map AsPathLine.toAccessLine = result := by
  classical
  have tests : (fun line : AsPathAccessLine => decide (Finds line.regex (asPathText path))) ∘
      AsPathLine.toAccessLine = fun line => decide (line.asn ∈ path) := by
    funext line
    exact decide_eq_decide.mpr finds_asPathPattern_iff
  have lines : list.toAccessList.lines = list.lines.map AsPathLine.toAccessLine := rfl
  rw [AsPathAccessList.decides_iff_find? fun _ _ => decide_eq_true_iff, lines, List.find?_map,
    tests]

/-- The line that decides a path is the translation of the first one whose AS is an element of the
path, whatever digits the other numbers have. -/
theorem AsPathList.toAccessList_looks_for_numbers (list : AsPathList) (path : List UInt32) :
    (∀ line, list.toAccessList.Decides path (some line) ↔
      ∃ earlier first later, list.lines = earlier ++ first :: later ∧ first.asn ∈ path ∧
        (∀ other ∈ earlier, other.asn ∉ path) ∧
        line.action = first.action ∧ line.regex = asPathPattern first.asn) ∧
    (list.toAccessList.Decides path none ↔ ∀ line ∈ list.lines, line.asn ∉ path) ∧
    (∀ asn, Finds (asPathPattern asn) (asPathText path) ↔ asn ∈ path) := by
  refine ⟨fun line => ?_, ?_, fun _ => finds_asPathPattern_iff⟩
  · rw [AsPathList.decides_toAccessList_iff, Option.map_eq_some_iff]
    constructor
    · rintro ⟨first, search, rfl⟩
      obtain ⟨member, earlier, later, split, unfound⟩ := List.find?_eq_some_iff_append.mp search
      refine ⟨earlier, first, later, split, of_decide_eq_true member, fun other listed => ?_, rfl,
        rfl⟩
      simpa using unfound other listed
    · rintro ⟨earlier, first, later, split, member, unfound, action, regex⟩
      refine ⟨first, List.find?_eq_some_iff_append.mpr
        ⟨decide_eq_true member, earlier, later, split, fun other listed => ?_⟩, ?_⟩
      · simpa using unfound other listed
      · cases line
        rw [AsPathLine.toAccessLine, ← action, ← regex]
  · rw [AsPathList.decides_toAccessList_iff, Option.map_eq_none_iff, List.find?_eq_none]
    simp only [decide_eq_true_iff]

/-- Neither an AS whose number starts with 650 nor one whose number ends with it is 650. -/
example {path : List UInt32} (others : ∀ asn ∈ path, asn = 65001 ∨ asn = 1650) :
    ¬Finds (asPathPattern 650) (asPathText path) := by
  rw [finds_asPathPattern_iff]
  intro member
  exact absurd (others 650 member) (by decide)

end Decision

end NeutralRouting
