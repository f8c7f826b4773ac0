import Mathlib.Tactic.IntervalCases
import NeutralRouting.Proofs.Numerals
import NeutralRouting.Text.Pattern

/-!
# Searching texts by written patterns

How the digits of a written pattern are read, and what is described by a sequence of patterns, by
the characters of a text and by a run of digits.
-/

namespace NeutralRouting
namespace Pattern

/-- The written pattern can be read, and some part of the text is described by it. -/
def Finds (written text : String) : Prop :=
  ∃ pattern, ofText? written = some pattern ∧ pattern.FoundIn text

theorem finds_iff {written text : String} {pattern : Pattern}
    (reads : ofText? written = some pattern) : Finds written text ↔ pattern.FoundIn text := by
  rw [Finds, reads]
  simp

section Reading

variable {group : Group} {outer : List Group}

/-- A digit stands for itself. -/
theorem Reading.next?_digit {character : Char} (isDigit : character.isDigit = true) :
    next? ⟨false, group, outer⟩ character =
      some ⟨false, group.push (literal character), outer⟩ := by
  obtain ⟨digit, digit_lt, rfl⟩ := Decimal.exists_digitChar_eq isDigit
  interval_cases digit <;> rfl

/-- Digits are read as the items that stand for them. -/
theorem Reading.foldlM_digits {text : List Char} (digits : text.all Char.isDigit = true) :
    text.foldlM next? ⟨false, group, outer⟩ =
      some ⟨false, ⟨group.alternatives, (text.map literal).reverse ++ group.items⟩, outer⟩ := by
  induction text generalizing group with
  | nil => rfl
  | cons character text ih =>
      rw [List.all_cons, Bool.and_eq_true] at digits
      rw [List.foldlM_cons, next?_digit digits.1, Option.bind_eq_bind, Option.bind_some,
        ih digits.2, List.map_cons, List.reverse_cons, List.append_assoc]
      rfl

/-- A written pattern around a numeral, whose opening is read as some items and whose closing as
one. -/
theorem ofText?_around_numeral {written : String} {opening numeral closing : List Char}
    {front : List Pattern} {last : Pattern}
    (split : written.toList = opening ++ (numeral ++ closing))
    (digits : numeral.all Char.isDigit = true)
    (opened : opening.foldlM Reading.next? .initial = some ⟨false, ⟨[], front.reverse⟩, []⟩)
    (closed : ∀ items, closing.foldlM Reading.next? ⟨false, ⟨[], items⟩, []⟩ =
      some ⟨false, ⟨[], last :: items⟩, []⟩) :
    ofText? written = some (sequence (front ++ (numeral.map literal ++ [last]))) := by
  have read : written.toList.foldlM Reading.next? .initial =
      some ⟨false, ⟨[], last :: ((numeral.map literal).reverse ++ front.reverse)⟩, []⟩ := by
    rw [split, List.foldlM_append, opened, Option.bind_eq_bind, Option.bind_some,
      List.foldlM_append, Reading.foldlM_digits digits, Option.bind_eq_bind, Option.bind_some,
      closed]
  rw [ofText?, read, Option.bind_some, Reading.finished?]
  simp [Group.pattern, Group.current]

end Reading

section Matching

variable {before part after text : List Char} {item : Pattern}

/-- What follows nothing else in a sequence is described alone. -/
theorem matches_seq_nothing :
    (seq item nothing).Matches before part after ↔ item.Matches before part after := by
  constructor
  · rintro ⟨left, _, rfl, first, rfl⟩
    rwa [List.append_nil]
  · intro first
    exact ⟨part, [], (List.append_nil part).symm, first, rfl⟩

theorem matches_sequence_singleton :
    (sequence [item]).Matches before part after ↔ item.Matches before part after :=
  matches_seq_nothing

/-- A sequence describes what can be cut into parts for its two halves. -/
theorem matches_sequence_append {front back : List Pattern} :
    (sequence (front ++ back)).Matches before part after ↔
      ∃ left right, part = left ++ right ∧ (sequence front).Matches before left (right ++ after) ∧
        (sequence back).Matches (before ++ left) right after := by
  induction front generalizing before part with
  | nil =>
      constructor
      · intro rest
        exact ⟨[], part, rfl, rfl, by rwa [List.append_nil]⟩
      · rintro ⟨_, right, rfl, rfl, rest⟩
        rwa [List.append_nil] at rest
  | cons item front ih =>
      constructor
      · rintro ⟨left, rest, rfl, first, later⟩
        obtain ⟨middle, right, rfl, second, third⟩ := ih.mp later
        refine ⟨left ++ middle, right, (List.append_assoc _ _ _).symm,
          ⟨left, middle, rfl, ?_, second⟩, ?_⟩
        · rwa [← List.append_assoc]
        · rwa [← List.append_assoc]
      · rintro ⟨_, right, rfl, ⟨left, middle, rfl, first, second⟩, third⟩
        refine ⟨left, middle ++ right, List.append_assoc _ _ _, ?_, ih.mpr ?_⟩
        · rwa [List.append_assoc]
        · rw [← List.append_assoc] at third
          exact ⟨middle, right, rfl, second, third⟩

/-- The characters of a text one after the other describe that text. -/
theorem matches_sequence_literals :
    (sequence (text.map literal)).Matches before part after ↔ part = text := by
  induction text generalizing before part with
  | nil => exact Iff.rfl
  | cons character text ih =>
      constructor
      · rintro ⟨_, rest, rfl, rfl, later⟩
        rw [ih.mp later]
        rfl
      · rintro rfl
        exact ⟨[character], text, rfl, rfl, ih.mpr rfl⟩

/-- A repeated digit describes a run of digits. -/
theorem matches_oneOrMore_digit :
    (oneOrMore digit).Matches before part after ↔ part ≠ [] ∧ part.all Char.isDigit = true := by
  constructor
  · intro pieces
    change Pieces _ before part after at pieces
    induction pieces with
    | one single =>
        obtain ⟨character, isDigit, rfl⟩ := single
        simpa using isDigit
    | more head _ ih =>
        obtain ⟨character, isDigit, rfl⟩ := head
        simpa [isDigit] using ih.2
  · rintro ⟨nonempty, digits⟩
    change Pieces _ before part after
    induction part generalizing before with
    | nil => exact absurd rfl nonempty
    | cons character rest ih =>
        rw [List.all_cons, Bool.and_eq_true] at digits
        by_cases last : rest = []
        · subst last
          exact .one ⟨character, digits.1, rfl⟩
        · change Pieces _ before ([character] ++ rest) after
          exact .more ⟨character, digits.1, rfl⟩ (ih last digits.2)

end Matching
end Pattern
end NeutralRouting
