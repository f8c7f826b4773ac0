import Mathlib.Algebra.Group.Nat.Defs
import Mathlib.Data.List.Induction
import NeutralRouting.Text.Decimal

/-!
# Decimal numerals as a grammar

A numeral is a digit, or a numeral followed by a digit.  The reader accepts exactly the numerals,
whatever leading zeros they have, and gives their value; the written form of a number is a numeral
for it without leading zeros.
-/

namespace NeutralRouting
namespace Decimal

/-- One or more digits, the first one being the most significant, and the value they stand for. -/
inductive Numeral : List Char → Nat → Prop
  | digit {digit : Nat} (digit_lt : digit < 10) : Numeral [digit.digitChar] digit
  | append {text : List Char} {value digit : Nat} (numeral : Numeral text value)
      (digit_lt : digit < 10) : Numeral (text ++ [digit.digitChar]) (10 * value + digit)

/-- A zero is the only digit of a text that starts with it. -/
def Plain (text : List Char) : Prop := text.head? = some '0' → text = ['0']

variable {text : List Char} {value other : Nat}

theorem exists_digitChar_eq {character : Char} (isDigit : character.isDigit = true) :
    ∃ digit < 10, character = digit.digitChar := by
  rw [Char.isDigit, Bool.and_eq_true, decide_eq_true_iff, decide_eq_true_iff] at isDigit
  have lower : 48 ≤ character.toNat := UInt32.le_iff_toNat_le.mp isDigit.1
  have upper : character.toNat ≤ 57 := UInt32.le_iff_toNat_le.mp isDigit.2
  have digit_lt : character.toNat - 48 < 10 := by omega
  refine ⟨character.toNat - 48, digit_lt, Char.toNat_inj.mp ?_⟩
  rw [Nat.toNat_digitChar_of_lt_ten digit_lt]
  omega

namespace Numeral

theorem ne_nil (numeral : Numeral text value) : text ≠ [] := by
  cases numeral <;> simp

theorem all_isDigit (numeral : Numeral text value) : text.all Char.isDigit = true := by
  induction numeral with
  | digit digit_lt => simp [Nat.isDigit_digitChar, digit_lt]
  | append _ digit_lt ih => simp [Nat.isDigit_digitChar, digit_lt, ih]

theorem not_mem (numeral : Numeral text value) {separator : Char}
    (other : separator.isDigit = false) : separator ∉ text := by
  intro member
  rw [List.all_eq_true.mp numeral.all_isDigit separator member] at other
  cases other

theorem ofDigitChars_eq (numeral : Numeral text value) : Nat.ofDigitChars 10 text 0 = value := by
  induction numeral with
  | digit digit_lt => simp [Nat.ofDigitChars_cons_digitChar_of_lt_ten digit_lt]
  | append _ digit_lt ih =>
      rw [Nat.ofDigitChars_append, ih, Nat.ofDigitChars_cons_digitChar_of_lt_ten digit_lt,
        Nat.ofDigitChars_nil]

end Numeral

/-- Every text of digits is a numeral. -/
theorem numeral_ofDigitChars (nonempty : text ≠ []) (digits : text.all Char.isDigit = true) :
    Numeral text (Nat.ofDigitChars 10 text 0) := by
  induction text using List.reverseRecOn with
  | nil => exact absurd rfl nonempty
  | append_singleton front final ih =>
      rw [List.all_append, Bool.and_eq_true, List.all_cons, List.all_nil, Bool.and_true] at digits
      obtain ⟨digit, digit_lt, rfl⟩ := exists_digitChar_eq digits.2
      rw [Nat.ofDigitChars_append, Nat.ofDigitChars_cons_digitChar_of_lt_ten digit_lt,
        Nat.ofDigitChars_nil]
      by_cases short : front = []
      · subst short
        rw [List.nil_append, Nat.ofDigitChars_nil, Nat.mul_zero, Nat.zero_add]
        exact .digit digit_lt
      · exact .append (ih short digits.1) digit_lt

theorem read?_eq_some_iff : read? text = some value ↔ Numeral text value := by
  rw [read?, Option.ite_none_right_eq_some, Option.some.injEq]
  constructor
  · intro ⟨⟨nonempty, digits⟩, value_eq⟩
    rw [← value_eq]
    exact numeral_ofDigitChars nonempty digits
  · intro numeral
    exact ⟨⟨numeral.ne_nil, numeral.all_isDigit⟩, numeral.ofDigitChars_eq⟩

theorem readAtMost?_eq_some_iff {width bound : Nat} :
    readAtMost? width bound text = some value ↔
      Numeral text value ∧ text.length ≤ width ∧ value ≤ bound := by
  rw [readAtMost?, Option.ite_none_right_eq_some, Option.filter_eq_some_iff, read?_eq_some_iff,
    decide_eq_true_iff]
  exact and_left_comm

theorem Numeral.unique (numeral : Numeral text value) (also : Numeral text other) :
    value = other := by
  rw [← read?_eq_some_iff] at numeral also
  exact Option.some.inj (numeral.symm.trans also)

theorem hasLeadingZero_eq_false_iff : hasLeadingZero text = false ↔ Plain text := by
  match text with
  | [] => simp [hasLeadingZero, Plain]
  | [character] => simp [hasLeadingZero, Plain]
  | first :: second :: rest =>
      by_cases zero : first = '0'
      · subst zero
        simp [hasLeadingZero, Plain]
      · simp [hasLeadingZero, Plain, zero]

/-- The written form of a number is a numeral for it. -/
theorem numeral_repr (number : Nat) : Numeral number.repr.toList number := by
  induction number using Nat.strongRecOn with
  | ind number ih =>
      rcases Nat.lt_or_ge number 10 with small | large
      · rw [Nat.repr_of_lt small, String.toList_singleton]
        exact .digit small
      · have parts : 10 * (number / 10) + number % 10 = number := Nat.div_add_mod number 10
        have front := ih (number / 10) (by omega)
        have whole := front.append (Nat.mod_lt number (by decide))
        rw [Nat.repr_of_ge large, String.toList_append, String.toList_singleton]
        rwa [parts] at whole

/-- The written form of a number has no leading zeros. -/
theorem plain_repr (number : Nat) : Plain number.repr.toList := by
  induction number using Nat.strongRecOn with
  | ind number ih =>
      intro zero
      rcases Nat.lt_or_ge number 10 with small | large
      · rw [Nat.repr_of_lt small, String.toList_singleton] at zero ⊢
        exact congrArg (fun character => [character]) (Option.some.inj zero)
      · have front := numeral_repr (number / 10)
        rw [Nat.repr_of_ge large, String.toList_append, List.head?_append,
          List.head?_eq_some_head front.ne_nil, Option.some_or, ← List.head?_eq_some_head] at zero
        rw [ih (number / 10) (by omega) zero] at front
        have zero_numeral : Numeral ['0'] 0 := .digit (Nat.zero_lt_succ 9)
        have front_eq := front.unique zero_numeral
        omega

theorem length_repr_le {number width : Nat} (positive : 0 < width) (small : number < 10 ^ width) :
    number.repr.toList.length ≤ width := by
  rw [String.length_toList]
  exact (Nat.length_repr_le_iff positive).mpr small

end Decimal
end NeutralRouting
