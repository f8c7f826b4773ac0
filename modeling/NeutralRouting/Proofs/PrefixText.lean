import NeutralRouting.Proofs.NetworkText
import NeutralRouting.Proofs.Numerals
import NeutralRouting.Proofs.PrefixCovering

/-!
# Reading and writing prefixes

Dotted quads and prefixes as grammars over the characters of a text.  A text is read as a prefix
exactly if it has the form of one, and the prefix then is the one of that address and length; the
written form of a prefix has that form, so it is read as the prefix it was written for.
-/

namespace NeutralRouting

/-- Cutting a text at a separator leaves no separator in the pieces. -/
theorem not_mem_of_mem_splitOn {separator : Char} {text piece : List Char}
    (member : piece ∈ text.splitOn separator) : separator ∉ piece := by
  induction text generalizing piece with
  | nil =>
      rw [List.splitOn_nil, List.mem_singleton] at member
      simp [member]
  | cons character text ih =>
      rw [List.splitOn_cons_eq_if_modifyHead] at member
      split at member
      · rcases List.mem_cons.mp member with empty | later
        · simp [empty]
        · exact ih later
      case isFalse other =>
        obtain ⟨front, rest, pieces⟩ :=
          List.exists_cons_of_ne_nil (List.splitOn_ne_nil separator text)
        rw [pieces] at member ih
        rcases List.mem_cons.mp member with first | later
        · have distinct : separator ≠ character := fun same => other (by simp [same])
          rw [first, List.mem_cons, not_or]
          exact ⟨distinct, ih List.mem_cons_self⟩
        · exact ih (List.mem_cons_of_mem _ later)

/-- A text is cut into certain pieces if it consists of them with separators in between. -/
theorem splitOn_eq_iff {separator : Char} {text : List Char} {pieces : List (List Char)}
    (nonempty : pieces ≠ []) :
    text.splitOn separator = pieces ↔
      text = [separator].intercalate pieces ∧ ∀ piece ∈ pieces, separator ∉ piece := by
  constructor
  · intro split
    subst split
    exact ⟨(List.intercalate_splitOn separator).symm, fun _ => not_mem_of_mem_splitOn⟩
  · intro ⟨joined, free⟩
    rw [joined]
    exact List.splitOn_intercalate separator free nonempty

theorem splitOn_eq_pair_iff {separator : Char} {text left right : List Char} :
    text.splitOn separator = [left, right] ↔
      text = left ++ separator :: right ∧ separator ∉ left ∧ separator ∉ right := by
  rw [splitOn_eq_iff (by simp)]
  simp [List.intercalate]

namespace Address

/-- One to three digits that stand for a number up to 255. -/
structure Octet (text : List Char) (value : Nat) : Prop where
  numeral : Decimal.Numeral text value
  length_le : text.length ≤ 3
  value_le : value ≤ 255

/-- An octet without leading zeros. -/
structure PlainOctet (text : List Char) (value : Nat) : Prop extends Octet text value where
  plain : Decimal.Plain text

/-- Four octets with dots in between, and the address that they stand for. -/
inductive Quad (octet : List Char → Nat → Prop) : List Char → Address → Prop
  | octets {first second third fourth : List Char} {a b c d : Nat} :
      octet first a → octet second b → octet third c → octet fourth d →
      Quad octet (first ++ '.' :: (second ++ '.' :: (third ++ '.' :: fourth))) (ofOctets a b c d)

variable {text : List Char} {value : Nat} {address : Address}

theorem paddedOctet?_eq_some_iff : paddedOctet? text = some value ↔ Octet text value := by
  rw [paddedOctet?, Decimal.readAtMost?_eq_some_iff]
  exact ⟨fun ⟨numeral, short, small⟩ => ⟨numeral, short, small⟩,
    fun ⟨numeral, short, small⟩ => ⟨numeral, short, small⟩⟩

theorem octet?_eq_some_iff : octet? text = some value ↔ PlainOctet text value := by
  rw [octet?, Option.ite_none_left_eq_some, Bool.not_eq_true, Decimal.hasLeadingZero_eq_false_iff,
    paddedOctet?_eq_some_iff]
  exact ⟨fun ⟨plain, octet⟩ => ⟨octet, plain⟩, fun ⟨octet, plain⟩ => ⟨plain, octet⟩⟩

theorem Octet.not_mem (octet : Octet text value) {separator : Char}
    (other : separator.isDigit = false) : separator ∉ text :=
  octet.numeral.not_mem other

/-- The octets of an address are written as octets without leading zeros. -/
theorem plainOctet_repr (small : value < 256) : PlainOctet value.repr.toList value where
  numeral := Decimal.numeral_repr value
  length_le := Decimal.length_repr_le (by decide) (by omega)
  value_le := by omega
  plain := Decimal.plain_repr value

theorem ofOctets_octets (address : Address) :
    ofOctets (address.toNat / 16777216) (address.toNat / 65536 % 256) (address.toNat / 256 % 256)
      (address.toNat % 256) = address := by
  rw [ofOctets, toNat_eq_octets]
  exact eq_of_toNat_eq (toNat_ofNat address.toNat_lt)

/-- The text of an address is a quad for it. -/
theorem quad_text (address : Address) : Quad PlainOctet address.text.toList address := by
  have bound : address.toNat < 4294967296 := address.toNat_lt
  have first : address.toNat / 16777216 < 256 := by omega
  have later (value : Nat) : value % 256 < 256 := Nat.mod_lt value (by decide)
  have quad := Quad.octets (plainOctet_repr first) (plainOctet_repr (later (address.toNat / 65536)))
    (plainOctet_repr (later (address.toNat / 256))) (plainOctet_repr (later address.toNat))
  rwa [ofOctets_octets, ← toList_text] at quad

theorem Quad.imp {octet weaker : List Char → Nat → Prop}
    (weaken : ∀ {text value}, octet text value → weaker text value)
    (quad : Quad octet text address) : Quad weaker text address := by
  cases quad with
  | octets first second third fourth =>
      exact .octets (weaken first) (weaken second) (weaken third) (weaken fourth)

theorem Quad.not_mem {octet : List Char → Nat → Prop} {separator : Char}
    (free : ∀ {text value}, octet text value → separator ∉ text) (other : separator ≠ '.')
    (quad : Quad octet text address) : separator ∉ text := by
  cases quad with
  | octets first second third fourth =>
      simp [free first, free second, free third, free fourth, other]

/-- A text is read as a quad exactly if it is one, as far as its octets are. -/
theorem ofQuad?_eq_some_iff {read : List Char → Option Nat} {octet : List Char → Nat → Prop}
    (reads : ∀ {text value}, read text = some value ↔ octet text value)
    (free : ∀ {text value}, octet text value → '.' ∉ text) :
    ofQuad? read text = some address ↔ Quad octet text address := by
  constructor
  · intro accepted
    rw [ofQuad?] at accepted
    split at accepted
    case h_1 first second third fourth pieces =>
      simp only [bind, pure, Option.bind_eq_some_iff, reads, Option.some.injEq] at accepted
      obtain ⟨a, octet_a, b, octet_b, c, octet_c, d, octet_d, address_eq⟩ := accepted
      rw [splitOn_eq_iff (by simp)] at pieces
      have joined : text = first ++ '.' :: (second ++ '.' :: (third ++ '.' :: fourth)) := by
        simpa [List.intercalate] using pieces.1
      rw [joined, ← address_eq]
      exact .octets octet_a octet_b octet_c octet_d
    case h_2 => cases accepted
  · intro quad
    cases quad with
    | @octets first second third fourth a b c d octet_a octet_b octet_c octet_d =>
        have pieces : (first ++ '.' :: (second ++ '.' :: (third ++ '.' :: fourth))).splitOn '.' =
            [first, second, third, fourth] := by
          rw [splitOn_eq_iff (by simp)]
          simp [List.intercalate, free octet_a, free octet_b, free octet_c, free octet_d]
        rw [ofQuad?, pieces]
        simp [reads.mpr octet_a, reads.mpr octet_b, reads.mpr octet_c, reads.mpr octet_d]

theorem ofQuad?_paddedOctet?_eq_some_iff :
    ofQuad? paddedOctet? text = some address ↔ Quad Octet text address :=
  ofQuad?_eq_some_iff paddedOctet?_eq_some_iff fun octet => octet.not_mem (by decide)

theorem ofQuad?_octet?_eq_some_iff :
    ofQuad? octet? text = some address ↔ Quad PlainOctet text address :=
  ofQuad?_eq_some_iff octet?_eq_some_iff fun octet => octet.not_mem (by decide)

end Address

namespace Prefix

/-- Four octets with dots in between, a slash, and one or two digits that stand for a length up to
32.  Leading zeros are allowed. -/
inductive Form : List Char → Address → Nat → Prop
  | quad {quad numeral : List Char} {address : Address} {length : Nat} :
      Address.Quad Address.Octet quad address → Decimal.Numeral numeral length →
      numeral.length ≤ 2 → length ≤ 32 → Form (quad ++ '/' :: numeral) address length

variable {text : List Char} {block : Prefix} {address : Address} {length : Nat}

theorem Form.length_le (form : Form text address length) : length ≤ 32 := by
  cases form with
  | quad _ _ _ length_le => exact length_le

theorem make_toOption_eq_some_iff :
    (make address length).toOption = some block ↔
      block.length = length ∧ block.Truncates address := by
  rw [← make_eq_ok_iff]
  cases make address length <;> simp [Except.toOption]

/-- Exactly the texts of the form of a prefix are read, each as the prefix of its address and
length. -/
theorem ofChars?_eq_some_iff :
    ofChars? text = some block ↔
      ∃ address, Form text address block.length ∧ block.Truncates address := by
  constructor
  · intro accepted
    rw [ofChars?] at accepted
    split at accepted
    case h_1 quad numeral pieces =>
      simp only [bind, Option.bind_eq_some_iff, Address.ofQuad?_paddedOctet?_eq_some_iff,
        Decimal.readAtMost?_eq_some_iff, make_toOption_eq_some_iff] at accepted
      obtain ⟨address, is_quad, _, ⟨is_numeral, short, small⟩, rfl, truncates⟩ := accepted
      rw [(splitOn_eq_pair_iff.mp pieces).1]
      exact ⟨address, .quad is_quad is_numeral short small, truncates⟩
    case h_2 => cases accepted
  · intro ⟨address, form, truncates⟩
    cases form with
    | @quad quad numeral _ _ is_quad is_numeral short small =>
        have pieces : (quad ++ '/' :: numeral).splitOn '/' = [quad, numeral] :=
          splitOn_eq_pair_iff.mpr ⟨rfl,
            is_quad.not_mem (fun octet => octet.not_mem (by decide)) (by decide),
            is_numeral.not_mem (by decide)⟩
        rw [ofChars?, pieces]
        simp only [bind, Option.bind_eq_some_iff, Address.ofQuad?_paddedOctet?_eq_some_iff,
          Decimal.readAtMost?_eq_some_iff, make_toOption_eq_some_iff]
        exact ⟨address, is_quad, block.length, ⟨is_numeral, short, small⟩, rfl, truncates⟩

/-- A text of the form of a prefix is read. -/
theorem Form.exists_ofChars? (form : Form text address length) :
    ∃ block, ofChars? text = some block ∧ block.length = length ∧ block.Truncates address := by
  have truncates := ofAddress_truncates address form.length_le
  exact ⟨ofAddress address length form.length_le,
    ofChars?_eq_some_iff.mpr ⟨address, form, truncates⟩, rfl, truncates⟩

theorem ofChars?_eq_none_iff :
    ofChars? text = none ↔ ∀ address length, ¬Form text address length := by
  rw [Option.eq_none_iff_forall_ne_some]
  constructor
  · intro refused address length form
    obtain ⟨block, accepted, -⟩ := form.exists_ofChars?
    exact refused block accepted
  · intro formless block accepted
    obtain ⟨address, form, -⟩ := ofChars?_eq_some_iff.mp accepted
    exact formless address block.length form

theorem ofText_eq_ok_iff {text : String} :
    ofText text = .ok block ↔ ofChars? text.toList = some block := by
  rw [ofText]
  cases ofChars? text.toList <;> simp

/-- A text that is not read is refused as a whole. -/
theorem ofText_eq_error_iff {text : String} {cause : NetError} :
    ofText text = .error cause ↔ ofChars? text.toList = none ∧ cause = .notPrefix text := by
  rw [ofText]
  cases ofChars? text.toList <;> simp [eq_comm]

/-- The text of a prefix has the form of a prefix. -/
theorem form_text (block : Prefix) : Form block.text.toList block.network block.length := by
  have bound := block.length_le
  rw [toList_text]
  exact .quad (block.network.quad_text.imp Address.PlainOctet.toOctet) (Decimal.numeral_repr _)
    (Decimal.length_repr_le (by decide) (by omega)) bound

theorem ofText_text (block : Prefix) : ofText block.text = .ok block := by
  rw [ofText_eq_ok_iff, ofChars?_eq_some_iff]
  exact ⟨block.network, block.form_text, block.truncates_network⟩

/-- A text is read exactly if it has the form of a prefix, as the prefix with its host bits cleared,
and any other text is refused as a whole. -/
theorem ofText_reads_prefix_forms :
    (∀ block : Prefix, ofText block.text = .ok block) ∧
    (∀ (text : String) (address : Address) (length : Nat), Form text.toList address length →
      ∃ block, ofText text = .ok block ∧ block.length = length ∧ block.Truncates address ∧
        make address length = .ok block) ∧
    (∀ (text : String) (block : Prefix), ofText text = .ok block →
      (∃ address, Form text.toList address block.length ∧ block.Truncates address) ∧
        ofText block.text = ofText text) ∧
    (∀ (text : String) (cause : NetError), ofText text = .error cause ↔
      (∀ address length, ¬Form text.toList address length) ∧ cause = .notPrefix text) ∧
    ∀ first second : Prefix, first.text = second.text → first = second := by
  refine ⟨ofText_text, fun text address length form => ?_, fun text block accepted => ?_,
    fun text cause => ?_, fun first second => text_injective⟩
  · obtain ⟨block, accepted, length_eq, truncates⟩ := form.exists_ofChars?
    exact ⟨block, ofText_eq_ok_iff.mpr accepted, length_eq, truncates,
      make_eq_ok_iff.mpr ⟨length_eq, truncates⟩⟩
  · exact ⟨ofChars?_eq_some_iff.mp (ofText_eq_ok_iff.mp accepted),
      (ofText_text block).trans accepted.symm⟩
  · rw [ofText_eq_error_iff, ofChars?_eq_none_iff]

example : ofText "010.1.2.3/08" = .ok (.ofAddress (.ofOctets 10 0 0 0) 8 (by decide)) := by decide

end Prefix
end NeutralRouting
