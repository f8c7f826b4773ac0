import NeutralRouting.Proofs.GeneratedName
import NeutralRouting.Proofs.PrefixRange
import Std.Data.String.ToNat

/-!
# Texts of addresses and prefixes

Numerals are made of digits, so the separators between them can be found again: different addresses
and different prefixes have different texts.  Generated names end with a free field, which may be
such a text; they differ wherever one of their fields does.
-/

namespace NeutralRouting

/-- A numeral is made of digits. -/
theorem not_mem_toList_repr {separator : Char} (other : separator.isDigit = false) (number : Nat) :
    separator ∉ number.repr.toList := by
  intro member
  rw [Nat.toList_repr] at member
  rw [Nat.isDigit_of_mem_toDigits (by decide) (by decide) member] at other
  cases other

/-- Two numerals with a separator after them are cut in one way only. -/
theorem repr_cons_inj {separator : Char} (other : separator.isDigit = false) {first second : Nat}
    {back rest : List Char}
    (same : first.repr.toList ++ separator :: back = second.repr.toList ++ separator :: rest) :
    first = second ∧ back = rest := by
  obtain ⟨numerals, rests⟩ := append_cons_inj_of_not_mem (not_mem_toList_repr other first)
    (not_mem_toList_repr other second) same
  exact ⟨Nat.repr_injective (String.toList_inj.mp numerals), rests⟩

namespace Address

theorem toList_text (address : Address) :
    address.text.toList =
      (address.toNat / 16777216).repr.toList ++ '.' ::
        ((address.toNat / 65536 % 256).repr.toList ++ '.' ::
          ((address.toNat / 256 % 256).repr.toList ++ '.' ::
            (address.toNat % 256).repr.toList)) := by
  rw [text, String.toList_intercalate]
  simp [octets, List.intercalate]

/-- The value of an address is put together from its octets. -/
theorem toNat_eq_octets (value : Nat) :
    ((value / 16777216 * 256 + value / 65536 % 256) * 256 + value / 256 % 256) * 256 +
      value % 256 = value := by
  omega

theorem text_injective {first second : Address} (same : first.text = second.text) :
    first = second := by
  have chars : first.text.toList = second.text.toList := by rw [same]
  rw [toList_text, toList_text] at chars
  obtain ⟨octet_a, chars⟩ := repr_cons_inj (by decide) chars
  obtain ⟨octet_b, chars⟩ := repr_cons_inj (by decide) chars
  obtain ⟨octet_c, chars⟩ := repr_cons_inj (by decide) chars
  have octet_d := Nat.repr_injective (String.toList_inj.mp chars)
  apply eq_of_toNat_eq
  rw [← toNat_eq_octets first.toNat, ← toNat_eq_octets second.toNat, octet_a, octet_b, octet_c,
    octet_d]

theorem slash_not_mem_text (address : Address) : '/' ∉ address.text.toList := by
  have digits := @not_mem_toList_repr '/' (by decide)
  rw [toList_text]
  simp only [List.mem_append, List.mem_cons, digits, false_or, or_false]
  decide

end Address

namespace Prefix

theorem toList_text (block : Prefix) :
    block.text.toList = block.network.text.toList ++ '/' :: block.length.repr.toList := by
  change (block.network.text ++ "/" ++ block.length.repr).toList = _
  rw [String.toList_append, String.toList_append, List.append_assoc]
  rfl

theorem text_injective {first second : Prefix} (same : first.text = second.text) :
    first = second := by
  have chars : first.text.toList = second.text.toList := by rw [same]
  rw [toList_text, toList_text] at chars
  obtain ⟨networks, lengths⟩ := append_cons_inj_of_not_mem first.network.slash_not_mem_text
    second.network.slash_not_mem_text chars
  exact eq_of_network_eq (Address.text_injective (String.toList_inj.mp networks))
    (Nat.repr_injective (String.toList_inj.mp lengths))

theorem colon_not_mem_text (block : Prefix) : ':' ∉ block.text.toList := by
  have digits := @not_mem_toList_repr ':' (by decide)
  rw [toList_text, Address.toList_text]
  simp only [List.mem_append, List.mem_cons, digits, false_or, or_false]
  decide

end Prefix

/-- A list is cut at the last separator in one way only. -/
theorem append_cons_inj_of_not_mem_right {α : Type} {separator : α} {front other back rest : List α}
    (back_free : separator ∉ back) (rest_free : separator ∉ rest)
    (same : front ++ separator :: back = other ++ separator :: rest) :
    front = other ∧ back = rest := by
  have reversed : back.reverse ++ separator :: front.reverse =
      rest.reverse ++ separator :: other.reverse := by
    simpa using congrArg List.reverse same
  obtain ⟨backs, fronts⟩ := append_cons_inj_of_not_mem (by simpa using back_free)
    (by simpa using rest_free) reversed
  exact ⟨List.reverse_inj.mp fronts, List.reverse_inj.mp backs⟩

namespace GeneratedName

/-- Aggregates with the same name are the same.  Even a VRF name with colons is found again, since
the text of a prefix has none. -/
theorem eq_of_aggregate_text_eq {version other : IpVersion} {vrf another : String}
    {block network : Prefix}
    (same : (aggregate version vrf block.text).text =
      (aggregate other another network.text).text) :
    version = other ∧ vrf = another ∧ block = network := by
  obtain ⟨kinds, fields⟩ := kind_fields_of_text_eq same
  have ended : vrf.toList ++ ':' :: (block.text.toList ++ ['~']) =
      another.toList ++ ':' :: (network.text.toList ++ ['~']) := fields
  have block_free : ':' ∉ block.text.toList ++ ['~'] := by simp [block.colon_not_mem_text]
  have network_free : ':' ∉ network.text.toList ++ ['~'] := by simp [network.colon_not_mem_text]
  obtain ⟨vrfs, blocks⟩ := append_cons_inj_of_not_mem_right block_free network_free ended
  refine ⟨Kind.aggregate.inj kinds, String.toList_inj.mp vrfs, Prefix.text_injective ?_⟩
  exact String.toList_inj.mp (List.append_cancel_right blocks)

/-- As long as VRF names are free of colons, two names are the same exactly if they are of the same
kind and all their fields are the same. -/
theorem text_eq_text_iff :
    (∀ first second : GeneratedName, ':' ∉ first.vrf.toList → ':' ∉ second.vrf.toList →
      (first.text = second.text ↔ first = second)) ∧
    ∀ (version other : IpVersion) (vrf another : String) (block network : Prefix),
      (aggregate version vrf block.text).text = (aggregate other another network.text).text →
      version = other ∧ vrf = another ∧ block = network := by
  refine ⟨fun first second first_free second_free => ⟨?_, congrArg text⟩, ?_⟩
  · exact eq_of_text_eq first_free second_free
  · exact fun _ _ _ _ _ _ => eq_of_aggregate_text_eq

/-- Delimiters in the last fields do not make different names the same. -/
theorem text_ne_of_delimiters :
    (peerExport "blue" "swp1:IPv4~").text ≠ (peerExport "blue" ":swp1~").text ∧
      (defaultRoute .v4 "blue" "IPv6:swp1").text ≠ (defaultRoute .v6 "blue" "swp1").text ∧
      (aggregate .v4 "blue" (Prefix.ofAddress (.ofOctets 10 0 0 0) 8 (by decide)).text).text ≠
        (aggregate .v4 "blue" Prefix.root.text).text := by
  have blue : ':' ∉ "blue".toList := by decide
  refine ⟨fun same => ?_, fun same => ?_, fun same => ?_⟩
  · exact absurd ((text_eq_text_iff.1 (peerExport _ _) (peerExport _ _) blue blue).mp same)
      (by decide)
  · exact absurd ((text_eq_text_iff.1 (defaultRoute _ _ _) (defaultRoute _ _ _) blue blue).mp same)
      (by decide)
  · exact absurd (text_eq_text_iff.2 _ _ _ _ _ _ same).2.2 (by decide)

end GeneratedName
end NeutralRouting
