import NeutralRouting.Proofs.PatternSearch
import NeutralRouting.Proofs.VniWarnings

/-!
# Import patterns of route targets

A VRF imports the routes whose targets have the VNI of the VRF, whatever AS announces them.  The
written form of a target has a single colon, so the pattern of a VNI is found in the targets with
this value and in no others.
-/

namespace NeutralRouting

open Pattern Std

/-- The pattern of the VNI with a numeral. -/
def targetSearch (numeral : List Char) : Pattern :=
  sequence ([start, oneOrMore digit, literal ':'] ++ (numeral.map literal ++ [finish]))

theorem ofText?_importPattern (vni : UInt32) :
    ofText? (RouteTarget.importPattern vni) = some (targetSearch vni.toNat.repr.toList) := by
  have written : (RouteTarget.importPattern vni).toList =
      "^\\d+:".toList ++ (vni.toNat.repr.toList ++ "$".toList) := by
    change (("^\\d+:" ++ toString vni) ++ "$").toList = _
    rw [String.toList_append, String.toList_append, List.append_assoc]
    rfl
  exact ofText?_around_numeral written (Decimal.numeral_repr vni.toNat).all_isDigit rfl
    fun _ => rfl

theorem RouteTarget.toList_text (target : RouteTarget) :
    target.text.toList = target.asn.toNat.repr.toList ++ ':' :: target.value.toNat.repr.toList := by
  change ((toString target.asn ++ ":") ++ toString target.value).toList = _
  rw [String.toList_append, String.toList_append, List.append_assoc]
  rfl

/-- The pattern describes a whole text of digits, a colon and the numeral. -/
theorem matches_targetSearch_iff {numeral before part after : List Char} :
    (targetSearch numeral).Matches before part after ↔
      before = [] ∧ after = [] ∧
        ∃ digits, part = digits ++ ':' :: numeral ∧ digits ≠ [] ∧
          digits.all Char.isDigit = true := by
  change (sequence ([start] ++ ([oneOrMore digit] ++ ([literal ':'] ++
    (numeral.map literal ++ [finish]))))).Matches before part after ↔ _
  simp only [matches_sequence_append, matches_sequence_singleton, matches_sequence_literals,
    matches_oneOrMore_digit]
  constructor
  · rintro ⟨_, _, rfl, ⟨rfl, rfl⟩, digits, _, rfl, run, _, _, rfl, rfl, _, _, rfl, rfl, rfl, rfl⟩
    refine ⟨rfl, rfl, digits, ?_, run⟩
    simp
  · rintro ⟨rfl, rfl, digits, rfl, run⟩
    exact ⟨[], _, rfl, ⟨rfl, rfl⟩, digits, _, rfl, run, [':'], numeral, rfl, rfl, numeral, [],
      (List.append_nil numeral).symm, rfl, rfl, rfl⟩

theorem foundIn_targetSearch_iff {numeral : List Char} {text : String} :
    (targetSearch numeral).FoundIn text ↔
      ∃ digits, text.toList = digits ++ ':' :: numeral ∧ digits ≠ [] ∧
        digits.all Char.isDigit = true := by
  simp only [FoundIn, matches_targetSearch_iff]
  constructor
  · rintro ⟨_, part, _, whole, rfl, rfl, digits, rfl, run⟩
    refine ⟨digits, ?_, run⟩
    rw [whole, List.nil_append, List.append_nil]
  · rintro ⟨digits, whole, run⟩
    refine ⟨[], _, [], ?_, rfl, rfl, digits, rfl, run⟩
    rw [whole, List.nil_append, List.append_nil]

/-- The pattern of a VNI is found in the route targets with its value, and in no others. -/
theorem finds_importPattern_iff {vni : UInt32} {target : RouteTarget} :
    Finds (RouteTarget.importPattern vni) target.text ↔ target.value = vni := by
  have asn := Decimal.numeral_repr target.asn.toNat
  rw [finds_iff (ofText?_importPattern vni), foundIn_targetSearch_iff, target.toList_text]
  constructor
  · rintro ⟨digits, split, nonempty, all_digits⟩
    have other := Decimal.numeral_ofDigitChars nonempty all_digits
    obtain ⟨-, numerals⟩ := append_cons_inj_of_not_mem (asn.not_mem (by decide))
      (other.not_mem (by decide)) split
    exact UInt32.toNat_inj.mp (Nat.repr_injective (String.toList_inj.mp numerals))
  · rintro rfl
    exact ⟨_, rfl, asn.ne_nil, asn.all_isDigit⟩

section Announcements

variable {device : Device} {params : ConversionParams} {compile : RouteMapCompiler}
  {progress : Progress}

/-- Every address family of the result is that of some instance and neighbor. -/
theorem exists_evpnFamily?_of_convert {vrf : String} {family : EvpnFamily}
    (converted : device.convert params compile = .ok progress)
    (announces : progress.configuration.Announces vrf family) :
    ∃ configuration inst settings routerId exportPolicy,
      evpnFamily? device configuration inst settings routerId exportPolicy = some family := by
  obtain ⟨process, peer, serving, member, own⟩ := announces
  obtain ⟨instances, built, attached, -, attaches⟩ :=
    exists_attaches_of_bgpProcess? converted serving
  obtain ⟨inst, neighbor, -, -, -, became⟩ := attaches.exists_attachedPeer? serving member
  simp only [attachedPeer?, Option.bind_eq_bind, Option.bind_eq_some_iff, Option.pure_def,
    Option.some.injEq] at became
  obtain ⟨process, -, id, -, remoteAsns, -, rfl⟩ := became
  exact ⟨_, _, _, _, _, own⟩

/-- A routed VRF exports the route target of its VNI and imports by the pattern of its VNI. -/
theorem target_of_mem_layer3 {configuration : Configuration} {inst : BgpInstance}
    {settings : NeighborSettings} {routerId : Address} {exportPolicy : String}
    {family : EvpnFamily} {entry : Layer3Entry}
    (made : evpnFamily? device configuration inst settings routerId exportPolicy = some family)
    (member : entry ∈ family.layer3) :
    entry.importPattern = RouteTarget.importPattern entry.vni ∧
      ∃ asn, entry.target = .ofVni asn entry.vni := by
  obtain ⟨evpn, asn, own, active, -, layer3⟩ := exists_activation_of_evpnFamily? made
  rw [layer3, ExtTreeSet.mem_ofList, List.contains_iff_mem, List.mem_filterMap] at member
  obtain ⟨vrf, -, announced⟩ := member
  obtain ⟨vni, -, -, rfl⟩ := layer3Announcement?_eq_some_iff.mp announced
  exact ⟨rfl, asn, rfl⟩

/-- An import pattern accepts exactly the route targets of its VNI, so a routed VRF imports what any
AS exports for this VNI and nothing else. -/
theorem importPattern_accepts_own_vni :
    (∀ (vni : UInt32) (target : RouteTarget),
      Finds (RouteTarget.importPattern vni) target.text ↔ target.value = vni) ∧
    ∀ (device : Device) (params : ConversionParams) (compile : RouteMapCompiler)
      (progress : Progress), device.convert params compile = .ok progress →
      ∀ vrf family, progress.configuration.Announces vrf family → ∀ entry ∈ family.layer3,
        Finds entry.importPattern entry.target.text ∧
        ∀ asn vni, Finds entry.importPattern (RouteTarget.ofVni asn vni).text ↔
          vni = entry.vni := by
  refine ⟨fun _ _ => finds_importPattern_iff, ?_⟩
  intro device params compile progress converted vrf family announces entry member
  obtain ⟨_, _, _, _, _, made⟩ := exists_evpnFamily?_of_convert converted announces
  obtain ⟨pattern, asn, target⟩ := target_of_mem_layer3 made member
  rw [pattern, target]
  exact ⟨finds_importPattern_iff.mpr rfl, fun _ _ => finds_importPattern_iff⟩

/-- The switch announces the VRF of the VNI 4001, which imports what an AS with a long number
exports for this VNI but not what is exported for the VNI 14001. -/
theorem importPattern_accepts_overlaySwitch :
    ∃ progress, overlaySwitch.convert .standard entrywiseCompiler = .ok progress ∧
      ∃ family, progress.configuration.Announces defaultVrfName family ∧
      ∃ entry ∈ family.layer3, entry.vni = 4001 ∧
        Finds entry.importPattern (RouteTarget.ofVni 4200000000 4001).text ∧
        ¬Finds entry.importPattern (RouteTarget.ofVni 65001 14001).text := by
  have announcing : ((overlaySwitch.convert .standard entrywiseCompiler).toOption.bind
      (·.configuration.bgpProcess? defaultVrfName)).any
        (·.peers.any (·.evpn.any (·.layer3.toList.any (·.vni = 4001)))) = true := by
    decide +kernel
  obtain ⟨process, serving, announcing⟩ := (Option.any_eq_true _ _).mp announcing
  obtain ⟨progress, converted, serving⟩ := Option.bind_eq_some_iff.mp serving
  rw [toOption_eq_some_iff] at converted
  obtain ⟨peer, member, announcing⟩ := List.any_eq_true.mp announcing
  obtain ⟨family, own, announcing⟩ := (Option.any_eq_true _ _).mp announcing
  obtain ⟨entry, listed, vni⟩ := List.any_eq_true.mp announcing
  have announces : progress.configuration.Announces defaultVrfName family :=
    ⟨process, peer, serving, member, own⟩
  have is_vni := of_decide_eq_true vni
  obtain ⟨-, accepts⟩ := importPattern_accepts_own_vni.2 _ _ _ _ converted _ _ announces entry
    (ExtTreeSet.mem_toList.mp listed)
  refine ⟨progress, converted, family, announces, entry, ExtTreeSet.mem_toList.mp listed, is_vni,
    ?_, ?_⟩
  · rw [accepts, is_vni]
  · rw [accepts, is_vni]
    decide

end Announcements

end NeutralRouting
