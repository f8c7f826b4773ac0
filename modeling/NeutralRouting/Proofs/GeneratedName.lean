import NeutralRouting.Bgp.GeneratedName

/-!
# Generated names do not collide

The text of a generated name has a label that tells its kind, and fields after the first colon.
Names of different kinds differ whatever their fields are; names of one kind differ if their VRF
names are free of colons.
-/

namespace NeutralRouting

/-- A list is cut at the first separator in one way only. -/
theorem append_cons_inj_of_not_mem {α : Type} {separator : α} {front other back rest : List α}
    (front_free : separator ∉ front) (other_free : separator ∉ other)
    (same : front ++ separator :: back = other ++ separator :: rest) :
    front = other ∧ back = rest := by
  induction front generalizing other with
  | nil =>
      cases other with
      | nil => simpa using same
      | cons head other =>
          rw [List.nil_append, List.cons_append, List.cons.injEq] at same
          rw [same.1] at other_free
          exact absurd List.mem_cons_self other_free
  | cons head front ih =>
      rw [List.mem_cons, not_or] at front_free
      cases other with
      | nil =>
          rw [List.nil_append, List.cons_append, List.cons.injEq] at same
          exact absurd same.1.symm front_free.1
      | cons first other =>
          rw [List.mem_cons, not_or] at other_free
          rw [List.cons_append, List.cons_append, List.cons.injEq] at same
          obtain ⟨fronts, backs⟩ := ih front_free.2 other_free.2 same.2
          exact ⟨by rw [same.1, fronts], backs⟩

namespace GeneratedName

/-- The VRF that a name is about. -/
def vrf : GeneratedName → String
  | commonExport vrf => vrf
  | peerExport vrf _ => vrf
  | peerImport vrf _ => vrf
  | defaultRoute _ vrf _ => vrf
  | aggregate _ vrf _ => vrf
  | suppressed vrf => vrf

/-- The kinds of names. -/
inductive Kind where
  | commonExport
  | peerExport
  | peerImport
  | defaultRoute
  | aggregate (version : IpVersion)
  | suppressed
deriving DecidableEq

/-- The kind of a name. -/
def kind : GeneratedName → Kind
  | commonExport _ => .commonExport
  | peerExport _ _ => .peerExport
  | peerImport _ _ => .peerImport
  | defaultRoute _ _ _ => .defaultRoute
  | aggregate version _ _ => .aggregate version
  | suppressed _ => .suppressed

/-- What stands before the first colon. -/
def Kind.label : Kind → String
  | commonExport => "~BGP_COMMON_EXPORT_POLICY"
  | peerExport => "~BGP_PEER_EXPORT_POLICY"
  | peerImport => "~BGP_PEER_IMPORT_POLICY"
  | defaultRoute => "~BGP_DEFAULT_ROUTE_PEER_EXPORT_POLICY"
  | aggregate .v4 => "~AGGREGATE_ROUTE_GEN"
  | aggregate .v6 => "~AGGREGATE_ROUTE6_GEN"
  | suppressed => "~MATCH_SUPPRESSED_SUMMARY_ONLY"

theorem Kind.colon_not_mem_label (kind : Kind) : ':' ∉ kind.label.toList := by
  rcases kind with _ | _ | _ | _ | ⟨_ | _⟩ | _ <;> decide

theorem Kind.head?_label (kind : Kind) : kind.label.toList.head? = some '~' := by
  rcases kind with _ | _ | _ | _ | ⟨_ | _⟩ | _ <;> decide

theorem Kind.label_injective {first second : Kind} (same : first.label = second.label) :
    first = second := by
  rcases first with _ | _ | _ | _ | ⟨_ | _⟩ | _ <;>
    rcases second with _ | _ | _ | _ | ⟨_ | _⟩ | _ <;>
    first | rfl | exact absurd same (by decide)

/-- A first and a last field. -/
private def pairChars (first last : String) : List Char :=
  first.toList ++ ':' :: (last.toList ++ ['~'])

/-- What stands after the first colon. -/
def fields : GeneratedName → List Char
  | commonExport vrf => vrf.toList ++ ['~']
  | peerExport vrf peer => pairChars vrf peer
  | peerImport vrf peer => pairChars vrf peer
  | defaultRoute version vrf peer => version.text.toList ++ ':' :: pairChars vrf peer
  | aggregate _ vrf block => pairChars vrf block
  | suppressed vrf => vrf.toList ++ ['~']

private theorem toList_single (label vrf : String) :
    (label ++ ":" ++ vrf ++ "~").toList = label.toList ++ ':' :: (vrf.toList ++ ['~']) := by
  simp only [String.toList_append, List.append_assoc]
  rfl

private theorem toList_pair (label vrf peer : String) :
    (label ++ ":" ++ vrf ++ ":" ++ peer ++ "~").toList =
      label.toList ++ ':' :: pairChars vrf peer := by
  simp only [String.toList_append, List.append_assoc]
  rfl

theorem toList_text (name : GeneratedName) :
    name.text.toList = name.kind.label.toList ++ ':' :: name.fields := by
  cases name with
  | commonExport vrf => exact toList_single "~BGP_COMMON_EXPORT_POLICY" vrf
  | peerExport vrf peer => exact toList_pair "~BGP_PEER_EXPORT_POLICY" vrf peer
  | peerImport vrf peer => exact toList_pair "~BGP_PEER_IMPORT_POLICY" vrf peer
  | defaultRoute version vrf peer =>
      have front : ("~BGP_DEFAULT_ROUTE_PEER_EXPORT_POLICY" ++ ":" ++ version.text).toList =
          "~BGP_DEFAULT_ROUTE_PEER_EXPORT_POLICY".toList ++ ':' :: version.text.toList := by
        rw [String.toList_append, String.toList_append, List.append_assoc]
        rfl
      have whole := toList_pair ("~BGP_DEFAULT_ROUTE_PEER_EXPORT_POLICY" ++ ":" ++ version.text)
        vrf peer
      rw [front, List.append_assoc] at whole
      exact whole
  | aggregate version vrf block =>
      cases version with
      | v4 => exact toList_pair "~AGGREGATE_ROUTE_GEN" vrf block
      | v6 => exact toList_pair "~AGGREGATE_ROUTE6_GEN" vrf block
  | suppressed vrf => exact toList_single "~MATCH_SUPPRESSED_SUMMARY_ONLY" vrf

/-- The text of a name starts with a tilde. -/
theorem head?_text (name : GeneratedName) : name.text.toList.head? = some '~' := by
  rw [toList_text, List.head?_append, name.kind.head?_label]
  rfl

/-- Names with the same text are of the same kind and have the same fields. -/
theorem kind_fields_of_text_eq {first second : GeneratedName} (same : first.text = second.text) :
    first.kind = second.kind ∧ first.fields = second.fields := by
  have chars : first.text.toList = second.text.toList := by rw [same]
  rw [toList_text, toList_text] at chars
  obtain ⟨labels, fields⟩ := append_cons_inj_of_not_mem first.kind.colon_not_mem_label
    second.kind.colon_not_mem_label chars
  exact ⟨Kind.label_injective (String.toList_inj.mp labels), fields⟩

private theorem eq_of_single_eq {vrf other : String}
    (same : vrf.toList ++ ['~'] = other.toList ++ ['~']) : vrf = other :=
  String.toList_inj.mp (List.append_cancel_right same)

private theorem eq_of_pairChars_eq {vrf other peer another : String} (vrf_free : ':' ∉ vrf.toList)
    (other_free : ':' ∉ other.toList) (same : pairChars vrf peer = pairChars other another) :
    vrf = other ∧ peer = another := by
  obtain ⟨vrfs, peers⟩ := append_cons_inj_of_not_mem vrf_free other_free same
  exact ⟨String.toList_inj.mp vrfs, eq_of_single_eq peers⟩

private theorem colon_not_mem_version (version : IpVersion) :
    ':' ∉ version.text.toList := by
  cases version <;> decide

/-- Without colons in VRF names, different names have different texts. -/
theorem eq_of_text_eq {first second : GeneratedName} (first_free : ':' ∉ first.vrf.toList)
    (second_free : ':' ∉ second.vrf.toList) (same : first.text = second.text) :
    first = second := by
  obtain ⟨kinds, fields⟩ := kind_fields_of_text_eq same
  cases first <;> cases second <;> cases kinds
  case commonExport.commonExport.refl => rw [eq_of_single_eq fields]
  case suppressed.suppressed.refl => rw [eq_of_single_eq fields]
  case peerExport.peerExport.refl =>
    obtain ⟨rfl, rfl⟩ := eq_of_pairChars_eq first_free second_free fields
    rfl
  case peerImport.peerImport.refl =>
    obtain ⟨rfl, rfl⟩ := eq_of_pairChars_eq first_free second_free fields
    rfl
  case aggregate.aggregate.refl =>
    obtain ⟨rfl, rfl⟩ := eq_of_pairChars_eq first_free second_free fields
    rfl
  case defaultRoute.defaultRoute.refl version vrf peer other_version other another =>
    obtain ⟨versions, pairs⟩ := append_cons_inj_of_not_mem
      (colon_not_mem_version version) (colon_not_mem_version other_version) fields
    obtain ⟨rfl, rfl⟩ := eq_of_pairChars_eq first_free second_free pairs
    cases version <;> cases other_version <;> first | rfl | exact absurd versions (by decide)

/-- If two peers share the name for the default route, even by colons in VRF names, they share
that of the export policy. -/
theorem peerExport_text_eq_of_defaultRoute_text_eq {vrf peer other another : String}
    (same : (defaultRoute .v4 vrf peer).text = (defaultRoute .v4 other another).text) :
    (peerExport vrf peer).text = (peerExport other another).text := by
  have whole : IpVersion.v4.text.toList ++ ':' :: (peerExport vrf peer).fields =
      IpVersion.v4.text.toList ++ ':' :: (peerExport other another).fields :=
    (kind_fields_of_text_eq same).2
  have fields := (List.cons_inj_right ':').mp (List.append_cancel_left whole)
  rw [← String.toList_inj, toList_text, toList_text, fields]
  rfl

end GeneratedName
end NeutralRouting
