import Mathlib.Data.Multiset.ZeroCons
import NeutralRouting.Proofs.Effects
import NeutralRouting.Proofs.Result

/-!
# The order of attaching neighbors

Neighbors can be attached in any order.  Their effects do not depend on one another, and the changes
in these effects commute, so every order fails or all of them lead to the same configuration.  The
warnings are the same, too, up to their order.
-/

namespace NeutralRouting

open Std Conversion

namespace Warnings

/-- Record a warning among others whose order does not matter. -/
def noteIn (recorded : Multiset String) (warning : String) : Multiset String :=
  if startsWith vniOpening warning = true ∧ warning ∈ recorded then recorded
  else warning ::ₘ recorded

theorem coe_entries_note (warnings : Warnings) (warning : String) :
    ((warnings.note warning).entries : Multiset String) = noteIn warnings.entries warning := by
  have flagged : ((warnings.flag warning).entries : Multiset String) =
      warning ::ₘ warnings.entries :=
    Multiset.coe_eq_coe.mpr (List.perm_append_singleton _ _)
  simp only [note, noteIn, Multiset.mem_coe, flagOnce]
  split
  · next about_vni =>
      simp only [about_vni, true_and]
      split
      · rfl
      · exact flagged
  · next other =>
      rw [if_neg fun both => other both.1]
      exact flagged

theorem mem_noteIn_iff_of_ne {first second : String} (different : first ≠ second)
    (recorded : Multiset String) : first ∈ noteIn recorded second ↔ first ∈ recorded := by
  rw [noteIn]
  split
  · rfl
  · rw [Multiset.mem_cons, or_iff_right different]

/-- Two warnings can be recorded in either order. -/
theorem noteIn_comm (recorded : Multiset String) (first second : String) :
    noteIn (noteIn recorded first) second = noteIn (noteIn recorded second) first := by
  by_cases same : first = second
  · rw [same]
  · have last : ∀ {front back : String}, back ≠ front → noteIn (noteIn recorded front) back =
        if startsWith vniOpening back = true ∧ back ∈ recorded then noteIn recorded front
        else back ::ₘ noteIn recorded front := by
      intro front back different
      conv_lhs => rw [noteIn]
      simp only [mem_noteIn_iff_of_ne different]
    rw [last (Ne.symm same), last same, noteIn, noteIn]
    split_ifs
    · rfl
    · rfl
    · rfl
    · exact Multiset.cons_swap _ _ _

/-- The order in which warnings are recorded does not matter up to their order. -/
theorem entries_foldl_note_perm {texts others : List String} (permuted : texts.Perm others)
    (warnings : Warnings) :
    (texts.foldl note warnings).entries.Perm (others.foldl note warnings).entries := by
  have collected : ∀ (texts : List String) (warnings : Warnings),
      ((texts.foldl note warnings).entries : Multiset String) =
        texts.foldl noteIn warnings.entries := by
    intro texts
    induction texts with
    | nil => exact fun _ => rfl
    | cons text texts ih =>
        intro warnings
        rw [List.foldl_cons, List.foldl_cons, ih, coe_entries_note]
  rw [← Multiset.coe_eq_coe, collected, collected]
  exact permuted.foldl_eq' (fun first _ second _ recorded => noteIn_comm recorded first second) _

end Warnings

section Effects

variable {device : Device} {params : ConversionParams} {inst : BgpInstance}
  {settings : NeighborSettings} {effects order : List Effect} {before after : Progress}

theorem keepsApart_exportChanges (inst : BgpInstance) (settings : NeighborSettings) :
    ∀ change ∈ exportChanges inst settings, change.KeepsApart := by
  intro change member
  rcases List.mem_append.mp member with default_route | exported
  · split at default_route
    · rw [List.mem_singleton.mp default_route]
      trivial
    · cases default_route
  · rw [List.mem_singleton.mp exported]
    intro vrf peer same
    have texts : (GeneratedName.peerExport inst.vrf settings.name).text =
        (GeneratedName.defaultRoute .v4 vrf peer).text := same
    cases (GeneratedName.kind_fields_of_text_eq texts).1

theorem keepsApart_importChanges (inst : BgpInstance) (settings : NeighborSettings) :
    ∀ change ∈ importChanges inst settings, change.KeepsApart := by
  intro change member
  obtain ⟨policy, used, rfl⟩ := List.mem_map.mp member
  obtain ⟨routeMap, -, rfl⟩ := Option.map_eq_some_iff.mp (Option.mem_toList.mp used)
  intro vrf peer same
  have texts : (GeneratedName.peerImport inst.vrf settings.name).text =
      (GeneratedName.defaultRoute .v4 vrf peer).text := same
  cases (GeneratedName.kind_fields_of_text_eq texts).1

/-- The changes for all neighbors commute. -/
theorem keepsApart_of_attachment? {configuration : Configuration} {pair : BgpInstance × Neighbor}
    {effect : Effect} (known : attachment? device params configuration pair = some effect) :
    ∀ change ∈ effect.changes, change.KeepsApart := by
  obtain ⟨inst, neighbor⟩ := pair
  rw [attachment?] at known
  split at known
  · cases known
    exact fun change member => absurd member List.not_mem_nil
  · split at known
    · cases known
      exact fun change member => absurd member List.not_mem_nil
    · obtain ⟨remoteAsns, -, rfl⟩ := Option.map_eq_some_iff.mp known
      intro change member
      rcases List.mem_append.mp member with policies | peer
      · rcases List.mem_append.mp policies with exported | imported
        · exact keepsApart_exportChanges _ _ change exported
        · exact keepsApart_importChanges _ _ change imported
      · rw [List.mem_singleton.mp peer]
        trivial

/-- Effects lead to the same configuration in every order, with the same warnings up to their
order. -/
theorem Effect.exists_run?_of_perm (permuted : effects.Perm order)
    (apart : ∀ change ∈ (all effects).changes, change.KeepsApart)
    (ran : (all effects).run? before = some after) :
    ∃ other, (all order).run? before = some other ∧
      other.configuration = after.configuration ∧
      other.warnings.entries.Perm after.warnings.entries := by
  obtain ⟨configuration, made, rfl⟩ := Option.map_eq_some_iff.mp ran
  have changes : (all effects).changes.Perm (all order).changes :=
    permuted.flatMap_right fun effect : Effect => effect.changes
  have warnings : (all order).warnings.Perm (all effects).warnings :=
    permuted.symm.flatMap_right fun effect : Effect => effect.warnings
  rw [PeerChange.makeAll?_perm changes apart] at made
  refine ⟨⟨configuration, (all order).warnings.foldl Warnings.note before.warnings⟩, ?_, rfl,
    Warnings.entries_foldl_note_perm warnings before.warnings⟩
  rw [run?, made, Option.map_some]

end Effects

section Order

variable {device : Device} {params : ConversionParams} {instances : BgpInstances}
  {first second : List (BgpInstance × Neighbor)} {before after : Progress}

/-- If neighbors can be attached in one order, they can be attached in every other order, with the
same result. -/
theorem exists_run_of_perm (permuted : first.Perm second)
    (run : (attachAll device params first).runFrom before = (.ok (), after)) :
    ∃ other, (attachAll device params second).runFrom before = (.ok (), other) ∧
      other.configuration = after.configuration ∧
      other.warnings.entries.Perm after.warnings.entries := by
  obtain ⟨known, ran⟩ := runFrom_attachAll_eq_ok_iff.mp run
  have apart : ∀ change ∈ (effectsOf device params before.configuration first).changes,
      change.KeepsApart := by
    intro change member
    obtain ⟨effect, listed, own⟩ := List.mem_flatMap.mp member
    obtain ⟨pair, -, attached⟩ := List.mem_filterMap.mp listed
    exact keepsApart_of_attachment? attached change own
  obtain ⟨other, ran_again, same, warnings⟩ := Effect.exists_run?_of_perm
    (permuted.filterMap (attachment? device params before.configuration)) apart ran
  refine ⟨other, runFrom_attachAll_eq_ok_iff.mpr ⟨fun pair member => ?_, ran_again⟩, same,
    warnings⟩
  exact known pair (permuted.mem_iff.mpr member)

/-- Attaching the neighbors in another order succeeds exactly when attaching them in the given one
does, with the same result and the same warnings. -/
theorem attachNeighbors_perm (permuted : first.Perm instances.neighbors) :
    ((∃ after, (attachAll device params first).runFrom before = (.ok (), after)) ↔
        ∃ after, (attachNeighbors device params instances).runFrom before = (.ok (), after)) ∧
      ∀ reordered after, (attachAll device params first).runFrom before = (.ok (), reordered) →
        (attachNeighbors device params instances).runFrom before = (.ok (), after) →
        reordered.configuration = after.configuration ∧
          reordered.warnings.entries.Perm after.warnings.entries := by
  refine ⟨⟨?_, ?_⟩, ?_⟩
  · rintro ⟨after, run⟩
    obtain ⟨other, run, -⟩ := exists_run_of_perm permuted run
    exact ⟨other, run⟩
  · rintro ⟨after, run⟩
    obtain ⟨other, run, -⟩ := exists_run_of_perm permuted.symm run
    exact ⟨other, run⟩
  · intro reordered after run run_given
    obtain ⟨other, other_run, same, warnings⟩ := exists_run_of_perm permuted run
    cases other_run.symm.trans run_given
    exact ⟨same.symm, warnings.symm⟩

/-- The neighbors of the leaf switch can also be attached from the last one to the first. -/
theorem attachNeighbors_leafSwitch_reversed :
    leafInstances.neighbors.map (·.2.settings.name) = ["192.0.2.1", "SPINE", "swp1", "swp9"] ∧
      ∃ skeleton built reordered after : Progress,
        (buildSkeleton leafSwitch).runFrom (.initial "leaf") = (.ok (), skeleton) ∧
        (buildProcesses leafSwitch .standard leafInstances).runFrom skeleton = (.ok (), built) ∧
        (attachAll leafSwitch .standard leafInstances.neighbors.reverse).runFrom built =
          (.ok (), reordered) ∧
        (attachNeighbors leafSwitch .standard leafInstances).runFrom built = (.ok (), after) ∧
        reordered.configuration = after.configuration ∧
        reordered.warnings.entries.Perm after.warnings.entries := by
  refine ⟨by decide +kernel, ?_⟩
  obtain ⟨skeleton, built, after, skeleton_run, build_run, attach_run⟩ := leafSwitch_attaches
  have reversed := leafInstances.neighbors.reverse_perm
  have same := @attachNeighbors_perm leafSwitch .standard leafInstances _ built reversed
  obtain ⟨reordered, reversed_run⟩ := same.1.mpr ⟨after, attach_run⟩
  exact ⟨skeleton, built, reordered, after, skeleton_run, build_run, reversed_run, attach_run,
    same.2 reordered after reversed_run attach_run⟩

end Order
end NeutralRouting
