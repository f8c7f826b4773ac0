import NeutralRouting.Proofs.Skeleton
import NeutralRouting.Proofs.UsedNames

/-!
# Building processes never fails

Every instance has a VRF of its own, and the names generated for an instance are those about its VRF
and no peer, so nothing that is registered for it is refused.
-/

namespace NeutralRouting

open Std Conversion

/-- The names that may be in use for the given instances: they are about the VRF of one of them, and
about no peer. -/
def UsedByInstances (device : Device) (done : List BgpInstance) (name : GeneratedName) : Prop :=
  name.peer? = none ∧ device.HasVrf name.vrf ∧ name.vrf ∈ done.map (·.vrf)

/-- Every VRF has at most one instance. -/
theorem BgpInstances.nodup_vrfs {device : Device} {instances : BgpInstances} (keyed : device.Keyed)
    (named : device.WellNamed) (runs_bgp : device.bgp = some instances) :
    (instances.all.map (·.vrf)).Nodup := by
  obtain ⟨is_default, no_other⟩ := named.defaultVrf instances runs_bgp
  have others := (keyed.bgp instances runs_bgp).vrfs
  rw [all, List.map_cons, List.nodup_cons, others.map_values, is_default]
  exact ⟨fun member => no_other (ExtTreeMap.mem_keys.mp member), ExtTreeMap.nodup_keys⟩

section Instances

variable {device : Device} {params : ConversionParams} {progress : Progress}
  {used : GeneratedName → Prop}

theorem addAggregate_succeeds (named : device.WellNamed)
    (uses : progress.configuration.UsesOnly device used) {vrf : String}
    (has_vrf : device.HasVrf vrf) {block : Prefix}
    (unused : ¬used (.aggregate .v4 vrf block.text)) (admin : UInt32) :
    Succeeds (addAggregate vrf admin block) progress fun _ after =>
      after.UsesOnly device fun name => name = .aggregate .v4 vrf block.text ∨ used name := by
  apply Succeeds.bind
    (addPolicy_succeeds named (.aggregate .v4 vrf block.text) rfl has_vrf uses unused)
  intro _ middle uses
  exact updateVrf_succeeds uses has_vrf _

/-- The policies of aggregates are registered one after the other, each under a new name. -/
theorem addAggregates_succeeds (named : device.WellNamed)
    (uses : progress.configuration.UsesOnly device used) {vrf : String}
    (has_vrf : device.HasVrf vrf) (unused : ∀ block, ¬used (.aggregate .v4 vrf block))
    (aggregates : AggregateTable) (admin : UInt32) :
    Succeeds (addAggregates vrf aggregates admin) progress fun _ after =>
      after.UsesOnly device fun name =>
        (∃ block : String, name = .aggregate .v4 vrf block) ∨ used name := by
  have distinct : (aggregates.keys.map id).Nodup := by
    rw [List.map_id]
    exact ExtTreeMap.nodup_keys
  have known : ∀ name, ((∃ block : String, name = .aggregate .v4 vrf block) ∨ used name) →
      device.HasVrf name.vrf := by
    rintro name (⟨block, rfl⟩ | own)
    · exact has_vrf
    · exact uses.known name own
  apply Succeeds.imp (Succeeds.forM (fun done after => after.UsesOnly device fun name =>
    (∃ block ∈ done, name = .aggregate .v4 vrf block.text) ∨ used name) ?each ?start)
  case each =>
    intro done block rest split before uses
    have fresh : ¬((∃ other ∈ done, GeneratedName.aggregate .v4 vrf block.text =
        .aggregate .v4 vrf other.text) ∨ used (.aggregate .v4 vrf block.text)) := by
      rintro (⟨other, earlier, same⟩ | own)
      · rw [GeneratedName.aggregate.injEq] at same
        rw [← Prefix.text_injective same.2.2] at earlier
        exact not_mem_map_of_split distinct split (List.mem_map_of_mem earlier)
      · exact unused _ own
    apply Succeeds.imp (addAggregate_succeeds named uses has_vrf fresh admin)
    intro _ after uses
    refine uses.imp (fun name => ?_) (fun name more => known name ?_)
    · rintro (rfl | ⟨other, earlier, rfl⟩ | own)
      · exact .inl ⟨block, by simp, rfl⟩
      · exact .inl ⟨other, by simp [earlier], rfl⟩
      · exact .inr own
    · exact more.imp_left fun ⟨other, _, same⟩ => ⟨other.text, same⟩
  case start =>
    refine uses.imp (fun name => .inr) fun name more => known name ?_
    exact more.imp_left fun ⟨other, _, same⟩ => ⟨other.text, same⟩
  intro _ after uses
  refine uses.imp (fun name more => ?_) known
  exact more.imp_left fun ⟨block, _, same⟩ => ⟨block.text, same⟩

theorem suppressSummarized_succeeds (named : device.WellNamed)
    (uses : progress.configuration.UsesOnly device used) {vrf : String}
    (has_vrf : device.HasVrf vrf) (unused : ¬used (.suppressed vrf)) (blocks : List Prefix) :
    Succeeds (suppressSummarized vrf blocks) progress fun _ after =>
      after.UsesOnly device fun name => name = .suppressed vrf ∨ used name := by
  rw [suppressSummarized]
  split
  · exact ⟨_, _, rfl, @uses.or_eq _ _ _ (.suppressed vrf) has_vrf⟩
  · apply Succeeds.bind
      (addRouteFilterList_succeeds named (.suppressed vrf) rfl has_vrf uses unused)
    intro _ middle uses
    exact ⟨_, _, rfl, uses⟩

theorem addCommonExportPolicy_succeeds (named : device.WellNamed)
    (uses : progress.configuration.UsesOnly device used) {inst : BgpInstance}
    (has_vrf : device.HasVrf inst.vrf) (unused_list : ¬used (.suppressed inst.vrf))
    (unused_policy : ¬used (.commonExport inst.vrf)) :
    Succeeds (addCommonExportPolicy device inst) progress fun _ after =>
      after.UsesOnly device fun name =>
        name = .commonExport inst.vrf ∨ name = .suppressed inst.vrf ∨ used name := by
  apply Succeeds.bind (suppressSummarized_succeeds named uses has_vrf unused_list _)
  intro suppress listed uses
  apply Succeeds.bind (.warnAll _ listed)
  rintro _ middle same
  rw [← same] at uses
  refine addPolicy_succeeds named (.commonExport inst.vrf) rfl has_vrf uses ?_
  rintro (different | own)
  · cases different
  · exact unused_policy own

/-- Nothing that is registered for an instance whose VRF exists is refused, if nothing about that
VRF is registered yet. -/
theorem addInstanceProcess_succeeds (named : device.WellNamed)
    (uses : progress.configuration.UsesOnly device used) {inst : BgpInstance}
    (has_vrf : device.HasVrf inst.vrf) (unused : ∀ name, name.vrf = inst.vrf → ¬used name)
    (defaultInstance : BgpInstance) :
    Succeeds (addInstanceProcess device params defaultInstance inst) progress fun _ after =>
      after.UsesOnly device fun name =>
        (name.peer? = none ∧ name.vrf = inst.vrf) ∨ used name := by
  apply Succeeds.bind_of_ok (runFrom_configuration progress)
  rw [if_pos ((uses.vrfs _).mpr has_vrf)]
  apply Succeeds.bind (addAggregates_succeeds named uses has_vrf (fun _ => unused _ rfl) _ _)
  intro _ first uses
  have unused_list : ¬((∃ block : String, GeneratedName.suppressed inst.vrf =
      .aggregate .v4 inst.vrf block) ∨ used (.suppressed inst.vrf)) := by
    rintro (⟨block, different⟩ | own)
    · cases different
    · exact unused _ rfl own
  have unused_policy : ¬((∃ block : String, GeneratedName.commonExport inst.vrf =
      .aggregate .v4 inst.vrf block) ∨ used (.commonExport inst.vrf)) := by
    rintro (⟨block, different⟩ | own)
    · cases different
    · exact unused _ rfl own
  apply Succeeds.bind (addCommonExportPolicy_succeeds named uses has_vrf unused_list unused_policy)
  intro _ second uses
  apply Succeeds.imp (updateVrf_succeeds uses has_vrf _)
  intro _ after uses
  refine uses.imp (fun name => ?_) (fun name => ?_)
  · rintro (rfl | rfl | ⟨block, rfl⟩ | own)
    · exact .inl ⟨rfl, rfl⟩
    · exact .inl ⟨rfl, rfl⟩
    · exact .inl ⟨rfl, rfl⟩
    · exact .inr own
  · rintro (⟨-, same⟩ | own)
    · rw [same]
      exact has_vrf
    · exact uses.known name (.inr (.inr (.inr own)))

/-- An instance whose VRF does not exist is skipped. -/
theorem addInstanceProcess_skips (uses : progress.configuration.UsesOnly device used)
    {inst : BgpInstance} (no_vrf : ¬device.HasVrf inst.vrf) (defaultInstance : BgpInstance) :
    Succeeds (addInstanceProcess device params defaultInstance inst) progress fun _ after =>
      after.UsesOnly device used := by
  apply Succeeds.bind_of_ok (runFrom_configuration progress)
  rw [if_neg (mt (uses.vrfs _).mp no_vrf)]
  exact ⟨_, _, runFrom_warn _ _, uses⟩

/-- The processes of all instances are built. -/
theorem buildProcesses_succeeds (keyed : device.Keyed) (named : device.WellNamed)
    {instances : BgpInstances} (runs_bgp : device.bgp = some instances)
    (uses : progress.configuration.UsesOnly device (UsedByInstances device [])) :
    Succeeds (buildProcesses device params instances) progress fun _ after =>
      after.UsesOnly device (UsedByInstances device instances.all) := by
  have distinct := instances.nodup_vrfs keyed named runs_bgp
  apply Succeeds.bind (Succeeds.forM
    (fun done after => after.UsesOnly device (UsedByInstances device done)) ?each uses)
  case each =>
    intro done inst rest split before uses
    have known : ∀ name, UsedByInstances device (done ++ [inst]) name → device.HasVrf name.vrf :=
      fun name own => own.2.1
    have more : ∀ name, UsedByInstances device done name →
        UsedByInstances device (done ++ [inst]) name := by
      rintro name ⟨no_peer, has_vrf, member⟩
      exact ⟨no_peer, has_vrf, by simp only [List.map_append, List.mem_append, member, true_or]⟩
    by_cases has_vrf : device.HasVrf inst.vrf
    · have unused : ∀ name : GeneratedName, name.vrf = inst.vrf →
          ¬UsedByInstances device done name := by
        rintro name same ⟨-, -, member⟩
        rw [same] at member
        exact not_mem_map_of_split distinct split member
      apply Succeeds.imp (addInstanceProcess_succeeds named uses has_vrf unused _)
      intro _ after uses
      refine uses.imp (fun name => ?_) known
      rintro (⟨no_peer, same⟩ | own)
      · exact ⟨no_peer, by rwa [same], by simp [same]⟩
      · exact more name own
    · apply Succeeds.imp (addInstanceProcess_skips uses has_vrf _)
      intro _ after uses
      exact uses.imp more known
  intro _ middle uses
  refine ⟨(), _, runFrom_update _ _, uses.of_same
    (sameVrfs_admitsBgp.addIdleProcesses device params middle.configuration) ?_ ?_⟩
  · rw [addIdleProcesses]
    cases middle.configuration.bgpProcess? defaultVrfName <;> rfl
  · rw [addIdleProcesses]
    cases middle.configuration.bgpProcess? defaultVrfName <;> rfl

end Instances
end NeutralRouting
