import NeutralRouting.Proofs.Frames

/-!
# What conversions register

A conversion that succeeds has registered the common export policy of every instance whose VRF
exists, the policies of every peer, the match lists and the route maps, all under their names.
-/

namespace NeutralRouting

open Std Conversion

/-- The statement that suppresses what the summary-only aggregates of an instance stand for. -/
def BgpInstance.suppression? (inst : BgpInstance) : Option Statement :=
  if inst.summaryOnlyAggregates.isEmpty then none else some (suppression inst.vrf)

namespace Configuration

/-- The common export policy of an instance is registered, with the list it refers to. -/
structure HasCommonExport (configuration : Configuration) (device : Device) (inst : BgpInstance) :
    Prop where
  policy : configuration.policies[(GeneratedName.commonExport inst.vrf).text]? =
    some (commonExportPolicy device inst inst.suppression?)
  suppressed : inst.summaryOnlyAggregates.isEmpty = false →
    configuration.routeFilterLists[(GeneratedName.suppressed inst.vrf).text]? =
      some (suppressionList inst.vrf inst.summaryOnlyAggregates)

/-- The policies of a peer are registered. -/
structure HasPeerPolicies (configuration : Configuration) (inst : BgpInstance)
    (settings : NeighborSettings) : Prop where
  exported : configuration.policies[(GeneratedName.peerExport inst.vrf settings.name).text]? =
    some (peerExportPolicy inst settings)
  defaultRoute : settings.originatesDefault = true →
    configuration.policies[(GeneratedName.defaultRoute .v4 inst.vrf settings.name).text]? =
      some (defaultRoutePolicy inst.vrf settings.name)
  imported : ∀ policy, peerImportPolicy? inst settings = some policy →
    configuration.policies[policy.name]? = some policy

variable {before after : Configuration} {device : Device} {inst : BgpInstance}

theorem HasCommonExport.of_extends (has : before.HasCommonExport device inst)
    (grows : Extends before after) : after.HasCommonExport device inst where
  policy := grows.policies _ _ has.policy
  suppressed some_block := grows.routeFilterLists _ _ (has.suppressed some_block)

theorem HasPeerPolicies.of_extends {settings : NeighborSettings}
    (has : before.HasPeerPolicies inst settings) (grows : Extends before after) :
    after.HasPeerPolicies inst settings where
  exported := grows.policies _ _ has.exported
  defaultRoute originates := grows.policies _ _ (has.defaultRoute originates)
  imported policy used := grows.policies _ _ (has.imported policy used)

end Configuration

section Steps

variable {device : Device} {params : ConversionParams} {inst : BgpInstance}
  {before after : Progress}

theorem getElem?_of_addPolicy {policy : RoutingPolicy}
    (run : (store (·.addPolicy policy)).runFrom before = (.ok (), after)) :
    after.configuration.policies[policy.name]? = some policy :=
  Configuration.policyShelf.getElem?_name_of_add (configuration_of_runFrom_store run)

theorem getElem?_of_addRouteFilterList {list : RouteFilterList}
    (run : (store (·.addRouteFilterList list)).runFrom before = (.ok (), after)) :
    after.configuration.routeFilterLists[list.name]? = some list :=
  Configuration.routeFilterShelf.getElem?_name_of_add (configuration_of_runFrom_store run)

theorem suppression_of_suppressSummarized {suppress : Option Statement}
    (run : (suppressSummarized inst.vrf inst.summaryOnlyAggregates).runFrom before =
      (.ok suppress, after)) :
    suppress = inst.suppression? ∧ (inst.summaryOnlyAggregates.isEmpty = false →
      after.configuration.routeFilterLists[(GeneratedName.suppressed inst.vrf).text]? =
        some (suppressionList inst.vrf inst.summaryOnlyAggregates)) := by
  rw [suppressSummarized] at run
  rw [BgpInstance.suppression?]
  split at run
  · next no_block =>
      cases run
      rw [if_pos no_block]
      exact ⟨rfl, fun some_block => absurd no_block (by simp [some_block])⟩
  · next some_block =>
      obtain ⟨_, middle, added, rest⟩ := runFrom_bind_eq_ok_iff.mp run
      cases rest
      rw [if_neg some_block]
      exact ⟨rfl, fun _ => getElem?_of_addRouteFilterList added⟩

theorem hasCommonExport_of_addCommonExportPolicy
    (run : (addCommonExportPolicy device inst).runFrom before = (.ok (), after)) :
    after.configuration.HasCommonExport device inst := by
  obtain ⟨suppress, first, suppressed, run⟩ := runFrom_bind_eq_ok_iff.mp run
  obtain ⟨rfl, listed⟩ := suppression_of_suppressSummarized suppressed
  obtain ⟨_, second, warned, added⟩ := runFrom_bind_eq_ok_iff.mp run
  have grows := growth.trans (Frame.Keeps.warnAll _ _ _ _ warned)
    (growth_admitsBgp.keeps_addPolicy (commonExportPolicy_isGenerated _ _ _) _ _ _ added)
  exact ⟨getElem?_of_addPolicy added, fun some_block =>
    grows.routeFilterLists _ _ (listed some_block)⟩

theorem hasCommonExport_of_addInstanceProcess {defaultInstance : BgpInstance}
    (run : (addInstanceProcess device params defaultInstance inst).runFrom before = (.ok (), after))
    (has_vrf : inst.vrf ∈ before.configuration.vrfs) :
    after.configuration.HasCommonExport device inst := by
  obtain ⟨_, start, asked, run⟩ := runFrom_bind_eq_ok_iff.mp run
  cases asked
  rw [if_pos has_vrf] at run
  obtain ⟨_, first, -, run⟩ := runFrom_bind_eq_ok_iff.mp run
  obtain ⟨_, second, added, updated⟩ := runFrom_bind_eq_ok_iff.mp run
  exact (hasCommonExport_of_addCommonExportPolicy added).of_extends
    (Configuration.extends_of_updateVrf (configuration_of_runFrom_store updated))

/-- Building all processes goes through that of each instance, and what comes later is related to
what that step left. -/
theorem exists_run_of_buildProcesses {frame : Frame} (admits : frame.AdmitsProcesses)
    {instances : BgpInstances}
    (run : (buildProcesses device params instances).runFrom before = (.ok (), after))
    (member : inst ∈ instances.all) (has_vrf : inst.vrf ∈ before.configuration.vrfs) :
    ∃ start next : Progress, inst.vrf ∈ start.configuration.vrfs ∧
      (addInstanceProcess device params instances.defaultVrf inst).runFrom start =
        (.ok (), next) ∧
      frame.Related next.configuration after.configuration := by
  obtain ⟨_, built, loop, idle⟩ := runFrom_bind_eq_ok_iff.mp run
  obtain ⟨done, rest, start, next, -, front, here, back⟩ := exists_run_of_mem loop member
  have same_vrfs := (Frame.Keeps.forM fun other _ =>
    sameVrfs_admitsBgp.keeps_addInstanceProcess device params instances.defaultVrf other)
    _ _ _ front
  have related := (Frame.Keeps.forM fun other _ =>
    admits.keeps_addInstanceProcess device params instances.defaultVrf other) _ _ _ back
  cases idle
  exact ⟨start, next, (same_vrfs _).mpr has_vrf, here,
    frame.trans related (admits.addIdleProcesses device params _)⟩

theorem hasCommonExport_of_buildProcesses {instances : BgpInstances}
    (run : (buildProcesses device params instances).runFrom before = (.ok (), after))
    (member : inst ∈ instances.all) (has_vrf : inst.vrf ∈ before.configuration.vrfs) :
    after.configuration.HasCommonExport device inst := by
  obtain ⟨start, next, start_vrf, here, grows⟩ :=
    exists_run_of_buildProcesses growth_admitsBgp.toAdmitsProcesses run member has_vrf
  exact (hasCommonExport_of_addInstanceProcess here start_vrf).of_extends grows

theorem getElem?_of_addPeerImportPolicy {settings : NeighborSettings} {policy : RoutingPolicy}
    (run : (addPeerImportPolicy device inst settings).runFrom before = (.ok (), after))
    (used : peerImportPolicy? inst settings = some policy) :
    after.configuration.policies[policy.name]? = some policy := by
  obtain ⟨_, middle, -, loop⟩ := runFrom_bind_eq_ok_iff.mp run
  rw [used, Option.toList_some] at loop
  obtain ⟨next, added, rest⟩ := runFrom_forM_cons_eq_ok_iff.mp loop
  cases rest
  exact getElem?_of_addPolicy added

/-- The policy for the default route is found under its name, even if it was there before. -/
theorem getElem?_ensurePolicy {configuration : Configuration} (only : configuration.OnlyGenerated)
    (vrf peer : String) :
    (configuration.ensurePolicy (defaultRoutePolicy vrf peer)).policies[
      (GeneratedName.defaultRoute .v4 vrf peer).text]? = some (defaultRoutePolicy vrf peer) := by
  have member : (GeneratedName.defaultRoute .v4 vrf peer).text ∈
      (configuration.ensurePolicy (defaultRoutePolicy vrf peer)).policies :=
    ExtTreeMap.mem_insertIfNew.mpr (.inl ReflCmp.compare_self)
  obtain ⟨policy, found⟩ := Table.mem_iff_getElem?_eq_some.mp member
  have still_only := Configuration.onlyGenerated_admitsBgp.ensurePolicy configuration vrf peer only
  rw [found, still_only.eq_defaultRoutePolicy found]

theorem getElem?_of_addPeerExportPolicy {settings : NeighborSettings}
    (run : (addPeerExportPolicy device inst settings).runFrom before = (.ok (), after))
    (only : before.configuration.OnlyGenerated) :
    after.configuration.policies[(GeneratedName.peerExport inst.vrf settings.name).text]? =
        some (peerExportPolicy inst settings) ∧
      (settings.originatesDefault = true →
        after.configuration.policies[
          (GeneratedName.defaultRoute .v4 inst.vrf settings.name).text]? =
            some (defaultRoutePolicy inst.vrf settings.name)) := by
  rw [addPeerExportPolicy] at run
  split at run
  · next originates =>
      obtain ⟨_, first, ensured, run⟩ := runFrom_bind_eq_ok_iff.mp run
      obtain ⟨_, second, warned, added⟩ := runFrom_bind_eq_ok_iff.mp run
      have grows := growth.trans (Frame.Keeps.warnAll _ _ _ _ warned)
        (growth_admitsBgp.keeps_addPolicy (peerExportPolicy_isGenerated _ _) _ _ _ added)
      cases ensured
      exact ⟨getElem?_of_addPolicy added, fun _ =>
        grows.policies _ _ (getElem?_ensurePolicy only inst.vrf settings.name)⟩
  · next originates =>
      obtain ⟨_, second, warned, added⟩ := runFrom_bind_eq_ok_iff.mp run
      exact ⟨getElem?_of_addPolicy added, fun other => absurd other originates⟩

end Steps

end NeutralRouting
