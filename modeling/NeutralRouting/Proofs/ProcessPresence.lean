import NeutralRouting.Proofs.PeerInventory
import NeutralRouting.Proofs.PrefixRange

/-!
# Processes that are built

Before neighbors are attached, a VRF has the process of its instance, or an idle one if its routed
traffic has a VNI and the default VRF has a process, or none.
-/

namespace NeutralRouting

open Std Conversion

theorem PrefixSpace.contains_ofPrefixes (blocks : List Prefix) (block : Prefix) :
    (ofPrefixes blocks).contains block = true ↔ block ∈ blocks := by
  have folded : ∀ (blocks : List Prefix) (space : PrefixSpace),
      (blocks.foldl addPrefix space).contains block = true ↔
        space.contains block = true ∨ block ∈ blocks := by
    intro blocks
    induction blocks with
    | nil => simp
    | cons head blocks ih =>
        intro space
        have added : (space.addPrefix head).contains block = true ↔
            block = head ∨ space.contains block = true := by
          simp only [contains_iff, addPrefix, addRange, ExtTreeSet.mem_insert,
            LawfulEqOrd.compare_eq_iff_eq, or_and_right, exists_or, exists_eq_left',
            PrefixRange.exact_includes_iff]
        rw [List.foldl_cons, ih, added, List.mem_cons]
        tauto
  have nothing : empty.contains block = false := by
    rw [Bool.eq_false_iff, ne_eq, contains_iff]
    rintro ⟨range, member, -⟩
    exact ExtTreeSet.not_mem_empty member
  rw [ofPrefixes, folded, nothing]
  simp

theorem BgpInstance.mem_networks_iff {inst : BgpInstance} {block : Prefix} :
    block ∈ inst.networks ↔ ∃ family, inst.ipv4Unicast = some family ∧ block ∈ family.networks := by
  rw [networks]
  cases inst.ipv4Unicast with
  | none => simp
  | some family => simp

theorem Device.routesByVni_iff {device : Device} {vrf : String} :
    device.routesByVni vrf = true ↔ ∃ vni, device.vrfs.lookup vrf = some ⟨vrf, some vni⟩ := by
  rw [routesByVni, VrfTable.lookup]
  cases device.vrfs.vnis[vrf]? with
  | none => simp
  | some vni => simp [Option.isSome_iff_exists]

namespace Configuration

/-- What processes are built on: the VRFs of the device, under their names and without any
process. -/
structure IsGround (configuration : Configuration) (device : Device) : Prop where
  vrfs : ∀ name : String, name ∈ configuration.vrfs ↔ device.HasVrf name
  keyed : Table.KeyedBy (·.name) configuration.vrfs
  idle : ∀ name : String, configuration.bgpProcess? name = none

/-- The VRFs are kept under their names. -/
def keyedVrfs : Frame := .invariant fun configuration => Table.KeyedBy (·.name) configuration.vrfs

theorem keyedVrfs_of_updateVrf {before after : Configuration} {name : String}
    {change : Vrf → Attempt Vrf} (updated : before.updateVrf name change = (after, .ok ()))
    (same : ∀ vrf result, change vrf = (result, .ok ()) → result.name = vrf.name) :
    keyedVrfs.Related before after := by
  intro keyed
  obtain ⟨vrf, result, found, changed, rfl⟩ := updateVrf_eq_ok_iff.mp updated
  exact keyed.insert ((same vrf result changed).trans (keyed name vrf found))

theorem keyedVrfs_admitsShared : keyedVrfs.AdmitsShared where
  addPolicy _ added := by
    obtain ⟨-, rfl⟩ := policyShelf.add_eq_ok_iff.mp added
    exact id
  ensurePolicy _ _ _ := id
  addRouteFilterList added := by
    obtain ⟨-, rfl⟩ := routeFilterShelf.add_eq_ok_iff.mp added
    exact id
  addGeneratedRoute updated := by
    refine keyedVrfs_of_updateVrf updated ?_
    rintro vrf _ same
    cases same
    rfl

theorem keyedVrfs_admitsSkeleton : keyedVrfs.AdmitsSkeleton where
  addInterface added := by
    obtain ⟨-, rfl⟩ := interfaceShelf.add_eq_ok_iff.mp added
    exact id
  addLayer2Vni updated := by
    refine keyedVrfs_of_updateVrf updated ?_
    rintro vrf _ same
    cases same
    rfl
  addDnsServer _ _ := id

theorem same_bgpProcess?_admitsSkeleton : (Frame.same (·.bgpProcess?)).AdmitsSkeleton where
  addInterface added := by
    obtain ⟨-, rfl⟩ := interfaceShelf.add_eq_ok_iff.mp added
    rfl
  addLayer2Vni updated := by
    refine bgpProcess?_of_updateVrf updated ?_
    rintro vrf _ same
    cases same
    rfl
  addDnsServer _ _ := rfl

end Configuration

section Ground

variable {device : Device} {params : ConversionParams} {before after : Progress}

theorem isGround_of_buildSkeleton
    (run : (buildSkeleton device).runFrom (.initial device.hostname) = (.ok (), after)) :
    after.configuration.IsGround device := by
  obtain ⟨declared, declare_run, same⟩ :=
    Configuration.same_bgpProcess?_admitsSkeleton.related_of_buildSkeleton run
  obtain ⟨_, declare_again, still_keyed⟩ :=
    Configuration.keyedVrfs_admitsSkeleton.related_of_buildSkeleton run
  obtain ⟨_, _, bare_run, bare, -⟩ := @addDeclaredVrfs_succeeds device (.initial device.hostname)
    (Configuration.bare_initial device.hostname)
  cases declare_run.symm.trans declare_again
  cases declare_run.symm.trans bare_run
  have declare_keeps : Configuration.keyedVrfs.Keeps (device.vrfs.all.forM addDeclaredVrf) := by
    refine .forM fun vrf _ => ?_
    rw [addDeclaredVrf]
    split
    · exact .pure _
    · refine .store fun before changed added keyed => ?_
      have shelved : Configuration.vrfShelf.add before (.bare vrf.name) = (changed, .ok ()) := added
      obtain ⟨-, rfl⟩ := Configuration.vrfShelf.add_eq_ok_iff.mp shelved
      exact keyed.insert rfl
  have keyed := declare_keeps _ _ _ declare_run (Table.KeyedBy.empty.insert rfl)
  refine ⟨(inventory_of_buildSkeleton run).2, still_keyed keyed, fun name => ?_⟩
  have same_name : after.configuration.bgpProcess? name = declared.configuration.bgpProcess? name :=
    congrFun same name
  rw [same_name, Option.eq_none_iff_forall_ne_some]
  intro process running
  obtain ⟨vrf, found, own⟩ := Configuration.bgpProcess?_eq_some_iff.mp running
  rw [bare.idle name vrf found] at own
  cases own

/-- Match lists leave the ground alone. -/
theorem Configuration.IsGround.of_same_vrfs {first second : Configuration}
    (ground : first.IsGround device) (same : second.vrfs = first.vrfs) :
    second.IsGround device where
  vrfs := by rw [same]; exact ground.vrfs
  keyed := by rw [same]; exact ground.keyed
  idle name := by
    have idle := ground.idle name
    rwa [bgpProcess?, ← same] at idle

end Ground

section Instances

variable {device : Device} {params : ConversionParams} {defaultInstance inst : BgpInstance}
  {before after : Progress}

/-- The VRF of an instance gets the process of the instance, and no other VRF gets one. -/
theorem bgpProcess?_of_addInstanceProcess
    (run : (addInstanceProcess device params defaultInstance inst).runFrom before = (.ok (), after))
    (has_vrf : inst.vrf ∈ before.configuration.vrfs) (other : String) :
    after.configuration.bgpProcess? other =
      if other = inst.vrf then some (instanceProcess device params defaultInstance inst)
      else before.configuration.bgpProcess? other := by
  obtain ⟨_, _, asked, run⟩ := runFrom_bind_eq_ok_iff.mp run
  cases asked
  rw [if_pos has_vrf] at run
  obtain ⟨_, aggregated, aggregate_run, run⟩ := runFrom_bind_eq_ok_iff.mp run
  obtain ⟨_, shared, share_run, process_run⟩ := runFrom_bind_eq_ok_iff.mp run
  have admits := Configuration.same_bgpProcess?_admitsShared
  have same_aggregated := admits.keeps_addAggregates _ _ _ _ _ _ aggregate_run
  have same_shared := admits.keeps_addCommonExportPolicy device inst _ _ _ share_run
  have same : shared.configuration.bgpProcess? = before.configuration.bgpProcess? :=
    same_shared.trans same_aggregated
  obtain ⟨vrf, result, -, changed, replaced⟩ := Configuration.updateVrf_eq_ok_iff.mp
    (configuration_of_runFrom_store process_run)
  cases changed
  rw [← replaced, Configuration.bgpProcess?_of_insert rfl, same]

theorem keyed_of_addInstanceProcess
    (run : (addInstanceProcess device params defaultInstance inst).runFrom before = (.ok (), after))
    (keyed : Table.KeyedBy (·.name) before.configuration.vrfs) :
    Table.KeyedBy (·.name) after.configuration.vrfs := by
  have keeps : Configuration.keyedVrfs.Keeps
      (addInstanceProcess device params defaultInstance inst) := by
    have admits := Configuration.keyedVrfs_admitsShared
    refine .bind .configuration fun configuration => ?_
    split
    · refine .bind (admits.keeps_addAggregates _ _ _) fun _ =>
        .bind (admits.keeps_addCommonExportPolicy device inst) fun _ =>
        .store fun _ _ updated => Configuration.keyedVrfs_of_updateVrf updated ?_
      rintro vrf _ same
      cases same
      rfl
    · exact .warn _
  exact keeps _ _ _ run keyed

theorem configuration_of_addInstanceProcess
    (run : (addInstanceProcess device params defaultInstance inst).runFrom before = (.ok (), after))
    (no_vrf : inst.vrf ∉ before.configuration.vrfs) :
    after.configuration = before.configuration := by
  obtain ⟨_, _, asked, run⟩ := runFrom_bind_eq_ok_iff.mp run
  cases asked
  rw [if_neg no_vrf] at run
  cases run
  rfl

/-- Idle processes are given to VRFs without a process whose routed traffic has a VNI, if the
default VRF has a process. -/
theorem bgpProcess?_addIdleProcesses_eq_some_iff {configuration : Configuration}
    (keyed : Table.KeyedBy (·.name) configuration.vrfs) {vrf : String} {process : BgpProcess} :
    (addIdleProcesses device params configuration).bgpProcess? vrf = some process ↔
      configuration.bgpProcess? vrf = some process ∨
        configuration.bgpProcess? vrf = none ∧ vrf ∈ configuration.vrfs ∧
          device.routesByVni vrf = true ∧ ∃ own,
            configuration.bgpProcess? defaultVrfName = some own ∧
            process = .bare own.routerId params.ebgpAdmin params.ibgpAdmin := by
  rw [addIdleProcesses]
  cases running : configuration.bgpProcess? defaultVrfName with
  | none => simp
  | some own =>
      cases found : configuration.vrfs[vrf]? with
      | none =>
          have absent : vrf ∉ configuration.vrfs := by
            rw [Table.mem_iff_getElem?_eq_some, found]
            simp
          simp [Configuration.bgpProcess?, absent]
      | some entry =>
          have present : vrf ∈ configuration.vrfs :=
            Table.mem_iff_getElem?_eq_some.mpr ⟨entry, found⟩
          have own_name : entry.name = vrf := keyed vrf entry found
          cases current : entry.bgp with
          | some process => simp [Configuration.bgpProcess?, found, current]
          | none =>
              by_cases routes : device.routesByVni vrf = true
              · simp only [present, routes, Configuration.bgpProcess?, ExtTreeMap.getElem?_map,
                  found, Option.map_some, Option.bind_eq_bind, Option.bind_some, current, own_name]
                simp [eq_comm]
              · simp [Configuration.bgpProcess?, found, current, own_name, routes]

end Instances

section Presence

variable {device : Device} {params : ConversionParams} {instances : BgpInstances}
  {before after : Progress} {lists : List RouteFilterList}

/-- The processes that the VRFs of a device run before neighbors are attached. -/
inductive Device.Runs (device : Device) (params : ConversionParams) (instances : BgpInstances) :
    String → BgpProcess → Prop
  /-- The process of an instance whose VRF exists. -/
  | configured {inst : BgpInstance} : inst ∈ instances.all → device.HasVrf inst.vrf →
      device.Runs params instances inst.vrf
        (instanceProcess device params instances.defaultVrf inst)
  /-- The process of a VRF without an instance that has a VNI, if the default VRF has one. -/
  | idle {vrf : String} {own : BgpInstance} : (∀ inst ∈ instances.all, inst.vrf ≠ vrf) →
      device.HasVrf vrf → device.routesByVni vrf = true → own ∈ instances.all →
      own.vrf = defaultVrfName →
      device.Runs params instances vrf
        (.bare (own.effectiveRouterId device) params.ebgpAdmin params.ibgpAdmin)

/-- Instances with different common export policies are those of different VRFs. -/
theorem nodup_vrfs_of_nodup_names {active : List BgpInstance}
    (distinct : ((active.flatMap (·.sharedPolicies device)).map (·.name)).Nodup) :
    (active.map (·.vrf)).Nodup := by
  rw [List.map_flatMap, List.nodup_flatMap] at distinct
  rw [List.Nodup, List.pairwise_map]
  refine distinct.2.imp fun {first second} disjoint same => ?_
  have shared : ∀ inst : BgpInstance, (GeneratedName.commonExport inst.vrf).text ∈
      (inst.sharedPolicies device).map (·.name) := by
    intro inst
    rw [inst.map_name_sharedPolicies]
    exact List.mem_map_of_mem (List.mem_append_right _ (List.mem_singleton.mpr rfl))
  have both := shared second
  rw [← same] at both
  exact disjoint (shared first) both

/-- The VRFs of the device are there under their names, and exactly the given instances have given
theirs a process. -/
structure Configuration.RunsOnly (configuration : Configuration) (device : Device)
    (params : ConversionParams) (defaultInstance : BgpInstance) (done : List BgpInstance) :
    Prop where
  vrfs : ∀ name : String, name ∈ configuration.vrfs ↔ device.HasVrf name
  keyed : Table.KeyedBy (·.name) configuration.vrfs
  bgpProcess?_eq_some_iff : ∀ vrf process, configuration.bgpProcess? vrf = some process ↔
    ∃ inst ∈ done, device.HasVrf inst.vrf ∧ inst.vrf = vrf ∧
      instanceProcess device params defaultInstance inst = process

/-- One more instance gives its VRF a process, unless the VRF does not exist. -/
theorem Configuration.RunsOnly.of_addInstanceProcess {defaultInstance inst : BgpInstance}
    {done : List BgpInstance}
    (only : before.configuration.RunsOnly device params defaultInstance done)
    (run : (addInstanceProcess device params defaultInstance inst).runFrom before = (.ok (), after))
    (unique : ∀ other ∈ done, device.HasVrf other.vrf → other.vrf = inst.vrf → other = inst) :
    after.configuration.RunsOnly device params defaultInstance (done ++ [inst]) := by
  have same_vrfs := sameVrfs_admitsBgp.keeps_addInstanceProcess device params defaultInstance inst
    _ _ _ run
  refine ⟨fun name => (same_vrfs name).trans (only.vrfs name),
    keyed_of_addInstanceProcess run only.keyed, fun vrf process => ?_⟩
  by_cases has_vrf : device.HasVrf inst.vrf
  · rw [bgpProcess?_of_addInstanceProcess run ((only.vrfs _).mpr has_vrf)]
    split
    · next same =>
        constructor
        · intro given
          exact ⟨inst, by simp, has_vrf, same.symm, Option.some.inj given⟩
        · rintro ⟨other, member, other_vrf, same_vrf, rfl⟩
          rcases List.mem_append.mp member with earlier | last
          · rw [unique other earlier other_vrf (same_vrf.trans same)]
          · rw [List.mem_singleton.mp last]
    · next different =>
        rw [only.bgpProcess?_eq_some_iff]
        constructor
        · rintro ⟨other, member, own⟩
          exact ⟨other, List.mem_append_left _ member, own⟩
        · rintro ⟨other, member, other_vrf, same_vrf, own⟩
          rcases List.mem_append.mp member with earlier | last
          · exact ⟨other, earlier, other_vrf, same_vrf, own⟩
          · rw [List.mem_singleton.mp last] at same_vrf
            exact absurd same_vrf.symm different
  · rw [configuration_of_addInstanceProcess run (mt (only.vrfs _).mp has_vrf),
      only.bgpProcess?_eq_some_iff]
    constructor
    · rintro ⟨other, member, own⟩
      exact ⟨other, List.mem_append_left _ member, own⟩
    · rintro ⟨other, member, other_vrf, own⟩
      rcases List.mem_append.mp member with earlier | last
      · exact ⟨other, earlier, other_vrf, own⟩
      · rw [List.mem_singleton.mp last] at other_vrf
        exact absurd other_vrf has_vrf

/-- The loop over the instances leaves their processes behind. -/
theorem runsOnly_of_addInstanceProcesses
    (run : (instances.all.forM
      (addInstanceProcess device params instances.defaultVrf)).runFrom before = (.ok (), after))
    (ground : before.configuration.IsGround device)
    (distinct : ((instances.all.filter (device.HasVrf ·.vrf)).map (·.vrf)).Nodup) :
    after.configuration.RunsOnly device params instances.defaultVrf instances.all := by
  refine made_of_runFrom_forM
    (fun done configuration => configuration.RunsOnly device params instances.defaultVrf done)
    ?_ run ⟨ground.vrfs, ground.keyed, fun vrf process => by simp [ground.idle]⟩
  intro done inst rest split start next here only
  refine only.of_addInstanceProcess here fun other member other_vrf same => ?_
  refine List.inj_on_of_nodup_map distinct ?_ ?_ same
  · exact List.mem_filter.mpr ⟨by simp [split, member], by simpa using other_vrf⟩
  · exact List.mem_filter.mpr ⟨by simp [split], by simpa [← same] using other_vrf⟩

/-- A VRF runs exactly the process that it should. -/
theorem bgpProcess?_of_buildProcesses_iff
    (run : (buildProcesses device params instances).runFrom before = (.ok (), after))
    (ground : before.configuration.IsGround device)
    (inventory : before.configuration.Inventory [] lists []) {vrf : String}
    {process : BgpProcess} :
    after.configuration.bgpProcess? vrf = some process ↔
      device.Runs params instances vrf process := by
  have distinct := nodup_vrfs_of_nodup_names
    (inventory_of_buildProcesses run ground.vrfs inventory).policies.nodup
  obtain ⟨_, built, loop, idle⟩ := runFrom_bind_eq_ok_iff.mp run
  obtain ⟨vrfs, keyed, made⟩ := runsOnly_of_addInstanceProcesses loop ground distinct
  cases idle
  rw [bgpProcess?_addIdleProcesses_eq_some_iff keyed, made, vrfs]
  simp only [made]
  constructor
  · rintro (⟨inst, member, has_vrf, rfl, rfl⟩ | ⟨no_process, has_vrf, routes, _,
      ⟨own, member, -, own_vrf, rfl⟩, rfl⟩)
    · exact .configured member has_vrf
    · refine .idle (fun inst listed same => ?_) has_vrf routes member own_vrf
      have running := (made vrf _).mpr ⟨inst, listed, same ▸ has_vrf, same, rfl⟩
      rw [no_process] at running
      cases running
  · rintro (⟨member, has_vrf⟩ | ⟨other, has_vrf, routes, member, own_vrf⟩)
    · exact .inl ⟨_, member, has_vrf, rfl, rfl⟩
    · refine .inr ⟨?_, has_vrf, routes, _, ⟨_, member, .inl own_vrf, own_vrf, rfl⟩, rfl⟩
      rw [Option.eq_none_iff_forall_ne_some]
      intro process running
      obtain ⟨inst, listed, -, same, -⟩ := (made vrf process).mp running
      exact other inst listed same

/-- Before neighbors are attached no process has peers. -/
theorem Device.Runs.peer?_eq_none {vrf : String} {process : BgpProcess}
    (runs : device.Runs params instances vrf process) (id : PeerId) : process.peer? id = none := by
  cases runs with
  | configured => exact BgpProcess.peer?_instanceProcess _ _ _ _ id
  | idle => exact BgpProcess.peer?_bare _ _ _ id

end Presence
end NeutralRouting
