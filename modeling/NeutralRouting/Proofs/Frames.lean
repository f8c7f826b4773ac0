import NeutralRouting.Conversion.Whole
import NeutralRouting.Proofs.GeneratedName
import NeutralRouting.Proofs.Skeleton

/-!
# What the steps of a conversion change

The changes that each phase makes to a configuration, and what follows from them.  What a
conversion has registered stays as it is until the end: no later step replaces or removes a policy
or a match list, and none adds or removes a VRF.
-/

namespace NeutralRouting

open Std Conversion

namespace Configuration

/-- Everything registered in one configuration is registered in the other. -/
structure Extends (before after : Configuration) : Prop where
  policies : ∀ (name : String) (policy : RoutingPolicy), before.policies[name]? = some policy →
    after.policies[name]? = some policy
  routeFilterLists : ∀ (name : String) (list : RouteFilterList),
    before.routeFilterLists[name]? = some list → after.routeFilterLists[name]? = some list
  communityLists : ∀ (name : String) (list : CommunityList),
    before.communityLists[name]? = some list → after.communityLists[name]? = some list
  asPathAccessLists : ∀ (name : String) (list : AsPathAccessList),
    before.asPathAccessLists[name]? = some list → after.asPathAccessLists[name]? = some list

theorem Extends.refl (configuration : Configuration) : Extends configuration configuration :=
  ⟨fun _ _ => id, fun _ _ => id, fun _ _ => id, fun _ _ => id⟩

theorem Extends.trans {first second third : Configuration} (front : Extends first second)
    (back : Extends second third) : Extends first third where
  policies name policy found := back.policies name policy (front.policies name policy found)
  routeFilterLists name list found :=
    back.routeFilterLists name list (front.routeFilterLists name list found)
  communityLists name list found :=
    back.communityLists name list (front.communityLists name list found)
  asPathAccessLists name list found :=
    back.asPathAccessLists name list (front.asPathAccessLists name list found)

theorem HasLists.of_extends {before after : Configuration} {device : Device}
    (lists : before.HasLists device) (grows : Extends before after) : after.HasLists device where
  prefixLists name list found :=
    grows.routeFilterLists name _ (lists.prefixLists name list found)
  communityLists name list found :=
    grows.communityLists name _ (lists.communityLists name list found)
  asPathLists name list found :=
    grows.asPathAccessLists name _ (lists.asPathLists name list found)

variable {configuration changed : Configuration}

theorem extends_of_addPolicy {policy : RoutingPolicy}
    (added : configuration.addPolicy policy = (changed, .ok ())) :
    Extends configuration changed := by
  obtain ⟨-, rfl⟩ := policyShelf.add_eq_ok_iff.mp added
  exact { Extends.refl configuration with
    policies := fun _ _ found => policyShelf.getElem?_of_add added found }

theorem extends_of_addRouteFilterList {list : RouteFilterList}
    (added : configuration.addRouteFilterList list = (changed, .ok ())) :
    Extends configuration changed := by
  obtain ⟨-, rfl⟩ := routeFilterShelf.add_eq_ok_iff.mp added
  exact { Extends.refl configuration with
    routeFilterLists := fun _ _ found => routeFilterShelf.getElem?_of_add added found }

theorem extends_ensurePolicy (configuration : Configuration) (policy : RoutingPolicy) :
    Extends configuration (configuration.ensurePolicy policy) := by
  refine { Extends.refl configuration with policies := fun name other found => ?_ }
  have member : name ∈ configuration.policies :=
    Table.mem_iff_getElem?_eq_some.mpr ⟨other, found⟩
  rw [ensurePolicy, ExtTreeMap.getElem?_insertIfNew, if_neg, found]
  rintro ⟨same, absent⟩
  rw [LawfulEqOrd.eq_of_compare same] at absent
  exact absent member

theorem extends_of_updateVrf {name : String} {change : Vrf → Attempt Vrf}
    (updated : configuration.updateVrf name change = (changed, .ok ())) :
    Extends configuration changed := by
  obtain ⟨vrf, result, -, -, rfl⟩ := updateVrf_eq_ok_iff.mp updated
  exact { Extends.refl configuration with }

theorem extends_addIdleProcesses (device : Device) (params : ConversionParams)
    (configuration : Configuration) :
    Extends configuration (addIdleProcesses device params configuration) := by
  rw [addIdleProcesses]
  cases configuration.bgpProcess? defaultVrfName with
  | none => exact Extends.refl configuration
  | some process => exact { Extends.refl configuration with }

end Configuration

/-- The name of the policy is generated, and a policy named for the default route of a peer does
what is needed to let it out. -/
def RoutingPolicy.IsGenerated (policy : RoutingPolicy) : Prop :=
  ∃ name : GeneratedName, policy.name = name.text ∧
    ∀ vrf peer, name.kind = .defaultRoute →
      policy.statements = (defaultRoutePolicy vrf peer).statements

theorem aggregatePolicy_isGenerated (vrf : String) (block : Prefix) :
    (aggregatePolicy vrf block).IsGenerated :=
  ⟨.aggregate .v4 vrf block.text, rfl, nofun⟩

theorem commonExportPolicy_isGenerated (device : Device) (inst : BgpInstance)
    (suppress : Option Statement) : (commonExportPolicy device inst suppress).IsGenerated :=
  ⟨.commonExport inst.vrf, rfl, nofun⟩

theorem peerExportPolicy_isGenerated (inst : BgpInstance) (settings : NeighborSettings) :
    (peerExportPolicy inst settings).IsGenerated :=
  ⟨.peerExport inst.vrf settings.name, rfl, nofun⟩

theorem peerImportPolicy?_isGenerated {inst : BgpInstance} {settings : NeighborSettings}
    {policy : RoutingPolicy} (used : peerImportPolicy? inst settings = some policy) :
    policy.IsGenerated := by
  obtain ⟨routeMap, -, rfl⟩ := Option.map_eq_some_iff.mp used
  exact ⟨.peerImport inst.vrf settings.name, rfl, nofun⟩

theorem defaultRoutePolicy_isGenerated (vrf peer : String) :
    (defaultRoutePolicy vrf peer).IsGenerated :=
  ⟨.defaultRoute .v4 vrf peer, rfl, fun _ _ _ => rfl⟩

namespace Conversion

/-- The changes that the policies of peers make to a configuration. -/
structure Frame.AdmitsPolicies (frame : Frame) : Prop where
  addPolicy : ∀ {before after policy}, RoutingPolicy.IsGenerated policy →
    before.addPolicy policy = (after, .ok ()) → frame.Related before after
  ensurePolicy : ∀ before vrf peer,
    frame.Related before (before.ensurePolicy (defaultRoutePolicy vrf peer))

/-- The changes that are made for the peers of an instance in common. -/
structure Frame.AdmitsShared (frame : Frame) : Prop extends frame.AdmitsPolicies where
  addRouteFilterList : ∀ {before after list}, before.addRouteFilterList list = (after, .ok ()) →
    frame.Related before after
  addGeneratedRoute : ∀ {before after name route},
    before.updateVrf name (fun owner => (owner.addGeneratedRoute route, .ok ())) = (after, .ok ()) →
    frame.Related before after

/-- The changes that building processes makes to a configuration. -/
structure Frame.AdmitsProcesses (frame : Frame) : Prop extends frame.AdmitsShared where
  setProcess : ∀ {before after name device params defaultInstance inst},
    before.updateVrf name (fun vrf =>
      ({ vrf with bgp := some (instanceProcess device params defaultInstance inst) }, .ok ())) =
        (after, .ok ()) → frame.Related before after
  addIdleProcesses : ∀ device params before,
    frame.Related before (addIdleProcesses device params before)

/-- The changes that the processes and peers of a device make to a configuration. -/
structure Frame.AdmitsBgp (frame : Frame) : Prop extends frame.AdmitsProcesses where
  addPeer : ∀ {before after name peer},
    before.updateBgpProcess name (·.addPeer peer) = (after, .ok ()) → frame.Related before after

variable {frame : Frame} (device : Device) (params : ConversionParams)

namespace Frame.AdmitsPolicies

variable (admits : frame.AdmitsPolicies)
include admits

theorem keeps_addPolicy {policy : RoutingPolicy} (generated : policy.IsGenerated) :
    frame.Keeps (store (·.addPolicy policy)) :=
  .store fun _ _ added => admits.addPolicy generated added

theorem keeps_addPeerExportPolicy (inst : BgpInstance) (settings : NeighborSettings) :
    frame.Keeps (addPeerExportPolicy device inst settings) := by
  have rest : frame.Keeps (do
      warnAll (routeMapWarnings device settings (settings.ipv4Setting (·.routeMapOut)))
      store (·.addPolicy (peerExportPolicy inst settings))) :=
    .bind (.warnAll _) fun _ => admits.keeps_addPolicy (peerExportPolicy_isGenerated inst settings)
  rw [addPeerExportPolicy]
  split
  · exact .bind (.update fun before => admits.ensurePolicy before _ _) fun _ => rest
  · exact rest

theorem keeps_addPeerImportPolicy (inst : BgpInstance) (settings : NeighborSettings) :
    frame.Keeps (addPeerImportPolicy device inst settings) := by
  refine .bind (.warnAll _) fun _ => .forM fun policy used => ?_
  exact admits.keeps_addPolicy (peerImportPolicy?_isGenerated (Option.mem_toList.mp used))

end Frame.AdmitsPolicies

namespace Frame.AdmitsShared

variable (admits : frame.AdmitsShared)
include admits

theorem keeps_addAggregates (vrf : String) (aggregates : AggregateTable) (admin : UInt32) :
    frame.Keeps (addAggregates vrf aggregates admin) :=
  .forM fun block _ => .bind (admits.keeps_addPolicy (aggregatePolicy_isGenerated vrf block))
    fun _ => .store fun _ _ updated => admits.addGeneratedRoute updated

theorem keeps_suppressSummarized (vrf : String) (blocks : List Prefix) :
    frame.Keeps (suppressSummarized vrf blocks) := by
  rw [suppressSummarized]
  split
  · exact .pure _
  · exact .bind (.store fun _ _ added => admits.addRouteFilterList added) fun _ => .pure _

theorem keeps_addCommonExportPolicy (inst : BgpInstance) :
    frame.Keeps (addCommonExportPolicy device inst) :=
  .bind (admits.keeps_suppressSummarized _ _) fun suppress => .bind (.warnAll _) fun _ =>
    admits.keeps_addPolicy (commonExportPolicy_isGenerated device inst suppress)

end Frame.AdmitsShared

namespace Frame.AdmitsProcesses

variable (admits : frame.AdmitsProcesses)
include admits

theorem keeps_addInstanceProcess (defaultInstance inst : BgpInstance) :
    frame.Keeps (addInstanceProcess device params defaultInstance inst) := by
  refine .bind .configuration fun configuration => ?_
  split
  · exact .bind (admits.keeps_addAggregates _ _ _) fun _ =>
      .bind (admits.keeps_addCommonExportPolicy device inst) fun _ =>
      .store fun _ _ updated => admits.setProcess updated
  · exact .warn _

theorem keeps_buildProcesses (instances : BgpInstances) :
    frame.Keeps (buildProcesses device params instances) :=
  .bind (.forM fun inst _ =>
    admits.keeps_addInstanceProcess device params instances.defaultVrf inst)
    fun _ => .update (admits.addIdleProcesses device params)

end Frame.AdmitsProcesses

namespace Frame.AdmitsBgp

variable (admits : frame.AdmitsBgp)
include admits

theorem keeps_addInstancePeer (inst : BgpInstance) (routerId : Address)
    (settings : NeighborSettings) (id : PeerId) :
    frame.Keeps (addInstancePeer device params inst routerId settings id) :=
  .bind .configuration fun _ => .bind (.warnAll _) fun _ => .bind (.require _) fun _ =>
    .bind (admits.keeps_addPeerExportPolicy device inst settings) fun _ =>
    .bind (admits.keeps_addPeerImportPolicy device inst settings) fun _ =>
    .bind (.warnAllOnce _) fun _ => .store fun _ _ updated => admits.addPeer updated

theorem keeps_attachNeighbor (inst : BgpInstance) (neighbor : Neighbor) :
    frame.Keeps (attachNeighbor device params inst neighbor) := by
  refine .bind .configuration fun configuration => ?_
  split
  · exact .pure _
  · split
    · exact .pure _
    · dsimp only
      split
      · exact admits.keeps_addInstancePeer device params inst _ _ _
      · exact .warn _

theorem keeps_attachNeighbors (instances : BgpInstances) :
    frame.Keeps (attachNeighbors device params instances) :=
  .forM fun pair _ => admits.keeps_attachNeighbor device params pair.1 pair.2

theorem keeps_convertBgp : frame.Keeps (convertBgp device params) := by
  rw [convertBgp]
  split
  · exact .pure _
  · exact .bind (admits.keeps_buildProcesses device params _)
      fun _ => admits.keeps_attachNeighbors device params _

end Frame.AdmitsBgp

/-- The changes that OSPF makes to a configuration. -/
structure Frame.AdmitsOspf (frame : Frame) : Prop where
  setProcess : ∀ {before after name process},
    before.updateVrf name (fun vrf => ({ vrf with ospf := some process }, .ok ())) =
      (after, .ok ()) → frame.Related before after
  modifyInterface : ∀ before name change, frame.Related before (before.modifyInterface name change)

theorem Frame.AdmitsOspf.keeps_convertOspf (admits : frame.AdmitsOspf) :
    frame.Keeps (convertOspf device params) := by
  have configure : ∀ interfaces before,
      frame.Related before (configureOspfInterfaces interfaces before) := by
    intro interfaces
    induction interfaces with
    | nil => exact frame.refl
    | cons head interfaces ih =>
        exact fun before => frame.trans (admits.modifyInterface before _ _) (ih _)
  rw [convertOspf]
  split
  · exact .pure _
  · refine .forM fun inst _ => .bind .configuration fun configuration => ?_
    split
    · exact .bind (.warnAll _) fun _ => .bind (.update (configure _)) fun _ =>
        .store fun _ _ updated => admits.setProcess updated
    · exact .warn _

theorem Frame.keeps_addRouteMapPolicy (compile : RouteMapCompiler) (map : RouteMap)
    (admits : ∀ {before after policy}, Configuration.addPolicy before policy = (after, .ok ()) →
      frame.Related before after) : frame.Keeps (addRouteMapPolicy compile device map) := by
  refine .bind (.warnAll _) fun _ => .bind (.require _) fun policy => ?_
  split
  · exact .store fun _ _ added => admits added
  · exact .throw _

/-- A step that succeeds only adds to what is registered. -/
def growth : Frame :=
  ⟨Configuration.Extends, Configuration.Extends.refl, fun front back => front.trans back⟩

theorem growth_admitsBgp : growth.AdmitsBgp where
  addPolicy _ added := Configuration.extends_of_addPolicy added
  ensurePolicy before _ _ := before.extends_ensurePolicy _
  addRouteFilterList added := Configuration.extends_of_addRouteFilterList added
  addGeneratedRoute updated := Configuration.extends_of_updateVrf updated
  setProcess updated := Configuration.extends_of_updateVrf updated
  addIdleProcesses device params before := before.extends_addIdleProcesses device params
  addPeer updated := Configuration.extends_of_updateVrf updated

theorem growth_admitsOspf : growth.AdmitsOspf where
  setProcess updated := Configuration.extends_of_updateVrf updated
  modifyInterface before _ _ := { Configuration.Extends.refl before with }

theorem growth_keeps_convertRouteMaps (compile : RouteMapCompiler) :
    growth.Keeps (convertRouteMaps compile device) :=
  .forM fun map _ => growth.keeps_addRouteMapPolicy device compile map
    Configuration.extends_of_addPolicy

/-- A step that succeeds adds and removes no VRF. -/
def sameVrfs : Frame where
  Related before after := ∀ name : String, name ∈ after.vrfs ↔ name ∈ before.vrfs
  refl _ _ := Iff.rfl
  trans front back name := (back name).trans (front name)

theorem sameVrfs_of_updateVrf {before after : Configuration} {name : String}
    {change : Vrf → Attempt Vrf} (updated : before.updateVrf name change = (after, .ok ())) :
    sameVrfs.Related before after := by
  obtain ⟨vrf, result, found, -, rfl⟩ := Configuration.updateVrf_eq_ok_iff.mp updated
  intro other
  rw [ExtTreeMap.mem_insert, LawfulEqOrd.compare_eq_iff_eq]
  constructor
  · rintro (rfl | member)
    · exact Table.mem_iff_getElem?_eq_some.mpr ⟨vrf, found⟩
    · exact member
  · exact .inr

theorem sameVrfs_of_addPolicy {before after : Configuration} {policy : RoutingPolicy}
    (added : before.addPolicy policy = (after, .ok ())) : sameVrfs.Related before after := by
  obtain ⟨-, rfl⟩ := Configuration.policyShelf.add_eq_ok_iff.mp added
  exact sameVrfs.refl before

theorem sameVrfs_admitsBgp : sameVrfs.AdmitsBgp where
  addPolicy _ added := sameVrfs_of_addPolicy added
  ensurePolicy before _ _ := sameVrfs.refl before
  addRouteFilterList added := by
    obtain ⟨-, rfl⟩ := Configuration.routeFilterShelf.add_eq_ok_iff.mp added
    exact sameVrfs.refl _
  addGeneratedRoute updated := sameVrfs_of_updateVrf updated
  setProcess updated := sameVrfs_of_updateVrf updated
  addIdleProcesses device params before := by
    rw [addIdleProcesses]
    cases before.bgpProcess? defaultVrfName with
    | none => exact sameVrfs.refl before
    | some process => exact fun name => ExtTreeMap.mem_map
  addPeer updated := sameVrfs_of_updateVrf updated

theorem sameVrfs_admitsOspf : sameVrfs.AdmitsOspf where
  setProcess updated := sameVrfs_of_updateVrf updated
  modifyInterface before _ _ := sameVrfs.refl before

theorem sameVrfs_keeps_convertRouteMaps (compile : RouteMapCompiler) :
    sameVrfs.Keeps (convertRouteMaps compile device) :=
  .forM fun map _ => sameVrfs.keeps_addRouteMapPolicy device compile map sameVrfs_of_addPolicy

end Conversion

namespace Configuration

/-- Every policy has the name it is kept under, which is a generated one. -/
def OnlyGenerated (configuration : Configuration) : Prop :=
  ∀ (name : String) (policy : RoutingPolicy), configuration.policies[name]? = some policy →
    policy.name = name ∧ policy.IsGenerated

theorem OnlyGenerated.eq_defaultRoutePolicy {configuration : Configuration}
    (only : configuration.OnlyGenerated) {vrf peer : String} {policy : RoutingPolicy}
    (found : configuration.policies[(GeneratedName.defaultRoute .v4 vrf peer).text]? =
      some policy) : policy = defaultRoutePolicy vrf peer := by
  obtain ⟨same_name, name, named, content⟩ := only _ _ found
  have same_kind := (GeneratedName.kind_fields_of_text_eq (named.symm.trans same_name)).1
  have same_statements := content vrf peer same_kind
  cases policy
  cases same_name
  cases same_statements
  rfl

theorem onlyGenerated_admitsBgp : (Frame.invariant OnlyGenerated).AdmitsBgp where
  addPolicy generated added only := by
    obtain ⟨-, rfl⟩ := policyShelf.add_eq_ok_iff.mp added
    intro name policy found
    rw [show (policyShelf.put _ _).policies = _ from policyShelf.get_put _ _,
      ExtTreeMap.getElem?_insert] at found
    split at found
    · next same =>
        cases found
        exact ⟨LawfulEqOrd.eq_of_compare same, generated⟩
    · exact only name policy found
  ensurePolicy before vrf peer only := by
    intro name policy found
    rw [ensurePolicy, ExtTreeMap.getElem?_insertIfNew] at found
    split at found
    · next new =>
        cases found
        exact ⟨LawfulEqOrd.eq_of_compare new.1, defaultRoutePolicy_isGenerated vrf peer⟩
    · exact only name policy found
  addRouteFilterList added only := by
    obtain ⟨-, rfl⟩ := routeFilterShelf.add_eq_ok_iff.mp added
    exact only
  addGeneratedRoute updated only := by
    obtain ⟨vrf, result, -, -, rfl⟩ := updateVrf_eq_ok_iff.mp updated
    exact only
  setProcess updated only := by
    obtain ⟨vrf, result, -, -, rfl⟩ := updateVrf_eq_ok_iff.mp updated
    exact only
  addIdleProcesses device params before only := by
    rw [addIdleProcesses]
    cases before.bgpProcess? defaultVrfName <;> exact only
  addPeer updated only := by
    obtain ⟨vrf, result, -, -, rfl⟩ := updateVrf_eq_ok_iff.mp updated
    exact only

end Configuration

/-- A conversion that succeeds goes through its phases one after the other. -/
theorem exists_runs_of_convert {device : Device} {params : ConversionParams}
    {compile : RouteMapCompiler} {after : Progress}
    (converted : device.convert params compile = .ok after) :
    ∃ skeleton listed bgp ospf : Progress,
      (buildSkeleton device).runFrom (.initial device.hostname) = (.ok (), skeleton) ∧
      (convertLists device).runFrom skeleton = (.ok (), listed) ∧
      (convertBgp device params).runFrom listed = (.ok (), bgp) ∧
      (convertOspf device params).runFrom bgp = (.ok (), ospf) ∧
      (convertRouteMaps compile device).runFrom ospf = (.ok (), after) := by
  have run : (convertDevice compile params device).runFrom (.initial device.hostname) =
      (.ok (), after) := by
    rw [Device.convert] at converted
    split at converted
    · next whole => cases converted; exact whole
    · cases converted
  obtain ⟨_, skeleton, skeleton_run, run⟩ := runFrom_bind_eq_ok_iff.mp run
  obtain ⟨_, listed, lists_run, run⟩ := runFrom_bind_eq_ok_iff.mp run
  obtain ⟨_, bgp, bgp_run, run⟩ := runFrom_bind_eq_ok_iff.mp run
  obtain ⟨_, ospf, ospf_run, maps_run⟩ := runFrom_bind_eq_ok_iff.mp run
  exact ⟨skeleton, listed, bgp, ospf, skeleton_run, lists_run, bgp_run, ospf_run, maps_run⟩

end NeutralRouting
