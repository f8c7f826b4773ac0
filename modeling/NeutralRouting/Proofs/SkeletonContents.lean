import NeutralRouting.Proofs.Frames

/-!
# Contents of skeletons

The VRFs and interfaces that a skeleton consists of, whatever the device is: every VRF of the device
without any process, the bridged segments in the default one, an interface for each one of the
device, and the loopback unless its name is taken.
-/

namespace NeutralRouting

open Std Conversion

/-- The interface that stands for one of the device. -/
def DeviceInterface.routed (interface : DeviceInterface) : Interface :=
  .ofAddresses interface.name interface.vrfName interface.addresses

/-- The interface that stands for the loopback. -/
def Loopback.routed (loopback : Loopback) : Interface :=
  .ofAddresses loopbackName defaultVrfName loopback.addresses

/-- A VRF of a skeleton with the given bridged segments, which only the default VRF has. -/
def Vrf.ground (segments : List Layer2Vni) (name : String) : Vrf :=
  { Vrf.bare name with
    layer2Vnis :=
      if name = defaultVrfName then
        segments.foldl (fun bridged segment => bridged.insert segment.vni segment) ∅
      else ∅ }

namespace Vrf

@[simp]
theorem ground_nil (name : String) : ground [] name = .bare name := by
  rw [ground, List.foldl_nil, ite_self]
  rfl

theorem ground_of_ne {name : String} (other : name ≠ defaultVrfName)
    (segments : List Layer2Vni) : ground segments name = .bare name := by
  rw [ground, if_neg other]
  rfl

theorem addLayer2Vni_ground (segments : List Layer2Vni) (segment : Layer2Vni) :
    (ground segments defaultVrfName).addLayer2Vni segment =
      ground (segments ++ [segment]) defaultVrfName := by
  simp only [ground, if_pos, List.foldl_append, List.foldl_cons, List.foldl_nil]
  rfl

end Vrf

namespace Device

variable (device : Device)

/-- The loopback gets an interface of its own: it is configured and its name is not taken. -/
def HasOwnLoopback : Prop :=
  device.loopback.configured = true ∧
    ∀ interface ∈ device.interfaces.values, interface.name ≠ loopbackName

instance : Decidable device.HasOwnLoopback := inferInstanceAs (Decidable (_ ∧ _))

/-- The interfaces of a skeleton. -/
def routedInterfaces : List Interface :=
  device.interfaces.values.map (·.routed) ++
    if device.HasOwnLoopback then [device.loopback.routed] else []

/-- The bridged segments of a device. -/
def bridgedSegments : List Layer2Vni := device.vxlans.values.filterMap (bridgedSegment? device)

theorem ospf_eq_none_of_mem_routedInterfaces {interface : Interface}
    (member : interface ∈ device.routedInterfaces) : interface.ospf = none := by
  rw [routedInterfaces, List.mem_append, List.mem_map] at member
  rcases member with ⟨source, -, rfl⟩ | own
  · rfl
  · split at own
    · rw [List.mem_singleton.mp own]
      rfl
    · cases own

end Device

/-- The VRFs and interfaces are those of a skeleton with the given bridged segments. -/
structure Configuration.IsSkeleton (configuration : Configuration) (present : String → Prop)
    (interfaces : List Interface) (segments : List Layer2Vni) : Prop where
  vrfs : ∀ (name : String) (vrf : Vrf), configuration.vrfs[name]? = some vrf ↔
    present name ∧ vrf = Vrf.ground segments name
  interfaces : Table.Holds (·.name) configuration.interfaces interfaces

section Phases

variable {device : Device} {before after : Progress} {present : String → Prop}
  {interfaces : List Interface} {segments : List Layer2Vni}

theorem Configuration.isSkeleton_initial (hostname : String) :
    (initial hostname).IsSkeleton (· = defaultVrfName) [] [] where
  vrfs name vrf := by
    simp only [initial, ExtTreeMap.getElem?_insert, ExtTreeMap.getElem?_empty,
      LawfulEqOrd.compare_eq_iff_eq]
    by_cases same : defaultVrfName = name
    · subst same
      simp [eq_comm]
    · simp [same, Ne.symm same]
  interfaces := .empty

theorem isSkeleton_of_addDeclaredVrf {vrf : VrfDeclaration}
    (run : (addDeclaredVrf vrf).runFrom before = (.ok (), after))
    (has_default : present defaultVrfName)
    (skeleton : before.configuration.IsSkeleton present [] []) :
    after.configuration.IsSkeleton (fun name => present name ∨ name = vrf.name) [] [] := by
  rw [addDeclaredVrf] at run
  split at run
  · next is_default =>
      cases run
      refine ⟨fun name other => ?_, skeleton.interfaces⟩
      rw [skeleton.vrfs, is_default]
      refine and_congr_left fun _ => ⟨.inl, ?_⟩
      rintro (held | rfl)
      · exact held
      · exact has_default
  · next other_name =>
      have added : Configuration.vrfShelf.add before.configuration (.bare vrf.name) =
          (after.configuration, .ok ()) := configuration_of_runFrom_store run
      obtain ⟨fresh, same⟩ := Configuration.vrfShelf.add_eq_ok_iff.mp added
      rw [← same]
      refine ⟨fun name other => ?_, skeleton.interfaces⟩
      change (before.configuration.vrfs.insert vrf.name (.bare vrf.name))[name]? = _ ↔ _
      rw [ExtTreeMap.getElem?_insert]
      simp only [LawfulEqOrd.compare_eq_iff_eq]
      split
      · next own =>
          subst own
          simp [eq_comm]
      · next different =>
          rw [skeleton.vrfs]
          simp [Ne.symm different]

theorem isSkeleton_of_addDeclaredVrfs
    (run : (device.vrfs.all.forM addDeclaredVrf).runFrom (.initial device.hostname) =
      (.ok (), after)) :
    after.configuration.IsSkeleton device.HasVrf [] [] := by
  have all := made_of_runFrom_forM (fun done configuration => configuration.IsSkeleton
    (fun name => name = defaultVrfName ∨ name ∈ done.map (·.name)) [] []) ?each run ?start
  case each =>
    rintro done vrf rest - start next here skeleton
    refine { isSkeleton_of_addDeclaredVrf here (.inl rfl) skeleton with vrfs := ?_ }
    intro name other
    rw [(isSkeleton_of_addDeclaredVrf here (.inl rfl) skeleton).vrfs]
    simp only [List.map_append, List.mem_append, List.map_singleton, List.mem_singleton, or_assoc]
  case start => simpa [Progress.initial] using Configuration.isSkeleton_initial device.hostname
  simp only [VrfTable.map_name_all, ExtTreeMap.mem_keys] at all
  exact all

theorem isSkeleton_of_addDeviceInterface {interface : DeviceInterface}
    (run : (addDeviceInterface interface).runFrom before = (.ok (), after))
    (skeleton : before.configuration.IsSkeleton present interfaces segments) :
    after.configuration.IsSkeleton present (interfaces ++ [interface.routed]) segments := by
  have added : Configuration.interfaceShelf.add before.configuration interface.routed =
      (after.configuration, .ok ()) := by
    obtain ⟨_, _, asked, run⟩ := runFrom_bind_eq_ok_iff.mp run
    cases asked
    split at run
    · rw [runFrom_bind_of_ok _ (runFrom_warn _ _)] at run
      exact configuration_of_runFrom_store run
    · exact configuration_of_runFrom_store run
  have holds := Configuration.interfaceShelf.holds_of_add added skeleton.interfaces
  obtain ⟨-, same⟩ := Configuration.interfaceShelf.add_eq_ok_iff.mp added
  exact ⟨same ▸ skeleton.vrfs, holds⟩

theorem isSkeleton_of_addDeviceInterfaces
    (run : (device.interfaces.values.forM addDeviceInterface).runFrom before = (.ok (), after))
    (skeleton : before.configuration.IsSkeleton present [] segments) :
    after.configuration.IsSkeleton present (device.interfaces.values.map (·.routed)) segments := by
  refine made_of_runFrom_forM (fun done configuration =>
    configuration.IsSkeleton present (done.map (·.routed)) segments) ?_ run skeleton
  rintro done interface rest - start next here skeleton
  rw [List.map_append]
  exact isSkeleton_of_addDeviceInterface here skeleton

/-- The loopback is added unless an interface of the device has its name. -/
theorem isSkeleton_of_addLoopback
    (run : (addLoopback device.loopback).runFrom before = (.ok (), after))
    (skeleton : before.configuration.IsSkeleton present
      (device.interfaces.values.map (·.routed)) segments) :
    after.configuration.IsSkeleton present device.routedInterfaces segments := by
  have free : loopbackName ∉ before.configuration.interfaces ↔
      ∀ interface ∈ device.interfaces.values, interface.name ≠ loopbackName := by
    rw [skeleton.interfaces.mem_iff, List.map_map]
    simp [DeviceInterface.routed, Interface.ofAddresses]
  obtain ⟨_, _, asked, run⟩ := runFrom_bind_eq_ok_iff.mp run
  cases asked
  rw [Device.routedInterfaces]
  split at run
  · next own =>
      have added : Configuration.interfaceShelf.add before.configuration device.loopback.routed =
          (after.configuration, .ok ()) := configuration_of_runFrom_store run
      have holds := Configuration.interfaceShelf.holds_of_add added skeleton.interfaces
      obtain ⟨-, same⟩ := Configuration.interfaceShelf.add_eq_ok_iff.mp added
      rw [if_pos ⟨own.1, free.mp own.2⟩]
      exact ⟨same ▸ skeleton.vrfs, holds⟩
  · next taken =>
      cases run
      rw [if_neg fun own => taken ⟨own.1, free.mpr own.2⟩, List.append_nil]
      exact skeleton

theorem isSkeleton_of_addBridgedSegment {segment : Layer2Vni}
    (run : (addBridgedSegment segment).runFrom before = (.ok (), after))
    (skeleton : before.configuration.IsSkeleton present interfaces segments) :
    after.configuration.IsSkeleton present interfaces (segments ++ [segment]) := by
  obtain ⟨vrf, result, found, changed, same⟩ := Configuration.updateVrf_eq_ok_iff.mp
    (configuration_of_runFrom_store run)
  cases changed
  obtain ⟨has_default, rfl⟩ := (skeleton.vrfs _ _).mp found
  rw [← same]
  refine ⟨fun name vrf => ?_, skeleton.interfaces⟩
  rw [ExtTreeMap.getElem?_insert]
  simp only [LawfulEqOrd.compare_eq_iff_eq]
  split
  · next own =>
      subst own
      simp [Vrf.addLayer2Vni_ground, has_default, eq_comm]
  · next different =>
      rw [skeleton.vrfs, Vrf.ground_of_ne (Ne.symm different),
        Vrf.ground_of_ne (Ne.symm different)]

/-- The VRFs and interfaces of a skeleton. -/
theorem isSkeleton_of_buildSkeleton
    (run : (buildSkeleton device).runFrom (.initial device.hostname) = (.ok (), after)) :
    after.configuration.IsSkeleton device.HasVrf device.routedInterfaces
      device.bridgedSegments := by
  obtain ⟨_, declared, declare_run, run⟩ := runFrom_bind_eq_ok_iff.mp run
  obtain ⟨_, connected, interface_run, run⟩ := runFrom_bind_eq_ok_iff.mp run
  obtain ⟨_, looped, loopback_run, run⟩ := runFrom_bind_eq_ok_iff.mp run
  obtain ⟨_, bridged, segment_run, serve_run⟩ := runFrom_bind_eq_ok_iff.mp run
  have skeleton : looped.configuration.IsSkeleton device.HasVrf device.routedInterfaces [] :=
    isSkeleton_of_addLoopback loopback_run (isSkeleton_of_addDeviceInterfaces interface_run
      (isSkeleton_of_addDeclaredVrfs declare_run))
  have with_segments := made_of_runFrom_forM (fun done configuration =>
    configuration.IsSkeleton device.HasVrf device.routedInterfaces done) ?each segment_run skeleton
  case each =>
    rintro done segment rest - start next here skeleton
    exact isSkeleton_of_addBridgedSegment here skeleton
  cases serve_run
  have served : ∀ (servers : List Address) (configuration : Configuration),
      configuration.IsSkeleton device.HasVrf device.routedInterfaces device.bridgedSegments →
      (servers.foldl Configuration.addDnsServer configuration).IsSkeleton device.HasVrf
        device.routedInterfaces device.bridgedSegments := by
    intro servers
    induction servers with
    | nil => exact fun _ => id
    | cons server servers ih =>
        exact fun configuration skeleton => ih _ ⟨skeleton.vrfs, skeleton.interfaces⟩
  exact served _ _ with_segments

/-- Match lists leave VRFs and interfaces alone. -/
theorem isSkeleton_of_convertLists
    (run : (convertLists device).runFrom before = (.ok (), after))
    (skeleton : before.configuration.IsSkeleton present interfaces segments) :
    after.configuration.IsSkeleton present interfaces segments := by
  let frame : Frame := .invariant (·.IsSkeleton present interfaces segments)
  have communities : frame.Keeps (device.communityLists.values.forM
      fun list => store (Configuration.communityShelf.add · list.toCommunityList)) := by
    refine .forM fun list _ => .store fun before changed added skeleton => ?_
    obtain ⟨-, rfl⟩ := Configuration.communityShelf.add_eq_ok_iff.mp added
    exact ⟨skeleton.vrfs, skeleton.interfaces⟩
  have as_paths : frame.Keeps (device.asPathLists.values.forM
      fun list => store (Configuration.asPathShelf.add · list.toAccessList)) := by
    refine .forM fun list _ => .store fun before changed added skeleton => ?_
    obtain ⟨-, rfl⟩ := Configuration.asPathShelf.add_eq_ok_iff.mp added
    exact ⟨skeleton.vrfs, skeleton.interfaces⟩
  have prefixes : frame.Keeps (device.prefixLists.values.forM
      fun list => store (Configuration.routeFilterShelf.add · list.toRouteFilterList)) := by
    refine .forM fun list _ => .store fun before changed added skeleton => ?_
    obtain ⟨-, rfl⟩ := Configuration.routeFilterShelf.add_eq_ok_iff.mp added
    exact ⟨skeleton.vrfs, skeleton.interfaces⟩
  have keeps : frame.Keeps (convertLists device) :=
    .bind communities fun _ => .bind as_paths fun _ => prefixes
  exact keeps _ _ _ run skeleton

end Phases
end NeutralRouting
