import NeutralRouting.Proofs.OspfPhase
import NeutralRouting.Proofs.Result

/-!
# OSPF areas and the settings of interfaces

An interface that runs OSPF says so twice: in its own settings, and in an area of the process of its
VRF.  The two always agree, whatever the device is.
-/

namespace NeutralRouting

open Std Conversion

section Areas

variable {process : OspfProcess} {interfaces : List (String × OspfSettings)}

/-- The areas of a process are those of the given interfaces, each of which stands in its own. -/
structure OspfProcess.Groups (process : OspfProcess) (interfaces : List (String × OspfSettings)) :
    Prop where
  mem_areas_iff : ∀ key : UInt32, key ∈ process.areas ↔
    ∃ name settings, (name, settings) ∈ interfaces ∧ settings.area = key
  number : ∀ (key : UInt32) (area : OspfArea), process.areas[key]? = some area → area.number = key
  mem_interfaces_iff : ∀ (key : UInt32) (area : OspfArea), process.areas[key]? = some area →
    ∀ name, name ∈ area.interfaces ↔
      ∃ settings, (name, settings) ∈ interfaces ∧ settings.area = key

/-- The interfaces of an area, of which there are none before it is created. -/
theorem OspfProcess.Groups.mem_getD_iff (groups : process.Groups interfaces) (key : UInt32)
    (name : String) :
    name ∈ (process.areas[key]?.map (·.interfaces)).getD ∅ ↔
      ∃ settings, (name, settings) ∈ interfaces ∧ settings.area = key := by
  cases found : process.areas[key]? with
  | none =>
      have absent : key ∉ process.areas := by
        rw [Table.mem_iff_getElem?_eq_some, found]
        simp
      rw [groups.mem_areas_iff] at absent
      refine iff_of_false ExtTreeSet.not_mem_empty ?_
      rintro ⟨settings, listed, own⟩
      exact absent ⟨name, settings, listed, own⟩
  | some area => exact groups.mem_interfaces_iff key area found name

/-- One more interface is put into its area. -/
theorem OspfProcess.Groups.addInterface (groups : process.Groups interfaces) (name : String)
    (settings : OspfSettings) :
    (process.addInterface settings.area name).Groups (interfaces ++ [(name, settings)]) where
  mem_areas_iff key := by
    change key ∈ process.areas.insert _ _ ↔ _
    simp only [ExtTreeMap.mem_insert, LawfulEqOrd.compare_eq_iff_eq, groups.mem_areas_iff,
      List.mem_append, List.mem_singleton, or_and_right, exists_or, Prod.mk.injEq]
    constructor
    · rintro (rfl | earlier)
      · exact .inr ⟨name, settings, ⟨rfl, rfl⟩, rfl⟩
      · exact .inl earlier
    · rintro (earlier | ⟨_, _, ⟨rfl, rfl⟩, own⟩)
      · exact .inr earlier
      · exact .inl own
  number key area found := by
    change (process.areas.insert _ _)[key]? = _ at found
    rw [ExtTreeMap.getElem?_insert] at found
    split at found
    · next own =>
        cases found
        exact LawfulEqOrd.eq_of_compare own
    · exact groups.number key area found
  mem_interfaces_iff key area found other := by
    change (process.areas.insert _ _)[key]? = _ at found
    simp only [List.mem_append, List.mem_singleton, or_and_right, exists_or, Prod.mk.injEq]
    rw [ExtTreeMap.getElem?_insert] at found
    split at found
    · next own =>
        cases found
        have same : settings.area = key := LawfulEqOrd.eq_of_compare own
        rw [ExtTreeSet.mem_insert, groups.mem_getD_iff, LawfulEqOrd.compare_eq_iff_eq, same]
        constructor
        · rintro (rfl | earlier)
          · exact .inr ⟨settings, ⟨rfl, rfl⟩, same⟩
          · exact .inl earlier
        · rintro (earlier | ⟨_, ⟨rfl, rfl⟩, -⟩)
          · exact .inr earlier
          · exact .inl rfl
    · next different =>
        rw [groups.mem_interfaces_iff key area found]
        refine ⟨.inl, fun listed => listed.resolve_right ?_⟩
        rintro ⟨_, ⟨rfl, rfl⟩, own⟩
        exact different (LawfulEqOrd.compare_eq_iff_eq.mpr own)

/-- The areas of the process of an instance. -/
theorem groups_ospfInstanceProcess (device : Device) (params : ConversionParams)
    (inst : OspfInstance) (interfaces : List (String × OspfSettings)) :
    (ospfInstanceProcess device params inst interfaces).Groups interfaces := by
  rw [ospfInstanceProcess]
  induction interfaces using List.reverseRecOn with
  | nil =>
      refine ⟨fun key => ?_, fun key area found => ?_, fun key area found => ?_⟩
      · exact iff_of_false ExtTreeMap.not_mem_empty (by simp)
      · simp at found
      · simp at found
  | append_singleton interfaces interface ih =>
      rw [List.foldl_append]
      exact ih.addInterface interface.1 interface.2

theorem name_ospfInstanceProcess (device : Device) (params : ConversionParams)
    (inst : OspfInstance) (interfaces : List (String × OspfSettings)) :
    (ospfInstanceProcess device params inst interfaces).name = params.ospfProcess := by
  rw [ospfInstanceProcess]
  induction interfaces using List.reverseRecOn with
  | nil => rfl
  | append_singleton interfaces interface ih =>
      rw [List.foldl_append]
      exact ih

end Areas

theorem process_of_ospfSettings? {device : Device} {params : ConversionParams} {interface : String}
    {settings : OspfSettings} (known : ospfSettings? device params interface = some settings) :
    settings.process = params.ospfProcess := by
  obtain ⟨options, -, known⟩ := Option.bind_eq_some_iff.mp known
  obtain ⟨area, -, rfl⟩ := Option.map_eq_some_iff.mp known
  rfl

/-- The OSPF process of a VRF. -/
def Configuration.ospfProcess? (configuration : Configuration) (vrf : String) :
    Option OspfProcess :=
  configuration.vrfs[vrf]? >>= (·.ospf)

theorem Configuration.ospfProcess?_underlay (configuration : Configuration) (vrf : String) :
    configuration.underlay.ospfProcess? vrf = configuration.ospfProcess? vrf := by
  rw [ospfProcess?, ospfProcess?, underlay, ExtTreeMap.getElem?_map]
  cases configuration.vrfs[vrf]? <;> rfl

section Conversions

variable {device : Device} {params : ConversionParams} {compile : RouteMapCompiler}
  {progress : Progress}

/-- Some OSPF instance of the device names the VRF. -/
def Device.NamesOspf (device : Device) (vrf : String) : Prop :=
  ∃ instances, device.ospf = some instances ∧ ∃ inst ∈ instances.all, inst.vrf = vrf

theorem Device.namesOspf_iff {vrf : String} :
    device.NamesOspf vrf ↔ vrf ∈ device.ospfInstances.map (·.vrf) := by
  rw [NamesOspf, ospfInstances, List.mem_map]
  cases device.ospf with
  | none => simp
  | some instances => simp

/-- Interfaces of VRFs that OSPF instances name have the settings that the device has for them, and
these VRFs run processes made from these interfaces. -/
structure Configuration.RunsOspf (configuration : Configuration) (device : Device)
    (params : ConversionParams) : Prop where
  keyed : Table.KeyedBy (·.name) configuration.interfaces
  built : ∀ (name : String) (interface : Interface),
    configuration.interfaces[name]? = some interface →
    ∃ source ∈ device.routedInterfaces, source.name = name ∧
      interface = { source with ospf := interface.ospf }
  ospfProcess?_eq_some_iff : ∀ vrf process, configuration.ospfProcess? vrf = some process ↔
    vrf ∈ configuration.vrfs ∧ ∃ inst,
      device.ospfInstances.reverse.find? (·.vrf = vrf) = some inst ∧
      ospfInstanceProcess device params inst (configuration.ospfInterfaces device params vrf) =
        process
  settings_of_named : ∀ (name : String) (interface : Interface),
    configuration.interfaces[name]? = some interface → interface.vrf ∈ configuration.vrfs →
    device.NamesOspf interface.vrf → interface.ospf = ospfSettings? device params name
  unset : ∀ (name : String) (interface : Interface),
    configuration.interfaces[name]? = some interface →
    ¬(interface.vrf ∈ configuration.vrfs ∧ device.NamesOspf interface.vrf) → interface.ospf = none

theorem Configuration.ospfProcess?_runOspf_eq_some_iff {ground : Configuration}
    {present : String → Prop} {interfaces : List Interface} {segments : List Layer2Vni}
    (skeleton : ground.IsSkeleton present interfaces segments) (instances : List OspfInstance)
    {vrf : String} {process : OspfProcess} :
    (ground.runOspf device params instances).ospfProcess? vrf = some process ↔
      vrf ∈ ground.vrfs ∧ ∃ inst, instances.reverse.find? (·.vrf = vrf) = some inst ∧
        ospfInstanceProcess device params inst (ground.ospfInterfaces device params vrf) =
          process := by
  change (ground.vrfs.map _)[vrf]? >>= _ = _ ↔ _
  rw [ExtTreeMap.getElem?_map, Table.mem_iff_getElem?_eq_some]
  cases found : ground.vrfs[vrf]? with
  | none => simp
  | some entry =>
      obtain ⟨-, rfl⟩ := (skeleton.vrfs vrf entry).mp found
      have idle : (Vrf.ground segments vrf).ospf = none := rfl
      rw [Option.map_some, route]
      cases instances.reverse.find? (·.vrf = vrf) <;> simp [idle]

/-- What OSPF adds is there after a conversion. -/
theorem runsOspf_of_convert (converted : device.convert params compile = .ok progress) :
    progress.configuration.RunsOspf device params := by
  obtain ⟨_, listed, -, -, skeleton, same⟩ := underlay_of_convert converted
  have same_vrfs : ∀ vrf : String, vrf ∈ progress.configuration.vrfs ↔
      vrf ∈ listed.configuration.underlay.vrfs := by
    intro vrf
    have kept : vrf ∈ progress.configuration.underlay.vrfs ↔
        vrf ∈ listed.configuration.underlay.vrfs := by
      rw [same, Configuration.mem_vrfs_runOspf_iff]
    rwa [Configuration.underlay, ExtTreeMap.mem_map] at kept
  have settled : ∀ (name : String) (interface : Interface),
      progress.configuration.interfaces[name]? = some interface →
      ∃ earlier, listed.configuration.interfaces[name]? = some earlier ∧ earlier.name = name ∧
        earlier.ospf = none ∧ listed.configuration.underlay.settle device params
          device.ospfInstances earlier = interface := by
    intro name interface found
    have moved : progress.configuration.interfaces[name]? =
        listed.configuration.interfaces[name]?.map _ :=
      (congrArg (fun configuration => configuration.interfaces[name]?) same).trans
        ExtTreeMap.getElem?_map
    rw [found] at moved
    obtain ⟨earlier, here, settled⟩ := Option.map_eq_some_iff.mp moved.symm
    exact ⟨earlier, here, skeleton.isUnsettled.keyed name earlier here,
      skeleton.isUnsettled.unset name earlier here, settled⟩
  have interfaces : ∀ vrf, progress.configuration.ospfInterfaces device params vrf =
      listed.configuration.underlay.ospfInterfaces device params vrf := by
    intro vrf
    change progress.configuration.underlay.ospfInterfaces device params vrf = _
    rw [same, Configuration.ospfInterfaces_runOspf]
  refine ⟨fun name interface found => ?keyed, fun name interface found => ?built,
    fun vrf process => ?running,
    fun name interface found present named => ?named, fun name interface found idle => ?unset⟩
  case keyed =>
    obtain ⟨earlier, -, own_name, -, rfl⟩ := settled name interface found
    exact (Configuration.name_settle _ _).trans own_name
  case built =>
    obtain ⟨earlier, here, own_name, -, rfl⟩ := settled name interface found
    refine ⟨earlier, ?_, own_name, ?_⟩
    · exact ((skeleton.interfaces.getElem?_eq_some_iff name earlier).mp here).1
    · rw [Configuration.settle]
      split <;> rfl
  case running =>
    rw [← Configuration.ospfProcess?_underlay, same, interfaces, same_vrfs,
      Configuration.ospfProcess?_runOspf_eq_some_iff skeleton]
  case named =>
    obtain ⟨earlier, -, own_name, -, rfl⟩ := settled name interface found
    rw [Configuration.vrf_settle] at present named
    rw [Configuration.settle, if_pos ⟨(same_vrfs _).mp present, Device.namesOspf_iff.mp named⟩,
      own_name]
  case unset =>
    obtain ⟨earlier, -, -, unset, rfl⟩ := settled name interface found
    rw [Configuration.vrf_settle, same_vrfs, Device.namesOspf_iff] at idle
    rw [Configuration.settle, if_neg idle, unset]

namespace Configuration.RunsOspf

variable {configuration : Configuration} (runs : configuration.RunsOspf device params)
include runs

theorem isSome_ospfProcess?_iff {vrf : String} (present : vrf ∈ configuration.vrfs) :
    (configuration.ospfProcess? vrf).isSome = true ↔ device.NamesOspf vrf := by
  rw [Option.isSome_iff_exists, Device.namesOspf_iff]
  simp only [runs.ospfProcess?_eq_some_iff, present, true_and]
  constructor
  · rintro ⟨_, inst, search, -⟩
    have member := List.mem_reverse.mp (List.mem_of_find?_eq_some search)
    exact List.mem_map.mpr ⟨inst, member, by simpa using List.find?_some search⟩
  · intro named
    obtain ⟨inst, member, own⟩ := List.mem_map.mp named
    have some_inst : (device.ospfInstances.reverse.find? (·.vrf = vrf)).isSome = true :=
      List.find?_isSome.mpr ⟨inst, List.mem_reverse.mpr member, decide_eq_true own⟩
    obtain ⟨last, search⟩ := Option.isSome_iff_exists.mp some_inst
    exact ⟨_, last, search, rfl⟩

theorem named_of_running {vrf : String} {process : OspfProcess}
    (running : configuration.ospfProcess? vrf = some process) :
    vrf ∈ configuration.vrfs ∧ device.NamesOspf vrf := by
  have present := ((runs.ospfProcess?_eq_some_iff vrf process).mp running).1
  refine ⟨present, (runs.isSome_ospfProcess?_iff present).mp ?_⟩
  rw [running]
  rfl

/-- The areas of a process are made from the interfaces of its VRF. -/
theorem groups {vrf : String} {process : OspfProcess}
    (running : configuration.ospfProcess? vrf = some process) :
    process.name = params.ospfProcess ∧
      process.Groups (configuration.ospfInterfaces device params vrf) := by
  obtain ⟨-, inst, -, rfl⟩ := (runs.ospfProcess?_eq_some_iff vrf process).mp running
  exact ⟨name_ospfInstanceProcess _ _ _ _, groups_ospfInstanceProcess _ _ _ _⟩

theorem exists_running_of_settings {name : String} {interface : Interface}
    {settings : OspfSettings} (found : configuration.interfaces[name]? = some interface)
    (settled : interface.ospf = some settings) :
    ∃ process, configuration.ospfProcess? interface.vrf = some process := by
  have named : interface.vrf ∈ configuration.vrfs ∧ device.NamesOspf interface.vrf := by
    by_contra idle
    rw [runs.unset name interface found idle] at settled
    cases settled
  exact Option.isSome_iff_exists.mp ((runs.isSome_ospfProcess?_iff named.1).mpr named.2)

theorem interface_of_mem_interfacesIn {vrf : String} {interface : Interface}
    (member : interface ∈ configuration.interfacesIn vrf) :
    configuration.interfaces[interface.name]? = some interface ∧ interface.vrf = vrf := by
  obtain ⟨member, own_vrf⟩ := List.mem_filter.mp member
  exact ⟨runs.keyed.getElem?_name member, of_decide_eq_true own_vrf⟩

/-- The interfaces that a process is made from are those of its VRF that have settings. -/
theorem mem_ospfInterfaces_iff {vrf name : String} {process : OspfProcess}
    {settings : OspfSettings} (running : configuration.ospfProcess? vrf = some process) :
    (name, settings) ∈ configuration.ospfInterfaces device params vrf ↔
      ∃ interface ∈ configuration.interfacesIn vrf, interface.name = name ∧
        interface.ospf = some settings := by
  obtain ⟨present, named⟩ := runs.named_of_running running
  have settings_of_mem : ∀ interface ∈ configuration.interfacesIn vrf,
      interface.ospf = ospfSettings? device params interface.name := by
    intro interface member
    obtain ⟨found, rfl⟩ := runs.interface_of_mem_interfacesIn member
    exact runs.settings_of_named _ interface found present named
  rw [ospfInterfaces, List.mem_filterMap]
  constructor
  · rintro ⟨_, listed, mapped⟩
    obtain ⟨interface, member, rfl⟩ := List.mem_map.mp listed
    obtain ⟨own, known, same⟩ := Option.map_eq_some_iff.mp mapped
    cases same
    exact ⟨interface, member, rfl, (settings_of_mem interface member).trans known⟩
  · rintro ⟨interface, member, rfl, settled⟩
    rw [settings_of_mem interface member] at settled
    exact ⟨interface.name, List.mem_map_of_mem member, by rw [settled]; rfl⟩

/-- The areas of a process are those that settings of interfaces of its VRF name. -/
theorem mem_areas_iff {vrf : String} {process : OspfProcess}
    (running : configuration.ospfProcess? vrf = some process) (key : UInt32) :
    key ∈ process.areas ↔ ∃ interface ∈ configuration.interfacesIn vrf, ∃ settings,
      interface.ospf = some settings ∧ settings.area = key := by
  rw [(runs.groups running).2.mem_areas_iff]
  simp only [runs.mem_ospfInterfaces_iff running]
  constructor
  · rintro ⟨_, settings, ⟨interface, member, -, settled⟩, same⟩
    exact ⟨interface, member, settings, settled, same⟩
  · rintro ⟨interface, member, settings, settled, same⟩
    exact ⟨_, settings, ⟨interface, member, rfl, settled⟩, same⟩

/-- An area lists the interfaces of the VRF whose settings name it. -/
theorem mem_interfaces_iff {vrf : String} {process : OspfProcess} {key : UInt32} {area : OspfArea}
    (running : configuration.ospfProcess? vrf = some process)
    (found : process.areas[key]? = some area) (name : String) :
    name ∈ area.interfaces ↔ ∃ interface ∈ configuration.interfacesIn vrf,
      interface.name = name ∧ ∃ settings, interface.ospf = some settings ∧
        settings.area = key := by
  rw [(runs.groups running).2.mem_interfaces_iff key area found]
  simp only [runs.mem_ospfInterfaces_iff running]
  constructor
  · rintro ⟨settings, ⟨interface, member, own, settled⟩, same⟩
    exact ⟨interface, member, own, settings, settled, same⟩
  · rintro ⟨interface, member, own, settings, settled, same⟩
    exact ⟨settings, ⟨interface, member, own, settled⟩, same⟩

/-- An interface is listed by no area but the one that its settings name, of its own VRF. -/
theorem place_unique {interface : Interface} {settings : OspfSettings} {vrf : String}
    {process : OspfProcess} {key : UInt32} {area : OspfArea}
    (found : configuration.interfaces[interface.name]? = some interface)
    (settled : interface.ospf = some settings)
    (running : configuration.ospfProcess? vrf = some process)
    (area_found : process.areas[key]? = some area) (stands : interface.name ∈ area.interfaces) :
    vrf = interface.vrf ∧ key = settings.area := by
  obtain ⟨same, member, same_name, own, own_settled, rfl⟩ :=
    (runs.mem_interfaces_iff running area_found interface.name).mp stands
  obtain ⟨same_found, rfl⟩ := runs.interface_of_mem_interfacesIn member
  rw [same_name, found] at same_found
  cases same_found
  rw [settled] at own_settled
  cases own_settled
  exact ⟨rfl, rfl⟩

/-- The settings of an interface name the process of its VRF. -/
theorem process_of_settings {interface : Interface} {settings : OspfSettings}
    {process : OspfProcess}
    (found : configuration.interfaces[interface.name]? = some interface)
    (settled : interface.ospf = some settings)
    (running : configuration.ospfProcess? interface.vrf = some process) :
    settings.process = process.name := by
  obtain ⟨present, named⟩ := runs.named_of_running running
  rw [runs.settings_of_named _ interface found present named] at settled
  rw [process_of_ospfSettings? settled, (runs.groups running).1]

end Configuration.RunsOspf

/-- After a conversion that succeeds the areas of OSPF processes and the settings of interfaces say
the same, and only interfaces of VRFs that run OSPF have settings. -/
theorem convert_ospf_areas_agree (converted : device.convert params compile = .ok progress) :
    let configuration := progress.configuration
    (∀ vrf : String, vrf ∈ configuration.vrfs →
      ((configuration.ospfProcess? vrf).isSome = true ↔
        ∃ instances, device.ospf = some instances ∧ ∃ inst ∈ instances.all, inst.vrf = vrf)) ∧
    (∀ vrf process, configuration.ospfProcess? vrf = some process →
      (∀ key : UInt32, key ∈ process.areas ↔
        ∃ interface ∈ configuration.interfacesIn vrf, ∃ settings,
          interface.ospf = some settings ∧ settings.area = key) ∧
      ∀ (key : UInt32) (area : OspfArea), process.areas[key]? = some area →
        area.number = key ∧
          ∀ name, name ∈ area.interfaces ↔
            ∃ interface ∈ configuration.interfacesIn vrf, interface.name = name ∧
              ∃ settings, interface.ospf = some settings ∧ settings.area = key) ∧
    (∀ interface ∈ configuration.interfaces.values, ∀ settings,
      interface.ospf = some settings →
      ∃ process area, configuration.ospfProcess? interface.vrf = some process ∧
        settings.process = process.name ∧ process.areas[settings.area]? = some area ∧
        interface.name ∈ area.interfaces ∧
        ∀ vrf other (key : UInt32) listing, configuration.ospfProcess? vrf = some other →
          other.areas[key]? = some listing → interface.name ∈ listing.interfaces →
          vrf = interface.vrf ∧ key = settings.area) ∧
    ∀ interface ∈ configuration.interfaces.values,
      configuration.ospfProcess? interface.vrf = none → interface.ospf = none := by
  intro configuration
  have runs : configuration.RunsOspf device params := runsOspf_of_convert converted
  refine ⟨fun vrf present => ?running, fun vrf process running => ⟨?keys, ?listing⟩,
    fun interface member settings settled => ?place, fun interface member idle => ?unset⟩
  case running => exact runs.isSome_ospfProcess?_iff present
  case keys => exact runs.mem_areas_iff running
  case listing =>
    intro key area found
    exact ⟨(runs.groups running).2.number key area found, runs.mem_interfaces_iff running found⟩
  case place =>
    have found := runs.keyed.getElem?_name member
    have in_vrf : interface ∈ configuration.interfacesIn interface.vrf :=
      List.mem_filter.mpr ⟨member, decide_eq_true rfl⟩
    obtain ⟨process, running⟩ := runs.exists_running_of_settings found settled
    obtain ⟨area, area_found⟩ := Table.mem_iff_getElem?_eq_some.mp
      ((runs.mem_areas_iff running settings.area).mpr ⟨interface, in_vrf, settings, settled, rfl⟩)
    refine ⟨process, area, running, runs.process_of_settings found settled running, area_found,
      ?stands, ?alone⟩
    case stands =>
      exact (runs.mem_interfaces_iff running area_found interface.name).mpr
        ⟨interface, in_vrf, rfl, settings, settled, rfl⟩
    case alone =>
      intro vrf other key listing other_running listing_found stands
      exact runs.place_unique found settled other_running listing_found stands
  case unset =>
    cases settled : interface.ospf with
    | none => rfl
    | some settings =>
        obtain ⟨process, running⟩ :=
          runs.exists_running_of_settings (runs.keyed.getElem?_name member) settled
        rw [idle] at running
        cases running

/-- A device that runs OSPF in two VRFs.  The loopback and an interface of the default VRF are in
area 0, and an interface of the other VRF is in area 1. -/
def areaRouter : Device :=
  { Device.bare "areas" with
    ospf := some ⟨⟨defaultVrfName, none⟩,
      (∅ : ExtTreeMap String OspfInstance).insert "blue" ⟨"blue", none⟩⟩
    vrfs := ⟨(∅ : ExtTreeMap String (Option UInt32)).insert "blue" none⟩
    interfaces := ((∅ : ExtTreeMap String DeviceInterface).insert "swp1"
      ⟨"swp1", none, [], some ⟨some 0, none, none, none, none⟩⟩).insert "swp2"
      ⟨"swp2", some "blue", [], some ⟨some 1, some true, none, none, none⟩⟩
    loopback := ⟨true, [], some ⟨some 0, none, none, none, none⟩⟩ }

/-- The interface `swp2` is in area 1 of the other VRF, and the area lists it. -/
theorem convert_areaRouter_areas :
    ∃ progress process interface settings area,
      areaRouter.convert .standard entrywiseCompiler = .ok progress ∧
      progress.configuration.interfaces["swp2"]? = some interface ∧
      interface.ospf = some settings ∧ settings.area = 1 ∧
      progress.configuration.ospfProcess? "blue" = some process ∧
      settings.process = process.name ∧ process.areas[(1 : UInt32)]? = some area ∧
      area.number = 1 ∧ "swp2" ∈ area.interfaces := by
  have checked : ((areaRouter.convert .standard entrywiseCompiler).toOption.any fun progress =>
      (progress.configuration.interfaces["swp2"]?).any fun interface =>
        interface.name = "swp2" && interface.vrf = "blue" &&
          interface.ospf.any (·.area = 1)) = true := by decide +kernel
  simp only [Option.any_eq_true, Bool.and_eq_true, decide_eq_true_iff, toOption_eq_some_iff]
    at checked
  obtain ⟨progress, converted, interface, found, ⟨own_name, own_vrf⟩, settings, settled, one⟩ :=
    checked
  obtain ⟨-, areas, places, -⟩ := convert_ospf_areas_agree converted
  obtain ⟨process, area, running, own_process, area_found, stands, -⟩ :=
    places interface (Table.mem_values_iff.mpr ⟨_, found⟩) settings settled
  have number := ((areas _ _ running).2 _ _ area_found).1
  rw [own_name] at stands
  rw [own_vrf] at running
  rw [one] at area_found number
  exact ⟨progress, process, interface, settings, area, converted, found, settled, one, running,
    own_process, area_found, number, stands⟩

end Conversions
end NeutralRouting
