import NeutralRouting.Proofs.Failure
import NeutralRouting.Proofs.Underlay

/-!
# What OSPF adds to a configuration

OSPF touches two things only: the interfaces of VRFs that some instance names, and the processes of
these VRFs.  What it makes of a configuration is written down at once here.  An interface gets the
same settings whenever its VRF is named again, so the order and number of the instances matter for
the process of the VRF alone.
-/

namespace NeutralRouting

open Std Conversion

/-- The OSPF instances of a device, in the order in which they are converted. -/
def Device.ospfInstances (device : Device) : List OspfInstance :=
  match device.ospf with
  | none => []
  | some instances => instances.all

namespace Configuration

variable (configuration : Configuration) (device : Device) (params : ConversionParams)

/-- The interfaces of a VRF that run OSPF, with their settings. -/
def ospfInterfaces (vrf : String) : List (String × OspfSettings) :=
  ((configuration.interfacesIn vrf).map (·.name)).filterMap fun name =>
    (ospfSettings? device params name).map fun settings => (name, settings)

/-- What instances make of an interface: it gets its settings if some instance names its VRF. -/
def settle (instances : List OspfInstance) (interface : Interface) : Interface :=
  if interface.vrf ∈ configuration.vrfs ∧ interface.vrf ∈ instances.map (·.vrf) then
    { interface with ospf := ospfSettings? device params interface.name }
  else interface

/-- What instances make of a VRF: the last one that names it gives it a process. -/
def route (instances : List OspfInstance) (name : String) (vrf : Vrf) : Vrf :=
  match instances.reverse.find? (·.vrf = name) with
  | none => vrf
  | some inst =>
    { vrf with
      ospf := some (ospfInstanceProcess device params inst
        (configuration.ospfInterfaces device params name)) }

/-- The configuration after OSPF instances are converted. -/
def runOspf (instances : List OspfInstance) : Configuration :=
  { configuration with
    interfaces := configuration.interfaces.map fun _ => configuration.settle device params instances
    vrfs := configuration.vrfs.map (configuration.route device params instances) }

variable {configuration device params}

theorem mem_vrfs_runOspf_iff {instances : List OspfInstance} {name : String} :
    name ∈ (configuration.runOspf device params instances).vrfs ↔ name ∈ configuration.vrfs :=
  ExtTreeMap.mem_map

theorem runOspf_nil : configuration.runOspf device params [] = configuration := by
  have settled : configuration.settle device params [] = fun interface => interface := by
    funext interface
    simp [settle]
  have routed : configuration.route device params [] = fun _ vrf => vrf := by
    funext name vrf
    rfl
  simp [runOspf, settled, routed, ExtTreeMap.map_id]

@[simp]
theorem name_settle (instances : List OspfInstance) (interface : Interface) :
    (configuration.settle device params instances interface).name = interface.name := by
  rw [settle]
  split <;> rfl

@[simp]
theorem vrf_settle (instances : List OspfInstance) (interface : Interface) :
    (configuration.settle device params instances interface).vrf = interface.vrf := by
  rw [settle]
  split <;> rfl

/-- Interfaces keep their names and VRFs. -/
theorem ospfInterfaces_runOspf (instances : List OspfInstance) (vrf : String) :
    (configuration.runOspf device params instances).ospfInterfaces device params vrf =
      configuration.ospfInterfaces device params vrf := by
  have names : ((configuration.runOspf device params instances).interfacesIn vrf).map (·.name) =
      (configuration.interfacesIn vrf).map (·.name) := by
    rw [interfacesIn, interfacesIn, Table.values_eq_map_snd, Table.values_eq_map_snd]
    change ((((configuration.interfaces.map _).toList.map (·.2)).filter _).map _) = _
    rw [ExtTreeMap.toList_map, List.map_map, List.filter_map, List.filter_map, List.map_map,
      List.map_map]
    simp [Function.comp_def]
  rw [ospfInterfaces, names]
  rfl

theorem settle_append {inst : OspfInstance} (has_vrf : inst.vrf ∈ configuration.vrfs)
    (instances : List OspfInstance) (interface : Interface) :
    configuration.settle device params (instances ++ [inst]) interface =
      if interface.vrf = inst.vrf then
        { interface with ospf := ospfSettings? device params interface.name }
      else configuration.settle device params instances interface := by
  simp only [settle, List.map_append, List.mem_append, List.map_singleton, List.mem_singleton]
  by_cases own : interface.vrf = inst.vrf
  · simp [own, has_vrf]
  · simp [own]

theorem route_append (inst : OspfInstance) (instances : List OspfInstance) (name : String)
    (vrf : Vrf) :
    configuration.route device params (instances ++ [inst]) name vrf =
      if inst.vrf = name then
        { vrf with
          ospf := some (ospfInstanceProcess device params inst
            (configuration.ospfInterfaces device params name)) }
      else configuration.route device params instances name vrf := by
  rw [route, List.reverse_append, List.reverse_singleton, List.singleton_append, List.find?_cons]
  by_cases own : inst.vrf = name
  · simp [own]
  · simp [own, route]

/-- An instance whose VRF does not exist adds nothing. -/
theorem runOspf_append_of_not_mem {inst : OspfInstance} (no_vrf : inst.vrf ∉ configuration.vrfs)
    (instances : List OspfInstance) :
    configuration.runOspf device params (instances ++ [inst]) =
      configuration.runOspf device params instances := by
  have settled : configuration.settle device params (instances ++ [inst]) =
      configuration.settle device params instances := by
    funext interface
    have same : interface.vrf ∈ configuration.vrfs → interface.vrf ≠ inst.vrf :=
      fun present equal => no_vrf (equal ▸ present)
    simp only [settle, List.map_append, List.mem_append, List.map_singleton, List.mem_singleton]
    refine if_congr (and_congr_right fun present => ?_) rfl rfl
    simp [same present]
  have routed : configuration.vrfs.map (configuration.route device params (instances ++ [inst])) =
      configuration.vrfs.map (configuration.route device params instances) := by
    apply ExtTreeMap.ext_getElem?
    intro name
    rw [ExtTreeMap.getElem?_map, ExtTreeMap.getElem?_map]
    cases found : configuration.vrfs[name]? with
    | none => rfl
    | some vrf =>
        have different : inst.vrf ≠ name := by
          rintro rfl
          exact no_vrf (Table.mem_iff_getElem?_eq_some.mpr ⟨vrf, found⟩)
        rw [Option.map_some, Option.map_some, route_append, if_neg different]
  rw [runOspf, settled, routed]
  rfl

/-- Settings are given to the named interfaces that have some. -/
theorem getElem?_configureOspfInterfaces (settings? : String → Option OspfSettings)
    (names : List String) (key : String) :
    (configureOspfInterfaces (names.filterMap fun name =>
      (settings? name).map fun settings => (name, settings)) configuration).interfaces[key]? =
      configuration.interfaces[key]?.map fun interface =>
        if key ∈ names then { interface with ospf := settings? key <|> interface.ospf }
        else interface := by
  induction names generalizing configuration with
  | nil => simp [configureOspfInterfaces]
  | cons name names ih =>
      cases known : settings? name with
      | none =>
          rw [List.filterMap_cons_none (by rw [known]; rfl), ih]
          refine congrArg (Option.map · _) (funext fun interface => ?_)
          by_cases own : key = name
          · subst own
            simp [known]
          · simp [own]
      | some settings =>
          rw [List.filterMap_cons_some (by rw [known]; rfl)]
          change (configureOspfInterfaces _ (configuration.modifyInterface name _)).interfaces[key]?
            = _
          rw [ih, modifyInterface, ExtTreeMap.getElem?_modify]
          simp only [LawfulEqOrd.compare_eq_iff_eq]
          by_cases own : name = key
          · subst own
            rw [if_pos rfl, Option.map_map]
            refine congrArg (Option.map · _) (funext fun interface => ?_)
            simp [known]
          · rw [if_neg own]
            refine congrArg (Option.map · _) (funext fun interface => ?_)
            simp [Ne.symm own]

/-- BGP has no part in what OSPF adds. -/
theorem underlay_runOspf (instances : List OspfInstance) :
    (configuration.runOspf device params instances).underlay =
      configuration.underlay.runOspf device params instances := by
  have settled : configuration.settle device params instances =
      configuration.underlay.settle device params instances := by
    funext interface
    have same : interface.vrf ∈ configuration.underlay.vrfs ↔
        interface.vrf ∈ configuration.vrfs := ExtTreeMap.mem_map
    simp only [settle, same]
  have routed : ∀ name vrf, (configuration.route device params instances name vrf).underlay =
      configuration.underlay.route device params instances name vrf.underlay := by
    intro name vrf
    rw [route, route]
    split <;> rfl
  simp only [runOspf, underlay, ExtTreeMap.map_map, routed]
  rw [settled]
  rfl

theorem configureOspfInterfaces_eq (interfaces : List (String × OspfSettings))
    (configuration : Configuration) :
    configureOspfInterfaces interfaces configuration =
      { configuration with
        interfaces := (configureOspfInterfaces interfaces configuration).interfaces } := by
  induction interfaces generalizing configuration with
  | nil => rfl
  | cons interface interfaces ih => exact ih _

end Configuration

/-- What OSPF starts from: interfaces under their names, which have no settings yet. -/
structure Configuration.IsUnsettled (configuration : Configuration) : Prop where
  keyed : Table.KeyedBy (·.name) configuration.interfaces
  unset : ∀ (name : String) (interface : Interface),
    configuration.interfaces[name]? = some interface → interface.ospf = none

section Steps

variable {device : Device} {params : ConversionParams} {before after : Progress}
  {ground : Configuration}

/-- The interfaces of the VRF of one more instance are settled. -/
theorem interfaces_of_configureOspfInterfaces (unsettled : ground.IsUnsettled)
    {inst : OspfInstance} (has_vrf : inst.vrf ∈ ground.vrfs) (done : List OspfInstance) :
    (configureOspfInterfaces (ground.ospfInterfaces device params inst.vrf)
      (ground.runOspf device params done)).interfaces =
        (ground.runOspf device params (done ++ [inst])).interfaces := by
  apply ExtTreeMap.ext_getElem?
  intro key
  rw [Configuration.ospfInterfaces, Configuration.getElem?_configureOspfInterfaces]
  change (ground.interfaces.map _)[key]?.map _ = (ground.interfaces.map _)[key]?
  rw [ExtTreeMap.getElem?_map, ExtTreeMap.getElem?_map, Option.map_map]
  cases found : ground.interfaces[key]? with
  | none => rfl
  | some interface =>
      obtain rfl : interface.name = key := unsettled.keyed key interface found
      have unset := unsettled.unset interface.name interface found
      have listed : interface.name ∈ (ground.interfacesIn inst.vrf).map (·.name) ↔
          interface.vrf = inst.vrf := by
        rw [Configuration.interfacesIn, List.mem_map]
        constructor
        · rintro ⟨other, member, same⟩
          obtain ⟨member, own_vrf⟩ := List.mem_filter.mp member
          have other_found := unsettled.keyed.getElem?_name member
          rw [same, found] at other_found
          cases other_found
          exact of_decide_eq_true own_vrf
        · intro own_vrf
          refine ⟨interface, List.mem_filter.mpr ⟨?_, decide_eq_true own_vrf⟩, rfl⟩
          exact Table.mem_values_iff.mpr ⟨_, found⟩
      have settled : { ground.settle device params done interface with
          ospf := ospfSettings? device params interface.name <|>
            (ground.settle device params done interface).ospf } =
          { interface with ospf := ospfSettings? device params interface.name } := by
        rw [Configuration.settle]
        cases known : ospfSettings? device params interface.name <;> split <;> simp [unset]
      rw [Option.map_some, Option.map_some, Function.comp_apply,
        Configuration.settle_append has_vrf]
      simp only [listed, settled]

/-- The VRF of one more instance gets its process. -/
theorem vrfs_insert_process {inst : OspfInstance} {done : List OspfInstance} {vrf : Vrf}
    (found : (ground.runOspf device params done).vrfs[inst.vrf]? = some vrf) :
    (ground.runOspf device params done).vrfs.insert inst.vrf
      { vrf with
        ospf := some (ospfInstanceProcess device params inst
          (ground.ospfInterfaces device params inst.vrf)) } =
      (ground.runOspf device params (done ++ [inst])).vrfs := by
  apply ExtTreeMap.ext_getElem?
  intro name
  change (ExtTreeMap.insert _ _ _)[name]? = (ground.vrfs.map _)[name]?
  rw [ExtTreeMap.getElem?_insert, ExtTreeMap.getElem?_map]
  simp only [LawfulEqOrd.compare_eq_iff_eq]
  change (ground.vrfs.map _)[inst.vrf]? = _ at found
  rw [ExtTreeMap.getElem?_map] at found
  obtain ⟨earlier, here, routed⟩ := Option.map_eq_some_iff.mp found
  split
  · next own =>
      subst own routed
      rw [here, Option.map_some, Configuration.route_append, if_pos rfl, Configuration.route]
      split <;> rfl
  · next different =>
      change (ground.vrfs.map _)[name]? = _
      rw [ExtTreeMap.getElem?_map]
      refine congrArg (Option.map · _) (funext fun vrf => ?_)
      rw [Configuration.route_append, if_neg different]

/-- One more instance is converted. -/
theorem configuration_of_addOspfInstance {inst : OspfInstance} {done : List OspfInstance}
    (run : (addOspfInstance device params inst).runFrom before = (.ok (), after))
    (unsettled : ground.IsUnsettled)
    (ran : before.configuration = ground.runOspf device params done) :
    after.configuration = ground.runOspf device params (done ++ [inst]) := by
  obtain ⟨_, _, asked, run⟩ := runFrom_bind_eq_ok_iff.mp run
  cases asked
  split at run
  · next present =>
      rw [runFrom_bind_of_ok _ (runFrom_warnAll _ _), runFrom_bind_of_ok _ (runFrom_update _ _)]
        at run
      have stored : (configureOspfInterfaces
          (before.configuration.ospfInterfaces device params inst.vrf)
          before.configuration).updateVrf inst.vrf (fun vrf => ({ vrf with
            ospf := some (ospfInstanceProcess device params inst
              (before.configuration.ospfInterfaces device params inst.vrf)) }, .ok ())) =
          (after.configuration, .ok ()) := configuration_of_runFrom_store run
      rw [ran, Configuration.mem_vrfs_runOspf_iff] at present
      rw [ran, Configuration.ospfInterfaces_runOspf] at stored
      obtain ⟨vrf, result, found, changed, same⟩ := Configuration.updateVrf_eq_ok_iff.mp stored
      cases changed
      rw [vrfs_configureOspfInterfaces] at found same
      rw [← same, Configuration.configureOspfInterfaces_eq, vrfs_insert_process found,
        interfaces_of_configureOspfInterfaces unsettled present done]
      rfl
  · next absent =>
      cases run
      rw [ran, Configuration.mem_vrfs_runOspf_iff] at absent
      rw [ran, Configuration.runOspf_append_of_not_mem absent]

/-- What OSPF makes of a configuration. -/
theorem configuration_of_convertOspf
    (run : (convertOspf device params).runFrom before = (.ok (), after))
    (unsettled : before.configuration.IsUnsettled) :
    after.configuration = before.configuration.runOspf device params device.ospfInstances := by
  rw [convertOspf] at run
  rw [Device.ospfInstances]
  cases runs_ospf : device.ospf with
  | none =>
      rw [runs_ospf] at run
      cases run
      rw [Configuration.runOspf_nil]
  | some instances =>
      rw [runs_ospf] at run
      refine made_of_runFrom_forM (fun done configuration =>
        configuration = before.configuration.runOspf device params done) ?_ run
        Configuration.runOspf_nil.symm
      rintro done inst rest - start next here ran
      exact configuration_of_addOspfInstance here unsettled ran

end Steps

section Conversions

variable {device : Device} {params : ConversionParams} {compile : RouteMapCompiler}
  {progress : Progress}

theorem Configuration.IsSkeleton.isUnsettled {configuration : Configuration}
    {present : String → Prop} {segments : List Layer2Vni}
    (skeleton : configuration.IsSkeleton present device.routedInterfaces segments) :
    configuration.IsUnsettled where
  keyed := skeleton.interfaces.keyedBy
  unset name interface found := device.ospf_eq_none_of_mem_routedInterfaces
    ((skeleton.interfaces.getElem?_eq_some_iff name interface).mp found).1

/-- Without what BGP adds, a converted configuration is what OSPF makes of the skeleton. -/
theorem underlay_of_convert (converted : device.convert params compile = .ok progress) :
    ∃ skeleton listed : Progress,
      (buildSkeleton device).runFrom (.initial device.hostname) = (.ok (), skeleton) ∧
      (convertLists device).runFrom skeleton = (.ok (), listed) ∧
      listed.configuration.underlay.IsSkeleton device.HasVrf device.routedInterfaces
        device.bridgedSegments ∧
      progress.configuration.underlay =
        listed.configuration.underlay.runOspf device params device.ospfInstances := by
  obtain ⟨skeleton, listed, bgp, ospf, skeleton_run, lists_run, bgp_run, ospf_run, maps_run⟩ :=
    exists_runs_of_convert converted
  have ground := isSkeleton_of_convertLists lists_run (isSkeleton_of_buildSkeleton skeleton_run)
  have attached : bgp.configuration.underlay = listed.configuration.underlay :=
    Configuration.same_underlay_admitsBgp.keeps_convertBgp device params _ _ _ bgp_run
  have mapped : progress.configuration.underlay = ospf.configuration.underlay :=
    Configuration.same_underlay_keeps_convertRouteMaps compile device _ _ _ maps_run
  have unsettled : bgp.configuration.IsUnsettled := by
    have same := Configuration.interfaces_of_underlay_eq attached
    exact ⟨same ▸ ground.isUnsettled.keyed, same ▸ ground.isUnsettled.unset⟩
  refine ⟨skeleton, listed, skeleton_run, lists_run, ground.underlay, ?_⟩
  rw [mapped, configuration_of_convertOspf ospf_run unsettled, Configuration.underlay_runOspf,
    attached]

/-- The VRFs of a converted configuration are those of the device. -/
theorem mem_vrfs_of_convert (converted : device.convert params compile = .ok progress)
    (name : String) : name ∈ progress.configuration.vrfs ↔ device.HasVrf name := by
  obtain ⟨_, listed, -, -, skeleton, same⟩ := underlay_of_convert converted
  have kept : name ∈ progress.configuration.underlay.vrfs ↔
      name ∈ listed.configuration.underlay.vrfs := by
    rw [same, Configuration.mem_vrfs_runOspf_iff]
  rw [Configuration.underlay, ExtTreeMap.mem_map] at kept
  rw [kept, Table.mem_iff_getElem?_eq_some]
  simp [skeleton.vrfs]

end Conversions
end NeutralRouting
