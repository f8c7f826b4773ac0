import NeutralRouting.Proofs.Effects
import NeutralRouting.Proofs.OspfAreas

/-!
# Where the OSPF settings of an interface come from

An interface is built from an interface of the device or, if there is none of its name, from the
loopback.  Its OSPF settings come from the same place, with one exception: under the name of the
loopback they are always those of a configured loopback, even if the interface itself is built from
an interface of the device.
-/

namespace NeutralRouting

open Std

/-- The area, the passive flag and the timers of an interface that has an area. -/
def OspfOptions.values? (options : OspfOptions) : Option (UInt32 × Bool × UInt32 × UInt32) :=
  options.area.map fun area =>
    (area, options.passive.getD false, options.deadInterval.getD 40,
      options.helloInterval.getD 10)

/-- The area, the passive flag and the timers that settings hold. -/
def OspfSettings.values (settings : OspfSettings) : UInt32 × Bool × UInt32 × UInt32 :=
  (settings.area, settings.passive, settings.deadInterval, settings.helloInterval)

theorem map_values_ospfSettings? (device : Device) (params : ConversionParams) (name : String) :
    (ospfSettings? device params name).map (·.values) =
      device.ospfOptions? name >>= (·.values?) := by
  rw [ospfSettings?]
  cases device.ospfOptions? name with
  | none => rfl
  | some options =>
      change (options.area.map _).map _ = options.area.map _
      rw [Option.map_map]
      rfl

section Conversions

variable {device : Device} {params : ConversionParams} {compile : RouteMapCompiler}
  {progress : Progress}

/-- The interface of a skeleton under a name is built from the interface of the device that has it,
or else from the loopback. -/
theorem Device.source_of_mem_routedInterfaces (keyed : Table.KeyedBy (·.name) device.interfaces)
    {interface : Interface} (member : interface ∈ device.routedInterfaces) :
    (∃ source, device.interfaces[interface.name]? = some source ∧ interface = source.routed) ∨
      device.interfaces[interface.name]? = none ∧ interface.name = loopbackName ∧
        device.loopback.configured = true ∧ interface = device.loopback.routed := by
  rw [routedInterfaces, List.mem_append, List.mem_map] at member
  rcases member with ⟨source, member, rfl⟩ | own
  · exact .inl ⟨source, keyed.getElem?_name member, rfl⟩
  · split at own
    · next own_loopback =>
        rw [List.mem_singleton] at own
        subst own
        refine .inr ⟨?_, rfl, own_loopback.1, rfl⟩
        change device.interfaces[loopbackName]? = none
        rw [Option.eq_none_iff_forall_ne_some]
        intro source taken
        exact own_loopback.2 source (Table.mem_values_iff.mpr ⟨_, taken⟩)
          (keyed loopbackName source taken)
    · cases own

/-- An interface in a VRF that runs OSPF has the settings given for it, except that a configured
loopback speaks for whatever has its name. -/
theorem convert_reads_ospf_settings (keyed : Table.KeyedBy (·.name) device.interfaces)
    (converted : device.convert params compile = .ok progress) {name : String}
    {interface : Interface} {process : OspfProcess}
    (found : progress.configuration.interfaces[name]? = some interface)
    (running : progress.configuration.ospfProcess? interface.vrf = some process) :
    (∀ source, device.interfaces[name]? = some source →
      interface = { source.routed with ospf := interface.ospf } ∧
        interface.ospf.map (·.values) =
          if name = loopbackName ∧ device.loopback.configured then
            device.loopback.ospf >>= (·.values?)
          else source.ospf >>= (·.values?)) ∧
    (device.interfaces[name]? = none →
      name = loopbackName ∧ device.loopback.configured = true ∧
        interface = { device.loopback.routed with ospf := interface.ospf } ∧
        interface.ospf.map (·.values) = device.loopback.ospf >>= (·.values?)) := by
  have runs := runsOspf_of_convert converted
  obtain ⟨present, named⟩ := runs.named_of_running running
  have settled : interface.ospf.map (·.values) = device.ospfOptions? name >>= (·.values?) := by
    rw [runs.settings_of_named name interface found present named, map_values_ospfSettings?]
  obtain ⟨built, member, rfl, same⟩ := runs.built name interface found
  rw [Device.ospfOptions?] at settled
  rcases Device.source_of_mem_routedInterfaces keyed member with
    ⟨source, source_found, from_source⟩ | ⟨free, own_name, configured, from_loopback⟩
  · rw [source_found]
    refine ⟨?_, nofun⟩
    rintro _ ⟨⟩
    rw [← from_source]
    refine ⟨same, ?_⟩
    rw [settled]
    split
    · rfl
    · rw [source_found]
      rfl
  · rw [free]
    refine ⟨nofun, fun _ => ⟨own_name, configured, from_loopback ▸ same, ?_⟩⟩
    rw [settled, if_pos ⟨own_name, configured⟩]

/-- What is tested on the result of a conversion holds of an interface that runs OSPF. -/
theorem exists_interface_of_test {name : String} {test : Interface → Bool}
    (passes : (device.convert params compile).toOption.any (fun progress =>
      progress.configuration.interfaces[name]?.any fun interface =>
        (progress.configuration.ospfProcess? interface.vrf).isSome && test interface) = true) :
    ∃ progress interface process, device.convert params compile = .ok progress ∧
      progress.configuration.interfaces[name]? = some interface ∧
      progress.configuration.ospfProcess? interface.vrf = some process ∧
      test interface = true := by
  obtain ⟨progress, converted, passes⟩ := (Option.any_eq_true _ _).mp passes
  obtain ⟨interface, found, passes⟩ := (Option.any_eq_true _ _).mp passes
  rw [Bool.and_eq_true, Option.isSome_iff_exists] at passes
  obtain ⟨⟨process, running⟩, passes⟩ := passes
  exact ⟨progress, interface, process, toOption_eq_some_iff.mp converted, found, running, passes⟩

/-- The loopback of the device with areas is in area 0. -/
theorem convert_areaRouter_loopback :
    ∃ progress interface, areaRouter.convert .standard entrywiseCompiler = .ok progress ∧
      progress.configuration.interfaces["lo"]? = some interface ∧
      interface.ospf.map (·.values) = some (0, false, 40, 10) := by
  obtain ⟨progress, interface, process, converted, found, running, -⟩ :=
    @exists_interface_of_test areaRouter .standard entrywiseCompiler "lo" (fun _ => true)
      (by decide +kernel)
  have keyed : Table.KeyedBy (·.name) areaRouter.interfaces := by
    refine Table.KeyedBy.insert ?_ rfl
    exact Table.KeyedBy.empty.insert rfl
  have reads := (convert_reads_ospf_settings keyed converted found running).2 (by decide +kernel)
  exact ⟨progress, interface, converted, found, reads.2.2.2⟩

end Conversions

/-- A device with a configured loopback that says nothing about OSPF, and with an interface of the
same name in area 0. -/
def shadowedRouter : Device :=
  { Device.bare "shadowed" with
    ospf := some ⟨⟨defaultVrfName, none⟩, ∅⟩
    interfaces := (∅ : ExtTreeMap String DeviceInterface).insert "lo"
      ⟨"lo", none, [], some ⟨some 0, none, none, none, none⟩⟩
    loopback := ⟨true, [], none⟩ }

/-- The interface in area 0 is built, but it is given no settings. -/
theorem convert_shadowedRouter_drops_settings :
    ∃ progress source interface process,
      Table.KeyedBy (·.name) shadowedRouter.interfaces ∧
      shadowedRouter.convert .standard entrywiseCompiler = .ok progress ∧
      progress.configuration.interfaces["lo"]? = some interface ∧
      progress.configuration.ospfProcess? interface.vrf = some process ∧
      shadowedRouter.interfaces["lo"]? = some source ∧ interface = source.routed ∧
      source.ospf >>= (·.area) = some 0 ∧ interface.ospf = none := by
  let source : DeviceInterface := ⟨"lo", none, [], some ⟨some 0, none, none, none, none⟩⟩
  obtain ⟨progress, interface, process, converted, found, running, same⟩ :=
    @exists_interface_of_test shadowedRouter .standard entrywiseCompiler "lo"
      (fun interface => decide (interface = source.routed)) (by decide +kernel)
  have built : interface = source.routed := of_decide_eq_true same
  exact ⟨progress, source, interface, process, Table.KeyedBy.empty.insert rfl, converted, found,
    running, by decide +kernel, built, rfl, built ▸ rfl⟩

end NeutralRouting
