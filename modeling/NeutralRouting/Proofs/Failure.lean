import NeutralRouting.Proofs.Attachment

/-!
# When a conversion fails

On a device whose tables are keyed and whose names leave the generated ones alone, a conversion
fails exactly if some neighbor is refused, and the first one gives the cause.
-/

namespace NeutralRouting

open Std Conversion

section Processes

variable {device : Device} {params : ConversionParams} {instances : BgpInstances}
  {before after : Progress}

/-- A VRF that has a BGP process keeps one. -/
def stillRunning : Frame where
  Related before after := ∀ name : String, (before.bgpProcess? name).isSome = true →
    (after.bgpProcess? name).isSome = true
  refl _ _ := id
  trans front back name running := back name (front name running)

theorem stillRunning_of_same {first second : Configuration}
    (same : second.bgpProcess? = first.bgpProcess?) : stillRunning.Related first second := by
  intro name running
  rwa [same]

theorem stillRunning_admitsProcesses : stillRunning.AdmitsProcesses where
  addPolicy _ added := by
    obtain ⟨-, rfl⟩ := Configuration.policyShelf.add_eq_ok_iff.mp added
    exact stillRunning_of_same rfl
  ensurePolicy _ _ _ := stillRunning_of_same rfl
  addRouteFilterList added := by
    obtain ⟨-, rfl⟩ := Configuration.routeFilterShelf.add_eq_ok_iff.mp added
    exact stillRunning_of_same rfl
  addGeneratedRoute updated := by
    refine stillRunning_of_same (Configuration.bgpProcess?_of_updateVrf updated ?_)
    rintro vrf _ same
    cases same
    rfl
  setProcess updated := by
    obtain ⟨vrf, result, -, changed, rfl⟩ := Configuration.updateVrf_eq_ok_iff.mp updated
    cases changed
    intro other running
    rw [Configuration.bgpProcess?_of_insert rfl]
    split
    · rfl
    · exact running
  addIdleProcesses device params before := by
    rw [addIdleProcesses]
    cases before.bgpProcess? defaultVrfName with
    | none => exact stillRunning.refl before
    | some own =>
        intro name running
        obtain ⟨process, running⟩ := Option.isSome_iff_exists.mp running
        obtain ⟨vrf, found, own_process⟩ := Configuration.bgpProcess?_eq_some_iff.mp running
        rw [Option.isSome_iff_exists]
        refine ⟨process, Configuration.bgpProcess?_eq_some_iff.mpr ⟨vrf, ?_, own_process⟩⟩
        rw [ExtTreeMap.getElem?_map, found, Option.map_some, own_process]
        rfl

/-- The process of an instance is there after it is built. -/
theorem isSome_bgpProcess?_of_addInstanceProcess {defaultInstance inst : BgpInstance}
    (run : (addInstanceProcess device params defaultInstance inst).runFrom before = (.ok (), after))
    (has_vrf : inst.vrf ∈ before.configuration.vrfs) :
    (after.configuration.bgpProcess? inst.vrf).isSome = true := by
  obtain ⟨_, start, asked, run⟩ := runFrom_bind_eq_ok_iff.mp run
  cases asked
  rw [if_pos has_vrf] at run
  obtain ⟨_, first, -, run⟩ := runFrom_bind_eq_ok_iff.mp run
  obtain ⟨_, second, -, updated⟩ := runFrom_bind_eq_ok_iff.mp run
  obtain ⟨vrf, result, -, changed, same⟩ := Configuration.updateVrf_eq_ok_iff.mp
    (configuration_of_runFrom_store updated)
  cases changed
  rw [← same, Configuration.bgpProcess?_of_insert rfl, if_pos rfl]
  rfl

theorem isSome_bgpProcess?_of_buildProcesses {inst : BgpInstance}
    (run : (buildProcesses device params instances).runFrom before = (.ok (), after))
    (member : inst ∈ instances.all) (has_vrf : inst.vrf ∈ before.configuration.vrfs) :
    (after.configuration.bgpProcess? inst.vrf).isSome = true := by
  obtain ⟨start, next, start_vrf, here, still⟩ :=
    exists_run_of_buildProcesses stillRunning_admitsProcesses run member has_vrf
  exact still _ (isSome_bgpProcess?_of_addInstanceProcess here start_vrf)

/-- All processes are built, without peers. -/
theorem buildProcesses_hasAttached (keyed : device.Keyed) (named : device.WellNamed)
    (runs_bgp : device.bgp = some instances)
    (uses : before.configuration.UsesOnly device (UsedByInstances device []))
    (peerless : before.configuration.Peerless) :
    Succeeds (buildProcesses device params instances) before fun _ after =>
      after.HasAttached device instances [] := by
  obtain ⟨_, after, run, more⟩ := @buildProcesses_succeeds device params before keyed named
    instances runs_bgp uses
  have still_peerless := Configuration.peerless_admitsProcesses.keeps_buildProcesses device params
    instances _ _ _ run peerless
  refine ⟨(), after, run, ?uses, ?runs, ?peers⟩
  case uses =>
    refine more.imp (fun name => .inl) fun name => ?_
    rintro (own | ⟨_, _, earlier, -⟩)
    · exact own.2.1
    · cases earlier
  case runs =>
    intro inst member has_vrf
    exact Option.isSome_iff_exists.mp
      (isSome_bgpProcess?_of_buildProcesses run member ((uses.vrfs _).mpr has_vrf))
  case peers =>
    intro vrf process id running
    rw [still_peerless vrf process running id]
    constructor
    · intro found
      cases found
    · rintro ⟨_, _, earlier, -⟩
      cases earlier

end Processes

section Phases

variable {device : Device} {params : ConversionParams} {before : Progress}

theorem vrfs_configureOspfInterfaces (interfaces : List (String × OspfSettings))
    (configuration : Configuration) :
    (configureOspfInterfaces interfaces configuration).vrfs = configuration.vrfs := by
  rw [configureOspfInterfaces]
  induction interfaces generalizing configuration with
  | nil => rfl
  | cons interface interfaces ih => exact ih _

theorem addOspfInstance_succeeds (inst : OspfInstance) :
    Succeeds (addOspfInstance device params inst) before fun _ _ => True := by
  apply Succeeds.bind_of_ok (runFrom_configuration before)
  split
  · next present =>
      apply Succeeds.bind_of_ok (runFrom_warnAll _ _)
      apply Succeeds.bind_of_ok (runFrom_update _ _)
      obtain ⟨vrf, found⟩ := Table.mem_iff_getElem?_eq_some.mp present
      refine Succeeds.store (Configuration.updateVrf_eq_ok_iff.mpr ⟨vrf, _, ?_, rfl, rfl⟩) trivial
      rw [← found]
      exact congrArg (·[inst.vrf]?) (vrfs_configureOspfInterfaces _ before.configuration)
  · exact ⟨(), _, rfl, trivial⟩

theorem same_policies_admitsOspf : (Frame.same (·.policies)).AdmitsOspf where
  setProcess updated := by
    obtain ⟨vrf, result, -, -, rfl⟩ := Configuration.updateVrf_eq_ok_iff.mp updated
    rfl
  modifyInterface _ _ _ := rfl

/-- Processes of OSPF never fail, and leave policies alone. -/
theorem convertOspf_succeeds :
    Succeeds (convertOspf device params) before fun _ after =>
      after.policies = before.configuration.policies := by
  have succeeds : Succeeds (convertOspf device params) before fun _ _ => True := by
    rw [convertOspf]
    cases device.ospf with
    | none => exact ⟨(), before, rfl, trivial⟩
    | some instances =>
        exact Succeeds.forM (fun _ _ => True) (fun _ inst _ _ _ _ => addOspfInstance_succeeds inst)
          trivial
  have related := succeeds.and_related (same_policies_admitsOspf.keeps_convertOspf device params)
  exact related.imp fun _ _ holds => holds.2

/-- Route maps never fail if generated names are all that is in use before them. -/
theorem convertRouteMaps_succeeds (keyed : device.Keyed) (named : device.WellNamed)
    (generated : ∀ name : String, name ∈ before.configuration.policies →
      name.toList.head? = some '~') :
    Succeeds (convertRouteMaps entrywiseCompiler device) before fun _ _ => True := by
  have distinct := keyed.routeMaps.nodup
  have loop := @Succeeds.forM RouteMap before device.routeMaps.values
    (addRouteMapPolicy entrywiseCompiler device)
    (fun done after => ∀ name : String, name ∈ after.policies →
      name.toList.head? = some '~' ∨ name ∈ done.map (·.name)) ?each
    (fun name member => .inl (generated name member))
  case each =>
    intro done map rest split start known
    have in_table : map ∈ device.routeMaps.values := by simp [split]
    have fresh : map.name ∉ start.configuration.policies := by
      intro taken
      rcases known _ taken with tilde | earlier
      · exact named.routeMaps _ (Table.mem_iff_getElem?_eq_some.mpr
          ⟨map, keyed.routeMaps.getElem?_name in_table⟩) tilde
      · exact not_mem_map_of_split distinct split earlier
    apply Succeeds.bind (.warnAll _ start)
    rintro _ middle same
    apply Succeeds.bind_of_ok (runFrom_require_eq_ok_iff.mpr ⟨rfl, rfl⟩)
    rw [if_pos (show (map.policy device).name = map.name from rfl)]
    rw [← same] at fresh known
    apply Succeeds.imp (Configuration.policyShelf.succeeds_add (map.policy device) fresh)
    rintro _ after rfl name member
    change name ∈ middle.configuration.policies.insert map.name _ at member
    rw [ExtTreeMap.mem_insert, LawfulEqOrd.compare_eq_iff_eq] at member
    rcases member with rfl | earlier
    · exact .inr (by simp)
    · exact (known name earlier).imp_right fun own => by simp [own]
  exact loop.imp fun _ _ _ => trivial

end Phases

/-- The neighbors of all instances of a device, in the order in which they are attached. -/
def Device.neighbors (device : Device) : List (BgpInstance × Neighbor) :=
  match device.bgp with
  | none => []
  | some instances => instances.neighbors

section Outcomes

variable {device : Device} {params : ConversionParams} {before : Progress}

theorem Configuration.IsListed.usesOnly {configuration : Configuration}
    (listed : configuration.IsListed device) :
    configuration.UsesOnly device (UsedByInstances device []) where
  vrfs := listed.vrfs
  policies name member := by
    rw [listed.policies] at member
    exact absurd member ExtTreeMap.not_mem_empty
  routeFilterLists name member := .inl (listed.routeFilterLists name member)
  known _ own := own.2.1

theorem convertBgp_succeeds (keyed : device.Keyed) (named : device.WellNamed)
    (listed : before.configuration.IsListed device)
    (accepted : NoRefusal device.Refuses device.neighbors) :
    Succeeds (convertBgp device params) before fun _ after =>
      ∀ name : String, name ∈ after.policies → name.toList.head? = some '~' := by
  have generated : ∀ {configuration : Configuration} {used : GeneratedName → Prop},
      configuration.UsesOnly device used → ∀ name : String, name ∈ configuration.policies →
        name.toList.head? = some '~' := by
    intro configuration used uses name member
    obtain ⟨own, -, rfl⟩ := uses.policies name member
    exact own.head?_text
  rw [convertBgp]
  cases runs_bgp : device.bgp with
  | none => exact ⟨(), before, rfl, generated listed.usesOnly⟩
  | some instances =>
      rw [Device.neighbors, runs_bgp] at accepted
      apply Succeeds.bind (buildProcesses_hasAttached keyed named runs_bgp listed.usesOnly
        listed.peerless)
      intro _ built attached
      apply Succeeds.imp (succeeds_forM_of_noRefusal
        (fun done after => after.HasAttached device instances done) ?accepts accepted attached)
      case accepts =>
        rintro done ⟨inst, neighbor⟩ rest split start attached not_refused
        exact attachNeighbor_succeeds keyed named runs_bgp split attached not_refused
      exact fun _ _ attached => generated attached.uses

theorem convertBgp_fails (keyed : device.Keyed) (named : device.WellNamed)
    (listed : before.configuration.IsListed device) {cause : ConversionError}
    (refused : FirstRefusal device.Refuses device.neighbors cause) :
    Fails (convertBgp device params) before cause := by
  rw [Device.neighbors] at refused
  rw [convertBgp]
  cases runs_bgp : device.bgp with
  | none =>
      rw [runs_bgp] at refused
      obtain ⟨done, pair, rest, split, -⟩ := refused
      simp at split
  | some instances =>
      rw [runs_bgp] at refused
      apply Succeeds.bind_fails (buildProcesses_hasAttached keyed named runs_bgp listed.usesOnly
        listed.peerless)
      intro _ built attached
      apply fails_forM_of_firstRefusal
        (fun done after => after.HasAttached device instances done) ?accepts ?rejects refused
        attached
      case accepts =>
        rintro done ⟨inst, neighbor⟩ rest split start attached not_refused
        exact attachNeighbor_succeeds keyed named runs_bgp split attached not_refused
      case rejects =>
        rintro done ⟨inst, neighbor⟩ rest split start cause attached refused
        exact attachNeighbor_fails keyed named runs_bgp split attached refused

theorem exists_convert_eq_ok (keyed : device.Keyed) (named : device.WellNamed)
    (accepted : NoRefusal device.Refuses device.neighbors) :
    ∃ progress, device.convert params entrywiseCompiler = .ok progress := by
  obtain ⟨listed, is_listed, run⟩ := exists_listed keyed
  have succeeds : Succeeds (do
      convertBgp device params
      convertOspf device params
      convertRouteMaps entrywiseCompiler device) listed fun _ _ => True := by
    apply Succeeds.bind (convertBgp_succeeds keyed named is_listed accepted)
    intro _ bgp generated
    apply Succeeds.bind convertOspf_succeeds
    intro _ ospf same
    rw [← same] at generated
    exact convertRouteMaps_succeeds keyed named generated
  obtain ⟨_, after, rest_run, -⟩ := succeeds
  rw [Device.convert, convertDevice, Progress.initial, run, rest_run]
  exact ⟨after, rfl⟩

theorem convert_eq_error_of_firstRefusal (keyed : device.Keyed) (named : device.WellNamed)
    {cause : ConversionError} (refused : FirstRefusal device.Refuses device.neighbors cause) :
    device.convert params entrywiseCompiler = .error cause := by
  obtain ⟨listed, is_listed, run⟩ := exists_listed keyed
  have fails : Fails (do
      convertBgp device params
      convertOspf device params
      convertRouteMaps entrywiseCompiler device) listed cause :=
    (convertBgp_fails keyed named is_listed refused).of_bind
  obtain ⟨after, rest_run⟩ := fails
  rw [Device.convert, convertDevice, Progress.initial, run, rest_run]

/-- A neighbor with a shared address is refused at its place, for one reason or the other. -/
theorem exists_refuses_of_peersAt {inst : BgpInstance} {neighbor other : Neighbor}
    {address : Address} {done : List (BgpInstance × Neighbor)} (has_vrf : device.HasVrf inst.vrf)
    (here : inst.PeersAt neighbor address) (earlier : (inst, other) ∈ done)
    (there : inst.PeersAt other address) :
    ∃ cause, device.Refuses done (inst, neighbor) cause := by
  by_cases lacks : inst.LacksType neighbor
  · exact ⟨_, .untyped has_vrf lacks⟩
  · exact ⟨_, .duplicate has_vrf lacks here earlier there⟩

/-- Of two neighbors with the same address the later one is refused. -/
theorem exists_firstRefusal_of_peersAt {inst : BgpInstance} {neighbor other : Neighbor}
    {address : Address} (has_vrf : device.HasVrf inst.vrf)
    (member : (inst, neighbor) ∈ device.neighbors) (other_mem : (inst, other) ∈ device.neighbors)
    (different : other ≠ neighbor) (here : inst.PeersAt neighbor address)
    (there : inst.PeersAt other address) :
    ∃ cause, FirstRefusal device.Refuses device.neighbors cause := by
  obtain ⟨done, rest, split⟩ := List.append_of_mem member
  rw [split, List.mem_append, List.mem_cons] at other_mem
  rcases other_mem with earlier | same | later
  · obtain ⟨cause, refused⟩ := exists_refuses_of_peersAt has_vrf here earlier there
    exact exists_firstRefusal_of_refuses split refused
  · cases same
    exact absurd rfl different
  · obtain ⟨middle, last, rfl⟩ := List.append_of_mem later
    have earlier : (inst, neighbor) ∈ done ++ (inst, neighbor) :: middle := by simp
    obtain ⟨cause, refused⟩ := exists_refuses_of_peersAt has_vrf there earlier here
    have split_later : device.neighbors =
        (done ++ (inst, neighbor) :: middle) ++ (inst, other) :: last := by
      rw [split, List.append_assoc, List.cons_append]
    exact exists_firstRefusal_of_refuses split_later refused

/-- Some neighbor is refused if one lacks a type or two have the same address, wherever they
stand. -/
theorem exists_firstRefusal_iff (keyed : device.Keyed) (named : device.WellNamed) :
    (∃ cause, FirstRefusal device.Refuses device.neighbors cause) ↔
      ∃ inst neighbor, (inst, neighbor) ∈ device.neighbors ∧ device.HasVrf inst.vrf ∧
        (inst.LacksType neighbor ∨ ∃ other address, (inst, other) ∈ device.neighbors ∧
          other.settings.name ≠ neighbor.settings.name ∧ inst.PeersAt neighbor address ∧
          inst.PeersAt other address) := by
  constructor
  · rintro ⟨cause, done, ⟨inst, neighbor⟩, rest, split, refused, -⟩
    have member : (inst, neighbor) ∈ device.neighbors := by simp [split]
    cases refused with
    | untyped has_vrf lacks => exact ⟨inst, neighbor, member, has_vrf, .inl lacks⟩
    | @duplicate _ _ other address has_vrf typed here earlier there =>
        refine ⟨inst, neighbor, member, has_vrf, .inr ⟨other, address, ?_, ?_, here, there⟩⟩
        · simp [split, earlier]
        · intro same_name
          cases runs_bgp : device.bgp with
          | none =>
              rw [Device.neighbors, runs_bgp] at member
              cases member
          | some instances =>
              rw [Device.neighbors, runs_bgp] at split
              exact not_mem_done_of_same_name keyed named runs_bgp split earlier rfl same_name
  · rintro ⟨inst, neighbor, member, has_vrf, lacks | ⟨other, address, other_mem, different, here,
      there⟩⟩
    · obtain ⟨done, rest, split⟩ := List.append_of_mem member
      exact exists_firstRefusal_of_refuses split (.untyped has_vrf lacks)
    · have distinct : other ≠ neighbor := by
        rintro rfl
        exact different rfl
      exact exists_firstRefusal_of_peersAt has_vrf member other_mem distinct here there

/-- A conversion fails exactly if a neighbor of an instance whose VRF exists lacks the type of its
AS or repeats an address, and the first such neighbor is the cause. -/
theorem convert_eq_error_iff (keyed : device.Keyed) (named : device.WellNamed)
    (params : ConversionParams) :
    ((∃ cause, device.convert params entrywiseCompiler = .error cause) ↔
      ∃ inst neighbor, (inst, neighbor) ∈ device.neighbors ∧ device.HasVrf inst.vrf ∧
        (inst.LacksType neighbor ∨ ∃ other address, (inst, other) ∈ device.neighbors ∧
          other.settings.name ≠ neighbor.settings.name ∧ inst.PeersAt neighbor address ∧
          inst.PeersAt other address)) ∧
    (∀ cause, device.convert params entrywiseCompiler = .error cause ↔
      FirstRefusal device.Refuses device.neighbors cause) ∧
    ∀ cause, device.convert params entrywiseCompiler = .error cause →
      (∃ neighbor, cause = .untypedRemoteAs neighbor) ∨
        ∃ address : Address, cause = .store (.duplicateName .bgpPeer address.text) := by
  have exact_cause : ∀ cause, device.convert params entrywiseCompiler = .error cause ↔
      FirstRefusal device.Refuses device.neighbors cause := by
    intro cause
    refine ⟨fun failed => ?_, convert_eq_error_of_firstRefusal keyed named⟩
    rcases firstRefusal_or_noRefusal device.Refuses device.neighbors with
      ⟨first, refused⟩ | accepted
    · have other := @convert_eq_error_of_firstRefusal device params keyed named first refused
      rw [failed] at other
      cases other
      exact refused
    · obtain ⟨progress, converted⟩ := @exists_convert_eq_ok device params keyed named accepted
      rw [failed] at converted
      cases converted
  refine ⟨?_, exact_cause, fun cause failed => ?_⟩
  · rw [← exists_firstRefusal_iff keyed named]
    exact exists_congr exact_cause
  · obtain ⟨done, pair, rest, -, refused, -⟩ := (exact_cause cause).mp failed
    cases refused with
    | untyped has_vrf lacks => exact .inl ⟨_, rfl⟩
    | duplicate has_vrf typed here earlier there => exact .inr ⟨_, rfl⟩

end Outcomes

/-- The border router with a second neighbor at the address of the first. -/
def twinInstance : BgpInstance :=
  { borderInstance with
    neighbors := borderInstance.neighbors.insert "core"
      (.ip { borderNeighbor with name := "core" } (some (.ofOctets 192 0 2 1))) }

/-- The device of that instance. -/
def twinRouter : Device := { borderRouter with bgp := some ⟨twinInstance, ∅⟩ }

theorem twinRouter_keyed : twinRouter.Keyed :=
  { borderRouter_keyed with
    bgp := by
      rintro instances same
      cases same
      refine ⟨.empty, fun inst member => ?_⟩
      rcases List.mem_cons.mp member with rfl | other
      · refine Table.KeyedBy.insert ?_ rfl
        exact Table.KeyedBy.empty.insert rfl
      · obtain ⟨key, present⟩ := Table.mem_values_iff.mp other
        cases present }

theorem twinRouter_wellNamed : twinRouter.WellNamed where
  vrfs name member := absurd member ExtTreeMap.not_mem_empty
  routeMaps name member := by
    rcases ExtTreeMap.mem_insert.mp member with same | other
    · rw [← LawfulEqOrd.eq_of_compare same]
      decide
    · exact absurd other ExtTreeMap.not_mem_empty
  prefixLists name member := by
    rcases ExtTreeMap.mem_insert.mp member with same | other
    · rw [← LawfulEqOrd.eq_of_compare same]
      decide
    · exact absurd other ExtTreeMap.not_mem_empty
  defaultVrf instances same := by
    cases same
    exact ⟨rfl, ExtTreeMap.not_mem_empty⟩

/-- The second neighbor at the address is the one that is refused. -/
theorem convert_twinRouter_eq_error :
    twinRouter.convert .standard entrywiseCompiler =
      .error (.store (.duplicateName .bgpPeer (Address.ofOctets 192 0 2 1).text)) := by
  let twin := { borderNeighbor with name := "core" }
  let peer := Address.ofOctets 192 0 2 1
  have neighbors : twinRouter.neighbors = [(twinInstance, .ip borderNeighbor (some peer)),
      (twinInstance, .ip twin (some peer))] := by decide +kernel
  have first_type : (borderNeighbor.resolve twinInstance.neighbors).remoteAsType =
      some .explicit := by decide +kernel
  have second_type : (twin.resolve twinInstance.neighbors).remoteAsType = some .explicit := by
    decide +kernel
  have first_typed : ¬twinInstance.LacksType (.ip borderNeighbor (some peer)) := fun lacks =>
    Option.some_ne_none _ (first_type.symm.trans lacks.untyped)
  have second_typed : ¬twinInstance.LacksType (.ip twin (some peer)) := fun lacks =>
    Option.some_ne_none _ (second_type.symm.trans lacks.untyped)
  have first_accepted : NoRefusal twinRouter.Refuses
      [(twinInstance, .ip borderNeighbor (some peer))] := by
    intro done item rest split cause refused
    rcases done with _ | ⟨head, done⟩
    · cases split
      cases refused with
      | untyped has_vrf lacks => exact first_typed lacks
      | duplicate has_vrf typed here earlier there => cases earlier
    · simp at split
  have whole := convert_eq_error_iff twinRouter_keyed twinRouter_wellNamed .standard
  rw [whole.2.1, neighbors]
  refine ⟨[_], _, [], rfl, ?_, first_accepted⟩
  refine .duplicate (.inl rfl) second_typed ⟨twin, rfl, ?_⟩ List.mem_cons_self
    ⟨borderNeighbor, rfl, ?_⟩
  · rw [NeighborSettings.isValid, second_type, Option.isSome_some, Bool.or_true]
  · rw [NeighborSettings.isValid, first_type, Option.isSome_some, Bool.or_true]

end NeutralRouting
