import NeutralRouting.Proofs.NetworkText
import NeutralRouting.Proofs.VniAnnouncements

/-!
# Warnings about VNIs

Every EVPN address family that is built complains about the same VRFs, and what has been complained
about is not repeated.  One warning for each of these VRFs is left of all the complaints.
-/

namespace NeutralRouting

open Std Conversion

namespace Warnings

variable {label : String} {complaints : List String}

/-- What is recorded already is not recorded once more. -/
theorem foldl_flagOnce_of_subset {texts : List String} {warnings : Warnings}
    (known : ∀ text ∈ texts, text ∈ warnings.entries) :
    texts.foldl flagOnce warnings = warnings := by
  induction texts with
  | nil => rfl
  | cons text texts ih =>
      rw [List.forall_mem_cons] at known
      rw [List.foldl_cons, flagOnce, if_pos known.1, ih known.2]

/-- Different texts that are not recorded yet are all recorded. -/
theorem foldl_flagOnce_of_nodup {texts : List String} {warnings : Warnings}
    (distinct : (warnings.entries ++ texts).Nodup) :
    texts.foldl flagOnce warnings = ⟨warnings.entries ++ texts⟩ := by
  induction texts generalizing warnings with
  | nil => rw [List.append_nil, List.foldl_nil]
  | cons text texts ih =>
      have fresh : text ∉ warnings.entries := fun known =>
        (List.disjoint_of_nodup_append distinct) known List.mem_cons_self
      rw [List.append_cons] at distinct ⊢
      rw [List.foldl_cons, flagOnce, if_neg fresh]
      exact ih distinct

/-- However many speakers make the same complaints, these are recorded once. -/
theorem foldl_flagOnce_flatMap {α : Type} (distinct : complaints.Nodup) (speaks : α → Bool)
    (speakers : List α) :
    (speakers.flatMap fun speaker => if speaks speaker then complaints else []).foldl flagOnce
      empty = ⟨if speakers.any speaks then complaints else []⟩ := by
  induction speakers with
  | nil => rfl
  | cons speaker speakers ih =>
      rw [List.flatMap_cons, List.foldl_append, List.any_cons]
      cases first : speaks speaker with
      | false => simpa using ih
      | true =>
          have once : complaints.foldl flagOnce empty = ⟨complaints⟩ :=
            foldl_flagOnce_of_nodup distinct
          rw [if_pos rfl, once, Bool.true_or, if_pos rfl]
          refine foldl_flagOnce_of_subset fun text member => ?_
          obtain ⟨_, -, repeated⟩ := List.mem_flatMap.mp member
          split at repeated
          · exact repeated
          · cases repeated

/-- The warnings about VNIs are recorded as if there were no others. -/
theorem starting_vniOpening_foldl_note (texts : List String) (warnings : Warnings) :
    (texts.foldl note warnings).starting vniOpening =
      ((texts.filter (startsWith vniOpening)).foldl flagOnce
        ⟨warnings.starting vniOpening⟩).entries := by
  induction texts generalizing warnings with
  | nil => rfl
  | cons text texts ih =>
      rw [List.foldl_cons, ih, note]
      cases about_vni : startsWith vniOpening text with
      | false =>
          rw [if_neg Bool.false_ne_true, starting_flag_of_other about_vni,
            List.filter_cons_of_neg (by simp [about_vni])]
      | true =>
          have recorded : text ∈ warnings.starting vniOpening ↔ text ∈ warnings.entries := by
            simp [starting, about_vni]
          rw [if_pos rfl, List.filter_cons_of_pos about_vni, List.foldl_cons, flagOnce, flagOnce]
          by_cases known : text ∈ warnings.entries
          · rw [if_pos known, if_pos (recorded.mpr known)]
          · rw [if_neg known, if_neg (mt recorded.mp known), starting_flag,
              List.filter_cons_of_pos about_vni, List.filter_nil, flag]

/-- A longer label selects from what a shorter one selects. -/
theorem starting_of_startsWith {opening : String} {warnings : Warnings}
    (opens : startsWith opening label = true) :
    warnings.starting label = (warnings.starting opening).filter (startsWith label) := by
  rw [starting, starting, List.filter_filter]
  refine List.filter_congr fun text _ => ?_
  cases starts : startsWith label text with
  | false => rfl
  | true =>
      rw [startsWith, List.isPrefixOf_iff_prefix] at opens starts
      rw [Bool.true_and, eq_comm, startsWith, List.isPrefixOf_iff_prefix]
      exact opens.trans starts

end Warnings

/-- The complaint about a VRF whose routed traffic has a VNI that no VXLAN device has. -/
def unannouncedWarning (vrf : String) (vni : UInt32) : String :=
  s!"Skipping L3 VNI {vni} of vrf {vrf}: no VXLAN device has that id"

theorem toList_unannouncedWarning (vrf : String) (vni : UInt32) :
    (unannouncedWarning vrf vni).toList =
      "Skipping L3 VNI ".toList ++ (vni.toNat.repr.toList ++ ' ' ::
        ("of vrf ".toList ++ (vrf.toList ++ ": no VXLAN device has that id".toList))) := by
  change ("Skipping L3 VNI " ++ vni.toNat.repr ++ " of vrf " ++ vrf ++
    ": no VXLAN device has that id").toList = _
  simp only [String.toList_append, List.append_assoc]
  rfl

theorem startsWith_unannouncedWarning (vrf : String) (vni : UInt32) :
    startsWith "Skipping L3 VNI " (unannouncedWarning vrf vni) = true := by
  rw [startsWith, toList_unannouncedWarning, List.isPrefixOf_iff_prefix]
  exact List.prefix_append _ _

/-- The complaint tells the VRF and its VNI. -/
theorem eq_of_unannouncedWarning_eq {vrf other : String} {vni another : UInt32}
    (same : unannouncedWarning vrf vni = unannouncedWarning other another) :
    vrf = other ∧ vni = another := by
  have chars := congrArg String.toList same
  rw [toList_unannouncedWarning, toList_unannouncedWarning] at chars
  obtain ⟨numbers, chars⟩ := repr_cons_inj (by decide) (List.append_cancel_left chars)
  have names := List.append_cancel_right (List.append_cancel_left chars)
  exact ⟨String.toList_inj.mp names, UInt32.toNat_inj.mp numbers⟩

/-- The complaints of every EVPN address family of the device. -/
def Device.vniComplaints (device : Device) : List String :=
  device.unannouncedVrfs.map fun (vrf, vni) => unannouncedWarning vrf vni

namespace Device

variable (device : Device)

theorem nodup_vniComplaints : device.vniComplaints.Nodup := by
  have distinct : device.unannouncedVrfs.Nodup := device.vrfs.nodup_filterMap _
  refine distinct.map ?_
  rintro ⟨vrf, vni⟩ ⟨other, another⟩ same
  obtain ⟨rfl, rfl⟩ := eq_of_unannouncedWarning_eq same
  rfl

theorem allStart_vniComplaints : AllStart "Skipping L3 VNI " device.vniComplaints := by
  intro text member
  obtain ⟨⟨vrf, vni⟩, -, rfl⟩ := List.mem_map.mp member
  exact startsWith_unannouncedWarning vrf vni

theorem mem_vniIndex_iff {vni : UInt32} : vni ∈ device.vniIndex ↔ vni ∈ device.vxlanVnis := by
  rw [Table.mem_iff_getElem?_eq_some, device.getElem?_vniIndex]
  split <;> simp_all

theorem filterMap_layer3Warning? :
    device.vrfs.routed.filterMap (layer3Warning? device) = device.vniComplaints := by
  rw [vniComplaints, unannouncedVrfs, List.map_filterMap, VrfTable.routed, List.filterMap_filter]
  refine List.filterMap_congr fun vrf _ => ?_
  have unknown : (fun vni => decide (vni ∉ device.vniIndex)) =
      fun vni => decide (vni ∉ device.vxlanVnis) := by
    funext vni
    exact decide_eq_decide.mpr (not_congr device.mem_vniIndex_iff)
  rw [layer3Warning?, unknown, Option.map_map]
  cases vrf.vni <;> rfl

end Device

/-- The neighbor becomes a peer with an EVPN address family. -/
def hasEvpnFamily (device : Device) (params : ConversionParams) (configuration : Configuration)
    (pair : BgpInstance × Neighbor) : Bool :=
  ((attachedPeer? device params configuration pair.1 pair.2).bind (·.evpn)).isSome

section Families

variable {device : Device} {params : ConversionParams} {configuration : Configuration}
  {interfaces : List Interface} {inst : BgpInstance} {neighbor : Neighbor} {effect : Effect}
  (skeleton : configuration.underlay.IsSkeleton device.HasVrf interfaces device.bridgedSegments)
include skeleton

/-- An address family complains about VRFs only, since all bridged segments have an index. -/
theorem evpnWarnings_eq (settings : NeighborSettings) :
    evpnWarnings device configuration inst settings =
      if (evpnActivation? inst settings).isSome then device.vniComplaints else [] := by
  have bridged : (bridgedVnis configuration inst).filterMap (layer2Warning? device) = [] := by
    refine List.filterMap_eq_nil_iff.mpr fun vni member => ?_
    rw [layer2Warning?, if_pos]
    exact device.mem_vniIndex_iff.mpr ((mem_bridgedVnis_iff skeleton).mp member).2.1
  rw [evpnWarnings]
  cases evpnActivation? inst settings with
  | none => rfl
  | some active => simp [bridged, device.filterMap_layer3Warning?]

/-- Attaching a neighbor complains about VNIs exactly if its peer has an EVPN address family. -/
theorem filter_vniOpening_of_attachment? {pair : BgpInstance × Neighbor}
    (known : attachment? device params configuration pair = some effect) :
    effect.warnings.filter (startsWith vniOpening) =
      if hasEvpnFamily device params configuration pair then device.vniComplaints else [] := by
  obtain ⟨inst, neighbor⟩ := pair
  rw [attachment?] at known
  split at known
  · next idle =>
      cases known
      simp [hasEvpnFamily, attachedPeer?, idle, Effect.nothing]
  · next process running =>
      split at known
      · next no_peer =>
          cases known
          rw [(allStart_skipWarnings neighbor).filter_eq_nil (by decide)]
          simp [hasEvpnFamily, attachedPeer?, no_peer]
      · next id identity =>
          obtain ⟨remoteAsns, clear, rfl⟩ := Option.map_eq_some_iff.mp known
          rw [peerEffect, List.filter_append, List.filter_append,
            (allStart_sessionWarnings id).filter_eq_nil (by decide),
            Device.allStart_undefinedUses.filter_eq_nil (by decide),
            allStart_evpnWarnings.filter_eq_self, evpnWarnings_eq skeleton]
          simp [hasEvpnFamily, attachedPeer?, running, identity, clear, instancePeer, evpnFamily?]

end Families

/-- Some peer of the VRF has the address family. -/
def Configuration.Announces (configuration : Configuration) (vrf : String) (family : EvpnFamily) :
    Prop :=
  ∃ process peer, configuration.bgpProcess? vrf = some process ∧ peer ∈ process.peers ∧
    peer.evpn = some family

section Attached

variable {device : Device} {params : ConversionParams} {compile : RouteMapCompiler}
  {instances : BgpInstances} {built attached result : Progress} {vrf : String}
  {family : EvpnFamily}
  (attaches : device.Attaches params compile instances built attached result)
include attaches

/-- Every address family of the result is made for some neighbor, over the skeleton. -/
theorem Device.Attaches.exists_tells (announces : result.configuration.Announces vrf family) :
    ∃ inst neighbor, (inst, neighbor) ∈ instances.neighbors ∧ inst.vrf = vrf ∧
      device.HasVrf vrf ∧ device.Tells inst family ∧
      hasEvpnFamily device params built.configuration (inst, neighbor) = true := by
  obtain ⟨process, peer, serving, member, own⟩ := announces
  obtain ⟨inst, neighbor, listed, own_vrf, has_vrf, became⟩ :=
    attaches.exists_attachedPeer? serving member
  refine ⟨inst, neighbor, listed, own_vrf, has_vrf, ?tells, ?has_family⟩
  case tells =>
    simp only [attachedPeer?, Option.bind_eq_bind, Option.bind_eq_some_iff, Option.pure_def,
      Option.some.injEq] at became
    obtain ⟨process, -, id, -, remoteAsns, -, rfl⟩ := became
    exact tells_of_evpnFamily? attaches.skeleton own
  case has_family => rw [hasEvpnFamily, became, Option.bind_some, own, Option.isSome_some]

/-- Attaching the neighbors makes all complaints about VNIs once, if it makes any. -/
theorem Device.Attaches.starting_vniOpening :
    result.warnings.starting vniOpening =
      (if instances.neighbors.any (hasEvpnFamily device params built.configuration) then
        device.vniComplaints else []) ++
      (compile.warnings device).filter (startsWith vniOpening) := by
  obtain ⟨known, ran⟩ := runFrom_attachNeighbors_eq_ok_iff.mp attaches.run
  obtain ⟨configuration, -, rfl⟩ := Option.map_eq_some_iff.mp ran
  rw [attaches.warnings vniOpening (by decide), Warnings.starting_vniOpening_foldl_note,
    attaches.nothing_said vniOpening (by decide),
    filter_warnings_effectsOf
      (fun pair effect own => filter_vniOpening_of_attachment? attaches.skeleton own) known]
  exact congrArg (· ++ _) (congrArg Warnings.entries
    (Warnings.foldl_flagOnce_flatMap device.nodup_vniComplaints _ _))

end Attached

section Convert

variable {device : Device} {params : ConversionParams} {compile : RouteMapCompiler}
  {progress : Progress} (converted : device.convert params compile = .ok progress)
include converted

theorem tells_of_convert {vrf : String} {family : EvpnFamily}
    (announces : progress.configuration.Announces vrf family) :
    ∃ inst ∈ device.activeInstances, inst.vrf = vrf ∧ device.Tells inst family := by
  have ⟨_, _, serving, _⟩ := announces
  obtain ⟨instances, built, attached, runs_bgp, attaches⟩ :=
    exists_attaches_of_bgpProcess? converted serving
  obtain ⟨inst, neighbor, listed, rfl, has_vrf, tells, -⟩ := attaches.exists_tells announces
  exact ⟨inst, Device.mem_activeInstances_iff.mpr
    ⟨instances, runs_bgp, (BgpInstances.mem_neighbors_iff.mp listed).1, has_vrf⟩, rfl, tells⟩

/-- The instances of a device that converts are those of different VRFs. -/
theorem eq_of_mem_activeInstances_of_convert {first second : BgpInstance}
    (first_mem : first ∈ device.activeInstances) (second_mem : second ∈ device.activeInstances)
    (same : first.vrf = second.vrf) : first = second := by
  obtain ⟨instances, runs_bgp, first_mem, has_vrf⟩ := Device.mem_activeInstances_iff.mp first_mem
  obtain ⟨_, runs_again, second_mem, -⟩ := Device.mem_activeInstances_iff.mp second_mem
  cases runs_bgp.symm.trans runs_again
  obtain ⟨built, attached, attaches⟩ := exists_attaches_of_convert converted runs_bgp
  exact attaches.eq_of_same_vrf first_mem second_mem has_vrf same

/-- The complaints of a conversion about VNIs. -/
theorem starting_vniOpening_of_convert :
    ∃ complaints, progress.warnings.starting vniOpening =
        complaints ++ (compile.warnings device).filter (startsWith vniOpening) ∧
      (complaints = [] ∨ complaints = device.vniComplaints) ∧
      ∀ vrf family, progress.configuration.Announces vrf family →
        complaints = device.vniComplaints := by
  cases runs_bgp : device.bgp with
  | none =>
      refine ⟨[], ?_, .inl rfl, ?_⟩
      · refine starting_of_convert_of_attach (by decide) converted (fun _ => rfl) ?_
        intro _ _ _ runs
        cases runs_bgp.symm.trans runs
      · rintro vrf family ⟨process, -, serving, -⟩
        rw [bgpProcess?_eq_none_of_convert converted runs_bgp] at serving
        cases serving
  | some instances =>
      obtain ⟨built, attached, attaches⟩ := exists_attaches_of_convert converted runs_bgp
      refine ⟨_, attaches.starting_vniOpening, ?_, fun vrf family announces => ?_⟩
      · split
        · exact .inr rfl
        · exact .inl rfl
      · obtain ⟨inst, neighbor, listed, -, -, -, has_family⟩ := attaches.exists_tells announces
        rw [if_pos (List.any_eq_true.mpr ⟨_, listed, has_family⟩)]

/-- Every announced VNI is that of a VXLAN device and has its rank as index, and a routed VRF
without such a device is complained about once. -/
theorem convert_announces_vnis :
    (∀ vrf family, progress.configuration.Announces vrf family →
      (∀ vni index, (vni, index) ∈ family.announcements →
        vni ∈ device.vxlanVnis ∧ index = (device.vxlanVnis.filter (· < vni)).card) ∧
      (∀ first ∈ family.layer2, ∀ second ∈ family.layer2, first.vni = second.vni →
        first = second) ∧
      (family.layer3.toList.map fun entry => (entry.vrf, entry.vni)).Perm device.announcedVrfs) ∧
    (∀ vrf other first second, progress.configuration.Announces vrf first →
      progress.configuration.Announces other second →
      (∀ vni index another place, (vni, index) ∈ first.announcements →
        (another, place) ∈ second.announcements → (index = place ↔ vni = another)) ∧
      ∀ bridged ∈ first.layer2, ∀ routed ∈ second.layer3, bridged.vni ≠ routed.vni) ∧
    (∀ inst ∈ device.activeInstances, inst.vrf = defaultVrfName →
      ∀ evpn, inst.evpn = some evpn → evpn.advertiseAllVni = true →
      ∀ family, progress.configuration.Announces defaultVrfName family →
      ∀ vni, vni ∈ family.announcements.map Prod.fst ↔ vni ∈ device.vxlanVnis) ∧
    (compile = entrywiseCompiler →
      progress.warnings.starting "Skipping L2 VNI " = [] ∧
      ∀ vrf family, progress.configuration.Announces vrf family →
        progress.warnings.starting "Skipping L3 VNI " =
          (device.unannouncedVrfs.map fun (vrf, vni) => unannouncedWarning vrf vni) ∧
        (device.unannouncedVrfs.map fun (vrf, vni) => unannouncedWarning vrf vni).Nodup) := by
  refine ⟨fun vrf family announces => ?entries, ?pairs, ?all_vnis, ?warnings⟩
  case entries =>
    obtain ⟨inst, -, -, tells⟩ := tells_of_convert converted announces
    exact ⟨fun vni index member => tells.of_mem_announcements member, tells.distinct, tells.routed⟩
  case pairs =>
    intro vrf other first second announces announces_too
    obtain ⟨_, -, -, tells⟩ := tells_of_convert converted announces
    obtain ⟨_, -, -, tells_too⟩ := tells_of_convert converted announces_too
    refine ⟨fun vni index another place member member_too => ?_, fun bridged listed routed => ?_⟩
    · obtain ⟨known, rfl⟩ := tells.of_mem_announcements member
      obtain ⟨known_too, rfl⟩ := tells_too.of_mem_announcements member_too
      exact Device.vniRank_eq_vniRank_iff known known_too
    · intro listed_too same
      have no_routes := (tells.layer2 bridged listed).2.1
      have routes := (tells_too.layer3 routed listed_too).2.1
      rw [same, routes] at no_routes
      cases no_routes
  case all_vnis =>
    intro inst active is_default evpn own_evpn all_vnis family announces vni
    obtain ⟨other, other_active, own_vrf, tells⟩ := tells_of_convert converted announces
    cases eq_of_mem_activeInstances_of_convert converted active other_active
      (is_default.trans own_vrf.symm)
    exact tells.mem_announced_iff is_default own_evpn all_vnis
  case warnings =>
    rintro rfl
    obtain ⟨complaints, recorded, alternatives, spoken⟩ := starting_vniOpening_of_convert converted
    rw [allStart_warnings_entrywiseCompiler.filter_eq_nil (by decide), List.append_nil] at recorded
    have within : ∀ label, startsWith vniOpening label = true →
        progress.warnings.starting label = complaints.filter (startsWith label) :=
      fun label opens => recorded ▸ Warnings.starting_of_startsWith opens
    have about_routes : AllStart "Skipping L3 VNI " complaints := by
      rcases alternatives with rfl | rfl
      · exact fun _ member => nomatch member
      · exact device.allStart_vniComplaints
    refine ⟨?_, fun vrf family announces => ⟨?_, device.nodup_vniComplaints⟩⟩
    · rw [within _ (by decide)]
      exact about_routes.filter_eq_nil (by decide)
    · rw [within _ (by decide), about_routes.filter_eq_self, spoken vrf family announces]
      rfl

end Convert

/-- The leaf switch with two bridged segments, and with a VRF whose VNI no VXLAN device has. -/
def overlaySwitch : Device :=
  { leafSwitch with
    vrfs := ⟨((∅ : ExtTreeMap String (Option UInt32)).insert "blue" (some 4001)).insert "green"
      (some 4002)⟩
    vxlans := (((∅ : ExtTreeMap String Vxlan).insert "bridge" ⟨"bridge", some 30, none⟩).insert
      "routed" ⟨"routed", some 4001, none⟩).insert "tenant" ⟨"tenant", some 10, none⟩ }

/-- All peers of the switch that take part in EVPN are told about the same three VNIs, under the
same indices.  There is one, and one complaint about the VRF `green`. -/
theorem convert_overlaySwitch_announces :
    ∃ progress, overlaySwitch.convert .standard entrywiseCompiler = .ok progress ∧
      (∃ family, progress.configuration.Announces defaultVrfName family) ∧
      (∀ family, progress.configuration.Announces defaultVrfName family →
        ∀ announcement, announcement ∈ family.announcements ↔
          announcement ∈ [(10, 0), (30, 1), (4001, 2)]) ∧
      progress.warnings.starting "Skipping L2 VNI " = [] ∧
      progress.warnings.starting "Skipping L3 VNI " =
        ["Skipping L3 VNI 4002 of vrf green: no VXLAN device has that id"] := by
  have announcing : ((overlaySwitch.convert .standard entrywiseCompiler).toOption.bind
      (·.configuration.bgpProcess? defaultVrfName)).any
        (·.peers.any (·.evpn.isSome)) = true := by decide +kernel
  obtain ⟨process, serving, announcing⟩ := (Option.any_eq_true _ _).mp announcing
  obtain ⟨progress, converted, serving⟩ := Option.bind_eq_some_iff.mp serving
  rw [toOption_eq_some_iff] at converted
  obtain ⟨peer, member, announcing⟩ := List.any_eq_true.mp announcing
  obtain ⟨family, own⟩ := Option.isSome_iff_exists.mp announcing
  have announces : progress.configuration.Announces defaultVrfName family :=
    ⟨process, peer, serving, member, own⟩
  obtain ⟨entries, -, all_vnis, warnings⟩ := convert_announces_vnis converted
  have active : leafInstance ∈ overlaySwitch.activeInstances := by decide +kernel
  have vnis : overlaySwitch.vxlanVnis = {10, 30, 4001} := by decide +kernel
  refine ⟨progress, converted, ⟨family, announces⟩, ?announced, (warnings rfl).1, ?warned⟩
  case announced =>
    rintro family announces ⟨vni, index⟩
    have own := all_vnis leafInstance active rfl _ rfl rfl family announces
    have rank := (entries _ family announces).1
    rw [vnis] at own rank
    constructor
    · intro member
      obtain ⟨known, rfl⟩ := rank vni index member
      simp only [Finset.mem_insert, Finset.mem_singleton] at known
      rcases known with rfl | rfl | rfl <;> decide
    · intro member
      simp only [List.mem_cons, Prod.mk.injEq, List.not_mem_nil, or_false] at member
      have known : vni ∈ ({10, 30, 4001} : Finset UInt32) := by
        rcases member with ⟨rfl, -⟩ | ⟨rfl, -⟩ | ⟨rfl, -⟩ <;> decide
      obtain ⟨⟨_, another⟩, listed, rfl⟩ := List.mem_map.mp ((own vni).mpr known)
      have ranked := (rank _ _ listed).2
      have same : index = another := by
        rw [ranked]
        rcases member with ⟨rfl, rfl⟩ | ⟨rfl, rfl⟩ | ⟨rfl, rfl⟩ <;> decide
      rwa [same]
  case warned =>
    rw [((warnings rfl).2 _ family announces).1]
    decide +kernel

end NeutralRouting
