import NeutralRouting.Conversion.Whole
import NeutralRouting.Proofs.Conversion

/-!
# Warnings recorded earlier

Recording a warning never changes the outcome of a conversion.  Its phases do the same whatever
was recorded before they start, and they add their warnings after the earlier ones.  All that the
earlier ones can do is to keep a complaint about a VNI from being recorded once more.
-/

namespace NeutralRouting

/-- One run has built the same as another and has recorded its warnings after some earlier ones,
except those that were recorded already. -/
structure Progress.Continues (earlier : Warnings) (plain later : Progress) : Prop where
  configuration : later.configuration = plain.configuration
  warnings : ∃ added, later.warnings.entries = earlier.entries ++ added ∧
    added.Sublist plain.warnings.entries ∧ plain.warnings.entries ⊆ later.warnings.entries

namespace Progress.Continues

variable {earlier : Warnings} {plain later : Progress}

/-- Nothing is recorded yet besides the earlier warnings. -/
theorem start (configuration : Configuration) (earlier : Warnings) :
    Continues earlier ⟨configuration, .empty⟩ ⟨configuration, earlier⟩ :=
  ⟨rfl, [], (List.append_nil _).symm, .slnil, List.nil_subset _⟩

/-- Both runs change the configuration in the same way. -/
theorem change (continues : Continues earlier plain later) (configuration : Configuration) :
    Continues earlier { plain with configuration } { later with configuration } :=
  ⟨rfl, continues.warnings⟩

theorem flag (continues : Continues earlier plain later) (warning : String) :
    Continues earlier { plain with warnings := plain.warnings.flag warning }
      { later with warnings := later.warnings.flag warning } := by
  obtain ⟨same, added, entries, sublist, subset⟩ := continues
  refine ⟨same, added ++ [warning], ?_, sublist.append_right _, ?_⟩
  · rw [Warnings.flag, entries, List.append_assoc]
  · exact List.append_subset.mpr
      ⟨List.Subset.trans subset (List.subset_append_left _ _), List.subset_append_right _ _⟩

/-- A warning that only the later run knows already is recorded in the other run alone. -/
theorem flag_known (continues : Continues earlier plain later) {warning : String}
    (known : warning ∈ later.warnings.entries) :
    Continues earlier { plain with warnings := plain.warnings.flag warning } later := by
  obtain ⟨same, added, entries, sublist, subset⟩ := continues
  refine ⟨same, added, entries, sublist.trans (List.sublist_append_left _ _), ?_⟩
  exact List.append_subset.mpr ⟨subset, List.cons_subset.mpr ⟨known, List.nil_subset _⟩⟩

theorem flagOnce (continues : Continues earlier plain later) (warning : String) :
    Continues earlier { plain with warnings := plain.warnings.flagOnce warning }
      { later with warnings := later.warnings.flagOnce warning } := by
  by_cases known : warning ∈ plain.warnings.entries
  · obtain ⟨added, -, -, subset⟩ := continues.warnings
    rw [Warnings.flagOnce, Warnings.flagOnce, if_pos known, if_pos (subset known)]
    exact continues
  · rw [Warnings.flagOnce, Warnings.flagOnce, if_neg known]
    by_cases repeated : warning ∈ later.warnings.entries
    · rw [if_pos repeated]
      exact continues.flag_known repeated
    · rw [if_neg repeated]
      exact continues.flag warning

end Progress.Continues

namespace Conversion

variable {α β : Type}

/-- The step does the same whatever was recorded earlier, and goes on recording after it. -/
def Unswayed (step : Conversion α) : Prop :=
  ∀ earlier plain later, Progress.Continues earlier plain later →
    (step.runFrom later).1 = (step.runFrom plain).1 ∧
      Progress.Continues earlier (step.runFrom plain).2 (step.runFrom later).2

namespace Unswayed

theorem pure (value : α) : Unswayed (Pure.pure value) := fun _ _ _ continues => ⟨rfl, continues⟩

theorem throw (cause : ConversionError) : Unswayed (MonadExcept.throw cause : Conversion α) :=
  fun _ _ _ continues => ⟨rfl, continues⟩

theorem configuration : Unswayed Conversion.configuration := by
  intro earlier plain later continues
  rw [runFrom_configuration, runFrom_configuration, continues.configuration]
  exact ⟨rfl, continues⟩

theorem update (change : Configuration → Configuration) : Unswayed (Conversion.update change) := by
  intro earlier plain later continues
  rw [runFrom_update, runFrom_update, continues.configuration]
  exact ⟨rfl, continues.change _⟩

theorem store (change : Configuration → Attempt Configuration) :
    Unswayed (Conversion.store change) := by
  intro earlier plain later continues
  rw [runFrom_store, runFrom_store, continues.configuration]
  exact ⟨rfl, continues.change _⟩

theorem warn (warning : String) : Unswayed (Conversion.warn warning) :=
  fun _ _ _ continues => ⟨rfl, continues.flag warning⟩

theorem warnOnce (warning : String) : Unswayed (Conversion.warnOnce warning) :=
  fun _ _ _ continues => ⟨rfl, continues.flagOnce warning⟩

theorem require (value : Except ConversionError α) : Unswayed (Conversion.require value) := by
  cases value with
  | error cause => exact throw cause
  | ok value => exact pure value

theorem bind {step : Conversion α} {next : α → Conversion β} (first : Unswayed step)
    (rest : ∀ value, Unswayed (next value)) : Unswayed (step >>= next) := by
  intro earlier plain later continues
  obtain ⟨same, afterwards⟩ := first _ _ _ continues
  rw [runFrom_bind, runFrom_bind]
  rcases plain_run : step.runFrom plain with ⟨outcome, plain_after⟩
  rcases later_run : step.runFrom later with ⟨later_outcome, later_after⟩
  rw [plain_run, later_run] at same afterwards
  dsimp only at same afterwards
  subst same
  cases later_outcome with
  | error cause => exact ⟨rfl, afterwards⟩
  | ok value => exact rest value _ _ _ afterwards

theorem forM {items : List α} {step : α → Conversion Unit}
    (each : ∀ item, Unswayed (step item)) : Unswayed (items.forM step) := by
  induction items with
  | nil => exact pure ()
  | cons item items ih => exact bind (each item) fun _ => ih

theorem warnAll (warnings : List String) : Unswayed (Conversion.warnAll warnings) := forM warn

theorem warnAllOnce (warnings : List String) : Unswayed (Conversion.warnAllOnce warnings) :=
  forM warnOnce

end Unswayed
end Conversion

open Conversion

section Skeleton

variable (device : Device)

theorem unswayed_buildSkeleton : Unswayed (buildSkeleton device) := by
  have vrfs : Unswayed (device.vrfs.all.forM addDeclaredVrf) := by
    refine .forM fun vrf => ?_
    rw [addDeclaredVrf]
    split
    · exact .pure ()
    · exact .store _
  have interfaces : Unswayed (device.interfaces.values.forM addDeviceInterface) := by
    refine .forM fun interface => .bind .configuration fun configuration => ?_
    split
    · exact .bind (.warn _) fun _ => .store _
    · exact .store _
  have loopback : Unswayed (addLoopback device.loopback) := by
    refine .bind .configuration fun configuration => ?_
    split
    · exact .store _
    · exact .pure ()
  exact .bind vrfs fun _ => .bind interfaces fun _ => .bind loopback fun _ =>
    .bind (.forM fun _ => .store _) fun _ => .update _

theorem unswayed_convertLists : Unswayed (convertLists device) :=
  .bind (.forM fun _ => .store _) fun _ => .bind (.forM fun _ => .store _) fun _ =>
    .forM fun _ => .store _

end Skeleton

section Bgp

variable (device : Device) (params : ConversionParams)

theorem unswayed_addCommonExportPolicy (inst : BgpInstance) :
    Unswayed (addCommonExportPolicy device inst) := by
  have suppresses : Unswayed (suppressSummarized inst.vrf inst.summaryOnlyAggregates) := by
    rw [suppressSummarized]
    split
    · exact .pure _
    · exact .bind (.store _) fun _ => .pure _
  exact .bind suppresses fun _ => .bind (.warnAll _) fun _ => .store _

theorem unswayed_buildProcesses (instances : BgpInstances) :
    Unswayed (buildProcesses device params instances) := by
  refine .bind (.forM fun inst => .bind .configuration fun configuration => ?_)
    fun _ => .update _
  split
  · exact .bind (.forM fun _ => .bind (.store _) fun _ => .store _) fun _ =>
      .bind (unswayed_addCommonExportPolicy device inst) fun _ => .store _
  · exact .warn _

theorem unswayed_addPeerExportPolicy (inst : BgpInstance) (settings : NeighborSettings) :
    Unswayed (addPeerExportPolicy device inst settings) := by
  rw [addPeerExportPolicy]
  split
  · exact .bind (.update _) fun _ => .bind (.warnAll _) fun _ => .store _
  · exact .bind (.warnAll _) fun _ => .store _

theorem unswayed_addPeerImportPolicy (inst : BgpInstance) (settings : NeighborSettings) :
    Unswayed (addPeerImportPolicy device inst settings) :=
  .bind (.warnAll _) fun _ => .forM fun _ => .store _

/-- The complaints about VNIs, which look at what is recorded already, do not decide on the peer. -/
theorem unswayed_addInstancePeer (inst : BgpInstance) (routerId : Address)
    (settings : NeighborSettings) (id : PeerId) :
    Unswayed (addInstancePeer device params inst routerId settings id) :=
  .bind .configuration fun _ => .bind (.warnAll _) fun _ => .bind (.require _) fun _ =>
    .bind (unswayed_addPeerExportPolicy device inst settings) fun _ =>
    .bind (unswayed_addPeerImportPolicy device inst settings) fun _ =>
    .bind (.warnAllOnce _) fun _ => .store _

theorem unswayed_attachNeighbors (instances : BgpInstances) :
    Unswayed (attachNeighbors device params instances) := by
  refine .forM fun pair => .bind .configuration fun configuration => ?_
  split
  · exact .pure ()
  · split
    · exact .pure ()
    · dsimp only
      split
      · exact unswayed_addInstancePeer device params pair.1 _ _ _
      · exact .warn _

end Bgp

section Rest

variable (device : Device) (params : ConversionParams)

theorem unswayed_convertOspf : Unswayed (convertOspf device params) := by
  rw [convertOspf]
  split
  · exact .pure ()
  · refine .forM fun inst => .bind .configuration fun configuration => ?_
    split
    · exact .bind (.warnAll _) fun _ => .bind (.update _) fun _ => .store _
    · exact .warn _

theorem unswayed_convertRouteMaps (compile : RouteMapCompiler) :
    Unswayed (convertRouteMaps compile device) := by
  refine .forM fun map => .bind (.warnAll _) fun _ => .bind (.require _) fun policy => ?_
  split
  · exact .store _
  · exact .throw _

end Rest

/-- The phases of a conversion. -/
inductive ConversionPhase where
  | skeleton
  | lists
  /-- The BGP processes of the given instances are built. -/
  | processes (instances : BgpInstances)
  /-- The neighbors of the given instances are attached. -/
  | neighbors (instances : BgpInstances)
  | ospf
  | routeMaps

/-- What is done in a phase. -/
def ConversionPhase.step (device : Device) (params : ConversionParams) :
    ConversionPhase → Conversion Unit
  | skeleton => buildSkeleton device
  | lists => convertLists device
  | processes instances => buildProcesses device params instances
  | neighbors instances => attachNeighbors device params instances
  | ospf => convertOspf device params
  | routeMaps => convertRouteMaps entrywiseCompiler device

/-- The phases of the conversion of a device, in order. -/
def Device.phases (device : Device) : List ConversionPhase :=
  [.skeleton, .lists] ++
    (device.bgp.elim [] fun instances => [.processes instances, .neighbors instances]) ++
    [.ospf, .routeMaps]

/-- A device is converted phase by phase. -/
theorem convertDevice_eq_forM_phases (device : Device) (params : ConversionParams) :
    convertDevice entrywiseCompiler params device =
      device.phases.forM (·.step device params) := by
  rw [convertDevice, convertBgp, Device.phases, List.forM_eq_forM]
  cases device.bgp with
  | none => simp [ConversionPhase.step]
  | some instances => simp [ConversionPhase.step]

theorem ConversionPhase.unswayed_step (device : Device) (params : ConversionParams)
    (phase : ConversionPhase) : Unswayed (phase.step device params) := by
  cases phase with
  | skeleton => exact unswayed_buildSkeleton device
  | lists => exact unswayed_convertLists device
  | processes instances => exact unswayed_buildProcesses device params instances
  | neighbors instances => exact unswayed_attachNeighbors device params instances
  | ospf => exact unswayed_convertOspf device params
  | routeMaps => exact unswayed_convertRouteMaps device entrywiseCompiler

/-- Earlier warnings stay in front and change neither the outcome of some phases nor their
configuration, but phases do not repeat some of them. -/
theorem phases_ignore_earlier_warnings (device : Device) (params : ConversionParams)
    (phases : List ConversionPhase) (configuration : Configuration) (earlier : Warnings) :
    let steps := phases.forM (·.step device params)
    let plain := steps.runFrom ⟨configuration, .empty⟩
    let later := steps.runFrom ⟨configuration, earlier⟩
    later.1 = plain.1 ∧ later.2.configuration = plain.2.configuration ∧
      ∃ added, later.2.warnings.entries = earlier.entries ++ added ∧
        added.Sublist plain.2.warnings.entries ∧
        ∀ warning ∈ plain.2.warnings.entries, warning ∉ earlier.entries → warning ∈ added := by
  intro steps plain later
  have unswayed : Unswayed steps := .forM (ConversionPhase.unswayed_step device params)
  obtain ⟨outcome, same, added, entries, sublist, subset⟩ :=
    unswayed _ _ _ (.start configuration earlier)
  refine ⟨outcome, same, added, entries, sublist, fun warning recorded new => ?_⟩
  have known := subset recorded
  rw [entries] at known
  exact (List.mem_append.mp known).resolve_left new

end NeutralRouting
