import NeutralRouting.Proofs.Conversion

/-!
# Reports of steps

Which warnings a step records, counted by how they start.  Steps that record none of a kind can be
passed over.
-/

namespace NeutralRouting

open Std

/-- The text starts with the label. -/
def startsWith (label text : String) : Bool := label.toList.isPrefixOf text.toList

/-- Neither of two texts starts with the other. -/
def Apart (label opening : String) : Prop :=
  startsWith label opening = false ∧ startsWith opening label = false

instance (label opening : String) : Decidable (Apart label opening) :=
  inferInstanceAs (Decidable (_ ∧ _))

/-- All texts start with the label. -/
def AllStart (label : String) (texts : List String) : Prop :=
  ∀ text ∈ texts, startsWith label text = true

/-- A text does not start in two ways that are apart. -/
theorem Apart.startsWith_eq_false {label opening text : String} (apart : Apart label opening)
    (opens : startsWith opening text = true) : startsWith label text = false := by
  rw [Bool.eq_false_iff]
  intro starts
  obtain ⟨not_label, not_opening⟩ := apart
  rw [startsWith, List.isPrefixOf_iff_prefix] at opens starts
  rw [startsWith, Bool.eq_false_iff, ne_eq, List.isPrefixOf_iff_prefix] at not_label not_opening
  exact (List.prefix_or_prefix_of_prefix starts opens).elim not_label not_opening

theorem AllStart.startsWith_eq_false {label opening : String} {texts : List String}
    (opens : AllStart opening texts) (apart : Apart label opening) :
    ∀ text ∈ texts, startsWith label text = false :=
  fun text member => apart.startsWith_eq_false (opens text member)

theorem AllStart.filter_eq_self {label : String} {texts : List String}
    (all_start : AllStart label texts) : texts.filter (startsWith label) = texts :=
  List.filter_eq_self.mpr all_start

theorem AllStart.filter_eq_nil {label opening : String} {texts : List String}
    (opens : AllStart opening texts) (apart : Apart label opening) :
    texts.filter (startsWith label) = [] :=
  List.filter_eq_nil_iff.mpr fun text member => by
    simp [opens.startsWith_eq_false apart text member]

/-- The warnings that start with a label, in the order in which they are recorded. -/
def Warnings.starting (warnings : Warnings) (label : String) : List String :=
  warnings.entries.filter (startsWith label)

namespace Warnings

variable {label : String} {warnings : Warnings}

theorem starting_flag (warning : String) :
    (warnings.flag warning).starting label =
      warnings.starting label ++ [warning].filter (startsWith label) :=
  List.filter_append _ _

theorem starting_flag_of_other {warning : String} (other : startsWith label warning = false) :
    (warnings.flag warning).starting label = warnings.starting label := by
  rw [starting_flag, List.filter_cons_of_neg (by simp [other]), List.filter_nil, List.append_nil]

theorem starting_foldl_flag (added : List String) :
    (added.foldl flag warnings).starting label =
      warnings.starting label ++ added.filter (startsWith label) := by
  induction added generalizing warnings with
  | nil => simp
  | cons warning added ih =>
      rw [List.foldl_cons, ih, starting_flag, List.append_assoc, ← List.filter_append,
        List.singleton_append]

theorem starting_foldl_flagOnce {added : List String}
    (others : ∀ warning ∈ added, startsWith label warning = false) :
    (added.foldl flagOnce warnings).starting label = warnings.starting label := by
  induction added generalizing warnings with
  | nil => rfl
  | cons warning added ih =>
      rw [List.foldl_cons, ih fun other member => others other (List.mem_cons_of_mem _ member),
        flagOnce]
      split
      · rfl
      · exact starting_flag_of_other (others warning List.mem_cons_self)

end Warnings

namespace Conversion

variable {α β : Type} {label : String}

/-- A step that succeeds records the given warnings with the label, one after the other. -/
def Reports (label : String) (step : Conversion α) (reported : List String) : Prop :=
  ∀ progress value after, step.runFrom progress = (.ok value, after) →
    after.warnings.starting label = progress.warnings.starting label ++ reported

/-- A step that succeeds records no warning with the label. -/
def Silent (label : String) (step : Conversion α) : Prop := Reports label step []

theorem Reports.bind {step : Conversion α} {next : α → Conversion β} {front back : List String}
    (first : Reports label step front) (rest : ∀ value, Reports label (next value) back) :
    Reports label (step >>= next) (front ++ back) := by
  intro progress value after run
  obtain ⟨middleValue, middle, firstRun, restRun⟩ := runFrom_bind_eq_ok_iff.mp run
  rw [rest middleValue _ _ _ restRun, first _ _ _ firstRun, List.append_assoc]

theorem Reports.warnAll (warnings : List String) :
    Reports label (Conversion.warnAll warnings) (warnings.filter (startsWith label)) := by
  rintro progress _ after run
  rw [runFrom_warnAll] at run
  cases run
  exact Warnings.starting_foldl_flag warnings

namespace Silent

theorem of_same {step : Conversion α}
    (same : ∀ progress value after, step.runFrom progress = (.ok value, after) →
      after.warnings = progress.warnings) : Silent label step := by
  intro progress value after run
  rw [same progress value after run, List.append_nil]

theorem pure (value : α) : Silent label (Pure.pure value) := by
  refine of_same fun progress _ after run => ?_
  cases run
  rfl

theorem throw (cause : ConversionError) :
    Silent label (MonadExcept.throw cause : Conversion α) := by
  intro progress value after run
  simp at run

theorem configuration : Silent label Conversion.configuration := by
  refine of_same fun progress _ after run => ?_
  cases run
  rfl

theorem store (change : Configuration → Attempt Configuration) :
    Silent label (Conversion.store change) := by
  refine of_same fun progress _ after run => ?_
  rw [runFrom_store] at run
  rw [← (Prod.mk.inj run).2]

theorem update (change : Configuration → Configuration) :
    Silent label (Conversion.update change) := by
  refine of_same fun progress _ after run => ?_
  cases run
  rfl

theorem require (value : Except ConversionError α) : Silent label (Conversion.require value) := by
  cases value with
  | error cause => exact throw cause
  | ok value => exact pure value

theorem bind {step : Conversion α} {next : α → Conversion β} (first : Silent label step)
    (rest : ∀ value, Silent label (next value)) : Silent label (step >>= next) :=
  Reports.bind first rest

theorem bind_reports {step : Conversion α} {next : α → Conversion β} {reported : List String}
    (first : Silent label step) (rest : ∀ value, Reports label (next value) reported) :
    Reports label (step >>= next) reported :=
  Reports.bind first rest

theorem warnAll {warnings : List String}
    (others : ∀ warning ∈ warnings, startsWith label warning = false) :
    Silent label (Conversion.warnAll warnings) := by
  have none_reported : warnings.filter (startsWith label) = [] := by
    rw [List.filter_eq_nil_iff]
    intro warning member
    rw [others warning member]
    exact Bool.false_ne_true
  rw [Silent, ← none_reported]
  exact Reports.warnAll warnings

theorem warn {warning : String} (other : startsWith label warning = false) :
    Silent label (Conversion.warn warning) := by
  refine fun progress value after run => ?_
  cases run
  rw [List.append_nil]
  exact Warnings.starting_flag_of_other other

theorem warnAllOnce {warnings : List String}
    (others : ∀ warning ∈ warnings, startsWith label warning = false) :
    Silent label (Conversion.warnAllOnce warnings) := by
  rintro progress _ after run
  rw [runFrom_warnAllOnce] at run
  cases run
  rw [List.append_nil]
  exact Warnings.starting_foldl_flagOnce others

theorem forM {items : List α} {step : α → Conversion Unit}
    (each : ∀ item ∈ items, Silent label (step item)) : Silent label (items.forM step) := by
  induction items with
  | nil => exact pure ()
  | cons item items ih =>
      exact bind (each item List.mem_cons_self)
        fun _ => ih fun other member => each other (List.mem_cons_of_mem item member)

end Silent
end Conversion
end NeutralRouting
