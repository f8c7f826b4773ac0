import Mathlib.Data.List.Induction
import NeutralRouting.Conversion.Basic

/-!
# Running conversion steps

Equations for the steps of a conversion, and three ways to speak about them: how the configuration
after a step that succeeds is related to the one before, that a step succeeds, and that it fails
with a given cause.
-/

namespace NeutralRouting

open Std

theorem toOption_eq_some_iff {ε α : Type} {outcome : Except ε α} {value : α} :
    outcome.toOption = some value ↔ outcome = .ok value := by
  cases outcome <;> simp [Except.toOption]

namespace Conversion

variable {α β ι : Type}

section Equations

variable {step : Conversion α} {progress after : Progress}

@[simp]
theorem runFrom_pure (value : α) (progress : Progress) :
    (pure value : Conversion α).runFrom progress = (.ok value, progress) := rfl

@[simp]
theorem runFrom_throw (cause : ConversionError) (progress : Progress) :
    (throw cause : Conversion α).runFrom progress = (.error cause, progress) := rfl

@[simp]
theorem runFrom_configuration (progress : Progress) :
    configuration.runFrom progress = (.ok progress.configuration, progress) := rfl

@[simp]
theorem runFrom_update (change : Configuration → Configuration) (progress : Progress) :
    (update change).runFrom progress =
      (.ok (), { progress with configuration := change progress.configuration }) := rfl

@[simp]
theorem runFrom_warn (warning : String) (progress : Progress) :
    (warn warning).runFrom progress =
      (.ok (), { progress with warnings := progress.warnings.flag warning }) := rfl

@[simp]
theorem runFrom_warnOnce (warning : String) (progress : Progress) :
    (warnOnce warning).runFrom progress =
      (.ok (), { progress with warnings := progress.warnings.flagOnce warning }) := rfl

theorem runFrom_bind (step : Conversion α) (next : α → Conversion β) (progress : Progress) :
    (step >>= next).runFrom progress =
      match step.runFrom progress with
      | (.ok value, after) => (next value).runFrom after
      | (.error cause, after) => (.error cause, after) := by
  change (ExceptT.bindCont next (step.runFrom progress).1).run (step.runFrom progress).2 = _
  rcases step.runFrom progress with ⟨_ | _, after⟩ <;> rfl

theorem runFrom_bind_of_ok {value : α} (next : α → Conversion β)
    (run : step.runFrom progress = (.ok value, after)) :
    (step >>= next).runFrom progress = (next value).runFrom after := by
  rw [runFrom_bind, run]

theorem runFrom_bind_of_error {cause : ConversionError} (next : α → Conversion β)
    (run : step.runFrom progress = (.error cause, after)) :
    (step >>= next).runFrom progress = (.error cause, after) := by
  rw [runFrom_bind, run]

/-- A sequence succeeds exactly when both of its parts do. -/
theorem runFrom_bind_eq_ok_iff {next : α → Conversion β} {value : β} :
    (step >>= next).runFrom progress = (.ok value, after) ↔
      ∃ first middle, step.runFrom progress = (.ok first, middle) ∧
        (next first).runFrom middle = (.ok value, after) := by
  rw [runFrom_bind]
  rcases step.runFrom progress with ⟨cause | first, middle⟩
  · simp
  · constructor
    · intro rest
      exact ⟨first, middle, rfl, rest⟩
    · rintro ⟨_, _, same, rest⟩
      cases same
      exact rest

theorem exists_run_of_isOk {step : Conversion Unit}
    (succeeds : (step.runFrom progress).1.isOk = true) :
    ∃ after, step.runFrom progress = (.ok (), after) := by
  rcases outcome : step.runFrom progress with ⟨cause | ⟨⟩, after⟩
  · rw [outcome] at succeeds
    cases succeeds
  · exact ⟨after, rfl⟩

theorem runFrom_store (change : Configuration → Attempt Configuration) (progress : Progress) :
    (store change).runFrom progress =
      ((change progress.configuration).2.mapError .store,
        { progress with configuration := (change progress.configuration).1 }) := by
  rw [store, runFrom_bind_of_ok _ (runFrom_configuration progress)]
  rcases change progress.configuration with ⟨changed, _ | _⟩ <;> rfl

theorem runFrom_store_of_ok {change : Configuration → Attempt Configuration}
    {changed : Configuration} (accepted : change progress.configuration = (changed, .ok ())) :
    (store change).runFrom progress = (.ok (), { progress with configuration := changed }) := by
  rw [runFrom_store, accepted]
  rfl

theorem runFrom_store_of_error {change : Configuration → Attempt Configuration}
    {left : Configuration} {cause : StoreError}
    (refused : change progress.configuration = (left, .error cause)) :
    (store change).runFrom progress =
      (.error (.store cause), { progress with configuration := left }) := by
  rw [runFrom_store, refused]
  rfl

/-- A change is made exactly when it is not refused. -/
theorem configuration_of_runFrom_store {change : Configuration → Attempt Configuration}
    (run : (store change).runFrom progress = (.ok (), after)) :
    change progress.configuration = (after.configuration, .ok ()) := by
  rw [runFrom_store] at run
  rcases accepted : change progress.configuration with ⟨changed, cause | ⟨⟩⟩
  · rw [accepted] at run
    cases run
  · rw [accepted] at run
    cases run
    rfl

theorem runFrom_require_eq_ok_iff {value : Except ConversionError α} {result : α} :
    (require value).runFrom progress = (.ok result, after) ↔
      value = .ok result ∧ progress = after := by
  cases value with
  | error cause => simp [require]
  | ok value => simp [require]

theorem runFrom_warnAll (warnings : List String) (progress : Progress) :
    (warnAll warnings).runFrom progress =
      (.ok (), { progress with warnings := warnings.foldl Warnings.flag progress.warnings }) := by
  rw [warnAll, List.forM_eq_forM]
  induction warnings generalizing progress with
  | nil => rfl
  | cons warning warnings ih =>
      rw [List.forM_cons, runFrom_bind_of_ok _ (runFrom_warn warning progress), ih]
      rfl

theorem runFrom_warnAllOnce (warnings : List String) (progress : Progress) :
    (warnAllOnce warnings).runFrom progress =
      (.ok (), { progress with
        warnings := warnings.foldl Warnings.flagOnce progress.warnings }) := by
  rw [warnAllOnce, List.forM_eq_forM]
  induction warnings generalizing progress with
  | nil => rfl
  | cons warning warnings ih =>
      rw [List.forM_cons, runFrom_bind_of_ok _ (runFrom_warnOnce warning progress), ih]
      rfl

end Equations

section Loops

variable {items : List α} {step : α → Conversion Unit} {progress after : Progress}

theorem runFrom_forM_append_eq_ok_iff {done rest : List α} :
    ((done ++ rest).forM step).runFrom progress = (.ok (), after) ↔
      ∃ middle, (done.forM step).runFrom progress = (.ok (), middle) ∧
        (rest.forM step).runFrom middle = (.ok (), after) := by
  simp only [List.forM_eq_forM, List.forM_append, runFrom_bind_eq_ok_iff]
  constructor
  · rintro ⟨⟨⟩, middle, first, next⟩
    exact ⟨middle, first, next⟩
  · rintro ⟨middle, first, next⟩
    exact ⟨(), middle, first, next⟩

theorem runFrom_forM_cons_eq_ok_iff {item : α} {rest : List α} :
    ((item :: rest).forM step).runFrom progress = (.ok (), after) ↔
      ∃ middle, (step item).runFrom progress = (.ok (), middle) ∧
        (rest.forM step).runFrom middle = (.ok (), after) := by
  simp only [List.forM_eq_forM, List.forM_cons, runFrom_bind_eq_ok_iff]
  constructor
  · rintro ⟨⟨⟩, middle, first, next⟩
    exact ⟨middle, first, next⟩
  · rintro ⟨middle, first, next⟩
    exact ⟨(), middle, first, next⟩

/-- A loop that succeeds went through each of its items. -/
theorem exists_run_of_mem {item : α} (run : (items.forM step).runFrom progress = (.ok (), after))
    (member : item ∈ items) :
    ∃ done rest before next, items = done ++ item :: rest ∧
      (done.forM step).runFrom progress = (.ok (), before) ∧
      (step item).runFrom before = (.ok (), next) ∧
      (rest.forM step).runFrom next = (.ok (), after) := by
  obtain ⟨done, rest, rfl⟩ := List.append_of_mem member
  obtain ⟨before, first, others⟩ := runFrom_forM_append_eq_ok_iff.mp run
  obtain ⟨next, here, later⟩ := runFrom_forM_cons_eq_ok_iff.mp others
  exact ⟨done, rest, before, next, rfl, first, here, later⟩

/-- What each step of a successful loop takes one item further is reached for all items. -/
theorem reached_of_runFrom_forM (reached : List α → Progress → Prop)
    (each : ∀ done item rest, items = done ++ item :: rest → ∀ before after,
      (step item).runFrom before = (.ok (), after) → reached done before →
      reached (done ++ [item]) after)
    (run : (items.forM step).runFrom progress = (.ok (), after))
    (start : reached [] progress) : reached items after := by
  suffices general : ∀ done rest before, items = done ++ rest →
      (rest.forM step).runFrom before = (.ok (), after) → reached done before →
      reached items after from
    general [] items progress rfl run start
  intro done rest
  induction rest generalizing done with
  | nil =>
      intro before split run holds
      cases run
      rwa [split, List.append_nil]
  | cons item rest ih =>
      intro before split run holds
      obtain ⟨middle, first, others⟩ := runFrom_forM_cons_eq_ok_iff.mp run
      exact ih (done ++ [item]) middle (by simp [split]) others
        (each done item rest split before middle first holds)

/-- What each step of a successful loop adds to is there after the loop. -/
theorem made_of_runFrom_forM (made : List α → Configuration → Prop)
    (each : ∀ done item rest, items = done ++ item :: rest → ∀ before after,
      (step item).runFrom before = (.ok (), after) → made done before.configuration →
      made (done ++ [item]) after.configuration)
    (run : (items.forM step).runFrom progress = (.ok (), after))
    (start : made [] progress.configuration) : made items after.configuration :=
  reached_of_runFrom_forM (fun done progress => made done progress.configuration) each run start

end Loops

section Frames

/-- A way for configurations to be related that may be passed along from step to step. -/
structure Frame where
  Related : Configuration → Configuration → Prop
  refl : ∀ configuration, Related configuration configuration
  trans : ∀ {first second third}, Related first second → Related second third →
    Related first third

/-- An observation stays the same. -/
def Frame.same (observe : Configuration → ι) : Frame where
  Related before after := observe after = observe before
  refl _ := rfl
  trans first second := second.trans first

/-- What holds goes on holding. -/
def Frame.invariant (holds : Configuration → Prop) : Frame where
  Related before after := holds before → holds after
  refl _ := id
  trans first second start := second (first start)

/-- A step that succeeds goes from a configuration to a related one. -/
def Frame.Keeps (frame : Frame) (step : Conversion α) : Prop :=
  ∀ progress value after, step.runFrom progress = (.ok value, after) →
    frame.Related progress.configuration after.configuration

namespace Frame.Keeps

variable {frame : Frame}

theorem pure (value : α) : frame.Keeps (Pure.pure value) := by
  rintro progress _ after run
  cases run
  exact frame.refl _

theorem throw (cause : ConversionError) :
    frame.Keeps (MonadExcept.throw cause : Conversion α) := by
  intro progress value after run
  simp at run

theorem configuration : frame.Keeps Conversion.configuration := by
  rintro progress _ after run
  cases run
  exact frame.refl _

theorem bind {step : Conversion α} {next : α → Conversion β} (first : frame.Keeps step)
    (rest : ∀ value, frame.Keeps (next value)) : frame.Keeps (step >>= next) := by
  intro progress value after run
  obtain ⟨middleValue, middle, firstRun, restRun⟩ := runFrom_bind_eq_ok_iff.mp run
  exact frame.trans (first _ _ _ firstRun) (rest middleValue _ _ _ restRun)

theorem store {change : Configuration → Attempt Configuration}
    (kept : ∀ before changed, change before = (changed, .ok ()) →
      frame.Related before changed) :
    frame.Keeps (Conversion.store change) := by
  rintro progress ⟨⟩ after run
  exact kept _ _ (configuration_of_runFrom_store run)

theorem update {change : Configuration → Configuration}
    (kept : ∀ before, frame.Related before (change before)) :
    frame.Keeps (Conversion.update change) := by
  intro progress value after run
  cases run
  exact kept _

theorem warn (warning : String) : frame.Keeps (Conversion.warn warning) := by
  rintro progress _ after run
  cases run
  exact frame.refl _

theorem warnAll (warnings : List String) : frame.Keeps (Conversion.warnAll warnings) := by
  rintro progress _ after run
  rw [runFrom_warnAll] at run
  cases run
  exact frame.refl _

theorem warnAllOnce (warnings : List String) : frame.Keeps (Conversion.warnAllOnce warnings) := by
  rintro progress _ after run
  rw [runFrom_warnAllOnce] at run
  cases run
  exact frame.refl _

theorem require (value : Except ConversionError α) :
    frame.Keeps (Conversion.require value) := by
  cases value with
  | error cause => exact throw cause
  | ok value => exact pure value

theorem forM {items : List α} {step : α → Conversion Unit}
    (each : ∀ item ∈ items, frame.Keeps (step item)) : frame.Keeps (items.forM step) := by
  induction items with
  | nil => exact pure ()
  | cons item items ih =>
      exact bind (each item List.mem_cons_self)
        fun _ => ih fun other member => each other (List.mem_cons_of_mem item member)

end Frame.Keeps
end Frames

section Succeeds

/-- From here the step succeeds, and its value and the configuration after it are as stated. -/
def Succeeds (step : Conversion α) (progress : Progress) (post : α → Configuration → Prop) : Prop :=
  ∃ value after, step.runFrom progress = (.ok value, after) ∧ post value after.configuration

/-- From here the step fails with the given cause. -/
def Fails (step : Conversion α) (progress : Progress) (cause : ConversionError) : Prop :=
  ∃ after, step.runFrom progress = (.error cause, after)

variable {step : Conversion α} {progress : Progress} {post : α → Configuration → Prop}

theorem Succeeds.imp {weaker : α → Configuration → Prop} (succeeds : Succeeds step progress post)
    (implies : ∀ value after, post value after → weaker value after) :
    Succeeds step progress weaker := by
  obtain ⟨value, after, run, holds⟩ := succeeds
  exact ⟨value, after, run, implies _ _ holds⟩

theorem Succeeds.bind {next : α → Conversion β} {final : β → Configuration → Prop}
    (first : Succeeds step progress post)
    (rest : ∀ value middle, post value middle.configuration →
      Succeeds (next value) middle final) :
    Succeeds (step >>= next) progress final := by
  obtain ⟨value, middle, run, holds⟩ := first
  rw [Succeeds, runFrom_bind_of_ok _ run]
  exact rest value middle holds

theorem Succeeds.bind_of_ok {next : α → Conversion β} {final : β → Configuration → Prop}
    {value : α} {middle : Progress} (first : step.runFrom progress = (.ok value, middle))
    (rest : Succeeds (next value) middle final) : Succeeds (step >>= next) progress final := by
  rw [Succeeds, runFrom_bind_of_ok _ first]
  exact rest

theorem Succeeds.store {change : Configuration → Attempt Configuration}
    {changed : Configuration} {post : Unit → Configuration → Prop}
    (accepted : change progress.configuration = (changed, .ok ())) (holds : post () changed) :
    Succeeds (Conversion.store change) progress post :=
  ⟨(), _, runFrom_store_of_ok accepted, holds⟩

theorem Succeeds.warnAll (warnings : List String) (progress : Progress) :
    Succeeds (Conversion.warnAll warnings) progress fun _ after =>
      after = progress.configuration :=
  ⟨(), _, runFrom_warnAll warnings progress, rfl⟩

theorem Succeeds.warnAllOnce (warnings : List String) (progress : Progress) :
    Succeeds (Conversion.warnAllOnce warnings) progress fun _ after =>
      after = progress.configuration :=
  ⟨(), _, runFrom_warnAllOnce warnings progress, rfl⟩

theorem Fails.of_bind {next : α → Conversion β} {cause : ConversionError}
    (first : Fails step progress cause) : Fails (step >>= next) progress cause := by
  obtain ⟨after, run⟩ := first
  exact ⟨after, runFrom_bind_of_error _ run⟩

theorem Succeeds.bind_fails {next : α → Conversion β} {cause : ConversionError}
    (first : Succeeds step progress post)
    (rest : ∀ value middle, post value middle.configuration → Fails (next value) middle cause) :
    Fails (step >>= next) progress cause := by
  obtain ⟨value, middle, run, holds⟩ := first
  rw [Fails, runFrom_bind_of_ok _ run]
  exact rest value middle holds

/-- A loop succeeds if each step succeeds on what the steps before it have made. -/
theorem Succeeds.forM {items : List α} {step : α → Conversion Unit}
    (made : List α → Configuration → Prop)
    (each : ∀ done item rest, items = done ++ item :: rest → ∀ before,
      made done before.configuration →
      Succeeds (step item) before fun _ after => made (done ++ [item]) after)
    (start : made [] progress.configuration) :
    Succeeds (items.forM step) progress fun _ after => made items after := by
  suffices general : ∀ done rest before, items = done ++ rest → made done before.configuration →
      Succeeds (rest.forM step) before fun _ after => made items after from
    general [] items progress rfl start
  intro done rest
  induction rest generalizing done with
  | nil =>
      rintro before rfl holds
      exact ⟨(), before, rfl, by simpa using holds⟩
  | cons item rest ih =>
      rintro before split holds
      apply Succeeds.bind (each done item rest split before holds)
      intro _ middle extended
      exact ih (done ++ [item]) middle (by simp [split]) extended

/-- What is known of a frame is known after a step that succeeds. -/
theorem Succeeds.and_related {frame : Frame} (succeeds : Succeeds step progress post)
    (keeps : frame.Keeps step) :
    Succeeds step progress fun value after =>
      post value after ∧ frame.Related progress.configuration after := by
  obtain ⟨value, after, run, holds⟩ := succeeds
  exact ⟨value, after, run, holds, keeps _ _ _ run⟩

end Succeeds

section Refusals

variable {refuses : List α → α → ι → Prop} {items : List α} {cause : ι}

/-- No item is refused after the ones before it. -/
def NoRefusal (refuses : List α → α → ι → Prop) (items : List α) : Prop :=
  ∀ done item rest, items = done ++ item :: rest → ∀ cause, ¬refuses done item cause

/-- Some item is refused after the ones before it, and none of those is. -/
def FirstRefusal (refuses : List α → α → ι → Prop) (items : List α) (cause : ι) : Prop :=
  ∃ done item rest, items = done ++ item :: rest ∧ refuses done item cause ∧
    NoRefusal refuses done

theorem FirstRefusal.append (first : FirstRefusal refuses items cause) (later : List α) :
    FirstRefusal refuses (items ++ later) cause := by
  obtain ⟨done, item, rest, rfl, refused, none_before⟩ := first
  exact ⟨done, item, rest ++ later, by simp, refused, none_before⟩

/-- Either some item is refused first, or none is. -/
theorem firstRefusal_or_noRefusal (refuses : List α → α → ι → Prop) (items : List α) :
    (∃ cause, FirstRefusal refuses items cause) ∨ NoRefusal refuses items := by
  induction items using List.reverseRecOn with
  | nil =>
      refine .inr fun done item rest split => ?_
      simp at split
  | append_singleton items last ih =>
      rcases ih with ⟨cause, first⟩ | none_before
      · exact .inl ⟨cause, first.append [last]⟩
      · by_cases refused : ∃ cause, refuses items last cause
        · obtain ⟨cause, refused⟩ := refused
          exact .inl ⟨cause, items, last, [], rfl, refused, none_before⟩
        · rw [not_exists] at refused
          refine .inr fun done item rest split => ?_
          rcases List.eq_nil_or_concat rest with rfl | ⟨rest, final, rfl⟩
          · obtain ⟨rfl, same⟩ := List.append_inj' split rfl
            cases same
            exact refused
          · rw [List.concat_eq_append, ← List.cons_append, ← List.append_assoc] at split
            obtain ⟨front, -⟩ := List.append_inj' split rfl
            exact none_before done item rest front

/-- If some item is refused at its place, some item is the first one. -/
theorem exists_firstRefusal_of_refuses {done rest : List α} {item : α}
    (split : items = done ++ item :: rest) (refused : refuses done item cause) :
    ∃ first, FirstRefusal refuses items first :=
  (firstRefusal_or_noRefusal refuses items).resolve_right fun none_refused =>
    none_refused done item rest split cause refused

/-- A loop succeeds if no item is refused. -/
theorem succeeds_forM_of_noRefusal {step : α → Conversion Unit} {progress : Progress}
    (made : List α → Configuration → Prop)
    (accepts : ∀ done item rest, items = done ++ item :: rest → ∀ before,
      made done before.configuration → (∀ cause, ¬refuses done item cause) →
      Succeeds (step item) before fun _ after => made (done ++ [item]) after)
    (none_refused : NoRefusal refuses items) (start : made [] progress.configuration) :
    Succeeds (items.forM step) progress fun _ after => made items after :=
  Succeeds.forM made (fun done item rest split before holds =>
    accepts done item rest split before holds (none_refused done item rest split)) start

/-- A loop fails at the first item that is refused. -/
theorem fails_forM_of_firstRefusal {refuses : List α → α → ConversionError → Prop}
    {cause : ConversionError} {step : α → Conversion Unit} {progress : Progress}
    (made : List α → Configuration → Prop)
    (accepts : ∀ done item rest, items = done ++ item :: rest → ∀ before,
      made done before.configuration → (∀ cause, ¬refuses done item cause) →
      Succeeds (step item) before fun _ after => made (done ++ [item]) after)
    (rejects : ∀ done item rest, items = done ++ item :: rest → ∀ before cause,
      made done before.configuration → refuses done item cause → Fails (step item) before cause)
    (first : FirstRefusal refuses items cause) (start : made [] progress.configuration) :
    Fails (items.forM step) progress cause := by
  obtain ⟨done, item, rest, split, refused, none_before⟩ := first
  have front := @succeeds_forM_of_noRefusal α ConversionError refuses done step progress made
    (fun early other later early_split before holds => accepts early other (later ++ item :: rest)
      (by rw [split, early_split, List.append_assoc, List.cons_append]) before holds)
    none_before start
  obtain ⟨_, middle, run, holds⟩ := front
  obtain ⟨after, failure⟩ := rejects done item rest split middle cause holds refused
  refine ⟨after, ?_⟩
  rw [List.forM_eq_forM] at run
  rw [split, List.forM_eq_forM, List.forM_append, runFrom_bind_of_ok _ run, List.forM_cons,
    runFrom_bind_of_error _ failure]

end Refusals

end Conversion
end NeutralRouting
