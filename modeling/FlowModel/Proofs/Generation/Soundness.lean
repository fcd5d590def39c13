import FlowModel.Proofs.Drawing.PageLoggingPlan
import FlowModel.Proofs.Drawing.ValidationRuns
import FlowModel.Proofs.Workspace.Lookups

/-!
# Generators insert sound microflows

A generator fails because something it looks up is missing, or because a drawing exhausts
ids or canvas. What it draws keeps the structural rules, so it never fails because of an
invalid graph.
-/

namespace FlowModel

/-- Failures of a generator: a precondition does not hold, or a drawing exhausts ids or canvas. -/
inductive Failure.IsGeneration : Failure → Prop where
  | precondition {failure : Failure} (isPrecondition : failure.IsPrecondition) :
    IsGeneration failure
  | outOfRange : IsGeneration .outOfRange

namespace Generation

/-- All failures of a step are allowed, whatever it works on. -/
def StepFailsWithin (allowed : Failure → Prop) {α : Type} (step : Generation α) : Prop :=
  ∀ work failure after, step.run work = .error failure after → allowed failure

namespace StepFailsWithin

variable {allowed wider : Failure → Prop} {α β : Type} {step : Generation α}

/-- An answer does not fail. -/
theorem done (value : α) : StepFailsWithin allowed (pure value : Generation α) := by
  intro work failure after failed
  exact nomatch failed

/-- A failure has to be one of those that are allowed. -/
theorem fail {failure : Failure} (isAllowed : allowed failure) :
    StepFailsWithin allowed (throw failure : Generation α) := by
  intro work found after failed
  obtain ⟨rfl, _⟩ := EStateM.Result.error.inj failed
  exact isAllowed

/-- Two steps fail with what one of them fails with, wherever the second starts. -/
theorem andThen {next : α → Generation β} (first : StepFailsWithin allowed step)
    (second : ∀ value, StepFailsWithin allowed (next value)) :
    StepFailsWithin allowed (step >>= next) := by
  intro work failure after failed
  rw [EStateM.run_bind] at failed
  cases ran : step.run work with
  | error found between =>
    rw [ran] at failed
    obtain ⟨rfl, _⟩ := EStateM.Result.error.inj failed
    exact first work found between ran
  | ok value between =>
    rw [ran] at failed
    exact second value between failure after failed

/-- What fails within some reasons fails within more of them. -/
theorem mono (within : StepFailsWithin allowed step)
    (widens : ∀ failure, allowed failure → wider failure) :
    StepFailsWithin wider step :=
  fun work failure after failed => widens failure (within work failure after failed)

/-- Looking at the work does not fail. -/
theorem look : StepFailsWithin allowed (get : Generation Work) := by
  intro work failure after failed
  exact nomatch failed

/-- The workspace can always be replaced. -/
theorem replace (workspace : Workspace) : StepFailsWithin allowed (setWorkspace workspace) := by
  intro work failure after failed
  exact nomatch failed

/-- A note can always be made. -/
theorem report (change : Report → Report) : StepFailsWithin allowed (note change) := by
  intro work failure after failed
  exact nomatch failed

/-- A question to the workspace fails as its answer does. -/
theorem question {ask? : Workspace → Except Failure α}
    (within : ∀ workspace, AnswerFailsWithin allowed (ask? workspace)) :
    StepFailsWithin allowed (ask ask?) := by
  rw [ask]
  refine andThen look fun work => ?_
  cases answer : ask? work.workspace with
  | ok value => exact done value
  | error failure => exact fail (within work.workspace failure answer)

/-- Steps for the members of a list fail as one of them. -/
theorem each {visit : α → Generation PUnit} (members : List α)
    (one : ∀ member, StepFailsWithin allowed (visit member)) :
    StepFailsWithin allowed (members.forM visit) := by
  induction members with
  | nil => exact done PUnit.unit
  | cons member later inductionHypothesis => exact andThen (one member) fun _ => inductionHypothesis

end StepFailsWithin

open StepFailsWithin

/-! ## Steps of generators -/

/-- The guard does not fail: that a name is taken is noted, not thrown. -/
theorem isAbsent_failsWithin (allowed : Failure → Prop) (kind : DocumentKind) (qualified : String) :
    StepFailsWithin allowed (isAbsent kind qualified) := by
  rw [isAbsent]
  refine andThen look fun work => ?_
  cases work.workspace.find? kind qualified with
  | none => exact done true
  | some _ => exact andThen (report _) fun _ => done false

/-- A folder can only be missing its parent or a path. -/
theorem ensureFolder_failsWithin (parent : ContainerId) (name : String) :
    StepFailsWithin Failure.IsLookup (ensureFolder parent name) := by
  apply andThen (question fun workspace => workspace.ensureFolder_failsWithin parent name)
  rintro ⟨id, created, workspace⟩
  refine andThen (replace workspace) fun _ => ?_
  cases created with
  | false => exact done id
  | true =>
    refine andThen (question fun workspace => workspace.path_failsWithin id) fun path => ?_
    exact andThen (report _) fun _ => done id

/-- Inserting a microflow without violations fails only in lookups. -/
theorem insertMicroflow_failsWithin {content : Microflow} (sound : content.violations = [])
    (holder : ContainerId) : StepFailsWithin Failure.IsLookup (insertMicroflow holder content) := by
  rw [insertMicroflow, sound]
  apply andThen (question fun workspace => workspace.createDocument_failsWithin holder _)
  rintro ⟨id, workspace⟩
  refine andThen (replace workspace) fun _ => ?_
  refine andThen (question fun workspace => workspace.qualifiedName_failsWithin id) fun name => ?_
  exact andThen (report _) fun _ => done id

/-- The folder for a page fails like the folders that it is made of. -/
theorem pageFolder_failsWithin (logging : ContainerId) (moduleName : String)
    (settings : PageLoggingSettings) :
    StepFailsWithin Failure.IsLookup (pageFolder logging moduleName settings) := by
  rw [pageFolder]
  refine andThen look fun work => ?_
  cases work.workspace.findFolder? logging moduleName with
  | some folder => exact done folder
  | none =>
    refine andThen (ensureFolder_failsWithin logging settings.folderName) fun base => ?_
    exact ensureFolder_failsWithin base moduleName

/-! ## Generators -/

/-- An entity can make the generator fail by its size, when its drawing leaves the canvas. Its
microflow is never refused as an invalid graph. -/
theorem validateEntity_failsWithin (settings : ValidationSettings) (target : ValidationTarget) :
    StepFailsWithin Failure.IsGeneration (validateEntity settings target) := by
  have lookup : ∀ failure : Failure, failure.IsLookup → failure.IsGeneration :=
    fun _ isLookup => .precondition (.lookup isLookup)
  refine andThen (isAbsent_failsWithin _ _ _) fun absent => ?_
  cases absent with
  | false => exact done ()
  | true =>
    rw [if_pos rfl]
    cases drawn : validationMicroflow? target.entity target.moduleName settings with
    | none => exact fail .outOfRange
    | some result =>
      obtain ⟨content, leftOut⟩ := result
      obtain ⟨_, rfl, rfl⟩ := validationMicroflow?_eq_some.mp drawn
      refine andThen (report _) fun _ => ?_
      refine andThen ((ensureFolder_failsWithin _ _).mono lookup) fun folder => ?_
      have sound := violations_validationPlan target.entity target.moduleName settings
      exact andThen ((insertMicroflow_failsWithin sound folder).mono lookup) fun _ => done ()

/-- The generator of validation microflows fails as its lookups and its drawings do. -/
theorem generateValidation_failsWithin (settings : ValidationSettings) :
    StepFailsWithin Failure.IsGeneration (generateValidation settings) := by
  apply andThen
  · exact (question fun workspace => workspace.validationTargets_failsWithin settings).mono fun _ =>
      .precondition
  · intro targets
    exact each targets (validateEntity_failsWithin settings)

/-- Logging microflows always fit on the canvas, so only lookups fail. -/
theorem logPage_failsWithin (settings : PageLoggingSettings) (logging : ContainerId)
    (target : PageTarget) :
    StepFailsWithin Failure.IsLookup (logPage settings logging target) := by
  refine andThen (isAbsent_failsWithin _ _ _) fun absent => ?_
  cases absent with
  | false => exact done ()
  | true =>
    refine andThen (pageFolder_failsWithin logging target.moduleName settings) fun folder => ?_
    simp only [pageLoggingMicroflow?_eq]
    have sound : (pageLoggingPlan target.page target.parameter settings).violations = [] :=
      violations_pageLoggingPlan _ _ _
    exact andThen (insertMicroflow_failsWithin sound folder) fun _ => done ()

/-- The generator of logging microflows draws within bounds, so it fails as its lookups do. It may
also refuse an ambiguous page. -/
theorem generatePageLogging_failsWithin (settings : PageLoggingSettings) :
    StepFailsWithin Failure.IsPrecondition (generatePageLogging settings) := by
  refine andThen (question fun workspace => workspace.loggingModule_failsWithin settings)
    fun logging => ?_
  refine andThen
    (question fun workspace => workspace.requireJavaAction_failsWithin settings.addressAction)
      fun _ => ?_
  refine andThen
    (question fun workspace => workspace.requireJavaAction_failsWithin settings.browserAction)
      fun _ => ?_
  refine andThen (question Workspace.pageTargets_failsWithin) fun targets => ?_
  refine each targets fun target => ?_
  exact (logPage_failsWithin settings logging target).mono fun _ => .lookup

/-! ## Sound microflows -/

/-- An invalid graph is not among the reasons why a generator fails. -/
theorem not_isGeneration_invalidGraph (name : String) (violations : List Violation) :
    ¬ Failure.IsGeneration (.invalidGraph name violations) := by
  intro isGeneration
  cases isGeneration with
  | precondition isPrecondition =>
    cases isPrecondition with
    | lookup isLookup => exact nomatch isLookup

/-- Every validation microflow that fits on the canvas and every logging microflow break no
rule, whatever the names, attributes and settings are. So no run of the two generators fails
because of an invalid graph. -/
theorem generated_microflows_sound :
    (∀ entity moduleName settings microflow leftOut,
      validationMicroflow? entity moduleName settings = some (microflow, leftOut) →
        microflow.violations = []) ∧
    (∀ page entity? settings, ∃ microflow,
      pageLoggingMicroflow? page entity? settings = some microflow ∧ microflow.violations = []) ∧
    (∀ settings work name violations after,
      (generateValidation settings).run work ≠ .error (.invalidGraph name violations) after) ∧
    (∀ settings work name violations after,
      (generatePageLogging settings).run work ≠ .error (.invalidGraph name violations) after) := by
  refine ⟨?_, ?_, ?_, ?_⟩
  · intro entity moduleName settings microflow leftOut drawn
    obtain ⟨_, rfl, _⟩ := validationMicroflow?_eq_some.mp drawn
    exact violations_validationPlan entity moduleName settings
  · intro page entity? settings
    exact ⟨_, pageLoggingMicroflow?_eq page entity? settings,
      violations_pageLoggingPlan page entity? settings⟩
  · intro settings work name violations after failed
    have known := generateValidation_failsWithin settings work _ after failed
    exact not_isGeneration_invalidGraph name violations known
  · intro settings work name violations after failed
    have known := generatePageLogging_failsWithin settings work _ after failed
    exact not_isGeneration_invalidGraph name violations (.precondition known)

/-- The microflow drawn for an order breaks no rule. -/
theorem generated_microflows_sound_order :
    validationMicroflow? .order "Shop" .standard =
        some (validationPlan .order "Shop" .standard, [⟨"Number", "AutoNumber"⟩]) ∧
      (validationPlan .order "Shop" .standard).violations = [] := by
  have sound := generated_microflows_sound.1 .order "Shop" .standard _ _ validationMicroflow?_order
  exact ⟨validationMicroflow?_order, sound⟩

end Generation

end FlowModel
