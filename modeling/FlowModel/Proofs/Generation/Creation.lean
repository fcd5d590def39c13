import FlowModel.Proofs.Generation.Requests

/-!
# Generators that create microflows

On a well-formed workspace the generators of validation and of logging microflows only add folders
and microflows, and their reports tell of a change exactly when there is one. All that can go
wrong is found before the first change, except that a validation microflow may not fit on the
canvas. When a generator of validation microflows is done, every selected entity has its microflow
(`generateValidation_ends`, `generatePageLogging_ends`).
-/

namespace FlowModel

/-- The validation microflow of an entity is there. It lies in the module of the entity, unless
the name of that module has a dot and another module is taken for it. -/
def Workspace.HasValidation (workspace : Workspace) (settings : ValidationSettings)
    (target : ValidationTarget) : Prop :=
  workspace.HasMicroflow
      (QualifiedName.qualified target.moduleName (settings.microflowName target.entity.name)) ∧
    ('.' ∉ target.moduleName.toList →
      workspace.HoldsMicroflow target.owner (settings.microflowName target.entity.name))

/-- An entity that has its validation microflow keeps it. -/
theorem Workspace.Keeps.hasValidation {before after : Workspace} (keeps : before.Keeps after)
    {settings : ValidationSettings} {target : ValidationTarget}
    (has : before.HasValidation settings target) : after.HasValidation settings target :=
  ⟨keeps.hasMicroflow has.1, fun undotted => keeps.holdsMicroflow (has.2 undotted)⟩

namespace Generation

variable {work : Work}

/-! ## Validation microflows -/

/-- What is drawn for an entity breaks no rule and has the name that the settings give it. -/
theorem sound_of_validationMicroflow? {entity : Entity} {moduleName : String}
    {settings : ValidationSettings} {content : Microflow} {leftOut : List UncheckedAttribute}
    (drawn : validationMicroflow? entity moduleName settings = some (content, leftOut)) :
    content.violations = [] ∧ content.name = settings.microflowName entity.name := by
  obtain ⟨_, rfl, _⟩ := validationMicroflow?_eq_some.mp drawn
  exact ⟨violations_validationPlan entity moduleName settings, rfl⟩

/-- Afterwards some microflow has the name of a request, and it lies in the module of the request,
unless the name of that module has a dot. -/
theorem Fulfils.hasMicroflow {request : Request} {before after : Work}
    (fulfils : Fulfils request before after) (rooted : before.workspace.Rooted)
    (named : before.workspace.moduleNamed? request.moduleName = some request.owner) :
    after.workspace.HasMicroflow request.name ∧
      ('.' ∉ request.moduleName.toList →
        after.workspace.HoldsMicroflow request.owner request.content.name) := by
  cases fulfils with
  | taken found =>
    exact ⟨Workspace.hasMicroflow_of_find? found,
      fun undotted => Workspace.holdsMicroflow_of_find? undotted named found⟩
  | @created folder between name free opened known =>
    have located := opened.moduleOf_pushDocument rooted named
    have qualified := opened.qualifiedName_pushDocument rooted named
    exact ⟨⟨_, _, Workspace.stored_pushDocument .., rfl, qualified⟩,
      fun _ => ⟨_, _, Workspace.stored_pushDocument .., rfl, rfl, located⟩⟩

/-- The microflow of an entity is found or created, if it fits on the canvas. -/
theorem validateEntity_ends (wellFormed : work.workspace.WellFormed) (settings : ValidationSettings)
    {target : ValidationTarget}
    (named : work.workspace.moduleNamed? target.moduleName = some target.owner) :
    Ends (validateEntity settings target) work
      (fun _ after => Grown work after ∧ after.workspace.HasValidation settings target)
      (fun failure after => failure = .outOfRange ∧ Grown work after ∧
        validationMicroflow? target.entity target.moduleName settings = none) := by
  have inside := Workspace.lt_of_moduleOf (Workspace.moduleOf_of_moduleNamed? named)
  refine (validateEntity_fulfils wellFormed.toRooted settings named).mono ?_ ?_
  · intro _ after fulfils
    exact ⟨fulfils.grown wellFormed inside, fulfils.hasMicroflow wellFormed.toRooted named⟩
  · rintro failure after ⟨overflow, rfl, undrawn⟩
    exact ⟨overflow, .refl wellFormed, undrawn⟩

/-- How the generator of validation microflows breaks off: its targets are not known and nothing
has changed, or the drawing of one of them does not fit. -/
inductive StopsValidation (settings : ValidationSettings) (before : Work) :
    Failure → Work → Prop where
  | unknown {failure : Failure}
    (refused : before.workspace.validationTargets settings = .error failure) :
    StopsValidation settings before failure before
  | overflow {after : Work} (grown : Grown before after)
    (overflows : after.workspace.Overflows settings) :
    StopsValidation settings before .outOfRange after

/-- Either all entities that are selected have their microflows in the end, or the targets are not
known, or a drawing did not fit on the canvas. -/
theorem generateValidation_ends (wellFormed : work.workspace.WellFormed)
    (settings : ValidationSettings) :
    Ends (generateValidation settings) work
      (fun _ after => Grown work after ∧
        ∃ targets, after.workspace.validationTargets settings = .ok targets ∧
          ∀ target ∈ targets, after.workspace.HasValidation settings target)
      (StopsValidation settings work) := by
  refine asking (fun _ refused => .unknown refused) fun targets selected => ?_
  -- The invariant of the loop is that the work has grown since its start.
  have steps : ∀ target ∈ targets, ∀ between, Grown work between →
      Ends (validateEntity settings target) between
        (fun _ after => Grown work after ∧ after.workspace.HasValidation settings target ∧
          ∀ other, between.workspace.HasValidation settings other →
            after.workspace.HasValidation settings other)
        (StopsValidation settings work) := by
    intro target member between grown
    have named := Workspace.moduleNamed?_of_mem_validationTargets selected member
    refine (validateEntity_ends grown.wellFormed settings (grown.keeps.moduleNamed? named)).mono
      ?_ ?_
    · rintro _ after ⟨later, hasIt⟩
      exact ⟨grown.trans later, hasIt, fun _ had => later.keeps.hasValidation had⟩
    · rintro failure after ⟨rfl, later, undrawn⟩
      have all := grown.trans later
      exact .overflow all
        ⟨targets, all.grows.isExtension.within.validationTargets selected, target, member, undrawn⟩
  refine (Ends.each steps (Grown.refl wellFormed)).onDone ?_
  rintro _ after ⟨grown, reached, _⟩
  exact ⟨grown, targets, grown.grows.isExtension.within.validationTargets selected, reached⟩

/-! ## Logging microflows -/

/-- Why logging microflows cannot be generated: the logging module, a Java action or the targets
are not known. -/
inductive StopsLogging (settings : PageLoggingSettings) (before : Work) :
    Failure → Work → Prop where
  | loggingModule {failure : Failure}
    (refused : before.workspace.loggingModule settings = .error failure) :
    StopsLogging settings before failure before
  | javaAction {action : String} {failure : Failure}
    (refused : before.workspace.requireJavaAction action = .error failure) :
    StopsLogging settings before failure before
  | targets {failure : Failure} (refused : before.workspace.pageTargets = .error failure) :
    StopsLogging settings before failure before

/-- When anything is amiss, nothing is changed. -/
theorem generatePageLogging_ends (wellFormed : work.workspace.WellFormed)
    (settings : PageLoggingSettings) :
    Ends (generatePageLogging settings) work (fun _ after => Grown work after)
      (StopsLogging settings work) := by
  refine asking (fun _ refused => .loggingModule refused) fun logging named => ?_
  refine asking (fun _ refused => .javaAction refused) fun _ _ => ?_
  refine asking (fun _ refused => .javaAction refused) fun _ _ => ?_
  refine asking (fun _ refused => .targets refused) fun targets _ => ?_
  have located := Workspace.moduleOf_of_moduleNamed? (Workspace.loggingModule_eq_ok.mp named)
  have steps : ∀ target ∈ targets, ∀ between, Grown work between →
      Ends (logPage settings logging target) between (fun _ after => Grown work after) Never := by
    intro target _ between grown
    have inside := Workspace.lt_of_moduleOf (grown.keeps.moduleOf located)
    exact (logPage_fulfils grown.wellFormed.toRooted settings inside target).onDone
      fun _ after fulfils => grown.trans (fulfils.grown grown.wellFormed inside)
  exact (Ends.eachKeeps steps (Grown.refl wellFormed)).weaken

end Generation

end FlowModel
