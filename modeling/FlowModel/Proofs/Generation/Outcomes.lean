import FlowModel.Proofs.Generation.Indifference

/-!
# How generators end

When the bodies that it reads are there, a generator is done with what its run is for and its
report tells of its changes, or it refuses the project because a prerequisite is missing or a page
is ambiguous. Only a validation microflow that does not fit on the canvas breaks it off later
(`generator_ends`). No lookup fails, and no generator gives its report a revision
(`generator_revision`).
-/

namespace FlowModel

namespace Workspace

/-- Every selected entity has its validation microflow. -/
def Validated (workspace : Workspace) (settings : ValidationSettings) : Prop :=
  ∃ targets, workspace.validationTargets settings = .ok targets ∧
    ∀ target ∈ targets, workspace.HasValidation settings target

/-- Every microflow of the selected modules is loaded, and no activity of it has a wrong color. -/
def Recolored (workspace : Workspace) (settings : RecolorSettings) : Prop :=
  ∃ selected, workspace.selectedMicroflows settings.modules = .ok selected ∧
    ∀ id ∈ selected, ∃ content, workspace.microflow id = .ok content ∧ content.miscolored = 0

end Workspace

/-- What runs are for: validation microflows, and right colors. -/
structure Repository.Fulfilled (kind : RunKind) (settings : Settings)
    (workspace : Workspace) : Prop where
  validated : kind = .validation → workspace.Validated settings.validation
  recolored : kind = .recolor → workspace.Recolored settings.recolor

namespace Generation

/-- How a generator of a kind stops: it refuses the project and changes nothing, or a validation
microflow does not fit on the canvas. -/
inductive Stops (settings : Settings) (before : Work) : RunKind → Failure → Work → Prop where
  | refused {kind : RunKind} {failure : Failure} (refuses : kind.Refuses failure) :
    Stops settings before kind failure before
  | overflow {after : Work} (grown : Grown before after)
    (overflows : after.workspace.Overflows settings.validation) :
    Stops settings before .validation .outOfRange after

variable {work : Work} {settings : Settings} {kind : RunKind}

/-- Where a generator stops, what it has made until then stays: nothing is rolled back, and nothing
that was there is lost. -/
theorem Stops.evolves {failure : Failure} {after : Work}
    (stops : Stops settings work kind failure after) (wellFormed : work.workspace.WellFormed) :
    work.workspace.Evolves after.workspace := by
  cases stops with
  | refused => exact (Workspace.Grows.refl wellFormed).evolves
  | overflow grown => exact grown.grows.evolves

/-- A generator changes what its report tells, and what its run is for holds in the end. -/
structure Finishes (settings : Settings) (kind : RunKind) (before after : Work) : Prop
    extends Reported before after where
  evolves : before.workspace.Evolves after.workspace
  fulfilled : Repository.Fulfilled kind settings after.workspace

/-- The four generators share this law although they have little in common. Those that create are
refused by their first questions only. Recoloring cannot be refused when its microflows are loaded,
and an audit not at all in a well-formed workspace. -/
theorem generator_ends (wellFormed : work.workspace.WellFormed)
    (readable : work.workspace.Readable settings kind) :
    Ends (Service.generator settings kind) work (fun _ after => Finishes settings kind work after)
      (Stops settings work kind) := by
  cases kind with
  | validation =>
    have targets := Workspace.settled_validationTargets wellFormed readable
    refine (generateValidation_ends wellFormed settings.validation).mono ?_ ?_
    · rintro _ after ⟨grown, validated⟩
      exact ⟨grown.toReported, grown.grows.evolves, fun _ => validated, nofun⟩
    · rintro failure after (refused | ⟨grown, overflows⟩)
      · exact .refused (targets.failsWithin failure refused)
      · exact .overflow grown overflows
  | pageLogging =>
    refine (generatePageLogging_ends wellFormed settings.pageLogging).mono ?_ ?_
    · rintro _ after grown
      exact ⟨grown.toReported, grown.grows.evolves, nofun, nofun⟩
    · rintro failure after (refused | refused | refused)
      · exact .refused ((Workspace.settled_loggingModule _).failsWithin failure refused)
      · exact .refused ((Workspace.settled_requireJavaAction _).failsWithin failure refused)
      · have targets := Workspace.settled_pageTargets wellFormed readable
        exact .refused (targets.failsWithin failure refused)
  | recolor =>
    have loaded := Workspace.exists_microflow_of_selected wellFormed readable
    refine (recolorMicroflows_ends settings.recolor loaded).mono ?_ ?_
    · rintro _ after ⟨repainted, selected, chosen, right⟩
      -- The selection was made before the repainting; it is the same afterwards.
      refine ⟨repainted.toReported, repainted.repaints.evolves wellFormed, nofun, fun _ => ?_⟩
      refine ⟨selected, ?_, right⟩
      rw [Workspace.selectedMicroflows_congr repainted.repaints.unloadAll_eq, chosen]
    · rintro failure after ⟨rfl, refused⟩
      have selected := Workspace.settled_selectedMicroflows wellFormed settings.recolor.modules
      exact .refused (selected.failsWithin failure refused)
  | namingAudit =>
    refine (auditNaming_ends settings.naming).mono ?_ ?_
    · rintro _ after ⟨unchanged, untold⟩
      refine ⟨⟨fun told => untold.trans told, fun _ => unchanged⟩, ?_, nofun, nofun⟩
      exact unchanged ▸ (Workspace.Grows.refl wellFormed).evolves
    · -- An audit could only fail at a document without a module.
      rintro failure after ⟨_, malformed⟩
      exact absurd wellFormed malformed

/-- No generator gives its report a revision. -/
theorem generator_revision (wellFormed : work.workspace.WellFormed)
    (readable : work.workspace.Readable settings kind) (fresh : work.report.revision = none)
    {after : Work} (ran : (Service.generator settings kind).run work = .ok () after) :
    after.report.revision = none := by
  have unnoticed : Indifferent .forgetting (Service.generator settings kind) work :=
    indifferent_generator wellFormed readable
  have same : Disguise.forgetting.apply work = work := by
    rw [Disguise.apply, Disguise.forgetting]
    simp only [← fresh]
  rw [Indifferent, same, ran] at unnoticed
  obtain ⟨_, unchanged⟩ := EStateM.Result.ok.inj unnoticed
  rw [unchanged]
  rfl

end Generation

end FlowModel
