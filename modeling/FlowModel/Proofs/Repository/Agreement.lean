import FlowModel.Proofs.Generation.Listing
import FlowModel.Proofs.Repository.Failures
import FlowModel.Proofs.Workspace.Writing

/-!
# Two ways to run a generator

A service runs a generator on a workspace in which every body is there. A repository starts without
bodies, loads some of them and publishes what it has checked out over what was published. Both ways
agree: what is not loaded is not noticed by the generator, and a commit fills it in again
(`service_and_repository_agree`).
-/

namespace FlowModel

open Workspace Generation

variable {kind : RunKind} {settings : Settings} {workspace : Workspace} {work : Work}

namespace Service

/-! ## Microflows of a finished run -/

/-- In a workspace with all bodies every microflow that a run is about can be read. -/
theorem exists_touchedMicroflows (kind : RunKind) (settings : Settings) (work : Work)
    (wellFormed : work.workspace.WellFormed) (loaded : work.workspace.AllLoaded) :
    ∃ microflows, touchedMicroflows kind settings work = .ok microflows := by
  have readable : ∀ id ∈ work.workspace.documentsOfKind .microflow,
      ∃ content, work.workspace.microflow id = .ok content := fun id ofKind =>
    wellFormed.exists_microflow ofKind (loaded.isLoaded (lt_of_mem_documentsOfKind ofKind))
  have created : ∃ microflows, createdMicroflows work.workspace work.report.createdMicroflows =
      .ok microflows := by
    refine exists_mapM fun id member => ?_
    obtain ⟨name, _, found⟩ := List.mem_filterMap.mp member
    obtain ⟨_, _, document, _, _, stored, kind_eq, _⟩ := find?_eq_some found
    exact readable id (mem_documentsOfKind.mpr ⟨document, stored, kind_eq⟩)
  cases kind with
  | recolor =>
    refine exists_bind (wellFormed.exists_selectedMicroflows _) fun _ chosen => ?_
    exact exists_mapM fun id member => readable id ((mem_inModules chosen).mp member).1
  | validation | pageLogging | namingAudit => exact created

/-- A service whose generator fails answers with that failure and returns no project. -/
theorem runOn_of_error {failure : Failure}
    (ran : (generator settings kind).run ⟨workspace, .empty kind⟩ = .error failure work) :
    runOn kind settings workspace = .error failure := by
  rw [runOn, ran]
  rfl

/-- A service answers if its generator is done and what it has touched can be read. -/
theorem runOn_eq_ok {microflows : List Microflow} :
    runOn kind settings workspace = .ok (work, microflows) ↔
      (generator settings kind).run ⟨workspace, .empty kind⟩ = .ok () work ∧
        touchedMicroflows kind settings work = .ok microflows := by
  rw [runOn]
  cases ran : (generator settings kind).run ⟨workspace, .empty kind⟩ with
  | error failure after => simp [throw, throwThe, MonadExceptOf.throw]
  | ok value after =>
    constructor
    · intro done
      obtain ⟨found, touched, paired⟩ := bind_eq_ok.mp done
      obtain ⟨rfl, rfl⟩ := Prod.mk.inj (Except.ok.inj paired)
      exact ⟨rfl, touched⟩
    · rintro ⟨same, touched⟩
      obtain ⟨_, rfl⟩ := EStateM.Result.ok.inj same
      exact bind_eq_ok.mpr ⟨microflows, touched, rfl⟩

end Service

/-! ## Agreement -/

/-- What the two ways give: the same failure, or reports that differ in the revision only and
workspaces that are written back as one project. -/
inductive Agree : Except Failure (Work × List Microflow) →
    EStateM.Result Failure Repository Report → Prop where
  | failed (failure : Failure) (after : Repository) : Agree (.error failure) (.error failure after)
  | done {work : Work} {microflows : List Microflow} {report : Report} {after : Repository}
    (reports : { report with revision := none } = work.report)
    (published : after.published = work.workspace)
    (written : ∃ project, after.published.toProject = .ok project ∧
      work.workspace.toProject = .ok project) :
    Agree (.ok (work, microflows)) (.ok report after)

/-- The documents that were created after there were so many are those with some names, and they
have some microflows as their bodies, one for each name and in the same order. -/
structure Workspace.CreatedSince (workspace : Workspace) (first : Nat) (names : List String)
    (microflows : List Microflow) : Prop where
  named : (List.range' first (workspace.documents.length - first)).mapM workspace.qualifiedName =
    .ok names
  read : (List.range' first (workspace.documents.length - first)).mapM workspace.microflow =
    .ok microflows

namespace Repository

variable {project : Project}

/-- A checkout of a project with all its bodies filled in is the project. -/
theorem completedFrom_ofProject (project : Project) :
    (ofProject project).checkedOut.completedFrom (ofProject project).published =
      .ofProject project :=
  completedFrom_unloadAll _

/-- When a run is done, its generator has done the same on the project, and what it has made of
the project is published. -/
theorem Passes.on_project {report : Report} {after : Repository}
    (passes : (ofProject project).Passes settings kind report after)
    (allPublished : after.AllPublished) :
    (Service.generator settings kind).run ⟨.ofProject project, .empty kind⟩ =
      .ok () ⟨after.published, { report with revision := none }⟩ := by
  have sound := sound_ofProject project
  have generated := passes.on_completed sound
  rwa [completedFrom_ofProject, allPublished.completedFrom_eq (passes.sound sound)] at generated

/-- When the generator of a run stops, it stops with the same failure on the project. -/
theorem Breaks.on_project {failure : Failure} {after : Repository}
    (breaks : (ofProject project).Breaks settings kind failure after) :
    ∃ work, (Service.generator settings kind).run ⟨.ofProject project, .empty kind⟩ =
      .error failure work := by
  have stopped := breaks.on_completed (sound_ofProject project) rfl rfl
  rwa [completedFrom_ofProject] at stopped

/-- No module of a project is found under a name with a dot when no name of a module has one. -/
theorem undotted_moduleNamed? (undotted : ∀ module ∈ project.modules, '.' ∉ module.name.toList)
    {name : String} {owner : ContainerId}
    (named : (Workspace.ofProject project).moduleNamed? name = some owner) :
    '.' ∉ name.toList := by
  obtain ⟨found, stored, isModule, rfl⟩ := moduleNamed?_eq_some named
  have isNamed := ModulesNamed.ofProject project found (List.mem_of_getElem? stored) isModule
  obtain ⟨module, member, sameName⟩ := List.mem_map.mp isNamed
  exact sameName ▸ undotted module member

/-- For every project a service and a repository without injected failures agree on every run. If
no name of a module has a dot, the service lists the microflows that a run has created. -/
theorem service_and_repository_agree (project : Project) (kind : RunKind) (settings : Settings) :
    Agree (Service.runOn kind settings (.ofProject project))
        ((run kind settings).run (ofProject project)) ∧
      ((∀ module ∈ project.modules, '.' ∉ module.name.toList) →
        kind = .validation ∨ kind = .pageLogging → ∀ work microflows,
          Service.runOn kind settings (.ofProject project) = .ok (work, microflows) →
            work.workspace.CreatedSince (Workspace.ofProject project).documents.length
              work.report.createdMicroflows microflows) := by
  have sound := sound_ofProject project
  constructor
  -- Both ways come down to one run of the generator on the project with all its bodies.
  · have phases := run_phases sound kind settings
    cases ran : (run kind settings).run (ofProject project) with
    | error failure after =>
      obtain ⟨work, stopped⟩ := (phases.of_error ran).on_project
      rw [Service.runOn_of_error stopped]
      exact .failed failure after
    | ok report after =>
      have passes := phases.of_ok ran
      have soundAfter := passes.sound sound
      have allPublished := ((run_ends sound kind settings).of_ok ran).allPublished
        (Or.inr (unloadAll_within _))
      have generated := passes.on_project allPublished
      obtain ⟨microflows, touched⟩ := Service.exists_touchedMicroflows kind settings
        ⟨after.published, _⟩ soundAfter.published soundAfter.allLoaded
      obtain ⟨written, writes⟩ := soundAfter.published.exists_toProject soundAfter.allLoaded
      rw [Service.runOn_eq_ok.mpr ⟨generated, touched⟩]
      exact .done rfl rfl ⟨written, writes, writes⟩
  · intro undotted creates work microflows done
    obtain ⟨ran, touched⟩ := Service.runOn_eq_ok.mp done
    have listed : Listed (Workspace.ofProject project).documents.length work :=
      (generator_lists sound.published (fun _ _ => undotted_moduleNamed? undotted) creates
        (.fresh _ kind)).of_ok ran
    refine ⟨listed.mapM_qualifiedName, ?_⟩
    -- The names in the report lead back to the documents that were appended.
    rw [← listed.filterMap_find?]
    rcases creates with rfl | rfl <;> exact touched

/-- Both ways create the one microflow that an order lacks. -/
theorem service_and_repository_agree_shop :
    Agree (Service.runOn .validation shopSettings (.ofProject shop))
        ((run .validation shopSettings).run (ofProject shop)) ∧
      ∃ work microflows,
        Service.runOn .validation shopSettings (.ofProject shop) = .ok (work, microflows) ∧
          microflows.length = 1 ∧
            work.workspace.CreatedSince 2 work.report.createdMicroflows microflows := by
  obtain ⟨agree, lists⟩ := service_and_repository_agree shop .validation shopSettings
  have creates : (Service.runOn .validation shopSettings (.ofProject shop)).toOption.map
      (fun result => result.2.length) = some 1 := by cbv
  cases done : Service.runOn .validation shopSettings (.ofProject shop) with
  | error failure =>
    rw [done] at creates
    cases creates
  | ok result =>
    rw [done] at creates
    exact ⟨done ▸ agree, result.1, result.2, rfl, Option.some.inj creates,
      lists (by decide) (Or.inl rfl) result.1 result.2 done⟩

end Repository

end FlowModel
