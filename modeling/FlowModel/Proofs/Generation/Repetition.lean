import FlowModel.Proofs.Generation.Edits
import FlowModel.Proofs.Workspace.Bearers
import FlowModel.Proofs.Workspace.Readings

/-!
# Generators that are called again

When a generator of microflows is done, the names of all its requests are taken, if the modules in
which it creates them have names without dots. It has created no page, no domain model and no Java
action, so it asks for the same when it is called again. Then it finds all names taken, notes one
collision for each request, and changes nothing (`generator_again`).
-/

namespace FlowModel

/-- The modules in which a run creates microflows have names without dots. -/
def Settings.UndottedFor (settings : Settings) : RunKind → Prop
  | .validation => ∀ selection ∈ settings.validation.modules, '.' ∉ selection.name.toList
  | .pageLogging => '.' ∉ settings.pageLogging.loggingModule.toList
  | .recolor | .namingAudit => True

namespace Generation

open Workspace

variable {before after : Work} {workspace : Workspace} {settings : Settings} {kind : RunKind}
  {request : Request} {requests : List Request}

/-! ## Names that are taken afterwards -/

/-- A request has been fulfilled when its name is taken. -/
def Request.IsTaken (request : Request) (workspace : Workspace) : Prop :=
  ∃ id, workspace.find? .microflow request.name = some id

/-- A created microflow is found by the name that was looked up in vain. -/
theorem Fulfils.isTaken (fulfils : Fulfils request before after) (rooted : before.workspace.Rooted)
    (named : before.workspace.moduleNamed? request.moduleName = some request.owner)
    (undotted : '.' ∉ request.moduleName.toList) : request.IsTaken after.workspace := by
  have namedThen := fulfils.keeps.moduleNamed? named
  cases fulfils with
  | taken found => exact ⟨_, found⟩
  | created free opened known =>
    obtain ⟨owner, storedOwner, _, sameName⟩ := moduleNamed?_eq_some namedThen
    have located := opened.moduleOf_pushDocument rooted named
    have qualified := opened.qualifiedName_pushDocument rooted named
    refine exists_find?_of_bears ⟨⟨_, stored_pushDocument .., rfl⟩, qualified⟩ ?_
    exact ⟨_, request.owner, owner, stored_pushDocument .., located, storedOwner,
      sameName.symm ▸ undotted, sameName.symm ▸ namedThen⟩

/-- After requests in modules with names without dots have been served, their names are taken. -/
theorem Served.isTaken (served : Served requests before after) (rooted : before.workspace.Rooted)
    (undotted : ∀ request ∈ requests, '.' ∉ request.moduleName.toList) :
    ∀ request ∈ requests, request.IsTaken after.workspace := by
  have steps : ∀ request ∈ requests, ∀ earlier later, Fulfils request earlier later →
      before.workspace.Extends earlier.workspace ∧ earlier.workspace.Rooted →
        (before.workspace.Extends later.workspace ∧ later.workspace.Rooted) ∧
          request.IsTaken later.workspace ∧
            ∀ other : Request, other.IsTaken earlier.workspace →
              other.IsTaken later.workspace := by
    rintro request member earlier later fulfils ⟨extended, rootedThen⟩
    have named := extended.within.keeps.moduleNamed? (served.placed request member)
    have inside := lt_of_moduleOf (moduleOf_of_moduleNamed? named)
    refine ⟨⟨extended.trans fulfils.isExtension, fulfils.rooted rootedThen inside⟩,
      fulfils.isTaken rootedThen named (undotted request member), ?_⟩
    rintro other ⟨id, found⟩
    exact ⟨id, fulfils.keeps.find? rootedThen found⟩
  exact (served.chain.reaches steps ⟨.refl before.workspace, rooted⟩).2.1

/-! ## The same requests -/

/-- Only microflows are created. -/
theorem Served.documentsOfKind (served : Served requests before after)
    (rooted : before.workspace.Rooted) {kind : DocumentKind} (others : kind ≠ .microflow) :
    after.workspace.documentsOfKind kind = before.workspace.documentsOfKind kind := by
  have kept : ∀ request ∈ requests, ∀ earlier later : Work,
      earlier.workspace.moduleNamed? request.moduleName = some request.owner →
        earlier.workspace.Rooted → Fulfils request earlier later →
          earlier.workspace.documentsOfKind kind = before.workspace.documentsOfKind kind →
            later.workspace.documentsOfKind kind = before.workspace.documentsOfKind kind := by
    rintro request _ earlier later _ _ fulfils same
    rw [← same]
    cases fulfils with
    | taken => rfl
    | created _ opened =>
      rw [Workspace.documentsOfKind, pushDocument, opened.documents]
      refine placesWhere_append fun found member => ?_
      obtain rfl := List.mem_singleton.mp member
      exact beq_eq_false_iff_ne.mpr others.symm
  exact (served.keeps rooted kept rfl).2.2

/-- A generator that is called again asks for the same. -/
theorem Served.asks (served : Served requests before after) (rooted : before.workspace.Rooted)
    (asks : Asks settings before.workspace kind requests) :
    Asks settings after.workspace kind requests := by
  have within := (served.extends_rooted rooted).1.within
  cases asks with
  | validation selected => exact .validation (within.validationTargets selected)
  | pageLogging named address browser found =>
    have pages : _ = before.workspace.documentsOfKind .page := served.documentsOfKind rooted nofun
    exact .pageLogging (within.keeps.moduleNamed? named)
      (within.keeps.requireJavaAction rooted address)
      (within.keeps.requireJavaAction rooted browser) (within.pageTargets pages found)

/-! ## Taken names -/

/-- What is noted of a request whose name is taken. -/
def Request.collision (request : Request) : Skip := ⟨request.name, .nameCollision⟩

/-- A loop over requests whose names are taken notes them and changes nothing. -/
theorem run_forM_of_taken {α : Type} {visit : α → Generation PUnit} {request : α → Request}
    {members : List α}
    (noted : ∀ member ∈ members, ∀ report, (visit member).run ⟨workspace, report⟩ =
      .ok () ⟨workspace, report.skip (request member).name .nameCollision⟩) (report : Report) :
    (members.forM visit).run ⟨workspace, report⟩ =
      .ok () ⟨workspace, report.skipAll ((members.map request).map Request.collision)⟩ := by
  induction members generalizing report with
  | nil =>
    rw [List.map_nil, List.map_nil, Report.skipAll_nil]
    rfl
  | cons member later inductionHypothesis =>
    show (visit member >>= fun _ => later.forM visit).run _ = _
    rw [EStateM.run_bind, noted member List.mem_cons_self]
    show (later.forM visit).run _ = _
    rw [inductionHypothesis fun other inside => noted other (List.mem_cons_of_mem _ inside)]
    simp [Report.skip, Report.skipAll, Request.collision]

/-- What is done only if a name is free is not done when it is taken. -/
theorem run_guarded_of_taken {step : Generation PUnit} (taken : request.IsTaken workspace)
    (report : Report) :
    (isAbsent .microflow request.name >>= fun absent => if absent then step else pure ⟨⟩).run
        ⟨workspace, report⟩ =
      .ok () ⟨workspace, report.skip request.name .nameCollision⟩ := by
  obtain ⟨id, found⟩ := taken
  rw [EStateM.run_bind, run_isAbsent_of_found found]
  rfl

/-- A generator whose requests all have taken names notes them and changes nothing. -/
theorem Asks.run_of_taken (asks : Asks settings workspace kind requests)
    (taken : ∀ request ∈ requests, request.IsTaken workspace) (report : Report) :
    (Service.generator settings kind).run ⟨workspace, report⟩ =
      .ok () ⟨workspace, report.skipAll (requests.map Request.collision)⟩ := by
  cases asks with
  | validation selected =>
    rw [Service.generator, generateValidation, run_ask_bind_of_ok selected]
    exact run_forM_of_taken (fun _ member =>
      run_guarded_of_taken (taken _ (List.mem_map_of_mem member))) report
  | pageLogging named address browser found =>
    rw [Service.generator, generatePageLogging,
      run_ask_bind_of_ok (loggingModule_eq_ok.mpr named), run_ask_bind_of_ok address,
      run_ask_bind_of_ok browser, run_ask_bind_of_ok found]
    exact run_forM_of_taken (fun _ member =>
      run_guarded_of_taken (taken _ (List.mem_map_of_mem member))) report

/-! ## Generators -/

/-- The modules in which microflows are asked for are those of the selected entities or the logging
module, so it is enough that these have no dots in their names. -/
theorem Asks.undotted (asks : Asks settings workspace kind requests)
    (undotted : settings.UndottedFor kind) :
    ∀ request ∈ requests, '.' ∉ request.moduleName.toList := by
  intro request member
  cases asks with
  | validation selected =>
    obtain ⟨target, inside, rfl⟩ := List.mem_map.mp member
    obtain ⟨_, selection, listed, sameName⟩ :=
      exists_selection_of_mem_validationTargets selected inside
    show '.' ∉ target.moduleName.toList
    exact sameName ▸ undotted selection listed
  | pageLogging =>
    obtain ⟨target, _, rfl⟩ := List.mem_map.mp member
    exact undotted

/-- When a generator of microflows is done, it asks for the same when it is called again, and notes
that all these names are taken without changing anything. -/
theorem generator_again (rooted : before.workspace.Rooted) (undotted : settings.UndottedFor kind)
    (creates : kind = .validation ∨ kind = .pageLogging)
    (done : (Service.generator settings kind).run before = .ok () after) :
    ∃ requests, Asks settings before.workspace kind requests ∧
      ∀ report, (Service.generator settings kind).run ⟨after.workspace, report⟩ =
        .ok () ⟨after.workspace, report.skipAll (requests.map Request.collision)⟩ := by
  obtain ⟨requests, asks, served⟩ := (generator_served rooted settings creates).of_ok done
  have taken := served.isTaken rooted (asks.undotted undotted)
  exact ⟨requests, asks, (served.asks rooted asks).run_of_taken taken⟩

end Generation

end FlowModel
