import FlowModel.Proofs.Generation.Steps
import FlowModel.Service

/-!
# Requests of generators

The generators of validation and of logging microflows ask for one microflow after another, each in
a module that is found by its name. A request for a name that is taken is noted, and nothing else
happens. Otherwise folders are entered or created on a way down from the module, and the microflow
is appended to the last of them (`Fulfils`). So all that such a generator does is a chain of
fulfilled requests, also when it breaks off (`generator_served`).
-/

namespace FlowModel

/-- The report with further things that were left out. -/
def Report.skipAll (report : Report) (left : List Skip) : Report :=
  { report with skips := report.skips ++ left }

/-- No skips leave the report as it is. -/
theorem Report.skipAll_nil (report : Report) : report.skipAll [] = report := by
  rw [skipAll, List.append_nil]

namespace Generation

open Workspace

variable {before between after work : Work} {root base folder owner : ContainerId}

/-! ## Ways down to a folder -/

/-- A way down from a container, on which folders are entered, or created and noted with their
paths. It ends in a folder. -/
inductive Opens (root : ContainerId) (before : Work) : ContainerId → Work → Prop where
  | here : Opens root before root before
  | entered {base folder : ContainerId} {between : Work} (opened : Opens root before base between)
    (encloses : between.workspace.Encloses base folder) : Opens root before folder between
  | created {base : ContainerId} {name path : String} {between : Work}
    (opened : Opens root before base between)
    (known : (between.workspace.pushContainer ⟨name, .folder, some base⟩).path
      between.workspace.containers.length = .ok path) :
    Opens root before between.workspace.containers.length
      ⟨between.workspace.pushContainer ⟨name, .folder, some base⟩, between.report.addFolder path⟩

namespace Opens

/-- Only folders are created. -/
theorem documents (opens : Opens root before folder after) :
    after.workspace.documents = before.workspace.documents := by
  induction opens with
  | here => rfl
  | entered _ _ inductionHypothesis => exact inductionHypothesis
  | created _ _ inductionHypothesis => exact inductionHypothesis

/-- Only folders are noted. -/
theorem report_eq (opens : Opens root before folder after) :
    after.report = { before.report with createdFolders := after.report.createdFolders } := by
  induction opens with
  | here => rfl
  | entered _ _ inductionHypothesis => exact inductionHypothesis
  | created _ _ inductionHypothesis => rw [Report.addFolder, inductionHypothesis]

/-- A way down appends containers only. -/
theorem containers (opens : Opens root before folder after) :
    before.workspace.containers <+: after.workspace.containers := by
  induction opens with
  | here => exact List.prefix_rfl
  | entered _ _ inductionHypothesis => exact inductionHypothesis
  | created _ _ inductionHypothesis => exact inductionHypothesis.trans (containers_pushContainer ..)

/-- A way down adds no documents. -/
theorem isExtension (opens : Opens root before folder after) :
    before.workspace.Extends after.workspace :=
  ⟨opens.containers, [], opens.documents.trans (List.append_nil _).symm, nofun⟩

/-- The folder lies in the container from which the way leads down. -/
theorem encloses (opens : Opens root before folder after) :
    after.workspace.Encloses root folder := by
  induction opens with
  | here => exact .itself
  | entered _ below inductionHypothesis => exact inductionHypothesis.trans below
  | created _ _ inductionHypothesis =>
    exact .inside (stored_pushContainer ..) (Container.isFolderIn_parent ..)
      (inductionHypothesis.mono (containers_pushContainer ..))

/-- A way that starts in a container ends in one. -/
theorem lt (opens : Opens root before folder after)
    (inside : root < before.workspace.containers.length) :
    folder < after.workspace.containers.length :=
  opens.encloses.lt (Nat.lt_of_lt_of_le inside opens.containers.length_le)

/-- No module is created. -/
theorem stored_of_isModule (opens : Opens root before folder after) {id : ContainerId}
    {found : Container} (stored : after.workspace.containers[id]? = some found)
    (isModule : found.isModule = true) : before.workspace.containers[id]? = some found := by
  induction opens with
  | here => exact stored
  | entered _ _ inductionHypothesis => exact inductionHypothesis stored
  | created _ _ inductionHypothesis =>
    rcases getElem?_concat_cases stored with earlier | ⟨_, rfl⟩
    · exact inductionHypothesis earlier
    · exact nomatch isModule

/-- Every folder on the way has been created in the one before it. -/
theorem rooted (opens : Opens root before folder after) (rooted : before.workspace.Rooted)
    (inside : root < before.workspace.containers.length) : after.workspace.Rooted := by
  induction opens with
  | here => exact rooted
  | entered _ _ inductionHypothesis => exact inductionHypothesis
  | created opened _ inductionHypothesis =>
    exact inductionHypothesis.pushContainer (.folder (opened.lt inside))

/-- The report tells of every folder that was created. -/
theorem grown (opens : Opens root before folder after) (wellFormed : before.workspace.WellFormed)
    (inside : root < before.workspace.containers.length) : Grown before after := by
  induction opens with
  | here => exact .refl wellFormed
  | entered _ _ inductionHypothesis => exact inductionHypothesis
  | @created base name _ between opened _ inductionHypothesis =>
    have grows : between.workspace.Grows (between.workspace.pushContainer ⟨name, .folder, some base⟩) :=
      .pushContainer inductionHypothesis.wellFormed (.folder (opened.lt inside))
    exact inductionHypothesis.trans (.told grows (hasChanges_addFolder _ _))

end Opens

/-- A folder with a name directly in a container is there, or it is created and noted with its
path. -/
inductive Ensures (parent : ContainerId) (name : String) (before : Work) :
    ContainerId → Work → Prop where
  | present {folder : ContainerId}
    (found : before.workspace.childFolder? parent name = some folder) :
    Ensures parent name before folder before
  | created {path : String} (absent : before.workspace.childFolder? parent name = none)
    (known : (before.workspace.pushContainer ⟨name, .folder, some parent⟩).path
      before.workspace.containers.length = .ok path) :
    Ensures parent name before before.workspace.containers.length
      ⟨before.workspace.pushContainer ⟨name, .folder, some parent⟩, before.report.addFolder path⟩

/-- A folder below a container is always ensured. Its path can be told, because the workspace is
rooted. -/
theorem ensureFolder_ends (rooted : work.workspace.Rooted)
    (inside : root < work.workspace.containers.length) (name : String) :
    Ends (ensureFolder root name) work (Ensures root name work) Never := by
  cases present : work.workspace.childFolder? root name with
  | some found =>
    apply askThen (ensureFolder_of_present present)
    apply Ends.modifyThen
    exact Ends.value (.present present)
  | none =>
    have holder := container_eq_ok.mpr (List.getElem?_eq_getElem inside)
    have rootedThen : (work.workspace.pushContainer ⟨name, .folder, some root⟩).Rooted :=
      rooted.pushContainer (.folder inside)
    obtain ⟨path, known⟩ :=
      rootedThen.path_of_lt (lt_of_getElem?_eq_some (stored_pushContainer _ _))
    apply askThen (ensureFolder_of_absent present holder)
    apply Ends.modifyThen
    apply askThen known
    apply Ends.modifyThen
    exact Ends.value (.created present known)

/-- The way goes on into a folder that is there or is created. -/
theorem Opens.ensured {name : String} (opened : Opens root before base between)
    (ensured : Ensures base name between folder after) : Opens root before folder after := by
  cases ensured with
  | present found => exact opened.entered (encloses_of_childFolder? found)
  | created _ known => exact opened.created known

/-- The next step on a way down is ensured, too. -/
theorem Opens.ensures (opened : Opens root before base between)
    (rooted : before.workspace.Rooted) (inside : root < before.workspace.containers.length)
    (name : String) : Ends (ensureFolder base name) between (Opens root before) Never :=
  (ensureFolder_ends (opened.rooted rooted inside) (opened.lt inside) name).onDone
    fun _ _ ensured => opened.ensured ensured

/-- The folder for the pages of a module is found in the logging module, or there is a way down to
it. -/
theorem pageFolder_opens (rooted : work.workspace.Rooted)
    (inside : root < work.workspace.containers.length) (moduleName : String)
    (settings : PageLoggingSettings) :
    Ends (pageFolder root moduleName settings) work (Opens root work) Never := by
  apply Ends.lookThen
  cases found : work.workspace.findFolder? root moduleName with
  | some folder => exact Ends.value (Opens.here.entered (encloses_of_findFolder? found))
  | none =>
    refine Ends.andThen (Opens.here.ensures rooted inside settings.folderName) ?_
    intro base between opened
    exact opened.ensures rooted inside moduleName

/-! ## Requests -/

/-- A request for a microflow in a module, and what is left out of it. -/
structure Request where
  owner : ContainerId
  moduleName : String
  content : Microflow
  leftOut : List Skip

/-- The qualified name under which a microflow is asked for. -/
def Request.name (request : Request) : String :=
  QualifiedName.qualified request.moduleName request.content.name

/-- What a request does: its name is taken and is noted, or a microflow is appended to a folder of
the module and its name is noted after what is left out of it. -/
inductive Fulfils (request : Request) (before : Work) : Work → Prop where
  | taken {id : DocumentId}
    (found : before.workspace.find? .microflow request.name = some id) :
    Fulfils request before
      { before with report := before.report.skip request.name .nameCollision }
  | created {folder : ContainerId} {between : Work} {name : String}
    (free : before.workspace.find? .microflow request.name = none)
    (opened : Opens request.owner
      { before with report := before.report.skipAll request.leftOut } folder between)
    (known : (between.workspace.pushDocument folder (.microflow request.content)).qualifiedName
      between.workspace.documents.length = .ok name) :
    Fulfils request before
      ⟨between.workspace.pushDocument folder (.microflow request.content),
        { between.report.addMicroflow name with
          createdNodes := between.report.createdNodes + request.content.nodes.length }⟩

/-- A microflow without violations is appended to a folder, and its name is noted. -/
theorem insertMicroflow_ends (rooted : work.workspace.Rooted)
    (inside : folder < work.workspace.containers.length) {content : Microflow}
    (sound : content.violations = []) :
    Ends (insertMicroflow folder content) work
      (fun _ after => ∃ name, (work.workspace.pushDocument folder (.microflow content)).qualifiedName
          work.workspace.documents.length = .ok name ∧
        after = ⟨work.workspace.pushDocument folder (.microflow content),
          { work.report.addMicroflow name with
            createdNodes := work.report.createdNodes + content.nodes.length }⟩) Never := by
  have holding := container_eq_ok.mpr (List.getElem?_eq_getElem inside)
  have rootedThen := rooted.pushDocument inside (.microflow content)
  obtain ⟨name, known⟩ :=
    rootedThen.qualifiedName_of_lt (lt_of_getElem?_eq_some (stored_pushDocument _ _ _))
  rw [insertMicroflow, sound]
  apply askThen (createDocument_of_stored holding _)
  apply Ends.modifyThen
  apply askThen known
  apply Ends.modifyThen
  exact Ends.value ⟨name, known, rfl⟩

/-- A way down leads to a folder, and a microflow without violations is appended there. -/
theorem insertMicroflow_follows (before : Work) (request : Request)
    (rooted : before.workspace.Rooted)
    (inside : request.owner < before.workspace.containers.length)
    (sound : request.content.violations = []) {opening : Generation ContainerId}
    {way : ContainerId → Work → Prop} (opens : Ends opening before way Never)
    (isWay : ∀ folder between, way folder between → Opens request.owner before folder between) :
    Ends (do let _ ← insertMicroflow (← opening) request.content) before
      (fun _ after => ∃ folder between name, way folder between ∧
        (between.workspace.pushDocument folder (.microflow request.content)).qualifiedName
          between.workspace.documents.length = .ok name ∧
        after = ⟨between.workspace.pushDocument folder (.microflow request.content),
          { between.report.addMicroflow name with
            createdNodes := between.report.createdNodes + request.content.nodes.length }⟩) Never := by
  refine Ends.andThen opens ?_
  intro folder between follows
  have opened := isWay folder between follows
  refine Ends.andThen (insertMicroflow_ends (opened.rooted rooted inside) (opened.lt inside) sound) ?_
  rintro id after ⟨name, known, rfl⟩
  exact Ends.value ⟨folder, between, name, follows, known, rfl⟩

/-- When what is left out is noted, a way down leads to a folder and a microflow without violations
is appended there, the request is fulfilled. -/
theorem insertMicroflow_fulfils (request : Request) (rooted : before.workspace.Rooted)
    (inside : request.owner < before.workspace.containers.length)
    (free : before.workspace.find? .microflow request.name = none)
    (sound : request.content.violations = []) {opening : Generation ContainerId}
    (opens : Ends opening { before with report := before.report.skipAll request.leftOut }
      (Opens request.owner { before with report := before.report.skipAll request.leftOut }) Never) :
    Ends (do let _ ← insertMicroflow (← opening) request.content)
      { before with report := before.report.skipAll request.leftOut }
      (fun _ after => Fulfils request before after) Never := by
  refine (insertMicroflow_follows { before with report := before.report.skipAll request.leftOut }
    request rooted inside sound opens fun _ _ way => way).onDone ?_
  rintro _ after ⟨folder, between, name, opened, known, rfl⟩
  exact .created free opened known

/-- The folder lies in the module of the request, also when the microflow is there. -/
theorem Opens.moduleOf_pushDocument {request : Request}
    (opened : Opens request.owner before folder after) (rooted : before.workspace.Rooted)
    (named : before.workspace.moduleNamed? request.moduleName = some request.owner) :
    (after.workspace.pushDocument folder (.microflow request.content)).moduleOf folder =
      .ok request.owner := by
  have located := moduleOf_of_moduleNamed? named
  have locatedThen := (opened.rooted rooted (lt_of_moduleOf located)).moduleOf_of_encloses
    (opened.isExtension.within.keeps.moduleOf located) opened.encloses
  exact (Extends.pushDocument ..).within.keeps.moduleOf locatedThen

/-- The name of a created microflow is the one that was looked for. -/
theorem Opens.qualifiedName_pushDocument {request : Request}
    (opened : Opens request.owner before folder after) (rooted : before.workspace.Rooted)
    (named : before.workspace.moduleNamed? request.moduleName = some request.owner) :
    (after.workspace.pushDocument folder (.microflow request.content)).qualifiedName
      after.workspace.documents.length = .ok request.name := by
  obtain ⟨owner, stored, _, sameName⟩ := moduleNamed?_eq_some named
  rw [Request.name, ← sameName]
  exact qualifiedName_eq_of_moduleOf (stored_pushDocument ..)
    (opened.moduleOf_pushDocument rooted named) (getElem?_of_isPrefix opened.containers stored)

namespace Fulfils

variable {request : Request}

/-- A request adds folders and at most one document. -/
theorem isExtension (fulfils : Fulfils request before after) :
    before.workspace.Extends after.workspace := by
  cases fulfils with
  | taken => exact .refl before.workspace
  | created _ opened => exact opened.isExtension.trans (.pushDocument ..)

/-- What is found by labels is found when a request has been fulfilled. -/
theorem keeps (fulfils : Fulfils request before after) : before.workspace.Keeps after.workspace :=
  fulfils.isExtension.within.keeps

/-- No module is created. -/
theorem stored_of_isModule (fulfils : Fulfils request before after) {id : ContainerId}
    {found : Container} (stored : after.workspace.containers[id]? = some found)
    (isModule : found.isModule = true) : before.workspace.containers[id]? = some found := by
  cases fulfils with
  | taken => exact stored
  | created _ opened => exact opened.stored_of_isModule stored isModule

/-- The microflow is created in a folder that is there, so the workspace stays rooted. -/
theorem rooted (fulfils : Fulfils request before after) (rooted : before.workspace.Rooted)
    (inside : request.owner < before.workspace.containers.length) : after.workspace.Rooted := by
  cases fulfils with
  | taken => exact rooted
  | created _ opened => exact (opened.rooted rooted inside).pushDocument (opened.lt inside) _

/-- The report tells of the microflow, so it tells of a change if there is one. -/
theorem grown (fulfils : Fulfils request before after) (wellFormed : before.workspace.WellFormed)
    (inside : request.owner < before.workspace.containers.length) : Grown before after := by
  cases fulfils with
  | taken => exact .noted wellFormed rfl
  | created _ opened =>
    have noting : Grown before
        { before with report := before.report.skipAll request.leftOut } :=
      .noted wellFormed rfl
    have opening := noting.trans (opened.grown wellFormed inside)
    exact opening.trans (.told (.pushDocument opening.wellFormed (opened.lt inside) _)
      (hasChanges_addMicroflow _ _ _))

end Fulfils

/-! ## Targets -/

end Generation

/-- What is noted of an entity whose attributes are not all checked. -/
def ValidationTarget.leftOut (target : ValidationTarget) : List Skip :=
  (uncheckedAttributes target.entity.attributes).map fun unchecked =>
    ⟨target.moduleName ++ "." ++ target.entity.name ++ "." ++ unchecked.name,
      .unsupportedType unchecked.typeName⟩

open Generation

/-- The request for the validation microflow of an entity. -/
def ValidationTarget.request (settings : ValidationSettings) (target : ValidationTarget) :
    Request where
  owner := target.owner
  moduleName := target.moduleName
  content := validationPlan target.entity target.moduleName settings
  leftOut := target.leftOut

/-- The request for the logging microflow of a page, which goes to the logging module. -/
def PageTarget.request (settings : PageLoggingSettings) (logging : ContainerId)
    (target : PageTarget) : Request where
  owner := logging
  moduleName := settings.loggingModule
  content := pageLoggingPlan target.page target.parameter settings
  leftOut := []

/-- The validation microflow of some selected entity does not fit on the canvas. -/
def Workspace.Overflows (workspace : Workspace) (settings : ValidationSettings) : Prop :=
  ∃ targets, workspace.validationTargets settings = .ok targets ∧
    ∃ target ∈ targets, validationMicroflow? target.entity target.moduleName settings = none

/-- For an entity its planned validation microflow is requested. -/
theorem ValidationTarget.content_request (settings : ValidationSettings)
    (target : ValidationTarget) : (target.request settings).content =
      validationPlan target.entity target.moduleName settings := by
  rw [request]

/-- For a page its planned logging microflow is requested. -/
theorem PageTarget.content_request (settings : PageLoggingSettings) (logging : ContainerId)
    (target : PageTarget) : (target.request settings logging).content =
      pageLoggingPlan target.page target.parameter settings := by
  rw [request]

/-- The logging module is found by its name among the modules. Of several with the name, the first
one is taken. -/
theorem Workspace.loggingModule_eq_ok {workspace : Workspace} {settings : PageLoggingSettings}
    {id : ContainerId} :
    workspace.loggingModule settings = .ok id ↔
      workspace.moduleNamed? settings.loggingModule = some id := by
  rw [loggingModule]
  cases workspace.moduleNamed? settings.loggingModule <;> simp

namespace Generation

open Workspace

/-- What is left out is noted in the order in which it is met. -/
theorem foldl_skip {α : Type} {subject : α → String} {reason : α → SkipReason} (members : List α)
    (report : Report) :
    members.foldl (fun report member => report.skip (subject member) (reason member)) report =
      report.skipAll (members.map fun member => ⟨subject member, reason member⟩) := by
  induction members generalizing report with
  | nil => simp [Report.skipAll]
  | cons member later inductionHypothesis =>
    rw [List.foldl_cons, inductionHypothesis]
    simp [Report.skip, Report.skipAll]

/-- What is done for an entity: the name of its microflow is taken and is noted, or its microflow is
appended to the folder with a name directly in its module. -/
inductive Files (request : Request) (folderName : String) (before : Work) : Work → Prop where
  | taken {id : DocumentId}
    (found : before.workspace.find? .microflow request.name = some id) :
    Files request folderName before
      { before with report := before.report.skip request.name .nameCollision }
  | created {folder : ContainerId} {between : Work} {name : String}
    (free : before.workspace.find? .microflow request.name = none)
    (ensured : Ensures request.owner folderName
      { before with report := before.report.skipAll request.leftOut } folder between)
    (known : (between.workspace.pushDocument folder (.microflow request.content)).qualifiedName
      between.workspace.documents.length = .ok name) :
    Files request folderName before
      ⟨between.workspace.pushDocument folder (.microflow request.content),
        { between.report.addMicroflow name with
          createdNodes := between.report.createdNodes + request.content.nodes.length }⟩

/-- Filing in a folder of a given name is one of the ways to fulfil a request. -/
theorem Files.fulfils {request : Request} {folderName : String}
    (files : Files request folderName before after) : Fulfils request before after := by
  cases files with
  | taken found => exact .taken found
  | created free ensured known => exact .created free (Opens.here.ensured ensured) known

/-- The microflow of an entity is filed, if it fits on the canvas. -/
theorem validateEntity_files (rooted : work.workspace.Rooted) (settings : ValidationSettings)
    {target : ValidationTarget}
    (named : work.workspace.moduleNamed? target.moduleName = some target.owner) :
    Ends (validateEntity settings target) work
      (fun _ after => Files (target.request settings) settings.folderName work after ∧
        (work.workspace.find? .microflow (target.request settings).name = none →
          (validationMicroflow? target.entity target.moduleName settings).isSome = true))
      (fun failure after => failure = .outOfRange ∧ after = work ∧
        work.workspace.find? .microflow (target.request settings).name = none ∧
        validationMicroflow? target.entity target.moduleName settings = none) := by
  have inside := lt_of_moduleOf (moduleOf_of_moduleNamed? named)
  refine Ends.andThen (isAbsent_ends .microflow _).weaken ?_
  intro absent between holds
  cases absent with
  | false =>
    obtain ⟨⟨id, found⟩, rfl⟩ := holds
    exact Ends.value ⟨.taken found, fun free => nomatch found.symm.trans free⟩
  | true =>
    obtain ⟨free, rfl⟩ : _ ∧ between = work := holds
    rw [if_pos rfl]
    cases drawn : validationMicroflow? target.entity target.moduleName settings with
    | none => exact Ends.fail ⟨rfl, rfl, free, rfl⟩
    | some result =>
      obtain ⟨content, leftOut⟩ := result
      obtain ⟨_, rfl, rfl⟩ := validationMicroflow?_eq_some.mp drawn
      apply Ends.weaken
      apply Ends.modifyThen
      simp only [foldl_skip, ← target.content_request settings]
      have sound := violations_validationPlan target.entity target.moduleName settings
      have ensures (noted : Work) (same : noted.workspace = between.workspace) :
          Ends (ensureFolder target.owner settings.folderName) noted
            (Ensures target.owner settings.folderName noted) Never :=
        ensureFolder_ends (same.symm ▸ rooted) (same.symm ▸ inside) _
      refine (insertMicroflow_follows ⟨between.workspace, between.report.skipAll target.leftOut⟩
        (target.request settings) rooted inside sound (ensures _ rfl)
        fun _ _ ensured => Opens.here.ensured ensured).onDone ?_
      rintro _ after ⟨folder, filled, name, ensured, known, rfl⟩
      exact ⟨.created free ensured known, fun _ => rfl⟩

/-- The request for an entity is fulfilled, if its microflow fits on the canvas. -/
theorem validateEntity_fulfils (rooted : work.workspace.Rooted) (settings : ValidationSettings)
    {target : ValidationTarget}
    (named : work.workspace.moduleNamed? target.moduleName = some target.owner) :
    Ends (validateEntity settings target) work
      (fun _ after => Fulfils (target.request settings) work after)
      (fun failure after => failure = .outOfRange ∧ after = work ∧
        validationMicroflow? target.entity target.moduleName settings = none) := by
  refine (validateEntity_files rooted settings named).mono (fun _ _ done => done.1.fulfils) ?_
  rintro failure after ⟨overflow, unchanged, _, undrawn⟩
  exact ⟨overflow, unchanged, undrawn⟩

/-- The request for a page is always fulfilled. -/
theorem logPage_fulfils (rooted : work.workspace.Rooted) (settings : PageLoggingSettings)
    {logging : ContainerId} (inside : logging < work.workspace.containers.length)
    (target : PageTarget) :
    Ends (logPage settings logging target) work
      (fun _ after => Fulfils (target.request settings logging) work after) Never := by
  refine Ends.andThen (isAbsent_ends .microflow _) ?_
  intro absent between holds
  cases absent with
  | false =>
    obtain ⟨⟨id, found⟩, rfl⟩ := holds
    exact Ends.value (.taken found)
  | true =>
    obtain ⟨free, rfl⟩ : _ ∧ between = work := holds
    rw [if_pos rfl]
    simp only [pageLoggingMicroflow?_eq, ← target.content_request settings logging]
    have sound := violations_pageLoggingPlan target.page target.parameter settings
    have nothing : { between with
        report := between.report.skipAll (target.request settings logging).leftOut } = between := by
      rw [PageTarget.request, Report.skipAll_nil]
    have opens := pageFolder_opens rooted inside target.moduleName settings
    have inserting := insertMicroflow_fulfils (target.request settings logging) rooted inside free
      sound (nothing.symm ▸ opens)
    rwa [nothing] at inserting

/-! ## Generators -/

/-- Some microflows have been asked for, one after another, in modules that are found by name. -/
structure Served (requests : List Request) (before after : Work) : Prop where
  placed : ∀ request ∈ requests,
    before.workspace.moduleNamed? request.moduleName = some request.owner
  chain : Chain Fulfils requests before after

namespace Served

variable {requests : List Request}

/-- What every fulfilled request keeps is kept, where all that has been reached extends the start
and is rooted. -/
theorem keeps {invariant : Work → Prop} (served : Served requests before after)
    (rooted : before.workspace.Rooted)
    (kept : ∀ request ∈ requests, ∀ earlier later,
      earlier.workspace.moduleNamed? request.moduleName = some request.owner →
        earlier.workspace.Rooted → Fulfils request earlier later → invariant earlier →
          invariant later)
    (starts : invariant before) :
    before.workspace.Extends after.workspace ∧ after.workspace.Rooted ∧ invariant after := by
  have keptAll : ∀ request ∈ requests, ∀ earlier later, Fulfils request earlier later →
      before.workspace.Extends earlier.workspace ∧ earlier.workspace.Rooted ∧ invariant earlier →
        before.workspace.Extends later.workspace ∧ later.workspace.Rooted ∧ invariant later := by
    rintro request member earlier later fulfils ⟨extended, rootedThen, holds⟩
    have named := extended.within.keeps.moduleNamed? (served.placed request member)
    have inside := lt_of_moduleOf (moduleOf_of_moduleNamed? named)
    exact ⟨extended.trans fulfils.isExtension, fulfils.rooted rootedThen inside,
      kept request member earlier later named rootedThen fulfils holds⟩
  exact served.chain.keeps keptAll ⟨.refl before.workspace, rooted, starts⟩

/-- Requests that have been served leave a rooted workspace, with all that was there. -/
theorem extends_rooted (served : Served requests before after)
    (rooted : before.workspace.Rooted) :
    before.workspace.Extends after.workspace ∧ after.workspace.Rooted := by
  have always : ∀ request ∈ requests, ∀ earlier later,
      earlier.workspace.moduleNamed? request.moduleName = some request.owner →
        earlier.workspace.Rooted → Fulfils request earlier later → True → True :=
    fun _ _ _ _ _ _ _ _ => trivial
  obtain ⟨extended, rootedThen, _⟩ := served.keeps rooted always trivial
  exact ⟨extended, rootedThen⟩

end Served

/-- Steps that fulfil requests, and change nothing when they fail, serve the requests in turn, and
fail as one of them. -/
theorem each_served {α : Type} {visit : α → Generation PUnit} {request : α → Request}
    {breaks : Failure → Prop} {members : List α} (rooted : work.workspace.Rooted)
    (placed : ∀ member ∈ members,
      work.workspace.moduleNamed? (request member).moduleName = some (request member).owner)
    (steps : ∀ member ∈ members, ∀ between, between.workspace.Rooted →
      between.workspace.moduleNamed? (request member).moduleName = some (request member).owner →
        Ends (visit member) between (fun _ after => Fulfils (request member) between after)
          fun failure after => breaks failure ∧ after = between) :
    Ends (members.forM visit) work (fun _ after => Served (members.map request) work after)
      fun failure after => breaks failure ∧ ∃ requests, Served requests work after := by
  have placedAll : ∀ served : List α, served <+: members → ∀ asked ∈ served.map request,
      work.workspace.moduleNamed? asked.moduleName = some asked.owner := by
    intro served isPrefix asked member
    obtain ⟨origin, inside, rfl⟩ := List.mem_map.mp member
    exact placed origin (isPrefix.subset inside)
  have effects : ∀ member ∈ members, ∀ between,
      work.workspace.Extends between.workspace ∧ between.workspace.Rooted →
        Ends (visit member) between
          (fun _ after => Fulfils (request member) between after ∧
            work.workspace.Extends after.workspace ∧ after.workspace.Rooted)
          fun failure after => breaks failure ∧ after = between := by
    rintro member inside between ⟨extended, rootedThen⟩
    have named := extended.within.keeps.moduleNamed? (placed member inside)
    refine (steps member inside between rootedThen named).onDone fun _ after fulfils => ?_
    exact ⟨fulfils, extended.trans fulfils.isExtension,
      fulfils.rooted rootedThen (lt_of_moduleOf (moduleOf_of_moduleNamed? named))⟩
  refine (Ends.chain effects ⟨.refl work.workspace, rooted⟩).mono
    (fun _ after chain => ⟨placedAll members List.prefix_rfl, chain.map⟩) ?_
  rintro failure after ⟨broken, served, isPrefix, chain⟩
  exact ⟨broken, served.map request, placedAll served isPrefix, chain.map⟩

/-- What a generator of microflows asks for, which depends on what it looks up first. -/
inductive Asks (settings : Settings) (workspace : Workspace) : RunKind → List Request → Prop where
  | validation {targets : List ValidationTarget}
    (selected : workspace.validationTargets settings.validation = .ok targets) :
    Asks settings workspace .validation
      (targets.map fun target => target.request settings.validation)
  | pageLogging {logging : ContainerId} {targets : List PageTarget}
    (named : workspace.moduleNamed? settings.pageLogging.loggingModule = some logging)
    (address : workspace.requireJavaAction settings.pageLogging.addressAction = .ok ())
    (browser : workspace.requireJavaAction settings.pageLogging.browserAction = .ok ())
    (found : workspace.pageTargets = .ok targets) :
    Asks settings workspace .pageLogging
      (targets.map fun target => target.request settings.pageLogging logging)

/-- How a generator of microflows breaks off: it is refused by what it looks up first, and nothing
has changed, or the microflow of a selected entity does not fit on the canvas when the requests
before it have been served. -/
inductive BreaksOff (settings : Settings) (before : Work) : RunKind → Failure → Work → Prop where
  | refused {kind : RunKind} {failure : Failure} : BreaksOff settings before kind failure before
  | overflow {requests : List Request} {after : Work}
    (overflows : before.workspace.Overflows settings.validation)
    (served : Served requests before after) :
    BreaksOff settings before .validation .outOfRange after

/-- A generator that breaks off has served the requests that came before. They are not taken back.
-/
theorem BreaksOff.exists_served {settings : Settings} {kind : RunKind} {failure : Failure}
    (breaksOff : BreaksOff settings before kind failure after) :
    ∃ requests, Served requests before after := by
  cases breaksOff with
  | refused => exact ⟨[], nofun, .nil before⟩
  | overflow _ served => exact ⟨_, served⟩

/-- A generator of microflows serves all its requests, or the first of them if it breaks off. All
questions are asked before the first request, so a refusal leaves nothing behind. The modules found
then are found during all requests, since none is ever created. -/
theorem generator_served (rooted : work.workspace.Rooted) (settings : Settings) {kind : RunKind}
    (creates : kind = .validation ∨ kind = .pageLogging) :
    Ends (Service.generator settings kind) work
      (fun _ after => ∃ requests, Asks settings work.workspace kind requests ∧
        Served requests work after)
      (BreaksOff settings work kind) := by
  rcases creates with rfl | rfl
  · refine asking (fun _ _ => .refused) fun targets selected => ?_
    have placed : ∀ target ∈ targets,
        work.workspace.moduleNamed? target.moduleName = some target.owner :=
      fun target => moduleNamed?_of_mem_validationTargets selected
    have steps : ∀ target ∈ targets, ∀ between, between.workspace.Rooted →
        between.workspace.moduleNamed? target.moduleName = some target.owner →
          Ends (validateEntity settings.validation target) between
            (fun _ after => Fulfils (target.request settings.validation) between after)
            fun failure after => (failure = .outOfRange ∧
              work.workspace.Overflows settings.validation) ∧ after = between := by
      intro target member between rootedThen named
      refine (validateEntity_fulfils rootedThen settings.validation named).onFailed ?_
      rintro failure after ⟨overflow, unchanged, undrawn⟩
      exact ⟨⟨overflow, targets, selected, target, member, undrawn⟩, unchanged⟩
    refine (each_served rooted placed steps).mono
      (fun _ after served => ⟨_, .validation selected, served⟩) ?_
    rintro failure after ⟨⟨rfl, overflows⟩, requests, served⟩
    exact .overflow overflows served
  · refine asking (fun _ _ => .refused) fun logging found => ?_
    refine asking (fun _ _ => .refused) fun _ address => ?_
    refine asking (fun _ _ => .refused) fun _ browser => ?_
    refine asking (fun _ _ => .refused) fun targets known => ?_
    have named := loggingModule_eq_ok.mp found
    have steps : ∀ target ∈ targets, ∀ between, between.workspace.Rooted →
        between.workspace.moduleNamed? settings.pageLogging.loggingModule = some logging →
          Ends (logPage settings.pageLogging logging target) between
            (fun _ after => Fulfils (target.request settings.pageLogging logging) between after)
            fun _ after => False ∧ after = between := by
      intro target _ between rootedThen namedThen
      have inside := lt_of_moduleOf (moduleOf_of_moduleNamed? namedThen)
      exact (logPage_fulfils rootedThen settings.pageLogging inside target).weaken
    refine (each_served rooted (fun _ _ => named) steps).mono
      (fun _ after served => ⟨_, .pageLogging named address browser known, served⟩) ?_
    rintro failure after ⟨impossible, _⟩
    exact impossible.elim

end Generation

end FlowModel
