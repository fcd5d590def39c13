import FlowModel.Proofs.Workspace.Completion
import FlowModel.Proofs.Workspace.Labels
import FlowModel.Proofs.Workspace.Lookups
import FlowModel.Proofs.Workspace.Names
import FlowModel.Settings.Basic

/-!
# What generators read

Before a generator changes anything it asks for modules, domain models, pages and microflows. When
the bodies that it reads are there (`Readable`), every workspace that only has more bodies answers
alike, and a question fails only because a prerequisite is missing or a page is ambiguous
(`settled_validationTargets`, `settled_pageTargets`, `settled_selectedMicroflows`). What is required
and the targets for pages stay the same in a workspace that contains this one, if it has no further
pages (`Within.pageTargets`).
-/

namespace FlowModel

/-- The failures with which a run refuses a project. -/
inductive RunKind.Refuses : RunKind → Failure → Prop where
  | missingTarget (what : String) : Refuses .validation (.missingPrerequisite what)
  | missingPrerequisite (what : String) : Refuses .pageLogging (.missingPrerequisite what)
  | ambiguousPage (page : String) (entities : List String) :
    Refuses .pageLogging (.ambiguousPageParameter page entities)

namespace Workspace

variable {workspace : Workspace} {id owner : ContainerId} {kind : DocumentKind}
  {modules : List String} {refuses : Failure → Prop}

/-! ## Settled questions -/

/-- All workspaces that only have more bodies answer alike, and the answer fails for some reasons
only. -/
structure Settled {α : Type} (refuses : Failure → Prop) (question : Workspace → Except Failure α)
    (workspace : Workspace) : Prop where
  alike : ∀ {fuller : Workspace}, fuller.Completes workspace →
    question fuller = question workspace
  failsWithin : AnswerFailsWithin refuses (question workspace)

namespace Settled

variable {α β : Type} {question : Workspace → Except Failure α}

/-- A question that does not look at the workspace. -/
theorem given {answer : Except Failure α} (within : AnswerFailsWithin refuses answer) :
    Settled refuses (fun _ => answer) workspace :=
  ⟨fun _ => rfl, within⟩

/-- A question that looks at labels only. -/
theorem labelled (reads : ReadsLabels question)
    (within : AnswerFailsWithin refuses (question workspace)) :
    Settled refuses question workspace :=
  ⟨fun completes => reads.alike completes.unloadAll_eq, within⟩

/-- A question with an answer that more bodies do not change. -/
theorem kept {value : α} (answered : question workspace = .ok value)
    (kept : ∀ fuller : Workspace, fuller.Completes workspace → question fuller = .ok value) :
    Settled refuses question workspace :=
  ⟨fun completes => (kept _ completes).trans answered.symm, answered ▸ .ok value⟩

/-- The second question may depend on the answer to the first. A fuller workspace gives the same
first answer, and so is asked the same second question. -/
theorem andThen {next : α → Workspace → Except Failure β}
    (first : Settled refuses question workspace)
    (rest : ∀ value, question workspace = .ok value → Settled refuses (next value) workspace) :
    Settled refuses (fun workspace => question workspace >>= fun value => next value workspace)
      workspace := by
  cases answered : question workspace with
  | error failure =>
    refine ⟨fun completes => ?_, ?_⟩
    · simp only [first.alike completes, answered, bind, Except.bind]
    · simp only [answered, bind, Except.bind]
      exact .error (first.failsWithin failure answered)
  | ok value =>
    have second := rest value answered
    refine ⟨fun completes => ?_, ?_⟩
    · simp only [first.alike completes, answered, bind, Except.bind, second.alike completes]
    · simp only [answered, bind, Except.bind]
      exact second.failsWithin

/-- Asking one question after another is settled when each of them is. -/
theorem each {question : β → Workspace → Except Failure α} {members : List β}
    (one : ∀ member ∈ members, Settled refuses (question member) workspace) :
    Settled refuses (fun workspace => members.mapM fun member => question member workspace)
      workspace := by
  induction members with
  | nil => exact given (.ok [])
  | cons member later inductionHypothesis =>
    simp only [List.mapM_cons]
    refine andThen (one member List.mem_cons_self) fun value _ => ?_
    refine andThen (inductionHypothesis fun other inside => ?_) fun values _ => given (.ok _)
    exact one other (List.mem_cons_of_mem _ inside)

end Settled

/-! ## Bodies that are there -/

/-- Every document of a kind in selected modules has its body. -/
def HasBodies (workspace : Workspace) (kind : DocumentKind) (modules : List String) : Prop :=
  ∀ id, id ∈ workspace.documentsOfKind kind → workspace.IsSelected modules id →
    workspace.isLoaded id = true

/-- The bodies that a run reads are there. Validation reads domain models only of the modules it
is told, and none when it is told no module. -/
def Readable (workspace : Workspace) (settings : Settings) : RunKind → Prop
  | .validation => settings.validation.modules ≠ [] →
    workspace.HasBodies .domainModel (settings.validation.modules.map (·.name))
  | .pageLogging => workspace.HasBodies .page [] ∧ workspace.HasBodies .domainModel []
  | .recolor => workspace.HasBodies .microflow settings.recolor.modules
  | .namingAudit => True

/-- A selected document stays selected, because the name of its module does not change. -/
theorem Keeps.isSelected {after : Workspace} (keeps : workspace.Keeps after) {id : DocumentId}
    (isSelected : workspace.IsSelected modules id) : after.IsSelected modules id := by
  obtain ⟨found, name, stored, named, selects⟩ := isSelected
  obtain ⟨later, storedLater, label_eq⟩ := keeps.documents id found stored
  have container_eq := (Document.label_eq_iff.mp label_eq).2.2
  exact ⟨later, name, storedLater, container_eq ▸ keeps.moduleName named, selects⟩

/-- What is filled in keeps the bodies that are there. -/
theorem Fills.hasBodies {source before after : Workspace} (fills : source.Fills before after)
    (loaded : before.HasBodies kind modules) : after.HasBodies kind modules := by
  intro id ofKind isSelected
  rw [(readsLabels_documentsOfKind kind).alike fills.unloadAll_eq] at ofKind
  exact fills.isLoaded (loaded id ofKind (fills.keepsBack.isSelected isSelected))

/-- The documents of a kind have been stored. -/
theorem lt_of_mem_documentsOfKind {id : DocumentId} (ofKind : id ∈ workspace.documentsOfKind kind) :
    id < workspace.documents.length := by
  obtain ⟨found, stored, _⟩ := mem_documentsOfKind.mp ofKind
  exact lt_of_getElem?_eq_some stored

/-- A loaded document of a kind has a body of that kind. -/
theorem WellFormed.exists_body (wellFormed : workspace.WellFormed) {id : DocumentId}
    (ofKind : id ∈ workspace.documentsOfKind kind) (loaded : workspace.isLoaded id = true) :
    ∃ body, workspace.body id = .ok body ∧ body.kind = kind := by
  obtain ⟨found, stored, kind_eq⟩ := mem_documentsOfKind.mp ofKind
  obtain ⟨found', stored', isThere⟩ := isLoaded_iff.mp loaded
  obtain rfl := Option.some.inj (stored.symm.trans stored')
  obtain ⟨body, bodyOf⟩ := Option.isSome_iff_exists.mp isThere
  exact ⟨body, body_eq_ok.mpr ⟨found, stored, bodyOf⟩,
    (wellFormed.coherent stored body bodyOf).2.trans kind_eq⟩

/-- A document that is recorded as a microflow has a microflow as its body, once it is loaded. The
kinds agree in well-formed workspaces only. -/
theorem WellFormed.exists_microflow (wellFormed : workspace.WellFormed) {id : DocumentId}
    (ofKind : id ∈ workspace.documentsOfKind .microflow) (loaded : workspace.isLoaded id = true) :
    ∃ content, workspace.microflow id = .ok content := by
  obtain ⟨body, read, isMicroflow⟩ := wellFormed.exists_body ofKind loaded
  cases body with
  | microflow content => exact ⟨content, microflow_eq_ok.mpr read⟩
  | _ => exact nomatch isMicroflow

/-- A document that is recorded as a domain model has one as its body, once it is loaded. -/
theorem WellFormed.exists_domainModel (wellFormed : workspace.WellFormed) {id : DocumentId}
    (ofKind : id ∈ workspace.documentsOfKind .domainModel)
    (loaded : workspace.isLoaded id = true) :
    ∃ content, workspace.domainModel id = .ok content := by
  obtain ⟨body, read, isDomainModel⟩ := wellFormed.exists_body ofKind loaded
  cases body with
  | domainModel content => exact ⟨content, bind_eq_ok.mpr ⟨_, read, rfl⟩⟩
  | _ => exact nomatch isDomainModel

/-- A document that is recorded as a page has one as its body, once it is loaded. -/
theorem WellFormed.exists_page (wellFormed : workspace.WellFormed) {id : DocumentId}
    (ofKind : id ∈ workspace.documentsOfKind .page) (loaded : workspace.isLoaded id = true) :
    ∃ content, workspace.page id = .ok content := by
  obtain ⟨body, read, isPage⟩ := wellFormed.exists_body ofKind loaded
  cases body with
  | page content => exact ⟨content, bind_eq_ok.mpr ⟨_, read, rfl⟩⟩
  | _ => exact nomatch isPage

/-- Without a list of modules every document is selected. -/
theorem WellFormed.isSelected_nil (wellFormed : workspace.WellFormed) {id : DocumentId}
    (ofKind : id ∈ workspace.documentsOfKind kind) : workspace.IsSelected [] id := by
  obtain ⟨found, stored, _⟩ := mem_documentsOfKind.mp ofKind
  obtain ⟨name, named⟩ := wellFormed.moduleName_of_lt (wellFormed.holder_lt stored)
  exact ⟨found, name, stored, named, rfl⟩

/-- The domain model of a module lies directly in it, not in one of its folders. -/
theorem domainModelOf?_eq_some {id : DocumentId}
    (found : workspace.domainModelOf? owner = some id) :
    ∃ document, workspace.documents[id]? = some document ∧ document.container = owner ∧
      document.kind = .domainModel := by
  obtain ⟨document, stored, holds⟩ := mem_placesWhere.mp (List.mem_of_head? found)
  simp only [Bool.and_eq_true, beq_iff_eq] at holds
  exact ⟨document, stored, holds⟩

/-- The domain model of a selected module can be read when it is loaded. -/
theorem WellFormed.exists_domainModelOf (wellFormed : workspace.WellFormed)
    (loaded : workspace.HasBodies .domainModel modules) {name : String}
    (named : workspace.moduleNamed? name = some owner) (selects : selectsModule modules name = true)
    {id : DocumentId} (found : workspace.domainModelOf? owner = some id) :
    ∃ content, workspace.domainModel id = .ok content := by
  obtain ⟨container, stored, isModule, rfl⟩ := moduleNamed?_eq_some named
  obtain ⟨document, storedDocument, rfl, kind_eq⟩ := domainModelOf?_eq_some found
  have moduleName := moduleName_eq_of_moduleOf (moduleOf_of_isModule stored isModule) stored
  have ofKind := mem_documentsOfKind.mpr ⟨document, storedDocument, kind_eq⟩
  exact wellFormed.exists_domainModel ofKind
    (loaded id ofKind ⟨document, container.name, storedDocument, moduleName, selects⟩)

/-! ## Validation -/

/-- The entities of a module are known when its domain model is loaded. -/
theorem settled_selectedEntities (wellFormed : workspace.WellFormed)
    (loaded : workspace.HasBodies .domainModel modules) {selection : ModuleSelection}
    (selects : selectsModule modules selection.name = true) :
    Settled (RunKind.Refuses .validation) (·.selectedEntities selection) workspace := by
  have namedAlike := readsLabels_moduleNamed? selection.name
  cases named : workspace.moduleNamed? selection.name with
  | none =>
    constructor
    · intro fuller completes
      simp only [selectedEntities, namedAlike.alike completes.unloadAll_eq, named]
    · simp only [selectedEntities, named]
      exact .error (.missingTarget _)
  | some owner =>
    have foundAlike := readsLabels_domainModelOf? owner
    cases found : workspace.domainModelOf? owner with
    | none =>
      constructor
      · intro fuller completes
        simp only [selectedEntities, namedAlike.alike completes.unloadAll_eq, named,
          foundAlike.alike completes.unloadAll_eq, found]
      · simp only [selectedEntities, named, found]
        exact .error (.missingTarget _)
    | some id =>
      obtain ⟨content, read⟩ := wellFormed.exists_domainModelOf loaded named selects found
      have selected := selectedEntities_eq_ok.mpr ⟨owner, id, content, named, found, read, rfl⟩
      exact .kept selected fun fuller completes => completes.within.selectedEntities selected

/-- The targets of validation are settled by the domain models of the selected modules. They can be
refused only because such a module or its domain model is missing. -/
theorem settled_validationTargets (wellFormed : workspace.WellFormed) {settings : Settings}
    (readable : workspace.Readable settings .validation) :
    Settled (RunKind.Refuses .validation) (·.validationTargets settings.validation) workspace := by
  refine .andThen (.each fun selection listed => ?_) fun groups _ => .given (.ok _)
  have loaded := readable (List.ne_nil_of_mem listed)
  have named : selection.name ∈ settings.validation.modules.map (·.name) :=
    List.mem_map_of_mem listed
  refine settled_selectedEntities wellFormed loaded ?_
  rw [selectsModule, List.contains_iff_mem.mpr named, Bool.or_true]

/-! ## Logging -/

/-- The module for logging is looked up by its name. -/
theorem readsLabels_loggingModule (settings : PageLoggingSettings) :
    ReadsLabels (·.loggingModule settings) := fun _ => rfl

/-- A missing module for logging is reported as a prerequisite, also when no body is loaded. -/
theorem settled_loggingModule (settings : PageLoggingSettings) :
    Settled (RunKind.Refuses .pageLogging) (·.loggingModule settings) workspace := by
  refine .labelled (readsLabels_loggingModule settings) ?_
  rw [loggingModule]
  cases workspace.moduleNamed? settings.loggingModule with
  | none => exact .error (.missingPrerequisite _)
  | some id => exact .ok id

/-- Java actions are looked up by their qualified names, not by what is in them. -/
theorem readsLabels_requireJavaAction (action : String) :
    ReadsLabels (·.requireJavaAction action) := by
  intro workspace
  simp only [requireJavaAction, readsLabels_find? .javaAction action workspace]

/-- A missing Java action is reported as a prerequisite. -/
theorem settled_requireJavaAction (action : String) :
    Settled (RunKind.Refuses .pageLogging) (·.requireJavaAction action) workspace := by
  refine .labelled (readsLabels_requireJavaAction action) ?_
  rw [requireJavaAction]
  cases workspace.find? .javaAction action with
  | none => exact .error (.missingPrerequisite _)
  | some id => exact .ok ()

/-- With all domain models loaded, the same entities are found in a fuller workspace. -/
theorem findEntity?_of_completes (wellFormed : workspace.WellFormed)
    (loaded : workspace.HasBodies .domainModel []) {fuller : Workspace}
    (completes : fuller.Completes workspace) (entity : String) :
    fuller.findEntity? entity = workspace.findEntity? entity := by
  rw [findEntity?, findEntity?]
  cases QualifiedName.split? entity with
  | none => rfl
  | some parts =>
    obtain ⟨moduleName, name⟩ := parts
    simp only [bind, Option.bind,
      (readsLabels_moduleNamed? moduleName).alike completes.unloadAll_eq]
    cases named : workspace.moduleNamed? moduleName with
    | none => rfl
    | some owner =>
      simp only [(readsLabels_domainModelOf? owner).alike completes.unloadAll_eq]
      cases found : workspace.domainModelOf? owner with
      | none => rfl
      | some id =>
        obtain ⟨content, read⟩ := wellFormed.exists_domainModelOf loaded named rfl found
        simp only [read, completes.within.domainModel read]

/-- An entity may belong to any module, so all domain models must be loaded: an entity of one that
is not would be reported as missing. -/
theorem settled_requireEntity (wellFormed : workspace.WellFormed)
    (loaded : workspace.HasBodies .domainModel []) (page entity : String) :
    Settled (RunKind.Refuses .pageLogging) (·.requireEntity page entity) workspace := by
  constructor
  · intro fuller completes
    simp only [requireEntity, findEntity?_of_completes wellFormed loaded completes]
  · rw [requireEntity]
    cases workspace.findEntity? entity with
    | none => exact .error (.missingPrerequisite _)
    | some found => exact .ok ()

/-- The parameter of a page can only be refused because the page is ambiguous. -/
theorem parameter?_refuses (page : Page) (qualified : String) :
    AnswerFailsWithin (RunKind.Refuses .pageLogging) (page.parameter? qualified) := by
  rw [Page.parameter?]
  split
  · exact .ok none
  · split
    · exact .ok none
    · exact .ok _
    · exact .error (.ambiguousPage _ _)

/-- A page that can be read here is read alike in a workspace that contains this one. -/
theorem Within.page {outer : Workspace} (within : workspace.Within outer) {id : DocumentId}
    {content : Page} (read : workspace.page id = .ok content) : outer.page id = .ok content := by
  obtain ⟨body, bodyOf, rest⟩ := bind_eq_ok.mp read
  exact bind_eq_ok.mpr ⟨body, within.body bodyOf, rest⟩

/-- An entity that is found here is found in a workspace that contains this one. The search there
meets the same domain models first, since documents are only added behind them. -/
theorem Within.findEntity? {outer : Workspace} (within : workspace.Within outer) {entity : String}
    {content : Entity} (found : workspace.findEntity? entity = some content) :
    outer.findEntity? entity = some content := by
  obtain ⟨⟨moduleName, name⟩, split, rest⟩ := Option.bind_eq_some_iff.mp found
  obtain ⟨owner, named, rest⟩ := Option.bind_eq_some_iff.mp rest
  obtain ⟨id, holds, rest⟩ := Option.bind_eq_some_iff.mp rest
  obtain ⟨domainModel, read, has⟩ := Option.bind_eq_some_iff.mp rest
  have readAnswer : workspace.domainModel id = .ok domainModel := by
    cases answer : workspace.domainModel id with
    | error failure =>
      rw [answer] at read
      cases read
    | ok other =>
      rw [answer] at read
      exact congrArg Except.ok (Option.some.inj read)
  refine Option.bind_eq_some_iff.mpr ⟨_, split, ?_⟩
  refine Option.bind_eq_some_iff.mpr ⟨_, within.keeps.moduleNamed? named, ?_⟩
  refine Option.bind_eq_some_iff.mpr ⟨_, within.keeps.domainModelOf? holds, ?_⟩
  exact Option.bind_eq_some_iff.mpr ⟨_, by rw [within.domainModel readAnswer]; rfl, has⟩

/-- An entity is required with success exactly if it is found. -/
theorem requireEntity_eq_ok {page entity : String} :
    workspace.requireEntity page entity = .ok () ↔
      ∃ content, workspace.findEntity? entity = some content := by
  rw [requireEntity]
  cases workspace.findEntity? entity <;> simp

/-- What is told of a page: its name and its module, and the parameter its widgets ask for, which has
to exist. The questions are asked one after another, so all of them have been answered. -/
theorem pageTarget_eq_ok {id : DocumentId} {target : PageTarget} :
    workspace.pageTarget id = .ok target ↔
      ∃ found content, workspace.documents[id]? = some found ∧
        workspace.qualifiedName id = .ok target.page ∧ workspace.page id = .ok content ∧
        content.parameter? target.page = .ok target.parameter ∧
        (∀ entity, target.parameter = some entity →
          ∃ known, workspace.findEntity? entity = some known) ∧
        workspace.moduleName found.container = .ok target.moduleName := by
  have located {page : String} {parameter : Option String} : (workspace.document id >>= fun found =>
      workspace.moduleName found.container >>= fun moduleName =>
        pure (PageTarget.mk page moduleName parameter)) = .ok target ↔
      page = target.page ∧ parameter = target.parameter ∧ ∃ found,
        workspace.documents[id]? = some found ∧
          workspace.moduleName found.container = .ok target.moduleName := by
    simp only [bind_eq_ok, document_eq_ok]
    constructor
    · rintro ⟨found, stored, moduleName, named, same⟩
      obtain rfl := Except.ok.inj same
      exact ⟨rfl, rfl, found, stored, named⟩
    · rintro ⟨rfl, rfl, found, stored, named⟩
      exact ⟨found, stored, _, named, rfl⟩
  constructor
  · intro known
    obtain ⟨page, named, rest⟩ := bind_eq_ok.mp known
    obtain ⟨content, read, rest⟩ := bind_eq_ok.mp rest
    obtain ⟨parameter, chosen, rest⟩ := bind_eq_ok.mp rest
    cases parameter with
    | none =>
      obtain ⟨rfl, same, found, stored, inModule⟩ := located.mp rest
      exact ⟨found, content, stored, named, read, same ▸ chosen, same ▸ nofun, inModule⟩
    | some entity =>
      obtain ⟨_, required, rest⟩ := bind_eq_ok.mp rest
      obtain ⟨rfl, same, found, stored, inModule⟩ := located.mp rest
      refine ⟨found, content, stored, named, read, same ▸ chosen, fun other expected => ?_, inModule⟩
      obtain rfl := Option.some.inj (same.trans expected)
      exact requireEntity_eq_ok.mp required
  · rintro ⟨found, content, stored, named, read, chosen, required, inModule⟩
    refine bind_eq_ok.mpr ⟨_, named, bind_eq_ok.mpr ⟨_, read, bind_eq_ok.mpr ⟨_, chosen, ?_⟩⟩⟩
    cases parameter : target.parameter with
    | none => exact located.mpr ⟨rfl, parameter.symm, found, stored, inModule⟩
    | some entity =>
      exact bind_eq_ok.mpr ⟨(), requireEntity_eq_ok.mpr (required entity parameter),
        located.mpr ⟨rfl, parameter.symm, found, stored, inModule⟩⟩

/-- What a logging microflow needs to know is told in every workspace that contains this one. -/
theorem Within.pageTarget {outer : Workspace} (within : workspace.Within outer) {id : DocumentId}
    {target : PageTarget} (known : workspace.pageTarget id = .ok target) :
    outer.pageTarget id = .ok target := by
  obtain ⟨found, content, stored, named, read, chosen, required, inModule⟩ := pageTarget_eq_ok.mp known
  obtain ⟨later, storedLater, label_eq⟩ := within.keeps.documents id found stored
  have container_eq := (Document.label_eq_iff.mp label_eq).2.2
  refine pageTarget_eq_ok.mpr ⟨later, content, storedLater, within.keeps.qualifiedName named,
    within.page read, chosen, fun entity expected => ?_,
    container_eq ▸ within.keeps.moduleName inModule⟩
  obtain ⟨found, isFound⟩ := required entity expected
  exact ⟨found, within.findEntity? isFound⟩

/-- When no page is added, no target of logging is. -/
theorem Within.pageTargets {outer : Workspace} (within : workspace.Within outer)
    (pages : outer.documentsOfKind .page = workspace.documentsOfKind .page)
    {targets : List PageTarget} (found : workspace.pageTargets = .ok targets) :
    outer.pageTargets = .ok targets := by
  rw [Workspace.pageTargets, pages]
  exact mapM_eq_ok.mpr ((mapM_eq_ok.mp found).imp fun _ _ known => within.pageTarget known)

/-- A Java action that is there is not hidden by documents that come later. -/
theorem Keeps.requireJavaAction {outer : Workspace} (keeps : workspace.Keeps outer)
    (rooted : workspace.Rooted) {action : String}
    (required : workspace.requireJavaAction action = .ok ()) :
    outer.requireJavaAction action = .ok () := by
  cases found : workspace.find? .javaAction action with
  | none => simp [Workspace.requireJavaAction, found] at required
  | some id => rw [Workspace.requireJavaAction, keeps.find? rooted found]

/-- Where a document lies is told by labels. -/
theorem readsLabels_located {α : Type} (id : DocumentId) (next : String → Except Failure α) :
    ReadsLabels (fun workspace => workspace.document id >>= fun found =>
      workspace.moduleName found.container >>= next) := by
  intro workspace
  simp only [document_unloadAll, moduleName_unloadAll]
  cases workspace.document id <;> rfl

/-- The target for a page is settled by the page and all domain models. Either of two reasons to
refuse can occur: the page is ambiguous, or its entity does not exist. -/
theorem settled_pageTarget (wellFormed : workspace.WellFormed) {settings : Settings}
    (readable : workspace.Readable settings .pageLogging) {id : DocumentId}
    (isPage : id ∈ workspace.documentsOfKind .page) :
    Settled (RunKind.Refuses .pageLogging) (·.pageTarget id) workspace := by
  obtain ⟨pages, domainModels⟩ := readable
  obtain ⟨found, stored, _⟩ := mem_documentsOfKind.mp isPage
  obtain ⟨name, named⟩ := wellFormed.qualifiedName_of_lt (lt_of_getElem?_eq_some stored)
  obtain ⟨content, read⟩ :=
    wellFormed.exists_page isPage (pages id isPage (wellFormed.isSelected_nil isPage))
  obtain ⟨moduleName, held⟩ := wellFormed.moduleName_of_lt (wellFormed.holder_lt stored)
  have located : ∀ page parameter, Settled (RunKind.Refuses .pageLogging)
      (fun workspace => workspace.document id >>= fun found =>
        workspace.moduleName found.container >>= fun moduleName =>
          pure (PageTarget.mk page moduleName parameter)) workspace := by
    intro page parameter
    refine .labelled (readsLabels_located id _) ?_
    rw [document_eq_ok.mpr stored]
    show AnswerFailsWithin _ (workspace.moduleName found.container >>= _)
    rw [held]
    exact .ok _
  refine .andThen (.labelled (readsLabels_qualifiedName id) (named ▸ .ok name)) fun page _ => ?_
  refine .andThen (.kept read fun fuller completes => completes.within.page read)
    fun content _ => ?_
  refine .andThen (.given (parameter?_refuses content page)) fun parameter _ => ?_
  cases parameter with
  | none => exact located page none
  | some entity =>
    exact .andThen (settled_requireEntity wellFormed domainModels page entity) fun _ _ =>
      located page (some entity)

/-- The targets for all pages are settled, and the first page that is refused refuses them all. -/
theorem settled_pageTargets (wellFormed : workspace.WellFormed) {settings : Settings}
    (readable : workspace.Readable settings .pageLogging) :
    Settled (RunKind.Refuses .pageLogging) pageTargets workspace := by
  have each : Settled (RunKind.Refuses .pageLogging)
      (fun other => (workspace.documentsOfKind .page).mapM other.pageTarget) workspace :=
    .each fun id isPage => settled_pageTarget wellFormed readable isPage
  refine ⟨fun completes => ?_, each.failsWithin⟩
  rw [pageTargets, (readsLabels_documentsOfKind .page).alike completes.unloadAll_eq]
  exact each.alike completes

/-! ## Recoloring -/

/-- A selection never fails, because every document lies in some module. -/
theorem WellFormed.exists_selectedMicroflows (wellFormed : workspace.WellFormed)
    (modules : List String) :
    ∃ selected, workspace.selectedMicroflows modules = .ok selected :=
  wellFormed.inModules modules fun _ ofKind => lt_of_mem_documentsOfKind ofKind

/-- The selection of microflows reads labels only, so recoloring is never refused. -/
theorem settled_selectedMicroflows (wellFormed : workspace.WellFormed) (modules : List String) :
    Settled (RunKind.Refuses .recolor) (·.selectedMicroflows modules) workspace := by
  obtain ⟨selected, answered⟩ := wellFormed.exists_selectedMicroflows modules
  exact .labelled (readsLabels_selectedMicroflows modules) (answered ▸ .ok selected)

/-- The selected microflows are loaded. -/
theorem exists_microflow_of_selected (wellFormed : workspace.WellFormed) {settings : Settings}
    (readable : workspace.Readable settings .recolor) (selected : List DocumentId)
    (chosen : workspace.selectedMicroflows settings.recolor.modules = .ok selected) :
    ∀ id ∈ selected, ∃ content, workspace.microflow id = .ok content := by
  intro id member
  obtain ⟨ofKind, isSelected⟩ := (mem_inModules chosen).mp member
  exact wellFormed.exists_microflow ofKind (readable id ofKind isSelected)

end Workspace

end FlowModel
