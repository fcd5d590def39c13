import FlowModel.Proofs.Generation.Creation
import FlowModel.Proofs.Generation.Recoloring
import FlowModel.Proofs.Workspace.Readings
import FlowModel.Service

/-!
# What generators do not notice

A generator reads labels, and before its first change it reads some bodies. So it does not notice
bodies beside those, and it never looks at the revision in its report. A disguise is such a change
of workspaces and reports: whatever a generator does may come before or after it
(`indifferent_generator`). There are two of them. Completing a workspace from a source shows that
a generator does on a workspace whose other bodies are missing what it does on the full one
(`Disguise.completion`), and forgetting the revision shows that a generator gives none
(`Disguise.forgetting`).
-/

namespace FlowModel

/-- A change of reports that has nothing to do with the revision. -/
def Report.SparesRevision (change : Report → Report) : Prop :=
  ∀ report : Report, change { report with revision := none } =
    { change report with revision := none }

/-- A change of workspaces and reports that can be made before or after whatever a generator
does. -/
structure Disguise where
  workspace : Workspace → Workspace
  report : Report → Report
  completes : ∀ before, (workspace before).Completes before
  pushContainer : ∀ before added,
    workspace (before.pushContainer added) = (workspace before).pushContainer added
  pushDocument : ∀ before holder body,
    workspace (before.pushDocument holder body) = (workspace before).pushDocument holder body
  replaceMicroflow : ∀ before id content,
    workspace (before.replaceMicroflow id content) = (workspace before).replaceMicroflow id content
  noted : ∀ change, Report.SparesRevision change → ∀ before,
    report (change before) = change (report before)

namespace Disguise

/-- Bodies that are missing are taken from a source. -/
def completion (source : Workspace) : Disguise where
  workspace before := before.completedFrom source
  report before := before
  completes before := (before.completedFrom_fills source).completes
  pushContainer before added := before.completedFrom_pushContainer source added
  pushDocument before holder body := before.completedFrom_pushDocument source holder body
  replaceMicroflow before id content := before.completedFrom_replaceMicroflow source id content
  noted _ _ _ := rfl

/-- The report forgets its revision. -/
def forgetting : Disguise where
  workspace before := before
  report before := { before with revision := none }
  completes before := .refl before
  pushContainer _ _ := rfl
  pushDocument _ _ _ := rfl
  replaceMicroflow _ _ _ := rfl
  noted _ spares before := (spares before).symm

/-- The work in disguise. -/
def apply (disguise : Disguise) (work : Work) : Work :=
  ⟨disguise.workspace work.workspace, disguise.report work.report⟩

/-- The outcome of a step in disguise. -/
def outcome {α : Type} (disguise : Disguise) :
    EStateM.Result Failure Work α → EStateM.Result Failure Work α
  | .ok value after => .ok value (disguise.apply after)
  | .error failure after => .error failure (disguise.apply after)

/-- No question about labels sees through a disguise, because disguises change bodies only. -/
theorem alike (disguise : Disguise) {α : Type} {question : Workspace → α}
    (reads : Workspace.ReadsLabels question) (before : Workspace) :
    question (disguise.workspace before) = question before :=
  reads.alike (disguise.completes before).unloadAll_eq

end Disguise

namespace Generation

/-! ## Indifferent steps -/

/-- On the work in disguise a step does what it does on the work, in disguise. -/
def Indifferent (disguise : Disguise) {α : Type} (step : Generation α) (work : Work) : Prop :=
  step.run (disguise.apply work) = disguise.outcome (step.run work)

namespace Indifferent

variable {disguise : Disguise} {α β : Type} {step : Generation α} {work : Work}

/-- An answer that is known shows nothing of the work. -/
theorem value (value : α) : Indifferent disguise (pure value) work := rfl

/-- So does a failure. -/
theorem fail (failure : Failure) : Indifferent disguise (throw failure : Generation α) work := rfl

/-- A first step whose answer is the same in disguise leads to the same second step. That one needs
to be indifferent only where the first has led. -/
theorem andThen {next : α → Generation β} (first : Indifferent disguise step work)
    (rest : ∀ value after, step.run work = .ok value after →
      Indifferent disguise (next value) after) :
    Indifferent disguise (step >>= next) work := by
  rw [Indifferent, EStateM.run_bind, EStateM.run_bind, first]
  cases ran : step.run work with
  | ok value after => exact rest value after ran
  | error failure after => rfl

/-- Looking at the work, when the disguise makes no difference to what comes after. -/
theorem lookThen {next : Work → Generation β} (alike : next (disguise.apply work) = next work)
    (rest : Indifferent disguise (next work) work) :
    Indifferent disguise (get >>= next) work := by
  show (next (disguise.apply work)).run (disguise.apply work) = _
  rw [alike]
  exact rest

/-- A question that is answered alike. -/
theorem asked {question : Workspace → Except Failure α}
    (alike : question (disguise.workspace work.workspace) = question work.workspace) :
    Indifferent disguise (ask question) work := by
  refine lookThen ?_ ?_
  · simp only [Disguise.apply, alike]
  · cases question work.workspace with
    | ok answer => exact value answer
    | error failure => exact fail failure

/-- A question that is answered alike leaves the work as it is. -/
theorem askThen {question : Workspace → Except Failure α} {next : α → Generation β}
    (alike : question (disguise.workspace work.workspace) = question work.workspace)
    (rest : ∀ value, question work.workspace = .ok value → Indifferent disguise (next value) work) :
    Indifferent disguise (ask question >>= next) work := by
  refine andThen (asked alike) fun value after ran => ?_
  cases answered : question work.workspace with
  | ok answer =>
    obtain ⟨rfl, rfl⟩ := EStateM.Result.ok.inj ((run_ask_of_ok answered).symm.trans ran)
    exact rest answer answered
  | error failure => exact nomatch (run_ask_of_error answered).symm.trans ran

/-- Questions about labels may be asked at any time. -/
theorem askedLabels {question : Workspace → Except Failure α}
    (reads : Workspace.ReadsLabels question) : Indifferent disguise (ask question) work :=
  asked (disguise.alike reads work.workspace)

/-- A change of the work must itself commute with the disguise. -/
theorem modified {change : Work → Work}
    (commutes : change (disguise.apply work) = disguise.apply (change work)) :
    Indifferent disguise (modify change) work := by
  rw [Indifferent, EStateM.run_modify, EStateM.run_modify, commutes]
  rfl

/-- A note may be made if it spares the revision, which is what a report may forget. -/
theorem noted {change : Report → Report} (spares : Report.SparesRevision change) :
    Indifferent disguise (note change) work :=
  modified (congrArg (Work.mk _) (disguise.noted change spares work.report).symm)

/-- Each of the steps is indifferent where the steps before it lead. -/
theorem each {visit : α → Generation PUnit} {invariant : Work → Prop} {members : List α}
    (steps : ∀ member ∈ members, ∀ between, invariant between →
      Indifferent disguise (visit member) between ∧
        Ends (visit member) between (fun _ after => invariant after) fun _ _ => True)
    (starts : invariant work) : Indifferent disguise (members.forM visit) work := by
  induction members generalizing work with
  | nil => exact value _
  | cons member later inductionHypothesis =>
    obtain ⟨first, ends⟩ := steps member List.mem_cons_self work starts
    refine andThen first fun _ after ran => ?_
    exact inductionHypothesis (fun other inside => steps other (List.mem_cons_of_mem _ inside))
      (ends.of_ok ran)

/-- Each of the steps is indifferent wherever it works. -/
theorem eachAlways {visit : α → Generation PUnit} {members : List α}
    (steps : ∀ member ∈ members, ∀ between, Indifferent disguise (visit member) between) :
    Indifferent disguise (members.forM visit) work := by
  have ending : ∀ member ∈ members, ∀ between, True →
      Indifferent disguise (visit member) between ∧
        Ends (visit member) between (fun _ _ => True) fun _ _ => True :=
    fun member inside between _ => ⟨steps member inside between, .always _ _⟩
  exact each ending trivial

end Indifferent

/-! ## Folders and microflows -/

/-- A folder is looked for by its labels, and appended when there is none. -/
theorem ensureFolder_eq (parent : ContainerId) (name : String) :
    ensureFolder parent name = (do
      match (← get).workspace.childFolder? parent name with
      | some found => return found
      | none => do
        let _ ← ask fun workspace => workspace.container parent
        let created := (← get).workspace.containers.length
        modify fun work =>
          { work with workspace := work.workspace.pushContainer ⟨name, .folder, some parent⟩ }
        let path ← ask fun workspace => workspace.path created
        note fun report => report.addFolder path
        return created) := by
  apply EStateM.ext
  intro work
  cases present : work.workspace.childFolder? parent name with
  | some found =>
    rw [ensureFolder, EStateM.run_bind,
      run_ask_of_ok (Workspace.ensureFolder_of_present present), EStateM.run_bind, run_get]
    simp only [present]
    rfl
  | none =>
    rw [EStateM.run_bind, run_get]
    simp only [present]
    cases stored : work.workspace.container parent with
    | error failure =>
      have refused : work.workspace.ensureFolder parent name = .error failure := by
        rw [Workspace.ensureFolder, present, Workspace.createFolder, stored]
        rfl
      rw [ensureFolder, run_ask_bind_of_error refused, run_ask_bind_of_error stored]
    | ok found =>
      rw [ensureFolder, run_ask_bind_of_ok (Workspace.ensureFolder_of_absent present stored),
        run_ask_bind_of_ok stored]
      rfl

/-- A microflow without violations is appended and gets its name from labels. -/
theorem insertMicroflow_eq {content : Microflow} (sound : content.violations = [])
    (holder : ContainerId) :
    insertMicroflow holder content = (do
      let _ ← ask fun workspace => workspace.container holder
      let created := (← get).workspace.documents.length
      modify fun work =>
        { work with workspace := work.workspace.pushDocument holder (.microflow content) }
      let name ← ask fun workspace => workspace.qualifiedName created
      note fun report =>
        { report.addMicroflow name with createdNodes := report.createdNodes + content.nodes.length }
      return created) := by
  apply EStateM.ext
  intro work
  rw [insertMicroflow, sound]
  show (ask (fun workspace =>
    workspace.createDocument holder (.microflow content)) >>= _).run work = _
  cases stored : work.workspace.container holder with
  | error failure =>
    have refused : work.workspace.createDocument holder (.microflow content) = .error failure := by
      rw [Workspace.createDocument, stored]
      rfl
    rw [run_ask_bind_of_error refused, run_ask_bind_of_error stored]
  | ok found =>
    rw [run_ask_bind_of_ok (Workspace.createDocument_of_stored stored _),
      run_ask_bind_of_ok stored]
    rfl

variable {disguise : Disguise} {work : Work}

/-- The guard looks at labels, and what it notes is no revision. -/
theorem indifferent_isAbsent (kind : DocumentKind) (qualified : String) :
    Indifferent disguise (isAbsent kind qualified) work := by
  refine .lookThen ?_ ?_
  · simp only [Disguise.apply, disguise.alike (Workspace.readsLabels_find? kind qualified)]
  · cases work.workspace.find? kind qualified with
    | none => exact .value true
    | some id =>
      exact .andThen (.noted fun _ => rfl) fun _ _ _ => .value false

/-- A folder is looked for and created among containers, which no disguise touches. -/
theorem indifferent_ensureFolder (parent : ContainerId) (name : String) :
    Indifferent disguise (ensureFolder parent name) work := by
  rw [ensureFolder_eq]
  refine .lookThen ?_ ?_
  · simp only [Disguise.apply, disguise.alike (Workspace.readsLabels_childFolder? parent name)]
  cases work.workspace.childFolder? parent name with
  | some found => exact .value found
  | none =>
    refine .andThen (.askedLabels (Workspace.readsLabels_container parent)) fun _ between _ => ?_
    refine .lookThen ?_ ?_
    · simp only [Disguise.apply, disguise.alike Workspace.readsLabels_containers]
    refine .andThen (.modified ?_) fun _ between _ => ?_
    · simp only [Disguise.apply, disguise.pushContainer]
    refine .andThen (.askedLabels (Workspace.readsLabels_path _)) fun path _ _ => ?_
    exact .andThen (.noted fun _ => rfl) fun _ _ _ => .value _

/-- A sound microflow is inserted without a look at other bodies. An unsound one would fail with the
same failure, but none is drawn. -/
theorem indifferent_insertMicroflow {content : Microflow} (sound : content.violations = [])
    (holder : ContainerId) : Indifferent disguise (insertMicroflow holder content) work := by
  rw [insertMicroflow_eq sound]
  refine .andThen (.askedLabels (Workspace.readsLabels_container holder)) fun _ between _ => ?_
  refine .lookThen ?_ ?_
  · simp only [Disguise.apply, disguise.alike Workspace.readsLabels_numberOfDocuments]
  refine .andThen (.modified ?_) fun _ between _ => ?_
  · simp only [Disguise.apply, disguise.pushDocument]
  refine .andThen (.askedLabels (Workspace.readsLabels_qualifiedName _)) fun name _ _ => ?_
  exact .andThen (.noted fun _ => rfl) fun _ _ _ => .value _

/-! ## Generators -/

/-- Any number of skips may be noted. -/
theorem sparesRevision_skips {α : Type} (members : List α) (subject : α → String)
    (reason : α → SkipReason) :
    Report.SparesRevision fun report =>
      members.foldl (fun report member => report.skip (subject member) (reason member)) report := by
  intro report
  simp only [foldl_skip, Report.skipAll]

/-- The microflow of an entity is drawn from the target, not from the workspace, so nothing is read
between the targets and the last note. -/
theorem indifferent_validateEntity (settings : ValidationSettings) (target : ValidationTarget) :
    Indifferent disguise (validateEntity settings target) work := by
  refine .andThen (indifferent_isAbsent _ _) fun absent between _ => ?_
  cases absent with
  | false => exact .value ()
  | true =>
    rw [if_pos rfl]
    cases drawn : validationMicroflow? target.entity target.moduleName settings with
    | none => exact .fail _
    | some result =>
      obtain ⟨content, leftOut⟩ := result
      have sound := (sound_of_validationMicroflow? drawn).1
      refine .andThen (.noted (sparesRevision_skips leftOut _ _)) fun _ between _ => ?_
      refine .andThen (indifferent_ensureFolder _ _) fun folder between _ => ?_
      exact .andThen (indifferent_insertMicroflow sound folder) fun _ _ _ => .value ()

/-- The folder for a page is searched by names. -/
theorem indifferent_pageFolder (logging : ContainerId) (moduleName : String)
    (settings : PageLoggingSettings) :
    Indifferent disguise (pageFolder logging moduleName settings) work := by
  have found := disguise.alike (Workspace.readsLabels_findFolder? logging moduleName)
  refine .lookThen (by simp only [Disguise.apply, found]) ?_
  cases work.workspace.findFolder? logging moduleName with
  | some folder => exact .value folder
  | none =>
    exact .andThen (indifferent_ensureFolder _ _) fun base between _ =>
      indifferent_ensureFolder base moduleName

/-- The microflow of a page is drawn from the target alone, like that of an entity. -/
theorem indifferent_logPage (settings : PageLoggingSettings) (logging : ContainerId)
    (target : PageTarget) : Indifferent disguise (logPage settings logging target) work := by
  refine .andThen (indifferent_isAbsent _ _) fun absent between _ => ?_
  cases absent with
  | false => exact .value ()
  | true =>
    refine .andThen (indifferent_pageFolder logging target.moduleName settings) fun folder _ _ => ?_
    have sound : (pageLoggingPlan target.page target.parameter settings).violations = [] :=
      violations_pageLoggingPlan _ _ _
    simp only [pageLoggingMicroflow?_eq]
    exact .andThen (indifferent_insertMicroflow sound folder) fun _ _ _ => .value ()

/-- Recoloring reads the microflow that it changes. If that one is there it is the same in disguise,
since a completion fills only what is missing. -/
theorem indifferent_recolorMicroflow {id : DocumentId} {content : Microflow}
    (read : work.workspace.microflow id = .ok content) :
    Indifferent disguise (recolorMicroflow id) work := by
  have readAlike := (disguise.completes work.workspace).within.microflow read
  refine .andThen (.asked (readAlike.trans read.symm)) fun content between _ => ?_
  refine .andThen (.modified ?_) fun _ _ _ => ?_
  · simp only [Disguise.apply, disguise.replaceMicroflow]
  by_cases wrong : 0 < content.miscolored
  · rw [if_pos wrong]
    refine .andThen (.askedLabels (Workspace.readsLabels_qualifiedName id)) fun _ _ _ => ?_
    exact .noted fun _ => rfl
  · rw [if_neg wrong]
    exact .value ()

/-- Of a document whose body is not looked at only the label is needed. -/
theorem ask_document_eq {β : Type} (id : DocumentId) {next : Document → Generation β}
    (forgets : ∀ found, next found.label = next found) :
    (ask (fun workspace => workspace.document id) >>= next) =
      ask (fun workspace => (workspace.document id).map Document.label) >>= next := by
  apply EStateM.ext
  intro work
  cases stored : work.workspace.document id with
  | error failure =>
    have missing : (work.workspace.document id).map Document.label = .error failure := by
      rw [stored]
      rfl
    rw [run_ask_bind_of_error stored, run_ask_bind_of_error missing]
  | ok found =>
    have labelled : (work.workspace.document id).map Document.label = .ok found.label := by
      rw [stored]
      rfl
    rw [run_ask_bind_of_ok stored, run_ask_bind_of_ok labelled]
    simp only [forgets]

/-- An audit looks at names, which are in the labels. -/
theorem indifferent_auditMicroflow (settings : NamingSettings) (id : DocumentId) :
    Indifferent disguise (auditMicroflow settings id) work := by
  rw [auditMicroflow, ask_document_eq id fun _ => rfl]
  have reads : Workspace.ReadsLabels fun workspace =>
      (workspace.document id).map Document.label := by
    intro workspace
    simp only [Workspace.document_unloadAll]
    cases workspace.document id <;> rfl
  refine .andThen (.askedLabels reads) fun found between _ => ?_
  refine .andThen (.askedLabels (Workspace.readsLabels_moduleName _)) fun moduleName _ _ => ?_
  by_cases wrong : (settings.modules.contains moduleName && !settings.allows found.name) = true
  · rw [if_pos wrong]
    refine .andThen (.askedLabels (Workspace.readsLabels_qualifiedName id)) fun qualified _ _ => ?_
    exact .noted fun _ => rfl
  · rw [if_neg wrong]
    exact .value _

/-- A generator does not notice a disguise when the bodies that it reads are there. -/
theorem indifferent_generator (wellFormed : work.workspace.WellFormed) {settings : Settings}
    {kind : RunKind} (readable : work.workspace.Readable settings kind) :
    Indifferent disguise (Service.generator settings kind) work := by
  have completes := disguise.completes work.workspace
  cases kind with
  | validation =>
    have targets := Workspace.settled_validationTargets wellFormed readable
    refine .askThen (targets.alike completes) fun targets _ => ?_
    exact .eachAlways fun target _ _ => indifferent_validateEntity settings.validation target
  | pageLogging =>
    have required := fun action => (Workspace.settled_requireJavaAction action).alike completes
    refine .askThen ((Workspace.settled_loggingModule _).alike completes) fun logging _ => ?_
    refine .askThen (required settings.pageLogging.addressAction) fun _ _ => ?_
    refine .askThen (required settings.pageLogging.browserAction) fun _ _ => ?_
    have targets := Workspace.settled_pageTargets wellFormed readable
    refine .askThen (targets.alike completes) fun targets _ => ?_
    exact .eachAlways fun target _ _ => indifferent_logPage settings.pageLogging logging target
  | recolor =>
    have selected := Workspace.settled_selectedMicroflows wellFormed settings.recolor.modules
    refine .askThen (selected.alike completes) fun selected chosen => ?_
    -- The microflows that are still to come stay loaded, because repainting drops no body.
    refine .each (fun id member between repainted => ?_) (Repainted.refl work)
    have loaded := Workspace.exists_microflow_of_selected wellFormed readable selected chosen
    obtain ⟨content, read⟩ := loaded id member
    obtain ⟨later, readLater, _⟩ := repainted.repaints.microflow read
    obtain ⟨qualified, named⟩ := Workspace.exists_qualifiedName_of_selected chosen member
    have namedLater := ((Workspace.readsLabels_qualifiedName id).alike
      repainted.repaints.unloadAll_eq).trans named
    refine ⟨indifferent_recolorMicroflow readLater, ?_⟩
    exact (recolorMicroflow_ends readLater namedLater).weaken.onDone fun _ after painted =>
      repainted.trans painted.1
  | namingAudit =>
    refine .lookThen ?_ ?_
    · simp only [Disguise.apply, disguise.alike (Workspace.readsLabels_documentsOfKind .microflow)]
    · exact .eachAlways fun id _ _ => indifferent_auditMicroflow settings.naming id

end Generation

end FlowModel
