import FlowModel.Generation.PageLogging
import FlowModel.Generation.Validation

/-!
# How questions about a workspace fail

A question about a workspace fails only when something it looks up is not there or not
loaded. The questions that generators ask first may also find that a prerequisite is missing
or that a page is ambiguous. No question fails for another reason, whatever the workspace
holds.
-/

namespace FlowModel

/-- Failures of a lookup in a workspace. -/
inductive Failure.IsLookup : Failure → Prop where
  | container (id : Nat) : IsLookup (.unknownContainer id)
  | document (id : Nat) : IsLookup (.unknownDocument id)
  | body (name : String) : IsLookup (.notLoaded name)

/-- Failures of the questions that a generator asks before it changes anything. -/
inductive Failure.IsPrecondition : Failure → Prop where
  | lookup {failure : Failure} (isLookup : failure.IsLookup) : IsPrecondition failure
  | missing (what : String) : IsPrecondition (.missingPrerequisite what)
  | ambiguous (page : String) (entities : List String) :
    IsPrecondition (.ambiguousPageParameter page entities)

/-- All failures of an answer are allowed. -/
def AnswerFailsWithin (allowed : Failure → Prop) {α : Type} (answer : Except Failure α) : Prop :=
  ∀ failure, answer = .error failure → allowed failure

namespace AnswerFailsWithin

variable {allowed wider : Failure → Prop} {α β : Type} {answer : Except Failure α}

/-- An answer is no failure. -/
theorem ok (value : α) : AnswerFailsWithin allowed (.ok value : Except Failure α) := by
  intro failure failed
  exact nomatch failed

/-- A failure is within the allowed ones if it is one of them. -/
theorem error {failure : Failure} (isAllowed : allowed failure) :
    AnswerFailsWithin allowed (.error failure : Except Failure α) := by
  intro found failed
  exact Except.error.inj failed ▸ isAllowed

/-- A chain of questions fails only as one of its links may. -/
theorem andThen {next : α → Except Failure β} (first : AnswerFailsWithin allowed answer)
    (second : ∀ value, AnswerFailsWithin allowed (next value)) :
    AnswerFailsWithin allowed (answer >>= next) := by
  intro failure failed
  cases answer with
  | error found => exact first failure (congrArg Except.error (Except.error.inj failed))
  | ok value => exact second value failure failed

/-- Whoever allows more failures allows these. -/
theorem mono (within : AnswerFailsWithin allowed answer)
    (widens : ∀ failure, allowed failure → wider failure) :
    AnswerFailsWithin wider answer :=
  fun failure failed => widens failure (within failure failed)

/-- Asking one question after another fails as one of them. -/
theorem each {question : α → Except Failure β} (members : List α)
    (one : ∀ member, AnswerFailsWithin allowed (question member)) :
    AnswerFailsWithin allowed (members.mapM question) := by
  induction members with
  | nil => exact ok []
  | cons member later inductionHypothesis =>
    rw [List.mapM_cons]
    exact andThen (one member) fun value => andThen inductionHypothesis fun values =>
      ok (value :: values)

/-- A lookup is a precondition. -/
theorem precondition (within : AnswerFailsWithin Failure.IsLookup answer) :
    AnswerFailsWithin Failure.IsPrecondition answer :=
  within.mono fun _ isLookup => .lookup isLookup

end AnswerFailsWithin

namespace Workspace

open AnswerFailsWithin

variable (workspace : Workspace)

/-! ## Containers -/

/-- A container can only be missing. -/
theorem container_failsWithin (id : ContainerId) :
    AnswerFailsWithin Failure.IsLookup (workspace.container id) := by
  rw [container]
  cases workspace.containers[id]? with
  | none => exact error (.container id)
  | some found => exact ok found

/-- A climb fails only at an unknown container: one that is missing, one at which the bound ends, or
a folder without a parent. -/
theorem climb_failsWithin (atMost : Nat) (id : ContainerId) :
    AnswerFailsWithin Failure.IsLookup (workspace.climb atMost id) := by
  induction atMost generalizing id with
  | zero => exact error (.container id)
  | succ atMost inductionHypothesis =>
    rw [climb]
    apply andThen (workspace.container_failsWithin id)
    intro found
    cases found.kind with
    | module => exact ok id
    | folder =>
      cases found.parent with
      | none => exact error (.container id)
      | some parent => exact inductionHypothesis parent

/-- The name of a module is missing only where a container is. -/
theorem moduleName_failsWithin (id : ContainerId) :
    AnswerFailsWithin Failure.IsLookup (workspace.moduleName id) := by
  apply andThen (workspace.climb_failsWithin _ id)
  intro owner
  exact andThen (workspace.container_failsWithin owner) fun found => ok found.name

/-- A folder can only fail to be created in a container that is missing. -/
theorem ensureFolder_failsWithin (parent : ContainerId) (name : String) :
    AnswerFailsWithin Failure.IsLookup (workspace.ensureFolder parent name) := by
  rw [ensureFolder]
  cases workspace.childFolder? parent name with
  | some found => exact ok _
  | none =>
    apply andThen
    · exact andThen (workspace.container_failsWithin parent) fun _ => ok _
    · intro created
      exact ok _

/-- A path fails only at an unknown container. -/
theorem path_failsWithin (id : ContainerId) :
    AnswerFailsWithin Failure.IsLookup (workspace.path id) := by
  rw [path]
  generalize workspace.containers.length = atMost
  induction atMost generalizing id with
  | zero => exact error (.container id)
  | succ atMost inductionHypothesis =>
    rw [pathWithin]
    apply andThen (workspace.container_failsWithin id)
    intro found
    cases found.parent with
    | none => exact ok found.name
    | some parent => exact andThen (inductionHypothesis parent) fun _ => ok _

/-! ## Documents -/

/-- A document can only be missing. -/
theorem document_failsWithin (id : DocumentId) :
    AnswerFailsWithin Failure.IsLookup (workspace.document id) := by
  rw [document]
  cases workspace.documents[id]? with
  | none => exact error (.document id)
  | some found => exact ok found

/-- A qualified name fails only where the document or a container above it is missing. -/
theorem qualifiedName_failsWithin (id : DocumentId) :
    AnswerFailsWithin Failure.IsLookup (workspace.qualifiedName id) := by
  apply andThen (workspace.document_failsWithin id)
  intro found
  exact andThen (workspace.moduleName_failsWithin found.container) fun _ => ok _

/-- A document can only fail to be created in a container that is missing. -/
theorem createDocument_failsWithin (holder : ContainerId) (body : DocumentBody) :
    AnswerFailsWithin Failure.IsLookup (workspace.createDocument holder body) :=
  andThen (workspace.container_failsWithin holder) fun _ => ok _

/-- A body can be missing with its document or because it is not loaded. -/
theorem body_failsWithin (id : DocumentId) :
    AnswerFailsWithin Failure.IsLookup (workspace.body id) := by
  apply andThen (workspace.document_failsWithin id)
  intro found
  cases found.body with
  | none => exact error (.body found.name)
  | some body => exact ok body

/-- Reading a domain model fails like reading a body, or because the document is of another kind. -/
theorem domainModel_failsWithin (id : DocumentId) :
    AnswerFailsWithin Failure.IsLookup (workspace.domainModel id) := by
  apply andThen (workspace.body_failsWithin id)
  intro body
  cases body with
  | domainModel content => exact ok content
  | _ => exact error (.document id)

/-- Reading a page fails like reading a body, or because the document is of another kind. -/
theorem page_failsWithin (id : DocumentId) :
    AnswerFailsWithin Failure.IsLookup (workspace.page id) := by
  apply andThen (workspace.body_failsWithin id)
  intro body
  cases body with
  | page content => exact ok content
  | _ => exact error (.document id)

/-! ## Preconditions of generators -/

/-- The entities of a module are missing with the module or its domain model, which are
preconditions of a run, or because of what a lookup misses. -/
theorem selectedEntities_failsWithin (selection : ModuleSelection) :
    AnswerFailsWithin Failure.IsPrecondition (workspace.selectedEntities selection) := by
  rw [selectedEntities]
  cases workspace.moduleNamed? selection.name with
  | none => exact error (.missing _)
  | some owner =>
    dsimp only
    cases workspace.domainModelOf? owner with
    | none => exact error (.missing _)
    | some id => exact andThen (workspace.domainModel_failsWithin id).precondition fun _ => ok _

/-- A run of all selections fails as one of them does. -/
theorem validationTargets_failsWithin (settings : ValidationSettings) :
    AnswerFailsWithin Failure.IsPrecondition (workspace.validationTargets settings) :=
  andThen (each settings.modules workspace.selectedEntities_failsWithin) fun _ => ok _

/-- The module for logging microflows can only be missing. -/
theorem loggingModule_failsWithin (settings : PageLoggingSettings) :
    AnswerFailsWithin Failure.IsPrecondition (workspace.loggingModule settings) := by
  rw [loggingModule]
  cases workspace.moduleNamed? settings.loggingModule with
  | none => exact error (.missing _)
  | some id => exact ok id

/-- A Java action that is asked for can only be missing. -/
theorem requireJavaAction_failsWithin (action : String) :
    AnswerFailsWithin Failure.IsPrecondition (workspace.requireJavaAction action) := by
  rw [requireJavaAction]
  cases workspace.find? .javaAction action with
  | none => exact error (.missing _)
  | some _ => exact ok ()

/-- The entity that a page expects can only be missing. -/
theorem requireEntity_failsWithin (page entity : String) :
    AnswerFailsWithin Failure.IsPrecondition (workspace.requireEntity page entity) := by
  rw [requireEntity]
  cases workspace.findEntity? entity with
  | none => exact error (.missing _)
  | some _ => exact ok ()

/-- A page has one parameter at most, or it is ambiguous. -/
theorem parameter?_failsWithin (page : Page) (qualified : String) :
    AnswerFailsWithin Failure.IsPrecondition (page.parameter? qualified) := by
  rw [Page.parameter?]
  by_cases excluded : page.excluded = true
  · rw [if_pos excluded]
    exact ok none
  · rw [if_neg excluded]
    split
    · exact ok none
    · exact ok _
    · exact error (.ambiguous _ _)

/-- A page is no target if something that it needs is missing or its data views name more than one
entity. -/
theorem pageTarget_failsWithin (id : DocumentId) :
    AnswerFailsWithin Failure.IsPrecondition (workspace.pageTarget id) := by
  apply andThen (workspace.qualifiedName_failsWithin id).precondition
  intro page
  apply andThen (workspace.page_failsWithin id).precondition
  intro content
  apply andThen (parameter?_failsWithin content page)
  intro parameter
  have located : AnswerFailsWithin Failure.IsPrecondition (do
      let moduleName ← workspace.moduleName (← workspace.document id).container
      return PageTarget.mk page moduleName parameter) := by
    apply andThen (workspace.document_failsWithin id).precondition
    intro found
    exact andThen (workspace.moduleName_failsWithin found.container).precondition fun _ => ok _
  cases parameter with
  | none => exact located
  | some entity => exact andThen (workspace.requireEntity_failsWithin page entity) fun _ => located

/-- All pages together fail as one of them does. -/
theorem pageTargets_failsWithin : AnswerFailsWithin Failure.IsPrecondition workspace.pageTargets :=
  each _ workspace.pageTarget_failsWithin

end Workspace

end FlowModel
