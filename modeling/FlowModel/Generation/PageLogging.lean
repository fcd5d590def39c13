import FlowModel.Drawing.PageLoggingMicroflow
import FlowModel.Generation.Basic
import FlowModel.Project.PageParameter

/-!
# Generating logging microflows

Every page of a project gets a logging microflow in the logging module, unless a microflow of that name exists.
The microflows for the pages of one module go into a folder named after it. The logging module, the Java actions,
the parameters of all pages and the entities they name are looked up before anything is created.
-/

namespace FlowModel

/-- A page that gets a logging microflow, the module it lies in and the entity it expects. -/
structure PageTarget where
  page : String
  moduleName : String
  parameter : Option String
deriving DecidableEq, Repr, Inhabited

namespace Workspace

/-- The logging module. -/
def loggingModule (workspace : Workspace) (settings : PageLoggingSettings) : Except Failure ContainerId :=
  match workspace.moduleNamed? settings.loggingModule with
  | some id => .ok id
  | none => .error (.missingPrerequisite ("logging module '" ++ settings.loggingModule ++ "'"))

/-- Make sure that a Java action exists. -/
def requireJavaAction (workspace : Workspace) (action : String) : Except Failure Unit :=
  match workspace.find? .javaAction action with
  | some _ => .ok ()
  | none => .error (.missingPrerequisite ("Java action '" ++ action ++ "'"))

/-- Make sure that the entity a page expects exists. -/
def requireEntity (workspace : Workspace) (page entity : String) : Except Failure Unit :=
  match workspace.findEntity? entity with
  | some _ => .ok ()
  | none =>
    .error (.missingPrerequisite ("entity '" ++ entity ++ "' used as parameter of page '" ++ page ++ "'"))

/-- What the logging microflow of a page needs to know about it. -/
def pageTarget (workspace : Workspace) (id : DocumentId) : Except Failure PageTarget := do
  let page ← workspace.qualifiedName id
  let parameter ← (← workspace.page id).parameter? page
  match parameter with
  | some entity => workspace.requireEntity page entity
  | none => pure ()
  let moduleName ← workspace.moduleName (← workspace.document id).container
  return ⟨page, moduleName, parameter⟩

/-- The pages that get logging microflows, in order. -/
def pageTargets (workspace : Workspace) : Except Failure (List PageTarget) :=
  (workspace.documentsOfKind .page).mapM workspace.pageTarget

end Workspace

namespace Generation

/-- The folder for the pages of a module: the first folder of that name anywhere in the logging module, or a new
one in the folder for logging. -/
def pageFolder (logging : ContainerId) (moduleName : String) (settings : PageLoggingSettings) :
    Generation ContainerId := do
  match (← get).workspace.findFolder? logging moduleName with
  | some folder => return folder
  | none => do
    let base ← ensureFolder logging settings.folderName
    ensureFolder base moduleName

/-- Create the logging microflow of a page, unless its name is taken. -/
def logPage (settings : PageLoggingSettings) (logging : ContainerId) (target : PageTarget) : Generation Unit := do
  let name := settings.microflowName target.page
  if ← isAbsent .microflow (QualifiedName.qualified settings.loggingModule name) then
    let folder ← pageFolder logging target.moduleName settings
    match pageLoggingMicroflow? target.page target.parameter settings with
    | none => throw .outOfRange
    | some content => do
      let _ ← insertMicroflow folder content

/-- Create logging microflows for the pages that have none. -/
def generatePageLogging (settings : PageLoggingSettings) : Generation Unit := do
  let logging ← ask fun workspace => workspace.loggingModule settings
  ask fun workspace => workspace.requireJavaAction settings.addressAction
  ask fun workspace => workspace.requireJavaAction settings.browserAction
  let targets ← ask Workspace.pageTargets
  targets.forM (logPage settings logging)

end Generation

end FlowModel
