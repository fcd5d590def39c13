import FlowModel.Microflow.Violation
import FlowModel.Report.Basic
import FlowModel.Workspace.Basic

/-!
# Generation

A generator works on a workspace and a report at once. When it fails, what it has done so far stays done, so
generators check everything they rely on before they change anything.
-/

namespace FlowModel

/-- A workspace and the report of what is done to it. -/
structure Work where
  workspace : Workspace
  report : Report
deriving Repr, Inhabited

/-- A step of a generator. -/
abbrev Generation (α : Type) := EStateM Failure Work α

namespace Generation

/-- Answer a question about the workspace, or fail as it fails. -/
def ask {α : Type} (question : Workspace → Except Failure α) : Generation α := do
  match question (← get).workspace with
  | .ok answer => return answer
  | .error failure => throw failure

/-- Change the workspace. -/
def setWorkspace (workspace : Workspace) : Generation Unit := modify fun work => { work with workspace }

/-- Change the report. -/
def note (change : Report → Report) : Generation Unit :=
  modify fun work => { work with report := change work.report }

/-- Whether no document of a kind has a qualified name. A name that is taken is noted. Only names are compared, so
a document counts as present whatever it holds. -/
def isAbsent (kind : DocumentKind) (qualified : String) : Generation Bool := do
  match (← get).workspace.find? kind qualified with
  | none => return true
  | some _ => do
    note fun report => report.skip qualified .nameCollision
    return false

/-- The folder with a name directly in a container, created and noted if there is none. -/
def ensureFolder (parent : ContainerId) (name : String) : Generation ContainerId := do
  let (id, created, workspace) ← ask fun workspace => workspace.ensureFolder parent name
  setWorkspace workspace
  if created then
    let path ← ask fun workspace => workspace.path id
    note fun report => report.addFolder path
  return id

/-- Create a microflow in a container and note it, provided that it breaks no structural rule. -/
def insertMicroflow (holder : ContainerId) (content : Microflow) : Generation DocumentId := do
  unless content.violations.isEmpty do
    throw (.invalidGraph content.name content.violations)
  let (id, workspace) ← ask fun workspace => workspace.createDocument holder (.microflow content)
  setWorkspace workspace
  let name ← ask fun workspace => workspace.qualifiedName id
  note fun report =>
    { report.addMicroflow name with createdNodes := report.createdNodes + content.nodes.length }
  return id

end Generation

end FlowModel
