import FlowModel.Generation.NamingAudit
import FlowModel.Generation.PageLogging
import FlowModel.Generation.Recoloring
import FlowModel.Generation.Validation
import FlowModel.Project.Json
import FlowModel.Settings.Toml
import FlowModel.Workspace.Snapshot

/-!
# Running a generator on a snapshot

A service takes the snapshot of a project and settings as texts, runs one generator on the fully loaded workspace and
gives the report with the microflows that were created or recolored. Settings are read before the snapshot.
-/

namespace FlowModel.Service

/-- The generator of a kind of run. -/
def generator (settings : Settings) : RunKind → Generation Unit
  | .validation => Generation.generateValidation settings.validation
  | .pageLogging => Generation.generatePageLogging settings.pageLogging
  | .recolor => Generation.recolorMicroflows settings.recolor
  | .namingAudit => Generation.auditNaming settings.naming

/-- The microflows of created documents, found again by their qualified names. -/
def createdMicroflows (workspace : Workspace) (names : List String) : Except Failure (List Microflow) :=
  (names.filterMap (workspace.find? .microflow)).mapM workspace.microflow

/-- The microflows that a finished run is about. -/
def touchedMicroflows (kind : RunKind) (settings : Settings) (work : Work) : Except Failure (List Microflow) :=
  match kind with
  | .recolor => do
    (← work.workspace.selectedMicroflows settings.recolor.modules).mapM work.workspace.microflow
  | .validation | .pageLogging | .namingAudit => createdMicroflows work.workspace work.report.createdMicroflows

/-- Run a generator on a workspace, and give what it did with the workspace it leaves. -/
def runOn (kind : RunKind) (settings : Settings) (workspace : Workspace) :
    Except Failure (Work × List Microflow) := do
  match (generator settings kind).run ⟨workspace, .empty kind⟩ with
  | .error failure _ => throw failure
  | .ok () work => return (work, ← touchedMicroflows kind settings work)

/-- The settings in a text. -/
def readSettings (content : String) : Except Failure Settings :=
  (Settings.ofText content).mapError .settings

/-- The project in a text. -/
def readProject (content : String) : Except Failure Project :=
  match Project.ofText? content with
  | some project => .ok project
  | none => .error .malformedSnapshot

/-- Run a generator on the snapshot of a project. -/
def run (kind : RunKind) (snapshot settings : String) : Except Failure (Report × List Microflow) := do
  let settings ← readSettings settings
  let project ← readProject snapshot
  let (work, microflows) ← runOn kind settings (.ofProject project)
  return (work.report, microflows)

end FlowModel.Service
