import FlowModel.Generation.Basic
import FlowModel.Microflow.Coloring
import FlowModel.Settings.Basic

/-!
# Recoloring microflows

All activities of the microflows in the selected modules get the colors of their actions.
-/

namespace FlowModel

/-- Whether a list of modules selects a module. An empty list selects all. -/
def selectsModule (modules : List String) (name : String) : Bool := modules.isEmpty || modules.contains name

namespace Workspace

/-- The documents among some that lie in selected modules. -/
def inModules (workspace : Workspace) (modules : List String) : List DocumentId → Except Failure (List DocumentId)
  | [] => .ok []
  | id :: ids => do
    let name ← workspace.moduleName (← workspace.document id).container
    let later ← workspace.inModules modules ids
    return if selectsModule modules name then id :: later else later

/-- The microflows in selected modules, in order. -/
def selectedMicroflows (workspace : Workspace) (modules : List String) : Except Failure (List DocumentId) :=
  workspace.inModules modules (workspace.documentsOfKind .microflow)

end Workspace

namespace Generation

/-- Recolor one microflow. If activities changed, its qualified name is looked up for the log and their number
is noted. -/
def recolorMicroflow (id : DocumentId) : Generation Unit := do
  let content ← ask fun workspace => workspace.microflow id
  modify fun work => { work with workspace := work.workspace.replaceMicroflow id content.recolored }
  if 0 < content.miscolored then
    let _ ← ask fun workspace => workspace.qualifiedName id
    note fun report => { report with recolored := report.recolored + content.miscolored }

/-- Recolor the microflows in the selected modules. -/
def recolorMicroflows (settings : RecolorSettings) : Generation Unit := do
  let selected ← ask fun workspace => workspace.selectedMicroflows settings.modules
  selected.forM recolorMicroflow

end Generation

end FlowModel
