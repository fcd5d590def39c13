import FlowModel.Drawing.ValidationMicroflow
import FlowModel.Generation.Basic

/-!
# Generating validation microflows

Every selected entity gets a validation microflow in a folder of its module, unless a microflow of that name exists.
All selected modules and their domain models are looked up before anything is created.
-/

namespace FlowModel

/-- An entity that gets a validation microflow. -/
structure ValidationTarget where
  owner : ContainerId
  moduleName : String
  entity : Entity
deriving DecidableEq, Repr, Inhabited

namespace Workspace

/-- The entities that a selection selects, in declared order. -/
def selectedEntities (workspace : Workspace) (selection : ModuleSelection) :
    Except Failure (List ValidationTarget) := do
  match workspace.moduleNamed? selection.name with
  | none => throw (.missingPrerequisite ("module '" ++ selection.name ++ "'"))
  | some owner =>
    match workspace.domainModelOf? owner with
    | none => throw (.missingPrerequisite ("domain model of module '" ++ selection.name ++ "'"))
    | some id => do
      let content ← workspace.domainModel id
      return (content.entities.filter fun entity => selection.selects entity.name).map fun entity =>
        ⟨owner, selection.name, entity⟩

/-- The entities that get validation microflows, selection after selection. -/
def validationTargets (workspace : Workspace) (settings : ValidationSettings) :
    Except Failure (List ValidationTarget) := do
  return (← settings.modules.mapM workspace.selectedEntities).flatten

end Workspace

namespace Generation

/-- Create the validation microflow of an entity, unless its name is taken. -/
def validateEntity (settings : ValidationSettings) (target : ValidationTarget) : Generation Unit := do
  let name := settings.microflowName target.entity.name
  if ← isAbsent .microflow (QualifiedName.qualified target.moduleName name) then
    match validationMicroflow? target.entity target.moduleName settings with
    | none => throw .outOfRange
    | some (content, leftOut) => do
      note fun report => leftOut.foldl (fun report unchecked =>
        report.skip (target.moduleName ++ "." ++ target.entity.name ++ "." ++ unchecked.name)
          (.unsupportedType unchecked.typeName)) report
      let folder ← ensureFolder target.owner settings.folderName
      let _ ← insertMicroflow folder content

/-- Create validation microflows for the selected entities that have none. -/
def generateValidation (settings : ValidationSettings) : Generation Unit := do
  let targets ← ask fun workspace => workspace.validationTargets settings
  targets.forM (validateEntity settings)

end Generation

end FlowModel
