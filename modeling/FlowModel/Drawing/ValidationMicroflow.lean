import FlowModel.Drawing.Draft
import FlowModel.Project.Basic
import FlowModel.Settings.Basic

/-!
# Validation microflows

The validation microflow of an entity checks its attributes in their declared order and returns whether all
checks passed. Each check is a diamond on the main line: a split goes on to a merge when the attribute has a
usable value; otherwise a branch below it first clears the variable that carries the outcome and then
shows a message at the attribute. Attributes whose type has no check are left out and listed.
-/

namespace FlowModel

/-- The expression that holds when a reference to an attribute has a usable value; none for types without a
check. -/
def AttributeType.check? (type : AttributeType) (reference : String) : Option String :=
  match type with
  | .boolean => some reference
  | .currency | .decimal | .float | .integer | .long =>
    some (reference ++ " != empty and " ++ reference ++ " > 0")
  | .dateTime | .enumeration _ => some (reference ++ " != empty")
  | .string _ => some (reference ++ " != empty and " ++ reference ++ " != ''")
  | .autoNumber | .binary | .hashString => none

/-- How expressions refer to an attribute of an object. -/
def attributeReference (objectName attributeName : String) : String := "$" ++ objectName ++ "/" ++ attributeName

/-- What became of an attribute, and the node from which the main line goes on. -/
inductive CheckOutcome where
  | extended (tail : NodeId)
  | skipped (tail : NodeId)
deriving DecidableEq, Repr, Inhabited

/-- The node from which the main line goes on. -/
def CheckOutcome.tail : CheckOutcome → NodeId
  | .extended tail => tail
  | .skipped tail => tail

/-- An attribute without a check, and the name of its type. -/
structure UncheckedAttribute where
  name : String
  typeName : String
deriving DecidableEq, Repr, Inhabited

namespace Draft

/-- Append the diamond of one check after a node. -/
def appendDiamond (entity : AttributeRef) (condition : String) (tail : NodeId) (settings : ValidationSettings) :
    Drafting NodeId := do
  let split ← append (.split condition entity.name) 200 0 tail
  let invalidate ← place (← create (.perform (.changeVariable settings.validVariable "false"))) 0 100
    (some (split, (Link.between .bottom .top).labeled (caseLabel false)))
  let feedback ← append
    (.perform (.validationFeedback entity.entityName entity (.english settings.requiredMessage))) 200 0 invalidate
  let merge ← place (← create .merge) 0 (-100) (some (feedback, .between .top .bottom))
  let _ ← connect split merge (Link.straight.labeled (caseLabel true))
  return merge

/-- Append the check of one attribute of an entity after a node, if its type has one. The entity is named by its
qualified name; expressions use its local name. -/
def appendCheck (entity : String) (checked : Attribute) (tail : NodeId) (settings : ValidationSettings) :
    Drafting CheckOutcome := do
  let target : AttributeRef := ⟨entity, checked.name⟩
  match checked.type.check? (attributeReference target.entityName checked.name) with
  | none => return .skipped tail
  | some condition => return .extended (← appendDiamond target condition tail settings)

/-- Append the checks of attributes one after another. Gives the last node and the attributes left out. -/
def appendChecks (entity : String) (settings : ValidationSettings) :
    NodeId → List Attribute → Drafting (NodeId × List UncheckedAttribute)
  | tail, [] => return (tail, [])
  | tail, checked :: later => do
    match ← appendCheck entity checked tail settings with
    | .extended tail => appendChecks entity settings tail later
    | .skipped tail => do
      let (tail, leftOut) ← appendChecks entity settings tail later
      return (tail, ⟨checked.name, checked.type.name⟩ :: leftOut)

/-- Draw the validation microflow of an entity on an empty draft. Gives the attributes left out. -/
def drawValidation (entity : Entity) (moduleName : String) (settings : ValidationSettings) :
    Drafting (List UncheckedAttribute) := do
  let qualified := QualifiedName.qualified moduleName entity.name
  let _ ← addParameter entity.name (.object qualified)
  let start ← place (← create .startEvent) 0 0 none
  let valid ← append (.perform (.createVariable settings.validVariable .boolean "true")) 100 0 start
  let (tail, leftOut) ← appendChecks qualified settings valid entity.attributes
  let _ ← append (.endEvent ("$" ++ settings.validVariable)) 100 0 tail
  return leftOut

end Draft

/-- The validation microflow of an entity and the attributes left out of it, unless ids or canvas are exhausted. -/
def validationMicroflow? (entity : Entity) (moduleName : String) (settings : ValidationSettings) :
    Option (Microflow × List UncheckedAttribute) := do
  let (leftOut, draft) ← (Draft.drawValidation entity moduleName settings).run
    (.empty (settings.microflowName entity.name) .boolean)
  return (draft.microflow, leftOut)

end FlowModel
