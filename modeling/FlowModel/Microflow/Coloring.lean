import FlowModel.Microflow.Basic

/-!
# Colors of activities

The color of an activity tells the kind of its action. Recoloring gives every activity the color of its action
and counts the activities whose color was another one.
-/

namespace FlowModel

/-- The color of the activities that perform an action. -/
def Action.color : Action → Color
  | .createVariable .. => .yellow
  | .changeList .. => .blue
  | .delete .. => .red
  | .callMicroflow .. => .green
  | .logMessage .. => .gray
  | .changeVariable .. | .showPage .. | .callJava .. | .validationFeedback .. | .other .. => .default

namespace Node

/-- Whether the node is an activity whose color is not that of its action. -/
def isMiscolored (node : Node) : Bool :=
  match node.kind with
  | .activity action color => color != action.color
  | _ => false

/-- The node with the color of its action. -/
def recolored (node : Node) : Node :=
  match node.kind with
  | .activity action _ => { node with kind := .activity action action.color }
  | _ => node

end Node

namespace Microflow

/-- How many activities have another color than that of their action. -/
def miscolored (microflow : Microflow) : Nat := microflow.nodes.countP Node.isMiscolored

/-- The microflow with the color of its action on every activity. -/
def recolored (microflow : Microflow) : Microflow :=
  { microflow with nodes := microflow.nodes.map Node.recolored }

end Microflow

end FlowModel
