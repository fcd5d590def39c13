import FlowModel.Geometry
import FlowModel.Text.QualifiedName

/-!
# Microflows

A microflow is a named diagram of control flow: an ordered list of nodes and an ordered list of flows between
them. Nodes are start and end events, activities, exclusive splits and merges, and parameters. Nodes carry ids;
flows name their ends by id, so a flow may name a node that does not exist and ids may be repeated. The lookup
`node?` takes the first node with an id.
-/

namespace FlowModel

/-! ## Values and texts -/

/-- Type of a variable, a parameter or a result. Entities and enumerations are named by qualified name. -/
inductive DataType where
  | void
  | boolean
  | integer
  | long
  | decimal
  | string
  | dateTime
  | enumeration (name : String)
  | object (entity : String)
  | list (entity : String)
deriving DecidableEq, Repr, Inhabited

/-- The text of a type in outlines. -/
def DataType.text : DataType → String
  | .void => "Void"
  | .boolean => "Boolean"
  | .integer => "Integer"
  | .long => "Long"
  | .decimal => "Decimal"
  | .string => "String"
  | .dateTime => "DateTime"
  | .enumeration name => "Enumeration(" ++ name ++ ")"
  | .object entity => "Object(" ++ entity ++ ")"
  | .list entity => "List(" ++ entity ++ ")"

/-- A text in one language. -/
structure Translation where
  language : String
  text : String
deriving DecidableEq, Repr, Inhabited

/-- A text with its translations. -/
structure TranslatedText where
  translations : List Translation
deriving DecidableEq, Repr, Inhabited

namespace TranslatedText

/-- Language of generated texts. -/
def defaultLanguage : String := "en_US"

/-- A text that has only its English form. -/
def english (text : String) : TranslatedText := ⟨[⟨defaultLanguage, text⟩]⟩

/-- The first translation into a language. -/
def in? (text : TranslatedText) (language : String) : Option String :=
  (text.translations.find? fun translation => translation.language == language).map (·.text)

end TranslatedText

/-! ## Actions -/

/-- Background color of an activity. -/
inductive Color where
  | default
  | red
  | orange
  | yellow
  | green
  | blue
  | purple
  | gray
deriving DecidableEq, Repr, Inhabited

/-- Name of a color in documents and outlines. -/
def Color.name : Color → String
  | .default => "Default"
  | .red => "Red"
  | .orange => "Orange"
  | .yellow => "Yellow"
  | .green => "Green"
  | .blue => "Blue"
  | .purple => "Purple"
  | .gray => "Gray"

/-- All colors. -/
def Color.all : List Color := [.default, .red, .orange, .yellow, .green, .blue, .purple, .gray]

/-- Severity of a log message. -/
inductive LogLevel where
  | trace
  | debug
  | info
  | warning
  | error
  | critical
deriving DecidableEq, Repr, Inhabited

/-- Name of a severity in documents and outlines. -/
def LogLevel.name : LogLevel → String
  | .trace => "Trace"
  | .debug => "Debug"
  | .info => "Info"
  | .warning => "Warning"
  | .error => "Error"
  | .critical => "Critical"

/-- All severities. -/
def LogLevel.all : List LogLevel := [.trace, .debug, .info, .warning, .error, .critical]

/-- What a list activity does with its value. -/
inductive ListOperation where
  | add
  | remove
  | clear
  | set
deriving DecidableEq, Repr, Inhabited

/-- Name of a list operation in documents and outlines. -/
def ListOperation.name : ListOperation → String
  | .add => "Add"
  | .remove => "Remove"
  | .clear => "Clear"
  | .set => "Set"

/-- All list operations. -/
def ListOperation.all : List ListOperation := [.add, .remove, .clear, .set]

/-- An attribute, named by the qualified name of its entity and its own name. -/
structure AttributeRef where
  entity : String
  name : String
deriving DecidableEq, Repr, Inhabited

/-- Name of the entity without its module. -/
def AttributeRef.entityName (reference : AttributeRef) : String :=
  QualifiedName.localPart reference.entity

/-- What an activity does. Actions without a form of their own are carried with the name of their type. -/
inductive Action where
  | createVariable (name : String) (type : DataType) (initial : String)
  | changeVariable (name value : String)
  | changeList (list : String) (operation : ListOperation) (value : String)
  | delete (name : String)
  | logMessage (level : LogLevel) (logNode template : String) (arguments : List String)
  | showPage (page : String) (argument : Option String)
  | callJava (javaAction : String) (output : Option String)
  | callMicroflow (microflow : String) (output : Option String)
  | validationFeedback (subject : String) (target : AttributeRef) (feedback : TranslatedText)
  | other (typeName : String)
deriving DecidableEq, Repr, Inhabited

/-- Name of the kind of an action. -/
def Action.kindName : Action → String
  | .createVariable .. => "CreateVariable"
  | .changeVariable .. => "ChangeVariable"
  | .changeList .. => "ChangeList"
  | .delete .. => "Delete"
  | .logMessage .. => "LogMessage"
  | .showPage .. => "ShowPage"
  | .callJava .. => "JavaActionCall"
  | .callMicroflow .. => "MicroflowCall"
  | .validationFeedback .. => "ValidationFeedback"
  | .other typeName => typeName

/-! ## Nodes and flows -/

/-- Nodes are numbered within their microflow. -/
abbrev NodeId := Nat

/-- Greatest node id: ids have 32 bits. -/
def greatestNodeId : NodeId := 4294967295

/-- The text of a node id. -/
def NodeId.text (id : NodeId) : String := "#" ++ id.repr

/-- What a node is. An end event carries the expression it returns, which is empty when there is no result. -/
inductive NodeKind where
  | startEvent
  | endEvent (value : String)
  | activity (action : Action) (color : Color)
  | split (condition caption : String)
  | merge
  | parameter (name : String) (type : DataType)
deriving DecidableEq, Repr, Inhabited

/-- A node on the canvas. -/
structure Node where
  id : NodeId
  position : Position
  size : Size
  kind : NodeKind
deriving DecidableEq, Repr, Inhabited

namespace Node

/-- Whether the node is a start event. -/
def isStart (node : Node) : Bool := node.kind matches .startEvent

/-- Whether the node is an end event. -/
def isEnd (node : Node) : Bool := node.kind matches .endEvent _

/-- Whether the node is an exclusive split. -/
def isSplit (node : Node) : Bool := node.kind matches .split _ _

/-- Whether the node is an exclusive merge. -/
def isMerge (node : Node) : Bool := node.kind matches .merge

/-- Whether the node is a parameter. -/
def isParameter (node : Node) : Bool := node.kind matches .parameter _ _

/-- The action of an activity. -/
def action? (node : Node) : Option Action :=
  match node.kind with
  | .activity action _ => some action
  | _ => none

end Node

/-- The case label of a Boolean split's branch. -/
def caseLabel (holds : Bool) : String := if holds then "true" else "false"

/-- A directed connection between two nodes. A case label belongs on the flows that leave a split. -/
structure Flow where
  origin : NodeId
  destination : NodeId
  originSide : Side
  destinationSide : Side
  label : Option String
deriving DecidableEq, Repr, Inhabited

/-- How a flow attaches to its ends, and its case. -/
structure Link where
  origin : Side
  destination : Side
  label : Option String
deriving DecidableEq, Repr, Inhabited

namespace Flow

/-- How a flow attaches to its ends, and its case. -/
def link (flow : Flow) : Link := ⟨flow.originSide, flow.destinationSide, flow.label⟩

/-- The ids that a flow leaves and enters. -/
def ends (flow : Flow) : NodeId × NodeId := (flow.origin, flow.destination)

/-- The id that a flow enters, and how it gets there. -/
def arrival (flow : Flow) : NodeId × Link := (flow.destination, flow.link)

end Flow

/-! ## Microflows -/

/-- A named diagram of control flow. Nodes and flows keep the order in which they are stored. -/
structure Microflow where
  name : String
  returnType : DataType
  allowConcurrent : Bool
  concurrencyMessage : TranslatedText
  nodes : List Node
  flows : List Flow
deriving DecidableEq, Repr, Inhabited

namespace Microflow

/-- A microflow without nodes. It may run concurrently with itself, so it has nothing to say about that. -/
def empty (name : String) (returnType : DataType) : Microflow :=
  { name, returnType, allowConcurrent := true, concurrencyMessage := .english "", nodes := [], flows := [] }

/-- The first node with an id. -/
def node? (microflow : Microflow) (id : NodeId) : Option Node :=
  microflow.nodes.find? fun node => node.id == id

/-- The first start event. -/
def start? (microflow : Microflow) : Option Node := microflow.nodes.find? Node.isStart

/-- The parameters, in stored order. -/
def parameters (microflow : Microflow) : List Node := microflow.nodes.filter Node.isParameter

/-- The activities with their actions, in stored order. -/
def activities (microflow : Microflow) : List (Node × Action) :=
  microflow.nodes.filterMap fun node => node.action?.map fun action => (node, action)

/-- The flows that leave an id, in stored order. -/
def flowsFrom (microflow : Microflow) (id : NodeId) : List Flow :=
  microflow.flows.filter fun flow => flow.origin == id

/-- The flows that enter an id, in stored order. -/
def flowsInto (microflow : Microflow) (id : NodeId) : List Flow :=
  microflow.flows.filter fun flow => flow.destination == id

/-- The id after the greatest one in use, unless some id has no successor. -/
def nextId? (microflow : Microflow) : Option NodeId :=
  if microflow.nodes.all fun node => node.id < greatestNodeId then
    some (microflow.nodes.foldl (fun next node => max next (node.id + 1)) 0)
  else
    none

end Microflow

end FlowModel
