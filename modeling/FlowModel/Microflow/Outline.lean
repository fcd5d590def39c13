import FlowModel.Microflow.Basic

/-!
# Outlines

An outline shows a microflow as indented lines: its signature, its parameters if it has any, its other nodes
and its flows, each in stored order and each on a line of its own. Texts of the microflow are shown as they are.
-/

namespace FlowModel

/-! ## Indented lines -/

/-- Lines under construction: what is written so far and how deep the next line is indented. -/
structure IndentedText where
  written : String
  depth : Nat
deriving DecidableEq, Repr, Inhabited

namespace IndentedText

/-- Nothing written, no indentation. -/
def empty : IndentedText := ⟨"", 0⟩

/-- Two spaces for each level. -/
def indentation : Nat → String
  | 0 => ""
  | depth + 1 => "  " ++ indentation depth

/-- Write one line at the present depth. -/
def line (text : IndentedText) (content : String) : IndentedText :=
  { text with written := text.written ++ indentation text.depth ++ content ++ "\n" }

/-- Go one level deeper. -/
def deeper (text : IndentedText) : IndentedText := { text with depth := text.depth + 1 }

/-- Go one level back, but never beyond the margin. -/
def shallower (text : IndentedText) : IndentedText := { text with depth := text.depth - 1 }

/-- Write a title and go one level deeper. -/
def titled (text : IndentedText) (title : String) : IndentedText := (text.line title).deeper

/-- Write several lines at the present depth. -/
def lines (text : IndentedText) (contents : List String) : IndentedText := contents.foldl line text

end IndentedText

/-! ## One line each -/

/-- A call with the variable that takes its result, if any. -/
def callText (verb target : String) : Option String → String
  | some variableName => verb ++ " " ++ target ++ " -> $" ++ variableName
  | none => verb ++ " " ++ target

/-- What an action does, in words. -/
def Action.text : Action → String
  | .createVariable name type initial => "create $" ++ name ++ ": " ++ type.text ++ " = " ++ initial
  | .changeVariable name value => "change $" ++ name ++ " = " ++ value
  | .changeList list operation value => "change list $" ++ list ++ " " ++ operation.name ++ " " ++ value
  | .delete name => "delete $" ++ name
  | .logMessage level logNode template arguments =>
    "log " ++ level.name ++ " " ++ logNode ++ " '" ++ template ++ "'" ++
      if arguments.isEmpty then "" else " (" ++ ", ".intercalate arguments ++ ")"
  | .showPage page (some argument) => "show page " ++ page ++ "(" ++ argument ++ ")"
  | .showPage page none => "show page " ++ page
  | .callJava javaAction output => callText "call java" javaAction output
  | .callMicroflow microflow output => callText "call microflow" microflow output
  | .validationFeedback subject target feedback =>
    "feedback $" ++ subject ++ "/" ++ target.name ++ " '" ++
      (feedback.in? TranslatedText.defaultLanguage).getD "" ++ "'"
  | .other typeName => typeName

/-- What a node is, in words. -/
def NodeKind.text : NodeKind → String
  | .startEvent => "start"
  | .endEvent value => if value.isEmpty then "end" else "end return " ++ value
  | .split condition caption => "split '" ++ caption ++ "' if " ++ condition
  | .merge => "merge"
  | .parameter name type => "parameter " ++ name ++ ": " ++ type.text
  | .activity action color => action.text ++ " [" ++ color.name ++ "]"

/-- The line of a node. -/
def Node.line (node : Node) : String := node.id.text ++ " " ++ node.kind.text ++ " @ " ++ node.position.text

/-- The line of a flow. -/
def Flow.line (flow : Flow) : String :=
  flow.origin.text ++ " -> " ++ flow.destination.text ++
    (match flow.label with
      | some label => " [" ++ label ++ "]"
      | none => "") ++
    " (" ++ flow.originSide.name ++ " -> " ++ flow.destinationSide.name ++ ")"

/-! ## The outline -/

/-- A block: a title and, one level deeper, its lines. -/
def IndentedText.block (text : IndentedText) (title : String) (contents : List String) : IndentedText :=
  ((text.titled title).lines contents).shallower

/-- The outline of a microflow. All blocks stand one level below the signature. -/
def Microflow.outline (microflow : Microflow) : String :=
  let signature := IndentedText.empty.titled ("microflow " ++ microflow.name ++ " -> " ++ microflow.returnType.text)
  let withParameters :=
    if microflow.parameters.isEmpty then signature
    else signature.block "parameters" (microflow.parameters.map Node.line)
  let withNodes :=
    withParameters.block "objects" ((microflow.nodes.filter fun node => !node.isParameter).map Node.line)
  (withNodes.block "flows" (microflow.flows.map Flow.line)).written

end FlowModel
