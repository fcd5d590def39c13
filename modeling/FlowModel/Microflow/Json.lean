import FlowModel.Json.Decoder
import FlowModel.Json.Reader
import FlowModel.Microflow.Basic

/-!
# Microflows in JSON documents

Each type of a microflow has a written form and a decoder that reads the written form back. The written form of a
record is an object with all its fields; a value with variants is an object whose member `type` names the
variant; constants are written by name.
-/

namespace FlowModel

open Json

/-! ## Geometry -/

namespace Position

def toJson (position : Position) : Json := record [("x", .integer position.x), ("y", .integer position.y)]

/-- A coordinate of the canvas. -/
def decodeCoordinate : Decoder Int := decodeBetween leastCoordinate greatestCoordinate

def decode : Decoder Position := fun depth value => do
  let fields ← fields? ["x", "y"] depth value
  return ⟨← fields.required "x" decodeCoordinate, ← fields.required "y" decodeCoordinate⟩

end Position

namespace Size

def toJson (size : Size) : Json := record [("width", .integer size.width), ("height", .integer size.height)]

def decode : Decoder Size := fun depth value => do
  let fields ← fields? ["width", "height"] depth value
  return ⟨← fields.required "width" Position.decodeCoordinate, ← fields.required "height" Position.decodeCoordinate⟩

end Size

namespace Side

def toJson (side : Side) : Json := .text side.name

def decode (inside : Bool) : Decoder Side := decodeConstant inside name all

end Side

/-! ## Types and texts -/

namespace DataType

def toJson : DataType → Json
  | .void => record [("type", .text "Void")]
  | .boolean => record [("type", .text "Boolean")]
  | .integer => record [("type", .text "Integer")]
  | .long => record [("type", .text "Long")]
  | .decimal => record [("type", .text "Decimal")]
  | .string => record [("type", .text "String")]
  | .dateTime => record [("type", .text "DateTime")]
  | .enumeration name => record [("type", .text "Enumeration"), ("enumeration", .text name)]
  | .object entity => record [("type", .text "Object"), ("entity", .text entity)]
  | .list entity => record [("type", .text "List"), ("entity", .text entity)]

/-- The variants of a type, in the order of their numbers. -/
def variants : List (String × Decoder DataType) := [
  ("Void", decodeUnit .void),
  ("Boolean", decodeUnit .boolean),
  ("Integer", decodeUnit .integer),
  ("Long", decodeUnit .long),
  ("Decimal", decodeUnit .decimal),
  ("String", decodeUnit .string),
  ("DateTime", decodeUnit .dateTime),
  ("Enumeration", decodeField "enumeration" decodeText .enumeration),
  ("Object", decodeField "entity" decodeText .object),
  ("List", decodeField "entity" decodeText .list)]

def decode (inside : Bool) : Decoder DataType := decodeVariant inside "type" variants

end DataType

namespace Translation

def toJson (translation : Translation) : Json :=
  record [("language_code", .text translation.language), ("text", .text translation.text)]

def decode : Decoder Translation := fun depth value => do
  let fields ← fields? ["language_code", "text"] depth value
  return ⟨← fields.required "language_code" decodeText, ← fields.required "text" decodeText⟩

end Translation

namespace TranslatedText

def toJson (text : TranslatedText) : Json := record [("translations", .list Translation.toJson text.translations)]

def decode : Decoder TranslatedText := fun depth value => do
  let fields ← fields? ["translations"] depth value
  return ⟨← fields.required "translations" (decodeList Translation.decode)⟩

end TranslatedText

/-! ## Actions -/

namespace Color

def toJson (color : Color) : Json := .text color.name

def decode (inside : Bool) : Decoder Color := decodeConstant inside name all

end Color

namespace LogLevel

def toJson (level : LogLevel) : Json := .text level.name

def decode (inside : Bool) : Decoder LogLevel := decodeConstant inside name all

end LogLevel

namespace ListOperation

def toJson (operation : ListOperation) : Json := .text operation.name

def decode (inside : Bool) : Decoder ListOperation := decodeConstant inside name all

end ListOperation

namespace AttributeRef

def toJson (reference : AttributeRef) : Json :=
  record [("entity", .text reference.entity), ("attribute", .text reference.name)]

def decode : Decoder AttributeRef := fun depth value => do
  let fields ← fields? ["entity", "attribute"] depth value
  return ⟨← fields.required "entity" decodeText, ← fields.required "attribute" decodeText⟩

end AttributeRef

namespace Action

def toJson : Action → Json
  | .createVariable name type initial =>
    record [("type", .text "CreateVariable"), ("variable_name", .text name), ("variable_type", type.toJson),
      ("initial_value", .text initial)]
  | .changeVariable name value =>
    record [("type", .text "ChangeVariable"), ("variable_name", .text name), ("value", .text value)]
  | .changeList list operation value =>
    record [("type", .text "ChangeList"), ("list_variable", .text list), ("operation", operation.toJson),
      ("value", .text value)]
  | .delete name => record [("type", .text "Delete"), ("variable_name", .text name)]
  | .logMessage level logNode template arguments =>
    record [("type", .text "LogMessage"), ("level", level.toJson), ("node", .text logNode),
      ("template", .text template), ("arguments", .list .text arguments)]
  | .showPage page argument =>
    record [("type", .text "ShowPage"), ("page", .text page), ("page_argument", .optional .text argument)]
  | .callJava javaAction output =>
    record [("type", .text "JavaActionCall"), ("java_action", .text javaAction),
      ("output_variable", .optional .text output)]
  | .callMicroflow microflow output =>
    record [("type", .text "MicroflowCall"), ("microflow", .text microflow),
      ("output_variable", .optional .text output)]
  | .validationFeedback subject target feedback =>
    record [("type", .text "ValidationFeedback"), ("object_variable", .text subject), ("attribute", target.toJson),
      ("feedback", feedback.toJson)]
  | .other typeName => record [("type", .text "Other"), ("type_name", .text typeName)]

def decodeCreateVariable : Decoder Action := fun depth value => do
  let fields ← fields? ["variable_name", "variable_type", "initial_value"] depth value
  return .createVariable (← fields.required "variable_name" decodeText)
    (← fields.required "variable_type" (DataType.decode true)) (← fields.required "initial_value" decodeText)

def decodeChangeVariable : Decoder Action := fun depth value => do
  let fields ← fields? ["variable_name", "value"] depth value
  return .changeVariable (← fields.required "variable_name" decodeText) (← fields.required "value" decodeText)

def decodeChangeList : Decoder Action := fun depth value => do
  let fields ← fields? ["list_variable", "operation", "value"] depth value
  return .changeList (← fields.required "list_variable" decodeText)
    (← fields.required "operation" (ListOperation.decode true)) (← fields.required "value" decodeText)

def decodeLogMessage : Decoder Action := fun depth value => do
  let fields ← fields? ["level", "node", "template", "arguments"] depth value
  return .logMessage (← fields.required "level" (LogLevel.decode true)) (← fields.required "node" decodeText)
    (← fields.required "template" decodeText) (← fields.required "arguments" (decodeList decodeText))

def decodeShowPage : Decoder Action := fun depth value => do
  let fields ← fields? ["page", "page_argument"] depth value
  return .showPage (← fields.required "page" decodeText) (← fields.nullable "page_argument" decodeText)

def decodeCallJava : Decoder Action := fun depth value => do
  let fields ← fields? ["java_action", "output_variable"] depth value
  return .callJava (← fields.required "java_action" decodeText) (← fields.nullable "output_variable" decodeText)

def decodeCallMicroflow : Decoder Action := fun depth value => do
  let fields ← fields? ["microflow", "output_variable"] depth value
  return .callMicroflow (← fields.required "microflow" decodeText) (← fields.nullable "output_variable" decodeText)

def decodeValidationFeedback : Decoder Action := fun depth value => do
  let fields ← fields? ["object_variable", "attribute", "feedback"] depth value
  return .validationFeedback (← fields.required "object_variable" decodeText)
    (← fields.required "attribute" AttributeRef.decode) (← fields.required "feedback" TranslatedText.decode)

/-- The variants of an action, in the order of their numbers. -/
def variants : List (String × Decoder Action) := [
  ("CreateVariable", decodeCreateVariable),
  ("ChangeVariable", decodeChangeVariable),
  ("ChangeList", decodeChangeList),
  ("Delete", decodeField "variable_name" decodeText .delete),
  ("LogMessage", decodeLogMessage),
  ("ShowPage", decodeShowPage),
  ("JavaActionCall", decodeCallJava),
  ("MicroflowCall", decodeCallMicroflow),
  ("ValidationFeedback", decodeValidationFeedback),
  ("Other", decodeField "type_name" decodeText .other)]

def decode (inside : Bool) : Decoder Action := decodeVariant inside "type" variants

end Action

/-! ## Nodes, flows, microflows -/

namespace NodeKind

def toJson : NodeKind → Json
  | .startEvent => record [("type", .text "StartEvent")]
  | .endEvent value => record [("type", .text "EndEvent"), ("return_value", .text value)]
  | .activity action color =>
    record [("type", .text "ActionActivity"), ("action", action.toJson), ("background_color", color.toJson)]
  | .split condition caption =>
    record [("type", .text "ExclusiveSplit"), ("condition", .text condition), ("caption", .text caption)]
  | .merge => record [("type", .text "ExclusiveMerge")]
  | .parameter name type =>
    record [("type", .text "Parameter"), ("name", .text name), ("variable_type", type.toJson)]

def decodeActivity : Decoder NodeKind := fun depth value => do
  let fields ← fields? ["action", "background_color"] depth value
  return .activity (← fields.required "action" (Action.decode true))
    (← fields.required "background_color" (Color.decode true))

def decodeSplit : Decoder NodeKind := fun depth value => do
  let fields ← fields? ["condition", "caption"] depth value
  return .split (← fields.required "condition" decodeText) (← fields.required "caption" decodeText)

def decodeParameter : Decoder NodeKind := fun depth value => do
  let fields ← fields? ["name", "variable_type"] depth value
  return .parameter (← fields.required "name" decodeText) (← fields.required "variable_type" (DataType.decode true))

/-- The variants of a node, in the order of their numbers. -/
def variants : List (String × Decoder NodeKind) := [
  ("StartEvent", decodeUnit .startEvent),
  ("EndEvent", decodeField "return_value" decodeText .endEvent),
  ("ActionActivity", decodeActivity),
  ("ExclusiveSplit", decodeSplit),
  ("ExclusiveMerge", decodeUnit .merge),
  ("Parameter", decodeParameter)]

def decode (inside : Bool) : Decoder NodeKind := decodeVariant inside "type" variants

end NodeKind

namespace Node

def toJson (node : Node) : Json :=
  record [("id", .natural node.id), ("position", node.position.toJson), ("size", node.size.toJson),
    ("kind", node.kind.toJson)]

def decode (inside : Bool) : Decoder Node := fun depth value => do
  let fields ← fields? ["id", "position", "size", "kind"] depth value
  return {
    id := ← fields.required "id" decodeWord
    position := ← fields.required "position" Position.decode
    size := ← fields.required "size" Size.decode
    kind := ← fields.required "kind" (NodeKind.decode inside) }

end Node

namespace Flow

def toJson (flow : Flow) : Json :=
  record [("origin", .natural flow.origin), ("destination", .natural flow.destination),
    ("origin_connection", flow.originSide.toJson), ("destination_connection", flow.destinationSide.toJson),
    ("case_value", .optional .text flow.label)]

def decode (inside : Bool) : Decoder Flow := fun depth value => do
  let fields ← fields? ["origin", "destination", "origin_connection", "destination_connection", "case_value"]
    depth value
  return {
    origin := ← fields.required "origin" decodeWord
    destination := ← fields.required "destination" decodeWord
    originSide := ← fields.required "origin_connection" (Side.decode inside)
    destinationSide := ← fields.required "destination_connection" (Side.decode inside)
    label := ← fields.nullable "case_value" decodeText }

end Flow

namespace Microflow

/-- The fields of a microflow as written. -/
def toMembers (microflow : Microflow) : List (String × Json) := [
  ("name", .text microflow.name),
  ("return_type", microflow.returnType.toJson),
  ("allow_concurrent_execution", .bool microflow.allowConcurrent),
  ("concurrency_error_message", microflow.concurrencyMessage.toJson),
  ("objects", .list Node.toJson microflow.nodes),
  ("flows", .list Flow.toJson microflow.flows)]

def toJson (microflow : Microflow) : Json := record microflow.toMembers

def decode (inside : Bool) : Decoder Microflow := fun depth value => do
  let fields ← fields? ["name", "return_type", "allow_concurrent_execution", "concurrency_error_message", "objects",
    "flows"] depth value
  return {
    name := ← fields.required "name" decodeText
    returnType := ← fields.required "return_type" (DataType.decode inside)
    allowConcurrent := ← fields.withDefault "allow_concurrent_execution" false decodeBool
    concurrencyMessage := ← fields.withDefault "concurrency_error_message" ⟨[]⟩ TranslatedText.decode
    nodes := ← fields.withDefault "objects" [] (decodeList (Node.decode inside))
    flows := ← fields.withDefault "flows" [] (decodeList (Flow.decode inside)) }

/-- The microflow that a JSON document holds. -/
def ofText? (content : String) : Option Microflow := do
  decodeDocument (decode false) (← Json.ofText? content)

end Microflow

end FlowModel
