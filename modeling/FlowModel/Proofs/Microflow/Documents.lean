import FlowModel.Microflow.Json
import FlowModel.Proofs.Json.Decoding

/-!
# Microflows as they are written and decoded

Every microflow whose numbers are in the range of their types is read back from its written form
(`Microflow.decodes`), and so are its parts, for every constructor of a type, an action and a node.
-/

namespace FlowModel

open Json

/-! ## Ranges -/

/-- The coordinates of a position lie on the canvas. -/
structure Position.InRange (position : Position) : Prop where
  x : OnCanvas position.x
  y : OnCanvas position.y

/-- The extents are numbers of the same range as coordinates. -/
structure Size.InRange (size : Size) : Prop where
  width : OnCanvas size.width
  height : OnCanvas size.height

/-- The numbers of a node are in range. -/
structure Node.InRange (node : Node) : Prop where
  id : node.id ≤ greatestNodeId
  position : node.position.InRange
  size : node.size.InRange

/-- The ids that a flow names are in range. -/
structure Flow.InRange (flow : Flow) : Prop where
  origin : flow.origin ≤ greatestNodeId
  destination : flow.destination ≤ greatestNodeId

/-- All numbers in a microflow are in range. -/
structure Microflow.InRange (microflow : Microflow) : Prop where
  nodes : ∀ node ∈ microflow.nodes, node.InRange
  flows : ∀ flow ∈ microflow.flows, flow.InRange

/-! ## Geometry -/

/-- Coordinates are much smaller than what a document may hold. -/
theorem decodes_coordinate {coordinate : Int} (onCanvas : OnCanvas coordinate) :
    Decodes Position.decodeCoordinate (.integer coordinate) coordinate := by
  refine decodes_between onCanvas ?_
  have ⟨least, greatest⟩ := onCanvas
  rw [leastCoordinate] at least
  rw [greatestCoordinate] at greatest
  rw [greatestWord]
  omega

/-- A position on the canvas is read back. -/
theorem Position.decodes {position : Position} (inRange : position.InRange) :
    Decodes decode position.toJson position :=
  decodes_record (fun _ _ => rfl) rfl (by decide)
    (.field (.required (decodes_coordinate inRange.x))
      (.field (.required (decodes_coordinate inRange.y)) (.built _)))

/-- A size is read back if both extents are in the range of their type. -/
theorem Size.decodes {size : Size} (inRange : size.InRange) :
    Decodes decode size.toJson size :=
  decodes_record (fun _ _ => rfl) rfl (by decide)
    (.field (.required (decodes_coordinate inRange.width))
      (.field (.required (decodes_coordinate inRange.height)) (.built _)))

/-- The four sides have different names. -/
theorem Side.decodes (inside : Bool) (side : Side) : Decodes (decode inside) side.toJson side :=
  decodes_constant inside (by cases side <;> decide)

/-! ## Types and texts -/

/-- A type is read back, in each of its ten forms. -/
theorem DataType.decodes (inside : Bool) (type : DataType) :
    Decodes (decode inside) type.toJson type := by
  cases type with
  | void | boolean | integer | long | decimal | string | dateTime =>
    exact decodes_variant inside rfl (by decide) (decodes_unit _)
  | enumeration name | object name | list name =>
    exact decodes_variant inside rfl (by simp) (decodes_field (decodes_text name))

/-- A translation is read back with its language. -/
theorem Translation.decodes (translation : Translation) :
    Decodes decode translation.toJson translation :=
  decodes_record (fun _ _ => rfl) rfl (by decide)
    (.field (.required (decodes_text _)) (.field (.required (decodes_text _)) (.built _)))

/-- A text is read back with its translations in their order. -/
theorem TranslatedText.decodes (text : TranslatedText) : Decodes decode text.toJson text := by
  have translations := decodes_list fun translation (_ : translation ∈ text.translations) =>
    translation.decodes
  exact decodes_record (fun _ _ => rfl) rfl (by decide)
    (.field (.required translations) (.built _))

/-- The colors have different names. -/
theorem Color.decodes (inside : Bool) (color : Color) : Decodes (decode inside) color.toJson color :=
  decodes_constant inside (by cases color <;> decide)

/-- The log levels have different names. -/
theorem LogLevel.decodes (inside : Bool) (level : LogLevel) :
    Decodes (decode inside) level.toJson level :=
  decodes_constant inside (by cases level <;> decide)

/-- The operations on lists have different names. -/
theorem ListOperation.decodes (inside : Bool) (operation : ListOperation) :
    Decodes (decode inside) operation.toJson operation :=
  decodes_constant inside (by cases operation <;> decide)

/-- A reference is read back with its entity, which may have any name. -/
theorem AttributeRef.decodes (reference : AttributeRef) :
    Decodes decode reference.toJson reference :=
  decodes_record (fun _ _ => rfl) rfl (by decide)
    (.field (.required (decodes_text _)) (.field (.required (decodes_text _)) (.built _)))

/-! ## Actions -/

namespace Action

/-- The type of a created variable is one of its fields, and is read by its own reader. -/
theorem decodes_createVariable (name : String) (type : DataType) (initial : String) :
    Decodes decodeCreateVariable
      (record [("variable_name", .text name), ("variable_type", type.toJson),
        ("initial_value", .text initial)])
      (.createVariable name type initial) :=
  decodes_record (fun _ _ => rfl) rfl (by decide)
    (.field (.required (decodes_text _))
      (.field (.required (type.decodes true))
        (.field (.required (decodes_text _)) (.built _))))

/-- A changed variable is read back with its new value. -/
theorem decodes_changeVariable (name value : String) :
    Decodes decodeChangeVariable
      (record [("variable_name", .text name), ("value", .text value)])
      (.changeVariable name value) :=
  decodes_record (fun _ _ => rfl) rfl (by decide)
    (.field (.required (decodes_text _))
      (.field (.required (decodes_text _)) (.built _)))

/-- A changed list is read back with the operation. -/
theorem decodes_changeList (list : String) (operation : ListOperation) (value : String) :
    Decodes decodeChangeList
      (record [("list_variable", .text list), ("operation", operation.toJson),
        ("value", .text value)])
      (.changeList list operation value) :=
  decodes_record (fun _ _ => rfl) rfl (by decide)
    (.field (.required (decodes_text _))
      (.field (.required (operation.decodes true))
        (.field (.required (decodes_text _)) (.built _))))

/-- A log message is read back with its arguments in order. -/
theorem decodes_logMessage (level : LogLevel) (logNode template : String)
    (arguments : List String) :
    Decodes decodeLogMessage
      (record [("level", level.toJson), ("node", .text logNode), ("template", .text template),
        ("arguments", .list .text arguments)])
      (.logMessage level logNode template arguments) := by
  have listed := decodes_list fun content (_ : content ∈ arguments) => decodes_text content
  exact decodes_record (fun _ _ => rfl) rfl (by decide)
    (.field (.required (level.decodes true))
      (.field (.required (decodes_text _))
        (.field (.required (decodes_text _))
          (.field (.required listed) (.built _)))))

/-- A page that is shown without an argument is written with null for it. -/
theorem decodes_showPage (page : String) (argument : Option String) :
    Decodes decodeShowPage
      (record [("page", .text page), ("page_argument", .optional .text argument)])
      (.showPage page argument) :=
  decodes_record (fun _ _ => rfl) rfl (by decide)
    (.field (.required (decodes_text _))
      (.field (.nullable (decodes_optionalText _)) (.built _)))

/-- A call without an output is written with null for it. -/
theorem decodes_callJava (javaAction : String) (output : Option String) :
    Decodes decodeCallJava
      (record [("java_action", .text javaAction), ("output_variable", .optional .text output)])
      (.callJava javaAction output) :=
  decodes_record (fun _ _ => rfl) rfl (by decide)
    (.field (.required (decodes_text _))
      (.field (.nullable (decodes_optionalText _)) (.built _)))

/-- A call of a microflow is read back like that of a Java action, but for its field. -/
theorem decodes_callMicroflow (microflow : String) (output : Option String) :
    Decodes decodeCallMicroflow
      (record [("microflow", .text microflow), ("output_variable", .optional .text output)])
      (.callMicroflow microflow output) :=
  decodes_record (fun _ _ => rfl) rfl (by decide)
    (.field (.required (decodes_text _))
      (.field (.nullable (decodes_optionalText _)) (.built _)))

/-- A message is read back with all its translations. -/
theorem decodes_validationFeedback (subject : String) (target : AttributeRef)
    (feedback : TranslatedText) :
    Decodes decodeValidationFeedback
      (record [("object_variable", .text subject), ("attribute", target.toJson),
        ("feedback", feedback.toJson)])
      (.validationFeedback subject target feedback) :=
  decodes_record (fun _ _ => rfl) rfl (by decide)
    (.field (.required (decodes_text _))
      (.field (.required target.decodes)
        (.field (.required feedback.decodes) (.built _))))

/-- An action is read back, in each of its ten forms. -/
theorem decodes (inside : Bool) (action : Action) :
    Decodes (decode inside) action.toJson action := by
  cases action with
  | createVariable name type initial =>
    exact decodes_variant inside rfl (by simp) (decodes_createVariable name type initial)
  | changeVariable name value =>
    exact decodes_variant inside rfl (by simp) (decodes_changeVariable name value)
  | changeList list operation value =>
    exact decodes_variant inside rfl (by simp) (decodes_changeList list operation value)
  | delete name => exact decodes_variant inside rfl (by simp) (decodes_field (decodes_text name))
  | logMessage level logNode template arguments =>
    exact decodes_variant inside rfl (by simp)
      (decodes_logMessage level logNode template arguments)
  | showPage page argument =>
    exact decodes_variant inside rfl (by simp) (decodes_showPage page argument)
  | callJava javaAction output =>
    exact decodes_variant inside rfl (by simp) (decodes_callJava javaAction output)
  | callMicroflow microflow output =>
    exact decodes_variant inside rfl (by simp) (decodes_callMicroflow microflow output)
  | validationFeedback subject target feedback =>
    exact decodes_variant inside rfl (by simp)
      (decodes_validationFeedback subject target feedback)
  | other typeName =>
    exact decodes_variant inside rfl (by simp) (decodes_field (decodes_text typeName))

end Action

/-! ## Nodes, flows, microflows -/

namespace NodeKind

/-- The color of an activity is written beside its action, so a wrong one is read back wrong. -/
theorem decodes_activity (action : Action) (color : Color) :
    Decodes decodeActivity
      (record [("action", action.toJson), ("background_color", color.toJson)])
      (.activity action color) :=
  decodes_record (fun _ _ => rfl) rfl (by decide)
    (.field (.required (action.decodes true))
      (.field (.required (color.decodes true)) (.built _)))

/-- A split is read back with its condition as it was written. -/
theorem decodes_split (condition caption : String) :
    Decodes decodeSplit (record [("condition", .text condition), ("caption", .text caption)])
      (.split condition caption) :=
  decodes_record (fun _ _ => rfl) rfl (by decide)
    (.field (.required (decodes_text _))
      (.field (.required (decodes_text _)) (.built _)))

/-- A parameter is read back with its type. -/
theorem decodes_parameter (name : String) (type : DataType) :
    Decodes decodeParameter (record [("name", .text name), ("variable_type", type.toJson)])
      (.parameter name type) :=
  decodes_record (fun _ _ => rfl) rfl (by decide)
    (.field (.required (decodes_text _))
      (.field (.required (type.decodes true)) (.built _)))

/-- The kind of a node is read back, in each of its six forms. -/
theorem decodes (inside : Bool) (kind : NodeKind) : Decodes (decode inside) kind.toJson kind := by
  cases kind with
  | startEvent | merge => exact decodes_variant inside rfl (by decide) (decodes_unit _)
  | endEvent value =>
    exact decodes_variant inside rfl (by simp) (decodes_field (decodes_text value))
  | activity action color =>
    exact decodes_variant inside rfl (by simp) (decodes_activity action color)
  | split condition caption =>
    exact decodes_variant inside rfl (by simp) (decodes_split condition caption)
  | parameter name type =>
    exact decodes_variant inside rfl (by simp) (decodes_parameter name type)

end NodeKind

/-- A node is read back if its id, place and size are in range. Its size is not compared with its
kind. -/
theorem Node.decodes (inside : Bool) {node : Node} (inRange : node.InRange) :
    Decodes (decode inside) node.toJson node :=
  decodes_record (fun _ _ => rfl) rfl (by decide)
    (.field (.required (decodes_word inRange.id))
      (.field (.required (Position.decodes inRange.position))
        (.field (.required (Size.decodes inRange.size))
          (.field (.required (node.kind.decodes inside)) (.built _)))))

/-- A flow is read back, with or without a case label. -/
theorem Flow.decodes (inside : Bool) {flow : Flow} (inRange : flow.InRange) :
    Decodes (decode inside) flow.toJson flow :=
  decodes_record (fun _ _ => rfl) rfl (by decide)
    (.field (.required (decodes_word inRange.origin))
      (.field (.required (decodes_word inRange.destination))
        (.field (.required (flow.originSide.decodes inside))
          (.field (.required (flow.destinationSide.decodes inside))
            (.field (.nullable (decodes_optionalText _)) (.built _))))))

/-- A microflow with numbers in range is read back from its written form. -/
theorem Microflow.decodes (inside : Bool) {microflow : Microflow} (inRange : microflow.InRange) :
    Decodes (decode inside) microflow.toJson microflow := by
  have nodes := decodes_list fun node isNode => Node.decodes inside (inRange.nodes node isNode)
  have flows := decodes_list fun flow isFlow => Flow.decodes inside (inRange.flows flow isFlow)
  exact decodes_record (fun _ _ => rfl) rfl (by decide)
    (.field (.required (decodes_text _))
      (.field (.required (microflow.returnType.decodes inside))
        (.field (.withDefault (decodes_bool _))
          (.field (.withDefault microflow.concurrencyMessage.decodes)
            (.field (.withDefault nodes)
              (.field (.withDefault flows) (.built _)))))))

end FlowModel
