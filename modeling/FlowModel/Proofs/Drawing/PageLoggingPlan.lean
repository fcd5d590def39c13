import FlowModel.Drawing.PageLoggingMicroflow
import FlowModel.Proofs.Drawing.OpenTail

/-!
# The logging microflow of a page in closed form

A logging microflow is one line of six nodes behind a parameter, if the page expects an
object. Its drawing never exhausts ids or canvas, whatever the names are
(`pageLoggingMicroflow?_eq`).
-/

namespace FlowModel

open Draft

/-- The parameter of a logging microflow, if the page expects an object of an entity. -/
def pageParameters (entity? : Option String) : List Node :=
  entity?.toList.map fun entity =>
    nodeAt 0 .origin (.parameter (QualifiedName.localPart entity) (.object entity))

/-- The argument that a logging microflow hands on to its page. -/
def pageArgument (entity? : Option String) : Option String :=
  entity?.map fun entity => "$" ++ QualifiedName.localPart entity

/-- The line of a logging microflow, numbered from an id on. -/
def pageLoggingLine (page : String) (argument : Option String) (settings : PageLoggingSettings)
    (first : NodeId) : List Node :=
  [nodeAt first ⟨0, 100⟩ .startEvent,
    nodeAt (first + 1) ⟨200, 100⟩
      (.perform (.callJava settings.addressAction (some settings.addressVariable))),
    nodeAt (first + 2) ⟨400, 100⟩
      (.perform (.callJava settings.browserAction (some settings.browserVariable))),
    nodeAt (first + 3) ⟨600, 100⟩ (.perform (.logMessage .info settings.logNode page
      ["$" ++ settings.addressVariable, "$" ++ settings.browserVariable])),
    nodeAt (first + 4) ⟨800, 100⟩ (.perform (.showPage page argument)),
    nodeAt (first + 5) ⟨900, 100⟩ (.endEvent "false")]

/-- The logging microflow of a page: its parameter, its line, and a straight flow from each
node of the line to the next. -/
def pageLoggingPlan (page : String) (entity? : Option String) (settings : PageLoggingSettings) :
    Microflow :=
  let first := (pageParameters entity?).length
  (Microflow.empty (settings.microflowName page) .boolean).extended
    (pageParameters entity? ++ pageLoggingLine page (pageArgument entity?) settings first)
    ((List.range' first 5).map fun id => .ofLink id (id + 1) .straight)

/-- The parameter, if there is one, stands in front of the line and shifts the ids of the line by
one. -/
theorem pageLoggingPlan_nodes (page : String) (entity? : Option String)
    (settings : PageLoggingSettings) :
    (pageLoggingPlan page entity? settings).nodes =
      pageParameters entity? ++
        pageLoggingLine page (pageArgument entity?) settings (pageParameters entity?).length :=
  rfl

/-- Logging microflows are drawn for all pages: six nodes need few ids and a line of 900 units. -/
theorem pageLoggingMicroflow?_eq (page : String) (entity? : Option String)
    (settings : PageLoggingSettings) :
    pageLoggingMicroflow? page entity? settings = some (pageLoggingPlan page entity? settings) := by
  cases entity? with
  | none => rfl
  | some entity => rfl

/-- The parameter of a page, if there is one, takes the first id. Either way the line starts at the
next. -/
theorem prepared_pageParameters (name : String) (returnType : DataType) (entity? : Option String) :
    ((Microflow.empty name returnType).extended (pageParameters entity?) []).Prepared
      (pageParameters entity?).length := by
  cases entity? with
  | none => exact Microflow.prepared_empty name returnType
  | some entity =>
    exact (Microflow.prepared_empty name returnType).parameter .origin
      (QualifiedName.localPart entity) (.object entity)

/-- A logging microflow goes on from its start through four activities to its end. -/
theorem openAt_pageLoggingPlan (page : String) (entity? : Option String)
    (settings : PageLoggingSettings) :
    (pageLoggingPlan page entity? settings).OpenAt none ((pageParameters entity?).length + 6) := by
  have prepared := prepared_pageParameters (settings.microflowName page) .boolean entity?
  have started := prepared.start ⟨0, 100⟩
  have located := started.perform ⟨200, 100⟩
    (.callJava settings.addressAction (some settings.addressVariable))
  have asked := located.perform ⟨400, 100⟩
    (.callJava settings.browserAction (some settings.browserVariable))
  have logged := asked.perform ⟨600, 100⟩ (.logMessage .info settings.logNode page
    ["$" ++ settings.addressVariable, "$" ++ settings.browserVariable])
  have shown := logged.perform ⟨800, 100⟩ (.showPage page (pageArgument entity?))
  have closed := shown.close ⟨900, 100⟩ "false"
  cases entity? with
  | none => exact closed
  | some entity => exact closed

/-- A logging microflow breaks no rule. -/
theorem violations_pageLoggingPlan (page : String) (entity? : Option String)
    (settings : PageLoggingSettings) :
    (pageLoggingPlan page entity? settings).violations = [] :=
  (openAt_pageLoggingPlan page entity? settings).violations_eq_nil

end FlowModel
