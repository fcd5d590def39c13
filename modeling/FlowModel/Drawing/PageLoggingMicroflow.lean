import FlowModel.Drawing.Draft
import FlowModel.Settings.Basic

/-!
# Logging microflows

The logging microflow of a page asks for the address and the browser of the user, logs the access and opens the
page. When the page expects an object, the microflow takes it as its only parameter and hands it on.
-/

namespace FlowModel

/-- Distance between the steps of a logging microflow. -/
def loggingStep : Int := 200

namespace Draft

/-- Take the object that a page expects as a parameter, and give the argument for the page. -/
def addPageParameter : Option String → Drafting (Option String)
  | none => return none
  | some entity => do
    let name := QualifiedName.localPart entity
    let _ ← addParameter name (.object entity)
    return some ("$" ++ name)

/-- Draw the logging microflow of a page on an empty draft. -/
def drawPageLogging (page : String) (entity? : Option String) (settings : PageLoggingSettings) : Drafting Unit := do
  let argument ← addPageParameter entity?
  let start ← place (← create .startEvent) 0 0 none
  let address ← append (.perform (.callJava settings.addressAction (some settings.addressVariable))) loggingStep 0 start
  let browser ← append (.perform (.callJava settings.browserAction (some settings.browserVariable))) loggingStep 0
    address
  let log ← append
    (.perform (.logMessage .info settings.logNode page
      ["$" ++ settings.addressVariable, "$" ++ settings.browserVariable])) loggingStep 0 browser
  let shown ← append (.perform (.showPage page argument)) loggingStep 0 log
  let _ ← append (.endEvent "false") 100 0 shown

end Draft

/-- The logging microflow of a page that may expect an object of some entity, unless ids or canvas are
exhausted. -/
def pageLoggingMicroflow? (page : String) (entity? : Option String) (settings : PageLoggingSettings) :
    Option Microflow := do
  let ((), draft) ← (Draft.drawPageLogging page entity? settings).run
    (.empty (settings.microflowName page) .boolean)
  return draft.microflow

end FlowModel
