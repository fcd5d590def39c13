import FlowModel.Json.Basic
import FlowModel.Settings.Basic

/-!
# Settings as JSON values
-/

namespace FlowModel

open Json

def ModuleSelection.toJson (selection : ModuleSelection) : Json :=
  record [("name", .text selection.name), ("entities", .list .text selection.entities)]

def ValidationSettings.toJson (settings : ValidationSettings) : Json :=
  record [
    ("folder_name", .text settings.folderName),
    ("microflow_prefix", .text settings.microflowPrefix),
    ("valid_variable_name", .text settings.validVariable),
    ("required_field_message", .text settings.requiredMessage),
    ("modules", .list ModuleSelection.toJson settings.modules)]

def PageLoggingSettings.toJson (settings : PageLoggingSettings) : Json :=
  record [
    ("logging_module", .text settings.loggingModule),
    ("folder_name", .text settings.folderName),
    ("ip_address_action", .text settings.addressAction),
    ("browser_type_action", .text settings.browserAction),
    ("ip_address_variable", .text settings.addressVariable),
    ("browser_type_variable", .text settings.browserVariable),
    ("log_node", .text settings.logNode),
    ("microflow_prefix", .text settings.microflowPrefix),
    ("microflow_suffix", .text settings.microflowSuffix)]

def RecolorSettings.toJson (settings : RecolorSettings) : Json :=
  record [("modules", .list .text settings.modules)]

def NamingSettings.toJson (settings : NamingSettings) : Json :=
  record [("prefixes", .list .text settings.prefixes), ("modules", .list .text settings.modules)]

/-- The settings as written, with the branch that commits go to. -/
def Settings.toMembers (settings : Settings) : List (String × Json) := [
  ("branch", .text settings.branch),
  ("commit_branch", .optional .text settings.commitBranch?),
  ("validation", settings.validation.toJson),
  ("page_logging", settings.pageLogging.toJson),
  ("recolor", settings.recolor.toJson),
  ("naming", settings.naming.toJson)]

end FlowModel
