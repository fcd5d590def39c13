import FlowModel.Failure
import FlowModel.Settings.Basic
import FlowModel.Toml.Reader

/-!
# Settings in TOML documents

Settings are tables whose keys are all optional, apart from the name of a selected module. Unknown keys are skipped,
but their numbers have to be in range. A table may be written as an array of its values in order; values beyond the
last one are not looked at. A date stands for a table without known keys.
-/

namespace FlowModel

namespace Toml

/-- A text. -/
def decodeText : Toml → Option String
  | .string text => some text
  | _ => none

/-- Items of one kind. -/
def decodeList {α : Type} (decode : Toml → Option α) : Toml → Option (List α)
  | .array items => items.mapM decode
  | _ => none

/-- The values of the declared keys of a table. -/
def fields? (declared : List String) : Toml → Option (List (String × Toml))
  | .table entries =>
    if entries.all fun (key, value) => declared.contains key || value.isReadable then some entries else none
  | .array items => some (declared.zip items)
  | .date => some []
  | _ => none

/-- The value of a key, which has a value of its own when it is missing. -/
def field? {α : Type} (fields : List (String × Toml)) (key : String) (missing : α) (decode : Toml → Option α) :
    Option α :=
  match fields.lookup key with
  | some value => decode value
  | none => some missing

end Toml

open Toml

def ModuleSelection.decode (value : Toml) : Option ModuleSelection := do
  let fields ← fields? ["name", "entities"] value
  return {
    name := ← (fields.lookup "name").bind decodeText
    entities := ← field? fields "entities" [] (decodeList decodeText) }

def ValidationSettings.decode (value : Toml) : Option ValidationSettings := do
  let fields ← fields? ["folder_name", "microflow_prefix", "valid_variable_name", "required_field_message", "modules"]
    value
  return {
    folderName := ← field? fields "folder_name" standard.folderName decodeText
    microflowPrefix := ← field? fields "microflow_prefix" standard.microflowPrefix decodeText
    validVariable := ← field? fields "valid_variable_name" standard.validVariable decodeText
    requiredMessage := ← field? fields "required_field_message" standard.requiredMessage decodeText
    modules := ← field? fields "modules" standard.modules (decodeList ModuleSelection.decode) }

def PageLoggingSettings.decode (value : Toml) : Option PageLoggingSettings := do
  let fields ← fields? ["logging_module", "folder_name", "ip_address_action", "browser_type_action",
    "ip_address_variable", "browser_type_variable", "log_node", "microflow_prefix", "microflow_suffix"] value
  return {
    loggingModule := ← field? fields "logging_module" standard.loggingModule decodeText
    folderName := ← field? fields "folder_name" standard.folderName decodeText
    addressAction := ← field? fields "ip_address_action" standard.addressAction decodeText
    browserAction := ← field? fields "browser_type_action" standard.browserAction decodeText
    addressVariable := ← field? fields "ip_address_variable" standard.addressVariable decodeText
    browserVariable := ← field? fields "browser_type_variable" standard.browserVariable decodeText
    logNode := ← field? fields "log_node" standard.logNode decodeText
    microflowPrefix := ← field? fields "microflow_prefix" standard.microflowPrefix decodeText
    microflowSuffix := ← field? fields "microflow_suffix" standard.microflowSuffix decodeText }

def RecolorSettings.decode (value : Toml) : Option RecolorSettings := do
  let fields ← fields? ["modules"] value
  return ⟨← field? fields "modules" standard.modules (decodeList decodeText)⟩

def NamingSettings.decode (value : Toml) : Option NamingSettings := do
  let fields ← fields? ["prefixes", "modules"] value
  return {
    prefixes := ← field? fields "prefixes" standard.prefixes (decodeList decodeText)
    modules := ← field? fields "modules" standard.modules (decodeList decodeText) }

namespace Settings

def decode (value : Toml) : Option Settings := do
  let fields ← fields? ["branch", "validation", "page_logging", "recolor", "naming"] value
  return {
    branch := ← field? fields "branch" standard.branch decodeText
    validation := ← field? fields "validation" standard.validation ValidationSettings.decode
    pageLogging := ← field? fields "page_logging" standard.pageLogging PageLoggingSettings.decode
    recolor := ← field? fields "recolor" standard.recolor RecolorSettings.decode
    naming := ← field? fields "naming" standard.naming NamingSettings.decode }

/-- The settings that a TOML document holds. -/
def ofText (content : String) : Except SettingsFault Settings :=
  match (Toml.ofText? content).bind decode with
  | some settings => .ok settings
  | none => .error .malformed

/-- The settings in a file of which either the bytes are known or why they could not be read. -/
def ofFile (path : String) (bytes : Except ReadFault ByteArray) : Except SettingsFault Settings :=
  match bytes with
  | .error fault => .error (.unreadable path fault)
  | .ok bytes =>
    match String.fromUTF8? bytes with
    | some content => ofText content
    | none => .error (.unreadable path .notText)

end Settings

end FlowModel
