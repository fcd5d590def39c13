import FlowModel.Text.QualifiedName

/-!
# Settings of runs

Each kind of run has settings of its own; the branch for commits is common to all. Every setting has a default,
so a run needs none.
-/

namespace FlowModel

/-- A module and the entities of it that are checked. -/
structure ModuleSelection where
  name : String
  entities : List String
deriving DecidableEq, Repr, Inhabited

/-- Whether an entity is selected. A selection that lists no entity selects all. -/
def ModuleSelection.selects (selection : ModuleSelection) (entity : String) : Bool :=
  selection.entities.isEmpty || selection.entities.contains entity

/-- Settings of validation microflows: where they go, how they are named, the variable that carries the outcome, the
message at a field without a value, and the modules whose entities are checked. -/
structure ValidationSettings where
  folderName : String
  microflowPrefix : String
  validVariable : String
  requiredMessage : String
  modules : List ModuleSelection
deriving DecidableEq, Repr, Inhabited

/-- Default settings of validation microflows. -/
def ValidationSettings.standard : ValidationSettings where
  folderName := "Validation"
  microflowPrefix := "VAL_"
  validVariable := "IsValid"
  requiredMessage := "This field is required."
  modules := []

/-- The name of the validation microflow of an entity. -/
def ValidationSettings.microflowName (settings : ValidationSettings) (entity : String) : String :=
  settings.microflowPrefix ++ entity

/-- Settings of logging microflows: the module and folder where they go, the Java actions they call, the variables that
take the results, the log node, and how they are named. -/
structure PageLoggingSettings where
  loggingModule : String
  folderName : String
  addressAction : String
  browserAction : String
  addressVariable : String
  browserVariable : String
  logNode : String
  microflowPrefix : String
  microflowSuffix : String
deriving DecidableEq, Repr, Inhabited

/-- Default settings of logging microflows. -/
def PageLoggingSettings.standard : PageLoggingSettings where
  loggingModule := "CustomLogging"
  folderName := "PageLogging"
  addressAction := "CustomLogging.Java_IPAddress"
  browserAction := "CustomLogging.Java_BrowserType"
  addressVariable := "IPAddress"
  browserVariable := "BrowserType"
  logNode := "PageAccess"
  microflowPrefix := "ACT_"
  microflowSuffix := "_OpenWithLog"

/-- The name of the logging microflow of a page, which leaves out the module of the page. -/
def PageLoggingSettings.microflowName (settings : PageLoggingSettings) (page : String) : String :=
  settings.microflowPrefix ++ QualifiedName.localPart page ++ settings.microflowSuffix

/-- Settings of recoloring: the modules whose microflows are recolored. -/
structure RecolorSettings where
  modules : List String
deriving DecidableEq, Repr, Inhabited

/-- By default all modules are recolored. -/
def RecolorSettings.standard : RecolorSettings := ⟨[]⟩

/-- Settings of the audit of names: how names may start, and the modules that are audited. -/
structure NamingSettings where
  prefixes : List String
  modules : List String
deriving DecidableEq, Repr, Inhabited

/-- Default settings of the audit of names. They audit no module. -/
def NamingSettings.standard : NamingSettings where
  prefixes := ["IVK_", "ACT_", "SUB_", "WS_", "ACo_", "ADe_", "BCo_", "BDe_"]
  modules := []

/-- Whether a name starts in one of the allowed ways. -/
def NamingSettings.allows (settings : NamingSettings) (name : String) : Bool :=
  settings.prefixes.any fun start => start.toList.isPrefixOf name.toList

/-- Settings of all runs. -/
structure Settings where
  branch : String
  validation : ValidationSettings
  pageLogging : PageLoggingSettings
  recolor : RecolorSettings
  naming : NamingSettings
deriving DecidableEq, Repr, Inhabited

/-- Default settings. -/
def Settings.standard : Settings := ⟨"", .standard, .standard, .standard, .standard⟩

/-- The branch for commits; an empty name stands for the default branch. -/
def Settings.commitBranch? (settings : Settings) : Option String :=
  if settings.branch.isEmpty then none else some settings.branch

end FlowModel
