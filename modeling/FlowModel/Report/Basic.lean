/-!
# Reports of runs

A report lists what a run created, left out, changed or found. What was left out is no change, and neither is what
an audit found.
-/

namespace FlowModel

/-- Kind of a run. -/
inductive RunKind where
  | validation
  | pageLogging
  | recolor
  | namingAudit
deriving DecidableEq, Repr, Inhabited

/-- Name of a kind of run. -/
def RunKind.name : RunKind → String
  | .validation => "Validation"
  | .pageLogging => "PageLogging"
  | .recolor => "Recolor"
  | .namingAudit => "NamingAudit"

/-- All kinds of runs. -/
def RunKind.all : List RunKind := [.validation, .pageLogging, .recolor, .namingAudit]

/-- A revision of a project. Without a branch it is on the default branch. -/
structure Revision where
  number : Nat
  branch : Option String
deriving DecidableEq, Repr, Inhabited

/-- Why something was left out: its name is taken, or no check is known for its type. -/
inductive SkipReason where
  | nameCollision
  | unsupportedType (typeName : String)
deriving DecidableEq, Repr, Inhabited

/-- Something that was left out, by qualified name. -/
structure Skip where
  subject : String
  reason : SkipReason
deriving DecidableEq, Repr, Inhabited

/-- What a run did. -/
structure Report where
  kind : RunKind
  createdMicroflows : List String
  createdFolders : List String
  createdNodes : Nat
  skips : List Skip
  recolored : Nat
  namingViolations : List String
  revision : Option Revision
deriving DecidableEq, Repr, Inhabited

namespace Report

/-- The report of a run that has done nothing yet. -/
def empty (kind : RunKind) : Report := ⟨kind, [], [], 0, [], 0, [], none⟩

/-- Whether the run changed the workspace. -/
def hasChanges (report : Report) : Bool :=
  !report.createdMicroflows.isEmpty || !report.createdFolders.isEmpty || 0 < report.recolored

/-- Note that something was left out. -/
def skip (report : Report) (subject : String) (reason : SkipReason) : Report :=
  { report with skips := report.skips ++ [⟨subject, reason⟩] }

/-- Note a created microflow. -/
def addMicroflow (report : Report) (name : String) : Report :=
  { report with createdMicroflows := report.createdMicroflows ++ [name] }

/-- Note a created folder. -/
def addFolder (report : Report) (path : String) : Report :=
  { report with createdFolders := report.createdFolders ++ [path] }

/-- Note a name against the rules. -/
def addNamingViolation (report : Report) (name : String) : Report :=
  { report with namingViolations := report.namingViolations ++ [name] }

/-- How many artifacts were left out because their names were taken. -/
def skippedArtifacts (report : Report) : Nat := report.skips.countP fun left => left.reason == .nameCollision

/-- How many attributes were left out because of their types. -/
def skippedAttributes (report : Report) : Nat := report.skips.countP fun left => left.reason != .nameCollision

end Report

end FlowModel
