import FlowModel.Generation.NamingAudit
import FlowModel.Generation.PageLogging
import FlowModel.Generation.Validation
import FlowModel.Repository.Basic

/-!
# Runs

A run loads what its generator reads, lets the generator work on the checked-out workspace and commits once if
anything changed. A failure ends the run before the commit. The audit of names loads nothing and never commits.
-/

namespace FlowModel.Repository

/-- Let a generator work on the checked-out workspace with a fresh report, and give the report. -/
def generate (kind : RunKind) (generation : Generation Unit) : Transaction Report := do
  let repository ← get
  match generation.run ⟨repository.checkedOut, .empty kind⟩ with
  | .ok () work =>
    set { repository with checkedOut := work.workspace }
    return work.report
  | .error failure work =>
    set { repository with checkedOut := work.workspace }
    throw failure

/-- Commit the changes of a report, if there are any, and note the revision. -/
def finish (settings : Settings) (report : Report) : Transaction Report := do
  if report.hasChanges then
    let revision ← commit settings.commitBranch?
    return { report with revision := some revision }
  else
    return report

/-- Create validation microflows. Only the domain models of selected modules are loaded. -/
def runValidation (settings : Settings) : Transaction Report := do
  let modules := settings.validation.modules.map (·.name)
  unless modules.isEmpty do
    let _ ← loadAll .domainModel modules
  finish settings (← generate .validation (Generation.generateValidation settings.validation))

/-- Create logging microflows. All pages and then all domain models are loaded. -/
def runPageLogging (settings : Settings) : Transaction Report := do
  let _ ← loadAll .page []
  let _ ← loadAll .domainModel []
  finish settings (← generate .pageLogging (Generation.generatePageLogging settings.pageLogging))

/-- Recolor microflows. The microflows of selected modules are loaded. -/
def runRecolor (settings : Settings) : Transaction Report := do
  let _ ← loadAll .microflow settings.recolor.modules
  finish settings (← generate .recolor (Generation.recolorMicroflows settings.recolor))

/-- Audit names. -/
def runNamingAudit (settings : Settings) : Transaction Report :=
  generate .namingAudit (Generation.auditNaming settings.naming)

/-- The run of a kind. -/
def run (kind : RunKind) (settings : Settings) : Transaction Report :=
  match kind with
  | .validation => runValidation settings
  | .pageLogging => runPageLogging settings
  | .recolor => runRecolor settings
  | .namingAudit => runNamingAudit settings

end FlowModel.Repository
