import FlowModel.Generation.Basic
import FlowModel.Settings.Basic

/-!
# Auditing names

The audit notes every microflow of the audited modules whose name starts in none of the allowed ways. It reads names
only and changes nothing but the report.
-/

namespace FlowModel.Generation

/-- Note a microflow of an audited module whose name is not allowed. -/
def auditMicroflow (settings : NamingSettings) (id : DocumentId) : Generation Unit := do
  let found ← ask fun workspace => workspace.document id
  let moduleName ← ask fun workspace => workspace.moduleName found.container
  if settings.modules.contains moduleName && !settings.allows found.name then
    let qualified ← ask fun workspace => workspace.qualifiedName id
    note fun report => report.addNamingViolation qualified

/-- Note the microflows whose names are not allowed. -/
def auditNaming (settings : NamingSettings) : Generation Unit := do
  ((← get).workspace.documentsOfKind .microflow).forM (auditMicroflow settings)

end FlowModel.Generation
