import FlowModel.Json.Basic
import FlowModel.Report.Basic

/-!
# Reports as JSON values
-/

namespace FlowModel

open Json

def Revision.toJson (revision : Revision) : Json :=
  record [("number", .natural revision.number), ("branch", .optional .text revision.branch)]

def Skip.toJson (left : Skip) : Json :=
  record (("subject", .text left.subject) ::
    match left.reason with
    | .nameCollision => [("reason", .text "NameCollision")]
    | .unsupportedType typeName => [("reason", .text "UnsupportedAttributeType"), ("attribute_type", .text typeName)])

/-- The fields of a report as written. -/
def Report.toMembers (report : Report) : List (String × Json) := [
  ("kind", .text report.kind.name),
  ("created_microflows", .list .text report.createdMicroflows),
  ("created_folders", .list .text report.createdFolders),
  ("created_objects", .natural report.createdNodes),
  ("skips", .list Skip.toJson report.skips),
  ("recolored", .natural report.recolored),
  ("naming_violations", .list .text report.namingViolations),
  ("revision", .optional Revision.toJson report.revision)]

def Report.toJson (report : Report) : Json := record report.toMembers

end FlowModel
