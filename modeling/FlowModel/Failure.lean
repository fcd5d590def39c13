import FlowModel.Microflow.Violation

/-!
# Why work fails

Only fatal conditions are failures; name collisions and unsupported attributes are recorded in the report of a
run instead. Each failure has a stable code and a message.
-/

namespace FlowModel

/-- Why a file of settings could not be read. -/
inductive ReadFault where
  | noSuchFile
  | directory
  | notADirectory
  | notText
deriving DecidableEq, Repr, Inhabited

/-- What a reader is told about a file that could not be read. -/
def ReadFault.message : ReadFault → String
  | .noSuchFile => "No such file or directory (os error 2)"
  | .directory => "Is a directory (os error 21)"
  | .notADirectory => "Not a directory (os error 20)"
  | .notText => "stream did not contain valid UTF-8"

/-- Why settings are not available. -/
inductive SettingsFault where
  | unreadable (path : String) (fault : ReadFault)
  | malformed
deriving DecidableEq, Repr, Inhabited

/-- What a reader is told about settings that are not available. -/
def SettingsFault.message : SettingsFault → String
  | .unreadable path fault => "Failed to read configuration file " ++ path ++ ": " ++ fault.message
  | .malformed => "Failed to parse TOML configuration"

/-- A fatal condition. Containers and documents are named by id. -/
inductive Failure where
  | missingPrerequisite (what : String)
  | ambiguousPageParameter (page : String) (entities : List String)
  | notLoaded (document : String)
  | unknownContainer (id : Nat)
  | unknownDocument (id : Nat)
  | invalidGraph (microflow : String) (violations : List Violation)
  | repository (reason : String)
  | malformedSnapshot
  | settings (fault : SettingsFault)
  | outOfRange
deriving DecidableEq, Repr, Inhabited

namespace Failure

/-- The code of a failure. -/
def code : Failure → String
  | .missingPrerequisite _ => "G001"
  | .ambiguousPageParameter .. => "G002"
  | .notLoaded _ => "G003"
  | .unknownContainer _ => "G004"
  | .unknownDocument _ => "G005"
  | .invalidGraph .. => "G006"
  | .repository _ => "G007"
  | .malformedSnapshot => "G008"
  | .settings _ => "G009"
  | .outOfRange => "G010"

/-- What a reader is told about a failure. -/
def message : Failure → String
  | .missingPrerequisite what => "Missing prerequisite: " ++ what
  | .ambiguousPageParameter page entities =>
    "Page '" ++ page ++ "' references more than one parameter entity: " ++ ", ".intercalate entities
  | .notLoaded document => "Document '" ++ document ++ "' has not been loaded"
  | .unknownContainer id => "Unknown container #" ++ id.repr
  | .unknownDocument id => "Unknown document #" ++ id.repr
  | .invalidGraph microflow violations =>
    "Generated microflow '" ++ microflow ++ "' is structurally invalid: " ++
      "; ".intercalate (violations.map Violation.text)
  | .repository reason => "Repository failure: " ++ reason
  | .malformedSnapshot => "Failed to parse project snapshot"
  | .settings fault => fault.message
  | .outOfRange => "An id or a position left its range"

end Failure

end FlowModel
