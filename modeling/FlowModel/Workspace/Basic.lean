import FlowModel.Failure
import FlowModel.Project.Basic

/-!
# Workspaces

A workspace holds a checked-out project as two growing lists: containers, which are modules and folders, and
documents. An id is a place in its list. Folders name the container they lie in, documents the container that
holds them. The body of a document may be missing until it is loaded; name, kind and place are always known.
-/

namespace FlowModel

/-- Containers are numbered in the order in which they were created. -/
abbrev ContainerId := Nat

/-- Documents are numbered in the order in which they were created. -/
abbrev DocumentId := Nat

/-- What a container is. -/
inductive ContainerKind where
  | module
  | folder
deriving DecidableEq, Repr, Inhabited

/-- A module or a folder. The kind is stored beside the container in which it lies; nothing here keeps the two
in step. -/
structure Container where
  name : String
  kind : ContainerKind
  parent : Option ContainerId
deriving DecidableEq, Repr, Inhabited

/-- Whether a container is a module. -/
def Container.isModule (container : Container) : Bool := container.kind == .module

/-- Whether a container is a folder that lies directly in another one. -/
def Container.isFolderIn (container : Container) (parent : ContainerId) : Bool :=
  container.kind == .folder && container.parent == some parent

/-- A document and the container that holds it. -/
structure Document where
  name : String
  kind : DocumentKind
  container : ContainerId
  body : Option DocumentBody
deriving Repr, Inhabited

/-- A document as it is created: loaded, with the name and the kind of its body. -/
def Document.ofBody (container : ContainerId) (body : DocumentBody) : Document :=
  ⟨body.name, body.kind, container, some body⟩

/-- A checked-out project. -/
structure Workspace where
  containers : List Container
  documents : List Document
deriving Repr, Inhabited

/-- The places of the members of a list that satisfy a condition, in ascending order. -/
def placesWhere {α : Type} (holds : α → Bool) (members : List α) : List Nat :=
  (members.zipIdx.filter fun (member, _) => holds member).map Prod.snd

namespace Workspace

/-- A workspace without modules. -/
def empty : Workspace := ⟨[], []⟩

/-! ## Containers -/

/-- The container with an id. -/
def container (workspace : Workspace) (id : ContainerId) : Except Failure Container :=
  match workspace.containers[id]? with
  | some found => .ok found
  | none => .error (.unknownContainer id)

/-- Append a container. Its id is the number of containers before. -/
def pushContainer (workspace : Workspace) (added : Container) : Workspace :=
  { workspace with containers := workspace.containers ++ [added] }

/-- The modules, in order. -/
def modules (workspace : Workspace) : List ContainerId := placesWhere Container.isModule workspace.containers

/-- The first module with a name. -/
def moduleNamed? (workspace : Workspace) (name : String) : Option ContainerId :=
  (placesWhere (fun found => found.isModule && found.name == name) workspace.containers).head?

/-- Climb from a container to its module, over a number of containers at most. There is no way on from a folder
that lies in no container. -/
def climb (workspace : Workspace) : Nat → ContainerId → Except Failure ContainerId
  | 0, id => .error (.unknownContainer id)
  | atMost + 1, id => do
    let found ← workspace.container id
    match found.kind, found.parent with
    | .module, _ => return id
    | .folder, some parent => workspace.climb atMost parent
    | .folder, none => throw (.unknownContainer id)

/-- The module in which a container lies. A climb meets no container twice. -/
def moduleOf (workspace : Workspace) (id : ContainerId) : Except Failure ContainerId :=
  workspace.climb workspace.containers.length id

/-- Name of the module in which a container lies. -/
def moduleName (workspace : Workspace) (id : ContainerId) : Except Failure String := do
  return (← workspace.container (← workspace.moduleOf id)).name

/-- The folders that lie directly in a container, in order. -/
def childFolders (workspace : Workspace) (parent : ContainerId) : List ContainerId :=
  placesWhere (fun found => found.isFolderIn parent) workspace.containers

/-- The first folder with a name that lies directly in a container. -/
def childFolder? (workspace : Workspace) (parent : ContainerId) (name : String) : Option ContainerId :=
  (placesWhere (fun found => found.isFolderIn parent && found.name == name) workspace.containers).head?

/-- Whether a container has a name. -/
def isNamed (workspace : Workspace) (id : ContainerId) (name : String) : Bool :=
  (workspace.containers[id]?).any fun found => found.name == name

/-- The first folder with a name below a container down to some depth, a folder before the folders in it. -/
def findFolderWithin (workspace : Workspace) (name : String) : Nat → ContainerId → Option ContainerId
  | 0, _ => none
  | depth + 1, root =>
    (workspace.childFolders root).findSome? fun child =>
      if workspace.isNamed child name then some child else workspace.findFolderWithin name depth child

/-- The first folder with a name below a container. No tree of folders is deeper than their number. -/
def findFolder? (workspace : Workspace) (root : ContainerId) (name : String) : Option ContainerId :=
  workspace.findFolderWithin name workspace.containers.length root

/-- Create a folder in a container. -/
def createFolder (workspace : Workspace) (parent : ContainerId) (name : String) :
    Except Failure (ContainerId × Workspace) := do
  let _ ← workspace.container parent
  return (workspace.containers.length, workspace.pushContainer ⟨name, .folder, some parent⟩)

/-- The folder with a name directly in a container, created if there is none, and whether it was created. -/
def ensureFolder (workspace : Workspace) (parent : ContainerId) (name : String) :
    Except Failure (ContainerId × Bool × Workspace) :=
  match workspace.childFolder? parent name with
  | some found => .ok (found, false, workspace)
  | none => do
    let (created, workspace) ← workspace.createFolder parent name
    return (created, true, workspace)

/-- The names from a module down to a container, over a number of containers at most. -/
def pathWithin (workspace : Workspace) : Nat → ContainerId → Except Failure String
  | 0, id => .error (.unknownContainer id)
  | atMost + 1, id => do
    let found ← workspace.container id
    match found.parent with
    | none => return found.name
    | some parent => return (← workspace.pathWithin atMost parent) ++ "/" ++ found.name

/-- The names from a module down to a container, with slashes between them. -/
def path (workspace : Workspace) (id : ContainerId) : Except Failure String :=
  workspace.pathWithin workspace.containers.length id

/-! ## Documents -/

/-- The document with an id. -/
def document (workspace : Workspace) (id : DocumentId) : Except Failure Document :=
  match workspace.documents[id]? with
  | some found => .ok found
  | none => .error (.unknownDocument id)

/-- Append a document with a body. Its id is the number of documents before. -/
def pushDocument (workspace : Workspace) (holder : ContainerId) (body : DocumentBody) : Workspace :=
  { workspace with documents := workspace.documents ++ [.ofBody holder body] }

/-- The documents held by a container, in order. -/
def documentsIn (workspace : Workspace) (holder : ContainerId) : List DocumentId :=
  placesWhere (fun found => found.container == holder) workspace.documents

/-- The documents of a kind, in order. -/
def documentsOfKind (workspace : Workspace) (kind : DocumentKind) : List DocumentId :=
  placesWhere (fun found => found.kind == kind) workspace.documents

/-- The name of a document after the name of its module, whatever folders lie between them. -/
def qualifiedName (workspace : Workspace) (id : DocumentId) : Except Failure String := do
  let found ← workspace.document id
  return QualifiedName.qualified (← workspace.moduleName found.container) found.name

/-- Whether a container lies in a module. -/
def liesIn (workspace : Workspace) (holder owner : ContainerId) : Bool :=
  match workspace.moduleOf holder with
  | .ok found => found == owner
  | .error _ => false

/-- The first document of a kind with a qualified name. The module is the first one with its name. -/
def find? (workspace : Workspace) (kind : DocumentKind) (qualified : String) : Option DocumentId := do
  let (moduleName, name) ← QualifiedName.split? qualified
  let owner ← workspace.moduleNamed? moduleName
  (placesWhere (fun found => found.kind == kind && found.name == name && workspace.liesIn found.container owner)
    workspace.documents).head?

/-- Create a document in a container. -/
def createDocument (workspace : Workspace) (holder : ContainerId) (body : DocumentBody) :
    Except Failure (DocumentId × Workspace) := do
  let _ ← workspace.container holder
  return (workspace.documents.length, workspace.pushDocument holder body)

/-! ## Bodies -/

/-- Whether a document is there and has a body. -/
def isLoaded (workspace : Workspace) (id : DocumentId) : Bool :=
  (workspace.documents[id]?).any fun found => found.body.isSome

/-- Drop all bodies. -/
def unloadAll (workspace : Workspace) : Workspace :=
  { workspace with documents := workspace.documents.map fun found => { found with body := none } }

/-- Change the document with an id. -/
def modifyDocument (workspace : Workspace) (id : DocumentId) (change : Document → Document) : Workspace :=
  { workspace with documents := workspace.documents.modify id change }

/-- Give a document a body. It takes the name of the body, but keeps its kind. -/
def setBody (workspace : Workspace) (id : DocumentId) (body : DocumentBody) : Except Failure Workspace := do
  let _ ← workspace.document id
  return workspace.modifyDocument id fun found => { found with name := body.name, body := some body }

/-- The body of a document. -/
def body (workspace : Workspace) (id : DocumentId) : Except Failure DocumentBody := do
  let found ← workspace.document id
  match found.body with
  | some body => return body
  | none => throw (.notLoaded found.name)

/-- The body of a domain model. -/
def domainModel (workspace : Workspace) (id : DocumentId) : Except Failure DomainModel := do
  match ← workspace.body id with
  | .domainModel content => return content
  | _ => throw (.unknownDocument id)

/-- The body of a page. -/
def page (workspace : Workspace) (id : DocumentId) : Except Failure Page := do
  match ← workspace.body id with
  | .page content => return content
  | _ => throw (.unknownDocument id)

/-- The body of a microflow. -/
def microflow (workspace : Workspace) (id : DocumentId) : Except Failure Microflow := do
  match ← workspace.body id with
  | .microflow content => return content
  | _ => throw (.unknownDocument id)

/-- Replace the body of a microflow. The name and the kind of the document stay. -/
def replaceMicroflow (workspace : Workspace) (id : DocumentId) (content : Microflow) : Workspace :=
  workspace.modifyDocument id fun found => { found with body := some (.microflow content) }

/-- The domain model that a module holds. -/
def domainModelOf? (workspace : Workspace) (owner : ContainerId) : Option DocumentId :=
  (placesWhere (fun found => found.container == owner && found.kind == .domainModel) workspace.documents).head?

/-- The entity with a qualified name, if the domain model of its module is loaded. -/
def findEntity? (workspace : Workspace) (qualified : String) : Option Entity := do
  let (moduleName, name) ← QualifiedName.split? qualified
  let owner ← workspace.moduleNamed? moduleName
  let id ← workspace.domainModelOf? owner
  let content ← (workspace.domainModel id).toOption
  content.entity? name

end Workspace

end FlowModel
