import FlowModel.Workspace.Basic

/-!
# Workspaces and projects

A project is checked out into a workspace module by module: first the domain model, then the documents of the
module, then its folders one after another, each with its documents before its folders. A workspace whose
documents are loaded is written back as a project; the first domain model of a module becomes the module's own,
and other domain models are left out.
-/

namespace FlowModel.Workspace

/-- Append documents to a container. -/
def pushDocuments (workspace : Workspace) (holder : ContainerId) (bodies : List DocumentBody) : Workspace :=
  bodies.foldl (fun workspace body => workspace.pushDocument holder body) workspace

mutual

/-- Append a folder to a container with all that it holds. -/
def pushFolder : Workspace → ContainerId → Folder → Workspace
  | workspace, parent, ⟨name, folders, documents⟩ =>
    pushFolders
      ((workspace.pushContainer ⟨name, .folder, some parent⟩).pushDocuments workspace.containers.length documents)
      workspace.containers.length folders

/-- Append folders to a container with all that they hold. -/
def pushFolders : Workspace → ContainerId → List Folder → Workspace
  | workspace, _, [] => workspace
  | workspace, parent, folder :: folders => pushFolders (pushFolder workspace parent folder) parent folders

end

/-- Append a module with all that it holds. -/
def pushModule (workspace : Workspace) (added : Module) : Workspace :=
  let id := workspace.containers.length
  let entered := (workspace.pushContainer ⟨added.name, .module, none⟩).pushDocument id (.domainModel added.domainModel)
  (entered.pushDocuments id added.documents).pushFolders id added.folders

/-- Check out a project with all bodies. -/
def ofProject (project : Project) : Workspace := project.modules.foldl pushModule empty

/-- The bodies of the documents that a container holds, domain models left out. -/
def bodiesIn (workspace : Workspace) (holder : ContainerId) : Except Failure (List DocumentBody) :=
  (placesWhere (fun found => found.container == holder && found.kind != .domainModel) workspace.documents).mapM
    workspace.body

/-- The folders and documents of a container, with folders down to some depth. -/
def contents (workspace : Workspace) : Nat → ContainerId → Except Failure (List Folder × List DocumentBody)
  | 0, id => .error (.unknownContainer id)
  | depth + 1, id => do
    let documents ← workspace.bodiesIn id
    let folders ← (workspace.childFolders id).mapM fun child => do
      let (folders, documents) ← workspace.contents depth child
      return ⟨(← workspace.container child).name, folders, documents⟩
    return (folders, documents)

/-- A module with all that it holds. -/
def toModule (workspace : Workspace) (id : ContainerId) : Except Failure Module := do
  let domainModel ←
    match workspace.domainModelOf? id with
    | some found => workspace.domainModel found
    | none => pure ⟨[]⟩
  let (folders, documents) ← workspace.contents workspace.containers.length id
  return ⟨(← workspace.container id).name, domainModel, folders, documents⟩

/-- Write a workspace back as a project. All documents that are written have to be loaded. -/
def toProject (workspace : Workspace) : Except Failure Project := do
  return ⟨← workspace.modules.mapM workspace.toModule⟩

end FlowModel.Workspace
