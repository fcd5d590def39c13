import FlowModel.Generation.Recoloring
import FlowModel.Workspace.Snapshot

/-!
# Repositories

A repository keeps the published state of a project, which is a workspace with all bodies, and a checked-out
workspace whose bodies are missing until they are loaded. A commit publishes the checked-out workspace, with the
published bodies where its own are missing. Loads and commits can be made to fail.
-/

namespace FlowModel

/-- A repository and its checked-out workspace. -/
structure Repository where
  published : Workspace
  checkedOut : Workspace
  revision : Nat
  commits : List Revision
  loads : Nat
  failLoads : Bool
  failCommits : Bool
deriving Repr, Inhabited

/-- A step of a repository. -/
abbrev Transaction (α : Type) := EStateM Failure Repository α

namespace Repository

/-- A repository that publishes a project and has checked it out. -/
def ofProject (project : Project) : Repository :=
  let published := Workspace.ofProject project
  ⟨published, published.unloadAll, 0, [], 0, false, false⟩

/-- Discard the checked-out workspace and check out what is published. -/
def checkout (repository : Repository) : Repository :=
  { repository with checkedOut := repository.published.unloadAll }

/-- Give a document of a workspace the published body, if it has none. -/
def fillBody (published merged : Workspace) (id : DocumentId) : Except Failure Workspace :=
  if merged.isLoaded id then .ok merged
  else do
    let body ← published.body id
    merged.setBody id body

/-- The checked-out workspace with the published bodies where its own are missing. -/
def merged (repository : Repository) : Except Failure Workspace :=
  (List.range repository.published.documents.length).foldlM (fillBody repository.published) repository.checkedOut

/-- Load the body of a document, unless it is loaded. -/
def load (id : DocumentId) : Transaction Unit := do
  let repository ← get
  if repository.checkedOut.isLoaded id then return ()
  if repository.failLoads then
    throw (.repository ("load of document #" ++ id.repr ++ " failed"))
  match repository.published.body id with
  | .error failure => throw failure
  | .ok body =>
    match repository.checkedOut.setBody id body with
    | .error failure => throw failure
    | .ok checkedOut => set { repository with checkedOut, loads := repository.loads + 1 }

/-- Publish the checked-out workspace as a new revision. -/
def commit (branch : Option String) : Transaction Revision := do
  let repository ← get
  if repository.failCommits then
    throw (.repository "commit rejected")
  match repository.merged with
  | .error failure => throw failure
  | .ok published =>
    let revision : Revision := ⟨repository.revision + 1, branch⟩
    set { repository with published, revision := revision.number, commits := repository.commits ++ [revision] }
    return revision

/-- The documents of a kind in selected modules that have no body. Modules are looked at only when some are
listed. -/
def pending (workspace : Workspace) (kind : DocumentKind) (modules : List String) :
    Except Failure (List DocumentId) :=
  let unloaded := (workspace.documentsOfKind kind).filter fun id => !workspace.isLoaded id
  if modules.isEmpty then .ok unloaded else workspace.inModules modules unloaded

/-- Load the documents of a kind in selected modules, and count those that were missing. -/
def loadAll (kind : DocumentKind) (modules : List String) : Transaction Nat := do
  match pending (← get).checkedOut kind modules with
  | .error failure => throw failure
  | .ok ids => do
    ids.forM load
    return ids.length

end Repository

end FlowModel
