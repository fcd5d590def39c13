import FlowModel.Proofs.Workspace.Selection

/-!
# What labels tell

Names and places are answered from containers and labels alone: the module of a container, its
folders and its path, the qualified name of a document and the document with a qualified name. So
workspaces that differ in bodies only answer such questions alike (`ReadsLabels.alike`).
-/

namespace FlowModel.Workspace

variable {first second : Workspace}

/-- A question that is answered without bodies as it is with them. -/
def ReadsLabels {α : Type} (question : Workspace → α) : Prop :=
  ∀ workspace, question workspace.unloadAll = question workspace

/-- Workspaces that differ in bodies only answer alike. -/
theorem ReadsLabels.alike {α : Type} {question : Workspace → α} (reads : ReadsLabels question)
    (same : first.unloadAll = second.unloadAll) : question first = question second := by
  rw [← reads first, same, reads second]

/-! ## Containers -/

/-- The containers are not touched when bodies are dropped. -/
theorem readsLabels_containers : ReadsLabels containers := fun _ => rfl

/-- To look up a container no body is needed. -/
theorem readsLabels_container (id : ContainerId) : ReadsLabels (·.container id) := fun _ => rfl

/-- To find a module by name no body is needed. -/
theorem readsLabels_moduleNamed? (name : String) : ReadsLabels (·.moduleNamed? name) :=
  fun _ => rfl

/-- To climb to a module no body is needed. -/
theorem readsLabels_moduleOf (id : ContainerId) : ReadsLabels (·.moduleOf id) :=
  fun workspace => workspace.climb_unloadAll _ id

/-- To name the module of a container no body is needed. -/
theorem readsLabels_moduleName (id : ContainerId) : ReadsLabels (·.moduleName id) :=
  fun workspace => workspace.moduleName_unloadAll id

/-- To find a folder directly in a container no body is needed. -/
theorem readsLabels_childFolder? (parent : ContainerId) (name : String) :
    ReadsLabels (·.childFolder? parent name) :=
  fun _ => rfl

/-- To find a folder below a container no body is needed, at any depth of the search. -/
theorem readsLabels_findFolder? (root : ContainerId) (name : String) :
    ReadsLabels (·.findFolder? root name) := by
  intro workspace
  suffices within : ∀ depth root, workspace.unloadAll.findFolderWithin name depth root =
      workspace.findFolderWithin name depth root from within _ root
  intro depth
  induction depth with
  | zero => exact fun _ => rfl
  | succ depth inductionHypothesis =>
    intro root
    simp only [findFolderWithin, inductionHypothesis]
    rfl

/-- To name the containers down to one no body is needed, at any height of the climb. -/
theorem readsLabels_path (id : ContainerId) : ReadsLabels (·.path id) := by
  intro workspace
  suffices within : ∀ atMost id, workspace.unloadAll.pathWithin atMost id =
      workspace.pathWithin atMost id from within _ id
  intro atMost
  induction atMost with
  | zero => exact fun _ => rfl
  | succ atMost inductionHypothesis =>
    intro id
    simp only [pathWithin, inductionHypothesis]
    rfl

/-! ## Documents -/

/-- The next document id does not depend on bodies. -/
theorem readsLabels_numberOfDocuments : ReadsLabels (·.documents.length) :=
  fun _ => List.length_map _

/-- To list the documents of a kind no body is needed; the kind is in the label. -/
theorem readsLabels_documentsOfKind (kind : DocumentKind) : ReadsLabels (·.documentsOfKind kind) :=
  fun workspace => workspace.documentsOfKind_unloadAll kind

/-- To find the domain model of a module no body is needed, though one is needed to read it. -/
theorem readsLabels_domainModelOf? (owner : ContainerId) : ReadsLabels (·.domainModelOf? owner) :=
  fun _ => congrArg List.head? (placesWhere_map ..)

/-- To choose microflows by their modules no body is needed, so a run knows what to load before it
loads. -/
theorem readsLabels_selectedMicroflows (modules : List String) :
    ReadsLabels (·.selectedMicroflows modules) :=
  fun workspace => workspace.selectedMicroflows_unloadAll modules

/-- A document has its qualified name whether it is loaded or not. -/
theorem readsLabels_qualifiedName (id : DocumentId) : ReadsLabels (·.qualifiedName id) := by
  intro workspace
  simp only [qualifiedName, document_unloadAll, moduleName_unloadAll]
  cases workspace.document id <;> rfl

/-- To find a document by its qualified name no body is needed. -/
theorem readsLabels_find? (kind : DocumentKind) (qualified : String) :
    ReadsLabels (·.find? kind qualified) := by
  intro workspace
  have lies : ∀ holder owner, workspace.unloadAll.liesIn holder owner =
      workspace.liesIn holder owner := by
    intro holder owner
    simp only [liesIn, readsLabels_moduleOf holder workspace]
  simp only [find?, lies]
  simp only [unloadAll, placesWhere_map]
  rfl

end FlowModel.Workspace
