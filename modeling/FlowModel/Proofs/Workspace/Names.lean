import FlowModel.Proofs.Workspace.Growth

/-!
# Microflows by name

A workspace has a microflow with a qualified name when some microflow has that name after the name
of its module, and a module holds a microflow when it lies there, whatever folders lie between
them. Both stay true as a workspace grows. Looking up a qualified name finds only what has that
name (`hasMicroflow_of_find?`), and in a module whose name has no dot only what lies in it
(`holdsMicroflow_of_find?`).
-/

namespace FlowModel.Workspace

variable {workspace before after : Workspace} {owner : ContainerId} {name : String}

/-- Some microflow has a qualified name. -/
def HasMicroflow (workspace : Workspace) (qualified : String) : Prop :=
  ∃ (id : DocumentId) (found : Document), workspace.documents[id]? = some found ∧
    found.kind = .microflow ∧ workspace.qualifiedName id = .ok qualified

/-- Some microflow with a name lies in a module. -/
def HoldsMicroflow (workspace : Workspace) (owner : ContainerId) (name : String) : Prop :=
  ∃ (id : DocumentId) (found : Document), workspace.documents[id]? = some found ∧
    found.kind = .microflow ∧ found.name = name ∧ workspace.moduleOf found.container = .ok owner

/-- A microflow that is there keeps its qualified name, because labels are never changed and its
module is found on the same way up. -/
theorem Keeps.hasMicroflow (keeps : before.Keeps after) (has : before.HasMicroflow name) :
    after.HasMicroflow name := by
  obtain ⟨id, found, stored, kind_eq, qualified⟩ := has
  obtain ⟨later, storedLater, label_eq⟩ := keeps.documents id found stored
  obtain ⟨_, kind_eq', _⟩ := Document.label_eq_iff.mp label_eq
  exact ⟨id, later, storedLater, kind_eq'.trans kind_eq, keeps.qualifiedName qualified⟩

/-- A microflow that lies in a module remains in it under its name. -/
theorem Keeps.holdsMicroflow (keeps : before.Keeps after)
    (holds : before.HoldsMicroflow owner name) :
    after.HoldsMicroflow owner name := by
  obtain ⟨id, found, stored, kind_eq, named, located⟩ := holds
  obtain ⟨later, storedLater, label_eq⟩ := keeps.documents id found stored
  obtain ⟨name_eq, kind_eq', container_eq⟩ := Document.label_eq_iff.mp label_eq
  exact ⟨id, later, storedLater, kind_eq'.trans kind_eq, name_eq.trans named,
    container_eq ▸ keeps.moduleOf located⟩

/-- What the search for a module answers is a module, not a folder with its name. -/
theorem moduleNamed?_eq_some {id : ContainerId} (named : workspace.moduleNamed? name = some id) :
    ∃ found, workspace.containers[id]? = some found ∧ found.isModule = true ∧ found.name = name := by
  obtain ⟨found, stored, holds⟩ := mem_placesWhere.mp (List.mem_of_head? named)
  obtain ⟨isModule, same⟩ := Bool.and_eq_true_iff.mp holds
  exact ⟨found, stored, isModule, beq_iff_eq.mp same⟩

/-- A module that has been found by name lies in itself. -/
theorem moduleOf_of_moduleNamed? {id : ContainerId}
    (named : workspace.moduleNamed? name = some id) : workspace.moduleOf id = .ok id := by
  obtain ⟨_, stored, isModule, _⟩ := moduleNamed?_eq_some named
  exact moduleOf_of_isModule stored isModule

/-- What a lookup finds has the kind and lies in the first module with the name that stands
before the first dot. -/
theorem find?_eq_some {kind : DocumentKind} {qualified : String} {id : DocumentId}
    (found? : workspace.find? kind qualified = some id) :
    ∃ moduleName owner found, QualifiedName.split? qualified = some (moduleName, found.name) ∧
      workspace.moduleNamed? moduleName = some owner ∧ workspace.documents[id]? = some found ∧
      found.kind = kind ∧ workspace.moduleOf found.container = .ok owner := by
  obtain ⟨⟨moduleName, name⟩, split, rest⟩ := Option.bind_eq_some_iff.mp found?
  obtain ⟨owner, named, first⟩ := Option.bind_eq_some_iff.mp rest
  obtain ⟨found, stored, holds⟩ := mem_placesWhere.mp (List.mem_of_head? first)
  simp only [Bool.and_eq_true, beq_iff_eq] at holds
  obtain ⟨⟨kind_eq, rfl⟩, lies⟩ := holds
  refine ⟨moduleName, owner, found, split, named, stored, kind_eq, ?_⟩
  rw [liesIn] at lies
  cases located : workspace.moduleOf found.container with
  | error failure => simp [located] at lies
  | ok other => simpa [located] using lies

/-- What the lookup finds has the name that was looked up. This direction holds also with dots in
names of modules; it is the lookup that misses such microflows, not one that mistakes them. -/
theorem hasMicroflow_of_find? {qualified : String} {id : DocumentId}
    (found? : workspace.find? .microflow qualified = some id) :
    workspace.HasMicroflow qualified := by
  obtain ⟨moduleName, owner, found, split, named, stored, kind_eq, located⟩ := find?_eq_some found?
  obtain ⟨storedOwner, isOwner, _, rfl⟩ := moduleNamed?_eq_some named
  refine ⟨id, found, stored, kind_eq, ?_⟩
  rw [qualifiedName_eq_of_moduleOf stored located isOwner, QualifiedName.qualified_of_split? split]

/-- Without a dot in the name of the module the lookup splits the qualified name where it was put
together, so it ends in that module. -/
theorem holdsMicroflow_of_find? {moduleName : String} {id : DocumentId}
    (undotted : '.' ∉ moduleName.toList) (named : workspace.moduleNamed? moduleName = some owner)
    (found? : workspace.find? .microflow (QualifiedName.qualified moduleName name) = some id) :
    workspace.HoldsMicroflow owner name := by
  obtain ⟨moduleName', owner', found, split, named', stored, kind_eq, located⟩ :=
    find?_eq_some found?
  rw [QualifiedName.split?_qualified undotted] at split
  obtain ⟨rfl, rfl⟩ := Prod.mk.inj (Option.some.inj split)
  obtain rfl : owner = owner' := Option.some.inj (named.symm.trans named')
  exact ⟨id, found, stored, kind_eq, rfl, located⟩

/-! ## As a workspace grows -/

/-- A container lies in the modules in which it has always been. -/
theorem Keeps.liesIn (keeps : before.Keeps after) (rooted : before.Rooted)
    {holder : ContainerId} (inside : holder < before.containers.length) (owner : ContainerId) :
    after.liesIn holder owner = before.liesIn holder owner := by
  obtain ⟨found, _, located, _⟩ := rooted.moduleOf_of_lt inside
  simp only [Workspace.liesIn, located, keeps.moduleOf located]

/-- Whether a document has a kind and a name and lies in a module. -/
def isNamedIn (workspace : Workspace) (kind : DocumentKind) (name : String) (owner : ContainerId)
    (found : Document) : Bool :=
  found.kind == kind && found.name == name && workspace.liesIn found.container owner

/-- Once the name has been split and its module is known, the lookup is a search among the
documents, with no other module tried. -/
theorem find?_of_split? {kind : DocumentKind} {qualified moduleName : String}
    (split : QualifiedName.split? qualified = some (moduleName, name))
    (named : workspace.moduleNamed? moduleName = some owner) :
    workspace.find? kind qualified =
      workspace.documents.findIdx? (workspace.isNamedIn kind name owner) := by
  rw [find?, split]
  show (workspace.moduleNamed? moduleName >>= _) = _
  rw [named]
  exact head?_placesWhere ..

/-- A document is recognized as it has always been. -/
theorem Keeps.isNamedIn (keeps : before.Keeps after) (rooted : before.Rooted)
    {kind : DocumentKind} {found later : Document}
    (inside : found.container < before.containers.length) (label_eq : later.label = found.label) :
    after.isNamedIn kind name owner later = before.isNamedIn kind name owner found := by
  obtain ⟨name_eq, kind_eq, container_eq⟩ := Document.label_eq_iff.mp label_eq
  rw [Workspace.isNamedIn, Workspace.isNamedIn, name_eq, kind_eq, container_eq,
    keeps.liesIn rooted inside]

/-- What is found by name stays found. -/
theorem Keeps.find? (keeps : before.Keeps after) (rooted : before.Rooted)
    {kind : DocumentKind} {qualified : String} {id : DocumentId}
    (found : before.find? kind qualified = some id) : after.find? kind qualified = some id := by
  obtain ⟨moduleName, owner, document, split, named, _⟩ := find?_eq_some found
  rw [find?_of_split? split named] at found
  rw [find?_of_split? split (keeps.moduleNamed? named)]
  refine findIdx?_mono (fun place member stored => ?_) found
  obtain ⟨later, storedLater, label_eq⟩ := keeps.documents place member stored
  exact ⟨later, storedLater, keeps.isNamedIn rooted (rooted.holder_lt stored) label_eq⟩

/-- The first document with a name that was free is found by that name. -/
theorem Keeps.find?_concat (keeps : before.Keeps after) (rooted : before.Rooted)
    {kind : DocumentKind} {moduleName : String} (undotted : '.' ∉ moduleName.toList)
    (named : before.moduleNamed? moduleName = some owner) {added : Document}
    (grown : after.documents = before.documents ++ [added])
    (free : before.find? kind (QualifiedName.qualified moduleName added.name) = none)
    (kind_eq : added.kind = kind) (located : after.moduleOf added.container = .ok owner) :
    after.find? kind (QualifiedName.qualified moduleName added.name) =
      some before.documents.length := by
  have split : QualifiedName.split? (QualifiedName.qualified moduleName added.name) =
      some (moduleName, added.name) :=
    QualifiedName.split?_qualified undotted
  rw [find?_of_split? split named] at free
  rw [find?_of_split? split (keeps.moduleNamed? named), grown, List.findIdx?_append]
  have others : before.documents.findIdx? (after.isNamedIn kind added.name owner) = none := by
    rw [List.findIdx?_eq_none_iff] at free ⊢
    intro found member
    obtain ⟨id, inside, rfl⟩ := List.getElem_of_mem member
    have stored := List.getElem?_eq_getElem inside
    rw [keeps.isNamedIn rooted (rooted.holder_lt stored) rfl]
    exact free _ member
  have isFound : after.isNamedIn kind added.name owner added = true := by
    simp [Workspace.isNamedIn, kind_eq, Workspace.liesIn, located]
  simp [others, isFound]

/-! ## Modules of a project -/

/-- All modules have names from a list. -/
def ModulesNamed (names : List String) (workspace : Workspace) : Prop :=
  ∀ found ∈ workspace.containers, found.isModule = true → found.name ∈ names

namespace ModulesNamed

variable {names : List String}

/-- A new folder needs no name from the list, a new module does. -/
theorem pushContainer (named : workspace.ModulesNamed names) {added : Container}
    (isNamed : added.isModule = true → added.name ∈ names) :
    (workspace.pushContainer added).ModulesNamed names := by
  intro found member isModule
  rcases List.mem_append.mp member with earlier | last
  · exact named found earlier isModule
  · obtain rfl := List.mem_singleton.mp last
    exact isNamed isModule

/-- Documents are no modules, whatever they are called. -/
theorem pushDocuments (named : workspace.ModulesNamed names) (holder : ContainerId)
    (bodies : List DocumentBody) : (workspace.pushDocuments holder bodies).ModulesNamed names := by
  induction bodies generalizing workspace with
  | nil => exact named
  | cons body later inductionHypothesis => exact inductionHypothesis named

/-- Folders are no modules. -/
theorem pushFolders :
    (∀ (workspace : Workspace) parent folder, workspace.ModulesNamed names →
      (workspace.pushFolder parent folder).ModulesNamed names) ∧
    (∀ (workspace : Workspace) parent folders, workspace.ModulesNamed names →
      (workspace.pushFolders parent folders).ModulesNamed names) := by
  apply Workspace.pushFolder.mutual_induct
  · intro workspace parent name folders documents inner named
    rw [Workspace.pushFolder]
    have entered : (workspace.pushContainer ⟨name, .folder, some parent⟩).ModulesNamed names :=
      named.pushContainer (by simp [Container.isModule])
    exact inner (entered.pushDocuments _ documents)
  · intro workspace parent named
    rw [Workspace.pushFolders]
    exact named
  · intro workspace parent folder folders first rest named
    rw [Workspace.pushFolders]
    exact rest (first named)

/-- Checking out a module adds its own name only: its folders and documents do not matter. -/
theorem pushModule (named : workspace.ModulesNamed names) {added : Module}
    (isNamed : added.name ∈ names) : (workspace.pushModule added).ModulesNamed names := by
  refine pushFolders.2 _ _ _ (pushDocuments ?_ _ _)
  exact named.pushContainer fun _ => isNamed

/-- A project that has been checked out has its own modules only. -/
theorem ofProject (project : Project) :
    (Workspace.ofProject project).ModulesNamed (project.modules.map (·.name)) := by
  have from? : ∀ (names : List String) (modules : List Module) (before : Workspace),
      before.ModulesNamed names → (∀ added ∈ modules, added.name ∈ names) →
      (modules.foldl Workspace.pushModule before).ModulesNamed names := by
    intro names modules
    induction modules with
    | nil => exact fun before named _ => named
    | cons added later inductionHypothesis =>
      intro before named isNamed
      exact inductionHypothesis _ (named.pushModule (isNamed added List.mem_cons_self))
        fun other member => isNamed other (List.mem_cons_of_mem _ member)
  exact from? _ project.modules empty nofun fun added member => List.mem_map_of_mem member

end ModulesNamed

end FlowModel.Workspace
