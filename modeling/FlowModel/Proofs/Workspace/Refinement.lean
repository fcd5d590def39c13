import FlowModel.Proofs.Generation.Edits
import FlowModel.Proofs.Workspace.Snapshots

/-!
# Workspaces that refine projects

A workspace that has been created from a checked-out project, by creating folders and documents, can
always be written back, and what is done to it is done to the project: a folder or a document that is
created in a container comes last among the folders or documents at the address of the container, and
nothing else changes (`created_refines`). Every container has one address, and the project has no
others, so every document is written exactly once, in the order of creation.
-/

namespace FlowModel.Workspace

variable {workspace before after : Workspace} {project : Project} {id : ContainerId}
  {held : Contents} {address : Address}

/-! ## Addresses of containers and of contents -/

/-- At the end of a way down the workspace has a container exactly if the contents go on so far, and
the container is written as what is found there. -/
theorem Holds.at?_descend? (holds : workspace.Holds id held) (way : List Nat) :
    workspace.descend? way id = none ∧ held.at? way = none ∨
      ∃ inner below, workspace.descend? way id = some inner ∧ held.at? way = some below ∧
        workspace.Holds inner below := by
  induction way generalizing id held with
  | nil => exact Or.inr ⟨id, held, rfl, rfl, holds⟩
  | cons place way inductionHypothesis =>
    rw [descend?, Contents.at?]
    rcases forall₂_getElem? (holds_iff.mp holds).2 place with ⟨none, none'⟩ | ⟨child, folder, known⟩
    · rw [none, none']
      exact Or.inl ⟨rfl, rfl⟩
    · obtain ⟨listed, listed', written⟩ := known
      rw [listed, listed']
      exact inductionHypothesis written.2

/-- A workspace has containers at the same addresses as the project that it mirrors. -/
theorem Mirrors.contentsAt? (mirrors : workspace.Mirrors project) (address : Address) :
    workspace.containerAt? address = none ∧ project.contentsAt? address = none ∨
      ∃ id held, workspace.containerAt? address = some id ∧
        project.contentsAt? address = some held ∧ workspace.Holds id held := by
  rw [containerAt?, Project.contentsAt?]
  rcases forall₂_getElem? mirrors.modules address.place with ⟨none, none'⟩ | ⟨owner, written, known⟩
  · rw [none, none']
    exact Or.inl ⟨rfl, rfl⟩
  · obtain ⟨listed, listed', holds⟩ := known
    rw [listed, listed']
    exact holds.holds.at?_descend? address.way

/-- A container is written as what the project has at its address. -/
theorem Mirrors.exists_contents (mirrors : workspace.Mirrors project)
    (at? : workspace.containerAt? address = some id) :
    ∃ held, project.contentsAt? address = some held ∧ workspace.Holds id held := by
  rcases mirrors.contentsAt? address with ⟨none, _⟩ | ⟨id', held, at?', written, holds⟩
  · exact nomatch at?.symm.trans none
  · obtain rfl := Option.some.inj (at?.symm.trans at?')
    exact ⟨held, written, holds⟩

/-- A container has the name that is written at its address. -/
theorem Mirrors.nameAt?_eq (mirrors : workspace.Mirrors project)
    (at? : workspace.containerAt? address = some id) :
    ∃ found, workspace.containers[id]? = some found ∧
      project.nameAt? address = some found.name := by
  obtain ⟨place, way⟩ := address
  rcases List.eq_nil_or_concat' way with rfl | ⟨above, last, rfl⟩
  · have listed := containerAt?_nil_eq_some.mp at?
    obtain ⟨written, told, holds⟩ := exists_related_getElem? mirrors.modules listed
    obtain ⟨found, stored, named⟩ := holds.named
    exact ⟨found, stored, by simp [Project.nameAt?, told, named]⟩
  · obtain ⟨parent, atParent, listed⟩ := containerAt?_concat_eq_some.mp at?
    obtain ⟨held, written, holds⟩ := mirrors.exists_contents atParent
    obtain ⟨folder, told, ⟨found, stored, named⟩, _⟩ :=
      exists_related_getElem? (holds_iff.mp holds).2 listed
    exact ⟨found, stored, by simp [Project.nameAt?, written, told, named]⟩

/-- A container has a folder with a name exactly if such a folder is written. -/
theorem Holds.exists_childFolder?_iff (holds : workspace.Holds id held) (name : String) :
    (∃ child, workspace.childFolder? id name = some child) ↔
      ∃ folder ∈ held.1, folder.name = name := by
  have folders := (holds_iff.mp holds).2
  constructor
  · rintro ⟨child, found⟩
    obtain ⟨container, stored, satisfies⟩ := mem_placesWhere.mp (List.mem_of_head? found)
    obtain ⟨isChild, named⟩ := Bool.and_eq_true_iff.mp satisfies
    have member := mem_childFolders.mpr ⟨container, stored, isChild⟩
    obtain ⟨folder, written, ⟨container', stored', named'⟩, _⟩ :=
      exists_related_of_mem folders member
    obtain rfl := Option.some.inj (stored.symm.trans stored')
    exact ⟨folder, written, named'.symm.trans (beq_iff_eq.mp named)⟩
  · rintro ⟨folder, written, rfl⟩
    have flipped : List.Forall₂ (fun folder child => workspace.HoldsFolder child folder) held.1
        (workspace.childFolders id) := List.Forall₂.flip folders
    obtain ⟨child, member, ⟨container, stored, named⟩, _⟩ := exists_related_of_mem flipped written
    obtain ⟨container', stored', lies⟩ := mem_childFolders.mp member
    obtain rfl := Option.some.inj (stored.symm.trans stored')
    have found : child ∈ placesWhere
        (fun found => found.isFolderIn id && found.name == folder.name)
        workspace.containers :=
      mem_placesWhere.mpr ⟨container, stored, by simp [lies, named]⟩
    exact Option.isSome_iff_exists.mp (List.isSome_head?.mpr (List.ne_nil_of_mem found))

/-! ## Creating folders and documents -/

/-- A created folder is the last one at the address of its container. -/
theorem Mirrors.createFolder (mirrors : workspace.Mirrors project)
    (at? : workspace.containerAt? address = some id) (name : String) :
    ∃ after, workspace.createFolder id name = .ok (workspace.containers.length, after) ∧
      after.Mirrors (project.addAt ([⟨name, [], []⟩], []) address) := by
  have inside := lt_of_containerAt? at?
  have stored := container_eq_ok.mpr (List.getElem?_eq_getElem inside)
  refine ⟨_, bind_eq_ok.mpr ⟨_, stored, rfl⟩, ?_⟩
  exact mirrors.addAt (Adds.pushContainer mirrors.wellFormed inside name) at?

/-- A created document is the last one at the address of its container, unless it is a domain
model. -/
theorem Mirrors.createDocument (mirrors : workspace.Mirrors project)
    (at? : workspace.containerAt? address = some id) (body : DocumentBody) :
    ∃ after, workspace.createDocument id body = .ok (workspace.documents.length, after) ∧
      after.Mirrors
        (if body.kind = .domainModel then project else project.addAt ([], [body]) address) := by
  have inside := lt_of_containerAt? at?
  have stored := container_eq_ok.mpr (List.getElem?_eq_getElem inside)
  refine ⟨_, createDocument_of_stored stored body, ?_⟩
  have added := mirrors.addAt (Adds.pushDocument mirrors.wellFormed inside body) at?
  by_cases model : body.kind = .domainModel
  · have nothing : [body].filter DocumentBody.isHeld = [] := by simp [DocumentBody.isHeld, model]
    rw [nothing, project.addAt_nothing] at added
    rwa [if_pos model]
  · have all : [body].filter DocumentBody.isHeld = [body] := by simp [DocumentBody.isHeld, model]
    rw [all] at added
    rwa [if_neg model]

/-- A folder that is asked for is found if there is one with the name, and is created otherwise. -/
theorem Holds.ensureFolder_cases (holds : workspace.Holds id held) (name : String) :
    ((∃ folder ∈ held.1, folder.name = name) →
      ∃ child, workspace.ensureFolder id name = .ok (child, false, workspace)) ∧
    ((¬ ∃ folder ∈ held.1, folder.name = name) →
      workspace.ensureFolder id name =
        (workspace.createFolder id name).map fun made => (made.1, true, made.2)) := by
  rw [← holds.exists_childFolder?_iff]
  constructor
  · rintro ⟨child, present⟩
    exact ⟨child, ensureFolder_of_present present⟩
  · intro absent
    have none := Option.eq_none_iff_forall_ne_some.mpr (not_exists.mp absent)
    rw [ensureFolder, none]
    cases workspace.createFolder id name <;> rfl

/-! ## Workspaces that have been created from a project -/

/-- An edit that creates folders or documents only. -/
def Edit.isCreation : Edit → Bool
  | .createFolder .. | .ensureFolder .. | .createDocument .. => true
  | .setBody .. | .replaceMicroflow .. | .unloadAll | .generate _ => false

/-- A workspace that is reached from a checked-out project by creating folders and documents. -/
def Created (workspace : Workspace) : Prop :=
  ∃ project changes, (∀ change ∈ changes, change.isCreation = true) ∧
    workspace = (ofProject project).editAll changes

/-- Where a folder has been created, its container has an address. -/
theorem Mirrors.of_createFolder (mirrors : workspace.Mirrors project) {name : String}
    {made : ContainerId × Workspace} (done : workspace.createFolder id name = .ok made) :
    ∃ project, made.2.Mirrors project := by
  obtain ⟨_, stored, _⟩ := bind_eq_ok.mp done
  obtain ⟨address, at?⟩ := mirrors.wellFormed.toRooted.exists_address_of_container stored
  obtain ⟨after, made', mirrorsThen⟩ := mirrors.createFolder at? name
  obtain rfl := Except.ok.inj (done.symm.trans made')
  exact ⟨_, mirrorsThen⟩

/-- A document that is created shows in the project, unless it is a domain model below a folder:
such a one is not written, and the mirrored project remains what it was. -/
theorem Mirrors.of_createDocument (mirrors : workspace.Mirrors project) {body : DocumentBody}
    {made : DocumentId × Workspace} (done : workspace.createDocument id body = .ok made) :
    ∃ project, made.2.Mirrors project := by
  obtain ⟨_, stored, _⟩ := bind_eq_ok.mp done
  obtain ⟨address, at?⟩ := mirrors.wellFormed.toRooted.exists_address_of_container stored
  obtain ⟨after, made', mirrorsThen⟩ := mirrors.createDocument at? body
  obtain rfl := Except.ok.inj (done.symm.trans made')
  exact ⟨_, mirrorsThen⟩

/-- Some project is mirrored after each creation, also when it is not possible. -/
theorem Mirrors.edit (mirrors : workspace.Mirrors project) {change : Edit}
    (creates : change.isCreation = true) : ∃ project, (workspace.edit change).Mirrors project := by
  rw [Workspace.edit]
  cases possible : workspace.edit? change with
  | error failure => exact ⟨project, mirrors⟩
  | ok after =>
    cases change with
    | createFolder parent name =>
      obtain ⟨made, done, rfl⟩ := map_eq_ok.mp possible
      exact mirrors.of_createFolder done
    | ensureFolder parent name =>
      obtain ⟨⟨child, created, reached⟩, done, rfl⟩ := map_eq_ok.mp possible
      rcases Workspace.ensureFolder_cases done with ⟨_, rfl⟩ | ⟨_, made⟩
      · exact ⟨project, mirrors⟩
      · exact mirrors.of_createFolder made
    | createDocument holder body =>
      obtain ⟨made, done, rfl⟩ := map_eq_ok.mp possible
      exact mirrors.of_createDocument done
    | setBody | replaceMicroflow | unloadAll | generate => exact absurd creates Bool.false_ne_true

/-- Creations that fail leave the workspace and its project as they are, so the list may contain any
edits of this kind. -/
theorem Mirrors.editAll (mirrors : workspace.Mirrors project) {changes : List Edit}
    (creates : ∀ change ∈ changes, change.isCreation = true) :
    ∃ project, (workspace.editAll changes).Mirrors project := by
  induction changes generalizing workspace project with
  | nil => exact ⟨project, mirrors⟩
  | cons change later inductionHypothesis =>
    obtain ⟨_, mirrorsThen⟩ := mirrors.edit (creates change List.mem_cons_self)
    exact inductionHypothesis mirrorsThen fun other inside =>
      creates other (List.mem_cons_of_mem _ inside)

/-- Every created workspace mirrors a project: at first the one that was checked out, then that with
all creations. -/
theorem Created.exists_mirrors (created : workspace.Created) :
    ∃ project, workspace.Mirrors project := by
  obtain ⟨project, changes, creates, rfl⟩ := created
  exact (mirrors_ofProject project).editAll creates

/-! ## Refinement -/

/-- What is done to a container of a workspace is done at an address of a project. There the project has
the name of the container and the documents that the container holds, and what is created comes after
the rest. -/
structure RefinesAt (workspace : Workspace) (project : Project) (id : ContainerId)
    (address : Address) : Prop where
  named : ∃ found, workspace.containers[id]? = some found ∧
    project.nameAt? address = some found.name
  holds : ∃ held, project.contentsAt? address = some held ∧
    held.2.map some = (workspace.documentsHeld id).map Document.body
  createFolder : ∀ name, ∃ after,
    workspace.createFolder id name = .ok (workspace.containers.length, after) ∧
      after.toProject = .ok (project.addAt ([⟨name, [], []⟩], []) address)
  createDocument : ∀ body, ∃ after,
    workspace.createDocument id body = .ok (workspace.documents.length, after) ∧
      after.toProject = .ok
        (if body.kind = .domainModel then project else project.addAt ([], [body]) address)
  ensureFolder : ∀ name held, project.contentsAt? address = some held →
    ((∃ folder ∈ held.1, folder.name = name) →
      ∃ child, workspace.ensureFolder id name = .ok (child, false, workspace)) ∧
    ((¬ ∃ folder ∈ held.1, folder.name = name) →
      workspace.ensureFolder id name =
        (workspace.createFolder id name).map fun made => (made.1, true, made.2))

/-- What mirrors a project refines it at every address of a container, with all that can be asked or
created there. -/
theorem Mirrors.refinesAt (mirrors : workspace.Mirrors project)
    (at? : workspace.containerAt? address = some id) :
    workspace.RefinesAt project id address := by
  obtain ⟨held, written, holds⟩ := mirrors.exists_contents at?
  constructor
  case named => exact mirrors.nameAt?_eq at?
  case holds => exact ⟨held, written, (bodiesIn_eq_ok.mp (holds_iff.mp holds).1).symm⟩
  case createFolder =>
    intro name
    obtain ⟨after, made, mirrorsThen⟩ := mirrors.createFolder at? name
    exact ⟨after, made, mirrorsThen.toProject⟩
  case createDocument =>
    intro body
    obtain ⟨after, made, mirrorsThen⟩ := mirrors.createDocument at? body
    exact ⟨after, made, mirrorsThen.toProject⟩
  case ensureFolder =>
    intro name held' written'
    obtain rfl := Option.some.inj (written.symm.trans written')
    exact holds.ensureFolder_cases name

/-- A workspace that has been created from a project is written back as a project with the same
addresses. Every container has exactly one of them, and what is done to the container is done there. -/
theorem created_refines (created : workspace.Created) :
    ∃ project, workspace.toProject = .ok project ∧
      (∀ address, (project.contentsAt? address).isSome = true ↔
        ∃ id, workspace.containerAt? address = some id) ∧
      (∀ id, id < workspace.containers.length →
        ∃! address, workspace.containerAt? address = some id) ∧
      ∀ address id, workspace.containerAt? address = some id →
        workspace.RefinesAt project id address := by
  obtain ⟨project, mirrors⟩ := created.exists_mirrors
  refine ⟨project, mirrors.toProject, fun address => ?_,
    fun id inside => mirrors.wellFormed.toRooted.existsUnique_address inside,
    fun address id at? => mirrors.refinesAt at?⟩
  rcases mirrors.contentsAt? address with ⟨none, none'⟩ | ⟨id, held, at?, written, _⟩
  · simp [none, none']
  · simp [at?, written]

/-- The project with repeated names, with a further folder and further documents in it. -/
def grownRepeated : Workspace :=
  (ofProject repeated).editAll
    [.createFolder 3 "Pages", .createDocument 5 (.page ⟨"Late", false, []⟩),
      .createDocument 5 (.domainModel ⟨[]⟩), .ensureFolder 0 "Pages"]

/-- The new folder is the first one in the second of two folders of its name. -/
theorem created_refines_grownRepeated :
    grownRepeated.Created ∧ grownRepeated.containerAt? ⟨0, [1, 0]⟩ = some 5 ∧
      ∃ project, grownRepeated.toProject = .ok project ∧
        grownRepeated.RefinesAt project 5 ⟨0, [1, 0]⟩ := by
  have created : grownRepeated.Created := ⟨repeated, _, by decide, rfl⟩
  have at? : grownRepeated.containerAt? ⟨0, [1, 0]⟩ = some 5 := by decide
  obtain ⟨project, written, _, _, each⟩ := created_refines created
  exact ⟨created, at?, project, written, each ⟨0, [1, 0]⟩ 5 at?⟩

end FlowModel.Workspace
