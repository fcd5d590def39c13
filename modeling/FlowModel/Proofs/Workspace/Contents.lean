import FlowModel.Proofs.Workspace.Addresses
import FlowModel.Proofs.Workspace.Writing

/-!
# What containers hold

A module or a folder holds folders and documents, and a container of a workspace is written as what it
holds, if some depth is enough for its folders. What it holds does not depend on the depth
(`Holds.unique`), so it is told level by level (`holds_iff`), and it stays the same in a larger
workspace where nothing has changed in the containers that lie in it (`Holds.frame`).
-/

namespace FlowModel

/-! ## Contents -/

/-- The folders and documents in a module or in a folder. -/
abbrev Contents := List Folder × List DocumentBody

def Folder.contents (folder : Folder) : Contents := (folder.folders, folder.documents)

def Module.contents (written : Module) : Contents := (written.folders, written.documents)

/-- The folder with other contents. -/
def Folder.holding (folder : Folder) (held : Contents) : Folder := ⟨folder.name, held.1, held.2⟩

/-- The module with other contents. -/
def Module.holding (written : Module) (held : Contents) : Module :=
  { written with folders := held.1, documents := held.2 }

namespace Contents

/-- More folders and documents after the others. -/
def add (held added : Contents) : Contents := (held.1 ++ added.1, held.2 ++ added.2)

/-- More folders and documents in the folder at the end of a way down, after the others there. -/
def addAt (added : Contents) : List Nat → Contents → Contents
  | [], held => held.add added
  | place :: way, held =>
    (held.1.modify place fun folder => folder.holding (added.addAt way folder.contents), held.2)

/-- What the folder at the end of a way down holds. -/
def at? : List Nat → Contents → Option Contents
  | [], held => some held
  | place :: way, held => do at? way (← held.1[place]?).contents

/-- With nothing added the contents are the same. -/
theorem add_nothing (held : Contents) : held.add ([], []) = held := by simp [add]

/-- A folder that holds what it has held is the same. -/
theorem addAt_nothing (way : List Nat) (held : Contents) : addAt ([], []) way held = held := by
  induction way generalizing held with
  | nil => exact held.add_nothing
  | cons place way inductionHypothesis =>
    have same : (fun folder : Folder => folder.holding (addAt ([], []) way folder.contents)) = id :=
      funext fun folder => by
        rw [inductionHypothesis]
        cases folder
        rfl
    rw [addAt, same, List.modify_id]

end Contents

/-! ## Members of two lists -/

/-- What follows for the members of one list from how they are related follows for the lists. -/
theorem forall₂_imp_of_mem {α β : Type} {related related' : α → β → Prop} {firsts : List α}
    {seconds : List β} (all : List.Forall₂ related firsts seconds)
    (implies : ∀ first ∈ firsts, ∀ second, related first second → related' first second) :
    List.Forall₂ related' firsts seconds :=
  ((List.forall₂_and_left firsts seconds).mpr ⟨implies, all⟩).imp fun _ second known =>
    known.1 second known.2

/-- When the members at one place are related after a change there, and the others without, the
lists are related after the change. -/
theorem forall₂_modify {α β : Type} {related related' : α → β → Prop} {change : β → β}
    {firsts : List α} {seconds : List β} {place : Nat}
    (all : List.Forall₂ related firsts seconds)
    (there : ∀ first second, firsts[place]? = some first → related first second →
      related' first (change second))
    (others : ∀ other first second, other ≠ place → firsts[other]? = some first →
      related first second → related' first second) :
    List.Forall₂ related' firsts (seconds.modify place change) := by
  obtain ⟨sameLength, each⟩ := List.forall₂_iff_get.mp all
  refine List.forall₂_iff_get.mpr ⟨by simpa using sameLength, fun other inside inside' => ?_⟩
  have stored := List.getElem?_eq_getElem inside
  have holds := each other inside (sameLength ▸ inside)
  simp only [List.get_eq_getElem, List.getElem_modify] at holds ⊢
  by_cases same : place = other
  · rw [if_pos same]
    exact there _ _ (same ▸ stored) holds
  · rw [if_neg same]
    exact others other _ _ (Ne.symm same) stored holds

/-- Related lists end together, and have related members at each place. -/
theorem forall₂_getElem? {α β : Type} {related : α → β → Prop} {firsts : List α} {seconds : List β}
    (all : List.Forall₂ related firsts seconds) (place : Nat) :
    firsts[place]? = none ∧ seconds[place]? = none ∨
      ∃ first second, firsts[place]? = some first ∧ seconds[place]? = some second ∧
        related first second := by
  induction all generalizing place with
  | nil => exact Or.inl ⟨rfl, rfl⟩
  | cons holds rest inductionHypothesis =>
    cases place with
    | zero => exact Or.inr ⟨_, _, rfl, rfl, holds⟩
    | succ place => exact inductionHypothesis place

/-- Lists that are related member by member have related members at equal places. -/
theorem exists_related_getElem? {α β : Type} {related : α → β → Prop} {firsts : List α}
    {seconds : List β} {first : α} {place : Nat} (all : List.Forall₂ related firsts seconds)
    (listed : firsts[place]? = some first) :
    ∃ second, seconds[place]? = some second ∧ related first second := by
  rcases forall₂_getElem? all place with ⟨none, _⟩ | ⟨first', second, listed', known, holds⟩
  · exact nomatch listed.symm.trans none
  · obtain rfl := Option.some.inj (listed.symm.trans listed')
    exact ⟨second, known, holds⟩

/-- Each member of a list that is related member by member has a partner in the other. -/
theorem exists_related_of_mem {α β : Type} {related : α → β → Prop} {firsts : List α}
    {seconds : List β} {first : α} (all : List.Forall₂ related firsts seconds)
    (member : first ∈ firsts) : ∃ second ∈ seconds, related first second := by
  obtain ⟨place, listed⟩ := List.getElem?_of_mem member
  obtain ⟨second, known, holds⟩ := exists_related_getElem? all listed
  exact ⟨second, List.mem_of_getElem? known, holds⟩

/-- The members at some places are those that satisfy the condition. -/
theorem map_getElem?_placesWhere {α : Type} (holds : α → Bool) (members : List α) :
    (placesWhere holds members).map (fun place => members[place]?) =
      (members.filter holds).map some := by
  have places : placesWhere holds members =
      (members.zipIdx.filter fun place => holds place.1).map Prod.snd := rfl
  have chosen : (members.zipIdx.filter fun place => holds place.1).map Prod.fst =
      members.filter holds := by
    have all := List.filter_map (f := Prod.fst) (p := holds) (l := members.zipIdx)
    rw [List.zipIdx_map_fst] at all
    exact all.symm
  rw [places, List.map_map, ← chosen, List.map_map]
  refine List.map_congr_left fun found member => ?_
  exact (List.mem_zipIdx_iff_getElem?.mp (List.mem_filter.mp member).1)

namespace Workspace

variable {workspace before after : Workspace} {id : ContainerId} {held : Contents}

/-- The documents that a container holds, domain models left out. -/
def documentsHeld (workspace : Workspace) (holder : ContainerId) : List Document :=
  workspace.documents.filter fun found => found.container == holder && found.kind != .domainModel

/-- The bodies in a container are those of the documents that it holds, in order. -/
theorem bodiesIn_eq_ok {bodies : List DocumentBody} :
    workspace.bodiesIn id = .ok bodies ↔
      (workspace.documentsHeld id).map Document.body = bodies.map some := by
  have read (place : DocumentId) (body : DocumentBody) : workspace.body place = .ok body ↔
      (workspace.documents[place]?).bind Document.body = some body := by
    rw [body_eq_ok, Option.bind_eq_some_iff]
  have stored := map_getElem?_placesWhere
    (fun found : Document => found.container == id && found.kind != .domainModel)
    workspace.documents
  have held := congrArg (List.map fun found => found.bind Document.body) stored
  simp only [List.map_map, Function.comp_def, Option.bind_some] at held
  rw [bodiesIn, mapM_eq_ok, documentsHeld, ← held, ← List.forall₂_eq_eq_eq,
    List.forall₂_map_left_iff, List.forall₂_map_right_iff]
  simp only [read]

/-- A container is written as what it holds. -/
def Holds (workspace : Workspace) (id : ContainerId) (held : Contents) : Prop :=
  ∃ depth, workspace.contents depth id = .ok held

/-- A container is written as a folder. -/
def HoldsFolder (workspace : Workspace) (id : ContainerId) (folder : Folder) : Prop :=
  (∃ found, workspace.containers[id]? = some found ∧ found.name = folder.name) ∧
    workspace.Holds id folder.contents

/-- A folder is written with its name and with what it holds. -/
theorem writes_eq_ok {depth : Nat} {child : ContainerId} {folder : Folder} :
    (workspace.contents depth child >>= fun below => workspace.container child >>= fun found =>
      pure (Folder.mk found.name below.1 below.2)) = .ok folder ↔
      (∃ found, workspace.containers[child]? = some found ∧ found.name = folder.name) ∧
        workspace.contents depth child = .ok folder.contents := by
  rw [bind_eq_ok]
  constructor
  · rintro ⟨below, written, rest⟩
    obtain ⟨found, stored, same⟩ := bind_eq_ok.mp rest
    obtain rfl := Except.ok.inj same
    exact ⟨⟨found, container_eq_ok.mp stored, rfl⟩, written⟩
  · rintro ⟨⟨found, stored, named⟩, written⟩
    refine ⟨_, written, bind_eq_ok.mpr ⟨found, container_eq_ok.mpr stored, ?_⟩⟩
    cases folder
    exact congrArg _ (named ▸ rfl)

/-- One level deeper the documents are those of the container, and each folder is written as deep as
before. -/
theorem contents_succ_eq_ok {depth : Nat} :
    workspace.contents (depth + 1) id = .ok held ↔
      workspace.bodiesIn id = .ok held.2 ∧
        List.Forall₂ (fun child folder =>
          (∃ found, workspace.containers[child]? = some found ∧ found.name = folder.name) ∧
            workspace.contents depth child = .ok folder.contents)
          (workspace.childFolders id) held.1 := by
  simp only [← writes_eq_ok, ← mapM_eq_ok]
  rw [contents, bind_eq_ok]
  constructor
  · rintro ⟨documents, bodies, rest⟩
    obtain ⟨folders, written, same⟩ := bind_eq_ok.mp rest
    obtain rfl := Except.ok.inj same
    exact ⟨bodies, written⟩
  · rintro ⟨bodies, written⟩
    exact ⟨held.2, bodies, bind_eq_ok.mpr ⟨held.1, written, rfl⟩⟩

/-- What is written to some depth is written to any larger one. -/
theorem contents_mono {depth more : Nat} (enough : depth ≤ more)
    (written : workspace.contents depth id = .ok held) : workspace.contents more id = .ok held := by
  induction depth generalizing more id held with
  | zero => exact nomatch written
  | succ depth inductionHypothesis =>
    obtain ⟨more, rfl⟩ : ∃ fewer, more = fewer + 1 := ⟨more - 1, by omega⟩
    obtain ⟨bodies, folders⟩ := contents_succ_eq_ok.mp written
    refine contents_succ_eq_ok.mpr ⟨bodies, folders.imp fun child folder below => ?_⟩
    exact ⟨below.1, inductionHypothesis (Nat.le_of_succ_le_succ enough) below.2⟩

namespace Holds

/-- A container is written in one way. The depths to which it is written may differ, but the larger
one is enough for both. -/
theorem unique {other : Contents} (holds : workspace.Holds id held)
    (holds' : workspace.Holds id other) : held = other := by
  obtain ⟨depth, written⟩ := holds
  obtain ⟨depth', written'⟩ := holds'
  have first := contents_mono (Nat.le_max_left depth depth') written
  have second := contents_mono (Nat.le_max_right depth depth') written'
  exact Except.ok.inj (first.symm.trans second)

end Holds

/-- Folders that are all written are written to one depth. -/
theorem exists_depth {children : List ContainerId} {folders : List Folder}
    (written : List.Forall₂ workspace.HoldsFolder children folders) :
    ∃ depth, List.Forall₂ (fun child folder =>
      (∃ found, workspace.containers[child]? = some found ∧ found.name = folder.name) ∧
        workspace.contents depth child = .ok folder.contents) children folders := by
  induction written with
  | nil => exact ⟨0, .nil⟩
  | cons first _ inductionHypothesis =>
    obtain ⟨named, depth, below⟩ := first
    obtain ⟨depth', rest⟩ := inductionHypothesis
    refine ⟨max depth depth', .cons ⟨named, contents_mono (Nat.le_max_left ..) below⟩ ?_⟩
    exact rest.imp fun child folder known =>
      ⟨known.1, contents_mono (Nat.le_max_right depth depth') known.2⟩

/-- A container holds its documents and what its folders are written as. -/
theorem holds_iff :
    workspace.Holds id held ↔
      workspace.bodiesIn id = .ok held.2 ∧
        List.Forall₂ workspace.HoldsFolder (workspace.childFolders id) held.1 := by
  constructor
  · rintro ⟨_ | depth, written⟩
    · exact nomatch written
    · obtain ⟨bodies, folders⟩ := contents_succ_eq_ok.mp written
      exact ⟨bodies, folders.imp fun child folder below => ⟨below.1, depth, below.2⟩⟩
  · rintro ⟨bodies, folders⟩
    obtain ⟨depth, written⟩ := exists_depth folders
    exact ⟨depth + 1, contents_succ_eq_ok.mpr ⟨bodies, written⟩⟩

/-- As many levels as there are containers are enough. -/
theorem Holds.contents_eq (holds : workspace.Holds id held) (wellFormed : workspace.WellFormed)
    (loaded : workspace.AllLoaded) (inside : id < workspace.containers.length) :
    workspace.contents workspace.containers.length id = .ok held := by
  obtain ⟨written, known⟩ := wellFormed.exists_contents loaded inside (Nat.le_add_left _ id)
  rw [known, holds.unique ⟨_, known⟩]

/-! ## Where nothing has changed -/

/-- A container has the same folders and documents as before. -/
structure SameAt (before after : Workspace) (id : ContainerId) : Prop where
  folders : after.childFolders id = before.childFolders id
  bodies : ∀ bodies, before.bodiesIn id = .ok bodies → after.bodiesIn id = .ok bodies

/-- A container holds the same as before when that is so of all containers that lie in it. -/
theorem Holds.frame (holds : before.Holds id held)
    (grown : before.containers <+: after.containers)
    (same : ∀ inner, before.Encloses id inner → SameAt before after inner) :
    after.Holds id held := by
  obtain ⟨depth, written⟩ := holds
  refine ⟨depth, ?_⟩
  induction depth generalizing id held with
  | zero => exact nomatch written
  | succ depth inductionHypothesis =>
    obtain ⟨bodies, folders⟩ := contents_succ_eq_ok.mp written
    refine contents_succ_eq_ok.mpr ⟨(same id .itself).bodies _ bodies, ?_⟩
    rw [(same id .itself).folders]
    refine forall₂_imp_of_mem folders ?_
    rintro child member folder ⟨⟨found, stored, named⟩, written⟩
    have below := encloses_of_mem_childFolders member
    exact ⟨⟨found, getElem?_of_isPrefix grown stored, named⟩,
      inductionHypothesis (fun inner inside => same inner (below.trans inside)) written⟩

/-- A folder is written as before when nothing that lies in it has changed. -/
theorem HoldsFolder.frame {folder : Folder} (holds : before.HoldsFolder id folder)
    (grown : before.containers <+: after.containers)
    (same : ∀ inner, before.Encloses id inner → SameAt before after inner) :
    after.HoldsFolder id folder := by
  obtain ⟨⟨found, stored, named⟩, written⟩ := holds
  exact ⟨⟨found, getElem?_of_isPrefix grown stored, named⟩, written.frame grown same⟩

end Workspace

end FlowModel
