import FlowModel.Proofs.Workspace.Readings

/-!
# Writing workspaces back

A well-formed workspace whose documents are loaded can be written back as a project. Folders lie in
earlier containers, so the number of containers is depth enough for all of them.
-/

namespace FlowModel

section

variable {α β : Type}

/-- What is asked in two steps has an answer when each step has one. -/
theorem exists_bind {answer : Except Failure α} {next : α → Except Failure β}
    (first : ∃ found, answer = .ok found)
    (rest : ∀ found, answer = .ok found → ∃ value, next found = .ok value) :
    ∃ value, (answer >>= next) = .ok value := by
  obtain ⟨found, answered⟩ := first
  obtain ⟨value, asked⟩ := rest found answered
  exact ⟨value, bind_eq_ok.mpr ⟨found, answered, asked⟩⟩

/-- Asking one question after another has answers when each of them has one. -/
theorem exists_mapM {question : α → Except Failure β} {members : List α}
    (each : ∀ member ∈ members, ∃ value, question member = .ok value) :
    ∃ values, members.mapM question = .ok values := by
  induction members with
  | nil => exact ⟨[], rfl⟩
  | cons member later inductionHypothesis =>
    rw [List.mapM_cons]
    have rest := inductionHypothesis fun other inside => each other (List.mem_cons_of_mem _ inside)
    exact exists_bind (each member List.mem_cons_self) fun _ _ =>
      exists_bind rest fun _ _ => ⟨_, rfl⟩

end

namespace Workspace

variable {workspace : Workspace}

/-- In a loaded workspace no stored document is without its body. -/
theorem AllLoaded.isLoaded (loaded : workspace.AllLoaded) {id : DocumentId}
    (inside : id < workspace.documents.length) : workspace.isLoaded id = true :=
  have stored := List.getElem?_eq_getElem inside
  isLoaded_iff.mpr ⟨_, stored, loaded id _ stored⟩

/-- The documents of a container can be read when all bodies are there. -/
theorem AllLoaded.exists_bodiesIn (loaded : workspace.AllLoaded) (holder : ContainerId) :
    ∃ bodies, workspace.bodiesIn holder = .ok bodies := by
  refine exists_mapM fun id member => ?_
  obtain ⟨found, stored, _⟩ := mem_placesWhere.mp member
  obtain ⟨body, bodyOf⟩ := Option.isSome_iff_exists.mp (loaded id found stored)
  exact ⟨body, body_eq_ok.mpr ⟨found, stored, bodyOf⟩⟩

/-- A container has at most as many levels of folders below it as there are containers behind
it. -/
theorem WellFormed.exists_contents (wellFormed : workspace.WellFormed)
    (loaded : workspace.AllLoaded) {depth : Nat} {id : ContainerId}
    (inside : id < workspace.containers.length)
    (enough : workspace.containers.length ≤ id + depth) :
    ∃ written, workspace.contents depth id = .ok written := by
  induction depth generalizing id with
  | zero => exact absurd inside (Nat.not_lt.mpr enough)
  | succ depth inductionHypothesis =>
    refine exists_bind (loaded.exists_bodiesIn id) fun documents _ => ?_
    refine exists_bind (exists_mapM fun child member => ?_) fun folders _ => ⟨_, rfl⟩
    obtain ⟨found, stored, holds⟩ := mem_placesWhere.mp member
    have later : id < child := wellFormed.parent_lt stored (by simpa using holds)
    have enoughBelow : workspace.containers.length ≤ child + depth := calc
      workspace.containers.length ≤ id + (depth + 1) := enough
      _ = id + 1 + depth := (Nat.succ_add_eq_add_succ id depth).symm
      _ ≤ child + depth := Nat.add_le_add_right later depth
    refine exists_bind (inductionHypothesis (lt_of_getElem?_eq_some stored) enoughBelow)
      fun below _ => ?_
    exact exists_bind ⟨found, container_eq_ok.mpr stored⟩ fun _ _ => ⟨_, rfl⟩

/-- A module of a loaded workspace can be written. The bound on the depth of folders is never
reached, since a folder has a greater id than its parent. -/
theorem WellFormed.exists_toModule (wellFormed : workspace.WellFormed)
    (loaded : workspace.AllLoaded) {id : ContainerId} (inside : id < workspace.containers.length) :
    ∃ written, workspace.toModule id = .ok written := by
  have contents := wellFormed.exists_contents loaded inside (Nat.le_add_left _ _)
  have named := container_eq_ok.mpr (List.getElem?_eq_getElem inside)
  rw [toModule]
  cases found : workspace.domainModelOf? id with
  | none =>
    refine exists_bind ⟨_, rfl⟩ fun _ _ => exists_bind contents fun _ _ => ?_
    exact exists_bind ⟨_, named⟩ fun _ _ => ⟨_, rfl⟩
  | some document =>
    obtain ⟨_, stored, _, kind_eq⟩ := domainModelOf?_eq_some found
    have read := wellFormed.exists_domainModel (mem_documentsOfKind.mpr ⟨_, stored, kind_eq⟩)
      (loaded.isLoaded (lt_of_getElem?_eq_some stored))
    refine exists_bind read fun _ _ => exists_bind contents fun _ _ => ?_
    exact exists_bind ⟨_, named⟩ fun _ _ => ⟨_, rfl⟩

/-- A loaded workspace can be written as a project. Bodies that have not been loaded are the only
obstacle. -/
theorem WellFormed.exists_toProject (wellFormed : workspace.WellFormed)
    (loaded : workspace.AllLoaded) : ∃ project, workspace.toProject = .ok project := by
  have each : ∀ id ∈ workspace.modules, ∃ written, workspace.toModule id = .ok written := by
    intro id member
    obtain ⟨found, stored, _⟩ := mem_placesWhere.mp member
    exact wellFormed.exists_toModule loaded (lt_of_getElem?_eq_some stored)
  exact exists_bind (exists_mapM each) fun _ _ => ⟨_, rfl⟩

end Workspace

end FlowModel
