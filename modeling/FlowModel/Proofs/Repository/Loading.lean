import FlowModel.Proofs.Steps
import FlowModel.Proofs.Workspace.Readings
import FlowModel.Repository.Basic

/-!
# Loading bodies

In a sound repository the checked-out workspace keeps all that is published, up to bodies that
are not loaded yet, and only published documents are without a body. Loading fills in
published bodies and nothing else (`load_ends`, `loadAll_ends`), and the merge of a commit
fills in all that are missing, so it does not fail (`Sound.merged`).
-/

namespace FlowModel

/-- Whether a failed run may have left changes behind: its commit was rejected, or it broke off
because a drawing did not fit. -/
def Failure.leavesChanges : Failure → Bool
  | .repository reason => reason == "commit rejected"
  | .outOfRange => true
  | _ => false

namespace Repository

open Workspace

/-- What is published is well-formed and loaded. The checked-out workspace is well-formed and
keeps it, and lacks at most bodies that are published. -/
structure Sound (repository : Repository) : Prop where
  published : repository.published.WellFormed
  allLoaded : repository.published.AllLoaded
  checkedOut : repository.checkedOut.WellFormed
  keeps : repository.published.Keeps repository.checkedOut
  missing : ∀ (id : DocumentId) (found : Document),
    repository.checkedOut.documents[id]? = some found → found.body = none →
      id < repository.published.documents.length

/-- Published bodies have been loaded, and nothing else has happened. -/
structure Loaded (before after : Repository) : Prop where
  frame : after = { before with checkedOut := after.checkedOut, loads := after.loads }
  fills : before.published.Fills before.checkedOut after.checkedOut

namespace Loaded

variable {before middle after : Repository}

/-- No bodies have to be loaded. -/
theorem refl (repository : Repository) : repository.Loaded repository := ⟨rfl, .refl _ _⟩

/-- Loading leaves what is published. -/
theorem published (loaded : before.Loaded after) : after.published = before.published := by
  rw [loaded.frame]

/-- More bodies may be loaded later. -/
theorem trans (first : before.Loaded middle) (second : middle.Loaded after) :
    before.Loaded after where
  frame := by
    rw [second.frame, first.frame]
  fills := first.fills.trans (first.published ▸ second.fills)

/-- What is loaded is published, so it has the right kind, and the repository stays sound. -/
theorem sound (loaded : before.Loaded after) (sound : before.Sound) : after.Sound where
  published := loaded.published ▸ sound.published
  allLoaded := loaded.published ▸ sound.allLoaded
  checkedOut := loaded.fills.wellFormed sound.checkedOut sound.published sound.keeps
  keeps := loaded.published ▸ sound.keeps.trans loaded.fills.within.keeps
  missing := by
    intro id found stored unloaded
    rw [loaded.published]
    exact sound.missing id found (loaded.fills.missing stored unloaded) unloaded

end Loaded

variable {repository : Repository}

/-- Every published document has its body. -/
theorem Sound.exists_body (sound : repository.Sound) {id : DocumentId}
    (inside : id < repository.published.documents.length) :
    ∃ body, repository.published.body id = .ok body := by
  have stored := List.getElem?_eq_getElem inside
  obtain ⟨body, bodyOf⟩ := Option.isSome_iff_exists.mp (sound.allLoaded id _ stored)
  exact ⟨body, body_eq_ok.mpr ⟨_, stored, bodyOf⟩⟩

/-! ## Single bodies -/

/-- The failure of a load when loads are made to fail. -/
def loadRejected (id : DocumentId) : Failure :=
  .repository ("load of document #" ++ id.repr ++ " failed")

/-- A load fills in one published body, unless it is there, is not published or loads are made to
fail. -/
theorem load_ends (sound : repository.Sound) (id : DocumentId) :
    Ends (load id) repository
      (fun _ after => repository.Loaded after ∧ after.checkedOut.isLoaded id = true)
      (fun failure after => after = repository ∧
        (repository.failLoads = true ∧ failure = loadRejected id ∨
          repository.published.body id = .error failure)) := by
  apply Ends.lookThen
  by_cases loaded : repository.checkedOut.isLoaded id = true
  · rw [if_pos loaded]
    exact Ends.value ⟨.refl repository, loaded⟩
  rw [if_neg loaded]
  by_cases fails : repository.failLoads = true
  · rw [if_pos fails]
    exact Ends.fail ⟨rfl, Or.inl ⟨fails, rfl⟩⟩
  rw [if_neg fails]
  cases published : repository.published.body id with
  | error failure => exact Ends.fail ⟨rfl, Or.inr rfl⟩
  | ok body =>
    obtain ⟨origin, storedOrigin, _⟩ := body_eq_ok.mp published
    obtain ⟨found, stored, _⟩ := sound.keeps.documents id origin storedOrigin
    have missing := body_eq_none_of_not_isLoaded stored loaded
    obtain ⟨checkedOut, given, fills, isThere⟩ :=
      exists_filled sound.published sound.keeps stored missing published
    simp only [given]
    exact Ends.modified ⟨⟨rfl, fills⟩, isThere⟩

/-! ## Bodies of a kind -/

/-- The documents of a kind in selected modules that have no body are found. -/
theorem exists_pending {workspace : Workspace} (wellFormed : workspace.WellFormed)
    (kind : DocumentKind) (modules : List String) :
    ∃ ids, pending workspace kind modules = .ok ids ∧
      (∀ id ∈ ids, id ∈ workspace.documentsOfKind kind ∧ workspace.isLoaded id = false) ∧
      ∀ id, id ∈ workspace.documentsOfKind kind → workspace.IsSelected modules id →
        workspace.isLoaded id = false → id ∈ ids := by
  let unloaded := (workspace.documentsOfKind kind).filter fun id => !workspace.isLoaded id
  have member : ∀ id, id ∈ unloaded ↔
      id ∈ workspace.documentsOfKind kind ∧ workspace.isLoaded id = false := by
    simp [unloaded]
  by_cases all : modules.isEmpty = true
  · exact ⟨unloaded, if_pos all, fun id => (member id).mp,
      fun id ofKind _ missing => (member id).mpr ⟨ofKind, missing⟩⟩
  · obtain ⟨chosen, selected⟩ := wellFormed.inModules modules fun id inside =>
      lt_of_mem_documentsOfKind ((member id).mp inside).1
    refine ⟨chosen, (if_neg all).trans selected, fun id inside => ?_,
      fun id ofKind isSelected missing => ?_⟩
    · exact (member id).mp ((mem_inModules selected).mp inside).1
    · exact (mem_inModules selected).mpr ⟨(member id).mpr ⟨ofKind, missing⟩, isSelected⟩

/-- After loading a kind in selected modules, all documents of that kind there are loaded. What is
loaded is published, so it fails only when loads are made to fail. Each load keeps what the loads
before it have reached. -/
theorem loadAll_ends (sound : repository.Sound) (kind : DocumentKind) (modules : List String) :
    Ends (loadAll kind modules) repository
      (fun _ after => repository.Loaded after ∧ after.checkedOut.HasBodies kind modules)
      (fun failure after => repository.Loaded after ∧ repository.failLoads = true ∧
        ∃ id, failure = loadRejected id) := by
  obtain ⟨ids, found, missing, complete⟩ := exists_pending sound.checkedOut kind modules
  apply Ends.lookThen
  simp only [found]
  have steps : ∀ id ∈ ids, ∀ before, repository.Loaded before →
      Ends (load id) before
        (fun _ after => repository.Loaded after ∧ after.checkedOut.isLoaded id = true ∧
          ∀ other : DocumentId, before.checkedOut.isLoaded other = true →
            after.checkedOut.isLoaded other = true)
        (fun failure after => repository.Loaded after ∧ repository.failLoads = true ∧
          ∃ id, failure = loadRejected id) := by
    intro id member before loaded
    have soundThen := loaded.sound sound
    refine (load_ends soundThen id).mono ?_ ?_
    · rintro _ after ⟨again, isThere⟩
      exact ⟨loaded.trans again, isThere, fun other was => again.fills.isLoaded was⟩
    · rintro failure after ⟨rfl, ⟨fails, rejected⟩ | unpublished⟩
      · rw [loaded.frame] at fails
        exact ⟨loaded, fails, id, rejected⟩
      · obtain ⟨ofKind, unloaded⟩ := missing id member
        have stored := List.getElem?_eq_getElem (lt_of_mem_documentsOfKind ofKind)
        have bodyOf := body_eq_none_of_not_isLoaded stored (by rw [unloaded]; decide)
        have inside := sound.missing id _ stored bodyOf
        obtain ⟨body, published⟩ := soundThen.exists_body (loaded.published ▸ inside)
        exact nomatch unpublished.symm.trans published
  refine Ends.andThen (Ends.each steps (Loaded.refl repository)) ?_
  rintro _ after ⟨loaded, reached, _⟩
  refine Ends.value ⟨loaded, fun id ofKind isSelected => ?_⟩
  have wasOfKind : id ∈ repository.checkedOut.documentsOfKind kind := by
    rwa [← (readsLabels_documentsOfKind kind).alike loaded.fills.unloadAll_eq]
  have wasSelected := loaded.fills.keepsBack.isSelected isSelected
  by_cases was : repository.checkedOut.isLoaded id = true
  · exact loaded.fills.isLoaded was
  · exact reached id (complete id wasOfKind wasSelected (Bool.eq_false_iff.mpr was))

/-! ## Merging -/

/-- In a merge a published document keeps the body it has. One that is missing is published, since
only such bodies are ever missing. -/
theorem exists_fillBody (sound : repository.Sound) {merged : Workspace}
    (fills : repository.published.Fills repository.checkedOut merged) {id : DocumentId}
    (inside : id < repository.published.documents.length) :
    ∃ after, fillBody repository.published merged id = .ok after ∧
      repository.published.Fills merged after ∧ after.isLoaded id = true := by
  by_cases loaded : merged.isLoaded id = true
  · exact ⟨merged, if_pos loaded, .refl _ _, loaded⟩
  obtain ⟨body, published⟩ := sound.exists_body inside
  have keeps := sound.keeps.trans fills.within.keeps
  obtain ⟨found, stored, _⟩ := keeps.documents id _ (List.getElem?_eq_getElem inside)
  have missing := body_eq_none_of_not_isLoaded stored loaded
  obtain ⟨after, given, filled, isThere⟩ :=
    exists_filled sound.published keeps stored missing published
  exact ⟨after, (if_neg loaded).trans (bind_eq_ok.mpr ⟨body, published, given⟩), filled, isThere⟩

/-- Published documents are filled in one after another. Each one is loaded then, and those that come
later leave it so. -/
theorem exists_fillBodies (sound : repository.Sound) (ids : List DocumentId) {before : Workspace}
    (fills : repository.published.Fills repository.checkedOut before)
    (inside : ∀ id ∈ ids, id < repository.published.documents.length) :
    ∃ merged, ids.foldlM (fillBody repository.published) before = .ok merged ∧
      repository.published.Fills before merged ∧ ∀ id ∈ ids, merged.isLoaded id = true := by
  induction ids generalizing before with
  | nil => exact ⟨before, rfl, .refl _ _, by simp⟩
  | cons id ids inductionHypothesis =>
    obtain ⟨middle, given, filled, isThere⟩ :=
      exists_fillBody sound fills (inside id List.mem_cons_self)
    obtain ⟨merged, folded, later, reached⟩ := inductionHypothesis (fills.trans filled)
      fun other member => inside other (List.mem_cons_of_mem _ member)
    refine ⟨merged, ?_, filled.trans later, fun other member => ?_⟩
    · rw [List.foldlM_cons]
      exact bind_eq_ok.mpr ⟨middle, given, folded⟩
    · rcases List.mem_cons.mp member with rfl | member
      · exact later.isLoaded isThere
      · exact reached other member

/-- The merge has all that is checked out, with every body. -/
theorem Sound.exists_merged (sound : repository.Sound) :
    ∃ merged, repository.merged = .ok merged ∧
      repository.published.Fills repository.checkedOut merged ∧ merged.AllLoaded := by
  obtain ⟨merged, folded, fills, reached⟩ := exists_fillBodies sound
    (List.range repository.published.documents.length) (.refl _ _) fun id => List.mem_range.mp
  refine ⟨merged, folded, fills, fun id found stored => ?_⟩
  cases bodyOf : found.body with
  | some body => rfl
  | none =>
    -- What is still missing was missing before, so it is published and was filled in.
    have inside := sound.missing id found (fills.missing stored bodyOf) bodyOf
    obtain ⟨found', stored', isThere⟩ := isLoaded_iff.mp (reached id (List.mem_range.mpr inside))
    obtain rfl := Option.some.inj (stored.symm.trans stored')
    rw [bodyOf] at isThere
    exact nomatch isThere

end Repository

end FlowModel
