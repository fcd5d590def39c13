import FlowModel.Proofs.Workspace.Growth

/-!
# Filling in bodies

A workspace is filled from a source when some documents without a body get the body that the
source has under the same id, and all else stays. If the source is well-formed and its containers
and labels are kept, giving a document the body of the source is such a step (`exists_filled`).
Nothing is overwritten, so what a workspace holds is within what it is filled to.
-/

namespace FlowModel

/-- A document as it was, or with the body of a source where it had none. -/
inductive Document.Fills (source : Except Failure DocumentBody) : Document → Document → Prop where
  | same (found : Document) : Fills source found found
  | filled {found : Document} {body : DocumentBody} (missing : found.body = none)
    (loaded : source = .ok body) : Fills source found { found with body := some body }

namespace Document.Fills

variable {source : Except Failure DocumentBody} {before middle after : Document}

/-- A document that is filled keeps a body that it had. -/
theorem within (fills : before.Fills source after) : before.Within after := by
  cases fills with
  | same => exact ⟨rfl, fun _ bodyOf => bodyOf⟩
  | filled missing => exact ⟨rfl, fun body bodyOf => nomatch missing.symm.trans bodyOf⟩

/-- A body that was filled in is not filled in again, so two steps are one. -/
theorem trans (first : before.Fills source middle) (second : middle.Fills source after) :
    before.Fills source after := by
  cases first with
  | same => exact second
  | filled missing loaded =>
    cases second with
    | same => exact .filled missing loaded
    | filled impossible => exact nomatch impossible

end Document.Fills

namespace Workspace

/-- Some documents get the bodies of a source, and all else is the same. -/
structure Fills (source before after : Workspace) : Prop where
  containers : after.containers = before.containers
  length_eq : after.documents.length = before.documents.length
  documents : ∀ (id : DocumentId) (found : Document), before.documents[id]? = some found →
    ∃ later, after.documents[id]? = some later ∧ found.Fills (source.body id) later

variable {source before middle after : Workspace} {id : DocumentId}

/-- A document is loaded if it is there and has a body; an unknown id is not loaded. -/
theorem isLoaded_iff {workspace : Workspace} :
    workspace.isLoaded id = true ↔
      ∃ found, workspace.documents[id]? = some found ∧ found.body.isSome = true := by
  rw [isLoaded, Option.any_eq_true]

/-- A document that is there and not loaded has no body. -/
theorem body_eq_none_of_not_isLoaded {workspace : Workspace} {found : Document}
    (stored : workspace.documents[id]? = some found) (unloaded : ¬ workspace.isLoaded id = true) :
    found.body = none := by
  rw [← Option.not_isSome_iff_eq_none]
  exact fun isThere => unloaded (isLoaded_iff.mpr ⟨found, stored, isThere⟩)

namespace Fills

/-- Nothing filled in is a way to fill. -/
theorem refl (source before : Workspace) : source.Fills before before :=
  ⟨rfl, rfl, fun _ found stored => ⟨found, stored, .same found⟩⟩

/-- Filling twice from one source is filling once. -/
theorem trans (first : source.Fills before middle) (second : source.Fills middle after) :
    source.Fills before after where
  containers := second.containers.trans first.containers
  length_eq := second.length_eq.trans first.length_eq
  documents := by
    intro id found stored
    obtain ⟨later, storedLater, fills⟩ := first.documents id found stored
    obtain ⟨last, storedLast, fills'⟩ := second.documents id later storedLater
    exact ⟨last, storedLast, fills.trans fills'⟩

/-- What is at a place comes from what was there. -/
theorem origin (fills : source.Fills before after) {later : Document}
    (stored : after.documents[id]? = some later) :
    ∃ found, before.documents[id]? = some found ∧ found.Fills (source.body id) later := by
  have inside : id < before.documents.length :=
    fills.length_eq.symm ▸ lt_of_getElem?_eq_some stored
  have storedBefore := List.getElem?_eq_getElem inside
  obtain ⟨later', stored', isFilled⟩ := fills.documents id _ storedBefore
  obtain rfl := Option.some.inj (stored.symm.trans stored')
  exact ⟨_, storedBefore, isFilled⟩

/-- What a workspace holds it still holds when it is filled. -/
theorem within (fills : source.Fills before after) : before.Within after where
  containers := fills.containers ▸ List.prefix_rfl
  documents := by
    intro id found stored
    obtain ⟨later, storedLater, isFilled⟩ := fills.documents id found stored
    exact ⟨later, storedLater, isFilled.within⟩

/-- Filling adds no labels, so the filled workspace keeps no more than the first. -/
theorem keepsBack (fills : source.Fills before after) : after.Keeps before where
  containers := fills.containers ▸ List.prefix_rfl
  documents := by
    intro id later stored
    obtain ⟨found, storedFound, isFilled⟩ := fills.origin stored
    exact ⟨found, storedFound, isFilled.within.label_eq.symm⟩

/-- Without bodies a workspace and what it is filled to are the same. -/
theorem unloadAll_eq (fills : source.Fills before after) : after.unloadAll = before.unloadAll :=
  fills.within.keeps.unloadAll_eq fills.keepsBack

/-- What is loaded stays loaded. -/
theorem isLoaded (fills : source.Fills before after) (loaded : before.isLoaded id = true) :
    after.isLoaded id = true := by
  obtain ⟨found, stored, bodyOf⟩ := isLoaded_iff.mp loaded
  obtain ⟨body, isBody⟩ := Option.isSome_iff_exists.mp bodyOf
  obtain ⟨later, storedLater, isFilled⟩ := fills.documents id found stored
  exact isLoaded_iff.mpr ⟨later, storedLater, by rw [isFilled.within.body body isBody]; rfl⟩

/-- A document without a body was there before, without a body. -/
theorem missing (fills : source.Fills before after) {later : Document}
    (stored : after.documents[id]? = some later) (unloaded : later.body = none) :
    before.documents[id]? = some later := by
  obtain ⟨found, storedFound, isFilled⟩ := fills.origin stored
  cases isFilled with
  | same => exact storedFound
  | filled => exact nomatch unloaded

/-- Filling keeps a workspace well-formed: the bodies of the source have the names and kinds of the
source's documents, and these have the same labels. -/
theorem wellFormed (fills : source.Fills before after) (wellFormed : before.WellFormed)
    (sound : source.WellFormed) (keeps : source.Keeps before) : after.WellFormed := by
  refine wellFormed.relabel fills.containers fun {id later} stored => ?_
  obtain ⟨found, storedFound, isFilled⟩ := fills.origin stored
  refine ⟨found, storedFound, isFilled.within.label_eq, ?_⟩
  cases isFilled with
  | same => exact wellFormed.coherent storedFound
  | filled _ loaded =>
    intro body bodyOf
    obtain rfl := Option.some.inj bodyOf
    obtain ⟨origin, storedOrigin, isBody⟩ := body_eq_ok.mp loaded
    obtain ⟨found', stored', label_eq⟩ := keeps.documents id origin storedOrigin
    obtain rfl := Option.some.inj (storedFound.symm.trans stored')
    obtain ⟨name_eq, kind_eq, _⟩ := Document.label_eq_iff.mp label_eq
    rw [name_eq, kind_eq]
    exact sound.coherent storedOrigin _ isBody

end Fills

/-- A document gets the body of the source. Name and kind are those of the document, because
the source is coherent and its labels are kept. -/
theorem exists_filled (sound : source.WellFormed) (keeps : source.Keeps before) {found : Document}
    {body : DocumentBody} (stored : before.documents[id]? = some found) (missing : found.body = none)
    (loaded : source.body id = .ok body) :
    ∃ after, before.setBody id body = .ok after ∧ source.Fills before after ∧
      after.isLoaded id = true := by
  obtain ⟨origin, storedOrigin, isBody⟩ := body_eq_ok.mp loaded
  obtain ⟨found', stored', label_eq⟩ := keeps.documents id origin storedOrigin
  obtain rfl := Option.some.inj (stored.symm.trans stored')
  have name_eq : body.name = found.name :=
    (sound.coherent storedOrigin body isBody).1.trans (Document.label_eq_iff.mp label_eq).1.symm
  refine ⟨before.modifyDocument id fun found => { found with name := body.name, body := some body },
    ?_, ⟨rfl, by simp [modifyDocument], ?_⟩, ?_⟩
  · exact bind_eq_ok.mpr ⟨found, document_eq_ok.mpr stored, rfl⟩
  · intro other document storedOther
    rw [getElem?_modifyDocument, storedOther, Option.map_some]
    by_cases same : id = other
    · subst same
      obtain rfl := Option.some.inj (stored.symm.trans storedOther)
      rw [if_pos rfl, name_eq]
      exact ⟨_, rfl, .filled missing loaded⟩
    · rw [if_neg same]
      exact ⟨document, rfl, .same document⟩
  · rw [isLoaded, getElem?_modifyDocument, stored]
    simp

end Workspace

end FlowModel
