import FlowModel.Proofs.Workspace.Filling

/-!
# Completing workspaces

A workspace completed from a source has the body of the source wherever its own is missing. This is
the most that filling from the source can do: filling some bodies first makes no difference
(`Fills.completedFrom_eq`), and when no body is missing any more, all that filling can do is done
(`Fills.eq_completedFrom`). A source that has all of a workspace is its completion
(`Completes.completedFrom_eq`). Containers and documents can be added and microflows replaced before
or after the completion.
-/

namespace FlowModel

/-- A document with the body of another, if that has one and it has none itself. -/
def Document.completedFrom (found : Document) (source : Option Document) : Document :=
  { found with body := found.body.or (source.bind Document.body) }

/-- A document that has a body does not take another one. -/
theorem Document.completedFrom_of_body {found : Document} {body : DocumentBody}
    (loaded : found.body = some body) (source : Option Document) :
    found.completedFrom source = found := by
  rw [completedFrom, loaded, Option.some_or, ← loaded]

namespace Workspace

/-- A workspace has what another has and possibly more bodies, but no other labels. -/
structure Completes (fuller workspace : Workspace) : Prop where
  within : workspace.Within fuller
  keepsBack : fuller.Keeps workspace

/-- All missing bodies that a source has under the same ids are taken from there. -/
def completedFrom (workspace source : Workspace) : Workspace :=
  { workspace with
    documents := workspace.documents.mapIdx fun id found =>
      found.completedFrom source.documents[id]? }

variable {source workspace before after : Workspace} {id : DocumentId}

/-- Workspaces with the same containers are the same if they have the same documents under all ids.
-/
theorem ext_documents (containers : before.containers = after.containers)
    (documents : ∀ id : DocumentId, before.documents[id]? = after.documents[id]?) :
    before = after :=
  (Workspace.mk.injEq ..).mpr ⟨containers, List.ext_getElem? documents⟩

namespace Completes

/-- A workspace completes itself. -/
theorem refl (workspace : Workspace) : workspace.Completes workspace where
  within := ⟨List.prefix_rfl, fun _ found stored => ⟨found, stored, rfl, fun _ bodyOf => bodyOf⟩⟩
  keepsBack := ⟨List.prefix_rfl, fun _ found stored => ⟨found, stored, rfl⟩⟩

/-- A completion has no other labels than what it completes. -/
theorem unloadAll_eq (completes : after.Completes before) : after.unloadAll = before.unloadAll :=
  completes.within.keeps.unloadAll_eq completes.keepsBack

end Completes

/-- Filling in bodies is a way to complete. -/
theorem Fills.completes (fills : source.Fills before after) : after.Completes before :=
  ⟨fills.within, fills.keepsBack⟩

/-! ## What a completion has -/

/-- A document is completed by the one under the same id, and by no other. -/
theorem getElem?_completedFrom (workspace source : Workspace) (id : DocumentId) :
    (workspace.completedFrom source).documents[id]? =
      (workspace.documents[id]?).map fun found => found.completedFrom source.documents[id]? :=
  List.getElem?_mapIdx

/-- A completion fills in all bodies that the source has and the workspace lacks. A source that is
shorter leaves the rest as it is. -/
theorem completedFrom_fills (workspace source : Workspace) :
    source.Fills workspace (workspace.completedFrom source) where
  containers := rfl
  length_eq := List.length_mapIdx
  documents := by
    intro id found stored
    refine ⟨found.completedFrom source.documents[id]?, ?_, ?_⟩
    · rw [getElem?_completedFrom, stored, Option.map_some]
    · cases bodyOf : found.body with
      | some body =>
        rw [found.completedFrom_of_body bodyOf]
        exact .same found
      | none =>
        rw [Document.completedFrom, bodyOf, Option.none_or]
        cases given : (source.documents[id]?).bind Document.body with
        | none =>
          rw [← bodyOf]
          exact .same found
        | some body => exact .filled bodyOf (body_eq_ok.mpr (Option.bind_eq_some_iff.mp given))

/-- A source that has all of a workspace is its completion. -/
theorem Completes.completedFrom_eq (completes : source.Completes workspace) :
    workspace.completedFrom source = source := by
  have labelled := (workspace.completedFrom_fills source).unloadAll_eq.trans
    completes.unloadAll_eq.symm
  refine ext_documents (congrArg (·.containers) labelled) fun id => ?_
  rw [getElem?_completedFrom]
  cases stored : workspace.documents[id]? with
  | none =>
    cases storedOuter : source.documents[id]? with
    | none => rfl
    | some outer =>
      obtain ⟨found, stored', _⟩ := completes.keepsBack.documents id outer storedOuter
      exact nomatch stored.symm.trans stored'
  | some found =>
    obtain ⟨outer, storedOuter, isWithin⟩ := completes.within.documents id found stored
    obtain ⟨name_eq, kind_eq, container_eq⟩ := Document.label_eq_iff.mp isWithin.label_eq
    rw [storedOuter, Option.map_some, Option.some.injEq]
    cases bodyOf : found.body with
    | some body =>
      rw [found.completedFrom_of_body bodyOf]
      exact (Document.mk.injEq ..).mpr ⟨name_eq.symm, kind_eq.symm, container_eq.symm,
        bodyOf.trans (isWithin.body body bodyOf).symm⟩
    | none =>
      rw [Document.completedFrom, bodyOf]
      exact (Document.mk.injEq ..).mpr ⟨name_eq.symm, kind_eq.symm, container_eq.symm, rfl⟩

/-- Without bodies nothing of the source is lost. -/
theorem completedFrom_unloadAll (source : Workspace) :
    source.unloadAll.completedFrom source = source := by
  have completes : source.Completes source.unloadAll :=
    ⟨source.unloadAll_within, source.keeps_unloadAll⟩
  exact completes.completedFrom_eq

/-! ## Filling and completing -/

namespace Fills

/-- What has been filled already is not filled again. -/
theorem completedFrom_eq (fills : source.Fills before after) :
    after.completedFrom source = before.completedFrom source := by
  refine ext_documents fills.containers fun id => ?_
  rw [getElem?_completedFrom, getElem?_completedFrom]
  cases stored : before.documents[id]? with
  | none =>
    have outside : after.documents.length ≤ id :=
      fills.length_eq ▸ List.getElem?_eq_none_iff.mp stored
    rw [List.getElem?_eq_none outside]
  | some found =>
    obtain ⟨later, storedLater, isFilled⟩ := fills.documents id found stored
    rw [storedLater]
    cases isFilled with
    | same => rfl
    | filled missing loaded =>
      obtain ⟨origin, storedOrigin, bodyOf⟩ := body_eq_ok.mp loaded
      simp [Document.completedFrom, missing, storedOrigin, bodyOf]

/-- When every body is there, nothing is left to fill. -/
theorem eq_completedFrom (fills : source.Fills before after) (loaded : after.AllLoaded) :
    after = before.completedFrom source := by
  rw [← fills.completedFrom_eq]
  refine ext_documents rfl fun id => ?_
  rw [getElem?_completedFrom]
  cases stored : after.documents[id]? with
  | none => rfl
  | some found =>
    obtain ⟨body, bodyOf⟩ := Option.isSome_iff_exists.mp (loaded id found stored)
    rw [Option.map_some, found.completedFrom_of_body bodyOf]

end Fills

/-! ## Changes before and after -/

/-- A container can be created before or after the completion. -/
theorem completedFrom_pushContainer (workspace source : Workspace) (added : Container) :
    (workspace.pushContainer added).completedFrom source =
      (workspace.completedFrom source).pushContainer added := rfl

/-- A document can be created before or after the completion, because it comes with its body. -/
theorem completedFrom_pushDocument (workspace source : Workspace) (holder : ContainerId)
    (body : DocumentBody) :
    (workspace.pushDocument holder body).completedFrom source =
      (workspace.completedFrom source).pushDocument holder body := by
  simp only [completedFrom, pushDocument, List.mapIdx_append, List.mapIdx_cons, List.mapIdx_nil]
  rw [Document.completedFrom_of_body rfl]

/-- A microflow can be replaced before or after the completion, because a body that is there is not
completed. -/
theorem completedFrom_replaceMicroflow (workspace source : Workspace) (id : DocumentId)
    (content : Microflow) :
    (workspace.replaceMicroflow id content).completedFrom source =
      (workspace.completedFrom source).replaceMicroflow id content := by
  refine ext_documents rfl fun other => ?_
  simp only [replaceMicroflow, getElem?_modifyDocument, getElem?_completedFrom, Option.map_map]
  congr 1
  funext found
  by_cases same : id = other <;> simp [same, Document.completedFrom]

end Workspace

end FlowModel
