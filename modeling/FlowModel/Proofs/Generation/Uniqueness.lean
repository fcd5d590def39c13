import FlowModel.Proofs.Generation.Edits
import FlowModel.Proofs.Workspace.Bearers

/-!
# Names of microflows stay apart

When the names of modules have no dots and are distinct, a lookup misses no microflow, and a
microflow is created under exactly the name that was looked up in vain. So a request never gives a
name to a second microflow, and neither does any sequence of calls, whether they are done or fail
(`names_stay_apart`).
-/

namespace FlowModel

namespace Workspace

/-- No two microflows have one qualified name. -/
def NamesApart (workspace : Workspace) : Prop :=
  ∀ (id other : DocumentId) (qualified : String), workspace.Bears .microflow qualified id →
    workspace.Bears .microflow qualified other → id = other

variable {workspace before after : Workspace}

/-- Bodies do not matter. -/
theorem NamesApart.of_unloadAll_eq (apart : before.NamesApart)
    (same : after.unloadAll = before.unloadAll) : after.NamesApart := by
  have keeps := keeps_of_unloadAll_eq same.symm
  exact fun id other qualified bears bearsToo =>
    apart id other qualified (keeps.bears bears) (keeps.bears bearsToo)

/-- The names of modules do not depend on bodies. -/
theorem ModulesApart.of_unloadAll_eq (apart : before.ModulesApart)
    (same : after.unloadAll = before.unloadAll) : after.ModulesApart := by
  have containers : after.containers = before.containers := congrArg (·.containers) same
  exact apart.of_modules fun _ _ stored _ => containers ▸ stored

end Workspace

namespace Generation

open Workspace

variable {request : Request} {before after : Work}

/-- A microflow whose name was free is the only one with that name. -/
theorem Fulfils.namesApart (fulfils : Fulfils request before after)
    (rooted : before.workspace.Rooted) (apart : before.workspace.ModulesApart)
    (named : before.workspace.moduleNamed? request.moduleName = some request.owner)
    (namesApart : before.workspace.NamesApart) : after.workspace.NamesApart := by
  have keeps := fulfils.keeps
  cases fulfils with
  | taken => exact namesApart
  | @created folder between _ free opened _ =>
    have known := opened.qualifiedName_pushDocument rooted named
    rw [opened.documents] at known
    -- A document is one of those before or the new one, whose name no other has.
    have cases_of_bears : ∀ (id : DocumentId) (qualified : String),
        (between.workspace.pushDocument folder (.microflow request.content)).Bears .microflow
          qualified id →
          before.workspace.Bears .microflow qualified id ∨
            id = before.workspace.documents.length ∧ qualified = request.name := by
      intro id qualified bears
      obtain ⟨found, stored, _⟩ := bears.ofKind
      rcases getElem?_concat_cases stored with earlier | ⟨rfl, _⟩
      · rw [opened.documents] at earlier
        exact Or.inl (keeps.bears_back rooted (lt_of_getElem?_eq_some earlier) bears)
      · rw [opened.documents] at bears ⊢
        exact Or.inr ⟨rfl, Except.ok.inj (bears.named.symm.trans known)⟩
    have noBearer : ∀ id, ¬ before.workspace.Bears .microflow request.name id := by
      intro id bears
      obtain ⟨first, found⟩ := (apart.exists_find?_iff rooted).mpr ⟨id, bears⟩
      exact nomatch free.symm.trans found
    intro id other qualified bears bearsToo
    rcases cases_of_bears id qualified bears with old | ⟨rfl, rfl⟩
    · rcases cases_of_bears other qualified bearsToo with oldToo | ⟨rfl, rfl⟩
      · exact namesApart id other qualified old oldToo
      · exact absurd old (noBearer id)
    · rcases cases_of_bears other _ bearsToo with oldToo | ⟨rfl, _⟩
      · exact absurd oldToo (noBearer other)
      · rfl

/-- Requests create no modules, so their names stay apart. -/
theorem Fulfils.modulesApart (fulfils : Fulfils request before after)
    (apart : before.workspace.ModulesApart) : after.workspace.ModulesApart :=
  apart.of_modules fun _ _ => fulfils.stored_of_isModule

/-- Serving requests keeps names apart. -/
theorem Served.namesApart {requests : List Request} (served : Served requests before after)
    (rooted : before.workspace.Rooted) (apart : before.workspace.ModulesApart)
    (namesApart : before.workspace.NamesApart) :
    after.workspace.ModulesApart ∧ after.workspace.NamesApart := by
  have kept : ∀ request ∈ requests, ∀ earlier later : Work,
      earlier.workspace.moduleNamed? request.moduleName = some request.owner →
        earlier.workspace.Rooted → Fulfils request earlier later →
          earlier.workspace.ModulesApart ∧ earlier.workspace.NamesApart →
            later.workspace.ModulesApart ∧ later.workspace.NamesApart := by
    rintro request _ earlier later named rootedThen fulfils ⟨apartThen, namesApartThen⟩
    exact ⟨fulfils.modulesApart apartThen,
      fulfils.namesApart rootedThen apartThen named namesApartThen⟩
  exact (served.keeps rooted kept ⟨apart, namesApart⟩).2.2

end Generation

namespace Workspace

variable {workspace : Workspace}

/-- A call of a generator keeps names apart, whether it is done or fails. -/
theorem NamesApart.afterCall (namesApart : workspace.NamesApart) (rooted : workspace.Rooted)
    (apart : workspace.ModulesApart) (call : Call) :
    (workspace.afterCall call).ModulesApart ∧ (workspace.afterCall call).NamesApart := by
  rcases afterCall_cases rooted call with ⟨requests, report, served⟩ | same
  · exact served.namesApart rooted apart namesApart
  · exact ⟨apart.of_unloadAll_eq same, namesApart.of_unloadAll_eq same⟩

/-- In every workspace that is reached by edits, if the names of modules have no dots and are
distinct and no two microflows have one qualified name, then no two have after any calls of
generators. -/
theorem names_stay_apart (reachable : workspace.Reachable) (apart : workspace.ModulesApart)
    (namesApart : workspace.NamesApart) (calls : List Call) :
    (calls.foldl afterCall workspace).NamesApart := by
  have rooted := reachable.rooted
  clear reachable
  induction calls generalizing workspace with
  | nil => exact namesApart
  | cons call later inductionHypothesis =>
    obtain ⟨apartThen, namesApartThen⟩ := namesApart.afterCall rooted apart call
    exact inductionHypothesis apartThen namesApartThen (rooted.afterCall call)

/-- The generators are called in turn, those that create microflows twice. -/
def sampleCalls : List Call :=
  [RunKind.validation, .pageLogging, .recolor, .validation, .pageLogging].map fun kind =>
    ⟨kind, sampleSettings, .empty kind⟩

/-- Calls of generators with overlapping settings keep the names apart. -/
theorem names_stay_apart_sample : (sampleCalls.foldl afterCall (ofProject sample)).NamesApart := by
  have apart : (ofProject sample).ModulesApart := ⟨by decide, by decide⟩
  have only : (ofProject sample).documentsOfKind .microflow = [1] := by decide
  have namesApart : (ofProject sample).NamesApart := by
    intro id other qualified bears bearsToo
    have isOnly := only ▸ mem_documentsOfKind.mpr bears.ofKind
    have isOnlyToo := only ▸ mem_documentsOfKind.mpr bearsToo.ofKind
    rw [List.mem_singleton.mp isOnly, List.mem_singleton.mp isOnlyToo]
  exact names_stay_apart (reachable_ofProject sample) apart namesApart sampleCalls

end Workspace

end FlowModel
