import FlowModel.Proofs.Repository.Phases

/-!
# What a run publishes

All that is checked out is published when every container, document and loaded body is there under
the same id. A commit publishes all that is checked out, and a load keeps that so. A run commits
when its report tells of a change, and otherwise it leaves the checked-out workspace as it was, up
to loaded bodies. So all is published after a run that is done, if the run has changed something
or all was published before (`run_ends`).
-/

namespace FlowModel

namespace Workspace

variable {inner outer : Workspace}

/-- Entities that have their validation microflows keep them in a workspace that contains this one.
-/
theorem Within.validated (within : inner.Within outer) {settings : ValidationSettings}
    (validated : inner.Validated settings) : outer.Validated settings := by
  obtain ⟨targets, selected, present⟩ := validated
  exact ⟨targets, within.validationTargets selected, fun target member =>
    within.keeps.hasValidation (present target member)⟩

/-- The selected microflows keep their colors in a workspace that contains this one and selects no
others. -/
theorem Within.recolored (within : inner.Within outer) (back : outer.Keeps inner)
    {settings : RecolorSettings} (recolored : inner.Recolored settings) :
    outer.Recolored settings := by
  obtain ⟨ids, selected, right⟩ := recolored
  refine ⟨ids, ?_, fun id member => ?_⟩
  · rw [selectedMicroflows_congr (within.keeps.unloadAll_eq back), selected]
  · obtain ⟨content, read, isRight⟩ := right id member
    exact ⟨content, within.microflow read, isRight⟩

end Workspace

namespace Repository

open Workspace Generation

/-- Every folder, document and loaded body that is checked out is published, under the same
id. -/
def AllPublished (repository : Repository) : Prop :=
  repository.checkedOut.Within repository.published

variable {repository before after : Repository}

/-- When all is published, the published workspace is the completed one. -/
theorem AllPublished.completedFrom_eq (allPublished : repository.AllPublished)
    (sound : repository.Sound) :
    repository.checkedOut.completedFrom repository.published = repository.published := by
  have completes : repository.published.Completes repository.checkedOut :=
    ⟨allPublished, sound.keeps⟩
  exact completes.completedFrom_eq

/-- What has been validated is validated where it is published. -/
theorem AllPublished.validated (allPublished : repository.AllPublished)
    {settings : ValidationSettings} (validated : repository.checkedOut.Validated settings) :
    repository.published.Validated settings :=
  Within.validated allPublished validated

/-- What has been recolored is recolored where it is published. A sound repository publishes no
documents that are not checked out. -/
theorem AllPublished.recolored (allPublished : repository.AllPublished) (sound : repository.Sound)
    {settings : RecolorSettings} (recolored : repository.checkedOut.Recolored settings) :
    repository.published.Recolored settings :=
  Within.recolored allPublished sound.keeps recolored

/-- Only published bodies are loaded. -/
theorem Loaded.allPublished (loaded : before.Loaded after) (was : before.AllPublished) :
    after.AllPublished where
  containers := by
    rw [loaded.published, loaded.fills.containers]
    exact was.containers
  documents := by
    intro id later stored
    obtain ⟨found, storedFound, isFilled⟩ := loaded.fills.origin stored
    obtain ⟨outer, storedOuter, isWithin⟩ := was.documents id found storedFound
    refine ⟨outer, loaded.published.symm ▸ storedOuter, ?_⟩
    cases isFilled with
    | same => exact isWithin
    | filled _ published =>
      obtain ⟨outer', stored', bodyOf⟩ := body_eq_ok.mp published
      obtain rfl := Option.some.inj (storedOuter.symm.trans stored')
      exact ⟨isWithin.label_eq, fun body same => bodyOf.trans same⟩

/-- After a commit all that is checked out is published. -/
theorem Committed.allPublished {revision : Revision}
    (committed : before.Committed revision after) : after.AllPublished := by
  rw [AllPublished, committed.checkedOut]
  exact committed.fills.within

/-! ## Runs -/

/-- What holds when a run is done: all is published if the run has changed something or all
was published before, and what the run is for holds of the checked-out workspace. -/
structure Done (fulfilled : Workspace → Prop) (before : Repository) (report : Report)
    (after : Repository) : Prop where
  sound : after.Sound
  allPublished : report.hasChanges = true ∨ before.AllPublished → after.AllPublished
  fulfilled : fulfilled after.checkedOut

/-- What holds when a run has failed: all that was published is still all, unless the failure
leaves changes behind. -/
structure Failed (before : Repository) (failure : Failure) (after : Repository) : Prop where
  sound : after.Sound
  allPublished : failure.leavesChanges = false → before.AllPublished → after.AllPublished

/-- All is published after a run that is done, if it has changed something or all was published
before. -/
theorem run_ends (sound : repository.Sound) (kind : RunKind) (settings : Settings) :
    Ends (run kind settings) repository (repository.Done (Fulfilled kind settings))
      repository.Failed := by
  refine (run_phases sound kind settings).mono ?_ ?_
  · intro report after passes
    have soundThen := passes.sound sound
    cases passes with
    | idle generated untold =>
      have finishes := generated.finishes sound
      refine ⟨soundThen, fun given => ?_, finishes.fulfilled⟩
      rw [finishes.unchanged untold]
      exact generated.loaded.allPublished (given.resolve_left (Bool.eq_false_iff.mp untold))
    | published generated _ _ committed =>
      refine ⟨soundThen, fun _ => committed.allPublished, ?_⟩
      exact committed.checkedOut.symm ▸ (generated.finishes sound).fulfilled
  · intro failure after breaks
    refine ⟨breaks.sound sound, fun harmless was => ?_⟩
    cases breaks with
    | loading loaded => exact loaded.allPublished was
    | generating loaded _ _ stops =>
      cases stops with
      | refused => exact loaded.allPublished was
      | overflow => exact nomatch harmless
    | committing => exact nomatch harmless

end Repository

end FlowModel
