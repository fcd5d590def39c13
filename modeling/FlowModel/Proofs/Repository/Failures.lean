import FlowModel.Proofs.Repository.Commits

/-!
# Why runs fail

What a run loads is all that its generator reads, in every tree of modules and whatever is loaded
already. So a run never fails because something is unknown or not loaded, and what it draws breaks
no rule. It refuses the project, a load or a commit was made to fail, or a validation microflow
does not fit on the canvas (`run_fails_as_expected`).
-/

namespace FlowModel.Repository

open Workspace Generation

variable {before after : Repository} {settings : Settings} {kind : RunKind}

/-- The failures that a run may end in: the project lacks a prerequisite or has an ambiguous page,
a load or a commit was made to fail, or a validation microflow does not fit on the canvas. -/
inductive FailsExpectedly (before : Repository) (settings : Settings) (kind : RunKind) :
    Failure → Repository → Prop where
  | refused {failure : Failure} {after : Repository} (refuses : kind.Refuses failure) :
    before.FailsExpectedly settings kind failure after
  | load {id : DocumentId} {after : Repository} (fails : before.failLoads = true) :
    before.FailsExpectedly settings kind (loadRejected id) after
  | commit {after : Repository} (fails : before.failCommits = true) :
    before.FailsExpectedly settings kind commitRejected after
  | overflow {after : Repository} (isValidation : kind = .validation)
    (overflows : after.checkedOut.Overflows settings.validation) :
    before.FailsExpectedly settings kind .outOfRange after

/-- Each way in which a run breaks off is expected: it is refused, a load or a commit was made to
fail, or a drawing has left the canvas. -/
theorem Breaks.failsExpectedly {failure : Failure}
    (breaks : before.Breaks settings kind failure after) :
    before.FailsExpectedly settings kind failure after := by
  cases breaks with
  | loading _ fails => exact .load fails
  | generating _ _ _ stops =>
    cases stops with
    | refused refuses => exact .refused refuses
    | overflow _ overflows => exact .overflow rfl overflows
  | committing _ _ fails => exact .commit fails

/-- Recoloring and audits refuse no project. -/
theorem FailsExpectedly.rejected {failure : Failure}
    (fails : before.FailsExpectedly settings kind failure after)
    (refusesNothing : kind = .recolor ∨ kind = .namingAudit) :
    before.failLoads = true ∨ before.failCommits = true := by
  cases fails with
  | refused refuses => rcases refusesNothing with rfl | rfl <;> cases refuses
  | load fails => exact Or.inl fails
  | commit fails => exact Or.inr fails
  | overflow isValidation => subst isValidation; simp at refusesNothing

/-- Whatever has happened since a project was checked out, a run fails only as expected, and
recoloring and audits are done unless a load or a commit is made to fail. -/
theorem run_fails_as_expected (project : Project) (events : List Event) (kind : RunKind)
    (settings : Settings) :
    Ends (run kind settings) ((ofProject project).undergoAll events) (fun _ _ => True)
        (((ofProject project).undergoAll events).FailsExpectedly settings kind) ∧
      (((ofProject project).undergoAll events).failLoads = false →
        ((ofProject project).undergoAll events).failCommits = false →
          kind = .recolor ∨ kind = .namingAudit →
            ∃ report after, (run kind settings).run ((ofProject project).undergoAll events) =
              .ok report after) := by
  have sound := (sound_ofProject project).undergoAll events
  have ends := (run_phases sound kind settings).mono (fun _ _ _ => trivial)
    fun _ _ breaks => breaks.failsExpectedly
  refine ⟨ends, fun loads commits refusesNothing => ?_⟩
  cases ran : (run kind settings).run ((ofProject project).undergoAll events) with
  | ok report after => exact ⟨report, after, rfl⟩
  | error failure after =>
    rcases (ends.of_error ran).rejected refusesNothing with fails | fails
    · exact nomatch loads.symm.trans fails
    · exact nomatch commits.symm.trans fails

/-- After a run without loads and a new folder, recoloring is done. -/
theorem run_fails_as_expected_shop :
    ∃ report after, (run .recolor shopSettings).run ((ofProject shop).undergoAll
        [.failLoads true, .run .recolor shopSettings, .failLoads false, .createFolder 0 "New"]) =
      .ok report after :=
  (run_fails_as_expected shop _ .recolor shopSettings).2 (by cbv) (by cbv) (Or.inl rfl)

end FlowModel.Repository
