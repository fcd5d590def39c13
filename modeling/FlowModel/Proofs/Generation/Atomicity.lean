import FlowModel.Proofs.Generation.Edits

/-!
# Generators that fail

A generator of microflows looks up all that it relies on before it changes anything. After that every
folder has a container, every microflow has a folder and keeps the structural rules, and every
document has a name, so no later step fails. A generator that fails has therefore changed neither the
workspace nor its report, wherever the fault was found, unless a validation microflow does not fit on
the canvas (`failures_leave_no_trace`).
-/

namespace FlowModel.Generation

open Workspace

/-- In every workspace that is reached by edits, whatever bodies are missing there and whatever the
report tells, a generator of microflows that fails leaves both as they were. The only exception is a
selected entity whose microflow does not fit on the canvas. -/
theorem failures_leave_no_trace {workspace : Workspace} (reachable : workspace.Reachable)
    (settings : Settings) {kind : RunKind} (creates : kind = .validation ∨ kind = .pageLogging)
    (report : Report) {failure : Failure} {after : Work}
    (failed : (Service.generator settings kind).run ⟨workspace, report⟩ = .error failure after) :
    after = ⟨workspace, report⟩ ∨
      kind = .validation ∧ failure = .outOfRange ∧ workspace.Overflows settings.validation := by
  have ends : Ends _ (Work.mk workspace report) _ _ :=
    generator_served reachable.rooted settings creates
  cases ends.of_error failed with
  | refused => exact Or.inl rfl
  | overflow overflows => exact Or.inr ⟨rfl, rfl, overflows⟩

/-- The sample with a second page, of which only the pages are loaded again. -/
def halfLoaded : Workspace :=
  (ofProject sample).editAll
    [.createDocument 0 (.page ⟨"Orders", false, [.dataView (.directEntity "Sales.Order") []]⟩),
      .unloadAll, .setBody 2 (.page ⟨"Overview", false, []⟩),
      .setBody 6 (.page ⟨"Orders", false, [.dataView (.directEntity "Sales.Order") []]⟩)]

/-- The first page could be logged, but the entity of the second one is not known. -/
theorem failures_leave_no_trace_halfLoaded :
    ∃ after, (Service.generator .standard .pageLogging).run ⟨halfLoaded, .empty .pageLogging⟩ =
        .error (.missingPrerequisite
          "entity 'Sales.Order' used as parameter of page 'Sales.Orders'") after ∧
      after = ⟨halfLoaded, .empty .pageLogging⟩ := by
  have ends : Ends (Service.generator .standard .pageLogging) ⟨halfLoaded, .empty .pageLogging⟩
      (fun _ _ => False) fun failure _ => failure = .missingPrerequisite
        "entity 'Sales.Order' used as parameter of page 'Sales.Orders'" := by
    cbv
  cases ran : (Service.generator .standard .pageLogging).run ⟨halfLoaded, .empty .pageLogging⟩ with
  | ok value after => exact (ends.of_ok ran).elim
  | error failure after =>
    obtain rfl := ends.of_error ran
    have unchanged := failures_leave_no_trace ⟨sample, _, rfl⟩ .standard (Or.inr rfl) _ ran
    rcases unchanged with same | ⟨isValidation, _⟩
    · exact ⟨after, rfl, same⟩
    · exact absurd isValidation (by decide)

end FlowModel.Generation
