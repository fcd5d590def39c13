import FlowModel.Proofs.Generation.Soundness
import FlowModel.Proofs.Steps
import FlowModel.Proofs.Workspace.Names

/-!
# Steps of generators

A question leaves the work as it is and is answered, or it ends the generator (`asking`). The work
of a generator only grows when every folder and document that was there stays, and the report tells
of a change if there is one (`Grown`). Whether a name is taken changes nothing but the report
(`isAbsent_ends`).
-/

namespace FlowModel.Generation

/-! ## Questions -/

/-- Looking at the work changes nothing. -/
theorem run_get (work : Work) : (get : Generation Work).run work = .ok work work := rfl

/-- A question that is answered leaves the work as it is. -/
theorem run_ask_of_ok {α : Type} {question : Workspace → Except Failure α} {work : Work} {value : α}
    (answered : question work.workspace = .ok value) :
    (ask question).run work = .ok value work := by
  rw [ask, EStateM.run_bind, run_get]
  simp only [answered]
  rfl

/-- A question that fails ends the generator with the work as it is. -/
theorem run_ask_of_error {α : Type} {question : Workspace → Except Failure α} {work : Work}
    {failure : Failure} (refused : question work.workspace = .error failure) :
    (ask question).run work = .error failure work := by
  rw [ask, EStateM.run_bind, run_get]
  simp only [refused]
  rfl

section

variable {α β : Type} {question : Workspace → Except Failure α} {next : α → Generation β}
  {work : Work} {done : β → Work → Prop} {failed : Failure → Work → Prop}

/-- What follows a question gets its answer. -/
theorem run_ask_bind_of_ok {value : α} (answered : question work.workspace = .ok value) :
    (ask question >>= next).run work = (next value).run work := by
  rw [EStateM.run_bind, run_ask_of_ok answered]

/-- Nothing follows a question that fails. -/
theorem run_ask_bind_of_error {failure : Failure}
    (refused : question work.workspace = .error failure) :
    (ask question >>= next).run work = .error failure work := by
  rw [EStateM.run_bind, run_ask_of_error refused]

/-- A question with an answer leaves the work as it is. -/
theorem askThen {value : α} (answered : question work.workspace = .ok value)
    (rest : Ends (next value) work done failed) :
    Ends (ask question >>= next) work done failed := by
  rw [Ends, run_ask_bind_of_ok answered]
  exact rest

/-- A question without an answer ends the generator. -/
theorem askFails {failure : Failure} (refused : question work.workspace = .error failure)
    (holds : failed failure work) : Ends (ask question >>= next) work done failed := by
  rw [Ends, run_ask_bind_of_error refused]
  exact holds

/-- A question is answered, or it ends the generator. -/
theorem asking (refused : ∀ failure, question work.workspace = .error failure → failed failure work)
    (rest : ∀ value, question work.workspace = .ok value → Ends (next value) work done failed) :
    Ends (ask question >>= next) work done failed := by
  cases answered : question work.workspace with
  | error failure => exact askFails answered (refused failure answered)
  | ok value => exact askThen answered (rest value answered)

end

/-! ## Changes and reports -/

/-- The report keeps telling of changes, and tells of one if the workspace is another. -/
structure Reported (before after : Work) : Prop where
  tells : before.report.hasChanges = true → after.report.hasChanges = true
  unchanged : after.report.hasChanges = false → after.workspace = before.workspace

namespace Reported

variable {before middle after : Work}

/-- Nothing is to be told where nothing has changed. -/
theorem refl (work : Work) : Reported work work := ⟨fun told => told, fun _ => rfl⟩

/-- A report that has told of a change still tells of it later, so no second step can hide what the
first has changed. -/
theorem trans (first : Reported before middle) (second : Reported middle after) :
    Reported before after where
  tells told := second.tells (first.tells told)
  unchanged untold := by
    have stayed : middle.report.hasChanges = false :=
      Bool.eq_false_iff.mpr fun told => Bool.eq_false_iff.mp untold (second.tells told)
    exact (second.unchanged untold).trans (first.unchanged stayed)

/-- Once the report tells of a change, any change is told of. -/
theorem told (tells : after.report.hasChanges = true) : Reported before after :=
  ⟨fun _ => tells, fun untold => nomatch tells.symm.trans untold⟩

end Reported

/-- The workspace has grown, and the report tells whether it has. -/
structure Grown (before after : Work) : Prop extends Reported before after where
  grows : before.workspace.Grows after.workspace

namespace Grown

variable {before middle after : Work}

/-- A well-formed workspace has grown by nothing. -/
theorem refl (wellFormed : before.workspace.WellFormed) : Grown before before :=
  ⟨.refl before, .refl wellFormed⟩

/-- Work that grows twice has grown. -/
theorem trans (first : Grown before middle) (second : Grown middle after) : Grown before after :=
  ⟨first.toReported.trans second.toReported, first.grows.trans second.grows⟩

/-- Growth is from one well-formed workspace to another. -/
theorem wellFormed (grown : Grown before after) : after.workspace.WellFormed :=
  grown.grows.wellFormed

/-- What is found by labels is found after the growth. -/
theorem keeps (grown : Grown before after) : before.workspace.Keeps after.workspace :=
  grown.grows.isExtension.within.keeps

/-- A step that only changes the report, and not whether it tells of changes. -/
theorem noted (wellFormed : before.workspace.WellFormed) {report : Report}
    (same : report.hasChanges = before.report.hasChanges) :
    Grown before { before with report := report } :=
  ⟨⟨fun told => same.trans told, fun _ => rfl⟩, .refl wellFormed⟩

/-- A step that grows the workspace and tells so. -/
theorem told (grows : before.workspace.Grows after.workspace)
    (tells : after.report.hasChanges = true) :
    Grown before after :=
  ⟨.told tells, grows⟩

end Grown

/-- A folder counts as a change. -/
theorem hasChanges_addFolder (report : Report) (path : String) :
    (report.addFolder path).hasChanges = true := by
  simp [Report.addFolder, Report.hasChanges]

/-- A microflow counts as a change, however many nodes it has. -/
theorem hasChanges_addMicroflow (report : Report) (name : String) (createdNodes : Nat) :
    ({ report.addMicroflow name with createdNodes := createdNodes } : Report).hasChanges = true := by
  simp [Report.addMicroflow, Report.hasChanges]

/-! ## Names that are taken -/

variable {work : Work} {workspace : Workspace} {kind : DocumentKind} {qualified : String}

/-- A name that is taken is noted as a collision, under the name that was looked up. -/
theorem run_isAbsent_of_found {id : DocumentId}
    (found : workspace.find? kind qualified = some id) (report : Report) :
    (isAbsent kind qualified).run ⟨workspace, report⟩ =
      .ok false ⟨workspace, report.skip qualified .nameCollision⟩ := by
  rw [isAbsent, EStateM.run_bind, run_get]
  simp only [found]
  rfl

/-- Nothing is noted of a name that is free. -/
theorem run_isAbsent_of_free (free : workspace.find? kind qualified = none) (report : Report) :
    (isAbsent kind qualified).run ⟨workspace, report⟩ = .ok true ⟨workspace, report⟩ := by
  rw [isAbsent, EStateM.run_bind, run_get]
  simp only [free]
  rfl

/-- A taken name is noted, which is no change. -/
theorem isAbsent_ends (kind : DocumentKind) (qualified : String) :
    Ends (isAbsent kind qualified) work
      (fun absent after =>
        if absent then work.workspace.find? kind qualified = none ∧ after = work
        else (∃ id, work.workspace.find? kind qualified = some id) ∧
          after = { work with report := work.report.skip qualified .nameCollision }) Never := by
  apply Ends.lookThen
  cases taken : work.workspace.find? kind qualified with
  | none => exact Ends.value (by simp)
  | some id => exact Ends.modifyThen (Ends.value (by simp))

end FlowModel.Generation
