import FlowModel.Proofs.Generation.Repetition
import FlowModel.Proofs.Repository.Commits

/-!
# Runs that are repeated

A generator that has been done changes nothing when it is called again (`Idles`). So a run that is
repeated after a checkout has nothing to commit, if all that was checked out had been published
(`second_runs_change_nothing`). What a rejected run had left behind is discarded with the checkout,
and then the repeated run does it anew (`second_run_commits`).
-/

namespace FlowModel

open Workspace Generation

variable {settings : Settings} {kind : RunKind} {workspace : Workspace}

namespace Generation

/-- A generator with a fresh report is done and changes nothing. -/
def Idles (settings : Settings) (kind : RunKind) (workspace : Workspace) : Prop :=
  Ends (Service.generator settings kind) ⟨workspace, .empty kind⟩
    (fun _ after => after.workspace = workspace ∧ after.report.hasChanges = false) Never

/-- A generator with a fresh report notes that some names are taken, one after another, and changes
nothing. -/
structure OnlyCollides (generation : Generation Unit) (workspace : Workspace)
    (names : List String) : Prop where
  ends : ∀ kind, Ends generation ⟨workspace, .empty kind⟩
    (fun _ after => after.workspace = workspace ∧ after.report.hasChanges = false ∧
      after.report.skips = names.map fun name => ⟨name, .nameCollision⟩) Never

/-- A generator that notes what it leaves out, and does nothing else, changes nothing. -/
theorem idles_of_skips {left : List Skip}
    (noted : ∀ report, (Service.generator settings kind).run ⟨workspace, report⟩ =
      .ok () ⟨workspace, report.skipAll left⟩) : Idles settings kind workspace := by
  rw [Idles, Ends, noted (.empty kind)]
  exact ⟨rfl, rfl⟩

/-- A generator of microflows that has been done only notes that the names of its requests are
taken when it is called again. -/
theorem onlyCollides_again {before after : Work} (rooted : before.workspace.Rooted)
    (undotted : settings.UndottedFor kind) (creates : kind = .validation ∨ kind = .pageLogging)
    (done : (Service.generator settings kind).run before = .ok () after) :
    ∃ requests, Asks settings before.workspace kind requests ∧
      OnlyCollides (Service.generator settings kind) after.workspace
        (requests.map Request.name) := by
  obtain ⟨requests, asks, noted⟩ := generator_again rooted undotted creates done
  refine ⟨requests, asks, ⟨fun fresh => ?_⟩⟩
  rw [Ends, noted (.empty fresh), List.map_map]
  exact ⟨rfl, rfl, List.nil_append _⟩

/-- Right colors are not changed. -/
theorem idles_recolor (recolored : workspace.Recolored settings.recolor) :
    Idles settings .recolor workspace := by
  obtain ⟨ids, selected, right⟩ := recolored
  apply askThen selected
  refine Ends.eachKeeps ?_ ⟨rfl, rfl⟩
  rintro id member ⟨_, report⟩ ⟨rfl, untold⟩
  obtain ⟨content, read, isRight⟩ := right id member
  apply askThen read
  apply Ends.modifyThen
  rw [if_neg (Nat.not_lt.mpr (Nat.le_of_eq isRight)), Microflow.recolored_eq_self isRight]
  exact Ends.value ⟨replaceMicroflow_self read, untold⟩

/-- An audit changes nothing. -/
theorem idles_namingAudit (wellFormed : workspace.WellFormed) :
    Idles settings .namingAudit workspace := by
  have auditing : Ends _ (Work.mk workspace (.empty .namingAudit)) _ _ :=
    auditNaming_ends settings.naming
  exact auditing.mono (fun _ _ done => done) fun _ _ failed => absurd wellFormed failed.2

end Generation

namespace Repository

variable {repository before after : Repository} {report : Report}

/-- When a run is done and all that is checked out is published, the generator of the run changes
nothing in what is published. -/
theorem idles_when_done (sound : before.Sound) (undotted : settings.UndottedFor kind)
    (done : (run kind settings).run before = .ok report after) (allPublished : after.AllPublished) :
    Idles settings kind after.published := by
  have outcome := (run_ends sound kind settings).of_ok done
  -- On the workspace with all bodies the run is one call of its generator, and this is the next.
  have again {kind : RunKind} (undotted : settings.UndottedFor kind)
      (done : (run kind settings).run before = .ok report after)
      (creates : kind = .validation ∨ kind = .pageLogging) :
      Idles settings kind after.published := by
    have generated := ((run_phases sound kind settings).of_ok done).on_completed sound
    rw [allPublished.completedFrom_eq outcome.sound] at generated
    have rooted := ((completedFrom_fills before.checkedOut before.published).wellFormed
      sound.checkedOut sound.published sound.keeps).toRooted
    obtain ⟨requests, _, noted⟩ := generator_again rooted undotted creates generated
    exact idles_of_skips noted
  cases kind with
  | validation => exact again undotted done (Or.inl rfl)
  | pageLogging => exact again undotted done (Or.inr rfl)
  | recolor =>
    have recolored := allPublished.recolored outcome.sound (outcome.fulfilled.recolored rfl)
    exact idles_recolor recolored
  | namingAudit => exact idles_namingAudit outcome.sound.published

/-- After a checkout a run whose generator has nothing to change commits nothing. It fails only
when loads are made to fail. -/
theorem run_ends_of_idles (sound : repository.Sound)
    (idles : Idles settings kind repository.published) :
    Ends (run kind settings) repository.checkout
      (fun report after => report.hasChanges = false ∧ report.revision = none ∧
        repository.SamePublished after)
      (fun _ after => repository.failLoads = true ∧ repository.SamePublished after) := by
  have soundThen := sound.checkout
  have same : repository.SamePublished repository.checkout := ⟨rfl, rfl, rfl⟩
  have completed : repository.checkout.checkedOut.completedFrom repository.checkout.published =
      repository.published := completedFrom_unloadAll _
  refine (run_phases soundThen kind settings).mono ?_ ?_
  · intro report after passes
    have again := passes.on_completed soundThen
    rw [completed] at again
    have untold : report.hasChanges = false := (idles.of_ok again).2
    have commits := passes.commitsOnce soundThen
    rw [CommitsOnce, untold, if_neg Bool.false_ne_true] at commits
    exact ⟨untold, commits.1, commits.2.published, commits.2.commits, commits.2.revision⟩
  · intro failure after breaks
    have stays := breaks.samePublished
    refine ⟨?_, stays.published, stays.commits, stays.revision⟩
    cases breaks with
    | loading _ fails => exact fails
    | generating loaded readable failed =>
      have again := loaded.generator_run soundThen readable
      rw [completed, failed] at again
      exact (idles.of_error again).elim
    | committing generated told =>
      have again := generated.on_completed soundThen
      rw [completed] at again
      have untold : _ = false := (idles.of_ok again).2
      exact absurd (untold.symm.trans told) Bool.false_ne_true

/-- In every workspace that is reached by edits, a generator of microflows that has been done finds
all its names taken when it is called again, one for each target and in the same order, and changes
nothing, if the modules in which it creates them have names without dots. A run of any kind that has
been done in a repository and is repeated after a checkout commits nothing, provided that it has
changed something itself the first time or that no changes were waiting. -/
theorem second_runs_change_nothing (settings : Settings) :
    (∀ (workspace : Workspace) (report : Report) (after : Work), workspace.Reachable →
      settings.UndottedFor .validation →
      (generateValidation settings.validation).run ⟨workspace, report⟩ = .ok () after →
        ∃ targets, workspace.validationTargets settings.validation = .ok targets ∧
          OnlyCollides (generateValidation settings.validation) after.workspace
            (targets.map fun target => QualifiedName.qualified target.moduleName
              (settings.validation.microflowName target.entity.name))) ∧
    (∀ (workspace : Workspace) (report : Report) (after : Work), workspace.Reachable →
      settings.UndottedFor .pageLogging →
      (generatePageLogging settings.pageLogging).run ⟨workspace, report⟩ = .ok () after →
        ∃ targets, workspace.pageTargets = .ok targets ∧
          OnlyCollides (generatePageLogging settings.pageLogging) after.workspace
            (targets.map fun target => QualifiedName.qualified settings.pageLogging.loggingModule
              (settings.pageLogging.microflowName target.page))) ∧
    ∀ (project : Project) (events : List Event) (kind : RunKind) (report : Report)
      (after : Repository), settings.UndottedFor kind →
      (run kind settings).run ((History.ofProject project).undergoAll events).repository =
        .ok report after →
      report.hasChanges = true ∨ ((History.ofProject project).undergoAll events).waiting = false →
        Ends (run kind settings) after.checkout
          (fun again later => again.hasChanges = false ∧ again.revision = none ∧
            after.SamePublished later)
          (fun _ later => after.failLoads = true ∧ after.SamePublished later) := by
  refine ⟨fun workspace report after reachable undotted done => ?_,
    fun workspace report after reachable undotted done => ?_,
    fun project events kind report after undotted done nothingLeft => ?_⟩
  · obtain ⟨requests, asks, collides⟩ :=
      onlyCollides_again reachable.rooted undotted (Or.inl rfl) done
    cases asks with
    | validation selected =>
      rw [List.map_map] at collides
      exact ⟨_, selected, collides⟩
  · obtain ⟨requests, asks, collides⟩ :=
      onlyCollides_again reachable.rooted undotted (Or.inr rfl) done
    cases asks with
    | pageLogging _ _ _ found =>
      rw [List.map_map] at collides
      exact ⟨_, found, collides⟩
  · have tracked := (History.tracked_ofProject project).undergoAll events
    have outcome := (run_ends tracked.sound kind settings).of_ok done
    have allPublished := outcome.allPublished (nothingLeft.imp_right tracked.allPublished)
    exact run_ends_of_idles outcome.sound (idles_when_done tracked.sound undotted done allPublished)

/-- Each generator is called again where it is done, and notes the one name that it finds taken. A
run after a checkout commits nothing more. -/
theorem second_runs_change_nothing_sample :
    (∃ after, (generateValidation sampleSettings.validation).run
        ⟨.ofProject sample, .empty .validation⟩ = .ok () after ∧
      OnlyCollides (generateValidation sampleSettings.validation) after.workspace
        ["Sales.VAL_Order"]) ∧
    (∃ after, (generatePageLogging sampleSettings.pageLogging).run
        ⟨.ofProject sample, .empty .pageLogging⟩ = .ok () after ∧
      OnlyCollides (generatePageLogging sampleSettings.pageLogging) after.workspace
        ["CustomLogging.ACT_Overview_OpenWithLog"]) ∧
    caughtUp.waiting = false ∧ ∃ report after,
      (run .validation shopSettings).run caughtUp.repository = .ok report after ∧
        Ends (run .validation shopSettings) after.checkout
          (fun again later => again.hasChanges = false ∧ again.revision = none ∧
            after.SamePublished later)
          (fun _ later => after.failLoads = true ∧ after.SamePublished later) := by
  obtain ⟨validates, logs, _⟩ := second_runs_change_nothing sampleSettings
  refine ⟨?_, ?_, ?_⟩
  · have undotted : sampleSettings.UndottedFor .validation := by
      simp [Settings.UndottedFor, sampleSettings]
    obtain ⟨⟨⟩, after, ran, _⟩ := Ends.exists_ok
      (by cbv : Ends (generateValidation sampleSettings.validation)
        ⟨.ofProject sample, .empty .validation⟩ (fun _ _ => True) Never)
    obtain ⟨targets, selected, collides⟩ :=
      validates _ _ after (reachable_ofProject sample) undotted ran
    have only : (Workspace.ofProject sample).validationTargets sampleSettings.validation =
        .ok [⟨0, "Sales", ⟨"Order", [⟨"Total", .decimal⟩, ⟨"Number", .autoNumber⟩]⟩⟩] := by cbv
    obtain rfl := Except.ok.inj (only.symm.trans selected)
    exact ⟨after, ran, collides⟩
  · have undotted : sampleSettings.UndottedFor .pageLogging := by
      show '.' ∉ "CustomLogging".toList
      decide
    obtain ⟨⟨⟩, after, ran, _⟩ := Ends.exists_ok
      (by cbv : Ends (generatePageLogging sampleSettings.pageLogging)
        ⟨.ofProject sample, .empty .pageLogging⟩ (fun _ _ => True) Never)
    obtain ⟨targets, found, collides⟩ :=
      logs _ _ after (reachable_ofProject sample) undotted ran
    have only : (Workspace.ofProject sample).pageTargets =
        .ok [⟨"Sales.Overview", "Sales", none⟩] := by cbv
    obtain rfl := Except.ok.inj (only.symm.trans found)
    exact ⟨after, ran, collides⟩
  · have undotted : shopSettings.UndottedFor .validation := by
      simp [Settings.UndottedFor, shopSettings]
    have nothingWaits : caughtUp.waiting = false := by cbv
    have isDone : caughtUp.repository.isDone (run .validation shopSettings) = true := by cbv
    obtain ⟨report, ran⟩ := exists_of_isDone isDone
    have repeats := (second_runs_change_nothing shopSettings).2.2 shop
    exact ⟨nothingWaits, report, _, ran,
      repeats _ .validation report _ undotted ran (Or.inr nothingWaits)⟩

/-- When the commit of a run has been rejected, the same run is done the next time without a commit.
A checkout discards what had been changed, and then the run does it anew and commits. -/
theorem second_run_commits :
    shopSettings.UndottedFor .validation ∧
      ∃ report after, (run .validation shopSettings).run (shelved .validation) = .ok report after ∧
        ∃ again later, (run .validation shopSettings).run after.checkout = .ok again later ∧
          later.revision = after.revision + 1 := by
  have undotted : shopSettings.UndottedFor .validation := by
    simp [Settings.UndottedFor, shopSettings]
  have first : (shelved .validation).isDone (run .validation shopSettings) = true := by cbv
  obtain ⟨report, ran⟩ := exists_of_isDone first
  have second : ((shelved .validation).afterStep (run .validation shopSettings)).checkout.isDone
      (run .validation shopSettings) = true := by cbv
  obtain ⟨again, ranAgain⟩ := exists_of_isDone second
  refine ⟨undotted, report, _, ran, again, _, ranAgain, ?_⟩
  have before : ((shelved .validation).afterStep (run .validation shopSettings)).revision = 0 := by
    cbv
  have after : (((shelved .validation).afterStep (run .validation shopSettings)).checkout.afterStep
      (run .validation shopSettings)).revision = 1 := by cbv
  rw [after, before]

end Repository

end FlowModel
