import FlowModel.Proofs.Repository.Publishing

/-!
# Histories of a repository

A repository undergoes loads, commits, checkouts, runs and what is created in the checked-out
workspace, and at any time loads and commits may be made to fail. It stays sound whatever happens
(`Sound.undergo`). A run commits only when it has changed something itself, so changes that a
rejected run has left behind wait until a later run changes something, or are discarded with a
checkout. When nothing waits, all is published (`Tracked.undergoAll`), and a run that is done
leaves it so (`published_when_done`).
-/

namespace FlowModel

namespace Repository

open Workspace

/-- What may happen to a repository. -/
inductive Event where
  | load (id : DocumentId)
  | commit (branch : Option String)
  | checkout
  | failLoads (fails : Bool)
  | failCommits (fails : Bool)
  | run (kind : RunKind) (settings : Settings)
  | createFolder (parent : ContainerId) (name : String)
  | ensureFolder (parent : ContainerId) (name : String)
  | createDocument (holder : ContainerId) (body : DocumentBody)
deriving Repr, Inhabited

/-- The repository after a step, whether the step is done or has failed. -/
def afterStep {α : Type} (repository : Repository) (step : Transaction α) : Repository :=
  match step.run repository with
  | .ok _ after => after
  | .error _ after => after

/-- The repository with another workspace checked out, unless there is none. -/
def afterChange (repository : Repository) : Except Failure Workspace → Repository
  | .ok checkedOut => { repository with checkedOut }
  | .error _ => repository

/-- The repository after an event. -/
def undergo (repository : Repository) : Event → Repository
  | .load id => repository.afterStep (load id)
  | .commit branch => repository.afterStep (commit branch)
  | .checkout => repository.checkout
  | .failLoads fails => { repository with failLoads := fails }
  | .failCommits fails => { repository with failCommits := fails }
  | .run kind settings => repository.afterStep (run kind settings)
  | .createFolder parent name =>
    repository.afterChange ((repository.checkedOut.createFolder parent name).map fun made => made.2)
  | .ensureFolder parent name =>
    repository.afterChange
      ((repository.checkedOut.ensureFolder parent name).map fun made => made.2.2)
  | .createDocument holder body =>
    repository.afterChange
      ((repository.checkedOut.createDocument holder body).map fun made => made.2)

/-- Whether changes may wait to be published after an event: what a failed run has left behind
and what was created, until a run or a commit publishes it or a checkout discards it. -/
def waitsAfter (repository : Repository) (waiting : Bool) : Event → Bool
  | .load _ | .failLoads _ | .failCommits _ => waiting
  | .commit branch =>
    match (commit branch).run repository with
    | .ok _ _ => false
    | .error _ _ => waiting
  | .checkout => false
  | .run kind settings =>
    match (run kind settings).run repository with
    | .ok report _ => waiting && !report.hasChanges
    | .error failure _ => waiting || failure.leavesChanges
  | .createFolder parent name =>
    match repository.checkedOut.createFolder parent name with
    | .ok _ => true
    | .error _ => waiting
  | .ensureFolder parent name =>
    match repository.checkedOut.ensureFolder parent name with
    | .ok (_, created, _) => waiting || created
    | .error _ => waiting
  | .createDocument holder body =>
    match repository.checkedOut.createDocument holder body with
    | .ok _ => true
    | .error _ => waiting

/-- A repository, and whether changes may wait to be published. -/
structure History where
  repository : Repository
  waiting : Bool

namespace History

/-- Nothing has happened since a project was checked out. -/
def ofProject (project : Project) : History := ⟨.ofProject project, false⟩

/-- The history with one more event. -/
def undergo (history : History) (event : Event) : History :=
  ⟨history.repository.undergo event, history.repository.waitsAfter history.waiting event⟩

/-- The history with further events. -/
def undergoAll (history : History) (events : List Event) : History := events.foldl undergo history

end History

/-! ## Soundness -/

variable {repository : Repository}

/-- A repository starts with all that is published checked out, but for the bodies. -/
theorem sound_ofProject (project : Project) : (ofProject project).Sound where
  published := wellFormed_ofProject project
  allLoaded := allLoaded_ofProject project
  checkedOut := (wellFormed_ofProject project).unloadAll
  keeps := keeps_unloadAll _
  missing := by
    intro id found stored _
    simpa [ofProject, Workspace.unloadAll] using lt_of_getElem?_eq_some stored

/-- A checkout makes a new copy of what is published, again without bodies. -/
theorem Sound.checkout (sound : repository.Sound) : repository.checkout.Sound where
  published := sound.published
  allLoaded := sound.allLoaded
  checkedOut := sound.published.unloadAll
  keeps := keeps_unloadAll _
  missing := by
    intro id found stored _
    simpa [Repository.checkout, Workspace.unloadAll] using lt_of_getElem?_eq_some stored

/-- What has just been checked out is published. Changes that were waiting are lost. -/
theorem allPublished_checkout (repository : Repository) : repository.checkout.AllPublished :=
  unloadAll_within _

/-- What holds of a repository whether a step is done or has failed holds of it after the step. -/
theorem afterStep_of_ends {α : Type} {step : Transaction α} {holds : Repository → Prop}
    (ends : Ends step repository (fun _ after => holds after) fun _ after => holds after) :
    holds (repository.afterStep step) := by
  rw [afterStep]
  cases ran : step.run repository with
  | ok value after => exact ends.of_ok ran
  | error failure after => exact ends.of_error ran

/-- What is created in the checked-out workspace keeps the repository sound. -/
theorem Sound.afterChange (sound : repository.Sound) {made : Except Failure Workspace}
    (grows : ∀ workspace, made = .ok workspace → repository.checkedOut.Grows workspace) :
    (repository.afterChange made).Sound := by
  cases made with
  | ok workspace => exact sound.evolved (grows workspace rfl).evolves
  | error failure => exact sound

/-- No event makes a repository unsound. A step that fails in the middle leaves a sound one, too:
that is why the laws of steps tell how they fail. -/
theorem Sound.undergo (sound : repository.Sound) (event : Event) :
    (repository.undergo event).Sound := by
  cases event with
  | load id =>
    exact afterStep_of_ends ((load_ends sound id).mono (fun _ _ done => done.1.sound sound)
      fun _ _ failed => failed.1 ▸ sound)
  | commit branch =>
    exact afterStep_of_ends ((commit_ends sound branch).mono (fun _ _ done => done.2.2.sound sound)
      fun _ _ failed => failed.1 ▸ sound)
  | checkout => exact sound.checkout
  | failLoads fails => exact ⟨sound.1, sound.2, sound.3, sound.4, sound.5⟩
  | failCommits fails => exact ⟨sound.1, sound.2, sound.3, sound.4, sound.5⟩
  | run kind settings =>
    exact afterStep_of_ends ((run_ends sound kind settings).mono (fun _ _ done => done.sound)
      fun _ _ failed => failed.sound)
  | createFolder parent name =>
    refine sound.afterChange fun workspace same => ?_
    obtain ⟨⟨id, _⟩, made, rfl⟩ := map_eq_ok.mp same
    exact .createFolder sound.checkedOut made
  | ensureFolder parent name =>
    refine sound.afterChange fun workspace same => ?_
    obtain ⟨⟨id, created, _⟩, made, rfl⟩ := map_eq_ok.mp same
    exact .ensureFolder sound.checkedOut made
  | createDocument holder body =>
    refine sound.afterChange fun workspace same => ?_
    obtain ⟨⟨id, _⟩, made, rfl⟩ := map_eq_ok.mp same
    exact .createDocument sound.checkedOut made

/-! ## What waits to be published -/

namespace History

/-- The repository is sound, and all is published unless changes wait. -/
structure Tracked (history : History) : Prop where
  sound : history.repository.Sound
  allPublished : history.waiting = false → history.repository.AllPublished

/-- At first all is published and nothing waits. -/
theorem tracked_ofProject (project : Project) : (ofProject project).Tracked :=
  ⟨sound_ofProject project, fun _ => unloadAll_within _⟩

variable {history : History}

/-- One event keeps track of what waits. A run that is done and tells of no change has committed
nothing, so it publishes nothing that was waiting; one that tells of a change publishes all. -/
theorem Tracked.undergo (tracked : history.Tracked) (event : Event) :
    (history.undergo event).Tracked where
  sound := tracked.sound.undergo event
  allPublished := by
    have sound := tracked.sound
    cases event with
    | load id =>
      intro nothingWaits
      have was := tracked.allPublished nothingWaits
      exact afterStep_of_ends ((load_ends sound id).mono (fun _ _ done => done.1.allPublished was)
        fun _ _ failed => failed.1 ▸ was)
    | commit branch =>
      -- The flag and the repository depend on the same run, so one case split decides both.
      rw [History.undergo, Repository.undergo, afterStep, waitsAfter]
      cases ran : (Repository.commit branch).run history.repository with
      | ok revision after => exact fun _ => ((commit_ends sound branch).of_ok ran).2.2.allPublished
      | error failure after =>
        intro nothingWaits
        exact ((commit_ends sound branch).of_error ran).1 ▸ tracked.allPublished nothingWaits
    | checkout => exact fun _ => allPublished_checkout history.repository
    | failLoads fails => exact tracked.allPublished
    | failCommits fails => exact tracked.allPublished
    | run kind settings =>
      rw [History.undergo, Repository.undergo, afterStep, waitsAfter]
      cases ran : (Repository.run kind settings).run history.repository with
      | ok report after =>
        -- Nothing waits because nothing waited before, or because the report tells of a change.
        intro nothingWaits
        refine ((run_ends sound kind settings).of_ok ran).allPublished ?_
        rcases Bool.and_eq_false_iff.mp nothingWaits with kept | told
        · exact Or.inr (tracked.allPublished kept)
        · exact Or.inl (by simpa using told)
      | error failure after =>
        intro nothingWaits
        obtain ⟨kept, harmless⟩ := Bool.or_eq_false_iff.mp nothingWaits
        exact ((run_ends sound kind settings).of_error ran).allPublished harmless
          (tracked.allPublished kept)
    | createFolder parent name =>
      rw [History.undergo, Repository.undergo, waitsAfter]
      cases history.repository.checkedOut.createFolder parent name with
      | ok made => exact nofun
      | error failure => exact tracked.allPublished
    | ensureFolder parent name =>
      rw [History.undergo, Repository.undergo, waitsAfter]
      cases same : history.repository.checkedOut.ensureFolder parent name with
      | ok made =>
        obtain ⟨id, created, workspace⟩ := made
        intro nothingWaits
        obtain ⟨kept, found⟩ := Bool.or_eq_false_iff.mp nothingWaits
        -- A folder that was found changes nothing; one that was created would wait.
        obtain ⟨_, rfl⟩ | ⟨made, _⟩ := ensureFolder_cases same
        · exact tracked.allPublished kept
        · exact nomatch found.symm.trans made
      | error failure => exact tracked.allPublished
    | createDocument holder body =>
      rw [History.undergo, Repository.undergo, waitsAfter]
      cases history.repository.checkedOut.createDocument holder body with
      | ok made => exact nofun
      | error failure => exact tracked.allPublished

/-- Whatever happens, all is published when nothing waits. -/
theorem Tracked.undergoAll (tracked : history.Tracked) (events : List Event) :
    (history.undergoAll events).Tracked := by
  induction events generalizing history with
  | nil => exact tracked
  | cons event events inductionHypothesis => exact inductionHypothesis (tracked.undergo event)

end History

/-- Whatever has happened since a project was checked out, a run that is done leaves everything
published, provided that it has changed something itself or that no changes were waiting. Then
every entity it has selected has a published validation microflow, or every published microflow it
has selected has the right colors. -/
theorem published_when_done (project : Project) (events : List Event) (kind : RunKind)
    (settings : Settings) (report : Report) (after : Repository)
    (done : (run kind settings).run ((History.ofProject project).undergoAll events).repository =
      .ok report after)
    (nothingLeft : report.hasChanges = true ∨
      ((History.ofProject project).undergoAll events).waiting = false) :
    after.AllPublished ∧
      (kind = .validation → after.published.Validated settings.validation) ∧
      (kind = .recolor → after.published.Recolored settings.recolor) := by
  have tracked := (History.tracked_ofProject project).undergoAll events
  have outcome := (run_ends tracked.sound kind settings).of_ok done
  have allPublished := outcome.allPublished (nothingLeft.imp_right tracked.allPublished)
  refine ⟨allPublished, fun isValidation => ?_, fun isRecolor => ?_⟩
  · exact allPublished.validated (outcome.fulfilled.validated isValidation)
  · exact allPublished.recolored outcome.sound (outcome.fulfilled.recolored isRecolor)

/-! ### A rejected commit -/

/-- A microflow whose only activity has not the color of its action. -/
def clean : Microflow :=
  { Microflow.empty "Clean" .void with
    nodes := [
      ⟨0, .origin, ⟨20, 20⟩, .startEvent⟩,
      ⟨1, .origin, ⟨120, 60⟩, .activity (.delete "Old") .default⟩,
      ⟨2, .origin, ⟨20, 20⟩, .endEvent ""⟩]
    flows := [⟨0, 1, .right, .left, none⟩, ⟨1, 2, .right, .left, none⟩] }

/-- One module with an entity without attributes and that microflow. -/
def shop : Project := ⟨[⟨"Shop", ⟨[⟨"Order", []⟩]⟩, [], [.microflow clean]⟩]⟩

/-- Default settings, by which the entities of that module are checked. -/
def shopSettings : Settings :=
  { Settings.standard with
    validation := { ValidationSettings.standard with modules := [⟨"Shop", []⟩] } }

/-- Whether a step is done. -/
def isDone {α : Type} (repository : Repository) (step : Transaction α) : Bool :=
  match step.run repository with
  | .ok _ _ => true
  | .error _ _ => false

/-- A step that is done has an answer. -/
theorem exists_of_isDone {α : Type} {step : Transaction α} (done : repository.isDone step = true) :
    ∃ value, step.run repository = .ok value (repository.afterStep step) := by
  rw [isDone] at done
  rw [afterStep]
  cases ran : step.run repository with
  | ok value after => exact ⟨value, rfl⟩
  | error failure after => exact nomatch ran ▸ done

/-- A recoloring run is rejected, and a validation run publishes what it has left behind. -/
def caughtUp : History :=
  (History.ofProject shop).undergoAll
    [.failCommits true, .run .recolor shopSettings, .failCommits false,
      .run .validation shopSettings]

/-- After a rejected recoloring a validation run has published all. Then another recoloring changes
nothing and leaves all published. -/
theorem published_when_done_shop :
    caughtUp.waiting = false ∧
      ∃ report after, (run .recolor shopSettings).run caughtUp.repository = .ok report after ∧
        after.AllPublished ∧ after.published.Recolored shopSettings.recolor := by
  have nothingWaits : caughtUp.waiting = false := by cbv
  have isDone : caughtUp.repository.isDone (run .recolor shopSettings) = true := by cbv
  obtain ⟨report, done⟩ := exists_of_isDone isDone
  obtain ⟨allPublished, _, recolored⟩ :=
    published_when_done shop _ .recolor shopSettings report _ done (Or.inr nothingWaits)
  exact ⟨nothingWaits, report, _, done, allPublished, recolored rfl⟩

/-- The repository after a run whose commit was rejected, with commits as usual again. -/
def shelved (kind : RunKind) : Repository :=
  ((History.ofProject shop).undergoAll
    [.failCommits true, .run kind shopSettings, .failCommits false]).repository

/-- The order of the shop has no validation microflow at first. -/
theorem not_validated_shop :
    ¬ (Workspace.ofProject shop).Validated shopSettings.validation := by
  rintro ⟨targets, selected, present⟩
  have only : (Workspace.ofProject shop).validationTargets shopSettings.validation =
      .ok [⟨0, "Shop", ⟨"Order", []⟩⟩] := by cbv
  obtain rfl := Except.ok.inj (only.symm.trans selected)
  obtain ⟨id, found, stored, _, named, _⟩ :=
    (present _ List.mem_cons_self).2 (by decide)
  have absent : ∀ document ∈ (Workspace.ofProject shop).documents, document.name ≠ "VAL_Order" := by
    decide
  exact absent found (List.mem_of_getElem? stored) (named.trans (by decide))

/-- The microflow of the shop has a wrong color at first. -/
theorem not_recolored_shop : ¬ (Workspace.ofProject shop).Recolored shopSettings.recolor := by
  rintro ⟨ids, selected, right⟩
  have only :
      (Workspace.ofProject shop).selectedMicroflows shopSettings.recolor.modules = .ok [1] := by
    cbv
  obtain rfl := Except.ok.inj (only.symm.trans selected)
  obtain ⟨content, read, isRight⟩ := right 1 List.mem_cons_self
  obtain rfl := Except.ok.inj read
  exact absurd isRight (by decide)

/-- A run that is done has the outcome that runs have. -/
theorem exists_outcome (sound : repository.Sound) {kind : RunKind} {settings : Settings}
    (done : repository.isDone (run kind settings) = true) :
    ∃ report, (run kind settings).run repository =
        .ok report (repository.afterStep (run kind settings)) ∧
      repository.Done (Fulfilled kind settings) report
        (repository.afterStep (run kind settings)) := by
  obtain ⟨report, ran⟩ := exists_of_isDone done
  exact ⟨report, ran, (run_ends sound kind settings).of_ok ran⟩

/-- When the commit of a run has been rejected, the same run is done the next time without
publishing what it had changed, because it finds nothing to change any more. -/
theorem rejected_changes_wait :
    (∃ report after, (run .validation shopSettings).run (shelved .validation) = .ok report after ∧
      ¬ after.AllPublished ∧ ¬ after.published.Validated shopSettings.validation) ∧
    ∃ report after, (run .recolor shopSettings).run (shelved .recolor) = .ok report after ∧
      ¬ after.AllPublished ∧ ¬ after.published.Recolored shopSettings.recolor := by
  have sound : ∀ kind, (shelved kind).Sound := fun kind =>
    ((History.tracked_ofProject shop).undergoAll _).sound
  constructor
  · obtain ⟨report, done, outcome⟩ := exists_outcome (sound .validation)
      (show isDone (shelved .validation) (run .validation shopSettings) = true by cbv)
    have published : ((shelved .validation).afterStep (run .validation shopSettings)).published =
      Workspace.ofProject shop := by cbv
    have unpublished := published ▸ not_validated_shop
    exact ⟨report, _, done, fun allPublished =>
      unpublished (allPublished.validated (outcome.fulfilled.validated rfl)), unpublished⟩
  · obtain ⟨report, done, outcome⟩ := exists_outcome (sound .recolor)
      (show isDone (shelved .recolor) (run .recolor shopSettings) = true by cbv)
    have published : ((shelved .recolor).afterStep (run .recolor shopSettings)).published =
      Workspace.ofProject shop := by cbv
    have unpublished := published ▸ not_recolored_shop
    exact ⟨report, _, done, fun allPublished => unpublished
      (allPublished.recolored outcome.sound (outcome.fulfilled.recolored rfl)), unpublished⟩

end Repository

end FlowModel
