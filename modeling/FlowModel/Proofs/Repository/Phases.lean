import FlowModel.Proofs.Generation.Outcomes
import FlowModel.Proofs.Repository.Loading
import FlowModel.Repository.Run

/-!
# The phases of a run

A run of any kind loads what its generator reads, lets the generator work on the checked-out
workspace and commits if the report tells of a change (`run_eq`). In a sound repository the load
phase is enough, a load or a commit fails only when it is made to, and a failure in any phase ends
the run there. So a run is done in one of two ways and breaks off in one of three
(`run_phases`). Its generator does the same on the workspace in which no published body is missing
(`Passes.on_completed`).
-/

namespace FlowModel

namespace Repository

open Workspace Generation

variable {repository before middle after : Repository}

/-! ## Commits -/

/-- What is checked out is published, with the published bodies where its own are missing. -/
structure Committed (before : Repository) (revision : Revision) (after : Repository) : Prop where
  frame : after = { before with
    published := after.published
    revision := revision.number
    commits := before.commits ++ [revision] }
  fills : before.published.Fills before.checkedOut after.published
  allLoaded : after.published.AllLoaded

namespace Committed

variable {revision : Revision}

/-- A commit leaves the checked-out workspace as it is. -/
theorem checkedOut (committed : before.Committed revision after) :
    after.checkedOut = before.checkedOut := by
  rw [committed.frame]

/-- What has been committed is sound: the merge has all bodies. -/
theorem sound (committed : before.Committed revision after) (sound : before.Sound) :
    after.Sound where
  published := committed.fills.wellFormed sound.checkedOut sound.published sound.keeps
  allLoaded := committed.allLoaded
  checkedOut := committed.checkedOut.symm ▸ sound.checkedOut
  keeps := committed.checkedOut.symm ▸ committed.fills.keepsBack
  missing := by
    intro id found stored _
    rw [committed.checkedOut] at stored
    exact committed.fills.length_eq.symm ▸ lt_of_getElem?_eq_some stored

end Committed

/-- The failure of a commit when commits are made to fail. -/
def commitRejected : Failure := .repository "commit rejected"

/-- A commit publishes all, unless commits are made to fail. -/
theorem commit_ends (sound : repository.Sound) (branch : Option String) :
    Ends (commit branch) repository
      (fun revision after => revision = ⟨repository.revision + 1, branch⟩ ∧
        repository.failCommits = false ∧ repository.Committed revision after)
      (fun failure after => after = repository ∧ repository.failCommits = true ∧
        failure = commitRejected) := by
  apply Ends.lookThen
  by_cases fails : repository.failCommits = true
  · rw [if_pos fails]
    exact Ends.fail ⟨rfl, fails, rfl⟩
  rw [if_neg fails]
  obtain ⟨merged, succeeds, fills, allLoaded⟩ := sound.exists_merged
  simp only [succeeds]
  exact Ends.setThen (Ends.value ⟨rfl, Bool.eq_false_iff.mpr fails, rfl, fills, allLoaded⟩)

/-! ## Generators -/

/-- A generator works on the checked-out workspace only. -/
theorem generate_ends {kind : RunKind} {generation : Generation Unit} {done : Work → Prop}
    {failed : Failure → Work → Prop}
    (ends : Ends generation ⟨repository.checkedOut, .empty kind⟩ (fun _ work => done work) failed) :
    Ends (generate kind generation) repository
      (fun report after => ∃ work, done work ∧ report = work.report ∧
        after = { repository with checkedOut := work.workspace })
      (fun failure after => ∃ work, failed failure work ∧
        after = { repository with checkedOut := work.workspace }) := by
  apply Ends.lookThen
  cases ran : generation.run ⟨repository.checkedOut, .empty kind⟩ with
  | ok value work => exact Ends.setThen (Ends.value ⟨work, ends.of_ok ran, rfl, rfl⟩)
  | error failure work => exact Ends.setThen (Ends.fail ⟨work, ends.of_error ran, rfl⟩)

/-- The repository stays sound when the checked-out workspace evolves. -/
theorem Sound.evolved (sound : repository.Sound) {workspace : Workspace}
    (evolves : repository.checkedOut.Evolves workspace) :
    { repository with checkedOut := workspace }.Sound where
  published := sound.published
  allLoaded := sound.allLoaded
  checkedOut := evolves.wellFormed
  keeps := sound.keeps.trans evolves.keeps
  missing := by
    intro id found stored unloaded
    obtain ⟨earlier, storedEarlier, missing⟩ := evolves.missing id found stored unloaded
    exact sound.missing id earlier storedEarlier missing

/-! ## Loading -/

/-- The load phase of a run. -/
def loading (settings : Settings) : RunKind → Transaction Unit
  | .validation => do
    let modules := settings.validation.modules.map (·.name)
    unless modules.isEmpty do
      let _ ← loadAll .domainModel modules
  | .pageLogging => do
    let _ ← loadAll .page []
    let _ ← loadAll .domainModel []
  | .recolor => do
    let _ ← loadAll .microflow settings.recolor.modules
  | .namingAudit => pure ()

/-- Afterwards the bodies that the generator reads are there. -/
theorem loading_ends (sound : repository.Sound) (settings : Settings) (kind : RunKind) :
    Ends (loading settings kind) repository
      (fun _ after => repository.Loaded after ∧ after.checkedOut.Readable settings kind)
      (fun failure after => repository.Loaded after ∧ repository.failLoads = true ∧
        ∃ id, failure = loadRejected id) := by
  cases kind with
  | validation =>
    rw [loading]
    by_cases none : (settings.validation.modules.map (·.name)).isEmpty = true
    · rw [if_pos none]
      have empty : settings.validation.modules = [] := by simpa using none
      exact Ends.value ⟨.refl repository, fun told => absurd empty told⟩
    · rw [if_neg none]
      refine Ends.andThen (loadAll_ends sound .domainModel _) ?_
      rintro _ after ⟨loaded, there⟩
      exact Ends.value ⟨loaded, fun _ => there⟩
  | pageLogging =>
    refine Ends.andThen (loadAll_ends sound .page []) ?_
    rintro _ pages ⟨pagesLoaded, pagesThere⟩
    refine Ends.andThen ((loadAll_ends (pagesLoaded.sound sound) .domainModel []).onFailed ?_) ?_
    · rintro failure after ⟨loaded, fails, rejected⟩
      rw [pagesLoaded.frame] at fails
      exact ⟨pagesLoaded.trans loaded, fails, rejected⟩
    · rintro _ after ⟨loaded, modelsThere⟩
      exact Ends.value ⟨pagesLoaded.trans loaded, loaded.fills.hasBodies pagesThere, modelsThere⟩
  | recolor =>
    refine Ends.andThen (loadAll_ends sound .microflow _) ?_
    rintro _ after loaded
    exact Ends.value loaded
  | namingAudit => exact Ends.value ⟨.refl repository, trivial⟩

/-! ## Runs -/

/-- Every run loads, generates and finishes. The report of an audit tells of no change, so there is
nothing to commit after it. -/
theorem run_eq (kind : RunKind) (settings : Settings) :
    run kind settings = (do
      loading settings kind
      let report ← generate kind (Service.generator settings kind)
      finish settings report) := by
  cases kind with
  | validation =>
    simp only [run, runValidation, loading]
    cases (settings.validation.modules.map (·.name)).isEmpty with
    | true => rfl
    | false =>
      simp only [Bool.false_eq_true, if_false, bind_assoc, pure_bind]
      rfl
  | pageLogging =>
    simp only [run, runPageLogging, loading, bind_assoc, pure_bind]
    rfl
  | recolor =>
    simp only [run, runRecolor, loading, bind_assoc, pure_bind]
    rfl
  | namingAudit =>
    apply EStateM.ext
    intro repository
    have auditing : Ends (runNamingAudit settings) repository
        (fun report _ => report.hasChanges = false) fun _ _ => True := by
      refine (generate_ends (auditNaming_ends settings.naming)).mono ?_ fun _ _ _ => trivial
      rintro report after ⟨work, ⟨_, untold⟩, rfl, _⟩
      exact untold
    show (runNamingAudit settings).run repository =
      (runNamingAudit settings >>= finish settings).run repository
    rw [EStateM.run_bind]
    cases ran : (runNamingAudit settings).run repository with
    | ok report after =>
      have untold : report.hasChanges = false := auditing.of_ok ran
      simp only [finish, untold]
      rfl
    | error failure after => rfl

/-- The first two phases of a run are done, the first of which has led to a repository. -/
structure Generated (before middle : Repository) (settings : Settings) (kind : RunKind)
    (work : Work) : Prop where
  loaded : before.Loaded middle
  readable : middle.checkedOut.Readable settings kind
  ran : (Service.generator settings kind).run ⟨middle.checkedOut, .empty kind⟩ = .ok () work

/-- How a run is done: there is nothing to commit, or one commit publishes what is checked out. -/
inductive Passes (before : Repository) (settings : Settings) (kind : RunKind) :
    Report → Repository → Prop where
  | idle {middle : Repository} {work : Work}
    (generated : before.Generated middle settings kind work)
    (untold : work.report.hasChanges = false) :
    before.Passes settings kind work.report { middle with checkedOut := work.workspace }
  | published {middle after : Repository} {work : Work} {revision : Revision}
    (generated : before.Generated middle settings kind work) (told : work.report.hasChanges = true)
    (numbered : revision = ⟨before.revision + 1, settings.commitBranch?⟩)
    (committed : { middle with checkedOut := work.workspace }.Committed revision after) :
    before.Passes settings kind { work.report with revision := some revision } after

/-- How a run breaks off: a load is rejected, the generator stops, or the commit is rejected. -/
inductive Breaks (before : Repository) (settings : Settings) (kind : RunKind) :
    Failure → Repository → Prop where
  | loading {after : Repository} {id : DocumentId} (loaded : before.Loaded after)
    (fails : before.failLoads = true) : before.Breaks settings kind (loadRejected id) after
  | generating {middle : Repository} {work : Work} {failure : Failure}
    (loaded : before.Loaded middle) (readable : middle.checkedOut.Readable settings kind)
    (ran : (Service.generator settings kind).run ⟨middle.checkedOut, .empty kind⟩ =
      .error failure work)
    (stops : Stops settings ⟨middle.checkedOut, .empty kind⟩ kind failure work) :
    before.Breaks settings kind failure { middle with checkedOut := work.workspace }
  | committing {middle : Repository} {work : Work}
    (generated : before.Generated middle settings kind work) (told : work.report.hasChanges = true)
    (fails : before.failCommits = true) :
    before.Breaks settings kind commitRejected { middle with checkedOut := work.workspace }

/-- Behind the loads of a run the generator is done as generators are. -/
theorem Generated.finishes {settings : Settings} {kind : RunKind} {work : Work}
    (generated : before.Generated middle settings kind work) (sound : before.Sound) :
    Finishes settings kind ⟨middle.checkedOut, .empty kind⟩ work :=
  (generator_ends (generated.loaded.sound sound).checkedOut generated.readable).of_ok generated.ran

/-- The repository is sound before the commit of a run. -/
theorem Generated.sound {settings : Settings} {kind : RunKind} {work : Work}
    (generated : before.Generated middle settings kind work) (sound : before.Sound) :
    { middle with checkedOut := work.workspace }.Sound :=
  (generated.loaded.sound sound).evolved (generated.finishes sound).evolves

/-- A run loads, generates and, if the report tells of a change, commits. The loads make the bodies
readable, so the law of generators applies to what is checked out then. The phases may break off one
by one; what the earlier ones have done stays. -/
theorem run_phases (sound : before.Sound) (kind : RunKind) (settings : Settings) :
    Ends (run kind settings) before (before.Passes settings kind)
      (before.Breaks settings kind) := by
  rw [run_eq]
  refine Ends.andThen ((loading_ends sound settings kind).onFailed ?_) ?_
  · rintro failure after ⟨loaded, fails, id, rfl⟩
    exact .loading loaded fails
  rintro _ middle ⟨loaded, readable⟩
  -- Besides how the generator ends, that it has run is kept: the reports of phases refer to it.
  have ending : Ends _ (Work.mk middle.checkedOut (.empty kind)) _ _ :=
    generator_ends (loaded.sound sound).checkedOut readable
  have generating : Ends (Service.generator settings kind) ⟨middle.checkedOut, .empty kind⟩
      (fun _ work => before.Generated middle settings kind work) _ :=
    ((Ends.ran _ _).and ending).onDone fun _ work known => ⟨loaded, readable, known.1⟩
  refine Ends.andThen ((generate_ends generating).onFailed ?_) ?_
  · rintro failure after ⟨work, ⟨ran, stops⟩, rfl⟩
    exact .generating loaded readable ran stops
  rintro _ _ ⟨work, generated, rfl, rfl⟩
  rw [finish]
  by_cases told : work.report.hasChanges = true
  · rw [if_pos told]
    have committing := commit_ends (generated.sound sound) settings.commitBranch?
    refine Ends.andThen (committing.onFailed ?_) ?_
    · rintro failure after ⟨rfl, fails, rfl⟩
      -- Loading has left the switches for failures and the number of the revision as they were.
      rw [loaded.frame] at fails
      exact .committing generated told fails
    · rintro revision after ⟨numbered, _, committed⟩
      rw [loaded.frame] at numbered
      exact Ends.value (.published generated told numbered committed)
  · rw [if_neg told]
    exact Ends.value (.idle generated (Bool.eq_false_iff.mpr told))

/-- A run that is done leaves a sound repository, with or without a commit. -/
theorem Passes.sound {settings : Settings} {kind : RunKind} {report : Report}
    (passes : before.Passes settings kind report after) (sound : before.Sound) : after.Sound := by
  cases passes with
  | idle generated => exact generated.sound sound
  | published generated _ _ committed => exact committed.sound (generated.sound sound)

/-! ## On the workspace with all bodies -/

section

variable {settings : Settings} {kind : RunKind}

/-- After any loading a completion of what is checked out gives the same workspace. -/
theorem Loaded.completedFrom_eq (loaded : before.Loaded middle) :
    middle.checkedOut.completedFrom before.published =
      before.checkedOut.completedFrom before.published :=
  loaded.fills.completedFrom_eq

/-- On the completed workspace a generator does what it does after loading, with the bodies that
were not loaded. -/
theorem Loaded.generator_run (loaded : before.Loaded middle) (sound : before.Sound)
    (readable : middle.checkedOut.Readable settings kind) :
    (Service.generator settings kind).run
        ⟨before.checkedOut.completedFrom before.published, .empty kind⟩ =
      (Disguise.completion before.published).outcome
        ((Service.generator settings kind).run ⟨middle.checkedOut, .empty kind⟩) := by
  have unnoticed : Indifferent (.completion before.published) (Service.generator settings kind)
      ⟨middle.checkedOut, .empty kind⟩ :=
    indifferent_generator (loaded.sound sound).checkedOut readable
  rw [Indifferent, Disguise.apply] at unnoticed
  rw [← unnoticed]
  simp only [Disguise.completion, loaded.completedFrom_eq]

/-- A generator that is done after loading is done on the completed workspace, with the bodies that
were not loaded and without a revision. -/
theorem Generated.on_completed {work : Work}
    (generated : before.Generated middle settings kind work) (sound : before.Sound) :
    (Service.generator settings kind).run
        ⟨before.checkedOut.completedFrom before.published, .empty kind⟩ =
      .ok () ⟨work.workspace.completedFrom before.published,
        { work.report with revision := none }⟩ := by
  have wellFormed := (generated.loaded.sound sound).checkedOut
  have unnumbered := generator_revision wellFormed generated.readable rfl generated.ran
  rw [generated.loaded.generator_run sound generated.readable, generated.ran, ← unnumbered]
  rfl

/-- When a run is done, its generator has done the same on the completed workspace. -/
theorem Passes.on_completed {report : Report} (passes : before.Passes settings kind report after)
    (sound : before.Sound) :
    (Service.generator settings kind).run
        ⟨before.checkedOut.completedFrom before.published, .empty kind⟩ =
      .ok () ⟨after.checkedOut.completedFrom after.published,
        { report with revision := none }⟩ := by
  cases passes with
  | @idle middle work generated untold =>
    have published : middle.published = before.published := generated.loaded.published
    rw [generated.on_completed sound, published]
  | @published middle after work revision generated told numbered committed =>
    have published : middle.published = before.published := generated.loaded.published
    have fills := committed.fills.eq_completedFrom committed.allLoaded
    have completes := (completedFrom_fills work.workspace before.published).completes
    rw [generated.on_completed sound, committed.checkedOut, fills, published,
      completes.completedFrom_eq]

/-- When the generator of a run stops, it stops with the same failure on the completed
workspace. -/
theorem Breaks.on_completed {failure : Failure} (breaks : before.Breaks settings kind failure after)
    (sound : before.Sound) (loads : before.failLoads = false) (commits : before.failCommits = false) :
    ∃ work, (Service.generator settings kind).run
      ⟨before.checkedOut.completedFrom before.published, .empty kind⟩ = .error failure work := by
  cases breaks with
  | loading _ fails => exact nomatch loads.symm.trans fails
  | generating loaded readable ran =>
    rw [loaded.generator_run sound readable, ran]
    exact ⟨_, rfl⟩
  | committing _ _ fails => exact nomatch commits.symm.trans fails

end

/-- A run that breaks off leaves a sound repository, in whatever phase. -/
theorem Breaks.sound {settings : Settings} {kind : RunKind} {failure : Failure}
    (breaks : before.Breaks settings kind failure after) (sound : before.Sound) : after.Sound := by
  cases breaks with
  | loading loaded => exact loaded.sound sound
  | generating loaded _ _ stops =>
    have soundThen := loaded.sound sound
    exact soundThen.evolved (stops.evolves soundThen.checkedOut)
  | committing generated => exact generated.sound sound

end Repository

end FlowModel
