import FlowModel.Proofs.Repository.History

/-!
# What commits change

What is published changes in commits only, and a commit is all or nothing. Published documents keep
their ids, names, kinds and places in the checked-out workspace, where documents are only added
(`Aligned`). So a commit puts every body that has been loaded or changed over the published one,
keeps the published one otherwise, and adds what is new (`aligned_and_commits_keep`). A run commits
once when its report tells of a change, and a run that breaks off leaves all that is published as
it was (`run_commits_once`).
-/

namespace FlowModel.Repository

open Workspace Generation

variable {repository before middle after : Repository}

/-- The repository after further events. -/
def undergoAll (repository : Repository) (events : List Event) : Repository :=
  events.foldl undergo repository

/-- A repository is sound after all events. -/
theorem Sound.undergoAll (sound : repository.Sound) (events : List Event) :
    (repository.undergoAll events).Sound := by
  induction events generalizing repository with
  | nil => exact sound
  | cons event events inductionHypothesis => exact inductionHypothesis (sound.undergo event)

/-! ## Runs and commits -/

/-- What is published, the commits and the revision have stayed. -/
structure SamePublished (before after : Repository) : Prop where
  published : after.published = before.published
  commits : after.commits = before.commits
  revision : after.revision = before.revision

/-- A commit on a branch has been appended, and the revision is its number. -/
structure Appended (branch : Option String) (before : Repository) (revision : Revision)
    (after : Repository) : Prop where
  revision_eq : revision = ⟨before.revision + 1, branch⟩
  commits : after.commits = before.commits ++ [revision]
  current : after.revision = revision.number

/-- A run that is done has appended the commit in its report if the report tells of a change, and
has committed nothing otherwise. -/
def CommitsOnce (settings : Settings) (before : Repository) (report : Report)
    (after : Repository) : Prop :=
  if report.hasChanges then
    ∃ revision, report.revision = some revision ∧
      before.Appended settings.commitBranch? revision after
  else report.revision = none ∧ before.SamePublished after

/-- What is checked out does not concern what is published. -/
theorem SamePublished.checkedOut (same : before.SamePublished after) (workspace : Workspace) :
    before.SamePublished { after with checkedOut := workspace } :=
  ⟨same.published, same.commits, same.revision⟩

/-- Loading publishes nothing. -/
theorem Loaded.samePublished (loaded : before.Loaded after) : before.SamePublished after := by
  rw [loaded.frame]
  exact ⟨rfl, rfl, rfl⟩

/-- A commit after loading appends one entry to the log, with the next number. -/
theorem Committed.appended {branch : Option String} {revision : Revision}
    (committed : middle.Committed revision after) (same : before.SamePublished middle)
    (numbered : revision = ⟨before.revision + 1, branch⟩) :
    before.Appended branch revision after where
  revision_eq := numbered
  commits := by rw [committed.frame, same.commits]
  current := by rw [committed.frame]

/-- A run that is done has committed once if its report tells of changes, and not at all otherwise.
-/
theorem Passes.commitsOnce {settings : Settings} {kind : RunKind} {report : Report}
    (passes : before.Passes settings kind report after) (sound : before.Sound) :
    CommitsOnce settings before report after := by
  cases passes with
  | idle generated untold =>
    rw [CommitsOnce, untold, if_neg Bool.false_ne_true]
    have soundThen := generated.loaded.sound sound
    exact ⟨generator_revision soundThen.checkedOut generated.readable rfl generated.ran,
      generated.loaded.samePublished.checkedOut _⟩
  | published generated told numbered committed =>
    have same := generated.loaded.samePublished.checkedOut
    rw [CommitsOnce, if_pos (by exact told)]
    exact ⟨_, rfl, committed.appended (same _) numbered⟩

/-- A run that breaks off has published nothing. The generator may have changed the checked-out
workspace by then, and it stays changed. -/
theorem Breaks.samePublished {settings : Settings} {kind : RunKind} {failure : Failure}
    (breaks : before.Breaks settings kind failure after) : before.SamePublished after := by
  cases breaks with
  | loading loaded => exact loaded.samePublished
  | generating loaded => exact loaded.samePublished.checkedOut _
  | committing generated => exact generated.loaded.samePublished.checkedOut _

/-- An audit leaves the whole repository as it is. -/
theorem afterStep_run_namingAudit (repository : Repository) (settings : Settings) :
    repository.afterStep (run .namingAudit settings) = repository := by
  have auditing : Ends (run .namingAudit settings) repository
      (fun _ after => after = repository) fun _ after => after = repository := by
    refine (generate_ends (auditNaming_ends settings.naming)).mono ?_ ?_
    · rintro report after ⟨work, ⟨unchanged, _⟩, rfl, rfl⟩
      rw [unchanged]
    · rintro failure after ⟨work, ⟨unchanged, _⟩, rfl⟩
      rw [unchanged]
  exact afterStep_of_ends auditing

/-- Whatever has happened since a project was checked out, a run that breaks off leaves what is
published, the commits and the revision as they were, and a run that is done commits exactly once
if its report tells of a change and not at all otherwise. An audit changes nothing in the whole
repository. -/
theorem run_commits_once (project : Project) (events : List Event) (kind : RunKind)
    (settings : Settings) :
    Ends (run kind settings) ((ofProject project).undergoAll events)
        (CommitsOnce settings ((ofProject project).undergoAll events))
        (fun _ after => ((ofProject project).undergoAll events).SamePublished after) ∧
      ((ofProject project).undergoAll events).afterStep (run .namingAudit settings) =
        (ofProject project).undergoAll events := by
  have sound := (sound_ofProject project).undergoAll events
  refine ⟨?_, afterStep_run_namingAudit _ settings⟩
  exact (run_phases sound kind settings).mono (fun _ _ passes => passes.commitsOnce sound)
    fun _ _ breaks => breaks.samePublished

/-! ## Numbers of commits -/

/-- The commits are numbered from one to the revision. -/
def Numbered (repository : Repository) : Prop :=
  repository.commits.map Revision.number = List.range' 1 repository.revision

/-- A repository starts with an empty log and without revisions. -/
theorem numbered_ofProject (project : Project) : (ofProject project).Numbered := rfl

/-- Where nothing is published the log stays numbered. -/
theorem Numbered.samePublished (numbered : before.Numbered) (same : before.SamePublished after) :
    after.Numbered := by
  rw [Numbered, same.commits, same.revision]
  exact numbered

/-- One more entry with the next number keeps the log numbered. -/
theorem Numbered.appended {branch : Option String} {revision : Revision}
    (numbered : before.Numbered) (appended : before.Appended branch revision after) :
    after.Numbered := by
  have next : revision.number = before.revision + 1 := by rw [appended.revision_eq]
  rw [Numbered, appended.commits, appended.current, List.map_append, numbered, next,
    List.range'_1_concat]
  simp [next, Nat.add_comm]

/-- Changes of the checked-out workspace do not appear in the log. -/
theorem Numbered.afterChange (numbered : repository.Numbered) (made : Except Failure Workspace) :
    (repository.afterChange made).Numbered := by
  cases made with
  | ok workspace => exact numbered
  | error failure => exact numbered

/-- After any event the log is numbered. Only commits and runs that are done have added to it. -/
theorem Numbered.undergo (numbered : repository.Numbered) (sound : repository.Sound)
    (event : Event) : (repository.undergo event).Numbered := by
  cases event with
  | load id =>
    exact afterStep_of_ends ((load_ends sound id).mono
      (fun _ _ done => numbered.samePublished done.1.samePublished)
      fun _ _ failed => failed.1 ▸ numbered)
  | commit branch =>
    exact afterStep_of_ends ((commit_ends sound branch).mono
      (fun _ _ done => numbered.appended (done.2.2.appended ⟨rfl, rfl, rfl⟩ done.1))
      fun _ _ failed => failed.1 ▸ numbered)
  | checkout | failLoads fails | failCommits fails => exact numbered
  | run kind settings =>
    refine afterStep_of_ends ((run_phases sound kind settings).mono ?_
      fun _ _ breaks => numbered.samePublished breaks.samePublished)
    intro report after passes
    have commits := passes.commitsOnce sound
    rw [CommitsOnce] at commits
    split at commits
    · obtain ⟨revision, _, appended⟩ := commits
      exact numbered.appended appended
    · exact numbered.samePublished commits.2
  | createFolder parent name | ensureFolder parent name | createDocument holder body =>
    exact numbered.afterChange _

/-- After any events the log is numbered. -/
theorem Numbered.undergoAll (numbered : repository.Numbered) (sound : repository.Sound)
    (events : List Event) : (repository.undergoAll events).Numbered := by
  induction events generalizing repository with
  | nil => exact numbered
  | cons event events inductionHypothesis =>
    exact inductionHypothesis (numbered.undergo sound event) (sound.undergo event)

/-! ## What is published and what is checked out -/

/-- Documents and containers are published and checked out under the same ids, and what is
missing in one place is in the other. -/
structure Aligned (repository : Repository) : Prop where
  loaded : ∀ (id : DocumentId) (found : Document),
    repository.published.documents[id]? = some found →
      ∃ body, found.body = some body ∧ body.name = found.name ∧ body.kind = found.kind
  containers : repository.published.containers <+: repository.checkedOut.containers
  documents : ∀ (id : DocumentId) (found : Document),
    repository.published.documents[id]? = some found →
      ∃ working, repository.checkedOut.documents[id]? = some working ∧
        working.name = found.name ∧ working.kind = found.kind ∧
          working.container = found.container
  added : ∀ (id : DocumentId) (working : Document),
    repository.checkedOut.documents[id]? = some working →
      repository.published.documents.length ≤ id → working.body.isSome = true
  numbered : repository.Numbered

/-- In a sound repository whose log is numbered, published and checked-out workspace are aligned. -/
theorem Sound.aligned (sound : repository.Sound) (numbered : repository.Numbered) :
    repository.Aligned where
  loaded := by
    intro id found stored
    obtain ⟨body, bodyOf⟩ := Option.isSome_iff_exists.mp (sound.allLoaded id found stored)
    exact ⟨body, bodyOf, sound.published.coherent stored body bodyOf⟩
  containers := sound.keeps.containers
  documents := by
    intro id found stored
    obtain ⟨working, checkedOut, label_eq⟩ := sound.keeps.documents id found stored
    exact ⟨working, checkedOut, Document.label_eq_iff.mp label_eq⟩
  added := by
    intro id working stored outside
    cases bodyOf : working.body with
    | some body => rfl
    | none => exact absurd (sound.missing id working stored bodyOf) (Nat.not_lt.mpr outside)
  numbered := numbered

/-- A commit has published what is checked out: under the id of each published document the body
that is checked out if there is one, and the published one otherwise, and all that is new. -/
structure PublishesAll (branch : Option String) (before : Repository) (revision : Revision)
    (after : Repository) : Prop where
  revision_eq : revision = ⟨before.revision + 1, branch⟩
  frame : after = { before with
    published := after.published
    revision := before.revision + 1
    commits := before.commits ++ [revision] }
  containers : after.published.containers = before.checkedOut.containers
  length_eq : after.published.documents.length = before.checkedOut.documents.length
  kept : ∀ (id : DocumentId) (found : Document), before.published.documents[id]? = some found →
    ∃ working, before.checkedOut.documents[id]? = some working ∧
      after.published.documents[id]? = some { found with body := working.body.or found.body }
  added : ∀ id : DocumentId, before.published.documents.length ≤ id →
    after.published.documents[id]? = before.checkedOut.documents[id]?

/-- A commit publishes the merge of all that is checked out, with one more entry in the log. Bodies
that were not loaded are those that were published before. -/
theorem Committed.publishesAll {branch : Option String} {revision : Revision}
    (committed : before.Committed revision after) (sound : before.Sound)
    (numbered : revision = ⟨before.revision + 1, branch⟩) :
    PublishesAll branch before revision after where
  revision_eq := numbered
  frame := by
    have frame := committed.frame
    rwa [numbered] at frame ⊢
  containers := committed.fills.containers
  length_eq := committed.fills.length_eq
  kept := by
    intro id found stored
    obtain ⟨working, checkedOut, label_eq⟩ := sound.keeps.documents id found stored
    refine ⟨working, checkedOut, ?_⟩
    rw [committed.fills.eq_completedFrom committed.allLoaded, getElem?_completedFrom, checkedOut,
      stored]
    obtain ⟨name_eq, kind_eq, container_eq⟩ := Document.label_eq_iff.mp label_eq
    simp [Document.completedFrom, name_eq, kind_eq, container_eq]
  added := by
    intro id outside
    rw [committed.fills.eq_completedFrom committed.allLoaded, getElem?_completedFrom,
      List.getElem?_eq_none outside]
    simp [Document.completedFrom]

/-- Whatever has happened since a project was checked out, what is published and what is checked
out are aligned. So a commit fails only when commits are made to fail, and then it changes
nothing; otherwise nothing that was published is dropped or loses its body. -/
theorem aligned_and_commits_keep (project : Project) (events : List Event)
    (branch : Option String) :
    ((ofProject project).undergoAll events).Aligned ∧
      Ends (commit branch) ((ofProject project).undergoAll events)
        (fun revision after => ((ofProject project).undergoAll events).failCommits = false ∧
          PublishesAll branch ((ofProject project).undergoAll events) revision after)
        (fun failure after => ((ofProject project).undergoAll events).failCommits = true ∧
          failure = commitRejected ∧ after = (ofProject project).undergoAll events) := by
  have sound := (sound_ofProject project).undergoAll events
  have numbered := (numbered_ofProject project).undergoAll (sound_ofProject project) events
  refine ⟨sound.aligned numbered, (commit_ends sound branch).mono ?_ ?_⟩
  · rintro revision after ⟨numbered, commits, committed⟩
    exact ⟨commits, committed.publishesAll sound numbered⟩
  · rintro failure after ⟨unchanged, fails, rejected⟩
    exact ⟨fails, rejected, unchanged⟩

end FlowModel.Repository
