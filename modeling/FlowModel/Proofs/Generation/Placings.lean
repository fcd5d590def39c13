import FlowModel.Proofs.Generation.Requests
import FlowModel.Proofs.Workspace.FolderSearch

/-!
# Where logging microflows are put

The folder for the pages of a module is found by name, or it is new and lies in the folder for
logging, which may be new, too (`pageFolder_shelves`). So what a generator of logging microflows
does is known for each page: nothing when the name of its microflow is taken, and else it appends
its microflow to such a folder (`generatePageLogging_logs`). The microflows that were appended belong
to some of the pages, in their order (`exists_placings`).
-/

namespace FlowModel

/-- A page whose logging microflow was created, and the folder to which it was appended. -/
structure Placing where
  target : PageTarget
  folder : ContainerId
deriving DecidableEq, Repr, Inhabited

/-- The document that was created for a page. -/
def Placing.document (settings : PageLoggingSettings) (placing : Placing) : Document :=
  .ofBody placing.folder
    (.microflow (pageLoggingPlan placing.target.page placing.target.parameter settings))

namespace Generation

open Workspace

/-! ## The folder for the pages of a module -/

/-- The folder for the pages of a module, and the workspace when it is there. It is the one that is
found, or it is created in the folder for logging, which is created if there is none. -/
inductive Shelves (logging : ContainerId) (folderName moduleName : String) (before : Workspace) :
    ContainerId → Workspace → Prop where
  | found {folder : ContainerId} (known : before.findFolder? logging moduleName = some folder) :
    Shelves logging folderName moduleName before folder before
  | inBase {base : ContainerId} (absent : before.findFolder? logging moduleName = none)
    (known : before.childFolder? logging folderName = some base) :
    Shelves logging folderName moduleName before before.containers.length
      (before.pushContainer ⟨moduleName, .folder, some base⟩)
  | inNewBase (absent : before.findFolder? logging moduleName = none)
    (without : before.childFolder? logging folderName = none) :
    Shelves logging folderName moduleName before
      (before.pushContainer ⟨folderName, .folder, some logging⟩).containers.length
      ((before.pushContainer ⟨folderName, .folder, some logging⟩).pushContainer
        ⟨moduleName, .folder, some before.containers.length⟩)

namespace Shelves

variable {logging folder : ContainerId} {folderName moduleName : String} {before between : Workspace}

/-- Only folders are created. -/
theorem documents (shelves : Shelves logging folderName moduleName before folder between) :
    between.documents = before.documents := by
  cases shelves <;> rfl

/-- Folders are only appended. -/
theorem containers (shelves : Shelves logging folderName moduleName before folder between) :
    before.containers <+: between.containers := by
  cases shelves with
  | found => exact List.prefix_rfl
  | inBase => exact containers_pushContainer ..
  | inNewBase => exact (containers_pushContainer ..).trans (containers_pushContainer ..)

/-- Choosing a folder adds no documents, and leaves those that were there. -/
theorem isExtension (shelves : Shelves logging folderName moduleName before folder between) :
    before.Extends between :=
  ⟨shelves.containers, [], shelves.documents.trans (List.append_nil _).symm, nofun⟩

/-- The folder has the name of the module. -/
theorem stored (shelves : Shelves logging folderName moduleName before folder between) :
    ∃ found, between.containers[folder]? = some found ∧ found.name = moduleName ∧
      found.isModule = false := by
  cases shelves with
  | found known => exact stored_of_findFolder? known
  | inBase => exact ⟨_, stored_pushContainer .., rfl, rfl⟩
  | inNewBase => exact ⟨_, stored_pushContainer .., rfl, rfl⟩

/-- The folder lies in the logging module. -/
theorem encloses (shelves : Shelves logging folderName moduleName before folder between) :
    between.Encloses logging folder := by
  cases shelves with
  | found known => exact encloses_of_findFolder? known
  | inBase absent known =>
    exact .inside (stored_pushContainer ..) (Container.isFolderIn_parent ..)
      ((encloses_of_childFolder? known).mono (containers_pushContainer ..))
  | inNewBase =>
    have base : (before.pushContainer ⟨folderName, .folder, some logging⟩).Encloses logging
        before.containers.length :=
      .inside (stored_pushContainer ..) (Container.isFolderIn_parent ..) .itself
    exact .inside (stored_pushContainer ..) (Container.isFolderIn_parent ..)
      (base.mono (containers_pushContainer ..))

/-- Folders are created below the logging module, so each has a parent. -/
theorem rooted (shelves : Shelves logging folderName moduleName before folder between)
    (rooted : before.Rooted) (inside : logging < before.containers.length) : between.Rooted := by
  cases shelves with
  | found => exact rooted
  | inBase absent known =>
    have base_lt := lt_of_getElem?_eq_some (stored_of_childFolder? known)
    exact rooted.pushContainer (.folder base_lt)
  | inNewBase =>
    have rootedBase : (before.pushContainer ⟨folderName, .folder, some logging⟩).Rooted :=
      rooted.pushContainer (.folder inside)
    have base_lt := lt_of_getElem?_eq_some
      (stored_pushContainer before ⟨folderName, .folder, some logging⟩)
    exact rootedBase.pushContainer (.folder base_lt)

end Shelves

/-- The folder for the pages of a module is always there in the end. A folder for logging that was
there holds none of that name, because the search would have found it. -/
theorem pageFolder_shelves {work : Work} {logging : ContainerId} (rooted : work.workspace.Rooted)
    (inside : logging < work.workspace.containers.length) (moduleName : String)
    (settings : PageLoggingSettings) :
    Ends (pageFolder logging moduleName settings) work
      (fun folder after =>
        Shelves logging settings.folderName moduleName work.workspace folder after.workspace)
      Never := by
  apply Ends.lookThen
  cases known : work.workspace.findFolder? logging moduleName with
  | some folder => exact Ends.value (.found known)
  | none =>
    refine Ends.andThen (ensureFolder_ends rooted inside settings.folderName) ?_
    rintro base between (found | ⟨without, _⟩)
    · have base_lt := lt_of_getElem?_eq_some (stored_of_childFolder? found)
      refine (ensureFolder_ends rooted base_lt moduleName).onDone ?_
      rintro folder after (present | _)
      · have absent := rooted.childFolder?_eq_none (encloses_of_childFolder? found) known
        exact nomatch absent.symm.trans present
      · exact .inBase known found
    · have rootedBase : (work.workspace.pushContainer
          ⟨settings.folderName, .folder, some logging⟩).Rooted :=
        rooted.pushContainer (.folder inside)
      have base_lt := lt_of_getElem?_eq_some
        (stored_pushContainer work.workspace ⟨settings.folderName, .folder, some logging⟩)
      refine (ensureFolder_ends rootedBase base_lt moduleName).onDone ?_
      rintro folder after (present | _)
      · exact nomatch (rooted.childFolder?_new inside moduleName).symm.trans present
      · exact .inNewBase known without

/-! ## Pages one by one -/

/-- What is done for a page: nothing when the name of its microflow is taken, and else its microflow
is appended to the folder for the pages of its module. -/
inductive Logs (settings : PageLoggingSettings) (logging : ContainerId) (target : PageTarget)
    (before : Work) : Work → Prop where
  | taken {report : Report} : Logs settings logging target before { before with report }
  | placed {folder : ContainerId} {between : Workspace} {report : Report}
    (shelves :
      Shelves logging settings.folderName target.moduleName before.workspace folder between) :
    Logs settings logging target before
      ⟨between.pushDocument folder
        (.microflow (pageLoggingPlan target.page target.parameter settings)), report⟩

namespace Logs

variable {settings : PageLoggingSettings} {logging : ContainerId} {target : PageTarget}
  {before after : Work}

/-- Serving a page appends at most one document. -/
theorem isExtension (logs : Logs settings logging target before after) :
    before.workspace.Extends after.workspace := by
  cases logs with
  | taken => exact .refl _
  | placed shelves => exact shelves.isExtension.trans (.pushDocument ..)

/-- A workspace in which a page has been served is rooted. -/
theorem rooted (logs : Logs settings logging target before after)
    (rooted : before.workspace.Rooted) (inside : logging < before.workspace.containers.length) :
    after.workspace.Rooted := by
  cases logs with
  | taken => exact rooted
  | placed shelves =>
    exact (shelves.rooted rooted inside).pushDocument
      (lt_of_getElem?_eq_some (shelves.stored.choose_spec.1)) _

end Logs

/-- Serving a page never fails. The name may be taken, and then no folder is created either;
otherwise the folder is chosen before the microflow is filed in it. -/
theorem logPage_logs {work : Work} {logging : ContainerId} (rooted : work.workspace.Rooted)
    (settings : PageLoggingSettings) (inside : logging < work.workspace.containers.length)
    (target : PageTarget) :
    Ends (logPage settings logging target) work
      (fun _ after => Logs settings logging target work after) Never := by
  refine Ends.andThen (isAbsent_ends .microflow _) ?_
  intro absent between holds
  cases absent with
  | false =>
    obtain ⟨_, rfl⟩ := holds
    exact Ends.value .taken
  | true =>
    obtain ⟨_, rfl⟩ : _ ∧ between = work := holds
    rw [if_pos rfl]
    refine Ends.andThen (pageFolder_shelves rooted inside target.moduleName settings) ?_
    intro folder opened shelves
    obtain ⟨_, stored, _⟩ := shelves.stored
    have sound := violations_pageLoggingPlan target.page target.parameter settings
    rw [pageLoggingMicroflow?_eq]
    refine Ends.andThen (insertMicroflow_ends (shelves.rooted rooted inside)
      (lt_of_getElem?_eq_some stored) sound) ?_
    rintro _ after ⟨_, _, rfl⟩
    exact Ends.value (.placed shelves)

/-- A generator of logging microflows does something for one page after another, or it is refused by
what it looks up first and changes nothing. -/
theorem generatePageLogging_logs {work : Work} (rooted : work.workspace.Rooted)
    (settings : PageLoggingSettings) :
    Ends (generatePageLogging settings) work
      (fun _ after => ∃ logging targets,
        work.workspace.moduleNamed? settings.loggingModule = some logging ∧
          work.workspace.pageTargets = .ok targets ∧
            Chain (Logs settings logging) targets work after)
      (fun _ after => after = work) := by
  refine asking (fun _ _ => rfl) fun logging found => ?_
  refine asking (fun _ _ => rfl) fun _ _ => ?_
  refine asking (fun _ _ => rfl) fun _ _ => ?_
  refine asking (fun _ _ => rfl) fun targets known => ?_
  have named := loggingModule_eq_ok.mp found
  have steps : ∀ target ∈ targets, ∀ between,
      between.workspace.Rooted ∧ logging < between.workspace.containers.length →
        Ends (logPage settings logging target) between
          (fun _ after => Logs settings logging target between after ∧
            after.workspace.Rooted ∧ logging < after.workspace.containers.length)
          fun _ after => False ∧ after = between := by
    rintro target _ between ⟨rootedThen, inside⟩
    refine (logPage_logs rootedThen settings inside target).weaken.onDone fun _ after logs => ?_
    exact ⟨logs, logs.rooted rootedThen inside,
      Nat.lt_of_lt_of_le inside logs.isExtension.containers.length_le⟩
  refine (Ends.chain steps ⟨rooted, lt_of_moduleOf (moduleOf_of_moduleNamed? named)⟩).mono
    (fun _ after chain => ⟨logging, targets, named, known, chain⟩) ?_
  rintro failure after ⟨impossible, _⟩
  exact impossible.elim

/-- What is created belongs to some of the pages, in their order, and an invariant of the pages that
have got their microflows holds in the end. The invariant has to be kept for one more page only; that
the workspace is rooted and that documents are appended is kept alongside. -/
theorem exists_placings {settings : PageLoggingSettings} {logging : ContainerId}
    {targets : List PageTarget} {start after : Work} (holds : List Placing → Workspace → Prop)
    (chain : Chain (Logs settings logging) targets start after)
    (rooted : start.workspace.Rooted) (inside : logging < start.workspace.containers.length)
    (starts : holds [] start.workspace)
    (steps : ∀ placings target folder earlier between, target ∈ targets → earlier.Rooted →
      logging < earlier.containers.length → holds placings earlier →
      Shelves logging settings.folderName target.moduleName earlier folder between →
      holds (placings ++ [⟨target, folder⟩]) (between.pushDocument folder
        (.microflow (pageLoggingPlan target.page target.parameter settings)))) :
    ∃ placings : List Placing, (placings.map Placing.target).Sublist targets ∧
      after.workspace.documents =
        start.workspace.documents ++ placings.map (Placing.document settings) ∧
      holds placings after.workspace := by
  have each : ∀ target ∈ targets, ∀ placings earlier later,
      Logs settings logging target earlier later →
      (earlier.workspace.Rooted ∧ logging < earlier.workspace.containers.length ∧
        earlier.workspace.documents =
          start.workspace.documents ++ placings.map (Placing.document settings) ∧
        holds placings earlier.workspace) →
      (later.workspace.Rooted ∧ logging < later.workspace.containers.length ∧
        later.workspace.documents =
          start.workspace.documents ++ placings.map (Placing.document settings) ∧
        holds placings later.workspace) ∨
      ∃ placing : Placing, placing.target = target ∧
        later.workspace.Rooted ∧ logging < later.workspace.containers.length ∧
        later.workspace.documents =
          start.workspace.documents ++ (placings ++ [placing]).map (Placing.document settings) ∧
        holds (placings ++ [placing]) later.workspace := by
    rintro target member placings earlier later logs ⟨rootedThen, insideThen, documents, known⟩
    have insideLater := Nat.lt_of_lt_of_le insideThen logs.isExtension.containers.length_le
    have rootedLater := logs.rooted rootedThen insideThen
    cases logs with
    | taken => exact Or.inl ⟨rootedThen, insideThen, documents, known⟩
    | @placed folder between report shelves =>
      refine Or.inr ⟨⟨target, folder⟩, rfl, rootedLater, insideLater, ?_,
        steps placings target folder _ between member rootedThen insideThen known shelves⟩
      rw [pushDocument, shelves.documents, documents, List.append_assoc, List.map_append]
      rfl
  obtain ⟨placings, some?, _, _, documents, known⟩ := chain.recordSome
    Placing.target each ⟨rooted, inside, (List.append_nil _).symm, starts⟩
  exact ⟨placings, some?, documents, known⟩

end Generation

end FlowModel
