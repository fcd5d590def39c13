import FlowModel.Proofs.Generation.Edits
import FlowModel.Proofs.Generation.Placings

/-!
# One folder for the pages of a module

All logging microflows for the pages of modules with one name are put into one folder of that name
in the logging module, which is created only if there is none (`one_folder_per_module`). The
exception is a module with the name of the folder for logging, when that folder is created, too: its
first page goes to a folder in that folder, and later pages go to that folder itself, because the
search finds it first (`pages_apart`).
-/

namespace FlowModel.Generation

open Workspace

/-- What is known of the folders when logging microflows have been created. A folder that was found
at the start is still found. Every microflow lies in a folder of the logging module that has the name
of the page's module. All microflows for modules of one name lie in the folder that is found under
it, unless none was found at the start and it is the name of the folder for logging: then the first
of them may lie in a folder of that name in the folder for logging. A new folder is the one for
logging, or it is named after the module of a page and there was no folder of that name but the one
in which it lies. -/
structure Shelved (settings : PageLoggingSettings) (logging : ContainerId) (start : Workspace)
    (placings : List Placing) (workspace : Workspace) : Prop where
  containers : start.containers <+: workspace.containers
  known : ∀ name folder, start.findFolder? logging name = some folder →
    workspace.findFolder? logging name = some folder
  placed : ∀ placing ∈ placings, workspace.Encloses logging placing.folder ∧
    ∃ found, workspace.containers[placing.folder]? = some found ∧
      found.name = placing.target.moduleName ∧ found.isModule = false
  together : ∀ placing ∈ placings,
    (placing.target.moduleName ≠ settings.folderName ∨
      (start.findFolder? logging placing.target.moduleName).isSome = true) →
    workspace.findFolder? logging placing.target.moduleName = some placing.folder
  near : ∀ placing ∈ placings,
    workspace.findFolder? logging placing.target.moduleName = some placing.folder ∨
      ∃ base, workspace.findFolder? logging placing.target.moduleName = some base ∧
        workspace.containers[base]? = some ⟨settings.folderName, .folder, some logging⟩ ∧
        workspace.containers[placing.folder]? = some ⟨settings.folderName, .folder, some base⟩
  later : placings.Pairwise fun first second =>
    first.target.moduleName = second.target.moduleName →
      workspace.findFolder? logging second.target.moduleName = some second.folder
  created : ∀ (id : ContainerId) (found : Container), start.containers.length ≤ id →
    workspace.containers[id]? = some found →
    found = ⟨settings.folderName, .folder, some logging⟩ ∧
        start.childFolder? logging settings.folderName = none ∨
      (∃ placing ∈ placings, placing.target.moduleName = found.name) ∧
        ∀ other < id, other ≠ logging → workspace.Encloses logging other →
          workspace.isNamed other found.name = true → found.parent = some other

variable {settings : PageLoggingSettings} {logging folder : ContainerId}
  {start before between : Workspace} {placings : List Placing} {target : PageTarget} {moduleName name : String}

/-! ## What one page changes -/

/-- Folders that were there keep their names. -/
theorem Shelves.isNamed_back
    (shelves : Shelves logging settings.folderName moduleName before folder between)
    {id : ContainerId} (earlier : id < before.containers.length) :
    between.isNamed id name = before.isNamed id name := by
  have stored := getElem?_of_isPrefix shelves.containers (List.getElem?_eq_getElem earlier)
  rw [isNamed, isNamed, stored, List.getElem?_eq_getElem earlier]

section

variable (rooted : before.Rooted) (inside : logging < before.containers.length)
include rooted inside

/-- The folder for logging is created in a module that is there. -/
theorem rooted_base (folderName : String) :
    (before.pushContainer ⟨folderName, .folder, some logging⟩).Rooted ∧
      before.containers.length <
        (before.pushContainer ⟨folderName, .folder, some logging⟩).containers.length :=
  ⟨rooted.pushContainer (.folder inside),
    lt_of_getElem?_eq_some (stored_pushContainer ..)⟩

/-- What is found stays found. -/
theorem Shelves.known (shelves : Shelves logging settings.folderName moduleName before folder between)
    {id : ContainerId} (found : before.findFolder? logging name = some id) :
    between.findFolder? logging name = some id := by
  have differs (absent : before.findFolder? logging moduleName = none) : moduleName ≠ name := by
    rintro rfl
    exact nomatch absent.symm.trans found
  cases shelves with
  | found => exact found
  | inBase absent known =>
    have base_lt := lt_of_getElem?_eq_some (stored_of_childFolder? known)
    rwa [rooted.findFolder?_of_ne base_lt (differs absent)]
  | inNewBase absent without =>
    obtain ⟨rootedBase, base_lt⟩ := rooted_base rooted inside settings.folderName
    rw [rootedBase.findFolder?_of_ne base_lt (differs absent), rooted.findFolder?_parent inside,
      found, Option.some_or]

/-- The folder for a page is found, unless the folder for logging was created under its name. -/
theorem Shelves.near
    (shelves : Shelves logging settings.folderName moduleName before folder between) :
    between.findFolder? logging moduleName = some folder ∨
      moduleName = settings.folderName ∧ before.findFolder? logging moduleName = none ∧
        ∃ base, between.findFolder? logging moduleName = some base ∧
          between.containers[base]? = some ⟨settings.folderName, .folder, some logging⟩ ∧
          between.containers[folder]? = some ⟨settings.folderName, .folder, some base⟩ := by
  cases shelves with
  | found known => exact Or.inl known
  | inBase absent known =>
    have base_lt := lt_of_getElem?_eq_some (stored_of_childFolder? known)
    exact Or.inl (rooted.findFolder?_new base_lt (encloses_of_childFolder? known) absent)
  | inNewBase absent without =>
    obtain ⟨rootedBase, base_lt⟩ := rooted_base rooted inside settings.folderName
    have encloses : (before.pushContainer
        ⟨settings.folderName, .folder, some logging⟩).Encloses logging before.containers.length :=
      .inside (stored_pushContainer ..) (Container.isFolderIn_parent ..) .itself
    by_cases same : settings.folderName = moduleName
    · subst same
      have foundBase := rooted.findFolder?_new inside .itself absent
      refine Or.inr ⟨rfl, absent, before.containers.length, ?_, ?_, stored_pushContainer ..⟩
      · exact rootedBase.findFolder?_inside base_lt foundBase
      · exact getElem?_of_isPrefix (containers_pushContainer ..) (stored_pushContainer ..)
    · have absentStill : (before.pushContainer
          ⟨settings.folderName, .folder, some logging⟩).findFolder? logging moduleName = none :=
        (rooted.findFolder?_of_ne inside same).trans absent
      exact Or.inl (rootedBase.findFolder?_new base_lt encloses absentStill)

/-- An earlier container lies in the logging module if it has lain in it. -/
theorem Shelves.encloses_back
    (shelves : Shelves logging settings.folderName moduleName before folder between)
    {id : ContainerId} (earlier : id < before.containers.length)
    (encloses : between.Encloses logging id) : before.Encloses logging id := by
  cases shelves with
  | found => exact encloses
  | inBase => exact rooted.encloses_back encloses earlier
  | inNewBase =>
    obtain ⟨rootedBase, base_lt⟩ := rooted_base rooted inside settings.folderName
    exact rooted.encloses_back
      (rootedBase.encloses_back encloses (Nat.lt_trans earlier base_lt)) earlier

/-- What is created is the folder for logging, or a folder named after the module, and there was
none of that name but the one in which it lies. -/
theorem Shelves.created
    (shelves : Shelves logging settings.folderName moduleName before folder between)
    {id : ContainerId} {found : Container} (isNew : before.containers.length ≤ id)
    (stored : between.containers[id]? = some found) :
    found = ⟨settings.folderName, .folder, some logging⟩ ∧
        before.childFolder? logging settings.folderName = none ∨
      moduleName = found.name ∧
        ∀ other < id, other ≠ logging → between.Encloses logging other →
          between.isNamed other found.name = true → found.parent = some other := by
  -- No earlier folder of the logging module has the name of the module.
  have nowhere (absent : before.findFolder? logging moduleName = none) {other : ContainerId}
      (earlier : other < before.containers.length) (differs : other ≠ logging)
      (encloses : between.Encloses logging other)
      (named : between.isNamed other moduleName = true) : False := by
    have wasNamed := (shelves.isNamed_back earlier).symm.trans named
    obtain ⟨_, wasFound⟩ := rooted.exists_findFolder?
      (shelves.encloses_back rooted inside earlier encloses) differs wasNamed
    exact nomatch absent.symm.trans wasFound
  cases shelves with
  | found => exact absurd (lt_of_getElem?_eq_some stored) (Nat.not_lt.mpr isNew)
  | inBase absent known =>
    rcases getElem?_concat_cases stored with wasStored | ⟨rfl, rfl⟩
    · exact absurd (lt_of_getElem?_eq_some wasStored) (Nat.not_lt.mpr isNew)
    · exact Or.inr ⟨rfl, fun other earlier differs encloses named =>
        (nowhere absent earlier differs encloses named).elim⟩
  | inNewBase absent without =>
    rcases getElem?_concat_cases stored with wasStored | ⟨rfl, rfl⟩
    · rcases getElem?_concat_cases wasStored with longAgo | ⟨_, rfl⟩
      · exact absurd (lt_of_getElem?_eq_some longAgo) (Nat.not_lt.mpr isNew)
      · exact Or.inl ⟨rfl, without⟩
    · refine Or.inr ⟨rfl, fun other earlier differs encloses named => ?_⟩
      by_cases old : other < before.containers.length
      · exact (nowhere absent old differs encloses named).elim
      · have longer :
            (before.pushContainer ⟨settings.folderName, .folder, some logging⟩).containers.length =
              before.containers.length + 1 := List.length_append
        exact congrArg some (Nat.eq_of_lt_succ_of_not_lt (longer ▸ earlier) old).symm

end

/-! ## All pages -/

namespace Shelved

/-- Before the first page no folder has been chosen. -/
theorem nil (settings : PageLoggingSettings) (logging : ContainerId) (start : Workspace) :
    Shelved settings logging start [] start where
  containers := List.prefix_rfl
  known := fun _ _ found => found
  placed := nofun
  together := nofun
  near := nofun
  later := .nil
  created := fun _ _ isNew stored =>
    absurd (lt_of_getElem?_eq_some stored) (Nat.not_lt.mpr isNew)

/-- The search under the name of a page's module has a result. -/
theorem exists_found (shelved : Shelved settings logging start placings before) {placing : Placing}
    (member : placing ∈ placings) :
    ∃ id, before.findFolder? logging placing.target.moduleName = some id := by
  rcases shelved.near placing member with found | ⟨base, found, _⟩
  · exact ⟨_, found⟩
  · exact ⟨base, found⟩

/-- One further page is put into the folder for its module. For the earlier pages a search finds what
it found before, as folders are created behind all others. For the new one everything is said by the
ways in which its folder was chosen. -/
theorem concat (shelved : Shelved settings logging start placings before) (rooted : before.Rooted)
    (inside : logging < before.containers.length)
    (shelves : Shelves logging settings.folderName target.moduleName before folder between) :
    Shelved settings logging start (placings ++ [⟨target, folder⟩]) between where
  containers := shelved.containers.trans shelves.containers
  known := fun name id found => shelves.known rooted inside (shelved.known name id found)
  placed := by
    intro placing member
    rcases List.mem_append.mp member with earlier | last
    · obtain ⟨encloses, found, stored, isFolder⟩ := shelved.placed placing earlier
      exact ⟨encloses.mono shelves.containers, found,
        getElem?_of_isPrefix shelves.containers stored, isFolder⟩
    · obtain rfl := List.mem_singleton.mp last
      exact ⟨shelves.encloses, shelves.stored⟩
  together := by
    intro placing member apart
    rcases List.mem_append.mp member with earlier | last
    · exact shelves.known rooted inside (shelved.together placing earlier apart)
    · obtain rfl := List.mem_singleton.mp last
      rcases shelves.near rooted inside with found | ⟨same, absent, _⟩
      · exact found
      · rcases apart with differs | wasThere
        · exact absurd same differs
        · obtain ⟨id, found⟩ := Option.isSome_iff_exists.mp wasThere
          exact nomatch absent.symm.trans (shelved.known _ id found)
  near := by
    intro placing member
    rcases List.mem_append.mp member with earlier | last
    · refine (shelved.near placing earlier).imp (shelves.known rooted inside) ?_
      rintro ⟨base, found, storedBase, stored⟩
      exact ⟨base, shelves.known rooted inside found,
        getElem?_of_isPrefix shelves.containers storedBase,
        getElem?_of_isPrefix shelves.containers stored⟩
    · obtain rfl := List.mem_singleton.mp last
      exact (shelves.near rooted inside).imp_right fun ⟨_, _, base⟩ => base
  later := by
    refine List.pairwise_append.mpr ⟨?_, List.pairwise_singleton _ _, ?_⟩
    · exact shelved.later.imp fun found same => shelves.known rooted inside (found same)
    · intro first member second last same
      obtain rfl := List.mem_singleton.mp last
      obtain ⟨id, found⟩ := shelved.exists_found member
      rw [same] at found
      rcases shelves.near rooted inside with isFound | ⟨_, absent, _⟩
      · exact isFound
      · exact nomatch absent.symm.trans found
  created := by
    intro id found isNew stored
    -- What was created for an earlier page is still alone there, as new folders lie behind it.
    by_cases earlier : id < before.containers.length
    · have wasStored : before.containers[id]? = some found := by
        rw [List.getElem?_eq_getElem earlier, ← stored]
        exact (getElem?_of_isPrefix shelves.containers (List.getElem?_eq_getElem earlier)).symm
      refine (shelved.created id found isNew wasStored).imp_right ?_
      rintro ⟨⟨placing, member, same⟩, alone⟩
      refine ⟨⟨placing, List.mem_append_left _ member, same⟩, ?_⟩
      intro other before? differs encloses named
      have old := Nat.lt_trans before? earlier
      exact alone other before? differs (shelves.encloses_back rooted inside old encloses)
        ((shelves.isNamed_back old).symm.trans named)
    · rcases shelves.created rooted inside (Nat.le_of_not_lt earlier) stored with
        ⟨base, without⟩ | ⟨same, alone⟩
      · -- The folder for logging is missing now, so it was missing at the start.
        refine Or.inl ⟨base, Option.eq_none_iff_forall_ne_some.mpr fun id wasThere => ?_⟩
        have wasStored := stored_of_childFolder? wasThere
        have member : id ∈ placesWhere (fun found => found.isFolderIn logging &&
            found.name == settings.folderName) before.containers :=
          mem_placesWhere.mpr ⟨_, getElem?_of_isPrefix shelved.containers wasStored, by simp⟩
        exact absurd (List.head?_eq_none_iff.mp without ▸ member) List.not_mem_nil
      · exact Or.inr ⟨⟨_, List.mem_append_right _ List.mem_cons_self, same⟩, alone⟩

/-- Documents do not matter. -/
theorem pushDocument (shelved : Shelved settings logging start placings between)
    (holder : ContainerId) (body : DocumentBody) :
    Shelved settings logging start placings (between.pushDocument holder body) where
  containers := shelved.containers
  known := by simpa only [findFolder?_pushDocument] using shelved.known
  placed := fun placing member =>
    (shelved.placed placing member).imp_left encloses_pushDocument.mpr
  together := by simpa only [findFolder?_pushDocument] using shelved.together
  near := by
    simp only [findFolder?_pushDocument]
    exact shelved.near
  later := by simpa only [findFolder?_pushDocument] using shelved.later
  created := fun id found isNew stored =>
    (shelved.created id found isNew stored).imp_right fun ⟨named, alone⟩ =>
      ⟨named, fun other earlier differs encloses =>
        alone other earlier differs (encloses_pushDocument.mp encloses)⟩

end Shelved

/-- A generator of logging microflows that is done has appended microflows for some of the pages, in
their order. Those for modules of one name are in one folder, as far as `Shelved` says. -/
theorem one_folder_per_module {workspace : Workspace} (reachable : workspace.Reachable)
    (settings : PageLoggingSettings) (report : Report) {after : Work}
    (done : (generatePageLogging settings).run ⟨workspace, report⟩ = .ok ⟨⟩ after) :
    ∃ logging targets placings,
      workspace.moduleNamed? settings.loggingModule = some logging ∧
      workspace.pageTargets = .ok targets ∧
      (placings.map Placing.target).Sublist targets ∧
      after.workspace.documents =
        workspace.documents ++ placings.map (Placing.document settings) ∧
      Shelved settings logging workspace placings after.workspace := by
  have ends : Ends _ (Work.mk workspace report) _ _ :=
    generatePageLogging_logs reachable.rooted settings
  obtain ⟨logging, targets, named, known, chain⟩ := ends.of_ok done
  have inside := lt_of_moduleOf (moduleOf_of_moduleNamed? named)
  obtain ⟨placings, some?, documents, shelved⟩ := exists_placings
    (Shelved settings logging workspace) chain reachable.rooted inside (.nil settings logging workspace)
    fun placings target folder earlier between _ rootedThen insideThen shelved shelves =>
      (shelved.concat rootedThen insideThen shelves).pushDocument ..
  exact ⟨logging, targets, placings, named, known, some?, documents, shelved⟩

/-! ## A module with the name of the folder for logging -/

/-- A module with two pages, and a logging module without folders. -/
def twoPages : Project :=
  ⟨[⟨"Sales", ⟨[]⟩, [], [.page ⟨"Overview", false, []⟩, .page ⟨"Details", false, []⟩]⟩,
    ⟨"CustomLogging", ⟨[]⟩, [],
      [.javaAction ⟨"Java_IPAddress", none⟩, .javaAction ⟨"Java_BrowserType", none⟩]⟩]⟩

/-- Settings under which the folder for logging has a name. -/
def loggingInto (folderName : String) : PageLoggingSettings :=
  { PageLoggingSettings.standard with folderName }

/-- Where the microflows of the two pages are put, one after the other. -/
def twoPlacings (first second : ContainerId) : List Placing :=
  [⟨⟨"Sales.Overview", "Sales", none⟩, first⟩, ⟨⟨"Sales.Details", "Sales", none⟩, second⟩]

/-- The two pages are targets in the order in which they are stored. -/
theorem pageTargets_twoPages :
    (ofProject twoPages).pageTargets = .ok ((twoPlacings 0 0).map Placing.target) := by
  cbv

/-- The second page of the module does not go where the first one goes. -/
theorem pages_apart :
    (ofProject twoPages).AllLoaded ∧
      (ofProject twoPages).pageTargets = .ok ((twoPlacings 3 2).map Placing.target) ∧
      ∃ after, (generatePageLogging (loggingInto "Sales")).run
          ⟨ofProject twoPages, .empty .pageLogging⟩ = .ok ⟨⟩ after ∧
        after.workspace.documents = (ofProject twoPages).documents ++
          (twoPlacings 3 2).map (Placing.document (loggingInto "Sales")) := by
  have ends : Ends (generatePageLogging (loggingInto "Sales"))
      ⟨ofProject twoPages, .empty .pageLogging⟩
      (fun _ after => after.workspace.documents = (ofProject twoPages).documents ++
        (twoPlacings 3 2).map (Placing.document (loggingInto "Sales"))) Never := by
    cbv
  obtain ⟨⟨⟩, after, done, documents⟩ := ends.exists_ok
  exact ⟨allLoaded_ofProject twoPages, pageTargets_twoPages, after, done, documents⟩

/-- Under another name of the folder for logging both pages go to one folder. -/
theorem one_folder_per_module_twoPages :
    ∃ after, (generatePageLogging (loggingInto "Pages")).run
        ⟨ofProject twoPages, .empty .pageLogging⟩ = .ok ⟨⟩ after ∧
      after.workspace.documents = (ofProject twoPages).documents ++
        (twoPlacings 3 3).map (Placing.document (loggingInto "Pages")) ∧
      ∃ logging placings, after.workspace.documents = (ofProject twoPages).documents ++
          placings.map (Placing.document (loggingInto "Pages")) ∧
        Shelved (loggingInto "Pages") logging (ofProject twoPages) placings after.workspace := by
  have ends : Ends (generatePageLogging (loggingInto "Pages"))
      ⟨ofProject twoPages, .empty .pageLogging⟩
      (fun _ after => after.workspace.documents = (ofProject twoPages).documents ++
        (twoPlacings 3 3).map (Placing.document (loggingInto "Pages"))) Never := by
    cbv
  obtain ⟨⟨⟩, after, done, documents⟩ := ends.exists_ok
  obtain ⟨logging, _, placings, _, _, _, created, shelved⟩ := one_folder_per_module
    (reachable_ofProject twoPages) (loggingInto "Pages") (.empty .pageLogging) done
  exact ⟨after, done, documents, logging, placings, created, shelved⟩

end FlowModel.Generation
