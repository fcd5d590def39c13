import FlowModel.Proofs.Workspace.Additions

/-!
# Projects that workspaces mirror

A workspace mirrors a project when its modules have the names of the project's modules, hold their
domain models and hold the same folders and documents; then the project is what it is written back as
(`Mirrors.toProject`). What is added to a container of the workspace is added at its address in the
project (`Mirrors.addAt`). Domain models that stand among documents are checked out as documents, but
they are not written back: a project that has been checked out is written back without them, and
otherwise as it was (`toProject_ofProject`).
-/

namespace FlowModel

/-! ## Domain models among documents -/

mutual

/-- A folder without the domain models among its documents, at every depth. -/
def Folder.stripped : Folder → Folder
  | ⟨name, folders, documents⟩ =>
    ⟨name, strippedAll folders, documents.filter DocumentBody.isHeld⟩

/-- Folders without the domain models among their documents. -/
def Folder.strippedAll : List Folder → List Folder
  | [] => []
  | folder :: folders => stripped folder :: strippedAll folders

end

/-- A module without the domain models among its documents. It keeps its own domain model. -/
def Module.stripped (written : Module) : Module :=
  written.holding (Folder.strippedAll written.folders, written.documents.filter DocumentBody.isHeld)

/-- A project without the domain models among the documents of its modules and folders. -/
def Project.stripped (project : Project) : Project := ⟨project.modules.map Module.stripped⟩

mutual

/-- No domain model is among the documents of a folder, at any depth. -/
def Folder.isPlain : Folder → Bool
  | ⟨_, folders, documents⟩ => documents.all DocumentBody.isHeld && allPlain folders

/-- No domain model is among the documents of some folders. -/
def Folder.allPlain : List Folder → Bool
  | [] => true
  | folder :: folders => isPlain folder && allPlain folders

end

/-- No domain model is among the documents of a module or of its folders. -/
def Module.isPlain (written : Module) : Bool :=
  written.documents.all DocumentBody.isHeld && Folder.allPlain written.folders

/-- No domain model is among the documents of a project. -/
def Project.isPlain (project : Project) : Bool := project.modules.all Module.isPlain

/-- Nothing is stripped where nothing strays. -/
theorem filter_isHeld_of_all {documents : List DocumentBody}
    (plain : documents.all DocumentBody.isHeld = true) :
    documents.filter DocumentBody.isHeld = documents :=
  List.filter_eq_self.mpr (List.all_eq_true.mp plain)

/-- Where no domain model is among the documents, nothing is left out. -/
theorem Folder.stripped_of_isPlain :
    (∀ folder : Folder, folder.isPlain = true → folder.stripped = folder) ∧
      ∀ folders : List Folder, Folder.allPlain folders = true →
        Folder.strippedAll folders = folders := by
  apply Folder.stripped.mutual_induct
  · intro name folders documents inner plain
    rw [isPlain, Bool.and_eq_true] at plain
    rw [stripped, inner plain.2, filter_isHeld_of_all plain.1]
  · exact fun _ => rfl
  · intro folder folders first rest plain
    rw [allPlain, Bool.and_eq_true] at plain
    rw [strippedAll, first plain.1, rest plain.2]

/-- A project without stray domain models is its own stripped form. -/
theorem Project.stripped_of_isPlain {project : Project} (plain : project.isPlain = true) :
    project.stripped = project := by
  have each : ∀ written ∈ project.modules, written.stripped = written := by
    intro written member
    have plain := List.all_eq_true.mp plain written member
    rw [Module.isPlain, Bool.and_eq_true] at plain
    rw [Module.stripped, Folder.stripped_of_isPlain.2 _ plain.2, filter_isHeld_of_all plain.1]
    rfl
  rw [Project.stripped, List.map_congr_left each, List.map_id']

/-! ## Projects and addresses -/

namespace Project

/-- What the module or folder at an address holds. -/
def contentsAt? (project : Project) (address : Address) : Option Contents := do
  (← project.modules[address.place]?).contents.at? address.way

/-- The name of the module or folder at an address. -/
def nameAt? (project : Project) (address : Address) : Option String :=
  match address.way.getLast? with
  | none => (project.modules[address.place]?).map Module.name
  | some last => do
    let held ← project.contentsAt? ⟨address.place, address.way.dropLast⟩
    return (← held.1[last]?).name

/-- The project with more folders and documents in the module or folder at an address, after the
others there. -/
def addAt (project : Project) (added : Contents) (address : Address) : Project :=
  ⟨project.modules.modify address.place fun written =>
    written.holding (added.addAt address.way written.contents)⟩

/-- Adding no folders and no documents changes no project, whether or not the address exists in it.
-/
theorem addAt_nothing (project : Project) (address : Address) :
    project.addAt ([], []) address = project := by
  have same : (fun written : Module =>
      written.holding (Contents.addAt ([], []) address.way written.contents)) = id :=
    funext fun written => by
      rw [Contents.addAt_nothing]
      rfl
  rw [addAt, same, List.modify_id]

end Project

namespace Workspace

variable {workspace before after : Workspace} {project : Project} {holder id : ContainerId}
  {added : Contents}

/-! ## What a workspace is written back as -/

/-- A module of a workspace is written as a module of a project. -/
structure HoldsModule (workspace : Workspace) (id : ContainerId) (written : Module) : Prop where
  named : ∃ found, workspace.containers[id]? = some found ∧ found.name = written.name
  modelled : ∃ document, workspace.domainModelOf? id = some document ∧
    workspace.domainModel document = .ok written.domainModel
  holds : workspace.Holds id written.contents

/-- A workspace with all bodies that has the modules of a project. -/
structure Mirrors (workspace : Workspace) (project : Project) : Prop where
  wellFormed : workspace.WellFormed
  loaded : workspace.AllLoaded
  modules : List.Forall₂ workspace.HoldsModule workspace.modules project.modules

/-- A module is written as what its container holds. All bodies must be there, as one that is
missing makes writing fail. -/
theorem HoldsModule.toModule_eq {written : Module} (holds : workspace.HoldsModule id written)
    (wellFormed : workspace.WellFormed) (loaded : workspace.AllLoaded) :
    workspace.toModule id = .ok written := by
  obtain ⟨⟨found, stored, named⟩, ⟨document, foundModel, model⟩, held⟩ := holds
  have contents := held.contents_eq wellFormed loaded (lt_of_getElem?_eq_some stored)
  rw [toModule, foundModel]
  refine bind_eq_ok.mpr ⟨_, model, bind_eq_ok.mpr ⟨_, contents, ?_⟩⟩
  exact bind_eq_ok.mpr ⟨found, container_eq_ok.mpr stored, named ▸ rfl⟩

/-- A workspace is written back as the project that it mirrors. -/
theorem Mirrors.toProject (mirrors : workspace.Mirrors project) :
    workspace.toProject = .ok project := by
  have each := mirrors.modules.imp fun id written holds =>
    holds.toModule_eq mirrors.wellFormed mirrors.loaded
  exact bind_eq_ok.mpr ⟨project.modules, mapM_eq_ok.mpr each, rfl⟩

/-- A module keeps its name and its domain model, whatever it holds. -/
theorem HoldsModule.holding {written : Module} {held : Contents}
    (holds : before.HoldsModule id written) (extended : before.Extends after)
    (holdsThen : after.Holds id held) : after.HoldsModule id (written.holding held) where
  named := by
    obtain ⟨found, stored, named⟩ := holds.named
    exact ⟨found, getElem?_of_isPrefix extended.containers stored, named⟩
  modelled := by
    obtain ⟨document, foundModel, model⟩ := holds.modelled
    exact ⟨document, extended.within.keeps.domainModelOf? foundModel,
      extended.within.domainModel model⟩
  holds := holdsThen

/-- Additions come with their bodies, so a workspace that is fully loaded remains so. -/
theorem AllLoaded.extends (loaded : before.AllLoaded) (extended : before.Extends after) :
    after.AllLoaded := by
  intro id found stored
  cases bodyOf : found.body with
  | some body => rfl
  | none =>
    have isLoaded := loaded id found (extended.missing stored bodyOf)
    rw [bodyOf] at isLoaded
    exact isLoaded

/-! ## Additions -/

/-- A module lies in no other container. -/
theorem eq_of_encloses_module (member : id ∈ workspace.modules)
    (encloses : workspace.Encloses holder id) : holder = id := by
  cases encloses with
  | itself => rfl
  | inside stored lies =>
    obtain ⟨_, stored', isModule⟩ := mem_modules.mp member
    obtain rfl := Option.some.inj (stored.symm.trans stored')
    exact absurd ((Container.isModule_eq_false lies).symm.trans isModule) Bool.false_ne_true

/-- What is added to a container is added at its address in the project. -/
theorem Mirrors.addAt (mirrors : before.Mirrors project) (adds : Adds holder added before after)
    {address : Address} (at? : before.containerAt? address = some holder) :
    after.Mirrors (project.addAt added address) where
  wellFormed := adds.grows.wellFormed
  loaded := mirrors.loaded.extends adds.grows.isExtension
  modules := by
    obtain ⟨owner, listed, leads⟩ := Option.bind_eq_some_iff.mp at?
    have extended := adds.grows.isExtension
    rw [adds.modules]
    refine forall₂_modify mirrors.modules ?_ ?_
    · intro id written listed' holds
      obtain rfl := Option.some.inj (listed.symm.trans listed')
      exact holds.holding extended (adds.holds_along leads holds.holds)
    · intro other id written elsewhere listed' holds
      have member := List.mem_of_getElem? listed'
      refine holds.holding extended (adds.holds_outside (lt_of_mem_modules member) ?_ holds.holds)
      intro encloses
      have memberOwner := List.mem_of_getElem? listed
      have same : id = owner := by
        rcases encloses.linear (encloses_of_descend? leads) with below | below
        · exact eq_of_encloses_module memberOwner below
        · exact (eq_of_encloses_module member below).symm
      exact elsewhere (eq_of_getElem?_placesWhere listed' (same ▸ listed))

/-! ## Checking out a project -/

/-- A folder that is appended with all that it holds is added without the domain models among its
documents. The induction follows the folders into the workspace that their predecessors have left. -/
theorem Adds.pushFolders :
    (∀ (before : Workspace) holder (folder : Folder), before.WellFormed →
      holder < before.containers.length →
        Adds holder ([folder.stripped], []) before (before.pushFolder holder folder)) ∧
    (∀ (before : Workspace) holder (folders : List Folder), before.WellFormed →
      holder < before.containers.length →
        Adds holder (Folder.strippedAll folders, []) before (before.pushFolders holder folders)) := by
  apply Workspace.pushFolder.mutual_induct
  · intro before holder name folders documents inner wellFormed inside
    rw [Workspace.pushFolder, Folder.stripped]
    have entered := Adds.pushContainer wellFormed inside name
    have created := lt_of_getElem?_eq_some (stored_pushContainer before ⟨name, .folder, some holder⟩)
    have filled := Adds.pushDocuments entered.grows.wellFormed created documents
    have stays := Nat.lt_of_lt_of_le created filled.containers.length_le
    have held := filled.trans (inner filled.grows.wellFormed stays)
    rw [Contents.add, List.nil_append, List.append_nil] at held
    exact Adds.into wellFormed inside held
  · intro before holder wellFormed inside
    rw [Workspace.pushFolders]
    exact Adds.refl wellFormed inside
  · intro before holder folder folders first rest wellFormed inside
    rw [Workspace.pushFolders]
    have entered := first wellFormed inside
    have stays := Nat.lt_of_lt_of_le inside entered.containers.length_le
    exact entered.trans (rest entered.grows.wellFormed stays)

/-- When a module has been entered with its domain model, its documents and folders are added. -/
theorem Adds.fillModule {written : Module}
    (wellFormed : ((before.pushContainer ⟨written.name, .module, none⟩).pushDocument
      before.containers.length (.domainModel written.domainModel)).WellFormed) :
    Adds before.containers.length written.stripped.contents
      ((before.pushContainer ⟨written.name, .module, none⟩).pushDocument before.containers.length
        (.domainModel written.domainModel))
      (before.pushModule written) := by
  have created := lt_of_getElem?_eq_some (stored_pushContainer before ⟨written.name, .module, none⟩)
  have filled := Adds.pushDocuments wellFormed created written.documents
  have stays := Nat.lt_of_lt_of_le created filled.containers.length_le
  have folded := Adds.pushFolders.2 _ _ written.folders filled.grows.wellFormed stays
  have both := filled.trans folded
  rwa [Contents.add, List.nil_append, List.append_nil] at both

/-- A module that has just been entered holds its domain model. -/
theorem domainModelOf?_pushDocument (rooted : before.Rooted) (name : String)
    (model : DomainModel) :
    ((before.pushContainer ⟨name, .module, none⟩).pushDocument before.containers.length
      (.domainModel model)).domainModelOf? before.containers.length =
        some before.documents.length := by
  have others : placesWhere (fun found : Document => found.container == before.containers.length &&
      found.kind == .domainModel) before.documents = [] := by
    refine List.eq_nil_iff_forall_not_mem.mpr fun place member => ?_
    obtain ⟨found, stored, holds⟩ := mem_placesWhere.mp member
    have same := beq_iff_eq.mp (Bool.and_eq_true_iff.mp holds).1
    exact Nat.ne_of_lt (rooted.holder_lt stored) same
  rw [domainModelOf?, pushDocument, placesWhere_concat]
  show (placesWhere _ before.documents ++ _).head? = _
  rw [others]
  simp [Document.ofBody, DocumentBody.kind, pushContainer]

/-- A container that was there has the same folders and documents when a module is entered. -/
theorem sameAt_pushContainer (name : String) (id : ContainerId) :
    SameAt before (before.pushContainer ⟨name, .module, none⟩) id := by
  refine ⟨?_, fun _ known => known⟩
  rw [childFolders, pushContainer, placesWhere_concat]
  simp [childFolders]

/-- A new module is the last one. -/
theorem modules_pushContainer (workspace : Workspace) (name : String) :
    (workspace.pushContainer ⟨name, .module, none⟩).modules =
      workspace.modules ++ [workspace.containers.length] := by
  rw [modules, pushContainer, placesWhere_concat]
  simp [modules, Container.isModule]

/-- All that is appended of a module is added to its container, its domain model as well, which is not
held among the documents. -/
theorem Adds.pushModule (wellFormed : before.WellFormed) (written : Module) :
    Adds before.containers.length written.stripped.contents
      (before.pushContainer ⟨written.name, .module, none⟩) (before.pushModule written) := by
  have entered : before.Grows (before.pushContainer ⟨written.name, .module, none⟩) :=
    .pushContainer wellFormed .module
  have created := lt_of_getElem?_eq_some (stored_pushContainer before ⟨written.name, .module, none⟩)
  have modelled := Adds.pushDocument entered.wellFormed created (.domainModel written.domainModel)
  exact modelled.trans (Adds.fillModule modelled.grows.wellFormed)

/-- An appended module is written without the domain models among its documents. -/
theorem holdsModule_pushModule (wellFormed : before.WellFormed) (written : Module) :
    (before.pushModule written).HoldsModule before.containers.length written.stripped := by
  have rooted := wellFormed.toRooted
  have stored := stored_pushContainer before ⟨written.name, .module, none⟩
  have entered : (before.pushContainer ⟨written.name, .module, none⟩).WellFormed :=
    wellFormed.pushContainer .module
  have modelled := entered.pushDocument (lt_of_getElem?_eq_some stored)
    (.domainModel written.domainModel)
  have adds := Adds.pushModule wellFormed written
  have within := (Adds.fillModule modelled).grows.isExtension.within
  constructor
  case named => exact ⟨_, getElem?_of_isPrefix adds.containers stored, rfl⟩
  case modelled =>
    refine ⟨_, within.keeps.domainModelOf? (domainModelOf?_pushDocument rooted _ _), ?_⟩
    refine within.domainModel (bind_eq_ok.mpr ⟨.domainModel written.domainModel, ?_, rfl⟩)
    exact body_eq_ok.mpr ⟨_, stored_pushDocument (before.pushContainer _) .., rfl⟩
  case holds => exact adds.holds_here (rooted.holds_pushContainer .module)

/-- A module that was there is written as before when another one is appended. -/
theorem HoldsModule.pushModule {written : Module} (holds : before.HoldsModule id written)
    (wellFormed : before.WellFormed) (member : id ∈ before.modules) (added : Module) :
    (before.pushModule added).HoldsModule id written := by
  have inside := lt_of_mem_modules member
  have stored := stored_pushContainer before ⟨added.name, .module, none⟩
  have entered := Extends.pushContainer before ⟨added.name, .module, none⟩
  have adds := Adds.pushModule wellFormed added
  have holdsThen := holds.holds.frame entered.containers fun inner _ =>
    sameAt_pushContainer added.name inner
  have apart : ¬ (before.pushContainer ⟨added.name, .module, none⟩).Encloses id
      before.containers.length := by
    intro encloses
    exact Nat.ne_of_lt inside (eq_of_encloses_module (mem_modules.mpr ⟨_, stored, rfl⟩) encloses)
  have insideThen := Nat.lt_trans inside (lt_of_getElem?_eq_some stored)
  exact holds.holding (entered.trans adds.grows.isExtension)
    (adds.holds_outside insideThen apart holdsThen)

/-- An appended module comes last. -/
theorem Mirrors.pushModule (mirrors : before.Mirrors project) (written : Module) :
    (before.pushModule written).Mirrors ⟨project.modules ++ [written.stripped]⟩ where
  wellFormed := (Grows.pushModule mirrors.wellFormed written).wellFormed
  loaded := mirrors.loaded.extends (Grows.pushModule mirrors.wellFormed written).isExtension
  modules := by
    rw [(Adds.pushModule mirrors.wellFormed written).modules, modules_pushContainer]
    have earlier := forall₂_imp_of_mem mirrors.modules fun id member other holds =>
      holds.pushModule mirrors.wellFormed member written
    exact List.rel_append earlier (.cons (holdsModule_pushModule mirrors.wellFormed written) .nil)

/-- A project that has been checked out is mirrored without the domain models among its
documents. -/
theorem mirrors_ofProject (project : Project) : (ofProject project).Mirrors project.stripped := by
  have from? : ∀ (modules : List Module) (before : Workspace) (earlier : Project),
      before.Mirrors earlier → (modules.foldl Workspace.pushModule before).Mirrors
        ⟨earlier.modules ++ modules.map Module.stripped⟩ := by
    intro modules
    induction modules with
    | nil => exact fun before earlier mirrors => (List.append_nil earlier.modules).symm ▸ mirrors
    | cons written later inductionHypothesis =>
      intro before earlier mirrors
      have rest := inductionHypothesis _ _ (mirrors.pushModule written)
      rwa [List.append_assoc] at rest
  exact from? project.modules empty ⟨[]⟩ ⟨wellFormed_empty, nofun, .nil⟩

/-- A project that has been checked out is written back without the domain models among its
documents, and otherwise as it was. -/
theorem toProject_ofProject (project : Project) :
    (ofProject project).toProject = .ok project.stripped ∧
      (project.isPlain = true → (ofProject project).toProject = .ok project) := by
  have written := (mirrors_ofProject project).toProject
  exact ⟨written, fun plain => written.trans (congrArg _ (Project.stripped_of_isPlain plain))⟩

/-- Two modules of one name, and folders of one name that hold folders and documents of one name. -/
def repeated : Project :=
  ⟨[⟨"Sales", ⟨[⟨"Order", []⟩]⟩,
      [⟨"Pages", [⟨"Pages", [], [.page ⟨"Home", false, []⟩]⟩], [.page ⟨"Home", true, []⟩]⟩,
        ⟨"Pages", [], [.page ⟨"Home", false, []⟩, .javaAction ⟨"Home", none⟩]⟩],
      [.page ⟨"Home", false, []⟩]⟩,
    ⟨"Sales", ⟨[]⟩, [], []⟩]⟩

/-- A project in which two modules, and two folders in one module, have the same name comes back as
it was. -/
theorem toProject_ofProject_repeated :
    repeated.isPlain = true ∧ (ofProject repeated).toProject = .ok repeated :=
  have plain : repeated.isPlain = true := by decide
  ⟨plain, (toProject_ofProject repeated).2 plain⟩

end Workspace

end FlowModel
