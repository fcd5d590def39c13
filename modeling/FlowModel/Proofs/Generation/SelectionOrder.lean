import FlowModel.Proofs.Generation.Coverage
import FlowModel.Proofs.Newcomers
import FlowModel.Proofs.Workspace.Addresses

/-!
# The order of selections

The entities of the selected modules get their validation microflows one after another. The first
entity that asks for a name gets a microflow, and the later ones are noted as collisions; the first
microflow in a module makes the folder there. So what is created is told by newcomers: by those
among the entities, whose keys are the names of their microflows, and by those among their modules
(`Grants`). When the selections come in another order, the entities with one name still come in the
order of the domain model (`exists_validationTargets_of_perm`). So the same entities are newcomers,
and the generator creates the same and notes the same, up to order (`selections_in_any_order`).
-/

namespace FlowModel

namespace Workspace

variable {workspace before after : Workspace} {name : String} {parent : ContainerId}

/-- Whether a microflow is found by a qualified name. -/
def isTaken (workspace : Workspace) (qualified : String) : Bool :=
  (workspace.find? .microflow qualified).isSome

/-- Whether a folder with a name lies directly in a container. -/
def hasFolder (workspace : Workspace) (name : String) (parent : ContainerId) : Bool :=
  (workspace.childFolder? parent name).isSome

/-- A new folder makes one more container have a folder of its name, namely its parent. -/
theorem hasFolder_pushContainer :
    (workspace.pushContainer ⟨name, .folder, some parent⟩).hasFolder name =
      fun other => workspace.hasFolder name other || other == parent := by
  funext other
  rw [hasFolder, childFolder?, pushContainer, placesWhere_concat, List.head?_append,
    Option.isSome_or, hasFolder, childFolder?]
  by_cases same : parent = other
  · simp [same]
  · simp [same, Ne.symm same]

/-- What one workspace has behind all that another has: some folders in containers of the other, and
some microflows under their qualified names. -/
structure Gains (before after : Workspace) (folders : List Container)
    (microflows : List (String × Microflow)) : Prop where
  containers : after.containers = before.containers ++ folders
  inside : ∀ folder ∈ folders, ∃ parent < before.containers.length, folder.parent = some parent
  documents : before.documents <+: after.documents
  count : after.documents.length = before.documents.length + microflows.length
  named : List.Forall₂
    (fun id gained => after.qualifiedName id = .ok gained.1 ∧ after.microflow id = .ok gained.2)
    (List.range' before.documents.length microflows.length) microflows

end Workspace

namespace ValidationSettings

/-- The qualified name under which the microflow of an entity is asked for. -/
def askedName (settings : ValidationSettings) (target : ValidationTarget) : String :=
  (target.request settings).name

/-- The name and the microflow that an entity gets. -/
def microflow (settings : ValidationSettings) (target : ValidationTarget) : String × Microflow :=
  (settings.askedName target, (target.request settings).content)

/-- The microflow of an entity fits on the canvas. -/
def Fits (settings : ValidationSettings) (target : ValidationTarget) : Prop :=
  (validationMicroflow? target.entity target.moduleName settings).isSome = true

/-- The entities, marked whether they get microflows when they come one after another. -/
def marks (settings : ValidationSettings) (workspace : Workspace)
    (targets : List ValidationTarget) : List (ValidationTarget × Bool) :=
  marked settings.askedName workspace.isTaken targets

/-- The entities that get microflows when they come one after another. -/
def served (settings : ValidationSettings) (workspace : Workspace)
    (targets : List ValidationTarget) : List ValidationTarget :=
  newcomers settings.askedName workspace.isTaken targets

/-- What is noted of an entity that gets a microflow, or that gets none. -/
def skips (settings : ValidationSettings) (mark : ValidationTarget × Bool) : List Skip :=
  if mark.2 then mark.1.leftOut else [(mark.1.request settings).collision]

/-- The folders that are made for entities that get microflows. -/
def newFolders (settings : ValidationSettings) (workspace : Workspace)
    (served : List ValidationTarget) : List Container :=
  (newcomers id (workspace.hasFolder settings.folderName) (served.map ValidationTarget.owner)).map
    fun owner => ⟨settings.folderName, .folder, some owner⟩

end ValidationSettings

/-- Which modules are selected does not matter for the microflow of an entity. -/
theorem Draft.appendChecks_modules (entity : String) (settings : ValidationSettings)
    (modules : List ModuleSelection) (tail : NodeId) (attributes : List Attribute) :
    appendChecks entity { settings with modules } tail attributes =
      appendChecks entity settings tail attributes := by
  induction attributes generalizing tail with
  | nil => rfl
  | cons checked later inductionHypothesis =>
    rw [appendChecks, appendChecks]
    simp only [inductionHypothesis]
    rfl

/-- Which modules are selected does not show in a validation microflow. -/
theorem validationMicroflow?_modules (entity : Entity) (moduleName : String)
    (settings : ValidationSettings) (modules : List ModuleSelection) :
    validationMicroflow? entity moduleName { settings with modules } =
      validationMicroflow? entity moduleName settings := by
  simp only [validationMicroflow?, Draft.drawValidation, Draft.appendChecks_modules]
  rfl

namespace Generation

open Workspace

variable {before between after : Work} {request : Request} {settings : ValidationSettings}
  {target : ValidationTarget} {later targets others : List ValidationTarget}

/-! ## One entity -/

/-- A name is taken if it was taken, or if it is the one that is asked for. -/
theorem Fulfils.isTaken_eq (fulfils : Fulfils request before after)
    (rooted : before.workspace.Rooted)
    (named : before.workspace.moduleNamed? request.moduleName = some request.owner)
    (undotted : '.' ∉ request.moduleName.toList) :
    after.workspace.isTaken =
      fun name => before.workspace.isTaken name || name == request.name := by
  funext name
  by_cases asked : name = request.name
  · obtain ⟨id, found⟩ := fulfils.isTaken rooted named undotted
    simp [Workspace.isTaken, asked, found]
  · cases was : before.workspace.find? .microflow name with
    | none =>
      simp [Workspace.isTaken, asked, was, fulfils.find?_eq_none rooted named was asked]
    | some id => simp [Workspace.isTaken, was, fulfils.keeps.find? rooted was]

/-- A request for a taken name changes no document and notes one collision. -/
theorem Files.of_taken {folderName : String} (files : Files request folderName before after)
    (taken : request.IsTaken before.workspace) : after.workspace = before.workspace ∧
      after.report.skips = before.report.skips ++ [request.collision] := by
  obtain ⟨id, found⟩ := taken
  cases files with
  | taken => exact ⟨rfl, rfl⟩
  | created free => exact nomatch found.symm.trans free

/-- What is done for an entity whose name is free, apart from its folder. -/
structure Adds (request : Request) (before after : Work) : Prop where
  count : after.workspace.documents.length = before.workspace.documents.length + 1
  named : after.workspace.qualifiedName before.workspace.documents.length = .ok request.name
  read : after.workspace.microflow before.workspace.documents.length = .ok request.content
  skips : after.report.skips = before.report.skips ++ request.leftOut

/-- A request for a free name appends its microflow, and its folder if the module has none. -/
theorem Files.adds {folderName : String} (files : Files request folderName before after)
    (rooted : before.workspace.Rooted)
    (placed : before.workspace.moduleNamed? request.moduleName = some request.owner)
    (free : before.workspace.find? .microflow request.name = none) : Adds request before after := by
  cases files with
  | taken found => exact nomatch found.symm.trans free
  | @created folder between _ _ ensured =>
    have opened := Opens.here.ensured ensured
    have last : between.workspace.documents.length = before.workspace.documents.length :=
      congrArg List.length opened.documents
    have stored := stored_pushDocument between.workspace folder (.microflow request.content)
    constructor
    case count => rw [← last, pushDocument, List.length_append, List.length_singleton]
    case named => exact last ▸ opened.qualifiedName_pushDocument rooted placed
    case read => exact last ▸ microflow_eq_ok.mpr (body_eq_ok.mpr ⟨_, stored, rfl⟩)
    case skips => exact congrArg Report.skips opened.report_eq

/-- A folder is made for an entity if its module has none and no entity before it needs one. -/
theorem Files.newFolders (files : Files (target.request settings) settings.folderName before after)
    (free : before.workspace.find? .microflow (target.request settings).name = none)
    (later : List ValidationTarget) :
    ∃ made, after.workspace.containers = before.workspace.containers ++ made ∧
      settings.newFolders before.workspace (target :: later) =
        made ++ settings.newFolders after.workspace later := by
  rw [ValidationSettings.newFolders, List.map_cons, ValidationSettings.newFolders]
  cases files with
  | taken found => exact nomatch found.symm.trans free
  | @created folder _ _ _ ensured =>
    cases ensured with
    | present found =>
      have known : before.workspace.hasFolder settings.folderName (id target.owner) = true :=
        Option.isSome_iff_exists.mpr ⟨folder, found⟩
      refine ⟨[], (List.append_nil _).symm, ?_⟩
      rw [newcomers_cons_known known, List.nil_append]
      rfl
    | created absent =>
      have new : before.workspace.hasFolder settings.folderName (id target.owner) = false :=
        congrArg Option.isSome absent
      refine ⟨[⟨settings.folderName, .folder, some target.owner⟩], rfl, ?_⟩
      rw [newcomers_cons_new new]
      exact congrArg (fun known => (target.owner :: newcomers id known (later.map _)).map _)
        hasFolder_pushContainer.symm

/-- An entity is served before the others if its name is free. -/
theorem Files.served (files : Files (target.request settings) settings.folderName before after)
    (rooted : before.workspace.Rooted)
    (placed : before.workspace.moduleNamed? target.moduleName = some target.owner)
    (undotted : '.' ∉ target.moduleName.toList) (later : List ValidationTarget) :
    settings.marks before.workspace (target :: later) =
        (target, !before.workspace.isTaken (settings.askedName target)) ::
          settings.marks after.workspace later ∧
      settings.served before.workspace (target :: later) =
        if before.workspace.isTaken (settings.askedName target) then
          settings.served after.workspace later
        else target :: settings.served after.workspace later := by
  have isTaken : after.workspace.isTaken = fun name =>
      before.workspace.isTaken name || name == settings.askedName target :=
    files.fulfils.isTaken_eq rooted placed undotted
  rw [ValidationSettings.marks, ValidationSettings.marks, ValidationSettings.served,
    ValidationSettings.served, newcomers, marked, ← isTaken, newcomers]
  refine ⟨rfl, ?_⟩
  cases before.workspace.isTaken (settings.askedName target) <;> rfl

/-- An entity is served if its name is free, or if it is served behind the first one. -/
theorem Files.mem_served (files : Files (target.request settings) settings.folderName before after)
    (rooted : before.workspace.Rooted)
    (placed : before.workspace.moduleNamed? target.moduleName = some target.owner)
    (undotted : '.' ∉ target.moduleName.toList) {other : ValidationTarget} :
    other ∈ settings.served before.workspace (target :: later) ↔
      before.workspace.find? .microflow (settings.askedName target) = none ∧ other = target ∨
        other ∈ settings.served after.workspace later := by
  rw [(files.served rooted placed undotted later).2, Workspace.isTaken]
  cases before.workspace.find? .microflow (settings.askedName target) <;> simp

/-! ## Entities one after another -/

/-- What is reached when some entities have come one after another. -/
structure Grants (settings : ValidationSettings) (targets : List ValidationTarget)
    (before after : Work) : Prop where
  extended : before.workspace.Extends after.workspace
  containers : after.workspace.containers = before.workspace.containers ++
    settings.newFolders before.workspace (settings.served before.workspace targets)
  count : after.workspace.documents.length =
    before.workspace.documents.length + (settings.served before.workspace targets).length
  named : List.Forall₂ (fun id target =>
      after.workspace.qualifiedName id = .ok (settings.askedName target) ∧
        after.workspace.microflow id = .ok (target.request settings).content)
    (List.range' before.workspace.documents.length
      (settings.served before.workspace targets).length)
    (settings.served before.workspace targets)
  skips : after.report.skips = before.report.skips ++
    (settings.marks before.workspace targets).flatMap settings.skips

namespace Grants

/-- Before the first entity nothing has been granted. -/
theorem nil (settings : ValidationSettings) (work : Work) : Grants settings [] work work where
  extended := .refl work.workspace
  containers := (List.append_nil _).symm
  count := rfl
  named := .nil
  skips := (List.append_nil _).symm

/-- One entity comes before the others. -/
theorem cons (files : Files (target.request settings) settings.folderName before between)
    (rooted : before.workspace.Rooted)
    (placed : before.workspace.moduleNamed? target.moduleName = some target.owner)
    (undotted : '.' ∉ target.moduleName.toList) (grants : Grants settings later between after) :
    Grants settings (target :: later) before after := by
  have extended := files.fulfils.isExtension.trans grants.extended
  obtain ⟨marks, served⟩ := files.served rooted placed undotted later
  cases known : before.workspace.find? .microflow (settings.askedName target) with
  | some id =>
    have taken : before.workspace.isTaken (settings.askedName target) = true :=
      Option.isSome_iff_exists.mpr ⟨id, known⟩
    obtain ⟨same, noted⟩ := files.of_taken ⟨id, known⟩
    rw [if_pos taken, same] at served
    refine ⟨extended, ?_, ?_, ?_, ?_⟩
    · rw [served, ← same, grants.containers]
    · rw [served, ← same, grants.count]
    · rw [served, ← same]
      exact grants.named
    · rw [marks, List.flatMap_cons, ← List.append_assoc, grants.skips, noted, taken]
      rfl
  | none =>
    have free : before.workspace.isTaken (settings.askedName target) = false :=
      congrArg Option.isSome known
    rw [free, if_neg Bool.false_ne_true] at served
    have adds := files.adds rooted placed known
    have within := grants.extended.within
    obtain ⟨made, containers, folders⟩ :=
      files.newFolders known (settings.served between.workspace later)
    refine ⟨extended, ?_, ?_, ?_, ?_⟩
    · rw [served, folders, ← List.append_assoc, ← containers, grants.containers]
    · rw [served, grants.count, adds.count, List.length_cons, Nat.add_assoc, Nat.add_comm 1]
    · rw [served, List.length_cons, List.range'_succ, ← adds.count]
      exact .cons ⟨within.keeps.qualifiedName adds.named, within.microflow adds.read⟩ grants.named
    · rw [marks, List.flatMap_cons, ← List.append_assoc, grants.skips, adds.skips, free]
      rfl

/-- Entities of modules that were there gain folders there. -/
theorem gains (grants : Grants settings targets before after)
    (placed : ∀ target ∈ targets,
      before.workspace.moduleNamed? target.moduleName = some target.owner) :
    before.workspace.Gains after.workspace
      (settings.newFolders before.workspace (settings.served before.workspace targets))
      ((settings.served before.workspace targets).map settings.microflow) where
  containers := grants.containers
  inside := by
    intro folder member
    obtain ⟨owner, isNew, rfl⟩ := List.mem_map.mp member
    obtain ⟨target, isServed, rfl⟩ := List.mem_map.mp (mem_of_mem_newcomers isNew)
    have located := moduleOf_of_moduleNamed? (placed target (mem_of_mem_newcomers isServed))
    exact ⟨target.owner, lt_of_moduleOf located, rfl⟩
  documents := by
    obtain ⟨added, documents, _⟩ := grants.extended.documents
    exact ⟨added, documents.symm⟩
  count := by rw [List.length_map, grants.count]
  named := by
    rw [List.length_map]
    exact List.forall₂_map_right_iff.mpr grants.named

end Grants

/-- Entities come one after another until the microflow of one of them does not fit on the canvas,
which is one that would get a microflow. -/
theorem validateEach_grants (settings : ValidationSettings) {work : Work}
    (rooted : work.workspace.Rooted)
    (placed : ∀ target ∈ targets,
      work.workspace.moduleNamed? target.moduleName = some target.owner ∧
        '.' ∉ target.moduleName.toList) :
    Ends (targets.forM (validateEntity settings)) work
      (fun _ after => Grants settings targets work after ∧
        ∀ target ∈ settings.served work.workspace targets, settings.Fits target)
      (fun _ _ => ∃ target ∈ settings.served work.workspace targets, ¬ settings.Fits target) := by
  -- The names that are taken behind the first entity are those that are known to the others.
  induction targets generalizing work with
  | nil => exact Ends.value ⟨.nil settings work, nofun⟩
  | cons target later inductionHypothesis =>
    obtain ⟨named, undotted⟩ := placed target List.mem_cons_self
    refine Ends.andThen ((validateEntity_files rooted settings named).onFailed ?_) ?_
    · rintro _ _ ⟨_, _, free, undrawn⟩
      have new : work.workspace.isTaken (settings.askedName target) = false :=
        congrArg Option.isSome free
      refine ⟨target, ?_, by simp [ValidationSettings.Fits, undrawn]⟩
      rw [ValidationSettings.served, newcomers_cons_new new]
      exact List.mem_cons_self
    rintro _ between ⟨files, fits⟩
    have fulfils := files.fulfils
    have inside := lt_of_moduleOf (moduleOf_of_moduleNamed? named)
    have placedThen : ∀ other ∈ later,
        between.workspace.moduleNamed? other.moduleName = some other.owner ∧
          '.' ∉ other.moduleName.toList := fun other member =>
      have ⟨named, undotted⟩ := placed other (List.mem_cons_of_mem _ member)
      ⟨fulfils.keeps.moduleNamed? named, undotted⟩
    refine (inductionHypothesis (fulfils.rooted rooted inside) placedThen).mono ?_ ?_
    · rintro _ after ⟨grants, allFit⟩
      refine ⟨grants.cons files rooted named undotted, fun other member => ?_⟩
      rcases (files.mem_served rooted named undotted).mp member with ⟨free, rfl⟩ | isLater
      · exact fits free
      · exact allFit other isLater
    · rintro _ _ ⟨other, isLater, overflows⟩
      exact ⟨other, (files.mem_served rooted named undotted).mpr (Or.inr isLater), overflows⟩

/-! ## Selections in another order -/

/-- When the names of modules have no dots, two entities ask for one name only if they have the same
name and their modules have. -/
theorem askedName_inj {other : ValidationTarget} (undotted : '.' ∉ target.moduleName.toList)
    (undotted' : '.' ∉ other.moduleName.toList)
    (same : settings.askedName target = settings.askedName other) :
    target.moduleName = other.moduleName ∧ target.entity.name = other.entity.name := by
  have split := (QualifiedName.split?_qualified undotted).symm.trans
    ((congrArg QualifiedName.split? same).trans (QualifiedName.split?_qualified undotted'))
  obtain ⟨sameModule, sameName⟩ := Prod.mk.inj (Option.some.inj split)
  exact ⟨sameModule, (String.append_right_inj settings.microflowPrefix).mp sameName⟩

/-- If a selection selects an entity, it selects all those of the domain model with that name, and
only they have microflows of the same name. -/
theorem filter_selectedEntities {workspace : Workspace} {selection : ModuleSelection}
    {group : List ValidationTarget} (undotted : '.' ∉ selection.name.toList)
    (selected : workspace.selectedEntities selection = .ok group) (member : target ∈ group) :
    selection.name = target.moduleName ∧ ∃ id content,
      workspace.moduleNamed? target.moduleName = some target.owner ∧
        workspace.domainModelOf? target.owner = some id ∧ workspace.domainModel id = .ok content ∧
        group.filter (fun other => settings.askedName other == settings.askedName target) =
          (content.entities.filter fun entity => entity.name == target.entity.name).map
            fun entity => ⟨target.owner, target.moduleName, entity⟩ := by
  obtain ⟨owner, id, content, named, modelOf, read, rfl⟩ := selectedEntities_eq_ok.mp selected
  obtain ⟨chosen, inside, rfl⟩ := List.mem_map.mp member
  have selects := (List.mem_filter.mp inside).2
  refine ⟨rfl, id, content, named, modelOf, read, ?_⟩
  simp only [List.filter_map, List.filter_filter]
  refine congrArg _ (List.filter_congr fun entity _ => Bool.eq_iff_iff.mpr ?_)
  simp only [Function.comp_apply, Bool.and_eq_true, beq_iff_eq]
  constructor
  · rintro ⟨same, _⟩
    exact (askedName_inj undotted undotted same).2
  · intro same
    have sameAsked : settings.askedName ⟨owner, selection.name, entity⟩ =
        settings.askedName ⟨owner, selection.name, chosen⟩ := congrArg
      (fun name => QualifiedName.qualified selection.name (settings.microflowName name)) same
    exact ⟨sameAsked, same ▸ selects⟩

/-- The entities whose microflows have one name are the same in two selections that select any of
them. -/
theorem filter_eq_of_ne_nil {workspace : Workspace} {selection other : ModuleSelection}
    {group group' : List ValidationTarget} (undotted : '.' ∉ selection.name.toList)
    (undotted' : '.' ∉ other.name.toList)
    (selected : workspace.selectedEntities selection = .ok group)
    (selected' : workspace.selectedEntities other = .ok group') {name : String}
    (some? : group.filter (fun target => settings.askedName target == name) ≠ [])
    (some?' : group'.filter (fun target => settings.askedName target == name) ≠ []) :
    group.filter (fun target => settings.askedName target == name) =
      group'.filter fun target => settings.askedName target == name := by
  obtain ⟨target, member⟩ := List.exists_mem_of_ne_nil _ some?
  obtain ⟨target', member'⟩ := List.exists_mem_of_ne_nil _ some?'
  obtain ⟨inside, asked⟩ := List.mem_filter.mp member
  obtain ⟨inside', asked'⟩ := List.mem_filter.mp member'
  obtain rfl := beq_iff_eq.mp asked
  have sameAsked := beq_iff_eq.mp asked'
  obtain ⟨isNamed, id, content, named, modelOf, read, entities⟩ :=
    filter_selectedEntities undotted selected inside
  obtain ⟨isNamed', id', content', named', modelOf', read', entities'⟩ :=
    filter_selectedEntities undotted' selected' inside'
  obtain ⟨sameModule, sameName⟩ :=
    askedName_inj (isNamed' ▸ undotted') (isNamed ▸ undotted) sameAsked
  rw [sameModule, named] at named'
  have sameOwner := Option.some.inj named'
  rw [← sameOwner, modelOf] at modelOf'
  obtain rfl := Option.some.inj modelOf'
  obtain rfl := Except.ok.inj (read.symm.trans read')
  rw [entities, ← sameAsked, entities', sameModule, sameName, sameOwner]

/-- Selections in another order select the entities whose microflows have one name in the same
order. -/
theorem exists_validationTargets_of_perm {workspace : Workspace} {modules : List ModuleSelection}
    (permuted : settings.modules.Perm modules)
    (undotted : ∀ selection ∈ settings.modules, '.' ∉ selection.name.toList)
    (selected : workspace.validationTargets settings = .ok targets) :
    ∃ others, workspace.validationTargets { settings with modules } = .ok others ∧
      ∀ name, targets.filter (fun target => settings.askedName target == name) =
        others.filter fun target => settings.askedName target == name := by
  obtain ⟨groups, chosen, collected⟩ := bind_eq_ok.mp selected
  obtain rfl := Except.ok.inj collected
  obtain ⟨groups', chosen', permutedGroups⟩ :=
    List.perm_comp_forall₂ permuted.symm (mapM_eq_ok.mp chosen)
  refine ⟨groups'.flatten, bind_eq_ok.mpr ⟨groups', mapM_eq_ok.mpr chosen', rfl⟩, fun name => ?_⟩
  rw [List.filter_flatten, List.filter_flatten]
  refine flatten_eq_of_perm (permutedGroups.symm.map _) ?_
  intro block isBlock other isOther
  obtain ⟨group, inGroups, rfl⟩ := List.mem_map.mp isBlock
  obtain ⟨group', inGroups', rfl⟩ := List.mem_map.mp isOther
  obtain ⟨selection, listed, answered⟩ := exists_of_mem_mapM chosen inGroups
  obtain ⟨selection', listed', answered'⟩ := exists_of_mem_mapM chosen inGroups'
  -- A selection may leave all these entities out, but it cannot take some of them only.
  by_cases empty : group.filter (fun target => settings.askedName target == name) = []
  · exact Or.inl empty
  by_cases empty' : group'.filter (fun target => settings.askedName target == name) = []
  · exact Or.inr (Or.inl empty')
  exact Or.inr (Or.inr (filter_eq_of_ne_nil (undotted selection listed)
    (undotted selection' listed') answered answered' empty empty'))

/-! ## Runs -/

/-- What is done for an entity does not depend on the selections. -/
theorem validateEntity_modules (modules : List ModuleSelection) :
    validateEntity { settings with modules } = validateEntity settings := by
  funext target
  simp only [validateEntity, validationMicroflow?_modules]
  rfl

/-- The selected entities come one after another, or the run fails. -/
theorem generateValidation_grants (settings : ValidationSettings) (modules : List ModuleSelection)
    {work : Work} (rooted : work.workspace.Rooted)
    (undotted : ∀ selection ∈ modules, '.' ∉ selection.name.toList) :
    Ends (generateValidation { settings with modules }) work
      (fun _ after => ∃ targets,
        work.workspace.validationTargets { settings with modules } = .ok targets ∧
          work.workspace.Gains after.workspace
            (settings.newFolders work.workspace (settings.served work.workspace targets))
            ((settings.served work.workspace targets).map settings.microflow) ∧
          after.report.skips = work.report.skips ++
            (settings.marks work.workspace targets).flatMap settings.skips ∧
          ∀ target ∈ settings.served work.workspace targets, settings.Fits target)
      (fun _ _ => ∀ targets,
        work.workspace.validationTargets { settings with modules } = .ok targets →
          ∃ target ∈ settings.served work.workspace targets, ¬ settings.Fits target) := by
  refine asking (fun failure refused targets selected => nomatch refused.symm.trans selected)
    fun targets selected => ?_
  rw [validateEntity_modules]
  have placed : ∀ target ∈ targets,
      work.workspace.moduleNamed? target.moduleName = some target.owner ∧
        '.' ∉ target.moduleName.toList := by
    intro target member
    obtain ⟨named, selection, listed, sameName⟩ :=
      exists_selection_of_mem_validationTargets selected member
    exact ⟨named, sameName ▸ undotted selection listed⟩
  refine (validateEach_grants settings rooted placed).mono ?_ ?_
  · rintro _ after ⟨grants, allFit⟩
    exact ⟨targets, selected, grants.gains fun target member => (placed target member).1,
      grants.skips, allFit⟩
  · rintro _ _ overflows others selected'
    obtain rfl := Except.ok.inj (selected.symm.trans selected')
    exact overflows

/-- What two runs on one workspace come to is the same up to order: the folders they create, the
microflows they create with their names, and what they note. -/
structure AgreeUpToOrder (start : Workspace) (one other : Work) : Prop where
  gained : ∃ folders folders' microflows microflows', start.Gains one.workspace folders microflows ∧
    start.Gains other.workspace folders' microflows' ∧ folders.Perm folders' ∧
      microflows.Perm microflows'
  skips : one.report.skips.Perm other.report.skips

/-- If a run is done, it is done also when the selections come in another order, and comes to the
same. -/
theorem exists_run_of_perm {workspace : Workspace} (rooted : workspace.Rooted)
    {settings : ValidationSettings} {modules modules' : List ModuleSelection}
    (permuted : modules.Perm modules')
    (undotted : ∀ selection ∈ modules, '.' ∉ selection.name.toList) {report : Report} {one : Work}
    (done : (generateValidation { settings with modules }).run ⟨workspace, report⟩ = .ok () one) :
    ∃ other, (generateValidation { settings with modules := modules' }).run ⟨workspace, report⟩ =
      .ok () other ∧ AgreeUpToOrder workspace one other := by
  have undotted' : ∀ selection ∈ modules', '.' ∉ selection.name.toList :=
    fun selection listed => undotted selection (permuted.mem_iff.mpr listed)
  have ends (all : List ModuleSelection) := @generateValidation_grants settings all
    ⟨workspace, report⟩ rooted
  obtain ⟨targets, selected, gains, skips, allFit⟩ := (ends modules undotted).of_ok done
  obtain ⟨others, selected', same⟩ := exists_validationTargets_of_perm permuted undotted selected
  have served : (settings.served workspace targets).Perm (settings.served workspace others) :=
    perm_newcomers same
  cases outcome : (generateValidation { settings with modules := modules' }).run
      ⟨workspace, report⟩ with
  | error failure after =>
    obtain ⟨target, member, overflows⟩ :=
      (ends modules' undotted').of_error outcome others selected'
    exact absurd (allFit target (served.mem_iff.mpr member)) overflows
  | ok value other =>
    obtain ⟨others', selected'', gains', skips', _⟩ := (ends modules' undotted').of_ok outcome
    obtain rfl := Except.ok.inj (selected'.symm.trans selected'')
    refine ⟨other, rfl, ⟨_, _, _, _, gains, gains', ?_, served.map _⟩, ?_⟩
    · exact (perm_newcomers_id (served.map _) _).map _
    · rw [skips, skips']
      exact ((perm_marked same).flatMap_right _).append_left _

/-- The order in which the modules are selected does not matter, also when a module is selected
again with other entities and when entities have one name: the run with one order is done if and
only if the run with the other is, and then both create the same folders and the same microflows,
and note the same, up to order. -/
theorem selections_in_any_order {workspace : Workspace} (rooted : workspace.Rooted)
    {settings : ValidationSettings} {modules : List ModuleSelection}
    (permuted : settings.modules.Perm modules)
    (undotted : ∀ selection ∈ settings.modules, '.' ∉ selection.name.toList) (report : Report) :
    ((∃ after, (generateValidation settings).run ⟨workspace, report⟩ = .ok () after) ↔
      ∃ after, (generateValidation { settings with modules }).run ⟨workspace, report⟩ =
        .ok () after) ∧
      ∀ one other, (generateValidation settings).run ⟨workspace, report⟩ = .ok () one →
        (generateValidation { settings with modules }).run ⟨workspace, report⟩ = .ok () other →
          AgreeUpToOrder workspace one other := by
  have forth : ∀ one, (generateValidation settings).run ⟨workspace, report⟩ = .ok () one → _ :=
    fun one => exists_run_of_perm rooted permuted undotted
  have undotted' : ∀ selection ∈ modules, '.' ∉ selection.name.toList :=
    fun selection listed => undotted selection (permuted.mem_iff.mpr listed)
  refine ⟨⟨?_, ?_⟩, ?_⟩
  · rintro ⟨one, done⟩
    obtain ⟨other, done', _⟩ := forth one done
    exact ⟨other, done'⟩
  · rintro ⟨other, done⟩
    obtain ⟨one, done', _⟩ := exists_run_of_perm rooted permuted.symm undotted' done
    exact ⟨one, done'⟩
  · intro one other done done'
    obtain ⟨other', done'', agrees⟩ := forth one done
    obtain ⟨_, rfl⟩ := EStateM.Result.ok.inj (done'.symm.trans done'')
    exact agrees

/-- Two modules, one of which has two entities with one name. -/
def doubled : Project :=
  ⟨[⟨"Sales", ⟨[⟨"Order", [⟨"Total", .decimal⟩]⟩, ⟨"Order", [⟨"Number", .autoNumber⟩]⟩,
      ⟨"Customer", [⟨"Number", .autoNumber⟩]⟩]⟩, [], []⟩,
    ⟨"Stock", ⟨[⟨"Item", [⟨"Price", .decimal⟩]⟩]⟩, [], []⟩]⟩

/-- Settings that select a module twice. -/
def salesFirst : ValidationSettings :=
  { ValidationSettings.standard with
    modules := [⟨"Sales", ["Order"]⟩, ⟨"Stock", []⟩, ⟨"Sales", []⟩] }

/-- The same selections in another order. -/
def stockFirst : List ModuleSelection := [⟨"Stock", []⟩, ⟨"Sales", []⟩, ⟨"Sales", ["Order"]⟩]

/-- The folders of the modules are created in another order, but they are the same. -/
theorem selections_in_any_order_doubled :
    ∃ one other, (generateValidation salesFirst).run ⟨ofProject doubled, .empty .validation⟩ =
        .ok () one ∧
      (generateValidation { salesFirst with modules := stockFirst }).run
        ⟨ofProject doubled, .empty .validation⟩ = .ok () other ∧
      one.workspace ≠ other.workspace ∧ AgreeUpToOrder (ofProject doubled) one other := by
  obtain ⟨⟨⟩, one, done, folder⟩ := Ends.exists_ok
    (by cbv : Ends (generateValidation salesFirst) ⟨ofProject doubled, .empty .validation⟩
      (fun _ after => after.workspace.containers[2]? = some ⟨"Validation", .folder, some 0⟩) Never)
  obtain ⟨⟨⟩, other, done', folder'⟩ := Ends.exists_ok
    (by cbv : Ends (generateValidation { salesFirst with modules := stockFirst })
      ⟨ofProject doubled, .empty .validation⟩
      (fun _ after => after.workspace.containers[2]? = some ⟨"Validation", .folder, some 1⟩) Never)
  have agree := selections_in_any_order (reachable_ofProject doubled).rooted
    (by decide : salesFirst.modules.Perm stockFirst) (by decide) (.empty .validation)
  refine ⟨one, other, done, done', fun same => ?_, agree.2 one other done done'⟩
  rw [same, folder'] at folder
  exact absurd folder (by decide)

end Generation

end FlowModel
