import FlowModel.Generation.Validation
import FlowModel.Proofs.Workspace.Trees
import Mathlib.Data.List.Forall2

/-!
# Growth of workspaces

A workspace keeps another's labels when it has its containers, and its documents with their names,
kinds and places, under the same ids. It contains the other when it has the bodies too, and it
extends the other when it adds only folders and loaded documents at the end. What is found by name
stays found under the same id in a workspace that keeps the labels, and what is read from bodies
stays the same in one that contains the other (`Keeps.moduleNamed?`, `Within.validationTargets`).
A checked-out project is an extension of nothing, so it is well-formed and loaded
(`wellFormed_ofProject`, `allLoaded_ofProject`).
-/

namespace FlowModel

/-- A document with the same label has all that a document holds. -/
structure Document.Within (inner outer : Document) : Prop where
  label_eq : outer.label = inner.label
  body : ∀ body, inner.body = some body → outer.body = some body

/-- A search finds the same place in a longer list in which the condition holds at each old place as
it did before. -/
theorem findIdx?_mono {α : Type} {holds holds' : α → Bool} {before after : List α} {place : Nat}
    (same : ∀ (place : Nat) member, before[place]? = some member →
      ∃ later, after[place]? = some later ∧ holds' later = holds member)
    (found : before.findIdx? holds = some place) : after.findIdx? holds' = some place := by
  obtain ⟨inside, holdsThere, noneBefore⟩ := List.findIdx?_eq_some_iff_getElem.mp found
  have agree : ∀ earlier (bound : earlier < before.length), ∃ bound' : earlier < after.length,
      holds' after[earlier] = holds before[earlier] := by
    intro earlier bound
    obtain ⟨later, stored, equal⟩ := same earlier _ (List.getElem?_eq_getElem bound)
    obtain ⟨bound', rfl⟩ := List.getElem?_eq_some_iff.mp stored
    exact ⟨bound', equal⟩
  obtain ⟨inside', equal⟩ := agree place inside
  refine List.findIdx?_eq_some_iff_getElem.mpr ⟨inside', equal.trans holdsThere, ?_⟩
  intro earlier before?
  obtain ⟨_, equal⟩ := agree earlier (Nat.lt_trans before? inside)
  rw [equal]
  exact noneBefore earlier before?

/-- A question is answered for all members exactly if it is answered for each; the answers stand in
the order of the members. -/
theorem mapM_eq_ok {α β : Type} {question : α → Except Failure β} {members : List α}
    {values : List β} :
    members.mapM question = .ok values ↔
      List.Forall₂ (fun member value => question member = .ok value) members values := by
  induction members generalizing values with
  | nil => cases values <;> simp [pure, Except.pure]
  | cons member later inductionHypothesis =>
    rw [List.mapM_cons, bind_eq_ok]
    simp only [bind_eq_ok, inductionHypothesis]
    constructor
    · rintro ⟨value, asked, values, rest, collected⟩
      obtain rfl := Except.ok.inj collected
      exact .cons asked rest
    · rintro (_ | ⟨asked, rest⟩)
      exact ⟨_, asked, _, rest, rfl⟩

/-- Each of several answers was given for some member. -/
theorem exists_of_mem_mapM {α β : Type} {question : α → Except Failure β} {members : List α}
    {values : List β} (asked : members.mapM question = .ok values) {value : β}
    (member : value ∈ values) : ∃ origin ∈ members, question origin = .ok value := by
  induction mapM_eq_ok.mp asked with
  | nil => exact nomatch member
  | cons first rest inductionHypothesis =>
    rcases List.mem_cons.mp member with rfl | later
    · exact ⟨_, List.mem_cons_self, first⟩
    · obtain ⟨origin, inside, answered⟩ := inductionHypothesis (mapM_eq_ok.mpr rest) later
      exact ⟨origin, List.mem_cons_of_mem _ inside, answered⟩

namespace Workspace

/-- Containers and labels of documents are found in another workspace under the same ids. -/
structure Keeps (before after : Workspace) : Prop where
  containers : before.containers <+: after.containers
  documents : ∀ (id : DocumentId) (found : Document), before.documents[id]? = some found →
    ∃ later, after.documents[id]? = some later ∧ later.label = found.label

/-- Containers and documents with their bodies are found in another workspace under the same
ids. -/
structure Within (inner outer : Workspace) : Prop where
  containers : inner.containers <+: outer.containers
  documents : ∀ (id : DocumentId) (found : Document), inner.documents[id]? = some found →
    ∃ later, outer.documents[id]? = some later ∧ found.Within later

/-- Only containers and loaded documents are added, after the others. -/
structure Extends (before after : Workspace) : Prop where
  containers : before.containers <+: after.containers
  documents : ∃ added : List Document, after.documents = before.documents ++ added ∧
    ∀ found ∈ added, found.body.isSome = true

/-- Labels are kept, and no body is dropped. -/
structure Evolves (before after : Workspace) : Prop where
  keeps : before.Keeps after
  wellFormed : after.WellFormed
  missing : ∀ (id : DocumentId) (found : Document), after.documents[id]? = some found →
    found.body = none → ∃ earlier, before.documents[id]? = some earlier ∧ earlier.body = none

variable {before middle after : Workspace} {id owner : ContainerId} {name : String}

/-! ## Keeping labels -/

namespace Keeps

/-- Keeping is transitive, so it need be shown for one step only. -/
theorem trans (first : before.Keeps middle) (second : middle.Keeps after) : before.Keeps after where
  containers := first.containers.trans second.containers
  documents := by
    intro id found stored
    obtain ⟨later, storedLater, label_eq⟩ := first.documents id found stored
    obtain ⟨last, storedLast, label_eq'⟩ := second.documents id later storedLater
    exact ⟨last, storedLast, label_eq'.trans label_eq⟩

/-- Two workspaces that keep each other's labels are the same without bodies. -/
theorem unloadAll_eq (forth : before.Keeps after) (back : after.Keeps before) :
    after.unloadAll = before.unloadAll := by
  have containers : after.containers = before.containers :=
    back.containers.eq_of_length_le forth.containers.length_le
  have labels : after.documents.map Document.label = before.documents.map Document.label := by
    apply List.ext_getElem?
    intro id
    rw [List.getElem?_map, List.getElem?_map]
    cases stored : after.documents[id]? with
    | some found =>
      obtain ⟨earlier, storedEarlier, label_eq⟩ := back.documents id found stored
      simp [storedEarlier, label_eq]
    | none =>
      cases storedEarlier : before.documents[id]? with
      | none => rfl
      | some earlier =>
        obtain ⟨found, stored', _⟩ := forth.documents id earlier storedEarlier
        exact nomatch stored.symm.trans stored'
  exact (Workspace.mk.injEq ..).mpr ⟨containers, labels⟩

/-- No container is lost. -/
theorem length_le (keeps : before.Keeps after) :
    before.containers.length ≤ after.containers.length :=
  keeps.containers.length_le

/-- What lay in a module still lies in it. -/
theorem moduleOf (keeps : before.Keeps after) (located : before.moduleOf id = .ok owner) :
    after.moduleOf id = .ok owner :=
  climb_mono keeps.containers keeps.length_le located

/-- A path stays as it is, because none of the containers on it is renamed or moved. -/
theorem path (keeps : before.Keeps after) {path : String} (known : before.path id = .ok path) :
    after.path id = .ok path :=
  pathWithin_mono keeps.containers keeps.length_le known

/-- The name of the module of a container stays. -/
theorem moduleName (keeps : before.Keeps after) (named : before.moduleName id = .ok name) :
    after.moduleName id = .ok name :=
  moduleName_mono keeps.containers named

/-- Every document keeps its qualified name. -/
theorem qualifiedName (keeps : before.Keeps after) {id : DocumentId}
    (qualified : before.qualifiedName id = .ok name) : after.qualifiedName id = .ok name := by
  obtain ⟨found, stored, rest⟩ := bind_eq_ok.mp qualified
  obtain ⟨moduleName, named, same⟩ := bind_eq_ok.mp rest
  obtain rfl := Except.ok.inj same
  obtain ⟨later, storedLater, label_eq⟩ := keeps.documents id found (document_eq_ok.mp stored)
  obtain ⟨name_eq, _, container_eq⟩ := Document.label_eq_iff.mp label_eq
  rw [Workspace.qualifiedName, document_eq_ok.mpr storedLater]
  show (after.moduleName later.container >>= fun moduleName =>
    pure (QualifiedName.qualified moduleName later.name)) = _
  rw [container_eq, name_eq, keeps.moduleName named]
  rfl

/-- The first module with a name stays the first one; new modules come behind it. -/
theorem moduleNamed? (keeps : before.Keeps after) (found : before.moduleNamed? name = some id) :
    after.moduleNamed? name = some id := by
  rw [Workspace.moduleNamed?, head?_placesWhere] at found ⊢
  exact findIdx?_mono
    (fun place member stored => ⟨member, getElem?_of_isPrefix keeps.containers stored, rfl⟩) found

/-- The domain model of a module stays the first document that counts as one. -/
theorem domainModelOf? (keeps : before.Keeps after) {id : DocumentId}
    (found : before.domainModelOf? owner = some id) : after.domainModelOf? owner = some id := by
  rw [Workspace.domainModelOf?, head?_placesWhere] at found ⊢
  refine findIdx?_mono (fun place member stored => ?_) found
  obtain ⟨later, storedLater, label_eq⟩ := keeps.documents place member stored
  obtain ⟨_, kind_eq, container_eq⟩ := Document.label_eq_iff.mp label_eq
  exact ⟨later, storedLater, by rw [kind_eq, container_eq]⟩

end Keeps

/-! ## Keeping bodies -/

/-- A change of one document leaves all others as they are. -/
theorem getElem?_modifyDocument (workspace : Workspace) (id other : DocumentId)
    (change : Document → Document) :
    (workspace.modifyDocument id change).documents[other]? =
      (workspace.documents[other]?).map fun found => if id = other then change found else found :=
  List.getElem?_modify ..

/-- A body is read exactly where a document is stored that has it. -/
theorem body_eq_ok {workspace : Workspace} {id : DocumentId} {body : DocumentBody} :
    workspace.body id = .ok body ↔
      ∃ found, workspace.documents[id]? = some found ∧ found.body = some body := by
  rw [Workspace.body, bind_eq_ok]
  simp only [document_eq_ok]
  refine exists_congr fun found => and_congr_right fun _ => ?_
  cases found.body <;> simp [throw, throwThe, MonadExceptOf.throw, pure, Except.pure]

/-- A microflow is read exactly where a body is stored that is one. -/
theorem microflow_eq_ok {workspace : Workspace} {id : DocumentId} {content : Microflow} :
    workspace.microflow id = .ok content ↔ workspace.body id = .ok (.microflow content) := by
  rw [Workspace.microflow, bind_eq_ok]
  constructor
  · rintro ⟨body, stored, same⟩
    cases body with
    | microflow inner => exact Except.ok.inj same ▸ stored
    | _ => exact nomatch same
  · exact fun stored => ⟨_, stored, rfl⟩

namespace Within

/-- If bodies stay, labels do. -/
theorem keeps (within : before.Within after) : before.Keeps after where
  containers := within.containers
  documents := by
    intro id found stored
    obtain ⟨later, storedLater, isWithin⟩ := within.documents id found stored
    exact ⟨later, storedLater, isWithin.label_eq⟩

/-- A body that was there is there still. -/
theorem body (within : before.Within after) {id : DocumentId} {body : DocumentBody}
    (stored : before.body id = .ok body) : after.body id = .ok body := by
  obtain ⟨found, storedFound, bodyOf⟩ := body_eq_ok.mp stored
  obtain ⟨later, storedLater, isWithin⟩ := within.documents id found storedFound
  exact body_eq_ok.mpr ⟨later, storedLater, isWithin.body body bodyOf⟩

/-- A domain model that was there is there still. -/
theorem domainModel (within : before.Within after) {id : DocumentId} {content : DomainModel}
    (stored : before.domainModel id = .ok content) : after.domainModel id = .ok content := by
  obtain ⟨body, bodyOf, rest⟩ := bind_eq_ok.mp stored
  exact bind_eq_ok.mpr ⟨body, within.body bodyOf, rest⟩

/-- A microflow that was there is there still. -/
theorem microflow (within : before.Within after) {id : DocumentId} {content : Microflow}
    (stored : before.microflow id = .ok content) : after.microflow id = .ok content := by
  obtain ⟨body, bodyOf, rest⟩ := bind_eq_ok.mp stored
  exact bind_eq_ok.mpr ⟨body, within.body bodyOf, rest⟩

end Within

/-- Dropping bodies adds nothing. -/
theorem unloadAll_within (workspace : Workspace) : workspace.unloadAll.Within workspace where
  containers := List.prefix_rfl
  documents := by
    intro id found stored
    obtain ⟨document, storedDocument, rfl⟩ := Option.map_eq_some_iff.mp (List.getElem?_map ▸ stored)
    exact ⟨document, storedDocument, rfl, nofun⟩

/-- Dropping bodies leaves all labels. -/
theorem keeps_unloadAll (workspace : Workspace) : workspace.Keeps workspace.unloadAll where
  containers := List.prefix_rfl
  documents := by
    intro id found stored
    refine ⟨found.label, ?_, rfl⟩
    rw [unloadAll, List.getElem?_map, stored]
    rfl

/-- The entities of a selection are known exactly if the module and its domain model are there and
loaded; they stand in the order of the domain model. -/
theorem selectedEntities_eq_ok {workspace : Workspace} {selection : ModuleSelection}
    {targets : List ValidationTarget} :
    workspace.selectedEntities selection = .ok targets ↔
      ∃ owner id content, workspace.moduleNamed? selection.name = some owner ∧
        workspace.domainModelOf? owner = some id ∧ workspace.domainModel id = .ok content ∧
        targets = (content.entities.filter fun entity => selection.selects entity.name).map
          fun entity => ⟨owner, selection.name, entity⟩ := by
  rw [selectedEntities]
  cases workspace.moduleNamed? selection.name with
  | none => simp [throw, throwThe, MonadExceptOf.throw]
  | some owner =>
    cases domainModelOf : workspace.domainModelOf? owner with
    | none => simp [domainModelOf, throw, throwThe, MonadExceptOf.throw]
    | some id =>
      simp only [domainModelOf, bind_eq_ok, Option.some.injEq]
      constructor
      · rintro ⟨content, stored, collected⟩
        exact ⟨owner, id, content, rfl, domainModelOf, stored, (Except.ok.inj collected).symm⟩
      · rintro ⟨_, _, content, rfl, found, stored, rfl⟩
        obtain rfl := Option.some.inj (domainModelOf.symm.trans found)
        exact ⟨content, stored, rfl⟩

/-- The entities of a selection stay the same when documents are added or loaded. -/
theorem Within.selectedEntities (within : before.Within after) {selection : ModuleSelection}
    {targets : List ValidationTarget} (selected : before.selectedEntities selection = .ok targets) :
    after.selectedEntities selection = .ok targets := by
  obtain ⟨owner, id, content, named, found, stored, rfl⟩ := selectedEntities_eq_ok.mp selected
  exact selectedEntities_eq_ok.mpr ⟨owner, id, content, within.keeps.moduleNamed? named,
    within.keeps.domainModelOf? found, within.domainModel stored, rfl⟩

/-- The targets of a validation run stay the same when documents are added or loaded. -/
theorem Within.validationTargets (within : before.Within after) {settings : ValidationSettings}
    {targets : List ValidationTarget} (selected : before.validationTargets settings = .ok targets) :
    after.validationTargets settings = .ok targets := by
  obtain ⟨groups, chosen, collected⟩ := bind_eq_ok.mp selected
  have kept : settings.modules.mapM after.selectedEntities = .ok groups :=
    mapM_eq_ok.mpr ((mapM_eq_ok.mp chosen).imp fun _ _ selected => within.selectedEntities selected)
  exact bind_eq_ok.mpr ⟨groups, kept, collected⟩

/-- A target belongs to a selection, and its owner is the first module with the name of it. -/
theorem exists_selection_of_mem_validationTargets {workspace : Workspace}
    {settings : ValidationSettings} {targets : List ValidationTarget} {target : ValidationTarget}
    (selected : workspace.validationTargets settings = .ok targets) (member : target ∈ targets) :
    workspace.moduleNamed? target.moduleName = some target.owner ∧
      ∃ selection ∈ settings.modules, selection.name = target.moduleName := by
  obtain ⟨groups, chosen, collected⟩ := bind_eq_ok.mp selected
  obtain rfl := Except.ok.inj collected
  obtain ⟨group, inGroups, inGroup⟩ := List.mem_flatten.mp member
  obtain ⟨selection, listed, answered⟩ := exists_of_mem_mapM chosen inGroups
  obtain ⟨owner, id, content, named, _, _, rfl⟩ := selectedEntities_eq_ok.mp answered
  obtain ⟨entity, _, rfl⟩ := List.mem_map.mp inGroup
  exact ⟨named, selection, listed, rfl⟩

/-- The module of a target is the first one with the name that the selection gives. -/
theorem moduleNamed?_of_mem_validationTargets {workspace : Workspace} {settings : ValidationSettings}
    {targets : List ValidationTarget} {target : ValidationTarget}
    (selected : workspace.validationTargets settings = .ok targets) (member : target ∈ targets) :
    workspace.moduleNamed? target.moduleName = some target.owner :=
  (exists_selection_of_mem_validationTargets selected member).1

/-! ## Extensions -/

namespace Extends

/-- A workspace extends itself. -/
theorem refl (workspace : Workspace) : workspace.Extends workspace :=
  ⟨List.prefix_rfl, [], (List.append_nil _).symm, fun _ added => nomatch added⟩

/-- Extending is transitive, so it need be shown for one step only. -/
theorem trans (first : before.Extends middle) (second : middle.Extends after) :
    before.Extends after := by
  obtain ⟨added, grown, loaded⟩ := first.documents
  obtain ⟨added', grown', loaded'⟩ := second.documents
  refine ⟨first.containers.trans second.containers, added ++ added', ?_, ?_⟩
  · rw [grown', grown, List.append_assoc]
  · intro found member
    rcases List.mem_append.mp member with early | late
    · exact loaded found early
    · exact loaded' found late

/-- What is only added to keeps its bodies. -/
theorem within (extends? : before.Extends after) : before.Within after where
  containers := extends?.containers
  documents := by
    intro id found stored
    obtain ⟨added, grown, _⟩ := extends?.documents
    exact ⟨found, getElem?_of_isPrefix ⟨added, grown.symm⟩ stored, rfl, fun _ bodyOf => bodyOf⟩

/-- A document without a body was there before. -/
theorem missing (extends? : before.Extends after) {id : DocumentId} {found : Document}
    (stored : after.documents[id]? = some found) (unloaded : found.body = none) :
    before.documents[id]? = some found := by
  obtain ⟨added, grown, loaded⟩ := extends?.documents
  rw [grown] at stored
  by_cases inside : id < before.documents.length
  · rwa [List.getElem?_append_left inside] at stored
  · rw [List.getElem?_append_right (Nat.le_of_not_lt inside)] at stored
    have isLoaded := loaded found (List.mem_of_getElem? stored)
    simp [unloaded] at isLoaded

/-- A new container only adds. -/
theorem pushContainer (workspace : Workspace) (added : Container) :
    workspace.Extends (workspace.pushContainer added) :=
  ⟨List.prefix_append _ _, [], (List.append_nil _).symm, fun _ added => nomatch added⟩

/-- A new document only adds. -/
theorem pushDocument (workspace : Workspace) (holder : ContainerId) (body : DocumentBody) :
    workspace.Extends (workspace.pushDocument holder body) := by
  refine ⟨List.prefix_rfl, [.ofBody holder body], rfl, fun found member => ?_⟩
  rw [List.mem_singleton.mp member]
  rfl

end Extends

/-- A folder that is there is not created again. -/
theorem ensureFolder_of_present {parent : ContainerId}
    (present : before.childFolder? parent name = some id) :
    before.ensureFolder parent name = .ok (id, false, before) := by
  rw [ensureFolder, present]

/-- A folder that is not there is created as the last container. -/
theorem ensureFolder_of_absent {parent : ContainerId} {found : Container}
    (absent : before.childFolder? parent name = none)
    (stored : before.container parent = .ok found) :
    before.ensureFolder parent name =
      .ok (before.containers.length, true, before.pushContainer ⟨name, .folder, some parent⟩) := by
  rw [ensureFolder, absent, createFolder, stored]
  rfl

/-- In a container that is there a document is created as the last one. -/
theorem createDocument_of_stored {holder : ContainerId} {found : Container}
    (stored : before.container holder = .ok found) (body : DocumentBody) :
    before.createDocument holder body =
      .ok (before.documents.length, before.pushDocument holder body) := by
  rw [createDocument, stored]
  rfl

/-- A folder is either found or created. -/
theorem ensureFolder_cases {parent : ContainerId} {created : Bool}
    (made : before.ensureFolder parent name = .ok (id, created, after)) :
    created = false ∧ after = before ∨
      created = true ∧ before.createFolder parent name = .ok (id, after) := by
  rw [ensureFolder] at made
  cases present : before.childFolder? parent name with
  | some found =>
    rw [present] at made
    obtain ⟨rfl, rfl, rfl⟩ : found = id ∧ false = created ∧ before = after := by simpa using made
    exact Or.inl ⟨rfl, rfl⟩
  | none =>
    rw [present] at made
    obtain ⟨⟨folder, workspace⟩, done, same⟩ := bind_eq_ok.mp made
    obtain ⟨rfl, rfl, rfl⟩ : folder = id ∧ true = created ∧ workspace = after := by
      simpa [pure, Except.pure] using same
    exact Or.inr ⟨rfl, done⟩

/-- An extension that is well-formed. -/
structure Grows (before after : Workspace) : Prop where
  isExtension : before.Extends after
  wellFormed : after.WellFormed

namespace Grows

/-- A well-formed workspace has grown from itself by nothing. -/
theorem refl (wellFormed : before.WellFormed) : before.Grows before := ⟨.refl before, wellFormed⟩

/-- Growing is transitive, so it need be shown for one step only. -/
theorem trans (first : before.Grows middle) (second : middle.Grows after) : before.Grows after :=
  ⟨first.isExtension.trans second.isExtension, second.wellFormed⟩

/-- What has grown has evolved: no body has been dropped. -/
theorem evolves (grows : before.Grows after) : before.Evolves after :=
  ⟨grows.isExtension.within.keeps, grows.wellFormed, fun _ found stored unloaded =>
    ⟨found, grows.isExtension.missing stored unloaded, unloaded⟩⟩

/-- No container is lost by growing. -/
theorem length_le (grows : before.Grows after) :
    before.containers.length ≤ after.containers.length :=
  grows.isExtension.containers.length_le

/-- A container whose kind and parent fit the next id makes a workspace grow. -/
theorem pushContainer (wellFormed : before.WellFormed) {added : Container}
    (placed : added.Placed before.containers.length) :
    before.Grows (before.pushContainer added) :=
  ⟨.pushContainer before added, wellFormed.pushContainer placed⟩

/-- A document in a container that is there makes a workspace grow. -/
theorem pushDocument (wellFormed : before.WellFormed) {holder : ContainerId}
    (inside : holder < before.containers.length) (body : DocumentBody) :
    before.Grows (before.pushDocument holder body) :=
  ⟨.pushDocument before holder body, wellFormed.pushDocument inside body⟩

/-- A folder is only created in a container that is there, so the workspace grows by it. -/
theorem createFolder (wellFormed : before.WellFormed) {parent : ContainerId}
    (made : before.createFolder parent name = .ok (id, after)) : before.Grows after := by
  obtain ⟨found, stored, same⟩ := bind_eq_ok.mp made
  obtain ⟨_, rfl⟩ := Prod.mk.inj (Except.ok.inj same)
  have inside := lt_of_getElem?_eq_some (container_eq_ok.mp stored)
  exact pushContainer wellFormed (.folder inside)

/-- Whether a folder is found or created, the workspace grows. -/
theorem ensureFolder (wellFormed : before.WellFormed) {parent : ContainerId} {created : Bool}
    (made : before.ensureFolder parent name = .ok (id, created, after)) : before.Grows after := by
  obtain ⟨_, rfl⟩ | ⟨_, done⟩ := ensureFolder_cases made
  · exact refl wellFormed
  · exact createFolder wellFormed done

/-- A document is only created in a container that is there, so the workspace grows by it. -/
theorem createDocument (wellFormed : before.WellFormed) {holder : ContainerId}
    {body : DocumentBody} {id : DocumentId}
    (made : before.createDocument holder body = .ok (id, after)) : before.Grows after := by
  obtain ⟨found, stored, same⟩ := bind_eq_ok.mp made
  obtain ⟨_, rfl⟩ := Prod.mk.inj (Except.ok.inj same)
  exact pushDocument wellFormed (lt_of_getElem?_eq_some (container_eq_ok.mp stored)) body

/-- Several documents in one container make a workspace grow. -/
theorem pushDocuments (wellFormed : before.WellFormed) {holder : ContainerId}
    (inside : holder < before.containers.length) (bodies : List DocumentBody) :
    before.Grows (before.pushDocuments holder bodies) := by
  induction bodies generalizing before with
  | nil => exact refl wellFormed
  | cons body later inductionHypothesis =>
    have first := pushDocument wellFormed inside body
    exact first.trans (inductionHypothesis first.wellFormed inside)

/-- Folders are appended after the container they lie in. The induction follows the folders
into the workspace that their predecessors have left. -/
theorem pushFolders :
    (∀ (before : Workspace) parent folder, before.WellFormed →
      parent < before.containers.length → before.Grows (before.pushFolder parent folder)) ∧
    (∀ (before : Workspace) parent folders, before.WellFormed →
      parent < before.containers.length → before.Grows (before.pushFolders parent folders)) := by
  apply Workspace.pushFolder.mutual_induct
  · intro before parent name folders documents inner wellFormed inside
    rw [Workspace.pushFolder]
    have entered : before.Grows (before.pushContainer ⟨name, .folder, some parent⟩) :=
      pushContainer wellFormed (.folder inside)
    have created : before.containers.length <
        (before.pushContainer ⟨name, .folder, some parent⟩).containers.length := by
      simp [Workspace.pushContainer]
    have filled := pushDocuments entered.wellFormed created documents
    have stays := Nat.lt_of_lt_of_le created filled.length_le
    exact (entered.trans filled).trans (inner filled.wellFormed stays)
  · intro before parent wellFormed inside
    rw [Workspace.pushFolders]
    exact refl wellFormed
  · intro before parent folder folders first rest wellFormed inside
    rw [Workspace.pushFolders]
    have entered := first wellFormed inside
    exact entered.trans (rest entered.wellFormed (Nat.lt_of_lt_of_le inside entered.length_le))

/-- A module makes a workspace grow by itself, its domain model, its documents and all of its
folders. -/
theorem pushModule (wellFormed : before.WellFormed) (added : Module) :
    before.Grows (before.pushModule added) := by
  have entered : before.Grows (before.pushContainer ⟨added.name, .module, none⟩) :=
    pushContainer wellFormed .module
  have created : before.containers.length <
      (before.pushContainer ⟨added.name, .module, none⟩).containers.length := by
    simp [Workspace.pushContainer]
  have modelled := pushDocument entered.wellFormed created (.domainModel added.domainModel)
  have filled := pushDocuments modelled.wellFormed created added.documents
  have stays := Nat.lt_of_lt_of_le created filled.length_le
  have folded := pushFolders.2 _ _ added.folders filled.wellFormed stays
  exact ((entered.trans modelled).trans filled).trans folded

end Grows

/-! ## Checking out a project -/

/-- Without containers and documents there is nothing to agree. -/
theorem wellFormed_empty : empty.WellFormed where
  placed := by simp [empty]
  holder_lt := by simp [empty]
  coherent := by simp [empty]

/-- A checkout starts from nothing and only adds, module after module. -/
theorem grows_ofProject (project : Project) : empty.Grows (ofProject project) := by
  have from? : ∀ (modules : List Module) (before : Workspace), before.WellFormed →
      before.Grows (modules.foldl Workspace.pushModule before) := by
    intro modules
    induction modules with
    | nil => exact fun before wellFormed => .refl wellFormed
    | cons added later inductionHypothesis =>
      intro before wellFormed
      have first := Grows.pushModule wellFormed added
      exact first.trans (inductionHypothesis _ first.wellFormed)
  exact from? project.modules empty wellFormed_empty

/-- What is checked out is well-formed. -/
theorem wellFormed_ofProject (project : Project) : (ofProject project).WellFormed :=
  (grows_ofProject project).wellFormed

/-- What is checked out has all its bodies. -/
theorem allLoaded_ofProject (project : Project) : (ofProject project).AllLoaded := by
  intro id found stored
  cases bodyOf : found.body with
  | some body => rfl
  | none => exact nomatch (grows_ofProject project).isExtension.missing stored bodyOf

end Workspace

end FlowModel
