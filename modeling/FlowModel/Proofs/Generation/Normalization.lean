import FlowModel.Proofs.Drawing.PageLoggingPlan
import FlowModel.Proofs.Drawing.ValidationPlan
import FlowModel.Proofs.Generation.Edits
import FlowModel.Proofs.Workspace.Addresses
import FlowModel.Proofs.Workspace.Contents

/-!
# Recoloring a workspace

Recoloring puts the colors right in every microflow of the selected modules, counts what it has put
right, and changes nothing else (`run_recolorMicroflows`). Done again it finds nothing to do, and it
finds nothing to do in the microflows that the generators draw (`recoloring_normalizes`).
-/

namespace FlowModel

namespace Document

/-- How many activities have another color than that of their action. There are none in a document
that holds no microflow. -/
def miscolored (document : Document) : Nat :=
  match document.body with
  | some (.microflow content) => content.miscolored
  | _ => 0

/-- The document with the color of its action on every activity. -/
def recolored (document : Document) : Document :=
  match document.body with
  | some (.microflow content) => { document with body := some (.microflow content.recolored) }
  | _ => document

/-- A document with the same label whose microflow is a normal form of the one before. -/
structure Normalizes (before after : Document) : Prop where
  label_eq : after.label = before.label
  content : ∀ content, before.body = some (.microflow content) →
    ∃ later, after.body = some (.microflow later) ∧ content.Normalizes later

variable {document : Document} {content : Microflow}

/-- In a document with a microflow the wrong colors of the microflow are counted. -/
theorem miscolored_of_loaded (loaded : document.body = some (.microflow content)) :
    document.miscolored = content.miscolored := by
  rw [miscolored, loaded]

/-- A document with a microflow keeps its label and gets a recolored body. -/
theorem recolored_of_loaded (loaded : document.body = some (.microflow content)) :
    document.recolored = { document with body := some (.microflow content.recolored) } := by
  rw [recolored, loaded]

/-- A recolored document is a normal form of the one before. -/
theorem normalizes_recolored (loaded : document.body = some (.microflow content)) :
    document.Normalizes document.recolored := by
  rw [recolored_of_loaded loaded]
  refine ⟨rfl, fun content' loaded' => ?_⟩
  obtain rfl := DocumentBody.microflow.inj (Option.some.inj (loaded.symm.trans loaded'))
  exact ⟨content.recolored, rfl, content.normalizes_recolored⟩

/-- Recoloring changes no label, so nothing that is looked up by name is affected. -/
theorem label_recolored (document : Document) : document.recolored.label = document.label := by
  rw [recolored]
  split <;> rfl

/-- A recolored document has no wrong color left, whatever its body is. -/
theorem miscolored_recolored (document : Document) : document.recolored.miscolored = 0 := by
  rw [recolored]
  split
  next content _ => exact content.miscolored_recolored
  next other => rw [miscolored]; split <;> simp_all

/-- A document without wrong colors is left as it is. -/
theorem recolored_eq_self (right : document.miscolored = 0) : document.recolored = document := by
  rw [recolored]
  split
  next content loaded =>
    rw [miscolored_of_loaded loaded] at right
    rw [Microflow.recolored_eq_self right, ← loaded]
  next => rfl

end Document

/-- The places of some members are those among the places of more members where they are. -/
theorem filter_placesWhere {α : Type} {holds further : α → Bool} {members : List α}
    (implies : ∀ member, further member = true → holds member = true) :
    (placesWhere holds members).filter (fun place => (members[place]?).any further) =
      placesWhere further members := by
  rw [placesWhere, placesWhere, List.filter_map, List.filter_filter]
  refine congrArg _ (List.filter_congr fun found member => ?_)
  have stored := List.mem_zipIdx_iff_getElem?.mp member
  show ((members[found.2]?).any further && holds found.1) = further found.1
  rw [stored, Option.any_some]
  cases isFurther : further found.1 with
  | true => rw [implies _ isFurther, Bool.and_self]
  | false => rw [Bool.false_and]

namespace Workspace

/-- Whether a document is a microflow in a selected module. -/
def recolors (workspace : Workspace) (modules : List String) (document : Document) : Bool :=
  document.kind == .microflow &&
    match workspace.moduleName document.container with
    | .ok name => selectsModule modules name
    | .error _ => false

/-- The documents that are to be recolored hold microflows. -/
def HoldsMicroflows (workspace : Workspace) (modules : List String) : Prop :=
  ∀ found ∈ workspace.documents, workspace.recolors modules found = true →
    ∃ content, found.body = some (.microflow content)

/-- How many activities of microflows in selected modules have another color than that of their
action. -/
def miscolored (workspace : Workspace) (modules : List String) : Nat :=
  ((workspace.documents.filter (workspace.recolors modules)).map Document.miscolored).sum

/-- The workspace with the color of its action on every activity in selected modules. -/
def recolored (workspace : Workspace) (modules : List String) : Workspace :=
  { workspace with documents := workspace.documents.map fun found =>
      if workspace.recolors modules found then found.recolored else found }

/-- A workspace is another one with the colors in selected modules put right. Microflows in these
modules are normal forms of what they were, and all else is the same. -/
structure Normalizes (modules : List String) (before after : Workspace) : Prop where
  containers : after.containers = before.containers
  documents : List.Forall₂ (fun found later =>
    (before.recolors modules found = true → found.Normalizes later) ∧
      (before.recolors modules found = false → later = found)) before.documents after.documents
  right : after.miscolored modules = 0

variable {workspace : Workspace} {modules : List String} {id : DocumentId}

/-! ## What is recolored -/

/-- In a rooted workspace a choice of microflows by modules succeeds, and what it chooses can be
told from each document alone. -/
theorem inModules_eq (rooted : workspace.Rooted) {ids : List DocumentId}
    (microflows : ∀ id ∈ ids, ∃ found, workspace.documents[id]? = some found ∧
      found.kind = .microflow) :
    workspace.inModules modules ids =
      .ok (ids.filter fun id => (workspace.documents[id]?).any (workspace.recolors modules)) := by
  induction ids with
  | nil => rfl
  | cons id ids inductionHypothesis =>
    obtain ⟨found, stored, isMicroflow⟩ := microflows id List.mem_cons_self
    obtain ⟨name, named⟩ := rooted.moduleName_of_lt (rooted.holder_lt stored)
    have later := inductionHypothesis fun other member =>
      microflows other (List.mem_cons_of_mem _ member)
    have chosen : workspace.recolors modules found = selectsModule modules name := by
      simp [recolors, isMicroflow, named]
    refine bind_eq_ok.mpr ⟨found, document_eq_ok.mpr stored, bind_eq_ok.mpr ⟨name, named,
      bind_eq_ok.mpr ⟨_, later, congrArg Except.ok ?_⟩⟩⟩
    rw [List.filter_cons, stored, Option.any_some, chosen]

/-- The selected microflows are the documents that are to be recolored, in order. -/
theorem selectedMicroflows_eq (rooted : workspace.Rooted) (modules : List String) :
    workspace.selectedMicroflows modules =
      .ok (placesWhere (workspace.recolors modules) workspace.documents) := by
  rw [selectedMicroflows, inModules_eq rooted fun id member => mem_documentsOfKind.mp member]
  refine congrArg Except.ok (filter_placesWhere fun found recolors => ?_)
  exact (Bool.and_eq_true_iff.mp recolors).1

/-- Recoloring a workspace changes bodies only. -/
theorem unloadAll_recolored (workspace : Workspace) (modules : List String) :
    (workspace.recolored modules).unloadAll = workspace.unloadAll := by
  refine (Workspace.mk.injEq ..).mpr ⟨rfl, ?_⟩
  rw [recolored, List.map_map]
  refine List.map_congr_left fun found _ => ?_
  rw [Function.comp_apply]
  split
  · exact found.label_recolored
  · rfl

/-- What is recolored does not depend on colors. -/
theorem recolors_recolored (found : Document) :
    (workspace.recolored modules).recolors modules found = workspace.recolors modules found := by
  have named := (readsLabels_moduleName found.container).alike
    (workspace.unloadAll_recolored modules)
  rw [recolors, recolors, named]

/-- What is recolored afterwards has been recolored already. -/
theorem exists_origin_of_recolors {later : Document}
    (member : later ∈ (workspace.recolored modules).documents)
    (recolors : (workspace.recolored modules).recolors modules later = true) :
    ∃ found ∈ workspace.documents, workspace.recolors modules found = true ∧
      later = found.recolored := by
  rw [recolors_recolored] at recolors
  obtain ⟨found, inside, rfl⟩ := List.mem_map.mp member
  by_cases selected : workspace.recolors modules found = true
  · rw [if_pos selected]
    exact ⟨found, inside, selected, rfl⟩
  · rw [if_neg selected] at recolors
    exact absurd recolors selected

/-- Microflows that are there remain there. -/
theorem HoldsMicroflows.recolored (loaded : workspace.HoldsMicroflows modules) :
    (workspace.recolored modules).HoldsMicroflows modules := by
  intro later member selected
  obtain ⟨found, inside, chosen, rfl⟩ := exists_origin_of_recolors member selected
  obtain ⟨content, isLoaded⟩ := loaded found inside chosen
  exact ⟨content.recolored, by rw [Document.recolored_of_loaded isLoaded]⟩

/-- After recoloring, the selected modules have no wrong color. Others may have. -/
theorem miscolored_recolored (workspace : Workspace) (modules : List String) :
    (workspace.recolored modules).miscolored modules = 0 := by
  refine List.sum_eq_zero fun count member => ?_
  obtain ⟨later, chosen, rfl⟩ := List.mem_map.mp member
  obtain ⟨inside, recolors⟩ := List.mem_filter.mp chosen
  obtain ⟨found, _, _, rfl⟩ := exists_origin_of_recolors inside recolors
  exact found.miscolored_recolored

/-- Recoloring a workspace whose selected modules have no wrong color does nothing. -/
theorem recolored_eq_self (right : workspace.miscolored modules = 0) :
    workspace.recolored modules = workspace := by
  have documents : (workspace.recolored modules).documents = workspace.documents := by
    refine (List.map_congr_left fun found member => ?_).trans (List.map_id _)
    rw [id_eq]
    split
    next selected =>
      refine Document.recolored_eq_self (List.sum_eq_zero_iff.mp right _ ?_)
      exact List.mem_map_of_mem (List.mem_filter.mpr ⟨member, selected⟩)
    next => rfl
  exact (Workspace.mk.injEq ..).mpr ⟨rfl, documents⟩

/-- Recoloring normalizes the selected modules: their microflows get their normal forms, and all
other documents stay as they were. -/
theorem normalizes_recolored
    (loaded : workspace.HoldsMicroflows modules) :
    Normalizes modules workspace (workspace.recolored modules) where
  containers := rfl
  documents := by
    refine List.forall₂_map_right_iff.mpr (List.forall₂_same.mpr fun found member => ⟨?_, ?_⟩)
    · intro selected
      obtain ⟨content, isLoaded⟩ := loaded found member selected
      rw [if_pos selected]
      exact Document.normalizes_recolored isLoaded
    · intro spared
      rw [spared]
      rfl
  right := workspace.miscolored_recolored modules

end Workspace

/-! ## Recoloring one by one -/

namespace Generation

open Workspace

variable {workspace : Workspace}

/-- How many activities of the documents with some ids have another color than that of their
action. -/
def miscoloredAt (workspace : Workspace) (ids : List DocumentId) : Nat :=
  (ids.map fun id => ((workspace.documents[id]?).map Document.miscolored).getD 0).sum

/-- The workspace after the documents with some ids are recolored. -/
def recoloredAt (workspace : Workspace) (ids : List DocumentId) : Workspace :=
  ids.foldl (fun between id => between.modifyDocument id Document.recolored) workspace

/-- Replacing a microflow by itself with the right colors recolors its document. -/
theorem replaceMicroflow_recolored {id : DocumentId} {found : Document} {content : Microflow}
    (stored : workspace.documents[id]? = some found)
    (loaded : found.body = some (.microflow content)) :
    workspace.replaceMicroflow id content.recolored =
      workspace.modifyDocument id Document.recolored := by
  refine (Workspace.mk.injEq ..).mpr ⟨rfl, List.ext_getElem? fun other => ?_⟩
  have byReplacing := getElem?_modifyDocument workspace id other fun found =>
    { found with body := some (.microflow content.recolored) }
  refine byReplacing.trans ((getElem?_modifyDocument workspace id other _).trans ?_).symm
  by_cases same : id = other
  · subst same
    rw [stored, Option.map_some, Option.map_some, if_pos rfl, if_pos rfl,
      Document.recolored_of_loaded loaded]
  · simp only [if_neg same]

/-- Recoloring a microflow changes its document only, and counts what was wrong in it. The name that
is looked up after a change is there, because every document of a rooted workspace has one. -/
theorem run_recolorMicroflow (rooted : workspace.Rooted) {id : DocumentId} {found : Document}
    {content : Microflow} (stored : workspace.documents[id]? = some found)
    (loaded : found.body = some (.microflow content)) (report : Report) :
    (recolorMicroflow id).run ⟨workspace, report⟩ =
      .ok ⟨⟩ ⟨workspace.modifyDocument id Document.recolored,
        { report with recolored := report.recolored + found.miscolored }⟩ := by
  have read : workspace.microflow id = .ok content :=
    microflow_eq_ok.mpr (body_eq_ok.mpr ⟨found, stored, loaded⟩)
  obtain ⟨qualified, named⟩ := rooted.qualifiedName_of_lt (lt_of_getElem?_eq_some stored)
  have stillNamed : (workspace.replaceMicroflow id content.recolored).qualifiedName id =
      .ok qualified :=
    ((readsLabels_qualifiedName id).alike (unloadAll_replaceMicroflow ..)).trans named
  rw [recolorMicroflow, run_ask_bind_of_ok read, EStateM.run_bind, EStateM.run_modify,
    Document.miscolored_of_loaded loaded, ← replaceMicroflow_recolored stored loaded]
  by_cases wrong : 0 < content.miscolored
  · rw [if_pos wrong]
    exact run_ask_bind_of_ok stillNamed
  · rw [if_neg wrong, Nat.eq_zero_of_not_pos wrong]
    rfl

/-- What is recolored later is still as it was, because no document comes twice. -/
theorem run_recolorAll (rooted : workspace.Rooted) {ids : List DocumentId} (distinct : ids.Nodup)
    (loaded : ∀ id ∈ ids, ∃ found content, workspace.documents[id]? = some found ∧
      found.body = some (.microflow content)) (report : Report) :
    (ids.forM recolorMicroflow).run ⟨workspace, report⟩ =
      .ok ⟨⟩ ⟨recoloredAt workspace ids,
        { report with recolored := report.recolored + miscoloredAt workspace ids }⟩ := by
  induction ids generalizing workspace report with
  | nil => rfl
  | cons id ids inductionHypothesis =>
    obtain ⟨fresh, distinctLater⟩ := List.nodup_cons.mp distinct
    obtain ⟨found, content, stored, isLoaded⟩ := loaded id List.mem_cons_self
    have untouched : ∀ other ∈ ids,
        (workspace.modifyDocument id Document.recolored).documents[other]? =
          workspace.documents[other]? := by
      intro other member
      have different : id ≠ other := fun same => fresh (same ▸ member)
      simp [getElem?_modifyDocument, different]
    have stillRooted : (workspace.modifyDocument id Document.recolored).Rooted := by
      rw [← replaceMicroflow_recolored stored isLoaded]
      exact rooted.of_unloadAll_eq (unloadAll_replaceMicroflow ..)
    have stillLoaded : ∀ other ∈ ids, ∃ found content,
        (workspace.modifyDocument id Document.recolored).documents[other]? = some found ∧
          found.body = some (.microflow content) := by
      intro other member
      rw [untouched other member]
      exact loaded other (List.mem_cons_of_mem _ member)
    have sameCount : miscoloredAt (workspace.modifyDocument id Document.recolored) ids =
        miscoloredAt workspace ids := by
      refine congrArg List.sum (List.map_congr_left fun other member => ?_)
      rw [untouched other member]
    have total : miscoloredAt workspace (id :: ids) =
        found.miscolored + miscoloredAt workspace ids := by
      simp [miscoloredAt, stored]
    show (recolorMicroflow id >>= fun _ => ids.forM recolorMicroflow).run _ = _
    rw [EStateM.run_bind, run_recolorMicroflow rooted stored isLoaded]
    refine (inductionHypothesis stillRooted distinctLater stillLoaded _).trans ?_
    rw [sameCount, total, Nat.add_assoc]
    rfl

/-- Recoloring one document after another recolors each of the list and no other. The ids are
distinct, as each is recolored once. -/
theorem getElem?_recoloredAt {ids : List DocumentId} (distinct : ids.Nodup) (other : DocumentId) :
    (recoloredAt workspace ids).documents[other]? =
      (workspace.documents[other]?).map fun found =>
        if other ∈ ids then found.recolored else found := by
  induction ids generalizing workspace with
  | nil => simp [recoloredAt]
  | cons id ids inductionHypothesis =>
    obtain ⟨fresh, distinctLater⟩ := List.nodup_cons.mp distinct
    refine (inductionHypothesis distinctLater).trans ?_
    rw [getElem?_modifyDocument, Option.map_map]
    refine congrArg (fun change => Option.map change _) (funext fun found => ?_)
    by_cases same : id = other
    · subst same
      simp [fresh]
    · have different : other ≠ id := fun other_eq => same other_eq.symm
      simp [same, different]

/-- Recoloring touches no container. -/
theorem containers_recoloredAt (workspace : Workspace) (ids : List DocumentId) :
    (recoloredAt workspace ids).containers = workspace.containers := by
  induction ids generalizing workspace with
  | nil => rfl
  | cons id ids inductionHypothesis => exact inductionHypothesis _

/-- Recoloring the documents at the places where a condition holds recolors those for which it
holds. -/
theorem recoloredAt_placesWhere (chosen : Document → Bool) :
    recoloredAt workspace (placesWhere chosen workspace.documents) =
      { workspace with
        documents := workspace.documents.map fun found =>
          if chosen found then found.recolored else found } := by
  refine (Workspace.mk.injEq ..).mpr ⟨containers_recoloredAt .., List.ext_getElem? fun id => ?_⟩
  refine (getElem?_recoloredAt (nodup_placesWhere ..) id).trans ?_
  rw [List.getElem?_map]
  cases stored : workspace.documents[id]? with
  | none => rfl
  | some found => simp [mem_placesWhere, stored]

/-- Counting at the places where a condition holds counts in the documents for which it holds. -/
theorem miscoloredAt_placesWhere (chosen : Document → Bool) :
    miscoloredAt workspace (placesWhere chosen workspace.documents) =
      ((workspace.documents.filter chosen).map Document.miscolored).sum := by
  have counted : miscoloredAt workspace (placesWhere chosen workspace.documents) =
      (((placesWhere chosen workspace.documents).map fun id => workspace.documents[id]?).map
        fun found? => (found?.map Document.miscolored).getD 0).sum := by
    rw [List.map_map]
    rfl
  rw [counted, map_getElem?_placesWhere, List.map_map]
  rfl

/-- Recoloring is done when the selected microflows are loaded. It recolors exactly these, and counts
exactly the activities whose colors were wrong. -/
theorem run_recolorMicroflows (rooted : workspace.Rooted) {settings : RecolorSettings}
    (loaded : workspace.HoldsMicroflows settings.modules) (report : Report) :
    (recolorMicroflows settings).run ⟨workspace, report⟩ =
      .ok ⟨⟩ ⟨workspace.recolored settings.modules,
        { report with recolored := report.recolored + workspace.miscolored settings.modules }⟩ := by
  have loadedAt : ∀ id ∈ placesWhere (workspace.recolors settings.modules) workspace.documents,
      ∃ found content, workspace.documents[id]? = some found ∧
        found.body = some (.microflow content) := by
    intro id member
    obtain ⟨found, stored, selected⟩ := mem_placesWhere.mp member
    obtain ⟨content, isLoaded⟩ := loaded found (List.mem_of_getElem? stored) selected
    exact ⟨found, content, stored, isLoaded⟩
  rw [recolorMicroflows, run_ask_bind_of_ok (selectedMicroflows_eq rooted settings.modules),
    run_recolorAll rooted (nodup_placesWhere ..) loadedAt, recoloredAt_placesWhere,
    miscoloredAt_placesWhere]
  rfl

end Generation

/-! ## Drawn microflows -/

open Draft

/-- An activity is drawn in the color of its action. -/
theorem isMiscolored_nodeAt_perform (id : NodeId) (position : Position) (action : Action) :
    (nodeAt id position (.perform action)).isMiscolored = false := by
  simp [nodeAt, Node.isMiscolored, NodeKind.perform]

/-- Logging microflows are drawn in their normal form. -/
theorem miscolored_pageLoggingPlan (page : String) (entity? : Option String)
    (settings : PageLoggingSettings) : (pageLoggingPlan page entity? settings).miscolored = 0 := by
  have parameters : (pageParameters entity?).countP Node.isMiscolored = 0 := by
    cases entity? <;> rfl
  have line (argument : Option String) (first : NodeId) :
      (pageLoggingLine page argument settings first).countP Node.isMiscolored = 0 := by
    simp only [pageLoggingLine, List.countP_cons, isMiscolored_nodeAt_perform]
    rfl
  rw [Microflow.miscolored, pageLoggingPlan_nodes, List.countP_append, parameters, line]

/-- The diamonds of checks are drawn in the colors of their actions. -/
theorem miscolored_chainNodes (entity : String) (settings : ValidationSettings) (id : NodeId)
    (attributes : List Attribute) :
    (chainNodes entity settings id attributes).countP Node.isMiscolored = 0 := by
  induction attributes generalizing id with
  | nil => rfl
  | cons checked later inductionHypothesis =>
    rw [chainNodes, List.countP_append, inductionHypothesis, checkNodes_eq]
    simp only [List.countP_cons, checkInvalidation, checkFeedback, isMiscolored_nodeAt_perform]
    rfl

/-- Validation microflows are drawn in their normal form. -/
theorem miscolored_validationPlan (entity : Entity) (moduleName : String)
    (settings : ValidationSettings) : (validationPlan entity moduleName settings).miscolored = 0 := by
  have head : (validationHead entity.name moduleName settings).countP Node.isMiscolored = 0 := by
    simp only [validationHead, List.countP_cons, isMiscolored_nodeAt_perform]
    rfl
  show (validationHead entity.name moduleName settings ++ chainNodes _ settings 3 _ ++ _).countP
    Node.isMiscolored = 0
  rw [List.countP_append, List.countP_append, head, miscolored_chainNodes]
  rfl

/-! ## Normal forms -/

namespace Workspace

variable {workspace : Workspace}

/-- Recoloring a workspace whose selected microflows are loaded is done. It counts exactly the
activities whose colors were wrong, puts them right and changes nothing else. Done again, it changes
nothing and counts nothing, and neither validation microflows nor logging microflows need it. -/
theorem recoloring_normalizes (reachable : workspace.Reachable) (settings : RecolorSettings)
    (loaded : workspace.HoldsMicroflows settings.modules) (kind : RunKind) :
    (∃ after, (Generation.recolorMicroflows settings).run ⟨workspace, .empty kind⟩ =
        .ok ⟨⟩ ⟨after,
          { Report.empty kind with recolored := workspace.miscolored settings.modules }⟩ ∧
      Normalizes settings.modules workspace after ∧
      ∀ report, (Generation.recolorMicroflows settings).run ⟨after, report⟩ =
        .ok ⟨⟩ ⟨after, report⟩) ∧
    (∀ entity moduleName validation content leftOut,
      validationMicroflow? entity moduleName validation = some (content, leftOut) →
        content.miscolored = 0 ∧ content.recolored = content) ∧
    ∀ page entity? logging content,
      pageLoggingMicroflow? page entity? logging = some content →
        content.miscolored = 0 ∧ content.recolored = content := by
  have rooted := reachable.rooted
  have done := Generation.run_recolorMicroflows rooted loaded (.empty kind)
  have rootedAfter := rooted.of_unloadAll_eq (workspace.unloadAll_recolored settings.modules)
  have right := workspace.miscolored_recolored settings.modules
  refine ⟨⟨workspace.recolored settings.modules, ?_, normalizes_recolored loaded, ?_⟩, ?_, ?_⟩
  · simpa only [Report.empty, Nat.zero_add] using done
  · intro report
    rw [Generation.run_recolorMicroflows rootedAfter loaded.recolored, recolored_eq_self right, right]
    rfl
  · intro entity moduleName validation content leftOut drawn
    obtain ⟨_, rfl, _⟩ := validationMicroflow?_eq_some.mp drawn
    have right := miscolored_validationPlan entity moduleName validation
    exact ⟨right, Microflow.recolored_eq_self right⟩
  · intro page entity? logging content drawn
    obtain rfl := Option.some.inj ((pageLoggingMicroflow?_eq page entity? logging).symm.trans drawn)
    have right := miscolored_pageLoggingPlan page entity? logging
    exact ⟨right, Microflow.recolored_eq_self right⟩

/-- A module whose microflows are recolored, with a log message that is not gray, and a module whose
microflow is as wrong and stays so. -/
def miscoloredSample : Project :=
  let wrong (name : String) : DocumentBody :=
    .microflow ((Microflow.empty name .void).extended [nodeAt 0 .origin .startEvent,
      nodeAt 1 .origin (.activity (.logMessage .info "Node" "Done" []) .red),
      nodeAt 2 .origin (.perform (.delete "Order"))] [])
  ⟨[⟨"Sales", ⟨[]⟩, [⟨"Flows", [], [wrong "Log"]⟩], [.microflow (.empty "Check" .void)]⟩,
    ⟨"Other", ⟨[]⟩, [], [wrong "Log"]⟩]⟩

/-- Whatever is checked out is loaded. -/
theorem holdsMicroflows_ofProject (project : Project) (modules : List String) :
    (ofProject project).HoldsMicroflows modules := by
  intro found member recolors
  obtain ⟨id, stored⟩ := List.mem_iff_getElem?.mp member
  have isMicroflow : found.kind = .microflow := by
    simpa using (Bool.and_eq_true_iff.mp recolors).1
  have ofKind := mem_documentsOfKind.mpr ⟨found, stored, isMicroflow⟩
  have loaded := isLoaded_iff.mpr ⟨found, stored, allLoaded_ofProject project id found stored⟩
  obtain ⟨content, read⟩ := (wellFormed_ofProject project).exists_microflow ofKind loaded
  obtain ⟨found', stored', isThere⟩ := body_eq_ok.mp (microflow_eq_ok.mp read)
  obtain rfl := Option.some.inj (stored.symm.trans stored')
  exact ⟨content, isThere⟩

/-- One wrong color in a selected module is put right and counted; the one in the other module
stays. -/
theorem recoloring_normalizes_sample :
    (ofProject miscoloredSample).miscolored ["Sales"] = 1 ∧
      (ofProject miscoloredSample).miscolored ["Sales", "Other"] = 2 ∧
      ∃ after, (Generation.recolorMicroflows ⟨["Sales"]⟩).run
          ⟨ofProject miscoloredSample, .empty .recolor⟩ =
          .ok ⟨⟩ ⟨after, { Report.empty .recolor with recolored := 1 }⟩ ∧
        Normalizes ["Sales"] (ofProject miscoloredSample) after := by
  have count : (ofProject miscoloredSample).miscolored ["Sales"] = 1 := by decide
  obtain ⟨⟨after, done, normalizes, _⟩, _⟩ := recoloring_normalizes
    (reachable_ofProject miscoloredSample) ⟨["Sales"]⟩
    (holdsMicroflows_ofProject miscoloredSample _) .recolor
  rw [count] at done
  exact ⟨count, by decide, after, done, normalizes⟩

end Workspace

end FlowModel
