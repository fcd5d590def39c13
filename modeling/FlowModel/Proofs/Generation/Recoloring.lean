import FlowModel.Generation.NamingAudit
import FlowModel.Proofs.Generation.Steps
import FlowModel.Proofs.Microflow.Coloring
import FlowModel.Proofs.Workspace.Labels

/-!
# Recoloring and auditing

Recoloring repaints the selected microflows and leaves all else as it is: containers, labels,
and every other body. When the bodies of the selected microflows are there, it does not fail, and no
activity of them has a wrong color in the end (`recolorMicroflows_ends`). An audit changes
nothing, and its report tells of no change (`auditNaming_ends`).
-/

namespace FlowModel

/-- A document as it was, or with the colors of its microflow put right. -/
inductive Document.Repaints : Document → Document → Prop where
  | same (found : Document) : Repaints found found
  | painted {found : Document} {content : Microflow}
      (loaded : found.body = some (.microflow content)) :
    Repaints found { found with body := some (.microflow content.recolored) }

namespace Document.Repaints

variable {before middle after : Document}

/-- Repainting changes no label. -/
theorem label_eq (repaints : before.Repaints after) : after.label = before.label := by
  cases repaints <;> rfl

/-- Repainting twice is repainting once, because a repainted microflow is not changed any more. -/
theorem trans (first : before.Repaints middle) (second : middle.Repaints after) :
    before.Repaints after := by
  cases first with
  | same => exact second
  | painted loaded =>
    cases second with
    | same => exact .painted loaded
    | painted again =>
      obtain rfl := DocumentBody.microflow.inj (Option.some.inj again)
      rw [Microflow.recolored_recolored]
      exact .painted loaded

/-- Repainting keeps the name and the kind of a body. -/
theorem coherent (repaints : before.Repaints after) (coherent : before.Coherent) :
    after.Coherent := by
  cases repaints with
  | same => exact coherent
  | painted loaded =>
    intro body stored
    obtain rfl := Option.some.inj stored
    have kept := coherent _ loaded
    exact kept

/-- Repainting neither loads nor unloads a body. -/
theorem body_eq_none (repaints : before.Repaints after) (unloaded : after.body = none) :
    before.body = none := by
  cases repaints with
  | same => exact unloaded
  | painted => exact nomatch unloaded

/-- A microflow stays one, and repainting makes no color wrong. -/
theorem microflow (repaints : before.Repaints after) {content : Microflow}
    (loaded : before.body = some (.microflow content)) :
    ∃ later, after.body = some (.microflow later) ∧
      (content.miscolored = 0 → later.miscolored = 0) := by
  cases repaints with
  | same => exact ⟨content, loaded, fun right => right⟩
  | painted loaded' => exact ⟨_, rfl, fun _ => Microflow.miscolored_recolored _⟩

end Document.Repaints

namespace Workspace

/-- Some microflows are repainted, and all else is the same. -/
structure Repaints (before after : Workspace) : Prop where
  containers : after.containers = before.containers
  documents : List.Forall₂ Document.Repaints before.documents after.documents

namespace Repaints

variable {before middle after : Workspace}

/-- Nothing has to be repainted. -/
theorem refl (workspace : Workspace) : workspace.Repaints workspace :=
  ⟨rfl, List.forall₂_same.mpr fun found _ => .same found⟩

/-- Repainting once more repaints the same documents further, place by place. -/
theorem trans (first : before.Repaints middle) (second : middle.Repaints after) :
    before.Repaints after where
  containers := second.containers.trans first.containers
  documents := by
    have length_eq := first.documents.length_eq.trans second.documents.length_eq
    refine List.forall₂_iff_get.mpr ⟨length_eq, fun place inside inside' => ?_⟩
    have inMiddle : place < middle.documents.length := first.documents.length_eq ▸ inside
    exact (first.documents.get inside inMiddle).trans (second.documents.get inMiddle inside')

/-- What is at a place comes from what was there. -/
theorem origin (repaints : before.Repaints after) {id : DocumentId} {later : Document}
    (stored : after.documents[id]? = some later) :
    ∃ found, before.documents[id]? = some found ∧ found.Repaints later := by
  obtain ⟨inside', rfl⟩ := List.getElem?_eq_some_iff.mp stored
  have inside : id < before.documents.length := repaints.documents.length_eq ▸ inside'
  exact ⟨_, List.getElem?_eq_getElem inside, repaints.documents.get inside inside'⟩

/-- What was at a place is still there, repainted or not. -/
theorem result (repaints : before.Repaints after) {id : DocumentId} {found : Document}
    (stored : before.documents[id]? = some found) :
    ∃ later, after.documents[id]? = some later ∧ found.Repaints later := by
  obtain ⟨inside, rfl⟩ := List.getElem?_eq_some_iff.mp stored
  have inside' : id < after.documents.length := repaints.documents.length_eq ▸ inside
  exact ⟨_, List.getElem?_eq_getElem inside', repaints.documents.get inside inside'⟩

/-- All that is found by labels is found after repainting. -/
theorem keeps (repaints : before.Repaints after) : before.Keeps after where
  containers := repaints.containers ▸ List.prefix_rfl
  documents := by
    intro id found stored
    obtain ⟨later, storedLater, repainted⟩ := repaints.result stored
    exact ⟨later, storedLater, repainted.label_eq⟩

/-- Repainting adds nothing that could be found by labels. -/
theorem keepsBack (repaints : before.Repaints after) : after.Keeps before where
  containers := repaints.containers ▸ List.prefix_rfl
  documents := by
    intro id later stored
    obtain ⟨found, storedFound, repainted⟩ := repaints.origin stored
    exact ⟨found, storedFound, repainted.label_eq.symm⟩

/-- Kinds and names agree with the bodies as they did before. -/
theorem wellFormed (repaints : before.Repaints after) (wellFormed : before.WellFormed) :
    after.WellFormed := by
  refine wellFormed.relabel repaints.containers fun stored => ?_
  obtain ⟨found, storedFound, repainted⟩ := repaints.origin stored
  exact ⟨found, storedFound, repainted.label_eq,
    repainted.coherent (wellFormed.coherent storedFound)⟩

/-- A repainted workspace has the same documents with other bodies, which is a way to evolve. -/
theorem evolves (repaints : before.Repaints after) (wellFormed : before.WellFormed) :
    before.Evolves after where
  keeps := repaints.keeps
  wellFormed := repaints.wellFormed wellFormed
  missing := by
    intro id later stored unloaded
    obtain ⟨found, storedFound, repainted⟩ := repaints.origin stored
    exact ⟨found, storedFound, repainted.body_eq_none unloaded⟩

/-- But for bodies the workspaces are equal. -/
theorem unloadAll_eq (repaints : before.Repaints after) : after.unloadAll = before.unloadAll :=
  repaints.keeps.unloadAll_eq repaints.keepsBack

/-- A microflow that can be read can be read after repainting, with no color made wrong. -/
theorem microflow (repaints : before.Repaints after) {id : DocumentId} {content : Microflow}
    (read : before.microflow id = .ok content) :
    ∃ later, after.microflow id = .ok later ∧ (content.miscolored = 0 → later.miscolored = 0) := by
  obtain ⟨found, stored, loaded⟩ := body_eq_ok.mp (microflow_eq_ok.mp read)
  obtain ⟨last, storedLast, repainted⟩ := repaints.result stored
  obtain ⟨later, loadedLater, right⟩ := repainted.microflow loaded
  exact ⟨later, microflow_eq_ok.mpr (body_eq_ok.mpr ⟨last, storedLast, loadedLater⟩), right⟩

end Repaints

variable {workspace : Workspace} {id : DocumentId} {content : Microflow}

/-- Replacing a microflow by its recolored form repaints one document. -/
theorem repaints_replaceMicroflow (read : workspace.microflow id = .ok content) :
    workspace.Repaints (workspace.replaceMicroflow id content.recolored) := by
  obtain ⟨document, stored, loaded⟩ := body_eq_ok.mp (microflow_eq_ok.mp read)
  refine ⟨rfl, List.forall₂_iff_get.mpr ⟨by simp [replaceMicroflow, modifyDocument], ?_⟩⟩
  intro other inside inside'
  have after : (workspace.replaceMicroflow id content.recolored).documents[other]? = _ :=
    getElem?_modifyDocument ..
  rw [List.getElem?_eq_getElem inside, List.getElem?_eq_getElem inside'] at after
  simp only [List.get_eq_getElem, Option.some.inj after]
  by_cases same : id = other
  · subst same
    obtain rfl := Option.some.inj ((List.getElem?_eq_getElem inside).symm.trans stored)
    rw [if_pos rfl]
    exact .painted loaded
  · rw [if_neg same]
    exact .same _

/-- A microflow that was put in the place of another is read there. -/
theorem microflow_replaceMicroflow (read : workspace.microflow id = .ok content)
    (other : Microflow) : (workspace.replaceMicroflow id other).microflow id = .ok other := by
  obtain ⟨document, stored, _⟩ := body_eq_ok.mp (microflow_eq_ok.mp read)
  refine microflow_eq_ok.mpr (body_eq_ok.mpr
    ⟨{ document with body := some (.microflow other) }, ?_, rfl⟩)
  rw [replaceMicroflow, getElem?_modifyDocument, stored]
  simp

/-- Putting back what was read changes nothing. -/
theorem replaceMicroflow_self (read : workspace.microflow id = .ok content) :
    workspace.replaceMicroflow id content = workspace := by
  obtain ⟨document, stored, loaded⟩ := body_eq_ok.mp (microflow_eq_ok.mp read)
  refine (Workspace.mk.injEq ..).mpr ⟨rfl, List.ext_getElem? fun other => ?_⟩
  show (workspace.replaceMicroflow id content).documents[other]? = _
  rw [replaceMicroflow, getElem?_modifyDocument]
  by_cases same : id = other
  · subst same
    simp [stored, ← loaded]
  · simp [same]

end Workspace

namespace Generation

/-- Some microflows are repainted, and the report tells whether one has changed. -/
structure Repainted (before after : Work) : Prop extends Reported before after where
  repaints : before.workspace.Repaints after.workspace

/-- Where nothing is done nothing is told. -/
theorem Repainted.refl (work : Work) : Repainted work work := ⟨.refl work, .refl work.workspace⟩

/-- Two steps that repaint tell of a change if one of them does. -/
theorem Repainted.trans {before middle after : Work} (first : Repainted before middle)
    (second : Repainted middle after) : Repainted before after :=
  ⟨first.toReported.trans second.toReported, first.repaints.trans second.repaints⟩

variable {work : Work}

/-- A microflow with wrong colors is counted, and one without them stays as it is. The name for the
log is that of the document before, because only its body is changed. -/
theorem recolorMicroflow_ends {id : DocumentId} {content : Microflow} {qualified : String}
    (read : work.workspace.microflow id = .ok content)
    (named : work.workspace.qualifiedName id = .ok qualified) :
    Ends (recolorMicroflow id) work
      (fun _ after => Repainted work after ∧
        after.workspace.microflow id = .ok content.recolored) Never := by
  have repaints := Workspace.repaints_replaceMicroflow read
  have painted := Workspace.microflow_replaceMicroflow read content.recolored
  apply askThen read
  apply Ends.modifyThen
  by_cases wrong : 0 < content.miscolored
  · rw [if_pos wrong]
    have stillNamed : (work.workspace.replaceMicroflow id content.recolored).qualifiedName id =
        .ok qualified :=
      ((Workspace.readsLabels_qualifiedName id).alike repaints.unloadAll_eq).trans named
    refine askThen stillNamed (Ends.modified ⟨⟨⟨fun told => ?_, fun untold => ?_⟩, repaints⟩, painted⟩)
    · simp only [Report.hasChanges, Bool.or_eq_true, decide_eq_true_eq] at told ⊢
      exact told.imp_right fun counted => Nat.lt_add_right _ counted
    · simp only [Report.hasChanges, Bool.or_eq_false_iff, decide_eq_false_iff_not] at untold
      exact absurd (Nat.add_pos_right _ wrong) untold.2
  · rw [if_neg wrong]
    refine Ends.value ⟨⟨⟨fun told => told, fun _ => ?_⟩, repaints⟩, painted⟩
    rw [Microflow.recolored_eq_self (Nat.eq_zero_of_not_pos wrong)]
    exact Workspace.replaceMicroflow_self read

/-- When the selected microflows are loaded, they have the right colors in the end. -/
theorem recolorMicroflows_ends (settings : RecolorSettings)
    (loaded : ∀ selected, work.workspace.selectedMicroflows settings.modules = .ok selected →
      ∀ id ∈ selected, ∃ content, work.workspace.microflow id = .ok content) :
    Ends (recolorMicroflows settings) work
      (fun _ after => Repainted work after ∧
        ∃ selected, work.workspace.selectedMicroflows settings.modules = .ok selected ∧
          ∀ id ∈ selected, ∃ content, after.workspace.microflow id = .ok content ∧
            content.miscolored = 0)
      (fun failure after => after = work ∧
        work.workspace.selectedMicroflows settings.modules = .error failure) := by
  cases selected : work.workspace.selectedMicroflows settings.modules with
  | error failure => exact askFails selected ⟨rfl, rfl⟩
  | ok ids =>
    apply askThen selected
    -- The microflows that are still to come stay loaded, because repainting drops no body.
    have steps : ∀ id ∈ ids, ∀ between, Repainted work between →
        Ends (recolorMicroflow id) between
          (fun _ after => Repainted work after ∧
            (∃ content, after.workspace.microflow id = .ok content ∧ content.miscolored = 0) ∧
            ∀ other : DocumentId,
              (∃ content, between.workspace.microflow other = .ok content ∧ content.miscolored = 0) →
              ∃ content, after.workspace.microflow other = .ok content ∧ content.miscolored = 0)
          Never := by
      intro id member between repainted
      obtain ⟨content, read⟩ := loaded ids selected id member
      obtain ⟨later, readLater, _⟩ := repainted.repaints.microflow read
      obtain ⟨qualified, named⟩ := Workspace.exists_qualifiedName_of_selected selected member
      have namedLater := ((Workspace.readsLabels_qualifiedName id).alike
        repainted.repaints.unloadAll_eq).trans named
      refine (recolorMicroflow_ends readLater namedLater).onDone ?_
      rintro _ after ⟨again, readAfter⟩
      refine ⟨repainted.trans again, ⟨_, readAfter, Microflow.miscolored_recolored later⟩, ?_⟩
      rintro other ⟨found, readOther, right⟩
      obtain ⟨last, readLast, kept⟩ := again.repaints.microflow readOther
      exact ⟨last, readLast, kept right⟩
    refine (Ends.each steps (Repainted.refl work)).weaken.onDone ?_
    rintro _ after ⟨repainted, reached, _⟩
    exact ⟨repainted, ids, rfl, reached⟩

/-! ## Auditing names -/

/-- An audit leaves the workspace as it is and tells of no change, and it is done if the workspace
is well-formed. -/
theorem auditNaming_ends (settings : NamingSettings) :
    Ends (auditNaming settings) work
      (fun _ after => after.workspace = work.workspace ∧
        after.report.hasChanges = work.report.hasChanges)
      (fun _ after => after.workspace = work.workspace ∧ ¬ work.workspace.WellFormed) := by
  apply Ends.lookThen
  refine Ends.eachKeeps ?_ ⟨rfl, rfl⟩
  rintro id member between ⟨sameWorkspace, sameChanges⟩
  obtain ⟨found, stored, _⟩ := Workspace.mem_documentsOfKind.mp member
  have answered : between.workspace.document id = .ok found := by
    rw [sameWorkspace]
    exact Workspace.document_eq_ok.mpr stored
  apply askThen answered
  cases named : between.workspace.moduleName found.container with
  | error failure =>
    refine askFails named ⟨sameWorkspace, fun wellFormed => ?_⟩
    obtain ⟨name, known⟩ := wellFormed.moduleName_of_lt (wellFormed.holder_lt stored)
    exact nomatch (sameWorkspace ▸ named).symm.trans known
  | ok name =>
  apply askThen named
  by_cases wrong : (settings.modules.contains name && !settings.allows found.name) = true
  · rw [if_pos wrong]
    cases known : between.workspace.qualifiedName id with
    | error failure =>
      refine askFails known ⟨sameWorkspace, fun wellFormed => ?_⟩
      obtain ⟨name, isNamed⟩ := wellFormed.qualifiedName_of_lt (lt_of_getElem?_eq_some stored)
      exact nomatch (sameWorkspace ▸ known).symm.trans isNamed
    | ok qualified =>
      apply askThen known
      exact Ends.modified ⟨sameWorkspace, sameChanges⟩
  · rw [if_neg wrong]
    exact Ends.value ⟨sameWorkspace, sameChanges⟩

end Generation

end FlowModel
