import FlowModel.Generation.Recoloring
import FlowModel.Proofs.Workspace.Growth

/-!
# Selecting documents by module

Which documents lie in selected modules depends on containers and labels only, so it is the
same without bodies (`selectedMicroflows_unloadAll`). In a well-formed workspace the selection
does not fail, and it takes exactly the documents whose modules are selected
(`WellFormed.inModules`, `mem_inModules`).
-/

namespace FlowModel

/-- The places of changed members are those of the members that pass the test when changed. -/
theorem placesWhere_map {α β : Type} (holds : β → Bool) (change : α → β) (members : List α) :
    placesWhere holds (members.map change) =
      placesWhere (fun member => holds (change member)) members := by
  simp [placesWhere, List.zipIdx_map, List.filter_map, Function.comp_def]

/-- Members that do not pass the test add no places, and those before them keep theirs. -/
theorem placesWhere_append {α : Type} {holds : α → Bool} {members added : List α}
    (others : ∀ member ∈ added, holds member = false) :
    placesWhere holds (members ++ added) = placesWhere holds members := by
  have none : (added.zipIdx (0 + members.length)).filter (fun place => holds place.1) = [] := by
    refine List.filter_eq_nil_iff.mpr fun place member => ?_
    simp [others place.1 (List.fst_mem_of_mem_zipIdx member)]
  rw [placesWhere, List.zipIdx_append, List.filter_append, placesWhere]
  show (_ ++ (added.zipIdx (0 + members.length)).filter fun place => holds place.1).map _ = _
  rw [none, List.append_nil]

namespace Workspace

variable {workspace : Workspace} {modules : List String} {id : DocumentId}

/-! ## Without bodies -/

/-- The way up to the module visits containers, and unloading changes documents only. -/
theorem climb_unloadAll (workspace : Workspace) (atMost : Nat) (id : ContainerId) :
    workspace.unloadAll.climb atMost id = workspace.climb atMost id := by
  induction atMost generalizing id with
  | zero => rfl
  | succ atMost inductionHypothesis =>
    rw [climb, climb]
    simp only [inductionHypothesis]
    rfl

/-- The name of the module is told without any body. -/
theorem moduleName_unloadAll (workspace : Workspace) (id : ContainerId) :
    workspace.unloadAll.moduleName id = workspace.moduleName id := by
  rw [moduleName, moduleOf, climb_unloadAll]
  rfl

/-- Unloading turns a document into its label. It neither adds one nor removes one. -/
theorem document_unloadAll (workspace : Workspace) (id : DocumentId) :
    workspace.unloadAll.document id = (workspace.document id).map Document.label := by
  rw [document, document, unloadAll, List.getElem?_map]
  cases workspace.documents[id]? <;> rfl

/-- A choice by modules does not depend on bodies, and neither does its failure. -/
theorem inModules_unloadAll (workspace : Workspace) (modules : List String) (ids : List DocumentId) :
    workspace.unloadAll.inModules modules ids = workspace.inModules modules ids := by
  induction ids with
  | nil => rfl
  | cons id ids inductionHypothesis =>
    rw [inModules, inModules, document_unloadAll]
    cases workspace.document id with
    | error failure => rfl
    | ok found =>
      simp only [Except.map, bind, Except.bind, moduleName_unloadAll, inductionHypothesis]
      rfl

/-- The kind of a document is in its label. -/
theorem documentsOfKind_unloadAll (workspace : Workspace) (kind : DocumentKind) :
    workspace.unloadAll.documentsOfKind kind = workspace.documentsOfKind kind :=
  placesWhere_map ..

/-- Which microflows are selected is told without their bodies, so it is known before they are
loaded. -/
theorem selectedMicroflows_unloadAll (workspace : Workspace) (modules : List String) :
    workspace.unloadAll.selectedMicroflows modules = workspace.selectedMicroflows modules := by
  rw [selectedMicroflows, selectedMicroflows, inModules_unloadAll, documentsOfKind_unloadAll]

/-- Workspaces that differ in bodies only select the same microflows. -/
theorem selectedMicroflows_congr {first second : Workspace}
    (same : first.unloadAll = second.unloadAll) (modules : List String) :
    first.selectedMicroflows modules = second.selectedMicroflows modules := by
  rw [← selectedMicroflows_unloadAll, same, selectedMicroflows_unloadAll]

/-! ## What is selected -/

/-- The documents of a kind are those recorded with it, loaded or not. -/
theorem mem_documentsOfKind {kind : DocumentKind} :
    id ∈ workspace.documentsOfKind kind ↔
      ∃ found, workspace.documents[id]? = some found ∧ found.kind = kind := by
  simp [documentsOfKind, mem_placesWhere]

/-- A document whose module is selected. -/
def IsSelected (workspace : Workspace) (modules : List String) (id : DocumentId) : Prop :=
  ∃ found name, workspace.documents[id]? = some found ∧
    workspace.moduleName found.container = .ok name ∧ selectsModule modules name = true

/-- A choice that succeeds contains a document exactly if it was given and its module is named. The
induction goes over the documents that are given, with one lookup of a module for each. -/
theorem mem_inModules {ids chosen : List DocumentId}
    (selected : workspace.inModules modules ids = .ok chosen) :
    id ∈ chosen ↔ id ∈ ids ∧ workspace.IsSelected modules id := by
  induction ids generalizing chosen with
  | nil =>
    obtain rfl := Except.ok.inj selected
    simp
  | cons first ids inductionHypothesis =>
    obtain ⟨found, stored, rest⟩ := bind_eq_ok.mp selected
    obtain ⟨name, named, rest⟩ := bind_eq_ok.mp rest
    obtain ⟨later, selectedLater, same⟩ := bind_eq_ok.mp rest
    obtain rfl := Except.ok.inj same
    have chosenFirst : workspace.IsSelected modules first ↔ selectsModule modules name = true := by
      constructor
      · rintro ⟨found', name', stored', named', selects⟩
        obtain rfl : found = found' :=
          Option.some.inj ((document_eq_ok.mp stored).symm.trans stored')
        obtain rfl : name = name' := Except.ok.inj (named.symm.trans named')
        exact selects
      · exact fun selects => ⟨found, name, document_eq_ok.mp stored, named, selects⟩
    have laterChosen := inductionHypothesis selectedLater
    by_cases selects : selectsModule modules name = true
    · rw [if_pos selects]
      simp only [List.mem_cons, laterChosen]
      constructor
      · rintro (rfl | ⟨inside, isSelected⟩)
        · exact ⟨Or.inl rfl, chosenFirst.mpr selects⟩
        · exact ⟨Or.inr inside, isSelected⟩
      · rintro ⟨rfl | inside, isSelected⟩
        · exact Or.inl rfl
        · exact Or.inr ⟨inside, isSelected⟩
    · rw [if_neg selects, laterChosen]
      constructor
      · exact fun ⟨inside, isSelected⟩ => ⟨List.mem_cons_of_mem _ inside, isSelected⟩
      · rintro ⟨inside, isSelected⟩
        rcases List.mem_cons.mp inside with rfl | inside
        · exact absurd (chosenFirst.mp isSelected) selects
        · exact ⟨inside, isSelected⟩

/-- Documents are chosen in their order. -/
theorem sublist_inModules {ids chosen : List DocumentId}
    (selected : workspace.inModules modules ids = .ok chosen) : chosen.Sublist ids := by
  induction ids generalizing chosen with
  | nil =>
    obtain rfl := Except.ok.inj selected
    exact .slnil
  | cons id ids inductionHypothesis =>
    obtain ⟨found, _, rest⟩ := bind_eq_ok.mp selected
    obtain ⟨name, _, rest⟩ := bind_eq_ok.mp rest
    obtain ⟨later, selectedLater, same⟩ := bind_eq_ok.mp rest
    obtain rfl := Except.ok.inj same
    have isSublist := inductionHypothesis selectedLater
    split
    · exact isSublist.cons_cons id
    · exact isSublist.cons id

/-- A choice by modules needs the name of the module of each document. -/
theorem exists_inModules_iff {ids : List DocumentId} :
    (∃ chosen, workspace.inModules modules ids = .ok chosen) ↔
      ∀ id ∈ ids, ∃ found name, workspace.documents[id]? = some found ∧
        workspace.moduleName found.container = .ok name := by
  induction ids with
  | nil => exact ⟨fun _ => nofun, fun _ => ⟨[], rfl⟩⟩
  | cons id ids inductionHypothesis =>
    rw [List.forall_mem_cons, ← inductionHypothesis]
    constructor
    · rintro ⟨chosen, selected⟩
      obtain ⟨found, stored, rest⟩ := bind_eq_ok.mp selected
      obtain ⟨name, named, rest⟩ := bind_eq_ok.mp rest
      obtain ⟨later, selectedLater, _⟩ := bind_eq_ok.mp rest
      exact ⟨⟨found, name, document_eq_ok.mp stored, named⟩, later, selectedLater⟩
    · rintro ⟨⟨found, name, stored, named⟩, later, selectedLater⟩
      exact ⟨_, bind_eq_ok.mpr ⟨found, document_eq_ok.mpr stored,
        bind_eq_ok.mpr ⟨name, named, bind_eq_ok.mpr ⟨later, selectedLater, rfl⟩⟩⟩⟩

/-- What has been selected has a qualified name, because the name of its module has been looked
up. -/
theorem exists_qualifiedName_of_selected {selected : List DocumentId}
    (chosen : workspace.selectedMicroflows modules = .ok selected) (member : id ∈ selected) :
    ∃ qualified, workspace.qualifiedName id = .ok qualified := by
  obtain ⟨found, name, stored, named⟩ :=
    exists_inModules_iff.mp ⟨selected, chosen⟩ id ((sublist_inModules chosen).subset member)
  exact ⟨QualifiedName.qualified name found.name, bind_eq_ok.mpr
    ⟨found, document_eq_ok.mpr stored, bind_eq_ok.mpr ⟨name, named, rfl⟩⟩⟩

/-- In a well-formed workspace every stored document has a module, so the choice succeeds. -/
theorem WellFormed.inModules (wellFormed : workspace.WellFormed) (modules : List String)
    {ids : List DocumentId} (inside : ∀ id ∈ ids, id < workspace.documents.length) :
    ∃ chosen, workspace.inModules modules ids = .ok chosen := by
  refine exists_inModules_iff.mpr fun id member => ?_
  have stored := List.getElem?_eq_getElem (inside id member)
  obtain ⟨name, named⟩ := wellFormed.moduleName_of_lt (wellFormed.holder_lt stored)
  exact ⟨_, name, stored, named⟩

end Workspace

end FlowModel
