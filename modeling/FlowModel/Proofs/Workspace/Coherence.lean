import FlowModel.Proofs.Generation.Edits
import FlowModel.Proofs.Workspace.Selection

/-!
# Documents and their bodies

A document has a name and a kind of its own, and they are those of the body with which it was created.
A body that is given later passes on its name, but not its kind. So a loaded document has the name of
its body, and also its kind unless it has been given a body of another one (`labels_follow_bodies`).
Then it is listed under a kind whose reader refuses it (`kind_stays_behind`).
-/

namespace FlowModel.Workspace

/-- Whether an edit creates folders or documents, gives a body or drops all bodies, with no microflow
replaced and no generator called. -/
def Edit.isDirect : Edit → Bool
  | .createFolder .. | .ensureFolder .. | .createDocument .. | .setBody .. | .unloadAll => true
  | .replaceMicroflow .. | .generate _ => false

/-- Whether the reader for a kind reads a document. Java actions are read as bodies. -/
def IsReadable (workspace : Workspace) (kind : DocumentKind) (id : DocumentId) : Prop :=
  match kind with
  | .domainModel => ∃ content, workspace.domainModel id = .ok content
  | .microflow => ∃ content, workspace.microflow id = .ok content
  | .page => ∃ content, workspace.page id = .ok content
  | .javaAction => ∃ content, workspace.body id = .ok (.javaAction content)

/-- Every loaded document has the name of its body. It has the kind too, unless some edit has given it
the body. -/
structure Labelled (changes : List Edit) (workspace : Workspace) : Prop where
  name_eq : ∀ {id : DocumentId} {found : Document} {body : DocumentBody},
    workspace.documents[id]? = some found → found.body = some body → found.name = body.name
  kind_eq : ∀ {id : DocumentId} {found : Document} {body : DocumentBody},
    workspace.documents[id]? = some found → found.body = some body →
      found.kind = body.kind ∨ .setBody id body ∈ changes

variable {workspace after : Workspace} {id : DocumentId} {found : Document} {body : DocumentBody}
  {kind : DocumentKind}

/-! ## Reading -/

/-- A reader reads bodies of its kind only. -/
theorem isReadable_iff (stored : workspace.body id = .ok body) :
    workspace.IsReadable kind id ↔ body.kind = kind := by
  cases kind <;> cases body <;>
    simp [IsReadable, domainModel, microflow, page, stored, bind, Except.bind, pure, Except.pure,
      throw, throwThe, MonadExceptOf.throw, DocumentBody.kind]

/-! ## One edit -/

/-- A folder is created without a look at the documents. -/
theorem documents_createFolder {parent created : ContainerId} {name : String}
    (made : workspace.createFolder parent name = .ok (created, after)) :
    after.documents = workspace.documents := by
  obtain ⟨_, _, same⟩ := bind_eq_ok.mp made
  obtain ⟨_, rfl⟩ := Prod.mk.inj (Except.ok.inj same)
  rfl

/-- A loaded document after an edit was there before, or it has the name of its body. Then it has the
kind too, unless the edit has given it the body. -/
theorem edit?_cases {change : Edit} (direct : change.isDirect = true)
    (changed : workspace.edit? change = .ok after) (stored : after.documents[id]? = some found)
    (loaded : found.body = some body) :
    workspace.documents[id]? = some found ∨
      found.name = body.name ∧ (found.kind = body.kind ∨ change = .setBody id body) := by
  cases change with
  | createFolder parent name =>
    obtain ⟨⟨created, _⟩, made, rfl⟩ := map_eq_ok.mp changed
    exact Or.inl (documents_createFolder made ▸ stored)
  | ensureFolder parent name =>
    obtain ⟨⟨folder, created, _⟩, made, rfl⟩ := map_eq_ok.mp changed
    obtain ⟨_, rfl⟩ | ⟨_, made⟩ := ensureFolder_cases made
    · exact Or.inl stored
    · exact Or.inl (documents_createFolder made ▸ stored)
  | createDocument holder given =>
    obtain ⟨⟨created, _⟩, made, rfl⟩ := map_eq_ok.mp changed
    obtain ⟨_, _, same⟩ := bind_eq_ok.mp made
    obtain ⟨_, rfl⟩ := Prod.mk.inj (Except.ok.inj same)
    rcases getElem?_concat_cases stored with earlier | ⟨_, rfl⟩
    · exact Or.inl earlier
    · obtain rfl := Option.some.inj loaded
      exact Or.inr ⟨rfl, Or.inl rfl⟩
  | setBody other given =>
    obtain ⟨_, _, same⟩ := bind_eq_ok.mp changed
    obtain rfl := Except.ok.inj same
    rw [getElem?_modifyDocument] at stored
    obtain ⟨before, storedBefore, rfl⟩ := Option.map_eq_some_iff.mp stored
    by_cases here : other = id
    · rw [if_pos here] at loaded ⊢
      obtain rfl := Option.some.inj loaded
      exact Or.inr ⟨rfl, Or.inr (here ▸ rfl)⟩
    · rw [if_neg here]
      exact Or.inl storedBefore
  | replaceMicroflow other content => exact nomatch direct
  | unloadAll =>
    obtain rfl := Except.ok.inj changed
    obtain ⟨_, _, rfl⟩ := Option.map_eq_some_iff.mp (List.getElem?_map ▸ stored)
    exact nomatch loaded
  | generate call => exact nomatch direct

/-! ## All edits -/

/-- After a checkout every document has both the name and the kind of its body. -/
theorem labelled_ofProject (project : Project) (changes : List Edit) :
    (ofProject project).Labelled changes where
  name_eq stored loaded := ((wellFormed_ofProject project).coherent stored _ loaded).1.symm
  kind_eq stored loaded := Or.inl ((wellFormed_ofProject project).coherent stored _ loaded).2.symm

namespace Labelled

variable {changes : List Edit}

/-- One direct edit keeps this up, where the bodies that it gives are among those that are excepted.
An edit that fails changes nothing. -/
theorem edit (labelled : workspace.Labelled changes) {change : Edit} (listed : change ∈ changes)
    (direct : change.isDirect = true) : (workspace.edit change).Labelled changes := by
  rw [Workspace.edit]
  cases changed : workspace.edit? change with
  | error failure => exact labelled
  | ok after =>
    constructor
    · intro id found body stored loaded
      rcases edit?_cases direct changed stored loaded with earlier | ⟨name_eq, _⟩
      · exact labelled.name_eq earlier loaded
      · exact name_eq
    · intro id found body stored loaded
      rcases edit?_cases direct changed stored loaded with earlier | ⟨_, kind_eq | rfl⟩
      · exact labelled.kind_eq earlier loaded
      · exact Or.inl kind_eq
      · exact Or.inr listed

/-- So do several. The list of exceptions is that of all edits from the start, so that the induction
can go on with the rest of them. -/
theorem editAll (labelled : workspace.Labelled changes) {later : List Edit}
    (listed : ∀ change ∈ later, change ∈ changes)
    (direct : ∀ change ∈ later, change.isDirect = true) :
    (workspace.editAll later).Labelled changes := by
  induction later generalizing workspace with
  | nil => exact labelled
  | cons change later inductionHypothesis =>
    have first := labelled.edit (listed change List.mem_cons_self) (direct change List.mem_cons_self)
    exact inductionHypothesis first (fun other member => listed other (List.mem_cons_of_mem _ member))
      fun other member => direct other (List.mem_cons_of_mem _ member)

end Labelled

/-- Whatever folders and documents are created, bodies given and bodies dropped in a checked-out
project, also in vain, every loaded document has the name of its body. It has the kind of its body too,
unless an edit has given it this body. The reader for the kind under which it is listed reads it
exactly if the kinds agree. -/
theorem labels_follow_bodies (project : Project) (changes : List Edit)
    (direct : ∀ change ∈ changes, change.isDirect = true) (id : DocumentId) (found : Document)
    (body : DocumentBody)
    (stored : ((ofProject project).editAll changes).documents[id]? = some found)
    (loaded : found.body = some body) :
    found.name = body.name ∧ (found.kind = body.kind ∨ .setBody id body ∈ changes) ∧
      ∀ kind, id ∈ ((ofProject project).editAll changes).documentsOfKind kind →
        (((ofProject project).editAll changes).IsReadable kind id ↔ found.kind = body.kind) := by
  have labelled := (labelled_ofProject project changes).editAll (fun _ listed => listed) direct
  refine ⟨labelled.name_eq stored loaded, labelled.kind_eq stored loaded, fun kind listed => ?_⟩
  obtain ⟨found', stored', rfl⟩ := mem_documentsOfKind.mp listed
  obtain rfl := Option.some.inj (stored.symm.trans stored')
  rw [isReadable_iff (body_eq_ok.mpr ⟨found, stored, loaded⟩), eq_comm]

/-! ### A body of another kind -/

/-- A module with a microflow, its document 1. -/
def oneMicroflow : Project := ⟨[⟨"Shop", ⟨[]⟩, [], [.microflow (.empty "Check" .void)]⟩]⟩

/-- The microflow is given a new body, a page is created, and a body is given to no document. -/
def renewals : List Edit :=
  [.unloadAll, .setBody 1 (.microflow (.empty "Audit" .void)),
    .createDocument 0 (.page ⟨"Home", false, []⟩), .setBody 7 (.page ⟨"Away", false, []⟩)]

/-- After a new body, a new document and a body given in vain, documents are still read under their
kinds. -/
theorem labels_follow_bodies_renewed :
    ((ofProject oneMicroflow).editAll renewals).IsReadable .microflow 1 ∧
      ((ofProject oneMicroflow).editAll renewals).IsReadable .page 2 := by
  have direct : ∀ change ∈ renewals, change.isDirect = true := by decide
  obtain ⟨_, _, readsMicroflow⟩ := labels_follow_bodies oneMicroflow renewals direct 1 _ _ rfl rfl
  obtain ⟨_, _, readsPage⟩ := labels_follow_bodies oneMicroflow renewals direct 2 _ _ rfl rfl
  exact ⟨(readsMicroflow .microflow (by decide)).mpr rfl, (readsPage .page (by decide)).mpr rfl⟩

/-- A microflow that is given a page for its body is still listed as a microflow, and the reader for
microflows refuses it. -/
theorem kind_stays_behind :
    ∃ found body, ((ofProject oneMicroflow).editAll
        [.setBody 1 (.page ⟨"Home", false, []⟩)]).documents[1]? = some found ∧
      found.body = some body ∧ found.kind ≠ body.kind ∧
      1 ∈ ((ofProject oneMicroflow).editAll
        [.setBody 1 (.page ⟨"Home", false, []⟩)]).documentsOfKind .microflow ∧
      ((ofProject oneMicroflow).editAll [.setBody 1 (.page ⟨"Home", false, []⟩)]).microflow 1 =
        .error (.unknownDocument 1) :=
  ⟨_, _, rfl, rfl, by decide, by decide, rfl⟩

end FlowModel.Workspace
