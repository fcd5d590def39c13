import FlowModel.Proofs.Generation.Edits
import FlowModel.Proofs.Repository.History
import FlowModel.Proofs.Workspace.Addresses

/-!
# Loading a whole kind

The documents of a kind that are missing in selected modules are chosen first, and then loaded one
after another. Whatever state a repository is in, a bulk load that is done has loaded exactly these
documents, and one that fails has loaded some of them (`bulk_load_fills_in`). Nothing else changes:
not what is published, not the containers, and no document that has a body.

A document takes the name of the body it gets. It has that name already unless its name was changed
by hand and its body was dropped afterwards (`bulk_load_renames`); loads, commits, checkouts, runs
and what is created do not lead there.
-/

namespace FlowModel

/-- A document with a body, whose name it takes. Kind and place stay. -/
def Document.given (found : Document) (body : DocumentBody) : Document :=
  { found with name := body.name, body := some body }

namespace Workspace

/-- A document of a kind has no body and, if modules are listed, lies in a module with a listed
name. -/
def IsMissing (workspace : Workspace) (kind : DocumentKind) (modules : List String)
    (id : DocumentId) : Prop :=
  ∃ found, workspace.documents[id]? = some found ∧ found.kind = kind ∧ found.body = none ∧
    (modules ≠ [] → ∃ name ∈ modules, workspace.moduleName found.container = .ok name)

/-- Some documents without a body get those that a source has under the same ids, and all else stays
as it is. -/
structure Obtains (source : Workspace) (ids : List DocumentId) (before after : Workspace) :
    Prop where
  containers : after.containers = before.containers
  given : ∀ id ∈ ids, ∃ found body, before.documents[id]? = some found ∧ found.body = none ∧
    source.body id = .ok body ∧ after.documents[id]? = some (found.given body)
  others : ∀ id ∉ ids, after.documents[id]? = before.documents[id]?

variable {workspace source before middle after : Workspace} {kind : DocumentKind}
  {modules : List String} {id : DocumentId} {ids : List DocumentId}

/-- A document is not loaded if its body is missing. -/
theorem not_isLoaded_iff {found : Document} (stored : workspace.documents[id]? = some found) :
    workspace.isLoaded id = false ↔ found.body = none := by
  simp [isLoaded, stored]

/-- A body can be given to any document that is there. Its kind is not compared with the one on the
label. -/
theorem setBody_eq_ok {body : DocumentBody} (given : workspace.setBody id body = .ok after) :
    ∃ found, workspace.documents[id]? = some found ∧
      after = workspace.modifyDocument id fun found => found.given body := by
  obtain ⟨found, stored, same⟩ := bind_eq_ok.mp given
  exact ⟨found, document_eq_ok.mp stored, (Except.ok.inj same).symm⟩

namespace Obtains

/-- Nothing has to be obtained where no document is asked for. -/
theorem nil (source workspace : Workspace) : source.Obtains [] workspace workspace :=
  ⟨rfl, nofun, fun _ _ => rfl⟩

/-- A missing body that is published is obtained, and the document gets the name that stands in it.
-/
theorem single {found : Document} {body : DocumentBody}
    (stored : workspace.documents[id]? = some found) (missing : found.body = none)
    (published : source.body id = .ok body) :
    source.Obtains [id] workspace
      (workspace.modifyDocument id fun found => found.given body) where
  containers := rfl
  given := by
    intro other member
    obtain rfl := List.mem_singleton.mp member
    exact ⟨found, body, stored, missing, published,
      by rw [getElem?_modifyDocument, stored, Option.map_some, if_pos rfl]⟩
  others := by
    intro other elsewhere
    have differs : id ≠ other := fun same => elsewhere (List.mem_singleton.mpr same.symm)
    rw [getElem?_modifyDocument]
    cases workspace.documents[other]? <;> simp [differs]

/-- Bodies are obtained one after another. The documents must be apart, as none is obtained twice.
-/
theorem append {earlier later : List DocumentId} (first : source.Obtains earlier before middle)
    (second : source.Obtains later middle after) (apart : ∀ id ∈ earlier, id ∉ later) :
    source.Obtains (earlier ++ later) before after where
  containers := second.containers.trans first.containers
  given := by
    intro id member
    rcases List.mem_append.mp member with inEarlier | inLater
    · rw [second.others id (apart id inEarlier)]
      exact first.given id inEarlier
    · rw [← first.others id fun inEarlier => apart id inEarlier inLater]
      exact second.given id inLater
  others := by
    intro id elsewhere
    rw [List.mem_append, not_or] at elsewhere
    rw [second.others id elsewhere.2, first.others id elsewhere.1]

/-- What has no body afterwards had none before, and it is another document. -/
theorem origin (obtains : source.Obtains ids before after) {later : Document}
    (stored : after.documents[id]? = some later) (unloaded : later.body = none) :
    before.documents[id]? = some later ∧ id ∉ ids := by
  have elsewhere : id ∉ ids := by
    intro member
    obtain ⟨found, body, _, _, _, storedAfter⟩ := obtains.given id member
    obtain rfl := Option.some.inj (stored.symm.trans storedAfter)
    exact nomatch unloaded
  exact ⟨obtains.others id elsewhere ▸ stored, elsewhere⟩

/-- What is missing afterwards was missing before, and it is another document. -/
theorem isMissing (obtains : source.Obtains ids before after)
    (missing : after.IsMissing kind modules id) :
    before.IsMissing kind modules id ∧ id ∉ ids := by
  obtain ⟨later, stored, ofKind, unloaded, listed⟩ := missing
  obtain ⟨storedBefore, elsewhere⟩ := obtains.origin stored unloaded
  refine ⟨⟨later, storedBefore, ofKind, unloaded, fun some => ?_⟩, elsewhere⟩
  obtain ⟨name, member, named⟩ := listed some
  exact ⟨name, member, moduleName_mono (obtains.containers ▸ List.prefix_rfl) named⟩

end Obtains

/-! ## The choice of documents -/

/-- The documents of a kind that have no body. -/
theorem mem_unloaded :
    id ∈ (workspace.documentsOfKind kind).filter (fun id => !workspace.isLoaded id) ↔
      ∃ found, workspace.documents[id]? = some found ∧ found.kind = kind ∧ found.body = none := by
  rw [List.mem_filter, mem_documentsOfKind, Bool.not_eq_true']
  constructor
  · rintro ⟨⟨found, stored, ofKind⟩, unloaded⟩
    exact ⟨found, stored, ofKind, (not_isLoaded_iff stored).mp unloaded⟩
  · rintro ⟨found, stored, ofKind, unloaded⟩
    exact ⟨⟨found, stored, ofKind⟩, (not_isLoaded_iff stored).mpr unloaded⟩

/-- A module is selected by a list that is not empty when its name is listed. -/
theorem selectsModule_iff (listed : modules ≠ []) {name : String} :
    selectsModule modules name = true ↔ name ∈ modules := by
  simp [selectsModule, listed]

end Workspace

namespace Repository

open Workspace

variable {repository before middle after : Repository} {workspace : Workspace}
  {kind : DocumentKind} {modules : List String} {id : DocumentId} {ids : List DocumentId}

/-- Exactly the missing documents are chosen, and each of them once. -/
theorem pending_eq_ok (chosen : pending workspace kind modules = .ok ids) :
    ids.Nodup ∧ ∀ id, id ∈ ids ↔ workspace.IsMissing kind modules id := by
  have distinct : ((workspace.documentsOfKind kind).filter
      fun id => !workspace.isLoaded id).Nodup := (nodup_placesWhere ..).filter _
  rw [pending] at chosen
  by_cases all : modules = []
  · rw [if_pos (List.isEmpty_iff.mpr all)] at chosen
    obtain rfl := Except.ok.inj chosen
    refine ⟨distinct, fun id => mem_unloaded.trans ?_⟩
    simp [IsMissing, all]
  · rw [if_neg (mt List.isEmpty_iff.mp all)] at chosen
    refine ⟨distinct.sublist (sublist_inModules chosen), fun id => ?_⟩
    rw [mem_inModules chosen, mem_unloaded]
    constructor
    · rintro ⟨⟨found, stored, ofKind, unloaded⟩, found', name, stored', named, selects⟩
      obtain rfl := Option.some.inj (stored.symm.trans stored')
      have member := (selectsModule_iff all).mp selects
      exact ⟨found, stored, ofKind, unloaded, fun _ => ⟨name, member, named⟩⟩
    · rintro ⟨found, stored, ofKind, unloaded, listed⟩
      obtain ⟨name, member, named⟩ := listed all
      exact ⟨⟨found, stored, ofKind, unloaded⟩, found, name, stored, named,
        (selectsModule_iff all).mpr member⟩

/-- When documents have been chosen and have got their bodies, none is missing any more. -/
theorem pending_of_obtains {later : Workspace} (chosen : pending workspace kind modules = .ok ids)
    (obtains : repository.published.Obtains ids workspace later) :
    pending later kind modules = .ok [] := by
  have succeeds : ∃ others, pending later kind modules = .ok others := by
    rw [pending] at chosen ⊢
    by_cases all : modules.isEmpty = true
    · rw [if_pos all]
      exact ⟨_, rfl⟩
    rw [if_neg all] at chosen ⊢
    refine exists_inModules_iff.mpr fun id member => ?_
    obtain ⟨found, stored, ofKind, unloaded⟩ := mem_unloaded.mp member
    have storedBefore := (obtains.origin stored unloaded).1
    obtain ⟨found', name, stored', named⟩ := exists_inModules_iff.mp ⟨ids, chosen⟩ id
      (mem_unloaded.mpr ⟨found, storedBefore, ofKind, unloaded⟩)
    obtain rfl := Option.some.inj (storedBefore.symm.trans stored')
    exact ⟨found, name, stored, moduleName_mono (obtains.containers ▸ List.prefix_rfl) named⟩
  obtain ⟨others, chosenLater⟩ := succeeds
  rw [chosenLater]
  refine congrArg Except.ok (List.eq_nil_iff_forall_not_mem.mpr fun id member => ?_)
  obtain ⟨missing, elsewhere⟩ := obtains.isMissing (((pending_eq_ok chosenLater).2 id).mp member)
  exact elsewhere (((pending_eq_ok chosen).2 id).mpr missing)

/-! ## Loads in a row -/

/-- Some documents have been loaded, each with one load, and nothing else has happened. -/
structure Loads (ids : List DocumentId) (before after : Repository) : Prop where
  frame : after =
    { before with checkedOut := after.checkedOut, loads := before.loads + ids.length }
  obtains : before.published.Obtains ids before.checkedOut after.checkedOut

namespace Loads

/-- No loads change nothing and are not counted. -/
theorem nil (repository : Repository) : repository.Loads [] repository := ⟨rfl, .nil ..⟩

/-- A load comes before others, of other documents. -/
theorem cons (first : before.Loads [id] middle) (rest : middle.Loads ids after)
    (isNew : id ∉ ids) : before.Loads (id :: ids) after where
  frame := by
    rw [rest.frame, first.frame, List.length_singleton, List.length_cons, Nat.add_assoc,
      Nat.add_comm 1]
  obtains := by
    have published : middle.published = before.published := by rw [first.frame]
    exact first.obtains.append (published ▸ rest.obtains)
      fun other member => List.mem_singleton.mp member ▸ isNew

end Loads

/-- What a load does: nothing if the document has a body, and else it gets the published one. -/
def Serves (id : DocumentId) (before after : Repository) : Prop :=
  before.checkedOut.isLoaded id = true ∧ after = before ∨ before.Loads [id] after

/-- A load that fails changes nothing. -/
theorem load_serves (id : DocumentId) (before : Repository) :
    Ends (load id) before (fun _ after => Serves id before after)
      fun _ after => after = before := by
  apply Ends.lookThen
  by_cases loaded : before.checkedOut.isLoaded id = true
  · rw [if_pos loaded]
    exact Ends.value (Or.inl ⟨loaded, rfl⟩)
  rw [if_neg loaded]
  by_cases fails : before.failLoads = true
  · rw [if_pos fails]
    exact Ends.fail rfl
  rw [if_neg fails]
  cases published : before.published.body id with
  | error failure => exact Ends.fail rfl
  | ok body =>
    dsimp only
    cases given : before.checkedOut.setBody id body with
    | error failure => exact Ends.fail rfl
    | ok checkedOut =>
      obtain ⟨found, stored, rfl⟩ := setBody_eq_ok given
      have missing := body_eq_none_of_not_isLoaded stored loaded
      exact Ends.modified (Or.inr ⟨rfl, .single stored missing published⟩)

/-- Loads of distinct documents without a body are loads of all of them. -/
theorem loads_of_chain (distinct : ids.Nodup)
    (unloaded : ∀ id ∈ ids, before.checkedOut.isLoaded id = false)
    (chain : Chain Serves ids before after) : before.Loads ids after := by
  induction chain with
  | nil state => exact .nil state
  | @cons id later before middle after first _ inductionHypothesis =>
    obtain ⟨isNew, distinctLater⟩ := List.nodup_cons.mp distinct
    obtain ⟨unloadedFirst, unloadedLater⟩ := List.forall_mem_cons.mp unloaded
    rcases first with ⟨loaded, _⟩ | loadsFirst
    · exact nomatch loaded.symm.trans unloadedFirst
    refine loadsFirst.cons (inductionHypothesis distinctLater fun other member => ?_) isNew
    have elsewhere : other ∉ [id] := fun same => isNew (List.mem_singleton.mp same ▸ member)
    rw [isLoaded, loadsFirst.obtains.others other elsewhere]
    exact unloadedLater other member

/-- A bulk load that is done loads exactly what is missing, and one that fails loads some of it. -/
theorem loadAll_loads (repository : Repository) (kind : DocumentKind) (modules : List String) :
    Ends (loadAll kind modules) repository
      (fun count after => ∃ ids, pending repository.checkedOut kind modules = .ok ids ∧
        count = ids.length ∧ repository.Loads ids after)
      fun _ after => ∃ ids, ids.Nodup ∧
        (∀ id ∈ ids, repository.checkedOut.IsMissing kind modules id) ∧
          repository.Loads ids after := by
  apply Ends.lookThen
  cases chosen : pending repository.checkedOut kind modules with
  | error failure => exact Ends.fail ⟨[], List.nodup_nil, nofun, .nil repository⟩
  | ok ids =>
    obtain ⟨distinct, missing⟩ := pending_eq_ok chosen
    have unloaded : ∀ id ∈ ids, repository.checkedOut.isLoaded id = false := by
      intro id member
      obtain ⟨found, stored, _, isNone, _⟩ := (missing id).mp member
      exact (not_isLoaded_iff stored).mpr isNone
    have steps : ∀ id ∈ ids, ∀ before, True → Ends (load id) before
        (fun _ after => Serves id before after ∧ True) fun _ after => True ∧ after = before :=
      fun id _ before _ => (load_serves id before).mono (fun _ _ serves => ⟨serves, trivial⟩)
        fun _ _ same => ⟨trivial, same⟩
    refine Ends.andThen ((Ends.chain steps trivial).onFailed ?_) ?_
    · rintro failure after ⟨_, served, isPrefix, chain⟩
      refine ⟨served, distinct.sublist isPrefix.sublist,
        fun id member => (missing id).mp (isPrefix.subset member), ?_⟩
      exact loads_of_chain (distinct.sublist isPrefix.sublist)
        (fun id member => unloaded id (isPrefix.subset member)) chain
    · exact fun _ after chain => Ends.value ⟨ids, rfl, rfl, loads_of_chain distinct unloaded chain⟩

/-- When nothing is pending a bulk load is done without any load. -/
theorem run_loadAll_of_nothing (nothing : pending repository.checkedOut kind modules = .ok []) :
    (loadAll kind modules).run repository = .ok 0 repository := by
  rw [loadAll, EStateM.run_bind]
  simp only [EStateM.run_get, nothing]
  rfl

/-- A bulk load that is done counts and loads exactly the documents of the kind that are missing in
listed modules, and nothing else changes, but that a document takes the name of its body. A second
one loads nothing. A bulk load that fails has loaded some of these documents. Loads, commits,
checkouts, runs and what is created lead to a state where no name changes, and where a bulk load
fails only if loads are made to fail. -/
theorem bulk_load_fills_in (repository : Repository) (kind : DocumentKind) (modules : List String) :
    (∀ count after, (loadAll kind modules).run repository = .ok count after →
      (∃ ids, ids.Nodup ∧ (∀ id, id ∈ ids ↔ repository.checkedOut.IsMissing kind modules id) ∧
        count = ids.length ∧ repository.Loads ids after) ∧
      (loadAll kind modules).run after = .ok 0 after) ∧
    (∀ failure after, (loadAll kind modules).run repository = .error failure after →
      ∃ ids, ids.Nodup ∧ (∀ id ∈ ids, repository.checkedOut.IsMissing kind modules id) ∧
        repository.Loads ids after) ∧
    (∀ project events, repository = ((History.ofProject project).undergoAll events).repository →
      (repository.afterStep (loadAll kind modules)).checkedOut.unloadAll =
          repository.checkedOut.unloadAll ∧
        (repository.failLoads = false →
          ∃ count after, (loadAll kind modules).run repository = .ok count after)) := by
  have ends := loadAll_loads repository kind modules
  refine ⟨fun count after done => ?_, fun failure after failed => ends.of_error failed, ?_⟩
  · obtain ⟨ids, chosen, counted, loads⟩ := ends.of_ok done
    obtain ⟨distinct, missing⟩ := pending_eq_ok chosen
    have nothing := pending_of_obtains chosen loads.obtains
    exact ⟨⟨ids, distinct, missing, counted, loads⟩, run_loadAll_of_nothing nothing⟩
  · rintro project events rfl
    have sound := ((History.tracked_ofProject project).undergoAll events).sound
    have loading := loadAll_ends sound kind modules
    refine ⟨afterStep_of_ends (loading.mono (fun _ _ done => done.1.fills.unloadAll_eq)
      fun _ _ failed => failed.1.fills.unloadAll_eq), fun loads => ?_⟩
    have never : Ends (loadAll kind modules) _ _ Never :=
      loading.onFailed fun _ _ failed => nomatch failed.2.1.symm.trans loads
    obtain ⟨count, after, done, _⟩ := never.exists_ok
    exact ⟨count, after, done⟩

/-! ### Names that change -/

/-- A repository to which events and edits of the checked-out workspace lead. -/
inductive Reachable : Repository → Prop where
  | ofProject (project : Project) : Reachable (ofProject project)
  | undergo {repository : Repository} (reachable : Reachable repository) (event : Event) :
    Reachable (repository.undergo event)
  | edit {repository : Repository} (reachable : Reachable repository) (change : Edit) :
    Reachable { repository with checkedOut := repository.checkedOut.edit change }

/-- The repository after edits of the checked-out workspace. -/
def edited (repository : Repository) (changes : List Edit) : Repository :=
  { repository with checkedOut := repository.checkedOut.editAll changes }

/-- Edits of the checked-out workspace lead to a state that can be reached. -/
theorem Reachable.edited (reachable : repository.Reachable) (changes : List Edit) :
    (repository.edited changes).Reachable := by
  induction changes generalizing repository with
  | nil => exact reachable
  | cons change later inductionHypothesis => exact inductionHypothesis (reachable.edit change)

/-- A module with a page. -/
def homepage : Project := ⟨[⟨"Shop", ⟨[]⟩, [], [.page ⟨"Home", false, []⟩]⟩]⟩

/-- The page was given another name by hand, and its body was dropped. -/
def renamed : Repository :=
  (ofProject homepage).edited [.setBody 1 (.page ⟨"Start", false, []⟩), .unloadAll]

/-- There is a second page besides, which is published nowhere, and its body was dropped too. -/
def stranded : Repository :=
  (ofProject homepage).edited
    [.setBody 1 (.page ⟨"Start", false, []⟩), .createDocument 0 (.page ⟨"Local", false, []⟩),
      .unloadAll]

/-- In the repository with a renamed page a bulk load is done, and done again it loads nothing. In
that with a page that is not published it fails. -/
theorem bulk_load_fills_in_renamed :
    (∃ after, (loadAll .page ["Shop"]).run renamed = .ok 1 after ∧
      (loadAll .page ["Shop"]).run after = .ok 0 after) ∧
    ∃ ids after, (loadAll .page []).run stranded = .error (.unknownDocument 2) after ∧
      stranded.Loads ids after := by
  have done : (loadAll .page ["Shop"]).run renamed =
    .ok 1 (renamed.afterStep (loadAll .page ["Shop"])) := by cbv
  have failed : (loadAll .page []).run stranded =
    .error (.unknownDocument 2) (stranded.afterStep (loadAll .page [])) := by cbv
  obtain ⟨ids, _, _, loads⟩ := (bulk_load_fills_in stranded .page []).2.1 _ _ failed
  have again := ((bulk_load_fills_in renamed .page ["Shop"]).1 _ _ done).2
  exact ⟨⟨_, done, again⟩, ids, _, failed, loads⟩

/-- A bulk load gives a document back the name that is published, also when it fails. -/
theorem bulk_load_renames :
    (renamed.Reachable ∧ ∃ after, (loadAll .page []).run renamed = .ok 1 after ∧
      renamed.checkedOut.documents.map Document.name = ["DomainModel", "Start"] ∧
      after.checkedOut.documents.map Document.name = ["DomainModel", "Home"]) ∧
    (stranded.Reachable ∧ ∃ after,
      (loadAll .page []).run stranded = .error (.unknownDocument 2) after ∧
      stranded.checkedOut.documents.map Document.name = ["DomainModel", "Start", "Local"] ∧
      after.checkedOut.documents.map Document.name = ["DomainModel", "Home", "Local"]) := by
  have reachable : ∀ changes, ((ofProject homepage).edited changes).Reachable :=
    (Reachable.ofProject homepage).edited
  refine ⟨⟨reachable _, renamed.afterStep (loadAll .page []), ?_⟩,
    reachable _, stranded.afterStep (loadAll .page []), ?_⟩
  · refine ⟨?_, ?_, ?_⟩ <;> cbv
  · refine ⟨?_, ?_, ?_⟩ <;> cbv

end Repository

end FlowModel
