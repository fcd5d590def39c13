import FlowModel.Proofs.Generation.Recoloring
import FlowModel.Proofs.Generation.Requests
import FlowModel.Proofs.Workspace.Labels

/-!
# Edits of a workspace

A checked-out project is edited: folders and documents are created, bodies are given, replaced and
dropped, and generators are called, whether they are done or fail. All workspaces that are reached
so are rooted (`Reachable.rooted`). A call of a generator serves some requests or changes bodies only
(`afterCall_cases`).
-/

namespace FlowModel

/-- A call of a generator, with a report that may tell of earlier calls. -/
structure Call where
  kind : RunKind
  settings : Settings
  report : Report
deriving Repr, Inhabited

namespace Workspace

/-- The workspace after a call, whether the generator is done or has failed. -/
def afterCall (workspace : Workspace) (call : Call) : Workspace :=
  match (Service.generator call.settings call.kind).run ⟨workspace, call.report⟩ with
  | .ok _ after => after.workspace
  | .error _ after => after.workspace

/-- What may be done to a workspace. -/
inductive Edit where
  | createFolder (parent : ContainerId) (name : String)
  | ensureFolder (parent : ContainerId) (name : String)
  | createDocument (holder : ContainerId) (body : DocumentBody)
  | setBody (id : DocumentId) (body : DocumentBody)
  | replaceMicroflow (id : DocumentId) (content : Microflow)
  | unloadAll
  | generate (call : Call)
deriving Repr, Inhabited

/-- The workspace after an edit, if the edit is possible. A microflow is replaced only where one is
loaded. -/
def edit? (workspace : Workspace) : Edit → Except Failure Workspace
  | .createFolder parent name => (workspace.createFolder parent name).map fun made => made.2
  | .ensureFolder parent name => (workspace.ensureFolder parent name).map fun made => made.2.2
  | .createDocument holder body => (workspace.createDocument holder body).map fun made => made.2
  | .setBody id body => workspace.setBody id body
  | .replaceMicroflow id content =>
    (workspace.microflow id).map fun _ => workspace.replaceMicroflow id content
  | .unloadAll => .ok workspace.unloadAll
  | .generate call => .ok (workspace.afterCall call)

/-- The workspace after an edit. An edit that is not possible leaves it as it is. -/
def edit (workspace : Workspace) (change : Edit) : Workspace :=
  match workspace.edit? change with
  | .ok after => after
  | .error _ => workspace

/-- The workspace after some edits. -/
def editAll (workspace : Workspace) (changes : List Edit) : Workspace := changes.foldl edit workspace

variable {workspace after : Workspace} {call : Call}

/-! ## Calls -/

/-- What holds of a workspace whether a generator is done or has failed holds of it after the
call. -/
theorem afterCall_of_ends (call : Call) (holds : Workspace → Prop)
    (ends : Ends (Service.generator call.settings call.kind) ⟨workspace, call.report⟩
      (fun _ after => holds after.workspace) fun _ after => holds after.workspace) :
    holds (workspace.afterCall call) := by
  rw [afterCall]
  cases ran : (Service.generator call.settings call.kind).run ⟨workspace, call.report⟩ with
  | ok value after => exact ends.of_ok ran
  | error failure after => exact ends.of_error ran

/-- Replacing a microflow changes no label. -/
theorem unloadAll_replaceMicroflow (workspace : Workspace) (id : DocumentId) (content : Microflow) :
    (workspace.replaceMicroflow id content).unloadAll = workspace.unloadAll := by
  refine (Workspace.mk.injEq ..).mpr ⟨rfl, List.ext_getElem? fun other => ?_⟩
  rw [List.getElem?_map, List.getElem?_map, replaceMicroflow, getElem?_modifyDocument]
  cases workspace.documents[other]? with
  | none => rfl
  | some found => by_cases same : id = other <;> simp [same]

/-- Recoloring changes bodies only, also when it breaks off. -/
theorem unloadAll_recolorMicroflows (work : Work) (settings : RecolorSettings) :
    Ends (Generation.recolorMicroflows settings) work
      (fun _ after => after.workspace.unloadAll = work.workspace.unloadAll)
      fun _ after => after.workspace.unloadAll = work.workspace.unloadAll := by
  refine Generation.asking (fun _ _ => rfl) fun selected _ => ?_
  refine Ends.eachKeeps (fun id _ between same => ?_) rfl
  refine Generation.asking (fun _ _ => same) fun content _ => ?_
  have recolored := (unloadAll_replaceMicroflow between.workspace id content.recolored).trans same
  apply Ends.modifyThen
  by_cases wrong : 0 < content.miscolored
  · rw [if_pos wrong]
    exact Generation.asking (fun _ _ => recolored) fun _ _ => Ends.modified recolored
  · rw [if_neg wrong]
    exact Ends.value recolored

/-- A call serves some requests, or it changes bodies only. -/
theorem afterCall_cases (rooted : workspace.Rooted) (call : Call) :
    (∃ requests report, Generation.Served requests ⟨workspace, call.report⟩
      ⟨workspace.afterCall call, report⟩) ∨
    (workspace.afterCall call).unloadAll = workspace.unloadAll := by
  obtain ⟨kind, settings, report⟩ := call
  have serving (creates : kind = .validation ∨ kind = .pageLogging) :
      ∃ requests after, Generation.Served requests ⟨workspace, report⟩
        ⟨workspace.afterCall ⟨kind, settings, report⟩, after⟩ := by
    have ends : Ends _ (Work.mk workspace report) _ _ :=
      Generation.generator_served rooted settings creates
    refine afterCall_of_ends ⟨kind, settings, report⟩ (fun reached => ∃ requests after,
      Generation.Served requests ⟨workspace, report⟩ ⟨reached, after⟩) (ends.mono ?_ ?_)
    · rintro _ after ⟨requests, _, served⟩
      exact ⟨requests, after.report, served⟩
    · rintro failure after breaksOff
      obtain ⟨requests, served⟩ := breaksOff.exists_served
      exact ⟨requests, after.report, served⟩
  cases kind with
  | validation => exact Or.inl (serving (Or.inl rfl))
  | pageLogging => exact Or.inl (serving (Or.inr rfl))
  | recolor =>
    exact Or.inr (afterCall_of_ends _ (fun reached => reached.unloadAll = workspace.unloadAll)
      (unloadAll_recolorMicroflows ⟨workspace, report⟩ settings.recolor))
  | namingAudit =>
    have ends : Ends _ (Work.mk workspace report) _ _ := Generation.auditNaming_ends settings.naming
    exact Or.inr (congrArg Workspace.unloadAll (afterCall_of_ends _ (fun reached =>
      reached = workspace) (ends.mono (fun _ _ done => done.1) fun _ _ failed => failed.1)))

/-! ## Rooted workspaces -/

namespace Rooted

/-- Bodies do not matter. -/
theorem of_unloadAll_eq (rooted : workspace.Rooted)
    (same : after.unloadAll = workspace.unloadAll) : after.Rooted := by
  have containers : after.containers = workspace.containers := congrArg (·.containers) same
  refine rooted.relocate containers fun {id later} stored => ?_
  have labelled : after.unloadAll.documents[id]? = some later.label := by
    rw [unloadAll, List.getElem?_map, stored]
    rfl
  rw [same, unloadAll, List.getElem?_map] at labelled
  obtain ⟨found, storedFound, label_eq⟩ := Option.map_eq_some_iff.mp labelled
  exact ⟨found, storedFound, (Document.label_eq_iff.mp label_eq).2.2.symm⟩

/-- A generator leaves a rooted workspace when it fails, too. The cases are those of a call: it
serves requests, or it changes bodies only. -/
theorem afterCall (rooted : workspace.Rooted) (call : Call) : (workspace.afterCall call).Rooted := by
  rcases afterCall_cases rooted call with ⟨requests, report, served⟩ | same
  · exact (served.extends_rooted rooted).2
  · exact rooted.of_unloadAll_eq same

/-- A folder that can be created has a parent, so it closes no gap and opens none. -/
theorem createFolder (rooted : workspace.Rooted) {parent : ContainerId} {name : String}
    {id : ContainerId} (made : workspace.createFolder parent name = .ok (id, after)) :
    after.Rooted := by
  obtain ⟨found, stored, same⟩ := bind_eq_ok.mp made
  obtain ⟨_, rfl⟩ := Prod.mk.inj (Except.ok.inj same)
  have inside := lt_of_getElem?_eq_some (container_eq_ok.mp stored)
  exact rooted.pushContainer (.folder inside)

/-- Each edit adds inside of a container that is there, or changes documents in their place. No edit
moves or removes a container, which could leave another without its parent. -/
theorem edit? (rooted : workspace.Rooted) {change : Edit}
    (changed : workspace.edit? change = .ok after) : after.Rooted := by
  cases change with
  | createFolder parent name =>
    obtain ⟨⟨id, _⟩, made, rfl⟩ := map_eq_ok.mp changed
    exact rooted.createFolder made
  | ensureFolder parent name =>
    obtain ⟨⟨id, created, _⟩, made, rfl⟩ := map_eq_ok.mp changed
    obtain ⟨_, rfl⟩ | ⟨_, created⟩ := ensureFolder_cases made
    · exact rooted
    · exact rooted.createFolder created
  | createDocument holder body =>
    obtain ⟨⟨id, _⟩, made, rfl⟩ := map_eq_ok.mp changed
    obtain ⟨found, stored, same⟩ := bind_eq_ok.mp made
    obtain ⟨_, rfl⟩ := Prod.mk.inj (Except.ok.inj same)
    exact rooted.pushDocument (lt_of_getElem?_eq_some (container_eq_ok.mp stored)) body
  | setBody id body =>
    obtain ⟨_, _, same⟩ := bind_eq_ok.mp changed
    obtain rfl := Except.ok.inj same
    refine rooted.relocate rfl fun {other later} stored => ?_
    rw [getElem?_modifyDocument] at stored
    obtain ⟨found, storedFound, rfl⟩ := Option.map_eq_some_iff.mp stored
    exact ⟨found, storedFound, by split <;> rfl⟩
  | replaceMicroflow id content =>
    obtain ⟨_, _, rfl⟩ := map_eq_ok.mp changed
    exact rooted.of_unloadAll_eq (unloadAll_replaceMicroflow ..)
  | unloadAll =>
    obtain rfl := Except.ok.inj changed
    exact rooted.of_unloadAll_eq ((keeps_unloadAll _).unloadAll_eq (unloadAll_within _).keeps)
  | generate call =>
    obtain rfl := Except.ok.inj changed
    exact rooted.afterCall call

/-- An edit that fails changes nothing. -/
theorem edit (rooted : workspace.Rooted) (change : Edit) : (workspace.edit change).Rooted := by
  rw [Workspace.edit]
  cases changed : workspace.edit? change with
  | ok after => exact rooted.edit? changed
  | error failure => exact rooted

/-- Any edits may follow each other, those that fail among them. -/
theorem editAll (rooted : workspace.Rooted) (changes : List Edit) :
    (workspace.editAll changes).Rooted := by
  induction changes generalizing workspace with
  | nil => exact rooted
  | cons change later inductionHypothesis => exact inductionHypothesis (rooted.edit change)

end Rooted

/-- A workspace to which edits of a checked-out project lead. -/
def Reachable (workspace : Workspace) : Prop :=
  ∃ project changes, workspace = (ofProject project).editAll changes

/-- A project that has been checked out is reached without edits. -/
theorem reachable_ofProject (project : Project) : (ofProject project).Reachable := ⟨project, [], rfl⟩

/-- Whatever is done to a checked-out project, it stays rooted. -/
theorem Reachable.rooted (reachable : workspace.Reachable) : workspace.Rooted := by
  obtain ⟨project, changes, rfl⟩ := reachable
  exact (wellFormed_ofProject project).toRooted.editAll changes

/-! ## A sample -/

/-- A module with an entity, a page and a microflow, and a module for logging. -/
def sample : Project :=
  ⟨[⟨"Sales", ⟨[⟨"Order", [⟨"Total", .decimal⟩, ⟨"Number", .autoNumber⟩]⟩]⟩,
      [⟨"Pages", [], [.page ⟨"Overview", false, []⟩]⟩], [.microflow (.empty "Check" .void)]⟩,
    ⟨"CustomLogging", ⟨[]⟩, [],
      [.javaAction ⟨"Java_IPAddress", none⟩, .javaAction ⟨"Java_BrowserType", none⟩]⟩]⟩

/-- Default settings, by which the entity of the sample is checked. -/
def sampleSettings : Settings :=
  { Settings.standard with
    validation := { ValidationSettings.standard with modules := [⟨"Sales", []⟩] } }

end Workspace

end FlowModel
