import FlowModel.Proofs.Generation.Creation

/-!
# What reports list

The report of a generator lists the qualified names of the microflows that it has created, in the
order of their documents. When the names of modules have no dots, a microflow is created only under
a name by which none is found, and from then on it is the one that is found by it. So the documents
can be found again by the names in the report, one for each name (`generator_lists`).
-/

namespace FlowModel

/-- Names that are found each at its own place are found at all those places in order. -/
theorem filterMap_eq_of_forall₂ {α β : Type} {find : β → Option α} {places : List α}
    {names : List β} (each : List.Forall₂ (fun place name => find name = some place) places names) :
    names.filterMap find = places := by
  induction each with
  | nil => rfl
  | cons found _ inductionHypothesis => rw [List.filterMap_cons_some found, inductionHypothesis]

namespace Generation

variable {first : Nat} {work before after : Work}

/-- The documents from a place on are those with the names in the report, in order, and each is
found by its name. -/
structure Listed (first : Nat) (work : Work) : Prop where
  length_eq : work.workspace.documents.length = first + work.report.createdMicroflows.length
  named : List.Forall₂
    (fun id name => work.workspace.qualifiedName id = .ok name ∧
      work.workspace.find? .microflow name = some id)
    (List.range' first work.report.createdMicroflows.length) work.report.createdMicroflows

namespace Listed

/-- Before anything is created the report lists nothing. -/
theorem fresh (workspace : Workspace) (kind : RunKind) :
    Listed workspace.documents.length ⟨workspace, .empty kind⟩ :=
  ⟨rfl, .nil⟩

/-- A microflow with a free name is listed behind the others. -/
theorem fulfils {request : Request} (listed : Listed first before)
    (rooted : before.workspace.Rooted) (undotted : '.' ∉ request.moduleName.toList)
    (named : before.workspace.moduleNamed? request.moduleName = some request.owner)
    (fulfils : Fulfils request before after) : Listed first after := by
  have keeps := fulfils.keeps
  have inside := Workspace.lt_of_moduleOf (Workspace.moduleOf_of_moduleNamed? named)
  cases fulfils with
  | taken found => exact ⟨listed.length_eq, listed.named⟩
  | @created folder between name free opened known =>
    have created : between.report.createdMicroflows = before.report.createdMicroflows := by
      rw [opened.report_eq]
      rfl
    have documents : between.workspace.documents = before.workspace.documents := opened.documents
    have located := opened.moduleOf_pushDocument rooted named
    have grown : (between.workspace.pushDocument folder (.microflow request.content)).documents =
        before.workspace.documents ++ [.ofBody folder (.microflow request.content)] := by
      rw [Workspace.pushDocument, documents]
    have isFound := keeps.find?_concat rooted undotted named grown free rfl located
    obtain rfl : request.name = name :=
      Except.ok.inj ((opened.qualifiedName_pushDocument rooted named).symm.trans known)
    rw [documents] at known
    constructor
    · simp only [Workspace.pushDocument, Report.addMicroflow, created, documents,
        List.length_append, listed.length_eq]
      rfl
    · simp only [Report.addMicroflow, created, List.length_append, List.length_singleton,
        List.range'_1_concat, ← listed.length_eq]
      refine List.rel_append ?_ (.cons ⟨known, isFound⟩ .nil)
      refine listed.named.imp fun id name holds => ?_
      exact ⟨keeps.qualifiedName holds.1, keeps.find? rooted holds.2⟩

/-- There is one name in the report for each document that was created. Folders are listed
elsewhere. -/
theorem counted (listed : Listed first work) :
    work.workspace.documents.length - first = work.report.createdMicroflows.length := by
  rw [listed.length_eq, Nat.add_sub_cancel_left]

/-- The names in the report are the qualified names of the documents that were created, in order. -/
theorem mapM_qualifiedName (listed : Listed first work) :
    (List.range' first (work.workspace.documents.length - first)).mapM
      work.workspace.qualifiedName = .ok work.report.createdMicroflows := by
  rw [listed.counted]
  exact mapM_eq_ok.mpr (listed.named.imp fun _ _ holds => holds.1)

/-- The documents are found again by the names in the report. -/
theorem filterMap_find? (listed : Listed first work) :
    work.report.createdMicroflows.filterMap (work.workspace.find? .microflow) =
      List.range' first (work.workspace.documents.length - first) := by
  rw [listed.counted]
  exact filterMap_eq_of_forall₂ (listed.named.imp fun _ _ holds => holds.2)

/-- All is listed after a chain of requests in modules with names without dots. -/
theorem served {requests : List Request} (listed : Listed first before)
    (rooted : before.workspace.Rooted)
    (undotted : ∀ request ∈ requests, '.' ∉ request.moduleName.toList)
    (served : Served requests before after) : Listed first after :=
  (served.keeps rooted (fun request member _ _ named rootedThen fulfils listedThen =>
    listedThen.fulfils rootedThen (undotted request member) named fulfils) listed).2.2

end Listed

/-! ## Generators -/

/-- A generator of microflows lists all that it creates, if the modules in which it creates them
have names without dots. -/
theorem generator_lists {settings : Settings} {kind : RunKind}
    (wellFormed : work.workspace.WellFormed)
    (undotted : ∀ name owner, work.workspace.moduleNamed? name = some owner → '.' ∉ name.toList)
    (creates : kind = .validation ∨ kind = .pageLogging) (listed : Listed first work) :
    Ends (Service.generator settings kind) work (fun _ after => Listed first after)
      fun _ _ => True := by
  refine (generator_served wellFormed.toRooted settings creates).mono ?_ fun _ _ _ => trivial
  rintro _ after ⟨requests, _, served⟩
  exact listed.served wellFormed.toRooted
    (fun request member => undotted _ _ (served.placed request member)) served

end Generation

end FlowModel
