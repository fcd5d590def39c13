import FlowModel.Proofs.Drawing.ValidationOutcome
import FlowModel.Proofs.Generation.Edits

/-!
# What reports account for

A generator of microflows appends folders and microflows and changes nothing else. Its report lists
the paths of these folders and the names of these microflows in their order, counts their nodes and
notes what was left out, request by request, and no folder is left empty. So a report that was fresh
tells of a change exactly when there is one (`all_is_reported`).
-/

namespace FlowModel

/-- A microflow and the container in which it was created. -/
structure Filing where
  holder : ContainerId
  content : Microflow
deriving Repr, Inhabited

/-- The document of a created microflow. -/
def Filing.document (filing : Filing) : Document :=
  .ofBody filing.holder (.microflow filing.content)

namespace Generation

open Workspace

/-! ## Answers about what was appended -/

/-- The answers to a question about all places from one on, in order. -/
def Tally (question : Nat → Except Failure String) (first total : Nat) (answers : List String) :
    Prop :=
  (List.range' first (total - first)).mapM question = .ok answers

namespace Tally

variable {question question' : Nat → Except Failure String} {first total : Nat}
  {answers : List String}

/-- No places give no answers. -/
theorem nothing (question : Nat → Except Failure String) (first : Nat) :
    Tally question first first [] := by
  rw [Tally, Nat.sub_self]
  rfl

/-- There is one answer for each place. -/
theorem length_eq (tally : Tally question first total answers) :
    answers.length = total - first := by
  rw [← (mapM_eq_ok.mp tally).length_eq, List.length_range']

/-- Answers that are kept are still the answers. -/
theorem kept (tally : Tally question first total answers)
    (keeps : ∀ place answer, question place = .ok answer → question' place = .ok answer) :
    Tally question' first total answers :=
  mapM_eq_ok.mpr ((mapM_eq_ok.mp tally).imp keeps)

/-- One more place has one more answer. -/
theorem concat (tally : Tally question first total answers) (started : first ≤ total)
    {answer : String} (answered : question total = .ok answer) :
    Tally question first (total + 1) (answers ++ [answer]) := by
  have last : first + (total - first) = total := Nat.add_sub_of_le started
  rw [Tally, Nat.succ_sub started, List.range'_1_concat, last]
  exact mapM_eq_ok.mpr (List.rel_append (mapM_eq_ok.mp tally) (.cons answered .nil))

end Tally

/-! ## Folders -/

namespace Opens

variable {before after : Work} {root folder : ContainerId}

/-- All folders that were created lie on the way down, so the last one lies in each of them. -/
theorem encloses_of_new (opens : Opens root before folder after) {id : ContainerId}
    (isNew : before.workspace.containers.length ≤ id)
    (inside : id < after.workspace.containers.length) : after.workspace.Encloses id folder := by
  induction opens with
  | here => exact absurd inside (Nat.not_lt.mpr isNew)
  | entered _ below inductionHypothesis => exact (inductionHypothesis inside).trans below
  | @created base name path between _ _ inductionHypothesis =>
    rcases Nat.lt_or_ge id between.workspace.containers.length with earlier | last
    · exact .inside (stored_pushContainer ..) (Container.isFolderIn_parent ..)
        ((inductionHypothesis earlier).mono (containers_pushContainer ..))
    · rw [pushContainer, List.length_append] at inside
      obtain rfl := Nat.le_antisymm (Nat.le_of_lt_succ inside) last
      exact .itself

/-- The paths of all folders that were created are noted. -/
theorem tally {first : Nat} (opens : Opens root before folder after)
    (started : first ≤ before.workspace.containers.length)
    (paths : Tally before.workspace.path first before.workspace.containers.length
      before.report.createdFolders) :
    Tally after.workspace.path first after.workspace.containers.length
      after.report.createdFolders := by
  induction opens with
  | here => exact paths
  | entered _ _ inductionHypothesis => exact inductionHypothesis
  | @created base name path between opened known inductionHypothesis =>
    have keeps := (Extends.pushContainer between.workspace ⟨name, .folder, some base⟩).within.keeps
    have more := (inductionHypothesis.kept fun _ _ => keeps.path).concat
      (Nat.le_trans started opened.containers.length_le) known
    simpa [pushContainer, Report.addFolder] using more

end Opens

/-! ## Requests -/

/-- What has become of a request: the microflow that was created for it, if any, and what was noted
as left out. -/
structure Outcome where
  filed : Option Filing
  left : List Skip
deriving Repr, Inhabited

/-- The microflows that were created. -/
def filings (outcomes : List Outcome) : List Filing := outcomes.filterMap Outcome.filed

/-- A request gives a note that its name is taken, or it gives its microflow. -/
inductive Request.Gives (request : Request) : Outcome → Prop where
  | taken : Gives request ⟨none, [⟨request.name, .nameCollision⟩]⟩
  | created (folder : ContainerId) : Gives request ⟨some ⟨folder, request.content⟩, request.leftOut⟩

/-- All that has been appended to a workspace is reported, and what became of some requests is all
that has been appended and noted. -/
structure Accounts (before : Workspace) (outcomes : List Outcome) (after : Work) : Prop where
  containers : before.containers <+: after.workspace.containers
  folders : ∀ (id : ContainerId) (found : Container), before.containers.length ≤ id →
    after.workspace.containers[id]? = some found → found.isModule = false
  documents : after.workspace.documents =
    before.documents ++ (filings outcomes).map Filing.document
  names : Tally after.workspace.qualifiedName before.documents.length
    after.workspace.documents.length after.report.createdMicroflows
  paths : Tally after.workspace.path before.containers.length
    after.workspace.containers.length after.report.createdFolders
  nodes : after.report.createdNodes =
    ((filings outcomes).map fun filing => filing.content.nodes.length).sum
  occupied : ∀ id : ContainerId, before.containers.length ≤ id →
    id < after.workspace.containers.length →
      ∃ filing ∈ filings outcomes, after.workspace.Encloses id filing.holder
  skips : after.report.skips = outcomes.flatMap Outcome.left
  recolored : after.report.recolored = 0

namespace Accounts

variable {start : Workspace} {outcomes : List Outcome} {before after : Work} {request : Request}

/-- A fresh report accounts for nothing, in a workspace in which nothing has been done. -/
theorem fresh (workspace : Workspace) (kind : RunKind) :
    Accounts workspace [] ⟨workspace, .empty kind⟩ where
  containers := List.prefix_rfl
  folders _ _ isNew stored := absurd (lt_of_getElem?_eq_some stored) (Nat.not_lt.mpr isNew)
  documents := (List.append_nil _).symm
  names := .nothing _ _
  paths := .nothing _ _
  nodes := rfl
  occupied _ isNew inside := absurd inside (Nat.not_lt.mpr isNew)
  skips := rfl
  recolored := rfl

/-- A request adds at most one filing, behind those before it. -/
theorem filings_concat (outcomes : List Outcome) (outcome : Outcome) :
    filings (outcomes ++ [outcome]) = filings outcomes ++ outcome.filed.toList := by
  rw [filings, List.filterMap_append]
  cases filed : outcome.filed <;> simp [filings, filed]

/-- A name that is taken is noted. -/
theorem collision (accounts : Accounts start outcomes before) (subject : String) :
    Accounts start (outcomes ++ [⟨none, [⟨subject, .nameCollision⟩]⟩])
      { before with report := before.report.skip subject .nameCollision } := by
  have same : filings (outcomes ++ [⟨none, [⟨subject, .nameCollision⟩]⟩]) = filings outcomes := by
    rw [filings_concat]
    exact List.append_nil _
  exact {
    containers := accounts.containers
    folders := accounts.folders
    documents := same ▸ accounts.documents
    names := accounts.names
    paths := accounts.paths
    nodes := same ▸ accounts.nodes
    occupied := same ▸ accounts.occupied
    skips := by
      rw [List.flatMap_append, ← accounts.skips]
      rfl
    recolored := accounts.recolored }

/-- A microflow in a folder at the end of a way down is filed. The way down accounts for the paths of
its folders, and the microflow, which lies in the last of them, makes all of them occupied. What was
accounted for before stays so, because names and paths do not change. -/
theorem filed {name : String} {folder : ContainerId} {between : Work}
    (accounts : Accounts start outcomes before)
    (opened : Opens request.owner
      { before with report := before.report.skipAll request.leftOut } folder between)
    (known : (between.workspace.pushDocument folder (.microflow request.content)).qualifiedName
      between.workspace.documents.length = .ok name) :
    Accounts start (outcomes ++ [⟨some ⟨folder, request.content⟩, request.leftOut⟩])
      ⟨between.workspace.pushDocument folder (.microflow request.content),
        { between.report.addMicroflow name with
          createdNodes := between.report.createdNodes + request.content.nodes.length }⟩ := by
  have further : filings (outcomes ++ [⟨some ⟨folder, request.content⟩, request.leftOut⟩]) =
      filings outcomes ++ [⟨folder, request.content⟩] := filings_concat ..
  have noted := opened.report_eq
  have documents : between.workspace.documents = before.workspace.documents := opened.documents
  have pushed :=
    (Extends.pushDocument between.workspace folder (.microflow request.content)).within.keeps
  have keeps := opened.isExtension.within.keeps.trans pushed
  have started : start.documents.length ≤ before.workspace.documents.length := by
    rw [accounts.documents]
    simp
  exact {
    containers := accounts.containers.trans opened.containers
    folders := by
      intro id found isNew stored
      refine Bool.eq_false_iff.mpr fun isModule => ?_
      have earlier := opened.stored_of_isModule stored isModule
      exact Bool.eq_false_iff.mp (accounts.folders id found isNew earlier) isModule
    documents := by
      rw [further, pushDocument, documents, accounts.documents, List.map_append,
        List.append_assoc]
      rfl
    names := by
      have created : between.report.createdMicroflows = before.report.createdMicroflows :=
        congrArg (·.createdMicroflows) noted
      have total : (between.workspace.pushDocument folder
          (.microflow request.content)).documents.length = before.workspace.documents.length + 1 := by
        rw [pushDocument, List.length_append, documents]
        rfl
      have more := (accounts.names.kept fun _ _ => keeps.qualifiedName).concat started
        (documents ▸ known)
      rw [← total, ← created] at more
      exact more
    paths := (opened.tally accounts.containers.length_le accounts.paths).kept
      fun _ _ => pushed.path
    nodes := by
      have counted : between.report.createdNodes = before.report.createdNodes :=
        congrArg (·.createdNodes) noted
      rw [further, List.map_append, List.sum_append, ← accounts.nodes, ← counted]
      rfl
    occupied := by
      intro id isNew inside
      rw [further]
      -- A folder that is new in this step lies on the way down, all others were occupied before.
      rcases Nat.lt_or_ge id before.workspace.containers.length with earlier | later
      · obtain ⟨filing, member, encloses⟩ := accounts.occupied id isNew earlier
        exact ⟨filing, List.mem_append_left _ member, encloses.mono keeps.containers⟩
      · exact ⟨_, List.mem_append_right _ List.mem_cons_self,
          (opened.encloses_of_new later inside).mono pushed.containers⟩
    skips := by
      have left : between.report.skips = before.report.skips ++ request.leftOut :=
        congrArg (·.skips) noted
      rw [List.flatMap_append, ← accounts.skips, List.flatMap_singleton]
      exact left
    recolored := (congrArg (·.recolored) noted).trans accounts.recolored }

/-- A fulfilled request is accounted for. -/
theorem fulfils (accounts : Accounts start outcomes before)
    (fulfils : Fulfils request before after) :
    ∃ outcome, request.Gives outcome ∧ Accounts start (outcomes ++ [outcome]) after := by
  cases fulfils with
  | taken => exact ⟨_, .taken, accounts.collision request.name⟩
  | @created folder _ _ _ opened known => exact ⟨_, .created folder, accounts.filed opened known⟩

/-- Some requests that have been served are all accounted for. -/
theorem served {requests : List Request} (accounts : Accounts start outcomes before)
    (served : Served requests before after) :
    ∃ further, List.Forall₂ Request.Gives requests further ∧
      Accounts start (outcomes ++ further) after :=
  served.chain.record (fun _ _ _ _ _ fulfils accountsThen => accountsThen.fulfils fulfils) accounts

/-- The report tells of a change exactly when there is one. -/
theorem hasChanges_iff (accounts : Accounts start outcomes after) :
    after.report.hasChanges = true ↔ after.workspace ≠ start := by
  have names := accounts.names.length_eq
  have paths := accounts.paths.length_eq
  constructor
  · rintro told rfl
    rw [Nat.sub_self] at names paths
    rw [Report.hasChanges, accounts.recolored, List.length_eq_zero_iff.mp names,
      List.length_eq_zero_iff.mp paths] at told
    exact absurd told Bool.false_ne_true
  · intro changed
    by_contra untold
    simp only [Report.hasChanges, Bool.or_eq_true, not_or, Bool.not_eq_true, Bool.not_eq_false',
      List.isEmpty_iff] at untold
    obtain ⟨⟨noName, noPath⟩, _⟩ := untold
    -- There is a name for each document and a path for each folder, so nothing was appended.
    rw [noName] at names
    rw [noPath] at paths
    have documents : start.documents <+: after.workspace.documents :=
      ⟨_, accounts.documents.symm⟩
    have sameContainers :=
      accounts.containers.eq_of_length_le (Nat.le_of_sub_eq_zero paths.symm)
    have sameDocuments := documents.eq_of_length_le (Nat.le_of_sub_eq_zero names.symm)
    exact changed ((Workspace.mk.injEq ..).mpr ⟨sameContainers.symm, sameDocuments.symm⟩)

end Accounts

/-! ## Validation targets -/

/-- What becomes of an entity: a note that the name of its microflow is taken, or a microflow of that
name with one split for each attribute that is not noted for its type. -/
inductive Settles (settings : ValidationSettings) (target : ValidationTarget) : Outcome → Prop where
  | taken : Settles settings target ⟨none, [⟨QualifiedName.qualified target.moduleName
      (settings.microflowName target.entity.name), .nameCollision⟩]⟩
  | created {filing : Filing} {left : List Skip}
    (named : filing.content.name = settings.microflowName target.entity.name)
    (counted : filing.content.nodes.countP Node.isSplit + left.length =
      target.entity.attributes.length)
    (unsupported : ∀ skip ∈ left, ∃ typeName, skip.reason = .unsupportedType typeName) :
    Settles settings target ⟨some filing, left⟩

/-- The outcome of a request for an entity is one of two: its name was taken and nothing else is
noted, or each of its attributes is checked by a split or noted for its type. -/
theorem settles_of_gives {settings : ValidationSettings} {target : ValidationTarget}
    {outcome : Outcome} (gives : (target.request settings).Gives outcome) :
    Settles settings target outcome := by
  cases gives with
  | taken => exact .taken
  | created folder =>
    refine .created rfl ?_ ?_
    · have counted := countP_isSplit_validationPlan target.entity target.moduleName settings
      rwa [← List.length_map] at counted
    · intro skip member
      obtain ⟨unchecked, _, rfl⟩ := List.mem_map.mp member
      exact ⟨unchecked.typeName, rfl⟩

end Generation

namespace Workspace

open Generation

/-- In every workspace that is reached by edits, when a generator of microflows is done with a
report that was fresh, the report accounts for all that has been appended, and it tells of a change
exactly when there is one. A validation gives for each target a note that its name is taken or a
microflow, in which every attribute that is not noted for its type has a split. -/
theorem all_is_reported {workspace : Workspace} (reachable : workspace.Reachable)
    {settings : Settings} {kind : RunKind} (creates : kind = .validation ∨ kind = .pageLogging)
    (fresh : RunKind) {after : Work}
    (done : (Service.generator settings kind).run ⟨workspace, .empty fresh⟩ = .ok () after) :
    ∃ outcomes, Accounts workspace outcomes after ∧
      (after.report.hasChanges = true ↔ after.workspace ≠ workspace) ∧
      (kind = .validation → ∃ targets,
        workspace.validationTargets settings.validation = .ok targets ∧
          List.Forall₂ (Settles settings.validation) targets outcomes) := by
  obtain ⟨requests, asks, served⟩ :=
    (generator_served reachable.rooted settings creates).of_ok done
  obtain ⟨outcomes, gives, accounts⟩ := (Accounts.fresh workspace fresh).served served
  refine ⟨outcomes, accounts, accounts.hasChanges_iff, ?_⟩
  rintro rfl
  cases asks with
  | validation selected =>
    refine ⟨_, selected, (List.forall₂_map_left_iff.mp gives).imp ?_⟩
    exact fun _ _ => settles_of_gives

/-- An order with a checked and an unchecked attribute is accounted for. -/
theorem all_is_reported_sample :
    ∃ after, (Service.generator sampleSettings .validation).run
        ⟨.ofProject sample, .empty .validation⟩ = .ok () after ∧
      ∃ outcomes, Accounts (.ofProject sample) outcomes after ∧
        (after.report.hasChanges = true ↔ after.workspace ≠ .ofProject sample) ∧
        List.Forall₂ (Settles sampleSettings.validation)
          [⟨0, "Sales", ⟨"Order", [⟨"Total", .decimal⟩, ⟨"Number", .autoNumber⟩]⟩⟩] outcomes := by
  obtain ⟨⟨⟩, after, ran, _⟩ := Ends.exists_ok
    (by cbv : Ends (Service.generator sampleSettings .validation)
      ⟨.ofProject sample, .empty .validation⟩ (fun _ _ => True) Never)
  obtain ⟨outcomes, accounts, told, settled⟩ :=
    all_is_reported (reachable_ofProject sample) (Or.inl rfl) .validation ran
  obtain ⟨targets, selected, settles⟩ := settled rfl
  have only : (ofProject sample).validationTargets sampleSettings.validation =
      .ok [⟨0, "Sales", ⟨"Order", [⟨"Total", .decimal⟩, ⟨"Number", .autoNumber⟩]⟩⟩] := by cbv
  obtain rfl := Except.ok.inj (only.symm.trans selected)
  exact ⟨after, ran, outcomes, accounts, told, settles⟩

end Workspace

end FlowModel
