import FlowModel.Proofs.Generation.Edits
import FlowModel.Proofs.Generation.Placings
import FlowModel.Proofs.Project.DirectEntities
import FlowModel.Proofs.Workspace.Contents

/-!
# Parameters of logging microflows

A logging microflow takes what its page expects and hands it on to the page. When the microflows are
generated, all pages are known to expect at most one entity, and the entity is known to exist. If the
widgets of some page take two entities, nothing is generated
(`microflows_take_what_pages_expect`).
-/

namespace FlowModel

/-- The pages that a microflow shows, with the arguments for them. -/
def Microflow.shown (microflow : Microflow) : List (String × Option String) :=
  microflow.nodes.filterMap fun node =>
    match node.action? with
    | some (.showPage page argument) => some (page, argument)
    | _ => none

/-- A microflow takes what a page expects, and hands it on to the page: it has no parameter and shows
the page without an argument, or it has one parameter of the expected entity and shows the page with
the parameter as argument. -/
inductive Microflow.HandsOn (microflow : Microflow) (page : String) : Option String → Prop where
  | nothing (parameters : microflow.parameters = []) (shown : microflow.shown = [(page, none)]) :
    HandsOn microflow page none
  | object {name entity : String}
    (parameters : microflow.parameters.map Node.kind = [.parameter name (.object entity)])
    (shown : microflow.shown = [(page, some ("$" ++ name))]) : HandsOn microflow page (some entity)

/-- A logging microflow takes what its page expects as a parameter and hands it on under the name of
that parameter. -/
theorem handsOn_pageLoggingPlan (page : String) (entity? : Option String)
    (settings : PageLoggingSettings) :
    (pageLoggingPlan page entity? settings).HandsOn page entity? := by
  cases entity? with
  | none => exact .nothing rfl rfl
  | some entity => exact .object rfl rfl

/-- Where members are related to those of another list, those of a part of that list are related to
a part of the members. -/
theorem exists_sublist_of_forall₂ {α β : Type} {related : α → β → Prop} {members : List α}
    {others some? : List β} (all : List.Forall₂ related members others)
    (part : some?.Sublist others) :
    ∃ chosen, chosen.Sublist members ∧ List.Forall₂ related chosen some? := by
  induction part generalizing members with
  | slnil => exact ⟨[], List.nil_sublist _, .nil⟩
  | cons _ _ inductionHypothesis =>
    cases all with
    | cons _ rest =>
      obtain ⟨chosen, part, relatedChosen⟩ := inductionHypothesis rest
      exact ⟨chosen, part.cons _, relatedChosen⟩
  | cons_cons _ _ inductionHypothesis =>
    cases all with
    | cons first rest =>
      obtain ⟨chosen, part, relatedChosen⟩ := inductionHypothesis rest
      exact ⟨_, part.cons_cons _, .cons first relatedChosen⟩

namespace Workspace

/-- A page is loaded, it expects at most one entity, and if it expects one, there is that entity. -/
def IsSettled (workspace : Workspace) (id : DocumentId) : Prop :=
  ∃ content parameter, workspace.page id = .ok content ∧ content.Expects parameter ∧
    ∀ entity, parameter = some entity → ∃ found, workspace.findEntity? entity = some found

/-- A document is a logging microflow for a page, which takes what the page expects. -/
def IsLogOf (workspace : Workspace) (settings : PageLoggingSettings) (id : DocumentId)
    (document : Document) : Prop :=
  ∃ content qualified parameter microflow, workspace.page id = .ok content ∧
    workspace.qualifiedName id = .ok qualified ∧ content.Expects parameter ∧
    document.kind = .microflow ∧ document.name = settings.microflowName qualified ∧
    document.body = some (.microflow microflow) ∧ microflow.HandsOn qualified parameter

variable {workspace : Workspace} {id : DocumentId} {target : PageTarget}

/-- A page that is a target is settled: one that expects two entities, or an entity that does not
exist, would have been refused. -/
theorem isSettled_of_pageTarget (known : workspace.pageTarget id = .ok target) :
    workspace.IsSettled id := by
  obtain ⟨_, content, _, _, read, chosen, required, _⟩ := pageTarget_eq_ok.mp known
  exact ⟨content, target.parameter, read, Page.parameter?_eq_ok.mp chosen, required⟩

/-- A page that is settled stays so while a workspace grows. -/
theorem IsSettled.within {outer : Workspace} (settled : workspace.IsSettled id)
    (within : workspace.Within outer) : outer.IsSettled id := by
  obtain ⟨content, parameter, read, expects, required⟩ := settled
  refine ⟨content, parameter, within.page read, expects, fun entity expected => ?_⟩
  obtain ⟨found, isFound⟩ := required entity expected
  exact ⟨found, within.findEntity? isFound⟩

/-- What is filed for a target is the logging microflow of its page. -/
theorem isLogOf_of_pageTarget (known : workspace.pageTarget id = .ok target)
    (settings : PageLoggingSettings) (folder : ContainerId) :
    workspace.IsLogOf settings id (Placing.document settings ⟨target, folder⟩) := by
  obtain ⟨_, content, _, named, read, chosen, _⟩ := pageTarget_eq_ok.mp known
  exact ⟨content, target.page, target.parameter, _, read, named, Page.parameter?_eq_ok.mp chosen,
    rfl, rfl, rfl, handsOn_pageLoggingPlan ..⟩

/-- A page whose widgets take two entities does not get a logging microflow, and so none does. -/
theorem not_pageTargets_of_ambiguous {content : Page} {first second : String}
    (ofKind : id ∈ workspace.documentsOfKind .page) (read : workspace.page id = .ok content)
    (included : content.excluded = false) (takesFirst : content.Takes first)
    (takesSecond : content.Takes second) (differs : first ≠ second) (targets : List PageTarget) :
    workspace.pageTargets ≠ .ok targets := by
  intro told
  obtain ⟨target, _, known⟩ := exists_related_of_mem (mapM_eq_ok.mp told) ofKind
  obtain ⟨content', parameter, read', expects, _⟩ := isSettled_of_pageTarget known
  obtain rfl := Except.ok.inj (read.symm.trans read')
  rcases expects with ⟨excluded, _⟩ | ⟨_, exactly⟩
  · exact nomatch included.symm.trans excluded
  · have same := ((exactly first).mp takesFirst).symm.trans ((exactly second).mp takesSecond)
    exact differs (Option.some.inj same)

end Workspace

namespace Generation

open Workspace

/-- When the generator is done, all pages expect at most one entity, which exists, and every document
that it has created is the logging microflow of a page. If the widgets of some page take two
entities, it fails, and nothing has changed. -/
theorem microflows_take_what_pages_expect {workspace : Workspace} (reachable : workspace.Reachable)
    (settings : PageLoggingSettings) (report : Report) :
    (∀ after, (generatePageLogging settings).run ⟨workspace, report⟩ = .ok ⟨⟩ after →
      (∀ id ∈ workspace.documentsOfKind .page,
        workspace.IsSettled id ∧ after.workspace.IsSettled id) ∧
      ∃ pages created, pages.Sublist (workspace.documentsOfKind .page) ∧
        after.workspace.documents = workspace.documents ++ created ∧
        List.Forall₂ (workspace.IsLogOf settings) pages created) ∧
    ∀ id content first second, id ∈ workspace.documentsOfKind .page →
      workspace.page id = .ok content → content.excluded = false →
      content.Takes first → content.Takes second → first ≠ second →
      ∃ failure, (generatePageLogging settings).run ⟨workspace, report⟩ =
        .error failure ⟨workspace, report⟩ := by
  have ends : Ends _ (Work.mk workspace report) _ _ :=
    generatePageLogging_logs reachable.rooted settings
  constructor
  · intro after done
    obtain ⟨logging, targets, named, told, chain⟩ := ends.of_ok done
    have inside := lt_of_moduleOf (moduleOf_of_moduleNamed? named)
    obtain ⟨placings, part, documents, isExtension⟩ :=
      exists_placings (fun _ reached => workspace.Extends reached) chain reachable.rooted inside
        (.refl workspace)
        fun _ _ _ _ _ _ _ _ isExtension shelves =>
          (isExtension.trans shelves.isExtension).trans (.pushDocument ..)
    have told := mapM_eq_ok.mp told
    constructor
    · intro id member
      obtain ⟨target, _, known⟩ := exists_related_of_mem told member
      have settled := isSettled_of_pageTarget known
      exact ⟨settled, settled.within isExtension.within⟩
    · obtain ⟨pages, somePages, related⟩ := exists_sublist_of_forall₂ told part
      refine ⟨pages, _, somePages, documents, ?_⟩
      refine List.forall₂_map_right_iff.mpr ((List.forall₂_map_right_iff.mp related).imp ?_)
      exact fun id placing known => isLogOf_of_pageTarget known settings placing.folder
  · intro id content first second ofKind read included takesFirst takesSecond differs
    cases ran : (generatePageLogging settings).run ⟨workspace, report⟩ with
    | ok value after =>
      obtain ⟨_, targets, _, told, _⟩ := ends.of_ok ran
      exact absurd told
        (not_pageTargets_of_ambiguous ofKind read included takesFirst takesSecond differs targets)
    | error failure after =>
      obtain rfl : after = ⟨workspace, report⟩ := ends.of_error ran
      exact ⟨failure, rfl⟩

/-- An excluded page, and a page with some widgets that lies behind a page for an order. -/
def orderPages (widgets : List Widget) : Project :=
  let order : Widget := .dataView (.directEntity "Sales.Order") []
  ⟨[⟨"Sales", ⟨[⟨"Order", []⟩]⟩, [], [.page ⟨"Old", true, [order, .dataView (.directEntity "Gone") []]⟩,
      .page ⟨"Order", false, [.container [.listView (.database "Sales.Order") [order]], order]⟩,
      .page ⟨"Last", false, widgets⟩]⟩,
    ⟨"CustomLogging", ⟨[]⟩, [],
      [.javaAction ⟨"Java_IPAddress", none⟩, .javaAction ⟨"Java_BrowserType", none⟩]⟩]⟩

/-- A data view in another one, with another entity. -/
def twoEntities : List Widget :=
  [.dataView (.directEntity "Sales.Order") [.dataView (.directEntity "Gone") []]]

/-- Three microflows are created when the last page takes nothing, and none when it takes two
entities. -/
theorem microflows_take_what_pages_expect_orderPages :
    (∃ after, (generatePageLogging .standard).run ⟨ofProject (orderPages []), .empty .pageLogging⟩ =
        .ok ⟨⟩ after ∧
      ∃ pages created, after.workspace.documents = (ofProject (orderPages [])).documents ++ created ∧
        created.length = 3 ∧
        List.Forall₂ ((ofProject (orderPages [])).IsLogOf .standard) pages created) ∧
    ∃ failure, (generatePageLogging .standard).run
        ⟨ofProject (orderPages twoEntities), .empty .pageLogging⟩ =
      .error failure ⟨ofProject (orderPages twoEntities), .empty .pageLogging⟩ := by
  constructor
  · have ends : Ends (generatePageLogging .standard)
        ⟨ofProject (orderPages []), .empty .pageLogging⟩
        (fun _ after => after.workspace.documents.length =
          (ofProject (orderPages [])).documents.length + 3) Never := by
      cbv
    obtain ⟨⟨⟩, after, done, counted⟩ := ends.exists_ok
    obtain ⟨_, pages, created, _, documents, related⟩ := (microflows_take_what_pages_expect
      (reachable_ofProject (orderPages [])) .standard (.empty .pageLogging)).1 after done
    rw [documents, List.length_append] at counted
    exact ⟨after, done, pages, created, documents, Nat.add_left_cancel counted, related⟩
  · have takesOther : (Page.mk "Last" false twoEntities).Takes "Gone" :=
      ⟨_, List.mem_cons_self, .inDataView List.mem_cons_self (.directly [])⟩
    exact (microflows_take_what_pages_expect (reachable_ofProject (orderPages twoEntities)) .standard
      (.empty .pageLogging)).2 3 ⟨"Last", false, twoEntities⟩ "Sales.Order" "Gone" (by decide) rfl rfl
      ⟨_, List.mem_cons_self, .directly _⟩ takesOther (by decide)

end Generation

end FlowModel
