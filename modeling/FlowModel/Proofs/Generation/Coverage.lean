import FlowModel.Proofs.Generation.Repetition

/-!
# Which pages are shown

The logging microflow of a page is named after the page without its module, and a name that is taken
is never given again. So of all pages with one such name only the first in the order of the documents
gets a microflow that shows it, and the later ones are noted as collisions: when the logging module
has no microflows before, the pages that are shown are the first ones of their names
(`first_pages_are_shown`). Two pages in different modules may have one name, and then the second is
not shown at all (`namesake_is_not_shown`).
-/

namespace FlowModel

/-- A microflow opens a page, with whatever argument. -/
def Microflow.Shows (microflow : Microflow) (page : String) : Prop :=
  ∃ node ∈ microflow.nodes, ∃ argument, node.action? = some (.showPage page argument)

/-- The qualified name under which the logging microflow of a page is asked for. -/
def PageLoggingSettings.askedName (settings : PageLoggingSettings) (page : String) : String :=
  QualifiedName.qualified settings.loggingModule (settings.microflowName page)

/-- A page is the first of some pages whose microflows have its microflow's name. -/
def PageLoggingSettings.IsFirst (settings : PageLoggingSettings) (pages : List String)
    (page : String) : Prop :=
  pages.find? (fun other => settings.microflowName other == settings.microflowName page) = some page

instance (settings : PageLoggingSettings) (pages : List String) (page : String) :
    Decidable (settings.IsFirst pages page) :=
  inferInstanceAs (Decidable (_ = _))

namespace Workspace

/-- A microflow that lies in a module opens a page. -/
def ShowsPage (workspace : Workspace) (owner : ContainerId) (page : String) : Prop :=
  ∃ (id : DocumentId) (found : Document) (content : Microflow),
    workspace.documents[id]? = some found ∧ found.kind = .microflow ∧
      workspace.moduleOf found.container = .ok owner ∧ found.body = some (.microflow content) ∧
        content.Shows page

/-- No microflow lies in a module. -/
def LacksMicroflows (workspace : Workspace) (owner : ContainerId) : Prop :=
  ∀ (id : DocumentId) (found : Document), workspace.documents[id]? = some found →
    found.kind = .microflow → workspace.moduleOf found.container ≠ .ok owner

variable {workspace before after : Workspace} {owner : ContainerId} {page : String}

/-- A microflow that opens a page is not lost. -/
theorem Within.showsPage (within : before.Within after) (shows : before.ShowsPage owner page) :
    after.ShowsPage owner page := by
  obtain ⟨id, found, content, stored, kind_eq, located, bodyOf, opensPage⟩ := shows
  obtain ⟨later, storedLater, isWithin⟩ := within.documents id found stored
  obtain ⟨_, kind_eq', container_eq⟩ := Document.label_eq_iff.mp isWithin.label_eq
  exact ⟨id, later, content, storedLater, kind_eq'.trans kind_eq,
    container_eq ▸ within.keeps.moduleOf located, isWithin.body _ bodyOf, opensPage⟩

/-- Without microflows a module shows no page. -/
theorem LacksMicroflows.not_showsPage (lacks : workspace.LacksMicroflows owner) (page : String) :
    ¬ workspace.ShowsPage owner page := by
  rintro ⟨id, found, _, stored, kind_eq, located, _⟩
  exact lacks id found stored kind_eq located

/-- In a module without microflows all names are free. -/
theorem LacksMicroflows.find?_eq_none (lacks : workspace.LacksMicroflows owner) {moduleName : String}
    (undotted : '.' ∉ moduleName.toList) (named : workspace.moduleNamed? moduleName = some owner)
    (name : String) :
    workspace.find? .microflow (QualifiedName.qualified moduleName name) = none := by
  refine Option.eq_none_iff_forall_ne_some.mpr fun id found => ?_
  obtain ⟨id, document, stored, kind_eq, _, located⟩ := holdsMicroflow_of_find? undotted named found
  exact lacks id document stored kind_eq located

/-- The pages that get logging microflows have the qualified names of all pages. -/
theorem mapM_qualifiedName_of_pageTargets {targets : List PageTarget}
    (found : workspace.pageTargets = .ok targets) :
    (workspace.documentsOfKind .page).mapM workspace.qualifiedName =
      .ok (targets.map PageTarget.page) := by
  refine mapM_eq_ok.mpr (List.forall₂_map_right_iff.mpr ((mapM_eq_ok.mp found).imp ?_))
  intro id target known
  obtain ⟨_, _, _, named, _⟩ := pageTarget_eq_ok.mp known
  exact named

end Workspace

/-- The line of a logging microflow opens one page only, whatever it hands on to it. -/
theorem eq_of_showPage_mem_pageLoggingLine {page other : String} {argument argument' : Option String}
    {settings : PageLoggingSettings} {first : NodeId} {node : Node}
    (member : node ∈ pageLoggingLine page argument settings first)
    (action : node.action? = some (.showPage other argument')) : other = page := by
  simp only [pageLoggingLine, List.mem_cons, List.not_mem_nil, or_false] at member
  rcases member with rfl | rfl | rfl | rfl | rfl | rfl
  case inr.inr.inr.inr.inl => exact (Action.showPage.inj (Option.some.inj action)).1.symm
  all_goals exact nomatch action

/-- A logging microflow shows its page and no other. -/
theorem shows_pageLoggingPlan {page other : String} {entity? : Option String}
    {settings : PageLoggingSettings} :
    (pageLoggingPlan page entity? settings).Shows other ↔ other = page := by
  have nodes := pageLoggingPlan_nodes page entity? settings
  constructor
  · rintro ⟨node, member, argument, action⟩
    rcases List.mem_append.mp (nodes ▸ member) with isParameter | onLine
    · obtain ⟨entity, _, rfl⟩ := List.mem_map.mp isParameter
      exact nomatch action
    · exact eq_of_showPage_mem_pageLoggingLine onLine action
  · rintro rfl
    refine ⟨Draft.nodeAt ((pageParameters entity?).length + 4) ⟨800, 100⟩
      (.perform (.showPage other (pageArgument entity?))), ?_, pageArgument entity?, rfl⟩
    rw [nodes]
    exact List.mem_append_right _ (by simp [pageLoggingLine])

namespace PageLoggingSettings

variable {settings : PageLoggingSettings}

/-- In one logging module, microflows ask for one qualified name exactly if they have one name. -/
theorem askedName_inj {page other : String} :
    settings.askedName page = settings.askedName other ↔
      settings.microflowName page = settings.microflowName other :=
  String.append_right_inj _

/-- A further page is the first one of its name if no page before it has that name. -/
theorem isFirst_concat {pages : List String} {page added : String} :
    settings.IsFirst (pages ++ [added]) page ↔ settings.IsFirst pages page ∨
      added = page ∧ ∀ other ∈ pages, settings.microflowName other ≠ settings.microflowName page := by
  rw [IsFirst, List.find?_append, Option.or_eq_some_iff, List.find?_eq_none]
  refine or_congr Iff.rfl ⟨?_, ?_⟩
  · rintro ⟨others, last⟩
    exact ⟨List.mem_singleton.mp (List.mem_of_find?_eq_some last) |>.symm, by simpa using others⟩
  · rintro ⟨rfl, others⟩
    exact ⟨by simpa using others, by simp⟩

end PageLoggingSettings

namespace Generation

open Workspace

variable {before after : Work} {request : Request}

/-! ## What a request leaves free -/

/-- No module is created, so the modules are found as before. -/
theorem Fulfils.moduleNamed?_eq (fulfils : Fulfils request before after) (name : String) :
    after.workspace.moduleNamed? name = before.workspace.moduleNamed? name := by
  cases known : before.workspace.moduleNamed? name with
  | some id => exact fulfils.keeps.moduleNamed? known
  | none =>
    refine Option.eq_none_iff_forall_ne_some.mpr fun id named => ?_
    obtain ⟨found, stored, isModule, rfl⟩ := moduleNamed?_eq_some named
    have member : id ∈ placesWhere (fun other => other.isModule && other.name == found.name)
        before.workspace.containers :=
      mem_placesWhere.mpr ⟨found, fulfils.stored_of_isModule stored isModule, by simp [isModule]⟩
    exact absurd (List.head?_eq_none_iff.mp known ▸ member) List.not_mem_nil

/-- A container lies where it has lain before. -/
theorem Fulfils.moduleOf_back (fulfils : Fulfils request before after)
    (rooted : before.workspace.Rooted) {id owner : ContainerId}
    (inside : id < before.workspace.containers.length)
    (located : after.workspace.moduleOf id = .ok owner) :
    before.workspace.moduleOf id = .ok owner := by
  obtain ⟨_, _, known, _⟩ := rooted.moduleOf_of_lt inside
  exact known.trans ((fulfils.keeps.moduleOf known).symm.trans located)

/-- A free name stays free, unless it is the one that is asked for. -/
theorem Fulfils.find?_eq_none (fulfils : Fulfils request before after)
    (rooted : before.workspace.Rooted)
    (named : before.workspace.moduleNamed? request.moduleName = some request.owner)
    {qualified : String} (free : before.workspace.find? .microflow qualified = none)
    (differs : qualified ≠ request.name) : after.workspace.find? .microflow qualified = none := by
  refine Option.eq_none_iff_forall_ne_some.mpr fun id found => ?_
  obtain ⟨bears, document, owner, module, stored, located, storedOwner, undotted, first⟩ :=
    bears_of_find? found
  have isModule : module.isModule = true := by
    obtain ⟨_, storedFirst, isModule, _⟩ := moduleNamed?_eq_some first
    exact Option.some.inj (storedOwner.symm.trans storedFirst) ▸ isModule
  have wasFirst := (fulfils.moduleNamed?_eq _).symm.trans first
  have wasStored := fulfils.stored_of_isModule storedOwner isModule
  -- Modules and earlier documents are as before, so an earlier document would have been found.
  have isEarlier (earlier : before.workspace.documents[id]? = some document) : False := by
    have wasLocated := fulfils.moduleOf_back rooted (rooted.holder_lt earlier) located
    have wasBorne := fulfils.keeps.bears_back rooted (lt_of_getElem?_eq_some earlier) bears
    obtain ⟨other, taken⟩ := exists_find?_of_bears wasBorne
      ⟨document, owner, module, earlier, wasLocated, wasStored, undotted, wasFirst⟩
    exact nomatch free.symm.trans taken
  cases fulfils with
  | taken => exact isEarlier stored
  | created _ opened =>
    rcases getElem?_concat_cases stored with earlier | ⟨rfl, _⟩
    · exact isEarlier (opened.documents ▸ earlier)
    · have qualified_eq := opened.qualifiedName_pushDocument rooted named
      exact differs (Except.ok.inj (bears.named.symm.trans qualified_eq))

/-- After a request for a microflow its module shows a page if it has shown it before, or if the
name was free and the microflow shows it. -/
theorem Fulfils.showsPage_iff (fulfils : Fulfils request before after)
    (rooted : before.workspace.Rooted)
    (named : before.workspace.moduleNamed? request.moduleName = some request.owner)
    {page : String} :
    after.workspace.ShowsPage request.owner page ↔
      before.workspace.ShowsPage request.owner page ∨
        before.workspace.find? .microflow request.name = none ∧ request.content.Shows page := by
  constructor
  · rintro ⟨id, found, content, stored, kind_eq, located, bodyOf, opensPage⟩
    have isEarlier (earlier : before.workspace.documents[id]? = some found) :
        before.workspace.ShowsPage request.owner page :=
      ⟨id, found, content, earlier, kind_eq,
        fulfils.moduleOf_back rooted (rooted.holder_lt earlier) located, bodyOf, opensPage⟩
    cases fulfils with
    | taken => exact Or.inl (isEarlier stored)
    | created free opened =>
      rcases getElem?_concat_cases stored with earlier | ⟨_, rfl⟩
      · exact Or.inl (isEarlier (opened.documents ▸ earlier))
      · obtain rfl := DocumentBody.microflow.inj (Option.some.inj bodyOf)
        exact Or.inr ⟨free, opensPage⟩
  · rintro (shown | ⟨free, opensPage⟩)
    · exact fulfils.isExtension.within.showsPage shown
    · cases fulfils with
      | taken found => exact nomatch free.symm.trans found
      | created _ opened =>
        exact ⟨_, _, request.content, stored_pushDocument .., rfl,
          opened.moduleOf_pushDocument rooted named, rfl, opensPage⟩

/-! ## What the requests for pages cover -/

/-- What is known when the logging microflows of some pages have been asked for. -/
structure Covers (settings : PageLoggingSettings) (logging : ContainerId) (start : Workspace)
    (pages : List String) (work : Work) : Prop where
  extended : start.Extends work.workspace
  rooted : work.workspace.Rooted
  free : ∀ page, start.find? .microflow (settings.askedName page) = none →
    (∀ other ∈ pages, settings.microflowName other ≠ settings.microflowName page) →
      work.workspace.find? .microflow (settings.askedName page) = none
  shown : ∀ page, start.find? .microflow (settings.askedName page) = none →
    settings.IsFirst pages page → work.workspace.ShowsPage logging page
  taken : '.' ∉ settings.loggingModule.toList → ∀ page ∈ pages,
    ∃ id, work.workspace.find? .microflow (settings.askedName page) = some id
  only : '.' ∉ settings.loggingModule.toList → ∀ page, work.workspace.ShowsPage logging page →
    settings.IsFirst pages page

namespace Covers

variable {settings : PageLoggingSettings} {logging : ContainerId} {start : Workspace}
  {pages : List String} {earlier later : Work} {target : PageTarget}

/-- In the beginning no page is shown. -/
theorem nil (rooted : start.Rooted) (bare : start.LacksMicroflows logging) (report : Report) :
    Covers settings logging start [] ⟨start, report⟩ where
  extended := .refl _
  rooted := rooted
  free := fun _ free _ => free
  shown := nofun
  taken := fun _ => nofun
  only := fun _ page shown => (bare.not_showsPage page shown).elim

/-- One further page is covered if it is the first one of its name. -/
theorem concat (covers : Covers settings logging start pages earlier)
    (named : start.moduleNamed? settings.loggingModule = some logging)
    (fulfils : Fulfils (target.request settings logging) earlier later) :
    Covers settings logging start (pages ++ [target.page]) later := by
  have namedThen := covers.extended.within.keeps.moduleNamed? named
  have inside := lt_of_moduleOf (moduleOf_of_moduleNamed? namedThen)
  have showsPage {page : String} : later.workspace.ShowsPage logging page ↔ _ :=
    fulfils.showsPage_iff covers.rooted namedThen
  constructor
  case extended => exact covers.extended.trans fulfils.isExtension
  case rooted => exact fulfils.rooted covers.rooted inside
  case free =>
    intro page free others
    have freeThen := covers.free page free fun other member =>
      others other (List.mem_append_left _ member)
    refine fulfils.find?_eq_none covers.rooted namedThen freeThen fun same => ?_
    have lastDiffers := others target.page (List.mem_append_right _ (List.mem_singleton_self _))
    exact lastDiffers (PageLoggingSettings.askedName_inj.mp same).symm
  case shown =>
    intro page free isFirst
    rcases PageLoggingSettings.isFirst_concat.mp isFirst with before | ⟨rfl, others⟩
    · exact showsPage.mpr (Or.inl (covers.shown page free before))
    · exact showsPage.mpr
        (Or.inr ⟨covers.free target.page free others, shows_pageLoggingPlan.mpr rfl⟩)
  case taken =>
    intro undotted page member
    rcases List.mem_append.mp member with before | last
    · obtain ⟨id, found⟩ := covers.taken undotted page before
      exact ⟨id, fulfils.keeps.find? covers.rooted found⟩
    · obtain rfl := List.mem_singleton.mp last
      exact fulfils.isTaken covers.rooted namedThen undotted
  case only =>
    intro undotted page shown
    rcases showsPage.mp shown with before | ⟨free, opensPage⟩
    · exact PageLoggingSettings.isFirst_concat.mpr (Or.inl (covers.only undotted page before))
    · obtain rfl : page = target.page := shows_pageLoggingPlan.mp opensPage
      refine PageLoggingSettings.isFirst_concat.mpr (Or.inr ⟨rfl, fun other member same => ?_⟩)
      obtain ⟨id, found⟩ := covers.taken undotted other member
      rw [PageLoggingSettings.askedName_inj.mpr same] at found
      exact nomatch free.symm.trans found

end Covers

/-- When the logging microflows of all pages have been asked for, all pages are covered. -/
theorem generatePageLogging_covers {workspace : Workspace} {settings : PageLoggingSettings}
    {logging : ContainerId} (rooted : workspace.Rooted)
    (named : workspace.moduleNamed? settings.loggingModule = some logging)
    (bare : workspace.LacksMicroflows logging) {report : Report}
    (done : (generatePageLogging settings).run ⟨workspace, report⟩ = .ok () after) :
    ∃ pages, (workspace.documentsOfKind .page).mapM workspace.qualifiedName = .ok pages ∧
      Covers settings logging workspace pages after := by
  have ends : Ends _ (Work.mk workspace report) _ _ :=
    generator_served rooted { Settings.standard with pageLogging := settings }
      (Or.inr rfl : RunKind.pageLogging = .validation ∨ _)
  obtain ⟨requests, asks, served⟩ := ends.of_ok done
  cases asks with
  | @pageLogging logging' targets named' _ _ found =>
    obtain rfl := Option.some.inj (named.symm.trans named')
    refine ⟨targets.map PageTarget.page, mapM_qualifiedName_of_pageTargets found, ?_⟩
    have steps : ∀ target ∈ targets, ∀ pages earlier later,
        Fulfils (target.request settings logging) earlier later →
          Covers settings logging workspace pages earlier →
            ∃ page, page = target.page ∧
              Covers settings logging workspace (pages ++ [page]) later :=
      fun target _ _ _ _ fulfils covers => ⟨target.page, rfl, covers.concat named fulfils⟩
    obtain ⟨pages, recorded, covers⟩ :=
      served.chain.of_map.record steps (.nil rooted bare report)
    have same : List.Forall₂ Eq (targets.map PageTarget.page) pages :=
      List.forall₂_map_left_iff.mpr (recorded.imp fun _ _ => Eq.symm)
    rw [List.forall₂_eq_eq_eq] at same
    exact same ▸ covers

/-! ## Pages that are shown -/

/-- When all logging microflows have been asked for and the logging module had none before, it shows
every page that is the first one of its name, if the name was free. If the name of the module has no
dot, all names were free, and no other page is shown. -/
theorem first_pages_are_shown {workspace : Workspace} (reachable : workspace.Reachable)
    {settings : PageLoggingSettings} {logging : ContainerId}
    (named : workspace.moduleNamed? settings.loggingModule = some logging)
    (bare : workspace.LacksMicroflows logging) (report : Report) {after : Work}
    (done : (generatePageLogging settings).run ⟨workspace, report⟩ = .ok () after) :
    ∃ pages, (workspace.documentsOfKind .page).mapM workspace.qualifiedName = .ok pages ∧
      ∀ page ∈ pages,
        (workspace.find? .microflow (settings.askedName page) = none →
          settings.IsFirst pages page → after.workspace.ShowsPage logging page) ∧
        ('.' ∉ settings.loggingModule.toList →
          workspace.find? .microflow (settings.askedName page) = none ∧
            (after.workspace.ShowsPage logging page → settings.IsFirst pages page)) := by
  obtain ⟨pages, qualified, covers⟩ :=
    generatePageLogging_covers reachable.rooted named bare done
  exact ⟨pages, qualified, fun page _ => ⟨covers.shown page, fun undotted =>
    ⟨bare.find?_eq_none undotted named _, covers.only undotted page⟩⟩⟩

/-- Two modules with pages of one name, and a logging module without microflows. -/
def namesakes : Project :=
  ⟨[⟨"Sales", ⟨[]⟩, [], [.page ⟨"Overview", false, []⟩]⟩,
    ⟨"Admin", ⟨[]⟩, [], [.page ⟨"Overview", false, []⟩]⟩,
    ⟨"CustomLogging", ⟨[]⟩, [],
      [.javaAction ⟨"Java_IPAddress", none⟩, .javaAction ⟨"Java_BrowserType", none⟩]⟩]⟩

/-- The logging module of the namesakes has Java actions, but no microflow. -/
theorem lacksMicroflows_namesakes : (ofProject namesakes).LacksMicroflows 2 := by
  have others : ∀ found ∈ (ofProject namesakes).documents, found.kind ≠ .microflow := by decide
  exact fun id found stored isMicroflow _ => others found (List.mem_of_getElem? stored) isMicroflow

/-- The logging module of the namesakes is their third module. -/
theorem moduleNamed?_namesakes :
    (ofProject namesakes).moduleNamed? PageLoggingSettings.standard.loggingModule = some 2 := by
  cbv

/-- The namesakes are in the modules of sales and of administration. -/
theorem pages_namesakes :
    ((ofProject namesakes).documentsOfKind .page).mapM (ofProject namesakes).qualifiedName =
      .ok ["Sales.Overview", "Admin.Overview"] := by
  cbv

/-- The generator is done with the namesakes: it does not fail because of the second one. -/
theorem exists_run_namesakes (report : Report) :
    ∃ after, (generatePageLogging .standard).run ⟨ofProject namesakes, report⟩ = .ok () after := by
  have ends : Ends (generatePageLogging .standard) ⟨ofProject namesakes, report⟩
      (fun _ _ => True) Never := by
    cbv
  obtain ⟨_, after, ran, _⟩ := ends.exists_ok
  exact ⟨after, ran⟩

/-- The second page is not shown, although everything is loaded and the generator is done. -/
theorem namesake_is_not_shown :
    (ofProject namesakes).AllLoaded ∧
      (ofProject namesakes).moduleNamed? PageLoggingSettings.standard.loggingModule = some 2 ∧
      (ofProject namesakes).LacksMicroflows 2 ∧ 3 ∈ (ofProject namesakes).documentsOfKind .page ∧
      (ofProject namesakes).qualifiedName 3 = .ok "Admin.Overview" ∧
      ∃ after, (generatePageLogging .standard).run ⟨ofProject namesakes, .empty .pageLogging⟩ =
        .ok () after ∧ ¬ after.workspace.ShowsPage 2 "Admin.Overview" := by
  refine ⟨allLoaded_ofProject namesakes, moduleNamed?_namesakes, lacksMicroflows_namesakes,
    by decide, by cbv, ?_⟩
  obtain ⟨after, done⟩ := exists_run_namesakes (.empty .pageLogging)
  obtain ⟨pages, qualified, covers⟩ :=
    generatePageLogging_covers (reachable_ofProject namesakes).rooted moduleNamed?_namesakes
      lacksMicroflows_namesakes done
  refine ⟨after, done, fun shown => ?_⟩
  obtain rfl := Except.ok.inj (qualified.symm.trans pages_namesakes)
  have isFirst := covers.only (by decide) "Admin.Overview" shown
  exact absurd isFirst (by decide)

/-- The first page is shown. -/
theorem first_pages_are_shown_namesakes :
    ∃ after, (generatePageLogging .standard).run ⟨ofProject namesakes, .empty .pageLogging⟩ =
        .ok () after ∧ after.workspace.ShowsPage 2 "Sales.Overview" := by
  obtain ⟨after, done⟩ := exists_run_namesakes (.empty .pageLogging)
  obtain ⟨pages, qualified, each⟩ := first_pages_are_shown (reachable_ofProject namesakes)
    moduleNamed?_namesakes lacksMicroflows_namesakes (.empty .pageLogging) done
  obtain rfl := Except.ok.inj (qualified.symm.trans pages_namesakes)
  obtain ⟨shown, undotted⟩ := each "Sales.Overview" (by decide)
  exact ⟨after, done, shown (undotted (by decide)).1 (by decide)⟩

end Generation

end FlowModel
