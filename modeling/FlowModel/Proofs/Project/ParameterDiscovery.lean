import FlowModel.Proofs.FirstMet
import FlowModel.Proofs.Project.DirectEntities

/-!
# How the parameter of a page is found

The widgets of a page are met in preorder: a widget before those below it, and siblings in their
order. The entities that data views take directly from the page are listed once each, as they are
first met. A walk down the widgets that notes each entity it does not know yet has this list at its
end (`Page.firstMet_directEntities`). One entity in it is the parameter of the page, and more than
one are an ambiguity that names all of them (`parameter_of_first_met`).

So it does not matter for the outcome how widgets are grouped. Containers around them, copies of
them and another order keep the entities that are taken, and with them the parameter; of an
ambiguity only the order of the entities may change.
-/

namespace FlowModel

/-! ## Widgets in preorder -/

namespace Widget

/-- The entity that a widget itself takes from the page: that of a data view with a direct source.
-/
def directEntity? : Widget → Option String
  | .dataView source _ => source.directEntity?
  | .listView _ _ | .container _ | .text _ | .button _ => none

mutual

/-- A widget and all widgets below it, parents before children and siblings in order. -/
def preorder : Widget → List Widget
  | .dataView source children => .dataView source children :: preorderOfAll children
  | .listView source children => .listView source children :: preorderOfAll children
  | .container children => .container children :: preorderOfAll children
  | .text caption => [.text caption]
  | .button caption => [.button caption]

/-- Widgets and all widgets below them, one widget after another. -/
def preorderOfAll : List Widget → List Widget
  | [] => []
  | widget :: widgets => preorder widget ++ preorderOfAll widgets

end

/-- A widget comes before those it contains. -/
theorem preorder_eq (widget : Widget) :
    widget.preorder = widget :: preorderOfAll widget.children := by
  cases widget <;> simp [preorder, preorderOfAll, children]

/-- The entities that are collected are those of the widgets in preorder. -/
theorem directEntities_eq :
    (∀ widget : Widget, widget.directEntities = widget.preorder.filterMap directEntity?) ∧
    ∀ widgets : List Widget,
      directEntitiesOfAll widgets = (preorderOfAll widgets).filterMap directEntity? := by
  apply Widget.directEntities.mutual_induct
  case case1 =>
    intro source children below
    rw [directEntities, preorder, below]
    cases taken : source.directEntity? <;> simp [directEntity?, taken]
  case case2 =>
    intro source children below
    rw [directEntities, preorder, below, List.filterMap_cons_none rfl]
  case case3 =>
    intro children below
    rw [directEntities, preorder, below, List.filterMap_cons_none rfl]
  case case4 => exact fun caption => rfl
  case case5 => exact fun caption => rfl
  case case6 => rfl
  case case7 =>
    intro widget widgets first later
    rw [directEntitiesOfAll, preorderOfAll, List.filterMap_append, first, later]

/-! ## Regrouping widgets -/

/-- Some of several widgets takes an entity. -/
def SomeTakes (entity : String) (widgets : List Widget) : Prop :=
  ∃ widget ∈ widgets, widget.Takes entity

section

variable {entity : String} {widget : Widget} {widgets others : List Widget}

/-- Two lists of widgets take what one of them takes. -/
@[simp] theorem someTakes_append :
    SomeTakes entity (widgets ++ others) ↔ SomeTakes entity widgets ∨ SomeTakes entity others := by
  simp [SomeTakes, or_and_right, exists_or]

/-- The first widget may be the one that takes the entity, or a later one. -/
@[simp] theorem someTakes_cons :
    SomeTakes entity (widget :: widgets) ↔ widget.Takes entity ∨ SomeTakes entity widgets := by
  simp [SomeTakes]

/-- A widget takes what it takes itself and what the widgets below it take. -/
theorem takes_iff :
    widget.Takes entity ↔
      widget.directEntity? = some entity ∨ SomeTakes entity widget.children := by
  have collected (some? : Widget) : some?.Takes entity ↔ entity ∈ some?.directEntities :=
    (mem_directEntities.1 some?).symm
  rw [collected, directEntities_eq.1, preorder_eq, List.filterMap_cons, SomeTakes,
    ← mem_directEntities.2, directEntities_eq.2]
  cases widget.directEntity? <;> simp [eq_comm]

/-- Widgets below widgets take nothing that these do not take. -/
theorem takes_of_mem_preorder :
    (∀ root : Widget, ∀ widget ∈ root.preorder, widget.Takes entity → root.Takes entity) ∧
    ∀ widgets : List Widget, ∀ widget ∈ preorderOfAll widgets,
      widget.Takes entity → SomeTakes entity widgets := by
  have first {root : Widget} (below : ∀ widget ∈ preorderOfAll root.children,
      widget.Takes entity → SomeTakes entity root.children) :
      ∀ widget ∈ root.preorder, widget.Takes entity → root.Takes entity := by
    rw [preorder_eq]
    intro widget met takes
    rcases List.mem_cons.mp met with rfl | isBelow
    · exact takes
    · exact takes_iff.mpr (Or.inr (below widget isBelow takes))
  apply Widget.preorder.mutual_induct
  case case1 => exact fun source children below => first below
  case case2 => exact fun source children below => first below
  case case3 => exact fun children below => first below
  case case4 => exact fun caption => first nofun
  case case5 => exact fun caption => first nofun
  case case6 => exact nofun
  case case7 =>
    intro widget widgets here later other met takes
    rw [someTakes_cons]
    exact (List.mem_append.mp met).imp (fun inHere => here other inHere takes)
      fun inLater => later other inLater takes

end

/-- Widgets are regrouped: permuted, wrapped in containers, and copied from some spare ones, in any
place of the trees and any number of times. -/
inductive Regrouped (spare : List Widget) : List Widget → List Widget → Prop where
  | same (widgets : List Widget) : Regrouped spare widgets widgets
  | andThen {one other another : List Widget} (first : Regrouped spare one other)
    (second : Regrouped spare other another) : Regrouped spare one another
  | permuted {one other : List Widget} (order : one.Perm other) : Regrouped spare one other
  | wrapped (before inside after : List Widget) :
    Regrouped spare (before ++ inside ++ after) (before ++ .container inside :: after)
  | copied {widget : Widget} (isSpare : widget ∈ spare) (widgets : List Widget) :
    Regrouped spare widgets (widget :: widgets)
  | within {one other : Widget} (alike : one.directEntity? = other.directEntity?)
    (inside : Regrouped spare one.children other.children) (before after : List Widget) :
    Regrouped spare (before ++ one :: after) (before ++ other :: after)

variable {spare widgets others : List Widget}

/-- Regrouped widgets take what they took before, and at most what the spare ones take. -/
theorem Regrouped.someTakes (regrouped : Regrouped spare widgets others) (entity : String) :
    (SomeTakes entity widgets → SomeTakes entity others) ∧
      (SomeTakes entity others → SomeTakes entity widgets ∨ SomeTakes entity spare) := by
  induction regrouped with
  | same widgets => exact ⟨fun takes => takes, Or.inl⟩
  | andThen first second keptFirst keptSecond =>
    refine ⟨fun takes => keptSecond.1 (keptFirst.1 takes), fun takes => ?_⟩
    exact (keptSecond.2 takes).elim keptFirst.2 Or.inr
  | permuted order =>
    exact ⟨fun ⟨widget, member, takes⟩ => ⟨widget, order.mem_iff.mp member, takes⟩,
      fun ⟨widget, member, takes⟩ => Or.inl ⟨widget, order.mem_iff.mpr member, takes⟩⟩
  | wrapped before inside after =>
    have opened : (container inside).Takes entity ↔ SomeTakes entity inside :=
      takes_iff.trans (or_iff_right nofun)
    simp only [someTakes_append, someTakes_cons, opened]
    exact ⟨fun takes => or_assoc.mp takes, fun takes => Or.inl (or_assoc.mpr takes)⟩
  | copied isSpare widgets =>
    rw [someTakes_cons]
    exact ⟨Or.inr, fun takes => takes.symm.imp_right fun taken => ⟨_, isSpare, taken⟩⟩
  | @within one other alike inside before after kept =>
    have inOther : one.Takes entity → other.Takes entity := by
      rw [takes_iff, takes_iff, alike]
      exact Or.imp_right kept.1
    have inOne : other.Takes entity → one.Takes entity ∨ SomeTakes entity spare := by
      rw [takes_iff, takes_iff, alike, or_assoc]
      exact Or.imp_right kept.2
    simp only [someTakes_append, someTakes_cons]
    refine ⟨Or.imp_right (Or.imp_left inOther), ?_⟩
    rintro (isBefore | isHere | isAfter)
    · exact Or.inl (Or.inl isBefore)
    · exact (inOne isHere).imp_left fun takes => Or.inr (Or.inl takes)
    · exact Or.inl (Or.inr (Or.inr isAfter))

end Widget

/-! ## The outcome -/

namespace Page

/-- What different entities mean for a page: none, its parameter, or an ambiguity. -/
def outcome (qualifiedName : String) : List String → Except Failure (Option String)
  | [] => .ok none
  | [entity] => .ok (some entity)
  | entities => .error (.ambiguousPageParameter qualifiedName entities)

/-- Two outcomes are the same, but for the order of the entities in an ambiguity. -/
inductive SameOutcome : Except Failure (Option String) → Except Failure (Option String) → Prop where
  | parameter (parameter : Option String) : SameOutcome (.ok parameter) (.ok parameter)
  | ambiguous (page : String) {one other : List String} (order : one.Perm other) :
    SameOutcome (.error (.ambiguousPageParameter page one))
      (.error (.ambiguousPageParameter page other))

/-- The parameter of a page is told by the entities that are met directly, without repetition. An
excluded page is not looked into. -/
theorem parameter?_eq (page : Page) (qualifiedName : String) :
    page.parameter? qualifiedName =
      if page.excluded then .ok none else outcome qualifiedName page.directEntities := by
  rw [parameter?]
  split
  · rfl
  · unfold outcome
    rfl

/-- The order of the entities shows only in the message about an ambiguous page. -/
theorem SameOutcome.of_perm (qualifiedName : String) {one other : List String}
    (order : one.Perm other) :
    SameOutcome (outcome qualifiedName one) (outcome qualifiedName other) := by
  match one, order with
  | [], order => rw [List.nil_perm.mp order]; exact .parameter none
  | [entity], order => rw [← List.singleton_perm.mp order]; exact .parameter (some entity)
  | first :: second :: more, order =>
    match other, order with
    | [], order => exact nomatch order.length_eq
    | [entity], order => exact nomatch order.length_eq
    | _ :: _ :: _, order => exact .ambiguous qualifiedName order

end Page

/-- What a page expects is decided by the one list that has each entity once, in the order in which
data views with a direct source are first met in preorder, however deep they lie; a walk down the
widgets collects it. An excluded page expects nothing, and otherwise so does a page without such an
entity; a single entity is the parameter; and more than one are reported, all of them and in that
order. Widgets may be permuted, wrapped in containers and copied, in any place: the outcome is the
same, but for the order of the entities that are reported. -/
theorem parameter_of_first_met (page : Page) (qualifiedName : String) :
    (∃ entities,
      (∀ found, FirstMet
        ((Widget.preorderOfAll page.widgets).filterMap Widget.directEntity?) found ↔
          found = entities) ∧
      (∀ entity, entity ∈ entities ↔ page.Takes entity) ∧
      Widget.collectOfAll [] page.widgets = entities ∧
      page.parameter? qualifiedName =
        if page.excluded then .ok none else Page.outcome qualifiedName entities) ∧
    ∀ other : Page, other.excluded = page.excluded →
      Widget.Regrouped (Widget.preorderOfAll page.widgets) page.widgets other.widgets →
      Page.SameOutcome (page.parameter? qualifiedName) (other.parameter? qualifiedName) := by
  constructor
  · have firstMet := page.firstMet_directEntities
    rw [Widget.directEntities_eq.2] at firstMet
    exact ⟨page.directEntities,
      fun found => ⟨firstMet.unique, fun same => same ▸ firstMet⟩,
      fun entity => Page.mem_directEntities, rfl, page.parameter?_eq qualifiedName⟩
  · intro other excluded regrouped
    have takes (entity : String) : page.Takes entity ↔ other.Takes entity := by
      obtain ⟨kept, origin⟩ := regrouped.someTakes entity
      refine ⟨kept, fun taken => (origin taken).elim (fun before => before) ?_⟩
      rintro ⟨spare, met, spareTakes⟩
      exact Widget.takes_of_mem_preorder.2 page.widgets spare met spareTakes
    have order : page.directEntities.Perm other.directEntities :=
      page.firstMet_directEntities.perm other.firstMet_directEntities fun entity =>
        calc
          entity ∈ Widget.directEntitiesOfAll page.widgets ↔ page.Takes entity :=
            Widget.mem_directEntities.2 page.widgets
          _ ↔ other.Takes entity := takes entity
          _ ↔ entity ∈ Widget.directEntitiesOfAll other.widgets :=
            (Widget.mem_directEntities.2 other.widgets).symm
    rw [Page.parameter?_eq, Page.parameter?_eq, excluded]
    split
    · exact .parameter none
    · exact .of_perm qualifiedName order

/-- A page for an order and its customer, with a list of lines in which the order is shown again. -/
def Page.orderEdit : Page where
  name := "Order_Edit"
  excluded := false
  widgets :=
    [.container [.dataView (.directEntity "Sales.Order")
        [.dataView (.directEntity "Sales.Customer") []]],
      .listView (.database "Sales.Line") [.dataView (.directEntity "Sales.Order") []]]

/-- The list of lines comes before the order, behind a copy of the view of the customer, and all is
in one container. -/
def Page.orderEditRegrouped : Page where
  name := "Order_Edit"
  excluded := false
  widgets :=
    [.container [.dataView (.directEntity "Sales.Customer") [],
      .listView (.database "Sales.Line") [.dataView (.directEntity "Sales.Order") []],
      .container [.dataView (.directEntity "Sales.Order")
        [.dataView (.directEntity "Sales.Customer") []]]]]

/-- A page is regrouped, and remains ambiguous between the same entities. -/
theorem parameter_of_first_met_orderEdit :
    Page.orderEditRegrouped.excluded = Page.orderEdit.excluded ∧
    Widget.Regrouped (Widget.preorderOfAll Page.orderEdit.widgets) Page.orderEdit.widgets
      Page.orderEditRegrouped.widgets ∧
    Page.orderEdit.parameter? "Sales.Order_Edit" =
      .error (.ambiguousPageParameter "Sales.Order_Edit" ["Sales.Order", "Sales.Customer"]) ∧
    Page.SameOutcome (Page.orderEdit.parameter? "Sales.Order_Edit")
      (Page.orderEditRegrouped.parameter? "Sales.Order_Edit") := by
  have regrouped : Widget.Regrouped (Widget.preorderOfAll Page.orderEdit.widgets)
      Page.orderEdit.widgets Page.orderEditRegrouped.widgets :=
    .andThen (.permuted (List.Perm.swap _ _ _)) <|
      .andThen (.copied (List.mem_cons_of_mem _ (List.mem_cons_of_mem _ List.mem_cons_self)) _)
        (.wrapped [] (Page.orderEditRegrouped.widgets.flatMap Widget.children) [])
  exact ⟨rfl, regrouped, by cbv,
    (parameter_of_first_met .orderEdit "Sales.Order_Edit").2 .orderEditRegrouped rfl regrouped⟩

end FlowModel
