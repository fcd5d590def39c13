import FlowModel.Project.PageParameter
import FlowModel.Proofs.FirstMet

/-!
# What the data views of a page take from it

A widget takes an entity from its page if it is a data view with that entity as its direct source, or
if some widget below it does. The entities that are collected are exactly these, so a page expects
the one entity that its widgets take, if there is one, and is ambiguous if there are two
(`Page.parameter?_eq_ok`).
-/

namespace FlowModel

namespace Widget

mutual

/-- The entities that a widget and the widgets below it take from the page, parents before children,
and again where they are taken again. -/
def directEntities : Widget → List String
  | .dataView source children => source.directEntity?.toList ++ directEntitiesOfAll children
  | .listView _ children => directEntitiesOfAll children
  | .container children => directEntitiesOfAll children
  | .text _ => []
  | .button _ => []

/-- The entities that widgets take from the page, in order. -/
def directEntitiesOfAll : List Widget → List String
  | [] => []
  | widget :: widgets => directEntities widget ++ directEntitiesOfAll widgets

end

/-- Whatever was met before a walk, it goes on with the first occurrences. -/
theorem firstMet_collect :
    (∀ found widget, ∀ met, FirstMet met found →
      FirstMet (met ++ widget.directEntities) (collect found widget)) ∧
    ∀ found widgets, ∀ met, FirstMet met found →
      FirstMet (met ++ directEntitiesOfAll widgets) (collectOfAll found widgets) := by
  apply Widget.collect.mutual_induct
  case case1 =>
    intro found source children below met firstMet
    rw [collect, directEntities, ← List.append_assoc]
    refine below _ ?_
    cases source.directEntity? with
    | none => rwa [Option.toList_none, List.append_nil]
    | some entity => exact firstMet.noted
  case case2 => exact fun found source children below met firstMet => below met firstMet
  case case3 => exact fun found children below met firstMet => below met firstMet
  case case4 => exact fun found caption met firstMet => (List.append_nil met).symm ▸ firstMet
  case case5 => exact fun found caption met firstMet => (List.append_nil met).symm ▸ firstMet
  case case6 => exact fun found met firstMet => (List.append_nil met).symm ▸ firstMet
  case case7 =>
    intro found widget widgets here later met firstMet
    rw [collectOfAll, directEntitiesOfAll, ← List.append_assoc]
    exact later _ (here met firstMet)

end Widget

/-- The entities that a page lists are those of its widgets, each where it is first met. -/
theorem Page.firstMet_directEntities (page : Page) :
    FirstMet (Widget.directEntitiesOfAll page.widgets) page.directEntities :=
  Widget.firstMet_collect.2 [] page.widgets [] firstMet_nil

/-- A widget, or one below it, is a data view that takes an entity directly from the page. -/
inductive Widget.Takes (entity : String) : Widget → Prop where
  | directly (children : List Widget) : Takes entity (.dataView (.directEntity entity) children)
  | inDataView {source : DataSource} {children : List Widget} {child : Widget}
    (member : child ∈ children) (below : Takes entity child) : Takes entity (.dataView source children)
  | inListView {source : DataSource} {children : List Widget} {child : Widget}
    (member : child ∈ children) (below : Takes entity child) : Takes entity (.listView source children)
  | inContainer {children : List Widget} {child : Widget}
    (member : child ∈ children) (below : Takes entity child) : Takes entity (.container children)

/-- Some widget of a page takes an entity from it. -/
def Page.Takes (page : Page) (entity : String) : Prop :=
  ∃ widget ∈ page.widgets, widget.Takes entity

/-- What a page expects: nothing if it is excluded, and otherwise the one entity that its widgets
take, if they take any. -/
def Page.Expects (page : Page) (parameter : Option String) : Prop :=
  page.excluded = true ∧ parameter = none ∨
    page.excluded = false ∧ ∀ entity, page.Takes entity ↔ parameter = some entity

variable {entity : String} {page : Page} {parameter : Option String}

/-- Only a direct source takes an entity. Other sources name theirs elsewhere, if at all. -/
theorem DataSource.mem_directEntity? {source : DataSource} :
    entity ∈ source.directEntity?.toList ↔ source = .directEntity entity := by
  cases source <;> simp [directEntity?, eq_comm]

/-- The entities that are collected below widgets are those that they take. -/
theorem Widget.mem_directEntities :
    (∀ widget : Widget, entity ∈ widget.directEntities ↔ widget.Takes entity) ∧
    ∀ widgets : List Widget, entity ∈ directEntitiesOfAll widgets ↔
      ∃ widget ∈ widgets, widget.Takes entity := by
  apply Widget.directEntities.mutual_induct
  case case1 =>
    intro source children below
    rw [directEntities, List.mem_append, DataSource.mem_directEntity?, below]
    constructor
    · rintro (rfl | ⟨child, member, takes⟩)
      · exact .directly children
      · exact .inDataView member takes
    · rintro (_ | ⟨member, takes⟩)
      · exact Or.inl rfl
      · exact Or.inr ⟨_, member, takes⟩
  case case2 =>
    intro source children below
    rw [directEntities, below]
    exact ⟨fun ⟨_, member, takes⟩ => .inListView member takes,
      fun | .inListView member takes => ⟨_, member, takes⟩⟩
  case case3 =>
    intro children below
    rw [directEntities, below]
    exact ⟨fun ⟨_, member, takes⟩ => .inContainer member takes,
      fun | .inContainer member takes => ⟨_, member, takes⟩⟩
  case case4 => exact fun caption => ⟨nofun, nofun⟩
  case case5 => exact fun caption => ⟨nofun, nofun⟩
  case case6 => exact ⟨nofun, nofun⟩
  case case7 =>
    intro widget widgets first later
    simp only [directEntitiesOfAll, List.mem_append, first, later, List.mem_cons, exists_eq_or_imp]

/-- A page lists exactly the entities that its widgets take. -/
theorem Page.mem_directEntities : entity ∈ page.directEntities ↔ page.Takes entity :=
  (page.firstMet_directEntities.mem_iff entity).trans (Widget.mem_directEntities.2 page.widgets)

/-- A page has a parameter exactly when its widgets take at most one entity, or when they do not
matter because the page is excluded. -/
theorem Page.parameter?_eq_ok {qualifiedName : String} :
    page.parameter? qualifiedName = .ok parameter ↔ page.Expects parameter := by
  rw [Page.parameter?, Page.Expects]
  cases page.excluded with
  | true => simp [eq_comm]
  | false =>
    have takes (entity : String) : page.Takes entity ↔ entity ∈ page.directEntities :=
      Page.mem_directEntities.symm
    simp only [Bool.false_eq_true, if_false, false_and, false_or, true_and, takes]
    cases collected : page.directEntities with
    | nil => cases parameter <;> simp
    | cons first others =>
      cases others with
      | nil =>
        simp only [Except.ok.injEq, List.mem_singleton]
        constructor
        · rintro rfl entity
          exact ⟨fun same => congrArg some same.symm, fun same => (Option.some.inj same).symm⟩
        · exact fun expects => ((expects first).mp rfl).symm
      | cons second later =>
        refine ⟨nofun, fun expects => ?_⟩
        have isFirst := (expects first).mp List.mem_cons_self
        have isSecond := (expects second).mp (List.mem_cons_of_mem _ List.mem_cons_self)
        have distinct : page.directEntities.Nodup := page.firstMet_directEntities.distinct
        rw [collected, List.nodup_cons, Option.some.inj (isFirst.symm.trans isSecond)] at distinct
        exact absurd List.mem_cons_self distinct.1

end FlowModel
