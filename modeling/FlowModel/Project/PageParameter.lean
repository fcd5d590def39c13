import FlowModel.Failure
import FlowModel.Project.Basic

/-!
# The parameter of a page

A page expects the entity that its data views take directly from the page. An excluded page expects nothing,
and a page whose data views name more than one entity is ambiguous.
-/

namespace FlowModel

/-- The entity that a source takes from the page, if it does. -/
def DataSource.directEntity? : DataSource → Option String
  | .directEntity entity => some entity
  | .database _ | .microflow _ => none

/-- Note what is met behind what was found before, unless it is known. -/
def noted {α : Type} [DecidableEq α] (found : List α) (next : α) : List α :=
  if next ∈ found then found else found ++ [next]

namespace Widget

mutual

/-- Walk down a widget, parents before children, and note the entities that are taken from the page behind those
found before. -/
def collect (found : List String) : Widget → List String
  | .dataView source children => collectOfAll (source.directEntity?.elim found (noted found)) children
  | .listView _ children => collectOfAll found children
  | .container children => collectOfAll found children
  | .text _ => found
  | .button _ => found

/-- Walk down widgets, one after another, with the entities found before. -/
def collectOfAll (found : List String) : List Widget → List String
  | [] => found
  | widget :: widgets => collectOfAll (collect found widget) widgets

end

end Widget

namespace Page

/-- The different entities that the data views of a page take from it, in the order in which they are met. -/
def directEntities (page : Page) : List String := Widget.collectOfAll [] page.widgets

/-- The entity that a page expects, if any. -/
def parameter? (page : Page) (qualifiedName : String) : Except Failure (Option String) :=
  if page.excluded then .ok none
  else
    match page.directEntities with
    | [] => .ok none
    | [entity] => .ok (some entity)
    | entities => .error (.ambiguousPageParameter qualifiedName entities)

end Page

end FlowModel
