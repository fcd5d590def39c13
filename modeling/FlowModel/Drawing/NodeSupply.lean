import FlowModel.Microflow.Coloring

/-!
# New nodes

A supply hands out nodes with ids in ascending order. A node comes with the size of its kind and is not placed
yet. The last id of the range is never handed out, because a supply always knows the id after it.
-/

namespace FlowModel

namespace NodeKind

/-- The size at which a node of a kind is drawn. -/
def size : NodeKind → Size
  | .startEvent | .endEvent _ => ⟨20, 20⟩
  | .parameter .. => ⟨30, 30⟩
  | .activity .. => ⟨120, 60⟩
  | .split .. => ⟨90, 60⟩
  | .merge => ⟨40, 40⟩

/-- An activity in the color of its action. -/
def perform (action : Action) : NodeKind := .activity action action.color

end NodeKind

/-- The id of the next node. -/
structure NodeSupply where
  next : NodeId
deriving DecidableEq, Repr, Inhabited

namespace NodeSupply

/-- A supply for a microflow without nodes. -/
def initial : NodeSupply := ⟨0⟩

/-- A supply whose ids come after those of a microflow. -/
def after? (microflow : Microflow) : Option NodeSupply := microflow.nextId?.map NodeSupply.mk

/-- Hand out a node of a kind. -/
def take? (supply : NodeSupply) (kind : NodeKind) : Option (Node × NodeSupply) :=
  if supply.next < greatestNodeId then
    some (⟨supply.next, .origin, kind.size, kind⟩, ⟨supply.next + 1⟩)
  else
    none

end NodeSupply

end FlowModel
