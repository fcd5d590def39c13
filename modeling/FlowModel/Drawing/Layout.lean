import FlowModel.Geometry

/-!
# Placing nodes one after another

Nodes are placed by offsets from the node placed before. The main cursor follows the main line. An offset that
points down from it opens a branch: then a branch cursor moves on its own until an offset brings it back to
the height of the main cursor or above, which closes the branch and takes the main cursor along. Parameters
have a row of their own above the flow.
-/

namespace FlowModel

/-- Cursors on the canvas: the main one, the one of an open branch, and the place of the next parameter. -/
structure Layout where
  main : Position
  branch : Option Position
  nextParameter : Position
deriving DecidableEq, Repr, Inhabited

namespace Layout

/-- Where the first node is placed when its offset is zero. -/
def flowOrigin : Position := ⟨0, 100⟩

/-- Distance between neighbours on the row of parameters. -/
def parameterSpacing : Int := 100

/-- The cursors of an empty canvas. -/
def initial : Layout := ⟨flowOrigin, none, .origin⟩

/-- Whether a branch is open. -/
def inBranch (layout : Layout) : Bool := layout.branch.isSome

/-- Move the cursor in use by an offset and give its new position, unless it leaves the canvas. -/
def advance? (layout : Layout) (dx dy : Int) : Option (Position × Layout) :=
  match layout.branch with
  | none => do
    let position ← layout.main.moved? dx dy
    if 0 < dy then
      return (position, { layout with branch := some position })
    else
      return (position, { layout with main := position })
  | some branch => do
    let position ← branch.moved? dx dy
    if position.y ≤ layout.main.y then
      return (position, { layout with branch := none, main := position })
    else
      return (position, { layout with branch := some position })

/-- Give the place of the next parameter and move on, unless the row leaves the canvas. -/
def parameter? (layout : Layout) : Option (Position × Layout) := do
  let next ← layout.nextParameter.moved? parameterSpacing 0
  return (layout.nextParameter, { layout with nextParameter := next })

end Layout

end FlowModel
