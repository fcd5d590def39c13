/-!
# Canvas geometry

Nodes of a microflow are drawn on a canvas whose coordinates are whole numbers of 32 bits with a sign. Coordinates
are kept as integers, and every movement says whether it stays on the canvas: `Position.moved?` has no
value for a movement that leaves it. A flow attaches to one of the four sides of a node.
-/

namespace FlowModel

/-- Least coordinate of the canvas. -/
def leastCoordinate : Int := -2147483648

/-- Greatest coordinate of the canvas. -/
def greatestCoordinate : Int := 2147483647

/-- A coordinate lies on the canvas when it fits in 32 bits with a sign. -/
def OnCanvas (coordinate : Int) : Prop :=
  leastCoordinate ≤ coordinate ∧ coordinate ≤ greatestCoordinate

instance (coordinate : Int) : Decidable (OnCanvas coordinate) :=
  inferInstanceAs (Decidable (_ ∧ _))

/-- Middle point of a node on the canvas, in grid units. -/
structure Position where
  x : Int
  y : Int
deriving DecidableEq, Repr, Inhabited

namespace Position

/-- The corner of the canvas where rows start. -/
def origin : Position := ⟨0, 0⟩

/-- The position reached by an offset, if it is still on the canvas. -/
def moved? (position : Position) (dx dy : Int) : Option Position :=
  if OnCanvas (position.x + dx) ∧ OnCanvas (position.y + dy) then
    some ⟨position.x + dx, position.y + dy⟩
  else
    none

/-- Positions are shown as a pair in parentheses. -/
def text (position : Position) : String :=
  "(" ++ position.x.repr ++ ", " ++ position.y.repr ++ ")"

/-- A position can be moved exactly if both of its new coordinates are on the canvas. There is no
wrapping around. -/
theorem moved?_eq_some_iff {position target : Position} {dx dy : Int} :
    position.moved? dx dy = some target ↔
      OnCanvas (position.x + dx) ∧ OnCanvas (position.y + dy) ∧
        target = ⟨position.x + dx, position.y + dy⟩ := by
  unfold moved?
  split
  · rename_i inside
    simp [inside.1, inside.2, eq_comm]
  · rename_i outside
    simp only [reduceCtorEq, false_iff]
    exact fun reached => outside ⟨reached.1, reached.2.1⟩

end Position

/-- Extent of a node around its middle point. -/
structure Size where
  width : Int
  height : Int
deriving DecidableEq, Repr, Inhabited

/-- Side of a node that a flow attaches to. -/
inductive Side where
  | top
  | right
  | bottom
  | left
deriving DecidableEq, Repr, Inhabited

namespace Side

/-- Sides are numbered clockwise from the top. -/
def index : Side → Nat
  | .top => 0
  | .right => 1
  | .bottom => 2
  | .left => 3

/-- Name of a side in documents and outlines. -/
def name : Side → String
  | .top => "Top"
  | .right => "Right"
  | .bottom => "Bottom"
  | .left => "Left"

/-- All sides, in the order of their numbers. -/
def all : List Side := [.top, .right, .bottom, .left]

end Side

end FlowModel
