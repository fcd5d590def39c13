/-!
# Finite directed graphs

A graph is a list of arrows, each a pair of the node it leaves and the node it enters; repeated arrows and
loops are allowed. `visits` follows arrows from a list of nodes and uses each arrow at most once, so it ends
when arrows and pending nodes are used up. `core` takes away, again and again, the arrows that leave a node no
arrow enters; what is left is not empty exactly when some walk returns to its start.
-/

namespace FlowModel.Digraph

universe u
variable {α : Type u} [DecidableEq α]

/-- The nodes entered by the arrows that leave a node. -/
def successors (arrows : List (α × α)) (node : α) : List α :=
  (arrows.filter fun arrow => arrow.1 = node).map Prod.snd

/-- The arrows that do not leave a node. -/
def without (arrows : List (α × α)) (node : α) : List (α × α) :=
  arrows.filter fun arrow => arrow.1 ≠ node

/-- Each arrow from a node leads to a successor of it. So removing them all leaves fewer, unless
there are none. -/
theorem length_without_add_successors (arrows : List (α × α)) (node : α) :
    (without arrows node).length + (successors arrows node).length = arrows.length := by
  have parts := List.length_eq_countP_add_countP (fun arrow => decide (arrow.1 = node)) (l := arrows)
  simp only [without, successors, List.length_map, ← List.countP_eq_length_filter, decide_not, decide_eq_true_eq]
    at parts ⊢
  omega

/-- The nodes met when arrows are followed from the pending nodes, in the order in which they are met. A node
may be met more than once, but its arrows are followed only the first time. -/
def visits (arrows : List (α × α)) : List α → List α
  | [] => []
  | node :: pending => node :: visits (without arrows node) (successors arrows node ++ pending)
termination_by pending => arrows.length + pending.length
decreasing_by
  have parts := length_without_add_successors arrows node
  simp only [List.length_append, List.length_cons]
  omega

/-- The arrows whose first node some arrow enters. -/
def entered (arrows : List (α × α)) : List (α × α) :=
  arrows.filter fun arrow => arrows.any fun before => before.2 = arrow.1

/-- What is left when arrows that leave a node without entering arrows are taken away until none is left. -/
def core (arrows : List (α × α)) : List (α × α) :=
  if (entered arrows).length < arrows.length then core (entered arrows) else arrows
termination_by arrows.length

/-- Whether some walk of at least one arrow returns to its start. -/
def hasCycle (arrows : List (α × α)) : Bool := !(core arrows).isEmpty

end FlowModel.Digraph
