import FlowModel.Drawing.Layout
import FlowModel.Drawing.NodeSupply

/-!
# Drafts of microflows

A draft is a microflow under construction with the supply of its nodes and the cursors of its canvas. Steps of
a draft only append: they take nodes from the supply, place them and connect them. A step has no result when
the supply or the canvas is exhausted.
-/

namespace FlowModel

namespace Link

/-- From the right of one node to the left of the next, without a case. -/
def straight : Link := ⟨.right, .left, none⟩

/-- Between two given sides, without a case. -/
def between (origin destination : Side) : Link := ⟨origin, destination, none⟩

/-- The link with a case. -/
def labeled (link : Link) (label : String) : Link := { link with label := some label }

end Link

/-- The flow that a link makes between two nodes. -/
def Flow.ofLink (origin destination : NodeId) (link : Link) : Flow :=
  ⟨origin, destination, link.origin, link.destination, link.label⟩

/-- A microflow under construction. -/
structure Draft where
  microflow : Microflow
  supply : NodeSupply
  layout : Layout
deriving DecidableEq, Repr, Inhabited

/-- A step of a draft, which may exhaust ids or canvas. -/
abbrev Drafting (α : Type) := StateT Draft Option α

namespace Draft

/-- A draft without nodes. -/
def empty (name : String) (returnType : DataType) : Draft := ⟨.empty name returnType, .initial, .initial⟩

/-- Take a node of a kind from the supply, without placing it. -/
def create (kind : NodeKind) : Drafting Node := do
  let draft ← get
  let (node, supply) ← draft.supply.take? kind
  set { draft with supply }
  return node

/-- Append a placed node. -/
def push (node : Node) : Drafting Unit :=
  modify fun draft => { draft with microflow := { draft.microflow with nodes := draft.microflow.nodes ++ [node] } }

/-- Append a flow. Repeated flows are kept. -/
def connect (origin destination : NodeId) (link : Link) : Drafting Flow := do
  let flow := Flow.ofLink origin destination link
  modify fun draft => { draft with microflow := { draft.microflow with flows := draft.microflow.flows ++ [flow] } }
  return flow

/-- Append a parameter on the row of parameters. -/
def addParameter (name : String) (type : DataType) : Drafting NodeId := do
  let node ← create (.parameter name type)
  let draft ← get
  let (position, layout) ← draft.layout.parameter?
  set { draft with layout }
  push { node with position }
  return node.id

/-- Append a node by an offset from the node placed before, and connect it from a node if one is given. -/
def place (node : Node) (dx dy : Int) (from? : Option (NodeId × Link)) : Drafting NodeId := do
  let draft ← get
  let (position, layout) ← draft.layout.advance? dx dy
  set { draft with layout }
  push { node with position }
  match from? with
  | some (origin, link) => let _ ← connect origin node.id link
  | none => pure ()
  return node.id

/-- Append a new node of a kind, connected from a node by a straight link. -/
def append (kind : NodeKind) (dx dy : Int) (origin : NodeId) : Drafting NodeId := do
  place (← create kind) dx dy (some (origin, .straight))

end Draft

end FlowModel
