import FlowModel.Drawing.Draft
import FlowModel.Proofs.Microflow.Growth

/-!
# What steps of a draft do

A step of a draft succeeds exactly when ids and canvas suffice, and then it does one thing:
it takes an id, it moves a cursor, or it puts nodes and flows behind those of the microflow.
Each law below gives both the condition and the draft that is reached, so that a drawing is
read off step by step.
-/

namespace FlowModel.Draft

variable {draft after : Draft}

/-- A node of a kind in its place. -/
def nodeAt (id : NodeId) (position : Position) (kind : NodeKind) : Node :=
  ⟨id, position, kind.size, kind⟩

/-- A node at a place has the id it was given. -/
@[simp] theorem nodeAt_id (id : NodeId) (position : Position) (kind : NodeKind) :
    (nodeAt id position kind).id = id := rfl

/-- A node at a place has the kind it was given. -/
@[simp] theorem nodeAt_kind (id : NodeId) (position : Position) (kind : NodeKind) :
    (nodeAt id position kind).kind = kind := rfl

/-- A node at a place is there. -/
@[simp] theorem nodeAt_position (id : NodeId) (position : Position) (kind : NodeKind) :
    (nodeAt id position kind).position = position := rfl

/-- The flow into a new node, if the node is connected. -/
def flowInto (id : NodeId) : Option (NodeId × Link) → List Flow
  | none => []
  | some (origin, link) => [.ofLink origin id link]

/-! ## Steps of the state -/

/-- Two steps succeed together exactly if the first does and the second does from where the first
has led. -/
theorem run_bind_eq_some {α β : Type} {step : Drafting α} {next : α → Drafting β} {result : β} :
    (step >>= next).run draft = some (result, after) ↔
      ∃ value between, step.run draft = some (value, between) ∧
        (next value).run between = some (result, after) := by
  rw [StateT.run_bind]
  cases ran : step.run draft with
  | none => simp
  | some reached =>
    constructor
    · intro finished
      exact ⟨reached.1, reached.2, rfl, finished⟩
    · rintro ⟨value, between, same, finished⟩
      rw [Option.some.inj same]
      exact finished

/-- A result costs nothing. -/
theorem run_pure_eq_some {α : Type} {value result : α} :
    (pure value : Drafting α).run draft = some (result, after) ↔
      result = value ∧ after = draft := by
  rw [StateT.run_pure]
  constructor
  · intro same
    have equal := Option.some.inj same
    exact ⟨(Prod.mk.inj equal).1.symm, (Prod.mk.inj equal).2.symm⟩
  · rintro ⟨rfl, rfl⟩
    rfl

/-- Looking at a draft gives it and keeps it. -/
theorem run_get_eq_some {state : Draft} :
    (get : Drafting Draft).run draft = some (state, after) ↔ state = draft ∧ after = draft := by
  constructor
  · intro same
    have equal := Option.some.inj same
    exact ⟨(Prod.mk.inj equal).1.symm, (Prod.mk.inj equal).2.symm⟩
  · rintro ⟨rfl, rfl⟩
    rfl

/-- A draft can always be replaced. -/
theorem run_set_eq_some {state : Draft} {result : PUnit} :
    (set state : Drafting PUnit).run draft = some (result, after) ↔ after = state := by
  constructor
  · intro same
    exact (Prod.mk.inj (Option.some.inj same)).2.symm
  · rintro rfl
    rfl

/-- A draft can always be changed. -/
theorem run_modify_eq_some {change : Draft → Draft} {result : PUnit} :
    (modify change : Drafting PUnit).run draft = some (result, after) ↔ after = change draft := by
  constructor
  · intro same
    exact (Prod.mk.inj (Option.some.inj same)).2.symm
  · rintro rfl
    rfl

/-- An answer that may be missing breaks off the drawing if it is, and keeps the draft otherwise. -/
theorem run_lift_eq_some {α : Type} {answer : Option α} {result : α} :
    (liftM answer : Drafting α).run draft = some (result, after) ↔
      answer = some result ∧ after = draft := by
  cases answer with
  | none =>
    constructor
    · intro failed
      exact nomatch failed
    · rintro ⟨failed, _⟩
      exact nomatch failed
  | some value =>
    constructor
    · intro same
      have equal := Option.some.inj same
      exact ⟨congrArg some (Prod.mk.inj equal).1, (Prod.mk.inj equal).2.symm⟩
    · rintro ⟨same, rfl⟩
      rw [Option.some.inj same]
      rfl

/-! ## Steps of the drawing -/

/-- A node is created when ids are left. -/
theorem run_create_eq_some {kind : NodeKind} {node : Node} :
    (create kind).run draft = some (node, after) ↔
      draft.supply.next < greatestNodeId ∧ node = nodeAt draft.supply.next .origin kind ∧
        after = { draft with supply := ⟨draft.supply.next + 1⟩ } := by
  simp only [create, run_bind_eq_some, run_get_eq_some, run_lift_eq_some, run_set_eq_some,
    run_pure_eq_some, NodeSupply.take?]
  constructor
  · rintro ⟨_, _, ⟨rfl, rfl⟩, ⟨taken, supply⟩, _, ⟨given, rfl⟩, _, _, rfl, rfl, rfl⟩
    split at given
    · rename_i left
      obtain ⟨rfl, rfl⟩ := Prod.mk.inj (Option.some.inj given)
      exact ⟨left, rfl, rfl⟩
    · exact nomatch given
  · rintro ⟨left, rfl, rfl⟩
    exact ⟨_, _, ⟨rfl, rfl⟩, _, _, ⟨if_pos left, rfl⟩, ⟨⟩, _, rfl, rfl, rfl⟩

/-- Pushing a node puts it behind all others without a look at its id. -/
theorem run_push_eq_some {node : Node} {result : Unit} :
    (push node).run draft = some (result, after) ↔
      after = { draft with microflow := draft.microflow.extended [node] [] } := by
  rw [push, run_modify_eq_some]
  simp [Microflow.extended]

/-- Connecting puts a flow behind all others, whether or not there are nodes at its ends. -/
theorem run_connect_eq_some {origin destination : NodeId} {link : Link} {flow : Flow} :
    (connect origin destination link).run draft = some (flow, after) ↔
      flow = .ofLink origin destination link ∧
        after = { draft with
          microflow := draft.microflow.extended [] [.ofLink origin destination link] } := by
  simp only [connect, run_bind_eq_some, run_modify_eq_some, run_pure_eq_some]
  constructor
  · rintro ⟨_, _, rfl, rfl, rfl⟩
    simp [Microflow.extended]
  · rintro ⟨rfl, rfl⟩
    exact ⟨⟨⟩, _, rfl, rfl, by simp [Microflow.extended]⟩

/-- A node is placed when the offset stays on the canvas. -/
theorem run_place_eq_some {node : Node} {dx dy : Int} {from? : Option (NodeId × Link)}
    {id : NodeId} :
    (place node dx dy from?).run draft = some (id, after) ↔
      ∃ position layout, draft.layout.advance? dx dy = some (position, layout) ∧ id = node.id ∧
        after = { draft with
          layout
          microflow := draft.microflow.extended [{ node with position }]
            (flowInto node.id from?) } := by
  cases from? with
  | none =>
    simp only [place, run_bind_eq_some, run_get_eq_some, run_lift_eq_some, run_set_eq_some,
      run_push_eq_some, run_pure_eq_some, flowInto]
    constructor
    · rintro ⟨_, _, ⟨rfl, rfl⟩, ⟨position, layout⟩, _, ⟨moved, rfl⟩, _, _, rfl, _, _, rfl, rfl, rfl⟩
      exact ⟨position, layout, moved, rfl, rfl⟩
    · rintro ⟨position, layout, moved, rfl, rfl⟩
      exact ⟨_, _, ⟨rfl, rfl⟩, _, _, ⟨moved, rfl⟩, ⟨⟩, _, rfl, ⟨⟩, _, rfl, rfl, rfl⟩
  | some origin =>
    simp only [place, run_bind_eq_some, run_get_eq_some, run_lift_eq_some, run_set_eq_some,
      run_push_eq_some, run_connect_eq_some, run_pure_eq_some, flowInto]
    constructor
    · rintro ⟨_, _, ⟨rfl, rfl⟩, ⟨position, layout⟩, _, ⟨moved, rfl⟩, _, _, rfl, _, _, rfl, _, _,
        ⟨_, rfl⟩, rfl, rfl⟩
      exact ⟨position, layout, moved, rfl, by simp⟩
    · rintro ⟨position, layout, moved, rfl, rfl⟩
      exact ⟨_, _, ⟨rfl, rfl⟩, _, _, ⟨moved, rfl⟩, ⟨⟩, _, rfl, ⟨⟩, _, rfl, _, _, ⟨rfl, rfl⟩,
        rfl, by simp⟩

/-- A new node is drawn when ids are left and the offset stays on the canvas. -/
theorem run_draw_eq_some {kind : NodeKind} {dx dy : Int} {from? : Option (NodeId × Link)}
    {id : NodeId} :
    (create kind >>= fun node => place node dx dy from?).run draft = some (id, after) ↔
      ∃ position layout, draft.layout.advance? dx dy = some (position, layout) ∧
        draft.supply.next < greatestNodeId ∧ id = draft.supply.next ∧
        after = ⟨draft.microflow.extended [nodeAt id position kind] (flowInto id from?), ⟨id + 1⟩,
          layout⟩ := by
  simp only [run_bind_eq_some, run_create_eq_some, run_place_eq_some]
  constructor
  · rintro ⟨_, _, ⟨left, rfl, rfl⟩, position, layout, moved, rfl, rfl⟩
    exact ⟨position, layout, moved, left, rfl, rfl⟩
  · rintro ⟨position, layout, moved, left, rfl, rfl⟩
    exact ⟨_, _, ⟨left, rfl, rfl⟩, position, layout, moved, rfl, rfl⟩

/-- Appending a node needs an id and a place, and draws one straight flow to it. The canvas is asked
although the id may be the last. -/
theorem run_append_eq_some {kind : NodeKind} {dx dy : Int} {origin id : NodeId} :
    (append kind dx dy origin).run draft = some (id, after) ↔
      ∃ position layout, draft.layout.advance? dx dy = some (position, layout) ∧
        draft.supply.next < greatestNodeId ∧ id = draft.supply.next ∧
        after = ⟨draft.microflow.extended [nodeAt id position kind] [.ofLink origin id .straight],
          ⟨id + 1⟩, layout⟩ :=
  run_draw_eq_some

/-- A parameter is added when ids are left and its row stays on the canvas. -/
theorem run_addParameter_eq_some {name : String} {type : DataType} {id : NodeId} :
    (addParameter name type).run draft = some (id, after) ↔
      ∃ position layout, draft.layout.parameter? = some (position, layout) ∧
        draft.supply.next < greatestNodeId ∧ id = draft.supply.next ∧
        after = ⟨draft.microflow.extended [nodeAt id position (.parameter name type)] [], ⟨id + 1⟩,
          layout⟩ := by
  simp only [addParameter, run_bind_eq_some, run_create_eq_some, run_get_eq_some, run_lift_eq_some,
    run_set_eq_some, run_push_eq_some, run_pure_eq_some]
  constructor
  · rintro ⟨_, _, ⟨left, rfl, rfl⟩, _, _, ⟨rfl, rfl⟩, ⟨position, layout⟩, _, ⟨moved, rfl⟩, _, _,
      rfl, _, _, rfl, rfl, rfl⟩
    exact ⟨position, layout, moved, left, rfl, rfl⟩
  · rintro ⟨position, layout, moved, left, rfl, rfl⟩
    exact ⟨_, _, ⟨left, rfl, rfl⟩, _, _, ⟨rfl, rfl⟩, _, _, ⟨moved, rfl⟩, ⟨⟩, _, rfl, ⟨⟩, _, rfl,
      rfl, rfl⟩

end FlowModel.Draft
