import FlowModel.Proofs.Drawing.OpenTail
import Mathlib.Data.List.Range

/-!
# Ids of drawn nodes

A node is created by one step of a drawing and placed by another, later than others created
after it, or never. So the ids of the placed nodes are in no order, some are missing, and how
many nodes are placed does not tell which id is free. What every step keeps speaks of all nodes
that have been created, the placed and the pending ones together: their ids are distinct and
below the id of the supply (`Desk.Numbered`). A step only appends to the microflow, and what it
appends depends on the step alone but for the place of the node.

A supply made for a microflow starts behind its greatest id, in whatever order the ids stand and
however often they are repeated. Main statement: `Desk.ids_stay_apart`.
-/

namespace FlowModel

open Draft

/-! ## Supplies -/

namespace NodeSupply

/-- Hand out nodes of some kinds one after another. -/
def takeAll? (supply : NodeSupply) : List NodeKind → Option (List Node × NodeSupply)
  | [] => some ([], supply)
  | kind :: later => do
    let (node, supply) ← supply.take? kind
    let (nodes, supply) ← supply.takeAll? later
    return (node :: nodes, supply)

variable {supply after : NodeSupply}

/-- A supply gives its next id, unless it has come to the greatest one. The node stands at the
origin until it is placed. -/
theorem take?_eq_some {kind : NodeKind} {node : Node} :
    supply.take? kind = some (node, after) ↔
      supply.next < greatestNodeId ∧ node = nodeAt supply.next .origin kind ∧
        after = ⟨supply.next + 1⟩ := by
  by_cases left : supply.next < greatestNodeId
  · simp [take?, nodeAt, left, eq_comm]
  · simp [take?, left]

/-- Nodes are numbered in the order in which they are taken. -/
theorem takeAll?_cons {kind : NodeKind} {later : List NodeKind} {given : List Node} :
    supply.takeAll? (kind :: later) = some (given, after) ↔
      supply.next < greatestNodeId ∧ ∃ nodes, given = nodeAt supply.next .origin kind :: nodes ∧
        (⟨supply.next + 1⟩ : NodeSupply).takeAll? later = some (nodes, after) := by
  simp only [takeAll?, Option.bind_eq_bind, Option.bind_eq_some_iff, Option.pure_def,
    Option.some.injEq, Prod.mk.injEq, Prod.exists, take?_eq_some]
  constructor
  · rintro ⟨_, _, ⟨left, rfl, rfl⟩, nodes, _, taken, rfl, rfl⟩
    exact ⟨left, nodes, rfl, taken⟩
  · rintro ⟨left, nodes, rfl, taken⟩
    exact ⟨_, _, ⟨left, rfl, rfl⟩, nodes, _, taken, rfl, rfl⟩

/-- A supply counts up. -/
theorem takeAll?_spec {kinds : List NodeKind} {nodes : List Node}
    (taken : supply.takeAll? kinds = some (nodes, after)) :
    nodes.map Node.kind = kinds ∧ nodes.map Node.id = List.range' supply.next kinds.length := by
  induction kinds generalizing supply nodes with
  | nil =>
    obtain ⟨rfl, rfl⟩ := Prod.mk.inj (Option.some.inj taken)
    exact ⟨rfl, rfl⟩
  | cons kind later inductionHypothesis =>
    obtain ⟨_, others, rfl, takenLater⟩ := takeAll?_cons.mp taken
    obtain ⟨kinds_eq, ids_eq⟩ := inductionHypothesis takenLater
    simp [kinds_eq, ids_eq, List.range'_succ]

/-- A supply lasts until its next id would be the greatest one. -/
theorem exists_takeAll?_iff {kinds : List NodeKind} (inRange : supply.next ≤ greatestNodeId) :
    (∃ given, supply.takeAll? kinds = some given) ↔
      supply.next + kinds.length ≤ greatestNodeId := by
  induction kinds generalizing supply with
  | nil => exact iff_of_true ⟨_, rfl⟩ inRange
  | cons kind later inductionHypothesis =>
    have shifted : supply.next + 1 + later.length = supply.next + (later.length + 1) :=
      Nat.succ_add_eq_add_succ ..
    simp only [Prod.exists, takeAll?_cons, List.length_cons, ← shifted]
    constructor
    · rintro ⟨_, after, left, nodes, _, taken⟩
      exact (@inductionHypothesis ⟨supply.next + 1⟩ left).mp ⟨_, taken⟩
    · intro fits
      have left : supply.next < greatestNodeId := Nat.le_trans (Nat.le_add_right ..) fits
      obtain ⟨⟨nodes, after⟩, taken⟩ := (@inductionHypothesis ⟨supply.next + 1⟩ left).mpr fits
      exact ⟨_, after, left, nodes, rfl, taken⟩

end NodeSupply

namespace Microflow

/-- The search for the greatest id goes up, and past every id it meets. -/
theorem le_foldl_next (nodes : List Node) (start : NodeId) :
    start ≤ nodes.foldl (fun next node => max next (node.id + 1)) start ∧
      ∀ node ∈ nodes,
        node.id < nodes.foldl (fun next node => max next (node.id + 1)) start := by
  induction nodes generalizing start with
  | nil => exact ⟨Nat.le_refl start, fun _ impossible => nomatch impossible⟩
  | cons first rest inductionHypothesis =>
    obtain ⟨goesUp, passes⟩ := inductionHypothesis (max start (first.id + 1))
    refine ⟨Nat.le_trans (Nat.le_max_left ..) goesUp, fun node member => ?_⟩
    rcases List.mem_cons.mp member with rfl | later
    · exact Nat.lt_of_lt_of_le (Nat.le_max_right ..) goesUp
    · exact passes node later

/-- The search stays within a bound that all ids keep. -/
theorem foldl_next_le {nodes : List Node} {start bound : NodeId} (within : start ≤ bound)
    (below : ∀ node ∈ nodes, node.id < bound) :
    nodes.foldl (fun next node => max next (node.id + 1)) start ≤ bound := by
  induction nodes generalizing start with
  | nil => exact within
  | cons first rest inductionHypothesis =>
    have first_lt : first.id < bound := below first List.mem_cons_self
    exact inductionHypothesis (Nat.max_le.mpr ⟨within, first_lt⟩) fun node later =>
      below node (List.mem_cons_of_mem first later)

/-- Unless the greatest id is in use, there is a supply whose ids come after all others. -/
theorem exists_supply_after {microflow : Microflow}
    (below : microflow.NumberedBelow greatestNodeId) :
    ∃ supply, NodeSupply.after? microflow = some supply ∧ supply.next ≤ greatestNodeId ∧
      microflow.NumberedBelow supply.next := by
  have inRange : microflow.nodes.all (fun node => node.id < greatestNodeId) = true := by
    simpa [NumberedBelow] using below
  exact ⟨_, by rw [NodeSupply.after?, nextId?, if_pos inRange, Option.map_some],
    foldl_next_le (Nat.zero_le _) below, (le_foldl_next microflow.nodes 0).2⟩

end Microflow

/-! ## Steps of a drawing -/

/-- A draft and the nodes that have been created for it but not placed yet. -/
structure Desk where
  draft : Draft
  pending : List Node
deriving DecidableEq, Repr, Inhabited

namespace Desk

/-- A step of a drawing. A pending node is placed at most once. -/
inductive Step where
  | parameter (name : String) (type : DataType)
  | create (kind : NodeKind)
  | place (node : Node) (dx dy : Int) (from? : Option (NodeId × Link))
  | append (kind : NodeKind) (dx dy : Int) (origin : NodeId)
  | connect (origin destination : NodeId) (link : Link)
deriving DecidableEq, Repr, Inhabited

/-- An empty draft, for which nothing has been created. -/
def empty (name : String) (returnType : DataType) : Desk := ⟨.empty name returnType, []⟩

/-- The draft and the pending nodes after a step, unless ids or canvas are exhausted or a node is
to be placed that is not pending. -/
def after? (desk : Desk) : Step → Option Desk
  | .parameter name type => do
    let (_, draft) ← (addParameter name type).run desk.draft
    return { desk with draft }
  | .create kind => do
    let (node, draft) ← (Draft.create kind).run desk.draft
    return ⟨draft, desk.pending ++ [node]⟩
  | .place node dx dy from? => do
    guard (node ∈ desk.pending)
    let (_, draft) ← (Draft.place node dx dy from?).run desk.draft
    return ⟨draft, desk.pending.erase node⟩
  | .append kind dx dy origin => do
    let (_, draft) ← (Draft.append kind dx dy origin).run desk.draft
    return { desk with draft }
  | .connect origin destination link => do
    let (_, draft) ← (Draft.connect origin destination link).run desk.draft
    return { desk with draft }

/-- The draft and the pending nodes after steps, unless one of them is not possible. -/
def afterAll? (desk : Desk) (steps : List Step) : Option Desk := steps.foldlM after? desk

/-- The nodes that have been created, placed or not. -/
def created (desk : Desk) : List Node := desk.draft.microflow.nodes ++ desk.pending

/-- What a step asks for: an id, a place on the canvas, or a node that is pending. -/
def Admits (desk : Desk) : Step → Prop
  | .parameter _ _ =>
    desk.draft.supply.next < greatestNodeId ∧ ∃ given, desk.draft.layout.parameter? = some given
  | .create _ => desk.draft.supply.next < greatestNodeId
  | .place node dx dy _ =>
    node ∈ desk.pending ∧ ∃ given, desk.draft.layout.advance? dx dy = some given
  | .append _ dx dy _ =>
    desk.draft.supply.next < greatestNodeId ∧ ∃ given, desk.draft.layout.advance? dx dy = some given
  | .connect _ _ _ => True

/-- The nodes and flows that a step appends when a new node gets an id and is placed at a
position. -/
def Step.appended (step : Step) (id : NodeId) (position : Position) : List Node × List Flow :=
  match step with
  | .parameter name type => ([nodeAt id position (.parameter name type)], [])
  | .create _ => ([], [])
  | .place node _ _ from? => ([{ node with position }], flowInto node.id from?)
  | .append kind _ _ origin => ([nodeAt id position kind], [.ofLink origin id .straight])
  | .connect origin destination link => ([], [.ofLink origin destination link])

variable {desk after : Desk} {step : Step}

/-! ### What a step does -/

/-- A parameter is placed at once, without ever being pending. -/
theorem after?_parameter {name : String} {type : DataType} :
    desk.after? (.parameter name type) = some after ↔
      ∃ position layout, desk.draft.layout.parameter? = some (position, layout) ∧
        desk.draft.supply.next < greatestNodeId ∧
        after = ⟨⟨desk.draft.microflow.extended
          [nodeAt desk.draft.supply.next position (.parameter name type)] [],
          ⟨desk.draft.supply.next + 1⟩, layout⟩, desk.pending⟩ := by
  simp only [after?, Option.bind_eq_bind, Option.bind_eq_some_iff, Prod.exists, Option.pure_def,
    Option.some.injEq, run_addParameter_eq_some]
  constructor
  · rintro ⟨_, _, ⟨position, layout, given, left, rfl, rfl⟩, rfl⟩
    exact ⟨position, layout, given, left, rfl⟩
  · rintro ⟨position, layout, given, left, rfl⟩
    exact ⟨_, _, ⟨position, layout, given, left, rfl, rfl⟩, rfl⟩

/-- A created node takes its id now and waits for its place. -/
theorem after?_create {kind : NodeKind} :
    desk.after? (.create kind) = some after ↔
      desk.draft.supply.next < greatestNodeId ∧
        after = ⟨{ desk.draft with supply := ⟨desk.draft.supply.next + 1⟩ },
          desk.pending ++ [nodeAt desk.draft.supply.next .origin kind]⟩ := by
  simp only [after?, Option.bind_eq_bind, Option.bind_eq_some_iff, Prod.exists, Option.pure_def,
    Option.some.injEq, run_create_eq_some]
  constructor
  · rintro ⟨_, _, ⟨left, rfl, rfl⟩, rfl⟩
    exact ⟨left, rfl⟩
  · rintro ⟨left, rfl⟩
    exact ⟨_, _, ⟨left, rfl, rfl⟩, rfl⟩

/-- Only a pending node can be placed; then it is no longer pending. Its id is the one it was
created with, whatever was created since. -/
theorem after?_place {node : Node} {dx dy : Int} {from? : Option (NodeId × Link)} :
    desk.after? (.place node dx dy from?) = some after ↔
      node ∈ desk.pending ∧
        ∃ position layout, desk.draft.layout.advance? dx dy = some (position, layout) ∧
          after = ⟨{ desk.draft with
            layout
            microflow := desk.draft.microflow.extended [{ node with position }]
              (flowInto node.id from?) }, desk.pending.erase node⟩ := by
  simp only [after?, Option.bind_eq_bind, Option.bind_eq_some_iff, Prod.exists, Option.pure_def,
    Option.some.injEq, run_place_eq_some, Option.guard_eq_some']
  constructor
  · rintro ⟨_, isPending, _, _, ⟨position, layout, given, rfl, rfl⟩, rfl⟩
    exact ⟨isPending, position, layout, given, rfl⟩
  · rintro ⟨isPending, position, layout, given, rfl⟩
    exact ⟨⟨⟩, isPending, _, _, ⟨position, layout, given, rfl, rfl⟩, rfl⟩

/-- An appended node is created and placed in one step, with a flow from its origin. -/
theorem after?_append {kind : NodeKind} {dx dy : Int} {origin : NodeId} :
    desk.after? (.append kind dx dy origin) = some after ↔
      ∃ position layout, desk.draft.layout.advance? dx dy = some (position, layout) ∧
        desk.draft.supply.next < greatestNodeId ∧
        after = ⟨⟨desk.draft.microflow.extended [nodeAt desk.draft.supply.next position kind]
          [.ofLink origin desk.draft.supply.next .straight],
          ⟨desk.draft.supply.next + 1⟩, layout⟩, desk.pending⟩ := by
  simp only [after?, Option.bind_eq_bind, Option.bind_eq_some_iff, Prod.exists, Option.pure_def,
    Option.some.injEq, run_append_eq_some]
  constructor
  · rintro ⟨_, _, ⟨position, layout, given, left, rfl, rfl⟩, rfl⟩
    exact ⟨position, layout, given, left, rfl⟩
  · rintro ⟨position, layout, given, left, rfl⟩
    exact ⟨_, _, ⟨position, layout, given, left, rfl, rfl⟩, rfl⟩

/-- A flow needs neither an id nor a place. Its ends are not compared with the nodes. -/
theorem after?_connect {origin destination : NodeId} {link : Link} :
    desk.after? (.connect origin destination link) = some after ↔
      after = ⟨{ desk.draft with
        microflow := desk.draft.microflow.extended [] [.ofLink origin destination link] },
        desk.pending⟩ := by
  simp only [after?, Option.bind_eq_bind, Option.bind_eq_some_iff, Prod.exists, Option.pure_def,
    Option.some.injEq, run_connect_eq_some]
  constructor
  · rintro ⟨_, _, ⟨rfl, rfl⟩, rfl⟩
    rfl
  · rintro rfl
    exact ⟨_, _, ⟨rfl, rfl⟩, rfl⟩

/-- A step is possible exactly if what it asks for is there. -/
theorem exists_after?_iff : (∃ after, desk.after? step = some after) ↔ desk.Admits step := by
  cases step with
  | parameter name type =>
    simp only [after?_parameter, Admits, Prod.exists]
    constructor
    · rintro ⟨_, position, layout, given, left, rfl⟩
      exact ⟨left, position, layout, given⟩
    · rintro ⟨left, position, layout, given⟩
      exact ⟨_, position, layout, given, left, rfl⟩
  | create kind => simp only [after?_create, Admits, exists_and_left, exists_eq, and_true]
  | place node dx dy from? =>
    simp only [after?_place, Admits, Prod.exists]
    constructor
    · rintro ⟨_, isPending, position, layout, given, rfl⟩
      exact ⟨isPending, position, layout, given⟩
    · rintro ⟨isPending, position, layout, given⟩
      exact ⟨_, isPending, position, layout, given, rfl⟩
  | append kind dx dy origin =>
    simp only [after?_append, Admits, Prod.exists]
    constructor
    · rintro ⟨_, position, layout, given, left, rfl⟩
      exact ⟨left, position, layout, given⟩
    · rintro ⟨left, position, layout, given⟩
      exact ⟨_, position, layout, given, left, rfl⟩
  | connect origin destination link => simp only [after?_connect, Admits, exists_eq]

/-- A step puts what it appends behind the microflow and changes nothing else in it. -/
theorem microflow_after? (done : desk.after? step = some after) : ∃ position,
    after.draft.microflow = desk.draft.microflow.extended
      (step.appended desk.draft.supply.next position).1
      (step.appended desk.draft.supply.next position).2 := by
  cases step with
  | parameter name type =>
    obtain ⟨position, _, _, _, rfl⟩ := after?_parameter.mp done
    exact ⟨position, rfl⟩
  | create kind =>
    obtain ⟨_, rfl⟩ := after?_create.mp done
    exact ⟨.origin, Microflow.extended_nil.symm⟩
  | place node dx dy from? =>
    obtain ⟨_, position, _, _, rfl⟩ := after?_place.mp done
    exact ⟨position, rfl⟩
  | append kind dx dy origin =>
    obtain ⟨position, _, _, _, rfl⟩ := after?_append.mp done
    exact ⟨position, rfl⟩
  | connect origin destination link =>
    obtain rfl := after?_connect.mp done
    exact ⟨.origin, rfl⟩

/-- A step creates one node, which gets the next id, or none. -/
theorem created_after? (done : desk.after? step = some after) :
    (after.created.map Node.id).Perm (desk.created.map Node.id) ∧
        after.draft.supply = desk.draft.supply ∨
      (after.created.map Node.id).Perm (desk.draft.supply.next :: desk.created.map Node.id) ∧
        after.draft.supply = ⟨desk.draft.supply.next + 1⟩ := by
  cases step with
  | parameter name type =>
    obtain ⟨_, _, _, _, rfl⟩ := after?_parameter.mp done
    refine Or.inr ⟨?_, rfl⟩
    simp [created]
  | create kind =>
    obtain ⟨_, rfl⟩ := after?_create.mp done
    refine Or.inr ⟨?_, rfl⟩
    rw [created, ← List.append_assoc, List.map_append]
    exact List.perm_append_singleton ..
  | place node dx dy from? =>
    obtain ⟨isPending, _, _, _, rfl⟩ := after?_place.mp done
    refine Or.inl ⟨?_, rfl⟩
    have taken : (desk.pending.map Node.id).Perm
        (node.id :: (desk.pending.erase node).map Node.id) :=
      (List.perm_cons_erase isPending).map Node.id
    simpa [created] using (taken.symm.append_left _)
  | append kind dx dy origin =>
    obtain ⟨_, _, _, _, rfl⟩ := after?_append.mp done
    refine Or.inr ⟨?_, rfl⟩
    simp [created]
  | connect origin destination link =>
    obtain rfl := after?_connect.mp done
    refine Or.inl ⟨?_, rfl⟩
    simp [created]

/-! ### What all steps keep -/

/-- The ids of all nodes that have been created are distinct and below the next one. -/
structure Numbered (desk : Desk) : Prop where
  distinct : (desk.created.map Node.id).Nodup
  below : ∀ id ∈ desk.created.map Node.id, id < desk.draft.supply.next

/-- Nothing has been created in an empty draft. -/
theorem numbered_empty (name : String) (returnType : DataType) :
    (empty name returnType).Numbered where
  distinct := List.nodup_nil
  below := fun _ impossible => nomatch impossible

/-- A step moves nodes from the pending to the placed ones, or its new node gets an id that none
of them has. -/
theorem Numbered.after? (numbered : desk.Numbered) (done : desk.after? step = some after) :
    after.Numbered := by
  rcases created_after? done with ⟨same, supply_eq⟩ | ⟨added, supply_eq⟩
  · refine ⟨same.nodup_iff.mpr numbered.distinct, fun id member => ?_⟩
    rw [supply_eq]
    exact numbered.below id (same.mem_iff.mp member)
  · have unused : desk.draft.supply.next ∉ desk.created.map Node.id :=
      fun member => Nat.lt_irrefl _ (numbered.below _ member)
    refine ⟨added.nodup_iff.mpr (List.nodup_cons.mpr ⟨unused, numbered.distinct⟩),
      fun id member => ?_⟩
    rw [supply_eq]
    rcases List.mem_cons.mp (added.mem_iff.mp member) with rfl | old
    · exact Nat.lt_succ_self _
    · exact Nat.lt_succ_of_lt (numbered.below id old)

/-- The later steps start at the desk that the first one leaves. -/
theorem afterAll?_cons {steps : List Step} :
    desk.afterAll? (step :: steps) = some after ↔
      ∃ between, desk.after? step = some between ∧ between.afterAll? steps = some after := by
  simp [afterAll?, Option.bind_eq_some_iff]

/-- The numbering holds after all steps, by the law of each. -/
theorem Numbered.afterAll? {steps : List Step} (numbered : desk.Numbered)
    (done : desk.afterAll? steps = some after) : after.Numbered := by
  induction steps generalizing desk with
  | nil =>
    obtain rfl := Option.some.inj done
    exact numbered
  | cons step later inductionHypothesis =>
    obtain ⟨between, first, others⟩ := afterAll?_cons.mp done
    exact inductionHypothesis (numbered.after? first) others

/-- Steps put nodes and flows behind those that are there. -/
theorem microflow_afterAll? {steps : List Step} (done : desk.afterAll? steps = some after) :
    ∃ nodes flows, after.draft.microflow = desk.draft.microflow.extended nodes flows := by
  induction steps generalizing desk with
  | nil =>
    obtain rfl := Option.some.inj done
    exact ⟨[], [], Microflow.extended_nil.symm⟩
  | cons step later inductionHypothesis =>
    obtain ⟨between, first, others⟩ := afterAll?_cons.mp done
    obtain ⟨position, grown⟩ := microflow_after? first
    obtain ⟨nodes, flows, grownOn⟩ := inductionHypothesis others
    exact ⟨_, _, by rw [grownOn, grown, Microflow.extended_extended]⟩

/-- Whatever steps an empty draft has undergone, with nodes placed in any order, late or never: the
ids in the microflow are distinct and below the next one of the supply. A further step is possible
exactly if ids, canvas and pending nodes suffice. It appends its own node and its own flow, if it
has them, and later steps leave alone what is there. For a microflow without the greatest id, in
whatever order its ids stand and however often they are repeated, there is a supply; it lasts to
the end of the range, and it gives nodes of the kinds asked for, whose ids are distinct and not in
use. -/
theorem ids_stay_apart :
    (∀ name returnType steps desk, (empty name returnType).afterAll? steps = some desk →
      (desk.draft.microflow.nodes.map Node.id).Nodup ∧
        desk.draft.microflow.NumberedBelow desk.draft.supply.next ∧
        (∀ step, (∃ after, desk.after? step = some after) ↔ desk.Admits step) ∧
        (∀ step after, desk.after? step = some after → ∃ position,
          after.draft.microflow = desk.draft.microflow.extended
            (step.appended desk.draft.supply.next position).1
            (step.appended desk.draft.supply.next position).2) ∧
        ∀ later after, desk.afterAll? later = some after → ∃ nodes flows,
          after.draft.microflow = desk.draft.microflow.extended nodes flows) ∧
    ∀ microflow : Microflow, microflow.NumberedBelow greatestNodeId → ∃ supply,
      NodeSupply.after? microflow = some supply ∧ ∀ kinds,
        ((∃ given, supply.takeAll? kinds = some given) ↔
          supply.next + kinds.length ≤ greatestNodeId) ∧
        ∀ nodes rest, supply.takeAll? kinds = some (nodes, rest) →
          nodes.map Node.kind = kinds ∧ (nodes.map Node.id).Nodup ∧
            ∀ node ∈ nodes, ¬ microflow.Names node.id := by
  constructor
  · intro name returnType steps desk done
    have numbered := (numbered_empty name returnType).afterAll? done
    refine ⟨?_, ?_, fun step => exists_after?_iff, fun step after => microflow_after?,
      fun later after => microflow_afterAll?⟩
    · have distinct := numbered.distinct
      rw [created, List.map_append] at distinct
      exact (List.nodup_append.mp distinct).1
    · intro node placed
      exact numbered.below node.id (List.mem_map_of_mem (List.mem_append_left _ placed))
  · intro microflow below
    obtain ⟨supply, isNext, inRange, numbered⟩ := Microflow.exists_supply_after below
    refine ⟨supply, isNext, fun kinds => ⟨NodeSupply.exists_takeAll?_iff inRange, ?_⟩⟩
    intro nodes rest taken
    obtain ⟨kinds_eq, ids_eq⟩ := NodeSupply.takeAll?_spec taken
    refine ⟨kinds_eq, ids_eq ▸ List.nodup_range', fun node member named => ?_⟩
    have listed : node.id ∈ List.range' supply.next kinds.length :=
      ids_eq ▸ List.mem_map_of_mem member
    obtain ⟨k, same⟩ := Nat.exists_eq_add_of_le (List.mem_range'_1.mp listed).1
    exact numbered.fresh k (same ▸ named)

/-- Three nodes are created; the third is placed first, then a parameter, then the first with a flow
from the second, which stays pending. A flow is drawn twice. -/
def shuffledSteps : List Step :=
  [.create .startEvent, .create .merge, .create (.endEvent "true"),
    .place (nodeAt 2 .origin (.endEvent "true")) 100 0 none, .parameter "Order" .boolean,
    .place (nodeAt 0 .origin .startEvent) (-100) 0 (some (1, .straight)),
    .connect 0 2 .straight, .connect 0 2 .straight]

/-- A microflow whose ids are neither sorted nor distinct. -/
def scattered : Microflow :=
  { Microflow.empty "Scattered" .void with
    nodes := [nodeAt 7 .origin .merge, nodeAt 2 .origin .startEvent, nodeAt 7 .origin .merge] }

/-- Nodes are placed in another order than they were created in, and one is still pending; all ids
remain distinct. A supply for the scattered ids starts behind the greatest of them, not behind the
last. -/
theorem ids_stay_apart_shuffled :
    (∃ desk, (empty "Shuffled" .boolean).afterAll? shuffledSteps = some desk ∧
      desk.draft.microflow.nodes.map Node.id = [2, 3, 0] ∧
      (desk.draft.microflow.nodes.map Node.id).Nodup ∧
      desk.draft.microflow.NumberedBelow 4 ∧
      ∃ after position, desk.after? (.place (nodeAt 1 .origin .merge) 0 100 none) = some after ∧
        after.draft.microflow =
          desk.draft.microflow.extended [nodeAt 1 position .merge] []) ∧
    scattered.NumberedBelow greatestNodeId ∧
    ∃ nodes rest, (⟨8⟩ : NodeSupply).takeAll? [.merge, .startEvent] = some (nodes, rest) ∧
      (nodes.map Node.id).Nodup ∧ ∀ node ∈ nodes, ¬ scattered.Names node.id := by
  obtain ⟨drawn, supplied⟩ := ids_stay_apart
  have done : (empty "Shuffled" .boolean).afterAll? shuffledSteps = some _ := rfl
  have below : ∀ node ∈ scattered.nodes, node.id < greatestNodeId := by decide
  obtain ⟨distinct, numbered, admits, grows, _⟩ := drawn _ _ _ _ done
  obtain ⟨after, placed⟩ := (admits (.place (nodeAt 1 .origin .merge) 0 100 none)).mpr
    ⟨by decide, _, rfl⟩
  obtain ⟨position, grown⟩ := grows _ after placed
  obtain ⟨supply, isNext, gives⟩ := supplied scattered below
  obtain rfl : supply = ⟨8⟩ := (Option.some.inj isNext).symm
  obtain ⟨lasts, apart⟩ := gives [.merge, .startEvent]
  obtain ⟨⟨nodes, rest⟩, taken⟩ := lasts.mpr (by decide)
  obtain ⟨_, nodup, unused⟩ := apart nodes rest taken
  exact ⟨⟨_, done, rfl, distinct, numbered, after, position, placed, grown⟩, below, nodes, rest,
    taken, nodup, unused⟩

end Desk
end FlowModel
