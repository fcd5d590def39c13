import FlowModel.Proofs.Drawing.Diamond

/-!
# Drawings with an open tail

A drawing declares parameters, starts, goes on from tail to tail and ends. What has been drawn so
far always keeps the structural rules up to its open tail, and its ids are below the next one. Each
step keeps both, so a drawing that has ended breaks no rule.
-/

namespace FlowModel.Microflow

open Draft

/-- All ids are below the next one. -/
def NumberedBelow (microflow : Microflow) (next : NodeId) : Prop :=
  ∀ node ∈ microflow.nodes, node.id < next

/-- A microflow that has parameters at most. -/
structure Prepared (microflow : Microflow) (next : NodeId) : Prop where
  parameters : ∀ node ∈ microflow.nodes, node.isParameter = true
  flowless : microflow.flows = []
  distinct : (microflow.nodes.map Node.id).Nodup
  numbered : microflow.NumberedBelow next

/-- A microflow that keeps the rules up to an open tail, with ids below the next one. -/
structure OpenAt (microflow : Microflow) (tail? : Option NodeId) (next : NodeId) : Prop where
  growing : microflow.Growing tail?
  numbered : microflow.NumberedBelow next

variable {microflow : Microflow} {next : NodeId}

/-! ## Numbering -/

namespace NumberedBelow

variable (numbered : microflow.NumberedBelow next)
include numbered

/-- Ids from the next one on name nothing. -/
theorem fresh (k : Nat) : ¬ microflow.Names (next + k) := by
  rintro ⟨node, stored, same⟩
  have below := numbered node stored
  rw [same] at below
  exact Nat.not_lt_of_le (Nat.le_add_right _ k) below

/-- New nodes below a later bound keep the numbering below it. The bound must not go back. -/
theorem extended {nodes : List Node} {flows : List Flow} {later : NodeId} (ahead : next ≤ later)
    (newNumbered : ∀ node ∈ nodes, node.id < later) :
    (microflow.extended nodes flows).NumberedBelow later := by
  intro node stored
  rcases List.mem_append.mp stored with old | isNew
  · exact Nat.lt_of_lt_of_le (numbered node old) ahead
  · exact newNumbered node isNew

/-- A node with the next id uses up that id only. -/
theorem extended_single {flows : List Flow} (position : Position) (kind : NodeKind) :
    (microflow.extended [nodeAt next position kind] flows).NumberedBelow (next + 1) := by
  apply numbered.extended (Nat.le_succ next)
  intro node isNew
  rw [List.mem_singleton.mp isNew]
  exact Nat.lt_succ_self next

/-- A diamond uses up four ids. -/
theorem extended_diamond {flows : List Flow} (target : AttributeRef) (condition : String)
    (settings : ValidationSettings) (places : DiamondPlaces) :
    (microflow.extended (diamondNodes target condition settings next places) flows).NumberedBelow
      (next + 4) := by
  apply numbered.extended (Nat.le_add_right next 4)
  intro node isNew
  simp only [diamondNodes, List.mem_cons, List.not_mem_nil, or_false] at isNew
  rcases isNew with rfl | rfl | rfl | rfl
  · exact Nat.lt_add_of_pos_right (by decide)
  · exact Nat.add_lt_add_left (by decide) next
  · exact Nat.add_lt_add_left (by decide) next
  · exact Nat.add_lt_add_left (by decide) next

end NumberedBelow

/-! ## From nothing to the start -/

/-- An empty microflow is ready for parameters and a start. -/
theorem prepared_empty (name : String) (returnType : DataType) :
    (empty name returnType).Prepared 0 where
  parameters := by simp [empty]
  flowless := rfl
  distinct := by simp [empty]
  numbered := by simp [empty, NumberedBelow]

namespace Prepared

variable (prepared : microflow.Prepared next) (position : Position)
include prepared

/-- Parameters may be declared until the start is drawn. They have no flows, so they leave no tail.
-/
theorem parameter (name : String) (type : DataType) :
    (microflow.extended [nodeAt next position (.parameter name type)] []).Prepared (next + 1) := by
  constructor
  case parameters =>
    intro node stored
    rcases List.mem_append.mp stored with old | isNew
    · exact prepared.parameters node old
    · rw [List.mem_singleton.mp isNew]
      rfl
  case flowless => simp [prepared.flowless]
  case distinct =>
    apply distinct_extended prepared.distinct (by simp)
    intro node isNew
    rw [List.mem_singleton.mp isNew]
    exact prepared.numbered.fresh 0
  case numbered => exact prepared.numbered.extended_single position _

/-- A start event behind the parameters is the first tail. -/
theorem start :
    (microflow.extended [nodeAt next position .startEvent] []).OpenAt (some next) (next + 1) where
  growing :=
    growing_start prepared.parameters prepared.flowless prepared.distinct
      (prepared.numbered.fresh 0) rfl
  numbered := prepared.numbered.extended_single position _

end Prepared

/-! ## From tail to tail -/

namespace OpenAt

variable {tail : NodeId} (openAt : microflow.OpenAt (some tail) next)
include openAt

/-- The tail is none of the ids to come. -/
theorem apart (k : Nat) : tail ≠ next + k :=
  fun same => openAt.numbered.fresh k (same ▸ openAt.growing.tailNamed)

/-- An activity behind the tail takes one flow and gives one, so it can be the next tail. -/
theorem continues_perform (position : Position) (action : Action) :
    microflow.Continues tail [nodeAt next position (.perform action)] [.ofLink tail next .straight]
      (some next) :=
  continues_single (openAt.numbered.fresh 0) openAt.growing.tailNamed rfl rfl rfl rfl
    (Or.inr ⟨rfl, rfl⟩)

/-- An end event behind the tail takes one flow and leaves no tail. -/
theorem continues_close (position : Position) (value : String) :
    microflow.Continues tail [nodeAt next position (.endEvent value)]
      [.ofLink tail next .straight] none :=
  continues_single (openAt.numbered.fresh 0) openAt.growing.tailNamed rfl rfl rfl rfl
    (Or.inl ⟨rfl, rfl⟩)

/-- A diamond behind the tail is entered at its split and left at its merge. No other node of it is
open. -/
theorem continues_check (target : AttributeRef) (condition : String) (settings : ValidationSettings)
    (places : DiamondPlaces) :
    microflow.Continues tail (diamondNodes target condition settings next places)
      (diamondFlows tail next)
      (some (next + 3)) :=
  continues_diamond openAt.numbered.fresh openAt.growing.tailNamed

/-- An activity behind the tail is the next tail. -/
theorem perform (position : Position) (action : Action) :
    (microflow.extended [nodeAt next position (.perform action)]
      [.ofLink tail next .straight]).OpenAt
      (some next) (next + 1) where
  growing := openAt.growing.extend (openAt.continues_perform position action)
  numbered := openAt.numbered.extended_single position _

/-- An end event behind the tail closes the microflow. -/
theorem close (position : Position) (value : String) :
    (microflow.extended [nodeAt next position (.endEvent value)]
      [.ofLink tail next .straight]).OpenAt
      none (next + 1) where
  growing := openAt.growing.extend (openAt.continues_close position value)
  numbered := openAt.numbered.extended_single position _

/-- The merge of a diamond behind the tail is the next tail. -/
theorem check (target : AttributeRef) (condition : String) (settings : ValidationSettings)
    (places : DiamondPlaces) :
    (microflow.extended (diamondNodes target condition settings next places)
      (diamondFlows tail next)).OpenAt
      (some (next + 3)) (next + 4) where
  growing := openAt.growing.extend (openAt.continues_check target condition settings places)
  numbered := openAt.numbered.extended_diamond target condition settings places

end OpenAt

/-- A closed drawing breaks no rule. -/
theorem OpenAt.violations_eq_nil (closed : microflow.OpenAt none next) :
    microflow.violations = [] :=
  violations_eq_nil_iff.mpr closed.growing.regular

end FlowModel.Microflow
