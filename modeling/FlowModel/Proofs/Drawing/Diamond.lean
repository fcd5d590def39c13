import FlowModel.Drawing.ValidationMicroflow
import FlowModel.Proofs.Drawing.Steps

/-!
# The diamond of one check

The check of an attribute is drawn as four nodes and five flows behind the tail of a draft:
a split, the branch that clears the outcome and shows the message, and the merge where the
branch comes back. The law of the step holds for every draft, whatever its cursors are. A
diamond keeps the structural rules: its merge is the next tail.
-/

namespace FlowModel

/-- Where the four nodes of a diamond stand. -/
structure DiamondPlaces where
  split : Position
  invalidation : Position
  feedback : Position
  merge : Position
deriving DecidableEq, Repr, Inhabited

/-- The offsets of a diamond: two steps to the right, the branch below the second one, and back. -/
def Layout.diamond? (layout : Layout) : Option (DiamondPlaces × Layout) := do
  let (split, layout) ← layout.advance? 200 0
  let (invalidation, layout) ← layout.advance? 0 100
  let (feedback, layout) ← layout.advance? 200 0
  let (merge, layout) ← layout.advance? 0 (-100)
  return (⟨split, invalidation, feedback, merge⟩, layout)

/-- A diamond has its four places if each of four moves stays on the canvas. They come from an
arbitrary layout, possibly with a branch that is open already. -/
theorem Layout.diamond?_eq_some {layout last : Layout} {places : DiamondPlaces} :
    layout.diamond? = some (places, last) ↔
      ∃ atSplit atInvalidation atFeedback, layout.advance? 200 0 = some (places.split, atSplit) ∧
        atSplit.advance? 0 100 = some (places.invalidation, atInvalidation) ∧
        atInvalidation.advance? 200 0 = some (places.feedback, atFeedback) ∧
        atFeedback.advance? 0 (-100) = some (places.merge, last) := by
  simp only [diamond?, Option.bind_eq_bind, Option.bind_eq_some_iff, Option.pure_def,
    Option.some.injEq, Prod.mk.injEq, Prod.exists]
  constructor
  · rintro ⟨_, atSplit, first, _, atInvalidation, second, _, atFeedback, third, _, _, fourth,
      rfl, rfl⟩
    exact ⟨atSplit, atInvalidation, atFeedback, first, second, third, fourth⟩
  · rintro ⟨atSplit, atInvalidation, atFeedback, first, second, third, fourth⟩
    exact ⟨_, atSplit, first, _, atInvalidation, second, _, atFeedback, third, _, _, fourth,
      rfl, rfl⟩

namespace Draft

variable {draft after : Draft}

/-- The four nodes of a diamond, numbered from an id on. -/
def diamondNodes (target : AttributeRef) (condition : String) (settings : ValidationSettings)
    (id : NodeId) (places : DiamondPlaces) : List Node :=
  [nodeAt id places.split (.split condition target.name),
    nodeAt (id + 1) places.invalidation (.perform (.changeVariable settings.validVariable "false")),
    nodeAt (id + 2) places.feedback
      (.perform (.validationFeedback target.entityName target (.english settings.requiredMessage))),
    nodeAt (id + 3) places.merge .merge]

/-- The five flows of a diamond whose nodes are numbered from an id on. -/
def diamondFlows (tail id : NodeId) : List Flow :=
  [.ofLink tail id .straight,
    .ofLink id (id + 1) ((Link.between .bottom .top).labeled (caseLabel false)),
    .ofLink (id + 1) (id + 2) .straight,
    .ofLink (id + 2) (id + 3) (.between .top .bottom),
    .ofLink id (id + 3) (Link.straight.labeled (caseLabel true))]

/-- A diamond is appended when its offsets stay on the canvas and four ids are left. -/
theorem run_appendDiamond_eq_some {target : AttributeRef} {condition : String} {tail merge : NodeId}
    {settings : ValidationSettings} :
    (appendDiamond target condition tail settings).run draft = some (merge, after) ↔
      ∃ places layout, draft.layout.diamond? = some (places, layout) ∧
        draft.supply.next + 3 < greatestNodeId ∧ merge = draft.supply.next + 3 ∧
        after = ⟨draft.microflow.extended
          (diamondNodes target condition settings draft.supply.next places)
          (diamondFlows tail draft.supply.next), ⟨draft.supply.next + 4⟩, layout⟩ := by
  simp only [appendDiamond, run_bind_eq_some, run_append_eq_some, run_create_eq_some,
    run_place_eq_some, run_connect_eq_some, run_pure_eq_some, Layout.diamond?_eq_some]
  constructor
  · rintro ⟨_, _, ⟨split, atSplit, first, _, rfl, rfl⟩, _, _, ⟨_, rfl, rfl⟩, _, _,
      ⟨invalidation, atInvalidation, second, rfl, rfl⟩, _, _,
      ⟨feedback, atFeedback, third, _, rfl, rfl⟩, _, _, ⟨left, rfl, rfl⟩, _, _,
      ⟨merge, last, fourth, rfl, rfl⟩, _, _, ⟨_, rfl⟩, rfl, rfl⟩
    refine ⟨⟨split, invalidation, feedback, merge⟩, last,
      ⟨atSplit, atInvalidation, atFeedback, first, second, third, fourth⟩, left, rfl, ?_⟩
    simp [flowInto, diamondNodes, diamondFlows, nodeAt, Nat.add_assoc]
  · rintro ⟨places, last, ⟨atSplit, atInvalidation, atFeedback, first, second, third, fourth⟩, left,
      rfl, rfl⟩
    have room : ∀ k ≤ 3, draft.supply.next + k < greatestNodeId :=
      fun k few => Nat.lt_of_le_of_lt (Nat.add_le_add_left few _) left
    refine ⟨_, _, ⟨_, atSplit, first, room 0 (by decide), rfl, rfl⟩, _, _,
      ⟨room 1 (by decide), rfl, rfl⟩, _, _, ⟨_, atInvalidation, second, rfl, rfl⟩, _, _,
      ⟨_, atFeedback, third, room 2 (by decide), rfl, rfl⟩, _, _, ⟨room 3 (by decide), rfl, rfl⟩,
      _, _, ⟨_, last, fourth, rfl, rfl⟩, _, _, ⟨rfl, rfl⟩, rfl, ?_⟩
    simp [flowInto, diamondNodes, diamondFlows, nodeAt, Nat.add_assoc]

/-- The condition under which an attribute of an entity passes its check, if its type has one. -/
def condition? (entity : String) (checked : Attribute) : Option String :=
  checked.type.check? (attributeReference (QualifiedName.localPart entity) checked.name)

section Checks

variable {entity : String} {settings : ValidationSettings} {candidate : Attribute}
  {later : List Attribute} {tail last : NodeId} {leftOut : List UncheckedAttribute}

/-- An attribute is either passed over, with the tail where it was, or checked by a diamond that
moves the tail on. -/
theorem appendCheck_eq : appendCheck entity candidate tail settings =
    match condition? entity candidate with
    | none => return .skipped tail
    | some condition =>
      return .extended (← appendDiamond ⟨entity, candidate.name⟩ condition tail settings) := rfl

/-- An attribute without a condition leaves the draft as it is. -/
theorem run_appendCheck_of_unchecked {outcome : CheckOutcome}
    (unchecked : condition? entity candidate = none) :
    (appendCheck entity candidate tail settings).run draft = some (outcome, after) ↔
      outcome = .skipped tail ∧ after = draft := by
  rw [appendCheck_eq, unchecked]
  exact run_pure_eq_some

/-- An attribute with a condition adds a diamond, whose merge is the next tail. -/
theorem run_appendCheck_of_checked {outcome : CheckOutcome} {condition : String}
    (checked : condition? entity candidate = some condition) :
    (appendCheck entity candidate tail settings).run draft = some (outcome, after) ↔
      ∃ merge, (appendDiamond ⟨entity, candidate.name⟩ condition tail settings).run draft =
        some (merge, after) ∧ outcome = .extended merge := by
  rw [appendCheck_eq, checked]
  simp only [run_bind_eq_some, run_pure_eq_some]
  constructor
  · rintro ⟨merge, _, drawn, rfl, rfl⟩
    exact ⟨merge, drawn, rfl⟩
  · rintro ⟨merge, drawn, rfl⟩
    exact ⟨merge, after, drawn, rfl, rfl⟩

/-- The checks of attributes are the check of the first one and, from its tail, those of the others.
Attributes without a check are listed. -/
theorem run_appendChecks_cons :
    (appendChecks entity settings tail (candidate :: later)).run draft =
        some ((last, leftOut), after) ↔
      ∃ outcome between others,
        (appendCheck entity candidate tail settings).run draft = some (outcome, between) ∧
        (appendChecks entity settings outcome.tail later).run between =
          some ((last, others), after) ∧
        leftOut = match outcome with
          | .extended _ => others
          | .skipped _ => ⟨candidate.name, candidate.type.name⟩ :: others := by
  rw [appendChecks, run_bind_eq_some]
  constructor
  · rintro ⟨outcome, between, checked, appended⟩
    cases outcome with
    | extended next => exact ⟨_, between, leftOut, checked, appended, rfl⟩
    | skipped same =>
      simp only [run_bind_eq_some, run_pure_eq_some] at appended
      obtain ⟨⟨_, others⟩, _, appended, listed, rfl⟩ := appended
      obtain ⟨rfl, rfl⟩ := Prod.mk.inj listed
      exact ⟨_, between, others, checked, appended, rfl⟩
  · rintro ⟨outcome, between, others, checked, appended, rfl⟩
    refine ⟨outcome, between, checked, ?_⟩
    cases outcome with
    | extended next => exact appended
    | skipped same =>
      simp only [run_bind_eq_some, run_pure_eq_some]
      exact ⟨(last, others), after, appended, rfl, rfl⟩

/-- An attribute without a condition is listed, and the tail stays where it is. -/
theorem run_appendChecks_of_unchecked (unchecked : condition? entity candidate = none) :
    (appendChecks entity settings tail (candidate :: later)).run draft =
        some ((last, leftOut), after) ↔
      ∃ others, leftOut = ⟨candidate.name, candidate.type.name⟩ :: others ∧
        (appendChecks entity settings tail later).run draft = some ((last, others), after) := by
  simp only [run_appendChecks_cons, run_appendCheck_of_unchecked unchecked]
  constructor
  · rintro ⟨_, _, others, ⟨rfl, rfl⟩, appended, rfl⟩
    exact ⟨others, rfl, appended⟩
  · rintro ⟨others, rfl, appended⟩
    exact ⟨_, _, others, ⟨rfl, rfl⟩, appended, rfl⟩

/-- An attribute with a condition adds a diamond, and the later checks go on from its merge. -/
theorem run_appendChecks_of_checked {condition : String}
    (checked : condition? entity candidate = some condition) :
    (appendChecks entity settings tail (candidate :: later)).run draft =
        some ((last, leftOut), after) ↔
      ∃ merge between,
        (appendDiamond ⟨entity, candidate.name⟩ condition tail settings).run draft =
          some (merge, between) ∧
        (appendChecks entity settings merge later).run between = some ((last, leftOut), after) := by
  simp only [run_appendChecks_cons, run_appendCheck_of_checked checked]
  constructor
  · rintro ⟨_, between, _, ⟨merge, drawn, rfl⟩, appended, rfl⟩
    exact ⟨merge, between, drawn, appended⟩
  · rintro ⟨merge, between, drawn, appended⟩
    exact ⟨_, between, leftOut, ⟨merge, drawn, rfl⟩, appended, rfl⟩

end Checks

/-- A diamond behind the tail goes on to its merge. The flows enter its nodes in the order
of their ids; both branches of the split lead to the merge. -/
theorem continues_diamond {microflow : Microflow} {target : AttributeRef} {condition : String}
    {settings : ValidationSettings} {tail id : NodeId} {places : DiamondPlaces}
    (fresh : ∀ k, ¬ microflow.Names (id + k)) (tailNamed : microflow.Names tail) :
    microflow.Continues tail (diamondNodes target condition settings id places)
      (diamondFlows tail id)
      (some (id + 3)) := by
  have apart : ∀ k, tail ≠ id + k := fun k same => fresh k (same ▸ tailNamed)
  have apartFirst : tail ≠ id := apart 0
  have freshFirst : ¬ microflow.Names id := fresh 0
  have branch :
      Relation.ReflTransGen (Microflow.LinkedBy (diamondFlows tail id)) (id + 1) (id + 3) := by
    have first : Microflow.LinkedBy (diamondFlows tail id) (id + 1) (id + 2) :=
      ⟨.ofLink (id + 1) (id + 2) .straight, by simp [diamondFlows], rfl, rfl⟩
    have second : Microflow.LinkedBy (diamondFlows tail id) (id + 2) (id + 3) :=
      ⟨.ofLink (id + 2) (id + 3) (.between .top .bottom), by simp [diamondFlows], rfl, rfl⟩
    exact Relation.ReflTransGen.head first (Relation.ReflTransGen.single second)
  constructor
  case fresh => simp [diamondNodes, fresh, freshFirst]
  case distinct => simp [diamondNodes]
  case inner => simp [diamondNodes, nodeAt, NodeKind.perform, Node.isStart, Node.isParameter]
  case origins => simp [diamondNodes, diamondFlows, Flow.ofLink]
  case destinations => simp [diamondNodes, diamondFlows, Flow.ofLink]
  case loopless => simp [diamondFlows, Flow.ofLink, apartFirst]
  case ordered => simp [diamondFlows, Flow.ofLink, apart]
  case tailLeft => simp [diamondFlows, Flow.ofLink]
  case entered => simp [diamondNodes, diamondFlows, Flow.ofLink]
  case left => simp [diamondNodes, diamondFlows, Flow.ofLink]
  case endNotLeft => simp [diamondNodes, nodeAt, NodeKind.perform, Node.isEnd]
  case caseFromSplit =>
    simp [diamondNodes, diamondFlows, Flow.ofLink, Link.straight, Link.between, Link.labeled,
      nodeAt, Node.isSplit]
  case branches =>
    intro node isNew isSplit
    simp only [diamondNodes, List.mem_cons, List.not_mem_nil, or_false] at isNew
    rcases isNew with rfl | rfl | rfl | rfl
    · refine ⟨.ofLink id (id + 3) (Link.straight.labeled (caseLabel true)),
        .ofLink id (id + 1) ((Link.between .bottom .top).labeled (caseLabel false)), rfl, rfl, ?_,
        nodeAt (id + 3) places.merge .merge, by simp [diamondNodes], rfl,
        Relation.ReflTransGen.refl, branch⟩
      simp only [diamondFlows, Flow.ofLink, nodeAt_id, List.filter_cons, List.filter_nil,
        apartFirst, decide_false, decide_true, Nat.add_eq_left, if_true, if_false,
        Bool.false_eq_true, reduceCtorEq]
      exact List.Perm.swap _ _ _
    · exact absurd isSplit Bool.false_ne_true
    · exact absurd isSplit Bool.false_ne_true
    · exact absurd isSplit Bool.false_ne_true
  case nextPasses =>
    simp [diamondNodes, nodeAt, Node.isPassing, Node.isSplit, Node.isEnd, Node.isParameter]

end Draft

end FlowModel
