import FlowModel.Proofs.Drawing.OpenTail
import FlowModel.Proofs.Microflow.Endings

/-!
# Checks behind any tail

A check may be appended to any draft, however its microflow came about. If an end event behind the
tail would complete the microflow, then after the check an end event behind the new tail would
complete it (`check_keeps_chain_open`). The microflow need not be a drawing with a single open end:
other nodes may have flows into the id of the end event before there is a node with that id. After
the check that id may be the one of its split; then those flows lead into the check.
-/

namespace FlowModel.Draft

open Microflow

variable {draft after : Draft} {entity : String} {candidate : Attribute} {tail : NodeId}
  {settings : ValidationSettings} {outcome : CheckOutcome}

section Appended

variable (numbered : draft.microflow.NumberedBelow draft.supply.next)
  (ran : (appendCheck entity candidate tail settings).run draft = some (outcome, after))
include numbered ran

/-- Ids stay distinct and below the next one. -/
theorem numbered_appendCheck (distinct : (draft.microflow.nodes.map Node.id).Nodup) :
    (after.microflow.nodes.map Node.id).Nodup ∧
      after.microflow.NumberedBelow after.supply.next := by
  cases checked : condition? entity candidate with
  | none =>
    obtain ⟨-, rfl⟩ := (run_appendCheck_of_unchecked checked).mp ran
    exact ⟨distinct, numbered⟩
  | some condition =>
    obtain ⟨merge, drawn, -⟩ := (run_appendCheck_of_checked checked).mp ran
    obtain ⟨places, layout, -, -, -, rfl⟩ := run_appendDiamond_eq_some.mp drawn
    refine ⟨distinct_extended distinct (by simp [diamondNodes]) ?_,
      numbered.extended_diamond _ condition settings places⟩
    simpa [diamondNodes] using
      And.intro (numbered.fresh 0) ⟨numbered.fresh 1, numbered.fresh 2, numbered.fresh 3⟩

/-- The id that was next is in use or still next. -/
theorem next_appendCheck :
    after.microflow.Names draft.supply.next ∨ after.supply.next = draft.supply.next := by
  cases checked : condition? entity candidate with
  | none =>
    obtain ⟨-, rfl⟩ := (run_appendCheck_of_unchecked checked).mp ran
    exact Or.inr rfl
  | some condition =>
    obtain ⟨merge, drawn, -⟩ := (run_appendCheck_of_checked checked).mp ran
    obtain ⟨places, layout, -, -, -, rfl⟩ := run_appendDiamond_eq_some.mp drawn
    exact Or.inl ((names_extended _ _).mpr (Or.inr ⟨_, List.mem_cons_self, rfl⟩))

/-- A check carries a sketch from its tail to the next one. If it gives the promised id to none of
its nodes, that id is still to be drawn. -/
theorem sketch_appendCheck {promised later : NodeId}
    (sketch : draft.microflow.Sketch (fun id => id = promised) (some tail))
    (fresh : ¬ draft.microflow.Names promised)
    (kept : after.microflow.Names promised ∨ later = promised) :
    after.microflow.Sketch (fun id => id = later) (some outcome.tail) := by
  cases checked : condition? entity candidate with
  | none =>
    obtain ⟨rfl, rfl⟩ := (run_appendCheck_of_unchecked checked).mp ran
    obtain rfl := kept.resolve_left fresh
    exact sketch
  | some condition =>
    obtain ⟨merge, drawn, rfl⟩ := (run_appendCheck_of_checked checked).mp ran
    obtain ⟨places, layout, -, -, rfl, rfl⟩ := run_appendDiamond_eq_some.mp drawn
    refine sketch.extend (continues_diamond numbered.fresh sketch.tailNamed) ?_
    rintro _ rfl
    rcases kept with isDrawn | same
    · exact Or.inl (((names_extended _ _).mp isDrawn).resolve_left fresh)
    · exact Or.inr same.symm

end Appended

/-- A check behind any tail of a draft with distinct ids below the next one. Without a condition
nothing changes. With one the check is appended exactly if ids and canvas suffice. Then ids are
distinct and below the next one as before. If an ending behind the tail completes the microflow,
then so does one behind the new tail: after an ending with the next id any one with the id that is
next then, and after an ending with another free id any one that takes up that id, unless the check
has done so. -/
theorem check_keeps_chain_open (distinct : (draft.microflow.nodes.map Node.id).Nodup)
    (numbered : draft.microflow.NumberedBelow draft.supply.next) :
    (condition? entity candidate = none →
      (appendCheck entity candidate tail settings).run draft = some (.skipped tail, draft)) ∧
    (∀ condition, condition? entity candidate = some condition →
      ((∃ reached, (appendCheck entity candidate tail settings).run draft = some reached) ↔
        draft.supply.next + 3 < greatestNodeId ∧ ∃ given, draft.layout.diamond? = some given)) ∧
    ∀ outcome after,
      (appendCheck entity candidate tail settings).run draft = some (outcome, after) →
      (after.microflow.nodes.map Node.id).Nodup ∧
      after.microflow.NumberedBelow after.supply.next ∧
      ∀ ending, ¬ draft.microflow.Names ending.id →
        (draft.microflow.endedBehind tail ending).violations = [] →
        after.microflow.Names outcome.tail ∧
        (ending.id = draft.supply.next → ∀ other, other.id = after.supply.next →
          (after.microflow.endedBehind outcome.tail other).violations = []) ∧
        ∀ other, ¬ after.microflow.Names other.id →
          (after.microflow.Names ending.id ∨ other.id = ending.id) →
          (after.microflow.endedBehind outcome.tail other).violations = [] := by
  refine ⟨fun unchecked => (run_appendCheck_of_unchecked unchecked).mpr ⟨rfl, rfl⟩, ?_, ?_⟩
  · intro condition checked
    simp only [Prod.exists, run_appendCheck_of_checked checked, run_appendDiamond_eq_some]
    constructor
    · rintro ⟨_, _, _, ⟨places, layout, given, left, rfl, rfl⟩, rfl⟩
      exact ⟨left, places, layout, given⟩
    · rintro ⟨left, places, layout, given⟩
      exact ⟨_, _, _, ⟨places, layout, given, left, rfl, rfl⟩, rfl⟩
  · intro outcome after ran
    obtain ⟨distinctAfter, numberedAfter⟩ := numbered_appendCheck numbered ran distinct
    refine ⟨distinctAfter, numberedAfter, fun ending fresh accepted => ?_⟩
    have sketch := sketch_of_endedBehind distinct fresh accepted
    have completes : ∀ other : Ending, ¬ after.microflow.Names other.id →
        (after.microflow.Names ending.id ∨ other.id = ending.id) →
        (after.microflow.endedBehind outcome.tail other).violations = [] := fun other unused kept =>
      (sketch_appendCheck numbered ran sketch fresh kept).violations_endedBehind unused
        fun _ isPromised => isPromised
    refine ⟨?_, fun isNext other isNextAfter => completes other ?_ ?_, completes⟩
    · exact (sketch_appendCheck numbered ran sketch fresh (Or.inr rfl)).tailNamed
    · exact isNextAfter ▸ numberedAfter.fresh 0
    · rw [isNext, isNextAfter]
      exact next_appendCheck numbered ran

/-- A parameter and a chain that is open behind an activity. A second flow leaves the merge before
the activity, to the id that is next; there is no node with that id. A branch is open. -/
def unfinished : Draft where
  microflow :=
    { Microflow.empty "Unfinished" .boolean with
      nodes := [nodeAt 3 .origin (.parameter "Order" .boolean), nodeAt 0 .origin .startEvent,
        nodeAt 1 .origin (.split "true" "Open"), nodeAt 4 .origin .merge,
        nodeAt 6 .origin (.perform (.changeVariable "IsValid" "true"))]
      flows := [.ofLink 0 1 .straight, .ofLink 1 4 (Link.straight.labeled (caseLabel true)),
        .ofLink 1 4 (Link.straight.labeled (caseLabel false)), .ofLink 4 6 .straight,
        .ofLink 4 9 .straight] }
  supply := ⟨9⟩
  layout := ⟨⟨0, 100⟩, some ⟨50, 300⟩, .origin⟩

/-- An unfinished microflow with a flow that leads nowhere yet takes a check. The split of the check
gets the id to which that flow leads. -/
theorem check_keeps_chain_open_unfinished :
    (unfinished.microflow.nodes.map Node.id).Nodup ∧ unfinished.microflow.NumberedBelow 9 ∧
    (unfinished.microflow.endedBehind 6 ⟨9, .origin, ⟨20, 20⟩, "true", .right, .left⟩).violations =
      [] ∧
    ∃ after, (appendCheck "Sales.Order" ⟨"Open", .boolean⟩ 6 .standard).run unfinished =
        some (.extended 12, after) ∧
      after.supply.next = 13 ∧ after.microflow.NumberedBelow 13 ∧
      (after.microflow.endedBehind 12 ⟨13, .origin, ⟨20, 20⟩, "false", .right, .left⟩).violations =
        [] := by
  have distinct : (unfinished.microflow.nodes.map Node.id).Nodup := by decide
  have numbered : ∀ node ∈ unfinished.microflow.nodes, node.id < 9 := by decide
  have accepted : (unfinished.microflow.endedBehind 6
      ⟨9, .origin, ⟨20, 20⟩, "true", .right, .left⟩).violations = [] := by cbv
  have ran : (appendCheck "Sales.Order" ⟨"Open", .boolean⟩ 6 .standard).run unfinished =
      some (.extended 12, _) := rfl
  obtain ⟨-, -, keeps⟩ := check_keeps_chain_open distinct numbered
  obtain ⟨-, numberedAfter, keepsOpen⟩ := keeps _ _ ran
  have fresh : ¬ unfinished.microflow.Names 9 := NumberedBelow.fresh numbered 0
  obtain ⟨-, completes, -⟩ := keepsOpen _ fresh accepted
  exact ⟨distinct, numbered, accepted, _, ran, rfl, numberedAfter, completes rfl _ rfl⟩

/-! ## All attributes of an entity -/

section Checks

variable {later : List Attribute} {last : NodeId} {leftOut : List UncheckedAttribute}

/-- Checks of any attributes keep a chain open: if an ending with the next id completes the
microflow before them, then so does one behind the last tail after them. -/
theorem checks_keep_chain_open {attributes : List Attribute}
    (distinct : (draft.microflow.nodes.map Node.id).Nodup)
    (numbered : draft.microflow.NumberedBelow draft.supply.next)
    (ran : (appendChecks entity settings tail attributes).run draft = some ((last, leftOut), after))
    {ending other : Ending} (isNext : ending.id = draft.supply.next)
    (accepted : (draft.microflow.endedBehind tail ending).violations = [])
    (isNextAfter : other.id = after.supply.next) :
    (after.microflow.endedBehind last other).violations = [] := by
  have fresh : ¬ draft.microflow.Names ending.id := isNext ▸ numbered.fresh 0
  have sketch := sketch_of_endedBehind distinct fresh accepted
  rw [isNext] at sketch
  clear isNext accepted fresh
  -- The sketch promises the next id; a check that uses it promises the one that is next then.
  induction attributes generalizing draft tail leftOut with
  | nil =>
    rw [appendChecks, run_pure_eq_some] at ran
    obtain ⟨same, rfl⟩ := ran
    obtain ⟨rfl, -⟩ := Prod.mk.inj same
    exact sketch.violations_endedBehind (isNextAfter ▸ numbered.fresh 0)
      fun _ isPromised => isPromised.trans isNextAfter.symm
  | cons candidate later inductionHypothesis =>
    obtain ⟨outcome, between, others, checked, appended, -⟩ := run_appendChecks_cons.mp ran
    obtain ⟨distinctBetween, numberedBetween⟩ := numbered_appendCheck numbered checked distinct
    exact inductionHypothesis distinctBetween numberedBetween appended
      (sketch_appendCheck numbered checked sketch (numbered.fresh 0)
        (next_appendCheck numbered checked))

end Checks

end FlowModel.Draft
