import FlowModel.Drawing.Layout
import Mathlib.Algebra.Ring.Int.Defs
import Mathlib.Data.List.Induction

/-!
# Cursors as sums of offsets

Although a layout moves two cursors, the positions it gives are those of a single point that starts at
the origin of the flow and moves by one offset after another. The main cursor is the last of these
positions that no earlier one lies above, and a branch is open while the latest lies below it. A move
fails exactly when the point would leave the canvas. Parameters stand on their own row at equal
distances (`cursors_follow_offsets`).

All of this follows from one law of a move (`advance?_eq`), which does not ask whether a branch is
open: the cursor in use moves, and the main cursor goes along unless it lies above.
-/

namespace FlowModel

/-- Whether both coordinates of a position lie on the canvas. -/
def Position.Inside (position : Position) : Prop := OnCanvas position.x ∧ OnCanvas position.y

namespace Layout

/-! ## One move -/

/-- The cursor that the next offset moves: that of the open branch, or else the main one. -/
def cursor (layout : Layout) : Position := layout.branch.getD layout.main

/-- The layout whose cursor in use has come to a position. A branch is open exactly while its cursor
lies below the main one. -/
def movedTo (layout : Layout) (position : Position) : Layout :=
  if position.y ≤ layout.main.y then { layout with main := position, branch := none }
  else { layout with branch := some position }

/-- Opening a branch, moving in it, closing it and moving along the main line follow one law. -/
theorem advance?_eq (layout : Layout) (dx dy : Int) :
    layout.advance? dx dy =
      (layout.cursor.moved? dx dy).map fun position => (position, layout.movedTo position) := by
  obtain ⟨main, branch, nextParameter⟩ := layout
  cases branch with
  | none =>
    simp only [advance?, cursor, Option.getD_none]
    cases moved : main.moved? dx dy with
    | none => rfl
    | some position =>
      obtain ⟨_, _, rfl⟩ := Position.moved?_eq_some_iff.mp moved
      -- Without a branch the offset points down exactly when it leads below the main cursor.
      have opens : 0 < dy ↔ ¬ main.y + dy ≤ main.y := by omega
      by_cases down : 0 < dy
      · simp [movedTo, down, opens.mp down]
      · simp [movedTo, down, not_not.mp (mt opens.mpr down)]
  | some position =>
    simp only [advance?, cursor, Option.getD_some]
    cases position.moved? dx dy with
    | none => rfl
    | some reached => by_cases above : reached.y ≤ main.y <;> simp [movedTo, above]

variable {layout : Layout} {position : Position}

/-- The cursor in use stays below the main one, or it takes the main one along. -/
theorem movedTo_cases (layout : Layout) (position : Position) :
    layout.main.y < position.y ∧
        layout.movedTo position = { layout with branch := some position } ∨
      position.y ≤ layout.main.y ∧
        layout.movedTo position = { layout with main := position, branch := none } := by
  by_cases above : position.y ≤ layout.main.y
  · exact Or.inr ⟨above, if_pos above⟩
  · exact Or.inl ⟨Int.not_le.mp above, if_neg above⟩

/-- In a branch or not, the cursor in use is the one that has moved. -/
@[simp] theorem cursor_movedTo : (layout.movedTo position).cursor = position := by
  rcases layout.movedTo_cases position with ⟨_, same⟩ | ⟨_, same⟩ <;> rw [same] <;> rfl

/-- Moves leave the row of parameters alone. -/
@[simp] theorem nextParameter_movedTo :
    (layout.movedTo position).nextParameter = layout.nextParameter := by
  rcases layout.movedTo_cases position with ⟨_, same⟩ | ⟨_, same⟩ <;> rw [same]

/-- The main cursor does not go down. -/
theorem main_movedTo_le : (layout.movedTo position).main.y ≤ layout.main.y := by
  rcases layout.movedTo_cases position with ⟨_, same⟩ | ⟨above, same⟩
  · exact Int.le_of_eq (by rw [same])
  · rwa [same]

/-- The main cursor never lies below the latest position. -/
theorem main_movedTo_le_position : (layout.movedTo position).main.y ≤ position.y := by
  rcases layout.movedTo_cases position with ⟨below, same⟩ | ⟨_, same⟩
  · exact Int.le_of_lt (by rwa [same])
  · exact Int.le_of_eq (by rw [same])

/-- A branch is open exactly below the main line. It is closed by any move that comes back to that
height or goes above it. -/
theorem inBranch_movedTo :
    (layout.movedTo position).inBranch = true ↔ (layout.movedTo position).main.y < position.y := by
  rcases layout.movedTo_cases position with ⟨below, same⟩ | ⟨_, same⟩
  · simp [same, inBranch, below]
  · simp [same, inBranch]

/-! ## Calls -/

/-- A call of a layout. -/
inductive Call where
  | advance (dx dy : Int)
  | parameter
deriving DecidableEq, Repr, Inhabited

/-- The offset of a call that moves a cursor. -/
def Call.offset? : Call → Option (Int × Int)
  | .advance dx dy => some (dx, dy)
  | .parameter => none

/-- The offsets of calls, in order. -/
def offsets (calls : List Call) : List (Int × Int) := calls.filterMap Call.offset?

/-- The number of parameters that calls ask for. -/
def parameterCount (calls : List Call) : Nat := calls.count .parameter

/-- The origin of the flow moved by the sum of some offsets. -/
def total (offsets : List (Int × Int)) : Position :=
  ⟨flowOrigin.x + (offsets.map Prod.fst).sum, flowOrigin.y + (offsets.map Prod.snd).sum⟩

/-- A layout and the positions it has given, for moves and for parameters. -/
structure Trail where
  layout : Layout
  moves : List Position
  parameters : List Position
deriving DecidableEq, Repr, Inhabited

namespace Trail

/-- The trail of a layout that has not been called. -/
def initial : Trail := ⟨.initial, [], []⟩

/-- The trail after a call, unless the call leaves the canvas. -/
def after? (trail : Trail) : Call → Option Trail
  | .advance dx dy => do
    let (position, layout) ← trail.layout.advance? dx dy
    return { trail with layout, moves := trail.moves ++ [position] }
  | .parameter => do
    let (position, layout) ← trail.layout.parameter?
    return { trail with layout, parameters := trail.parameters ++ [position] }

/-- The trail after calls, unless one of them leaves the canvas. -/
def afterAll? (trail : Trail) (calls : List Call) : Option Trail := calls.foldlM after? trail

/-- The origin of the flow and the positions given for moves. -/
def visited (trail : Trail) : List Position := flowOrigin :: trail.moves

/-- The latest position given for a move, or the origin of the flow. -/
def latest (trail : Trail) : Position := trail.moves.getLastD flowOrigin

end Trail

/-! ## The last position at the top -/

/-- A position stands at a place among others, and no earlier one lies above it. -/
def IsTop (positions : List Position) (place : Nat) (position : Position) : Prop :=
  positions[place]? = some position ∧ ∀ earlier ∈ positions.take place, position.y ≤ earlier.y

/-- A position is the last one that no earlier one lies above. -/
def IsLastTop (positions : List Position) (position : Position) : Prop :=
  ∃ place, IsTop positions place position ∧
    ∀ later other, place < later → ¬ IsTop positions later other

section

variable {positions : List Position} {added : Position} {place : Nat}

/-- A top is one of the positions. -/
theorem IsTop.lt_length (top : IsTop positions place position) : place < positions.length :=
  (List.getElem?_eq_some_iff.mp top.1).1

/-- A later position takes no place among the tops of those before it, because tops are compared
with earlier positions only. -/
theorem isTop_concat_of_lt (inside : place < positions.length) :
    IsTop (positions ++ [added]) place position ↔ IsTop positions place position := by
  rw [IsTop, IsTop, List.getElem?_append_left inside,
    List.take_append_of_le_length (Nat.le_of_lt inside)]

/-- Above all others, a new position is the last one at the top. -/
theorem isLastTop_concat_of_le (above : ∀ earlier ∈ positions, added.y ≤ earlier.y) :
    IsLastTop (positions ++ [added]) added := by
  refine ⟨positions.length, ⟨List.getElem?_concat_length, ?_⟩, fun later other behind top => ?_⟩
  · rwa [List.take_left]
  · have bound := top.lt_length
    rw [List.length_append, List.length_singleton] at bound
    omega

/-- The first position has none before it that could lie above. -/
theorem isLastTop_singleton (position : Position) : IsLastTop [position] position :=
  @isLastTop_concat_of_le [] position fun _ impossible => nomatch impossible

/-- Below the last one at the top, a new position is none. -/
theorem IsLastTop.concat_of_lt (isLast : IsLastTop positions position)
    (below : position.y < added.y) : IsLastTop (positions ++ [added]) position := by
  obtain ⟨place, top, last⟩ := isLast
  refine ⟨place, (isTop_concat_of_lt top.lt_length).mpr top, fun later other behind topThen => ?_⟩
  rcases Nat.lt_or_ge later positions.length with inside | outside
  · exact last later other behind ((isTop_concat_of_lt inside).mp topThen)
  · have bound := topThen.lt_length
    rw [List.length_append, List.length_singleton] at bound
    obtain rfl : later = positions.length := by omega
    obtain ⟨stored, least⟩ := topThen
    obtain rfl : added = other := by simpa using stored
    have member : position ∈ (positions ++ [added]).take positions.length := by
      rw [List.take_left]
      exact List.mem_of_getElem? top.1
    exact absurd (least position member) (Int.not_le.mpr below)

end

/-! ## Following calls -/

/-- A call adds its offset behind the others, if it has one: a parameter has none. -/
theorem offsets_concat (calls : List Call) (call : Call) :
    offsets (calls ++ [call]) = offsets calls ++ call.offset?.toList := by
  cases call <;> simp [offsets, Call.offset?]

/-- Only calls for parameters are counted. -/
theorem parameterCount_concat (calls : List Call) (call : Call) :
    parameterCount (calls ++ [call]) = parameterCount calls + if call = .parameter then 1 else 0 := by
  simp [parameterCount, List.count_singleton]

/-- The sum of offsets grows by the last of them. -/
theorem total_concat (before : List (Int × Int)) (dx dy : Int) :
    total (before ++ [(dx, dy)]) = ⟨(total before).x + dx, (total before).y + dy⟩ := by
  simp [total, Int.add_assoc]

namespace Trail

/-- The trail whose layout has moved to a position. -/
def movedTo (trail : Trail) (position : Position) : Trail :=
  { trail with layout := trail.layout.movedTo position, moves := trail.moves ++ [position] }

/-- A trail in step with the calls that have led to it. -/
structure Follows (calls : List Call) (trail : Trail) : Prop where
  moves_eq : trail.moves = (List.range' 1 (offsets calls).length).map fun count =>
    total ((offsets calls).take count)
  latest_eq : trail.latest = total (offsets calls)
  cursor_eq : trail.layout.cursor = total (offsets calls)
  inBranch_iff : trail.layout.inBranch = true ↔ trail.layout.main.y < trail.latest.y
  main_le : ∀ earlier ∈ trail.visited, trail.layout.main.y ≤ earlier.y
  isLastTop : IsLastTop trail.visited trail.layout.main
  parameters_eq : trail.parameters = (List.range (parameterCount calls)).map fun (count : Nat) =>
    ⟨parameterSpacing * count, 0⟩
  nextParameter_eq : trail.layout.nextParameter = ⟨parameterSpacing * parameterCount calls, 0⟩

/-- A move of a trail fails with that of its cursor, and is recorded otherwise. -/
theorem after?_advance (trail : Trail) (dx dy : Int) :
    trail.after? (.advance dx dy) = (trail.layout.cursor.moved? dx dy).map trail.movedTo := by
  rw [after?, advance?_eq]
  cases trail.layout.cursor.moved? dx dy <;> rfl

/-- The last call is made on the trail that the others have led to. -/
theorem afterAll?_concat (trail : Trail) (calls : List Call) (call : Call) :
    trail.afterAll? (calls ++ [call]) = (trail.afterAll? calls).bind fun reached =>
      reached.after? call := by
  simp [afterAll?, List.foldlM_append]

variable {calls : List Call} {trail after : Trail}

/-- A position that is reached is visited last. -/
theorem visited_movedTo (trail : Trail) (position : Position) :
    (trail.movedTo position).visited = trail.visited ++ [position] :=
  rfl

/-- The position that is reached is the latest. -/
theorem latest_movedTo (trail : Trail) (position : Position) :
    (trail.movedTo position).latest = position :=
  List.getLastD_concat ..

/-- Before the first call the point is at the origin of the flow, which counts as visited. -/
theorem follows_initial : initial.Follows [] where
  moves_eq := rfl
  latest_eq := rfl
  cursor_eq := rfl
  inBranch_iff := by decide
  main_le := by decide
  isLastTop := isLastTop_singleton flowOrigin
  parameters_eq := rfl
  nextParameter_eq := rfl

/-- A move leads to the sum of all offsets, if that is on the canvas. -/
theorem Follows.after?_advance (follows : trail.Follows calls) (dx dy : Int) :
    trail.after? (.advance dx dy) = some after ↔
      (total (offsets (calls ++ [.advance dx dy]))).Inside ∧
        after = trail.movedTo (total (offsets (calls ++ [.advance dx dy]))) := by
  have sum : total (offsets (calls ++ [.advance dx dy])) =
      ⟨trail.layout.cursor.x + dx, trail.layout.cursor.y + dy⟩ := by
    rw [offsets_concat, follows.cursor_eq]
    exact total_concat (offsets calls) dx dy
  rw [Trail.after?_advance, Option.map_eq_some_iff, sum]
  simp only [Position.moved?_eq_some_iff]
  constructor
  · rintro ⟨_, ⟨inX, inY, rfl⟩, rfl⟩
    exact ⟨⟨inX, inY⟩, rfl⟩
  · rintro ⟨⟨inX, inY⟩, rfl⟩
    exact ⟨_, ⟨inX, inY, rfl⟩, rfl⟩

/-- A parameter moves on along its row, if the next one is on the canvas. -/
theorem Follows.after?_parameter (follows : trail.Follows calls) :
    trail.after? .parameter = some after ↔
      OnCanvas (parameterSpacing * (parameterCount calls + 1)) ∧
        after = { trail with
          layout := { trail.layout with
            nextParameter := ⟨parameterSpacing * (parameterCount calls + 1), 0⟩ }
          parameters := trail.parameters ++ [⟨parameterSpacing * parameterCount calls, 0⟩] } := by
  have level : OnCanvas 0 := by decide
  have spaced : parameterSpacing * (parameterCount calls : Int) + parameterSpacing =
      parameterSpacing * (parameterCount calls + 1) := by rw [Int.mul_add, Int.mul_one]
  rw [after?, parameter?, follows.nextParameter_eq, Position.moved?, Int.add_zero, spaced]
  by_cases inside : OnCanvas (parameterSpacing * (parameterCount calls + 1))
  · simp [inside, level, eq_comm]
  · simp [inside]

/-! ### One call -/

/-- A move adds the sum of all offsets to the positions given. The main cursor goes along unless it
lies above, so it stays the last position at the top. -/
theorem Follows.advance (follows : trail.Follows calls) {dx dy : Int}
    (moved : trail.after? (.advance dx dy) = some after) :
    after.Follows (calls ++ [.advance dx dy]) := by
  obtain ⟨_, rfl⟩ := (follows.after?_advance dx dy).mp moved
  have extended : offsets (calls ++ [.advance dx dy]) = offsets calls ++ [(dx, dy)] :=
    offsets_concat calls (.advance dx dy)
  have counted : parameterCount (calls ++ [.advance dx dy]) = parameterCount calls := by
    rw [parameterCount_concat, if_neg (by simp), Nat.add_zero]
  generalize reached : total (offsets (calls ++ [.advance dx dy])) = position
  refine
    { moves_eq := ?_
      latest_eq := (latest_movedTo trail position).trans reached.symm
      cursor_eq := cursor_movedTo.trans reached.symm
      inBranch_iff := (latest_movedTo trail position).symm ▸ inBranch_movedTo
      main_le := ?_
      isLastTop := ?_
      parameters_eq := counted ▸ follows.parameters_eq
      nextParameter_eq := nextParameter_movedTo.trans (counted ▸ follows.nextParameter_eq) }
  · -- The moves before are sums of the same offsets, and the new one is the sum of all.
    have before : ∀ count ∈ List.range' 1 (offsets calls).length,
        total ((offsets calls).take count) = total ((offsets calls ++ [(dx, dy)]).take count) := by
      intro count listed
      have bound := (List.mem_range'_1.mp listed).2
      rw [List.take_append_of_le_length (by omega)]
    rw [extended, List.length_append, List.length_singleton, List.range'_1_concat, List.map_append,
      ← List.map_congr_left before, ← follows.moves_eq, ← reached, extended]
    simp [movedTo, Nat.add_comm 1, List.take_of_length_le]
  · intro earlier listed
    rw [visited_movedTo, List.mem_append, List.mem_singleton] at listed
    rcases listed with member | rfl
    · exact Int.le_trans main_movedTo_le (follows.main_le earlier member)
    · exact main_movedTo_le_position
  · rw [visited_movedTo, movedTo]
    rcases trail.layout.movedTo_cases position with ⟨below, same⟩ | ⟨above, same⟩
    · rw [same]
      exact follows.isLastTop.concat_of_lt below
    · rw [same]
      exact isLastTop_concat_of_le fun earlier member =>
        Int.le_trans above (follows.main_le earlier member)

/-- A parameter adds the next place of its row and leaves the cursors where they are. -/
theorem Follows.parameter (follows : trail.Follows calls)
    (moved : trail.after? .parameter = some after) : after.Follows (calls ++ [.parameter]) := by
  obtain ⟨_, rfl⟩ := follows.after?_parameter.mp moved
  have sameOffsets : offsets (calls ++ [.parameter]) = offsets calls := by
    rw [offsets_concat]
    exact List.append_nil _
  have counted : parameterCount (calls ++ [.parameter]) = parameterCount calls + 1 :=
    parameterCount_concat calls .parameter
  exact
    { moves_eq := sameOffsets ▸ follows.moves_eq
      latest_eq := sameOffsets ▸ follows.latest_eq
      cursor_eq := sameOffsets ▸ follows.cursor_eq
      inBranch_iff := follows.inBranch_iff
      main_le := follows.main_le
      isLastTop := follows.isLastTop
      parameters_eq := by simp [counted, follows.parameters_eq, List.range_succ]
      nextParameter_eq := by rw [counted]; rfl }

/-- Each call that succeeds keeps the trail in step with the calls. -/
theorem Follows.concat (follows : trail.Follows calls) {call : Call}
    (moved : trail.after? call = some after) : after.Follows (calls ++ [call]) := by
  cases call with
  | advance dx dy => exact follows.advance moved
  | parameter => exact follows.parameter moved

/-- No call makes the main cursor go down. -/
theorem main_le_of_after? {call : Call} (moved : trail.after? call = some after) :
    after.layout.main.y ≤ trail.layout.main.y := by
  cases call with
  | advance dx dy =>
    rw [after?_advance] at moved
    obtain ⟨position, _, rfl⟩ := Option.map_eq_some_iff.mp moved
    exact main_movedTo_le
  | parameter =>
    obtain ⟨⟨position, layout⟩, given, same⟩ := Option.bind_eq_some_iff.mp moved
    obtain ⟨next, _, same'⟩ := Option.bind_eq_some_iff.mp given
    obtain ⟨_, rfl⟩ := Prod.mk.inj (Option.some.inj same')
    obtain rfl := Option.some.inj same
    exact Int.le_refl _

/-! ### All calls -/

/-- Whether calls stay on the canvas: all sums of offsets lie on it, and the place behind the last
parameter. -/
def Fits (calls : List Call) : Prop :=
  (∀ count ≤ (offsets calls).length, (total ((offsets calls).take count)).Inside) ∧
    OnCanvas (parameterSpacing * parameterCount calls)

/-- A further move fits if all before it fit and the sum with its offset lies on the canvas. It is
not enough that the last sum does: an earlier one may not. -/
theorem fits_concat_advance {dx dy : Int} :
    Fits (calls ++ [.advance dx dy]) ↔
      Fits calls ∧ (total (offsets (calls ++ [.advance dx dy]))).Inside := by
  have extended : offsets (calls ++ [.advance dx dy]) = offsets calls ++ [(dx, dy)] :=
    offsets_concat calls (.advance dx dy)
  have counted : parameterCount (calls ++ [.advance dx dy]) = parameterCount calls := by
    rw [parameterCount_concat, if_neg (by simp), Nat.add_zero]
  have before {count : Nat} (bound : count ≤ (offsets calls).length) :
      (offsets calls ++ [(dx, dy)]).take count = (offsets calls).take count :=
    List.take_append_of_le_length bound
  have whole : (offsets calls ++ [(dx, dy)]).take ((offsets calls).length + 1) =
      offsets calls ++ [(dx, dy)] := List.take_of_length_le (by simp)
  rw [Fits, Fits, counted, extended, List.length_append, List.length_singleton]
  constructor
  · rintro ⟨inside, row⟩
    exact ⟨⟨fun count bound => before bound ▸ inside count (Nat.le_succ_of_le bound), row⟩,
      whole ▸ inside _ (Nat.le_refl _)⟩
  · rintro ⟨⟨inside, row⟩, last⟩
    refine ⟨fun count bound => ?_, row⟩
    rcases Nat.le_succ_iff.mp bound with earlier | rfl
    · exact (before earlier).symm ▸ inside count earlier
    · exact whole.symm ▸ last

/-- A further parameter fits if there is room for a place behind it, since that place is computed
with it. -/
theorem fits_concat_parameter :
    Fits (calls ++ [.parameter]) ↔
      Fits calls ∧ OnCanvas (parameterSpacing * (parameterCount calls + 1)) := by
  have sameOffsets : offsets (calls ++ [.parameter]) = offsets calls := by
    rw [offsets_concat]
    exact List.append_nil _
  have counted : parameterCount (calls ++ [.parameter]) = parameterCount calls + 1 :=
    parameterCount_concat calls .parameter
  have shorter (row : OnCanvas (parameterSpacing * (parameterCount calls + 1))) :
      OnCanvas (parameterSpacing * parameterCount calls) := by
    unfold OnCanvas leastCoordinate greatestCoordinate parameterSpacing at *
    omega
  rw [Fits, Fits, sameOffsets, counted, Int.natCast_succ]
  exact ⟨fun ⟨inside, row⟩ => ⟨⟨inside, shorter row⟩, row⟩, fun ⟨⟨inside, _⟩, row⟩ => ⟨inside, row⟩⟩

/-- A call is possible exactly if it stays on the canvas. -/
theorem Follows.exists_after?_iff (follows : trail.Follows calls) (fits : Fits calls) (call : Call) :
    (∃ after, trail.after? call = some after) ↔ Fits (calls ++ [call]) := by
  cases call with
  | advance dx dy =>
    simp only [fits_concat_advance, follows.after?_advance, exists_and_left, exists_eq, and_true,
      fits, true_and]
  | parameter =>
    simp only [fits_concat_parameter, follows.after?_parameter, exists_and_left, exists_eq,
      and_true, fits, true_and]

/-- Calls that succeed lead to a trail in step with them. The induction is on the last call, because
each one is compared with all before it. -/
theorem follows_of_afterAll? (reached : initial.afterAll? calls = some trail) :
    trail.Follows calls := by
  induction calls using List.reverseRecOn generalizing trail with
  | nil =>
    obtain rfl := Option.some.inj reached
    exact follows_initial
  | append_singleton calls call inductionHypothesis =>
    rw [afterAll?_concat] at reached
    obtain ⟨before, known, moved⟩ := Option.bind_eq_some_iff.mp reached
    exact (inductionHypothesis known).concat moved

/-- What fits with a further call fits without it. -/
theorem Fits.of_concat {call : Call} (fits : Fits (calls ++ [call])) : Fits calls := by
  cases call with
  | advance dx dy => exact (fits_concat_advance.mp fits).1
  | parameter => exact (fits_concat_parameter.mp fits).1

/-- Calls are possible exactly if all of them stay on the canvas. -/
theorem exists_afterAll?_iff (calls : List Call) :
    (∃ trail, initial.afterAll? calls = some trail) ↔ Fits calls := by
  induction calls using List.reverseRecOn with
  | nil =>
    refine iff_of_true ⟨_, rfl⟩ ⟨fun count _ => ?_, by decide⟩
    rw [offsets, List.filterMap_nil, List.take_nil]
    exact ⟨by decide, by decide⟩
  | append_singleton calls call inductionHypothesis =>
    simp only [afterAll?_concat, Option.bind_eq_some_iff]
    constructor
    · rintro ⟨after, before, known, moved⟩
      exact ((follows_of_afterAll? known).exists_after?_iff (inductionHypothesis.mp ⟨_, known⟩) call).mp
        ⟨after, moved⟩
    · intro fits
      obtain ⟨before, known⟩ := inductionHypothesis.mpr fits.of_concat
      obtain ⟨after, moved⟩ :=
        ((follows_of_afterAll? known).exists_after?_iff fits.of_concat call).mpr fits
      exact ⟨after, before, known, moved⟩

end Trail

/-- A new layout can be called as long as the sums of offsets and the row of parameters stay on the
canvas. However it has been called, a move gives the origin of the flow plus the sum of the offsets so
far. The main cursor is the last of these positions, the origin among them, that no earlier one lies
above, and it never goes down. A branch is open exactly while the latest position lies below the main
cursor. A further move fails exactly if a coordinate of the sum leaves the canvas. Parameters are given
at equal distances on their own row, whatever moves are made, and a further one fails exactly if the
place behind it leaves the canvas. -/
theorem cursors_follow_offsets (calls : List Call) :
    ((∃ trail, Trail.initial.afterAll? calls = some trail) ↔ Trail.Fits calls) ∧
    ∀ trail, Trail.initial.afterAll? calls = some trail →
      trail.moves = (List.range' 1 (offsets calls).length).map
          (fun count => total ((offsets calls).take count)) ∧
        IsLastTop trail.visited trail.layout.main ∧
        (trail.layout.inBranch = true ↔ trail.layout.main.y < trail.latest.y) ∧
        (∀ call after, trail.after? call = some after →
          after.layout.main.y ≤ trail.layout.main.y) ∧
        (∀ dx dy, trail.after? (.advance dx dy) = none ↔
          ¬ (total (offsets calls ++ [(dx, dy)])).Inside) ∧
        trail.parameters = (List.range (parameterCount calls)).map
          (fun (count : Nat) => ⟨100 * count, 0⟩) ∧
        (trail.after? .parameter = none ↔ ¬ OnCanvas (100 * (parameterCount calls + 1))) := by
  refine ⟨Trail.exists_afterAll?_iff calls, fun trail reached => ?_⟩
  have follows := Trail.follows_of_afterAll? reached
  have fails {call : Call} : trail.after? call = none ↔ ¬ ∃ after, trail.after? call = some after := by
    rw [Option.eq_none_iff_forall_ne_some, not_exists]
  refine ⟨follows.moves_eq, follows.isLastTop, follows.inBranch_iff,
    fun _ _ moved => Trail.main_le_of_after? moved, fun dx dy => ?_, follows.parameters_eq, ?_⟩
  · have extended : offsets (calls ++ [.advance dx dy]) = offsets calls ++ [(dx, dy)] :=
      offsets_concat calls (.advance dx dy)
    simp only [fails, follows.after?_advance, extended, exists_and_left, exists_eq, and_true]
  · simp only [fails, follows.after?_parameter, exists_and_left, exists_eq, and_true]
    rfl

/-- Two parameters, and moves that open a branch, come back above the main line, rest there and open
another branch. -/
def climbingCalls : List Call :=
  [.parameter, .advance 0 0, .advance 200 0, .advance 0 100, .parameter, .advance (-50) (-130),
    .advance 0 0, .advance 10 5]

/-- A branch is opened and left by a move above the main line, which takes the main cursor along. A
move beyond the right edge is refused. -/
theorem cursors_follow_offsets_climbing :
    ∃ trail, Trail.initial.afterAll? climbingCalls = some trail ∧
      trail.moves = [⟨0, 100⟩, ⟨200, 100⟩, ⟨200, 200⟩, ⟨150, 70⟩, ⟨150, 70⟩, ⟨160, 75⟩] ∧
      IsLastTop trail.visited ⟨150, 70⟩ ∧ trail.layout.inBranch = true ∧
      trail.parameters = [⟨0, 0⟩, ⟨100, 0⟩] ∧
      trail.after? (.advance 2147483488 0) = none := by
  obtain ⟨_, laws⟩ := cursors_follow_offsets climbingCalls
  have reached : Trail.initial.afterAll? climbingCalls = some _ := rfl
  obtain ⟨moves_eq, isLastTop, inBranch_iff, _, fails_iff, parameters_eq, _⟩ := laws _ reached
  exact ⟨_, reached, moves_eq, isLastTop, inBranch_iff.mpr (by decide), parameters_eq,
    (fails_iff _ _).mpr fun inside => absurd inside.1 (by decide)⟩

end Layout
end FlowModel
