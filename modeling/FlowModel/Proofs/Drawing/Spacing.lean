import FlowModel.Proofs.Drawing.PageLoggingPlan
import FlowModel.Proofs.Drawing.ValidationRuns
import Mathlib.Algebra.Order.Ring.Rat
import Mathlib.Data.Set.Disjoint
import Mathlib.Tactic.Linarith

/-!
# Drawn nodes do not overlap

A node takes up a box around its position. Rows are 100 units apart, which is more than any node is
high. On a row, neighbours are 200 units apart, which is more than any node is wide, unless one of
them is an event: an event is small, and stands 100 units from its neighbour. So no point lies in
the boxes of two nodes of a drawn microflow (`drawn_nodes_apart`).

Along a chain of diamonds this needs no comparison of all with all. The diamond of an attribute ends
where the next one has not yet begun, so a node of one is two columns away from those of all later
ones.
-/

namespace FlowModel

open Draft

/-! ## Boxes -/

namespace Node

/-- The points of the box that a node takes up: its size around its position. -/
def box (node : Node) : Set (ℚ × ℚ) :=
  { point | 2 * |point.1 - node.position.x| ≤ node.size.width ∧
    2 * |point.2 - node.position.y| ≤ node.size.height }

/-- From left to right or from top to bottom, two nodes are further apart than half their sizes
together. -/
def Apart (one other : Node) : Prop :=
  one.size.width + other.size.width < 2 * |one.position.x - other.position.x| ∨
    one.size.height + other.size.height < 2 * |one.position.y - other.position.y|

variable {one other : Node}

/-- Boxes that share a coordinate are at most half their extents together apart. -/
theorem double_abs_sub_le {first second extent otherExtent : Int} {common : ℚ}
    (near : 2 * |common - first| ≤ extent) (nearOther : 2 * |common - second| ≤ otherExtent) :
    2 * |first - second| ≤ extent + otherExtent := by
  have between : |(first : ℚ) - second| ≤ |(first : ℚ) - common| + |common - second| :=
    abs_sub_le (first : ℚ) common second
  rw [abs_sub_comm (first : ℚ) common] at between
  have bound : 2 * |(first : ℚ) - second| ≤ extent + otherExtent := by linarith
  exact_mod_cast bound

/-- Nodes that are apart have no point in common. -/
theorem Apart.disjoint (apart : one.Apart other) : Disjoint one.box other.box := by
  rw [Set.disjoint_left]
  rintro point ⟨inColumn, inRow⟩ ⟨inOtherColumn, inOtherRow⟩
  rcases apart with beside | below
  · exact absurd (double_abs_sub_le inColumn inOtherColumn) (not_le.mpr beside)
  · exact absurd (double_abs_sub_le inRow inOtherRow) (not_le.mpr below)

/-- Which of two nodes comes first does not matter for their distance. -/
theorem Apart.symm (apart : one.Apart other) : other.Apart one := by
  rw [Apart, abs_sub_comm one.position.x, abs_sub_comm one.position.y] at apart
  rwa [Apart, Int.add_comm other.size.width, Int.add_comm other.size.height]

/-- Nodes are apart if one stands far enough to the right. -/
theorem Apart.beside {distance : Int} (wide : one.size.width + other.size.width < 2 * distance)
    (right : one.position.x + distance ≤ other.position.x) : one.Apart other := by
  have far : other.position.x - one.position.x ≤ |other.position.x - one.position.x| :=
    le_abs_self _
  rw [abs_sub_comm] at far
  left
  omega

/-- Nodes are apart if one stands far enough below. -/
theorem Apart.above {distance : Int} (tall : one.size.height + other.size.height < 2 * distance)
    (below : one.position.y + distance ≤ other.position.y) : one.Apart other := by
  have far : other.position.y - one.position.y ≤ |other.position.y - one.position.y| :=
    le_abs_self _
  rw [abs_sub_comm] at far
  right
  omega

/-- A node is drawn in the size of its kind. -/
def IsSized (node : Node) : Prop := node.size = node.kind.size

end Node

/-! ## Rows and columns -/

/-- No kind is drawn larger than an activity. -/
theorem NodeKind.size_le (kind : NodeKind) : kind.size.width ≤ 120 ∧ kind.size.height ≤ 60 := by
  cases kind <;> simp [size]

namespace Node

variable {one other : Node}

/-- Two columns are far enough for all nodes. -/
theorem Apart.of_columns (sized : one.IsSized) (otherSized : other.IsSized)
    (columns : one.position.x + 200 ≤ other.position.x) : one.Apart other := by
  have widest : one.size.width ≤ 120 := sized ▸ one.kind.size_le.1
  have otherWidest : other.size.width ≤ 120 := otherSized ▸ other.kind.size_le.1
  exact .beside (by omega) columns

/-- One row is far enough for all nodes. -/
theorem Apart.of_rows (sized : one.IsSized) (otherSized : other.IsSized)
    (rows : one.position.y + 100 ≤ other.position.y) : one.Apart other := by
  have tallest : one.size.height ≤ 60 := sized ▸ one.kind.size_le.2
  have otherTallest : other.size.height ≤ 60 := otherSized ▸ other.kind.size_le.2
  exact .above (by omega) rows

/-- One column is far enough for an event. -/
theorem Apart.of_event (sized : one.IsSized) (isEvent : other.size = ⟨20, 20⟩)
    (column : one.position.x + 100 ≤ other.position.x) : one.Apart other := by
  have widest : one.size.width ≤ 120 := sized ▸ one.kind.size_le.1
  have small : other.size.width = 20 := congrArg Size.width isEvent
  exact .beside (by omega) column

/-- A node is drawn in the size of its kind, not outside of two columns. -/
structure Between (left right : Int) (node : Node) : Prop where
  sized : node.IsSized
  left_le : left ≤ node.position.x
  le_right : node.position.x ≤ right

variable {left right outerLeft outerRight : Int}

/-- What lies between two columns lies between columns further out. -/
theorem Between.mono (between : one.Between left right) (before : outerLeft ≤ left)
    (behind : right ≤ outerRight) : one.Between outerLeft outerRight := by
  obtain ⟨sized, left_le, le_right⟩ := between
  constructor
  case sized => exact sized
  case left_le => omega
  case le_right => omega

/-- What ends two columns before the other begins is apart from it. -/
theorem Between.apart (between : one.Between left right)
    (otherBetween : other.Between outerLeft outerRight) (columns : right + 200 ≤ outerLeft) :
    one.Apart other := by
  have last := between.le_right
  have first := otherBetween.left_le
  exact .of_columns between.sized otherBetween.sized (by omega)

end Node

/-! ## Diamonds -/

section Chain

variable {entity : String} {settings : ValidationSettings}

/-- A diamond begins one step behind the column of the tail and ends with its merge, four ids later.
-/
theorem between_checkNodes (id : NodeId) (checked : Attribute) :
    ∀ node ∈ checkNodes entity settings id checked,
      node.Between (tailX id + 200) (tailX (id + 4)) := by
  have wide : tailX id + 200 ≤ tailX id + 400 := by omega
  rw [checkNodes_eq, tailX_add_four]
  intro node member
  simp only [List.mem_cons, List.not_mem_nil, or_false] at member
  rcases member with rfl | rfl | rfl | rfl
  · exact ⟨rfl, Int.le_refl _, wide⟩
  · exact ⟨rfl, Int.le_refl _, wide⟩
  · exact ⟨rfl, wide, Int.le_refl _⟩
  · exact ⟨rfl, wide, Int.le_refl _⟩

/-- A chain ends in the column of its last merge. An empty one has no nodes, so it need not begin.
-/
theorem between_chainNodes (attributes : List Attribute) : ∀ id : NodeId,
    ∀ node ∈ chainNodes entity settings id attributes,
      node.Between (tailX id + 200) (tailX (id + 4 * attributes.length)) := by
  induction attributes with
  | nil => exact fun _ _ member => absurd member List.not_mem_nil
  | cons checked later inductionHypothesis =>
    intro id node member
    have counted : id + 4 + 4 * later.length = id + 4 * (checked :: later).length := by
      rw [List.length_cons, Nat.mul_succ, Nat.add_comm (4 * later.length) 4, Nat.add_assoc]
    have next : tailX (id + 4) = tailX id + 400 := tailX_add_four id
    have last : tailX (id + 4) ≤ tailX (id + 4 + 4 * later.length) :=
      tailX_mono (Nat.le_add_right _ _)
    rw [← counted]
    rcases List.mem_append.mp member with inDiamond | inRest
    · exact (between_checkNodes id checked node inDiamond).mono (Int.le_refl _) last
    · exact (inductionHypothesis (id + 4) node inRest).mono (by omega) (Int.le_refl _)

/-- A diamond has two rows and two columns. -/
theorem apart_checkNodes (id : NodeId) (checked : Attribute) :
    (checkNodes entity settings id checked).Pairwise Node.Apart := by
  have columns : tailX id + 200 + 200 ≤ tailX id + 400 := by omega
  rw [checkNodes_eq]
  simp only [List.pairwise_cons, List.mem_cons, List.not_mem_nil, or_false, forall_eq_or_imp,
    forall_eq, false_implies, implies_true, List.Pairwise.nil, and_true]
  refine ⟨⟨?_, ?_, ?_⟩, ⟨?_, ?_⟩, ?_⟩
  · exact .of_rows rfl rfl (Int.le_refl 200)
  · exact .of_columns rfl rfl columns
  · exact .of_columns rfl rfl columns
  · exact .of_columns rfl rfl columns
  · exact .of_columns rfl rfl columns
  · exact Node.Apart.symm (.of_rows rfl rfl (Int.le_refl 200))

/-- In a chain all nodes are apart from each other: within a diamond by rows and columns, and across
diamonds because the later one begins where the earlier has ended. -/
theorem apart_chainNodes (attributes : List Attribute) : ∀ id : NodeId,
    (chainNodes entity settings id attributes).Pairwise Node.Apart := by
  induction attributes with
  | nil => exact fun _ => List.Pairwise.nil
  | cons checked later inductionHypothesis =>
    intro id
    refine List.pairwise_append.mpr
      ⟨apart_checkNodes id checked, inductionHypothesis (id + 4), ?_⟩
    intro node inDiamond next inRest
    have before := between_checkNodes id checked node inDiamond
    have behind := between_chainNodes later (id + 4) next inRest
    exact before.apart behind (Int.le_refl _)

end Chain

/-! ## Validation microflows -/

section Validation

variable (entity : Entity) (moduleName : String) (settings : ValidationSettings)

/-- The beginning of a validation microflow takes up two columns, with its parameter on a row of its
own. -/
theorem between_validationHead :
    ∀ node ∈ validationHead entity.name moduleName settings, node.Between 0 (tailX 3) := by
  have tail : tailX 3 = 100 := by decide
  rw [tail]
  intro node member
  simp only [validationHead, List.mem_cons, List.not_mem_nil, or_false] at member
  rcases member with rfl | rfl | rfl
  · exact ⟨rfl, Int.le_refl 0, show (0 : Int) ≤ 100 by decide⟩
  · exact ⟨rfl, Int.le_refl 0, show (0 : Int) ≤ 100 by decide⟩
  · exact ⟨rfl, show (0 : Int) ≤ 100 by decide, Int.le_refl 100⟩

/-- In the beginning of a validation microflow the parameter lies a row above the others, and the
start event is small enough for the activity beside it. -/
theorem apart_validationHead :
    (validationHead entity.name moduleName settings).Pairwise Node.Apart := by
  simp only [validationHead, List.pairwise_cons, List.mem_cons, List.not_mem_nil, or_false,
    forall_eq_or_imp, forall_eq, false_implies, implies_true, List.Pairwise.nil, and_true]
  refine ⟨⟨?_, ?_⟩, ?_⟩
  · exact .of_rows rfl rfl (Int.le_refl 100)
  · exact .of_rows rfl rfl (Int.le_refl 100)
  · -- Here the event comes first.
    exact .beside (show (20 : Int) + 120 < 2 * 100 by decide) (Int.le_refl 100)

/-- The head ends where the first diamond has not yet begun, and the end event stands behind all. -/
theorem apart_validationPlan :
    (validationPlan entity moduleName settings).nodes.Pairwise Node.Apart := by
  have inHead := between_validationHead entity moduleName settings
  have inChain : ∀ node ∈ chainNodes (QualifiedName.qualified moduleName entity.name) settings 3
      (checkedAttributes entity.attributes), node.Between (tailX 3 + 200) (tailX entity.finalId) :=
    between_chainNodes (checkedAttributes entity.attributes) 3
  have reached : tailX 3 ≤ tailX entity.finalId := tailX_mono (Nat.le_add_right _ _)
  have beforeFinal {node : Node} (between : node.Between 0 (tailX entity.finalId)) :
      node.Apart (finalNode entity settings) :=
    .of_event between.sized rfl (Int.add_le_add_right between.le_right 100)
  rw [validationPlan_nodes]
  refine List.pairwise_append.mpr ⟨List.pairwise_append.mpr
    ⟨apart_validationHead .., apart_chainNodes .., fun node headed next chained => ?_⟩,
    List.pairwise_singleton .., fun node stored final isFinal => ?_⟩
  · exact (inHead node headed).apart (inChain next chained) (Int.le_refl _)
  · rw [List.mem_singleton.mp isFinal]
    rcases List.mem_append.mp stored with headed | chained
    · exact beforeFinal ((inHead node headed).mono (Int.le_refl 0) reached)
    · exact beforeFinal ((inChain node chained).mono (by decide) (Int.le_refl _))

end Validation

/-! ## Logging microflows -/

section PageLogging

variable (page : String) (argument entity? : Option String) (settings : PageLoggingSettings)
  (first : NodeId)

/-- The line of a logging microflow has one height, so its nodes are apart by columns alone. -/
theorem onRow_pageLoggingLine : ∀ node ∈ pageLoggingLine page argument settings first,
    node.IsSized ∧ node.position.y = 100 := by
  simp [pageLoggingLine, nodeAt, Node.IsSized]

/-- The nodes of the line are two columns apart, but for the end event. -/
theorem apart_pageLoggingLine :
    (pageLoggingLine page argument settings first).Pairwise Node.Apart := by
  have sized : ∀ node ∈ pageLoggingLine page argument settings first, node.IsSized :=
    fun node listed => (onRow_pageLoggingLine page argument settings first node listed).1
  have parts : pageLoggingLine page argument settings first =
      (pageLoggingLine page argument settings first).dropLast ++
        [nodeAt (first + 5) ⟨900, 100⟩ (.endEvent "false")] := rfl
  have columns : ((pageLoggingLine page argument settings first).dropLast.map
      fun node => node.position.x).Pairwise fun left right => left + 200 ≤ right :=
    show [(0 : Int), 200, 400, 600, 800].Pairwise _ by decide
  have before : ∀ x ∈ (pageLoggingLine page argument settings first).dropLast.map
      (fun node => node.position.x), x + 100 ≤ 900 :=
    show ∀ x ∈ [(0 : Int), 200, 400, 600, 800], _ by decide
  rw [parts, List.forall_mem_append] at sized
  rw [parts]
  refine List.pairwise_append.mpr
    ⟨?_, List.pairwise_singleton .., fun node listed final isFinal => ?_⟩
  · exact (List.pairwise_map.mp columns).imp_of_mem fun inLine inRest wide =>
      .of_columns (sized.1 _ inLine) (sized.1 _ inRest) wide
  · rw [List.mem_singleton.mp isFinal]
    exact .of_event (sized.1 node listed) rfl (before _ (List.mem_map_of_mem listed))

/-- The parameter stands on a row above the line. -/
theorem apart_pageLoggingPlan :
    (pageLoggingPlan page entity? settings).nodes.Pairwise Node.Apart := by
  rw [pageLoggingPlan_nodes]
  refine List.pairwise_append.mpr ⟨?_, apart_pageLoggingLine .., fun node given next listed => ?_⟩
  · cases entity? with
    | none => exact List.Pairwise.nil
    | some entity => exact List.pairwise_singleton ..
  · obtain ⟨entity, _, rfl⟩ := List.mem_map.mp given
    obtain ⟨sized, level⟩ := onRow_pageLoggingLine _ _ _ _ next listed
    exact .of_rows rfl sized (Int.le_of_eq level.symm)

end PageLogging

/-- No two nodes of a drawn microflow overlap, neither in the validation microflow of an entity,
however many attributes are checked in it, nor in the logging microflow of a page. -/
theorem drawn_nodes_apart (entity : Entity) (moduleName : String) (validation : ValidationSettings)
    (page : String) (entity? : Option String) (logging : PageLoggingSettings) :
    (∀ microflow leftOut,
      validationMicroflow? entity moduleName validation = some (microflow, leftOut) →
      microflow.nodes.Pairwise fun one other => one.Apart other ∧ Disjoint one.box other.box) ∧
    ∃ microflow, pageLoggingMicroflow? page entity? logging = some microflow ∧
      microflow.nodes.Pairwise fun one other => one.Apart other ∧ Disjoint one.box other.box := by
  have disjoint {one other : Node} (apart : one.Apart other) :
      one.Apart other ∧ Disjoint one.box other.box :=
    ⟨apart, apart.disjoint⟩
  constructor
  · intro microflow leftOut drawn
    obtain ⟨_, rfl, _⟩ := validationMicroflow?_eq_some.mp drawn
    exact (apart_validationPlan entity moduleName validation).imp disjoint
  · exact ⟨_, pageLoggingMicroflow?_eq page entity? logging,
      (apart_pageLoggingPlan page entity? logging).imp disjoint⟩

/-- The nodes for an order, whose two checks follow one another. -/
theorem drawn_nodes_apart_order :
    validationMicroflow? .order "Shop" .standard =
      some (validationPlan .order "Shop" .standard, [⟨"Number", "AutoNumber"⟩]) ∧
    (validationPlan .order "Shop" .standard).nodes.Pairwise fun one other =>
      one.Apart other ∧ Disjoint one.box other.box := by
  have apart := (drawn_nodes_apart .order "Shop" .standard "Sales.Overview" none .standard).1
  exact ⟨validationMicroflow?_order, apart _ _ validationMicroflow?_order⟩

end FlowModel
