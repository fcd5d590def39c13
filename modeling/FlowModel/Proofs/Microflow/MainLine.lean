import FlowModel.Microflow.MainLine
import FlowModel.Proofs.Microflow.Walks

/-!
# The course of the main line

The main line begins at the first start event, goes on from each node by the first flow that
qualifies, to the first node with the id this flow enters, and stops where there is no such flow or
node or where the id has been met. `IsMainLine` says so of a list of nodes without a count of steps,
and exactly one list is of this kind (`mainLine_is_followed`).

Behind it is a tour, the nodes met so far with the node to be met next. A tour goes on as long as
the next node has a new id, whatever the flows are: they may close cycles or lead nowhere, and ids
may be repeated. The ids that were met are distinct ids of stored nodes, so every tour ends, and the
bound on the length of the main line is never felt. In an accepted microflow it ends at an end
event.
-/

namespace FlowModel

/-- The first member of a list that satisfies a condition. -/
def IsFirstOf {α : Type} (holds : α → Prop) (members : List α) (first : α) : Prop :=
  ∃ earlier later, members = earlier ++ first :: later ∧ holds first ∧
    ∀ other ∈ earlier, ¬ holds other

/-- A search in a list finds the first member for which the condition holds. -/
theorem find?_eq_some_iff_isFirstOf {α : Type} {check : α → Bool} {holds : α → Prop}
    (agree : ∀ member, check member = true ↔ holds member) {members : List α} {first : α} :
    members.find? check = some first ↔ IsFirstOf holds members first := by
  rw [List.find?_eq_some_iff_append, agree]
  constructor
  · rintro ⟨holdsFirst, earlier, later, listed, others⟩
    refine ⟨earlier, later, listed, holdsFirst, fun other member holdsOther => ?_⟩
    simpa [(agree other).mpr holdsOther] using others other member
  · rintro ⟨earlier, later, listed, holdsFirst, others⟩
    refine ⟨holdsFirst, earlier, later, listed, fun other member => ?_⟩
    simpa using mt (agree other).mp (others other member)

namespace Microflow

/-- A flow by which control may leave a node on the main line: at a split it has the case `true`. -/
def Qualifies (node : Node) (flow : Flow) : Prop :=
  flow.origin = node.id ∧ (node.isSplit = true → flow.label = some "true")

/-- The first flow that qualifies to leave a node. -/
def LeavesBy (microflow : Microflow) (node : Node) (flow : Flow) : Prop :=
  IsFirstOf (Qualifies node) microflow.flows flow

/-- The other node is the first one with the id that is entered by the flow that leaves the node. -/
def FollowedBy (microflow : Microflow) (node next : Node) : Prop :=
  ∃ flow, microflow.LeavesBy node flow ∧
    IsFirstOf (fun other => other.id = flow.destination) microflow.nodes next

/-- A line cannot go on: no flow leaves its last node, or it enters an id that no node has or that
is on the line. -/
def StopsAt (microflow : Microflow) (line : List Node) (last : Node) : Prop :=
  (∀ flow, ¬ microflow.LeavesBy last flow) ∨
    ∃ flow, microflow.LeavesBy last flow ∧
      (¬ microflow.Names flow.destination ∨ flow.destination ∈ line.map Node.id)

/-- What the main line is: it has no id twice, begins at the first start event, if there is one, and
goes on until it cannot. -/
structure IsMainLine (microflow : Microflow) (line : List Node) : Prop where
  starts : ∀ first, line.head? = some first ↔
    IsFirstOf (fun node => node.isStart = true) microflow.nodes first
  steps : line.IsChain microflow.FollowedBy
  distinct : (line.map Node.id).Nodup
  stops : ∀ last ∈ line.getLast?, microflow.StopsAt line last

variable {microflow : Microflow} {node next : Node} {flow : Flow} {line : List Node}

/-! ## Single steps -/

/-- The flow that the main line takes is the first one that qualifies, in stored order. -/
theorem mainFlow?_eq_some :
    microflow.mainFlow? node = some flow ↔ microflow.LeavesBy node flow := by
  have searched : microflow.mainFlow? node = microflow.flows.find? fun flow =>
      flow.origin == node.id && (!node.isSplit || flow.label == some (caseLabel true)) := by
    rw [mainFlow?, flowsFrom]
    cases node.isSplit <;> simp [List.find?_filter, List.head?_filter, beq_eq_decide]
  rw [searched]
  refine find?_eq_some_iff_isFirstOf fun flow => ?_
  cases isSplit : node.isSplit <;> simp [Qualifies, isSplit, caseLabel]

/-- The flow by which a node is left is stored and qualifies. -/
theorem LeavesBy.qualifies (leaves : microflow.LeavesBy node flow) :
    flow ∈ microflow.flows ∧ Qualifies node flow := by
  obtain ⟨earlier, later, listed, qualifies, _⟩ := leaves
  exact ⟨listed ▸ List.mem_append_right _ List.mem_cons_self, qualifies⟩

/-- Where some flow qualifies there is a first one. -/
theorem exists_leavesBy (stored : flow ∈ microflow.flows) (qualifies : Qualifies node flow) :
    ∃ first, microflow.LeavesBy node first := by
  obtain ⟨leaves, labeled⟩ := qualifies
  have among : flow ∈ microflow.flowsFrom node.id :=
    List.mem_filter.mpr ⟨stored, by simpa using leaves⟩
  by_contra missing
  have nothing : microflow.mainFlow? node = none := Option.eq_none_iff_forall_ne_some.mpr
    fun first taken => missing ⟨first, mainFlow?_eq_some.mp taken⟩
  rw [mainFlow?] at nothing
  split at nothing
  case isTrue isSplit =>
    exact List.find?_eq_none.mp nothing flow among (by simp [labeled isSplit, caseLabel])
  case isFalse => exact List.not_mem_nil (List.head?_eq_none_iff.mp nothing ▸ among)

/-- By an id the first of the nodes that have it is found. -/
theorem node?_eq_some {id : NodeId} : microflow.node? id = some node ↔
    IsFirstOf (fun other => other.id = id) microflow.nodes node :=
  find?_eq_some_iff_isFirstOf fun _ => beq_iff_eq

/-- The first start event is found, although there may be more of them. -/
theorem start?_eq_some : microflow.start? = some node ↔
    IsFirstOf (fun other => other.isStart = true) microflow.nodes node := by
  rw [start?]
  exact find?_eq_some_iff_isFirstOf fun _ => Iff.rfl

/-- Nothing is found by an id that no node has. -/
theorem node?_eq_none {id : NodeId} : microflow.node? id = none ↔ ¬ microflow.Names id := by
  simp [node?, Names]

/-- The next node is found by the destination of the flow by which the node is left. -/
theorem mainSuccessor?_eq_some :
    microflow.mainSuccessor? node = some next ↔ microflow.FollowedBy node next := by
  simp only [mainSuccessor?, Option.bind_eq_some_iff, mainFlow?_eq_some, node?_eq_some, FollowedBy]

/-- The next node is one of the stored nodes. -/
theorem FollowedBy.stored (follows : microflow.FollowedBy node next) : next ∈ microflow.nodes :=
  have ⟨_, _, isFirst⟩ := follows
  (node?_mem (node?_eq_some.mpr isFirst)).1

/-! ## Tours -/

/-- The nodes met so far, and the node to be met next, if there is one. -/
structure Tour where
  met : List Node
  next? : Option Node

/-- Nothing has been met, and the first start event is next. -/
def tourStart (microflow : Microflow) : Tour := ⟨[], microflow.start?⟩

/-- The next node is met if its id is new. -/
inductive GoesOn (microflow : Microflow) : Tour → Tour → Prop where
  | meets {met : List Node} {node : Node} (isNew : node.id ∉ met.map Node.id) :
    GoesOn microflow ⟨met, some node⟩ ⟨met ++ [node], microflow.mainSuccessor? node⟩

/-- There is no next node, or its id has been met. -/
def Tour.IsOver (tour : Tour) : Prop := ∀ node ∈ tour.next?, node.id ∈ tour.met.map Node.id

/-- A tour that is over does not go on. -/
theorem Tour.IsOver.not_goesOn {tour later : Tour} (isOver : tour.IsOver) :
    ¬ microflow.GoesOn tour later := by
  rintro ⟨isNew⟩
  exact isNew (isOver _ rfl)

/-- A tour goes on in one way only. -/
theorem rightUnique_goesOn : Relator.RightUnique microflow.GoesOn := by
  rintro _ _ _ ⟨_⟩ ⟨_⟩
  rfl

/-- Only one tour from a given one is over. -/
theorem eq_of_isOver {tour one other : Tour}
    (toOne : Relation.ReflTransGen microflow.GoesOn tour one)
    (toOther : Relation.ReflTransGen microflow.GoesOn tour other)
    (oneOver : one.IsOver) (otherOver : other.IsOver) : one = other := by
  have stays : ∀ {tour later : Tour}, tour.IsOver →
      Relation.ReflTransGen microflow.GoesOn tour later → tour = later := by
    intro tour later isOver goesOn
    rcases goesOn.cases_head with same | ⟨_, first, _⟩
    · exact same
    · exact absurd first isOver.not_goesOn
  rcases toOne.total_of_right_unique rightUnique_goesOn toOther with onward | onward
  · exact stays oneOver onward
  · exact (stays otherOver onward).symm

/-- What is known of every tour: the nodes that were met are stored, begin with the start event,
follow one another and have distinct ids, and the last of them determines the next node. -/
structure Tour.Sound (microflow : Microflow) (tour : Tour) : Prop where
  starts : (tour.met ++ tour.next?.toList).head? = microflow.start?
  steps : tour.met.IsChain microflow.FollowedBy
  distinct : (tour.met.map Node.id).Nodup
  stored : ∀ node ∈ tour.met ++ tour.next?.toList, node ∈ microflow.nodes
  onward : ∀ last ∈ tour.met.getLast?, tour.next? = microflow.mainSuccessor? last

namespace Tour.Sound

variable {tour later : Tour}

/-- Before anything is met, only the first node is determined. -/
theorem tourStart (microflow : Microflow) : Tour.Sound microflow microflow.tourStart where
  starts := Option.head?_toList
  steps := .nil
  distinct := List.nodup_nil
  stored := by
    intro node member
    simp only [Microflow.tourStart, List.nil_append, Option.mem_toList] at member
    exact List.mem_of_find?_eq_some member
  onward := fun _ isLast => nomatch isLast

/-- One more node keeps all that is known of a tour. Its id is new, because the tour would be over
otherwise. -/
theorem goesOn (sound : tour.Sound microflow) (goesOn : microflow.GoesOn tour later) :
    later.Sound microflow := by
  obtain @⟨met, node, isNew⟩ := goesOn
  constructor
  case starts =>
    have begun : (met ++ [node]).head? = microflow.start? := sound.starts
    rw [List.head?_append_of_ne_nil _ (by simp), begun]
  case steps =>
    refine List.isChain_append.mpr ⟨sound.steps, List.isChain_singleton node, ?_⟩
    intro last isLast next isNext
    obtain rfl := Option.some.inj isNext
    exact mainSuccessor?_eq_some.mp (sound.onward last isLast).symm
  case distinct =>
    rw [List.map_append]
    exact sound.distinct.append (List.nodup_singleton _) (by simpa using isNew)
  case stored =>
    intro other member
    rcases List.mem_append.mp member with before | isNext
    · exact sound.stored other before
    · exact (mainSuccessor?_eq_some.mp (Option.mem_toList.mp isNext)).stored
  case onward =>
    intro last isLast
    rw [List.getLast?_concat] at isLast
    rw [Option.some.inj isLast]

/-- So it is known of every tour from the start. -/
theorem reached (reached : Relation.ReflTransGen microflow.GoesOn microflow.tourStart tour) :
    tour.Sound microflow := by
  induction reached with
  | refl => exact tourStart microflow
  | tail _ last inductionHypothesis => exact inductionHypothesis.goesOn last

/-- Distinct ids of stored nodes are not more than there are nodes. -/
theorem length_le (sound : tour.Sound microflow) : tour.met.length ≤ microflow.nodes.length :=
  (List.subperm_of_subset (List.Nodup.of_map _ sound.distinct) fun node member =>
    sound.stored node (List.mem_append_left _ member)).length_le

end Tour.Sound

/-! ## The main line is the tour -/

/-- The search for the main line follows a tour until it is over or the bound on its length is
reached. -/
theorem exists_tour_lineFrom (atMost : Nat) {met : List Node} {ids : List NodeId} (node : Node)
    (same : ∀ id, id ∈ ids ↔ id ∈ met.map Node.id) :
    ∃ next?, Relation.ReflTransGen microflow.GoesOn ⟨met, some node⟩
        ⟨met ++ microflow.lineFrom atMost ids node, next?⟩ ∧
      ((microflow.lineFrom atMost ids node).length = atMost ∨
        Tour.IsOver ⟨met ++ microflow.lineFrom atMost ids node, next?⟩) := by
  induction atMost generalizing met ids node with
  | zero =>
    rw [lineFrom, List.append_nil]
    exact ⟨some node, .refl, Or.inl rfl⟩
  | succ atMost inductionHypothesis =>
    rw [lineFrom]
    by_cases known : node.id ∈ ids
    · rw [if_pos known, List.append_nil]
      refine ⟨some node, .refl, Or.inr fun other isNext => ?_⟩
      obtain rfl := Option.some.inj isNext
      exact (same _).mp known
    rw [if_neg known]
    have first : microflow.GoesOn ⟨met, some node⟩ _ := .meets (mt (same _).mpr known)
    cases successor : microflow.mainSuccessor? node with
    | none =>
      rw [successor] at first
      exact ⟨none, .single first, Or.inr fun _ isNext => nomatch isNext⟩
    | some next =>
      rw [successor] at first
      have sameThen : ∀ id, id ∈ node.id :: ids ↔ id ∈ (met ++ [node]).map Node.id := by
        intro id
        simp [same, or_comm]
      obtain ⟨next?, rest, ends⟩ := inductionHypothesis next sameThen
      rw [List.append_assoc, List.singleton_append] at rest ends
      exact ⟨next?, .head first rest, ends.imp (congrArg (· + 1)) id⟩

/-- The tour from the start is over when the main line has been met. When as many ids have been met
as there are nodes, no stored node has a new one. -/
theorem exists_tour_mainLine (microflow : Microflow) :
    ∃ next?, Relation.ReflTransGen microflow.GoesOn microflow.tourStart
      ⟨microflow.mainLine, next?⟩ ∧ Tour.IsOver ⟨microflow.mainLine, next?⟩ := by
  rw [tourStart, mainLine]
  cases starts : microflow.start? with
  | none => exact ⟨none, .refl, fun _ isNext => nomatch isNext⟩
  | some start =>
    have same : ∀ id, id ∈ ([] : List NodeId) ↔ id ∈ ([] : List Node).map Node.id := by simp
    obtain ⟨next?, goesOn, ends⟩ :=
      microflow.exists_tour_lineFrom microflow.nodes.length start same
    refine ⟨next?, goesOn, ends.elim (fun full => ?_) id⟩
    intro node isNext
    obtain rfl := Option.mem_def.mp isNext
    by_contra isNew
    have further : Tour.Sound microflow ⟨_ ++ [node], _⟩ :=
      .reached (by rw [tourStart, starts]; exact goesOn.tail (.meets isNew))
    have bounded := further.length_le
    rw [List.length_append, List.nil_append, full] at bounded
    exact absurd bounded (Nat.not_succ_le_self _)

/-- What has been met when a tour is over is a main line. -/
theorem Tour.Sound.isMainLine {tour : Tour} (sound : tour.Sound microflow) (isOver : tour.IsOver) :
    microflow.IsMainLine tour.met where
  starts := by
    have begun : tour.met.head? = microflow.start? := by
      rw [← sound.starts]
      cases met : tour.met with
      | cons first rest => rfl
      | nil =>
        cases isNext : tour.next? with
        | none => rfl
        | some node => exact absurd (met ▸ isOver node isNext) List.not_mem_nil
    intro first
    rw [begun]
    exact start?_eq_some
  steps := sound.steps
  distinct := sound.distinct
  stops := by
    intro last isLast
    by_cases leaves : ∃ flow, microflow.LeavesBy last flow
    · obtain ⟨flow, leaves⟩ := leaves
      refine Or.inr ⟨flow, leaves, ?_⟩
      by_cases named : microflow.Names flow.destination
      · obtain ⟨next, found⟩ :=
          Option.ne_none_iff_exists'.mp (mt node?_eq_none.mp (not_not.mpr named))
        have isNext : tour.next? = some next := (sound.onward last isLast).trans
          (mainSuccessor?_eq_some.mpr ⟨flow, leaves, node?_eq_some.mp found⟩)
        exact Or.inr ((node?_mem found).2 ▸ isOver next isNext)
      · exact Or.inl named
    · exact Or.inl (not_exists.mp leaves)

/-- In a line with distinct ids the next id has not been met. -/
theorem not_mem_of_nodup {met rest : List Node}
    (distinct : ((met ++ node :: rest).map Node.id).Nodup) : node.id ∉ met.map Node.id := by
  rw [List.map_append, List.nodup_append] at distinct
  intro known
  exact distinct.2.2 _ known _ (List.mem_map_of_mem List.mem_cons_self) rfl

/-- A line along which nodes follow one another is met by a tour. -/
theorem exists_tour_of_isChain {rest : List Node} {node : Node} {met : List Node}
    (steps : (node :: rest).IsChain microflow.FollowedBy)
    (distinct : ((met ++ node :: rest).map Node.id).Nodup) :
    ∃ last ∈ (node :: rest).getLast?, Relation.ReflTransGen microflow.GoesOn ⟨met, some node⟩
      ⟨met ++ node :: rest, microflow.mainSuccessor? last⟩ := by
  induction rest generalizing node met with
  | nil =>
    exact ⟨node, rfl, .single (.meets (not_mem_of_nodup distinct))⟩
  | cons next later inductionHypothesis =>
    obtain ⟨follows, laterSteps⟩ := List.isChain_cons_cons.mp steps
    have first : microflow.GoesOn ⟨met, some node⟩ _ := .meets (not_mem_of_nodup distinct)
    rw [mainSuccessor?_eq_some.mpr follows] at first
    have split : met ++ node :: next :: later = (met ++ [node]) ++ next :: later := by simp
    rw [split] at distinct ⊢
    obtain ⟨last, isLast, goesOn⟩ := inductionHypothesis laterSteps distinct
    exact ⟨last, by rwa [List.getLast?_cons_cons], .head first goesOn⟩

/-- A main line is met by a tour that is then over. -/
theorem IsMainLine.exists_tour (isMainLine : microflow.IsMainLine line) :
    ∃ next?, Relation.ReflTransGen microflow.GoesOn microflow.tourStart ⟨line, next?⟩ ∧
      Tour.IsOver ⟨line, next?⟩ := by
  have begun : line.head? = microflow.start? :=
    Option.ext fun first => (isMainLine.starts first).trans start?_eq_some.symm
  rw [tourStart, ← begun]
  cases line with
  | nil => exact ⟨none, .refl, fun _ isNext => nomatch isNext⟩
  | cons first rest =>
    obtain ⟨last, isLast, goesOn⟩ :=
      exists_tour_of_isChain isMainLine.steps ((List.nil_append (first :: rest)).symm ▸
        isMainLine.distinct)
    refine ⟨_, goesOn, fun next isNext => ?_⟩
    obtain ⟨flow, leaves, isFirst⟩ := mainSuccessor?_eq_some.mp isNext
    obtain ⟨stored, entered⟩ := node?_mem (node?_eq_some.mpr isFirst)
    rcases isMainLine.stops last isLast with nowhere | ⟨other, leavesToo, ends⟩
    · exact absurd leaves (nowhere flow)
    · obtain rfl : flow = other := Option.some.inj
        ((mainFlow?_eq_some.mpr leaves).symm.trans (mainFlow?_eq_some.mpr leavesToo))
      rcases ends with unknown | known
      · exact absurd ⟨next, stored, entered⟩ unknown
      · exact entered ▸ known

/-- The main line is the only line that begins at the first start event, goes on by flows that leave
and stops only where it must. -/
theorem isMainLine_iff : microflow.IsMainLine line ↔ line = microflow.mainLine := by
  obtain ⟨next?, goesOn, isOver⟩ := microflow.exists_tour_mainLine
  constructor
  · intro isMainLine
    obtain ⟨other?, goesOnToo, isOverToo⟩ := isMainLine.exists_tour
    exact congrArg Tour.met (eq_of_isOver goesOnToo goesOn isOverToo isOver)
  · rintro rfl
    exact (Tour.Sound.reached goesOn).isMainLine isOver

/-- No tour goes on for ever: each step meets one more node. -/
theorem not_endless {tours : Nat → Tour} (starts : tours 0 = microflow.tourStart) :
    ¬ ∀ place, microflow.GoesOn (tours place) (tours (place + 1)) := by
  intro endless
  have met : ∀ place, (tours place).met.length = place ∧
      Relation.ReflTransGen microflow.GoesOn microflow.tourStart (tours place) := by
    intro place
    induction place with
    | zero => exact ⟨by rw [starts, tourStart]; rfl, starts ▸ .refl⟩
    | succ place inductionHypothesis =>
      obtain ⟨counted, reached⟩ := inductionHypothesis
      have next := endless place
      refine ⟨?_, reached.tail next⟩
      generalize tours place = tour, tours (place + 1) = later at counted next
      cases next
      rw [List.length_append, counted, List.length_singleton]
  obtain ⟨counted, reached⟩ := met (microflow.nodes.length + 1)
  have bounded := (Tour.Sound.reached reached).length_le
  rw [counted] at bounded
  exact Nat.not_succ_le_self _ bounded

/-! ## Accepted microflows -/

section Regular

variable (regular : microflow.Regular none)
include regular

/-- No parameter is on the main line: start events are none, and what is entered is none. -/
theorem Regular.isParameter_of_mem (isMainLine : microflow.IsMainLine line) (member : node ∈ line) :
    node ∈ microflow.nodes ∧ node.isParameter = false := by
  obtain ⟨earlier, later, rfl⟩ := List.append_of_mem member
  cases before : earlier.getLast? with
  | none =>
    rw [List.getLast?_eq_none_iff.mp before] at isMainLine
    obtain ⟨_, _, listed, isStart, _⟩ := (isMainLine.starts node).mp rfl
    exact ⟨listed ▸ List.mem_append_right _ List.mem_cons_self, (Node.kind_of_isStart isStart).2⟩
  | some previous =>
    have follows := (List.isChain_append.mp isMainLine.steps).2.2 previous before node rfl
    obtain ⟨flow, leaves, isFirst⟩ := id follows
    refine ⟨follows.stored, Bool.eq_false_iff.mpr fun isParameter => ?_⟩
    have enters := (node?_mem (node?_eq_some.mpr isFirst)).2
    have isEntered : microflow.IsEntered node.id :=
      (isEntered_iff regular.resolved).mpr ⟨flow, leaves.qualifies.1, enters.symm⟩
    exact (regular.parameterApart node follows.stored isParameter).1 isEntered

/-- Some flow leaves every node but ends and parameters on the main line: at a split there is one
with the case `true`. -/
theorem Regular.exists_leavesBy (stored : node ∈ microflow.nodes) (notEnd : node.isEnd = false)
    (notParameter : node.isParameter = false) : ∃ flow, microflow.LeavesBy node flow := by
  by_cases isSplit : node.isSplit = true
  · obtain ⟨whenTrue, _, labeled, _, permutation⟩ := regular.bothCases node stored isSplit
    obtain ⟨resolves, leaves⟩ := mem_leaving.mp (permutation.mem_iff.mpr List.mem_cons_self)
    exact Microflow.exists_leavesBy resolves.stored ⟨leaves, fun _ => labeled⟩
  · obtain ⟨flow, resolves, leaves⟩ :=
      regular.left node stored notEnd notParameter (Option.some_ne_none _).symm
    exact Microflow.exists_leavesBy resolves.stored
      ⟨leaves, fun impossible => absurd impossible isSplit⟩

/-- Without dangling flows, the flow by which a node is left leads on. -/
theorem Regular.leads_of_leavesBy (leaves : microflow.LeavesBy node flow) :
    microflow.Leads node.id flow.destination := by
  obtain ⟨stored, origin, _⟩ := leaves.qualifies
  exact ⟨flow, (resolves_iff regular.resolved).mpr stored, origin, rfl⟩

/-- The main line goes on until an end event. Where it stops otherwise, a flow would dangle or close
a cycle. -/
theorem Regular.isEnd_of_stops (isMainLine : microflow.IsMainLine line) :
    ∃ last, line.getLast? = some last ∧ last.isEnd = true := by
  obtain ⟨start, isOnly⟩ := regular.exists_start
  have begun : line.head? = some start :=
    (isMainLine.starts start).mpr (start?_eq_some.mp
      (by rw [start?, ← List.head?_filter, isOnly, List.head?_cons]))
  obtain ⟨last, isLast⟩ : ∃ last, line.getLast? = some last := by
    cases line with
    | nil => exact nomatch begun
    | cons first rest => exact ⟨_, List.getLast?_cons⟩
  refine ⟨last, isLast, ?_⟩
  by_contra notEnd
  obtain ⟨stored, notParameter⟩ :=
    regular.isParameter_of_mem isMainLine (List.mem_of_getLast? isLast)
  obtain ⟨flow, leaves⟩ :=
    regular.exists_leavesBy stored (Bool.eq_false_iff.mpr notEnd) notParameter
  rcases isMainLine.stops last isLast with nowhere | ⟨flow, leaves, unknown | known⟩
  · exact nowhere flow leaves
  · exact unknown (regular.resolved flow leaves.qualifies.1).2
  · have alongFlows : (line.map Node.id ++ [flow.destination]).IsChain microflow.Leads := by
      refine List.isChain_append.mpr ⟨?_, List.isChain_singleton _, ?_⟩
      · rw [List.isChain_map]
        refine isMainLine.steps.imp fun node next follows => ?_
        obtain ⟨taken, leavesBy, isFirst⟩ := follows
        exact (node?_mem (node?_eq_some.mpr isFirst)).2 ▸ regular.leads_of_leavesBy leavesBy
      · rintro id isId _ ⟨⟩
        rw [List.getLast?_map, isLast] at isId
        obtain rfl := Option.some.inj isId
        exact regular.leads_of_leavesBy leaves
    have unrepeated := Digraph.nodup_of_isChain regular.acyclic alongFlows
    exact (List.nodup_append.mp unrepeated).2.2 _ known _ List.mem_cons_self rfl

end Regular

/-- For every microflow there is exactly one list that has no id twice, begins at the first start
event, goes on to the first node that the first qualifying flow enters, and stops only where there
is no such flow or node or the id is on the list. It is the main line, the tour from the start event
meets it and is over then, and no tour goes on for ever. In an accepted microflow the main line ends
at an end event. -/
theorem mainLine_is_followed (microflow : Microflow) :
    (∀ line, microflow.IsMainLine line ↔ line = microflow.mainLine) ∧
    (∃ next?, Relation.ReflTransGen microflow.GoesOn microflow.tourStart
      ⟨microflow.mainLine, next?⟩ ∧ Tour.IsOver ⟨microflow.mainLine, next?⟩) ∧
    (∀ tours : Nat → Tour, tours 0 = microflow.tourStart →
      ¬ ∀ place, microflow.GoesOn (tours place) (tours (place + 1))) ∧
    (microflow.violations = [] →
      ∃ last, microflow.mainLine.getLast? = some last ∧ last.isEnd = true) := by
  refine ⟨fun _ => isMainLine_iff, microflow.exists_tour_mainLine, fun _ => not_endless, ?_⟩
  intro accepted
  exact (violations_eq_nil_iff.mp accepted).isEnd_of_stops (isMainLine_iff.mpr rfl)

/-- A microflow with two nodes of one id may be accepted. Then its main line still reaches an end
event. -/
theorem mainLine_is_followed_twinned :
    twinned.violations = [] ∧
      ∃ last, twinned.mainLine.getLast? = some last ∧ last.isEnd = true := by
  have accepted : twinned.violations = [] := by cbv
  exact ⟨accepted, (mainLine_is_followed twinned).2.2.2 accepted⟩

end Microflow

end FlowModel
