import FlowModel.Microflow.MainLine
import FlowModel.Proofs.Microflow.Growth

/-!
# Runs of a microflow

A run begins at a start event and goes on while a flow leads out. At a split it takes the
flow with a chosen case, elsewhere the flow that leaves; there has to be exactly one such
flow. Where ids are distinct and there is one start event, a choice allows one run at most
(`IsRun.unique`). In a microflow that keeps the rules no run meets an id twice, and the run
that always chooses `true` is the main line (`IsRun.mainLine_eq`).
-/

namespace FlowModel.Microflow

/-- A choice between the cases of each split. -/
abbrev Choice := NodeId → Bool

/-- The flows by which control may leave a node under a choice. -/
def exits (microflow : Microflow) (choice : Choice) (node : Node) : List Flow :=
  if node.isSplit then
    (microflow.flowsFrom node.id).filter fun flow => flow.label == some (caseLabel (choice node.id))
  else
    microflow.flowsFrom node.id

/-- Control goes from one node to the other: exactly one flow qualifies, and it enters the other. -/
def StepsTo (microflow : Microflow) (choice : Choice) (node next : Node) : Prop :=
  ∃ flow, microflow.exits choice node = [flow] ∧ next ∈ microflow.nodes ∧ next.id = flow.destination

/-- The nodes that control visits in order: from a start event, step by step, to a node that
no flow leaves. -/
structure IsRun (microflow : Microflow) (choice : Choice) (run : List Node) : Prop where
  starts : ∃ start ∈ microflow.nodes, start.isStart = true ∧ run.head? = some start
  steps : run.IsChain (microflow.StepsTo choice)
  stops : ∀ last ∈ run.getLast?, microflow.flowsFrom last.id = []

variable {microflow : Microflow} {choice : Choice}

/-! ## At most one run -/

/-- Without flows from it a node has no exit. -/
theorem exits_eq_nil {node : Node} (stops : microflow.flowsFrom node.id = []) :
    microflow.exits choice node = [] := by
  simp [exits, stops]

/-- Control steps to one node only. With repeated ids it could be any of the nodes that have the id.
-/
theorem StepsTo.unique (distinct : (microflow.nodes.map Node.id).Nodup) {node one other : Node}
    (toOne : microflow.StepsTo choice node one) (toOther : microflow.StepsTo choice node other) :
    one = other := by
  obtain ⟨flow, only, stored, enters⟩ := toOne
  obtain ⟨same, again, otherStored, entersOther⟩ := toOther
  obtain rfl : flow = same := List.singleton_inj.mp (only.symm.trans again)
  exact List.inj_on_of_nodup_map distinct stored otherStored (enters.trans entersOther.symm)

/-- Two lists of steps from the same node that stop only where no step is possible are equal: neither
can be longer, as the other would have stopped too early. -/
theorem eq_of_isChain_stepsTo (distinct : (microflow.nodes.map Node.id).Nodup)
    {one other : List Node}
    (sameHead : one.head? = other.head?) (oneSteps : one.IsChain (microflow.StepsTo choice))
    (otherSteps : other.IsChain (microflow.StepsTo choice))
    (oneStops : ∀ last ∈ one.getLast?, microflow.flowsFrom last.id = [])
    (otherStops : ∀ last ∈ other.getLast?, microflow.flowsFrom last.id = []) : one = other := by
  have stuck :
      ∀ {last next}, microflow.flowsFrom last.id = [] → ¬ microflow.StepsTo choice last next := by
    rintro last next stops ⟨flow, only, _⟩
    rw [exits_eq_nil stops] at only
    exact List.cons_ne_nil _ _ only.symm
  induction one generalizing other with
  | nil => exact (List.head?_eq_none_iff.mp sameHead.symm).symm
  | cons first rest inductionHypothesis =>
    cases other with
    | nil => exact nomatch sameHead
    | cons otherFirst otherRest =>
      obtain rfl : first = otherFirst := Option.some.inj sameHead
      congr 1
      cases rest with
      | nil =>
        cases otherRest with
        | nil => rfl
        | cons next later =>
          exact absurd (List.isChain_cons_cons.mp otherSteps).1 (stuck (oneStops first rfl))
      | cons next later =>
        cases otherRest with
        | nil => exact absurd (List.isChain_cons_cons.mp oneSteps).1 (stuck (otherStops first rfl))
        | cons otherNext otherLater =>
          obtain ⟨toNext, nextSteps⟩ := List.isChain_cons_cons.mp oneSteps
          obtain ⟨toOther, otherNextSteps⟩ := List.isChain_cons_cons.mp otherSteps
          have nextHead : (next :: later).head? = (otherNext :: otherLater).head? :=
            congrArg some (toNext.unique distinct toOther)
          apply inductionHypothesis nextHead nextSteps otherNextSteps
          · simpa using oneStops
          · simpa using otherStops

/-- The start event is the only one. -/
theorem filter_isStart_eq (oneStart : microflow.nodes.countP Node.isStart = 1) {start : Node}
    (stored : start ∈ microflow.nodes) (isStart : start.isStart = true) :
    microflow.nodes.filter Node.isStart = [start] := by
  rw [List.countP_eq_length_filter] at oneStart
  obtain ⟨only, listed⟩ := List.length_eq_one_iff.mp oneStart
  have member : start ∈ microflow.nodes.filter Node.isStart := List.mem_filter.mpr ⟨stored, isStart⟩
  rw [listed, List.mem_singleton] at member
  rw [listed, member]

/-- A choice determines the run. -/
theorem IsRun.unique (distinct : (microflow.nodes.map Node.id).Nodup)
    (oneStart : microflow.nodes.countP Node.isStart = 1) {one other : List Node}
    (isRun : microflow.IsRun choice one) (isOther : microflow.IsRun choice other) :
    one = other := by
  obtain ⟨start, stored, isStart, heads⟩ := isRun.starts
  obtain ⟨otherStart, otherStored, otherIsStart, otherHeads⟩ := isOther.starts
  have sameStart : start = otherStart := by
    have listed := filter_isStart_eq oneStart stored isStart
    exact List.singleton_inj.mp
      (listed.symm.trans (filter_isStart_eq oneStart otherStored otherIsStart))
  have sameHead : one.head? = other.head? := by rw [heads, otherHeads, sameStart]
  exact eq_of_isChain_stepsTo distinct sameHead isRun.steps isOther.steps isRun.stops isOther.stops

/-! ## Runs in microflows that keep the rules -/

/-- Control steps along a flow from the node. -/
theorem StepsTo.mem_exits {node next : Node} (steps : microflow.StepsTo choice node next) :
    ∃ flow ∈ microflow.flowsFrom node.id, next.id = flow.destination := by
  obtain ⟨flow, only, _, enters⟩ := steps
  refine ⟨flow, ?_, enters⟩
  have qualifies : flow ∈ microflow.exits choice node := by simp [only]
  rw [exits] at qualifies
  split at qualifies
  · exact (List.mem_filter.mp qualifies).1
  · exact qualifies

/-- Without dangling flows a step is along a flow that leads on. -/
theorem StepsTo.leads
    (resolved : ∀ flow ∈ microflow.flows, microflow.Names flow.origin ∧
      microflow.Names flow.destination)
    {node next : Node} (steps : microflow.StepsTo choice node next) :
    microflow.Leads node.id next.id := by
  obtain ⟨flow, leaves, enters⟩ := steps.mem_exits
  obtain ⟨stored, origin⟩ := List.mem_filter.mp leaves
  exact ⟨flow, (resolves_iff resolved).mpr stored, by simpa using origin, enters.symm⟩

/-- All nodes of a run are stored. -/
theorem IsRun.stored {run : List Node} (isRun : microflow.IsRun choice run) :
    ∀ node ∈ run, node ∈ microflow.nodes := by
  obtain ⟨start, stored, _, heads⟩ := isRun.starts
  cases run with
  | nil => exact nomatch heads
  | cons first rest =>
    obtain rfl := Option.some.inj heads
    have later :
        ∀ {rest : List Node} {first : Node}, (first :: rest).IsChain (microflow.StepsTo choice) →
          ∀ node ∈ rest, node ∈ microflow.nodes := by
      intro rest
      induction rest with
      | nil => simp
      | cons next others inductionHypothesis =>
        intro first steps node member
        obtain ⟨⟨_, _, nextStored, _⟩, otherSteps⟩ := List.isChain_cons_cons.mp steps
        rcases List.mem_cons.mp member with rfl | inOthers
        · exact nextStored
        · exact inductionHypothesis otherSteps node inOthers
    intro node member
    rcases List.mem_cons.mp member with rfl | inRest
    · exact stored
    · exact later isRun.steps node inRest

/-- Steps along flows that close no cycle never come back to an id. -/
theorem nodup_of_isChain_stepsTo {tail? : Option NodeId} (regular : microflow.Regular tail?)
    {walk : List Node}
    (steps : walk.IsChain (microflow.StepsTo choice)) : (walk.map Node.id).Nodup := by
  have alongFlows : (walk.map Node.id).IsChain microflow.Leads := by
    rw [List.isChain_map]
    exact steps.imp fun _ _ steps => steps.leads regular.resolved
  exact Digraph.nodup_of_isChain regular.acyclic alongFlows

/-! ## The main line -/

/-- Where exactly one flow has the case `true`, the main line takes it. -/
theorem StepsTo.mainSuccessor? (distinct : (microflow.nodes.map Node.id).Nodup) {node next : Node}
    (steps : microflow.StepsTo (fun _ => true) node next) :
    microflow.mainSuccessor? node = some next := by
  obtain ⟨flow, only, stored, enters⟩ := steps
  have taken : microflow.mainFlow? node = some flow := by
    rw [exits] at only
    rw [mainFlow?]
    cases isSplit : node.isSplit with
    | true =>
      simp only [isSplit, if_true] at only ⊢
      rw [← List.head?_filter, only, List.head?_cons]
    | false =>
      simp only [isSplit, Bool.false_eq_true, if_false] at only ⊢
      rw [only, List.head?_cons]
  rw [Microflow.mainSuccessor?, taken, Option.bind_some]
  exact (node?_eq_some_iff distinct).mpr ⟨stored, enters⟩

/-- Where nothing leaves a node, the main line stops. -/
theorem mainSuccessor?_eq_none {node : Node} (stops : microflow.flowsFrom node.id = []) :
    microflow.mainSuccessor? node = none := by
  simp [mainSuccessor?, mainFlow?, stops]

/-- The main line follows steps that always choose `true` while their ids are new. -/
theorem lineFrom_eq (distinct : (microflow.nodes.map Node.id).Nodup) {rest : List Node} :
    ∀ {node : Node} {met : List NodeId} {atMost : Nat},
      (node :: rest).IsChain (microflow.StepsTo fun _ => true) →
      (∀ last ∈ (node :: rest).getLast?, microflow.flowsFrom last.id = []) →
      ((node :: rest).map Node.id).Nodup → (∀ other ∈ node :: rest, other.id ∉ met) →
      (node :: rest).length ≤ atMost → microflow.lineFrom atMost met node = node :: rest := by
  induction rest with
  | nil =>
    intro node met atMost _ stops _ new enough
    obtain ⟨fewer, rfl⟩ : ∃ fewer, atMost = fewer + 1 := ⟨atMost - 1, by simp at enough; omega⟩
    rw [lineFrom, if_neg (new node (by simp)), mainSuccessor?_eq_none (stops node rfl)]
  | cons next later inductionHypothesis =>
    intro node met atMost steps stops unrepeated new enough
    obtain ⟨fewer, rfl⟩ : ∃ fewer, atMost = fewer + 1 := ⟨atMost - 1, by simp at enough; omega⟩
    obtain ⟨toNext, laterSteps⟩ := List.isChain_cons_cons.mp steps
    rw [List.map_cons, List.nodup_cons] at unrepeated
    rw [lineFrom, if_neg (new node (by simp)), toNext.mainSuccessor? distinct]
    congr 1
    apply inductionHypothesis laterSteps (by simpa using stops) unrepeated.2
    · intro other member
      rw [List.mem_cons, not_or]
      refine ⟨fun same => unrepeated.1 (same ▸ List.mem_map_of_mem member), ?_⟩
      exact new other (List.mem_cons_of_mem _ member)
    · exact Nat.le_of_succ_le_succ enough

/-- In a microflow that keeps the rules the main line is the run that always chooses `true`. -/
theorem IsRun.mainLine_eq (distinct : (microflow.nodes.map Node.id).Nodup) {tail? : Option NodeId}
    (regular : microflow.Regular tail?) {run : List Node}
    (isRun : microflow.IsRun (fun _ => true) run) :
    microflow.mainLine = run := by
  have unrepeated := nodup_of_isChain_stepsTo regular isRun.steps
  have few : run.length ≤ microflow.nodes.length :=
    (List.subperm_of_subset (List.Nodup.of_map _ unrepeated) isRun.stored).length_le
  obtain ⟨start, stored, isStart, heads⟩ := isRun.starts
  have begins : microflow.start? = some start := by
    rw [start?, ← List.head?_filter, filter_isStart_eq regular.oneStart stored isStart,
      List.head?_cons]
  cases run with
  | nil => exact nomatch heads
  | cons first rest =>
    obtain rfl := Option.some.inj heads
    rw [mainLine, begins]
    exact lineFrom_eq distinct isRun.steps isRun.stops unrepeated (fun _ _ => List.not_mem_nil) few

/-! ## Runs in microflows that grow -/

/-- Further flows from an id come behind those it has. -/
theorem flowsFrom_extended (nodes : List Node) (flows : List Flow) (id : NodeId) :
    (microflow.extended nodes flows).flowsFrom id =
      microflow.flowsFrom id ++ flows.filter fun flow => flow.origin == id := by
  simp [flowsFrom]

section Growing

variable {tail : NodeId} {next? : Option NodeId} {nodes : List Node} {flows : List Flow}
  (continues : microflow.Continues tail nodes flows next?)
include continues

/-- A step that was possible before the microflow went on from its tail still is. -/
theorem Continues.stepsTo_old (notLeft : microflow.flowsFrom tail = []) {node next : Node}
    (stored : node ∈ microflow.nodes) (steps : microflow.StepsTo choice node next) :
    (microflow.extended nodes flows).StepsTo choice node next := by
  have notTail : node.id ≠ tail := by
    intro same
    obtain ⟨flow, leaves, _⟩ := steps.mem_exits
    rw [same, notLeft] at leaves
    exact List.not_mem_nil leaves
  have nothing : flows.filter (fun flow => flow.origin == node.id) = [] := by
    apply List.filter_eq_nil_iff.mpr
    intro flow added leaves
    have origin : flow.origin = node.id := by simpa using leaves
    rcases continues.origins flow added with fromTail | ⟨new, isNew, same⟩
    · exact notTail (origin.symm.trans fromTail)
    · exact continues.fresh new isNew ⟨node, stored, (same.trans origin).symm⟩
  have sameExits :
      (microflow.extended nodes flows).exits choice node = microflow.exits choice node := by
    simp only [exits, flowsFrom_extended, nothing, List.append_nil]
  obtain ⟨flow, only, nextStored, enters⟩ := steps
  exact ⟨flow, sameExits.trans only, List.mem_append_left _ nextStored, enters⟩

variable (growing : microflow.Growing (some tail))
include growing

/-- The flows from a new node are new. -/
theorem Continues.flowsFrom_new {node : Node} (isNew : node ∈ nodes) :
    (microflow.extended nodes flows).flowsFrom node.id =
      flows.filter fun flow => flow.origin == node.id := by
  have nothing : microflow.flowsFrom node.id = [] := by
    apply List.filter_eq_nil_iff.mpr
    intro flow stored leaves
    have origin : flow.origin = node.id := by simpa using leaves
    exact continues.fresh node isNew (origin ▸ (growing.resolved flow stored).1)
  rw [flowsFrom_extended, nothing, List.nil_append]

/-- A run to the open tail goes on as the new nodes and flows do. -/
theorem Continues.isRun_append {walk piece : List Node} (isRun : microflow.IsRun choice walk)
    (ends : ∀ last ∈ walk.getLast?, last.id = tail) (goesOn : piece ≠ [])
    (steps : ∀ last : Node, last.id = tail → last.isSplit = false → microflow.flowsFrom tail = [] →
      (last :: piece).IsChain ((microflow.extended nodes flows).StepsTo choice))
    (stops : ∀ last ∈ piece.getLast?, (microflow.extended nodes flows).flowsFrom last.id = []) :
    (microflow.extended nodes flows).IsRun choice (walk ++ piece) := by
  have onward : ∀ last ∈ walk.getLast?,
      (last :: piece).IsChain ((microflow.extended nodes flows).StepsTo choice) := by
    intro last isLast
    have notLeft : microflow.flowsFrom tail = [] := ends last isLast ▸ isRun.stops last isLast
    obtain ⟨node, stored, same, passes⟩ := growing.tailPasses tail rfl
    have lastStored : last ∈ microflow.nodes := isRun.stored last (List.mem_of_getLast? isLast)
    obtain rfl : node = last :=
      List.inj_on_of_nodup_map growing.distinct stored lastStored
        (same.trans (ends last isLast).symm)
    have notSplit : node.isSplit = false := by
      simp only [Node.isPassing, Bool.and_eq_true, Bool.not_eq_true'] at passes
      exact passes.1.1
    exact steps node same notSplit notLeft
  obtain ⟨start, stored, isStart, heads⟩ := isRun.starts
  obtain ⟨last, isLast⟩ : ∃ last, walk.getLast? = some last := by
    cases walk with
    | nil => cases heads
    | cons first rest => exact ⟨_, List.getLast?_eq_some_getLast (List.cons_ne_nil first rest)⟩
  have notLeft : microflow.flowsFrom tail = [] := ends last isLast ▸ isRun.stops last isLast
  constructor
  case starts =>
    refine ⟨start, List.mem_append_left _ stored, isStart, ?_⟩
    rw [List.head?_append, heads, Option.some_or]
  case steps =>
    apply List.isChain_append.mpr
    refine ⟨?_, (List.isChain_cons.mp (onward last isLast)).2, ?_⟩
    · apply List.IsChain.imp_of_mem_imp ?_ isRun.steps
      intro node next member _ steps
      exact continues.stepsTo_old notLeft (isRun.stored node member) steps
    · intro other isOther next isNext
      exact (List.isChain_cons.mp (onward other isOther)).1 next isNext
  case stops =>
    intro final isFinal
    rw [List.getLast?_append_of_ne_nil _ goesOn] at isFinal
    exact stops final isFinal

end Growing

end FlowModel.Microflow
