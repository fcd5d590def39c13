import FlowModel.Proofs.Microflow.Roles

/-!
# Walks through accepted microflows

A walk is the list of ids met when stored flows are followed from one id to another. None of
the structural rules looks further than one flow, except that no walk may close a cycle. With
the rules on what enters and leaves a node this is enough for whole walks: going back from a
node ends at the start event, going on ends at an end event, and no id is met twice
(`accepted_walks`). Ids may be repeated.
-/

namespace FlowModel.Microflow

/-- The ids met on a way along stored flows from one id to another, both included. -/
structure IsWalk (microflow : Microflow) (origin target : NodeId) (walk : List NodeId) : Prop where
  starts : walk.head? = some origin
  steps : walk.IsChain (LinkedBy microflow.flows)
  stops : walk.getLast? = some target

/-- Some node with the id is not a parameter. -/
def IsWired (microflow : Microflow) (id : NodeId) : Prop :=
  ∃ node ∈ microflow.nodes, node.id = id ∧ node.isParameter = false

variable {microflow : Microflow} {tail? : Option NodeId} {origin middle target : NodeId}
  {walk : List NodeId}

/-! ## Walks as lists -/

/-- One id is a walk from itself to itself. -/
theorem IsWalk.single (id : NodeId) : microflow.IsWalk id id [id] :=
  ⟨rfl, List.isChain_singleton id, rfl⟩

/-- A walk begins at its origin, so it is not empty. -/
theorem IsWalk.eq_cons (isWalk : microflow.IsWalk origin target walk) :
    ∃ rest, walk = origin :: rest := by
  cases walk with
  | nil => exact nomatch isWalk.starts
  | cons first rest => exact ⟨rest, by rw [Option.some.inj isWalk.starts]⟩

/-- A flow to the origin of a walk makes it longer. -/
theorem IsWalk.cons (linked : LinkedBy microflow.flows origin middle)
    (isWalk : microflow.IsWalk middle target walk) :
    microflow.IsWalk origin target (origin :: walk) := by
  obtain ⟨rest, rfl⟩ := isWalk.eq_cons
  exact ⟨rfl, List.isChain_cons_cons.mpr ⟨linked, isWalk.steps⟩, isWalk.stops⟩

/-- A walk is at its target at once, or goes on along a flow. -/
theorem IsWalk.cases_head (isWalk : microflow.IsWalk origin target walk) :
    (origin = target ∧ walk = [origin]) ∨
      ∃ next rest, LinkedBy microflow.flows origin next ∧ microflow.IsWalk next target rest ∧
        walk = origin :: rest := by
  obtain ⟨rest, rfl⟩ := isWalk.eq_cons
  cases rest with
  | nil => exact Or.inl ⟨Option.some.inj isWalk.stops, rfl⟩
  | cons next later =>
    obtain ⟨linked, steps⟩ := List.isChain_cons_cons.mp isWalk.steps
    exact Or.inr ⟨next, next :: later, linked, ⟨rfl, steps, isWalk.stops⟩, rfl⟩

/-- There is a walk exactly where the closure of the flows leads. -/
theorem exists_isWalk_iff :
    (∃ walk, microflow.IsWalk origin target walk) ↔
      Relation.ReflTransGen (LinkedBy microflow.flows) origin target := by
  constructor
  · rintro ⟨walk, isWalk⟩
    induction walk generalizing origin with
    | nil => exact nomatch isWalk.starts
    | cons first rest inductionHypothesis =>
      rcases isWalk.cases_head with ⟨rfl, _⟩ | ⟨next, later, linked, onward, same⟩
      · exact Relation.ReflTransGen.refl
      · obtain rfl := (List.cons.inj same).2
        exact Relation.ReflTransGen.head linked (inductionHypothesis onward)
  · intro reached
    induction reached using Relation.ReflTransGen.head_induction_on with
    | refl => exact ⟨[target], IsWalk.single target⟩
    | head linked _ inductionHypothesis =>
      obtain ⟨walk, isWalk⟩ := inductionHypothesis
      exact ⟨_, isWalk.cons linked⟩

/-- A walk may be cut at any id on it. -/
theorem IsWalk.split (isWalk : microflow.IsWalk origin target walk) (met : middle ∈ walk) :
    ∃ before after, walk = before ++ middle :: after ∧
      microflow.IsWalk origin middle (before ++ [middle]) ∧
      microflow.IsWalk middle target (middle :: after) := by
  obtain ⟨before, after, rfl⟩ := List.append_of_mem met
  obtain ⟨toMiddle, onward⟩ := List.isChain_split.mp isWalk.steps
  refine ⟨before, after, rfl, ⟨?_, toMiddle, by simp⟩, ⟨rfl, onward, ?_⟩⟩
  · have starts := isWalk.starts
    rwa [List.head?_append] at starts ⊢
  · have stops := isWalk.stops
    rwa [List.getLast?_append_of_ne_nil _ (List.cons_ne_nil _ _)] at stops

/-- Walks that meet may be joined. -/
theorem IsWalk.join {before after : List NodeId}
    (toMiddle : microflow.IsWalk origin middle (before ++ [middle]))
    (onward : microflow.IsWalk middle target (middle :: after)) :
    microflow.IsWalk origin target (before ++ middle :: after) := by
  refine ⟨?_, List.isChain_split.mpr ⟨toMiddle.steps, onward.steps⟩, ?_⟩
  · have starts := toMiddle.starts
    rwa [List.head?_append] at starts ⊢
  · rw [List.getLast?_append_of_ne_nil _ (List.cons_ne_nil _ _)]
    exact onward.stops

/-! ## Walks in regular microflows -/

section Regular

variable (regular : microflow.Regular tail?)
include regular

/-- Without dangling flows, arrows are the links of the stored flows. -/
theorem Regular.arrow_eq_linkedBy :
    Digraph.Arrow microflow.wiring.arrows = LinkedBy microflow.flows :=
  arrow_wiring_eq.trans (leads_eq regular.resolved)

/-- Going back along flows always ends. -/
theorem Regular.wellFounded : WellFounded (LinkedBy microflow.flows) :=
  regular.arrow_eq_linkedBy ▸ (acyclic_arrows_iff.mpr regular.acyclic).wellFounded

/-- Going on along flows always ends. -/
theorem Regular.wellFounded_swap : WellFounded (Function.swap (LinkedBy microflow.flows)) :=
  regular.arrow_eq_linkedBy ▸ (acyclic_arrows_iff.mpr regular.acyclic).wellFounded_swap

/-- No walk comes back to an id. -/
theorem Regular.not_transGen (id : NodeId) :
    ¬ Relation.TransGen (LinkedBy microflow.flows) id id :=
  leads_eq regular.resolved ▸ regular.acyclic id

/-- No chain of flows comes back to an id. -/
theorem Regular.nodup_of_isChain (steps : walk.IsChain (LinkedBy microflow.flows)) :
    walk.Nodup :=
  Digraph.nodup_of_isChain regular.not_transGen steps

/-- The ends of a flow are wired, and no parameter shares an id with them. -/
theorem Regular.isWired_of_linkedBy (linked : LinkedBy microflow.flows origin target) :
    microflow.IsWired origin ∧ microflow.IsWired target := by
  obtain ⟨flow, stored, rfl, rfl⟩ := linked
  obtain ⟨⟨left, leftStored, leftId⟩, ⟨entered, enteredStored, enteredId⟩⟩ :=
    regular.resolved flow stored
  have isLeft : microflow.IsLeft left.id :=
    (isLeft_iff regular.resolved).mpr ⟨flow, stored, leftId.symm⟩
  have isEntered : microflow.IsEntered entered.id :=
    (isEntered_iff regular.resolved).mpr ⟨flow, stored, enteredId.symm⟩
  refine ⟨⟨left, leftStored, leftId, ?_⟩, ⟨entered, enteredStored, enteredId, ?_⟩⟩
  · by_contra isParameter
    rw [Bool.not_eq_false] at isParameter
    exact (regular.parameterApart left leftStored isParameter).2 isLeft
  · by_contra isParameter
    rw [Bool.not_eq_false] at isParameter
    exact (regular.parameterApart entered enteredStored isParameter).1 isEntered

/-- There is one start event. -/
theorem Regular.exists_start : ∃ start, microflow.nodes.filter Node.isStart = [start] := by
  have oneStart := regular.oneStart
  rwa [List.countP_eq_length_filter, List.length_eq_one_iff] at oneStart

/-- Every wired id is reached from the start event: other nodes are entered, and going back
ends. -/
theorem Regular.reached_from_start {start : Node}
    (isOnly : microflow.nodes.filter Node.isStart = [start]) {id : NodeId} :
    microflow.IsWired id → Relation.ReflTransGen (LinkedBy microflow.flows) start.id id := by
  induction id using regular.wellFounded.induction with
  | _ id inductionHypothesis =>
    rintro ⟨node, stored, rfl, notParameter⟩
    by_cases isStart : node.isStart = true
    · have member : node ∈ microflow.nodes.filter Node.isStart :=
        List.mem_filter.mpr ⟨stored, isStart⟩
      rw [isOnly, List.mem_singleton] at member
      rw [member]
    · rw [Bool.not_eq_true] at isStart
      obtain ⟨flow, flowStored, enters⟩ := (isEntered_iff regular.resolved).mp
        (regular.entered node stored isStart notParameter)
      have linked : LinkedBy microflow.flows flow.origin node.id := ⟨flow, flowStored, rfl, enters⟩
      exact (inductionHypothesis flow.origin linked (regular.isWired_of_linkedBy linked).1).tail
        linked

/-- What is reached from a wired id is wired. -/
theorem Regular.isWired_of_reached (isWired : microflow.IsWired origin)
    (reached : Relation.ReflTransGen (LinkedBy microflow.flows) origin target) :
    microflow.IsWired target := by
  cases reached with
  | refl => exact isWired
  | tail _ linked => exact (regular.isWired_of_linkedBy linked).2

/-- From every id some walk goes on until no flow leads further. -/
theorem Regular.exists_last (id : NodeId) :
    ∃ last, Relation.ReflTransGen (LinkedBy microflow.flows) id last ∧
      ∀ next, ¬ LinkedBy microflow.flows last next := by
  induction id using regular.wellFounded_swap.induction with
  | _ id inductionHypothesis =>
    by_cases goesOn : ∃ next, LinkedBy microflow.flows id next
    · obtain ⟨next, linked⟩ := goesOn
      obtain ⟨last, reached, stuck⟩ := inductionHypothesis next linked
      exact ⟨last, Relation.ReflTransGen.head linked reached, stuck⟩
    · exact ⟨id, Relation.ReflTransGen.refl, not_exists.mp goesOn⟩

end Regular

/-- A wired id from which no flow leads on is that of end events only. -/
theorem Regular.isEnd_of_stuck (regular : microflow.Regular none) {id : NodeId}
    (isWired : microflow.IsWired id) (stuck : ∀ next, ¬ LinkedBy microflow.flows id next) :
    ∀ node ∈ microflow.nodes, node.id = id → node.isEnd = true := by
  obtain ⟨wired, wiredStored, rfl, notParameter⟩ := isWired
  have isEnd : wired.isEnd = true := by
    by_contra notEnd
    rw [Bool.not_eq_true] at notEnd
    obtain ⟨flow, stored, leaves⟩ := (isLeft_iff regular.resolved).mp
      (regular.left wired wiredStored notEnd notParameter (by simp))
    exact stuck flow.destination ⟨flow, stored, leaves, rfl⟩
  exact fun node stored same => regular.isEnd_of_sameId wiredStored stored same.symm isEnd

/-- In an accepted microflow every node but parameters is reached from the one start event, no
walk meets an id twice, and from no node control is stuck or runs on for ever: a walk goes on
until it ends at an id that is that of end events only. -/
theorem accepted_walks (accepted : microflow.violations = []) :
    ∃ start, microflow.nodes.filter Node.isStart = [start] ∧
      (∀ node ∈ microflow.nodes, node.isParameter = false →
        ∃ walk, microflow.IsWalk start.id node.id walk) ∧
      (∀ origin target walk, microflow.IsWalk origin target walk → walk.Nodup) ∧
      (∀ node ∈ microflow.nodes, node.isParameter = false →
        (∃ last walk, microflow.IsWalk node.id last walk ∧
          ∀ next, ¬ LinkedBy microflow.flows last next) ∧
        ∀ last walk, microflow.IsWalk node.id last walk →
          (∀ next, ¬ LinkedBy microflow.flows last next) →
          microflow.Names last ∧
            ∀ other ∈ microflow.nodes, other.id = last → other.isEnd = true) := by
  have regular : microflow.Regular none := violations_eq_nil_iff.mp accepted
  obtain ⟨start, isOnly⟩ := regular.exists_start
  refine ⟨start, isOnly, ?_, ?_, ?_⟩
  · intro node stored notParameter
    exact exists_isWalk_iff.mpr
      (regular.reached_from_start isOnly ⟨node, stored, rfl, notParameter⟩)
  · exact fun _ _ _ isWalk => regular.nodup_of_isChain isWalk.steps
  · intro node stored notParameter
    constructor
    · obtain ⟨last, reached, stuck⟩ := regular.exists_last node.id
      obtain ⟨walk, isWalk⟩ := exists_isWalk_iff.mpr reached
      exact ⟨last, walk, isWalk, stuck⟩
    · intro last walk isWalk stuck
      have isWired : microflow.IsWired last := regular.isWired_of_reached
        ⟨node, stored, rfl, notParameter⟩ (exists_isWalk_iff.mp ⟨walk, isWalk⟩)
      obtain ⟨wired, wiredStored, same, _⟩ := id isWired
      exact ⟨⟨wired, wiredStored, same⟩, regular.isEnd_of_stuck isWired stuck⟩

/-- Two nodes have one id, and no rule is broken. A walk through it visits the id once. -/
theorem accepted_walks_twinned :
    twinned.violations = [] ∧ (∃ walk, twinned.IsWalk 0 3 walk) ∧
      ∀ walk, twinned.IsWalk 0 3 walk → walk.Nodup := by
  have accepted : twinned.violations = [] := by cbv
  obtain ⟨start, isOnly, fromStart, unrepeated, _⟩ := accepted_walks accepted
  have isStart : start.id = 0 := by
    have listed : twinned.nodes.filter Node.isStart = [⟨0, .origin, ⟨20, 20⟩, .startEvent⟩] := by
      decide
    rw [List.singleton_inj.mp (isOnly.symm.trans listed)]
  refine ⟨accepted, ?_, unrepeated 0 3⟩
  exact isStart ▸ fromStart ⟨3, .origin, ⟨20, 20⟩, .endEvent "true"⟩ (by decide) rfl

end FlowModel.Microflow
