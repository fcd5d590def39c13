import FlowModel.Proofs.Microflow.Walks

/-!
# Regions behind splits

Here ids are distinct and only splits branch. The rule on the branches of a split is local: it
asks for one merge that can be reached from both. With all splits keeping it and without
cycles, control is structured as a whole: there is one end event, and behind every split lies
a merge that every walk to the end passes, however splits are nested or cross each other
(`splits_close_at_merges`).

The argument is about gates: ids that every walk from some id to the end passes. The gates of
an id are ordered along any of these walks (`IsGate.total`), so of a gate for one branch and a
gate for the other the later one serves both.
-/

namespace FlowModel.Microflow

variable {microflow : Microflow} {tail? : Option NodeId} {finish : NodeId}

/-- No flow leads on from the id. -/
def IsLast (microflow : Microflow) (id : NodeId) : Prop :=
  ∀ next, ¬ LinkedBy microflow.flows id next

/-- Every walk from the id to the finish passes the gate. -/
def IsGate (microflow : Microflow) (finish gate id : NodeId) : Prop :=
  ∀ walk, microflow.IsWalk id finish walk → gate ∈ walk

/-- Some merge is a gate of both ids. -/
def SharesGate (microflow : Microflow) (finish one other : NodeId) : Prop :=
  ∃ gate ∈ microflow.nodes, gate.isMerge = true ∧ microflow.IsGate finish gate.id one ∧
    microflow.IsGate finish gate.id other

/-- From the id flows lead to two ids only, and the merge can be reached from both. -/
structure Rejoins (microflow : Microflow) (id one other : NodeId) (merge : Node) : Prop where
  first : LinkedBy microflow.flows id one
  second : LinkedBy microflow.flows id other
  only : ∀ next, LinkedBy microflow.flows id next → next = one ∨ next = other
  stored : merge ∈ microflow.nodes
  isMerge : merge.isMerge = true
  fromFirst : Relation.ReflTransGen (LinkedBy microflow.flows) one merge.id
  fromSecond : Relation.ReflTransGen (LinkedBy microflow.flows) other merge.id

/-! ## Gates -/

namespace IsGate

variable {gate one other id : NodeId}

/-- Every id is its own gate. -/
theorem refl (finish id : NodeId) : microflow.IsGate finish id id := by
  intro walk isWalk
  obtain ⟨rest, rfl⟩ := isWalk.eq_cons
  exact List.mem_cons_self

/-- A gate of a gate is a gate. -/
theorem trans (behind : microflow.IsGate finish gate one) (isGate : microflow.IsGate finish one id) :
    microflow.IsGate finish gate id := by
  intro walk isWalk
  obtain ⟨before, after, rfl, _, onward⟩ := isWalk.split (isGate walk isWalk)
  exact List.mem_append_right _ (behind _ onward)

/-- A gate of all next ids is a gate, unless the finish is reached already. -/
theorem of_next (notFinished : id ≠ finish)
    (next : ∀ next, LinkedBy microflow.flows id next → microflow.IsGate finish gate next) :
    microflow.IsGate finish gate id := by
  intro walk isWalk
  rcases isWalk.cases_head with ⟨finished, _⟩ | ⟨following, rest, linked, onward, rfl⟩
  · exact absurd finished notFinished
  · exact List.mem_cons_of_mem _ (next following linked rest onward)

/-- Of two ids on a walk the later one, if it is a gate of the start, is a gate of the earlier
one: no walk could pass it before. -/
theorem of_later (regular : microflow.Regular tail?) {before after : List NodeId}
    (isWalk : microflow.IsWalk id finish (before ++ one :: after)) (later : other ∈ one :: after)
    (isGate : microflow.IsGate finish other id) : microflow.IsGate finish other one := by
  have unrepeated : (before ++ one :: after).Nodup := regular.nodup_of_isChain isWalk.steps
  have notBefore : other ∉ before :=
    fun earlier => (List.nodup_append.mp unrepeated).2.2 other earlier other later rfl
  have toOne : microflow.IsWalk id one (before ++ [one]) := by
    refine ⟨?_, (List.isChain_split.mp isWalk.steps).1, by simp⟩
    have starts := isWalk.starts
    rwa [List.head?_append] at starts ⊢
  intro walk onward
  obtain ⟨rest, rfl⟩ := onward.eq_cons
  exact (List.mem_append.mp (isGate _ (toOne.join onward))).resolve_left notBefore

/-- The gates of an id lie behind one another. -/
theorem total (regular : microflow.Regular tail?)
    (reached : Relation.ReflTransGen (LinkedBy microflow.flows) id finish)
    (isOne : microflow.IsGate finish one id) (isOther : microflow.IsGate finish other id) :
    microflow.IsGate finish one other ∨ microflow.IsGate finish other one := by
  obtain ⟨walk, isWalk⟩ := exists_isWalk_iff.mpr reached
  obtain ⟨before, after, rfl⟩ := List.append_of_mem (isOne walk isWalk)
  rcases List.mem_append.mp (isOther _ isWalk) with earlier | later
  · obtain ⟨early, between, rfl⟩ := List.append_of_mem earlier
    rw [List.append_assoc, List.cons_append] at isWalk
    have behind : one ∈ other :: (between ++ one :: after) := by simp
    exact Or.inl (of_later regular isWalk behind isOne)
  · exact Or.inr (of_later regular isWalk later isOther)

end IsGate

/-- A shared gate is shared in both directions. -/
theorem SharesGate.symm {one other : NodeId} (shares : microflow.SharesGate finish one other) :
    microflow.SharesGate finish other one := by
  obtain ⟨gate, stored, isMerge, ofOne, ofOther⟩ := shares
  exact ⟨gate, stored, isMerge, ofOther, ofOne⟩

/-- Of a gate shared with one id and a gate shared with another the later one serves all. -/
theorem SharesGate.trans (regular : microflow.Regular tail?) {one middle other : NodeId}
    (reached : Relation.ReflTransGen (LinkedBy microflow.flows) middle finish)
    (withOne : microflow.SharesGate finish one middle)
    (withOther : microflow.SharesGate finish middle other) :
    microflow.SharesGate finish one other := by
  obtain ⟨gate, stored, isMerge, ofOne, ofMiddle⟩ := withOne
  obtain ⟨another, anotherStored, anotherIsMerge, anotherOfMiddle, ofOther⟩ := withOther
  rcases IsGate.total regular reached ofMiddle anotherOfMiddle with later | later
  · exact ⟨gate, stored, isMerge, ofOne, later.trans ofOther⟩
  · exact ⟨another, anotherStored, anotherIsMerge, later.trans ofOne, ofOther⟩

/-! ## Ways on -/

/-- What links an id to others are the flows from it. -/
theorem linkedBy_iff_flowsFrom {origin target : NodeId} :
    LinkedBy microflow.flows origin target ↔
      ∃ flow ∈ microflow.flowsFrom origin, flow.destination = target := by
  simp [LinkedBy, flowsFrom, and_assoc]

/-- From a split flows lead to two ids, and some merge can be reached from both. -/
theorem Regular.rejoins (regular : microflow.Regular tail?) {split : Node}
    (stored : split ∈ microflow.nodes) (isSplit : split.isSplit = true) :
    ∃ one other merge, microflow.Rejoins split.id one other merge := by
  obtain ⟨whenTrue, whenFalse, isTrue, isFalse, permutation⟩ :=
    regular.bothCases split stored isSplit
  have oneOf : ∀ {flow}, flow ∈ microflow.leaving split.id → flow = whenTrue ∨ flow = whenFalse := by
    intro flow leaves
    simpa using permutation.mem_iff.mp leaves
  have leavesTrue : whenTrue ∈ microflow.leaving split.id := permutation.mem_iff.mpr (by simp)
  have leavesFalse : whenFalse ∈ microflow.leaving split.id := permutation.mem_iff.mpr (by simp)
  have meets := regular.reconverges split stored isSplit
  rw [separates_iff_of_perm isTrue isFalse permutation, not_not] at meets
  obtain ⟨merge, mergeStored, isMerge, fromTrue, fromFalse⟩ := meets
  rw [Reaches, leads_eq regular.resolved] at fromTrue fromFalse
  refine ⟨_, _, merge, ?_, ?_, ?_, mergeStored, isMerge, fromTrue, fromFalse⟩
  · obtain ⟨resolves, leaves⟩ := mem_leaving.mp leavesTrue
    exact ⟨whenTrue, resolves.stored, leaves, rfl⟩
  · obtain ⟨resolves, leaves⟩ := mem_leaving.mp leavesFalse
    exact ⟨whenFalse, resolves.stored, leaves, rfl⟩
  · intro next linked
    obtain ⟨flow, leaves, rfl⟩ := linkedBy_iff_flowsFrom.mp linked
    rw [flowsFrom_eq_leaving regular] at leaves
    rcases oneOf leaves with rfl | rfl
    · exact Or.inl rfl
    · exact Or.inr rfl

section Structured

variable (regular : microflow.Regular none)
  (single : ∀ node ∈ microflow.nodes, node.isSplit = false →
    (microflow.flowsFrom node.id).length ≤ 1)
include regular single

/-- From a wired id nothing leads on, one flow does, or two rejoin. -/
theorem Regular.ways_on {id : NodeId} (isWired : microflow.IsWired id) :
    microflow.IsLast id ∨
      (∃ next, LinkedBy microflow.flows id next ∧
        ∀ other, LinkedBy microflow.flows id other → other = next) ∨
      ∃ one other merge, microflow.Rejoins id one other merge := by
  obtain ⟨node, stored, rfl, _⟩ := isWired
  cases isSplit : node.isSplit with
  | true => exact Or.inr (Or.inr (regular.rejoins stored isSplit))
  | false =>
    have fewer := single node stored isSplit
    simp only [IsLast, linkedBy_iff_flowsFrom]
    cases leaving : microflow.flowsFrom node.id with
    | nil => exact Or.inl (by simp)
    | cons flow later =>
      rw [leaving, List.length_cons] at fewer
      obtain rfl : later = [] := List.length_eq_zero_iff.mp (by omega)
      exact Or.inr (Or.inl ⟨flow.destination, by simp, by simp⟩)

/-- All walks from a wired id that go on as far as they can end at the same id: the branches
of a split meet at a merge, and where the merge leads both lead.

The induction goes back from where nothing leads on, since there are no cycles. -/
theorem Regular.last_unique {id one other : NodeId} (isWired : microflow.IsWired id)
    (toOne : Relation.ReflTransGen (LinkedBy microflow.flows) id one)
    (oneIsLast : microflow.IsLast one)
    (toOther : Relation.ReflTransGen (LinkedBy microflow.flows) id other)
    (otherIsLast : microflow.IsLast other) : one = other := by
  induction id using regular.wellFounded_swap.induction generalizing one other with
  | _ id inductionHypothesis =>
    have goesOn : ∀ {last}, Relation.ReflTransGen (LinkedBy microflow.flows) id last →
        microflow.IsLast last → ¬ microflow.IsLast id →
        ∃ next, LinkedBy microflow.flows id next ∧
          Relation.ReflTransGen (LinkedBy microflow.flows) next last := by
      intro last reached isLast notLast
      rcases Relation.ReflTransGen.cases_head reached with rfl | following
      · exact absurd isLast notLast
      · exact following
    have wiredNext : ∀ {next}, LinkedBy microflow.flows id next → microflow.IsWired next :=
      fun linked => (regular.isWired_of_linkedBy linked).2
    rcases regular.ways_on single isWired with isLast | ⟨next, linked, only⟩ |
      ⟨first, second, merge, rejoins⟩
    · have stays : ∀ {last}, Relation.ReflTransGen (LinkedBy microflow.flows) id last →
          id = last := by
        intro last reached
        rcases Relation.ReflTransGen.cases_head reached with same | ⟨next, linked, _⟩
        · exact same
        · exact absurd linked (isLast next)
      exact (stays toOne).symm.trans (stays toOther)
    · have notLast : ¬ microflow.IsLast id := fun isLast => isLast next linked
      obtain ⟨_, linkedOne, onToOne⟩ := goesOn toOne oneIsLast notLast
      obtain ⟨_, linkedOther, onToOther⟩ := goesOn toOther otherIsLast notLast
      rw [only _ linkedOne] at onToOne
      rw [only _ linkedOther] at onToOther
      exact inductionHypothesis next linked (wiredNext linked) onToOne oneIsLast onToOther
        otherIsLast
    · -- Both branches lead to the merge, so each ends where a walk from the merge ends.
      have notLast : ¬ microflow.IsLast id := fun isLast => isLast first rejoins.first
      obtain ⟨last, fromMerge, isLast⟩ := regular.exists_last merge.id
      have atLast : ∀ {final}, Relation.ReflTransGen (LinkedBy microflow.flows) id final →
          microflow.IsLast final → final = last := by
        intro final reached finalIsLast
        obtain ⟨next, linked, onward⟩ := goesOn reached finalIsLast notLast
        have toMerge : Relation.ReflTransGen (LinkedBy microflow.flows) next merge.id := by
          rcases rejoins.only next linked with rfl | rfl
          · exact rejoins.fromFirst
          · exact rejoins.fromSecond
        exact inductionHypothesis next linked (wiredNext linked) onward finalIsLast
          (toMerge.trans fromMerge) isLast
      exact (atLast toOne oneIsLast).trans (atLast toOther otherIsLast).symm

variable (isLast : microflow.IsLast finish)
  (finishes : ∀ id, microflow.IsWired id →
    Relation.ReflTransGen (LinkedBy microflow.flows) id finish)
include isLast finishes

/-- Where a merge can be reached, some merge behind it is a gate.

The induction goes back from the finish. At a split each branch shares a gate with the merge
where the branches meet, so they share one with each other. It is a gate of the split, and
the branch towards the merge in question shares one with that merge. -/
theorem Regular.sharesGate {id : NodeId} (isWired : microflow.IsWired id) {merge : Node}
    (stored : merge ∈ microflow.nodes) (isMerge : merge.isMerge = true)
    (reached : Relation.ReflTransGen (LinkedBy microflow.flows) id merge.id) :
    microflow.SharesGate finish id merge.id := by
  induction id using regular.wellFounded_swap.induction generalizing merge with
  | _ id inductionHypothesis =>
    rcases Relation.ReflTransGen.cases_head reached with rfl | ⟨next, linked, onward⟩
    · exact ⟨merge, stored, isMerge, IsGate.refl finish _, IsGate.refl finish _⟩
    · have notFinished : id ≠ finish := by
        rintro rfl
        exact isLast next linked
      have wiredNext : ∀ {next}, LinkedBy microflow.flows id next → microflow.IsWired next :=
        fun linked => (regular.isWired_of_linkedBy linked).2
      have behind : microflow.SharesGate finish next merge.id :=
        inductionHypothesis next linked (wiredNext linked) stored isMerge onward
      rcases regular.ways_on single isWired with stuck | ⟨following, _, only⟩ |
        ⟨one, other, meeting, rejoins⟩
      · exact absurd linked (stuck next)
      · obtain rfl := only next linked
        obtain ⟨gate, gateStored, gateIsMerge, ofNext, ofMerge⟩ := behind
        refine ⟨gate, gateStored, gateIsMerge, ?_, ofMerge⟩
        exact IsGate.of_next notFinished fun other linked => only other linked ▸ ofNext
      · have ofOne : microflow.SharesGate finish one meeting.id :=
          inductionHypothesis one rejoins.first (wiredNext rejoins.first) rejoins.stored
            rejoins.isMerge rejoins.fromFirst
        have ofOther : microflow.SharesGate finish other meeting.id :=
          inductionHypothesis other rejoins.second (wiredNext rejoins.second) rejoins.stored
            rejoins.isMerge rejoins.fromSecond
        have wiredMeeting : microflow.IsWired meeting.id :=
          regular.isWired_of_reached (wiredNext rejoins.first) rejoins.fromFirst
        obtain ⟨gate, gateStored, gateIsMerge, gateOfOne, gateOfOther⟩ :=
          ofOne.trans regular (finishes meeting.id wiredMeeting) ofOther.symm
        have gateOf : ∀ following, LinkedBy microflow.flows id following →
            microflow.IsGate finish gate.id following := by
          intro following linked
          rcases rejoins.only following linked with rfl | rfl
          · exact gateOfOne
          · exact gateOfOther
        have withNext : microflow.SharesGate finish id next :=
          ⟨gate, gateStored, gateIsMerge, IsGate.of_next notFinished gateOf, gateOf next linked⟩
        exact withNext.trans regular (finishes next (wiredNext linked)) behind

end Structured

/-- There is one end event, and every wired id leads to it. Some walk from the start stops, and it
stops at an end event. All walks from the start stop there, and every other end event would be where
one stops. -/
theorem Regular.exists_finish (regular : microflow.Regular none)
    (distinct : (microflow.nodes.map Node.id).Nodup)
    (single : ∀ node ∈ microflow.nodes, node.isSplit = false →
      (microflow.flowsFrom node.id).length ≤ 1) :
    ∃ finish, microflow.nodes.filter Node.isEnd = [finish] ∧ microflow.IsLast finish.id ∧
      ∀ id, microflow.IsWired id →
        Relation.ReflTransGen (LinkedBy microflow.flows) id finish.id := by
  obtain ⟨start, isOnly⟩ := regular.exists_start
  obtain ⟨startStored, isStart⟩ : start ∈ microflow.nodes ∧ start.isStart = true :=
    List.mem_filter.mp (isOnly ▸ List.mem_singleton_self start)
  have startWired : microflow.IsWired start.id :=
    ⟨start, startStored, rfl, (Node.kind_of_isStart isStart).2⟩
  obtain ⟨last, fromStart, isLast⟩ := regular.exists_last start.id
  have lastWired : microflow.IsWired last := regular.isWired_of_reached startWired fromStart
  obtain ⟨finish, finishStored, rfl, _⟩ := id lastWired
  have finishIsEnd : finish.isEnd = true :=
    regular.isEnd_of_stuck lastWired isLast finish finishStored rfl
  have onlyEnd : ∀ node ∈ microflow.nodes, node.isEnd = true → node = finish := by
    intro node stored isEnd
    have nodeIsLast : microflow.IsLast node.id := by
      intro next linked
      obtain ⟨flow, leaves, _⟩ := linkedBy_iff_flowsFrom.mp linked
      rw [regular.exits_of_isEnd stored isEnd] at leaves
      exact List.not_mem_nil leaves
    have wired : microflow.IsWired node.id := ⟨node, stored, rfl, (Node.kind_of_isEnd isEnd).2⟩
    have same : finish.id = node.id := regular.last_unique single startWired fromStart isLast
      (regular.reached_from_start isOnly wired) nodeIsLast
    exact List.inj_on_of_nodup_map distinct stored finishStored same.symm
  refine ⟨finish, ?_, isLast, ?_⟩
  · have unrepeated : (microflow.nodes.filter Node.isEnd).Nodup :=
      (List.Nodup.of_map _ distinct).filter _
    apply List.perm_singleton.mp
    rw [List.perm_ext_iff_of_nodup unrepeated (List.nodup_singleton finish)]
    intro node
    rw [List.mem_filter, List.mem_singleton]
    constructor
    · exact fun ⟨stored, isEnd⟩ => onlyEnd node stored isEnd
    · rintro rfl
      exact ⟨finishStored, finishIsEnd⟩
  · intro id isWired
    obtain ⟨final, reached, finalIsLast⟩ := regular.exists_last id
    have throughId := (regular.reached_from_start isOnly isWired).trans reached
    rwa [regular.last_unique single startWired fromStart isLast throughId finalIsLast]

/-- An accepted microflow with distinct ids, in which only splits have more than one way out,
is structured: there is exactly one end event, and for every split there is a merge that every
walk from the split to the end event passes. There is such a walk. -/
theorem splits_close_at_merges (accepted : microflow.violations = [])
    (distinct : (microflow.nodes.map Node.id).Nodup)
    (single : ∀ node ∈ microflow.nodes, node.isSplit = false →
      (microflow.flowsFrom node.id).length ≤ 1) :
    ∃ finish, microflow.nodes.filter Node.isEnd = [finish] ∧
      ∀ split ∈ microflow.nodes, split.isSplit = true →
        (∃ walk, microflow.IsWalk split.id finish.id walk) ∧
        ∃ merge ∈ microflow.nodes, merge.isMerge = true ∧
          ∀ walk, microflow.IsWalk split.id finish.id walk → merge.id ∈ walk := by
  have regular : microflow.Regular none := violations_eq_nil_iff.mp accepted
  obtain ⟨finish, isOnly, isLast, finishes⟩ := regular.exists_finish distinct single
  refine ⟨finish, isOnly, ?_⟩
  intro split stored isSplit
  have wired : microflow.IsWired split.id :=
    ⟨split, stored, rfl, (Node.kind_of_isSplit isSplit).2⟩
  obtain ⟨one, other, meeting, rejoins⟩ := regular.rejoins stored isSplit
  have toMeeting := Relation.ReflTransGen.head rejoins.first rejoins.fromFirst
  obtain ⟨merge, mergeStored, isMerge, isGate, _⟩ :=
    regular.sharesGate single isLast finishes wired rejoins.stored rejoins.isMerge toMeeting
  exact ⟨exists_isWalk_iff.mpr (finishes split.id wired), merge, mergeStored, isMerge, isGate⟩

/-- Two splits behind a split whose branches cross: both lead to both merges. -/
def crossed : Microflow :=
  { empty "Crossed" .boolean with
    nodes := [
      ⟨0, .origin, ⟨20, 20⟩, .startEvent⟩,
      ⟨1, .origin, ⟨90, 60⟩, .split "$First" "First"⟩,
      ⟨2, .origin, ⟨90, 60⟩, .split "$Second" "Second"⟩,
      ⟨3, .origin, ⟨90, 60⟩, .split "$Third" "Third"⟩,
      ⟨4, .origin, ⟨40, 40⟩, .merge⟩,
      ⟨5, .origin, ⟨40, 40⟩, .merge⟩,
      ⟨6, .origin, ⟨40, 40⟩, .merge⟩,
      ⟨7, .origin, ⟨20, 20⟩, .endEvent "true"⟩]
    flows := [
      ⟨0, 1, .right, .left, none⟩,
      ⟨1, 2, .right, .left, some "true"⟩,
      ⟨1, 3, .bottom, .top, some "false"⟩,
      ⟨2, 4, .right, .left, some "true"⟩,
      ⟨2, 5, .bottom, .left, some "false"⟩,
      ⟨3, 4, .right, .left, some "true"⟩,
      ⟨3, 5, .bottom, .left, some "false"⟩,
      ⟨4, 6, .right, .left, none⟩,
      ⟨5, 6, .right, .left, none⟩,
      ⟨6, 7, .right, .left, none⟩] }

/-- In the crossed microflow the branches of two splits cross, and yet all walks from the outer
split pass one merge. -/
theorem splits_close_at_merges_crossed :
    (crossed.violations = [] ∧ (crossed.nodes.map Node.id).Nodup ∧
      ∀ node ∈ crossed.nodes, node.isSplit = false →
        (crossed.flowsFrom node.id).length ≤ 1) ∧
      (∃ walk, crossed.IsWalk 1 7 walk) ∧
      ∃ merge ∈ crossed.nodes, merge.isMerge = true ∧
        ∀ walk, crossed.IsWalk 1 7 walk → merge.id ∈ walk := by
  have accepted : crossed.violations = [] := by cbv
  have distinct : (crossed.nodes.map Node.id).Nodup := by decide
  have single : ∀ node ∈ crossed.nodes, node.isSplit = false →
      (crossed.flowsFrom node.id).length ≤ 1 := by decide
  obtain ⟨finish, isOnly, closes⟩ := splits_close_at_merges accepted distinct single
  have listed : crossed.nodes.filter Node.isEnd = [⟨7, .origin, ⟨20, 20⟩, .endEvent "true"⟩] := by
    decide
  obtain rfl := List.singleton_inj.mp (isOnly.symm.trans listed)
  exact ⟨⟨accepted, distinct, single⟩,
    closes ⟨1, .origin, ⟨90, 60⟩, .split "$First" "First"⟩ (by decide) rfl⟩

end FlowModel.Microflow
