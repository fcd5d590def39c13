import FlowModel.Digraph
import Mathlib.Logic.Relation
import Mathlib.Order.WellFoundedSet

/-!
# Reachability and cycles of finite directed graphs

The arrows of a graph are read as a relation between nodes. Its reflexive-transitive closure
is what `visits` enumerates, and `hasCycle` decides whether its transitive closure relates
some node to itself. Both hold for all lists of arrows, with loops and repeated arrows.

An arrow into a node that no arrow leaves closes no cycle; so a graph that grows by such
arrows only stays without cycles.
-/

namespace FlowModel.Digraph

universe u
variable {α : Type u}

/-- Some arrow leaves one node and enters the other. -/
def Arrow (arrows : List (α × α)) (origin target : α) : Prop := (origin, target) ∈ arrows

/-- Some walk along arrows, maybe of no arrow, leads from one node to the other. -/
def Reaches (arrows : List (α × α)) : α → α → Prop := Relation.ReflTransGen (Arrow arrows)

/-- No walk of at least one arrow returns to its start. -/
def Acyclic (arrows : List (α × α)) : Prop := ∀ node, ¬ Relation.TransGen (Arrow arrows) node node

/-- More arrows reach at least as far. -/
theorem Reaches.mono {fewer more : List (α × α)} (kept : fewer ⊆ more) {origin target : α}
    (reached : Reaches fewer origin target) : Reaches more origin target :=
  Relation.ReflTransGen.mono (p := Arrow more) (fun _ _ arrow => kept arrow) _ _ reached

/-- Fewer arrows close no more cycles. -/
theorem Acyclic.anti {fewer more : List (α × α)} (kept : fewer ⊆ more) (acyclic : Acyclic more) :
    Acyclic fewer :=
  fun node cycle =>
    acyclic node (Relation.TransGen.mono (p := Arrow more) (fun _ _ arrow => kept arrow) _ _ cycle)

/-- A walk along a relation without cycles meets nothing twice. -/
theorem nodup_of_isChain {relation : α → α → Prop}
    (acyclic : ∀ node, ¬ Relation.TransGen relation node node) {walk : List α}
    (steps : walk.IsChain relation) : walk.Nodup := by
  have ahead : walk.IsChain (Relation.TransGen relation) :=
    steps.imp fun _ _ step => Relation.TransGen.single step
  refine (List.isChain_iff_pairwise.mp ahead).imp ?_
  rintro node _ reached rfl
  exact acyclic node reached

/-- Without cycles, walks order the finitely many nodes that arrows leave strictly; so going
back along arrows always ends. -/
theorem Acyclic.wellFounded {arrows : List (α × α)} (acyclic : Acyclic arrows) :
    WellFounded (Arrow arrows) := by
  let origins : Set α := { node | node ∈ arrows.map Prod.fst }
  have finite : origins.Finite := List.finite_toSet _
  have irreflexive : Std.Irrefl (Relation.TransGen (Arrow arrows)) := ⟨acyclic⟩
  have strict : IsStrictOrder α (Relation.TransGen (Arrow arrows)) := {}
  have ordered : origins.WellFoundedOn (Relation.TransGen (Arrow arrows)) := finite.wellFoundedOn
  have isOrigin : ∀ {node target}, Arrow arrows node target → node ∈ origins :=
    fun arrow => List.mem_map.mpr ⟨_, arrow, rfl⟩
  have originsAccessible : ∀ node ∈ origins, Acc (Arrow arrows) node := by
    intro node leaves
    refine ordered.induction (P := Acc (Arrow arrows)) leaves ?_
    intro node _ inductionHypothesis
    exact Acc.intro node fun before arrow =>
      inductionHypothesis before (isOrigin arrow) (Relation.TransGen.single arrow)
  exact ⟨fun node => Acc.intro node fun before arrow => originsAccessible before (isOrigin arrow)⟩

/-- Without cycles, going on along arrows always ends. -/
theorem Acyclic.wellFounded_swap {arrows : List (α × α)} (acyclic : Acyclic arrows) :
    WellFounded (Function.swap (Arrow arrows)) := by
  have turned : Arrow (arrows.map Prod.swap) = Function.swap (Arrow arrows) := by
    funext origin target
    simp [Arrow, Function.swap]
  have turnedAcyclic : Acyclic (arrows.map Prod.swap) := by
    intro node cycle
    rw [turned, Relation.transGen_swap] at cycle
    exact acyclic node cycle
  exact turned ▸ turnedAcyclic.wellFounded

/-! ## The enumeration of what can be reached -/

section Visits

variable [DecidableEq α]

/-- The successors of a node are listed once for each arrow to them, in the order of the arrows. -/
theorem mem_successors {arrows : List (α × α)} {node target : α} :
    target ∈ successors arrows node ↔ Arrow arrows node target := by
  simp [successors, Arrow]

/-- Removing a node takes away the arrows that start there. Those that end there remain, and lead
nowhere. -/
theorem mem_without {arrows : List (α × α)} {node : α} {arrow : α × α} :
    arrow ∈ without arrows node ↔ arrow ∈ arrows ∧ arrow.1 ≠ node := by
  simp [without]

/-- A walk that loses the arrows of one node still starts at the same place, or starts anew
behind the last visit of that node, or ends there. -/
theorem reaches_without {arrows : List (α × α)} (node : α) {origin target : α}
    (reached : Reaches arrows origin target) :
    Reaches (without arrows node) origin target ∨ target = node ∨
      ∃ next ∈ successors arrows node, Reaches (without arrows node) next target := by
  induction reached using Relation.ReflTransGen.head_induction_on with
  | refl => exact Or.inl Relation.ReflTransGen.refl
  | @head origin middle arrow _ inductionHypothesis =>
    rcases inductionHypothesis with later | later
    · by_cases atNode : origin = node
      · subst atNode
        exact Or.inr (Or.inr ⟨middle, mem_successors.mpr arrow, later⟩)
      · have kept : Arrow (without arrows node) origin middle := mem_without.mpr ⟨arrow, atNode⟩
        exact Or.inl (Relation.ReflTransGen.head kept later)
    · exact Or.inr later

/-- The enumeration meets exactly the nodes that can be reached from a pending node.

Each node is met before its arrows are given up. The induction follows the enumeration: what
can be reached through the first pending node is that node itself or can be reached from its
successors without its arrows. -/
theorem mem_visits {arrows : List (α × α)} {pending : List α} {target : α} :
    target ∈ visits arrows pending ↔ ∃ origin ∈ pending, Reaches arrows origin target := by
  fun_induction visits arrows pending with
  | case1 => simp
  | case2 arrows node pending inductionHypothesis =>
    have fewer : without arrows node ⊆ arrows := fun _ member => (mem_without.mp member).1
    simp only [List.mem_cons, inductionHypothesis, List.mem_append]
    constructor
    · rintro (rfl | ⟨origin, waiting, reached⟩)
      · exact ⟨target, Or.inl rfl, Relation.ReflTransGen.refl⟩
      · have reachedBefore : Reaches arrows origin target := reached.mono fewer
        rcases waiting with next | waits
        · exact ⟨node, Or.inl rfl,
            Relation.ReflTransGen.head (mem_successors.mp next) reachedBefore⟩
        · exact ⟨origin, Or.inr waits, reachedBefore⟩
    · rintro ⟨origin, waiting, reached⟩
      rcases reaches_without node reached with kept | atNode | ⟨next, isNext, later⟩
      · rcases waiting with rfl | waits
        · rcases Relation.ReflTransGen.cases_head kept with same | ⟨next, arrow, _⟩
          · exact Or.inl same.symm
          · exact absurd rfl (mem_without.mp arrow).2
        · exact Or.inr ⟨origin, Or.inr waits, kept⟩
      · exact Or.inl atNode
      · exact Or.inr ⟨next, Or.inl isNext, later⟩

end Visits

/-! ## The search for cycles -/

section Cycles

variable [DecidableEq α]

/-- What remains are the arrows from nodes at which some arrow ends. -/
theorem mem_entered {arrows : List (α × α)} {arrow : α × α} :
    arrow ∈ entered arrows ↔ arrow ∈ arrows ∧ ∃ before, Arrow arrows before arrow.1 := by
  simp [entered, Arrow]

/-- A walk from a node that is entered uses arrows with entered origins only. -/
theorem transGen_entered {arrows : List (α × α)} {origin target : α}
    (isEntered : ∃ before, Arrow arrows before origin)
    (walk : Relation.TransGen (Arrow arrows) origin target) :
    Relation.TransGen (Arrow (entered arrows)) origin target := by
  induction walk with
  | single arrow => exact Relation.TransGen.single (mem_entered.mpr ⟨arrow, isEntered⟩)
  | @tail middle target walk arrow inductionHypothesis =>
    obtain ⟨before, _, last⟩ := Relation.TransGen.tail'_iff.mp walk
    exact inductionHypothesis.tail (mem_entered.mpr ⟨arrow, before, last⟩)

/-- Taking away the arrows with origins that are not entered keeps every cycle. -/
theorem acyclic_entered {arrows : List (α × α)} : Acyclic (entered arrows) ↔ Acyclic arrows := by
  constructor
  · intro acyclic node cycle
    obtain ⟨before, _, last⟩ := Relation.TransGen.tail'_iff.mp cycle
    exact acyclic node (transGen_entered ⟨before, last⟩ cycle)
  · exact Acyclic.anti fun _ member => (mem_entered.mp member).1

/-- Without cycles, not every arrow leaves a node that some arrow enters: going back along
arrows would never end. -/
theorem eq_nil_of_subset_entered {arrows : List (α × α)} (acyclic : Acyclic arrows)
    (allEntered : arrows ⊆ entered arrows) : arrows = [] := by
  have notLeft : ∀ node target, ¬ Arrow arrows node target := by
    intro node
    induction node using acyclic.wellFounded.induction with
    | _ node inductionHypothesis =>
      intro target arrow
      obtain ⟨_, before, enters⟩ := mem_entered.mp (allEntered arrow)
      exact inductionHypothesis before enters node enters
  exact List.eq_nil_iff_forall_not_mem.mpr fun arrow stored => notLeft arrow.1 arrow.2 stored

/-- The search takes arrows away until all are entered; the result has the cycles of the
whole graph. -/
theorem core_eq_nil_iff {arrows : List (α × α)} : core arrows = [] ↔ Acyclic arrows := by
  fun_induction core arrows with
  | case1 arrows shorter inductionHypothesis => rw [inductionHypothesis, acyclic_entered]
  | case2 arrows unchanged =>
    have same : entered arrows = arrows :=
      List.filter_sublist.eq_of_length_le (Nat.le_of_not_lt unchanged)
    constructor
    · rintro rfl node cycle
      obtain ⟨_, arrow, _⟩ := Relation.TransGen.head'_iff.mp cycle
      exact List.not_mem_nil arrow
    · intro acyclic
      exact eq_nil_of_subset_entered acyclic (by rw [same]; exact fun _ member => member)

/-- The search for cycles finds one exactly when some walk of at least one arrow returns to
its start. -/
theorem hasCycle_iff {arrows : List (α × α)} :
    hasCycle arrows = true ↔ ∃ node, Relation.TransGen (Arrow arrows) node node := by
  have empty : (core arrows).isEmpty = true ↔ Acyclic arrows := by
    rw [List.isEmpty_iff, core_eq_nil_iff]
  rw [hasCycle, Bool.not_eq_true', ← Bool.not_eq_true, empty]
  simp [Acyclic]

end Cycles

/-! ## Growing without cycles -/

/-- Where no arrow leaves the target of a new arrow, walks that use the new arrow end there. -/
theorem transGen_concat {arrows : List (α × α)} {origin target : α} (apart : origin ≠ target)
    (sink : ∀ arrow ∈ arrows, arrow.1 ≠ target) {start finish : α}
    (walk : Relation.TransGen (Arrow (arrows ++ [(origin, target)])) start finish) :
    Relation.TransGen (Arrow arrows) start finish ∨ finish = target := by
  have split : ∀ {one other}, Arrow (arrows ++ [(origin, target)]) one other →
      Arrow arrows one other ∨ one = origin ∧ other = target := by
    intro one other arrow
    simpa [Arrow] using arrow
  induction walk with
  | single arrow =>
    rcases split arrow with old | ⟨_, added⟩
    · exact Or.inl (Relation.TransGen.single old)
    · exact Or.inr added
  | @tail middle finish _ arrow inductionHypothesis =>
    rcases inductionHypothesis with walked | rfl
    · rcases split arrow with old | ⟨_, added⟩
      · exact Or.inl (walked.tail old)
      · exact Or.inr added
    · rcases split arrow with old | ⟨same, _⟩
      · exact absurd rfl (sink _ old)
      · exact absurd same.symm apart

/-- A new arrow into a node that no arrow leaves closes no cycle. -/
theorem Acyclic.concat {arrows : List (α × α)} (acyclic : Acyclic arrows) {origin target : α}
    (apart : origin ≠ target) (sink : ∀ arrow ∈ arrows, arrow.1 ≠ target) :
    Acyclic (arrows ++ [(origin, target)]) := by
  intro node cycle
  rcases transGen_concat apart sink cycle with walked | rfl
  · exact acyclic node walked
  · obtain ⟨_, first, _⟩ := Relation.TransGen.head'_iff.mp cycle
    rcases List.mem_append.mp first with old | added
    · exact sink _ old rfl
    · have same : node = origin := (Prod.mk.inj (List.mem_singleton.mp added)).1
      exact apart same.symm

/-- New arrows, each into a node that no arrow before it leaves, close no cycle. -/
theorem Acyclic.append {arrows : List (α × α)} (acyclic : Acyclic arrows) (added : List (α × α))
    (loopless : ∀ arrow ∈ added, arrow.1 ≠ arrow.2)
    (sinks : ∀ arrow ∈ added, ∀ old ∈ arrows, old.1 ≠ arrow.2)
    (ordered : added.Pairwise fun earlier later => earlier.1 ≠ later.2) :
    Acyclic (arrows ++ added) := by
  induction added generalizing arrows with
  | nil => simpa using acyclic
  | cons arrow rest inductionHypothesis =>
    obtain ⟨behind, orderedRest⟩ := List.pairwise_cons.mp ordered
    have next : Acyclic (arrows ++ [arrow]) :=
      acyclic.concat (loopless arrow List.mem_cons_self) (sinks arrow List.mem_cons_self)
    have nextSinks : ∀ later ∈ rest, ∀ old ∈ arrows ++ [arrow], old.1 ≠ later.2 := by
      intro later member old stored
      rcases List.mem_append.mp stored with before | isArrow
      · exact sinks later (List.mem_cons_of_mem _ member) old before
      · exact List.mem_singleton.mp isArrow ▸ behind later member
    have grown := inductionHypothesis next
      (fun later member => loopless later (List.mem_cons_of_mem _ member)) nextSinks orderedRest
    simpa using grown

end FlowModel.Digraph
