import Mathlib.Data.List.Count
import Mathlib.Data.List.Perm.Basic

/-!
# Newcomers

Members come one after another, each with a key. A member is a newcomer if its key is not known and
no member before it has that key. Whether it is one depends on the members with its key only
(`filter_marked`), so members of different keys may come in another order: the same members are
newcomers then (`perm_marked`).
-/

namespace FlowModel

variable {α κ : Type} [DecidableEq κ] {key : α → κ} {known : κ → Bool} {members others : List α}

/-- The members, marked whether they are newcomers. -/
def marked (key : α → κ) (known : κ → Bool) : List α → List (α × Bool)
  | [] => []
  | member :: later => (member, !known (key member)) ::
      marked key (fun other => known other || other == key member) later

/-- The members whose keys are neither known nor those of members before them. -/
def newcomers (key : α → κ) (known : κ → Bool) (members : List α) : List α :=
  ((marked key known members).filter Prod.snd).map Prod.fst

/-- A member whose key is new makes it known. -/
theorem newcomers_cons_new {member : α} (new : known (key member) = false) :
    newcomers key known (member :: members) =
      member :: newcomers key (fun other => known other || other == key member) members := by
  simp [newcomers, marked, new]

/-- Marking keeps all members in their order. -/
theorem map_fst_marked : (marked key known members).map Prod.fst = members := by
  induction members generalizing known with
  | nil => rfl
  | cons member later inductionHypothesis => rw [marked, List.map_cons, inductionHypothesis]

/-- Newcomers are members: marking makes up nothing. -/
theorem mem_of_mem_newcomers {member : α} (new : member ∈ newcomers key known members) :
    member ∈ members := by
  obtain ⟨mark, isNew, rfl⟩ := List.mem_map.mp new
  have inside := List.mem_map_of_mem (f := Prod.fst) (List.mem_of_mem_filter isNew)
  rwa [map_fst_marked] at inside

/-! ## Key by key -/

/-- It matters of the keys of the members only whether they are known. -/
theorem marked_congr {known' : κ → Bool}
    (same : ∀ member ∈ members, known (key member) = known' (key member)) :
    marked key known members = marked key known' members := by
  induction members generalizing known known' with
  | nil => rfl
  | cons member later inductionHypothesis =>
    rw [marked, marked, same member List.mem_cons_self]
    refine congrArg _ (inductionHypothesis fun other inside => ?_)
    rw [same other (List.mem_cons_of_mem _ inside)]

/-- A member whose key is known is passed over. -/
theorem newcomers_cons_known {member : α} (isKnown : known (key member) = true) :
    newcomers key known (member :: members) = newcomers key known members := by
  have alike : marked key (fun other => known other || other == key member) members =
      marked key known members := by
    refine marked_congr fun other _ => ?_
    by_cases same : key other = key member <;> simp [same, isKnown]
  simp [newcomers, marked, isKnown, alike]

/-- Members with other keys do not matter. -/
theorem filter_marked (one : κ) :
    (marked key known members).filter (fun mark => key mark.1 == one) =
      marked key known (members.filter fun member => key member == one) := by
  induction members generalizing known with
  | nil => rfl
  | cons member later inductionHypothesis =>
    by_cases hasKey : key member = one
    · simp [marked, hasKey, inductionHypothesis]
    · have alike : marked key (fun other => known other || other == key member)
            (later.filter fun other => key other == one) =
          marked key known (later.filter fun other => key other == one) := by
        refine marked_congr fun other inside => ?_
        have otherKey : key other = one := beq_iff_eq.mp (List.mem_filter.mp inside).2
        simp [otherKey, Ne.symm hasKey]
      simp [marked, hasKey, inductionHypothesis, alike]

/-- Two lists are the same up to order if they have the same members of each key in the same
order. -/
theorem perm_of_filter_eq [DecidableEq α] (key : α → κ)
    (same : ∀ one, members.filter (fun member => key member == one) =
      others.filter fun member => key member == one) : members.Perm others := by
  refine List.perm_iff_count.mpr fun member => ?_
  have counted (all : List α) :
      (all.filter fun other => key other == key member).count member = all.count member :=
    List.count_filter (beq_self_eq_true (key member))
  rw [← counted members, ← counted others, same]

/-- When for each key the same members have it in the same order, the marked members are the same up
to order. Without the order within a key another member would be the first to bring it. -/
theorem perm_marked [DecidableEq α]
    (same : ∀ one, members.filter (fun member => key member == one) =
      others.filter fun member => key member == one) :
    (marked key known members).Perm (marked key known others) := by
  refine perm_of_filter_eq (fun mark => key mark.1) fun one => ?_
  rw [filter_marked, filter_marked, same one]

/-- The newcomers do not depend on how the members of different keys are interleaved. -/
theorem perm_newcomers [DecidableEq α]
    (same : ∀ one, members.filter (fun member => key member == one) =
      others.filter fun member => key member == one) :
    (newcomers key known members).Perm (newcomers key known others) :=
  ((perm_marked same).filter _).map _

/-- Members that are their own keys may come in any order. -/
theorem perm_newcomers_id {members others : List κ} (permuted : members.Perm others)
    (known : κ → Bool) : (newcomers id known members).Perm (newcomers id known others) := by
  refine perm_newcomers fun one => ?_
  simp only [id_eq, List.filter_beq, permuted.count_eq]

/-! ## Blocks of members -/

/-- Blocks may come in any order if no two of them are different and have members. -/
theorem flatten_eq_of_perm {blocks permuted : List (List α)} (perm : blocks.Perm permuted)
    (alike : ∀ block ∈ blocks, ∀ other ∈ blocks, block = [] ∨ other = [] ∨ block = other) :
    blocks.flatten = permuted.flatten := by
  induction perm with
  | nil => rfl
  | cons block _ inductionHypothesis =>
    rw [List.flatten_cons, List.flatten_cons, inductionHypothesis fun one isOne other isOther =>
      alike one (List.mem_cons_of_mem _ isOne) other (List.mem_cons_of_mem _ isOther)]
  | swap first second later =>
    rcases alike second List.mem_cons_self first (List.mem_cons_of_mem _ List.mem_cons_self) with
      rfl | rfl | rfl <;> rfl
  | trans firstPerm _ first second =>
    refine (first alike).trans (second fun one isOne other isOther => ?_)
    exact alike one (firstPerm.mem_iff.mpr isOne) other (firstPerm.mem_iff.mpr isOther)

end FlowModel
