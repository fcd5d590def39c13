import FlowModel.Project.PageParameter
import Mathlib.Data.List.Nodup
import Mathlib.Data.List.Perm.Basic

/-!
# First occurrences

What is met one after another may be met again. A list of first occurrences has each thing once, in
the order in which it is first met. There is one such list at most (`FirstMet.unique`), and noting
what is met, if it is not known yet, leads to it (`FirstMet.noted`).
-/

namespace FlowModel

variable {α : Type} [DecidableEq α]

/-- A list without repetition of what is met, in the order in which it is first met. -/
structure FirstMet (met found : List α) : Prop where
  distinct : found.Nodup
  mem_iff : ∀ member, member ∈ found ↔ member ∈ met
  ordered : found.Pairwise fun one other => met.idxOf one < met.idxOf other

variable {met found : List α} {next : α}

/-- Where nothing has been met, nothing is found. -/
theorem firstMet_nil : FirstMet ([] : List α) [] := ⟨List.nodup_nil, fun _ => Iff.rfl, .nil⟩

/-- What was met before keeps its place. -/
theorem FirstMet.ordered_concat (firstMet : FirstMet met found) :
    found.Pairwise fun one other => (met ++ [next]).idxOf one < (met ++ [next]).idxOf other := by
  refine firstMet.ordered.imp_of_mem fun isFound otherFound before => ?_
  rwa [List.idxOf_append_of_mem ((firstMet.mem_iff _).mp isFound),
    List.idxOf_append_of_mem ((firstMet.mem_iff _).mp otherFound)]

/-- Meeting something again does not move it behind what was met in between. -/
theorem FirstMet.concat_old (firstMet : FirstMet met found) (known : next ∈ met) :
    FirstMet (met ++ [next]) found where
  distinct := firstMet.distinct
  mem_iff member := by
    rw [firstMet.mem_iff, List.mem_append, List.mem_singleton]
    exact ⟨Or.inl, fun among => among.elim (fun before => before) fun same => same ▸ known⟩
  ordered := firstMet.ordered_concat

/-- What is met for the first time is found last. -/
theorem FirstMet.concat_new (firstMet : FirstMet met found) (new : next ∉ met) :
    FirstMet (met ++ [next]) (found ++ [next]) where
  distinct := List.nodup_append.mpr
    ⟨firstMet.distinct, List.nodup_singleton next, fun member isFound other isNext same =>
      new ((firstMet.mem_iff next).mp (List.mem_singleton.mp isNext ▸ same ▸ isFound))⟩
  mem_iff member := by rw [List.mem_append, List.mem_append, firstMet.mem_iff]
  ordered := by
    refine List.pairwise_append.mpr ⟨firstMet.ordered_concat, List.pairwise_singleton .., ?_⟩
    intro member isFound other isNext
    have before := (firstMet.mem_iff member).mp isFound
    rw [List.mem_singleton.mp isNext, List.idxOf_append_of_mem before,
      List.idxOf_append_of_notMem new]
    exact Nat.lt_add_right _ (List.idxOf_lt_length_iff.mpr before)

/-- Noting what is met next keeps a list of first occurrences. -/
theorem FirstMet.noted (firstMet : FirstMet met found) :
    FirstMet (met ++ [next]) (noted found next) := by
  by_cases known : next ∈ found
  · rw [FlowModel.noted, if_pos known]
    exact firstMet.concat_old ((firstMet.mem_iff next).mp known)
  · rw [FlowModel.noted, if_neg known]
    exact firstMet.concat_new (mt (firstMet.mem_iff next).mpr known)

/-- Where the same is met, the lists differ in order only. -/
theorem FirstMet.perm {otherMet other : List α} (firstMet : FirstMet met found)
    (firstOther : FirstMet otherMet other) (same : ∀ member, member ∈ met ↔ member ∈ otherMet) :
    found.Perm other :=
  (List.perm_ext_iff_of_nodup firstMet.distinct firstOther.distinct).mpr fun member =>
    calc
      member ∈ found ↔ member ∈ met := firstMet.mem_iff member
      _ ↔ member ∈ otherMet := same member
      _ ↔ member ∈ other := (firstOther.mem_iff member).symm

/-- There is only one such list. -/
theorem FirstMet.unique {other : List α} (firstMet : FirstMet met found)
    (firstOther : FirstMet met other) : other = found :=
  (firstOther.perm firstMet fun _ => Iff.rfl).eq_of_pairwise
    (fun _ _ _ _ before behind => absurd before (Nat.lt_asymm behind))
    firstOther.ordered firstMet.ordered

end FlowModel
