import FlowModel.Proofs.Generation.Edits
import FlowModel.Proofs.Workspace.Bearers

/-!
# The guard against taken names

Before a microflow is created its name is looked up, and a name that is taken is noted. What the
lookup finds always bears the name. It tells exactly whether a bearer is addressed, so it is exact
when the names of modules are apart (`guard_tells`), and it misses the bearers in a module whose name
has a dot, or whose name an earlier module has (`guard_misses`).
-/

namespace FlowModel.Generation

open Workspace

/-- The lookup of a name and the guard tell whether something is so: the lookup finds a document
exactly then, and then the guard notes the name and denies that it is free. Otherwise the guard
changes nothing. -/
structure Tells (workspace : Workspace) (kind : DocumentKind) (qualified : String)
    (present : Prop) : Prop where
  found : (∃ id, workspace.find? kind qualified = some id) ↔ present
  taken : present → ∀ report, (isAbsent kind qualified).run ⟨workspace, report⟩ =
    .ok false ⟨workspace, report.skip qualified .nameCollision⟩
  free : ¬ present → ∀ report,
    (isAbsent kind qualified).run ⟨workspace, report⟩ = .ok true ⟨workspace, report⟩

variable {workspace : Workspace} {kind : DocumentKind} {qualified : String}

/-- The guard tells what the lookup tells. -/
theorem tells_of_iff {present : Prop}
    (found : (∃ id, workspace.find? kind qualified = some id) ↔ present) :
    Tells workspace kind qualified present where
  found := found
  taken := by
    intro isPresent
    obtain ⟨id, isFound⟩ := found.mpr isPresent
    exact run_isAbsent_of_found isFound
  free := by
    intro isAbsent
    refine run_isAbsent_of_free (Option.eq_none_iff_forall_ne_some.mpr fun id isFound => ?_)
    exact isAbsent (found.mp ⟨id, isFound⟩)

/-- In every workspace that is reached by edits, what a lookup finds has the kind and the name, and
the lookup and the guard tell whether a document has them whose module is addressed by the name. If
the names of modules have no dots and are distinct, they tell whether any document has them. -/
theorem guard_tells (reachable : workspace.Reachable) (kind : DocumentKind) (qualified : String) :
    (∀ id, workspace.find? kind qualified = some id → workspace.Bears kind qualified id) ∧
      Tells workspace kind qualified
        (∃ id, workspace.Bears kind qualified id ∧ workspace.IsAddressed id) ∧
      (workspace.ModulesApart →
        Tells workspace kind qualified (∃ id, workspace.Bears kind qualified id)) := by
  refine ⟨fun id found => (bears_of_find? found).1, tells_of_iff exists_find?_iff, fun apart => ?_⟩
  exact tells_of_iff (apart.exists_find?_iff reachable.rooted)

/-- One module with a name, and a microflow in it. -/
def lone (moduleName name : String) : Module :=
  ⟨moduleName, ⟨[]⟩, [], [.microflow (.empty name .void)]⟩

/-- In a project with one module of a plain name the guard tells of its microflow. -/
theorem guard_tells_sales :
    (Workspace.ofProject ⟨[lone "Sales" "Check"]⟩).ModulesApart ∧
      Tells (.ofProject ⟨[lone "Sales" "Check"]⟩) .microflow "Sales.Check"
        (∃ id, (Workspace.ofProject ⟨[lone "Sales" "Check"]⟩).Bears .microflow "Sales.Check" id) := by
  have apart : (Workspace.ofProject ⟨[lone "Sales" "Check"]⟩).ModulesApart := ⟨by decide, by decide⟩
  exact ⟨apart, (guard_tells (reachable_ofProject _) .microflow "Sales.Check").2.2 apart⟩

/-- In a module whose name has a dot, and in the second of two modules with one name, a microflow
bears a name that the guard takes for free. -/
theorem guard_misses :
    ¬ Tells (.ofProject ⟨[lone "A.B" "C"]⟩) .microflow "A.B.C"
        (∃ id, (Workspace.ofProject ⟨[lone "A.B" "C"]⟩).Bears .microflow "A.B.C" id) ∧
      ¬ Tells (.ofProject ⟨[lone "A" "B", lone "A" "C"]⟩) .microflow "A.C"
        (∃ id, (Workspace.ofProject ⟨[lone "A" "B", lone "A" "C"]⟩).Bears .microflow "A.C" id) := by
  constructor
  · intro tells
    obtain ⟨id, found⟩ := tells.found.mpr ⟨1, ⟨_, rfl, rfl⟩, by cbv⟩
    have free : (Workspace.ofProject ⟨[lone "A.B" "C"]⟩).find? .microflow "A.B.C" = none := by cbv
    rw [free] at found
    cases found
  · intro tells
    obtain ⟨id, found⟩ := tells.found.mpr ⟨3, ⟨_, rfl, rfl⟩, by cbv⟩
    have free : (Workspace.ofProject ⟨[lone "A" "B", lone "A" "C"]⟩).find? .microflow "A.C" =
        none := by cbv
    rw [free] at found
    cases found

end FlowModel.Generation
