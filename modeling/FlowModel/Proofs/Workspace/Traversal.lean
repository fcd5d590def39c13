import FlowModel.Proofs.Generation.Edits
import FlowModel.Proofs.Workspace.FolderSearch

/-!
# Climbing and searching in trees of containers

Whatever is done to a checked-out project, its containers form trees below its modules: a module has
no parent, and a folder lies in an earlier container. So a climb from any container ends at its
module, and a search below any container ends too. The folders below a container have an order, a
folder before those in it and siblings as they were created, and a search by name finds the first
one in that order (`containers_form_trees`).

A climb and a search of the workspace go down only so many levels. That this is never too few is said
by relations without such a bound: `Encloses` for a climb, `Search` for a search.
-/

namespace FlowModel.Workspace

/-- A container lies in another one, however deep. -/
def LiesBelow (workspace : Workspace) (outer inner : ContainerId) : Prop :=
  inner ≠ outer ∧ workspace.Encloses outer inner

/-- A list of some folders and of all that lie in them: a folder stands before the folders in it, and
these before the next folder. -/
inductive Preorder (workspace : Workspace) : List ContainerId → List ContainerId → Prop where
  | nil : workspace.Preorder [] []
  | cons {child : ContainerId} {siblings inner others : List ContainerId}
      (below : workspace.Preorder (workspace.childFolders child) inner)
      (later : workspace.Preorder siblings others) :
      workspace.Preorder (child :: siblings) (child :: (inner ++ others))

/-- The course of a search through folders for one with a name. A search goes on in the folders of a
folder with another name, and behind it if there is none with the name among them. -/
inductive Search (workspace : Workspace) (name : String) :
    List ContainerId → Option ContainerId → Prop where
  | exhausted : workspace.Search name [] none
  | here {child : ContainerId} {siblings : List ContainerId}
      (named : workspace.isNamed child name = true) :
      workspace.Search name (child :: siblings) (some child)
  | inside {child found : ContainerId} {siblings : List ContainerId}
      (unnamed : workspace.isNamed child name = false)
      (below : workspace.Search name (workspace.childFolders child) (some found)) :
      workspace.Search name (child :: siblings) (some found)
  | onward {child : ContainerId} {siblings : List ContainerId} {result : Option ContainerId}
      (unnamed : workspace.isNamed child name = false)
      (below : workspace.Search name (workspace.childFolders child) none)
      (later : workspace.Search name siblings result) :
      workspace.Search name (child :: siblings) result

variable {workspace : Workspace} {id root owner : ContainerId} {name : String}
  {siblings ids : List ContainerId}

/-! ## Folders in the order of their creation -/

/-- Places are listed from the first to the last, each of them once. -/
theorem pairwise_placesWhere {α : Type} (holds : α → Bool) (members : List α) :
    (placesWhere holds members).Pairwise (· < ·) := by
  have all : (members.zipIdx.map Prod.snd).Pairwise (· < ·) := by
    rw [List.zipIdx_map_snd]
    exact List.pairwise_lt_range'
  exact all.sublist (List.filter_sublist.map _)

/-- What lies in a container is the container or lies in one of its folders. -/
theorem encloses_iff_childFolders :
    workspace.Encloses root id ↔
      id = root ∨ ∃ child ∈ workspace.childFolders root, workspace.Encloses child id := by
  constructor
  · intro encloses
    by_cases same : id = root
    · exact Or.inl same
    · exact Or.inr (encloses.exists_childFolder same)
  · rintro (rfl | ⟨child, member, encloses⟩)
    · exact .itself
    · exact (encloses_of_mem_childFolders member).trans encloses

/-- Below a container lies what lies in one of its folders. -/
theorem Rooted.liesBelow_iff (rooted : workspace.Rooted) :
    workspace.LiesBelow root id ↔
      ∃ child ∈ workspace.childFolders root, workspace.Encloses child id := by
  rw [LiesBelow, encloses_iff_childFolders]
  constructor
  · rintro ⟨differs, same | inside⟩
    · exact absurd same differs
    · exact inside
  · rintro ⟨child, member, encloses⟩
    have behind := Nat.lt_of_lt_of_le (rooted.parent_lt_of_mem member) (rooted.le_of_encloses encloses)
    exact ⟨Nat.ne_of_gt behind, Or.inr ⟨child, member, encloses⟩⟩

namespace Preorder

/-- A preorder lists exactly what lies in the folders. -/
theorem mem_iff (ordered : workspace.Preorder siblings ids) :
    id ∈ ids ↔ ∃ child ∈ siblings, workspace.Encloses child id := by
  induction ordered with
  | nil => simp
  | @cons child siblings inner others _ _ belowHypothesis laterHypothesis =>
    rw [List.mem_cons, List.mem_append, List.exists_mem_cons_iff, belowHypothesis, laterHypothesis,
      @encloses_iff_childFolders _ _ child, or_assoc]

/-- Folders are listed in one way only. -/
theorem unique {others : List ContainerId} (ordered : workspace.Preorder siblings ids)
    (ordered' : workspace.Preorder siblings others) : ids = others := by
  induction ordered generalizing others with
  | nil =>
    cases ordered'
    rfl
  | cons _ _ belowHypothesis laterHypothesis =>
    cases ordered' with
    | cons below later => rw [belowHypothesis below, laterHypothesis later]

/-- A search ends with the first folder of the preorder that has the name. -/
theorem search (ordered : workspace.Preorder siblings ids) (name : String) :
    workspace.Search name siblings (ids.find? fun id => workspace.isNamed id name) := by
  induction ordered with
  | nil => exact .exhausted
  | @cons child siblings inner others _ _ belowHypothesis laterHypothesis =>
    cases named : workspace.isNamed child name with
    | true =>
      simp only [List.find?_cons, named]
      exact .here named
    | false =>
      simp only [List.find?_cons, named, List.find?_append]
      cases known : inner.find? fun id => workspace.isNamed id name with
      | some found => exact .inside named (known ▸ belowHypothesis)
      | none => exact .onward named (known ▸ belowHypothesis) laterHypothesis

end Preorder

/-! ## Enough levels -/

/-- Folders so far behind that a number of levels is enough for all that lies in them. -/
def InReach (workspace : Workspace) (depth : Nat) (siblings : List ContainerId) : Prop :=
  ∀ child ∈ siblings,
    child < workspace.containers.length ∧ workspace.containers.length ≤ child + depth

namespace Rooted

/-- Folders in a container are behind it, so they need one level less. -/
theorem inReach_childFolders (rooted : workspace.Rooted) {depth : Nat}
    (enough : workspace.containers.length ≤ root + (depth + 1)) :
    workspace.InReach depth (workspace.childFolders root) := fun _ member =>
  ⟨lt_of_mem_childFolders member, le_add_of_behind enough (rooted.parent_lt_of_mem member)⟩

/-- All folders below a container can be listed. -/
theorem exists_preorder (rooted : workspace.Rooted) {depth : Nat}
    (inReach : workspace.InReach depth siblings) : ∃ ids, workspace.Preorder siblings ids := by
  induction depth generalizing siblings with
  | zero =>
    cases siblings with
    | nil => exact ⟨[], .nil⟩
    | cons child siblings =>
      obtain ⟨inside, outside⟩ := inReach child List.mem_cons_self
      exact absurd inside (Nat.not_lt.mpr outside)
  | succ depth inductionHypothesis =>
    induction siblings with
    | nil => exact ⟨[], .nil⟩
    | cons child siblings laterHypothesis =>
      obtain ⟨inner, below⟩ := inductionHypothesis
        (rooted.inReach_childFolders (inReach child List.mem_cons_self).2)
      obtain ⟨others, later⟩ := laterHypothesis fun other member =>
        inReach other (List.mem_cons_of_mem child member)
      exact ⟨_, .cons below later⟩

/-- With enough levels, a search that is bounded gives the first folder of the preorder that has the
name. -/
theorem findSome?_eq_find? (rooted : workspace.Rooted) {depth : Nat}
    (inReach : workspace.InReach depth siblings) (ordered : workspace.Preorder siblings ids)
    (name : String) :
    (siblings.findSome? fun child =>
      if workspace.isNamed child name then some child
      else workspace.findFolderWithin name depth child) =
        ids.find? fun id => workspace.isNamed id name := by
  induction ordered generalizing depth with
  | nil => rfl
  | @cons child siblings inner others _ _ belowHypothesis laterHypothesis =>
    obtain ⟨inside, enough⟩ := inReach child List.mem_cons_self
    obtain ⟨depth, rfl⟩ := Nat.exists_eq_add_one_of_ne_zero (n := depth) fun noLevel =>
      absurd inside (Nat.not_lt.mpr (by rwa [noLevel] at enough))
    have below : workspace.findFolderWithin name (depth + 1) child =
        inner.find? fun id => workspace.isNamed id name :=
      belowHypothesis (rooted.inReach_childFolders enough)
    have later := laterHypothesis fun other member =>
      inReach other (List.mem_cons_of_mem child member)
    simp only [List.findSome?_cons, List.find?_cons, List.find?_append]
    cases named : workspace.isNamed child name with
    | true => rfl
    | false =>
      simp only [Bool.false_eq_true, if_false, below, later]
      cases inner.find? fun id => workspace.isNamed id name <;> rfl

/-- A search below a container gives the first folder in preorder that has the name. -/
theorem findFolder?_eq_find? (rooted : workspace.Rooted)
    (ordered : workspace.Preorder (workspace.childFolders root) ids) (name : String) :
    workspace.findFolder? root name = ids.find? fun id => workspace.isNamed id name := by
  rw [findFolder?]
  cases counted : workspace.containers.length with
  | zero =>
    have empty : workspace.childFolders root = [] :=
      List.eq_nil_iff_forall_not_mem.mpr fun child member =>
        absurd (lt_of_mem_childFolders member) (by rw [counted]; exact Nat.not_lt_zero child)
    rw [empty] at ordered
    cases ordered
    rfl
  | succ depth =>
    have enough : workspace.containers.length ≤ root + (depth + 1) :=
      counted ▸ Nat.le_add_left (depth + 1) root
    exact rooted.findSome?_eq_find? (rooted.inReach_childFolders enough) ordered name

end Rooted

/-! ## Trees -/

/-- A climb goes up from folder to folder until it comes to a module. -/
theorem encloses_of_climb {atMost : Nat} (climbed : workspace.climb atMost id = .ok owner) :
    workspace.Encloses owner id := by
  induction atMost generalizing id with
  | zero => exact nomatch climbed
  | succ atMost inductionHypothesis =>
    obtain ⟨found, stored, ⟨_, rfl⟩ | ⟨parent, lies, rest⟩⟩ := climb_succ_eq_ok climbed
    · exact .itself
    · exact .inside stored lies (inductionHypothesis rest)

/-- Whatever is done to a checked-out project, also what is not possible, its containers form trees:
the kind of a container and its parent agree, as modules have no parent and every folder has one with
a smaller id, and every document is held by a container that is there. So a climb from a container
meets no folder without a parent and ends at the module in which it lies, and every document has a
qualified name. The folders below a container can be listed in preorder, siblings in the order of
their creation. The search for a name below a container ends with the first folder of this list that
has the name; it ends without a folder exactly if none below the container has it. -/
theorem containers_form_trees (reachable : workspace.Reachable) :
    (∀ (id : ContainerId) (found : Container), workspace.containers[id]? = some found →
      (found.kind = .module → found.parent = none) ∧
      (found.kind = .folder → ∃ parent < id, found.parent = some parent)) ∧
    (∀ (id : DocumentId) (found : Document), workspace.documents[id]? = some found →
      found.container < workspace.containers.length) ∧
    (∀ id < workspace.containers.length, ∃ owner found, workspace.moduleOf id = .ok owner ∧
      workspace.containers[owner]? = some found ∧ found.kind = .module ∧
      workspace.Encloses owner id) ∧
    (∀ (id : DocumentId) (document : Document), workspace.documents[id]? = some document →
      ∃ moduleName, workspace.moduleName document.container = .ok moduleName ∧
        workspace.qualifiedName id = .ok (QualifiedName.qualified moduleName document.name)) ∧
    (∀ id, (workspace.childFolders id).Pairwise (· < ·)) ∧
    ∀ root, ∃ ids, workspace.Preorder (workspace.childFolders root) ids ∧
      (∀ id, id ∈ ids ↔ workspace.LiesBelow root id) ∧
      ∀ name,
        workspace.Search name (workspace.childFolders root) (workspace.findFolder? root name) ∧
        workspace.findFolder? root name = (ids.find? fun id => workspace.isNamed id name) ∧
        ((∃ found, workspace.findFolder? root name = some found) ↔
          ∃ id, workspace.LiesBelow root id ∧ workspace.isNamed id name = true) := by
  have rooted := reachable.rooted
  refine ⟨fun id found stored => ?_, fun _ _ => rooted.holder_lt, fun id inside => ?_,
    fun id document stored => ?_, fun _ => pairwise_placesWhere _ _, fun root => ?_⟩
  · cases rooted.placed stored with
    | module => exact ⟨fun _ => rfl, nofun⟩
    | folder earlier => exact ⟨nofun, fun _ => ⟨_, earlier, rfl⟩⟩
  · obtain ⟨owner, found, located, stored, isModule⟩ := rooted.moduleOf_of_lt inside
    exact ⟨owner, found, located, stored, beq_iff_eq.mp isModule, encloses_of_climb located⟩
  · obtain ⟨owner, found, located, storedOwner, _⟩ := rooted.moduleOf_of_lt (rooted.holder_lt stored)
    exact ⟨found.name, moduleName_eq_of_moduleOf located storedOwner,
      qualifiedName_eq_of_moduleOf stored located storedOwner⟩
  · have enough : workspace.containers.length ≤ root + (workspace.containers.length + 1) :=
      Nat.le_add_left_of_le (Nat.le_succ _)
    obtain ⟨ids, ordered⟩ := rooted.exists_preorder (rooted.inReach_childFolders enough)
    have listed (id : ContainerId) : id ∈ ids ↔ workspace.LiesBelow root id :=
      ordered.mem_iff.trans rooted.liesBelow_iff.symm
    refine ⟨ids, ordered, listed, fun name => ?_⟩
    have first := rooted.findFolder?_eq_find? ordered name
    refine ⟨first ▸ ordered.search name, first, ?_⟩
    rw [first, ← Option.isSome_iff_exists, List.find?_isSome]
    simp only [listed]

/-- A module in which two folders have one name, the deeper one in front. -/
def nested : Project :=
  ⟨[⟨"Shop", ⟨[]⟩, [⟨"Pages", [⟨"Old", [], []⟩], []⟩, ⟨"Old", [], []⟩], []⟩]⟩

/-- That project with another folder of the name, after an attempt in a container that is not
there. -/
def nestedMore : Workspace :=
  (ofProject nested).editAll [.createFolder 9 "Old", .createFolder 1 "Old"]

/-- A folder that lies in another folder is found before a later one with its name, because the
search goes down before it goes on. -/
theorem containers_form_trees_nested :
    nestedMore.Reachable ∧ nestedMore.findFolder? 0 "Old" = some 2 ∧
      ∃ ids, nestedMore.Preorder (nestedMore.childFolders 0) ids ∧
        ids.find? (fun id => nestedMore.isNamed id "Old") = some 2 := by
  have reachable : nestedMore.Reachable := ⟨nested, _, rfl⟩
  have found : nestedMore.findFolder? 0 "Old" = some 2 := by decide
  obtain ⟨_, _, _, _, _, searches⟩ := containers_form_trees reachable
  obtain ⟨ids, ordered, _, search⟩ := searches 0
  exact ⟨reachable, found, ids, ordered, (search "Old").2.1 ▸ found⟩

end FlowModel.Workspace
