import FlowModel.Proofs.Workspace.Trees
import Mathlib.Data.List.Nodup

/-!
# Addresses of containers

An address tells the place of a module among the modules, and a way down from there: at each step the
place of a folder among the folders of its parent. Names do not matter, and may be repeated. What lies
in a container is behind it in the order of creation, and of two folders in one container at most one
encloses a given folder. So in a rooted workspace every container has exactly one address
(`Rooted.existsUnique_address`).
-/

namespace FlowModel

/-- The place of a module, and the places of folders on the way down from it. -/
structure Address where
  place : Nat
  way : List Nat
deriving DecidableEq, Repr, Inhabited

/-- No place is told twice. -/
theorem nodup_placesWhere {α : Type} (holds : α → Bool) (members : List α) :
    (placesWhere holds members).Nodup := by
  have all : (members.zipIdx.map Prod.snd).Nodup := by
    rw [List.zipIdx_map_snd]
    exact List.nodup_range'
  exact all.sublist (List.filter_sublist.map _)

/-- A place that is listed twice is listed at one position, so positions tell places apart. -/
theorem eq_of_getElem?_placesWhere {α : Type} {holds : α → Bool} {members : List α}
    {first second place : Nat} (told : (placesWhere holds members)[first]? = some place)
    (told' : (placesWhere holds members)[second]? = some place) : first = second :=
  (List.getElem?_inj (lt_of_getElem?_eq_some told) (nodup_placesWhere holds members)).mp
    (told.trans told'.symm)

/-- A member behind the others is listed last if the condition holds for it, and no other place is
listed or dropped. -/
theorem placesWhere_concat {α : Type} (holds : α → Bool) (members : List α) (added : α) :
    placesWhere holds (members ++ [added]) =
      placesWhere holds members ++ if holds added then [members.length] else [] := by
  rw [placesWhere, List.zipIdx_append, List.filter_append, List.map_append, placesWhere]
  cases held : holds added <;> simp [held]

namespace Workspace

/-- The folder to which a way down from a container leads. -/
def descend? (workspace : Workspace) : List Nat → ContainerId → Option ContainerId
  | [], id => some id
  | place :: way, id => do workspace.descend? way (← (workspace.childFolders id)[place]?)

/-- The container at an address. -/
def containerAt? (workspace : Workspace) (address : Address) : Option ContainerId := do
  workspace.descend? address.way (← workspace.modules[address.place]?)

variable {workspace : Workspace} {id parent outer inner : ContainerId}

/-- The modules are the containers of that kind. -/
theorem mem_modules :
    id ∈ workspace.modules ↔
      ∃ found, workspace.containers[id]? = some found ∧ found.isModule = true :=
  mem_placesWhere

/-- The folders of a container are those that lie directly in it by kind and by parent. -/
theorem mem_childFolders :
    id ∈ workspace.childFolders parent ↔
      ∃ found, workspace.containers[id]? = some found ∧ found.isFolderIn parent = true :=
  mem_placesWhere

/-- Modules are containers of the workspace. -/
theorem lt_of_mem_modules (member : id ∈ workspace.modules) : id < workspace.containers.length := by
  obtain ⟨_, stored, _⟩ := mem_modules.mp member
  exact lt_of_getElem?_eq_some stored

/-- Folders of a container are containers of the workspace. -/
theorem lt_of_mem_childFolders (member : id ∈ workspace.childFolders parent) :
    id < workspace.containers.length := by
  obtain ⟨_, stored, _⟩ := mem_childFolders.mp member
  exact lt_of_getElem?_eq_some stored

/-- A folder lies in the container whose folder it is. -/
theorem encloses_of_mem_childFolders (member : id ∈ workspace.childFolders parent) :
    workspace.Encloses parent id := by
  obtain ⟨_, stored, lies⟩ := mem_childFolders.mp member
  exact .inside stored lies .itself

/-- A folder lies in one container only. -/
theorem eq_of_mem_childFolders {other : ContainerId} (member : id ∈ workspace.childFolders parent)
    (member' : id ∈ workspace.childFolders other) : parent = other := by
  obtain ⟨_, stored, lies⟩ := mem_childFolders.mp member
  obtain ⟨_, stored', lies'⟩ := mem_childFolders.mp member'
  obtain rfl := Option.some.inj (stored.symm.trans stored')
  exact Container.isFolderIn_unique lies lies'

/-- A module is nobody's folder, because one field cannot hold both kinds. -/
theorem notMem_childFolders_of_mem_modules (member : id ∈ workspace.modules) :
    id ∉ workspace.childFolders parent := by
  intro member'
  obtain ⟨_, stored, isModule⟩ := mem_modules.mp member
  obtain ⟨_, stored', lies⟩ := mem_childFolders.mp member'
  obtain rfl := Option.some.inj (stored.symm.trans stored')
  exact Bool.false_ne_true ((Container.isModule_eq_false lies).symm.trans isModule)

/-! ## Ways down -/

/-- A way down is walked from its first step. -/
theorem descend?_cons_eq_some {place : Nat} {way : List Nat} :
    workspace.descend? (place :: way) id = some inner ↔
      ∃ child, (workspace.childFolders id)[place]? = some child ∧
        workspace.descend? way child = some inner :=
  Option.bind_eq_some_iff

/-- A way down can be interrupted anywhere and taken up again. -/
theorem descend?_append (first second : List Nat) (id : ContainerId) :
    workspace.descend? (first ++ second) id =
      (workspace.descend? first id).bind (workspace.descend? second) := by
  induction first generalizing id with
  | nil => rfl
  | cons place way inductionHypothesis =>
    rw [List.cons_append, descend?, descend?]
    cases (workspace.childFolders id)[place]? with
    | none => rfl
    | some child => exact inductionHypothesis child

/-- A way down leads to what lies in the container. -/
theorem encloses_of_descend? {way : List Nat} (leads : workspace.descend? way id = some inner) :
    workspace.Encloses id inner := by
  induction way generalizing id with
  | nil => exact Option.some.inj leads ▸ .itself
  | cons place way inductionHypothesis =>
    obtain ⟨child, at?, below⟩ := descend?_cons_eq_some.mp leads
    exact (encloses_of_mem_childFolders (List.mem_of_getElem? at?)).trans (inductionHypothesis below)

/-- Without a way down an address is that of a module. -/
theorem containerAt?_nil_eq_some {place : Nat} :
    workspace.containerAt? ⟨place, []⟩ = some id ↔ workspace.modules[place]? = some id := by
  rw [containerAt?]
  exact Option.bind_eq_some_iff.trans (by simp [descend?])

/-- The container at a longer address is a folder of the one at the shorter. -/
theorem containerAt?_concat_eq_some {place last : Nat} {way : List Nat} :
    workspace.containerAt? ⟨place, way ++ [last]⟩ = some id ↔
      ∃ parent, workspace.containerAt? ⟨place, way⟩ = some parent ∧
        (workspace.childFolders parent)[last]? = some id := by
  have last? (parent : ContainerId) : workspace.descend? [last] parent =
      (workspace.childFolders parent)[last]? := by
    rw [descend?]
    cases (workspace.childFolders parent)[last]? <;> rfl
  rw [containerAt?, containerAt?, ← Option.bind_eq_some_iff]
  cases workspace.modules[place]? with
  | none => exact Iff.rfl
  | some owner =>
    show workspace.descend? (way ++ [last]) owner = _ ↔ _
    rw [descend?_append, funext last?]
    exact Iff.rfl

/-- Only containers of the workspace have an address. -/
theorem lt_of_containerAt? {address : Address} (at? : workspace.containerAt? address = some id) :
    id < workspace.containers.length := by
  obtain ⟨owner, listed, leads⟩ := Option.bind_eq_some_iff.mp at?
  exact (encloses_of_descend? leads).lt (lt_of_mem_modules (List.mem_of_getElem? listed))

/-! ## Containers in containers -/

/-- Of two containers in which a container lies, one lies in the other. -/
theorem Encloses.linear {first second : ContainerId} (encloses : workspace.Encloses first inner)
    (encloses' : workspace.Encloses second inner) :
    workspace.Encloses first second ∨ workspace.Encloses second first := by
  induction encloses with
  | itself => exact Or.inr encloses'
  | inside stored lies above inductionHypothesis =>
    cases encloses' with
    | itself => exact Or.inl (.inside stored lies above)
    | inside stored' lies' above' =>
      obtain rfl := Option.some.inj (stored.symm.trans stored')
      obtain rfl := Container.isFolderIn_unique lies lies'
      exact inductionHypothesis above'

namespace Rooted

/-- A folder of a container comes after it. All inductions over trees of containers go along this.
-/
theorem parent_lt_of_mem (rooted : workspace.Rooted)
    (member : id ∈ workspace.childFolders parent) : parent < id := by
  obtain ⟨_, stored, lies⟩ := mem_childFolders.mp member
  exact rooted.parent_lt stored lies

/-- What lies in a container is not before it. -/
theorem le_of_encloses (rooted : workspace.Rooted) (encloses : workspace.Encloses outer inner) :
    outer ≤ inner := by
  induction encloses with
  | itself => exact Nat.le_refl outer
  | inside stored lies _ inductionHypothesis =>
    exact Nat.le_trans inductionHypothesis (Nat.le_of_lt (rooted.parent_lt stored lies))

/-- A folder does not lie in another folder of its parent. -/
theorem eq_of_encloses_sibling (rooted : workspace.Rooted) {first second : ContainerId}
    (member : first ∈ workspace.childFolders parent)
    (member' : second ∈ workspace.childFolders parent)
    (encloses : workspace.Encloses first second) : first = second := by
  cases encloses with
  | itself => rfl
  | inside stored lies above =>
    obtain ⟨_, stored', lies'⟩ := mem_childFolders.mp member'
    obtain rfl := Option.some.inj (stored.symm.trans stored')
    obtain rfl := Container.isFolderIn_unique lies lies'
    exact absurd (rooted.le_of_encloses above)
      (Nat.not_le.mpr (rooted.parent_lt_of_mem member))

/-- At most one folder in a container encloses a given container. -/
theorem eq_of_siblings (rooted : workspace.Rooted) {first second : ContainerId}
    (member : first ∈ workspace.childFolders parent)
    (member' : second ∈ workspace.childFolders parent)
    (encloses : workspace.Encloses first inner) (encloses' : workspace.Encloses second inner) :
    first = second := by
  rcases encloses.linear encloses' with below | below
  · exact rooted.eq_of_encloses_sibling member member' below
  · exact (rooted.eq_of_encloses_sibling member' member below).symm

/-! ## Every container has one address -/

/-- Every container of a rooted workspace has an address, which is found by climbing to its module.
The induction is on the id, which gets smaller on the way up. -/
theorem exists_address (rooted : workspace.Rooted) (inside : id < workspace.containers.length) :
    ∃ address, workspace.containerAt? address = some id := by
  induction id using Nat.strongRecOn with
  | ind id inductionHypothesis =>
    have stored := List.getElem?_eq_getElem inside
    obtain ⟨isModule, _⟩ | ⟨parent, earlier, lies, _⟩ := (rooted.placed stored).cases_kind
    · obtain ⟨place, listed⟩ := List.getElem?_of_mem (mem_modules.mpr ⟨_, stored, isModule⟩)
      exact ⟨⟨place, []⟩, containerAt?_nil_eq_some.mpr listed⟩
    · obtain ⟨⟨place, way⟩, at?⟩ := inductionHypothesis parent earlier (Nat.lt_trans earlier inside)
      obtain ⟨last, listed⟩ := List.getElem?_of_mem (mem_childFolders.mpr ⟨_, stored, lies⟩)
      exact ⟨⟨place, way ++ [last]⟩, containerAt?_concat_eq_some.mpr ⟨parent, at?, listed⟩⟩

/-- A container that is looked up successfully has an address. -/
theorem exists_address_of_container (rooted : workspace.Rooted) {found : Container}
    (stored : workspace.container id = .ok found) :
    ∃ address, workspace.containerAt? address = some id :=
  rooted.exists_address (lt_of_getElem?_eq_some (container_eq_ok.mp stored))

/-- The last step to a folder comes from its parent, so the induction climbs up. -/
theorem address_unique (rooted : workspace.Rooted) {first second : Address}
    (at? : workspace.containerAt? first = some id) (at?' : workspace.containerAt? second = some id) :
    first = second := by
  induction id using Nat.strongRecOn generalizing first second with
  | ind id inductionHypothesis =>
    obtain ⟨place, way⟩ := first
    obtain ⟨place', way'⟩ := second
    -- A module and a folder are told apart by the length of the way.
    rcases List.eq_nil_or_concat' way with rfl | ⟨above, last, rfl⟩ <;>
      rcases List.eq_nil_or_concat' way' with rfl | ⟨above', last', rfl⟩
    · rw [eq_of_getElem?_placesWhere (containerAt?_nil_eq_some.mp at?)
        (containerAt?_nil_eq_some.mp at?')]
    · obtain ⟨_, _, listed⟩ := containerAt?_concat_eq_some.mp at?'
      exact absurd (List.mem_of_getElem? listed) (notMem_childFolders_of_mem_modules
        (List.mem_of_getElem? (containerAt?_nil_eq_some.mp at?)))
    · obtain ⟨_, _, listed⟩ := containerAt?_concat_eq_some.mp at?
      exact absurd (List.mem_of_getElem? listed) (notMem_childFolders_of_mem_modules
        (List.mem_of_getElem? (containerAt?_nil_eq_some.mp at?')))
    · obtain ⟨parent, atParent, listed⟩ := containerAt?_concat_eq_some.mp at?
      obtain ⟨parent', atParent', listed'⟩ := containerAt?_concat_eq_some.mp at?'
      have member := List.mem_of_getElem? listed
      obtain rfl := eq_of_mem_childFolders member (List.mem_of_getElem? listed')
      have above := inductionHypothesis parent (rooted.parent_lt_of_mem member) atParent atParent'
      obtain ⟨rfl, rfl⟩ := Address.mk.inj above
      rw [eq_of_getElem?_placesWhere listed listed']

/-- Of two addresses of one container neither could leave the other's way: of two folders in one
container at most one encloses it. -/
theorem existsUnique_address (rooted : workspace.Rooted)
    (inside : id < workspace.containers.length) :
    ∃! address, workspace.containerAt? address = some id := by
  obtain ⟨address, at?⟩ := rooted.exists_address inside
  exact ⟨address, at?, fun other at?' => rooted.address_unique at?' at?⟩

end Rooted

end Workspace

end FlowModel
