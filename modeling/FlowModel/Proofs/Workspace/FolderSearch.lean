import FlowModel.Proofs.Workspace.Addresses

/-!
# Searching for a folder

The search for a folder by name goes through all folders below a container, so it finds one if there
is one (`Rooted.exists_findFolder?`). A new folder lies behind the others of its parent. So a search
for another name does not see it (`Rooted.findFolder?_of_ne`), a search in its parent that was
successful finds what it found before (`Rooted.findFolder?_parent`), as does a search that finds its
parent (`Rooted.findFolder?_inside`), and a search for its name that was not successful now finds it
(`Rooted.findFolder?_new`).
-/

namespace FlowModel.Workspace

variable {workspace : Workspace} {id root parent outer inner : ContainerId} {name other : String}

/-- A container that is not there has no name, so it is not met by a search. -/
theorem isNamed_iff : workspace.isNamed id name = true ↔
    ∃ found, workspace.containers[id]? = some found ∧ found.name = name := by
  simp [isNamed, Option.any_eq_true]

/-! ## What is found -/

/-- A folder is found under its name, in one of the folders of the container or as one of them. -/
theorem findFolderWithin_sound {depth : Nat}
    (known : workspace.findFolderWithin name depth root = some id) :
    workspace.isNamed id name = true ∧
      ∃ child ∈ workspace.childFolders root, workspace.Encloses child id := by
  induction depth generalizing root with
  | zero => exact nomatch known
  | succ depth inductionHypothesis =>
    obtain ⟨child, member, known⟩ := List.exists_of_findSome?_eq_some known
    by_cases named : workspace.isNamed child name = true
    · rw [if_pos named] at known
      obtain rfl := Option.some.inj known
      exact ⟨named, child, member, .itself⟩
    · rw [if_neg named] at known
      obtain ⟨namedBelow, below, memberBelow, encloses⟩ := inductionHypothesis known
      exact ⟨namedBelow, child, member, (encloses_of_mem_childFolders memberBelow).trans encloses⟩

/-- What is found is a folder with the name. -/
theorem stored_of_findFolder? (known : workspace.findFolder? root name = some id) :
    ∃ found, workspace.containers[id]? = some found ∧ found.name = name ∧
      found.isModule = false := by
  obtain ⟨named, child, member, encloses⟩ := findFolderWithin_sound known
  obtain ⟨found, stored, name_eq⟩ := isNamed_iff.mp named
  refine ⟨found, stored, name_eq, ?_⟩
  cases encloses with
  | itself =>
    obtain ⟨found', stored', lies⟩ := mem_childFolders.mp member
    obtain rfl := Option.some.inj (stored.symm.trans stored')
    exact Container.isModule_eq_false lies
  | inside stored' lies =>
    obtain rfl := Option.some.inj (stored.symm.trans stored')
    exact Container.isModule_eq_false lies

/-- A folder that is found by name is stored with this name, as a folder, and with the container in
which it was sought as its parent. -/
theorem stored_of_childFolder? (known : workspace.childFolder? parent name = some id) :
    workspace.containers[id]? = some ⟨name, .folder, some parent⟩ := by
  obtain ⟨⟨name', kind', parent'⟩, stored, holds⟩ := mem_placesWhere.mp (List.mem_of_head? known)
  obtain ⟨lies, isNamed⟩ := Bool.and_eq_true_iff.mp holds
  obtain ⟨rfl, rfl⟩ := Container.isFolderIn_iff.mp lies
  exact beq_iff_eq.mp isNamed ▸ stored

/-- What lies in a container without being it lies in one of its folders. -/
theorem Encloses.exists_childFolder (encloses : workspace.Encloses outer inner)
    (differs : inner ≠ outer) :
    ∃ child ∈ workspace.childFolders outer, workspace.Encloses child inner := by
  induction encloses with
  | itself => exact absurd rfl differs
  | @inside id parent found stored lies above inductionHypothesis =>
    by_cases direct : parent = outer
    · subst direct
      exact ⟨id, mem_childFolders.mpr ⟨found, stored, lies⟩, .itself⟩
    · obtain ⟨child, member, below⟩ := inductionHypothesis direct
      exact ⟨child, member, .inside stored lies below⟩

/-- Every step down leads to a greater id, so one step less is enough behind it. -/
theorem le_add_of_behind {total before behind depth : Nat} (enough : total ≤ before + (depth + 1))
    (greater : before < behind) : total ≤ behind + depth := by
  omega

/-- A folder below a container with a name is not overlooked, if the search goes deep
enough. -/
theorem Rooted.exists_findFolderWithin (rooted : workspace.Rooted) {depth : Nat}
    (enough : workspace.containers.length ≤ root + depth)
    (encloses : workspace.Encloses root id) (differs : id ≠ root)
    (named : workspace.isNamed id name = true) :
    ∃ found, workspace.findFolderWithin name depth root = some found := by
  obtain ⟨found, stored, _⟩ := isNamed_iff.mp named
  have inside := lt_of_getElem?_eq_some stored
  induction depth generalizing root with
  | zero =>
    have outside := Nat.le_trans enough (rooted.le_of_encloses encloses)
    exact absurd outside (Nat.not_le.mpr inside)
  | succ depth inductionHypothesis =>
    obtain ⟨child, member, below⟩ := encloses.exists_childFolder differs
    have enoughBelow := le_add_of_behind enough (rooted.parent_lt_of_mem member)
    refine Option.isSome_iff_exists.mp (List.findSome?_isSome_iff.mpr ⟨child, member, ?_⟩)
    by_cases namedChild : workspace.isNamed child name = true
    · rw [if_pos namedChild]
      rfl
    · have deeper : id ≠ child := fun same => namedChild (same ▸ named)
      obtain ⟨last, known⟩ := inductionHypothesis enoughBelow below deeper
      rw [if_neg namedChild, known]
      rfl

/-- If there is a folder with a name below a container, one is found. -/
theorem Rooted.exists_findFolder? (rooted : workspace.Rooted)
    (encloses : workspace.Encloses root id) (differs : id ≠ root)
    (named : workspace.isNamed id name = true) :
    ∃ found, workspace.findFolder? root name = some found :=
  rooted.exists_findFolderWithin (Nat.le_add_left ..) encloses differs named

/-- Where no folder has a name, no container has one with that name in it. -/
theorem Rooted.childFolder?_eq_none (rooted : workspace.Rooted)
    (encloses : workspace.Encloses root parent) (absent : workspace.findFolder? root name = none) :
    workspace.childFolder? parent name = none := by
  refine Option.eq_none_iff_forall_ne_some.mpr fun id known => ?_
  have stored := stored_of_childFolder? known
  have lies := Container.isFolderIn_parent name parent
  have below : workspace.Encloses root id := .inside stored lies encloses
  have differs := Nat.ne_of_gt
    (Nat.lt_of_le_of_lt (rooted.le_of_encloses encloses) (rooted.parent_lt stored lies))
  obtain ⟨found, isFound⟩ := rooted.exists_findFolder? below differs (isNamed_iff.mpr ⟨_, stored, rfl⟩)
  exact nomatch absent.symm.trans isFound

/-! ## A new folder -/

/-- A new folder is listed last among the folders of its parent and nowhere else. -/
theorem childFolders_pushFolder (workspace : Workspace) (name : String) (parent id : ContainerId) :
    (workspace.pushContainer ⟨name, .folder, some parent⟩).childFolders id =
      workspace.childFolders id ++ if parent = id then [workspace.containers.length] else [] := by
  rw [childFolders, pushContainer, placesWhere_concat, childFolders]
  by_cases same : parent = id <;> simp [same]

/-- The others keep their names when a container is added. -/
theorem isNamed_pushContainer (workspace : Workspace) (added : Container)
    (inside : id < workspace.containers.length) :
    (workspace.pushContainer added).isNamed id name = workspace.isNamed id name := by
  rw [isNamed, isNamed, pushContainer, List.getElem?_append_left inside]

/-- The new container has the name with which it was added. -/
theorem isNamed_new (workspace : Workspace) (added : Container) :
    (workspace.pushContainer added).isNamed workspace.containers.length name =
      (added.name == name) := by
  rw [isNamed, stored_pushContainer, Option.any_some]

/-- An earlier container lies where it has lain. -/
theorem Rooted.encloses_back (rooted : workspace.Rooted) {added : Container}
    (encloses : (workspace.pushContainer added).Encloses outer inner)
    (inside : inner < workspace.containers.length) : workspace.Encloses outer inner := by
  induction encloses with
  | itself => exact .itself
  | inside stored lies _ inductionHypothesis =>
    have wasStored := (List.getElem?_append_left inside).symm.trans stored
    have before := rooted.parent_lt wasStored lies
    exact .inside wasStored lies (inductionHypothesis (Nat.lt_trans before inside))

section

variable (rooted : workspace.Rooted) (holder_lt : parent < workspace.containers.length)
include rooted holder_lt

/-- Nothing lies in a new folder. -/
theorem Rooted.childFolders_new :
    (workspace.pushContainer ⟨name, .folder, some parent⟩).childFolders
      workspace.containers.length = [] := by
  refine List.eq_nil_iff_forall_not_mem.mpr fun id member => ?_
  obtain ⟨found, stored, lies⟩ := mem_childFolders.mp member
  rcases getElem?_concat_cases stored with wasStored | ⟨_, rfl⟩
  · have before := rooted.parent_lt wasStored lies
    exact absurd (lt_of_getElem?_eq_some wasStored) (Nat.not_lt.mpr (Nat.le_of_lt before))
  · exact absurd ((Container.isFolderIn_folder ..).mp lies) (Nat.ne_of_lt holder_lt)

/-- A new folder has no folders yet. -/
theorem Rooted.childFolder?_new (other : String) :
    (workspace.pushContainer ⟨name, .folder, some parent⟩).childFolder?
      workspace.containers.length other = none := by
  refine Option.eq_none_iff_forall_ne_some.mpr fun id known => ?_
  have member := mem_childFolders.mpr
    ⟨_, stored_of_childFolder? known, Container.isFolderIn_parent other _⟩
  rw [rooted.childFolders_new holder_lt] at member
  exact absurd member List.not_mem_nil

/-- A search that goes one step deeper sees the new folder in its parent, behind all others. -/
theorem Rooted.findFolderWithin_pushFolder {depth : Nat}
    (below : ∀ child ∈ workspace.childFolders root,
      (workspace.pushContainer ⟨name, .folder, some parent⟩).findFolderWithin other (depth + 1)
        child = workspace.findFolderWithin other depth child) :
    (workspace.pushContainer ⟨name, .folder, some parent⟩).findFolderWithin other (depth + 2) root =
      (workspace.findFolderWithin other (depth + 1) root).or
        (if parent = root ∧ name = other then some workspace.containers.length else none) := by
  have earlier : ∀ child ∈ workspace.childFolders root,
      (if (workspace.pushContainer ⟨name, .folder, some parent⟩).isNamed child other then some child
        else (workspace.pushContainer ⟨name, .folder, some parent⟩).findFolderWithin other
          (depth + 1) child) =
      if workspace.isNamed child other then some child
        else workspace.findFolderWithin other depth child := by
    intro child member
    rw [isNamed_pushContainer _ _ (lt_of_mem_childFolders member), below child member]
  have earlierTogether := congrArg (List.findSome? id) (List.map_congr_left earlier)
  rw [List.findSome?_map, List.findSome?_map] at earlierTogether
  rw [findFolderWithin, childFolders_pushFolder, List.findSome?_append]
  refine (congrArg (Option.or · _) earlierTogether).trans (congrArg (Option.or _) ?_)
  by_cases direct : parent = root
  · by_cases named : name = other
    · simp [direct, named, isNamed_new]
    · simp [direct, named, isNamed_new, findFolderWithin, direct ▸ rooted.childFolders_new holder_lt]
  · simp [direct]

/-- A search does not see a new folder with another name, and neither one elsewhere. -/
theorem Rooted.findFolderWithin_frame {depth : Nat}
    (enough : workspace.containers.length ≤ root + depth)
    (apart : name ≠ other ∨ ¬ workspace.Encloses root parent) :
    (workspace.pushContainer ⟨name, .folder, some parent⟩).findFolderWithin other (depth + 1) root =
      workspace.findFolderWithin other depth root := by
  induction depth generalizing root with
  | zero =>
    have differs : parent ≠ root := Nat.ne_of_lt (Nat.lt_of_lt_of_le holder_lt enough)
    have none? : workspace.childFolders root = [] := by
      refine List.eq_nil_iff_forall_not_mem.mpr fun child member => ?_
      have behind := Nat.lt_of_le_of_lt enough (rooted.parent_lt_of_mem member)
      exact absurd (lt_of_mem_childFolders member) (Nat.not_lt.mpr (Nat.le_of_lt behind))
    show ((workspace.pushContainer ⟨name, .folder, some parent⟩).childFolders root).findSome? _ = none
    rw [childFolders_pushFolder, none?, if_neg differs]
    rfl
  | succ depth inductionHypothesis =>
    rw [rooted.findFolderWithin_pushFolder holder_lt fun child member => ?_]
    · have unseen : ¬ (parent = root ∧ name = other) := by
        rintro ⟨rfl, rfl⟩
        exact apart.elim (fun differs => differs rfl) fun elsewhere => elsewhere .itself
      rw [if_neg unseen, Option.or_none]
    · refine inductionHypothesis (le_add_of_behind enough (rooted.parent_lt_of_mem member)) ?_
      exact apart.imp_right fun elsewhere encloses =>
        elsewhere ((encloses_of_mem_childFolders member).trans encloses)

/-- A search for another name goes as before. -/
theorem Rooted.findFolder?_of_ne (differs : name ≠ other) :
    (workspace.pushContainer ⟨name, .folder, some parent⟩).findFolder? root other =
      workspace.findFolder? root other := by
  have longer : (workspace.pushContainer ⟨name, .folder, some parent⟩).containers.length =
      workspace.containers.length + 1 := List.length_append
  rw [findFolder?, longer]
  exact rooted.findFolderWithin_frame holder_lt (Nat.le_add_left ..) (Or.inl differs)

/-- A search in the parent of a new folder finds what it has found before, or else the new folder if
it has the name. -/
theorem Rooted.findFolder?_parent :
    (workspace.pushContainer ⟨name, .folder, some parent⟩).findFolder? parent other =
      (workspace.findFolder? parent other).or
        (if name = other then some workspace.containers.length else none) := by
  have longer : (workspace.pushContainer ⟨name, .folder, some parent⟩).containers.length =
      workspace.containers.length + 1 := List.length_append
  obtain ⟨depth, depth_eq⟩ := Nat.exists_eq_add_one_of_ne_zero (Nat.ne_zero_of_lt holder_lt)
  have below : ∀ child ∈ workspace.childFolders parent,
      (workspace.pushContainer ⟨name, .folder, some parent⟩).findFolderWithin other (depth + 1) child =
        workspace.findFolderWithin other depth child := by
    intro child member
    have behind := rooted.parent_lt_of_mem member
    refine rooted.findFolderWithin_frame holder_lt
      (le_add_of_behind (depth_eq ▸ Nat.le_add_left ..) behind) (Or.inr fun encloses => ?_)
    exact absurd (rooted.le_of_encloses encloses) (Nat.not_le.mpr behind)
  rw [findFolder?, longer, depth_eq, rooted.findFolderWithin_pushFolder holder_lt below, findFolder?,
    depth_eq]
  simp

/-- A search that finds the parent of a new folder still finds it, because it does not look into
what it finds. -/
theorem Rooted.findFolderWithin_inside {depth : Nat}
    (enough : workspace.containers.length ≤ root + depth)
    (known : workspace.findFolderWithin other depth root = some parent) :
    (workspace.pushContainer ⟨name, .folder, some parent⟩).findFolderWithin other (depth + 1) root =
      some parent := by
  induction depth generalizing root with
  | zero => exact nomatch known
  | succ depth inductionHypothesis =>
    obtain ⟨before, child, behind, children, here, others⟩ := List.findSome?_eq_some_iff.mp known
    have member : child ∈ workspace.childFolders root := by simp [children]
    have enoughBelow {sibling : ContainerId} (member : sibling ∈ workspace.childFolders root) :
        workspace.containers.length ≤ sibling + depth :=
      le_add_of_behind enough (rooted.parent_lt_of_mem member)
    have encloses : workspace.Encloses child parent := by
      by_cases named : workspace.isNamed child other = true
      · rw [if_pos named] at here
        exact Option.some.inj here ▸ .itself
      · rw [if_neg named] at here
        obtain ⟨_, below, memberBelow, enclosesBelow⟩ := findFolderWithin_sound here
        exact (encloses_of_mem_childFolders memberBelow).trans enclosesBelow
    rw [findFolderWithin, childFolders_pushFolder, children, List.append_assoc]
    refine List.findSome?_eq_some_iff.mpr ⟨before, child, _, rfl, ?_, fun sibling earlier => ?_⟩
    · rw [isNamed_pushContainer _ _ (lt_of_mem_childFolders member)]
      by_cases named : workspace.isNamed child other = true
      · rwa [if_pos named] at here ⊢
      · rw [if_neg named] at here ⊢
        exact inductionHypothesis (enoughBelow member) here
    · have memberSibling : sibling ∈ workspace.childFolders root := by simp [children, earlier]
      have unseen := others sibling earlier
      have elsewhere : ¬ workspace.Encloses sibling parent := fun enclosesToo => by
        obtain rfl := rooted.eq_of_siblings memberSibling member enclosesToo encloses
        exact nomatch unseen.symm.trans here
      rw [isNamed_pushContainer _ _ (lt_of_mem_childFolders memberSibling),
        rooted.findFolderWithin_frame holder_lt (enoughBelow memberSibling) (Or.inr elsewhere)]
      exact unseen

/-- A search that ends at a container does so still when a folder is created there, whatever its name,
because it does not look into what it finds. -/
theorem Rooted.findFolder?_inside (known : workspace.findFolder? root other = some parent) :
    (workspace.pushContainer ⟨name, .folder, some parent⟩).findFolder? root other = some parent := by
  have longer : (workspace.pushContainer ⟨name, .folder, some parent⟩).containers.length =
      workspace.containers.length + 1 := List.length_append
  rw [findFolder?, longer]
  exact rooted.findFolderWithin_inside holder_lt (Nat.le_add_left ..) known

/-- A search that had no result finds a new folder with the name. -/
theorem Rooted.findFolder?_new (encloses : workspace.Encloses root parent)
    (absent : workspace.findFolder? root name = none) :
    (workspace.pushContainer ⟨name, .folder, some parent⟩).findFolder? root name =
      some workspace.containers.length := by
  have rootedThen : (workspace.pushContainer ⟨name, .folder, some parent⟩).Rooted :=
    rooted.pushContainer (.folder holder_lt)
  have isNew : (workspace.pushContainer ⟨name, .folder, some parent⟩).isNamed
      workspace.containers.length name = (name == name) := isNamed_new ..
  have below : (workspace.pushContainer ⟨name, .folder, some parent⟩).Encloses root
      workspace.containers.length :=
    .inside (stored_pushContainer ..) (Container.isFolderIn_parent ..)
      (encloses.mono (containers_pushContainer ..))
  have behind := Nat.lt_of_le_of_lt (rooted.le_of_encloses encloses) holder_lt
  obtain ⟨found, known⟩ := rootedThen.exists_findFolder? below (Nat.ne_of_gt behind)
    (isNew.trans (beq_self_eq_true name))
  obtain ⟨named, child, member, enclosesFound⟩ := findFolderWithin_sound known
  by_cases inside : found < workspace.containers.length
  · have wasNamed := (isNamed_pushContainer _ _ inside).symm.trans named
    have wasBelow := rooted.encloses_back
      ((encloses_of_mem_childFolders member).trans enclosesFound) inside
    have differs : found ≠ root := Nat.ne_of_gt (Nat.lt_of_lt_of_le
      (rootedThen.parent_lt_of_mem member) (rootedThen.le_of_encloses enclosesFound))
    obtain ⟨other, wasKnown⟩ := rooted.exists_findFolder? wasBelow differs wasNamed
    exact nomatch absent.symm.trans wasKnown
  · obtain ⟨_, stored, _⟩ := isNamed_iff.mp named
    have bound := lt_of_getElem?_eq_some stored
    have longer : (workspace.pushContainer ⟨name, .folder, some parent⟩).containers.length =
      workspace.containers.length + 1 := List.length_append
    rw [known, Nat.eq_of_lt_succ_of_not_lt (longer ▸ bound) inside]

end

/-- Documents do not matter for what lies in what. -/
theorem encloses_pushDocument {holder : ContainerId} {body : DocumentBody} :
    (workspace.pushDocument holder body).Encloses outer inner ↔ workspace.Encloses outer inner := by
  have same : (workspace.pushDocument holder body).containers = workspace.containers := rfl
  exact ⟨Encloses.mono (same ▸ List.prefix_rfl), Encloses.mono (same ▸ List.prefix_rfl)⟩

/-- Documents do not matter for a search. -/
theorem findFolder?_pushDocument (workspace : Workspace) (holder root : ContainerId)
    (body : DocumentBody) (name : String) :
    (workspace.pushDocument holder body).findFolder? root name = workspace.findFolder? root name := by
  suffices within : ∀ depth root,
      (workspace.pushDocument holder body).findFolderWithin name depth root =
        workspace.findFolderWithin name depth root from within _ root
  intro depth
  induction depth with
  | zero => exact fun _ => rfl
  | succ depth inductionHypothesis =>
    intro root
    simp only [findFolderWithin, inductionHypothesis]
    rfl

end FlowModel.Workspace
