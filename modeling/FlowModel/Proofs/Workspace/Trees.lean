import FlowModel.Workspace.Snapshot

/-!
# Trees of containers

In a rooted workspace every module lies in no container, every folder in an earlier one, and every
document is held by a container of the workspace. Kinds and parents are stored apart, so that they
agree is part of the invariant (`Container.Placed`). A climb then ends at a module, so every
container has a path and every document a qualified name (`Rooted.climb_of_lt`,
`Rooted.path_of_lt`, `Rooted.qualifiedName_of_lt`). What lies in a container, however deep, lies in
the same module (`Rooted.moduleOf_of_encloses`). In a well-formed workspace every body also has the
name and the kind of its document. What creates folders and documents keeps a workspace rooted and
well-formed, and so does what changes bodies only (`WellFormed.relabel`).
-/

namespace FlowModel

/-! ## Answers and places -/

/-- A chain of answers is an answer exactly if each link gives one. Every lookup below is taken
apart with this. -/
theorem bind_eq_ok {α β : Type} {answer : Except Failure α} {next : α → Except Failure β}
    {value : β} :
    (answer >>= next) = .ok value ↔ ∃ found, answer = .ok found ∧ next found = .ok value := by
  cases answer <;> simp [bind, Except.bind]

/-- Changing an answer neither makes a failure succeed nor a success fail. -/
theorem map_eq_ok {α β : Type} {answer : Except Failure α} {change : α → β} {value : β} :
    answer.map change = .ok value ↔ ∃ found, answer = .ok found ∧ change found = value := by
  cases answer <;> simp [Except.map]

/-- The first place where a condition holds is the place at which a search for it stops. -/
theorem head?_placesWhere {α : Type} (holds : α → Bool) (members : List α) :
    (placesWhere holds members).head? = members.findIdx? holds := by
  rw [placesWhere, List.head?_map, List.head?_filter, List.findIdx?_eq_fst_find?_zipIdx]

/-- A place is listed exactly if a member that satisfies the condition is stored there; places
beyond the end are not. -/
theorem mem_placesWhere {α : Type} {holds : α → Bool} {members : List α} {place : Nat} :
    place ∈ placesWhere holds members ↔
      ∃ member, members[place]? = some member ∧ holds member = true := by
  simp [placesWhere, List.mem_zipIdx_iff_getElem?]

/-- What is stored stays at its place when members are only added behind it. -/
theorem getElem?_of_isPrefix {α : Type} {before after : List α} {place : Nat} {member : α}
    (grown : before <+: after) (stored : before[place]? = some member) :
    after[place]? = some member := by
  obtain ⟨added, rfl⟩ := grown
  obtain ⟨inside, _⟩ := List.getElem?_eq_some_iff.mp stored
  rw [List.getElem?_append_left inside, stored]

/-- Something is stored inside a list only. -/
theorem lt_of_getElem?_eq_some {α : Type} {members : List α} {place : Nat} {member : α}
    (stored : members[place]? = some member) : place < members.length :=
  (List.getElem?_eq_some_iff.mp stored).1

/-- What is at a place of a list with one more member. -/
theorem getElem?_concat_cases {α : Type} {members : List α} {added found : α} {place : Nat}
    (stored : (members ++ [added])[place]? = some found) :
    members[place]? = some found ∨ place = members.length ∧ found = added := by
  rcases Nat.lt_trichotomy place members.length with inside | rfl | outside
  · rw [List.getElem?_append_left inside] at stored
    exact Or.inl stored
  · simp at stored
    exact Or.inr ⟨rfl, stored.symm⟩
  · have bound := lt_of_getElem?_eq_some stored
    simp at bound
    omega

/-! ## Containers and documents -/

/-- The kind and the parent of a container fit its id: a module lies in no container, and a folder in
one with a smaller id. -/
inductive Container.Placed (id : ContainerId) : Container → Prop where
  | module {name : String} : Placed id ⟨name, .module, none⟩
  | folder {name : String} {parent : ContainerId} (earlier : parent < id) :
    Placed id ⟨name, .folder, some parent⟩

/-- A container lies directly in another one if both of its fields say so: a folder without a parent
lies nowhere, nor does a module that has one. -/
theorem Container.isFolderIn_iff {container : Container} {parent : ContainerId} :
    container.isFolderIn parent = true ↔
      container.kind = .folder ∧ container.parent = some parent := by
  simp [isFolderIn]

/-- A folder lies in its parent and in no other container. -/
@[simp] theorem Container.isFolderIn_folder (name : String) (parent other : ContainerId) :
    (⟨name, .folder, some parent⟩ : Container).isFolderIn other = true ↔ parent = other := by
  simp [isFolderIn]

/-- A module lies in no container. -/
@[simp] theorem Container.isFolderIn_module (name : String) (parent : ContainerId) :
    (⟨name, .module, none⟩ : Container).isFolderIn parent = false :=
  rfl

/-- A folder lies in its parent. -/
theorem Container.isFolderIn_parent (name : String) (parent : ContainerId) :
    (⟨name, .folder, some parent⟩ : Container).isFolderIn parent = true := by
  simp

/-- No container is both a module and a folder in another one. -/
theorem Container.isModule_eq_false {container : Container} {parent : ContainerId}
    (lies : container.isFolderIn parent = true) : container.isModule = false := by
  simp [isModule, (isFolderIn_iff.mp lies).1]

/-- A folder lies in one container. -/
theorem Container.isFolderIn_unique {container : Container} {first second : ContainerId}
    (inFirst : container.isFolderIn first = true) (inSecond : container.isFolderIn second = true) :
    first = second :=
  Option.some.inj ((isFolderIn_iff.mp inFirst).2.symm.trans (isFolderIn_iff.mp inSecond).2)

/-- At its place a container is a module, or a folder in an earlier container. -/
theorem Container.Placed.cases_kind {container : Container} {id : ContainerId}
    (placed : container.Placed id) :
    container.isModule = true ∧ container.parent = none ∨
      ∃ parent < id, container.isFolderIn parent = true ∧ container.parent = some parent := by
  cases placed with
  | module => exact Or.inl ⟨rfl, rfl⟩
  | folder earlier => exact Or.inr ⟨_, earlier, isFolderIn_iff.mpr ⟨rfl, rfl⟩, rfl⟩

/-- All that is known of a document whose body is missing. -/
def Document.label (document : Document) : Document := { document with body := none }

/-- A label is name, kind and place of a document, and nothing else. -/
theorem Document.label_eq_iff {first second : Document} :
    first.label = second.label ↔
      first.name = second.name ∧ first.kind = second.kind ∧ first.container = second.container := by
  simp [label]

/-- The body of a document, if it is there, has the name and the kind of the document. -/
def Document.Coherent (document : Document) : Prop :=
  ∀ body, document.body = some body → body.name = document.name ∧ body.kind = document.kind

/-- A document that is made from a body takes its name and kind from it, so they agree at first. -/
theorem Document.coherent_ofBody (holder : ContainerId) (body : DocumentBody) :
    (ofBody holder body).Coherent := by
  intro found stored
  obtain rfl : body = found := Option.some.inj stored
  exact ⟨rfl, rfl⟩

namespace Workspace

/-- Modules lie in no container, folders in earlier ones, and documents in containers of the
workspace. -/
structure Rooted (workspace : Workspace) : Prop where
  placed : ∀ {id : ContainerId} {found : Container},
    workspace.containers[id]? = some found → found.Placed id
  holder_lt : ∀ {id : DocumentId} {found : Document},
    workspace.documents[id]? = some found → found.container < workspace.containers.length

/-- A rooted workspace whose bodies are coherent with their documents. -/
structure WellFormed (workspace : Workspace) : Prop extends workspace.Rooted where
  coherent : ∀ {id : DocumentId} {found : Document},
    workspace.documents[id]? = some found → found.Coherent

/-- Every document has its body. -/
def AllLoaded (workspace : Workspace) : Prop :=
  ∀ (id : DocumentId) (found : Document), workspace.documents[id]? = some found →
    found.body.isSome = true

variable {workspace : Workspace} {id owner : ContainerId}

/-! ## Looking up -/

/-- Looking up a container succeeds exactly for the ids that are in use. -/
theorem container_eq_ok {found : Container} :
    workspace.container id = .ok found ↔ workspace.containers[id]? = some found := by
  rw [container]
  cases workspace.containers[id]? <;> simp

/-- Looking up a document succeeds exactly for the ids that are in use. -/
theorem document_eq_ok {id : DocumentId} {found : Document} :
    workspace.document id = .ok found ↔ workspace.documents[id]? = some found := by
  rw [document]
  cases workspace.documents[id]? <;> simp

/-- A new container gets the id that was the number of containers before. -/
theorem stored_pushContainer (workspace : Workspace) (added : Container) :
    (workspace.pushContainer added).containers[workspace.containers.length]? = some added := by
  simp [pushContainer]

/-- A new container moves none of the others. -/
theorem containers_pushContainer (workspace : Workspace) (added : Container) :
    workspace.containers <+: (workspace.pushContainer added).containers :=
  List.prefix_append ..

/-- A new document gets the id that was the number of documents before, and is loaded. -/
theorem stored_pushDocument (workspace : Workspace) (holder : ContainerId) (body : DocumentBody) :
    (workspace.pushDocument holder body).documents[workspace.documents.length]? =
      some (.ofBody holder body) := by
  simp [pushDocument]

/-- A climb has arrived at a module, whatever its parent. -/
theorem climb_of_isModule {found : Container} (stored : workspace.containers[id]? = some found)
    (isModule : found.isModule = true) (atMost : Nat) :
    workspace.climb (atMost + 1) id = .ok id := by
  have kind : found.kind = .module := by simpa [Container.isModule] using isModule
  rw [climb, container_eq_ok.mpr stored]
  simp only [bind, Except.bind, kind]
  rfl

/-- A climb goes on from a folder to the container in which it lies. -/
theorem climb_of_isFolderIn {found : Container} {parent : ContainerId}
    (stored : workspace.containers[id]? = some found) (lies : found.isFolderIn parent = true)
    (atMost : Nat) : workspace.climb (atMost + 1) id = workspace.climb atMost parent := by
  obtain ⟨kind, parentOf⟩ := Container.isFolderIn_iff.mp lies
  rw [climb, container_eq_ok.mpr stored]
  simp only [bind, Except.bind, kind, parentOf]

/-- A climb that arrives is at a module, or goes on from a folder. -/
theorem climb_succ_eq_ok {atMost : Nat} (climbed : workspace.climb (atMost + 1) id = .ok owner) :
    ∃ found, workspace.containers[id]? = some found ∧
      (found.isModule = true ∧ owner = id ∨
        ∃ parent, found.isFolderIn parent = true ∧ workspace.climb atMost parent = .ok owner) := by
  obtain ⟨found, stored, rest⟩ := bind_eq_ok.mp climbed
  refine ⟨found, container_eq_ok.mp stored, ?_⟩
  cases kind : found.kind with
  | module =>
    rw [kind] at rest
    exact Or.inl ⟨by simp [Container.isModule, kind], (Except.ok.inj rest).symm⟩
  | folder =>
    cases parentOf : found.parent with
    | none =>
      rw [kind, parentOf] at rest
      exact nomatch rest
    | some parent =>
      rw [kind, parentOf] at rest
      exact Or.inr ⟨parent, Container.isFolderIn_iff.mpr ⟨kind, parentOf⟩, rest⟩

/-- A climb that reaches a module does so with more steps and in a larger tree. -/
theorem climb_mono {outer : Workspace} (grown : workspace.containers <+: outer.containers)
    {atMost more : Nat} (enough : atMost ≤ more) (climbed : workspace.climb atMost id = .ok owner) :
    outer.climb more id = .ok owner := by
  induction atMost generalizing more id with
  | zero => exact nomatch climbed
  | succ atMost inductionHypothesis =>
    obtain ⟨more, rfl⟩ : ∃ fewer, more = fewer + 1 := ⟨more - 1, by omega⟩
    obtain ⟨found, stored, ⟨isModule, rfl⟩ | ⟨parent, lies, rest⟩⟩ := climb_succ_eq_ok climbed
    · exact climb_of_isModule (getElem?_of_isPrefix grown stored) isModule more
    · rw [climb_of_isFolderIn (getElem?_of_isPrefix grown stored) lies]
      exact inductionHypothesis (Nat.le_of_succ_le_succ enough) rest

/-- A path down from a module is found with more steps and in a larger tree. -/
theorem pathWithin_mono {outer : Workspace} (grown : workspace.containers <+: outer.containers)
    {atMost more : Nat} (enough : atMost ≤ more) {path : String}
    (known : workspace.pathWithin atMost id = .ok path) : outer.pathWithin more id = .ok path := by
  induction atMost generalizing more id path with
  | zero => exact nomatch known
  | succ atMost inductionHypothesis =>
    obtain ⟨more, rfl⟩ : ∃ fewer, more = fewer + 1 := ⟨more - 1, by omega⟩
    obtain ⟨found, stored, rest⟩ := bind_eq_ok.mp known
    have storedOuter := getElem?_of_isPrefix grown (container_eq_ok.mp stored)
    refine bind_eq_ok.mpr ⟨found, container_eq_ok.mpr storedOuter, ?_⟩
    cases parentOf : found.parent with
    | none => rwa [parentOf] at rest
    | some parent =>
      rw [parentOf] at rest
      obtain ⟨above, knownAbove, same⟩ := bind_eq_ok.mp rest
      exact bind_eq_ok.mpr
        ⟨above, inductionHypothesis (Nat.le_of_succ_le_succ enough) knownAbove, same⟩

/-- A climb ends at a module. -/
theorem isModule_of_climb {atMost : Nat} (climbed : workspace.climb atMost id = .ok owner) :
    ∃ found, workspace.containers[owner]? = some found ∧ found.isModule = true := by
  induction atMost generalizing id with
  | zero => exact nomatch climbed
  | succ atMost inductionHypothesis =>
    obtain ⟨found, stored, ⟨isModule, rfl⟩ | ⟨parent, _, rest⟩⟩ := climb_succ_eq_ok climbed
    · exact ⟨found, stored, isModule⟩
    · exact inductionHypothesis rest

/-- A module lies in itself. -/
theorem moduleOf_of_isModule {found : Container} (stored : workspace.containers[id]? = some found)
    (isModule : found.isModule = true) : workspace.moduleOf id = .ok id := by
  obtain ⟨before, counted⟩ : ∃ before, workspace.containers.length = before + 1 :=
    Nat.exists_eq_add_one.mpr (Nat.zero_lt_of_lt (lt_of_getElem?_eq_some stored))
  rw [moduleOf, counted, climb_of_isModule stored isModule]

/-- A climb that ends has started at a container that is there. -/
theorem lt_of_moduleOf (located : workspace.moduleOf id = .ok owner) :
    id < workspace.containers.length := by
  rw [moduleOf] at located
  cases counted : workspace.containers.length with
  | zero => exact nomatch counted ▸ located
  | succ before =>
    rw [counted] at located
    obtain ⟨found, stored, _⟩ := climb_succ_eq_ok located
    exact counted ▸ lt_of_getElem?_eq_some stored

/-- The name of the module of a container is that of the container at which the climb ends. -/
theorem moduleName_eq_of_moduleOf {found : Container} (located : workspace.moduleOf id = .ok owner)
    (stored : workspace.containers[owner]? = some found) :
    workspace.moduleName id = .ok found.name := by
  rw [moduleName, located]
  show (workspace.container owner >>= fun found => pure found.name) = _
  rw [container_eq_ok.mpr stored]
  rfl

/-- The name of a module stays known in a larger tree. -/
theorem moduleName_mono {outer : Workspace} (grown : workspace.containers <+: outer.containers)
    {name : String} (named : workspace.moduleName id = .ok name) :
    outer.moduleName id = .ok name := by
  obtain ⟨owner, located, rest⟩ := bind_eq_ok.mp named
  obtain ⟨found, stored, same⟩ := bind_eq_ok.mp rest
  obtain rfl := Except.ok.inj same
  exact moduleName_eq_of_moduleOf (climb_mono grown grown.length_le located)
    (getElem?_of_isPrefix grown (container_eq_ok.mp stored))

/-- A qualified name is put together from the module at which the climb from the holder ends and the
name of the document, whatever folders lie between. -/
theorem qualifiedName_eq_of_moduleOf {id : DocumentId} {document : Document} {found : Container}
    (stored : workspace.documents[id]? = some document)
    (located : workspace.moduleOf document.container = .ok owner)
    (storedOwner : workspace.containers[owner]? = some found) :
    workspace.qualifiedName id = .ok (QualifiedName.qualified found.name document.name) := by
  rw [qualifiedName, document_eq_ok.mpr stored]
  show (workspace.moduleName document.container >>= fun name =>
    pure (QualifiedName.qualified name document.name)) = _
  rw [moduleName_eq_of_moduleOf located storedOwner]
  rfl

/-! ## Containers in containers -/

/-- A container lies in another one, however deep, or is that one. -/
inductive Encloses (workspace : Workspace) (outer : ContainerId) : ContainerId → Prop where
  | itself : workspace.Encloses outer outer
  | inside {id parent : ContainerId} {found : Container}
    (stored : workspace.containers[id]? = some found) (lies : found.isFolderIn parent = true)
    (above : workspace.Encloses outer parent) : workspace.Encloses outer id

namespace Encloses

variable {outer inner : ContainerId}

/-- What lies in a container inside another one lies in that one too. -/
theorem trans (first : workspace.Encloses outer inner) (second : workspace.Encloses inner id) :
    workspace.Encloses outer id := by
  induction second with
  | itself => exact first
  | inside stored lies _ inductionHypothesis => exact .inside stored lies inductionHypothesis

/-- New containers take nothing out of the containers in which it lies. -/
theorem mono {larger : Workspace} (grown : workspace.containers <+: larger.containers)
    (encloses : workspace.Encloses outer id) : larger.Encloses outer id := by
  induction encloses with
  | itself => exact .itself
  | inside stored lies _ inductionHypothesis =>
    exact .inside (getElem?_of_isPrefix grown stored) lies inductionHypothesis

/-- Only what is there lies in a container that is there. -/
theorem lt (encloses : workspace.Encloses outer id) (inside : outer < workspace.containers.length) :
    id < workspace.containers.length := by
  cases encloses with
  | itself => exact inside
  | inside stored => exact lt_of_getElem?_eq_some stored

end Encloses

/-- A folder that is found by name directly in a container lies in it. -/
theorem encloses_of_childFolder? {parent : ContainerId} {name : String}
    (found : workspace.childFolder? parent name = some id) : workspace.Encloses parent id := by
  obtain ⟨child, stored, holds⟩ := mem_placesWhere.mp (List.mem_of_head? found)
  exact .inside stored (Bool.and_eq_true_iff.mp holds).1 .itself

/-- A folder is looked for in the container only. -/
theorem encloses_of_findFolder? {root : ContainerId} {name : String}
    (found : workspace.findFolder? root name = some id) : workspace.Encloses root id := by
  suffices within : ∀ depth root, workspace.findFolderWithin name depth root = some id →
      workspace.Encloses root id from within _ root found
  intro depth
  induction depth with
  | zero => exact fun _ found => nomatch found
  | succ depth inductionHypothesis =>
    intro root found
    obtain ⟨child, member, found⟩ := List.exists_of_findSome?_eq_some found
    obtain ⟨folder, stored, lies⟩ := mem_placesWhere.mp member
    have below : workspace.Encloses root child := .inside stored lies .itself
    by_cases named : workspace.isNamed child name = true
    · rw [if_pos named] at found
      exact Option.some.inj found ▸ below
    · rw [if_neg named] at found
      exact below.trans (inductionHypothesis child found)

namespace Rooted

/-- A folder lies in an earlier container. -/
theorem parent_lt (rooted : workspace.Rooted) {found : Container} {parent : ContainerId}
    (stored : workspace.containers[id]? = some found) (lies : found.isFolderIn parent = true) :
    parent < id := by
  obtain ⟨isModule, _⟩ | ⟨other, earlier, inOther, _⟩ := (rooted.placed stored).cases_kind
  · exact absurd (isModule.symm.trans (Container.isModule_eq_false lies)) (by decide)
  · exact Container.isFolderIn_unique inOther lies ▸ earlier

/-- Parents have smaller ids, so a climb of more steps than the id ends at a module. -/
theorem climb_of_lt (rooted : workspace.Rooted) {atMost : Nat} (enough : id < atMost)
    (inside : id < workspace.containers.length) :
    ∃ owner, workspace.climb atMost id = .ok owner := by
  induction atMost generalizing id with
  | zero => exact absurd enough (Nat.not_lt_zero id)
  | succ atMost inductionHypothesis =>
    have stored := List.getElem?_eq_getElem inside
    obtain ⟨isModule, _⟩ | ⟨parent, earlier, lies, _⟩ := (rooted.placed stored).cases_kind
    · exact ⟨id, climb_of_isModule stored isModule atMost⟩
    · rw [climb_of_isFolderIn stored lies]
      exact inductionHypothesis (Nat.lt_of_lt_of_le earlier (Nat.le_of_lt_succ enough))
        (Nat.lt_trans earlier inside)

/-- In a rooted workspace a climb from any container ends, and at a module: each step goes to a
smaller id, so there are never more steps than containers. -/
theorem moduleOf_of_lt (rooted : workspace.Rooted)
    (inside : id < workspace.containers.length) :
    ∃ owner found, workspace.moduleOf id = .ok owner ∧
      workspace.containers[owner]? = some found ∧ found.isModule = true := by
  obtain ⟨owner, climbed⟩ := rooted.climb_of_lt inside inside
  obtain ⟨found, stored, isModule⟩ := isModule_of_climb climbed
  exact ⟨owner, found, climbed, stored, isModule⟩

/-- Every container of a rooted workspace lies in a module with a name. -/
theorem moduleName_of_lt (rooted : workspace.Rooted)
    (inside : id < workspace.containers.length) :
    ∃ name, workspace.moduleName id = .ok name := by
  obtain ⟨owner, found, located, stored, _⟩ := rooted.moduleOf_of_lt inside
  exact ⟨found.name, moduleName_eq_of_moduleOf located stored⟩

/-- Every container of a rooted workspace has a path. The induction is on the climb, whose bound the
path shares. -/
theorem path_of_lt (rooted : workspace.Rooted)
    (inside : id < workspace.containers.length) : ∃ path, workspace.path id = .ok path := by
  suffices within : ∀ atMost, id < atMost → ∃ path, workspace.pathWithin atMost id = .ok path from
    within _ inside
  intro atMost enough
  induction atMost generalizing id with
  | zero => exact absurd enough (Nat.not_lt_zero id)
  | succ atMost inductionHypothesis =>
    have stored := List.getElem?_eq_getElem inside
    rw [pathWithin, container_eq_ok.mpr stored]
    obtain ⟨_, parentOf⟩ | ⟨parent, earlier, _, parentOf⟩ := (rooted.placed stored).cases_kind
    · exact ⟨_, by simp only [bind, Except.bind, parentOf]; rfl⟩
    · obtain ⟨path, above⟩ := inductionHypothesis (Nat.lt_trans earlier inside)
        (Nat.lt_of_lt_of_le earlier (Nat.le_of_lt_succ enough))
      exact ⟨path ++ "/" ++ _, by simp only [bind, Except.bind, parentOf, above]; rfl⟩

/-- Every document of a rooted workspace has a qualified name, because its holder is there and lies
in a module. -/
theorem qualifiedName_of_lt (rooted : workspace.Rooted) {id : DocumentId}
    (inside : id < workspace.documents.length) : ∃ name, workspace.qualifiedName id = .ok name := by
  have stored := List.getElem?_eq_getElem inside
  obtain ⟨owner, found, located, storedOwner, _⟩ :=
    rooted.moduleOf_of_lt (rooted.holder_lt stored)
  exact ⟨_, qualifiedName_eq_of_moduleOf stored located storedOwner⟩

/-- A folder lies in the module of its parent. -/
theorem moduleOf_of_parent (rooted : workspace.Rooted) {found : Container}
    {parent : ContainerId} (stored : workspace.containers[id]? = some found)
    (lies : found.isFolderIn parent = true) (located : workspace.moduleOf parent = .ok owner) :
    workspace.moduleOf id = .ok owner := by
  have inside := lt_of_getElem?_eq_some stored
  have earlier : parent < id := rooted.parent_lt stored lies
  obtain ⟨before, counted⟩ : ∃ before, workspace.containers.length = before + 1 :=
    Nat.exists_eq_add_one.mpr (Nat.zero_lt_of_lt inside)
  -- The climb from the folder has one step less for the rest, which is still enough.
  have atMost : id < before + 1 := Nat.lt_of_lt_of_eq inside counted
  have enough : parent < before := Nat.lt_of_lt_of_le earlier (Nat.le_of_lt_succ atMost)
  obtain ⟨found', climbed⟩ := rooted.climb_of_lt enough (Nat.lt_trans earlier inside)
  have more : before ≤ workspace.containers.length := counted.symm.subst (Nat.le_succ before)
  have same := climb_mono (List.prefix_refl _) more climbed
  obtain rfl : found' = owner := Except.ok.inj (same.symm.trans located)
  rw [moduleOf, counted, climb_of_isFolderIn stored lies]
  exact climbed

/-- Everything in a container lies in its module. -/
theorem moduleOf_of_encloses (rooted : workspace.Rooted) {outer : ContainerId}
    (located : workspace.moduleOf outer = .ok owner) (encloses : workspace.Encloses outer id) :
    workspace.moduleOf id = .ok owner := by
  induction encloses with
  | itself => exact located
  | inside stored lies _ inductionHypothesis =>
    exact rooted.moduleOf_of_parent stored lies inductionHypothesis

/-! ## Creating folders and documents -/

/-- A container whose kind and parent fit the next id keeps a workspace rooted; this is all that a
new folder or module has to bring along. -/
theorem pushContainer (rooted : workspace.Rooted) {added : Container}
    (placed : added.Placed workspace.containers.length) :
    (workspace.pushContainer added).Rooted where
  placed := by
    intro id found stored
    rcases getElem?_concat_cases stored with earlier | ⟨rfl, rfl⟩
    · exact rooted.placed earlier
    · exact placed
  holder_lt := by
    intro id found stored
    have inside : found.container < workspace.containers.length := rooted.holder_lt stored
    rw [Workspace.pushContainer, List.length_append]
    exact Nat.lt_add_right 1 inside

/-- A document in a container that is there keeps a workspace rooted. -/
theorem pushDocument (rooted : workspace.Rooted) {holder : ContainerId}
    (inside : holder < workspace.containers.length) (body : DocumentBody) :
    (workspace.pushDocument holder body).Rooted where
  placed := rooted.placed
  holder_lt := by
    intro id found stored
    rcases getElem?_concat_cases stored with earlier | ⟨rfl, rfl⟩
    · exact rooted.holder_lt earlier
    · exact inside

/-- Only containers and places of documents matter. -/
theorem relocate (rooted : workspace.Rooted) {after : Workspace}
    (containers : after.containers = workspace.containers)
    (origin : ∀ {id : DocumentId} {later : Document}, after.documents[id]? = some later →
      ∃ found, workspace.documents[id]? = some found ∧ later.container = found.container) :
    after.Rooted where
  placed := by
    rw [containers]
    exact rooted.placed
  holder_lt := by
    intro id later stored
    obtain ⟨found, storedFound, container_eq⟩ := origin stored
    rw [containers, container_eq]
    exact rooted.holder_lt storedFound

end Rooted

namespace WellFormed

/-- New containers do not touch bodies, so a well-formed workspace stays so. -/
theorem pushContainer (wellFormed : workspace.WellFormed) {added : Container}
    (placed : added.Placed workspace.containers.length) :
    (workspace.pushContainer added).WellFormed where
  toRooted := wellFormed.toRooted.pushContainer placed
  coherent := wellFormed.coherent

/-- A new document is made from its body, so a well-formed workspace stays so. -/
theorem pushDocument (wellFormed : workspace.WellFormed) {holder : ContainerId}
    (inside : holder < workspace.containers.length) (body : DocumentBody) :
    (workspace.pushDocument holder body).WellFormed where
  toRooted := wellFormed.toRooted.pushDocument inside body
  coherent := by
    intro id found stored
    rcases getElem?_concat_cases stored with earlier | ⟨rfl, rfl⟩
    · exact wellFormed.coherent earlier
    · exact Document.coherent_ofBody holder body

/-- With the same containers and labels, only the bodies need to be looked at. -/
theorem relabel (wellFormed : workspace.WellFormed) {after : Workspace}
    (containers : after.containers = workspace.containers)
    (origin : ∀ {id : DocumentId} {later : Document}, after.documents[id]? = some later →
      ∃ found, workspace.documents[id]? = some found ∧ later.label = found.label ∧
        later.Coherent) :
    after.WellFormed where
  toRooted := by
    refine wellFormed.toRooted.relocate containers fun stored => ?_
    obtain ⟨found, storedFound, label_eq, _⟩ := origin stored
    exact ⟨found, storedFound, (Document.label_eq_iff.mp label_eq).2.2⟩
  coherent := by
    intro id later stored
    obtain ⟨_, _, _, coherent⟩ := origin stored
    exact coherent

/-- Without bodies there is nothing that could disagree with the documents. -/
theorem unloadAll (wellFormed : workspace.WellFormed) : workspace.unloadAll.WellFormed := by
  refine wellFormed.relabel rfl fun stored => ?_
  obtain ⟨found, storedFound, rfl⟩ := Option.map_eq_some_iff.mp (List.getElem?_map ▸ stored)
  exact ⟨found, storedFound, rfl, nofun⟩

end WellFormed

end Workspace

end FlowModel
