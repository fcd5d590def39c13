import FlowModel.Proofs.Workspace.Contents

/-!
# Additions to a container

A step adds to a container when folders and documents come after those that the container holds, and
all other containers stay as they are (`Adds`). Creating a folder or a document does so, and so does
appending a folder with all that it holds. What is added to one container is then added at its address
in all that encloses it (`Adds.holds_along`).
-/

namespace FlowModel

/-- A document that is written with the container that holds it. Domain models are written with
their modules. -/
def DocumentBody.isHeld (body : DocumentBody) : Bool := body.kind != .domainModel

namespace Workspace

variable {before between after : Workspace} {holder id : ContainerId} {added held : Contents}

/-- A container holds more than before, after what it has held, and no other container that was there
holds anything else. -/
structure Adds (holder : ContainerId) (added : Contents) (before after : Workspace) : Prop where
  rooted : before.Rooted
  grows : before.Grows after
  inside : holder < before.containers.length
  others : ∀ id, id < before.containers.length → id ≠ holder → SameAt before after id
  modules : after.modules = before.modules
  folders : ∃ further, after.childFolders holder = before.childFolders holder ++ further ∧
    List.Forall₂ after.HoldsFolder further added.1
  bodies : ∀ bodies, before.bodiesIn holder = .ok bodies →
    after.bodiesIn holder = .ok (bodies ++ added.2)

/-- A container that two steps leave alone is left alone by both together. -/
theorem SameAt.trans (first : SameAt before between id) (second : SameAt between after id) :
    SameAt before after id :=
  ⟨second.folders.trans first.folders, fun bodies known => second.bodies _ (first.bodies bodies known)⟩

/-- A container that has just been created holds nothing. -/
theorem Rooted.holds_pushContainer (rooted : before.Rooted) {added : Container}
    (placed : added.Placed before.containers.length) :
    (before.pushContainer added).Holds before.containers.length ([], []) := by
  have rootedThen := rooted.pushContainer placed
  have noFolders : (before.pushContainer added).childFolders before.containers.length = [] := by
    refine List.eq_nil_iff_forall_not_mem.mpr fun child member => ?_
    have below := rootedThen.parent_lt_of_mem member
    have inside := lt_of_mem_childFolders member
    rw [Workspace.pushContainer, List.length_append] at inside
    exact absurd below (Nat.not_lt.mpr (Nat.le_of_lt_succ inside))
  have noDocuments : (before.pushContainer added).documentsHeld before.containers.length = [] := by
    refine List.filter_eq_nil_iff.mpr fun found member => ?_
    obtain ⟨id, stored⟩ := List.getElem?_of_mem member
    simp [Nat.ne_of_lt (rooted.holder_lt stored)]
  refine holds_iff.mpr ⟨bodiesIn_eq_ok.mpr ?_, ?_⟩
  · rw [noDocuments]
    rfl
  · rw [noFolders]
    exact .nil

/-- A folder created in a container is the last of its folders. -/
theorem childFolders_pushContainer (workspace : Workspace) (name : String) (holder : ContainerId) :
    (workspace.pushContainer ⟨name, .folder, some holder⟩).childFolders holder =
      workspace.childFolders holder ++ [workspace.containers.length] := by
  rw [childFolders, pushContainer, placesWhere_concat]
  simp [childFolders]

/-- A document created in a container is the last of those held there, unless it is a domain model,
which is written with its module. Elsewhere nothing is held in addition. -/
theorem documentsHeld_pushDocument (workspace : Workspace) (holder : ContainerId)
    (body : DocumentBody) (id : ContainerId) :
    (workspace.pushDocument holder body).documentsHeld id =
      workspace.documentsHeld id ++
        if holder = id ∧ body.isHeld then [.ofBody holder body] else [] := by
  rw [documentsHeld, pushDocument, List.filter_append]
  refine congrArg _ ?_
  by_cases same : holder = id <;> cases held : body.isHeld <;>
    simp_all [Document.ofBody, DocumentBody.isHeld]

namespace Adds

/-- An addition moves no container. -/
theorem containers (adds : Adds holder added before after) :
    before.containers <+: after.containers :=
  adds.grows.isExtension.containers

/-! ## What a container holds afterwards -/

/-- Nothing changes in a container that does not enclose the one with the addition. -/
theorem sameAt (adds : Adds holder added before after) (inside : id < before.containers.length)
    (apart : ¬ before.Encloses id holder) :
    ∀ inner, before.Encloses id inner → SameAt before after inner := by
  intro inner encloses
  refine adds.others inner (encloses.lt inside) ?_
  rintro rfl
  exact apart encloses

/-- A container that does not enclose the one to which something is added is written as before. -/
theorem holds_outside (adds : Adds holder added before after)
    (inside : id < before.containers.length) (apart : ¬ before.Encloses id holder)
    (holds : before.Holds id held) : after.Holds id held :=
  holds.frame adds.containers (adds.sameAt inside apart)

/-- A folder that does not enclose the one to which something is added is written as before. -/
theorem holdsFolder_outside (adds : Adds holder added before after)
    (inside : id < before.containers.length) (apart : ¬ before.Encloses id holder) {folder : Folder}
    (holds : before.HoldsFolder id folder) : after.HoldsFolder id folder :=
  holds.frame adds.containers (adds.sameAt inside apart)

/-- A folder in the container does not enclose it. -/
theorem holdsFolder_child (adds : Adds holder added before after) {child : ContainerId}
    (member : child ∈ before.childFolders holder) {folder : Folder}
    (holds : before.HoldsFolder child folder) : after.HoldsFolder child folder := by
  refine adds.holdsFolder_outside (lt_of_mem_childFolders member) (fun encloses => ?_) holds
  exact absurd (adds.rooted.le_of_encloses encloses)
    (Nat.not_le.mpr (adds.rooted.parent_lt_of_mem member))

/-- Folders in the container stay as they are. -/
theorem holdsFolder_children (adds : Adds holder added before after) {children : List ContainerId}
    (members : ∀ child ∈ children, child ∈ before.childFolders holder) {folders : List Folder}
    (holds : List.Forall₂ before.HoldsFolder children folders) :
    List.Forall₂ after.HoldsFolder children folders :=
  forall₂_imp_of_mem holds fun child member _ => adds.holdsFolder_child (members child member)

/-- What the container has held comes first. -/
theorem holds_here (adds : Adds holder added before after) (holds : before.Holds holder held) :
    after.Holds holder (held.add added) := by
  obtain ⟨bodies, folders⟩ := holds_iff.mp holds
  obtain ⟨further, childFolders, written⟩ := adds.folders
  refine holds_iff.mpr ⟨adds.bodies _ bodies, ?_⟩
  rw [childFolders]
  exact List.rel_append (adds.holdsFolder_children (fun _ member => member) folders) written

/-- Where the way down to the container begins, the addition is at the end of the way. Of the folders
on each level only the one on the way encloses the container. -/
theorem holds_along (adds : Adds holder added before after) {way : List Nat}
    (leads : before.descend? way id = some holder) (holds : before.Holds id held) :
    after.Holds id (added.addAt way held) := by
  induction way generalizing id held with
  | nil =>
    obtain rfl := Option.some.inj leads
    exact adds.holds_here holds
  | cons place way inductionHypothesis =>
    obtain ⟨child, listed, leads⟩ := descend?_cons_eq_some.mp leads
    have member := List.mem_of_getElem? listed
    have below := adds.rooted.parent_lt_of_mem member
    have encloses := encloses_of_descend? leads
    have differs : id ≠ holder :=
      Nat.ne_of_lt (Nat.lt_of_lt_of_le below (adds.rooted.le_of_encloses encloses))
    have inside := Nat.lt_trans below (lt_of_mem_childFolders member)
    obtain ⟨bodies, folders⟩ := holds_iff.mp holds
    -- The level itself has the same folders, and only the one on the way holds anything else.
    have same := adds.others id inside differs
    refine holds_iff.mpr ⟨same.bodies _ bodies, ?_⟩
    rw [same.folders]
    refine forall₂_modify folders ?_ ?_
    · rintro found folder listed' ⟨⟨container, stored, named⟩, written⟩
      obtain rfl := Option.some.inj (listed.symm.trans listed')
      exact ⟨⟨container, getElem?_of_isPrefix adds.containers stored, named⟩,
        inductionHypothesis leads written⟩
    · intro other sibling folder elsewhere listed' written
      have member' := List.mem_of_getElem? listed'
      refine adds.holdsFolder_outside (lt_of_mem_childFolders member') (fun encloses' => ?_) written
      obtain rfl := adds.rooted.eq_of_siblings member member' encloses encloses'
      exact elsewhere (eq_of_getElem?_placesWhere listed' listed)

/-! ## Several additions -/

/-- Nothing is an addition of nothing. -/
theorem refl (wellFormed : before.WellFormed) (inside : holder < before.containers.length) :
    Adds holder ([], []) before before where
  rooted := wellFormed.toRooted
  grows := .refl wellFormed
  inside := inside
  others := fun _ _ _ => ⟨rfl, fun _ known => known⟩
  modules := rfl
  folders := ⟨[], (List.append_nil _).symm, .nil⟩
  bodies := fun bodies known => (List.append_nil bodies).symm ▸ known

/-- One addition after another to one container adds what both add, in their order. -/
theorem trans {further : Contents} (first : Adds holder added before between)
    (second : Adds holder further between after) : Adds holder (added.add further) before after where
  rooted := first.rooted
  grows := first.grows.trans second.grows
  inside := first.inside
  others := by
    intro id inside differs
    have insideThen := Nat.lt_of_lt_of_le inside first.containers.length_le
    exact (first.others id inside differs).trans (second.others id insideThen differs)
  modules := second.modules.trans first.modules
  folders := by
    obtain ⟨early, childFolders, written⟩ := first.folders
    obtain ⟨late, childFolders', written'⟩ := second.folders
    refine ⟨early ++ late, by rw [childFolders', childFolders, List.append_assoc], ?_⟩
    have members : ∀ child ∈ early, child ∈ between.childFolders holder := fun child member =>
      childFolders ▸ List.mem_append_right _ member
    exact List.rel_append (second.holdsFolder_children members written) written'
  bodies := by
    intro bodies known
    have both := second.bodies _ (first.bodies bodies known)
    rwa [List.append_assoc] at both

/-! ## One folder or document -/

/-- A created folder is an addition of an empty folder. No other container gets a folder by it,
since the new one names its parent. -/
theorem pushContainer (wellFormed : before.WellFormed) (inside : holder < before.containers.length)
    (name : String) :
    Adds holder ([⟨name, [], []⟩], []) before (before.pushContainer ⟨name, .folder, some holder⟩) where
  rooted := wellFormed.toRooted
  grows := .pushContainer wellFormed (.folder inside)
  inside := inside
  others := by
    intro id _ differs
    refine ⟨?_, fun _ known => known⟩
    rw [childFolders, Workspace.pushContainer, placesWhere_concat]
    simp [childFolders, differs.symm]
  modules := by
    rw [Workspace.modules, Workspace.pushContainer, placesWhere_concat]
    simp [Workspace.modules, Container.isModule]
  folders := by
    have stored := stored_pushContainer before ⟨name, .folder, some holder⟩
    refine ⟨[before.containers.length], ?_, .cons ⟨⟨_, stored, rfl⟩, ?_⟩ .nil⟩
    · exact childFolders_pushContainer ..
    · exact wellFormed.toRooted.holds_pushContainer (.folder inside)
  bodies := fun bodies known => (List.append_nil bodies).symm ▸ known

/-- What is then added to the new folder is added with it. -/
theorem into {name : String} {further : Contents} (wellFormed : before.WellFormed)
    (inside : holder < before.containers.length)
    (second : Adds before.containers.length further
      (before.pushContainer ⟨name, .folder, some holder⟩) after) :
    Adds holder ([⟨name, further.1, further.2⟩], []) before after := by
  have first := pushContainer wellFormed inside name
  have created := stored_pushContainer before ⟨name, .folder, some holder⟩
  -- The second addition goes to another container, so it leaves this one as the first has left it.
  have differs : holder ≠ before.containers.length := Nat.ne_of_lt inside
  have insideThen := Nat.lt_of_lt_of_le inside first.containers.length_le
  have sameHolder := second.others holder insideThen differs
  constructor
  case rooted => exact first.rooted
  case grows => exact first.grows.trans second.grows
  case inside => exact inside
  case others =>
    intro id insideId other
    have stays := Nat.lt_of_lt_of_le insideId first.containers.length_le
    exact (first.others id insideId other).trans (second.others id stays (Nat.ne_of_lt insideId))
  case modules => exact second.modules.trans first.modules
  case folders =>
    obtain ⟨_, childFolders, _⟩ := first.folders
    have holds := second.holds_here (first.rooted.holds_pushContainer (.folder inside))
    refine ⟨[before.containers.length], ?_,
      .cons ⟨⟨_, getElem?_of_isPrefix second.containers created, rfl⟩, holds⟩ .nil⟩
    rw [sameHolder.folders]
    exact childFolders_pushContainer ..
  case bodies =>
    exact fun bodies known => sameHolder.bodies _ (first.bodies bodies known)

/-- A created document is an addition of itself, unless it is a domain model, which no folder is
written with. -/
theorem pushDocument (wellFormed : before.WellFormed) (inside : holder < before.containers.length)
    (body : DocumentBody) :
    Adds holder ([], [body].filter DocumentBody.isHeld) before (before.pushDocument holder body) where
  rooted := wellFormed.toRooted
  grows := .pushDocument wellFormed inside body
  inside := inside
  others := by
    intro id _ differs
    refine ⟨rfl, fun bodies known => ?_⟩
    rw [bodiesIn_eq_ok] at known ⊢
    rw [documentsHeld_pushDocument, if_neg (by simp [differs.symm]), List.append_nil, known]
  modules := rfl
  folders := ⟨[], (List.append_nil _).symm, .nil⟩
  bodies := by
    intro bodies known
    rw [bodiesIn_eq_ok] at known ⊢
    rw [documentsHeld_pushDocument, List.map_append, known, List.map_append]
    refine congrArg _ ?_
    cases held : body.isHeld <;> simp [held, Document.ofBody]

/-- Documents created one after another are an addition of all of them that are written. -/
theorem pushDocuments (wellFormed : before.WellFormed) (inside : holder < before.containers.length)
    (bodies : List DocumentBody) :
    Adds holder ([], bodies.filter DocumentBody.isHeld) before
      (before.pushDocuments holder bodies) := by
  induction bodies generalizing before with
  | nil => exact refl wellFormed inside
  | cons body later inductionHypothesis =>
    have first := pushDocument wellFormed inside body
    have both := first.trans (inductionHypothesis first.grows.wellFormed inside)
    rwa [Contents.add, ← List.filter_append] at both

end Adds

end Workspace

end FlowModel
