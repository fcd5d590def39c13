import FlowModel.Proofs.Workspace.Labels
import FlowModel.Proofs.Workspace.Names

/-!
# Bearers of a name

Several documents may bear one qualified name, and a lookup need not find any of them: it splits
the name at the first dot and looks only in the first module with the name that stands there. So it
finds a bearer exactly when one is addressed, which means that the name of its module has no dot and
that no earlier module has that name (`exists_find?_iff`). When the names of modules are apart, all
documents are addressed, and the lookup misses no bearer (`ModulesApart.exists_find?_iff`).
-/

namespace FlowModel.Workspace

variable {workspace before after : Workspace} {kind : DocumentKind} {qualified : String}
  {id : DocumentId}

/-- A document of a kind has a qualified name. -/
structure Bears (workspace : Workspace) (kind : DocumentKind) (qualified : String)
    (id : DocumentId) : Prop where
  ofKind : ∃ found, workspace.documents[id]? = some found ∧ found.kind = kind
  named : workspace.qualifiedName id = .ok qualified

/-- The module of a document has a name without dots and is the first one with that name. -/
def IsAddressed (workspace : Workspace) (id : DocumentId) : Prop :=
  ∃ (found : Document) (owner : ContainerId) (module : Container),
    workspace.documents[id]? = some found ∧ workspace.moduleOf found.container = .ok owner ∧
      workspace.containers[owner]? = some module ∧ '.' ∉ module.name.toList ∧
        workspace.moduleNamed? module.name = some owner

/-- What is found by a name bears it and is addressed. -/
theorem bears_of_find? (found? : workspace.find? kind qualified = some id) :
    workspace.Bears kind qualified id ∧ workspace.IsAddressed id := by
  obtain ⟨moduleName, owner, found, split, named, stored, kind_eq, located⟩ := find?_eq_some found?
  obtain ⟨module, storedOwner, _, rfl⟩ := moduleNamed?_eq_some named
  refine ⟨⟨⟨found, stored, kind_eq⟩, ?_⟩, found, owner, module, stored, located, storedOwner,
    QualifiedName.undotted_of_split? split, named⟩
  rw [qualifiedName_eq_of_moduleOf stored located storedOwner,
    QualifiedName.qualified_of_split? split]

/-- A lookup that begins where a document lies finds something. -/
theorem exists_find?_of_bears (bears : workspace.Bears kind qualified id)
    (addressed : workspace.IsAddressed id) :
    ∃ first, workspace.find? kind qualified = some first := by
  obtain ⟨found, owner, module, stored, located, storedOwner, undotted, named⟩ := addressed
  obtain ⟨found', stored', kind_eq⟩ := bears.ofKind
  obtain rfl := Option.some.inj (stored.symm.trans stored')
  have qualified_eq := qualifiedName_eq_of_moduleOf stored located storedOwner
  obtain rfl := Except.ok.inj (bears.named.symm.trans qualified_eq)
  rw [find?_of_split? (QualifiedName.split?_qualified undotted) named]
  have isNamed : workspace.isNamedIn kind found.name owner found = true := by
    simp [isNamedIn, kind_eq, liesIn, located]
  refine Option.isSome_iff_exists.mp (List.findIdx?_isSome.trans ?_)
  exact List.any_eq_true.mpr ⟨found, List.mem_of_getElem? stored, isNamed⟩

/-- A lookup succeeds exactly when a bearer of the name is addressed. -/
theorem exists_find?_iff :
    (∃ first, workspace.find? kind qualified = some first) ↔
      ∃ id, workspace.Bears kind qualified id ∧ workspace.IsAddressed id :=
  ⟨fun ⟨first, found⟩ => ⟨first, bears_of_find? found⟩,
    fun ⟨_, bears, addressed⟩ => exists_find?_of_bears bears addressed⟩

/-- A bearer stays one where labels are kept. -/
theorem Keeps.bears (keeps : before.Keeps after) (bears : before.Bears kind qualified id) :
    after.Bears kind qualified id where
  ofKind := by
    obtain ⟨found, stored, kind_eq⟩ := bears.ofKind
    obtain ⟨later, storedLater, label_eq⟩ := keeps.documents id found stored
    exact ⟨later, storedLater, (Document.label_eq_iff.mp label_eq).2.1.trans kind_eq⟩
  named := keeps.qualifiedName bears.named

/-- A document that was there has always borne its name. -/
theorem Keeps.bears_back (keeps : before.Keeps after) (rooted : before.Rooted)
    (inside : id < before.documents.length) (bears : after.Bears kind qualified id) :
    before.Bears kind qualified id where
  ofKind := by
    obtain ⟨later, storedLater, kind_eq⟩ := bears.ofKind
    have stored := List.getElem?_eq_getElem inside
    obtain ⟨later', storedLater', label_eq⟩ := keeps.documents id _ stored
    obtain rfl := Option.some.inj (storedLater.symm.trans storedLater')
    exact ⟨_, stored, (Document.label_eq_iff.mp label_eq).2.1.symm.trans kind_eq⟩
  named := by
    obtain ⟨name, known⟩ := rooted.qualifiedName_of_lt inside
    rw [known, Except.ok.inj ((keeps.qualifiedName known).symm.trans bears.named)]

/-- Workspaces with the same labels keep each other's. -/
theorem keeps_of_unloadAll_eq (same : after.unloadAll = before.unloadAll) : before.Keeps after :=
  before.keeps_unloadAll.trans (same ▸ after.unloadAll_within.keeps)

/-! ## Names of modules that are apart -/

/-- No name of a module has a dot, and no two modules have one name. -/
structure ModulesApart (workspace : Workspace) : Prop where
  undotted : ∀ found ∈ workspace.containers, found.isModule = true → '.' ∉ found.name.toList
  distinct : workspace.containers.Pairwise fun first second =>
    first.isModule = true → second.isModule = true → first.name ≠ second.name

namespace ModulesApart

/-- Where the names of modules are apart, a name tells the module. -/
theorem eq_of_name (apart : workspace.ModulesApart) {first second : ContainerId}
    {found found' : Container} (stored : workspace.containers[first]? = some found)
    (stored' : workspace.containers[second]? = some found') (isModule : found.isModule = true)
    (isModule' : found'.isModule = true) (same : found.name = found'.name) : first = second := by
  obtain ⟨inside, rfl⟩ := List.getElem?_eq_some_iff.mp stored
  obtain ⟨inside', rfl⟩ := List.getElem?_eq_some_iff.mp stored'
  have distinct := List.pairwise_iff_getElem.mp apart.distinct
  rcases Nat.lt_trichotomy first second with before | rfl | before
  · exact absurd same (distinct first second inside inside' before isModule isModule')
  · rfl
  · exact absurd same.symm (distinct second first inside' inside before isModule' isModule)

/-- Where the names of modules are apart, looking up the name of a module gives this module. -/
theorem moduleNamed? (apart : workspace.ModulesApart) {owner : ContainerId} {module : Container}
    (stored : workspace.containers[owner]? = some module) (isModule : module.isModule = true) :
    workspace.moduleNamed? module.name = some owner := by
  have present : owner ∈ placesWhere (fun found => found.isModule && found.name == module.name)
      workspace.containers :=
    mem_placesWhere.mpr ⟨module, stored, by simp [isModule]⟩
  cases named : workspace.moduleNamed? module.name with
  | none =>
    rw [Workspace.moduleNamed?, List.head?_eq_none_iff] at named
    exact absurd (named ▸ present) List.not_mem_nil
  | some first =>
    obtain ⟨found, storedFirst, isFirst, sameName⟩ := moduleNamed?_eq_some named
    rw [apart.eq_of_name storedFirst stored isFirst isModule sameName]

/-- Where the names of modules are apart, the lookup of a document by its qualified name begins in
the module in which the document lies. -/
theorem isAddressed (apart : workspace.ModulesApart) (rooted : workspace.Rooted) {found : Document}
    (stored : workspace.documents[id]? = some found) : workspace.IsAddressed id := by
  obtain ⟨owner, module, located, storedOwner, isModule⟩ :=
    rooted.moduleOf_of_lt (rooted.holder_lt stored)
  exact ⟨found, owner, module, stored, located, storedOwner,
    apart.undotted module (List.mem_of_getElem? storedOwner) isModule,
    apart.moduleNamed? storedOwner isModule⟩

/-- A lookup succeeds exactly when some document bears the name. -/
theorem exists_find?_iff (apart : workspace.ModulesApart) (rooted : workspace.Rooted) :
    (∃ first, workspace.find? kind qualified = some first) ↔
      ∃ id, workspace.Bears kind qualified id := by
  rw [Workspace.exists_find?_iff]
  refine exists_congr fun id => and_iff_left_of_imp fun bears => ?_
  obtain ⟨found, stored, _⟩ := bears.ofKind
  exact apart.isAddressed rooted stored

/-- Folders that are created do not matter. -/
theorem of_modules (apart : before.ModulesApart)
    (modules : ∀ (id : ContainerId) (found : Container), after.containers[id]? = some found →
      found.isModule = true → before.containers[id]? = some found) : after.ModulesApart where
  undotted := by
    intro found member isModule
    obtain ⟨id, inside, rfl⟩ := List.getElem_of_mem member
    have stored := modules id _ (List.getElem?_eq_getElem inside) isModule
    exact apart.undotted _ (List.mem_of_getElem? stored) isModule
  distinct := by
    refine List.pairwise_iff_getElem.mpr fun first second inside inside' earlier isFirst isSecond =>
      fun same => Nat.ne_of_lt earlier ?_
    exact apart.eq_of_name (modules first _ (List.getElem?_eq_getElem inside) isFirst)
      (modules second _ (List.getElem?_eq_getElem inside') isSecond) isFirst isSecond same

end ModulesApart

end FlowModel.Workspace
