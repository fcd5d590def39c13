import FlowModel.Proofs.Drawing.PageLoggingPlan
import FlowModel.Proofs.Drawing.ValidationShape

/-!
# Variables of drawn microflows

Parameters, created variables and the outputs of called actions introduce variables; other nodes
use them. Their names come from independent places: the name of an entity, its qualified name,
and the settings. Drawing neither compares nor changes names, so a drawn microflow introduces
distinct variables exactly when these names are distinct. Whatever it uses it introduces. Only
the object of a check is named by what follows the first dot of a qualified name, which is the
name of the parameter when the module has none (`drawn_variables`).
-/

namespace FlowModel

/-! ## Introduced and used variables -/

/-- The variable that takes the result of an action, if there is one. -/
def Action.introduced? : Action → Option String
  | .createVariable name _ _ => some name
  | .callJava _ output => output
  | .callMicroflow _ output => output
  | _ => none

/-- The variable that a node introduces, if it introduces one. -/
def NodeKind.introduced? : NodeKind → Option String
  | .parameter name _ => some name
  | .activity action _ => action.introduced?
  | _ => none

/-- Whether an expression is a variable of a scope. -/
def IsVariable (scope : List String) (expression : String) : Prop :=
  ∃ name ∈ scope, expression = "$" ++ name

/-- Whether a condition checks an attribute of an object. -/
def IsCheckOf (objectName attributeName condition : String) : Prop :=
  ∃ type : AttributeType, type.check? (attributeReference objectName attributeName) = some condition

/-- Whether an action uses only variables of a scope. -/
def Action.UsesOnly (scope : List String) : Action → Prop
  | .changeVariable name _ => name ∈ scope
  | .changeList list _ _ => list ∈ scope
  | .delete name => name ∈ scope
  | .logMessage _ _ _ arguments => ∀ argument ∈ arguments, IsVariable scope argument
  | .showPage _ argument? => ∀ argument ∈ argument?, IsVariable scope argument
  | .validationFeedback subject _ _ => subject ∈ scope
  | _ => True

/-- Whether a node uses only variables of a scope. A split has the name of the attribute that it
checks as its caption. An end event that returns no variable uses none. -/
def NodeKind.UsesOnly (scope : List String) : NodeKind → Prop
  | .activity action _ => action.UsesOnly scope
  | .split condition caption => ∃ name ∈ scope, IsCheckOf name caption condition
  | .endEvent value => ∀ name, value = "$" ++ name → name ∈ scope
  | _ => True

/-- Whether a node is about an attribute of an object: it checks it or shows a message at it. -/
def NodeKind.concernsAttribute : NodeKind → Bool
  | .split .. => true
  | .activity (.validationFeedback ..) _ => true
  | _ => false

/-- The variables that a microflow introduces, in stored order. -/
def Microflow.introduced (microflow : Microflow) : List String :=
  (microflow.nodes.map Node.kind).filterMap NodeKind.introduced?

/-- An expression that begins otherwise is no variable. -/
theorem ne_dollar {expression : String} (otherwise : expression.toList.head? ≠ some '$')
    (name : String) : expression ≠ "$" ++ name := by
  rintro rfl
  exact otherwise (by simp [String.toList_append])

/-- A condition begins with the reference to the attribute that it checks. -/
theorem IsCheckOf.begins {objectName attributeName condition : String}
    (checks : IsCheckOf objectName attributeName condition) :
    (attributeReference objectName attributeName).toList <+: condition.toList := by
  obtain ⟨type, conditioned⟩ := checks
  cases type <;>
    simp only [AttributeType.check?, Option.some.injEq, reduceCtorEq] at conditioned
  all_goals
    subst conditioned
    simp [String.toList_append, List.append_assoc]

/-! ## Validation microflows -/

section Validation

open Draft

variable (settings : ValidationSettings) {scope : List String}

/-- Diamonds introduce no variables. -/
theorem introduced_chainNodes (qualified : String) (attributes : List Attribute) (id : NodeId) :
    ((chainNodes qualified settings id attributes).map Node.kind).filterMap
      NodeKind.introduced? = [] := by
  rw [map_kind_chainNodes, List.filterMap_flatMap]
  exact List.flatMap_eq_nil_iff.mpr fun _ _ => rfl

/-- The condition of a check names the object by the local part of the qualified name, and the
attribute as it is declared. -/
theorem isCheckOf_condition? (qualified : String) {checked : Attribute}
    (hasCheck : checked.hasCheck = true) :
    IsCheckOf (QualifiedName.localPart qualified) checked.name
      ((condition? qualified checked).getD "") := by
  obtain ⟨condition, found⟩ := exists_condition? qualified hasCheck
  rw [found]
  exact ⟨checked.type, found⟩

/-- A diamond uses the variable of the outcome, and for its attribute the local part of the
name of the entity. -/
theorem usesOnly_of_mem_checkKinds {qualified : String} {checked : Attribute}
    (hasCheck : checked.hasCheck = true) (outcome : settings.validVariable ∈ scope)
    {kind : NodeKind} (member : kind ∈ checkKinds qualified settings checked)
    (object : kind.concernsAttribute = true → QualifiedName.localPart qualified ∈ scope) :
    kind.UsesOnly scope := by
  simp only [checkKinds, List.mem_cons, List.not_mem_nil, or_false] at member
  rcases member with rfl | rfl | rfl | rfl
  · exact ⟨_, object rfl, isCheckOf_condition? qualified hasCheck⟩
  · exact outcome
  · exact object rfl
  · trivial

variable (entity : Entity) (moduleName : String)

/-- A validation microflow introduces its parameter and the variable of the outcome, however many
checks it has. -/
theorem introduced_validationPlan : (validationPlan entity moduleName settings).introduced =
    [entity.name, settings.validVariable] := by
  rw [Microflow.introduced, validationPlan_nodes, List.map_append, List.map_append,
    List.filterMap_append, List.filterMap_append, introduced_chainNodes]
  rfl

/-- What a validation microflow uses is in scope if the outcome is and, for nodes that concern an
attribute, the local part of the qualified name. That part is not the name of the parameter if the
module has a dot in its name. -/
theorem usesOnly_validationPlan (outcome : settings.validVariable ∈ scope) :
    ∀ node ∈ (validationPlan entity moduleName settings).nodes,
      (node.kind.concernsAttribute = true →
        QualifiedName.localPart (QualifiedName.qualified moduleName entity.name) ∈ scope) →
      node.kind.UsesOnly scope := by
  intro node member object
  rw [validationPlan_nodes] at member
  rcases List.mem_append.mp member with before | final
  · rcases List.mem_append.mp before with inHead | inChain
    · simp only [validationHead, List.mem_cons, List.not_mem_nil, or_false] at inHead
      rcases inHead with rfl | rfl | rfl
      · trivial
      · trivial
      · trivial
    · have kindIn := List.mem_map_of_mem (f := Node.kind) inChain
      rw [map_kind_chainNodes] at kindIn
      obtain ⟨checked, isChecked, inDiamond⟩ := List.mem_flatMap.mp kindIn
      exact usesOnly_of_mem_checkKinds settings (List.mem_filter.mp isChecked).2 outcome inDiamond
        object
  · rw [List.mem_singleton.mp final]
    intro name same
    exact (String.append_right_inj "$").mp same ▸ outcome

end Validation

/-! ## Logging microflows -/

section PageLogging

variable (page : String) (entity? : Option String) (settings : PageLoggingSettings)

/-- A logging microflow introduces its parameter, if it has one, and the outputs of two calls. -/
theorem introduced_pageLoggingPlan : (pageLoggingPlan page entity? settings).introduced =
    (entity?.map QualifiedName.localPart).toList ++
      [settings.addressVariable, settings.browserVariable] := by
  cases entity? with
  | none => rfl
  | some entity => rfl

/-- The arguments of the log message and of the page are variables that the microflow
introduces. -/
theorem usesOnly_pageLoggingPlan : ∀ node ∈ (pageLoggingPlan page entity? settings).nodes,
    node.kind.UsesOnly (pageLoggingPlan page entity? settings).introduced := by
  have introduced := introduced_pageLoggingPlan page entity? settings
  have outputs : ∀ name ∈ [settings.addressVariable, settings.browserVariable],
      name ∈ (pageLoggingPlan page entity? settings).introduced := by
    intro name output
    rw [introduced]
    exact List.mem_append_right _ output
  have handedOn : ∀ argument ∈ pageArgument entity?,
      IsVariable (pageLoggingPlan page entity? settings).introduced argument := by
    intro argument handed
    obtain ⟨entity, rfl, rfl⟩ := Option.map_eq_some_iff.mp handed
    exact ⟨_, by rw [introduced]; exact List.mem_append_left _ (List.mem_singleton.mpr rfl), rfl⟩
  intro node member
  rw [pageLoggingPlan_nodes] at member
  rcases List.mem_append.mp member with isParameter | inLine
  · obtain ⟨entity, _, rfl⟩ := List.mem_map.mp isParameter
    trivial
  · simp only [pageLoggingLine, List.mem_cons, List.not_mem_nil, or_false] at inLine
    rcases inLine with rfl | rfl | rfl | rfl | rfl | rfl
    · trivial
    · trivial
    · trivial
    · intro argument logged
      obtain ⟨name, output, rfl⟩ : ∃ name ∈ [settings.addressVariable, settings.browserVariable],
          "$" ++ name = argument := List.mem_map.mp logged
      exact ⟨name, outputs name output, rfl⟩
    · exact handedOn
    · intro name same
      exact absurd same (ne_dollar (by decide) name)

end PageLogging

/-- Drawn microflows introduce the names they are given, and hence no name twice exactly when these
are distinct. A logging microflow uses only what it introduces. So does a validation microflow,
though its checks and messages name their object as the parameter is named only if the name of
the module has no dot. -/
theorem drawn_variables :
    (∀ {entity : Entity} {moduleName : String} {settings : ValidationSettings}
        {microflow : Microflow} {leftOut : List UncheckedAttribute},
      validationMicroflow? entity moduleName settings = some (microflow, leftOut) →
      microflow.introduced = [entity.name, settings.validVariable] ∧
      (microflow.introduced.Nodup ↔ entity.name ≠ settings.validVariable) ∧
      ∀ node ∈ microflow.nodes,
        (node.kind.concernsAttribute = true → '.' ∉ moduleName.toList) →
        node.kind.UsesOnly microflow.introduced) ∧
    ∀ (page : String) (entity? : Option String) (settings : PageLoggingSettings),
      ∃ microflow, pageLoggingMicroflow? page entity? settings = some microflow ∧
        microflow.introduced = (entity?.map QualifiedName.localPart).toList ++
          [settings.addressVariable, settings.browserVariable] ∧
        (microflow.introduced.Nodup ↔
          settings.addressVariable ≠ settings.browserVariable ∧
            ∀ entity ∈ entity?, QualifiedName.localPart entity ≠ settings.addressVariable ∧
              QualifiedName.localPart entity ≠ settings.browserVariable) ∧
        ∀ node ∈ microflow.nodes, node.kind.UsesOnly microflow.introduced := by
  constructor
  · intro entity moduleName settings microflow leftOut drawn
    obtain ⟨_, rfl, _⟩ := validationMicroflow?_eq_some.mp drawn
    have introduced := introduced_validationPlan settings entity moduleName
    refine ⟨introduced, ?_, ?_⟩
    · rw [introduced]
      simp
    · rw [introduced]
      intro node member undotted
      apply usesOnly_validationPlan settings entity moduleName _ node member
      · intro object
        rw [QualifiedName.localPart_qualified (undotted object)]
        exact List.mem_cons_self
      · exact List.mem_cons_of_mem _ (List.mem_singleton.mpr rfl)
  · intro page entity? settings
    have introduced := introduced_pageLoggingPlan page entity? settings
    refine ⟨_, pageLoggingMicroflow?_eq page entity? settings, introduced, ?_,
      usesOnly_pageLoggingPlan page entity? settings⟩
    rw [introduced]
    cases entity? with
    | none => simp
    | some entity => simp [and_comm]

/-- Whatever the validation of an order uses, it introduces, and no two names are the same. -/
theorem drawn_variables_order : validationMicroflow? .order "Shop" .standard =
      some (validationPlan .order "Shop" .standard, [⟨"Number", "AutoNumber"⟩]) ∧
    '.' ∉ "Shop".toList ∧ (validationPlan .order "Shop" .standard).introduced.Nodup ∧
    ∀ node ∈ (validationPlan .order "Shop" .standard).nodes,
      node.kind.UsesOnly ["Order", "IsValid"] := by
  have undotted : '.' ∉ "Shop".toList := by decide
  obtain ⟨introduced, distinct, closed⟩ := drawn_variables.1 validationMicroflow?_order
  rw [introduced] at closed
  exact ⟨validationMicroflow?_order, undotted, distinct.mpr (by decide),
    fun node member => closed node member fun _ => undotted⟩

/-- An entity that is named like the variable of the outcome and an entity that is named like the
variable of the address are introduced twice. In a module with a dot a check is about a variable
that is not introduced. -/
theorem drawn_variables_clash :
    (∃ microflow,
      validationMicroflow? ⟨"IsValid", [⟨"Paid", .boolean⟩]⟩ "Shop" .standard =
        some (microflow, []) ∧
      ¬ microflow.introduced.Nodup) ∧
    (∃ microflow, pageLoggingMicroflow? "Sales.Overview" (some "Sales.IPAddress") .standard =
      some microflow ∧ ¬ microflow.introduced.Nodup) ∧
    ∃ microflow,
      validationMicroflow? ⟨"Order", [⟨"Paid", .boolean⟩]⟩ "A.B" .standard =
        some (microflow, []) ∧
      ∃ split ∈ microflow.nodes, ¬ split.kind.UsesOnly microflow.introduced := by
  refine ⟨⟨_, validationMicroflow?_eq_some.mpr ⟨by decide, rfl, rfl⟩, ?_⟩,
    ⟨_, pageLoggingMicroflow?_eq _ _ _, ?_⟩,
    ⟨_, validationMicroflow?_eq_some.mpr ⟨by decide, rfl, rfl⟩, ?_⟩⟩
  · rw [introduced_validationPlan]
    decide
  · rw [introduced_pageLoggingPlan]
    decide +kernel
  · rw [introduced_validationPlan]
    rw [validationPlan_nodes]
    refine ⟨Draft.checkSplit (QualifiedName.qualified "A.B" "Order") 3 ⟨"Paid", .boolean⟩,
      List.mem_append_left _ (List.mem_append_right _ List.mem_cons_self), ?_⟩
    rintro ⟨name, known, checks⟩
    rcases List.mem_pair.mp known with rfl | rfl
    · exact absurd checks.begins (by decide +kernel)
    · exact absurd checks.begins (by decide +kernel)

end FlowModel
