/-!
# Qualified names

Documents, entities and actions are referred to by qualified names: the name of a module, a dot, and the
rest. Only the first dot separates; later dots belong to the rest. Main statements: splitting undoes qualifying
when the module's name has no dot (`split?_qualified`), and qualifying always undoes splitting
(`qualified_of_split?`), because the part before the first dot has none (`undotted_of_split?`).
-/

namespace FlowModel.QualifiedName

/-- Cut a list of characters at its first dot, which belongs to neither part. -/
def cutAtDot : List Char → Option (List Char × List Char)
  | [] => none
  | c :: rest =>
    if c = '.' then some ([], rest) else (cutAtDot rest).map fun (before, after) => (c :: before, after)

/-- The module part and the local part of a qualified name; a name without a dot has no parts. -/
def split? (name : String) : Option (String × String) :=
  (cutAtDot name.toList).map fun (before, after) => (String.ofList before, String.ofList after)

/-- The local part of a qualified name, or all of a name without a dot. -/
def localPart (name : String) : String :=
  match split? name with
  | some (_, rest) => rest
  | none => name

/-- The qualified name of something in a module. -/
def qualified (moduleName rest : String) : String := moduleName ++ "." ++ rest

/-- What has no dot is cut off whole at the dot behind it. -/
theorem cutAtDot_append {before after : List Char} (undotted : '.' ∉ before) :
    cutAtDot (before ++ '.' :: after) = some (before, after) := by
  induction before with
  | nil => simp [cutAtDot]
  | cons c rest inductionHypothesis =>
    have apart : c ≠ '.' := fun same => undotted (by simp [same])
    have later : '.' ∉ rest := fun inside => undotted (by simp [inside])
    simp [cutAtDot, apart, inductionHypothesis later]

/-- A name is split where it was put together if the name of the module has no dot. With one, the
split comes too early. -/
theorem split?_qualified {moduleName rest : String} (undotted : '.' ∉ moduleName.toList) :
    split? (qualified moduleName rest) = some (moduleName, rest) := by
  have listed : (qualified moduleName rest).toList = moduleName.toList ++ '.' :: rest.toList := by
    simp [qualified, String.toList_append]
  simp [split?, listed, cutAtDot_append undotted]

/-- Without a dot in the name of the module, the local part of a qualified name is what stands
behind it. -/
theorem localPart_qualified {moduleName rest : String} (undotted : '.' ∉ moduleName.toList) :
    localPart (qualified moduleName rest) = rest := by
  rw [localPart, split?_qualified undotted]

/-- Nothing is lost at the cut but the dot. -/
theorem append_eq_of_cutAtDot {cs before after : List Char}
    (cut : cutAtDot cs = some (before, after)) : before ++ '.' :: after = cs := by
  induction cs generalizing before with
  | nil => exact nomatch cut
  | cons c rest inductionHypothesis =>
    rw [cutAtDot] at cut
    by_cases dot : c = '.'
    · rw [if_pos dot] at cut
      obtain ⟨rfl, rfl⟩ := Prod.mk.inj (Option.some.inj cut)
      rw [dot]
      rfl
    · rw [if_neg dot] at cut
      obtain ⟨⟨before, after⟩, later, same⟩ := Option.map_eq_some_iff.mp cut
      obtain ⟨rfl, rfl⟩ := Prod.mk.inj same
      exact congrArg (c :: ·) (inductionHypothesis later)

/-- The cut is at the first dot. -/
theorem undotted_of_cutAtDot {cs before after : List Char}
    (cut : cutAtDot cs = some (before, after)) : '.' ∉ before := by
  induction cs generalizing before with
  | nil => exact nomatch cut
  | cons c rest inductionHypothesis =>
    rw [cutAtDot] at cut
    by_cases dot : c = '.'
    · rw [if_pos dot] at cut
      obtain ⟨rfl, rfl⟩ := Prod.mk.inj (Option.some.inj cut)
      exact List.not_mem_nil
    · rw [if_neg dot] at cut
      obtain ⟨⟨before, after⟩, later, same⟩ := Option.map_eq_some_iff.mp cut
      obtain ⟨rfl, rfl⟩ := Prod.mk.inj same
      simp [Ne.symm dot, inductionHypothesis later]

/-- What is split off as the name of a module has no dot. So no split gives a module with a dot in
its name. -/
theorem undotted_of_split? {name moduleName rest : String}
    (split : split? name = some (moduleName, rest)) : '.' ∉ moduleName.toList := by
  obtain ⟨⟨before, after⟩, cut, same⟩ := Option.map_eq_some_iff.mp split
  obtain ⟨rfl, rfl⟩ := Prod.mk.inj same
  simpa using undotted_of_cutAtDot cut

/-- The two parts of a name put together are the name. -/
theorem qualified_of_split? {name moduleName rest : String}
    (split : split? name = some (moduleName, rest)) : qualified moduleName rest = name := by
  obtain ⟨⟨before, after⟩, cut, same⟩ := Option.map_eq_some_iff.mp split
  obtain ⟨rfl, rfl⟩ := Prod.mk.inj same
  have joined := append_eq_of_cutAtDot cut
  apply String.toList_injective
  simp [qualified, String.toList_append, ← joined]

end FlowModel.QualifiedName
