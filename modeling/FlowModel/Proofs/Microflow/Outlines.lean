import FlowModel.Microflow.Outline
import FlowModel.Proofs.Json.Literals
import Mathlib.Data.List.Basic

/-!
# What an outline tells

Names, expressions and captions stand in an outline as they are, so different actions may be shown
by the same words. But an outline tells the ids and positions of all nodes and all that is known of
the flows, whatever is written between, if no text has a line break (`outline_tells_wiring`).

A line is read from both ends. At its beginning stand ids, which have no blank. At its end stands a
position, behind the last at sign, or two sides, behind the last opening parenthesis. A block is
found by its title, which is less indented than what stands in any block.
-/

namespace FlowModel

/-! ## Cuts -/

section Cuts

variable {α : Type} {mark : α} {before before' after after' : List α}

/-- A list is cut in one way only at the first of some marks. -/
theorem eq_of_cut_at_first (unmarked : mark ∉ before) (unmarked' : mark ∉ before')
    (same : before ++ mark :: after = before' ++ mark :: after') :
    before = before' ∧ after = after' := by
  induction before generalizing before' with
  | nil =>
    cases before' with
    | nil => exact ⟨rfl, (List.cons.inj same).2⟩
    | cons first rest => exact absurd List.mem_cons_self ((List.cons.inj same).1 ▸ unmarked')
  | cons first rest inductionHypothesis =>
    cases before' with
    | nil => exact absurd List.mem_cons_self ((List.cons.inj same).1 ▸ unmarked)
    | cons first' rest' =>
      obtain ⟨rfl, sameRest⟩ := List.cons.inj same
      obtain ⟨rfl, sameAfter⟩ := inductionHypothesis (List.not_mem_of_not_mem_cons unmarked)
        (List.not_mem_of_not_mem_cons unmarked') sameRest
      exact ⟨rfl, sameAfter⟩

/-- A list is cut in one way only at the last of some marks. -/
theorem eq_of_cut_at_last (unmarked : mark ∉ after) (unmarked' : mark ∉ after')
    (same : before ++ mark :: after = before' ++ mark :: after') :
    before = before' ∧ after = after' := by
  have reversed := congrArg List.reverse same
  simp only [List.reverse_append, List.reverse_cons, List.append_assoc,
    List.singleton_append] at reversed
  obtain ⟨sameAfter, sameBefore⟩ := eq_of_cut_at_first (mt List.mem_reverse.mp unmarked)
    (mt List.mem_reverse.mp unmarked') reversed
  exact ⟨List.reverse_inj.mp sameBefore, List.reverse_inj.mp sameAfter⟩

end Cuts

/-- What one view of the members of two lists tells, another view tells that depends on it. -/
theorem map_eq_of_factorsThrough {α β γ : Type} [Nonempty γ] {view : α → β} {detail : α → γ}
    (tells : ∀ one other, view one = view other → detail one = detail other) {ones others : List α}
    (same : ones.map view = others.map view) : ones.map detail = others.map detail := by
  obtain ⟨read, rfl⟩ := (Function.factorsThrough_iff detail).mp fun one other => tells one other
  rw [← List.map_map, ← List.map_map, same]

/-! ## Lines -/

/-- A text without line breaks. -/
def Unbroken (text : String) : Prop := '\n' ∉ text.toList

instance (text : String) : Decidable (Unbroken text) := inferInstanceAs (Decidable (¬ _))

/-- Lines, with a line break behind each. -/
def unlines (lines : List String) : List Char := lines.flatMap fun line => line.toList ++ ['\n']

/-- Texts one after another are unbroken if each of them is. -/
@[simp]
theorem unbroken_append {one other : String} :
    Unbroken (one ++ other) ↔ Unbroken one ∧ Unbroken other := by
  simp [Unbroken]

/-- Lines are written one after another. -/
theorem unlines_append (earlier later : List String) :
    unlines (earlier ++ later) = unlines earlier ++ unlines later :=
  List.flatMap_append

/-- Each line ends with a line break, the last one too. -/
theorem unlines_cons (line : String) (lines : List String) :
    unlines (line :: lines) = line.toList ++ '\n' :: unlines lines := by
  simp [unlines]

/-- Every line is written with at least one character, so only no lines are written as nothing. -/
theorem unlines_eq_nil {lines : List String} (nothing : unlines lines = []) : lines = [] := by
  cases lines with
  | nil => rfl
  | cons line rest => simp [unlines_cons] at nothing

/-- Lines without line breaks are read back. -/
theorem unlines_injective {lines lines' : List String} (unbroken : ∀ line ∈ lines, Unbroken line)
    (unbroken' : ∀ line ∈ lines', Unbroken line) (same : unlines lines = unlines lines') :
    lines = lines' := by
  induction lines generalizing lines' with
  | nil => exact (unlines_eq_nil same.symm).symm
  | cons line rest inductionHypothesis =>
    cases lines' with
    | nil => exact unlines_eq_nil same
    | cons line' rest' =>
      obtain ⟨unbrokenLine, unbrokenRest⟩ := List.forall_mem_cons.mp unbroken
      obtain ⟨unbrokenLine', unbrokenRest'⟩ := List.forall_mem_cons.mp unbroken'
      rw [unlines_cons, unlines_cons] at same
      obtain ⟨sameLine, sameRest⟩ := eq_of_cut_at_first unbrokenLine unbrokenLine' same
      rw [String.toList_inj.mp sameLine, inductionHypothesis unbrokenRest unbrokenRest' sameRest]

/-- A title on the first level, and lines on the second. -/
def blockLines (title : String) (contents : List String) : List String :=
  ("  " ++ title) :: contents.map ("    " ++ ·)

namespace IndentedText

/-- Lines in a block are indented alike, and the depth is what it was. -/
theorem toList_written_lines (text : IndentedText) (contents : List String) :
    (text.lines contents).depth = text.depth ∧
      (text.lines contents).written.toList =
        text.written.toList ++ unlines (contents.map (indentation text.depth ++ ·)) := by
  induction contents generalizing text with
  | nil => exact ⟨rfl, (List.append_nil _).symm⟩
  | cons content contents inductionHypothesis =>
    obtain ⟨sameDepth, written⟩ := inductionHypothesis (text.line content)
    refine ⟨sameDepth, written.trans ?_⟩
    rw [List.map_cons, unlines_cons]
    simp [line]

/-- Lines that are written on the first level and below it, after a signature at the margin. -/
def Writes (text : IndentedText) (lines : List String) : Prop :=
  text.depth = 1 ∧ text.written.toList = unlines lines

/-- The first line is not indented. -/
theorem writes_signature (content : String) : (empty.titled content).Writes [content] := by
  refine ⟨rfl, ?_⟩
  simp [titled, line, deeper, empty, indentation, unlines]

/-- A block adds its title and, one level deeper, its lines. -/
theorem Writes.block {text : IndentedText} {lines : List String} (writes : text.Writes lines)
    (title : String) (contents : List String) :
    (text.block title contents).Writes (lines ++ blockLines title contents) := by
  obtain ⟨depth, written⟩ := writes
  obtain ⟨sameDepth, writtenLater⟩ := (text.titled title).toList_written_lines contents
  have deep : (text.titled title).depth = 2 := congrArg (· + 1) depth
  have titled : (text.titled title).written.toList = unlines (lines ++ ["  " ++ title]) := by
    simp [IndentedText.titled, line, deeper, depth, written, indentation, unlines]
  refine ⟨congrArg (· - 1) (sameDepth.trans deep), writtenLater.trans ?_⟩
  rw [titled, deep, blockLines, ← unlines_append, List.append_assoc]
  rfl

end IndentedText

namespace Microflow

/-- The nodes that are no parameters, in stored order. -/
def others (microflow : Microflow) : List Node :=
  microflow.nodes.filter fun node => !node.isParameter

/-- The first line of an outline. -/
def signatureLine (microflow : Microflow) : String :=
  "microflow " ++ microflow.name ++ " -> " ++ microflow.returnType.text

/-- The block of the parameters, if there are any. -/
def parameterLines (microflow : Microflow) : List String :=
  if microflow.parameters.isEmpty then []
  else blockLines "parameters" (microflow.parameters.map Node.line)

/-- The lines of an outline. -/
def outlineLines (microflow : Microflow) : List String :=
  [microflow.signatureLine] ++ microflow.parameterLines ++
    blockLines "objects" (microflow.others.map Node.line) ++
      blockLines "flows" (microflow.flows.map Flow.line)

/-- The outline of a microflow is made of its lines, and of nothing else. -/
theorem toList_outline (microflow : Microflow) :
    microflow.outline.toList = unlines microflow.outlineLines := by
  have signature := IndentedText.writes_signature microflow.signatureLine
  have parameters : IndentedText.Writes
      (if microflow.parameters.isEmpty then IndentedText.empty.titled microflow.signatureLine
        else (IndentedText.empty.titled microflow.signatureLine).block "parameters"
          (microflow.parameters.map Node.line))
      ([microflow.signatureLine] ++ microflow.parameterLines) := by
    rw [parameterLines]
    split
    · exact signature
    · exact signature.block "parameters" (microflow.parameters.map Node.line)
  exact ((parameters.block "objects" _).block "flows" _).2

end Microflow

/-! ## Numbers and ids -/

/-- A number can be told from its digits. -/
theorem toDigits_injective {one other : Nat} (same : Nat.toDigits 10 one = Nat.toDigits 10 other) :
    one = other := by
  rw [← Nat.ofDigitChars_ten_toDigits (n := one), same, Nat.ofDigitChars_ten_toDigits]

/-- Among digits there is no other character. -/
theorem not_mem_toDigits {c : Char} (noDigit : c.isDigit = false) (value : Nat) :
    c ∉ Nat.toDigits 10 value := by
  intro member
  have isDigit := Nat.isDigit_of_mem_toDigits (by decide) (by decide) member
  exact nomatch isDigit.symm.trans noDigit

/-- In a written integer there are digits and a minus sign only. -/
theorem not_mem_repr {c : Char} (noDigit : c.isDigit = false) (noMinus : c ≠ '-') (value : Int) :
    c ∉ value.repr.toList := by
  cases value with
  | ofNat value => exact Json.toList_repr_ofNat value ▸ not_mem_toDigits noDigit value
  | negSucc value =>
    rw [Json.toList_repr_negSucc, List.mem_cons, not_or]
    exact ⟨noMinus, not_mem_toDigits noDigit _⟩

/-- There is no blank in an id, so the first blank of a line ends it. -/
theorem not_mem_id (id : NodeId) : ' ' ∉ '#' :: Nat.toDigits 10 id := by
  rw [List.mem_cons, not_or]
  exact ⟨by decide, not_mem_toDigits rfl id⟩

/-- A minus is no digit, so the sign is told. -/
theorem repr_injective {one other : Int} (same : one.repr.toList = other.repr.toList) :
    one = other := by
  cases one with
  | ofNat one =>
    cases other with
    | ofNat other =>
      rw [Json.toList_repr_ofNat, Json.toList_repr_ofNat] at same
      rw [toDigits_injective same]
    | negSucc other =>
      rw [Json.toList_repr_ofNat, Json.toList_repr_negSucc] at same
      exact absurd (same ▸ List.mem_cons_self) (not_mem_toDigits rfl one)
  | negSucc one =>
    cases other with
    | ofNat other =>
      rw [Json.toList_repr_ofNat, Json.toList_repr_negSucc] at same
      exact absurd (same ▸ List.mem_cons_self) (not_mem_toDigits rfl other)
    | negSucc other =>
      rw [Json.toList_repr_negSucc, Json.toList_repr_negSucc] at same
      rw [Nat.succ.inj (toDigits_injective (List.cons.inj same).2)]

/-! ## The lines of nodes -/

/-- How a position is written, character by character. -/
theorem Position.toList_text (position : Position) :
    position.text.toList =
      '(' :: position.x.repr.toList ++ ',' :: ' ' :: (position.y.repr.toList ++ [')']) := by
  simp [text]

/-- A position can be told from its text. The comma ends the first coordinate, as no number contains
one. -/
theorem Position.eq_of_text {one other : Position}
    (same : one.text.toList = other.text.toList) : one = other := by
  rw [toList_text, toList_text] at same
  have unmarked : ∀ value : Int, ',' ∉ '(' :: value.repr.toList := by
    intro value
    rw [List.mem_cons, not_or]
    exact ⟨by decide, not_mem_repr rfl (by decide) value⟩
  obtain ⟨sameX, rest⟩ := eq_of_cut_at_first (unmarked _) (unmarked _) same
  have sameY := List.append_cancel_right (List.cons.inj rest).2
  exact (Position.mk.injEq ..).mpr
    ⟨repr_injective (List.cons.inj sameX).2, repr_injective sameY⟩

/-- How a node is written, with its id first and its position last. -/
theorem Node.toList_line (node : Node) :
    node.line.toList = '#' :: Nat.toDigits 10 node.id ++ ' ' ::
      (node.kind.text.toList ++ [' '] ++ '@' :: ' ' :: node.position.text.toList) := by
  simp [line, NodeId.text]

/-- Id and position of a node can be told from its line. -/
theorem Node.eq_of_line {one other : Node} (same : one.line = other.line) :
    (one.id, one.position) = (other.id, other.position) := by
  have sameChars := congrArg String.toList same
  rw [toList_line, toList_line] at sameChars
  obtain ⟨sameId, rest⟩ := eq_of_cut_at_first (not_mem_id one.id) (not_mem_id other.id) sameChars
  have unmarked : ∀ position : Position, '@' ∉ ' ' :: position.text.toList := by
    intro position
    rw [Position.toList_text]
    simp [not_mem_repr]
  obtain ⟨_, samePosition⟩ := eq_of_cut_at_last (unmarked _) (unmarked _) rest
  exact (Prod.mk.injEq ..).mpr ⟨toDigits_injective (List.cons.inj sameId).2,
    Position.eq_of_text (List.cons.inj samePosition).2⟩

/-! ## The lines of flows -/

/-- The label of a flow as it stands in its line. -/
def labelText : Option String → List Char
  | some label => '[' :: (label.toList ++ [']', ' '])
  | none => []

/-- A label can be told from its text, and a missing one from an empty one. -/
theorem labelText_injective {one other : Option String} (same : labelText one = labelText other) :
    one = other := by
  cases one with
  | none =>
    cases other with
    | none => rfl
    | some other => exact nomatch same
  | some one =>
    cases other with
    | none => exact nomatch same
    | some other =>
      exact congrArg some (String.toList_inj.mp (List.append_cancel_right (List.cons.inj same).2))

/-- The four sides have different names. -/
theorem Side.name_injective {one other : Side} (same : one.name = other.name) : one = other := by
  cases one <;> cases other <;> simp_all [name]

/-- No side has a bracket or a blank in its name, so these can separate sides from labels. -/
theorem Side.unmarked (side : Side) : '(' ∉ side.name.toList ∧ ' ' ∉ side.name.toList := by
  cases side <;> decide

/-- How a flow is written: its ends, its label and its sides. The label may contain anything but a
line break, so it is found between what comes before it and what comes behind. -/
theorem Flow.toList_line (flow : Flow) :
    flow.line.toList = '#' :: Nat.toDigits 10 flow.origin ++ ' ' :: '-' :: '>' :: ' ' ::
      ('#' :: Nat.toDigits 10 flow.destination ++ ' ' ::
        (labelText flow.label ++ '(' :: (flow.originSide.name.toList ++ ' ' :: '-' :: '>' :: ' ' ::
          (flow.destinationSide.name.toList ++ [')'])))) := by
  cases label : flow.label <;> simp [line, NodeId.text, labelText, label]

/-- A flow can be told from its line. -/
theorem Flow.eq_of_line {one other : Flow} (same : one.line = other.line) : one = other := by
  have sameChars := congrArg String.toList same
  rw [toList_line, toList_line] at sameChars
  obtain ⟨sameOrigin, rest⟩ :=
    eq_of_cut_at_first (not_mem_id one.origin) (not_mem_id other.origin) sameChars
  simp only [List.cons.injEq, true_and] at sameOrigin rest
  obtain ⟨sameDestination, rest⟩ :=
    eq_of_cut_at_first (not_mem_id one.destination) (not_mem_id other.destination) rest
  -- A label may have parentheses, so the sides are found at the last one.
  have unmarked : ∀ side side' : Side,
      '(' ∉ side.name.toList ++ ' ' :: '-' :: '>' :: ' ' :: (side'.name.toList ++ [')']) := by
    intro side side'
    simp [side.unmarked, side'.unmarked]
  obtain ⟨sameLabel, sides⟩ := eq_of_cut_at_last (unmarked _ _) (unmarked _ _) rest
  obtain ⟨sameSide, rest⟩ :=
    eq_of_cut_at_first one.originSide.unmarked.2 other.originSide.unmarked.2 sides
  simp only [List.cons.injEq, true_and] at sameDestination rest
  exact (Flow.mk.injEq ..).mpr ⟨toDigits_injective sameOrigin, toDigits_injective sameDestination,
    Side.name_injective (String.toList_inj.mp sameSide),
    Side.name_injective (String.toList_inj.mp (List.append_cancel_right rest)),
    labelText_injective sameLabel⟩

/-! ## Texts without line breaks -/

/-- The texts of a type. -/
def DataType.texts : DataType → List String
  | .enumeration name => [name]
  | .object entity => [entity]
  | .list entity => [entity]
  | _ => []

/-- The texts of translations. -/
def TranslatedText.texts (text : TranslatedText) : List String :=
  text.translations.flatMap fun translation => [translation.language, translation.text]

/-- The texts of an action. -/
def Action.texts : Action → List String
  | .createVariable name type initial => name :: initial :: type.texts
  | .changeVariable name value => [name, value]
  | .changeList list _ value => [list, value]
  | .delete name => [name]
  | .logMessage _ logNode template arguments => logNode :: template :: arguments
  | .showPage page argument => page :: argument.toList
  | .callJava javaAction output => javaAction :: output.toList
  | .callMicroflow microflow output => microflow :: output.toList
  | .validationFeedback subject target feedback =>
    subject :: target.entity :: target.name :: feedback.texts
  | .other typeName => [typeName]

/-- The texts of a node. -/
def NodeKind.texts : NodeKind → List String
  | .startEvent => []
  | .endEvent value => [value]
  | .split condition caption => [condition, caption]
  | .merge => []
  | .parameter name type => name :: type.texts
  | .activity action _ => action.texts

/-- All texts of a microflow. -/
def Microflow.texts (microflow : Microflow) : List String :=
  microflow.name :: (microflow.returnType.texts ++ microflow.concurrencyMessage.texts ++
    microflow.nodes.flatMap (fun node => node.kind.texts) ++
    microflow.flows.flatMap fun flow => flow.label.toList)

/-- A type is written in one line if its names are. -/
theorem DataType.unbroken_text {type : DataType} (unbroken : ∀ text ∈ type.texts, Unbroken text) :
    Unbroken type.text := by
  cases type with
  | enumeration name | object name | list name =>
    have unbrokenName := unbroken name List.mem_cons_self
    simp only [text, unbroken_append, unbrokenName]
    decide
  | _ => decide

/-- A call is written in one line if its target and its output are. -/
theorem unbroken_callText {verb target : String} {output : Option String}
    (unbrokenVerb : Unbroken verb) (unbroken : ∀ text ∈ target :: output.toList, Unbroken text) :
    Unbroken (callText verb target output) := by
  cases output <;>
  · simp only [Option.toList, List.forall_mem_cons] at unbroken
    simp only [callText, unbroken_append, unbrokenVerb, unbroken]
    decide

/-- Texts with commas between them are in one line if each of them is. -/
theorem unbroken_intercalate {texts : List String} (unbroken : ∀ text ∈ texts, Unbroken text) :
    Unbroken (", ".intercalate texts) := by
  induction texts with
  | nil => decide
  | cons text later inductionHypothesis =>
    obtain ⟨unbrokenFirst, unbrokenLater⟩ := List.forall_mem_cons.mp unbroken
    by_cases last : later = []
    · rwa [last, String.intercalate_singleton]
    · rw [String.intercalate_cons_of_ne_nil last, unbroken_append, unbroken_append]
      exact ⟨⟨unbrokenFirst, by decide⟩, inductionHypothesis unbrokenLater⟩

/-- A text in one language is in one line, also if there is none in that language. -/
theorem TranslatedText.unbroken_in? {text : TranslatedText} (language : String)
    (unbroken : ∀ shown ∈ text.texts, Unbroken shown) :
    Unbroken ((text.in? language).getD "") := by
  cases found : text.in? language with
  | none => decide
  | some shown =>
    obtain ⟨translation, isFirst, rfl⟩ := Option.map_eq_some_iff.mp found
    exact unbroken _ (List.mem_flatMap.mpr
      ⟨translation, List.mem_of_find?_eq_some isFirst, by simp⟩)

/-- An action is written in one line if all its texts are. -/
theorem Action.unbroken_text {action : Action} (unbroken : ∀ text ∈ action.texts, Unbroken text) :
    Unbroken action.text := by
  cases action with
  | createVariable name type initial =>
    simp only [texts, List.forall_mem_cons] at unbroken
    show Unbroken ("create $" ++ name ++ ": " ++ type.text ++ " = " ++ initial)
    simp only [unbroken_append, unbroken, DataType.unbroken_text unbroken.2.2]
    decide
  | changeVariable name value =>
    simp only [texts, List.forall_mem_cons] at unbroken
    show Unbroken ("change $" ++ name ++ " = " ++ value)
    simp only [unbroken_append, unbroken]
    decide
  | changeList list operation value =>
    simp only [texts, List.forall_mem_cons] at unbroken
    show Unbroken ("change list $" ++ list ++ " " ++ operation.name ++ " " ++ value)
    simp only [unbroken_append, unbroken]
    cases operation <;> decide
  | delete name => exact unbroken_append.mpr ⟨by decide, unbroken name List.mem_cons_self⟩
  | logMessage level logNode template arguments =>
    simp only [texts, List.forall_mem_cons] at unbroken
    show Unbroken ("log " ++ level.name ++ " " ++ logNode ++ " '" ++ template ++ "'" ++
      if arguments.isEmpty then "" else " (" ++ ", ".intercalate arguments ++ ")")
    simp only [unbroken_append, unbroken]
    split
    · cases level <;> decide
    · simp only [unbroken_append, unbroken_intercalate unbroken.2.2]
      cases level <;> decide
  | showPage page argument =>
    cases argument with
    | none => exact unbroken_append.mpr ⟨by decide, unbroken page List.mem_cons_self⟩
    | some argument =>
      simp only [texts, Option.toList, List.forall_mem_cons] at unbroken
      show Unbroken ("show page " ++ page ++ "(" ++ argument ++ ")")
      simp only [unbroken_append, unbroken]
      decide
  | callJava javaAction output => exact unbroken_callText (by decide) unbroken
  | callMicroflow microflow output => exact unbroken_callText (by decide) unbroken
  | validationFeedback subject target feedback =>
    simp only [texts, List.forall_mem_cons] at unbroken
    show Unbroken ("feedback $" ++ subject ++ "/" ++ target.name ++ " '" ++
      (feedback.in? TranslatedText.defaultLanguage).getD "" ++ "'")
    simp only [unbroken_append, unbroken, TranslatedText.unbroken_in? _ unbroken.2.2.2]
    decide
  | other typeName => exact unbroken typeName List.mem_cons_self

/-- A kind is written in one line if all its texts are. -/
theorem NodeKind.unbroken_text {kind : NodeKind} (unbroken : ∀ text ∈ kind.texts, Unbroken text) :
    Unbroken kind.text := by
  cases kind with
  | startEvent => decide
  | endEvent value =>
    rw [text]
    split
    · decide
    · exact unbroken_append.mpr ⟨by decide, unbroken value List.mem_cons_self⟩
  | split condition caption =>
    simp only [texts, List.forall_mem_cons] at unbroken
    simp only [text, unbroken_append, unbroken]
    decide
  | merge => decide
  | parameter name type =>
    simp only [texts, List.forall_mem_cons] at unbroken
    simp only [text, unbroken_append, unbroken, DataType.unbroken_text unbroken.2]
    decide
  | activity action color =>
    simp only [text, unbroken_append, Action.unbroken_text unbroken]
    cases color <;> decide

/-- A node takes one line: numbers contain no line break. -/
theorem Node.unbroken_line {node : Node} (unbroken : ∀ text ∈ node.kind.texts, Unbroken text) :
    Unbroken node.line := by
  have unbrokenKind : '\n' ∉ node.kind.text.toList := NodeKind.unbroken_text unbroken
  rw [Unbroken, toList_line, Position.toList_text]
  simp [not_mem_toDigits, not_mem_repr, unbrokenKind]

/-- A flow takes one line if its label does. -/
theorem Flow.unbroken_line {flow : Flow} (unbroken : ∀ text ∈ flow.label.toList, Unbroken text) :
    Unbroken flow.line := by
  have unbrokenLabel : '\n' ∉ labelText flow.label := by
    cases label : flow.label with
    | none => exact List.not_mem_nil
    | some text =>
      have unbrokenText : '\n' ∉ text.toList := unbroken text (by simp [label])
      simp [labelText, unbrokenText]
  have unbrokenSide : ∀ side : Side, '\n' ∉ side.name.toList := by
    intro side
    cases side <;> decide
  rw [Unbroken, toList_line]
  simp [not_mem_toDigits, unbrokenLabel, unbrokenSide]

/-- Indenting breaks no line. -/
theorem unbroken_blockLines {title : String} {contents : List String} (unbroken : Unbroken title)
    (unbrokenContents : ∀ content ∈ contents, Unbroken content) :
    ∀ line ∈ blockLines title contents, Unbroken line := by
  rw [blockLines, List.forall_mem_cons, List.forall_mem_map]
  have indented : ∀ content, Unbroken content → Unbroken ("    " ++ content) :=
    fun content holds => unbroken_append.mpr ⟨by decide, holds⟩
  exact ⟨unbroken_append.mpr ⟨by decide, unbroken⟩,
    fun content member => indented content (unbrokenContents content member)⟩

/-- No line of an outline has a line break, if no text has one. -/
theorem Microflow.unbroken_outlineLines {microflow : Microflow}
    (unbroken : ∀ text ∈ microflow.texts, Unbroken text) :
    ∀ line ∈ microflow.outlineLines, Unbroken line := by
  simp only [texts, List.mem_cons, List.mem_append, List.mem_flatMap] at unbroken
  have unbrokenType := DataType.unbroken_text fun text member =>
    unbroken text (Or.inr (Or.inl (Or.inl (Or.inl member))))
  have signature : Unbroken microflow.signatureLine := by
    simp only [signatureLine, unbroken_append]
    exact ⟨⟨⟨by decide, unbroken _ (Or.inl rfl)⟩, by decide⟩, unbrokenType⟩
  have nodes : ∀ node ∈ microflow.nodes, Unbroken node.line := fun node stored =>
    Node.unbroken_line fun text member =>
      unbroken text (Or.inr (Or.inl (Or.inr ⟨node, stored, member⟩)))
  have flows : ∀ flow ∈ microflow.flows, Unbroken flow.line := fun flow stored =>
    Flow.unbroken_line fun text member => unbroken text (Or.inr (Or.inr ⟨flow, stored, member⟩))
  have inBlock : ∀ (title : String) (holds : Node → Bool), Unbroken title →
      ∀ line ∈ blockLines title ((microflow.nodes.filter holds).map Node.line), Unbroken line :=
    fun title holds unbrokenTitle => unbroken_blockLines unbrokenTitle
      (List.forall_mem_map.mpr fun node member => nodes node (List.mem_filter.mp member).1)
  have parameters : ∀ line ∈ microflow.parameterLines, Unbroken line := by
    rw [parameterLines]
    split
    · exact nofun
    · exact inBlock "parameters" Node.isParameter (by decide)
  intro line member
  simp only [outlineLines, List.mem_append, List.mem_singleton] at member
  rcases member with ((rfl | inParameters) | inOthers) | inFlows
  · exact signature
  · exact parameters line inParameters
  · exact inBlock "objects" _ (by decide) line inOthers
  · exact unbroken_blockLines (by decide) (List.forall_mem_map.mpr flows) line inFlows

/-! ## Blocks -/

/-- A title is not indented as far as what stands in a block. -/
theorem title_not_mem {title : String} (proper : title.toList.head? ≠ some ' ')
    (contents : List String) : "  " ++ title ∉ contents.map ("    " ++ ·) := by
  intro member
  obtain ⟨content, _, same⟩ := List.mem_map.mp member
  have sameChars : title.toList = ' ' :: ' ' :: content.toList := by
    simpa using (congrArg String.toList same).symm
  exact proper (by rw [sameChars, List.head?_cons])

/-- An indented line can be told from its text. -/
theorem indented_injective : Function.Injective (("    " : String) ++ ·) := by
  intro one other same
  have sameChars := congrArg String.toList same
  simp only [String.toList_append] at sameChars
  exact String.toList_inj.mp (List.append_cancel_left sameChars)

namespace Microflow

variable {one other : Microflow}

/-- The lines of the parameters can be told from the signature and its lines. -/
theorem map_line_of_parameterLines (same : one.parameterLines = other.parameterLines) :
    one.parameters.map Node.line = other.parameters.map Node.line := by
  rw [parameterLines, parameterLines] at same
  split at same <;> split at same
  case isTrue.isTrue nothing nothing' =>
    rw [List.isEmpty_iff.mp nothing, List.isEmpty_iff.mp nothing']
  case isTrue.isFalse => exact nomatch same
  case isFalse.isTrue => exact nomatch same
  case isFalse.isFalse =>
    exact List.map_injective_iff.mpr indented_injective (List.cons.inj same).2

/-- The blocks of an outline are found by their titles. -/
theorem map_line_of_outlineLines (same : one.outlineLines = other.outlineLines) :
    one.parameters.map Node.line = other.parameters.map Node.line ∧
      one.others.map Node.line = other.others.map Node.line ∧
      one.flows.map Flow.line = other.flows.map Flow.line := by
  simp only [outlineLines, blockLines, List.append_assoc, List.cons_append,
    List.nil_append] at same
  have unmarked : ∀ microflow : Microflow, "  " ++ "objects" ∉ microflow.parameterLines := by
    intro microflow
    rw [parameterLines]
    split
    · exact List.not_mem_nil
    · rw [blockLines, List.mem_cons, not_or]
      exact ⟨by decide, title_not_mem (by decide) _⟩
  obtain ⟨sameParameters, rest⟩ :=
    eq_of_cut_at_first (unmarked one) (unmarked other) (List.cons.inj same).2
  obtain ⟨sameOthers, sameFlows⟩ :=
    eq_of_cut_at_first (title_not_mem (by decide) _) (title_not_mem (by decide) _) rest
  have unindent := List.map_injective_iff.mpr indented_injective
  exact ⟨map_line_of_parameterLines sameParameters, unindent sameOthers, unindent sameFlows⟩

/-- When no text of two microflows has a line break and their outlines are the same, the parameters
have the same ids and positions, so have the other nodes, and the flows are the same, all in their
stored order. -/
theorem outline_tells_wiring (unbroken : ∀ text ∈ one.texts, '\n' ∉ text.toList)
    (unbroken' : ∀ text ∈ other.texts, '\n' ∉ text.toList) (same : one.outline = other.outline) :
    one.parameters.map (fun node => (node.id, node.position)) =
        other.parameters.map (fun node => (node.id, node.position)) ∧
      (one.nodes.filter fun node => !node.isParameter).map (fun node => (node.id, node.position)) =
        (other.nodes.filter fun node => !node.isParameter).map
          (fun node => (node.id, node.position)) ∧
      one.flows = other.flows := by
  have sameText := congrArg String.toList same
  rw [toList_outline, toList_outline] at sameText
  have sameLines := unlines_injective (unbroken_outlineLines unbroken)
    (unbroken_outlineLines unbroken') sameText
  obtain ⟨parameters, others, flows⟩ := map_line_of_outlineLines sameLines
  have tells : ∀ node node' : Node, node.line = node'.line →
      (node.id, node.position) = (node'.id, node'.position) := fun _ _ => Node.eq_of_line
  exact ⟨map_eq_of_factorsThrough tells parameters, map_eq_of_factorsThrough tells others,
    List.map_injective_iff.mpr (fun _ _ => Flow.eq_of_line) flows⟩

/-- A microflow with one activity, and a flow that is labelled as if it showed its sides. -/
def singleActivity (action : Action) : Microflow :=
  { Microflow.empty "Clean" .void with
    nodes := [⟨7, ⟨-3, 4⟩, ⟨120, 60⟩, .activity action .default⟩]
    flows := [⟨7, 8, .right, .left, some "true] (Top -> Top)"⟩] }

/-- An action that deletes a variable with an odd name and one that is named so are shown by the
same words, and yet the wiring is told. -/
theorem outline_tells_wiring_namesake :
    (singleActivity (.delete "Old @ (1, 2)")).outline =
        (singleActivity (.other "delete $Old @ (1, 2)")).outline ∧
      (singleActivity (.delete "Old @ (1, 2)")).flows =
        (singleActivity (.other "delete $Old @ (1, 2)")).flows := by
  have same : (singleActivity (.delete "Old @ (1, 2)")).outline =
    (singleActivity (.other "delete $Old @ (1, 2)")).outline := rfl
  exact ⟨same, (outline_tells_wiring (by decide) (by decide) same).2.2⟩

end Microflow

end FlowModel
