import FlowModel.Proofs.Json.Literals

/-!
# Documents as they are written and read

A value of which every string has a text and every number is a whole number of at most 64 bits is
plain. The text that is written for a plain value is read back as this value (`ofText?_render`): by
induction on the value, what is written for it is read back whatever follows it (`Plain.isReadBack`).
-/

namespace FlowModel.Json

/-- Values that are written without loss: strings with a text and whole numbers of at most 64 bits,
and arrays and objects of these. -/
inductive Plain : Json → Prop where
  | null : Plain .null
  | bool (value : Bool) : Plain (.bool value)
  | integer {value : Int} (fits : value.natAbs ≤ greatestWord) : Plain (.integer value)
  | text (content : String) : Plain (text content)
  | array {items : List Json} (plain : ∀ item ∈ items, Plain item) : Plain (.array items)
  | record {members : List (String × Json)} (plain : ∀ member ∈ members, Plain member.2) :
    Plain (record members)

/-- A value is read back from its text, whatever follows it. A step enters the value or one of its
items, so twice as many steps as there are characters are enough. -/
def IsReadBack (value : Json) : Prop :=
  ∀ fuel rest, 2 * (render value).toList.length ≤ fuel → EndsValue rest →
    value? fuel ((render value).toList ++ rest) = some (value, rest)

/-! ## Texts of strings, arrays and records -/

/-- Texts with commas between them. -/
def joined (texts : List String) : List Char := (",".intercalate texts).toList

/-- A single item is written without a comma. -/
theorem joined_singleton (first : String) : joined [first] = first.toList := by
  simp [joined]

/-- Items are written with commas between them, and none behind the last. -/
theorem joined_cons_cons (first second : String) (others : List String) :
    joined (first :: second :: others) = first.toList ++ ',' :: joined (second :: others) := by
  simp [joined, String.intercalate_cons_cons, String.toList_append]

/-- Joined texts begin as the first of them does. -/
theorem joined_eq_cons {first : String} {c : Char} {cs : List Char}
    (begins : first.toList = c :: cs) (others : List String) :
    ∃ more, joined (first :: others) = c :: more := by
  cases others with
  | nil => exact ⟨cs, (joined_singleton first).trans begins⟩
  | cons second others => exact ⟨_, by rw [joined_cons_cons, begins, List.cons_append]⟩

/-- A member of a record as it is written. -/
def memberText (member : String × Json) : String := quotedText member.1 ++ ":" ++ render member.2

/-- A text is written between quotes, with every character escaped on its own. -/
theorem toList_quotedText (content : String) :
    (quotedText content).toList = '"' :: (content.toList.flatMap escaped ++ ['"']) := by
  simp [quotedText, String.toList_append]

/-- A member is its quoted name, a colon and its value, without blanks. -/
theorem toList_memberText (member : String × Json) :
    (memberText member).toList =
      (quotedText member.1).toList ++ ':' :: (render member.2).toList := by
  simp [memberText, String.toList_append]

/-- A function that goes through a list item by item maps the list. -/
theorem eq_map_of_cons {α β : Type} {write : α → β} {writeAll : List α → List β}
    (nil : writeAll [] = [])
    (cons : ∀ first others, writeAll (first :: others) = write first :: writeAll others)
    (items : List α) : writeAll items = items.map write := by
  induction items with
  | nil => exact nil
  | cons first others inductionHypothesis => rw [cons, inductionHypothesis, List.map_cons]

/-- The items of a list are written each on its own. -/
theorem renderItems_eq_map (items : List Json) : renderItems items = items.map render :=
  eq_map_of_cons (by rw [renderItems]) (fun _ _ => by rw [renderItems]) items

/-- The members of a record are written each on its own, in their order. -/
theorem renderMembers_eq_map (members : List (String × Json)) :
    renderMembers (members.map fun (name, value) => (some name, value)) =
      members.map memberText :=
  @eq_map_of_cons _ _ memberText
    (fun members => renderMembers (members.map fun (name, value) => (some name, value)))
    (by rw [List.map_nil, renderMembers]) (fun _ _ => by rw [List.map_cons, renderMembers]; rfl)
    members

/-- How a text is written, character by character. -/
theorem toList_render_text (content : String) :
    (render (text content)).toList = '"' :: (content.toList.flatMap escaped ++ ['"']) :=
  toList_quotedText content

/-- How a list is written: between brackets, the items joined by commas. -/
theorem toList_render_array (items : List Json) :
    (render (.array items)).toList = '[' :: (joined (items.map render) ++ [']']) := by
  simp [render, renderItems_eq_map, joined, String.toList_append]

/-- How a record is written: between braces, the members joined by commas. -/
theorem toList_render_record (members : List (String × Json)) :
    (render (record members)).toList = '\x7b' :: (joined (members.map memberText) ++ ['\x7d']) := by
  simp [record, render, renderMembers_eq_map, joined, String.toList_append]

/-! ## Beginnings -/

/-- Where no blank stands none is skipped. -/
theorem skipBlanks_cons {c : Char} {rest : List Char} (ink : isBlank c = false) :
    skipBlanks (c :: rest) = c :: rest :=
  List.dropWhile_cons_of_neg (by simp [ink])

/-- A value may be followed by a comma. -/
theorem endsValue_comma (rest : List Char) : EndsValue (',' :: rest) :=
  fun _ first => .inl (Option.some.inj first).symm

/-- A value may be the last one of a list. -/
theorem endsValue_bracket (rest : List Char) : EndsValue (']' :: rest) :=
  fun _ first => .inr (.inl (Option.some.inj first).symm)

/-- A value may be the last one of a record. -/
theorem endsValue_brace (rest : List Char) : EndsValue ('\x7d' :: rest) :=
  fun _ first => .inr (.inr (Option.some.inj first).symm)

/-- A whole number starts with a digit or a minus. -/
theorem exists_repr_eq_cons (value : Int) :
    ∃ c cs, value.repr.toList = c :: cs ∧ (c.isDigit = true ∨ c = '-') := by
  cases value with
  | ofNat value =>
    obtain ⟨c, digits, first, isDigit⟩ := exists_isDigit_toDigits value
    exact ⟨c, digits, (toList_repr_ofNat value).trans first, .inl isDigit⟩
  | negSucc value => exact ⟨'-', _, toList_repr_negSucc value, .inr rfl⟩

/-- A number starts with none of the other characters that have a meaning in a document. -/
theorem ne_of_isNumber {c : Char} (isNumber : c.isDigit = true ∨ c = '-') (d : Char)
    (notDigit : d.isDigit = false) (notMinus : d ≠ '-') : c ≠ d := by
  rintro rfl
  rcases isNumber with isDigit | isMinus
  · rw [notDigit] at isDigit
    exact nomatch isDigit
  · exact notMinus isMinus

/-- No number begins with a blank. -/
theorem isBlank_of_isNumber {c : Char} (isNumber : c.isDigit = true ∨ c = '-') :
    isBlank c = false := by
  have apart := ne_of_isNumber isNumber
  simp [isBlank, apart ' ' rfl (by decide), apart '\n' rfl (by decide), apart '\t' rfl (by decide),
    apart '\r' rfl (by decide)]

/-- What starts like a number is read as a number. -/
theorem value?_of_isNumber {c : Char} (cs : List Char) (fuel : Nat)
    (isNumber : c.isDigit = true ∨ c = '-') : value? (fuel + 1) (c :: cs) = number? (c :: cs) := by
  have apart := ne_of_isNumber isNumber
  rw [value?, skipBlanks_cons (isBlank_of_isNumber isNumber)]
  split <;> simp_all

/-- A plain value starts with neither a blank nor a closing bracket. -/
theorem Plain.exists_eq_cons {value : Json} (plain : value.Plain) :
    ∃ c cs, (render value).toList = c :: cs ∧ isBlank c = false ∧ c ≠ ']' := by
  cases plain with
  | null => exact ⟨'n', _, rfl, rfl, by decide⟩
  | bool value =>
    cases value with
    | true => exact ⟨'t', _, rfl, rfl, by decide⟩
    | false => exact ⟨'f', _, rfl, rfl, by decide⟩
  | @integer value =>
    obtain ⟨c, cs, first, isNumber⟩ := exists_repr_eq_cons value
    exact ⟨c, cs, first, isBlank_of_isNumber isNumber, ne_of_isNumber isNumber ']' rfl (by decide)⟩
  | text content => exact ⟨'"', _, toList_render_text content, rfl, by decide⟩
  | array => exact ⟨'[', _, toList_render_array _, rfl, by decide⟩
  | record => exact ⟨'\x7b', _, toList_render_record _, rfl, by decide⟩

/-! ## Items -/

/-- The items end with a value before the closing bracket. -/
theorem items?_last {fuel : Nat} {cs rest : List Char} {item : Json}
    (read : value? fuel cs = some (item, ']' :: rest)) :
    items? (fuel + 1) cs = some ([item], rest) := by
  rw [items?, read]
  rfl

/-- A value before a comma is followed by more items. -/
theorem items?_more {fuel : Nat} {cs later rest : List Char} {item : Json} {items : List Json}
    (read : value? fuel cs = some (item, ',' :: later))
    (readLater : items? fuel later = some (items, rest)) :
    items? (fuel + 1) cs = some (item :: items, rest) := by
  rw [items?, read]
  show ((items? fuel later).bind _) = _
  rw [readLater]
  rfl

/-- Items are read back up to the closing bracket. -/
theorem items?_joined {item : Json} {items : List Json}
    (readBack : ∀ value ∈ item :: items, value.IsReadBack) (fuel : Nat) (rest : List Char)
    (enough : 2 * (joined ((item :: items).map render)).length + 1 ≤ fuel) :
    items? fuel (joined ((item :: items).map render) ++ ']' :: rest) = some (item :: items, rest) := by
  obtain ⟨fuel, rfl⟩ := Nat.exists_eq_add_of_le' (Nat.le_trans (Nat.le_add_left 1 _) enough)
  have readFirst := readBack item List.mem_cons_self fuel
  induction items generalizing item fuel with
  | nil =>
    rw [List.map_singleton, joined_singleton] at enough ⊢
    exact items?_last (readFirst _ (by omega) (endsValue_bracket rest))
  | cons next items inductionHypothesis =>
    rw [List.map_cons, List.map_cons, joined_cons_cons] at enough ⊢
    rw [List.length_append, List.length_cons] at enough
    -- The comma alone pays for the two steps that are taken here.
    obtain ⟨fuel, rfl⟩ := Nat.exists_eq_add_of_le' (show 1 ≤ fuel by omega)
    rw [List.append_assoc]
    apply items?_more (readFirst _ (by omega) (endsValue_comma _))
    apply inductionHypothesis (fun value inside => readBack value (.tail _ inside)) fuel
    · rw [List.map_cons]
      omega
    · exact readBack next (.tail _ List.mem_cons_self) fuel

/-! ## Members -/

/-- The members end with a value before the closing brace. -/
theorem members?_last {fuel : Nat} {cs rest : List Char} {name : String} {value : Json}
    (read : value? fuel cs = some (value, '\x7d' :: rest)) :
    members? (fuel + 1) ((quotedText name).toList ++ ':' :: cs) =
      some ([(some name, value)], rest) := by
  rw [toList_quotedText, List.cons_append, List.append_assoc, List.singleton_append, members?,
    skipBlanks_cons rfl]
  simp only [literal?_escaped]
  show ((value? fuel cs).bind _) = _
  rw [read]
  rfl

/-- A value before a comma is followed by more members. -/
theorem members?_more {fuel : Nat} {cs later rest : List Char} {name : String} {value : Json}
    {members : List (Option String × Json)} (read : value? fuel cs = some (value, ',' :: later))
    (readLater : members? fuel later = some (members, rest)) :
    members? (fuel + 1) ((quotedText name).toList ++ ':' :: cs) =
      some ((some name, value) :: members, rest) := by
  rw [toList_quotedText, List.cons_append, List.append_assoc, List.singleton_append, members?,
    skipBlanks_cons rfl]
  simp only [literal?_escaped]
  show ((value? fuel cs).bind _) = _
  rw [read]
  show ((members? fuel later).bind _) = _
  rw [readLater]
  rfl

/-- Members are read back up to the closing brace. -/
theorem members?_joined {member : String × Json} {members : List (String × Json)}
    (readBack : ∀ entry ∈ member :: members, entry.2.IsReadBack) (fuel : Nat) (rest : List Char)
    (enough : 2 * (joined ((member :: members).map memberText)).length + 1 ≤ fuel) :
    members? fuel (joined ((member :: members).map memberText) ++ '\x7d' :: rest) =
      some ((member :: members).map fun (name, value) => (some name, value), rest) := by
  obtain ⟨fuel, rfl⟩ := Nat.exists_eq_add_of_le' (Nat.le_trans (Nat.le_add_left 1 _) enough)
  have readFirst := readBack member List.mem_cons_self fuel
  induction members generalizing member fuel with
  | nil =>
    rw [List.map_singleton, joined_singleton, toList_memberText] at enough ⊢
    rw [List.length_append, List.length_cons] at enough
    rw [List.append_assoc]
    exact members?_last (readFirst _ (by omega) (endsValue_brace rest))
  | cons next members inductionHypothesis =>
    rw [List.map_cons, List.map_cons, joined_cons_cons, toList_memberText] at enough ⊢
    simp only [List.length_append, List.length_cons] at enough
    obtain ⟨fuel, rfl⟩ := Nat.exists_eq_add_of_le' (show 1 ≤ fuel by omega)
    rw [List.append_assoc, List.append_assoc]
    apply members?_more (readFirst _ (by omega) (endsValue_comma _))
    apply inductionHypothesis (fun entry inside => readBack entry (.tail _ inside)) fuel
    · rw [List.map_cons]
      omega
    · exact readBack next (.tail _ List.mem_cons_self) fuel

/-! ## Values -/

/-- No plain value is written as an empty text, so there is a step to take. -/
theorem Plain.isReadBack_of_succ {value : Json} (plain : value.Plain)
    (readBack : ∀ fuel rest, 2 * (render value).toList.length ≤ fuel + 1 → EndsValue rest →
      value? (fuel + 1) ((render value).toList ++ rest) = some (value, rest)) : value.IsReadBack := by
  intro fuel rest enough ends
  obtain ⟨c, cs, first, -⟩ := plain.exists_eq_cons
  have positive : 1 ≤ fuel := by
    rw [first, List.length_cons] at enough
    omega
  obtain ⟨fuel, rfl⟩ := Nat.exists_eq_add_of_le' positive
  exact readBack fuel rest enough ends

/-- An array is read back if its items are: after the bracket comes an item, not a closing bracket. -/
theorem isReadBack_array {items : List Json} (plain : ∀ item ∈ items, item.Plain)
    (readBack : ∀ item ∈ items, item.IsReadBack) : (array items).IsReadBack := by
  apply (Plain.array plain).isReadBack_of_succ
  intro fuel rest enough ends
  rw [toList_render_array] at enough ⊢
  rw [List.length_cons, List.length_append, List.length_singleton] at enough
  rw [List.cons_append, List.append_assoc, List.singleton_append, value?, skipBlanks_cons rfl]
  cases items with
  | nil => rfl
  | cons item items =>
    have read := items?_joined readBack fuel rest (by omega)
    obtain ⟨c, cs, begins, ink, notBracket⟩ := (plain item List.mem_cons_self).exists_eq_cons
    obtain ⟨more, first⟩ := joined_eq_cons begins (items.map render)
    rw [List.map_cons, first, List.cons_append] at read ⊢
    simp [skipBlanks_cons ink, notBracket, read]

/-- A record is read back if its values are: after the brace comes a name, not a closing brace. -/
theorem isReadBack_record {members : List (String × Json)}
    (plain : ∀ member ∈ members, member.2.Plain)
    (readBack : ∀ member ∈ members, member.2.IsReadBack) : (record members).IsReadBack := by
  apply (Plain.record plain).isReadBack_of_succ
  intro fuel rest enough ends
  rw [toList_render_record] at enough ⊢
  rw [List.length_cons, List.length_append, List.length_singleton] at enough
  rw [List.cons_append, List.append_assoc, List.singleton_append, value?, skipBlanks_cons rfl]
  cases members with
  | nil => rfl
  | cons member members =>
    have read := members?_joined readBack fuel rest (by omega)
    have begins := toList_memberText member
    rw [toList_quotedText, List.cons_append] at begins
    obtain ⟨more, first⟩ := joined_eq_cons begins (members.map memberText)
    rw [List.map_cons, first, List.cons_append] at read ⊢
    simp [skipBlanks_cons (show isBlank '"' = false from rfl), read, record]

/-- What is written for a plain value is read back as this value. -/
theorem Plain.isReadBack {value : Json} (plain : value.Plain) : value.IsReadBack := by
  induction plain with
  | null => exact Plain.null.isReadBack_of_succ fun _ _ _ _ => rfl
  | bool value =>
    apply (Plain.bool value).isReadBack_of_succ
    intro fuel rest enough ends
    cases value <;> rfl
  | @integer value fits =>
    apply (Plain.integer fits).isReadBack_of_succ
    intro fuel rest enough ends
    obtain ⟨c, cs, first, isNumber⟩ := exists_repr_eq_cons value
    have read := number?_repr fits ends
    rw [first, List.cons_append] at read
    rw [render, first, List.cons_append, value?_of_isNumber _ _ isNumber, read]
  | text content =>
    apply (Plain.text content).isReadBack_of_succ
    intro fuel rest enough ends
    rw [toList_render_text, List.cons_append, List.append_assoc, List.singleton_append, value?,
      skipBlanks_cons rfl]
    simp only [literal?_escaped]
    rfl
  | @array items plain readBack => exact isReadBack_array plain readBack
  | @record members plain readBack => exact isReadBack_record plain readBack

/-- A document that writes a plain value is read as this value. -/
theorem ofText?_render {value : Json} (plain : value.Plain) :
    ofText? (render value) = some value := by
  have read := plain.isReadBack (2 * (render value).toList.length + 1) [] (by omega) nofun
  rw [List.append_nil] at read
  show (value? _ (render value).toList).bind _ = _
  rw [read]
  rfl

end FlowModel.Json
