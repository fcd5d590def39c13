import Mathlib.Data.Option.Basic
import FlowModel.Json.Printer
import FlowModel.Json.Reader

/-!
# Literals as they are written and read

A text that is written as a string literal is read back, and nothing of what follows it is taken
(`literal?_escaped`). So is a whole number of at most 64 bits, if what follows does not go on with it
(`number?_repr`).
-/

namespace FlowModel.Json

/-! ## Strings -/

/-- The four digits that are written for a control character are read as its code. -/
theorem hexNumber?_hexChar {code : Nat} (isControl : code < 0x20) :
    hexNumber? ['0', '0', hexChar (code / 16), hexChar (code % 16)] = some code := by
  have all : ∀ code < 0x20,
      hexNumber? ['0', '0', hexChar (code / 16), hexChar (code % 16)] = some code := by decide
  exact all code isControl

/-- A condition that holds does not stop the reader. -/
theorem guard_eq_some {condition : Prop} [Decidable condition] (holds : condition) :
    (guard condition : Option Unit) = some () :=
  if_pos holds

/-- A short escape is read as the code of the control character that it stands for. -/
theorem stringCodes_shortEscape {c letter : Char} (short : shortEscape? c = some letter)
    (rest : List Char) :
    stringCodes ('\\' :: letter :: rest) =
      (stringCodes rest).bind fun (codes, after) => some (c.toNat :: codes, after) := by
  rw [shortEscape?] at short
  split at short <;> try cases short
  all_goals
    next isCode =>
      rw [isCode]
      rfl

/-- An escape by code is read as this code. -/
theorem stringCodes_escapedCode {c : Char} (isControl : c.toNat < 0x20) (rest : List Char) :
    stringCodes (escapedCode c ++ rest) =
      (stringCodes rest).bind fun (codes, after) => some (c.toNat :: codes, after) := by
  show ((hexNumber? _).bind fun code => _) = _
  rw [hexNumber?_hexChar isControl]
  rfl

/-- A character is read back from its form inside a literal, whichever form it has. -/
theorem stringCodes_escaped (c : Char) (rest : List Char) :
    stringCodes (escaped c ++ rest) =
      (stringCodes rest).bind fun (codes, after) => some (c.toNat :: codes, after) := by
  rw [escaped]
  by_cases isQuote : c = '"'
  · subst isQuote
    rfl
  by_cases isBackslash : c = '\\'
  · subst isBackslash
    rfl
  rw [if_neg isQuote, if_neg isBackslash]
  by_cases isControl : c.toNat < 0x20
  · rw [if_pos isControl]
    cases short : shortEscape? c with
    | some letter => exact stringCodes_shortEscape short rest
    | none => exact stringCodes_escapedCode isControl rest
  · rw [if_neg isControl]
    have printable : ' ' ≤ c := Nat.le_of_not_lt isControl
    rw [List.singleton_append, stringCodes.eq_5 c rest isQuote
      (fun _ _ _ _ _ same _ => isBackslash same) (fun _ _ same _ => isBackslash same)]
    show (guard _ : Option Unit).bind _ = _
    rw [guard_eq_some printable]
    rfl

/-- The inside of a literal is read as the codes of its characters, up to the closing quote. -/
theorem stringCodes_text (content rest : List Char) :
    stringCodes (content.flatMap escaped ++ '"' :: rest) = some (content.map Char.toNat, rest) := by
  induction content with
  | nil => rfl
  | cons c content inductionHypothesis =>
    rw [List.flatMap_cons, List.append_assoc, stringCodes_escaped, inductionHypothesis]
    rfl

/-- Characters are Unicode scalar values. -/
theorem not_surrogate (c : Char) : isLeading c.toNat = false ∧ isTrailing c.toNat = false := by
  have valid : c.toNat < 0xd800 ∨ 0xdfff < c.toNat ∧ c.toNat < 0x110000 := c.valid
  simp only [isLeading, isTrailing, Bool.and_eq_false_iff, decide_eq_false_iff_not]
  omega

/-- The codes of characters denote these characters, because none of them is a surrogate. -/
theorem charsOfCodes?_toNat : ∀ content : List Char,
    charsOfCodes? (content.map Char.toNat) = some content
  | [] => rfl
  | [c] => by
    obtain ⟨notLeading, notTrailing⟩ := not_surrogate c
    have proper : (!isLeading c.toNat && !isTrailing c.toNat) = true := by
      rw [notLeading, notTrailing]
      rfl
    show ((guard _ : Option Unit).bind fun _ => some [Char.ofNat c.toNat]) = _
    rw [guard_eq_some proper, Option.bind_some, Char.ofNat_toNat]
  | c :: next :: content => by
    obtain ⟨notLeading, notTrailing⟩ := not_surrogate c
    have proper : (!isTrailing c.toNat) = true := by
      rw [notTrailing]
      rfl
    rw [List.map_cons, List.map_cons, charsOfCodes?, if_neg (ne_true_of_eq_false notLeading)]
    show ((guard _ : Option Unit).bind fun _ => (charsOfCodes? ((next :: content).map _)).bind
      fun cs => some (Char.ofNat c.toNat :: cs)) = _
    rw [guard_eq_some proper, Option.bind_some, charsOfCodes?_toNat, Option.bind_some,
      Char.ofNat_toNat]

/-- A literal is read back up to its closing quote. -/
theorem literal?_escaped (content : String) (rest : List Char) :
    literal? (content.toList.flatMap escaped ++ '"' :: rest) = some (some content, rest) := by
  rw [literal?, stringCodes_text]
  show some ((charsOfCodes? _).map String.ofList, rest) = _
  rw [charsOfCodes?_toNat, Option.map_some, String.ofList_toList]

/-! ## Whole numbers -/

/-- What follows a value in a document: nothing, a comma or a closing bracket or brace. -/
def EndsValue (rest : List Char) : Prop := ∀ c ∈ rest.head?, c = ',' ∨ c = ']' ∨ c = '\x7d'

/-- What follows a value does not continue its digits. -/
theorem EndsValue.not_isDigit {rest : List Char} (ends : EndsValue rest) :
    rest.head?.any Char.isDigit = false := by
  cases rest with
  | nil => rfl
  | cons c rest =>
    rcases ends c rfl with rfl | rfl | rfl <;> rfl

/-- Appending digits to a number does not make it smaller. -/
theorem le_ofDigitChars (digits : List Char) (kept : Nat) :
    kept ≤ Nat.ofDigitChars 10 digits kept := by
  induction digits generalizing kept with
  | nil => exact Nat.le_refl kept
  | cons c digits inductionHypothesis =>
    have grown : kept ≤ 10 * kept + (c.toNat - '0'.toNat) := by omega
    exact Nat.le_trans grown (inductionHypothesis _)

/-- All digits are kept while the number fits. -/
theorem keepDigits_eq {digits : List Char} {kept : Nat}
    (fits : Nat.ofDigitChars 10 digits kept ≤ greatestWord) :
    keepDigits kept digits = (Nat.ofDigitChars 10 digits kept, []) := by
  induction digits generalizing kept with
  | nil => rfl
  | cons c digits inductionHypothesis =>
    have grown : Nat.ofDigitChars 10 (c :: digits) kept =
        Nat.ofDigitChars 10 digits (kept * 10 + (c.toNat - '0'.toNat)) := by
      rw [Nat.mul_comm]
      rfl
    rw [grown] at fits ⊢
    -- The number that is kept now is not greater than the whole number, so it fits as well.
    have fitsNow := Nat.le_trans (le_ofDigitChars digits _) fits
    rw [keepDigits, if_pos fitsNow, inductionHypothesis fits]

/-- Digits are taken as long as there are any. -/
theorem digits?_append {digits rest : List Char} (some? : digits ≠ [])
    (areDigits : ∀ c ∈ digits, c.isDigit = true) (ends : EndsValue rest) :
    digits? (digits ++ rest) = some (digits, rest) := by
  have taken : (digits ++ rest).takeWhile Char.isDigit = digits ∧
      (digits ++ rest).dropWhile Char.isDigit = rest := by
    rw [List.takeWhile_append_of_pos areDigits, List.dropWhile_append_of_pos areDigits]
    have stops := ends.not_isDigit
    cases rest with
    | nil => simp
    | cons c rest => simp_all
  rw [digits?, taken.1, taken.2]
  simp [some?]

/-- A number other than zero is not written with a leading zero. -/
theorem exists_toDigits_eq_cons {value : Nat} (positive : 0 < value) :
    ∃ c digits, Nat.toDigits 10 value = c :: digits ∧ c ≠ '0' := by
  induction value using Nat.strongRecOn with
  | ind value inductionHypothesis =>
    by_cases small : value < 10
    · have all : ∀ digit < 10, 0 < digit → digit.digitChar ≠ '0' := by decide
      exact ⟨_, [], Nat.toDigits_of_lt_base small, all value small positive⟩
    · obtain ⟨c, digits, written, nonzero⟩ :=
        inductionHypothesis (value / 10) (by omega) (by omega)
      rw [Nat.toDigits_of_base_le (by decide) (Nat.le_of_not_lt small), written]
      exact ⟨c, _, rfl, nonzero⟩

/-- All digits of a number stand before the point: there is no leading zero to stop at. -/
theorem wholeDigits?_toDigits {value : Nat} {rest : List Char} (ends : EndsValue rest) :
    wholeDigits? (Nat.toDigits 10 value ++ rest) = some (Nat.toDigits 10 value, rest) := by
  rcases Nat.eq_zero_or_pos value with rfl | positive
  · have zero : Nat.toDigits 10 0 ++ rest = '0' :: rest := rfl
    rw [zero, wholeDigits?, ends.not_isDigit]
    rfl
  · have all := digits?_append Nat.toDigits_ne_nil
      (fun c => Nat.isDigit_of_mem_toDigits (b := 10) (n := value) (by decide) (by decide)) ends
    obtain ⟨c, digits, written, nonzero⟩ := exists_toDigits_eq_cons positive
    rw [written, List.cons_append] at all ⊢
    rw [wholeDigits?.eq_2 _ (by simpa using nonzero)]
    exact all

/-- The digits of a number of at most 64 bits are read back, with a sign that was read before them.
Minus zero is no whole number, and nothing that follows is a point or an exponent. -/
theorem unsigned?_toDigits {value : Nat} {rest : List Char} (negative : Bool)
    (fits : value ≤ greatestWord) (proper : negative = true → value ≠ 0) (ends : EndsValue rest) :
    unsigned? negative (Nat.toDigits 10 value ++ rest) =
      some (.integer (if negative then -value else value), rest) := by
  have kept : keepDigits 0 (Nat.toDigits 10 value) = (value, []) := by
    have same : Nat.ofDigitChars 10 (Nat.toDigits 10 value) 0 = value :=
      Nat.ofDigitChars_toDigits (by decide) (by decide)
    rw [keepDigits_eq (Nat.le_trans (Nat.le_of_eq same) fits), same]
  have noFraction : fractionDigits? rest = some ([], rest) := by
    cases rest with
    | nil => rfl
    | cons c rest => rcases ends c rfl with rfl | rfl | rfl <;> rfl
  have noExponent : exponent? rest = some (none, rest) := by
    cases rest with
    | nil => rfl
    | cons c rest => rcases ends c rfl with rfl | rfl | rfl <;> rfl
  have signed : (negative && value == 0) = false := by
    cases negative with
    | false => rfl
    | true => simpa using proper rfl
  simp only [unsigned?, wholeDigits?_toDigits ends, noFraction, noExponent, kept, keepDigits, signed,
    bind, Option.bind]
  rfl

/-- Written digits start with a digit. -/
theorem exists_isDigit_toDigits (value : Nat) :
    ∃ c digits, Nat.toDigits 10 value = c :: digits ∧ c.isDigit = true := by
  obtain ⟨c, digits, first⟩ :=
    List.exists_cons_of_ne_nil (Nat.toDigits_ne_nil (b := 10) (n := value))
  exact ⟨c, digits, first,
    Nat.isDigit_of_mem_toDigits (b := 10) (n := value) (by decide) (by decide) (by simp [first])⟩

/-- A number that is not negative is written with its digits alone. -/
theorem toList_repr_ofNat (value : Nat) :
    (Int.ofNat value).repr.toList = Nat.toDigits 10 value := String.toList_ofList

/-- A negative number is written with one minus sign before the digits. -/
theorem toList_repr_negSucc (value : Nat) :
    (Int.negSucc value).repr.toList = '-' :: Nat.toDigits 10 (value + 1) := by
  show ("-" ++ String.ofList (Nat.toDigits 10 (value + 1))).toList = _
  simp

/-- A whole number of at most 64 bits is read back. -/
theorem number?_repr {value : Int} {rest : List Char} (fits : value.natAbs ≤ greatestWord)
    (ends : EndsValue rest) :
    number? (value.repr.toList ++ rest) = some (.integer value, rest) := by
  cases value with
  | ofNat value =>
    have read := unsigned?_toDigits false (show value ≤ greatestWord from fits) nofun ends
    -- A digit is no minus, so the number is read without a sign.
    obtain ⟨c, digits, first, isDigit⟩ := exists_isDigit_toDigits value
    have unsigned : c ≠ '-' := fun same => by simp [same] at isDigit
    rw [first, List.cons_append] at read
    rw [toList_repr_ofNat, first, List.cons_append, number?.eq_2 _ (by simpa using unsigned), read]
    rfl
  | negSucc value =>
    have read :=
      unsigned?_toDigits true (show value + 1 ≤ greatestWord from fits) (fun _ => nofun) ends
    rw [toList_repr_negSucc, List.cons_append, number?, read]
    rfl

end FlowModel.Json
