import FlowModel.Json.Basic

/-!
# Writing JSON text

Values are written without blanks. In strings only the quote, the backslash and control characters are escaped,
those that have one by their short escape.
-/

namespace FlowModel.Json

/-- The digit that stands for a number below sixteen. -/
def hexChar (digit : Nat) : Char := (Nat.digitChar digit)

/-- The letter that stands for a control character after a backslash, if there is one. -/
def shortEscape? (c : Char) : Option Char :=
  match c.toNat with
  | 0x08 => some 'b'
  | 0x09 => some 't'
  | 0x0a => some 'n'
  | 0x0c => some 'f'
  | 0x0d => some 'r'
  | _ => none

/-- A control character by its code. -/
def escapedCode (c : Char) : List Char := ['\\', 'u', '0', '0', hexChar (c.toNat / 16), hexChar (c.toNat % 16)]

/-- One character inside a string literal. -/
def escaped (c : Char) : List Char :=
  if c = '"' then ['\\', '"']
  else if c = '\\' then ['\\', '\\']
  else if c.toNat < 0x20 then
    match shortEscape? c with
    | some letter => ['\\', letter]
    | none => escapedCode c
  else [c]

/-- A text as a string literal. -/
def quotedText (content : String) : String := "\"" ++ String.ofList (content.toList.flatMap escaped) ++ "\""

/-- A literal as a string; one without a text is written as an unpaired surrogate. -/
def literalText : Option String → String
  | some content => quotedText content
  | none => "\"\\ud800\""

mutual

/-- A value as text. -/
def render : Json → String
  | .null => "null"
  | .bool value => if value then "true" else "false"
  | .integer value => value.repr
  | .decimal significand exponent =>
    if significand = 0 then "-0e" ++ exponent.repr else significand.repr ++ "e" ++ exponent.repr
  | .string literal => literalText literal
  | .array items => "[" ++ ",".intercalate (renderItems items) ++ "]"
  | .object members => "\x7b" ++ ",".intercalate (renderMembers members) ++ "\x7d"

/-- Items as texts. -/
def renderItems : List Json → List String
  | [] => []
  | item :: items => render item :: renderItems items

/-- Members as texts. -/
def renderMembers : List (Option String × Json) → List String
  | [] => []
  | (name, value) :: members => (literalText name ++ ":" ++ render value) :: renderMembers members

end

end FlowModel.Json
