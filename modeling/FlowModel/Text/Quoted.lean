import FlowModel.Text.Visible

/-!
# Quoted text in messages

Messages show names between double quotes so that any text can be told from the words around it. A quote, a
backslash, the usual control characters and the null character have a two-character form; every other character
that is not visible on its own is shown by its number in hexadecimal.
-/

namespace FlowModel.Quoted

/-- The written form of one character inside double quotes. -/
def charText (c : Char) : List Char :=
  if c = '"' then ['\\', '"']
  else if c = '\\' then ['\\', '\\']
  else if c = '\n' then ['\\', 'n']
  else if c = '\r' then ['\\', 'r']
  else if c = '\t' then ['\\', 't']
  else if c = '\x00' then ['\\', '0']
  else if Visible.isVisible c then [c]
  else ['\\', 'u', '\x7b'] ++ Nat.toDigits 16 c.toNat ++ ['\x7d']

/-- A text between double quotes. -/
def quoted (text : String) : String :=
  "\"" ++ String.ofList (text.toList.flatMap charText) ++ "\""

/-- An optional text, shown with the word that tells whether it is there. -/
def optionalText : Option String → String
  | none => "None"
  | some text => "Some(" ++ quoted text ++ ")"

/-- A list of optional texts between square brackets. -/
def listText (texts : List (Option String)) : String :=
  "[" ++ ", ".intercalate (texts.map optionalText) ++ "]"

end FlowModel.Quoted
