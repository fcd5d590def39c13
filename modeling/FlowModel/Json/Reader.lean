import FlowModel.Json.Basic

/-!
# Reading JSON text

The reader follows the grammar of JSON and nothing else: no comments, no trailing commas, no other blanks than
space, tab, line feed and carriage return, no raw control characters in strings, no leading zeros, and nothing
after the value. What a string or a number denotes is settled here; whether it denotes anything usable is left
to the one who reads the value.
-/

namespace FlowModel.Json

/-- Blanks between the parts of a document. -/
def isBlank (c : Char) : Bool := c == ' ' || c == '\n' || c == '\t' || c == '\r'

/-- The text after leading blanks. -/
def skipBlanks (cs : List Char) : List Char := cs.dropWhile isBlank

/-- The value of a hexadecimal digit. -/
def hexDigit? (c : Char) : Option Nat :=
  if '0' ≤ c ∧ c ≤ '9' then some (c.toNat - '0'.toNat)
  else if 'a' ≤ c ∧ c ≤ 'f' then some (c.toNat - 'a'.toNat + 10)
  else if 'A' ≤ c ∧ c ≤ 'F' then some (c.toNat - 'A'.toNat + 10)
  else none

/-- The number written by hexadecimal digits. -/
def hexNumber? (cs : List Char) : Option Nat :=
  cs.foldlM (fun value c => (hexDigit? c).map fun digit => value * 16 + digit) 0

/-- The number written by decimal digits. -/
def decimalNumber (cs : List Char) : Nat := cs.foldl (fun value c => value * 10 + (c.toNat - '0'.toNat)) 0

/-! ## Strings -/

/-- The code that a character stands for after a backslash. -/
def escapeCode? : Char → Option Nat
  | '"' => some 0x22
  | '\\' => some 0x5c
  | '/' => some 0x2f
  | 'b' => some 0x08
  | 'f' => some 0x0c
  | 'n' => some 0x0a
  | 'r' => some 0x0d
  | 't' => some 0x09
  | _ => none

/-- The codes of a string literal after its opening quote, and the text after its closing quote. -/
def stringCodes : List Char → Option (List Nat × List Char)
  | [] => none
  | '"' :: rest => some ([], rest)
  | '\\' :: 'u' :: a :: b :: c :: d :: rest => do
    let code ← hexNumber? [a, b, c, d]
    let (codes, rest) ← stringCodes rest
    return (code :: codes, rest)
  | '\\' :: c :: rest => do
    let code ← escapeCode? c
    let (codes, rest) ← stringCodes rest
    return (code :: codes, rest)
  | c :: rest => do
    guard (' ' ≤ c)
    let (codes, rest) ← stringCodes rest
    return (c.toNat :: codes, rest)

/-- Whether a code is the first half of a surrogate pair. -/
def isLeading (code : Nat) : Bool := 0xd800 ≤ code && code < 0xdc00

/-- Whether a code is the second half of a surrogate pair. -/
def isTrailing (code : Nat) : Bool := 0xdc00 ≤ code && code < 0xe000

/-- The characters that codes denote: surrogates come in pairs, all other codes stand for themselves. -/
def charsOfCodes? : List Nat → Option (List Char)
  | [] => some []
  | leading :: trailing :: rest =>
    if isLeading leading then do
      guard (isTrailing trailing)
      let cs ← charsOfCodes? rest
      return Char.ofNat (0x10000 + (leading - 0xd800) * 0x400 + (trailing - 0xdc00)) :: cs
    else do
      guard (!isTrailing leading)
      let cs ← charsOfCodes? (trailing :: rest)
      return Char.ofNat leading :: cs
  | [code] => do
    guard (!isLeading code && !isTrailing code)
    return [Char.ofNat code]

/-- The literal after an opening quote, and the text after it. -/
def literal? (cs : List Char) : Option (Option String × List Char) := do
  let (codes, rest) ← stringCodes cs
  return ((charsOfCodes? codes).map String.ofList, rest)

/-! ## Numbers -/

/-- Greatest whole number of 64 bits. -/
def greatestWord : Nat := 18446744073709551615

/-- Append digits to a number while it fits in 64 bits, and give the digits from the first one on that does not. -/
def keepDigits : Nat → List Char → Nat × List Char
  | kept, [] => (kept, [])
  | kept, c :: rest =>
    let grown := kept * 10 + (c.toNat - '0'.toNat)
    if grown ≤ greatestWord then keepDigits grown rest else (kept, c :: rest)

/-- Leading decimal digits, at least one, and the text after them. -/
def digits? (cs : List Char) : Option (List Char × List Char) :=
  let digits := cs.takeWhile Char.isDigit
  if digits.isEmpty then none else some (digits, cs.dropWhile Char.isDigit)

/-- The digits before the point: a zero alone or digits that do not start with a zero. -/
def wholeDigits? : List Char → Option (List Char × List Char)
  | '0' :: rest => if (rest.head?.any Char.isDigit) then none else some (['0'], rest)
  | cs => digits? cs

/-- The digits after the point; none without a point. -/
def fractionDigits? : List Char → Option (List Char × List Char)
  | '.' :: rest => digits? rest
  | cs => some ([], cs)

/-- The exponent, if there is one. -/
def exponent? : List Char → Option (Option Int × List Char)
  | c :: rest =>
    if c = 'e' ∨ c = 'E' then
      match rest with
      | '-' :: rest => (digits? rest).map fun (digits, rest) => (some (-(decimalNumber digits : Int)), rest)
      | '+' :: rest => (digits? rest).map fun (digits, rest) => (some (decimalNumber digits : Int), rest)
      | rest => (digits? rest).map fun (digits, rest) => (some (decimalNumber digits : Int), rest)
    else some (none, c :: rest)
  | [] => some (none, [])

/-- A number without its sign. Digits are kept while they fit, first before the point and then after it; those that are
dropped before the point count in the exponent. -/
def unsigned? (negative : Bool) (cs : List Char) : Option (Json × List Char) := do
  let (whole, rest) ← wholeDigits? cs
  let (fraction, rest) ← fractionDigits? rest
  let (exponent, rest) ← exponent? rest
  let (beforePoint, droppedBefore) := keepDigits 0 whole
  let (kept, droppedAfter) := keepDigits beforePoint fraction
  let value : Int := if negative then -kept else kept
  if droppedBefore.isEmpty && fraction.isEmpty && exponent.isNone && !(negative && kept == 0) then
    return (.integer value, rest)
  else
    return (.decimal value (exponent.getD 0 + droppedBefore.length + droppedAfter.length - fraction.length), rest)

/-- A number. -/
def number? : List Char → Option (Json × List Char)
  | '-' :: rest => unsigned? true rest
  | cs => unsigned? false cs

/-! ## Values -/

mutual

/-- The value at the start of a text, and the text after it. -/
def value? : Nat → List Char → Option (Json × List Char)
  | 0, _ => none
  | fuel + 1, cs =>
    match skipBlanks cs with
    | 'n' :: 'u' :: 'l' :: 'l' :: rest => some (.null, rest)
    | 't' :: 'r' :: 'u' :: 'e' :: rest => some (.bool true, rest)
    | 'f' :: 'a' :: 'l' :: 's' :: 'e' :: rest => some (.bool false, rest)
    | '"' :: rest => (literal? rest).map fun (literal, rest) => (.string literal, rest)
    | '[' :: rest =>
      match skipBlanks rest with
      | ']' :: rest => some (.array [], rest)
      | rest => (items? fuel rest).map fun (items, rest) => (.array items, rest)
    | '\x7b' :: rest =>
      match skipBlanks rest with
      | '\x7d' :: rest => some (.object [], rest)
      | rest => (members? fuel rest).map fun (members, rest) => (.object members, rest)
    | cs => number? cs

/-- The items of an array up to its closing bracket, at least one. -/
def items? : Nat → List Char → Option (List Json × List Char)
  | 0, _ => none
  | fuel + 1, cs => do
    let (item, rest) ← value? fuel cs
    match skipBlanks rest with
    | ',' :: rest =>
      let (items, rest) ← items? fuel rest
      return (item :: items, rest)
    | ']' :: rest => return ([item], rest)
    | _ => none

/-- The members of an object up to its closing brace, at least one. -/
def members? : Nat → List Char → Option (List (Option String × Json) × List Char)
  | 0, _ => none
  | fuel + 1, cs =>
    match skipBlanks cs with
    | '"' :: rest => do
      let (name, rest) ← literal? rest
      match skipBlanks rest with
      | ':' :: rest =>
        let (value, rest) ← value? fuel rest
        match skipBlanks rest with
        | ',' :: rest =>
          let (members, rest) ← members? fuel rest
          return ((name, value) :: members, rest)
        | '\x7d' :: rest => return ([(name, value)], rest)
        | _ => none
      | _ => none
    | _ => none

end

/-- The value that a text writes, if it writes exactly one. Entering a value and entering its items are two steps
for one character, and no character takes more. -/
def ofText? (content : String) : Option Json := do
  let cs := content.toList
  let (value, rest) ← value? (2 * cs.length + 1) cs
  guard (skipBlanks rest).isEmpty
  return value

end FlowModel.Json
