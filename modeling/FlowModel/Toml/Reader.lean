import FlowModel.Toml.Basic

/-!
# Reading TOML text

The reader follows the grammar of TOML 1.1. Inline tables may span lines and end in a comma; arrays and inline tables
are nested at most 80 deep, and keys have at most 80 parts. A byte order mark at the start is skipped.

Numbers are read in a generous way: a base need not be followed by digits, and once a number has an underscore, other
characters may take the place of digits. Such texts are whole numbers that denote none, so they can be skipped, but not
read.
-/

namespace FlowModel.Toml

/-! ## Characters -/

/-- Blanks within a line. -/
def isBlank (c : Char) : Bool := c == ' ' || c == '\t'

/-- Characters of text: no controls but the tab. -/
def isText (c : Char) : Bool := c == '\t' || (' ' ≤ c && c != '\x7f')

/-- Characters of keys without quotes. -/
def isBare (c : Char) : Bool := c.isAlphanum || c == '_' || c == '-'

/-- The text after leading blanks. -/
def skipBlanks (cs : List Char) : List Char := cs.dropWhile isBlank

/-- The text after a line break. -/
def lineBreak? : List Char → Option (List Char)
  | '\n' :: rest => some rest
  | '\r' :: '\n' :: rest => some rest
  | _ => none

/-- The text after a comment, if one starts here; its characters have to be text. -/
def skipComment? : List Char → Option (List Char)
  | '#' :: rest =>
    let after := rest.dropWhile isText
    if after.isEmpty || (lineBreak? after).isSome then some after else none
  | cs => some cs

/-- The text after blanks, comments and line breaks, over a number of lines at most. -/
def skipLines? : Nat → List Char → Option (List Char)
  | 0, cs => some cs
  | atMost + 1, cs => do
    let after ← skipComment? (skipBlanks cs)
    match lineBreak? after with
    | some rest => skipLines? atMost rest
    | none => return after

/-- The text after the end of a line, which may hold a comment. -/
def lineEnd? (cs : List Char) : Option (List Char) := do
  let after ← skipComment? (skipBlanks cs)
  if after.isEmpty then return after else lineBreak? after

/-! ## Numbers written by digits -/

/-- The value of a digit in bases up to sixteen. -/
def digitValue? (base : Nat) (c : Char) : Option Nat :=
  let value? :=
    if '0' ≤ c ∧ c ≤ '9' then some (c.toNat - '0'.toNat)
    else if 'a' ≤ c ∧ c ≤ 'f' then some (c.toNat - 'a'.toNat + 10)
    else if 'A' ≤ c ∧ c ≤ 'F' then some (c.toNat - 'A'.toNat + 10)
    else none
  value?.filter (· < base)

/-- The number written by digits. -/
def ofDigits? (base : Nat) (cs : List Char) : Option Nat :=
  cs.foldlM (fun value c => (digitValue? base c).map fun digit => value * base + digit) 0

/-- Digits without the single underscores between them; at least one digit. -/
def joinDigits? (base : Nat) : List Char → Option (List Char)
  | [] => none
  | [c] => if (digitValue? base c).isSome then some [c] else none
  | c :: '_' :: next :: rest =>
    if (digitValue? base c).isSome then (joinDigits? base (next :: rest)).map (c :: ·) else none
  | c :: next :: rest =>
    if (digitValue? base c).isSome then (joinDigits? base (next :: rest)).map (c :: ·) else none

/-- Whether a number has a minus sign, and the number without its sign, if it has one. -/
def signed : List Char → Bool × List Char
  | '-' :: rest => (true, rest)
  | '+' :: rest => (false, rest)
  | cs => (false, cs)

/-- A number with a sign. -/
def withSign (negative : Bool) (magnitude : Nat) : Int := if negative then -magnitude else magnitude

/-- Decimal digits of a whole number: a zero alone or digits that do not start with a zero. -/
def wholeDigits? (cs : List Char) : Option (List Char) :=
  (joinDigits? 10 cs).filter fun digits => digits.length == 1 || digits.head? != some '0'

/-- A whole number in base ten. -/
def decimal? (cs : List Char) : Option Int := do
  let (negative, rest) := signed cs
  return withSign negative (← ofDigits? 10 (← wholeDigits? rest))

/-- The digits after the letter of a base. Without any they denote no number. -/
def based? (base : Nat) (digits : List Char) : Option Toml :=
  if digits.isEmpty then some (.integer none)
  else (joinDigits? base digits).bind fun joined => (ofDigits? base joined).map fun value => .integer (some value)

/-- Whether a character is a digit in base sixteen. -/
def isHexDigit (c : Char) : Bool := (digitValue? 16 c).isSome

/-- Whether every underscore stands between two digits of base sixteen. -/
def isJoined : List Char → Bool
  | [] => true
  | '_' :: _ => false
  | c :: '_' :: next :: rest => isHexDigit c && isHexDigit next && isJoined (next :: rest)
  | _ :: rest => isJoined rest

/-- Whether a text is taken for a whole number by its start: a sign or none, decimal digits that do not start with a
zero, and an underscore. What follows is neither a fraction nor an exponent, and underscores join. -/
def startsAsDecimal (cs : List Char) : Bool :=
  let (_, rest) := signed cs
  let later := rest.dropWhile Char.isDigit
  isJoined rest && later.head? == some '_' && rest.head? != some '0' &&
    later.all fun c => c != '.' && c != 'e' && c != 'E' && c != ' '

/-- A whole number. Other bases than ten have no sign. -/
def integer? : List Char → Option Toml
  | '0' :: 'x' :: rest => based? 16 rest
  | '0' :: 'o' :: rest => based? 8 rest
  | '0' :: 'b' :: rest => based? 2 rest
  | cs =>
    match decimal? cs with
    | some value => some (.integer (some value))
    | none => if startsAsDecimal cs then some (.integer none) else none

/-- The exponent of a float after its letter. -/
def exponent? (cs : List Char) : Option Int := do
  let (negative, rest) := signed cs
  return withSign negative (← ofDigits? 10 (← joinDigits? 10 rest))

/-- Whether a character starts an exponent. -/
def isExponentLetter (c : Char) : Bool := c == 'e' || c == 'E'

/-- A float: a whole part with a fraction, an exponent or both, or one of the words for numbers that are not
finite. -/
def float? (cs : List Char) : Option Toml := do
  let (negative, rest) := signed cs
  if rest = ['i', 'n', 'f'] ∨ rest = ['n', 'a', 'n'] then return .float none
  let mantissa := rest.takeWhile fun c => !isExponentLetter c
  let power := rest.dropWhile fun c => !isExponentLetter c
  let whole ← wholeDigits? (mantissa.takeWhile (· != '.'))
  let point := mantissa.dropWhile (· != '.')
  guard (!(point.isEmpty && power.isEmpty))
  let fraction ← if point.isEmpty then pure [] else joinDigits? 10 point.tail
  let exponent ← if power.isEmpty then pure 0 else exponent? power.tail
  return .float (some (withSign negative (← ofDigits? 10 (whole ++ fraction)), exponent - fraction.length))

/-! ## Dates and times -/

/-- A number of fixed width that is within bounds. -/
def fixedNumber? (cs : List Char) (least greatest : Nat) : Option Nat :=
  (ofDigits? 10 cs).filter fun value => least ≤ value && value ≤ greatest

/-- The number of days of a month. -/
def daysOfMonth (year month : Nat) : Nat :=
  if month = 2 then
    if year % 4 = 0 ∧ (year % 100 ≠ 0 ∨ year % 400 = 0) then 29 else 28
  else if month = 4 ∨ month = 6 ∨ month = 9 ∨ month = 11 then 30
  else 31

/-- The text after a date. -/
def date? : List Char → Option (List Char)
  | y₁ :: y₂ :: y₃ :: y₄ :: '-' :: m₁ :: m₂ :: '-' :: d₁ :: d₂ :: rest => do
    let year ← ofDigits? 10 [y₁, y₂, y₃, y₄]
    let month ← fixedNumber? [m₁, m₂] 1 12
    let _ ← fixedNumber? [d₁, d₂] 1 (daysOfMonth year month)
    return rest
  | _ => none

/-- The text after the seconds of a time and their fraction, which may both be missing. -/
def seconds? : List Char → Option (List Char)
  | ':' :: s₁ :: s₂ :: rest => do
    let _ ← fixedNumber? [s₁, s₂] 0 60
    match rest with
    | '.' :: fraction =>
      if (fraction.takeWhile Char.isDigit).isEmpty then none else return fraction.dropWhile Char.isDigit
    | _ => return rest
  | ':' :: _ => none
  | cs => some cs

/-- The text after a time. -/
def time? : List Char → Option (List Char)
  | h₁ :: h₂ :: ':' :: m₁ :: m₂ :: rest => do
    let _ ← fixedNumber? [h₁, h₂] 0 23
    let _ ← fixedNumber? [m₁, m₂] 0 59
    seconds? rest
  | _ => none

/-- Whether a text is the offset of a time, which may be missing. -/
def isOffset : List Char → Bool
  | [] => true
  | ['Z'] | ['z'] => true
  | sign :: h₁ :: h₂ :: ':' :: m₁ :: m₂ :: [] =>
    (sign == '+' || sign == '-') && (fixedNumber? [h₁, h₂] 0 23).isSome && (fixedNumber? [m₁, m₂] 0 59).isSome
  | _ => false

/-- Whether a character stands between a date and a time. -/
def isTimeMark (c : Char) : Bool := c == 'T' || c == 't' || c == ' '

/-- A date, a time, or a date with a time and perhaps its offset. -/
def dateTime? (cs : List Char) : Option Toml :=
  match date? cs with
  | some [] => some .date
  | some (mark :: rest) => do
    guard (isTimeMark mark && isOffset (← time? rest))
    return .date
  | none => do
    guard (← time? cs).isEmpty
    return .date

/-! ## Strings -/

/-- The character with a number, if there is one. -/
def scalar? (code : Nat) : Option Char :=
  if code < 0xd800 ∨ (0xe000 ≤ code ∧ code < 0x110000) then some (Char.ofNat code) else none

/-- The character written by hexadecimal digits. -/
def hexChar? (cs : List Char) : Option Char := do scalar? (← ofDigits? 16 cs)

/-- The character that one character stands for after a backslash. -/
def escapeChar? : Char → Option Char
  | '"' => some '"'
  | '\\' => some '\\'
  | 'b' => some '\x08'
  | 'e' => some '\x1b'
  | 'f' => some '\x0c'
  | 'n' => some '\n'
  | 'r' => some '\r'
  | 't' => some '\t'
  | _ => none

/-- Put a character, if there is one, in front of a result. -/
def consChar? (c? : Option Char) (read? : Option (List Char × List Char)) : Option (List Char × List Char) := do
  let c ← c?
  let (cs, rest) ← read?
  return (c :: cs, rest)

/-- A string on one line after its opening quote, and the text after it. -/
def basicString? : List Char → Option (List Char × List Char)
  | [] => none
  | '"' :: rest => some ([], rest)
  | '\\' :: 'x' :: a :: b :: rest => consChar? (hexChar? [a, b]) (basicString? rest)
  | '\\' :: 'u' :: a :: b :: c :: d :: rest => consChar? (hexChar? [a, b, c, d]) (basicString? rest)
  | '\\' :: 'U' :: a :: b :: c :: d :: e :: f :: g :: h :: rest =>
    consChar? (hexChar? [a, b, c, d, e, f, g, h]) (basicString? rest)
  | '\\' :: c :: rest => consChar? (escapeChar? c) (basicString? rest)
  | c :: rest => consChar? ((some c).filter isText) (basicString? rest)

/-- A literal string on one line after its opening quote, and the text after it. -/
def literalString? : List Char → Option (List Char × List Char)
  | [] => none
  | '\'' :: rest => some ([], rest)
  | c :: rest => consChar? ((some c).filter isText) (literalString? rest)

/-- The end of a string over several lines after three of its quotes: up to two more of them belong to the string. -/
def closeString? (quote : Char) (cs : List Char) : Option (List Char × List Char) :=
  let more := cs.takeWhile (· == quote)
  if more.length ≤ 2 then some (more, cs.dropWhile (· == quote)) else none

/-- Whether nothing but blanks is left on a line. -/
def lineIsDone (cs : List Char) : Bool := (lineBreak? (skipBlanks cs)).isSome

/-- A string over several lines after its opening quotes, and the text after it. While blanks are skipped, the string
goes on at the next character that is neither a blank nor a line break. -/
def longBasicString? : Bool → List Char → Option (List Char × List Char)
  | _, [] => none
  | _, '"' :: '"' :: '"' :: rest => closeString? '"' rest
  | skipping, '\r' :: '\n' :: rest =>
    if skipping then longBasicString? true rest
    else consChar? (some '\r') (consChar? (some '\n') (longBasicString? false rest))
  | skipping, '\n' :: rest =>
    if skipping then longBasicString? true rest else consChar? (some '\n') (longBasicString? false rest)
  | _, '\\' :: 'x' :: a :: b :: rest => consChar? (hexChar? [a, b]) (longBasicString? false rest)
  | _, '\\' :: 'u' :: a :: b :: c :: d :: rest => consChar? (hexChar? [a, b, c, d]) (longBasicString? false rest)
  | _, '\\' :: 'U' :: a :: b :: c :: d :: e :: f :: g :: h :: rest =>
    consChar? (hexChar? [a, b, c, d, e, f, g, h]) (longBasicString? false rest)
  | _, '\\' :: c :: rest =>
    if lineIsDone (c :: rest) then longBasicString? true (c :: rest)
    else consChar? (escapeChar? c) (longBasicString? false rest)
  | skipping, c :: rest =>
    if skipping && isBlank c then longBasicString? true rest
    else consChar? ((some c).filter isText) (longBasicString? false rest)

/-- A literal string over several lines after its opening quotes, and the text after it. -/
def longLiteralString? : List Char → Option (List Char × List Char)
  | [] => none
  | '\'' :: '\'' :: '\'' :: rest => closeString? '\'' rest
  | '\r' :: '\n' :: rest => consChar? (some '\r') (consChar? (some '\n') (longLiteralString? rest))
  | '\n' :: rest => consChar? (some '\n') (longLiteralString? rest)
  | c :: rest => consChar? ((some c).filter isText) (longLiteralString? rest)

/-- The text after a line break right at the start, which is not part of a string over several lines. -/
def skipFirstBreak (cs : List Char) : List Char := (lineBreak? cs).getD cs

/-! ## Keys -/

/-- One part of a key, and the text after it. -/
def keyPart? : List Char → Option (String × List Char)
  | '"' :: rest => (basicString? rest).map fun (cs, rest) => (String.ofList cs, rest)
  | '\'' :: rest => (literalString? rest).map fun (cs, rest) => (String.ofList cs, rest)
  | cs =>
    let bare := cs.takeWhile isBare
    if bare.isEmpty then none else some (String.ofList bare, cs.dropWhile isBare)

/-- The parts of a key, a number of parts at most, and the text after it and its blanks. -/
def keyParts? : Nat → List Char → Option (List String × List Char)
  | 0, _ => none
  | atMost + 1, cs => do
    let (part, rest) ← keyPart? (skipBlanks cs)
    match skipBlanks rest with
    | '.' :: rest =>
      let (parts, rest) ← keyParts? atMost rest
      return (part :: parts, rest)
    | rest => return ([part], rest)

/-- How many parts a key may have, and how deep arrays and inline tables may be nested. -/
def nestingLimit : Nat := 80

/-- The parts of a key, and the text after it and its blanks. -/
def key? (cs : List Char) : Option (List String × List Char) := keyParts? nestingLimit cs

/-! ## Values -/

/-- Whether a character can be part of a number, a date or a word: those that structure a document cannot. -/
def isAtomic (c : Char) : Bool :=
  !(['=', ',', '[', ']', '\x7b', '\x7d', '#', ' ', '\t', '\r', '\n'].contains c)

/-- Whether a number, a date or a word goes on after blanks. -/
def goesOn (cs : List Char) : Bool := (skipBlanks cs).head?.any fun c => isAtomic c && c != '"' && c != '\''

/-- The characters of a number, a date or a word with the blanks between them, and the text after them. -/
def atom : List Char → List Char × List Char
  | [] => ([], [])
  | c :: rest =>
    if isAtomic c || (isBlank c && goesOn rest) then
      let (characters, rest) := atom rest
      (c :: characters, rest)
    else
      ([], c :: rest)

/-- The value of a number, a date or a word. -/
def atomValue? (cs : List Char) : Option Toml :=
  if cs = ['t', 'r', 'u', 'e'] then some (.bool true)
  else if cs = ['f', 'a', 'l', 's', 'e'] then some (.bool false)
  else integer? cs <|> float? cs <|> dateTime? cs

mutual

/-- The value at the start of a text, with arrays and inline tables nested to some depth, and the text after it. -/
def value? : Nat → Nat → List Char → Option (Toml × List Char)
  | 0, _, _ => none
  | fuel + 1, depth, cs =>
    match cs with
    | '"' :: '"' :: '"' :: rest =>
      (longBasicString? false (skipFirstBreak rest)).map fun (cs, rest) => (.string (String.ofList cs), rest)
    | '"' :: rest => (basicString? rest).map fun (cs, rest) => (.string (String.ofList cs), rest)
    | '\'' :: '\'' :: '\'' :: rest =>
      (longLiteralString? (skipFirstBreak rest)).map fun (cs, rest) => (.string (String.ofList cs), rest)
    | '\'' :: rest => (literalString? rest).map fun (cs, rest) => (.string (String.ofList cs), rest)
    | '[' :: rest =>
      match depth with
      | 0 => none
      | depth + 1 => (items? fuel depth rest).map fun (items, rest) => (.array items, rest)
    | '\x7b' :: rest =>
      match depth with
      | 0 => none
      | depth + 1 => (entries? fuel depth [] rest).map fun (slots, rest) => (.table (ofSlots slots), rest)
    | cs => do
      let (characters, rest) := atom cs
      return (← atomValue? characters, rest)

/-- The items of an array up to its closing bracket. -/
def items? : Nat → Nat → List Char → Option (List Toml × List Char)
  | 0, _, _ => none
  | fuel + 1, depth, cs => do
    match ← skipLines? cs.length cs with
    | ']' :: rest => return ([], rest)
    | cs =>
      let (item, rest) ← value? fuel depth cs
      match ← skipLines? rest.length rest with
      | ',' :: rest =>
        let (items, rest) ← items? fuel depth rest
        return (item :: items, rest)
      | ']' :: rest => return ([item], rest)
      | _ => none

/-- The entries of an inline table up to its closing brace, added to those before. -/
def entries? : Nat → Nat → Table → List Char → Option (Table × List Char)
  | 0, _, _, _ => none
  | fuel + 1, depth, slots, cs => do
    match ← skipLines? cs.length cs with
    | '\x7d' :: rest => return (slots, rest)
    | cs =>
      let (path, rest) ← key? cs
      match ← skipLines? rest.length rest with
      | '=' :: rest =>
        let (value, rest) ← value? fuel depth (← skipLines? rest.length rest)
        let slots ← Table.insert? value path slots
        match ← skipLines? rest.length rest with
        | ',' :: rest => entries? fuel depth slots rest
        | '\x7d' :: rest => return (slots, rest)
        | _ => none
      | _ => none

end

/-! ## Documents -/

/-- Cut the last key off a path. -/
def unsnoc? : List String → Option (List String × String)
  | [] => none
  | [key] => some ([], key)
  | key :: path => (unsnoc? path).map fun (front, last) => (key :: front, last)

/-- Open the table that a header names. -/
def header? (openLast : String → Table → Option Table) (path : List String) (root : Table) : Option Table := do
  let (front, last) ← unsnoc? path
  Table.under? (openLast last) front root

/-- The lines of a document, over a number of lines at most: the path of the table being filled, all tables so far and
the text to read. -/
def lines? : Nat → List String → Table → List Char → Option Table
  | 0, _, _, _ => none
  | atMost + 1, current, root, cs =>
    match skipBlanks cs with
    | [] => some root
    | '[' :: '[' :: rest => do
      let (path, rest) ← key? rest
      match rest with
      | ']' :: ']' :: rest => lines? atMost path (← header? Table.openItem? path root) (← lineEnd? rest)
      | _ => none
    | '[' :: rest => do
      let (path, rest) ← key? rest
      match rest with
      | ']' :: rest => lines? atMost path (← header? Table.open? path root) (← lineEnd? rest)
      | _ => none
    | c :: rest =>
      if c = '#' ∨ (lineBreak? (c :: rest)).isSome then do
        lines? atMost current root (← lineEnd? (c :: rest))
      else do
        let (path, rest) ← key? (c :: rest)
        match rest with
        | '=' :: rest =>
          let (value, rest) ← value? (2 * rest.length + 1) nestingLimit (skipBlanks rest)
          lines? atMost current (← Table.under? (Table.insert? value path) current root) (← lineEnd? rest)
        | _ => none

/-- The table that a document writes. -/
def ofText? (content : String) : Option Toml := do
  let cs := match content.toList with
    | '\ufeff' :: rest => rest
    | cs => cs
  let root ← lines? (cs.length + 1) [] [] cs
  return .table (ofSlots root)

end FlowModel.Toml
