import FlowModel.Text.DecimalRange

/-!
# JSON values

The values of JSON documents as they are written: members keep their order and may repeat, whole numbers are
apart from numbers with a fraction or an exponent, and a string literal whose escapes leave a surrogate without
its partner denotes no text. Such values can be skipped, but not read, and neither can numbers out of range.
-/

namespace FlowModel

/-- A JSON value. `decimal significand exponent` is the significand, of which no more digits are kept than fit in 64
bits, times ten to the exponent; minus zero and whole numbers of more than 64 bits are written as these. -/
inductive Json where
  | null
  | bool (value : Bool)
  | integer (value : Int)
  | decimal (significand exponent : Int)
  | string (text : Option String)
  | array (items : List Json)
  | object (members : List (Option String × Json))
deriving Repr, Inhabited, BEq

namespace Json

/-- A string with a text. -/
def text (content : String) : Json := .string (some content)

/-- A whole number that is not negative. -/
def natural (value : Nat) : Json := .integer value

/-- A list of values of one kind. -/
def list {α : Type} (write : α → Json) (values : List α) : Json := .array (values.map write)

/-- A value that may be missing. -/
def optional {α : Type} (write : α → Json) : Option α → Json
  | none => .null
  | some value => write value

/-- An object with named members. -/
def record (members : List (String × Json)) : Json :=
  .object (members.map fun (name, value) => (some name, value))

/-- Whether a value can be read completely when arrays and objects may be nested to some depth: every string
and member name has a text and every number is in range. -/
def isReadable : Nat → Json → Bool
  | _, .null | _, .bool _ => true
  | _, .integer _ => true
  | _, .decimal significand exponent => productInRange significand.natAbs exponent
  | _, .string literal => literal.isSome
  | 0, .array _ | 0, .object _ => false
  | depth + 1, .array items => items.all fun item => isReadable depth item
  | depth + 1, .object members => members.all fun (name, value) => name.isSome && isReadable depth value

end Json

end FlowModel
