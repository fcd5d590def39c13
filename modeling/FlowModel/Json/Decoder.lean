import FlowModel.Json.Basic

/-!
# Reading values of known shape

A decoder reads a JSON value as a value of some type. It is told how deep arrays and objects may still be nested,
because documents deeper than 127 levels are refused.

Records are written as objects or, in the order of their fields, as arrays. Members that are not fields are
skipped without being read; a repeated field is refused. A value with variants carries a tag, as a member or
as the first item, and is read completely before its variant is decoded: everything below it has to be readable,
also what is skipped. Inside such a value a tag may also be the number of a variant.
-/

namespace FlowModel.Json

/-- How deep arrays and objects of a document may be nested. -/
def nestingLimit : Nat := 127

/-- Reads a value when a number of levels may still be opened. -/
abbrev Decoder (α : Type) := Nat → Json → Option α

/-! ## Plain values -/

/-- A text. -/
def decodeText : Decoder String
  | _, .string literal => literal
  | _, _ => none

/-- A truth value. -/
def decodeBool : Decoder Bool
  | _, .bool value => some value
  | _, _ => none

/-- A whole number between two bounds. -/
def decodeBetween (least greatest : Int) : Decoder Int
  | _, .integer value => if least ≤ value ∧ value ≤ greatest then some value else none
  | _, _ => none

/-- A whole number of 32 bits without a sign. -/
def decodeWord : Decoder Nat := fun depth value => (decodeBetween 0 4294967295 depth value).map Int.toNat

/-- Items of one kind. -/
def decodeList {α : Type} (decode : Decoder α) : Decoder (List α)
  | depth + 1, .array items => items.mapM (decode depth)
  | _, _ => none

/-- A value or null. -/
def decodeNullable {α : Type} (decode : Decoder α) : Decoder (Option α)
  | _, .null => some none
  | depth, value => (decode depth value).map some

/-- One of several constants, written by its name or as an object that maps its name to null. Inside a value
that is read completely an empty object is as good as null. -/
def decodeConstant {α : Type} (inside : Bool) (name : α → String) (constants : List α) : Decoder α
  | _, .string (some written) => constants.find? fun constant => name constant == written
  | _ + 1, .object [(some written, .null)] => constants.find? fun constant => name constant == written
  | _ + 1, .object [(some written, .object [])] =>
    if inside then constants.find? fun constant => name constant == written else none
  | _, _ => none

/-! ## Records -/

/-- The fields of a record as written, and the depth left for their values. -/
structure Fields where
  depth : Nat
  byPosition : Bool
  entries : List (String × Json)

/-- The fields of a record whose declared fields are given: by name from an object, by position from an array. -/
def fields? (declared : List String) : Decoder Fields
  | depth + 1, .array items =>
    if items.length ≤ declared.length then some ⟨depth, true, declared.zip items⟩ else none
  | depth + 1, .object members => do
    let named ← members.mapM fun (name, value) => name.map fun name => (name, value)
    let known := named.filter fun (name, _) => declared.contains name
    guard (known.map Prod.fst).Nodup
    return ⟨depth, false, known⟩
  | _, _ => none

namespace Fields

/-- The value of a field that has to be there. -/
def required {α : Type} (fields : Fields) (name : String) (decode : Decoder α) : Option α :=
  (fields.entries.lookup name).bind (decode fields.depth)

/-- The value of a field that has a value of its own when it is missing. -/
def withDefault {α : Type} (fields : Fields) (name : String) (missing : α) (decode : Decoder α) : Option α :=
  match fields.entries.lookup name with
  | some value => decode fields.depth value
  | none => some missing

/-- The value of a field that may be null. It may be missing from an object, but not from an array. -/
def nullable {α : Type} (fields : Fields) (name : String) (decode : Decoder α) : Option (Option α) :=
  match fields.entries.lookup name with
  | some value => decodeNullable decode fields.depth value
  | none => if fields.byPosition then none else some none

end Fields

/-! ## Variants -/

/-- The tag of a value with variants, and the value without it. -/
def tagged? (tag : String) : Json → Option (Json × Json)
  | .array (first :: rest) => some (first, .array rest)
  | .object members =>
    match members.filter fun (name, _) => name == some tag with
    | [(_, value)] => some (value, .object (members.filter fun (name, _) => name != some tag))
    | _ => none
  | _ => none

/-- The decoder of the variant that a tag stands for: its name or, inside a value that is read completely, its
number. -/
def variant? {α : Type} (inside : Bool) (variants : List (String × Decoder α)) : Json → Option (Decoder α)
  | .string (some name) => variants.lookup name
  | .integer index => if inside ∧ 0 ≤ index then (variants[index.toNat]?).map Prod.snd else none
  | _ => none

/-- A value with variants. -/
def decodeVariant {α : Type} (inside : Bool) (tag : String) (variants : List (String × Decoder α)) : Decoder α :=
  fun depth value => do
    guard (inside || value.isReadable depth)
    let (written, rest) ← tagged? tag value
    let decode ← variant? inside variants written
    decode depth rest

/-- A variant without fields. An array has nothing after the tag; members of an object are skipped. -/
def decodeUnit {α : Type} (value : α) : Decoder α
  | _, .array [] => some value
  | _, .object _ => some value
  | _, _ => none

/-- A variant with one field. -/
def decodeField {α β : Type} (name : String) (decode : Decoder β) (build : β → α) : Decoder α :=
  fun depth value => do
    let fields ← fields? [name] depth value
    return build (← fields.required name decode)

/-- Read a document of some shape. -/
def decodeDocument {α : Type} (decode : Decoder α) (value : Json) : Option α := decode nestingLimit value

end FlowModel.Json
