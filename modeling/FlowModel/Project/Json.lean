import FlowModel.Microflow.Json
import FlowModel.Project.Basic

/-!
# Projects in JSON documents

A snapshot of a project is one JSON document. The body of a document is tagged by the member `kind`, so
everything in it is read completely; the tree of modules and folders around the documents is not.
-/

namespace FlowModel

open Json

/-! ## Domain models -/

namespace AttributeType

def toJson : AttributeType → Json
  | .enumeration name => record [("type", .text "Enumeration"), ("enumeration", .text name)]
  | .string length => record [("type", .text "String"), ("length", .optional .natural length)]
  | type => record [("type", .text type.name)]

def decodeString : Decoder AttributeType := fun depth value => do
  let fields ← fields? ["length"] depth value
  return .string (← fields.withDefault "length" none (decodeNullable decodeWord))

/-- The variants of an attribute's type, in the order of their numbers. -/
def variants : List (String × Decoder AttributeType) := [
  ("AutoNumber", decodeUnit .autoNumber),
  ("Binary", decodeUnit .binary),
  ("Boolean", decodeUnit .boolean),
  ("Currency", decodeUnit .currency),
  ("DateTime", decodeUnit .dateTime),
  ("Decimal", decodeUnit .decimal),
  ("Enumeration", decodeField "enumeration" decodeText .enumeration),
  ("Float", decodeUnit .float),
  ("HashString", decodeUnit .hashString),
  ("Integer", decodeUnit .integer),
  ("Long", decodeUnit .long),
  ("String", decodeString)]

def decode (inside : Bool) : Decoder AttributeType := decodeVariant inside "type" variants

end AttributeType

namespace Attribute

def toJson (declared : Attribute) : Json := record [("name", .text declared.name), ("type", declared.type.toJson)]

def decode (inside : Bool) : Decoder Attribute := fun depth value => do
  let fields ← fields? ["name", "type"] depth value
  return ⟨← fields.required "name" decodeText, ← fields.required "type" (AttributeType.decode inside)⟩

end Attribute

namespace Entity

def toJson (entity : Entity) : Json :=
  record [("name", .text entity.name), ("attributes", .list Attribute.toJson entity.attributes)]

def decode (inside : Bool) : Decoder Entity := fun depth value => do
  let fields ← fields? ["name", "attributes"] depth value
  return ⟨← fields.required "name" decodeText,
    ← fields.withDefault "attributes" [] (decodeList (Attribute.decode inside))⟩

end Entity

namespace DomainModel

/-- The fields of a domain model as written. -/
def toMembers (domainModel : DomainModel) : List (String × Json) := [
  ("entities", .list Entity.toJson domainModel.entities)]

def toJson (domainModel : DomainModel) : Json := record domainModel.toMembers

def decode (inside : Bool) : Decoder DomainModel := fun depth value => do
  let fields ← fields? ["entities"] depth value
  return ⟨← fields.withDefault "entities" [] (decodeList (Entity.decode inside))⟩

end DomainModel

/-! ## Pages -/

namespace DataSource

def toJson : DataSource → Json
  | .directEntity entity => record [("type", .text "DirectEntity"), ("entity", .text entity)]
  | .database entity => record [("type", .text "Database"), ("entity", .text entity)]
  | .microflow name => record [("type", .text "Microflow"), ("microflow", .text name)]

/-- The variants of a data source, in the order of their numbers. -/
def variants : List (String × Decoder DataSource) := [
  ("DirectEntity", decodeField "entity" decodeText .directEntity),
  ("Database", decodeField "entity" decodeText .database),
  ("Microflow", decodeField "microflow" decodeText .microflow)]

def decode (inside : Bool) : Decoder DataSource := decodeVariant inside "type" variants

end DataSource

namespace Widget

mutual

def toJson : Widget → Json
  | .dataView source children =>
    record [("type", .text "DataView"), ("source", source.toJson), ("children", .array (listToJson children))]
  | .listView source children =>
    record [("type", .text "ListView"), ("source", source.toJson), ("children", .array (listToJson children))]
  | .container children => record [("type", .text "Container"), ("children", .array (listToJson children))]
  | .text caption => record [("type", .text "Text"), ("caption", .text caption)]
  | .button caption => record [("type", .text "Button"), ("caption", .text caption)]

def listToJson : List Widget → List Json
  | [] => []
  | widget :: widgets => toJson widget :: listToJson widgets

end

/-- A widget with a source and children, which are read by a given decoder. -/
def decodeView (children : Decoder Widget) (build : DataSource → List Widget → Widget) : Decoder Widget :=
  fun depth value => do
    let fields ← fields? ["source", "children"] depth value
    return build (← fields.required "source" (DataSource.decode true))
      (← fields.withDefault "children" [] (decodeList children))

/-- A container, whose children are read by a given decoder. -/
def decodeContainer (children : Decoder Widget) : Decoder Widget := fun depth value => do
  let fields ← fields? ["children"] depth value
  return .container (← fields.withDefault "children" [] (decodeList children))

/-- A widget that only has a caption. -/
def decodeCaption (build : String → Widget) : Decoder Widget := fun depth value => do
  let fields ← fields? ["caption"] depth value
  return build (← fields.withDefault "caption" "" decodeText)

/-- The variants of a widget, in the order of their numbers, when its children are read by a given decoder. -/
def variants (children : Decoder Widget) : List (String × Decoder Widget) := [
  ("DataView", decodeView children .dataView),
  ("ListView", decodeView children .listView),
  ("Container", decodeContainer children),
  ("Text", decodeCaption .text),
  ("Button", decodeCaption .button)]

/-- A widget inside a value that is read completely, with widgets nested to some depth. -/
def decodeNested : Nat → Decoder Widget
  | 0 => fun _ _ => none
  | nesting + 1 => decodeVariant true "type" (variants (decodeNested nesting))

/-- A widget. Widgets are nested less deeply than the arrays and objects that hold them. -/
def decode (inside : Bool) : Decoder Widget := decodeVariant inside "type" (variants (decodeNested nestingLimit))

end Widget

namespace Page

/-- The fields of a page as written. -/
def toMembers (page : Page) : List (String × Json) := [
  ("name", .text page.name),
  ("excluded", .bool page.excluded),
  ("widgets", .array (Widget.listToJson page.widgets))]

def toJson (page : Page) : Json := record page.toMembers

def decode (inside : Bool) : Decoder Page := fun depth value => do
  let fields ← fields? ["name", "excluded", "widgets"] depth value
  return {
    name := ← fields.required "name" decodeText
    excluded := ← fields.withDefault "excluded" false decodeBool
    widgets := ← fields.withDefault "widgets" [] (decodeList (Widget.decode inside)) }

end Page

/-! ## Documents -/

namespace JavaAction

/-- The fields of a Java action as written. -/
def toMembers (action : JavaAction) : List (String × Json) := [
  ("name", .text action.name),
  ("return_type", .optional DataType.toJson action.returnType)]

def toJson (action : JavaAction) : Json := record action.toMembers

def decode (inside : Bool) : Decoder JavaAction := fun depth value => do
  let fields ← fields? ["name", "return_type"] depth value
  return ⟨← fields.required "name" decodeText,
    ← fields.withDefault "return_type" none (decodeNullable (DataType.decode inside))⟩

end JavaAction

namespace DocumentKind

def toJson (kind : DocumentKind) : Json := .text kind.name

def decode (inside : Bool) : Decoder DocumentKind := decodeConstant inside name all

end DocumentKind

namespace DocumentBody

def toJson (body : DocumentBody) : Json :=
  record (("kind", body.kind.toJson) ::
    match body with
    | .domainModel content => content.toMembers
    | .microflow content => content.toMembers
    | .page content => content.toMembers
    | .javaAction content => content.toMembers)

/-- A variant that is read by the decoder of its content. -/
def decodeContent {α : Type} (decode : Decoder α) (build : α → DocumentBody) : Decoder DocumentBody :=
  fun depth value => (decode depth value).map build

/-- The variants of a body, in the order of their numbers. -/
def variants : List (String × Decoder DocumentBody) := [
  ("DomainModel", decodeContent (DomainModel.decode true) .domainModel),
  ("Microflow", decodeContent (Microflow.decode true) .microflow),
  ("Page", decodeContent (Page.decode true) .page),
  ("JavaAction", decodeContent (JavaAction.decode true) .javaAction)]

def decode : Decoder DocumentBody := decodeVariant false "kind" variants

end DocumentBody

/-! ## Modules -/

namespace Folder

mutual

def toJson : Folder → Json
  | ⟨name, folders, documents⟩ =>
    record [("name", .text name), ("folders", .array (listToJson folders)),
      ("documents", .list DocumentBody.toJson documents)]

def listToJson : List Folder → List Json
  | [] => []
  | folder :: folders => toJson folder :: listToJson folders

end

/-- A folder with folders nested to some depth. -/
def decodeNested : Nat → Decoder Folder
  | 0 => fun _ _ => none
  | nesting + 1 => fun depth value => do
    let fields ← fields? ["name", "folders", "documents"] depth value
    return {
      name := ← fields.required "name" decodeText
      folders := ← fields.withDefault "folders" [] (decodeList (decodeNested nesting))
      documents := ← fields.withDefault "documents" [] (decodeList DocumentBody.decode) }

/-- A folder. Folders are nested less deeply than the arrays and objects that hold them. -/
def decode : Decoder Folder := decodeNested nestingLimit

end Folder

namespace Module

def toJson (aModule : Module) : Json :=
  record [("name", .text aModule.name), ("domain_model", aModule.domainModel.toJson),
    ("folders", .array (Folder.listToJson aModule.folders)),
    ("documents", .list DocumentBody.toJson aModule.documents)]

def decode : Decoder Module := fun depth value => do
  let fields ← fields? ["name", "domain_model", "folders", "documents"] depth value
  return {
    name := ← fields.required "name" decodeText
    domainModel := ← fields.withDefault "domain_model" ⟨[]⟩ (DomainModel.decode false)
    folders := ← fields.withDefault "folders" [] (decodeList Folder.decode)
    documents := ← fields.withDefault "documents" [] (decodeList DocumentBody.decode) }

end Module

namespace Project

def toJson (project : Project) : Json := record [("modules", .list Module.toJson project.modules)]

def decode : Decoder Project := fun depth value => do
  let fields ← fields? ["modules"] depth value
  return ⟨← fields.withDefault "modules" [] (decodeList Module.decode)⟩

/-- The project that a JSON document holds. -/
def ofText? (content : String) : Option Project := do
  decodeDocument decode (← Json.ofText? content)

end Project

end FlowModel
