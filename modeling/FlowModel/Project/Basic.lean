import FlowModel.Microflow.Basic

/-!
# Projects

A project is a list of modules. A module has one domain model and a tree of folders with documents: domain models,
microflows, pages and Java actions. Pages are trees of widgets, domain models are lists of entities with typed
attributes.
-/

namespace FlowModel

/-! ## Domain models -/

/-- Declared type of an attribute. -/
inductive AttributeType where
  | autoNumber
  | binary
  | boolean
  | currency
  | dateTime
  | decimal
  | enumeration (name : String)
  | float
  | hashString
  | integer
  | long
  | string (length : Option Nat)
deriving DecidableEq, Repr, Inhabited

/-- Name of a type without its details. -/
def AttributeType.name : AttributeType → String
  | .autoNumber => "AutoNumber"
  | .binary => "Binary"
  | .boolean => "Boolean"
  | .currency => "Currency"
  | .dateTime => "DateTime"
  | .decimal => "Decimal"
  | .enumeration _ => "Enumeration"
  | .float => "Float"
  | .hashString => "HashString"
  | .integer => "Integer"
  | .long => "Long"
  | .string _ => "String"

/-- An attribute of an entity. -/
structure Attribute where
  name : String
  type : AttributeType
deriving DecidableEq, Repr, Inhabited

/-- An entity. The order of its attributes is the order in which they are checked. -/
structure Entity where
  name : String
  attributes : List Attribute
deriving DecidableEq, Repr, Inhabited

/-- The entities of a module. -/
structure DomainModel where
  entities : List Entity
deriving DecidableEq, Repr, Inhabited

/-- The first entity with a name. -/
def DomainModel.entity? (domainModel : DomainModel) (name : String) : Option Entity :=
  domainModel.entities.find? fun entity => entity.name == name

/-! ## Pages -/

/-- Where a widget takes its objects from: a parameter of the page, the database or a microflow. -/
inductive DataSource where
  | directEntity (entity : String)
  | database (entity : String)
  | microflow (name : String)
deriving DecidableEq, Repr, Inhabited

/-- A widget of a page. -/
inductive Widget where
  | dataView (source : DataSource) (children : List Widget)
  | listView (source : DataSource) (children : List Widget)
  | container (children : List Widget)
  | text (caption : String)
  | button (caption : String)
deriving Repr, Inhabited, BEq

/-- The widgets directly below a widget. -/
def Widget.children : Widget → List Widget
  | .dataView _ children => children
  | .listView _ children => children
  | .container children => children
  | .text _ | .button _ => []

/-- A page. -/
structure Page where
  name : String
  excluded : Bool
  widgets : List Widget
deriving Repr, Inhabited, BEq

/-! ## Documents -/

/-- A Java action and the type of its result, if it has one. -/
structure JavaAction where
  name : String
  returnType : Option DataType
deriving DecidableEq, Repr, Inhabited

/-- Kind of a document. -/
inductive DocumentKind where
  | domainModel
  | microflow
  | page
  | javaAction
deriving DecidableEq, Repr, Inhabited

namespace DocumentKind

/-- Name of a kind in documents. -/
def name : DocumentKind → String
  | .domainModel => "DomainModel"
  | .microflow => "Microflow"
  | .page => "Page"
  | .javaAction => "JavaAction"

/-- Name of a kind for readers. -/
def text : DocumentKind → String
  | .domainModel => "domain model"
  | .microflow => "microflow"
  | .page => "page"
  | .javaAction => "Java action"

/-- All kinds. -/
def all : List DocumentKind := [.domainModel, .microflow, .page, .javaAction]

end DocumentKind

/-- Content of a document. -/
inductive DocumentBody where
  | domainModel (content : DomainModel)
  | microflow (content : Microflow)
  | page (content : Page)
  | javaAction (content : JavaAction)
deriving Repr, Inhabited, BEq

namespace DocumentBody

/-- The kind of the document. -/
def kind : DocumentBody → DocumentKind
  | .domainModel _ => .domainModel
  | .microflow _ => .microflow
  | .page _ => .page
  | .javaAction _ => .javaAction

/-- The name of the document; all domain models have one name. -/
def name : DocumentBody → String
  | .domainModel _ => "DomainModel"
  | .microflow content => content.name
  | .page content => content.name
  | .javaAction content => content.name

end DocumentBody

/-! ## Modules -/

/-- A folder with its folders and documents. -/
structure Folder where
  name : String
  folders : List Folder
  documents : List DocumentBody
deriving Repr, Inhabited

/-- A module with its domain model, folders and documents. -/
structure Module where
  name : String
  domainModel : DomainModel
  folders : List Folder
  documents : List DocumentBody
deriving Repr, Inhabited

/-- A project. -/
structure Project where
  modules : List Module
deriving Repr, Inhabited

end FlowModel
