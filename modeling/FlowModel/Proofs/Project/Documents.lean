import FlowModel.Project.Json
import FlowModel.Proofs.Microflow.Documents

/-!
# Projects as they are written and read

A project whose numbers are in the range of their types, and whose written form is nested no deeper
than documents may be, is read back from every text that writes it, and the text that is written for
it is one of these (`Project.ofText?_written`). Widgets and folders contain others of their kind: they
are read back by induction on the number of levels that are left for them
(`Widget.decodeNested_toJson`, `Folder.decodeNested_toJson`).
-/

namespace FlowModel

open Json

/-! ## Ranges -/

/-- The greatest length of a text, if there is one, is a number of 32 bits. -/
def AttributeType.InRange : AttributeType → Prop
  | .string (some length) => length ≤ 4294967295
  | _ => True

/-- The numbers in the types of all attributes are in range. -/
def DomainModel.InRange (domainModel : DomainModel) : Prop :=
  ∀ entity ∈ domainModel.entities, ∀ declared ∈ entity.attributes, declared.type.InRange

/-- All numbers in a document are in range. Pages and Java actions have none. -/
def DocumentBody.InRange : DocumentBody → Prop
  | .domainModel content => content.InRange
  | .microflow content => content.InRange
  | .page _ | .javaAction _ => True

/-- All numbers in the documents in and below a folder are in range. -/
inductive Folder.InRange : Folder → Prop where
  | intro {name : String} {folders : List Folder} {documents : List DocumentBody}
    (below : ∀ folder ∈ folders, Folder.InRange folder)
    (directly : ∀ body ∈ documents, body.InRange) : InRange ⟨name, folders, documents⟩

/-- All numbers in the documents of a module are in range. -/
structure Module.InRange (aModule : Module) : Prop where
  domainModel : aModule.domainModel.InRange
  folders : ∀ folder ∈ aModule.folders, folder.InRange
  documents : ∀ body ∈ aModule.documents, body.InRange

/-- All numbers in a project are in range. -/
def Project.InRange (project : Project) : Prop := ∀ aModule ∈ project.modules, aModule.InRange

/-! ## Domain models -/

namespace AttributeType

/-- The length of a text is read back, also when it is missing. -/
theorem decodes_string {length : Option Nat} (inRange : (string length).InRange) :
    Decodes decodeString (record [("length", .optional .natural length)]) (.string length) := by
  have bounded : Decodes (decodeNullable decodeWord) (.optional .natural length) length := by
    refine decodes_nullable (fun _ => nofun) ?_
    rintro content rfl
    exact decodes_word inRange
  exact decodes_record (fun _ _ => rfl) rfl (by decide)
    (.field (.withDefault bounded) (.built _))

/-- The type of an attribute is read back, in each of its twelve forms. -/
theorem decodes (inside : Bool) {type : AttributeType} (inRange : type.InRange) :
    Decodes (decode inside) type.toJson type := by
  cases type with
  | autoNumber | binary | boolean | currency | dateTime | decimal | float | hashString | integer
  | long =>
    exact decodes_variant inside rfl (by decide) (decodes_unit _)
  | enumeration name =>
    exact decodes_variant inside rfl (by simp) (decodes_field (decodes_text name))
  | string length => exact decodes_variant inside rfl (by simp) (decodes_string inRange)

end AttributeType

/-- An attribute is read back if the length of its type, if it has one, fits into a word. -/
theorem Attribute.decodes (inside : Bool) {declared : Attribute} (inRange : declared.type.InRange) :
    Decodes (decode inside) declared.toJson declared :=
  decodes_record (fun _ _ => rfl) rfl (by decide)
    (.field (.required (decodes_text _))
      (.field (.required (AttributeType.decodes inside inRange)) (.built _)))

/-- An entity is read back with its attributes in order, those of the same name among them. -/
theorem Entity.decodes (inside : Bool) {entity : Entity}
    (inRange : ∀ declared ∈ entity.attributes, declared.type.InRange) :
    Decodes (decode inside) entity.toJson entity := by
  have attributes := decodes_list fun declared isAttribute =>
    Attribute.decodes inside (inRange declared isAttribute)
  exact decodes_record (fun _ _ => rfl) rfl (by decide)
    (.field (.required (decodes_text _))
      (.field (.withDefault attributes) (.built _)))

/-- A domain model is read back with its entities in order. -/
theorem DomainModel.decodes (inside : Bool) {domainModel : DomainModel}
    (inRange : domainModel.InRange) :
    Decodes (decode inside) domainModel.toJson domainModel := by
  have entities := decodes_list fun entity isEntity =>
    Entity.decodes inside (inRange entity isEntity)
  exact decodes_record (fun _ _ => rfl) rfl (by decide)
    (.field (.withDefault entities) (.built _))

/-! ## Pages -/

/-- A data source is read back with its kind, by which it is told whether it takes the entity. -/
theorem DataSource.decodes (inside : Bool) (source : DataSource) :
    Decodes (decode inside) source.toJson source := by
  cases source with
  | directEntity name | database name | microflow name =>
    exact decodes_variant inside rfl (by simp) (decodes_field (decodes_text name))

namespace Widget

/-- The widgets of a list are written like any list. -/
theorem array_listToJson (widgets : List Widget) :
    Json.array (listToJson widgets) = .list toJson widgets :=
  congrArg Json.array
    (eq_map_of_cons (by rw [listToJson]) (fun _ _ => by rw [listToJson]) widgets)

/-- What is written for a widget is plain, because that is so for the widgets below it. -/
theorem plain_toJson :
    (∀ widget : Widget, (toJson widget).Plain) ∧
    ∀ widgets : List Widget, ∀ item ∈ listToJson widgets, item.Plain := by
  apply Widget.toJson.mutual_induct
  case case1 =>
    intro source children below
    rw [toJson]
    exact .record (by simp [(source.decodes true).plain, Plain.array below])
  case case2 =>
    intro source children below
    rw [toJson]
    exact .record (by simp [(source.decodes true).plain, Plain.array below])
  case case3 =>
    intro children below
    rw [toJson]
    exact .record (by simp [Plain.array below])
  case case4 =>
    intro caption
    rw [toJson]
    exact .record (by simp)
  case case5 =>
    intro caption
    rw [toJson]
    exact .record (by simp)
  case case6 => exact nofun
  case case7 =>
    intro widget widgets first later
    rw [listToJson]
    exact List.forall_mem_cons.mpr ⟨first, later⟩

/-- Widgets are read back with less than some number of levels. -/
def ReadsBelow (decode : Decoder Widget) (depth : Nat) (widgets : List Widget) : Prop :=
  ∀ widget ∈ widgets, ∀ below < depth, (toJson widget).nestsWithin below = true →
    decode below (toJson widget) = some widget

/-- What is read at some depth is read at a lower one. -/
theorem ReadsBelow.mono {decode : Decoder Widget} {below depth : Nat} {widgets : List Widget}
    (reads : ReadsBelow decode depth widgets) (less : below < depth) :
    ReadsBelow decode below widgets :=
  fun widget inside under lessStill => reads widget inside under (Nat.lt_trans lessStill less)

/-- A data view or a list view is read back if the widgets in it are. -/
theorem decodeView_record {decode : Decoder Widget} {build : DataSource → List Widget → Widget}
    {source : DataSource} {children : List Widget} {depth : Nat} (limited : depth ≤ nestingLimit)
    (fits : (record [("source", source.toJson), ("children", .list toJson children)]).nestsWithin
      depth = true) (reads : ReadsBelow decode depth children) :
    decodeView decode build depth
      (record [("source", source.toJson), ("children", .list toJson children)]) =
        some (build source children) := by
  refine decode_record (fun _ _ => rfl) rfl (by decide) fits ?_
  intro below less fitsMembers
  simp only [List.forall_mem_cons] at fitsMembers
  have readSource := (source.decodes true).reads
    (Nat.le_trans (Nat.le_of_lt less) limited) fitsMembers.1
  have readChildren := decodeList_list fitsMembers.2.1 (reads.mono less)
  simp [Fields.required, Fields.withDefault, lookup_of_ne, readSource, readChildren]

/-- A container is read back if the widgets in it are. -/
theorem decodeContainer_record {decode : Decoder Widget} {children : List Widget} {depth : Nat}
    (fits : (record [("children", .list toJson children)]).nestsWithin depth = true)
    (reads : ReadsBelow decode depth children) :
    decodeContainer decode depth (record [("children", .list toJson children)]) =
      some (.container children) := by
  refine decode_record (fun _ _ => rfl) rfl (by decide) fits ?_
  intro below less fitsMembers
  simp only [List.forall_mem_cons] at fitsMembers
  have readChildren := decodeList_list fitsMembers.1 (reads.mono less)
  simp [Fields.withDefault, readChildren]

/-- A widget that has only a caption is read back. -/
theorem decodes_caption (build : String → Widget) (caption : String) :
    Decodes (decodeCaption build) (record [("caption", .text caption)]) (build caption) :=
  decodes_record (fun _ _ => rfl) rfl (List.pairwise_singleton _ _)
    (.field (.withDefault (decodes_text _)) (.built _))

/-- A widget is read back if the widgets below it are, by the decoder that is given for them. -/
theorem decodeVariant_toJson (inside : Bool) {decode : Decoder Widget} {widget : Widget}
    {depth : Nat} (limited : depth ≤ nestingLimit)
    (fits : (toJson widget).nestsWithin depth = true)
    (reads : ReadsBelow decode depth widget.children) :
    decodeVariant inside "type" (variants decode) depth (toJson widget) = some widget := by
  have plain := plain_toJson.1 widget
  cases widget with
  | dataView source children | listView source children =>
    rw [toJson, array_listToJson] at fits plain ⊢
    rw [decodeVariant_record inside rfl (by simp) plain fits]
    exact decodeView_record limited (nestsWithin_record_tail fits) reads
  | container children =>
    rw [toJson, array_listToJson] at fits plain ⊢
    rw [decodeVariant_record inside rfl (by simp) plain fits]
    exact decodeContainer_record (nestsWithin_record_tail fits) reads
  | text caption | button caption =>
    rw [toJson] at fits plain ⊢
    rw [decodeVariant_record inside rfl (by simp) plain fits]
    exact (decodes_caption _ caption).reads limited (nestsWithin_record_tail fits)

/-- A widget opens a level, so a tree of widgets is no higher than the levels it is written in. -/
theorem decodeNested_toJson {nesting depth : Nat} (enough : depth ≤ nesting)
    (limited : depth ≤ nestingLimit) (widget : Widget)
    (fits : (toJson widget).nestsWithin depth = true) :
    decodeNested nesting depth (toJson widget) = some widget := by
  induction nesting generalizing depth widget with
  | zero =>
    -- Without levels left there is no room for a record.
    obtain rfl := Nat.le_zero.mp enough
    cases widget <;> exact nomatch fits
  | succ nesting inductionHypothesis =>
    refine decodeVariant_toJson true limited fits fun child _ below less fitsChild => ?_
    exact inductionHypothesis (by omega) (by omega) child fitsChild

/-- A widget is read back with all that it contains, however deep it is nested. The depth of the
reader is bounded, but what was written nests no deeper than it is read. -/
theorem decodes (inside : Bool) (widget : Widget) :
    Decodes (decode inside) (toJson widget) widget where
  plain := plain_toJson.1 widget
  reads limited fits := by
    refine decodeVariant_toJson inside limited fits fun child _ below less fitsChild => ?_
    have limitedChild := Nat.le_trans (Nat.le_of_lt less) limited
    exact decodeNested_toJson limitedChild limitedChild child fitsChild

end Widget

/-- A page is read back with all its widgets. -/
theorem Page.decodes (inside : Bool) (page : Page) : Decodes (decode inside) page.toJson page := by
  have widgets := decodes_list fun widget (_ : widget ∈ page.widgets) => widget.decodes inside
  rw [← Widget.array_listToJson] at widgets
  exact decodes_record (fun _ _ => rfl) rfl (by decide)
    (.field (.required (decodes_text _))
      (.field (.withDefault (decodes_bool _))
        (.field (.withDefault widgets) (.built _))))

/-! ## Documents -/

/-- No type is written as null, so a Java action with a type is not mistaken for one without. -/
theorem DataType.toJson_ne_null (type : DataType) : type.toJson ≠ .null := by
  cases type <;> exact nofun

/-- A Java action is read back, with its type if it has one. -/
theorem JavaAction.decodes (inside : Bool) (action : JavaAction) :
    Decodes (decode inside) action.toJson action := by
  have returnType := decodes_nullable DataType.toJson_ne_null
    fun type (_ : type ∈ action.returnType) => type.decodes inside
  exact decodes_record (fun _ _ => rfl) rfl (by decide)
    (.field (.required (decodes_text _))
      (.field (.withDefault returnType) (.built _)))

namespace DocumentBody

/-- What stands in a document is read back as a document of its kind. -/
theorem decodes_content {α : Type} {decode : Decoder α} {build : α → DocumentBody} {written : Json}
    {content : α} (form : Decodes decode written content) :
    Decodes (decodeContent decode build) written (build content) where
  plain := form.plain
  reads limited fits := congrArg (Option.map build) (form.reads limited fits)

/-- The body of a document is read back, in each of its four forms. -/
theorem decodes {body : DocumentBody} (inRange : body.InRange) :
    Decodes decode body.toJson body := by
  cases body with
  | domainModel content =>
    exact decodes_variant false rfl (by simp [DomainModel.toMembers])
      (decodes_content (DomainModel.decodes true inRange))
  | microflow content =>
    exact decodes_variant false rfl (by simp [Microflow.toMembers])
      (decodes_content (Microflow.decodes true inRange))
  | page content =>
    exact decodes_variant false rfl (by simp [Page.toMembers])
      (decodes_content (content.decodes true))
  | javaAction content =>
    exact decodes_variant false rfl (by simp [JavaAction.toMembers])
      (decodes_content (content.decodes true))

end DocumentBody

/-! ## Folders and modules -/

namespace Folder

/-- The folders of a list are written like any list. -/
theorem array_listToJson (folders : List Folder) :
    Json.array (listToJson folders) = .list toJson folders :=
  congrArg Json.array
    (eq_map_of_cons (by rw [listToJson]) (fun _ _ => by rw [listToJson]) folders)

/-- The documents of a folder are read back in order, if the numbers in them are in range. -/
theorem decodes_documents {documents : List DocumentBody}
    (inRange : ∀ body ∈ documents, body.InRange) :
    Decodes (decodeList DocumentBody.decode) (.list DocumentBody.toJson documents) documents :=
  decodes_list fun body inside => DocumentBody.decodes (inRange body inside)

/-- A folder is written without repeated names of members, at any depth. -/
theorem plain_toJson {folder : Folder} (inRange : folder.InRange) : (toJson folder).Plain := by
  induction inRange with
  | @intro name folders documents below directly inductionHypothesis =>
    have plainFolders : (Json.list toJson folders).Plain :=
      .array (List.forall_mem_map.mpr inductionHypothesis)
    rw [toJson, array_listToJson]
    exact .record (by simp [plainFolders, (decodes_documents directly).plain])

/-- A folder opens a level, so a tree of folders is no higher than the levels it is written in. -/
theorem decodeNested_toJson {nesting depth : Nat} (enough : depth ≤ nesting)
    (limited : depth ≤ nestingLimit) {folder : Folder} (inRange : folder.InRange)
    (fits : (toJson folder).nestsWithin depth = true) :
    decodeNested nesting depth (toJson folder) = some folder := by
  induction nesting generalizing depth folder with
  | zero =>
    obtain rfl := Nat.le_zero.mp enough
    obtain ⟨name, folders, documents⟩ := folder
    exact nomatch fits
  | succ nesting inductionHypothesis =>
    obtain ⟨below, directly⟩ := inRange
    rw [toJson, array_listToJson] at fits ⊢
    refine decode_record (fun _ _ => rfl) rfl (by decide) fits ?_
    intro depthInside less fitsMembers
    simp only [List.forall_mem_cons] at fitsMembers
    have readFolders := decodeList_list fitsMembers.2.1 fun folder inside under lessStill =>
      inductionHypothesis (by omega) (by omega) (below folder inside)
    have readDocuments := (decodes_documents directly).reads (by omega) fitsMembers.2.2.1
    simp [Fields.required, Fields.withDefault, lookup_of_ne, readFolders, readDocuments]

/-- A folder is read back with all folders below it. -/
theorem decodes {folder : Folder} (inRange : folder.InRange) :
    Decodes decode (toJson folder) folder where
  plain := plain_toJson inRange
  reads limited fits := decodeNested_toJson limited limited inRange fits

end Folder

/-- A module is read back with its folders and documents in their order. -/
theorem Module.decodes {aModule : Module} (inRange : aModule.InRange) :
    Decodes decode aModule.toJson aModule := by
  have domainModel := DomainModel.decodes false inRange.domainModel
  have folders := decodes_list fun folder inside => Folder.decodes (inRange.folders folder inside)
  have documents := Folder.decodes_documents inRange.documents
  rw [← Folder.array_listToJson] at folders
  exact decodes_record (fun _ _ => rfl) rfl (by decide)
    (.field (.required (decodes_text _))
      (.field (.withDefault domainModel)
        (.field (.withDefault folders)
          (.field (.withDefault documents) (.built _)))))

/-! ## Projects -/

namespace Project

/-- A project is read back if its numbers are in range. Names are arbitrary: they may be empty or
repeated, and may contain quotes or line breaks. -/
theorem decodes {project : Project} (inRange : project.InRange) :
    Decodes decode project.toJson project := by
  have modules := decodes_list fun aModule inside => Module.decodes (inRange aModule inside)
  exact decodes_record (fun _ _ => rfl) rfl (by decide)
    (.field (.withDefault modules) (.built _))

/-- A project is read back from every document that writes it, with any blanks and escapes, and the
document that is written for it is one of these. -/
theorem ofText?_written {project : Project} (inRange : project.InRange)
    (shallow : project.toJson.nestsWithin nestingLimit = true) :
    (∀ content, Json.ofText? content = some project.toJson → ofText? content = some project) ∧
      ofText? (render project.toJson) = some project := by
  have form := decodes inRange
  have readsAll (content : String) (written : Json.ofText? content = some project.toJson) :
      ofText? content = some project := by
    rw [ofText?, written]
    exact form.reads (Nat.le_refl nestingLimit) shallow
  exact ⟨readsAll, readsAll _ (ofText?_render form.plain)⟩

/-- Nodes of every kind, with actions of every kind and variables of every type. -/
def assortedKinds : List NodeKind :=
  let types : List DataType := [.void, .boolean, .integer, .long, .decimal, .string, .dateTime,
    .enumeration "Sales.State", .object "Sales.Order", .list "Sales.Order"]
  let actions : List Action := [.changeVariable "valid" "false",
    .changeList "orders" .add "$order", .delete "order",
    .logMessage .critical "Sales" "\x7b1\x7d: \"\x7b2\x7d\"" ["$name", "$total"],
    .showPage "Sales.Details" (some "$order"), .showPage "Sales.Overview" none,
    .callJava "Sales.Now" (some "now"), .callMicroflow "Sales.Check" none,
    .validationFeedback "order" ⟨"Sales.Order", "Total"⟩ (.english "Too\nlow"), .other "Retrieve"]
  [.startEvent, .endEvent "$valid", .split "$valid" "Valid?", .merge,
    .parameter "order" (.object "Sales.Order")] ++
  (types.map fun type => .activity (.createVariable "value" type "empty") .gray) ++
  actions.map fun action => .activity action .default

/-- A microflow with nodes of every kind. -/
def assortedMicroflow : Microflow where
  name := "Check"
  returnType := .boolean
  allowConcurrent := true
  concurrencyMessage := .english ""
  nodes := assortedKinds.zipIdx.map fun (kind, id) => ⟨id, ⟨-100, 100⟩, ⟨120, 60⟩, kind⟩
  flows := [⟨0, 2, .right, .left, none⟩, ⟨2, 4294967295, .bottom, .top, some "true"⟩]

/-- A project with documents of every kind, in which every form of a part occurs, with and without
the values that may be missing. -/
def assorted : Project := ⟨[{
  name := "Sales"
  domainModel := ⟨[⟨"Order", [⟨"No", .autoNumber⟩, ⟨"Scan", .binary⟩, ⟨"Paid", .boolean⟩,
    ⟨"Price", .currency⟩, ⟨"Date", .dateTime⟩, ⟨"Total", .decimal⟩,
    ⟨"State", .enumeration "Sales.State"⟩, ⟨"Weight", .float⟩, ⟨"Key", .hashString⟩,
    ⟨"Count", .integer⟩, ⟨"Size", .long⟩, ⟨"Note", .string none⟩,
    ⟨"Code", .string (some 4294967295)⟩]⟩]⟩
  folders := [⟨"Flows", [⟨"Java", [], [.javaAction ⟨"Now", some .dateTime⟩,
    .javaAction ⟨"Log", none⟩]⟩], [.microflow assortedMicroflow]⟩]
  documents := [.domainModel ⟨[]⟩, .page ⟨"Details", true, [
    .dataView (.directEntity "Sales.Order") [.text "Größe", .container [.button "Save"]],
    .listView (.database "Sales.Order") [], .listView (.microflow "Sales.Find") []]⟩] }]⟩

/-- The numbers in the assorted microflow are in range. -/
theorem inRange_assortedMicroflow : assortedMicroflow.InRange where
  nodes := by
    have position : Position.InRange ⟨-100, 100⟩ := ⟨by decide, by decide⟩
    have size : Size.InRange ⟨120, 60⟩ := ⟨by decide, by decide⟩
    refine List.forall_mem_map.mpr fun (kind, id) inside => ⟨?_, position, size⟩
    have few : id < 25 := List.snd_lt_of_mem_zipIdx inside
    exact Nat.le_trans (Nat.le_of_lt few) (by decide)
  flows := List.forall_mem_cons.mpr
    ⟨⟨by decide, by decide⟩, List.forall_mem_singleton.mpr ⟨by decide, by decide⟩⟩

/-- The numbers in the assorted project are in range. -/
theorem inRange_assorted : assorted.InRange := by
  intro aModule inside
  obtain rfl := List.mem_singleton.mp inside
  refine ⟨?_, ?_, ?_⟩
  · simp [DomainModel.InRange, AttributeType.InRange]
  · rw [List.forall_mem_singleton]
    refine .intro ?_ (List.forall_mem_singleton.mpr inRange_assortedMicroflow)
    exact List.forall_mem_singleton.mpr (.intro nofun (by simp [DocumentBody.InRange]))
  · simp [DocumentBody.InRange, DomainModel.InRange]

/-- A project in which every form of a part occurs is read back. -/
theorem ofText?_written_assorted :
    assorted.InRange ∧ assorted.toJson.nestsWithin nestingLimit = true ∧
      (∀ content, Json.ofText? content = some assorted.toJson → ofText? content = some assorted) ∧
      ofText? (render assorted.toJson) = some assorted :=
  ⟨inRange_assorted, by decide, ofText?_written inRange_assorted (by decide)⟩

end Project

end FlowModel
