import FlowModel.Json.Decoder
import FlowModel.Proofs.Json.Documents

/-!
# Written values as they are decoded

A value is written so that a decoder gives it back when the written form is plain and the decoder
reads it wherever there are enough levels left for it (`Decodes`). This holds for lists, optional
values and records when it holds for their parts, and for a value with variants when it holds for the
variant (`decodes_list`, `decodes_nullable`, `decodes_record`, `decodes_variant`). What is to be said
of a record is only which of its fields are read in which way (`ReadsRecord`).
-/

namespace FlowModel.Json

/-! ## Nesting -/

/-- Whether arrays and objects of a value are nested at most some number of levels deep. -/
def nestsWithin : Nat → Json → Bool
  | 0, .array _ | 0, .object _ => false
  | depth + 1, .array items => items.all fun item => nestsWithin depth item
  | depth + 1, .object members => members.all fun (_, value) => nestsWithin depth value
  | _, _ => true

/-- An array opens a level. -/
theorem nestsWithin_array {depth : Nat} {items : List Json}
    (fits : (array items).nestsWithin depth = true) :
    ∃ below, depth = below + 1 ∧ ∀ item ∈ items, item.nestsWithin below = true := by
  cases depth with
  | zero => exact nomatch fits
  | succ below => exact ⟨below, rfl, List.all_eq_true.mp fits⟩

/-- A record nests one deeper than its members. -/
theorem nestsWithin_succ_record {depth : Nat} {members : List (String × Json)} :
    (record members).nestsWithin (depth + 1) =
      members.all fun member => member.2.nestsWithin depth := by
  rw [record, nestsWithin, List.all_map]
  rfl

/-- A record opens a level. -/
theorem nestsWithin_record {depth : Nat} {members : List (String × Json)}
    (fits : (record members).nestsWithin depth = true) :
    ∃ below, depth = below + 1 ∧ ∀ member ∈ members, member.2.nestsWithin below = true := by
  cases depth with
  | zero => exact nomatch fits
  | succ below =>
    rw [nestsWithin_succ_record] at fits
    exact ⟨below, rfl, List.all_eq_true.mp fits⟩

/-- A plain value can be read completely when it is not nested too deeply. -/
theorem Plain.isReadable {value : Json} (plain : value.Plain) {depth : Nat}
    (fits : value.nestsWithin depth = true) : value.isReadable depth = true := by
  induction plain generalizing depth with
  | null | bool | integer | text => cases depth <;> rfl
  | array plain inductionHypothesis =>
    obtain ⟨below, rfl, fitsItems⟩ := nestsWithin_array fits
    rw [Json.isReadable, List.all_eq_true]
    exact fun item inside => inductionHypothesis item inside (fitsItems item inside)
  | record plain inductionHypothesis =>
    obtain ⟨below, rfl, fitsMembers⟩ := nestsWithin_record fits
    rw [Json.record, Json.isReadable, List.all_map, List.all_eq_true]
    exact fun member inside => inductionHypothesis member inside (fitsMembers member inside)

/-! ## Decoding what was written -/

/-- The written form of a value is plain, and the decoder reads the value from it if the levels that
are left, of which a document has no more than its limit, are enough for it. -/
structure Decodes {α : Type} (decode : Decoder α) (written : Json) (value : α) : Prop where
  plain : written.Plain
  reads {depth : Nat} (limited : depth ≤ nestingLimit) (fits : written.nestsWithin depth = true) :
    decode depth written = some value

variable {α β : Type} {depth : Nat}

attribute [simp] Plain.null Plain.bool Plain.text

/-- A text is read at any depth. -/
@[simp] theorem decodeText_text (depth : Nat) (content : String) :
    decodeText depth (text content) = some content := rfl

/-- A text that is written is read back. -/
theorem decodes_text (content : String) : Decodes decodeText (text content) content :=
  ⟨.text content, fun _ _ => rfl⟩

/-- A truth value that is written is read back. -/
theorem decodes_bool (value : Bool) : Decodes decodeBool (.bool value) value :=
  ⟨.bool value, fun _ _ => rfl⟩

/-- An integer is read back if it lies between the bounds of its type and in the range of the
reader, which must hold the whole of it before the bounds are checked. -/
theorem decodes_between {least greatest value : Int} (between : least ≤ value ∧ value ≤ greatest)
    (fits : value.natAbs ≤ greatestWord) :
    Decodes (decodeBetween least greatest) (.integer value) value :=
  ⟨.integer fits, fun _ _ => if_pos between⟩

/-- Numbers without a sign are read as numbers between two bounds. -/
theorem decodes_word {value : Nat} (fits : value ≤ 4294967295) :
    Decodes decodeWord (natural value) value where
  plain := .integer (show value ≤ _ from Nat.le_trans fits (by decide))
  reads _ _ := by
    have between : (0 : Int) ≤ value ∧ (value : Int) ≤ 4294967295 := by omega
    rw [decodeWord, natural, decodeBetween, if_pos between]
    rfl

/-- A constant is read back if no constant before it has the same name. -/
theorem decodes_constant {name : α → String} {constants : List α} {constant : α} (inside : Bool)
    (first : constants.find? (fun other => name other == name constant) = some constant) :
    Decodes (decodeConstant inside name constants) (text (name constant)) constant :=
  ⟨.text _, fun _ _ => first⟩

/-- A list is read back if its values are, with one level less. -/
theorem decodeList_list {decode : Decoder α} {write : α → Json} {values : List α}
    (fits : (list write values).nestsWithin depth = true)
    (reads : ∀ value ∈ values, ∀ below < depth, (write value).nestsWithin below = true →
      decode below (write value) = some value) :
    decodeList decode depth (list write values) = some values := by
  obtain ⟨below, rfl, fitsItems⟩ := nestsWithin_array fits
  rw [List.forall_mem_map] at fitsItems
  clear fits
  show (values.map write).mapM (decode below) = some values
  induction values with
  | nil => rfl
  | cons value values inductionHypothesis =>
    have ⟨fitsFirst, fitsLater⟩ := List.forall_mem_cons.mp fitsItems
    have ⟨readsFirst, readsLater⟩ := List.forall_mem_cons.mp reads
    rw [List.map_cons, List.mapM_cons, readsFirst below (Nat.lt_succ_self below) fitsFirst,
      inductionHypothesis fitsLater readsLater]
    rfl

/-- A list is read back if each of its values is. -/
theorem decodes_list {decode : Decoder α} {write : α → Json} {values : List α}
    (forms : ∀ value ∈ values, Decodes decode (write value) value) :
    Decodes (decodeList decode) (list write values) values where
  plain := .array <| List.forall_mem_map.mpr fun value inside => (forms value inside).plain
  reads limited fits :=
    decodeList_list fits fun value inside _ less => (forms value inside).reads
      (Nat.le_trans (Nat.le_of_lt less) limited)

/-- A value that may be missing is read back if no value is written as null. -/
theorem decodes_nullable {decode : Decoder α} {write : α → Json} {value : Option α}
    (notNull : ∀ content, write content ≠ .null)
    (forms : ∀ content ∈ value, Decodes decode (write content) content) :
    Decodes (decodeNullable decode) (optional write value) value := by
  cases value with
  | none => exact ⟨.null, fun _ _ => rfl⟩
  | some content =>
    have form := forms content rfl
    refine ⟨form.plain, fun limited fits => ?_⟩
    rw [optional, decodeNullable.eq_2 _ _ _ (notNull content), form.reads limited fits]
    rfl

/-- A text that may be missing is written as null then. No text is written as null, so the two are
not confused. -/
theorem decodes_optionalText (content : Option String) :
    Decodes (decodeNullable decodeText) (optional text content) content :=
  decodes_nullable (fun _ => nofun) fun content _ => decodes_text content

/-! ## Records -/

/-- A record that has just the declared fields, in this order, is read with all of them. -/
theorem fields?_record {members : List (String × Json)} {declared : List String}
    (names : members.map Prod.fst = declared) (distinct : declared.Nodup) (depth : Nat) :
    fields? declared (depth + 1) (record members) = some ⟨depth, false, members⟩ := by
  have named : (members.map fun member => (some member.1, member.2)).mapM
      (fun entry => entry.1.map fun name => (name, entry.2)) = some members := by
    clear names
    induction members with
    | nil => rfl
    | cons member members inductionHypothesis =>
      rw [List.map_cons, List.mapM_cons, inductionHypothesis]
      rfl
  have known : members.filter (fun member => declared.contains member.1) = members := by
    rw [List.filter_eq_self]
    intro member inside
    rw [List.contains_iff_mem, ← names]
    exact List.mem_map_of_mem inside
  -- The names are those of the declared fields, so no known member is repeated.
  have unique : (guard (members.map Prod.fst).Nodup : Option Unit) = some () :=
    guard_eq_some (names ▸ distinct)
  calc fields? declared (depth + 1) (record members)
    _ = ((members.map fun member => (some member.1, member.2)).mapM
          fun entry : Option String × Json => entry.1.map fun name => (name, entry.2)).bind
        fun named =>
          let known := named.filter fun member => declared.contains member.1
          (guard (known.map Prod.fst).Nodup : Option Unit).bind fun _ =>
            some ⟨depth, false, known⟩ := rfl
    _ = (guard (members.map Prod.fst).Nodup : Option Unit).bind fun _ =>
          some ⟨depth, false, members⟩ := by rw [named, Option.bind_some, known]
    _ = some ⟨depth, false, members⟩ := by rw [unique, Option.bind_some]

/-- A field that is not written first is found among the others. -/
theorem lookup_of_ne {name other : String} {written : Json} {members : List (String × Json)}
    (apart : name ≠ other) : ((other, written) :: members).lookup name = members.lookup name := by
  rw [List.lookup_cons, beq_eq_false_iff_ne.mpr apart]

/-- Where no name comes twice, the value of a member is found under its name. -/
theorem lookup_eq_some_of_mem {members : List (String × Json)} {member : String × Json}
    (distinct : (members.map Prod.fst).Nodup) (inside : member ∈ members) :
    members.lookup member.1 = some member.2 := by
  induction members with
  | nil => exact absurd inside List.not_mem_nil
  | cons first others inductionHypothesis =>
    obtain ⟨fresh, distinctOthers⟩ := List.nodup_cons.mp distinct
    rcases List.mem_cons.mp inside with rfl | isOther
    · exact List.lookup_cons_self
    · have apart : member.1 ≠ first.1 := fun same => fresh (same ▸ List.mem_map_of_mem isOther)
      exact (lookup_of_ne apart).trans (inductionHypothesis distinctOthers isOther)

/-- A record is read back if its fields are, with one level less. -/
theorem decode_record {decode : Decoder α} {members : List (String × Json)} {declared : List String}
    {build : Fields → Option α} {value : α}
    (isRecord : ∀ depth written, decode depth written = (fields? declared depth written).bind build)
    (names : members.map Prod.fst = declared) (distinct : declared.Nodup)
    (fits : (record members).nestsWithin depth = true)
    (reads : ∀ below < depth, (∀ member ∈ members, member.2.nestsWithin below = true) →
      build ⟨below, false, members⟩ = some value) :
    decode depth (record members) = some value := by
  obtain ⟨below, rfl, fitsMembers⟩ := nestsWithin_record fits
  rw [isRecord, fields?_record names distinct]
  exact reads below (Nat.lt_succ_self below) fitsMembers

/-- A field is read back: its written form is plain, and where it is found under the name of the
field, its value is read if the levels that are left are enough. It does not matter what other fields
there are, nor which of the three ways to read a field is taken. -/
structure ReadsField (read : Fields → Option α) (name : String) (written : Json) (value : α) :
    Prop where
  plain : written.Plain
  reads {depth : Nat} {entries : List (String × Json)} (limited : depth ≤ nestingLimit)
    (fits : written.nestsWithin depth = true) (found : entries.lookup name = some written) :
    read ⟨depth, false, entries⟩ = some value

namespace ReadsField

variable {decode : Decoder α} {name : String} {written : Json} {value : α}

/-- A field that has to be there is read by its decoder. -/
theorem required (form : Decodes decode written value) :
    ReadsField (fun fields => fields.required name decode) name written value where
  plain := form.plain
  reads limited fits found := by
    rw [Fields.required, found]
    exact form.reads limited fits

/-- What is written is preferred to the value that stands in for a missing field. -/
theorem withDefault {missing : α} (form : Decodes decode written value) :
    ReadsField (fun fields => fields.withDefault name missing decode) name written value where
  plain := form.plain
  reads limited fits found := by
    rw [Fields.withDefault, found]
    exact form.reads limited fits

/-- A field that may be null is written also when it is. -/
theorem nullable {value : Option α} (form : Decodes (decodeNullable decode) written value) :
    ReadsField (fun fields => fields.nullable name decode) name written value where
  plain := form.plain
  reads limited fits found := by
    rw [Fields.nullable, found]
    exact form.reads limited fits

end ReadsField

/-- A record is read back field by field: the members are in the order in which the fields are read,
and from the values of all of them the record is built. -/
inductive ReadsRecord {α : Type} : List (String × Json) → (Fields → Option α) → α → Prop where
  | built (value : α) : ReadsRecord [] (fun _ => pure value) value
  | field {β : Type} {name : String} {written : Json} {members : List (String × Json)}
      {read : Fields → Option β} {content : β} {next : β → Fields → Option α} {value : α}
      (first : ReadsField read name written content)
      (others : ReadsRecord members (next content) value) :
    ReadsRecord ((name, written) :: members)
      (fun fields => read fields >>= fun content => next content fields) value

namespace ReadsRecord

variable {members : List (String × Json)} {build : Fields → Option α} {value : α}

/-- The members of a record that is read back are plain. -/
theorem plain (record : ReadsRecord members build value) : ∀ member ∈ members, member.2.Plain := by
  induction record with
  | built => exact fun _ inside => absurd inside List.not_mem_nil
  | field first _ inductionHypothesis =>
    exact List.forall_mem_cons.mpr ⟨first.plain, inductionHypothesis⟩

/-- The record is built wherever its members are found. They need not be the only ones, so that the
fields that have been read already are still there for the induction. -/
theorem reads (record : ReadsRecord members build value) {entries : List (String × Json)}
    (limited : depth ≤ nestingLimit)
    (fits : ∀ member ∈ members, member.2.nestsWithin depth = true)
    (found : ∀ member ∈ members, entries.lookup member.1 = some member.2) :
    build ⟨depth, false, entries⟩ = some value := by
  induction record with
  | built => rfl
  | field first _ inductionHypothesis =>
    obtain ⟨fitsFirst, fitsOthers⟩ := List.forall_mem_cons.mp fits
    obtain ⟨foundFirst, foundOthers⟩ := List.forall_mem_cons.mp found
    have readFirst := first.reads limited fitsFirst foundFirst
    exact Option.bind_eq_some_iff.mpr ⟨_, readFirst, inductionHypothesis fitsOthers foundOthers⟩

end ReadsRecord

/-- The written form of a record is one from which it is read, if that is so for its fields. -/
theorem decodes_record {decode : Decoder α} {members : List (String × Json)} {declared : List String}
    {build : Fields → Option α} {value : α}
    (isRecord : ∀ depth written, decode depth written = (fields? declared depth written).bind build)
    (names : members.map Prod.fst = declared) (distinct : declared.Nodup)
    (fields : ReadsRecord members build value) : Decodes decode (record members) value where
  plain := .record fields.plain
  reads limited fits :=
    decode_record isRecord names distinct fits fun _ less fitsMembers =>
      fields.reads (Nat.le_trans (Nat.le_of_lt less) limited) fitsMembers fun _ inside =>
        lookup_eq_some_of_mem (names ▸ distinct) inside

/-! ## Variants -/

/-- The tag of a record that has it as its first member. -/
theorem tagged?_record {tag : String} {written : Json} {members : List (String × Json)}
    (apart : tag ∉ members.map Prod.fst) :
    tagged? tag (record ((tag, written) :: members)) = some (written, record members) := by
  have others : ∀ member ∈ members, member.1 ≠ tag := by
    rintro member inside rfl
    exact apart (List.mem_map_of_mem inside)
  have noTag : (members.map fun member => (some member.1, member.2)).filter
      (fun entry => entry.1 == some tag) = [] := by
    rw [List.filter_eq_nil_iff, List.forall_mem_map]
    exact fun member inside => by simp [others member inside]
  have allOthers : (members.map fun member => (some member.1, member.2)).filter
      (fun entry => entry.1 != some tag) = members.map fun member => (some member.1, member.2) := by
    rw [List.filter_eq_self, List.forall_mem_map]
    exact fun member inside => by simp [others member inside]
  simp [record, tagged?, noTag, allOthers]

/-- Records that are written alike have the same members in the same order. -/
theorem record_injective : Function.Injective record := by
  intro members others same
  refine (List.map_inj_right ?_).mp (Json.object.inj same)
  rintro ⟨name, value⟩ ⟨otherName, otherValue⟩ samePair
  simpa using samePair

/-- With a tag a plain record is still plain. -/
theorem plain_tagged {members : List (String × Json)} (plain : (record members).Plain)
    (tag name : String) : (record ((tag, text name) :: members)).Plain := by
  generalize same : record members = value at plain
  cases plain with
  | null | bool | integer | text | array => exact nomatch same
  | record plain =>
    obtain rfl := record_injective same
    exact .record (List.forall_mem_cons.mpr ⟨.text name, plain⟩)

/-- Without the tag a record opens no more levels. -/
theorem nestsWithin_record_tail {member : String × Json} {members : List (String × Json)}
    (fits : (record (member :: members)).nestsWithin depth = true) :
    (record members).nestsWithin depth = true := by
  obtain ⟨below, rfl, fitsMembers⟩ := nestsWithin_record fits
  rw [nestsWithin_succ_record, List.all_eq_true]
  exact fun later inside => fitsMembers later (.tail _ inside)

/-- A plain record is read by the decoder of the variant that its tag names. -/
theorem decodeVariant_record {decode : Decoder α} {tag name : String}
    {variants : List (String × Decoder α)} {members : List (String × Json)} (inside : Bool)
    (chosen : variants.lookup name = some decode) (apart : tag ∉ members.map Prod.fst)
    (plain : (record ((tag, text name) :: members)).Plain)
    (fits : (record ((tag, text name) :: members)).nestsWithin depth = true) :
    decodeVariant inside tag variants depth (record ((tag, text name) :: members)) =
      decode depth (record members) := by
  have named : variant? inside variants (text name) = some decode := chosen
  have readable :
      (inside || (record ((tag, text name) :: members)).isReadable depth) = true := by
    rw [plain.isReadable fits, Bool.or_true]
  show (guard _ : Option Unit).bind (fun _ => (tagged? tag _).bind fun found =>
    (variant? inside variants found.1).bind fun chosen => chosen depth found.2) = _
  rw [guard_eq_some readable, Option.bind_some, tagged?_record apart, Option.bind_some, named,
    Option.bind_some]

/-- A value with variants is read back if its variant is read back without the tag. -/
theorem decodes_variant {decode : Decoder α} {tag name : String}
    {variants : List (String × Decoder α)} {members : List (String × Json)} {value : α}
    (inside : Bool)
    (chosen : variants.lookup name = some decode) (apart : tag ∉ members.map Prod.fst)
    (form : Decodes decode (record members) value) :
    Decodes (decodeVariant inside tag variants) (record ((tag, text name) :: members)) value where
  plain := plain_tagged form.plain tag name
  reads limited fits := by
    rw [decodeVariant_record inside chosen apart (plain_tagged form.plain tag name) fits]
    exact form.reads limited (nestsWithin_record_tail fits)

/-- A variant without fields is read from what is left without the tag, which is nothing. -/
theorem decodes_unit (value : α) : Decodes (decodeUnit value) (record []) value :=
  ⟨.record nofun, fun _ _ => rfl⟩

/-- A variant with one field is read back if the field is. -/
theorem decodes_field {name : String} {decode : Decoder β} {build : β → α} {written : Json}
    {content : β} (form : Decodes decode written content) :
    Decodes (decodeField name decode build) (record [(name, written)]) (build content) :=
  decodes_record (fun _ _ => rfl) rfl (List.pairwise_singleton _ name)
    (.field (.required form) (.built _))

end FlowModel.Json
