import GraphDecl.Proofs.Maps
import GraphDecl.Proofs.WrittenValues
import GraphDecl.Schema.Document

/-!
# The canonical text of a schema

`Schema.text` writes every name, writes a description only where there is one and `values` only for
an enum, and keeps the order of the maps. Loading that text gives the schema back (`ofText_text`)
if no unknown type is named like a known one and the constants of enums are exact. The proof follows
the loader: first every part is decoded to what its document says (`Field.entry`, `Model.entry`),
from the enum values outwards, and then the fields and models are made of that.
-/

namespace GraphDecl
open Json (Doc Fault Record Slot Value)

/-! ### Writing -/

/-- The object of a map, in its order. -/
def OrderedMap.toJson {α : Type} (write : α → Value) (m : OrderedMap α) : Value :=
  .object (m.entries.map fun e => (e.1, write e.2))

/-- The member for a description, where there is one. -/
def descriptionMember : Option String → List (String × Value)
  | some text => [("description", .string text)]
  | none => []

def EnumValue.toJson (v : EnumValue) : Value :=
  .object (("value", v.value.toJson) :: descriptionMember v.description)

/-- The member for the values of an enum. -/
def FieldType.valuesMember : FieldType → List (String × Value)
  | .enumeration values => [("values", values.toJson EnumValue.toJson)]
  | _ => []

def Field.toJson (f : Field) : Value :=
  .object (("name", .string f.name) :: descriptionMember f.description ++
    ("type", .string f.type.name) :: ("isNullable", .bool f.nullable) :: f.type.valuesMember)

def Model.toJson (m : Model) : Value :=
  .object (("name", .string m.name) :: descriptionMember m.description ++
    [("fields", m.fields.toJson Field.toJson), ("references", m.references.toJson .string)])

def Schema.toJson (s : Schema) : Value := .object [("models", s.models.toJson Model.toJson)]

/-- The canonical JSON text of a schema. -/
def Schema.text (s : Schema) : String := s.toJson.text

/-- The type has a name of its own, and the constants of an enum are exact. -/
def FieldType.Writable : FieldType → Prop
  | .string | .integer | .float => True
  | .enumeration values => ∀ e ∈ values.entries, e.2.value.Exact
  | .unknown name => name ∉ ["string", "integer", "float", "enum"]

def Model.Writable (m : Model) : Prop := ∀ e ∈ m.fields.entries, e.2.type.Writable

def Schema.Writable (s : Schema) : Prop := ∀ e ∈ s.models.entries, e.2.Writable

/-! ### Written values are exact -/

theorem OrderedMap.exact_toJson {α : Type} {write : α → Value} {m : OrderedMap α}
    (h : ∀ e ∈ m.entries, (write e.2).Exact) : (m.toJson write).Exact :=
  Value.exactMembers_iff.2 (List.forall_mem_map.2 h)

theorem exactMembers_descriptionMember (description : Option String) :
    ∀ m ∈ descriptionMember description, m.2.Exact := by
  cases description with
  | none => exact List.forall_mem_nil _
  | some text => exact List.forall_mem_singleton.2 trivial

theorem EnumValue.exact_toJson {v : EnumValue} (h : v.value.Exact) : v.toJson.Exact :=
  Value.exactMembers_iff.2
    (List.forall_mem_cons.2 ⟨Literal.exact_toJson h, exactMembers_descriptionMember v.description⟩)

theorem FieldType.exactMembers_valuesMember {t : FieldType} (h : t.Writable) :
    ∀ m ∈ t.valuesMember, m.2.Exact := by
  cases t with
  | enumeration values =>
    exact List.forall_mem_singleton.2
      (OrderedMap.exact_toJson fun e he => EnumValue.exact_toJson (h e he))
  | _ => exact List.forall_mem_nil _

theorem Field.exact_toJson {f : Field} (h : f.type.Writable) : f.toJson.Exact := by
  refine Value.exactMembers_iff.2 (List.forall_mem_cons.2 ⟨trivial, ?_⟩)
  refine List.forall_mem_append.2 ⟨exactMembers_descriptionMember f.description, ?_⟩
  exact List.forall_mem_cons.2 ⟨trivial, List.forall_mem_cons.2
    ⟨trivial, FieldType.exactMembers_valuesMember h⟩⟩

theorem Model.exact_toJson {m : Model} (h : m.Writable) : m.toJson.Exact := by
  have hfields : (m.fields.toJson Field.toJson).Exact :=
    OrderedMap.exact_toJson fun e he => Field.exact_toJson (h e he)
  have hreferences : (m.references.toJson Value.string).Exact :=
    OrderedMap.exact_toJson fun _ _ => trivial
  refine Value.exactMembers_iff.2 (List.forall_mem_cons.2 ⟨trivial, ?_⟩)
  refine List.forall_mem_append.2 ⟨exactMembers_descriptionMember m.description, ?_⟩
  exact List.forall_mem_cons.2 ⟨hfields, List.forall_mem_singleton.2 hreferences⟩

theorem Schema.exact_toJson {s : Schema} (h : s.Writable) : s.toJson.Exact := by
  have hmodels : (s.models.toJson Model.toJson).Exact :=
    OrderedMap.exact_toJson fun e he => Model.exact_toJson (h e he)
  exact ⟨hmodels, trivial⟩

/-! ### Reading maps and records -/

@[simp] theorem OrderedMap.mapValues_id {α : Type} (m : OrderedMap α) :
    (m.mapValues fun v => v) = m := by
  ext1
  simp [mapValues]

namespace Json

theorem decodeEntries_memberDocs {α β : Type} {decode : Doc → Except Fault β} {write : α → Value}
    {g : α → β} {l : List (String × α)} (h : ∀ e ∈ l, decode (write e.2).doc = .ok (g e.2))
    (m : OrderedMap β) :
    decodeEntries decode m (Value.memberDocs (l.map fun e => (e.1, write e.2))) =
      .ok ((l.map fun e => (e.1, g e.2)).foldl (fun m e => m.insert e.1 e.2) m) := by
  induction l generalizing m with
  | nil => rfl
  | cons e l ih =>
    obtain ⟨he, hrest⟩ := List.forall_mem_cons.1 h
    rw [List.map_cons, Value.memberDocs, decodeEntries, he]
    exact ih hrest _

/-- Where every value is read, so is the map, in its order. -/
theorem Doc.asMap_toJson {α β : Type} {decode : Doc → Except Fault β} {write : α → Value}
    {g : α → β} {m : OrderedMap α} (h : ∀ e ∈ m.entries, decode (write e.2).doc = .ok (g e.2)) :
    asMap decode (m.toJson write).doc = .ok (m.mapValues g) := by
  have hentries : OrderedMap.ofList (m.entries.map fun e => (e.1, g e.2)) = m.mapValues g :=
    OrderedMap.ext (OrderedMap.entries_ofList (m.mapValues g).nodup)
  rw [OrderedMap.toJson, Value.doc, asMap, decodeEntries_memberDocs h, ← hentries]
  rfl

namespace Record
variable {σ : Type} {r : Record σ} {draft draft' : σ}

theorem decode_object (members : List (String × Value)) :
    r.decode draft (Value.object members).doc = r.members draft (Value.memberDocs members) := by
  rw [Value.doc, decode]
  cases r.members draft (Value.memberDocs members) <;> rfl

/-- A member with the key of a slot that is still free fills the slot. -/
theorem members_cons {key : String} {v : Value} {slot : Slot σ}
    (hfind : r.slots.find? (·.name == key) = some slot) (hfree : slot.filled draft = false)
    (hfill : slot.fill draft v.doc = .ok draft') (rest : List (String × Value)) :
    r.members draft (Value.memberDocs ((key, v) :: rest)) =
      r.members draft' (Value.memberDocs rest) := by
  have hmember : r.member draft (.whole (.ok key)) v.doc = .ok draft' := by
    simp only [member, Token.read, Bind.bind, Except.bind, hfind, hfree, hfill, Bool.false_eq_true,
      ↓reduceIte]
  rw [Value.memberDocs, members, hmember]
  rfl

end Record
end Json

/-! ### Reading a schema -/

theorem EnumValue.ofDoc_doc {v : EnumValue} (h : v.value.Exact) :
    EnumValue.ofDoc v.toJson.doc = .ok v := by
  obtain ⟨value, description⟩ := v
  have hvalue := Literal.ofDoc_doc_toJson h literalRoom
  rw [EnumValue.ofDoc, toJson, Record.decode_object,
    Record.members_cons rfl rfl (congrArg (Except.map _) hvalue)]
  cases description <;> rfl

/-- What the document of a field says. -/
def Field.entry (f : Field) : FieldEntry :=
  ⟨some f.name, f.description, f.type.name, f.nullable, f.type.enumValues?⟩

theorem members_fieldRecord (name : String) (description : Option String) (type : String)
    (nullable : Bool) (rest : List (String × Value)) :
    fieldRecord.members {} (Value.memberDocs (("name", .string name) ::
        descriptionMember description ++
          ("type", .string type) :: ("isNullable", .bool nullable) :: rest)) =
      fieldRecord.members ⟨some (some name), description.map some, some type, some nullable, none⟩
        (Value.memberDocs rest) := by
  cases description <;> rfl

theorem FieldEntry.ofDoc_doc {f : Field} (h : f.type.Writable) :
    FieldEntry.ofDoc f.toJson.doc = .ok f.entry := by
  obtain ⟨name, description, type, nullable⟩ := f
  have hdescription : (description.map some).join = description := by cases description <;> rfl
  rw [FieldEntry.ofDoc, Field.toJson, Record.decode_object, members_fieldRecord]
  -- only an enum has a member left
  cases type with
  | enumeration values =>
    have hvalues : Doc.asMap EnumValue.ofDoc (values.toJson EnumValue.toJson).doc = .ok values := by
      rw [Doc.asMap_toJson (g := fun v => v) fun e he => EnumValue.ofDoc_doc (h e he),
        OrderedMap.mapValues_id]
    have hoption : Doc.asOption (Doc.asMap EnumValue.ofDoc) (values.toJson EnumValue.toJson).doc =
        .ok (some values) := congrArg (Except.map some) hvalues
    rw [FieldType.valuesMember, Record.members_cons rfl rfl (congrArg (Except.map _) hoption)]
    show Except.ok _ = _
    rw [Field.entry, hdescription]
    rfl
  | _ =>
    show Except.ok _ = _
    rw [Field.entry, hdescription]
    rfl

theorem FieldType.ofName_name {name : String} (h : (FieldType.unknown name).Writable) :
    name ≠ "enum" ∧ ofName name = .unknown name := by
  simp only [Writable, List.mem_cons, List.not_mem_nil, or_false, not_or] at h
  obtain ⟨hstring, hinteger, hfloat, henum⟩ := h
  exact ⟨henum, by rw [ofName, if_neg hstring, if_neg hinteger, if_neg hfloat]⟩

theorem Field.toField_entry {f : Field} (h : f.type.Writable) (model key : String) :
    f.entry.toField model key = .ok f := by
  obtain ⟨name, description, type, nullable⟩ := f
  cases type with
  | unknown type =>
    obtain ⟨henum, hname⟩ := FieldType.ofName_name h
    simp only [entry, FieldEntry.toField, FieldType.name, if_neg henum, hname]
    rfl
  | _ => rfl

/-- What the document of a model says. -/
def Model.entry (m : Model) : ModelEntry :=
  ⟨some m.name, m.description, m.fields.mapValues Field.entry, m.references⟩

theorem members_modelRecord (name : String) (description : Option String)
    (rest : List (String × Value)) :
    modelRecord.members {} (Value.memberDocs (("name", .string name) ::
        descriptionMember description ++ rest)) =
      modelRecord.members ⟨some (some name), description.map some, none, none⟩
        (Value.memberDocs rest) := by
  cases description <;> rfl

theorem ModelEntry.ofDoc_doc {m : Model} (h : m.Writable) :
    ModelEntry.ofDoc m.toJson.doc = .ok m.entry := by
  obtain ⟨name, description, fields, references⟩ := m
  have hdescription : (description.map some).join = description := by cases description <;> rfl
  have hfields : Doc.asMap FieldEntry.ofDoc (fields.toJson Field.toJson).doc =
      .ok (fields.mapValues Field.entry) :=
    Doc.asMap_toJson fun e he => FieldEntry.ofDoc_doc (h e he)
  have hreferences : Doc.asMap referenceOfDoc (references.toJson Value.string).doc =
      .ok references := by
    rw [Doc.asMap_toJson (g := fun v => v) fun _ _ => rfl, OrderedMap.mapValues_id]
  rw [ModelEntry.ofDoc, Model.toJson, Record.decode_object, members_modelRecord,
    Record.members_cons rfl rfl (congrArg (Except.map _) hfields),
    Record.members_cons rfl rfl (congrArg (Except.map _) hreferences)]
  show Except.ok _ = _
  rw [Model.entry, hdescription]
  rfl

theorem mapM_convert {α β : Type} {convert : String → α → Except LoadError β} {g : β → α}
    {l : List (String × β)} (h : ∀ e ∈ l, convert e.1 (g e.2) = .ok e.2) :
    ((l.map fun e => (e.1, g e.2)).mapM fun e => do return (e.1, ← convert e.1 e.2)) = .ok l := by
  induction l with
  | nil => rfl
  | cons e l ih =>
    obtain ⟨he, hrest⟩ := List.forall_mem_cons.1 h
    rw [List.map_cons, List.mapM_cons, he, ih hrest]
    rfl

/-- Where every value is converted, so is the map, in its order. -/
theorem convertEntries_mapValues {α β : Type} {convert : String → α → Except LoadError β}
    {g : β → α} {m : OrderedMap β} (h : ∀ e ∈ m.entries, convert e.1 (g e.2) = .ok e.2) :
    convertEntries convert (m.mapValues g) = .ok m := by
  rw [convertEntries, OrderedMap.mapValues, mapM_convert h]
  exact congrArg Except.ok (OrderedMap.ext (OrderedMap.entries_ofList m.nodup))

theorem Model.toModel_entry {m : Model} (h : m.Writable) (key : String) :
    m.entry.toModel key = .ok m := by
  obtain ⟨name, description, fields, references⟩ := m
  have hfields : convertEntries (FieldEntry.toField name) (fields.mapValues Field.entry) =
      .ok fields := convertEntries_mapValues fun e he => Field.toField_entry (h e he) name e.1
  rw [ModelEntry.toModel, entry]
  dsimp only [Option.getD_some]
  rw [hfields]
  rfl

theorem modelEntries_doc {s : Schema} (h : s.Writable) :
    modelEntries s.toJson.doc = .ok (s.models.mapValues Model.entry) := by
  have hmodels : Doc.asMap ModelEntry.ofDoc (s.models.toJson Model.toJson).doc =
      .ok (s.models.mapValues Model.entry) :=
    Doc.asMap_toJson fun e he => ModelEntry.ofDoc_doc (h e he)
  rw [modelEntries, Schema.toJson, Record.decode_object,
    Record.members_cons rfl rfl (congrArg (Except.map _) hmodels)]
  rfl

/-- Loading the canonical text of a schema gives the schema. -/
theorem Schema.ofText_text {s : Schema} (h : s.Writable) : Schema.ofText s.text = .ok s := by
  have hdecode : (Json.Document.ofText s.text).decode modelEntries =
      .ok (s.models.mapValues Model.entry) := by
    rw [Schema.text, Value.document_text (exact_toJson h), Json.Document.decode, modelEntries_doc h]
    rfl
  have hconvert : convertEntries ModelEntry.toModel (s.models.mapValues Model.entry) =
      .ok s.models := convertEntries_mapValues fun e he => Model.toModel_entry (h e he) e.1
  rw [Schema.ofText, hdecode]
  dsimp only
  rw [hconvert]
  rfl

/-- The values of an enum, one of them under the empty key. -/
def EnumValue.kinds : OrderedMap EnumValue :=
  ⟨[("é", ⟨.unsigned 0x8000000000000000, some ""⟩), ("", ⟨.null, none⟩)], by decide⟩

/-- One model under a key to be escaped, with an enum, an unknown type and a reference to itself. -/
def Schema.labels : Schema where
  models := ⟨[("a\"\\", {
    name := "\n\x01"
    description := some ""
    fields := ⟨[("kind", ⟨"", none, .enumeration EnumValue.kinds, false⟩),
      ("at", ⟨"At", some "\x7f", .unknown "date", true⟩)], by decide⟩
    references := ⟨[("at", "a\"\\")], by decide⟩ })], by decide⟩

theorem Schema.ofText_text_labels :
    Schema.labels.Writable ∧ Schema.ofText Schema.labels.text = .ok Schema.labels := by
  have hsize : 0x8000000000000000 ≤ (0x8000000000000000 : UInt64).toNat := by decide
  have hkinds : (FieldType.enumeration EnumValue.kinds).Writable :=
    List.forall_mem_cons.2 ⟨hsize, List.forall_mem_singleton.2 trivial⟩
  have hdate : (FieldType.unknown "date").Writable := by
    show "date" ∉ ["string", "integer", "float", "enum"]
    decide
  have hwritable : Schema.labels.Writable :=
    List.forall_mem_singleton.2
      (List.forall_mem_cons.2 ⟨hkinds, List.forall_mem_singleton.2 hdate⟩)
  exact ⟨hwritable, Schema.ofText_text hwritable⟩

end GraphDecl
