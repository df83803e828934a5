import GraphDecl.Json.Record
import GraphDecl.Schema.Basic
import GraphDecl.Source

/-!
# Schema documents

The JSON form of a schema: `models` by key, each with its `fields` and `references`. A document is
decoded in full before anything is made of it, so a fault of the text comes before the complaint
that an enum field has no `values`. Models and fields are named by their keys unless they have a
`name`; a reference is the key of a model or an object with that key as its `name`.
-/

namespace GraphDecl
open Json (Doc Fault Record Slot)

/-! ## What a document holds -/

/-- A field as written; `values` count for enums only. -/
structure FieldEntry where
  name : Option String
  description : Option String
  type : String
  nullable : Bool
  values : Option (OrderedMap EnumValue)

structure ModelEntry where
  name : Option String
  description : Option String
  fields : OrderedMap FieldEntry
  references : OrderedMap String

/-- Constants stand seven levels deep: below the root, `models`, a model, `fields`, a field,
`values` and an enum value. -/
def literalRoom : Nat := Json.nestingLimit - 7

/-- References stand four levels deep: below the root, `models`, a model and `references`. -/
def referenceRoom : Nat := Json.nestingLimit - 4

structure EnumValueDraft where
  value : Option Literal := none
  description : Option (Option String) := none

def enumValueRecord : Record EnumValueDraft where
  name := "RawEnumValue"
  slots := [
    .of "value" false (·.value) (fun r v => { r with value := some v }) (Literal.ofDoc literalRoom),
    .of "description" false (·.description) (fun r v => { r with description := some v })
      (Doc.asOption Doc.asString)]

def EnumValue.ofDoc (d : Doc) : Except Fault EnumValue := do
  let r ← enumValueRecord.decode {} d
  return ⟨← Json.required "value" r.value, r.description.join⟩

structure FieldDraft where
  name : Option (Option String) := none
  description : Option (Option String) := none
  type : Option String := none
  nullable : Option Bool := none
  values : Option (Option (OrderedMap EnumValue)) := none

def fieldRecord : Record FieldDraft where
  name := "RawField"
  slots := [
    .of "name" false (·.name) (fun r v => { r with name := some v }) (Doc.asOption Doc.asString),
    .of "description" false (·.description) (fun r v => { r with description := some v })
      (Doc.asOption Doc.asString),
    .of "type" false (·.type) (fun r v => { r with type := some v }) Doc.asString,
    .of "isNullable" true (·.nullable) (fun r v => { r with nullable := some v }) Doc.asBool,
    .of "values" false (·.values) (fun r v => { r with values := some v })
      (Doc.asOption (Doc.asMap EnumValue.ofDoc))]

/-- Fields may be null unless they say otherwise. -/
def FieldEntry.ofDoc (d : Doc) : Except Fault FieldEntry := do
  let r ← fieldRecord.decode {} d
  return ⟨r.name.join, r.description.join, ← Json.required "type" r.type, r.nullable.getD true,
    r.values.join⟩

/-- The values of the members with a key. -/
def membersNamed (key : String) (members : List (Json.Token String × Doc)) : List Doc :=
  members.filterMap fun m =>
    match m.1.read with
    | .ok k => if k = key then some m.2 else none
    | .error _ => none

/-- The target of a reference. An object is read in full before it is looked at, and it has to have
one `name`, a string. -/
def referenceOfDoc : Doc → Except Fault String
  | .string s => s.read
  | d => do
    d.scan referenceRoom
    match d with
    | .object members _ =>
      match membersNamed "name" members with
      | [.string s] => s.read
      | _ => Json.mismatch (.noVariant "RawReference")
    | _ => Json.mismatch (.noVariant "RawReference")

structure ModelDraft where
  name : Option (Option String) := none
  description : Option (Option String) := none
  fields : Option (OrderedMap FieldEntry) := none
  references : Option (OrderedMap String) := none

def modelRecord : Record ModelDraft where
  name := "RawModel"
  slots := [
    .of "name" false (·.name) (fun r v => { r with name := some v }) (Doc.asOption Doc.asString),
    .of "description" false (·.description) (fun r v => { r with description := some v })
      (Doc.asOption Doc.asString),
    .of "fields" true (·.fields) (fun r v => { r with fields := some v })
      (Doc.asMap FieldEntry.ofDoc),
    .of "references" true (·.references) (fun r v => { r with references := some v })
      (Doc.asMap referenceOfDoc)]

def ModelEntry.ofDoc (d : Doc) : Except Fault ModelEntry := do
  let r ← modelRecord.decode {} d
  return ⟨r.name.join, r.description.join, r.fields.getD .empty, r.references.getD .empty⟩

structure SchemaDraft where
  models : Option (OrderedMap ModelEntry) := none

def schemaRecord : Record SchemaDraft where
  name := "RawSchema"
  slots := [
    .of "models" true (·.models) (fun r v => { r with models := some v })
      (Doc.asMap ModelEntry.ofDoc)]

/-- The models of a document. -/
def modelEntries (d : Doc) : Except Fault (OrderedMap ModelEntry) := do
  let r ← schemaRecord.decode {} d
  return r.models.getD .empty

/-! ## What is made of it -/

/-- Why a schema cannot be loaded. -/
inductive LoadError
  | json (f : Fault)
  /-- An enum field without `values`; model and field are given by name. -/
  | missingEnumValues (model field : String)
  | source (f : SourceFault)
deriving DecidableEq

def LoadError.message : LoadError → String
  | .json f => "JSON error: " ++ f.message
  | .missingEnumValues model field =>
    "enum field '" ++ field ++ "' on model '" ++ model ++ "' has no values"
  | .source f => "IO error: " ++ f.message

def FieldEntry.toField (model key : String) (f : FieldEntry) : Except LoadError Field := do
  let name := f.name.getD key
  let type ←
    if f.type = "enum" then
      match f.values with
      | some values => .ok (.enumeration values)
      | none => .error (.missingEnumValues model name)
    else .ok (FieldType.ofName f.type)
  return ⟨name, f.description, type, f.nullable⟩

/-- Converts the values of a map in order, each with its key. -/
def convertEntries {α β : Type} (convert : String → α → Except LoadError β) (m : OrderedMap α) :
    Except LoadError (OrderedMap β) := do
  return OrderedMap.ofList (← m.entries.mapM fun e => return (e.1, ← convert e.1 e.2))

def ModelEntry.toModel (key : String) (m : ModelEntry) : Except LoadError Model := do
  let name := m.name.getD key
  return ⟨name, m.description, ← convertEntries (FieldEntry.toField name) m.fields, m.references⟩

namespace Schema

/-- The schema of a JSON text. -/
def ofText (text : String) : Except LoadError Schema :=
  match (Json.Document.ofText text).decode modelEntries with
  | .error f => .error (.json f)
  | .ok models => (convertEntries ModelEntry.toModel models).map Schema.mk

def ofSource (source : Source) : Except LoadError Schema :=
  match source.text with
  | .error f => .error (.source f)
  | .ok text => ofText text

end Schema
end GraphDecl
