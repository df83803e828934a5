import GraphDecl.Logged
import GraphDecl.Schema.Document

/-!
# Validation

A schema is valid if every reference belongs to a declared field and no enum is empty. The models
are checked in order, in each the references and then the enums, and the first violation is the
verdict. A reference to a model that the schema does not hold is only reported.
-/

namespace GraphDecl

/-- Why a schema cannot be used. -/
inductive SchemaError
  | load (e : LoadError)
  /-- A reference that belongs to no field, in the model of that name. -/
  | referenceWithoutField (model field : String)
  /-- An enum without values; model and field are given by name. -/
  | emptyEnum (model field : String)
deriving DecidableEq

def SchemaError.message : SchemaError → String
  | .load e => "parse error: " ++ e.message
  | .referenceWithoutField model field =>
    "reference '" ++ field ++ "' on model '" ++ model ++ "' does not annotate a declared field"
  | .emptyEnum model field =>
    "enum field '" ++ field ++ "' on model '" ++ model ++ "' declares no values"

namespace Schema

/-- Checks one reference of a model. -/
def checkReference (s : Schema) (m : Model) (field target : String) : Logged SchemaError Unit :=
  if m.hasField field then
    if s.contains target then pure () else .emit (.undeclaredTarget m.name field target)
  else .fail (.referenceWithoutField m.name field)

/-- Checks one field of a model. -/
def checkField (m : Model) (f : Field) : Logged SchemaError Unit :=
  match f.type with
  | .enumeration values => if values.isEmpty then .fail (.emptyEnum m.name f.name) else pure ()
  | _ => pure ()

def checkModel (s : Schema) (m : Model) : Logged SchemaError Unit := do
  m.references.entries.forM fun r => s.checkReference m r.1 r.2
  m.fields.entries.forM fun f => checkField m f.2

/-- Checks all models in order. -/
def validate (s : Schema) : Logged SchemaError Unit :=
  s.models.entries.forM fun m => s.checkModel m.2

end Schema
end GraphDecl
