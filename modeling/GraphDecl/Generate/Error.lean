import GraphDecl.Schema.Validation

/-!
# Why nothing is generated
-/

namespace GraphDecl

inductive GenerateError
  | load (e : LoadError)
  | schema (e : SchemaError)
  /-- A field of unknown type, in the model under that key; the field is given by name. -/
  | unknownType (model field type : String)
deriving DecidableEq

def GenerateError.message : GenerateError → String
  | .load e => "schema parse error: " ++ e.message
  | .schema e => "schema error: " ++ e.message
  | .unknownType model field type =>
    "unknown type '" ++ type ++ "' in field '" ++ field ++ "' of model '" ++ model ++ "'"

end GraphDecl
