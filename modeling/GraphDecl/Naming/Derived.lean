import GraphDecl.Naming.Words
import GraphDecl.Schema.Basic

/-!
# Derived names

The names that declarations bind and refer to, made from the names of the schema.
-/

namespace GraphDecl.Naming

/-- The name with its first character in upper case. -/
def capitalize (name : String) : String :=
  match name.toList with
  | [] => ""
  | c :: cs => String.ofList (Unicode.upper c ++ cs)

/-- The words of the name in upper case with underscores between them. -/
def enumKey (name : String) : String :=
  String.ofList (['_'].intercalate ((words name.toList).map Unicode.upperText))

/-- The name that the declaration of a model binds. -/
def typeName (model : String) : String := model ++ "Type"

/-- The name without `Id` at its end. -/
def withoutId (name : String) : String :=
  let cs := name.toList
  if ['I', 'd'].isSuffixOf cs then String.ofList (cs.take (cs.length - 2)) else name

/-- The name of the field derived from a reference: without its `Id`, and with `Ref` if the model
has a field of that key. -/
def referenceName (m : Model) (reference : String) : String :=
  let name := withoutId reference
  if m.hasField name then name ++ "Ref" else name

/-- The description of a field derived from a reference to `target`. -/
def referenceDescription (default name target : String) : String :=
  if "parent".toList.isPrefixOf name.toList then default ++ " (parent " ++ target ++ ")"
  else default ++ " (reference)"

end GraphDecl.Naming
