import GraphDecl.Generate.Error
import GraphDecl.Imports
import GraphDecl.Naming.Derived
import GraphDecl.Options.Basic
import GraphDecl.Syntax.Builder

/-!
# Types and fields of a declaration

`Generator.type` makes the type of a field: a scalar of the framework, wrapped where the field may
not be null, or an enum declared in place. `Generator.entry` puts a type and a description under the
name of a field, and `Generator.reference` makes the entry derived from a reference.
-/

namespace GraphDecl

/-- What generation works with: how nodes are made and what the user chose. -/
structure Generator (E P D : Type) where
  builder : Builder E P D
  options : Options

namespace Generator
variable {E P D : Type} (g : Generator E P D)

def text (s : String) : E := g.builder.literal (.string s)

/-- The description of a field, model or enum value. -/
def description (d : Option String) : P :=
  g.builder.property "description" (g.text (g.options.describe d))

/-- An entry of an enum. -/
def enumEntry (key : String) (v : EnumValue) : P :=
  g.builder.property (Naming.enumKey key)
    (g.builder.object [g.builder.property "value" (g.builder.literal v.value),
      g.description v.description])

/-- The enum of a field, which is named after it. -/
def enum (f : Field) (values : OrderedMap EnumValue) : Fragment E :=
  let enumType := g.options.identifiers.enumType
  let body := g.builder.object [
    g.builder.property "name" (g.text (Naming.capitalize f.name)),
    g.description f.description,
    g.builder.property "values"
      (g.builder.object (values.entries.map fun v => g.enumEntry v.1 v.2))]
  (Fragment.of (g.builder.construct enumType [body])).withImport enumType

/-- A named scalar. -/
def scalar (name : String) : Fragment E := (Fragment.of (g.builder.identifier name)).withImport name

/-- The type, wrapped unless the field may be null. -/
def wrap (f : Field) (t : Fragment E) : Fragment E :=
  if f.nullable then t
  else
    let nonNull := g.options.identifiers.nonNull
    (t.map fun e => g.builder.construct nonNull [e]).withImport nonNull

/-- The type of a field of the model under the key `model`. -/
def type (model : String) (f : Field) : Logged GenerateError (Fragment E) :=
  match f.type with
  | .enumeration values => pure (g.enum f values)
  | .string => pure (g.wrap f (g.scalar g.options.identifiers.string))
  | .integer => pure (g.wrap f (g.scalar g.options.identifiers.int))
  | .float => pure (g.wrap f (g.scalar g.options.identifiers.float))
  | .unknown name =>
    match g.options.unknownTypes with
    | .reject => .fail (.unknownType model f.name name)
    | .permissive => do
      .emit (.unknownType name f.name model)
      return g.wrap f (.of (g.builder.identifier Event.placeholder))

/-- An entry with a given type. -/
def entry (name : String) (d : Option String) (type : E) : P :=
  g.builder.property name (g.builder.object [g.builder.property "type" type, g.description d])

/-- The entry of a field of the model under the key `model`. -/
def field (model : String) (f : Field) : Logged GenerateError (Fragment P) := do
  return (← g.type model f).map (g.entry f.name f.description)

/-- The entry derived from the reference of `m` under the key `reference`. -/
def reference (m : Model) (reference target : String) : Logged GenerateError (Fragment P) := do
  let name := Naming.referenceName m reference
  let type := Naming.typeName target
  .emit (.derived m.name reference name type)
  let d := Naming.referenceDescription g.options.defaultDescription name target
  return (Fragment.of (g.entry name (some d) (g.builder.identifier type))).withImport type

end Generator
end GraphDecl
