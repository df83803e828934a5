import GraphDecl.Generate.Entry

/-!
# Declarations of a schema

`Generator.declaration` makes the declaration of one model, `Generator.declarations` those of all
models of a schema in order. The first failure ends the run, and nothing is kept of it.
-/

namespace GraphDecl
namespace Generator
variable {E P D : Type} (g : Generator E P D)

/-- The entries of a field: its own, and behind it the one derived from its reference. -/
def entries (model : String) (m : Model) (key : String) (f : Field) :
    Logged GenerateError (List (Fragment P)) := do
  let own ← g.field model f
  match m.reference? key with
  | none => return [own]
  | some target => return [own, ← g.reference m key target]

/-- The entries of all fields of a model, with the names they need. -/
def body (model : String) (m : Model) : Logged GenerateError (Fragment (List P)) := do
  let parts ← m.fields.entries.mapM fun e => g.entries model m e.1 e.2
  return Fragment.sequence parts.flatten

/-- The declaration of a model around the entries of its fields. -/
def declare (model : String) (m : Model) (fields : List P) : D :=
  let body := g.builder.object [
    g.builder.property "name" (g.text model),
    g.description m.description,
    g.builder.property "fields" (g.builder.object fields)]
  g.builder.declare g.options.declarationStyle.keyword (Naming.typeName model)
    (g.builder.construct g.options.identifiers.objectType [body])

/-- The declaration of the model under the key `model`. -/
def declaration (model : String) (m : Model) : Logged GenerateError (Fragment D) := do
  return (← g.body model m).map (g.declare model m)

/-- The declaration of a model as a step of a run, between its first and its last event. -/
def step (model : String) (m : Model) : Logged GenerateError (Fragment D) := do
  .emit (.entered model)
  let d ← g.declaration model m
  .emit (.declared model (m.fields.size + m.references.size) d.imports.size)
  return d

/-- The declarations of all models under their keys. -/
def declarations (s : Schema) : Logged GenerateError (OrderedMap (Fragment D)) := do
  return OrderedMap.ofList (← s.models.entries.mapM fun e => return (e.1, ← g.step e.1 e.2))

/-- Validates a loaded schema and generates its declarations. -/
def ofLoaded (loaded : Except LoadError Schema) :
    Logged GenerateError (OrderedMap (Fragment D)) := do
  let s ← Logged.ofExcept (loaded.mapError .load)
  s.validate.mapError .schema
  g.declarations s

/-- The declarations of the schema of a JSON text. -/
def ofText (text : String) : Logged GenerateError (OrderedMap (Fragment D)) :=
  g.ofLoaded (Schema.ofText text)

/-- The declarations of the schema of a file. -/
def ofSource (source : Source) : Logged GenerateError (OrderedMap (Fragment D)) :=
  g.ofLoaded (Schema.ofSource source)

end Generator

/-- The generator of syntax trees. -/
def Options.generator (o : Options) : Generator Expr (String × Expr) Declaration := ⟨.tree, o⟩

/-- Equality of generated declarations, with the order of imports and models left aside. -/
def sameDeclarations (a b : OrderedMap (Fragment Declaration)) : Bool :=
  a.agree (fun x y => x.node.same y.node && x.imports.same y.imports) b

end GraphDecl
