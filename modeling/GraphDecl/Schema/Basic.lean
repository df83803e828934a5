import GraphDecl.Literal
import GraphDecl.OrderedMap

/-!
# Schemas

A schema holds models, a model holds fields and says which of them refer to other models. The key
under which a model or a field stands need not be its name. `Schema.same` is equality without regard
to the order of models, fields, references and enum values.
-/

namespace GraphDecl

/-- A value of an enum. -/
structure EnumValue where
  value : Literal
  description : Option String
deriving DecidableEq

inductive FieldType
  | string
  | integer
  | float
  | enumeration (values : OrderedMap EnumValue)
  /-- A type that the schema names and the generator does not know. -/
  | unknown (name : String)
deriving DecidableEq

structure Field where
  name : String
  description : Option String
  type : FieldType
  nullable : Bool
deriving DecidableEq

/-- A model. `references` leads from field keys to the keys of other models. -/
structure Model where
  name : String
  description : Option String
  fields : OrderedMap Field
  references : OrderedMap String
deriving DecidableEq

structure Schema where
  models : OrderedMap Model
deriving DecidableEq

def EnumValue.same (v w : EnumValue) : Bool :=
  v.value.same w.value && v.description == w.description

namespace FieldType

/-- The type of a name, where every name but those of the three scalars is unknown. -/
def ofName (name : String) : FieldType :=
  if name = "string" then .string
  else if name = "integer" then .integer
  else if name = "float" then .float
  else .unknown name

def name : FieldType → String
  | .string => "string"
  | .integer => "integer"
  | .float => "float"
  | .enumeration _ => "enum"
  | .unknown name => name

def enumValues? : FieldType → Option (OrderedMap EnumValue)
  | .enumeration values => some values
  | _ => none

def isEnum (t : FieldType) : Bool := t.enumValues?.isSome

def same : FieldType → FieldType → Bool
  | .enumeration v, .enumeration w => v.agree EnumValue.same w
  | t, u => t == u

end FieldType

namespace Field

/-- A field that may be null and has no description. -/
def new (name : String) (type : FieldType) : Field := ⟨name, none, type, true⟩

def enumeration (name : String) (values : List (String × EnumValue)) : Field :=
  new name (.enumeration (OrderedMap.ofList values))

def withDescription (f : Field) (text : String) : Field := { f with description := some text }

def withNullable (f : Field) (nullable : Bool) : Field := { f with nullable }

def required (f : Field) : Field := f.withNullable false

def same (f g : Field) : Bool :=
  f.name == g.name && f.description == g.description && f.type.same g.type &&
    f.nullable == g.nullable

end Field

namespace Model

/-- A model without fields. -/
def new (name : String) : Model := ⟨name, none, .empty, .empty⟩

def withDescription (m : Model) (text : String) : Model := { m with description := some text }

/-- Adds a field under its name. -/
def withField (m : Model) (f : Field) : Model := { m with fields := m.fields.insert f.name f }

def withReference (m : Model) (field target : String) : Model :=
  { m with references := m.references.insert field target }

def reference? (m : Model) (field : String) : Option String := m.references.get? field

def hasField (m : Model) (field : String) : Bool := m.fields.contains field

def same (m n : Model) : Bool :=
  m.name == n.name && m.description == n.description && m.fields.agree Field.same n.fields &&
    m.references.agree (· == ·) n.references

end Model

namespace Schema

def empty : Schema := ⟨.empty⟩

/-- Adds a model under any key. -/
def insert (s : Schema) (key : String) (m : Model) : Schema := ⟨s.models.insert key m⟩

/-- Adds a model under its name. -/
def add (s : Schema) (m : Model) : Schema := s.insert m.name m

def get? (s : Schema) (key : String) : Option Model := s.models.get? key

def contains (s : Schema) (key : String) : Bool := s.models.contains key

def size (s : Schema) : Nat := s.models.size

def isEmpty (s : Schema) : Bool := s.models.isEmpty

def same (s t : Schema) : Bool := s.models.agree Model.same t.models

end Schema
end GraphDecl
