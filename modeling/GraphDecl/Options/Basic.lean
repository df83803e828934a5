import GraphDecl.Syntax.Node

/-!
# Options

What a user can choose about the declarations.
-/

namespace GraphDecl

/-- How a declaration binds its name. -/
inductive DeclarationStyle
  | mutable
  | immutable
deriving DecidableEq

def DeclarationStyle.keyword : DeclarationStyle → Keyword
  | .mutable => .var
  | .immutable => .const

/-- What becomes of a field of unknown type. -/
inductive UnknownTypePolicy
  /-- Nothing is generated. -/
  | reject
  /-- A placeholder stands for the type. -/
  | permissive
deriving DecidableEq

/-- The names that declarations take from the framework. -/
structure Identifiers where
  string : String := "GraphQLString"
  int : String := "GraphQLInt"
  float : String := "GraphQLFloat"
  nonNull : String := "GraphQLNonNull"
  enumType : String := "GraphQLEnumType"
  objectType : String := "GraphQLObjectType"
deriving DecidableEq

structure Options where
  /-- The description of whatever has none. -/
  defaultDescription : String := "@TODO"
  declarationStyle : DeclarationStyle := .mutable
  unknownTypes : UnknownTypePolicy := .reject
  identifiers : Identifiers := {}
deriving DecidableEq

namespace Options

def withDefaultDescription (o : Options) (text : String) : Options :=
  { o with defaultDescription := text }

def withDeclarationStyle (o : Options) (style : DeclarationStyle) : Options :=
  { o with declarationStyle := style }

def withUnknownTypes (o : Options) (policy : UnknownTypePolicy) : Options :=
  { o with unknownTypes := policy }

def withIdentifiers (o : Options) (identifiers : Identifiers) : Options :=
  { o with identifiers }

/-- The text of a description; an empty one counts as none. -/
def describe (o : Options) (description : Option String) : String :=
  match description with
  | some text => if text = "" then o.defaultDescription else text
  | none => o.defaultDescription

@[simp] theorem describe_none (o : Options) : o.describe none = o.defaultDescription := rfl

@[simp] theorem describe_empty (o : Options) : o.describe (some "") = o.defaultDescription := by
  simp [describe]

theorem describe_of_ne (o : Options) {text : String} (h : text ≠ "") :
    o.describe (some text) = text := by
  simp [describe, h]

end Options
end GraphDecl
