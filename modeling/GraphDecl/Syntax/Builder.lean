import GraphDecl.Syntax.Node

/-!
# Builders

A generator makes its nodes through a `Builder`, which fixes what an expression, a property and a
declaration are. `Builder.tree` makes syntax trees, `Builder.source` program text. `Expr.fold` makes
of a tree what a builder would have made in its place.
-/

namespace GraphDecl

/-- How nodes are made from their parts. -/
structure Builder (E P D : Type) where
  identifier : String → E
  literal : Literal → E
  property : String → E → P
  object : List P → E
  construct : String → List E → E
  declare : Keyword → String → E → D

/-- Syntax trees. -/
def Builder.tree : Builder Expr (String × Expr) Declaration where
  identifier := .identifier
  literal := .literal
  property := Prod.mk
  object := .object
  construct := .construct
  declare := .single

def joined (separator : String) (parts : List String) : String := separator.intercalate parts

/-- Program text. Names are written as they are, constants as JSON. -/
def Builder.source : Builder String String String where
  identifier := id
  literal := Literal.text
  property := fun key value => key ++ ": " ++ value
  object := fun properties => "\x7b" ++ joined ", " properties ++ "\x7d"
  construct := fun callee arguments => "new " ++ callee ++ "(" ++ joined ", " arguments ++ ")"
  declare := fun keyword name init => keyword.text ++ " " ++ name ++ " = " ++ init ++ ";"

namespace Expr
variable {E P D : Type}

mutual

/-- What the builder makes of the parts of a tree, from the leaves up. -/
def fold (b : Builder E P D) : Expr → E
  | .identifier name => b.identifier name
  | .literal value => b.literal value
  | .object properties => b.object (foldProperties b properties)
  | .construct callee arguments => b.construct callee (foldArguments b arguments)

def foldProperties (b : Builder E P D) : List (String × Expr) → List P
  | [] => []
  | (key, e) :: rest => b.property key (fold b e) :: foldProperties b rest

def foldArguments (b : Builder E P D) : List Expr → List E
  | [] => []
  | e :: rest => fold b e :: foldArguments b rest

end

theorem foldProperties_eq_map (b : Builder E P D) (ps : List (String × Expr)) :
    foldProperties b ps = ps.map fun p => b.property p.1 (p.2.fold b) := by
  induction ps with
  | nil => rfl
  | cons p ps ih => rw [foldProperties, ih]; rfl

theorem foldArguments_eq_map (b : Builder E P D) (es : List Expr) :
    foldArguments b es = es.map fun e => e.fold b := by
  induction es with
  | nil => rfl
  | cons e es ih => rw [foldArguments, ih]; rfl

end Expr
end GraphDecl
