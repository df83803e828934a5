import GraphDecl.Syntax.Node

/-!
# The ESTree form

ESTree is the JSON form in which tools exchange syntax trees. Every node is an object whose first
member `type` names its kind; a property is always of the kind `init`.
-/

namespace GraphDecl
open Json (Value)

namespace Estree

/-- A node of a kind with its other members. -/
def node (kind : String) (members : List (String × Value)) : Value :=
  .object (("type", .string kind) :: members)

def identifierNode (name : String) : Value := node "Identifier" [("name", .string name)]

def propertyNode (key : String) (value : Value) : Value :=
  node "Property" [("key", identifierNode key), ("value", value), ("kind", .string "init")]

end Estree

open Estree

mutual

def Expr.toJson : Expr → Value
  | .identifier name => identifierNode name
  | .literal value => node "Literal" [("value", value.toJson)]
  | .object properties =>
    node "ObjectExpression" [("properties", .array (Expr.propertyNodes properties))]
  | .construct callee arguments =>
    node "NewExpression"
      [("callee", identifierNode callee), ("arguments", .array (Expr.argumentNodes arguments))]

def Expr.propertyNodes : List (String × Expr) → List Value
  | [] => []
  | (key, e) :: rest => propertyNode key e.toJson :: Expr.propertyNodes rest

def Expr.argumentNodes : List Expr → List Value
  | [] => []
  | e :: rest => e.toJson :: Expr.argumentNodes rest

end

def Declarator.toJson (d : Declarator) : Value :=
  node "VariableDeclarator"
    [("id", identifierNode d.name), ("init", (d.init.map Expr.toJson).getD .null)]

def Declaration.toJson (d : Declaration) : Value :=
  node "VariableDeclaration"
    [("kind", .string d.keyword.text), ("declarations", .array (d.declarators.map (·.toJson)))]

/-- The compact ESTree text of a declaration. -/
def Declaration.text (d : Declaration) : String := d.toJson.text

end GraphDecl
