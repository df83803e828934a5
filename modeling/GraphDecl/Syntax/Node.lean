import GraphDecl.Literal

/-!
# Syntax trees

The part of a script that type declarations need: names, constants, object literals, constructor
calls, and the declaration that binds one of these to a name. `Expr.same` is equality with constants
compared by `Literal.same`; properties and arguments are compared in order.
-/

namespace GraphDecl

/-- The keyword of a declaration. -/
inductive Keyword
  | var
  | const
deriving DecidableEq

def Keyword.text : Keyword → String
  | .var => "var"
  | .const => "const"

/-- An expression. The keys of an object may repeat. -/
inductive Expr
  | identifier (name : String)
  | literal (value : Literal)
  | object (properties : List (String × Expr))
  | construct (callee : String) (arguments : List Expr)

instance : Inhabited Expr := ⟨.object []⟩

/-- A bound name with its value, if it has one. -/
structure Declarator where
  name : String
  init : Option Expr

structure Declaration where
  keyword : Keyword
  declarators : List Declarator

namespace Expr

def identifier? : Expr → Option String
  | .identifier name => some name
  | _ => none

def literal? : Expr → Option Literal
  | .literal value => some value
  | _ => none

def properties? : Expr → Option (List (String × Expr))
  | .object properties => some properties
  | _ => none

def construct? : Expr → Option (String × List Expr)
  | .construct callee arguments => some (callee, arguments)
  | _ => none

/-- The value of the first property with this key. -/
def property? (key : String) (e : Expr) : Option Expr := do
  (← e.properties?).lookup key

def argument? (index : Nat) (e : Expr) : Option Expr := do
  (← e.construct?).2[index]?

mutual

def same : Expr → Expr → Bool
  | .identifier a, .identifier b => a == b
  | .literal a, .literal b => a.same b
  | .object ps, .object qs => sameProperties ps qs
  | .construct a xs, .construct b ys => a == b && sameArguments xs ys
  | _, _ => false

def sameProperties : List (String × Expr) → List (String × Expr) → Bool
  | [], [] => true
  | (k, e) :: ps, (l, f) :: qs => k == l && same e f && sameProperties ps qs
  | _, _ => false

def sameArguments : List Expr → List Expr → Bool
  | [], [] => true
  | e :: es, f :: fs => same e f && sameArguments es fs
  | _, _ => false

end

end Expr

namespace Declarator

def same (d d' : Declarator) : Bool :=
  d.name == d'.name &&
    match d.init, d'.init with
    | some e, some e' => e.same e'
    | none, none => true
    | _, _ => false

end Declarator

namespace Declaration

/-- The declaration of one name with a value. -/
def single (keyword : Keyword) (name : String) (init : Expr) : Declaration :=
  ⟨keyword, [⟨name, some init⟩]⟩

/-- The first name that is bound. -/
def name? (d : Declaration) : Option String := d.declarators.head?.map Declarator.name

/-- The value of the first name. -/
def init? (d : Declaration) : Option Expr := d.declarators.head?.bind Declarator.init

def same (d d' : Declaration) : Bool :=
  d.keyword == d'.keyword && d.declarators.length == d'.declarators.length &&
    (d.declarators.zip d'.declarators).all fun p => p.1.same p.2

@[simp] theorem name?_single (k : Keyword) (n : String) (e : Expr) :
    (single k n e).name? = some n := rfl

@[simp] theorem init?_single (k : Keyword) (n : String) (e : Expr) :
    (single k n e).init? = some e := rfl

end Declaration
end GraphDecl
