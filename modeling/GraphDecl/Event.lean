/-!
# Events

What a run reports beside its result: models entered and finished, references derived, and the two
things that are odd but no error.
-/

namespace GraphDecl

inductive Event
  /-- Work on a model begins. -/
  | entered (model : String)
  /-- A reference leads to a model that the schema does not hold. -/
  | undeclaredTarget (model field target : String)
  /-- A field of unknown type is declared with a placeholder. -/
  | unknownType (type field model : String)
  /-- A field was derived from a reference. -/
  | derived (model reference field type : String)
  /-- A model was declared, with the number of its fields and references and of its imports. -/
  | declared (model : String) (fields imports : Nat)
deriving DecidableEq

inductive Level
  | span
  | warn
  | debug
  | trace
deriving DecidableEq

namespace Event

def level : Event → Level
  | .entered _ => .span
  | .undeclaredTarget _ _ _ | .unknownType _ _ _ => .warn
  | .derived _ _ _ _ => .trace
  | .declared _ _ _ => .debug

/-- The expression that stands for an unknown type. -/
def placeholder : String := "undefined"

def message : Event → String
  | .entered model => "generate_type model=" ++ model
  | .undeclaredTarget model field target =>
    "Model '" ++ model ++ "' field '" ++ field ++ "' references undeclared model '" ++ target ++ "'"
  | .unknownType type field model =>
    "Unknown type '" ++ type ++ "' for field '" ++ field ++ "' of model '" ++ model ++
      "', emitting '" ++ placeholder ++ "'"
  | .derived model reference field type =>
    "Model '" ++ model ++ "' reference '" ++ reference ++ "' -> field '" ++ field ++
      "' of type " ++ type
  | .declared model fields imports =>
    "Generated declaration for model '" ++ model ++ "' (" ++
      String.ofList (Nat.toDigits 10 fields) ++ " fields, " ++
      String.ofList (Nat.toDigits 10 imports) ++ " imports)"

end Event

def Level.text : Level → String
  | .span => "SPAN"
  | .warn => "WARN"
  | .debug => "DEBUG"
  | .trace => "TRACE"

end GraphDecl
