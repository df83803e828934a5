import GraphDecl.Binary64.Text
import GraphDecl.Json.Quoted

/-!
# JSON values and their text

A tree of JSON values and the compact text of it: no blanks, members in the order of the tree.
A number is an integer or a binary64 number; one that is not finite has no JSON form and is written
as `null`.
-/

namespace GraphDecl.Json

inductive Value
  | null
  | bool (b : Bool)
  | integer (i : Int)
  | float (x : Binary64)
  | string (s : String)
  | array (items : List Value)
  | object (members : List (String × Value))

def nullText : List Char := ['n', 'u', 'l', 'l']

def boolText : Bool → List Char
  | true => ['t', 'r', 'u', 'e']
  | false => ['f', 'a', 'l', 's', 'e']

/-- The decimal text of an integer. -/
def integerText (i : Int) : List Char :=
  if i < 0 then '-' :: Nat.toDigits 10 i.natAbs else Nat.toDigits 10 i.natAbs

def floatText (x : Binary64) : List Char := x.text?.getD nullText

mutual

/-- The compact text of a value. -/
def Value.chars : Value → List Char
  | .null => nullText
  | .bool b => boolText b
  | .integer i => integerText i
  | .float x => floatText x
  | .string s => quote s
  | .array items => '[' :: Value.itemChars items ++ [']']
  | .object members => '\x7b' :: Value.memberChars members ++ ['\x7d']

/-- The items of an array with commas between them. -/
def Value.itemChars : List Value → List Char
  | [] => []
  | [v] => v.chars
  | v :: rest => v.chars ++ ',' :: Value.itemChars rest

/-- The members of an object with commas between them. -/
def Value.memberChars : List (String × Value) → List Char
  | [] => []
  | [(k, v)] => quote k ++ ':' :: v.chars
  | (k, v) :: rest => quote k ++ ':' :: v.chars ++ ',' :: Value.memberChars rest

end

def Value.text (v : Value) : String := String.ofList v.chars

end GraphDecl.Json
