import GraphDecl.Json.Decode

/-!
# Constants

The constants that enum values stand for. An integer is kept with a sign if it fits 64 bits with a
sign, so `Literal.unsigned` is meant for the integers above those. JSON text and constants match:
`Literal.toJson` writes a constant, `Literal.ofDoc` reads one.
-/

namespace GraphDecl

inductive Literal
  | string (s : String)
  | integer (i : Int64)
  | unsigned (u : UInt64)
  | float (x : Binary64)
  | boolean (b : Bool)
  | null
deriving DecidableEq

namespace Literal

def ofUInt64 (u : UInt64) : Literal :=
  if u.toNat < 0x8000000000000000 then .integer (Int64.ofInt u.toNat) else .unsigned u

/-- A number of JSON text; its integers lie between `-2 ^ 63` and `2 ^ 64`. -/
def ofNumber : Json.Number → Literal
  | .integer i =>
    if i < 0x8000000000000000 then .integer (Int64.ofInt i) else .unsigned (UInt64.ofNat i.toNat)
  | .float x => .float x

/-- Equality of constants, with floats compared as numbers. -/
def same : Literal → Literal → Bool
  | .float x, .float y => x.numEq y
  | a, b => a == b

def string? : Literal → Option String
  | .string s => some s
  | _ => none

def toJson : Literal → Json.Value
  | .string s => .string s
  | .integer i => .integer i.toInt
  | .unsigned u => .integer u.toNat
  | .float x => .float x
  | .boolean b => .bool b
  | .null => .null

/-- The JSON text of a constant. -/
def text (l : Literal) : String := l.toJson.text

/-- Reads a constant where `room` more levels of nesting may be read. Arrays and objects are read in
full before they are refused. -/
def ofDoc (room : Nat) : Json.Doc → Except Json.Fault Literal
  | .absent f | .misspelt f => .error f
  | .null => .ok .null
  | .bool b => .ok (.boolean b)
  | .number n => n.read.map ofNumber
  | .string s => s.read.map .string
  | d => do
    d.scan room
    Json.mismatch (.noVariant "LiteralValue")

/-- The constant that a whole text stands for. -/
def ofText (s : String) : Except Json.Fault Literal :=
  (Json.Document.ofText s).decode (ofDoc Json.nestingLimit)

theorem ofUInt64_eq_ofNumber (u : UInt64) : ofUInt64 u = ofNumber (.integer u.toNat) := by
  rw [ofUInt64, ofNumber]
  by_cases h : u.toNat < 0x8000000000000000
  · rw [if_pos h, if_pos (by omega)]
  · rw [if_neg h, if_neg (by omega), Int.toNat_natCast, UInt64.ofNat_toNat]

end Literal
end GraphDecl
