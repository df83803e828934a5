import GraphDecl.Json.Value
import GraphDecl.Unicode.Printable

/-!
# What can be wrong with a JSON document

A document is read as a stream, and the first fault in reading order is the one reported. Text can
end too early, it can break the grammar, or a well-formed value can be of the wrong kind; only the
last has a cause worth telling.
-/

namespace GraphDecl.Json

/-- A value as far as a report names it. -/
inductive Found
  | null
  | bool (b : Bool)
  | integer (i : Int)
  | float (x : Binary64)
  | string (s : String)
  | sequence
  | map
deriving DecidableEq

/-- Why a value cannot be taken for what its place asks for. -/
inductive Mismatch
  | missingField (field : String)
  | duplicateField (field : String)
  | invalidType (found : Found) (wanted : String)
  | invalidLength (length : Nat) (wanted : String)
  | unknownVariant (name : String) (known : List String)
  | noVariant (choice : String)
deriving DecidableEq

inductive Fault
  | data (m : Mismatch)
  | malformed
  | truncated
deriving DecidableEq

/-- A character as a report shows it between quotes. -/
def shownChar (c : Char) : List Char :=
  if c = '"' then ['\\', '"']
  else if c = '\\' then ['\\', '\\']
  else if c.toNat = 0 then ['\\', '0']
  else if c.toNat = 9 then ['\\', 't']
  else if c.toNat = 10 then ['\\', 'n']
  else if c.toNat = 13 then ['\\', 'r']
  else if Unicode.isShownAsIs c then [c]
  else '\\' :: 'u' :: '\x7b' :: (Nat.toDigits 16 c.toNat ++ ['\x7d'])

def shown (s : String) : String :=
  String.ofList ('"' :: s.toList.flatMap shownChar ++ ['"'])

/-- A word between back-quotes. -/
def ticked (s : String) : String := "\x60" ++ s ++ "\x60"

def Found.text : Found → String
  | .null => "null"
  | .bool b => "boolean " ++ ticked (String.ofList (boolText b))
  | .integer i => "integer " ++ ticked (String.ofList (integerText i))
  | .float x => "floating point " ++ ticked (String.ofList (floatText x))
  | .string s => "string " ++ shown s
  | .sequence => "sequence"
  | .map => "map"

/-- Two known names are joined by a word, more by commas. -/
def knownText : List String → String
  | [] => "there are no variants"
  | [a] => "expected " ++ ticked a
  | [a, b] => "expected " ++ ticked a ++ " or " ++ ticked b
  | more => "expected one of " ++ ", ".intercalate (more.map ticked)

def Mismatch.message : Mismatch → String
  | .missingField field => "missing field " ++ ticked field
  | .duplicateField field => "duplicate field " ++ ticked field
  | .invalidType found wanted => "invalid type: " ++ found.text ++ ", expected " ++ wanted
  | .invalidLength length wanted =>
    "invalid length " ++ String.ofList (Nat.toDigits 10 length) ++ ", expected " ++ wanted
  | .unknownVariant name known => "unknown variant " ++ ticked name ++ ", " ++ knownText known
  | .noVariant choice => "data did not match any variant of untagged enum " ++ choice

def Fault.message : Fault → String
  | .data m => m.message
  | .malformed => "<syntax>"
  | .truncated => "<eof>"

end GraphDecl.Json
