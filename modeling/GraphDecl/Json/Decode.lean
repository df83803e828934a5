import GraphDecl.Json.Document
import GraphDecl.OrderedMap

/-!
# Decoders

A decoder turns a value of a document into what its place asks for, or gives the first fault that a
reader meets on the way. Maps take their members in document order, so of a repeated key the first
place and the last value count, and every occurrence has to decode.
-/

namespace GraphDecl.Json

/-- The report that a value is not what its place wants. -/
def mismatch {α : Type} (m : Mismatch) : Except Fault α := .error (.data m)

/-- The fault of a value in the place of something else. -/
def Doc.unwanted {α : Type} (d : Doc) (wanted : String) : Except Fault α := do
  mismatch (.invalidType (← d.found) wanted)

def Doc.asString : Doc → Except Fault String
  | .string s => s.read
  | d => d.unwanted "a string"

def Doc.asBool : Doc → Except Fault Bool
  | .bool b => .ok b
  | d => d.unwanted "a boolean"

/-- A value that `null` leaves out. -/
def Doc.asOption {α : Type} (decode : Doc → Except Fault α) : Doc → Except Fault (Option α)
  | .null => .ok none
  | d => (decode d).map some

/-- Adds the members of an object to a map. -/
def decodeEntries {α : Type} (decode : Doc → Except Fault α) :
    OrderedMap α → List (Token String × Doc) → Except Fault (OrderedMap α)
  | m, [] => .ok m
  | m, (k, d) :: rest => do
    let key ← k.read
    let value ← decode d
    decodeEntries decode (m.insert key value) rest

def Doc.asMap {α : Type} (decode : Doc → Except Fault α) : Doc → Except Fault (OrderedMap α)
  | .object members ending => do
    let m ← decodeEntries decode .empty members
    ending.check
    return m
  | d => d.unwanted "a map"

def pickVariant {α : Type} (known : List (String × α)) (name : String) : Except Fault α :=
  match known.lookup name with
  | some v => .ok v
  | none => mismatch (.unknownVariant name (known.map Prod.fst))

/-- The unit that follows the name of a variant. -/
def Doc.asUnit : Doc → Except Fault Unit
  | .null => .ok ()
  | d => d.unwanted "unit"

/-- A variant without contents, by its name or as an object of one member, the name with `null`. -/
def Doc.asVariant {α : Type} (known : List (String × α)) : Doc → Except Fault α
  | .string s => do pickVariant known (← s.read)
  | .object [] (.broken f) => .error f
  | .object [] .closed => .error .malformed
  | .object ((k, d) :: rest) ending => do
    let v ← pickVariant known (← k.read)
    d.asUnit
    if rest.isEmpty then
      ending.check
      return v
    else .error .malformed
  | .absent f => .error f
  | _ => .error .malformed

/-- Decodes the root; only blanks may stand behind it. -/
def Document.decode {α : Type} (decode : Doc → Except Fault α) (doc : Document) :
    Except Fault α := do
  let v ← decode doc.root
  if doc.trailing then .error .malformed else return v

end GraphDecl.Json
