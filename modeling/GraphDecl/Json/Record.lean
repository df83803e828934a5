import GraphDecl.Json.Decode

/-!
# Records

A record is written as an object or as an array of its fields in their order. Reading fills the
slots of a draft one by one. In an object the known keys come in any order, each at most once, and
the values of unknown keys are skipped. An array may end early where the remaining fields can be
left out, and it must not go on behind the last one.
-/

namespace GraphDecl.Json

/-- A field of a record whose draft is a `σ`. -/
structure Slot (σ : Type) where
  name : String
  /-- Whether an array may end before this field. -/
  omissible : Bool
  filled : σ → Bool
  fill : σ → Doc → Except Fault σ

/-- A field that the draft holds once it has been read. -/
def Slot.of {σ α : Type} (name : String) (omissible : Bool) (get : σ → Option α)
    (set : σ → α → σ) (decode : Doc → Except Fault α) : Slot σ where
  name := name
  omissible := omissible
  filled draft := (get draft).isSome
  fill draft d := (decode d).map (set draft)

structure Record (σ : Type) where
  name : String
  slots : List (Slot σ)

namespace Record
variable {σ : Type}

def wanted (r : Record σ) : String := "struct " ++ r.name

/-- What is wanted of an array: the record with the number of its fields. -/
def wantedLength (r : Record σ) : String :=
  let n := r.slots.length
  r.wanted ++ " with " ++ String.ofList (Nat.toDigits 10 n) ++
    (if n = 1 then " element" else " elements")

/-- Fills the draft from one member of an object. A key that was there before is a fault as soon as
it is read. -/
def member (r : Record σ) (draft : σ) (k : Token String) (d : Doc) : Except Fault σ := do
  let key ← k.read
  match r.slots.find? (·.name == key) with
  | none => do
    d.skip
    return draft
  | some slot =>
    if slot.filled draft then mismatch (.duplicateField key) else slot.fill draft d

def members (r : Record σ) : σ → List (Token String × Doc) → Except Fault σ
  | draft, [] => .ok draft
  | draft, (k, d) :: rest => do
    let draft ← r.member draft k d
    r.members draft rest

/-- Fills the slots from `index` on from the items of an array. -/
def items (r : Record σ) (ending : Ending) :
    Nat → σ → List (Slot σ) → List Doc → Except Fault σ
  | _, draft, [], [] => do
    ending.check
    return draft
  | _, _, [], _ :: _ => .error .malformed
  | index, draft, slot :: slots, [] => do
    ending.check
    if slot.omissible then r.items ending (index + 1) draft slots []
    else mismatch (.invalidLength index r.wantedLength)
  | index, draft, slot :: slots, d :: rest => do
    let draft ← slot.fill draft d
    r.items ending (index + 1) draft slots rest

/-- The draft filled from a record in either form. -/
def decode (r : Record σ) (draft : σ) : Doc → Except Fault σ
  | .object members ending => do
    let draft ← r.members draft members
    ending.check
    return draft
  | .array items ending => r.items ending 0 draft r.slots items
  | d => d.unwanted r.wanted

end Record

/-- The value of a field that has to be there. -/
def required {α : Type} (field : String) : Option α → Except Fault α
  | some v => .ok v
  | none => mismatch (.missingField field)

end GraphDecl.Json
