import GraphDecl.Binary64.Decimal
import GraphDecl.Json.Fault

/-!
# Strings and numbers in JSON text

A value that is wanted is read, one that is not is skipped, and skipping asks for less: a lone
surrogate escape or a number out of range is a fault only where the value is wanted. A `Token` keeps
both outcomes. `scanString` takes a string apart into characters and 16-bit units first, as the
grammar is decided there, and `joinUnits` then pairs the surrogates.
-/

namespace GraphDecl.Json

/-- A string or number as it stands in the text. Behind a whole token the text goes on, whatever
reading it gives; a cut one is malformed for both and nothing behind it is looked at. -/
inductive Token (α : Type)
  | whole (value : Except Fault α)
  | cut (whenRead whenSkipped : Fault)

namespace Token
variable {α : Type}

/-- The value, or the first fault that reading it meets. -/
def read : Token α → Except Fault α
  | .whole value => value
  | .cut whenRead _ => .error whenRead

/-- The first fault that skipping meets. -/
def skip : Token α → Except Fault Unit
  | .whole _ => .ok ()
  | .cut _ whenSkipped => .error whenSkipped

end Token

/-- A fault by whether any text is left. -/
def faultAt (rest : List Char) : Fault := if rest.isEmpty then .truncated else .malformed

/-! ## Strings -/

/-- What a string is written with: a character or a 16-bit unit given by four hexadecimal digits. -/
inductive Piece
  | char (c : Char)
  | unit (n : Nat)
deriving DecidableEq

def hexValue? (c : Char) : Option Nat :=
  if '0' ≤ c ∧ c ≤ '9' then some (c.toNat - 48)
  else if 'a' ≤ c ∧ c ≤ 'f' then some (c.toNat - 87)
  else if 'A' ≤ c ∧ c ≤ 'F' then some (c.toNat - 55)
  else none

def unit? (a b c d : Char) : Option Nat := do
  return 4096 * (← hexValue? a) + 256 * (← hexValue? b) + 16 * (← hexValue? c) + (← hexValue? d)

/-- The character of a short escape. -/
def escaped? (c : Char) : Option Char :=
  if c = '"' ∨ c = '\\' ∨ c = '/' then some c
  else if c = 'b' then some (Char.ofNat 8)
  else if c = 'f' then some (Char.ofNat 12)
  else if c = 'n' then some '\n'
  else if c = 'r' then some '\r'
  else if c = 't' then some '\t'
  else none

/-- Four bytes are taken for the digits of a unit, so text with fewer left has ended too early. -/
def shortUnitFault (rest : List Char) : Fault :=
  if (String.ofList rest).utf8ByteSize < 4 then .truncated else .malformed

/-- The pieces up to the closing quote and the text behind it, or the fault that stops them. -/
def pieces : List Char → List Piece × Except Fault (List Char)
  | [] => ([], .error .truncated)
  | '\\' :: 'u' :: a :: b :: c :: d :: rest =>
    match unit? a b c d with
    | some n =>
      let r := pieces rest
      (.unit n :: r.1, r.2)
    | none => ([], .error .malformed)
  | '\\' :: 'u' :: rest => ([], .error (shortUnitFault rest))
  | '\\' :: e :: rest =>
    match escaped? e with
    | some c =>
      let r := pieces rest
      (.char c :: r.1, r.2)
    | none => ([], .error .malformed)
  | ['\\'] => ([], .error .truncated)
  | c :: rest =>
    if c = '"' then ([], .ok rest)
    else if c.toNat < 32 then ([], .error .malformed)
    else
      let r := pieces rest
      (.char c :: r.1, r.2)

def isLead (n : Nat) : Bool := 0xD800 ≤ n && n < 0xDC00

def isTrail (n : Nat) : Bool := 0xDC00 ≤ n && n < 0xE000

/-- The character of a surrogate pair. -/
def pairChar (lead trail : Nat) : Char :=
  Char.ofNat (0x10000 + (lead - 0xD800) * 1024 + (trail - 0xDC00))

/-- The text of the pieces before `stop`, the fault they end with if there is one. A surrogate that
is not half of a pair is malformed, unless the text stops before its partner could have come. -/
def joinUnits (stop : Option Fault) : List Piece → Except Fault (List Char)
  | [] => match stop with
    | none => .ok []
    | some f => .error f
  | .char c :: rest => (joinUnits stop rest).map (c :: ·)
  | [.unit n] =>
    if isTrail n then .error .malformed
    else if isLead n then .error (stop.getD .malformed)
    else (joinUnits stop []).map (Char.ofNat n :: ·)
  | .unit n :: .unit m :: rest =>
    if isTrail n then .error .malformed
    else if isLead n then
      if isTrail m then (joinUnits stop rest).map (pairChar n m :: ·) else .error .malformed
    else (joinUnits stop (.unit m :: rest)).map (Char.ofNat n :: ·)
  | .unit n :: .char c :: rest =>
    if isTrail n || isLead n then .error .malformed
    else (joinUnits stop (.char c :: rest)).map (Char.ofNat n :: ·)

/-- The string whose opening quote has been passed, and the text behind it. -/
def scanString (cs : List Char) : Token String × List Char :=
  match pieces cs with
  | (ps, .ok rest) => (.whole ((joinUnits none ps).map String.ofList), rest)
  | (ps, .error f) =>
    match joinUnits (some f) ps with
    | .error e => (.cut e f, [])
    | .ok _ => (.cut f f, [])

/-! ## Numbers -/

/-- A number as JSON tells it apart: integers of 64 bits, signed or not, and everything else. -/
inductive Number
  | integer (i : Int)
  | float (x : Binary64)
deriving DecidableEq

/-- The parts of a number in the text. `exponent` is absent if there is no `e`. -/
structure Numeral where
  negative : Bool
  int : List Char
  frac : List Char
  isInteger : Bool
  exponent : Int

def digitsValue (ds : List Char) : Nat := ds.foldl (fun n d => 10 * n + (d.toNat - 48)) 0

def Numeral.integer (n : Numeral) : Int :=
  if n.negative then -(digitsValue n.int : Int) else digitsValue n.int

/-- Whether 64 bits can hold an integer, with a sign or without. -/
def fits64 (i : Int) : Bool := -0x8000000000000000 ≤ i && i < 0x10000000000000000

/-- The digits are taken into a significand as far as 64 bits hold it. Those from the first that does not
fit on are left. -/
def takeSignificand (n : Nat) : List Char → Nat × List Char
  | [] => (n, [])
  | d :: ds =>
    let next := 10 * n + (d.toNat - 48)
    if next < 0x10000000000000000 then takeSignificand next ds else (n, d :: ds)

/-- The significand of 64 bits that a number is read with, and the power of ten that goes with it. A
digit before the point that is left counts for its place, one behind the point for nothing. -/
def Numeral.decimal (n : Numeral) : Nat × Int :=
  let (int, intLeft) := takeSignificand 0 n.int
  let (significand, fracLeft) := takeSignificand int n.frac
  (significand, n.exponent + intLeft.length - (n.frac.length - fracLeft.length : Nat))

/-- An integer that fits 64 bits stays exact; `-0` and everything else is a binary64 number, and it is a
fault if it is out of range. -/
def Numeral.value (n : Numeral) : Except Fault Number :=
  if n.isInteger ∧ fits64 n.integer ∧ ¬(n.negative ∧ n.integer = 0) then
    .ok (.integer n.integer)
  else
    match Binary64.ofDecimal? n.negative n.decimal.1 n.decimal.2 with
    | some x => .ok (.float x)
    | none => .error .malformed

def takeDigits (cs : List Char) : List Char × List Char :=
  (cs.takeWhile Char.isDigit, cs.dropWhile Char.isDigit)

/-- A part of a number that needs a digit and has none: reading tells the end of the text from a
stray character, skipping does not. -/
def noDigit (rest : List Char) : Token Number × List Char := (.cut (faultAt rest) .malformed, [])

/-- The exponent behind its `e`, as sign and digits, and the text behind it. -/
def scanExponent (cs : List Char) : (Int × List Char) × List Char :=
  let (sign, cs) : Int × List Char := match cs with
    | '-' :: r => (-1, r)
    | '+' :: r => (1, r)
    | r => (1, r)
  let (ds, rest) := takeDigits cs
  ((sign * digitsValue ds, ds), rest)

/-- The number that goes on behind its sign with `int` and perhaps a fraction. -/
def scanAfterFraction (negative : Bool) (int frac : List Char) (isInteger : Bool) :
    List Char → Token Number × List Char
  | 'e' :: cs | 'E' :: cs =>
    let ((e, ds), rest) := scanExponent cs
    if ds.isEmpty then noDigit rest
    else (.whole (Numeral.value ⟨negative, int, frac, false, e⟩), rest)
  | rest => (.whole (Numeral.value ⟨negative, int, frac, isInteger, 0⟩), rest)

/-- A number behind its sign: no digits before the first are zeros. -/
def scanUnsigned (negative : Bool) (cs : List Char) : Token Number × List Char :=
  let (int, rest) := takeDigits cs
  match int, rest with
  | [], rest => noDigit rest
  | '0' :: _ :: _, _ => (.cut .malformed .malformed, [])
  | int, '.' :: rest =>
    let (frac, rest) := takeDigits rest
    if frac.isEmpty then noDigit rest else scanAfterFraction negative int frac false rest
  | int, rest => scanAfterFraction negative int [] true rest

def scanNumber : List Char → Token Number × List Char
  | '-' :: cs => scanUnsigned true cs
  | cs => scanUnsigned false cs

end GraphDecl.Json
