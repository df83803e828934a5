import GraphDecl.Binary64.Round

/-!
# The shortest decimal that reads back

The decimals that round to a binary64 number fill an interval around it, whose ends belong to it if
the significand is even. `Binary64.shortest` tries the grids of 1, 2, … 17 significant digits. On
each of them only the two neighbours of the number itself can be nearest, so it takes the first
grid of which a neighbour lies in the interval, and of two such neighbours the nearer one.
-/

namespace GraphDecl
namespace Binary64

/-- A decimal `digits * 10 ^ exponent`. -/
structure Decimal where
  digits : Nat
  exponent : Int
deriving DecidableEq

/-- The interval of decimals that round to a number: the number and the two ends, all over one
denominator, and whether the ends round to it too. -/
structure Interval where
  low : Nat
  mid : Nat
  high : Nat
  den : Nat
  closed : Bool

/-- The ends lie half-way to the neighbours; the lower neighbour of a power of two is half as far
as the upper one. -/
def interval (x : Binary64) : Interval :=
  let m := x.significand
  let down := if x.fraction = 0 ∧ 1 < x.biased then 1 else 2
  let (n, d) := scaled 2 1 (x.power - 2)
  ⟨(4 * m - down) * n, 4 * m * n, (4 * m + 2) * n, d, m % 2 = 0⟩

/-- Whether `num / den` rounds to the number of the interval. -/
def Interval.holds (i : Interval) (num den : Nat) : Bool :=
  if i.closed then i.low * den ≤ num * i.den && num * i.den ≤ i.high * den
  else i.low * den < num * i.den && num * i.den < i.high * den

/-- The exponent of the leading decimal digit of `num / den`, for a positive number: a first guess
from the bit lengths, moved up or down by one where it is off. -/
def leadingExponent (num den : Nat) : Int :=
  let guess : Int := ((num.log2 : Int) - den.log2) * 30103 / 100000
  let reaches (e : Int) : Bool :=
    let (n, d) := scaled 10 1 e
    n * den ≤ num * d
  if reaches (guess + 1) then guess + 1
  else if reaches guess then guess
  else guess - 1

/-- The neighbour of the interval's number on the grid of multiples of `10 ^ e` that lies in the
interval, the nearer one of two and the even one of two as near. -/
def Interval.onGrid? (i : Interval) (e : Int) : Option Nat :=
  let (n, d) := scaled 10 1 e
  let below := i.mid * d / (n * i.den)
  let above := below + 1
  let fits (k : Nat) : Bool := i.holds (k * n) d
  match fits below, fits above with
  | true, true => some (roundHalfEven (i.mid * d) (n * i.den))
  | true, false => some below
  | false, true => some above
  | false, false => none

/-- The grid of multiples of `10 ^ e` and then the finer ones. Seventeen digits always tell two
numbers apart, so the last grid needs no test. -/
def Interval.firstGrid (i : Interval) (e : Int) : Nat → Decimal
  | 0 => ⟨roundHalfEven (i.mid * (scaled 10 1 e).2) ((scaled 10 1 e).1 * i.den), e⟩
  | finer + 1 =>
    match i.onGrid? e with
    | some k => ⟨k, e⟩
    | none => i.firstGrid (e - 1) finer

/-- The shortest decimal that rounds to the magnitude of a finite number other than zero. -/
def shortest (x : Binary64) : Decimal :=
  let i := x.interval
  i.firstGrid (leadingExponent i.mid i.den) 16

end Binary64
end GraphDecl
