import GraphDecl.Binary64.Round

/-!
# Decimals by products and quotients

A decimal `significand * 10 ^ e` is made of the number nearest to its significand by one product with
the number nearest to `10 ^ e`, or by quotients if `e` is negative. Every step rounds, so the result may
lie next to the number nearest to the decimal. It is out of range if the product is.
-/

namespace GraphDecl
namespace Binary64

/-- The greatest power of ten there is a finite number for. -/
def greatestTen : Nat := 308

def powerOfTen (e : Nat) : Binary64 := ofNat (Nat.pow 10 e)

/-- `x` divided so often by the greatest power of ten; there is nothing to divide once it is zero. -/
def lowered (x : Binary64) : Nat → Binary64
  | 0 => x
  | n + 1 => if x.isZero then x else (x.quotient (powerOfTen greatestTen)).lowered n

/-- `x` divided by `10 ^ e`, the greatest power of ten first. -/
def dividedByTen (x : Binary64) (e : Nat) : Binary64 :=
  let times := (e - 1) / greatestTen
  (x.lowered times).quotient (powerOfTen (e - greatestTen * times))

/-- The number of a decimal, unless that is out of range. -/
def ofDecimal? (negative : Bool) (significand : Nat) (e : Int) : Option Binary64 :=
  if significand = 0 then some (zero negative)
  else if greatestTen < e then none
  else if e < 0 then
    some (ofParts negative ((ofNat significand).dividedByTen e.natAbs).magnitude)
  else
    let x := (ofNat significand).product (powerOfTen e.toNat)
    if x.isFinite then some (ofParts negative x.magnitude) else none

end Binary64
end GraphDecl
