import GraphDecl.Binary64.Shortest

/-!
# The text of a binary64 number

The digits are the shortest ones that read back. `Layout` holds what else the written form decides:
between which exponents of the leading digit it is positional. A positional number keeps a fraction
digit (`.0`), a scientific one has one digit before the point and a signed exponent.
-/

namespace GraphDecl
namespace Binary64

/-- The exponents of the leading digit for which a number is written without `e`. -/
structure Layout where
  least : Int
  most : Int

/-- Numbers from `0.00001` up to `10 ^ 16` are positional. -/
def layout : Layout := ⟨-5, 15⟩

/-- The digits `ds` with a point after the first `n` of them. -/
def pointed (ds : List Char) (n : Nat) : List Char :=
  let frac := ds.drop n
  ds.take n ++ List.replicate (n - ds.length) '0' ++ '.' :: (if frac.isEmpty then ['0'] else frac)

/-- The digits `ds`, of which the first stands for `10 ^ e`, without an exponent. -/
def positional (ds : List Char) (e : Int) : List Char :=
  if e < 0 then '0' :: '.' :: (List.replicate ((-e).toNat - 1) '0' ++ ds)
  else pointed ds (e.toNat + 1)

/-- The digits `ds`, of which the first stands for `10 ^ e`, with an exponent. -/
def scientific (ds : List Char) (e : Int) : List Char :=
  ds.take 1 ++ (if ds.length ≤ 1 then [] else '.' :: ds.drop 1) ++
    'e' :: (if e < 0 then '-' else '+') :: Nat.toDigits 10 e.natAbs

/-- The digits without the zeros at their end. -/
def significant (ds : List Char) : List Char := (ds.reverse.dropWhile (· == '0')).reverse

def magnitudeText (x : Binary64) : List Char :=
  if x.isZero then ['0', '.', '0']
  else
    let d := x.shortest
    let ds := Nat.toDigits 10 d.digits
    let e : Int := d.exponent + (ds.length - 1 : Nat)
    if layout.least ≤ e ∧ e ≤ layout.most then positional (significant ds) e
    else scientific (significant ds) e

/-- The text of a finite number; an infinity or a NaN has none. -/
def text? (x : Binary64) : Option (List Char) :=
  if x.isFinite then some (if x.negative then '-' :: x.magnitudeText else x.magnitudeText) else none

end Binary64
end GraphDecl
