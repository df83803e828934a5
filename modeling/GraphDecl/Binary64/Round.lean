import GraphDecl.Binary64.Basic

/-!
# The binary64 number nearest to a quotient

`Binary64.nearestMagnitude num den` is the magnitude of the binary64 number nearest to `num / den`,
ties going to the even significand. The bits of a binary64 number are laid out so that the
significand's carry moves into the exponent by itself: a significand `m` at the power `p` has the
magnitude `(p + 1074) * exponentUnit + m`. Products and quotients are the numbers nearest to the exact
ones.
-/

namespace GraphDecl

/-- `num / den` rounded to the nearest integer, a half going to the even one. -/
def roundHalfEven (num den : Nat) : Nat :=
  let q := num / den
  let r := num % den
  if 2 * r < den then q
  else if den < 2 * r then q + 1
  else if q % 2 = 0 then q else q + 1

/-- Within half a unit of the quotient. -/
theorem roundHalfEven_bounds (num : Nat) {den : Nat} (h : 0 < den) :
    2 * num ≤ 2 * (roundHalfEven num den * den) + den ∧
      2 * (roundHalfEven num den * den) ≤ 2 * num + den := by
  have hmod := Nat.mod_lt num h
  have hdiv := Nat.div_add_mod num den
  rw [Nat.mul_comm] at hdiv
  have hsucc : (num / den + 1) * den = num / den * den + den := by rw [Nat.add_mul, Nat.one_mul]
  unfold roundHalfEven
  dsimp only
  split
  · omega
  · split
    · rw [hsucc]; omega
    · split
      · omega
      · rw [hsucc]; omega

namespace Binary64

/-- Numerator and denominator of `n * base ^ e`. -/
def scaled (base n : Nat) (e : Int) : Nat × Nat :=
  if 0 ≤ e then (n * Nat.pow base e.toNat, 1) else (n, Nat.pow base (-e).toNat)

/-- The power of two that leaves a significand of 53 bits, or the least power there is. -/
def powerFor (num den : Nat) : Int :=
  let low : Int := max ((num.log2 : Int) - den.log2 - 53) (-1074)
  let (n, d) := scaled 2 num (-low)
  if n / (d * den) < 2 * exponentUnit then low else low + 1

/-- The magnitude nearest to `num / den`, which may lie past the finite ones. -/
def nearestMagnitude (num den : Nat) : Nat :=
  let p := powerFor num den
  let (n, d) := scaled 2 num (-p)
  (p + 1074).toNat * exponentUnit + roundHalfEven n (d * den)

/-- The number nearest to `num / den`, infinite if that lies past the largest finite one. -/
def nearest (num den : Nat) : Binary64 :=
  if num = 0 then zero false else ofParts false (min (nearestMagnitude num den) infiniteMagnitude)

def ofNat (n : Nat) : Binary64 := nearest n 1

/-- A finite number that is not negative, as numerator and denominator. -/
def ratio (x : Binary64) : Nat × Nat := scaled 2 x.significand x.power

/-- The product of finite numbers that are not negative. -/
def product (x y : Binary64) : Binary64 :=
  nearest (x.ratio.1 * y.ratio.1) (x.ratio.2 * y.ratio.2)

/-- The quotient of finite numbers that are not negative, the second of them not zero. -/
def quotient (x y : Binary64) : Binary64 :=
  nearest (x.ratio.1 * y.ratio.2) (x.ratio.2 * y.ratio.1)

end Binary64
end GraphDecl
