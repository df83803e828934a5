/-!
# Binary64 numbers

A 64-bit floating point number is kept as its bits, so that two numbers are equal exactly if they
are the same pattern. `Binary64.numEq` is the numeric comparison: it takes the two zeros for equal
and a NaN for different from everything. A finite number is
`(-1) ^ negative * significand * 2 ^ power`.
-/

namespace GraphDecl

structure Binary64 where
  bits : UInt64
deriving DecidableEq

namespace Binary64

/-- The weight of the sign bit, `2 ^ 63`. -/
def signUnit : Nat := 0x8000000000000000

/-- The weight of the lowest bit of the exponent, `2 ^ 52`. -/
def exponentUnit : Nat := 0x10000000000000

def negative (x : Binary64) : Bool := x.bits.toNat / signUnit == 1

/-- The bits below the sign. In their order the numbers that are not negative ascend. -/
def magnitude (x : Binary64) : Nat := x.bits.toNat % signUnit

/-- The biased exponent, from 0 to 2047. -/
def biased (x : Binary64) : Nat := x.magnitude / exponentUnit

def fraction (x : Binary64) : Nat := x.magnitude % exponentUnit

/-- The magnitude of the infinities. -/
def infiniteMagnitude : Nat := 2047 * exponentUnit

def isNaN (x : Binary64) : Bool := infiniteMagnitude < x.magnitude

def isFinite (x : Binary64) : Bool := x.magnitude < infiniteMagnitude

def isZero (x : Binary64) : Bool := x.magnitude == 0

/-- The integer that a finite number scales by `2 ^ power`. -/
def significand (x : Binary64) : Nat :=
  if x.biased = 0 then x.fraction else exponentUnit + x.fraction

def power (x : Binary64) : Int :=
  if x.biased = 0 then -1074 else (x.biased : Int) - 1075

/-- The number of a sign and a magnitude below `signUnit`. -/
def ofParts (negative : Bool) (magnitude : Nat) : Binary64 :=
  ⟨UInt64.ofNat (if negative then signUnit + magnitude else magnitude)⟩

def zero (negative : Bool) : Binary64 := ofParts negative 0

/-- The comparison of numbers, where `-0.0` equals `0.0` and a NaN equals nothing. -/
def numEq (x y : Binary64) : Bool :=
  !x.isNaN && !y.isNaN && (x == y || x.isZero && y.isZero)

theorem ext_bits {x y : Binary64} (h : x.bits = y.bits) : x = y := by
  cases x; cases y; cases h; rfl

theorem toNat_ofParts (negative : Bool) {m : Nat} (h : m < signUnit) :
    (ofParts negative m).bits.toNat = if negative then signUnit + m else m := by
  rw [ofParts, UInt64.toNat_ofNat_of_lt']
  unfold signUnit at h ⊢
  rw [UInt64.size]
  split <;> omega

theorem magnitude_ofParts (negative : Bool) {m : Nat} (h : m < signUnit) :
    (ofParts negative m).magnitude = m := by
  rw [magnitude, toNat_ofParts negative h]
  cases negative
  · exact Nat.mod_eq_of_lt h
  · exact (Nat.add_mod_left signUnit m).trans (Nat.mod_eq_of_lt h)

theorem negative_ofParts (negative : Bool) {m : Nat} (h : m < signUnit) :
    (ofParts negative m).negative = negative := by
  have hpos : 0 < signUnit := Nat.zero_lt_of_lt h
  rw [Binary64.negative, toNat_ofParts negative h]
  cases negative
  · rw [if_neg Bool.false_ne_true, Nat.div_eq_of_lt h]
    rfl
  · rw [if_pos rfl, Nat.add_div_left m hpos, Nat.div_eq_of_lt h]
    rfl

end Binary64
end GraphDecl
