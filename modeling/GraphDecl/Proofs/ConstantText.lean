import GraphDecl.Proofs.WrittenValues
import Mathlib.Data.List.Induction

/-!
# Constants in JSON text

A constant that is not a binary64 number is read back from its text, and a number without fraction
and exponent is read as the integer that its digits denote, as far as 64 bits hold it
(`IntegerToken`). Such a number becomes a binary64 number if it is `-0` or does not fit, and never a
wrong integer. The integers with a sign end before `2 ^ 63`, those without one before `2 ^ 64`.
-/

namespace GraphDecl
namespace Json

/-! ### Numbers without fraction and exponent -/

theorem digitsValue_concat (ds : List Char) (d : Char) :
    digitsValue (ds ++ [d]) = 10 * digitsValue ds + (d.toNat - 48) := by
  rw [digitsValue, digitsValue, List.foldl_append]
  rfl

/-- Digits are read as their places say, the last one standing for the ones. -/
theorem digitsValue_eq_ofDigits (ds : List Char) :
    digitsValue ds = Nat.ofDigits 10 (ds.reverse.map fun d => d.toNat - '0'.toNat) := by
  induction ds using List.reverseRecOn with
  | nil => rfl
  | append_singleton ds d ih =>
    rw [digitsValue_concat, ih, List.reverse_append, List.reverse_singleton, List.singleton_append,
      List.map_cons, Nat.ofDigits_cons, Nat.add_comm]
    rfl

theorem fits64_iff {i : Int} : fits64 i = true ↔ -2 ^ 63 ≤ i ∧ i < 2 ^ 64 := by
  rw [fits64, Bool.and_eq_true, decide_eq_true_eq, decide_eq_true_eq]
  norm_num

/-- A number of JSON text that has no fraction and no exponent. -/
structure IntegerToken where
  negative : Bool
  digits : List Char
  digits_ne_nil : digits ≠ []
  isDigit : ∀ c ∈ digits, c.isDigit = true
  /-- A zero in front is the only digit. -/
  ne_zero_cons : ∀ c cs, digits ≠ '0' :: c :: cs

namespace IntegerToken

def chars (t : IntegerToken) : List Char := if t.negative then '-' :: t.digits else t.digits

def text (t : IntegerToken) : String := String.ofList t.chars

def magnitude (t : IntegerToken) : Nat :=
  Nat.ofDigits 10 (t.digits.reverse.map fun d => d.toNat - '0'.toNat)

/-- The integer that the number denotes. -/
def value (t : IntegerToken) : Int := if t.negative then -(t.magnitude : Int) else t.magnitude

/-- The parts in which the number is read. -/
def numeral (t : IntegerToken) : Numeral := ⟨t.negative, t.digits, [], true, 0⟩

variable {t : IntegerToken}

theorem integer_numeral : t.numeral.integer = t.value := by
  have hmagnitude : digitsValue t.digits = t.magnitude := digitsValue_eq_ofDigits t.digits
  show (if t.negative then -(digitsValue t.digits : Int) else digitsValue t.digits) = t.value
  rw [hmagnitude]
  rfl

theorem digits_of_magnitude_eq_zero (h : t.magnitude = 0) : t.digits = ['0'] := by
  have hzeros : ∀ c ∈ t.digits, c = '0' := by
    intro c hc
    have hplace : c.toNat - '0'.toNat = 0 :=
      Nat.digits_zero_of_eq_zero (by decide) h _ (List.mem_map_of_mem (List.mem_reverse.2 hc))
    have hdigit := Char.isDigit_iff_toNat.1 (t.isDigit c hc)
    have hzero : c.toNat = '0'.toNat := by omega
    exact Char.toNat_inj.1 hzero
  obtain ⟨c, cs, hcs⟩ := List.exists_cons_of_ne_nil t.digits_ne_nil
  obtain rfl : c = '0' := hzeros c (hcs ▸ List.mem_cons_self)
  cases cs with
  | nil => exact hcs
  | cons d cs => exact absurd hcs (t.ne_zero_cons d cs)

/-- A zero with a sign has one text. -/
theorem text_eq_negative_zero_iff :
    t.text = "-0" ↔ t.negative = true ∧ t.value = 0 := by
  constructor
  · intro h
    have hchars : t.chars = ['-', '0'] := by
      rw [← String.toList_ofList (l := t.chars)]
      exact congrArg String.toList h
    rw [chars] at hchars
    split at hchars
    · next hneg =>
      have hdigits : t.digits = ['0'] := (List.cons.inj hchars).2
      refine ⟨hneg, ?_⟩
      rw [value, if_pos hneg, magnitude, hdigits]
      rfl
    · exact absurd (t.isDigit '-' (hchars ▸ List.mem_cons_self)) (by decide)
  · rintro ⟨hneg, hvalue⟩
    have hmagnitude : t.magnitude = 0 := by
      rw [value, if_pos hneg] at hvalue
      omega
    rw [text, chars, if_pos hneg, digits_of_magnitude_eq_zero hmagnitude]

theorem scanNumber_chars (t : IntegerToken) :
    scanNumber t.chars = (.whole t.numeral.value, []) := by
  have hscan := scanUnsigned_digits t.negative t.digits_ne_nil t.isDigit t.ne_zero_cons
    Value.stops_nil
  rw [List.append_nil] at hscan
  obtain ⟨c, cs, hcs⟩ := List.exists_cons_of_ne_nil t.digits_ne_nil
  rw [chars]
  split
  · next hneg => rw [scanNumber, ← hneg, hscan, numeral]
  · next hpos =>
    rw [Bool.not_eq_true] at hpos
    rw [hcs, scanNumber_of_isDigit (t.isDigit c (hcs ▸ List.mem_cons_self)), ← hcs, ← hpos, hscan,
      numeral]

theorem exists_chars_eq_cons (t : IntegerToken) :
    ∃ c cs, t.chars = c :: cs ∧ (c = '-' ∨ c.isDigit = true) := by
  obtain ⟨c, cs, hcs⟩ := List.exists_cons_of_ne_nil t.digits_ne_nil
  rw [chars]
  split
  · exact ⟨_, _, rfl, .inl rfl⟩
  · exact ⟨c, cs, hcs, .inr (t.isDigit c (hcs ▸ List.mem_cons_self))⟩

/-- The document of the text is the number. -/
theorem document_text (t : IntegerToken) :
    Document.ofText t.text = ⟨.number (.whole t.numeral.value), false⟩ := by
  obtain ⟨c, cs, hcs, hfirst⟩ := exists_chars_eq_cons t
  have hscan := scanNumber_chars t
  rw [hcs] at hscan
  rw [Document.ofText, text, String.toList_ofList, hcs, Value.readValue_number hfirst, hscan]
  rfl

/-- The number is an integer for the reader. -/
def Fits (t : IntegerToken) : Prop := fits64 t.value = true ∧ t.text ≠ "-0"

theorem value_numeral (h : t.Fits) : t.numeral.value = .ok (.integer t.value) := by
  rw [Numeral.value, integer_numeral, if_pos ⟨rfl, h.1, mt text_eq_negative_zero_iff.2 h.2⟩]

theorem value_numeral_of_not_fits (h : ¬ t.Fits) :
    (∃ x, t.numeral.value = .ok (.float x)) ∨ t.numeral.value = .error .malformed := by
  have hcond : ¬ (t.numeral.isInteger = true ∧ fits64 t.numeral.integer = true ∧
      ¬ (t.numeral.negative = true ∧ t.numeral.integer = 0)) := by
    rw [integer_numeral]
    rintro ⟨-, hfits, hsign⟩
    exact h ⟨hfits, mt text_eq_negative_zero_iff.1 hsign⟩
  rw [Numeral.value, if_neg hcond]
  split
  · next x _ => exact .inl ⟨x, rfl⟩
  · exact .inr rfl

/-- The number that a natural number is written as, with or without a minus sign. -/
def decimal (negative : Bool) (n : Nat) : IntegerToken where
  negative := negative
  digits := Nat.toDigits 10 n
  digits_ne_nil := Nat.toDigits_ne_nil
  isDigit _ hc := Nat.isDigit_of_mem_toDigits (by decide) (by decide) hc
  ne_zero_cons := toDigits_ne_zero_cons n

theorem value_decimal (negative : Bool) (n : Nat) :
    (decimal negative n).value = if negative then -(n : Int) else n := by
  have hmagnitude : (decimal negative n).magnitude = n :=
    (digitsValue_eq_ofDigits _).symm.trans (digitsValue_toDigits n)
  rw [value, hmagnitude]
  rfl

theorem fits_decimal_uint64 (u : UInt64) : (decimal false u.toNat).Fits := by
  have hhigh := u.toNat_lt
  refine ⟨?_, fun htext => ?_⟩
  · rw [value_decimal, fits64_iff]
    simp only [Bool.false_eq_true, ↓reduceIte]
    omega
  · exact absurd (text_eq_negative_zero_iff.1 htext).1 Bool.false_ne_true

end IntegerToken
end Json

namespace Literal
open Json (IntegerToken)

/-! ### Constants -/

/-- An integer that a sign leaves room for has one. -/
theorem ofNumber_signed {i : Int} (hlow : -2 ^ 63 ≤ i) (hhigh : i < 2 ^ 63) :
    ∃ s : Int64, s.toInt = i ∧ ofNumber (.integer i) = .integer s := by
  refine ⟨Int64.ofInt i, Int64.toInt_ofInt_of_le hlow hhigh, ?_⟩
  rw [ofNumber, if_pos (by omega)]

theorem ofNumber_unsigned {i : Int} (hlow : 2 ^ 63 ≤ i) (hhigh : i < 2 ^ 64) :
    ∃ u : UInt64, (u.toNat : Int) = i ∧ ofNumber (.integer i) = .unsigned u := by
  have hnat : (UInt64.ofNat i.toNat).toNat = i.toNat :=
    UInt64.toNat_ofNat_of_lt' (by rw [UInt64.size]; omega)
  refine ⟨UInt64.ofNat i.toNat, by omega, ?_⟩
  rw [ofNumber, if_neg (by omega)]

section
variable {t : IntegerToken}

/-- A text that is one number is read as what the number gives. -/
theorem ofText_token (t : IntegerToken) : ofText t.text = t.numeral.value.map ofNumber := by
  rw [ofText, IntegerToken.document_text, Json.Document.decode]
  show (t.numeral.value.map ofNumber >>= _) = _
  cases t.numeral.value <;> rfl

theorem ofText_of_fits (h : t.Fits) : ofText t.text = .ok (ofNumber (.integer t.value)) := by
  rw [ofText_token, IntegerToken.value_numeral h]
  rfl

theorem ofText_of_not_fits (h : ¬ t.Fits) :
    (∃ x, ofText t.text = .ok (.float x)) ∨ ofText t.text = .error .malformed := by
  rw [ofText_token]
  rcases IntegerToken.value_numeral_of_not_fits h with ⟨x, hx⟩ | hfault
  · left
    rw [hx]
    exact ⟨x, rfl⟩
  · right
    rw [hfault]
    rfl

end

theorem ofText_eq_of_exact {l : Literal} (h : l.Exact) : ofText l.text = .ok l := by
  rw [ofText, text, Json.Value.document_text (exact_toJson h), Json.Document.decode,
    ofDoc_doc_toJson h]
  rfl

/-- The decimal text of an unsigned integer is read as the constant made of the integer. -/
theorem ofText_toString (u : UInt64) : ofText (toString u) = .ok (ofUInt64 u) := by
  have htext : toString u = (IntegerToken.decimal false u.toNat).text := rfl
  rw [htext, ofText_of_fits (IntegerToken.fits_decimal_uint64 u), IntegerToken.value_decimal,
    ofUInt64_eq_ofNumber]
  rfl

theorem text_unsigned (u : UInt64) : (unsigned u).text = toString u := by
  have hnat : ¬ (u.toNat : Int) < 0 := by omega
  have htext : Json.integerText u.toNat = Nat.toDigits 10 u.toNat := by
    rw [Json.integerText, if_neg hnat, Int.natAbs_natCast]
  exact congrArg String.ofList htext

/-- Every constant but a binary64 number is read back from its text, where an unsigned integer that fits
64 bits with a sign comes back with one. -/
theorem read_back :
    (∀ l : Literal, l.Exact → ofText l.text = .ok l) ∧
      ∀ u : UInt64, u.toNat < 2 ^ 63 →
        ∃ i : Int64, i.toInt = u.toNat ∧ ofText (unsigned u).text = .ok (.integer i) := by
  refine ⟨fun l h => ofText_eq_of_exact h, fun u hu => ?_⟩
  obtain ⟨i, hi, hnumber⟩ := ofNumber_signed (i := u.toNat) (by omega) (by omega)
  refine ⟨i, hi, ?_⟩
  rw [text_unsigned, ofText_toString, ofUInt64_eq_ofNumber, hnumber]

theorem read_back_marks :
    (string "\"\\\x01 1e5\nnull é").Exact ∧ (unsigned 0x8000000000000000).Exact ∧
      ofText (string "\"\\\x01 1e5\nnull é").text = .ok (string "\"\\\x01 1e5\nnull é") ∧
      ofText (unsigned 0x8000000000000000).text = .ok (unsigned 0x8000000000000000) ∧
      ∃ i : Int64, i.toInt = 7 ∧ ofText (unsigned 7).text = .ok (.integer i) := by
  have hmarks : (string "\"\\\x01 1e5\nnull é").Exact := trivial
  have hlarge : (unsigned 0x8000000000000000).Exact := by
    show 0x8000000000000000 ≤ (0x8000000000000000 : UInt64).toNat
    decide
  exact ⟨hmarks, hlarge, read_back.1 _ hmarks, read_back.1 _ hlarge, read_back.2 7 (by decide)⟩

/-- An integer in the text is that integer for the reader, with a sign if one fits, and a number that no
64 bits hold is no integer at all. -/
theorem integers_exact :
    (∀ t : IntegerToken,
      (t.text ≠ "-0" → -2 ^ 63 ≤ t.value → t.value < 2 ^ 63 →
        ∃ i : Int64, i.toInt = t.value ∧ ofText t.text = .ok (.integer i)) ∧
      (2 ^ 63 ≤ t.value → t.value < 2 ^ 64 →
        ∃ u : UInt64, (u.toNat : Int) = t.value ∧ ofText t.text = .ok (.unsigned u)) ∧
      (t.text = "-0" ∨ t.value < -2 ^ 63 ∨ 2 ^ 64 ≤ t.value →
        (∃ x, ofText t.text = .ok (.float x)) ∨ ofText t.text = .error .malformed)) ∧
      ∀ u : UInt64, ofText (toString u) = .ok (ofUInt64 u) := by
  refine ⟨fun t => ⟨fun hzero hlow hhigh => ?_, fun hlow hhigh => ?_, fun hout => ?_⟩,
    ofText_toString⟩
  · have hfits : t.Fits := ⟨Json.fits64_iff.2 ⟨hlow, by omega⟩, hzero⟩
    obtain ⟨i, hi, hnumber⟩ := ofNumber_signed hlow hhigh
    exact ⟨i, hi, by rw [ofText_of_fits hfits, hnumber]⟩
  · have hzero : t.text ≠ "-0" := by
      intro htext
      have hvalue := (IntegerToken.text_eq_negative_zero_iff.1 htext).2
      omega
    have hfits : t.Fits := ⟨Json.fits64_iff.2 ⟨by omega, hhigh⟩, hzero⟩
    obtain ⟨u, hu, hnumber⟩ := ofNumber_unsigned hlow hhigh
    exact ⟨u, hu, by rw [ofText_of_fits hfits, hnumber]⟩
  · refine ofText_of_not_fits ?_
    rintro ⟨hrange, hzero⟩
    have hbounds := Json.fits64_iff.1 hrange
    rcases hout with htext | hlow | hhigh
    · exact hzero htext
    · omega
    · omega

/-- The integers at the bounds, and a zero with a sign. -/
theorem integers_exact_bounds :
    (∃ i : Int64, i.toInt = -2 ^ 63 ∧ ofText "-9223372036854775808" = .ok (.integer i)) ∧
      (∃ u : UInt64, (u.toNat : Int) = 2 ^ 63 ∧ ofText "9223372036854775808" = .ok (.unsigned u)) ∧
      ((∃ x, ofText "18446744073709551616" = .ok (.float x)) ∨
        ofText "18446744073709551616" = .error .malformed) ∧
      ((∃ x, ofText "-0" = .ok (.float x)) ∨ ofText "-0" = .error .malformed) := by
  have hleast := integers_exact.1 (.decimal true (2 ^ 63))
  have hfirst := integers_exact.1 (.decimal false (2 ^ 63))
  have hpast := integers_exact.1 (.decimal false (2 ^ 64))
  have hzero := integers_exact.1 (.decimal true 0)
  rw [IntegerToken.value_decimal] at hleast hfirst hpast
  refine ⟨hleast.1 (by decide) (by decide) (by decide), hfirst.2.1 (by decide) (by decide),
    hpast.2.2 (.inr (.inr (by decide))), hzero.2.2 (.inl (by decide))⟩

end Literal
end GraphDecl
