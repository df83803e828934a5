import GraphDecl.Json.Token
import Mathlib.Data.Nat.Digits.Defs

/-!
# Written strings and integers are read back

A reader that has passed the opening quote of a written string gets that string, whatever stands
behind the closing quote (`scanString_escape`). Some control characters are written as units of four
digits, so the pieces of the text are not the characters of the string, but each stands for one
(`joinUnits_unit`), as no character is a surrogate. An integer of 64 bits is read exactly if what
stands behind it cannot belong to a number (`scanNumber_integerText`).
-/

namespace GraphDecl.Json

/-! ### Strings -/

theorem hexValue?_hexDigit : ∀ n < 16, hexValue? (hexDigit n) = some n := by decide

theorem unit?_hexDigit {n : Nat} (h : n < 32) :
    unit? '0' '0' (hexDigit (n / 16)) (hexDigit (n % 16)) = some n := by
  have hzero : hexValue? '0' = some 0 := rfl
  rw [unit?, hzero, hexValue?_hexDigit _ (by omega), hexValue?_hexDigit _ (by omega)]
  have hn : 4096 * 0 + 256 * 0 + 16 * (n / 16) + n % 16 = n := by omega
  exact congrArg some hn

/-- A unit that is a character by itself joins nothing. -/
theorem joinUnits_unit (c : Char) (stop : Option Fault) (ps : List Piece) :
    joinUnits stop (.unit c.toNat :: ps) = (joinUnits stop ps).map (c :: ·) := by
  have hrange : c.toNat < 0xD800 ∨ 0xDFFF < c.toNat := by
    have hvalid : c.toNat.isValidChar := c.valid
    rw [Nat.isValidChar] at hvalid
    omega
  have hlead : isLead c.toNat = false := by simp [isLead]; omega
  have htrail : isTrail c.toNat = false := by simp [isTrail]; omega
  cases ps with
  | nil => simp [joinUnits, hlead, htrail, Char.ofNat_toNat]
  | cons p ps => cases p <;> simp [joinUnits, hlead, htrail, Char.ofNat_toNat]

theorem pieces_char {c : Char} (hquote : c ≠ '"') (hslash : c ≠ '\\') (hctl : ¬ c.toNat < 32)
    (rest : List Char) : pieces (c :: rest) = (.char c :: (pieces rest).1, (pieces rest).2) := by
  rw [pieces.eq_def]
  split <;> simp_all

theorem pieces_quote (rest : List Char) : pieces ('"' :: rest) = ([], .ok rest) := by
  simp [pieces]

/-- The written form of a character is one piece that stands for it. -/
theorem pieces_escapeChar (c : Char) (rest : List Char) :
    ∃ p, pieces (escapeChar c ++ rest) = (p :: (pieces rest).1, (pieces rest).2) ∧
      (p = .char c ∨ p = .unit c.toNat) := by
  -- short escapes name their character by its number
  have hshort : ∀ n e, escaped? e = some (Char.ofNat n) → e ≠ 'u' → c.toNat = n →
      pieces ('\\' :: e :: rest) = (.char c :: (pieces rest).1, (pieces rest).2) := by
    intro n e he hu hn
    obtain rfl : c = Char.ofNat n := by rw [← hn, Char.ofNat_toNat]
    simp [pieces, he, hu]
  rw [escapeChar]
  split
  · next h => exact ⟨_, hshort 34 '"' rfl (by decide) (by rw [h]; rfl), .inl rfl⟩
  split
  · next h => exact ⟨_, hshort 92 '\\' rfl (by decide) (by rw [h]; rfl), .inl rfl⟩
  split
  · next h => exact ⟨_, hshort 8 'b' rfl (by decide) h, .inl rfl⟩
  split
  · next h => exact ⟨_, hshort 9 't' rfl (by decide) h, .inl rfl⟩
  split
  · next h => exact ⟨_, hshort 10 'n' rfl (by decide) h, .inl rfl⟩
  split
  · next h => exact ⟨_, hshort 12 'f' rfl (by decide) h, .inl rfl⟩
  split
  · next h => exact ⟨_, hshort 13 'r' rfl (by decide) h, .inl rfl⟩
  split
  · next h => exact ⟨.unit c.toNat, by simp [pieces, unit?_hexDigit h], .inr rfl⟩
  · next hquote hslash _ _ _ _ _ hctl => exact ⟨_, pieces_char hquote hslash hctl rest, .inl rfl⟩

theorem pieces_escape (cs rest : List Char) :
    ∃ ps, pieces (escape cs ++ '"' :: rest) = (ps, .ok rest) ∧ joinUnits none ps = .ok cs := by
  induction cs with
  | nil => exact ⟨[], pieces_quote rest, rfl⟩
  | cons c cs ih =>
    obtain ⟨ps, hps, hjoin⟩ := ih
    obtain ⟨p, hp, hc⟩ := pieces_escapeChar c (escape cs ++ '"' :: rest)
    refine ⟨p :: ps, by rw [escape_cons, List.append_assoc, hp, hps], ?_⟩
    have hcons : joinUnits none (p :: ps) = (joinUnits none ps).map (c :: ·) := by
      rcases hc with rfl | rfl
      · rw [joinUnits]
      · exact joinUnits_unit c none ps
    rw [hcons, hjoin]
    rfl

/-- Behind its opening quote a written string is read up to the closing one. -/
theorem scanString_escape (s : String) (rest : List Char) :
    scanString (escape s.toList ++ '"' :: rest) = (.whole (.ok s), rest) := by
  obtain ⟨ps, hps, hjoin⟩ := pieces_escape s.toList rest
  rw [scanString, hps]
  simp [hjoin, Except.map]

/-! ### Integers -/

/-- The text cannot go on a number. -/
def Stops (rest : List Char) : Prop :=
  ∀ c ∈ rest.head?, c.isDigit = false ∧ c ≠ '.' ∧ c ≠ 'e' ∧ c ≠ 'E'

theorem takeDigits_append {ds rest : List Char} (hds : ∀ c ∈ ds, c.isDigit = true)
    (hrest : ∀ c ∈ rest.head?, c.isDigit = false) : takeDigits (ds ++ rest) = (ds, rest) := by
  have htake : rest.takeWhile Char.isDigit = [] := by
    cases rest with
    | nil => rfl
    | cons c rest => simp [hrest c rfl]
  have hdrop : rest.dropWhile Char.isDigit = rest := by
    cases rest with
    | nil => rfl
    | cons c rest => simp [hrest c rfl]
  rw [takeDigits, List.takeWhile_append_of_pos hds, List.dropWhile_append_of_pos hds, htake, hdrop,
    List.append_nil]

theorem digitsValue_toDigits (n : Nat) : digitsValue (Nat.toDigits 10 n) = n := by
  have h := Nat.ofDigitChars_ten_toDigits (n := n)
  rwa [Nat.ofDigitChars_eq_foldl] at h

theorem exists_toDigits_eq_cons (n : Nat) :
    ∃ d ds, Nat.toDigits 10 n = d :: ds ∧ d.isDigit = true := by
  obtain ⟨d, ds, hd⟩ := List.exists_cons_of_ne_nil (Nat.toDigits_ne_nil (n := n) (b := 10))
  exact ⟨d, ds, hd, Nat.isDigit_of_mem_toDigits (by decide) (by decide) (hd ▸ List.mem_cons_self)⟩

theorem head?_toDigits_ne_zero {n : Nat} (h : 0 < n) : (Nat.toDigits 10 n).head? ≠ some '0' := by
  induction n using Nat.strong_induction_on with
  | _ n ih =>
    by_cases hn : n < 10
    · rw [Nat.toDigits_of_lt_base hn]
      intro heq
      have := Nat.digitChar_eq_zero.1 (Option.some.inj heq)
      omega
    · obtain ⟨d, ds, hd, -⟩ := exists_toDigits_eq_cons (n / 10)
      have hfirst := ih (n / 10) (by omega) (by omega)
      rw [hd] at hfirst
      rwa [Nat.toDigits_of_base_le (by decide) (by omega), hd]

/-- No digits stand behind a first zero. -/
theorem toDigits_ne_zero_cons (n : Nat) (c : Char) (cs : List Char) :
    Nat.toDigits 10 n ≠ '0' :: c :: cs := by
  intro heq
  by_cases hn : 0 < n
  · exact head?_toDigits_ne_zero hn (by rw [heq]; rfl)
  · obtain rfl : n = 0 := by omega
    rw [Nat.toDigits_zero] at heq
    cases heq

/-- Digits that no zero leads are read as an integer. -/
theorem scanUnsigned_digits (negative : Bool) {ds rest : List Char} (hne : ds ≠ [])
    (hds : ∀ c ∈ ds, c.isDigit = true) (hzero : ∀ c cs, ds ≠ '0' :: c :: cs) (h : Stops rest) :
    scanUnsigned negative (ds ++ rest) =
      (.whole (Numeral.value ⟨negative, ds, [], true, 0⟩), rest) := by
  have hdigits : takeDigits (ds ++ rest) = (ds, rest) :=
    takeDigits_append hds fun c hc => (h c hc).1
  have hafter : scanAfterFraction negative ds [] true rest =
      (.whole (Numeral.value ⟨negative, ds, [], true, 0⟩), rest) := by
    rw [scanAfterFraction.eq_def]
    split
    · exact absurd rfl (h 'e' rfl).2.2.1
    · exact absurd rfl (h 'E' rfl).2.2.2
    · rfl
  rw [scanUnsigned, hdigits]
  dsimp only
  split
  · exact absurd rfl hne
  · exact absurd rfl (hzero _ _)
  · exact absurd rfl (h '.' rfl).2.1
  · exact hafter

theorem scanUnsigned_toDigits (negative : Bool) (n : Nat) {rest : List Char} (h : Stops rest) :
    scanUnsigned negative (Nat.toDigits 10 n ++ rest) =
      (.whole (Numeral.value ⟨negative, Nat.toDigits 10 n, [], true, 0⟩), rest) :=
  scanUnsigned_digits negative Nat.toDigits_ne_nil
    (fun _ hc => Nat.isDigit_of_mem_toDigits (by decide) (by decide) hc) (toDigits_ne_zero_cons n) h

theorem value_toDigits {negative : Bool} {i : Int} (hfits : fits64 i = true)
    (hsign : negative = true ↔ i < 0) :
    Numeral.value ⟨negative, Nat.toDigits 10 i.natAbs, [], true, 0⟩ = .ok (.integer i) := by
  have hint : Numeral.integer ⟨negative, Nat.toDigits 10 i.natAbs, [], true, 0⟩ = i := by
    rw [Numeral.integer, digitsValue_toDigits]
    cases negative with
    | true =>
      have hneg := hsign.1 rfl
      show -(i.natAbs : Int) = i
      omega
    | false =>
      have hpos : ¬ i < 0 := fun hi => Bool.false_ne_true (hsign.2 hi)
      show (i.natAbs : Int) = i
      omega
  have hnonzero : ¬ (negative = true ∧ i = 0) := by
    rintro ⟨hneg, rfl⟩
    exact absurd (hsign.1 hneg) (by decide)
  rw [Numeral.value, hint, if_pos ⟨rfl, hfits, hnonzero⟩]

theorem scanNumber_of_isDigit {c : Char} (h : c.isDigit = true) (cs : List Char) :
    scanNumber (c :: cs) = scanUnsigned false (c :: cs) := by
  rw [scanNumber.eq_def]
  split
  · next heq =>
    obtain rfl := (List.cons.inj heq).1
    exact absurd h (by decide)
  · rfl

/-- An integer of 64 bits is read exactly. -/
theorem scanNumber_integerText {i : Int} (hfits : fits64 i = true) {rest : List Char}
    (h : Stops rest) : scanNumber (integerText i ++ rest) = (.whole (.ok (.integer i)), rest) := by
  rw [integerText]
  split
  · next hneg =>
    rw [List.cons_append, scanNumber, scanUnsigned_toDigits true _ h,
      value_toDigits hfits (by simpa using hneg)]
  · next hpos =>
    have hscan := scanUnsigned_toDigits false i.natAbs h
    obtain ⟨d, ds, hd, hdigit⟩ := exists_toDigits_eq_cons i.natAbs
    rw [value_toDigits hfits (by simpa using hpos), hd, List.cons_append] at hscan
    rw [hd, List.cons_append, scanNumber_of_isDigit hdigit, hscan]

end GraphDecl.Json
