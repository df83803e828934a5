import GraphDecl.Literal
import GraphDecl.Proofs.WrittenTokens

/-!
# Written values are read back

`Value.doc` is the document of a value. Reading the text of an exact value, one in which all numbers
are integers of 64 bits, gives its document and leaves nothing behind (`document_text`), and different
values have different documents, so the text of an exact value determines it (`text_injective`). The
proof follows the reader: what is shown of a value is that it is read before any text that cannot go
on a number (`Reads`), and items and members are read one by one from that. A constant that has an
exact value and the sign that its size asks for is read back from its document.
-/

namespace GraphDecl

/-! ### Recursion along a list -/

section
variable {α β : Type}

theorem eq_map_of_cons {f : List α → List β} {g : α → β} (hnil : f [] = [])
    (hcons : ∀ a l, f (a :: l) = g a :: f l) (l : List α) : f l = l.map g := by
  induction l with
  | nil => exact hnil
  | cons a l ih => rw [hcons, ih, List.map_cons]

theorem eq_flatMap_of_cons {f : List α → List β} {g : α → List β} (hnil : f [] = [])
    (hcons : ∀ a l, f (a :: l) = g a ++ f l) (l : List α) : f l = l.flatMap g := by
  induction l with
  | nil => exact hnil
  | cons a l ih => rw [hcons, ih, List.flatMap_cons]

theorem iff_forall_of_cons {P : List α → Prop} {Q : α → Prop} (hnil : P [])
    (hcons : ∀ a l, P (a :: l) ↔ Q a ∧ P l) (l : List α) : P l ↔ ∀ a ∈ l, Q a := by
  induction l with
  | nil => exact ⟨fun _ => List.forall_mem_nil _, fun _ => hnil⟩
  | cons a l ih => rw [hcons, ih, List.forall_mem_cons]

theorem eq_of_map_eq {f : α → β} {l l' : List α}
    (hf : ∀ a ∈ l, ∀ b ∈ l', f a = f b → a = b) (h : l.map f = l'.map f) : l = l' := by
  induction l generalizing l' with
  | nil => exact (List.map_eq_nil_iff.1 h.symm).symm
  | cons a l ih =>
    obtain ⟨b, l', rfl, hab, hl⟩ := List.map_eq_cons_iff.1 h.symm
    have hrest : l = l' := ih (fun x hx y hy =>
      hf x (List.mem_cons_of_mem a hx) y (List.mem_cons_of_mem b hy)) hl.symm
    rw [hf a List.mem_cons_self b List.mem_cons_self hab.symm, hrest]

end

/-! ### Values and their documents -/

namespace Json.Value

mutual

/-- The document that a value is written to. -/
def doc : Value → Doc
  | .null => .null
  | .bool b => .bool b
  | .integer i => .number (.whole (.ok (.integer i)))
  | .float x => .number (.whole (.ok (.float x)))
  | .string s => .string (.whole (.ok s))
  | .array items => .array (itemDocs items) .closed
  | .object members => .object (memberDocs members) .closed

def itemDocs : List Value → List Doc
  | [] => []
  | v :: rest => v.doc :: itemDocs rest

def memberDocs : List (String × Value) → List (Token String × Doc)
  | [] => []
  | (k, v) :: rest => (.whole (.ok k), v.doc) :: memberDocs rest

end

mutual

/-- The numbers of the value are integers of 64 bits. -/
def Exact : Value → Prop
  | .null | .bool _ | .string _ => True
  | .integer i => fits64 i = true
  | .float _ => False
  | .array items => ExactItems items
  | .object members => ExactMembers members

def ExactItems : List Value → Prop
  | [] => True
  | v :: rest => v.Exact ∧ ExactItems rest

def ExactMembers : List (String × Value) → Prop
  | [] => True
  | (_, v) :: rest => v.Exact ∧ ExactMembers rest

end

theorem itemDocs_eq_map (items : List Value) : itemDocs items = items.map doc :=
  eq_map_of_cons rfl (fun _ _ => rfl) items

theorem memberDocs_eq_map (members : List (String × Value)) :
    memberDocs members = members.map fun m => (.whole (.ok m.1), m.2.doc) :=
  eq_map_of_cons rfl (fun _ _ => rfl) members

theorem exactItems_iff {items : List Value} : ExactItems items ↔ ∀ v ∈ items, v.Exact :=
  iff_forall_of_cons trivial (fun _ _ => Iff.rfl) items

theorem exactMembers_iff {members : List (String × Value)} :
    ExactMembers members ↔ ∀ m ∈ members, m.2.Exact :=
  iff_forall_of_cons trivial (fun _ _ => Iff.rfl) members

/-- Induction on values, where what is shown of the items or members is shown of all at once. -/
theorem induct {P : Value → Prop} (null : P .null) (bool : ∀ b, P (.bool b))
    (integer : ∀ i, P (.integer i)) (float : ∀ x, P (.float x)) (string : ∀ s, P (.string s))
    (array : ∀ items, (∀ v ∈ items, P v) → P (.array items))
    (object : ∀ members, (∀ m ∈ members, P m.2) → P (.object members)) (v : Value) : P v := by
  refine @Value.rec P (fun items => ∀ v ∈ items, P v) (fun members => ∀ m ∈ members, P m.2)
    (fun m => P m.2) null bool integer float string array object ?_ ?_ ?_ ?_ ?_ v
  · exact List.forall_mem_nil _
  · exact fun v rest hv hrest => List.forall_mem_cons.2 ⟨hv, hrest⟩
  · exact List.forall_mem_nil _
  · exact fun m rest hm hrest => List.forall_mem_cons.2 ⟨hm, hrest⟩
  · exact fun _ _ hv => hv

theorem doc_injective : Function.Injective doc := by
  intro v
  induction v using induct with
  | null | bool | integer | float | string =>
    intro w h
    cases w <;> simp_all [doc]
  | array items ih =>
    intro w h
    cases w with
    | array items' =>
      rw [doc, doc, itemDocs_eq_map, itemDocs_eq_map] at h
      rw [eq_of_map_eq (fun v hv w _ => @ih v hv w) (Doc.array.inj h).1]
    | _ => simp [doc] at h
  | object members ih =>
    intro w h
    cases w with
    | object members' =>
      rw [doc, doc, memberDocs_eq_map, memberDocs_eq_map] at h
      have hmember : ∀ m ∈ members, ∀ m' ∈ members',
          ((Token.whole (.ok m.1) : Token String), m.2.doc) = (.whole (.ok m'.1), m'.2.doc) →
            m = m' := by
        intro m hm m' _ heq
        obtain ⟨hkey, hdoc⟩ := Prod.mk.inj heq
        exact Prod.ext (Except.ok.inj (Token.whole.inj hkey)) (ih m hm hdoc)
      rw [eq_of_map_eq hmember (Doc.object.inj h).1]
    | _ => simp [doc] at h

/-! ### Reading what is written -/

/-- The value is read from its text if what stands behind it cannot go on a number. -/
def Reads (v : Value) : Prop :=
  ∀ fuel rest, v.chars.length ≤ fuel → Stops rest → readValue fuel (v.chars ++ rest) = (v.doc, rest)

theorem skipBlanks_cons {c : Char} (h : isBlank c = false) (cs : List Char) :
    skipBlanks (c :: cs) = c :: cs := by
  rw [skipBlanks, List.dropWhile_cons, h]
  rfl

theorem stops_nil : Stops [] := fun _ h => by cases h

theorem stops_cons {c : Char} (h : c.isDigit = false ∧ c ≠ '.' ∧ c ≠ 'e' ∧ c ≠ 'E')
    (rest : List Char) : Stops (c :: rest) := by
  intro d hd
  obtain rfl := Option.some.inj hd
  exact h

theorem isBlank_of_isDigit {c : Char} (h : c.isDigit = true) : isBlank c = false := by
  simp only [isBlank, Bool.or_eq_false_iff, beq_eq_false_iff_ne]
  refine ⟨⟨⟨?_, ?_⟩, ?_⟩, ?_⟩ <;> (rintro rfl; exact absurd h (by decide))

theorem exists_integerText_eq_cons (i : Int) :
    ∃ c cs, integerText i = c :: cs ∧ (c = '-' ∨ c.isDigit = true) := by
  rw [integerText]
  split
  · exact ⟨_, _, rfl, .inl rfl⟩
  · obtain ⟨d, ds, hd, hdigit⟩ := exists_toDigits_eq_cons i.natAbs
    exact ⟨d, ds, hd, .inr hdigit⟩

/-- The text of a value begins neither with a blank nor with a bracket that closes. -/
theorem exists_chars_eq_cons {v : Value} (h : v.Exact) :
    ∃ c cs, v.chars = c :: cs ∧ isBlank c = false ∧ c ≠ ']' := by
  cases v with
  | null => exact ⟨_, _, rfl, by decide, by decide⟩
  | bool b => cases b <;> exact ⟨_, _, rfl, by decide, by decide⟩
  | string s => exact ⟨_, _, rfl, by decide, by decide⟩
  | array items => exact ⟨_, _, rfl, by decide, by decide⟩
  | object members => exact ⟨_, _, rfl, by decide, by decide⟩
  | float x => cases h
  | integer i =>
    obtain ⟨c, cs, hc, hfirst⟩ := exists_integerText_eq_cons i
    refine ⟨c, cs, hc, ?_, ?_⟩
    · rcases hfirst with rfl | hdigit
      · decide
      · exact isBlank_of_isDigit hdigit
    · rintro rfl
      exact absurd hfirst (by decide)

/-- Fuel as long as the text of a value is not used up at its first character. -/
theorem exists_fuel {v : Value} (h : v.Exact) {fuel : Nat} (hfuel : v.chars.length ≤ fuel) :
    ∃ n, fuel = n + 1 := by
  obtain ⟨c, cs, hc, -⟩ := exists_chars_eq_cons h
  rw [hc, List.length_cons] at hfuel
  exact ⟨fuel - 1, by omega⟩

theorem reads_null : Reads .null := by
  intro fuel rest hfuel _
  obtain ⟨fuel, rfl⟩ := exists_fuel (v := .null) trivial hfuel
  rfl

theorem reads_bool (b : Bool) : Reads (.bool b) := by
  intro fuel rest hfuel _
  obtain ⟨fuel, rfl⟩ := exists_fuel (v := .bool b) trivial hfuel
  cases b <;> rfl

theorem reads_string (s : String) : Reads (.string s) := by
  intro fuel rest hfuel _
  obtain ⟨fuel, rfl⟩ := exists_fuel (v := .string s) trivial hfuel
  simp only [chars, quote, List.cons_append, List.append_assoc, List.nil_append]
  rw [readValue, skipBlanks_cons (by decide)]
  simp only [↓reduceIte, scanString_escape, doc]

theorem readValue_number {c : Char} (h : c = '-' ∨ c.isDigit = true) (fuel : Nat)
    (cs : List Char) : readValue (fuel + 1) (c :: cs) =
      (.number (scanNumber (c :: cs)).1, (scanNumber (c :: cs)).2) := by
  have hne : ∀ d : Char, d ≠ '-' → d.isDigit = false → c ≠ d := by
    rintro d hd hd' rfl
    rcases h with rfl | h
    · exact hd rfl
    · exact absurd (h.symm.trans hd') (by decide)
  have hblank : isBlank c = false := by
    rcases h with rfl | h
    · decide
    · exact isBlank_of_isDigit h
  have hnumber : (decide (c = '-') || c.isDigit) = true := by
    rw [Bool.or_eq_true, decide_eq_true_eq]
    exact h
  rw [readValue, skipBlanks_cons hblank]
  dsimp only
  rw [if_neg (hne '"' (by decide) (by decide)), if_neg (hne '[' (by decide) (by decide)),
    if_neg (hne '\x7b' (by decide) (by decide)), if_neg (hne 'n' (by decide) (by decide)),
    if_neg (hne 't' (by decide) (by decide)), if_neg (hne 'f' (by decide) (by decide)),
    if_pos hnumber]

theorem reads_integer {i : Int} (h : fits64 i = true) : Reads (.integer i) := by
  intro fuel rest hfuel hrest
  obtain ⟨fuel, rfl⟩ := exists_fuel (v := .integer i) h hfuel
  obtain ⟨c, cs, hc, hfirst⟩ := exists_integerText_eq_cons i
  have hscan := scanNumber_integerText h hrest
  rw [hc, List.cons_append] at hscan
  rw [chars, hc, List.cons_append, readValue_number hfirst, hscan, doc]

/-- Items that are read one by one are read together, up to the bracket behind them. -/
theorem readItems_itemChars {items : List Value} (hne : items ≠ [])
    (hitems : ∀ v ∈ items, Reads v) (fuel : Nat) (rest : List Char)
    (hfuel : (itemChars items).length < fuel) :
    readItems fuel (itemChars items ++ ']' :: rest) = (items.map doc, .closed, rest) := by
  -- every item uses up one unit of fuel, and the comma behind it pays for that
  induction items generalizing fuel with
  | nil => exact absurd rfl hne
  | cons v items ih =>
    obtain ⟨hv, hrest⟩ := List.forall_mem_cons.1 hitems
    obtain ⟨fuel, rfl⟩ := Nat.exists_eq_add_one.2 (Nat.lt_of_le_of_lt (Nat.zero_le _) hfuel)
    cases items with
    | nil =>
      rw [itemChars] at hfuel ⊢
      rw [readItems, hv fuel _ (by omega) (stops_cons (by decide) rest)]
      rfl
    | cons w items =>
      rw [itemChars, List.length_append, List.length_cons] at hfuel
      · have hih := ih (List.cons_ne_nil w items) hrest fuel (by omega)
        rw [itemChars, List.append_assoc, List.cons_append, readItems,
          hv fuel _ (by omega) (stops_cons (by decide) _)]
        · simp [skipBlanks_cons, isBlank, hih]
        · simp
      · simp

theorem exists_itemChars_eq_cons {v : Value} (h : v.Exact) (items : List Value) :
    ∃ c cs, itemChars (v :: items) = c :: cs ∧ isBlank c = false ∧ c ≠ ']' := by
  obtain ⟨c, cs, hc, hfirst⟩ := exists_chars_eq_cons h
  cases items with
  | nil => exact ⟨c, cs, by rw [itemChars, hc], hfirst⟩
  | cons w items => exact ⟨c, cs ++ ',' :: itemChars (w :: items), by simp [itemChars, hc], hfirst⟩

theorem readValue_array {c : Char} (hblank : isBlank c = false) (hclose : c ≠ ']') (fuel : Nat)
    (cs : List Char) : readValue (fuel + 1) ('[' :: c :: cs) =
      (.array (readItems fuel (c :: cs)).1 (readItems fuel (c :: cs)).2.1,
        (readItems fuel (c :: cs)).2.2) := by
  rw [readValue, skipBlanks_cons (by decide)]
  simp [skipBlanks_cons hblank, hclose]

theorem reads_array {items : List Value} (hexact : ∀ v ∈ items, v.Exact)
    (hitems : ∀ v ∈ items, Reads v) : Reads (.array items) := by
  intro fuel rest hfuel _
  obtain ⟨fuel, rfl⟩ := exists_fuel (v := .array items) (exactItems_iff.2 hexact) hfuel
  rw [chars, List.length_append, List.length_cons, List.length_singleton] at hfuel
  rw [doc, itemDocs_eq_map, chars, List.append_assoc, List.cons_append, List.singleton_append]
  cases items with
  | nil => rfl
  | cons v items =>
    have hread := readItems_itemChars (List.cons_ne_nil v items) hitems fuel rest (by omega)
    obtain ⟨c, cs, hc, hblank, hclose⟩ := exists_itemChars_eq_cons (hexact v List.mem_cons_self) items
    rw [hc, List.cons_append] at hread ⊢
    rw [readValue_array hblank hclose, hread]

theorem readMembers_last {k : String} {fuel : Nat} {cs rest : List Char} {d : Doc}
    (h : readValue fuel cs = (d, '\x7d' :: rest)) :
    readMembers (fuel + 1) (quote k ++ ':' :: cs) = ([(.whole (.ok k), d)], .closed, rest) := by
  simp only [quote, List.cons_append, List.append_assoc, List.nil_append]
  rw [readMembers, skipBlanks_cons (by decide)]
  simp [scanString_escape, skipBlanks_cons, isBlank, h]

theorem readMembers_next {k : String} {fuel : Nat} {cs rest : List Char} {d : Doc}
    (h : readValue fuel cs = (d, ',' :: rest)) :
    readMembers (fuel + 1) (quote k ++ ':' :: cs) =
      ((.whole (.ok k), d) :: (readMembers fuel rest).1, (readMembers fuel rest).2) := by
  simp only [quote, List.cons_append, List.append_assoc, List.nil_append]
  rw [readMembers, skipBlanks_cons (by decide)]
  simp [scanString_escape, skipBlanks_cons, isBlank, h]

/-- Members whose values are read one by one are read together, up to the brace behind them. -/
theorem readMembers_memberChars {members : List (String × Value)} (hne : members ≠ [])
    (hmembers : ∀ m ∈ members, Reads m.2) (fuel : Nat) (rest : List Char)
    (hfuel : (memberChars members).length < fuel) :
    readMembers fuel (memberChars members ++ '\x7d' :: rest) =
      (members.map fun m => (.whole (.ok m.1), m.2.doc), .closed, rest) := by
  induction members generalizing fuel with
  | nil => exact absurd rfl hne
  | cons m members ih =>
    obtain ⟨k, v⟩ := m
    obtain ⟨(hv : Reads v), hrest⟩ := List.forall_mem_cons.1 hmembers
    obtain ⟨fuel, rfl⟩ := Nat.exists_eq_add_one.2 (Nat.lt_of_le_of_lt (Nat.zero_le _) hfuel)
    cases members with
    | nil =>
      rw [memberChars, List.length_append, List.length_cons] at hfuel
      rw [memberChars, List.append_assoc, List.cons_append,
        readMembers_last (hv fuel _ (by omega) (stops_cons (by decide) rest))]
      rfl
    | cons m' members =>
      have hchars : memberChars ((k, v) :: m' :: members) =
          quote k ++ ':' :: (v.chars ++ ',' :: memberChars (m' :: members)) := by
        simp [memberChars]
      rw [hchars, List.length_append, List.length_cons, List.length_append, List.length_cons] at hfuel
      have hih := ih (List.cons_ne_nil m' members) hrest fuel (by omega)
      have hvalue := hv fuel (',' :: (memberChars (m' :: members) ++ '\x7d' :: rest)) (by omega)
        (stops_cons (by decide) _)
      rw [hchars, List.append_assoc, List.cons_append, List.append_assoc, List.cons_append,
        readMembers_next hvalue, hih]
      rfl

theorem exists_memberChars_eq_cons (m : String × Value) (members : List (String × Value)) :
    ∃ cs, memberChars (m :: members) = '"' :: cs := by
  cases members <;> exact ⟨_, rfl⟩

theorem reads_object {members : List (String × Value)} (hmembers : ∀ m ∈ members, Reads m.2) :
    Reads (.object members) := by
  intro fuel rest hfuel _
  rw [chars, List.length_append, List.length_cons, List.length_singleton] at hfuel
  obtain ⟨fuel, rfl⟩ := Nat.exists_eq_add_one.2 (Nat.lt_of_lt_of_le (Nat.zero_lt_succ _) hfuel)
  rw [doc, memberDocs_eq_map, chars, List.append_assoc, List.cons_append, List.singleton_append]
  cases members with
  | nil => rfl
  | cons m members =>
    have hread := readMembers_memberChars (List.cons_ne_nil m members) hmembers fuel rest (by omega)
    obtain ⟨cs, hcs⟩ := exists_memberChars_eq_cons m members
    rw [hcs, List.cons_append] at hread ⊢
    rw [readValue, skipBlanks_cons (by decide)]
    simp [skipBlanks_cons, isBlank, hread]

theorem reads_of_exact {v : Value} (h : v.Exact) : Reads v := by
  induction v using induct with
  | null => exact reads_null
  | bool b => exact reads_bool b
  | integer i => exact reads_integer h
  | float x => cases h
  | string s => exact reads_string s
  | array items ih =>
    have hexact := exactItems_iff.1 h
    exact reads_array hexact fun v hv => ih v hv (hexact v hv)
  | object members ih =>
    have hexact := exactMembers_iff.1 h
    exact reads_object fun m hm => ih m hm (hexact m hm)

/-- The text of an exact value is read as the document of the value, to its end. -/
theorem document_text {v : Value} (h : v.Exact) : Document.ofText v.text = ⟨v.doc, false⟩ := by
  have hread := reads_of_exact h (2 * v.chars.length + 2) [] (by omega) stops_nil
  rw [List.append_nil] at hread
  rw [Document.ofText, text, String.toList_ofList, hread]
  rfl

/-- Exact values with the same text are the same. -/
theorem text_injective {v w : Value} (hv : v.Exact) (hw : w.Exact) (h : v.text = w.text) :
    v = w := by
  have hdocument : Document.mk v.doc false = Document.mk w.doc false := by
    rw [← document_text hv, ← document_text hw, h]
  exact doc_injective (Document.mk.inj hdocument).1

end Json.Value

/-! ### Constants -/

namespace Literal

/-- The constant is not a binary64 number, and it is unsigned only if it does not fit 64 bits with a
sign. -/
def Exact : Literal → Prop
  | .float _ => False
  | .unsigned u => 0x8000000000000000 ≤ u.toNat
  | .string _ | .integer _ | .boolean _ | .null => True

theorem exact_toJson {l : Literal} (h : l.Exact) : l.toJson.Exact := by
  cases l with
  | string | boolean | null => trivial
  | float => exact h
  | integer i =>
    have hlow := i.le_toInt
    have hhigh := i.toInt_lt
    simp only [toJson, Json.Value.Exact, Json.fits64, Bool.and_eq_true, decide_eq_true_eq]
    omega
  | unsigned u =>
    have hhigh := u.toNat_lt
    simp only [toJson, Json.Value.Exact, Json.fits64, Bool.and_eq_true, decide_eq_true_eq]
    omega

theorem ofDoc_doc_toJson {l : Literal} (h : l.Exact) (room : Nat) :
    ofDoc room l.toJson.doc = .ok l := by
  cases l with
  | string | boolean | null => rfl
  | float => exact h.elim
  | integer i =>
    have hhigh := i.toInt_lt
    show Except.ok (ofNumber (.integer i.toInt)) = _
    rw [ofNumber, if_pos (by omega), Int64.ofInt_toInt]
  | unsigned u =>
    have hlow : 0x8000000000000000 ≤ u.toNat := h
    show Except.ok (ofNumber (.integer u.toNat)) = _
    rw [ofNumber, if_neg (by omega), Int.toNat_natCast, UInt64.ofNat_toNat]

theorem toJson_inj {l l' : Literal} (h : l.Exact) (h' : l'.Exact) (heq : l.toJson = l'.toJson) :
    l = l' := by
  have hok : (.ok l : Except Json.Fault Literal) = .ok l' := by
    rw [← ofDoc_doc_toJson h 0, heq, ofDoc_doc_toJson h' 0]
  exact Except.ok.inj hok

end Literal
end GraphDecl
