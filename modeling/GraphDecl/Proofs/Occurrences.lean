import GraphDecl.Proofs.GivenNames

/-!
# Keys that are written more than once

The maps of a schema document may repeat their keys. What is loaded from one has every key once, in
the order of first occurrence, and under it what the last occurrence gives (`OrderedMap.HoldsLast`).
`Doc.GivesSchema` follows that through the four kinds of maps, from the models down to the enum values.
An occurrence that is written over has no part in it, but has to be well-typed all the same
(`Doc.IsSchema`), as every occurrence is decoded (`Schema.ofText_gives`).
-/

namespace GraphDecl
open Json

/-! ### What is written in a document -/

namespace Json

namespace Doc

def bool? : Doc → Option Bool
  | .bool b => some b
  | _ => none

/-- The value, where null counts as none. -/
def value? : Doc → Option Doc
  | .null => none
  | d => some d

/-- The constant that a value of the document stands for. An integer below `2 ^ 63` stands for one with a
sign, the others for one without. Arrays and objects are no constants. -/
inductive Denotes : Doc → Literal → Prop
  | null : Denotes .null .null
  | boolean {b : Bool} : Denotes (.bool b) (.boolean b)
  | string {s : Token String} {text : String} (hs : s.read = .ok text) :
      Denotes (.string s) (.string text)
  | integer {n : Token Number} {i : Int} (hn : n.read = .ok (.integer i))
      (hi : i < 0x8000000000000000) : Denotes (.number n) (.integer (Int64.ofInt i))
  | unsigned {n : Token Number} {i : Int} (hn : n.read = .ok (.integer i))
      (hi : 0x8000000000000000 ≤ i) : Denotes (.number n) (.unsigned (UInt64.ofNat i.toNat))
  | float {n : Token Number} {x : Binary64} (hn : n.read = .ok (.float x)) :
      Denotes (.number n) (.float x)

/-- The target of a reference, a string or an object with one `name`. -/
def target? : Doc → Option String
  | .string s => s.read.toOption
  | .object members _ =>
    match membersNamed "name" members with
    | [.string s] => s.read.toOption
    | _ => none
  | _ => none

end Doc

namespace Record
variable {σ : Type}

/-- The string that a record has under `name`. -/
def text? (r : Record σ) (name : String) (d : Doc) : Option String :=
  ((r.entries d).lookup name).bind Doc.text?

/-- The members of the map that a record has under `name`, in the order of the text. -/
def mapMembers (r : Record σ) (name : String) (d : Doc) : List (String × Doc) :=
  ((r.entries d).lookup name).elim [] Doc.entries

/-- What a record has under `name`, where null counts as nothing. -/
def value? (r : Record σ) (name : String) (d : Doc) : Option Doc :=
  ((r.entries d).lookup name).bind Doc.value?

/-- What the record has under `name` is `ok`, if there is anything. -/
def Optional (r : Record σ) (name : String) (ok : Doc → Prop) (d : Doc) : Prop :=
  ∀ v, (r.entries d).lookup name = some v → ok v

def Required (r : Record σ) (name : String) (ok : Doc → Prop) (d : Doc) : Prop :=
  ∃ v, (r.entries d).lookup name = some v ∧ ok v

end Record

namespace Doc

/-! ### Well-typed documents -/

/-- A record in one of its two forms, with nothing missing at its end. -/
def IsRecord (d : Doc) : Prop :=
  (∃ members, d = .object members .closed) ∨ ∃ items, d = .array items .closed

/-- An object in which every occurrence of every key is `ok`. -/
def IsMap (ok : Doc → Prop) (d : Doc) : Prop :=
  ∃ members, d = .object members .closed ∧ ∀ m ∈ members, (∃ key, m.1.read = .ok key) ∧ ok m.2

def IsText (d : Doc) : Prop := ∃ text, d.text? = some text

def OrNull (ok : Doc → Prop) (d : Doc) : Prop := d = .null ∨ ok d

structure IsEnumValue (d : Doc) : Prop where
  form : d.IsRecord
  value : enumValueRecord.Required "value" (fun v => ∃ l, v.Denotes l) d
  description : enumValueRecord.Optional "description" (OrNull IsText) d

structure IsField (d : Doc) : Prop where
  form : d.IsRecord
  name : fieldRecord.Optional "name" (OrNull IsText) d
  description : fieldRecord.Optional "description" (OrNull IsText) d
  type : fieldRecord.Required "type" IsText d
  nullable : fieldRecord.Optional "isNullable" (fun v => ∃ b, v.bool? = some b) d
  /-- The table has to be well-typed whatever the type is. -/
  values : fieldRecord.Optional "values" (OrNull (IsMap IsEnumValue)) d

structure IsModel (d : Doc) : Prop where
  form : d.IsRecord
  name : modelRecord.Optional "name" (OrNull IsText) d
  description : modelRecord.Optional "description" (OrNull IsText) d
  fields : modelRecord.Optional "fields" (IsMap IsField) d
  references : modelRecord.Optional "references" (IsMap fun v => ∃ target, v.target? = some target) d

structure IsSchema (root : Doc) : Prop where
  form : root.IsRecord
  models : schemaRecord.Optional "models" (IsMap IsModel) root

end Doc
end Json

/-! ### What a document gives -/

/-- The map has every key of the members once, in the order of first occurrence, and under it what the
last occurrence gives. -/
structure OrderedMap.HoldsLast {α : Type} (m : OrderedMap α) (gives : String → Doc → α → Prop)
    (members : List (String × Doc)) : Prop where
  keys : m.keys = (members.map Prod.fst).eraseDups
  last : ∀ key, Option.Rel (gives key) (members.reverse.lookup key) (m.get? key)

namespace Json.Doc

structure GivesEnumValue (d : Doc) (v : EnumValue) : Prop where
  value : enumValueRecord.Required "value" (fun c => c.Denotes v.value) d
  description : v.description = enumValueRecord.text? "description" d

/-- The document of a field gives it this type. -/
inductive GivesType (d : Doc) : FieldType → Prop
  | string (type : fieldRecord.text? "type" d = some "string") : GivesType d .string
  | integer (type : fieldRecord.text? "type" d = some "integer") : GivesType d .integer
  | float (type : fieldRecord.text? "type" d = some "float") : GivesType d .float
  | enum {table : Doc} {values : OrderedMap EnumValue}
      (type : fieldRecord.text? "type" d = some "enum")
      (written : fieldRecord.value? "values" d = some table)
      (last : values.HoldsLast (fun _ => GivesEnumValue) table.entries) :
      GivesType d (.enumeration values)
  | unknown {name : String} (type : fieldRecord.text? "type" d = some name)
      (other : name ∉ ["string", "integer", "float", "enum"]) : GivesType d (.unknown name)

/-- The document gives this field to the key under which it stands. -/
structure GivesField (key : String) (d : Doc) (f : Field) : Prop where
  name : f.name = (fieldRecord.text? "name" d).getD key
  description : f.description = fieldRecord.text? "description" d
  type : d.GivesType f.type
  nullable : f.nullable = (((fieldRecord.entries d).lookup "isNullable").bind bool?).getD true

structure GivesModel (key : String) (d : Doc) (m : Model) : Prop where
  name : m.name = (modelRecord.text? "name" d).getD key
  description : m.description = modelRecord.text? "description" d
  fields : m.fields.HoldsLast GivesField (modelRecord.mapMembers "fields" d)
  references : m.references.HoldsLast (fun _ v target => v.target? = some target)
    (modelRecord.mapMembers "references" d)

def GivesSchema (root : Doc) (s : Schema) : Prop :=
  s.models.HoldsLast GivesModel (schemaRecord.mapMembers "models" root)

end Json.Doc

/-! ### Values that are decoded -/

namespace Json

theorem toOption_eq_some {ε α : Type} {x : Except ε α} {a : α} :
    x.toOption = some a ↔ x = .ok a := by
  cases x <;> simp [Except.toOption]

theorem map_eq_ok {ε α β : Type} {x : Except ε α} {f : α → β} {b : β} :
    x.map f = .ok b ↔ ∃ a, x = .ok a ∧ f a = b := by
  cases x <;> simp [Except.map]

theorem Ending.check_eq_ok {ending : Ending} : ending.check = .ok () ↔ ending = .closed := by
  cases ending <;> simp [check]

theorem Document.decode_eq_ok {α : Type} {decode : Doc → Except Fault α} {doc : Document}
    {a : α} : doc.decode decode = .ok a ↔ decode doc.root = .ok a ∧ doc.trailing = false := by
  rw [Document.decode, bind_eq_ok]
  cases doc.trailing <;> simp [pure, Except.pure]

namespace Doc
variable {α : Type} {decode : Doc → Except Fault α} {d : Doc}

theorem asString_eq_ok {text : String} : d.asString = .ok text ↔ d.text? = some text := by
  cases d with
  | string s => exact toOption_eq_some.symm
  | _ => exact ⟨fun h => absurd h (unwanted_ne_ok _ _ _), fun h => by cases h⟩

theorem asBool_eq_ok {b : Bool} : d.asBool = .ok b ↔ d.bool? = some b := by
  cases d with
  | bool b' => simp [asBool, bool?]
  | _ => exact ⟨fun h => absurd h (unwanted_ne_ok _ _ _), fun h => by cases h⟩

theorem value?_of_ne_null (h : d ≠ .null) : d.value? = some d := by
  cases d with
  | null => exact absurd rfl h
  | _ => rfl

theorem asOption_of_ne_null (h : d ≠ .null) : d.asOption decode = (decode d).map some := by
  cases d with
  | null => exact absurd rfl h
  | _ => rfl

theorem rel_asOption {o : Option α} (h : d.asOption decode = .ok o) :
    Option.Rel (fun d a => decode d = .ok a) d.value? o := by
  by_cases hd : d = .null
  · subst hd
    cases h
    exact .none
  · rw [asOption_of_ne_null hd] at h
    obtain ⟨a, ha, rfl⟩ := map_eq_ok.1 h
    rw [value?_of_ne_null hd]
    exact .some ha

/-- What is read of a value that need not be there and may be null. -/
theorem rel_value? {o : Option Doc} {a : Option (Option α)}
    (h : Option.Rel (fun d a => d.asOption decode = .ok a) o a) :
    Option.Rel (fun d a => decode d = .ok a) (o.bind value?) a.join := by
  cases h with
  | none => exact .none
  | some ha => exact rel_asOption ha

theorem orNull_of_asOption {ok : Doc → Prop} (hok : ∀ a, decode d = .ok a → ok d) {o : Option α}
    (h : d.asOption decode = .ok o) : d.OrNull ok := by
  by_cases hd : d = .null
  · exact .inl hd
  · rw [asOption_of_ne_null hd] at h
    obtain ⟨a, ha, -⟩ := map_eq_ok.1 h
    exact .inr (hok a ha)

theorem isText_of_asString {text : String} (h : d.asString = .ok text) : d.IsText :=
  ⟨text, asString_eq_ok.1 h⟩

end Doc

section
variable {α : Type} {decode : Doc → Except Fault α} {d : Doc} {m m' : OrderedMap α}

/-- The member has this key and is decoded to this value. -/
def MemberDecodes (decode : Doc → Except Fault α) (member : Token String × Doc) (e : String × α) :
    Prop :=
  member.1.read = .ok e.1 ∧ decode member.2 = .ok e.2

theorem decodeEntries_eq_ok_iff {members : List (Token String × Doc)} :
    decodeEntries decode m members = .ok m' ↔ ∃ l,
      List.Forall₂ (MemberDecodes decode) members l ∧
        m' = l.foldl (fun m e => m.insert e.1 e.2) m := by
  induction members generalizing m with
  | nil => simp [decodeEntries, eq_comm]
  | cons e members ih =>
    obtain ⟨k, d⟩ := e
    simp only [decodeEntries, bind_eq_ok, ih]
    constructor
    · rintro ⟨key, hkey, v, hv, l, hl, rfl⟩
      exact ⟨(key, v) :: l, .cons ⟨hkey, hv⟩ hl, rfl⟩
    · rintro ⟨l, hl, rfl⟩
      cases hl with
      | cons he hl => exact ⟨_, he.1, _, he.2, _, hl, rfl⟩

/-- A map is read from an object of which every member is read. -/
theorem Doc.asMap_eq_ok_iff : d.asMap decode = .ok m ↔ ∃ members l, d = .object members .closed ∧
    List.Forall₂ (MemberDecodes decode) members l ∧ m = .ofList l := by
  cases d with
  | object members ending =>
    simp only [asMap, bind_eq_ok, decodeEntries_eq_ok_iff, OrderedMap.ofList]
    constructor
    · rintro ⟨m', ⟨l, hl, rfl⟩, u, hclosed, hm⟩
      obtain rfl := Ending.check_eq_ok.1 hclosed
      cases hm
      exact ⟨members, l, rfl, hl, rfl⟩
    · rintro ⟨members', l, hd, hl, rfl⟩
      cases hd
      exact ⟨_, ⟨l, hl, rfl⟩, (), rfl, rfl⟩
  | _ =>
    constructor
    · intro h
      exact absurd h (unwanted_ne_ok _ _ _)
    · rintro ⟨members, l, h, -⟩
      cases h

theorem Doc.isMap_of_asMap {ok : Doc → Prop} (hok : ∀ v a, decode v = .ok a → ok v)
    (h : d.asMap decode = .ok m) : d.IsMap ok := by
  obtain ⟨members, l, rfl, hl, -⟩ := asMap_eq_ok_iff.1 h
  refine ⟨members, rfl, ?_⟩
  clear h
  induction hl with
  | nil => exact List.forall_mem_nil _
  | cons he _ ih => exact List.forall_mem_cons.2 ⟨⟨⟨_, he.1⟩, hok _ _ he.2⟩, ih⟩

end

namespace Record
variable {σ α : Type} {r : Record σ} {name : String} {get : σ → Option α}
  {decode : Doc → Except Fault α} {draft draft' : σ} {d : Doc} {ok : Doc → Prop}

theorem isRecord_of_items {ending : Ending} {index : Nat} {slots : List (Slot σ)} {ds : List Doc}
    (h : r.items ending index draft slots ds = .ok draft') : ending = .closed := by
  induction slots generalizing index draft ds with
  | nil =>
    cases ds with
    | nil => exact Ending.check_eq_ok.1 (bind_eq_ok.1 h).choose_spec.1
    | cons d ds => cases h
  | cons slot slots ih =>
    cases ds with
    | nil => exact Ending.check_eq_ok.1 (bind_eq_ok.1 h).choose_spec.1
    | cons d ds => exact ih (bind_eq_ok.1 h).choose_spec.2

/-- Whatever is decoded as a record is one. -/
theorem isRecord_of_decode (h : r.decode draft d = .ok draft') : d.IsRecord := by
  cases d with
  | object members ending =>
    obtain ⟨draft₁, -, h⟩ := bind_eq_ok.1 h
    obtain ⟨u, hclosed, -⟩ := bind_eq_ok.1 h
    exact .inl ⟨members, by rw [Ending.check_eq_ok.1 hclosed]⟩
  | array items ending => exact .inr ⟨items, by rw [isRecord_of_items h]⟩
  | _ => exact absurd h (Doc.unwanted_ne_ok _ _ _)

namespace Reads
variable (hr : r.Reads name get decode)
include hr

/-- What is written for a slot is `ok` if whatever is decoded for it is. -/
theorem optional (hdraft : get draft = none) (h : r.decode draft d = .ok draft')
    (hok : ∀ v a, decode v = .ok a → ok v) : r.Optional name ok d := by
  intro v hv
  have hread := hr.decoded hdraft h
  rw [hv] at hread
  generalize get draft' = a at hread
  cases hread with
  | some hdecode => exact hok v _ hdecode

theorem required (hdraft : get draft = none) (h : r.decode draft d = .ok draft') {a : α}
    (ha : get draft' = some a) (hok : ∀ v, decode v = .ok a → ok v) : r.Required name ok d := by
  have hread := hr.decoded hdraft h
  rw [ha] at hread
  obtain ⟨v, hv, hdecode⟩ := exists_of_rel hread
  exact ⟨v, hv, hok v hdecode⟩

end Reads
end Record
end Json

theorem Literal.denotes_of_ofNumber {n : Token Number} {x : Number} (hn : n.read = .ok x) :
    (Doc.number n).Denotes (ofNumber x) := by
  cases x with
  | integer i =>
    rw [ofNumber]
    split
    · next hi => exact .integer hn hi
    · next hi => exact .unsigned hn (Int.not_lt.1 hi)
  | float x => exact .float hn

/-- A constant is read from what denotes it. -/
theorem Literal.ofDoc_eq_ok {room : Nat} {d : Doc} {l : Literal} :
    ofDoc room d = .ok l ↔ d.Denotes l := by
  have hrefused : ∀ x : Except Fault Unit, (do x; mismatch (.noVariant "LiteralValue")) ≠ .ok l := by
    intro x h
    obtain ⟨-, -, h⟩ := bind_eq_ok.1 h
    cases h
  constructor
  · intro h
    cases d with
    | array items ending => exact absurd h (hrefused _)
    | object members ending => exact absurd h (hrefused _)
    | absent f | misspelt f => cases h
    | null =>
      cases h
      exact .null
    | bool b =>
      cases h
      exact .boolean
    | string s =>
      obtain ⟨text, hs, rfl⟩ := map_eq_ok.1 h
      exact .string hs
    | number n =>
      obtain ⟨x, hn, rfl⟩ := map_eq_ok.1 h
      exact denotes_of_ofNumber hn
  · intro h
    cases h with
    | null | boolean => rfl
    | string hs => exact map_eq_ok.2 ⟨_, hs, rfl⟩
    | integer hn hi => exact map_eq_ok.2 ⟨_, hn, if_pos hi⟩
    | unsigned hn hi => exact map_eq_ok.2 ⟨_, hn, if_neg (Int.not_lt.2 hi)⟩
    | float hn => exact map_eq_ok.2 ⟨_, hn, rfl⟩

theorem referenceOfDoc_eq_ok {d : Doc} {target : String} (h : referenceOfDoc d = .ok target) :
    d.target? = some target := by
  cases d with
  | string s => exact toOption_eq_some.2 h
  | object members ending =>
    obtain ⟨-, -, h⟩ := bind_eq_ok.1 h
    dsimp only at h
    rw [Doc.target?]
    generalize membersNamed "name" members = named at h ⊢
    split at h
    · exact toOption_eq_some.2 h
    · cases h
  | _ =>
    obtain ⟨-, -, h⟩ := bind_eq_ok.1 h
    cases h

/-! ### Slots -/

theorem reads_value : enumValueRecord.Reads "value" (·.value) (Literal.ofDoc literalRoom) :=
  Slot.reads_of [] [_] rfl (by decide) (fun _ _ => rfl) (by simp [Slot.keeps_of])

theorem reads_valueDescription :
    enumValueRecord.Reads "description" (·.description) (Doc.asOption Doc.asString) :=
  Slot.reads_of [_] [] rfl (by decide) (fun _ _ => rfl) (by simp [Slot.keeps_of])

theorem reads_fieldName : fieldRecord.Reads "name" (·.name) (Doc.asOption Doc.asString) :=
  Slot.reads_of [] [_, _, _, _] rfl (by decide) (fun _ _ => rfl) (by simp [Slot.keeps_of])

theorem reads_fieldDescription :
    fieldRecord.Reads "description" (·.description) (Doc.asOption Doc.asString) :=
  Slot.reads_of [_] [_, _, _] rfl (by decide) (fun _ _ => rfl) (by simp [Slot.keeps_of])

theorem reads_type : fieldRecord.Reads "type" (·.type) Doc.asString :=
  Slot.reads_of [_, _] [_, _] rfl (by decide) (fun _ _ => rfl) (by simp [Slot.keeps_of])

theorem reads_nullable : fieldRecord.Reads "isNullable" (·.nullable) Doc.asBool :=
  Slot.reads_of [_, _, _] [_] rfl (by decide) (fun _ _ => rfl) (by simp [Slot.keeps_of])

theorem reads_modelDescription :
    modelRecord.Reads "description" (·.description) (Doc.asOption Doc.asString) :=
  Slot.reads_of [_] [_, _] rfl (by decide) (fun _ _ => rfl) (by simp [Slot.keeps_of])

theorem reads_references :
    modelRecord.Reads "references" (·.references) (Doc.asMap referenceOfDoc) :=
  Slot.reads_of [_, _, _] [] rfl (by decide) (fun _ _ => rfl) (by simp [Slot.keeps_of])

/-! ### From the document to the schema -/

theorem rel_mono {α β : Type} {R S : α → β → Prop} (hRS : ∀ a b, R a b → S a b) {o : Option α}
    {p : Option β} (h : Option.Rel R o p) : Option.Rel S o p := by
  cases h with
  | none => exact .none
  | some hab => exact .some (hRS _ _ hab)

theorem rel_comp {α β γ : Type} {R : α → β → Prop} {S : β → γ → Prop} {o : Option α} {p : Option β}
    {q : Option γ} (hop : Option.Rel R o p) (hpq : Option.Rel S p q) :
    Option.Rel (fun a c => ∃ b, R a b ∧ S b c) o q := by
  cases hop with
  | none => cases hpq; exact .none
  | some hab =>
    cases hpq with
    | some hbc => exact .some ⟨_, hab, hbc⟩

theorem rel_map {α β γ δ : Type} {R : α → β → Prop} {S : γ → δ → Prop} {f : α → γ} {g : β → δ}
    (hfg : ∀ a b, R a b → S (f a) (g b)) {o : Option α} {p : Option β} (h : Option.Rel R o p) :
    Option.Rel S (o.map f) (p.map g) := by
  cases h with
  | none => exact .none
  | some hab => exact .some (hfg _ _ hab)

theorem eq_none_iff_of_rel {α β : Type} {R : α → β → Prop} {o : Option α} {p : Option β}
    (h : Option.Rel R o p) : o = none ↔ p = none := by
  cases h <;> simp

theorem eq_bind_of_rel {α β : Type} {f : α → Option β} {o : Option α} {p : Option β}
    (h : Option.Rel (fun a b => f a = some b) o p) : p = o.bind f := by
  cases h with
  | none => rfl
  | some hab => exact hab.symm

namespace OrderedMap.HoldsLast
variable {α β : Type} {gives gives' : String → Doc → α → Prop} {members : List (String × Doc)}
  {m : OrderedMap α}

theorem mono (h : m.HoldsLast gives members) (hgives : ∀ key d v, gives key d v → gives' key d v) :
    m.HoldsLast gives' members :=
  ⟨h.keys, fun key => rel_mono (hgives key) (h.last key)⟩

/-- Conversion keeps the order and takes each value from what the last occurrence gives. -/
theorem convert (h : m.HoldsLast gives members) {convert : String → α → Except LoadError β}
    {m' : OrderedMap β} (hm' : convertEntries convert m = .ok m') :
    m'.HoldsLast (fun key d w => ∃ v, gives key d v ∧ convert key v = .ok w) members :=
  ⟨(convertEntries_eq_ok hm').keys_eq.symm.trans h.keys,
    fun key => rel_comp (h.last key) (convertEntries_get? hm' key)⟩

theorem of_asMap {decode : Doc → Except Fault α} {d : Doc} (h : d.asMap decode = .ok m) :
    m.HoldsLast (fun _ d v => decode d = .ok v) d.entries :=
  ⟨Doc.keys_asMap h, Doc.get?_asMap h⟩

/-- The map of a record that need not have it. -/
theorem of_rel {decode : Doc → Except Fault α} {o : Option Doc} {m : Option (OrderedMap α)}
    (h : Option.Rel (fun d m => d.asMap decode = .ok m) o m) :
    (m.getD .empty).HoldsLast (fun _ d v => decode d = .ok v) (o.elim [] Doc.entries) := by
  cases h with
  | none => exact ⟨rfl, fun _ => .none⟩
  | some hm => exact of_asMap hm

end OrderedMap.HoldsLast

theorem Json.required_eq_ok {α : Type} {field : String} {o : Option α} {a : α} :
    required field o = .ok a ↔ o = some a := by
  cases o <;> simp [required, mismatch]

theorem EnumValue.ofDoc_gives {d : Doc} {v : EnumValue} (h : EnumValue.ofDoc d = .ok v) :
    d.IsEnumValue ∧ d.GivesEnumValue v := by
  obtain ⟨draft, hdraft, h⟩ := bind_eq_ok.1 h
  obtain ⟨value, hvalue, h⟩ := bind_eq_ok.1 h
  cases h
  have hvalue : draft.value = some value := required_eq_ok.1 hvalue
  constructor
  · exact {
      form := Record.isRecord_of_decode hdraft
      value := reads_value.required rfl hdraft hvalue fun _ hv => ⟨_, Literal.ofDoc_eq_ok.1 hv⟩
      description := reads_valueDescription.optional rfl hdraft fun _ _ =>
        Doc.orNull_of_asOption fun _ => Doc.isText_of_asString }
  · exact {
      value := reads_value.required rfl hdraft hvalue fun _ hv => Literal.ofDoc_eq_ok.1 hv
      description := join_of_rel (reads_valueDescription.decoded rfl hdraft) }

namespace FieldEntry
variable {d : Doc} {f : FieldEntry}

/-- The entry of a field has what is written for it. -/
structure ReadFrom (d : Doc) (f : FieldEntry) : Prop where
  name : f.name = fieldRecord.text? "name" d
  description : f.description = fieldRecord.text? "description" d
  type : fieldRecord.text? "type" d = some f.type
  nullable : f.nullable = (((fieldRecord.entries d).lookup "isNullable").bind Doc.bool?).getD true
  table : Option.Rel (fun table values => table.asMap EnumValue.ofDoc = .ok values)
    (fieldRecord.value? "values" d) f.values

theorem ofDoc_readFrom (h : FieldEntry.ofDoc d = .ok f) : d.IsField ∧ f.ReadFrom d := by
  obtain ⟨draft, hdraft, h⟩ := bind_eq_ok.1 h
  obtain ⟨type, htype, h⟩ := bind_eq_ok.1 h
  cases h
  have htype := required_eq_ok.1 htype
  obtain ⟨v, hv, hstring⟩ := reads_type.required rfl hdraft htype fun _ hv => Doc.asString_eq_ok.1 hv
  have hnullable : draft.nullable = ((fieldRecord.entries d).lookup "isNullable").bind Doc.bool? :=
    eq_bind_of_rel (rel_mono (fun _ _ => Doc.asBool_eq_ok.1) (reads_nullable.decoded rfl hdraft))
  constructor
  · exact {
      form := Record.isRecord_of_decode hdraft
      name := reads_fieldName.optional rfl hdraft fun _ _ =>
        Doc.orNull_of_asOption fun _ => Doc.isText_of_asString
      description := reads_fieldDescription.optional rfl hdraft fun _ _ =>
        Doc.orNull_of_asOption fun _ => Doc.isText_of_asString
      type := ⟨v, hv, type, hstring⟩
      nullable := reads_nullable.optional rfl hdraft fun _ b hb => ⟨b, Doc.asBool_eq_ok.1 hb⟩
      values := reads_values.optional rfl hdraft fun _ _ => Doc.orNull_of_asOption fun _ =>
        Doc.isMap_of_asMap fun _ _ hv => (EnumValue.ofDoc_gives hv).1 }
  · exact {
      name := join_of_rel (reads_fieldName.decoded rfl hdraft)
      description := join_of_rel (reads_fieldDescription.decoded rfl hdraft)
      type := by rw [Record.text?, hv]; exact hstring
      nullable := congrArg (Option.getD · true) hnullable
      table := Doc.rel_value? (reads_values.decoded rfl hdraft) }

theorem givesType_ofName {name : String} (htype : fieldRecord.text? "type" d = some name)
    (henum : name ≠ "enum") : d.GivesType (.ofName name) := by
  rw [FieldType.ofName]
  split
  · next h => exact .string (h ▸ htype)
  split
  · next h => exact .integer (h ▸ htype)
  split
  · next h => exact .float (h ▸ htype)
  · next hstring hinteger hfloat =>
    exact .unknown htype (by simp [hstring, hinteger, hfloat, henum])

theorem givesField_of_toField {model key : String} {field : Field} (hf : f.ReadFrom d)
    (h : f.toField model key = .ok field) : d.GivesField key field := by
  rw [toField] at h
  split at h
  · rename_i henum
    have htable := hf.table
    cases hvalues : f.values with
    | none => rw [hvalues] at h; cases h
    | some values =>
      rw [hvalues] at h htable
      cases h
      obtain ⟨table, htable, hdecode⟩ := exists_of_rel htable
      have hlast := (OrderedMap.HoldsLast.of_asMap hdecode).mono
        fun _ _ _ hv => (EnumValue.ofDoc_gives hv).2
      exact ⟨by rw [hf.name], hf.description, .enum (henum ▸ hf.type) htable hlast, hf.nullable⟩
  · rename_i henum
    cases h
    exact ⟨by rw [hf.name], hf.description, givesType_ofName hf.type henum, hf.nullable⟩

end FieldEntry

namespace ModelEntry
variable {d : Doc} {m : ModelEntry}

/-- The entry of a model has what is written for it. -/
structure ReadFrom (d : Doc) (m : ModelEntry) : Prop where
  name : m.name = modelRecord.text? "name" d
  description : m.description = modelRecord.text? "description" d
  fields : m.fields.HoldsLast (fun _ v f => FieldEntry.ofDoc v = .ok f)
    (modelRecord.mapMembers "fields" d)
  references : m.references.HoldsLast (fun _ v target => v.target? = some target)
    (modelRecord.mapMembers "references" d)

theorem ofDoc_readFrom (h : ModelEntry.ofDoc d = .ok m) : d.IsModel ∧ m.ReadFrom d := by
  obtain ⟨draft, hdraft, h⟩ := bind_eq_ok.1 h
  cases h
  constructor
  · exact {
      form := Record.isRecord_of_decode hdraft
      name := reads_modelName.optional rfl hdraft fun _ _ =>
        Doc.orNull_of_asOption fun _ => Doc.isText_of_asString
      description := reads_modelDescription.optional rfl hdraft fun _ _ =>
        Doc.orNull_of_asOption fun _ => Doc.isText_of_asString
      fields := reads_fields.optional rfl hdraft fun _ _ =>
        Doc.isMap_of_asMap fun _ _ hv => (FieldEntry.ofDoc_readFrom hv).1
      references := reads_references.optional rfl hdraft fun _ _ =>
        Doc.isMap_of_asMap fun _ _ hv => ⟨_, referenceOfDoc_eq_ok hv⟩ }
  · exact {
      name := join_of_rel (reads_modelName.decoded rfl hdraft)
      description := join_of_rel (reads_modelDescription.decoded rfl hdraft)
      fields := .of_rel (reads_fields.decoded rfl hdraft)
      references := (OrderedMap.HoldsLast.of_rel (reads_references.decoded rfl hdraft)).mono
        fun _ _ _ => referenceOfDoc_eq_ok }

theorem givesModel_of_toModel {key : String} {model : Model} (hm : m.ReadFrom d)
    (h : m.toModel key = .ok model) : d.GivesModel key model := by
  obtain ⟨fields, hfields, h⟩ := bind_eq_ok.1 h
  cases h
  refine ⟨by rw [hm.name], hm.description, ?_, hm.references⟩
  refine (hm.fields.convert hfields).mono fun key v field hfield => ?_
  obtain ⟨f, hf, htoField⟩ := hfield
  exact FieldEntry.givesField_of_toField (FieldEntry.ofDoc_readFrom hf).2 htoField

end ModelEntry

theorem modelEntries_eq_ok {root : Doc} {entries : OrderedMap ModelEntry}
    (h : modelEntries root = .ok entries) : root.IsSchema ∧
      entries.HoldsLast (fun _ d m => ModelEntry.ofDoc d = .ok m)
        (schemaRecord.mapMembers "models" root) := by
  obtain ⟨draft, hdraft, h⟩ := bind_eq_ok.1 h
  cases h
  refine ⟨⟨Record.isRecord_of_decode hdraft, ?_⟩, .of_rel (reads_models.decoded rfl hdraft)⟩
  exact reads_models.optional rfl hdraft fun _ _ =>
    Doc.isMap_of_asMap fun _ _ hv => (ModelEntry.ofDoc_readFrom hv).1

/-- A text that is loaded is well-typed in every occurrence of every key. The schema has each key of the
models once, in the order of first occurrence, with what its last occurrence gives, and so it is in each
model for its fields and references and in each field for the values of an enum. -/
theorem Schema.ofText_gives {text : String} {s : Schema} (hs : ofText text = .ok s) :
    (Document.ofText text).root.IsSchema ∧ (Document.ofText text).root.GivesSchema s := by
  obtain ⟨entries, hentries, hmodels⟩ := ofText_eq_ok hs
  obtain ⟨hschema, hlast⟩ := modelEntries_eq_ok hentries
  refine ⟨hschema, (hlast.convert hmodels).mono fun key d m hm => ?_⟩
  obtain ⟨entry, hentry, htoModel⟩ := hm
  exact ModelEntry.givesModel_of_toModel (ModelEntry.ofDoc_readFrom hentry).2 htoModel

/-- A text in which maps of all four kinds repeat a key. -/
def repeatedText : String :=
  "\x7b\"models\":\x7b\"B\":\x7b\x7d,\"A\":\x7b\x7d,\"B\":\x7b\"fields\":\x7b\"x\":\x7b\"type\":\"enum\"\x7d," ++
  "\"k\":\x7b\"type\":\"enum\",\"values\":\x7b\"p\":[1,null],\"q\":[9223372036854775808,\"top\"]," ++
  "\"p\":[-3,null],\"r\":[-0,null]\x7d\x7d,\"y\":[null,\"ago\",\"date\",false,null],\"x\":\x7b\"type\":\"float\"\x7d\x7d," ++
  "\"references\":\x7b\"x\":\"A\",\"k\":\"A\",\"x\":\"B\"\x7d\x7d\x7d\x7d"

def repeated : Schema :=
  (Schema.empty.add <| .withReference (.withReference (.withField (.withField (.withField (.new "B")
    (.new "x" .float)) (.enumeration "k" [("p", ⟨.integer (-3), none⟩),
      ("q", ⟨.unsigned 9223372036854775808, some "top"⟩), ("r", ⟨.float ⟨0x8000000000000000⟩, none⟩)]))
    (.required (.withDescription (.new "y" (.unknown "date")) "ago"))) "x" "B") "k" "A").add (.new "A")

theorem ofText_repeatedText : Schema.ofText repeatedText = .ok repeated := by decide +kernel

theorem Schema.ofText_gives_repeated :
    ∃ s b k values, Schema.ofText repeatedText = .ok s ∧
      (Document.ofText repeatedText).root.IsSchema ∧
      (Document.ofText repeatedText).root.GivesSchema s ∧ s.models.keys = ["B", "A"] ∧
      s.models.get? "B" = some b ∧
      b.fields.entries = [("x", .new "x" .float), ("k", k),
        ("y", .required (.withDescription (.new "y" (.unknown "date")) "ago"))] ∧
      b.references.entries = [("x", "B"), ("k", "A")] ∧ k.type = .enumeration values ∧
      values.entries = [("p", ⟨.integer (-3), none⟩),
        ("q", ⟨.unsigned 9223372036854775808, some "top"⟩),
        ("r", ⟨.float ⟨0x8000000000000000⟩, none⟩)] := by
  obtain ⟨hschema, hgives⟩ := Schema.ofText_gives ofText_repeatedText
  exact ⟨_, _, _, _, ofText_repeatedText, hschema, hgives, rfl, rfl, rfl, rfl, rfl, rfl⟩

end GraphDecl
