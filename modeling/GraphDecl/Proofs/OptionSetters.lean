import GraphDecl.Options.Document
import GraphDecl.Proofs.Spellings

/-!
# Options by document and by setter

A document of options sets each of its members once, in any order and among members that mean nothing
(`Form.Object`). Reading a record does to the draft what the settings do one by one (`Record.Realises`),
and settings of different members commute, so the order does not matter (`Realises.decode_object`).
A document gives the options that the setters of its members make of the default ones
(`setters_agree`).
-/

namespace GraphDecl
namespace Json

/-! ### Objects of settings -/

/-- How settings are written as the members of an object. -/
structure Form (τ : Type) where
  keys : List String
  key : τ → String
  writes : τ → Doc → Prop

namespace Form
variable {τ : Type}

/-- The members set these, in this order. Members with other keys may stand among them. -/
inductive Sets (F : Form τ) : List (Token String × Doc) → List τ → Prop
  | nil : F.Sets [] []
  | known {k : Token String} {d : Doc} {t : τ} {ms : List (Token String × Doc)} {ts : List τ}
      (hk : k.read = .ok (F.key t)) (hd : F.writes t d) (rest : F.Sets ms ts) :
      F.Sets ((k, d) :: ms) (t :: ts)
  | unknown {k : Token String} {key : String} {d : Doc} {ms : List (Token String × Doc)} {ts : List τ}
      (hk : k.read = .ok key) (hkey : key ∉ F.keys) (hd : d.WellFormed) (rest : F.Sets ms ts) :
      F.Sets ((k, d) :: ms) ts

/-- An object that sets these in any order, and no key of them twice. -/
def Object (F : Form τ) (d : Doc) (ts : List τ) : Prop :=
  ∃ ms given, d = .object ms .closed ∧ F.Sets ms given ∧ ts.Perm given ∧ (ts.map F.key).Nodup

end Form

/-! ### Reading settings -/

theorem Slot.fill_of_ok {σ α : Type} {name : String} {omissible : Bool} {get : σ → Option α}
    {set : σ → α → σ} {decode : Doc → Except Fault α} {d : Doc} {a : α} (h : decode d = .ok a)
    (draft : σ) : (of name omissible get set decode).fill draft d = .ok (set draft a) := by
  simp [of, h, Except.map]

namespace Record
variable {σ τ β : Type}

/-- The draft has nothing yet for what the key names. -/
def Lacks (r : Record σ) (draft : σ) (key : String) : Prop :=
  ∀ slot ∈ r.slots, slot.name = key → slot.filled draft = false

/-- A member fills no more than what its key names. -/
theorem Lawful.lacks_member {r : Record σ} {blank draft draft' : σ} {k : Token String} {d : Doc}
    {key read : String} (hr : r.Lawful blank) (hmember : r.member draft k d = .ok draft')
    (hk : k.read = .ok read) (hne : read ≠ key) (h : r.Lacks draft key) : r.Lacks draft' key := by
  rintro slot hslot rfl
  refine Bool.eq_false_iff.2 fun hfilled => ?_
  rcases (hr.filled_member hmember hslot).1 hfilled with hread | hfilled
  · exact hne (Except.ok.inj (hk.symm.trans hread))
  · rw [h slot hslot rfl] at hfilled
    cases hfilled

/-- What a draft stands for changes by each setting as `apply` says when the value written for it is
read. -/
structure Realises (r : Record σ) (blank : σ) (F : Form τ) (view : σ → β) (apply : β → τ → β) :
    Prop where
  lawful : r.Lawful blank
  keys : F.keys = r.slots.map Slot.name
  fill : ∀ t d, F.writes t d → ∃ slot ∈ r.slots, slot.name = F.key t ∧
    ∀ draft, ∃ draft', slot.fill draft d = .ok draft' ∧ view draft' = apply (view draft) t
  comm : ∀ t t' b, F.key t ≠ F.key t' → apply (apply b t) t' = apply (apply b t') t

namespace Realises
variable {r : Record σ} {blank draft : σ} {F : Form τ} {view : σ → β} {apply : β → τ → β}
  {k : Token String} {d : Doc} (hr : r.Realises blank F view apply)
include hr

theorem member_known {t : τ} (hk : k.read = .ok (F.key t)) (hd : F.writes t d)
    (hlacks : r.Lacks draft (F.key t)) :
    ∃ draft', r.member draft k d = .ok draft' ∧ view draft' = apply (view draft) t := by
  obtain ⟨slot, hslot, hname, hfill⟩ := hr.fill t d hd
  obtain ⟨draft', hdraft', hview⟩ := hfill draft
  rw [hr.lawful.member_of_slot hslot (by rw [hk, hname]), hlacks slot hslot hname]
  exact ⟨draft', hdraft', hview⟩

theorem member_unknown {key : String} (hk : k.read = .ok key) (hkey : key ∉ F.keys)
    (hd : d.WellFormed) : r.member draft k d = .ok draft := by
  rw [Lawful.member_of_unknown hk (hr.keys ▸ hkey), hd.skip_eq_ok]
  rfl

/-- Members are read by applying the settings one after the other. -/
theorem members {ms : List (Token String × Doc)} {ts : List τ} (hms : F.Sets ms ts)
    (hnodup : (ts.map F.key).Nodup) (hlacks : ∀ t ∈ ts, r.Lacks draft (F.key t)) :
    ∃ draft', r.members draft ms = .ok draft' ∧ view draft' = ts.foldl apply (view draft) := by
  induction hms generalizing draft with
  | nil => exact ⟨draft, rfl, rfl⟩
  | @known k d t ms ts hk hd _ ih =>
    obtain ⟨hnew, hnodup⟩ := List.nodup_cons.1 hnodup
    obtain ⟨hlacks₀, hlacks⟩ := List.forall_mem_cons.1 hlacks
    obtain ⟨draft₁, hmember, hview⟩ := hr.member_known hk hd hlacks₀
    have hlacks₁ : ∀ t' ∈ ts, r.Lacks draft₁ (F.key t') := by
      intro t' ht'
      -- the key is not written again
      have hne : F.key t ≠ F.key t' := fun hkey => hnew (hkey ▸ List.mem_map_of_mem ht')
      exact hr.lawful.lacks_member hmember hk hne (hlacks t' ht')
    obtain ⟨draft', hmembers, hrest⟩ := ih hnodup hlacks₁
    refine ⟨draft', bind_eq_ok.2 ⟨draft₁, hmember, hmembers⟩, ?_⟩
    rw [hrest, hview, List.foldl_cons]
  | unknown hk hkey hd _ ih =>
    obtain ⟨draft', hmembers, hrest⟩ := ih hnodup hlacks
    exact ⟨draft', bind_eq_ok.2 ⟨draft, hr.member_unknown hk hkey hd, hmembers⟩, hrest⟩

/-- Settings of different keys can be applied in any order. -/
theorem foldl_perm {ts ts' : List τ} (hperm : ts.Perm ts') (hnodup : (ts.map F.key).Nodup) (b : β) :
    ts.foldl apply b = ts'.foldl apply b := by
  refine hperm.foldl_eq' (fun t ht t' ht' b => ?_) b
  by_cases hkey : F.key t = F.key t'
  · rw [List.inj_on_of_nodup_map hnodup ht ht' hkey]
  · exact hr.comm t t' b hkey

/-- An object of settings is read by applying them, in whatever order. -/
theorem decode_object {ts : List τ} (h : F.Object d ts) :
    ∃ draft, r.decode blank d = .ok draft ∧ view draft = ts.foldl apply (view blank) := by
  obtain ⟨ms, given, rfl, hsets, hperm, hnodup⟩ := h
  have hgiven : (given.map F.key).Nodup := (hperm.map F.key).nodup_iff.1 hnodup
  obtain ⟨draft, hmembers, hview⟩ := hr.members hsets hgiven fun t _ slot hslot _ =>
    hr.lawful.blank slot hslot
  refine ⟨draft, bind_eq_ok.2 ⟨draft, hmembers, rfl⟩, ?_⟩
  rw [hview, hr.foldl_perm hperm hnodup]

end Realises
end Record
end Json

open Json

/-! ### Framework names -/

namespace Identifiers

/-- The framework names, apart from what they are. -/
inductive Part
  | string | int | float | nonNull | enumType | objectType
deriving DecidableEq

def Part.key : Part → String
  | .string => "string"
  | .int => "int"
  | .float => "float"
  | .nonNull => "nonNull"
  | .enumType => "enumType"
  | .objectType => "objectType"

def replace (i : Identifiers) : Part × String → Identifiers
  | (.string, name) => { i with string := name }
  | (.int, name) => { i with int := name }
  | (.float, name) => { i with float := name }
  | (.nonNull, name) => { i with nonNull := name }
  | (.enumType, name) => { i with enumType := name }
  | (.objectType, name) => { i with objectType := name }

/-- The default names with some of them replaced. -/
def replacing (given : List (Part × String)) : Identifiers := given.foldl replace {}

theorem replace_comm (i : Identifiers) {t t' : Part × String} (h : t.1.key ≠ t'.1.key) :
    (i.replace t).replace t' = (i.replace t').replace t := by
  obtain ⟨p, name⟩ := t
  obtain ⟨p', name'⟩ := t'
  cases p <;> cases p' <;> first | rfl | exact absurd rfl h

/-- Each name is written as a string under its key. -/
def form : Form (Part × String) where
  keys := ["string", "int", "float", "nonNull", "enumType", "objectType"]
  key t := t.1.key
  writes t d := d.text? = some t.2

end Identifiers

/-- The names that a draft stands for. -/
def IdentifiersDraft.identifiers (r : IdentifiersDraft) : Identifiers :=
  let base : Identifiers := {}
  ⟨r.string.getD base.string, r.int.getD base.int, r.float.getD base.float,
    r.nonNull.getD base.nonNull, r.enumType.getD base.enumType, r.objectType.getD base.objectType⟩

theorem Identifiers.ofDoc_eq (d : Doc) :
    ofDoc d = (identifiersRecord.decode {} d).map IdentifiersDraft.identifiers := by
  rw [ofDoc]
  cases identifiersRecord.decode {} d <;> rfl

theorem lawful_identifiersRecord : identifiersRecord.Lawful {} where
  names := by decide
  reads := by
    simp only [identifiersRecord, List.forall_mem_cons]
    refine ⟨?_, ?_, ?_, ?_, ?_, ?_, List.forall_mem_nil _⟩
    · exact ⟨_, _, _, Slot.reads_of [] [_, _, _, _, _] rfl (by decide) (fun _ _ => rfl)
        (by simp [Slot.keeps_of])⟩
    · exact ⟨_, _, _, Slot.reads_of [_] [_, _, _, _] rfl (by decide) (fun _ _ => rfl)
        (by simp [Slot.keeps_of])⟩
    · exact ⟨_, _, _, Slot.reads_of [_, _] [_, _, _] rfl (by decide) (fun _ _ => rfl)
        (by simp [Slot.keeps_of])⟩
    · exact ⟨_, _, _, Slot.reads_of [_, _, _] [_, _] rfl (by decide) (fun _ _ => rfl)
        (by simp [Slot.keeps_of])⟩
    · exact ⟨_, _, _, Slot.reads_of [_, _, _, _] [_] rfl (by decide) (fun _ _ => rfl)
        (by simp [Slot.keeps_of])⟩
    · exact ⟨_, _, _, Slot.reads_of [_, _, _, _, _] [] rfl (by decide) (fun _ _ => rfl)
        (by simp [Slot.keeps_of])⟩
  uniform := by simp [identifiersRecord, Slot.uniform_of]
  blank := by simp [identifiersRecord, Slot.of]

theorem realises_identifiers : identifiersRecord.Realises {} Identifiers.form
    IdentifiersDraft.identifiers Identifiers.replace where
  lawful := lawful_identifiersRecord
  keys := rfl
  fill := by
    rintro ⟨p, name⟩ d hd
    have hfill := Doc.asString_eq_ok.2 hd
    cases p with
    | string => exact ⟨_, .head _, rfl, fun draft => ⟨_, Slot.fill_of_ok hfill draft, rfl⟩⟩
    | int => exact ⟨_, .tail _ (.head _), rfl, fun draft => ⟨_, Slot.fill_of_ok hfill draft, rfl⟩⟩
    | float =>
      exact ⟨_, .tail _ (.tail _ (.head _)), rfl, fun draft => ⟨_, Slot.fill_of_ok hfill draft, rfl⟩⟩
    | nonNull =>
      exact ⟨_, .tail _ (.tail _ (.tail _ (.head _))), rfl,
        fun draft => ⟨_, Slot.fill_of_ok hfill draft, rfl⟩⟩
    | enumType =>
      exact ⟨_, .tail _ (.tail _ (.tail _ (.tail _ (.head _)))), rfl,
        fun draft => ⟨_, Slot.fill_of_ok hfill draft, rfl⟩⟩
    | objectType =>
      exact ⟨_, .tail _ (.tail _ (.tail _ (.tail _ (.tail _ (.head _))))), rfl,
        fun draft => ⟨_, Slot.fill_of_ok hfill draft, rfl⟩⟩
  comm t t' i h := i.replace_comm h

theorem Identifiers.ofDoc_object {d : Doc} {given : List (Part × String)} (h : form.Object d given) :
    ofDoc d = .ok (replacing given) := by
  obtain ⟨draft, hdraft, hview⟩ := realises_identifiers.decode_object h
  rw [ofDoc_eq, hdraft]
  exact congrArg Except.ok hview

/-! ### Variants -/

/-- The name of a variant, as a string or as the key of an object with null under it. -/
def Json.Doc.variant? : Doc → Option String
  | .string s => s.read.toOption
  | .object [(k, .null)] .closed => k.read.toOption
  | _ => none

theorem Json.Doc.asVariant_of_variant? {α : Type} {known : List (String × α)} {d : Doc} {name : String}
    (hd : d.variant? = some name) {v : α} (hv : known.lookup name = some v) :
    d.asVariant known = .ok v := by
  have hpick : pickVariant known name = .ok v := by rw [pickVariant, hv]
  unfold variant? at hd
  split at hd
  · rw [asVariant, toOption_eq_some.1 hd]
    exact hpick
  · rw [asVariant, toOption_eq_some.1 hd]
    exact bind_eq_ok.2 ⟨_, rfl, bind_eq_ok.2 ⟨v, hpick, rfl⟩⟩
  · cases hd

def DeclarationStyle.name : DeclarationStyle → String
  | .mutable => "mutable"
  | .immutable => "immutable"

def UnknownTypePolicy.name : UnknownTypePolicy → String
  | .reject => "reject"
  | .permissive => "permissive"

namespace Options

/-! ### Setters -/

/-- A setter with what it sets. -/
inductive Setter
  | defaultDescription (text : String)
  | declarationStyle (style : DeclarationStyle)
  | unknownTypes (policy : UnknownTypePolicy)
  | identifiers (identifiers : Identifiers)

namespace Setter

def apply (o : Options) : Setter → Options
  | defaultDescription text => o.withDefaultDescription text
  | declarationStyle style => o.withDeclarationStyle style
  | unknownTypes policy => o.withUnknownTypes policy
  | identifiers i => o.withIdentifiers i

/-- The key of the member that does the same. -/
def key : Setter → String
  | defaultDescription _ => "defaultDescription"
  | declarationStyle _ => "declarationStyle"
  | unknownTypes _ => "unknownTypes"
  | identifiers _ => "identifiers"

/-- What that member has for its value. -/
def WrittenAs (d : Doc) : Setter → Prop
  | defaultDescription text => d.text? = some text
  | declarationStyle style => d.variant? = some style.name
  | unknownTypes policy => d.variant? = some policy.name
  | identifiers i => ∃ given, Identifiers.form.Object d given ∧ i = .replacing given

def form : Form Setter where
  keys := ["defaultDescription", "declarationStyle", "unknownTypes", "identifiers"]
  key := key
  writes s d := s.WrittenAs d

theorem apply_comm (o : Options) {s t : Setter} (h : s.key ≠ t.key) :
    t.apply (s.apply o) = s.apply (t.apply o) := by
  cases s <;> cases t <;> first | rfl | exact absurd rfl h

theorem apply_apply (o : Options) {s t : Setter} (h : s.key = t.key) :
    t.apply (s.apply o) = t.apply o := by
  cases s <;> cases t <;> first | rfl | exact absurd h (by simp [key])

end Setter

/-- A setter that is used again later might as well not have been used. -/
theorem foldl_apply_of_later {setters : List Setter} {s : Setter} (h : ∃ t ∈ setters, t.key = s.key)
    (o : Options) : setters.foldl Setter.apply (s.apply o) = setters.foldl Setter.apply o := by
  induction setters generalizing o with
  | nil =>
    obtain ⟨t, ht, -⟩ := h
    cases ht
  | cons t setters ih =>
    rw [List.foldl_cons, List.foldl_cons]
    by_cases hkey : s.key = t.key
    · rw [Setter.apply_apply o hkey]
    · rw [Setter.apply_comm o hkey]
      refine ih ?_ (t.apply o)
      obtain ⟨u, hu, hsame⟩ := h
      rcases List.mem_cons.1 hu with rfl | hu
      · exact absurd hsame.symm hkey
      · exact ⟨u, hu, hsame⟩

end Options

/-! ### Documents of options -/

/-- The options that a draft stands for. -/
def OptionsDraft.options (r : OptionsDraft) : Options :=
  let base : Options := {}
  ⟨r.defaultDescription.getD base.defaultDescription,
    r.declarationStyle.getD base.declarationStyle, r.unknownTypes.getD base.unknownTypes,
    r.identifiers.getD base.identifiers⟩

theorem Options.ofDoc_eq (d : Doc) :
    ofDoc d = (optionsRecord.decode {} d).map OptionsDraft.options := by
  rw [ofDoc]
  cases optionsRecord.decode {} d <;> rfl

theorem lawful_optionsRecord : optionsRecord.Lawful {} where
  names := by decide
  reads := by
    simp only [optionsRecord, List.forall_mem_cons]
    refine ⟨?_, ?_, ?_, ?_, List.forall_mem_nil _⟩
    · exact ⟨_, _, _, Slot.reads_of [] [_, _, _] rfl (by decide) (fun _ _ => rfl)
        (by simp [Slot.keeps_of])⟩
    · exact ⟨_, _, _, Slot.reads_of [_] [_, _] rfl (by decide) (fun _ _ => rfl)
        (by simp [Slot.keeps_of])⟩
    · exact ⟨_, _, _, Slot.reads_of [_, _] [_] rfl (by decide) (fun _ _ => rfl)
        (by simp [Slot.keeps_of])⟩
    · exact ⟨_, _, _, Slot.reads_of [_, _, _] [] rfl (by decide) (fun _ _ => rfl)
        (by simp [Slot.keeps_of])⟩
  uniform := by simp [optionsRecord, Slot.uniform_of]
  blank := by simp [optionsRecord, Slot.of]

theorem realises_options : optionsRecord.Realises {} Options.Setter.form OptionsDraft.options
    Options.Setter.apply where
  lawful := lawful_optionsRecord
  keys := rfl
  fill := by
    rintro s d hd
    cases s with
    | defaultDescription text =>
      have hfill := Doc.asString_eq_ok.2 hd
      exact ⟨_, .head _, rfl, fun draft => ⟨_, Slot.fill_of_ok hfill draft, rfl⟩⟩
    | declarationStyle style =>
      have hfill : d.asVariant declarationStyles = .ok style :=
        Doc.asVariant_of_variant? hd (by cases style <;> rfl)
      exact ⟨_, .tail _ (.head _), rfl, fun draft => ⟨_, Slot.fill_of_ok hfill draft, rfl⟩⟩
    | unknownTypes policy =>
      have hfill : d.asVariant unknownTypePolicies = .ok policy :=
        Doc.asVariant_of_variant? hd (by cases policy <;> rfl)
      exact ⟨_, .tail _ (.tail _ (.head _)), rfl,
        fun draft => ⟨_, Slot.fill_of_ok hfill draft, rfl⟩⟩
    | identifiers i =>
      obtain ⟨given, hgiven, rfl⟩ := hd
      have hfill := Identifiers.ofDoc_object hgiven
      exact ⟨_, .tail _ (.tail _ (.tail _ (.head _))), rfl,
        fun draft => ⟨_, Slot.fill_of_ok hfill draft, rfl⟩⟩
  comm _ _ o h := Options.Setter.apply_comm o h

namespace Options

theorem ofText_object {text : String} {setters : List Setter}
    (hroot : Setter.form.Object (Document.ofText text).root setters)
    (hend : (Document.ofText text).trailing = false) :
    ofText text = .ok (setters.foldl Setter.apply {}) := by
  obtain ⟨draft, hdraft, hview⟩ := realises_options.decode_object hroot
  refine Document.decode_eq_ok.2 ⟨?_, hend⟩
  rw [ofDoc_eq, hdraft]
  exact congrArg Except.ok hview

/-- The document of options that sets some members, in any order and with others among them, gives what
the setters of these members make of the default options, in any order. Setters of different members
commute, and of two uses of one setter the last counts. -/
theorem setters_agree :
    (∀ (text : String) (setters : List Setter),
      Setter.form.Object (Document.ofText text).root setters →
        (Document.ofText text).trailing = false →
          ofText text = .ok (setters.foldl Setter.apply {})) ∧
      (∀ (o : Options) (s t : Setter), s.key ≠ t.key → t.apply (s.apply o) = s.apply (t.apply o)) ∧
      ∀ (o : Options) (s : Setter) (setters : List Setter), (∃ t ∈ setters, t.key = s.key) →
        setters.foldl Setter.apply (s.apply o) = setters.foldl Setter.apply o :=
  ⟨fun _ _ => ofText_object, fun o _ _ => Setter.apply_comm o, fun o _ _ h => foldl_apply_of_later h o⟩

/-- Options with unknown members at both levels, one of them a number too large to be read. -/
def mixedText : String :=
  "\x7b\"u\":1e999,\"identifiers\":\x7b\"nonNull\":\"N\",\"u\":[],\"int\":\"I\"\x7d,\"u\":null," ++
  "\"declarationStyle\":\x7b\"immutable\":null\x7d\x7d"

theorem document_mixedText : Document.ofText mixedText =
    ⟨.ofMembers [("u", .number (.whole (.error .malformed))),
      ("identifiers", .ofMembers [("nonNull", .text "N"), ("u", .array [] .closed),
        ("int", .text "I")]),
      ("u", .null), ("declarationStyle", .ofMembers [("immutable", .null)])], false⟩ :=
  Document.eq_of_same (by decide +kernel)

/-- The setters of its members, in another order. -/
def mixedSetters : List Setter :=
  [.declarationStyle .immutable, .identifiers (.replacing [(.int, "I"), (.nonNull, "N")])]

theorem object_mixedText :
    Setter.form.Object (Document.ofText mixedText).root mixedSetters := by
  have hnames : Identifiers.form.Object
      (.ofMembers [("nonNull", .text "N"), ("u", .array [] .closed), ("int", .text "I")])
      [(.int, "I"), (.nonNull, "N")] := by
    refine ⟨_, _, rfl, ?_, .swap _ _ _, by decide⟩
    exact .known rfl rfl (.unknown rfl (by decide) (.array (List.forall_mem_nil _))
      (.known rfl rfl .nil))
  rw [document_mixedText]
  refine ⟨_, _, rfl, ?_, .swap _ _ _, by decide⟩
  exact .unknown rfl (by decide) .number (.known rfl ⟨_, hnames, rfl⟩
    (.unknown rfl (by decide) .null (.known rfl rfl .nil)))

theorem setters_agree_mixedText :
    ofText mixedText = .ok
        { declarationStyle := .immutable, identifiers := { int := "I", nonNull := "N" } } ∧
      (Setter.unknownTypes .permissive).apply ((Setter.declarationStyle .immutable).apply {}) =
        (Setter.declarationStyle .immutable).apply ((Setter.unknownTypes .permissive).apply {}) ∧
      (mixedSetters ++ [Setter.declarationStyle .mutable]).foldl Setter.apply
          ((Setter.declarationStyle .immutable).apply {}) =
        (mixedSetters ++ [Setter.declarationStyle .mutable]).foldl Setter.apply {} := by
  obtain ⟨htext, hcomm, hlast⟩ := setters_agree
  refine ⟨?_, hcomm {} (.declarationStyle .immutable) (.unknownTypes .permissive) (by decide),
    hlast {} (.declarationStyle .immutable) _ ⟨.declarationStyle .mutable, by simp, rfl⟩⟩
  exact htext mixedText mixedSetters object_mixedText (by rw [document_mixedText])

end Options
end GraphDecl
