import GraphDecl.Proofs.MissingTables
import GraphDecl.Proofs.RecordForms
import Mathlib.Logic.Relation

/-!
# Spellings of a schema document

One schema can be written in many ways: a member that says what holds without it may be there or not,
members of a record may stand in any order and among others that mean nothing, and a reference may be a
string or an object. `Doc.SchemaRespells` is one such change at one place of a document. A document that
is accepted stays so under any number of them, and its schema stays the same (`Schema.ofText_respelt`).
-/

namespace GraphDecl
open Json

/-! ### Changes of spelling -/

namespace Json.Doc

/-- The value of one entry changes. The entries of a map keep their places. -/
inductive MapRespells (R : String → Doc → Doc → Prop) : Doc → Doc → Prop
  | entry (front back : List (Token String × Doc)) {ending : Ending} {k : Token String} {key : String}
      {v v' : Doc} (hk : k.read = .ok key) (change : R key v v') :
      MapRespells R (.object (front ++ (k, v) :: back) ending)
        (.object (front ++ (k, v') :: back) ending)

/-- A reference is written as the key of a model or as an object with that key for its `name`. -/
inductive ReferenceRespells : Doc → Doc → Prop
  | wrapped {k s : Token String} (hk : k.read = .ok "name") :
      ReferenceRespells (.string s) (.object [(k, .string s)] .closed)
  | unwrapped {k s : Token String} (hk : k.read = .ok "name") :
      ReferenceRespells (.object [(k, .string s)] .closed) (.string s)

/-- A `name` that says no more than the key of its entry. -/
def RepeatsKey (key : String) (d : Doc) : Prop := d = .null ∨ d.text? = some key

/-- Members of an enum value that say what holds without them. -/
def EnumValueDefault (name : String) (d : Doc) : Prop := name = "description" ∧ d = .null

def EnumValueRespells : Doc → Doc → Prop :=
  enumValueRecord.Respells EnumValueDefault EnumValueDefault fun _ _ _ => False

/-- Members of the field under `key` that say what holds without them. -/
def FieldDefault (key name : String) (d : Doc) : Prop :=
  name = "name" ∧ d.RepeatsKey key ∨ name = "description" ∧ d = .null ∨
    name = "isNullable" ∧ d = .bool true

/-- Besides what says nothing new, a field may lose the `values` for which it has no use. -/
def FieldRespells (key : String) (d : Doc) : Doc → Prop :=
  fieldRecord.Respells (FieldDefault key)
    (fun name v => FieldDefault key name v ∨
      name = "values" ∧ fieldRecord.text? "type" d ≠ some "enum")
    (fun name v v' => name = "values" ∧ MapRespells (fun _ => EnumValueRespells) v v') d

/-- Members of the model under `key` that say what holds without them. -/
def ModelDefault (key name : String) (d : Doc) : Prop :=
  name = "name" ∧ d.RepeatsKey key ∨ name = "description" ∧ d = .null ∨
    (name = "fields" ∨ name = "references") ∧ d = .object [] .closed

def ModelRespells (key : String) : Doc → Doc → Prop :=
  modelRecord.Respells (ModelDefault key) (ModelDefault key) fun name v v' =>
    name = "fields" ∧ MapRespells FieldRespells v v' ∨
      name = "references" ∧ MapRespells (fun _ => ReferenceRespells) v v'

/-- One change at one place of the document of a schema. -/
def SchemaRespells : Doc → Doc → Prop :=
  schemaRecord.Respells (fun _ _ => False) (fun _ _ => False) fun name v v' =>
    name = "models" ∧ MapRespells ModelRespells v v'

end Json.Doc

/-! ### Maps -/

namespace Entrywise
variable {α β : Type} {R : String → α → β → Prop} {l : List (String × α)} {l' : List (String × β)}

theorem put (h : Entrywise R l l') {key : String} {v : α} {w : β} (hvw : R key v w) :
    Entrywise R (OrderedMap.put key v l) (OrderedMap.put key w l') := by
  induction h with
  | nil => exact .cons ⟨rfl, hvw⟩ .nil
  | @cons e e' l l' he htail ih =>
    rw [OrderedMap.put, OrderedMap.put, ← he.1]
    split
    · exact .cons ⟨rfl, hvw⟩ htail
    · exact .cons he ih

theorem foldl_insert (h : Entrywise R l l') {m : OrderedMap α} {m' : OrderedMap β}
    (hm : Entrywise R m.entries m'.entries) :
    Entrywise R (l.foldl (fun m e => m.insert e.1 e.2) m).entries
      (l'.foldl (fun m e => m.insert e.1 e.2) m').entries := by
  induction h generalizing m m' with
  | nil => exact hm
  | @cons e e' l l' he _ ih =>
    obtain ⟨key, w⟩ := e'
    obtain ⟨rfl, hvw⟩ := he
    exact ih (hm.put hvw)

theorem ofList (h : Entrywise R l l') :
    Entrywise R (OrderedMap.ofList l).entries (OrderedMap.ofList l').entries :=
  h.foldl_insert .nil

end Entrywise

theorem OrderedMap.eq_of_entrywise {α : Type} {m m' : OrderedMap α}
    (h : Entrywise (fun _ v w => w = v) m.entries m'.entries) : m' = m := by
  have heq : List.Forall₂ Eq m.entries m'.entries := h.imp fun _ _ he => Prod.ext he.1 he.2.symm
  exact OrderedMap.ext (List.forall₂_eq_eq_eq ▸ heq).symm

theorem forall₂_middle {α β : Type} {R : α → β → Prop} {front back : List α} {a : α} {l : List β}
    (h : List.Forall₂ R (front ++ a :: back) l) :
    ∃ l₁ b l₂, l = l₁ ++ b :: l₂ ∧ List.Forall₂ R front l₁ ∧ R a b ∧ List.Forall₂ R back l₂ := by
  induction front generalizing l with
  | nil =>
    cases h with
    | cons hab hback => exact ⟨[], _, _, rfl, .nil, hab, hback⟩
  | cons a' front ih =>
    cases h with
    | cons ha' h =>
      obtain ⟨l₁, b, l₂, rfl, hfront, hab, hback⟩ := ih h
      exact ⟨_ :: l₁, b, l₂, rfl, .cons ha' hfront, hab, hback⟩

/-- A map with one entry changed is read as before up to the value of that entry. -/
theorem Json.Doc.MapRespells.asMap {α : Type} {R : String → Doc → Doc → Prop}
    (Same : String → α → α → Prop) {decode : Doc → Except Fault α} {d d' : Doc} {m : OrderedMap α}
    (hsame : ∀ key a, Same key a a) (hR : ∀ key v v' a, R key v v' → decode v = .ok a →
      ∃ a', decode v' = .ok a' ∧ Same key a a')
    (h : MapRespells R d d') (hm : d.asMap decode = .ok m) :
    ∃ m', d'.asMap decode = .ok m' ∧ Entrywise Same m.entries m'.entries := by
  obtain @⟨front, back, ending, k, key, v, v', hk, change⟩ := h
  obtain ⟨members, l, hd, hl, rfl⟩ := asMap_eq_ok_iff.1 hm
  cases hd
  obtain ⟨l₁, e, l₂, rfl, hfront, ⟨hkey, hv⟩, hback⟩ := forall₂_middle hl
  obtain rfl : key = e.1 := Except.ok.inj (hk.symm.trans hkey)
  obtain ⟨a', ha', hsame'⟩ := hR _ v v' e.2 change hv
  refine ⟨_, asMap_eq_ok_iff.2 ⟨_, l₁ ++ (e.1, a') :: l₂, rfl, ?_, rfl⟩, .ofList ?_⟩
  · exact List.rel_append hfront (.cons ⟨hkey, ha'⟩ hback)
  · exact List.rel_append (Entrywise.refl hsame l₁) (.cons ⟨rfl, hsame'⟩ (Entrywise.refl hsame l₂))

/-- Entries that are converted alike give the same map. -/
theorem convertEntries_congr {α β : Type} {convert : String → α → Except LoadError β}
    {m m' : OrderedMap α}
    (h : Entrywise (fun key a a' => convert key a' = convert key a) m.entries m'.entries) :
    convertEntries convert m' = convertEntries convert m := by
  have hentries : m'.entries.mapM (fun e => do return (e.1, ← convert e.1 e.2)) =
      m.entries.mapM fun e => do return (e.1, ← convert e.1 e.2) :=
    h.mapM_congr fun key a a' hconvert => by rw [hconvert]
  rw [convertEntries, convertEntries, hentries]

/-! ### Records of a schema document -/

theorem lawful_enumValueRecord : enumValueRecord.Lawful {} where
  names := by decide
  reads := by
    simp only [enumValueRecord, List.forall_mem_cons]
    exact ⟨⟨_, _, _, reads_value⟩, ⟨_, _, _, reads_valueDescription⟩, List.forall_mem_nil _⟩
  uniform := by simp [enumValueRecord, Slot.uniform_of]
  blank := by simp [enumValueRecord, Slot.of]

theorem lawful_fieldRecord : fieldRecord.Lawful {} where
  names := by decide
  reads := by
    simp only [fieldRecord, List.forall_mem_cons]
    exact ⟨⟨_, _, _, reads_fieldName⟩, ⟨_, _, _, reads_fieldDescription⟩, ⟨_, _, _, reads_type⟩,
      ⟨_, _, _, reads_nullable⟩, ⟨_, _, _, reads_values⟩, List.forall_mem_nil _⟩
  uniform := by simp [fieldRecord, Slot.uniform_of]
  blank := by simp [fieldRecord, Slot.of]

theorem lawful_modelRecord : modelRecord.Lawful {} where
  names := by decide
  reads := by
    simp only [modelRecord, List.forall_mem_cons]
    exact ⟨⟨_, _, _, reads_modelName⟩, ⟨_, _, _, reads_modelDescription⟩, ⟨_, _, _, reads_fields⟩,
      ⟨_, _, _, reads_references⟩, List.forall_mem_nil _⟩
  uniform := by simp [modelRecord, Slot.uniform_of]
  blank := by simp [modelRecord, Slot.of]

theorem lawful_schemaRecord : schemaRecord.Lawful {} where
  names := by decide
  reads := by
    simp only [schemaRecord, List.forall_mem_cons]
    exact ⟨⟨_, _, _, reads_models⟩, List.forall_mem_nil _⟩
  uniform := by simp [schemaRecord, Slot.uniform_of]
  blank := by simp [schemaRecord, Slot.of]

namespace Json.Doc
variable {key : String} {d d' : Doc}

theorem RepeatsKey.asOption (h : d.RepeatsKey key) :
    ∃ o, d.asOption asString = .ok o ∧ o.getD key = key := by
  rcases h with rfl | htext
  · exact ⟨none, rfl, rfl⟩
  · have hd : d ≠ .null := by rintro rfl; cases htext
    exact ⟨some key, by rw [asOption_of_ne_null hd, asString_eq_ok.2 htext]; rfl, rfl⟩

/-- A repeated key leaves the name as the key gives it. -/
theorem RepeatsKey.getD_name (h : d.RepeatsKey key) {o : Option String}
    (ho : d.asOption asString = .ok o) : o.getD key = key := by
  obtain ⟨o', ho', hkey⟩ := h.asOption
  rw [ho'] at ho
  exact Except.ok.inj ho ▸ hkey

theorem join_of_null {α : Type} {decode : Doc → Except Fault α} {o : Option α} (hd : d = .null)
    (ho : d.asOption decode = .ok o) : (some o).join = none := by
  subst hd
  cases ho
  rfl

theorem empty_of_asMap {α : Type} {decode : Doc → Except Fault α} {m : OrderedMap α}
    (hd : d = .object [] .closed) (hm : d.asMap decode = .ok m) : m = .empty := by
  subst hd
  cases hm
  rfl

theorem fits_enumValue : enumValueRecord.Fits EnumValueDefault fun _ _ _ => False where
  adds := by
    rintro _ _ ⟨rfl, rfl⟩
    exact ⟨_, .tail _ (.head _), rfl, Slot.takes_of rfl⟩
  inner := fun _ _ _ h => h.elim

end Json.Doc

open Json.Doc

theorem EnumValue.ofDoc_respells {d d' : Doc} {v : EnumValue} (h : EnumValueRespells d d')
    (hv : ofDoc d = .ok v) : ofDoc d' = .ok v := by
  obtain ⟨draft, hdraft, hv⟩ := bind_eq_ok.1 hv
  rw [EnumValueRespells] at h
  have hr := lawful_enumValueRecord
  obtain ⟨draft', hdraft'⟩ := h.decode_isOk fits_enumValue hr hdraft
  have hvalue : draft'.value = draft.value :=
    h.unchanged hr hdraft hdraft' reads_value rfl id
      (by simp [EnumValueDefault]) (by simp [EnumValueDefault]) (fun _ _ _ _ h => h.elim)
  have hdescription : draft'.description.join = draft.description.join :=
    h.unchanged hr hdraft hdraft' reads_valueDescription rfl Option.join
      (fun _ _ hv => join_of_null hv.2) (fun _ _ hv => join_of_null hv.2) (fun _ _ _ _ h => h.elim)
  rw [ofDoc, hdraft']
  change (do return ⟨← required "value" draft'.value, draft'.description.join⟩ :
    Except Fault EnumValue) = _
  rw [hvalue, hdescription]
  exact hv

namespace FieldEntry
variable {key : String} {d d' : Doc} {f : FieldEntry}

theorem values_respells {o : Option (OrderedMap EnumValue)}
    (h : MapRespells (fun _ => EnumValueRespells) d d')
    (hd : d.asOption (Doc.asMap EnumValue.ofDoc) = .ok o) :
    d'.asOption (Doc.asMap EnumValue.ofDoc) = .ok o := by
  have hnull : d ≠ .null ∧ d' ≠ .null := by cases h; exact ⟨nofun, nofun⟩
  rw [asOption_of_ne_null hnull.1] at hd
  obtain ⟨values, hvalues, rfl⟩ := map_eq_ok.1 hd
  obtain ⟨values', hvalues', hsame⟩ := h.asMap (fun _ v w => w = v) (fun _ _ => rfl)
    (fun _ _ _ v hv hdecode => ⟨v, EnumValue.ofDoc_respells hv hdecode, rfl⟩) hvalues
  rw [asOption_of_ne_null hnull.2, hvalues', OrderedMap.eq_of_entrywise hsame]
  rfl

theorem fits_field : fieldRecord.Fits (FieldDefault key)
    fun name v v' => name = "values" ∧ MapRespells (fun _ => EnumValueRespells) v v' where
  adds := by
    rintro _ v (⟨rfl, hv⟩ | ⟨rfl, rfl⟩ | ⟨rfl, rfl⟩)
    · exact ⟨_, .head _, rfl, Slot.takes_of hv.asOption.choose_spec.1⟩
    · exact ⟨_, .tail _ (.head _), rfl, Slot.takes_of rfl⟩
    · exact ⟨_, .tail _ (.tail _ (.tail _ (.head _))), rfl, Slot.takes_of rfl⟩
  inner := by
    rintro _ v v' ⟨rfl, h⟩
    refine ⟨_, .tail _ (.tail _ (.tail _ (.tail _ (.head _)))), rfl, fun hv => ?_⟩
    obtain ⟨values, hvalues⟩ := Slot.exists_of_takes hv {}
    exact Slot.takes_of (values_respells h hvalues)

/-- The entries are made into the same field. -/
theorem toField_congr {model : String} {f' : FieldEntry} (hname : f'.name.getD key = f.name.getD key)
    (hdescription : f'.description = f.description) (htype : f'.type = f.type)
    (hnullable : f'.nullable = f.nullable) (hvalues : f.type = "enum" → f'.values = f.values) :
    f'.toField model key = f.toField model key := by
  rw [toField, toField, hname, hdescription, htype, hnullable]
  split
  · rename_i henum
    rw [hvalues henum]
  · rfl

theorem ofDoc_respells (h : FieldRespells key d d') (hf : ofDoc d = .ok f) :
    ∃ f', ofDoc d' = .ok f' ∧ ∀ model, f'.toField model key = f.toField model key := by
  have hwritten := (ofDoc_readFrom hf).2.type
  obtain ⟨draft, hdraft, hf⟩ := bind_eq_ok.1 hf
  rw [FieldRespells] at h
  have hr := lawful_fieldRecord
  obtain ⟨draft', hdraft'⟩ := h.decode_isOk fits_field hr hdraft
  have hname : draft'.name.join.getD key = draft.name.join.getD key :=
    h.unchanged hr hdraft hdraft' reads_fieldName rfl (·.join.getD key)
      (fun _ _ hv => RepeatsKey.getD_name (by simpa [FieldDefault] using hv))
      (fun _ _ hv => RepeatsKey.getD_name (by simpa [FieldDefault] using hv)) (by simp)
  have hdescription : draft'.description.join = draft.description.join :=
    h.unchanged hr hdraft hdraft' reads_fieldDescription rfl Option.join
      (fun _ _ hv => join_of_null (by simpa [FieldDefault] using hv))
      (fun _ _ hv => join_of_null (by simpa [FieldDefault] using hv)) (by simp)
  have htype : draft'.type = draft.type :=
    h.unchanged hr hdraft hdraft' reads_type rfl id
      (by simp [FieldDefault]) (by simp [FieldDefault]) (by simp)
  have hnullable : draft'.nullable.getD true = draft.nullable.getD true :=
    h.unchanged hr hdraft hdraft' reads_nullable rfl (·.getD true)
      (by simp [FieldDefault, asBool]) (by simp [FieldDefault, asBool]) (by simp)
  have hvalues : fieldRecord.text? "type" d = some "enum" → draft'.values.join = draft.values.join := by
    intro henum
    exact h.unchanged hr hdraft hdraft' reads_values rfl Option.join
      (by simp [FieldDefault]) (by simp [FieldDefault, henum]) (fun v v' o o' hv ho ho' => by
        rw [Except.ok.inj (ho'.symm.trans (values_respells hv.2 ho))])
  obtain ⟨type, hrequired, hf⟩ := bind_eq_ok.1 hf
  cases hf
  have hrequired' : required "type" draft'.type = .ok type := htype ▸ hrequired
  refine ⟨_, bind_eq_ok.2 ⟨draft', hdraft', bind_eq_ok.2 ⟨type, hrequired', rfl⟩⟩, fun model => ?_⟩
  exact toField_congr hname hdescription rfl hnullable fun henum => hvalues (henum ▸ hwritten)

end FieldEntry

namespace ModelEntry
variable {key : String} {d d' : Doc} {m : ModelEntry}

/-- The fields of a map with one changed are made into the same fields. -/
theorem fields_respells {fields : OrderedMap FieldEntry} (h : MapRespells FieldRespells d d')
    (hd : d.asMap FieldEntry.ofDoc = .ok fields) : ∃ fields', d'.asMap FieldEntry.ofDoc = .ok fields' ∧
      ∀ model, convertEntries (FieldEntry.toField model) fields' =
        convertEntries (FieldEntry.toField model) fields := by
  obtain ⟨fields', hfields', hsame⟩ := h.asMap
    (fun key f f' => ∀ model, f'.toField model key = f.toField model key)
    (fun _ _ _ => rfl) (fun _ _ _ _ => FieldEntry.ofDoc_respells) hd
  exact ⟨fields', hfields', fun model =>
    convertEntries_congr (hsame.imp fun _ _ he => ⟨he.1, he.2 model⟩)⟩

theorem referenceOfDoc_respells {target : String} (h : ReferenceRespells d d')
    (hd : referenceOfDoc d = .ok target) : referenceOfDoc d' = .ok target := by
  have hnamed : ∀ {k s : Token String}, k.read = .ok "name" →
      membersNamed "name" [(k, .string s)] = [.string s] := by
    intro k s hk
    simp [membersNamed, hk]
  cases h with
  | @wrapped k s hk =>
    have hs : s.read = .ok target := hd
    have hscan : (Doc.object [(k, .string s)] .closed).scan referenceRoom = .ok () := by
      simp [referenceRoom, nestingLimit, scan, scanMembers, hk, hs]
      rfl
    simp only [referenceOfDoc, hscan, bind, Except.bind, hnamed hk]
    exact hs
  | @unwrapped k s hk =>
    have htarget := referenceOfDoc_eq_ok hd
    rw [target?, hnamed hk] at htarget
    exact toOption_eq_some.1 htarget

theorem references_respells {references : OrderedMap String}
    (h : MapRespells (fun _ => ReferenceRespells) d d') (hd : d.asMap referenceOfDoc = .ok references) :
    d'.asMap referenceOfDoc = .ok references := by
  obtain ⟨references', hreferences', hsame⟩ := h.asMap (fun _ v w => w = v) (fun _ _ => rfl)
    (fun _ _ _ target hv hdecode => ⟨target, referenceOfDoc_respells hv hdecode, rfl⟩) hd
  rwa [OrderedMap.eq_of_entrywise hsame] at hreferences'

theorem fits_model : modelRecord.Fits (ModelDefault key) fun name v v' =>
    name = "fields" ∧ MapRespells FieldRespells v v' ∨
      name = "references" ∧ MapRespells (fun _ => ReferenceRespells) v v' where
  adds := by
    rintro _ v (⟨rfl, hv⟩ | ⟨rfl, rfl⟩ | ⟨rfl | rfl, rfl⟩)
    · exact ⟨_, .head _, rfl, Slot.takes_of hv.asOption.choose_spec.1⟩
    · exact ⟨_, .tail _ (.head _), rfl, Slot.takes_of rfl⟩
    · exact ⟨_, .tail _ (.tail _ (.head _)), rfl, Slot.takes_of rfl⟩
    · exact ⟨_, .tail _ (.tail _ (.tail _ (.head _))), rfl, Slot.takes_of rfl⟩
  inner := by
    rintro _ v v' (⟨rfl, h⟩ | ⟨rfl, h⟩)
    · refine ⟨_, .tail _ (.tail _ (.head _)), rfl, fun hv => ?_⟩
      obtain ⟨fields, hfields⟩ := Slot.exists_of_takes hv {}
      exact Slot.takes_of (fields_respells h hfields).choose_spec.1
    · refine ⟨_, .tail _ (.tail _ (.tail _ (.head _))), rfl, fun hv => ?_⟩
      obtain ⟨references, hreferences⟩ := Slot.exists_of_takes hv {}
      exact Slot.takes_of (references_respells h hreferences)

theorem ofDoc_respells (h : ModelRespells key d d') (hm : ofDoc d = .ok m) :
    ∃ m', ofDoc d' = .ok m' ∧ m'.toModel key = m.toModel key := by
  obtain ⟨draft, hdraft, hm⟩ := bind_eq_ok.1 hm
  rw [ModelRespells] at h
  have hr := lawful_modelRecord
  obtain ⟨draft', hdraft'⟩ := h.decode_isOk fits_model hr hdraft
  have hname : draft'.name.join.getD key = draft.name.join.getD key :=
    h.unchanged hr hdraft hdraft' reads_modelName rfl (·.join.getD key)
      (fun _ _ hv => RepeatsKey.getD_name (by simpa [ModelDefault] using hv))
      (fun _ _ hv => RepeatsKey.getD_name (by simpa [ModelDefault] using hv)) (by simp)
  have hdescription : draft'.description.join = draft.description.join :=
    h.unchanged hr hdraft hdraft' reads_modelDescription rfl Option.join
      (fun _ _ hv => join_of_null (by simpa [ModelDefault] using hv))
      (fun _ _ hv => join_of_null (by simpa [ModelDefault] using hv)) (by simp)
  have hfields : ∀ model, convertEntries (FieldEntry.toField model) (draft'.fields.getD .empty) =
      convertEntries (FieldEntry.toField model) (draft.fields.getD .empty) := by
    intro model
    have hempty : ∀ v fields, ModelDefault key "fields" v → v.asMap FieldEntry.ofDoc = .ok fields →
        convertEntries (FieldEntry.toField model) ((some fields).getD .empty) =
          convertEntries (FieldEntry.toField model) ((none : Option _).getD .empty) :=
      fun _ _ hv hm => congrArg _ (empty_of_asMap (by simpa [ModelDefault] using hv) hm)
    refine h.unchanged hr hdraft hdraft' reads_fields rfl
      (fun o => convertEntries (FieldEntry.toField model) (o.getD .empty)) hempty hempty ?_
    simp only [true_and, String.reduceEq, false_and, or_false]
    intro v v' fields fields' hv hfields hfields'
    obtain ⟨fields₁, hfields₁, hsame⟩ := fields_respells hv hfields
    cases hfields'.symm.trans hfields₁
    exact hsame model
  have hreferences : draft'.references.getD .empty = draft.references.getD .empty := by
    have hempty : ∀ v references, ModelDefault key "references" v →
        v.asMap referenceOfDoc = .ok references →
          (some references).getD .empty = (none : Option (OrderedMap String)).getD .empty :=
      fun _ _ hv hm => empty_of_asMap (by simpa [ModelDefault] using hv) hm
    refine h.unchanged hr hdraft hdraft' reads_references rfl (·.getD .empty)
      hempty hempty ?_
    simp only [true_and, String.reduceEq, false_and, false_or]
    intro v v' references references' hv hreferences hreferences'
    exact Except.ok.inj (hreferences'.symm.trans (references_respells hv hreferences))
  cases hm
  refine ⟨_, bind_eq_ok.2 ⟨draft', hdraft', rfl⟩, ?_⟩
  simp only [toModel, hname, hdescription, hfields, hreferences]

end ModelEntry

theorem fits_schema : schemaRecord.Fits (fun _ _ => False) fun name v v' =>
    name = "models" ∧ MapRespells ModelRespells v v' where
  adds := fun _ _ h => h.elim
  inner := by
    rintro _ v v' ⟨rfl, h⟩
    refine ⟨_, .head _, rfl, fun hv => ?_⟩
    obtain ⟨models, hmodels⟩ := Slot.exists_of_takes hv {}
    obtain ⟨models', hmodels', -⟩ := h.asMap
      (fun key m m' => m'.toModel key = m.toModel key) (fun _ _ => rfl)
      (fun _ _ _ _ => ModelEntry.ofDoc_respells) hmodels
    exact Slot.takes_of hmodels'

/-- One change of spelling leaves the models of a document alone, and with them what is amiss in one. -/
theorem modelEntries_respells {root root' : Doc} {entries : OrderedMap ModelEntry}
    (h : SchemaRespells root root') (hroot : modelEntries root = .ok entries) :
    ∃ entries', modelEntries root' = .ok entries' ∧
      convertEntries ModelEntry.toModel entries' = convertEntries ModelEntry.toModel entries := by
  obtain ⟨draft, hdraft, hroot⟩ := bind_eq_ok.1 hroot
  rw [SchemaRespells] at h
  have hr := lawful_schemaRecord
  obtain ⟨draft', hdraft'⟩ := h.decode_isOk fits_schema hr hdraft
  cases hroot
  refine ⟨_, bind_eq_ok.2 ⟨draft', hdraft', rfl⟩, ?_⟩
  refine h.unchanged hr hdraft hdraft' reads_models rfl
    (fun o => convertEntries ModelEntry.toModel (o.getD .empty)) (by simp) (by simp) ?_
  intro v v' models models' hv hmodels hmodels'
  obtain ⟨models₁, hmodels₁, hsame⟩ := hv.2.asMap
    (fun key m m' => m'.toModel key = m.toModel key) (fun _ _ => rfl)
    (fun _ _ _ _ => ModelEntry.ofDoc_respells) hmodels
  cases hmodels'.symm.trans hmodels₁
  exact convertEntries_congr hsame

theorem modelEntries_star {root root' : Doc} {entries : OrderedMap ModelEntry}
    (h : Relation.ReflTransGen SchemaRespells root root') (hroot : modelEntries root = .ok entries) :
    ∃ entries', modelEntries root' = .ok entries' ∧
      convertEntries ModelEntry.toModel entries' = convertEntries ModelEntry.toModel entries := by
  induction h with
  | refl => exact ⟨entries, hroot, rfl⟩
  | tail _ hstep ih =>
    obtain ⟨entries₁, hentries₁, hsame₁⟩ := ih
    obtain ⟨entries', hentries', hsame⟩ := modelEntries_respells hstep hentries₁
    exact ⟨entries', hentries', hsame.trans hsame₁⟩

/-- Any number of changes of spelling at any places of a text that is loaded gives a text that is loaded
with the same schema, the order of its maps included. -/
theorem Schema.ofText_respelt {text text' : String} {s : Schema} (hs : ofText text = .ok s)
    (hroot : Relation.ReflTransGen SchemaRespells (Document.ofText text).root
      (Document.ofText text').root)
    (hend : (Document.ofText text').trailing = false) : ofText text' = .ok s := by
  obtain ⟨entries, hentries, hmodels⟩ := ofText_eq_ok hs
  obtain ⟨entries', hentries', hsame⟩ := modelEntries_star hroot hentries
  rw [ofText, Document.decode_eq_ok.2 ⟨hentries', hend⟩]
  change (convertEntries ModelEntry.toModel entries').map Schema.mk = _
  rw [hsame, hmodels]
  rfl

/-! ### Documents of texts -/

namespace Json

deriving instance DecidableEq for Token, Ending

mutual

/-- The documents are the same. -/
def Doc.same : Doc → Doc → Bool
  | .absent f, .absent g | .misspelt f, .misspelt g => f == g
  | .null, .null => true
  | .bool b, .bool c => b == c
  | .number n, .number m => n == m
  | .string s, .string t => s == t
  | .array ds e, .array ds' e' => sameItems ds ds' && e == e'
  | .object ms e, .object ms' e' => sameMembers ms ms' && e == e'
  | _, _ => false

def Doc.sameItems : List Doc → List Doc → Bool
  | [], [] => true
  | d :: ds, d' :: ds' => d.same d' && sameItems ds ds'
  | _, _ => false

def Doc.sameMembers : List (Token String × Doc) → List (Token String × Doc) → Bool
  | [], [] => true
  | (k, d) :: ms, (k', d') :: ms' => k == k' && d.same d' && sameMembers ms ms'
  | _, _ => false

end

mutual

theorem Doc.eq_of_same : ∀ {d d' : Doc}, d.same d' = true → d = d'
  | .array ds e, d', h => by
    cases d' with
    | array ds' e' =>
      simp only [same, Bool.and_eq_true, beq_iff_eq] at h
      rw [eq_of_sameItems h.1, h.2]
    | _ => simp [same] at h
  | .object ms e, d', h => by
    cases d' with
    | object ms' e' =>
      simp only [same, Bool.and_eq_true, beq_iff_eq] at h
      rw [eq_of_sameMembers h.1, h.2]
    | _ => simp [same] at h
  | .absent _, d', h | .misspelt _, d', h | .null, d', h | .bool _, d', h | .number _, d', h
  | .string _, d', h => by
    cases d' <;> simp_all [same]

theorem Doc.eq_of_sameItems : ∀ {ds ds' : List Doc}, sameItems ds ds' = true → ds = ds'
  | [], ds', h => by cases ds' <;> simp_all [sameItems]
  | d :: ds, ds', h => by
    cases ds' with
    | nil => simp [sameItems] at h
    | cons d' ds' =>
      simp only [sameItems, Bool.and_eq_true] at h
      rw [eq_of_same h.1, eq_of_sameItems h.2]

theorem Doc.eq_of_sameMembers :
    ∀ {ms ms' : List (Token String × Doc)}, sameMembers ms ms' = true → ms = ms'
  | [], ms', h => by cases ms' <;> simp_all [sameMembers]
  | (k, d) :: ms, ms', h => by
    cases ms' with
    | nil => simp [sameMembers] at h
    | cons m' ms' =>
      simp only [sameMembers, Bool.and_eq_true, beq_iff_eq] at h
      rw [h.1.1, eq_of_same h.1.2, eq_of_sameMembers h.2]

end

/-- A document is known by its root, if nothing stands behind that. -/
theorem Document.eq_of_same {document : Document} {root : Doc}
    (h : (document.root.same root && !document.trailing) = true) : document = ⟨root, false⟩ := by
  rw [Bool.and_eq_true, Bool.not_eq_true'] at h
  rw [← Doc.eq_of_same h.1, ← h.2]

end Json

def plainText : String :=
  "\x7b\"models\":\x7b\"A\":\x7b\"fields\":\x7b\"x\":\x7b\"type\":\"float\",\"values\":null\x7d\x7d," ++
  "\"references\":\x7b\"a\":\"A\"\x7d\x7d\x7d\x7d"

/-- The same schema, with other members in another order. -/
def variedText : String :=
  "\x7b\"u\":[0],\"models\":\x7b\"A\":\x7b\"references\":\x7b\"a\":\x7b\"name\":\"A\"\x7d\x7d," ++
  "\"fields\":\x7b\"x\":\x7b\"isNullable\":true,\"type\":\"float\"\x7d\x7d,\"name\":\"A\"\x7d\x7d\x7d"

def plain : Schema :=
  Schema.empty.add (.withReference (.withField (.new "A") (.new "x" .float)) "a" "A")

theorem ofText_plainText : Schema.ofText plainText = .ok plain := by decide +kernel

namespace Json.Doc

def text (s : String) : Doc := .string (.whole (.ok s))

/-- An object without faults. -/
def ofMembers (members : List (String × Doc)) : Doc :=
  .object (members.map fun m => (.whole (.ok m.1), m.2)) .closed

theorem root_plainText : (Document.ofText plainText).root =
    ofMembers [("models", ofMembers [("A", ofMembers [
      ("fields", ofMembers [("x", ofMembers [("type", text "float"), ("values", .null)])]),
      ("references", ofMembers [("a", text "A")])])])] :=
  eq_of_same (by decide +kernel)

theorem ofText_variedText : Document.ofText variedText =
    ⟨ofMembers [("u", .array [.number (.whole (.ok (.integer 0)))] .closed),
      ("models", ofMembers [("A", ofMembers [
        ("references", ofMembers [("a", ofMembers [("name", text "A")])]),
        ("fields", ofMembers [("x", ofMembers [("isNullable", .bool true), ("type", text "float")])]),
        ("name", text "A")])])], false⟩ :=
  Document.eq_of_same (by decide +kernel)

theorem MapRespells.single {R : String → Doc → Doc → Prop} {key : String} {v v' : Doc}
    (h : R key v v') : MapRespells R (ofMembers [(key, v)]) (ofMembers [(key, v')]) :=
  .entry [] [] rfl h

/-- `values` goes, then `isNullable` comes. -/
theorem field_respells : Relation.ReflTransGen (FieldRespells "x")
    (ofMembers [("type", text "float"), ("values", .null)])
    (ofMembers [("isNullable", .bool true), ("type", text "float")]) :=
  .tail (.single (.dropped [_] [] rfl (.inr ⟨rfl, by decide⟩)))
    (.added [] _ (k := .whole (.ok "isNullable")) rfl (.inr (.inr ⟨rfl, rfl⟩)) (by decide))

/-- The field changes, the reference is wrapped, `name` comes, and the members change places. -/
theorem model_respells : Relation.ReflTransGen (ModelRespells "A")
    (ofMembers [("fields", ofMembers [("x", ofMembers [("type", text "float"), ("values", .null)])]),
      ("references", ofMembers [("a", text "A")])])
    (ofMembers [("references", ofMembers [("a", ofMembers [("name", text "A")])]),
      ("fields", ofMembers [("x", ofMembers [("isNullable", .bool true), ("type", text "float")])]),
      ("name", text "A")]) := by
  refine (field_respells.lift (fun v => ofMembers [("fields", ofMembers [("x", v)]),
    ("references", ofMembers [("a", text "A")])]) fun _ _ h => ?_).trans ?_
  · exact .member [] _ rfl (.inl ⟨rfl, .single h⟩)
  · have hreference : ReferenceRespells (text "A") (ofMembers [("name", text "A")]) := .wrapped rfl
    refine .head (.member [_] [] rfl (.inr ⟨rfl, .single hreference⟩)) ?_
    refine .head (.added [_, _] [] (k := .whole (.ok "name")) (v := text "A") rfl
      (.inl ⟨rfl, .inr rfl⟩) (by decide)) ?_
    exact .single (.permuted (.swap _ _ _))

/-- The model changes, and an unknown member comes. -/
theorem root_respells : Relation.ReflTransGen SchemaRespells (Document.ofText plainText).root
    (Document.ofText variedText).root := by
  rw [root_plainText, ofText_variedText]
  refine (model_respells.lift (fun v => ofMembers [("models", ofMembers [("A", v)])])
    fun _ _ h => ?_).tail ?_
  · exact .member [] [] rfl ⟨rfl, .single h⟩
  · exact .unknown [] _ (k := .whole (.ok "u")) rfl (by decide)
      (.array (by simp [WellFormed.number]))

end Json.Doc

theorem Schema.ofText_respelt_plain :
    ofText plainText = .ok plain ∧ ofText variedText = .ok plain :=
  ⟨ofText_plainText, ofText_respelt ofText_plainText root_respells (by rw [ofText_variedText])⟩

end GraphDecl
