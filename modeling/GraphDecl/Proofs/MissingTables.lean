import GraphDecl.Proofs.FaultPlaces
import GraphDecl.Proofs.Occurrences

/-!
# Enums without a table

A text that can be decoded is no schema if and only if an enum in it has no table of values. Only the
last occurrence of a key counts, while the first one decides on its place (`Json.kept`), and the enum
that is reported is the first without a table in the order of these places
(`Schema.ofText_eq_error_iff_lacksTable`). A text that cannot be decoded is refused for that alone.
-/

namespace GraphDecl
open Json

/-! ### Members that count -/

namespace Json

/-- The members of a map without those that are written over: under each key the last occurrence, in
the order of the first ones. -/
def kept (members : List (String × Doc)) : List (String × Doc) :=
  (members.map Prod.fst).eraseDups.filterMap fun key =>
    (members.reverse.lookup key).map fun d => (key, d)

end Json

namespace OrderedMap
variable {α : Type}

theorem filterMap_keys (m : OrderedMap α) :
    (m.keys.filterMap fun key => (m.get? key).map fun v => (key, v)) = m.entries := by
  have hentry : ∀ e ∈ m.entries, ((m.get? e.1).map fun v => (e.1, v)) = some e := by
    intro e he
    rw [get?_eq_some_iff.2 he]
    rfl
  rw [keys, List.filterMap_map]
  exact (List.filterMap_congr hentry).trans List.filterMap_some

/-- What is loaded from a map are the members that count. -/
theorem HoldsLast.entrywise {m : OrderedMap α} {gives : String → Doc → α → Prop}
    {members : List (String × Doc)} (h : m.HoldsLast gives members) :
    Entrywise gives (kept members) m.entries := by
  rw [kept, ← h.keys, ← m.filterMap_keys]
  refine List.rel_filterMap ?_ (List.forall₂_same.2 fun _ _ => rfl)
  rintro key _ rfl
  exact rel_map (fun _ _ hv => ⟨rfl, hv⟩) (h.last key)

end OrderedMap

theorem Entrywise.findSome?_eq {α β γ : Type} {R : String → α → β → Prop} {l : List (String × α)}
    {l' : List (String × β)} (h : Entrywise R l l') {f : String × α → Option γ}
    {g : String × β → Option γ} (hfg : ∀ key a b, R key a b → f (key, a) = g (key, b)) :
    l.findSome? f = l'.findSome? g := by
  have hmap : l'.map g = l.map f := h.map_congr fun key a b hab => (hfg key a b hab).symm
  have hfind := congrArg (List.findSome? id) hmap
  rw [List.findSome?_map, List.findSome?_map] at hfind
  exact hfind.symm

/-! ### Fields and their tables -/

namespace Json

/-- The field is an enum whose `values` are absent or null. -/
def Doc.LacksTable (d : Doc) : Prop :=
  fieldRecord.text? "type" d = some "enum" ∧ fieldRecord.value? "values" d = none

instance (d : Doc) : Decidable d.LacksTable :=
  inferInstanceAs (Decidable (_ ∧ _))

/-- A field in the document of a schema, with its model. -/
structure Place where
  modelKey : String
  model : Doc
  fieldKey : String
  field : Doc

/-- The name of the model at a place. -/
def Place.modelName (p : Place) : String := (modelRecord.text? "name" p.model).getD p.modelKey

def Place.fieldName (p : Place) : String := (fieldRecord.text? "name" p.field).getD p.fieldKey

/-- The fields that count, model by model. -/
def Doc.places (root : Doc) : List Place :=
  (kept (schemaRecord.mapMembers "models" root)).flatMap fun m =>
    (kept (modelRecord.mapMembers "fields" m.2)).map fun f => ⟨m.1, m.2, f.1, f.2⟩

end Json

theorem FieldEntry.ReadFrom.missesValues_iff {d : Doc} {f : FieldEntry} (h : f.ReadFrom d) :
    f.MissesValues ↔ d.LacksTable := by
  rw [FieldEntry.MissesValues, Doc.LacksTable, h.type, Option.some.injEq,
    eq_none_iff_of_rel h.table]

/-! ### The failure of a document -/

theorem failure?_eq_none_iff_exists {ε α : Type} {x : Except ε α} :
    failure? x = none ↔ ∃ a, x = .ok a := by
  cases x <;> simp [failure?]

theorem findSome?_flatMap {α β γ : Type} {f : α → List β} {g : β → Option γ} {l : List α} :
    (l.flatMap f).findSome? g = l.findSome? fun a => (f a).findSome? g := by
  induction l with
  | nil => rfl
  | cons a l ih =>
    rw [List.flatMap_cons, List.findSome?_append, ih, List.findSome?_cons]
    cases (f a).findSome? g <;> rfl

/-- What is wrong with a place. -/
def Json.Place.fault? (p : Place) : Option LoadError :=
  if p.field.LacksTable then some (.missingEnumValues p.modelName p.fieldName) else none

namespace Json.Place
variable {p : Place}

theorem fault?_eq_none_iff : p.fault? = none ↔ ¬ p.field.LacksTable := by
  rw [fault?]
  split <;> simp [*]

theorem fault?_eq_some_iff {e : LoadError} : p.fault? = some e ↔
    p.field.LacksTable ∧ e = .missingEnumValues p.modelName p.fieldName := by
  rw [fault?]
  split <;> simp [*, eq_comm]

end Json.Place

theorem ModelEntry.ReadFrom.failure?_toModel {key : String} {d : Doc} {m : ModelEntry}
    (h : m.ReadFrom d) : failure? (m.toModel key) =
      ((kept (modelRecord.mapMembers "fields" d)).map fun f =>
        (⟨key, d, f.1, f.2⟩ : Place)).findSome? Place.fault? := by
  rw [ModelEntry.failure?_toModel, List.findSome?_map]
  refine (h.fields.entrywise.findSome?_eq fun fieldKey v f hf => ?_).symm
  have hread := (FieldEntry.ofDoc_readFrom hf).2
  simp only [Function.comp_apply, Place.fault?, Place.modelName, Place.fieldName,
    FieldEntry.failure?_toField, hread.missesValues_iff, hread.name, h.name]

theorem failure?_modelEntries {root : Doc} {entries : OrderedMap ModelEntry}
    (h : modelEntries root = .ok entries) :
    failure? (convertEntries ModelEntry.toModel entries) = root.places.findSome? Place.fault? := by
  rw [failure?_convertEntries, Doc.places, findSome?_flatMap]
  refine ((modelEntries_eq_ok h).2.entrywise.findSome?_eq fun key d m hm => ?_).symm
  exact (ModelEntry.ofDoc_readFrom hm).2.failure?_toModel.symm

/-- A text is a schema if and only if it can be decoded and no field that counts lacks a table. Otherwise
the fault of decoding is reported, or else the first field without a table. -/
theorem Schema.ofText_eq_error_iff_lacksTable (text : String) :
    ((∃ s, ofText text = .ok s) ↔
      (∃ entries, (Json.Document.ofText text).decode modelEntries = .ok entries) ∧
        ∀ p ∈ (Json.Document.ofText text).root.places, ¬ p.field.LacksTable) ∧
    ∀ e, ofText text = .error e ↔
      (∃ f, (Json.Document.ofText text).decode modelEntries = .error f ∧ e = .json f) ∨
        (∃ entries, (Json.Document.ofText text).decode modelEntries = .ok entries) ∧
          ∃ before p after, (Json.Document.ofText text).root.places = before ++ p :: after ∧
            (∀ q ∈ before, ¬ q.field.LacksTable) ∧ p.field.LacksTable ∧
            e = .missingEnumValues p.modelName p.fieldName := by
  cases hdecode : (Json.Document.ofText text).decode modelEntries with
  | error f =>
    have hload : ofText text = .error (.json f) := by rw [ofText, hdecode]
    simp [hload, eq_comm]
  | ok entries =>
    have hload : failure? (ofText text) =
        (Json.Document.ofText text).root.places.findSome? Place.fault? := by
      rw [ofText, hdecode, ← failure?_modelEntries (Document.decode_eq_ok.1 hdecode).1]
      exact failure?_map _ _
    constructor
    · rw [← failure?_eq_none_iff_exists, hload, List.findSome?_eq_none_iff]
      simp [Place.fault?_eq_none_iff]
    · intro e
      rw [← failure?_eq_some_iff, hload, List.findSome?_eq_some_iff]
      simp only [Place.fault?_eq_none_iff, Place.fault?_eq_some_iff, reduceCtorEq, false_and,
        exists_false, false_or, Except.ok.injEq, exists_eq', true_and]
      exact exists₃_congr fun _ _ _ => and_congr_right fun _ => and_comm

/-- The first occurrence of `A` puts it before `B`, and the last one leaves it without a table. -/
example : Schema.ofText ("\x7b\"models\":\x7b\"A\":\x7b\x7d," ++
    "\"B\":\x7b\"fields\":\x7b\"y\":\x7b\"type\":\"enum\"\x7d\x7d\x7d," ++
    "\"A\":\x7b\"fields\":\x7b\"x\":\x7b\"type\":\"enum\",\"values\":null\x7d\x7d\x7d\x7d\x7d") =
      .error (.missingEnumValues "A" "x") := by
  decide +kernel

end GraphDecl
