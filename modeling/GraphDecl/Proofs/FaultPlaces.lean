import GraphDecl.Proofs.Accepted
import GraphDecl.Proofs.Emitted
import GraphDecl.Proofs.UnknownTypes

/-!
# Where a fault is

A schema is loaded, checked and declared entry by entry, so whatever fails does so for the first entry
at fault (`OrderedMap.findSome?_eq_some_iff`). Four kinds of failure say where that is, in which model
and at which field or reference. Some of them give the key and some the name, so they lead to the place
of the fault where the two are the same (`Generator.error_places`).
-/

namespace GraphDecl

/-! ### Failures of runs -/

section
variable {ε α β : Type}

/-- The failure that comes of a run, if it has one. -/
def failure? : Except ε α → Option ε
  | .ok _ => none
  | .error e => some e

theorem failure?_eq_some_iff {x : Except ε α} {e : ε} : failure? x = some e ↔ x = .error e := by
  cases x <;> simp [failure?]

theorem failure?_eq_none_iff {x : Except ε Unit} : failure? x = none ↔ x = .ok () := by
  cases x <;> simp [failure?]

theorem failure?_map (f : α → β) (x : Except ε α) : failure? (x.map f) = failure? x := by
  cases x <;> rfl

/-- A traversal fails as the first of its steps that does. -/
theorem failure?_mapM (f : α → Except ε β) (l : List α) :
    failure? (l.mapM f) = l.findSome? fun a => failure? (f a) := by
  induction l with
  | nil => rfl
  | cons a l ih =>
    rw [List.mapM_cons, List.findSome?_cons, ← ih]
    cases f a with
    | error e => rfl
    | ok b => exact failure?_map (b :: ·) (l.mapM f)

namespace Logged

theorem failure?_then (x : Logged ε Unit) (y : Logged ε α) :
    failure? (x >>= fun _ => y).outcome = (failure? x.outcome).or (failure? y.outcome) := by
  cases h : x.outcome with
  | error e => rw [bind_error h]; rfl
  | ok u => rw [bind_ok h]; rfl

theorem failure?_forM (f : α → Logged ε Unit) (l : List α) :
    failure? (l.forM f).outcome = l.findSome? fun a => failure? (f a).outcome := by
  induction l with
  | nil => rfl
  | cons a l ih =>
    rw [List.forM_eq_forM, List.forM_cons, failure?_then, List.findSome?_cons, ← ih]
    cases failure? (f a).outcome <;> rfl

theorem outcome_forM_eq_error {f : α → Logged ε Unit} {l : List α} {e : ε} :
    (l.forM f).outcome = .error e ↔ ∃ before a after, l = before ++ a :: after ∧
      (∀ x ∈ before, (f x).outcome = .ok ()) ∧ (f a).outcome = .error e := by
  rw [← failure?_eq_some_iff, failure?_forM, List.findSome?_eq_some_iff]
  simp only [failure?_eq_some_iff, failure?_eq_none_iff, and_comm]

end Logged
end

namespace OrderedMap
variable {α β : Type}

/-- The entry of `key` is the first of which `p` holds. -/
def IsFirst (m : OrderedMap α) (p : String → α → Prop) (key : String) (v : α) : Prop :=
  ∃ before after, m.entries = before ++ (key, v) :: after ∧ (∀ e ∈ before, ¬ p e.1 e.2) ∧ p key v

theorem findSome?_eq_some_iff {m : OrderedMap α} {f : String → α → Option β} {p : String → α → Prop}
    (hp : ∀ key v, f key v = none ↔ ¬ p key v) {b : β} :
    m.entries.findSome? (fun e => f e.1 e.2) = some b ↔
      ∃ key v, m.IsFirst p key v ∧ f key v = some b := by
  rw [List.findSome?_eq_some_iff]
  constructor
  · rintro ⟨before, ⟨key, v⟩, after, hm, hb, hbefore⟩
    have hv : p key v := by
      by_contra h
      rw [(hp key v).2 h] at hb
      cases hb
    exact ⟨key, v, ⟨before, after, hm, fun e he => (hp e.1 e.2).1 (hbefore e he), hv⟩, hb⟩
  · rintro ⟨key, v, ⟨before, after, hm, hbefore, -⟩, hb⟩
    exact ⟨before, (key, v), after, hm, hb, fun e he => (hp e.1 e.2).2 (hbefore e he)⟩

theorem findSome?_ite_eq_some_iff {m : OrderedMap α} (p : String → α → Prop)
    [∀ key v, Decidable (p key v)] (fault : String → α → β) {b : β} :
    m.entries.findSome? (fun e => if p e.1 e.2 then some (fault e.1 e.2) else none) = some b ↔
      ∃ key v, m.IsFirst p key v ∧ b = fault key v := by
  have hnone : ∀ key v, (if p key v then some (fault key v) else none) = none ↔ ¬ p key v := by
    intro key v
    split <;> simp [*]
  refine (findSome?_eq_some_iff hnone).trans ?_
  refine exists_congr fun key => exists_congr fun v => and_congr_right fun hfirst => ?_
  obtain ⟨-, -, -, -, hv⟩ := hfirst
  rw [if_pos hv, Option.some.injEq, eq_comm]

end OrderedMap

/-! ### Loading -/

/-- An enum for which the document has no table of values. -/
def FieldEntry.MissesValues (f : FieldEntry) : Prop := f.type = "enum" ∧ f.values = none

instance (f : FieldEntry) : Decidable f.MissesValues :=
  inferInstanceAs (Decidable (f.type = "enum" ∧ f.values = none))

/-- Some enum of the model misses its values. -/
def ModelEntry.MissesValues (m : ModelEntry) : Prop := ∃ e ∈ m.fields.entries, e.2.MissesValues

theorem failure?_convertEntries {α β : Type} (convert : String → α → Except LoadError β)
    (m : OrderedMap α) : failure? (convertEntries convert m) =
      m.entries.findSome? fun e => failure? (convert e.1 e.2) := by
  have hentry : ∀ e : String × α,
      failure? (do return (e.1, ← convert e.1 e.2)) = failure? (convert e.1 e.2) :=
    fun e => failure?_map (e.1, ·) (convert e.1 e.2)
  refine (failure?_map _ _).trans ((failure?_mapM _ _).trans ?_)
  simp only [hentry]

theorem FieldEntry.failure?_toField (model key : String) (f : FieldEntry) :
    failure? (f.toField model key) =
      if f.MissesValues then some (.missingEnumValues model (f.name.getD key)) else none := by
  rw [toField]
  by_cases htype : f.type = "enum"
  · rw [if_pos htype]
    cases hvalues : f.values with
    | none => exact (if_pos ⟨htype, hvalues⟩).symm
    | some values =>
      have hnot : ¬ f.MissesValues := fun h => by cases hvalues.symm.trans h.2
      rw [if_neg hnot]
      rfl
  · rw [if_neg htype, if_neg fun h => htype h.1]
    rfl

namespace ModelEntry
variable {key : String} {m : ModelEntry}

theorem failure?_toModel (key : String) (m : ModelEntry) : failure? (m.toModel key) =
    m.fields.entries.findSome? fun e => failure? (e.2.toField (m.name.getD key) e.1) :=
  (failure?_map _ _).trans (failure?_convertEntries _ _)

theorem failure?_toModel_eq_none : failure? (m.toModel key) = none ↔ ¬ m.MissesValues := by
  rw [failure?_toModel, List.findSome?_eq_none_iff]
  simp [FieldEntry.failure?_toField, MissesValues]

/-- A model cannot be made if an enum misses its values. The first of them is the failure. -/
theorem failure?_toModel_eq_some {e : LoadError} : failure? (m.toModel key) = some e ↔
    ∃ fieldKey f, m.fields.IsFirst (fun _ f => f.MissesValues) fieldKey f ∧
      e = .missingEnumValues (m.name.getD key) (f.name.getD fieldKey) := by
  rw [failure?_toModel]
  simp only [FieldEntry.failure?_toField]
  exact OrderedMap.findSome?_ite_eq_some_iff (fun _ (f : FieldEntry) => f.MissesValues)
    fun fieldKey f => LoadError.missingEnumValues (m.name.getD key) (f.name.getD fieldKey)

end ModelEntry

/-- A text is no schema if it cannot be decoded, or else if an enum misses its values, and then for the
first such enum in the first model that has any. -/
theorem Schema.ofText_eq_error {text : String} {e : LoadError} : ofText text = .error e ↔
    (∃ f, (Json.Document.ofText text).decode modelEntries = .error f ∧ e = .json f) ∨
      ∃ entries, (Json.Document.ofText text).decode modelEntries = .ok entries ∧
        ∃ key m, entries.IsFirst (fun _ m => m.MissesValues) key m ∧
          ∃ fieldKey f, m.fields.IsFirst (fun _ f => f.MissesValues) fieldKey f ∧
            e = .missingEnumValues (m.name.getD key) (f.name.getD fieldKey) := by
  have hnone : ∀ key (m : ModelEntry), failure? (m.toModel key) = none ↔ ¬ m.MissesValues :=
    fun _ _ => ModelEntry.failure?_toModel_eq_none
  rw [ofText]
  cases (Json.Document.ofText text).decode modelEntries with
  | error f => simp [eq_comm]
  | ok entries =>
    simp only [reduceCtorEq, false_and, exists_false, false_or, Except.ok.injEq, exists_eq_left']
    rw [← failure?_eq_some_iff, failure?_map, failure?_convertEntries]
    refine (OrderedMap.findSome?_eq_some_iff hnone).trans ?_
    simp only [ModelEntry.failure?_toModel_eq_some]

/-! ### Validation -/

/-- An enum whose table of values is empty. -/
def Field.EmptyEnum (f : Field) : Prop := f.type = .enumeration .empty

instance (f : Field) : Decidable f.EmptyEnum :=
  inferInstanceAs (Decidable (f.type = .enumeration .empty))

theorem OrderedMap.isEmpty_iff {α : Type} {m : OrderedMap α} : m.isEmpty = true ↔ m = .empty := by
  rw [isEmpty, List.isEmpty_iff]
  exact ⟨fun h => ext h, fun h => congrArg entries h⟩

namespace Schema
variable {s : Schema}

theorem failure?_checkReference (m : Model) (field target : String) :
    failure? (s.checkReference m field target).outcome =
      if field ∉ m.fields.keys then some (.referenceWithoutField m.name field) else none := by
  rw [checkReference]
  by_cases hfield : field ∈ m.fields.keys
  · rw [if_pos (Model.hasField_iff.2 hfield), if_neg (not_not_intro hfield)]
    split <;> rfl
  · rw [if_neg fun h => hfield (Model.hasField_iff.1 h), if_pos hfield]
    rfl

theorem failure?_checkField (m : Model) (f : Field) : failure? (checkField m f).outcome =
    if f.EmptyEnum then some (.emptyEnum m.name f.name) else none := by
  by_cases hempty : f.EmptyEnum
  · rw [if_pos hempty, checkField, hempty]
    rfl
  · rw [if_neg hempty, failure?_eq_none_iff, checkField_eq_ok_iff]
    intro values hvalues
    rw [← Bool.not_eq_true, OrderedMap.isEmpty_iff]
    exact fun h => hempty (hvalues.trans (congrArg _ h))

/-- A model is refused for the first reference that belongs to no field, or else for the first enum
without values. -/
theorem checkModel_eq_error {m : Model} {e : SchemaError} :
    (s.checkModel m).outcome = .error e ↔
      (∃ field target, m.references.IsFirst (fun field _ => field ∉ m.fields.keys) field target ∧
        e = .referenceWithoutField m.name field) ∨
      (∀ field ∈ m.references.keys, field ∈ m.fields.keys) ∧
        ∃ key f, m.fields.IsFirst (fun _ f => f.EmptyEnum) key f ∧ e = .emptyEnum m.name f.name := by
  rw [← failure?_eq_some_iff, checkModel, Logged.failure?_then, Option.or_eq_some_iff,
    Logged.failure?_forM, Logged.failure?_forM]
  simp only [failure?_checkReference, failure?_checkField]
  refine or_congr ?_ (and_congr ?_ ?_)
  · exact OrderedMap.findSome?_ite_eq_some_iff (fun field (_ : String) => field ∉ m.fields.keys)
      fun field _ => SchemaError.referenceWithoutField m.name field
  · simp only [List.findSome?_eq_none_iff, ite_eq_right_iff, reduceCtorEq, imp_false, not_not]
    exact List.forall_mem_map.symm
  · exact OrderedMap.findSome?_ite_eq_some_iff (fun _ (f : Field) => f.EmptyEnum)
      fun _ f => SchemaError.emptyEnum m.name f.name

/-- A schema is refused for the first model that is not sound. -/
theorem validate_eq_error {e : SchemaError} : s.validate.outcome = .error e ↔
    ∃ key m, s.models.IsFirst (fun _ m => ¬ m.Sound) key m ∧ (s.checkModel m).outcome = .error e := by
  have hmodel : ∀ (key : String) m, failure? (s.checkModel m).outcome = none ↔ ¬ ¬ m.Sound := by
    intro key m
    rw [failure?_eq_none_iff, checkModel_eq_ok_iff, not_not]
  rw [← failure?_eq_some_iff, validate, Logged.failure?_forM]
  refine (OrderedMap.findSome?_eq_some_iff hmodel).trans ?_
  simp only [failure?_eq_some_iff]

end Schema

/-! ### Places -/

theorem getD_eq_iff {o : Option String} {key : String} :
    o.getD key = key ↔ ∀ name, o = some name → name = key := by
  cases o <;> simp

namespace Generator
variable {E P D : Type} (g : Generator E P D)

theorem declarations_eq_error_first {s : Schema} {e : GenerateError} :
    (g.declarations s).outcome = .error e ↔ g.options.unknownTypes = .reject ∧
      ∃ model m key f name, s.models.IsFirst (fun _ m => ¬ m.Known) model m ∧
        m.fields.IsFirst (fun _ f => ¬ f.Known) key f ∧ f.type = .unknown name ∧
        e = .unknownType model f.name name := by
  rw [outcome_eq_error_iff_first, and_congr_right_iff]
  intro _
  constructor
  · rintro ⟨before, model, m, after, before', key, f, after', name, hm, hbefore, hf, hbefore', hname,
      rfl⟩
    have hfield : ¬ f.Known := fun h => h name hname
    have hmodel : ¬ m.Known := fun h => hfield (h (key, f) (by simp [hf]))
    exact ⟨model, m, key, f, name, ⟨before, after, hm, fun x hx => not_not_intro (hbefore x hx), hmodel⟩,
      ⟨before', after', hf, fun x hx => not_not_intro (hbefore' x hx), hfield⟩, hname, rfl⟩
  · rintro ⟨model, m, key, f, name, ⟨before, after, hm, hbefore, -⟩, ⟨before', after', hf, hbefore', -⟩,
      hname, rfl⟩
    exact ⟨before, model, m, after, before', key, f, after', name, hm,
      fun x hx => not_not.1 (hbefore x hx), hf, fun x hx => not_not.1 (hbefore' x hx), hname, rfl⟩

/-- Each of the four failures that name a model and a field is for the first model at fault and in it
for the first field or reference. Loading and the check of enums give both by name, the check of
references gives the model by name and the reference by key, and generation gives the model by key and
the field by name. So the place of the fault is named where names and keys are the same. -/
theorem error_places :
    (∀ text model field, Schema.ofText text = .error (.missingEnumValues model field) →
      ∃ entries key m fieldKey f, (Json.Document.ofText text).decode modelEntries = .ok entries ∧
        entries.IsFirst (fun _ m => m.MissesValues) key m ∧
        m.fields.IsFirst (fun _ f => f.MissesValues) fieldKey f ∧
        model = m.name.getD key ∧ field = f.name.getD fieldKey ∧
        (model = key ↔ ∀ name, m.name = some name → name = key) ∧
        (field = fieldKey ↔ ∀ name, f.name = some name → name = fieldKey)) ∧
    (∀ (s : Schema) model field, s.validate.outcome = .error (.referenceWithoutField model field) →
      ∃ key m target, s.models.IsFirst (fun _ m => ¬ m.Sound) key m ∧
        m.references.IsFirst (fun field _ => field ∉ m.fields.keys) field target ∧
        model = m.name ∧ (model = key ↔ m.name = key)) ∧
    (∀ (s : Schema) model field, s.validate.outcome = .error (.emptyEnum model field) →
      ∃ key m fieldKey f, s.models.IsFirst (fun _ m => ¬ m.Sound) key m ∧
        m.fields.IsFirst (fun _ f => f.EmptyEnum) fieldKey f ∧ model = m.name ∧ field = f.name ∧
        (model = key ↔ m.name = key) ∧ (field = fieldKey ↔ f.name = fieldKey)) ∧
    ∀ s model field type, (g.declarations s).outcome = .error (.unknownType model field type) →
      ∃ m fieldKey f, s.models.IsFirst (fun _ m => ¬ m.Known) model m ∧
        m.fields.IsFirst (fun _ f => ¬ f.Known) fieldKey f ∧ field = f.name ∧
        (field = fieldKey ↔ f.name = fieldKey) := by
  -- in each phase the error says which of its kinds of fault it is, and the others are excluded
  refine ⟨fun text model field h => ?_, fun s model field h => ?_, fun s model field h => ?_,
    fun s model field type h => ?_⟩
  · rcases Schema.ofText_eq_error.1 h with
      ⟨f, -, he⟩ | ⟨entries, hentries, key, m, hm, fieldKey, f, hf, he⟩
    · cases he
    · cases he
      exact ⟨entries, key, m, fieldKey, f, hentries, hm, hf, rfl, rfl, getD_eq_iff, getD_eq_iff⟩
  · obtain ⟨key, m, hm, h⟩ := Schema.validate_eq_error.1 h
    rcases Schema.checkModel_eq_error.1 h with ⟨field, target, hfield, he⟩ | ⟨-, fieldKey, f, -, he⟩
    · cases he
      exact ⟨key, m, target, hm, hfield, rfl, Iff.rfl⟩
    · cases he
  · obtain ⟨key, m, hm, h⟩ := Schema.validate_eq_error.1 h
    rcases Schema.checkModel_eq_error.1 h with ⟨field, target, -, he⟩ | ⟨-, fieldKey, f, hf, he⟩
    · cases he
    · cases he
      exact ⟨key, m, fieldKey, f, hm, hf, rfl, rfl, Iff.rfl, Iff.rfl⟩
  · obtain ⟨-, model, m, fieldKey, f, name, hm, hf, -, he⟩ := g.declarations_eq_error_first.1 h
    cases he
    exact ⟨m, fieldKey, f, hm, hf, rfl, Iff.rfl⟩

end Generator

/-- Two models of one name, each with a field. -/
def twins (left right : FieldType) : Schema :=
  (Schema.empty.insert "A" (.withField (.new "Shared") (.new "state" left))).insert "B"
    (.withField (.new "Shared") (.new "state" right))

/-- An enum without values gives the same error in either of the two models. -/
theorem twins_confused :
    ∃ s t e, s = twins (.enumeration .empty) .string ∧ t = twins .string (.enumeration .empty) ∧
      s.models.keys = ["A", "B"] ∧ t.models.keys = ["A", "B"] ∧
      s.validate.outcome = .error e ∧ t.validate.outcome = .error e ∧
      e = .emptyEnum "Shared" "state" :=
  ⟨_, _, _, rfl, rfl, rfl, rfl, rfl, rfl, rfl⟩

end GraphDecl
