import GraphDecl.Proofs.Reports

/-!
# Fields of unknown type

`Schema.unknownFields` lists the fields of unknown type, in the order of the models and in each in that
of its fields. Where such types are refused, a run fails for the first of these fields and for nothing
else (`outcome_survey_of_reject`). Where they are let through, it succeeds and warns of each of them
(`warnings_survey_of_permissive`). What is declared depends on neither (`result_withUnknownTypes`), so
without such fields both runs are the same.
-/

namespace GraphDecl

/-- A field of unknown type: the key of its model, its name and the name of the type. -/
structure UnknownField where
  model : String
  field : String
  type : String

namespace UnknownField

def error (u : UnknownField) : GenerateError := .unknownType u.model u.field u.type

def warning (u : UnknownField) : Event := .unknownType u.type u.field u.model

end UnknownField

namespace Field
variable {f : Field}

/-- The type of the field is none that the schema only names. -/
def Known (f : Field) : Prop := ∀ name, f.type ≠ .unknown name

/-- A field of the model under the key `model`, if its type is unknown. -/
def unknown? (model : String) (f : Field) : Option UnknownField :=
  match f.type with
  | .unknown name => some ⟨model, f.name, name⟩
  | _ => none

theorem unknown?_eq_none_iff {model : String} : f.unknown? model = none ↔ f.Known := by
  rw [unknown?, Known]
  cases f.type <;> simp

theorem unknown?_eq_some_iff {model : String} {u : UnknownField} :
    f.unknown? model = some u ↔ ∃ name, f.type = .unknown name ∧ u = ⟨model, f.name, name⟩ := by
  rw [unknown?]
  cases f.type with
  | unknown name => simp [eq_comm]
  | string | integer | float | enumeration values => simp

end Field

namespace Model

/-- The types of all fields are known. -/
def Known (m : Model) : Prop := ∀ e ∈ m.fields.entries, e.2.Known

/-- The fields of unknown type of the model under the key `model`. -/
def unknownFields (model : String) (m : Model) : List UnknownField :=
  m.fields.entries.filterMap fun e => e.2.unknown? model

theorem unknownFields_eq_nil_iff {model : String} {m : Model} :
    m.unknownFields model = [] ↔ m.Known := by
  rw [unknownFields, List.filterMap_eq_nil_iff]
  simp only [Field.unknown?_eq_none_iff, Known]

theorem head?_unknownFields_eq_some_iff {model : String} {m : Model} {u : UnknownField} :
    (m.unknownFields model).head? = some u ↔ ∃ before key f after name,
      m.fields.entries = before ++ (key, f) :: after ∧ (∀ e ∈ before, e.2.Known) ∧
        f.type = .unknown name ∧ u = ⟨model, f.name, name⟩ := by
  rw [unknownFields, List.head?_filterMap, List.findSome?_eq_some_iff]
  simp only [Field.unknown?_eq_some_iff, Field.unknown?_eq_none_iff]
  constructor
  · rintro ⟨before, ⟨key, f⟩, after, hfields, ⟨name, hname, hu⟩, hbefore⟩
    exact ⟨before, key, f, after, name, hfields, hbefore, hname, hu⟩
  · rintro ⟨before, key, f, after, name, hfields, hbefore, hname, hu⟩
    exact ⟨before, (key, f), after, hfields, ⟨name, hname, hu⟩, hbefore⟩

end Model

namespace Schema

/-- The fields of unknown type, model by model. -/
def unknownFields (s : Schema) : List UnknownField :=
  s.models.entries.flatMap fun e => e.2.unknownFields e.1

theorem unknownFields_eq_nil_iff {s : Schema} :
    s.unknownFields = [] ↔ ∀ e ∈ s.models.entries, e.2.Known := by
  rw [unknownFields, List.flatMap_eq_nil_iff]
  simp only [Model.unknownFields_eq_nil_iff]

theorem head?_unknownFields_eq_some_iff {s : Schema} {u : UnknownField} :
    s.unknownFields.head? = some u ↔ ∃ before key m after,
      s.models.entries = before ++ (key, m) :: after ∧ (∀ e ∈ before, e.2.Known) ∧
        (m.unknownFields key).head? = some u := by
  rw [unknownFields, List.head?_flatMap, List.findSome?_eq_some_iff]
  simp only [List.head?_eq_none_iff, Model.unknownFields_eq_nil_iff]
  constructor
  · rintro ⟨before, ⟨key, m⟩, after, hmodels, hu, hbefore⟩
    exact ⟨before, key, m, after, hmodels, hbefore, hu⟩
  · rintro ⟨before, key, m, after, hmodels, hbefore, hu⟩
    exact ⟨before, (key, m), after, hmodels, hu, hbefore⟩

end Schema

/-! ### Refusing -/

namespace Options
variable {o : Options}

section
variable (ho : o.unknownTypes = .reject)
include ho

theorem outcome_surveyType_of_reject (model : String) (f : Field) :
    (o.surveyType model f).outcome = Logged.first ((f.unknown? model).toList.map (·.error)) := by
  rw [surveyType, Field.unknown?, ho]
  cases f.type <;> rfl

theorem outcome_surveyFields_of_reject (model : String) (m : Model) :
    (o.surveyFields model m).outcome =
      Logged.first ((m.unknownFields model).map (·.error)) := by
  have hfield : ∀ e ∈ m.fields.entries, (o.surveyField model m e.1 e.2).outcome =
      Logged.first ((e.2.unknown? model).toList.map (·.error)) := by
    intro e _
    rw [← outcome_surveyType_of_reject ho, surveyField]
    cases h : (o.surveyType model e.2).outcome with
    | error err => rw [Logged.bind_error h]
    | ok u =>
      rw [Logged.bind_ok h]
      cases m.reference? e.1 <;> rfl
  rw [surveyFields, Logged.outcome_forM_eq_first hfield, ← List.map_flatMap, Model.unknownFields,
    List.filterMap_eq_flatMap_toList]

end
end Options

namespace Generator
variable {E P D : Type} {g : Generator E P D}

/-- Where unknown types are refused, a run fails for the first field of unknown type, and for nothing
else. -/
theorem outcome_survey_of_reject (hg : g.options.unknownTypes = .reject) (s : Schema) :
    (g.survey s).outcome = Logged.first (s.unknownFields.map (·.error)) := by
  have hmodel : ∀ e ∈ s.models.entries, (g.surveyModel e.1 e.2).outcome =
      Logged.first ((e.2.unknownFields e.1).map (·.error)) := by
    intro e _
    rw [← Options.outcome_surveyFields_of_reject hg, surveyModel,
      Logged.bind_ok (x := Logged.emit (.entered e.1)) rfl]
    cases h : (g.options.surveyFields e.1 e.2).outcome with
    | error err => rw [Logged.bind_error h]
    | ok u => rw [Logged.bind_ok h]; rfl
  rw [survey, Logged.outcome_forM_eq_first hmodel, ← List.map_flatMap, Schema.unknownFields]

theorem unknownFields_eq_nil_of_reject (hg : g.options.unknownTypes = .reject) {s : Schema}
    (h : (g.survey s).outcome = .ok ()) : s.unknownFields = [] := by
  rw [outcome_survey_of_reject hg, Logged.first_eq_ok] at h
  exact List.map_eq_nil_iff.1 h

theorem outcome_survey_of_permissive (hg : g.options.unknownTypes = .permissive) (s : Schema) :
    (g.survey s).outcome = .ok () := by
  refine (g.survey_eq_ok_iff_accepts s).2 fun e _ f _ hreject => ?_
  rw [hg] at hreject
  cases hreject

/-- Whether and why a run fails depends on no other choice than that about unknown types. -/
theorem outcome_survey_congr {E' P' D' : Type} {g' : Generator E' P' D'}
    (h : g'.options.unknownTypes = g.options.unknownTypes) (s : Schema) :
    (g'.survey s).outcome = (g.survey s).outcome := by
  cases hg : g.options.unknownTypes with
  | reject => rw [outcome_survey_of_reject hg, outcome_survey_of_reject (h.trans hg)]
  | permissive => rw [outcome_survey_of_permissive hg, outcome_survey_of_permissive (h.trans hg)]

/-- A run fails if and only if unknown types are refused and there are any, and then for the first. -/
theorem outcome_eq_error_iff_head? {s : Schema} {e : GenerateError} :
    (g.declarations s).outcome = .error e ↔ g.options.unknownTypes = .reject ∧
      ∃ u, s.unknownFields.head? = some u ∧ e = u.error := by
  rw [declarations_eq_error]
  cases hg : g.options.unknownTypes with
  | reject =>
    rw [outcome_survey_of_reject hg, Logged.first_eq_error, List.head?_map, Option.map_eq_some_iff]
    simp only [true_and, eq_comm]
  | permissive => simp [outcome_survey_of_permissive hg]

/-- The failure is for the first field of unknown type, in the order of the models and in its model in
that of the fields. -/
theorem outcome_eq_error_iff_first {s : Schema} {e : GenerateError} :
    (g.declarations s).outcome = .error e ↔ g.options.unknownTypes = .reject ∧
      ∃ before model m after before' key f after' name,
        s.models.entries = before ++ (model, m) :: after ∧ (∀ x ∈ before, x.2.Known) ∧
        m.fields.entries = before' ++ (key, f) :: after' ∧ (∀ x ∈ before', x.2.Known) ∧
        f.type = .unknown name ∧ e = .unknownType model f.name name := by
  rw [outcome_eq_error_iff_head?, and_congr_right_iff]
  intro _
  simp only [Schema.head?_unknownFields_eq_some_iff, Model.head?_unknownFields_eq_some_iff]
  constructor
  · rintro ⟨u, ⟨before, model, m, after, hmodels, hbefore,
      before', key, f, after', name, hfields, hbefore', hname, rfl⟩, he⟩
    exact ⟨before, model, m, after, before', key, f, after', name, hmodels, hbefore, hfields,
      hbefore', hname, he⟩
  · rintro ⟨before, model, m, after, before', key, f, after', name, hmodels, hbefore, hfields,
      hbefore', hname, he⟩
    exact ⟨⟨model, f.name, name⟩, ⟨before, model, m, after, hmodels, hbefore,
      before', key, f, after', name, hfields, hbefore', hname, rfl⟩, he⟩

theorem fails_of_unknown (hg : g.options.unknownTypes = .reject) {s : Schema} {model key : String}
    {m : Model} (hm : s.models.get? model = some m) {f : Field} (hf : m.fields.get? key = some f)
    {name : String} (hname : f.type = .unknown name) :
    ∃ e, (g.declarations s).outcome = .error e := by
  cases hfields : s.unknownFields with
  | nil =>
    have hknown := Schema.unknownFields_eq_nil_iff.1 hfields _ (OrderedMap.get?_eq_some_iff.1 hm)
    exact absurd hname (hknown _ (OrderedMap.get?_eq_some_iff.1 hf) name)
  | cons u us =>
    exact ⟨u.error, outcome_eq_error_iff_head?.2 ⟨hg, u, by rw [hfields]; rfl, rfl⟩⟩

/-- A run fails if and only if unknown types are refused and a field has one. The failure is then for
the first such field in the order of the models and in its model in that of the fields, and it has the
key of the model, the name of the field and the name of the type. With the same choice and the same
fields of unknown type all runs fail alike, whatever else there is in the schema and the options. -/
theorem outcome_eq_error_iff (g : Generator E P D) (s : Schema) :
    ((∃ e, (g.declarations s).outcome = .error e) ↔ g.options.unknownTypes = .reject ∧
      ∃ model m key f name, s.models.get? model = some m ∧ m.fields.get? key = some f ∧
        f.type = .unknown name) ∧
    (∀ e, (g.declarations s).outcome = .error e ↔ g.options.unknownTypes = .reject ∧
      ∃ before model m after before' key f after' name,
        s.models.entries = before ++ (model, m) :: after ∧ (∀ x ∈ before, x.2.Known) ∧
        m.fields.entries = before' ++ (key, f) :: after' ∧ (∀ x ∈ before', x.2.Known) ∧
        f.type = .unknown name ∧ e = .unknownType model f.name name) ∧
    ∀ (g' : Generator E P D) (t : Schema) (e : GenerateError),
      g'.options.unknownTypes = g.options.unknownTypes → t.unknownFields = s.unknownFields →
        ((g'.declarations t).outcome = .error e ↔ (g.declarations s).outcome = .error e) := by
  refine ⟨⟨?_, ?_⟩, fun e => outcome_eq_error_iff_first, fun g' t e hpolicy hfields => ?_⟩
  · rintro ⟨e, he⟩
    obtain ⟨hreject, before, model, m, after, before', key, f, after', name, hmodels, -, hfields, -,
      hname, -⟩ := outcome_eq_error_iff_first.1 he
    exact ⟨hreject, model, m, key, f, name, OrderedMap.get?_eq_some_iff.2 (by simp [hmodels]),
      OrderedMap.get?_eq_some_iff.2 (by simp [hfields]), hname⟩
  · rintro ⟨hreject, model, m, key, f, name, hm, hf, hname⟩
    exact fails_of_unknown hreject hm hf hname
  · rw [outcome_eq_error_iff_head?, outcome_eq_error_iff_head?, hpolicy, hfields]

end Generator

/-! ### Letting through -/

namespace Options
variable {o : Options}

theorem surveyField_of_known (o o' : Options) {f : Field} (hf : f.Known) (model : String) (m : Model)
    (key : String) : o.surveyField model m key f = o'.surveyField model m key f := by
  have hpure : ∀ o : Options, o.surveyType model f = pure () := by
    intro o
    rw [surveyType]
    cases htype : f.type with
    | unknown name => exact absurd htype (hf name)
    | string | integer | float | enumeration values => rfl
  rw [surveyField, surveyField, hpure, hpure]

theorem surveyFields_of_known (o o' : Options) {m : Model} (hm : m.Known) (model : String) :
    o.surveyFields model m = o'.surveyFields model m :=
  Logged.forM_congr fun e he => surveyField_of_known o o' (hm e he) model m e.1

section
variable (ho : o.unknownTypes = .permissive)
include ho

theorem warnings_surveyType_of_permissive (model : String) (f : Field) :
    (o.surveyType model f).warnings = (f.unknown? model).toList.map (·.warning) := by
  rw [surveyType, Field.unknown?, ho]
  cases f.type <;> rfl

theorem outcome_surveyType_of_permissive (model : String) (f : Field) :
    (o.surveyType model f).outcome = .ok () := by
  rw [surveyType_eq_ok_iff, Accepts, ho]
  exact fun h => by cases h

theorem warnings_surveyField_of_permissive (model : String) (m : Model) (key : String) (f : Field) :
    (o.surveyField model m key f).warnings = (f.unknown? model).toList.map (·.warning) := by
  rw [surveyField, Logged.warnings_then_of_ok (outcome_surveyType_of_permissive ho model f),
    warnings_surveyType_of_permissive ho]
  cases m.reference? key <;> exact List.append_nil _

theorem outcome_surveyFields_of_permissive (model : String) (m : Model) :
    (o.surveyFields model m).outcome = .ok () := by
  rw [surveyFields_eq_ok_iff]
  intro e _
  exact (o.surveyType_eq_ok_iff model e.2).1 (outcome_surveyType_of_permissive ho model e.2)

theorem warnings_surveyFields_of_permissive (model : String) (m : Model) :
    (o.surveyFields model m).warnings = (m.unknownFields model).map (·.warning) := by
  rw [surveyFields, Logged.warnings_forM_of_ok (outcome_surveyFields_of_permissive ho model m),
    Model.unknownFields, List.filterMap_eq_flatMap_toList, List.map_flatMap]
  exact List.flatMap_congr fun e _ => warnings_surveyField_of_permissive ho model m e.1 e.2

end
end Options

namespace Generator
variable {E P D : Type} {g : Generator E P D}

theorem warnings_surveyModel_of_permissive (hg : g.options.unknownTypes = .permissive)
    (model : String) (m : Model) :
    (g.surveyModel model m).warnings = (m.unknownFields model).map (·.warning) := by
  have hfields := Options.outcome_surveyFields_of_permissive hg model m
  rw [surveyModel, Logged.warnings_then_of_ok (x := Logged.emit (.entered model)) rfl,
    Logged.warnings_then_of_ok hfields, Options.warnings_surveyFields_of_permissive hg]
  exact List.append_nil _

/-- Where unknown types are let through, a run warns of every field of unknown type in order. -/
theorem warnings_survey_of_permissive (hg : g.options.unknownTypes = .permissive) (s : Schema) :
    (g.survey s).warnings = s.unknownFields.map (·.warning) := by
  rw [survey, Logged.warnings_forM_of_ok (outcome_survey_of_permissive hg s), Schema.unknownFields,
    List.map_flatMap]
  exact List.flatMap_congr fun e _ => warnings_surveyModel_of_permissive hg e.1 e.2

/-- The generator with another choice about unknown types. -/
def withUnknownTypes (g : Generator E P D) (policy : UnknownTypePolicy) : Generator E P D :=
  ⟨g.builder, g.options.withUnknownTypes policy⟩

variable (g) (s : Schema)

/-- What is declared does not depend on what becomes of unknown types. -/
theorem result_withUnknownTypes (policy : UnknownTypePolicy) :
    (g.withUnknownTypes policy).result s = g.result s := rfl

variable {s} in
/-- Without fields of unknown type, what a run checks and reports does not depend on it either. -/
theorem survey_withUnknownTypes (h : s.unknownFields = []) (policy : UnknownTypePolicy) :
    (g.withUnknownTypes policy).survey s = g.survey s := by
  refine Logged.forM_congr fun e he => ?_
  have hfields := Options.surveyFields_of_known (g.withUnknownTypes policy).options g.options
    (Schema.unknownFields_eq_nil_iff.1 h e he) e.1
  rw [surveyModel, surveyModel, hfields]
  rfl

/-- A run that lets unknown types through succeeds. If the run that refuses them succeeds, it is the
same run, with the same declarations and imports and without a warning. If that run fails, it does so
for a field of unknown type, and the first warning of the other is for the same field and type. -/
theorem permissive_refines_reject :
    (∃ r, ((g.withUnknownTypes .permissive).declarations s).outcome = .ok r) ∧
    (∀ r, ((g.withUnknownTypes .reject).declarations s).outcome = .ok r →
      ((g.withUnknownTypes .permissive).declarations s).outcome = .ok r ∧
      ((g.withUnknownTypes .permissive).declarations s).events =
        ((g.withUnknownTypes .reject).declarations s).events ∧
      ((g.withUnknownTypes .permissive).declarations s).warnings = []) ∧
    ∀ e, ((g.withUnknownTypes .reject).declarations s).outcome = .error e →
      ∃ model field type, e = .unknownType model field type ∧
        ((g.withUnknownTypes .permissive).declarations s).warnings.head? =
          some (.unknownType type field model) ∧
        Event.message (.unknownType type field model) = "Unknown type '" ++ type ++
          "' for field '" ++ field ++ "' of model '" ++ model ++ "', emitting '" ++ "undefined" ++
          "'" := by
  have hlenient : ((g.withUnknownTypes .permissive).declarations s).outcome = .ok _ :=
    (declarations_eq_ok _).2 ⟨outcome_survey_of_permissive rfl s, rfl⟩
  have hwarnings : ((g.withUnknownTypes .permissive).declarations s).warnings =
      s.unknownFields.map (·.warning) := by
    rw [← warnings_survey_of_permissive (g := g.withUnknownTypes .permissive) rfl s, declarations_eq]
    rfl
  refine ⟨⟨_, hlenient⟩, fun r hr => ?_, fun e he => ?_⟩
  · have hnone := unknownFields_eq_nil_of_reject rfl ((declarations_eq_ok _).1 hr).1
    have hsame : (g.withUnknownTypes .permissive).declarations s =
        (g.withUnknownTypes .reject).declarations s := by
      rw [declarations_eq, declarations_eq, survey_withUnknownTypes g hnone,
        survey_withUnknownTypes g hnone, result_withUnknownTypes, result_withUnknownTypes]
    rw [hsame] at hwarnings ⊢
    exact ⟨hr, rfl, by rw [hwarnings, hnone]; rfl⟩
  · obtain ⟨-, u, hu, rfl⟩ := outcome_eq_error_iff_head?.1 he
    refine ⟨u.model, u.field, u.type, rfl, ?_, rfl⟩
    rw [hwarnings, List.head?_map, hu]
    rfl

/-- Two models with fields of unknown type, in the first of them behind a known one. -/
def dated : Schema :=
  .add (.add .empty (.withField (.withField (.withField (.new "Visit") (.new "id" .integer))
    (.required (.new "from" (.unknown "date")))) (.new "to" (.unknown "time"))))
    (.withField (.new "Event") (.new "at" (.unknown "date")))

theorem permissive_refines_reject_dated :
    ∃ r, (({} : Options).generator.declarations dated).outcome =
        .error (.unknownType "Visit" "from" "date") ∧
      ((({} : Options).withUnknownTypes .permissive).generator.declarations dated).outcome = .ok r ∧
      ((({} : Options).withUnknownTypes .permissive).generator.declarations dated).warnings.head? =
        some (.unknownType "date" "from" "Visit") := by
  obtain ⟨⟨r, hr⟩, -, hfirst⟩ := permissive_refines_reject ({} : Options).generator dated
  obtain ⟨model, field, type, he, hwarning, -⟩ := hfirst (.unknownType "Visit" "from" "date") rfl
  cases he
  exact ⟨r, rfl, hr, hwarning⟩

end Generator
end GraphDecl
