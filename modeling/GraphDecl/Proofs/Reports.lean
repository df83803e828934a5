import GraphDecl.Proofs.Result

/-!
# What a run reports

The events of a run that succeeds are those of its models in order: that the model is entered, what
its fields report, and that it is declared. Fields only warn and trace, so the last event of a model
is the only one that speaks of its declaration (`declared_mem_events_iff`).
-/

namespace GraphDecl

namespace Options
variable (o : Options)

theorem surveyType_reports (model : String) (f : Field) :
    (o.surveyType model f).Reports fun e => e.level ≠ .debug := by
  rw [surveyType]
  cases f.type with
  | string | integer | float | enumeration values => intro e he; cases he
  | unknown name =>
    cases o.unknownTypes with
    | reject => intro e he; cases he
    | permissive =>
      intro e he
      rw [List.mem_singleton.1 he]
      simp [Event.level]

theorem surveyField_reports (model : String) (m : Model) (key : String) (f : Field) :
    (o.surveyField model m key f).Reports fun e => e.level ≠ .debug := by
  refine (o.surveyType_reports model f).then ?_
  cases m.reference? key with
  | none => intro e he; cases he
  | some target =>
    intro e he
    rw [List.mem_singleton.1 he]
    simp [Event.level]

theorem surveyFields_reports (model : String) (m : Model) :
    (o.surveyFields model m).Reports fun e => e.level ≠ .debug :=
  Logged.Reports.forM fun e _ => o.surveyField_reports model m e.1 e.2

/-- The type of the field is known, or it may be unknown. -/
def Accepts (f : Field) : Prop := o.unknownTypes = .reject → ∀ name, f.type ≠ .unknown name

theorem surveyType_eq_ok_iff (model : String) (f : Field) :
    (o.surveyType model f).outcome = .ok () ↔ o.Accepts f := by
  rw [surveyType, Accepts]
  cases f.type with
  | string | integer | float | enumeration values => simp
  | unknown name => cases o.unknownTypes <;> simp [Logged.fail, Logged.emit]

theorem surveyField_eq_ok_iff (model : String) (m : Model) (key : String) (f : Field) :
    (o.surveyField model m key f).outcome = .ok () ↔ o.Accepts f := by
  rw [surveyField, Logged.outcome_then_eq_ok, surveyType_eq_ok_iff]
  cases m.reference? key with
  | none | some target => exact and_iff_left rfl

theorem surveyFields_eq_ok_iff (model : String) (m : Model) :
    (o.surveyFields model m).outcome = .ok () ↔ ∀ e ∈ m.fields.entries, o.Accepts e.2 := by
  rw [surveyFields, Logged.outcome_forM_eq_ok]
  simp only [surveyField_eq_ok_iff]

end Options

namespace Generator
variable {E P D : Type} (g : Generator E P D)

theorem surveyModel_eq_ok_iff (model : String) (m : Model) :
    (g.surveyModel model m).outcome = .ok () ↔ (g.options.surveyFields model m).outcome = .ok () := by
  rw [surveyModel, Logged.outcome_then_eq_ok, Logged.outcome_then_eq_ok]
  exact ⟨fun h => h.2.1, fun h => ⟨rfl, h, rfl⟩⟩

theorem events_surveyModel_of_ok {model : String} {m : Model}
    (h : (g.options.surveyFields model m).outcome = .ok ()) :
    (g.surveyModel model m).events = .entered model :: (g.options.surveyFields model m).events ++
      [.declared model (m.fields.size + m.references.size) (g.bodyOf m).imports.size] := by
  rw [surveyModel, Logged.bind_ok (x := Logged.emit (.entered model)) rfl, Logged.bind_ok h]
  rfl

theorem survey_eq_ok_iff (s : Schema) :
    (g.survey s).outcome = .ok () ↔
      ∀ e ∈ s.models.entries, (g.options.surveyFields e.1 e.2).outcome = .ok () := by
  rw [survey, Logged.outcome_forM_eq_ok]
  simp only [surveyModel_eq_ok_iff]

/-- A run succeeds if and only if the type of every field is accepted. -/
theorem survey_eq_ok_iff_accepts (s : Schema) :
    (g.survey s).outcome = .ok () ↔
      ∀ e ∈ s.models.entries, ∀ f ∈ e.2.fields.entries, g.options.Accepts f.2 := by
  rw [survey_eq_ok_iff]
  simp only [Options.surveyFields_eq_ok_iff]

/-- A model is reported as declared in its own steps only, with its own numbers. -/
theorem declared_mem_surveyModel {model key : String} {m : Model} {fields imports : Nat}
    (h : (g.options.surveyFields model m).outcome = .ok ()) :
    .declared key fields imports ∈ (g.surveyModel model m).events ↔
      key = model ∧ fields = m.fields.size + m.references.size ∧
        imports = (g.bodyOf m).imports.size := by
  have hfields : .declared key fields imports ∉ (g.options.surveyFields model m).events :=
    fun he => g.options.surveyFields_reports model m _ he rfl
  rw [events_surveyModel_of_ok g h]
  simp [hfields]

theorem declared_mem_events_iff {s : Schema} {key : String} {m : Model} {fields imports : Nat}
    (hs : (g.survey s).outcome = .ok ()) (hm : s.models.get? key = some m) :
    .declared key fields imports ∈ (g.declarations s).events ↔
      fields = m.fields.size + m.references.size ∧ imports = (g.bodyOf m).imports.size := by
  have hok := (g.survey_eq_ok_iff s).1 hs
  rw [declarations_eq, Logged.events_giving, survey, Logged.events_forM_of_ok hs, List.mem_flatMap]
  constructor
  · rintro ⟨⟨model, m'⟩, he, hd⟩
    obtain ⟨rfl, hd⟩ := (g.declared_mem_surveyModel (hok _ he)).1 hd
    obtain rfl : m' = m := Option.some.inj ((OrderedMap.get?_eq_some_iff.2 he).symm.trans hm)
    exact hd
  · intro hd
    have he := OrderedMap.get?_eq_some_iff.1 hm
    exact ⟨(key, m), he, (g.declared_mem_surveyModel (hok _ he)).2 ⟨rfl, hd⟩⟩

end Generator
end GraphDecl
