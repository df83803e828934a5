import GraphDecl.Proofs.FaultPlaces
import GraphDecl.Proofs.Guarantees
import Mathlib.Data.List.TakeWhile

/-!
# The log of a run

`Options.Logs` says what a run should report of the models of a schema: of each that it is entered, then
for every field the warning for an unknown type and the trace of what is derived from its reference, and
at last that it is declared; of the first model that cannot be declared nothing behind the fields before
the one that is refused, and of the models behind it nothing at all. The trace of a reference is read off
the property that is emitted for it (`Options.trace?`). A run reports this (`logs_surveyModels`) and
nothing else (`Logs.events_eq`). A run on a text reports what validation does before it.
-/

namespace GraphDecl

/-! ### What should be reported -/

namespace Options
variable (o : Options)

/-- The warning for a field whose type is unknown and let through. -/
def warning? (model : String) (f : Field) : Option Event :=
  match o.unknownTypes with
  | .reject => none
  | .permissive => (f.unknown? model).map UnknownField.warning

/-- The trace of the property that is derived from the reference of the field under `key`: it gives the
key of the property and the name of its type. -/
def trace? (m : Model) (key : String) : Option Event := do
  let entry ← o.derivedProperty? m key
  let (field, type) ← Expr.namedType? entry
  return .derived m.name key field type

/-- What is reported of a field. -/
def fieldLog (model : String) (m : Model) (e : String × Field) : List Event :=
  (o.warning? model e.2).toList ++ (o.trace? m e.1).toList

/-- What a run should report of these models, one after the other. -/
inductive Logs : List (String × Model) → List Event → Prop
  | nil : Logs [] []
  /-- The model is declared and the run goes on. -/
  | declared {key : String} {m : Model} {d : Fragment Declaration} {rest : List (String × Model)}
      {events : List Event} (hd : (o.generator.declaration key m).outcome = .ok d)
      (hrest : Logs rest events) :
    Logs ((key, m) :: rest) (.entered key :: m.fields.entries.flatMap (o.fieldLog key m) ++
      .declared key (m.fields.size + m.references.size) d.imports.size :: events)
  /-- The first field of the model that is refused ends the run. -/
  | aborted {key : String} {m : Model} {before after : List (String × Field)} {fieldKey : String}
      {f : Field} {e : GenerateError} {rest : List (String × Model)}
      (hfields : m.fields.entries = before ++ (fieldKey, f) :: after)
      (hbefore : ∀ x ∈ before, ∃ p, (o.generator.field key x.2).outcome = .ok p)
      (hf : (o.generator.field key f).outcome = .error e) :
    Logs ((key, m) :: rest) (.entered key :: before.flatMap (o.fieldLog key m))

/-- The models that a run declares before it ends. -/
def completed (s : Schema) : List (String × Model) :=
  s.models.entries.takeWhile fun e => (o.generator.declaration e.1 e.2).outcome.isOk

end Options

/-- The event comes of validation. -/
def Event.ofValidation : Event → Bool
  | .undeclaredTarget _ _ _ => true
  | .entered _ | .unknownType _ _ _ | .derived _ _ _ _ | .declared _ _ _ => false

/-- The level at which a run reports an event. -/
inductive Event.RunLevel : Event → Level → Prop
  | entered {model : String} : RunLevel (.entered model) .span
  | unknownType {type field model : String} : RunLevel (.unknownType type field model) .warn
  | derived {model reference field type : String} :
      RunLevel (.derived model reference field type) .trace
  | declared {model : String} {fields imports : Nat} :
      RunLevel (.declared model fields imports) .debug

theorem Event.RunLevel.not_ofValidation {e : Event} {level : Level} (h : e.RunLevel level) :
    e.ofValidation = false := by
  cases h <;> rfl

/-! ### One field -/

namespace Options
variable {o : Options} {model key : String} {m : Model} {f : Field}

theorem trace?_eq (m : Model) (key : String) : o.trace? m key = (m.reference? key).map fun target =>
    .derived m.name key (Naming.referenceName m key) (Naming.typeName target) := by
  rw [trace?, derivedProperty?]
  cases m.reference? key with
  | none => rfl
  | some target =>
    rw [Option.map_some, Option.map_some, referenceProperty]
    simp only [Option.bind_eq_bind, Option.bind_some, namedType?_propertyBody]
    rfl

theorem events_surveyType (model : String) (f : Field) :
    (o.surveyType model f).events = (o.warning? model f).toList := by
  rw [surveyType, warning?, Field.unknown?]
  cases f.type with
  | unknown name => cases o.unknownTypes <;> rfl
  | string | integer | float | enumeration values => cases o.unknownTypes <;> rfl

theorem outcome_surveyField (model : String) (m : Model) (key : String) (f : Field) :
    (o.surveyField model m key f).outcome = (o.surveyType model f).outcome := by
  rw [surveyField]
  cases h : (o.surveyType model f).outcome with
  | error e => rw [Logged.bind_error h]
  | ok u =>
    rw [Logged.bind_ok h]
    cases m.reference? key <;> rfl

theorem events_surveyField_of_ok (h : (o.surveyField model m key f).outcome = .ok ()) :
    (o.surveyField model m key f).events = o.fieldLog model m (key, f) := by
  rw [outcome_surveyField] at h
  rw [surveyField, Logged.bind_ok h, fieldLog, events_surveyType, trace?_eq]
  cases m.reference? key <;> rfl

theorem events_surveyField_of_error {e : GenerateError}
    (h : (o.surveyField model m key f).outcome = .error e) :
    (o.surveyField model m key f).events = [] := by
  rw [outcome_surveyField] at h
  rw [surveyField, Logged.bind_error h, events_surveyType, warning?]
  cases hpolicy : o.unknownTypes with
  | reject => rfl
  | permissive =>
    rw [outcome_surveyType_of_permissive hpolicy] at h
    cases h

theorem field_eq_ok_iff : (∃ p, (o.generator.field model f).outcome = .ok p) ↔
    (o.surveyField model m key f).outcome = .ok () := by
  rw [outcome_surveyField, Generator.field_eq]
  simp only [Logged.outcome_giving_eq_ok, exists_and_left, exists_eq, and_true]
  rfl

theorem field_eq_error_iff {e : GenerateError} : (o.generator.field model f).outcome = .error e ↔
    (o.surveyField model m key f).outcome = .error e := by
  rw [outcome_surveyField, Generator.field_eq]
  exact Logged.outcome_giving_eq_error

/-- Fields only warn and trace. -/
theorem eq_of_mem_fieldLog {x : String × Field} {e : Event} (h : e ∈ o.fieldLog model m x) :
    (∃ u : UnknownField, e = u.warning) ∨ ∃ field type, e = .derived m.name x.1 field type := by
  rw [fieldLog, List.mem_append, Option.mem_toList, Option.mem_toList] at h
  rcases h with h | h
  · rw [warning?] at h
    cases hpolicy : o.unknownTypes with
    | reject => rw [hpolicy] at h; cases h
    | permissive =>
      rw [hpolicy] at h
      obtain ⟨u, -, rfl⟩ := Option.map_eq_some_iff.1 h
      exact .inl ⟨u, rfl⟩
  · rw [trace?_eq] at h
    obtain ⟨target, -, rfl⟩ := Option.map_eq_some_iff.1 h
    exact .inr ⟨_, _, rfl⟩

theorem filter_debug_fieldLogs (l : List (String × Field)) :
    (l.flatMap (o.fieldLog model m)).filter (fun e => e.level = .debug) = [] := by
  rw [List.filter_eq_nil_iff]
  intro e he
  obtain ⟨x, -, he⟩ := List.mem_flatMap.1 he
  rcases eq_of_mem_fieldLog he with ⟨u, rfl⟩ | ⟨field, type, rfl⟩ <;>
    simp [UnknownField.warning, Event.level]

/-! ### One model -/

theorem events_surveyFields_of_ok (h : (o.surveyFields model m).outcome = .ok ()) :
    (o.surveyFields model m).events = m.fields.entries.flatMap (o.fieldLog model m) := by
  rw [surveyFields, Logged.events_forM_of_ok h]
  exact List.flatMap_congr fun e he => events_surveyField_of_ok (Logged.outcome_forM_eq_ok.1 h e he)

theorem surveyFields_of_error {before after : List (String × Field)} {e : GenerateError}
    (hfields : m.fields.entries = before ++ (key, f) :: after)
    (hbefore : ∀ x ∈ before, ∃ p, (o.generator.field model x.2).outcome = .ok p)
    (hf : (o.generator.field model f).outcome = .error e) :
    o.surveyFields model m = ⟨before.flatMap (o.fieldLog model m), .error e⟩ := by
  have hbefore : ∀ x ∈ before, (o.surveyField model m x.1 x.2).outcome = .ok () :=
    fun x hx => field_eq_ok_iff.1 (hbefore x hx)
  have hf : (o.surveyField model m key f).outcome = .error e := field_eq_error_iff.1 hf
  have hlog : (before.flatMap fun x => (o.surveyField model m x.1 x.2).events) =
      before.flatMap (o.fieldLog model m) :=
    List.flatMap_congr fun x hx => events_surveyField_of_ok (hbefore x hx)
  rw [surveyFields, hfields, Logged.forM_of_error hbefore hf, hlog,
    events_surveyField_of_error hf, List.append_nil]

theorem outcome_surveyModel (model : String) (m : Model) :
    (o.generator.surveyModel model m).outcome = (o.surveyFields model m).outcome := by
  rw [Generator.surveyModel, Logged.bind_ok (x := Logged.emit (.entered model)) rfl]
  cases h : (o.surveyFields model m).outcome with
  | error e => exact congrArg Logged.outcome (Logged.bind_error h _)
  | ok u => exact congrArg Logged.outcome (Logged.bind_ok h _)

theorem declaration_eq_ok {d : Fragment Declaration} :
    (o.generator.declaration model m).outcome = .ok d ↔
      (o.surveyFields model m).outcome = .ok () ∧ d = o.generator.declarationOf model m := by
  rw [Generator.declaration_eq]
  exact Logged.outcome_giving_eq_ok

theorem declaration_eq_error {e : GenerateError} :
    (o.generator.declaration model m).outcome = .error e ↔
      (o.surveyFields model m).outcome = .error e := by
  rw [Generator.declaration_eq]
  exact Logged.outcome_giving_eq_error

theorem events_surveyModel_of_error {before after : List (String × Field)} {e : GenerateError}
    (hfields : m.fields.entries = before ++ (key, f) :: after)
    (hbefore : ∀ x ∈ before, ∃ p, (o.generator.field model x.2).outcome = .ok p)
    (hf : (o.generator.field model f).outcome = .error e) :
    o.generator.surveyModel model m =
      ⟨.entered model :: before.flatMap (o.fieldLog model m), .error e⟩ := by
  have hrun := surveyFields_of_error hfields hbefore hf
  rw [Generator.surveyModel, options_generator,
    Logged.bind_ok (x := Logged.emit (.entered model)) rfl,
    Logged.bind_error (congrArg Logged.outcome hrun), hrun]
  rfl

/-! ### A run -/

variable {l : List (String × Model)} {events : List Event}

/-- What a run on these models checks and reports. -/
def surveyModels (o : Options) (l : List (String × Model)) : Logged GenerateError Unit :=
  l.forM fun e => o.generator.surveyModel e.1 e.2

theorem events_surveyModels_of_ok {e : String × Model}
    (h : (o.surveyFields e.1 e.2).outcome = .ok ()) :
    (o.surveyModels (e :: l)).events = .entered e.1 :: e.2.fields.entries.flatMap (o.fieldLog e.1 e.2) ++
      .declared e.1 (e.2.fields.size + e.2.references.size)
        (o.generator.declarationOf e.1 e.2).imports.size :: (o.surveyModels l).events := by
  have hmodel : (o.generator.surveyModel e.1 e.2).outcome = .ok () := by rwa [outcome_surveyModel]
  rw [surveyModels, List.forM_eq_forM, List.forM_cons, Logged.bind_ok hmodel,
    Generator.events_surveyModel_of_ok _ h, options_generator, events_surveyFields_of_ok h,
    List.append_assoc]
  rfl

theorem events_surveyModels_of_error {e : String × Model} {err : GenerateError}
    (h : (o.surveyFields e.1 e.2).outcome = .error err) :
    (o.surveyModels (e :: l)).events = (o.generator.surveyModel e.1 e.2).events := by
  have hmodel : (o.generator.surveyModel e.1 e.2).outcome = .error err := by
    rwa [outcome_surveyModel]
  rw [surveyModels, List.forM_eq_forM, List.forM_cons, Logged.bind_error hmodel]

theorem logs_surveyModels (o : Options) (l : List (String × Model)) :
    o.Logs l (o.surveyModels l).events := by
  induction l with
  | nil => exact .nil
  | cons e l ih =>
    obtain ⟨key, m⟩ := e
    cases h : (o.surveyFields key m).outcome with
    | ok u =>
      rw [events_surveyModels_of_ok h]
      exact .declared (declaration_eq_ok.2 ⟨h, rfl⟩) ih
    | error err =>
      obtain ⟨before, ⟨fieldKey, f⟩, after, hfields, hbefore, hf⟩ :=
        Logged.outcome_forM_eq_error.1 h
      have hbefore : ∀ x ∈ before, ∃ p, (o.generator.field key x.2).outcome = .ok p :=
        fun x hx => field_eq_ok_iff.2 (hbefore x hx)
      have hf : (o.generator.field key f).outcome = .error err := field_eq_error_iff.2 hf
      rw [events_surveyModels_of_error h, events_surveyModel_of_error hfields hbefore hf]
      exact .aborted hfields hbefore hf

theorem Logs.events_eq (h : o.Logs l events) : (o.surveyModels l).events = events := by
  induction h with
  | nil => rfl
  | declared hd _ ih =>
    obtain ⟨hok, rfl⟩ := declaration_eq_ok.1 hd
    rw [events_surveyModels_of_ok hok, ih]
  | aborted hfields hbefore hf =>
    have hrun := surveyFields_of_error hfields hbefore hf
    rw [events_surveyModels_of_error (congrArg Logged.outcome hrun),
      events_surveyModel_of_error hfields hbefore hf]

/-- The models that are declared are those of which it is reported, in the same order. -/
theorem Logs.debug (h : o.Logs l events) :
    List.Forall₂ (fun e event => ∃ d, (o.generator.declaration e.1 e.2).outcome = .ok d ∧
        event = .declared e.1 (e.2.fields.size + e.2.references.size) d.imports.size)
      (l.takeWhile fun e => (o.generator.declaration e.1 e.2).outcome.isOk)
      (events.filter fun e => e.level = .debug) := by
  induction h with
  | nil => exact .nil
  | @declared key m d rest events hd _ ih =>
    rw [List.takeWhile_cons_of_pos (by rw [hd]; rfl), List.cons_append, List.filter_cons,
      List.filter_append, filter_debug_fieldLogs, List.nil_append, List.filter_cons]
    exact .cons ⟨d, hd, rfl⟩ ih
  | aborted hfields hbefore hf =>
    have hrun := surveyFields_of_error hfields hbefore hf
    have hfails := declaration_eq_error.2 (congrArg Logged.outcome hrun)
    rw [List.takeWhile_cons_of_neg (by rw [hfails]; exact Bool.false_ne_true), List.filter_cons,
      filter_debug_fieldLogs]
    exact .nil

/-- Models are entered, warned of, traced and declared, each at its level. -/
theorem Logs.runLevel (h : o.Logs l events) : ∀ e ∈ events, e.RunLevel e.level := by
  have hfields : ∀ {model m} {l : List (String × Field)},
      ∀ e ∈ l.flatMap (o.fieldLog model m), e.RunLevel e.level := by
    intro model m l e he
    obtain ⟨x, -, he⟩ := List.mem_flatMap.1 he
    rcases eq_of_mem_fieldLog he with ⟨u, rfl⟩ | ⟨field, type, rfl⟩
    · exact .unknownType
    · exact .derived
  induction h with
  | nil => exact List.forall_mem_nil _
  | declared _ _ ih =>
    rw [List.cons_append, List.forall_mem_cons, List.forall_mem_append, List.forall_mem_cons]
    exact ⟨.entered, hfields, .declared, ih⟩
  | aborted => exact List.forall_mem_cons.2 ⟨.entered, hfields⟩

end Options

/-! ### A run on a text -/

namespace Schema
variable (s : Schema)

theorem checkReference_reports (m : Model) (field target : String) :
    (s.checkReference m field target).Reports fun e => e.ofValidation = true := by
  rw [checkReference]
  split
  · split
    · exact List.forall_mem_nil _
    · exact List.forall_mem_singleton.2 rfl
  · exact List.forall_mem_nil _

theorem validate_reports : s.validate.Reports fun e => e.ofValidation = true := by
  refine Logged.Reports.forM fun e _ => Logged.Reports.then ?_ ?_
  · exact Logged.Reports.forM fun r _ => s.checkReference_reports e.2 r.1 r.2
  · exact Logged.Reports.forM fun x _ => by
      rw [Logged.Reports, events_checkField]
      exact List.forall_mem_nil _

end Schema

namespace Generator
variable {E P D : Type} (g : Generator E P D)

theorem events_ofText_of_error {text : String} {e : LoadError} (h : Schema.ofText text = .error e) :
    (g.ofText text).events = [] := by
  rw [ofText, ofLoaded, h, Logged.bind_error rfl]
  rfl

theorem events_ofText_of_invalid {text : String} {s : Schema} (h : Schema.ofText text = .ok s)
    {e : SchemaError} (hs : s.validate.outcome = .error e) :
    (g.ofText text).events = s.validate.events := by
  have hvalidate : (s.validate.mapError GenerateError.schema).outcome = .error (.schema e) := by
    rw [Logged.mapError, hs]
    rfl
  rw [ofText, ofLoaded, h, Logged.bind_ok rfl, Logged.bind_error hvalidate]
  rfl

theorem events_ofText_of_valid {text : String} {s : Schema} (h : Schema.ofText text = .ok s)
    (hs : s.validate.outcome = .ok ()) :
    (g.ofText text).events = s.validate.events ++ (g.declarations s).events := by
  have hvalidate : (s.validate.mapError GenerateError.schema).outcome = .ok () := by
    rw [Logged.mapError, hs]
    rfl
  rw [ofText, ofLoaded, h, Logged.bind_ok rfl, Logged.bind_ok hvalidate]
  rfl

end Generator

/-! ### The log and the run -/

namespace Options
variable (o : Options)

/-- What is reported of a reference is the property that is derived from it. -/
theorem trace?_of_reference {m : Model} {key target : String} (h : m.reference? key = some target) :
    ∃ field body type, o.derivedProperty? m key = some (field, body) ∧
      body.property? "type" = some (.identifier type) ∧
      o.trace? m key = some (.derived m.name key field type) := by
  refine ⟨(o.referenceProperty m key target).1, (o.referenceProperty m key target).2,
    Naming.typeName target, ?_, rfl, ?_⟩
  · rw [derivedProperty?, h, Option.map_some]
  · rw [trace?_eq, h]
    rfl

/-- What the log of the runs on a schema, alone or from a text, says of them. -/
structure MirrorsRuns (s : Schema) : Prop where
  /-- A run reports what it should and nothing else. -/
  events : ∀ events, (o.generator.declarations s).events = events ↔ o.Logs s.models.entries events
  /-- A model is entered as a span. An unknown type is a warning, a derived property a trace and a
  declaration a message for debugging. -/
  levels : ∀ e ∈ (o.generator.declarations s).events, e.RunLevel e.level
  /-- Of a field with a reference there is one trace. It gives the key of the property derived from that
  reference and the name that is the type of the property. -/
  traced : ∀ m key target, m.references.get? key = some target → ∃ field body type,
    o.derivedProperty? m key = some (field, body) ∧
    body.property? "type" = some (.identifier type) ∧
    o.trace? m key = some (.derived m.name key field type)
  /-- Of a field without a reference there is none. -/
  untraced : ∀ m key, m.references.get? key = none →
    o.derivedProperty? m key = none ∧ o.trace? m key = none
  /-- A declaration holds the derived properties, each behind the property of its field. -/
  emitted : ∀ key m d, (o.generator.declaration key m).outcome = .ok d →
    d.node.fields? = some (.object (m.fields.entries.flatMap fun e =>
      o.fieldProperty e.2 :: (o.derivedProperty? m e.1).toList))
  /-- The models that are completed are those of which it is reported, in the same order and with the
  numbers of their fields, references and imports. -/
  declared : List.Forall₂ (fun e event => ∃ d, (o.generator.declaration e.1 e.2).outcome = .ok d ∧
      event = .declared e.1 (e.2.fields.size + e.2.references.size) d.imports.size)
    (o.completed s) ((o.generator.declarations s).events.filter fun e => e.level = .debug)
  /-- None is completed twice. -/
  nodup : ((o.completed s).map Prod.fst).Nodup
  /-- A run that succeeds completes every model, and gives the declaration with which it did. -/
  result : ∀ r, (o.generator.declarations s).outcome = .ok r → o.completed s = s.models.entries ∧
    ∀ key m, s.models.get? key = some m → ∃ d, r.get? key = some d ∧
      (o.generator.declaration key m).outcome = .ok d
  /-- Of a text that is no schema nothing is reported. -/
  unread : ∀ text e, Schema.ofText text = .error e → (o.generator.ofText text).events = []
  /-- Of an invalid schema only validation reports. -/
  invalid : ∀ text, Schema.ofText text = .ok s → ∀ e, s.validate.outcome = .error e →
    (o.generator.ofText text).events = s.validate.events
  /-- Of a valid schema validation reports first. -/
  valid : ∀ text, Schema.ofText text = .ok s → s.validate.outcome = .ok () →
    (o.generator.ofText text).events = s.validate.events ++ (o.generator.declarations s).events
  /-- Validation only warns, and what it reports a run does not. -/
  validation : (∀ e ∈ s.validate.events, e.ofValidation = true ∧ e.level = .warn) ∧
    ∀ e ∈ (o.generator.declarations s).events, e.ofValidation = false

theorem events_declarations (s : Schema) :
    (o.generator.declarations s).events = (o.surveyModels s.models.entries).events := by
  rw [Generator.declarations_eq]
  rfl

section
variable {s : Schema} {r : OrderedMap (Fragment Declaration)}
  (hr : (o.generator.declarations s).outcome = .ok r)
include hr

theorem declaration_of_ok {e : String × Model} (he : e ∈ s.models.entries) :
    (o.generator.declaration e.1 e.2).outcome = .ok (o.generator.declarationOf e.1 e.2) := by
  have hmodel := Logged.outcome_forM_eq_ok.1 (o.generator.declarations_eq_ok.1 hr).1 e he
  rw [outcome_surveyModel] at hmodel
  exact declaration_eq_ok.2 ⟨hmodel, rfl⟩

theorem completed_eq_of_ok : o.completed s = s.models.entries := by
  refine List.takeWhile_eq_self_iff.2 fun e he => ?_
  rw [declaration_of_ok o hr he]
  rfl

end

/-- The log of a run mirrors it, model by model and field by field, also where the run fails. -/
theorem events_mirror_run (s : Schema) : o.MirrorsRuns s where
  events events := by
    rw [events_declarations]
    exact ⟨fun h => h ▸ o.logs_surveyModels _, Logs.events_eq⟩
  levels := by
    rw [events_declarations]
    exact (o.logs_surveyModels _).runLevel
  traced _ _ _ h := o.trace?_of_reference h
  untraced m key h := by
    rw [trace?_eq, derivedProperty?, Model.reference?, h]
    exact ⟨rfl, rfl⟩
  emitted key m d hd := by
    obtain ⟨-, rfl⟩ := declaration_eq_ok.1 hd
    exact o.fields?_declarationOf m key
  declared := by
    rw [events_declarations]
    exact (o.logs_surveyModels _).debug
  nodup := s.models.nodup.sublist ((List.takeWhile_sublist _).map _)
  result r hr := by
    refine ⟨o.completed_eq_of_ok hr, fun key m hm => ?_⟩
    have hd := o.declaration_of_ok hr (OrderedMap.get?_eq_some_iff.1 hm)
    obtain ⟨-, rfl⟩ := o.generator.declarations_eq_ok.1 hr
    exact ⟨_, Generator.get?_result_of_get? _ hm, hd⟩
  unread _ _ h := o.generator.events_ofText_of_error h
  invalid _ h _ hs := o.generator.events_ofText_of_invalid h hs
  valid _ h hs := o.generator.events_ofText_of_valid h hs
  validation := by
    refine ⟨fun e he => ?_, ?_⟩
    · have hof := s.validate_reports e he
      cases e with
      | undeclaredTarget => exact ⟨hof, rfl⟩
      | entered | unknownType | derived | declared => cases hof
    · rw [events_declarations]
      exact fun e he => ((o.logs_surveyModels _).runLevel e he).not_ofValidation

/-- The run on the text of a visit with a host and a time of unknown type warns of the host that is not
declared, and goes to its end or to the time. -/
theorem events_mirror_run_visitText :
    ((({} : Options).withUnknownTypes .permissive).generator.ofText visitText).events =
      [.undeclaredTarget "Visit" "hostId" "User", .entered "Visit",
        .derived "Visit" "hostId" "host" "UserType", .unknownType "date" "at" "Visit",
        .declared "Visit" 4 3] ∧
    ((({} : Options).withUnknownTypes .permissive).generator.ofText visitText).events.map Event.level =
      [.warn, .span, .trace, .warn, .debug] ∧
    (({} : Options).generator.ofText visitText).events =
      [.undeclaredTarget "Visit" "hostId" "User", .entered "Visit",
        .derived "Visit" "hostId" "host" "UserType"] := by
  have hlenient := events_mirror_run (({} : Options).withUnknownTypes .permissive) visit
  have hstrict := events_mirror_run {} visit
  have hfirst : ∀ x ∈ [("hostId", Field.new "hostId" .integer)],
      ∃ p, (({} : Options).generator.field "Visit" x.2).outcome = .ok p :=
    List.forall_mem_singleton.2 ⟨_, rfl⟩
  rw [hlenient.valid _ ofText_visitText rfl, hstrict.valid _ ofText_visitText rfl,
    (hlenient.events _).2 (.declared rfl .nil), (hstrict.events _).2 (.aborted rfl hfirst rfl)]
  exact ⟨rfl, rfl, rfl⟩

end Options
end GraphDecl
