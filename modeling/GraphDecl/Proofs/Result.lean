import GraphDecl.Generate.Basic
import GraphDecl.Proofs.Maps
import GraphDecl.Proofs.Runs

/-!
# What a run of a generator gives

What a generator makes of a schema does not depend on what it checks and reports. `Generator.result`
is what is made, with a placeholder wherever a type is unknown, and `Generator.survey` is the run of
the checks and reports alone. `declarations_eq` puts a run together from the two, so a run that
succeeds gives the result and a run that fails gives the failure of its survey.
-/

namespace GraphDecl

namespace Options
variable (o : Options)

/-- Refuses or reports an unknown type. -/
def surveyType (model : String) (f : Field) : Logged GenerateError Unit :=
  match f.type with
  | .unknown name =>
    match o.unknownTypes with
    | .reject => .fail (.unknownType model f.name name)
    | .permissive => .emit (.unknownType name f.name model)
  | _ => pure ()

/-- Surveys the type of a field and reports what is derived from its reference. -/
def surveyField (model : String) (m : Model) (key : String) (f : Field) :
    Logged GenerateError Unit := do
  o.surveyType model f
  match m.reference? key with
  | none => pure ()
  | some target =>
    .emit (.derived m.name key (Naming.referenceName m key) (Naming.typeName target))

def surveyFields (model : String) (m : Model) : Logged GenerateError Unit :=
  m.fields.entries.forM fun e => o.surveyField model m e.1 e.2

@[simp] theorem builder_generator : o.generator.builder = .tree := rfl

@[simp] theorem options_generator : o.generator.options = o := rfl

end Options

namespace Generator
variable {E P D : Type} (g : Generator E P D)

/-- The type of a field, a placeholder if it is unknown. -/
def typeOf (f : Field) : Fragment E :=
  match f.type with
  | .enumeration values => g.enum f values
  | .string => g.wrap f (g.scalar g.options.identifiers.string)
  | .integer => g.wrap f (g.scalar g.options.identifiers.int)
  | .float => g.wrap f (g.scalar g.options.identifiers.float)
  | .unknown _ => g.wrap f (.of (g.builder.identifier Event.placeholder))

def fieldOf (f : Field) : Fragment P := (g.typeOf f).map (g.entry f.name f.description)

def referenceOf (m : Model) (reference target : String) : Fragment P :=
  let name := Naming.referenceName m reference
  let type := Naming.typeName target
  let d := Naming.referenceDescription g.options.defaultDescription name target
  (Fragment.of (g.entry name (some d) (g.builder.identifier type))).withImport type

/-- The entry of a field, and behind it the one derived from its reference. -/
def entriesOf (m : Model) (key : String) (f : Field) : List (Fragment P) :=
  g.fieldOf f :: ((m.reference? key).map (g.referenceOf m key)).toList

def bodyOf (m : Model) : Fragment (List P) :=
  Fragment.sequence (m.fields.entries.flatMap fun e => g.entriesOf m e.1 e.2)

def declarationOf (model : String) (m : Model) : Fragment D := (g.bodyOf m).map (g.declare model m)

/-- The declarations of all models under their keys. -/
def result (s : Schema) : OrderedMap (Fragment D) := s.models.mapEntries g.declarationOf

/-- Surveys a model between its first and its last event. -/
def surveyModel (model : String) (m : Model) : Logged GenerateError Unit := do
  .emit (.entered model)
  g.options.surveyFields model m
  .emit (.declared model (m.fields.size + m.references.size) (g.bodyOf m).imports.size)

/-- The checks and reports of a run. -/
def survey (s : Schema) : Logged GenerateError Unit :=
  s.models.entries.forM fun e => g.surveyModel e.1 e.2

/-! ### A run is its survey, giving its result -/

theorem type_eq (model : String) (f : Field) :
    g.type model f = (g.options.surveyType model f).giving (g.typeOf f) := by
  rw [type, Options.surveyType, typeOf]
  cases f.type with
  | string | integer | float | enumeration values => rfl
  | unknown name => cases g.options.unknownTypes <;> rfl

theorem field_eq (model : String) (f : Field) :
    g.field model f = (g.options.surveyType model f).giving (g.fieldOf f) := by
  rw [field, type_eq, bind_pure_comp, Logged.map_giving]
  rfl

theorem reference_eq (m : Model) (reference target : String) :
    g.reference m reference target = (Logged.emit (.derived m.name reference
      (Naming.referenceName m reference) (Naming.typeName target))).giving
        (g.referenceOf m reference target) := rfl

theorem entries_eq (model : String) (m : Model) (key : String) (f : Field) :
    g.entries model m key f =
      (g.options.surveyField model m key f).giving (g.entriesOf m key f) := by
  rw [entries, field_eq, Logged.giving_bind, Options.surveyField, ← Logged.bind_giving, entriesOf]
  cases m.reference? key with
  | none => rfl
  | some target => simp only [reference_eq, bind_pure_comp, Logged.map_giving]; rfl

theorem body_eq (model : String) (m : Model) :
    g.body model m = (g.options.surveyFields model m).giving (g.bodyOf m) := by
  simp only [body, entries_eq, Logged.mapM_giving, bind_pure_comp, Logged.map_giving]
  rfl

theorem declaration_eq (model : String) (m : Model) :
    g.declaration model m = (g.options.surveyFields model m).giving (g.declarationOf model m) := by
  rw [declaration, body_eq, bind_pure_comp, Logged.map_giving]
  rfl

theorem step_eq (model : String) (m : Model) :
    g.step model m = (g.surveyModel model m).giving (g.declarationOf model m) := by
  -- the last event counts the imports of the declaration, which the survey knows beforehand
  have hend : g.declaration model m >>= (fun d => do
        .emit (.declared model (m.fields.size + m.references.size) d.imports.size)
        return d) =
      Logged.giving (g.options.surveyFields model m >>= fun _ =>
        .emit (.declared model (m.fields.size + m.references.size) (g.bodyOf m).imports.size))
        (g.declarationOf model m) := by
    rw [declaration_eq, Logged.giving_bind, ← Logged.bind_giving]
    rfl
  rw [step, hend, Logged.bind_giving]
  rfl

theorem declarations_eq (s : Schema) : g.declarations s = (g.survey s).giving (g.result s) := by
  simp only [declarations, step_eq, bind_pure_comp, Logged.map_giving, Logged.mapM_giving]
  rw [OrderedMap.ofList_map_entries]
  rfl

/-- A run succeeds if and only if its survey does, and gives the result then. -/
theorem declarations_eq_ok {s : Schema} {r : OrderedMap (Fragment D)} :
    (g.declarations s).outcome = .ok r ↔ (g.survey s).outcome = .ok () ∧ r = g.result s := by
  rw [declarations_eq, Logged.outcome_giving_eq_ok]

theorem declarations_eq_error {s : Schema} {e : GenerateError} :
    (g.declarations s).outcome = .error e ↔ (g.survey s).outcome = .error e := by
  rw [declarations_eq, Logged.outcome_giving_eq_error]

theorem get?_result_of_get? {s : Schema} {key : String} {m : Model}
    (h : s.models.get? key = some m) : (g.result s).get? key = some (g.declarationOf key m) :=
  OrderedMap.get?_mapEntries_eq_some.2 ⟨m, h, rfl⟩

/-- A run on a text succeeds if and only if the text is a schema, which is valid and can be declared. -/
theorem ofText_eq_ok {text : String} {r : OrderedMap (Fragment D)} :
    (g.ofText text).outcome = .ok r ↔ ∃ s, Schema.ofText text = .ok s ∧
      s.validate.outcome = .ok () ∧ (g.declarations s).outcome = .ok r := by
  rw [ofText, ofLoaded]
  cases hload : Schema.ofText text with
  | error e =>
    rw [Logged.bind_error rfl]
    simp
  | ok s =>
    have hvalid : (s.validate.mapError GenerateError.schema).outcome = .ok () ↔
        s.validate.outcome = .ok () := by
      rw [Logged.mapError]
      cases s.validate.outcome with
      | error e => simp [Except.mapError]
      | ok u => simp [Except.mapError]
    rw [Logged.bind_ok rfl]
    simp only [Logged.outcome_then_eq_ok, hvalid, Except.ok.injEq, exists_eq_left']

end Generator
end GraphDecl
