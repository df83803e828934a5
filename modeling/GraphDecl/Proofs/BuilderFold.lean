import GraphDecl.Proofs.Result

/-!
# Every builder folds the tree

A generator with a builder `b` makes what `b` makes of the syntax tree that the generator of trees
makes with the same options. The equation holds for every kind of node (`fold_enum`, `fold_typeOf`,
`foldEntry_referenceOf`), from these for the entries of a model, and so for a whole run. Nothing in a
generator looks at a node, so what a run checks, reports and imports is the same for all builders
(`survey_builder`).
-/

namespace GraphDecl
variable {E P D : Type} (b : Builder E P D) (o : Options)

namespace Builder

/-- What the builder makes of a property. -/
def foldEntry (p : String × Expr) : P := b.property p.1 (p.2.fold b)

/-! ### The fold is a map of builders -/

@[simp] theorem fold_identifier (n : String) : (tree.identifier n).fold b = b.identifier n := by
  rw [tree, Expr.fold]

@[simp] theorem fold_literal (l : Literal) : (tree.literal l).fold b = b.literal l := by
  rw [tree, Expr.fold]

@[simp] theorem foldEntry_property (k : String) (e : Expr) :
    b.foldEntry (tree.property k e) = b.property k (e.fold b) := rfl

@[simp] theorem fold_object (ps : List (String × Expr)) :
    (tree.object ps).fold b = b.object (ps.map b.foldEntry) := by
  rw [tree, Expr.fold, Expr.foldProperties_eq_map]; rfl

@[simp] theorem fold_construct (n : String) (es : List Expr) :
    (tree.construct n es).fold b = b.construct n (es.map (Expr.fold b)) := by
  rw [tree, Expr.fold, Expr.foldArguments_eq_map]

end Builder

/-- What the builder makes of a declaration of one name with a value. -/
def Declaration.fold? (d : Declaration) : Option D :=
  match d.declarators with
  | [⟨name, some init⟩] => some (b.declare d.keyword name (init.fold b))
  | _ => none

@[simp] theorem Builder.fold?_declare (k : Keyword) (n : String) (e : Expr) :
    (tree.declare k n e).fold? b = some (b.declare k n (e.fold b)) := rfl

namespace Fragment
variable {α β : Type}

@[simp] theorem map_of (f : α → β) (a : α) : (of a).map f = of (f a) := rfl

@[simp] theorem map_withImport (f : α → β) (x : Fragment α) (name : String) :
    (x.withImport name).map f = (x.map f).withImport name := rfl

theorem sequence_map (f : α → β) (xs : List (Fragment α)) :
    sequence (xs.map (map f)) = (sequence xs).map (List.map f) := by
  simp only [sequence, Fragment.map, List.map_map, List.foldl_map]
  rfl

end Fragment

namespace Generator

@[simp] theorem fold_text (s : String) : (o.generator.text s).fold b = (Generator.mk b o).text s :=
  b.fold_literal _

@[simp] theorem foldEntry_description (d : Option String) :
    b.foldEntry (o.generator.description d) = (Generator.mk b o).description d := by
  simp [description]

@[simp] theorem foldEntry_entry (name : String) (d : Option String) (e : Expr) :
    b.foldEntry (o.generator.entry name d e) = (Generator.mk b o).entry name d (e.fold b) := by
  simp [entry]

theorem foldEntry_enumEntry (key : String) (v : EnumValue) :
    b.foldEntry (o.generator.enumEntry key v) = (Generator.mk b o).enumEntry key v := by
  simp [enumEntry]

theorem fold_enum (f : Field) (values : OrderedMap EnumValue) :
    (o.generator.enum f values).map (Expr.fold b) = (Generator.mk b o).enum f values := by
  simp [enum, Function.comp_def, foldEntry_enumEntry]

theorem fold_scalar (name : String) :
    (o.generator.scalar name).map (Expr.fold b) = (Generator.mk b o).scalar name := by
  simp [scalar]

theorem fold_wrap (f : Field) (t : Fragment Expr) :
    (o.generator.wrap f t).map (Expr.fold b) = (Generator.mk b o).wrap f (t.map (Expr.fold b)) := by
  rw [wrap, wrap]
  split
  · rfl
  · simp [Fragment.map, Fragment.withImport]

theorem fold_typeOf (f : Field) :
    (o.generator.typeOf f).map (Expr.fold b) = (Generator.mk b o).typeOf f := by
  rw [typeOf, typeOf]
  cases f.type with
  | enumeration values => exact fold_enum b o f values
  | string | integer | float => simp only [fold_wrap, fold_scalar, Options.options_generator]
  | unknown name => simp [fold_wrap]

theorem foldEntry_fieldOf (f : Field) :
    (o.generator.fieldOf f).map b.foldEntry = (Generator.mk b o).fieldOf f := by
  rw [fieldOf, fieldOf, ← fold_typeOf b]
  simp [Fragment.map]

theorem foldEntry_referenceOf (m : Model) (reference target : String) :
    (o.generator.referenceOf m reference target).map b.foldEntry =
      (Generator.mk b o).referenceOf m reference target := by
  simp [referenceOf]

theorem foldEntry_entriesOf (m : Model) (key : String) (f : Field) :
    (o.generator.entriesOf m key f).map (Fragment.map b.foldEntry) =
      (Generator.mk b o).entriesOf m key f := by
  rw [entriesOf, entriesOf, List.map_cons, foldEntry_fieldOf]
  cases m.reference? key with
  | none => rfl
  | some target => simp [foldEntry_referenceOf]

theorem foldEntry_bodyOf (m : Model) :
    (o.generator.bodyOf m).map (List.map b.foldEntry) = (Generator.mk b o).bodyOf m := by
  rw [bodyOf, bodyOf, ← Fragment.sequence_map, List.map_flatMap]
  simp only [foldEntry_entriesOf]

theorem fold?_declare (model : String) (m : Model) (ps : List (String × Expr)) :
    (o.generator.declare model m ps).fold? b =
      some ((Generator.mk b o).declare model m (ps.map b.foldEntry)) := by
  simp [declare]

theorem fold?_declarationOf (model : String) (m : Model) :
    (o.generator.declarationOf model m).map (Declaration.fold? b) =
      ((Generator.mk b o).declarationOf model m).map some := by
  rw [declarationOf, declarationOf, ← foldEntry_bodyOf b]
  simp [Fragment.map, fold?_declare]

theorem survey_builder (s : Schema) : (Generator.mk b o).survey s = o.generator.survey s := by
  simp only [survey, surveyModel, ← foldEntry_bodyOf b o]
  rfl

/-- A run with any builder fails as the run that makes trees does, or else gives the same keys in the
same order with the same imports, and makes of every model what the builder makes of its tree. -/
theorem outcome_declarations_fold (s : Schema) :
    ((Generator.mk b o).declarations s).outcome.map (OrderedMap.mapValues (Fragment.map some)) =
      (o.generator.declarations s).outcome.map
        (OrderedMap.mapValues (Fragment.map (Declaration.fold? b))) := by
  have hresult : ((Generator.mk b o).result s).mapValues (Fragment.map some) =
      (o.generator.result s).mapValues (Fragment.map (Declaration.fold? b)) := by
    simp only [result, OrderedMap.mapValues_mapEntries, fold?_declarationOf]
  rw [declarations_eq, declarations_eq, survey_builder, Logged.outcome_giving,
    Logged.outcome_giving]
  cases (o.generator.survey s).outcome with
  | error e => rfl
  | ok u => exact congrArg Except.ok hresult

end Generator
end GraphDecl
