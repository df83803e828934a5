import GraphDecl.Proofs.Contents
import GraphDecl.Proofs.Links
import GraphDecl.Proofs.Reordered

/-!
# Names of the framework that are bound

A declaration calls the constructors of the framework and has the names of its scalars for types. It
also binds a name, the key of its model with `Type` behind it, and nothing keeps that name from being
one of the framework. What a declaration takes from the framework is what it imports for the types of
its fields, and the constructor of objects besides (`mem_frameworkNames_declarationOf`). Of the names
of the framework only two end in `Type`, so these two alone can be bound (`captured_iff`).
-/

namespace GraphDecl

/-! ### What a declaration takes from the framework -/

namespace Options
variable {o : Options}

/-- The names of the scalars. -/
def scalars (o : Options) : List String :=
  [o.identifiers.string, o.identifiers.int, o.identifiers.float]

/-- The name that an expression takes from the framework: the callee of a constructor call, or a
scalar. -/
def frameworkName? (o : Options) : Expr → Option String
  | .construct callee _ => some callee
  | .identifier name => if name ∈ o.scalars then some name else none
  | .literal _ | .object _ => none

/-- The names that a declaration takes from the framework. -/
def frameworkNames (o : Options) (d : Declaration) : List String := d.found o.frameworkName?

theorem frameworkName?_passesOverData (o : Options) : Expr.PassesOverData o.frameworkName? :=
  ⟨fun _ => rfl, fun _ => rfl⟩

theorem frameworkName?_of_mem {name : String} (h : name ∈ o.scalars) :
    o.frameworkName? (.identifier name) = some name := if_pos h

theorem frameworkName?_of_not_mem {name : String} (h : name ∉ o.scalars) :
    o.frameworkName? (.identifier name) = none := if_neg h

/-- The expression takes from the framework the names that stand beside it as imports. -/
def TakesImports (o : Options) (t : Fragment Expr) : Prop :=
  ∀ name, name ∈ t.node.found o.frameworkName? ↔ name ∈ t.imports.names

theorem takesImports_enum (f : Field) (values : OrderedMap EnumValue) :
    o.TakesImports (o.generator.enum f values) := by
  intro name
  rw [Generator.found_enum o.frameworkName?_passesOverData, Generator.enum, Fragment.withImport,
    Imports.mem_names_add]
  simp [frameworkName?, Fragment.of]

theorem takesImports_scalar {scalar : String} (h : scalar ∈ o.scalars) :
    o.TakesImports (o.generator.scalar scalar) := by
  intro name
  have hfound : (o.generator.scalar scalar).node.found o.frameworkName? = [scalar] := by
    refine (Builder.found_identifier scalar).trans ?_
    rw [frameworkName?_of_mem h]
    rfl
  rw [hfound, Generator.scalar, Fragment.withImport, Imports.mem_names_add]
  simp [Fragment.of]

theorem takesImports_placeholder (h : "undefined" ∉ o.scalars) :
    o.TakesImports (.of (.identifier Event.placeholder)) := by
  intro name
  have hfound : (Expr.identifier Event.placeholder).found o.frameworkName? = [] := by
    refine (Builder.found_identifier Event.placeholder).trans ?_
    rw [Event.placeholder, frameworkName?_of_not_mem h]
    rfl
  rw [Fragment.of, hfound]
  rfl

theorem TakesImports.wrap {t : Fragment Expr} (h : o.TakesImports t) (f : Field) :
    o.TakesImports (o.generator.wrap f t) := by
  intro name
  rw [Generator.found_wrap, List.mem_append, h name, Generator.wrap]
  cases f.nullable with
  | true => simp
  | false =>
    simp [frameworkName?, Fragment.map, Fragment.withImport, Imports.mem_names_add, or_comm]

theorem takesImports_typeOf (h : "undefined" ∉ o.scalars) (f : Field) :
    o.TakesImports (o.generator.typeOf f) := by
  rw [Generator.typeOf]
  cases f.type with
  | enumeration values => exact takesImports_enum f values
  | string => exact (takesImports_scalar (by simp [scalars])).wrap f
  | integer => exact (takesImports_scalar (by simp [scalars])).wrap f
  | float => exact (takesImports_scalar (by simp [scalars])).wrap f
  | unknown name => exact (takesImports_placeholder h).wrap f

/-- A declaration takes from the framework the constructor of objects and what the types of its fields
import. -/
theorem mem_frameworkNames_declarationOf (hundefined : "undefined" ∉ o.scalars)
    (htype : ∀ target, Naming.typeName target ∉ o.scalars) {key : String} {m : Model} {name : String} :
    name ∈ o.frameworkNames (o.generator.declarationOf key m).node ↔
      name = o.identifiers.objectType ∨
        ∃ e ∈ m.fields.entries, name ∈ (o.generator.typeOf e.2).imports.names := by
  have htop := found_declarationOf (o := o) o.frameworkName?_passesOverData
    (fun target => frameworkName?_of_not_mem (htype target)) key m
  rw [frameworkNames, htop, List.mem_append, List.mem_flatMap]
  simp only [takesImports_typeOf hundefined _ name]
  simp [frameworkName?]

theorem mem_imports_wrap {f : Field} {t : Fragment Expr} {name : String} :
    name ∈ (o.generator.wrap f t).imports.names ↔
      name ∈ t.imports.names ∨ f.nullable = false ∧ name = o.identifiers.nonNull := by
  rw [Generator.wrap]
  cases f.nullable with
  | true => simp
  | false => simp [Fragment.map, Fragment.withImport, Imports.mem_names_add]

end Options

/-! ### Names that declarations bind -/

namespace Schema

/-- Some field of a model is an enum. -/
def HasEnum (s : Schema) : Prop :=
  ∃ e ∈ s.models.entries, ∃ x ∈ e.2.fields.entries, x.2.type.isEnum = true

/-- Some reference of a model leads to this key. -/
def Targets (s : Schema) (key : String) : Prop :=
  ∃ e ∈ s.models.entries, ∃ x ∈ e.2.references.entries, x.2 = key

end Schema

theorem Naming.typeName_ne {name : String} (h : name.toList.getLast? ≠ some 'e') (model : String) :
    typeName model ≠ name := by
  rintro rfl
  simp [typeName] at h

theorem Naming.typeName_eq_enumType {key : String} :
    typeName key = "GraphQLEnumType" ↔ key = "GraphQLEnum" :=
  typeName_injective.eq_iff (b := "GraphQLEnum")

theorem Naming.typeName_eq_objectType {key : String} :
    typeName key = "GraphQLObjectType" ↔ key = "GraphQLObject" :=
  typeName_injective.eq_iff (b := "GraphQLObject")

namespace Options
open Naming

/-- One declaration of the run binds the name and one takes it from the framework. -/
def Captured (o : Options) (r : OrderedMap (Fragment Declaration)) (name : String) : Prop :=
  name ∈ boundNames r ∧ ∃ e ∈ r.entries, name ∈ o.frameworkNames e.2.node

theorem typeName_not_mem_scalars (model : String) : typeName model ∉ ({} : Options).scalars := by
  simp only [scalars, List.mem_cons, List.not_mem_nil, or_false, not_or]
  exact ⟨typeName_ne (by decide) model, typeName_ne (by decide) model, typeName_ne (by decide) model⟩

theorem typeName_not_mem_imports_wrap {key : String} {f : Field} {t : Fragment Expr}
    (h : typeName key ∉ t.imports.names) :
    typeName key ∉ (({} : Options).generator.wrap f t).imports.names := by
  rw [mem_imports_wrap, not_or]
  exact ⟨h, fun hwrap => typeName_ne (by decide) key hwrap.2⟩

theorem typeName_not_mem_imports_scalar {key scalar : String}
    (h : scalar.toList.getLast? ≠ some 'e') :
    typeName key ∉ (({} : Options).generator.scalar scalar).imports.names := by
  rw [Generator.scalar, Fragment.withImport, Imports.mem_names_add, not_or]
  exact ⟨List.not_mem_nil, typeName_ne h key⟩

/-- Of the names that the type of a field imports, only that of enums can be the name of a
declaration. -/
theorem typeName_mem_imports_typeOf {key : String} {f : Field} :
    typeName key ∈ (({} : Options).generator.typeOf f).imports.names ↔
      key = "GraphQLEnum" ∧ f.type.isEnum = true := by
  rw [Generator.typeOf, FieldType.isEnum]
  cases f.type with
  | enumeration values =>
    simp [Generator.enum, Fragment.of, Fragment.withImport, Imports.mem_names_add,
      FieldType.enumValues?, typeName_eq_enumType]
  | string | integer | float =>
    simpa [FieldType.enumValues?] using
      typeName_not_mem_imports_wrap (f := f) (typeName_not_mem_imports_scalar (by decide))
  | unknown name =>
    simpa [FieldType.enumValues?] using
      typeName_not_mem_imports_wrap (f := f) (t := .of (Builder.tree.identifier Event.placeholder))
        List.not_mem_nil

variable {s : Schema} {name : String}

/-- Only the constructors of objects and of enums can be bound, and they are if a model has the key for
it and a declaration calls them, which every declaration does for objects. -/
theorem captured_result_iff : ({} : Options).Captured (({} : Options).generator.result s) name ↔
    name = "GraphQLObjectType" ∧ "GraphQLObject" ∈ s.models.keys ∨
      name = "GraphQLEnumType" ∧ "GraphQLEnum" ∈ s.models.keys ∧ s.HasEnum := by
  have htakes : ∀ (key : String) m, name ∈ ({} : Options).frameworkNames
      (({} : Options).generator.declarationOf key m).node ↔ name = "GraphQLObjectType" ∨
        ∃ e ∈ m.fields.entries, name ∈ (({} : Options).generator.typeOf e.2).imports.names :=
    fun key m => mem_frameworkNames_declarationOf (by decide) typeName_not_mem_scalars
  rw [Captured, boundNames_result, List.mem_map]
  constructor
  · rintro ⟨⟨key, hkey, rfl⟩, e, he, hname⟩
    obtain ⟨⟨model, m⟩, hm, rfl⟩ := List.mem_map.1 he
    rcases (htakes model m).1 hname with hname | ⟨x, hx, hname⟩
    · obtain rfl := typeName_eq_objectType.1 hname
      exact .inl ⟨hname, hkey⟩
    · obtain ⟨rfl, henum⟩ := typeName_mem_imports_typeOf.1 hname
      exact .inr ⟨rfl, hkey, (model, m), hm, x, hx, henum⟩
  · rintro (⟨rfl, hkey⟩ | ⟨rfl, hkey, ⟨model, m⟩, hm, x, hx, henum⟩)
    · obtain ⟨⟨model, m⟩, hm, -⟩ := List.mem_map.1 hkey
      exact ⟨⟨_, hkey, rfl⟩, _, List.mem_map_of_mem hm, (htakes model m).2 (.inl rfl)⟩
    · have himport := typeName_mem_imports_typeOf.2 ⟨rfl, henum⟩
      exact ⟨⟨_, hkey, rfl⟩, _, List.mem_map_of_mem hm, (htakes model m).2 (.inr ⟨x, hx, himport⟩)⟩

/-- A declaration imports the names of its targets, and the constructor of enums if it has one. -/
theorem typeName_mem_imports_declarationOf (key : String) {model : String} {m : Model} :
    typeName key ∈ (({} : Options).generator.declarationOf model m).imports.names ↔
      (key = "GraphQLEnum" ∧ ∃ e ∈ m.fields.entries, e.2.type.isEnum = true) ∨
        ∃ e ∈ m.fields.entries, m.reference? e.1 = some key := by
  refine (mem_imports_bodyOf {}).trans ?_
  simp only [typeName_mem_imports_typeOf, typeName_injective.eq_iff, exists_eq_right', and_or_left,
    exists_or]
  refine or_congr_left ?_
  constructor
  · rintro ⟨e, he, rfl, henum⟩
    exact ⟨rfl, e, he, henum⟩
  · rintro ⟨rfl, e, he, henum⟩
    exact ⟨e, he, rfl, henum⟩

/-- In a valid schema what a reference leads to is imported. -/
theorem targets_iff (hv : s.validate.outcome = .ok ()) {key : String} : s.Targets key ↔
    ∃ e ∈ s.models.entries, ∃ x ∈ e.2.fields.entries, e.2.reference? x.1 = some key := by
  constructor
  · rintro ⟨⟨model, m⟩, hm, ⟨field, target⟩, ht, rfl⟩
    have hsound := s.validate_eq_ok_iff.1 hv model m (OrderedMap.get?_eq_some_iff.2 hm)
    obtain ⟨x, hx, rfl⟩ := List.mem_map.1 (hsound.references field (List.mem_map_of_mem ht))
    exact ⟨(model, m), hm, x, hx, OrderedMap.get?_eq_some_iff.2 ht⟩
  · rintro ⟨⟨model, m⟩, hm, x, -, hx⟩
    exact ⟨(model, m), hm, _, OrderedMap.get?_eq_some_iff.1 hx, rfl⟩

/-- In a run with the default options on a valid schema the only names that a declaration binds and
some declaration takes from the framework are the constructors of objects and of enums. That of objects
is one of them if a model has the key `GraphQLObject`, and it is imported besides if a reference leads
to that model; that of enums is one if a model has the key `GraphQLEnum` and some field is an enum, and
it is imported then. -/
theorem captured_iff (hv : s.validate.outcome = .ok ()) {r : OrderedMap (Fragment Declaration)}
    (hr : (({} : Options).generator.declarations s).outcome = .ok r) (name : String) :
    (({} : Options).Captured r name ↔
      name = "GraphQLObjectType" ∧ "GraphQLObject" ∈ s.models.keys ∨
        name = "GraphQLEnumType" ∧ "GraphQLEnum" ∈ s.models.keys ∧ s.HasEnum) ∧
    ((({} : Options).Captured r name ∧ ∃ e ∈ r.entries, name ∈ e.2.imports.names) ↔
      name = "GraphQLObjectType" ∧ "GraphQLObject" ∈ s.models.keys ∧ s.Targets "GraphQLObject" ∨
        name = "GraphQLEnumType" ∧ "GraphQLEnum" ∈ s.models.keys ∧ s.HasEnum) := by
  obtain ⟨-, rfl⟩ := (({} : Options).generator.declarations_eq_ok).1 hr
  refine ⟨captured_result_iff, ?_⟩
  rw [captured_result_iff]
  constructor
  · rintro ⟨⟨rfl, hkey⟩ | henum, e, he, hname⟩
    · obtain ⟨⟨model, m⟩, hm, rfl⟩ := List.mem_map.1 he
      rcases (typeName_mem_imports_declarationOf "GraphQLObject").1 hname with
        ⟨hne, -⟩ | ⟨x, hx, htarget⟩
      · exact absurd hne (by decide)
      · exact .inl ⟨rfl, hkey, (targets_iff hv).2 ⟨(model, m), hm, x, hx, htarget⟩⟩
    · exact .inr henum
  · rintro (⟨rfl, hkey, htarget⟩ | ⟨rfl, hkey, henum⟩)
    · obtain ⟨e, he, htarget⟩ := (targets_iff hv).1 htarget
      exact ⟨.inl ⟨rfl, hkey⟩, _, List.mem_map_of_mem he,
        (typeName_mem_imports_declarationOf "GraphQLObject").2 (.inr htarget)⟩
    · obtain ⟨e, he, hfield⟩ := henum
      exact ⟨.inr ⟨rfl, hkey, e, he, hfield⟩, _, List.mem_map_of_mem he,
        (typeName_mem_imports_declarationOf "GraphQLEnum").2 (.inl ⟨rfl, hfield⟩)⟩

/-- A model with the key of an enum constructor, and one with an enum. -/
def enumNamed : Schema :=
  .add (.add .empty (.withField (.new "GraphQLEnum") (.new "id" .integer)))
    (.withField (.new "Task") (.enumeration "state" [("open", ⟨.integer 0, none⟩)]))

theorem captured_iff_enumNamed :
    ∃ r, enumNamed.validate.outcome = .ok () ∧
      (({} : Options).generator.declarations enumNamed).outcome = .ok r ∧
      ({} : Options).Captured r "GraphQLEnumType" ∧
      (∃ e ∈ r.entries, "GraphQLEnumType" ∈ e.2.imports.names) ∧
      ¬ ({} : Options).Captured r "GraphQLObjectType" := by
  have hr : (({} : Options).generator.declarations enumNamed).outcome = .ok _ := rfl
  have henum : enumNamed.HasEnum :=
    ⟨_, List.mem_cons_of_mem _ List.mem_cons_self, _, List.mem_cons_self, rfl⟩
  have hcaptured := (captured_iff (s := enumNamed) rfl hr "GraphQLEnumType").2.2
    (.inr ⟨rfl, by decide, henum⟩)
  have hobject := (captured_iff (s := enumNamed) rfl hr "GraphQLObjectType").1
  refine ⟨_, rfl, hr, hcaptured.1, hcaptured.2, fun h => ?_⟩
  rcases hobject.1 h with ⟨-, hkey⟩ | ⟨hne, -⟩
  · exact absurd hkey (by decide)
  · exact absurd hne (by decide)

/-- A model with the key of the object constructor, and one that refers to it. -/
def objectNamed : Schema :=
  .add (.add .empty (.new "GraphQLObject")) <|
    .withReference (.withField (.new "Task") (.new "ownerId" .integer)) "ownerId" "GraphQLObject"

/-- The declaration of the first calls the constructor that it binds, and the other imports it. -/
theorem objectNamed_captures :
    ∃ r d e arguments, objectNamed.validate.outcome = .ok () ∧
      (({} : Options).generator.declarations objectNamed).outcome = .ok r ∧
      r.get? "GraphQLObject" = some d ∧ r.get? "Task" = some e ∧
      d.node = .single .var "GraphQLObjectType" (.construct "GraphQLObjectType" arguments) ∧
      ({} : Options).Captured r "GraphQLObjectType" ∧ "GraphQLObjectType" ∈ e.imports.names := by
  have htakes : "GraphQLObjectType" ∈ ({} : Options).frameworkNames
      (({} : Options).generator.declarationOf "GraphQLObject" (.new "GraphQLObject")).node :=
    (mem_frameworkNames_declarationOf (by decide) typeName_not_mem_scalars).2 (.inl rfl)
  refine ⟨_, _, _, _, rfl, rfl, rfl, rfl, rfl, ⟨?_, _, List.mem_cons_self, htakes⟩, ?_⟩
  · decide
  · decide

end Options
end GraphDecl
