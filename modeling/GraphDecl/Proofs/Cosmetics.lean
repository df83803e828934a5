import GraphDecl.Proofs.BuilderFold
import GraphDecl.Proofs.Contents

/-!
# Options that are only cosmetic

The default description, the keyword and the constructor of objects leave no trace in a declaration but
in the text of its descriptions and at its outermost place. `Declaration.bare` is what is left of a
declaration without these. Descriptions are made bare by a builder of their own, `Builder.undescribed`,
and with that builder generators that agree on the types make the same of every part of a schema
(`typeOf_agrees`, `bodyOf_agrees`), imports included.
-/

namespace GraphDecl

/-! ### What is disregarded -/

/-- The options differ at most in the default description, the style of declarations and the constructor
of objects. -/
structure Options.AgreesOnTypes (o o' : Options) : Prop where
  unknownTypes : o'.unknownTypes = o.unknownTypes
  string : o'.identifiers.string = o.identifiers.string
  int : o'.identifiers.int = o.identifiers.int
  float : o'.identifiers.float = o.identifiers.float
  nonNull : o'.identifiers.nonNull = o.identifiers.nonNull
  enumType : o'.identifiers.enumType = o.identifiers.enumType

/-- The constant with its text left out, if it is a text. -/
def Expr.textless : Expr → Expr
  | .literal (.string _) => .literal (.string "")
  | e => e

/-- The builder of trees whose descriptions have no text. -/
def Builder.undescribed : Builder Expr (String × Expr) Declaration :=
  { tree with
    property := fun key value => (key, if key = "description" then value.textless else value) }

/-- The constructor call without its callee. -/
def Expr.anonymous : Expr → Expr
  | .construct _ arguments => .construct "" arguments
  | e => e

/-- The declaration with its keyword, the callee of its value and the text of its descriptions
disregarded. -/
def Declaration.bare (d : Declaration) : Declaration :=
  ⟨.var, d.declarators.map fun x =>
    ⟨x.name, x.init.map fun e => (e.fold Builder.undescribed).anonymous⟩⟩

/-- The properties under `fields` whose types are names, each with the name of its type. -/
def Declaration.namedTypes (d : Declaration) : List (String × String) :=
  ((d.fields?.bind Expr.properties?).getD []).filterMap Expr.namedType?

/-! ### Generators that agree -/

namespace Generator
variable {o o' : Options}

@[simp] theorem description_undescribed (d : Option String) :
    (Generator.mk .undescribed o).description d = ("description", .literal (.string "")) := rfl

section
variable (h : o.AgreesOnTypes o')
include h

theorem enum_agrees (f : Field) (values : OrderedMap EnumValue) :
    (Generator.mk .undescribed o').enum f values = (Generator.mk .undescribed o).enum f values := by
  have hentries : ∀ v : String × EnumValue, (Generator.mk .undescribed o').enumEntry v.1 v.2 =
      (Generator.mk .undescribed o).enumEntry v.1 v.2 := fun _ => rfl
  simp only [enum, description_undescribed, h.enumType, hentries]
  rfl

theorem wrap_agrees (f : Field) (t : Fragment Expr) :
    (Generator.mk .undescribed o').wrap f t = (Generator.mk .undescribed o).wrap f t := by
  simp only [wrap, h.nonNull]

theorem typeOf_agrees (f : Field) :
    (Generator.mk .undescribed o').typeOf f = (Generator.mk .undescribed o).typeOf f := by
  rw [typeOf, typeOf]
  cases f.type with
  | enumeration values => exact enum_agrees h f values
  | string => simp only [wrap_agrees h, h.string]; rfl
  | integer => simp only [wrap_agrees h, h.int]; rfl
  | float => simp only [wrap_agrees h, h.float]; rfl
  | unknown name => exact wrap_agrees h f _

theorem entriesOf_agrees (m : Model) (key : String) (f : Field) :
    (Generator.mk .undescribed o').entriesOf m key f =
      (Generator.mk .undescribed o).entriesOf m key f := by
  have hreference : (Generator.mk .undescribed o').referenceOf m key =
      (Generator.mk .undescribed o).referenceOf m key := rfl
  rw [entriesOf, entriesOf, fieldOf, fieldOf, typeOf_agrees h, hreference]
  rfl

theorem bodyOf_agrees (m : Model) :
    (Generator.mk .undescribed o').bodyOf m = (Generator.mk .undescribed o).bodyOf m := by
  simp only [bodyOf, entriesOf_agrees h]

end

theorem bare_declare (key : String) (m : Model) (ps : List (String × Expr)) :
    (o.generator.declare key m ps).bare = .single .var (Naming.typeName key) (.construct "" [.object
      [("name", .literal (.string key)), ("description", .literal (.string "")),
        ("fields", .object (ps.map Builder.undescribed.foldEntry))]]) := by
  have hvalue : (Builder.tree.construct o.identifiers.objectType
      [Builder.tree.object (o.objectBody key m ps)]).fold .undescribed =
        .construct o.identifiers.objectType [.object
          [("name", .literal (.string key)), ("description", .literal (.string "")),
            ("fields", .object (ps.map Builder.undescribed.foldEntry))]] := by
    have hfields : (Expr.object ps).fold Builder.undescribed =
        .object (ps.map Builder.undescribed.foldEntry) := Builder.fold_object _ ps
    rw [Builder.fold_construct, List.map_singleton, Builder.fold_object, Options.objectBody,
      List.map_cons, List.map_cons, List.map_singleton, foldEntry_description, Builder.foldEntry,
      Builder.foldEntry, fold_text, hfields]
    rfl
  exact congrArg (fun e => Declaration.single .var (Naming.typeName key) e.anonymous) hvalue

theorem bare_declarationOf (h : o.AgreesOnTypes o') (key : String) (m : Model) :
    (o'.generator.declarationOf key m).map Declaration.bare =
      (o.generator.declarationOf key m).map Declaration.bare := by
  have hbody : (o'.generator.bodyOf m).map (List.map Builder.undescribed.foldEntry) =
      (o.generator.bodyOf m).map (List.map Builder.undescribed.foldEntry) := by
    rw [foldEntry_bodyOf, foldEntry_bodyOf, bodyOf_agrees h]
  have hdeclared : ∀ o : Options, (o.generator.declarationOf key m).map Declaration.bare =
      ((o.generator.bodyOf m).map (List.map Builder.undescribed.foldEntry)).map fun ps =>
        .single .var (Naming.typeName key) (.construct "" [.object
          [("name", .literal (.string key)), ("description", .literal (.string "")),
            ("fields", .object ps)]]) := by
    intro o
    simp only [declarationOf, Fragment.map, bare_declare]
  rw [hdeclared, hdeclared, hbody]

theorem result_agrees (h : o.AgreesOnTypes o') (s : Schema) :
    (o'.generator.result s).mapValues (Fragment.map Declaration.bare) =
      (o.generator.result s).mapValues (Fragment.map Declaration.bare) := by
  simp only [result, OrderedMap.mapValues_mapEntries, bare_declarationOf h]

/-! ### Properties whose types are names -/

theorem identifier?_wrap (f : Field) (name : String) :
    (o.generator.wrap f (o.generator.scalar name)).node.identifier? =
      if f.nullable then some name else none := by
  rw [wrap]
  split <;> rfl

theorem identifier?_typeOf_agrees (h : o.AgreesOnTypes o') (f : Field) :
    (o'.generator.typeOf f).node.identifier? = (o.generator.typeOf f).node.identifier? := by
  rw [typeOf, typeOf]
  cases f.type with
  | enumeration values => rfl
  | string => simp only [identifier?_wrap, Options.options_generator, h.string]
  | integer => simp only [identifier?_wrap, Options.options_generator, h.int]
  | float => simp only [identifier?_wrap, Options.options_generator, h.float]
  | unknown name =>
    simp only [wrap]
    split <;> rfl

end Generator

namespace Options
variable {o o' : Options}

/-- The names of types are those of the fields that may be null and are no enums, and those of the
targets of references under the names derived from these. -/
theorem namedTypes_declarationOf (key : String) (m : Model) :
    (o.generator.declarationOf key m).node.namedTypes = m.fields.entries.flatMap fun e =>
      ((o.generator.typeOf e.2).node.identifier?.map fun type => (e.2.name, type)).toList ++
        ((m.reference? e.1).map fun target =>
          (Naming.referenceName m e.1, Naming.typeName target)).toList := by
  rw [Declaration.namedTypes, fields?_declarationOf, Option.bind_some]
  change (o.emitted m).filterMap Expr.namedType? = _
  rw [emitted, List.filterMap_flatMap]
  refine List.flatMap_congr fun e _ => ?_
  rw [List.filterMap_eq_flatMap_toList, List.flatMap_cons, fieldProperty, namedType?_propertyBody,
    derivedProperty?]
  cases m.reference? e.1 <;> rfl

/-- Options that differ only in the default description, the style of declarations and the constructor
of objects fail with the same error, or else declare the same models in the same order with the same
imports, and with the same trees once the keyword, the outermost callee and the text of descriptions are
disregarded. So the properties with a name for a type have the same names and types, and among them are
those derived from references. -/
theorem declarations_agree (h : o.AgreesOnTypes o') (s : Schema) :
    (o'.generator.declarations s).outcome.map
        (OrderedMap.mapValues (Fragment.map Declaration.bare)) =
      (o.generator.declarations s).outcome.map
        (OrderedMap.mapValues (Fragment.map Declaration.bare)) ∧
    ∀ r r', (o.generator.declarations s).outcome = .ok r →
      (o'.generator.declarations s).outcome = .ok r' →
        ∀ key m, s.models.get? key = some m → ∃ d d', r.get? key = some d ∧ r'.get? key = some d' ∧
          d'.node.namedTypes = d.node.namedTypes ∧ ∀ field target, field ∈ m.fields.keys →
            m.reference? field = some target →
              (Naming.referenceName m field, Naming.typeName target) ∈ d.node.namedTypes := by
  have hsurvey : (o'.generator.survey s).outcome = (o.generator.survey s).outcome :=
    Generator.outcome_survey_congr h.unknownTypes s
  constructor
  · rw [Generator.declarations_eq, Generator.declarations_eq, Logged.outcome_giving,
      Logged.outcome_giving, hsurvey]
    cases (o.generator.survey s).outcome with
    | error e => rfl
    | ok u => exact congrArg Except.ok (Generator.result_agrees h s)
  · intro r r' hr hr' key m hm
    obtain ⟨-, rfl⟩ := o.generator.declarations_eq_ok.1 hr
    obtain ⟨-, rfl⟩ := o'.generator.declarations_eq_ok.1 hr'
    refine ⟨_, _, o.generator.get?_result_of_get? hm, o'.generator.get?_result_of_get? hm, ?_, ?_⟩
    · simp only [namedTypes_declarationOf, Generator.identifier?_typeOf_agrees h]
    · intro field target hfield htarget
      obtain ⟨e, he, rfl⟩ := List.mem_map.1 hfield
      rw [namedTypes_declarationOf]
      refine List.mem_flatMap.2 ⟨e, he, List.mem_append_right _ ?_⟩
      rw [htarget]
      exact List.mem_singleton_self _

/-- Unknown types are let through. -/
def lenient : Options where
  unknownTypes := .permissive

/-- The same for constants that are described and constructed in another way. -/
def decorated : Options where
  defaultDescription := "none"
  declarationStyle := .immutable
  unknownTypes := .permissive
  identifiers := { objectType := "ObjectType" }

open Generator (post) in
theorem declarations_agree_post : lenient.AgreesOnTypes decorated ∧
    (decorated.generator.declarations post).outcome.map
        (OrderedMap.mapValues (Fragment.map Declaration.bare)) =
      (lenient.generator.declarations post).outcome.map
        (OrderedMap.mapValues (Fragment.map Declaration.bare)) ∧
    ∃ r r' d d', (lenient.generator.declarations post).outcome = .ok r ∧
      (decorated.generator.declarations post).outcome = .ok r' ∧
      r.get? "Post" = some d ∧ r'.get? "Post" = some d' ∧
      d.node.keyword = .var ∧ d'.node.keyword = .const ∧
      d'.node.namedTypes = d.node.namedTypes ∧ ("author", "UserType") ∈ d'.node.namedTypes := by
  have hagrees : lenient.AgreesOnTypes decorated := ⟨rfl, rfl, rfl, rfl, rfl, rfl⟩
  obtain ⟨hbare, hnamed⟩ := declarations_agree hagrees post
  obtain ⟨d, d', hd, hd', htypes, hderived⟩ := hnamed _ _ rfl rfl "Post" _ rfl
  refine ⟨hagrees, hbare, _, _, d, d', rfl, rfl, hd, hd', ?_, ?_, htypes, ?_⟩
  · cases hd; rfl
  · cases hd'; rfl
  · rw [htypes]
    exact hderived "authorId" "User" (by decide) rfl

end Options

end GraphDecl
