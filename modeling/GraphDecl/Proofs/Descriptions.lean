import GraphDecl.Proofs.Accepted
import GraphDecl.Proofs.Contents

/-!
# Descriptions

A description that is absent or empty counts as the default one, and every description of a schema is
read in that way. So one of these may come in place of another anywhere in a schema, and nothing
generated changes (`Generator.declarations_redescribed`). The descriptions in a declaration are those of
the model, its fields and its enum values, read so, and those made for its references
(`Options.descriptions_declarationOf`); none of them is empty unless the default one is.
-/

namespace GraphDecl

/-! ### Schemas that differ in descriptions -/

/-- One description comes in place of another: the default one for one that is absent or empty, or none
for one that is empty or the default. -/
inductive Options.Redescribes (o : Options) : Option String → Option String → Prop
  | kept {d : Option String} : o.Redescribes d d
  | filled {d : Option String} (h : d = none ∨ d = some "") :
      o.Redescribes d (some o.defaultDescription)
  | dropped {d : Option String} (h : d = some o.defaultDescription ∨ d = some "") :
      o.Redescribes d none

/-- The same but for the description. -/
structure EnumValue.Redescribed (o : Options) (v w : EnumValue) : Prop where
  value : w.value = v.value
  description : o.Redescribes v.description w.description

/-- The same but for the descriptions of enum values. -/
inductive FieldType.Redescribed (o : Options) : FieldType → FieldType → Prop
  | same {t : FieldType} : Redescribed o t t
  | enumeration {values values' : OrderedMap EnumValue}
      (h : Entrywise (fun _ => EnumValue.Redescribed o) values.entries values'.entries) :
      Redescribed o (.enumeration values) (.enumeration values')

structure Field.Redescribed (o : Options) (f g : Field) : Prop where
  name : g.name = f.name
  description : o.Redescribes f.description g.description
  type : FieldType.Redescribed o f.type g.type
  nullable : g.nullable = f.nullable

structure Model.Redescribed (o : Options) (m n : Model) : Prop where
  name : n.name = m.name
  description : o.Redescribes m.description n.description
  fields : Entrywise (fun _ => Field.Redescribed o) m.fields.entries n.fields.entries
  references : n.references = m.references

/-- The same models in the same order but for descriptions, any number of them at any places. -/
def Schema.Redescribed (o : Options) (s t : Schema) : Prop :=
  Entrywise (fun _ => Model.Redescribed o) s.models.entries t.models.entries

/-! ### What is generated -/

/-- A description is read as before. -/
theorem Options.describe_redescribes {o : Options} {d d' : Option String} (h : o.Redescribes d d') :
    o.describe d' = o.describe d := by
  have hdefault : o.describe (some o.defaultDescription) = o.defaultDescription := by
    rw [describe]
    split
    · rfl
    · rfl
  cases h with
  | kept => rfl
  | filled h =>
    rw [hdefault]
    rcases h with rfl | rfl
    · rfl
    · exact o.describe_empty.symm
  | dropped h =>
    rcases h with rfl | rfl
    · exact hdefault.symm
    · exact o.describe_empty.symm

theorem Model.referenceName_redescribed {o : Options} {m n : Model} (h : m.Redescribed o n)
    (reference : String) : Naming.referenceName n reference = Naming.referenceName m reference := by
  have hfield : ∀ key, n.hasField key = m.hasField key := by
    intro key
    have hrel := h.fields.lookup key
    rw [hasField, hasField, OrderedMap.contains, OrderedMap.contains, OrderedMap.get?, OrderedMap.get?]
    generalize m.fields.entries.lookup key = a at hrel
    generalize n.fields.entries.lookup key = b at hrel
    cases hrel <;> rfl
  rw [Naming.referenceName, Naming.referenceName, hfield]

namespace Generator
variable {E P D : Type} {g : Generator E P D}

theorem description_redescribed {d d' : Option String} (h : g.options.Redescribes d d') :
    g.description d' = g.description d := by
  rw [description, description, Options.describe_redescribes h]

theorem enumEntry_redescribed (key : String) {v w : EnumValue} (h : v.Redescribed g.options w) :
    g.enumEntry key w = g.enumEntry key v := by
  rw [enumEntry, enumEntry, h.value, description_redescribed h.description]

section
variable {f f' : Field} (h : f.Redescribed g.options f')
include h

theorem enum_redescribed {values values' : OrderedMap EnumValue}
    (hvalues : Entrywise (fun _ => EnumValue.Redescribed g.options) values.entries values'.entries) :
    g.enum f' values' = g.enum f values := by
  have hentries : values'.entries.map (fun v => g.enumEntry v.1 v.2) =
      values.entries.map fun v => g.enumEntry v.1 v.2 :=
    hvalues.map_congr fun key _ _ => enumEntry_redescribed key
  rw [enum, enum, h.name, description_redescribed h.description, hentries]

theorem type_redescribed (model : String) : g.type model f' = g.type model f := by
  have hwrap : ∀ t, g.wrap f' t = g.wrap f t := by
    intro t
    rw [wrap, wrap, h.nullable]
  have htype := h.type
  rw [type, type]
  generalize f.type = t at htype
  generalize f'.type = t' at htype
  cases htype with
  | enumeration hvalues => exact congrArg pure (enum_redescribed h hvalues)
  | same =>
    cases t with
    | enumeration values => exact congrArg pure (enum_redescribed h (.refl (fun _ _ => ⟨rfl, .kept⟩) _))
    | string | integer | float => simp only [hwrap]
    | unknown name => simp only [hwrap, h.name]

theorem field_redescribed (model : String) : g.field model f' = g.field model f := by
  have hentry : g.entry f'.name f'.description = g.entry f.name f.description := by
    funext type
    rw [entry, entry, h.name, description_redescribed h.description]
  rw [field, field, type_redescribed h, hentry]

end

section
variable {m n : Model} (h : m.Redescribed g.options n)
include h

theorem reference_redescribed (reference target : String) :
    g.reference n reference target = g.reference m reference target := by
  rw [Generator.reference, Generator.reference, h.name, Model.referenceName_redescribed h]

theorem entries_redescribed (model key : String) {f f' : Field} (hf : f.Redescribed g.options f') :
    g.entries model n key f' = g.entries model m key f := by
  have hreference : n.reference? key = m.reference? key := by
    rw [Model.reference?, Model.reference?, h.references]
  simp only [entries, field_redescribed hf, hreference, reference_redescribed h]

theorem body_redescribed (model : String) : g.body model n = g.body model m := by
  have hentries : n.fields.entries.mapM (fun e => g.entries model n e.1 e.2) =
      m.fields.entries.mapM fun e => g.entries model m e.1 e.2 :=
    h.fields.mapM_congr fun key _ _ => entries_redescribed h model key
  rw [body, body, hentries]

theorem declaration_redescribed (model : String) : g.declaration model n = g.declaration model m := by
  have hdeclare : g.declare model n = g.declare model m := by
    funext fields
    rw [declare, declare, description_redescribed h.description]
  rw [declaration, declaration, body_redescribed h, hdeclare]

theorem step_redescribed (model : String) : g.step model n = g.step model m := by
  have hsize : n.fields.size = m.fields.size := h.fields.length_eq.symm
  rw [step, step, declaration_redescribed h, hsize, h.references]

end

/-- A run does not change with the descriptions of a schema, nor does what it reports. -/
theorem declarations_redescribed {s t : Schema} (h : s.Redescribed g.options t) :
    g.declarations t = g.declarations s := by
  have hsteps : t.models.entries.mapM (fun e => do return (e.1, ← g.step e.1 e.2)) =
      s.models.entries.mapM fun e => do return (e.1, ← g.step e.1 e.2) :=
    h.mapM_congr fun key _ _ hmodel => by rw [step_redescribed hmodel]
  rw [declarations, declarations, hsteps]

end Generator

/-! ### The descriptions in a declaration -/

/-- The text of a description that is a constant. -/
def Node.description? : Node → Option String
  | .property key (.literal (.string text)) => if key = "description" then some text else none
  | _ => none

namespace Expr

/-- The descriptions inside an expression. -/
def descriptions (e : Expr) : List String := e.nodes.filterMap Node.description?

/-- The descriptions that a property is or has inside its value. -/
def propertyDescriptions (p : String × Expr) : List String :=
  (Node.property p.1 p.2).description?.toList ++ p.2.descriptions

theorem descriptions_identifier (name : String) : (identifier name).descriptions = [] := by
  rw [descriptions, nodes]; rfl

theorem descriptions_literal (l : Literal) : (literal l).descriptions = [] := by
  rw [descriptions, nodes]; rfl

theorem descriptions_object (ps : List (String × Expr)) :
    (object ps).descriptions = ps.flatMap propertyDescriptions := by
  rw [descriptions, nodes, nodesOfProperties_eq_flatMap, List.filterMap_cons, List.filterMap_flatMap]
  refine List.flatMap_congr fun p _ => ?_
  rw [List.filterMap_cons, propertyDescriptions]
  cases (Node.property p.1 p.2).description? <;> rfl

theorem descriptions_construct (callee : String) (e : Expr) :
    (construct callee [e]).descriptions = e.descriptions := by
  rw [descriptions, nodes, nodesOfArguments_eq_flatMap, List.flatMap_singleton]
  rfl

theorem propertyDescriptions_of_ne {key : String} (h : key ≠ "description") (e : Expr) :
    propertyDescriptions (key, e) = e.descriptions := by
  have hnone : (Node.property key e).description? = none := by
    rw [Node.description?.eq_def]
    split
    · rename_i heq
      cases heq
      exact if_neg h
    · rfl
  rw [propertyDescriptions, hnone]
  rfl

end Expr

/-- The descriptions in a declaration, in the order of its nodes. -/
def Declaration.descriptions (d : Declaration) : List String := d.nodes.filterMap Node.description?

theorem Declaration.descriptions_single (k : Keyword) (name : String) (e : Expr) :
    (single k name e).descriptions = e.descriptions := by
  have hnodes : (single k name e).nodes =
      .declaration (single k name e) :: .declarator ⟨name, some e⟩ :: .identifier name :: e.nodes := by
    simp [nodes, single, Declarator.nodes]
  rw [descriptions, hnodes]
  rfl

namespace Options
open GraphDecl.Expr
variable {o : Options}

/-- The descriptions of an enum made for a field: its own and those of its values. -/
def enumDescriptions (o : Options) (f : Field) (values : OrderedMap EnumValue) : List String :=
  o.describe f.description :: values.entries.map fun v => o.describe v.2.description

/-- The descriptions of the property of a field, those of its enum first. -/
def fieldDescriptions (o : Options) (f : Field) : List String :=
  f.type.enumValues?.elim [] (o.enumDescriptions f) ++ [o.describe f.description]

/-- The description of what is derived from the reference of the field under `key`. -/
def referenceDescription? (o : Options) (m : Model) (key : String) : Option String :=
  (m.reference? key).map fun target =>
    Naming.referenceDescription o.defaultDescription (Naming.referenceName m key) target

theorem propertyDescriptions_description (d : Option String) :
    propertyDescriptions (o.generator.description d) = [o.describe d] := by
  change propertyDescriptions ("description", .literal (.string (o.describe d))) = _
  rw [propertyDescriptions, descriptions_literal]
  rfl

theorem descriptions_propertyBody (type : Expr) (d : Option String) :
    (propertyBody type (o.describe d)).descriptions = type.descriptions ++ [o.describe d] := by
  have hdescription := propertyDescriptions_description (o := o) d
  change (Expr.object [("type", type), o.generator.description d]).descriptions = _
  rw [descriptions_object, List.flatMap_cons, propertyDescriptions_of_ne (by decide),
    List.flatMap_singleton, hdescription]

theorem descriptions_enumEntry (key : String) (v : EnumValue) :
    propertyDescriptions (o.generator.enumEntry key v) = [o.describe v.description] := by
  change (Expr.object [("value", .literal v.value),
    o.generator.description v.description]).descriptions = _
  rw [descriptions_object, List.flatMap_cons, propertyDescriptions_of_ne (by decide),
    List.flatMap_singleton, propertyDescriptions_description, descriptions_literal, List.nil_append]

theorem descriptions_enum (f : Field) (values : OrderedMap EnumValue) :
    (o.generator.enum f values).node.descriptions = o.enumDescriptions f values := by
  have hvalues : (Expr.object (values.entries.map fun v =>
      o.generator.enumEntry v.1 v.2)).descriptions =
        values.entries.map fun v => o.describe v.2.description := by
    rw [descriptions_object, List.flatMap_map, List.map_eq_flatMap]
    exact List.flatMap_congr fun v _ => descriptions_enumEntry v.1 v.2
  have hname : propertyDescriptions ("name", o.generator.text (Naming.capitalize f.name)) = [] :=
    (propertyDescriptions_of_ne (by decide) _).trans (descriptions_literal _)
  change (Expr.construct o.identifiers.enumType [.object (o.enumBody f values)]).descriptions = _
  rw [descriptions_construct, descriptions_object, enumBody, List.flatMap_cons, List.flatMap_cons,
    List.flatMap_singleton, hname, propertyDescriptions_description,
    propertyDescriptions_of_ne (by decide), hvalues]
  rfl

theorem descriptions_wrap (f : Field) (t : Fragment Expr) :
    (o.generator.wrap f t).node.descriptions = t.node.descriptions := by
  rw [Generator.wrap]
  split
  · rfl
  · exact descriptions_construct _ _

theorem descriptions_typeOf (f : Field) :
    (o.generator.typeOf f).node.descriptions = f.type.enumValues?.elim [] (o.enumDescriptions f) := by
  rw [Generator.typeOf]
  cases f.type with
  | enumeration values => exact descriptions_enum f values
  | string | integer | float | unknown name =>
    exact (descriptions_wrap f _).trans (descriptions_identifier _)

theorem descriptions_fieldProperty (f : Field) :
    propertyDescriptions (o.fieldProperty f) = o.fieldDescriptions f := by
  have hbody := descriptions_propertyBody (o := o) (o.generator.typeOf f).node f.description
  rw [descriptions_typeOf] at hbody
  exact hbody

/-- What is made for a reference is never empty, so the default one does not come in its place. -/
theorem descriptions_referenceProperty (m : Model) (reference target : String) :
    propertyDescriptions (o.referenceProperty m reference target) =
      [Naming.referenceDescription o.defaultDescription (Naming.referenceName m reference) target] := by
  have hbody := descriptions_propertyBody (o := o) (.identifier (Naming.typeName target))
    (some (Naming.referenceDescription o.defaultDescription (Naming.referenceName m reference) target))
  rw [descriptions_identifier, o.describe_of_ne (Naming.referenceDescription_ne_empty _ _ _)] at hbody
  rw [referenceProperty, o.describe_of_ne (Naming.referenceDescription_ne_empty _ _ _)]
  exact hbody

theorem descriptions_emitted (m : Model) : (o.emitted m).flatMap propertyDescriptions =
    m.fields.entries.flatMap fun e =>
      o.fieldDescriptions e.2 ++ (o.referenceDescription? m e.1).toList := by
  rw [emitted, List.flatMap_assoc]
  refine List.flatMap_congr fun e _ => ?_
  rw [List.flatMap_cons, descriptions_fieldProperty, derivedProperty?, referenceDescription?]
  cases m.reference? e.1 with
  | none => rfl
  | some target =>
    rw [Option.map_some, Option.toList_some, List.flatMap_singleton, descriptions_referenceProperty]
    rfl

/-- The descriptions of a declaration are that of the model and, for each field, those of its property
and that of what is derived from its reference. -/
theorem descriptions_declarationOf (key : String) (m : Model) :
    (o.generator.declarationOf key m).node.descriptions =
      o.describe m.description :: m.fields.entries.flatMap fun e =>
        o.fieldDescriptions e.2 ++ (o.referenceDescription? m e.1).toList := by
  have hname : propertyDescriptions ("name", o.generator.text key) = [] :=
    (propertyDescriptions_of_ne (by decide) _).trans (descriptions_literal _)
  rw [node_declarationOf]
  change (Declaration.single _ _
    (.construct _ [.object (o.objectBody key m (o.emitted m))])).descriptions = _
  rw [Declaration.descriptions_single, descriptions_construct, descriptions_object, objectBody,
    List.flatMap_cons, List.flatMap_cons, List.flatMap_singleton, hname,
    propertyDescriptions_description, propertyDescriptions_of_ne (by decide), descriptions_object,
    descriptions_emitted]
  rfl

theorem describe_ne_empty (h : o.defaultDescription ≠ "") (d : Option String) : o.describe d ≠ "" := by
  cases d with
  | none => exact h
  | some text =>
    rw [describe]
    split
    · exact h
    · assumption

theorem empty_not_mem_fieldDescriptions (h : o.defaultDescription ≠ "") (f : Field) :
    "" ∉ o.fieldDescriptions f := by
  have hdescribe := o.describe_ne_empty h
  rw [fieldDescriptions]
  cases f.type.enumValues? with
  | none => simpa using (hdescribe _).symm
  | some values =>
    simp only [Option.elim_some, enumDescriptions, List.mem_append, List.mem_cons, List.mem_map,
      List.not_mem_nil, or_false, not_or, not_exists, not_and]
    exact ⟨⟨(hdescribe _).symm, fun v _ => hdescribe _⟩, (hdescribe _).symm⟩

theorem empty_not_mem_descriptions (h : o.defaultDescription ≠ "") (key : String) (m : Model) :
    "" ∉ (o.generator.declarationOf key m).node.descriptions := by
  rw [descriptions_declarationOf, List.mem_cons, List.mem_flatMap, not_or]
  refine ⟨(o.describe_ne_empty h _).symm, ?_⟩
  rintro ⟨e, -, hmem⟩
  rcases List.mem_append.1 hmem with hmem | hmem
  · exact empty_not_mem_fieldDescriptions h e.2 hmem
  · obtain ⟨target, -, hempty⟩ := Option.map_eq_some_iff.1 (Option.mem_toList.1 hmem)
    exact Naming.referenceDescription_ne_empty _ _ _ hempty

/-- Descriptions that are absent, empty or the default one can stand for each other: any number of them
may be changed so, and what any builder makes of the schema is the same, as are the imports, the error
and the reports. Unless the default description is empty, no description in a declaration is. -/
theorem descriptions_interchangeable (o : Options) (s : Schema) :
    (∀ t : Schema, s.Redescribed o t → ∀ {E P D : Type} (b : Builder E P D),
      (Generator.mk b o).declarations t = (Generator.mk b o).declarations s) ∧
    (o.defaultDescription ≠ "" → ∀ r, (o.generator.declarations s).outcome = .ok r →
      ∀ key d, r.get? key = some d → "" ∉ d.node.descriptions) := by
  refine ⟨fun t h _ _ _ b => Generator.declarations_redescribed (g := ⟨b, o⟩) h,
    fun hdefault r hr key d hd => ?_⟩
  obtain ⟨-, rfl⟩ := o.generator.declarations_eq_ok.1 hr
  obtain ⟨m, -, rfl⟩ := OrderedMap.get?_mapEntries_eq_some.1 hd
  exact empty_not_mem_descriptions hdefault key m

/-- A model with an enum and a reference, described as given. -/
def switches (model field value : Option String) : Schema :=
  .add .empty <| .withReference (.withField ⟨"Switch", model, .empty, .empty⟩
    ⟨"stateId", field, .enumeration (.ofList [("on", ⟨.boolean true, value⟩)]), true⟩)
    "stateId" "Switch"

theorem redescribed_switches {model field value model' field' value' : Option String}
    (hmodel : o.Redescribes model model') (hfield : o.Redescribes field field')
    (hvalue : o.Redescribes value value') :
    (switches model field value).Redescribed o (switches model' field' value') := by
  refine .cons ⟨rfl, rfl, hmodel, .cons ⟨rfl, rfl, hfield, ?_, rfl⟩ .nil, rfl⟩ .nil
  exact .enumeration (.cons ⟨rfl, rfl, hvalue⟩ .nil)

theorem descriptions_interchangeable_switches :
    (∀ {E P D : Type} (b : Builder E P D),
      (Generator.mk b {}).declarations (switches (some "@TODO") none none) =
        (Generator.mk b {}).declarations (switches none (some "@TODO") (some ""))) ∧
    ∃ r d, (({} : Options).generator.declarations (switches none (some "@TODO") (some ""))).outcome =
        .ok r ∧ r.get? "Switch" = some d ∧ "" ∉ d.node.descriptions := by
  obtain ⟨hsame, hdescribed⟩ := descriptions_interchangeable {} (switches none (some "@TODO") (some ""))
  refine ⟨fun b => hsame _ (redescribed_switches ?_ ?_ ?_) b, _, _, rfl, rfl,
    hdescribed (by decide) _ rfl "Switch" _ rfl⟩
  · exact .filled (.inl rfl)
  · exact .dropped (.inl rfl)
  · exact .dropped (.inr rfl)

end Options
end GraphDecl
