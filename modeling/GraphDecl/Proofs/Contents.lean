import GraphDecl.Proofs.EstreeText
import GraphDecl.Proofs.ImportsUsed
import GraphDecl.Proofs.UnknownTypes

/-!
# What is inside a declaration

`Expr.parts` lists the expressions inside an expression, and `Expr.found` what a search finds among
them. A search that passes over constants and objects finds in a declaration the declaration itself and
what it finds in the types of its fields (`found_declarationOf`). Two such searches are made here: the
constructor calls that are given an object are that of the declaration and those of the enums made in
place (`constructed_eq`), and the placeholder stands where a type is unknown and nowhere else
(`placeholders_emitted`, `placeholders_declarationOf`).
-/

namespace GraphDecl

/-! ### The expressions inside an expression -/

/-- The expression that a node is. -/
def Node.expr? : Node → Option Expr
  | .expr e => some e
  | _ => none

namespace Expr
variable {α : Type}

/-- The expressions inside an expression, each before those inside it. -/
def parts (e : Expr) : List Expr := e.nodes.filterMap Node.expr?

theorem parts_identifier (name : String) : (identifier name).parts = [.identifier name] := by
  rw [parts, nodes]; rfl

theorem parts_literal (l : Literal) : (literal l).parts = [.literal l] := by
  rw [parts, nodes]; rfl

theorem parts_object (ps : List (String × Expr)) :
    (object ps).parts = .object ps :: ps.flatMap fun p => p.2.parts := by
  rw [parts, nodes, nodesOfProperties_eq_flatMap, List.filterMap_cons, List.filterMap_flatMap]
  rfl

theorem parts_construct (callee : String) (es : List Expr) :
    (construct callee es).parts = .construct callee es :: es.flatMap parts := by
  rw [parts, nodes, nodesOfArguments_eq_flatMap, List.filterMap_cons, List.filterMap_cons,
    List.filterMap_flatMap]
  rfl

/-- What `find` finds among the expressions inside an expression. -/
def found (find : Expr → Option α) (e : Expr) : List α := e.parts.filterMap find

/-- `find` passes over constants and objects. -/
structure PassesOverData (find : Expr → Option α) : Prop where
  literal : ∀ l, find (.literal l) = none
  object : ∀ ps, find (.object ps) = none

/-- The expression that stands for an unknown type. -/
def placeholder : Expr := .identifier Event.placeholder

/-- The expression, if it stands for an unknown type. -/
def placeholder? : Expr → Option Expr
  | .identifier name => if name = "undefined" then some (.identifier name) else none
  | _ => none

/-- The object that a constructor call is given. -/
def constructed? : Expr → Option (List (String × Expr))
  | .construct _ [.object body] => some body
  | _ => none

theorem placeholder?_passesOverData : PassesOverData placeholder? := ⟨fun _ => rfl, fun _ => rfl⟩

theorem placeholder?_typeName (model : String) :
    placeholder? (.identifier (Naming.typeName model)) = none :=
  if_neg (Naming.typeName_ne_undefined model)

theorem constructed?_passesOverData : PassesOverData constructed? := ⟨fun _ => rfl, fun _ => rfl⟩

/-- The expressions inside an expression that stand for an unknown type. -/
def placeholders (e : Expr) : List Expr := e.found placeholder?

end Expr

namespace Declaration
variable {α : Type}

/-- What `find` finds among the expressions of a declaration. -/
def found (find : Expr → Option α) (d : Declaration) : List α :=
  (d.nodes.filterMap Node.expr?).filterMap find

/-- The expressions of a declaration that stand for an unknown type. -/
def placeholders (d : Declaration) : List Expr := d.found Expr.placeholder?

/-- The objects that the constructor calls of a declaration are given. -/
def constructed (d : Declaration) : List (List (String × Expr)) := d.found Expr.constructed?

theorem found_single (find : Expr → Option α) (k : Keyword) (name : String) (e : Expr) :
    (single k name e).found find = e.found find := by
  have hnodes : (single k name e).nodes =
      .declaration (single k name e) :: .declarator ⟨name, some e⟩ :: .identifier name :: e.nodes := by
    simp [nodes, single, Declarator.nodes]
  rw [found, hnodes]
  rfl

end Declaration

namespace Builder
open GraphDecl.Expr
variable {α : Type} {find : Expr → Option α}

theorem found_identifier (name : String) :
    (tree.identifier name).found find = (find (.identifier name)).toList := by
  rw [found, tree, parts_identifier, List.filterMap_cons]
  cases find (.identifier name) <;> rfl

theorem found_construct (callee : String) (es : List Expr) :
    (tree.construct callee es).found find =
      (find (.construct callee es)).toList ++ es.flatMap (Expr.found find) := by
  rw [found, tree, parts_construct, List.filterMap_cons, List.filterMap_flatMap]
  cases find (.construct callee es) <;> rfl

variable (h : PassesOverData find)
include h

theorem found_literal (l : Literal) : (tree.literal l).found find = [] := by
  rw [found, tree, parts_literal, List.filterMap_cons, h.literal]
  rfl

theorem found_object (ps : List (String × Expr)) :
    (tree.object ps).found find = ps.flatMap fun p => p.2.found find := by
  rw [found, tree, parts_object, List.filterMap_cons, h.object, List.filterMap_flatMap]
  rfl

end Builder

/-! ### What is found in a declaration -/

/-- The object from which the enum of a field is constructed. -/
def Options.enumBody (o : Options) (f : Field) (values : OrderedMap EnumValue) :
    List (String × Expr) :=
  [("name", o.generator.text (Naming.capitalize f.name)),
    o.generator.description f.description,
    ("values", .object (values.entries.map fun v => o.generator.enumEntry v.1 v.2))]

/-- The object from which a declaration with `ps` for its fields constructs its type. -/
def Options.objectBody (o : Options) (key : String) (m : Model) (ps : List (String × Expr)) :
    List (String × Expr) :=
  [("name", o.generator.text key), o.generator.description m.description, ("fields", .object ps)]

namespace Generator
open GraphDecl.Expr
variable {o : Options} {α : Type} {find : Expr → Option α}

section
variable (h : PassesOverData find)
include h

theorem found_description (d : Option String) :
    (o.generator.description d).2.found find = [] :=
  Builder.found_literal h _

theorem found_entry (name : String) (d : Option String) (e : Expr) :
    (o.generator.entry name d e).2.found find = e.found find := by
  have hentry : (o.generator.entry name d e).2 =
      Builder.tree.object [("type", e), o.generator.description d] := rfl
  rw [hentry, Builder.found_object h]
  simp [found_description h]

theorem found_enumEntry (key : String) (v : EnumValue) :
    (o.generator.enumEntry key v).2.found find = [] := by
  have hentry : (o.generator.enumEntry key v).2 = Builder.tree.object
      [("value", Builder.tree.literal v.value), o.generator.description v.description] := rfl
  rw [hentry, Builder.found_object h]
  simp [found_description h, Builder.found_literal h]

theorem found_enum (f : Field) (values : OrderedMap EnumValue) :
    (o.generator.enum f values).node.found find =
      (find (.construct o.identifiers.enumType [.object (o.enumBody f values)])).toList := by
  have henum : (o.generator.enum f values).node =
      Builder.tree.construct o.identifiers.enumType [Builder.tree.object (o.enumBody f values)] := rfl
  have hvalues : (Expr.object (values.entries.map fun v => o.generator.enumEntry v.1 v.2)).found find =
      [] := by
    refine (Builder.found_object h _).trans ?_
    simp [List.flatMap_map, found_enumEntry h]
  have hname : (o.generator.text (Naming.capitalize f.name)).found find = [] :=
    Builder.found_literal h _
  have hbody : (Builder.tree.object (o.enumBody f values)).found find = [] := by
    rw [Builder.found_object h]
    simp [Options.enumBody, hname, found_description h, hvalues]
  rw [henum, Builder.found_construct, List.flatMap_singleton, hbody, List.append_nil]
  rfl

theorem found_declare (model : String) (m : Model) (ps : List (String × Expr)) :
    (o.generator.declare model m ps).found find =
      (find (.construct o.identifiers.objectType [.object (o.objectBody model m ps)])).toList ++
        ps.flatMap (fun p => p.2.found find) := by
  have hdeclare : o.generator.declare model m ps = .single o.declarationStyle.keyword
      (Naming.typeName model) (Builder.tree.construct o.identifiers.objectType
        [Builder.tree.object (o.objectBody model m ps)]) := rfl
  have hname : (o.generator.text model).found find = [] := Builder.found_literal h _
  have hfields : (Expr.object ps).found find = ps.flatMap fun p => p.2.found find :=
    Builder.found_object h ps
  rw [hdeclare, Declaration.found_single, Builder.found_construct, List.flatMap_singleton,
    Builder.found_object h]
  simp only [Options.objectBody, List.flatMap_cons, hname, found_description h, hfields,
    List.nil_append, List.flatMap_nil, List.append_nil]
  rfl

end

theorem found_wrap (f : Field) (t : Fragment Expr) :
    (o.generator.wrap f t).node.found find =
      (if f.nullable then [] else (find (.construct o.identifiers.nonNull [t.node])).toList) ++
        t.node.found find := by
  rw [wrap]
  split
  · rfl
  · refine (Builder.found_construct _ _).trans ?_
    rw [List.flatMap_singleton]
    rfl

/-- Where names are wrapped or not, and `find` passes over the wrapping, it finds the name alone. -/
theorem found_wrap_identifier (hwrap : ∀ callee name, find (.construct callee [.identifier name]) = none)
    (f : Field) {t : Fragment Expr} {name : String} (ht : t.node = .identifier name) :
    (o.generator.wrap f t).node.found find = (find (.identifier name)).toList := by
  have hname : (Expr.identifier name).found find = (find (.identifier name)).toList :=
    Builder.found_identifier name
  rw [found_wrap, ht, hname, hwrap]
  split <;> rfl

theorem constructed_typeOf (f : Field) :
    (o.generator.typeOf f).node.found constructed? =
      (f.type.enumValues?.map (o.enumBody f)).toList := by
  have hwrap : ∀ callee name, constructed? (.construct callee [.identifier name]) = none :=
    fun _ _ => rfl
  rw [typeOf]
  cases f.type with
  | enumeration values => exact found_enum constructed?_passesOverData f values
  | string | integer | float | unknown name => exact found_wrap_identifier hwrap f rfl

section
variable (hstring : o.identifiers.string ≠ "undefined") (hint : o.identifiers.int ≠ "undefined")
  (hfloat : o.identifiers.float ≠ "undefined")
include hstring hint hfloat

theorem placeholders_typeOf (model : String) (f : Field) :
    (o.generator.typeOf f).node.placeholders =
      (f.unknown? model).toList.map fun _ => placeholder := by
  have hwrap : ∀ callee name, placeholder? (.construct callee [.identifier name]) = none :=
    fun _ _ => rfl
  have hscalar : ∀ name, name ≠ "undefined" →
      (o.generator.wrap f (o.generator.scalar name)).node.placeholders = [] := by
    intro name hname
    refine (found_wrap_identifier hwrap f rfl).trans ?_
    rw [placeholder?, if_neg hname]
    rfl
  rw [typeOf, Field.unknown?]
  cases f.type with
  | enumeration values => exact found_enum placeholder?_passesOverData f values
  | string => exact hscalar _ hstring
  | integer => exact hscalar _ hint
  | float => exact hscalar _ hfloat
  | unknown name => exact found_wrap_identifier hwrap f (t := .of placeholder) rfl

end
end Generator

namespace Options
open GraphDecl.Expr
variable {o : Options} {α : Type} {find : Expr → Option α}

theorem found_fieldProperty (h : PassesOverData find) (f : Field) :
    (o.fieldProperty f).2.found find = (o.generator.typeOf f).node.found find :=
  Generator.found_entry h f.name f.description _

/-- Where `find` passes over the names of types too, nothing is found in what a reference adds. -/
theorem found_referenceProperty (h : PassesOverData find)
    (hname : ∀ target, find (.identifier (Naming.typeName target)) = none)
    (m : Model) (reference target : String) :
    (o.referenceProperty m reference target).2.found find = [] := by
  have htype : (Expr.identifier (Naming.typeName target)).found find = [] :=
    (Builder.found_identifier _).trans (congrArg Option.toList (hname target))
  exact (Generator.found_entry h "" (some _) _).trans htype

theorem node_declarationOf (key : String) (m : Model) :
    (o.generator.declarationOf key m).node = o.generator.declare key m (o.emitted m) := by
  rw [← node_bodyOf]
  rfl

theorem found_declarationOf (h : PassesOverData find)
    (hname : ∀ target, find (.identifier (Naming.typeName target)) = none)
    (key : String) (m : Model) :
    (o.generator.declarationOf key m).node.found find =
      (find (.construct o.identifiers.objectType
        [.object (o.objectBody key m (o.emitted m))])).toList ++
          m.fields.entries.flatMap (fun e => (o.generator.typeOf e.2).node.found find) := by
  have hfields : ((o.emitted m).flatMap fun p => p.2.found find) =
      m.fields.entries.flatMap fun e => (o.fieldProperty e.2 ::
        (o.derivedProperty? m e.1).toList).flatMap fun p => p.2.found find :=
    List.flatMap_assoc
  rw [node_declarationOf, Generator.found_declare h key m (o.emitted m), hfields]
  refine congrArg _ (List.flatMap_congr fun e _ => ?_)
  rw [List.flatMap_cons, found_fieldProperty h, derivedProperty?]
  cases m.reference? e.1 with
  | none => exact List.append_nil _
  | some target =>
    rw [Option.map_some, Option.toList_some, List.flatMap_singleton,
      found_referenceProperty h hname, List.append_nil]

/-- The constructor calls of a declaration are given the object of the declaration itself and those of
the enums of its fields. -/
theorem constructed_eq (key : String) (m : Model) :
    (o.generator.declarationOf key m).node.constructed =
      o.objectBody key m (o.emitted m) :: m.fields.entries.filterMap
        (fun e => e.2.type.enumValues?.map (o.enumBody e.2)) := by
  have htop := found_declarationOf (o := o) constructed?_passesOverData (fun _ => rfl) key m
  simp only [Generator.constructed_typeOf] at htop
  rw [Declaration.constructed, htop, List.filterMap_eq_flatMap_toList]
  rfl

theorem constructed_declarationOf (key : String) (m : Model) :
    ∃ top, (o.generator.declarationOf key m).node.constructed = top :: m.fields.entries.filterMap
        (fun e => e.2.type.enumValues?.map (o.enumBody e.2)) ∧
      top.lookup "fields" = some (.object (o.emitted m)) :=
  ⟨_, constructed_eq key m, rfl⟩

section
variable (hstring : o.identifiers.string ≠ "undefined") (hint : o.identifiers.int ≠ "undefined")
  (hfloat : o.identifiers.float ≠ "undefined")
include hstring hint hfloat

/-- The property of a field of unknown type has one placeholder, and any other property has none. -/
theorem placeholders_emitted (key : String) (m : Model) :
    (o.emitted m).map (fun p => p.2.placeholders) = m.fields.entries.flatMap fun e =>
      ((e.2.unknown? key).toList.map fun _ => placeholder) ::
        ((m.reference? e.1).map fun _ => []).toList := by
  rw [emitted, List.map_flatMap]
  refine List.flatMap_congr fun e _ => ?_
  rw [List.map_cons, placeholders, found_fieldProperty placeholder?_passesOverData, derivedProperty?,
    ← placeholders, Generator.placeholders_typeOf hstring hint hfloat key]
  cases m.reference? e.1 with
  | none => rfl
  | some target =>
    rw [Option.map_some, Option.toList_some, List.map_singleton, placeholders,
      found_referenceProperty placeholder?_passesOverData placeholder?_typeName]
    rfl

/-- A declaration has one placeholder for each field of unknown type. -/
theorem placeholders_declarationOf (key : String) (m : Model) :
    (o.generator.declarationOf key m).node.placeholders =
      (m.unknownFields key).map fun _ => placeholder := by
  have htop := found_declarationOf (o := o) placeholder?_passesOverData placeholder?_typeName key m
  have htypes : ∀ f : Field, (o.generator.typeOf f).node.found placeholder? =
      (f.unknown? key).toList.map fun _ => placeholder :=
    Generator.placeholders_typeOf hstring hint hfloat key
  simp only [htypes] at htop
  rw [Declaration.placeholders, htop, Model.unknownFields, List.filterMap_eq_flatMap_toList,
    List.map_flatMap]
  rfl

end

end Options
end GraphDecl
