import GraphDecl.Proofs.BuilderFold
import GraphDecl.Proofs.Captures

/-!
# Renaming the identifiers of the framework

`Options.renamed f` takes `f` of a name in place of each of the names that declarations take from the
framework. A generator that works with it makes what the generator with the old names makes through a
builder that applies `f` itself (`Builder.renamed`), as far as `f` leaves alone the names that are not
options: the placeholder and the names of the targets of references. The imports are gathered name by
name and renamed with every addition (`Imports.rename_add`, `Imports.rename_merge`), so names that `f`
makes equal are one import at the place of the first of them. A tree made through the renaming builder
is the old tree renamed (`declarationOf_renamed_tree`).
-/

namespace GraphDecl
variable {E P D : Type}

/-! ### What is renamed -/

/-- The options with `f` applied to the names of the framework. -/
def Options.renamed (o : Options) (f : String → String) : Options :=
  o.withIdentifiers {
    string := f o.identifiers.string
    int := f o.identifiers.int
    float := f o.identifiers.float
    nonNull := f o.identifiers.nonNull
    enumType := f o.identifiers.enumType
    objectType := f o.identifiers.objectType }

/-- The builder that applies `f` to every identifier and to the callee of every constructor call. -/
def Builder.renamed (b : Builder E P D) (f : String → String) : Builder E P D :=
  { b with
    identifier := fun name => b.identifier (f name)
    construct := fun callee arguments => b.construct (f callee) arguments }

@[simp] theorem Builder.identifier_renamed (b : Builder E P D) (f : String → String) (name : String) :
    (b.renamed f).identifier name = b.identifier (f name) := rfl

/-- The tree with `f` applied to its identifiers and to the callees of its constructor calls. -/
def Expr.rename (f : String → String) (e : Expr) : Expr := e.fold (Builder.tree.renamed f)

/-- The declaration with `f` applied inside the value; the names that it binds stay. -/
def Declaration.rename (f : String → String) (d : Declaration) : Declaration :=
  ⟨d.keyword, d.declarators.map fun x => ⟨x.name, x.init.map (Expr.rename f)⟩⟩

/-- The images of the names, each at the place of its first occurrence. -/
def Imports.rename (f : String → String) (s : Imports) : Imports :=
  ⟨(s.names.map f).eraseDups, FirstSeen.nodup_eraseDups _⟩

/-- The same node with its imports renamed. -/
def Fragment.renamed {α : Type} (f : String → String) (x : Fragment α) : Fragment α :=
  ⟨x.node, x.imports.rename f⟩

namespace Expr
variable (f : String → String)

@[simp] theorem rename_identifier (name : String) :
    (identifier name).rename f = .identifier (f name) := by
  rw [rename, fold]; rfl

@[simp] theorem rename_literal (l : Literal) : (literal l).rename f = .literal l := by
  rw [rename, fold]; rfl

@[simp] theorem rename_object (ps : List (String × Expr)) :
    (object ps).rename f = .object (ps.map fun p => (p.1, p.2.rename f)) := by
  rw [rename, fold, foldProperties_eq_map]; rfl

@[simp] theorem rename_construct (callee : String) (es : List Expr) :
    (construct callee es).rename f = .construct (f callee) (es.map (Expr.rename f)) := by
  rw [rename, fold, foldArguments_eq_map]; rfl

end Expr

/-! ### Imports are renamed with every addition -/

namespace FirstSeen
variable {α β : Type} [DecidableEq α] [DecidableEq β]

/-- Repetitions may be dropped before a map or behind it. -/
theorem eraseDups_map_eraseDups (f : α → β) (l : List α) :
    (l.eraseDups.map f).eraseDups = (l.map f).eraseDups := by
  induction l using List.reverseRecOn with
  | nil => rfl
  | append_singleton l a ih =>
    rw [eraseDups_concat, List.map_append, List.map_singleton, eraseDups_concat, ← ih]
    split
    · rename_i ha
      rw [if_pos (List.mem_map_of_mem ha)]
    · rw [List.map_append, List.map_singleton, eraseDups_concat]
      simp only [List.mem_map, List.mem_eraseDups]

end FirstSeen

namespace Imports
open FirstSeen
variable (f : String → String)

@[simp] theorem names_rename (s : Imports) : (s.rename f).names = (s.names.map f).eraseDups := rfl

theorem rename_add (s : Imports) (name : String) :
    (s.add name).rename f = (s.rename f).add (f name) := by
  ext1
  rw [names_rename, names_add_eq_eraseDups, names_add_eq_eraseDups, names_rename,
    eraseDups_map_eraseDups, eraseDups_append_left, List.map_append, List.map_singleton]

theorem rename_merge (s t : Imports) :
    (s.merge t).rename f = (s.rename f).merge (t.rename f) := by
  ext1
  rw [names_rename, names_merge, names_merge, names_rename, names_rename, eraseDups_map_eraseDups,
    eraseDups_append_left, eraseDups_append_right, List.map_append]

end Imports

namespace Fragment
variable {α : Type} (f : String → String)

theorem renamed_withImport (x : Fragment α) (name : String) :
    (x.withImport name).renamed f = (x.renamed f).withImport (f name) := by
  rw [renamed, withImport, Imports.rename_add]
  rfl

theorem renamed_sequence (xs : List (Fragment α)) :
    (sequence xs).renamed f = sequence (xs.map (renamed f)) := by
  have himports : ∀ s : Imports, (xs.foldl (fun s x => s.merge x.imports) s).rename f =
      (xs.map (renamed f)).foldl (fun s x => s.merge x.imports) (s.rename f) := by
    induction xs with
    | nil => exact fun _ => rfl
    | cons x xs ih =>
      intro s
      rw [List.foldl_cons, ih, Imports.rename_merge]
      rfl
  rw [renamed, sequence, sequence, himports, List.map_map]
  rfl

end Fragment

/-! ### Two generators -/

namespace Generator
variable (b : Builder E P D) (o : Options) {f : String → String}

theorem enum_renamed (fld : Field) (values : OrderedMap EnumValue) :
    (Generator.mk b (o.renamed f)).enum fld values =
      ((Generator.mk (b.renamed f) o).enum fld values).renamed f := by
  rw [enum, enum, Fragment.renamed_withImport]
  rfl

theorem scalar_renamed (name : String) :
    (Generator.mk b (o.renamed f)).scalar (f name) =
      ((Generator.mk (b.renamed f) o).scalar name).renamed f := by
  rw [scalar, scalar, Fragment.renamed_withImport]
  rfl

theorem wrap_renamed (fld : Field) (t : Fragment E) :
    (Generator.mk b (o.renamed f)).wrap fld (t.renamed f) =
      ((Generator.mk (b.renamed f) o).wrap fld t).renamed f := by
  rw [wrap, wrap]
  split
  · rfl
  · rw [Fragment.renamed_withImport]
    rfl

theorem typeOf_renamed (hundefined : f "undefined" = "undefined") (fld : Field) :
    (Generator.mk b (o.renamed f)).typeOf fld =
      ((Generator.mk (b.renamed f) o).typeOf fld).renamed f := by
  have hplaceholder : (Fragment.of (b.identifier Event.placeholder)) =
      (Fragment.of ((b.renamed f).identifier Event.placeholder)).renamed f := by
    rw [Event.placeholder, Builder.identifier_renamed, hundefined]
    rfl
  rw [typeOf, typeOf]
  cases fld.type with
  | enumeration values => exact enum_renamed b o fld values
  | string | integer | float =>
    simp only [← wrap_renamed, ← scalar_renamed]
    rfl
  | unknown name =>
    simp only [← wrap_renamed, hplaceholder]

theorem fieldOf_renamed (hundefined : f "undefined" = "undefined") (fld : Field) :
    (Generator.mk b (o.renamed f)).fieldOf fld =
      ((Generator.mk (b.renamed f) o).fieldOf fld).renamed f := by
  rw [fieldOf, fieldOf, typeOf_renamed b o hundefined]
  rfl

theorem referenceOf_renamed (m : Model) (reference : String) {target : String}
    (htarget : f (Naming.typeName target) = Naming.typeName target) :
    (Generator.mk b (o.renamed f)).referenceOf m reference target =
      ((Generator.mk (b.renamed f) o).referenceOf m reference target).renamed f := by
  rw [referenceOf, referenceOf, Fragment.renamed_withImport, htarget, Builder.identifier_renamed,
    htarget]
  rfl

section
variable (hundefined : f "undefined" = "undefined") {m : Model}
  (htargets : ∀ r ∈ m.references.entries, f (Naming.typeName r.2) = Naming.typeName r.2)
include hundefined htargets

theorem entriesOf_renamed (key : String) (fld : Field) :
    (Generator.mk b (o.renamed f)).entriesOf m key fld =
      ((Generator.mk (b.renamed f) o).entriesOf m key fld).map (Fragment.renamed f) := by
  rw [entriesOf, entriesOf, List.map_cons, fieldOf_renamed b o hundefined]
  cases hreference : m.reference? key with
  | none => rfl
  | some target =>
    have htarget := htargets (key, target) (OrderedMap.get?_eq_some_iff.1 hreference)
    simp only [Option.map_some, Option.toList_some, referenceOf_renamed b o m key htarget,
      List.map_singleton]

theorem bodyOf_renamed :
    (Generator.mk b (o.renamed f)).bodyOf m =
      ((Generator.mk (b.renamed f) o).bodyOf m).renamed f := by
  rw [bodyOf, bodyOf, Fragment.renamed_sequence, List.map_flatMap]
  simp only [entriesOf_renamed b o hundefined htargets]

theorem declarationOf_renamed (key : String) :
    (Generator.mk b (o.renamed f)).declarationOf key m =
      ((Generator.mk (b.renamed f) o).declarationOf key m).renamed f := by
  rw [declarationOf, declarationOf, bodyOf_renamed b o hundefined htargets]
  rfl

end

/-! ### Trees -/

/-- The tree made through the renaming builder is the old one renamed. -/
theorem declarationOf_renamed_tree (key : String) (m : Model) :
    (Generator.mk (Builder.tree.renamed f) o).declarationOf key m =
      (o.generator.declarationOf key m).map (Declaration.rename f) := by
  have hdeclare : ∀ ps : List (String × Expr),
      (Generator.mk (Builder.tree.renamed f) o).declare key m
          (ps.map (Builder.tree.renamed f).foldEntry) =
        (o.generator.declare key m ps).rename f := by
    intro ps
    exact Option.some.inj (fold?_declare (Builder.tree.renamed f) o key m ps).symm
  rw [declarationOf, declarationOf, ← foldEntry_bodyOf (Builder.tree.renamed f)]
  simp [Fragment.map, hdeclare]

section
variable (hundefined : f "undefined" = "undefined") {s : Schema}
  (htargets : ∀ target, s.Targets target → f (Naming.typeName target) = Naming.typeName target)
include hundefined htargets

theorem result_renamed : (o.renamed f).generator.result s =
    (o.generator.result s).mapValues fun d => ⟨d.node.rename f, d.imports.rename f⟩ := by
  have hdeclared : ∀ e ∈ s.models.entries, (o.renamed f).generator.declarationOf e.1 e.2 =
      ⟨(o.generator.declarationOf e.1 e.2).node.rename f,
        (o.generator.declarationOf e.1 e.2).imports.rename f⟩ := by
    intro e he
    refine (declarationOf_renamed .tree o hundefined (fun r hr => ?_) e.1).trans ?_
    · exact htargets r.2 ⟨e, he, r, hr, rfl⟩
    · rw [declarationOf_renamed_tree]
      rfl
  rw [result, result, OrderedMap.mapValues_mapEntries]
  ext1
  exact List.map_congr_left fun e he => by rw [hdeclared e he]

/-- With other names for what is taken from the framework a run fails as before, or else declares the
same models in the same order: every declaration is the old one with the new names for its identifiers
and the callees of its constructor calls, and its imports are the new names of the old ones, each at the
place of its first occurrence. The new names may coincide; the placeholder and the names of the targets
of references have to stay. -/
theorem declarations_renamed : ((o.renamed f).generator.declarations s).outcome =
    (o.generator.declarations s).outcome.map
      (OrderedMap.mapValues fun d => ⟨d.node.rename f, d.imports.rename f⟩) := by
  have hsurvey : ((o.renamed f).generator.survey s).outcome = (o.generator.survey s).outcome :=
    outcome_survey_congr (by rfl) s
  rw [declarations_eq, declarations_eq, Logged.outcome_giving, Logged.outcome_giving, hsurvey,
    result_renamed o hundefined htargets]
  cases (o.generator.survey s).outcome <;> rfl

end

/-- One name for integers and for what may not be null. -/
def sharedFramework (name : String) : String :=
  if name = "GraphQLInt" ∨ name = "GraphQLNonNull" then "Framework" else name

theorem declarations_renamed_post : sharedFramework "undefined" = "undefined" ∧
    (∀ target, post.Targets target →
      sharedFramework (Naming.typeName target) = Naming.typeName target) ∧
    ∃ r d r' d', let o : Options := { unknownTypes := .permissive }
      (o.generator.declarations post).outcome = .ok r ∧ r.get? "Post" = some d ∧
      ((o.renamed sharedFramework).generator.declarations post).outcome = .ok r' ∧
      r'.get? "Post" = some d' ∧
      d.imports.names = ["GraphQLInt", "GraphQLNonNull", "GraphQLEnumType", "UserType"] ∧
      d'.imports.names = ["Framework", "GraphQLEnumType", "UserType"] ∧
      d'.node = d.node.rename sharedFramework := by
  have hundefined : sharedFramework "undefined" = "undefined" := by decide
  have htargets : ∀ target, post.Targets target →
      sharedFramework (Naming.typeName target) = Naming.typeName target := by
    rintro target ⟨e, he, x, hx, rfl⟩
    obtain rfl := List.mem_singleton.1 he
    obtain rfl := List.mem_singleton.1 hx
    decide
  have hr : (({ unknownTypes := .permissive } : Options).generator.declarations post).outcome =
      .ok _ := rfl
  have hr' := declarations_renamed { unknownTypes := .permissive } hundefined htargets
  rw [hr] at hr'
  exact ⟨hundefined, htargets, _, _, _, _, hr, rfl, hr', rfl, rfl, by decide, rfl⟩

end Generator
end GraphDecl
