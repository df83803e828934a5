import GraphDecl.Proofs.Emitted
import GraphDecl.Proofs.FirstSeen

/-!
# Imports are the names that are used

`Expr.uses` lists the names that an expression uses from left to right; a constructor call uses its
arguments before its callee, and the placeholder for unknown types is no name. Imports are gathered
beside the nodes and not from them, so their agreement is a property that every step keeps: each
fragment of a declaration is `Fragment.Exact`, from the types of fields up to the body of a model.
The constructor of the declaration itself is outside the body and is not imported.
-/

namespace GraphDecl

namespace Expr

mutual

/-- The names that an expression uses, from left to right. -/
def uses : Expr → List String
  | .identifier name => if name = "undefined" then [] else [name]
  | .literal _ => []
  | .object properties => usesOfProperties properties
  | .construct callee arguments => usesOfArguments arguments ++ [callee]

def usesOfProperties : List (String × Expr) → List String
  | [] => []
  | (_, e) :: rest => uses e ++ usesOfProperties rest

def usesOfArguments : List Expr → List String
  | [] => []
  | e :: rest => uses e ++ usesOfArguments rest

end

theorem usesOfProperties_eq_flatMap (ps : List (String × Expr)) :
    usesOfProperties ps = ps.flatMap fun p => p.2.uses := by
  induction ps with
  | nil => rfl
  | cons p ps ih => rw [usesOfProperties, ih, List.flatMap_cons]

theorem usesOfArguments_eq_flatMap (es : List Expr) : usesOfArguments es = es.flatMap uses := by
  induction es with
  | nil => rfl
  | cons e es ih => rw [usesOfArguments, ih, List.flatMap_cons]

theorem uses_object (ps : List (String × Expr)) :
    (object ps).uses = ps.flatMap fun p => p.2.uses := by
  rw [uses, usesOfProperties_eq_flatMap]

end Expr

namespace Builder

theorem uses_identifier {name : String} (h : name ≠ "undefined") :
    (tree.identifier name).uses = [name] := by
  rw [tree, Expr.uses, if_neg h]

theorem uses_placeholder : (tree.identifier Event.placeholder).uses = [] := by
  rw [tree, Expr.uses, Event.placeholder, if_pos rfl]

@[simp] theorem uses_literal (l : Literal) : (tree.literal l).uses = [] := by rw [tree, Expr.uses]

@[simp] theorem uses_property (key : String) (e : Expr) : (tree.property key e).2.uses = e.uses := rfl

@[simp] theorem uses_object (ps : List (String × Expr)) :
    (tree.object ps).uses = ps.flatMap fun p => p.2.uses :=
  Expr.uses_object ps

@[simp] theorem uses_construct (callee : String) (es : List Expr) :
    (tree.construct callee es).uses = es.flatMap Expr.uses ++ [callee] := by
  rw [tree, Expr.uses, Expr.usesOfArguments_eq_flatMap]

end Builder

theorem Naming.typeName_ne_undefined (model : String) : typeName model ≠ "undefined" := by
  intro h
  have hlast := congrArg (fun s => s.toList.getLast?) h
  simp [typeName] at hlast

namespace Generator
variable {o : Options}

@[simp] theorem uses_text (s : String) : (o.generator.text s).uses = [] := Builder.uses_literal _

@[simp] theorem uses_description (d : Option String) : (o.generator.description d).2.uses = [] := by
  simp [description]

@[simp] theorem uses_entry (name : String) (d : Option String) (e : Expr) :
    (o.generator.entry name d e).2.uses = e.uses := by
  simp [entry]

theorem uses_enumEntry (key : String) (v : EnumValue) :
    (o.generator.enumEntry key v).2.uses = [] := by
  simp [enumEntry]

theorem exact_enum (f : Field) (values : OrderedMap EnumValue) :
    (o.generator.enum f values).Exact Expr.uses := by
  refine Fragment.Exact.of_withImport ?_
  simp [List.flatMap_map, uses_enumEntry]

theorem exact_scalar {name : String} (h : name ≠ "undefined") :
    (o.generator.scalar name).Exact Expr.uses :=
  Fragment.Exact.of_withImport (Builder.uses_identifier h)

theorem exact_wrap (f : Field) {t : Fragment Expr} (ht : t.Exact Expr.uses) :
    (o.generator.wrap f t).Exact Expr.uses := by
  rw [wrap]
  split
  · exact ht
  · exact ht.map_withImport (by simp)

section
variable (hstring : o.identifiers.string ≠ "undefined") (hint : o.identifiers.int ≠ "undefined")
  (hfloat : o.identifiers.float ≠ "undefined")
include hstring hint hfloat

theorem exact_typeOf (f : Field) : (o.generator.typeOf f).Exact Expr.uses := by
  rw [typeOf]
  cases f.type with
  | enumeration values => exact exact_enum f values
  | string => exact exact_wrap f (exact_scalar hstring)
  | integer => exact exact_wrap f (exact_scalar hint)
  | float => exact exact_wrap f (exact_scalar hfloat)
  | unknown name => exact exact_wrap f (Fragment.Exact.of Builder.uses_placeholder)

theorem exact_entriesOf (m : Model) (key : String) (f : Field) :
    ∀ x ∈ o.generator.entriesOf m key f, x.Exact fun p => p.2.uses := by
  refine List.forall_mem_cons.2 ⟨?_, ?_⟩
  · exact (exact_typeOf hstring hint hfloat f).map (uses_entry f.name f.description _)
  · cases m.reference? key with
    | none => intro x hx; cases hx
    | some target =>
      intro x hx
      rw [List.mem_singleton.1 hx]
      refine Fragment.Exact.of_withImport ?_
      rw [uses_entry]
      exact Builder.uses_identifier (Naming.typeName_ne_undefined target)

theorem exact_bodyOf (m : Model) :
    (o.generator.bodyOf m).Exact fun ps => (Expr.object ps).uses := by
  have h : (o.generator.bodyOf m).Exact (List.flatMap fun p => p.2.uses) := by
    refine Fragment.Exact.sequence fun x hx => ?_
    obtain ⟨e, -, hx⟩ := List.mem_flatMap.1 hx
    exact exact_entriesOf hstring hint hfloat m e.1 e.2 x hx
  rw [Fragment.Exact, h, Expr.uses_object]

/-- The imports of a declaration are the names that its fields use, each once, in the order of first
use. The constructor of the declaration is among them only if a field uses it. -/
theorem imports_eq_uses {s : Schema} {r : OrderedMap (Fragment Declaration)}
    (hr : (o.generator.declarations s).outcome = .ok r) {key : String} {d : Fragment Declaration}
    (hd : r.get? key = some d) :
    ∃ fields, d.node.fields? = some fields ∧ d.imports.names = fields.uses.eraseDups ∧
      (∀ name, name ∈ d.imports.names ↔ name ∈ fields.uses) ∧ d.imports.names.Nodup := by
  obtain ⟨-, rfl⟩ := o.generator.declarations_eq_ok.1 hr
  obtain ⟨m, -, rfl⟩ := OrderedMap.get?_mapEntries_eq_some.1 hd
  have hnames := exact_bodyOf hstring hint hfloat m
  rw [Fragment.Exact, o.node_bodyOf] at hnames
  refine ⟨_, o.fields?_declarationOf m key, hnames, fun name => ?_, Imports.nodup _⟩
  rw [show (o.generator.declarationOf key m).imports.names = _ from hnames, List.mem_eraseDups]

end

/-- Integers have the name of the type of another model, and unknown types are let through. -/
def sharedNames : Options where
  unknownTypes := .permissive
  identifiers := { int := "UserType" }

/-- A post with a number, a state, a time of unknown type and an author. -/
def post : Schema :=
  .add .empty <| .withReference (.withField (.withField (.withField (.withField (.new "Post")
    (.required (.new "id" .integer))) (.enumeration "state" [("draft", ⟨.integer 0, none⟩)]))
    (.required (.new "at" (.unknown "timestamp")))) (.new "authorId" .integer)) "authorId" "User"

theorem imports_eq_uses_post :
    ∃ r d, (sharedNames.generator.declarations post).outcome = .ok r ∧ r.get? "Post" = some d ∧
      d.imports.names = ["UserType", "GraphQLNonNull", "GraphQLEnumType"] ∧
      ∃ fields, d.node.fields? = some fields ∧ d.imports.names = fields.uses.eraseDups := by
  have hr : (sharedNames.generator.declarations post).outcome =
      .ok (sharedNames.generator.result post) := rfl
  have hd : (sharedNames.generator.result post).get? "Post" =
      some (sharedNames.generator.declarationOf "Post" _) := rfl
  obtain ⟨fields, hf, hnames, -, -⟩ := imports_eq_uses (o := sharedNames) (by decide) (by decide)
    (by decide) hr hd
  exact ⟨_, _, hr, hd, rfl, fields, hf, hnames⟩

end Generator
end GraphDecl
