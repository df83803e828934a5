import GraphDecl.Proofs.DerivedNames
import GraphDecl.Proofs.Reports
import GraphDecl.Proofs.Validity
import Mathlib.Data.List.Nodup
import Mathlib.Data.List.Perm.Basic

/-!
# The fields that a declaration emits

`Options.emitted` lists the properties that the declaration of a model has under `fields`: for every
field of the model its own property, and right behind it the one derived from its reference if there
is one. What these properties are called and typed is `Options.Gives`. References are looked up by field
keys, so a reference under another key emits nothing, and the properties are as many as the fields and
references together only if there is no such reference (`length_emitted_eq_iff`).
-/

namespace GraphDecl

/-- The value under `fields` of the object from which a declaration constructs its type. -/
def Declaration.fields? (d : Declaration) : Option Expr := do
  (← (← d.init?).argument? 0).property? "fields"

/-- The key of a property with the name of its type, if its type is a name. -/
def Expr.namedType? (p : String × Expr) : Option (String × String) := do
  let type ← p.2.property? "type"
  return (p.1, ← type.identifier?)

namespace Options
variable (o : Options)

/-- The body of an emitted property. -/
def propertyBody (type : Expr) (description : String) : Expr :=
  .object [("type", type), ("description", .literal (.string description))]

theorem namedType?_propertyBody (name : String) (type : Expr) (description : String) :
    Expr.namedType? (name, propertyBody type description) =
      type.identifier?.map fun typeName => (name, typeName) := by
  cases type <;> rfl

/-- The property of a field. -/
def fieldProperty (f : Field) : String × Expr :=
  (f.name, propertyBody (o.generator.typeOf f).node (o.describe f.description))

/-- The property derived from a reference. -/
def referenceProperty (m : Model) (reference target : String) : String × Expr :=
  let name := Naming.referenceName m reference
  (name, propertyBody (.identifier (Naming.typeName target))
    (o.describe (some (Naming.referenceDescription o.defaultDescription name target))))

/-- The property derived from the reference of the field under `key`, if it has one. -/
def derivedProperty? (m : Model) (key : String) : Option (String × Expr) :=
  (m.reference? key).map (o.referenceProperty m key)

/-- The properties under `fields` of the declaration of a model. -/
def emitted (m : Model) : List (String × Expr) :=
  m.fields.entries.flatMap fun e => o.fieldProperty e.2 :: (o.derivedProperty? m e.1).toList

end Options

namespace Model
variable (m : Model)

theorem isSome_reference? {m : Model} {k : String} :
    (m.reference? k).isSome = true ↔ k ∈ m.references.keys :=
  m.references.contains_iff k

/-- The fields that have a reference are the references that have a field. -/
theorem referenced_perm :
    (m.fields.keys.filter fun k => (m.reference? k).isSome).Perm
      (m.references.keys.filter m.hasField) := by
  refine (List.perm_ext_iff_of_nodup (m.fields.nodup_keys.filter _)
    (m.references.nodup_keys.filter _)).2 fun k => ?_
  rw [List.mem_filter, List.mem_filter, isSome_reference?, hasField_iff, and_comm]

end Model

namespace Options
variable (o : Options) (m : Model)

/-- The keys of the properties are the names of the fields and those derived from the references
that have a field. -/
theorem keys_emitted_perm :
    ((o.emitted m).map Prod.fst).Perm (m.fields.entries.map (fun e => e.2.name) ++
      (m.references.keys.filter m.hasField).map (Naming.referenceName m)) := by
  have hkeys : ∀ e : String × Field,
      (o.fieldProperty e.2 :: (o.derivedProperty? m e.1).toList).map Prod.fst =
        e.2.name :: (if (m.reference? e.1).isSome then [Naming.referenceName m e.1] else []) := by
    intro e
    rw [derivedProperty?]
    cases m.reference? e.1 <;> rfl
  have hderived : (m.fields.entries.flatMap fun e =>
        if (m.reference? e.1).isSome then [Naming.referenceName m e.1] else []) =
      (m.fields.keys.filter fun k => (m.reference? k).isSome).map (Naming.referenceName m) := by
    rw [OrderedMap.keys, List.filter_map, List.map_map]
    induction m.fields.entries with
    | nil => rfl
    | cons e l ih =>
      rw [List.flatMap_cons, ih, List.filter_cons]
      by_cases h : (m.reference? e.1).isSome = true
      · simp [h]
      · simp [h]
  rw [emitted, List.map_flatMap]
  simp only [hkeys]
  refine (List.map_append_flatMap_perm _ _ _).symm.trans ?_
  rw [hderived]
  exact (m.referenced_perm.map _).append_left _

/-- There are as many properties as fields and references that have a field. -/
theorem length_emitted :
    (o.emitted m).length = m.fields.size + (m.references.keys.filter m.hasField).length := by
  have h := (o.keys_emitted_perm m).length_eq
  rw [List.length_map, List.length_append, List.length_map, List.length_map] at h
  exact h

theorem length_emitted_eq_iff :
    (o.emitted m).length = m.fields.size + m.references.size ↔
      ∀ k ∈ m.references.keys, k ∈ m.fields.keys := by
  rw [length_emitted, Nat.add_left_cancel_iff, ← m.references.length_keys,
    List.length_filter_eq_length_iff]
  simp only [Model.hasField_iff]

theorem node_bodyOf : (o.generator.bodyOf m).node = o.emitted m := by
  have hentries : ∀ e : String × Field, (o.generator.entriesOf m e.1 e.2).map Fragment.node =
      o.fieldProperty e.2 :: (o.derivedProperty? m e.1).toList := by
    intro e
    rw [Generator.entriesOf, derivedProperty?]
    cases m.reference? e.1 <;> rfl
  simp only [Generator.bodyOf, Fragment.sequence, List.map_flatMap, hentries, emitted]

theorem fields?_declarationOf (model : String) :
    (o.generator.declarationOf model m).node.fields? = some (.object (o.emitted m)) := by
  rw [← node_bodyOf]
  rfl

/-- The properties that a field of the model gives: its own, under its name, and right behind it, if the
references have the key of the field, one of the type that is called after the target. -/
inductive Gives (m : Model) (key : String) (f : Field) : List (String × Expr) → Prop
  | alone (href : m.references.get? key = none) : Gives m key f [(f.name, (o.fieldProperty f).2)]
  | referring {target name note : String} (href : m.references.get? key = some target)
      (hname : Naming.DerivedKey m.fields.keys key name)
      (hnote : Naming.DerivedNote o.defaultDescription target name note) :
      Gives m key f [(f.name, (o.fieldProperty f).2),
        (name, .object [("type", .identifier (target ++ "Type")),
          ("description", .literal (.string note))])]

/-- What a field gives is emitted for it. -/
theorem gives_iff {key : String} {f : Field} {ps : List (String × Expr)} :
    o.Gives m key f ps ↔ o.fieldProperty f :: (o.derivedProperty? m key).toList = ps := by
  have hreference : ∀ name target, o.describe (some
      (Naming.referenceDescription o.defaultDescription name target)) =
        Naming.referenceDescription o.defaultDescription name target :=
    fun _ _ => o.describe_of_ne (Naming.referenceDescription_ne_empty _ _ _)
  rw [derivedProperty?]
  constructor
  · rintro (href | ⟨href, hname, hnote⟩)
    · rw [Model.reference?, href]
      rfl
    · obtain rfl := Naming.derivedKey_iff.1 hname
      obtain rfl := Naming.derivedNote_iff.1 hnote
      rw [Model.reference?, href, Option.map_some, referenceProperty, hreference]
      rfl
  · rintro rfl
    cases href : m.reference? key with
    | none => exact .alone href
    | some target =>
      rw [Option.map_some, referenceProperty, hreference]
      exact .referring href (Naming.derivedKey_iff.2 rfl) (Naming.derivedNote_iff.2 rfl)

theorem forall₂_gives_iff {groups : List (List (String × Expr))} :
    List.Forall₂ (fun e ps => o.Gives m e.1 e.2 ps) m.fields.entries groups ↔
      m.fields.entries.map (fun e => o.fieldProperty e.2 :: (o.derivedProperty? m e.1).toList) =
        groups := by
  simp only [gives_iff]
  exact List.forall₂_map_left_iff.symm.trans (by rw [List.forall₂_eq_eq_eq])

theorem flatten_eq_emitted {groups : List (List (String × Expr))}
    (h : List.Forall₂ (fun e ps => o.Gives m e.1 e.2 ps) m.fields.entries groups) :
    groups.flatten = o.emitted m := by
  rw [← (o.forall₂_gives_iff m).1 h]
  exact List.flatMap_def.symm

/-- A run that succeeds declares every model of the schema once, in the same order. The fields of a
declaration are, for every field of the model, its property and then the one derived from its
reference, if it has one. They are as many as the run reports if and only if every reference belongs
to a field, as it does in a valid schema; references that belong to no field add nothing. -/
theorem declarations_emit (s : Schema) {r : OrderedMap (Fragment Declaration)}
    (hr : (o.generator.declarations s).outcome = .ok r) :
    r.keys = s.models.keys ∧ ∀ key m, s.models.get? key = some m →
      ∃ d groups, r.get? key = some d ∧ d.node.fields? = some (.object groups.flatten) ∧
        List.Forall₂ (fun e ps => o.Gives m e.1 e.2 ps) m.fields.entries groups ∧
        (∀ fields imports, .declared key fields imports ∈ (o.generator.declarations s).events ↔
          fields = m.fields.size + m.references.size ∧ imports = d.imports.size) ∧
        (groups.flatten.length = m.fields.size + m.references.size ↔
          ∀ k ∈ m.references.keys, k ∈ m.fields.keys) ∧
        (s.validate.outcome = .ok () → ∀ k ∈ m.references.keys, k ∈ m.fields.keys) ∧
        groups.flatten.length =
          m.fields.size + (m.references.keys.filter (· ∈ m.fields.keys)).length := by
  obtain ⟨hs, rfl⟩ := o.generator.declarations_eq_ok.1 hr
  refine ⟨OrderedMap.keys_mapEntries _ _, fun key m hm => ?_⟩
  have hgives := (o.forall₂_gives_iff m).2 rfl
  have hflatten := o.flatten_eq_emitted m hgives
  refine ⟨o.generator.declarationOf key m, _, ?_, ?_, hgives, ?_, ?_, ?_, ?_⟩
  · exact OrderedMap.get?_mapEntries_eq_some.2 ⟨m, hm, rfl⟩
  · rw [hflatten]
    exact o.fields?_declarationOf m key
  · exact fun fields imports => o.generator.declared_mem_events_iff hs hm
  · rw [hflatten]
    exact o.length_emitted_eq_iff m
  · exact fun hv => ((s.validate_eq_ok_iff).1 hv key m hm).references
  · simp only [hflatten, length_emitted, ← Model.hasField_iff, Bool.decide_eq_true]

/-- A post with an owner and a parent, a name for the owner, and a reference that belongs to no field. -/
def strayPost : Model :=
  .withReference (.withReference (.withReference (.withField (.withField (.withField (.new "Post")
    (.new "ownerId" .integer)) (.new "owner" .string)) (.new "parentId" .integer))
    "ghostId" "User") "ownerId" "User") "parentId" "Post"

def strayReference : Schema := .add .empty strayPost

/-- Six fields and references are reported and five properties emitted. -/
theorem declarations_emit_strayReference :
    ∃ r d b₁ b₂ b₃, (({} : Options).generator.declarations strayReference).outcome = .ok r ∧
      r.keys = ["Post"] ∧ r.get? "Post" = some d ∧
      d.node.fields? = some (.object [("ownerId", b₁),
        ("ownerRef", .object [("type", .identifier "UserType"),
          ("description", .literal (.string "@TODO (reference)"))]),
        ("owner", b₂), ("parentId", b₃),
        ("parent", .object [("type", .identifier "PostType"),
          ("description", .literal (.string "@TODO (parent Post)"))])]) ∧
      .declared "Post" 6 d.imports.size ∈
        (({} : Options).generator.declarations strayReference).events := by
  have hr : (({} : Options).generator.declarations strayReference).outcome =
      .ok (({} : Options).generator.result strayReference) := rfl
  obtain ⟨hkeys, hdeclared⟩ := declarations_emit {} strayReference hr
  obtain ⟨d, groups, hd, hfields, hgives, hevents, -⟩ := hdeclared "Post" strayPost rfl
  rw [flatten_eq_emitted {} strayPost hgives] at hfields
  exact ⟨_, d, _, _, _, hr, hkeys, hd, hfields, (hevents 6 _).2 ⟨rfl, rfl⟩⟩

end Options
end GraphDecl
