import GraphDecl.Proofs.Emitted
import GraphDecl.Proofs.FirstSeen
import GraphDecl.Proofs.Rearranged

/-!
# Schemas that differ in their order

Two schemas are the same if their models, fields, references and enum values are, each compared as a
map. A run on the one then fails if and only if a run on the other does, and otherwise both give the
same keys, the same imports and matching declarations, all in another order. A declaration is cut into
groups, one for each field with what is derived from its reference; groups change places as a whole
(`Declaration.GroupsMatch`), and inside them only the values of an enum do (`TypesMatch`).
-/

namespace GraphDecl

/-- Types of fields that are the same up to the order of the values of an enum. -/
inductive TypesMatch : Expr → Expr → Prop
  | same (t : Expr) : TypesMatch t t
  | enum (callee : String) (head : List (String × Expr)) {vs ws : List (String × Expr)}
      (values : Rearranged (fun v w => v.1 = w.1 ∧ v.2.same w.2 = true) vs ws) :
      TypesMatch (.construct callee [.object (head ++ [("values", .object vs)])])
        (.construct callee [.object (head ++ [("values", .object ws)])])

/-- Properties of fields with the same key, the same description and matching types. -/
inductive EntriesMatch : String × Expr → String × Expr → Prop
  | intro (key : String) (description : String × Expr) {t u : Expr} (types : TypesMatch t u) :
      EntriesMatch (key, .object [("type", t), description]) (key, .object [("type", u), description])

/-- Declarations that differ only in what stands under `fields`, where groups of matching properties
stand in another order. -/
def Declaration.GroupsMatch (d d' : Declaration) (gs gs' : List (List (String × Expr))) : Prop :=
  ∃ keyword name callee head,
    d = .single keyword name
      (.construct callee [.object (head ++ [("fields", .object gs.flatten)])]) ∧
    d' = .single keyword name
      (.construct callee [.object (head ++ [("fields", .object gs'.flatten)])]) ∧
    Rearranged (List.Forall₂ EntriesMatch) gs gs'

/-! ### What is the same in schemas that are the same -/

theorem FieldType.eq_or_enumeration_of_same {t u : FieldType} (h : t.same u = true) :
    t = u ∨ ∃ v w, t = .enumeration v ∧ u = .enumeration w ∧ v.agree EnumValue.same w = true := by
  cases t with
  | enumeration v =>
    cases u with
    | enumeration w => exact .inr ⟨v, w, rfl, rfl, h⟩
    | string | integer | float | unknown name => exact .inl (eq_of_beq h)
  | string | integer | float | unknown name => exact .inl (eq_of_beq h)

theorem Field.eq_or_enumeration_of_same {f g : Field} (h : f.same g = true) :
    f = g ∨ ∃ v w, f.type = .enumeration v ∧ g = { f with type := .enumeration w } ∧
      v.agree EnumValue.same w = true := by
  obtain ⟨name, description, type, nullable⟩ := f
  obtain ⟨name', description', type', nullable'⟩ := g
  simp only [Field.same, Bool.and_eq_true, beq_iff_eq] at h
  obtain ⟨⟨⟨rfl, rfl⟩, htype⟩, rfl⟩ := h
  rcases FieldType.eq_or_enumeration_of_same htype with rfl | ⟨v, w, rfl, rfl, hvw⟩
  · exact .inl rfl
  · exact .inr ⟨v, w, rfl, rfl, hvw⟩

namespace Model
variable {m n : Model}

theorem description_eq_of_same (h : m.same n = true) : m.description = n.description := by
  simp only [same, Bool.and_eq_true, beq_iff_eq] at h
  exact h.1.1.2

theorem fields_of_same (h : m.same n = true) : m.fields.agree Field.same n.fields = true := by
  rw [same, Bool.and_eq_true, Bool.and_eq_true] at h
  exact h.1.2

theorem reference?_eq_of_same (h : m.same n = true) : m.reference? = n.reference? := by
  rw [same, Bool.and_eq_true] at h
  exact funext (OrderedMap.get?_eq_of_agree h.2)

theorem referenceName_eq_of_same (h : m.same n = true) :
    Naming.referenceName m = Naming.referenceName n := by
  funext key
  rw [Naming.referenceName, Naming.referenceName, hasField, hasField,
    OrderedMap.contains_eq_of_agree (fields_of_same h)]

end Model

namespace Options
variable (o : Options)

theorem accepts_iff_of_same {f g : Field} (h : f.same g = true) : o.Accepts f ↔ o.Accepts g := by
  rcases Field.eq_or_enumeration_of_same h with rfl | ⟨v, w, hf, rfl, -⟩
  · rfl
  · simp [Accepts, hf]

theorem survey_iff_of_same {s t : Schema} (h : s.same t = true) :
    (o.generator.survey s).outcome = .ok () ↔ (o.generator.survey t).outcome = .ok () := by
  rw [Generator.survey_eq_ok_iff_accepts, Generator.survey_eq_ok_iff_accepts]
  refine (OrderedMap.rearranged_of_agree h).forall_iff fun a b hab => ?_
  exact (OrderedMap.rearranged_of_agree (Model.fields_of_same hab.2)).forall_iff
    fun f g hfg => o.accepts_iff_of_same hfg.2

/-! ### Matching types, properties and declarations -/

theorem same_enumEntry (key : String) {v w : EnumValue} (h : v.same w = true) :
    (o.generator.enumEntry key v).2.same (o.generator.enumEntry key w).2 = true := by
  rw [EnumValue.same, Bool.and_eq_true, beq_iff_eq] at h
  obtain ⟨hvalue, hdescription⟩ := h
  have htext : ∀ s, (Literal.string s).same (.string s) = true := fun s => by simp [Literal.same]
  simp [Generator.enumEntry, Generator.description, Generator.text, Builder.tree, Expr.same,
    Expr.sameProperties, hvalue, hdescription, htext]

theorem typesMatch_of_same {f g : Field} (h : f.same g = true) :
    TypesMatch (o.generator.typeOf f).node (o.generator.typeOf g).node := by
  rcases Field.eq_or_enumeration_of_same h with rfl | ⟨v, w, hf, rfl, hvw⟩
  · exact .same _
  · rw [Generator.typeOf, Generator.typeOf, hf]
    refine .enum o.identifiers.enumType [_, _] ?_
    refine (OrderedMap.rearranged_of_agree hvw).map fun a b hab => ?_
    rw [hab.1]
    exact ⟨rfl, o.same_enumEntry b.1 hab.2⟩

theorem imports_typeOf_of_same {f g : Field} (h : f.same g = true) :
    (o.generator.typeOf f).imports = (o.generator.typeOf g).imports := by
  rcases Field.eq_or_enumeration_of_same h with rfl | ⟨v, w, hf, rfl, -⟩
  · rfl
  · rw [Generator.typeOf, Generator.typeOf, hf]
    rfl

theorem name_and_description_of_same {f g : Field} (h : f.same g = true) :
    f.name = g.name ∧ f.description = g.description := by
  simp only [Field.same, Bool.and_eq_true, beq_iff_eq] at h
  exact ⟨h.1.1.1, h.1.1.2⟩

theorem fieldProperty_match {f g : Field} (h : f.same g = true) :
    EntriesMatch (o.fieldProperty f) (o.fieldProperty g) := by
  obtain ⟨hname, hdescription⟩ := name_and_description_of_same h
  rw [fieldProperty, fieldProperty, hname, hdescription]
  exact .intro _ _ (o.typesMatch_of_same h)

theorem mem_imports_bodyOf {m : Model} {name : String} :
    name ∈ (o.generator.bodyOf m).imports.names ↔ ∃ e ∈ m.fields.entries,
      name ∈ (o.generator.typeOf e.2).imports.names ∨
        ∃ target, m.reference? e.1 = some target ∧ name = Naming.typeName target := by
  have hentry : ∀ e : String × Field,
      (∃ x ∈ o.generator.entriesOf m e.1 e.2, name ∈ x.imports.names) ↔
        name ∈ (o.generator.typeOf e.2).imports.names ∨
          ∃ target, m.reference? e.1 = some target ∧ name = Naming.typeName target := by
    intro e
    have hderived : ∀ target,
        name ∈ (o.generator.referenceOf m e.1 target).imports.names ↔
          name = Naming.typeName target := by
      intro target
      simp [Generator.referenceOf, Fragment.withImport, Fragment.of, Imports.mem_names_add]
    rw [Generator.entriesOf]
    cases m.reference? e.1 with
    | none => simp [Generator.fieldOf, Fragment.map]
    | some target => simp [Generator.fieldOf, Fragment.map, hderived]
  rw [Generator.bodyOf, Fragment.sequence, Imports.names_foldl_merge, List.mem_eraseDups]
  simp only [Imports.names_empty, List.nil_append, List.mem_flatMap, ← hentry]
  constructor
  · rintro ⟨x, ⟨e, he, hx⟩, hname⟩
    exact ⟨e, he, x, hx, hname⟩
  · rintro ⟨e, he, x, hx, hname⟩
    exact ⟨x, ⟨e, he, hx⟩, hname⟩

/-- The properties under `fields`, a group for every field. -/
def groups (m : Model) : List (List (String × Expr)) :=
  m.fields.entries.map fun e => o.fieldProperty e.2 :: (o.derivedProperty? m e.1).toList

theorem flatten_groups (m : Model) : (o.groups m).flatten = o.emitted m := rfl

section
variable {m n : Model} (h : m.same n = true)
include h

theorem derivedProperty?_eq_of_same : o.derivedProperty? m = o.derivedProperty? n := by
  funext key
  rw [derivedProperty?, derivedProperty?, Model.reference?_eq_of_same h]
  refine congrArg (Option.map · _) (funext fun target => ?_)
  rw [referenceProperty, referenceProperty, Model.referenceName_eq_of_same h]

theorem groups_match : Rearranged (List.Forall₂ EntriesMatch) (o.groups m) (o.groups n) := by
  refine (OrderedMap.rearranged_of_agree (Model.fields_of_same h)).map fun e e' hee' => ?_
  rw [hee'.1, o.derivedProperty?_eq_of_same h]
  refine .cons (o.fieldProperty_match hee'.2) (List.forall₂_same.2 fun p hp => ?_)
  obtain ⟨target, -, rfl⟩ := Option.map_eq_some_iff.1 (Option.mem_toList.1 hp)
  exact .intro _ _ (.same _)

theorem declarationOf_match (key : String) :
    (o.generator.declarationOf key m).node.GroupsMatch (o.generator.declarationOf key n).node
      (o.groups m) (o.groups n) := by
  have hnode : ∀ m, (o.generator.declarationOf key m).node =
      o.generator.declare key m (o.groups m).flatten := by
    intro m
    rw [flatten_groups, ← node_bodyOf]
    rfl
  refine ⟨_, _, _, [_, _], hnode m, ?_, o.groups_match h⟩
  rw [hnode n, Generator.declare, ← Model.description_eq_of_same h]
  rfl

theorem imports_perm (key : String) : (o.generator.declarationOf key m).imports.names.Perm
    (o.generator.declarationOf key n).imports.names := by
  refine (List.perm_ext_iff_of_nodup (Imports.nodup _) (Imports.nodup _)).2 fun name => ?_
  refine o.mem_imports_bodyOf.trans (Iff.trans ?_ o.mem_imports_bodyOf.symm)
  refine (OrderedMap.rearranged_of_agree (Model.fields_of_same h)).exists_iff fun e e' hee' => ?_
  rw [hee'.1, Model.reference?_eq_of_same h, o.imports_typeOf_of_same hee'.2]

end

theorem fails_iff (s : Schema) : (∃ e, (o.generator.declarations s).outcome = .error e) ↔
    (o.generator.survey s).outcome ≠ .ok () := by
  rw [Generator.declarations_eq, Logged.outcome_giving]
  cases (o.generator.survey s).outcome with
  | error e => simp [Except.map]
  | ok u => simp [Except.map]

/-- Runs on schemas that are the same fail together. Otherwise their results have the same keys, and
under each key the same imports and declarations that match group by group, in whatever order. -/
theorem declarations_of_same {s t : Schema} (h : s.same t = true) :
    ((∃ e, (o.generator.declarations s).outcome = .error e) ↔
      ∃ e, (o.generator.declarations t).outcome = .error e) ∧
    ∀ r r', (o.generator.declarations s).outcome = .ok r →
      (o.generator.declarations t).outcome = .ok r' → r.keys.Perm r'.keys ∧
        ∀ key d d', r.get? key = some d → r'.get? key = some d' →
          d.imports.names.Perm d'.imports.names ∧
            ∃ m n, s.models.get? key = some m ∧ t.models.get? key = some n ∧
              d.node.GroupsMatch d'.node (o.groups m) (o.groups n) := by
  refine ⟨?_, fun r r' hr hr' => ?_⟩
  · rw [fails_iff, fails_iff, Ne, o.survey_iff_of_same h]
  · obtain ⟨-, rfl⟩ := o.generator.declarations_eq_ok.1 hr
    obtain ⟨-, rfl⟩ := o.generator.declarations_eq_ok.1 hr'
    refine ⟨?_, fun key d d' hd hd' => ?_⟩
    · rw [Generator.result, Generator.result, OrderedMap.keys_mapEntries,
        OrderedMap.keys_mapEntries]
      exact OrderedMap.keys_perm_of_agree h
    · obtain ⟨m, hm, rfl⟩ := OrderedMap.get?_mapEntries_eq_some.1 hd
      obtain ⟨n, hn, rfl⟩ := OrderedMap.get?_mapEntries_eq_some.1 hd'
      obtain ⟨n', hn', hsame⟩ := (OrderedMap.agree_iff.1 h).2 key m hm
      obtain rfl : n' = n := Option.some.inj (hn'.symm.trans hn)
      exact ⟨o.imports_perm hsame key, m, n', hm, hn, o.declarationOf_match hsame key⟩

/-- A shop in which everything stands in some order, and zero with or without a sign. -/
def shop (flip : Bool) (zero : UInt64) : Schema :=
  let order {α : Type} (l : List α) : List α := if flip then l.reverse else l
  ⟨.ofList (order [("User", .new "User"), ("Order", {
    name := "Order"
    description := none
    fields := .ofList (order [("buyerId", .new "buyerId" .integer),
      ("sellerId", .new "sellerId" .integer),
      ("rate", .enumeration "rate" (order [("none", ⟨.float ⟨zero⟩, none⟩),
        ("full", ⟨.integer 1, none⟩)]))])
    references := .ofList (order [("buyerId", "User"), ("sellerId", "Firm")]) })])⟩

theorem declarations_of_same_shop :
    ∃ s t r r' d d', s = shop false 0 ∧ t = shop true 0x8000000000000000 ∧ s.same t = true ∧
      (({} : Options).generator.declarations s).outcome = .ok r ∧
      (({} : Options).generator.declarations t).outcome = .ok r' ∧
      r.keys = ["User", "Order"] ∧ r'.keys = ["Order", "User"] ∧
      r.get? "Order" = some d ∧ r'.get? "Order" = some d' ∧
      d.imports.names.Perm d'.imports.names ∧
      ∃ m n, s.models.get? "Order" = some m ∧ t.models.get? "Order" = some n ∧
        d.node.GroupsMatch d'.node (({} : Options).groups m) (({} : Options).groups n) := by
  have hsame : (shop false 0).same (shop true 0x8000000000000000) = true := by decide
  obtain ⟨-, hmatch⟩ := declarations_of_same {} hsame
  obtain ⟨-, hmatch⟩ := hmatch _ _ rfl rfl
  obtain ⟨himports, hgroups⟩ := hmatch "Order" _ _ rfl rfl
  exact ⟨_, _, _, _, _, _, rfl, rfl, hsame, rfl, rfl, rfl, rfl, rfl, rfl, himports, hgroups⟩

end Options
end GraphDecl
