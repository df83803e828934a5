import GraphDecl.Proofs.Contents
import Mathlib.Data.List.Nodup
import Mathlib.Data.List.Perm.Basic

/-!
# Names of types that coincide

A declaration constructs the type of its model and the types of its enums. The first is named by the
key of the model, the others by the names of their fields, capitalized. Declarations are made one by
one and no name is compared with another, so an enum can have the name of a model, or that of an enum
of the same or of another model. Otherwise the names are distinct over the whole result
(`typeNames_nodup_iff`). A capital is the whole upper case of a character, which can be several
characters, so `ßtate` and `sState` both give `SState`: what has to be told apart is the upper case of
the first character followed by the rest (`Naming.capitalize_eq_iff`).
-/

namespace GraphDecl

/-! ### Capitals -/

namespace Unicode

theorem upperStrings_ne_nil : ∀ e ∈ upperStrings, e.2 ≠ [] := by decide +kernel

theorem upper_ne_nil (c : Char) : upper c ≠ [] := by
  unfold upper
  split
  · exact List.cons_ne_nil _ _
  · unfold mapCase
    split
    · rename_i cs hcs
      obtain ⟨before, after, htable, -⟩ := List.lookup_eq_some_iff.1 hcs
      have hmem : (c.toNat, cs) ∈ upperStrings := by rw [htable]; simp
      exact fun h => upperStrings_ne_nil _ hmem (List.map_eq_nil_iff.1 h)
    · split <;> exact List.cons_ne_nil _ _

end Unicode

namespace Naming

theorem toList_capitalize_of_cons {name : String} {c : Char} {cs : List Char}
    (h : name.toList = c :: cs) : (capitalize name).toList = Unicode.upper c ++ cs := by
  rw [capitalize, h, String.toList_ofList]

theorem capitalize_eq_empty_iff {name : String} : capitalize name = "" ↔ name = "" := by
  constructor
  · intro h
    cases hname : name.toList with
    | nil => exact String.toList_eq_nil_iff.1 hname
    | cons c cs =>
      have hupper := toList_capitalize_of_cons hname
      rw [h, eq_comm, String.toList_empty, List.append_eq_nil_iff] at hupper
      exact absurd hupper.1 (Unicode.upper_ne_nil c)
  · rintro rfl
    rfl

/-- The names are equal, or the whole upper case of the first character followed by the rest is the
same text for both. -/
def SameCapitalized (a b : String) : Prop :=
  a = b ∨ ∃ c cs d ds, a.toList = c :: cs ∧ b.toList = d :: ds ∧
    Unicode.upper c ++ cs = Unicode.upper d ++ ds

theorem capitalize_eq_iff {a b : String} : capitalize a = capitalize b ↔ SameCapitalized a b := by
  constructor
  · intro h
    cases ha : a.toList with
    | nil =>
      obtain rfl := String.toList_eq_nil_iff.1 ha
      exact .inl (capitalize_eq_empty_iff.1 h.symm).symm
    | cons c cs =>
      cases hb : b.toList with
      | nil =>
        obtain rfl := String.toList_eq_nil_iff.1 hb
        exact .inl (capitalize_eq_empty_iff.1 h)
      | cons d ds =>
        have heq := congrArg String.toList h
        rw [toList_capitalize_of_cons ha, toList_capitalize_of_cons hb] at heq
        exact .inr ⟨c, cs, d, ds, ha, hb, heq⟩
  · rintro (rfl | ⟨c, cs, d, ds, ha, hb, heq⟩)
    · rfl
    · apply String.toList_injective
      rw [toList_capitalize_of_cons ha, toList_capitalize_of_cons hb, heq]

/-- The upper case of one character can be that of another and more, so the names do not have to agree
behind their first characters. -/
example : SameCapitalized "ßtate" "sState" :=
  .inr ⟨'ß', "tate".toList, 's', "State".toList, rfl, rfl, by decide⟩

end Naming

/-! ### Names of types -/

/-- The name of the type that is constructed from an object. -/
def Expr.typeName? (body : List (String × Expr)) : Option String := do
  (← (← body.lookup "name").literal?).string?

/-- The names of the types that a declaration constructs. -/
def Declaration.typeNames (d : Declaration) : List String := d.constructed.filterMap Expr.typeName?

/-- The names of the types that the declarations of a run construct. -/
def typeNames (r : OrderedMap (Fragment Declaration)) : List String :=
  r.entries.flatMap fun e => e.2.node.typeNames

/-- The names of the types of the enums of a model. -/
def Model.enumNames (m : Model) : List String :=
  (m.fields.entries.filter fun e => e.2.type.isEnum).map fun e => Naming.capitalize e.2.name

namespace Options
variable (o : Options)

theorem typeNames_declarationOf (key : String) (m : Model) :
    (o.generator.declarationOf key m).node.typeNames = key :: m.enumNames := by
  have hobject : Expr.typeName? (o.objectBody key m (o.emitted m)) = some key := rfl
  have henum : ∀ (f : Field) values,
      Expr.typeName? (o.enumBody f values) = some (Naming.capitalize f.name) := fun _ _ => rfl
  have henums : (m.fields.entries.filterMap fun e =>
      e.2.type.enumValues?.map (o.enumBody e.2)).filterMap Expr.typeName? = m.enumNames := by
    rw [Model.enumNames]
    induction m.fields.entries with
    | nil => rfl
    | cons e l ih =>
      rw [List.filterMap_cons, List.filter_cons, FieldType.isEnum]
      cases e.2.type.enumValues? with
      | none => exact ih
      | some values => exact (List.filterMap_cons_some (henum e.2 values)).trans (congrArg _ ih)
  rw [Declaration.typeNames, constructed_eq, List.filterMap_cons, hobject, henums]

theorem typeNames_result (s : Schema) : typeNames (o.generator.result s) =
    s.models.entries.flatMap fun e => e.1 :: e.2.enumNames := by
  rw [typeNames, Generator.result, OrderedMap.mapEntries, List.flatMap_map]
  exact List.flatMap_congr fun e _ => o.typeNames_declarationOf e.1 e.2

end Options

/-! ### Names that are distinct -/

namespace Schema
variable (s : Schema)

/-- `f` is an enum, the field under `key` of the model under `model`. -/
def EnumAt (model key : String) (f : Field) : Prop :=
  ∃ m, s.models.get? model = some m ∧ m.fields.get? key = some f ∧ f.type.isEnum = true

/-- No two types have the same name. -/
structure TypesApart : Prop where
  /-- No enum is named like a model. -/
  models : ∀ model key f, s.EnumAt model key f → Naming.capitalize f.name ∉ s.models.keys
  /-- No two enums have names that are the same with the upper case of their first characters. -/
  enums : ∀ model key f model' key' f', s.EnumAt model key f → s.EnumAt model' key' f' →
    Naming.SameCapitalized f.name f'.name → model = model' ∧ key = key'

/-- The enums of a schema, each behind the keys of its model and its field. -/
def enums : List (String × String × Field) :=
  s.models.entries.flatMap fun e => (e.2.fields.entries.filter fun x => x.2.type.isEnum).map (e.1, ·)

variable {s}

theorem mem_enums_iff {model key : String} {f : Field} :
    (model, key, f) ∈ s.enums ↔ s.EnumAt model key f := by
  simp only [enums, EnumAt, List.mem_flatMap, List.mem_map, List.mem_filter,
    OrderedMap.get?_eq_some_iff]
  constructor
  · rintro ⟨⟨model', m⟩, hm, x, ⟨hx, henum⟩, heq⟩
    cases heq
    exact ⟨m, hm, hx, henum⟩
  · rintro ⟨m, hm, hf, henum⟩
    exact ⟨(model, m), hm, (key, f), ⟨hf, henum⟩, rfl⟩

theorem nodup_enums : s.enums.Nodup := by
  rw [enums, List.nodup_flatMap]
  refine ⟨fun e _ => ?_, ?_⟩
  · have hfields : e.2.fields.entries.Nodup := .of_map _ e.2.fields.nodup
    exact (hfields.filter _).map fun x y hxy => congrArg Prod.snd hxy
  · have hmodels : s.models.entries.Pairwise fun e e' => e.1 ≠ e'.1 :=
      List.pairwise_map.1 s.models.nodup
    refine hmodels.imp fun {e e'} hne x hx hx' => ?_
    obtain ⟨y, -, rfl⟩ := List.mem_map.1 hx
    obtain ⟨y', -, heq⟩ := List.mem_map.1 hx'
    exact hne (congrArg Prod.fst heq).symm

theorem flatMap_enumNames : (s.models.entries.flatMap fun e => e.2.enumNames) =
    s.enums.map fun x => Naming.capitalize x.2.2.name := by
  rw [enums, List.map_flatMap]
  refine List.flatMap_congr fun e _ => ?_
  rw [Model.enumNames, List.map_map]
  rfl

theorem typesApart_iff : s.TypesApart ↔ (∀ x ∈ s.enums, Naming.capitalize x.2.2.name ∉ s.models.keys) ∧
    (s.enums.map fun x => Naming.capitalize x.2.2.name).Nodup := by
  rw [List.nodup_map_iff_inj_on nodup_enums]
  constructor
  · rintro ⟨hmodels, henums⟩
    refine ⟨fun x hx => hmodels _ _ _ (mem_enums_iff.1 hx), fun x hx y hy hxy => ?_⟩
    obtain ⟨model, key, f⟩ := x
    obtain ⟨model', key', f'⟩ := y
    have hf := mem_enums_iff.1 hx
    have hf' := mem_enums_iff.1 hy
    obtain ⟨rfl, rfl⟩ := henums _ _ _ _ _ _ hf hf' (Naming.capitalize_eq_iff.1 hxy)
    obtain ⟨m, hm, hkey, -⟩ := hf
    obtain ⟨m', hm', hkey', -⟩ := hf'
    cases hm.symm.trans hm'
    cases hkey.symm.trans hkey'
    rfl
  · rintro ⟨hmodels, henums⟩
    refine ⟨fun model key f hf => hmodels _ (mem_enums_iff.2 hf), ?_⟩
    intro model key f model' key' f' hf hf' hsame
    have heq := henums _ (mem_enums_iff.2 hf) _ (mem_enums_iff.2 hf')
      (Naming.capitalize_eq_iff.2 hsame)
    cases heq
    exact ⟨rfl, rfl⟩

end Schema

namespace Options
variable {o : Options} {s : Schema}

theorem nodup_typeNames_result : (typeNames (o.generator.result s)).Nodup ↔ s.TypesApart := by
  have hperm : (typeNames (o.generator.result s)).Perm
      (s.models.keys ++ s.enums.map fun x => Naming.capitalize x.2.2.name) := by
    rw [typeNames_result, ← Schema.flatMap_enumNames]
    exact (List.map_append_flatMap_perm _ _ _).symm
  rw [hperm.nodup_iff, List.nodup_append, Schema.typesApart_iff]
  constructor
  · rintro ⟨-, henums, hdisj⟩
    exact ⟨fun x hx hkey => hdisj _ hkey _ (List.mem_map_of_mem hx) rfl, henums⟩
  · rintro ⟨hmodels, henums⟩
    refine ⟨s.models.nodup_keys, henums, fun key hkey name hname heq => ?_⟩
    obtain ⟨x, hx, rfl⟩ := List.mem_map.1 hname
    exact hmodels x hx (heq ▸ hkey)

/-- The types of a run are named by the keys of the models and, behind each, by the names of its enums
with a capital. These names are distinct if and only if no enum is named like a model and no two enums
have names for which the upper case of the first character followed by the rest is the same. -/
theorem typeNames_nodup_iff {r : OrderedMap (Fragment Declaration)}
    (hr : (o.generator.declarations s).outcome = .ok r) :
    typeNames r = s.models.entries.flatMap (fun e => e.1 :: e.2.enumNames) ∧
      ((typeNames r).Nodup ↔ s.TypesApart) := by
  obtain ⟨-, rfl⟩ := o.generator.declarations_eq_ok.1 hr
  exact ⟨o.typeNames_result s, nodup_typeNames_result⟩

/-- Two models with an enum each. -/
def ordered (userField orderField : String) : Schema :=
  .add (.add .empty (.withField (.new "User")
    (.enumeration userField [("active", ⟨.integer 1, none⟩)]))) <|
    .withField (.new "Order") (.enumeration orderField [("open", ⟨.integer 1, none⟩)])

theorem typeNames_nodup_iff_ordered :
    ∃ r, (({} : Options).generator.declarations (ordered "status" "orderState")).outcome = .ok r ∧
      typeNames r = ["User", "Status", "Order", "OrderState"] ∧
      (ordered "status" "orderState").TypesApart := by
  have hr : (({} : Options).generator.declarations (ordered "status" "orderState")).outcome =
      .ok _ := rfl
  obtain ⟨hnames, hiff⟩ := typeNames_nodup_iff hr
  have hlist : typeNames _ = ["User", "Status", "Order", "OrderState"] := hnames.trans (by decide)
  exact ⟨_, hr, hlist, hiff.1 (by rw [hlist]; decide)⟩

/-- Enums of two models with fields of one name have the same name. -/
theorem ordered_repeats_type :
    ∃ s r, s = ordered "status" "status" ∧ s.validate.outcome = .ok () ∧
      (({} : Options).generator.declarations s).outcome = .ok r ∧
      typeNames r = ["User", "Status", "Order", "Status"] ∧ ¬ (typeNames r).Nodup := by
  have hnames : typeNames (({} : Options).generator.result (ordered "status" "status")) =
      ["User", "Status", "Order", "Status"] := (typeNames_result {} _).trans (by decide)
  exact ⟨_, ({} : Options).generator.result _, rfl, rfl, rfl, hnames, by rw [hnames]; decide⟩

end Options
end GraphDecl
