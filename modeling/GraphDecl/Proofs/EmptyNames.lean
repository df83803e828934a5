import GraphDecl.Proofs.Collisions
import GraphDecl.Proofs.EnumKeys
import GraphDecl.Proofs.Links
import GraphDecl.Proofs.TypeNames

/-!
# Names that are empty

The names of a declaration are made from those of a schema: put in upper case or given a capital, cut
into words and joined again, given a `Type` or a `Ref`, and freed from an `Id`. Only the last can leave
nothing of a name, that of a reference under the key `Id` (`Naming.referenceName_eq_empty_iff`). So in
a valid schema without empty names there is one empty name in the declaration of a model with such a
reference, and none in any other (`count_empty_identifiers`).
-/

namespace GraphDecl

/-! ### Names that are made -/

namespace Naming

theorem flatten_eq_nil_of_splitClusters {gs : List (List Char)} (h : splitClusters gs = [[]]) :
    gs.flatten = [] := by
  induction gs with
  | nil => rfl
  | cons g rest ih =>
    have hrest : splitClusters rest ≠ [] := splitClusters_ne_nil rest
    have hcut := cut_splitClusters g rest
    rw [h] at hcut
    generalize hws : [[]] = ws at hcut
    cases hcut with
    | parted => exact absurd (List.cons.inj hws).2.symm hrest
    | ended => exact absurd (List.cons.inj hws).2.symm hrest
    | joined _ _ hwords =>
      obtain ⟨hw, rfl⟩ := List.cons.inj hws
      obtain ⟨rfl, rfl⟩ := List.append_eq_nil_iff.1 hw.symm
      exact ih hwords

theorem upperText_eq_nil_iff {cs : List Char} : Unicode.upperText cs = [] ↔ cs = [] := by
  cases cs with
  | nil => exact Iff.rfl
  | cons c cs => simp [Unicode.upper_ne_nil]

/-- A name has several words, so that something stands between them, or it is a word itself. -/
theorem enumKey_eq_empty_iff {name : String} : enumKey name = "" ↔ name = "" := by
  constructor
  · intro h
    have hkey := toList_enumKey name
    rw [h, keyWords] at hkey
    cases hwords : words name.toList with
    | nil => exact absurd hwords (splitClusters_ne_nil _)
    | cons w ws =>
      rw [hwords] at hkey
      cases ws with
      | nil =>
        have hw : Unicode.upperText w = [] := by simpa using hkey.symm
        rw [upperText_eq_nil_iff.1 hw, words] at hwords
        have hname := flatten_eq_nil_of_splitClusters hwords
        rw [Unicode.clusters_flatten] at hname
        exact String.toList_eq_nil_iff.1 hname
      | cons v vs => simp at hkey
  · rintro rfl
    rfl

theorem typeName_ne_empty (model : String) : typeName model ≠ "" := by
  intro h
  exact absurd (String.append_eq_empty_iff.1 h).2 (by decide)

/-- Of a name that is not empty, nothing is left without its `Id` only if that is all of it. -/
theorem referenceName_eq_empty_iff {m : Model} (hm : "" ∉ m.fields.keys) {r : String} (hr : r ≠ "") :
    referenceName m r = "" ↔ r = "Id" := by
  constructor
  · intro h
    by_cases hfield : withoutId r ∈ m.fields.keys
    · rw [referenceName_of_mem hfield] at h
      exact absurd (String.append_eq_empty_iff.1 h).2 (by decide)
    · rw [referenceName_of_not_mem hfield] at h
      rcases withoutId_eq_iff.1 h with rfl | ⟨rfl, -⟩
      · rfl
      · exact absurd rfl hr
  · rintro rfl
    have hstem : withoutId "Id" ∉ m.fields.keys := hm
    exact referenceName_of_not_mem hstem

end Naming

/-! ### Names of a schema and of options -/

/-- The name of a field and those of its values. -/
def Field.names (f : Field) : List String := f.name :: (f.type.enumValues?.elim [] OrderedMap.keys)

/-- The keys and names of a model, of its fields and of its references. -/
def Model.names (m : Model) : List String :=
  m.name :: (m.fields.entries.flatMap fun e => e.1 :: e.2.names) ++
    m.references.entries.flatMap fun r => [r.1, r.2]

def Schema.names (s : Schema) : List String := s.models.entries.flatMap fun e => e.1 :: e.2.names

def Identifiers.names (i : Identifiers) : List String :=
  [i.string, i.int, i.float, i.nonNull, i.enumType, i.objectType]

namespace Model
variable {m : Model}

theorem mem_names_of_mem_fields {e : String × Field} (he : e ∈ m.fields.entries) {name : String}
    (h : name ∈ e.1 :: e.2.names) : name ∈ m.names :=
  List.mem_cons_of_mem _ (List.mem_append_left _ (List.mem_flatMap.2 ⟨e, he, h⟩))

theorem mem_names_of_mem_keys {key : String} (h : key ∈ m.fields.keys) : key ∈ m.names := by
  obtain ⟨e, he, rfl⟩ := List.mem_map.1 h
  exact mem_names_of_mem_fields he List.mem_cons_self

theorem mem_names_of_mem_references {r : String × String} (hr : r ∈ m.references.entries) :
    r.1 ∈ m.names :=
  List.mem_append_right _ (List.mem_flatMap.2 ⟨r, hr, List.mem_cons_self⟩)

end Model

theorem Schema.mem_names_of_get? {s : Schema} {key : String} {m : Model}
    (hm : s.models.get? key = some m) {name : String} (h : name ∈ key :: m.names) : name ∈ s.names :=
  List.mem_flatMap.2 ⟨(key, m), OrderedMap.get?_eq_some_iff.1 hm, h⟩

/-! ### Names of a declaration -/

/-- The name that a node is, or that the expression is which it stands for. -/
def Node.identifier? : Node → Option String
  | .identifier name | .expr (.identifier name) => some name
  | _ => none

namespace Expr

/-- The identifiers in an expression, with the keys of objects and what is constructed. -/
def identifiers (e : Expr) : List String := e.nodes.filterMap Node.identifier?

theorem identifiers_identifier (name : String) : (identifier name).identifiers = [name] := by
  rw [identifiers, nodes]; rfl

theorem identifiers_literal (l : Literal) : (literal l).identifiers = [] := by
  rw [identifiers, nodes]; rfl

theorem identifiers_object (ps : List (String × Expr)) :
    (object ps).identifiers = ps.flatMap fun p => p.1 :: p.2.identifiers := by
  rw [identifiers, nodes, nodesOfProperties_eq_flatMap, List.filterMap_cons, List.filterMap_flatMap]
  rfl

theorem identifiers_construct (callee : String) (es : List Expr) :
    (construct callee es).identifiers = callee :: es.flatMap identifiers := by
  rw [identifiers, nodes, nodesOfArguments_eq_flatMap, List.filterMap_cons, List.filterMap_cons,
    List.filterMap_flatMap]
  rfl

end Expr

/-- The identifiers in a declaration, with the names that it binds. -/
def Declaration.identifiers (d : Declaration) : List String := d.nodes.filterMap Node.identifier?

theorem Declaration.identifiers_single (k : Keyword) (name : String) (e : Expr) :
    (single k name e).identifiers = name :: e.identifiers := by
  have hnodes : (single k name e).nodes =
      .declaration (single k name e) :: .declarator ⟨name, some e⟩ :: .identifier name :: e.nodes := by
    simp [nodes, single, Declarator.nodes]
  rw [identifiers, hnodes]
  rfl

namespace Expr

def Named (e : Expr) : Prop := "" ∉ e.identifiers

theorem named_identifier {name : String} (h : name ≠ "") : (identifier name).Named := by
  rw [Named, identifiers_identifier, List.mem_singleton]
  exact h.symm

theorem named_literal (l : Literal) : (literal l).Named := by
  rw [Named, identifiers_literal]
  exact List.not_mem_nil

theorem named_object {ps : List (String × Expr)} (h : ∀ p ∈ ps, p.1 ≠ "" ∧ p.2.Named) :
    (object ps).Named := by
  rw [Named, identifiers_object, List.mem_flatMap]
  rintro ⟨p, hp, hmem⟩
  obtain ⟨hkey, hvalue⟩ := h p hp
  rcases List.mem_cons.1 hmem with hmem | hmem
  · exact hkey hmem.symm
  · exact hvalue hmem

theorem named_construct {callee : String} (hcallee : callee ≠ "") {e : Expr} (h : e.Named) :
    (construct callee [e]).Named := by
  rw [Named, identifiers_construct, List.flatMap_singleton, List.mem_cons, not_or]
  exact ⟨hcallee.symm, h⟩

/-- Where no value of an object has an empty identifier, these are among its keys. -/
theorem count_identifiers_object {ps : List (String × Expr)} (h : ∀ p ∈ ps, p.2.Named) :
    (object ps).identifiers.count "" = (ps.map Prod.fst).count "" := by
  rw [identifiers_object]
  induction ps with
  | nil => rfl
  | cons p ps ih =>
    obtain ⟨hp, hps⟩ := List.forall_mem_cons.1 h
    have hnone : p.2.identifiers.count "" = 0 := List.count_eq_zero.2 hp
    rw [List.flatMap_cons, List.cons_append, List.map_cons, List.count_cons, List.count_cons,
      List.count_append, hnone, Nat.zero_add, ih hps]

end Expr

namespace Options
open GraphDecl.Expr
variable {o : Options}

theorem named_description (d : Option String) :
    (o.generator.description d).1 ≠ "" ∧ (o.generator.description d).2.Named :=
  ⟨(by decide : "description" ≠ ""), named_literal _⟩

theorem named_propertyBody {type : Expr} (h : type.Named) (d : String) :
    (propertyBody type d).Named := by
  refine named_object ?_
  simp only [List.forall_mem_cons]
  exact ⟨⟨by decide, h⟩, ⟨by decide, named_literal _⟩, List.forall_mem_nil _⟩

theorem named_enumEntry {key : String} (h : key ≠ "") (v : EnumValue) :
    (o.generator.enumEntry key v).1 ≠ "" ∧ (o.generator.enumEntry key v).2.Named := by
  refine ⟨fun hkey => h (Naming.enumKey_eq_empty_iff.1 hkey), named_object ?_⟩
  simp only [List.forall_mem_cons]
  exact ⟨⟨(by decide : "value" ≠ ""), named_literal _⟩, named_description _, List.forall_mem_nil _⟩

theorem named_enumBody (f : Field) {values : OrderedMap EnumValue} (h : "" ∉ values.keys) :
    (Expr.object (o.enumBody f values)).Named := by
  have hvalues : (Expr.object (values.entries.map fun v => o.generator.enumEntry v.1 v.2)).Named := by
    refine named_object (List.forall_mem_map.2 fun v hv => ?_)
    exact named_enumEntry (fun hkey => h (hkey ▸ List.mem_map_of_mem hv)) v.2
  refine named_object ?_
  simp only [enumBody, List.forall_mem_cons]
  exact ⟨⟨by decide, named_literal _⟩, named_description _, ⟨by decide, hvalues⟩,
    List.forall_mem_nil _⟩

section
variable (ho : "" ∉ o.identifiers.names)
include ho

theorem ne_empty_of_mem {name : String} (h : name ∈ o.identifiers.names) : name ≠ "" :=
  fun heq => ho (heq ▸ h)

theorem named_wrap (f : Field) {t : Fragment Expr} (h : t.node.Named) :
    (o.generator.wrap f t).node.Named := by
  rw [Generator.wrap]
  split
  · exact h
  · exact named_construct (ne_empty_of_mem ho (by simp [Identifiers.names])) h

theorem named_typeOf {f : Field} (hf : "" ∉ f.names) : (o.generator.typeOf f).node.Named := by
  have hscalar : ∀ name ∈ o.identifiers.names,
      (o.generator.wrap f (o.generator.scalar name)).node.Named :=
    fun name hname => named_wrap ho f (named_identifier (ne_empty_of_mem ho hname))
  rw [Field.names] at hf
  rw [Generator.typeOf]
  cases htype : f.type with
  | enumeration values =>
    rw [htype] at hf
    have hvalues : "" ∉ values.keys := fun h => hf (List.mem_cons_of_mem _ h)
    exact named_construct (ne_empty_of_mem ho (by simp [Identifiers.names]))
      (named_enumBody f hvalues)
  | string | integer | float => exact hscalar _ (by simp [Identifiers.names])
  | unknown name => exact named_wrap ho f (named_identifier (by decide))

variable {m : Model} (hm : "" ∉ m.names)
include hm

theorem named_of_mem_emitted : ∀ p ∈ o.emitted m, p.2.Named := by
  intro p hp
  obtain ⟨e, he, hp⟩ := List.mem_flatMap.1 hp
  rcases List.mem_cons.1 hp with rfl | hp
  · have hf : "" ∉ e.2.names :=
      fun h => hm (Model.mem_names_of_mem_fields he (List.mem_cons_of_mem _ h))
    exact named_propertyBody (named_typeOf ho hf) _
  · obtain ⟨target, -, rfl⟩ := Option.map_eq_some_iff.1 (Option.mem_toList.1 hp)
    exact named_propertyBody (named_identifier (Naming.typeName_ne_empty target)) _

/-- The empty identifiers of a declaration are keys of its fields. -/
theorem count_identifiers_declarationOf (key : String) :
    (o.generator.declarationOf key m).node.identifiers.count "" =
      ((o.emitted m).map Prod.fst).count "" := by
  have hcallee : o.identifiers.objectType ≠ "" := ne_empty_of_mem ho (by simp [Identifiers.names])
  have hdeclare : (o.generator.declarationOf key m).node = .single o.declarationStyle.keyword
      (Naming.typeName key) (.construct o.identifiers.objectType
        [.object (o.objectBody key m (o.emitted m))]) := o.node_declarationOf key m
  have hname : (o.generator.text key).identifiers = [] := identifiers_literal _
  have hdescription : (o.generator.description m.description).2.identifiers = [] :=
    identifiers_literal _
  have hbody : (Expr.object (o.objectBody key m (o.emitted m))).identifiers =
      "name" :: "description" :: "fields" :: (Expr.object (o.emitted m)).identifiers := by
    rw [identifiers_object, objectBody, List.flatMap_cons, List.flatMap_cons,
      List.flatMap_singleton, hname, hdescription]
    rfl
  -- around the fields stand the names of the options, fixed keys and a name with a `Type`
  rw [hdeclare, Declaration.identifiers_single, identifiers_construct, List.flatMap_singleton, hbody,
    List.count_cons_of_ne (Naming.typeName_ne_empty key), List.count_cons_of_ne hcallee,
    List.count_cons_of_ne (by decide), List.count_cons_of_ne (by decide),
    List.count_cons_of_ne (by decide), count_identifiers_object (named_of_mem_emitted ho hm)]

end

/-- The only key of its fields that is empty is the name derived from a reference under `Id`. -/
theorem count_keys_emitted {m : Model} (hm : "" ∉ m.names)
    (hreferences : ∀ k ∈ m.references.keys, k ∈ m.fields.keys) :
    ((o.emitted m).map Prod.fst).count "" = if "Id" ∈ m.references.keys then 1 else 0 := by
  have hnames : (m.fields.entries.map fun e => e.2.name).count "" = 0 := by
    refine List.count_eq_zero.2 fun h => ?_
    obtain ⟨e, he, hname⟩ := List.mem_map.1 h
    exact hm (Model.mem_names_of_mem_fields he (by simp [Field.names, ← hname]))
  have hkeys : "" ∉ m.fields.keys := fun h => hm (Model.mem_names_of_mem_keys h)
  -- a field keeps its name, so only a derived one can be empty
  have hderived : (m.references.keys.map (Naming.referenceName m)).count "" =
      m.references.keys.count "Id" := by
    rw [List.count, List.countP_map, List.count]
    refine List.countP_congr fun r hr => ?_
    have hne : r ≠ "" := by
      obtain ⟨x, hx, rfl⟩ := List.mem_map.1 hr
      exact fun h => hm (h ▸ Model.mem_names_of_mem_references hx)
    simp only [Function.comp_apply, beq_iff_eq]
    exact Naming.referenceName_eq_empty_iff hkeys hne
  rw [(o.keys_emitted_perm m).count_eq, Model.filter_hasField_references hreferences,
    List.count_append, hnames, hderived, Nat.zero_add, m.references.nodup_keys.count]

/-- In a run on a valid schema without empty keys and names, and with options that have no empty names,
the types are named, and the only empty identifier of a declaration is the key of the property derived
from a reference under the key `Id`. Without such a reference there is none. -/
theorem count_empty_identifiers {s : Schema} (hs : "" ∉ s.names) (ho : "" ∉ o.identifiers.names)
    (hv : s.validate.outcome = .ok ()) {r : OrderedMap (Fragment Declaration)}
    (hr : (o.generator.declarations s).outcome = .ok r) {key : String} {d : Fragment Declaration}
    (hd : r.get? key = some d) :
    ∃ m ps, s.models.get? key = some m ∧ d.node.fields? = some (.object ps) ∧
      d.node.typeNames = key :: m.enumNames ∧ "" ∉ d.node.typeNames ∧
      d.node.identifiers.count "" = (if "Id" ∈ m.references.keys then 1 else 0) ∧
      (ps.map Prod.fst).count "" = d.node.identifiers.count "" ∧
      ∀ target, m.references.get? "Id" = some target →
        ∃ p ∈ ps, p.1 = "" ∧ p.2.property? "type" = some (.identifier (Naming.typeName target)) := by
  obtain ⟨-, rfl⟩ := o.generator.declarations_eq_ok.1 hr
  obtain ⟨m, hm, rfl⟩ := OrderedMap.get?_mapEntries_eq_some.1 hd
  have hkey : key ≠ "" := fun h => hs (Schema.mem_names_of_get? hm (by simp [h]))
  have hnames : "" ∉ m.names :=
    fun h => hs (Schema.mem_names_of_get? hm (List.mem_cons_of_mem _ h))
  have hsound := s.validate_eq_ok_iff.1 hv key m hm
  have hcount := count_identifiers_declarationOf ho hnames key
  have htypes := o.typeNames_declarationOf key m
  refine ⟨m, o.emitted m, hm, o.fields?_declarationOf m key, htypes, ?_,
    hcount.trans (count_keys_emitted hnames hsound.references), hcount.symm, fun target ht => ?_⟩
  · rw [htypes, List.mem_cons, not_or]
    refine ⟨hkey.symm, fun h => ?_⟩
    obtain ⟨e, he, hname⟩ := List.mem_map.1 h
    rw [Naming.capitalize_eq_empty_iff] at hname
    have hmem : e.2.name ∈ m.names :=
      Model.mem_names_of_mem_fields (List.mem_filter.1 he).1 (by simp [Field.names])
    exact hnames (hname ▸ hmem)
  · obtain ⟨front, back, f, p, hps, -, hname, htype⟩ := property_of_reference hsound ht
    have hkeys : "" ∉ m.fields.keys := fun h => hnames (Model.mem_names_of_mem_keys h)
    rw [(Naming.referenceName_eq_empty_iff hkeys (by decide)).2 rfl] at hname
    exact ⟨p, by rw [hps]; simp, hname, htype⟩

/-- A card of a kind, with a reference under this key. -/
def card (reference : String) : Schema :=
  .add .empty <| .withReference (.withField (.withField (.new "Card") (.new reference .integer))
    (.enumeration "kind" [("-", ⟨.integer 0, none⟩), ("Id", ⟨.integer 1, none⟩)])) reference "User"

theorem count_empty_identifiers_card :
    ∃ r d ps, "" ∉ (card "Id").names ∧ "" ∉ ({} : Options).identifiers.names ∧
      (card "Id").validate.outcome = .ok () ∧
      (({} : Options).generator.declarations (card "Id")).outcome = .ok r ∧
      r.get? "Card" = some d ∧ d.node.fields? = some (.object ps) ∧
      d.node.typeNames = ["Card", "Kind"] ∧ d.node.identifiers.count "" = 1 ∧
      (ps.map Prod.fst).count "" = 1 := by
  have hs : "" ∉ (card "Id").names := by decide
  have ho : "" ∉ ({} : Options).identifiers.names := by decide
  have hr : (({} : Options).generator.declarations (card "Id")).outcome =
      .ok (({} : Options).generator.result (card "Id")) := rfl
  have hd : (({} : Options).generator.result (card "Id")).get? "Card" =
      some (({} : Options).generator.declarationOf "Card" _) := rfl
  obtain ⟨m, ps, hm, hps, htypes, -, hcount, hkeys, -⟩ := count_empty_identifiers hs ho rfl hr hd
  cases hm
  have hone := hcount.trans (if_pos (by decide))
  exact ⟨_, _, ps, hs, ho, rfl, hr, hd, hps, htypes.trans (by decide), hone, hkeys.trans hone⟩

/-- Nothing is left of the key of a reference that is `Id` alone. -/
theorem card_has_empty_key :
    ∃ s r d ps, s = card "Id" ∧ "" ∉ s.names ∧ "" ∉ ({} : Options).identifiers.names ∧
      s.validate.outcome = .ok () ∧ (({} : Options).generator.declarations s).outcome = .ok r ∧
      r.get? "Card" = some d ∧ d.node.fields? = some (.object ps) ∧
      ps.map Prod.fst = ["Id", "", "kind"] := by
  refine ⟨_, _, _, _, rfl, by decide, by decide, rfl, rfl, rfl, rfl, ?_⟩
  decide

end Options
end GraphDecl
