import GraphDecl.Proofs.Emitted

/-!
# Fields that collide

The name derived from a reference is compared once, and with the keys of the fields only. Two
properties of a declaration can have the same key all the same: fields may share a name, a derived
name may be the name of a field, and two derived names may be the same. `Model.CollisionFree` lists
these cases; in a valid schema there are no others (`keys_nodup_iff`). Two references meet only if
one key is the other with an `Id` behind it (`CollisionFree.stems`), or if the `Ref` that keeps the
first apart from a field makes up the name of the second (`CollisionFree.suffixes`). Where fields have
their keys for names, all of this can be seen at a single reference (`keys_nodup_iff_of_names`).
-/

namespace GraphDecl

namespace Naming

theorem withoutId_append_refId (x : String) : withoutId (x ++ "RefId") = x ++ "Ref" := by
  rw [show x ++ "RefId" = x ++ "Ref" ++ "Id" by rw [String.append_assoc]; rfl, withoutId_append_id]

theorem append_ne_self {x t : String} (h : 0 < t.length) : x ++ t ≠ x := by
  intro heq
  have hlen := congrArg String.length heq
  rw [String.length_append] at hlen
  omega

end Naming

open Naming

namespace Model

/-- No reference that does not end in `Id` stands beside the one with `Id`. -/
def StemsApart (m : Model) : Prop :=
  ∀ r ∈ m.references.keys, ¬ EndsInId r → r ++ "Id" ∉ m.references.keys

/-- No derived name that has its `Ref` because of a field is what another reference leads to. -/
def SuffixesApart (m : Model) : Prop :=
  ∀ r ∈ m.references.keys, withoutId r ∈ m.fields.keys → withoutId r ++ "Ref" ∉ m.fields.keys →
    withoutId r ++ "RefId" ∉ m.references.keys

/-- The ways in which two properties of a declaration could have the same key do not occur. -/
structure CollisionFree (m : Model) : Prop where
  /-- No two fields share a name. -/
  names : (m.fields.entries.map fun e => e.2.name).Nodup
  /-- No name derived from a reference is the name of a field. -/
  derived : ∀ r ∈ m.references.keys, ∀ e ∈ m.fields.entries, referenceName m r ≠ e.2.name
  stems : m.StemsApart
  suffixes : m.SuffixesApart

section
variable {m : Model} (hm : ∀ k ∈ m.references.keys, k ∈ m.fields.keys)

theorem StemsApart.eq_of_withoutId_eq (h : m.StemsApart) {r s : String}
    (hr : r ∈ m.references.keys) (hs : s ∈ m.references.keys) (heq : withoutId r = withoutId s) :
    r = s := by
  -- both carry the same stem, so they differ only if just one of them has an `Id` behind it
  rcases withoutId_eq_iff.1 heq with hr' | ⟨hr', hr''⟩ <;>
    rcases withoutId_eq_iff.1 (rfl : withoutId s = withoutId s) with hs' | ⟨hs', hs''⟩
  · exact hr'.trans hs'.symm
  · rw [← hs'] at hr' hs''
    exact absurd (hr' ▸ hr) (h s hs hs'')
  · rw [← hr'] at hs' hr''
    exact absurd (hs' ▸ hs) (h r hr hr'')
  · exact hr'.trans hs'.symm

include hm

/-- A name that has its `Ref` because of a field differs from every one that needs none. -/
theorem SuffixesApart.referenceName_ne (h : m.SuffixesApart) {r s : String}
    (hr : r ∈ m.references.keys) (hs : s ∈ m.references.keys)
    (hrf : withoutId r ∈ m.fields.keys) (hsf : withoutId s ∉ m.fields.keys) :
    referenceName m r ≠ referenceName m s := by
  rw [referenceName_of_mem hrf, referenceName_of_not_mem hsf]
  intro heq
  -- `s` leads to the stem of `r` with `Ref`, with an `Id` behind it or as it is
  rcases withoutId_eq_iff.1 heq.symm with hs' | ⟨hs', -⟩
  · refine h r hr hrf (heq ▸ hsf) ?_
    rwa [hs', String.append_assoc] at hs
  · rw [← heq, ← hs'] at hsf
    exact hsf (hm s hs)

theorem referenceName_inj_iff :
    (∀ r ∈ m.references.keys, ∀ s ∈ m.references.keys,
        referenceName m r = referenceName m s → r = s) ↔ m.StemsApart ∧ m.SuffixesApart := by
  constructor
  · intro hinj
    refine ⟨fun r hr hid hr' => ?_, fun r hr hrf href hs => ?_⟩
    · have heq : referenceName m r = referenceName m (r ++ "Id") := by
        rw [referenceName, referenceName, withoutId_append_id, withoutId_of_not hid]
      exact append_ne_self (by decide) (hinj r hr _ hr' heq).symm
    · have heq : referenceName m r = referenceName m (withoutId r ++ "RefId") := by
        rw [referenceName_of_mem hrf, referenceName_of_not_mem, withoutId_append_refId]
        rwa [withoutId_append_refId]
      have hstem := congrArg withoutId (hinj r hr _ hs heq)
      rw [withoutId_append_refId] at hstem
      exact append_ne_self (by decide) hstem.symm
  · rintro ⟨hstems, hsuffixes⟩ r hr s hs heq
    by_cases hrf : withoutId r ∈ m.fields.keys <;> by_cases hsf : withoutId s ∈ m.fields.keys
    · rw [referenceName_of_mem hrf, referenceName_of_mem hsf] at heq
      exact hstems.eq_of_withoutId_eq hr hs ((String.append_left_inj "Ref").1 heq)
    · exact absurd heq (hsuffixes.referenceName_ne hm hr hs hrf hsf)
    · exact absurd heq.symm (hsuffixes.referenceName_ne hm hs hr hsf hrf)
    · rw [referenceName_of_not_mem hrf, referenceName_of_not_mem hsf] at heq
      exact hstems.eq_of_withoutId_eq hr hs heq

theorem filter_hasField_references : m.references.keys.filter m.hasField = m.references.keys :=
  List.filter_eq_self.2 fun k hk => hasField_iff.2 (hm k hk)

theorem nodup_keys_emitted_iff (o : Options) :
    ((o.emitted m).map Prod.fst).Nodup ↔ m.CollisionFree := by
  rw [(o.keys_emitted_perm m).nodup_iff, filter_hasField_references hm, List.nodup_append,
    List.nodup_map_iff_inj_on m.references.nodup_keys, referenceName_inj_iff hm]
  constructor
  · rintro ⟨hnames, ⟨hstems, hsuffixes⟩, hdisj⟩
    refine ⟨hnames, fun r hr e he heq => ?_, hstems, hsuffixes⟩
    exact hdisj _ (List.mem_map_of_mem he) _ (List.mem_map_of_mem hr) heq.symm
  · rintro ⟨hnames, hderived, hstems, hsuffixes⟩
    refine ⟨hnames, ⟨hstems, hsuffixes⟩, fun a ha b hb hab => ?_⟩
    obtain ⟨e, he, rfl⟩ := List.mem_map.1 ha
    obtain ⟨r, hr, rfl⟩ := List.mem_map.1 hb
    exact hderived r hr e he hab.symm

/-- The stem `x` of the reference `r` is a field, so that `r` leads to `x` with `Ref` behind it. That is
a field too, or what the reference with an `Id` behind it leads to, or `x` is a reference besides. -/
def Clashes (m : Model) (r x : String) : Prop :=
  (r = x ++ "Id" ∨ r = x ∧ ¬ EndsInId x) ∧ x ∈ m.fields.keys ∧
    (x ++ "Ref" ∈ m.fields.keys ∨ (x ≠ r ∧ x ∈ m.references.keys ∧ ¬ EndsInId x) ∨
      x ++ "RefId" ∈ m.references.keys)

/-- Where fields have their keys for names, the only collisions are clashes of a reference. -/
theorem collisionFree_iff_of_names (hnames : ∀ e ∈ m.fields.entries, e.2.name = e.1) :
    m.CollisionFree ↔ ∀ r ∈ m.references.keys, ∀ x, ¬ m.Clashes r x := by
  constructor
  · rintro ⟨-, hderived, hstems, hsuffixes⟩ r hr x ⟨hx, hfield, hclash⟩
    have hstem : withoutId r = x := withoutId_eq_iff.2 hx
    have hname : referenceName m r = x ++ "Ref" := by
      rw [referenceName_of_mem (by rwa [hstem]), hstem]
    have href : x ++ "Ref" ∉ m.fields.keys := by
      intro href
      obtain ⟨e, he, hkey⟩ := List.mem_map.1 href
      exact hderived r hr e he (by rw [hname, hnames e he, hkey])
    rcases hclash with hclash | ⟨hne, hreference, hid⟩ | hreference
    · exact href hclash
    · rcases hx with rfl | ⟨rfl, -⟩
      · exact hstems x hreference hid hr
      · exact hne rfl
    · subst hstem
      exact hsuffixes r hr hfield href hreference
  · intro h
    have hkeys : (m.fields.entries.map fun e => e.2.name) = m.fields.keys :=
      List.map_congr_left hnames
    refine ⟨hkeys ▸ m.fields.nodup_keys, fun r hr e he heq => ?_, fun r hr hid hr' => ?_,
      fun r hr hfield _ hr' => ?_⟩
    · have hkey : referenceName m r ∈ m.fields.keys := by
        rw [heq, hnames e he]
        exact List.mem_map_of_mem he
      by_cases hfield : withoutId r ∈ m.fields.keys
      · rw [referenceName_of_mem hfield] at hkey
        exact h r hr _ ⟨withoutId_eq_iff.1 rfl, hfield, .inl hkey⟩
      · rw [referenceName_of_not_mem hfield] at hkey
        exact hfield hkey
    · have hne : r ≠ r ++ "Id" := (append_ne_self (by decide)).symm
      exact h _ hr' r ⟨.inl rfl, hm r hr, .inr (.inl ⟨hne, hr, hid⟩)⟩
    · exact h r hr _ ⟨withoutId_eq_iff.1 rfl, hfield, .inr (.inr hr')⟩

end

end Model

namespace Options
variable {o : Options}

/-- In a valid schema the properties that a declaration has under `fields` have different keys if and
only if the model is free of collisions. -/
theorem keys_nodup_iff {s : Schema} (hv : s.validate.outcome = .ok ())
    {r : OrderedMap (Fragment Declaration)} (hr : (o.generator.declarations s).outcome = .ok r)
    {key : String} {m : Model} (hm : s.models.get? key = some m) :
    ∃ d ps, r.get? key = some d ∧ d.node.fields? = some (.object ps) ∧
      ((ps.map Prod.fst).Nodup ↔ m.CollisionFree) := by
  obtain ⟨-, rfl⟩ := o.generator.declarations_eq_ok.1 hr
  have hsound := (s.validate_eq_ok_iff).1 hv key m hm
  exact ⟨o.generator.declarationOf key m, o.emitted m,
    OrderedMap.get?_mapEntries_eq_some.2 ⟨m, hm, rfl⟩, o.fields?_declarationOf m key,
    Model.nodup_keys_emitted_iff hsound.references o⟩

/-- A post whose field `o` has the name that is derived from the reference of its owner. -/
def renamedOwner : Schema :=
  .add .empty {
    name := "Post"
    description := none
    fields := .ofList [("ownerId", .new "ownerId" .integer), ("o", .new "owner" .string)]
    references := .ofList [("ownerId", "User")] }

theorem keys_nodup_iff_renamedOwner :
    ∃ r d ps m, renamedOwner.validate.outcome = .ok () ∧
      (({} : Options).generator.declarations renamedOwner).outcome = .ok r ∧
      renamedOwner.models.get? "Post" = some m ∧ r.get? "Post" = some d ∧
      d.node.fields? = some (.object ps) ∧ ((ps.map Prod.fst).Nodup ↔ m.CollisionFree) := by
  have hr : (({} : Options).generator.declarations renamedOwner).outcome =
      .ok (({} : Options).generator.result renamedOwner) := rfl
  have hm : renamedOwner.models.get? "Post" = some _ := rfl
  obtain ⟨d, ps, hd, hf, hiff⟩ := keys_nodup_iff (s := renamedOwner) rfl hr hm
  exact ⟨_, d, ps, _, rfl, hr, hm, hd, hf, hiff⟩

/-- Derived names are compared with keys, so in a valid schema one can be the name of a field. -/
theorem renamedOwner_repeats_key :
    renamedOwner.validate.outcome = .ok () ∧
      ∃ r d ps, (({} : Options).generator.declarations renamedOwner).outcome = .ok r ∧
        r.get? "Post" = some d ∧ d.node.fields? = some (.object ps) ∧ ¬ (ps.map Prod.fst).Nodup := by
  refine ⟨rfl, ({} : Options).generator.result renamedOwner, _, _, rfl, rfl, rfl, by decide⟩

/-- In a declaration of a model that has every field under its name and references only for fields, the
properties under `fields` have different keys if and only if no reference clashes. -/
theorem keys_nodup_iff_of_names {key : String} {m : Model}
    (hnames : ∀ fieldKey f, m.fields.get? fieldKey = some f → f.name = fieldKey)
    (hreferences : ∀ r ∈ m.references.keys, r ∈ m.fields.keys) {d : Fragment Declaration}
    (hd : (o.generator.declaration key m).outcome = .ok d) :
    ∃ ps, d.node.fields? = some (.object ps) ∧
      ((ps.map Prod.fst).Nodup ↔ ¬ ∃ r ∈ m.references.keys, ∃ x, m.Clashes r x) ∧
      ∀ s r, (o.generator.declarations s).outcome = .ok r → s.models.get? key = some m →
        r.get? key = some d := by
  rw [Generator.declaration_eq, Logged.outcome_giving_eq_ok] at hd
  obtain ⟨-, rfl⟩ := hd
  refine ⟨o.emitted m, o.fields?_declarationOf m key, ?_, ?_⟩
  · have hnames' : ∀ e ∈ m.fields.entries, e.2.name = e.1 :=
      fun e he => hnames e.1 e.2 (OrderedMap.get?_eq_some_iff.2 he)
    rw [Model.nodup_keys_emitted_iff hreferences, Model.collisionFree_iff_of_names hreferences hnames']
    push Not
    rfl
  · rintro s r hr hm
    obtain ⟨-, rfl⟩ := o.generator.declarations_eq_ok.1 hr
    exact o.generator.get?_result_of_get? hm

/-- A post with an owner, who has a reference, and another reference with the key that the first leads
to with `Id` behind it. -/
def suffixedOwner : Model :=
  .withReference (.withReference (.withField (.withField (.withField (.new "Post")
    (.new "owner" .string)) (.new "ownerId" .integer)) (.new "ownerRefId" .integer))
    "ownerId" "User") "ownerRefId" "User"

theorem keys_nodup_iff_of_names_suffixedOwner :
    ∃ d ps, (({} : Options).generator.declaration "Post" suffixedOwner).outcome = .ok d ∧
      (∀ fieldKey f, suffixedOwner.fields.get? fieldKey = some f → f.name = fieldKey) ∧
      (∀ r ∈ suffixedOwner.references.keys, r ∈ suffixedOwner.fields.keys) ∧
      d.node.fields? = some (.object ps) ∧ suffixedOwner.Clashes "ownerId" "owner" ∧
      ¬ (ps.map Prod.fst).Nodup := by
  have hd : (({} : Options).generator.declaration "Post" suffixedOwner).outcome = .ok _ := rfl
  have hnames : ∀ fieldKey f, suffixedOwner.fields.get? fieldKey = some f → f.name = fieldKey := by
    intro fieldKey f hf
    have hall : ∀ e ∈ suffixedOwner.fields.entries, e.2.name = e.1 := by decide
    exact hall _ (OrderedMap.get?_eq_some_iff.1 hf)
  have hreferences : ∀ r ∈ suffixedOwner.references.keys, r ∈ suffixedOwner.fields.keys := by decide
  have hclash : suffixedOwner.Clashes "ownerId" "owner" :=
    ⟨.inl rfl, by decide, .inr (.inr (by decide))⟩
  obtain ⟨ps, hps, hiff, -⟩ := keys_nodup_iff_of_names hnames hreferences hd
  exact ⟨_, ps, hd, hnames, hreferences, hps, hclash,
    fun h => hiff.1 h ⟨"ownerId", by decide, "owner", hclash⟩⟩

end Options
end GraphDecl
