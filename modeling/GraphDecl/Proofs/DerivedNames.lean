import GraphDecl.Naming.Derived
import GraphDecl.Proofs.Maps

/-!
# Names derived from references

The property that a model derives from a reference is called after the reference, without an `Id` at the
end, and with a `Ref` if a field of the model has that key already. `Naming.DerivedKey` says so, and
`Naming.DerivedNote` what is remarked of a reference whose property has no description; `referenceName`
and `referenceDescription` give just these (`derivedKey_iff`, `derivedNote_iff`).
-/

namespace GraphDecl

theorem Model.hasField_iff {m : Model} {k : String} : m.hasField k = true ↔ k ∈ m.fields.keys :=
  m.fields.contains_iff k

namespace Naming

/-! ### Stems -/

/-- The name has an `Id` that a derived name is without. -/
def EndsInId (name : String) : Prop := ∃ x, name = x ++ "Id"

theorem isSuffixOf_id_iff {name : String} :
    ['I', 'd'].isSuffixOf name.toList = true ↔ EndsInId name := by
  rw [List.isSuffixOf_iff_suffix]
  constructor
  · rintro ⟨t, ht⟩
    refine ⟨String.ofList t, String.toList_injective ?_⟩
    rw [← ht, String.toList_append, String.toList_ofList]
    rfl
  · rintro ⟨x, rfl⟩
    exact ⟨x.toList, by rw [String.toList_append]; rfl⟩

@[simp] theorem withoutId_append_id (x : String) : withoutId (x ++ "Id") = x := by
  rw [withoutId, if_pos (isSuffixOf_id_iff.2 ⟨x, rfl⟩)]
  simp

theorem withoutId_of_not {name : String} (h : ¬ EndsInId name) : withoutId name = name := by
  rw [withoutId, if_neg fun hs => h (isSuffixOf_id_iff.1 hs)]

/-- A name without its `Id` comes from that name with `Id`, or from itself. -/
theorem withoutId_eq_iff {name x : String} :
    withoutId name = x ↔ name = x ++ "Id" ∨ name = x ∧ ¬ EndsInId x := by
  constructor
  · rintro rfl
    by_cases h : EndsInId name
    · obtain ⟨y, rfl⟩ := h
      exact .inl (by rw [withoutId_append_id])
    · rw [withoutId_of_not h]
      exact .inr ⟨rfl, h⟩
  · rintro (rfl | ⟨rfl, h⟩)
    · exact withoutId_append_id x
    · exact withoutId_of_not h

/-! ### Keys -/

theorem referenceName_of_mem {m : Model} {r : String} (h : withoutId r ∈ m.fields.keys) :
    referenceName m r = withoutId r ++ "Ref" := by
  rw [referenceName, if_pos (Model.hasField_iff.2 h)]

theorem referenceName_of_not_mem {m : Model} {r : String} (h : withoutId r ∉ m.fields.keys) :
    referenceName m r = withoutId r := by
  rw [referenceName, if_neg fun hf => h (Model.hasField_iff.1 hf)]

/-- The name that a reference leads to before it is compared with any field. -/
inductive Stem : String → String → Prop
  | cut (stem : String) : Stem (stem ++ "Id") stem
  | whole {reference : String} (h : ¬ ∃ x, reference = x ++ "Id") : Stem reference reference

/-- The key of the property that is derived from a reference beside fields with these keys. -/
inductive DerivedKey (fields : List String) (reference : String) : String → Prop
  | free {stem : String} (hstem : Stem reference stem) (hfree : stem ∉ fields) :
      DerivedKey fields reference stem
  | taken {stem : String} (hstem : Stem reference stem) (htaken : stem ∈ fields) :
      DerivedKey fields reference (stem ++ "Ref")

theorem stem_iff {reference stem : String} : Stem reference stem ↔ withoutId reference = stem := by
  rw [withoutId_eq_iff]
  constructor
  · rintro (_ | h)
    · exact .inl rfl
    · exact .inr ⟨rfl, h⟩
  · rintro (rfl | ⟨rfl, h⟩)
    · exact .cut stem
    · exact .whole h

/-- A reference leads to one key. -/
theorem derivedKey_iff {m : Model} {reference key : String} :
    DerivedKey m.fields.keys reference key ↔ referenceName m reference = key := by
  constructor
  · rintro (⟨hstem, hfree⟩ | ⟨hstem, htaken⟩)
    · obtain rfl := stem_iff.1 hstem
      exact referenceName_of_not_mem hfree
    · obtain rfl := stem_iff.1 hstem
      exact referenceName_of_mem htaken
  · rintro rfl
    by_cases htaken : withoutId reference ∈ m.fields.keys
    · rw [referenceName_of_mem htaken]
      exact .taken (stem_iff.2 rfl) htaken
    · rw [referenceName_of_not_mem htaken]
      exact .free (stem_iff.2 rfl) htaken

/-! ### Remarks -/

/-- What is remarked of a reference to `target` whose property has this key. -/
inductive DerivedNote (default target : String) : String → String → Prop
  | parent (rest : String) :
      DerivedNote default target ("parent" ++ rest) (default ++ " (parent " ++ target ++ ")")
  | other {key : String} (h : ¬ ∃ rest, key = "parent" ++ rest) :
      DerivedNote default target key (default ++ " (reference)")

theorem isPrefixOf_parent_iff {key : String} :
    "parent".toList.isPrefixOf key.toList = true ↔ ∃ rest, key = "parent" ++ rest := by
  rw [List.isPrefixOf_iff_prefix]
  constructor
  · rintro ⟨t, ht⟩
    refine ⟨String.ofList t, String.toList_injective ?_⟩
    rw [← ht, String.toList_append, String.toList_ofList (l := t)]
  · rintro ⟨rest, rfl⟩
    exact ⟨rest.toList, by rw [String.toList_append]⟩

theorem derivedNote_iff {default target key note : String} :
    DerivedNote default target key note ↔ referenceDescription default key target = note := by
  rw [referenceDescription]
  by_cases hparent : ∃ rest, key = "parent" ++ rest
  · rw [if_pos (isPrefixOf_parent_iff.2 hparent)]
    constructor
    · rintro (rest | h)
      · rfl
      · exact absurd hparent h
    · rintro rfl
      obtain ⟨rest, rfl⟩ := hparent
      exact .parent rest
  · rw [if_neg fun h => hparent (isPrefixOf_parent_iff.1 h)]
    constructor
    · rintro (rest | h)
      · exact absurd ⟨rest, rfl⟩ hparent
      · rfl
    · rintro rfl
      exact .other hparent

theorem referenceDescription_ne_empty (default name target : String) :
    referenceDescription default name target ≠ "" := by
  intro h
  rw [referenceDescription] at h
  split at h
  · exact absurd (String.append_eq_empty_iff.1 h).2 (by decide)
  · exact absurd (String.append_eq_empty_iff.1 h).2 (by decide)

end Naming
end GraphDecl
