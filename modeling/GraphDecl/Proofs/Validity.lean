import GraphDecl.Proofs.Maps
import GraphDecl.Proofs.Runs
import GraphDecl.Schema.Validation

/-!
# What validation accepts

A schema is accepted if and only if every model of it is sound: its references belong to declared
fields and its enums have values (`validate_eq_ok_iff`). Where references lead does not matter.
-/

namespace GraphDecl

/-- Every reference belongs to a declared field and no enum is empty. -/
structure Model.Sound (m : Model) : Prop where
  references : ∀ k ∈ m.references.keys, k ∈ m.fields.keys
  enums : ∀ e ∈ m.fields.entries, ∀ values, e.2.type = .enumeration values → values.isEmpty = false

namespace Schema

theorem checkReference_eq_ok_iff (s : Schema) (m : Model) (field target : String) :
    (s.checkReference m field target).outcome = .ok () ↔ field ∈ m.fields.keys := by
  rw [checkReference, ← OrderedMap.contains_iff, ← Model.hasField]
  cases m.hasField field with
  | false => simp [Logged.fail]
  | true => cases s.contains target <;> simp [Logged.emit]

theorem checkField_eq_ok_iff (m : Model) (f : Field) :
    (checkField m f).outcome = .ok () ↔
      ∀ values, f.type = .enumeration values → values.isEmpty = false := by
  rw [checkField]
  cases f.type with
  | string | integer | float | unknown name => simp
  | enumeration values => cases h : values.isEmpty <;> simp [h, Logged.fail]

theorem checkModel_eq_ok_iff (s : Schema) (m : Model) :
    (s.checkModel m).outcome = .ok () ↔ m.Sound := by
  rw [checkModel, Logged.outcome_then_eq_ok]
  simp only [Logged.outcome_forM_eq_ok, checkReference_eq_ok_iff, checkField_eq_ok_iff]
  constructor
  · rintro ⟨hr, hf⟩
    refine ⟨fun k hk => ?_, hf⟩
    obtain ⟨e, he, rfl⟩ := List.mem_map.1 hk
    exact hr e he
  · rintro ⟨hr, hf⟩
    exact ⟨fun e he => hr e.1 (List.mem_map_of_mem he), hf⟩

theorem validate_eq_ok_iff (s : Schema) :
    s.validate.outcome = .ok () ↔ ∀ key m, s.models.get? key = some m → m.Sound := by
  rw [validate, Logged.outcome_forM_eq_ok]
  simp only [checkModel_eq_ok_iff, OrderedMap.get?_eq_some_iff]
  exact ⟨fun h key m hm => h (key, m) hm, fun h e he => h e.1 e.2 he⟩

end Schema
end GraphDecl
