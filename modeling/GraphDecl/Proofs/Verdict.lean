import GraphDecl.Proofs.FaultPlaces
import GraphDecl.Proofs.Links

/-!
# The verdict of validation

Validation takes the models one by one, and of each the references before the enums. `Schema.Verdict`
says what it should come to, events included: all models are sound, or the first that is not has a
reference which belongs to no field, or its references are in order and an enum of it is empty. The
checks of a model are interleaved with the warnings for its references, so what has been warned of
tells how far validation came. `Schema.validate_eq_iff_verdict` is the agreement of the two.
-/

namespace GraphDecl

theorem Model.sound_iff {m : Model} : m.Sound ↔ (∀ field ∈ m.references.keys, field ∈ m.fields.keys) ∧
    ∀ fieldKey f, m.fields.get? fieldKey = some f → ¬ f.EmptyEnum := by
  constructor
  · rintro ⟨hreferences, henums⟩
    refine ⟨hreferences, fun fieldKey f hf hempty => ?_⟩
    have hfull := henums _ (OrderedMap.get?_eq_some_iff.1 hf) .empty hempty
    cases hfull
  · rintro ⟨hreferences, henums⟩
    refine ⟨hreferences, fun e he values htype => ?_⟩
    rw [← Bool.not_eq_true, OrderedMap.isEmpty_iff]
    rintro rfl
    exact henums e.1 e.2 (OrderedMap.get?_eq_some_iff.2 he) htype

namespace Schema
variable (s : Schema)

/-- What validation of a schema should come to. -/
inductive Verdict : Logged SchemaError Unit → Prop
  | accepted (hmodels : ∀ e ∈ s.models.entries, e.2.Sound) :
    Verdict ⟨s.models.entries.flatMap fun e => s.undeclaredTargets e.2, .ok ()⟩
  /-- `field` is the first reference without a field, in the first model at fault. -/
  | stray {before after : List (String × Model)} {key : String} {m : Model}
      {front back : List (String × String)} {field target : String}
      (hmodels : s.models.entries = before ++ (key, m) :: after)
      (hbefore : ∀ e ∈ before, e.2.Sound)
      (hreferences : m.references.entries = front ++ (field, target) :: back)
      (hfront : ∀ r ∈ front, r.1 ∈ m.fields.keys) (hfield : field ∉ m.fields.keys) :
    Verdict ⟨(before.flatMap fun e => s.undeclaredTargets e.2) ++ s.undeclaredAmong m front,
      .error (.referenceWithoutField m.name field)⟩
  /-- `f` is the first empty enum in the first model at fault, whose references all have fields. -/
  | empty {before after : List (String × Model)} {key : String} {m : Model}
      {front back : List (String × Field)} {fieldKey : String} {f : Field}
      (hmodels : s.models.entries = before ++ (key, m) :: after)
      (hbefore : ∀ e ∈ before, e.2.Sound)
      (hreferences : ∀ r ∈ m.references.keys, r ∈ m.fields.keys)
      (hfields : m.fields.entries = front ++ (fieldKey, f) :: back)
      (hfront : ∀ e ∈ front, ¬ e.2.EmptyEnum) (hempty : f.EmptyEnum) :
    Verdict ⟨(before.flatMap fun e => s.undeclaredTargets e.2) ++ s.undeclaredTargets m,
      .error (.emptyEnum m.name f.name)⟩

/-! ### One model -/

variable {s} {m : Model}

theorem checkReference_of_not_mem {field target : String} (h : field ∉ m.fields.keys) :
    s.checkReference m field target = .fail (.referenceWithoutField m.name field) := by
  rw [checkReference, if_neg fun hf => h (Model.hasField_iff.1 hf)]

theorem checkReferences_eq_ok (h : ∀ r ∈ m.references.keys, r ∈ m.fields.keys) :
    (m.references.entries.forM fun r => s.checkReference m r.1 r.2) =
      ⟨s.undeclaredTargets m, .ok ()⟩ := by
  have hfields : ∀ r ∈ m.references.entries, r.1 ∈ m.fields.keys :=
    fun r hr => h r.1 (List.mem_map_of_mem hr)
  have hok : (m.references.entries.forM fun r => s.checkReference m r.1 r.2).outcome = .ok () :=
    Logged.outcome_forM_eq_ok.2 fun r hr => (s.checkReference_eq_ok_iff m r.1 r.2).2 (hfields r hr)
  rw [Logged.eq_mk_of_ok hok, Logged.events_forM_of_ok hok,
    s.flatMap_events_checkReference hfields]
  rfl

theorem checkModel_of_stray {front back : List (String × String)} {field target : String}
    (hreferences : m.references.entries = front ++ (field, target) :: back)
    (hfront : ∀ r ∈ front, r.1 ∈ m.fields.keys) (hfield : field ∉ m.fields.keys) :
    s.checkModel m = ⟨s.undeclaredAmong m front, .error (.referenceWithoutField m.name field)⟩ := by
  have hok : ∀ r ∈ front, (s.checkReference m r.1 r.2).outcome = .ok () :=
    fun r hr => (s.checkReference_eq_ok_iff m r.1 r.2).2 (hfront r hr)
  have hstray : s.checkReference m field target = .fail (.referenceWithoutField m.name field) :=
    checkReference_of_not_mem hfield
  have hrun : (m.references.entries.forM fun r => s.checkReference m r.1 r.2) =
      ⟨s.undeclaredAmong m front, .error (.referenceWithoutField m.name field)⟩ := by
    rw [hreferences, Logged.forM_of_error hok (congrArg Logged.outcome hstray),
      s.flatMap_events_checkReference hfront, hstray, Logged.fail, List.append_nil]
  rw [checkModel, hrun, Logged.bind_error rfl]

theorem checkModel_of_empty {front back : List (String × Field)} {fieldKey : String} {f : Field}
    (hreferences : ∀ r ∈ m.references.keys, r ∈ m.fields.keys)
    (hfields : m.fields.entries = front ++ (fieldKey, f) :: back)
    (hfront : ∀ e ∈ front, ¬ e.2.EmptyEnum) (hempty : f.EmptyEnum) :
    s.checkModel m = ⟨s.undeclaredTargets m, .error (.emptyEnum m.name f.name)⟩ := by
  have hok : ∀ e ∈ front, (checkField m e.2).outcome = .ok () := by
    intro e he
    rw [← failure?_eq_none_iff, failure?_checkField, if_neg (hfront e he)]
  have herror : (checkField m f).outcome = .error (.emptyEnum m.name f.name) := by
    rw [← failure?_eq_some_iff, failure?_checkField, if_pos hempty]
  have hrun : (m.fields.entries.forM fun e => checkField m e.2) =
      ⟨[], .error (.emptyEnum m.name f.name)⟩ := by
    rw [hfields, Logged.forM_of_error hok herror, events_checkField,
      List.flatMap_eq_nil_iff.2 fun e _ => events_checkField m e.2]
    rfl
  rw [checkModel, checkReferences_eq_ok hreferences, Logged.bind_ok rfl, hrun, List.append_nil]

/-! ### All models -/

theorem validate_of_error {before after : List (String × Model)} {key : String} {m : Model}
    {events : List Event} {e : SchemaError}
    (hmodels : s.models.entries = before ++ (key, m) :: after)
    (hbefore : ∀ x ∈ before, x.2.Sound) (hm : s.checkModel m = ⟨events, .error e⟩) :
    s.validate = ⟨(before.flatMap fun x => s.undeclaredTargets x.2) ++ events, .error e⟩ := by
  have hok : ∀ x ∈ before, (s.checkModel x.2).outcome = .ok () :=
    fun x hx => (s.checkModel_eq_ok_iff x.2).2 (hbefore x hx)
  have hevents : (before.flatMap fun x => (s.checkModel x.2).events) =
      before.flatMap fun x => s.undeclaredTargets x.2 :=
    List.flatMap_congr fun x hx => s.events_checkModel_of_ok (hok x hx)
  rw [validate, hmodels, Logged.forM_of_error hok (congrArg Logged.outcome hm), hevents, hm]

theorem Verdict.validate_eq {run : Logged SchemaError Unit} (h : s.Verdict run) :
    s.validate = run := by
  cases h with
  | accepted hmodels =>
    have hok : s.validate.outcome = .ok () :=
      Logged.outcome_forM_eq_ok.2 fun e he => (s.checkModel_eq_ok_iff e.2).2 (hmodels e he)
    rw [Logged.eq_mk_of_ok hok, s.events_validate_of_ok hok]
  | stray hmodels hbefore hreferences hfront hfield =>
    exact validate_of_error hmodels hbefore (checkModel_of_stray hreferences hfront hfield)
  | empty hmodels hbefore hreferences hfields hfront hempty =>
    exact validate_of_error hmodels hbefore
      (checkModel_of_empty hreferences hfields hfront hempty)

theorem exists_verdict (s : Schema) : ∃ run, s.Verdict run := by
  cases hrun : s.validate.outcome with
  | ok u =>
    have hok := Logged.outcome_forM_eq_ok.1 hrun
    exact ⟨_, .accepted fun e he => (s.checkModel_eq_ok_iff e.2).1 (hok e he)⟩
  | error e =>
    obtain ⟨key, m, ⟨before, after, hmodels, hbefore, -⟩, hm⟩ := validate_eq_error.1 hrun
    have hsound : ∀ x ∈ before, x.2.Sound := fun x hx => not_not.1 (hbefore x hx)
    -- the enums are looked at only when all references have fields
    rcases checkModel_eq_error.1 hm with
      ⟨field, target, ⟨front, back, hreferences, hfront, hfield⟩, -⟩ |
      ⟨hreferences, fieldKey, f, ⟨front, back, hfields, hfront, hempty⟩, -⟩
    · exact ⟨_, .stray hmodels hsound hreferences (fun r hr => not_not.1 (hfront r hr)) hfield⟩
    · exact ⟨_, .empty hmodels hsound hreferences hfields hfront hempty⟩

theorem Verdict.warns {run : Logged SchemaError Unit} (h : s.Verdict run) :
    ∀ e ∈ run.events, e.level = .warn := by
  have hamong : ∀ m references, ∀ e ∈ s.undeclaredAmong m references, e.level = .warn := by
    intro m references e he
    obtain ⟨r, -, rfl⟩ := List.mem_map.1 he
    rfl
  have hbefore : ∀ before : List (String × Model),
      ∀ e ∈ before.flatMap (fun x => s.undeclaredTargets x.2), e.level = .warn := by
    intro before e he
    obtain ⟨x, -, he⟩ := List.mem_flatMap.1 he
    exact hamong x.2 x.2.references.entries e he
  intro e he
  cases h with
  | accepted => exact hbefore _ e he
  | stray | empty =>
    rcases List.mem_append.1 he with he | he
    · exact hbefore _ e he
    · exact hamong _ _ e he

/-- Validation succeeds if and only if every reference belongs to a field and no enum is empty. It
comes to what it should in every case: the error is for the first model at fault, for its first
reference without a field or else for its first empty enum, and the events are the warnings for the
references to absent models that were met before, in order. -/
theorem validate_eq_iff_verdict (s : Schema) :
    (s.validate.outcome = .ok () ↔ ∀ key m, s.models.get? key = some m →
      (∀ field ∈ m.references.keys, field ∈ m.fields.keys) ∧
        ∀ fieldKey f, m.fields.get? fieldKey = some f → f.type ≠ .enumeration .empty) ∧
    (∀ run, s.validate = run ↔ s.Verdict run) ∧ ∀ e ∈ s.validate.events, e.level = .warn := by
  obtain ⟨verdict, hverdict⟩ := exists_verdict s
  have heq := hverdict.validate_eq
  refine ⟨?_, fun run => ⟨?_, Verdict.validate_eq⟩, ?_⟩
  · rw [validate_eq_ok_iff]
    exact forall_congr' fun key => forall_congr' fun m => imp_congr_right fun _ => Model.sound_iff
  · rintro rfl
    rwa [heq]
  · rw [heq]
    exact hverdict.warns

/-- The enum of the first model comes before the reference of the second. -/
example : (empty
    |>.add (.withReference (.withField (.withField (.new "Post") (.new "authorId" .integer))
      (.enumeration "state" [])) "authorId" "User")
    |>.add (.withReference (.new "Page") "ownerId" "User")).validate =
      ⟨[.undeclaredTarget "Post" "authorId" "User"], .error (.emptyEnum "Post" "state")⟩ := rfl

end Schema
end GraphDecl
