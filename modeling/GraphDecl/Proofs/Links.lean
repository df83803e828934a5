import GraphDecl.Proofs.Emitted

/-!
# Links between declarations

The declaration of a model binds the name made of its key, and the property derived from a reference
has the name made of its target for its type. As both are made alike, a reference leads to one
declaration if its target is the key of a model and to none otherwise (`count_boundNames`), and
validation warns of the references of the second kind and of nothing else
(`events_validate_of_ok`).
-/

namespace GraphDecl

theorem Naming.typeName_injective : Function.Injective typeName :=
  fun _ _ h => (String.append_left_inj "Type").1 h

namespace Schema
variable (s : Schema)

/-- The warnings for those of some references of a model that lead out of the schema. -/
def undeclaredAmong (m : Model) (references : List (String × String)) : List Event :=
  (references.filter fun r => r.2 ∉ s.models.keys).map fun r => .undeclaredTarget m.name r.1 r.2

/-- The warnings for all references of the model. -/
def undeclaredTargets (m : Model) : List Event := s.undeclaredAmong m m.references.entries

theorem contains_iff (key : String) : s.contains key = true ↔ key ∈ s.models.keys :=
  s.models.contains_iff key

theorem events_checkReference_of_ok {m : Model} {field target : String}
    (h : (s.checkReference m field target).outcome = .ok ()) :
    (s.checkReference m field target).events =
      if target ∉ s.models.keys then [.undeclaredTarget m.name field target] else [] := by
  have hfield := (s.checkReference_eq_ok_iff m field target).1 h
  rw [checkReference, if_pos (Model.hasField_iff.2 hfield)]
  by_cases ht : target ∈ s.models.keys
  · rw [if_pos ((s.contains_iff target).2 ht), if_neg (not_not_intro ht)]
    rfl
  · rw [if_neg fun hc => ht ((s.contains_iff target).1 hc), if_pos ht]
    rfl

theorem flatMap_events_checkReference {m : Model} {references : List (String × String)}
    (h : ∀ r ∈ references, r.1 ∈ m.fields.keys) :
    (references.flatMap fun r => (s.checkReference m r.1 r.2).events) =
      s.undeclaredAmong m references := by
  induction references with
  | nil => rfl
  | cons r l ih =>
    obtain ⟨hr, hl⟩ := List.forall_mem_cons.1 h
    have hevents := s.events_checkReference_of_ok ((s.checkReference_eq_ok_iff m r.1 r.2).2 hr)
    rw [List.flatMap_cons, ih hl, hevents, undeclaredAmong, undeclaredAmong, List.filter_cons]
    by_cases ht : r.2 ∈ s.models.keys <;> simp [ht]

theorem events_checkField (m : Model) (f : Field) : (checkField m f).events = [] := by
  rw [checkField]
  cases f.type with
  | string | integer | float | unknown name => rfl
  | enumeration values => cases h : values.isEmpty <;> simp [h, Logged.fail]

theorem events_checkModel_of_ok {m : Model} (h : (s.checkModel m).outcome = .ok ()) :
    (s.checkModel m).events = s.undeclaredTargets m := by
  obtain ⟨hrefs, hfields⟩ := Logged.outcome_then_eq_ok.1 h
  have hreferences : (m.references.entries.forM fun r => s.checkReference m r.1 r.2).events =
      s.undeclaredTargets m := by
    have hok := Logged.outcome_forM_eq_ok.1 hrefs
    rw [Logged.events_forM_of_ok hrefs]
    exact s.flatMap_events_checkReference fun r hr => (s.checkReference_eq_ok_iff m _ _).1 (hok r hr)
  have hnone : (m.fields.entries.forM fun f => checkField m f.2).events = [] := by
    rw [Logged.events_forM_of_ok hfields, List.flatMap_eq_nil_iff]
    exact fun f _ => events_checkField m f.2
  rw [checkModel, Logged.bind_ok hrefs, hreferences, hnone, List.append_nil]

/-- A schema that is accepted is warned about for its references to absent models and for nothing
else, in the order of the models and in each in that of its references. -/
theorem events_validate_of_ok (h : s.validate.outcome = .ok ()) :
    s.validate.events = s.models.entries.flatMap fun e => s.undeclaredTargets e.2 := by
  have hok := Logged.outcome_forM_eq_ok.1 h
  rw [validate, Logged.events_forM_of_ok h]
  exact List.flatMap_congr fun e he => s.events_checkModel_of_ok (hok e he)

end Schema

/-- All names that a declaration binds. -/
def Declaration.boundNames (d : Declaration) : List String := d.declarators.map Declarator.name

/-- All names that the declarations of a run bind. -/
def boundNames (r : OrderedMap (Fragment Declaration)) : List String :=
  r.entries.flatMap fun e => e.2.node.boundNames

namespace Options
variable (o : Options) (s : Schema)

theorem boundNames_result : boundNames (o.generator.result s) = s.models.keys.map Naming.typeName := by
  rw [boundNames, Generator.result, OrderedMap.mapEntries, OrderedMap.keys, List.flatMap_map,
    List.map_map, List.map_eq_flatMap]
  rfl

theorem nodup_boundNames : (boundNames (o.generator.result s)).Nodup := by
  rw [boundNames_result]
  exact s.models.nodup_keys.map Naming.typeName_injective

/-- A target has one declaration if it is the key of a model and none otherwise. -/
theorem count_boundNames (target : String) :
    (boundNames (o.generator.result s)).count (Naming.typeName target) =
      if target ∈ s.models.keys then 1 else 0 := by
  rw [(o.nodup_boundNames s).count, boundNames_result]
  simp only [List.mem_map_of_injective Naming.typeName_injective]

/-- The property derived from the reference of a field stands right behind that of the field. -/
theorem emitted_of_reference {m : Model} {field target : String} {f : Field}
    (hf : m.fields.get? field = some f) (ht : m.references.get? field = some target) :
    ∃ front back, o.emitted m =
      front ++ o.fieldProperty f :: o.referenceProperty m field target :: back := by
  obtain ⟨front, back, hentries⟩ := List.append_of_mem (OrderedMap.get?_eq_some_iff.1 hf)
  have hderived : o.derivedProperty? m field = some (o.referenceProperty m field target) := by
    rw [derivedProperty?, Model.reference?, ht, Option.map_some]
  refine ⟨front.flatMap fun e => o.fieldProperty e.2 :: (o.derivedProperty? m e.1).toList,
    back.flatMap fun e => o.fieldProperty e.2 :: (o.derivedProperty? m e.1).toList, ?_⟩
  rw [emitted, hentries, List.flatMap_append, List.flatMap_cons, hderived]
  rfl

variable {o} in
theorem property_of_reference {m : Model} (hsound : m.Sound) {field target : String}
    (ht : m.references.get? field = some target) :
    ∃ front back f p, o.emitted m = front ++ o.fieldProperty f :: p :: back ∧
      m.fields.get? field = some f ∧ p.1 = Naming.referenceName m field ∧
      p.2.property? "type" = some (.identifier (Naming.typeName target)) := by
  have hfield : field ∈ m.fields.keys :=
    hsound.references field (List.mem_map_of_mem (OrderedMap.get?_eq_some_iff.1 ht))
  obtain ⟨f, hf⟩ := Option.isSome_iff_exists.1 ((m.fields.contains_iff field).2 hfield)
  obtain ⟨front, back, hps⟩ := o.emitted_of_reference hf ht
  exact ⟨front, back, f, o.referenceProperty m field target, hps, hf, rfl, rfl⟩

variable {s}

/-- In a run on a valid schema no name is bound twice. The property of every reference stands behind
that of its field and names for its type what one declaration binds if the target is the key of a
model, and what none binds otherwise; of the references of the second kind, and of nothing else,
validation has warned in order. -/
theorem references_linked (hv : s.validate.outcome = .ok ())
    {r : OrderedMap (Fragment Declaration)} (hr : (o.generator.declarations s).outcome = .ok r) :
    (boundNames r).Nodup ∧
      (∀ key m, s.models.get? key = some m → ∃ d ps, r.get? key = some d ∧
        d.node.fields? = some (.object ps) ∧
        ∀ field target, m.references.get? field = some target →
          ∃ front back f p type, ps = front ++ o.fieldProperty f :: p :: back ∧
            m.fields.get? field = some f ∧ p.1 = Naming.referenceName m field ∧
            p.2.property? "type" = some (.identifier type) ∧
            (boundNames r).count type = if target ∈ s.models.keys then 1 else 0) ∧
      s.validate.events = s.models.entries.flatMap (fun e =>
        (e.2.references.entries.filter fun r => r.2 ∉ s.models.keys).map fun r =>
          .undeclaredTarget e.2.name r.1 r.2) ∧
      ∀ e ∈ s.validate.events, e.level = .warn := by
  obtain ⟨-, rfl⟩ := o.generator.declarations_eq_ok.1 hr
  have hevents := s.events_validate_of_ok hv
  refine ⟨o.nodup_boundNames s, fun key m hm => ?_, hevents, fun e he => ?_⟩
  · have hsound := (s.validate_eq_ok_iff).1 hv key m hm
    refine ⟨o.generator.declarationOf key m, o.emitted m,
      OrderedMap.get?_mapEntries_eq_some.2 ⟨m, hm, rfl⟩, o.fields?_declarationOf m key,
      fun field target ht => ?_⟩
    have hfield : field ∈ m.fields.keys :=
      hsound.references field (List.mem_map_of_mem (OrderedMap.get?_eq_some_iff.1 ht))
    obtain ⟨f, hf⟩ := Option.isSome_iff_exists.1 ((m.fields.contains_iff field).2 hfield)
    obtain ⟨front, back, hps⟩ := o.emitted_of_reference hf ht
    exact ⟨front, back, f, o.referenceProperty m field target, Naming.typeName target, hps, hf, rfl,
      rfl, o.count_boundNames s target⟩
  · rw [hevents] at he
    obtain ⟨m, -, he⟩ := List.mem_flatMap.1 he
    obtain ⟨r, -, rfl⟩ := List.mem_map.1 he
    rfl

/-- A post with an author, who is a user of the schema, and an editor from elsewhere. -/
def foreignEditor : Schema :=
  .add (.add .empty (.withField (.new "User") (.new "id" .integer))) <|
    .withReference (.withReference (.withField (.withField (.new "Post")
      (.new "authorId" .integer)) (.new "editorId" .integer)) "authorId" "User") "editorId" "Staff"

theorem references_linked_foreignEditor :
    ∃ r ps, foreignEditor.validate.outcome = .ok () ∧
      (({} : Options).generator.declarations foreignEditor).outcome = .ok r ∧
      (∃ d, r.get? "Post" = some d ∧ d.node.fields? = some (.object ps)) ∧
      (∃ p ∈ ps, ∃ type, p.1 = "author" ∧ p.2.property? "type" = some (.identifier type) ∧
        (boundNames r).count type = 1) ∧
      (∃ p ∈ ps, ∃ type, p.1 = "editor" ∧ p.2.property? "type" = some (.identifier type) ∧
        (boundNames r).count type = 0) ∧
      foreignEditor.validate.events = [.undeclaredTarget "Post" "editorId" "Staff"] := by
  have hr : (({} : Options).generator.declarations foreignEditor).outcome =
      .ok (({} : Options).generator.result foreignEditor) := rfl
  obtain ⟨-, hlinks, hevents, -⟩ := references_linked {} (s := foreignEditor) rfl hr
  obtain ⟨d, ps, hd, hps, hrefs⟩ := hlinks "Post" _ rfl
  obtain ⟨front, back, f, author, type, rfl, -, hauthor, htype, hcount⟩ := hrefs "authorId" "User" rfl
  obtain ⟨front', back', f', editor, type', hps', -, heditor, htype', hcount'⟩ :=
    hrefs "editorId" "Staff" rfl
  refine ⟨_, _, rfl, hr, ⟨d, hd, hps⟩, ⟨author, by simp, type, hauthor, htype, hcount⟩,
    ⟨editor, ?_, type', heditor, htype', hcount'⟩, hevents⟩
  rw [hps']
  simp

end Options
end GraphDecl
