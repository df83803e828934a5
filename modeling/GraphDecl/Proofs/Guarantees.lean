import Mathlib.Data.List.Forall2
import GraphDecl.Proofs.Accepted
import GraphDecl.Proofs.Contents
import GraphDecl.Proofs.Links

/-!
# What a run on a text guarantees

In a run from a text to declarations the loader refuses an enum without a table, validation an empty
one and a reference without a field, and the generator, if it is to, an unknown type.
`Options.Complete` says what they leave to rely on in a declaration, and `ofText_complete` that every
declaration of a run that succeeds has it.
-/

namespace GraphDecl

theorem forall₂_filterMap {α β : Type} {f : α → Option β} {R : α → β → Prop} {l : List α}
    (h : ∀ a ∈ l, ∀ b, f a = some b → R a b) :
    List.Forall₂ R (l.filter fun a => (f a).isSome) (l.filterMap f) := by
  induction l with
  | nil => exact .nil
  | cons a l ih =>
    obtain ⟨ha, hl⟩ := List.forall_mem_cons.1 h
    rw [List.filter_cons, List.filterMap_cons]
    cases hb : f a with
    | none => exact ih hl
    | some b => exact .cons (ha b hb) (ih hl)

theorem FieldType.enumValues?_eq_some_iff {t : FieldType} {values : OrderedMap EnumValue} :
    t.enumValues? = some values ↔ t = .enumeration values := by
  cases t <;> simp [enumValues?]

namespace Options
open GraphDecl.Expr
variable {o : Options}

/-- The object of an enum has values, one for each distinct name in the table that the document has for
the field. -/
def ListsValues (root : Json.Doc) (model field : String) (body : List (String × Expr)) : Prop :=
  ∃ names values, root.valueNames? model field = some names ∧
    body.lookup "values" = some (.object values) ∧ values ≠ [] ∧
    values.map Prod.fst = names.eraseDups.map Naming.enumKey

/-- What is sure to be in the declaration `d` that has `ps` for its fields, for the model `m` under
`key` in the schema of the document `root`. -/
structure Complete (o : Options) (root : Json.Doc) (key : String) (m : Model) (d : Declaration)
    (ps : List (String × Expr)) : Prop where
  /-- Besides the declaration itself, one enum is constructed for each field of that type. -/
  enums : ∃ top bodies, d.constructed = top :: bodies ∧ top.lookup "fields" = some (.object ps) ∧
    List.Forall₂ (fun e body => ListsValues root key e.1 body)
      (m.fields.entries.filter fun e => e.2.type.isEnum) bodies
  /-- Every reference has its property, right behind that of its field. -/
  references : ∀ field target, m.references.get? field = some target →
    ∃ front back f p, ps = front ++ o.fieldProperty f :: p :: back ∧
      m.fields.get? field = some f ∧ p.1 = Naming.referenceName m field ∧
      p.2.property? "type" = some (.identifier (Naming.typeName target))
  /-- The property of a field of unknown type has one placeholder, and any other property has none. -/
  placeholders : ps.map (fun p => p.2.placeholders) = m.fields.entries.flatMap fun e =>
    ((e.2.unknown? key).toList.map fun _ => .placeholder) ::
      ((m.reference? e.1).map fun _ => []).toList
  /-- There is no placeholder elsewhere. -/
  total : d.placeholders = (m.unknownFields key).map fun _ => .placeholder
  /-- There is none at all where unknown types are refused. -/
  refused : o.unknownTypes = .reject → d.placeholders = []

theorem enums_of_sound {text : String} {s : Schema} (hs : Schema.ofText text = .ok s) {key : String}
    {m : Model} (hm : s.models.get? key = some m) (hsound : m.Sound) :
    List.Forall₂ (fun e body => ListsValues (Json.Document.ofText text).root key e.1 body)
      (m.fields.entries.filter fun e => e.2.type.isEnum)
      (m.fields.entries.filterMap fun e => e.2.type.enumValues?.map (o.enumBody e.2)) := by
  have hisEnum : ∀ e : String × Field, e.2.type.isEnum =
      (e.2.type.enumValues?.map (o.enumBody e.2)).isSome := fun _ => Option.isSome_map.symm
  simp only [hisEnum]
  refine forall₂_filterMap fun e he body hbody => ?_
  obtain ⟨values, hvalues, rfl⟩ := Option.map_eq_some_iff.1 hbody
  have htype : e.2.type = .enumeration values := FieldType.enumValues?_eq_some_iff.1 hvalues
  obtain ⟨names, hnames, hkeys⟩ :=
    Schema.keys_enumeration hs hm (OrderedMap.get?_eq_some_iff.2 he) htype
  refine ⟨names, _, hnames, rfl, ?_, ?_⟩
  · have hne := hsound.enums e he values htype
    rw [OrderedMap.isEmpty, List.isEmpty_eq_false_iff] at hne
    exact fun h => hne (List.map_eq_nil_iff.1 h)
  · rw [← hkeys, OrderedMap.keys, List.map_map, List.map_map]
    rfl

/-- Where no scalar has the name of the placeholder, every declaration of a run on a text that succeeds
is complete. -/
theorem ofText_complete (hstring : o.identifiers.string ≠ "undefined")
    (hint : o.identifiers.int ≠ "undefined") (hfloat : o.identifiers.float ≠ "undefined")
    {text : String} {r : OrderedMap (Fragment Declaration)}
    (hr : (o.generator.ofText text).outcome = .ok r) :
    ∃ s, Schema.ofText text = .ok s ∧ r.keys = s.models.keys ∧ ∀ key d, r.get? key = some d →
      ∃ m ps, s.models.get? key = some m ∧ d.node.fields? = some (.object ps) ∧
        o.Complete (Json.Document.ofText text).root key m d.node ps := by
  obtain ⟨s, hs, hvalid, hrun⟩ := o.generator.ofText_eq_ok.1 hr
  obtain ⟨hsurvey, rfl⟩ := o.generator.declarations_eq_ok.1 hrun
  refine ⟨s, hs, OrderedMap.keys_mapEntries _ _, fun key d hd => ?_⟩
  obtain ⟨m, hm, rfl⟩ := OrderedMap.get?_mapEntries_eq_some.1 hd
  have hsound := s.validate_eq_ok_iff.1 hvalid key m hm
  have htotal := placeholders_declarationOf hstring hint hfloat key m
  obtain ⟨top, hconstructed, hfields⟩ := constructed_declarationOf (o := o) key m
  refine ⟨m, o.emitted m, hm, o.fields?_declarationOf m key, ?_⟩
  exact {
    enums := ⟨top, _, hconstructed, hfields, enums_of_sound hs hm hsound⟩
    references := fun _ _ ht => property_of_reference hsound ht
    placeholders := placeholders_emitted hstring hint hfloat key m
    total := htotal
    refused := fun ho => by
      have hnone := Generator.unknownFields_eq_nil_of_reject ho hsurvey
      rw [htotal, List.flatMap_eq_nil_iff.1 hnone (key, m) (OrderedMap.get?_eq_some_iff.1 hm)]
      rfl }

/-- A visit with a host, a time of unknown type and a state whose first value is written twice. -/
def visitText : String :=
  "\x7b\"models\":\x7b\"Visit\":\x7b\"fields\":\x7b\"hostId\":\x7b\"type\":\"integer\"\x7d," ++
  "\"at\":\x7b\"type\":\"date\"\x7d,\"state\":\x7b\"type\":\"enum\",\"values\":" ++
  "\x7b\"open\":[1,null],\"done\":[2,null],\"open\":[3,null]\x7d\x7d\x7d," ++
  "\"references\":\x7b\"hostId\":\"User\"\x7d\x7d\x7d\x7d"

def visit : Schema :=
  .add .empty <| .withReference (.withField (.withField (.withField (.new "Visit")
    (.new "hostId" .integer)) (.new "at" (.unknown "date")))
    (.enumeration "state" [("open", ⟨.integer 3, none⟩), ("done", ⟨.integer 2, none⟩)]))
    "hostId" "User"

theorem ofText_visitText : Schema.ofText visitText = .ok visit := by decide +kernel

theorem valueNames?_visitText : (Json.Document.ofText visitText).root.valueNames? "Visit" "state" =
    some ["open", "done", "open"] := by
  decide +kernel

theorem ofText_complete_visitText :
    ∃ r d, ((({} : Options).withUnknownTypes .permissive).generator.ofText visitText).outcome = .ok r ∧
      r.get? "Visit" = some d ∧ d.node.placeholders = [.identifier "undefined"] ∧
      (∃ ps p, d.node.fields? = some (.object ps) ∧ p ∈ ps ∧ p.1 = "host") ∧
      ∃ top body values, d.node.constructed = [top, body] ∧
        body.lookup "values" = some (.object values) ∧ values.map Prod.fst = ["OPEN", "DONE"] := by
  have hr : ((({} : Options).withUnknownTypes .permissive).generator.ofText visitText).outcome =
      .ok ((({} : Options).withUnknownTypes .permissive).generator.result visit) :=
    (Generator.ofText_eq_ok _).2 ⟨visit, ofText_visitText, rfl, rfl⟩
  obtain ⟨s, hs, -, hcomplete⟩ := ofText_complete (by decide) (by decide) (by decide) hr
  cases ofText_visitText.symm.trans hs
  obtain ⟨m, ps, hm, hps, hd⟩ := hcomplete "Visit" _ rfl
  cases hm
  obtain ⟨front, back, f, p, hsplit, -, hname, -⟩ := hd.references "hostId" "User" rfl
  have hp : p ∈ ps := by simp [hsplit]
  obtain ⟨top, bodies, hconstructed, -, hbodies⟩ := hd.enums
  refine ⟨_, _, hr, rfl, hd.total, ⟨ps, p, hps, hp, hname⟩, top, ?_⟩
  cases hbodies with
  | cons hbody hrest =>
    cases hrest
    obtain ⟨names, values, hnames, hlookup, -, hkeys⟩ := hbody
    cases valueNames?_visitText.symm.trans hnames
    refine ⟨_, values, hconstructed, hlookup, hkeys.trans ?_⟩
    decide +kernel

end Options
end GraphDecl
