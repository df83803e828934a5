import GraphDecl.Proofs.Accepted
import GraphDecl.Proofs.Maps
import Mathlib.Data.List.Induction

/-!
# Schemas and models built step by step

A map into which entries are put one after the other has every key once, where it was first used, with
the value it was last used with (`OrderedMap.Holds`), and each step writes one entry and leaves the
others in their order (`OrderedMap.Written`). So it is for the fields and references of a model and for
the models of a schema, under every history of steps. Fields stand under their names, and so do models
unless a key is given with them.
-/

namespace GraphDecl

namespace OrderedMap
variable {α : Type}

/-! ### Entries put into a map -/

/-- The second list has `v` under `k` in the place of what was there, or at its end, and all else as in
the first. -/
inductive Written (k : String) (v : α) : List (String × α) → List (String × α) → Prop
  | replaced (front : List (String × α)) (old : α) (back : List (String × α)) :
      Written k v (front ++ (k, old) :: back) (front ++ (k, v) :: back)
  | added {l : List (String × α)} (h : k ∉ l.map Prod.fst) : Written k v l (l ++ [(k, v)])

theorem written_put (k : String) (v : α) (l : List (String × α)) : Written k v l (put k v l) := by
  induction l with
  | nil => exact .added (by simp)
  | cons e l ih =>
    rw [put]
    split
    · next h =>
      obtain ⟨key, old⟩ := e
      obtain rfl : key = k := h
      exact .replaced [] old l
    · next h =>
      generalize put k v l = l' at ih
      cases ih with
      | replaced front old back => exact .replaced (e :: front) old back
      | added hk =>
        have hcons : k ∉ (e :: l).map Prod.fst := by
          rw [List.map_cons, List.mem_cons, not_or]
          exact ⟨fun hke => h hke.symm, hk⟩
        exact .added hcons

theorem written_insert (m : OrderedMap α) (k : String) (v : α) :
    Written k v m.entries (m.insert k v).entries :=
  written_put k v m.entries

/-- The map has every key of `uses` once, where it is first used, and under it what it is last used
with. -/
structure Holds (m : OrderedMap α) (uses : List (String × α)) : Prop where
  keys : m.keys = (uses.map Prod.fst).eraseDups
  last : ∀ key, m.get? key = uses.reverse.lookup key

theorem holds_ofList (uses : List (String × α)) : (ofList uses).Holds uses :=
  ⟨keys_ofList uses, get?_ofList uses⟩

theorem ofList_concat (uses : List (String × α)) (k : String) (v : α) :
    ofList (uses ++ [(k, v)]) = (ofList uses).insert k v := by
  rw [ofList, List.foldl_append]
  rfl

namespace Holds
variable {m : OrderedMap α} {uses : List (String × α)}

theorem contains_iff (h : m.Holds uses) (key : String) :
    m.contains key = true ↔ ∃ use ∈ uses, use.1 = key := by
  rw [OrderedMap.contains_iff, h.keys, List.mem_eraseDups, List.mem_map]

theorem size_eq (h : m.Holds uses) : m.size = (uses.map Prod.fst).eraseDups.length := by
  rw [← length_keys, h.keys]

theorem isEmpty_iff (h : m.Holds uses) : m.isEmpty = true ↔ uses = [] := by
  have hkeys : m.entries = [] ↔ m.keys = [] := by rw [OrderedMap.keys, List.map_eq_nil_iff]
  rw [isEmpty, List.isEmpty_iff, hkeys, h.keys]
  cases uses with
  | nil => simp
  | cons use uses => simp [List.eraseDups_cons]

/-- What is held was put in. -/
theorem mem_uses (h : m.Holds uses) {e : String × α} (he : e ∈ m.entries) : e ∈ uses := by
  have hlast : uses.reverse.lookup e.1 = some e.2 := by
    rw [← h.last]
    exact get?_eq_some_iff.2 he
  obtain ⟨before, after, huses, -⟩ := List.lookup_eq_some_iff.1 hlast
  have hmem : e ∈ uses.reverse := by
    rw [huses]
    exact List.mem_append_right before List.mem_cons_self
  exact List.mem_reverse.1 hmem

end Holds
end OrderedMap

/-! ### Models -/

namespace Model

/-- What can be done to a model. -/
inductive Step
  | field (f : Field)
  | reference (key target : String)
  | description (text : String)

namespace Step

def apply (m : Model) : Step → Model
  | .field f => m.withField f
  | .reference key target => m.withReference key target
  | .description text => m.withDescription text

/-- The field that the step puts in, under its name. -/
def field? : Step → Option (String × Field)
  | .field f => some (f.name, f)
  | _ => none

def reference? : Step → Option (String × String)
  | .reference key target => some (key, target)
  | _ => none

def description? : Step → Option String
  | .description text => some text
  | _ => none

/-- A step writes one entry or the description and leaves the rest of the model. -/
inductive Changes (m : Model) : Step → Model → Prop
  | field {f : Field} {fields : OrderedMap Field}
      (h : OrderedMap.Written f.name f m.fields.entries fields.entries) :
      Changes m (.field f) { m with fields }
  | reference {key target : String} {references : OrderedMap String}
      (h : OrderedMap.Written key target m.references.entries references.entries) :
      Changes m (.reference key target) { m with references }
  | description {text : String} : Changes m (.description text) { m with description := some text }

theorem changes_apply (m : Model) (step : Step) : Changes m step (step.apply m) := by
  cases step with
  | field f => exact .field (m.fields.written_insert f.name f)
  | reference key target => exact .reference (m.references.written_insert key target)
  | description text => exact .description

end Step

/-- The model that the steps make of a new one. -/
def build (name : String) (steps : List Step) : Model := steps.foldl Step.apply (new name)

theorem build_concat (name : String) (steps : List Step) (step : Step) :
    build name (steps ++ [step]) = step.apply (build name steps) := by
  rw [build, List.foldl_append]
  rfl

theorem build_eq (name : String) (steps : List Step) :
    build name steps = ⟨name, steps.reverse.findSome? Step.description?,
      .ofList (steps.filterMap Step.field?), .ofList (steps.filterMap Step.reference?)⟩ := by
  induction steps using List.reverseRecOn with
  | nil => rfl
  | append_singleton steps step ih =>
    rw [build_concat, ih, List.reverse_append, List.filterMap_append, List.filterMap_append]
    cases step with
    | field f =>
      simp [Step.apply, withField, Step.field?, Step.reference?, Step.description?,
        List.filterMap_cons, List.findSome?_cons, OrderedMap.ofList_concat]
    | reference key target =>
      simp [Step.apply, withReference, Step.field?, Step.reference?, Step.description?,
        List.filterMap_cons, List.findSome?_cons, OrderedMap.ofList_concat]
    | description text =>
      simp [Step.apply, withDescription, Step.field?, Step.reference?, Step.description?,
        List.filterMap_cons, List.findSome?_cons]

/-- The model shows the steps that made it. -/
structure BuiltBy (name : String) (steps : List Step) (m : Model) : Prop where
  name : m.name = name
  /-- The last description counts. -/
  description : m.description = steps.reverse.findSome? Step.description?
  fields : m.fields.Holds (steps.filterMap Step.field?)
  references : m.references.Holds (steps.filterMap Step.reference?)
  hasField : ∀ key, m.hasField key = true ↔ ∃ f, .field f ∈ steps ∧ f.name = key
  reference? : ∀ key, m.reference? key = (steps.filterMap Step.reference?).reverse.lookup key
  /-- Every field stands under its name. -/
  named : ∀ e ∈ m.fields.entries, e.2.name = e.1

theorem exists_of_mem_fields {steps : List Step} {e : String × Field}
    (h : e ∈ steps.filterMap Step.field?) : ∃ f, .field f ∈ steps ∧ e = (f.name, f) := by
  obtain ⟨step, hstep, hfield⟩ := List.mem_filterMap.1 h
  cases step with
  | field f => exact ⟨f, hstep, (Option.some.inj hfield).symm⟩
  | reference => cases hfield
  | description => cases hfield

theorem builtBy_build (name : String) (steps : List Step) :
    (build name steps).BuiltBy name steps := by
  rw [build_eq]
  have hfields := OrderedMap.holds_ofList (steps.filterMap Step.field?)
  have hreferences := OrderedMap.holds_ofList (steps.filterMap Step.reference?)
  refine ⟨rfl, rfl, hfields, hreferences, fun key => ?_, hreferences.last, fun e he => ?_⟩
  · refine (hfields.contains_iff key).trans ⟨?_, ?_⟩
    · rintro ⟨use, huse, rfl⟩
      obtain ⟨f, hf, rfl⟩ := exists_of_mem_fields huse
      exact ⟨f, hf, rfl⟩
    · rintro ⟨f, hf, rfl⟩
      exact ⟨(f.name, f), List.mem_filterMap.2 ⟨.field f, hf, rfl⟩, rfl⟩
  · obtain ⟨f, -, rfl⟩ := exists_of_mem_fields (hfields.mem_uses he)
    rfl

end Model

/-! ### Schemas -/

namespace Schema

/-- What can be done to a schema: a model is put in under its name or under a key of its own. -/
inductive Step
  | add (m : Model)
  | insert (key : String) (m : Model)

namespace Step

def apply (s : Schema) : Step → Schema
  | .add m => s.add m
  | .insert key m => s.insert key m

/-- The key that the step uses and the model that it puts there. -/
def use : Step → String × Model
  | .add m => (m.name, m)
  | .insert key m => (key, m)

theorem models_apply (s : Schema) (step : Step) :
    (step.apply s).models = s.models.insert step.use.1 step.use.2 := by
  cases step <;> rfl

end Step

/-- The schema that the steps make of an empty one. -/
def build (steps : List Step) : Schema := steps.foldl Step.apply empty

theorem build_concat (steps : List Step) (step : Step) :
    build (steps ++ [step]) = step.apply (build steps) := by
  rw [build, List.foldl_append]
  rfl

theorem models_build (steps : List Step) : (build steps).models = .ofList (steps.map Step.use) := by
  induction steps using List.reverseRecOn with
  | nil => rfl
  | append_singleton steps step ih =>
    rw [build_concat, Step.models_apply, ih, List.map_append, ← OrderedMap.ofList_concat]
    rfl

/-- The schema shows the steps that made it. -/
structure BuiltBy (steps : List Step) (s : Schema) : Prop where
  models : s.models.Holds (steps.map Step.use)
  get? : ∀ key, s.get? key = (steps.map Step.use).reverse.lookup key
  contains : ∀ key, s.contains key = true ↔ ∃ step ∈ steps, step.use.1 = key
  size : s.size = (steps.map fun step => step.use.1).eraseDups.length
  isEmpty : s.isEmpty = true ↔ steps = []
  /-- Every model stands under its name, or it was put in under that key. -/
  named : ∀ e ∈ s.models.entries, e.2.name = e.1 ∨ .insert e.1 e.2 ∈ steps

theorem builtBy_build (steps : List Step) : (build steps).BuiltBy steps := by
  have hmodels : (build steps).models.Holds (steps.map Step.use) := by
    rw [models_build]
    exact OrderedMap.holds_ofList _
  refine ⟨hmodels, hmodels.last, fun key => ?_, ?_, ?_, fun e he => ?_⟩
  · refine (hmodels.contains_iff key).trans ?_
    simp only [List.mem_map, exists_exists_and_eq_and]
  · refine hmodels.size_eq.trans ?_
    rw [List.map_map]
    rfl
  · exact hmodels.isEmpty_iff.trans List.map_eq_nil_iff
  · obtain ⟨step, hstep, rfl⟩ := List.mem_map.1 (hmodels.mem_uses he)
    cases step with
    | add m => exact .inl rfl
    | insert key m => exact .inr hstep

example :
    (build [.insert "A" (.new "B"), .add (.new "C"), .add (.new "A")]).models.entries =
      [("A", .new "A"), ("C", .new "C")] := by decide

/-- Models and schemas show the steps that made them, and each step writes one entry and leaves all the
others where they are. -/
theorem built_in_order :
    (∀ name steps, (Model.build name steps).BuiltBy name steps) ∧
      (∀ (m : Model) (step : Model.Step), step.Changes m (step.apply m)) ∧
      (∀ steps, (build steps).BuiltBy steps) ∧
      ∀ (s : Schema) (step : Step),
        OrderedMap.Written step.use.1 step.use.2 s.models.entries (step.apply s).models.entries := by
  refine ⟨Model.builtBy_build, fun m step => step.changes_apply m, builtBy_build, fun s step => ?_⟩
  rw [Step.models_apply]
  exact s.models.written_insert step.use.1 step.use.2

end Schema
end GraphDecl
