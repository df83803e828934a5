import Mathlib.Data.List.Nodup
import GraphDecl.Proofs.Accepted
import GraphDecl.Proofs.Emitted

/-!
# The name of a model

A model has the name that its document gives, or else its key (`Schema.name_ofText`). Declarations are
made from the key alone: it is what the declaration stands under, and also what it has for its title
(`Options.title?_declarationOf`). So a name that is given becomes the title only if it is the key.
-/

namespace GraphDecl
open Json

/-! ### Names in a document -/

namespace Json.Doc

/-- The text of a string. -/
def text? : Doc → Option String
  | .string s => s.read.toOption
  | _ => none

/-- The name that the document of a schema gives to a model; null counts as none. -/
def modelName? (root : Doc) (key : String) : Option String := do
  (← (modelRecord.entries (← root.model? key)).lookup "name").text?

/-- The keys of the models in the document of a schema, as often as they are written. -/
def modelKeys (root : Doc) : List String :=
  ((schemaRecord.entries root).lookup "models").elim [] fun models => models.entries.map Prod.fst

theorem asOption_asString {d : Doc} {name : Option String} (h : d.asOption asString = .ok name) :
    name = d.text? := by
  cases d with
  | null => exact (Except.ok.inj h).symm
  | string s =>
    change s.read.map some = .ok name at h
    rw [text?]
    cases hs : s.read with
    | error f => rw [hs] at h; cases h
    | ok text => rw [hs] at h; exact (Except.ok.inj h).symm
  | _ =>
    cases name with
    | none => rfl
    | some text => exact absurd (asOption_eq_some h) (unwanted_ne_ok _ _ _)

end Json.Doc

/-- What is read of a name that need not be there and may be null. -/
theorem join_of_rel {o : Option Doc} {name : Option (Option String)}
    (h : Option.Rel (fun d v => d.asOption Doc.asString = .ok v) o name) :
    name.join = o.bind Doc.text? := by
  cases h with
  | none => rfl
  | some hname => exact Doc.asOption_asString hname

/-- The keys of a map that need not be there. -/
theorem keys_of_rel {α : Type} {decode : Doc → Except Fault α} {o : Option Doc}
    {m : Option (OrderedMap α)} (h : Option.Rel (fun d m => d.asMap decode = .ok m) o m) :
    (m.getD .empty).keys = (o.elim [] fun d => d.entries.map Prod.fst).eraseDups := by
  cases h with
  | none => rfl
  | some hm => exact Doc.keys_asMap hm

theorem reads_modelName : modelRecord.Reads "name" (·.name) (Doc.asOption Doc.asString) := by
  refine Slot.reads_of [] [_, _, _] rfl (by decide) (fun _ _ => rfl) ?_
  simp only [List.nil_append, List.forall_mem_cons]
  exact ⟨Slot.keeps_of fun _ _ => rfl, Slot.keeps_of fun _ _ => rfl, Slot.keeps_of fun _ _ => rfl,
    List.forall_mem_nil _⟩

theorem ModelEntry.name_ofDoc {d : Doc} {m : ModelEntry} (h : ModelEntry.ofDoc d = .ok m) :
    m.name = ((modelRecord.entries d).lookup "name").bind Doc.text? := by
  obtain ⟨draft, hdraft, h⟩ := bind_eq_ok.1 h
  cases h
  exact join_of_rel (reads_modelName.decoded rfl hdraft)

theorem keys_modelEntries {root : Doc} {models : OrderedMap ModelEntry}
    (h : modelEntries root = .ok models) : models.keys = root.modelKeys.eraseDups := by
  obtain ⟨draft, hdraft, h⟩ := bind_eq_ok.1 h
  cases h
  exact keys_of_rel (reads_models.decoded rfl hdraft)

theorem ModelEntry.name_toModel {key : String} {entry : ModelEntry} {m : Model}
    (h : entry.toModel key = .ok m) : m.name = entry.name.getD key := by
  obtain ⟨fields, -, h⟩ := bind_eq_ok.1 h
  cases h
  rfl

namespace Schema
variable {text : String} {s : Schema}

/-- The models of a schema stand under the keys of the document, in the order of first occurrence. -/
theorem keys_ofText (hs : ofText text = .ok s) :
    s.models.keys = (Document.ofText text).root.modelKeys.eraseDups := by
  obtain ⟨entries, hentries, hmodels⟩ := ofText_eq_ok hs
  rw [← keys_modelEntries hentries]
  exact (convertEntries_eq_ok hmodels).keys_eq.symm

/-- A model has the name that the document gives it, or else its key. -/
theorem name_ofText (hs : ofText text = .ok s) {key : String} {m : Model}
    (hm : s.models.get? key = some m) :
    m.name = ((Document.ofText text).root.modelName? key).getD key := by
  obtain ⟨entries, hentries, hmodels⟩ := ofText_eq_ok hs
  obtain ⟨entry, hentry, htoModel⟩ := exists_of_rel (hm ▸ convertEntries_get? hmodels key)
  obtain ⟨d, hd, hdoc⟩ := exists_of_rel (hentry ▸ modelEntries_get? hentries key)
  have hname : (Document.ofText text).root.modelName? key = entry.name := by
    rw [Doc.modelName?, hd, ModelEntry.name_ofDoc hdoc]
    rfl
  rw [ModelEntry.name_toModel htoModel, hname]

end Schema

/-! ### The title of a declaration -/

/-- The value under `name` of the object from which a declaration constructs its type. -/
def Declaration.title? (d : Declaration) : Option Expr := do
  (← (← d.init?).argument? 0).property? "name"

namespace Options
variable {o : Options}

theorem title?_declarationOf (key : String) (m : Model) :
    (o.generator.declarationOf key m).node.title? = some (.literal (.string key)) := rfl

/-- A run on a text has a declaration under each key that the text has for a model. The schema of the
text has the model by the name that the text gives it or else by its key, while the title of the
declaration is the key. So the title is the name of the model if and only if the text gives it no name
or that of its key. -/
theorem title_eq_name_iff {text : String} {r : OrderedMap (Fragment Declaration)}
    (hr : (o.generator.ofText text).outcome = .ok r) :
    r.keys = (Document.ofText text).root.modelKeys.eraseDups ∧
      ∀ key d, r.get? key = some d →
        (∃ s m, Schema.ofText text = .ok s ∧ s.models.get? key = some m ∧
          m.name = ((Document.ofText text).root.modelName? key).getD key) ∧
        d.node.title? = some (.literal (.string key)) ∧
        (d.node.title? = some (.literal (.string
            (((Document.ofText text).root.modelName? key).getD key))) ↔
          ∀ name, (Document.ofText text).root.modelName? key = some name → name = key) := by
  obtain ⟨s, hs, -, hrun⟩ := o.generator.ofText_eq_ok.1 hr
  obtain ⟨-, rfl⟩ := o.generator.declarations_eq_ok.1 hrun
  refine ⟨(OrderedMap.keys_mapEntries _ _).trans (Schema.keys_ofText hs), fun key d hd => ?_⟩
  obtain ⟨m, hm, rfl⟩ := OrderedMap.get?_mapEntries_eq_some.1 hd
  refine ⟨⟨s, m, hs, hm, Schema.name_ofText hs hm⟩, title?_declarationOf key m, ?_⟩
  rw [title?_declarationOf]
  simp only [Option.some.injEq, Expr.literal.injEq, Literal.string.injEq]
  cases (Document.ofText text).root.modelName? key with
  | none => simp
  | some name => simp [eq_comm]

/-- Two models, the first of which is given a name. -/
def sharedText : String :=
  "\x7b\"models\":\x7b\"A\":\x7b\"name\":\"Shared\"\x7d,\"B\":\x7b\x7d\x7d\x7d"

def shared : Schema := (Schema.empty.insert "A" (.new "Shared")).add (.new "B")

theorem ofText_sharedText : Schema.ofText sharedText = .ok shared := by decide +kernel

theorem generate_sharedText : (({} : Options).generator.ofText sharedText).outcome =
    .ok (({} : Options).generator.result shared) :=
  (Generator.ofText_eq_ok _).2 ⟨shared, ofText_sharedText, rfl, rfl⟩

theorem modelName?_sharedText :
    (Document.ofText sharedText).root.modelName? "A" = some "Shared" ∧
      (Document.ofText sharedText).root.modelName? "B" = none := by
  decide +kernel

theorem title_eq_name_iff_sharedText :
    ∃ r a b, (({} : Options).generator.ofText sharedText).outcome = .ok r ∧ r.keys = ["A", "B"] ∧
      r.get? "A" = some a ∧ a.node.title? ≠ some (.literal (.string "Shared")) ∧
      r.get? "B" = some b ∧ b.node.title? = some (.literal (.string "B")) := by
  obtain ⟨-, htitles⟩ := title_eq_name_iff generate_sharedText
  obtain ⟨-, -, ha⟩ := htitles "A" _ rfl
  obtain ⟨-, -, hb⟩ := htitles "B" _ rfl
  rw [modelName?_sharedText.1] at ha
  rw [modelName?_sharedText.2] at hb
  have hname : ¬ ∀ name, some "Shared" = some name → name = "A" :=
    fun h => absurd (h "Shared" rfl) (by decide)
  exact ⟨_, _, _, generate_sharedText, rfl, rfl, fun h => hname (ha.1 h), rfl, hb.2 (by simp)⟩

/-- The title is the key where a name is given too. -/
theorem sharedText_drops_name :
    ∃ r d, (({} : Options).generator.ofText sharedText).outcome = .ok r ∧ r.get? "A" = some d ∧
      (Document.ofText sharedText).root.modelName? "A" = some "Shared" ∧
      d.node.title? = some (.literal (.string "A")) ∧
      d.node.title? ≠ some (.literal (.string "Shared")) := by
  refine ⟨_, _, generate_sharedText, rfl, modelName?_sharedText.1, rfl, ?_⟩
  rw [title?_declarationOf]
  simp

end Options
end GraphDecl
