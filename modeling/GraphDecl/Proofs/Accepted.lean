import GraphDecl.Proofs.FirstSeen
import GraphDecl.Proofs.Maps
import GraphDecl.Schema.Document
import Mathlib.Data.List.Forall2

/-!
# What a schema has from its document

`Doc.entries` lists the members of an object as they are written, repeated keys included. A map read
from it has every key once, in the order of first occurrence, and under it what the last occurrence
decodes to (`Doc.keys_asMap`, `Doc.get?_asMap`). A record has in each of its slots what is written under
the name of the slot, or at its place in an array (`Record.Reads.decoded`). Followed down to the fields,
this gives the enum of a field as the table that the document has for it (`keys_enumeration`).
-/

namespace GraphDecl

/-! ### Lists of entries -/

/-- Lists of entries with the same keys in the same order and with values that `R` relates. -/
def Entrywise {α β : Type} (R : String → α → β → Prop) (l : List (String × α))
    (l' : List (String × β)) : Prop :=
  List.Forall₂ (fun e e' => e.1 = e'.1 ∧ R e.1 e.2 e'.2) l l'

namespace Entrywise
variable {α β : Type} {R : String → α → β → Prop} {l : List (String × α)} {l' : List (String × β)}

theorem keys_eq (h : Entrywise R l l') : l.map Prod.fst = l'.map Prod.fst := by
  induction h with
  | nil => rfl
  | cons he _ ih => rw [List.map_cons, List.map_cons, he.1, ih]

theorem lookup (h : Entrywise R l l') (key : String) :
    Option.Rel (R key) (l.lookup key) (l'.lookup key) := by
  induction h with
  | nil => exact .none
  | cons he _ ih =>
    rw [OrderedMap.lookup_cons_ite, OrderedMap.lookup_cons_ite, ← he.1]
    split
    · rename_i hkey
      exact hkey ▸ .some he.2
    · exact ih

theorem reverse (h : Entrywise R l l') : Entrywise R l.reverse l'.reverse := List.rel_reverse h

theorem refl {R : String → α → α → Prop} (hR : ∀ key v, R key v v) (l : List (String × α)) :
    Entrywise R l l :=
  List.forall₂_same.2 fun _ _ => ⟨rfl, hR _ _⟩

theorem map_congr {γ : Type} {f : String × α → γ} {g : String × β → γ} (h : Entrywise R l l')
    (hfg : ∀ key v w, R key v w → g (key, w) = f (key, v)) : l'.map g = l.map f := by
  induction h with
  | nil => rfl
  | @cons e e' l l' he _ ih =>
    obtain ⟨key, w⟩ := e'
    obtain ⟨rfl, hvw⟩ := he
    rw [List.map_cons, List.map_cons, hfg _ _ _ hvw, ih]

/-- Traversals that treat related entries alike give the same. -/
theorem mapM_congr {m : Type → Type} [Monad m] [LawfulMonad m] {γ : Type}
    {f : String × α → m γ} {g : String × β → m γ} (h : Entrywise R l l')
    (hfg : ∀ key v w, R key v w → g (key, w) = f (key, v)) : l'.mapM g = l.mapM f := by
  induction h with
  | nil => rfl
  | @cons e e' l l' he _ ih =>
    obtain ⟨key, w⟩ := e'
    obtain ⟨rfl, hvw⟩ := he
    rw [List.mapM_cons, List.mapM_cons, hfg _ _ _ hvw, ih]

end Entrywise

namespace OrderedMap
open FirstSeen
variable {α : Type}

theorem keys_foldl_insert (l : List (String × α)) (m : OrderedMap α) :
    (l.foldl (fun m e => m.insert e.1 e.2) m).keys = (m.keys ++ l.map Prod.fst).eraseDups := by
  induction l generalizing m with
  | nil => simpa using (eraseDups_of_nodup m.nodup_keys).symm
  | cons e l ih =>
    have hkeys : (m.insert e.1 e.2).keys = (m.keys ++ [e.1]).eraseDups := by
      rw [keys_insert, eraseDups_concat, eraseDups_of_nodup m.nodup_keys]
    rw [List.foldl_cons, ih, hkeys, eraseDups_append_left, List.append_assoc]
    rfl

/-- The keys of a map of entries are those of the entries in the order of first occurrence. -/
theorem keys_ofList (l : List (String × α)) : (ofList l).keys = (l.map Prod.fst).eraseDups :=
  keys_foldl_insert l empty

theorem get?_foldl_insert (l : List (String × α)) (m : OrderedMap α) (key : String) :
    (l.foldl (fun m e => m.insert e.1 e.2) m).get? key =
      (l.reverse.lookup key).or (m.get? key) := by
  induction l generalizing m with
  | nil => rfl
  | cons e l ih =>
    rw [List.foldl_cons, ih, get?_insert, List.reverse_cons, List.lookup_append, lookup_cons_ite,
      List.lookup_nil, Option.or_assoc]
    split <;> rfl

/-- Under a key a map of entries has the value of the last entry with that key. -/
theorem get?_ofList (l : List (String × α)) (key : String) :
    (ofList l).get? key = l.reverse.lookup key := by
  rw [ofList, get?_foldl_insert, get?_empty, Option.or_none]

end OrderedMap

namespace Json

theorem bind_eq_ok {ε α β : Type} {x : Except ε α} {f : α → Except ε β} {b : β} :
    x >>= f = .ok b ↔ ∃ a, x = .ok a ∧ f a = .ok b := by
  cases x <;> simp [bind, Except.bind]

/-! ### Maps -/

/-- The members with a key that can be read. -/
def keyed (members : List (Token String × Doc)) : List (String × Doc) :=
  members.filterMap fun m => m.1.read.toOption.map fun key => (key, m.2)

theorem keyed_cons {k : Token String} {key : String} (h : k.read = .ok key) (d : Doc)
    (rest : List (Token String × Doc)) : keyed ((k, d) :: rest) = (key, d) :: keyed rest := by
  rw [keyed, List.filterMap_cons, h]
  rfl

namespace Doc

/-- The members of an object in the order of the text. -/
def entries : Doc → List (String × Doc)
  | .object members _ => keyed members
  | _ => []

/-- The value of the last member with this key. -/
def last? (d : Doc) (key : String) : Option Doc := d.entries.reverse.lookup key

theorem unwanted_ne_ok {α : Type} (d : Doc) (wanted : String) (a : α) : d.unwanted wanted ≠ .ok a := by
  intro h
  obtain ⟨found, -, hmismatch⟩ := bind_eq_ok.1 h
  cases hmismatch

end Doc

section
variable {α : Type} {decode : Doc → Except Fault α} {d : Doc} {m m' : OrderedMap α}

theorem decodeEntries_eq_ok {members : List (Token String × Doc)}
    (h : decodeEntries decode m members = .ok m') :
    ∃ l, Entrywise (fun _ d v => decode d = .ok v) (keyed members) l ∧
      m' = l.foldl (fun m e => m.insert e.1 e.2) m := by
  induction members generalizing m with
  | nil => exact ⟨[], .nil, (Except.ok.inj h).symm⟩
  | cons e rest ih =>
    obtain ⟨k, d⟩ := e
    obtain ⟨key, hkey, h⟩ := bind_eq_ok.1 h
    obtain ⟨v, hv, h⟩ := bind_eq_ok.1 h
    obtain ⟨l, hl, rfl⟩ := ih h
    rw [keyed_cons hkey]
    exact ⟨(key, v) :: l, .cons ⟨rfl, hv⟩ hl, rfl⟩

/-- A map is read from every member of an object, in their order. -/
theorem Doc.asMap_eq_ok (h : d.asMap decode = .ok m) :
    ∃ l, Entrywise (fun _ d v => decode d = .ok v) d.entries l ∧ m = .ofList l := by
  cases d with
  | object members ending =>
    obtain ⟨m', hm', h⟩ := bind_eq_ok.1 h
    obtain ⟨-, -, h⟩ := bind_eq_ok.1 h
    cases h
    exact decodeEntries_eq_ok hm'
  | _ => exact absurd h (Doc.unwanted_ne_ok _ _ _)

theorem Doc.keys_asMap (h : d.asMap decode = .ok m) :
    m.keys = (d.entries.map Prod.fst).eraseDups := by
  obtain ⟨l, hl, rfl⟩ := asMap_eq_ok h
  rw [OrderedMap.keys_ofList, hl.keys_eq]

theorem Doc.get?_asMap (h : d.asMap decode = .ok m) (key : String) :
    Option.Rel (fun d v => decode d = .ok v) (d.last? key) (m.get? key) := by
  obtain ⟨l, hl, rfl⟩ := asMap_eq_ok h
  rw [OrderedMap.get?_ofList]
  exact hl.reverse.lookup key

end

theorem Doc.asOption_eq_some {α : Type} {decode : Doc → Except Fault α} {d : Doc} {v : α}
    (h : d.asOption decode = .ok (some v)) : decode d = .ok v := by
  have hmap : (decode d).map some = .ok (some v) := by
    cases d with
    | null => cases h
    | _ => exact h
  cases hv : decode d with
  | error f => rw [hv] at hmap; cases hmap
  | ok w => rw [hv] at hmap; cases hmap; rfl

/-! ### Records -/

namespace Record
variable {σ α : Type}

/-- The members of a record that is written as an object or as an array. -/
def entries (r : Record σ) : Doc → List (String × Doc)
  | .array items _ => (r.slots.map Slot.name).zip items
  | d => d.entries

/-- One slot of the record has this name. It fills `get` with what `decode` gives, and no other slot
changes `get`. -/
structure Reads (r : Record σ) (name : String) (get : σ → Option α)
    (decode : Doc → Except Fault α) : Prop where
  names : (r.slots.map Slot.name).Nodup
  mem : name ∈ r.slots.map Slot.name
  filled : ∀ slot ∈ r.slots, slot.name = name → ∀ draft, slot.filled draft = (get draft).isSome
  fill : ∀ slot ∈ r.slots, ∀ draft d draft', slot.fill draft d = .ok draft' →
    if slot.name = name then ∃ v, decode d = .ok v ∧ get draft' = some v else get draft' = get draft

variable {r : Record σ} {name : String} {get : σ → Option α} {decode : Doc → Except Fault α}
  {draft draft' : σ}

namespace Reads
variable (hr : r.Reads name get decode)
include hr

/-- One member of an object fills its slot, which was empty, or leaves it as it was. -/
theorem member {k : Token String} {d : Doc} (h : r.member draft k d = .ok draft') :
    ∃ key, k.read = .ok key ∧
      if key = name then get draft = none ∧ ∃ v, decode d = .ok v ∧ get draft' = some v
      else get draft' = get draft := by
  obtain ⟨key, hkey, h⟩ := bind_eq_ok.1 h
  refine ⟨key, hkey, ?_⟩
  cases hslot : r.slots.find? (·.name == key) with
  | none =>
    rw [hslot] at h
    obtain ⟨-, -, h⟩ := bind_eq_ok.1 h
    cases h
    have hne : key ≠ name := by
      rintro rfl
      obtain ⟨slot, hmem, hname⟩ := List.mem_map.1 hr.mem
      exact List.find?_eq_none.1 hslot slot hmem (beq_iff_eq.2 hname)
    rw [if_neg hne]
  | some slot =>
    have hmem := List.mem_of_find?_eq_some hslot
    obtain rfl : slot.name = key := by simpa using List.find?_some hslot
    rw [hslot] at h
    dsimp only at h
    split at h
    · cases h
    · rename_i hempty
      have hfill := hr.fill slot hmem draft d draft' h
      split
      · rename_i hname
        rw [if_pos hname] at hfill
        rw [hr.filled slot hmem hname, Bool.not_eq_true, Option.isSome_eq_false_iff,
          Option.isNone_iff_eq_none] at hempty
        exact ⟨hempty, hfill⟩
      · rename_i hname
        rwa [if_neg hname] at hfill

theorem members {ms : List (Token String × Doc)} (h : r.members draft ms = .ok draft') :
    (∀ v, get draft = some v → get draft' = some v) ∧ (get draft = none →
      Option.Rel (fun d v => decode d = .ok v) ((keyed ms).lookup name) (get draft')) := by
  induction ms generalizing draft with
  | nil =>
    cases h
    exact ⟨fun v hv => hv, fun hnone => hnone ▸ .none⟩
  | cons e rest ih =>
    obtain ⟨k, d⟩ := e
    obtain ⟨draft₁, hmember, h⟩ := bind_eq_ok.1 h
    obtain ⟨hkeep, hread⟩ := ih h
    obtain ⟨key, hkey, hslot⟩ := hr.member hmember
    rw [keyed_cons hkey, OrderedMap.lookup_cons_ite]
    by_cases hname : key = name
    · rw [if_pos hname] at hslot
      obtain ⟨hnone, v, hv, hfilled⟩ := hslot
      refine ⟨fun w hw => absurd (hnone.symm.trans hw) (by simp), fun _ => ?_⟩
      rw [if_pos hname.symm, hkeep v hfilled]
      exact .some hv
    · rw [if_neg hname] at hslot
      rw [if_neg (Ne.symm hname), ← hslot]
      exact ⟨hkeep, hread⟩

theorem items {ending : Ending} {index : Nat} {slots : List (Slot σ)} {ds : List Doc}
    (hslots : ∀ slot ∈ slots, slot ∈ r.slots) (hnames : (slots.map Slot.name).Nodup)
    (h : r.items ending index draft slots ds = .ok draft') :
    (name ∉ slots.map Slot.name → get draft' = get draft) ∧ (get draft = none →
      Option.Rel (fun d v => decode d = .ok v) (((slots.map Slot.name).zip ds).lookup name)
        (get draft')) := by
  induction slots generalizing index draft ds with
  | nil =>
    cases ds with
    | cons d ds => cases h
    | nil =>
      obtain ⟨-, -, h⟩ := bind_eq_ok.1 h
      cases h
      exact ⟨fun _ => rfl, fun hnone => hnone ▸ .none⟩
  | cons slot slots ih =>
    obtain ⟨hslot, hrest⟩ := List.forall_mem_cons.1 hslots
    rw [List.map_cons, List.nodup_cons] at hnames
    rw [List.map_cons, List.mem_cons, not_or]
    cases ds with
    | nil =>
      obtain ⟨-, -, h⟩ := bind_eq_ok.1 h
      split at h
      · obtain ⟨hkeep, hread⟩ := ih hrest hnames.2 h
        rw [List.zip_nil_right] at hread
        exact ⟨fun hname => hkeep hname.2, hread⟩
      · cases h
    | cons d ds =>
      obtain ⟨draft₁, hdraft₁, h⟩ := bind_eq_ok.1 h
      obtain ⟨hkeep, hread⟩ := ih hrest hnames.2 h
      have hfill := hr.fill slot hslot draft d draft₁ hdraft₁
      rw [List.zip_cons_cons, OrderedMap.lookup_cons_ite]
      by_cases hname : slot.name = name
      · -- no later slot has this name
        rw [if_pos hname] at hfill
        obtain ⟨v, hv, hfilled⟩ := hfill
        refine ⟨fun hne => absurd hname.symm hne.1, fun _ => ?_⟩
        rw [if_pos hname.symm, hkeep (hname ▸ hnames.1), hfilled]
        exact .some hv
      · rw [if_neg hname] at hfill
        rw [if_neg (Ne.symm hname), ← hfill]
        exact ⟨fun hne => hkeep hne.2, hread⟩

/-- A record in either form has in the slot what is written for it. -/
theorem decoded {d : Doc} (hdraft : get draft = none) (h : r.decode draft d = .ok draft') :
    Option.Rel (fun d v => decode d = .ok v) ((r.entries d).lookup name) (get draft') := by
  cases d with
  | object ms ending =>
    obtain ⟨draft₁, hmembers, h⟩ := bind_eq_ok.1 h
    obtain ⟨-, -, h⟩ := bind_eq_ok.1 h
    cases h
    exact (hr.members hmembers).2 hdraft
  | array ds ending => exact (hr.items (fun _ hslot => hslot) hr.names h).2 hdraft
  | _ => exact absurd h (Doc.unwanted_ne_ok _ _ _)

end Reads
end Record

namespace Slot
variable {σ α β : Type} {name : String} {omissible : Bool} {get : σ → Option α} {set : σ → α → σ}
  {decode : Doc → Except Fault α}

/-- Filling the slot does not change `get`. -/
def Keeps (slot : Slot σ) (get : σ → β) : Prop :=
  ∀ draft d draft', slot.fill draft d = .ok draft' → get draft' = get draft

theorem fill_of {draft draft' : σ} {d : Doc}
    (h : (of name omissible get set decode).fill draft d = .ok draft') :
    ∃ v, decode d = .ok v ∧ draft' = set draft v := by
  change (decode d).map (set draft) = .ok draft' at h
  cases hv : decode d with
  | error f => rw [hv] at h; cases h
  | ok v => rw [hv] at h; exact ⟨v, rfl, (Except.ok.inj h).symm⟩

theorem keeps_of {get' : σ → β} (h : ∀ draft v, get' (set draft v) = get' draft) :
    (of name omissible get set decode).Keeps get' := by
  intro draft d draft' hfill
  obtain ⟨v, -, rfl⟩ := fill_of hfill
  exact h draft v

/-- A slot among slots with other names that do not touch what it fills. -/
theorem reads_of {r : Record σ} (front back : List (Slot σ))
    (hslots : r.slots = front ++ of name omissible get set decode :: back)
    (hnames : (r.slots.map Slot.name).Nodup) (hset : ∀ draft v, get (set draft v) = some v)
    (hkeep : ∀ slot ∈ front ++ back, slot.Keeps get) : r.Reads name get decode := by
  have hmem : of name omissible get set decode ∈ r.slots := by simp [hslots]
  have heq : ∀ slot ∈ r.slots, slot.name = name → slot = of name omissible get set decode :=
    fun slot hslot hname => List.inj_on_of_nodup_map hnames hslot hmem hname
  refine ⟨hnames, List.mem_map_of_mem hmem, fun slot hslot hname draft => ?_,
    fun slot hslot draft d draft' h => ?_⟩
  · rw [heq slot hslot hname]
    rfl
  · split
    · rename_i hname
      rw [heq slot hslot hname] at h
      obtain ⟨v, hv, rfl⟩ := fill_of h
      exact ⟨v, hv, hset draft v⟩
    · rename_i hname
      rw [hslots, List.mem_append, List.mem_cons] at hslot
      have hother : slot ∈ front ++ back := by
        rcases hslot with hfront | rfl | hback
        · exact List.mem_append_left _ hfront
        · exact absurd rfl hname
        · exact List.mem_append_right _ hback
      exact hkeep slot hother draft d draft' h

end Slot

theorem exists_of_rel {α β : Type} {R : α → β → Prop} {o : Option α} {b : β}
    (h : Option.Rel R o (some b)) : ∃ a, o = some a ∧ R a b := by
  cases h with
  | some hab => exact ⟨_, rfl, hab⟩

/-- What is read of a member of a map that need not be there. -/
theorem rel_bind_last? {α : Type} {decode : Doc → Except Fault α} {o : Option Doc}
    {m : Option (OrderedMap α)} (h : Option.Rel (fun d m => d.asMap decode = .ok m) o m)
    (key : String) : Option.Rel (fun d v => decode d = .ok v) (o.bind (·.last? key))
      ((m.getD .empty).get? key) := by
  cases h with
  | none => exact .none
  | some hm => exact Doc.get?_asMap hm key

end Json

open Json

/-! ### Models and fields of a schema document -/

theorem reads_models : schemaRecord.Reads "models" (·.models) (Doc.asMap ModelEntry.ofDoc) :=
  Slot.reads_of [] [] rfl (by decide) (fun _ _ => rfl) (by simp)

theorem reads_fields : modelRecord.Reads "fields" (·.fields) (Doc.asMap FieldEntry.ofDoc) := by
  refine Slot.reads_of [_, _] [_] rfl (by decide) (fun _ _ => rfl) ?_
  simp only [List.cons_append, List.nil_append, List.forall_mem_cons]
  exact ⟨Slot.keeps_of fun _ _ => rfl, Slot.keeps_of fun _ _ => rfl, Slot.keeps_of fun _ _ => rfl,
    List.forall_mem_nil _⟩

theorem reads_values :
    fieldRecord.Reads "values" (·.values) (Doc.asOption (Doc.asMap EnumValue.ofDoc)) := by
  refine Slot.reads_of [_, _, _, _] [] rfl (by decide) (fun _ _ => rfl) ?_
  simp only [List.cons_append, List.nil_append, List.forall_mem_cons]
  exact ⟨Slot.keeps_of fun _ _ => rfl, Slot.keeps_of fun _ _ => rfl, Slot.keeps_of fun _ _ => rfl,
    Slot.keeps_of fun _ _ => rfl, List.forall_mem_nil _⟩

namespace Json.Doc

/-- The document of a model in that of a schema: the last one under its key. -/
def model? (root : Doc) (key : String) : Option Doc :=
  ((schemaRecord.entries root).lookup "models").bind (·.last? key)

/-- The document of a field in that of a model: the last one under its key. -/
def field? (d : Doc) (key : String) : Option Doc :=
  ((modelRecord.entries d).lookup "fields").bind (·.last? key)

/-- The names in the table of values that the document of a schema has for a field, as often as they
are written. -/
def valueNames? (root : Doc) (model field : String) : Option (List String) := do
  let f ← (← root.model? model).field? field
  let values ← (fieldRecord.entries f).lookup "values"
  return values.entries.map Prod.fst

end Json.Doc

theorem modelEntries_get? {root : Doc} {models : OrderedMap ModelEntry}
    (h : modelEntries root = .ok models) (key : String) :
    Option.Rel (fun d m => ModelEntry.ofDoc d = .ok m) (root.model? key) (models.get? key) := by
  obtain ⟨draft, hdraft, h⟩ := bind_eq_ok.1 h
  cases h
  exact rel_bind_last? (reads_models.decoded rfl hdraft) key

theorem ModelEntry.get?_ofDoc {d : Doc} {m : ModelEntry} (h : ModelEntry.ofDoc d = .ok m)
    (key : String) :
    Option.Rel (fun d f => FieldEntry.ofDoc d = .ok f) (d.field? key) (m.fields.get? key) := by
  obtain ⟨draft, hdraft, h⟩ := bind_eq_ok.1 h
  cases h
  exact rel_bind_last? (reads_fields.decoded rfl hdraft) key

theorem FieldEntry.values_ofDoc {d : Doc} {f : FieldEntry} (h : FieldEntry.ofDoc d = .ok f)
    {values : OrderedMap EnumValue} (hvalues : f.values = some values) :
    ∃ table, (fieldRecord.entries d).lookup "values" = some table ∧
      table.asMap EnumValue.ofDoc = .ok values := by
  obtain ⟨draft, hdraft, h⟩ := bind_eq_ok.1 h
  obtain ⟨type, -, h⟩ := bind_eq_ok.1 h
  cases h
  have hread := reads_values.decoded rfl hdraft
  rw [Option.join_eq_some_iff.1 hvalues] at hread
  obtain ⟨table, htable, hdecode⟩ := exists_of_rel hread
  exact ⟨table, htable, Doc.asOption_eq_some hdecode⟩

/-! ### The schema of a document -/

theorem entrywise_of_mapM {α β : Type} {convert : String → α → Except LoadError β}
    {l : List (String × α)} {l' : List (String × β)}
    (h : (l.mapM fun e => do return (e.1, ← convert e.1 e.2)) = .ok l') :
    Entrywise (fun key v w => convert key v = .ok w) l l' := by
  induction l generalizing l' with
  | nil => cases h; exact .nil
  | cons e l ih =>
    rw [List.mapM_cons] at h
    obtain ⟨e', he', h⟩ := bind_eq_ok.1 h
    obtain ⟨w, hw, he'⟩ := bind_eq_ok.1 he'
    obtain ⟨l', hl', h⟩ := bind_eq_ok.1 h
    cases he'
    cases h
    exact .cons ⟨rfl, hw⟩ (ih hl')

/-- Conversion keeps the keys and their order. -/
theorem convertEntries_eq_ok {α β : Type} {convert : String → α → Except LoadError β}
    {m : OrderedMap α} {m' : OrderedMap β} (h : convertEntries convert m = .ok m') :
    Entrywise (fun key v w => convert key v = .ok w) m.entries m'.entries := by
  obtain ⟨l, hl, h⟩ := bind_eq_ok.1 h
  cases h
  have hentries := entrywise_of_mapM hl
  rw [OrderedMap.entries_ofList (hentries.keys_eq ▸ m.nodup)]
  exact hentries

theorem convertEntries_get? {α β : Type} {convert : String → α → Except LoadError β}
    {m : OrderedMap α} {m' : OrderedMap β} (h : convertEntries convert m = .ok m') (key : String) :
    Option.Rel (fun v w => convert key v = .ok w) (m.get? key) (m'.get? key) :=
  (convertEntries_eq_ok h).lookup key

theorem FieldType.ofName_ne_enumeration (name : String) (values : OrderedMap EnumValue) :
    ofName name ≠ .enumeration values := by
  rw [ofName]
  split
  · simp
  · split
    · simp
    · split <;> simp

theorem FieldEntry.values_of_toField {model key : String} {entry : FieldEntry} {f : Field}
    (h : entry.toField model key = .ok f) {values : OrderedMap EnumValue}
    (hvalues : f.type = .enumeration values) : entry.values = some values := by
  rw [toField] at h
  split at h
  · cases hentry : entry.values with
    | none => rw [hentry] at h; cases h
    | some values' =>
      rw [hentry] at h
      cases h
      exact congrArg some (FieldType.enumeration.inj hvalues)
  · cases h
    exact absurd hvalues (FieldType.ofName_ne_enumeration _ _)

namespace Schema

theorem ofText_eq_ok {text : String} {s : Schema} (h : ofText text = .ok s) :
    ∃ entries, modelEntries (Document.ofText text).root = .ok entries ∧
      convertEntries ModelEntry.toModel entries = .ok s.models := by
  rw [ofText] at h
  cases hdecode : (Document.ofText text).decode modelEntries with
  | error f => rw [hdecode] at h; cases h
  | ok entries =>
    rw [hdecode] at h
    obtain ⟨entries', hentries, hdecode⟩ := bind_eq_ok.1 hdecode
    split at hdecode
    · cases hdecode
    · cases hdecode
      refine ⟨entries, hentries, ?_⟩
      dsimp only at h
      cases hmodels : convertEntries ModelEntry.toModel entries with
      | error e => rw [hmodels] at h; cases h
      | ok models => rw [hmodels] at h; cases h; rfl

/-- The values of an enum are those that the document has in the table of its field, each name once,
in the order of first occurrence. -/
theorem keys_enumeration {text : String} {s : Schema} (hs : ofText text = .ok s) {model key : String}
    {m : Model} (hm : s.models.get? model = some m) {f : Field} (hf : m.fields.get? key = some f)
    {values : OrderedMap EnumValue} (hvalues : f.type = .enumeration values) :
    ∃ names, (Document.ofText text).root.valueNames? model key = some names ∧
      values.keys = names.eraseDups := by
  obtain ⟨entries, hentries, hmodels⟩ := ofText_eq_ok hs
  obtain ⟨entry, hentry, hm⟩ := exists_of_rel (hm ▸ convertEntries_get? hmodels model)
  obtain ⟨fields, hfields, hm⟩ := bind_eq_ok.1 hm
  cases hm
  obtain ⟨field, hfield, hf⟩ := exists_of_rel (hf ▸ convertEntries_get? hfields key)
  obtain ⟨d, hd, hmodel⟩ := exists_of_rel (hentry ▸ modelEntries_get? hentries model)
  obtain ⟨d', hd', hfield⟩ := exists_of_rel (hfield ▸ ModelEntry.get?_ofDoc hmodel key)
  obtain ⟨table, htable, hvalues⟩ :=
    FieldEntry.values_ofDoc hfield (FieldEntry.values_of_toField hf hvalues)
  refine ⟨table.entries.map Prod.fst, ?_, Doc.keys_asMap hvalues⟩
  rw [Doc.valueNames?, hd]
  simp [hd', htable]

end Schema
end GraphDecl
