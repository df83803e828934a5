import GraphDecl.Proofs.Occurrences

/-!
# Records in different forms

Whether a record is accepted depends on what its members are, not on their order (`Record.Accepts`):
every key has to be read, the value under the name of a slot has to fit the slot, any other value has to
be well-formed, and no slot may be named twice. `Record.Respells` is one change that leaves the meaning
of a record alone, where the record itself says which members may come and go and how a value may
change. A record so changed is still accepted (`Respells.accepts`), and under each name it has what it
had before up to the change (`Respells.varies`).
-/

namespace GraphDecl.Json

/-! ### Values that are passed over -/

/-- The value has no fault of the grammar. What its tokens stand for does not matter. -/
inductive Doc.WellFormed : Doc → Prop
  | null : WellFormed .null
  | bool {b : Bool} : WellFormed (.bool b)
  | number {value : Except Fault Number} : WellFormed (.number (.whole value))
  | string {value : Except Fault String} : WellFormed (.string (.whole value))
  | array {items : List Doc} (each : ∀ d ∈ items, WellFormed d) : WellFormed (.array items .closed)
  | object {members : List (Token String × Doc)} (keys : ∀ m ∈ members, ∃ value, m.1 = .whole value)
      (each : ∀ m ∈ members, WellFormed m.2) : WellFormed (.object members .closed)

namespace Doc

theorem skipItems_eq_ok {items : List Doc} (h : ∀ d ∈ items, d.skip = .ok ()) :
    skipItems items = .ok () := by
  induction items with
  | nil => rfl
  | cons d items ih =>
    obtain ⟨hd, hitems⟩ := List.forall_mem_cons.1 h
    rw [skipItems, hd]
    exact ih hitems

theorem skipMembers_eq_ok {members : List (Token String × Doc)}
    (h : ∀ m ∈ members, m.1.skip = .ok () ∧ m.2.skip = .ok ()) : skipMembers members = .ok () := by
  induction members with
  | nil => rfl
  | cons m members ih =>
    obtain ⟨⟨hk, hd⟩, hmembers⟩ := List.forall_mem_cons.1 h
    rw [skipMembers, hk, hd]
    exact ih hmembers

theorem WellFormed.skip_eq_ok {d : Doc} (h : d.WellFormed) : d.skip = .ok () := by
  induction h with
  | null | bool | number | string => rfl
  | array _ ih =>
    rw [skip, skipItems_eq_ok ih]
    rfl
  | object keys _ ih =>
    rw [skip, skipMembers_eq_ok fun m hm => ⟨?_, ih m hm⟩]
    · rfl
    · obtain ⟨value, hvalue⟩ := keys m hm
      rw [hvalue]
      rfl

end Doc

/-! ### Records that are accepted -/

variable {σ : Type}

/-- The slot is filled from the value, whatever the draft. -/
def Slot.Takes (slot : Slot σ) (d : Doc) : Prop := ∀ draft, ∃ draft', slot.fill draft d = .ok draft'

/-- Whether the slot can be filled does not depend on the draft. -/
def Slot.Uniform (slot : Slot σ) : Prop :=
  ∀ draft d draft', slot.fill draft d = .ok draft' → slot.Takes d

section
variable {α : Type} {name : String} {omissible : Bool} {get : σ → Option α} {set : σ → α → σ}
  {decode : Doc → Except Fault α} {d : Doc}

theorem Slot.takes_of {a : α} (h : decode d = .ok a) : (of name omissible get set decode).Takes d :=
  fun draft => ⟨set draft a, by simp [of, h, Except.map]⟩

theorem Slot.exists_of_takes (h : (of name omissible get set decode).Takes d) (draft : σ) :
    ∃ a, decode d = .ok a := by
  obtain ⟨draft', hfill⟩ := h draft
  obtain ⟨a, ha, -⟩ := fill_of hfill
  exact ⟨a, ha⟩

theorem Slot.uniform_of : (of name omissible get set decode).Uniform :=
  fun _ _ _ h => takes_of (fill_of h).choose_spec.1

end

namespace Record

/-- Each slot fills its own part of the draft, from the same values whatever the draft. The draft with
which reading starts has none of them filled. -/
structure Lawful (r : Record σ) (blank : σ) : Prop where
  names : (r.slots.map Slot.name).Nodup
  reads : ∀ slot ∈ r.slots, ∃ (α : Type) (get : σ → Option α) (decode : Doc → Except Fault α),
    r.Reads slot.name get decode
  uniform : ∀ slot ∈ r.slots, slot.Uniform
  blank : ∀ slot ∈ r.slots, slot.filled blank = false

/-- The value fits the slot that the key names, or it is well-formed where the key names none. -/
def TakesMember (r : Record σ) (m : Token String × Doc) : Prop :=
  ∃ key, m.1.read = .ok key ∧ (∀ slot ∈ r.slots, slot.name = key → slot.Takes m.2) ∧
    (key ∉ r.slots.map Slot.name → m.2.skip = .ok ())

/-- Both members are for the same slot. -/
def SameSlot (r : Record σ) (m m' : Token String × Doc) : Prop :=
  ∃ slot ∈ r.slots, m.1.read = .ok slot.name ∧ m'.1.read = .ok slot.name

/-- Each item fits the slot at its place, and the slots behind the last item can be left out. -/
inductive TakesItems : List (Slot σ) → List Doc → Prop
  | nil {slots : List (Slot σ)} (omissible : ∀ slot ∈ slots, slot.omissible = true) :
      TakesItems slots []
  | cons {slot : Slot σ} {slots : List (Slot σ)} {d : Doc} {ds : List Doc} (head : slot.Takes d)
      (tail : TakesItems slots ds) : TakesItems (slot :: slots) (d :: ds)

inductive Accepts (r : Record σ) : Doc → Prop
  | object {ms : List (Token String × Doc)} (each : ∀ m ∈ ms, r.TakesMember m)
      (once : ms.Pairwise fun m m' => ¬ r.SameSlot m m') : r.Accepts (.object ms .closed)
  | array {ds : List Doc} (items : TakesItems r.slots ds) : r.Accepts (.array ds .closed)

theorem SameSlot.symm {r : Record σ} {m m' : Token String × Doc} (h : r.SameSlot m m') :
    r.SameSlot m' m := by
  obtain ⟨slot, hslot, hm, hm'⟩ := h
  exact ⟨slot, hslot, hm', hm⟩

namespace Lawful
variable {r : Record σ} {blank draft draft' : σ} {slot : Slot σ} {k : Token String} {d : Doc}
  (hr : r.Lawful blank)
include hr

theorem member_of_slot (hslot : slot ∈ r.slots) (hk : k.read = .ok slot.name) :
    r.member draft k d = if slot.filled draft then mismatch (.duplicateField slot.name)
      else slot.fill draft d := by
  have hfind : r.slots.find? (·.name == slot.name) = some slot := by
    cases hfind : r.slots.find? (·.name == slot.name) with
    | none => exact absurd (beq_self_eq_true slot.name) (List.find?_eq_none.1 hfind slot hslot)
    | some slot' =>
      have hname : slot'.name = slot.name := by simpa using List.find?_some hfind
      rw [List.inj_on_of_nodup_map hr.names (List.mem_of_find?_eq_some hfind) hslot hname]
  simp only [member, hk, bind, Except.bind, hfind]

omit hr in
theorem member_of_unknown {key : String} (hk : k.read = .ok key)
    (hkey : key ∉ r.slots.map Slot.name) : r.member draft k d = d.skip.map fun _ => draft := by
  have hfind : r.slots.find? (·.name == key) = none := by
    refine List.find?_eq_none.2 fun slot hslot hname => hkey ?_
    rw [← beq_iff_eq.1 hname]
    exact List.mem_map_of_mem hslot
  simp only [member, hk, bind, Except.bind, hfind]
  cases d.skip <;> rfl

/-- Filling a slot fills that one and no other. -/
theorem filled_fill (hslot : slot ∈ r.slots) (h : slot.fill draft d = .ok draft') {slot' : Slot σ}
    (hslot' : slot' ∈ r.slots) :
    slot'.filled draft' = true ↔ slot.name = slot'.name ∨ slot'.filled draft = true := by
  obtain ⟨α, get, decode, hreads⟩ := hr.reads slot' hslot'
  have hfill := hreads.fill slot hslot draft d draft' h
  rw [hreads.filled slot' hslot' rfl, hreads.filled slot' hslot' rfl]
  split at hfill
  · rename_i hname
    obtain ⟨v, -, hv⟩ := hfill
    simp [hv, hname]
  · rename_i hname
    simp [hfill, hname]

theorem exists_slot {key : String} (hkey : key ∈ r.slots.map Slot.name) :
    ∃ slot ∈ r.slots, slot.name = key ∧ ∀ slot' ∈ r.slots, slot'.name = key → slot' = slot := by
  obtain ⟨slot, hslot, rfl⟩ := List.mem_map.1 hkey
  exact ⟨slot, hslot, rfl, fun slot' hslot' hname =>
    List.inj_on_of_nodup_map hr.names hslot' hslot hname⟩

theorem member_isOk_iff : (∃ draft', r.member draft k d = .ok draft') ↔
    r.TakesMember (k, d) ∧ ∀ slot ∈ r.slots, k.read = .ok slot.name → slot.filled draft = false := by
  constructor
  · rintro ⟨draft', h⟩
    cases hk : k.read with
    | error f => rw [member, hk] at h; cases h
    | ok key =>
      by_cases hkey : key ∈ r.slots.map Slot.name
      · obtain ⟨slot, hslot, rfl, hunique⟩ := hr.exists_slot hkey
        rw [hr.member_of_slot hslot hk] at h
        split at h
        · cases h
        · rename_i hfilled
          refine ⟨⟨slot.name, hk, fun slot' hslot' hname => ?_, fun hunknown => absurd hkey hunknown⟩,
            fun slot' hslot' hname => ?_⟩
          · rw [hunique slot' hslot' hname]
            exact hr.uniform slot hslot draft d draft' h
          · rw [hunique slot' hslot' (Except.ok.inj hname).symm]
            exact Bool.eq_false_iff.2 hfilled
      · rw [member_of_unknown hk hkey] at h
        obtain ⟨u, hskip, -⟩ := map_eq_ok.1 h
        have hnone : ∀ slot ∈ r.slots, slot.name ≠ key :=
          fun slot hslot hname => hkey (hname ▸ List.mem_map_of_mem hslot)
        exact ⟨⟨key, hk, fun slot hslot hname => absurd hname (hnone slot hslot), fun _ => hskip⟩,
          fun slot hslot hname => absurd (Except.ok.inj hname).symm (hnone slot hslot)⟩
  · rintro ⟨⟨key, hk, htakes, hskip⟩, hfilled⟩
    by_cases hkey : key ∈ r.slots.map Slot.name
    · obtain ⟨slot, hslot, rfl, -⟩ := hr.exists_slot hkey
      rw [hr.member_of_slot hslot hk, hfilled slot hslot hk]
      exact htakes slot hslot rfl draft
    · rw [member_of_unknown hk hkey, hskip hkey]
      exact ⟨draft, rfl⟩

theorem filled_member (h : r.member draft k d = .ok draft') (hslot : slot ∈ r.slots) :
    slot.filled draft' = true ↔ k.read = .ok slot.name ∨ slot.filled draft = true := by
  obtain ⟨key, hk, -⟩ := (hr.member_isOk_iff.1 ⟨draft', h⟩).1
  by_cases hkey : key ∈ r.slots.map Slot.name
  · obtain ⟨slot₁, hslot₁, rfl, -⟩ := hr.exists_slot hkey
    rw [hr.member_of_slot hslot₁ hk] at h
    split at h
    · cases h
    · rw [hr.filled_fill hslot₁ h hslot, hk, Except.ok.injEq]
  · rw [member_of_unknown hk hkey] at h
    obtain ⟨-, -, rfl⟩ := map_eq_ok.1 h
    have hne : key ≠ slot.name := fun hname => hkey (hname ▸ List.mem_map_of_mem hslot)
    simp [hk, hne]

theorem members_isOk_iff {ms : List (Token String × Doc)} :
    (∃ draft', r.members draft ms = .ok draft') ↔
      (∀ m ∈ ms, r.TakesMember m) ∧ (ms.Pairwise fun m m' => ¬ r.SameSlot m m') ∧
        ∀ m ∈ ms, ∀ slot ∈ r.slots, m.1.read = .ok slot.name → slot.filled draft = false := by
  induction ms generalizing draft with
  | nil => simp [members]
  | cons m ms ih =>
    obtain ⟨k, d⟩ := m
    simp only [List.forall_mem_cons, List.pairwise_cons]
    constructor
    · rintro ⟨draft', h⟩
      obtain ⟨draft₁, hmember, hmembers⟩ := bind_eq_ok.1 h
      obtain ⟨htakes, hempty⟩ := hr.member_isOk_iff.1 ⟨draft₁, hmember⟩
      obtain ⟨heach, honce, hrest⟩ := ih.1 ⟨draft', hmembers⟩
      refine ⟨⟨htakes, heach⟩, ⟨fun m hm hsame => ?_, honce⟩, hempty, fun m hm slot hslot hname => ?_⟩
      · -- the slot of the head is filled when a later member comes
        obtain ⟨slot, hslot, hk, hname⟩ := hsame
        have hfilled := (hr.filled_member hmember hslot).2 (.inl hk)
        rw [hrest m hm slot hslot hname] at hfilled
        cases hfilled
      · refine Bool.eq_false_iff.2 fun hfilled => ?_
        have hfilled := (hr.filled_member hmember hslot).2 (.inr hfilled)
        rw [hrest m hm slot hslot hname] at hfilled
        cases hfilled
    · rintro ⟨⟨htakes, heach⟩, ⟨hother, honce⟩, hempty, hrest⟩
      obtain ⟨draft₁, hmember⟩ := hr.member_isOk_iff.2 ⟨htakes, hempty⟩
      have hempty₁ : ∀ m ∈ ms, ∀ slot ∈ r.slots, m.1.read = .ok slot.name →
          slot.filled draft₁ = false := by
        intro m hm slot hslot hname
        refine Bool.eq_false_iff.2 fun hfilled => ?_
        rcases (hr.filled_member hmember hslot).1 hfilled with hk | hfilled
        · exact hother m hm ⟨slot, hslot, hk, hname⟩
        · rw [hrest m hm slot hslot hname] at hfilled
          cases hfilled
      obtain ⟨draft', hmembers⟩ := ih.2 ⟨heach, honce, hempty₁⟩
      exact ⟨draft', bind_eq_ok.2 ⟨draft₁, hmember, hmembers⟩⟩

theorem items_isOk_iff {ending : Ending} {index : Nat} {slots : List (Slot σ)} {ds : List Doc}
    (hslots : ∀ slot ∈ slots, slot ∈ r.slots) :
    (∃ draft', r.items ending index draft slots ds = .ok draft') ↔
      ending = .closed ∧ TakesItems slots ds := by
  induction slots generalizing index draft ds with
  | nil =>
    cases ds with
    | nil =>
      constructor
      · rintro ⟨draft', h⟩
        obtain ⟨u, hclosed, -⟩ := bind_eq_ok.1 h
        exact ⟨Ending.check_eq_ok.1 hclosed, .nil (List.forall_mem_nil _)⟩
      · rintro ⟨rfl, -⟩
        exact ⟨draft, rfl⟩
    | cons d ds =>
      constructor
      · rintro ⟨draft', h⟩
        cases h
      · rintro ⟨-, h⟩
        cases h
  | cons slot slots ih =>
    obtain ⟨hslot, hrest⟩ := List.forall_mem_cons.1 hslots
    cases ds with
    | nil =>
      constructor
      · rintro ⟨draft', h⟩
        obtain ⟨-, -, h⟩ := bind_eq_ok.1 h
        split at h
        · rename_i homissible
          obtain ⟨hclosed, hitems⟩ := (ih hrest).1 ⟨draft', h⟩
          cases hitems with
          | nil hall => exact ⟨hclosed, .nil (List.forall_mem_cons.2 ⟨homissible, hall⟩)⟩
        · cases h
      · rintro ⟨rfl, hitems⟩
        cases hitems with
        | nil hall =>
          obtain ⟨homissible, hall⟩ := List.forall_mem_cons.1 hall
          have hitems : ∃ draft', r.items .closed (index + 1) draft slots [] = .ok draft' :=
            (ih hrest).2 ⟨rfl, .nil hall⟩
          obtain ⟨draft', h⟩ := hitems
          exact ⟨draft', bind_eq_ok.2 ⟨(), rfl, by rwa [if_pos homissible]⟩⟩
    | cons d ds =>
      constructor
      · rintro ⟨draft', h⟩
        obtain ⟨draft₁, hfill, h⟩ := bind_eq_ok.1 h
        obtain ⟨hclosed, hitems⟩ := (ih hrest).1 ⟨draft', h⟩
        exact ⟨hclosed, .cons (hr.uniform slot hslot draft d draft₁ hfill) hitems⟩
      · rintro ⟨rfl, hitems⟩
        cases hitems with
        | cons hhead htail =>
          obtain ⟨draft₁, hfill⟩ := hhead draft
          obtain ⟨draft', h⟩ := (ih hrest).2 ⟨rfl, htail⟩
          exact ⟨draft', bind_eq_ok.2 ⟨draft₁, hfill, h⟩⟩

/-- Which documents a record can be read from. -/
theorem decode_isOk_iff : (∃ draft', r.decode blank d = .ok draft') ↔ r.Accepts d := by
  cases d with
  | object ms ending =>
    constructor
    · rintro ⟨draft', h⟩
      obtain ⟨draft₁, hmembers, h⟩ := bind_eq_ok.1 h
      obtain ⟨u, hclosed, -⟩ := bind_eq_ok.1 h
      obtain rfl := Ending.check_eq_ok.1 hclosed
      obtain ⟨heach, honce, -⟩ := hr.members_isOk_iff.1 ⟨draft₁, hmembers⟩
      exact .object heach honce
    · rintro (⟨heach, honce⟩ | _)
      obtain ⟨draft', h⟩ := hr.members_isOk_iff.2
        ⟨heach, honce, fun _ _ slot hslot _ => hr.blank slot hslot⟩
      exact ⟨draft', bind_eq_ok.2 ⟨draft', h, rfl⟩⟩
  | array ds ending =>
    rw [decode, hr.items_isOk_iff fun _ hslot => hslot]
    constructor
    · rintro ⟨rfl, hitems⟩
      exact .array hitems
    · rintro (_ | ⟨hitems⟩)
      exact ⟨rfl, hitems⟩
  | _ =>
    constructor
    · rintro ⟨draft', h⟩
      exact absurd h (Doc.unwanted_ne_ok _ _ _)
    · intro h
      cases h

end Lawful

/-! ### Changes that leave the meaning of a record alone -/

/-- One change to a record. The members of an object change places, or one with an unknown name comes
in. One that `adds` allows comes in if its name is not there, or one that `drops` allows goes. What
stands under a name of the record, or at its place in an array, changes as `inner` has it. -/
inductive Respells (r : Record σ) (adds drops : String → Doc → Prop)
    (inner : String → Doc → Doc → Prop) : Doc → Doc → Prop
  | permuted {ms ms' : List (Token String × Doc)} {ending : Ending} (perm : ms.Perm ms') :
      r.Respells adds drops inner (.object ms ending) (.object ms' ending)
  | unknown (front back : List (Token String × Doc)) {ending : Ending} {k : Token String}
      {key : String} {v : Doc} (hk : k.read = .ok key) (unknown : key ∉ r.slots.map Slot.name)
      (wellFormed : v.WellFormed) :
      r.Respells adds drops inner (.object (front ++ back) ending)
        (.object (front ++ (k, v) :: back) ending)
  | added (front back : List (Token String × Doc)) {ending : Ending} {k : Token String}
      {key : String} {v : Doc} (hk : k.read = .ok key) (allowed : adds key v)
      (new : key ∉ (keyed (front ++ back)).map Prod.fst) :
      r.Respells adds drops inner (.object (front ++ back) ending)
        (.object (front ++ (k, v) :: back) ending)
  | dropped (front back : List (Token String × Doc)) {ending : Ending} {k : Token String}
      {key : String} {v : Doc} (hk : k.read = .ok key) (allowed : drops key v) :
      r.Respells adds drops inner (.object (front ++ (k, v) :: back) ending)
        (.object (front ++ back) ending)
  | member (front back : List (Token String × Doc)) {ending : Ending} {k : Token String}
      {key : String} {v v' : Doc} (hk : k.read = .ok key) (change : inner key v v') :
      r.Respells adds drops inner (.object (front ++ (k, v) :: back) ending)
        (.object (front ++ (k, v') :: back) ending)
  | item (front back : List Doc) {before after : List (Slot σ)} {slot : Slot σ} {ending : Ending}
      {v v' : Doc} (place : r.slots = before ++ slot :: after) (length : before.length = front.length)
      (change : inner slot.name v v') :
      r.Respells adds drops inner (.array (front ++ v :: back) ending)
        (.array (front ++ v' :: back) ending)

/-- What may come in or change is for a slot of the record, and it fits there. -/
structure Fits (r : Record σ) (adds : String → Doc → Prop) (inner : String → Doc → Doc → Prop) :
    Prop where
  adds : ∀ key v, adds key v → ∃ slot ∈ r.slots, slot.name = key ∧ slot.Takes v
  inner : ∀ key v v', inner key v v' →
    ∃ slot ∈ r.slots, slot.name = key ∧ (slot.Takes v → slot.Takes v')

/-- How what a record has under a name may differ after one change. -/
inductive Varies (adds drops : Doc → Prop) (inner : Doc → Doc → Prop) : Option Doc → Option Doc → Prop
  | same {o : Option Doc} : Varies adds drops inner o o
  | added {v : Doc} (allowed : adds v) : Varies adds drops inner none (some v)
  | dropped {v : Doc} (allowed : drops v) : Varies adds drops inner (some v) none
  | changed {v v' : Doc} (change : inner v v') : Varies adds drops inner (some v) (some v')

end Record

/-! ### Lookup around one entry -/

theorem lookup_eq_none_of_not_mem {l : List (String × Doc)} {name : String}
    (h : name ∉ l.map Prod.fst) : l.lookup name = none := by
  rw [List.lookup_eq_none_iff]
  intro e he
  rw [bne_iff_ne]
  rintro rfl
  exact h (List.mem_map_of_mem he)

theorem lookup_middle {front back : List (String × Doc)} {key : String}
    (h : key ∉ front.map Prod.fst) (v : Doc) : (front ++ (key, v) :: back).lookup key = some v := by
  rw [List.lookup_append, lookup_eq_none_of_not_mem h, OrderedMap.lookup_cons_ite, if_pos rfl]
  rfl

theorem lookup_middle_of_ne {front back : List (String × Doc)} {key name : String} (h : key ≠ name)
    (v : Doc) : (front ++ (key, v) :: back).lookup name = (front ++ back).lookup name := by
  rw [List.lookup_append, List.lookup_append, OrderedMap.lookup_cons_ite, if_neg h.symm]

theorem keyed_append (front back : List (Token String × Doc)) :
    keyed (front ++ back) = keyed front ++ keyed back := List.filterMap_append

theorem mem_keys_keyed {ms : List (Token String × Doc)} {key : String} :
    key ∈ (keyed ms).map Prod.fst ↔ ∃ m ∈ ms, m.1.read = .ok key := by
  simp only [keyed, List.map_filterMap, List.mem_filterMap, Option.map_map, Option.map_eq_some_iff,
    toOption_eq_some, Function.comp_apply, exists_eq_right]

section
variable {front back : List (Token String × Doc)} {k : Token String} {key : String} {v : Doc}
  (hk : k.read = .ok key)
include hk

theorem lookup_keyed_middle (hnew : key ∉ (keyed (front ++ back)).map Prod.fst) :
    (keyed (front ++ (k, v) :: back)).lookup key = some v := by
  rw [keyed_append, List.map_append, List.mem_append, not_or] at hnew
  rw [keyed_append, keyed_cons hk, lookup_middle hnew.1]

theorem lookup_keyed_middle_of_ne {name : String} (h : key ≠ name) :
    (keyed (front ++ (k, v) :: back)).lookup name = (keyed (front ++ back)).lookup name := by
  rw [keyed_append, keyed_append, keyed_cons hk, lookup_middle_of_ne h]

end

namespace Record
variable {r : Record σ}

/-- Where no slot is named twice, the value under the name of a slot is that of the only member with
this name. -/
theorem lookup_keyed_eq_some_iff {ms : List (Token String × Doc)}
    (once : ms.Pairwise fun m m' => ¬ r.SameSlot m m') {slot : Slot σ} (hslot : slot ∈ r.slots)
    {v : Doc} : (keyed ms).lookup slot.name = some v ↔
      ∃ m ∈ ms, m.1.read = .ok slot.name ∧ m.2 = v := by
  induction ms with
  | nil => simp [keyed]
  | cons m ms ih =>
    obtain ⟨k, d⟩ := m
    obtain ⟨hother, honce⟩ := List.pairwise_cons.1 once
    rw [List.exists_mem_cons_iff, ← ih honce]
    cases hk : k.read with
    | error f => simp [keyed, hk, Except.toOption]
    | ok key =>
      rw [keyed_cons hk, OrderedMap.lookup_cons_ite]
      split
      · rename_i hname
        have hnone : (keyed ms).lookup slot.name = none := by
          refine lookup_eq_none_of_not_mem fun hmem => ?_
          obtain ⟨m, hm, hread⟩ := mem_keys_keyed.1 hmem
          exact hother m hm ⟨slot, hslot, by rw [hk, hname], hread⟩
        subst hname
        simp [hnone]
      · rename_i hname
        simp [Ne.symm hname]

namespace Respells
variable {adds drops : String → Doc → Prop} {inner : String → Doc → Doc → Prop} {d d' : Doc}

theorem once_middle {front back : List (Token String × Doc)} {m : Token String × Doc} :
    ((front ++ m :: back).Pairwise fun m m' => ¬ r.SameSlot m m') ↔
      (∀ m' ∈ front ++ back, ¬ r.SameSlot m m') ∧
        (front ++ back).Pairwise fun m m' => ¬ r.SameSlot m m' := by
  rw [List.pairwise_middle fun h h' => h h'.symm, List.pairwise_cons]

theorem each_middle {α : Type} {p : α → Prop} {front back : List α} {a : α} :
    (∀ b ∈ front ++ a :: back, p b) ↔ p a ∧ ∀ b ∈ front ++ back, p b := by
  simp only [List.forall_mem_append, List.forall_mem_cons]
  tauto

theorem takesItems_middle {front back : List Doc} {before after : List (Slot σ)} {slot : Slot σ}
    {v v' : Doc} (length : before.length = front.length) (hv : slot.Takes v → slot.Takes v')
    (h : TakesItems (before ++ slot :: after) (front ++ v :: back)) :
    TakesItems (before ++ slot :: after) (front ++ v' :: back) := by
  induction front generalizing before with
  | nil =>
    obtain rfl := List.length_eq_zero_iff.1 length
    cases h with
    | cons head tail => exact .cons (hv head) tail
  | cons d front ih =>
    cases before with
    | nil => cases length
    | cons slot' before =>
      cases h with
      | cons head tail => exact .cons head (ih (Nat.succ.inj length) tail)

/-- A record is still accepted after a change. -/
theorem accepts (h : r.Respells adds drops inner d d') (hfits : r.Fits adds inner) {blank : σ}
    (hr : r.Lawful blank) (hd : r.Accepts d) : r.Accepts d' := by
  -- a member under the name of a slot is taken if the slot takes its value
  have htaken : ∀ {k : Token String} {key : String} {v : Doc} {slot : Slot σ}, k.read = .ok key →
      slot ∈ r.slots → slot.name = key → slot.Takes v → r.TakesMember (k, v) := by
    rintro k key v slot hk hslot rfl hv
    refine ⟨slot.name, hk, fun slot' hslot' hname => ?_,
      fun hunknown => absurd (List.mem_map_of_mem hslot) hunknown⟩
    rwa [List.inj_on_of_nodup_map hr.names hslot' hslot hname]
  cases h with
  | permuted perm =>
    cases hd with
    | object each once =>
      exact .object (fun m hm => each m (perm.mem_iff.2 hm))
        ((perm.pairwise_iff fun h h' => h h'.symm).1 once)
  | unknown _ _ hk unknown wellFormed =>
    cases hd with
    | object each once =>
      refine .object (each_middle.2 ⟨⟨_, hk, fun slot hslot hname => ?_,
        fun _ => wellFormed.skip_eq_ok⟩, each⟩) (once_middle.2 ⟨fun m _ hsame => ?_, once⟩)
      · exact absurd (hname ▸ List.mem_map_of_mem hslot) unknown
      · obtain ⟨slot, hslot, hname, -⟩ := hsame
        exact unknown (Except.ok.inj (hk.symm.trans hname) ▸ List.mem_map_of_mem hslot)
  | added _ _ hk allowed new =>
    cases hd with
    | object each once =>
      obtain ⟨slot, hslot, hname, hv⟩ := hfits.adds _ _ allowed
      refine .object (each_middle.2 ⟨htaken hk hslot hname hv, each⟩)
        (once_middle.2 ⟨fun m hm hsame => new ?_, once⟩)
      obtain ⟨slot', -, hslot', hm'⟩ := hsame
      exact mem_keys_keyed.2 ⟨m, hm, by rw [hm', ← hslot', hk]⟩
  | dropped _ _ hk allowed =>
    cases hd with
    | object each once => exact .object (each_middle.1 each).2 (once_middle.1 once).2
  | member _ _ hk change =>
    cases hd with
    | object each once =>
      obtain ⟨slot, hslot, hname, hv⟩ := hfits.inner _ _ _ change
      obtain ⟨⟨key, hkey, htakes, -⟩, heach⟩ := each_middle.1 each
      have hkey : slot.name = key := hname.trans (Except.ok.inj (hk.symm.trans hkey))
      -- which slot a member is for does not depend on its value
      obtain ⟨hother, honce⟩ := once_middle.1 once
      exact .object (each_middle.2 ⟨htaken hk hslot hname (hv (htakes slot hslot hkey)), heach⟩)
        (once_middle.2 ⟨hother, honce⟩)
  | item _ _ place length change =>
    cases hd with
    | array items =>
      obtain ⟨slot, hslot, hname, hv⟩ := hfits.inner _ _ _ change
      have hslot : slot = _ := List.inj_on_of_nodup_map hr.names hslot (by simp [place]) hname
      rw [hslot] at hv
      rw [place] at items
      exact .array (place ▸ takesItems_middle length hv items)

/-- A record is still read after a change. -/
theorem decode_isOk (h : r.Respells adds drops inner d d') (hfits : r.Fits adds inner) {blank draft : σ}
    (hr : r.Lawful blank) (hd : r.decode blank d = .ok draft) :
    ∃ draft', r.decode blank d' = .ok draft' :=
  hr.decode_isOk_iff.2 (h.accepts hfits hr (hr.decode_isOk_iff.1 ⟨draft, hd⟩))

/-- The key of a member for a slot stands nowhere else. -/
theorem not_mem_keys_of_once {front back : List (Token String × Doc)} {k : Token String} {v : Doc}
    {slot : Slot σ} (hslot : slot ∈ r.slots) (hk : k.read = .ok slot.name)
    (once : (front ++ (k, v) :: back).Pairwise fun m m' => ¬ r.SameSlot m m') :
    slot.name ∉ (keyed (front ++ back)).map Prod.fst := by
  intro hmem
  obtain ⟨m, hm, hname⟩ := mem_keys_keyed.1 hmem
  exact (once_middle.1 once).1 m hm ⟨slot, hslot, hk, hname⟩

/-- Under the name of a slot a record has after a change what it had before, up to that change. -/
theorem varies (h : r.Respells adds drops inner d d') {blank : σ} (hr : r.Lawful blank)
    (hd : r.Accepts d) {name : String} (hname : name ∈ r.slots.map Slot.name) :
    Varies (adds name) (drops name) (inner name) ((r.entries d).lookup name)
      ((r.entries d').lookup name) := by
  obtain ⟨slot, hslot, rfl⟩ := List.mem_map.1 hname
  cases h with
  | @permuted ms ms' ending perm =>
    cases hd with
    | object each once =>
      have once' := (perm.pairwise_iff fun h h' => h h'.symm).1 once
      have hsame : (keyed ms).lookup slot.name = (keyed ms').lookup slot.name := Option.ext fun v => by
        rw [lookup_keyed_eq_some_iff once hslot, lookup_keyed_eq_some_iff once' hslot]
        simp only [perm.mem_iff]
      change Varies _ _ _ ((keyed ms).lookup slot.name) ((keyed ms').lookup slot.name)
      exact hsame ▸ .same
  | @unknown front back _ _ key _ hk unknown wellFormed =>
    change Varies _ _ _ ((keyed _).lookup slot.name) ((keyed _).lookup slot.name)
    have hname : key ≠ slot.name := fun hname => unknown (hname ▸ List.mem_map_of_mem hslot)
    rw [lookup_keyed_middle_of_ne hk hname]
    exact .same
  | @added front back _ _ key _ hk allowed new =>
    change Varies _ _ _ ((keyed _).lookup slot.name) ((keyed _).lookup slot.name)
    by_cases hname : key = slot.name
    · subst hname
      rw [lookup_eq_none_of_not_mem new, lookup_keyed_middle hk new]
      exact .added allowed
    · rw [lookup_keyed_middle_of_ne hk hname]
      exact .same
  | @dropped front back _ _ key _ hk allowed =>
    change Varies _ _ _ ((keyed _).lookup slot.name) ((keyed _).lookup slot.name)
    by_cases hname : key = slot.name
    · subst hname
      cases hd with
      | object each once =>
        have hnew := not_mem_keys_of_once hslot hk once
        rw [lookup_eq_none_of_not_mem hnew, lookup_keyed_middle hk hnew]
        exact .dropped allowed
    · rw [lookup_keyed_middle_of_ne hk hname]
      exact .same
  | @member front back _ _ key _ _ hk change =>
    change Varies _ _ _ ((keyed _).lookup slot.name) ((keyed _).lookup slot.name)
    by_cases hname : key = slot.name
    · subst hname
      cases hd with
      | object each once =>
        have hnew := not_mem_keys_of_once hslot hk once
        rw [lookup_keyed_middle hk hnew, lookup_keyed_middle hk hnew]
        exact .changed change
    · rw [lookup_keyed_middle_of_ne hk hname, lookup_keyed_middle_of_ne hk hname]
      exact .same
  | @item front back before after slot' _ _ _ place length change =>
    change Varies _ _ _ (List.lookup slot.name (List.zip _ _)) (List.lookup slot.name (List.zip _ _))
    have hnames := hr.names
    rw [place, List.map_append, List.map_cons] at hnames ⊢
    have hlength : (before.map Slot.name).length = front.length := by rw [List.length_map, length]
    rw [List.zip_append hlength, List.zip_append hlength, List.zip_cons_cons, List.zip_cons_cons]
    by_cases hname : slot'.name = slot.name
    · have hbefore : slot'.name ∉ before.map Slot.name := by
        rw [List.nodup_append] at hnames
        exact fun h => hnames.2.2 _ h _ List.mem_cons_self rfl
      have hfront : slot'.name ∉ (((before.map Slot.name).zip front).map Prod.fst) := by
        rwa [List.map_fst_zip (Nat.le_of_eq hlength)]
      rw [← hname, lookup_middle hfront, lookup_middle hfront]
      exact .changed change
    · rw [lookup_middle_of_ne hname, lookup_middle_of_ne hname]
      exact .same

end Respells

/-- What is made of a slot is the same after a change if no change that may come matters to it. -/
theorem Respells.unchanged {adds drops : String → Doc → Prop} {inner : String → Doc → Doc → Prop}
    {d d' : Doc} (h : r.Respells adds drops inner d d') {blank draft draft' : σ} (hr : r.Lawful blank)
    (hd : r.decode blank d = .ok draft) (hd' : r.decode blank d' = .ok draft') {α β : Type}
    {name : String} {get : σ → Option α} {decode : Doc → Except Fault α}
    (hreads : r.Reads name get decode) (hblank : get blank = none) (mean : Option α → β)
    (hadds : ∀ v a, adds name v → decode v = .ok a → mean (some a) = mean none)
    (hdrops : ∀ v a, drops name v → decode v = .ok a → mean (some a) = mean none)
    (hinner : ∀ v v' a a', inner name v v' → decode v = .ok a → decode v' = .ok a' →
      mean (some a') = mean (some a)) :
    mean (get draft') = mean (get draft) := by
  have h := h.varies hr (hr.decode_isOk_iff.1 ⟨draft, hd⟩) hreads.mem
  have hread := hreads.decoded hblank hd
  have hread' := hreads.decoded hblank hd'
  generalize (r.entries d).lookup name = o at h hread
  generalize (r.entries d').lookup name = o' at h hread'
  generalize get draft = a at hread
  generalize get draft' = a' at hread'
  cases h with
  | same =>
    cases hread with
    | none =>
      cases hread'
      rfl
    | some hv =>
      cases hread' with
      | some hv' => rw [Except.ok.inj (hv.symm.trans hv')]
  | added allowed =>
    cases hread
    cases hread' with
    | some hv' => exact hadds _ _ allowed hv'
  | dropped allowed =>
    cases hread'
    cases hread with
    | some hv => exact (hdrops _ _ allowed hv).symm
  | changed change =>
    cases hread with
    | some hv =>
      cases hread' with
      | some hv' => exact hinner _ _ _ _ change hv hv'

end Record
end GraphDecl.Json
