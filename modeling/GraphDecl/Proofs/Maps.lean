import GraphDecl.OrderedMap
import Mathlib.Data.List.Nodup

/-!
# Entries of ordered maps

Looking up is membership among the entries, since no key is repeated. `mapEntries` applies a function
of key and value to every entry.
-/

namespace GraphDecl
namespace OrderedMap
variable {α β : Type}

theorem lookup_eq_some_iff {l : List (String × α)} (h : (l.map Prod.fst).Nodup) {k : String} {v : α} :
    l.lookup k = some v ↔ (k, v) ∈ l := by
  induction l with
  | nil => simp
  | cons e l ih =>
    rw [List.map_cons, List.nodup_cons] at h
    rw [lookup_cons_ite, List.mem_cons]
    split
    · rename_i hk
      subst hk
      constructor
      · intro hv
        exact .inl (Prod.ext rfl (Option.some.inj hv).symm)
      · rintro (hv | hv)
        · rw [← hv]
        · exact absurd (List.mem_map_of_mem hv) h.1
    · rename_i hk
      rw [ih h.2]
      exact ⟨.inr, fun hv => hv.resolve_left fun he => hk (congrArg Prod.fst he)⟩

theorem get?_eq_some_iff {m : OrderedMap α} {k : String} {v : α} :
    m.get? k = some v ↔ (k, v) ∈ m.entries :=
  lookup_eq_some_iff m.nodup

theorem contains_iff (m : OrderedMap α) (k : String) : m.contains k = true ↔ k ∈ m.keys := by
  rw [contains, Option.isSome_iff_exists, keys, List.mem_map]
  simp only [get?_eq_some_iff]
  constructor
  · rintro ⟨v, hv⟩
    exact ⟨(k, v), hv, rfl⟩
  · rintro ⟨e, he, rfl⟩
    exact ⟨e.2, he⟩

theorem length_keys (m : OrderedMap α) : m.keys.length = m.size := List.length_map _

/-- Applies `f` to every key with its value and leaves the keys alone. -/
def mapEntries (f : String → α → β) (m : OrderedMap α) : OrderedMap β where
  entries := m.entries.map fun e => (e.1, f e.1 e.2)
  nodup := by simpa [List.map_map, Function.comp_def] using m.nodup

@[simp] theorem keys_mapEntries (f : String → α → β) (m : OrderedMap α) :
    (m.mapEntries f).keys = m.keys := by
  simp [keys, mapEntries, List.map_map, Function.comp_def]

theorem get?_mapEntries (f : String → α → β) (m : OrderedMap α) (k : String) :
    (m.mapEntries f).get? k = (m.get? k).map (f k) := by
  simp only [get?, mapEntries]
  induction m.entries with
  | nil => rfl
  | cons e l ih =>
    rw [List.map_cons, lookup_cons_ite, lookup_cons_ite]
    split
    · rename_i hk
      rw [hk, Option.map_some]
    · exact ih

theorem get?_mapEntries_eq_some {f : String → α → β} {m : OrderedMap α} {k : String} {w : β} :
    (m.mapEntries f).get? k = some w ↔ ∃ v, m.get? k = some v ∧ f k v = w := by
  rw [get?_mapEntries, Option.map_eq_some_iff]

theorem ofList_map_entries (f : String → α → β) (m : OrderedMap α) :
    ofList (m.entries.map fun e => (e.1, f e.1 e.2)) = m.mapEntries f :=
  ext (entries_ofList (m.mapEntries f).nodup)

theorem mapValues_mapEntries {γ : Type} (g : β → γ) (f : String → α → β) (m : OrderedMap α) :
    (m.mapEntries f).mapValues g = m.mapEntries fun k v => g (f k v) := by
  ext1
  simp [mapValues, mapEntries, List.map_map, Function.comp_def]

end OrderedMap
end GraphDecl
