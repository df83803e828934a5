/-!
# Maps in insertion order

`OrderedMap α` maps string keys to values and remembers the order in which the keys first came in.
Inserting under a key that is already there replaces the value and keeps the place, so the keys are
never repeated; that invariant is part of the type. `OrderedMap.agree` compares two maps without
regard to order.
-/

namespace GraphDecl

/-- Keys with their values, in the order of first insertion. -/
structure OrderedMap (α : Type) where
  entries : List (String × α)
  nodup : (entries.map Prod.fst).Nodup
deriving DecidableEq

namespace OrderedMap
variable {α β : Type}

@[ext] theorem ext {m m' : OrderedMap α} (h : m.entries = m'.entries) : m = m' := by
  cases m; cases m'; cases h; rfl

/-- Writes `v` at the place of `k`, or at the end if `k` is not there. -/
def put (k : String) (v : α) : List (String × α) → List (String × α)
  | [] => [(k, v)]
  | e :: rest => if e.1 = k then (k, v) :: rest else e :: put k v rest

@[simp] theorem put_nil (k : String) (v : α) : put k v [] = [(k, v)] := rfl

theorem map_fst_put (k : String) (v : α) (l : List (String × α)) :
    (put k v l).map Prod.fst =
      if k ∈ l.map Prod.fst then l.map Prod.fst else l.map Prod.fst ++ [k] := by
  induction l with
  | nil => simp
  | cons e rest ih =>
    by_cases h : e.1 = k
    · simp [put, h]
    · have h' : ¬ k = e.1 := fun hk => h hk.symm
      simp only [put, h, ↓reduceIte, List.map_cons, ih, List.mem_cons, h', false_or]
      split <;> simp

theorem nodup_put (k : String) (v : α) {l : List (String × α)} (h : (l.map Prod.fst).Nodup) :
    ((put k v l).map Prod.fst).Nodup := by
  rw [map_fst_put]
  split
  · exact h
  · rename_i hk
    rw [List.nodup_append]
    refine ⟨h, by simp, fun a ha b hb => ?_⟩
    rw [List.mem_singleton] at hb
    subst hb
    exact fun hab => hk (hab ▸ ha)

theorem lookup_cons_ite (k : String) (e : String × α) (l : List (String × α)) :
    (e :: l).lookup k = if k = e.1 then some e.2 else l.lookup k := by
  rw [List.lookup_cons]
  by_cases h : k = e.1
  · simp [h]
  · have : (k == e.1) = false := by simpa using h
    simp [h, this]

theorem lookup_put (k k' : String) (v : α) (l : List (String × α)) :
    (put k v l).lookup k' = if k' = k then some v else l.lookup k' := by
  induction l with
  | nil => simp [lookup_cons_ite]
  | cons e rest ih =>
    by_cases h : e.1 = k
    · by_cases hk : k' = k <;> simp [put, h, lookup_cons_ite, hk]
    · by_cases hk : k' = e.1
      · have : ¬ k' = k := fun hkk => h (hk ▸ hkk)
        simp [put, h, lookup_cons_ite, hk]
      · simp [put, h, lookup_cons_ite, hk, ih]

def empty : OrderedMap α := ⟨[], by simp⟩

instance : Inhabited (OrderedMap α) := ⟨empty⟩

/-- Adds `k` at the end, or replaces its value in place. -/
def insert (m : OrderedMap α) (k : String) (v : α) : OrderedMap α :=
  ⟨put k v m.entries, nodup_put k v m.nodup⟩

/-- The map of a list of entries read from left to right: of a repeated key, the first place and
the last value. -/
def ofList (l : List (String × α)) : OrderedMap α :=
  l.foldl (fun m e => m.insert e.1 e.2) empty

def keys (m : OrderedMap α) : List String := m.entries.map Prod.fst

def get? (m : OrderedMap α) (k : String) : Option α := m.entries.lookup k

def contains (m : OrderedMap α) (k : String) : Bool := (m.get? k).isSome

def size (m : OrderedMap α) : Nat := m.entries.length

def isEmpty (m : OrderedMap α) : Bool := m.entries.isEmpty

/-- Applies `f` to every value and leaves the keys alone. -/
def mapValues (f : α → β) (m : OrderedMap α) : OrderedMap β where
  entries := m.entries.map fun e => (e.1, f e.2)
  nodup := by simpa [List.map_map, Function.comp_def] using m.nodup

/-- The same keys, in any order, and under each key values that `same` accepts. -/
def agree (same : α → β → Bool) (m : OrderedMap α) (m' : OrderedMap β) : Bool :=
  m.size == m'.size && m.entries.all fun e => (m'.get? e.1).any (same e.2)

@[simp] theorem keys_empty : (empty : OrderedMap α).keys = [] := rfl

@[simp] theorem get?_empty (k : String) : (empty : OrderedMap α).get? k = none := rfl

theorem keys_insert (m : OrderedMap α) (k : String) (v : α) :
    (m.insert k v).keys = if k ∈ m.keys then m.keys else m.keys ++ [k] :=
  map_fst_put k v m.entries

theorem get?_insert (m : OrderedMap α) (k k' : String) (v : α) :
    (m.insert k v).get? k' = if k' = k then some v else m.get? k' :=
  lookup_put k k' v m.entries

theorem nodup_keys (m : OrderedMap α) : m.keys.Nodup := m.nodup

@[simp] theorem keys_mapValues (f : α → β) (m : OrderedMap α) : (m.mapValues f).keys = m.keys := by
  simp [keys, mapValues, List.map_map, Function.comp_def]

theorem put_of_not_mem (k : String) (v : α) {l : List (String × α)} (h : k ∉ l.map Prod.fst) :
    put k v l = l ++ [(k, v)] := by
  induction l with
  | nil => rfl
  | cons e rest ih =>
    simp only [List.map_cons, List.mem_cons, not_or] at h
    have he : ¬ e.1 = k := fun hk => h.1 hk.symm
    simp [put, he, ih h.2]

theorem entries_foldl_insert (l : List (String × α)) (m : OrderedMap α)
    (h : ((m.entries ++ l).map Prod.fst).Nodup) :
    (l.foldl (fun m e => m.insert e.1 e.2) m).entries = m.entries ++ l := by
  induction l generalizing m with
  | nil => simp
  | cons e rest ih =>
    have hk : e.1 ∉ m.entries.map Prod.fst := by
      intro hmem
      rw [List.map_append, List.nodup_append] at h
      exact h.2.2 _ hmem _ (by simp) rfl
    have hput : (m.insert e.1 e.2).entries = m.entries ++ [e] := put_of_not_mem e.1 e.2 hk
    rw [List.foldl_cons, ih, hput]
    · simp
    · rw [hput]; simpa using h

/-- Without repeated keys the map holds the list as it is. -/
theorem entries_ofList {l : List (String × α)} (h : (l.map Prod.fst).Nodup) :
    (ofList l).entries = l := by
  have := entries_foldl_insert l (empty : OrderedMap α) (by simpa [empty] using h)
  simpa [ofList, empty] using this

end OrderedMap
end GraphDecl
