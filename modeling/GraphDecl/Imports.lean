/-!
# Imports

The names that a declaration needs from elsewhere: a set that remembers the order in which its
members first came in. A fragment is a piece of a declaration with the names it needs.
-/

namespace GraphDecl

structure Imports where
  names : List String
  nodup : names.Nodup
deriving DecidableEq

namespace Imports

@[ext] theorem ext {s t : Imports} (h : s.names = t.names) : s = t := by
  cases s; cases t; cases h; rfl

def empty : Imports := ⟨[], List.nodup_nil⟩

def contains (s : Imports) (name : String) : Bool := s.names.contains name

def size (s : Imports) : Nat := s.names.length

def isEmpty (s : Imports) : Bool := s.names.isEmpty

/-- Puts a new name at the end; a name that is there already keeps its place. -/
def add (s : Imports) (name : String) : Imports :=
  if h : name ∈ s.names then s
  else ⟨s.names ++ [name], by
    rw [List.nodup_append]
    refine ⟨s.nodup, by simp, fun a ha b hb => ?_⟩
    rw [List.mem_singleton] at hb
    subst hb
    exact fun hab => h (hab ▸ ha)⟩

/-- Adds a name and says whether it was new. -/
def insert (s : Imports) (name : String) : Bool × Imports := (!s.contains name, s.add name)

/-- Adds the names of `t` in order. -/
def merge (s t : Imports) : Imports := t.names.foldl add s

def ofList (names : List String) : Imports := names.foldl add empty

/-- The names, with an empty set in their place. -/
def drain (s : Imports) : List String × Imports := (s.names, empty)

/-- The same names, in any order. -/
def same (s t : Imports) : Bool := s.size == t.size && s.names.all t.contains

@[simp] theorem names_empty : empty.names = [] := rfl

theorem contains_iff (s : Imports) (name : String) : s.contains name = true ↔ name ∈ s.names := by
  simp [contains]

theorem names_add (s : Imports) (name : String) :
    (s.add name).names = if name ∈ s.names then s.names else s.names ++ [name] := by
  unfold add
  split <;> rfl

theorem mem_names_add (s : Imports) (name other : String) :
    other ∈ (s.add name).names ↔ other ∈ s.names ∨ other = name := by
  rw [names_add]
  split
  · constructor
    · exact .inl
    · rintro (h | rfl)
      · exact h
      · assumption
  · simp

end Imports

/-- A node with the names it needs. -/
structure Fragment (α : Type) where
  node : α
  imports : Imports

namespace Fragment
variable {α β : Type}

/-- A node that needs nothing. -/
def of (node : α) : Fragment α := ⟨node, .empty⟩

def withImport (f : Fragment α) (name : String) : Fragment α := ⟨f.node, f.imports.add name⟩

def map (g : α → β) (f : Fragment α) : Fragment β := ⟨g f.node, f.imports⟩

/-- The nodes of a list, with the names of all in order. -/
def sequence (fs : List (Fragment α)) : Fragment (List α) :=
  ⟨fs.map Fragment.node, fs.foldl (fun s f => s.merge f.imports) .empty⟩

end Fragment
end GraphDecl
