import GraphDecl.Proofs.FirstSeen
import Mathlib.Data.List.Perm.Subperm

/-!
# Import sets under every history

Whatever is done to the imports of a fragment, they are the names recorded since the last reset, each
at the place where it first came in (`names_run`), and every way to look at them shows that list
(`Imports.Lists`). Merging is putting in the other names one by one. It is associative, the empty set
and the set itself add nothing, and only the order tells which of two sets was merged into the other.
-/

namespace GraphDecl
open FirstSeen

namespace Imports

/-! ### Merging -/

theorem mem_names_merge {s t : Imports} {name : String} :
    name ∈ (s.merge t).names ↔ name ∈ s.names ∨ name ∈ t.names := by
  rw [names_merge, List.mem_eraseDups, List.mem_append]

theorem merge_assoc (s t u : Imports) : (s.merge t).merge u = s.merge (t.merge u) := by
  ext1
  have hleft : ((s.merge t).merge u).names = (s.names ++ t.names ++ u.names).eraseDups := by
    rw [names_merge, names_merge, eraseDups_append_left]
  have hright : (s.merge (t.merge u)).names = (s.names ++ (t.names ++ u.names)).eraseDups := by
    rw [names_merge, names_merge, eraseDups_append_right]
  rw [hleft, hright, List.append_assoc]

theorem empty_merge (s : Imports) : empty.merge s = s := by
  ext1
  rw [names_merge, names_empty, List.nil_append, ← names_eq_eraseDups]

/-- Names that are all there already change nothing. -/
theorem merge_of_subset {s t : Imports} (h : ∀ name ∈ t.names, name ∈ s.names) :
    s.merge t = s := by
  ext1
  have hnone : t.names.removeAll s.names = [] := by
    rw [List.removeAll, List.filter_eq_nil_iff]
    intro name hname
    simpa using h name hname
  rw [names_merge, List.eraseDups_append, hnone, List.eraseDups_nil, List.append_nil,
    ← names_eq_eraseDups]

theorem same_iff_perm {s t : Imports} : s.same t = true ↔ s.names.Perm t.names := by
  rw [same, Bool.and_eq_true, beq_iff_eq, List.all_eq_true]
  constructor
  · rintro ⟨hsize, hall⟩
    have hsub : s.names ⊆ t.names := fun name hname => (t.contains_iff name).1 (hall name hname)
    exact (List.subperm_of_subset s.nodup hsub).perm_of_length_le (Nat.le_of_eq hsize.symm)
  · intro hperm
    refine ⟨hperm.length_eq, fun name hname => ?_⟩
    exact (t.contains_iff name).2 (hperm.mem_iff.1 hname)

theorem same_merge_comm (s t : Imports) : (s.merge t).same (t.merge s) = true := by
  refine same_iff_perm.2 ((List.perm_ext_iff_of_nodup (nodup _) (nodup _)).2 fun name => ?_)
  rw [mem_names_merge, mem_names_merge, or_comm]

structure MergeLaws (s t u : Imports) : Prop where
  assoc : (s.merge t).merge u = s.merge (t.merge u)
  empty_left : empty.merge s = s
  empty_right : s.merge empty = s
  idempotent : s.merge s = s
  one_by_one : s.merge t = t.names.foldl (fun r name => (r.insert name).2) s
  comm : (s.merge t).same (t.merge s) = true

theorem mergeLaws (s t u : Imports) : MergeLaws s t u where
  assoc := merge_assoc s t u
  empty_left := empty_merge s
  empty_right := rfl
  idempotent := merge_of_subset fun _ h => h
  one_by_one := rfl
  comm := same_merge_comm s t

/-! ### Looking at a set -/

/-- Every way to look at the set shows this list. -/
structure Lists (s : Imports) (l : List String) : Prop where
  names : s.names = l
  nodup : l.Nodup
  contains : ∀ name, s.contains name = true ↔ name ∈ l
  size : s.size = l.length
  isEmpty : s.isEmpty = true ↔ l = []
  /-- Putting in a name says whether it was missing. -/
  insert : ∀ name, (s.insert name).1 = true ↔ name ∉ l
  drain : s.drain.1 = l

theorem lists_names (s : Imports) : s.Lists s.names where
  names := rfl
  nodup := s.nodup
  contains := s.contains_iff
  size := rfl
  isEmpty := List.isEmpty_iff
  insert name := by rw [insert, Bool.not_eq_true', ← Bool.not_eq_true, contains_iff]
  drain := rfl

end Imports

/-! ### Histories -/

namespace Fragment

/-- What can be done to the imports of a fragment. -/
inductive Step
  | insert (name : String)
  | withImport (name : String)
  | merge (other : Imports)
  /-- A set made of a list of names takes the place of the set. -/
  | ofList (names : List String)
  | drain

namespace Step

def apply {α : Type} (f : Fragment α) : Step → Fragment α
  | .insert name => ⟨f.node, (f.imports.insert name).2⟩
  | .withImport name => f.withImport name
  | .merge other => ⟨f.node, f.imports.merge other⟩
  | .ofList names => ⟨f.node, .ofList names⟩
  | .drain => ⟨f.node, f.imports.drain.2⟩

/-- The names that the step records. -/
def names : Step → List String
  | .insert name | .withImport name => [name]
  | .merge other => other.names
  | .ofList names => names
  | .drain => []

/-- The step does away with all names before. -/
def resets : Step → Bool
  | .ofList _ | .drain => true
  | .insert _ | .withImport _ | .merge _ => false

def record (l : List String) (step : Step) : List String :=
  (if step.resets then [] else l) ++ step.names

end Step

/-- The names recorded since the last reset, with their repeats. -/
def recorded (steps : List Step) : List String := steps.foldl Step.record []

/-- The fragment of a node after the steps. -/
def run {α : Type} (node : α) (steps : List Step) : Fragment α := steps.foldl Step.apply (of node)

variable {α : Type}

theorem names_apply {f : Fragment α} {l : List String} (h : f.imports.names = l.eraseDups)
    (step : Step) : (step.apply f).imports.names = (step.record l).eraseDups := by
  have hadd : ∀ name, (f.imports.add name).names = (l ++ [name]).eraseDups := by
    intro name
    rw [Imports.names_add_eq_eraseDups, h, eraseDups_append_left]
  cases step with
  | insert name => exact hadd name
  | withImport name => exact hadd name
  | merge other =>
    show (f.imports.merge other).names = (l ++ other.names).eraseDups
    rw [Imports.names_merge, h, eraseDups_append_left]
  | ofList names => exact Imports.names_foldl_add .empty names
  | drain => rfl

theorem node_apply (f : Fragment α) (step : Step) : (step.apply f).node = f.node := by
  cases step <;> rfl

theorem run_concat (node : α) (steps : List Step) (step : Step) :
    run node (steps ++ [step]) = step.apply (run node steps) := by
  rw [run, List.foldl_append]
  rfl

theorem names_run (node : α) (steps : List Step) :
    (run node steps).imports.names = (recorded steps).eraseDups := by
  induction steps using List.reverseRecOn with
  | nil => rfl
  | append_singleton steps step ih =>
    rw [run_concat, names_apply ih, recorded, recorded, List.foldl_append]
    rfl

example :
    (run () [.insert "A", .drain, .insert "B", .merge (.ofList ["A", "B"])]).imports.names =
      ["B", "A"] := by decide

theorem node_run (node : α) (steps : List Step) : (run node steps).node = node := by
  induction steps using List.reverseRecOn with
  | nil => rfl
  | append_singleton steps step ih => rw [run_concat, node_apply, ih]

/-- After any steps the set lists the names recorded since the last reset, in the order in which they
first came in, and the node is as it was. Sets merge by the laws of ordered sets. -/
theorem ordered_under_histories (node : α) (steps : List Step) :
    (run node steps).node = node ∧
      (run node steps).imports.Lists (recorded steps).eraseDups ∧
      ∀ s t u, Imports.MergeLaws s t u := by
  refine ⟨node_run node steps, ?_, Imports.mergeLaws⟩
  rw [← names_run node steps]
  exact Imports.lists_names _

end Fragment
end GraphDecl
