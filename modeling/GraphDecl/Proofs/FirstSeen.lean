import GraphDecl.Imports
import Mathlib.Data.List.Induction
import Mathlib.Data.List.Nodup

/-!
# Import sets in first-seen order

The names of an import set are the names that were ever put into it, each at the place of its first
occurrence: `names_foldl_add` for single names, `names_merge` and `names_sequence` for whole sets.
`List.eraseDups` keeps first occurrences; a set of names already reduced may stand for the names it
was reduced from (`eraseDups_append_left`, `eraseDups_append_right`).
-/

namespace GraphDecl

namespace FirstSeen
variable {α β : Type} [DecidableEq α]

theorem eraseDups_concat (l : List α) (a : α) :
    (l ++ [a]).eraseDups = if a ∈ l then l.eraseDups else l.eraseDups ++ [a] := by
  rw [List.eraseDups_append]
  by_cases h : a ∈ l
  · simp [List.removeAll, h]
  · simp [List.removeAll, h, List.eraseDups_cons]

theorem nodup_eraseDups (l : List α) : l.eraseDups.Nodup := by
  induction l using List.reverseRecOn with
  | nil => simp
  | append_singleton l a ih =>
    rw [eraseDups_concat]
    split
    · exact ih
    · rename_i ha
      refine List.nodup_append.2 ⟨ih, by simp, fun x hx y hy hxy => ha ?_⟩
      rw [← List.mem_singleton.1 hy, ← hxy]
      exact List.mem_eraseDups.1 hx

theorem eraseDups_of_nodup {l : List α} (h : l.Nodup) : l.eraseDups = l := by
  induction l using List.reverseRecOn with
  | nil => rfl
  | append_singleton l a ih =>
    obtain ⟨hl, -, hne⟩ := List.nodup_append.1 h
    rw [eraseDups_concat, if_neg fun ha => hne a ha a (by simp) rfl, ih hl]

theorem eraseDups_append_right (l t : List α) : (l ++ t.eraseDups).eraseDups = (l ++ t).eraseDups := by
  induction t using List.reverseRecOn with
  | nil => rfl
  | append_singleton t a ih =>
    rw [eraseDups_concat, ← List.append_assoc, eraseDups_concat]
    by_cases ht : a ∈ t
    · rw [if_pos ht, if_pos (List.mem_append_right l ht), ih]
    · rw [if_neg ht, ← List.append_assoc, eraseDups_concat, ih]
      simp only [List.mem_append, List.mem_eraseDups]

theorem eraseDups_append_left (l t : List α) : (l.eraseDups ++ t).eraseDups = (l ++ t).eraseDups := by
  induction t using List.reverseRecOn with
  | nil => simpa using eraseDups_of_nodup (nodup_eraseDups l)
  | append_singleton t a ih =>
    rw [← List.append_assoc, ← List.append_assoc, eraseDups_concat, eraseDups_concat, ih]
    simp only [List.mem_append, List.mem_eraseDups]

/-- Of many lists one after the other, each may be reduced on its own. -/
theorem eraseDups_flatMap {f g : β → List α} {l : List β} (h : ∀ b ∈ l, f b = (g b).eraseDups) :
    (l.flatMap f).eraseDups = (l.flatMap g).eraseDups := by
  induction l with
  | nil => rfl
  | cons b l ih =>
    obtain ⟨hb, hl⟩ := List.forall_mem_cons.1 h
    rw [List.flatMap_cons, List.flatMap_cons, hb, eraseDups_append_left, ← eraseDups_append_right,
      ih hl, eraseDups_append_right]

end FirstSeen

namespace Imports
open FirstSeen

theorem names_eq_eraseDups (s : Imports) : s.names = s.names.eraseDups :=
  (eraseDups_of_nodup s.nodup).symm

theorem names_add_eq_eraseDups (s : Imports) (name : String) :
    (s.add name).names = (s.names ++ [name]).eraseDups := by
  rw [names_add, eraseDups_concat, ← names_eq_eraseDups]

theorem names_foldl_add (s : Imports) (l : List String) :
    (l.foldl add s).names = (s.names ++ l).eraseDups := by
  induction l generalizing s with
  | nil => simpa using names_eq_eraseDups s
  | cons a l ih => rw [List.foldl_cons, ih, names_add_eq_eraseDups, eraseDups_append_left]; simp

theorem names_merge (s t : Imports) : (s.merge t).names = (s.names ++ t.names).eraseDups :=
  names_foldl_add s t.names

theorem names_foldl_merge {α : Type} (f : α → Imports) (s : Imports) (l : List α) :
    (l.foldl (fun s a => s.merge (f a)) s).names =
      (s.names ++ l.flatMap fun a => (f a).names).eraseDups := by
  induction l generalizing s with
  | nil => simpa using names_eq_eraseDups s
  | cons a l ih =>
    rw [List.foldl_cons, ih, names_merge, eraseDups_append_left, List.append_assoc, List.flatMap_cons]

end Imports

namespace Fragment
open FirstSeen
variable {α β : Type}

/-- The fragment imports what `uses` finds in its node, in the same order. -/
def Exact (uses : α → List String) (x : Fragment α) : Prop :=
  x.imports.names = (uses x.node).eraseDups

namespace Exact
variable {uses : α → List String} {uses' : β → List String}

theorem of {a : α} (h : uses a = []) : (Fragment.of a).Exact uses := by
  rw [Exact, show uses (Fragment.of a).node = [] from h]; rfl

theorem map {x : Fragment α} (hx : x.Exact uses) {f : α → β} (hf : uses' (f x.node) = uses x.node) :
    (x.map f).Exact uses' := by
  rw [Exact, show uses' (x.map f).node = uses x.node from hf]; exact hx

theorem map_withImport {x : Fragment α} (hx : x.Exact uses) {f : α → β} {name : String}
    (hf : uses' (f x.node) = uses x.node ++ [name]) :
    ((x.map f).withImport name).Exact uses' := by
  rw [Exact, show uses' ((x.map f).withImport name).node = uses x.node ++ [name] from hf,
    ← eraseDups_append_left, ← hx]
  exact x.imports.names_add_eq_eraseDups name

theorem of_withImport {a : α} {name : String} (h : uses a = [name]) :
    ((Fragment.of a).withImport name).Exact uses := by
  rw [Exact, show uses ((Fragment.of a).withImport name).node = [name] from h]
  exact Imports.names_add_eq_eraseDups .empty name

theorem sequence {xs : List (Fragment α)} (h : ∀ x ∈ xs, x.Exact uses) :
    (Fragment.sequence xs).Exact (List.flatMap uses) := by
  have hnames : (Fragment.sequence xs).imports.names =
      (xs.flatMap fun x => x.imports.names).eraseDups := Imports.names_foldl_merge _ .empty xs
  rw [Exact, hnames, eraseDups_flatMap h, show (Fragment.sequence xs).node = xs.map node from rfl,
    List.flatMap_map]

end Exact
end Fragment
end GraphDecl
