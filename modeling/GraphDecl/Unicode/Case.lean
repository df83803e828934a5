import GraphDecl.Unicode.CaseTable

/-!
# Upper and lower case

`upper` and `lower` give the full case mapping of a character: a string, as `ß` has the upper case
`SS`. Text is mapped character by character.
-/

namespace GraphDecl.Unicode

/-- The mapping of a table of strings and a table of runs; a character in neither maps to itself. -/
def mapCase (strings : List (Nat × List Nat)) (runs : List CaseRun) (c : Char) : List Char :=
  match strings.lookup c.toNat with
  | some cs => cs.map Char.ofNat
  | none =>
    match runs.findSome? (·.map? c.toNat) with
    | some m => [Char.ofNat m]
    | none => [c]

def upper (c : Char) : List Char :=
  if c.toNat < 128 then [c.toUpper] else mapCase upperStrings upperRuns c

def lower (c : Char) : List Char :=
  if c.toNat < 128 then [c.toLower] else mapCase lowerStrings lowerRuns c

def upperText (cs : List Char) : List Char := cs.flatMap upper

def lowerText (cs : List Char) : List Char := cs.flatMap lower

theorem upper_of_ascii {c : Char} (h : c.toNat < 128) : upper c = [c.toUpper] := by
  simp [upper, h]

theorem lower_of_ascii {c : Char} (h : c.toNat < 128) : lower c = [c.toLower] := by
  simp [lower, h]

@[simp] theorem upperText_nil : upperText [] = [] := rfl

@[simp] theorem upperText_cons (c : Char) (cs : List Char) :
    upperText (c :: cs) = upper c ++ upperText cs := rfl

@[simp] theorem upperText_append (a b : List Char) :
    upperText (a ++ b) = upperText a ++ upperText b := by
  simp [upperText]

theorem upperText_of_ascii {cs : List Char} (h : ∀ c ∈ cs, c.toNat < 128) :
    upperText cs = cs.map Char.toUpper := by
  induction cs with
  | nil => rfl
  | cons c cs ih =>
    rw [upperText_cons, upper_of_ascii (h c (by simp)), ih fun d hd => h d (by simp [hd])]
    rfl

end GraphDecl.Unicode
