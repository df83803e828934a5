import GraphDecl.Unicode.Case
import GraphDecl.Unicode.Cluster

/-!
# Words in a name

A name such as `HTTPServer2_client` is read as a row of words. Words are parted by an underscore, a
hyphen or a space, which vanish, and where the case or the kind of the characters changes: before an
upper-case character behind a lower-case one, between a letter and a digit, and before the last of
several upper-case characters if a lower-case one follows it. A character here is a grapheme
cluster.
-/

namespace GraphDecl.Naming

inductive Kind
  | upper
  | lower
  | digit
  | other
deriving DecidableEq

/-- The kind of a cluster. It has case only if its two cases differ, and it is a digit only if it
consists of ASCII digits. -/
def kind (g : List Char) : Kind :=
  let up := Unicode.upperText g
  let low := Unicode.lowerText g
  if up ≠ low ∧ g = up then .upper
  else if up ≠ low ∧ g = low then .lower
  else if !g.isEmpty && g.all Char.isDigit then .digit
  else .other

def isSeparator (g : List Char) : Bool := g == ['_'] || g == ['-'] || g == [' ']

/-- Whether neighbours of these kinds belong to different words. -/
def Kind.parts : Kind → Kind → Bool
  | .lower, .upper | .lower, .digit | .upper, .digit | .digit, .lower | .digit, .upper => true
  | _, _ => false

/-- Whether a word ends with the cluster `g`, which `rest` follows. -/
def endsWord (g : List Char) (rest : List (List Char)) : Bool :=
  match rest with
  | [] => false
  | [h] => (kind g).parts (kind h)
  | h :: i :: _ =>
    (kind g).parts (kind h) ||
      (kind g == .upper && kind h == .upper && kind i == .lower)

/-- Puts a cluster in front of the first word. -/
def prepend (g : List Char) : List (List Char) → List (List Char)
  | [] => [g]
  | w :: ws => (g ++ w) :: ws

/-- The words of a row of clusters, at least one; a word between two separators is empty. -/
def splitClusters : List (List Char) → List (List Char)
  | [] => [[]]
  | g :: rest =>
    if isSeparator g then [] :: splitClusters rest
    else if endsWord g rest then g :: splitClusters rest
    else prepend g (splitClusters rest)

/-- The words of a name. -/
def words (name : List Char) : List (List Char) := splitClusters (Unicode.clusters name)

theorem prepend_ne_nil (g : List Char) (ws : List (List Char)) : prepend g ws ≠ [] := by
  cases ws <;> simp [prepend]

theorem splitClusters_ne_nil (gs : List (List Char)) : splitClusters gs ≠ [] := by
  cases gs with
  | nil => simp [splitClusters]
  | cons g rest =>
    unfold splitClusters
    split
    · simp
    · split
      · simp
      · exact prepend_ne_nil _ _

end GraphDecl.Naming
