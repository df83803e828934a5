import GraphDecl.Unicode.ClusterTable

/-!
# Extended grapheme clusters

`clusters` cuts text into the units that a reader takes for one character each: a base with its
marks, a flag, a family joined from pictographs, a line break. The decision whether a character
joins the cluster before it needs only a little of what that cluster holds, which `Tail` records.
-/

namespace GraphDecl.Unicode

/-- How a character behaves where clusters meet. -/
inductive Joining
  | carriageReturn | lineFeed | control | extend | joiner | flag | prepended | spacing
  | leading | vowel | trailing | leadingVowel | syllable | other
deriving DecidableEq

def isBetween (first last c : Nat) : Bool := first ≤ c && c ≤ last

/-- Precomposed syllables without a trailing consonant are 28 apart. -/
def joiningOfSyllable (c : Nat) : Joining :=
  if (c - 0xAC00) % 28 = 0 then .leadingVowel else .syllable

/-- The vowels are those of Korean and the vowel signs of Kirat Rai, which merge as theirs do. -/
def joining (c : Char) : Joining :=
  let n := c.toNat
  if n < 128 then
    if n = 13 then .carriageReturn
    else if n = 10 then .lineFeed
    else if n < 32 || n = 127 then .control
    else .other
  else if n = 0x200D then .joiner
  else if graphemeExtend.contains c || emojiModifier.contains c then .extend
  else if isBetween 0x1F1E6 0x1F1FF n then .flag
  else if isBetween 0x1100 0x115F n || isBetween 0xA960 0xA97C n then .leading
  else if isBetween 0x1160 0x11A7 n || isBetween 0xD7B0 0xD7C6 n ||
      n = 0x16D63 || isBetween 0x16D67 0x16D6A n then .vowel
  else if isBetween 0x11A8 0x11FF n || isBetween 0xD7CB 0xD7FB n then .trailing
  else if isBetween 0xAC00 0xD7A3 n then joiningOfSyllable n
  else if spacingMark.contains c then .spacing
  else if prepended.contains c then .prepended
  else if control.contains c then .control
  else .other

/-- How far the end of a cluster has come towards a pattern of two partners and a link. -/
inductive Link
  | none | first | linked
deriving DecidableEq

/-- What the end of a cluster decides about the next character: the behaviour of its last character,
whether it ends with an unpaired flag letter, and the state of a pictograph and of a conjunct. -/
structure Tail where
  last : Joining
  halfFlag : Bool
  pictograph : Link
  conjunct : Link

/-- A pictograph waits for a joiner through the marks that extend it. -/
def Link.pictographStep (l : Link) (c : Char) (j : Joining) : Link :=
  if pictographic.contains c then .first
  else match l, j with
    | .first, .extend => .first
    | .first, .joiner => .linked
    | _, _ => .none

/-- A consonant waits for a linking sign among the marks that extend it. -/
def Link.conjunctStep (l : Link) (c : Char) (j : Joining) : Link :=
  if conjunctConsonant.contains c then .first
  else if l = .none then .none
  else if conjunctLinker.contains c then .linked
  else if (j = .extend && c.toNat ≠ 0x200C) || j = .joiner then l
  else .none

/-- The tail after one more character of the same cluster. -/
def Tail.push (t : Tail) (c : Char) : Tail :=
  let j := joining c
  ⟨j, j = .flag && !t.halfFlag, t.pictograph.pictographStep c j, t.conjunct.conjunctStep c j⟩

/-- The tail of a cluster of one character. -/
def Tail.start (c : Char) : Tail := (⟨.other, false, .none, .none⟩ : Tail).push c

/-- Whether `c` stays in the cluster that ends with `t`. -/
def Tail.joins (t : Tail) (c : Char) : Bool :=
  match t.last, joining c with
  | .carriageReturn, .lineFeed => true
  | .carriageReturn, _ | .lineFeed, _ | .control, _ => false
  | _, .carriageReturn | _, .lineFeed | _, .control => false
  | _, .extend | _, .joiner | _, .spacing => true
  | .prepended, _ => true
  | .leading, .leading | .leading, .vowel | .leading, .leadingVowel | .leading, .syllable => true
  | .leadingVowel, .vowel | .vowel, .vowel => true
  | .leadingVowel, .trailing | .vowel, .trailing => true
  | .syllable, .trailing | .trailing, .trailing => true
  | .flag, .flag => t.halfFlag
  | _, _ =>
    (t.pictograph == .linked && pictographic.contains c) ||
      (t.conjunct == .linked && conjunctConsonant.contains c)

/-- What `cs` adds to the cluster that ends with `t`, and the clusters after it. -/
def clustersAfter (t : Tail) : List Char → List Char × List (List Char)
  | [] => ([], [])
  | c :: cs =>
    if t.joins c then
      let r := clustersAfter (t.push c) cs
      (c :: r.1, r.2)
    else
      let r := clustersAfter (Tail.start c) cs
      ([], (c :: r.1) :: r.2)

def clusters : List Char → List (List Char)
  | [] => []
  | c :: cs =>
    let r := clustersAfter (Tail.start c) cs
    (c :: r.1) :: r.2

theorem clustersAfter_flatten (t : Tail) (cs : List Char) :
    (clustersAfter t cs).1 ++ (clustersAfter t cs).2.flatten = cs := by
  induction cs generalizing t with
  | nil => rfl
  | cons c cs ih =>
    unfold clustersAfter
    split <;> simp [ih]

/-- Cutting loses nothing. -/
theorem clusters_flatten (cs : List Char) : (clusters cs).flatten = cs := by
  cases cs with
  | nil => rfl
  | cons c cs => simp [clusters, clustersAfter_flatten]

end GraphDecl.Unicode
