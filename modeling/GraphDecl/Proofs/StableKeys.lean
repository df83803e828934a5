import GraphDecl.Proofs.EnumKeys
import Mathlib.Data.List.Chain

/-!
# Keys of an enum as names

The words of ASCII text may be cut character by character, as a line break of two characters parts no
words (`words_of_ascii`). In upper case a word of an ASCII name is not cut any further (`Settled`), so a
key has the words of the name that it was made of (`keyWords_enumKey`) and is its own key. An enum whose
values are named by keys keeps the names (`enum_keys_stable`).
-/

namespace GraphDecl

namespace Unicode

def IsAscii (cs : List Char) : Prop := ∀ c ∈ cs, c.toNat < 128

theorem forall_ascii {p : Char → Prop} (h : ∀ n, n < 128 → p (Char.ofNat n)) {c : Char}
    (hc : c.toNat < 128) : p c := by
  rw [← Char.ofNat_toNat c]
  exact h c.toNat hc

section
variable {c : Char} (hc : c.toNat < 128)
include hc

theorem toUpper_lt : c.toUpper.toNat < 128 :=
  forall_ascii (p := fun c => c.toUpper.toNat < 128) (by decide) hc

theorem toUpper_toUpper : c.toUpper.toUpper = c.toUpper :=
  forall_ascii (p := fun c => c.toUpper.toUpper = c.toUpper) (by decide) hc

theorem isLower_toUpper : c.toUpper.isLower = false :=
  forall_ascii (p := fun c => c.toUpper.isLower = false) (by decide) hc

end

namespace IsAscii
variable {cs : List Char} (h : IsAscii cs)
include h

theorem upperText_eq : upperText cs = cs.map Char.toUpper := upperText_of_ascii h

theorem upperText : IsAscii (upperText cs) := by
  intro d hd
  rw [h.upperText_eq] at hd
  obtain ⟨c, hc, rfl⟩ := List.mem_map.1 hd
  exact toUpper_lt (h c hc)

theorem upperText_upperText : Unicode.upperText (Unicode.upperText cs) = Unicode.upperText cs := by
  rw [h.upperText.upperText_eq, h.upperText_eq, List.map_map]
  exact List.map_congr_left fun c hc => toUpper_toUpper (h c hc)

end IsAscii
end Unicode

namespace Naming
open Unicode

/-! ### Kinds of ASCII characters -/

/-- The kind of a character in upper case. -/
def Kind.raised : Kind → Kind
  | .lower => .upper
  | k => k

theorem Kind.parts_of_raised {k k' : Kind} (h : k.parts k' = false) :
    k.raised.parts k'.raised = false := by
  cases k <;> cases k' <;> first | rfl | exact h

section
variable {c : Char} (hc : c.toNat < 128)
include hc

theorem kind_toUpper : kind [c.toUpper] = (kind [c]).raised :=
  forall_ascii (p := fun c => kind [c.toUpper] = (kind [c]).raised) (by decide) hc

theorem isSeparator_toUpper : isSeparator [c.toUpper] = isSeparator [c] :=
  forall_ascii (p := fun c => isSeparator [c.toUpper] = isSeparator [c]) (by decide) hc

theorem kind_ne_lower_iff : kind [c] ≠ .lower ↔ c.isLower = false :=
  forall_ascii (p := fun c => kind [c] ≠ .lower ↔ c.isLower = false) (by decide) hc

end

/-! ### Cutting character by character -/

/-- Every character as a cluster. -/
def singles (cs : List Char) : List (List Char) := cs.map fun c => [c]

/-- A word goes on before its neighbour if these two do not part and no small letter follows a capital
there. -/
theorem endsWord_eq_false {g h : List Char} {rest : List (List Char)}
    (hparts : (kind g).parts (kind h) = false)
    (hlower : kind h = .upper → ∀ i ∈ rest.head?, kind i ≠ .lower) :
    endsWord g (h :: rest) = false := by
  match rest with
  | [] => exact hparts
  | i :: _ =>
    by_cases hh : kind h = .upper
    · simp [endsWord, hparts, hlower hh i rfl]
    · simp [endsWord, hparts, hh]

theorem parts_eq_false {g h : List Char} {rest : List (List Char)}
    (hends : endsWord g (h :: rest) = false) : (kind g).parts (kind h) = false := by
  cases rest with
  | nil => exact hends
  | cons => exact (Bool.or_eq_false_iff.1 hends).1

theorem endsWord_of_other {g : List Char} (hg : kind g = .other) (rest : List (List Char)) :
    endsWord g rest = false := by
  match rest with
  | [] => rfl
  | [_] => simp [endsWord, hg, Kind.parts]
  | _ :: _ :: _ => simp [endsWord, hg, Kind.parts]

theorem endsWord_before_other {g h : List Char} {rest : List (List Char)} (hh : kind h = .other) :
    endsWord g (h :: rest) = false := by
  refine endsWord_eq_false ?_ fun hupper => by rw [hh] at hupper; cases hupper
  rw [hh]
  cases kind g <;> rfl

/-- A character of its own or a line break of two. -/
def IsUnit (g : List Char) : Prop := (∃ c, g = [c]) ∨ g = ['\r', '\n']

theorem kind_lineBreak : kind ['\r', '\n'] = .other := by decide

theorem kind_carriageReturn : kind ['\r'] = .other := by decide

theorem kind_lineFeed : kind ['\n'] = .other := by decide

theorem endsWord_flatten {rest : List (List Char)} (hunits : ∀ g ∈ rest, IsUnit g) (g : List Char) :
    endsWord g (singles rest.flatten) = endsWord g rest := by
  match rest with
  | [] => rfl
  | h :: rest =>
    obtain ⟨hh, hrest⟩ := List.forall_mem_cons.1 hunits
    rcases hh with ⟨c, rfl⟩ | rfl
    · match rest with
      | [] => rfl
      | i :: _ =>
        rcases (List.forall_mem_cons.1 hrest).1 with ⟨d, rfl⟩ | rfl
        · rfl
        · simp [singles, endsWord, kind_lineBreak, kind_carriageReturn]
    · rw [endsWord_before_other kind_lineBreak]
      exact endsWord_before_other kind_carriageReturn

theorem splitClusters_cons {g : List Char} {rest : List (List Char)} (hsep : isSeparator g = false)
    (hends : endsWord g rest = false) :
    splitClusters (g :: rest) = prepend g (splitClusters rest) := by
  simp [splitClusters, hsep, hends]

/-- A line break parts no words, so it may be cut in two. -/
theorem splitClusters_flatten {gs : List (List Char)} (hunits : ∀ g ∈ gs, IsUnit g) :
    splitClusters (singles gs.flatten) = splitClusters gs := by
  induction gs with
  | nil => rfl
  | cons g gs ih =>
    obtain ⟨hg, hgs⟩ := List.forall_mem_cons.1 hunits
    have hsplit := ih hgs
    have hends := endsWord_flatten hgs
    rcases hg with ⟨c, rfl⟩ | rfl
    · have hcons : singles ([c] :: gs).flatten = [c] :: singles gs.flatten := rfl
      rw [hcons, splitClusters, splitClusters, hsplit, hends]
    · have hcons : singles (['\r', '\n'] :: gs).flatten =
          ['\r'] :: ['\n'] :: singles gs.flatten := rfl
      rw [hcons, splitClusters_cons (by decide) (endsWord_of_other kind_carriageReturn _),
        splitClusters_cons (by decide) (endsWord_of_other kind_lineFeed _),
        splitClusters_cons (by decide) (endsWord_of_other kind_lineBreak _), hsplit]
      cases splitClusters gs <;> rfl

theorem words_of_ascii {cs : List Char} (h : IsAscii cs) : words cs = splitClusters (singles cs) := by
  rw [words, ← splitClusters_flatten (eq_singleton_or_eq_lineBreak h), clusters_flatten]

/-! ### Words that are not cut again -/

/-- A word stays whole, whatever stands before and behind it: it has no separator, no small letter, and
no letter beside a digit. -/
structure Settled (w : List Char) : Prop where
  apart : ∀ c ∈ w, isSeparator [c] = false
  raised : ∀ c ∈ w, kind [c] ≠ .lower
  joined : w.IsChain fun c d => (kind [c]).parts (kind [d]) = false

/-- A word that is settled is the first word of a text where an underscore or nothing follows it. -/
theorem splitClusters_append {w : List Char} (h : Settled w) {rest ws : List (List Char)}
    (hrest : splitClusters rest = [] :: ws) (hother : ∀ g ∈ rest.head?, kind g = .other) :
    splitClusters (singles w ++ rest) = w :: ws := by
  induction w with
  | nil => exact hrest
  | cons c w ih =>
    obtain ⟨hc, hw⟩ := List.forall_mem_cons.1 h.apart
    obtain ⟨-, hraised⟩ := List.forall_mem_cons.1 h.raised
    have hends : endsWord [c] (singles w ++ rest) = false := by
      cases w with
      | nil =>
        cases rest with
        | nil => rfl
        | cons g rest => exact endsWord_before_other (hother g rfl)
      | cons d w =>
        refine endsWord_eq_false (List.isChain_cons_cons.1 h.joined).1 fun _ i hi => ?_
        cases w with
        | nil =>
          rw [hother i hi]
          exact Kind.noConfusion
        | cons e w =>
          cases hi
          exact hraised e (List.mem_cons_of_mem d List.mem_cons_self)
    have hsplit := ih ⟨hw, hraised, h.joined.of_cons⟩
    change splitClusters ([c] :: (singles w ++ rest)) = _
    rw [splitClusters_cons hc hends, hsplit]
    rfl

theorem splitClusters_intercalate {ws : List (List Char)} (hne : ws ≠ []) (h : ∀ w ∈ ws, Settled w) :
    splitClusters (singles (['_'].intercalate ws)) = ws := by
  induction ws with
  | nil => exact absurd rfl hne
  | cons w ws ih =>
    obtain ⟨hw, hws⟩ := List.forall_mem_cons.1 h
    cases ws with
    | nil =>
      rw [List.intercalate_singleton, ← List.append_nil (singles w)]
      exact splitClusters_append hw rfl nofun
    | cons w' ws =>
      have hkey : singles (['_'].intercalate (w :: w' :: ws)) =
          singles w ++ ['_'] :: singles (['_'].intercalate (w' :: ws)) := by
        simp [singles, List.intercalate_cons_cons]
      rw [hkey]
      refine splitClusters_append hw ?_ fun g hg => ?_
      · rw [splitClusters, if_pos (by decide), ih (List.cons_ne_nil _ _) hws]
      · cases hg
        decide

/-- The first word begins where the text does, unless it is empty. -/
theorem head?_of_splitClusters {cs v : List Char} {d : Char} {vs : List (List Char)}
    (h : splitClusters (singles cs) = (d :: v) :: vs) : cs.head? = some d := by
  cases cs with
  | nil => cases h
  | cons c cs =>
    have hcut : Cut [c] (singles cs) ((d :: v) :: vs) := h ▸ cut_splitClusters [c] (singles cs)
    cases hcut with
    | ended => rfl
    | joined => rfl

/-- Neighbours in a word are not parted by their kinds. -/
theorem isChain_of_mem_splitClusters {cs w : List Char} (hw : w ∈ splitClusters (singles cs)) :
    w.IsChain fun c d => (kind [c]).parts (kind [d]) = false := by
  induction cs generalizing w with
  | nil =>
    rw [List.mem_singleton.1 hw]
    exact .nil
  | cons c cs ih =>
    have hcut := cut_splitClusters [c] (singles cs)
    change w ∈ splitClusters ([c] :: singles cs) at hw
    generalize splitClusters ([c] :: singles cs) = ws at hcut hw
    cases hcut with
    | parted =>
      rcases List.mem_cons.1 hw with rfl | hw
      · exact .nil
      · exact ih hw
    | ended =>
      rcases List.mem_cons.1 hw with rfl | hw
      · exact .singleton c
      · exact ih hw
    | @joined v vs _ hends hwords =>
      rw [hwords] at ih
      rcases List.mem_cons.1 hw with rfl | hw
      · refine List.isChain_cons.2 ⟨fun d hd => ?_, ih List.mem_cons_self⟩
        obtain ⟨v, rfl⟩ := List.head?_eq_some_iff.1 hd
        obtain ⟨cs, rfl⟩ := List.head?_eq_some_iff.1 (head?_of_splitClusters hwords)
        exact parts_eq_false hends
      · exact ih (List.mem_cons_of_mem v hw)

/-! ### The words of a key -/

/-- A word of an ASCII name is settled in upper case. -/
theorem settled_upperText {cs w : List Char} (h : IsAscii cs) (hw : w ∈ words cs) :
    IsAscii w ∧ Settled (upperText w) := by
  have hascii : IsAscii w := by
    intro c hc
    obtain ⟨g, hg, -, hcg⟩ := mem_splitClusters hw hc
    refine h c ?_
    rw [← clusters_flatten cs]
    exact List.mem_flatten.2 ⟨g, hg, hcg⟩
  rw [words_of_ascii h] at hw
  have hapart : ∀ c ∈ w, isSeparator [c] = false := by
    intro c hc
    obtain ⟨g, hg, hsep, hcg⟩ := mem_splitClusters hw hc
    obtain ⟨d, -, rfl⟩ := List.mem_map.1 hg
    rwa [List.mem_singleton.1 hcg]
  refine ⟨hascii, ?_⟩
  rw [hascii.upperText_eq]
  refine ⟨fun u hu => ?_, fun u hu => ?_, ?_⟩
  · obtain ⟨c, hc, rfl⟩ := List.mem_map.1 hu
    rw [isSeparator_toUpper (hascii c hc)]
    exact hapart c hc
  · obtain ⟨c, hc, rfl⟩ := List.mem_map.1 hu
    exact (kind_ne_lower_iff (toUpper_lt (hascii c hc))).2 (isLower_toUpper (hascii c hc))
  · rw [List.isChain_map]
    refine (isChain_of_mem_splitClusters hw).imp_of_mem_imp fun c d hc hd hparts => ?_
    rw [kind_toUpper (hascii c hc), kind_toUpper (hascii d hd)]
    exact Kind.parts_of_raised hparts

theorem forall_mem_intercalate {p : Char → Prop} {ws : List (List Char)} (hp : p '_')
    (hws : ∀ w ∈ ws, ∀ c ∈ w, p c) : ∀ c ∈ ['_'].intercalate ws, p c := by
  induction ws with
  | nil => exact List.forall_mem_nil _
  | cons w ws ih =>
    obtain ⟨hw, hws⟩ := List.forall_mem_cons.1 hws
    cases ws with
    | nil => rwa [List.intercalate_singleton]
    | cons w' ws =>
      rw [List.intercalate_cons_cons, List.forall_mem_append, List.forall_mem_append]
      exact ⟨⟨hw, List.forall_mem_singleton.2 hp⟩, ih hws⟩

theorem forall_mem_enumKey {p : Char → Prop} {name : String} (hp : p '_')
    (hws : ∀ w ∈ keyWords name, ∀ c ∈ w, p c) : ∀ c ∈ (enumKey name).toList, p c := by
  rw [toList_enumKey]
  exact forall_mem_intercalate hp hws

section
variable {name : String} (h : IsAscii name.toList)
include h

theorem settled_keyWords : ∀ w ∈ keyWords name, IsAscii w ∧ Settled w := by
  intro w hw
  obtain ⟨v, hv, rfl⟩ := List.mem_map.1 hw
  obtain ⟨hascii, hsettled⟩ := settled_upperText h hv
  exact ⟨hascii.upperText, hsettled⟩

theorem isAscii_enumKey : IsAscii (enumKey name).toList :=
  forall_mem_enumKey (by decide) fun w hw => (settled_keyWords h w hw).1

theorem words_enumKey : words (enumKey name).toList = keyWords name := by
  rw [words_of_ascii (isAscii_enumKey h), toList_enumKey]
  refine splitClusters_intercalate ?_ fun w hw => (settled_keyWords h w hw).2
  rw [keyWords, ne_eq, List.map_eq_nil_iff]
  exact splitClusters_ne_nil _

theorem keyWords_enumKey : keyWords (enumKey name) = keyWords name := by
  rw [keyWords, words_enumKey h, keyWords, List.map_map]
  refine List.map_congr_left fun w hw => ?_
  exact (settled_upperText h hw).1.upperText_upperText

theorem enumKey_enumKey : enumKey (enumKey name) = enumKey name :=
  enumKey_eq_of_sameWords (keyWords_enumKey h)

theorem enumKey_raised : ∀ c ∈ (enumKey name).toList, c.isLower = false ∧ c ≠ '-' ∧ c ≠ ' ' := by
  refine forall_mem_enumKey (by decide) fun w hw c hc => ?_
  obtain ⟨hascii, hsettled⟩ := settled_keyWords h w hw
  refine ⟨(kind_ne_lower_iff (hascii c hc)).1 (hsettled.raised c hc), ?_, ?_⟩
  · rintro rfl
    exact absurd (hsettled.apart _ hc) (by decide)
  · rintro rfl
    exact absurd (hsettled.apart _ hc) (by decide)

end

/-- The name is the key of an ASCII name. -/
def IsKey (key : String) : Prop := ∃ name, IsAscii name.toList ∧ enumKey name = key

theorem IsKey.enumKey_eq {key : String} (h : IsKey key) : enumKey key = key := by
  obtain ⟨name, hname, rfl⟩ := h
  exact enumKey_enumKey hname

end Naming

/-! ### The enums of fields -/

/-- The keys of the values that a new enum is given. -/
def Expr.enumKeys? : Expr → Option (List String)
  | .construct _ [.object body] =>
    match body.lookup "values" with
    | some (.object ps) => some (ps.map Prod.fst)
    | _ => none
  | _ => none

namespace Options
open Naming Unicode

/-- The enum of a field has for its values the keys of their names. -/
theorem enumKeys?_type (o : Options) (model : String) {f : Field} {values : OrderedMap EnumValue}
    (htype : f.type = .enumeration values) :
    ∃ t, (o.generator.type model f).outcome = .ok t ∧
      t.node.enumKeys? = some (values.keys.map enumKey) := by
  refine ⟨o.generator.enum f values, ?_, ?_⟩
  · rw [Generator.type, htype]
    rfl
  · rw [← keys_enumEntries (o := o)]
    rfl

/-- The keys that the names of values give in ASCII text have no small letter, hyphen or space, and they
are their own keys. So an enum whose values are named by such keys is generated with these names. -/
theorem enum_keys_stable (o : Options) (model : String) {f : Field} {values : OrderedMap EnumValue}
    (htype : f.type = .enumeration values) (hnames : ∀ name ∈ values.keys, IsAscii name.toList) :
    ∃ t keys, (o.generator.type model f).outcome = .ok t ∧ t.node.enumKeys? = some keys ∧
      keys = values.keys.map enumKey ∧
      (∀ key ∈ keys, (∀ c ∈ key.toList, c.isLower = false ∧ c ≠ '-' ∧ c ≠ ' ') ∧
        enumKey key = key) ∧
      ∀ (o' : Options) (model' : String) (f' : Field) (values' : OrderedMap EnumValue),
        f'.type = .enumeration values' → (∀ name ∈ values'.keys, IsKey name) →
          ∃ t', (o'.generator.type model' f').outcome = .ok t' ∧
            t'.node.enumKeys? = some values'.keys := by
  obtain ⟨t, ht, hkeys⟩ := o.enumKeys?_type model htype
  refine ⟨t, _, ht, hkeys, rfl, fun key hkey => ?_, fun o' model' f' values' htype' hnames' => ?_⟩
  · obtain ⟨name, hname, rfl⟩ := List.mem_map.1 hkey
    exact ⟨enumKey_raised (hnames name hname), enumKey_enumKey (hnames name hname)⟩
  · obtain ⟨t', ht', hkeys'⟩ := o'.enumKeys?_type model' htype'
    have hsame : values'.keys.map enumKey = values'.keys :=
      (List.map_congr_left fun name hname => (hnames' name hname).enumKey_eq).trans (List.map_id _)
    exact ⟨t', ht', by rw [hkeys', hsame]⟩

/-- A field whose values have names with an acronym, separators and a line break. -/
def mixedCode : Field :=
  .enumeration "code" [("HTTPError2", ⟨.integer 0, none⟩), ("on-hold  x", ⟨.integer 1, none⟩),
    ("_a\r\nB", ⟨.integer 2, none⟩)]

/-- A field whose values are named by the keys of that one. -/
def keyedCode : Field :=
  .enumeration "code" [("_A\r\nB", ⟨.integer 2, none⟩), ("HTTP_ERROR_2", ⟨.integer 0, none⟩)]

theorem enum_keys_stable_mixedCode :
    ∃ t t', (({} : Options).generator.type "Job" mixedCode).outcome = .ok t ∧
      t.node.enumKeys? = some ["HTTP_ERROR_2", "ON_HOLD__X", "_A\r\nB"] ∧
      (({} : Options).generator.type "Job" keyedCode).outcome = .ok t' ∧
      t'.node.enumKeys? = some ["_A\r\nB", "HTTP_ERROR_2"] := by
  have htype : mixedCode.type = .enumeration _ := rfl
  have htype' : keyedCode.type = .enumeration _ := rfl
  have hnames : ∀ name ∈ ["HTTPError2", "on-hold  x", "_a\r\nB"], IsAscii name.toList := by
    simp [IsAscii]
  obtain ⟨t, keys, ht, hkeys, rfl, -, hagain⟩ := enum_keys_stable {} "Job" htype hnames
  have hkeyed : ∀ name ∈ ["_A\r\nB", "HTTP_ERROR_2"], IsKey name := by
    have hbreak : IsKey "_A\r\nB" := ⟨"_a\r\nB", hnames _ (by simp), by decide⟩
    have hacronym : IsKey "HTTP_ERROR_2" := ⟨"HTTPError2", hnames _ (by simp), by decide⟩
    simp [hbreak, hacronym]
  obtain ⟨t', ht', hkeys'⟩ := hagain {} "Job" keyedCode _ htype' hkeyed
  have hwritten : ["HTTPError2", "on-hold  x", "_a\r\nB"].map enumKey =
      ["HTTP_ERROR_2", "ON_HOLD__X", "_A\r\nB"] := by decide
  exact ⟨t, t', ht, hkeys.trans (congrArg some hwritten), ht', hkeys'⟩

end Options
end GraphDecl
