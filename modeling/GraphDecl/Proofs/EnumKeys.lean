import GraphDecl.Proofs.AsciiClusters
import GraphDecl.Proofs.Contents

/-!
# Values of an enum that collide

The key of an enum value is made of the words of its name in upper case, so it does not tell `inProgress`
from `in_progress`. Names that have the same words in upper case always have the same key. A key can be
cut into these words again where every underscore of the name is a cluster of its own
(`splitOn_enumKey`), as it is in ASCII text, and such names have the same key only if their words in
upper case are the same (`enumKey_eq_iff`). Nothing else keeps the values of an enum apart
(`enum_keys_nodup_iff`).
-/

namespace GraphDecl

namespace Unicode

/-! ### Upper case makes no underscore -/

/-- No run of the table leads to an underscore. -/
theorem upperRuns_apart : ∀ r ∈ upperRuns,
    (r.last : Int) + r.shift < 95 ∨ 95 < (r.first : Int) + r.shift := by
  decide +kernel

theorem upperStrings_apart : ∀ e ∈ upperStrings, 95 ∉ e.2 := by decide +kernel

theorem eq_of_ofNat_eq_underscore {n : Nat} (h : Char.ofNat n = '_') : n = 95 := by
  by_cases hvalid : n.isValidChar
  · rw [Char.ofNat, dif_pos hvalid] at h
    exact congrArg Char.toNat h
  · rw [Char.ofNat, dif_neg hvalid] at h
    cases h

theorem map?_ne_underscore {r : CaseRun} (hr : r ∈ upperRuns) (c : Nat) : r.map? c ≠ some 95 := by
  intro h
  rw [CaseRun.map?] at h
  split at h
  · have hmap := Option.some.inj h
    rcases upperRuns_apart r hr with hlast | hfirst <;> omega
  · cases h

theorem toUpper_eq_underscore : ∀ n, n < 128 → (Char.ofNat n).toUpper = '_' → Char.ofNat n = '_' := by
  decide

theorem eq_underscore_of_mem_upper {c : Char} (h : '_' ∈ upper c) : c = '_' := by
  unfold upper at h
  split at h
  · rename_i hc
    have hupper := toUpper_eq_underscore c.toNat hc
    rw [Char.ofNat_toNat] at hupper
    exact hupper (List.mem_singleton.1 h).symm
  · unfold mapCase at h
    split at h
    · rename_i cs hcs
      obtain ⟨n, hn, hchar⟩ := List.mem_map.1 h
      obtain ⟨before, after, htable, -⟩ := List.lookup_eq_some_iff.1 hcs
      have hmem : (c.toNat, cs) ∈ upperStrings := by rw [htable]; simp
      exact absurd (eq_of_ofNat_eq_underscore hchar ▸ hn) (upperStrings_apart _ hmem)
    · split at h
      · rename_i n hn
        obtain ⟨r, hr, hmap⟩ := List.exists_of_findSome?_eq_some hn
        rw [eq_of_ofNat_eq_underscore (List.mem_singleton.1 h).symm] at hmap
        exact absurd hmap (map?_ne_underscore hr _)
      · exact (List.mem_singleton.1 h).symm

end Unicode

/-! ### The words of a key -/

namespace Naming

/-- How the words of a row come from those of the row behind its first cluster. -/
inductive Cut (g : List Char) (rest : List (List Char)) : List (List Char) → Prop
  | parted (hsep : isSeparator g = true) : Cut g rest ([] :: splitClusters rest)
  | ended (hsep : isSeparator g = false) (hends : endsWord g rest = true) :
      Cut g rest (g :: splitClusters rest)
  | joined {w : List Char} {ws : List (List Char)} (hsep : isSeparator g = false)
      (hends : endsWord g rest = false) (hrest : splitClusters rest = w :: ws) :
      Cut g rest ((g ++ w) :: ws)

theorem cut_splitClusters (g : List Char) (rest : List (List Char)) :
    Cut g rest (splitClusters (g :: rest)) := by
  rw [splitClusters]
  split
  · next hsep => exact .parted hsep
  · next hsep =>
    rw [Bool.not_eq_true] at hsep
    split
    · next hends => exact .ended hsep hends
    · next hends =>
      cases hwords : splitClusters rest with
      | nil => exact absurd hwords (splitClusters_ne_nil rest)
      | cons w ws => exact .joined hsep (Bool.eq_false_iff.2 hends) hwords

/-- A character of a word is in a cluster of the row that does not part words. -/
theorem mem_splitClusters {gs : List (List Char)} {w : List Char} (hw : w ∈ splitClusters gs)
    {c : Char} (hc : c ∈ w) : ∃ g ∈ gs, isSeparator g = false ∧ c ∈ g := by
  induction gs generalizing w with
  | nil =>
    rw [splitClusters, List.mem_singleton] at hw
    subst hw
    cases hc
  | cons g rest ih =>
    have hrest : ∀ v ∈ splitClusters rest, c ∈ v → ∃ h ∈ g :: rest, isSeparator h = false ∧ c ∈ h := by
      intro v hv hcv
      obtain ⟨h, hh, hsep, hch⟩ := ih hv hcv
      exact ⟨h, List.mem_cons_of_mem _ hh, hsep, hch⟩
    have hcut := cut_splitClusters g rest
    generalize splitClusters (g :: rest) = ws at hcut hw
    cases hcut with
    | parted =>
      rcases List.mem_cons.1 hw with rfl | hw
      · cases hc
      · exact hrest w hw hc
    | ended hsep =>
      rcases List.mem_cons.1 hw with rfl | hw
      · exact ⟨_, List.mem_cons_self, hsep, hc⟩
      · exact hrest w hw hc
    | @joined v vs hsep _ hwords =>
      rw [hwords] at hrest
      rcases List.mem_cons.1 hw with rfl | hw
      · rcases List.mem_append.1 hc with hc | hc
        · exact ⟨g, List.mem_cons_self, hsep, hc⟩
        · exact hrest v List.mem_cons_self hc
      · exact hrest w (List.mem_cons_of_mem _ hw) hc

/-- The words of a name, each mapped to its full upper case. -/
def keyWords (name : String) : List (List Char) := (words name.toList).map Unicode.upperText

/-- The words of the names are the same when they are mapped to full upper case, whatever parts them.
Names that differ in case can fail this, as `ß` becomes `SS` and `ẞ` stays what it is. -/
def SameWords (a b : String) : Prop := keyWords a = keyWords b

/-- Every underscore of the name is a cluster of its own. -/
def UnderscoresAlone (name : String) : Prop :=
  ∀ g ∈ Unicode.clusters name.toList, '_' ∈ g → g = ['_']

theorem underscoresAlone_of_ascii {name : String} (h : ∀ c ∈ name.toList, c.toNat < 128) :
    UnderscoresAlone name := by
  intro g hg hmem
  rcases Unicode.eq_singleton_or_eq_lineBreak h g hg with ⟨c, rfl⟩ | rfl
  · rw [List.mem_singleton.1 hmem]
  · revert hmem
    decide

theorem toList_enumKey (name : String) : (enumKey name).toList = ['_'].intercalate (keyWords name) := by
  rw [enumKey, String.toList_ofList]
  rfl

theorem enumKey_eq_of_sameWords {a b : String} (h : SameWords a b) : enumKey a = enumKey b := by
  apply String.toList_injective
  rw [toList_enumKey, toList_enumKey, h]

theorem not_mem_keyWords {name : String} (h : UnderscoresAlone name) :
    ∀ w ∈ keyWords name, '_' ∉ w := by
  intro w hw hmem
  obtain ⟨v, hv, rfl⟩ := List.mem_map.1 hw
  obtain ⟨c, hc, hupper⟩ := List.mem_flatMap.1 hmem
  obtain rfl := Unicode.eq_underscore_of_mem_upper hupper
  obtain ⟨g, hg, hsep, hcg⟩ := mem_splitClusters hv hc
  rw [h g hg hcg] at hsep
  cases hsep

/-- The key of such a name can be cut into the words it is made of again. -/
theorem splitOn_enumKey {name : String} (h : UnderscoresAlone name) :
    (enumKey name).toList.splitOn '_' = keyWords name := by
  rw [toList_enumKey]
  refine List.splitOn_intercalate '_' (not_mem_keyWords h) ?_
  rw [keyWords, ne_eq, List.map_eq_nil_iff]
  exact splitClusters_ne_nil _

theorem enumKey_eq_iff {a b : String} (ha : UnderscoresAlone a) (hb : UnderscoresAlone b) :
    enumKey a = enumKey b ↔ SameWords a b := by
  constructor
  · intro h
    rw [SameWords, ← splitOn_enumKey ha, ← splitOn_enumKey hb, h]
  · exact enumKey_eq_of_sameWords

end Naming

/-! ### The keys of an enum -/

/-- No two of the names have the same key. -/
def Naming.KeysApart (names : List String) : Prop :=
  ∀ a ∈ names, ∀ b ∈ names, enumKey a = enumKey b → a = b

/-- No two of the names have the same words in upper case. -/
def Naming.WordsApart (names : List String) : Prop :=
  ∀ a ∈ names, ∀ b ∈ names, SameWords a b → a = b

namespace Naming
variable {names : List String}

theorem KeysApart.words (h : KeysApart names) : WordsApart names :=
  fun a ha b hb hab => h a ha b hb (enumKey_eq_of_sameWords hab)

theorem WordsApart.keys (hnames : ∀ name ∈ names, UnderscoresAlone name) (h : WordsApart names) :
    KeysApart names :=
  fun a ha b hb hab => h a ha b hb ((enumKey_eq_iff (hnames a ha) (hnames b hb)).1 hab)

end Naming

namespace Options
open Naming
variable {o : Options}

theorem keys_enumEntries (values : OrderedMap EnumValue) :
    (values.entries.map fun v => o.generator.enumEntry v.1 v.2).map Prod.fst =
      values.keys.map enumKey := by
  rw [OrderedMap.keys, List.map_map, List.map_map]
  rfl

/-- An enum of a valid schema has values, whose keys are those of the names in its table, in the same
order. The keys are distinct if and only if those of the names are. No two of the names then have the
same words in upper case, and where every underscore stands alone that is enough. -/
theorem enum_keys_nodup_iff {s : Schema} (hv : s.validate.outcome = .ok ()) {model : String} {m : Model}
    (hm : s.models.get? model = some m) {key : String} {f : Field} (hf : m.fields.get? key = some f)
    {values : OrderedMap EnumValue} (htype : f.type = .enumeration values) :
    ∃ t body ps, (o.generator.type model f).outcome = .ok t ∧
      t.node = .construct o.identifiers.enumType [.object body] ∧
      body.lookup "values" = some (.object ps) ∧ ps ≠ [] ∧
      (∀ r, (o.generator.declarations s).outcome = .ok r → ∃ d fields p, r.get? model = some d ∧
        d.node.fields? = some (.object fields) ∧ p ∈ fields ∧ p.1 = f.name ∧
        p.2.property? "type" = some t.node) ∧
      ps.map Prod.fst = values.keys.map enumKey ∧
      ((ps.map Prod.fst).Nodup ↔ KeysApart values.keys) ∧
      ((ps.map Prod.fst).Nodup → WordsApart values.keys) ∧
      ((∀ name ∈ values.keys, UnderscoresAlone name) → WordsApart values.keys →
        (ps.map Prod.fst).Nodup) := by
  have hkeys := keys_enumEntries (o := o) values
  have hnodup : (values.keys.map enumKey).Nodup ↔ KeysApart values.keys :=
    List.nodup_map_iff_inj_on values.nodup_keys
  have htypeOf : o.generator.typeOf f = o.generator.enum f values := by
    rw [Generator.typeOf, htype]
  refine ⟨o.generator.typeOf f, o.enumBody f values, _, ?_, ?_, rfl, ?_, fun r hr => ?_, hkeys, ?_⟩
  · rw [Generator.type_eq, surveyType, htype]
    rfl
  · rw [htypeOf]
    rfl
  · have hsound := s.validate_eq_ok_iff.1 hv model m hm
    have hne := hsound.enums _ (OrderedMap.get?_eq_some_iff.1 hf) values htype
    rw [OrderedMap.isEmpty, List.isEmpty_eq_false_iff] at hne
    exact fun h => hne (List.map_eq_nil_iff.1 h)
  · obtain ⟨-, rfl⟩ := o.generator.declarations_eq_ok.1 hr
    refine ⟨_, o.emitted m, o.fieldProperty f, Generator.get?_result_of_get? _ hm,
      o.fields?_declarationOf m model, ?_, rfl, rfl⟩
    exact List.mem_flatMap.2 ⟨_, OrderedMap.get?_eq_some_iff.1 hf, List.mem_cons_self⟩
  · rw [hkeys, hnodup]
    exact ⟨Iff.rfl, KeysApart.words, WordsApart.keys⟩

/-- A field whose values are named in three styles. -/
def styledState : Field :=
  .enumeration "state" [("inProgress", ⟨.integer 0, none⟩), ("on-hold", ⟨.integer 1, none⟩),
    ("HTTPError2", ⟨.integer 2, none⟩)]

theorem enum_keys_nodup_iff_styledState :
    ∃ t body ps values, (Schema.add .empty (.withField (.new "Job") styledState)).validate.outcome =
        .ok () ∧
      styledState.type = .enumeration values ∧
      (({} : Options).generator.type "Job" styledState).outcome = .ok t ∧
      t.node = .construct "GraphQLEnumType" [.object body] ∧
      body.lookup "values" = some (.object ps) ∧
      ps.map Prod.fst = ["IN_PROGRESS", "ON_HOLD", "HTTP_ERROR_2"] ∧ WordsApart values.keys ∧
      ∀ name ∈ values.keys, UnderscoresAlone name := by
  have hm : (Schema.add .empty (.withField (.new "Job") styledState)).models.get? "Job" = some _ := rfl
  have hf : ((Model.new "Job").withField styledState).fields.get? "state" = some styledState := rfl
  have htype : styledState.type = .enumeration _ := rfl
  obtain ⟨t, body, ps, ht, hnode, hps, -, -, hkeys, -, hwords, -⟩ :=
    enum_keys_nodup_iff (o := {}) rfl hm hf htype
  have hnames : ps.map Prod.fst = ["IN_PROGRESS", "ON_HOLD", "HTTP_ERROR_2"] := by
    rw [hkeys]
    decide
  have hascii : ∀ name ∈ ["inProgress", "on-hold", "HTTPError2"], ∀ c ∈ name.toList, c.toNat < 128 := by
    simp
  exact ⟨t, body, ps, _, rfl, htype, ht, hnode, hps, hnames, hwords (by rw [hnames]; decide),
    fun name hname => underscoresAlone_of_ascii (hascii name hname)⟩

/-- A field with two values whose names differ in their case only. -/
def shoutedStatus : Field :=
  .enumeration "status" [("active", ⟨.integer 1, none⟩), ("ACTIVE", ⟨.integer 2, none⟩)]

/-- Keys are not compared with each other, so in a valid schema an enum can have one twice. -/
theorem shoutedStatus_repeats_key :
    ∃ s r d p body ps, s = Schema.add .empty (.withField (.new "User") shoutedStatus) ∧
      s.validate.outcome = .ok () ∧ (({} : Options).generator.declarations s).outcome = .ok r ∧
      r.get? "User" = some d ∧ d.node.fields? = some (.object [p]) ∧ p.1 = "status" ∧
      p.2.property? "type" = some (.construct "GraphQLEnumType" [.object body]) ∧
      body.lookup "values" = some (.object ps) ∧ ps.map Prod.fst = ["ACTIVE", "ACTIVE"] ∧
      ¬ (ps.map Prod.fst).Nodup := by
  refine ⟨_, _, _, _, _, _, rfl, rfl, rfl, rfl, rfl, rfl, rfl, rfl, ?_, ?_⟩
  · decide
  · decide

end Options

end GraphDecl
