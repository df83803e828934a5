import GraphDecl.Unicode.Cluster
import Mathlib.Tactic.SplitIfs

/-!
# Clusters of ASCII text

In ASCII text every character is a cluster of its own, but for a line break of two characters
(`eq_singleton_or_eq_lineBreak`).
-/

namespace GraphDecl.Unicode
variable {c d : Char}

theorem pictographic_of_ascii (h : c.toNat < 128) : pictographic.contains c = false := by
  have hc : c.toNat < 0xA9 := by omega
  exact CodePointSet.oddUpTo_of_lt _ hc

theorem conjunctConsonant_of_ascii (h : c.toNat < 128) : conjunctConsonant.contains c = false := by
  have hc : c.toNat < 0x915 := by omega
  exact CodePointSet.oddUpTo_of_lt _ hc

theorem joining_of_ascii (h : c.toNat < 128) :
    joining c = if c = '\r' then .carriageReturn else if c = '\n' then .lineFeed
      else if c.toNat < 32 ∨ c.toNat = 127 then .control else .other := by
  have hreturn : c = '\r' ↔ c.toNat = 13 := (Char.toNat_inj (c := c) (d := '\r')).symm
  have hfeed : c = '\n' ↔ c.toNat = 10 := (Char.toNat_inj (c := c) (d := '\n')).symm
  rw [joining, if_pos h]
  simp [hreturn, hfeed]

/-- An ASCII character leaves nothing to wait for. -/
theorem start_of_ascii (h : c.toNat < 128) : Tail.start c = ⟨joining c, false, .none, .none⟩ := by
  have hflag : joining c ≠ .flag := by
    rw [joining_of_ascii h]
    split_ifs <;> simp
  have hpictograph : Link.none.pictographStep c (joining c) = .none := by
    unfold Link.pictographStep
    rw [pictographic_of_ascii h]
    cases joining c <;> rfl
  have hconjunct : Link.none.conjunctStep c (joining c) = .none := by
    rw [Link.conjunctStep, conjunctConsonant_of_ascii h]
    rfl
  simp [Tail.start, Tail.push, hpictograph, hconjunct, hflag]

theorem start_push_of_ascii (hc : c.toNat < 128) (d : Char) :
    (Tail.start c).push d = Tail.start d := by
  rw [start_of_ascii hc]
  rfl

theorem start_joins_iff (hc : c.toNat < 128) (hd : d.toNat < 128) :
    (Tail.start c).joins d = true ↔ c = '\r' ∧ d = '\n' := by
  rw [start_of_ascii hc, Tail.joins, joining_of_ascii hc, joining_of_ascii hd]
  by_cases hr : c = '\r'
  · subst hr
    split_ifs <;> simp_all
  · split_ifs <;> simp_all

/-- What is added to a cluster that an ASCII character opens, and the clusters behind it. -/
theorem clustersAfter_start (hc : c.toNat < 128) {cs : List Char} (hcs : ∀ d ∈ cs, d.toNat < 128) :
    ((clustersAfter (Tail.start c) cs).1 = [] ∨
      c = '\r' ∧ (clustersAfter (Tail.start c) cs).1 = ['\n']) ∧
    ∀ g ∈ (clustersAfter (Tail.start c) cs).2, (∃ d, g = [d]) ∨ g = ['\r', '\n'] := by
  induction cs generalizing c with
  | nil => simp [clustersAfter]
  | cons d cs ih =>
    obtain ⟨hd, hcs⟩ := List.forall_mem_cons.1 hcs
    obtain ⟨hopen, hrest⟩ := ih hd hcs
    unfold clustersAfter
    split
    · rename_i hjoins
      obtain ⟨rfl, rfl⟩ := (start_joins_iff hc hd).1 hjoins
      rw [start_push_of_ascii hc]
      refine ⟨.inr ⟨rfl, ?_⟩, hrest⟩
      rcases hopen with hopen | ⟨hd, -⟩
      · exact congrArg ('\n' :: ·) hopen
      · exact absurd hd (by decide)
    · refine ⟨.inl rfl, List.forall_mem_cons.2 ⟨?_, hrest⟩⟩
      rcases hopen with hopen | ⟨rfl, hopen⟩
      · exact .inl ⟨d, by rw [hopen]⟩
      · exact .inr (by rw [hopen])

theorem eq_singleton_or_eq_lineBreak {cs : List Char} (hcs : ∀ d ∈ cs, d.toNat < 128) :
    ∀ g ∈ clusters cs, (∃ d, g = [d]) ∨ g = ['\r', '\n'] := by
  cases cs with
  | nil => simp [clusters]
  | cons c cs =>
    obtain ⟨hc, hcs⟩ := List.forall_mem_cons.1 hcs
    obtain ⟨hopen, hrest⟩ := clustersAfter_start hc hcs
    refine List.forall_mem_cons.2 ⟨?_, hrest⟩
    rcases hopen with hopen | ⟨rfl, hopen⟩
    · exact .inl ⟨c, by rw [hopen]⟩
    · exact .inr (by rw [hopen])

end GraphDecl.Unicode
