import GraphDecl.Proofs.Maps
import Mathlib.Data.List.Forall2
import Mathlib.Data.List.Perm.Basic
import Mathlib.Data.List.Perm.Subperm

/-!
# Maps that agree hold the same entries in another order

`Rearranged R l l'` says that `l'` is `l` in some order with each element replaced by one that `R`
relates to it. Two maps that agree have rearranged entries (`rearranged_of_agree`), so what is made of
the entries one by one is rearranged too, and what only asks whether all or some of them have a
property does not tell the maps apart.
-/

namespace GraphDecl

/-- `l'` is `l` in some order, with each element replaced by a related one. -/
def Rearranged {α β : Type} (R : α → β → Prop) (l : List α) (l' : List β) : Prop :=
  ∃ k, List.Forall₂ R l k ∧ k.Perm l'

namespace Rearranged
variable {α β γ δ : Type} {R : α → β → Prop} {l : List α} {l' : List β}

theorem exists_right (h : Rearranged R l l') {a : α} (ha : a ∈ l) : ∃ b ∈ l', R a b := by
  obtain ⟨k, hk, hperm⟩ := h
  obtain ⟨b, hb, hab⟩ : ∃ b ∈ k, R a b := by
    clear hperm
    induction hk with
    | nil => cases ha
    | cons hab _ ih =>
      rcases List.mem_cons.1 ha with rfl | ha
      · exact ⟨_, List.mem_cons_self, hab⟩
      · obtain ⟨b, hb, hab⟩ := ih ha
        exact ⟨b, List.mem_cons_of_mem _ hb, hab⟩
  exact ⟨b, hperm.subset hb, hab⟩

theorem symm (h : Rearranged R l l') : Rearranged (flip R) l' l := by
  obtain ⟨k, hk, hperm⟩ := h
  exact List.perm_comp_forall₂ hperm.symm hk.flip

theorem exists_left (h : Rearranged R l l') {b : β} (hb : b ∈ l') : ∃ a ∈ l, R a b :=
  h.symm.exists_right hb

theorem forall_iff (h : Rearranged R l l') {p : α → Prop} {q : β → Prop}
    (hpq : ∀ a b, R a b → (p a ↔ q b)) : (∀ a ∈ l, p a) ↔ ∀ b ∈ l', q b := by
  constructor
  · intro hp b hb
    obtain ⟨a, ha, hab⟩ := h.exists_left hb
    exact (hpq a b hab).1 (hp a ha)
  · intro hq a ha
    obtain ⟨b, hb, hab⟩ := h.exists_right ha
    exact (hpq a b hab).2 (hq b hb)

theorem exists_iff (h : Rearranged R l l') {p : α → Prop} {q : β → Prop}
    (hpq : ∀ a b, R a b → (p a ↔ q b)) : (∃ a ∈ l, p a) ↔ ∃ b ∈ l', q b := by
  constructor
  · rintro ⟨a, ha, hp⟩
    obtain ⟨b, hb, hab⟩ := h.exists_right ha
    exact ⟨b, hb, (hpq a b hab).1 hp⟩
  · rintro ⟨b, hb, hq⟩
    obtain ⟨a, ha, hab⟩ := h.exists_left hb
    exact ⟨a, ha, (hpq a b hab).2 hq⟩

theorem map (h : Rearranged R l l') {S : γ → δ → Prop} {f : α → γ} {g : β → δ}
    (hfg : ∀ a b, R a b → S (f a) (g b)) : Rearranged S (l.map f) (l'.map g) := by
  obtain ⟨k, hk, hperm⟩ := h
  exact ⟨k.map g, List.rel_map hfg hk, hperm.map g⟩

end Rearranged

namespace OrderedMap
variable {α β : Type} {same : α → β → Bool} {m : OrderedMap α} {m' : OrderedMap β}

theorem agree_iff : m.agree same m' = true ↔
    m.size = m'.size ∧ ∀ k v, m.get? k = some v → ∃ w, m'.get? k = some w ∧ same v w = true := by
  rw [agree, Bool.and_eq_true, beq_iff_eq, List.all_eq_true]
  simp only [Option.any_eq_true, get?_eq_some_iff, Prod.forall]

theorem keys_perm_of_agree (h : m.agree same m' = true) : m.keys.Perm m'.keys := by
  obtain ⟨hsize, hsame⟩ := agree_iff.1 h
  refine (List.subperm_of_subset m.nodup_keys fun k hk => ?_).perm_of_length_le ?_
  · obtain ⟨v, hv⟩ := Option.isSome_iff_exists.1 ((m.contains_iff k).2 hk)
    obtain ⟨w, hw, -⟩ := hsame k v hv
    exact (m'.contains_iff k).1 (Option.isSome_iff_exists.2 ⟨w, hw⟩)
  · exact Nat.le_of_eq (by rw [length_keys, length_keys, hsize])

theorem contains_eq_of_agree (h : m.agree same m' = true) (k : String) :
    m.contains k = m'.contains k := by
  rw [Bool.eq_iff_iff, contains_iff, contains_iff, (keys_perm_of_agree h).mem_iff]

/-- Maps of equal values lead from every key to the same value. -/
theorem get?_eq_of_agree [BEq α] [LawfulBEq α] {m m' : OrderedMap α}
    (h : m.agree (· == ·) m' = true) (k : String) : m.get? k = m'.get? k := by
  cases hv : m.get? k with
  | some v =>
    obtain ⟨w, hw, hvw⟩ := (agree_iff.1 h).2 k v hv
    rw [hw, eq_of_beq hvw]
  | none =>
    have hc : m'.contains k = false := by rw [← contains_eq_of_agree h, contains, hv]; rfl
    rw [contains, Option.isSome_eq_false_iff, Option.isNone_iff_eq_none] at hc
    exact hc.symm

/-- The entries of two maps that agree are the same up to their order and to what counts as the same
value. -/
theorem rearranged_of_agree (h : m.agree same m' = true) :
    Rearranged (fun e e' => e.1 = e'.1 ∧ same e.2 e'.2 = true) m.entries m'.entries := by
  -- put the entries of `m'` into the order of the keys of `m`
  obtain ⟨k, hk, hperm⟩ : Rearranged (fun key e' => key = e'.1) m.keys m'.entries :=
    List.perm_comp_forall₂ (keys_perm_of_agree h)
      (List.forall₂_map_left_iff.2 (List.forall₂_same.2 fun _ _ => rfl))
  refine ⟨k, ?_, hperm⟩
  have hkeys : List.Forall₂ (fun e e' => e.1 = e'.1) m.entries k := List.forall₂_map_left_iff.1 hk
  have hsame : ∀ e ∈ m.entries, ∀ e' ∈ k, e.1 = e'.1 → same e.2 e'.2 = true := by
    intro e he e' he' hkey
    obtain ⟨w, hw, hvw⟩ := (agree_iff.1 h).2 e.1 e.2 (get?_eq_some_iff.2 he)
    rw [hkey, get?_eq_some_iff.2 (hperm.subset he')] at hw
    rwa [Option.some.inj hw]
  refine List.forall₂_iff_zip.2 ⟨hkeys.length_eq, fun {e e'} hzip => ?_⟩
  have hkey := List.forall₂_zip hkeys hzip
  exact ⟨hkey, hsame e (List.of_mem_zip hzip).1 e' (List.of_mem_zip hzip).2 hkey⟩

end OrderedMap
end GraphDecl
