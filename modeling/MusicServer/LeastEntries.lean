/-
# Keeping the least

Of several values the one with the least key is kept, the earlier of two with equal keys; of a
map the entries with the least keys are kept.  Neither depends on the order in which the values
arrive.

* `keepLess_right_comm`: two values may arrive in either order;
* `take_toList_congr`: the least entries of a map are decided by its least keys.
-/
import Std.Data.ExtTreeMap.Lemmas
import Mathlib.Data.List.Perm.Subperm
import Mathlib.Data.List.Sort
import Mathlib.Order.Lattice

namespace LeastEntries

/-! ## Of two values -/

section Keep

variable {α β κ : Type} [LinearOrder κ] (key : α → κ)

/-- The value with the lesser key; the current one of equals. -/
def keepLess (current incoming : α) : α :=
  if key incoming < key current then incoming else current

variable {key}

theorem keepLess_comm {view : α → β} {left right : α}
    (h : key left = key right → view left = view right) :
    view (keepLess key left right) = view (keepLess key right left) := by
  unfold keepLess
  rcases lt_trichotomy (key left) (key right) with hless | hequal | hgreater
  · rw [if_neg hless.not_gt, if_pos hless]
  · rw [if_neg hequal.not_gt, if_neg hequal.not_lt]
    exact h hequal
  · rw [if_pos hgreater, if_neg hgreater.not_gt]

theorem keepLess_right_comm {view : α → β} {current left right : α}
    (h : key left = key right → view left = view right) :
    view (keepLess key (keepLess key current left) right) =
      view (keepLess key (keepLess key current right) left) := by
  by_cases hleft : key left < key current
  · by_cases hright : key right < key current
    · have hl : keepLess key current left = left := if_pos hleft
      have hr : keepLess key current right = right := if_pos hright
      rw [hl, hr]
      exact keepLess_comm h
    · have hl : keepLess key current left = left := if_pos hleft
      have hr : keepLess key current right = current := if_neg hright
      have hstay : keepLess key left right = left :=
        if_neg (not_lt.mpr (hleft.le.trans (not_lt.mp hright)))
      rw [hl, hr, hstay, hl]
  · by_cases hright : key right < key current
    · have hl : keepLess key current left = current := if_neg hleft
      have hr : keepLess key current right = right := if_pos hright
      have hstay : keepLess key right left = right :=
        if_neg (not_lt.mpr (hright.le.trans (not_lt.mp hleft)))
      rw [hl, hr, hstay]
    · have hl : keepLess key current left = current := if_neg hleft
      have hr : keepLess key current right = current := if_neg hright
      rw [hl, hr, hl]

end Keep

/-! ## Of a list in order -/

section Take

variable {α : Type} {r : α → α → Prop} [DecidableRel r]

theorem mem_take_iff (hirrefl : ∀ a, ¬ r a a) (hasymm : ∀ a b, r a b → ¬ r b a) {l : List α}
    (hl : l.Pairwise r) (n : ℕ) (x : α) :
    x ∈ l.take n ↔ x ∈ l ∧ (l.filter fun y => r y x).length < n := by
  induction l generalizing n with
  | nil => simp
  | cons a rest ih =>
    obtain ⟨ha, hrest⟩ := List.pairwise_cons.mp hl
    cases n with
    | zero => simp
    | succ n =>
      rw [List.take_succ_cons, List.mem_cons, List.mem_cons]
      by_cases hxa : x = a
      · subst hxa
        have hnone : (x :: rest).filter (fun y => r y x) = [] := by
          rw [List.filter_eq_nil_iff]
          intro y hy
          rcases List.mem_cons.mp hy with rfl | hmem
          · simpa using hirrefl y
          · simpa using hasymm _ _ (ha y hmem)
        simp [hnone]
      · rw [ih hrest n]
        constructor
        · rintro (heq | ⟨hmem, hfew⟩)
          · exact absurd heq hxa
          · refine ⟨.inr hmem, ?_⟩
            rw [List.filter_cons_of_pos (by simpa using ha x hmem), List.length_cons]
            omega
        · rintro ⟨heq | hmem, hfew⟩
          · exact absurd heq hxa
          · rw [List.filter_cons_of_pos (by simpa using ha x hmem), List.length_cons] at hfew
            exact .inr ⟨hmem, by omega⟩

end Take

/-! ## Of a map -/

section Map

variable {κ ν : Type} {cmp : κ → κ → Ordering}

theorem cmp_lt_irrefl [Std.ReflCmp cmp] (k : κ) : ¬ cmp k k = .lt := by
  have hself : cmp k k = .eq := Std.ReflCmp.compare_self
  rw [hself]
  exact Ordering.noConfusion

theorem cmp_lt_asymm [Std.OrientedCmp cmp] {k k' : κ} (h : cmp k k' = .lt) : ¬ cmp k' k = .lt := by
  rw [Std.OrientedCmp.gt_of_lt h]
  exact Ordering.noConfusion

variable [Std.TransCmp cmp] [Std.LawfulEqCmp cmp]

/-- How many keys of the map come before this one. -/
def rank (t : Std.ExtTreeMap κ ν cmp) (k : κ) : ℕ :=
  (t.keys.filter fun other => cmp other k = .lt).length

theorem rank_mono {t t' : Std.ExtTreeMap κ ν cmp} (h : ∀ k, k ∈ t' → k ∈ t) (k : κ) :
    rank t' k ≤ rank t k := by
  unfold rank
  refine (List.Nodup.subperm (Std.ExtTreeMap.nodup_keys.filter _) fun other hother => ?_).length_le
  rw [List.mem_filter, Std.ExtTreeMap.mem_keys] at hother ⊢
  exact ⟨h other hother.1, hother.2⟩

theorem mem_take_keys {t : Std.ExtTreeMap κ ν cmp} {n : ℕ} {k : κ} :
    k ∈ t.keys.take n ↔ k ∈ t ∧ rank t k < n := by
  rw [mem_take_iff (r := fun a b => cmp a b = .lt) cmp_lt_irrefl (fun _ _ => cmp_lt_asymm)
    Std.ExtTreeMap.ordered_keys, Std.ExtTreeMap.mem_keys]
  rfl

theorem mem_take_toList {t : Std.ExtTreeMap κ ν cmp} {n : ℕ} {entry : κ × ν} :
    entry ∈ t.toList.take n ↔ t[entry.1]? = some entry.2 ∧ rank t entry.1 < n := by
  have hrank : (t.toList.filter fun other => cmp other.1 entry.1 = .lt).length =
      rank t entry.1 := by
    unfold rank
    rw [← Std.ExtTreeMap.map_fst_toList_eq_keys, List.filter_map, List.length_map]
    rfl
  rw [mem_take_iff (r := fun a b : κ × ν => cmp a.1 b.1 = .lt) (fun _ => cmp_lt_irrefl _)
    (fun _ _ => cmp_lt_asymm) Std.ExtTreeMap.ordered_keys_toList, hrank,
    Std.ExtTreeMap.mem_toList_iff_getElem?_eq_some]

theorem take_toList_congr {t t' : Std.ExtTreeMap κ ν cmp} {n : ℕ} (hsub : ∀ k, k ∈ t' → k ∈ t)
    (hagree : ∀ k, rank t k < n → t'[k]? = t[k]?) : t'.toList.take n = t.toList.take n := by
  -- among the keys of the smaller map, the same are the least
  have hrank : ∀ k, k ∈ t' → rank t' k < n → rank t k < n := by
    intro k hk hfew
    by_contra hmany
    rw [not_lt] at hmany
    have hbefore : t.keys.take n ⊆ t'.keys.filter fun other => cmp other k = .lt := by
      intro other hother
      obtain ⟨hmem, hother'⟩ := mem_take_keys.mp hother
      rw [List.mem_filter, Std.ExtTreeMap.mem_keys, decide_eq_true_iff]
      constructor
      · rw [Std.ExtTreeMap.mem_iff_isSome_getElem?] at hmem ⊢
        rwa [hagree other hother']
      · have hlast : k ∈ t.keys.drop n := by
          have hkeys : k ∈ t.keys.take n ++ t.keys.drop n := by
            rw [List.take_append_drop, Std.ExtTreeMap.mem_keys]
            exact hsub k hk
          rcases List.mem_append.mp hkeys with hfirst | hlast
          · exact absurd (mem_take_keys.mp hfirst).2 (not_lt.mpr hmany)
          · exact hlast
        have hordered := Std.ExtTreeMap.ordered_keys (t := t)
        rw [← List.take_append_drop n t.keys, List.pairwise_append] at hordered
        exact hordered.2.2 other hother k hlast
    have hlength := (List.Nodup.subperm
      (Std.ExtTreeMap.nodup_keys.sublist (List.take_sublist n _)) hbefore).length_le
    have hkeys : n ≤ t.keys.length := hmany.trans (List.length_filter_le _ _)
    rw [List.length_take, min_eq_left hkeys] at hlength
    exact absurd hfew (not_lt.mpr hlength)
  have hirrefl : Std.Irrefl fun a b : κ × ν => cmp a.1 b.1 = .lt := ⟨fun _ => cmp_lt_irrefl _⟩
  have hantisymm : Std.Antisymm fun a b : κ × ν => cmp a.1 b.1 = .lt :=
    ⟨fun _ _ hab hba => absurd hba (cmp_lt_asymm hab)⟩
  refine List.Subset.antisymm_of_pairwise (r := fun a b : κ × ν => cmp a.1 b.1 = .lt)
    Std.ExtTreeMap.ordered_keys_toList.take Std.ExtTreeMap.ordered_keys_toList.take ?_ ?_
  · intro entry hentry
    obtain ⟨hget, hfew⟩ := mem_take_toList.mp hentry
    have hmem : entry.1 ∈ t' := by
      rw [Std.ExtTreeMap.mem_iff_isSome_getElem?, hget]
      rfl
    have hfew' := hrank _ hmem hfew
    rw [mem_take_toList, ← hagree _ hfew']
    exact ⟨hget, hfew'⟩
  · intro entry hentry
    obtain ⟨hget, hfew⟩ := mem_take_toList.mp hentry
    rw [mem_take_toList, hagree _ hfew]
    exact ⟨hget, (rank_mono hsub _).trans_lt hfew⟩

end Map

end LeastEntries
