/-
# Rows in columns, and the tree that moves them

While a row is placed every row has one column but for a hole, and the columns reached so far make
a tree whose root is column zero.  Moving the rows along the tree moves the hole to the root
(`augment_spec`), after which every row has a column of its own.
-/
import Mathlib.Order.Interval.Finset.Nat
import MusicServer.MinimumAssignment

namespace MusicServer.Album

/-! ## Rows in columns -/

/-- The rows up to `i` are each in one of the columns up to `m`, the hole apart. -/
structure Matched (m i hole : ℕ) (p : ℕ → ℕ) : Prop where
  bounded : ∀ j, j ≤ m → j ≠ hole → p j ≤ i
  covers : ∀ r, 1 ≤ r → r ≤ i → ∃ j, j ≤ m ∧ j ≠ hole ∧ p j = r
  once : ∀ j, j ≤ m → j ≠ hole → ∀ j', j' ≤ m → j' ≠ hole → p j ≠ 0 → p j = p j' → j = j'

/-- The rows in columns meet the potentials. -/
def Tight (cost : ℕ → ℕ → ℤ) (u v : ℕ → ℤ) (m hole : ℕ) (p : ℕ → ℕ) : Prop :=
  ∀ j, 1 ≤ j → j ≤ m → j ≠ hole → p j ≠ 0 → u (p j) + v j = cost (p j) j

section Matched

variable {m i hole : ℕ} {p : ℕ → ℕ}

theorem Matched.root (h : Matched m i 0 p) :
    Matched m (i + 1) (m + 1) (Function.update p 0 (i + 1)) := by
  have hvalue : ∀ j, j ≤ m → j ≠ 0 → p j ≤ i := h.bounded
  refine ⟨fun j hj _ => ?_, fun r hr hri => ?_, fun j hj _ j' hj' _ hne hsame => ?_⟩
  · by_cases hzero : j = 0
    · rw [hzero, Function.update_self]
    · rw [Function.update_of_ne hzero]
      exact (hvalue j hj hzero).trans (Nat.le_succ i)
  · by_cases hlast : r = i + 1
    · exact ⟨0, Nat.zero_le m, by omega, by rw [hlast, Function.update_self]⟩
    · obtain ⟨j, hj, hzero, hp⟩ := h.covers r hr (by omega)
      exact ⟨j, hj, by omega, by rw [Function.update_of_ne hzero, hp]⟩
  · by_cases hzero : j = 0 <;> by_cases hzero' : j' = 0
    · rw [hzero, hzero']
    · rw [hzero, Function.update_self, Function.update_of_ne hzero'] at hsame
      have := hvalue j' hj' hzero'
      omega
    · rw [hzero', Function.update_self, Function.update_of_ne hzero] at hsame
      have := hvalue j hj hzero
      omega
    · rw [Function.update_of_ne hzero] at hne hsame
      rw [Function.update_of_ne hzero'] at hsame
      exact h.once j hj hzero j' hj' hzero' hne hsame

theorem Matched.free (h : Matched m i (m + 1) p) {j : ℕ} (hfree : p j = 0) :
    Matched m i j p := by
  refine ⟨fun j' hj' _ => h.bounded j' hj' (by omega), fun r hr hri => ?_,
    fun a ha _ b hb _ => h.once a ha (by omega) b hb (by omega)⟩
  obtain ⟨j', hj', -, hp⟩ := h.covers r hr hri
  refine ⟨j', hj', ?_, hp⟩
  rintro rfl
  omega

theorem Matched.move (h : Matched m i hole p) {j : ℕ} (hj : j ≤ m) (hhole : hole ≤ m)
    (hne : j ≠ hole) : Matched m i j (Function.update p hole (p j)) := by
  refine ⟨fun k hk hkj => ?_, fun r hr hri => ?_, fun a ha haj b hb hbj hzero hsame => ?_⟩
  · by_cases hkhole : k = hole
    · rw [hkhole, Function.update_self]
      exact h.bounded j hj hne
    · rw [Function.update_of_ne hkhole]
      exact h.bounded k hk hkhole
  · obtain ⟨k, hk, hkhole, hp⟩ := h.covers r hr hri
    by_cases hkj : k = j
    · exact ⟨hole, hhole, hne.symm, by rw [Function.update_self, ← hkj, hp]⟩
    · exact ⟨k, hk, hkj, by rw [Function.update_of_ne hkhole, hp]⟩
  · -- The row in the hole is the one that was in `j`.
    by_cases hahole : a = hole <;> by_cases hbhole : b = hole
    · rw [hahole, hbhole]
    · rw [hahole, Function.update_self] at hzero hsame
      rw [Function.update_of_ne hbhole] at hsame
      exact absurd (h.once j hj hne b hb hbhole hzero hsame).symm hbj
    · rw [hbhole, Function.update_self, Function.update_of_ne hahole] at hsame
      rw [Function.update_of_ne hahole] at hzero
      exact absurd (h.once a ha hahole j hj hne hzero hsame) haj
    · rw [Function.update_of_ne hahole] at hzero hsame
      rw [Function.update_of_ne hbhole] at hsame
      exact h.once a ha hahole b hb hbhole hzero hsame

theorem Matched.exists_free (h : Matched m i (m + 1) p) (hi : i ≤ m) (hroot : p 0 ≠ 0) :
    ∃ j, 1 ≤ j ∧ j ≤ m ∧ p j = 0 := by
  by_contra hfull
  push Not at hfull
  have hplaced : ∀ j, j ≤ m → p j ≠ 0 := by
    intro j hj
    by_cases hzero : j = 0
    · rwa [hzero]
    · exact hfull j (by omega) hj
  have hcard := Finset.card_le_card_of_injOn p
    (s := Finset.range (m + 1)) (t := Finset.Icc 1 i) (fun j hj => ?_) (fun j hj j' hj' hsame => ?_)
  · rw [Finset.card_range, Nat.card_Icc] at hcard
    omega
  · have hjm : j ≤ m := Nat.lt_succ_iff.mp (Finset.mem_range.mp hj)
    exact Finset.mem_Icc.mpr ⟨Nat.pos_of_ne_zero (hplaced j hjm), h.bounded j hjm (by omega)⟩
  · have hjm : j ≤ m := Nat.lt_succ_iff.mp (Finset.mem_range.mp hj)
    have hjm' : j' ≤ m := Nat.lt_succ_iff.mp (Finset.mem_range.mp hj')
    exact h.once j hjm (by omega) j' hjm' (by omega) (hplaced j hjm) hsame

end Matched

/-! ## The tree -/

/-- Columns in the order they are reached, the last one first. -/
inductive Tree (way : ℕ → ℕ) : List ℕ → Prop
  | root : Tree way [0]
  | node {j : ℕ} {rest : List ℕ} : Tree way rest → j ∉ rest → way j ∈ rest → Tree way (j :: rest)

section Tree

variable {way : ℕ → ℕ} {tree : List ℕ}

theorem Tree.zero_mem (h : Tree way tree) : 0 ∈ tree := by
  induction h with
  | root => exact List.mem_singleton.mpr rfl
  | node _ _ _ ih => exact List.mem_cons_of_mem _ ih

theorem Tree.nodup (h : Tree way tree) : tree.Nodup := by
  induction h with
  | root => exact List.nodup_singleton 0
  | node _ hnew _ ih => exact List.nodup_cons.mpr ⟨hnew, ih⟩

theorem Tree.congr (h : Tree way tree) {way' : ℕ → ℕ} (hway : ∀ j ∈ tree, way' j = way j) :
    Tree way' tree := by
  induction h with
  | root => exact .root
  | node _ hnew hreached ih =>
    refine .node (ih fun j hj => hway j (List.mem_cons_of_mem _ hj)) hnew ?_
    rwa [hway _ List.mem_cons_self]

theorem Tree.beneath (h : Tree way tree) {j : ℕ} (hj : j ∈ tree) (hroot : j ≠ 0) :
    ∃ rest, Tree way rest ∧ j ∉ rest ∧ way j ∈ rest ∧ rest ⊆ tree ∧ rest.length < tree.length := by
  induction h with
  | root => exact absurd (List.mem_singleton.mp hj) hroot
  | node htree hnew hreached ih =>
    rcases List.mem_cons.mp hj with rfl | hmem
    · exact ⟨_, htree, hnew, hreached, List.subset_cons_self _ _, Nat.lt_succ_self _⟩
    · obtain ⟨rest, hrest, hout, hway, hsub, hlength⟩ := ih hmem
      exact ⟨rest, hrest, hout, hway, fun k hk => List.mem_cons_of_mem _ (hsub hk),
        hlength.trans (Nat.lt_succ_self _)⟩

theorem Tree.way_mem (h : Tree way tree) {j : ℕ} (hj : j ∈ tree) (hroot : j ≠ 0) :
    way j ∈ tree := by
  obtain ⟨rest, -, -, hway, hsub, -⟩ := h.beneath hj hroot
  exact hsub hway

end Tree

/-! ## Moving the rows -/

theorem augment_spec {cost : ℕ → ℕ → ℤ} {u v : ℕ → ℤ} {m i : ℕ} {way start : ℕ → ℕ} {fuel : ℕ}
    {p : ℕ → ℕ} {hole : ℕ} {tree : List ℕ} (htree : Tree way tree) (hfuel : tree.length ≤ fuel)
    (hbound : ∀ j ∈ tree, j ≤ m) (hhole : 1 ≤ hole ∧ hole ≤ m) (hnew : hole ∉ tree)
    (hway : way hole ∈ tree) (hsame : ∀ j ∈ tree, p j = start j)
    (hplaced : ∀ j ∈ tree, start j ≠ 0) (hfree : ∀ j, j ≠ hole → p j = 0 → start j = 0)
    (hlinks : ∀ j, j = hole ∨ j ∈ tree → j ≠ 0 →
      u (start (way j)) + v j = cost (start (way j)) j)
    (hmatched : Matched m i hole p) (htight : Tight cost u v m hole p) :
    ∃ p', augment way fuel p hole = some p' ∧ Matched m i 0 p' ∧ Tight cost u v m 0 p' ∧
      ∀ j, j ≠ 0 → p' j = 0 → start j = 0 := by
  induction fuel generalizing p hole tree with
  | zero =>
    have hpos := List.length_pos_of_mem hway
    omega
  | succ fuel ih =>
    have hlink := hlinks hole (.inl rfl) (by omega)
    rw [← hsame _ hway] at hlink
    have hne : way hole ≠ hole := fun h => hnew (h ▸ hway)
    have hnext : Matched m i (way hole) (Function.update p hole (p (way hole))) :=
      hmatched.move (hbound _ hway) hhole.2 hne
    have htightNext : Tight cost u v m (way hole) (Function.update p hole (p (way hole))) := by
      intro j hlow hhigh hj hp
      by_cases hjhole : j = hole
      · subst hjhole
        rw [Function.update_self]
        exact hlink
      · rw [Function.update_of_ne hjhole] at hp ⊢
        exact htight j hlow hhigh hjhole hp
    have hfreeNext : ∀ j, j ≠ way hole → Function.update p hole (p (way hole)) j = 0 →
        start j = 0 := by
      intro j hj hp
      by_cases hjhole : j = hole
      · rw [hjhole, Function.update_self, hsame _ hway] at hp
        exact absurd hp (hplaced _ hway)
      · rw [Function.update_of_ne hjhole] at hp
        exact hfree j hjhole hp
    unfold augment
    by_cases hroot : way hole = 0
    · simp only [if_pos hroot]
      rw [hroot] at hnext htightNext hfreeNext ⊢
      exact ⟨_, rfl, hnext, htightNext, hfreeNext⟩
    · simp only [if_neg hroot]
      obtain ⟨rest, hrest, hout, hup, hsub, hlength⟩ := htree.beneath hway hroot
      refine ih hrest (by omega) (fun j hj => hbound j (hsub hj)) ⟨by omega, hbound _ hway⟩ hout hup
        (fun j hj => ?_) (fun j hj => hplaced j (hsub hj)) hfreeNext
        (fun j hj => hlinks j (.inr ?_)) hnext htightNext
      · rw [Function.update_of_ne fun h : j = hole => hnew (h ▸ hsub hj)]
        exact hsame j (hsub hj)
      · rcases hj with rfl | hj
        · exact hway
        · exact hsub hj

end MusicServer.Album
