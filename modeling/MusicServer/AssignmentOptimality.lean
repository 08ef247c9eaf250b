/-
# The assignment is optimal

Each row that is placed leaves every row so far with a column of its own and potentials that its
columns meet (`Settled`).  After the last row these certify the assignment
(`minimumAssignment_spec`), so none costs less (`minimumAssignment_optimal`).
-/
import Mathlib
import MusicServer.AssignmentSearch

namespace MusicServer.Album

open Assignment

/-! ## One row after the other -/

/-- The rows up to `k` have columns. -/
structure Settled (cost : ℕ → ℕ → ℤ) (C : ℤ) (m k : ℕ) (placement : Placement) : Prop where
  matched : Matched m k 0 placement.p
  balanced : Balanced cost m k placement.u placement.v placement.p
  later : ∀ r, k < r → placement.u r = 0
  total : -(k * C) ≤ placement.v 0 ∧ placement.v 0 ≤ k * C

theorem Balanced.congr {cost : ℕ → ℕ → ℤ} {m rows : ℕ} {u v : ℕ → ℤ} {p p' : ℕ → ℕ}
    (h : Balanced cost m rows u v p) (hsame : ∀ j, 1 ≤ j → p' j = p j) :
    Balanced cost m rows u v p' := by
  refine ⟨h.below, h.nonpos, fun j hj hjm hne hp => ?_, fun j hj hjm hp => ?_⟩
  · rw [hsame j hj] at hp ⊢
    exact h.tight j hj hjm hne hp
  · rw [hsame j hj] at hp
    exact h.free j hj hjm hp

section Rows

variable {costs : List (List ℤ)} {C : ℤ} {m n k : ℕ} {placement : Placement}

theorem Settled.ready (h : Settled (cell costs) C m k placement) (hC : 0 ≤ C) :
    Ready (cell costs) C (placement.v 0) m (k + 1) []
      ⟨{ placement with p := Function.update placement.p 0 (k + 1) }, 0, fun _ => i64Max,
        fun _ => false⟩ := by
  have hzero : placement.u (k + 1) = 0 := h.later (k + 1) (Nat.lt_succ_self k)
  refine ⟨⟨.root, fun j hj => ?_, fun j hj => ?_, h.matched.root, ?_,
    fun j hj hne => absurd (List.mem_singleton.mp hj) hne, ?_, ?_,
    fun r hr => h.later r (by omega)⟩,
    fun j => by simp, fun _ => ⟨hzero, ?_, fun _ => rfl⟩, fun hne => absurd rfl hne⟩
  · rw [List.mem_singleton.mp hj]
    exact Nat.zero_le m
  · rw [List.mem_singleton.mp hj]
    dsimp only
    rw [Function.update_self]
    exact Nat.succ_ne_zero k
  · dsimp only
    rw [Function.update_self]
  · dsimp only
    rw [hzero]
    omega
  · dsimp only
    rw [hzero, add_zero]
  · exact h.balanced.congr fun j hj => Function.update_of_ne (by omega) _ _

variable (hcost : ∀ r j, -C ≤ cell costs r j ∧ cell costs r j ≤ C) (hroom : (n + 4) * C < i64Max)
  (hnm : n ≤ m)

include hcost in
theorem Grown.settled {base : ℤ} {tree : List ℕ} {found : Search} (hk : k + 1 ≤ m)
    (hbase : -(k * C) ≤ base ∧ base ≤ k * C)
    (h : Grown (cell costs) C base m (k + 1) tree found) (hfree : found.p found.j0 = 0) :
    ∃ p, augment found.way (m + 1) found.p found.j0 = some p ∧
      Settled (cell costs) C m (k + 1) { found.toPlacement with p } := by
  obtain ⟨hrange, hout, hzero⟩ := h.next
  obtain ⟨hway, hmin, -⟩ := h.reaches found.j0 hrange.1 hrange.2 hout
  have hlinks : ∀ j, j = found.j0 ∨ j ∈ tree → j ≠ 0 →
      found.u (found.p (found.way j)) + found.v j = cell costs (found.p (found.way j)) j := by
    intro j hj hne
    have hlink : reduced (cell costs) found.u found.v found.p (found.way j) j = 0 := by
      rcases hj with rfl | hj
      · exact hmin.symm.trans hzero
      · exact h.links j hj hne
    unfold reduced at hlink
    omega
  obtain ⟨p, hp, hmatched, htight, hkept⟩ := augment_spec h.chain h.length_le h.within hrange hout
    hway (fun _ _ => rfl) h.placed (fun j hj hj' => hj') hlinks (h.matched.free hfree)
    fun j hj hjm _ => h.balanced.tight j hj hjm (by omega)
  refine ⟨p, hp, hmatched, ⟨h.balanced.below, h.balanced.nonpos, htight, fun j hj hjm hj' => ?_⟩,
    h.later, ?_⟩
  · exact h.balanced.free j hj hjm (hkept j (by omega) hj')
  · obtain ⟨hrows, -⟩ := h.balanced.bounds h.matched h.root (by omega) hk hcost h.floor
      fun r hr => .inl hr
    have hlast := hrows (k + 1) (by omega) le_rfl
    have horigin := h.origin
    have hnext : ((k + 1 : ℕ) : ℤ) * C = k * C + C := by
      rw [Nat.cast_succ, add_one_mul]
    rw [hnext]
    dsimp only
    omega

include hcost hroom hnm in
theorem placeRow_spec (hk : k + 1 ≤ n) (h : Settled (cell costs) C m k placement) :
    ∃ next, placeRow costs m placement (k + 1) = some next ∧
      Settled (cell costs) C m (k + 1) next := by
  have hC : 0 ≤ C := by
    have hentry := hcost 0 0
    omega
  have hmax : i64Max = 2 ^ 63 - 1 := rfl
  have hsplit : ((n : ℤ) + 4) * C = n * C + 4 * C := add_mul _ _ _
  have hrows : ((k : ℤ) + 1) * C ≤ n * C := mul_le_mul_of_nonneg_right (by omega) hC
  have hnext : ((k : ℤ) + 1) * C = k * C + C := add_one_mul _ _
  have hpos : 0 ≤ (k : ℤ) * C := mul_nonneg (by omega) hC
  have htotal := h.total
  obtain ⟨found, tree, hrun, hgrown, hfree⟩ := (h.ready hC).run hcost (by omega) (by omega)
    (hk.trans hnm) (by omega) (Nat.le_add_right (m + 1) _)
  obtain ⟨p, hp, hsettled⟩ := hgrown.settled hcost (hk.trans hnm) htotal hfree
  exact ⟨_, Option.bind_eq_some_iff.mpr ⟨found, hrun,
    Option.bind_eq_some_iff.mpr ⟨p, hp, rfl⟩⟩, hsettled⟩

include hcost hroom hnm in
theorem placeRows_spec (hk : k ≤ n) :
    ∃ placed, (List.range' 1 k).foldlM (placeRow costs m)
        ⟨fun _ => 0, fun _ => 0, fun _ => 0, fun _ => 0⟩ = some placed ∧
      Settled (cell costs) C m k placed := by
  induction k with
  | zero =>
    refine ⟨_, rfl, ⟨fun _ _ _ => le_rfl, fun r hr hr0 => ?_, fun _ _ _ _ _ _ hne => ?_⟩,
      ⟨fun r hr hr0 => ?_, fun _ _ _ => le_rfl, fun _ _ _ _ hp => absurd rfl hp,
        fun _ _ _ _ => rfl⟩, fun _ _ => rfl, by simp⟩
    · omega
    · exact absurd rfl hne
    · omega
  | succ k ih =>
    obtain ⟨placed, hplaced, hsettled⟩ := ih (by omega)
    obtain ⟨next, hnext, hsettledNext⟩ := placeRow_spec hcost hroom hnm hk hsettled
    refine ⟨next, ?_, hsettledNext⟩
    rw [List.range'_1_concat, List.foldlM_append, hplaced, Nat.add_comm 1 k]
    change (placeRow costs m placed (k + 1) >>= pure) = _
    rw [hnext]
    rfl

end Rows

/-! ## The columns of the rows -/

theorem columnsOf_spec {m n : ℕ} {p : ℕ → ℕ} (h : Matched m n 0 p) :
    (columnsOf m p n).length = n ∧
      ∀ j, 1 ≤ j → j ≤ m → 0 < p j → (columnsOf m p n)[p j - 1]? = some (j - 1) := by
  have hfold : ∀ k, k ≤ m →
      let result := (List.range' 1 k).foldl (fun result j =>
        if 0 < p j then result.set (p j - 1) (j - 1) else result) (List.replicate n m)
      result.length = n ∧ ∀ j, 1 ≤ j → j ≤ k → 0 < p j → result[p j - 1]? = some (j - 1) := by
    intro k hk
    induction k with
    | zero => exact ⟨List.length_replicate, fun j hj hj0 => by omega⟩
    | succ k ih =>
      obtain ⟨hlength, hget⟩ := ih (by omega)
      rw [List.range'_1_concat, List.foldl_append, Nat.add_comm 1 k]
      generalize (List.range' 1 k).foldl _ _ = result at hlength hget
      dsimp only [List.foldl_cons, List.foldl_nil]
      by_cases hrow : 0 < p (k + 1)
      · rw [if_pos hrow]
        refine ⟨by rw [List.length_set, hlength], fun j hj hjk hp => ?_⟩
        have hbound := h.bounded j (by omega) (by omega)
        by_cases hlast : j = k + 1
        · subst hlast
          rw [List.getElem?_set_self (by omega)]
        · have hne : p (k + 1) - 1 ≠ p j - 1 := by
            intro hsame
            exact hlast (h.once j (by omega) (by omega) (k + 1) hk (by omega) (by omega) (by omega))
          rw [List.getElem?_set_ne hne]
          exact hget j hj (by omega) hp
      · rw [if_neg hrow]
        refine ⟨hlength, fun j hj hjk hp => hget j hj ?_ hp⟩
        by_contra hlast
        obtain rfl : j = k + 1 := by omega
        exact hrow hp
  exact hfold m le_rfl

/-- The entries are small enough not to overflow. -/
def Small (costs : List (List ℤ)) : Prop :=
  ∃ C : ℤ, (∀ row ∈ costs, ∀ cost ∈ row, -C ≤ cost ∧ cost ≤ C) ∧ 0 ≤ C ∧
    (costs.length + 4) * C < i64Max

/-- Pairwise different columns below `m`, one for each of `n` rows. -/
structure IsAssignment (n m : ℕ) (columns : List ℕ) : Prop where
  length : columns.length = n
  nodup : columns.Nodup
  below : ∀ column ∈ columns, column < m

def totalCost (costs : List (List ℤ)) (columns : List ℕ) : ℤ :=
  (List.zipWith (fun row column => row.getD column 0) costs columns).sum

section Optimality

variable {costs : List (List ℤ)} {columns : List ℕ} {m n : ℕ}

theorem totalCost_eq (h : columns.length = costs.length) : totalCost costs columns =
    ∑ row ∈ Finset.range costs.length, entry costs row (columns.getD row 0) := by
  unfold totalCost
  induction costs generalizing columns with
  | nil => rfl
  | cons row rest ih =>
    cases columns with
    | nil => cases h
    | cons column columns =>
      rw [List.zipWith_cons_cons, List.sum_cons, ih (Nat.succ.inj h), List.length_cons,
        Finset.sum_range_succ', add_comm]
      rfl

theorem IsAssignment.assigns (h : IsAssignment n m columns) :
    Assigns (Finset.range n) (Finset.range m) fun row => columns.getD row 0 := by
  have hget : ∀ row ∈ Finset.range n, ∃ hlt : row < columns.length,
      columns.getD row 0 = columns[row] := by
    intro row hrow
    have hlt : row < columns.length := h.length.symm ▸ Finset.mem_range.mp hrow
    exact ⟨hlt, by rw [List.getD_eq_getElem?_getD, List.getElem?_eq_getElem hlt, Option.getD_some]⟩
  constructor
  · intro row hrow
    obtain ⟨hlt, heq⟩ := hget row hrow
    rw [heq]
    exact Finset.mem_range.mpr (h.below _ (List.getElem_mem hlt))
  · intro row hrow row' hrow' hsame
    obtain ⟨hlt, heq⟩ := hget row hrow
    obtain ⟨hlt', heq'⟩ := hget row' hrow'
    rw [heq, heq'] at hsame
    exact (List.Nodup.getElem_inj_iff h.nodup).mp hsame

theorem Small.cell (h : Small costs) :
    ∃ C, (∀ r j, -C ≤ cell costs r j ∧ cell costs r j ≤ C) ∧ (costs.length + 4) * C < i64Max := by
  obtain ⟨C, hentries, hpos, hroom⟩ := h
  refine ⟨C, fun r j => ?_, hroom⟩
  unfold Album.cell entry
  rw [List.getD_eq_getElem?_getD, List.getD_eq_getElem?_getD]
  cases hrow : costs[r - 1]? with
  | none => simpa using hpos
  | some row =>
    rw [Option.getD_some]
    cases hvalue : row[j - 1]? with
    | none => simpa using hpos
    | some value =>
      exact hentries row (List.mem_of_getElem? hrow) value (List.mem_of_getElem? hvalue)

theorem Settled.certified {C : ℤ} {placed : Placement}
    (h : Settled (cell costs) C m costs.length placed) :
    IsAssignment costs.length m (columnsOf m placed.p costs.length) ∧
      Certified (Finset.range costs.length) (Finset.range m) (entry costs)
        (fun row => placed.u (row + 1)) (fun column => placed.v (column + 1))
        fun row => (columnsOf m placed.p costs.length).getD row 0 := by
  obtain ⟨hlength, hget⟩ := columnsOf_spec h.matched
  generalize columnsOf m placed.p costs.length = columns at hlength hget ⊢
  have hcolumn : ∀ row, row < costs.length → ∃ j, 1 ≤ j ∧ j ≤ m ∧ placed.p j = row + 1 ∧
      columns[row]? = some (j - 1) := by
    intro row hrow
    obtain ⟨j, hj, hne, hp⟩ := h.matched.covers (row + 1) (by omega) hrow
    have hfound := hget j (by omega) hj (by omega)
    rw [hp] at hfound
    exact ⟨j, by omega, hj, hp, hfound⟩
  have hassignment : IsAssignment costs.length m columns := by
    refine ⟨hlength, List.nodup_iff_injective_get.mpr fun row row' hsame => ?_,
      fun column hmem => ?_⟩
    · obtain ⟨j, hj, hjm, hp, hfound⟩ := hcolumn row (hlength ▸ row.isLt)
      obtain ⟨j', hj', hjm', hp', hfound'⟩ := hcolumn row' (hlength ▸ row'.isLt)
      rw [List.getElem?_eq_getElem row.isLt, Option.some.injEq] at hfound
      rw [List.getElem?_eq_getElem row'.isLt, Option.some.injEq] at hfound'
      rw [List.get_eq_getElem, List.get_eq_getElem, hfound, hfound'] at hsame
      obtain rfl : j = j' := by omega
      exact Fin.ext (by omega)
    · obtain ⟨row, hrow, rfl⟩ := List.mem_iff_getElem.mp hmem
      obtain ⟨j, hj, hjm, -, hfound⟩ := hcolumn row (hlength ▸ hrow)
      rw [List.getElem?_eq_getElem hrow, Option.some.injEq] at hfound
      omega
  refine ⟨hassignment, ⟨⟨fun row hrow column hcolumn => ?_, fun column hcolumn => ?_⟩,
    hassignment.assigns, fun row hrow => ?_, fun column hmem hout => ?_⟩⟩
  · have hrow := Finset.mem_range.mp hrow
    have hcolumn := Finset.mem_range.mp hcolumn
    exact h.balanced.below (row + 1) (by omega) (by omega) (column + 1) (by omega) (by omega)
  · have hcolumn := Finset.mem_range.mp hcolumn
    exact h.balanced.nonpos (column + 1) (by omega) (by omega)
  · obtain ⟨j, hj, hjm, hp, hfound⟩ := hcolumn row (Finset.mem_range.mp hrow)
    have htight := h.balanced.tight j hj hjm (by omega) (by omega)
    rw [hp] at htight
    rw [List.getD_eq_getElem?_getD, hfound, Option.getD_some, Nat.sub_add_cancel hj]
    exact htight
  · have hcolumnm := Finset.mem_range.mp hmem
    refine h.balanced.free (column + 1) (by omega) (by omega) ?_
    by_contra hrow
    have hbound := h.matched.bounded (column + 1) (by omega) (by omega)
    have hfound := hget (column + 1) (by omega) (by omega) (by omega)
    refine hout (placed.p (column + 1) - 1) (Finset.mem_range.mpr (by omega)) ?_
    rw [List.getD_eq_getElem?_getD, hfound]
    rfl

theorem minimumAssignment_spec (hrows : costs.length ≤ m) (hrect : ∀ row ∈ costs, row.length = m)
    (hsmall : Small costs) :
    ∃ columns, minimumAssignment costs = some columns ∧ IsAssignment costs.length m columns ∧
      ∃ u v, Certified (Finset.range costs.length) (Finset.range m) (entry costs) u v
        fun row => columns.getD row 0 := by
  obtain ⟨C, hcost, hroom⟩ := hsmall.cell
  obtain ⟨placed, hplaced, hsettled⟩ := placeRows_spec hcost hroom hrows le_rfl
  obtain ⟨hassignment, hcertified⟩ := hsettled.certified
  refine ⟨columnsOf m placed.p costs.length, ?_, hassignment, _, _, hcertified⟩
  cases costs with
  | nil => exact congrArg some (List.length_eq_zero_iff.mp hassignment.length).symm
  | cons row rest =>
    obtain rfl : row.length = m := hrect row List.mem_cons_self
    exact Option.bind_eq_some_iff.mpr ⟨placed, hplaced, rfl⟩

/-- `minimum_assignment` finds columns of least total cost among all assignments. -/
theorem minimumAssignment_optimal (hrows : costs.length ≤ m)
    (hrect : ∀ row ∈ costs, row.length = m) (hsmall : Small costs) :
    ∃ columns, minimumAssignment costs = some columns ∧ IsAssignment costs.length m columns ∧
      ∀ others, IsAssignment costs.length m others →
        totalCost costs columns ≤ totalCost costs others := by
  obtain ⟨columns, hfound, hassignment, u, v, hcertified⟩ :=
    minimumAssignment_spec hrows hrect hsmall
  refine ⟨columns, hfound, hassignment, fun others hothers => ?_⟩
  rw [totalCost_eq hassignment.length, totalCost_eq hothers.length]
  exact hcertified.optimal hothers.assigns

end Optimality

/-- Taking the first row's cheapest column would strand the second one. -/
theorem minimumAssignment_optimal_global :
    ∃ columns, minimumAssignment [[1, 2, 100, 100], [2, 1000, 100, 100]] = some columns ∧
      ∀ others, IsAssignment 2 4 others →
        totalCost [[1, 2, 100, 100], [2, 1000, 100, 100]] columns ≤
          totalCost [[1, 2, 100, 100], [2, 1000, 100, 100]] others := by
  obtain ⟨columns, hfound, -, hleast⟩ :=
    @minimumAssignment_optimal [[1, 2, 100, 100], [2, 1000, 100, 100]] 4 (by decide) (by decide)
      ⟨1000, by decide, by decide, by decide⟩
  exact ⟨columns, hfound, hleast⟩

end MusicServer.Album
