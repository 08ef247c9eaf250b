/-
# Optimal assignments by potentials

Rows are assigned to columns, each to one of its own, and every pair has a cost.  Potentials of
rows and columns that stay below the costs bound the cost of every assignment from below
(`Feasible.le_sum`); an assignment that meets them is cheapest (`Certified.optimal`).
-/
import Mathlib.Algebra.BigOperators.Group.Finset.Basic
import Mathlib.Algebra.Order.BigOperators.Group.Finset

namespace Assignment

variable {ι κ α : Type*} [AddCommGroup α] [PartialOrder α]
  {rows : Finset ι} {columns : Finset κ} {cost : ι → κ → α} {u : ι → α} {v : κ → α}

structure Assigns (rows : Finset ι) (columns : Finset κ) (f : ι → κ) : Prop where
  maps : ∀ i ∈ rows, f i ∈ columns
  injective : ∀ i ∈ rows, ∀ i' ∈ rows, f i = f i' → i = i'

/-- Potentials below the costs, none of a column above zero. -/
structure Feasible (rows : Finset ι) (columns : Finset κ) (cost : ι → κ → α) (u : ι → α)
    (v : κ → α) : Prop where
  below : ∀ i ∈ rows, ∀ j ∈ columns, u i + v j ≤ cost i j
  nonpos : ∀ j ∈ columns, v j ≤ 0

/-- The assignment meets the potentials, and columns it leaves out have none. -/
structure Certified (rows : Finset ι) (columns : Finset κ) (cost : ι → κ → α) (u : ι → α)
    (v : κ → α) (f : ι → κ) : Prop
    extends Feasible rows columns cost u v, Assigns rows columns f where
  tight : ∀ i ∈ rows, u i + v (f i) = cost i (f i)
  free : ∀ j ∈ columns, (∀ i ∈ rows, f i ≠ j) → v j = 0

theorem Certified.sum_eq {f : ι → κ} (h : Certified rows columns cost u v f) :
    ∑ i ∈ rows, cost i (f i) = ∑ i ∈ rows, u i + ∑ j ∈ columns, v j := by
  classical
  have himage : rows.image f ⊆ columns := Finset.image_subset_iff.mpr h.maps
  have hcolumns : ∑ j ∈ rows.image f, v j = ∑ j ∈ columns, v j := by
    refine Finset.sum_subset himage fun j hj hout => h.free j hj fun i hi hij => ?_
    exact hout (Finset.mem_image.mpr ⟨i, hi, hij⟩)
  calc ∑ i ∈ rows, cost i (f i)
      = ∑ i ∈ rows, (u i + v (f i)) := Finset.sum_congr rfl fun i hi => (h.tight i hi).symm
    _ = ∑ i ∈ rows, u i + ∑ j ∈ rows.image f, v j := by
      rw [Finset.sum_add_distrib, Finset.sum_image h.injective]
    _ = ∑ i ∈ rows, u i + ∑ j ∈ columns, v j := by rw [hcolumns]

section Bound

variable [IsOrderedAddMonoid α]

theorem Feasible.le_sum (h : Feasible rows columns cost u v) {g : ι → κ}
    (hg : Assigns rows columns g) :
    ∑ i ∈ rows, u i + ∑ j ∈ columns, v j ≤ ∑ i ∈ rows, cost i (g i) := by
  classical
  have himage : rows.image g ⊆ columns := Finset.image_subset_iff.mpr hg.maps
  have hcolumns : ∑ j ∈ columns, v j ≤ ∑ j ∈ rows.image g, v j := by
    rw [← Finset.sum_sdiff himage]
    refine add_le_of_nonpos_left (Finset.sum_nonpos fun j hj => ?_)
    exact h.nonpos j (Finset.mem_sdiff.mp hj).1
  calc ∑ i ∈ rows, u i + ∑ j ∈ columns, v j
      ≤ ∑ i ∈ rows, u i + ∑ j ∈ rows.image g, v j := add_le_add_right hcolumns _
    _ = ∑ i ∈ rows, (u i + v (g i)) := by
      rw [Finset.sum_image hg.injective, Finset.sum_add_distrib]
    _ ≤ ∑ i ∈ rows, cost i (g i) :=
      Finset.sum_le_sum fun i hi => h.below i hi (g i) (hg.maps i hi)

theorem Certified.optimal {f g : ι → κ} (h : Certified rows columns cost u v f)
    (hg : Assigns rows columns g) : ∑ i ∈ rows, cost i (f i) ≤ ∑ i ∈ rows, cost i (g i) :=
  h.sum_eq.le.trans (h.toFeasible.le_sum hg)

end Bound

end Assignment
