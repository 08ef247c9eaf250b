/-
# Rows found by a key

A table is a list of rows with a key each.  A query by key finds the first row of the key, and a
statement by key changes every row of it; a statement that changes no key is then seen by the
queries of its own key only.
-/
import Mathlib.Data.List.Basic

namespace KeyedRows

variable {κ ρ : Type} [DecidableEq κ] (key : ρ → κ)

def find (rows : List ρ) (k : κ) : Option ρ := rows.find? fun row => key row = k

def update (k : κ) (change : ρ → ρ) (rows : List ρ) : List ρ :=
  rows.map fun row => if key row = k then change row else row

def delete (k : κ) (rows : List ρ) : List ρ := rows.filter fun row => key row ≠ k

/-- `INSERT … ON CONFLICT (key) DO UPDATE` of every column. -/
def upsert (row : ρ) (rows : List ρ) : List ρ :=
  if (find key rows (key row)).isSome then update key (key row) (fun _ => row) rows
  else rows ++ [row]

variable {key} {rows : List ρ} {k other : κ} {row : ρ}

theorem key_of_find (h : find key rows k = some row) : key row = k := by
  have hfound := List.find?_some h
  exact of_decide_eq_true hfound

theorem mem_of_find (h : find key rows k = some row) : row ∈ rows := List.mem_of_find?_eq_some h

theorem find_cons (head : ρ) :
    find key (head :: rows) k = if key head = k then some head else find key rows k := by
  unfold find
  rw [List.find?_cons]
  by_cases hhead : key head = k
  · simp only [hhead, decide_true, if_true]
  · simp only [hhead, decide_false, if_false]

theorem find_map (change : ρ → ρ) (hchange : ∀ row, key (change row) = key row) (rows : List ρ)
    (k : κ) : find key (rows.map change) k = (find key rows k).map change := by
  induction rows with
  | nil => rfl
  | cons head tail ih =>
    rw [List.map_cons, find_cons, find_cons, hchange, ih]
    by_cases hhead : key head = k
    · rw [if_pos hhead, if_pos hhead, Option.map_some]
    · rw [if_neg hhead, if_neg hhead]

theorem find_update_self (change : ρ → ρ) (hchange : ∀ row, key row = k → key (change row) = k)
    (rows : List ρ) : find key (update key k change rows) k = (find key rows k).map change := by
  induction rows with
  | nil => rfl
  | cons head tail ih =>
    have hrest : update key k change (head :: tail) =
        (if key head = k then change head else head) :: update key k change tail := rfl
    rw [hrest, find_cons, find_cons, ih]
    by_cases hhead : key head = k
    · rw [if_pos hhead, if_pos hhead, if_pos (hchange head hhead), Option.map_some]
    · rw [if_neg hhead, if_neg hhead, if_neg hhead]

theorem find_update_of_ne (change : ρ → ρ) (hchange : ∀ row, key row = k → key (change row) = k)
    (hother : other ≠ k) (rows : List ρ) :
    find key (update key k change rows) other = find key rows other := by
  induction rows with
  | nil => rfl
  | cons head tail ih =>
    have hrest : update key k change (head :: tail) =
        (if key head = k then change head else head) :: update key k change tail := rfl
    rw [hrest, find_cons, find_cons, ih]
    by_cases hhead : key head = k
    · rw [if_pos hhead, if_neg (by rw [hchange head hhead]; exact hother.symm),
        if_neg (by rw [hhead]; exact hother.symm)]
    · rw [if_neg hhead]

theorem find_delete_self (rows : List ρ) : find key (delete key k rows) k = none := by
  refine List.find?_eq_none.mpr fun row hrow => ?_
  have hne := (List.mem_filter.mp hrow).2
  simpa using hne

theorem find_delete_of_ne (hother : other ≠ k) (rows : List ρ) :
    find key (delete key k rows) other = find key rows other := by
  induction rows with
  | nil => rfl
  | cons head tail ih =>
    rw [find_cons]
    unfold delete at ih ⊢
    rw [List.filter_cons]
    by_cases hhead : key head = k
    · rw [if_neg (by simp [hhead]), ih, if_neg (by rw [hhead]; exact hother.symm)]
    · rw [if_pos (by simp [hhead]), find_cons, ih]

theorem find_append_new (row : ρ) (rows : List ρ) :
    find key (rows ++ [row]) other =
      (find key rows other).or (if key row = other then some row else none) := by
  unfold find
  rw [List.find?_append, List.find?_singleton]
  by_cases hrow : key row = other
  · simp only [hrow, decide_true, if_true]
  · simp only [hrow, decide_false, if_false, Bool.false_eq_true]

theorem find_upsert_self (row : ρ) (rows : List ρ) :
    find key (upsert key row rows) (key row) = some row := by
  unfold upsert
  split
  · rename_i hsome
    obtain ⟨old, hold⟩ := Option.isSome_iff_exists.mp hsome
    rw [find_update_self _ (fun _ _ => rfl), hold, Option.map_some]
  · rename_i hnone
    rw [Option.not_isSome_iff_eq_none] at hnone
    rw [find_append_new, hnone, if_pos rfl, Option.none_or]

theorem find_upsert_of_ne (row : ρ) (rows : List ρ) (hother : other ≠ key row) :
    find key (upsert key row rows) other = find key rows other := by
  unfold upsert
  split
  · exact find_update_of_ne _ (fun _ _ => rfl) hother rows
  · rw [find_append_new, if_neg hother.symm, Option.or_none]

end KeyedRows
