/-
# The assignment that costs least

`album.rs`: `minimum_assignment`, the rectangular Hungarian algorithm.  Rows and columns are
numbered from one; column zero stands for the row that is being placed.  A row is placed by growing
a tree of columns that are reached at no reduced cost, until a free one is among them, and by
moving every row on the way back to the column it was reached from.
-/
import Mathlib.Logic.Function.Basic
import MusicServer.AssignmentDuality

namespace MusicServer.Album

/-! ## The source -/

def i64 (value : ℤ) : ℤ := value.bmod (2 ^ 64)

def i64Max : ℤ := 2 ^ 63 - 1

def entry (costs : List (List ℤ)) (row column : ℕ) : ℤ := (costs.getD row []).getD column 0

structure Placement where
  u : ℕ → ℤ
  v : ℕ → ℤ
  p : ℕ → ℕ
  way : ℕ → ℕ

structure Search extends Placement where
  j0 : ℕ
  min : ℕ → ℤ
  used : ℕ → Bool

/-- What one pass over the columns that are not used finds. -/
structure Scan where
  min : ℕ → ℤ
  way : ℕ → ℕ
  delta : ℤ
  j1 : ℕ

def scanColumn (used : ℕ → Bool) (cur : ℕ → ℤ) (j0 : ℕ) (scan : Scan) (j : ℕ) : Scan :=
  if used j then scan
  else
    let scan :=
      if cur j < scan.min j then
        { scan with
          min := Function.update scan.min j (cur j), way := Function.update scan.way j j0 }
      else scan
    if scan.min j < scan.delta then { scan with delta := scan.min j, j1 := j } else scan

/-- What the columns and the rows placed in them gain or lose. -/
structure Shift where
  u : ℕ → ℤ
  v : ℕ → ℤ
  min : ℕ → ℤ

def shiftColumn (used : ℕ → Bool) (p : ℕ → ℕ) (delta : ℤ) (shift : Shift) (j : ℕ) : Shift :=
  if used j then
    { shift with
      u := Function.update shift.u (p j) (i64 (shift.u (p j) + delta))
      v := Function.update shift.v j (i64 (shift.v j - delta)) }
  else { shift with min := Function.update shift.min j (i64 (shift.min j - delta)) }

section Source

variable (costs : List (List ℤ)) (m : ℕ)

def Search.turn (search : Search) : Search :=
  let used := Function.update search.used search.j0 true
  let i0 := search.p search.j0
  let cur := fun j => i64 (i64 (entry costs (i0 - 1) (j - 1) - search.u i0) - search.v j)
  let scan := (List.range' 1 m).foldl (scanColumn used cur search.j0)
    ⟨search.min, search.way, i64Max, 0⟩
  let shift := (List.range (m + 1)).foldl (shiftColumn used search.p scan.delta)
    ⟨search.u, search.v, scan.min⟩
  ⟨⟨shift.u, shift.v, search.p, scan.way⟩, scan.j1, shift.min, used⟩

/-- The search goes on until a free column is reached; `none` is a search that is not over. -/
def Search.run : ℕ → Search → Option Search
  | 0, _ => none
  | fuel + 1, search =>
    let next := search.turn costs m
    if next.p next.j0 = 0 then some next else next.run fuel

/-- The rows move up the tree until column zero is reached. -/
def augment (way : ℕ → ℕ) : ℕ → (ℕ → ℕ) → ℕ → Option (ℕ → ℕ)
  | 0, _, _ => none
  | fuel + 1, p, j0 =>
    let j1 := way j0
    let p := Function.update p j0 (p j1)
    if j1 = 0 then some p else augment way fuel p j1

def placeRow (placement : Placement) (i : ℕ) : Option Placement := do
  let search : Search :=
    ⟨{ placement with p := Function.update placement.p 0 i }, 0, fun _ => i64Max, fun _ => false⟩
  let found ← search.run costs m (m + 1)
  let p ← augment found.way (m + 1) found.p found.j0
  some { found.toPlacement with p }

def columnsOf (p : ℕ → ℕ) (n : ℕ) : List ℕ :=
  (List.range' 1 m).foldl (fun result j => if 0 < p j then result.set (p j - 1) (j - 1) else result)
    (List.replicate n m)

end Source

/-- Every row has its own unmatched alternative; `none` is a run whose loops do not end. -/
def minimumAssignment (costs : List (List ℤ)) : Option (List ℕ) :=
  match costs with
  | [] => some []
  | row :: _ => do
    let m := row.length
    let placed ← (List.range' 1 costs.length).foldlM (placeRow costs m)
      ⟨fun _ => 0, fun _ => 0, fun _ => 0, fun _ => 0⟩
    some (columnsOf m placed.p costs.length)

example : minimumAssignment [[1, 2, 100, 100], [2, 1000, 100, 100]] = some [1, 0] := by
  decide +kernel

/-! ## The loops over columns -/

theorem i64_eq {value : ℤ} (hlow : -2 ^ 63 ≤ value) (hhigh : value < 2 ^ 63) :
    i64 value = value := by
  unfold i64
  refine Int.bmod_eq_of_le ?_ ?_ <;> omega

section Loops

variable {used : ℕ → Bool} {cur : ℕ → ℤ} {j0 : ℕ} {start scan : Scan} {k : ℕ}

theorem scanColumn_min (j : ℕ) : (scanColumn used cur j0 scan k).min j =
    if j = k ∧ used j = false ∧ cur j < scan.min j then cur j else scan.min j := by
  unfold scanColumn
  by_cases hj : j = k
  · subst hj
    cases hused : used j <;> by_cases hless : cur j < scan.min j <;>
      simp [hless, apply_ite Scan.min]
  · cases used k <;> by_cases hless : cur k < scan.min k <;>
      simp [hless, hj, apply_ite Scan.min, apply_ite (fun f : ℕ → ℤ => f j)]

theorem scanColumn_way (j : ℕ) : (scanColumn used cur j0 scan k).way j =
    if j = k ∧ used j = false ∧ cur j < scan.min j then j0 else scan.way j := by
  unfold scanColumn
  by_cases hj : j = k
  · subst hj
    cases hused : used j <;> by_cases hless : cur j < scan.min j <;>
      simp [hless, apply_ite Scan.way]
  · cases used k <;> by_cases hless : cur k < scan.min k <;>
      simp [hless, hj, apply_ite Scan.way, apply_ite (fun f : ℕ → ℕ => f j)]

theorem scanColumn_used (h : used k = true) : scanColumn used cur j0 scan k = scan := if_pos h

theorem scanColumn_best (h : used k = false) : let next := scanColumn used cur j0 scan k
    next.min k < scan.delta ∧ next.delta = next.min k ∧ next.j1 = k ∨
      scan.delta ≤ next.min k ∧ next.delta = scan.delta ∧ next.j1 = scan.j1 := by
  unfold scanColumn
  rw [if_neg (by rw [h]; decide)]
  by_cases hless : cur k < scan.min k <;> simp only [hless, if_true, if_false]
  · by_cases hbest : Function.update scan.min k (cur k) k < scan.delta
    · rw [if_pos hbest]
      exact .inl ⟨hbest, rfl, rfl⟩
    · rw [if_neg hbest]
      exact .inr ⟨not_lt.mp hbest, rfl, rfl⟩
  · by_cases hbest : scan.min k < scan.delta
    · rw [if_pos hbest]
      exact .inl ⟨hbest, rfl, rfl⟩
    · rw [if_neg hbest]
      exact .inr ⟨not_lt.mp hbest, rfl, rfl⟩

/-- The columns up to `k` are scanned. -/
structure Scanned (used : ℕ → Bool) (cur : ℕ → ℤ) (j0 : ℕ) (start : Scan) (k : ℕ) (scan : Scan) :
    Prop where
  min : ∀ j, scan.min j =
    if (1 ≤ j ∧ j ≤ k) ∧ used j = false ∧ cur j < start.min j then cur j else start.min j
  way : ∀ j, scan.way j =
    if (1 ≤ j ∧ j ≤ k) ∧ used j = false ∧ cur j < start.min j then j0 else start.way j
  least : ∀ j, 1 ≤ j → j ≤ k → used j = false → scan.delta ≤ scan.min j
  found : scan.delta = start.delta ∨
    1 ≤ scan.j1 ∧ scan.j1 ≤ k ∧ used scan.j1 = false ∧ scan.delta = scan.min scan.j1

theorem Scanned.step (h : Scanned used cur j0 start k scan) :
    Scanned used cur j0 start (k + 1) (scanColumn used cur j0 scan (k + 1)) := by
  have hmin : scan.min (k + 1) = start.min (k + 1) := by
    rw [h.min, if_neg (by omega)]
  have hway : scan.way (k + 1) = start.way (k + 1) := by
    rw [h.way, if_neg (by omega)]
  have hbefore : ∀ j, j ≠ k + 1 → (scanColumn used cur j0 scan (k + 1)).min j = scan.min j :=
    fun j hj => by rw [scanColumn_min, if_neg fun hsame => hj hsame.1]
  have hrange : ∀ j, j ≠ k + 1 → ((1 ≤ j ∧ j ≤ k + 1) ↔ (1 ≤ j ∧ j ≤ k)) := fun j hj => by omega
  refine ⟨fun j => ?_, fun j => ?_, fun j hlow hhigh hj => ?_, ?_⟩
  · rw [scanColumn_min]
    by_cases hj : j = k + 1
    · subst hj
      simp [hmin]
    · rw [if_neg fun hsame => hj hsame.1, h.min]
      simp only [hrange j hj]
  · rw [scanColumn_way]
    by_cases hj : j = k + 1
    · subst hj
      simp [hmin, hway]
    · rw [if_neg fun hsame => hj hsame.1, h.way]
      simp only [hrange j hj]
  · by_cases hlast : j = k + 1
    · subst hlast
      rcases @scanColumn_best used cur j0 scan (k + 1) hj with
        ⟨-, hdelta, -⟩ | ⟨hkeep, hdelta, -⟩
      · exact hdelta.le
      · exact hdelta.le.trans hkeep
    · have hold := h.least j hlow ((hrange j hlast).mp ⟨hlow, hhigh⟩).2 hj
      rw [hbefore j hlast]
      cases hused : used (k + 1) with
      | true => rwa [scanColumn_used hused]
      | false =>
        rcases @scanColumn_best used cur j0 scan (k + 1) hused with
          ⟨hless, hdelta, -⟩ | ⟨-, hdelta, -⟩
        · exact hdelta.le.trans (hless.le.trans hold)
        · exact hdelta.le.trans hold
  · cases hused : used (k + 1) with
    | true =>
      rw [scanColumn_used hused]
      exact h.found.imp id fun ⟨hlow, hhigh, hj, hdelta⟩ => ⟨hlow, by omega, hj, hdelta⟩
    | false =>
      rcases @scanColumn_best used cur j0 scan (k + 1) hused with
        ⟨-, hdelta, hj1⟩ | ⟨-, hdelta, hj1⟩
      · rw [hj1]
        exact .inr ⟨by omega, le_rfl, hused, hdelta⟩
      · rw [hj1, hdelta]
        refine h.found.imp id fun ⟨hlow, hhigh, hj, hfound⟩ => ⟨hlow, by omega, hj, ?_⟩
        rw [hbefore _ (by omega), hfound]

theorem scanned (used : ℕ → Bool) (cur : ℕ → ℤ) (j0 : ℕ) (start : Scan) (m : ℕ) :
    Scanned used cur j0 start m ((List.range' 1 m).foldl (scanColumn used cur j0) start) := by
  induction m with
  | zero =>
    refine ⟨fun j => (if_neg fun h => ?_).symm, fun j => (if_neg fun h => ?_).symm,
      fun j hlow hhigh => ?_, .inl rfl⟩ <;> omega
  | succ m ih =>
    rw [List.range'_1_concat, List.foldl_append, Nat.add_comm 1 m]
    exact ih.step

/-- The columns below `k` are shifted. -/
structure Shifted (used : ℕ → Bool) (p : ℕ → ℕ) (delta : ℤ) (start : Shift) (k : ℕ)
    (shift : Shift) : Prop where
  rows : ∀ j, j < k → used j = true → shift.u (p j) = i64 (start.u (p j) + delta)
  otherRows : ∀ r, (∀ j, j < k → used j = true → p j ≠ r) → shift.u r = start.u r
  columns : ∀ j, shift.v j =
    if j < k ∧ used j = true then i64 (start.v j - delta) else start.v j
  min : ∀ j, shift.min j =
    if j < k ∧ used j = false then i64 (start.min j - delta) else start.min j

variable {p : ℕ → ℕ} {delta : ℤ} {before shift : Shift}

theorem Shifted.step (h : Shifted used p delta before k shift)
    (hrows : ∀ j, j < k → used j = true → used k = true → p j ≠ p k) :
    Shifted used p delta before (k + 1) (shiftColumn used p delta shift k) := by
  have hrange : ∀ j, j ≠ k → (j < k + 1 ↔ j < k) := fun j hj => by omega
  have hcolumn : shift.v k = before.v k := by rw [h.columns, if_neg (by omega)]
  have hmin : shift.min k = before.min k := by rw [h.min, if_neg (by omega)]
  unfold shiftColumn
  cases hused : used k with
  | true =>
    have hrow : shift.u (p k) = before.u (p k) :=
      h.otherRows (p k) fun j hj hjused => hrows j hj hjused hused
    rw [if_pos rfl]
    refine ⟨fun j hj hjused => ?_, fun r hr => ?_, fun j => ?_, fun j => ?_⟩
    · by_cases hlast : j = k
      · subst hlast
        simp [hrow]
      · have hbefore := (hrange j hlast).mp hj
        simp only [Function.update_of_ne (hrows j hbefore hjused hused)]
        exact h.rows j hbefore hjused
    · simp only [Function.update_of_ne (hr k (by omega) hused).symm]
      exact h.otherRows r fun j hj => hr j (by omega)
    · by_cases hlast : j = k
      · subst hlast
        simp [hcolumn, hused]
      · simp only [Function.update_of_ne hlast, h.columns, hrange j hlast]
    · by_cases hlast : j = k
      · subst hlast
        simp [hmin, hused]
      · simp only [h.min, hrange j hlast]
  | false =>
    rw [if_neg (by decide)]
    refine ⟨fun j hj hjused => ?_, fun r hr => ?_, fun j => ?_, fun j => ?_⟩
    · have hne : j ≠ k := by
        rintro rfl
        rw [hused] at hjused
        cases hjused
      exact h.rows j ((hrange j hne).mp hj) hjused
    · exact h.otherRows r fun j hj => hr j (by omega)
    · by_cases hlast : j = k
      · subst hlast
        simp [hcolumn, hused]
      · simp only [h.columns, hrange j hlast]
    · by_cases hlast : j = k
      · subst hlast
        simp [hmin, hused]
      · simp only [Function.update_of_ne hlast, h.min, hrange j hlast]

theorem shifted {k : ℕ} (hrows : ∀ i, i < k → ∀ j, j < k → used i = true → used j = true →
    p i = p j → i = j) (before : Shift) :
    Shifted used p delta before k ((List.range k).foldl (shiftColumn used p delta) before) := by
  induction k with
  | zero =>
    refine ⟨fun j hj => absurd hj (Nat.not_lt_zero j), fun _ _ => rfl, fun j => ?_, fun j => ?_⟩
    · exact (if_neg fun h => Nat.not_lt_zero j h.1).symm
    · exact (if_neg fun h => Nat.not_lt_zero j h.1).symm
  | succ k ih =>
    rw [List.range_succ, List.foldl_append]
    refine (ih fun i hi j hj => hrows i (by omega) j (by omega)).step ?_
    intro j hj hjused hkused hsame
    have heq := hrows j (by omega) k (by omega) hjused hkused hsame
    omega

end Loops

end MusicServer.Album
