/-
# Local search

From a state the search goes to the best of its moves, as long as one of them makes the error
strictly smaller.  Among finitely many states it ends, and no move from where it ends makes the
error smaller (`search_ends`).

* `le_of_improvement_eq_none`, `lt_of_improvement_eq_some`: one step;
* `bestIndex_lt`, `bestIndex_isSome`: the place of a best element of a list.
-/
import Mathlib.Data.Finset.Card
import Mathlib.Data.List.Basic
import Mathlib.Order.Lattice

namespace LocalSearch

/-! ## The place of a best element -/

section Index

variable {α : Type} (replaces : α → α → Bool)

/-- The element kept so far, with its place, and the one that comes next. -/
def keepBest (best : Option (α × ℕ)) (entry : α × ℕ) : Option (α × ℕ) :=
  match best with
  | none => some entry
  | some kept => if replaces entry.1 kept.1 then some entry else some kept

/-- The place of the element that is left when each one may replace the one kept before. -/
def bestIndex (l : List α) : Option ℕ :=
  (l.zipIdx.foldl (keepBest replaces) none).map Prod.snd

variable {replaces} {l : List α}

theorem foldl_keepBest_mem {entries : List (α × ℕ)} {best : Option (α × ℕ)} {entry : α × ℕ}
    (h : entries.foldl (keepBest replaces) best = some entry) :
    best = some entry ∨ entry ∈ entries := by
  induction entries generalizing best with
  | nil => exact .inl h
  | cons first rest ih =>
    rcases ih h with hkept | hmem
    · unfold keepBest at hkept
      split at hkept
      · exact .inr (Option.some.inj hkept ▸ List.mem_cons_self)
      · split at hkept
        · exact .inr (Option.some.inj hkept ▸ List.mem_cons_self)
        · exact .inl hkept
    · exact .inr (List.mem_cons_of_mem _ hmem)

theorem foldl_keepBest_isSome {entries : List (α × ℕ)} {best : Option (α × ℕ)}
    (h : best.isSome) : (entries.foldl (keepBest replaces) best).isSome := by
  induction entries generalizing best with
  | nil => exact h
  | cons first rest ih =>
    refine ih ?_
    unfold keepBest
    split
    · rfl
    · split <;> rfl

theorem bestIndex_lt {index : ℕ} (h : bestIndex replaces l = some index) : index < l.length := by
  obtain ⟨entry, hentry, rfl⟩ := Option.map_eq_some_iff.mp h
  rcases foldl_keepBest_mem hentry with hnone | hmem
  · cases hnone
  · exact (List.mem_zipIdx' hmem).1

theorem bestIndex_isSome (h : l ≠ []) : (bestIndex replaces l).isSome := by
  unfold bestIndex
  rw [Option.isSome_map]
  cases l with
  | nil => exact absurd rfl h
  | cons first rest => exact @foldl_keepBest_isSome _ replaces _ (some (first, 0)) rfl

end Index

/-! ## The search -/

section Search

variable {σ ε : Type} [LinearOrder ε] (error : σ → ε) (moves : σ → List σ)

/-- The least error so far, and the move that has it. -/
def keepLower (best : ε × Option σ) (next : σ) : ε × Option σ :=
  if error next < best.1 then (error next, some next) else best

/-- The first of the moves with the least error, if that is less than the error of the state. -/
def improvement (state : σ) : Option σ :=
  ((moves state).foldl (keepLower error) (error state, none)).2

/-- Improves as long as it can; `none` where the fuel does not suffice. -/
def search : ℕ → σ → Option σ
  | 0, _ => none
  | fuel + 1, state =>
    match improvement error moves state with
    | none => some state
    | some next => search fuel next

variable {error moves} {state next : σ}

theorem foldl_keepLower {nexts : List σ} {best kept : ε × Option σ}
    (h : nexts.foldl (keepLower error) best = kept) :
    (∀ next ∈ nexts, kept.1 ≤ error next) ∧
      (kept = best ∨ ∃ next ∈ nexts, kept = (error next, some next) ∧ error next < best.1) := by
  induction nexts generalizing best with
  | nil => exact ⟨fun _ hmem => absurd hmem List.not_mem_nil, .inl h.symm⟩
  | cons first rest ih =>
    obtain ⟨hleast, hkept⟩ := ih h
    unfold keepLower at hkept
    split at hkept
    · next hlower =>
      rcases hkept with rfl | ⟨next, hmem, rfl, hless⟩
      · refine ⟨List.forall_mem_cons.mpr ⟨le_rfl, hleast⟩, .inr ?_⟩
        exact ⟨first, List.mem_cons_self, rfl, hlower⟩
      · refine ⟨List.forall_mem_cons.mpr ⟨hless.le, hleast⟩, .inr ?_⟩
        exact ⟨next, List.mem_cons_of_mem _ hmem, rfl, hless.trans hlower⟩
    · next hnot =>
      have hfirst := not_lt.mp hnot
      rcases hkept with rfl | ⟨next, hmem, rfl, hless⟩
      · exact ⟨List.forall_mem_cons.mpr ⟨hfirst, hleast⟩, .inl rfl⟩
      · refine ⟨List.forall_mem_cons.mpr ⟨hless.le.trans hfirst, hleast⟩, .inr ?_⟩
        exact ⟨next, List.mem_cons_of_mem _ hmem, rfl, hless⟩

theorem le_of_improvement_eq_none (h : improvement error moves state = none) :
    ∀ next ∈ moves state, error state ≤ error next := by
  obtain ⟨hleast, hkept⟩ := @foldl_keepLower _ _ _ error (moves state) (error state, none) _ rfl
  rcases hkept with hsame | ⟨next, -, hsome, -⟩
  · rwa [hsame] at hleast
  · unfold improvement at h
    rw [hsome] at h
    cases h

theorem lt_of_improvement_eq_some (h : improvement error moves state = some next) :
    next ∈ moves state ∧ error next < error state := by
  obtain ⟨-, hkept⟩ := @foldl_keepLower _ _ _ error (moves state) (error state, none) _ rfl
  unfold improvement at h
  rcases hkept with hsame | ⟨found, hmem, hsome, hless⟩
  · rw [hsame] at h
    cases h
  · rw [hsome] at h
    obtain rfl := Option.some.inj h
    exact ⟨hmem, hless⟩

theorem card_better_lt {states : Finset σ} (hnext : next ∈ states)
    (hless : error next < error state) :
    (states.filter fun other => error other < error next).card <
      (states.filter fun other => error other < error state).card := by
  refine Finset.card_lt_card ⟨fun other hother => ?_, fun hsub => ?_⟩
  · obtain ⟨hmem, hbetter⟩ := Finset.mem_filter.mp hother
    exact Finset.mem_filter.mpr ⟨hmem, hbetter.trans hless⟩
  · have hself := hsub (Finset.mem_filter.mpr ⟨hnext, hless⟩)
    exact lt_irrefl _ (Finset.mem_filter.mp hself).2

theorem search_ends {states : Finset σ} (hmoves : ∀ s ∈ states, ∀ next ∈ moves s, next ∈ states)
    (hstate : state ∈ states) :
    ∃ result ∈ states, (∀ next ∈ moves result, error result ≤ error next) ∧
      ∀ fuel, states.card < fuel → search error moves fuel state = some result := by
  have hends : ∀ bound, ∀ s ∈ states,
      (states.filter fun other => error other < error s).card < bound →
        ∃ result ∈ states, (∀ next ∈ moves result, error result ≤ error next) ∧
          ∀ fuel, bound ≤ fuel → search error moves fuel s = some result := by
    intro bound
    induction bound with
    | zero => exact fun s _ hcard => absurd hcard (Nat.not_lt_zero _)
    | succ bound ih =>
      intro s hs hcard
      cases hfound : improvement error moves s with
      | none =>
        refine ⟨s, hs, le_of_improvement_eq_none hfound, fun fuel hfuel => ?_⟩
        obtain ⟨fuel, rfl⟩ : ∃ rest, fuel = rest + 1 := ⟨fuel - 1, by omega⟩
        rw [search, hfound]
      | some next =>
        obtain ⟨hmem, hless⟩ := lt_of_improvement_eq_some hfound
        have hnext := hmoves s hs next hmem
        have hfewer := card_better_lt hnext hless
        obtain ⟨result, hresult, hbest, hfuel⟩ := ih next hnext (by omega)
        refine ⟨result, hresult, hbest, fun fuel hlarge => ?_⟩
        obtain ⟨fuel, rfl⟩ : ∃ rest, fuel = rest + 1 := ⟨fuel - 1, by omega⟩
        rw [search, hfound]
        exact hfuel fuel (by omega)
  have hfew := Finset.card_filter_le states fun other => error other < error state
  exact hends (states.card + 1) state hstate (by omega)

end Search

end LocalSearch
