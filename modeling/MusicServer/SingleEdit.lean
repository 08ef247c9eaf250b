/-
# Lists one edit apart

One insertion, deletion or substitution of an element, or one transposition of two different
neighbours, and a decision of it without a search: lists of one length are compared place by
place, and of two lists whose lengths differ by one the longer is walked along the shorter with
one element left out.

* `oneEdit_cons_same`: an equal first element plays no part;
* `sameLength_iff`, `leaveOneOut_iff`: what the two walks decide.
-/
import Mathlib.Data.List.Basic

namespace SingleEdit

variable {α : Type}

/-- The second list is the first after exactly one edit. -/
inductive OneEdit : List α → List α → Prop
  | insert (front : List α) (a : α) (back : List α) : OneEdit (front ++ back) (front ++ a :: back)
  | delete (front : List α) (a : α) (back : List α) : OneEdit (front ++ a :: back) (front ++ back)
  | substitute (front : List α) {a b : α} (hne : a ≠ b) (back : List α) :
      OneEdit (front ++ a :: back) (front ++ b :: back)
  | transpose (front : List α) {a b : α} (hne : a ≠ b) (back : List α) :
      OneEdit (front ++ a :: b :: back) (front ++ b :: a :: back)

variable {s t : List α}

theorem OneEdit.symm (h : OneEdit s t) : OneEdit t s := by
  cases h with
  | insert front a back => exact .delete front a back
  | delete front a back => exact .insert front a back
  | substitute front hne back => exact .substitute front hne.symm back
  | transpose front hne back => exact .transpose front hne.symm back

theorem OneEdit.cons {s t : List α} (h : OneEdit s t) (c : α) : OneEdit (c :: s) (c :: t) := by
  cases h with
  | insert front a back => exact .insert (c :: front) a back
  | delete front a back => exact .delete (c :: front) a back
  | substitute front hne back => exact .substitute (c :: front) hne back
  | transpose front hne back => exact .transpose (c :: front) hne back

theorem OneEdit.length (h : OneEdit s t) :
    s.length + 1 = t.length ∨ t.length + 1 = s.length ∨ (s.length = t.length ∧ s ≠ t) := by
  cases h with
  | insert front a back | delete front a back => simp; omega
  | substitute front hne back | transpose front hne back =>
    refine .inr (.inr ⟨by simp, fun heq => hne ?_⟩)
    exact (List.cons.inj (List.append_cancel_left heq)).1

/-! ## Edits at the first element -/

theorem oneEdit_cons_ne {a b : α} (hab : a ≠ b) (hlength : s.length = t.length) :
    OneEdit (a :: s) (b :: t) ↔ s = t ∨ ∃ back, s = b :: back ∧ t = a :: back := by
  constructor
  · generalize hs : a :: s = s'
    generalize ht : b :: t = t'
    intro h
    cases h with
    | insert front c back | delete front c back =>
      have := congrArg List.length hs
      have := congrArg List.length ht
      simp at *
      omega
    | @substitute front c d hne back =>
      obtain _ | ⟨x, front⟩ := front
      · exact .inl ((List.cons.inj hs).2.trans (List.cons.inj ht).2.symm)
      · exact absurd ((List.cons.inj hs).1.trans (List.cons.inj ht).1.symm) hab
    | @transpose front c d hne back =>
      obtain _ | ⟨x, front⟩ := front
      · obtain ⟨rfl, rfl⟩ := List.cons.inj hs
        obtain ⟨rfl, rfl⟩ := List.cons.inj ht
        exact .inr ⟨back, rfl, rfl⟩
      · exact absurd ((List.cons.inj hs).1.trans (List.cons.inj ht).1.symm) hab
  · rintro (rfl | ⟨back, rfl, rfl⟩)
    · exact .substitute [] hab s
    · exact .transpose [] hab back

theorem oneEdit_cons_same (c : α) (hlength : s.length = t.length) :
    OneEdit (c :: s) (c :: t) ↔ OneEdit s t := by
  refine ⟨?_, fun h => h.cons c⟩
  generalize hs : c :: s = s'
  generalize ht : c :: t = t'
  intro h
  cases h with
  | insert front a back | delete front a back =>
    have := congrArg List.length hs
    have := congrArg List.length ht
    simp at *
    omega
  | @substitute front a b hne back =>
    obtain _ | ⟨x, front⟩ := front
    · exact absurd ((List.cons.inj hs).1.symm.trans (List.cons.inj ht).1) hne
    · rw [(List.cons.inj hs).2, (List.cons.inj ht).2]
      exact .substitute front hne back
  | @transpose front a b hne back =>
    obtain _ | ⟨x, front⟩ := front
    · exact absurd ((List.cons.inj hs).1.symm.trans (List.cons.inj ht).1) hne
    · rw [(List.cons.inj hs).2, (List.cons.inj ht).2]
      exact .transpose front hne back

theorem oneEdit_longer (hlength : s.length + 1 = t.length) :
    OneEdit s t ↔ ∃ front a back, s = front ++ back ∧ t = front ++ a :: back := by
  constructor
  · intro h
    cases h with
    | insert front a back => exact ⟨front, a, back, rfl, rfl⟩
    | delete front a back => simp at hlength; omega
    | substitute front hne back | transpose front hne back => simp at hlength
  · rintro ⟨front, a, back, rfl, rfl⟩
    exact .insert front a back

/-! ## Lists of one length -/

variable [DecidableEq α]

def mismatches (source target : List α) : List ℕ :=
  (source.zip target).zipIdx.filterMap fun entry =>
    if entry.1.1 ≠ entry.1.2 then some entry.2 else none

theorem mismatches_cons (a b : α) (s t : List α) :
    mismatches (a :: s) (b :: t) =
      (if a ≠ b then [0] else []) ++ (mismatches s t).map (· + 1) := by
  have hshift : (s.zip t).zipIdx 1 = (s.zip t).zipIdx.map fun entry => (entry.1, entry.2 + 1) := by
    rw [List.zipIdx_succ]
  unfold mismatches
  rw [List.zip_cons_cons, List.zipIdx_cons, hshift, List.filterMap_cons, List.filterMap_map,
    List.map_filterMap]
  have htail : ∀ entry : (α × α) × ℕ,
      (if entry.1.1 = entry.1.2 then none else some (entry.2 + 1)) =
        (if entry.1.1 = entry.1.2 then none else some entry.2).map (· + 1) := by
    intro entry
    split <;> rfl
  by_cases hab : a = b
  · simp [hab, htail]
  · simp [hab, htail]

theorem mismatches_eq_nil (hlength : s.length = t.length) :
    mismatches s t = [] ↔ s = t := by
  induction s generalizing t with
  | nil => simp [List.length_eq_zero_iff.mp hlength.symm, mismatches]
  | cons a s ih =>
    obtain _ | ⟨b, t⟩ := t
    · cases hlength
    rw [mismatches_cons]
    by_cases hab : a = b
    · simp [hab, ih (Nat.succ.inj hlength)]
    · simp [hab]

/-- One place differs, or two neighbours are exchanged. -/
def sameLength (source target : List α) : Bool :=
  match mismatches source target with
  | [_] => true
  | [i, j] => j = i + 1 && source[i]? = target[j]? && source[j]? = target[i]?
  | _ => false

theorem sameLength_cons_same (c : α) (s t : List α) :
    sameLength (c :: s) (c :: t) = sameLength s t := by
  unfold sameLength
  rw [mismatches_cons, if_neg (by simp), List.nil_append]
  match mismatches s t with
  | [] => rfl
  | [_] => rfl
  | [i, j] => simp
  | _ :: _ :: _ :: _ => rfl

theorem mismatches_singleton_zero (hlength : s.length = t.length) :
    mismatches s t = [0] ↔
      ∃ a b back, a ≠ b ∧ s = a :: back ∧ t = b :: back := by
  obtain _ | ⟨a, s⟩ := s
  · obtain rfl := List.length_eq_zero_iff.mp hlength.symm
    simp [mismatches]
  obtain _ | ⟨b, t⟩ := t
  · cases hlength
  rw [mismatches_cons]
  by_cases hab : a = b
  · have hnot : (mismatches s t).map (· + 1) ≠ [0] := by
      intro h
      obtain ⟨x, hx, hzero⟩ := List.mem_map.mp (h ▸ List.mem_singleton.mpr rfl)
      omega
    simp only [hab, ne_eq, not_true_eq_false, if_false, List.nil_append, hnot, false_iff]
    rintro ⟨c, d, back, hcd, hs, ht⟩
    exact hcd ((List.cons.inj hs).1.symm.trans (List.cons.inj ht).1)
  · simp only [hab, ne_eq, not_false_eq_true, if_true, List.cons_append, List.nil_append,
      List.cons.injEq, true_and, List.map_eq_nil_iff, mismatches_eq_nil (Nat.succ.inj hlength)]
    constructor
    · rintro rfl
      exact ⟨a, b, s, hab, ⟨rfl, rfl⟩, rfl, rfl⟩
    · rintro ⟨c, d, back, -, ⟨-, rfl⟩, -, rfl⟩
      rfl

theorem sameLength_cons_ne {a b : α} (hab : a ≠ b) (hlength : s.length = t.length) :
    sameLength (a :: s) (b :: t) = true ↔
      s = t ∨ ∃ back, s = b :: back ∧ t = a :: back := by
  unfold sameLength
  rw [mismatches_cons, if_pos hab, List.cons_append, List.nil_append]
  match hrest : mismatches s t with
  | [] =>
    have hst : s = t := (mismatches_eq_nil hlength).mp hrest
    simp [hst]
  | [j] =>
    have hst : s ≠ t := fun h => by
      rw [(mismatches_eq_nil hlength).mpr h] at hrest
      cases hrest
    simp only [List.map_cons, List.map_nil, List.getElem?_cons_zero, List.getElem?_cons_succ, hst,
      false_or, Bool.and_eq_true, decide_eq_true_eq]
    constructor
    · rintro ⟨⟨hj, hat⟩, hsb⟩
      obtain rfl : j = 0 := by omega
      obtain ⟨c, d, back, -, rfl, rfl⟩ := (mismatches_singleton_zero hlength).mp hrest
      simp only [List.getElem?_cons_zero, Option.some.injEq] at hat hsb
      exact ⟨back, by rw [hsb], by rw [hat]⟩
    · rintro ⟨back, rfl, rfl⟩
      have hzero := (mismatches_singleton_zero hlength).mpr ⟨b, a, back, hab.symm, rfl, rfl⟩
      obtain rfl : j = 0 := List.singleton_inj.mp (hrest.symm.trans hzero)
      simp
  | j :: k :: more =>
    have hst : s ≠ t := fun h => by
      rw [(mismatches_eq_nil hlength).mpr h] at hrest
      cases hrest
    simp only [List.map_cons, Bool.false_eq_true, hst, false_or, false_iff]
    rintro ⟨back, rfl, rfl⟩
    rw [(mismatches_singleton_zero hlength).mpr ⟨b, a, back, hab.symm, rfl, rfl⟩] at hrest
    cases hrest

theorem sameLength_iff (hlength : s.length = t.length) :
    sameLength s t = true ↔ OneEdit s t := by
  induction s generalizing t with
  | nil =>
    obtain rfl := List.length_eq_zero_iff.mp hlength.symm
    have hno : ¬ OneEdit ([] : List α) [] := fun h => by
      rcases h.length with h | h | ⟨-, h⟩
      · cases h
      · cases h
      · exact h rfl
    simp [sameLength, mismatches, hno]
  | cons a s ih =>
    obtain _ | ⟨b, t⟩ := t
    · cases hlength
    have hrest : s.length = t.length := Nat.succ.inj hlength
    by_cases hab : a = b
    · subst hab
      rw [sameLength_cons_same, ih hrest, oneEdit_cons_same a hrest]
    · rw [sameLength_cons_ne hab hrest, oneEdit_cons_ne hab hrest]

/-! ## Lists whose lengths differ by one -/

/-- The walk along both lists; `skipped` is whether an element of the longer was left out. -/
def leaveOneOut : List α → List α → Bool → Bool
  | a :: shorter, b :: longer, skipped =>
    if a = b then leaveOneOut shorter longer skipped
    else if skipped then false
    else leaveOneOut (a :: shorter) longer true
  | _, _, _ => true

theorem leaveOneOut_skipped (hlength : s.length = t.length) :
    leaveOneOut s t true = true ↔ s = t := by
  induction s generalizing t with
  | nil =>
    obtain rfl := List.length_eq_zero_iff.mp hlength.symm
    simp [leaveOneOut]
  | cons a s ih =>
    obtain _ | ⟨b, t⟩ := t
    · cases hlength
    rw [leaveOneOut]
    by_cases hab : a = b
    · rw [if_pos hab, ih (Nat.succ.inj hlength), hab, List.cons.injEq]
      simp
    · simp [hab]

theorem leaveOneOut_iff (hlength : s.length + 1 = t.length) :
    leaveOneOut s t false = true ↔ ∃ front a back, s = front ++ back ∧ t = front ++ a :: back := by
  induction s generalizing t with
  | nil =>
    obtain ⟨b, rfl⟩ := List.length_eq_one_iff.mp hlength.symm
    simp only [leaveOneOut, true_iff]
    exact ⟨[], b, [], rfl, rfl⟩
  | cons c s ih =>
    obtain _ | ⟨b, t⟩ := t
    · cases hlength
    have hrest : s.length + 1 = t.length := Nat.succ.inj hlength
    rw [leaveOneOut]
    by_cases hcb : c = b
    · rw [if_pos hcb, ih hrest]
      subst hcb
      constructor
      · rintro ⟨front, a, back, rfl, rfl⟩
        exact ⟨c :: front, a, back, rfl, rfl⟩
      · rintro ⟨front, a, back, hs, ht⟩
        obtain _ | ⟨x, front⟩ := front
        · -- the element left out is the first of the longer list: the next one does as well
          obtain ⟨rfl, rfl⟩ := List.cons.inj ht
          exact ⟨[], c, s, rfl, hs.symm⟩
        · exact ⟨front, a, back, (List.cons.inj hs).2, (List.cons.inj ht).2⟩
    · rw [if_neg hcb, if_neg (by simp), leaveOneOut_skipped (by simpa using hrest)]
      constructor
      · rintro rfl
        exact ⟨[], b, c :: s, rfl, rfl⟩
      · rintro ⟨front, a, back, hs, ht⟩
        obtain _ | ⟨x, front⟩ := front
        · exact hs.trans (List.cons.inj ht).2.symm
        · exact absurd ((List.cons.inj hs).1.trans (List.cons.inj ht).1.symm) hcb

end SingleEdit
