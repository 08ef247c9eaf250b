/-
# The first element that is free

The elements of a list are tried in their order, and the first that a check clears is taken.  A
lenient check that clears all that a strict one does takes the same element, unless it is misled:
it comes past one that only it clears.  What is tried cannot run out of elements with free keys
while it is longer than the list of the keys in use.
-/
import Mathlib.Data.List.Perm.Subperm

namespace MusicServer

namespace FirstFree

variable {α κ : Type} {lenient strict : α → Bool} {l : List α}

/-- Only the lenient check clears some element, and the strict one clears none before it. -/
def Misled (lenient strict : α → Bool) (l : List α) : Prop :=
  ∃ before a after, l = before ++ a :: after ∧ (∀ b ∈ before, strict b = false) ∧
    lenient a = true ∧ strict a = false

theorem not_misled_iff (hle : ∀ a, strict a = true → lenient a = true) :
    ¬ Misled lenient strict l ↔ ∀ a, l.find? lenient = some a → strict a = true := by
  constructor
  · intro h a ha
    obtain ⟨hlenient, before, after, hl, hbefore⟩ := List.find?_eq_some_iff_append.mp ha
    by_contra hstrict
    refine h ⟨before, a, after, hl, fun b hb => ?_, hlenient, Bool.eq_false_iff.mpr hstrict⟩
    have hskipped := hbefore b hb
    rw [Bool.not_eq_true'] at hskipped
    exact Bool.eq_false_iff.mpr fun hb' => by simp [hle b hb'] at hskipped
  · rintro h ⟨before, a, after, rfl, hbefore, hlenient, hstrict⟩
    cases hfind : before.find? lenient with
    | some b =>
      have hb := h b (by rw [List.find?_append, hfind]; rfl)
      rw [hbefore b (List.mem_of_find?_eq_some hfind)] at hb
      cases hb
    | none =>
      have ha := h a (by rw [List.find?_append, hfind, List.find?_cons_of_pos hlenient]; rfl)
      rw [hstrict] at ha
      cases ha

theorem find?_eq (hle : ∀ a, strict a = true → lenient a = true)
    (h : ¬ Misled lenient strict l) : l.find? lenient = l.find? strict := by
  have hclears := (not_misled_iff hle).mp h
  cases hfind : l.find? lenient with
  | none =>
    refine (List.find?_eq_none.mpr fun a ha hstrict => ?_).symm
    exact List.find?_eq_none.mp hfind a ha (hle a hstrict)
  | some a =>
    obtain ⟨-, before, after, rfl, hbefore⟩ := List.find?_eq_some_iff_append.mp hfind
    refine (List.find?_eq_some_iff_append.mpr
      ⟨hclears a hfind, before, after, rfl, fun b hb => ?_⟩).symm
    have hskipped := hbefore b hb
    rw [Bool.not_eq_true'] at hskipped ⊢
    exact Bool.eq_false_iff.mpr fun hb' => by simp [hle b hb'] at hskipped

theorem exists_not_mem {key : α → κ} {inUse : List κ} (hkeys : (l.map key).Nodup)
    (hmore : inUse.length < l.length) : ∃ a ∈ l, key a ∉ inUse := by
  by_contra h
  push Not at h
  have hsub : l.map key ⊆ inUse := fun k hk => by
    obtain ⟨a, ha, rfl⟩ := List.mem_map.mp hk
    exact h a ha
  have hle := (List.subperm_of_subset hkeys hsub).length_le
  rw [List.length_map] at hle
  omega

end FirstFree

end MusicServer
