/-
# Inserting entries one after the other

What a map holds after a list of entries of pairwise different keys was inserted into it.
-/
import Std.Data.ExtTreeMap.Lemmas

namespace MapInserts

variable {κ ν : Type} [Ord κ] [Std.TransOrd κ] [Std.LawfulEqOrd κ]

def insertAll (entries : List (κ × ν)) (start : Std.ExtTreeMap κ ν compare) :
    Std.ExtTreeMap κ ν compare :=
  entries.foldl (fun known entry => known.insert entry.1 entry.2) start

theorem getElem?_insertAll {entries : List (κ × ν)} (hkeys : (entries.map Prod.fst).Nodup)
    (start : Std.ExtTreeMap κ ν compare) (hstart : ∀ entry ∈ entries, entry.1 ∉ start) {key : κ}
    {value : ν} : (insertAll entries start)[key]? = some value ↔
      (key, value) ∈ entries ∨ start[key]? = some value := by
  induction entries generalizing start with
  | nil => simp [insertAll]
  | cons entry rest ih =>
    obtain ⟨hnew, hrest⟩ := List.nodup_cons.mp hkeys
    have hnext := ih hrest (start.insert entry.1 entry.2) fun other hother hmem => by
      rw [Std.ExtTreeMap.mem_insert, Std.compare_eq_iff_eq] at hmem
      rcases hmem with hsame | hmem
      · exact hnew (hsame ▸ List.mem_map_of_mem hother)
      · exact hstart other (List.mem_cons_of_mem _ hother) hmem
    have hout : start[entry.1]? = none :=
      Std.ExtTreeMap.getElem?_eq_none (hstart entry List.mem_cons_self)
    rw [show insertAll (entry :: rest) start =
        insertAll rest (start.insert entry.1 entry.2) from rfl,
      hnext, Std.ExtTreeMap.getElem?_insert, List.mem_cons]
    by_cases hkey : entry.1 = key
    · subst hkey
      simp [hout, Prod.ext_iff, or_comm, eq_comm]
    · simp [hkey, Prod.ext_iff, Ne.symm hkey]

theorem insertAll_toList (known : Std.ExtTreeMap κ ν compare) :
    insertAll known.toList ∅ = known := by
  have hkeys : (known.toList.map Prod.fst).Nodup := by
    rw [Std.ExtTreeMap.map_fst_toList_eq_keys]
    exact known.nodup_keys
  refine Std.ExtTreeMap.ext_getElem? fun key => Option.ext fun value => ?_
  rw [getElem?_insertAll hkeys ∅ fun _ _ => Std.ExtTreeMap.not_mem_empty,
    Std.ExtTreeMap.mem_toList_iff_getElem?_eq_some]
  simp

end MapInserts
