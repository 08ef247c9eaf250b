/-
# The follow order of the catalog

The index of the library names for each track the one that follows it: the next in the
order of the library, and the first after the last.  A partial successor that sends each
place of a list to the next place, and the last to the first, is a ring (`IsRing`); a walk
of as many steps as the list has places visits the list once and is back where it began
(`IsRing.walk_length`, `IsRing.after_length`).  The index is such a ring over the sorted
library (`playbackCatalogTracks_ring`).
-/
import MusicServer.Tracks

namespace MusicServer

/-! ## Rings -/

section Ring

variable {α : Type}

/-- Where a partial successor leads after some steps. -/
def afterSteps (next : α → Option α) : ℕ → α → Option α
  | 0, a => some a
  | k + 1, a => (next a).bind (afterSteps next k)

/-- The places a walk of some steps leaves, in order. -/
def walk (next : α → Option α) : ℕ → α → List α
  | 0, _ => []
  | k + 1, a => a :: (next a).elim [] (walk next k)

/-- The successor of each place of the list is the next place, and that of the last the
first. -/
def IsRing (next : α → Option α) (l : List α) : Prop :=
  ∀ i a, l[i]? = some a → next a = l[(i + 1) % l.length]?

variable {next : α → Option α} {l : List α} {i : ℕ} {a : α}

theorem exists_place (hi : l[i]? = some a) (k : ℕ) : ∃ b, l[k % l.length]? = some b := by
  obtain ⟨hlt, -⟩ := List.getElem?_eq_some_iff.mp hi
  have hpos : 0 < l.length := by omega
  exact ⟨l.get ⟨k % l.length, Nat.mod_lt k hpos⟩, List.getElem?_eq_getElem (Nat.mod_lt k hpos)⟩

theorem IsRing.after (h : IsRing next l) (hi : l[i]? = some a) (k : ℕ) :
    afterSteps next k a = l[(i + k) % l.length]? := by
  induction k generalizing i a with
  | zero =>
    obtain ⟨hlt, -⟩ := List.getElem?_eq_some_iff.mp hi
    rw [Nat.add_zero, Nat.mod_eq_of_lt hlt, hi]
    rfl
  | succ k ih =>
    obtain ⟨b, hb⟩ := exists_place hi (i + 1)
    have hnext : next a = some b := (h i a hi).trans hb
    unfold afterSteps
    rw [hnext, Option.bind_some, ih hb, Nat.mod_add_mod, Nat.add_assoc, Nat.add_comm 1 k]

theorem IsRing.getElem?_walk (h : IsRing next l) (hi : l[i]? = some a) {k j : ℕ}
    (hj : j < k) : (walk next k a)[j]? = l[(i + j) % l.length]? := by
  induction k generalizing i a j with
  | zero => omega
  | succ k ih =>
    obtain ⟨b, hb⟩ := exists_place hi (i + 1)
    have hnext : next a = some b := (h i a hi).trans hb
    unfold walk
    rw [hnext, Option.elim_some]
    rcases j with _ | j
    · obtain ⟨hlt, -⟩ := List.getElem?_eq_some_iff.mp hi
      rw [List.getElem?_cons_zero, Nat.add_zero, Nat.mod_eq_of_lt hlt, hi]
    · rw [List.getElem?_cons_succ, ih hb (by omega), Nat.mod_add_mod, Nat.add_assoc,
        Nat.add_comm 1 j]

theorem IsRing.length_walk (h : IsRing next l) (hi : l[i]? = some a) (k : ℕ) :
    (walk next k a).length = k := by
  induction k generalizing i a with
  | zero => rfl
  | succ k ih =>
    obtain ⟨b, hb⟩ := exists_place hi (i + 1)
    have hnext : next a = some b := (h i a hi).trans hb
    unfold walk
    rw [hnext, Option.elim_some, List.length_cons, ih hb]

theorem IsRing.walk_length (h : IsRing next l) (hi : l[i]? = some a) :
    walk next l.length a = l.rotate i := by
  apply List.ext_getElem?
  intro j
  by_cases hj : j < l.length
  · have hrotate : j < (l.rotate i).length := by
      rw [List.length_rotate]
      exact hj
    have hplace : (j + i) % l.length < l.length := Nat.mod_lt _ (by omega)
    rw [h.getElem?_walk hi hj, List.getElem?_eq_getElem hrotate, List.getElem_rotate,
      Nat.add_comm i j, List.getElem?_eq_getElem hplace]
  · have hout : (walk next l.length a).length ≤ j := by
      rw [h.length_walk hi]
      omega
    have hrotate : (l.rotate i).length ≤ j := by
      rw [List.length_rotate]
      omega
    rw [List.getElem?_eq_none hout, List.getElem?_eq_none hrotate]

theorem IsRing.after_length (h : IsRing next l) (hi : l[i]? = some a) :
    afterSteps next l.length a = some a := by
  obtain ⟨hlt, -⟩ := List.getElem?_eq_some_iff.mp hi
  rw [h.after hi, Nat.add_mod_right, Nat.mod_eq_of_lt hlt, hi]

end Ring

/-! ## The sorted library -/

def followNext (known : BTreeMap TrackId CatalogTrack) (id : TrackId) : Option TrackId :=
  known[id]?.bind (·.followNextId)

theorem LibraryCatalogTrack.le_eq (left right : LibraryCatalogTrack) :
    left.le right = (compareLex (compareOn path) (compareOn id) left right).isLE := rfl

theorem LibraryCatalogTrack.le_trans (a b c : LibraryCatalogTrack) (hab : a.le b)
    (hbc : b.le c) : a.le c := by
  rw [LibraryCatalogTrack.le_eq] at *
  exact Std.TransCmp.isLE_trans hab hbc

theorem LibraryCatalogTrack.le_total (a b : LibraryCatalogTrack) : a.le b || b.le a := by
  have hswap : compareLex (compareOn path) (compareOn id) b a =
      (compareLex (compareOn path) (compareOn id) a b).swap := Std.OrientedCmp.eq_swap
  rw [LibraryCatalogTrack.le_eq, LibraryCatalogTrack.le_eq, hswap]
  cases compareLex (compareOn path) (compareOn id) a b <;> rfl

theorem pairwise_sortedLibrary (library : List LibraryCatalogTrack) :
    (library.mergeSort LibraryCatalogTrack.le).Pairwise (·.le ·) :=
  List.pairwise_mergeSort LibraryCatalogTrack.le_trans LibraryCatalogTrack.le_total library

def LibraryCatalogTrack.Precedes (left right : LibraryCatalogTrack) : Prop :=
  left.path < right.path ∨ left.path = right.path ∧ left.id.get < right.id.get

theorem LibraryCatalogTrack.precedes_of_le {left right : LibraryCatalogTrack}
    (hle : left.le right) (hne : left.id ≠ right.id) : left.Precedes right := by
  unfold LibraryCatalogTrack.le at hle
  rcases hpath : compare left.path right.path with _ | _ | _
  · exact .inl (compare_lt_iff_lt.mp hpath)
  · refine .inr ⟨compare_eq_iff_eq.mp hpath, ?_⟩
    rw [hpath, Ordering.eq_then, TrackId.compare_eq] at hle
    have hget : left.id.get ≠ right.id.get := fun heq => hne (TrackId.ext heq)
    have hle : left.id.get ≤ right.id.get := compare_le_iff_le.mp (Ordering.isLE_iff_ne_gt.mp hle)
    omega
  · rw [hpath] at hle
    cases hle

theorem pairwise_precedes {library : List LibraryCatalogTrack}
    (hids : (library.map (·.id)).Nodup) :
    (library.mergeSort LibraryCatalogTrack.le).Pairwise LibraryCatalogTrack.Precedes := by
  have hperm := (List.mergeSort_perm library LibraryCatalogTrack.le).map LibraryCatalogTrack.id
  have hdistinct : (library.mergeSort LibraryCatalogTrack.le).Pairwise (·.id ≠ ·.id) :=
    List.pairwise_map.mp (hperm.nodup_iff.mpr hids)
  have hsorted := (pairwise_sortedLibrary library).and hdistinct
  exact hsorted.imp fun h => LibraryCatalogTrack.precedes_of_le h.1 h.2

/-! ## The index as a ring -/

section

variable {α : Type} (key : α → TrackId) (value : α → CatalogTrack)

theorem getElem?_foldl_insert_of_notMem {l : List α} {id : TrackId} (hid : id ∉ l.map key)
    (known : BTreeMap TrackId CatalogTrack) :
    (l.foldl (fun known x => known.insert (key x) (value x)) known)[id]? = known[id]? := by
  induction l generalizing known with
  | nil => rfl
  | cons x rest ih =>
    rw [List.map_cons, List.mem_cons, not_or] at hid
    have hne : compare (key x) id ≠ .eq :=
      fun heq => hid.1 (Std.LawfulEqCmp.eq_of_compare heq).symm
    rw [List.foldl_cons, ih hid.2, Std.ExtTreeMap.getElem?_insert, if_neg hne]

theorem getElem?_foldl_insert {l : List α} (hkeys : (l.map key).Nodup)
    (known : BTreeMap TrackId CatalogTrack) {x : α} (hx : x ∈ l) :
    (l.foldl (fun known x => known.insert (key x) (value x)) known)[key x]? =
      some (value x) := by
  induction l generalizing known with
  | nil => cases hx
  | cons y rest ih =>
    rw [List.map_cons, List.nodup_cons] at hkeys
    rw [List.foldl_cons]
    rcases List.mem_cons.mp hx with rfl | hx
    · rw [getElem?_foldl_insert_of_notMem key value hkeys.1, Std.ExtTreeMap.getElem?_insert_self]
    · exact ih hkeys.2 _ hx

end

theorem mem_playbackCatalogTracks (library : List LibraryCatalogTrack) (id : TrackId) :
    id ∈ playbackCatalogTracks library ↔ id ∈ library.map (·.id) := by
  unfold playbackCatalogTracks
  simp only
  rw [mem_foldl_insert, List.mem_map]
  constructor
  · rintro (hid | ⟨⟨track, index⟩, hindexed, rfl⟩)
    · exact absurd hid Std.ExtTreeMap.not_mem_empty
    · have hsorted : track ∈ library.mergeSort LibraryCatalogTrack.le :=
        List.fst_mem_of_mem_zipIdx hindexed
      exact ⟨track, List.mem_mergeSort.mp hsorted, rfl⟩
  · rintro ⟨track, htrack, rfl⟩
    have hsorted := (@List.mem_mergeSort _ LibraryCatalogTrack.le _ _).mpr htrack
    obtain ⟨index, hindex⟩ := List.mem_iff_getElem?.mp hsorted
    exact .inr ⟨(track, index), List.mk_mem_zipIdx_iff_getElem?.mpr hindex, rfl⟩

theorem playbackCatalogTracks_ring {library : List LibraryCatalogTrack}
    (hids : (library.map (·.id)).Nodup) :
    IsRing (followNext (playbackCatalogTracks library))
      ((library.mergeSort LibraryCatalogTrack.le).map (·.id)) := by
  intro i id hid
  rw [List.getElem?_map, Option.map_eq_some_iff] at hid
  obtain ⟨track, htrack, rfl⟩ := hid
  obtain ⟨hlt, -⟩ := List.getElem?_eq_some_iff.mp htrack
  have hkeys : ((library.mergeSort LibraryCatalogTrack.le).zipIdx.map fun track =>
      track.1.id).Nodup := by
    have hmap : (library.mergeSort LibraryCatalogTrack.le).zipIdx.map (fun track => track.1.id) =
        (library.mergeSort LibraryCatalogTrack.le).map (·.id) := by
      have hcomp : (fun track : LibraryCatalogTrack × ℕ => track.1.id) =
          LibraryCatalogTrack.id ∘ Prod.fst := rfl
      rw [hcomp, ← List.map_map, List.zipIdx_map_fst]
    rw [hmap]
    exact ((List.mergeSort_perm library LibraryCatalogTrack.le).map _).nodup_iff.mpr hids
  have hindexed : (track, i) ∈ (library.mergeSort LibraryCatalogTrack.le).zipIdx :=
    List.mk_mem_zipIdx_iff_getElem?.mpr htrack
  unfold followNext playbackCatalogTracks
  simp only
  rw [getElem?_foldl_insert (fun track => track.1.id) _ hkeys _ hindexed, Option.bind_some,
    List.length_map]
  by_cases hlast : i + 1 < (library.mergeSort LibraryCatalogTrack.le).length
  · rw [Nat.mod_eq_of_lt hlast, List.getElem?_eq_getElem (by rw [List.length_map]; exact hlast),
      Option.some_or]
  · have hwrap : i + 1 = (library.mergeSort LibraryCatalogTrack.le).length := by omega
    rw [hwrap, Nat.mod_self, List.getElem?_eq_none (by rw [List.length_map]), Option.none_or,
      List.head?_eq_getElem?]

/-! ## The cycle -/

/-- The index has exactly the ids of the library; from any track on, following visits every
track once, in the order of path and id round to the track before it, and returns. -/
theorem playbackCatalogTracks_cycle (library : List LibraryCatalogTrack)
    (hids : (library.map (·.id)).Nodup) :
    (∀ id, id ∈ playbackCatalogTracks library ↔ id ∈ library.map (·.id)) ∧
    ∃ ordered : List LibraryCatalogTrack, ordered.Perm library ∧
      ordered.Pairwise LibraryCatalogTrack.Precedes ∧
      ∀ track ∈ library, ∃ i : ℕ, ordered[i]? = some track ∧
        walk (followNext (playbackCatalogTracks library)) library.length track.id =
          (ordered.map (·.id)).rotate i ∧
        (walk (followNext (playbackCatalogTracks library)) library.length track.id).Nodup ∧
        (walk (followNext (playbackCatalogTracks library)) library.length track.id).Perm
          (library.map (·.id)) ∧
        afterSteps (followNext (playbackCatalogTracks library)) library.length track.id =
          some track.id := by
  have hperm : (library.mergeSort LibraryCatalogTrack.le).Perm library :=
    List.mergeSort_perm library LibraryCatalogTrack.le
  have hordered : ((library.mergeSort LibraryCatalogTrack.le).map (·.id)).Nodup :=
    (hperm.map _).nodup_iff.mpr hids
  have hring := playbackCatalogTracks_ring hids
  have hlength : ((library.mergeSort LibraryCatalogTrack.le).map (·.id)).length =
      library.length := by
    rw [List.length_map, hperm.length_eq]
  refine ⟨mem_playbackCatalogTracks library, _, hperm, pairwise_precedes hids, ?_⟩
  intro track htrack
  obtain ⟨i, hi⟩ := List.mem_iff_getElem?.mp (hperm.mem_iff.mpr htrack)
  have hplace : ((library.mergeSort LibraryCatalogTrack.le).map (·.id))[i]? = some track.id := by
    rw [List.getElem?_map, hi, Option.map_some]
  have hwalk := hring.walk_length hplace
  have hafter := hring.after_length hplace
  rw [hlength] at hwalk hafter
  refine ⟨i, hi, hwalk, ?_, ?_, hafter⟩
  · rw [hwalk]
    exact List.nodup_rotate.mpr hordered
  · rw [hwalk]
    exact (List.rotate_perm _ i).trans (hperm.map _)

/-- Three tracks out of order, two of them under one path. -/
def unsortedLibrary : List LibraryCatalogTrack :=
  [⟨⟨5, by decide⟩, "tavern.ogg", 9⟩, ⟨⟨2, TrackId.two_pos⟩, "forest.ogg", 0⟩,
    ⟨⟨1, Int.one_pos⟩, "tavern.ogg", 5⟩]

theorem playbackCatalogTracks_cycle_unsorted :
    ∃ ordered : List LibraryCatalogTrack, ordered.Perm unsortedLibrary ∧
      ordered.Pairwise LibraryCatalogTrack.Precedes ∧
      ∀ track ∈ unsortedLibrary, ∃ i : ℕ, ordered[i]? = some track ∧
        walk (followNext (playbackCatalogTracks unsortedLibrary)) 3 track.id =
          (ordered.map (·.id)).rotate i ∧
        (walk (followNext (playbackCatalogTracks unsortedLibrary)) 3 track.id).Nodup ∧
        (walk (followNext (playbackCatalogTracks unsortedLibrary)) 3 track.id).Perm
          (unsortedLibrary.map (·.id)) ∧
        afterSteps (followNext (playbackCatalogTracks unsortedLibrary)) 3 track.id =
          some track.id :=
  (playbackCatalogTracks_cycle unsortedLibrary (by decide)).2

end MusicServer
