/-
# Tracks in the slots of a release

`album.rs`: `assign_album` reads the tracks' slots off one assignment of least cost and leaves out
what another slot fits as well.  The map is sound in every case.  It is read off one of possibly
several assignments, and with two files of one song and two slots of its title it depends on the
order of the tracks; it does not where all assignments of least cost keep the same pairs
(`assignAlbum_sound_orderFree`).
-/
import MusicServer.AssignmentOptimality
import MusicServer.EditionReview
import MusicServer.IdentityEvidence
import MusicServer.MapInserts

namespace MusicServer.Album

open Enrichment

/-! ## The source -/

def unmatched : ℤ := 100

inductive Classification where
  | single
  | mixed
  | compilation
  | album
  deriving DecidableEq

structure AlbumAssignment where
  classification : Classification
  considered : ℕ
  matched : ℕ
  unmatchedTracks : List ℤ
  unmatchedSlots : List String
  slots : BTreeMap ℤ String

section Source

variable (rules : TextRules)

/-- What a position costs that is known on both sides and differs. -/
def positionCost (here there : Option ℕ) : ℤ :=
  if here.isSome && there.isSome && here ≠ there then 30 else 0

def slotCost (known : TrackId × String) (track : IndexedTrack) (slot : ReleaseSlot) : ℤ :=
  let knownRecording := track.id = known.1
  if knownRecording ∧ slot.recordingId ≠ known.2 then 1000
  else if ¬ knownRecording ∧ (looseEqual rules track.metadata.title slot.title = false ∨
      looseEqual rules track.metadata.artist slot.artist = false) then 1000
  else if (delta track slot).any (10000 < ·) then 1000
  else (if knownRecording then 0 else 20) + (if (delta track slot).any (2000 < ·) then 10 else 0) +
    positionCost track.metadata.trackNo slot.trackNo +
    positionCost track.metadata.discNo slot.discNo

def rowsOf (known : TrackId × String) (tracks : List IndexedTrack) : List IndexedTrack :=
  ((tracks.filter fun track => track.id = known.1) ++
    tracks.filter fun track => track.id ≠ known.1).take 100

def costsOf (known : TrackId × String) (rows : List IndexedTrack) (slots : List ReleaseSlot) :
    List (List ℤ) :=
  rows.map fun track => slots.map (slotCost rules known track) ++
    List.replicate rows.length unmatched

/-- The slot a row is given; equal occurrences remain ambiguous. -/
def selection (rows : List IndexedTrack) (slots : List ReleaseSlot) (costs : List (List ℤ))
    (column row : ℕ) : Option (ℤ × String) :=
  match rows[row]?, slots[column]? with
  | some track, some slot =>
    if unmatched ≤ entry costs row column then none
    else if ((costs.getD row []).take slots.length).zipIdx.any fun other =>
        other.2 ≠ column && |other.1 - entry costs row column| < 5 then none
    else some (track.id.get, slot.id)
  | _, _ => none

/-- How many different texts there are, empty ones aside. -/
def keyCount (texts : List String) : ℕ :=
  ((texts.map (cleanupLooseKey rules)).filter (· ≠ [])).dedup.length

/-- `none` is an assignment that does not end. -/
def assignAlbum (tracks : List IndexedTrack) (release : ReleaseDetail)
    (known : TrackId × String) : Option AlbumAssignment := do
  let rows := rowsOf known tracks
  let slots := release.slots.take 500
  let costs := costsOf rules known rows slots
  let assignment ← minimumAssignment costs
  let selected := (assignment.zipIdx.filterMap fun (column, row) =>
    selection rows slots costs column row).foldl (fun selected pair =>
      selected.insert pair.1 pair.2) ∅
  some {
    classification :=
      if rows.length < 2 then .single
      else if 1 < keyCount rules (rows.map (·.metadata.album)) then .mixed
      else if 1 < keyCount rules (rows.map (·.metadata.artist)) then .compilation
      else .album
    considered := rows.length
    matched := selected.size
    unmatchedTracks := (rows.filter fun track => track.id.get ∉ selected).map (·.id.get)
    unmatchedSlots := (slots.filter fun slot => slot.id ∉ selected.toList.map Prod.snd).map (·.id)
    slots := selected }

end Source

/-! ## Matchings, whatever the order -/

abbrev Pairs := List (IndexedTrack × Option ReleaseSlot)

/-- Every track is there once, and no slot is given twice. -/
structure Matching (tracks : List IndexedTrack) (slots : List ReleaseSlot) (pairs : Pairs) :
    Prop where
  rows : (pairs.map Prod.fst).Perm tracks
  apart : pairs.Pairwise fun left right => ∀ slot, left.2 = some slot → right.2 ≠ some slot
  within : ∀ pair ∈ pairs, ∀ slot, pair.2 = some slot → slot ∈ slots

section Matchings

variable (rules : TextRules) (known : TrackId × String)

def pay (pair : IndexedTrack × Option ReleaseSlot) : ℤ :=
  match pair.2 with
  | none => unmatched
  | some slot => slotCost rules known pair.1 slot

def price (pairs : Pairs) : ℤ := (pairs.map (pay rules known)).sum

structure Least (tracks : List IndexedTrack) (slots : List ReleaseSlot) (pairs : Pairs) : Prop
    extends Matching tracks slots pairs where
  least : ∀ others, Matching tracks slots others → price rules known pairs ≤
    price rules known others

/-- A pair stands if the slot fits and no other one fits as well. -/
def Stands (slots : List ReleaseSlot) (track : IndexedTrack) (slot : ReleaseSlot) : Prop :=
  slotCost rules known track slot < unmatched ∧ ∀ other ∈ slots, other ≠ slot →
    5 ≤ |slotCost rules known track other - slotCost rules known track slot|

/-- A pair that stands in one matching of least cost is in all of them. -/
def Unambiguous (tracks : List IndexedTrack) (slots : List ReleaseSlot) : Prop :=
  ∀ pairs others, Least rules known tracks slots pairs → Least rules known tracks slots others →
    ∀ track slot, (track, some slot) ∈ pairs → Stands rules known slots track slot →
      (track, some slot) ∈ others

structure Fits (track : IndexedTrack) (slot : ReleaseSlot) : Prop where
  recording : track.id = known.1 → slot.recordingId = known.2
  texts : track.id ≠ known.1 → looseEqual rules track.metadata.title slot.title = true ∧
    looseEqual rules track.metadata.artist slot.artist = true
  length : ∀ d, delta track slot = some d → d ≤ 10000

variable {rules known} {tracks tracks' rows : List IndexedTrack} {slots slots' : List ReleaseSlot}
  {pairs pairs' : Pairs} {columns : List ℕ} {track : IndexedTrack} {slot : ReleaseSlot}

/-! ### Orders -/

theorem Matching.perm (h : Matching tracks slots pairs) (htracks : tracks.Perm tracks')
    (hslots : slots.Perm slots') : Matching tracks' slots' pairs :=
  ⟨h.rows.trans htracks, h.apart, fun pair hpair slot hslot =>
    hslots.mem_iff.mp (h.within pair hpair slot hslot)⟩

theorem Matching.reorder (h : Matching tracks slots pairs) (hpairs : pairs.Perm pairs') :
    Matching tracks slots pairs' := by
  refine ⟨(hpairs.map Prod.fst).symm.trans h.rows, (hpairs.pairwise_iff ?_).mp h.apart,
    fun pair hpair => h.within pair (hpairs.mem_iff.mpr hpair)⟩
  intro left right hapart slot hright hleft
  exact hapart slot hleft hright

theorem Least.perm (h : Least rules known tracks slots pairs) (htracks : tracks.Perm tracks')
    (hslots : slots.Perm slots') : Least rules known tracks' slots' pairs :=
  ⟨h.toMatching.perm htracks hslots,
    fun others hothers => h.least others (hothers.perm htracks.symm hslots.symm)⟩

theorem Stands.perm (h : Stands rules known slots track slot) (hslots : slots.Perm slots') :
    Stands rules known slots' track slot :=
  ⟨h.1, fun other hother => h.2 other (hslots.mem_iff.mpr hother)⟩

/-! ### Costs -/

theorem positionCost_cases (here there : Option ℕ) :
    positionCost here there = 0 ∨ positionCost here there = 30 := by
  unfold positionCost
  split
  · exact .inr rfl
  · exact .inl rfl

theorem slotCost_bounds (track : IndexedTrack) (slot : ReleaseSlot) :
    0 ≤ slotCost rules known track slot ∧ slotCost rules known track slot ≤ 1000 := by
  have htrack := positionCost_cases track.metadata.trackNo slot.trackNo
  have hdisc := positionCost_cases track.metadata.discNo slot.discNo
  unfold slotCost
  dsimp only
  split
  · omega
  · split
    · omega
    · split
      · omega
      · split <;> split <;> omega

theorem fits_of_slotCost (h : slotCost rules known track slot < unmatched) :
    Fits rules known track slot := by
  unfold slotCost unmatched at h
  dsimp only at h
  split at h
  · omega
  · next hrecording =>
    split at h
    · omega
    · next htexts =>
      split at h
      · omega
      · next hlength =>
        refine ⟨fun hknown => ?_, fun hknown => ?_, fun d hd => ?_⟩
        · by_contra hother
          exact hrecording ⟨hknown, hother⟩
        · have hboth := not_and.mp htexts hknown
          simpa using hboth
        · rw [hd] at hlength
          simpa using hlength

theorem costsOf_small (hrows : rows.length ≤ 100) : Small (costsOf rules known rows slots) := by
  refine ⟨1000, fun row hrow cost hcost => ?_, by decide, ?_⟩
  · obtain ⟨track, -, rfl⟩ := List.mem_map.mp hrow
    rcases List.mem_append.mp hcost with hslot | hnone
    · obtain ⟨slot, -, rfl⟩ := List.mem_map.mp hslot
      have hbounds := @slotCost_bounds rules known track slot
      omega
    · rw [(List.mem_replicate.mp hnone).2]
      decide
  · unfold costsOf
    rw [List.length_map]
    have hmax : i64Max = 2 ^ 63 - 1 := rfl
    omega

/-! ### Matchings and columns -/

def pairsOf (rows : List IndexedTrack) (slots : List ReleaseSlot) (columns : List ℕ) : Pairs :=
  rows.zip (columns.map fun column => slots[column]?)

theorem getD_costs {count column : ℕ} (h : column < slots.length + count) :
    (slots.map (slotCost rules known track) ++ List.replicate count unmatched).getD column 0 =
      pay rules known (track, slots[column]?) := by
  unfold pay
  rw [List.getD_eq_getElem?_getD]
  by_cases hslot : column < slots.length
  · rw [List.getElem?_append_left (by rwa [List.length_map]), List.getElem?_map,
      List.getElem?_eq_getElem hslot]
    rfl
  · rw [List.getElem?_append_right (by rw [List.length_map]; omega), List.length_map,
      List.getElem?_replicate, if_pos (by omega), List.getElem?_eq_none (by omega)]
    rfl

theorem totalCost_pairsOf (hlength : columns.length = rows.length)
    (hbelow : ∀ column ∈ columns, column < slots.length + rows.length) :
    totalCost (costsOf rules known rows slots) columns =
      price rules known (pairsOf rows slots columns) := by
  unfold totalCost costsOf price pairsOf
  generalize rows.length = count at hbelow
  induction rows generalizing columns with
  | nil => rfl
  | cons track rest ih =>
    cases columns with
    | nil => cases hlength
    | cons column columns =>
      rw [List.map_cons, List.zipWith_cons_cons, List.sum_cons, List.map_cons, List.zip_cons_cons,
        List.map_cons, List.sum_cons, getD_costs (hbelow column List.mem_cons_self),
        ih (Nat.succ.inj hlength) fun other hother => hbelow other (List.mem_cons_of_mem _ hother)]

theorem getElem?_pairsOf {row : ℕ}
    {pair : IndexedTrack × Option ReleaseSlot} :
    (pairsOf rows slots columns)[row]? = some pair ↔
      rows[row]? = some pair.1 ∧ ∃ column, columns[row]? = some column ∧
        pair.2 = slots[column]? := by
  unfold pairsOf
  rw [List.getElem?_zip_eq_some, List.getElem?_map, Option.map_eq_some_iff]
  refine and_congr_right fun _ => exists_congr fun column => and_congr_right fun _ => eq_comm

theorem slots_getElem?_inj (hslots : slots.Nodup) {left right : ℕ}
    (hleft : slots[left]? = some slot) (hright : slots[right]? = some slot) : left = right := by
  obtain ⟨hlt, -⟩ := List.getElem?_eq_some_iff.mp hleft
  exact (List.getElem?_inj hlt hslots).mp (hleft.trans hright.symm)

theorem matching_pairsOf (hslots : slots.Nodup) {m : ℕ}
    (h : IsAssignment rows.length m columns) :
    Matching rows slots (pairsOf rows slots columns) := by
  refine ⟨?_, ?_, fun pair hpair slot hslot => ?_⟩
  · unfold pairsOf
    rw [List.map_fst_zip (by rw [List.length_map, h.length])]
  · rw [List.pairwise_iff_getElem]
    intro left right hleft hright hlt slot hslot hslot'
    obtain ⟨-, column, hcolumn, hvalue⟩ :=
      getElem?_pairsOf.mp (List.getElem?_eq_getElem hleft)
    obtain ⟨-, column', hcolumn', hvalue'⟩ :=
      getElem?_pairsOf.mp (List.getElem?_eq_getElem hright)
    obtain rfl := slots_getElem?_inj hslots (hvalue.symm.trans hslot) (hvalue'.symm.trans hslot')
    obtain ⟨hlt', -⟩ := List.getElem?_eq_some_iff.mp hcolumn
    have hsame := (List.getElem?_inj hlt' h.nodup).mp (hcolumn.trans hcolumn'.symm)
    omega
  · obtain ⟨row, hrow⟩ := List.getElem?_of_mem hpair
    obtain ⟨-, column, -, hvalue⟩ := getElem?_pairsOf.mp hrow
    exact List.mem_of_getElem? (hvalue.symm.trans hslot)

/-- Rows without a slot take the column that is theirs alone. -/
def columnOf (slots : List ReleaseSlot) (pair : IndexedTrack × Option ReleaseSlot) (row : ℕ) : ℕ :=
  match pair.2 with
  | some slot => slots.idxOf slot
  | none => slots.length + row

theorem exists_sorted (h : (pairs.map Prod.fst).Perm rows) :
    ∃ sorted, pairs.Perm sorted ∧ sorted.map Prod.fst = rows := by
  have hsame : List.Forall₂
      (fun (track : IndexedTrack) (pair : IndexedTrack × Option ReleaseSlot) =>
      track = pair.1) (pairs.map Prod.fst) pairs :=
    List.forall₂_map_left_iff.mpr (List.forall₂_same.mpr fun _ _ => rfl)
  obtain ⟨sorted, hrows, hsorted⟩ := List.perm_comp_forall₂ h.symm hsame
  refine ⟨sorted, hsorted.symm, ?_⟩
  have heq := List.forall₂_map_right_iff.mpr hrows
  rw [List.forall₂_eq_eq_eq] at heq
  exact heq.symm

theorem exists_columns (hpairs : Matching rows slots pairs) :
    ∃ columns, IsAssignment rows.length (slots.length + rows.length) columns ∧
      price rules known (pairsOf rows slots columns) = price rules known pairs := by
  obtain ⟨sorted, hsorted, hrows⟩ := exists_sorted hpairs.rows
  have hmatching := hpairs.reorder hsorted
  have hlength : sorted.length = rows.length := by rw [← hrows, List.length_map]
  have hwithin : ∀ (row : ℕ) (pair : IndexedTrack × Option ReleaseSlot) (slot : ReleaseSlot),
      sorted[row]? = some pair → pair.2 = some slot → slot ∈ slots :=
    fun row pair slot hpair => hmatching.within pair (List.mem_of_getElem? hpair) slot
  generalize hcolumns : (sorted.zipIdx.map fun entry => columnOf slots entry.1 entry.2) = columns
  have hget : ∀ row pair, sorted[row]? = some pair →
      columns[row]? = some (columnOf slots pair row) := by
    intro row pair hpair
    rw [← hcolumns, List.getElem?_map, List.getElem?_zipIdx, hpair, Nat.zero_add]
    rfl
  have hcount : columns.length = rows.length := by
    rw [← hcolumns, List.length_map, List.length_zipIdx, hlength]
  have hread : ∀ row pair, sorted[row]? = some pair →
      slots[columnOf slots pair row]? = pair.2 := by
    intro row pair hpair
    unfold columnOf
    cases hslot : pair.2 with
    | none => exact List.getElem?_eq_none (Nat.le_add_right _ _)
    | some slot => exact List.getElem?_idxOf (hwithin row pair slot hpair hslot)
  refine ⟨columns, ⟨hcount, ?_, fun column hcolumn => ?_⟩, ?_⟩
  · -- Two rows with one column would have one slot, or one row.
    rw [List.nodup_iff_pairwise_ne, List.pairwise_iff_getElem]
    intro left right hleft hright hlt hsame
    have hl : sorted[left]? = some sorted[left] := List.getElem?_eq_getElem (by omega)
    have hr : sorted[right]? = some sorted[right] := List.getElem?_eq_getElem (by omega)
    have hcl := hget _ _ hl
    have hcr := hget _ _ hr
    rw [List.getElem?_eq_getElem hleft, Option.some.injEq] at hcl
    rw [List.getElem?_eq_getElem hright, Option.some.injEq] at hcr
    have heq : sorted[left].2 = sorted[right].2 := by
      rw [← hread _ _ hl, ← hread _ _ hr, ← hcl, ← hcr, hsame]
    cases hslot : sorted[left].2 with
    | none =>
      rw [hcl, hcr] at hsame
      unfold columnOf at hsame
      rw [← heq, hslot] at hsame
      dsimp only at hsame
      omega
    | some slot =>
      exact List.pairwise_iff_getElem.mp hmatching.apart left right (by omega) (by omega) hlt slot
        hslot (heq ▸ hslot)
  · obtain ⟨row, hrow⟩ := List.getElem?_of_mem hcolumn
    have hlt : row < sorted.length := by
      obtain ⟨hlt, -⟩ := List.getElem?_eq_some_iff.mp hrow
      omega
    have hpair : sorted[row]? = some sorted[row] := List.getElem?_eq_getElem hlt
    rw [hget _ _ hpair] at hrow
    obtain rfl := Option.some.inj hrow
    unfold columnOf
    cases hslot : sorted[row].2 with
    | none =>
      dsimp only
      omega
    | some slot =>
      have hmem := List.idxOf_lt_length_of_mem (hwithin _ _ slot hpair hslot)
      dsimp only
      omega
  · have hsame : pairsOf rows slots columns = sorted := by
      refine List.ext_getElem? fun row => ?_
      refine Option.ext fun pair => ?_
      rw [getElem?_pairsOf]
      constructor
      · rintro ⟨hrow, column, hcolumn, hvalue⟩
        rw [← hrows, List.getElem?_map, Option.map_eq_some_iff] at hrow
        obtain ⟨found, hfound, hfst⟩ := hrow
        rw [hget _ _ hfound] at hcolumn
        obtain rfl := Option.some.inj hcolumn
        rw [hread _ _ hfound] at hvalue
        rwa [show pair = found from Prod.ext hfst.symm hvalue]
      · intro hpair
        refine ⟨?_, _, hget _ _ hpair, (hread _ _ hpair).symm⟩
        rw [← hrows, List.getElem?_map, hpair]
        rfl
    rw [hsame]
    exact (hsorted.map (pay rules known)).sum_eq.symm

theorem minimumAssignment_least (hrows : rows.length ≤ 100) (hslots : slots.Nodup) :
    ∃ columns, minimumAssignment (costsOf rules known rows slots) = some columns ∧
      columns.length = rows.length ∧ Least rules known rows slots (pairsOf rows slots columns) := by
  have hlength : (costsOf rules known rows slots).length = rows.length := List.length_map _
  obtain ⟨columns, hfound, hassignment, u, v, hcertified⟩ :=
    @minimumAssignment_spec (costsOf rules known rows slots) (slots.length + rows.length)
      (by rw [hlength]; omega)
      (fun row hrow => by
        obtain ⟨track, -, rfl⟩ := List.mem_map.mp hrow
        rw [List.length_append, List.length_map, List.length_replicate])
      (costsOf_small hrows)
  have hcost : ∀ others, IsAssignment rows.length (slots.length + rows.length) others →
      totalCost (costsOf rules known rows slots) others =
        price rules known (pairsOf rows slots others) :=
    fun others hothers => totalCost_pairsOf hothers.length hothers.below
  rw [hlength] at hassignment
  refine ⟨columns, hfound, hassignment.length, matching_pairsOf hslots hassignment,
    fun others hothers => ?_⟩
  obtain ⟨columns', hassignment', hprice⟩ := @exists_columns rules known rows slots others hothers
  rw [← hprice, ← hcost columns hassignment, ← hcost columns' hassignment',
    totalCost_eq (by rw [hlength, hassignment.length]),
    totalCost_eq (by rw [hlength, hassignment'.length])]
  exact hcertified.optimal (hlength ▸ hassignment'.assigns)

/-! ### What is selected -/

theorem entry_costsOf {row column : ℕ} (hrow : rows[row]? = some track)
    (hslot : slots[column]? = some slot) :
    (costsOf rules known rows slots).getD row [] =
        slots.map (slotCost rules known track) ++ List.replicate rows.length unmatched ∧
      entry (costsOf rules known rows slots) row column = slotCost rules known track slot := by
  have hfirst : (costsOf rules known rows slots).getD row [] =
      slots.map (slotCost rules known track) ++ List.replicate rows.length unmatched := by
    unfold costsOf
    rw [List.getD_eq_getElem?_getD, List.getElem?_map, hrow]
    rfl
  obtain ⟨hlt, -⟩ := List.getElem?_eq_some_iff.mp hslot
  refine ⟨hfirst, ?_⟩
  unfold entry
  rw [hfirst, getD_costs (by omega), hslot]
  rfl

theorem other_iff (hslots : slots.Nodup) {column : ℕ} (hslot : slots[column]? = some slot) :
    ((slots.map (slotCost rules known track)).zipIdx.any fun other =>
        other.2 ≠ column && |other.1 - slotCost rules known track slot| < 5) = true ↔
      ¬ ∀ other ∈ slots, other ≠ slot →
        5 ≤ |slotCost rules known track other - slotCost rules known track slot| := by
  rw [List.any_eq_true]
  push Not
  constructor
  · rintro ⟨⟨cost, place⟩, hmem, hnear⟩
    rw [List.mk_mem_zipIdx_iff_getElem?, List.getElem?_map, Option.map_eq_some_iff] at hmem
    obtain ⟨other, hother, rfl⟩ := hmem
    rw [Bool.and_eq_true, decide_eq_true_eq, decide_eq_true_eq] at hnear
    refine ⟨other, List.mem_of_getElem? hother, ?_, hnear.2⟩
    rintro rfl
    exact hnear.1 (slots_getElem?_inj hslots hother hslot)
  · rintro ⟨other, hmem, hne, hnear⟩
    obtain ⟨place, hplace⟩ := List.getElem?_of_mem hmem
    refine ⟨(slotCost rules known track other, place), ?_, ?_⟩
    · rw [List.mk_mem_zipIdx_iff_getElem?, List.getElem?_map, hplace]
      rfl
    · rw [Bool.and_eq_true, decide_eq_true_eq, decide_eq_true_eq]
      refine ⟨fun hsame => hne ?_, hnear⟩
      subst hsame
      exact Option.some.inj (hplace.symm.trans hslot)

theorem selection_eq_some (hslots : slots.Nodup) {row column : ℕ} {key : ℤ} {value : String} :
    selection rows slots (costsOf rules known rows slots) column row = some (key, value) ↔
      ∃ track slot, rows[row]? = some track ∧ slots[column]? = some slot ∧
        Stands rules known slots track slot ∧ track.id.get = key ∧ slot.id = value := by
  unfold selection
  cases hrow : rows[row]? with
  | none => simp
  | some track =>
    cases hslot : slots[column]? with
    | none => simp
    | some slot =>
      obtain ⟨hfirst, hentry⟩ :=
        @entry_costsOf rules known rows slots track slot row column hrow hslot
      dsimp only
      rw [hfirst, hentry, List.take_left' (List.length_map _)]
      have hiff := @other_iff rules known slots track slot hslots column hslot
      constructor
      · intro h
        split at h
        · cases h
        · next hcheap =>
          split at h
          · cases h
          · next hother =>
            obtain ⟨hkey, hvalue⟩ := Prod.mk.inj (Option.some.inj h)
            exact ⟨track, slot, rfl, rfl, ⟨not_le.mp hcheap, not_not.mp (mt hiff.mpr hother)⟩, hkey,
              hvalue⟩
      · rintro ⟨track', slot', htrack, hslot', hstands, hkey, hvalue⟩
        cases htrack
        cases hslot'
        rw [if_neg (not_le.mpr hstands.1), if_neg fun hother => hiff.mp hother hstands.2, hkey,
          hvalue]

theorem selected_iff (hslots : slots.Nodup) (hids : (rows.map fun track => track.id.get).Nodup)
    {key : ℤ} {value : String} :
    ((columns.zipIdx.filterMap fun entry => selection rows slots (costsOf rules known rows slots)
        entry.1 entry.2).foldl (fun selected pair => selected.insert pair.1 pair.2)
          (∅ : BTreeMap ℤ String))[key]? = some value ↔
      ∃ track slot, (track, some slot) ∈ pairsOf rows slots columns ∧
        Stands rules known slots track slot ∧ track.id.get = key ∧ slot.id = value := by
  have hmem : ∀ key value, (key, value) ∈ columns.zipIdx.filterMap (fun entry =>
        selection rows slots (costsOf rules known rows slots) entry.1 entry.2) ↔
      ∃ track slot, (track, some slot) ∈ pairsOf rows slots columns ∧
        Stands rules known slots track slot ∧ track.id.get = key ∧ slot.id = value := by
    intro key value
    rw [List.mem_filterMap]
    constructor
    · rintro ⟨⟨column, row⟩, hentry, hselected⟩
      obtain ⟨track, slot, hrow, hslot, hstands⟩ := (selection_eq_some hslots).mp hselected
      refine ⟨track, slot,
        List.mem_of_getElem? (getElem?_pairsOf.mpr ⟨hrow, column, ?_, hslot.symm⟩),
        hstands⟩
      exact List.mk_mem_zipIdx_iff_getElem?.mp hentry
    · rintro ⟨track, slot, hpair, hstands⟩
      obtain ⟨row, hget⟩ := List.getElem?_of_mem hpair
      obtain ⟨hrow, column, hcolumn, hslot⟩ := getElem?_pairsOf.mp hget
      exact ⟨(column, row), List.mk_mem_zipIdx_iff_getElem?.mpr hcolumn,
        (selection_eq_some hslots).mpr ⟨track, slot, hrow, hslot.symm, hstands⟩⟩
  change (MapInserts.insertAll (columns.zipIdx.filterMap fun entry =>
    selection rows slots (costsOf rules known rows slots) entry.1 entry.2) ∅)[key]? = some value ↔ _
  rw [MapInserts.getElem?_insertAll ?_ ∅ fun entry _ => Std.ExtTreeMap.not_mem_empty]
  · simp [hmem]
  · rw [List.nodup_iff_pairwise_ne, List.pairwise_map, List.pairwise_filterMap]
    have hrows : columns.zipIdx.Pairwise fun left right => left.2 ≠ right.2 := by
      rw [← List.pairwise_map, ← List.nodup_iff_pairwise_ne, List.zipIdx_map_snd]
      exact List.nodup_range'
    refine hrows.imp fun {left right} hne found hfound found' hfound' hsame => hne ?_
    obtain ⟨track, slot, hrow, -, -, hkey, -⟩ := (selection_eq_some hslots).mp hfound
    obtain ⟨track', slot', hrow', -, -, hkey', -⟩ := (selection_eq_some hslots).mp hfound'
    have hl : (rows.map fun track => track.id.get)[left.2]? = some found.1 := by
      rw [List.getElem?_map, hrow]
      exact congrArg some hkey
    have hr : (rows.map fun track => track.id.get)[right.2]? = some found'.1 := by
      rw [List.getElem?_map, hrow']
      exact congrArg some hkey'
    obtain ⟨hlt, -⟩ := List.getElem?_eq_some_iff.mp hl
    exact (List.getElem?_inj hlt hids).mp (hl.trans (hsame ▸ hr.symm))

theorem rowsOf_perm (hfew : tracks.length ≤ 100) : (rowsOf known tracks).Perm tracks := by
  have hperm :=
    List.filter_append_perm (fun track : IndexedTrack => decide (track.id = known.1)) tracks
  unfold rowsOf
  have hsame : (tracks.filter fun track => decide (track.id ≠ known.1)) =
      tracks.filter fun track => !decide (track.id = known.1) := by
    refine List.filter_congr fun track _ => ?_
    rw [decide_not]
  rw [hsame, List.take_of_length_le (hperm.length_eq.trans_le hfew)]
  exact hperm

/-! ## The map of tracks to slots -/

/-- Different tracks have different slots, each one that fits its track, and every track and slot
is reported once. -/
structure Sound (rules : TextRules) (known : TrackId × String) (tracks : List IndexedTrack)
    (slots : List ReleaseSlot) (result : AlbumAssignment) : Prop where
  apart : ∀ (left right : ℤ) (value : String), result.slots[left]? = some value →
    result.slots[right]? = some value → left = right
  fits : ∀ (key : ℤ) (value : String), result.slots[key]? = some value →
    ∃ track ∈ tracks, ∃ slot ∈ slots, track.id.get = key ∧ slot.id = value ∧
      Fits rules known track slot
  tracksOnce : (result.slots.keys ++ result.unmatchedTracks).Perm (tracks.map (·.id.get))
  slotsOnce : (result.slots.toList.map Prod.snd ++ result.unmatchedSlots).Perm (slots.map (·.id))

theorem append_filter_perm {α β : Type} [DecidableEq β] {found : List β} {listed : List α}
    (name : α → β) (hfound : found.Nodup) (hlisted : (listed.map name).Nodup)
    (hsub : ∀ value ∈ found, value ∈ listed.map name) (known : α → Bool)
    (hknown : ∀ item, known item = true ↔ name item ∈ found) :
    (found ++ (listed.filter fun item => !known item).map name).Perm (listed.map name) := by
  refine (List.perm_ext_iff_of_nodup ?_ hlisted).mpr fun value => ?_
  · refine List.nodup_append.mpr ⟨hfound, (List.filter_sublist.map name).nodup hlisted, ?_⟩
    intro value hvalue other hother hsame
    obtain ⟨item, hitem, rfl⟩ := List.mem_map.mp hother
    have hout := (List.mem_filter.mp hitem).2
    rw [(hknown item).mpr (hsame ▸ hvalue)] at hout
    cases hout
  · rw [List.mem_append]
    constructor
    · rintro (hvalue | hvalue)
      · exact hsub value hvalue
      · exact (List.filter_sublist.map name).subset hvalue
    · intro hvalue
      obtain ⟨item, hitem, rfl⟩ := List.mem_map.mp hvalue
      by_cases hmem : name item ∈ found
      · exact .inl hmem
      · refine .inr (List.mem_map_of_mem (List.mem_filter.mpr ⟨hitem, ?_⟩))
        rw [Bool.not_eq_true', ← Bool.not_eq_true, hknown item]
        exact hmem

/-- The map is that of a matching of least cost. -/
structure Reads (rules : TextRules) (known : TrackId × String) (tracks : List IndexedTrack)
    (slots : List ReleaseSlot) (pairs : Pairs) (selected : BTreeMap ℤ String) : Prop
    extends Least rules known tracks slots pairs where
  selected : ∀ (key : ℤ) (value : String), selected[key]? = some value ↔ ∃ track slot,
    (track, some slot) ∈ pairs ∧ Stands rules known slots track slot ∧ track.id.get = key ∧
      slot.id = value

theorem Reads.pair_inj {selected : BTreeMap ℤ String}
    (h : Reads rules known tracks slots pairs selected) {track' : IndexedTrack}
    (hleft : (track, some slot) ∈ pairs) (hright : (track', some slot) ∈ pairs) :
    track = track' := by
  by_contra hne
  have hpairs : (track, some slot) ≠ (track', some slot) := fun hsame => hne (Prod.mk.inj hsame).1
  have hsymm : Std.Symm fun (left right : IndexedTrack × Option ReleaseSlot) =>
      ∀ slot, left.2 = some slot → right.2 ≠ some slot :=
    ⟨fun _ _ hapart slot hright hleft => hapart slot hleft hright⟩
  have hapart := h.apart.forall hleft hright hpairs
  exact hapart slot rfl rfl

theorem Reads.congr {selected selected' : BTreeMap ℤ String} (hslots : slots.Perm slots')
    (h : Reads rules known tracks slots pairs selected)
    (h' : Reads rules known tracks' slots' pairs' selected')
    (hsame : ∀ track slot, Stands rules known slots track slot →
      ((track, some slot) ∈ pairs ↔ (track, some slot) ∈ pairs')) : selected' = selected := by
  refine Std.ExtTreeMap.ext_getElem? fun key => Option.ext fun value => ?_
  rw [h.selected, h'.selected]
  refine exists_congr fun track => exists_congr fun slot => ?_
  constructor
  · rintro ⟨hpair, hstands, hnames⟩
    have hstands := hstands.perm hslots.symm
    exact ⟨(hsame track slot hstands).mpr hpair, hstands, hnames⟩
  · rintro ⟨hpair, hstands, hnames⟩
    exact ⟨(hsame track slot hstands).mp hpair, hstands.perm hslots, hnames⟩

theorem Reads.sound {result : AlbumAssignment}
    (h : Reads rules known tracks slots pairs result.slots)
    (hrows : rows.Perm tracks) (hids : (tracks.map (·.id.get)).Nodup)
    (hslotIds : (slots.map (·.id)).Nodup)
    (htracks : result.unmatchedTracks =
      (rows.filter fun track => track.id.get ∉ result.slots).map (·.id.get))
    (hslots : result.unmatchedSlots =
      (slots.filter fun slot => slot.id ∉ result.slots.toList.map Prod.snd).map (·.id)) :
    Sound rules known tracks slots result := by
  have hmembers : ∀ track slot, (track, some slot) ∈ pairs → track ∈ tracks ∧ slot ∈ slots :=
    fun track slot hpair => ⟨h.rows.subset (List.mem_map_of_mem hpair), h.within _ hpair slot rfl⟩
  have hapart : ∀ (left right : ℤ) (value : String), result.slots[left]? = some value →
      result.slots[right]? = some value → left = right := by
    intro left right value hleft hright
    obtain ⟨track, slot, hpair, -, rfl, rfl⟩ := (h.selected left value).mp hleft
    obtain ⟨track', slot', hpair', -, rfl, hname⟩ := (h.selected right _).mp hright
    have hslot : slot' = slot := List.inj_on_of_nodup_map hslotIds (hmembers _ _ hpair').2
      (hmembers _ _ hpair).2 hname
    rw [h.pair_inj hpair (hslot ▸ hpair')]
  have hfits : ∀ (key : ℤ) (value : String), result.slots[key]? = some value →
      ∃ track ∈ tracks, ∃ slot ∈ slots, track.id.get = key ∧ slot.id = value ∧
        Fits rules known track slot := by
    intro key value hvalue
    obtain ⟨track, slot, hpair, hstands, hkey, hname⟩ := (h.selected key value).mp hvalue
    obtain ⟨htrack, hslot⟩ := hmembers track slot hpair
    exact ⟨track, htrack, slot, hslot, hkey, hname, fits_of_slotCost hstands.1⟩
  refine ⟨hapart, hfits, ?_, ?_⟩
  · have hkeys := append_filter_perm (fun track : IndexedTrack => track.id.get)
      result.slots.nodup_keys ((hrows.map _).nodup_iff.mpr hids) (fun key hkey => ?_)
      (fun track => decide (track.id.get ∈ result.slots)) (fun track => ?_)
    · rw [htracks]
      simp only [decide_not] at hkeys ⊢
      exact hkeys.trans (hrows.map _)
    · obtain ⟨value, hvalue⟩ := Option.isSome_iff_exists.mp
        (Std.ExtTreeMap.mem_iff_isSome_getElem?.mp (Std.ExtTreeMap.mem_keys.mp hkey))
      obtain ⟨track, htrack, -, -, rfl, -⟩ := hfits key value hvalue
      exact List.mem_map_of_mem (hrows.mem_iff.mpr htrack)
    · rw [decide_eq_true_eq, Std.ExtTreeMap.mem_keys]
  · have hentry : ∀ entry ∈ result.slots.toList, result.slots[entry.1]? = some entry.2 :=
      fun entry hmem => Std.ExtTreeMap.mem_toList_iff_getElem?_eq_some.mp hmem
    have hnodup : (result.slots.toList.map Prod.snd).Nodup := by
      have hdistinct : result.slots.toList.Nodup := by
        refine List.Nodup.of_map Prod.fst ?_
        rw [Std.ExtTreeMap.map_fst_toList_eq_keys]
        exact result.slots.nodup_keys
      refine List.Nodup.map_on (fun left hleft right hright hsame => ?_) hdistinct
      refine Prod.ext (hapart _ _ _ (hentry left hleft) ?_) hsame
      rw [hsame]
      exact hentry right hright
    have hvalues := append_filter_perm (fun slot : ReleaseSlot => slot.id) hnodup hslotIds
      (fun value hvalue => ?_) (fun slot => decide (slot.id ∈ result.slots.toList.map Prod.snd))
      (fun slot => decide_eq_true_iff)
    · rw [hslots]
      simp only [decide_not] at hvalues ⊢
      exact hvalues
    · obtain ⟨entry, hmem, rfl⟩ := List.mem_map.mp hvalue
      obtain ⟨-, -, slot, hslot, -, hname, -⟩ := hfits entry.1 entry.2 (hentry entry hmem)
      exact List.mem_map.mpr ⟨slot, hslot, hname⟩

theorem assignAlbum_eq {release : ReleaseDetail} (hslots : release.slots.length ≤ 500)
    (hfound : minimumAssignment (costsOf rules known (rowsOf known tracks) release.slots) =
      some columns) :
    ∃ result, assignAlbum rules tracks release known = some result ∧
      result.slots = (columns.zipIdx.filterMap fun entry => selection (rowsOf known tracks)
        release.slots (costsOf rules known (rowsOf known tracks) release.slots) entry.1
          entry.2).foldl (fun selected pair => selected.insert pair.1 pair.2) ∅ ∧
      result.unmatchedTracks = ((rowsOf known tracks).filter fun track =>
        track.id.get ∉ result.slots).map (·.id.get) ∧
      result.unmatchedSlots = (release.slots.filter fun slot =>
        slot.id ∉ result.slots.toList.map Prod.snd).map (·.id) := by
  have htake : release.slots.take 500 = release.slots := List.take_of_length_le hslots
  unfold assignAlbum
  simp only [htake, hfound]
  exact ⟨_, rfl, rfl, rfl, rfl⟩

theorem assignAlbum_reads {release : ReleaseDetail} (hfew : tracks.length ≤ 100)
    (hids : (tracks.map (·.id.get)).Nodup) (hslots : release.slots.length ≤ 500)
    (hslotIds : (release.slots.map (·.id)).Nodup) :
    ∃ result pairs, assignAlbum rules tracks release known = some result ∧
      Reads rules known tracks release.slots pairs result.slots ∧
      Sound rules known tracks release.slots result := by
  have hrows := @rowsOf_perm known tracks hfew
  have hnodup := List.Nodup.of_map _ hslotIds
  obtain ⟨columns, hfound, hlength, hleast⟩ := @minimumAssignment_least rules known
    (rowsOf known tracks) release.slots (hrows.length_eq.trans_le hfew) hnodup
  obtain ⟨result, hresult, hselected, htracks, hunmatched⟩ := assignAlbum_eq hslots hfound
  have hreads : Reads rules known tracks release.slots
      (pairsOf (rowsOf known tracks) release.slots columns) result.slots := by
    refine ⟨hleast.perm hrows (.refl _), fun key value => ?_⟩
    rw [hselected]
    exact selected_iff hnodup ((hrows.map _).nodup_iff.mpr hids)
  exact ⟨result, _, hresult, hreads, hreads.sound hrows hids hslotIds htracks hunmatched⟩

/-- The map is sound; it does not depend on the order of tracks and slots where every matching of
least cost keeps the same pairs. -/
theorem assignAlbum_sound_orderFree {release : ReleaseDetail} (hfew : tracks.length ≤ 100)
    (hids : (tracks.map (·.id.get)).Nodup) (hslots : release.slots.length ≤ 500)
    (hslotIds : (release.slots.map (·.id)).Nodup) :
    ∃ result, assignAlbum rules tracks release known = some result ∧
      Sound rules known tracks release.slots result ∧
      (Unambiguous rules known tracks release.slots →
        ∀ (tracks' : List IndexedTrack) (release' : ReleaseDetail), tracks.Perm tracks' →
          release.slots.Perm release'.slots →
          ∃ result', assignAlbum rules tracks' release' known = some result' ∧
            result'.slots = result.slots) := by
  obtain ⟨result, pairs, hresult, hreads, hsound⟩ := assignAlbum_reads hfew hids hslots hslotIds
  refine ⟨result, hresult, hsound, fun hclear tracks' release' htracks hperm => ?_⟩
  obtain ⟨result', pairs', hresult', hreads', -⟩ :=
    @assignAlbum_reads rules known tracks' release' (htracks.length_eq ▸ hfew)
      ((htracks.map _).nodup_iff.mp hids) (hperm.length_eq ▸ hslots)
      ((hperm.map _).nodup_iff.mp hslotIds)
  have hleast' := hreads'.toLeast.perm htracks.symm hperm.symm
  refine ⟨result', hresult', hreads.congr hperm hreads' fun track slot hstands => ?_⟩
  exact ⟨fun hpair => hclear pairs pairs' hreads.toLeast hleast' track slot hpair hstands,
    fun hpair => hclear pairs' pairs hleast' hreads.toLeast track slot hpair hstands⟩

end Matchings

/-! ## Two files of one song -/

def songFile (id : TrackId) : IndexedTrack :=
  { finale with
    id, metadata := ⟨"Song", "Composer", "", "", "", "", "", some 1, none, none, "", none⟩ }

def songRelease : ReleaseDetail where
  disambiguation := ""
  formats := []
  labels := []
  tracklistComplete := true
  id := "release"
  title := "Album"
  slots := [⟨"slot-0", "recording-0", "Finale", "Composer", none, none, none⟩,
    ⟨"slot-1", "recording-1", "Song", "Composer", none, some 1, none⟩,
    ⟨"slot-2", "recording-1", "Song", "Composer", none, some 2, none⟩]

/-- Which file is given which slot depends on which is listed first. -/
theorem song_order_matters :
    ¬ ∀ (tracks tracks' : List IndexedTrack) (release : ReleaseDetail) (known : TrackId × String),
      tracks.length ≤ 100 → (tracks.map (·.id.get)).Nodup → release.slots.length ≤ 500 →
      (release.slots.map (·.id)).Nodup → tracks.Perm tracks' →
        (assignAlbum plainRules tracks release known).map (·.slots.toList) =
          (assignAlbum plainRules tracks' release known).map (·.slots.toList) := by
  intro h
  have hsame := h [finale, songFile ⟨2, by decide⟩, songFile ⟨3, by decide⟩]
    [finale, songFile ⟨3, by decide⟩, songFile ⟨2, by decide⟩] songRelease
    (⟨1, by decide⟩, "recording-0") (by decide) (by decide) (by decide) (by decide)
    (.cons _ (.swap _ _ _))
  have hfirst : (assignAlbum plainRules [finale, songFile ⟨2, by decide⟩, songFile ⟨3, by decide⟩]
      songRelease (⟨1, by decide⟩, "recording-0")).map (·.slots.toList) =
        some [(1, "slot-0"), (2, "slot-1"), (3, "slot-2")] := by decide +kernel
  have hsecond : (assignAlbum plainRules [finale, songFile ⟨3, by decide⟩, songFile ⟨2, by decide⟩]
      songRelease (⟨1, by decide⟩, "recording-0")).map (·.slots.toList) =
        some [(1, "slot-0"), (2, "slot-2"), (3, "slot-1")] := by decide +kernel
  rw [hfirst, hsecond] at hsame
  exact absurd hsame (by decide)

/-! ## Two files that want different slots -/

/-- Where each track has a slot that costs less than anything else and no two want the same,
a matching of least cost gives each its own. -/
theorem Least.favorite {rules : TextRules} {known : TrackId × String} {tracks : List IndexedTrack}
    {slots : List ReleaseSlot} {pairs : Pairs} {best : IndexedTrack → ReleaseSlot}
    (h : Least rules known tracks slots pairs)
    (hapart : tracks.Pairwise fun left right => best left ≠ best right)
    (hbest : ∀ track ∈ tracks, best track ∈ slots ∧
      slotCost rules known track (best track) < unmatched ∧ ∀ slot ∈ slots, slot ≠ best track →
        slotCost rules known track (best track) < slotCost rules known track slot) :
    ∀ pair ∈ pairs, pair.2 = some (best pair.1) := by
  have hfavorites : Matching tracks slots (tracks.map fun track => (track, some (best track))) := by
    refine ⟨?_, List.pairwise_map.mpr (hapart.imp fun hdiffer slot hleft hright => ?_), ?_⟩
    · rw [List.map_map]
      exact .of_eq (List.map_id tracks)
    · rw [← Option.some.inj hleft] at hright
      exact hdiffer (Option.some.inj hright).symm
    · intro pair hpair slot hslot
      obtain ⟨track, htrack, rfl⟩ := List.mem_map.mp hpair
      rw [← Option.some.inj hslot]
      exact (hbest track htrack).1
  have hmem : ∀ pair ∈ pairs, pair.1 ∈ tracks := fun pair hpair =>
    h.rows.mem_iff.mp (List.mem_map_of_mem hpair)
  have hpay : ∀ pair ∈ pairs, pair.2 ≠ some (best pair.1) →
      slotCost rules known pair.1 (best pair.1) < pay rules known pair := by
    rintro ⟨track, choice⟩ hpair hother
    obtain ⟨-, hfits, hleast⟩ := hbest track (hmem _ hpair)
    cases choice with
    | none => exact hfits
    | some slot => exact hleast slot (h.within _ hpair slot rfl) fun hsame => hother (by rw [hsame])
  have hle : ∀ pair ∈ pairs, slotCost rules known pair.1 (best pair.1) ≤ pay rules known pair := by
    intro pair hpair
    by_cases hsame : pair.2 = some (best pair.1)
    · rw [pay, hsame]
    · exact (hpay pair hpair hsame).le
  intro pair hpair
  by_contra hother
  have hsum : ((pairs.map Prod.fst).map fun track => slotCost rules known track (best track)).sum =
      price rules known (tracks.map fun track => (track, some (best track))) := by
    rw [(h.rows.map _).sum_eq, price, List.map_map]
    rfl
  have hlow := List.sum_lt_sum (fun pair => slotCost rules known pair.1 (best pair.1))
    (pay rules known) hle ⟨pair, hpair, hpay pair hpair hother⟩
  rw [List.map_map] at hsum
  exact absurd (h.least _ hfavorites) (not_le.mpr (hsum ▸ hlow))

theorem unambiguous_of_favorites {rules : TextRules} {known : TrackId × String}
    {tracks : List IndexedTrack} {slots : List ReleaseSlot} {best : IndexedTrack → ReleaseSlot}
    (hapart : tracks.Pairwise fun left right => best left ≠ best right)
    (hbest : ∀ track ∈ tracks, best track ∈ slots ∧
      slotCost rules known track (best track) < unmatched ∧ ∀ slot ∈ slots, slot ≠ best track →
        slotCost rules known track (best track) < slotCost rules known track slot) :
    Unambiguous rules known tracks slots := by
  intro pairs others hpairs hothers track slot hpair _
  have htrack : track ∈ others.map Prod.fst :=
    hothers.rows.mem_iff.mpr (hpairs.rows.mem_iff.mp (List.mem_map_of_mem hpair))
  obtain ⟨⟨found, choice⟩, hother, rfl⟩ := List.mem_map.mp htrack
  have hslot := hpairs.favorite hapart hbest _ hpair
  have hchoice := hothers.favorite hapart hbest _ hother
  rw [← hslot] at hchoice
  cases hchoice
  exact hother

def concertSlots : List ReleaseSlot :=
  [⟨"slot-0", "recording-0", "Finale", "Composer", none, none, none⟩,
    ⟨"slot-1", "recording-1", "Song", "Composer", none, some 1, none⟩]

theorem assignAlbum_sound_orderFree_finale :
    ∃ result, assignAlbum plainRules [finale, songFile ⟨2, by decide⟩]
        { songRelease with slots := concertSlots } (⟨1, by decide⟩, "recording-0") = some result ∧
      result.slots.toList = [(1, "slot-0"), (2, "slot-1")] ∧
      Sound plainRules (⟨1, by decide⟩, "recording-0") [finale, songFile ⟨2, by decide⟩]
        concertSlots result ∧
      ∀ (tracks' : List IndexedTrack) (release' : ReleaseDetail),
        [finale, songFile ⟨2, by decide⟩].Perm tracks' → concertSlots.Perm release'.slots →
        ∃ result', assignAlbum plainRules tracks' release' (⟨1, by decide⟩, "recording-0") =
          some result' ∧ result'.slots = result.slots := by
  obtain ⟨result, hresult, hsound, hfree⟩ := @assignAlbum_sound_orderFree plainRules
    (⟨1, by decide⟩, "recording-0") [finale, songFile ⟨2, by decide⟩]
    { songRelease with slots := concertSlots } (by decide) (by decide) (by decide) (by decide)
  have hslots : (assignAlbum plainRules [finale, songFile ⟨2, by decide⟩]
      { songRelease with slots := concertSlots } (⟨1, by decide⟩, "recording-0")).map
        (·.slots.toList) = some [(1, "slot-0"), (2, "slot-1")] := by decide +kernel
  rw [hresult, Option.map_some, Option.some.injEq] at hslots
  refine ⟨result, hresult, hslots, hsound, hfree ?_⟩
  exact @unambiguous_of_favorites _ _ _ _ (fun track => concertSlots.getD (track.id.get - 1).toNat
    ⟨"", "", "", "", none, none, none⟩) (by decide +kernel) (by decide +kernel)

end MusicServer.Album
