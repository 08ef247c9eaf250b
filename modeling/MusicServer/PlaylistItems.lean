/-
# The items of a playlist

`playlists.rs` of the storage: a playlist's items are rows under their position, and every
change reads the tracks in order, edits the list and writes all rows again.  Deleting a track
takes its rows with it, in whatever playlists they are, and leaves gaps that only the next
change or reading closes.

* `replaceItems_written`, `Written.contents`: what is written is read back;
* `contents_deleteTracks`: a deletion leaves the others in their order.
-/
import MusicServer.IndexCommits

namespace MusicServer

namespace Playlists

open LibraryIndex

/-! ## The tables -/

def maxPlaylistItems : ℕ := 20000

structure PlaylistRecord where
  id : ℤ
  name : String
  modeId : Option String
  category : Option String
  automaticRuleJson : String
  automaticSourceSignature : Option String
  automaticRefreshedAtUnixSeconds : Option ℤ
  createdAtUnixSeconds : ℤ
  updatedAtUnixSeconds : ℤ
  deriving DecidableEq

def PlaylistRecord.isAutomatic (playlist : PlaylistRecord) : Bool :=
  playlist.automaticRuleJson ≠ ""

/-- A row of `playlist_items`. -/
structure PlaylistItemRow where
  playlistId : ℤ
  position : ℤ
  trackId : TrackId
  deriving DecidableEq

def PlaylistItemRow.key (row : PlaylistItemRow) : ℤ × ℤ := (row.playlistId, row.position)

def trackIds (index : LibraryIndex) : List TrackId := index.tracks.rows.map (·.id)

/-- The tables of the playlists, under the keys of `playlist_items`. -/
structure PlaylistTables where
  playlists : List PlaylistRecord
  index : LibraryIndex
  playlistItems : List PlaylistItemRow
  keys_nodup : (playlistItems.map PlaylistItemRow.key).Nodup
  playlists_known : ∀ row ∈ playlistItems, row.playlistId ∈ playlists.map (·.id)
  tracks_known : ∀ row ∈ playlistItems, row.trackId ∈ trackIds index

structure PlaylistItemRecord where
  position : ℤ
  trackId : TrackId
  track : Option IndexedTrack
  deriving DecidableEq

structure ListedItems where
  playlist : PlaylistRecord
  items : List PlaylistItemRecord
  deriving DecidableEq

inductive PlaylistMutation (α : Type) where
  | applied (value : α)
  | playlistNotFound
  | trackNotFound
  | positionOutOfRange
  | automaticItemsManaged
  | capacityExceeded
  deriving DecidableEq

namespace PlaylistTables

def loadPlaylist (tables : PlaylistTables) (playlistId : ℤ) : Option PlaylistRecord :=
  tables.playlists.find? fun playlist => playlist.id = playlistId

/-- The rows of one playlist, `ORDER BY position`. -/
def rowsOf (tables : PlaylistTables) (playlistId : ℤ) : List PlaylistItemRow :=
  (tables.playlistItems.filter fun row => row.playlistId = playlistId).insertionSort
    fun left right => left.position ≤ right.position

/-- The tracks of a playlist in the order of their positions. -/
def contents (tables : PlaylistTables) (playlistId : ℤ) : List TrackId :=
  (tables.rowsOf playlistId).map PlaylistItemRow.trackId

def orderedTrackIds (tables : PlaylistTables) (playlistId : ℤ) :
    Except StorageError (List TrackId) :=
  if maxPlaylistItems < (tables.rowsOf playlistId).length then
    .error (.invalidLibraryState "playlist exceeds the supported item capacity")
  else .ok (tables.contents playlistId)

def clear (tables : PlaylistTables) (playlistId : ℤ) : PlaylistTables where
  playlists := tables.playlists
  index := tables.index
  playlistItems := tables.playlistItems.filter fun row => row.playlistId ≠ playlistId
  keys_nodup := tables.keys_nodup.sublist (List.filter_sublist.map _)
  playlists_known row hrow := tables.playlists_known row (List.mem_of_mem_filter hrow)
  tracks_known row hrow := tables.tracks_known row (List.mem_of_mem_filter hrow)

/-- `INSERT` under the primary key and the foreign keys. -/
def insertItem (tables : PlaylistTables) (row : PlaylistItemRow) :
    Except StorageError PlaylistTables :=
  if h : row.key ∉ tables.playlistItems.map PlaylistItemRow.key ∧
      row.playlistId ∈ tables.playlists.map (·.id) ∧ row.trackId ∈ trackIds tables.index then
    .ok
      { tables with
        playlistItems := tables.playlistItems ++ [row]
        keys_nodup := by
          rw [List.map_append, List.nodup_append]
          refine ⟨tables.keys_nodup, List.nodup_singleton _, fun key hkey other hother => ?_⟩
          rw [List.map_singleton, List.mem_singleton] at hother
          rw [hother]
          exact fun heq => h.1 (heq ▸ hkey)
        playlists_known := fun other hother => by
          rcases List.mem_append.mp hother with hold | hnew
          · exact tables.playlists_known other hold
          · rw [List.mem_singleton.mp hnew]
            exact h.2.1
        tracks_known := fun other hother => by
          rcases List.mem_append.mp hother with hold | hnew
          · exact tables.tracks_known other hold
          · rw [List.mem_singleton.mp hnew]
            exact h.2.2 }
  else .error .constraintViolation

def insertItems (playlistId : ℤ) (position : ℕ) (tables : PlaylistTables) :
    List TrackId → Except StorageError PlaylistTables
  | [] => .ok tables
  | trackId :: rest => do
    ensure (position ≤ sqliteMax) (.invalidLibraryState "playlist position exceeds SQLite range")
    let tables ← tables.insertItem ⟨playlistId, position, trackId⟩
    insertItems playlistId (position + 1) tables rest

def replaceItems (tables : PlaylistTables) (playlistId : ℤ) (ids : List TrackId) :
    Except StorageError PlaylistTables :=
  insertItems playlistId 0 (tables.clear playlistId) ids

/-- Whether the positions are those of a list. -/
def contiguous (tables : PlaylistTables) (playlistId : ℤ) : Bool :=
  (tables.rowsOf playlistId).zipIdx.all fun (row, expected) => row.position = expected

def repackItemsIfNeeded (tables : PlaylistTables) (playlistId : ℤ) (ids : List TrackId) :
    Except StorageError PlaylistTables :=
  if tables.contiguous playlistId then .ok tables else tables.replaceItems playlistId ids

end PlaylistTables

def loadTrack (index : LibraryIndex) (id : TrackId) : Except StorageError (Option IndexedTrack) :=
  match index.tracks.find id with
  | none => .ok none
  | some row => (index.indexedTrackFromRow row).map some

/-- The tracks whose ids are listed; every one of their rows has to be readable. -/
def loadTracks (index : LibraryIndex) (ids : List TrackId) :
    Except StorageError (List IndexedTrack) :=
  (index.tracks.rows.filter fun row => row.id ∈ ids).mapM index.indexedTrackFromRow

def listedItems (tracks : List IndexedTrack) (ids : List TrackId) : List PlaylistItemRecord :=
  ids.zipIdx.map fun (id, position) => ⟨position, id, tracks.find? fun track => track.id = id⟩

namespace PlaylistTables

/-! ## The operations -/

def items (tables : PlaylistTables) (playlistId : ℤ) :
    Except StorageError (PlaylistTables × Option ListedItems) :=
  match tables.loadPlaylist playlistId with
  | none => .ok (tables, none)
  | some playlist => do
    let ids ← tables.orderedTrackIds playlistId
    let tables ← tables.repackItemsIfNeeded playlistId ids
    let tracks ← loadTracks tables.index ids
    return (tables, some ⟨playlist, listedItems tracks ids⟩)

def addTrack (tables : PlaylistTables) (playlistId : ℤ) (trackId : TrackId)
    (position : Option ℕ) :
    Except StorageError (PlaylistTables × PlaylistMutation PlaylistItemRecord) :=
  match tables.loadPlaylist playlistId with
  | none => .ok (tables, .playlistNotFound)
  | some playlist =>
    if playlist.isAutomatic then .ok (tables, .automaticItemsManaged)
    else do
      let loaded ← loadTrack tables.index trackId
      match loaded with
      | none => return (tables, .trackNotFound)
      | some track =>
        let ids ← tables.orderedTrackIds playlistId
        if maxPlaylistItems ≤ ids.length then return (tables, .capacityExceeded)
        else
          let target := position.getD ids.length
          if ids.length < target then return (tables, .positionOutOfRange)
          else
            let tables ← tables.replaceItems playlistId (ids.insertIdx target trackId)
            return (tables, .applied ⟨target, trackId, some track⟩)

/-- Edits the list of a playlist that is not automatic. -/
def mutateItems (tables : PlaylistTables) (playlistId : ℤ)
    (mutate : List TrackId → Except (PlaylistMutation Unit) (List TrackId)) :
    Except StorageError (PlaylistTables × PlaylistMutation Unit) :=
  match tables.loadPlaylist playlistId with
  | none => .ok (tables, .playlistNotFound)
  | some playlist =>
    if playlist.isAutomatic then .ok (tables, .automaticItemsManaged)
    else do
      let ids ← tables.orderedTrackIds playlistId
      match mutate ids with
      | .error outcome => return (tables, outcome)
      | .ok ids =>
        let tables ← tables.replaceItems playlistId ids
        return (tables, .applied ())

def removed (position : ℕ) (ids : List TrackId) :
    Except (PlaylistMutation Unit) (List TrackId) :=
  if ids.length ≤ position then .error .positionOutOfRange else .ok (ids.eraseIdx position)

def moved (fromPosition toPosition : ℕ) (ids : List TrackId) :
    Except (PlaylistMutation Unit) (List TrackId) :=
  if ids.length ≤ fromPosition ∨ ids.length ≤ toPosition then .error .positionOutOfRange
  else if fromPosition = toPosition then .ok ids
  else
    .ok (ids[fromPosition]?.elim ids fun id =>
      (ids.eraseIdx fromPosition).insertIdx toPosition id)

def removeTrack (tables : PlaylistTables) (playlistId : ℤ) (position : ℕ) :
    Except StorageError (PlaylistTables × PlaylistMutation Unit) :=
  tables.mutateItems playlistId (removed position)

def moveTrack (tables : PlaylistTables) (playlistId : ℤ) (fromPosition toPosition : ℕ) :
    Except StorageError (PlaylistTables × PlaylistMutation Unit) :=
  tables.mutateItems playlistId (moved fromPosition toPosition)

def deletedIds (index : LibraryIndex) (matching : TrackRow → Bool) : List TrackId :=
  (index.tracks.rows.filter matching).map (·.id)

/-- `DELETE FROM tracks`, with the rows of `playlist_items` that hang on it. -/
def deleteTracks (tables : PlaylistTables) (matching : TrackRow → Bool) : PlaylistTables where
  playlists := tables.playlists
  index := tables.index.deleteTracks matching
  playlistItems := tables.playlistItems.filter fun row => row.trackId ∉ deletedIds tables.index matching
  keys_nodup := tables.keys_nodup.sublist (List.filter_sublist.map _)
  playlists_known row hrow := tables.playlists_known row (List.mem_of_mem_filter hrow)
  tracks_known row hrow := by
    obtain ⟨hmem, hkept⟩ := List.mem_filter.mp hrow
    obtain ⟨track, htrack, hid⟩ := List.mem_map.mp (tables.tracks_known row hmem)
    refine List.mem_map.mpr ⟨track, List.mem_filter.mpr ⟨htrack, ?_⟩, hid⟩
    by_contra hmatching
    have hdeleted : row.trackId ∈ deletedIds tables.index matching := by
      refine List.mem_map.mpr ⟨track, List.mem_filter.mpr ⟨htrack, ?_⟩, hid⟩
      simpa using hmatching
    exact of_decide_eq_true hkept hdeleted

def insertTrack (tables : PlaylistTables) (row : TrackRow) : Except StorageError PlaylistTables :=
  match h : tables.index.tracks.insert row with
  | .error error => .error error
  | .ok tracks =>
    .ok
      { tables with
        index := { tables.index with tracks := tracks }
        tracks_known := fun item hitem => by
          have hrows := TrackTable.store_eq_ok h
          have hold := tables.tracks_known item hitem
          unfold trackIds at hold ⊢
          rw [hrows, List.map_append]
          exact List.mem_append_left _ hold }

/-! ## Rows in order -/

section Order

variable {tables : PlaylistTables} {playlistId other : ℤ}

theorem perm_rowsOf : (tables.rowsOf playlistId).Perm
    (tables.playlistItems.filter fun row => row.playlistId = playlistId) :=
  List.perm_insertionSort _ _

theorem mem_rowsOf {row : PlaylistItemRow} :
    row ∈ tables.rowsOf playlistId ↔ row ∈ tables.playlistItems ∧ row.playlistId = playlistId := by
  rw [perm_rowsOf.mem_iff, List.mem_filter, decide_eq_true_iff]

theorem rowsOf_strict :
    (tables.rowsOf playlistId).Pairwise fun left right => left.position < right.position := by
  have hsorted : (tables.rowsOf playlistId).Pairwise
      fun left right => left.position ≤ right.position := List.pairwise_insertionSort _ _
  have hkeys : ((tables.rowsOf playlistId).map PlaylistItemRow.key).Nodup :=
    (perm_rowsOf.map _).nodup_iff.mpr (tables.keys_nodup.sublist (List.filter_sublist.map _))
  refine (hsorted.and (List.pairwise_map.mp hkeys)).imp_of_mem fun {left right} hleft hright h => ?_
  refine lt_of_le_of_ne h.1 fun heq => h.2 ?_
  exact Prod.ext ((mem_rowsOf.mp hleft).2.trans (mem_rowsOf.mp hright).2.symm) heq

theorem rowsOf_eq {rows : List PlaylistItemRow}
    (hperm : rows.Perm (tables.playlistItems.filter fun row => row.playlistId = playlistId))
    (hstrict : rows.Pairwise fun left right => left.position < right.position) :
    tables.rowsOf playlistId = rows := by
  refine (perm_rowsOf.trans hperm.symm).eq_of_pairwise ?_ rowsOf_strict hstrict
  intro left right _ _ hlt hgt
  exact absurd hlt (lt_asymm hgt)

theorem rowsOf_deleteTracks (matching : TrackRow → Bool) :
    (tables.deleteTracks matching).rowsOf playlistId =
      (tables.rowsOf playlistId).filter
        fun row => row.trackId ∉ deletedIds tables.index matching := by
  refine rowsOf_eq ?_ (rowsOf_strict.filter _)
  refine (perm_rowsOf.filter _).trans (List.Perm.of_eq ?_)
  exact List.filter_comm _ _ _

theorem contents_deleteTracks (matching : TrackRow → Bool) :
    (tables.deleteTracks matching).contents playlistId =
      (tables.contents playlistId).filter fun id => id ∉ deletedIds tables.index matching := by
  unfold contents
  rw [rowsOf_deleteTracks, List.filter_map]
  rfl

theorem contents_known {id : TrackId} (h : id ∈ tables.contents playlistId) :
    id ∈ trackIds tables.index := by
  obtain ⟨row, hrow, rfl⟩ := List.mem_map.mp h
  exact tables.tracks_known row (mem_rowsOf.mp hrow).1

end Order

/-! ## Rows that are written -/

def rowsFrom (playlistId : ℤ) (position : ℕ) : List TrackId → List PlaylistItemRow
  | [] => []
  | id :: rest => ⟨playlistId, position, id⟩ :: rowsFrom playlistId (position + 1) rest

section Writing

variable {tables tables' : PlaylistTables} {playlistId other : ℤ} {ids : List TrackId}

theorem mem_rowsFrom {position : ℕ} {row : PlaylistItemRow}
    (h : row ∈ rowsFrom playlistId position ids) :
    row.playlistId = playlistId ∧ (position : ℤ) ≤ row.position := by
  induction ids generalizing position with
  | nil => exact absurd h List.not_mem_nil
  | cons id rest ih =>
    rcases List.mem_cons.mp h with rfl | hrest
    · exact ⟨rfl, le_refl _⟩
    · obtain ⟨hplaylist, hposition⟩ := ih hrest
      refine ⟨hplaylist, ?_⟩
      omega

theorem rowsFrom_strict (position : ℕ) : (rowsFrom playlistId position ids).Pairwise
    fun left right => left.position < right.position := by
  induction ids generalizing position with
  | nil => exact .nil
  | cons id rest ih =>
    refine .cons (fun row hrow => ?_) (ih (position + 1))
    have hposition := (mem_rowsFrom hrow).2
    show (position : ℤ) < row.position
    omega

theorem map_rowsFrom (position : ℕ) :
    (rowsFrom playlistId position ids).map PlaylistItemRow.trackId = ids := by
  induction ids generalizing position with
  | nil => rfl
  | cons id rest ih => exact congrArg (id :: ·) (ih (position + 1))

theorem zipIdx_rowsFrom (position : ℕ) : ((rowsFrom playlistId position ids).zipIdx position).all
    (fun (row, expected) => row.position = expected) = true := by
  induction ids generalizing position with
  | nil => rfl
  | cons id rest ih =>
    rw [rowsFrom, List.zipIdx_cons, List.all_cons, ih, Bool.and_true]
    exact decide_eq_true rfl

theorem insertItems_ok {position : ℕ} (hplaylist : playlistId ∈ tables.playlists.map (·.id))
    (hknown : ∀ id ∈ ids, id ∈ trackIds tables.index)
    (hfree : ∀ row ∈ tables.playlistItems, row.playlistId = playlistId →
      row.position < (position : ℤ))
    (hrange : position + ids.length ≤ sqliteMax + 1) :
    ∃ written, insertItems playlistId position tables ids = .ok written ∧
      written.playlistItems = tables.playlistItems ++ rowsFrom playlistId position ids ∧
      written.index = tables.index ∧ written.playlists = tables.playlists := by
  induction ids generalizing tables position with
  | nil => exact ⟨tables, rfl, (List.append_nil _).symm, rfl, rfl⟩
  | cons id rest ih =>
    have hposition : position ≤ sqliteMax := by
      rw [List.length_cons] at hrange
      omega
    have hnew : (⟨playlistId, position, id⟩ : PlaylistItemRow).key ∉
        tables.playlistItems.map PlaylistItemRow.key := by
      intro hmem
      obtain ⟨row, hrow, hkey⟩ := List.mem_map.mp hmem
      obtain ⟨hsame, hat⟩ := Prod.mk.inj hkey
      have hbelow := hfree row hrow hsame
      rw [hat] at hbelow
      exact lt_irrefl _ hbelow
    obtain ⟨next, hnext, hitems, hindex, hplaylists⟩ : ∃ next,
        tables.insertItem ⟨playlistId, position, id⟩ = .ok next ∧
        next.playlistItems = tables.playlistItems ++ [⟨playlistId, position, id⟩] ∧
        next.index = tables.index ∧ next.playlists = tables.playlists := by
      unfold insertItem
      rw [dif_pos ⟨hnew, hplaylist, hknown id List.mem_cons_self⟩]
      exact ⟨_, rfl, rfl, rfl, rfl⟩
    have hfree' : ∀ row ∈ next.playlistItems, row.playlistId = playlistId →
        row.position < ((position + 1 : ℕ) : ℤ) := by
      intro row hrow hsame
      rw [hitems] at hrow
      rcases List.mem_append.mp hrow with hold | hlast
      · have hbelow := hfree row hold hsame
        omega
      · rw [List.mem_singleton.mp hlast]
        show (position : ℤ) < ((position + 1 : ℕ) : ℤ)
        omega
    obtain ⟨written, hwritten, hall, hindex', hplaylists'⟩ := ih (hplaylists ▸ hplaylist)
      (fun other hother => hindex ▸ hknown other (List.mem_cons_of_mem _ hother)) hfree' (by
        rw [List.length_cons] at hrange
        omega)
    refine ⟨written, ?_, ?_, hindex'.trans hindex, hplaylists'.trans hplaylists⟩
    · unfold insertItems ensure
      rw [if_pos hposition, hnext]
      exact hwritten
    · rw [hall, hitems, List.append_assoc]
      rfl

theorem replaceItems_ok (hplaylist : playlistId ∈ tables.playlists.map (·.id))
    (hknown : ∀ id ∈ ids, id ∈ trackIds tables.index) (hmany : ids.length ≤ maxPlaylistItems) :
    ∃ written, tables.replaceItems playlistId ids = .ok written ∧
      written.playlistItems = (tables.playlistItems.filter fun row => row.playlistId ≠ playlistId)
        ++ rowsFrom playlistId 0 ids ∧
      written.index = tables.index ∧ written.playlists = tables.playlists := by
  refine @insertItems_ok (tables.clear playlistId) playlistId ids _ hplaylist hknown ?_ ?_
  · intro row hrow hsame
    have hother := (List.mem_filter.mp hrow).2
    exact absurd hsame (of_decide_eq_true hother)
  · have hsmall : maxPlaylistItems ≤ sqliteMax := by decide
    omega

structure Written (tables written : PlaylistTables) (playlistId : ℤ) (ids : List TrackId) :
    Prop where
  rows : written.rowsOf playlistId = rowsFrom playlistId 0 ids
  others : ∀ other, other ≠ playlistId → written.rowsOf other = tables.rowsOf other
  index : written.index = tables.index
  playlists : written.playlists = tables.playlists

theorem replaceItems_written (hplaylist : playlistId ∈ tables.playlists.map (·.id))
    (hknown : ∀ id ∈ ids, id ∈ trackIds tables.index) (hmany : ids.length ≤ maxPlaylistItems) :
    ∃ written, tables.replaceItems playlistId ids = .ok written ∧
      Written tables written playlistId ids := by
  obtain ⟨written, hok, hitems, hindex, hplaylists⟩ := replaceItems_ok hplaylist hknown hmany
  refine ⟨written, hok, ?_, fun other hother => ?_, hindex, hplaylists⟩
  · refine rowsOf_eq ?_ (rowsFrom_strict 0)
    rw [hitems, List.filter_append, List.filter_filter]
    have hnone : tables.playlistItems.filter (fun row =>
        decide (row.playlistId = playlistId) && decide (row.playlistId ≠ playlistId)) = [] := by
      rw [List.filter_eq_nil_iff]
      intro row _ hboth
      rw [Bool.and_eq_true, decide_eq_true_iff, decide_eq_true_iff] at hboth
      exact hboth.2 hboth.1
    have hall : (rowsFrom playlistId 0 ids).filter (fun row => row.playlistId = playlistId)
        = rowsFrom playlistId 0 ids := by
      rw [List.filter_eq_self]
      intro row hrow
      exact decide_eq_true (mem_rowsFrom hrow).1
    rw [hnone, hall, List.nil_append]
  · unfold rowsOf
    rw [hitems, List.filter_append, List.filter_filter]
    have hnone : (rowsFrom playlistId 0 ids).filter (fun row => row.playlistId = other) = [] := by
      rw [List.filter_eq_nil_iff]
      intro row hrow hsame
      rw [(mem_rowsFrom hrow).1] at hsame
      exact hother (of_decide_eq_true hsame).symm
    have hkept : tables.playlistItems.filter (fun row =>
        decide (row.playlistId = other) && decide (row.playlistId ≠ playlistId))
        = tables.playlistItems.filter fun row => row.playlistId = other := by
      refine List.filter_congr fun row _ => ?_
      by_cases hsame : row.playlistId = other
      · simp [hsame, hother]
      · simp [hsame]
    rw [hnone, hkept, List.append_nil]

theorem Written.contents (h : Written tables tables' playlistId ids) :
    tables'.contents playlistId = ids := by
  unfold PlaylistTables.contents
  rw [h.rows, map_rowsFrom]

theorem Written.contents_other (h : Written tables tables' playlistId ids)
    (hother : other ≠ playlistId) : tables'.contents other = tables.contents other := by
  unfold PlaylistTables.contents
  rw [h.others other hother]

theorem Written.contiguous (h : Written tables tables' playlistId ids) :
    tables'.contiguous playlistId = true := by
  unfold PlaylistTables.contiguous
  rw [h.rows]
  exact zipIdx_rowsFrom 0

end Writing

end PlaylistTables

end Playlists

end MusicServer
