/-
# The bookkeeping of the index

The count of tracks is kept by deltas that each mutation chooses, while a reconciliation
counts anew.  Every transaction keeps the count equal to the number of rows, and every
one that affects tracks, and no other, advances the generation by one.
-/
import MusicServer.IndexCommits
import MusicServer.Transition

namespace MusicServer

namespace LibraryIndex

open RecoveryJournals
open Transition (System)

/-- The recorded count of tracks is the number of rows. -/
def Counted (index : LibraryIndex) : Prop :=
  index.state.discoveredTracks = index.tracks.rows.length

/-- By how many generations a mutation of that many tracks advances the index. -/
def advanceOf (affectedTracks : ℕ) : ℕ := if affectedTracks = 0 then 0 else 1

/-! ## Finishing a mutation -/

/-- The number of rows that an effect leads to from the count so far. -/
def rowsAfter (count affectedTracks : ℕ) : LibraryCatalogEffect → ℕ → Prop
  | .preserveMembership, rows => rows = count
  | .addTracks, rows => rows = count + affectedTracks
  | .removeTracks, rows => rows + affectedTracks = count

variable {affectedTracks : ℕ}

theorem advance_eq_ok {index : LibraryIndex} {effect : LibraryCatalogEffect} {state : LibraryStatus}
    {rows : ℕ} (h : index.advance affectedTracks effect = .ok state)
    (hrows : rowsAfter index.state.discoveredTracks affectedTracks effect rows) :
    state.discoveredTracks = rows ∧
      state.generation = index.state.generation + advanceOf affectedTracks := by
  unfold advance at h
  unfold advanceOf
  split at h
  · next hzero =>
    cases h
    rw [if_pos hzero]
    subst hzero
    cases effect with
    | preserveMembership | addTracks | removeTracks => exact ⟨hrows.symm, rfl⟩
  · next hsome =>
    rw [if_neg hsome]
    obtain ⟨-, -, h⟩ := bind_eq_ok.mp h
    obtain ⟨count, hcount, h⟩ := bind_eq_ok.mp h
    obtain ⟨-, -, h⟩ := bind_eq_ok.mp h
    obtain ⟨-, -, h⟩ := bind_eq_ok.mp h
    cases h
    refine ⟨?_, rfl⟩
    show count = rows
    cases effect with
    | preserveMembership =>
      cases hcount
      exact hrows.symm
    | addTracks =>
      obtain ⟨-, -, hcount⟩ := bind_eq_ok.mp hcount
      cases hcount
      exact hrows.symm
    | removeTracks =>
      obtain ⟨-, -, hcount⟩ := bind_eq_ok.mp hcount
      cases hcount
      unfold rowsAfter at hrows
      omega

variable {index index' : LibraryIndex} {context : MutationJournalContext} {now : ℤ}

theorem finish_counted {journalId operation : String} {effect : LibraryCatalogEffect}
    {batchId : Option ℤ}
    (h : index.finishLibraryIndexMutation journalId operation affectedTracks effect context now =
      .ok (index', batchId))
    (hrows : rowsAfter index.state.discoveredTracks affectedTracks effect index.tracks.rows.length) :
    index'.Counted ∧
      index'.state.generation = index.state.generation + advanceOf affectedTracks ∧
      index'.tracks = index.tracks := by
  obtain ⟨hadvance, htracks, -, -⟩ := finishLibraryIndexMutation_eq_ok h
  obtain ⟨hcount, hgeneration⟩ := advance_eq_ok hadvance hrows
  refine ⟨?_, hgeneration, htracks⟩
  show index'.state.discoveredTracks = _
  rw [hcount, htracks]

/-! ## The rows -/

variable {matching : TrackRow → Bool} {table table' : TrackTable}

theorem length_updateWhere {update : TrackRow → TrackRow}
    (h : table.updateWhere matching update = .ok table') :
    table'.rows.length = table.rows.length := by
  rw [TrackTable.store_eq_ok h, List.length_map]

theorem length_deleteTracks (index : LibraryIndex) (matching : TrackRow → Bool) :
    (index.deleteTracks matching).tracks.rows.length + index.tracks.rows.countP matching =
      index.tracks.rows.length := by
  show (index.tracks.rows.filter fun row => !matching row).length + _ = _
  rw [← List.countP_eq_length_filter, Nat.add_comm]
  simpa using (List.length_eq_countP_add_countP matching (l := index.tracks.rows)).symm

theorem TrackTable.ext (h : table.rows = table'.rows) :
    table = table' := by
  cases table
  cases table'
  cases h
  rfl

theorem deleteWhere_eq_self {table : TrackTable} (h : table.rows.countP matching = 0) :
    table.deleteWhere matching = table := by
  apply TrackTable.ext
  show table.rows.filter _ = table.rows
  rw [List.filter_eq_self]
  intro row hrow
  rw [List.countP_eq_zero] at h
  rw [Bool.eq_false_iff.mpr (h row hrow)]
  rfl

variable {trackId : TrackId} {path : LibraryPath}

theorem updateTrackAt_eq_ok {update : TrackRow → TrackRow} {missing : String}
    (h : index.updateTrackAt trackId path update missing = .ok index') :
    index'.state = index.state ∧ index'.tracks.rows.length = index.tracks.rows.length := by
  obtain ⟨tracks, htracks, h⟩ := bind_eq_ok.mp h
  obtain ⟨-, -, h⟩ := bind_eq_ok.mp h
  cases h
  exact ⟨rfl, length_updateWhere htracks⟩

variable {original : Option TrackOriginal}

theorem refreshOriginal_eq_ok (h : index.refreshOriginal trackId original = .ok index') :
    index'.state = index.state ∧ index'.tracks = index.tracks := by
  cases original with
  | none =>
    cases h
    exact ⟨rfl, rfl⟩
  | some original =>
    obtain ⟨_, -, h⟩ := bind_eq_ok.mp h
    obtain ⟨-, -, h⟩ := bind_eq_ok.mp h
    cases h
    exact ⟨rfl, rfl⟩

theorem recordOriginal_eq_ok (h : index.recordOriginal trackId original = .ok index') :
    index'.state = index.state ∧ index'.tracks = index.tracks := by
  cases original with
  | none =>
    obtain ⟨-, -, h⟩ := bind_eq_ok.mp h
    cases h
    exact ⟨rfl, rfl⟩
  | some original =>
    obtain ⟨-, -, h⟩ := bind_eq_ok.mp h
    obtain ⟨-, -, h⟩ := bind_eq_ok.mp h
    cases h
    exact ⟨rfl, rfl⟩

/-! ## The mutations -/

/-- The counts after a mutation; one that affected no track changed none. -/
def Advanced (index index' : LibraryIndex) (affectedTracks : ℕ) : Prop :=
  index'.Counted ∧ index'.state.generation = index.state.generation + advanceOf affectedTracks ∧
    (affectedTracks = 0 → index'.tracks = index.tracks)

theorem deleteTracks_advanced {journalId operation : String} {batchId : Option ℤ}
    (hcounted : index.Counted)
    (h : (index.deleteTracks matching).finishLibraryIndexMutation journalId operation
      (index.tracks.rows.countP matching) .removeTracks context now = .ok (index', batchId)) :
    Advanced index index' (index.tracks.rows.countP matching) := by
  obtain ⟨hcount, hgeneration, htracks⟩ := finish_counted h (by
    show (index.deleteTracks _).tracks.rows.length + _ = index.state.discoveredTracks
    rw [length_deleteTracks, hcounted])
  exact ⟨hcount, hgeneration, fun hzero => htracks.trans (deleteWhere_eq_self hzero)⟩

variable {journalId : String} {discovered : DiscoveredTrack}

theorem trackMove_counted {source : LibraryPath} {result : IndexedTrack × Option ℤ}
    (hcounted : index.Counted)
    (h : index.commitLibraryTrackMoveWithCleanup journalId trackId source discovered context now =
      .ok (index', result)) :
    index'.Counted ∧ index'.state.generation = index.state.generation + 1 := by
  unfold commitLibraryTrackMoveWithCleanup at h
  obtain ⟨-, -, h⟩ := bind_eq_ok.mp h
  obtain ⟨-, -, h⟩ := bind_eq_ok.mp h
  obtain ⟨moved, hmoved, h⟩ := bind_eq_ok.mp h
  obtain ⟨⟨finished, batchId⟩, hfinish, h⟩ := bind_eq_ok.mp h
  obtain ⟨_, -, h⟩ := bind_eq_ok.mp h
  cases h
  obtain ⟨hstate, hlength⟩ := updateTrackAt_eq_ok hmoved
  obtain ⟨hcount, hgeneration, -⟩ := finish_counted hfinish (by
    rw [hstate, hlength]
    exact hcounted.symm)
  rw [hstate] at hgeneration
  exact ⟨hcount, hgeneration⟩

theorem trackDelete_counted (hcounted : index.Counted)
    (h : index.commitLibraryTrackDelete journalId trackId path now = .ok (index', affectedTracks)) :
    Advanced index index' affectedTracks := by
  unfold commitLibraryTrackDelete at h
  obtain ⟨-, -, h⟩ := bind_eq_ok.mp h
  obtain ⟨⟨finished, batchId⟩, hfinish, h⟩ := bind_eq_ok.mp h
  cases h
  exact deleteTracks_advanced hcounted hfinish

theorem trackMetadata_counted {patch : TrackMetadataPatch} {discovered : Option DiscoveredTrack}
    {result : IndexedTrack × Option ℤ} (hcounted : index.Counted)
    (h : index.commitLibraryTrackMetadataWithCleanup journalId trackId path patch discovered
      original context now = .ok (index', result)) :
    index'.Counted ∧ index'.state.generation = index.state.generation + 1 := by
  unfold commitLibraryTrackMetadataWithCleanup at h
  obtain ⟨-, -, h⟩ := bind_eq_ok.mp h
  obtain ⟨-, -, h⟩ := bind_eq_ok.mp h
  obtain ⟨-, -, h⟩ := bind_eq_ok.mp h
  obtain ⟨-, -, h⟩ := bind_eq_ok.mp h
  split at h
  · cases h
  · obtain ⟨-, -, h⟩ := bind_eq_ok.mp h
    obtain ⟨_, -, h⟩ := bind_eq_ok.mp h
    obtain ⟨patched, hpatched, h⟩ := bind_eq_ok.mp h
    obtain ⟨refreshed, hrefreshed, h⟩ := bind_eq_ok.mp h
    obtain ⟨⟨finished, batchId⟩, hfinish, h⟩ := bind_eq_ok.mp h
    obtain ⟨_, -, h⟩ := bind_eq_ok.mp h
    cases h
    obtain ⟨hstate, hlength⟩ := updateTrackAt_eq_ok hpatched
    obtain ⟨hstate', htracks⟩ := refreshOriginal_eq_ok hrefreshed
    obtain ⟨hcount, hgeneration, -⟩ := finish_counted hfinish (by
      rw [hstate', hstate, htracks, hlength]
      exact hcounted.symm)
    rw [hstate', hstate] at hgeneration
    exact ⟨hcount, hgeneration⟩

theorem fileSwap_counted {mutation : LibraryFileMutation} {previousPath : LibraryPath}
    {track : IndexedTrack} (hcounted : index.Counted)
    (h : index.commitLibraryTrackFileSwap journalId trackId mutation previousPath discovered
      original now = .ok (index', track)) :
    index'.Counted ∧ index'.state.generation = index.state.generation + 1 := by
  unfold commitLibraryTrackFileSwap at h
  obtain ⟨-, -, h⟩ := bind_eq_ok.mp h
  obtain ⟨-, -, h⟩ := bind_eq_ok.mp h
  obtain ⟨swapped, hswapped, h⟩ := bind_eq_ok.mp h
  obtain ⟨recorded, hrecorded, h⟩ := bind_eq_ok.mp h
  obtain ⟨⟨finished, batchId⟩, hfinish, h⟩ := bind_eq_ok.mp h
  obtain ⟨_, -, h⟩ := bind_eq_ok.mp h
  cases h
  obtain ⟨hstate, hlength⟩ := updateTrackAt_eq_ok hswapped
  obtain ⟨hstate', htracks⟩ := recordOriginal_eq_ok hrecorded
  obtain ⟨hcount, hgeneration, -⟩ := finish_counted hfinish (by
    rw [hstate', hstate, htracks, hlength]
    exact hcounted.symm)
  rw [hstate', hstate] at hgeneration
  exact ⟨hcount, hgeneration⟩

theorem length_upsertTrack (h : upsertTrack table discovered now = .ok table') :
    table'.rows.length = table.rows.length +
      if (table.rows.any fun row => row.path = discovered.path.encoded) = true then 0 else 1 := by
  unfold upsertTrack at h
  dsimp only at h
  split at h
  · next hexists =>
    rw [if_pos hexists]
    exact length_updateWhere h
  · next hnew =>
    rw [if_neg hnew, TrackTable.store_eq_ok h, List.length_append, List.length_singleton]

theorem upload_counted {staged destination : LibraryPath} {replaceExisting : Bool}
    {discovered : Option DiscoveredTrack} {track : Option IndexedTrack} (hcounted : index.Counted)
    (h : index.commitLibraryUpload journalId staged destination replaceExisting discovered now =
      .ok (index', track, affectedTracks)) :
    Advanced index index' affectedTracks := by
  unfold commitLibraryUpload at h
  obtain ⟨_, hpath, h⟩ := bind_eq_ok.mp h
  obtain ⟨-, -, h⟩ := bind_eq_ok.mp h
  obtain ⟨-, -, h⟩ := bind_eq_ok.mp h
  rw [ensure_eq_ok] at hpath
  cases discovered with
  | none =>
    obtain ⟨⟨finished, batchId⟩, hfinish, h⟩ := bind_eq_ok.mp h
    cases h
    obtain ⟨hcount, hgeneration, htracks⟩ := finish_counted hfinish hcounted.symm
    exact ⟨hcount, hgeneration, fun _ => htracks⟩
  | some found =>
    obtain ⟨tracks, htracks, h⟩ := bind_eq_ok.mp h
    split at h
    · cases h
    · obtain ⟨_, -, h⟩ := bind_eq_ok.mp h
      obtain ⟨⟨finished, batchId⟩, hfinish, h⟩ := bind_eq_ok.mp h
      cases h
      have hlength := length_upsertTrack htracks
      rw [hpath found rfl] at hlength
      obtain ⟨hcount, hgeneration, -⟩ := finish_counted hfinish (by
        show rowsAfter index.state.discoveredTracks 1 _ tracks.rows.length
        rw [hlength, hcounted]
        split
        · rfl
        · rfl)
      exact ⟨hcount, hgeneration, fun hzero => absurd hzero (by decide)⟩

theorem folderRename_counted {source destination : LibraryPath} {batchId : Option ℤ}
    (hcounted : index.Counted)
    (h : index.commitFolderRename matching journalId source destination context now =
      .ok (index', affectedTracks, batchId)) :
    Advanced index index' affectedTracks := by
  unfold commitFolderRename at h
  obtain ⟨-, -, h⟩ := bind_eq_ok.mp h
  obtain ⟨-, -, h⟩ := bind_eq_ok.mp h
  obtain ⟨-, -, h⟩ := bind_eq_ok.mp h
  obtain ⟨updated, hupdated, h⟩ := bind_eq_ok.mp h
  obtain ⟨_, hall, h⟩ := bind_eq_ok.mp h
  obtain ⟨tracks, htracks, h⟩ := bind_eq_ok.mp h
  obtain ⟨⟨finished, _⟩, hfinish, h⟩ := bind_eq_ok.mp h
  cases h
  rw [ensure_eq_ok] at hall
  have hstored := (TrackTable.store_eq_ok htracks).trans (TrackTable.rewritePaths_eq_ok hupdated)
  obtain ⟨hcount, hgeneration, hkept⟩ := finish_counted hfinish (by
    show tracks.rows.length = index.state.discoveredTracks
    rw [hstored, List.nil_append, List.length_map, hcounted])
  refine ⟨hcount, hgeneration, fun hzero => ?_⟩
  rw [hzero, List.countP_eq_zero] at hall
  rw [hkept]
  refine TrackTable.ext (hstored.trans ?_)
  exact (List.map_congr_left fun row hrow => if_neg (hall row hrow)).trans (List.map_id _)

theorem folderDelete_counted (hcounted : index.Counted)
    (h : index.commitLibraryFolderDelete journalId path now = .ok (index', affectedTracks)) :
    Advanced index index' affectedTracks := by
  unfold commitLibraryFolderDelete at h
  obtain ⟨-, -, h⟩ := bind_eq_ok.mp h
  obtain ⟨⟨finished, batchId⟩, hfinish, h⟩ := bind_eq_ok.mp h
  cases h
  exact deleteTracks_advanced hcounted hfinish

/-! ## Reconciliation -/

/-- What taking in scanned tracks one after another does to the rows. -/
structure TookIn (before after : TrackTable) (found : List DiscoveredTrack) : Prop where
  kept : ∀ row ∈ before.rows, ∃ row' ∈ after.rows, row'.id = row.id ∧ row'.path = row.path
  present : ∀ track ∈ found, ∃ row ∈ after.rows, row.path = track.path.encoded
  origin : ∀ row ∈ after.rows, (∃ row' ∈ before.rows, row'.path = row.path) ∨
    ∃ track ∈ found, track.path.encoded = row.path

theorem reconcileTrack_eq_ok {track : DiscoveredTrack}
    (h : reconcileTrack now table track = .ok table') : TookIn table table' [track] := by
  unfold reconcileTrack at h
  dsimp only at h
  split at h
  · next hexists =>
    rw [List.any_eq_true] at hexists
    obtain ⟨found, hfound, hpath⟩ := hexists
    have hrows := TrackTable.store_eq_ok h
    -- An updated row keeps its id, and its path is the one it was found at.
    have hsame : ∀ row : TrackRow,
        (if (decide (row.path = track.path.encoded) && outdated row track) = true
          then rediscover track row else row).id = row.id ∧
        (if (decide (row.path = track.path.encoded) && outdated row track) = true
          then rediscover track row else row).path = row.path := by
      intro row
      split
      · next hupdated =>
        rw [Bool.and_eq_true, decide_eq_true_eq] at hupdated
        exact ⟨rfl, hupdated.1.symm⟩
      · exact ⟨rfl, rfl⟩
    constructor
    · intro row hrow
      rw [hrows]
      exact ⟨_, List.mem_map_of_mem hrow, hsame row⟩
    · intro track' htrack'
      rw [List.mem_singleton] at htrack'
      subst htrack'
      rw [hrows]
      exact ⟨_, List.mem_map_of_mem hfound, (hsame found).2.trans (of_decide_eq_true hpath)⟩
    · intro row hrow
      rw [hrows, List.mem_map] at hrow
      obtain ⟨row', hrow', rfl⟩ := hrow
      exact .inl ⟨row', hrow', (hsame row').2.symm⟩
  · have hrows := TrackTable.store_eq_ok h
    constructor
    · intro row hrow
      rw [hrows]
      exact ⟨row, List.mem_append_left _ hrow, rfl, rfl⟩
    · intro track' htrack'
      rw [List.mem_singleton] at htrack'
      subst htrack'
      rw [hrows]
      exact ⟨_, List.mem_append_right _ (List.mem_singleton_self _), rfl⟩
    · intro row hrow
      rw [hrows, List.mem_append, List.mem_singleton] at hrow
      rcases hrow with hold | rfl
      · exact .inl ⟨row, hold, rfl⟩
      · exact .inr ⟨track, List.mem_singleton_self _, rfl⟩

variable {found : List DiscoveredTrack}

theorem TookIn.cons {before middle after : TrackTable} {track : DiscoveredTrack}
    (hfirst : TookIn before middle [track]) (hrest : TookIn middle after found) :
    TookIn before after (track :: found) := by
  constructor
  · intro row hrow
    obtain ⟨row', hrow', hid', hpath'⟩ := hfirst.kept row hrow
    obtain ⟨row'', hrow'', hid'', hpath''⟩ := hrest.kept row' hrow'
    exact ⟨row'', hrow'', hid''.trans hid', hpath''.trans hpath'⟩
  · intro track' htrack'
    rw [List.mem_cons] at htrack'
    rcases htrack' with rfl | htrack'
    · obtain ⟨row, hrow, hpath⟩ := hfirst.present track' (List.mem_singleton_self _)
      obtain ⟨row', hrow', -, hpath'⟩ := hrest.kept row hrow
      exact ⟨row', hrow', hpath'.trans hpath⟩
    · exact hrest.present track' htrack'
  · intro row hrow
    rcases hrest.origin row hrow with ⟨row', hrow', hpath'⟩ | ⟨track', htrack', hpath'⟩
    · rcases hfirst.origin row' hrow' with ⟨row'', hrow'', hpath''⟩ | ⟨track', htrack', hpath''⟩
      · exact .inl ⟨row'', hrow'', hpath''.trans hpath'⟩
      · rw [List.mem_singleton] at htrack'
        subst htrack'
        exact .inr ⟨track', List.mem_cons_self, hpath''.trans hpath'⟩
    · exact .inr ⟨track', List.mem_cons_of_mem _ htrack', hpath'⟩

theorem foldlM_reconcileTrack {before after : TrackTable}
    (h : found.foldlM (reconcileTrack now) before = .ok after) : TookIn before after found := by
  induction found generalizing before with
  | nil =>
    cases h
    exact ⟨fun row hrow => ⟨row, hrow, rfl, rfl⟩, fun track htrack => absurd htrack (by simp),
      fun row hrow => .inl ⟨row, hrow, rfl⟩⟩
  | cons track rest ih =>
    rw [List.foldlM_cons] at h
    obtain ⟨middle, hmiddle, h⟩ := bind_eq_ok.mp h
    exact (reconcileTrack_eq_ok hmiddle).cons (ih h)

theorem length_matchingRows (table : TrackTable) (found : List DiscoveredTrack) :
    (found.countP fun track => (table.findPath track.path.encoded).isNone) +
      (matchingRows table found).length = found.length := by
  unfold matchingRows
  induction found with
  | nil => rfl
  | cons track rest ih =>
    rw [List.countP_cons, List.filterMap_cons, List.length_cons]
    cases htable : table.findPath track.path.encoded with
    | none =>
      simp only [Option.map_none, Option.isNone_none, if_true]
      omega
    | some row =>
      simp only [Option.map_some, Option.isNone_some, List.length_cons]
      simp
      omega

/-- What an applied reconciliation did: exactly the found paths are in the index, every
surviving path keeps its id, and the summary accounts for the tracks and the rows. -/
structure Reconciled (before after : LibraryIndex) (found : List DiscoveredTrack)
    (summary : ReconciliationSummary) : Prop where
  paths : ∀ path, path ∈ after.tracks.rows.map (·.path) ↔ path ∈ found.map (·.path.encoded)
  ids : ∀ row ∈ before.tracks.rows, row.path ∈ found.map (·.path.encoded) →
    ∃ row' ∈ after.tracks.rows, row'.id = row.id ∧ row'.path = row.path
  counts : summary.added + summary.updated + summary.unchanged = found.length
  removed : summary.removed =
    before.tracks.rows.countP fun row => row.path ∉ after.tracks.rows.map (·.path)

theorem missing_eq_false {row : TrackRow} :
    missing found row = false ↔ row.path ∈ found.map (·.path.encoded) := by
  unfold missing
  rw [Bool.not_eq_false', List.any_eq_true, List.mem_map]
  simp

theorem applyReconciliation_eq_ok {commit : ReconciliationCommit}
    (hdistinct : (found.map (·.path.encoded)).Nodup)
    (h : index.applyReconciliation found now = .ok (index', commit)) :
    ∃ summary ids, commit = .applied index'.state summary ids ∧
      Reconciled index index' found summary ∧ index'.Counted ∧
      index'.state.generation = index.state.generation + 1 := by
  unfold applyReconciliation at h
  obtain ⟨_, hupdated, h⟩ := bind_eq_ok.mp h
  obtain ⟨tracks, htracks, h⟩ := bind_eq_ok.mp h
  obtain ⟨-, -, h⟩ := bind_eq_ok.mp h
  obtain ⟨-, -, h⟩ := bind_eq_ok.mp h
  cases h
  rw [ensure_eq_ok] at hupdated
  have htook := foldlM_reconcileTrack htracks
  have hpaths : ∀ path, path ∈ (tracks.deleteWhere (missing found)).rows.map (·.path) ↔
      path ∈ found.map (·.path.encoded) := by
    intro path
    constructor
    · intro hpath
      obtain ⟨row, hrow, rfl⟩ := List.mem_map.mp hpath
      rw [TrackTable.deleteWhere, List.mem_filter, Bool.not_eq_true'] at hrow
      exact missing_eq_false.mp hrow.2
    · intro hpath
      obtain ⟨track, htrack, rfl⟩ := List.mem_map.mp hpath
      obtain ⟨row, hrow, hrowPath⟩ := htook.present track htrack
      rw [← hrowPath] at hpath ⊢
      refine List.mem_map_of_mem (List.mem_filter.mpr ⟨hrow, ?_⟩)
      rw [missing_eq_false.mpr hpath]
      rfl
  refine ⟨_, _, rfl, ⟨hpaths, ?_, ?_, ?_⟩, ?_, rfl⟩
  · intro row hrow hfound
    obtain ⟨row', hrow', hid, hpath⟩ := htook.kept row hrow
    refine ⟨row', List.mem_filter.mpr ⟨hrow', ?_⟩, hid, hpath⟩
    rw [missing_eq_false.mpr (by rwa [hpath])]
    rfl
  · have hlength := length_matchingRows index.tracks found
    dsimp only
    omega
  · apply List.countP_congr
    intro row hrow
    have hsurvives := hpaths row.path
    show missing found row = true ↔
      decide (row.path ∉ (tracks.deleteWhere (missing found)).rows.map (·.path)) = true
    rw [decide_eq_true_eq, hsurvives, ← missing_eq_false, Bool.not_eq_false]
  · show found.length = (tracks.deleteWhere (missing found)).rows.length
    have hperm := (List.perm_ext_iff_of_nodup
      (tracks.deleteWhere (missing found)).paths_nodup hdistinct).mpr hpaths
    have hlength := hperm.length_eq
    rw [List.length_map, List.length_map] at hlength
    exact hlength.symm

/-! ## Runs of the index -/

/-- The transactions that are asked of the index. -/
inductive IndexRequest where
  | createRecoveryJournal (draft : RecoveryJournalDraft)
  | transitionRecoveryJournal (id : String) (expected next : RecoveryState)
  | commitTrackMove (journalId : String) (trackId : TrackId) (source : LibraryPath)
      (discovered : DiscoveredTrack)
  | commitTrackDelete (journalId : String) (trackId : TrackId) (path : LibraryPath)
  | commitTrackMetadata (journalId : String) (trackId : TrackId) (path : LibraryPath)
      (patch : TrackMetadataPatch) (discovered : Option DiscoveredTrack)
      (original : Option TrackOriginal)
  | commitTrackConversion (journalId : String) (trackId : TrackId) (source staged : LibraryPath)
      (discovered : DiscoveredTrack) (original : TrackOriginal)
  | commitTrackRestore (journalId : String) (trackId : TrackId) (path : LibraryPath)
      (discovered : DiscoveredTrack)
  | commitUpload (journalId : String) (staged destination : LibraryPath) (replaceExisting : Bool)
      (discovered : Option DiscoveredTrack)
  | commitFolderRename (journalId : String) (source destination : LibraryPath)
  | commitFolderDelete (journalId : String) (path : LibraryPath)
  | beginReconciliation
  | commitReconciliation (expectedGeneration : ℕ) (discovered : List DiscoveredTrack)
  | failReconciliation (expectedGeneration : ℕ) (errorCode : String)
  | commitCleanupMutation (journalId : String) (mutation : LibraryFileMutation)
      (outcome : LibraryFileMutationOutcome) (append : CleanupBatchAppend)
  | commitCleanupRevertMutation (journalId : String) (mutation : LibraryFileMutation)
      (outcome : LibraryFileMutationOutcome) (revert : CleanupRevertMutation)
  | finishCleanupBatchRevert (journalId : String) (batchId : ℤ)

/-- What a transaction reports: how many tracks it affected, or how a scan was taken in. -/
inductive IndexReceipt where
  | affected (tracks : ℕ)
  | reconciliation (commit : ReconciliationCommit)

/-- By how many generations a transaction with this receipt advances the index. -/
def IndexReceipt.advances : IndexReceipt → ℕ
  | .affected tracks => advanceOf tracks
  | .reconciliation (.applied _ _ _) => 1
  | .reconciliation (.conflict _) => 0

def exec (index : LibraryIndex) (request : IndexRequest) (now : ℤ) :
    Except StorageError (LibraryIndex × IndexReceipt) :=
  match request with
  | .createRecoveryJournal draft =>
    (index.journals.createRecoveryJournal draft now).map
      fun r => ({ index with journals := r.1 }, .affected 0)
  | .transitionRecoveryJournal id expected next =>
    (index.journals.transitionRecoveryJournal id expected next now).map
      fun r => ({ index with journals := r.1 }, .affected 0)
  | .commitTrackMove journalId trackId source discovered =>
    (index.commitLibraryTrackMoveWithCleanup journalId trackId source discovered .library now).map
      fun r => (r.1, .affected 1)
  | .commitTrackDelete journalId trackId path =>
    (index.commitLibraryTrackDelete journalId trackId path now).map
      fun r => (r.1, .affected r.2)
  | .commitTrackMetadata journalId trackId path patch discovered original =>
    (index.commitLibraryTrackMetadataWithCleanup journalId trackId path patch discovered original
      .library now).map fun r => (r.1, .affected 1)
  | .commitTrackConversion journalId trackId source staged discovered original =>
    (index.commitTrackConversion journalId trackId source staged discovered original now).map
      fun r => (r.1, .affected 1)
  | .commitTrackRestore journalId trackId path discovered =>
    (index.commitTrackRestore journalId trackId path discovered now).map
      fun r => (r.1, .affected 1)
  | .commitUpload journalId staged destination replaceExisting discovered =>
    (index.commitLibraryUpload journalId staged destination replaceExisting discovered now).map
      fun r => (r.1, .affected r.2.2)
  | .commitFolderRename journalId source destination =>
    (index.commitLibraryFolderRenameWithCleanup journalId source destination .library now).map
      fun r => (r.1, .affected r.2.1)
  | .commitFolderDelete journalId path =>
    (index.commitLibraryFolderDelete journalId path now).map fun r => (r.1, .affected r.2)
  | .beginReconciliation => .ok (index.beginLibraryReconciliation now, .affected 0)
  | .commitReconciliation expectedGeneration discovered =>
    (index.commitLibraryReconciliation expectedGeneration discovered now).map
      fun r => (r.1, .reconciliation r.2)
  | .failReconciliation expectedGeneration errorCode =>
    (index.failLibraryReconciliation expectedGeneration errorCode).map
      fun index' => (index', .affected 0)
  | .commitCleanupMutation journalId mutation outcome append =>
    (index.commitCleanupMutation journalId mutation outcome append now).map
      fun r => (r.1, .affected r.2.affectedTracks)
  | .commitCleanupRevertMutation journalId mutation outcome revert =>
    (index.commitCleanupRevertMutation journalId mutation outcome revert now).map
      fun r => (r.1, .affected r.2.1)
  | .finishCleanupBatchRevert journalId batchId =>
    (index.finishCleanupBatchRevert journalId batchId now).map fun index' => (index', .affected 0)

/-- The index under its requests: a refused transaction leaves it as it was. -/
def indexSystem : System LibraryIndex (IndexRequest × ℤ) where
  init index := index = .empty
  step index label index' :=
    (∃ receipt, index.exec label.1 label.2 = .ok (index', receipt)) ∨
      ((∃ error, index.exec label.1 label.2 = .error error) ∧ index' = index)

theorem map_eq_ok {ε α β : Type} {x : Except ε α} {f : α → β} {b : β} :
    x.map f = .ok b ↔ ∃ a, x = .ok a ∧ f a = b := by
  cases x with
  | error e | ok a => simp [Except.map]

/-- What a transaction does to the bookkeeping. -/
structure KeepsBooks (index index' : LibraryIndex) (receipt : IndexReceipt) : Prop where
  counted : index'.Counted
  generation : index'.state.generation = index.state.generation + receipt.advances
  untouched : receipt.advances = 0 → index'.tracks = index.tracks

theorem keepsBooks_of_same (hcounted : index.Counted) (htracks : index'.tracks = index.tracks)
    (hcount : index'.state.discoveredTracks = index.state.discoveredTracks)
    (hgeneration : index'.state.generation = index.state.generation) :
    KeepsBooks index index' (.affected 0) := by
  refine ⟨?_, hgeneration, fun _ => htracks⟩
  unfold Counted
  rw [hcount, htracks]
  exact hcounted

theorem keepsBooks_of_one
    (h : index'.Counted ∧ index'.state.generation = index.state.generation + 1) :
    KeepsBooks index index' (.affected 1) :=
  ⟨h.1, h.2, fun hzero => absurd hzero (by decide)⟩

theorem keepsBooks_of_affected (h : Advanced index index' affectedTracks) :
    KeepsBooks index index' (.affected affectedTracks) := by
  refine ⟨h.1, h.2.1, fun hzero => h.2.2 ?_⟩
  by_contra hsome
  have hone : advanceOf affectedTracks = 1 := if_neg hsome
  exact absurd (hone.symm.trans hzero) (by decide)

theorem cleanupContext_keepsBooks {mutation : LibraryFileMutation}
    {outcome : LibraryFileMutationOutcome} {invalid : String}
    {result : Option IndexedTrack × Option ℤ} (hcounted : index.Counted)
    (h : index.commitCleanupContext journalId mutation outcome context invalid now =
      .ok (index', affectedTracks, result)) :
    KeepsBooks index index' (.affected affectedTracks) := by
  unfold commitCleanupContext at h
  split at h
  · split at h
    · obtain ⟨⟨renamed, affected, batchId⟩, hrename, heq⟩ := map_eq_ok.mp h
      cases heq
      exact keepsBooks_of_affected (folderRename_counted hcounted hrename)
    · cases h
  · split at h
    · obtain ⟨⟨moved, track, batchId⟩, hmove, heq⟩ := map_eq_ok.mp h
      cases heq
      exact keepsBooks_of_one (trackMove_counted hcounted hmove)
    · cases h
  · split at h
    · obtain ⟨⟨updated, track, batchId⟩, hupdate, heq⟩ := map_eq_ok.mp h
      cases heq
      exact keepsBooks_of_one (trackMetadata_counted hcounted hupdate)
    · cases h
  · cases h

theorem commitReconciliation_eq_ok {expectedGeneration : ℕ} {commit : ReconciliationCommit}
    (h : index.commitLibraryReconciliation expectedGeneration found now = .ok (index', commit)) :
    (index.state.generation ≠ expectedGeneration ∧ index' = index ∧
        commit = .conflict index.state.generation) ∨
      (index.state.generation = expectedGeneration ∧ index.state.status = .reconciling ∧
        ∃ summary ids, commit = .applied index'.state summary ids ∧
          Reconciled index index' found summary ∧ index'.Counted ∧
          index'.state.generation = index.state.generation + 1) := by
  unfold commitLibraryReconciliation at h
  obtain ⟨-, -, h⟩ := bind_eq_ok.mp h
  obtain ⟨_, hdistinct, h⟩ := bind_eq_ok.mp h
  obtain ⟨-, -, h⟩ := bind_eq_ok.mp h
  rw [ensure_eq_ok] at hdistinct
  split at h
  · next hstale =>
    cases h
    exact .inl ⟨hstale, rfl, rfl⟩
  · next hcurrent =>
    rw [not_not] at hcurrent
    split at h
    · cases h
    · next hstarted =>
      rw [not_not] at hstarted
      exact .inr ⟨hcurrent, hstarted, applyReconciliation_eq_ok hdistinct h⟩

theorem exec_keepsBooks {request : IndexRequest} {receipt : IndexReceipt} (hcounted : index.Counted)
    (h : index.exec request now = .ok (index', receipt)) : KeepsBooks index index' receipt := by
  cases request with
  | createRecoveryJournal draft | transitionRecoveryJournal id expected next =>
    obtain ⟨r, -, heq⟩ := map_eq_ok.mp h
    cases heq
    exact keepsBooks_of_same hcounted rfl rfl rfl
  | commitTrackMove journalId trackId source discovered =>
    obtain ⟨r, hr, heq⟩ := map_eq_ok.mp h
    cases heq
    exact keepsBooks_of_one (trackMove_counted hcounted hr)
  | commitTrackDelete journalId trackId path =>
    obtain ⟨r, hr, heq⟩ := map_eq_ok.mp h
    cases heq
    exact keepsBooks_of_affected (trackDelete_counted hcounted hr)
  | commitTrackMetadata journalId trackId path patch discovered original =>
    obtain ⟨r, hr, heq⟩ := map_eq_ok.mp h
    cases heq
    exact keepsBooks_of_one (trackMetadata_counted hcounted hr)
  | commitTrackConversion journalId trackId source staged discovered original
  | commitTrackRestore journalId trackId path discovered =>
    obtain ⟨r, hr, heq⟩ := map_eq_ok.mp h
    cases heq
    exact keepsBooks_of_one (fileSwap_counted hcounted hr)
  | commitUpload journalId staged destination replaceExisting discovered =>
    obtain ⟨r, hr, heq⟩ := map_eq_ok.mp h
    cases heq
    exact keepsBooks_of_affected (upload_counted hcounted hr)
  | commitFolderRename journalId source destination =>
    obtain ⟨r, hr, heq⟩ := map_eq_ok.mp h
    cases heq
    exact keepsBooks_of_affected (folderRename_counted hcounted hr)
  | commitFolderDelete journalId path =>
    obtain ⟨r, hr, heq⟩ := map_eq_ok.mp h
    cases heq
    exact keepsBooks_of_affected (folderDelete_counted hcounted hr)
  | beginReconciliation =>
    cases h
    exact keepsBooks_of_same hcounted rfl rfl rfl
  | commitReconciliation expectedGeneration discovered =>
    obtain ⟨r, hr, heq⟩ := map_eq_ok.mp h
    cases heq
    rcases commitReconciliation_eq_ok hr with ⟨-, hsame, hcommit⟩ | ⟨-, -, summary, ids, hcommit, happlied⟩
    · rw [hsame, hcommit]
      exact ⟨hcounted, rfl, fun _ => rfl⟩
    · rw [hcommit]
      exact ⟨happlied.2.1, happlied.2.2, fun hzero => absurd hzero Nat.one_ne_zero⟩
  | failReconciliation expectedGeneration errorCode =>
    obtain ⟨r, hr, heq⟩ := map_eq_ok.mp h
    cases heq
    obtain ⟨-, -, hr⟩ := bind_eq_ok.mp hr
    obtain ⟨-, -, hr⟩ := bind_eq_ok.mp hr
    split at hr
    · cases hr
      exact keepsBooks_of_same hcounted rfl rfl rfl
    · cases hr
      exact keepsBooks_of_same hcounted rfl rfl rfl
  | commitCleanupMutation journalId mutation outcome append =>
    obtain ⟨r, hr, heq⟩ := map_eq_ok.mp h
    cases heq
    obtain ⟨⟨committed, affected, track, batchId⟩, hcontext, hr⟩ := bind_eq_ok.mp hr
    cases batchId with
    | none => cases hr
    | some batchId =>
      cases hr
      exact cleanupContext_keepsBooks hcounted hcontext
  | commitCleanupRevertMutation journalId mutation outcome revert =>
    obtain ⟨r, hr, heq⟩ := map_eq_ok.mp h
    cases heq
    obtain ⟨⟨committed, affected, track, batchId⟩, hcontext, hr⟩ := bind_eq_ok.mp hr
    cases hr
    exact cleanupContext_keepsBooks hcounted hcontext
  | finishCleanupBatchRevert journalId batchId =>
    obtain ⟨r, hr, heq⟩ := map_eq_ok.mp h
    cases heq
    obtain ⟨-, -, hr⟩ := bind_eq_ok.mp hr
    obtain ⟨_, -, hr⟩ := bind_eq_ok.mp hr
    obtain ⟨-, -, hr⟩ := bind_eq_ok.mp hr
    obtain ⟨-, -, hr⟩ := bind_eq_ok.mp hr
    cases hr
    exact keepsBooks_of_same hcounted rfl rfl rfl

theorem counted_of_reachable {index : LibraryIndex} (h : indexSystem.Reachable index) :
    index.Counted := by
  refine h.invariant ?_ ?_
  · rintro _ rfl
    rfl
  · intro index label index' hcounted hstep
    rcases hstep with ⟨receipt, hexec⟩ | ⟨-, rfl⟩
    · exact (exec_keepsBooks hcounted hexec).counted
    · exact hcounted

/-- The checks that a scan has to pass before its generation is looked at. -/
def AcceptableScan (found : List DiscoveredTrack) : Prop :=
  found.length ≤ maxReconciliationTracks ∧ (found.map (·.path.encoded)).Nodup ∧
    ∀ track ∈ found, track.sizeBytes ≤ sqliteMax

theorem commitReconciliation_stale {index : LibraryIndex} {expectedGeneration : ℕ}
    (hfound : AcceptableScan found) (hstale : index.state.generation ≠ expectedGeneration) (now : ℤ) :
    index.commitLibraryReconciliation expectedGeneration found now =
      .ok (index, .conflict index.state.generation) := by
  obtain ⟨hlength, hdistinct, hsizes⟩ := hfound
  unfold commitLibraryReconciliation ensure
  rw [if_pos hlength, if_pos hdistinct, if_pos hsizes, if_pos hstale]
  rfl

/-- **The books of the index are in order in every reachable state.**  The recorded count
is the number of rows.  A committed transaction advances the generation by one if it
affected tracks or took in a scan, and otherwise leaves it and the tracks alone.  A scan
taken in leaves exactly what it found, with the ids of the survivors and a true account;
one that was started at another generation conflicts and changes nothing. -/
theorem index_bookkeeping {index : LibraryIndex} (h : indexSystem.Reachable index) :
    index.state.discoveredTracks = index.tracks.rows.length ∧
    (∀ request now index' receipt, index.exec request now = .ok (index', receipt) →
      index'.state.generation = index.state.generation + receipt.advances ∧
        (receipt.advances = 0 → index'.tracks = index.tracks)) ∧
    (∀ expectedGeneration found now index' status summary ids,
      index.commitLibraryReconciliation expectedGeneration found now =
        .ok (index', .applied status summary ids) → Reconciled index index' found summary) ∧
    (∀ expectedGeneration found now, index.state.generation ≠ expectedGeneration →
      (AcceptableScan found → index.commitLibraryReconciliation expectedGeneration found now =
        .ok (index, .conflict index.state.generation)) ∧
      ∀ index' commit,
        index.commitLibraryReconciliation expectedGeneration found now = .ok (index', commit) →
        index' = index) := by
  have hcounted := counted_of_reachable h
  refine ⟨hcounted, ?_, ?_, ?_⟩
  · intro request now index' receipt hexec
    have hbooks := exec_keepsBooks hcounted hexec
    exact ⟨hbooks.generation, hbooks.untouched⟩
  · intro expectedGeneration found now index' status summary ids hcommit
    rcases commitReconciliation_eq_ok hcommit with ⟨-, -, heq⟩ | ⟨-, -, summary', ids', heq, hdone, -⟩
    · cases heq
    · cases heq
      exact hdone
  · intro expectedGeneration found now hstale
    refine ⟨fun hfound => commitReconciliation_stale hfound hstale now, ?_⟩
    intro index' commit hcommit
    rcases commitReconciliation_eq_ok hcommit with ⟨-, hsame, -⟩ | ⟨hcurrent, -⟩
    · exact hsame
    · exact absurd hcurrent hstale

/-! ## A scanned library -/

/-- The index after a request, refused or not. -/
def next (index : LibraryIndex) (label : IndexRequest × ℤ) : LibraryIndex :=
  match index.exec label.1 label.2 with
  | .ok result => result.1
  | .error _ => index

theorem reachable_foldl_next {index : LibraryIndex} (h : indexSystem.Reachable index)
    (labels : List (IndexRequest × ℤ)) : indexSystem.Reachable (labels.foldl next index) := by
  induction labels generalizing index with
  | nil => exact h
  | cons label rest ih =>
    have hstep : indexSystem.step index label (index.next label) := by
      show (∃ receipt, index.exec label.1 label.2 = .ok (index.next label, receipt)) ∨
        ((∃ error, index.exec label.1 label.2 = .error error) ∧ index.next label = index)
      unfold next
      cases index.exec label.1 label.2 with
      | ok result => exact .inl ⟨result.2, rfl⟩
      | error e => exact .inr ⟨⟨e, rfl⟩, rfl⟩
    rw [List.foldl_cons]
    exact ih (h.step hstep)

/-- A scan that finds one file, and a second one that is started and given up. -/
def scannedLibrary : LibraryIndex :=
  [(.beginReconciliation, 10),
    (.commitReconciliation 0
      [⟨⟨"c.mp3".toList, by decide⟩, ⟨"", "", "", "", "", "", "", none, none, none, "", none⟩,
        1000, 1, 1⟩], 11),
    (.beginReconciliation, 20),
    (.failReconciliation 1 "discovery_failed", 21)].foldl next .empty

theorem index_bookkeeping_scannedLibrary :
    scannedLibrary.state.discoveredTracks = scannedLibrary.tracks.rows.length ∧
      scannedLibrary.state.generation = 1 ∧
      scannedLibrary.commitLibraryReconciliation 0 [] 30 = .ok (scannedLibrary, .conflict 1) := by
  have hgeneration : scannedLibrary.state.generation = 1 := by decide +kernel
  obtain ⟨hcount, -, -, hstale⟩ :=
    @index_bookkeeping scannedLibrary (reachable_foldl_next (.init rfl) _)
  refine ⟨hcount, hgeneration, ?_⟩
  have hconflict := (hstale 0 [] 30 (by
    rw [hgeneration]
    decide)).1 ⟨by decide, List.nodup_nil, by simp⟩
  rw [hgeneration] at hconflict
  exact hconflict

end LibraryIndex

end MusicServer
