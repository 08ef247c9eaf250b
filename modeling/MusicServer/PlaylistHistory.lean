/-
# A playlist as a list

What a playlist is for is a list of tracks that may repeat, edited by position; a track that
the library loses is gone from it everywhere.  `AbstractPlaylist` is that list, and the tables
refine it over every history: each answer is the one the list gives.

* `step_refines`: one operation of the tables is one of the list;
* `refused_unchanged`: what is refused changes nothing;
* `playlist_refines_list`: whole histories.
-/
import MusicServer.PlaylistItems

namespace MusicServer

namespace Playlists

open LibraryIndex PlaylistTables

/-! ## Histories of the tables -/

inductive Operation where
  | addTrack (playlistId : ℤ) (trackId : TrackId) (position : Option ℕ)
  | removeTrack (playlistId : ℤ) (position : ℕ)
  | moveTrack (playlistId : ℤ) (fromPosition toPosition : ℕ)
  | items (playlistId : ℤ)
  | deleteTracks (matching : TrackRow → Bool)
  | insertTrack (row : TrackRow)

/-- What an operation answers; an error is that of a transaction that was rolled back. -/
inductive Response where
  | added (outcome : Except StorageError (PlaylistMutation PlaylistItemRecord))
  | changed (outcome : Except StorageError (PlaylistMutation Unit))
  | listed (outcome : Except StorageError (Option ListedItems))
  | stored (outcome : Except StorageError Unit)

def Response.accepted : Response → Bool
  | .added (.ok (.applied _)) => true
  | .changed (.ok (.applied _)) => true
  | .listed (.ok (some _)) => true
  | .stored (.ok _) => true
  | _ => false

/-- The tables after a transaction, and its answer. -/
def finish {α : Type} (tables : PlaylistTables) :
    Except StorageError (PlaylistTables × α) → PlaylistTables × Except StorageError α
  | .error error => (tables, .error error)
  | .ok (tables, value) => (tables, .ok value)

def step (tables : PlaylistTables) : Operation → PlaylistTables × Response
  | .addTrack playlistId trackId position =>
    (finish tables (tables.addTrack playlistId trackId position)).map id .added
  | .removeTrack playlistId position =>
    (finish tables (tables.removeTrack playlistId position)).map id .changed
  | .moveTrack playlistId fromPosition toPosition =>
    (finish tables (tables.moveTrack playlistId fromPosition toPosition)).map id .changed
  | .items playlistId => (finish tables (tables.items playlistId)).map id .listed
  | .deleteTracks matching => (tables.deleteTracks matching, .stored (.ok ()))
  | .insertTrack row =>
    (finish tables ((tables.insertTrack row).map fun tables => (tables, ()))).map id .stored

def after (tables : PlaylistTables) (operations : List Operation) : PlaylistTables :=
  operations.foldl (fun tables operation => (step tables operation).1) tables

def responses (tables : PlaylistTables) : List Operation → List Response
  | [] => []
  | operation :: rest =>
    (step tables operation).2 :: responses (step tables operation).1 rest

/-! ## The list -/

/-- A playlist that no rule fills: the tracks the library has, and those of the playlist. -/
structure AbstractPlaylist where
  record : PlaylistRecord
  index : LibraryIndex
  ids : List TrackId
  manual : record.isAutomatic = false
  bounded : ids.length ≤ maxPlaylistItems

namespace AbstractPlaylist

def add (playlist : AbstractPlaylist) (trackId : TrackId) (position : Option ℕ) :
    AbstractPlaylist × Except StorageError (PlaylistMutation PlaylistItemRecord) :=
  match loadTrack playlist.index trackId with
  | .error error => (playlist, .error error)
  | .ok none => (playlist, .ok .trackNotFound)
  | .ok (some track) =>
    if h : maxPlaylistItems ≤ playlist.ids.length then (playlist, .ok .capacityExceeded)
    else
      let target := position.getD playlist.ids.length
      if playlist.ids.length < target then (playlist, .ok .positionOutOfRange)
      else
        ({ playlist with
            ids := playlist.ids.insertIdx target trackId
            bounded := by
              have hlength : (playlist.ids.insertIdx target trackId).length
                ≤ playlist.ids.length + 1 := List.length_insertIdx_le_succ
              omega }, .ok (.applied ⟨target, trackId, some track⟩))

def remove (playlist : AbstractPlaylist) (position : ℕ) :
    AbstractPlaylist × PlaylistMutation Unit :=
  if playlist.ids.length ≤ position then (playlist, .positionOutOfRange)
  else
    ({ playlist with
        ids := playlist.ids.eraseIdx position
        bounded := by
          have hlength := List.length_eraseIdx_le playlist.ids position
          have hbounded := playlist.bounded
          omega }, .applied ())

/-- The list with the track at one position taken out and put in at another. -/
def moveItem (ids : List TrackId) (fromPosition toPosition : ℕ) : List TrackId :=
  match ids[fromPosition]? with
  | none => ids
  | some id => (ids.eraseIdx fromPosition).insertIdx toPosition id

theorem length_moveItem (ids : List TrackId) (fromPosition toPosition : ℕ) :
    (moveItem ids fromPosition toPosition).length ≤ ids.length := by
  unfold moveItem
  split
  · exact le_refl _
  · next id hid =>
    obtain ⟨hfrom, -⟩ := List.getElem?_eq_some_iff.mp hid
    have hinsert : ((ids.eraseIdx fromPosition).insertIdx toPosition id).length
      ≤ (ids.eraseIdx fromPosition).length + 1 := List.length_insertIdx_le_succ
    have herase := List.length_eraseIdx_of_lt hfrom
    omega

def move (playlist : AbstractPlaylist) (fromPosition toPosition : ℕ) :
    AbstractPlaylist × PlaylistMutation Unit :=
  if playlist.ids.length ≤ fromPosition ∨ playlist.ids.length ≤ toPosition then
    (playlist, .positionOutOfRange)
  else
    ({ playlist with
        ids := moveItem playlist.ids fromPosition toPosition
        bounded := le_trans (length_moveItem _ _ _) playlist.bounded }, .applied ())

def list (playlist : AbstractPlaylist) : Except StorageError (Option ListedItems) :=
  (loadTracks playlist.index playlist.ids).map fun tracks =>
    some ⟨playlist.record, listedItems tracks playlist.ids⟩

/-- The library loses tracks, and the playlist every occurrence of them. -/
def forget (playlist : AbstractPlaylist) (matching : TrackRow → Bool) : AbstractPlaylist :=
  { playlist with
    index := playlist.index.deleteTracks matching
    ids := playlist.ids.filter fun id => id ∉ deletedIds playlist.index matching
    bounded := le_trans (List.length_filter_le _ _) playlist.bounded }

def learn (playlist : AbstractPlaylist) (row : TrackRow) :
    AbstractPlaylist × Except StorageError Unit :=
  match playlist.index.tracks.insert row with
  | .error error => (playlist, .error error)
  | .ok tracks => ({ playlist with index := { playlist.index with tracks := tracks } }, .ok ())

/-- One operation on the list; those of other playlists are none of its, whatever they answer. -/
def step (playlist : AbstractPlaylist) : Operation → AbstractPlaylist × Option Response
  | .addTrack playlistId trackId position =>
    if playlistId = playlist.record.id then
      (playlist.add trackId position).map id fun outcome => some (.added outcome)
    else (playlist, none)
  | .removeTrack playlistId position =>
    if playlistId = playlist.record.id then
      (playlist.remove position).map id fun outcome => some (.changed (.ok outcome))
    else (playlist, none)
  | .moveTrack playlistId fromPosition toPosition =>
    if playlistId = playlist.record.id then
      (playlist.move fromPosition toPosition).map id fun outcome => some (.changed (.ok outcome))
    else (playlist, none)
  | .items playlistId =>
    if playlistId = playlist.record.id then (playlist, some (.listed playlist.list))
    else (playlist, none)
  | .deleteTracks matching => (playlist.forget matching, some (.stored (.ok ())))
  | .insertTrack row => (playlist.learn row).map id fun outcome => some (.stored outcome)

def after (playlist : AbstractPlaylist) (operations : List Operation) : AbstractPlaylist :=
  operations.foldl (fun playlist operation => (playlist.step operation).1) playlist

def responses (playlist : AbstractPlaylist) : List Operation → List (Option Response)
  | [] => []
  | operation :: rest =>
    (playlist.step operation).2 :: responses (playlist.step operation).1 rest

end AbstractPlaylist

/-! ## What an operation leaves alone -/

section Frame

variable {tables tables' : PlaylistTables} {playlistId other : ℤ}

/-- The tables are as before, or the rows of one playlist have been written again. -/
def Rewritten (tables tables' : PlaylistTables) (playlistId : ℤ) : Prop :=
  tables' = tables ∨ ∃ ids, Written tables tables' playlistId ids

theorem Rewritten.index (h : Rewritten tables tables' playlistId) :
    tables'.index = tables.index := by
  rcases h with rfl | ⟨ids, hwritten⟩
  · rfl
  · exact hwritten.index

theorem Rewritten.loadPlaylist (h : Rewritten tables tables' playlistId) (other : ℤ) :
    tables'.loadPlaylist other = tables.loadPlaylist other := by
  rcases h with rfl | ⟨ids, hwritten⟩
  · rfl
  · unfold PlaylistTables.loadPlaylist
    rw [hwritten.playlists]

theorem Rewritten.contents (h : Rewritten tables tables' playlistId) (hother : other ≠ playlistId) :
    tables'.contents other = tables.contents other := by
  rcases h with rfl | ⟨ids, hwritten⟩
  · rfl
  · exact hwritten.contents_other hother

theorem loadPlaylist_id {record : PlaylistRecord}
    (h : tables.loadPlaylist playlistId = some record) : record.id = playlistId := by
  unfold PlaylistTables.loadPlaylist at h
  have hfound := List.find?_some h
  exact of_decide_eq_true hfound

theorem loadPlaylist_known {record : PlaylistRecord}
    (h : tables.loadPlaylist playlistId = some record) :
    playlistId ∈ tables.playlists.map (·.id) :=
  List.mem_map.mpr ⟨record, List.mem_of_find?_eq_some h, loadPlaylist_id h⟩

theorem orderedTrackIds_ok {ids : List TrackId} :
    tables.orderedTrackIds playlistId = .ok ids ↔
      (tables.contents playlistId).length ≤ maxPlaylistItems ∧
        ids = tables.contents playlistId := by
  have hlength : (tables.contents playlistId).length = (tables.rowsOf playlistId).length :=
    List.length_map _
  unfold orderedTrackIds
  rw [hlength]
  split
  · next hmany =>
    constructor
    · intro h
      cases h
    · rintro ⟨hfew, -⟩
      omega
  · next hfew =>
    rw [Except.ok.injEq]
    constructor
    · rintro rfl
      exact ⟨not_lt.mp hfew, rfl⟩
    · rintro ⟨-, rfl⟩
      rfl

theorem Written.of_replaceItems {record : PlaylistRecord} {ids : List TrackId}
    (hrecord : tables.loadPlaylist playlistId = some record)
    (hknown : ∀ id ∈ ids, id ∈ trackIds tables.index) (hmany : ids.length ≤ maxPlaylistItems)
    (h : tables.replaceItems playlistId ids = .ok tables') :
    Written tables tables' playlistId ids := by
  obtain ⟨written, hok, hwritten⟩ :=
    replaceItems_written (loadPlaylist_known hrecord) hknown hmany
  rw [hok] at h
  cases h
  exact hwritten

theorem loadTrack_known {index : LibraryIndex} {id : TrackId} {track : IndexedTrack}
    (h : loadTrack index id = .ok (some track)) : id ∈ trackIds index := by
  unfold loadTrack at h
  split at h
  · cases h
  · next row hrow =>
    unfold TrackTable.find at hrow
    have hfound := List.find?_some hrow
    exact List.mem_map.mpr ⟨row, List.mem_of_find?_eq_some hrow, of_decide_eq_true hfound⟩

theorem insertIdx_known {index : LibraryIndex} {ids : List TrackId} {id : TrackId} {target : ℕ}
    (hids : ∀ other ∈ ids, other ∈ trackIds index) (hid : id ∈ trackIds index) :
    ∀ other ∈ ids.insertIdx target id, other ∈ trackIds index := by
  intro other hother
  rcases List.eq_or_mem_of_mem_insertIdx hother with rfl | hold
  · exact hid
  · exact hids other hold

theorem addTrack_cases {trackId : TrackId} {position : Option ℕ}
    {outcome : PlaylistMutation PlaylistItemRecord}
    (h : tables.addTrack playlistId trackId position = .ok (tables', outcome)) :
    tables' = tables ∨
      (∃ record, outcome = .applied record) ∧ ∃ ids, Written tables tables' playlistId ids := by
  unfold addTrack at h
  split at h
  · cases h
    exact .inl rfl
  · next record hrecord =>
    split at h
    · cases h
      exact .inl rfl
    · obtain ⟨loaded, hloaded, h⟩ := bind_eq_ok.mp h
      split at h
      · cases h
        exact .inl rfl
      · next track =>
        obtain ⟨ids, hids, h⟩ := bind_eq_ok.mp h
        obtain ⟨-, rfl⟩ := orderedTrackIds_ok.mp hids
        split at h
        · cases h
          exact .inl rfl
        · next hroom =>
          dsimp only at h
          split at h
          · cases h
            exact .inl rfl
          · obtain ⟨written, hwritten, h⟩ := bind_eq_ok.mp h
            cases h
            have hlength : ((tables.contents playlistId).insertIdx
                (position.getD (tables.contents playlistId).length) trackId).length
                ≤ (tables.contents playlistId).length + 1 := List.length_insertIdx_le_succ
            refine .inr ⟨⟨_, rfl⟩, _, Written.of_replaceItems hrecord ?_ (by omega) hwritten⟩
            exact insertIdx_known (fun _ => contents_known) (loadTrack_known hloaded)

theorem mutateItems_cases {mutate : List TrackId → Except (PlaylistMutation Unit) (List TrackId)}
    (hmutate : ∀ ids edited, mutate ids = .ok edited →
      edited.length ≤ ids.length ∧ ∀ id ∈ edited, id ∈ ids)
    {outcome : PlaylistMutation Unit}
    (h : tables.mutateItems playlistId mutate = .ok (tables', outcome)) :
    tables' = tables ∨ outcome = .applied () ∧ ∃ ids, Written tables tables' playlistId ids := by
  unfold mutateItems at h
  split at h
  · cases h
    exact .inl rfl
  · next record hrecord =>
    split at h
    · cases h
      exact .inl rfl
    · obtain ⟨ids, hids, h⟩ := bind_eq_ok.mp h
      obtain ⟨hfew, rfl⟩ := orderedTrackIds_ok.mp hids
      split at h
      · cases h
        exact .inl rfl
      · next edited hedited =>
        obtain ⟨written, hwritten, h⟩ := bind_eq_ok.mp h
        cases h
        obtain ⟨hlength, hsub⟩ := hmutate _ _ hedited
        exact .inr ⟨rfl, _, Written.of_replaceItems hrecord
          (fun id hid => contents_known (hsub id hid)) (hlength.trans hfew) hwritten⟩

theorem removed_ok {position : ℕ} (ids edited : List TrackId)
    (h : removed position ids = .ok edited) :
    edited.length ≤ ids.length ∧ ∀ id ∈ edited, id ∈ ids := by
  unfold removed at h
  split at h
  · cases h
  · cases h
    exact ⟨List.length_eraseIdx_le _ _, fun id hid => List.mem_of_mem_eraseIdx hid⟩

theorem moved_eq {fromPosition toPosition : ℕ} (ids : List TrackId) :
    moved fromPosition toPosition ids =
      if ids.length ≤ fromPosition ∨ ids.length ≤ toPosition then .error .positionOutOfRange
      else .ok (AbstractPlaylist.moveItem ids fromPosition toPosition) := by
  unfold moved
  split
  · rfl
  · next hrange =>
    rw [not_or, not_le, not_le] at hrange
    have hid := List.getElem?_eq_getElem hrange.1
    unfold AbstractPlaylist.moveItem
    split
    · next hsame =>
      subst hsame
      rw [hid]
      dsimp only
      rw [List.insertIdx_eraseIdx_getElem hrange.1]
    · rw [hid]
      rfl

theorem moved_ok {fromPosition toPosition : ℕ} (ids edited : List TrackId)
    (h : moved fromPosition toPosition ids = .ok edited) :
    edited.length ≤ ids.length ∧ ∀ id ∈ edited, id ∈ ids := by
  rw [moved_eq] at h
  split at h
  · cases h
  · cases h
    refine ⟨AbstractPlaylist.length_moveItem _ _ _, fun id hid => ?_⟩
    unfold AbstractPlaylist.moveItem at hid
    split at hid
    · exact hid
    · next moving hmoving =>
      rcases List.eq_or_mem_of_mem_insertIdx hid with rfl | hold
      · exact List.mem_of_getElem? hmoving
      · exact List.mem_of_mem_eraseIdx hold

theorem items_cases {listed : Option ListedItems}
    (h : tables.items playlistId = .ok (tables', listed)) :
    tables' = tables ∨
      listed.isSome ∧ Written tables tables' playlistId (tables.contents playlistId) := by
  unfold PlaylistTables.items at h
  split at h
  · cases h
    exact .inl rfl
  · next record hrecord =>
    obtain ⟨ids, hids, h⟩ := bind_eq_ok.mp h
    obtain ⟨hfew, rfl⟩ := orderedTrackIds_ok.mp hids
    obtain ⟨packed, hpacked, h⟩ := bind_eq_ok.mp h
    obtain ⟨tracks, -, h⟩ := bind_eq_ok.mp h
    cases h
    unfold repackItemsIfNeeded at hpacked
    split at hpacked
    · cases hpacked
      exact .inl rfl
    · exact .inr ⟨rfl, Written.of_replaceItems hrecord (fun _ => contents_known) hfew hpacked⟩

end Frame

/-! ## Refinement -/

/-- The tables hold the playlist: its record, its tracks in order, and the library it knows. -/
structure Refines (playlist : AbstractPlaylist) (tables : PlaylistTables) : Prop where
  record : tables.loadPlaylist playlist.record.id = some playlist.record
  index : tables.index = playlist.index
  contents : tables.contents playlist.record.id = playlist.ids

section Refinement

variable {playlist : AbstractPlaylist} {tables tables' : PlaylistTables} {playlistId : ℤ}

theorem Refines.orderedTrackIds (h : Refines playlist tables) :
    tables.orderedTrackIds playlist.record.id = .ok playlist.ids :=
  orderedTrackIds_ok.mpr ⟨h.contents ▸ playlist.bounded, h.contents.symm⟩

theorem Refines.rewritten (h : Refines playlist tables)
    (hrewritten : Rewritten tables tables' playlistId) (hother : playlistId ≠ playlist.record.id) :
    Refines playlist tables' :=
  ⟨(hrewritten.loadPlaylist _).trans h.record, hrewritten.index.trans h.index,
    (hrewritten.contents hother.symm).trans h.contents⟩

theorem Refines.written (h : Refines playlist tables) {ids : List TrackId}
    (hwritten : Written tables tables' playlist.record.id ids)
    (hbounded : ids.length ≤ maxPlaylistItems) :
    Refines { playlist with ids := ids, bounded := hbounded } tables' := by
  refine ⟨?_, hwritten.index.trans h.index, hwritten.contents⟩
  rw [Rewritten.loadPlaylist (.inr ⟨ids, hwritten⟩)]
  exact h.record

theorem Refines.replaceItems (h : Refines playlist tables) {ids : List TrackId}
    (hknown : ∀ id ∈ ids, id ∈ trackIds tables.index) (hbounded : ids.length ≤ maxPlaylistItems) :
    ∃ written, tables.replaceItems playlist.record.id ids = .ok written ∧
      Refines { playlist with ids := ids, bounded := hbounded } written := by
  obtain ⟨written, hok, hwritten⟩ :=
    replaceItems_written (loadPlaylist_known h.record) hknown hbounded
  exact ⟨written, hok, h.written hwritten hbounded⟩

theorem Refines.known (h : Refines playlist tables) :
    ∀ id ∈ playlist.ids, id ∈ trackIds tables.index := by
  intro id hid
  rw [← h.contents] at hid
  exact contents_known hid

theorem addTrack_refines (h : Refines playlist tables) (trackId : TrackId) (position : Option ℕ) :
    Refines (playlist.add trackId position).1
        (finish tables (tables.addTrack playlist.record.id trackId position)).1 ∧
      (finish tables (tables.addTrack playlist.record.id trackId position)).2
        = (playlist.add trackId position).2 := by
  have hmanual : ¬ playlist.record.isAutomatic = true := by simp [playlist.manual]
  unfold PlaylistTables.addTrack AbstractPlaylist.add
  rw [h.record, h.index]
  dsimp only
  rw [if_neg hmanual, h.orderedTrackIds]
  cases hload : loadTrack playlist.index trackId with
  | error error => exact ⟨h, rfl⟩
  | ok loaded =>
    cases loaded with
    | none => exact ⟨h, rfl⟩
    | some track =>
      dsimp only [bind, Except.bind]
      by_cases hfull : maxPlaylistItems ≤ playlist.ids.length
      · rw [if_pos hfull, dif_pos hfull]
        exact ⟨h, rfl⟩
      · rw [if_neg hfull, dif_neg hfull]
        by_cases hout : playlist.ids.length < position.getD playlist.ids.length
        · rw [if_pos hout, if_pos hout]
          exact ⟨h, rfl⟩
        · rw [if_neg hout, if_neg hout]
          have hlength : (playlist.ids.insertIdx (position.getD playlist.ids.length)
              trackId).length ≤ playlist.ids.length + 1 := List.length_insertIdx_le_succ
          have hknown : ∀ id ∈ playlist.ids.insertIdx (position.getD playlist.ids.length) trackId,
              id ∈ trackIds tables.index :=
            insertIdx_known h.known (h.index ▸ loadTrack_known hload)
          obtain ⟨written, hok, hrefines⟩ := h.replaceItems hknown (by omega)
          rw [hok]
          exact ⟨hrefines, rfl⟩

theorem mutateItems_refines (h : Refines playlist tables)
    {mutate : List TrackId → Except (PlaylistMutation Unit) (List TrackId)} :
    (∀ outcome, mutate playlist.ids = .error outcome →
      finish tables (tables.mutateItems playlist.record.id mutate) = (tables, .ok outcome)) ∧
    ∀ edited, mutate playlist.ids = .ok edited → (∀ id ∈ edited, id ∈ playlist.ids) →
      ∀ hbounded : edited.length ≤ maxPlaylistItems,
        Refines { playlist with ids := edited, bounded := hbounded }
            (finish tables (tables.mutateItems playlist.record.id mutate)).1 ∧
          (finish tables (tables.mutateItems playlist.record.id mutate)).2 = .ok (.applied ()) := by
  have hmanual : ¬ playlist.record.isAutomatic = true := by simp [playlist.manual]
  unfold mutateItems
  rw [h.record]
  dsimp only
  rw [if_neg hmanual, h.orderedTrackIds]
  dsimp only [bind, Except.bind]
  constructor
  · intro outcome houtcome
    rw [houtcome]
    rfl
  · intro edited hedited hsub hbounded
    obtain ⟨written, hok, hrefines⟩ :=
      h.replaceItems (fun id hid => h.known id (hsub id hid)) hbounded
    rw [hedited]
    dsimp only
    rw [hok]
    exact ⟨hrefines, rfl⟩

theorem removeTrack_refines (h : Refines playlist tables) (position : ℕ) :
    Refines (playlist.remove position).1
        (finish tables (tables.removeTrack playlist.record.id position)).1 ∧
      (finish tables (tables.removeTrack playlist.record.id position)).2
        = .ok (playlist.remove position).2 := by
  unfold removeTrack AbstractPlaylist.remove
  obtain ⟨hrefused, hedited⟩ := @mutateItems_refines playlist tables h (removed position)
  by_cases hout : playlist.ids.length ≤ position
  · have hmutate : removed position playlist.ids = .error .positionOutOfRange := if_pos hout
    rw [if_pos hout, hrefused _ hmutate]
    exact ⟨h, rfl⟩
  · have hmutate : removed position playlist.ids = .ok (playlist.ids.eraseIdx position) :=
      if_neg hout
    rw [if_neg hout]
    exact hedited _ hmutate (removed_ok _ _ hmutate).2 _

theorem moveTrack_refines (h : Refines playlist tables) (fromPosition toPosition : ℕ) :
    Refines (playlist.move fromPosition toPosition).1
        (finish tables (tables.moveTrack playlist.record.id fromPosition toPosition)).1 ∧
      (finish tables (tables.moveTrack playlist.record.id fromPosition toPosition)).2
        = .ok (playlist.move fromPosition toPosition).2 := by
  unfold moveTrack AbstractPlaylist.move
  obtain ⟨hrefused, hedited⟩ := @mutateItems_refines playlist tables h (moved fromPosition toPosition)
  have hmoved := @moved_eq fromPosition toPosition playlist.ids
  by_cases hout : playlist.ids.length ≤ fromPosition ∨ playlist.ids.length ≤ toPosition
  · rw [if_pos hout] at hmoved
    rw [if_pos hout, hrefused _ hmoved]
    exact ⟨h, rfl⟩
  · rw [if_neg hout] at hmoved
    rw [if_neg hout]
    exact hedited _ hmoved (moved_ok _ _ hmoved).2 _

theorem items_refines (h : Refines playlist tables) :
    Refines playlist (finish tables (tables.items playlist.record.id)).1 ∧
      (finish tables (tables.items playlist.record.id)).2 = playlist.list := by
  have hpacked : ∃ packed, tables.repackItemsIfNeeded playlist.record.id playlist.ids = .ok packed ∧
      Refines playlist packed := by
    unfold repackItemsIfNeeded
    split
    · exact ⟨tables, rfl, h⟩
    · exact h.replaceItems h.known playlist.bounded
  obtain ⟨packed, hok, hrefines⟩ := hpacked
  unfold PlaylistTables.items AbstractPlaylist.list
  rw [h.record]
  dsimp only
  rw [h.orderedTrackIds]
  dsimp only [bind, Except.bind]
  rw [hok]
  dsimp only
  rw [hrefines.index]
  cases loadTracks playlist.index playlist.ids with
  | error error => exact ⟨h, rfl⟩
  | ok tracks => exact ⟨hrefines, rfl⟩

theorem deleteTracks_refines (h : Refines playlist tables) (matching : TrackRow → Bool) :
    Refines (playlist.forget matching) (tables.deleteTracks matching) := by
  refine ⟨h.record, congrArg (fun index => index.deleteTracks matching) h.index, ?_⟩
  rw [contents_deleteTracks]
  exact congr (congrArg _ (by rw [h.index])) h.contents

theorem insertTrack_error {row : TrackRow} {error : StorageError}
    (h : tables.index.tracks.insert row = .error error) : tables.insertTrack row = .error error := by
  unfold insertTrack
  split
  · next other hother =>
    rw [h] at hother
    cases hother
    rfl
  · next tracks hok =>
    rw [h] at hok
    cases hok

theorem insertTrack_ok {row : TrackRow} {tracks : TrackTable}
    (h : tables.index.tracks.insert row = .ok tracks) :
    ∃ stored, tables.insertTrack row = .ok stored ∧
      stored.index = { tables.index with tracks := tracks } ∧
      stored.playlists = tables.playlists ∧ stored.playlistItems = tables.playlistItems := by
  unfold insertTrack
  split
  · next error herror =>
    rw [h] at herror
    cases herror
  · next other hother =>
    rw [h] at hother
    cases hother
    exact ⟨_, rfl, rfl, rfl, rfl⟩

theorem insertTrack_refines (h : Refines playlist tables) (row : TrackRow) :
    Refines (playlist.learn row).1
        (finish tables ((tables.insertTrack row).map fun tables => (tables, ()))).1 ∧
      (finish tables ((tables.insertTrack row).map fun tables => (tables, ()))).2
        = (playlist.learn row).2 := by
  unfold AbstractPlaylist.learn
  rw [← h.index]
  cases hinsert : tables.index.tracks.insert row with
  | error error =>
    rw [insertTrack_error hinsert]
    exact ⟨h, rfl⟩
  | ok tracks =>
    obtain ⟨stored, hok, hindex, hplaylists, hitems⟩ := insertTrack_ok hinsert
    rw [hok]
    refine ⟨⟨?_, ?_, ?_⟩, rfl⟩
    · unfold PlaylistTables.loadPlaylist
      show stored.playlists.find? _ = _
      rw [hplaylists]
      exact h.record
    · exact hindex
    · unfold PlaylistTables.contents rowsOf
      show ((stored.playlistItems.filter _).insertionSort _).map _ = _
      rw [hitems]
      exact h.contents

theorem step_refines (h : Refines playlist tables) (operation : Operation) :
    Refines (playlist.step operation).1 (step tables operation).1 ∧
      ∀ response ∈ (playlist.step operation).2, (step tables operation).2 = response := by
  -- An operation on another playlist writes the rows of that one at most.
  have helsewhere : ∀ {α : Type} {other : ℤ} {result : Except StorageError (PlaylistTables × α)},
      (∀ tables' value, result = .ok (tables', value) → Rewritten tables tables' other) →
      other ≠ playlist.record.id → Refines playlist (finish tables result).1 := by
    intro α other result hresult hother
    cases result with
    | error error => exact h
    | ok written => exact h.rewritten (hresult written.1 written.2 rfl) hother
  cases operation with
  | addTrack playlistId trackId position =>
    dsimp only [AbstractPlaylist.step, step]
    by_cases hthis : playlistId = playlist.record.id
    · subst hthis
      obtain ⟨hrefines, hresponse⟩ := addTrack_refines h trackId position
      rw [if_pos rfl]
      refine ⟨hrefines, fun response hmem => ?_⟩
      rw [← Option.some.inj hmem]
      exact congrArg Response.added hresponse
    · rw [if_neg hthis]
      refine ⟨helsewhere (fun tables' value hvalue => ?_) hthis, nofun⟩
      exact (addTrack_cases hvalue).imp_right And.right
  | removeTrack playlistId position =>
    dsimp only [AbstractPlaylist.step, step]
    by_cases hthis : playlistId = playlist.record.id
    · subst hthis
      obtain ⟨hrefines, hresponse⟩ := removeTrack_refines h position
      rw [if_pos rfl]
      refine ⟨hrefines, fun response hmem => ?_⟩
      rw [← Option.some.inj hmem]
      exact congrArg Response.changed hresponse
    · rw [if_neg hthis]
      refine ⟨helsewhere (fun tables' value hvalue => ?_) hthis, nofun⟩
      exact (mutateItems_cases removed_ok hvalue).imp_right And.right
  | moveTrack playlistId fromPosition toPosition =>
    dsimp only [AbstractPlaylist.step, step]
    by_cases hthis : playlistId = playlist.record.id
    · subst hthis
      obtain ⟨hrefines, hresponse⟩ := moveTrack_refines h fromPosition toPosition
      rw [if_pos rfl]
      refine ⟨hrefines, fun response hmem => ?_⟩
      rw [← Option.some.inj hmem]
      exact congrArg Response.changed hresponse
    · rw [if_neg hthis]
      refine ⟨helsewhere (fun tables' value hvalue => ?_) hthis, nofun⟩
      exact (mutateItems_cases moved_ok hvalue).imp_right And.right
  | items playlistId =>
    dsimp only [AbstractPlaylist.step, step]
    by_cases hthis : playlistId = playlist.record.id
    · subst hthis
      obtain ⟨hrefines, hresponse⟩ := items_refines h
      rw [if_pos rfl]
      refine ⟨hrefines, fun response hmem => ?_⟩
      rw [← Option.some.inj hmem]
      exact congrArg Response.listed hresponse
    · rw [if_neg hthis]
      refine ⟨helsewhere (fun tables' value hvalue => ?_) hthis, nofun⟩
      exact (items_cases hvalue).imp_right fun hpacked => ⟨_, hpacked.2⟩
  | deleteTracks matching =>
    refine ⟨deleteTracks_refines h matching, fun response hmem => ?_⟩
    exact Option.some.inj hmem
  | insertTrack row =>
    obtain ⟨hrefines, hresponse⟩ := insertTrack_refines h row
    refine ⟨hrefines, fun response hmem => ?_⟩
    rw [← Option.some.inj hmem]
    exact congrArg Response.stored hresponse

theorem finish_unchanged {α : Type} {result : Except StorageError (PlaylistTables × α)}
    {respond : Except StorageError α → Response}
    (h : ∀ tables' value, result = .ok (tables', value) →
      tables' = tables ∨ (respond (.ok value)).accepted = true)
    (hrefused : (respond (finish tables result).2).accepted = false) :
    (finish tables result).1 = tables := by
  cases result with
  | error error => rfl
  | ok written =>
    rcases h written.1 written.2 rfl with hsame | haccepted
    · exact hsame
    · exact absurd haccepted (Bool.eq_false_iff.mp hrefused)

theorem refused_unchanged (tables : PlaylistTables) (operation : Operation)
    (h : (step tables operation).2.accepted = false) : (step tables operation).1 = tables := by
  cases operation with
  | addTrack playlistId trackId position =>
    refine finish_unchanged (fun tables' value hvalue => ?_) h
    refine (addTrack_cases hvalue).imp_right ?_
    rintro ⟨⟨record, rfl⟩, -⟩
    rfl
  | removeTrack playlistId position =>
    refine finish_unchanged (fun tables' value hvalue => ?_) h
    refine (mutateItems_cases removed_ok hvalue).imp_right ?_
    rintro ⟨rfl, -⟩
    rfl
  | moveTrack playlistId fromPosition toPosition =>
    refine finish_unchanged (fun tables' value hvalue => ?_) h
    refine (mutateItems_cases moved_ok hvalue).imp_right ?_
    rintro ⟨rfl, -⟩
    rfl
  | items playlistId =>
    refine finish_unchanged (fun tables' value hvalue => ?_) h
    refine (items_cases hvalue).imp_right ?_
    rintro ⟨hlisted, -⟩
    obtain ⟨list, rfl⟩ := Option.isSome_iff_exists.mp hlisted
    rfl
  | deleteTracks matching => cases h
  | insertTrack row => exact finish_unchanged (fun tables' value hvalue => .inr rfl) h

end Refinement

/-! ## Whole histories -/

section Histories

variable {playlist : AbstractPlaylist} {tables : PlaylistTables}

theorem after_refines (h : Refines playlist tables) (operations : List Operation) :
    Refines (playlist.after operations) (after tables operations) := by
  induction operations generalizing playlist tables with
  | nil => exact h
  | cons operation rest ih => exact ih (step_refines h operation).1

theorem responses_refine (h : Refines playlist tables) (operations : List Operation) :
    List.Forall₂ (fun response expected => ∀ known ∈ expected, response = known)
      (responses tables operations) (playlist.responses operations) := by
  induction operations generalizing playlist tables with
  | nil => exact .nil
  | cons operation rest ih =>
    obtain ⟨hrefines, hresponse⟩ := step_refines h operation
    exact .cons hresponse (ih hrefines)

theorem after_record (operations : List Operation) :
    (playlist.after operations).record = playlist.record := by
  have hstep : ∀ (playlist : AbstractPlaylist) (operation : Operation),
      (playlist.step operation).1.record = playlist.record := by
    intro playlist operation
    cases operation with
    | addTrack playlistId trackId position =>
      dsimp only [AbstractPlaylist.step]
      split
      · unfold AbstractPlaylist.add
        dsimp only [Prod.map]
        split <;> try rfl
        split <;> try rfl
        split <;> rfl
      · rfl
    | removeTrack playlistId position =>
      dsimp only [AbstractPlaylist.step]
      split
      · unfold AbstractPlaylist.remove
        dsimp only [Prod.map]
        split <;> rfl
      · rfl
    | moveTrack playlistId fromPosition toPosition =>
      dsimp only [AbstractPlaylist.step]
      split
      · unfold AbstractPlaylist.move
        dsimp only [Prod.map]
        split <;> rfl
      · rfl
    | items playlistId =>
      dsimp only [AbstractPlaylist.step]
      split <;> rfl
    | deleteTracks matching => rfl
    | insertTrack row =>
      dsimp only [AbstractPlaylist.step]
      unfold AbstractPlaylist.learn
      dsimp only [Prod.map]
      split <;> rfl
  unfold AbstractPlaylist.after
  refine List.foldlRecOn (motive := fun last : AbstractPlaylist => last.record = playlist.record)
    _ _ rfl ?_
  intro last hlast operation _
  exact (hstep last operation).trans hlast

/-! ### Positions that are read back -/

/-- The positions of a list of so many items. -/
def positions (count : ℕ) : List ℤ := (List.range count).map fun (position : ℕ) => (position : ℤ)

theorem zipIdx_positions (rows : List PlaylistItemRow) (first : ℕ) :
    (rows.zipIdx first).all (fun (row, expected) => row.position = expected) = true ↔
      rows.map PlaylistItemRow.position =
        (List.range' first rows.length).map fun (position : ℕ) => (position : ℤ) := by
  induction rows generalizing first with
  | nil => exact ⟨fun _ => rfl, fun _ => rfl⟩
  | cons row rest ih =>
    rw [List.zipIdx_cons, List.all_cons, Bool.and_eq_true, ih, List.length_cons,
      List.range'_succ, List.map_cons, List.map_cons, List.cons.injEq, decide_eq_true_iff]

theorem contiguous_iff {playlistId : ℤ} : tables.contiguous playlistId = true ↔
    (tables.rowsOf playlistId).map PlaylistItemRow.position =
      positions (tables.rowsOf playlistId).length := by
  unfold contiguous positions
  rw [zipIdx_positions, List.range_eq_range']

theorem listedItems_positions (tracks : List IndexedTrack) (ids : List TrackId) :
    (listedItems tracks ids).map PlaylistItemRecord.trackId = ids ∧
      (listedItems tracks ids).map PlaylistItemRecord.position = positions ids.length := by
  unfold listedItems positions
  rw [List.map_map, List.map_map]
  constructor
  · exact List.zipIdx_map_fst 0 ids
  · rw [List.range_eq_range', ← List.zipIdx_map_snd 0 ids, List.map_map]
    rfl

theorem items_positions {tables' : PlaylistTables} {playlistId : ℤ} {listed : ListedItems}
    (h : tables.items playlistId = .ok (tables', some listed)) :
    listed.items.map PlaylistItemRecord.trackId = tables.contents playlistId ∧
      listed.items.map PlaylistItemRecord.position =
        positions (tables.contents playlistId).length ∧
      (tables'.rowsOf playlistId).map PlaylistItemRow.position =
        positions (tables.contents playlistId).length := by
  unfold PlaylistTables.items at h
  split at h
  · cases h
  · next record hrecord =>
    obtain ⟨ids, hids, h⟩ := bind_eq_ok.mp h
    obtain ⟨hfew, rfl⟩ := orderedTrackIds_ok.mp hids
    obtain ⟨packed, hpacked, h⟩ := bind_eq_ok.mp h
    obtain ⟨tracks, -, h⟩ := bind_eq_ok.mp h
    cases h
    obtain ⟨hlisted, hpositions⟩ := listedItems_positions tracks (tables.contents playlistId)
    refine ⟨hlisted, hpositions, ?_⟩
    unfold repackItemsIfNeeded at hpacked
    split at hpacked
    · next hcontiguous =>
      cases hpacked
      have hlength : (tables.contents playlistId).length = (tables.rowsOf playlistId).length :=
        List.length_map _
      rw [hlength]
      exact contiguous_iff.mp hcontiguous
    · have hwritten := Written.of_replaceItems hrecord (fun _ => contents_known) hfew hpacked
      have hlength : (tables.contents playlistId).length = (tables'.rowsOf playlistId).length := by
        rw [← hwritten.contents]
        exact List.length_map _
      rw [hlength]
      exact contiguous_iff.mp hwritten.contiguous

theorem playlist_refines_list {playlistId : ℤ} {record : PlaylistRecord}
    (hrecord : tables.loadPlaylist playlistId = some record)
    (hmanual : record.isAutomatic = false)
    (hsize : (tables.contents playlistId).length ≤ maxPlaylistItems)
    (operations : List Operation) :
    (after tables operations).contents playlistId =
        (AbstractPlaylist.after ⟨record, tables.index, tables.contents playlistId, hmanual, hsize⟩
          operations).ids ∧
      List.Forall₂ (fun response expected => ∀ known ∈ expected, response = known)
        (responses tables operations)
        (AbstractPlaylist.responses
          ⟨record, tables.index, tables.contents playlistId, hmanual, hsize⟩ operations) ∧
      ((after tables operations).contents playlistId).length ≤ maxPlaylistItems ∧
      (∀ packed listed,
        (after tables operations).items playlistId = .ok (packed, some listed) →
        listed.items.map PlaylistItemRecord.trackId = (after tables operations).contents playlistId ∧
          listed.items.map PlaylistItemRecord.position =
            positions ((after tables operations).contents playlistId).length ∧
          (packed.rowsOf playlistId).map PlaylistItemRow.position =
            positions ((after tables operations).contents playlistId).length) ∧
      ∀ operation, (step (after tables operations) operation).2.accepted = false →
        (step (after tables operations) operation).1 = after tables operations := by
  obtain rfl : record.id = playlistId := loadPlaylist_id hrecord
  have hrefines : Refines ⟨record, tables.index, tables.contents record.id, hmanual, hsize⟩ tables :=
    ⟨hrecord, rfl, rfl⟩
  have hafter := (after_refines hrefines operations).contents
  rw [after_record] at hafter
  refine ⟨hafter, responses_refine hrefines operations, ?_, fun packed listed => items_positions,
    fun operation => refused_unchanged _ operation⟩
  rw [hafter]
  exact AbstractPlaylist.bounded _

/-- A playlist of the one track of a library, twice. -/
def evening : PlaylistRecord := ⟨1, "Evening", none, none, "", none, none, 0, 0⟩

def lantern : TrackRow :=
  ⟨⟨7, by decide⟩, "lantern.mp3".toList, ⟨"", "", "", "", "", "", "", none, none, none, "", none⟩,
    0, "", "", 1000, 1, 1⟩

def eveningTables : PlaylistTables where
  playlists := [evening]
  index := { LibraryIndex.empty with tracks := ⟨[lantern], by decide, by decide⟩ }
  playlistItems := [⟨1, 3, ⟨7, by decide⟩⟩, ⟨1, 0, ⟨7, by decide⟩⟩]
  keys_nodup := by decide
  playlists_known := by decide
  tracks_known := by decide

/-- A third occurrence, a removal and a move, past the gap between the rows. -/
theorem playlist_refines_list_evening :
    (after eveningTables [.addTrack 1 ⟨7, by decide⟩ (some 1), .removeTrack 1 0,
      .moveTrack 1 0 1, .deleteTracks fun row => row.id ≠ lantern.id]).contents 1
      = [⟨7, by decide⟩, ⟨7, by decide⟩] := by
  refine (@playlist_refines_list eveningTables 1 evening rfl rfl (by decide) _).1.trans ?_
  rfl

end Histories

end Playlists

end MusicServer
