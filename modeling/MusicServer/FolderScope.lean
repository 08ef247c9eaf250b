/-
# The rows of a folder

The commits of a folder mutation select their rows by a LIKE pattern, which folds the case
of ASCII letters, while the files were selected by name.  The escaping is right for every
name; the folding is not.  A rename whose pattern meets a path of another case is refused,
and a deletion takes that path's row with it.
-/
import MusicServer.IndexCommits

namespace MusicServer

namespace LibraryIndex

/-! ## What the pattern selects -/

/-- The row's path begins, character by character, with the folder and a slash. -/
def StartsIn (folder : LibraryPath) (row : TrackRow) : Prop :=
  folder.encoded ++ ['/'] <+: row.path

instance (folder : LibraryPath) : DecidablePred (StartsIn folder) := fun row =>
  inferInstanceAs (Decidable (folder.encoded ++ ['/'] <+: row.path))

/-- The row's path begins with the folder and a slash in another case only. -/
def CaseVariant (folder : LibraryPath) (row : TrackRow) : Prop :=
  (folder.encoded ++ ['/']).map asciiLower <+: row.path.map asciiLower ∧ ¬ StartsIn folder row

theorem escapeLike_eq_quote (value : List Char) : escapeLike value = LikePattern.quote '\\' value := by
  induction value with
  | nil => rfl
  | cons c rest ih =>
    have hcons : escapeLike (c :: rest) = escapeLike [c] ++ escapeLike rest := by
      unfold escapeLike replaceChar
      simp only [List.flatMap_cons, List.flatMap_append, List.flatMap_nil, List.append_nil]
    have hone : escapeLike [c] = LikePattern.quote '\\' [c] := by
      unfold escapeLike replaceChar LikePattern.quote
      by_cases hbackslash : c = '\\'
      · subst hbackslash
        decide
      · by_cases hpercent : c = '%'
        · subst hpercent
          decide
        · by_cases hunderscore : c = '_'
          · subst hunderscore
            decide
          · simp [hbackslash, hpercent, hunderscore]
    rw [hcons, hone, ih, LikePattern.quote, LikePattern.quote, LikePattern.quote,
      List.flatMap_cons, List.flatMap_cons, List.flatMap_nil, List.append_nil]

theorem inFolder_iff (folder : LibraryPath) (row : TrackRow) :
    inFolder folder row = true ↔
      (folder.encoded ++ ['/']).map asciiLower <+: row.path.map asciiLower := by
  unfold inFolder sqliteLike folderPattern
  rw [escapeLike_eq_quote]
  exact LikePattern.like_quote_iff (by decide)

theorem StartsIn.inFolder {folder : LibraryPath} {row : TrackRow} (h : StartsIn folder row) :
    inFolder folder row = true := by
  rw [inFolder_iff]
  exact h.map asciiLower

theorem inFolder_eq_decide {folder : LibraryPath} {row : TrackRow} :
    inFolder folder row = decide (StartsIn folder row) ↔ ¬ CaseVariant folder row := by
  unfold CaseVariant
  rw [← inFolder_iff]
  by_cases hstarts : StartsIn folder row
  · simp [hstarts, hstarts.inFolder]
  · simp [hstarts]

/-! ## Renaming -/

/-- The row after its folder was renamed: `destination/` and the same suffix. -/
def renamedRow (source destination : LibraryPath) (row : TrackRow) : TrackRow :=
  { row with path := destination.encoded ++ '/' :: row.path.drop (source.encoded.length + 1) }

theorem forM_eq_ok {ε α : Type} {f : α → Except ε Unit} {items : List α} {u : Unit}
    (h : items.forM f = .ok u) : ∀ item ∈ items, f item = .ok () := by
  induction items with
  | nil =>
    intro item hitem
    cases hitem
  | cons item rest ih =>
    change (f item >>= fun _ => rest.forM f) = .ok u at h
    obtain ⟨_, hitem, hrest⟩ := bind_eq_ok.mp h
    rw [List.forall_mem_cons]
    exact ⟨hitem, ih hrest⟩

theorem startsIn_of_validate {source destination : LibraryPath} {row : TrackRow}
    (h : validateMovedPath source destination row = .ok ()) : StartsIn source row := by
  unfold validateMovedPath at h
  dsimp only at h
  split at h
  · next hprefix => exact List.isPrefixOf_iff_prefix.mp hprefix
  · cases h

theorem movedPath_of_startsIn {source destination : LibraryPath} {row : TrackRow}
    (h : StartsIn source row) :
    ({ row with path := movedPath source destination row.path } : TrackRow) =
      renamedRow source destination row := by
  obtain ⟨suffix, hsuffix⟩ := h
  unfold renamedRow movedPath
  rw [← hsuffix, List.append_assoc, List.drop_left, List.singleton_append, List.drop_append]
  simp

theorem commitFolderRename_rows {index : LibraryIndex} {matching : TrackRow → Bool}
    {journalId : String} {source destination : LibraryPath} {context : MutationJournalContext}
    {now : ℤ} {result : LibraryIndex × ℕ × Option ℤ}
    (h : index.commitFolderRename matching journalId source destination context now = .ok result) :
    (∀ row ∈ index.tracks.rows, matching row = true → StartsIn source row) ∧
      result.1.tracks.rows = index.tracks.rows.map fun row =>
        if matching row then renamedRow source destination row else row := by
  unfold commitFolderRename at h
  obtain ⟨-, -, h⟩ := bind_eq_ok.mp h
  obtain ⟨_, hlimit, h⟩ := bind_eq_ok.mp h
  obtain ⟨_, hvalid, h⟩ := bind_eq_ok.mp h
  obtain ⟨updated, hupdated, h⟩ := bind_eq_ok.mp h
  obtain ⟨-, -, h⟩ := bind_eq_ok.mp h
  obtain ⟨tracks, htracks, h⟩ := bind_eq_ok.mp h
  obtain ⟨⟨index', batchId⟩, hfinish, h⟩ := bind_eq_ok.mp h
  cases h
  rw [ensure_eq_ok] at hlimit
  have hall : (index.tracks.rows.filter matching).take (maxReconciliationTracks + 1) =
      index.tracks.rows.filter matching := by
    rw [List.length_take] at hlimit
    apply List.take_of_length_le
    omega
  rw [hall] at hvalid
  have hstarts : ∀ row ∈ index.tracks.rows, matching row = true → StartsIn source row := by
    intro row hrow hmatching
    exact startsIn_of_validate (forM_eq_ok hvalid row (List.mem_filter.mpr ⟨hrow, hmatching⟩))
  refine ⟨hstarts, ?_⟩
  obtain ⟨-, hkept, -, -⟩ := finishLibraryIndexMutation_eq_ok hfinish
  show index'.tracks.rows = _
  rw [hkept]
  show tracks.rows = _
  rw [TrackTable.store_eq_ok htracks, TrackTable.rewritePaths_eq_ok hupdated, List.nil_append]
  apply List.map_congr_left
  intro row hrow
  by_cases hmatching : matching row = true
  · rw [if_pos hmatching, if_pos hmatching, movedPath_of_startsIn (hstarts row hrow hmatching)]
  · rw [if_neg hmatching, if_neg hmatching]

theorem commitFolderRename_congr {index : LibraryIndex} {matching matching' : TrackRow → Bool}
    (h : ∀ row ∈ index.tracks.rows, matching row = matching' row) (journalId : String)
    (source destination : LibraryPath) (context : MutationJournalContext) (now : ℤ) :
    index.commitFolderRename matching journalId source destination context now =
      index.commitFolderRename matching' journalId source destination context now := by
  have hrewrite : ∀ (rewrite : List Char → List Char) (rows done : List TrackRow),
      (∀ row ∈ rows, matching row = matching' row) →
        TrackTable.rewritePaths matching rewrite done rows =
          TrackTable.rewritePaths matching' rewrite done rows := by
    intro rewrite rows
    induction rows with
    | nil =>
      intro done _
      rfl
    | cons row rest ih =>
      intro done hrows
      rw [List.forall_mem_cons] at hrows
      unfold TrackTable.rewritePaths
      rw [hrows.1, ih _ hrows.2, ih _ hrows.2]
  unfold commitFolderRename
  rw [List.filter_congr h, hrewrite _ _ _ h, List.countP_congr (by
    intro row hrow
    rw [h row hrow])]

/-! ## Deleting -/

theorem commitLibraryFolderDelete_rows {index : LibraryIndex} {journalId : String}
    {path : LibraryPath} {now : ℤ} {result : LibraryIndex × ℕ}
    (h : index.commitLibraryFolderDelete journalId path now = .ok result) :
    result.1.tracks.rows = index.tracks.rows.filter fun row => !inFolder path row := by
  unfold commitLibraryFolderDelete at h
  obtain ⟨-, -, h⟩ := bind_eq_ok.mp h
  obtain ⟨⟨index', batchId⟩, hfinish, h⟩ := bind_eq_ok.mp h
  cases h
  obtain ⟨-, hkept, -, -⟩ := finishLibraryIndexMutation_eq_ok hfinish
  show index'.tracks.rows = _
  rw [hkept]
  rfl

/-- **Folder rename and delete touch their folder and the case variants of it.**  A
committed rename moved exactly the rows of its folder; the rename of exactly those rows
goes through if and only if no row is a case variant of the folder, and a committed
deletion removed exactly the rows of its folder if and only if no row is one. -/
theorem folder_commits_exact_iff (index : LibraryIndex) :
    (∀ journalId source destination context now result,
      index.commitLibraryFolderRenameWithCleanup journalId source destination context now =
        .ok result →
      result.1.tracks.rows = index.tracks.rows.map fun row =>
        if StartsIn source row then renamedRow source destination row else row) ∧
    (∀ journalId source destination context now result,
      index.commitFolderRename (fun row => decide (StartsIn source row)) journalId source
        destination context now = .ok result →
      (index.commitLibraryFolderRenameWithCleanup journalId source destination context now =
        .ok result ↔ ∀ row ∈ index.tracks.rows, ¬ CaseVariant source row)) ∧
    (∀ journalId path now result,
      index.commitLibraryFolderDelete journalId path now = .ok result →
      (result.1.tracks.rows = index.tracks.rows.filter (fun row => !decide (StartsIn path row)) ↔
        ∀ row ∈ index.tracks.rows, ¬ CaseVariant path row)) := by
  refine ⟨?_, ?_, ?_⟩
  · intro journalId source destination context now result h
    obtain ⟨hstarts, hrows⟩ := commitFolderRename_rows h
    rw [hrows]
    apply List.map_congr_left
    intro row hrow
    by_cases hin : inFolder source row = true
    · rw [if_pos hin, if_pos (hstarts row hrow hin)]
    · rw [if_neg hin, if_neg fun hs => hin hs.inFolder]
  · intro journalId source destination context now result hexact
    constructor
    · intro h row hrow
      obtain ⟨hstarts, -⟩ := commitFolderRename_rows h
      rintro ⟨hfolded, hnot⟩
      exact hnot (hstarts row hrow ((inFolder_iff source row).mpr hfolded))
    · intro hnone
      rw [← hexact]
      exact commitFolderRename_congr (fun row hrow => inFolder_eq_decide.mpr (hnone row hrow))
        journalId source destination context now
  · intro journalId path now result h
    rw [commitLibraryFolderDelete_rows h]
    constructor
    · intro hrows row hrow
      rintro ⟨hfolded, hnot⟩
      have hkept : row ∈ index.tracks.rows.filter fun row => !inFolder path row := by
        rw [hrows, List.mem_filter]
        exact ⟨hrow, by simp [hnot]⟩
      rw [List.mem_filter, (inFolder_iff path row).mpr hfolded] at hkept
      exact absurd hkept.2 (by decide)
    · intro hnone
      apply List.filter_congr
      intro row hrow
      rw [inFolder_eq_decide.mpr (hnone row hrow)]

/-! ## A library with folders of nearly one name -/

section Example

/-- A row that says nothing but its id and path. -/
def bareRow (id : TrackId) (path : String) : TrackRow :=
  ⟨id, path.toList, ⟨"", "", "", "", "", "", "", none, none, none, "", none⟩, 0, "", "", 0, 0, 0⟩

def bareJournal (id : String) (mutation : LibraryFileMutation) : RecoveryJournalEntry :=
  ⟨id, .library, .applying, .mutation mutation, 0, 0, none⟩

def musicFolder : LibraryPath := ⟨"Music_".toList, by decide⟩

def songsFolder : LibraryPath := ⟨"Songs".toList, by decide⟩

def twinFolder : LibraryPath := ⟨"music_".toList, by decide⟩

/-- Folders that the wildcard of the pattern would confuse, and one of another case. -/
def nearlyOneName : LibraryIndex where
  tracks := ⟨[bareRow ⟨1, Int.one_pos⟩ "Music_/a.mp3", bareRow ⟨2, TrackId.two_pos⟩ "MusicX/b.mp3",
    bareRow ⟨6, by decide⟩ "MUSIC%/c.mp3"], by decide, by decide⟩
  originals := []
  state := ⟨1, .current, none, none, none, 3⟩
  batches := []
  journals := [bareJournal "rename" (.renameFolder musicFolder songsFolder),
    bareJournal "delete" (.deleteFolder musicFolder true),
    bareJournal "twin" (.deleteFolder twinFolder true)]

theorem exists_ok {ε α : Type} {x : Except ε α} (h : x.isOk = true) : ∃ a, x = .ok a := by
  cases x with
  | error e => cases h
  | ok a => exact ⟨a, rfl⟩

/-- The rename and the deletion of `Music_` go through and leave the other folders. -/
theorem folder_commits_exact_iff_nearlyOneName :
    (∃ result,
      nearlyOneName.commitLibraryFolderRenameWithCleanup "rename" musicFolder songsFolder
        .library 0 = .ok result ∧
      result.1.tracks.rows = nearlyOneName.tracks.rows.map fun row =>
        if StartsIn musicFolder row then renamedRow musicFolder songsFolder row else row) ∧
    (∃ result,
      nearlyOneName.commitLibraryFolderDelete "delete" musicFolder 0 = .ok result ∧
      result.1.tracks.rows =
        nearlyOneName.tracks.rows.filter fun row => !decide (StartsIn musicFolder row)) := by
  have hnone : ∀ row ∈ nearlyOneName.tracks.rows, ¬ CaseVariant musicFolder row := by
    intro row hrow
    rw [← inFolder_eq_decide]
    have hall : ∀ row ∈ nearlyOneName.tracks.rows,
        inFolder musicFolder row = decide (StartsIn musicFolder row) := by decide +kernel
    exact hall row hrow
  obtain ⟨hrename, hscope, hdelete⟩ := folder_commits_exact_iff nearlyOneName
  constructor
  · have hgoes : (nearlyOneName.commitFolderRename (fun row => decide (StartsIn musicFolder row))
        "rename" musicFolder songsFolder .library 0).isOk = true := by decide +kernel
    obtain ⟨result, hresult⟩ := exists_ok hgoes
    have hcommitted := (hscope _ _ _ _ _ _ hresult).mpr hnone
    exact ⟨result, hcommitted, hrename _ _ _ _ _ _ hcommitted⟩
  · have hgoes : (nearlyOneName.commitLibraryFolderDelete "delete" musicFolder 0).isOk = true := by
      decide +kernel
    obtain ⟨result, hresult⟩ := exists_ok hgoes
    exact ⟨result, hresult, (hdelete _ _ _ _ hresult).mpr hnone⟩

/-- Deleting the folder `music_` removes the row of `Music_/a.mp3`. -/
theorem folder_delete_not_exact :
    ¬ ∀ (index : LibraryIndex) (journalId : String) (path : LibraryPath) (now : ℤ)
        (result : LibraryIndex × ℕ),
      index.commitLibraryFolderDelete journalId path now = .ok result →
      result.1.tracks.rows = index.tracks.rows.filter fun row => !decide (StartsIn path row) := by
  intro hexact
  have hgoes : (nearlyOneName.commitLibraryFolderDelete "twin" twinFolder 0).isOk = true := by
    decide +kernel
  obtain ⟨result, hresult⟩ := exists_ok hgoes
  have hrows := hexact _ _ _ _ _ hresult
  rw [commitLibraryFolderDelete_rows hresult] at hrows
  exact absurd hrows (by decide +kernel)

end Example

end LibraryIndex

end MusicServer
