/-
# Whose original a track edit changes

The index records for a converted track which original was kept for it.  A move, a deletion
and a tag edit of the track look the original up by folder and stem instead, so they may
find one that was kept for another track.  `edits_leave_others_iff` says when they do not.
-/
import MusicServer.LibraryIndex
import MusicServer.OriginalLookup

namespace MusicServer

open CrashProgram FileTree
open CrashProgram.Program (fail attempt syscall syscallTorn ofExcept)
open LibraryIndex (IndexedTrack)
open RootKind

/-! ## Edits of a track -/

/-- What may be asked for a track of the index. -/
inductive TrackEdit where
  | move (destination : LibraryPath)
  | delete
  | metadata (patch : TrackMetadataPatch)
  deriving DecidableEq

def TrackEdit.mutation (track : IndexedTrack) : TrackEdit → LibraryFileMutation
  | .move destination => .moveTrack track.id track.path destination
  | .delete => .deleteTrack track.id track.path
  | .metadata patch => .updateTrackMetadata track.id track.path patch

/-- The path of the original that the index records for a track. -/
def recordedOriginal (track : IndexedTrack) : Option LibraryPath :=
  track.original.bind fun original => (track.path.withExtension original.extension).toOption

/-- Where an edit may change the original of its track: at the original, where a move takes
it if nothing is there, and at the artifacts of the journal beside it. -/
def OwnPlace (journalId : String) (disk : MediaDisk) (original : LibraryPath)
    (place : MediaPlace) : TrackEdit → Prop
  | .move destination =>
    place.isBeneath (originals.place original) = true ∨
      ∃ target, movedOriginal original destination = .ok target ∧
        disk.lookup (originals.place target) = none ∧
        place.isBeneath (originals.place target) = true
  | .delete => place.isBeneath (originals.place original) = true
  | .metadata _ =>
    place.isBeneath (originals.place original) = true ∨
      ∃ role artifact, metadataSiblingPath original journalId role = .ok artifact ∧
        place.isBeneath (originals.place artifact) = true

/-- A folder on the way to where a move takes the original. -/
def OwnFolder (original : LibraryPath) (place : MediaPlace) : TrackEdit → Prop
  | .move destination =>
    ∃ target, movedOriginal original destination = .ok target ∧
      (originals.place target).isBeneath place = true
  | _ => False

/-- The originals tree is changed only at the recorded original of the track; a move may
create folders for it. -/
def LeavesOthers (journalId : String) (track : IndexedTrack) (edit : TrackEdit)
    (disk disk' : MediaDisk) : Prop :=
  ∀ place : MediaPlace, place.root = originals → disk'.lookup place = disk.lookup place ∨
    ∃ original, recordedOriginal track = some original ∧
      (OwnPlace journalId disk original place edit ∨
        (OwnFolder original place edit ∧ disk.lookup place = none ∧
          disk'.lookup place = some .directory))

abbrev OnlyLibrary (disk disk' : MediaDisk) : Prop :=
  Frame (fun place => place.root = library) disk disk'

section

variable {journalId : String} {track : IndexedTrack} {edit : TrackEdit}
  {disk disk' disk'' : MediaDisk}

theorem leavesOthers_refl : LeavesOthers journalId track edit disk disk :=
  fun _ _ => .inl rfl

theorem OnlyLibrary.originals (h : OnlyLibrary disk disk') {place : MediaPlace}
    (hplace : place.root = originals) : disk'.lookup place = disk.lookup place := by
  refine h place fun (hlibrary : place.root = library) => ?_
  rw [hplace] at hlibrary
  cases hlibrary

theorem LeavesOthers.after (h : LeavesOthers journalId track edit disk disk')
    (hlater : OnlyLibrary disk' disk'') : LeavesOthers journalId track edit disk disk'' := by
  intro place hplace
  rw [hlater.originals hplace]
  exact h place hplace

theorem LeavesOthers.before (hearlier : OnlyLibrary disk disk')
    (h : LeavesOthers journalId track edit disk' disk'') :
    LeavesOthers journalId track edit disk disk'' := by
  intro place hplace
  rcases h place hplace with hsame | ⟨original, hrecorded, hown⟩
  · exact .inl (hsame.trans (hearlier.originals hplace))
  · refine .inr ⟨original, hrecorded, ?_⟩
    rw [hearlier.originals hplace] at hown
    refine hown.imp_left fun hown => ?_
    cases edit with
    | move destination =>
      refine hown.imp_right fun ⟨target, htarget, hvacant, hbeneath⟩ => ?_
      exact ⟨target, htarget, (hearlier.originals rfl).symm.trans hvacant, hbeneath⟩
    | delete => exact hown
    | metadata patch => exact hown

theorem OnlyLibrary.leavesOthers (h : OnlyLibrary disk disk') :
    LeavesOthers journalId track edit disk disk' := leavesOthers_refl.after h

theorem leavesOthers_of_frame {original : LibraryPath}
    (hrecorded : recordedOriginal track = some original)
    (h : Frame (fun place => OwnPlace journalId disk original place edit) disk disk') :
    LeavesOthers journalId track edit disk disk' := by
  intro place hplace
  by_cases hown : OwnPlace journalId disk original place edit
  · exact .inr ⟨original, hrecorded, .inl hown⟩
  · exact .inl (h place hown)

end

/-! ## The lookup depends on the originals tree alone -/

theorem foldersFrom_congr {disk disk' : MediaDisk} {current : MediaPlace}
    (hsame : ∀ place : MediaPlace, place.root = current.root →
      disk'.lookup place = disk.lookup place) {rest : List (List Char)}
    (h : FoldersFrom disk current rest) : FoldersFrom disk' current rest := by
  induction rest generalizing current with
  | nil => trivial
  | cons component rest ih =>
    obtain ⟨hfolder, hrest⟩ := h
    refine ⟨?_, ih hsame hrest⟩
    rw [hsame (current.child component) rfl, hfolder]

theorem FindsOriginal.congr {disk disk' : MediaDisk} {path original : LibraryPath}
    (hsame : ∀ place : MediaPlace, place.root = originals →
      disk'.lookup place = disk.lookup place)
    (h : FindsOriginal disk path original) : FindsOriginal disk' path original := by
  have hplace : ∀ other : LibraryPath,
      disk'.lookup (originals.place other) = disk.lookup (originals.place other) :=
    fun other => hsame _ rfl
  refine ⟨foldersFrom_congr hsame h.reaches, h.mirrors, ?_, ?_, ?_⟩
  · rw [hplace]
    exact h.file
  · intro other hmirrors hthere
    rw [hplace] at hthere
    exact h.only other hmirrors hthere
  · intro name node hslash hvisible hnode
    rw [hsame _ rfl] at hnode
    exact h.named name node hslash hvisible hnode

/-- Every original that the lookup finds for the track is the recorded one. -/
def FindsOnlyRecorded (disk : MediaDisk) (track : IndexedTrack) : Prop :=
  ∀ original, FindsOriginal disk track.path original → recordedOriginal track = some original

theorem FindsOnlyRecorded.later {disk disk' : MediaDisk} {track : IndexedTrack}
    (h : FindsOnlyRecorded disk track) (hlibrary : OnlyLibrary disk disk') :
    FindsOnlyRecorded disk' track := by
  intro original hfinds
  exact h original (hfinds.congr fun place hplace => (hlibrary.originals hplace).symm)

/-! ## Moves onto something else -/

/-- The folders above a path are there, or can be made. -/
def HasRoom (disk : MediaDisk) (root : RootKind) (path : LibraryPath) : Prop :=
  ∀ folder, folder <+: path.components.dropLast →
    disk.lookup ⟨root, folder⟩ = none ∨ disk.lookup ⟨root, folder⟩ = some .directory

/-- Something other than the file of the original, which a rename of it replaces. -/
def Replaces (disk : MediaDisk) (original target : LibraryPath) : Prop :=
  disk.lookup (originals.place target) = some .special ∨
    ∃ record other, disk.lookup (originals.place original) = some (.file record) ∧
      disk.lookup (originals.place target) = some (.file other) ∧ record.inode ≠ other.inode

/-- A move of a track that only changes the case of its name takes the original it finds to
a name that is in use. -/
structure Overwrites (effects : FilesystemLibraryMutations) (replay : Bool) (path : LibraryPath)
    (disk : MediaDisk) (destination original target : LibraryPath) : Prop where
  caseOnly : effects.caseOnly path destination = true
  differs : path ≠ destination
  notDone : ¬ (replay = true ∧ path.fileName = destination.fileName)
  reaches : Reaches disk library path
  file : ∃ record, disk.lookup (library.place path) = some (.file record)
  room : HasRoom disk library destination
  noLink : disk.lookup (library.place destination) ≠ some .symlink
  finds : FindsOriginal disk path original
  moves : movedOriginal original destination = .ok target
  renamed : target ≠ original
  originalsRoom : HasRoom disk originals target
  replaces : Replaces disk original target

/-- The lookups find the recorded original alone, and no move takes it to a name in use. -/
structure KeepsToOwn (effects : FilesystemLibraryMutations) (replay : Bool) (track : IndexedTrack)
    (disk : MediaDisk) : Prop where
  finds : FindsOnlyRecorded disk track
  free : ∀ destination original target,
    ¬ Overwrites effects replay track.path disk destination original target

/-- A replayed tag edit finds the recorded original alone, also by the artifacts of its
journal. -/
def ReplaysRecorded (journalId : String) (disk : MediaDisk) (track : IndexedTrack) : Prop :=
  ∀ original, ((findOriginalForTagEdit track.path journalId true).finish disk).1 =
    .ok (some original) → recordedOriginal track = some original

theorem foldersFrom_prefix {disk : MediaDisk} {current : MediaPlace}
    {rest folder : List (List Char)} (h : FoldersFrom disk current rest) (hfolder : folder <+: rest)
    (hne : folder ≠ []) : disk.lookup (descend current folder) = some .directory := by
  induction rest generalizing current folder with
  | nil => exact absurd (List.prefix_nil.mp hfolder) hne
  | cons component rest ih =>
    obtain ⟨hnode, hrest⟩ := h
    cases folder with
    | nil => exact absurd rfl hne
    | cons first others =>
      obtain ⟨rfl, hothers⟩ := List.cons_prefix_cons.mp hfolder
      rw [← descend_child]
      by_cases hlast : others = []
      · rw [hlast, descend_nil]
        exact hnode
      · exact ih hrest hothers hlast

theorem hasRoom_of_reaches {disk disk' : MediaDisk} {root : RootKind} {path : LibraryPath}
    {along : MediaPlace} (hgrows : Grows along disk disk') (h : Reaches disk' root path) :
    HasRoom disk root path := by
  intro folder hfolder
  by_cases htop : folder = []
  · exact .inr (if_pos htop)
  · have hthere : disk'.lookup ⟨root, folder⟩ = some .directory := foldersFrom_prefix h hfolder htop
    rcases hgrows.node ⟨root, folder⟩ with hsame | ⟨hnone, -⟩
    · rw [hsame] at hthere
      exact .inr hthere
    · exact .inl hnone

theorem HasRoom.congr {disk disk' : MediaDisk} {root : RootKind} {path : LibraryPath}
    (hsame : ∀ place : MediaPlace, place.root = root → disk'.lookup place = disk.lookup place)
    (h : HasRoom disk root path) : HasRoom disk' root path := by
  intro folder hfolder
  rw [hsame ⟨root, folder⟩ rfl]
  exact h folder hfolder

theorem Replaces.congr {disk disk' : MediaDisk} {original target : LibraryPath}
    (hsame : ∀ place : MediaPlace, place.root = originals →
      disk'.lookup place = disk.lookup place)
    (h : Replaces disk original target) : Replaces disk' original target := by
  unfold Replaces
  rw [hsame _ rfl, hsame _ rfl]
  exact h

/-- A rename of the original that is not over something else finds nothing there, or does
nothing. -/
theorem vacant_or_same {disk disk' disk'' : MediaDisk} {along : MediaPlace}
    {original target : LibraryPath} {record : FileRecord} (hgrows : Grows along disk disk')
    (hfile : disk.lookup (originals.place original) = some (.file record))
    (hlink : disk'.lookup (originals.place target) ≠ some .symlink)
    (hfree : ¬ Replaces disk original target)
    (hrename : disk'.rename (originals.place original) (originals.place target) =
      .ok ((), disk'')) :
    disk.lookup (originals.place target) = none ∨ disk'' = disk' := by
  rcases hnode : disk.lookup (originals.place target) with _ | node
  · exact .inl rfl
  · right
    have hthere := hgrows.lookup hnode
    unfold Disk.rename at hrename
    rw [hgrows.lookup hfile, hthere] at hrename
    split at hrename
    · cases hrename
    · split at hrename
      · cases hrename
      · rcases node with other | _ | _ | _
        · dsimp only at hrename
          split at hrename
          · cases hrename
            rfl
          · next hinode => exact absurd (.inr ⟨record, other, hfile, hnode, hinode⟩) hfree
        · cases hrename
        · exact absurd hthere hlink
        · exact absurd (.inl hnode) hfree

/-! ## What the edits change -/

theorem onlyLibrary_of_grows {path : LibraryPath} {disk disk' : MediaDisk}
    (h : Grows (library.folderOf path) disk disk') : OnlyLibrary disk disk' := by
  intro place hplace
  refine h.elsewhere place ?_
  by_contra hbeneath
  rw [Bool.not_eq_false, Place.isBeneath, Bool.and_eq_true] at hbeneath
  exact hplace (of_decide_eq_true hbeneath.1).symm

section

variable {journalId : String} {track : IndexedTrack} {edit : TrackEdit} {disk : MediaDisk}
  {faulty : Bool}

theorem wp_then_library {α β : Type} {program : MutationProgram α}
    {f : α → MutationProgram β}
    (h : program.wp faulty (LeavesOthers journalId track edit disk)
      (fun _ => LeavesOthers journalId track edit disk) disk)
    (hf : ∀ a, (f a).Keeps OnlyLibrary) :
    (program >>= f).wp faulty (LeavesOthers journalId track edit disk)
      (fun _ => LeavesOthers journalId track edit disk) disk := by
  refine Program.wp_bind (Program.wp_mono h fun result disk' hleaves => ?_)
  cases result with
  | error e => exact hleaves
  | ok a =>
    refine Program.wp_weaken (hf a faulty disk') ?_ ?_
    · exact fun _ hlibrary => hleaves.after hlibrary
    · exact fun _ _ hlibrary => hleaves.after hlibrary

theorem wp_deleteOriginal (hfinds : FindsOnlyRecorded disk track) :
    (deleteOriginal track.path).wp faulty (LeavesOthers journalId track .delete disk)
      (fun _ => LeavesOthers journalId track .delete disk) disk := by
  have hhere : LeavesOthers journalId track .delete disk disk := leavesOthers_refl
  refine (reads_findOriginal _).wp_bind hhere (fun _ _ _ => hhere) (fun _ _ => hhere) ?_
  intro found hfound
  cases found with
  | none => exact hhere
  | some original =>
    have hrecorded := hfinds original (findOriginal_iff.mp hfound)
    refine (reads_resolveExistingFile originals original).wp_bind hhere (fun _ _ _ => hhere)
      (fun _ _ => hhere) fun place hplace => ?_
    obtain ⟨-, -, rfl⟩ := resolved_resolveExistingFile_ok hplace
    have htouches : Touches (fun place => OwnPlace journalId disk original place .delete)
        (syscall FilesystemMutationError.safeIo fun disk : MediaDisk =>
          disk.removeFile (originals.place original)) := by
      refine touches_removeFile ?_
      exact Disk.isBeneath_self (originals.place original)
    refine Program.wp_weaken (htouches faulty disk) ?_ ?_
    · exact fun _ h => leavesOthers_of_frame hrecorded h
    · exact fun _ _ h => leavesOthers_of_frame hrecorded h

theorem vacant_of_ensureFree {place : MediaPlace}
    (h : ((ensureFree place false).finish disk).1 = .ok ()) : disk.lookup place = none := by
  rw [ensureFree, if_neg (by simp), Program.finish_bind,
    (reads_mutationArtifactState place).finish_eq disk, mutationArtifactState,
    finish_symlinkMetadata_bind] at h
  rcases hnode : disk.lookup place with _ | (_ | _ | _ | _)
  · rfl
  all_goals
    rw [hnode] at h
    cases h

theorem wp_moveFoundOriginal {original target destination : LibraryPath} {caseOnly : Bool}
    (hrecorded : recordedOriginal track = some original)
    (htarget : movedOriginal original destination = .ok target)
    (hfree : caseOnly = true → HasRoom disk originals target → ¬ Replaces disk original target) :
    (moveFoundOriginal original target caseOnly).wp faulty
      (LeavesOthers journalId track (.move destination) disk)
      (fun _ => LeavesOthers journalId track (.move destination) disk) disk := by
  have hhere : LeavesOthers journalId track (.move destination) disk disk := leavesOthers_refl
  refine (reads_resolveExistingFile originals original).wp_bind hhere (fun _ _ _ => hhere)
    (fun _ _ => hhere) fun source hsource => ?_
  obtain ⟨-, ⟨record, hfile⟩, rfl⟩ := resolved_resolveExistingFile_ok hsource
  have hgrows : ∀ disk', Grows (originals.folderOf target) disk disk' →
      LeavesOthers journalId track (.move destination) disk disk' := by
    intro disk' hfolder place hplace
    have hgrows := hfolder.deeper (beneath_folderOf originals target)
    rcases hgrows.node place with hsame | hnew
    · exact .inl hsame
    · by_cases habove : (originals.place target).isBeneath place = true
      · exact .inr ⟨original, hrecorded, .inr ⟨⟨target, htarget, habove⟩, hnew⟩⟩
      · exact .inl (hgrows.elsewhere place (by simpa using habove))
  refine Program.wp_bind (wp_ensureParent hgrows (fun _ => hgrows) ?_)
  intro disk' _ hgrown hreaches
  have hthere := hgrows disk' hgrown
  refine (reads_resolveForCreation originals target).wp_bind hthere (fun _ _ _ => hthere)
    (fun _ _ => hthere) fun place hplace => ?_
  obtain ⟨-, hlink, rfl⟩ := resolved_resolveForCreation_ok hplace
  refine (reads_ensureFree _ caseOnly).wp_bind hthere (fun _ _ _ => hthere)
    (fun _ _ => hthere) fun _ hensured => ?_
  refine wp_renamePlace hthere (fun _ => hthere) fun disk'' hrename => ?_
  have hvacant : disk.lookup (originals.place target) = none ∨ disk'' = disk' := by
    cases hcase : caseOnly with
    | true =>
      have hroom := hasRoom_of_reaches hgrown hreaches
      exact vacant_or_same hgrown hfile hlink (hfree hcase hroom) hrename
    | false =>
      rw [hcase] at hensured
      have hnone := vacant_of_ensureFree hensured
      rcases hgrown.node (originals.place target) with hsame | ⟨hnone', -⟩
      · exact .inl (hsame.symm.trans hnone)
      · exact .inl hnone'
  rcases hvacant with hvacant | rfl
  · intro place hplace
    by_cases hsource : place.isBeneath (originals.place original) = true
    · exact .inr ⟨original, hrecorded, .inl (.inl hsource)⟩
    · by_cases htargetPlace : place.isBeneath (originals.place target) = true
      · exact .inr ⟨original, hrecorded, .inl (.inr ⟨target, htarget, hvacant, htargetPlace⟩)⟩
      · rw [Disk.lookup_rename hrename (by simpa using hsource) (by simpa using htargetPlace)]
        exact hthere place hplace
  · exact hthere

theorem wp_moveOriginal {destination : LibraryPath} {caseOnly : Bool}
    (hfinds : FindsOnlyRecorded disk track)
    (hfree : ∀ original target, FindsOriginal disk track.path original →
      movedOriginal original destination = .ok target → target ≠ original → caseOnly = true →
        HasRoom disk originals target → ¬ Replaces disk original target) :
    (moveOriginal track.path destination caseOnly).wp faulty
      (LeavesOthers journalId track (.move destination) disk)
      (fun _ => LeavesOthers journalId track (.move destination) disk) disk := by
  have hhere : LeavesOthers journalId track (.move destination) disk disk := leavesOthers_refl
  refine (reads_findOriginal _).wp_bind hhere (fun _ _ _ => hhere) (fun _ _ => hhere) ?_
  intro found hfound
  cases found with
  | none => exact hhere
  | some original =>
    have hfinds' := findOriginal_iff.mp hfound
    have hrecorded := hfinds original hfinds'
    refine (reads_ofExcept _).wp_bind hhere (fun _ _ _ => hhere) (fun _ _ => hhere) ?_
    intro target htarget
    by_cases hsame : target = original
    · rw [if_pos hsame]
      exact hhere
    · rw [if_neg hsame]
      rw [Program.finish_ofExcept] at htarget
      exact wp_moveFoundOriginal hrecorded htarget (hfree original target hfinds' htarget hsame)

end

section

variable {effects : FilesystemLibraryMutations} {journalId : String} {track : IndexedTrack}
  {disk : MediaDisk} {faulty : Bool}

theorem recorded_of_tagEdit {replay : Bool} {original : LibraryPath}
    (hfinds : FindsOnlyRecorded disk track)
    (hreplay : replay = true → ReplaysRecorded journalId disk track)
    (h : ((findOriginalForTagEdit track.path journalId replay).finish disk).1 =
      .ok (some original)) : recordedOriginal track = some original := by
  cases replay with
  | true => exact hreplay rfl original h
  | false =>
    rw [finish_findOriginalForTagEdit] at h
    exact hfinds original (findOriginal_iff.mp h)

theorem wp_updateOriginal {patch : TrackMetadataPatch} {replay : Bool}
    (hfinds : FindsOnlyRecorded disk track)
    (hreplay : replay = true → ReplaysRecorded journalId disk track) :
    (effects.updateOriginal journalId track.path patch replay).wp faulty
      (LeavesOthers journalId track (.metadata patch) disk)
      (fun _ => LeavesOthers journalId track (.metadata patch) disk) disk := by
  have hhere : LeavesOthers journalId track (.metadata patch) disk disk := leavesOthers_refl
  unfold FilesystemLibraryMutations.updateOriginal
  split
  · refine (reads_findOriginalForTagEdit _ _ _).wp_bind hhere (fun _ _ _ => hhere)
      (fun _ _ => hhere) fun found hfound => ?_
    cases found with
    | none => exact hhere
    | some original =>
      have hrecorded := recorded_of_tagEdit hfinds hreplay hfound
      have htouches : Touches
          (fun place => OwnPlace journalId disk original place (.metadata patch))
          (effects.replaceFileTags originals journalId original patch replay) := by
        refine effects.touches_replaceFileTags (fun place hplace => .inl hplace) ?_
        exact fun role artifact hartifact place hplace => .inr ⟨role, artifact, hartifact, hplace⟩
      refine Program.wp_bind (Program.wp_weaken (htouches faulty disk) ?_ ?_)
      · exact fun _ h => leavesOthers_of_frame hrecorded h
      · intro result disk' h
        have hthere := leavesOthers_of_frame hrecorded h
        cases result with
        | error e => exact hthere
        | ok u =>
          refine (reads_originalFacts original).wp_bind hthere (fun _ _ _ => hthere)
            (fun _ _ => hthere) fun facts _ => ?_
          exact hthere
  · exact hhere

theorem replaceFileTags_keeps (path : LibraryPath) (patch : TrackMetadataPatch) (replay : Bool) :
    (effects.replaceFileTags library journalId path patch replay).Keeps OnlyLibrary :=
  effects.touches_replaceFileTags (fun _ hplace => root_of_beneath hplace)
    fun _ _ _ _ hplace => root_of_beneath hplace

theorem renamePlace_keeps (source destination : LibraryPath) :
    (renamePlace .io (library.place source) (library.place destination)).Keeps OnlyLibrary :=
  touches_rename (fun _ hplace => root_of_beneath hplace) fun _ hplace => root_of_beneath hplace

theorem wp_before {α : Type} {edit : TrackEdit} {program : MutationProgram α}
    {disk' : MediaDisk} (hlibrary : OnlyLibrary disk disk')
    (h : program.wp faulty (LeavesOthers journalId track edit disk')
      (fun _ => LeavesOthers journalId track edit disk') disk') :
    program.wp faulty (LeavesOthers journalId track edit disk)
      (fun _ => LeavesOthers journalId track edit disk) disk' :=
  Program.wp_weaken h (fun _ hleaves => hleaves.before hlibrary)
    fun _ _ hleaves => hleaves.before hlibrary

theorem deleteFile_keeps (trackId : TrackId) (path : LibraryPath) :
    (do
      match ← attempt (library.resolveExistingFileForMutation path) with
      | .error e =>
        if rootedPathIsMissing e then pure (.trackDeleted trackId) else fail (.rootedPath e)
      | .ok place =>
        syscall .io fun disk : MediaDisk => disk.removeFile place
        pure (.trackDeleted trackId) :
          MutationProgram LibraryFileMutationOutcome).Keeps OnlyLibrary := by
  refine (resolveExistingFile_checks library path).keeps_attempt_bind
    (Frame.refl _) (fun e => ?_) fun _ place hplace => ?_
  · dsimp only
    split
    · exact touches_pure _
    · exact touches_fail _
  · obtain ⟨-, -, rfl⟩ := resolveExistingFile_ok.mp hplace
    exact Touches.bind (touches_removeFile rfl) fun _ => touches_pure _

theorem wp_applyTrackDelete
    (hfinds : effects.originals = true → FindsOnlyRecorded disk track) :
    (effects.applyTrackDelete track.id track.path).wp faulty
      (LeavesOthers journalId track .delete disk)
      (fun _ => LeavesOthers journalId track .delete disk) disk := by
  refine wp_then_library ?_ fun _ => deleteFile_keeps track.id track.path
  exact wp_mirrored (fun h => wp_deleteOriginal (hfinds h)) fun _ => leavesOthers_refl

theorem OnlyLibrary.same {disk' : MediaDisk} (h : OnlyLibrary disk disk') :
    ∀ place : MediaPlace, place.root = RootKind.originals →
      disk.lookup place = disk'.lookup place :=
  fun _ hplace => (h.originals hplace).symm

theorem wp_applyTrackMoveTo {replay : Bool} {destination : LibraryPath}
    (hstays : effects.originals = true → KeepsToOwn effects replay track disk)
    (hdiffers : track.path ≠ destination)
    (hdone : ¬ (replay = true ∧ effects.caseOnly track.path destination = true ∧
      track.path.fileName = destination.fileName))
    (hreaches : Reaches disk library track.path)
    (hfile : ∃ record, disk.lookup (library.place track.path) = some (.file record))
    (hinspect : ∀ path, ((effects.inspect path >>= fun track' =>
      pure (.trackMoved track.id track')) :
        MutationProgram LibraryFileMutationOutcome).Keeps OnlyLibrary) :
    (effects.applyTrackMoveTo track.id track.path destination (library.place track.path)).wp faulty
      (LeavesOthers journalId track (.move destination) disk)
      (fun _ => LeavesOthers journalId track (.move destination) disk) disk := by
  have hgrown : ∀ disk', Grows (library.folderOf destination) disk disk' →
      OnlyLibrary disk disk' := fun _ => onlyLibrary_of_grows
  refine Program.wp_bind (wp_ensureParent ?_ ?_ ?_)
  · exact fun disk' h => (hgrown disk' h).leavesOthers
  · exact fun e disk' h => (hgrown disk' h).leavesOthers
  · intro disk' _ hgrows hthrough
    have hlibrary := hgrown disk' hgrows
    have hthere : LeavesOthers journalId track (.move destination) disk' disk' :=
      leavesOthers_refl
    refine wp_before hlibrary ?_
    refine (reads_resolveForCreation library destination).wp_bind hthere
      (fun _ _ _ => hthere) (fun _ _ => hthere) fun place hplace => ?_
    obtain ⟨-, hlink, rfl⟩ := resolved_resolveForCreation_ok hplace
    refine (reads_pathExists _).wp_bind hthere (fun _ _ _ => hthere) (fun _ _ => hthere) ?_
    intro taken _
    split
    · exact hthere
    · refine wp_then_library ?_ fun _ => ?_
      · refine wp_mirrored (fun h => ?_) fun _ => hthere
        obtain ⟨hfinds, hfree⟩ := hstays h
        refine wp_moveOriginal (hfinds.later hlibrary) ?_
        intro original target hfound hmoves hrenamed hcase hroom hreplaces
        exact hfree destination original target
          { caseOnly := hcase
            differs := hdiffers
            notDone := fun h => hdone ⟨h.1, hcase, h.2⟩
            reaches := hreaches
            file := hfile
            room := hasRoom_of_reaches hgrows hthrough
            noLink := fun hlinked => hlink (hgrows.lookup hlinked)
            finds := hfound.congr hlibrary.same
            moves := hmoves
            renamed := hrenamed
            originalsRoom := hroom.congr hlibrary.same
            replaces := hreplaces.congr hlibrary.same }
      · exact Touches.bind (renamePlace_keeps _ _) fun _ => hinspect destination

theorem wp_applyTrackMove {replay : Bool} {destination : LibraryPath}
    (hstays : effects.originals = true → KeepsToOwn effects replay track disk) :
    (effects.applyTrackMove track.id track.path destination replay).wp faulty
      (LeavesOthers journalId track (.move destination) disk)
      (fun _ => LeavesOthers journalId track (.move destination) disk) disk := by
  have hhere : LeavesOthers journalId track (.move destination) disk disk := leavesOthers_refl
  have hinspect : ∀ path, ((effects.inspect path >>= fun track' =>
      pure (.trackMoved track.id track')) :
        MutationProgram LibraryFileMutationOutcome).Keeps OnlyLibrary := fun path =>
    Touches.bind (effects.touches_inspect path) fun _ => touches_pure _
  have hread : ((effects.inspect destination >>= fun track' =>
      pure (.trackMoved track.id track')) : MutationProgram LibraryFileMutationOutcome).wp faulty
        (LeavesOthers journalId track (.move destination) disk)
        (fun _ => LeavesOthers journalId track (.move destination) disk) disk := by
    refine Program.wp_weaken (hinspect destination faulty disk) ?_ ?_
    · exact fun _ h => h.leavesOthers
    · exact fun _ _ h => h.leavesOthers
  have hmissing : ∀ e, (if replay = true ∧ rootedPathIsMissing e = true then do
      let _ ← resolved (library.resolveExistingFileForMutation destination)
      let track' ← effects.inspect destination
      pure (.trackMoved track.id track')
    else fail (.rootedPath e) : MutationProgram LibraryFileMutationOutcome).wp faulty
        (LeavesOthers journalId track (.move destination) disk)
        (fun _ => LeavesOthers journalId track (.move destination) disk) disk := by
    intro e
    split
    · exact (reads_resolveExistingFile library destination).wp_bind hhere (fun _ _ _ => hhere)
        (fun _ _ => hhere) fun _ _ => hread
    · exact hhere
  unfold FilesystemLibraryMutations.applyTrackMove
  split
  · exact hread
  · next hdiffers =>
    refine (resolveExistingFile_checks library track.path).wp_attempt_bind hhere
      (fun _ e _ => hmissing e) ?_
    rcases hsource : ((library.resolveExistingFileForMutation track.path).finish disk).1 with
      e | source
    · exact hmissing e
    · obtain ⟨hreaches, hfile, rfl⟩ := resolveExistingFile_ok.mp hsource
      dsimp only
      split
      · exact hread
      · next hdone => exact wp_applyTrackMoveTo hstays hdiffers hdone hreaches hfile hinspect

theorem wp_applyMetadataUpdate {patch : TrackMetadataPatch} {replay : Bool}
    (hfinds : effects.originals = true → FindsOnlyRecorded disk track)
    (hreplay : effects.originals = true → replay = true → ReplaysRecorded journalId disk track) :
    (effects.applyMetadataUpdate journalId track.id track.path patch replay).wp faulty
      (LeavesOthers journalId track (.metadata patch) disk)
      (fun _ => LeavesOthers journalId track (.metadata patch) disk) disk := by
  have hhere : LeavesOthers journalId track (.metadata patch) disk disk := leavesOthers_refl
  unfold FilesystemLibraryMutations.applyMetadataUpdate
  split
  · exact hhere
  · refine wp_then_library ?_ fun original => ?_
    · by_cases horiginals : effects.originals = true
      · exact wp_updateOriginal (hfinds horiginals) (hreplay horiginals)
      · rw [FilesystemLibraryMutations.updateOriginal, if_neg horiginals]
        exact hhere
    · refine Touches.bind (replaceFileTags_keeps _ _ _) fun _ => ?_
      exact Touches.bind (effects.touches_inspect _) fun _ => touches_pure _

/-- Where the lookups find only the recorded original and no move takes it to a name in use,
each edit of the track leaves what else is in the originals tree alone, wherever it stops. -/
theorem wp_apply_edit {replay : Bool} (edit : TrackEdit)
    (hstays : effects.originals = true → KeepsToOwn effects replay track disk)
    (hreplay : effects.originals = true → replay = true → ReplaysRecorded journalId disk track) :
    (effects.apply journalId (edit.mutation track) replay).wp faulty
      (LeavesOthers journalId track edit disk)
      (fun _ => LeavesOthers journalId track edit disk) disk := by
  cases edit with
  | move destination => exact wp_applyTrackMove hstays
  | delete => exact wp_applyTrackDelete fun h => (hstays h).finds
  | metadata patch => exact wp_applyMetadataUpdate (fun h => (hstays h).finds) hreplay

end

/-! ## When every edit leaves the others alone -/

theorem components_withExtension {path target : LibraryPath} {extension : List Char}
    (h : path.withExtension extension = .ok target) :
    target.components = ((path.parent.map LibraryPath.components).getD []) ++
      splitSlash (path.fileStem ++ '.' :: extension) := by
  unfold LibraryPath.withExtension at h
  split at h
  · next hparent =>
    rw [LibraryPath.parse_eq_ok] at h
    rw [LibraryPath.components, h, hparent]
    rfl
  · next parent hparent =>
    rw [LibraryPath.join, LibraryPath.parse_eq_ok] at h
    rw [LibraryPath.components, h, splitSlash_append, hparent]
    rfl

/-- A file in the folder of the track is the recorded original, where it is at or beneath
its place. -/
theorem eq_recorded_of_beneath {track : IndexedTrack} {original other : LibraryPath}
    (hparent : original.parent = track.path.parent)
    (hrecorded : recordedOriginal track = some other)
    (hbeneath : (originals.place original).isBeneath (originals.place other) = true) :
    other = original := by
  obtain ⟨facts, -, hpath⟩ := Option.bind_eq_some_iff.mp hrecorded
  have hother : track.path.withExtension facts.extension = .ok other := by
    rcases hwith : track.path.withExtension facts.extension with e | found
    · rw [hwith] at hpath
      cases hpath
    · rw [hwith] at hpath
      cases hpath
      rfl
  simp only [Place.isBeneath, Bool.and_eq_true, List.isPrefixOf_iff_prefix] at hbeneath
  obtain ⟨-, rest, hprefix⟩ := hbeneath
  have hcomponents : other.components ++ rest = original.components := hprefix
  obtain ⟨first, others, hsplit⟩ := List.exists_cons_of_ne_nil
    (splitSlash_ne_nil (track.path.fileStem ++ '.' :: facts.extension))
  apply LibraryPath.components_injective
  rw [← hcomponents]
  rw [components_withExtension hother, original.components_eq, hparent, List.append_assoc,
    List.append_cancel_left_eq, hsplit, List.cons_append, List.cons.injEq,
    List.append_eq_nil_iff] at hcomponents
  rw [hcomponents.2.2, List.append_nil]

theorem finish_deleteOriginal {disk : MediaDisk} {path original : LibraryPath}
    (h : FindsOriginal disk path original) :
    (deleteOriginal path).finish disk = (.ok (), disk.erase (originals.place original)) := by
  have hfind : (findOriginal path).finish disk = (.ok (some original), disk) := by
    rw [(reads_findOriginal path).finish_eq disk, findOriginal_iff.mpr h]
  obtain ⟨record, hrecord⟩ := h.file
  have hreaches : Reaches disk originals original :=
    (reaches_sibling h.mirrors.parent).mpr h.reaches
  have hresolve : (resolved (originals.resolveExistingFileForMutation original)).finish disk =
      (.ok (originals.place original), disk) := by
    rw [resolved, Program.finish_mapError, finish_resolveExistingFile hreaches hrecord]
    rfl
  have hremove : disk.removeFile (originals.place original) =
      .ok ((), disk.erase (originals.place original)) := by
    rw [Disk.removeFile, hrecord]
  rw [deleteOriginal, Program.finish_bind_ok hfind, Program.finish_bind_ok hresolve,
    Program.finish_syscall_ok hremove]

theorem delete_takes_found {effects : FilesystemLibraryMutations} {journalId : String}
    {track : IndexedTrack} {disk : MediaDisk} {original : LibraryPath} {replay : Bool}
    (horiginals : effects.originals = true) (h : FindsOriginal disk track.path original) :
    ((effects.apply journalId (TrackEdit.delete.mutation track) replay).finish disk).2.lookup
      (originals.place original) = none := by
  have hmirrored : (effects.mirrored (deleteOriginal track.path)).finish disk =
      (.ok (), disk.erase (originals.place original)) := by
    rw [FilesystemLibraryMutations.mirrored, if_pos horiginals]
    exact finish_deleteOriginal h
  have herased : (disk.erase (originals.place original)).lookup (originals.place original) =
      none := by
    rw [Disk.lookup_erase _ (place_path_ne_nil _ _), if_pos rfl]
  rw [TrackEdit.mutation, FilesystemLibraryMutations.apply,
    FilesystemLibraryMutations.applyTrackDelete, Program.finish_bind_ok hmirrored]
  refine (OnlyLibrary.originals ?_ rfl).trans herased
  exact Program.Keeps.finish (deleteFile_keeps track.id track.path) _

theorem finish_ensureDirectoryFrom {current : MediaPlace} {rest : List (List Char)}
    {disk : MediaDisk} (hcurrent : disk.lookup current = some .directory)
    (h : ∀ folder, folder <+: rest → disk.lookup (descend current folder) = none ∨
      disk.lookup (descend current folder) = some .directory) :
    ∃ disk', (ensureDirectoryFrom current rest).finish disk =
      (.ok (descend current rest), disk') := by
  induction rest generalizing current disk with
  | nil => exact ⟨disk, by rw [descend_nil]; rfl⟩
  | cons component rest ih =>
    have hfirst := h [component] ⟨rest, rfl⟩
    rw [← descend_child, descend_nil] at hfirst
    have hparent : (current.child component).parent = current := by
      simp [Place.parent, Place.child]
    have hmade : ∃ disk', (ensureComponent (current.child component)).finish disk =
        (.ok (), disk') := by
      rw [ensureComponent, finish_symlinkMetadata_bind]
      rcases hfirst with hnone | hthere
      · have hcreate : disk.createDir (current.child component) =
            .ok ((), disk.put (current.child component) .directory) := by
          rw [Disk.createDir, hparent, hnone, Disk.isDirectory, hcurrent]
          rfl
        rw [hnone]
        dsimp only
        rw [Program.finish_bind, Program.finish_attempt, Program.finish_syscall_ok hcreate]
        exact ⟨_, rfl⟩
      · rw [hthere]
        exact ⟨disk, rfl⟩
    obtain ⟨disk', hmade⟩ := hmade
    rcases finish_ensureComponent (current.child_path_ne_nil component)
      (beneath_child current component rest) disk with ⟨e, hfailed⟩ | ⟨made, hfinish, hgrows,
        hfolder, -⟩
    · rw [hmade] at hfailed
      cases hfailed
    · rw [ensureDirectoryFrom, Program.finish_bind_ok hfinish, finish_canonicalize_bind,
        finish_symlinkMetadata_bind, hfolder, ← descend_child]
      refine ih hfolder fun folder hprefix => ?_
      rw [descend_child]
      have hbefore := h (component :: folder) (List.cons_prefix_cons.mpr ⟨rfl, hprefix⟩)
      rcases hgrows.node (descend current (component :: folder)) with hsame | ⟨-, hnew⟩
      · rw [hsame]
        exact hbefore
      · exact .inr hnew

theorem finish_ensureParent {root : RootKind} {path : LibraryPath} {disk : MediaDisk}
    (h : HasRoom disk root path) :
    ∃ disk', (ensureParent root path).finish disk = (.ok (), disk') ∧
      Grows (root.folderOf path) disk disk' ∧ Reaches disk' root path := by
  have hmade : ∃ disk', (ensureParent root path).finish disk = (.ok (), disk') := by
    unfold ensureParent
    cases hparent : path.parent with
    | none => exact ⟨disk, rfl⟩
    | some parent =>
      have hcomponents : path.components.dropLast = parent.components := by
        rw [path.components_eq, hparent, List.dropLast_concat]
        rfl
      rw [HasRoom, hcomponents] at h
      have hroom : ∀ folder, folder <+: parent.components →
          disk.lookup (descend root.top folder) = none ∨
            disk.lookup (descend root.top folder) = some .directory := fun folder hfolder => by
        simpa [descend, top] using h folder hfolder
      obtain ⟨disk', hfinish⟩ := finish_ensureDirectoryFrom rfl hroom
      refine ⟨disk', ?_⟩
      dsimp only
      rw [Program.finish_bind, resolved, Program.finish_mapError, ensureDirectory, hfinish]
      rfl
  obtain ⟨disk', hfinish⟩ := hmade
  have hspec := Program.finish_of_wp (@wp_ensureParent path disk root true (fun _ => True)
    (fun result disk' => result = .ok () → Grows (root.folderOf path) disk disk' ∧
      Reaches disk' root path) (fun _ _ => trivial) (fun _ _ _ h => by cases h)
      (fun _ _ hgrows hreaches _ => ⟨hgrows, hreaches⟩))
  rw [hfinish] at hspec
  exact ⟨disk', hfinish, hspec rfl⟩

theorem rename_replaces {disk : MediaDisk} {original target : LibraryPath} {record : FileRecord}
    (hfile : disk.lookup (originals.place original) = some (.file record))
    (hreaches : Reaches disk originals target) (h : Replaces disk original target) :
    disk.rename (originals.place original) (originals.place target) = .ok ((),
      disk.relocate (originals.place original) (originals.place target) (.file record)) := by
  have hparent : (originals.place target).parent = originals.folderOf target := by
    rw [place_eq]
    simp [Place.parent, Place.child]
  have hfolder : disk.isDirectory (originals.place target).parent = true := by
    rw [hparent, Disk.isDirectory, (canonicalizeParent_ok.mpr ⟨hreaches, rfl⟩).2]
    rfl
  unfold Disk.rename
  rw [if_neg (by simp [place]), hfolder, if_neg (by simp), hfile]
  rcases h with hspecial | ⟨kept, other, hkept, hother, hinode⟩
  · rw [hspecial]
  · rw [hfile] at hkept
    cases hkept
    rw [hother]
    exact if_neg hinode

theorem finish_moveFoundOriginal {disk disk' : MediaDisk} {original target : LibraryPath}
    {record : FileRecord} (hreaches : Reaches disk originals original)
    (hfile : disk.lookup (originals.place original) = some (.file record))
    (hparent : (ensureParent originals target).finish disk = (.ok (), disk'))
    (hgrows : Grows (originals.folderOf target) disk disk')
    (hthrough : Reaches disk' originals target) (h : Replaces disk' original target) :
    (moveFoundOriginal original target true).finish disk = (.ok (),
      disk'.relocate (originals.place original) (originals.place target) (.file record)) := by
  have hsource : (resolved (originals.resolveExistingFileForMutation original)).finish disk =
      (.ok (originals.place original), disk) := by
    rw [resolved, Program.finish_mapError, finish_resolveExistingFile hreaches hfile]
    rfl
  have hlink : disk'.lookup (originals.place target) ≠ some .symlink := by
    rcases h with hspecial | ⟨_, other, _, hother, _⟩
    · rw [hspecial]
      simp
    · rw [hother]
      simp
  have hplace : (resolved (originals.resolveForCreation target)).finish disk' =
      (.ok (originals.place target), disk') := by
    rw [resolved, Program.finish_mapError, (resolveForCreation_checks originals target).finish_eq,
      resolveForCreation_ok.mpr ⟨hthrough, hlink, rfl⟩]
    rfl
  have hfree : (ensureFree (originals.place target) true).finish disk' = (.ok (), disk') := rfl
  rw [moveFoundOriginal, Program.finish_bind_ok hsource, Program.finish_bind_ok hparent,
    Program.finish_bind_ok hplace, Program.finish_bind_ok hfree, renamePlace,
    Program.finish_syscall_ok (rename_replaces (hgrows.lookup hfile) hthrough h)]

theorem move_takes_place {effects : FilesystemLibraryMutations} {journalId : String}
    {track : IndexedTrack} {disk : MediaDisk} {destination original target : LibraryPath}
    {record : FileRecord} {replay : Bool} (horiginals : effects.originals = true)
    (h : Overwrites effects replay track.path disk destination original target)
    (hrecord : disk.lookup (originals.place original) = some (.file record)) :
    ((effects.apply journalId ((TrackEdit.move destination).mutation track) replay).finish
      disk).2.lookup (originals.place target) = some (.file record) := by
  obtain ⟨before, hbefore, hgrows, hthrough⟩ := finish_ensureParent h.room
  have hlibrary : OnlyLibrary disk before := onlyLibrary_of_grows hgrows
  have hsame : ∀ place : MediaPlace, place.root = originals →
      before.lookup place = disk.lookup place := fun _ => hlibrary.originals
  have hfinds := h.finds.congr hsame
  obtain ⟨after, hafter, hgrown, hreaches⟩ := finish_ensureParent (h.originalsRoom.congr hsame)
  have hfile : before.lookup (originals.place original) = some (.file record) :=
    (hsame _ rfl).trans hrecord
  have hreplaces : Replaces after original target := by
    rcases h.replaces.congr hsame with hspecial | ⟨kept, other, hkept, hother, hinode⟩
    · exact .inl (hgrown.lookup hspecial)
    · exact .inr ⟨kept, other, hgrown.lookup hkept, hgrown.lookup hother, hinode⟩
  have hfind : (findOriginal track.path).finish before = (.ok (some original), before) := by
    rw [(reads_findOriginal track.path).finish_eq before, findOriginal_iff.mpr hfinds]
  have hmoved : (effects.mirrored (moveOriginal track.path destination
      (effects.caseOnly track.path destination))).finish before = (.ok (),
        after.relocate (originals.place original) (originals.place target) (.file record)) := by
    have htarget : (ofExcept (movedOriginal original destination) :
        MutationProgram LibraryPath).finish before = (.ok target, before) := by
      rw [h.moves]
      rfl
    rw [FilesystemLibraryMutations.mirrored, if_pos horiginals, h.caseOnly, moveOriginal,
      Program.finish_bind_ok hfind]
    dsimp only
    rw [Program.finish_bind_ok htarget, if_neg h.renamed]
    exact finish_moveFoundOriginal ((reaches_sibling hfinds.mirrors.parent).mpr hfinds.reaches)
      hfile hafter hgrown hreaches hreplaces
  have hplace : (resolved (library.resolveForCreation destination)).finish before =
      (.ok (library.place destination), before) := by
    have hlink : before.lookup (library.place destination) ≠ some .symlink := by
      rcases hgrows.node (library.place destination) with hsame | ⟨-, hnew⟩
      · rw [hsame]
        exact h.noLink
      · rw [hnew]
        simp
    rw [resolved, Program.finish_mapError,
      (resolveForCreation_checks library destination).finish_eq,
      resolveForCreation_ok.mpr ⟨hthrough, hlink, rfl⟩]
    rfl
  have htaken : ∃ taken, (pathExists (library.place destination)).finish before =
      (.ok taken, before) := ⟨_, rfl⟩
  obtain ⟨taken, htaken⟩ := htaken
  obtain ⟨trackRecord, htrack⟩ := h.file
  have hsource : (attempt (library.resolveExistingFileForMutation track.path) :
      MutationProgram _).finish disk = (.ok (.ok (library.place track.path)), disk) := by
    rw [Program.finish_attempt, finish_resolveExistingFile h.reaches htrack]
  rw [TrackEdit.mutation, FilesystemLibraryMutations.apply,
    FilesystemLibraryMutations.applyTrackMove, if_neg h.differs, Program.finish_bind_ok hsource]
  dsimp only
  rw [if_neg fun hdone => h.notDone ⟨hdone.1, hdone.2.2⟩,
    FilesystemLibraryMutations.applyTrackMoveTo, Program.finish_bind_ok hbefore,
    Program.finish_bind_ok hplace, Program.finish_bind_ok htaken,
    if_neg fun hrefused => by simp [h.caseOnly] at hrefused, Program.finish_bind_ok hmoved]
  have hput : (after.relocate (originals.place original) (originals.place target)
      (.file record)).lookup (originals.place target) = some (.file record) := by
    rw [Disk.relocate, Disk.lookup_put _ (place_path_ne_nil _ _), if_pos rfl]
  refine (OnlyLibrary.originals ?_ rfl).trans hput
  refine Program.Keeps.finish (Touches.bind (renamePlace_keeps _ _) fun _ => ?_) _
  exact Touches.bind (effects.touches_inspect _) fun _ => touches_pure _

theorem HasRoom.not_above {disk : MediaDisk} {original target : LibraryPath}
    {record : FileRecord} (h : HasRoom disk originals target)
    (hfile : disk.lookup (originals.place original) = some (.file record))
    (hdiffers : target ≠ original) :
    (originals.place target).isBeneath (originals.place original) = false := by
  by_contra hbeneath
  simp only [Bool.not_eq_false, Place.isBeneath, Bool.and_eq_true, List.isPrefixOf_iff_prefix]
    at hbeneath
  have habove : original.components <+: target.components.dropLast := by
    have hprefix : original.components <+:
        (target.parent.map LibraryPath.components).getD [] ++ [target.fileName] := by
      rw [← target.components_eq]
      exact hbeneath.2
    rcases List.prefix_concat_iff.mp hprefix with hsame | hprefix
    · refine absurd (LibraryPath.components_injective ?_) hdiffers
      rw [target.components_eq]
      exact hsame.symm
    · rw [target.components_eq, List.dropLast_concat]
      exact hprefix
  rcases h original.components habove with hnone | hfolder
  · rw [place] at hfile
    rw [hnone] at hfile
    cases hfile
  · rw [place] at hfile
    rw [hfolder] at hfile
    cases hfile

theorem keepsToOwn_of_leaves {effects : FilesystemLibraryMutations} {journalId : String}
    {track : IndexedTrack} {disk : MediaDisk} {replay : Bool}
    (hleaves : ∀ edit draws, LeavesOthers journalId track edit disk
      ((effects.apply journalId (edit.mutation track) replay).run draws disk).2)
    (horiginals : effects.originals = true) : KeepsToOwn effects replay track disk := by
  have hfinds : FindsOnlyRecorded disk track := by
    intro original hfinds
    have hdelete := hleaves .delete []
    rw [Program.run_nil] at hdelete
    rcases hdelete (originals.place original) rfl with hsame | ⟨other, hother, howned⟩
    · obtain ⟨record, hrecord⟩ := hfinds.file
      rw [delete_takes_found horiginals hfinds, hrecord] at hsame
      cases hsame
    · rcases howned with hplace | ⟨hfolder, -⟩
      · rw [hother, eq_recorded_of_beneath hfinds.mirrors.parent hother hplace]
      · exact hfolder.elim
  refine ⟨hfinds, fun destination original target h => ?_⟩
  obtain ⟨record, hrecord⟩ := h.finds.file
  have hmove := hleaves (.move destination) []
  rw [Program.run_nil] at hmove
  have htaken : disk.lookup (originals.place target) ≠ none := by
    rcases h.replaces with hspecial | ⟨_, other, _, hother, _⟩
    · rw [hspecial]
      simp
    · rw [hother]
      simp
  rcases hmove (originals.place target) rfl with hsame | ⟨other, hother, howned⟩
  · rw [move_takes_place horiginals h hrecord] at hsame
    rcases h.replaces with hspecial | ⟨kept, other, hkept, hother, hinode⟩
    · rw [hspecial] at hsame
      cases hsame
    · rw [hother, Option.some.injEq, Node.file.injEq] at hsame
      rw [hrecord, Option.some.injEq, Node.file.injEq] at hkept
      rw [← hkept, hsame] at hinode
      exact hinode rfl
  · have hown : other = original := by
      have hrecorded := hfinds original h.finds
      rw [hother] at hrecorded
      exact Option.some.inj hrecorded
    rw [hown] at howned
    rcases howned with (hbeneath | ⟨place, hplace, hvacant, -⟩) | ⟨-, hvacant, -⟩
    · rw [h.originalsRoom.not_above hrecord h.renamed] at hbeneath
      cases hbeneath
    · rw [h.moves] at hplace
      cases hplace
      exact htaken hvacant
    · exact htaken hvacant

theorem leaves_of_keepsToOwn {effects : FilesystemLibraryMutations} {journalId : String}
    {track : IndexedTrack} {disk : MediaDisk} {replay : Bool}
    (hstays : effects.originals = true → KeepsToOwn effects replay track disk)
    (hreplay : effects.originals = true → replay = true → ReplaysRecorded journalId disk track)
    (edit : TrackEdit) (draws : List CrashProgram.Draw) :
    LeavesOthers journalId track edit disk
      ((effects.apply journalId (edit.mutation track) replay).run draws disk).2 := by
  have hstops := @Program.run_of_wp _ _ _ _ _ true _ _
    (@wp_apply_edit _ journalId _ _ _ _ edit hstays hreplay) draws (fun h => by cases h)
  rcases hrun : (effects.apply journalId (edit.mutation track) replay).run draws disk with
    ⟨outcome, disk'⟩
  rw [hrun] at hstops
  cases outcome with
  | finished result => exact hstops
  | crashed => exact hstops

/-- **Each edit of a track leaves what was kept for others alone** exactly when the lookup by
folder and stem finds nothing but the original that the index records for the track, and no
move takes that to a name in use.  For an edit that is replayed this is needed, and it is
enough where a tag edit finds by the artifacts of its journal only the recorded original. -/
theorem edits_leave_others_iff (effects : FilesystemLibraryMutations) (journalId : String)
    (track : IndexedTrack) (disk : MediaDisk) :
    ((∀ edit draws, LeavesOthers journalId track edit disk
        ((effects.apply journalId (edit.mutation track) false).run draws disk).2) ↔
      (effects.originals = true → KeepsToOwn effects false track disk)) ∧
    ((∀ edit draws, LeavesOthers journalId track edit disk
        ((effects.apply journalId (edit.mutation track) true).run draws disk).2) →
      effects.originals = true → KeepsToOwn effects true track disk) ∧
    ((effects.originals = true → KeepsToOwn effects true track disk ∧
        ReplaysRecorded journalId disk track) →
      ∀ edit draws, LeavesOthers journalId track edit disk
        ((effects.apply journalId (edit.mutation track) true).run draws disk).2) := by
  refine ⟨⟨keepsToOwn_of_leaves, fun hstays => ?_⟩, keepsToOwn_of_leaves, fun hstays => ?_⟩
  · exact leaves_of_keepsToOwn hstays fun _ hreplay => by cases hreplay
  · exact leaves_of_keepsToOwn (fun h => (hstays h).1) fun h _ => (hstays h).2

/-! ## Two tracks with one stem -/

section Example

def plainTrack : IndexedTrack where
  id := ⟨1, Int.one_pos⟩
  path := ⟨"x.mp3".toList, by decide +kernel⟩
  metadata := ⟨"x", "", "", "", "", "", "", none, none, none, "", none⟩
  duration := 0
  displayTitle := ""
  origin := ""
  sizeBytes := 1
  mtimeUnixSeconds := 0
  addedAtUnixSeconds := 0
  original := none

def convertedTrack : IndexedTrack :=
  { plainTrack with
    id := ⟨2, TrackId.two_pos⟩
    path := ⟨"x.m4a".toList, by decide +kernel⟩
    original := some ⟨"flac".toList, 1, 0⟩ }

def keptFlac : LibraryPath := ⟨"x.flac".toList, by decide +kernel⟩

/-- The original beside the two tracks was kept when the second was converted. -/
def sharedStem : MediaDisk :=
  (((Disk.empty fun _ => 0).put (library.place plainTrack.path) (.file ⟨0, [1], 0⟩)).put
    (library.place convertedTrack.path) (.file ⟨1, [2], 0⟩)).put
      (originals.place keptFlac) (.file ⟨2, [3], 0⟩)

def keepingOriginals : FilesystemLibraryMutations where
  originals := true
  metadata := ⟨false, fun _ _ => .error .unsupportedFormat, fun _ _ _ => .error .unsupportedFormat⟩
  toLowercase := fun text => text.map Char.toLower

/-- Deleting the track without an original deletes the original of the other. -/
theorem delete_takes_anothers_original :
    recordedOriginal plainTrack = none ∧ recordedOriginal convertedTrack = some keptFlac ∧
      ¬ LeavesOthers "delete" plainTrack .delete sharedStem
        ((keepingOriginals.apply "delete" (TrackEdit.delete.mutation plainTrack) false).run []
          sharedStem).2 := by
  refine ⟨rfl, by decide +kernel, fun hleaves => ?_⟩
  rcases hleaves (originals.place keptFlac) rfl with hsame | ⟨original, hrecorded, -⟩
  · have hdiffer : ((keepingOriginals.apply "delete" (TrackEdit.delete.mutation plainTrack)
        false).run [] sharedStem).2.lookup (originals.place keptFlac) ≠
          sharedStem.lookup (originals.place keptFlac) := by decide +kernel
    exact hdiffer hsame
  · cases hrecorded

end Example

end MusicServer
