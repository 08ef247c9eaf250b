/-
# Which original a lookup finds

A kept original is looked up by the folder and the stem of the track.  `findOriginal_iff`
says what that finds: the only visible file with a supported extension that shares them,
whatever track it was kept for.
-/
import MusicServer.MutationEffects

namespace MusicServer

open CrashProgram FileTree
open CrashProgram.Program (fail attempt syscall syscallTorn ofExcept)
open RootKind

/-! ## Lookups only read -/

variable {path : LibraryPath}

theorem reads_resolveDirectory_missing {α : Type} (missing : α) (found : MediaPlace → α) :
    Reads (do
      match ← attempt (originals.resolveExistingDirectory path) with
      | .ok place => pure (found place)
      | .error e => if rootedPathIsMissing e then pure missing else fail (.rootedPath e) :
        MutationProgram α) := by
  refine (resolveExistingDirectory_checks originals path).attempt_bind (fun e he => ?_)
    fun result => ?_
  · rw [he]
    exact ⟨_, rfl, trivial⟩
  · cases result with
    | ok place => trivial
    | error e =>
      dsimp only
      split <;> trivial

theorem reads_originalsFolder (path : LibraryPath) : Reads (originalsFolder path) := by
  unfold originalsFolder
  split
  · trivial
  · exact reads_resolveDirectory_missing none some

theorem reads_findOriginal (path : LibraryPath) : Reads (findOriginal path) := by
  refine (reads_originalsFolder path).bind fun folder => ?_
  cases folder with
  | none => trivial
  | some folder => exact (reads_readDir folder).bind fun _ => trivial

theorem reads_findOriginalForTagEdit (path : LibraryPath) (journalId : String) (replay : Bool) :
    Reads (findOriginalForTagEdit path journalId replay) := by
  refine (reads_findOriginal path).bind fun found => ?_
  cases found with
  | some original => trivial
  | none =>
    dsimp only
    split
    · trivial
    · refine (reads_originalsFolder path).bind fun folder => ?_
      cases folder with
      | none => trivial
      | some folder => exact (reads_readDir folder).bind fun _ => trivial

theorem finish_findOriginalForTagEdit {journalId : String} (disk : MediaDisk) :
    (findOriginalForTagEdit path journalId false).finish disk =
      (findOriginal path).finish disk := by
  rw [findOriginalForTagEdit, Program.finish_bind]
  rcases (findOriginal path).finish disk with ⟨_ | (_ | original), disk'⟩
  · rfl
  · rfl
  · rfl

theorem reads_originalFacts (path : LibraryPath) : Reads (originalFacts path) := by
  refine (reads_resolveExistingFile originals path).bind fun place => ?_
  refine (reads_fileFacts _ place).bind fun record => ?_
  cases path.extension <;> trivial

theorem reads_pathExists (place : MediaPlace) : Reads (pathExists place) :=
  (reads_symlinkMetadata _ place).bind fun _ => trivial

theorem reads_ensureFree (place : MediaPlace) (caseOnly : Bool) :
    Reads (ensureFree place caseOnly) := by
  unfold ensureFree
  split
  · trivial
  · refine (reads_mutationArtifactState place).bind fun state => ?_
    cases state <;> trivial

/-! ## Parent folders -/

theorem isBeneath_trans {place between folder : MediaPlace} (h : place.isBeneath between = true)
    (h' : between.isBeneath folder = true) : place.isBeneath folder = true := by
  simp only [Place.isBeneath, Bool.and_eq_true, decide_eq_true_eq, List.isPrefixOf_iff_prefix] at *
  exact ⟨h.1.trans h'.1, h'.2.trans h.2⟩

theorem beneath_folderOf (root : RootKind) (path : LibraryPath) :
    (root.place path).isBeneath (root.folderOf path) = true := by
  rw [place_eq]
  simp [Place.isBeneath, Place.child]

variable {disk : MediaDisk}

theorem RootKind.Grows.deeper {along deeper : MediaPlace} {disk' : MediaDisk}
    (h : Grows along disk disk') (hdeeper : deeper.isBeneath along = true) :
    Grows deeper disk disk' := by
  refine ⟨h.node, fun place hplace => h.elsewhere place ?_, h.device⟩
  by_contra hbeneath
  rw [Bool.not_eq_false] at hbeneath
  rw [isBeneath_trans hdeeper hbeneath] at hplace
  cases hplace

theorem folderOf_eq {parent : LibraryPath} (h : path.parent = some parent) (root : RootKind) :
    root.folderOf path = root.place parent := by
  rw [folderOf, path.components_eq, h, List.dropLast_concat]
  rfl

theorem wp_ensureParent {root : RootKind} {faulty : Bool} {C : MediaDisk → Prop}
    {Q : Except FilesystemMutationError Unit → MediaDisk → Prop}
    (hcrash : ∀ disk', Grows (root.folderOf path) disk disk' → C disk')
    (herror : ∀ e disk', Grows (root.folderOf path) disk disk' → Q (.error (.rootedPath e)) disk')
    (hok : ∀ disk', (ensureParent root path).finish disk = (.ok (), disk') →
      Grows (root.folderOf path) disk disk' → Reaches disk' root path → Q (.ok ()) disk') :
    (ensureParent root path).wp faulty C Q disk := by
  unfold ensureParent at hok ⊢
  rcases hparent : path.parent with _ | parent
  · rw [hparent] at hok
    exact hok disk rfl (Grows.refl _ disk) (reaches_of_no_parent hparent)
  · rw [folderOf_eq hparent] at hcrash herror hok
    rw [hparent] at hok
    refine Program.wp_bind (Program.wp_mapError (wp_ensureDirectory hcrash herror ?_))
    intro disk' hdone hgrows hfolders
    refine hok disk' ?_ hgrows ((reaches_iff_parent hparent).mpr hfolders)
    rw [Program.finish_bind, resolved, Program.finish_mapError, hdone]
    rfl

theorem wp_mirrored {effects : FilesystemLibraryMutations} {program : MutationProgram Unit}
    {faulty : Bool} {C : MediaDisk → Prop}
    {Q : Except FilesystemMutationError Unit → MediaDisk → Prop}
    (hthere : effects.originals = true → program.wp faulty C Q disk)
    (hnone : effects.originals = false → Q (.ok ()) disk) :
    (effects.mirrored program).wp faulty C Q disk := by
  unfold FilesystemLibraryMutations.mirrored
  split
  · next h => exact hthere h
  · next h => exact hnone (by simpa using h)

/-! ## What the lookup of an original finds -/

/-- A path that the lookup takes for the original of a track. -/
structure Mirrors (path other : LibraryPath) : Prop where
  parent : other.parent = path.parent
  stem : other.fileStem = path.fileStem
  supported : isSupportedLibraryPath other = true
  visible : other.fileName.head? ≠ some '.'

/-- The one regular file of the originals tree in the folder of the track, with its stem. -/
structure FindsOriginal (disk : MediaDisk) (path original : LibraryPath) : Prop where
  reaches : Reaches disk originals path
  mirrors : Mirrors path original
  file : ∃ record, disk.lookup (originals.place original) = some (.file record)
  only : ∀ other, Mirrors path other → disk.lookup (originals.place other) ≠ none →
    other = original
  named : ∀ name node, '/' ∉ name → name.head? ≠ some '.' →
    disk.lookup ((originals.folderOf path).child name) = some node →
      ∃ other : LibraryPath, other.parent = path.parent ∧ other.fileName = name

/-- The entry, where it is visible and one of an original of the track. -/
def candidateOf (path : LibraryPath) (entry : List Char × Node) : Option (LibraryPath × Node) :=
  if entry.1.head? = some '.' then none
  else
    match sibling path entry.1 with
    | .error _ => none
    | .ok candidate =>
      if candidate.fileStem ≠ path.fileStem ∨ isSupportedLibraryPath candidate = false then none
      else some (candidate, entry.2)

def isFile : Node → Bool
  | .file _ => true
  | _ => false

/-- The selection is the one candidate, where all names are of the library and the
candidates are files. -/
theorem selectOriginal_eq_ok {entries : List (List Char × Node)} {found result : Option LibraryPath} :
    selectOriginal path entries found = .ok result ↔
      (∀ entry ∈ entries, entry.1.head? ≠ some '.' → ∃ c, sibling path entry.1 = .ok c) ∧
        (∀ candidate ∈ entries.filterMap (candidateOf path), isFile candidate.2 = true) ∧
          found.toList ++ (entries.filterMap (candidateOf path)).map Prod.fst = result.toList := by
  induction entries generalizing found with
  | nil =>
    rw [selectOriginal]
    cases found <;> cases result <;> simp
  | cons entry rest ih =>
    obtain ⟨name, node⟩ := entry
    rw [selectOriginal, List.forall_mem_cons, List.filterMap_cons]
    by_cases hhidden : name.head? = some '.'
    · have hnone : candidateOf path (name, node) = none := by rw [candidateOf, if_pos hhidden]
      rw [if_pos hhidden, hnone, ih]
      simp [hhidden]
    · rw [if_neg hhidden]
      rcases hsibling : sibling path name with e | candidate
      · simp [hhidden]
      · dsimp only
        by_cases hstem : candidate.fileStem ≠ path.fileStem ∨
            isSupportedLibraryPath candidate = false
        · have hnone : candidateOf path (name, node) = none := by
            rw [candidateOf, if_neg hhidden, hsibling]
            exact if_pos hstem
          rw [if_pos hstem, hnone, ih]
          simp
        · have hsome : candidateOf path (name, node) = some (candidate, node) := by
            rw [candidateOf, if_neg hhidden, hsibling]
            exact if_neg hstem
          rw [if_neg hstem, hsome]
          dsimp only
          rw [List.forall_mem_cons, List.map_cons]
          have hnamed : ∀ p : Prop, ((name.head? ≠ some '.' → ∃ c, Except.ok (ε :=
              FilesystemMutationError) candidate = .ok c) ∧ p) ↔ p := by
            intro p
            exact and_iff_right fun _ => ⟨candidate, rfl⟩
          rw [and_assoc, hnamed]
          have hlong : ∀ (a b : LibraryPath) (tail : List LibraryPath),
              a :: b :: tail ≠ result.toList := by
            intro a b tail h
            cases result <;> simp at h
          rcases node with record | _ | _ | _
          · cases found with
            | none =>
              dsimp only
              rw [ih]
              simp [isFile]
            | some other =>
              simp [hlong, isFile]
          · cases found <;> simp [isFile]
          · cases found <;> simp [isFile]
          · cases found <;> simp [isFile]

theorem mem_candidates {candidate : LibraryPath} {node : Node} :
    (candidate, node) ∈ (entriesOf disk (originals.folderOf path)).filterMap (candidateOf path) ↔
      Mirrors path candidate ∧ disk.lookup (originals.place candidate) = some node := by
  rw [List.mem_filterMap]
  constructor
  · rintro ⟨⟨name, found⟩, hentry, hcandidate⟩
    obtain ⟨hslash, hnode⟩ := mem_entriesOf.mp hentry
    unfold candidateOf at hcandidate
    split at hcandidate
    · cases hcandidate
    · next hvisible =>
      split at hcandidate
      · cases hcandidate
      · next other hsibling =>
        split at hcandidate
        · cases hcandidate
        · next hstem =>
          cases hcandidate
          obtain ⟨hparent, rfl⟩ := (sibling_eq_ok hslash).mp hsibling
          simp only [not_or, not_not, Bool.not_eq_false] at hstem
          refine ⟨⟨hparent, hstem.1, hstem.2, hvisible⟩, ?_⟩
          rw [place_sibling hparent]
          exact hnode
  · rintro ⟨hmirrors, hnode⟩
    have hslash := candidate.slash_not_mem_fileName
    refine ⟨(candidate.fileName, node), ?_, ?_⟩
    · rw [mem_entriesOf, ← place_sibling hmirrors.parent]
      exact ⟨hslash, hnode⟩
    · rw [candidateOf, if_neg hmirrors.visible,
        (sibling_eq_ok hslash).mpr ⟨hmirrors.parent, rfl⟩]
      refine if_neg ?_
      rw [hmirrors.stem, hmirrors.supported]
      simp

theorem names_nodup (disk : MediaDisk) (place : MediaPlace) : (disk.names place).Nodup := by
  unfold Disk.names
  refine List.Nodup.filterMap ?_ (List.Pairwise.imp ?_ Std.ExtTreeMap.distinct_keys)
  · intro left right name hleft hright
    split at hleft
    · next hfront =>
      split at hright
      · next hfront' =>
        obtain ⟨front, rfl⟩ := List.getLast?_eq_some_iff.mp hleft
        obtain ⟨front', rfl⟩ := List.getLast?_eq_some_iff.mp hright
        rw [List.dropLast_concat] at hfront hfront'
        rw [hfront, hfront']
      · cases hright
    · cases hleft
  · intro left right hdiffer hsame
    exact hdiffer (Std.compare_eq_iff_eq.mpr hsame)

theorem candidateOf_eq_some {candidate : LibraryPath} {name : List Char} {node node' : Node}
    (hslash : '/' ∉ name) (h : candidateOf path (name, node) = some (candidate, node')) :
    candidate.fileName = name := by
  unfold candidateOf at h
  split at h
  · cases h
  · split at h
    · cases h
    · next other hsibling =>
      split at h
      · cases h
      · cases h
        exact ((sibling_eq_ok hslash).mp hsibling).2

theorem candidates_nodup (disk : MediaDisk) (path : LibraryPath) :
    (((entriesOf disk (originals.folderOf path)).filterMap (candidateOf path)).map
      Prod.fst).Nodup := by
  rw [List.map_filterMap]
  unfold entriesOf
  rw [List.filterMap_filterMap]
  refine List.Nodup.filterMap (fun left right candidate hleft hright => ?_) (names_nodup disk _)
  have hname : ∀ name : List Char, candidate ∈ ((if '/' ∈ name then none
      else (disk.lookup ((originals.folderOf path).child name)).map fun node =>
        (name, node)).bind fun entry => (candidateOf path entry).map Prod.fst) →
      candidate.fileName = name := by
    intro name hmem
    rw [Option.mem_def, Option.bind_eq_some_iff] at hmem
    obtain ⟨entry, hentry, hcandidate⟩ := hmem
    split at hentry
    · cases hentry
    · next hslash =>
      rw [Option.map_eq_some_iff] at hentry hcandidate
      obtain ⟨node, -, rfl⟩ := hentry
      obtain ⟨⟨found, node'⟩, hfound, rfl⟩ := hcandidate
      exact candidateOf_eq_some hslash hfound
  rw [← hname left hleft, hname right hright]

theorem finish_findOriginal (hreaches : Reaches disk originals path) :
    (findOriginal path).finish disk =
      (selectOriginal path (entriesOf disk (originals.folderOf path)) none, disk) := by
  have hfolder : (originalsFolder path).finish disk =
      (.ok (some (originals.folderOf path)), disk) := by
    unfold originalsFolder
    split
    · next hparent =>
      have hplace : originals.folderOf path = originals.top := by
        rw [folderOf, path.components_eq, hparent, List.dropLast_concat]
        rfl
      rw [hplace]
      rfl
    · next parent hparent =>
      have hplace := folderOf_eq hparent originals
      have hresolve : ((originals.resolveExistingDirectory parent).finish disk).1 =
          .ok (originals.place parent) :=
        resolveExistingDirectory_ok.mpr ⟨(reaches_iff_parent hparent).mp hreaches, rfl⟩
      rw [Program.finish_bind, Program.finish_attempt,
        (resolveExistingDirectory_checks originals parent).finish_eq disk, hresolve, hplace]
      rfl
  rw [findOriginal, Program.finish_bind_ok hfolder]
  rfl

theorem findOriginal_not_reaches {original : LibraryPath} (hreaches : ¬ Reaches disk originals path) :
    ((findOriginal path).finish disk).1 ≠ .ok (some original) := by
  intro h
  rw [findOriginal, Program.finish_bind, (reads_originalsFolder path).finish_eq disk] at h
  have hfolder : ((originalsFolder path).finish disk).1 = .ok none ∨
      ∃ e, ((originalsFolder path).finish disk).1 = .error e := by
    unfold originalsFolder
    split
    · next hparent => exact absurd (reaches_of_no_parent hparent) hreaches
    · next parent hparent =>
      rw [Program.finish_bind, Program.finish_attempt]
      rcases hresolve : ((originals.resolveExistingDirectory parent).finish disk).1 with e | place
      · dsimp only
        split
        · exact .inl rfl
        · exact .inr ⟨_, rfl⟩
      · rw [reaches_iff_parent hparent] at hreaches
        exact absurd (resolveExistingDirectory_ok.mp hresolve).1 hreaches
  rcases hfolder with hnone | ⟨e, herror⟩
  · rw [hnone] at h
    cases h
  · rw [herror] at h
    cases h

theorem findOriginal_iff {original : LibraryPath} :
    ((findOriginal path).finish disk).1 = .ok (some original) ↔
      FindsOriginal disk path original := by
  by_cases hreaches : Reaches disk originals path
  · rw [finish_findOriginal hreaches, selectOriginal_eq_ok, Option.toList_none, List.nil_append,
      Option.toList_some]
    constructor
    · rintro ⟨hnamed, hfiles, honly⟩
      have hmem : ∀ other, Mirrors path other → ∀ node,
          disk.lookup (originals.place other) = some node → other = original := by
        intro other hmirrors node hnode
        have hother := List.mem_map_of_mem (f := Prod.fst) (mem_candidates.mpr ⟨hmirrors, hnode⟩)
        rw [honly] at hother
        exact List.mem_singleton.mp hother
      have horiginal : original ∈ ((entriesOf disk (originals.folderOf path)).filterMap
          (candidateOf path)).map Prod.fst := by
        rw [honly]
        exact List.mem_singleton_self original
      obtain ⟨⟨found, node⟩, hfound, rfl⟩ := List.mem_map.mp horiginal
      obtain ⟨hmirrors, hnode⟩ := mem_candidates.mp hfound
      refine ⟨hreaches, hmirrors, ?_, ?_, ?_⟩
      · have hfile := hfiles _ hfound
        rcases node with record | _ | _ | _
        · exact ⟨record, hnode⟩
        · cases hfile
        · cases hfile
        · cases hfile
      · intro other hother hthere
        obtain ⟨node', hnode'⟩ := Option.ne_none_iff_exists'.mp hthere
        exact hmem other hother node' hnode'
      · intro name node' hslash hvisible hnode'
        obtain ⟨c, hc⟩ := hnamed (name, node') (mem_entriesOf.mpr ⟨hslash, hnode'⟩) hvisible
        exact ⟨c, (sibling_eq_ok hslash).mp hc⟩
    · rintro ⟨-, hmirrors, ⟨record, hfile⟩, honly, hnamed⟩
      have hall : ∀ candidate ∈ (entriesOf disk (originals.folderOf path)).filterMap
          (candidateOf path), candidate = (original, .file record) := by
        rintro ⟨candidate, node⟩ hmem
        obtain ⟨hcandidate, hnode⟩ := mem_candidates.mp hmem
        have hsame := honly candidate hcandidate (by rw [hnode]; simp)
        subst hsame
        rw [hfile] at hnode
        rw [← Option.some.inj hnode]
      refine ⟨?_, ?_, ?_⟩
      · rintro ⟨name, node⟩ hentry hvisible
        obtain ⟨hslash, hnode⟩ := mem_entriesOf.mp hentry
        obtain ⟨other, hother⟩ := hnamed name node hslash hvisible hnode
        exact ⟨other, (sibling_eq_ok hslash).mpr hother⟩
      · intro candidate hmem
        rw [hall candidate hmem]
        rfl
      · have hnodup := candidates_nodup disk path
        have hmem := mem_candidates.mpr ⟨hmirrors, hfile⟩
        generalize (entriesOf disk (originals.folderOf path)).filterMap (candidateOf path) =
          candidates at hall hnodup hmem
        match candidates with
        | [] => cases hmem
        | [candidate] => rw [hall candidate List.mem_cons_self]; rfl
        | first :: second :: others =>
          exfalso
          have hfirst := hall first List.mem_cons_self
          have hsecond := hall second (List.mem_cons_of_mem _ List.mem_cons_self)
          rw [hfirst, hsecond] at hnodup
          simp at hnodup
  · constructor
    · intro h
      exact absurd h (findOriginal_not_reaches hreaches)
    · intro h
      exact absurd h.reaches hreaches

end MusicServer
