/-
# Resolving paths under the media roots

The library, the kept originals and the sound effects are trees on disk.  Every path of
theirs is resolved before it is used: to an existing folder, to an existing regular file, or to a
place in an existing folder where something may be created.  No component may be a
symbolic link; one inside a parent folder leads out of the root.
-/
import MusicServer.FileTree
import MusicServer.LibraryPath

namespace MusicServer

open CrashProgram FileTree
open CrashProgram.Program (fail attempt syscall)

/-! ## Components of a path -/

namespace LibraryPath

def components (path : LibraryPath) : List (List Char) := splitSlash path.encoded

theorem components_eq (path : LibraryPath) :
    path.components = ((path.parent.map components).getD []) ++ [path.fileName] := by
  unfold parent
  split
  · next front back hsplit =>
    obtain ⟨htext, hback⟩ := rsplitOnce_sound hsplit
    have hname : path.fileName = back := by
      rw [fileName, hsplit]
      rfl
    have hcomponents : path.components = splitSlash front ++ [back] := by
      rw [components, htext, splitSlash_append, splitSlash_of_not_mem hback]
    rw [hname, hcomponents]
    rfl
  · next hsplit =>
    have hname : path.fileName = path.encoded := by
      rw [fileName, hsplit]
      rfl
    rw [hname, components, splitSlash_of_not_mem (rsplitOnce_eq_none.mp hsplit)]
    rfl

theorem parent_eq_some {path parent : LibraryPath} :
    path.parent = some parent ↔ path.encoded = parent.encoded ++ '/' :: path.fileName := by
  unfold LibraryPath.parent
  split
  · next front back hsplit =>
    obtain ⟨htext, hback⟩ := rsplitOnce_sound hsplit
    have hname : path.fileName = back := by
      rw [fileName, hsplit]
      rfl
    rw [Option.some.injEq, hname]
    constructor
    · rintro rfl
      exact htext
    · intro h
      rw [h, rsplitOnce_append hback] at hsplit
      apply LibraryPath.ext
      exact (congrArg Prod.fst (Option.some.inj hsplit)).symm
  · next hsplit =>
    have hslash := rsplitOnce_eq_none.mp hsplit
    constructor
    · intro h
      cases h
    · intro h
      rw [h] at hslash
      exact absurd (List.mem_append_right _ List.mem_cons_self) hslash

theorem parent_eq_none {path : LibraryPath} :
    path.parent = none ↔ path.encoded = path.fileName := by
  unfold LibraryPath.parent
  split
  · next front back hsplit =>
    obtain ⟨htext, -⟩ := rsplitOnce_sound hsplit
    have hname : path.fileName = back := by
      rw [fileName, hsplit]
      rfl
    constructor
    · intro h
      cases h
    · intro h
      have hlength := congrArg List.length h
      rw [hname, htext, List.length_append, List.length_cons] at hlength
      omega
  · next hsplit =>
    have hname : path.fileName = path.encoded := by
      rw [fileName, hsplit]
      rfl
    rw [hname]
    exact iff_of_true rfl rfl

theorem components_ne_nil (path : LibraryPath) : path.components ≠ [] := splitSlash_ne_nil _

theorem slash_not_mem_fileName (path : LibraryPath) : '/' ∉ path.fileName := by
  unfold fileName
  cases hsplit : rsplitOnce '/' path.encoded with
  | none => exact rsplitOnce_eq_none.mp hsplit
  | some split =>
    obtain ⟨front, back⟩ := split
    exact (rsplitOnce_sound hsplit).2

end LibraryPath

theorem intercalate_splitSlash (text : List Char) : ['/'].intercalate (splitSlash text) = text := by
  induction text with
  | nil => rfl
  | cons c rest ih =>
    obtain ⟨head, tail, hrest⟩ := List.exists_cons_of_ne_nil (splitSlash_ne_nil rest)
    rw [hrest] at ih
    by_cases hc : c = '/'
    · rw [splitSlash, if_pos hc, hrest, List.intercalate_cons_cons, ih, hc]
      rfl
    · rw [splitSlash, if_neg hc, hrest]
      cases tail with
      | nil =>
        rw [List.intercalate_singleton] at ih ⊢
        rw [ih]
      | cons second others =>
        rw [List.intercalate_cons_cons] at ih ⊢
        rw [← ih]
        rfl

theorem LibraryPath.components_injective {p q : LibraryPath} (h : p.components = q.components) :
    p = q := by
  apply LibraryPath.ext
  rw [← intercalate_splitSlash p.encoded, ← intercalate_splitSlash q.encoded]
  exact congrArg _ h

/-! ## The roots -/

inductive RootKind where
  | library
  | originals
  | sfx
  deriving DecidableEq

abbrev MediaPlace := Place RootKind (List Char)

abbrev MediaDisk := Disk RootKind (List Char)

inductive RootedPathError where
  | io (kind : IoErrorKind)
  | escapesRoot
  | parentIsNotDirectory
  | targetIsNotFile
  | symbolicLinkTarget
  deriving DecidableEq

abbrev DiskProgram (ε α : Type) := Program MediaDisk ε α

def rootedPathIsMissing (error : RootedPathError) : Bool := error = .io .notFound

/-- `symlink_metadata`: what is at a place itself, if anything is. -/
def symlinkMetadata {ε : Type} (onError : IoErrorKind → ε) (place : MediaPlace) :
    DiskProgram ε (Option Node) :=
  syscall onError fun disk => .ok (disk.lookup place, disk)

/-- `canonicalize` of a place none of whose components is a link. -/
def canonicalize {ε : Type} (onError : IoErrorKind → ε) : DiskProgram ε Unit :=
  syscall onError fun disk => .ok ((), disk)

namespace RootKind

def place (root : RootKind) (path : LibraryPath) : MediaPlace := ⟨root, path.components⟩

def top (root : RootKind) : MediaPlace := ⟨root, []⟩

/-! ## Existing folders and files -/

def resolveDirectoryFrom (current : MediaPlace) :
    List (List Char) → DiskProgram RootedPathError MediaPlace
  | [] => pure current
  | component :: rest => do
    match ← symlinkMetadata .io (current.child component) with
    | none => fail (.io .notFound)
    | some .symlink => fail .symbolicLinkTarget
    | some .directory =>
      canonicalize .io
      resolveDirectoryFrom (current.child component) rest
    | some _ => fail .parentIsNotDirectory

def resolveExistingDirectory (root : RootKind) (relative : LibraryPath) :
    DiskProgram RootedPathError MediaPlace :=
  resolveDirectoryFrom root.top relative.components

def resolveFileFrom (current : MediaPlace) :
    List (List Char) → DiskProgram RootedPathError MediaPlace
  | [] => pure current
  | component :: rest => do
    match ← symlinkMetadata .io (current.child component) with
    | none => fail (.io .notFound)
    | some .symlink => fail .symbolicLinkTarget
    | some .directory =>
      if rest = [] then fail .targetIsNotFile
      else
        canonicalize .io
        resolveFileFrom (current.child component) rest
    | some (.file _) =>
      if rest = [] then
        canonicalize .io
        resolveFileFrom (current.child component) rest
      else fail .parentIsNotDirectory
    | some .special => fail (if rest = [] then .targetIsNotFile else .parentIsNotDirectory)

def resolveExistingFileForMutation (root : RootKind) (relative : LibraryPath) :
    DiskProgram RootedPathError MediaPlace :=
  resolveFileFrom root.top relative.components

/-! ## Places to create something at -/

/-- Where a path leads, one component after another; `none` is outside the root. -/
def follow (disk : MediaDisk) (current : MediaPlace) :
    List (List Char) → Except IoErrorKind (Option MediaPlace)
  | [] => .ok (some current)
  | component :: rest =>
    match disk.lookup (current.child component) with
    | none => .error .notFound
    | some .symlink => .ok none
    | some .directory => follow disk (current.child component) rest
    | some _ => if rest = [] then .ok (some (current.child component)) else .error .notADirectory

def canonicalizeParent (root : RootKind) (relative : LibraryPath) :
    DiskProgram RootedPathError MediaPlace :=
  match relative.parent with
  | none => pure root.top
  | some parent => do
    match ← syscall .io fun disk => (follow disk root.top parent.components).map (·, disk) with
    | none => fail .escapesRoot
    | some resolved => pure resolved

def resolveForCreation (root : RootKind) (relative : LibraryPath) :
    DiskProgram RootedPathError MediaPlace := do
  let parent ← canonicalizeParent root relative
  match ← symlinkMetadata .io parent with
  | some .directory =>
    match ← symlinkMetadata .io (parent.child relative.fileName) with
    | some .symlink => fail .symbolicLinkTarget
    | _ => pure (parent.child relative.fileName)
  | _ => fail .parentIsNotDirectory

/-! ## Creating folders -/

/-- Creates one folder of a path unless it is there. -/
def ensureComponent (candidate : MediaPlace) : DiskProgram RootedPathError Unit := do
  match ← symlinkMetadata .io candidate with
  | some .symlink => fail .symbolicLinkTarget
  | some .directory => pure ()
  | some _ => fail .parentIsNotDirectory
  | none =>
    match ← attempt (syscall id fun disk : MediaDisk => disk.createDir candidate) with
    | .ok _ => pure ()
    | .error .alreadyExists => pure ()
    | .error kind => fail (.io kind)

def ensureDirectoryFrom (current : MediaPlace) :
    List (List Char) → DiskProgram RootedPathError MediaPlace
  | [] => pure current
  | component :: rest => do
    ensureComponent (current.child component)
    canonicalize .io
    match ← symlinkMetadata .io (current.child component) with
    | some .symlink => fail .symbolicLinkTarget
    | none => fail (.io .notFound)
    | some _ => ensureDirectoryFrom (current.child component) rest

def ensureDirectory (root : RootKind) (relative : LibraryPath) :
    DiskProgram RootedPathError MediaPlace :=
  ensureDirectoryFrom root.top relative.components

/-! ## What resolving a path finds -/

def FoldersFrom (disk : MediaDisk) (current : MediaPlace) : List (List Char) → Prop
  | [] => True
  | component :: rest =>
    disk.lookup (current.child component) = some .directory ∧
      FoldersFrom disk (current.child component) rest

def descend (current : MediaPlace) (rest : List (List Char)) : MediaPlace :=
  ⟨current.root, current.path ++ rest⟩

theorem descend_nil (current : MediaPlace) : descend current [] = current := by
  rw [descend, List.append_nil]

theorem descend_child (current : MediaPlace) (component : List Char) (rest : List (List Char)) :
    descend (current.child component) rest = descend current (component :: rest) := by
  simp [descend, Place.child]

def folderOf (root : RootKind) (path : LibraryPath) : MediaPlace :=
  descend root.top path.components.dropLast

theorem place_eq (root : RootKind) (path : LibraryPath) :
    root.place path = (root.folderOf path).child path.fileName := by
  rw [place, folderOf, descend, top, Place.child, List.nil_append, path.components_eq,
    List.dropLast_concat]

theorem place_path_ne_nil (root : RootKind) (path : LibraryPath) : (root.place path).path ≠ [] :=
  path.components_ne_nil

/-- The parent folders of a path are there, none of them a link. -/
def Reaches (disk : MediaDisk) (root : RootKind) (path : LibraryPath) : Prop :=
  FoldersFrom disk root.top path.components.dropLast

variable {disk : MediaDisk} {root : RootKind}

theorem reaches_iff_parent {path parent : LibraryPath} (h : path.parent = some parent) :
    Reaches disk root path ↔ FoldersFrom disk root.top parent.components := by
  rw [Reaches, path.components_eq, List.dropLast_concat, h]
  rfl

variable {path : LibraryPath}

theorem reaches_of_no_parent (h : path.parent = none) : Reaches disk root path := by
  rw [Reaches, path.components_eq, List.dropLast_concat, h]
  trivial

section

variable {ε α : Type} {onError : IoErrorKind → ε} {disk : MediaDisk}

theorem finish_symlinkMetadata_bind (place : MediaPlace) (f : Option Node → DiskProgram ε α) :
    (symlinkMetadata onError place >>= f).finish disk = (f (disk.lookup place)).finish disk := rfl

theorem finish_canonicalize_bind (f : Unit → DiskProgram ε α) :
    (canonicalize onError >>= f).finish disk = (f ()).finish disk := rfl

theorem symlinkMetadata_checks {E : ε → Prop} (place : MediaPlace) (h : E (onError .device)) :
    (symlinkMetadata onError place).Checks E := by
  refine Program.Checks.syscall (fun s b s' hact => ?_) h
  cases hact
  rfl

theorem canonicalize_checks {E : ε → Prop} (h : E (onError .device)) :
    (canonicalize onError).Checks E := by
  refine Program.Checks.syscall (fun s b s' hact => ?_) h
  cases hact
  rfl

end

section

variable {ε α : Type} {onError : IoErrorKind → ε} {disk : MediaDisk} {faulty : Bool}
  {C : MediaDisk → Prop} {Q : Except ε α → MediaDisk → Prop}

theorem wp_symlinkMetadata_bind {place : MediaPlace} {f : Option Node → DiskProgram ε α}
    (hcrash : C disk) (hfault : faulty = true → Q (.error (onError .device)) disk)
    (hok : (f (disk.lookup place)).wp faulty C Q disk) :
    (symlinkMetadata onError place >>= f).wp faulty C Q disk :=
  Program.wp_bind ⟨fun _ => hcrash, fun hfaulty _ => hfault hfaulty, hok⟩

theorem wp_canonicalize_bind {f : Unit → DiskProgram ε α} (hcrash : C disk)
    (hfault : faulty = true → Q (.error (onError .device)) disk)
    (hok : (f ()).wp faulty C Q disk) : (canonicalize onError >>= f).wp faulty C Q disk :=
  Program.wp_bind ⟨fun _ => hcrash, fun hfaulty _ => hfault hfaulty, hok⟩

end

/-- The failures of the device when a path is resolved. -/
def DeviceFailure (error : RootedPathError) : Prop := error = .io .device

theorem deviceFailure : DeviceFailure (.io .device) := rfl

theorem resolveDirectoryFrom_checks (current : MediaPlace) (rest : List (List Char)) :
    (resolveDirectoryFrom current rest).Checks DeviceFailure := by
  induction rest generalizing current with
  | nil => trivial
  | cons component rest ih =>
    refine (symlinkMetadata_checks _ deviceFailure).bind fun node => ?_
    rcases node with - | (- | - | - | -)
    · trivial
    · trivial
    · exact (canonicalize_checks deviceFailure).bind fun _ => ih _
    · trivial
    · trivial

theorem resolveFileFrom_checks (current : MediaPlace) (rest : List (List Char)) :
    (resolveFileFrom current rest).Checks DeviceFailure := by
  induction rest generalizing current with
  | nil => trivial
  | cons component rest ih =>
    refine (symlinkMetadata_checks _ deviceFailure).bind fun node => ?_
    rcases node with - | (- | - | - | -)
    · trivial
    · dsimp only
      split
      · exact (canonicalize_checks deviceFailure).bind fun _ => ih _
      · trivial
    · dsimp only
      split
      · trivial
      · exact (canonicalize_checks deviceFailure).bind fun _ => ih _
    · trivial
    · trivial

theorem resolveExistingDirectory_checks (root : RootKind) (path : LibraryPath) :
    (resolveExistingDirectory root path).Checks DeviceFailure := resolveDirectoryFrom_checks _ _

theorem resolveExistingFile_checks (root : RootKind) (path : LibraryPath) :
    (resolveExistingFileForMutation root path).Checks DeviceFailure := resolveFileFrom_checks _ _

theorem canonicalizeParent_checks (root : RootKind) (path : LibraryPath) :
    (canonicalizeParent root path).Checks DeviceFailure := by
  unfold canonicalizeParent
  split
  · trivial
  · refine Program.Checks.bind (Program.Checks.syscall (fun s b s' hact => ?_) deviceFailure) fun place => ?_
    · cases hfollow : follow s root.top _ with
      | error kind =>
        rw [hfollow] at hact
        cases hact
      | ok place =>
        rw [hfollow] at hact
        cases hact
        rfl
    · cases place <;> trivial

theorem resolveForCreation_checks (root : RootKind) (path : LibraryPath) :
    (resolveForCreation root path).Checks DeviceFailure := by
  refine (canonicalizeParent_checks root path).bind fun parent => ?_
  refine (symlinkMetadata_checks _ deviceFailure).bind fun node => ?_
  rcases node with - | (- | - | - | -)
  · trivial
  · trivial
  · refine (symlinkMetadata_checks _ deviceFailure).bind fun target => ?_
    rcases target with - | (- | - | - | -) <;> trivial
  · trivial
  · trivial

variable {rest : List (List Char)}

theorem resolveDirectoryFrom_ok {current place : MediaPlace} :
    ((resolveDirectoryFrom current rest).finish disk).1 = .ok place ↔
      FoldersFrom disk current rest ∧ place = descend current rest := by
  induction rest generalizing current with
  | nil =>
    rw [resolveDirectoryFrom, descend_nil]
    simp [FoldersFrom, eq_comm]
  | cons component rest ih =>
    rw [resolveDirectoryFrom, finish_symlinkMetadata_bind, FoldersFrom, ← descend_child]
    rcases disk.lookup (current.child component) with - | (- | - | - | -)
    · simp
    · simp
    · dsimp only
      rw [finish_canonicalize_bind, ih]
      simp
    · simp
    · simp

theorem resolveFileFrom_ok {current place : MediaPlace} (hrest : rest ≠ []) :
    ((resolveFileFrom current rest).finish disk).1 = .ok place ↔
      FoldersFrom disk current rest.dropLast ∧
        (∃ record, disk.lookup (descend current rest) = some (.file record)) ∧
          place = descend current rest := by
  induction rest generalizing current with
  | nil => exact absurd rfl hrest
  | cons component rest ih =>
    rw [resolveFileFrom, finish_symlinkMetadata_bind, ← descend_child]
    by_cases hlast : rest = []
    · subst hlast
      rw [descend_nil]
      rcases disk.lookup (current.child component) with - | (- | - | - | -)
      · simp
      · dsimp only
        rw [if_pos rfl, finish_canonicalize_bind]
        simp [resolveFileFrom, FoldersFrom, eq_comm]
      · simp
      · simp
      · simp
    · rw [List.dropLast_cons_of_ne_nil hlast, FoldersFrom]
      rcases disk.lookup (current.child component) with - | (- | - | - | -)
      · simp
      · simp [hlast]
      · dsimp only
        rw [if_neg hlast, finish_canonicalize_bind, ih hlast]
        simp
      · simp
      · simp

variable {place : MediaPlace}

theorem resolveExistingDirectory_ok :
    ((resolveExistingDirectory root path).finish disk).1 = .ok place ↔
      FoldersFrom disk root.top path.components ∧ place = root.place path :=
  resolveDirectoryFrom_ok

theorem resolveExistingFile_ok :
    ((resolveExistingFileForMutation root path).finish disk).1 = .ok place ↔
      Reaches disk root path ∧ (∃ record, disk.lookup (root.place path) = some (.file record)) ∧
        place = root.place path :=
  resolveFileFrom_ok path.components_ne_nil

theorem follow_directory {current place : MediaPlace}
    (hcurrent : disk.lookup current = some .directory) :
    (follow disk current rest = .ok (some place) ∧ disk.lookup place = some .directory) ↔
      FoldersFrom disk current rest ∧ place = descend current rest := by
  induction rest generalizing current with
  | nil =>
    rw [follow, descend_nil]
    simp only [Except.ok.injEq, Option.some.injEq, FoldersFrom, true_and]
    constructor
    · rintro ⟨rfl, -⟩
      rfl
    · rintro rfl
      exact ⟨rfl, hcurrent⟩
  | cons component rest ih =>
    rw [follow, FoldersFrom, ← descend_child]
    rcases hnode : disk.lookup (current.child component) with - | (record | - | - | -)
    · simp
    · dsimp only
      split
      · simp only [Except.ok.injEq, Option.some.injEq]
        constructor
        · rintro ⟨rfl, hdirectory⟩
          rw [hnode] at hdirectory
          simp at hdirectory
        · rintro ⟨⟨h, -⟩, -⟩
          simp at h
      · simp
    · simp only [true_and]
      exact ih hnode
    · simp
    · dsimp only
      split
      · simp only [Except.ok.injEq, Option.some.injEq]
        constructor
        · rintro ⟨rfl, hdirectory⟩
          rw [hnode] at hdirectory
          simp at hdirectory
        · rintro ⟨⟨h, -⟩, -⟩
          simp at h
      · simp

theorem canonicalizeParent_ok :
    (((canonicalizeParent root path).finish disk).1 = .ok place ∧
      disk.lookup place = some .directory) ↔
        Reaches disk root path ∧ place = root.folderOf path := by
  unfold canonicalizeParent
  split
  · next hparent =>
    have hfolder : root.folderOf path = root.top := by
      rw [folderOf, path.components_eq, List.dropLast_concat, hparent]
      exact descend_nil _
    rw [hfolder]
    simp only [Program.finish_pure, Except.ok.injEq, reaches_of_no_parent hparent, true_and]
    constructor
    · rintro ⟨rfl, -⟩
      rfl
    · rintro rfl
      exact ⟨rfl, rfl⟩
  · next parent hparent =>
    have hfolder : root.folderOf path = descend root.top parent.components := by
      rw [folderOf, path.components_eq, List.dropLast_concat, hparent]
      rfl
    rw [reaches_iff_parent hparent, hfolder, ← follow_directory rfl]
    rcases hfollow : follow disk root.top parent.components with kind | resolved
    · rw [Program.finish_bind_error (Program.finish_syscall_error (by rw [hfollow]; rfl))]
      simp
    · rw [Program.finish_bind_ok (Program.finish_syscall_ok (by rw [hfollow]; rfl))]
      cases resolved with
      | none => simp
      | some resolved => simp

theorem resolveForCreation_ok :
    ((resolveForCreation root path).finish disk).1 = .ok place ↔
      Reaches disk root path ∧ disk.lookup (root.place path) ≠ some .symlink ∧
        place = root.place path := by
  rw [resolveForCreation, Program.finish_bind,
    (canonicalizeParent_checks root path).finish_eq disk]
  rcases hparent : ((canonicalizeParent root path).finish disk).1 with e | parent
  · have hnot : ¬ Reaches disk root path := by
      intro hreaches
      have hok := (canonicalizeParent_ok.mpr ⟨hreaches, rfl⟩).1
      rw [hparent] at hok
      cases hok
    simp [hnot]
  · have hiff := @canonicalizeParent_ok disk root path parent
    dsimp only
    rw [finish_symlinkMetadata_bind]
    by_cases hdirectory : disk.lookup parent = some .directory
    · obtain ⟨hreaches, rfl⟩ := hiff.mp ⟨hparent, hdirectory⟩
      rw [hdirectory]
      dsimp only
      rw [finish_symlinkMetadata_bind, ← place_eq]
      rcases disk.lookup (root.place path) with - | (- | - | - | -) <;>
        simp [hreaches, eq_comm]
    · have hnot : ¬ Reaches disk root path := by
        intro hreaches
        have hok := canonicalizeParent_ok.mpr ⟨hreaches, rfl⟩
        rw [hparent] at hok
        cases hok.1
        exact hdirectory hok.2
      rcases hnode : disk.lookup parent with - | (- | - | - | -)
      · simp [hnot]
      · simp [hnot]
      · exact absurd hnode hdirectory
      · simp [hnot]
      · simp [hnot]

/-! ## What creating folders leaves -/

theorem grows_node {before between after : Option Node}
    (h : between = before ∨ (before = none ∧ between = some .directory))
    (h' : after = between ∨ (between = none ∧ after = some .directory)) :
    after = before ∨ (before = none ∧ after = some .directory) := by
  rcases h with hsame | ⟨hnone, hfolder⟩
  · rw [← hsame]
    exact h'
  · rcases h' with hsame' | ⟨hnone', -⟩
    · exact .inr ⟨hnone, hsame'.trans hfolder⟩
    · rw [hfolder] at hnone'
      cases hnone'

/-- Only folders appear, where nothing was, on the way to a place. -/
structure Grows (along : MediaPlace) (disk disk' : MediaDisk) : Prop where
  node : ∀ place, disk'.lookup place = disk.lookup place ∨
    (disk.lookup place = none ∧ disk'.lookup place = some .directory)
  elsewhere : ∀ place, along.isBeneath place = false → disk'.lookup place = disk.lookup place
  device : disk'.device = disk.device

theorem Grows.refl (along : MediaPlace) (disk : MediaDisk) : Grows along disk disk :=
  ⟨fun _ => .inl rfl, fun _ _ => rfl, rfl⟩

theorem Grows.trans {along : MediaPlace} {disk disk' disk'' : MediaDisk}
    (h : Grows along disk disk') (h' : Grows along disk' disk'') : Grows along disk disk'' := by
  refine ⟨fun place => ?_, fun place hplace => ?_, h'.device.trans h.device⟩
  · exact grows_node (h.node place) (h'.node place)
  · rw [h'.elsewhere place hplace, h.elsewhere place hplace]

theorem Grows.lookup {along : MediaPlace} {disk disk' : MediaDisk} (h : Grows along disk disk')
    {node : Node} (hnode : disk.lookup place = some node) : disk'.lookup place = some node := by
  rcases h.node place with hsame | ⟨hnone, -⟩
  · rw [hsame, hnode]
  · rw [hnode] at hnone
    cases hnone

theorem grows_put {along : MediaPlace} (hplace : place.path ≠ [])
    (halong : along.isBeneath place = true) (hnone : disk.lookup place = none) :
    Grows along disk (disk.put place .directory) := by
  refine ⟨fun other => ?_, fun other hother => ?_, rfl⟩
  · rw [Disk.lookup_put _ hplace]
    split
    · next h =>
      rw [h]
      exact .inr ⟨hnone, rfl⟩
    · exact .inl rfl
  · rw [Disk.lookup_put _ hplace, if_neg]
    rintro rfl
    rw [halong] at hother
    cases hother

theorem beneath_child (current : MediaPlace) (component : List Char) (rest : List (List Char)) :
    (descend current (component :: rest)).isBeneath (current.child component) = true := by
  simp [Place.isBeneath, descend, Place.child]

section

variable {faulty : Bool} {C : MediaDisk → Prop}

theorem wp_ensureComponent {candidate : MediaPlace} {disk : MediaDisk}
    {Q : Except RootedPathError Unit → MediaDisk → Prop} (hcrash : C disk)
    (hfault : faulty = true → Q (.error (.io .device)) disk)
    (hresult : Q ((ensureComponent candidate).finish disk).1
      ((ensureComponent candidate).finish disk).2) :
    (ensureComponent candidate).wp faulty C Q disk := by
  unfold ensureComponent at hresult ⊢
  rw [finish_symlinkMetadata_bind] at hresult
  refine wp_symlinkMetadata_bind hcrash hfault ?_
  generalize disk.lookup candidate = node at hresult ⊢
  rcases node with _ | (_ | _ | _ | _)
  · refine Program.wp_bind (Program.wp_attempt (Program.wp_syscall hcrash hfault ?_ ?_))
    · intro kind hkind
      dsimp only at hresult
      rw [Program.finish_bind, Program.finish_attempt,
        Program.finish_syscall_error hkind] at hresult
      cases kind <;> exact hresult
    · intro u disk' hok
      dsimp only at hresult
      rw [Program.finish_bind, Program.finish_attempt, Program.finish_syscall_ok hok] at hresult
      exact hresult
  · exact hresult
  · exact hresult
  · exact hresult
  · exact hresult

theorem finish_ensureComponent {along candidate : MediaPlace} (hcandidate : candidate.path ≠ [])
    (halong : along.isBeneath candidate = true) (disk : MediaDisk) :
    (∃ e, (ensureComponent candidate).finish disk = (.error e, disk)) ∨
      ∃ disk', (ensureComponent candidate).finish disk = (.ok (), disk') ∧ Grows along disk disk' ∧
        disk'.lookup candidate = some .directory ∧
          (ensureComponent candidate).finish disk' = (.ok (), disk') := by
  have hthere : ∀ disk : MediaDisk, disk.lookup candidate = some .directory →
      (ensureComponent candidate).finish disk = (.ok (), disk) := by
    intro disk hfolder
    rw [ensureComponent, finish_symlinkMetadata_bind, hfolder]
    rfl
  rcases hnode : disk.lookup candidate with _ | (_ | _ | _ | _)
  · rw [ensureComponent, finish_symlinkMetadata_bind, hnode]
    dsimp only
    rw [Program.finish_bind, Program.finish_attempt]
    by_cases hparent : disk.isDirectory candidate.parent = true
    · have hcreate : disk.createDir candidate = .ok ((), disk.put candidate .directory) := by
        rw [Disk.createDir, hparent, hnode]
        rfl
      right
      have hlookup : (disk.put candidate .directory).lookup candidate = some .directory := by
        rw [Disk.lookup_put _ hcandidate, if_pos rfl]
      refine ⟨disk.put candidate .directory, ?_, grows_put hcandidate halong hnode, hlookup,
        hthere _ hlookup⟩
      rw [Program.finish_syscall_ok hcreate]
      rfl
    · have hcreate : disk.createDir candidate = .error .notFound := by
        rw [Disk.createDir, if_pos (by simpa using hparent)]
      left
      rw [Program.finish_syscall_error hcreate]
      exact ⟨_, rfl⟩
  · left
    rw [ensureComponent, finish_symlinkMetadata_bind, hnode]
    exact ⟨_, rfl⟩
  · right
    exact ⟨disk, hthere disk hnode, Grows.refl along disk, hnode, hthere disk hnode⟩
  · left
    rw [ensureComponent, finish_symlinkMetadata_bind, hnode]
    exact ⟨_, rfl⟩
  · left
    rw [ensureComponent, finish_symlinkMetadata_bind, hnode]
    exact ⟨_, rfl⟩

theorem wp_ensureDirectoryFrom {current : MediaPlace} {rest : List (List Char)} {disk : MediaDisk}
    {Q : Except RootedPathError MediaPlace → MediaDisk → Prop}
    (hcrash : ∀ disk', Grows (descend current rest) disk disk' → C disk')
    (herror : ∀ e disk', Grows (descend current rest) disk disk' → Q (.error e) disk')
    (hok : ∀ disk', (ensureDirectoryFrom current rest).finish disk =
      (.ok (descend current rest), disk') → Grows (descend current rest) disk disk' →
        FoldersFrom disk' current rest → Q (.ok (descend current rest)) disk') :
    (ensureDirectoryFrom current rest).wp faulty C Q disk := by
  induction rest generalizing current disk with
  | nil =>
    rw [descend_nil] at hok
    exact hok disk rfl (Grows.refl _ disk) trivial
  | cons component rest ih =>
    have hne := current.child_path_ne_nil component
    refine Program.wp_bind (wp_ensureComponent (hcrash disk (Grows.refl _ disk))
      (fun _ => herror _ disk (Grows.refl _ disk)) ?_)
    rcases finish_ensureComponent hne (beneath_child current component rest) disk with
      ⟨e, hfinish⟩ | ⟨disk', hfinish, hgrows, hfolder, -⟩
    · rw [hfinish]
      exact herror e disk (Grows.refl _ disk)
    · have hwhole : (ensureDirectoryFrom current (component :: rest)).finish disk =
          (ensureDirectoryFrom (current.child component) rest).finish disk' := by
        rw [ensureDirectoryFrom, Program.finish_bind_ok hfinish, finish_canonicalize_bind,
          finish_symlinkMetadata_bind, hfolder]
      rw [hwhole] at hok
      rw [hfinish]
      refine wp_canonicalize_bind (hcrash disk' hgrows) (fun _ => herror _ disk' hgrows) ?_
      refine wp_symlinkMetadata_bind (hcrash disk' hgrows) (fun _ => herror _ disk' hgrows) ?_
      rw [hfolder]
      have hrest := @ih (current.child component) disk'
      rw [descend_child] at hrest
      refine hrest (fun disk'' h => hcrash _ (hgrows.trans h))
        (fun e disk'' h => herror e _ (hgrows.trans h)) (fun disk'' hdone h hfolders => ?_)
      exact hok disk'' hdone (hgrows.trans h) ⟨h.lookup hfolder, hfolders⟩

theorem wp_ensureDirectory {root : RootKind} {path : LibraryPath} {disk : MediaDisk}
    {Q : Except RootedPathError MediaPlace → MediaDisk → Prop}
    (hcrash : ∀ disk', Grows (root.place path) disk disk' → C disk')
    (herror : ∀ e disk', Grows (root.place path) disk disk' → Q (.error e) disk')
    (hok : ∀ disk', (ensureDirectory root path).finish disk = (.ok (root.place path), disk') →
      Grows (root.place path) disk disk' → FoldersFrom disk' root.top path.components →
        Q (.ok (root.place path)) disk') :
    (ensureDirectory root path).wp faulty C Q disk :=
  wp_ensureDirectoryFrom hcrash herror hok

end

end RootKind

end MusicServer
