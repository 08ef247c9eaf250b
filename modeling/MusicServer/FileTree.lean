/-
# File trees and the calls that change them

A disk holds one tree of files and folders under each of its roots, and the roots may lie
on different devices.  A place is a path beneath a root.  Each call is a partial function
on disks that gives the reason where it refuses; the lemmas say what is at every place
afterwards.  Symbolic links are leaves: no call of this file follows one.
-/
import Std.Data.ExtTreeMap
import Mathlib.Data.Int.Notation
import Mathlib.Order.MinMax
import MusicServer.CrashProgram

namespace FileTree

open CrashProgram (IoErrorKind)

/-- A regular file: hard links share the inode. -/
structure FileRecord where
  inode : ℕ
  bytes : List UInt8
  modified : ℤ
  deriving DecidableEq

inductive Node where
  | file (record : FileRecord)
  | directory
  | symlink
  | special
  deriving DecidableEq

variable {ι ν : Type} [DecidableEq ι] [Ord ν] [Std.TransOrd ν] [Std.LawfulEqOrd ν] [DecidableEq ν]

structure Place (ι ν : Type) where
  root : ι
  path : List ν
  deriving DecidableEq

namespace Place

def parent (place : Place ι ν) : Place ι ν := ⟨place.root, place.path.dropLast⟩

def child (place : Place ι ν) (name : ν) : Place ι ν := ⟨place.root, place.path ++ [name]⟩

omit [DecidableEq ι] [Ord ν] [Std.TransOrd ν] [Std.LawfulEqOrd ν] [DecidableEq ν] in
theorem child_path_ne_nil (place : Place ι ν) (name : ν) : (place.child name).path ≠ [] := by
  simp [child]

def isBeneath (place folder : Place ι ν) : Bool :=
  place.root = folder.root && folder.path.isPrefixOf place.path

end Place

def Node.inodeBound : Node → ℕ
  | .file record => record.inode + 1
  | _ => 0

/-- The entries under each root, by their paths; a root itself is a folder.  The next inode
is above all that are in use. -/
structure Disk (ι ν : Type) [Ord ν] [Std.TransOrd ν] where
  trees : ι → Std.ExtTreeMap (List ν) Node compare
  device : ι → ℕ
  nextInode : ℕ
  clock : ℤ
  inode_lt : ∀ (root : ι) (path : List ν) (node : Node),
    (trees root)[path]? = some node → node.inodeBound ≤ nextInode

namespace Disk

/-! ## Looking and writing -/

def lookup (disk : Disk ι ν) (place : Place ι ν) : Option Node :=
  if place.path = [] then some .directory else (disk.trees place.root)[place.path]?

def put (disk : Disk ι ν) (place : Place ι ν) (node : Node) : Disk ι ν where
  trees := fun root =>
    if root = place.root then (disk.trees root).insert place.path node else disk.trees root
  device := disk.device
  nextInode := max disk.nextInode node.inodeBound
  clock := disk.clock
  inode_lt := by
    intro root path other hother
    split at hother
    · rw [Std.ExtTreeMap.getElem?_insert] at hother
      split at hother
      · rw [← Option.some.inj hother]
        exact le_max_right _ _
      · exact le_max_of_le_left (disk.inode_lt root path other hother)
    · exact le_max_of_le_left (disk.inode_lt root path other hother)

def erase (disk : Disk ι ν) (place : Place ι ν) : Disk ι ν where
  trees := fun root =>
    if root = place.root then (disk.trees root).erase place.path else disk.trees root
  device := disk.device
  nextInode := disk.nextInode
  clock := disk.clock
  inode_lt := by
    intro root path other hother
    split at hother
    · rw [Std.ExtTreeMap.getElem?_erase] at hother
      split at hother
      · cases hother
      · exact disk.inode_lt root path other hother
    · exact disk.inode_lt root path other hother

def empty (device : ι → ℕ) : Disk ι ν where
  trees := fun _ => ∅
  device := device
  nextInode := 0
  clock := 0
  inode_lt := by
    intro root path node hnode
    rw [Std.ExtTreeMap.getElem?_empty] at hnode
    cases hnode

def names (disk : Disk ι ν) (folder : Place ι ν) : List ν :=
  (disk.trees folder.root).keys.filterMap fun path =>
    if path.dropLast = folder.path then path.getLast? else none

variable {place : Place ι ν}

omit [Std.LawfulEqOrd ν] in
theorem lookup_changed {disk disk' : Disk ι ν} (hplace : place.path ≠ []) {node : Option Node}
    (htrees : ∀ root path, (disk'.trees root)[path]? =
      if root = place.root ∧ path = place.path then node else (disk.trees root)[path]?)
    (other : Place ι ν) :
    disk'.lookup other = if other = place then node else disk.lookup other := by
  unfold lookup
  by_cases hpath : other.path = []
  · rw [if_pos hpath, if_pos hpath, if_neg]
    rintro rfl
    exact hplace hpath
  · obtain ⟨root', path'⟩ := other
    obtain ⟨root, path⟩ := place
    rw [if_neg hpath, if_neg hpath, htrees]
    simp only [Place.mk.injEq]

theorem lookup_put (disk : Disk ι ν) (hplace : place.path ≠ []) (node : Node) (other : Place ι ν) :
    (disk.put place node).lookup other = if other = place then some node else disk.lookup other := by
  refine lookup_changed hplace (fun root path => ?_) other
  by_cases hroot : root = place.root
  · simp [put, hroot, Std.ExtTreeMap.getElem?_insert, @eq_comm _ path]
  · simp [put, hroot]

theorem lookup_erase (disk : Disk ι ν) (hplace : place.path ≠ []) (other : Place ι ν) :
    (disk.erase place).lookup other = if other = place then none else disk.lookup other := by
  refine lookup_changed hplace (fun root path => ?_) other
  by_cases hroot : root = place.root
  · simp [erase, hroot, Std.ExtTreeMap.getElem?_erase, @eq_comm _ path]
  · simp [erase, hroot]

omit [DecidableEq ι] in
theorem mem_names {disk : Disk ι ν} {folder : Place ι ν} {name : ν} :
    name ∈ disk.names folder ↔ (disk.lookup (folder.child name)).isSome = true := by
  unfold names lookup Place.child
  rw [List.mem_filterMap]
  have hne : ¬(folder.path ++ [name] = []) := by simp
  rw [if_neg hne]
  constructor
  · rintro ⟨path, hkey, hname⟩
    split at hname
    · next hfolder =>
      obtain ⟨front, hpath⟩ := List.getLast?_eq_some_iff.mp hname
      subst hpath
      rw [List.dropLast_concat] at hfolder
      subst hfolder
      rw [Std.ExtTreeMap.isSome_getElem?_eq_contains]
      exact Std.ExtTreeMap.mem_keys.mp hkey
    · cases hname
  · intro hsome
    rw [Std.ExtTreeMap.isSome_getElem?_eq_contains] at hsome
    refine ⟨_, Std.ExtTreeMap.mem_keys.mpr hsome, ?_⟩
    rw [List.dropLast_concat, if_pos rfl, List.getLast?_concat]

/-! ## Calls on files -/

/-- Takes what is at one place to another, over what is there. -/
def relocate (disk : Disk ι ν) (source destination : Place ι ν) (node : Node) : Disk ι ν :=
  (disk.erase source).put destination node

/-- Takes a folder with all it holds to another place. -/
def relocateFolder (disk : Disk ι ν) (source destination : Place ι ν) : Disk ι ν :=
  let entries := (disk.trees source.root).toList.filter fun entry =>
    source.path.isPrefixOf entry.1
  let cleared := entries.foldl (fun disk entry => disk.erase ⟨source.root, entry.1⟩) disk
  entries.foldl (fun disk entry =>
    disk.put ⟨destination.root, destination.path ++ entry.1.drop source.path.length⟩ entry.2) cleared

def isDirectory (disk : Disk ι ν) (place : Place ι ν) : Bool := disk.lookup place = some .directory

def isEmptyFolder (disk : Disk ι ν) (place : Place ι ν) : Bool := (disk.names place).isEmpty

/-- `rename`: over a file where one is there; between links of one file it does nothing. -/
def rename (disk : Disk ι ν) (source destination : Place ι ν) :
    Except IoErrorKind (Unit × Disk ι ν) :=
  if disk.device source.root ≠ disk.device destination.root then .error .crossesDevices
  else if !disk.isDirectory destination.parent then .error .notFound
  else
    match disk.lookup source, disk.lookup destination with
    | none, _ => .error .notFound
    | some .directory, none =>
      if destination.isBeneath source then .error .invalidInput
      else .ok ((), disk.relocateFolder source destination)
    | some .directory, some .directory =>
      if destination = source then .ok ((), disk)
      else if destination.isBeneath source then .error .invalidInput
      else if disk.isEmptyFolder destination then .ok ((), disk.relocateFolder source destination)
      else .error .directoryNotEmpty
    | some .directory, some _ => .error .notADirectory
    | some _, some .directory => .error .isADirectory
    | some (.file record), some (.file other) =>
      if record.inode = other.inode then .ok ((), disk)
      else .ok ((), disk.relocate source destination (.file record))
    | some node, _ => .ok ((), disk.relocate source destination node)

def hardLink (disk : Disk ι ν) (source destination : Place ι ν) :
    Except IoErrorKind (Unit × Disk ι ν) :=
  if disk.device source.root ≠ disk.device destination.root then .error .crossesDevices
  else if !disk.isDirectory destination.parent then .error .notFound
  else
    match disk.lookup source, disk.lookup destination with
    | none, _ => .error .notFound
    | some _, some _ => .error .alreadyExists
    | some .directory, none => .error .device
    | some node, none => .ok ((), disk.put destination node)

def removeFile (disk : Disk ι ν) (place : Place ι ν) : Except IoErrorKind (Unit × Disk ι ν) :=
  match disk.lookup place with
  | none => .error .notFound
  | some .directory => .error .isADirectory
  | some _ => .ok ((), disk.erase place)

/-- Writes a new file, or over one that is there. -/
def writeFile (disk : Disk ι ν) (place : Place ι ν) (bytes : List UInt8) :
    Except IoErrorKind (Unit × Disk ι ν) :=
  if !disk.isDirectory place.parent then .error .notFound
  else
    match disk.lookup place with
    | none => .ok ((), disk.put place (.file ⟨disk.nextInode, bytes, disk.clock⟩))
    | some (.file record) => .ok ((), disk.put place (.file ⟨record.inode, bytes, disk.clock⟩))
    | some .directory => .error .isADirectory
    | some _ => .error .device

def writeTorn (disk : Disk ι ν) (place : Place ι ν) (bytes : List UInt8) (progress : ℕ) :
    Disk ι ν :=
  match disk.writeFile place (bytes.take progress) with
  | .ok (_, disk') => disk'
  | .error _ => disk

def setModified (disk : Disk ι ν) (place : Place ι ν) (modified : ℤ) :
    Except IoErrorKind (Unit × Disk ι ν) :=
  match disk.lookup place with
  | none => .error .notFound
  | some (.file record) => .ok ((), disk.put place (.file { record with modified := modified }))
  | some _ => .error .device

/-! ## Calls on folders -/

def createDir (disk : Disk ι ν) (place : Place ι ν) : Except IoErrorKind (Unit × Disk ι ν) :=
  if !disk.isDirectory place.parent then .error .notFound
  else
    match disk.lookup place with
    | some _ => .error .alreadyExists
    | none => .ok ((), disk.put place .directory)

def removeDir (disk : Disk ι ν) (place : Place ι ν) : Except IoErrorKind (Unit × Disk ι ν) :=
  match disk.lookup place with
  | none => .error .notFound
  | some .directory =>
    if disk.isEmptyFolder place then .ok ((), disk.erase place) else .error .directoryNotEmpty
  | some _ => .error .notADirectory

/-- The entries at or beneath a place, each after what it holds. -/
def branch (disk : Disk ι ν) (place : Place ι ν) : List (List ν) :=
  ((disk.trees place.root).keys.filter fun path => place.path.isPrefixOf path).reverse

def eraseAll (disk : Disk ι ν) (root : ι) (paths : List (List ν)) : Disk ι ν :=
  paths.foldl (fun disk path => disk.erase ⟨root, path⟩) disk

/-- `remove_dir_all`, which deletes what a folder holds before the folder. -/
def removeDirAll (disk : Disk ι ν) (place : Place ι ν) : Except IoErrorKind (Unit × Disk ι ν) :=
  match disk.lookup place with
  | none => .error .notFound
  | some .directory => .ok ((), disk.eraseAll place.root (disk.branch place))
  | some _ => .error .notADirectory

def removeDirAllTorn (disk : Disk ι ν) (place : Place ι ν) (progress : ℕ) : Disk ι ν :=
  disk.eraseAll place.root ((disk.branch place).take progress)

/-! ## What the calls leave -/

variable {other : Place ι ν}

omit [DecidableEq ν] in
theorem lookup_put_of_ne (disk : Disk ι ν) (h : other ≠ place) (node : Node) :
    (disk.put place node).lookup other = disk.lookup other := by
  obtain ⟨root, path⟩ := place
  obtain ⟨root', path'⟩ := other
  unfold lookup put
  dsimp only
  split
  · rfl
  · split
    · next hroot =>
      rw [Std.ExtTreeMap.getElem?_insert, if_neg]
      intro hsame
      exact h (by rw [hroot, Std.compare_eq_iff_eq.mp hsame])
    · rfl

omit [DecidableEq ν] in
theorem lookup_erase_of_ne (disk : Disk ι ν) (h : other ≠ place) :
    (disk.erase place).lookup other = disk.lookup other := by
  obtain ⟨root, path⟩ := place
  obtain ⟨root', path'⟩ := other
  unfold lookup erase
  dsimp only
  split
  · rfl
  · split
    · next hroot =>
      rw [Std.ExtTreeMap.getElem?_erase, if_neg]
      intro hsame
      exact h (by rw [hroot, Std.compare_eq_iff_eq.mp hsame])
    · rfl

omit [Ord ν] [Std.TransOrd ν] [Std.LawfulEqOrd ν] in
theorem isBeneath_self (place : Place ι ν) : place.isBeneath place = true := by
  simp [Place.isBeneath]

omit [Ord ν] [Std.TransOrd ν] [Std.LawfulEqOrd ν] in
theorem ne_of_not_beneath (h : other.isBeneath place = false) :
    other ≠ place := by
  rintro rfl
  rw [isBeneath_self] at h
  cases h

omit [DecidableEq ν] in
theorem lookup_relocate_of_ne (disk : Disk ι ν) {source destination : Place ι ν}
    (hsource : other ≠ source) (hdestination : other ≠ destination) (node : Node) :
    (disk.relocate source destination node).lookup other = disk.lookup other := by
  rw [relocate, lookup_put_of_ne _ hdestination, lookup_erase_of_ne _ hsource]

theorem lookup_relocateFolder (disk : Disk ι ν) {source destination : Place ι ν}
    (hsource : other.isBeneath source = false) (hdestination : other.isBeneath destination = false) :
    (disk.relocateFolder source destination).lookup other = disk.lookup other := by
  have hbeneath : ∀ (root : ι) (front tail : List ν),
      (⟨root, front ++ tail⟩ : Place ι ν).isBeneath ⟨root, front⟩ = true := by
    intro root front tail
    simp [Place.isBeneath]
  have hputs : ∀ (entries : List (List ν × Node)) (start : Disk ι ν),
      (entries.foldl (fun disk entry => disk.put
        ⟨destination.root, destination.path ++ entry.1.drop source.path.length⟩ entry.2)
        start).lookup other = start.lookup other := by
    intro entries
    induction entries with
    | nil => exact fun _ => rfl
    | cons entry rest ih =>
      intro start
      rw [List.foldl_cons, ih, lookup_put_of_ne]
      rintro rfl
      rw [hbeneath] at hdestination
      cases hdestination
  have herases : ∀ (entries : List (List ν × Node)) (start : Disk ι ν),
      (∀ entry ∈ entries, source.path.isPrefixOf entry.1 = true) →
        (entries.foldl (fun disk entry => disk.erase ⟨source.root, entry.1⟩) start).lookup other =
          start.lookup other := by
    intro entries
    induction entries with
    | nil => exact fun _ _ => rfl
    | cons entry rest ih =>
      intro start hprefix
      rw [List.forall_mem_cons] at hprefix
      rw [List.foldl_cons, ih _ hprefix.2, lookup_erase_of_ne]
      rintro rfl
      rw [Place.isBeneath, hprefix.1] at hsource
      simp at hsource
  rw [relocateFolder, hputs, herases]
  intro entry hentry
  exact (List.mem_filter.mp hentry).2

theorem lookup_rename {disk disk' : Disk ι ν} {source destination : Place ι ν}
    (h : disk.rename source destination = .ok ((), disk'))
    (hsource : other.isBeneath source = false) (hdestination : other.isBeneath destination = false) :
    disk'.lookup other = disk.lookup other := by
  have hother := lookup_relocate_of_ne disk (ne_of_not_beneath hsource)
    (ne_of_not_beneath hdestination)
  have hfolder := lookup_relocateFolder disk hsource hdestination
  unfold rename at h
  split at h
  · cases h
  · split at h
    · cases h
    · split at h
      · cases h
      · split at h
        · cases h
        · cases h
          exact hfolder
      · split at h
        · cases h
          rfl
        · split at h
          · cases h
          · split at h
            · cases h
              exact hfolder
            · cases h
      · cases h
      · cases h
      · split at h
        · cases h
          rfl
        · cases h
          exact hother _
      · cases h
        exact hother _

omit [DecidableEq ν] in
theorem lookup_writeFile {disk disk' : Disk ι ν} {bytes : List UInt8}
    (h : disk.writeFile place bytes = .ok ((), disk')) (hother : other ≠ place) :
    disk'.lookup other = disk.lookup other := by
  unfold writeFile at h
  split at h
  · cases h
  · split at h
    · cases h
      exact lookup_put_of_ne _ hother _
    · cases h
      exact lookup_put_of_ne _ hother _
    · cases h
    · cases h

omit [DecidableEq ν] in
theorem lookup_writeTorn (disk : Disk ι ν) (bytes : List UInt8) (progress : ℕ)
    (hother : other ≠ place) :
    (disk.writeTorn place bytes progress).lookup other = disk.lookup other := by
  unfold writeTorn
  split
  · next disk' h => exact lookup_writeFile h hother
  · rfl

end Disk

end FileTree
