/-
# Listing the sound effects

`sfx.rs` walks the tree of the sound effects in four ways: for the files, for the folders with
their counts, for the count in the record of one folder, and for its subfolders.  A walk goes on
where a name makes a path; the count looks at the bare name of a file only and goes into every
folder.
-/
import MusicServer.SfxCoordinator

namespace MusicServer

namespace Sfx

/-! ## Trees -/

/-- The name of an entry; not every name is a text. -/
inductive OsName where
  | text (chars : List Char) (plain : '/' ∉ chars)
  | bytes (raw : List UInt8)
  deriving DecidableEq

/-- An entry that holds no entries that can be read. -/
inductive Leaf where
  | file (sizeBytes : ℕ) (modifiedAtUnixSeconds : ℤ)
  | symlink
  | special
  | unlistable
  deriving DecidableEq

/-- What a folder holds, in the order of `sorted_entries`. -/
inductive Entries where
  | nil
  | leaf (name : OsName) (kind : Leaf) (rest : Entries)
  | folder (name : OsName) (inside rest : Entries)

namespace Entries

def names : Entries → List OsName
  | nil => []
  | leaf name _ rest => name :: rest.names
  | folder name _ rest => name :: rest.names

def length : Entries → ℕ
  | nil => 0
  | leaf _ _ rest => rest.length + 1
  | folder _ _ rest => rest.length + 1

def size : Entries → ℕ
  | nil => 0
  | leaf _ _ rest => rest.size + 1
  | folder _ inside rest => inside.size + rest.size + 1

def Distinct : Entries → Prop
  | nil => True
  | leaf name _ rest => name ∉ rest.names ∧ rest.Distinct
  | folder name inside rest => name ∉ rest.names ∧ inside.Distinct ∧ rest.Distinct

end Entries

structure SfxTree where
  root : Entries
  distinct : root.Distinct

/-! ## Names -/

inductive FilesystemSfxError where
  | capacityExceeded
  | safeIo
  deriving DecidableEq

def maxSfxEntries : ℕ := 100000

def sfxExtensions : List String := ["aac", "flac", "m4a", "mp3", "ogg", "opus", "wav"]

def extensionOf (name : List Char) : Option (List Char) :=
  (rsplitOnce '.' name).bind fun (front, back) => if front = [] then none else some back

/-- The ending of a name is one of the extensions, in any case. -/
def hasSfxExtension (name : List Char) : Bool :=
  (extensionOf name).any fun extension => sfxExtensions.any fun supported =>
    extension.map Char.toLower = supported.toList

def isSupportedSfxPath (path : SfxPath) : Bool := hasSfxExtension path.fileName

def childPath (relative : Option SfxPath) : OsName → Option SfxPath
  | .bytes _ => none
  | .text chars _ =>
    match relative with
    | none => (LibraryPath.parse chars).toOption
    | some parent => (parent.join chars).toOption

def stripPrefix (start text : List Char) : Option (List Char) :=
  if start.isPrefixOf text then some (text.drop start.length) else none

def stripSuffix (suffix text : List Char) : Option (List Char) :=
  if suffix.isSuffixOf text then some (text.take (text.length - suffix.length)) else none

variable (uuidParses : List Char → Bool)

/-- A stage or a backup of an upload, by its name; `uuidParses` is `Uuid::parse_str`. -/
def isInternalArtifact : OsName → Bool
  | .bytes _ => false
  | .text chars _ =>
    match (stripPrefix ".sfx-upload-".toList chars).bind (stripSuffix ".partial".toList) with
    | some id => uuidParses id
    | none =>
      match stripSuffix ".sfx-upload-backup".toList chars with
      | none => false
      | some front => (rsplitOnce '.' front).any fun (_, id) => uuidParses id

/-! ## Walks -/

/-- Every entry that is seen counts against the budget. -/
def observe (entries : Entries) (budget : ℕ) : Except FilesystemSfxError ℕ :=
  if maxSfxEntries < budget + entries.length then .error .capacityExceeded
  else .ok (budget + entries.length)

def fileRecord (path : SfxPath) (sizeBytes : ℕ) (modified : ℤ) : SfxFileRecord :=
  ⟨String.ofList path.fileName, path, sizeBytes, modified⟩

/-- The loop over the entries of a folder, which have been observed. -/
def walkFiles (relative : Option SfxPath) :
    Entries → ℕ → Except FilesystemSfxError (List SfxFileRecord × ℕ)
  | .nil, budget => .ok ([], budget)
  | .leaf name kind rest, budget =>
    match childPath relative name, kind with
    | some path, .file sizeBytes modified => do
      let (files, budget) ← walkFiles relative rest budget
      if isSupportedSfxPath path && !isInternalArtifact uuidParses name then
        return (fileRecord path sizeBytes modified :: files, budget)
      else return (files, budget)
    | some _, .unlistable => .error .safeIo
    | _, _ => walkFiles relative rest budget
  | .folder name inside rest, budget =>
    match childPath relative name with
    | none => walkFiles relative rest budget
    | some path => do
      let budget ← observe inside budget
      let (below, budget) ← walkFiles (some path) inside budget
      let (files, budget) ← walkFiles relative rest budget
      return (below ++ files, budget)

/-- A folder with a name that is a path of its own. -/
def hasChildDirectories : Entries → Bool
  | .nil => false
  | .leaf name kind rest =>
    (kind = .unlistable && (childPath none name).isSome) || hasChildDirectories rest
  | .folder name _ rest => (childPath none name).isSome || hasChildDirectories rest

/-- The folders, and the files counted in them. -/
def walkFolders (relative : Option SfxPath) :
    Entries → ℕ → Except FilesystemSfxError (List SfxFolderRecord × ℕ × ℕ)
  | .nil, budget => .ok ([], 0, budget)
  | .leaf name kind rest, budget =>
    match childPath relative name, kind with
    | some path, .file _ _ => do
      let (folders, total, budget) ← walkFolders relative rest budget
      if isSupportedSfxPath path && !isInternalArtifact uuidParses name then
        return (folders, 1 + total, budget)
      else return (folders, total, budget)
    | some _, .unlistable => .error .safeIo
    | _, _ => walkFolders relative rest budget
  | .folder name inside rest, budget =>
    match childPath relative name with
    | none => walkFolders relative rest budget
    | some path => do
      let budget ← observe inside budget
      let (below, count, budget) ← walkFolders (some path) inside budget
      let (folders, total, budget) ← walkFolders relative rest budget
      return (below ++ ⟨String.ofList path.fileName, path, count, hasChildDirectories inside⟩ ::
        folders, count + total, budget)

/-- A file with a name that is a path of its own, with one of the extensions. -/
def isCountedName (name : OsName) : Bool :=
  match name with
  | .bytes _ => false
  | .text chars _ => (LibraryPath.parse chars).isOk && hasSfxExtension chars &&
      !isInternalArtifact uuidParses name

def countSupportedFiles : Entries → ℕ → Except FilesystemSfxError (ℕ × ℕ)
  | .nil, budget => .ok (0, budget)
  | .leaf name kind rest, budget =>
    match kind with
    | .file _ _ => do
      let (total, budget) ← countSupportedFiles rest budget
      return (if isCountedName uuidParses name then 1 + total else total, budget)
    | .unlistable => .error .safeIo
    | _ => countSupportedFiles rest budget
  | .folder _ inside rest, budget => do
    let budget ← observe inside budget
    let (count, budget) ← countSupportedFiles inside budget
    let (total, budget) ← countSupportedFiles rest budget
    return (count + total, budget)

/-! ## What is reported -/

def listAllFiles (tree : SfxTree) : Except FilesystemSfxError (List SfxFileRecord) := do
  let budget ← observe tree.root 0
  let (files, _) ← walkFiles uuidParses none tree.root budget
  return files

def listAllFolders (tree : SfxTree) : Except FilesystemSfxError (List SfxFolderRecord) := do
  let budget ← observe tree.root 0
  let (folders, _, _) ← walkFolders uuidParses none tree.root budget
  return folders

/-- The record that creating and renaming a folder end with. -/
def folderRecord (path : SfxPath) (inside : Entries) :
    Except FilesystemSfxError SfxFolderRecord := do
  let budget ← observe inside 0
  let (count, _) ← countSupportedFiles uuidParses inside budget
  return ⟨String.ofList path.fileName, path, count, hasChildDirectories inside⟩

end Sfx

end MusicServer
