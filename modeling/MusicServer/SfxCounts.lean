/-
# Whether the counts agree with the listing

The listings of the files and of the folders stop at the same names, so that the counts of the
listed folders are right.  The record of a single folder counts what is in folders that no path
names, and a folder is said to have subfolders whose paths are too long to be listed; exactly then
the numbers differ (`countsAgree_iff`).

* `walkFiles_eq`, `walkFolders_eq`, `countSupportedFiles_eq`: what the walks come to;
* `filter_below`: what is listed below a folder is what is listed from it.
-/
import MusicServer.SfxListing

namespace MusicServer

namespace Sfx

variable {uuidParses : List Char → Bool}

/-! ## What is to be shown -/

/-- A folder that the names on its way make a path. -/
inductive FolderAt : Option SfxPath → Entries → SfxPath → Entries → Prop
  | here {relative : Option SfxPath} {name : OsName} {inside rest : Entries} {path : SfxPath} :
      childPath relative name = some path →
        FolderAt relative (.folder name inside rest) path inside
  | inside {relative : Option SfxPath} {name : OsName} {inside rest inner : Entries}
      {path deeper : SfxPath} : childPath relative name = some path →
        FolderAt (some path) inside deeper inner →
          FolderAt relative (.folder name inside rest) deeper inner
  | afterLeaf {relative : Option SfxPath} {name : OsName} {kind : Leaf} {rest inner : Entries}
      {path : SfxPath} : FolderAt relative rest path inner →
        FolderAt relative (.leaf name kind rest) path inner
  | afterFolder {relative : Option SfxPath} {name : OsName} {inside rest inner : Entries}
      {path : SfxPath} : FolderAt relative rest path inner →
        FolderAt relative (.folder name inside rest) path inner

def below (path other : SfxPath) : Bool := (path.encoded ++ ['/']).isPrefixOf other.encoded

/-- The numbers of a folder record are those of the listings. -/
def Agrees (files : List SfxFileRecord) (folders : List SfxFolderRecord)
    (record : SfxFolderRecord) : Prop :=
  record.fileCount = (files.filter fun file => below record.path file.path).length ∧
    (record.hasChildren = true ↔ ∃ child ∈ folders, child.path.parent = some record.path)

/-- Wherever both listings are returned: the listed folders have the right numbers, a folder with
files is listed, and so are the numbers of the record of any folder. -/
def CountsAgree (uuidParses : List Char → Bool) (tree : SfxTree) : Prop :=
  ∀ files folders, listAllFiles uuidParses tree = .ok files →
    listAllFolders uuidParses tree = .ok folders →
      (∀ record ∈ folders, Agrees files folders record) ∧
      (∀ file ∈ files, ∀ path, below path file.path = true →
        ∃ record ∈ folders, record.path = path) ∧
      ∀ path inside record, FolderAt none tree.root path inside →
        folderRecord uuidParses path inside = .ok record → Agrees files folders record

/-! ## The condition -/

/-- Every folder on the way of a path can be read. -/
def listable (relative : Option SfxPath) : Entries → Bool
  | .nil => true
  | .leaf name kind rest =>
    !(kind = .unlistable && (childPath relative name).isSome) && listable relative rest
  | .folder name inside rest =>
    (match childPath relative name with
      | none => true
      | some path => listable (some path) inside) && listable relative rest

def readable : Entries → Bool
  | .nil => true
  | .leaf _ kind rest => kind ≠ .unlistable && readable rest
  | .folder _ inside rest => readable inside && readable rest

def folderNames : Entries → List OsName
  | .nil => []
  | .leaf name kind rest =>
    if kind = .unlistable then name :: folderNames rest else folderNames rest
  | .folder name _ rest => name :: folderNames rest

/-- The names on the way to each sound, at any depth. -/
def soundRoutes (uuidParses : List Char → Bool) : Entries → List (List OsName)
  | .nil => []
  | .leaf name kind rest =>
    match kind with
    | .file _ _ =>
      if isCountedName uuidParses name then [name] :: soundRoutes uuidParses rest
      else soundRoutes uuidParses rest
    | _ => soundRoutes uuidParses rest
  | .folder name inside rest =>
    (soundRoutes uuidParses inside).map (name :: ·) ++ soundRoutes uuidParses rest

/-- The path that the names make, if they make one. -/
def routePath (relative : Option SfxPath) : List OsName → Option SfxPath
  | [] => relative
  | name :: names => (childPath relative name).bind fun path => routePath (some path) names

/-- Where the listings are returned, every sound in a listed folder that can be read as a whole has
a path, and a listed folder with a subfolder that has a good name has one that has a path. -/
structure Nameable (uuidParses : List Char → Bool) (tree : SfxTree) : Prop where
  sounds : listable none tree.root = true → ∀ path inside, FolderAt none tree.root path inside →
    readable inside = true → ∀ route ∈ soundRoutes uuidParses inside,
      (routePath (some path) route).isSome
  subfolders : listable none tree.root = true → ∀ path inside,
    FolderAt none tree.root path inside →
      (∃ name ∈ folderNames inside, (childPath none name).isSome) →
        ∃ name ∈ folderNames inside, (childPath (some path) name).isSome

/-! ## Names and paths -/

section Names

variable {relative : Option SfxPath} {name : OsName} {path other : SfxPath} {chars : List Char}

def pathStart : Option SfxPath → List Char
  | none => []
  | some parent => parent.encoded ++ ['/']

theorem pathStart_some : pathStart (some path) = path.encoded ++ ['/'] := rfl

theorem toOption_eq_some {ε α : Type} {x : Except ε α} {a : α} :
    x.toOption = some a ↔ x = .ok a := by
  cases x <;> simp [Except.toOption]

theorem childPath_eq_some : childPath relative name = some path ↔
    ∃ chars plain, name = .text chars plain ∧ path.encoded = pathStart relative ++ chars := by
  cases name with
  | bytes raw => exact ⟨nofun, fun ⟨_, _, h, _⟩ => nomatch h⟩
  | text chars plain =>
    have hname : (∃ chars' plain', OsName.text chars plain = .text chars' plain' ∧
        path.encoded = pathStart relative ++ chars') ↔
          path.encoded = pathStart relative ++ chars := by
      constructor
      · rintro ⟨chars', plain', hsame, h⟩
        obtain rfl := OsName.text.inj hsame
        exact h
      · exact fun h => ⟨chars, plain, rfl, h⟩
    rw [hname]
    cases relative with
    | none =>
      unfold childPath
      rw [toOption_eq_some, LibraryPath.parse_eq_ok]
      rfl
    | some parent =>
      unfold childPath LibraryPath.join
      rw [toOption_eq_some, LibraryPath.parse_eq_ok]
      unfold pathStart
      rw [List.append_assoc, List.singleton_append]

theorem canonical_name {parent : SfxPath} (hplain : '/' ∉ chars)
    (h : path.encoded = pathStart (some parent) ++ chars) : validateText chars = .ok () := by
  have hcanonical := path.canonical
  rw [h] at hcanonical
  unfold pathStart at hcanonical
  rw [List.append_assoc, List.singleton_append, validateText_eq_ok] at hcanonical
  obtain ⟨-, hsize, -, hseparator, hcontrol, hcomponents⟩ := hcanonical
  rw [splitSlash_append, splitSlash_of_not_mem hplain] at hcomponents
  have hgood := hcomponents chars (List.mem_append_right _ List.mem_cons_self)
  rw [validateText_eq_ok, splitSlash_of_not_mem hplain]
  refine ⟨?_, ?_, ?_, ?_, ?_, ?_⟩
  · rintro rfl
    cases hgood
  · rw [String.ofList_append, String.utf8ByteSize_append, String.ofList_cons] at hsize
    rw [String.utf8ByteSize_append] at hsize
    omega
  · intro hslash
    exact hplain (List.mem_of_head? hslash)
  · exact fun hmem => hseparator (List.mem_append_right _ (List.mem_cons_of_mem _ hmem))
  · simp only [List.any_append, List.any_cons, Bool.or_eq_false_iff] at hcontrol
    exact hcontrol.2.2
  · intro component hcomponent
    rw [List.mem_singleton.mp hcomponent]
    exact hgood

theorem parse_isOk_of_childPath {plain : '/' ∉ chars}
    (h : childPath relative (.text chars plain) = some path) : (LibraryPath.parse chars).isOk := by
  obtain ⟨_, _, hsame, hpath⟩ := childPath_eq_some.mp h
  obtain rfl := OsName.text.inj hsame
  have hvalid : validateText chars = .ok () := by
    cases relative with
    | none =>
      have hcanonical := path.canonical
      rw [hpath] at hcanonical
      exact hcanonical
    | some parent => exact canonical_name plain hpath
  have hparse : LibraryPath.parse chars = .ok ⟨chars, hvalid⟩ := LibraryPath.parse_eq_ok.mpr rfl
  rw [hparse]
  rfl

theorem childPath_none_isSome (h : childPath relative name = some path) :
    (childPath none name).isSome := by
  obtain ⟨chars, plain, rfl, -⟩ := childPath_eq_some.mp h
  have hok := parse_isOk_of_childPath h
  unfold childPath
  dsimp only
  cases hparse : LibraryPath.parse chars with
  | error e =>
    rw [hparse] at hok
    cases hok
  | ok found => rfl

theorem fileName_of_childPath {plain : '/' ∉ chars}
    (h : childPath relative (.text chars plain) = some path) : path.fileName = chars := by
  obtain ⟨_, _, hsame, hpath⟩ := childPath_eq_some.mp h
  obtain rfl := OsName.text.inj hsame
  unfold LibraryPath.fileName
  rw [hpath]
  cases relative with
  | none =>
    change ((rsplitOnce '/' chars).map Prod.snd).getD chars = chars
    rw [rsplitOnce_eq_none.mpr plain]
    rfl
  | some parent =>
    unfold pathStart
    rw [List.append_assoc, List.singleton_append, rsplitOnce_append plain]
    rfl

theorem supported_iff_counted (h : childPath relative name = some path) :
    (isSupportedSfxPath path && !isInternalArtifact uuidParses name) =
      isCountedName uuidParses name := by
  obtain ⟨chars, plain, rfl, -⟩ := childPath_eq_some.mp h
  unfold isCountedName isSupportedSfxPath
  rw [fileName_of_childPath h]
  dsimp only
  rw [parse_isOk_of_childPath h, Bool.true_and]

theorem below_iff : below path other = true ↔
    ∃ more, other.encoded = path.encoded ++ '/' :: more := by
  unfold below
  rw [List.isPrefixOf_iff_prefix]
  constructor
  · rintro ⟨more, hmore⟩
    exact ⟨more, by rw [← hmore, List.append_assoc, List.singleton_append]⟩
  · rintro ⟨more, hmore⟩
    exact ⟨more, by rw [hmore, List.append_assoc, List.singleton_append]⟩

theorem parent_eq_some : other.parent = some path ↔
    ∃ chars, '/' ∉ chars ∧ other.encoded = path.encoded ++ '/' :: chars := by
  unfold LibraryPath.parent
  constructor
  · intro h
    split at h
    · next front back hsplit =>
      obtain rfl := Option.some.inj h
      obtain ⟨hencoded, hback⟩ := rsplitOnce_sound hsplit
      exact ⟨back, hback, hencoded⟩
    · cases h
  · rintro ⟨chars, hplain, hencoded⟩
    split
    · next front back hsplit =>
      rw [hencoded, rsplitOnce_append hplain] at hsplit
      obtain ⟨rfl, -⟩ := Prod.mk.inj (Option.some.inj hsplit)
      exact congrArg some (LibraryPath.ext rfl)
    · next hsplit =>
      rw [hencoded, rsplitOnce_append hplain] at hsplit
      cases hsplit

end Names

/-! ## What the walks come to -/

inductive Item where
  | file (sizeBytes : ℕ) (modified : ℤ)
  | folder (inside : Entries)

/-- What is listed, a folder after what is in it. -/
def itemsOf (uuidParses : List Char → Bool) (relative : Option SfxPath) :
    Entries → List (SfxPath × Item)
  | .nil => []
  | .leaf name kind rest =>
    (match childPath relative name, kind with
      | some path, .file sizeBytes modified =>
        if isCountedName uuidParses name then [(path, Item.file sizeBytes modified)] else []
      | _, _ => []) ++ itemsOf uuidParses relative rest
  | .folder name inside rest =>
    (match childPath relative name with
      | none => []
      | some path => itemsOf uuidParses (some path) inside ++ [(path, .folder inside)]) ++
      itemsOf uuidParses relative rest

def toFile : SfxPath × Item → Option SfxFileRecord
  | (path, .file sizeBytes modified) => some (fileRecord path sizeBytes modified)
  | _ => none

@[simp] theorem toFile_file {path : SfxPath} {sizeBytes : ℕ} {modified : ℤ} :
    toFile (path, .file sizeBytes modified) = some (fileRecord path sizeBytes modified) := rfl

@[simp] theorem toFile_folder {path : SfxPath} {inside : Entries} :
    toFile (path, .folder inside) = none := rfl

def filesOf (uuidParses : List Char → Bool) (relative : Option SfxPath) (entries : Entries) :
    List SfxFileRecord :=
  (itemsOf uuidParses relative entries).filterMap toFile

def listedFolder (uuidParses : List Char → Bool) (path : SfxPath) (inside : Entries) :
    SfxFolderRecord :=
  ⟨String.ofList path.fileName, path, (filesOf uuidParses (some path) inside).length,
    hasChildDirectories inside⟩

def toFolder (uuidParses : List Char → Bool) : SfxPath × Item → Option SfxFolderRecord
  | (path, .folder inside) => some (listedFolder uuidParses path inside)
  | _ => none

@[simp] theorem toFolder_file {path : SfxPath} {sizeBytes : ℕ} {modified : ℤ} :
    toFolder uuidParses (path, .file sizeBytes modified) = none := rfl

@[simp] theorem toFolder_folder {path : SfxPath} {inside : Entries} :
    toFolder uuidParses (path, .folder inside) = some (listedFolder uuidParses path inside) := rfl

def foldersOf (uuidParses : List Char → Bool) (relative : Option SfxPath) (entries : Entries) :
    List SfxFolderRecord :=
  (itemsOf uuidParses relative entries).filterMap (toFolder uuidParses)

/-- The entries that a walk sees besides those of the folder itself. -/
def visited (relative : Option SfxPath) : Entries → ℕ
  | .nil => 0
  | .leaf _ _ rest => visited relative rest
  | .folder name inside rest =>
    (match childPath relative name with
      | none => 0
      | some path => inside.length + visited (some path) inside) + visited relative rest

/-- The entries that the count sees besides those of the folder itself. -/
def beneath : Entries → ℕ
  | .nil => 0
  | .leaf _ _ rest => beneath rest
  | .folder _ inside rest => inside.length + beneath inside + beneath rest

theorem length_add_beneath (entries : Entries) :
    entries.length + beneath entries = entries.size := by
  induction entries with
  | nil => rfl
  | leaf name kind rest ih =>
    rw [Entries.length, beneath, Entries.size]
    omega
  | folder name inside rest ihInside ihRest =>
    rw [Entries.length, beneath, Entries.size]
    omega

section Visited

variable {relative : Option SfxPath} {name : OsName} {path : SfxPath}

theorem visited_none (inside rest : Entries) (h : childPath relative name = none) :
    visited relative (.folder name inside rest) = visited relative rest := by
  rw [visited, h, Nat.zero_add]

theorem visited_some (inside rest : Entries) (h : childPath relative name = some path) :
    visited relative (.folder name inside rest) =
      inside.length + visited (some path) inside + visited relative rest := by
  rw [visited, h]

end Visited

theorem visited_le (relative : Option SfxPath) (entries : Entries) :
    visited relative entries ≤ beneath entries := by
  induction entries generalizing relative with
  | nil => exact le_rfl
  | leaf name kind rest ih => exact ih relative
  | folder name inside rest ihInside ihRest =>
    have hrest := ihRest relative
    rw [beneath]
    cases hpath : childPath relative name with
    | none =>
      rw [visited_none inside rest hpath]
      omega
    | some path =>
      have hinside := ihInside (some path)
      rw [visited_some inside rest hpath]
      omega

theorem observe_eq {entries : Entries} {budget : ℕ} (h : budget + entries.length ≤ maxSfxEntries) :
    observe entries budget = .ok (budget + entries.length) := if_neg (not_lt.mpr h)

section Walks

variable {relative : Option SfxPath} {entries : Entries} {budget : ℕ}

theorem walkFiles_eq (h : budget + visited relative entries ≤ maxSfxEntries) :
    walkFiles uuidParses relative entries budget =
      if listable relative entries then
        .ok (filesOf uuidParses relative entries, budget + visited relative entries)
      else .error .safeIo := by
  induction entries generalizing relative budget with
  | nil => rfl
  | leaf name kind rest ih =>
    have hrest := @ih relative budget h
    unfold walkFiles listable filesOf itemsOf visited
    rw [hrest]
    cases hpath : childPath relative name with
    | none => simp [filesOf]
    | some path =>
      cases kind with
      | unlistable => simp
      | symlink => simp [filesOf]
      | special => simp [filesOf]
      | file sizeBytes modified =>
        dsimp only
        rw [supported_iff_counted hpath]
        by_cases hlist : listable relative rest = true
        · by_cases hcounted : isCountedName uuidParses name = true
          · simp [hlist, hcounted, filesOf, bind, Except.bind, pure, Except.pure]
          · simp [hlist, hcounted, filesOf, bind, Except.bind, pure, Except.pure]
        · simp [hlist, bind, Except.bind]
  | folder name inside rest ihInside ihRest =>
    unfold walkFiles listable filesOf itemsOf
    cases hpath : childPath relative name with
    | none =>
      rw [visited_none inside rest hpath] at h ⊢
      dsimp only
      rw [ihRest h]
      simp [filesOf]
    | some path =>
      rw [visited_some inside rest hpath] at h ⊢
      have hinside := @ihInside (some path) (budget + inside.length) (by omega)
      have hrest := @ihRest relative (budget + inside.length + visited (some path) inside)
        (by omega)
      dsimp only
      rw [observe_eq (by omega)]
      simp only [bind, Except.bind, hinside]
      by_cases hlist : listable (some path) inside = true
      · simp only [hlist, if_true, hrest, Bool.true_and]
        by_cases hlist' : listable relative rest = true
        · simp [hlist', filesOf, List.filterMap_cons, pure, Except.pure, Nat.add_assoc]
        · simp [hlist']
      · simp [hlist]

theorem walkFolders_eq (h : budget + visited relative entries ≤ maxSfxEntries) :
    walkFolders uuidParses relative entries budget =
      if listable relative entries then
        .ok (foldersOf uuidParses relative entries, (filesOf uuidParses relative entries).length,
          budget + visited relative entries)
      else .error .safeIo := by
  induction entries generalizing relative budget with
  | nil => rfl
  | leaf name kind rest ih =>
    have hrest := @ih relative budget h
    unfold walkFolders listable foldersOf filesOf itemsOf visited
    rw [hrest]
    cases hpath : childPath relative name with
    | none => simp [foldersOf, filesOf]
    | some path =>
      cases kind with
      | unlistable => simp
      | symlink => simp [foldersOf, filesOf]
      | special => simp [foldersOf, filesOf]
      | file sizeBytes modified =>
        dsimp only
        rw [supported_iff_counted hpath]
        by_cases hlist : listable relative rest = true
        · by_cases hcounted : isCountedName uuidParses name = true
          · simp [hlist, hcounted, foldersOf, filesOf, List.filterMap_cons, bind, Except.bind, pure,
              Except.pure, Nat.add_comm]
          · simp [hlist, hcounted, foldersOf, filesOf, bind, Except.bind, pure, Except.pure]
        · simp [hlist, bind, Except.bind]
  | folder name inside rest ihInside ihRest =>
    unfold walkFolders listable foldersOf filesOf itemsOf
    cases hpath : childPath relative name with
    | none =>
      rw [visited_none inside rest hpath] at h ⊢
      dsimp only
      rw [ihRest h]
      simp [foldersOf, filesOf]
    | some path =>
      rw [visited_some inside rest hpath] at h ⊢
      have hinside := @ihInside (some path) (budget + inside.length) (by omega)
      have hrest := @ihRest relative (budget + inside.length + visited (some path) inside)
        (by omega)
      dsimp only
      rw [observe_eq (by omega)]
      simp only [bind, Except.bind, hinside]
      by_cases hlist : listable (some path) inside = true
      · simp only [hlist, if_true, hrest, Bool.true_and]
        by_cases hlist' : listable relative rest = true
        · simp [hlist', foldersOf, filesOf, listedFolder, List.filterMap_cons, pure,
            Except.pure, Nat.add_assoc]
        · simp [hlist']
      · simp [hlist]

theorem countSupportedFiles_eq (h : budget + beneath entries ≤ maxSfxEntries) :
    countSupportedFiles uuidParses entries budget =
      if readable entries then
        .ok ((soundRoutes uuidParses entries).length, budget + beneath entries)
      else .error .safeIo := by
  induction entries generalizing budget with
  | nil => rfl
  | leaf name kind rest ih =>
    have hrest := @ih budget h
    unfold countSupportedFiles readable soundRoutes beneath
    cases kind with
    | unlistable => simp
    | symlink => simp [hrest]
    | special => simp [hrest]
    | file sizeBytes modified =>
      simp only [hrest]
      by_cases hread : readable rest = true
      · by_cases hcounted : isCountedName uuidParses name = true
        · simp [hread, hcounted, bind, Except.bind, pure, Except.pure, Nat.add_comm]
        · simp [hread, hcounted, bind, Except.bind, pure, Except.pure]
      · simp [hread, bind, Except.bind]
  | folder name inside rest ihInside ihRest =>
    unfold countSupportedFiles readable soundRoutes
    rw [beneath] at h ⊢
    have hinside := @ihInside (budget + inside.length) (by omega)
    have hrest := @ihRest (budget + inside.length + beneath inside) (by omega)
    rw [observe_eq (by omega)]
    simp only [bind, Except.bind, hinside]
    by_cases hread : readable inside = true
    · simp only [hread, if_true, hrest, Bool.true_and]
      by_cases hread' : readable rest = true
      · simp [hread', pure, Except.pure, Nat.add_assoc]
      · simp [hread']
    · simp [hread]

end Walks

section Reports

variable {tree : SfxTree}

theorem listAllFiles_eq (h : tree.root.size ≤ maxSfxEntries) : listAllFiles uuidParses tree =
    if listable none tree.root then .ok (filesOf uuidParses none tree.root)
    else .error .safeIo := by
  have hsize := length_add_beneath tree.root
  have hvisited := visited_le none tree.root
  unfold listAllFiles
  rw [observe_eq (by omega)]
  simp only [bind, Except.bind]
  rw [walkFiles_eq (by omega)]
  by_cases hlist : listable none tree.root = true
  · simp [hlist, pure, Except.pure]
  · simp [hlist]

theorem listAllFolders_eq (h : tree.root.size ≤ maxSfxEntries) : listAllFolders uuidParses tree =
    if listable none tree.root then .ok (foldersOf uuidParses none tree.root)
    else .error .safeIo := by
  have hsize := length_add_beneath tree.root
  have hvisited := visited_le none tree.root
  unfold listAllFolders
  rw [observe_eq (by omega)]
  simp only [bind, Except.bind]
  rw [walkFolders_eq (by omega)]
  by_cases hlist : listable none tree.root = true
  · simp [hlist, pure, Except.pure]
  · simp [hlist]

theorem folderRecord_eq {path : SfxPath} {inside : Entries} (h : inside.size ≤ maxSfxEntries) :
    folderRecord uuidParses path inside =
      if readable inside then
        .ok ⟨String.ofList path.fileName, path, (soundRoutes uuidParses inside).length,
          hasChildDirectories inside⟩
      else .error .safeIo := by
  have hsize := length_add_beneath inside
  unfold folderRecord
  rw [observe_eq (by omega)]
  simp only [bind, Except.bind]
  rw [countSupportedFiles_eq (by omega)]
  by_cases hread : readable inside = true
  · simp [hread, pure, Except.pure]
  · simp [hread]

end Reports

/-! ## What is below a folder -/

section Below

variable {relative : Option SfxPath} {entries inside : Entries} {path other : SfxPath} {item : Item}

/-- A path that goes through an entry of the folder. -/
def Through (relative : Option SfxPath) (chars : List Char) (path : SfxPath) : Prop :=
  ∃ tail, path.encoded = pathStart relative ++ chars ++ tail ∧
    (tail = [] ∨ ∃ more, tail = '/' :: more)

theorem takeWhile_name {chars : List Char} (hplain : '/' ∉ chars) (more : List Char) :
    (chars ++ '/' :: more).takeWhile (· ≠ '/') = chars := by
  rw [List.takeWhile_append_of_pos, List.takeWhile_cons_of_neg (by simp), List.append_nil]
  intro c hc
  exact decide_eq_true fun hslash => hplain (hslash ▸ hc)

theorem Through.name_eq {chars chars' : List Char} (h : Through relative chars path)
    (h' : Through relative chars' other) (hplain : '/' ∉ chars) (hplain' : '/' ∉ chars')
    (hbelow : below path other = true) : chars' = chars := by
  obtain ⟨tail, hpath, htail⟩ := h
  obtain ⟨tail', hother, htail'⟩ := h'
  obtain ⟨more, hmore⟩ := below_iff.mp hbelow
  rw [hmore, hpath, List.append_assoc, List.append_assoc, List.append_assoc] at hother
  have hsame := List.append_cancel_left hother
  obtain ⟨rest, hrest⟩ : ∃ rest, tail ++ '/' :: more = '/' :: rest := by
    rcases htail with rfl | ⟨after, rfl⟩
    · exact ⟨more, rfl⟩
    · exact ⟨after ++ '/' :: more, rfl⟩
  rw [hrest] at hsame
  have hname := takeWhile_name hplain rest
  rw [hsame] at hname
  rcases htail' with rfl | ⟨after, rfl⟩
  · rw [List.append_nil] at hname hsame
    exact absurd (hsame ▸ List.mem_append_right _ List.mem_cons_self) hplain'
  · rwa [takeWhile_name hplain'] at hname

theorem through_child {name : OsName} (h : childPath relative name = some path) :
    ∃ chars plain, name = .text chars plain ∧ Through relative chars path := by
  obtain ⟨chars, plain, rfl, hpath⟩ := childPath_eq_some.mp h
  exact ⟨chars, plain, rfl, [], by rw [hpath, List.append_nil], .inl rfl⟩

theorem Through.deeper {chars chars' : List Char} (h : Through (some path) chars' other)
    (hpath : path.encoded = pathStart relative ++ chars) : Through relative chars other := by
  obtain ⟨tail, hother, -⟩ := h
  refine ⟨'/' :: (chars' ++ tail), ?_, .inr ⟨_, rfl⟩⟩
  rw [hother, pathStart_some, hpath]
  simp only [List.append_assoc, List.cons_append, List.nil_append]

theorem itemsOf_leaf {name : OsName} {kind : Leaf} {rest : Entries} :
    itemsOf uuidParses relative (.leaf name kind rest) = itemsOf uuidParses relative rest ∨
      ∃ own sizeBytes modified, childPath relative name = some own ∧
        itemsOf uuidParses relative (.leaf name kind rest) =
          (own, .file sizeBytes modified) :: itemsOf uuidParses relative rest := by
  cases hpath : childPath relative name with
  | none => exact .inl (by simp [itemsOf, hpath])
  | some own =>
    cases kind with
    | file sizeBytes modified =>
      by_cases hcounted : isCountedName uuidParses name = true
      · exact .inr ⟨own, sizeBytes, modified, rfl, by simp [itemsOf, hpath, hcounted]⟩
      · exact .inl (by simp [itemsOf, hpath, hcounted])
    | symlink => exact .inl (by simp [itemsOf])
    | special => exact .inl (by simp [itemsOf])
    | unlistable => exact .inl (by simp [itemsOf])

theorem itemsOf_folder_none {name : OsName} {rest : Entries} (h : childPath relative name = none) :
    itemsOf uuidParses relative (.folder name inside rest) = itemsOf uuidParses relative rest := by
  rw [itemsOf, h, List.nil_append]

theorem itemsOf_folder {name : OsName} {rest : Entries} (h : childPath relative name = some path) :
    itemsOf uuidParses relative (.folder name inside rest) =
      (itemsOf uuidParses (some path) inside ++ [(path, .folder inside)]) ++
        itemsOf uuidParses relative rest := by
  rw [itemsOf, h]

theorem items_through (h : (other, item) ∈ itemsOf uuidParses relative entries) :
    ∃ chars plain, OsName.text chars plain ∈ entries.names ∧ Through relative chars other := by
  induction entries generalizing relative with
  | nil => cases h
  | leaf name kind rest ih =>
    have hrest : ∀ h : (other, item) ∈ itemsOf uuidParses relative rest, ∃ chars plain,
        OsName.text chars plain ∈ name :: rest.names ∧ Through relative chars other := by
      intro h
      obtain ⟨chars, plain, hmem, hthrough⟩ := ih h
      exact ⟨chars, plain, List.mem_cons_of_mem _ hmem, hthrough⟩
    rcases @itemsOf_leaf uuidParses relative name kind rest with hsame | ⟨own, _, _, hpath, hsame⟩
    · exact hrest (hsame ▸ h)
    · rcases List.mem_cons.mp (hsame ▸ h) with hown | hmem
      · obtain ⟨rfl, -⟩ := Prod.mk.inj hown
        obtain ⟨chars, plain, rfl, hthrough⟩ := through_child hpath
        exact ⟨chars, plain, List.mem_cons_self, hthrough⟩
      · exact hrest hmem
  | folder name inside rest ihInside ihRest =>
    have hrest : ∀ h : (other, item) ∈ itemsOf uuidParses relative rest, ∃ chars plain,
        OsName.text chars plain ∈ name :: rest.names ∧ Through relative chars other := by
      intro h
      obtain ⟨chars, plain, hmem, hthrough⟩ := ihRest h
      exact ⟨chars, plain, List.mem_cons_of_mem _ hmem, hthrough⟩
    cases hpath : childPath relative name with
    | none => exact hrest (itemsOf_folder_none hpath ▸ h)
    | some path =>
      obtain ⟨chars, plain, rfl, hencoded⟩ := childPath_eq_some.mp hpath
      rw [itemsOf_folder hpath] at h
      rcases List.mem_append.mp h with hown | hmem
      · refine ⟨chars, plain, List.mem_cons_self, ?_⟩
        rcases List.mem_append.mp hown with hbelow | hself
        · obtain ⟨chars', _, -, hthrough⟩ := ihInside hbelow
          exact hthrough.deeper hencoded
        · obtain ⟨rfl, -⟩ := Prod.mk.inj (List.mem_singleton.mp hself)
          exact ⟨[], by rw [hencoded, List.append_nil], .inl rfl⟩
      · exact hrest hmem

theorem below_of_items (h : (other, item) ∈ itemsOf uuidParses (some path) entries) :
    below path other = true := by
  obtain ⟨chars, -, -, tail, hother, -⟩ := items_through h
  refine below_iff.mpr ⟨chars ++ tail, ?_⟩
  rw [hother, pathStart_some]
  simp only [List.append_assoc, List.cons_append, List.nil_append]

theorem not_below_of_below (h : below path other = true) : below other path = false := by
  obtain ⟨more, hmore⟩ := below_iff.mp h
  refine Bool.eq_false_iff.mpr fun hback => ?_
  obtain ⟨more', hmore'⟩ := below_iff.mp hback
  have hlength := congrArg List.length hmore
  have hlength' := congrArg List.length hmore'
  simp only [List.length_append, List.length_cons] at hlength hlength'
  omega

theorem not_below_self : below path path = false := by
  refine Bool.eq_false_iff.mpr fun hself => ?_
  rw [not_below_of_below hself] at hself
  cases hself

theorem filter_others {chars : List Char} {plain : '/' ∉ chars} (h : Through relative chars path)
    (hnew : OsName.text chars plain ∉ entries.names) :
    (itemsOf uuidParses relative entries).filter (fun found => below path found.1) = [] := by
  rw [List.filter_eq_nil_iff]
  rintro ⟨other, item⟩ hitem hbelow
  obtain ⟨chars', plain', hmem, hthrough⟩ := items_through hitem
  obtain rfl := h.name_eq hthrough plain plain' hbelow
  exact hnew hmem

theorem filter_below (hdistinct : entries.Distinct)
    (h : (path, .folder inside) ∈ itemsOf uuidParses relative entries) :
    (itemsOf uuidParses relative entries).filter (fun found => below path found.1) =
      itemsOf uuidParses (some path) inside := by
  induction entries generalizing relative with
  | nil => cases h
  | leaf name kind rest ih =>
    obtain ⟨hnew, hdistinct⟩ := hdistinct
    rcases @itemsOf_leaf uuidParses relative name kind rest with hsame | ⟨own, _, _, hpath, hsame⟩
    · rw [hsame] at h ⊢
      exact ih hdistinct h
    · rw [hsame] at h ⊢
      have hrest : (path, Item.folder inside) ∈ itemsOf uuidParses relative rest := by
        rcases List.mem_cons.mp h with hown | hrest
        · cases hown
        · exact hrest
      obtain ⟨chars, plain, hmem, hthrough⟩ := items_through hrest
      obtain ⟨chars', plain', rfl, hthrough'⟩ := through_child hpath
      rw [List.filter_cons_of_neg, ih hdistinct hrest]
      intro hbelow
      obtain rfl := hthrough.name_eq hthrough' plain plain' hbelow
      exact hnew hmem
  | folder name inner rest ihInside ihRest =>
    obtain ⟨hnew, hdistinctInside, hdistinctRest⟩ := hdistinct
    cases hpath : childPath relative name with
    | none =>
      rw [itemsOf_folder_none hpath] at h ⊢
      exact ihRest hdistinctRest h
    | some own =>
      rw [itemsOf_folder hpath] at h ⊢
      obtain ⟨chars, plain, rfl, hencoded⟩ := childPath_eq_some.mp hpath
      rw [List.filter_append, List.filter_append]
      rcases List.mem_append.mp h with hfirst | hrest
      · have hothers : Through relative chars path →
            (itemsOf uuidParses relative rest).filter (fun found => below path found.1) = [] :=
          fun hthrough => @filter_others uuidParses relative rest path chars plain hthrough hnew
        rcases List.mem_append.mp hfirst with hbelow | hself
        · have hdeep := below_of_items hbelow
          obtain ⟨chars', _, -, hthrough⟩ := items_through hbelow
          rw [ihInside hdistinctInside hbelow, hothers (hthrough.deeper hencoded),
            List.filter_cons_of_neg (by simp [not_below_of_below hdeep]), List.filter_nil,
            List.append_nil, List.append_nil]
        · obtain ⟨rfl, hsame⟩ := Prod.mk.inj (List.mem_singleton.mp hself)
          obtain rfl := Item.folder.inj hsame
          rw [hothers ⟨[], by rw [hencoded, List.append_nil], .inl rfl⟩,
            List.filter_cons_of_neg (by simp [not_below_self]), List.filter_nil, List.append_nil,
            List.append_nil, List.filter_eq_self]
          exact fun found hfound => below_of_items hfound
      · obtain ⟨chars', plain', hmem, hthrough⟩ := items_through hrest
        have hout : ∀ found : SfxPath × Item, Through relative chars found.1 →
            ¬ below path found.1 = true := by
          intro found hfound hbelow
          obtain rfl := hthrough.name_eq hfound plain' plain hbelow
          exact hnew hmem
        rw [ihRest hdistinctRest hrest]
        refine (congrArg (· ++ _) ?_).trans (List.nil_append _)
        rw [List.append_eq_nil_iff, List.filter_eq_nil_iff, List.filter_eq_nil_iff]
        refine ⟨fun found hfound => hout found ?_, fun found hfound => hout found ?_⟩
        · obtain ⟨_, _, -, hfoundThrough⟩ := items_through hfound
          exact hfoundThrough.deeper hencoded
        · rw [List.mem_singleton.mp hfound]
          exact ⟨[], by rw [hencoded, List.append_nil], .inl rfl⟩

end Below

/-! ## Folders and their counts -/

section Counts

variable {relative : Option SfxPath} {entries inside : Entries} {path other : SfxPath} {item : Item}

theorem folderAt_iff :
    FolderAt relative entries path inside ↔
      (path, .folder inside) ∈ itemsOf uuidParses relative entries := by
  constructor
  · intro h
    induction h with
    | here hpath =>
      rw [itemsOf_folder hpath]
      exact List.mem_append_left _ (List.mem_append_right _ List.mem_cons_self)
    | inside hpath _ ih =>
      rw [itemsOf_folder hpath]
      exact List.mem_append_left _ (List.mem_append_left _ ih)
    | afterLeaf _ ih => exact List.mem_append_right _ ih
    | afterFolder _ ih => exact List.mem_append_right _ ih
  · intro h
    induction entries generalizing relative with
    | nil => cases h
    | leaf name kind rest ih =>
      rcases @itemsOf_leaf uuidParses relative name kind rest with hsame | ⟨own, _, _, _, hsame⟩
      · exact .afterLeaf (ih (hsame ▸ h))
      · rcases List.mem_cons.mp (hsame ▸ h) with hown | hrest
        · cases hown
        · exact .afterLeaf (ih hrest)
    | folder name inner rest ihInside ihRest =>
      cases hpath : childPath relative name with
      | none => exact .afterFolder (ihRest (itemsOf_folder_none hpath ▸ h))
      | some own =>
        rw [itemsOf_folder hpath] at h
        rcases List.mem_append.mp h with hfirst | hrest
        · rcases List.mem_append.mp hfirst with hbelow | hself
          · exact .inside hpath (ihInside hbelow)
          · obtain ⟨rfl, hsame⟩ := Prod.mk.inj (List.mem_singleton.mp hself)
            obtain rfl := Item.folder.inj hsame
            exact .here hpath
        · exact .afterFolder (ihRest hrest)

theorem mem_foldersOf {record : SfxFolderRecord} :
    record ∈ foldersOf uuidParses relative entries ↔
      ∃ path inside, FolderAt relative entries path inside ∧
        record = listedFolder uuidParses path inside := by
  unfold foldersOf
  rw [List.mem_filterMap]
  constructor
  · rintro ⟨⟨path, item⟩, hitem, hrecord⟩
    cases item with
    | file sizeBytes modified => cases hrecord
    | folder inside => exact ⟨path, inside, folderAt_iff.mpr hitem, (Option.some.inj hrecord).symm⟩
  · rintro ⟨path, inside, hat, rfl⟩
    exact ⟨_, folderAt_iff.mp hat, rfl⟩

theorem filter_files (hdistinct : entries.Distinct) (h : FolderAt relative entries path inside) :
    (filesOf uuidParses relative entries).filter (fun file => below path file.path) =
      filesOf uuidParses (some path) inside := by
  have hkept := filter_below hdistinct (@folderAt_iff uuidParses _ _ _ _ |>.mp h)
  unfold filesOf
  rw [← hkept, List.filter_filterMap, List.filterMap_filter]
  refine List.filterMap_congr fun found _ => ?_
  obtain ⟨other, item⟩ := found
  cases item with
  | folder inner => simp
  | file sizeBytes modified =>
    by_cases hbelow : below path other = true <;> simp [hbelow, fileRecord]

theorem length_filesOf : (filesOf uuidParses relative entries).length =
    ((soundRoutes uuidParses entries).filter fun route =>
      (routePath relative route).isSome).length := by
  induction entries generalizing relative with
  | nil => rfl
  | leaf name kind rest ih =>
    have hrest := @ih relative
    unfold filesOf at hrest
    unfold filesOf itemsOf soundRoutes
    cases kind with
    | symlink => simpa using hrest
    | special => simpa using hrest
    | unlistable => simpa using hrest
    | file sizeBytes modified =>
      cases hpath : childPath relative name with
      | none =>
        by_cases hcounted : isCountedName uuidParses name = true
        · simpa [hcounted, routePath, hpath] using hrest
        · simpa [hcounted] using hrest
      | some own =>
        by_cases hcounted : isCountedName uuidParses name = true
        · simpa [hcounted, routePath, hpath] using hrest
        · simpa [hcounted] using hrest
  | folder name inside rest ihInside ihRest =>
    have hrest := @ihRest relative
    unfold soundRoutes
    rw [List.filter_append, List.length_append, ← hrest, List.filter_map, List.length_map]
    cases hpath : childPath relative name with
    | none =>
      unfold filesOf
      rw [itemsOf_folder_none hpath]
      simp [Function.comp_def, routePath, hpath]
    | some own =>
      have hinside := @ihInside (some own)
      unfold filesOf at hinside ⊢
      rw [itemsOf_folder hpath]
      simp [Function.comp_def, routePath, hpath, hinside, List.filterMap_cons]

theorem filter_folders (hdistinct : entries.Distinct) (h : FolderAt relative entries path inside) :
    (foldersOf uuidParses relative entries).filter (fun folder => below path folder.path) =
      foldersOf uuidParses (some path) inside := by
  have hkept := filter_below hdistinct (@folderAt_iff uuidParses _ _ _ _ |>.mp h)
  unfold foldersOf
  rw [← hkept, List.filter_filterMap, List.filterMap_filter]
  refine List.filterMap_congr fun found _ => ?_
  obtain ⟨other, item⟩ := found
  cases item with
  | file sizeBytes modified => simp
  | folder inner => by_cases hbelow : below path other = true <;> simp [hbelow, listedFolder]

theorem hasChildDirectories_iff : hasChildDirectories inside = true ↔
    ∃ name ∈ folderNames inside, (childPath none name).isSome := by
  induction inside with
  | nil => simp [hasChildDirectories, folderNames]
  | leaf name kind rest ih =>
    unfold hasChildDirectories folderNames
    rw [Bool.or_eq_true, ih]
    by_cases hkind : kind = .unlistable <;> simp [hkind]
  | folder name inner rest _ ihRest =>
    unfold hasChildDirectories folderNames
    rw [Bool.or_eq_true, ihRest]
    simp

theorem FolderAt.subfolder (h : FolderAt relative entries path inside) :
    ∃ name ∈ folderNames entries, (childPath relative name).isSome := by
  induction h with
  | here hpath => exact ⟨_, List.mem_cons_self, by rw [hpath]; rfl⟩
  | inside hpath _ _ => exact ⟨_, List.mem_cons_self, by rw [hpath]; rfl⟩
  | afterLeaf _ ih =>
    obtain ⟨name, hmem, hname⟩ := ih
    refine ⟨name, ?_, hname⟩
    unfold folderNames
    split
    · exact List.mem_cons_of_mem _ hmem
    · exact hmem
  | afterFolder _ ih =>
    obtain ⟨name, hmem, hname⟩ := ih
    exact ⟨name, List.mem_cons_of_mem _ hmem, hname⟩

theorem exists_folderAt {name : OsName} (hlist : listable relative entries = true)
    (hmem : name ∈ folderNames entries) (hpath : childPath relative name = some path) :
    ∃ inside, FolderAt relative entries path inside := by
  induction entries with
  | nil => cases hmem
  | leaf own kind rest ih =>
    unfold listable at hlist
    obtain ⟨hown, hrest⟩ := Bool.and_eq_true_iff.mp hlist
    unfold folderNames at hmem
    have hafter : name ∈ folderNames rest := by
      split at hmem
      · next hkind =>
        rcases List.mem_cons.mp hmem with rfl | hmem
        · simp [hkind, hpath] at hown
        · exact hmem
      · exact hmem
    obtain ⟨inside, hat⟩ := ih hrest hafter
    exact ⟨inside, .afterLeaf hat⟩
  | folder own inner rest _ ihRest =>
    unfold listable at hlist
    obtain ⟨-, hrest⟩ := Bool.and_eq_true_iff.mp hlist
    rcases List.mem_cons.mp hmem with rfl | hmem
    · exact ⟨inner, .here hpath⟩
    · obtain ⟨inside, hat⟩ := ihRest hrest hmem
      exact ⟨inside, .afterFolder hat⟩

theorem FolderAt.listable (h : FolderAt relative entries path inside)
    (hlist : listable relative entries = true) : listable (some path) inside = true := by
  induction h with
  | here hpath =>
    unfold Sfx.listable at hlist
    rw [hpath] at hlist
    exact (Bool.and_eq_true_iff.mp hlist).1
  | inside hpath _ ih =>
    unfold Sfx.listable at hlist
    rw [hpath] at hlist
    exact ih (Bool.and_eq_true_iff.mp hlist).1
  | afterLeaf _ ih =>
    unfold Sfx.listable at hlist
    exact ih (Bool.and_eq_true_iff.mp hlist).2
  | afterFolder _ ih =>
    unfold Sfx.listable at hlist
    exact ih (Bool.and_eq_true_iff.mp hlist).2

theorem FolderAt.size_lt (h : FolderAt relative entries path inside) :
    inside.size < entries.size := by
  induction h with
  | here _ =>
    rw [Entries.size]
    omega
  | inside _ _ ih =>
    rw [Entries.size]
    omega
  | afterLeaf _ ih =>
    rw [Entries.size]
    omega
  | afterFolder _ ih =>
    rw [Entries.size]
    omega

theorem not_child_of_below {front : List Char} (hfront : path.encoded = pathStart relative ++ front)
    (hbelow : below path other = true) (name : OsName) : childPath relative name ≠ some other := by
  intro hpath
  obtain ⟨chars, plain, -, hencoded⟩ := childPath_eq_some.mp hpath
  obtain ⟨more, hmore⟩ := below_iff.mp hbelow
  rw [hmore, hfront, List.append_assoc] at hencoded
  exact plain (List.append_cancel_left hencoded ▸ List.mem_append_right _ List.mem_cons_self)

theorem on_way {own : SfxPath} {chars front : List Char} (plain : '/' ∉ chars)
    (hown : own.encoded = pathStart relative ++ chars) (hdeep : below own other = true)
    (hfront : path.encoded = pathStart relative ++ front) (hbelow : below path other = true) :
    path = own ∨ ∃ after, path.encoded = pathStart (some own) ++ after := by
  obtain ⟨more, hmore⟩ := below_iff.mp hbelow
  obtain ⟨rest, hrest⟩ := below_iff.mp hdeep
  rw [hmore, hfront, hown, List.append_assoc, List.append_assoc] at hrest
  rcases List.append_eq_append_iff.mp (List.append_cancel_left hrest) with
    ⟨gap, hchars, htail⟩ | ⟨gap, hchars, htail⟩
  · cases gap with
    | nil =>
      rw [List.append_nil] at hchars
      exact .inl (LibraryPath.ext (by rw [hfront, hown, hchars]))
    | cons c gap =>
      obtain ⟨rfl, -⟩ := List.cons.inj htail
      exact absurd (hchars ▸ List.mem_append_right _ List.mem_cons_self) plain
  · cases gap with
    | nil =>
      rw [List.append_nil] at hchars
      exact .inl (LibraryPath.ext (by rw [hfront, hown, hchars]))
    | cons c gap =>
      obtain ⟨rfl, -⟩ := List.cons.inj htail
      refine .inr ⟨gap, ?_⟩
      rw [hfront, pathStart_some, hown, hchars]
      simp only [List.append_assoc, List.cons_append, List.nil_append]

theorem exists_ancestor {front : List Char}
    (h : (other, item) ∈ itemsOf uuidParses relative entries)
    (hfront : path.encoded = pathStart relative ++ front) (hbelow : below path other = true) :
    ∃ inside, FolderAt relative entries path inside := by
  induction entries generalizing relative front with
  | nil => cases h
  | leaf name kind rest ih =>
    have hrest : (other, item) ∈ itemsOf uuidParses relative rest := by
      rcases @itemsOf_leaf uuidParses relative name kind rest with hsame | ⟨own, _, _, hpath, hsame⟩
      · exact hsame ▸ h
      · rcases List.mem_cons.mp (hsame ▸ h) with hself | hrest
        · obtain ⟨rfl, -⟩ := Prod.mk.inj hself
          exact absurd hpath (not_child_of_below hfront hbelow name)
        · exact hrest
    obtain ⟨inside, hat⟩ := ih hrest hfront
    exact ⟨inside, .afterLeaf hat⟩
  | folder name inner rest ihInside ihRest =>
    have hrest : (other, item) ∈ itemsOf uuidParses relative rest →
        ∃ inside, FolderAt relative (.folder name inner rest) path inside := by
      intro hmem
      obtain ⟨inside, hat⟩ := ihRest hmem hfront
      exact ⟨inside, .afterFolder hat⟩
    cases hpath : childPath relative name with
    | none => exact hrest (itemsOf_folder_none hpath ▸ h)
    | some own =>
      rw [itemsOf_folder hpath] at h
      rcases List.mem_append.mp h with hfirst | hmem
      · rcases List.mem_append.mp hfirst with hdeep | hself
        · obtain ⟨chars, plain, -, hown⟩ := childPath_eq_some.mp hpath
          rcases on_way plain hown (below_of_items hdeep) hfront hbelow with rfl | ⟨after, hafter⟩
          · exact ⟨inner, .here hpath⟩
          · obtain ⟨inside, hat⟩ := ihInside hdeep hafter
            exact ⟨inside, .inside hpath hat⟩
        · obtain ⟨rfl, -⟩ := Prod.mk.inj (List.mem_singleton.mp hself)
          exact absurd hpath (not_child_of_below hfront hbelow name)
      · exact hrest hmem

end Counts

/-! ## The counts -/

section Agreement

variable {tree : SfxTree} {path : SfxPath} {inside : Entries}

theorem children_iff (hlist : listable none tree.root = true)
    (h : FolderAt none tree.root path inside) :
    (∃ child ∈ foldersOf uuidParses none tree.root, child.path.parent = some path) ↔
      ∃ name ∈ folderNames inside, (childPath (some path) name).isSome := by
  have hkept := @filter_folders uuidParses none tree.root inside path tree.distinct h
  constructor
  · rintro ⟨child, hchild, hparent⟩
    obtain ⟨chars, -, hencoded⟩ := parent_eq_some.mp hparent
    have hmem : child ∈ foldersOf uuidParses (some path) inside := by
      rw [← hkept]
      exact List.mem_filter.mpr ⟨hchild, below_iff.mpr ⟨chars, hencoded⟩⟩
    obtain ⟨_, _, hat, -⟩ := mem_foldersOf.mp hmem
    exact hat.subfolder
  · rintro ⟨name, hname, hsome⟩
    obtain ⟨own, hpath⟩ := Option.isSome_iff_exists.mp hsome
    obtain ⟨inner, hat⟩ := exists_folderAt (h.listable hlist) hname hpath
    have hmem : listedFolder uuidParses own inner ∈ foldersOf uuidParses (some path) inside :=
      mem_foldersOf.mpr ⟨own, inner, hat, rfl⟩
    rw [← hkept] at hmem
    refine ⟨_, (List.mem_filter.mp hmem).1, ?_⟩
    obtain ⟨chars, plain, -, hencoded⟩ := childPath_eq_some.mp hpath
    refine parent_eq_some.mpr ⟨chars, plain, ?_⟩
    change own.encoded = _
    rw [hencoded, pathStart_some, List.append_assoc, List.singleton_append]

theorem agrees_iff {record : SfxFolderRecord} (hlist : listable none tree.root = true)
    (h : FolderAt none tree.root record.path inside)
    (hchildren : record.hasChildren = hasChildDirectories inside) :
    Agrees (filesOf uuidParses none tree.root) (foldersOf uuidParses none tree.root) record ↔
      record.fileCount = (filesOf uuidParses (some record.path) inside).length ∧
        ((∃ name ∈ folderNames inside, (childPath none name).isSome) ↔
          ∃ name ∈ folderNames inside, (childPath (some record.path) name).isSome) := by
  unfold Agrees
  rw [filter_files tree.distinct h, children_iff hlist h, hchildren, hasChildDirectories_iff]

theorem subfolders_iff : ((∃ name ∈ folderNames inside, (childPath none name).isSome) ↔
      ∃ name ∈ folderNames inside, (childPath (some path) name).isSome) ↔
    ((∃ name ∈ folderNames inside, (childPath none name).isSome) →
      ∃ name ∈ folderNames inside, (childPath (some path) name).isSome) := by
  refine ⟨fun h => h.mp, fun h => ⟨h, ?_⟩⟩
  rintro ⟨name, hmem, hsome⟩
  obtain ⟨own, hpath⟩ := Option.isSome_iff_exists.mp hsome
  exact ⟨name, hmem, childPath_none_isSome hpath⟩

theorem length_soundRoutes_iff :
    (soundRoutes uuidParses inside).length = (filesOf uuidParses (some path) inside).length ↔
      ∀ route ∈ soundRoutes uuidParses inside, (routePath (some path) route).isSome := by
  rw [length_filesOf, eq_comm, List.length_filter_eq_length_iff]

/-- The counts agree with the listings exactly where what is counted has a path. -/
theorem countsAgree_iff (h : tree.root.size ≤ maxSfxEntries) :
    CountsAgree uuidParses tree ↔ Nameable uuidParses tree := by
  constructor
  · intro hagree
    have hrecord : ∀ hlist : listable none tree.root = true, _ := fun hlist =>
      hagree _ _ ((listAllFiles_eq h).trans (if_pos hlist))
        ((listAllFolders_eq h).trans (if_pos hlist))
    constructor
    · intro hlist path inside hat hread
      have hfolder := @folderRecord_eq uuidParses path inside (hat.size_lt.le.trans h)
      rw [if_pos hread] at hfolder
      have hsame := (hrecord hlist).2.2 path inside _ hat hfolder
      exact length_soundRoutes_iff.mp ((agrees_iff hlist hat rfl).mp hsame).1
    · intro hlist path inside hat
      have hsame := (hrecord hlist).1 _ (mem_foldersOf.mpr ⟨path, inside, hat, rfl⟩)
      exact ((agrees_iff hlist hat rfl).mp hsame).2.mp
  · intro hname files folders hfiles hfolders
    rw [listAllFiles_eq h] at hfiles
    rw [listAllFolders_eq h] at hfolders
    split at hfiles
    · next hlist =>
      rw [if_pos hlist] at hfolders
      obtain rfl := Except.ok.inj hfiles
      obtain rfl := Except.ok.inj hfolders
      refine ⟨fun record hrecord => ?_, fun file hfile path hbelow => ?_, ?_⟩
      · obtain ⟨path, inside, hat, rfl⟩ := mem_foldersOf.mp hrecord
        exact (agrees_iff hlist hat rfl).mpr
          ⟨rfl, subfolders_iff.mpr (hname.subfolders hlist path inside hat)⟩
      · obtain ⟨⟨other, item⟩, hitem, hfileOf⟩ := List.mem_filterMap.mp hfile
        cases item with
        | folder inner => cases hfileOf
        | file sizeBytes modified =>
          obtain rfl := Option.some.inj hfileOf
          obtain ⟨inside, hat⟩ := exists_ancestor hitem (List.nil_append _).symm hbelow
          exact ⟨_, mem_foldersOf.mpr ⟨path, inside, hat, rfl⟩, rfl⟩
      · intro path inside record hat hrecord
        rw [folderRecord_eq (hat.size_lt.le.trans h)] at hrecord
        split at hrecord
        · next hread =>
          obtain rfl := Except.ok.inj hrecord
          refine (agrees_iff hlist hat rfl).mpr ⟨?_, ?_⟩
          · exact length_soundRoutes_iff.mpr (hname.sounds hlist path inside hat hread)
          · exact subfolders_iff.mpr (hname.subfolders hlist path inside hat)
        · cases hrecord
    · cases hfiles

end Agreement

/-! ## A folder without a path -/

/-- A folder of cues, with a folder in it that holds one sound. -/
def cuesTree (name : List Char) (plain : '/' ∉ name) : SfxTree where
  root := .folder (.text "cues".toList (by decide))
    (.folder (.text name plain) (.leaf (.text "x.wav".toList (by decide)) (.file 1 0) .nil)
      .nil) .nil
  distinct := ⟨List.not_mem_nil, ⟨List.not_mem_nil, ⟨List.not_mem_nil, trivial⟩, trivial⟩, trivial⟩

theorem countsAgree_iff_cues :
    CountsAgree (fun _ => false) (cuesTree "bells".toList (by decide)) ↔
      Nameable (fun _ => false) (cuesTree "bells".toList (by decide)) :=
  countsAgree_iff (by decide)

def cues : SfxPath := ⟨"cues".toList, by decide⟩

/-- A sound in a folder with a backslash in its name is counted and not listed. -/
theorem backslash_counted :
    ¬ CountsAgree (fun _ => false) (cuesTree "old\\bells".toList (by decide)) := by
  intro h
  have hfiles : listAllFiles (fun _ => false) (cuesTree "old\\bells".toList (by decide)) =
      .ok [] := by
    rfl
  have hfolders : listAllFolders (fun _ => false) (cuesTree "old\\bells".toList (by decide)) =
      .ok [⟨"cues", cues, 0, false⟩] := by
    rfl
  have hrecord : folderRecord (fun _ => false) cues (.folder (.text "old\\bells".toList (by decide))
      (.leaf (.text "x.wav".toList (by decide)) (.file 1 0) .nil) .nil) =
        .ok ⟨"cues", cues, 1, false⟩ := by
    rfl
  have hagree := (h _ _ hfiles hfolders).2.2 _ _ _ (.here rfl) hrecord
  cases hagree.1

end Sfx

end MusicServer
