/-
# The folder names that a cleanup suggests

A folder is given its disc or part number, a tidied name, or a name rebuilt from the tags of its
tracks.  A suggestion whose folded path is that of a folder, or of an earlier suggestion, is left
out, unless it changes the case of its own folder only.  The main result, `distinct_iff`, says
when the suggestions that are kept have targets that differ and are free: exactly where those
that change the case only do.

* `analyzeCleanupFolders_spec`: which suggestions are kept;
* `case_variants_meet`: two folders that differ in case can be given one name.
-/
import MusicServer.CleanupRuns

namespace MusicServer

namespace Cleanup

open Enrichment LibraryIndex

structure CleanupFolderSuggestion where
  path : List Char
  old : List Char
  new : List Char
  rules : List String
  confidence : CleanupConfidence
  deriving DecidableEq

variable (tables : CleanupTables)

/-! ## Names of folders -/

def sanitizeLeaf (name : List Char) : List Char :=
  (trimMatches edgeChars (Cleanup.collapse
    (name.map fun c => if c = '/' ∨ c = '\\' then '-' else c))).take 120

def partFolderPattern : String := r"(?i)^(?:pt|part)[\s._-]*(\d{1,3})$"

def pureNumberPattern : String := r"^\d+$"

/-- The name of a numbered disc or part, and the rule that gives it. -/
def discPartCanonical (name : List Char) : Option (List Char × String) :=
  let name := trimChars name
  match cleanupDiscFolderNumber (String.ofList name) with
  | some number => some ("Disc ".toList ++ digits number, "disc_canonical")
  | none =>
    (((captures tables partFolderPattern name).bind fun captures => Captures.get captures 1).bind
      fun span => parseU32 (slice name span)).map fun number =>
        ("Part ".toList ++ digits number, "part_canonical")

def rewriteLeaf (rule : CleanupRule) (rewrite : List Char → List Char)
    (state : List Char × List String) : List Char × List String :=
  if rewrite state.1 = state.1 then state else (rewrite state.1, state.2 ++ [rule.asStr])

def tidyFolderLeaf (name : List Char) (normalizeCase : Bool) : List Char × List String :=
  let state := rewriteLeaf .normalizeSeparators normalizeSeparators (name, [])
  let state := rewriteLeaf .stripJunk (stripJunk tables) state
  let state :=
    if normalizeCase ∧ state.1 ≠ [] ∧ oneCase tables state.1 then
      rewriteLeaf .normalizeCase (smartTitle tables) state
    else state
  (sanitizeLeaf (if state.2 = [] then state.1 else tidy tables state.1), state.2)

structure FolderClues where
  album : Option (List Char)
  artist : Option (List Char)
  year : Option ℕ

def singleOrUnanimous (values : List (List Char)) : Option (List Char) :=
  let cleaned := values.filter fun value => value ≠ []
  if hasConflictingValues tables cleaned then none
  else if cleaned.length = 1 then cleaned.head?
  else (dominant tables cleaned).1

def folderClues (folder : List Char) (tracks : List IndexedTrack) : FolderClues :=
  let albums := (tracks.filter fun track =>
    albumOf track ≠ [] && !isMatch tables discFolderPattern (trimChars (albumOf track)) &&
      !isMatch tables partFolderPattern (trimChars (albumOf track)) &&
      (artistOf track = [] || !looseEq tables (albumOf track) (artistOf track)) &&
      !looseEq tables (albumOf track) (leaf folder)).map albumOf
  let years := tracks.filterMap (·.metadata.year)
  { album :=
      if hasConflictingValues tables (tracks.map albumOf) then none
      else singleOrUnanimous tables albums
    artist := (singleOrUnanimous tables (tracks.map albumArtistOf)).or
      (singleOrUnanimous tables (tracks.map artistOf))
    year := years.head?.filter fun first => years.all fun year => year = first }

def folderNameUsable (name : List Char) (clues : FolderClues) : Bool :=
  name ≠ [] && !isGenericName tables name && !isMatch tables pureNumberPattern (trimChars name) &&
    2 ≤ byteLength (looseKey tables name) &&
    clues.artist.all fun artist => !looseEq tables name artist

def rebuildFolderName (folder : List Char) (clues : FolderClues) : Option (List Char) :=
  clues.album.bind fun album =>
    let dated := match clues.year with
      | none => album
      | some year => album ++ " (".toList ++ digits year ++ [')']
    let name := match clues.artist.filter fun artist =>
        !looseEq tables artist album && !looseEq tables artist (leaf (parent folder)) with
      | none => dated
      | some artist => joinSegments [artist, dated]
    if sanitizeLeaf name = [] then none else some (sanitizeLeaf name)

def planFolder (folder : List Char) (tracks : List IndexedTrack) (normalizeCase : Bool) :
    Option CleanupFolderSuggestion :=
  let old := leaf folder
  if old = [] then none
  else
    match discPartCanonical tables old with
    | some (new, rule) => if new = old then none else some ⟨folder, old, new, [rule], .high⟩
    | none =>
      if isGenericName tables old then none
      else
        let clues := folderClues tables folder tracks
        let (tidied, rules) := tidyFolderLeaf tables old normalizeCase
        let rebuilt :=
          if folderNameUsable tables tidied clues then none
          else (rebuildFolderName tables folder clues).filter fun name => name ≠ old
        match rebuilt with
        | some rebuilt => some ⟨folder, old, rebuilt, ["rebuild_from_tags"], .low⟩
        | none =>
          if tidied = [] ∨ tidied = old then none
          else
            some ⟨folder, old, tidied,
              if rules = [] then [CleanupRule.normalizeSeparators.asStr] else rules, .high⟩

/-! ## The folders of a catalog -/

def tracksUnder (all : List IndexedTrack) (folder : List Char) : List IndexedTrack :=
  all.filter fun track => (folder ++ ['/']).isPrefixOf track.path.encoded

/-- A folder and the folders that it lies in; the number bounds how many. -/
def foldersAbove : ℕ → List Char → List (List Char)
  | 0, _ => []
  | room + 1, current =>
    if current = [] then [] else current :: foldersAbove room (parent current)

def allFolderPaths (tracks : List IndexedTrack) : BTreeSet (List Char) :=
  .ofList (tracks.flatMap fun track =>
    foldersAbove track.path.encoded.length (parent track.path.encoded))

/-- The folders of the scope, and what the numbered ones lie in. -/
def candidateFolders (scope : List IndexedTrack) : BTreeSet (List Char) :=
  .ofList (((groupByFolder scope).keys.filter fun folder => folder ≠ []).flatMap fun folder =>
    folder ::
      if (discPartCanonical tables (leaf folder)).isSome ∧ parent folder ≠ [] then [parent folder]
      else [])

/-- Deeper folders first, and then in the order of the paths. -/
def deeperLe (left right : CleanupFolderSuggestion) : Bool :=
  right.path.count '/' < left.path.count '/' ||
    (left.path.count '/' = right.path.count '/' && (compare left.path right.path).isLE)

def suggested (all : List IndexedTrack) (enabled : CleanupRuleSet) (folder : List Char) :
    Option CleanupFolderSuggestion :=
  planFolder tables folder (tracksUnder all folder) (enabled.contains .normalizeCase)

/-- What is suggested for the folders of the scope. -/
def folderSuggestions (scope all : List IndexedTrack) (enabled : CleanupRuleSet) :
    List CleanupFolderSuggestion :=
  ((candidateFolders tables scope).toList.filterMap (suggested tables all enabled)).insertionSort
    fun left right => deeperLe left right

def newPath (suggestion : CleanupFolderSuggestion) : List Char :=
  if parent suggestion.path = [] then suggestion.new
  else parent suggestion.path ++ '/' :: suggestion.new

/-- The suggestion changes the case of its path only. -/
def caseOnly (suggestion : CleanupFolderSuggestion) : Bool :=
  caseKey tables (newPath suggestion) = caseKey tables suggestion.path

/-- One suggestion, after those whose folded targets are taken. -/
def keepSuggestion (existing : BTreeSet (List Char))
    (state : BTreeSet (List Char) × List CleanupFolderSuggestion)
    (suggestion : CleanupFolderSuggestion) :
    BTreeSet (List Char) × List CleanupFolderSuggestion :=
  let key := caseKey tables (newPath suggestion)
  if caseOnly tables suggestion = false ∧ (key ∈ existing ∨ key ∈ state.1) then state
  else (state.1.insert key, state.2 ++ [suggestion])

def foldedPaths (all : List IndexedTrack) : BTreeSet (List Char) :=
  .ofList ((allFolderPaths all).toList.map (caseKey tables))

def analyzeCleanupFolders (scope all : List IndexedTrack) (enabled : CleanupRuleSet) :
    List CleanupFolderSuggestion :=
  if enabled.contains .renameFolders then
    ((folderSuggestions tables scope all enabled).foldl
      (keepSuggestion tables (foldedPaths tables all)) (∅, [])).2.insertionSort
        fun left right => (compare left.path right.path).isLE
  else []

variable {tables} {scope all : List IndexedTrack} {enabled : CleanupRuleSet}

/-! ## The folders of a track -/

theorem parent_length (path : List Char) (h : parent path ≠ []) :
    (parent path).length < path.length := by
  unfold parent at *
  cases hsplit : rsplitOnce '/' path with
  | none => exact absurd (by rw [hsplit]; rfl) h
  | some split =>
    have hpath := (rsplitOnce_sound hsplit).1
    change split.1.length < path.length
    rw [hpath, List.length_append, List.length_cons]
    omega

theorem mem_foldersAbove_self {room : ℕ} {current : List Char} (hroom : current.length ≤ room)
    (h : current ≠ []) : current ∈ foldersAbove room current := by
  cases room with
  | zero => exact absurd (List.eq_nil_of_length_eq_zero (by omega)) h
  | succ room =>
    rw [foldersAbove, if_neg h]
    exact List.mem_cons_self

variable {folder : List Char}

theorem parent_mem_foldersAbove {room : ℕ} {current : List Char} (hroom : current.length ≤ room)
    (hfolder : folder ∈ foldersAbove room current) (h : parent folder ≠ []) :
    parent folder ∈ foldersAbove room current := by
  induction room generalizing current with
  | zero => exact absurd hfolder List.not_mem_nil
  | succ room ih =>
    rw [foldersAbove] at hfolder ⊢
    split at hfolder
    · exact absurd hfolder List.not_mem_nil
    · next hcurrent =>
      rw [if_neg hcurrent]
      by_cases hroot : parent current = []
      · have hnone : foldersAbove room (parent current) = [] := by
          rw [hroot]
          cases room <;> rfl
        rw [hnone, List.mem_singleton] at hfolder
        exact absurd (hfolder ▸ hroot) h
      have hshorter := parent_length current hroot
      rcases List.mem_cons.mp hfolder with rfl | habove
      · exact List.mem_cons_of_mem _ (mem_foldersAbove_self (by omega) h)
      · exact List.mem_cons_of_mem _ (ih (by omega) habove)

theorem mem_allFolderPaths :
    folder ∈ allFolderPaths all ↔
      ∃ track ∈ all, folder ∈ foldersAbove track.path.encoded.length (parent track.path.encoded) := by
  unfold allFolderPaths
  rw [Std.ExtTreeSet.mem_ofList, List.contains_iff_mem, List.mem_flatMap]

theorem parent_length_le (path : List Char) : (parent path).length ≤ path.length := by
  by_cases h : parent path = []
  · rw [h]
    exact Nat.zero_le _
  · exact (parent_length path h).le

theorem parent_mem_allFolderPaths (hfolder : folder ∈ allFolderPaths all) (h : parent folder ≠ []) :
    parent folder ∈ allFolderPaths all := by
  obtain ⟨track, htrack, habove⟩ := mem_allFolderPaths.mp hfolder
  exact mem_allFolderPaths.mpr
    ⟨track, htrack, parent_mem_foldersAbove (parent_length_le _) habove h⟩

theorem mem_allFolderPaths_of_candidate (hscope : ∀ track ∈ scope, track ∈ all)
    (h : folder ∈ candidateFolders tables scope) :
    folder ∈ allFolderPaths all := by
  unfold candidateFolders at h
  rw [Std.ExtTreeSet.mem_ofList, List.contains_iff_mem] at h
  obtain ⟨direct, hdirect, hmem⟩ := List.mem_flatMap.mp h
  obtain ⟨hkey, hne⟩ := List.mem_filter.mp hdirect
  have hmember : direct ∈ allFolderPaths all := by
    have hgroup : direct ∈ groupByFolder scope := Std.ExtTreeMap.mem_keys.mp hkey
    rw [Std.ExtTreeMap.mem_iff_isSome_getElem?, groupByFolder_getElem?] at hgroup
    obtain ⟨track, htrack⟩ := List.exists_mem_of_ne_nil (tracksIn scope direct) fun hnone => by
      rw [if_pos hnone] at hgroup
      cases hgroup
    obtain ⟨hin, hparent⟩ := List.mem_filter.mp htrack
    obtain rfl := of_decide_eq_true hparent
    exact mem_allFolderPaths.mpr ⟨track, hscope track hin,
      mem_foldersAbove_self (parent_length_le _) (of_decide_eq_true hne)⟩
  rcases List.mem_cons.mp hmem with rfl | hparent
  · exact hmember
  · split at hparent
    · next hdisc =>
      rw [List.mem_singleton.mp hparent]
      exact parent_mem_allFolderPaths hmember hdisc.2
    · exact absurd hparent List.not_mem_nil

/-! ## The suggestions -/

variable {suggestion : CleanupFolderSuggestion}

theorem planFolder_path {tracks : List IndexedTrack} {normalizeCase : Bool}
    (h : planFolder tables folder tracks normalizeCase = some suggestion) :
    suggestion.path = folder := by
  unfold planFolder at h
  grind

theorem mem_folderSuggestions :
    suggestion ∈ folderSuggestions tables scope all enabled ↔
      suggestion.path ∈ candidateFolders tables scope ∧
        suggested tables all enabled suggestion.path = some suggestion := by
  unfold folderSuggestions
  rw [List.mem_insertionSort, List.mem_filterMap]
  constructor
  · rintro ⟨folder, hfolder, hplan⟩
    obtain rfl := planFolder_path hplan
    exact ⟨Std.ExtTreeSet.mem_toList.mp hfolder, hplan⟩
  · rintro ⟨hfolder, hplan⟩
    exact ⟨_, Std.ExtTreeSet.mem_toList.mpr hfolder, hplan⟩

theorem folderSuggestions_pairwise :
    (folderSuggestions tables scope all enabled).Pairwise fun left right =>
      left.path ≠ right.path := by
  unfold folderSuggestions
  refine ((List.perm_insertionSort _ _).pairwise_iff fun h => h.symm).mpr ?_
  rw [List.pairwise_filterMap]
  refine Std.ExtTreeSet.distinct_toList.imp fun {folder other} hne s hs t ht hpath => hne ?_
  rw [Std.compare_eq_iff_eq, ← planFolder_path hs, ← planFolder_path ht, hpath]

/-! ## The suggestions that are kept -/

/-- What is kept of the suggestions gone over. -/
structure Kept (tables : CleanupTables) (existing : BTreeSet (List Char))
    (suggestions : List CleanupFolderSuggestion)
    (state : BTreeSet (List Char) × List CleanupFolderSuggestion) : Prop where
  sublist : state.2.Sublist suggestions
  recased : ∀ suggestion ∈ suggestions, caseOnly tables suggestion = true → suggestion ∈ state.2
  free : ∀ suggestion ∈ state.2, caseOnly tables suggestion = false →
    caseKey tables (newPath suggestion) ∉ existing
  taken : ∀ suggestion ∈ state.2, caseKey tables (newPath suggestion) ∈ state.1
  apart : state.2.Pairwise fun earlier later => caseOnly tables later = true ∨
    caseKey tables (newPath earlier) ≠ caseKey tables (newPath later)

theorem kept_keepSuggestion {existing : BTreeSet (List Char)}
    {suggestions : List CleanupFolderSuggestion}
    {state : BTreeSet (List Char) × List CleanupFolderSuggestion}
    (h : Kept tables existing suggestions state) (suggestion : CleanupFolderSuggestion) :
    Kept tables existing (suggestions ++ [suggestion])
      (keepSuggestion tables existing state suggestion) := by
  unfold keepSuggestion
  dsimp only
  split
  · next hleft =>
    refine ⟨h.sublist.trans (List.sublist_append_left _ _), fun other hother hcase => ?_, h.free,
      h.taken, h.apart⟩
    rcases List.mem_append.mp hother with hmem | hlast
    · exact h.recased other hmem hcase
    · rw [List.mem_singleton.mp hlast, hleft.1] at hcase
      cases hcase
  · next hkept =>
    refine ⟨h.sublist.append_right _, fun other hother hcase => ?_, fun other hother hcase => ?_,
      fun other hother => ?_, ?_⟩
    · rcases List.mem_append.mp hother with hmem | hlast
      · exact List.mem_append_left _ (h.recased other hmem hcase)
      · exact List.mem_append_right _ hlast
    · rcases List.mem_append.mp hother with hmem | hlast
      · exact h.free other hmem hcase
      · rw [List.mem_singleton.mp hlast] at hcase ⊢
        exact fun hexists => hkept ⟨hcase, .inl hexists⟩
    · rw [Std.ExtTreeSet.mem_insert, Std.compare_eq_iff_eq]
      rcases List.mem_append.mp hother with hmem | hlast
      · exact .inr (h.taken other hmem)
      · exact .inl (by rw [List.mem_singleton.mp hlast])
    · refine List.pairwise_append.mpr ⟨h.apart, List.pairwise_singleton _ _, ?_⟩
      intro earlier hearlier later hlater
      rw [List.mem_singleton.mp hlater]
      by_cases hcase : caseOnly tables suggestion = true
      · exact .inl hcase
      · refine .inr fun hsame => hkept ⟨Bool.eq_false_iff.mpr hcase, .inr ?_⟩
        rw [← hsame]
        exact h.taken earlier hearlier

theorem kept_foldl (existing : BTreeSet (List Char))
    (suggestions : List CleanupFolderSuggestion) :
    Kept tables existing suggestions
      (suggestions.foldl (keepSuggestion tables existing) (∅, [])) := by
  induction suggestions using List.reverseRecOn with
  | nil =>
    exact ⟨.slnil, fun _ h => absurd h List.not_mem_nil, fun _ h => absurd h List.not_mem_nil,
      fun _ h => absurd h List.not_mem_nil, .nil⟩
  | append_singleton suggestions suggestion ih =>
    rw [List.foldl_append]
    exact kept_keepSuggestion ih suggestion

theorem mem_foldedPaths {key : List Char} :
    key ∈ foldedPaths tables all ↔ ∃ folder ∈ allFolderPaths all, caseKey tables folder = key := by
  unfold foldedPaths
  rw [Std.ExtTreeSet.mem_ofList, List.contains_iff_mem, List.mem_map]
  simp only [Std.ExtTreeSet.mem_toList]

/-- A suggestion that is kept was made; one that changes more than the case has a target that no
folder folds to; two that are kept differ in their folded targets, or both change the case
only. -/
structure KeptApart (tables : CleanupTables) (scope all : List IndexedTrack)
    (enabled : CleanupRuleSet) (kept : List CleanupFolderSuggestion) : Prop where
  made : ∀ suggestion ∈ kept, suggestion ∈ folderSuggestions tables scope all enabled
  recased : ∀ suggestion ∈ folderSuggestions tables scope all enabled,
    caseOnly tables suggestion = true → suggestion ∈ kept
  free : ∀ suggestion ∈ kept, caseOnly tables suggestion = false →
    ∀ folder ∈ allFolderPaths all, caseKey tables folder ≠ caseKey tables (newPath suggestion)
  apart : kept.Pairwise fun left right => left.path ≠ right.path ∧
    (caseKey tables (newPath left) ≠ caseKey tables (newPath right) ∨
      caseOnly tables left = true ∧ caseOnly tables right = true)

theorem analyzeCleanupFolders_spec (hscope : ∀ track ∈ scope, track ∈ all)
    (henabled : enabled.contains .renameFolders = true) :
    KeptApart tables scope all enabled (analyzeCleanupFolders tables scope all enabled) := by
  unfold analyzeCleanupFolders
  rw [if_pos henabled]
  generalize hstate : (folderSuggestions tables scope all enabled).foldl
    (keepSuggestion tables (foldedPaths tables all)) (∅, []) = state
  have hkept := hstate ▸ @kept_foldl tables (foldedPaths tables all)
    (folderSuggestions tables scope all enabled)
  have hperm := List.perm_insertionSort
    (fun left right : CleanupFolderSuggestion => (compare left.path right.path).isLE = true) state.2
  have hown : ∀ suggestion ∈ state.2,
      caseKey tables suggestion.path ∈ foldedPaths tables all := by
    intro suggestion hsuggestion
    have hcandidate := (mem_folderSuggestions.mp (hkept.sublist.subset hsuggestion)).1
    exact mem_foldedPaths.mpr ⟨_, mem_allFolderPaths_of_candidate hscope hcandidate, rfl⟩
  refine ⟨fun suggestion h => hkept.sublist.subset (hperm.mem_iff.mp h),
    fun suggestion h hcase => hperm.mem_iff.mpr (hkept.recased suggestion h hcase),
    fun suggestion h hcase folder hfolder hkey => ?_, ?_⟩
  · exact hkept.free suggestion (hperm.mem_iff.mp h) hcase (mem_foldedPaths.mpr ⟨_, hfolder, hkey⟩)
  · refine (hperm.pairwise_iff fun h => ⟨h.1.symm, h.2.imp Ne.symm And.symm⟩).mpr ?_
    refine (hkept.apart.imp_of_mem ?_).and (folderSuggestions_pairwise.sublist hkept.sublist)
      |>.imp fun h => ⟨h.2, h.1⟩
    intro earlier later hearlier hlater h
    rcases h with hlast | hne
    · by_cases hfirst : caseOnly tables earlier = true
      · exact .inr ⟨hfirst, hlast⟩
      -- the later one's own path folds to its target, which is thus not free for the earlier one
      · refine .inl fun hsame => hkept.free earlier hearlier (Bool.eq_false_iff.mpr hfirst) ?_
        rw [hsame, of_decide_eq_true hlast]
        exact hown later hlater
    · exact .inl hne

/-- The targets differ, and none is another folder of the catalog. -/
structure Distinct (all : List IndexedTrack) (kept : List CleanupFolderSuggestion) : Prop where
  apart : kept.Pairwise fun left right => newPath left ≠ newPath right
  free : ∀ suggestion ∈ kept, ∀ folder ∈ allFolderPaths all, folder ≠ suggestion.path →
    newPath suggestion ≠ folder

/-- The folder is suggested a target that differs from its path in case only. -/
def Recased (tables : CleanupTables) (all : List IndexedTrack) (enabled : CleanupRuleSet)
    (folder target : List Char) : Prop :=
  ∃ suggestion, suggested tables all enabled folder = some suggestion ∧
    caseOnly tables suggestion = true ∧ newPath suggestion = target

/-- A folder that is to change in case only gets neither the path of another folder nor what
another such folder gets. -/
structure CaseVariantsApart (tables : CleanupTables) (scope all : List IndexedTrack)
    (enabled : CleanupRuleSet) : Prop where
  free : ∀ folder ∈ candidateFolders tables scope, ∀ target,
    Recased tables all enabled folder target → target ∈ allFolderPaths all → target = folder
  apart : ∀ folder ∈ candidateFolders tables scope, ∀ other ∈ candidateFolders tables scope,
    ∀ target, Recased tables all enabled folder target → Recased tables all enabled other target →
      folder = other

theorem recased_of_mem (h : suggestion ∈ folderSuggestions tables scope all enabled)
    (hcase : caseOnly tables suggestion = true) :
    suggestion.path ∈ candidateFolders tables scope ∧
      Recased tables all enabled suggestion.path (newPath suggestion) := by
  obtain ⟨hcandidate, hplan⟩ := mem_folderSuggestions.mp h
  exact ⟨hcandidate, _, hplan, hcase, rfl⟩

theorem exists_mem_of_recased {target : List Char}
    (hcandidate : folder ∈ candidateFolders tables scope)
    (h : Recased tables all enabled folder target) :
    ∃ suggestion ∈ folderSuggestions tables scope all enabled, suggestion.path = folder ∧
      caseOnly tables suggestion = true ∧ newPath suggestion = target := by
  obtain ⟨suggestion, hplan, hcase, htarget⟩ := h
  have hpath : suggestion.path = folder := planFolder_path hplan
  exact ⟨suggestion, mem_folderSuggestions.mpr (hpath ▸ ⟨hcandidate, hplan⟩), hpath, hcase, htarget⟩

theorem distinct_of_caseVariantsApart {kept : List CleanupFolderSuggestion}
    (hkept : KeptApart tables scope all enabled kept)
    (h : CaseVariantsApart tables scope all enabled) : Distinct all kept := by
  constructor
  · refine hkept.apart.imp_of_mem fun {left right} hleft hright hapart hsame => ?_
    rcases hapart.2 with hne | ⟨hleftCase, hrightCase⟩
    · exact hne (congrArg (caseKey tables) hsame)
    · obtain ⟨hfolder, hrecased⟩ := recased_of_mem (hkept.made left hleft) hleftCase
      obtain ⟨hother, hrecased'⟩ := recased_of_mem (hkept.made right hright) hrightCase
      exact hapart.1 (h.apart _ hfolder _ hother _ (hsame ▸ hrecased) hrecased')
  · intro suggestion hmem folder hfolder hne hsame
    by_cases hcase : caseOnly tables suggestion = true
    · obtain ⟨hcandidate, hrecased⟩ := recased_of_mem (hkept.made suggestion hmem) hcase
      exact hne (hsame.symm.trans (h.free _ hcandidate _ hrecased (hsame ▸ hfolder)))
    · exact hkept.free suggestion hmem (Bool.eq_false_iff.mpr hcase) folder hfolder
        (congrArg (caseKey tables) hsame.symm)

theorem caseVariantsApart_of_distinct {kept : List CleanupFolderSuggestion}
    (hkept : KeptApart tables scope all enabled kept) (h : Distinct all kept) :
    CaseVariantsApart tables scope all enabled := by
  constructor
  · intro folder hfolder target hrecased htarget
    obtain ⟨suggestion, hmem, rfl, hcase, rfl⟩ := exists_mem_of_recased hfolder hrecased
    by_contra hne
    exact h.free suggestion (hkept.recased suggestion hmem hcase) _ htarget hne rfl
  · intro folder hfolder other hother target hrecased hrecased'
    obtain ⟨left, hleft, rfl, hleftCase, rfl⟩ := exists_mem_of_recased hfolder hrecased
    obtain ⟨right, hright, rfl, hrightCase, hsame⟩ := exists_mem_of_recased hother hrecased'
    by_contra hne
    have hsymm : Std.Symm fun left right : CleanupFolderSuggestion =>
        newPath left ≠ newPath right := ⟨fun _ _ => Ne.symm⟩
    exact h.apart.forall (hkept.recased left hleft hleftCase) (hkept.recased right hright hrightCase)
      (fun heq => hne (congrArg CleanupFolderSuggestion.path heq)) hsame.symm

theorem caseVariantsApart_of_injOn (hscope : ∀ track ∈ scope, track ∈ all)
    (h : ∀ folder ∈ allFolderPaths all, ∀ other ∈ allFolderPaths all,
      caseKey tables folder = caseKey tables other → folder = other) :
    CaseVariantsApart tables scope all enabled := by
  have hkey : ∀ {folder target}, Recased tables all enabled folder target →
      caseKey tables target = caseKey tables folder := by
    rintro folder target ⟨suggestion, hplan, hcase, rfl⟩
    rw [of_decide_eq_true hcase, planFolder_path hplan]
  constructor
  · intro folder hfolder target hrecased htarget
    exact h _ htarget _ (mem_allFolderPaths_of_candidate hscope hfolder) (hkey hrecased)
  · intro folder hfolder other hother target hrecased hrecased'
    exact h _ (mem_allFolderPaths_of_candidate hscope hfolder) _
      (mem_allFolderPaths_of_candidate hscope hother) ((hkey hrecased).symm.trans (hkey hrecased'))

/-- The suggestions that are kept have targets that differ and are free exactly where those do
that change the case only. -/
theorem distinct_iff (hscope : ∀ track ∈ scope, track ∈ all) :
    Distinct all (analyzeCleanupFolders tables scope all enabled) ↔
      (enabled.contains .renameFolders = true → CaseVariantsApart tables scope all enabled) := by
  by_cases henabled : enabled.contains .renameFolders = true
  · have hkept : KeptApart tables scope all enabled _ := analyzeCleanupFolders_spec hscope henabled
    exact ⟨fun h _ => caseVariantsApart_of_distinct hkept h,
      fun h => distinct_of_caseVariantsApart hkept (h henabled)⟩
  · have hnone : analyzeCleanupFolders tables scope all enabled = [] := if_neg henabled
    rw [hnone]
    exact ⟨fun _ h => absurd h henabled,
      fun _ => ⟨.nil, fun _ hmem => absurd hmem List.not_mem_nil⟩⟩

/-- Two folders, one of which has a name to be tidied. -/
def discCatalog : List IndexedTrack :=
  [untagged ⟨1, Int.one_pos⟩ ⟨"cd 1/a.mp3".toList, by decide⟩,
    untagged ⟨2, TrackId.two_pos⟩ ⟨"Disc 2/b.mp3".toList, by decide⟩]

theorem distinct_iff_discs :
    (analyzeCleanupFolders plainTables discCatalog discCatalog defaultCleanupRules).map newPath =
        ["Disc 1".toList] ∧
      Distinct discCatalog
        (analyzeCleanupFolders plainTables discCatalog discCatalog defaultCleanupRules) := by
  refine ⟨by decide +kernel, (distinct_iff fun _ => id).mpr fun _ => ?_⟩
  have hfolders : ∀ folder ∈ (allFolderPaths discCatalog).toList,
      ∀ other ∈ (allFolderPaths discCatalog).toList,
        caseKey plainTables folder = caseKey plainTables other → folder = other := by
    decide +kernel
  simp only [Std.ExtTreeSet.mem_toList] at hfolders
  exact caseVariantsApart_of_injOn (fun _ => id) hfolders

def variantCatalog : List IndexedTrack :=
  [untagged ⟨1, Int.one_pos⟩ ⟨"disc 1/a.mp3".toList, by decide⟩,
    untagged ⟨2, TrackId.two_pos⟩ ⟨"DISC 1/b.mp3".toList, by decide⟩]

/-- Each changes in case only, so both are given the name of the first disc. -/
theorem case_variants_meet :
    ¬ Distinct variantCatalog
      (analyzeCleanupFolders plainTables variantCatalog variantCatalog defaultCleanupRules) := by
  have hrun : (analyzeCleanupFolders plainTables variantCatalog variantCatalog
      defaultCleanupRules).map newPath = ["Disc 1".toList, "Disc 1".toList] := by
    decide +kernel
  intro h
  have hpairwise := List.pairwise_map.mpr h.apart
  rw [hrun] at hpairwise
  exact absurd hpairwise (by decide)

end Cleanup

end MusicServer
