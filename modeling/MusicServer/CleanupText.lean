/-
# The texts of the cleanup analysis

How the cleanup reads the name of a file or a folder: keys that ignore case or spelling, leading
numbers, segments, groups of junk, and the values that most of the tracks share.  A text is the
list of its characters.  The Unicode tables and the engine of the regular expressions are given
by `CleanupTables`; the expressions themselves are the program's.
-/
import MusicServer.CatalogEvidence
import MusicServer.TagVocabulary

namespace MusicServer

/-- The groups of a match, each as the range of its characters; the first is the whole match. -/
abbrev Captures := List (Option (ℕ × ℕ))

/-- What the cleanup takes from the Unicode tables, and all matches of a regular expression in a
text, from the left. -/
structure CleanupTables extends TextRules where
  toUppercase : Char → List Char
  isAlphabetic : Char → Bool
  isUppercase : Char → Bool
  isLowercase : Char → Bool
  capturesIter : (pattern : String) → List Char → List Captures

namespace Cleanup

open Enrichment Vocabulary

/-! ## Regular expressions -/

def Captures.get (captures : Captures) (group : ℕ) : Option (ℕ × ℕ) := (captures[group]?).join

def slice (text : List Char) (span : ℕ × ℕ) : List Char := (text.take span.2).drop span.1

/-- `Regex::replace_all`, from a position on. -/
def replaceFrom (text : List Char) (replace : Captures → List Char) :
    ℕ → List Captures → List Char
  | start, [] => text.drop start
  | start, captures :: rest =>
    match Captures.get captures 0 with
    | none => replaceFrom text replace start rest
    | some whole =>
      slice text (start, whole.1) ++ replace captures ++ replaceFrom text replace whole.2 rest

def splitFrom (text : List Char) : ℕ → List Captures → List (List Char)
  | start, [] => [text.drop start]
  | start, captures :: rest =>
    match Captures.get captures 0 with
    | none => splitFrom text start rest
    | some whole => slice text (start, whole.1) :: splitFrom text whole.2 rest

variable (tables : CleanupTables)

def captures (pattern : String) (text : List Char) : Option Captures :=
  (tables.capturesIter pattern text).head?

def isMatch (pattern : String) (text : List Char) : Bool := (captures tables pattern text).isSome

def replaceAll (pattern : String) (text : List Char) (replace : Captures → List Char) : List Char :=
  replaceFrom text replace 0 (tables.capturesIter pattern text)

def splitRegex (pattern : String) (text : List Char) : List (List Char) :=
  splitFrom text 0 (tables.capturesIter pattern text)

/-! ## Keys -/

def looseKey (text : List Char) : List Char := cleanupLooseKey tables.toTextRules (String.ofList text)

def looseEq (left right : List Char) : Bool :=
  looseKey tables left ≠ [] && looseKey tables left = looseKey tables right

def caseKey (text : List Char) : List Char :=
  (text.flatMap tables.toLowercase).flatMap fun c => if c = 'ß' then ['s', 's'] else [c]

/-! ## Blanks and separators -/

def collapse (text : List Char) : List Char := List.intercalate [' '] (splitWhitespace text)

def decodeBlanks : List Char → List Char
  | '%' :: '2' :: '0' :: rest => ' ' :: decodeBlanks rest
  | c :: rest => c :: decodeBlanks rest
  | [] => []

def normalizeSeparators (stem : List Char) : List Char :=
  let output := decodeBlanks stem
  collapse (if '_' ∈ output ∧ ' ' ∉ output then output.map fun c => if c = '_' then ' ' else c
    else output)

def trimEndMatches (chars text : List Char) : List Char :=
  (text.reverse.dropWhile fun c => c ∈ chars).reverse

def trimMatches (chars text : List Char) : List Char :=
  trimEndMatches chars (text.dropWhile fun c => c ∈ chars)

/-- What a name neither starts nor ends with. -/
def edgeChars : List Char := [' ', '-', '–', '—', '.', '_']

def emptyGroupPattern : String := r"\(\s*\)|\[\s*\]"

def tidy (stem : List Char) : List Char :=
  trimMatches edgeChars (collapse (replaceAll tables emptyGroupPattern stem fun _ => []))

def smartTitle (stem : List Char) : List Char :=
  List.intercalate [' '] ((stem.splitOn ' ').map fun word =>
    match word with
    | [] => []
    | first :: rest => tables.toUppercase first ++ rest.flatMap tables.toLowercase)

def oneCase (text : List Char) : Bool :=
  text.all (fun c => !tables.isAlphabetic c || tables.isUppercase c) ||
    text.all (fun c => !tables.isAlphabetic c || tables.isLowercase c)

/-! ## Leading numbers -/

def numberSeparatedPattern : String := r"^[(\[]?(\d{1,3})(?:[-.](\d{1,2}))?[)\]]?\s*[-–—._]+\s*"

def numberBarePattern : String := r"^[(\[]?(\d{1,3})(?:[-.](\d{1,2}))?[)\]]?\s+"

structure NumberMatch where
  track : Option ℕ
  disc : Option ℕ
  rest : List Char
  strong : Bool
  deriving DecidableEq

def matchLeadingNumber (stem : List Char) : Option NumberMatch := do
  let captures ← (captures tables numberSeparatedPattern stem).or
    (captures tables numberBarePattern stem)
  let matched ← Captures.get captures 0
  let rest := stem.drop matched.2
  if trimChars rest = [] then none
  else
    let first ← (Captures.get captures 1).bind fun span => parseU32 (slice stem span)
    let second := (Captures.get captures 2).bind fun span => parseU32 (slice stem span)
    let position : Option ℕ × Option ℕ := match second with
      | none => (none, some first)
      | some second => if first ≤ 9 then (some first, some second) else (none, none)
    return ⟨position.2, position.1, rest,
      (slice stem matched).any fun c => c = '-' || c = '–' || c = '—'⟩

/-! ## Segments and junk -/

def segmentSeparatorPattern : String := r"(?:\s+-\s+|\s+-|-\s+|_-_)"

def segments (stem : List Char) : List (List Char) :=
  ((splitRegex tables segmentSeparatorPattern stem).map trimChars).filter fun part => part ≠ []

def joinSegments (parts : List (List Char)) : List Char := List.intercalate [' ', '-', ' '] parts

def junkInnerPattern : String :=
  r"(?i)^(?:(?:official\s+)?(?:music\s+|lyrics?\s+)?(?:audio|video|visuali[sz]er)|official|" ++
  r"lyrics?|with\s+lyrics?|audio\s+only|official\s+(?:song|track)|" ++
  r"(?:hq|hd)\s+(?:audio|video|version)|hd|hq|4k|full\s+(?:album|song|track)|free\s+download|" ++
  r"downloaded\s+from\b.*|youtube(?:\.com)?|\d{2,4}\s*kbps|\d{2,4}\s*kb/?s|cbr|vbr\s*v?\d?)$"

def junkDomainPattern : String :=
  r"(?i)(?:www\.)?[a-z0-9][a-z0-9.-]*\." ++
  r"(?:com|net|org|ru|info|me|cc|to|io|biz|pl|cz|sk|fm|co)\b"

def bracketGroupPattern : String := r"[(\[]([^()\[\]]*)[)\]]"

def trailingDashJunkPattern : String :=
  r"(?i)[-–—]\s*(?:official(?:\s+(?:audio|video|music\s+video))?|lyrics?|audio|youtube)\s*$"

def edgeSitePattern : String :=
  r"(?i)^(?:www\.)?[a-z0-9.-]+\.(?:com|net|org|ru|info|me|cc|to|io|biz|pl|cz|sk|fm|co)" ++
  r"[\s_–—-]+|[\s_–—-]+(?:www\.)?[a-z0-9.-]+\." ++
  r"(?:com|net|org|ru|info|me|cc|to|io|biz|pl|cz|sk|fm|co)$"

def isJunkGroup (inner : List Char) : Bool :=
  isMatch tables junkInnerPattern (trimChars inner) ||
    isMatch tables junkDomainPattern (trimChars inner)

def stripJunk (stem : List Char) : List Char :=
  let withoutGroups := replaceAll tables bracketGroupPattern stem fun captures =>
    if (Captures.get captures 1).any fun inner => isJunkGroup tables (slice stem inner) then []
    else ((Captures.get captures 0).map (slice stem)).getD []
  let withoutSite := replaceAll tables edgeSitePattern withoutGroups fun _ => []
  replaceAll tables trailingDashJunkPattern withoutSite fun _ => []

/-! ## Names -/

def genericNames : List String :=
  ["", "uploads", "upload", "music", "new", "misc", "various", "downloads", "download", "import",
    "imports", "inbox", "unsorted", "sorted", "tracks", "songs", "audio", "files", "library",
    "collection", "collections", "mp3", "mp3s", "flac", "flacs", "temp", "tmp", "other", "stuff",
    "mixed", "mix", "singles", "albums", "album", "artists", "artist", "compilations",
    "compilation", "playlists", "playlist", "soundtracks", "soundtrack", "ost", "musiclibrary",
    "random"]

def isGenericName (name : List Char) : Bool :=
  genericNames.any fun generic => looseKey tables name = generic.toList

def collectiveArtists : List String :=
  ["variousartists", "variousperformers", "variouscomposers", "multipleartists", "va"]

def isCollectiveArtist (value : List Char) : Bool :=
  collectiveArtists.any fun collective => looseKey tables value = collective.toList

def discFolderPattern : String := r"(?i)^(?:cd|disc|disk)[\s._-]*(\d{1,2})$"

def folderYearPattern : String :=
  r"^\s*((?:19|20)\d{2})\s*[-–—.]\s*(.+)$|^(.+?)\s*[(\[]((?:19|20)\d{2})[)\]]\s*$"

def folderLabelSeparatorPattern : String := r"\s+-\s+"

/-- The artist, the album and the year that the name of a folder spells out. -/
def splitFolderLabel (name : List Char) : Option (List Char) × List Char × Option ℕ :=
  let base := normalizeSeparators name
  let dated : List Char × Option ℕ := match captures tables folderYearPattern base with
    | none => (base, none)
    | some captures =>
      match Captures.get captures 1, Captures.get captures 2 with
      | some year, some rest => (trimChars (slice base rest), parseU32 (slice base year))
      | _, _ =>
        match Captures.get captures 3, Captures.get captures 4 with
        | some rest, some year => (trimChars (slice base rest), parseU32 (slice base year))
        | _, _ => (base, none)
  let parts := ((splitRegex tables folderLabelSeparatorPattern dated.1).map trimChars).filter
    fun part => part ≠ []
  match parts with
  | [artist, album] => (some artist, album, dated.2)
  | _ => (none, dated.1, dated.2)

def parent (path : List Char) : List Char := ((rsplitOnce '/' path).map Prod.fst).getD []

def leaf (path : List Char) : List Char := ((rsplitOnce '/' path).map Prod.snd).getD path

def stemAndSuffix (path : List Char) : List Char × List Char :=
  match rsplitOnce '.' (leaf path) with
  | none => (leaf path, [])
  | some (front, back) =>
    if front = [] ∨ back = [] then (leaf path, []) else (front, '.' :: back)

/-! ## Shared values -/

def countValue {α : Type} [DecidableEq α] (counts : List (α × ℕ)) (value : α) : List (α × ℕ) :=
  if counts.any fun entry => entry.1 = value then
    counts.map fun entry => if entry.1 = value then (entry.1, entry.2 + 1) else entry
  else counts ++ [(value, 1)]

/-- The first of the values that occur most often, how often, and how many there are. -/
def mostCommon {α : Type} [DecidableEq α] (values : List α) : Option (α × ℕ × ℕ) :=
  let winner := (values.foldl countValue []).foldl
    (fun winner entry =>
      match winner with
      | none => some entry
      | some best => if best.2 < entry.2 then some entry else some best) none
  winner.map fun best => (best.1, best.2, values.length)

/-- The value that two thirds share, up to its spelling, and whether all do. -/
def dominant (values : List (List Char)) : Option (List Char) × Bool :=
  let cleaned := values.filter fun value => value ≠ []
  if cleaned.length < 2 then (none, false)
  else
    match mostCommon (cleaned.map (looseKey tables)) with
    | none => (none, false)
    | some (key, count, total) =>
      if key = [] ∨ count < 2 ∨ count * 3 < total * 2 then (none, false)
      else
        ((mostCommon (cleaned.filter fun value => looseKey tables value = key)).map Prod.fst,
          count = total)

def hasConflictingValues (values : List (List Char)) : Bool :=
  let keys : BTreeSet (List Char) := .ofList ((values.map (looseKey tables)).filter fun key => key ≠ [])
  1 < keys.size

end Cleanup

end MusicServer
