/-
# The cleanup plan of a track

What a folder says about its tracks, what the name of a file says about the track, and which
changes of the tags and of the name follow.  A folder whose tracks are tagged with several
albums says nothing about any of them.
-/
import MusicServer.CleanupText
import MusicServer.LibraryIndex

namespace MusicServer

namespace Cleanup

open Enrichment LibraryIndex

-- names and titles are compared as lists of characters
local instance lawfulNames : LawfulBEq (List Char) := inferInstance

/-! ## Rules -/

inductive CleanupRule where
  | stripTrackNumbers
  | stripArtist
  | stripAlbum
  | stripJunk
  | normalizeSeparators
  | normalizeCase
  | tagTitle
  | tagArtist
  | tagAlbum
  | tagNumber
  | tagYear
  | renameFolders
  deriving DecidableEq

namespace CleanupRule

def index : CleanupRule → ℕ
  | .stripTrackNumbers => 0
  | .stripArtist => 1
  | .stripAlbum => 2
  | .stripJunk => 3
  | .normalizeSeparators => 4
  | .normalizeCase => 5
  | .tagTitle => 6
  | .tagArtist => 7
  | .tagAlbum => 8
  | .tagNumber => 9
  | .tagYear => 10
  | .renameFolders => 11

def asStr : CleanupRule → String
  | .stripTrackNumbers => "strip_track_numbers"
  | .stripArtist => "strip_artist"
  | .stripAlbum => "strip_album"
  | .stripJunk => "strip_junk"
  | .normalizeSeparators => "normalize_separators"
  | .normalizeCase => "normalize_case"
  | .tagTitle => "tag_title"
  | .tagArtist => "tag_artist"
  | .tagAlbum => "tag_album"
  | .tagNumber => "tag_number"
  | .tagYear => "tag_year"
  | .renameFolders => "rename_folders"

instance : Ord CleanupRule := ⟨fun a b => compare a.index b.index⟩

theorem compare_eq (a b : CleanupRule) : compare a b = compare a.index b.index := rfl

instance : Std.TransOrd CleanupRule where
  eq_swap {a b} := by
    rw [compare_eq, compare_eq]
    exact Std.OrientedOrd.eq_swap
  isLE_trans {a b c} hab hbc := by
    rw [compare_eq] at *
    exact Std.TransOrd.isLE_trans hab hbc

end CleanupRule

structure CleanupRuleSet where
  bits : BitVec 16
  deriving DecidableEq

namespace CleanupRuleSet

def bit (rule : CleanupRule) : BitVec 16 := 1#16 <<< rule.index

def contains (rules : CleanupRuleSet) (rule : CleanupRule) : Bool := rules.bits &&& bit rule ≠ 0

def ofList (rules : List CleanupRule) : CleanupRuleSet :=
  ⟨rules.foldl (fun bits rule => bits ||| bit rule) 0⟩

end CleanupRuleSet

def allCleanupRules : CleanupRuleSet := ⟨(1#16 <<< 12) - 1⟩

def defaultCleanupRules : CleanupRuleSet :=
  ⟨allCleanupRules.bits &&& ~~~ CleanupRuleSet.bit .normalizeCase⟩

inductive CleanupConfidence where
  | high
  | low
  deriving DecidableEq

inductive CleanupSuggestionKind where
  | rename
  | tag
  deriving DecidableEq

inductive CleanupTagField where
  | title
  | artist
  | album
  | trackNumber
  | discNumber
  | year
  deriving DecidableEq

inductive CleanupValue where
  | text (value : List Char)
  | number (value : ℕ)
  deriving DecidableEq

structure CleanupSuggestion where
  trackId : TrackId
  kind : CleanupSuggestionKind
  field : Option CleanupTagField
  old : Option CleanupValue
  new : Option CleanupValue
  rules : List String
  confidence : CleanupConfidence
  verified : Bool
  deriving DecidableEq

structure CleanupTrackPlan where
  trackId : TrackId
  path : List Char
  operations : List CleanupSuggestion
  notes : List String
  wantsLookup : List (List Char)
  deriving DecidableEq

/-! ## Verdicts -/

/-- How well a name is known as an artist and as an album. -/
abbrev NameVerdicts := BTreeMap (List Char) (ℤ × ℤ)

inductive NameVerdictKind where
  | artist
  | album
  | both
  | unknown
  deriving DecidableEq

def verdictKind (artistScore albumScore : ℤ) : NameVerdictKind :=
  let artistStrong := 90 ≤ artistScore
  let albumStrong := 90 ≤ albumScore
  if artistStrong ∧ albumStrong then .both
  else if artistStrong ∧ albumScore ≤ 70 then .artist
  else if albumStrong ∧ artistScore ≤ 70 then .album
  else if artistStrong ∨ albumStrong then .both
  else .unknown

variable (tables : CleanupTables)

def knownKind (name : Option (List Char)) (verdicts : Option NameVerdicts) :
    Option NameVerdictKind :=
  name.bind fun name => verdicts.bind fun verdicts =>
    (verdicts[looseKey tables name]?).map fun scores => verdictKind scores.1 scores.2

/-! ## What a folder says -/

structure FolderContext where
  name : List Char
  parentName : List Char
  grandparent : List Char
  numbersCorroborated : Bool
  firstSegment : Option (List Char)
  secondSegment : Option (List Char)
  discFromFolder : Option ℕ
  folderArtist : Option (List Char)
  folderAlbum : Option (List Char)
  folderYear : Option ℕ
  albumish : Bool
  dominantArtist : Option (List Char)
  dominantArtistUnanimous : Bool
  dominantAlbum : Option (List Char)
  dominantAlbumUnanimous : Bool
  inheritArtist : Bool
  inheritAlbum : Bool
  verdicts : Option NameVerdicts

/-- Most of the names start with numbers, and most of these differ. -/
def numbersCorroborated (stems : List (List Char)) : Bool :=
  let matched := stems.filterMap (matchLeadingNumber tables)
  if matched.length < 2 ∨ matched.length * 10 < stems.length * 6 then false
  else
    let numbers := matched.filterMap (·.track)
    if numbers.length < 2 then false
    else numbers.length * 8 ≤ (.ofList numbers : BTreeSet ℕ).size * 10

/-- The segment at this place that four fifths of the names share. -/
def sharedSegment (segmentLists : List (List (List Char))) (index : ℕ) : Option (List Char) :=
  let present := (segmentLists.filter fun parts => index + 1 < parts.length).filterMap (·[index]?)
  if present.length < 2 then none
  else
    (mostCommon (present.map (looseKey tables))).bind fun (key, count, _) =>
      if key = [] ∨ count < 2 ∨ count * 10 < segmentLists.length * 8 then none
      else
        (mostCommon (present.filter fun part => looseKey tables part = key)).map Prod.fst

/-- The artist, the album and the title of a track, as texts. -/
def artistOf (track : IndexedTrack) : List Char := track.metadata.artist.toList
def albumArtistOf (track : IndexedTrack) : List Char := track.metadata.albumArtist.toList
def albumOf (track : IndexedTrack) : List Char := track.metadata.album.toList
def titleOf (track : IndexedTrack) : List Char := track.metadata.title.toList

def buildContext (folder : List Char) (tracks : List IndexedTrack)
    (verdicts : Option NameVerdicts) : FolderContext :=
  let parts := (folder.splitOn '/').filter fun part => part ≠ []
  let parentName := parts.getLast?.getD []
  let disc := cleanupDiscFolderNumber (String.ofList parentName)
  let albumParts := if disc.isSome ∧ parts ≠ [] then parts.dropLast else parts
  let name := albumParts.getLast?.getD []
  let grandparent :=
    if albumParts.length < 2 then [] else (albumParts[albumParts.length - 2]?).getD []
  let label : Option (List Char) × Option (List Char) × Option ℕ :=
    if name = [] then (none, none, none)
    else
      let (artist, album, year) := splitFolderLabel tables name
      (artist, some album, year)
  let stems := tracks.map fun track => normalizeSeparators (stemAndSuffix track.path.encoded).1
  let firstPass := numbersCorroborated tables stems
  let denumbered := stems.map fun stem =>
    ((matchLeadingNumber tables stem).map (·.rest)).getD stem
  let segmentLists := denumbered.map (segments tables)
  let firstSegment := sharedSegment tables segmentLists 0
  let startsWith (first : List Char) (parts : List (List Char)) : Bool :=
    parts.head?.any fun part => looseEq tables part first
  let secondSegment := firstSegment.bind fun first =>
    sharedSegment tables ((segmentLists.filter (startsWith first)).map (·.drop 1)) 0
  let secondPass := firstSegment.any fun first =>
    numbersCorroborated tables (segmentLists.map fun parts =>
      let dropCount :=
        if startsWith first parts then
          if secondSegment.any (fun second =>
              2 < parts.length && (parts[1]?).any fun part => looseEq tables part second) then 2
          else 1
        else 0
      joinSegments (parts.drop dropCount))
  let (dominantArtist, dominantArtistUnanimous) := dominant tables (tracks.map artistOf)
  -- missing tags are no votes; conflicting tags veto what the folder would pass on
  let inheritAlbum := !hasConflictingValues tables (tracks.map albumOf)
  let inheritArtist := inheritAlbum && !hasConflictingValues tables (tracks.map artistOf) &&
    !hasConflictingValues tables (tracks.map albumArtistOf) &&
    !tracks.any fun track => isCollectiveArtist tables (albumArtistOf track) ||
      isCollectiveArtist tables (artistOf track)
  let (dominantAlbum, dominantAlbumUnanimous) := dominant tables
    ((tracks.filter fun track =>
      albumOf track ≠ [] && !isMatch tables discFolderPattern (trimChars (albumOf track)) &&
        (artistOf track = [] || !looseEq tables (albumOf track) (artistOf track)) &&
        !looseEq tables (albumOf track) name && !looseEq tables (albumOf track) parentName).map
      albumOf)
  { name := name
    parentName := parentName
    grandparent := grandparent
    numbersCorroborated := firstPass || secondPass
    firstSegment := firstSegment
    secondSegment := secondSegment
    discFromFolder := disc
    folderArtist := label.1
    folderAlbum := label.2.1
    folderYear := label.2.2
    albumish := label.2.2.isSome || disc.isSome || firstPass || secondPass
    dominantArtist := dominantArtist
    dominantArtistUnanimous := dominantArtistUnanimous
    dominantAlbum := dominantAlbum
    dominantAlbumUnanimous := dominantAlbumUnanimous
    inheritArtist := inheritArtist
    inheritAlbum := inheritAlbum
    verdicts := verdicts }

/-! ## What a name says -/

structure Extraction where
  trackNumber : Option ℕ
  discNumber : Option ℕ
  numberConfidence : Option CleanupConfidence
  artist : Option (List Char)
  artistConfidence : Option CleanupConfidence
  album : Option (List Char)
  albumConfidence : Option CleanupConfidence
  deriving DecidableEq

def Extraction.empty : Extraction := ⟨none, none, none, none, none, none, none⟩

/-- The album tag is missing, or it repeats the folder or the artist. -/
def albumEmptyish (track : IndexedTrack) (context : FolderContext) : Bool :=
  albumOf track = [] || looseEq tables (albumOf track) context.name ||
    looseEq tables (albumOf track) context.parentName ||
    (artistOf track ≠ [] && looseEq tables (albumOf track) (artistOf track)) ||
    (albumArtistOf track ≠ [] && looseEq tables (albumOf track) (albumArtistOf track))

structure TagGuess where
  field : CleanupTagField
  value : List Char
  confidence : CleanupConfidence
  deriving DecidableEq

structure SegmentClassification where
  rule : CleanupRule
  confidence : CleanupConfidence
  guess : Option TagGuess
  deriving DecidableEq

/-- High where the name is known as this, low otherwise. -/
def verdictConfidence (verdict : Option NameVerdictKind) (kind : NameVerdictKind) :
    CleanupConfidence :=
  if verdict = some kind then .high else .low

def classifySegment (segment : List Char) (position partCount : ℕ) (track : IndexedTrack)
    (context : FolderContext) : Option SegmentClassification :=
  let artistEmpty := artistOf track = []
  let albumEmpty := albumEmptyish tables track context
  let verdict := knownKind tables (some segment) context.verdicts
  let guessArtist (confidence : CleanupConfidence) : Option TagGuess :=
    if artistEmpty then some ⟨.artist, segment, confidence⟩ else none
  let guessAlbum (confidence : CleanupConfidence) : Option TagGuess :=
    if albumEmpty then some ⟨.album, segment, confidence⟩ else none
  if looseEq tables segment (artistOf track) ∨ looseEq tables segment (albumArtistOf track) then
    some ⟨.stripArtist, .high, none⟩
  else if looseEq tables segment (albumOf track) ∧ albumEmpty = false then
    some ⟨.stripAlbum, .high, none⟩
  else if context.inheritArtist ∧ context.folderArtist.any (looseEq tables segment) then
    some ⟨.stripArtist, .high, guessArtist .high⟩
  else if context.inheritAlbum ∧ context.folderAlbum.any (looseEq tables segment) ∧
      context.folderArtist.isSome then
    some ⟨.stripAlbum, .high, guessAlbum .high⟩
  else if context.inheritArtist ∧ looseEq tables segment context.grandparent then
    some ⟨.stripArtist, .high, guessArtist .high⟩
  else if looseEq tables segment context.name ∨ context.folderAlbum.any (looseEq tables segment) then
    if verdict = some .album then
      if context.inheritAlbum then some ⟨.stripAlbum, .high, guessAlbum .high⟩ else none
    else if context.inheritArtist then
      some ⟨.stripArtist, .high, guessArtist (verdictConfidence verdict .artist)⟩
    else none
  else if position = 0 ∧ context.firstSegment.any (looseEq tables segment) then
    if verdict = some .album ∧ albumEmpty then
      if context.inheritAlbum then
        some ⟨.stripAlbum, .high, some ⟨.album, segment, .high⟩⟩
      else none
    else if context.inheritArtist then
      some ⟨.stripArtist, .high, guessArtist (verdictConfidence verdict .artist)⟩
    else none
  else if context.inheritAlbum ∧ position = 1 ∧
      context.secondSegment.any (looseEq tables segment) then
    some ⟨.stripAlbum, .high, guessAlbum (verdictConfidence verdict .album)⟩
  else if position = 0 ∧ context.firstSegment = none ∧ partCount = 2 ∧
      parseU32 (trimChars segment) = none then
    if verdict = some .album ∧ albumEmpty then
      some ⟨.stripAlbum, .high, some ⟨.album, segment, .high⟩⟩
    else if artistEmpty then
      some ⟨.stripArtist, verdictConfidence verdict .artist,
        some ⟨.artist, segment, verdictConfidence verdict .artist⟩⟩
    else none
  else none

/-- The rules that changed a name, with the confidence in each. -/
abbrev FiredRules := BTreeMap CleanupRule CleanupConfidence

def fireRule (fired : FiredRules) (rule : CleanupRule) (confidence : CleanupConfidence) :
    FiredRules :=
  fired.insert rule
    (match fired[rule]? with
    | none => confidence
    | some current => if current = .low ∨ confidence = .low then .low else current)

/-- A name while it is read: what is left, what was read and which rules changed it. -/
structure StemState where
  stem : List Char
  extraction : Extraction
  fired : FiredRules

def consumeNumber (context : FolderContext) (enabled : CleanupRuleSet) (state : StemState) :
    StemState :=
  let live := matchLeadingNumber tables state.stem
  let chosen := live.or
    (if enabled.contains .normalizeSeparators then none
    else matchLeadingNumber tables (normalizeSeparators state.stem))
  match chosen with
  | none => state
  | some chosen =>
    let confidence : CleanupConfidence := if context.numbersCorroborated then .high else .low
    let extraction :=
      if state.extraction.trackNumber.isNone ∧ chosen.track.isSome then
        { state.extraction with
          trackNumber := chosen.track
          discNumber := chosen.disc
          numberConfidence := some confidence }
      else state.extraction
    match live with
    | none => { state with extraction := extraction }
    | some live =>
      if enabled.contains .stripTrackNumbers then
        ⟨live.rest, extraction, fireRule state.fired .stripTrackNumbers
          (if context.numbersCorroborated ∨ chosen.strong then .high else .low)⟩
      else { state with extraction := extraction }

/-- Takes a guess over, unless there is one of its kind. -/
def Extraction.take (extraction : Extraction) (guess : TagGuess) : Extraction :=
  match guess.field with
  | .artist =>
    if extraction.artist.isNone then
      { extraction with artist := some guess.value, artistConfidence := some guess.confidence }
    else extraction
  | .album =>
    if extraction.album.isNone then
      { extraction with album := some guess.value, albumConfidence := some guess.confidence }
    else extraction
  | _ => extraction

/-- Reads the segments at these positions; the number is how many have been dropped. -/
def readSegments (track : IndexedTrack) (context : FolderContext) (enabled : CleanupRuleSet)
    (parts : List (List Char)) : List ℕ → ℕ × StemState → ℕ × StemState
  | [], state => state
  | position :: rest, (dropCount, state) =>
    if parts.length - dropCount < 2 then (dropCount, state)
    else
      match (parts[position]?).bind fun segment =>
          classifySegment tables segment position parts.length track context with
      | none => (dropCount, state)
      | some classification =>
        let extraction := (classification.guess.map state.extraction.take).getD state.extraction
        if enabled.contains classification.rule then
          readSegments track context enabled parts rest (dropCount + 1,
            ⟨state.stem, extraction,
              fireRule state.fired classification.rule classification.confidence⟩)
        else if position = 0 then (dropCount, { state with extraction := extraction })
        else
          readSegments track context enabled parts rest
            (dropCount, { state with extraction := extraction })

def rewriteStem (rule : CleanupRule) (rewrite : List Char → List Char) (state : StemState) :
    StemState :=
  if rewrite state.stem = state.stem then state
  else { state with stem := rewrite state.stem, fired := fireRule state.fired rule .high }

def transformStem (original : List Char) (track : IndexedTrack) (context : FolderContext)
    (enabled : CleanupRuleSet) : StemState :=
  let state : StemState := ⟨original, Extraction.empty, ∅⟩
  let state :=
    if enabled.contains .normalizeSeparators then
      rewriteStem .normalizeSeparators normalizeSeparators state
    else state
  let state := consumeNumber tables context enabled state
  let parts := segments tables state.stem
  let (dropCount, state) := readSegments tables track context enabled parts [0, 1] (0, state)
  let state :=
    if dropCount = 0 then state
    else
      consumeNumber tables context enabled
        { state with stem := joinSegments (parts.drop dropCount) }
  let state :=
    if enabled.contains .stripJunk then rewriteStem .stripJunk (stripJunk tables) state else state
  let state :=
    if enabled.contains .normalizeCase ∧ state.stem ≠ [] ∧ oneCase tables state.stem then
      rewriteStem .normalizeCase (smartTitle tables) state
    else state
  let state :=
    if state.fired.isEmpty then state else { state with stem := tidy tables state.stem }
  if state.stem = [] then { state with stem := original, fired := ∅ } else state

def worstConfidence (confidences : List CleanupConfidence) : CleanupConfidence :=
  if confidences.any fun confidence => confidence = .low then .low else .high

/-! ## The plan -/

def tagSuggestion (trackId : TrackId) (field : CleanupTagField) (old new : Option CleanupValue)
    (rule : CleanupRule) (confidence : CleanupConfidence) (verified : Bool) : CleanupSuggestion :=
  ⟨trackId, .tag, some field, old, new, [rule.asStr], confidence, verified⟩

/-- A value that is proposed, how sure it is, and whether its kind may be wrong. -/
structure ValueChoice where
  value : Option (List Char)
  confidence : CleanupConfidence
  flippable : Bool
  deriving DecidableEq

def ValueChoice.none : ValueChoice := ⟨Option.none, .low, false⟩

def titleOperations (track : IndexedTrack) (context : FolderContext) (enabled : CleanupRuleSet) :
    List CleanupSuggestion :=
  if enabled.contains .tagTitle then
    let titleRules :=
      if enabled.contains .normalizeCase then allCleanupRules else defaultCleanupRules
    let state := transformStem tables (titleOf track) track context titleRules
    if state.fired.isEmpty = false ∧ state.stem ≠ [] ∧ state.stem ≠ titleOf track then
      [tagSuggestion track.id .title (some (.text (titleOf track))) (some (.text state.stem))
        .tagTitle (worstConfidence state.fired.values) false]
    else []
  else []

def artistAllowed (track : IndexedTrack) (enabled : CleanupRuleSet) : Bool :=
  enabled.contains .tagArtist && artistOf track = []

def albumAllowed (track : IndexedTrack) (context : FolderContext) (enabled : CleanupRuleSet) :
    Bool :=
  enabled.contains .tagAlbum && albumEmptyish tables track context

def chooseArtist (track : IndexedTrack) (context : FolderContext) (enabled : CleanupRuleSet)
    (extraction : Extraction) : ValueChoice :=
  if artistAllowed track enabled = false then .none
  else
    match extraction.artist.filter fun value => !isCollectiveArtist tables value with
    | some extracted =>
      let confidence := extraction.artistConfidence.getD .low
      ⟨some extracted, confidence, confidence = .low⟩
    | none =>
      if context.inheritArtist = false then .none
      else if trimChars (albumArtistOf track) ≠ [] then ⟨some (albumArtistOf track), .high, false⟩
      else if context.dominantArtist.isSome then
        ⟨context.dominantArtist, if context.dominantArtistUnanimous then .high else .low, false⟩
      else if context.folderArtist.any fun artist => !isGenericName tables artist then
        ⟨context.folderArtist, .low, true⟩
      else if context.albumish ∧ isGenericName tables context.grandparent = false then
        ⟨some context.grandparent, .low, true⟩
      else .none

def chooseAlbum (track : IndexedTrack) (context : FolderContext) (enabled : CleanupRuleSet)
    (extraction : Extraction) (artist : Option (List Char)) : ValueChoice :=
  if albumAllowed tables track context enabled = false then .none
  else
    match extraction.album with
    | some extracted =>
      let confidence :=
        if context.folderAlbum.any (looseEq tables extracted) then .high
        else extraction.albumConfidence.getD .low
      ⟨some extracted, confidence, confidence = .low⟩
    | none =>
      if context.inheritAlbum = false then .none
      else if context.dominantAlbum.isSome then
        ⟨context.dominantAlbum, if context.dominantAlbumUnanimous then .high else .low, false⟩
      else
        let artistish := [artistOf track, albumArtistOf track].filter (· ≠ []) ++
          [extraction.artist, artist, context.dominantArtist, context.folderArtist].flatMap
            Option.toList
        match context.folderAlbum.filter fun album =>
            !isGenericName tables album && !artistish.any fun artist => looseEq tables album artist with
        | some album => ⟨some album, if context.albumish then .high else .low, true⟩
        | none => .none

/-- The values that are proposed for the artist and the album, and how sure they are. -/
structure CreditChoice where
  artist : Option (List Char)
  artistConfidence : CleanupConfidence
  album : Option (List Char)
  albumConfidence : CleanupConfidence
  deriving DecidableEq

/-- A name that is known as the other kind changes its place, if its own place is doubtful. -/
def settleCredits (track : IndexedTrack) (context : FolderContext) (enabled : CleanupRuleSet)
    (artist album : ValueChoice) : CreditChoice :=
  let artistVerdict := knownKind tables artist.value context.verdicts
  let albumVerdict := knownKind tables album.value context.verdicts
  let flipArtist : Bool := artistVerdict = some .album && artist.flippable
  let flipAlbum : Bool := albumVerdict = some .artist && album.flippable
  let artistKept := if flipArtist then none else artist.value
  let albumKept := if flipAlbum then none else album.value
  let artistConfidence := if artistVerdict = some .artist then .high else artist.confidence
  let albumConfidence := if albumVerdict = some .album then .high else album.confidence
  let toArtist : Bool := flipAlbum && context.inheritArtist && artistAllowed track enabled &&
    artistKept.isNone && album.value.isSome
  let toAlbum : Bool := flipArtist && context.inheritAlbum && albumAllowed tables track context enabled &&
    albumKept.isNone && artist.value.isSome
  { artist := if toArtist then album.value else artistKept
    artistConfidence := if toArtist then .high else artistConfidence
    album := if toAlbum then artist.value else albumKept
    albumConfidence := if toAlbum then .high else albumConfidence }

/-- The doubtful names that nothing is known about. -/
def wantedLookups (context : FolderContext) (choices : List ValueChoice) : List (List Char) :=
  choices.foldl
    (fun wanted choice =>
      match choice.value.filter fun name =>
          (choice.flippable || choice.confidence = .low) &&
            (knownKind tables (some name) context.verdicts).isNone with
      | none => wanted
      | some name => if name ∈ wanted then wanted else wanted ++ [name]) []

def artistWithheld : String :=
  "Artist inheritance withheld: this folder has conflicting artist/album tags or a collective " ++
    "artist credit. Review per-track evidence."

def albumWithheld : String :=
  "Album, disc and year inheritance withheld: this folder contains conflicting album tags."

def creditOperations (track : IndexedTrack) (context : FolderContext) (credits : CreditChoice) :
    List CleanupSuggestion :=
  let known (name : List Char) (kind : NameVerdictKind) : Bool :=
    knownKind tables (some name) context.verdicts = some kind
  ((credits.artist.filter fun artist => !isCollectiveArtist tables artist).map fun artist =>
      tagSuggestion track.id .artist (some (.text [])) (some (.text artist)) .tagArtist
        credits.artistConfidence (known artist .artist)).toList ++
    ((credits.album.filter fun album => album ≠ albumOf track).map fun album =>
      tagSuggestion track.id .album (some (.text (albumOf track))) (some (.text album)) .tagAlbum
        credits.albumConfidence (known album .album)).toList

def numberOperations (track : IndexedTrack) (context : FolderContext) (enabled : CleanupRuleSet)
    (extraction : Extraction) : List CleanupSuggestion :=
  if enabled.contains .tagNumber then
    let confidence := extraction.numberConfidence.getD .low
    let numbered (present : Option ℕ) (field : CleanupTagField) (value : Option ℕ)
        (confidence : CleanupConfidence) : List CleanupSuggestion :=
      if present.isNone then
        (value.map fun value =>
          tagSuggestion track.id field none (some (.number value)) .tagNumber confidence false).toList
      else []
    let disc : Option ℕ × CleanupConfidence := match extraction.discNumber with
      | some disc => (some disc, confidence)
      | none => if context.inheritAlbum then (context.discFromFolder, .high) else (none, .low)
    numbered track.metadata.trackNo .trackNumber extraction.trackNumber confidence ++
      numbered track.metadata.discNo .discNumber disc.1 disc.2
  else []

def yearOperations (track : IndexedTrack) (context : FolderContext) (enabled : CleanupRuleSet) :
    List CleanupSuggestion :=
  if enabled.contains .tagYear ∧ context.inheritAlbum ∧ track.metadata.year.isNone then
    (context.folderYear.map fun year =>
      tagSuggestion track.id .year none (some (.number year)) .tagYear .high false).toList
  else []

def renameOperations (track : IndexedTrack) (state : StemState) : List CleanupSuggestion :=
  let original := (stemAndSuffix track.path.encoded).1
  if state.stem ≠ original ∧ state.fired.isEmpty = false then
    [{ trackId := track.id
       kind := .rename
       field := none
       old := some (.text original)
       new := some (.text state.stem)
       rules := (state.fired.keys.map CleanupRule.asStr).insertionSort (· ≤ ·)
       confidence := worstConfidence state.fired.values
       verified := false }]
  else []

def planTrack (track : IndexedTrack) (context : FolderContext) (enabled : CleanupRuleSet) :
    CleanupTrackPlan :=
  let state := transformStem tables (stemAndSuffix track.path.encoded).1 track context enabled
  let artist := chooseArtist tables track context enabled state.extraction
  let album := chooseAlbum tables track context enabled state.extraction artist.value
  let credits := settleCredits tables track context enabled artist album
  { trackId := track.id
    path := track.path.encoded
    operations := titleOperations tables track context enabled ++
      creditOperations tables track context credits ++
      numberOperations track context enabled state.extraction ++
      yearOperations track context enabled ++ renameOperations track state
    notes :=
      (if artistAllowed track enabled ∧ credits.artist.isNone ∧ context.inheritArtist = false then
        [artistWithheld] else []) ++
      (if albumAllowed tables track context enabled ∧ credits.album.isNone ∧
          context.inheritAlbum = false then [albumWithheld] else [])
    wantsLookup := wantedLookups tables context [artist, album] }

end Cleanup

end MusicServer
