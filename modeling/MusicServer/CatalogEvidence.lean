/-
# Catalog observations and the evidence at hand

What an online catalog reports, what a file and an import say about a track, and how two texts
are compared without their spelling.  The Unicode tables and the layout of quoted texts are
given by `TextRules`.
-/
import MusicServer.LibraryIndex
import MusicServer.TagUpdate

namespace MusicServer

/-- What the comparison of texts takes from the Unicode tables, the lower case of a whole text,
the text that `{:?}` prints, and the identifiers that `Uuid::parse_str` reads. -/
structure TextRules where
  nfkd : List Char → List Char
  isCombiningMark : Char → Bool
  toLowercase : Char → List Char
  isAlphanumeric : Char → Bool
  lowercase : String → String
  debug : String → String
  parseUuid : String → Option (BitVec 128)

namespace Enrichment

open LibraryIndex

/-! ## Texts -/

def trim (text : String) : String := String.ofList (trimChars text.toList)

def cleanupLooseKey (rules : TextRules) (value : String) : List Char :=
  let decomposed := (rules.nfkd value.toList).filter fun c => !rules.isCombiningMark c
  decomposed.flatMap fun c => (rules.toLowercase c).flatMap fun lower =>
    if lower = 'ß' then ['s', 's'] else if rules.isAlphanumeric lower then [lower] else []

def looseEqual (rules : TextRules) (left right : String) : Bool :=
  cleanupLooseKey rules left ≠ [] && cleanupLooseKey rules left = cleanupLooseKey rules right

def hexDigit (value : ℕ) : Char :=
  if value < 10 then Char.ofNat ('0'.toNat + value) else Char.ofNat ('a'.toNat + value - 10)

/-- The `count` lowest hexadecimal digits of a number. -/
def hexDigits (value count : ℕ) : List Char :=
  (List.range count).reverse.map fun i => hexDigit (value / 16 ^ i % 16)

def hyphenated (id : BitVec 128) : String :=
  let group (low count : ℕ) := hexDigits (id.toNat / 16 ^ low) count
  String.ofList (group 24 8 ++ '-' :: group 20 4 ++ '-' :: group 16 4 ++ '-' :: group 12 4 ++
    '-' :: group 0 12)

/-- The number of a folder whose name is one of the words for a disc and one or two digits. -/
def cleanupDiscFolderNumber (name : String) : Option ℕ :=
  let text := trimChars name.toList
  -- the pattern ignores case, which also lets in the long s and the Kelvin sign
  let fold (c : Char) : Char :=
    if c = Char.ofNat 0x17f then 's' else if c = Char.ofNat 0x212a then 'k' else c.toLower
  let words := [['c', 'd'], ['d', 'i', 's', 'c'], ['d', 'i', 's', 'k']]
  let tails := words.filterMap fun word =>
    if (text.take word.length).map fold = word then some (text.drop word.length) else none
  (tails.head?.map fun tail =>
      tail.dropWhile fun c => isWhiteSpace c || c = '.' || c = '_' || c = '-').bind fun digits =>
    if 1 ≤ digits.length ∧ digits.length ≤ 2 ∧ digits.all Char.isDigit then
      (parseU32 digits).filter fun number => 0 < number
    else none

/-! ## What the catalog reports -/

structure ReleaseSummary where
  id : String
  title : String
  status : Option String
  deriving DecidableEq

/-- A recording that a search found; its score is a number as the catalog reports it. -/
structure Candidate where
  id : String
  title : String
  artist : String
  lengthMs : Option ℕ
  releases : List ReleaseSummary
  providerScore : ℚ
  deriving DecidableEq

structure ArtistCredit where
  artistId : String
  name : String
  joinPhrase : String
  deriving DecidableEq

structure Recording where
  title : String
  artist : String
  artistCredits : List ArtistCredit
  lookupNotes : List String
  firstReleaseDate : Option String
  releases : List ReleaseSummary
  releasesComplete : Bool
  genres : List String
  credits : List String
  composers : List String
  lengthMs : Option ℕ
  deriving DecidableEq

structure Artist where
  id : String
  name : String
  sortName : Option String
  aliases : List String
  creditAliases : List String
  deriving DecidableEq

structure AcousticCandidate where
  recordingIds : List String
  score : ℚ
  deriving DecidableEq

inductive CatalogFailure where
  | coolingDown
  | httpStatus (status : ℕ)
  | timeout
  | transport
  | invalidJson
  | invalidPayload
  | responseTooLarge
  | providerCode (code : ℕ)
  | httpProviderCode (status code : ℕ)
  deriving DecidableEq

namespace CatalogFailure

def display : CatalogFailure → String
  | .coolingDown => "provider cooldown; retry later"
  | .httpStatus status => "HTTP " ++ toString status
  | .timeout => "request timed out"
  | .transport => "connection or response transfer failed"
  | .invalidJson => "invalid JSON response"
  | .invalidPayload => "unexpected response structure"
  | .responseTooLarge => "response exceeded the size limit"
  | .providerCode code => "provider error code " ++ toString code
  | .httpProviderCode status code =>
    "HTTP " ++ toString status ++ "; provider error code " ++ toString code

end CatalogFailure

inductive CatalogError where
  | staleSource
  | musicBrainz
  | acoustIdUnavailable
  | acoustId
  | fingerprint
  | lastFmUnavailable
  | lastFm
  | storage
  | invalidResponse
  | musicBrainzFailure (failure : CatalogFailure)
  | acoustIdFailure (failure : CatalogFailure)
  | lastFmFailure (failure : CatalogFailure)
  deriving DecidableEq

namespace CatalogError

def annotate (error : CatalogError) (note : String) : String :=
  let details (provider : String) (failure : CatalogFailure) :=
    note ++ " Details: " ++ provider ++ ": " ++ failure.display ++ "."
  match error with
  | .musicBrainzFailure failure => details "MusicBrainz" failure
  | .acoustIdFailure failure => details "AcoustID" failure
  | .lastFmFailure failure => details "Last.fm" failure
  | _ => note

end CatalogError

/-! ## What the file and its imports say -/

inductive EvidenceField where
  | title
  | artist
  | albumArtist
  | album
  | trackNo
  | discNo
  | date
  | originalDate
  | composer
  | genre
  | recordingMbid
  | releaseMbid
  | releaseTrackMbid
  | releaseGroupMbid
  | isrc
  | barcode
  | catalogNumber
  deriving DecidableEq

def normalizedUuid (rules : TextRules) (value : String) : Option String :=
  ((rules.parseUuid value).filter fun id => id ≠ 0).map hyphenated

def normalizedIsrc (value : String) : Option String :=
  let chars := (value.toList.filter fun c => c ≠ '-').map Char.toUpper
  if chars.length = 12 ∧ (chars.take 2).all Char.isAlpha ∧
      ((chars.drop 2).take 3).all Char.isAlphanum ∧ (chars.drop 5).all Char.isDigit then
    some (String.ofList chars)
  else none

def normalizedPosition (value : String) : Option String :=
  ((parseU32 (value.toList.takeWhile fun c => c ≠ '/')).filter fun number =>
    1 ≤ number ∧ number ≤ 9999).map toString

def normalizedValue (rules : TextRules) (field : EvidenceField) (value : String) : Option String :=
  let value := trim value
  if value = "" ∨ 512 < value.utf8ByteSize ∨ value.toList.any isControl then none
  else
    match field with
    | .recordingMbid | .releaseMbid | .releaseTrackMbid | .releaseGroupMbid =>
      normalizedUuid rules value
    | .isrc => normalizedIsrc value
    | .trackNo | .discNo => normalizedPosition value
    | _ => some value

structure LocalObservation where
  field : EvidenceField
  value : String
  source : String
  deriving DecidableEq

structure LocalEvidence where
  observations : List LocalObservation
  notes : List String
  deriving DecidableEq

namespace LocalEvidence

variable (rules : TextRules) (evidence : LocalEvidence) (field : EvidenceField)

def values : BTreeSet String :=
  .ofList ((evidence.observations.filter fun observation => observation.field = field).filterMap
    fun observation => normalizedValue rules field observation.value)

def single : Option String :=
  let values := evidence.values rules field
  if values.size = 1 then values.toList.head? else none

end LocalEvidence

end Enrichment

end MusicServer
