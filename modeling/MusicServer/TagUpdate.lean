/-
# Staging a tag edit

A tag edit is checked field by field, its date fields are resolved against the file, and
the edited copy is read back before it may replace the file.  Reading and writing the tags
of a format is the work of its own library; what is done around it is modelled here.
-/
import MusicServer.LibraryMutation
import MusicServer.Reduce

namespace MusicServer

/-! ## Patches -/

inductive TagField where
  | title
  | artist
  | albumArtist
  | album
  | releaseDate
  | originalReleaseDate
  | composer
  | trackNumber
  | discNumber
  | year
  | genre
  | bpm
  deriving DecidableEq

inductive TagValue where
  | text (value : String)
  | number (value : ℕ)
  deriving DecidableEq

inductive MetadataError where
  | unsupportedFormat
  | externalToolRequired
  | emptyPatch
  | invalidDate (field : TagField)
  | conflictingDate
  | datePrecisionLoss
  | duplicateField (field : TagField)
  | wrongValueType (field : TagField)
  | textTooLong (field : TagField) (maximum : ℕ)
  | invalidTextCharacter (field : TagField)
  | numberOutOfRange (field : TagField) (maximum : ℕ)
  | stagedPathExists
  | io
  /-- The tag library cannot read or write the file, or changed what it must not. -/
  | format (message : String)
  | verification (field : TagField)
  deriving DecidableEq

namespace TagField

def all : List TagField :=
  [.title, .artist, .albumArtist, .album, .releaseDate, .originalReleaseDate, .composer,
    .trackNumber, .discNumber, .year, .genre, .bpm]

def isNumeric : TagField → Bool
  | .trackNumber => true
  | .discNumber => true
  | .year => true
  | .bpm => true
  | _ => false

def isText (field : TagField) : Bool := !field.isNumeric

end TagField

def maxTextLength : ℕ := 512

def maxGenreLength : ℕ := 128

def maxNumericValue : ℕ := 9999

def TagField.maxLength (field : TagField) : ℕ :=
  if field = .genre then maxGenreLength else maxTextLength

/-- The change of each field, where there is one; `none` within it clears the field. -/
abbrev TagPatch := TagField → Option (Option TagValue)

/-- `str::parse` of an unsigned number of 32 bits. -/
def parseU32 (text : List Char) : Option ℕ :=
  let digits := match text with
    | '+' :: rest => rest
    | _ => text
  if digits = [] ∨ ¬ digits.all Char.isDigit then none
  else
    let value := digits.foldl (fun value c => value * 10 + (c.toNat - '0'.toNat)) 0
    if value < 2 ^ 32 then some value else none

def daysOfMonth (year month : ℕ) : ℕ :=
  if month = 2 then
    if year % 400 = 0 ∨ (year % 4 = 0 ∧ year % 100 ≠ 0) then 29 else 28
  else if month = 4 ∨ month = 6 ∨ month = 9 ∨ month = 11 then 30
  else 31

/-- The year of a date of the form YYYY, YYYY-MM or YYYY-MM-DD. -/
def metadataDateYear (value : String) : Option ℕ :=
  let parts := value.toList.splitOn '-'
  let numbers := parts.map parseU32
  if ¬ parts.all (fun part => part.all Char.isDigit) then none
  else
    match parts.map List.length, numbers with
    | [4], [some year] => if 1 ≤ year then some year else none
    | [4, 2], [some year, some month] =>
      if 1 ≤ year ∧ 1 ≤ month ∧ month ≤ 12 then some year else none
    | [4, 2, 2], [some year, some month, some day] =>
      if 1 ≤ year ∧ 1 ≤ month ∧ month ≤ 12 ∧ 1 ≤ day ∧ day ≤ daysOfMonth year month then some year
      else none
    | _, _ => none

namespace TagPatch

def empty : TagPatch := fun _ => none

def isEmpty (patch : TagPatch) : Bool := TagField.all.all fun field => (patch field).isNone

def insert (patch : TagPatch) (field : TagField) (value : Option TagValue) : TagPatch :=
  Function.update patch field (some value)

def insertChange (patch : TagPatch) (field : TagField) (value : Option TagValue) :
    Except MetadataError TagPatch :=
  if (patch field).isSome then .error (.duplicateField field) else .ok (patch.insert field value)

def insertText (patch : TagPatch) (field : TagField) (value : String) :
    Except MetadataError TagPatch :=
  if !field.isText then .error (.wrongValueType field)
  else if value = "" then patch.insertChange field none
  else if (field = .releaseDate ∨ field = .originalReleaseDate) ∧ (metadataDateYear value).isNone then
    .error (.invalidDate field)
  else if '\x00' ∈ value.toList then .error (.invalidTextCharacter field)
  else if value.length > field.maxLength then .error (.textTooLong field field.maxLength)
  else patch.insertChange field (some (.text value))

def insertNumber (patch : TagPatch) (field : TagField) (value : ℕ) :
    Except MetadataError TagPatch :=
  if !field.isNumeric then .error (.wrongValueType field)
  else if value > maxNumericValue then .error (.numberOutOfRange field maxNumericValue)
  else patch.insertChange field (some (.number value))

end TagPatch

/-- The tag that holds a field of a track, if one does. -/
def mediaTagField : TrackMetadataField → Option TagField
  | .title => some .title
  | .artist => some .artist
  | .albumArtist => some .albumArtist
  | .album => some .album
  | .trackNumber => some .trackNumber
  | .discNumber => some .discNumber
  | .year => some .year
  | .releaseDate => some .releaseDate
  | .originalReleaseDate => some .originalReleaseDate
  | .composer => some .composer
  | .genre => some .genre
  | .bpm => some .bpm
  | .displayTitle => none
  | .origin => none

def insertPatchValue (tags : TagPatch) (change : TrackMetadataField × TrackMetadataPatchValue) :
    Except MetadataError TagPatch :=
  match mediaTagField change.1 with
  | none => .ok tags
  | some field =>
    match change.2 with
    | .text value => tags.insertText field value
    | .number value => tags.insertNumber field value
    | .cleared => tags.insertChange field none

def mediaTagPatch (patch : TrackMetadataPatch) : Except MetadataError TagPatch :=
  patch.changes.foldlM insertPatchValue .empty

/-! ## Reading a file's tags -/

/-- The tags a file carries; its year is read from its date. -/
structure AudioMetadata where
  title : String
  artist : String
  albumArtist : String
  album : String
  releaseDate : String
  originalReleaseDate : String
  composer : String
  trackNo : Option ℕ
  discNo : Option ℕ
  genre : String
  bpm : Option ℕ
  duration : ℕ
  deriving DecidableEq

namespace Enrichment

def isWhiteSpace (c : Char) : Bool :=
  (0x09 ≤ c.toNat && c.toNat ≤ 0x0d) || c.toNat = 0x20 || c.toNat = 0x85 || c.toNat = 0xa0 ||
    c.toNat = 0x1680 || (0x2000 ≤ c.toNat && c.toNat ≤ 0x200a) || c.toNat = 0x2028 ||
    c.toNat = 0x2029 || c.toNat = 0x202f || c.toNat = 0x205f || c.toNat = 0x3000

def trimChars (text : List Char) : List Char :=
  ((text.dropWhile isWhiteSpace).reverse.dropWhile isWhiteSpace).reverse

end Enrichment

def coerceNumber (value : String) : Option ℕ :=
  let head := Enrichment.trimChars
    (((Enrichment.trimChars value.toList).takeWhile (· ≠ '/')).takeWhile (· ≠ '-'))
  if head = [] then none else parseU32 head

namespace AudioMetadata

def year (metadata : AudioMetadata) : Option ℕ := coerceNumber metadata.releaseDate

def nonEmpty (value : String) : Option TagValue := if value = "" then none else some (.text value)

def value (metadata : AudioMetadata) : TagField → Option TagValue
  | .title => nonEmpty metadata.title
  | .artist => nonEmpty metadata.artist
  | .albumArtist => nonEmpty metadata.albumArtist
  | .album => nonEmpty metadata.album
  | .trackNumber => metadata.trackNo.map .number
  | .discNumber => metadata.discNo.map .number
  | .year => metadata.year.map .number
  | .releaseDate => nonEmpty metadata.releaseDate
  | .originalReleaseDate => nonEmpty metadata.originalReleaseDate
  | .composer => nonEmpty metadata.composer
  | .genre => nonEmpty metadata.genre
  | .bpm => metadata.bpm.map .number

end AudioMetadata

def formatYear (year : ℕ) : String :=
  String.ofList (List.replicate (4 - (Nat.toDigits 10 year).length) '0' ++ Nat.toDigits 10 year)

def requestedYear : Option TagValue → Option ℕ
  | some (.number value) => some value
  | _ => none

/-- The year field stands for the date: a full date is not cut down to its year. -/
def resolvePatch (patch : TagPatch) (current : AudioMetadata) : Except MetadataError TagPatch :=
  match patch .year with
  | none => .ok patch
  | some year =>
    let requested := requestedYear year
    let withoutYear := fun resolved : TagPatch => Function.update resolved .year none
    match patch .releaseDate with
    | some date =>
      let dateYear := match date with
        | some (.text value) => metadataDateYear value
        | _ => none
      if requested ≠ dateYear then .error .conflictingDate else .ok (withoutYear patch)
    | none =>
      if requested.isSome ∧ requested = current.year ∧ current.releaseDate ≠ "" then
        .ok (withoutYear (patch.insert .releaseDate (some (.text current.releaseDate))))
      else if current.releaseDate.utf8ByteSize > 4 then .error .datePrecisionLoss
      else .ok (withoutYear (patch.insert .releaseDate
        (requested.map fun year => .text (formatYear year))))

def verifyFields (metadata : AudioMetadata) (patch : TagPatch) :
    List TagField → Except MetadataError Unit
  | [] => .ok ()
  | field :: rest =>
    if ∀ expected ∈ patch field, metadata.value field = expected then
      verifyFields metadata patch rest
    else .error (.verification field)

def verifyPatch (metadata : AudioMetadata) (patch : TagPatch) : Except MetadataError Unit :=
  verifyFields metadata patch TagField.all

/-! ## Staging -/

/-- The tools that read and write tags, by the extension of the file: the tag library and,
for some formats, an external program. -/
structure MetadataAdapter where
  /-- The external program is there. -/
  ffmpeg : Bool
  readTags : List Char → List UInt8 → Except MetadataError AudioMetadata
  writeTags : List Char → List UInt8 → TagPatch → Except MetadataError (List UInt8)

namespace MetadataAdapter

def hasExtension (extension expected : List Char) : Bool :=
  extension.map Char.toLower = expected

variable (adapter : MetadataAdapter)

def read (extension : List Char) (bytes : List UInt8) : Except MetadataError AudioMetadata :=
  if (hasExtension extension "wma".toList || hasExtension extension "aac".toList) &&
      !adapter.ffmpeg then
    .error .externalToolRequired
  else adapter.readTags extension bytes

def stageUpdate (extension : List Char) (bytes : List UInt8) (patch : TagPatch) :
    Except MetadataError (List UInt8) :=
  if hasExtension extension "wma".toList && !adapter.ffmpeg then .error .externalToolRequired
  else if patch.isEmpty then .error .emptyPatch
  else if hasExtension extension "aac".toList then .error .unsupportedFormat
  else do
    let current ← adapter.read extension bytes
    let resolved ← resolvePatch patch current
    let staged ← adapter.writeTags extension bytes resolved
    let verified ← adapter.read extension staged
    verifyPatch verified resolved
    return staged

end MetadataAdapter

end MusicServer
