/-
# Finding the recording behind a track

`resolve_identity` with the retrieval stages it asks the catalog through: identifiers, text
searches, releases shared with the siblings of the track, artist aliases and the fingerprint.
The catalog is the other party of a dialogue; scores are exact numbers.
-/
import MusicServer.CatalogEvidence
import MusicServer.Dialogue

namespace MusicServer

namespace Enrichment

open LibraryIndex

/-! ## Asking the catalog -/

inductive CatalogQuestion where
  | recording (id : String)
  | searchIsrc (isrc : String)
  | searchMetadata (track : IndexedTrack)
  | searchAlbumMetadata (track : IndexedTrack) (releaseId : Option String)
  | searchArtists (name : String)
  | artist (id : String)
  | searchArtistRecordings (track : IndexedTrack) (artistId : String)
  | fingerprintCandidates (track : IndexedTrack) (apiKey : String)
  deriving DecidableEq

def CatalogAnswer : CatalogQuestion → Type
  | .recording _ => Except CatalogError Recording
  | .searchIsrc _ => Except CatalogError (List Candidate)
  | .searchMetadata _ => Except CatalogError (List Candidate)
  | .searchAlbumMetadata _ _ => Except CatalogError (List Candidate)
  | .searchArtists _ => Except CatalogError (List Artist)
  | .artist _ => Except CatalogError Artist
  | .searchArtistRecordings _ _ => Except CatalogError (List Candidate)
  | .fingerprintCandidates _ _ => Except CatalogError (List AcousticCandidate)

abbrev CatalogDialogue := Dialogue CatalogQuestion CatalogAnswer

namespace CatalogConnector

def recording (id : String) : CatalogDialogue (Except CatalogError Recording) :=
  .question (CatalogQuestion.recording id)

def searchIsrc (isrc : String) : CatalogDialogue (Except CatalogError (List Candidate)) :=
  .question (CatalogQuestion.searchIsrc isrc)

def searchMetadata (track : IndexedTrack) :
    CatalogDialogue (Except CatalogError (List Candidate)) :=
  .question (CatalogQuestion.searchMetadata track)

def searchAlbumMetadata (track : IndexedTrack) (releaseId : Option String) :
    CatalogDialogue (Except CatalogError (List Candidate)) :=
  .question (CatalogQuestion.searchAlbumMetadata track releaseId)

def searchArtists (name : String) : CatalogDialogue (Except CatalogError (List Artist)) :=
  .question (CatalogQuestion.searchArtists name)

def artist (id : String) : CatalogDialogue (Except CatalogError Artist) :=
  .question (CatalogQuestion.artist id)

def searchArtistRecordings (track : IndexedTrack) (artistId : String) :
    CatalogDialogue (Except CatalogError (List Candidate)) :=
  .question (CatalogQuestion.searchArtistRecordings track artistId)

def fingerprintCandidates (track : IndexedTrack) (apiKey : String) :
    CatalogDialogue (Except CatalogError (List AcousticCandidate)) :=
  .question (CatalogQuestion.fingerprintCandidates track apiKey)

end CatalogConnector

/-! ## Scores -/

def acoustidMinScore : ℚ := 85 / 100
def acoustidMinMargin : ℚ := 10 / 100
def metadataMinScore : ℚ := 86 / 100
def metadataMinMargin : ℚ := 5 / 100

def inUnitRange (score : ℚ) : Bool := 0 ≤ score && score ≤ 1

/-- The title a track is searched by, with its blanks. -/
def queryTitle (track : IndexedTrack) : String :=
  if trim track.metadata.title = "" then track.displayTitle else track.metadata.title

def durationMs (track : IndexedTrack) : ℕ := track.duration / 10 ^ 6

def durationCompatible (track : IndexedTrack) (lengthMs : Option ℕ) : Bool :=
  track.duration = 0 ||
    lengthMs.all fun length => ((durationMs track : ℤ) - (length : ℤ)).natAbs ≤ 10000

variable (rules : TextRules)

def durationScore (track : IndexedTrack) (lengthMs : Option ℕ) : ℚ :=
  match lengthMs.filter fun _ => track.duration ≠ 0 with
  | none => 1 / 2
  | some length =>
    let delta := ((durationMs track : ℤ) - (length : ℤ)).natAbs
    if delta ≤ 2000 then 1 else if delta ≤ 10000 then 6 / 10 else 0

def albumScore (track : IndexedTrack) (candidate : Candidate) : ℚ :=
  if trim track.metadata.album = "" then 1 / 2
  else if candidate.releases.any fun release =>
      looseEqual rules track.metadata.album release.title then 1
  else 0

def candidateScore (track : IndexedTrack) (candidate : Candidate) : ℚ :=
  let titleScore : ℚ := if looseEqual rules (queryTitle track) candidate.title then 1 else 0
  let artistScore : ℚ :=
    if looseEqual rules track.metadata.artist candidate.artist then 1 else 0
  min (candidate.providerScore * (4 / 10) + titleScore * (25 / 100) + artistScore * (2 / 10) +
    albumScore rules track candidate * (5 / 100) +
    durationScore track candidate.lengthMs * (1 / 10)) 1

/-- The candidates with a score in range, one for each id: the best, the first of equals. -/
def uniqueCandidates (track : IndexedTrack) (candidates : List Candidate) :
    BTreeMap String Candidate :=
  (candidates.filter fun candidate => inUnitRange candidate.providerScore).foldl
    (fun unique candidate =>
      let current := (unique[candidate.id]?).getD candidate
      unique.insert candidate.id
        (if candidateScore rules track current < candidateScore rules track candidate then candidate
        else current)) ∅

/-- The lead of the first of the ranked scores over the second. -/
def leadOf {α : Type} (score : ℚ) (others : List (α × ℚ)) : ℚ :=
  match others with
  | [] => 1
  | next :: _ => score - next.2

def selectCandidate (track : IndexedTrack) (candidates : List Candidate) : Option (Candidate × ℚ) :=
  let scored := (uniqueCandidates rules track candidates).values.map fun candidate =>
    (candidate, candidateScore rules track candidate)
  match scored.mergeSort fun left right => right.2 ≤ left.2 with
  | [] => none
  | (best, score) :: others =>
    if metadataMinScore ≤ score ∧ metadataMinMargin ≤ leadOf score others ∧
        looseEqual rules (queryTitle track) best.title ∧
        looseEqual rules track.metadata.artist best.artist ∧
        durationCompatible track best.lengthMs then
      some (best, score)
    else none

/-- Every recording that a fingerprint names is supported by it. -/
def acousticScores (candidates : List AcousticCandidate) : BTreeMap String ℚ :=
  (candidates.filter fun candidate => inUnitRange candidate.score).foldl
    (fun scores candidate =>
      (candidate.recordingIds.filter fun id => id ≠ "").foldl
        (fun scores id => scores.insert id (max ((scores[id]?).getD 0) candidate.score)) scores) ∅

def selectAcousticCandidate (candidates : List AcousticCandidate) : Option (String × ℚ) :=
  match (acousticScores candidates).toList.mergeSort fun left right => right.2 ≤ left.2 with
  | [] => none
  | best :: others =>
    if acoustidMinScore ≤ best.2 ∧ acoustidMinMargin ≤ leadOf best.2 others then some best else none

/-! ## Merging candidates -/

/-- Reads an optional value as the order of options has it: nothing comes first. -/
def optionLt {α : Type} (lt : α → α → Bool) : Option α → Option α → Bool
  | none, some _ => true
  | some a, some b => lt a b
  | _, none => false

def textLt (left right : String) : Bool := left < right

/-- The releases of two responses, one for each id: the least title and status. -/
def mergeReleases (releases : List ReleaseSummary) : BTreeMap String ReleaseSummary :=
  releases.foldl
    (fun merged release =>
      let existing := (merged[release.id]?).getD release
      let less := textLt release.title existing.title ||
        (release.title = existing.title && optionLt textLt release.status existing.status)
      merged.insert release.id (if less then release else existing)) ∅

def preferIncoming (current incoming : Candidate) : Bool :=
  current.providerScore < incoming.providerScore ||
    (incoming.providerScore = current.providerScore &&
      (textLt incoming.title current.title ||
        (incoming.title = current.title &&
          (textLt incoming.artist current.artist ||
            (incoming.artist = current.artist &&
              optionLt (fun left right => left < right) incoming.lengthMs current.lengthMs)))))

def mergeCandidate (candidates : BTreeMap String Candidate) (incoming : Candidate) :
    BTreeMap String Candidate :=
  if inUnitRange incoming.providerScore = false then candidates
  else
    match candidates[incoming.id]? with
    | none => candidates.insert incoming.id incoming
    | some current =>
      let releases := (mergeReleases (current.releases ++ incoming.releases)).values.take 100
      candidates.insert incoming.id
        (if preferIncoming current incoming then { incoming with releases := releases }
        else { current with releases := releases })

def mergeCandidates (candidates : BTreeMap String Candidate) (incoming : List Candidate) :
    BTreeMap String Candidate :=
  incoming.foldl mergeCandidate candidates

/-! ## The resolution so far -/

inductive IdentityMethod where
  | identifier
  | isrc
  | metadata
  | localHypothesis
  | fingerprint
  deriving DecidableEq

namespace IdentityMethod

def asStr : IdentityMethod → String
  | .identifier => "identifier"
  | .isrc => "isrc"
  | .metadata => "metadata"
  | .localHypothesis => "local_hypothesis"
  | .fingerprint => "fingerprint"

def isText : IdentityMethod → Bool
  | .metadata => true
  | .localHypothesis => true
  | _ => false

end IdentityMethod

structure Identity where
  id : String
  method : IdentityMethod
  score : ℚ
  recording : Recording
  deriving DecidableEq

/-- The result; `incomplete` is the source's `partial`. -/
structure IdentityResolution where
  identity : Option Identity
  candidates : List Candidate
  notes : List String
  incomplete : Bool
  deriving DecidableEq

namespace IdentityResolution

def note (result : IdentityResolution) (text : String) : IdentityResolution :=
  { result with notes := result.notes ++ [text] }

/-- A lookup failed: the result is incomplete, and says which one. -/
def failed (result : IdentityResolution) (error : CatalogError) (text : String) :
    IdentityResolution :=
  { result with incomplete := true, notes := result.notes ++ [error.annotate text] }

end IdentityResolution

/-- A recording that was matched before its details are looked up. -/
structure Match where
  id : String
  method : IdentityMethod
  score : ℚ
  deriving DecidableEq

structure Retrieval where
  candidates : BTreeMap String Candidate
  result : IdentityResolution
  matched : Option Match

namespace Retrieval

def merge (state : Retrieval) (values : List Candidate) : Retrieval :=
  { state with candidates := mergeCandidates state.candidates values }

def note (state : Retrieval) (text : String) : Retrieval :=
  { state with result := state.result.note text }

def failed (state : Retrieval) (error : CatalogError) (text : String) : Retrieval :=
  { state with result := state.result.failed error text }

end Retrieval

/-! ## Text searches -/

def selectTextIdentity (track hypothesis : IndexedTrack) (candidates : List Candidate) :
    Option Match :=
  let winners : BTreeMap String Match :=
    [(track, IdentityMethod.metadata), (hypothesis, IdentityMethod.localHypothesis)].foldl
      (fun winners query =>
        match selectCandidate rules query.1 candidates with
        | none => winners
        | some (candidate, score) =>
          if candidate.id ∈ winners then winners
          else winners.insert candidate.id ⟨candidate.id, query.2, score⟩) ∅
  if winners.size = 1 then winners.values.head? else none

def trimmedTitle (track : IndexedTrack) : String :=
  if trim track.metadata.title = "" then trim track.displayTitle else trim track.metadata.title

def albumQuery (query : IndexedTrack) (releaseId : Option String) : String :=
  releaseId.getD (trim query.metadata.album)

def albumScope (releaseId : Option String) : String :=
  if releaseId.isSome then "release ID" else "album title"

/-- One turn of the search within an album; what was asked for is not asked for again. -/
def retrieveAlbumTurn (releaseId : Option String)
    (turn : Retrieval × Bool × List (String × String)) (query : IndexedTrack) :
    CatalogDialogue (Retrieval × Bool × List (String × String)) :=
  let (state, complete, seen) := turn
  let title := trimmedTitle query
  let album := albumQuery query releaseId
  if title = "" ∨ album = "" ∨ (title, album) ∈ seen then return turn
  else do
    let seen := (title, album) :: seen
    match ← CatalogConnector.searchAlbumMetadata query releaseId with
    | .ok values =>
      let state := state.note ("Lookup by " ++ albumScope releaseId ++ " " ++ rules.debug album ++
        " and song title " ++ rules.debug title ++ " returned " ++
        toString (min values.length 25) ++ " candidates; existing identity checks still apply.")
      return (state.merge (values.take 25), complete, seen)
    | .error error =>
      return (state.failed error ("Lookup by " ++ albumScope releaseId ++ " was unavailable; " ++
        "independent recording and fingerprint lookup remain available."), false, seen)

/-- The state after both searches, and whether both went through. -/
def retrieveAlbumCandidates (track hypothesis : IndexedTrack) (releaseId : Option String)
    (state : Retrieval) : CatalogDialogue (Retrieval × Bool) := do
  let turn ← [track, hypothesis].foldlM (retrieveAlbumTurn rules releaseId) (state, true, [])
  return (turn.1, turn.2.1)

/-! ## Releases shared with siblings -/

structure Discovery where
  releases : List String
  notes : List String
  incomplete : Bool
  deriving DecidableEq

namespace Discovery

def empty : Discovery := ⟨[], [], false⟩

def note (discovery : Discovery) (text : String) : Discovery :=
  { discovery with notes := discovery.notes ++ [text] }

end Discovery

def maxAnchors : ℕ := 3
def maxReleases : ℕ := 2
def maxDiscFolders : ℕ := 20

def parentOf (track : IndexedTrack) : List Char :=
  ((rsplitOnce '/' track.path.encoded).map Prod.fst).getD []

/-- The album folder of a track in a numbered disc folder, and the number. -/
def discLocation (track : IndexedTrack) : Option (List Char × ℕ) :=
  (rsplitOnce '/' (parentOf track)).bind fun folders =>
    if folders.1 = [] then none
    else (cleanupDiscFolderNumber (String.ofList folders.2)).map fun number => (folders.1, number)

def pathIdLe (left right : IndexedTrack) : Bool :=
  textLt left.path.asStr right.path.asStr ||
    (left.path = right.path && left.id.get ≤ right.id.get)

def indexedContext (track : IndexedTrack) (tracks : List IndexedTrack) : List IndexedTrack :=
  let siblings := tracks.filter fun sibling =>
    parentOf sibling = parentOf track ||
      (discLocation track).any fun disc =>
        (rsplitOnce '/' (parentOf sibling)).any fun folders =>
          folders.1 = disc.1 && (cleanupDiscFolderNumber (String.ofList folders.2)).isSome
  siblings.mergeSort pathIdLe

/-- One sibling of a group of disc folders; `folders` is which folder claims which number. -/
def validateDiscSibling (album : String) (folders : BTreeMap ℕ (List Char))
    (sibling : IndexedTrack) : Except String (BTreeMap ℕ (List Char)) :=
  match discLocation sibling with
  | none => .error "a folder has no explicit disc number"
  | some (_, disc) =>
    let claimed := folders[disc]?
    let folders := folders.insert disc (parentOf sibling)
    if claimed.any fun previous => previous ≠ parentOf sibling then
      .error "multiple folders claim the same disc number"
    else if maxDiscFolders < folders.size then
      .error "more than 20 disc folders need manual grouping"
    else if sibling.metadata.discNo.any fun number => number ≠ disc then
      .error "a disc tag or imported position contradicts its folder number"
    else if trim sibling.metadata.album ≠ "" ∧
        looseEqual rules album sibling.metadata.album = false then
      .error "album tags or the current album evidence disagree"
    else .ok folders

def validateDiscGroup (hypothesis : IndexedTrack) (evidence : LocalEvidence)
    (siblings : List IndexedTrack) : Except String Unit :=
  let album := trim hypothesis.metadata.album
  if album = "" then .error "the current song has no album evidence"
  else if (evidence.values rules .album).toList.any fun value => !looseEqual rules album value then
    .error "embedded or imported album observations disagree"
  else
    match discLocation hypothesis with
    | none => .error "the current folder has no explicit disc number"
    | some (_, currentDisc) =>
      if (evidence.values rules .discNo).toList.any fun value =>
          parseU32 value.toList ≠ some currentDisc then
        .error "an embedded or imported disc position contradicts its folder number"
      else ((siblings ++ [hypothesis]).foldlM (validateDiscSibling rules album) ∅).map fun _ => ()

/-- Takes up to `count` anchors of different titles, from folders not used yet first. -/
def chooseAnchors (anchors : List IndexedTrack) :
    ℕ → List IndexedTrack → BTreeSet (List Char) → List IndexedTrack
  | 0, chosen, _ => chosen
  | count + 1, chosen, folders =>
    let distinct := anchors.filter fun sibling =>
      !chosen.any fun seen => looseEqual rules seen.metadata.title sibling.metadata.title
    let next := (distinct.find? fun sibling => parentOf sibling ∉ folders).or distinct.head?
    match next with
    | none => chosen
    | some next => chooseAnchors anchors count (chosen ++ [next]) (folders.insert (parentOf next))

structure AnchorState where
  discovery : Discovery
  recordings : BTreeSet String
  common : Option (BTreeSet String)

def trackLabel (track : IndexedTrack) : String :=
  "Sibling track " ++ toString track.id.get ++ " (" ++ rules.debug track.metadata.title ++ ", " ++
    rules.debug track.metadata.artist ++ ")"

/-- The release ids of a candidate that may be the album. -/
def eligibleReleases (album : String) (candidate : Candidate) : BTreeSet String :=
  .ofList ((((candidate.releases.take 100).filter fun release =>
      release.status.all (fun status => status = "Official") &&
        looseEqual rules album release.title)).filterMap fun release =>
    normalizedValue rules .releaseMbid release.id)

def anchorTurn (album : String) (state : AnchorState) (anchor : IndexedTrack) :
    CatalogDialogue AnchorState := do
  match ← CatalogConnector.searchMetadata anchor with
  | .error error =>
    let text := error.annotate ("Sibling lookup for track " ++ toString anchor.id.get ++
      " was unavailable; no album hint will be inferred from this incomplete lookup.")
    return { state with discovery := { state.discovery.note text with incomplete := true } }
  | .ok values =>
    match selectCandidate rules anchor (values.take 25) with
    | none =>
      return { state with discovery := state.discovery.note (trackLabel rules anchor ++
        " returned " ++ toString (min values.length 25) ++
        " candidates but no unambiguous title/artist/duration match.") }
    | some (candidate, _) =>
      if candidate.id ∈ state.recordings then return state
      else
        let releases := eligibleReleases rules album candidate
        let discovery := state.discovery.note (trackLabel rules anchor ++ " matched recording " ++
          candidate.id ++ " and supplied " ++ toString releases.size ++
          " eligible release hints for album " ++ rules.debug album ++ ".")
        let common := match state.common with
          | none => releases
          | some previous => previous.filter fun id => id ∈ releases
        return ⟨discovery, state.recordings.insert candidate.id, some common⟩

def agreedReleases (state : AnchorState) : Discovery :=
  if state.recordings.size < 2 ∨ state.discovery.incomplete then state.discovery
  else
    let releases := state.common.getD ∅
    let songs := toString state.recordings.size
    if releases.size = 0 ∨ maxReleases < releases.size then
      state.discovery.note ("Sibling release discovery withheld: " ++ songs ++
        " matched songs share " ++ toString releases.size ++
        " eligible releases; between one and " ++ toString maxReleases ++
        " shared releases are required for bounded retrieval.")
    else
      { state.discovery.note (songs ++ " independently titled sibling recordings agree on " ++
          toString releases.size ++
          " release hints. These only expand the current song's search; " ++
          "recording and edition checks still apply.") with
        releases := releases.toList }

/-- The siblings that may serve as anchors, the folder of the track first. -/
def anchorsOf (track : IndexedTrack) (acrossDiscs : Bool) (album : String)
    (siblings : List IndexedTrack) : List IndexedTrack :=
  let elsewhere (sibling : IndexedTrack) := acrossDiscs && parentOf sibling ≠ parentOf track
  let anchors := siblings.filter fun sibling =>
    sibling.id ≠ track.id && trim sibling.metadata.title ≠ "" &&
      trim sibling.metadata.artist ≠ "" && looseEqual rules album sibling.metadata.album
  anchors.mergeSort fun left right =>
    (!elsewhere left && elsewhere right) ||
      (elsewhere left = elsewhere right && pathIdLe left right)

/-- The siblings that are looked at, whether they cross disc folders, and what was noted. -/
def siblingGroup (track hypothesis : IndexedTrack) (evidence : LocalEvidence)
    (indexedSiblings : List IndexedTrack) : List IndexedTrack × Bool × Discovery :=
  let siblings := indexedContext track indexedSiblings
  if siblings.any fun sibling => parentOf sibling ≠ parentOf track then
    match validateDiscGroup rules hypothesis evidence siblings with
    | .error reason =>
      (siblings.filter fun sibling => parentOf sibling = parentOf track, false,
        Discovery.empty.note ("Discovery across disc folders withheld: " ++ reason ++
          ". Same-folder evidence remains available."))
    | .ok _ =>
      (siblings, true, Discovery.empty.note ("Release discovery includes explicitly numbered " ++
        "sibling disc folders with consistent album and disc evidence. This does not select an " ++
        "edition or expand the review scope."))
  else (siblings, false, Discovery.empty)

def discoverReleases (track hypothesis : IndexedTrack) (evidence : LocalEvidence)
    (indexedSiblings : List IndexedTrack) : CatalogDialogue Discovery :=
  if parentOf track = [] then return Discovery.empty
  else
    let (siblings, acrossDiscs, discovery) :=
      siblingGroup rules track hypothesis evidence indexedSiblings
    match (siblings.map fun sibling => trim sibling.metadata.album).find? fun album =>
        album ≠ "" with
    | none => return discovery
    | some album =>
      let disagrees (other : String) := trim other ≠ "" && !looseEqual rules album other
      if siblings.any (fun sibling => disagrees sibling.metadata.album) ∨
          disagrees hypothesis.metadata.album then
        return discovery.note ("Sibling release discovery withheld: album tags in this folder " ++
          "disagree with each other or the current song's album evidence.")
      else
        let anchors := chooseAnchors rules (anchorsOf rules track acrossDiscs album siblings)
          maxAnchors [] ∅
        if anchors.length < 2 then return discovery
        else do
          let state ← anchors.foldlM (anchorTurn rules album) ⟨discovery, ∅, none⟩
          return agreedReleases state

/-! ## Artist aliases -/

structure AliasRetrieval where
  candidates : List Candidate
  notes : List String
  incomplete : Bool
  deriving DecidableEq

namespace AliasRetrieval

def empty : AliasRetrieval := ⟨[], [], false⟩

def note (aliases : AliasRetrieval) (text : String) : AliasRetrieval :=
  { aliases with notes := aliases.notes ++ [text] }

def failed (aliases : AliasRetrieval) (text : String) : AliasRetrieval :=
  { aliases.note text with incomplete := true }

end AliasRetrieval

def maxArtists : ℕ := 3

/-- The query names an artist and a title, and the name can be asked for. -/
def aliasQuery (query : IndexedTrack) : Bool :=
  let name := trim query.metadata.artist
  name ≠ "" && trimmedTitle query ≠ "" && name.utf8ByteSize ≤ 512 && !name.toList.any isControl

def artistTurn (state : AliasRetrieval × BTreeMap String (BTreeSet String)) (name : String) :
    CatalogDialogue (AliasRetrieval × BTreeMap String (BTreeSet String)) := do
  match ← CatalogConnector.searchArtists name with
  | .ok values =>
    let aliases := state.1.note ("Artist name/alias search for " ++ rules.debug name ++
      " returned " ++ toString (min values.length 10) ++
      " candidates; spelling and identity still require separate checks.")
    return (aliases, (values.take 10).foldl
      (fun artists artist =>
        artists.insert artist.id (((artists[artist.id]?).getD ∅).insert name)) state.2)
  | .error error =>
    return (state.1.failed (error.annotate ("Artist name/alias search for " ++ rules.debug name ++
      " was unavailable.")), state.2)

/-- The spellings that the artist's own entry lists. -/
def verifiedNames (artist : Artist) (names : BTreeSet String) : BTreeSet String :=
  names.filter fun name =>
    (artist.name :: (artist.sortName.toList ++ artist.aliases.take 100)).any fun spelling =>
      looseEqual rules name spelling

/-- One query within one artist; what was asked for is not asked for again. -/
def artistRecordingsTurn (id : String) (artist : Artist) (verified : BTreeSet String)
    (state : AliasRetrieval × List (String × String)) (query : IndexedTrack) :
    CatalogDialogue (AliasRetrieval × List (String × String)) :=
  let (aliases, seen) := state
  let name := trim query.metadata.artist
  let title := trimmedTitle query
  if name ∉ verified ∨ (id, title) ∈ seen then return state
  else do
    let seen := (id, title) :: seen
    match ← CatalogConnector.searchArtistRecordings query id with
    | .ok values =>
      let aliases := aliases.note ("Catalog artist " ++ id ++ " (" ++ rules.debug artist.name ++
        ") lists spelling " ++ rules.debug name ++ "; song-title " ++ rules.debug title ++
        " lookup within that artist returned " ++ toString (min values.length 25) ++
        " candidates. This does not authorize replacing the credited artist or selecting an " ++
        "album edition.")
      return ({ aliases with candidates := aliases.candidates ++ values.take 25 }, seen)
    | .error error =>
      return (aliases.failed (error.annotate ("Song lookup within catalog artist " ++ id ++
        " was unavailable; other evidence remains available for review.")), seen)

def unlistedNote (id name : String) : String :=
  "Artist " ++ id ++ " did not list spelling " ++ rules.debug name ++
    " in the retrieved name, sort name or aliases; its recordings were not searched for that " ++
    "spelling."

/-- One artist that the names were found under. -/
def aliasTurn (queries : List IndexedTrack) (state : AliasRetrieval × List (String × String))
    (entry : String × BTreeSet String) :
    CatalogDialogue (AliasRetrieval × List (String × String)) := do
  let (id, names) := entry
  let unavailable := "Artist alias details for " ++ id ++
    " were unavailable or contradicted the requested ID."
  match ← CatalogConnector.artist id with
  | .error error => return (state.1.failed (error.annotate unavailable), state.2)
  | .ok artist =>
    if artist.id ≠ id then return (state.1.failed unavailable, state.2)
    else
      let verified := verifiedNames rules artist names
      let unlisted := names.toList.filter fun name => name ∉ verified
      let aliases := unlisted.foldl
        (fun aliases name => aliases.note (unlistedNote rules id name)) state.1
      queries.foldlM (artistRecordingsTurn rules id artist verified) (aliases, state.2)

def retrieveAliasCandidates (track hypothesis : IndexedTrack) : CatalogDialogue AliasRetrieval := do
  let queries := [track, hypothesis].filter aliasQuery
  let names : BTreeSet String := .ofList (queries.map fun query => trim query.metadata.artist)
  let (aliases, artists) ← names.toList.foldlM (artistTurn rules) (AliasRetrieval.empty, ∅)
  if maxArtists < artists.size then
    return aliases.note ("Artist alias expansion withheld: " ++ toString artists.size ++
      " artist IDs exceed the " ++ toString maxArtists ++
      "-artist review bound; no artist was chosen from this ambiguous list.")
  else do
    let (aliases, _) ← artists.toList.foldlM (aliasTurn rules queries) (aliases, [])
    return aliases

/-! ## The stages of retrieval -/

variable (track hypothesis : IndexedTrack) (evidence : LocalEvidence)

def isrcTurn (state : Retrieval) (isrc : String) : CatalogDialogue Retrieval := do
  match ← CatalogConnector.searchIsrc isrc with
  | .ok values => return state.merge (values.take 25)
  | .error error => return state.failed error "ISRC lookup was unavailable."

/-- The one recording that the codes lead to, unless the tags speak against it. -/
def isrcMatch (candidates : BTreeMap String Candidate) : Option Match :=
  let only := if candidates.size = 1 then candidates.values.head? else none
  (only.filter fun candidate =>
      durationCompatible track candidate.lengthMs &&
        (track.metadata.title = "" || looseEqual rules track.metadata.title candidate.title) &&
        (track.metadata.artist = "" || looseEqual rules track.metadata.artist candidate.artist)).map
    fun candidate => ⟨candidate.id, .isrc, 1⟩

def isrcStage (state : Retrieval) : CatalogDialogue Retrieval := do
  let state ← ((evidence.values rules .isrc).toList.take 3).foldlM isrcTurn state
  return { state with matched := isrcMatch rules track state.candidates }

def releaseStage (state : Retrieval) : CatalogDialogue Retrieval :=
  match state.matched, evidence.single rules .releaseMbid with
  | none, some id => do
    let (state, _) ← retrieveAlbumCandidates rules track hypothesis (some id) state
    return state
  | _, _ => return state

def metadataTurn (turn : Retrieval × List (String × String)) (query : IndexedTrack) :
    CatalogDialogue (Retrieval × List (String × String)) :=
  let (state, seen) := turn
  let key := (trimmedTitle query, trim query.metadata.artist)
  if key ∈ seen then return turn
  else do
    match ← CatalogConnector.searchMetadata query with
    | .ok values => return (state.merge (values.take 25), key :: seen)
    | .error error =>
      return (state.failed error ("Text lookup was unavailable; fingerprint fallback remains " ++
        "available when enabled."), key :: seen)

/-- The selection among everything retrieved so far. -/
def reselect (state : Retrieval) : Retrieval :=
  { state with matched := selectTextIdentity rules track hypothesis state.candidates.values }

def metadataStage (state : Retrieval) : CatalogDialogue Retrieval :=
  if state.matched.isSome then return state
  else do
    let (state, _) ← [track, hypothesis].foldlM metadataTurn (state, [])
    return reselect rules track hypothesis state

def albumStage (state : Retrieval) : CatalogDialogue Retrieval :=
  let releases := evidence.values rules .releaseMbid
  if state.matched.isSome then return state
  else if releases.size = 0 then do
    let (state, _) ← retrieveAlbumCandidates rules track hypothesis none state
    return reselect rules track hypothesis state
  else if 1 < releases.size then
    return state.note ("Release IDs disagree; album-scoped retrieval was withheld while " ++
      "independent recording lookup remains available.")
  else return state

def discoveredTurn (turn : Retrieval × Bool) (id : String) :
    CatalogDialogue (Retrieval × Bool) := do
  let (state, complete) ← retrieveAlbumCandidates rules track hypothesis (some id) turn.1
  return (state, turn.2 && complete)

def discoveryStage (indexedSiblings : List IndexedTrack) (state : Retrieval) :
    CatalogDialogue Retrieval :=
  if state.matched.isSome ∨ (evidence.values rules .releaseMbid).size ≠ 0 then return state
  else do
    let discovery ← discoverReleases rules track hypothesis evidence indexedSiblings
    let result := { state.result with
      incomplete := state.result.incomplete || discovery.incomplete
      notes := state.result.notes ++ discovery.notes }
    let (state, complete) ← discovery.releases.foldlM (discoveredTurn rules track hypothesis)
      ({ state with result := result }, true)
    return if complete then reselect rules track hypothesis state else state

def aliasStage (state : Retrieval) : CatalogDialogue Retrieval :=
  if state.matched.isSome then return state
  else do
    let aliases ← retrieveAliasCandidates rules track hypothesis
    let result := { state.result with
      incomplete := state.result.incomplete || aliases.incomplete
      notes := state.result.notes ++ aliases.notes }
    let state := ({ state with result := result }).merge aliases.candidates
    return if state.result.incomplete then state else reselect rules track hypothesis state

/-- The candidates as they are shown: the best first, and no more than 25. -/
def rankStage (state : Retrieval) : Retrieval :=
  let ranked := state.candidates.values.mergeSort fun left right =>
    let a := candidateScore rules hypothesis left
    let b := candidateScore rules hypothesis right
    b < a || (a = b && !textLt right.id left.id)
  { state with result := { state.result with candidates := ranked.take 25 } }

def fingerprintStage (acoustidKey : Option String) (state : Retrieval) :
    CatalogDialogue Retrieval :=
  match state.matched, acoustidKey with
  | none, some key => do
    match ← CatalogConnector.fingerprintCandidates track key with
    | .ok candidates =>
      let matched := (selectAcousticCandidate candidates).map fun best =>
        ⟨best.1, .fingerprint, best.2⟩
      return { state with matched := matched }
    | .error error =>
      return state.failed error ("Fingerprint lookup failed; text candidates remain available " ++
        "for review.")
  | _, _ => return state

/-! ## The decision -/

/-- The recording is named as the track or the hypothesis is. -/
def textAgrees (recording : Recording) : Bool :=
  [track, hypothesis].any fun query =>
    looseEqual rules (queryTitle query) recording.title &&
      looseEqual rules query.metadata.artist recording.artist

/-- The details of the matched recording speak for it or against it. -/
def confirmStage (state : Retrieval) : CatalogDialogue IdentityResolution :=
  match state.matched with
  | none => return state.result
  | some found => do
    match ← CatalogConnector.recording found.id with
    | .error error =>
      return state.result.failed error ("Recording details were unavailable; retrieved " ++
        "candidates remain available for review.")
    | .ok recording =>
      let textConflict := found.method.isText && !textAgrees rules track hypothesis recording
      if textConflict || !durationCompatible track recording.lengthMs then
        let result := { state.result with
          candidates := state.result.candidates.filter fun candidate => candidate.id ≠ found.id }
        return result.note ("Recording details contradict the title, artist or duration used " ++
          "for matching; the conflicting candidate was withheld.")
      else
        return { state.result with
          identity := some ⟨found.id, found.method, found.score, recording⟩ }

/-- Everything that the catalog finds without a recording id. -/
def retrieveStages (indexedSiblings : List IndexedTrack) (acoustidKey : Option String)
    (result : IdentityResolution) : CatalogDialogue Retrieval := do
  let state ← isrcStage rules track evidence ⟨∅, result, none⟩
  let state ← releaseStage rules track hypothesis evidence state
  let state ← metadataStage rules track hypothesis state
  let state ← albumStage rules track hypothesis evidence state
  let state ← discoveryStage rules track hypothesis evidence indexedSiblings state
  let state ← aliasStage rules track hypothesis state
  fingerprintStage track acoustidKey (rankStage rules hypothesis state)

def resolveFromCatalog (indexedSiblings : List IndexedTrack) (acoustidKey : Option String)
    (result : IdentityResolution) : CatalogDialogue IdentityResolution := do
  let state ← retrieveStages rules track hypothesis evidence indexedSiblings acoustidKey result
  confirmStage rules track hypothesis state

/-- The recording id that the evidence holds is looked up before anything else. -/
def resolveIdentity (indexedSiblings : List IndexedTrack) (acoustidKey : Option String) :
    CatalogDialogue IdentityResolution :=
  let result : IdentityResolution := ⟨none, [], evidence.notes, false⟩
  let ids := evidence.values rules .recordingMbid
  if 1 < ids.size then
    return result.note ("Embedded or imported recording IDs disagree. Resolve the conflicting " ++
      "IDs before catalog identification.")
  else
    match ids.toList.head? with
    | none => resolveFromCatalog rules track hypothesis evidence indexedSiblings acoustidKey result
    | some id => do
      match ← CatalogConnector.recording id with
      | .ok recording =>
        if durationCompatible track recording.lengthMs then
          return { result.note ("Recording identified by an embedded/imported MusicBrainz ID; " ++
              "verify the existing identifier belongs to this audio.") with
            identity := some ⟨id, .identifier, 1, recording⟩ }
        else
          return result.note ("The recording ID conflicts with the audio duration; no identity " ++
            "change was proposed.")
      | .error error =>
        resolveFromCatalog rules track hypothesis evidence indexedSiblings acoustidKey
          (result.failed error ("The embedded recording ID lookup failed; other evidence will " ++
            "still be tried."))

end Enrichment

end MusicServer
