/-
# The local playlist planner

`planner.rs`: what `suggest_local_playlist` makes of the tracks of the library and a request.  The
eligible tracks are ranked, diversified and cut to the limit of candidates; some of them are
selected, so that their duration comes close to the target, and put in the order of the energy
curve.  Scores, energies and durations are rational numbers.
-/
import MusicServer.CatalogEvidence
import MusicServer.LocalSearch
import MusicServer.MapInserts
import MusicServer.PlaybackState

namespace MusicServer.Planner

export LibraryIndex (IndexedTrack)

open LocalSearch (bestIndex search)

/-! ## Requests and prompts -/

inductive EnergyCurve where
  | steady
  | rising
  | falling
  | arc
  deriving DecidableEq

structure PlaylistSuggestionRequest where
  prompt : String
  targetMinutes : ℕ
  candidateLimit : ℕ
  minBpm : Option ℕ
  maxBpm : Option ℕ
  includeUnknownBpm : Bool
  excludeTrackIds : List TrackId
  energyCurve : EnergyCurve

def PlaylistSuggestionRequest.validate (request : PlaylistSuggestionRequest) :
    Except String Unit :=
  let promptLength := (Enrichment.trim request.prompt).length
  let unbounded (value : ℕ) := !(1 ≤ value && value ≤ 999)
  if !(2 ≤ promptLength && promptLength ≤ 500) then
    .error "prompt must contain between 2 and 500 characters"
  else if !(5 ≤ request.targetMinutes && request.targetMinutes ≤ 600) then
    .error "target_minutes must be between 5 and 600"
  else if !(5 ≤ request.candidateLimit && request.candidateLimit ≤ 100) then
    .error "candidate_limit must be between 5 and 100"
  else if 5000 < request.excludeTrackIds.length then
    .error "exclude_track_ids cannot exceed 5000 tracks"
  else if request.minBpm.any unbounded || request.maxBpm.any unbounded then
    .error "BPM bounds must be between 1 and 999"
  else if request.minBpm.any fun minimum => request.maxBpm.any fun maximum => maximum < minimum then
    .error "min_bpm cannot be greater than max_bpm"
  else .ok ()

structure PlaylistIntent where
  matchedMoods : List String
  searchTerms : List String
  energy : ℚ
  brightness : ℚ
  tension : ℚ
  deriving DecidableEq

structure MoodProfile where
  name : String
  aliases : List String
  energy : ℚ
  brightness : ℚ
  tension : ℚ

def moods : List MoodProfile :=
  [⟨"calm", ["ambient", "calm", "gentle", "peaceful", "quiet", "relaxed", "rest"],
    20 / 100, 60 / 100, 15 / 100⟩,
   ⟨"tense", ["investigation", "mystery", "ominous", "suspense", "tense", "tension"],
    50 / 100, 30 / 100, 82 / 100⟩,
   ⟨"combat", ["action", "battle", "boss", "combat", "epic", "fight", "intense"],
    90 / 100, 48 / 100, 76 / 100⟩,
   ⟨"dark", ["dark", "dread", "haunting", "horror", "scary", "sinister"],
    45 / 100, 12 / 100, 90 / 100⟩,
   ⟨"bright", ["bright", "happy", "hopeful", "joyful", "triumphant", "uplifting"],
    62 / 100, 88 / 100, 18 / 100⟩,
   ⟨"melancholy", ["grief", "melancholy", "sad", "somber", "sorrow", "tragic"],
    28 / 100, 14 / 100, 35 / 100⟩,
   ⟨"tavern", ["acoustic", "folk", "inn", "medieval", "tavern"], 44 / 100, 68 / 100, 18 / 100⟩,
   ⟨"festive", ["celebration", "dance", "dancing", "feast", "festive", "festival"],
    72 / 100, 82 / 100, 12 / 100⟩,
   ⟨"exploration", ["adventure", "exploration", "journey", "travel", "wilderness"],
    46 / 100, 58 / 100, 32 / 100⟩]

def stopWords : List String :=
  ["a", "an", "and", "for", "from", "in", "into", "music", "of", "on", "playlist", "song", "songs",
    "the", "to", "track", "tracks", "with"]

def genreEnergy : List (String × ℚ) :=
  [("ambient", 15 / 100), ("classical", 34 / 100), ("acoustic", 30 / 100), ("folk", 42 / 100),
    ("jazz", 45 / 100), ("soundtrack", 55 / 100), ("cinematic", 58 / 100),
    ("electronic", 68 / 100), ("rock", 72 / 100), ("dance", 82 / 100), ("metal", 90 / 100)]

/-- The lower case of a text, its decomposition, and the characters of the three mark
categories. -/
structure PromptRules where
  toLowercase : String → String
  nfkd : List Char → List Char
  isMark : Char → Bool

/-- A `BTreeSet` of texts, as the list that iterates it. -/
def btreeSet (values : List String) : List String := values.dedup.mergeSort (· ≤ ·)

/-- The runs of letters and digits; `current` is the one that is being read. -/
def runs (current : List Char) : List Char → List String
  | [] => if current = [] then [] else [String.ofList current]
  | c :: rest =>
    if c.isLower || c.isDigit then runs (current ++ [c]) rest
    else if current = [] then runs [] rest
    else String.ofList current :: runs [] rest

def tokens (rules : PromptRules) (value : String) : List String :=
  btreeSet (runs [] ((rules.nfkd (rules.toLowercase value).toList).filter fun c => !rules.isMark c))

def mean (values : List ℚ) (default : ℚ) : ℚ :=
  if values = [] then default else values.sum / values.length

def clamp (value : ℚ) : ℚ := max 0 (min value 1)

/-- Half of a unit is rounded away from zero. -/
def roundTo (value : ℚ) (digits : ℕ) : ℚ :=
  let scaled := value * 10 ^ digits
  (if 0 ≤ scaled then ⌊scaled + 1 / 2⌋ else ⌈scaled - 1 / 2⌉ : ℤ) / 10 ^ digits

/-- The moods with an alias among the tokens. -/
def moodsOf (found : List String) : List MoodProfile :=
  moods.filter fun profile => profile.aliases.any fun name => name ∈ found

def interpretPrompt (rules : PromptRules) (prompt : String) : PlaylistIntent :=
  let promptTokens := tokens rules prompt
  let matched := moodsOf promptTokens
  let allAliases := moods.flatMap (·.aliases)
  let semanticTerms := promptTokens.filter fun token => token ∉ stopWords && token ∉ allAliases
  let semanticTerms :=
    if semanticTerms = [] && matched.isEmpty then
      promptTokens.filter fun token => token ∉ stopWords
    else semanticTerms
  { matchedMoods := matched.map (·.name)
    searchTerms := semanticTerms
    energy := mean (matched.map (·.energy)) (1 / 2)
    brightness := mean (matched.map (·.brightness)) (1 / 2)
    tension := mean (matched.map (·.tension)) (1 / 2) }

/-! ## Ranking -/

/-- What the planner reads of a track's evidence. -/
structure AssistantTrackEvidence where
  track : IndexedTrack
  manualTags : List String

inductive Confidence where
  | low
  | medium
  | high
  deriving DecidableEq

structure SearchProfile where
  energy : ℚ
  brightness : ℚ
  tension : ℚ
  moods : List String

structure RankedTrack where
  track : IndexedTrack
  score : ℚ
  confidence : Confidence
  reasons : List String
  manualTags : List String
  planningEnergy : ℚ
  deriving DecidableEq

structure TrackFields where
  title : List String
  genre : List String
  origin : List String
  album : List String
  artist : List String
  path : List String
  manualTags : List String

def trackFieldTokens (rules : PromptRules) (track : IndexedTrack) (manualTags : List String) :
    TrackFields where
  title := tokens rules
    (if Enrichment.trim track.displayTitle = "" then track.metadata.title else track.displayTitle)
  genre := tokens rules track.metadata.genre
  origin := tokens rules track.origin
  album := tokens rules track.metadata.album
  artist := tokens rules track.metadata.artist
  path := tokens rules track.path.asStr
  manualTags := btreeSet (manualTags.flatMap (tokens rules))

def metadataSearchProfile (rules : PromptRules) (track : IndexedTrack) : SearchProfile :=
  let fields := trackFieldTokens rules track []
  let trackMoods := moodsOf (fields.title ++ fields.genre ++ fields.album)
  let energyValues := trackMoods.map (·.energy) ++
    (track.metadata.bpm.map fun bpm => clamp ((bpm - 55) / 125)).toList ++
    (genreEnergy.filter fun prior => prior.1 ∈ fields.genre).map Prod.snd
  { energy := mean energyValues (1 / 2)
    brightness := mean (trackMoods.map (·.brightness)) (1 / 2)
    tension := mean (trackMoods.map (·.tension)) (1 / 2)
    moods := trackMoods.map (·.name) }

/-- The weight of a field, for the best field that has a term. -/
def TrackFields.weights (fields : TrackFields) : List (List String × ℚ) :=
  [(fields.title, 14 / 10), (fields.genre, 14 / 10), (fields.origin, 12 / 10),
    (fields.album, 9 / 10), (fields.artist, 6 / 10), (fields.path, 5 / 10),
    (fields.manualTags, 2)]

def semanticMatch (terms : List String) (fields : TrackFields) : ℚ × List String :=
  if terms = [] then (0, [])
  else
    let best (term : String) : ℚ :=
      ((fields.weights.filter fun field => term ∈ field.1).map Prod.snd).foldl max 0
    let found := terms.filter fun term => 0 < best term
    (clamp ((found.map best).sum / (terms.length * (14 / 10))), found)

/-- The scores of a track and their weights: the tags, the moods and the words. -/
def weightedScores (intent : PlaylistIntent) (intentTokens : List String) (profile : SearchProfile)
    (manualScore : Option ℚ) (semanticScore : ℚ) : List (ℚ × ℚ) :=
  let weighted := (manualScore.map fun value => (value, (75 / 100 : ℚ))).toList
  let weighted :=
    if intent.matchedMoods = [] then weighted
    else
      let moodScore := mean [1 - |intent.energy - profile.energy|,
        1 - |intent.brightness - profile.brightness|, 
        1 - |intent.tension - profile.tension|] (1 / 2)
      weighted ++ [(moodScore, if weighted = [] then 68 / 100 else 55 / 100)]
  let weighted :=
    if intentTokens = [] then weighted
    else weighted ++ [(semanticScore, if weighted = [] then 1 else 3 / 10)]
  if weighted = [] then [(1 / 2, 1)] else weighted

/-- The tags that match a word or a mood of the prompt. -/
def matchedTags (rules : PromptRules) (matchTerms manualMoodMatches manualTags : List String) :
    List String :=
  manualTags.filter fun tag =>
    let tagTokens := tokens rules tag
    (tagTokens.any fun token => token ∈ matchTerms) ||
      moods.any fun mood => mood.name ∈ manualMoodMatches &&
        mood.aliases.any fun name => name ∈ tagTokens

def rankTrack (rules : PromptRules) (track : IndexedTrack) (intent : PlaylistIntent)
    (intentTokens matchTerms : List String) (profile : SearchProfile) (manualTags : List String) :
    RankedTrack :=
  let fields := trackFieldTokens rules track manualTags
  let (semanticScore, matchedTerms) := semanticMatch intentTokens fields
  let manualMatches := matchTerms.filter fun term => term ∈ fields.manualTags
  let manualMoods := (moodsOf fields.manualTags).map (·.name)
  let manualMoodMatches := intent.matchedMoods.filter fun mood => mood ∈ manualMoods
  let untagged := manualMatches = [] && manualMoodMatches = []
  -- the quotient by an empty list is zero, as the source has it
  let manualScore : Option ℚ :=
    if untagged then none
    else some (max (manualMatches.length / matchTerms.length)
      (manualMoodMatches.length / intent.matchedMoods.length))
  let weighted := weightedScores intent intentTokens profile manualScore semanticScore
  let evidenceCount := matchedTerms.length + profile.moods.length + manualMatches.length +
    manualMoodMatches.length +
    (if track.metadata.bpm.isSome && intent.matchedMoods ≠ [] then 1 else 0) +
    (if track.metadata.genre ≠ "" then 1 else 0)
  let rawScore := (weighted.map fun entry => entry.1 * entry.2).sum / (weighted.map Prod.snd).sum
  let reliability := min ((evidenceCount : ℚ) / 3) 1
  let score := clamp (rawScore * (88 / 100 + 12 / 100 * reliability))
  let score := manualScore.elim score fun value => max score (65 / 100 + 35 / 100 * value)
  let reasons :=
    (if untagged then [] else
      ["Your tags: " ++ ", ".intercalate
        ((matchedTags rules matchTerms manualMoodMatches manualTags).take 3)]) ++
    (if matchedTerms = [] then [] else
      ["Metadata matches: " ++ ", ".intercalate (matchedTerms.take 3)]) ++
    (if profile.moods = [] then [] else
      ["Search keywords: " ++ ", ".intercalate (profile.moods.take 2)]) ++
    match track.metadata.bpm with
    | none => []
    | some bpm =>
      if intent.matchedMoods = [] then []
      else if |intent.energy - profile.energy| ≤ 1 / 4 then
        ["Tempo metadata: " ++ toString bpm ++ " BPM supports the requested " ++
          (if intent.energy < 4 / 10 then "calmer" else "higher-energy") ++ " pace"]
      else ["Tempo metadata: " ++ toString bpm ++ " BPM"]
  let reasons :=
    if track.metadata.genre ≠ "" && reasons.length < 3 then
      reasons ++ ["Genre metadata: " ++ track.metadata.genre]
    else reasons
  let reasons :=
    if reasons = [] then ["Limited mood metadata; this is a low-confidence local match"]
    else reasons
  { track
    score
    confidence := if 3 ≤ evidenceCount then .high else if 0 < evidenceCount then .medium else .low
    reasons := reasons.take 4
    manualTags
    planningEnergy := profile.energy }

def eligible (request : PlaylistSuggestionRequest) (track : IndexedTrack) : Bool :=
  if track.id ∈ request.excludeTrackIds then false
  else
    match track.metadata.bpm with
    | none => request.includeUnknownBpm
    | some bpm => (request.minBpm.all fun minimum => minimum ≤ bpm) &&
        request.maxBpm.all fun maximum => bpm ≤ maximum

def rankedLe (left right : RankedTrack) : Bool :=
  right.score < left.score ||
    (left.score = right.score && left.track.id.get ≤ right.track.id.get)

/-! ## Diversity -/

abbrev Counts := BTreeMap String ℕ

def Counts.of (counts : Counts) (key : String) : ℕ := (counts[key]?).getD 0

/-- The artists, albums and origins taken so far. -/
structure Taken where
  artists : Counts
  albums : Counts
  origins : Counts

def countKey (rules : PromptRules) (value : String) : String :=
  rules.toLowercase (Enrichment.trim value)

def Counts.add (rules : PromptRules) (value : String) (counts : Counts) : Counts :=
  let key := countKey rules value
  if key = "" then counts else counts.insert key (counts.of key + 1)

def Taken.add (rules : PromptRules) (taken : Taken) (winner : RankedTrack) : Taken where
  artists := taken.artists.add rules winner.track.metadata.artist
  albums := taken.albums.add rules winner.track.metadata.album
  origins := taken.origins.add rules winner.track.origin

/-- The score less the penalties for what is taken already. -/
def adjustedScore (rules : PromptRules) (taken : Taken) (candidate : RankedTrack) : ℚ :=
  let penalty (counts : Counts) (value : String) (each most : ℚ) : ℚ :=
    let key := countKey rules value
    if key = "" then 0 else min (each * counts.of key) most
  candidate.score - (penalty taken.artists candidate.track.metadata.artist (8 / 100) (18 / 100) +
    penalty taken.albums candidate.track.metadata.album (5 / 100) (12 / 100) +
    penalty taken.origins candidate.track.origin (4 / 100) (8 / 100))

/-- The comparison of the adjusted scores, then of the scores, then of the ids. -/
def adjustedLe (rules : PromptRules) (taken : Taken) (left right : RankedTrack) : Bool :=
  let leftScore := adjustedScore rules taken left
  let rightScore := adjustedScore rules taken right
  leftScore < rightScore || (leftScore = rightScore && (left.score < right.score ||
    (left.score = right.score && right.track.id.get ≤ left.track.id.get)))

/-- Takes the best of the remaining tracks; of equals the last. -/
def diversify (rules : PromptRules) (taken : Taken) : ℕ → List RankedTrack → List RankedTrack
  | 0, _ => []
  | limit + 1, remaining =>
    let winner := (bestIndex (fun next kept => adjustedLe rules taken kept next) remaining).getD 0
    match remaining[winner]? with
    | none => []
    | some track =>
      track :: diversify rules (taken.add rules track) limit (remaining.eraseIdx winner)

/-! ## The selected tracks -/

/-- The duration in seconds, or three minutes where none is known. -/
def planningSeconds (seconds : ℚ) : ℚ := if 0 < seconds then seconds else 180

/-- `as_secs_f64` of a duration in nanoseconds. -/
def secondsOf (track : IndexedTrack) : ℚ := track.duration / 10 ^ 9

def planningDuration (item : RankedTrack) : ℚ := planningSeconds (secondsOf item.track)

abbrev Selection := Finset ℕ × ℚ

def poolError (target : ℚ) (selection : Selection) : ℚ := |selection.2 - target|

/-- Adds a track where that comes strictly closer to the target. -/
def addCloser (target : ℚ) (selection : Selection) (entry : ℚ × ℕ) : Selection :=
  if |selection.2 + entry.1 - target| < |selection.2 - target| then
    (insert entry.2 selection.1, selection.2 + entry.1)
  else selection

/-- Adding one track or removing one that is not the last. -/
def singleMoves (durations : List ℚ) (selection : Selection) : List Selection :=
  durations.zipIdx.filterMap fun entry =>
    if entry.2 ∈ selection.1 then
      if selection.1.card = 1 then none
      else some (selection.1.erase entry.2, selection.2 - entry.1)
    else some (insert entry.2 selection.1, selection.2 + entry.1)

def swapMoves (durations : List ℚ) (selection : Selection) : List Selection :=
  ((List.range durations.length).filter fun removed => removed ∈ selection.1).flatMap fun removed =>
    durations.zipIdx.filterMap fun entry =>
      if entry.2 ∈ selection.1 then none
      else some (insert entry.2 (selection.1.erase removed),
        selection.2 - durations.getD removed 0 + entry.1)

def poolMoves (durations : List ℚ) (selection : Selection) : List Selection :=
  singleMoves durations selection ++ swapMoves durations selection

/-- The greedy selection; where it takes nothing, the one track closest to the target. -/
def greedyPool (durations : List ℚ) (target : ℚ) : Selection :=
  let selection := durations.zipIdx.foldl (addCloser target) (∅, 0)
  if selection.1 = ∅ then
    let closest := (bestIndex (fun next kept => |next - target| < |kept - target|) durations).getD 0
    ({closest}, durations.getD closest 0)
  else selection

/-- The selected tracks and their seconds; `none` where the fuel for the search does not
suffice. -/
def defaultPool (fuel : ℕ) (ranked : List RankedTrack) (target : ℚ) :
    Option (List RankedTrack × ℚ) :=
  if ranked = [] then some ([], 0)
  else
    let durations := ranked.map planningDuration
    (search (poolError target) (poolMoves durations) fuel (greedyPool durations target)).map
      fun selection => ((ranked.zipIdx.filter fun entry => entry.2 ∈ selection.1).map Prod.fst,
        selection.2)

/-! ## The order of the selected tracks -/

/-- The lowest and the highest planning energy. -/
def energyRange (items : List RankedTrack) : ℚ × ℚ :=
  let energies := items.map (·.planningEnergy)
  (energies.min?.getD 0, energies.max?.getD 0)

def arcTargets (items : List RankedTrack) : List ℚ :=
  match items with
  | [] => []
  | first :: _ =>
    let (low, high) := energyRange items
    if items.length = 1 || high - low < 5 / 100 then
      List.replicate items.length first.planningEnergy
    else
      let peak : ℚ := 65 / 100
      (List.range items.length).map fun (index : ℕ) =>
        let position : ℚ := index / (items.length - 1)
        if position ≤ peak then low + (high - low) * (position / peak)
        else high - (high - low) * (65 / 100) * ((position - peak) / (1 - peak))

def ranks (items : List RankedTrack) : BTreeMap ℤ ℕ :=
  MapInserts.insertAll (items.zipIdx.map fun entry => (entry.1.track.id.get, entry.2)) ∅

def rankOf (rank : BTreeMap ℤ ℕ) (item : RankedTrack) : ℕ := (rank[item.track.id.get]?).getD 0

/-- Takes for each target the closest of the remaining items; of equals the one ranked first. -/
def followTargets (rank : BTreeMap ℤ ℕ) : List ℚ → List RankedTrack → List RankedTrack
  | [], _ => []
  | target :: targets, remaining =>
    let closer (next kept : RankedTrack) : Bool :=
      |next.planningEnergy - target| < |kept.planningEnergy - target| ||
        (|next.planningEnergy - target| = |kept.planningEnergy - target| &&
          rankOf rank next < rankOf rank kept)
    let winner := (bestIndex closer remaining).getD 0
    match remaining[winner]? with
    | none => []
    | some item => item :: followTargets rank targets (remaining.eraseIdx winner)

def sequenceDefaultPool (items : List RankedTrack) (curve : EnergyCurve) : List RankedTrack :=
  if curve = .steady || items.length < 2 then items
  else
    let rank := ranks items
    let byEnergy (lower : RankedTrack → RankedTrack → Bool) (left right : RankedTrack) : Bool :=
      lower left right ||
        (left.planningEnergy = right.planningEnergy && rankOf rank left ≤ rankOf rank right)
    match curve with
    | .rising => items.mergeSort (byEnergy fun left right =>
        left.planningEnergy < right.planningEnergy)
    | .falling => items.mergeSort (byEnergy fun left right =>
        right.planningEnergy < left.planningEnergy)
    | _ => followTargets rank (arcTargets items) items

/-! ## The suggestion -/

structure PlaylistPlan where
  energyCurve : EnergyCurve
  selectedTracks : ℕ
  selectedDurationS : ℚ
  deriving DecidableEq

structure PlaylistCandidate where
  trackId : TrackId
  path : String
  title : String
  displayTitle : String
  artist : String
  album : String
  origin : String
  genre : String
  manualTags : List String
  lengthS : ℚ
  bpm : Option ℕ
  matchScore : ℚ
  confidence : Confidence
  reasons : List String
  defaultSelected : Bool
  sequencePosition : Option ℕ
  planningEnergy : ℚ
  deriving DecidableEq

structure PlaylistSuggestion where
  engine : String
  libraryTracks : ℕ
  eligibleTracks : ℕ
  intent : PlaylistIntent
  plan : PlaylistPlan
  candidates : List PlaylistCandidate
  deriving DecidableEq

def candidateOf (selectedIds : List TrackId) (sequencePositions : BTreeMap ℤ ℕ)
    (item : RankedTrack) : PlaylistCandidate where
  trackId := item.track.id
  path := item.track.path.asStr
  title := item.track.metadata.title
  displayTitle := item.track.displayTitle
  artist := item.track.metadata.artist
  album := item.track.metadata.album
  origin := item.track.origin
  genre := item.track.metadata.genre
  manualTags := item.manualTags
  lengthS := max (secondsOf item.track) 0
  bpm := item.track.metadata.bpm
  matchScore := roundTo item.score 4
  confidence := item.confidence
  reasons := item.reasons
  defaultSelected := item.track.id ∈ selectedIds
  sequencePosition := sequencePositions[item.track.id.get]?
  planningEnergy := roundTo item.planningEnergy 4

/-- The eligible tracks with their scores, in the order of the source. -/
def rankedTracks (rules : PromptRules) (request : PlaylistSuggestionRequest)
    (source : List AssistantTrackEvidence) : List RankedTrack :=
  let prompt := Enrichment.trim request.prompt
  let intent := interpretPrompt rules prompt
  let matchTerms := (tokens rules prompt).filter fun token => token ∉ stopWords
  (source.filter fun evidence => eligible request evidence.track).map fun evidence =>
    rankTrack rules evidence.track intent intent.searchTerms matchTerms
      (metadataSearchProfile rules evidence.track) (evidence.manualTags.mergeSort (· ≤ ·))

/-- The candidates: first the selected tracks in their order, then the others. -/
def plannedCandidates (diversified pool planned : List RankedTrack) : List PlaylistCandidate :=
  let selectedIds := pool.map (·.track.id)
  let sequencePositions := MapInserts.insertAll
    (planned.zipIdx.map fun entry => (entry.1.track.id.get, entry.2 + 1)) ∅
  (planned ++ diversified.filter fun item => item.track.id ∉ selectedIds).map
    (candidateOf selectedIds sequencePositions)

def suggestLocalPlaylist (rules : PromptRules) (fuel : ℕ) (source : List AssistantTrackEvidence)
    (request : PlaylistSuggestionRequest) : Option (Except String PlaylistSuggestion) :=
  match request.validate with
  | .error e => some (.error e)
  | .ok _ =>
    let ranked := (rankedTracks rules request source).mergeSort rankedLe
    let diversified := diversify rules ⟨∅, ∅, ∅⟩ request.candidateLimit ranked
    (defaultPool fuel diversified (request.targetMinutes * 60)).map fun (pool, selectedSeconds) =>
      .ok
        { engine := "local-planner/v3"
          libraryTracks := source.length
          eligibleTracks := ranked.length
          intent := interpretPrompt rules (Enrichment.trim request.prompt)
          plan := ⟨request.energyCurve, pool.length, roundTo selectedSeconds 3⟩
          candidates := plannedCandidates diversified pool
            (sequenceDefaultPool pool request.energyCurve) }

end MusicServer.Planner
