/-
# The cleanup analysis of a catalog

The tracks of a scope are planned folder by folder.  A new file name that is in use, or that an
earlier plan of the folder proposes, gives way to one with a distinguishing tag, and where no tag
distinguishes it to a numbered one.  Which names are in use is a parameter here: the program asks
a map from folded names to one file each.
-/
import MusicServer.CleanupPlanning

namespace MusicServer

namespace Cleanup

open Enrichment LibraryIndex

/-! ## Folders -/

def groupByFolder (tracks : List IndexedTrack) : BTreeMap (List Char) (List IndexedTrack) :=
  tracks.foldl (fun grouped track =>
    grouped.insert (parent track.path.encoded)
      ((grouped[parent track.path.encoded]?).getD [] ++ [track])) ∅

def pathLe (left right : IndexedTrack) : Bool :=
  (compare left.path.encoded right.path.encoded).isLE

variable (tables : CleanupTables)

/-! ## Distinguishing names -/

def digits (number : ℕ) : List Char := (toString number).toList

def twoDigits (number : ℕ) : List Char :=
  if number < 10 then '0' :: digits number else digits number

/-- What the tags say of a track, in five ways. -/
def collisionLabel (track : IndexedTrack) (kind : ℕ) : List Char :=
  let artist := if isCollectiveArtist tables (artistOf track) then [] else trimChars (artistOf track)
  let album := trimChars (albumOf track)
  let disc := track.metadata.discNo.filter (0 < ·)
  let number := track.metadata.trackNo.filter (0 < ·)
  let position := match disc, number with
    | some disc, some number =>
      "Disc ".toList ++ digits disc ++ " Track ".toList ++ twoDigits number
    | none, some number => "Track ".toList ++ twoDigits number
    | some disc, none => "Disc ".toList ++ digits disc
    | none, none => []
  match kind with
  | 0 => artist
  | 1 => album
  | 2 => position
  | 3 => if artist ≠ [] ∧ album ≠ [] then joinSegments [artist, album] else []
  | 4 => if album ≠ [] ∧ position ≠ [] then joinSegments [album, position] else []
  | _ => []

def portableCollisionPart (value : List Char) : List Char :=
  trimMatches [' ', '.'] (Cleanup.collapse (value.map fun c =>
    if isControl c ∨ c ∈ ['<', '>', ':', '"', '/', '\\', '|', '?', '*'] then '-' else c))

def byteLength (text : List Char) : ℕ := (text.map Char.utf8Size).sum

/-- The characters that fit into so many bytes. -/
def takeBytes : ℕ → List Char → List Char
  | _, [] => []
  | budget, c :: rest =>
    if c.utf8Size ≤ budget then c :: takeBytes (budget - c.utf8Size) rest else []

def collisionStem (stem label extension : List Char) : List Char :=
  let budget := 240 - byteLength extension
  let label := takeBytes (min (budget - 8) 96) (portableCollisionPart label)
  let annotation := ' ' :: '(' :: label ++ [')']
  let base := takeBytes (budget - byteLength annotation) (portableCollisionPart stem)
  trimEndMatches [' ', '.'] base ++ annotation

def numberedStem (stem suffix : List Char) (number : ℕ) : List Char :=
  collisionStem stem (digits number) suffix

/-- The numbers that the counter, of 32 bits and signed, can be advanced from 2. -/
def counterRoom : ℕ := 2 ^ 31 - 3

/-- Counts until a name is free; nothing is found if the counter runs over. -/
def countNames (occupied : List Char → Bool) (stem suffix : List Char) :
    ℕ → ℕ → List Char → Option (List Char)
  | 0, _, resolved => if occupied resolved then none else some resolved
  | room + 1, counter, resolved =>
    if occupied resolved then
      countNames occupied stem suffix room (counter + 1) (numberedStem stem suffix counter)
    else some resolved

/-! ## The names of a folder -/

/-- The file of each folded name; of several the last. -/
def existingNames (files : List IndexedTrack) : BTreeMap (List Char) TrackId :=
  files.foldl (fun existing file =>
    existing.insert (caseKey tables (leaf file.path.encoded)) file.id) ∅

/-- The look-up of a folded name for a plan: whether the map has another file under it. -/
def mappedToOther (files : List IndexedTrack) (id : TrackId) (key : List Char) : Bool :=
  ((existingNames tables files)[key]?).any fun owner => owner ≠ id

def tracksById (files : List IndexedTrack) : BTreeMap TrackId IndexedTrack :=
  files.foldl (fun tracks file => tracks.insert file.id file) ∅

/-- The new stem of the first rename, and where it is among the operations. -/
def renameOf (plan : CleanupTrackPlan) : Option (ℕ × List Char) :=
  (plan.operations.findIdx? fun operation => operation.kind = .rename).bind fun index =>
    (plan.operations[index]?).bind fun operation =>
      match operation.new with
      | some (.text stem) => some (index, stem)
      | _ => none

def suffixOf (plan : CleanupTrackPlan) : List Char := (stemAndSuffix plan.path).2

/-- The name that the plan proposes for the file. -/
def targetName (plan : CleanupTrackPlan) : Option (List Char) :=
  (renameOf plan).map fun rename => rename.2 ++ suffixOf plan

def targetOwners (plans : List CleanupTrackPlan) : BTreeMap (List Char) (List TrackId) :=
  plans.foldl (fun owners plan =>
    match targetName plan with
    | none => owners
    | some target =>
      owners.insert (caseKey tables target)
        ((owners[caseKey tables target]?).getD [] ++ [plan.trackId])) ∅

/-- The tracks that a distinguishing name has to tell the plan's track from. -/
def competitors (files : List IndexedTrack) (owners : BTreeMap (List Char) (List TrackId))
    (plan : CleanupTrackPlan) (key : List Char) : List IndexedTrack :=
  (((owners[key]?).getD [] ++ ((existingNames tables files)[key]?).toList).filter fun id =>
    id ≠ plan.trackId).filterMap fun id => (tracksById files)[id]?

/-- The names that a tag distinguishes from every competitor's. -/
def labelledStems (files : List IndexedTrack) (owners : BTreeMap (List Char) (List TrackId))
    (plan : CleanupTrackPlan) (stem : List Char) : List (List Char) :=
  let others := competitors tables files owners plan (caseKey tables (stem ++ suffixOf plan))
  match (tracksById files)[plan.trackId]? with
  | none => []
  | some track =>
    (List.range 5).filterMap fun kind =>
      let label := collisionLabel tables track kind
      if looseKey tables label = [] ∨ others.any (fun other =>
          looseEq tables label (collisionLabel tables other kind)) then none
      else some (collisionStem stem label (suffixOf plan))

def noRoomNote : String :=
  "The filename extension leaves insufficient room for a unique name; review this filename manually."

def collisionNote (target resolved : List Char) : String :=
  "\"" ++ String.ofList target ++
    "\" is already used or proposed in this folder; review the unique filename \"" ++
    String.ofList resolved ++ "\". This does not indicate duplicate audio."

/-- The stem for a rename, if there is room for one; nothing if the counter runs over. -/
def resolveStem (occupied : List Char → Bool) (labelled : List (List Char))
    (stem suffix : List Char) : Option (Option (List Char)) :=
  if occupied stem = false then some (some stem)
  else if 208 < byteLength suffix then some none
  else
    let resolved := (labelled.find? fun candidate => !occupied candidate).getD stem
    (countNames occupied stem suffix counterRoom 2 resolved).map some

def withStem (plan : CleanupTrackPlan) (index : ℕ) (stem resolved : List Char) : CleanupTrackPlan :=
  if resolved = stem then plan
  else
    { plan with
      operations := plan.operations.modify index fun rename =>
        { rename with
          new := some (.text resolved)
          rules := rename.rules ++ ["resolve_name_collision"]
          confidence := .low }
      notes := plan.notes ++
        [collisionNote (stem ++ suffixOf plan) (resolved ++ suffixOf plan)] }

/-- Whether a stem would make a name in use or one proposed already. -/
def occupiedFor (inUse : TrackId → List Char → Bool) (proposed : BTreeMap (List Char) TrackId)
    (plan : CleanupTrackPlan) (stem : List Char) : Bool :=
  inUse plan.trackId (caseKey tables (stem ++ suffixOf plan)) ||
    proposed.contains (caseKey tables (stem ++ suffixOf plan))

/-- One plan of a folder; `inUse` is how names are looked up. -/
def resolvePlan (inUse : TrackId → List Char → Bool) (files : List IndexedTrack)
    (owners : BTreeMap (List Char) (List TrackId)) (proposed : BTreeMap (List Char) TrackId)
    (plan : CleanupTrackPlan) : Option (CleanupTrackPlan × BTreeMap (List Char) TrackId) :=
  match renameOf plan with
  | none => some (plan, proposed)
  | some (index, stem) =>
    (resolveStem (occupiedFor tables inUse proposed plan)
      (labelledStems tables files owners plan stem) stem (suffixOf plan)).map fun
    | none =>
      ({ plan with
          operations := plan.operations.eraseIdx index
          notes := plan.notes ++ [noRoomNote] }, proposed)
    | some resolved =>
      (withStem plan index stem resolved,
        proposed.insert (caseKey tables (resolved ++ suffixOf plan)) plan.trackId)

/-- The plans of a folder, one after another. -/
def resolvePlans (inUse : TrackId → List Char → Bool) (files : List IndexedTrack)
    (owners : BTreeMap (List Char) (List TrackId)) :
    List CleanupTrackPlan → BTreeMap (List Char) TrackId → Option (List CleanupTrackPlan)
  | [], _ => some []
  | plan :: rest, proposed =>
    (resolvePlan tables inUse files owners proposed plan).bind fun resolved =>
      (resolvePlans inUse files owners rest resolved.2).map fun plans => resolved.1 :: plans

/-! ## The catalog -/

/-- The tracks that tell about a folder: those of the catalog. -/
def contextTracks (all : List IndexedTrack) (folder : List Char) (group : List IndexedTrack) :
    List IndexedTrack :=
  ((groupByFolder all)[folder]?).getD (group.insertionSort fun left right => pathLe left right)

/-- The plans of a folder before names are compared. -/
def folderPlans (enabled : CleanupRuleSet) (verdicts : Option NameVerdicts)
    (all : List IndexedTrack) (folder : List Char) (group : List IndexedTrack) :
    List CleanupTrackPlan :=
  let context := buildContext tables folder (contextTracks all folder group) verdicts
  (group.insertionSort fun left right => pathLe left right).map fun track =>
    planTrack tables track context enabled

def CleanupTrackPlan.isIdle (plan : CleanupTrackPlan) : Bool :=
  plan.operations.isEmpty && plan.notes.isEmpty && plan.wantsLookup.isEmpty

def analyzeFolder (enabled : CleanupRuleSet) (verdicts : Option NameVerdicts)
    (all : List IndexedTrack) (folder : List Char) (group : List IndexedTrack) :
    Option (List CleanupTrackPlan) :=
  let files := contextTracks all folder group
  let plans := folderPlans tables enabled verdicts all folder group
  (resolvePlans tables (mappedToOther tables files) files (targetOwners tables plans) plans ∅).map
    fun resolved => resolved.filter fun plan => !plan.isIdle

/-- The plans of a scope; nothing if a counter runs over. -/
def analyzeCleanup (scope all : List IndexedTrack) (enabled : CleanupRuleSet)
    (verdicts : Option NameVerdicts) : Option (List CleanupTrackPlan) :=
  ((groupByFolder scope).toList.mapM fun entry =>
    analyzeFolder tables enabled verdicts all entry.1 entry.2).map List.flatten

end Cleanup

end MusicServer
