/-
# Requests that name library or mode resources

`playback/catalog_commands.rs`: a request is resolved against the playback state and the
catalogs, and submitted at the generation of these catalogs; a resolution that went stale
is made once more.  Between its steps other requests, other messages to the owner and new
mode catalogs may come.  A `Room` is the owner, the mode coordinator and every request in
flight, and `Room.exec` runs one step of any of them.
-/
import MusicServer.ModeCatalog

namespace MusicServer

open Transition (System)

/-! ## Requests -/

def attempts : ℕ := 2

def u32Max : ℕ := 2 ^ 32 - 1

/-- A playback request whose references must exist in the current catalogs. -/
inductive CatalogRequest where
  | setActiveMode (modeId : Option String)
  | playTrack (trackId : TrackId)
  | setQueue (trackIds : List TrackId)
  | enqueue (trackId : TrackId) (position : Option ℕ)
  | playPlaylist (playlistId : ℤ) (startIndex : ℕ)
  | playFolder (path : String) (startIndex : ℕ)
  | setActiveSoundboard (soundboardId : Option String)
  | setActivePresets (presetIds : List String)
  | interruptTrack (trackId : TrackId) (fade : InterruptFade)
  | interruptPlaylist (playlistId : ℤ) (fade : InterruptFade)
  | fireCue (cueId : String)
  | fireSfx (soundboardId itemPath : String) (volume : UnitInterval)
  | startLoop (loopingSfx : LoopingSfx)
  deriving DecidableEq

/-- Playlist lookup failures that the client can act on. -/
inductive PlaylistProblem where
  | notFound | invalidRule | concurrentChange | unavailable
  deriving DecidableEq

inductive CatalogCommandError where
  | notReady
  | playbackFailed
  | catalogChanged
  | unknownMode (mode : String)
  | modeChanged
  | trackNotInLibrary
  | noActiveMode
  | noActiveModeForSoundboard
  | soundboardNotInActiveMode (soundboard mode : String)
  | soundboardChanged
  | unknownPresets (presets : List String)
  | presetCrossfadeTooLarge
  | presetSelectionChanged
  | playlist (problem : PlaylistProblem)
  | playlistEmpty
  | playlistTrackMissing
  | libraryUnavailable
  | noTracksInLibrary
  | noTracksInFolder (path : String)
  | unknownSoundboard (soundboard mode : String)
  | soundboardItemMissing (item soundboard : String)
  | soundboardItemChanged
  | unknownCue (cue mode : String)
  | cueUnknownPreset (preset : String)
  | cuePresetCrossfadeTooLarge
  | cueSfxUnknownSoundboard (soundboard mode : String)
  | cueSfxItemMissing (item soundboard : String)
  | cueLoopInvalid
  | volumeOutOfRange
  | cuePlaylistMissing (name mode : String)
  | cuePlaylistEmpty (name : String)
  | cueStartIndexTooLarge
  | activeModeChanged
  | cueChanged
  deriving DecidableEq

/-- A track of the index, as far as a folder request looks at it. -/
structure IndexedTrack where
  id : TrackId
  path : String
  deriving DecidableEq

structure PlaylistRecord where
  id : ℤ
  name : String
  modeId : Option String
  deriving DecidableEq

/-- What a resolution reads outside the owner and the mode catalog: the generation of the
library, before and after its tracks are read, and the playlists. -/
structure CatalogReads where
  libraryBefore : ℕ
  library : ℕ
  tracks : Option (List IndexedTrack)
  playlists : Except PlaylistProblem (List PlaylistRecord)
  playlistTracks : ℤ → Except PlaylistProblem (List TrackId)

/-! ## Resolution -/

/-- The crossfade of the last selected preset that sets one. -/
def ModeBundle.lastCrossfade (mode : ModeBundle) (presetIds : List String) : Option ℕ :=
  presetIds.foldl (fun effective presetId =>
    (mode.presets[presetId]?.bind (·.crossfadeMs)).or effective) none

def crossfadeU32 (error : CatalogCommandError) :
    Option ℕ → Except CatalogCommandError (Option ℕ)
  | none => .ok none
  | some milliseconds =>
    if milliseconds ≤ u32Max then .ok (some milliseconds) else .error error

/-- The active mode of a state, where a catalog has it. -/
def ModeCatalog.activeMode (catalog : ModeCatalog) (modeId : Option String) : Option ModeBundle :=
  modeId.bind fun modeId => catalog.modes[modeId]?

def resolvePresets (mode : Option ModeBundle) (presetIds : List String) :
    Except CatalogCommandError PlaybackCommand :=
  let unknown := presetIds.filter fun presetId => !mode.any (·.presets.contains presetId)
  if unknown.isEmpty then
    (crossfadeU32 .presetCrossfadeTooLarge (mode.bind (·.lastCrossfade presetIds))).map
      (.setActivePresets presetIds)
  else .error (.unknownPresets unknown)

/-- Resolve requests that only need the playback state and mode catalog. -/
def resolveSimple (request : CatalogRequest) (state : PlaybackState) (catalog : ModeCatalog) :
    Except CatalogCommandError PlaybackCommand :=
  match request with
  | .setActiveMode modeId =>
    match modeId.filter fun modeId => !catalog.modes.contains modeId with
    | some modeId => .error (.unknownMode modeId)
    | none => .ok (.setActiveMode modeId)
  | .playTrack trackId => .ok (.ambientPlayTrack trackId)
  | .setQueue trackIds => .ok (.ambientSetQueue trackIds)
  | .enqueue trackId position => .ok (.ambientEnqueue trackId position)
  | .interruptTrack trackId fade => .ok (.fireInterruptSequence [trackId] fade)
  | .setActiveSoundboard none => .ok (.setActiveSoundboard none)
  | .setActiveSoundboard (some soundboardId) =>
    match state.activeModeId with
    | none => .error .noActiveModeForSoundboard
    | some modeId =>
      if catalog.modes[modeId]?.any (·.soundboards.contains soundboardId) then
        .ok (.setActiveSoundboard (some soundboardId))
      else .error (.soundboardNotInActiveMode soundboardId modeId)
  | .setActivePresets presetIds =>
    resolvePresets (catalog.activeMode state.activeModeId) presetIds
  | _ => .error .playbackFailed

def CatalogReads.generation (reads : CatalogReads) (catalog : ModeCatalog) : CatalogGeneration :=
  ⟨reads.library, catalog.generation⟩

/-- The tracks of a playlist that has some; `empty` is told of one that has none. -/
def CatalogReads.tracksOf (reads : CatalogReads) (playlistId : ℤ) (empty : CatalogCommandError) :
    Except CatalogCommandError (List TrackId) :=
  match reads.playlistTracks playlistId with
  | .error problem => .error (.playlist problem)
  | .ok [] => .error empty
  | .ok trackIds => .ok trackIds

def isSeparator (c : Char) : Bool := c == '/' || c == '\\'

/-- The folder a request names: without separators around it, and with slashes inside. -/
def folderName (requested : String) : String :=
  let trimmed := (requested.toList.dropWhile isSeparator).reverse.dropWhile isSeparator
  .ofList (trimmed.reverse.map fun c => if c = '\\' then '/' else c)

def inFolder (folder path : String) : Bool :=
  folder.isEmpty || path == folder ||
    folder.toList.isPrefixOf path.toList && (path.toList.drop folder.length).head? == some '/'

/-- The tracks of a folder; `none` where the library changed while it was read. -/
def resolveFolder (requested : String) (startIndex : ℕ) (reads : CatalogReads) :
    Except CatalogCommandError (Option PlaybackCommand) :=
  match reads.tracks with
  | none => .error .libraryUnavailable
  | some tracks =>
    if reads.libraryBefore ≠ reads.library then .ok none
    else
      let trackIds :=
        (tracks.filter fun track => inFolder (folderName requested) track.path).map (·.id)
      if trackIds.isEmpty then
        .error (if requested.isEmpty then .noTracksInLibrary else .noTracksInFolder requested)
      else .ok (some (.ambientPlaySequence trackIds startIndex none))

def activeModeId (state : PlaybackState) : Except CatalogCommandError String :=
  match state.activeModeId with
  | none => .error .noActiveMode
  | some modeId => .ok modeId

def checkSoundboardItem (modeId soundboardId itemPath : String) (catalog : ModeCatalog) :
    Except CatalogCommandError Unit :=
  match catalog.modes[modeId]?.bind (·.soundboards[soundboardId]?) with
  | none => .error (.unknownSoundboard soundboardId modeId)
  | some soundboard =>
    if soundboard.items.any (·.file == itemPath) then .ok ()
    else .error (.soundboardItemMissing itemPath soundboardId)

def cueItem (mode : ModeBundle) (modeId soundboardId itemPath : String) :
    Except CatalogCommandError SoundboardItemDocument :=
  if !mode.soundboards.contains soundboardId then
    .error (.cueSfxUnknownSoundboard soundboardId modeId)
  else
    match mode.soundboardItem soundboardId itemPath with
    | none => .error (.cueSfxItemMissing itemPath soundboardId)
    | some item => .ok item

def volume (value : Float64) : Except CatalogCommandError UnitInterval :=
  match UnitInterval.new value with
  | .ok volume => .ok volume
  | .error _ => .error .volumeOutOfRange

def cuePreset (mode : ModeBundle) (presetId : String) : Except CatalogCommandError CuePreset :=
  match mode.presets[presetId]? with
  | none => .error (.cueUnknownPreset presetId)
  | some preset =>
    (crossfadeU32 .cuePresetCrossfadeTooLarge preset.crossfadeMs).map (⟨presetId, ·⟩)

def cueLoop (mode : ModeBundle) (modeId cueId : String) (spec : CueLoopDocument) (index : ℕ) :
    Except CatalogCommandError LoopingSfx := do
  let item ← cueItem mode modeId spec.soundboard spec.item
  let level ← volume spec.volume
  match LoopingSfx.new ("cue:" ++ cueId ++ ":" ++ toString index) item.name spec.soundboard
      spec.item spec.intervalSeconds level with
  | .ok loopingSfx => .ok loopingSfx
  | .error _ => .error .cueLoopInvalid

def cueSfx (mode : ModeBundle) (modeId : String) (spec : CueSfxDocument) :
    Except CatalogCommandError CueSfx := do
  let _ ← cueItem mode modeId spec.soundboard spec.item
  let level ← volume spec.volume
  return ⟨spec.soundboard, spec.item, level⟩

/-- The playlist of a cue: the first of its name among those of the mode. -/
def cuePlaylist (modeId : String) (cue : CueDocument) (name : String) (reads : CatalogReads) :
    Except CatalogCommandError CuePlaylist := do
  let candidates ←
    match reads.playlists with
    | .error problem => .error (.playlist problem)
    | .ok playlists => .ok (playlists.filter fun playlist =>
        playlist.modeId == some modeId && playlist.name == name)
  match (candidates.map (·.id)).min? with
  | none => .error (.cuePlaylistMissing name modeId)
  | some playlistId =>
    let trackIds ← reads.tracksOf playlistId (.cuePlaylistEmpty name)
    if cue.startIndex ≤ u64Max then return ⟨trackIds, cue.startIndex, cue.startMs, playlistId⟩
    else .error .cueStartIndexTooLarge

/-- `traverse` of an optional part of a cue. -/
def optionally {α β : Type} (resolve : α → Except CatalogCommandError β) :
    Option α → Except CatalogCommandError (Option β)
  | none => .ok none
  | some part => (resolve part).map some

def resolveCue (cueId modeId : String) (catalog : ModeCatalog) (reads : CatalogReads) :
    Except CatalogCommandError PlaybackCommand :=
  match catalog.modes[modeId]?.bind fun mode => mode.cues[cueId]?.map (mode, ·) with
  | none => .error (.unknownCue cueId modeId)
  | some (mode, cue) => do
    let preset ← optionally (cuePreset mode) cue.preset
    let loops ← cue.loops.zipIdx.mapM fun spec => cueLoop mode modeId cueId spec.1 spec.2
    let sfx ← cue.sfx.mapM (cueSfx mode modeId)
    let playlist ← optionally (cuePlaylist modeId cue · reads) cue.playlist
    return .fireCue ⟨modeId, cueId, preset, playlist, loops, sfx⟩

/-- Whether a request reads the playback state before it is resolved. -/
def CatalogRequest.observes : CatalogRequest → Bool
  | .playPlaylist _ _ => false
  | .playFolder _ _ => false
  | .interruptPlaylist _ _ => false
  | _ => true

def modeCatalog (catalog : Option ModeCatalog) : Except CatalogCommandError ModeCatalog :=
  match catalog with
  | none => .error .notReady
  | some catalog => .ok catalog

/-- The command of a request with the catalog it was resolved against, out of the state it
has read; `none` where what it has read changed meanwhile. -/
def CatalogRequest.resolve (request : CatalogRequest) (state : Option PlaybackState)
    (snapshot : Option ModeCatalog) (reads : CatalogReads) :
    Except CatalogCommandError (Option (PlaybackCommand × ModeCatalog)) :=
  match request, state with
  | .playFolder path startIndex, _ => do
    match ← resolveFolder path startIndex reads with
    | none => return none
    | some command => return some (command, ← modeCatalog snapshot)
  | .playPlaylist playlistId startIndex, _ => do
    let trackIds ← reads.tracksOf playlistId .playlistEmpty
    return some (.ambientPlaySequence trackIds startIndex (some playlistId),
      ← modeCatalog snapshot)
  | .interruptPlaylist playlistId fade, _ => do
    let trackIds ← reads.tracksOf playlistId .playlistEmpty
    return some (.fireInterruptSequence trackIds fade, ← modeCatalog snapshot)
  | _, none => .error .playbackFailed
  | .fireCue cueId, some state => do
    let modeId ← activeModeId state
    let catalog ← modeCatalog snapshot
    return some (← resolveCue cueId modeId catalog reads, catalog)
  | .fireSfx soundboardId itemPath volume, some state => do
    let modeId ← activeModeId state
    let catalog ← modeCatalog snapshot
    checkSoundboardItem modeId soundboardId itemPath catalog
    return some (.fireSfx soundboardId itemPath volume, catalog)
  | .startLoop loopingSfx, some state => do
    let modeId ← activeModeId state
    let catalog ← modeCatalog snapshot
    checkSoundboardItem modeId loopingSfx.soundboardId loopingSfx.itemPath catalog
    return some (.startLoop loopingSfx, catalog)
  | simple, some state => do
    let catalog ← modeCatalog snapshot
    return some (← resolveSimple simple state catalog, catalog)

def invalidReference : CatalogRequest → CatalogCommandError
  | .setActiveMode _ => .modeChanged
  | .setActiveSoundboard _ => .soundboardChanged
  | .setActivePresets _ => .presetSelectionChanged
  | _ => .trackNotInLibrary

/-! ## Requests in flight -/

/-- How far a request has come, with the locals it holds there. -/
inductive Progress where
  | started
  | observed (state : PlaybackState)
  | resolved (state : Option PlaybackState) (catalog : ModeCatalog) (command : PlaybackCommand)
      (generation : CatalogGeneration)
  /-- A cue the owner refused; the next snapshot tells whether its mode was left. -/
  | refused (modeId : Option String)
  | done (outcome : Except CatalogCommandError Unit)

structure InFlight where
  request : CatalogRequest
  attempt : ℕ
  progress : Progress

namespace InFlight

def finish (r : InFlight) (outcome : Except CatalogCommandError Unit) : InFlight :=
  { r with progress := .done outcome }

/-- The next attempt, or the end of the last one. -/
def retry (r : InFlight) : InFlight :=
  if r.attempt + 1 = attempts then r.finish (.error .catalogChanged)
  else { r with attempt := r.attempt + 1, progress := .started }

/-- The playback state has been read; a refused cue ends with it. -/
def observe (r : InFlight) (answer : Option PlaybackState) : InFlight :=
  match r.progress, answer with
  | .refused modeId, answer =>
    if answer.any fun state => state.activeModeId = modeId then r.finish (.error .cueChanged)
    else r.finish (.error .activeModeChanged)
  | _, some state => { r with progress := .observed state }
  | _, none => r.finish (.error .playbackFailed)

/-- The request is resolved against the snapshot of the mode coordinator. -/
def resolve (r : InFlight) (state : Option PlaybackState) (snapshot : Option ModeCatalog)
    (reads : CatalogReads) : InFlight :=
  match r.request.resolve state snapshot reads with
  | .error error => r.finish (.error error)
  | .ok none => r.retry
  | .ok (some (command, catalog)) =>
    { r with progress := .resolved state catalog command (reads.generation catalog) }

def refused (r : InFlight) (state : Option PlaybackState) : InFlight :=
  match r.request with
  | .playPlaylist _ _ => r.finish (.error .playlistTrackMissing)
  | .interruptPlaylist _ _ => r.finish (.error .playlistTrackMissing)
  | .playFolder _ _ => r.retry
  | .fireCue _ => { r with progress := .refused (state.bind (·.activeModeId)) }
  | .fireSfx _ _ _ => r.finish (.error .soundboardItemChanged)
  | .startLoop _ => r.finish (.error .soundboardItemChanged)
  | simple => if r.attempt + 1 = attempts then r.finish (.error (invalidReference simple))
    else r.retry

/-- What the owner answered to the submitted command. -/
def answered (r : InFlight) (state : Option PlaybackState)
    (outcome : Except PlaybackActorError PlaybackCommandResult) : InFlight :=
  match outcome with
  | .ok _ => r.finish (.ok ())
  | .error (.staleCatalog _ _) => r.retry
  | .error .invalidCatalogReference => r.refused state
  | .error _ => r.finish (.error .playbackFailed)

end InFlight

/-! ## The room -/

abbrev RequestId := ℕ

structure Room (Text : Type) where
  owner : World Text
  coordinator : ModeCoordinator
  requests : BTreeMap RequestId InFlight

inductive RoomLabel where
  | owner (turn : Turn)
  | publish (modes : BTreeMap String ModeBundle) (draw : Draw)
  | announce
  | arrive (id : RequestId) (request : CatalogRequest)
  | observe (id : RequestId) (draw : Draw)
  | resolve (id : RequestId) (reads : CatalogReads)
  | submit (id : RequestId) (draw : Draw)

/-- Mode catalogs come from the coordinator only. -/
def Turn.sparesModes : Turn → Bool
  | .message (.replaceModeCatalog _) _ => false
  | .message (.replaceCatalog _ _) _ => false
  | _ => true

namespace Room

variable {Text : Type} (codec : JsonCodec Text) (config : PlaybackActorConfig)

def update (room : Room Text) (id : RequestId) (r : InFlight) : Room Text :=
  { room with requests := room.requests.insert id r }

/-- `snapshot` of the owner: the answer, where the clock can be read. -/
def snapshot (w : World Text) (draw : Draw) : World Text × Option PlaybackState :=
  match draw.sample with
  | .ok sample =>
    let answer := publication w.actor sample
    ({ w with effects := w.effects ++ [.answered answer] }, some answer.state)
  | .error _ => (w, none)

def observe (room : Room Text) (id : RequestId) (draw : Draw) : Option (Room Text) :=
  match room.requests[id]? with
  | none => none
  | some r =>
    match r.progress with
    | .started =>
      if r.request.observes then
        let turn := snapshot room.owner draw
        some ({ room with owner := turn.1 }.update id (r.observe turn.2))
      else none
    | .refused _ =>
      let turn := snapshot room.owner draw
      some ({ room with owner := turn.1 }.update id (r.observe turn.2))
    | _ => none

def resolve (room : Room Text) (id : RequestId) (reads : CatalogReads) : Option (Room Text) :=
  match room.requests[id]? with
  | none => none
  | some r =>
    match r.progress with
    | .started =>
      if r.request.observes then none
      else some (room.update id (r.resolve none room.coordinator.current reads))
    | .observed state =>
      some (room.update id (r.resolve (some state) room.coordinator.current reads))
    | _ => none

def submit (room : Room Text) (id : RequestId) (draw : Draw) : Option (Room Text) :=
  match room.requests[id]? with
  | none => none
  | some r =>
    match r.progress with
    | .resolved state _ command generation =>
      let turn := room.owner.execute codec (.atGeneration command generation) draw
      match (World.survive turn).2 with
      | .error _ => none
      | .ok () => some ({ room with owner := turn.1 }.update id (r.answered state turn.2))
    | _ => none

/-- One step of the room, where the owner survives it. -/
def exec (room : Room Text) : RoomLabel → Option (Room Text)
  | .owner turn =>
    match room.owner.turn codec config turn with
    | (owner, .ok ()) => if turn.sparesModes then some { room with owner } else none
    | (_, .error _) => none
  | .publish modes draw =>
    (room.coordinator.publish codec room.owner modes draw).map fun published =>
      { room with coordinator := published.1, owner := published.2 }
  | .announce => room.coordinator.announce.map fun coordinator => { room with coordinator }
  | .arrive id request =>
    if room.requests.contains id then none else some (room.update id ⟨request, 0, .started⟩)
  | .observe id draw => room.observe id draw
  | .resolve id reads => room.resolve id reads
  | .submit id draw => room.submit codec id draw

end Room

/-- A room as the server starts it: no catalog anywhere, and no request. -/
def roomSystem {Text : Type} (codec : JsonCodec Text) (config : PlaybackActorConfig) :
    System (Room Text) RoomLabel where
  init room := (actorSystem codec config .default).init room.owner ∧
    room.coordinator = .default ∧ room.requests = ∅
  step room label room' := room.exec codec config label = some room'

end MusicServer
