/-
# The actions of a client

The actions a WebSocket client may send, as the protocol has parsed them, and
`playback_request` of `websocket.rs`, which turns an action of an authenticated session into
a command for the playback owner or a request against the catalogs.
-/
import MusicServer.CatalogCommands

namespace MusicServer.Protocol

/-- A parsed action.  Bounded texts and numbers are within their bounds by parsing; volumes
and intervals are checked again where they enter the domain. -/
inductive ClientAction where
  | register (name clientId : String)
  | pause
  | resume
  | setActiveMode (modeId : Option String)
  | setActiveOutputs (deviceIds : List String)
  | setDeviceVolume (deviceId : String) (volume : Float64)
  | positionReport (positionMs : ℕ)
  | ambientPlayTrack (trackId : ℤ)
  | ambientSetQueue (trackIds : List ℤ)
  | ambientJumpQueue (position : ℕ)
  | ambientEnqueue (trackId : ℤ) (position : Option ℤ)
  | ambientClearQueue
  | ambientSkipNext (fromTrackId : Option ℤ)
  | ambientSkipPrev
  | ambientSeek (positionMs : ℕ)
  | ambientSetLoop (loopMode : LoopMode)
  | ambientSetShuffle (shuffle : ShuffleMode)
  | ambientStop
  | ambientPlayPlaylist (playlistId : ℤ) (startIndex : ℕ)
  | ambientPlayFolder (path : String) (startIndex : ℕ)
  | setActiveSoundboard (soundboardId : Option String)
  | setActivePresets (presetIds : List String)
  | setCrossfade (crossfadeMs : ℕ) (crossfadeType : Option CrossfadeType)
  | fireInterruptTrack (duckTo : Option Float64) (trackId : ℤ) (returnToAmbient : Bool)
      (fadeInMs fadeOutMs : ℕ)
  | fireInterruptPlaylist (playlistId : ℤ) (returnToAmbient : Bool) (fadeInMs fadeOutMs : ℕ)
      (duckTo : Option Float64)
  | interruptSkipNext (fromTrackId : Option ℤ)
  | interruptSeek (positionMs : ℕ)
  | cancelInterrupt
  | fireSfx (soundboardId itemPath : String) (volume : Float64)
  | startLoop (id name soundboardId itemPath : String) (intervalS volume : Float64)
  | stopLoop (id : String)
  | fireCue (cueId : String)
  deriving DecidableEq

/-- A validated playback request translated from the wire protocol. -/
inductive PlaybackRequest where
  | direct (command : PlaybackCommand)
  | catalog (request : CatalogRequest)
  deriving DecidableEq

/-- `map_err` to the text the client is told. -/
def orDetail {ε α : Type} (detail : String) : Except ε α → Except String α
  | .ok value => .ok value
  | .error _ => .error detail

def trackId (value : ℤ) : Except String TrackId :=
  orDetail "track ID must be positive" (TrackId.new value)

def domainVolume (value : Float64) : Except String UnitInterval :=
  orDetail "volume is outside the supported range" (UnitInterval.new value)

def wireU32 (detail : String) (value : ℕ) : Except String ℕ :=
  if value ≤ u32Max then .ok value else .error detail

def optionally {α β : Type} (convert : α → Except String β) :
    Option α → Except String (Option β)
  | none => .ok none
  | some value => (convert value).map some

def interruptFade (returnToAmbient : Bool) (fadeInMs fadeOutMs : ℕ) (duckTo : Option Float64) :
    Except String InterruptFade := do
  let fadeInMs ← wireU32 "fade duration is too large" fadeInMs
  let fadeOutMs ← wireU32 "fade duration is too large" fadeOutMs
  let duckTo ← optionally domainVolume duckTo
  return { returnToAmbient, fadeInMs, fadeOutMs, duckTo }

/-- The actions of a connection (register, position, outputs, skip) are handled before. -/
def playbackRequest : ClientAction → Except String PlaybackRequest
  | .pause => .ok (.direct (.setPlaying false))
  | .resume => .ok (.direct (.setPlaying true))
  | .setDeviceVolume deviceId volume => do
    return .direct (.setDeviceVolume deviceId (← domainVolume volume))
  | .ambientJumpQueue position => .ok (.direct (.ambientJumpQueue position))
  | .ambientClearQueue => .ok (.direct .ambientClearQueue)
  | .ambientSkipPrev => .ok (.direct .ambientSkipPrevious)
  | .ambientSeek positionMs => .ok (.direct (.ambientSeek positionMs))
  | .ambientSetLoop loopMode => .ok (.direct (.ambientSetLoop loopMode))
  | .ambientSetShuffle shuffle => .ok (.direct (.ambientSetShuffle shuffle))
  | .ambientStop => .ok (.direct .ambientStop)
  | .setCrossfade crossfadeMs crossfadeType => do
    return .direct (.setCrossfade (← wireU32 "crossfade duration is too large" crossfadeMs)
      crossfadeType)
  | .interruptSkipNext fromTrackId => do
    return .direct (.interruptSkipNext (← optionally trackId fromTrackId))
  | .interruptSeek positionMs => .ok (.direct (.interruptSeek positionMs))
  | .cancelInterrupt => .ok (.direct .cancelInterrupt)
  | .stopLoop id => .ok (.direct (.stopLoop id))
  | .setActiveMode modeId => .ok (.catalog (.setActiveMode modeId))
  | .ambientPlayTrack id => do return .catalog (.playTrack (← trackId id))
  | .ambientSetQueue trackIds => do return .catalog (.setQueue (← trackIds.mapM trackId))
  | .ambientEnqueue id position => do
    return .catalog (.enqueue (← trackId id) (position.map (·.toNat)))
  | .ambientPlayPlaylist playlistId startIndex =>
    .ok (.catalog (.playPlaylist playlistId startIndex))
  | .ambientPlayFolder path startIndex => .ok (.catalog (.playFolder path startIndex))
  | .setActiveSoundboard soundboardId => .ok (.catalog (.setActiveSoundboard soundboardId))
  | .setActivePresets presetIds => .ok (.catalog (.setActivePresets presetIds))
  | .fireInterruptTrack duckTo id returnToAmbient fadeInMs fadeOutMs => do
    return .catalog (.interruptTrack (← trackId id)
      (← interruptFade returnToAmbient fadeInMs fadeOutMs duckTo))
  | .fireInterruptPlaylist playlistId returnToAmbient fadeInMs fadeOutMs duckTo => do
    return .catalog (.interruptPlaylist playlistId
      (← interruptFade returnToAmbient fadeInMs fadeOutMs duckTo))
  | .fireCue cueId => .ok (.catalog (.fireCue cueId))
  | .fireSfx soundboardId itemPath volume => do
    return .catalog (.fireSfx soundboardId itemPath (← domainVolume volume))
  | .startLoop id name soundboardId itemPath intervalS volume => do
    let volume ← domainVolume volume
    let loopingSfx ← orDetail "loop parameters are invalid"
      (LoopingSfx.new id name soundboardId itemPath intervalS volume)
    return .catalog (.startLoop loopingSfx)
  | .register _ _ | .positionReport _ | .setActiveOutputs _ | .ambientSkipNext _ =>
    .error "action was routed incorrectly"

end MusicServer.Protocol
