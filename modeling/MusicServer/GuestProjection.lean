/-
# The state as a client receives it

`playback_projection.rs`: the public state of the protocol, built from a publication of the
owner (`canonicalState`), and the part of it that a session without an account receives
(`guestState`).
-/
import MusicServer.Actor

namespace MusicServer.Protocol

/-! ## The public state -/

structure DeviceInfo where
  deviceId : String
  clientId : String
  name : String
  isOutput : Bool
  deriving DecidableEq

structure PositionReport where
  deviceId : String
  positionMs : ℤ
  reportedAt : ℚ
  deriving DecidableEq

structure AmbientState where
  currentTrackId : Option ℤ
  queue : List ℤ
  history : List ℤ
  positionMs : ℤ
  positionAnchoredAt : Option ℚ
  loopMode : LoopMode
  shuffle : ShuffleMode
  sourcePlaylistId : Option ℤ
  deriving DecidableEq

structure InterruptState where
  currentTrackId : ℤ
  queue : List ℤ
  positionMs : ℤ
  positionAnchoredAt : Option ℚ
  returnToAmbient : Bool
  fadeInMs : ℤ
  fadeOutMs : ℤ
  duckTo : Option ℚ
  deriving DecidableEq

structure LoopingSfx where
  id : String
  name : String
  soundboardId : String
  itemPath : String
  intervalS : Float64
  volume : ℚ
  deriving DecidableEq

/-- The canonical player state; the enumerations are those of the domain. -/
structure PlayerState where
  revision : ℤ
  positionEpoch : ℤ
  isPlaying : Bool
  activeModeId : Option String
  activeOutputDeviceIds : List String
  multipleOutputs : Bool
  defaultDeviceVolume : ℚ
  deviceVolumes : BTreeMap String ℚ
  activeSoundboardId : Option String
  activePresetIds : List String
  presetRevision : ℤ
  crossfadeMs : ℤ
  crossfadeType : CrossfadeType
  ambient : AmbientState
  interrupt : Option InterruptState
  loopingSfx : List LoopingSfx
  lastPositionReport : Option PositionReport
  connectedDevices : List DeviceInfo
  deriving DecidableEq

inductive ErrorCode where
  | sessionExpired | sessionRevoked
  deriving DecidableEq

inductive ServerMessage where
  | stateSnapshot (yourDeviceId : String) (state : PlayerState)
  | stateChanged (state : PlayerState)
  | sfxFired (soundboardId itemPath : String) (volume : ℚ)
  | error (detail : String) (code : Option ErrorCode)
  deriving DecidableEq

/-! ## Building it -/

inductive ProjectionError where
  | numericRange
  deriving DecidableEq

def wireInteger (value : ℕ) : Except ProjectionError ℤ :=
  if value < 2 ^ 63 then .ok value else .error .numericRange

def wireLoop (loopingSfx : MusicServer.LoopingSfx) : LoopingSfx where
  id := loopingSfx.id
  name := loopingSfx.name
  soundboardId := loopingSfx.soundboardId
  itemPath := loopingSfx.itemPath
  intervalS := loopingSfx.intervalSeconds
  volume := loopingSfx.volume.get

def wireInterrupt (interrupt : MusicServer.InterruptState) (unixSeconds : ℚ) :
    Except ProjectionError InterruptState := do
  let positionMs ← wireInteger interrupt.positionMs
  return {
    currentTrackId := interrupt.currentTrackId.get
    queue := interrupt.queue.map (·.get)
    positionMs
    positionAnchoredAt := interrupt.positionAnchorMs.map fun _ => unixSeconds
    returnToAmbient := interrupt.returnToAmbient
    fadeInMs := interrupt.fadeInMs
    fadeOutMs := interrupt.fadeOutMs
    duckTo := interrupt.duckTo.map (·.get) }

def wireReport (report : MusicServer.PositionReport) : Except ProjectionError PositionReport := do
  let positionMs ← wireInteger report.positionMs
  return { deviceId := report.deviceId, positionMs, reportedAt := report.reportedAtUnixSeconds }

def wireDevice (client : ConnectedClient) : DeviceInfo where
  deviceId := client.clientId
  clientId := client.clientId
  name := client.name
  isOutput := client.isDefaultOutput

def wireOption {α β : Type} (convert : α → Except ProjectionError β) :
    Option α → Except ProjectionError (Option β)
  | none => .ok none
  | some value => (convert value).map some

def canonicalState (publication : PlaybackPublication) : Except ProjectionError PlayerState := do
  let state := publication.state
  let unixSeconds := publication.sampledAt.unixSeconds
  let revision ← wireInteger state.publicationRevision
  let positionEpoch ← wireInteger state.positionEpoch
  let presetRevision ← wireInteger state.presetRevision
  let ambientPositionMs ← wireInteger state.ambient.positionMs
  let interrupt ← wireOption (wireInterrupt · unixSeconds) state.interrupt
  let lastPositionReport ← wireOption wireReport state.lastPositionReport
  return {
    revision
    positionEpoch
    isPlaying := state.isPlaying
    activeModeId := state.activeModeId
    activeOutputDeviceIds := state.activeOutputDeviceIds
    multipleOutputs := state.multipleOutputs
    defaultDeviceVolume := state.defaultDeviceVolume.get
    deviceVolumes := state.deviceVolumes.map fun _ volume => volume.get
    activeSoundboardId := state.activeSoundboardId
    activePresetIds := state.activePresetIds
    presetRevision
    crossfadeMs := state.crossfadeMs
    crossfadeType := state.crossfadeType
    ambient := {
      currentTrackId := state.ambient.currentTrackId.map (·.get)
      queue := state.ambient.queue.map (·.get)
      history := state.ambient.history.map (·.get)
      positionMs := ambientPositionMs
      positionAnchoredAt := state.ambient.positionAnchorMs.map fun _ => unixSeconds
      loopMode := state.ambient.loopMode
      shuffle := state.ambient.shuffle
      sourcePlaylistId := state.ambient.sourcePlaylistId }
    interrupt
    loopingSfx := state.loopingSfx.map wireLoop
    lastPositionReport
    connectedDevices := publication.connectedClients.map wireDevice }

/-- The projection for a guest: of the outputs and the volumes only its own. -/
def guestState (state : PlayerState) (ownClientId : Option String) : PlayerState :=
  { state with
    activeOutputDeviceIds :=
      ((ownClientId.filter state.activeOutputDeviceIds.contains).map ([·])).getD []
    connectedDevices := []
    deviceVolumes := state.deviceVolumes.filter fun deviceId _ => ownClientId.any (· == deviceId) }

end MusicServer.Protocol
