/-
# The playback aggregate

The data model of `music-domain/src/playback.rs`: validated identifiers and values,
the two lanes, the looping effects, the commands, and the state the playback owner
keeps.  Unsigned machine integers are natural numbers with the overflow rules of the
operation that uses them; a 64-bit float is the rational it denotes or one
non-finite value.
-/
import Mathlib

namespace MusicServer

/-! ## Machine values -/

def u64Max : ℕ := 2 ^ 64 - 1

def checkedIncrement (n : ℕ) : Option ℕ := if n < u64Max then some (n + 1) else none

def saturatingAdd (a b : ℕ) : ℕ := min (a + b) u64Max

/-- The largest stored position, `i64::MAX`. -/
def maxPositionMs : ℕ := 2 ^ 63 - 1

theorem checkedIncrement_eq_some {n m : ℕ} (h : checkedIncrement n = some m) : m = n + 1 := by
  unfold checkedIncrement at h
  split at h
  · exact (Option.some.inj h).symm
  · cases h

/-- An `f64`, as far as the program tells them apart. -/
inductive Float64 where
  | finite (value : ℚ)
  | nonFinite
  deriving DecidableEq

def Float64.isFinite : Float64 → Bool
  | finite _ => true
  | nonFinite => false

/-- Membership in an inclusive range of finite bounds. -/
def Float64.inRange (low high : ℚ) : Float64 → Bool
  | finite value => low ≤ value ∧ value ≤ high
  | nonFinite => false

/-- The ordered map of the standard library. -/
abbrev BTreeMap (κ : Type) (ν : Type) [Ord κ] := Std.ExtTreeMap κ ν compare

/-- The ordered set of the standard library. -/
abbrev BTreeSet (κ : Type) [Ord κ] := Std.ExtTreeSet κ compare

/-! ## Errors and validated values -/

inductive PlaybackError where
  | invalidTrackId (value : ℤ)
  | invalidUnitInterval
  | invalidClock
  | invalidLoopingSfx
  | invalidCuePlayback
  | randomChoiceRequired
  | randomChoiceOutOfRange
  | positionEpochOverflow
  | presetRevisionOverflow
  deriving DecidableEq

/-- A track id; only positive ids can be built. -/
structure TrackId where
  get : ℤ
  positive : 0 < get
  deriving DecidableEq

theorem TrackId.two_pos : (0 : ℤ) < 2 := by decide

def TrackId.new (value : ℤ) : Except PlaybackError TrackId :=
  if h : 0 < value then .ok ⟨value, h⟩ else .error (.invalidTrackId value)

theorem TrackId.ext {a b : TrackId} (h : a.get = b.get) : a = b := by
  obtain ⟨a, ha⟩ := a
  obtain ⟨b, hb⟩ := b
  cases h
  rfl

instance : Ord TrackId := ⟨fun a b => compare a.get b.get⟩

theorem TrackId.compare_eq (a b : TrackId) : compare a b = compare a.get b.get := rfl

instance : Std.TransOrd TrackId where
  eq_swap {a b} := by
    rw [TrackId.compare_eq, TrackId.compare_eq]
    exact Std.OrientedOrd.eq_swap
  isLE_trans {a b c} hab hbc := by
    rw [TrackId.compare_eq] at *
    exact Std.TransOrd.isLE_trans hab hbc

instance : Std.LawfulEqOrd TrackId where
  compare_self {a} := by
    rw [TrackId.compare_eq]
    exact Std.ReflOrd.compare_self
  eq_of_compare {a b} h := by
    rw [TrackId.compare_eq] at h
    exact TrackId.ext (Std.LawfulEqOrd.eq_of_compare h)

/-- A volume or level between zero and one. -/
structure UnitInterval where
  get : ℚ
  nonneg : 0 ≤ get
  le_one : get ≤ 1
  deriving DecidableEq

def UnitInterval.new : Float64 → Except PlaybackError UnitInterval
  | .finite value =>
    if h : 0 ≤ value ∧ value ≤ 1 then .ok ⟨value, h.1, h.2⟩ else .error .invalidUnitInterval
  | .nonFinite => .error .invalidUnitInterval

def UnitInterval.default : UnitInterval := ⟨1, by norm_num, le_refl 1⟩

inductive LoopMode where
  | off | follow | queue | track
  deriving DecidableEq

inductive ShuffleMode where
  | off | random
  deriving DecidableEq

inductive CrossfadeType where
  | linear | equalPower | cut
  deriving DecidableEq

/-- A reading of the monotonic clock with the wall time of the same instant. -/
structure ClockSample where
  monotonicMs : ℕ
  unixSeconds : ℚ
  nonneg : 0 ≤ unixSeconds
  deriving DecidableEq

theorem epoch_nonneg : (0 : ℚ) ≤ 0 := le_refl 0

def ClockSample.new (monotonicMs : ℕ) : Float64 → Except PlaybackError ClockSample
  | .finite unixSeconds =>
    if h : 0 ≤ unixSeconds then .ok ⟨monotonicMs, unixSeconds, h⟩ else .error .invalidClock
  | .nonFinite => .error .invalidClock

/-! ## The lanes and the state -/

structure AmbientState where
  currentTrackId : Option TrackId
  queue : List TrackId
  history : List TrackId
  positionMs : ℕ
  positionAnchorMs : Option ℕ
  loopMode : LoopMode
  shuffle : ShuffleMode
  sourcePlaylistId : Option ℤ
  deriving DecidableEq

def AmbientState.default : AmbientState where
  currentTrackId := none
  queue := []
  history := []
  positionMs := 0
  positionAnchorMs := none
  loopMode := .off
  shuffle := .off
  sourcePlaylistId := none

structure InterruptState where
  currentTrackId : TrackId
  queue : List TrackId
  positionMs : ℕ
  positionAnchorMs : Option ℕ
  returnToAmbient : Bool
  fadeInMs : ℕ
  fadeOutMs : ℕ
  duckTo : Option UnitInterval
  deriving DecidableEq

structure LoopingSfx where
  id : String
  name : String
  soundboardId : String
  itemPath : String
  intervalSeconds : Float64
  volume : UnitInterval
  deriving DecidableEq

/-- The domain bounds that `LoopingSfx::new` and `fire_cue` both check. -/
def LoopingSfx.withinBounds (loopingSfx : LoopingSfx) : Bool :=
  !loopingSfx.name.isEmpty && !loopingSfx.soundboardId.isEmpty && !loopingSfx.itemPath.isEmpty &&
    loopingSfx.intervalSeconds.isFinite && loopingSfx.intervalSeconds.inRange 1 3600

def LoopingSfx.new (id name soundboardId itemPath : String) (intervalSeconds : Float64)
    (volume : UnitInterval) : Except PlaybackError LoopingSfx :=
  let loopingSfx : LoopingSfx := ⟨id, name, soundboardId, itemPath, intervalSeconds, volume⟩
  if id.isEmpty || !loopingSfx.withinBounds then .error .invalidLoopingSfx else .ok loopingSfx

structure CuePreset where
  presetId : String
  crossfadeMs : Option ℕ
  deriving DecidableEq

structure CuePlaylist where
  trackIds : List TrackId
  startIndex : ℕ
  startMs : ℕ
  sourcePlaylistId : ℤ
  deriving DecidableEq

structure CueSfx where
  soundboardId : String
  itemPath : String
  volume : UnitInterval
  deriving DecidableEq

structure CuePlayback where
  modeId : String
  cueId : String
  preset : Option CuePreset
  playlist : Option CuePlaylist
  loops : List LoopingSfx
  sfx : List CueSfx
  deriving DecidableEq

structure PositionReport where
  deviceId : String
  positionMs : ℕ
  reportedAtUnixSeconds : ℚ
  deriving DecidableEq

structure PlaybackState where
  publicationRevision : ℕ
  positionEpoch : ℕ
  isPlaying : Bool
  activeModeId : Option String
  activeOutputDeviceIds : List String
  /-- Whether the active mode lets several outputs play at once: derived by the owner
  from the mode catalog, never persisted. -/
  multipleOutputs : Bool
  defaultDeviceVolume : UnitInterval
  deviceVolumes : BTreeMap String UnitInterval
  activeSoundboardId : Option String
  activePresetIds : List String
  presetRevision : ℕ
  crossfadeMs : ℕ
  crossfadeType : CrossfadeType
  ambient : AmbientState
  interrupt : Option InterruptState
  loopingSfx : List LoopingSfx
  lastPositionReport : Option PositionReport
  deriving DecidableEq

def PlaybackState.default : PlaybackState where
  publicationRevision := 0
  positionEpoch := 0
  isPlaying := false
  activeModeId := none
  activeOutputDeviceIds := []
  multipleOutputs := false
  defaultDeviceVolume := UnitInterval.default
  deviceVolumes := ∅
  activeSoundboardId := none
  activePresetIds := []
  presetRevision := 0
  crossfadeMs := 0
  crossfadeType := .linear
  ambient := AmbientState.default
  interrupt := none
  loopingSfx := []
  lastPositionReport := none

/-- Remove session-only state, so that playback never advances through downtime. -/
def PlaybackState.normalizeForStartup (state : PlaybackState) : PlaybackState :=
  { state with
    isPlaying := false
    activeOutputDeviceIds := []
    loopingSfx := []
    interrupt := none
    ambient := { state.ambient with positionAnchorMs := none } }

/-- Adopt the active mode's output policy: leaving multi-output keeps the
longest-running output. -/
def PlaybackState.applyOutputPolicy (state : PlaybackState) (multipleOutputs : Bool) :
    PlaybackState × Bool :=
  let changed := state.multipleOutputs != multipleOutputs
  let state := { state with multipleOutputs }
  if !multipleOutputs && state.activeOutputDeviceIds.length > 1 then
    ({ state with activeOutputDeviceIds := state.activeOutputDeviceIds.take 1 }, true)
  else
    (state, changed)

/-! ## Commands, events and the result of a reduction -/

/-- How an interrupt takes over the ambient lane and hands it back. -/
structure InterruptFade where
  returnToAmbient : Bool
  fadeInMs : ℕ
  fadeOutMs : ℕ
  /-- Duck ambient to this level instead of pausing it. -/
  duckTo : Option UnitInterval
  deriving DecidableEq

inductive PlaybackCommand where
  | setPlaying (playing : Bool)
  | setActiveMode (modeId : Option String)
  | setActiveOutputs (deviceIds : List String)
  | registerDevice (deviceId : String) (activate : Bool)
  | removeActiveOutput (deviceId : String)
  | setDeviceVolume (deviceId : String) (volume : UnitInterval)
  | setActiveSoundboard (soundboardId : Option String)
  | setActivePresets (presetIds : List String) (crossfadeMs : Option ℕ)
  | presetsChanged (activePresetIds : Option (List String)) (crossfadeMs : Option ℕ)
  | setCrossfade (crossfadeMs : ℕ) (crossfadeType : Option CrossfadeType)
  | reportPosition (deviceId : String) (positionMs : ℕ)
  | ambientPlayTrack (trackId : TrackId)
  | ambientSetQueue (trackIds : List TrackId)
  | ambientJumpQueue (position : ℕ)
  | ambientEnqueue (trackId : TrackId) (position : Option ℕ)
  | ambientClearQueue
  | ambientSkipNext (followNextId expectedTrackId : Option TrackId)
  | ambientSkipPrevious
  | ambientSeek (positionMs : ℕ)
  | ambientSetLoop (loopMode : LoopMode)
  | ambientSetShuffle (shuffle : ShuffleMode)
  | ambientStop
  | ambientPlaySequence (trackIds : List TrackId) (startIndex : ℕ) (sourcePlaylistId : Option ℤ)
  | fireInterruptSequence (trackIds : List TrackId) (fade : InterruptFade)
  | interruptSkipNext (expectedTrackId : Option TrackId)
  | interruptSeek (positionMs : ℕ)
  | cancelInterrupt
  | fireCue (cue : CuePlayback)
  | fireSfx (soundboardId itemPath : String) (volume : UnitInterval)
  | startLoop (loopingSfx : LoopingSfx)
  | stopLoop (id : String)
  deriving DecidableEq

structure ReductionContext where
  clock : ClockSample
  /-- Required only when a random-shuffle queue advance needs a choice. -/
  randomQueueIndex : Option ℕ
  deriving DecidableEq

inductive DomainEvent where
  | sfxFired (soundboardId itemPath : String) (volume : UnitInterval)
  | loopStarted (loopingSfx : LoopingSfx)
  | loopStopped (id : String)
  deriving DecidableEq

inductive PersistenceIntent where
  | none | throttled | immediate
  deriving DecidableEq

structure Reduction where
  nextState : PlaybackState
  changed : Bool
  publishState : Bool
  persistence : PersistenceIntent
  events : List DomainEvent
  deriving DecidableEq

end MusicServer
