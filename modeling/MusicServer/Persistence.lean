/-
# The durable playback document

`playback/persistence.rs`: the document the owner stores, how a state is written into
it and how it becomes a state again.  The text of a document is the matter of the JSON
library, so the text type, the writer and the reader are parameters, collected in
`JsonCodec`.  The reader need not read every fraction back as it was written:
`JsonCodec.Reads` says how it reads them, and `JsonCodec.RoundTrips` that it reads them exactly.

Two main results.  `decode_encode`: decoding what was encoded gives the state as it would
start after a restart, its volumes as the reader reads them, except in the four fields
`PlaybackState.AgreesDurably` names.  `persistence_round_trip`: what becomes of those where
the reader is exact, and that what was read once is read again.
-/
import MusicServer.Reduce

namespace MusicServer

/-! ## The document -/

structure PersistedAmbientState where
  currentTrackId : Option ℤ
  queue : List ℤ
  history : List ℤ
  positionMs : ℕ
  loopMode : LoopMode
  shuffle : ShuffleMode
  sourcePlaylistId : Option ℤ
  deriving DecidableEq

structure PersistedPositionReport where
  deviceId : String
  positionMs : ℕ
  reportedAt : Float64
  deriving DecidableEq

/-- The durable document.  Interrupts and looping effects are timer-backed session
state, so they are never written. -/
structure PersistedPlaybackState where
  revision : ℕ
  positionEpoch : ℕ
  isPlaying : Bool
  activeModeId : Option String
  activeOutputDeviceIds : List String
  defaultDeviceVolume : Float64
  deviceVolumes : BTreeMap String Float64
  activeSoundboardId : Option String
  activePresetIds : List String
  presetRevision : ℕ
  crossfadeMs : ℕ
  crossfadeType : CrossfadeType
  ambient : PersistedAmbientState
  lastPositionReport : Option PersistedPositionReport
  deriving DecidableEq

inductive PersistedStateError where
  | json
  | domain (error : PlaybackError)
  deriving DecidableEq

/-- What the JSON library reads where a fraction was written.  Its parser rounds as is
quickest, so it may read the neighbour of the number. -/
structure NumberReading where
  volume : UnitInterval → UnitInterval
  time : ℚ → ℚ

/-- The JSON library, over the type of stored texts. -/
structure JsonCodec (Text : Type) where
  /-- `serde_json::to_string` of a document. -/
  render : PersistedPlaybackState → Text
  /-- `serde_json::from_str` into a document. -/
  parse : Text → Option PersistedPlaybackState
  /-- Whether two texts parse to equal JSON values. -/
  equivalent : Text → Text → Bool
  /-- How the parser reads the fractions that were written. -/
  reading : NumberReading

/-! ## Writing -/

def PersistedAmbientState.from (state : AmbientState) : PersistedAmbientState where
  currentTrackId := state.currentTrackId.map TrackId.get
  queue := state.queue.map TrackId.get
  history := state.history.map TrackId.get
  positionMs := state.positionMs
  loopMode := state.loopMode
  shuffle := state.shuffle
  sourcePlaylistId := state.sourcePlaylistId

def PersistedPositionReport.from (state : PositionReport) : PersistedPositionReport where
  deviceId := state.deviceId
  positionMs := state.positionMs
  reportedAt := .finite state.reportedAtUnixSeconds

def PersistedPlaybackState.from (state : PlaybackState) : PersistedPlaybackState where
  revision := state.publicationRevision
  positionEpoch := state.positionEpoch
  isPlaying := state.isPlaying
  activeModeId := state.activeModeId
  activeOutputDeviceIds := state.activeOutputDeviceIds
  defaultDeviceVolume := .finite state.defaultDeviceVolume.get
  deviceVolumes := state.deviceVolumes.map fun _ volume => .finite volume.get
  activeSoundboardId := state.activeSoundboardId
  activePresetIds := state.activePresetIds
  presetRevision := state.presetRevision
  crossfadeMs := state.crossfadeMs
  crossfadeType := state.crossfadeType
  ambient := .from state.ambient
  lastPositionReport := state.lastPositionReport.map .from

/-- Every document written from a state is read back as it was. -/
def JsonCodec.RoundTrips {Text : Type} (codec : JsonCodec Text) : Prop :=
  ∀ state : PlaybackState, codec.parse (codec.render (.from state)) = some (.from state)

/-- A state with its fractions as they are read back. -/
def PlaybackState.reread (reading : NumberReading) (state : PlaybackState) : PlaybackState :=
  { state with
    defaultDeviceVolume := reading.volume state.defaultDeviceVolume
    deviceVolumes := state.deviceVolumes.map fun _ volume => reading.volume volume
    lastPositionReport := state.lastPositionReport.map fun report =>
      { report with reportedAtUnixSeconds := reading.time report.reportedAtUnixSeconds } }

/-- Every document written from a state is read back, up to how its fractions are read. -/
def JsonCodec.Reads {Text : Type} (codec : JsonCodec Text) : Prop :=
  ∀ state : PlaybackState,
    codec.parse (codec.render (.from state)) = some (.from (state.reread codec.reading))

/-- Encode a materialized point-in-time snapshot.  Monotonic anchors are never durable
because they are process-local and meaningless after restart. -/
def encodePersistedState {Text : Type} (codec : JsonCodec Text) (state : PlaybackState)
    (nowMs : ℕ) : Text :=
  codec.render (.from (materializePositions state nowMs))

/-! ## Reading -/

def validTrackId (value : ℤ) : Option TrackId := (TrackId.new value).toOption

def PersistedAmbientState.toState (persisted : PersistedAmbientState) : AmbientState where
  currentTrackId := persisted.currentTrackId.bind validTrackId
  queue := persisted.queue.filterMap validTrackId
  history := persisted.history.filterMap validTrackId
  positionMs := min persisted.positionMs maxPositionMs
  positionAnchorMs := none
  loopMode := persisted.loopMode
  shuffle := persisted.shuffle
  sourcePlaylistId := persisted.sourcePlaylistId

def PersistedPositionReport.toState (persisted : PersistedPositionReport) :
    Option PositionReport :=
  match persisted.reportedAt with
  | .finite reportedAt =>
    if 0 ≤ reportedAt then
      some ⟨persisted.deviceId, min persisted.positionMs maxPositionMs, reportedAt⟩
    else none
  | .nonFinite => none

/-- All volumes of a map, or the error of one that is out of range. -/
def decodeVolumes (volumes : BTreeMap String Float64) :
    Except PlaybackError (BTreeMap String UnitInterval) :=
  if volumes.toList.all fun entry => (UnitInterval.new entry.2).toOption.isSome then
    .ok (volumes.filterMap fun _ volume => (UnitInterval.new volume).toOption)
  else .error .invalidUnitInterval

/-- The state of a document, with the session-only state normalized away before it can
become live. -/
def PersistedPlaybackState.toState (persisted : PersistedPlaybackState) :
    Except PlaybackError PlaybackState := do
  let defaultDeviceVolume ← UnitInterval.new persisted.defaultDeviceVolume
  let deviceVolumes ← decodeVolumes persisted.deviceVolumes
  let state : PlaybackState := {
    publicationRevision := persisted.revision
    positionEpoch := persisted.positionEpoch
    isPlaying := persisted.isPlaying
    activeModeId := persisted.activeModeId
    activeOutputDeviceIds := persisted.activeOutputDeviceIds
    -- Derived from the active mode once the mode catalog is loaded.
    multipleOutputs := false
    defaultDeviceVolume
    deviceVolumes
    activeSoundboardId := persisted.activeSoundboardId
    activePresetIds := persisted.activePresetIds
    presetRevision := persisted.presetRevision
    crossfadeMs := persisted.crossfadeMs
    crossfadeType := persisted.crossfadeType
    ambient := persisted.ambient.toState
    -- Interrupts and loops can never be resumed safely after process downtime.
    interrupt := none
    loopingSfx := []
    lastPositionReport := persisted.lastPositionReport.bind PersistedPositionReport.toState }
  return state.normalizeForStartup

def decodePersistedState {Text : Type} (codec : JsonCodec Text) (stateJson : Text) :
    Except PersistedStateError PlaybackState :=
  match codec.parse stateJson with
  | none => .error .json
  | some persisted =>
    match persisted.toState with
    | .ok state => .ok state
    | .error error => .error (.domain error)

/-! ## Reading back -/

theorem validTrackId_get (track : TrackId) : validTrackId track.get = some track := by
  simp [validTrackId, TrackId.new, track.positive, Except.toOption]

theorem validTrackId_comp_get : validTrackId ∘ TrackId.get = some := by
  funext track
  exact validTrackId_get track

theorem unitInterval_new_get (volume : UnitInterval) :
    UnitInterval.new (.finite volume.get) = .ok volume := by
  simp [UnitInterval.new, volume.nonneg, volume.le_one]

theorem persistedAmbient_toState_from (ambient : AmbientState) :
    (PersistedAmbientState.from ambient).toState =
      { ambient with
        positionMs := min ambient.positionMs maxPositionMs
        positionAnchorMs := none } := by
  have hcurrent : (ambient.currentTrackId.map TrackId.get).bind validTrackId =
      ambient.currentTrackId := by
    cases ambient.currentTrackId with
    | none => rfl
    | some track => exact validTrackId_get track
  simp only [PersistedAmbientState.toState, PersistedAmbientState.from, hcurrent,
    List.filterMap_map, validTrackId_comp_get, List.filterMap_some]

theorem decodeVolumes_from (volumes : BTreeMap String UnitInterval) :
    decodeVolumes (volumes.map fun _ volume => .finite volume.get) = .ok volumes := by
  have hall : (volumes.map fun _ volume => Float64.finite volume.get).toList.all
      (fun entry => (UnitInterval.new entry.2).toOption.isSome) = true := by
    simp [Std.ExtTreeMap.toList_map, unitInterval_new_get, Except.toOption]
  rw [decodeVolumes, if_pos hall]
  congr 1
  refine Std.ExtTreeMap.ext_getElem? fun deviceId => ?_
  rw [Std.ExtTreeMap.getElem?_filterMap', Std.ExtTreeMap.getElem?_map]
  cases volumes[deviceId]? with
  | none => rfl
  | some volume => simp [unitInterval_new_get, Except.toOption]

/-- `decoded` is how `live` starts after a restart, except in the fields that are not
durable: the publication revision, the output policy, the ambient position and the last
position report. -/
def PlaybackState.AgreesDurably (decoded live : PlaybackState) : Prop :=
  decoded =
    { live.normalizeForStartup with
      publicationRevision := decoded.publicationRevision
      multipleOutputs := decoded.multipleOutputs
      lastPositionReport := decoded.lastPositionReport
      ambient := { live.normalizeForStartup.ambient with
        positionMs := decoded.ambient.positionMs } }

/-- The fields two states must share for one to be the restart of the other. -/
def PlaybackState.durable (state : PlaybackState) : PlaybackState :=
  { state.normalizeForStartup with
    publicationRevision := 0
    multipleOutputs := false
    lastPositionReport := none
    ambient := { state.normalizeForStartup.ambient with positionMs := 0 } }

theorem agreesDurably_iff {decoded live : PlaybackState}
    (hnormal : decoded.normalizeForStartup = decoded) :
    decoded.AgreesDurably live ↔ decoded.durable = live.durable := by
  unfold PlaybackState.AgreesDurably PlaybackState.durable
  rw [hnormal]
  obtain ⟨_, _, _, _, _, _, _, _, _, _, _, _, _, ⟨_, _, _, _, _, _, _, _⟩, _, _, _⟩ := decoded
  obtain ⟨_, _, _, _, _, _, _, _, _, _, _, _, _, ⟨_, _, _, _, _, _, _, _⟩, _, _, _⟩ := live
  simp [PlaybackState.normalizeForStartup]

variable {state : PlaybackState}

theorem toState_normalized {persisted : PersistedPlaybackState} (h : persisted.toState = .ok state) :
    state.normalizeForStartup = state := by
  obtain ⟨defaultVolume, -, h⟩ := bind_eq_ok.mp h
  obtain ⟨volumes, -, h⟩ := bind_eq_ok.mp h
  cases h
  rfl

theorem decodePersistedState_spec {Text : Type} {codec : JsonCodec Text} {text : Text}
    (h : decodePersistedState codec text = .ok state) :
    ∃ persisted, codec.parse text = some persisted ∧ persisted.toState = .ok state := by
  unfold decodePersistedState at h
  split at h
  · cases h
  · next persisted hparse =>
    split at h
    · next hstate =>
      cases h
      exact ⟨persisted, hparse, hstate⟩
    · cases h

theorem decodePersistedState_normalized {Text : Type} {codec : JsonCodec Text} {text : Text}
    (h : decodePersistedState codec text = .ok state) :
    state.normalizeForStartup = state := by
  obtain ⟨persisted, -, hstate⟩ := decodePersistedState_spec h
  exact toState_normalized hstate

theorem durable_materializePositions (state : PlaybackState) (nowMs : ℕ) :
    (materializePositions state nowMs).durable = state.durable := by
  simp only [PlaybackState.durable, materializePositions, PlaybackState.normalizeForStartup,
    materializeAmbient_eq]

theorem durable_reread {reading : NumberReading} {live : PlaybackState}
    (h : state.durable = live.durable) :
    (state.reread reading).durable = (live.reread reading).durable := by
  have hread : ∀ state : PlaybackState,
      (state.reread reading).durable = state.durable.reread reading := fun _ => rfl
  rw [hread, hread, h]

/-- A position report as it is read back: of a time that a clock can show, and capped. -/
def PositionReport.reloaded (report : PositionReport) : Option PositionReport :=
  if 0 ≤ report.reportedAtUnixSeconds then
    some { report with positionMs := min report.positionMs maxPositionMs }
  else none

/-- A state as it is read back from its document. -/
def PlaybackState.reloaded (state : PlaybackState) : PlaybackState :=
  { state.normalizeForStartup with
    multipleOutputs := false
    ambient := { state.normalizeForStartup.ambient with
      positionMs := min state.ambient.positionMs maxPositionMs }
    lastPositionReport := state.lastPositionReport.bind PositionReport.reloaded }

theorem persistedReport_toState_from (report : Option PositionReport) :
    (report.map PersistedPositionReport.from).bind PersistedPositionReport.toState =
      report.bind PositionReport.reloaded := by
  cases report with
  | none => rfl
  | some report => rfl

theorem toState_from (state : PlaybackState) :
    (PersistedPlaybackState.from state).toState = .ok state.reloaded := by
  simp only [PersistedPlaybackState.toState, PersistedPlaybackState.from,
    unitInterval_new_get, decodeVolumes_from, persistedAmbient_toState_from,
    persistedReport_toState_from]
  rfl

theorem decode_of_written {Text : Type} {codec : JsonCodec Text} (hcodec : codec.RoundTrips)
    (state : PlaybackState) (nowMs : ℕ) :
    decodePersistedState codec (encodePersistedState codec state nowMs) =
      .ok (materializePositions state nowMs).reloaded := by
  rw [decodePersistedState, encodePersistedState, hcodec (materializePositions state nowMs)]
  simp only [toState_from]

theorem decode_encode {Text : Type} {codec : JsonCodec Text} (hcodec : codec.Reads) (state : PlaybackState)
    (nowMs : ℕ) :
    ∃ decoded, decodePersistedState codec (encodePersistedState codec state nowMs) = .ok decoded ∧
      decoded.AgreesDurably (state.reread codec.reading) := by
  refine ⟨((materializePositions state nowMs).reread codec.reading).reloaded, ?_, ?_⟩
  · rw [decodePersistedState, encodePersistedState, hcodec (materializePositions state nowMs)]
    simp only [toState_from]
  · refine (agreesDurably_iff rfl).mpr ?_
    exact durable_reread (durable_materializePositions state nowMs)

/-! ## Documents that are read -/

/-- Positions that a document keeps as they are. -/
def PlaybackState.InRange (state : PlaybackState) : Prop :=
  state.ambient.positionMs ≤ maxPositionMs ∧ ∀ report ∈ state.lastPositionReport,
    0 ≤ report.reportedAtUnixSeconds ∧ report.positionMs ≤ maxPositionMs

theorem reloaded_inRange (h : state.InRange) :
    state.reloaded = { state.normalizeForStartup with multipleOutputs := false } := by
  obtain ⟨hambient, hreport⟩ := h
  have hkept : state.lastPositionReport.bind PositionReport.reloaded
      = state.lastPositionReport := by
    cases hlast : state.lastPositionReport with
    | none => rfl
    | some report =>
      obtain ⟨htime, hposition⟩ := hreport report hlast
      rw [Option.bind_some, PositionReport.reloaded, if_pos htime, min_eq_left hposition]
  unfold PlaybackState.reloaded
  rw [hkept, min_eq_left hambient]
  rfl

theorem persistedReport_inRange {persisted : PersistedPositionReport} {report : PositionReport}
    (h : persisted.toState = some report) :
    0 ≤ report.reportedAtUnixSeconds ∧ report.positionMs ≤ maxPositionMs := by
  unfold PersistedPositionReport.toState at h
  split at h
  · split at h
    · next htime =>
      cases h
      exact ⟨htime, min_le_right _ _⟩
    · cases h
  · cases h

theorem toState_inRange {persisted : PersistedPlaybackState} (h : persisted.toState = .ok state) :
    state.InRange ∧ state.multipleOutputs = false := by
  obtain ⟨defaultVolume, -, h⟩ := bind_eq_ok.mp h
  obtain ⟨volumes, -, h⟩ := bind_eq_ok.mp h
  cases h
  refine ⟨⟨min_le_right _ _, fun report hreport => ?_⟩, rfl⟩
  obtain ⟨persistedReport, -, hread⟩ := Option.bind_eq_some_iff.mp hreport
  exact persistedReport_inRange hread

theorem materializePositions_normalized (h : state.normalizeForStartup = state) (nowMs : ℕ) :
    materializePositions state nowMs = state := by
  rw [← h]
  rfl

theorem persistence_round_trip {Text : Type} {codec : JsonCodec Text}
    (hcodec : codec.RoundTrips) :
    (∀ state nowMs, decodePersistedState codec (encodePersistedState codec state nowMs) =
      .ok (materializePositions state nowMs).reloaded) ∧
    (∀ state nowMs, (materializePositions state nowMs).InRange →
      decodePersistedState codec (encodePersistedState codec state nowMs) =
        .ok { (materializePositions state nowMs).normalizeForStartup with
          multipleOutputs := false }) ∧
    ∀ text state, decodePersistedState codec text = .ok state →
      ∀ nowMs, decodePersistedState codec (encodePersistedState codec state nowMs) = .ok state := by
  refine ⟨decode_of_written hcodec, fun state nowMs hrange => ?_, fun text state htext nowMs => ?_⟩
  · rw [decode_of_written hcodec, reloaded_inRange hrange]
  · obtain ⟨persisted, -, hstate⟩ := decodePersistedState_spec htext
    obtain ⟨hrange, houtputs⟩ := toState_inRange hstate
    have hnormal := toState_normalized hstate
    rw [decode_of_written hcodec, materializePositions_normalized hnormal,
      reloaded_inRange hrange, hnormal, ← houtputs]

/-- A store that keeps the documents themselves. -/
def documentCodec : JsonCodec PersistedPlaybackState where
  render := id
  parse := some
  equivalent left right := left = right
  reading := ⟨id, id⟩

theorem documentCodec_roundTrips : documentCodec.RoundTrips := fun _ => rfl

/-- A session in which everything plays: a track for a minute, a looping effect, and an
interrupt that lets it play on; two outputs share it, and one has reported where it is. -/
def eveningState : PlaybackState :=
  { PlaybackState.default with
    publicationRevision := 9
    positionEpoch := 3
    isPlaying := true
    activeModeId := some "camp"
    activeOutputDeviceIds := ["hall", "porch"]
    multipleOutputs := true
    deviceVolumes := (∅ : BTreeMap String UnitInterval).insert "hall" .default
    activePresetIds := ["calm"]
    ambient := { AmbientState.default with
      currentTrackId := some ⟨1, Int.one_pos⟩
      queue := [⟨2, TrackId.two_pos⟩]
      positionMs := 500
      positionAnchorMs := some 1000
      loopMode := .queue }
    interrupt := some ⟨⟨2, TrackId.two_pos⟩, [], 250, some 2000, true, 0, 0, some .default⟩
    loopingSfx := [⟨"rain", "Rain", "weather", "rain.ogg", .finite 20, .default⟩]
    lastPositionReport := some ⟨"hall", 700, 12⟩ }

/-- Read back a minute later, the session has its track at the position it had reached, and
neither interrupt nor loop; a report from before the epoch is gone. -/
theorem persistence_round_trip_evening :
    (∃ decoded, decodePersistedState documentCodec
        (encodePersistedState documentCodec eveningState 61000) = .ok decoded ∧
      decoded = { (materializePositions eveningState 61000).normalizeForStartup with
        multipleOutputs := false } ∧
      decoded.ambient.positionMs = 60500 ∧ decoded.ambient.positionAnchorMs = none ∧
      decoded.interrupt = none ∧ decoded.loopingSfx = [] ∧
      decoded.lastPositionReport = some ⟨"hall", 700, 12⟩) ∧
    (∃ decoded, decodePersistedState documentCodec (encodePersistedState documentCodec
        { eveningState with lastPositionReport := some ⟨"hall", 700, -1⟩ } 61000) = .ok decoded ∧
      decoded.lastPositionReport = none ∧ decoded.ambient.positionMs = 60500) ∧
    ∀ text state, decodePersistedState documentCodec text = .ok state → ∀ nowMs,
      decodePersistedState documentCodec (encodePersistedState documentCodec state nowMs) =
        .ok state := by
  obtain ⟨hall, hrange, hagain⟩ := persistence_round_trip documentCodec_roundTrips
  refine ⟨⟨_, hrange eveningState 61000 ?_, rfl, ?_, rfl, rfl, rfl, rfl⟩,
    ⟨_, hall _ 61000, ?_, ?_⟩, hagain⟩
  · refine ⟨by decide +kernel, fun report hreport => ?_⟩
    cases hreport
    exact ⟨by norm_num, by decide⟩
  · decide +kernel
  · decide +kernel
  · decide +kernel

/-- A position past the largest signed one is not read back. -/
theorem persistence_caps_position :
    decodePersistedState documentCodec (encodePersistedState documentCodec
        { PlaybackState.default with
          ambient := { AmbientState.default with positionMs := maxPositionMs + 1 } } 0)
      ≠ .ok { (materializePositions { PlaybackState.default with
          ambient := { AmbientState.default with positionMs := maxPositionMs + 1 } }
          0).normalizeForStartup with multipleOutputs := false } := by
  rw [decode_of_written documentCodec_roundTrips]
  intro h
  have hposition := congrArg (fun state => state.ambient.positionMs) (Except.ok.inj h)
  exact absurd hposition (by decide)

end MusicServer
