/-
# The reducer

`reduce` and every helper it calls, in the order of `music-domain/src/playback.rs`.
A helper that mutates the state and says whether it changed returns the new state with
that flag; one that can fail returns them in `Except`.  Where the source writes a field
and fails afterwards, the half-written state is lost with the error, so the result of a
failure is the error alone.
-/
import MusicServer.DeadReckoning
import MusicServer.PlaybackState

namespace MusicServer

open DeadReckoning (Clock)

theorem bind_eq_ok {ε α β : Type} {x : Except ε α} {f : α → Except ε β} {b : β} :
    x >>= f = .ok b ↔ ∃ a, x = .ok a ∧ f a = .ok b := by
  cases x <;> simp [bind, Except.bind]

/-! ## Positions -/

def boundedPositionAdd (positionMs elapsedMs : ℕ) : ℕ :=
  min (saturatingAdd positionMs elapsedMs) maxPositionMs

theorem boundedPositionAdd_eq (p e : ℕ) : boundedPositionAdd p e = min (p + e) maxPositionMs := by
  have hmax : maxPositionMs ≤ u64Max := by decide
  unfold boundedPositionAdd saturatingAdd
  omega

def materializeAmbient (ambient : AmbientState) (nowMs : ℕ) : AmbientState :=
  match ambient.positionAnchorMs with
  | none => ambient
  | some anchor =>
    let elapsed := nowMs - anchor
    if elapsed > 0 then
      { ambient with
        positionMs := boundedPositionAdd ambient.positionMs elapsed
        positionAnchorMs := some nowMs }
    else ambient

def materializeInterrupt (interrupt : InterruptState) (nowMs : ℕ) : InterruptState :=
  match interrupt.positionAnchorMs with
  | none => interrupt
  | some anchor =>
    let elapsed := nowMs - anchor
    if elapsed > 0 then
      { interrupt with
        positionMs := boundedPositionAdd interrupt.positionMs elapsed
        positionAnchorMs := some nowMs }
    else interrupt

def materializePositions (state : PlaybackState) (nowMs : ℕ) : PlaybackState :=
  { state with
    ambient := materializeAmbient state.ambient nowMs
    interrupt := state.interrupt.map (materializeInterrupt · nowMs) }

def freezeAmbient (ambient : AmbientState) (nowMs : ℕ) : AmbientState :=
  { materializeAmbient ambient nowMs with positionAnchorMs := none }

/-- The anchor of an ambient track that should be advancing. -/
def ambientAnchor (state : PlaybackState) (nowMs : ℕ) : Option ℕ :=
  if state.isPlaying && state.interrupt.all (·.duckTo.isSome) then some nowMs else none

def AmbientState.clock (ambient : AmbientState) : Clock ℕ :=
  ⟨ambient.positionMs, ambient.positionAnchorMs⟩

def InterruptState.clock (interrupt : InterruptState) : Clock ℕ :=
  ⟨interrupt.positionMs, interrupt.positionAnchorMs⟩

theorem materializeAmbient_eq (ambient : AmbientState) (nowMs : ℕ) :
    materializeAmbient ambient nowMs =
      { ambient with
        positionMs := (ambient.clock.materialize maxPositionMs nowMs).position
        positionAnchorMs := (ambient.clock.materialize maxPositionMs nowMs).anchor } := by
  obtain ⟨track, queue, history, position, anchor, loopMode, shuffle, source⟩ := ambient
  rcases anchor with _ | anchor
  · rfl
  · by_cases h : anchor < nowMs
    · have helapsed : nowMs - anchor > 0 := by omega
      simp [materializeAmbient, AmbientState.clock, Clock.materialize, h, boundedPositionAdd_eq]
    · have helapsed : ¬ nowMs - anchor > 0 := by omega
      simp [materializeAmbient, AmbientState.clock, Clock.materialize, h]

theorem materializeInterrupt_eq (interrupt : InterruptState) (nowMs : ℕ) :
    materializeInterrupt interrupt nowMs =
      { interrupt with
        positionMs := (interrupt.clock.materialize maxPositionMs nowMs).position
        positionAnchorMs := (interrupt.clock.materialize maxPositionMs nowMs).anchor } := by
  obtain ⟨track, queue, position, anchor, returnTo, fadeIn, fadeOut, duck⟩ := interrupt
  rcases anchor with _ | anchor
  · rfl
  · by_cases h : anchor < nowMs
    · have helapsed : nowMs - anchor > 0 := by omega
      simp [materializeInterrupt, InterruptState.clock, Clock.materialize, h,
        boundedPositionAdd_eq]
    · have helapsed : ¬ nowMs - anchor > 0 := by omega
      simp [materializeInterrupt, InterruptState.clock, Clock.materialize, h]

theorem freezeAmbient_eq (ambient : AmbientState) (nowMs : ℕ) :
    freezeAmbient ambient nowMs =
      { ambient with
        positionMs := ambient.clock.read maxPositionMs nowMs
        positionAnchorMs := none } := by
  rw [freezeAmbient, materializeAmbient_eq]
  rfl

@[simp] theorem clock_freezeAmbient (ambient : AmbientState) (nowMs : ℕ) :
    (freezeAmbient ambient nowMs).clock = ambient.clock.freeze maxPositionMs nowMs := by
  rw [freezeAmbient_eq]
  rfl

@[simp] theorem currentTrackId_freezeAmbient (ambient : AmbientState) (nowMs : ℕ) :
    (freezeAmbient ambient nowMs).currentTrackId = ambient.currentTrackId := by
  rw [freezeAmbient_eq]

/-! ## State mutations -/

def incrementPositionEpoch (state : PlaybackState) : Except PlaybackError PlaybackState :=
  match checkedIncrement state.positionEpoch with
  | some positionEpoch => .ok { state with positionEpoch }
  | none => .error .positionEpochOverflow

theorem incrementPositionEpoch_eq_ok {s s' : PlaybackState} :
    incrementPositionEpoch s = .ok s' ↔
      s.positionEpoch < u64Max ∧ s' = { s with positionEpoch := s.positionEpoch + 1 } := by
  unfold incrementPositionEpoch checkedIncrement
  by_cases h : s.positionEpoch < u64Max
  · simp [h, eq_comm]
  · simp [h]

def setPlaying (state : PlaybackState) (playing : Bool) (nowMs : ℕ) : PlaybackState × Bool :=
  if state.isPlaying = playing then (state, false)
  else if playing then
    let state := { state with isPlaying := true }
    if state.ambient.currentTrackId.isSome then
      ({ state with ambient.positionAnchorMs := ambientAnchor state nowMs }, true)
    else (state, true)
  else
    ({ state with ambient := freezeAmbient state.ambient nowMs, isPlaying := false }, true)

def setActiveMode (state : PlaybackState) (modeId : Option String) : PlaybackState × Bool :=
  if state.activeModeId = modeId then (state, false)
  else
    ({ state with activeModeId := modeId, activePresetIds := [], activeSoundboardId := none }, true)

/-- A device registers with the default volume when it is first seen. -/
def ensureDeviceVolume (state : PlaybackState) (deviceId : String) : PlaybackState × Bool :=
  if state.deviceVolumes.contains deviceId then (state, false)
  else
    ({ state with
      deviceVolumes := state.deviceVolumes.insert deviceId state.defaultDeviceVolume }, true)

def registerDevice (state : PlaybackState) (deviceId : String) (activate : Bool) :
    PlaybackState × Bool :=
  let known := ensureDeviceVolume state deviceId
  -- A single-output mode never lets an output-by-default connection take the room from
  -- the output the operator already chose.
  let slotFree := known.1.multipleOutputs || known.1.activeOutputDeviceIds.isEmpty
  if activate && slotFree && !known.1.activeOutputDeviceIds.contains deviceId then
    ({ known.1 with
      activeOutputDeviceIds := known.1.activeOutputDeviceIds ++ [deviceId] }, true)
  else known

/-- Single-output requests keep only the newest selection: the last requested device
that is not already active, else the last requested device. -/
def newestOutput (current requested : List String) : List String :=
  if requested.length ≤ 1 then requested
  else
    match requested.reverse.find? (fun deviceId => !current.contains deviceId) with
    | some deviceId => [deviceId]
    | none => requested.getLast?.toList

def replaceActiveOutputs (state : PlaybackState) (deviceIds : List String) :
    PlaybackState × Bool :=
  let deviceIds :=
    if state.multipleOutputs then deviceIds
    else newestOutput state.activeOutputDeviceIds deviceIds
  ({ state with activeOutputDeviceIds := deviceIds }, state.activeOutputDeviceIds != deviceIds)

def removeActiveOutput (state : PlaybackState) (deviceId : String) : PlaybackState × Bool :=
  let remaining := state.activeOutputDeviceIds.filter (· != deviceId)
  ({ state with activeOutputDeviceIds := remaining },
    remaining.length != state.activeOutputDeviceIds.length)

def setDeviceVolume (state : PlaybackState) (deviceId : String) (volume : UnitInterval) :
    PlaybackState × Bool :=
  if state.deviceVolumes[deviceId]? = some volume then (state, false)
  else ({ state with deviceVolumes := state.deviceVolumes.insert deviceId volume }, true)

/-- The ids of a list at their first occurrence. -/
def deduplicate (presetIds : List String) : List String :=
  presetIds.foldl
    (fun deduplicated presetId =>
      if deduplicated.contains presetId then deduplicated else deduplicated ++ [presetId]) []

def setActivePresets (state : PlaybackState) (presetIds : List String)
    (crossfadeMs : Option ℕ) : PlaybackState × Bool :=
  let deduplicated := deduplicate presetIds
  let replaced := state.activePresetIds != deduplicated
  let state := { state with activePresetIds := deduplicated }
  match crossfadeMs with
  | some milliseconds =>
    if state.crossfadeMs != milliseconds then
      ({ state with crossfadeMs := milliseconds }, true)
    else (state, replaced)
  | none => (state, replaced)

def presetsChanged (state : PlaybackState) (activePresetIds : Option (List String))
    (crossfadeMs : Option ℕ) : Except PlaybackError (PlaybackState × Bool) :=
  match checkedIncrement state.presetRevision with
  | none => .error .presetRevisionOverflow
  | some presetRevision =>
    .ok ({ state with
      presetRevision
      activePresetIds := activePresetIds.getD state.activePresetIds
      crossfadeMs := crossfadeMs.getD state.crossfadeMs }, true)

def setCrossfade (state : PlaybackState) (crossfadeMs : ℕ)
    (crossfadeType : Option CrossfadeType) : PlaybackState × Bool :=
  let nextType := crossfadeType.getD state.crossfadeType
  if state.crossfadeMs = crossfadeMs ∧ state.crossfadeType = nextType then (state, false)
  else ({ state with crossfadeMs, crossfadeType := nextType }, true)

def reportPosition (state : PlaybackState) (deviceId : String) (positionMs : ℕ)
    (clock : ClockSample) : PlaybackState :=
  let state :=
    { state with lastPositionReport := some ⟨deviceId, positionMs, clock.unixSeconds⟩ }
  match state.interrupt with
  | some interrupt =>
    { state with
      interrupt := some { interrupt with
        positionMs
        positionAnchorMs := interrupt.positionAnchorMs.map fun _ => clock.monotonicMs } }
  | none =>
    { state with
      ambient.positionMs := positionMs
      ambient.positionAnchorMs :=
        state.ambient.positionAnchorMs.map fun _ => clock.monotonicMs }

/-! ## The ambient lane -/

def ambientPlayTrack (state : PlaybackState) (trackId : TrackId) (nowMs : ℕ) :
    Except PlaybackError PlaybackState :=
  let state := { state with isPlaying := true }
  incrementPositionEpoch { state with
    ambient := { AmbientState.default with
      currentTrackId := some trackId
      positionAnchorMs := ambientAnchor state nowMs
      loopMode := state.ambient.loopMode
      shuffle := state.ambient.shuffle } }

def ambientSetQueue (state : PlaybackState) (trackIds : List TrackId) : PlaybackState × Bool :=
  if state.ambient.queue = trackIds then (state, false)
  else
    ({ state with ambient.queue := trackIds, ambient.sourcePlaylistId := none }, true)

/-- The lane's history with the current track at its end. -/
def AmbientState.withCurrent (ambient : AmbientState) : List TrackId :=
  ambient.history ++ ambient.currentTrackId.toList

def ambientJumpQueue (state : PlaybackState) (position : ℕ) (nowMs : ℕ) :
    Except PlaybackError (PlaybackState × Bool) :=
  match state.ambient.queue[position]? with
  | none => .ok (state, false)
  | some track => do
    let state := { state with isPlaying := true }
    let state ← incrementPositionEpoch { state with
      ambient := { state.ambient with
        history := state.ambient.withCurrent
        currentTrackId := some track
        queue := state.ambient.queue.drop (position + 1)
        positionMs := 0
        positionAnchorMs := ambientAnchor state nowMs } }
    return (state, true)

def ambientEnqueue (state : PlaybackState) (trackId : TrackId) (position : Option ℕ) :
    PlaybackState :=
  let queue := state.ambient.queue
  let index := min (position.getD queue.length) queue.length
  { state with ambient.queue := queue.insertIdx index trackId }

def ambientClearQueue (state : PlaybackState) : PlaybackState × Bool :=
  if state.ambient.queue.isEmpty then (state, false)
  else ({ state with ambient.queue := [] }, true)

def nextQueueIndex (ambient : AmbientState) (randomQueueIndex : Option ℕ) :
    Except PlaybackError ℕ :=
  match ambient.shuffle with
  | .random =>
    match randomQueueIndex with
    | none => .error .randomChoiceRequired
    | some choice =>
      if choice ≥ ambient.queue.length then .error .randomChoiceOutOfRange else .ok choice
  | .off => .ok 0

theorem nextQueueIndex_lt {ambient : AmbientState} {random : Option ℕ} {index : ℕ}
    (h : nextQueueIndex ambient random = .ok index) (hqueue : ambient.queue ≠ []) :
    index < ambient.queue.length := by
  unfold nextQueueIndex at h
  split at h
  · split at h
    · cases h
    · split at h
      · cases h
      · next hlt =>
        cases h
        omega
  · cases h
    exact List.length_pos_of_ne_nil hqueue

/-- The lane after an advance, with whether playback goes on.  Where the sequence wraps
around, history and current become the queue again. -/
def ambientAdvance (ambient : AmbientState) (anchor : Option ℕ)
    (followNextId : Option TrackId) (randomQueueIndex : Option ℕ) :
    Except PlaybackError (AmbientState × Bool) :=
  if ambient.loopMode = .track ∧ ambient.currentTrackId.isSome then
    .ok ({ ambient with positionMs := 0, positionAnchorMs := anchor }, true)
  else if !ambient.queue.isEmpty then do
    let index ← nextQueueIndex ambient randomQueueIndex
    return ({ ambient with
      history := ambient.withCurrent
      currentTrackId := ambient.queue[index]?
      queue := ambient.queue.eraseIdx index
      positionMs := 0
      positionAnchorMs := anchor }, true)
  else if ambient.loopMode = .queue ∧
      (!ambient.history.isEmpty ∨ ambient.currentTrackId.isSome) then
    .ok ({ ambient with
      history := []
      currentTrackId := ambient.withCurrent.head?
      queue := ambient.withCurrent.tail
      positionMs := 0
      positionAnchorMs := anchor }, true)
  else if ambient.loopMode = .follow ∧ followNextId.isSome then
    .ok ({ ambient with
      history := ambient.withCurrent
      currentTrackId := followNextId
      queue := []
      positionMs := 0
      positionAnchorMs := anchor }, true)
  else
    .ok ({ ambient with currentTrackId := none, positionMs := 0, positionAnchorMs := none },
      false)

def ambientSkipNext (state : PlaybackState) (followNextId expectedTrackId : Option TrackId)
    (context : ReductionContext) : Except PlaybackError (PlaybackState × Bool) :=
  if expectedTrackId.isSome ∧ state.ambient.currentTrackId ≠ expectedTrackId then
    .ok (state, false)
  else if state.ambient.currentTrackId.isNone ∧ state.ambient.queue.isEmpty then
    .ok (state, false)
  else do
    let anchor := ambientAnchor state context.clock.monotonicMs
    let state ← incrementPositionEpoch state
    let (ambient, playsOn) ←
      ambientAdvance state.ambient anchor followNextId context.randomQueueIndex
    return ({ state with ambient, isPlaying := state.isPlaying && playsOn }, true)

/-- The lane one track back, or at the start of the current track. -/
def ambientRewind (ambient : AmbientState) (anchor : Option ℕ) : AmbientState :=
  match ambient.history.getLast? with
  | some previous =>
    { ambient with
      history := ambient.history.dropLast
      queue := ambient.currentTrackId.toList ++ ambient.queue
      currentTrackId := some previous
      positionMs := 0
      positionAnchorMs := anchor }
  | none => { ambient with positionMs := 0, positionAnchorMs := anchor }

def ambientSkipPrevious (state : PlaybackState) (nowMs : ℕ) :
    Except PlaybackError (PlaybackState × Bool) :=
  if state.ambient.history.isEmpty ∧ state.ambient.currentTrackId.isNone then
    .ok (state, false)
  else do
    let ambient := ambientRewind state.ambient (ambientAnchor state nowMs)
    let state ← incrementPositionEpoch { state with ambient }
    return (state, true)

theorem withCurrent_ne_nil {ambient : AmbientState}
    (h : !ambient.history.isEmpty ∨ ambient.currentTrackId.isSome) :
    ambient.withCurrent ≠ [] := by
  intro hnil
  obtain ⟨hhistory, hcurrent⟩ := List.append_eq_nil_iff.mp hnil
  rcases h with h | h
  · simp [hhistory] at h
  · obtain ⟨track, ht⟩ := Option.isSome_iff_exists.mp h
    simp [ht] at hcurrent

theorem ambientAdvance_clock {ambient : AmbientState} {anchor : Option ℕ}
    {follow : Option TrackId} {random : Option ℕ} {next : AmbientState} {playsOn : Bool}
    (h : ambientAdvance ambient anchor follow random = .ok (next, playsOn)) :
    (∃ track, next.currentTrackId = some track ∧ next.clock = ⟨0, anchor⟩ ∧ playsOn = true) ∨
      (next.currentTrackId = none ∧ next.clock = ⟨0, none⟩ ∧ playsOn = false) := by
  unfold ambientAdvance at h
  split at h
  · next htrack =>
    cases h
    obtain ⟨track, ht⟩ := Option.isSome_iff_exists.mp htrack.2
    exact .inl ⟨track, ht, rfl, rfl⟩
  split at h
  · next hqueue =>
    obtain ⟨index, hindex, h⟩ := bind_eq_ok.mp h
    cases h
    have hlt := nextQueueIndex_lt hindex (by simpa using hqueue)
    exact .inl ⟨_, List.getElem?_eq_getElem hlt, rfl, rfl⟩
  split at h
  · next hwrap =>
    cases h
    exact .inl ⟨_, List.head?_eq_some_head (withCurrent_ne_nil hwrap.2), rfl, rfl⟩
  split at h
  · next hfollow =>
    cases h
    obtain ⟨track, ht⟩ := Option.isSome_iff_exists.mp hfollow.2
    exact .inl ⟨track, ht, rfl, rfl⟩
  · cases h
    exact .inr ⟨rfl, rfl, rfl⟩

theorem ambientRewind_clock {ambient : AmbientState} (anchor : Option ℕ)
    (h : ¬ (ambient.history.isEmpty ∧ ambient.currentTrackId.isNone)) :
    ∃ track, (ambientRewind ambient anchor).currentTrackId = some track ∧
      (ambientRewind ambient anchor).clock = ⟨0, anchor⟩ := by
  unfold ambientRewind
  cases hlast : ambient.history.getLast? with
  | some previous => exact ⟨previous, rfl, rfl⟩
  | none =>
    have hnil : ambient.history = [] := List.getLast?_eq_none_iff.mp hlast
    have ht : ¬ ambient.currentTrackId.isNone := fun hnone => h ⟨by simp [hnil], hnone⟩
    rw [Option.isNone_iff_eq_none] at ht
    obtain ⟨track, ht⟩ := Option.ne_none_iff_exists'.mp ht
    exact ⟨track, ht, rfl⟩

def ambientSeek (state : PlaybackState) (positionMs nowMs : ℕ) :
    Except PlaybackError (PlaybackState × Bool) :=
  if state.ambient.currentTrackId.isNone then .ok (state, false)
  else do
    let state ← incrementPositionEpoch { state with
      ambient.positionMs := min positionMs maxPositionMs
      ambient.positionAnchorMs := ambientAnchor state nowMs }
    return (state, true)

def ambientStop (state : PlaybackState) : Except PlaybackError (PlaybackState × Bool) :=
  if state.ambient.currentTrackId.isNone ∧ state.ambient.queue.isEmpty ∧
      state.ambient.history.isEmpty ∧ state.ambient.positionMs = 0 then
    .ok (state, false)
  else do
    let state ← incrementPositionEpoch { state with
      ambient := { AmbientState.default with
        loopMode := state.ambient.loopMode
        shuffle := state.ambient.shuffle } }
    return (state, true)

def ambientPlaySequence (state : PlaybackState) (trackIds : List TrackId) (startIndex : ℕ)
    (sourcePlaylistId : Option ℤ) (nowMs : ℕ) : Except PlaybackError (PlaybackState × Bool) :=
  if trackIds.isEmpty then .ok (state, false)
  else do
    let index := min startIndex (trackIds.length - 1)
    let state := { state with isPlaying := true }
    let state ← incrementPositionEpoch { state with
      ambient := {
        currentTrackId := trackIds[index]?
        queue := trackIds.drop (index + 1)
        history := trackIds.take index
        positionMs := 0
        positionAnchorMs := ambientAnchor state nowMs
        loopMode := state.ambient.loopMode
        shuffle := state.ambient.shuffle
        sourcePlaylistId } }
    return (state, true)

/-! ## The interrupt lane -/

def fireInterrupt (state : PlaybackState) (trackIds : List TrackId) (fade : InterruptFade)
    (nowMs : ℕ) : Except PlaybackError (PlaybackState × Bool) :=
  match trackIds with
  | [] => .ok (state, false)
  | current :: queue => do
    let ambient :=
      if fade.duckTo.isNone then freezeAmbient state.ambient nowMs else state.ambient
    let state ← incrementPositionEpoch { state with
      ambient
      interrupt := some {
        currentTrackId := current
        queue
        positionMs := 0
        positionAnchorMs := some nowMs
        returnToAmbient := fade.returnToAmbient
        fadeInMs := fade.fadeInMs
        fadeOutMs := fade.fadeOutMs
        duckTo := fade.duckTo }
      isPlaying := true }
    return (state, true)

def endInterrupt (state : PlaybackState) (nowMs : ℕ) :
    Except PlaybackError (PlaybackState × Bool) :=
  match state.interrupt with
  | none => .ok (state, false)
  | some interrupt => do
    let state := { state with interrupt := none }
    let state :=
      if interrupt.returnToAmbient then
        if state.isPlaying && state.ambient.currentTrackId.isSome &&
            state.ambient.positionAnchorMs.isNone then
          { state with ambient.positionAnchorMs := some nowMs }
        else state
      else { state with isPlaying := false, ambient := freezeAmbient state.ambient nowMs }
    let state ← incrementPositionEpoch state
    return (state, true)

def interruptSkipNext (state : PlaybackState) (expectedTrackId : Option TrackId) (nowMs : ℕ) :
    Except PlaybackError (PlaybackState × Bool) :=
  match state.interrupt with
  | none => .ok (state, false)
  | some interrupt =>
    if expectedTrackId.isSome ∧ some interrupt.currentTrackId ≠ expectedTrackId then
      .ok (state, false)
    else
      match interrupt.queue with
      | next :: queue => do
        let state ← incrementPositionEpoch { state with
          interrupt := some { interrupt with
            currentTrackId := next
            queue
            positionMs := 0
            positionAnchorMs := some nowMs } }
        return (state, true)
      | [] => endInterrupt state nowMs

def interruptSeek (state : PlaybackState) (positionMs nowMs : ℕ) :
    Except PlaybackError (PlaybackState × Bool) :=
  match state.interrupt with
  | none => .ok (state, false)
  | some interrupt => do
    let state ← incrementPositionEpoch { state with
      interrupt := some { interrupt with
        positionMs := min positionMs maxPositionMs
        positionAnchorMs := some nowMs } }
    return (state, true)

/-! ## Effects -/

def startLoop (state : PlaybackState) (loopingSfx : LoopingSfx) : PlaybackState :=
  { state with
    loopingSfx := state.loopingSfx.filter (fun existing => existing.id != loopingSfx.id) ++
      [loopingSfx] }

def stopLoop (state : PlaybackState) (id : String) : PlaybackState × Bool :=
  let remaining := state.loopingSfx.filter (fun loopingSfx => loopingSfx.id != id)
  ({ state with loopingSfx := remaining }, remaining.length != state.loopingSfx.length)

/-- The prefix of the loop ids one cue owns. -/
def cueLoopPrefix (cueId : String) : String := "cue:" ++ cueId ++ ":"

/-- What `fire_cue` checks before it changes anything. -/
def cueIsValid (state : PlaybackState) (cue : CuePlayback) : Bool :=
  !cue.modeId.isEmpty && !cue.cueId.isEmpty &&
    state.activeModeId == some cue.modeId &&
    cue.preset.all (fun preset => !preset.presetId.isEmpty) &&
    cue.playlist.all (fun playlist =>
      !playlist.trackIds.isEmpty && decide (0 < playlist.sourcePlaylistId)) &&
    cue.loops.zipIdx.all (fun (loopingSfx, index) =>
      loopingSfx.id == cueLoopPrefix cue.cueId ++ toString index && loopingSfx.withinBounds) &&
    cue.sfx.all (fun sfx => !sfx.soundboardId.isEmpty && !sfx.itemPath.isEmpty)

def applyCuePreset (state : PlaybackState) (preset : Option CuePreset) : PlaybackState × Bool :=
  match preset with
  | some preset => setActivePresets state [preset.presetId] preset.crossfadeMs
  | none => (state, false)

def applyCuePlaylist (state : PlaybackState) (playlist : Option CuePlaylist) (nowMs : ℕ) :
    Except PlaybackError (PlaybackState × Bool) :=
  match playlist with
  | none => .ok (state, false)
  | some playlist => do
    let (state, _) ← ambientPlaySequence state playlist.trackIds playlist.startIndex
      (some playlist.sourcePlaylistId) nowMs
    if playlist.startMs > 0 then
      return ({ state with
        ambient.positionMs := min playlist.startMs maxPositionMs
        ambient.positionAnchorMs := ambientAnchor state nowMs }, true)
    else return (state, true)

/-- The loops of a cue replace every loop under its prefix. -/
def applyCueLoops (state : PlaybackState) (cueId : String) (loops : List LoopingSfx) :
    PlaybackState × Bool :=
  let kept := state.loopingSfx.filter fun loopingSfx =>
    !loopingSfx.id.startsWith (cueLoopPrefix cueId)
  ({ state with loopingSfx := kept ++ loops },
    kept.length != state.loopingSfx.length || !loops.isEmpty)

def fireCue (state : PlaybackState) (cue : CuePlayback) (nowMs : ℕ) :
    Except PlaybackError (PlaybackState × Bool × List DomainEvent) :=
  if cueIsValid state cue then do
    let preset := applyCuePreset state cue.preset
    let playlist ← applyCuePlaylist preset.1 cue.playlist nowMs
    let loops := applyCueLoops playlist.1 cue.cueId cue.loops
    let events := cue.loops.map .loopStarted ++
      cue.sfx.map fun sfx => .sfxFired sfx.soundboardId sfx.itemPath sfx.volume
    return (loops.1, preset.2 || playlist.2 || loops.2, events)
  else .error .invalidCuePlayback

/-! ## Commands -/

/-- A mutation that is published and stored when it changed anything. -/
def Reduction.durable (result : PlaybackState × Bool) (events : List DomainEvent) : Reduction where
  nextState := result.1
  changed := result.2
  publishState := true
  persistence := .immediate
  events := events

/-- A command without an effect is neither published nor stored. -/
def Reduction.settle (reduction : Reduction) : Reduction :=
  if !reduction.changed && reduction.events.isEmpty then
    { reduction with publishState := false, persistence := .none }
  else reduction

/-- The match of `reduce`, with the flags each branch sets. -/
def applyCommand (state : PlaybackState) (command : PlaybackCommand)
    (context : ReductionContext) : Except PlaybackError Reduction :=
  let nowMs := context.clock.monotonicMs
  match command with
  | .setPlaying playing => .ok (.durable (setPlaying state playing nowMs) [])
  | .setActiveMode modeId => .ok (.durable (setActiveMode state modeId) [])
  | .setActiveOutputs deviceIds => .ok (.durable (replaceActiveOutputs state deviceIds) [])
  | .registerDevice deviceId activate =>
    .ok (.durable (registerDevice state deviceId activate) [])
  | .removeActiveOutput deviceId => .ok (.durable (removeActiveOutput state deviceId) [])
  | .setDeviceVolume deviceId volume =>
    .ok (.durable (setDeviceVolume state deviceId volume) [])
  | .setActiveSoundboard soundboardId =>
    .ok (.durable ({ state with activeSoundboardId := soundboardId },
      state.activeSoundboardId != soundboardId) [])
  | .setActivePresets presetIds crossfadeMs =>
    .ok (.durable (setActivePresets state presetIds crossfadeMs) [])
  | .presetsChanged activePresetIds crossfadeMs => do
    return .durable (← presetsChanged state activePresetIds crossfadeMs) []
  | .setCrossfade crossfadeMs crossfadeType =>
    .ok (.durable (setCrossfade state crossfadeMs crossfadeType) [])
  | .reportPosition deviceId positionMs =>
    .ok {
      nextState := reportPosition state deviceId (min positionMs maxPositionMs) context.clock
      changed := true
      publishState := false
      persistence := .throttled
      events := [] }
  | .ambientPlayTrack trackId => do
    return .durable (← ambientPlayTrack state trackId nowMs, true) []
  | .ambientSetQueue trackIds => .ok (.durable (ambientSetQueue state trackIds) [])
  | .ambientJumpQueue position => do
    return .durable (← ambientJumpQueue state position nowMs) []
  | .ambientEnqueue trackId position =>
    .ok (.durable (ambientEnqueue state trackId position, true) [])
  | .ambientClearQueue => .ok (.durable (ambientClearQueue state) [])
  | .ambientSkipNext followNextId expectedTrackId => do
    return .durable (← ambientSkipNext state followNextId expectedTrackId context) []
  | .ambientSkipPrevious => do
    return .durable (← ambientSkipPrevious state nowMs) []
  | .ambientSeek positionMs => do
    return .durable (← ambientSeek state positionMs nowMs) []
  | .ambientSetLoop loopMode =>
    .ok (.durable ({ state with ambient.loopMode := loopMode },
      state.ambient.loopMode != loopMode) [])
  | .ambientSetShuffle shuffle =>
    .ok (.durable ({ state with ambient.shuffle := shuffle },
      state.ambient.shuffle != shuffle) [])
  | .ambientStop => do
    return .durable (← ambientStop state) []
  | .ambientPlaySequence trackIds startIndex sourcePlaylistId => do
    return .durable (← ambientPlaySequence state trackIds startIndex sourcePlaylistId nowMs) []
  | .fireInterruptSequence trackIds fade => do
    return .durable (← fireInterrupt state trackIds fade nowMs) []
  | .interruptSkipNext expectedTrackId => do
    return .durable (← interruptSkipNext state expectedTrackId nowMs) []
  | .interruptSeek positionMs => do
    return .durable (← interruptSeek state positionMs nowMs) []
  | .cancelInterrupt => do
    return .durable (← endInterrupt state nowMs) []
  | .fireCue cue => do
    let (next, changed, events) ← fireCue state cue nowMs
    return {
      nextState := next
      changed
      publishState := changed
      persistence := if changed then .immediate else .none
      events }
  | .fireSfx soundboardId itemPath volume =>
    .ok {
      nextState := state
      changed := false
      publishState := false
      persistence := .none
      events := [.sfxFired soundboardId itemPath volume] }
  | .startLoop loopingSfx =>
    .ok (.durable (startLoop state loopingSfx, true) [.loopStarted loopingSfx])
  | .stopLoop id =>
    let (next, stopped) := stopLoop state id
    .ok (.durable (next, stopped) (if stopped then [.loopStopped id] else []))

def reduce (current : PlaybackState) (command : PlaybackCommand) (context : ReductionContext) :
    Except PlaybackError Reduction := do
  return (← applyCommand current command context).settle

@[simp] theorem nextState_settle (r : Reduction) : r.settle.nextState = r.nextState := by
  unfold Reduction.settle
  split <;> rfl

@[simp] theorem changed_settle (r : Reduction) : r.settle.changed = r.changed := by
  unfold Reduction.settle
  split <;> rfl

@[simp] theorem events_settle (r : Reduction) : r.settle.events = r.events := by
  unfold Reduction.settle
  split <;> rfl

theorem reduce_eq_ok {current : PlaybackState} {command : PlaybackCommand}
    {context : ReductionContext} {r : Reduction} :
    reduce current command context = .ok r ↔
      ∃ r', applyCommand current command context = .ok r' ∧ r = r'.settle := by
  rw [reduce, bind_eq_ok]
  simp [pure, Except.pure, eq_comm]

end MusicServer
