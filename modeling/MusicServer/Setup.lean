/-
# What is set up beside the two lanes

The part of a playback state that no track touches: the active mode, soundboard and
presets, the outputs and their volumes, and the looping effects.  `Setup.apply` says what
each command does to it, and `reduce_setup` that the reducer does just that; the commands
of the two lanes leave all of it alone.
-/
import MusicServer.Reduce

namespace MusicServer

/-! ## The view -/

structure Setup where
  activeModeId : Option String
  activeOutputDeviceIds : List String
  multipleOutputs : Bool
  defaultDeviceVolume : UnitInterval
  deviceVolumes : BTreeMap String UnitInterval
  activeSoundboardId : Option String
  activePresetIds : List String
  crossfadeMs : ℕ
  loopingSfx : List LoopingSfx

def PlaybackState.setup (state : PlaybackState) : Setup where
  activeModeId := state.activeModeId
  activeOutputDeviceIds := state.activeOutputDeviceIds
  multipleOutputs := state.multipleOutputs
  defaultDeviceVolume := state.defaultDeviceVolume
  deviceVolumes := state.deviceVolumes
  activeSoundboardId := state.activeSoundboardId
  activePresetIds := state.activePresetIds
  crossfadeMs := state.crossfadeMs
  loopingSfx := state.loopingSfx

/-- The presets that take the place of the active ones, with the crossfade they bring. -/
def Setup.selectPresets (d : Setup) (presetIds : List String) (crossfadeMs : Option ℕ) : Setup :=
  { d with
    activePresetIds := deduplicate presetIds
    crossfadeMs := crossfadeMs.getD d.crossfadeMs }

/-- The outputs once a device has registered. -/
def Setup.registerOutput (d : Setup) (deviceId : String) (activate : Bool) : List String :=
  if activate && (d.multipleOutputs || d.activeOutputDeviceIds.isEmpty) &&
      !d.activeOutputDeviceIds.contains deviceId then
    d.activeOutputDeviceIds ++ [deviceId]
  else d.activeOutputDeviceIds

/-- A mode switch leaves the presets and the soundboard of the mode before. -/
def Setup.switchMode (d : Setup) (modeId : Option String) : Setup :=
  if d.activeModeId = modeId then d
  else { d with activeModeId := modeId, activePresetIds := [], activeSoundboardId := none }

/-- What a cue sets up: its preset, and its loops in the place of those under its
prefix. -/
def Setup.applyCue (d : Setup) (cue : CuePlayback) : Setup :=
  let d := (cue.preset.map fun preset =>
    d.selectPresets [preset.presetId] preset.crossfadeMs).getD d
  { d with
    loopingSfx := d.loopingSfx.filter
      (fun loopingSfx => !loopingSfx.id.startsWith (cueLoopPrefix cue.cueId)) ++ cue.loops }

def Setup.apply (d : Setup) : PlaybackCommand → Setup
  | .setActiveMode modeId => d.switchMode modeId
  | .setActiveOutputs deviceIds =>
    { d with
      activeOutputDeviceIds :=
        if d.multipleOutputs then deviceIds
        else newestOutput d.activeOutputDeviceIds deviceIds }
  | .registerDevice deviceId activate =>
    { d with
      activeOutputDeviceIds := d.registerOutput deviceId activate
      deviceVolumes := d.deviceVolumes.insertIfNew deviceId d.defaultDeviceVolume }
  | .removeActiveOutput deviceId =>
    { d with activeOutputDeviceIds := d.activeOutputDeviceIds.filter (· != deviceId) }
  | .setDeviceVolume deviceId volume =>
    { d with deviceVolumes := d.deviceVolumes.insert deviceId volume }
  | .setActiveSoundboard soundboardId => { d with activeSoundboardId := soundboardId }
  | .setActivePresets presetIds crossfadeMs => d.selectPresets presetIds crossfadeMs
  | .presetsChanged activePresetIds crossfadeMs =>
    { d with
      activePresetIds := activePresetIds.getD d.activePresetIds
      crossfadeMs := crossfadeMs.getD d.crossfadeMs }
  | .setCrossfade crossfadeMs _ => { d with crossfadeMs }
  | .fireCue cue => d.applyCue cue
  | .startLoop loopingSfx =>
    { d with
      loopingSfx := d.loopingSfx.filter (fun existing => existing.id != loopingSfx.id) ++
        [loopingSfx] }
  | .stopLoop id =>
    { d with loopingSfx := d.loopingSfx.filter (fun loopingSfx => loopingSfx.id != id) }
  | _ => d

/-! ## The commands of the lanes -/

variable {s s' : PlaybackState}

theorem incrementPositionEpoch_setup (h : incrementPositionEpoch s = .ok s') :
    s'.setup = s.setup := by
  obtain ⟨-, rfl⟩ := incrementPositionEpoch_eq_ok.mp h
  rfl

theorem setPlaying_setup (s : PlaybackState) (playing : Bool) (nowMs : ℕ) :
    (setPlaying s playing nowMs).1.setup = s.setup := by
  unfold setPlaying
  simp only
  split
  · rfl
  split
  · split <;> rfl
  · rfl

theorem reportPosition_setup (s : PlaybackState) (deviceId : String) (positionMs : ℕ)
    (clock : ClockSample) : (reportPosition s deviceId positionMs clock).setup = s.setup := by
  unfold reportPosition
  simp only
  split <;> rfl

variable {nowMs : ℕ}

theorem ambientPlayTrack_setup {trackId : TrackId} (h : ambientPlayTrack s trackId nowMs = .ok s') :
    s'.setup = s.setup := by
  rw [incrementPositionEpoch_setup h]
  rfl

theorem ambientSetQueue_setup (s : PlaybackState) (trackIds : List TrackId) :
    (ambientSetQueue s trackIds).1.setup = s.setup := by
  unfold ambientSetQueue
  split <;> rfl

theorem ambientClearQueue_setup (s : PlaybackState) :
    (ambientClearQueue s).1.setup = s.setup := by
  unfold ambientClearQueue
  split <;> rfl

/-- A lane command that does nothing, or counts the epoch of a state with the same
setup. -/
theorem setup_of_increment {s s₁ s' : PlaybackState} {changed flag : Bool}
    (h : (do let s₂ ← incrementPositionEpoch s₁; return (s₂, flag) :
      Except PlaybackError (PlaybackState × Bool)) = .ok (s', changed))
    (hsame : s₁.setup = s.setup) : s'.setup = s.setup := by
  obtain ⟨s₂, hs₂, h⟩ := bind_eq_ok.mp h
  cases h
  rw [incrementPositionEpoch_setup hs₂, hsame]

variable {changed : Bool}

theorem ambientJumpQueue_setup {position nowMs : ℕ}
    (h : ambientJumpQueue s position nowMs = .ok (s', changed)) : s'.setup = s.setup := by
  unfold ambientJumpQueue at h
  split at h
  · cases h
    rfl
  · exact setup_of_increment h rfl

variable {context : ReductionContext}

theorem ambientSkipNext_setup {follow expected : Option TrackId}
    (h : ambientSkipNext s follow expected context = .ok (s', changed)) : s'.setup = s.setup := by
  unfold ambientSkipNext at h
  split at h
  · cases h
    rfl
  split at h
  · cases h
    rfl
  · obtain ⟨counted, hcounted, h⟩ := bind_eq_ok.mp h
    obtain ⟨advanced, -, h⟩ := bind_eq_ok.mp h
    cases h
    rw [← incrementPositionEpoch_setup hcounted]
    rfl

theorem ambientSkipPrevious_setup (h : ambientSkipPrevious s nowMs = .ok (s', changed)) :
    s'.setup = s.setup := by
  unfold ambientSkipPrevious at h
  split at h
  · cases h
    rfl
  · exact setup_of_increment h rfl

theorem ambientSeek_setup {positionMs nowMs : ℕ}
    (h : ambientSeek s positionMs nowMs = .ok (s', changed)) : s'.setup = s.setup := by
  unfold ambientSeek at h
  split at h
  · cases h
    rfl
  · exact setup_of_increment h rfl

theorem ambientStop_setup (h : ambientStop s = .ok (s', changed)) : s'.setup = s.setup := by
  unfold ambientStop at h
  split at h
  · cases h
    rfl
  · exact setup_of_increment h rfl

theorem ambientPlaySequence_setup {trackIds : List TrackId} {startIndex : ℕ} {source : Option ℤ}
    (h : ambientPlaySequence s trackIds startIndex source nowMs = .ok (s', changed)) :
    s'.setup = s.setup := by
  unfold ambientPlaySequence at h
  split at h
  · cases h
    rfl
  · exact setup_of_increment h rfl

theorem fireInterrupt_setup {trackIds : List TrackId} {fade : InterruptFade}
    (h : fireInterrupt s trackIds fade nowMs = .ok (s', changed)) : s'.setup = s.setup := by
  unfold fireInterrupt at h
  split at h
  · cases h
    rfl
  · exact setup_of_increment h rfl

theorem endInterrupt_setup (h : endInterrupt s nowMs = .ok (s', changed)) : s'.setup = s.setup := by
  unfold endInterrupt at h
  split at h
  · cases h
    rfl
  · apply setup_of_increment h
    split
    · split <;> rfl
    · rfl

theorem interruptSkipNext_setup {expected : Option TrackId}
    (h : interruptSkipNext s expected nowMs = .ok (s', changed)) :
    s'.setup = s.setup := by
  unfold interruptSkipNext at h
  split at h
  · cases h
    rfl
  split at h
  · cases h
    rfl
  split at h
  · exact setup_of_increment h rfl
  · exact endInterrupt_setup h

theorem interruptSeek_setup {positionMs nowMs : ℕ}
    (h : interruptSeek s positionMs nowMs = .ok (s', changed)) : s'.setup = s.setup := by
  unfold interruptSeek at h
  split at h
  · cases h
    rfl
  · exact setup_of_increment h rfl

/-! ## The commands of the setup -/

theorem setActiveMode_setup (s : PlaybackState) (modeId : Option String) :
    (setActiveMode s modeId).1.setup = s.setup.switchMode modeId := by
  unfold setActiveMode Setup.switchMode
  by_cases hsame : s.activeModeId = modeId
  · rw [if_pos hsame, if_pos (show s.setup.activeModeId = modeId from hsame)]
  · rw [if_neg hsame, if_neg (show ¬ s.setup.activeModeId = modeId from hsame)]
    rfl

theorem ensureDeviceVolume_eq (s : PlaybackState) (deviceId : String) :
    (ensureDeviceVolume s deviceId).1 =
      { s with
        deviceVolumes := s.deviceVolumes.insertIfNew deviceId s.defaultDeviceVolume } := by
  unfold ensureDeviceVolume
  have hinsert : ∀ id : String, (s.deviceVolumes.insertIfNew deviceId s.defaultDeviceVolume)[id]? =
      if deviceId = id ∧ deviceId ∉ s.deviceVolumes then some s.defaultDeviceVolume
      else s.deviceVolumes[id]? := by
    intro id
    rw [Std.ExtTreeMap.getElem?_insertIfNew]
    simp only [Std.LawfulEqCmp.compare_eq_iff_eq]
  split
  · next hknown =>
    have hkept : s.deviceVolumes.insertIfNew deviceId s.defaultDeviceVolume =
        s.deviceVolumes := by
      refine Std.ExtTreeMap.ext_getElem? fun id => ?_
      rw [hinsert, if_neg]
      rintro ⟨-, hnew⟩
      exact hnew hknown
    rw [hkept]
  · next hnew =>
    have hadded : s.deviceVolumes.insertIfNew deviceId s.defaultDeviceVolume =
        s.deviceVolumes.insert deviceId s.defaultDeviceVolume := by
      refine Std.ExtTreeMap.ext_getElem? fun id => ?_
      rw [hinsert, Std.ExtTreeMap.getElem?_insert]
      simp only [Std.LawfulEqCmp.compare_eq_iff_eq]
      by_cases hid : deviceId = id
      · rw [if_pos hid, if_pos ⟨hid, hnew⟩]
      · rw [if_neg hid, if_neg (fun h => hid h.1)]
    rw [hadded]

theorem registerDevice_setup (s : PlaybackState) (deviceId : String) (activate : Bool) :
    (registerDevice s deviceId activate).1.setup =
      s.setup.apply (.registerDevice deviceId activate) := by
  have hknown := ensureDeviceVolume_eq s deviceId
  unfold registerDevice
  simp only [hknown]
  by_cases hactivate : (activate && (s.multipleOutputs || s.activeOutputDeviceIds.isEmpty) &&
      !s.activeOutputDeviceIds.contains deviceId) = true
  · have houtputs : s.setup.registerOutput deviceId activate =
        s.activeOutputDeviceIds ++ [deviceId] := if_pos hactivate
    rw [if_pos hactivate]
    simp only [Setup.apply, houtputs]
    rfl
  · have houtputs : s.setup.registerOutput deviceId activate = s.activeOutputDeviceIds :=
      if_neg hactivate
    rw [if_neg hactivate, hknown]
    simp only [Setup.apply, houtputs]
    rfl

theorem setDeviceVolume_eq (s : PlaybackState) (deviceId : String) (volume : UnitInterval) :
    (setDeviceVolume s deviceId volume).1 =
      { s with deviceVolumes := s.deviceVolumes.insert deviceId volume } := by
  unfold setDeviceVolume
  split
  · next hsame =>
    have hkept : s.deviceVolumes.insert deviceId volume = s.deviceVolumes := by
      refine Std.ExtTreeMap.ext_getElem? fun id => ?_
      rw [Std.ExtTreeMap.getElem?_insert]
      simp only [Std.LawfulEqCmp.compare_eq_iff_eq]
      split
      · next hid => rw [← hid, hsame]
      · rfl
    rw [hkept]
  · rfl

theorem setDeviceVolume_setup (s : PlaybackState) (deviceId : String) (volume : UnitInterval) :
    (setDeviceVolume s deviceId volume).1.setup =
      s.setup.apply (.setDeviceVolume deviceId volume) := by
  rw [setDeviceVolume_eq]
  rfl

theorem setActivePresets_setup (s : PlaybackState) (presetIds : List String)
    (crossfadeMs : Option ℕ) :
    (setActivePresets s presetIds crossfadeMs).1.setup =
      s.setup.selectPresets presetIds crossfadeMs := by
  unfold setActivePresets
  simp only
  split
  · split
    · rfl
    · next milliseconds hsame =>
      have hsame : s.crossfadeMs = milliseconds := by simpa using hsame
      simp only [Setup.selectPresets, PlaybackState.setup, Option.getD_some, hsame]
  · rfl

theorem presetsChanged_setup {activePresetIds : Option (List String)} {crossfadeMs : Option ℕ}
    (h : presetsChanged s activePresetIds crossfadeMs = .ok (s', changed)) :
    s'.setup = s.setup.apply (.presetsChanged activePresetIds crossfadeMs) := by
  unfold presetsChanged at h
  split at h
  · cases h
  · cases h
    rfl

theorem setCrossfade_setup (s : PlaybackState) (crossfadeMs : ℕ)
    (crossfadeType : Option CrossfadeType) :
    (setCrossfade s crossfadeMs crossfadeType).1.setup =
      s.setup.apply (.setCrossfade crossfadeMs crossfadeType) := by
  unfold setCrossfade
  simp only
  split
  · next hsame =>
    simp only [Setup.apply, PlaybackState.setup, hsame.1]
  · rfl

theorem applyCuePlaylist_setup {playlist : Option CuePlaylist}
    (h : applyCuePlaylist s playlist nowMs = .ok (s', changed)) : s'.setup = s.setup := by
  unfold applyCuePlaylist at h
  split at h
  · cases h
    rfl
  · obtain ⟨⟨played, flag⟩, hplayed, h⟩ := bind_eq_ok.mp h
    rw [← ambientPlaySequence_setup hplayed]
    simp only at h
    split at h
    · cases h
      rfl
    · cases h
      rfl

theorem fireCue_setup {cue : CuePlayback} {events : List DomainEvent}
    (h : fireCue s cue nowMs = .ok (s', changed, events)) :
    s'.setup = s.setup.applyCue cue := by
  unfold fireCue at h
  split at h
  · obtain ⟨⟨played, flag⟩, hplayed, h⟩ := bind_eq_ok.mp h
    cases h
    have hsetup := applyCuePlaylist_setup hplayed
    have hpreset : (applyCuePreset s cue.preset).1.setup =
        (cue.preset.map fun preset =>
          s.setup.selectPresets [preset.presetId] preset.crossfadeMs).getD s.setup := by
      unfold applyCuePreset
      split
      · next preset hsome =>
        rw [hsome]
        exact setActivePresets_setup s [preset.presetId] preset.crossfadeMs
      · next hnone =>
        rw [hnone]
        rfl
    rw [hpreset] at hsetup
    unfold Setup.applyCue
    rw [← hsetup]
    rfl
  · cases h

/-! ## The reducer -/

theorem applyCommand_setup {s : PlaybackState} {command : PlaybackCommand} {r : Reduction}
    (h : applyCommand s command context = .ok r) :
    r.nextState.setup = s.setup.apply command := by
  cases command with
  | setPlaying playing =>
    cases h
    exact setPlaying_setup s playing _
  | setActiveMode modeId =>
    cases h
    exact setActiveMode_setup s modeId
  | registerDevice deviceId activate =>
    cases h
    exact registerDevice_setup s deviceId activate
  | setDeviceVolume deviceId volume =>
    cases h
    exact setDeviceVolume_setup s deviceId volume
  | setActivePresets presetIds crossfadeMs =>
    cases h
    exact setActivePresets_setup s presetIds crossfadeMs
  | presetsChanged activePresetIds crossfadeMs =>
    obtain ⟨next, hnext, h⟩ := bind_eq_ok.mp h
    cases h
    exact presetsChanged_setup hnext
  | setCrossfade crossfadeMs crossfadeType =>
    cases h
    exact setCrossfade_setup s crossfadeMs crossfadeType
  | reportPosition deviceId positionMs =>
    cases h
    exact reportPosition_setup s deviceId _ _
  | ambientPlayTrack trackId =>
    obtain ⟨next, hnext, h⟩ := bind_eq_ok.mp h
    cases h
    exact ambientPlayTrack_setup hnext
  | ambientSetQueue trackIds =>
    cases h
    exact ambientSetQueue_setup s trackIds
  | ambientClearQueue =>
    cases h
    exact ambientClearQueue_setup s
  | ambientJumpQueue position =>
    obtain ⟨next, hnext, h⟩ := bind_eq_ok.mp h
    cases h
    exact ambientJumpQueue_setup hnext
  | ambientSkipNext follow expected =>
    obtain ⟨next, hnext, h⟩ := bind_eq_ok.mp h
    cases h
    exact ambientSkipNext_setup hnext
  | ambientSkipPrevious =>
    obtain ⟨next, hnext, h⟩ := bind_eq_ok.mp h
    cases h
    exact ambientSkipPrevious_setup hnext
  | ambientSeek positionMs =>
    obtain ⟨next, hnext, h⟩ := bind_eq_ok.mp h
    cases h
    exact ambientSeek_setup hnext
  | ambientStop =>
    obtain ⟨next, hnext, h⟩ := bind_eq_ok.mp h
    cases h
    exact ambientStop_setup hnext
  | ambientPlaySequence trackIds startIndex source =>
    obtain ⟨next, hnext, h⟩ := bind_eq_ok.mp h
    cases h
    exact ambientPlaySequence_setup hnext
  | fireInterruptSequence trackIds fade =>
    obtain ⟨next, hnext, h⟩ := bind_eq_ok.mp h
    cases h
    exact fireInterrupt_setup hnext
  | interruptSkipNext expected =>
    obtain ⟨next, hnext, h⟩ := bind_eq_ok.mp h
    cases h
    exact interruptSkipNext_setup hnext
  | interruptSeek positionMs =>
    obtain ⟨next, hnext, h⟩ := bind_eq_ok.mp h
    cases h
    exact interruptSeek_setup hnext
  | cancelInterrupt =>
    obtain ⟨next, hnext, h⟩ := bind_eq_ok.mp h
    cases h
    exact endInterrupt_setup hnext
  | fireCue cue =>
    obtain ⟨next, hnext, h⟩ := bind_eq_ok.mp h
    cases h
    exact fireCue_setup hnext
  | setActiveOutputs | removeActiveOutput | setActiveSoundboard | ambientEnqueue
  | ambientSetLoop | ambientSetShuffle | fireSfx | startLoop | stopLoop =>
    cases h
    rfl

theorem reduce_setup {s : PlaybackState} {command : PlaybackCommand} {r : Reduction}
    (h : reduce s command context = .ok r) :
    r.nextState.setup = s.setup.apply command := by
  obtain ⟨r', hr', rfl⟩ := reduce_eq_ok.mp h
  rw [nextState_settle]
  exact applyCommand_setup hr'

/-! ## The one output of a room -/

/-- A room that plays through one output has one at most. -/
def Setup.Single (d : Setup) : Prop :=
  d.multipleOutputs = false → d.activeOutputDeviceIds.length ≤ 1

theorem mem_newestOutput {current requested : List String} {id : String}
    (h : id ∈ newestOutput current requested) : id ∈ requested := by
  unfold newestOutput at h
  split at h
  · exact h
  split at h
  · next newest hfind =>
    rw [List.mem_singleton] at h
    rw [h, ← List.mem_reverse]
    exact List.mem_of_find?_eq_some hfind
  · rw [Option.mem_toList] at h
    exact List.mem_of_getLast? h

theorem length_newestOutput (current requested : List String) :
    (newestOutput current requested).length ≤ 1 := by
  unfold newestOutput
  split
  · assumption
  split
  · rfl
  · cases requested.getLast? <;> simp

theorem activeOutputs_switchMode (d : Setup) (modeId : Option String) :
    (d.switchMode modeId).activeOutputDeviceIds = d.activeOutputDeviceIds := by
  unfold Setup.switchMode
  split <;> rfl

theorem deviceVolumes_switchMode (d : Setup) (modeId : Option String) :
    (d.switchMode modeId).deviceVolumes = d.deviceVolumes := by
  unfold Setup.switchMode
  split <;> rfl

theorem multipleOutputs_switchMode (d : Setup) (modeId : Option String) :
    (d.switchMode modeId).multipleOutputs = d.multipleOutputs := by
  unfold Setup.switchMode
  split <;> rfl

theorem activeOutputs_applyCue (d : Setup) (cue : CuePlayback) :
    (d.applyCue cue).activeOutputDeviceIds = d.activeOutputDeviceIds := by
  unfold Setup.applyCue
  cases cue.preset <;> rfl

theorem deviceVolumes_applyCue (d : Setup) (cue : CuePlayback) :
    (d.applyCue cue).deviceVolumes = d.deviceVolumes := by
  unfold Setup.applyCue
  cases cue.preset <;> rfl

theorem multipleOutputs_applyCue (d : Setup) (cue : CuePlayback) :
    (d.applyCue cue).multipleOutputs = d.multipleOutputs := by
  unfold Setup.applyCue
  cases cue.preset <;> rfl

theorem Setup.Single.apply {d : Setup} (h : d.Single) (command : PlaybackCommand) :
    (d.apply command).Single := by
  intro hsingle
  cases command with
  | setActiveOutputs deviceIds =>
    have hsingle : d.multipleOutputs = false := hsingle
    simp only [Setup.apply, hsingle, Bool.false_eq_true, if_false]
    exact length_newestOutput _ _
  | registerDevice deviceId activate =>
    have hsingle : d.multipleOutputs = false := hsingle
    change (d.registerOutput deviceId activate).length ≤ 1
    unfold Setup.registerOutput
    split
    · next hfree =>
      -- The output takes the room only where it was empty.
      simp only [hsingle, Bool.false_or, Bool.and_eq_true, List.isEmpty_iff] at hfree
      rw [hfree.1.2]
      simp
    · exact h hsingle
  | removeActiveOutput deviceId => exact (List.length_filter_le _ _).trans (h hsingle)
  | setActiveMode modeId =>
    rw [Setup.apply, multipleOutputs_switchMode] at hsingle
    rw [Setup.apply, activeOutputs_switchMode]
    exact h hsingle
  | fireCue cue =>
    rw [Setup.apply, multipleOutputs_applyCue] at hsingle
    rw [Setup.apply, activeOutputs_applyCue]
    exact h hsingle
  | _ => exact h hsingle

theorem single_applyOutputPolicy (s : PlaybackState) (multipleOutputs : Bool) :
    (s.applyOutputPolicy multipleOutputs).1.setup.Single := by
  unfold PlaybackState.applyOutputPolicy
  simp only
  split
  · intro _
    exact List.length_take_le _ _
  · next hlength =>
    intro hsingle
    have hsingle : multipleOutputs = false := hsingle
    rw [hsingle, Bool.not_false, Bool.true_and, decide_eq_true_eq] at hlength
    exact Nat.le_of_not_lt hlength

end MusicServer
