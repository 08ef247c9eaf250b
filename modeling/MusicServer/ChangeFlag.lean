/-
# The changed flag of a reduction

The owner throws the next state of a reduction away unless the reduction says that it changed
something, so a branch that mutates the state and forgets the flag would lose an update.  A
mutation `Tells` when it hands its input back wherever it denies a change; every mutation of
the reducer tells, each for its own reason, and `reduce` composes them.

The main result is `unchanged_is_unchanged`: what a reduction that denies a change may still
carry, and what one that moves the state must say.
-/
import MusicServer.Reduce

namespace MusicServer

/-- A mutation that denies a change hands its input back. -/
def Tells (state : PlaybackState) (result : PlaybackState × Bool) : Prop :=
  result.2 = false → result.1 = state

/-- So does one that may fail, where it succeeds. -/
def TellsIfOk (state : PlaybackState) (result : Except PlaybackError (PlaybackState × Bool)) :
    Prop :=
  ∀ next, result = .ok next → Tells state next

theorem tells_unchanged (state : PlaybackState) : Tells state (state, false) := fun _ => rfl

theorem tells_changed (state next : PlaybackState) : Tells state (next, true) :=
  fun h => Bool.noConfusion h

theorem tellsIfOk_unchanged (state : PlaybackState) : TellsIfOk state (.ok (state, false)) := by
  intro next h
  cases h
  exact tells_unchanged state

theorem tellsIfOk_bind_changed {α : Type} (state : PlaybackState) (first : Except PlaybackError α)
    (next : α → PlaybackState) : TellsIfOk state (first >>= fun a => .ok (next a, true)) := by
  intro result h
  obtain ⟨a, -, h⟩ := bind_eq_ok.mp h
  cases h
  exact tells_changed state (next a)

/-! ## Mutations that cannot fail -/

theorem setPlaying_tells (s : PlaybackState) (playing : Bool) (nowMs : ℕ) :
    Tells s (setPlaying s playing nowMs) := by
  unfold setPlaying
  split
  · exact tells_unchanged s
  split
  · dsimp only
    split
    · exact tells_changed s _
    · exact tells_changed s _
  · exact tells_changed s _

theorem setActiveMode_tells (s : PlaybackState) (modeId : Option String) :
    Tells s (setActiveMode s modeId) := by
  unfold setActiveMode
  split
  · exact tells_unchanged s
  · exact tells_changed s _

/-- Where the flag compares the old value with the new one, storing an equal value is no
change. -/
theorem replaceActiveOutputs_tells (s : PlaybackState) (deviceIds : List String) :
    Tells s (replaceActiveOutputs s deviceIds) := by
  unfold replaceActiveOutputs
  intro h
  dsimp only
  rw [← bne_eq_false_iff_eq.mp h]

theorem ensureDeviceVolume_tells (s : PlaybackState) (deviceId : String) :
    Tells s (ensureDeviceVolume s deviceId) := by
  unfold ensureDeviceVolume
  split
  · exact tells_unchanged s
  · exact tells_changed s _

theorem registerDevice_tells (s : PlaybackState) (deviceId : String) (activate : Bool) :
    Tells s (registerDevice s deviceId activate) := by
  unfold registerDevice
  dsimp only
  split
  · exact tells_changed s _
  · exact ensureDeviceVolume_tells s deviceId

theorem filter_eq_of_length {α : Type} {l : List α} {p : α → Bool}
    (h : ((l.filter p).length != l.length) = false) : l.filter p = l :=
  List.filter_sublist.eq_of_length (bne_eq_false_iff_eq.mp h)

theorem removeActiveOutput_tells (s : PlaybackState) (deviceId : String) :
    Tells s (removeActiveOutput s deviceId) := by
  intro h
  unfold removeActiveOutput at h ⊢
  dsimp only at h ⊢
  rw [filter_eq_of_length h]

theorem setDeviceVolume_tells (s : PlaybackState) (deviceId : String) (volume : UnitInterval) :
    Tells s (setDeviceVolume s deviceId volume) := by
  unfold setDeviceVolume
  split
  · exact tells_unchanged s
  · exact tells_changed s _

theorem setActivePresets_tells (s : PlaybackState) (presetIds : List String)
    (crossfadeMs : Option ℕ) : Tells s (setActivePresets s presetIds crossfadeMs) := by
  have hpresets : (s.activePresetIds != deduplicate presetIds) = false →
      { s with activePresetIds := deduplicate presetIds } = s := by
    intro h
    rw [← bne_eq_false_iff_eq.mp h]
  unfold setActivePresets
  cases crossfadeMs with
  | none => exact hpresets
  | some milliseconds =>
    dsimp only
    split
    · exact tells_changed s _
    · exact hpresets

theorem setCrossfade_tells (s : PlaybackState) (crossfadeMs : ℕ)
    (crossfadeType : Option CrossfadeType) : Tells s (setCrossfade s crossfadeMs crossfadeType) := by
  unfold setCrossfade
  dsimp only
  split
  · exact tells_unchanged s
  · exact tells_changed s _

theorem ambientSetQueue_tells (s : PlaybackState) (trackIds : List TrackId) :
    Tells s (ambientSetQueue s trackIds) := by
  unfold ambientSetQueue
  split
  · exact tells_unchanged s
  · exact tells_changed s _

theorem ambientClearQueue_tells (s : PlaybackState) : Tells s (ambientClearQueue s) := by
  unfold ambientClearQueue
  split
  · exact tells_unchanged s
  · exact tells_changed s _

theorem stopLoop_tells (s : PlaybackState) (id : String) : Tells s (stopLoop s id) := by
  intro h
  unfold stopLoop at h ⊢
  dsimp only at h ⊢
  rw [filter_eq_of_length h]

/-! ## Mutations that may fail -/

theorem presetsChanged_tells (s : PlaybackState) (activePresetIds : Option (List String))
    (crossfadeMs : Option ℕ) : TellsIfOk s (presetsChanged s activePresetIds crossfadeMs) := by
  intro next h
  unfold presetsChanged at h
  split at h
  · cases h
  · cases h
    exact tells_changed s _

theorem ambientJumpQueue_tells (s : PlaybackState) (position nowMs : ℕ) :
    TellsIfOk s (ambientJumpQueue s position nowMs) := by
  unfold ambientJumpQueue
  split
  · exact tellsIfOk_unchanged s
  · exact tellsIfOk_bind_changed s _ _

theorem ambientSkipNext_tells (s : PlaybackState) (followNextId expectedTrackId : Option TrackId)
    (context : ReductionContext) :
    TellsIfOk s (ambientSkipNext s followNextId expectedTrackId context) := by
  unfold ambientSkipNext
  split
  · exact tellsIfOk_unchanged s
  split
  · exact tellsIfOk_unchanged s
  · intro next h
    obtain ⟨counted, -, h⟩ := bind_eq_ok.mp h
    exact tellsIfOk_bind_changed s _ _ next h

theorem ambientSkipPrevious_tells (s : PlaybackState) (nowMs : ℕ) :
    TellsIfOk s (ambientSkipPrevious s nowMs) := by
  unfold ambientSkipPrevious
  split
  · exact tellsIfOk_unchanged s
  · exact tellsIfOk_bind_changed s _ _

theorem ambientSeek_tells (s : PlaybackState) (positionMs nowMs : ℕ) :
    TellsIfOk s (ambientSeek s positionMs nowMs) := by
  unfold ambientSeek
  split
  · exact tellsIfOk_unchanged s
  · exact tellsIfOk_bind_changed s _ _

theorem ambientStop_tells (s : PlaybackState) : TellsIfOk s (ambientStop s) := by
  unfold ambientStop
  split
  · exact tellsIfOk_unchanged s
  · exact tellsIfOk_bind_changed s _ _

theorem ambientPlaySequence_tells (s : PlaybackState) (trackIds : List TrackId) (startIndex : ℕ)
    (sourcePlaylistId : Option ℤ) (nowMs : ℕ) :
    TellsIfOk s (ambientPlaySequence s trackIds startIndex sourcePlaylistId nowMs) := by
  unfold ambientPlaySequence
  split
  · exact tellsIfOk_unchanged s
  · exact tellsIfOk_bind_changed s _ _

theorem fireInterrupt_tells (s : PlaybackState) (trackIds : List TrackId) (fade : InterruptFade)
    (nowMs : ℕ) : TellsIfOk s (fireInterrupt s trackIds fade nowMs) := by
  unfold fireInterrupt
  split
  · exact tellsIfOk_unchanged s
  · exact tellsIfOk_bind_changed s _ _

theorem endInterrupt_tells (s : PlaybackState) (nowMs : ℕ) :
    TellsIfOk s (endInterrupt s nowMs) := by
  unfold endInterrupt
  split
  · exact tellsIfOk_unchanged s
  · exact tellsIfOk_bind_changed s _ _

theorem interruptSkipNext_tells (s : PlaybackState) (expectedTrackId : Option TrackId)
    (nowMs : ℕ) : TellsIfOk s (interruptSkipNext s expectedTrackId nowMs) := by
  unfold interruptSkipNext
  split
  · exact tellsIfOk_unchanged s
  split
  · exact tellsIfOk_unchanged s
  split
  · exact tellsIfOk_bind_changed s _ _
  · exact endInterrupt_tells s nowMs

theorem interruptSeek_tells (s : PlaybackState) (positionMs nowMs : ℕ) :
    TellsIfOk s (interruptSeek s positionMs nowMs) := by
  unfold interruptSeek
  split
  · exact tellsIfOk_unchanged s
  · exact tellsIfOk_bind_changed s _ _

/-! ## Cues -/

theorem applyCuePreset_tells (s : PlaybackState) (preset : Option CuePreset) :
    Tells s (applyCuePreset s preset) := by
  cases preset with
  | none => exact tells_unchanged s
  | some preset => exact setActivePresets_tells s [preset.presetId] preset.crossfadeMs

theorem applyCuePlaylist_tells (s : PlaybackState) (playlist : Option CuePlaylist) (nowMs : ℕ) :
    TellsIfOk s (applyCuePlaylist s playlist nowMs) := by
  unfold applyCuePlaylist
  split
  · exact tellsIfOk_unchanged s
  · intro next h
    obtain ⟨sequence, -, h⟩ := bind_eq_ok.mp h
    dsimp only at h
    split at h
    · cases h
      exact tells_changed s _
    · cases h
      exact tells_changed s _

theorem applyCueLoops_tells (s : PlaybackState) (cueId : String) (loops : List LoopingSfx) :
    Tells s (applyCueLoops s cueId loops) ∧
      ((applyCueLoops s cueId loops).2 = false → loops = []) := by
  have hparts : (applyCueLoops s cueId loops).2 = false → loops = [] ∧
      s.loopingSfx.filter (fun loopingSfx =>
        !loopingSfx.id.startsWith (cueLoopPrefix cueId)) = s.loopingSfx := by
    intro h
    unfold applyCueLoops at h
    dsimp only at h
    rw [Bool.or_eq_false_iff] at h
    have hempty : loops = [] := List.isEmpty_iff.mp (by simpa using h.2)
    exact ⟨hempty, filter_eq_of_length h.1⟩
  refine ⟨fun h => ?_, fun h => (hparts h).1⟩
  obtain ⟨hempty, hkept⟩ := hparts h
  unfold applyCueLoops
  dsimp only
  rw [hkept, hempty, List.append_nil]

theorem fireCue_tells {s next : PlaybackState} {cue : CuePlayback} {nowMs : ℕ} {changed : Bool}
    {events : List DomainEvent} (h : fireCue s cue nowMs = .ok (next, changed, events)) :
    changed = false → next = s ∧
      ∀ event ∈ events, ∃ soundboardId itemPath volume,
        event = .sfxFired soundboardId itemPath volume := by
  unfold fireCue at h
  split at h
  · obtain ⟨playlist, hplaylist, h⟩ := bind_eq_ok.mp h
    cases h
    intro hflags
    rw [Bool.or_eq_false_iff, Bool.or_eq_false_iff] at hflags
    obtain ⟨⟨hpreset, hunmoved⟩, hloops⟩ := hflags
    -- each part hands on what it was given, from the last to the first
    have hsame : playlist.1 = s :=
      (applyCuePlaylist_tells _ _ _ _ hplaylist hunmoved).trans (applyCuePreset_tells s _ hpreset)
    obtain ⟨htells, hempty⟩ := applyCueLoops_tells playlist.1 cue.cueId cue.loops
    refine ⟨(htells hloops).trans hsame, fun event hevent => ?_⟩
    rw [hempty hloops, List.map_nil, List.nil_append, List.mem_map] at hevent
    obtain ⟨sfx, -, rfl⟩ := hevent
    exact ⟨_, _, _, rfl⟩
  · cases h

/-! ## Commands -/

/-- What a reduction says about itself is right: denying a change, it carries the state it was
given and one-shot effects only, and is not stored; claiming one, it is stored. -/
structure Reduction.Honest (reduction : Reduction) (current : PlaybackState) : Prop where
  kept : reduction.changed = false → reduction.nextState = current
  effects : reduction.changed = false → ∀ event ∈ reduction.events,
    ∃ soundboardId itemPath volume, event = .sfxFired soundboardId itemPath volume
  quiet : reduction.changed = false → reduction.events ≠ [] →
    reduction.publishState = false ∧ reduction.persistence = .none
  stored : reduction.changed = true → reduction.persistence ≠ .none

theorem honest_durable {s : PlaybackState} {result : PlaybackState × Bool}
    {events : List DomainEvent} (h : Tells s result) (hevents : result.2 = false → events = []) :
    (Reduction.durable result events).Honest s where
  kept := h
  effects hunchanged event hevent := by
    change event ∈ events at hevent
    rw [hevents hunchanged] at hevent
    cases hevent
  quiet hunchanged hsome := absurd (hevents hunchanged) hsome
  stored _ := PersistenceIntent.noConfusion

theorem honest_plain {s : PlaybackState} {result : PlaybackState × Bool} (h : Tells s result) :
    (Reduction.durable result []).Honest s := honest_durable h fun _ => rfl

theorem honest_bind {s : PlaybackState} {result : Except PlaybackError (PlaybackState × Bool)}
    {r : Reduction} (h : TellsIfOk s result)
    (hr : (do return Reduction.durable (← result) []) = .ok r) : r.Honest s := by
  obtain ⟨next, hnext, hr⟩ := bind_eq_ok.mp hr
  cases hr
  exact honest_plain (h next hnext)

theorem applyCommand_honest {s : PlaybackState} {command : PlaybackCommand}
    {context : ReductionContext} {r : Reduction} (h : applyCommand s command context = .ok r) :
    r.Honest s := by
  cases command with
  | setPlaying playing => cases h; exact honest_plain (setPlaying_tells s _ _)
  | setActiveMode modeId => cases h; exact honest_plain (setActiveMode_tells s _)
  | setActiveOutputs deviceIds => cases h; exact honest_plain (replaceActiveOutputs_tells s _)
  | registerDevice deviceId activate => cases h; exact honest_plain (registerDevice_tells s _ _)
  | removeActiveOutput deviceId => cases h; exact honest_plain (removeActiveOutput_tells s _)
  | setDeviceVolume deviceId volume => cases h; exact honest_plain (setDeviceVolume_tells s _ _)
  | setActiveSoundboard soundboardId | ambientSetLoop loopMode | ambientSetShuffle shuffle =>
    cases h
    refine honest_plain fun hsame => ?_
    dsimp only at hsame ⊢
    rw [← bne_eq_false_iff_eq.mp hsame]
  | setActivePresets presetIds crossfadeMs =>
    cases h
    exact honest_plain (setActivePresets_tells s _ _)
  | presetsChanged activePresetIds crossfadeMs => exact honest_bind (presetsChanged_tells s _ _) h
  | setCrossfade crossfadeMs crossfadeType =>
    cases h
    exact honest_plain (setCrossfade_tells s _ _)
  | reportPosition deviceId positionMs =>
    cases h
    exact ⟨nofun, nofun, nofun, fun _ => PersistenceIntent.noConfusion⟩
  | ambientPlayTrack trackId =>
    obtain ⟨next, -, h⟩ := bind_eq_ok.mp h
    cases h
    exact honest_plain (tells_changed s next)
  | ambientSetQueue trackIds => cases h; exact honest_plain (ambientSetQueue_tells s _)
  | ambientJumpQueue position => exact honest_bind (ambientJumpQueue_tells s _ _) h
  | ambientEnqueue trackId position => cases h; exact honest_plain (tells_changed s _)
  | ambientClearQueue => cases h; exact honest_plain (ambientClearQueue_tells s)
  | ambientSkipNext followNextId expectedTrackId =>
    exact honest_bind (ambientSkipNext_tells s _ _ _) h
  | ambientSkipPrevious => exact honest_bind (ambientSkipPrevious_tells s _) h
  | ambientSeek positionMs => exact honest_bind (ambientSeek_tells s _ _) h
  | ambientStop => exact honest_bind (ambientStop_tells s) h
  | ambientPlaySequence trackIds startIndex sourcePlaylistId =>
    exact honest_bind (ambientPlaySequence_tells s _ _ _ _) h
  | fireInterruptSequence trackIds fade => exact honest_bind (fireInterrupt_tells s _ _ _) h
  | interruptSkipNext expectedTrackId => exact honest_bind (interruptSkipNext_tells s _ _) h
  | interruptSeek positionMs => exact honest_bind (interruptSeek_tells s _ _) h
  | cancelInterrupt => exact honest_bind (endInterrupt_tells s _) h
  | fireCue cue =>
    obtain ⟨⟨next, changed, events⟩, hcue, h⟩ := bind_eq_ok.mp h
    cases h
    have hunchanged := fireCue_tells hcue
    refine ⟨fun hfalse => (hunchanged hfalse).1, fun hfalse => (hunchanged hfalse).2, ?_, ?_⟩
    · rintro rfl -
      exact ⟨rfl, rfl⟩
    · rintro rfl
      exact PersistenceIntent.noConfusion
  | fireSfx soundboardId itemPath volume =>
    cases h
    refine ⟨fun _ => rfl, fun _ event hevent => ?_, fun _ _ => ⟨rfl, rfl⟩, nofun⟩
    exact ⟨_, _, _, List.mem_singleton.mp hevent⟩
  | startLoop loopingSfx => cases h; exact honest_durable (tells_changed s _) nofun
  | stopLoop id =>
    cases h
    refine honest_durable (stopLoop_tells s id) fun hstopped => ?_
    exact if_neg (by simpa using hstopped)

/-- Settling keeps a reduction honest, and takes the publication and the storing from one that
neither changed the state nor has effects. -/
theorem honest_settle {r : Reduction} {s : PlaybackState} (h : r.Honest s) :
    r.settle.Honest s ∧ (r.settle.changed = false →
      r.settle.publishState = false ∧ r.settle.persistence = .none) := by
  unfold Reduction.settle
  split
  · exact ⟨⟨h.kept, h.effects, fun _ _ => ⟨rfl, rfl⟩, fun hchanged => by simp_all⟩,
      fun _ => ⟨rfl, rfl⟩⟩
  · next hnoisy =>
    refine ⟨h, fun hunchanged => h.quiet hunchanged fun hempty => hnoisy ?_⟩
    rw [hunchanged, hempty]
    rfl

theorem unchanged_is_unchanged {current : PlaybackState} {command : PlaybackCommand}
    {context : ReductionContext} {r : Reduction} (h : reduce current command context = .ok r) :
    (r.changed = false → r.nextState = current ∧ r.publishState = false ∧
      r.persistence = .none ∧ ∀ event ∈ r.events, ∃ soundboardId itemPath volume,
        event = .sfxFired soundboardId itemPath volume) ∧
    (r.nextState ≠ current → r.changed = true ∧
      (r.persistence = .throttled ∨ r.persistence = .immediate)) := by
  obtain ⟨r', hr', rfl⟩ := reduce_eq_ok.mp h
  obtain ⟨hhonest, hquiet⟩ := honest_settle (applyCommand_honest hr')
  refine ⟨fun hunchanged => ⟨hhonest.kept hunchanged, (hquiet hunchanged).1,
    (hquiet hunchanged).2, hhonest.effects hunchanged⟩, fun hmoved => ?_⟩
  have hchanged : r'.settle.changed = true := by
    by_contra hunchanged
    exact hmoved (hhonest.kept (Bool.eq_false_iff.mpr hunchanged))
  have hstored := hhonest.stored hchanged
  refine ⟨hchanged, ?_⟩
  cases hpersistence : r'.settle.persistence with
  | none => exact absurd hpersistence hstored
  | throttled => exact .inl rfl
  | immediate => exact .inr rfl

def campState : PlaybackState :=
  { PlaybackState.default with
    publicationRevision := 7
    isPlaying := true
    activeModeId := some "camp"
    activeOutputDeviceIds := ["den"]
    deviceVolumes := (∅ : BTreeMap String UnitInterval).insert "den" .default }

/-- Outputs are filtered before they are counted: the hall is none of them, the den is one. -/
theorem unchanged_is_unchanged_effect :
    (∃ r, reduce campState (.removeActiveOutput "hall") ⟨⟨0, 0, le_refl 0⟩, none⟩ = .ok r ∧
      r.nextState = campState ∧ r.publishState = false ∧ r.persistence = .none) ∧
    ∃ r, reduce campState (.removeActiveOutput "den") ⟨⟨0, 0, le_refl 0⟩, none⟩ = .ok r ∧
      r.changed = true ∧ (r.persistence = .throttled ∨ r.persistence = .immediate) := by
  have hkept : ∃ r, reduce campState (.removeActiveOutput "hall") ⟨⟨0, 0, le_refl 0⟩, none⟩ =
      .ok r ∧ r.changed = false := ⟨_, rfl, rfl⟩
  have hremoved : ∃ r, reduce campState (.removeActiveOutput "den") ⟨⟨0, 0, le_refl 0⟩, none⟩ =
      .ok r ∧ r.nextState.activeOutputDeviceIds = [] := ⟨_, rfl, rfl⟩
  obtain ⟨r, hr, hunchanged⟩ := hkept
  obtain ⟨r', hr', hempty⟩ := hremoved
  obtain ⟨hnext, hpublish, hpersistence, -⟩ := (unchanged_is_unchanged hr).1 hunchanged
  have hmoved : r'.nextState ≠ campState := by
    intro hsame
    rw [hsame] at hempty
    cases hempty
  exact ⟨⟨r, hr, hnext, hpublish, hpersistence⟩, r', hr', (unchanged_is_unchanged hr').2 hmoved⟩

end MusicServer
