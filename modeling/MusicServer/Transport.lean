/-
# The transport of the two lanes

What a listener of the playback state hears: whether the ambient lane should play, the
track and the clock of each lane, and the epoch that tells an output to seek.  Thirty
commands act on it in nine ways, the `TransportAct`s; `reduce_transport` is the theorem
that every successful reduction performs one of them, and says which commands perform
the two that stand out, firing an interrupt and reporting a position.
-/
import MusicServer.Reduce

namespace MusicServer

open DeadReckoning (Clock)

/-! ## The abstract transport -/

/-- What the interrupt lane plays, and whether ambient goes on playing under it. -/
structure InterruptView where
  track : TrackId
  clock : Clock ℕ
  ducks : Bool

structure Transport where
  isPlaying : Bool
  epoch : ℕ
  track : Option TrackId
  clock : Clock ℕ
  interrupt : Option InterruptView

def InterruptState.view (interrupt : InterruptState) : InterruptView where
  track := interrupt.currentTrackId
  clock := interrupt.clock
  ducks := interrupt.duckTo.isSome

def PlaybackState.transport (state : PlaybackState) : Transport where
  isPlaying := state.isPlaying
  epoch := state.positionEpoch
  track := state.ambient.currentTrackId
  clock := state.ambient.clock
  interrupt := state.interrupt.map InterruptState.view

def Transport.unsilenced (t : Transport) : Bool := t.interrupt.all (·.ducks)

/-- The anchor of an ambient track loaded at `now` while `playing`. -/
def Transport.anchorAt (t : Transport) (playing : Bool) (now : ℕ) : Option ℕ :=
  if playing && t.unsilenced then some now else none

inductive TransportAct where
  /-- Nothing. -/
  | stay
  | setPlaying (playing : Bool)
  /-- Put a track on the ambient lane, or move the one there. -/
  | load (track : TrackId) (playing : Bool) (position : ℕ)
  /-- Take the ambient track off. -/
  | unload (playing : Bool)
  | fire (track : TrackId) (ducks : Bool)
  /-- Move within the interrupt lane. -/
  | advance (track : TrackId) (position : ℕ)
  | endInterrupt (returnToAmbient : Bool)
  /-- An output tells where the audible lane is. -/
  | report (position : ℕ)

def Transport.apply (now : ℕ) (t : Transport) : TransportAct → Transport
  | .stay => t
  | .setPlaying true =>
    if t.isPlaying then t
    else if t.track.isSome then
      { t with isPlaying := true, clock := ⟨t.clock.position, t.anchorAt true now⟩ }
    else { t with isPlaying := true }
  | .setPlaying false =>
    if t.isPlaying then
      { t with isPlaying := false, clock := t.clock.freeze maxPositionMs now }
    else t
  | .load track playing position =>
    { t with
      isPlaying := playing
      epoch := t.epoch + 1
      track := some track
      clock := ⟨position, t.anchorAt playing now⟩ }
  | .unload playing =>
    { t with isPlaying := playing, epoch := t.epoch + 1, track := none, clock := ⟨0, none⟩ }
  | .fire track ducks =>
    { t with
      isPlaying := true
      epoch := t.epoch + 1
      clock := if ducks then t.clock else t.clock.freeze maxPositionMs now
      interrupt := some ⟨track, ⟨0, some now⟩, ducks⟩ }
  | .advance track position =>
    { t with
      epoch := t.epoch + 1
      interrupt := t.interrupt.map fun i => ⟨track, ⟨position, some now⟩, i.ducks⟩ }
  | .endInterrupt true =>
    { t with
      epoch := t.epoch + 1
      interrupt := none
      clock :=
        if t.isPlaying && t.track.isSome && t.clock.anchor.isNone then
          ⟨t.clock.position, some now⟩
        else t.clock }
  | .endInterrupt false =>
    { t with
      isPlaying := false
      epoch := t.epoch + 1
      interrupt := none
      clock := t.clock.freeze maxPositionMs now }
  | .report position =>
    match t.interrupt with
    | some i =>
      { t with
        interrupt := some { i with clock := ⟨position, i.clock.anchor.map fun _ => now⟩ } }
    | none => { t with clock := ⟨position, t.clock.anchor.map fun _ => now⟩ }

/-- Whether an act fires an interrupt, and then whether it ducks ambient. -/
def TransportAct.fires : TransportAct → Option Bool
  | .fire _ ducks => some ducks
  | _ => none

def TransportAct.isReport : TransportAct → Bool
  | .report _ => true
  | _ => false

/-- Whether a command fires an interrupt, and then whether it ducks ambient. -/
def PlaybackCommand.fires : PlaybackCommand → Option Bool
  | .fireInterruptSequence (_ :: _) fade => some fade.duckTo.isSome
  | _ => none

def PlaybackCommand.isReport : PlaybackCommand → Bool
  | .reportPosition _ _ => true
  | _ => false

/-! ## The helpers of the reducer, as transport acts -/

@[simp] theorem unsilenced_transport (s : PlaybackState) :
    s.transport.unsilenced = s.interrupt.all (·.duckTo.isSome) := by
  rw [Transport.unsilenced, PlaybackState.transport, Option.all_map]
  rfl

theorem ambientAnchor_eq (s : PlaybackState) (now : ℕ) :
    ambientAnchor s now = s.transport.anchorAt s.isPlaying now := by
  rw [Transport.anchorAt, unsilenced_transport]
  rfl

theorem transport_setPlaying (s : PlaybackState) (playing : Bool) (now : ℕ) :
    (setPlaying s playing now).1.transport = s.transport.apply now (.setPlaying playing) := by
  unfold setPlaying
  cases playing with
  | true =>
    by_cases hp : s.isPlaying = true
    · simp [hp, Transport.apply, PlaybackState.transport]
    · by_cases ht : s.ambient.currentTrackId.isSome = true
      · rw [if_neg (by simpa using hp), if_pos rfl, if_pos ht, ambientAnchor_eq]
        simp only [Transport.apply, PlaybackState.transport, hp, ht, if_true]
        rfl
      · rw [if_neg (by simpa using hp), if_pos rfl, if_neg ht]
        simp only [Transport.apply, PlaybackState.transport, hp, ht]
        rfl
  | false =>
    by_cases hp : s.isPlaying = true
    · simp [hp, Transport.apply, PlaybackState.transport]
    · simp [hp, Transport.apply, PlaybackState.transport]

/-- What a helper may do: it performs one act that is neither a fire nor a report. -/
def Performs (now : ℕ) (s s' : PlaybackState) : Prop :=
  ∃ act : TransportAct, act.fires = none ∧ act.isReport = false ∧
    s'.transport = s.transport.apply now act

variable {now : ℕ}

theorem Performs.of_eq {s s' : PlaybackState} (h : s'.transport = s.transport) :
    Performs now s s' :=
  ⟨.stay, rfl, rfl, h⟩

theorem Performs.load {s s' : PlaybackState} (track : TrackId) (playing : Bool) (position : ℕ)
    (h : s'.transport = s.transport.apply now (.load track playing position)) :
    Performs now s s' :=
  ⟨_, rfl, rfl, h⟩

theorem Performs.unload {s s' : PlaybackState} (playing : Bool)
    (h : s'.transport = s.transport.apply now (.unload playing)) : Performs now s s' :=
  ⟨_, rfl, rfl, h⟩

theorem ambientPlayTrack_performs {s s' : PlaybackState} {track : TrackId}
    (h : ambientPlayTrack s track now = .ok s') : Performs now s s' := by
  obtain ⟨-, rfl⟩ := incrementPositionEpoch_eq_ok.mp h
  refine .load track true 0 ?_
  simp only [ambientAnchor_eq]
  rfl

variable {r : PlaybackState × Bool} {s : PlaybackState}

theorem ambientJumpQueue_performs {position now : ℕ} (h : ambientJumpQueue s position now = .ok r) :
    Performs now s r.1 := by
  unfold ambientJumpQueue at h
  split at h
  · cases h
    exact .of_eq rfl
  · next track _ =>
    obtain ⟨s', hs', h⟩ := bind_eq_ok.mp h
    cases h
    obtain ⟨-, rfl⟩ := incrementPositionEpoch_eq_ok.mp hs'
    refine .load track true 0 ?_
    simp only [ambientAnchor_eq]
    rfl

theorem ambientSeek_performs {position now : ℕ} (h : ambientSeek s position now = .ok r) :
    Performs now s r.1 := by
  unfold ambientSeek at h
  split at h
  · cases h
    exact .of_eq rfl
  · next ht =>
    obtain ⟨s', hs', h⟩ := bind_eq_ok.mp h
    cases h
    obtain ⟨-, rfl⟩ := incrementPositionEpoch_eq_ok.mp hs'
    rw [Option.isNone_iff_eq_none] at ht
    obtain ⟨track, ht⟩ := Option.ne_none_iff_exists'.mp ht
    refine .load track s.isPlaying (min position maxPositionMs) ?_
    simp only [ambientAnchor_eq]
    simp only [PlaybackState.transport, Transport.apply, AmbientState.clock, ht]

theorem ambientStop_performs (h : ambientStop s = .ok r) : Performs now s r.1 := by
  unfold ambientStop at h
  split at h
  · cases h
    exact .of_eq rfl
  · obtain ⟨s', hs', h⟩ := bind_eq_ok.mp h
    cases h
    obtain ⟨-, rfl⟩ := incrementPositionEpoch_eq_ok.mp hs'
    exact .unload s.isPlaying rfl

theorem ambientPlaySequence_performs {trackIds : List TrackId} {startIndex : ℕ} {source : Option ℤ}
    (h : ambientPlaySequence s trackIds startIndex source now = .ok r) :
    (trackIds = [] ∧ r = (s, false)) ∨
      ∃ track, r.1.transport = s.transport.apply now (.load track true 0) := by
  unfold ambientPlaySequence at h
  split at h
  · next hempty =>
    cases h
    exact .inl ⟨by simpa using hempty, rfl⟩
  · next hempty =>
    obtain ⟨s', hs', h⟩ := bind_eq_ok.mp h
    cases h
    obtain ⟨-, rfl⟩ := incrementPositionEpoch_eq_ok.mp hs'
    have hpos : 0 < trackIds.length := List.length_pos_of_ne_nil (by simpa using hempty)
    have hindex : min startIndex (trackIds.length - 1) < trackIds.length := by omega
    refine .inr ⟨trackIds[min startIndex (trackIds.length - 1)], ?_⟩
    simp only [ambientAnchor_eq, List.getElem?_eq_getElem hindex]
    rfl

variable {context : ReductionContext}

/-- An advance that happens at all either loads a track or, at the end of everything,
takes the current one off. -/
theorem ambientSkipNext_performs {follow expected : Option TrackId}
    (h : ambientSkipNext s follow expected context = .ok r) :
    Performs context.clock.monotonicMs s r.1 := by
  unfold ambientSkipNext at h
  split at h
  · cases h
    exact .of_eq rfl
  split at h
  · cases h
    exact .of_eq rfl
  obtain ⟨s', hs', h⟩ := bind_eq_ok.mp h
  obtain ⟨-, rfl⟩ := incrementPositionEpoch_eq_ok.mp hs'
  obtain ⟨⟨next, playsOn⟩, hnext, h⟩ := bind_eq_ok.mp h
  cases h
  rcases ambientAdvance_clock hnext with ⟨track, ht, hclock, rfl⟩ | ⟨ht, hclock, rfl⟩
  · refine .load track s.isPlaying 0 ?_
    simp only [PlaybackState.transport, Transport.apply, ht, hclock, ambientAnchor_eq,
      Bool.and_true]
  · refine .unload false ?_
    simp only [PlaybackState.transport, Transport.apply, ht, hclock, Bool.and_false]

theorem ambientSkipPrevious_performs (h : ambientSkipPrevious s now = .ok r) :
    Performs now s r.1 := by
  unfold ambientSkipPrevious at h
  split at h
  · cases h
    exact .of_eq rfl
  · next hsome =>
    obtain ⟨s', hs', h⟩ := bind_eq_ok.mp h
    cases h
    obtain ⟨-, rfl⟩ := incrementPositionEpoch_eq_ok.mp hs'
    obtain ⟨track, ht, hclock⟩ := ambientRewind_clock (ambientAnchor s now) hsome
    refine .load track s.isPlaying 0 ?_
    simp only [PlaybackState.transport, Transport.apply, ht, hclock]
    simp only [ambientAnchor_eq]
    rfl

/-! ## The interrupt helpers -/

theorem fireInterrupt_transport {track : TrackId} {rest : List TrackId} {fade : InterruptFade}
    (h : fireInterrupt s (track :: rest) fade now = .ok r) :
    r.1.transport = s.transport.apply now (.fire track fade.duckTo.isSome) := by
  obtain ⟨s', hs', h⟩ := bind_eq_ok.mp h
  cases h
  obtain ⟨-, rfl⟩ := incrementPositionEpoch_eq_ok.mp hs'
  cases hduck : fade.duckTo with
  | some level | none => simp [PlaybackState.transport, Transport.apply, InterruptState.view,
      InterruptState.clock]

theorem endInterrupt_performs (h : endInterrupt s now = .ok r) : Performs now s r.1 := by
  unfold endInterrupt at h
  split at h
  · cases h
    exact .of_eq rfl
  · next interrupt hi =>
    obtain ⟨s', hs', h⟩ := bind_eq_ok.mp h
    cases h
    obtain ⟨-, rfl⟩ := incrementPositionEpoch_eq_ok.mp hs'
    refine ⟨.endInterrupt interrupt.returnToAmbient, rfl, rfl, ?_⟩
    cases hreturn : interrupt.returnToAmbient with
    | true =>
      by_cases hresume : (s.isPlaying && s.ambient.currentTrackId.isSome &&
          s.ambient.positionAnchorMs.isNone) = true
      · simp [hresume, PlaybackState.transport, Transport.apply, AmbientState.clock]
      · simp [hresume, PlaybackState.transport, Transport.apply, AmbientState.clock]
    | false => simp [PlaybackState.transport, Transport.apply]

theorem interruptSkipNext_performs {expected : Option TrackId}
    (h : interruptSkipNext s expected now = .ok r) :
    Performs now s r.1 := by
  unfold interruptSkipNext at h
  split at h
  · cases h
    exact .of_eq rfl
  · next interrupt hi =>
    split at h
    · cases h
      exact .of_eq rfl
    split at h
    · next next queue hq =>
      obtain ⟨s', hs', h⟩ := bind_eq_ok.mp h
      cases h
      obtain ⟨-, rfl⟩ := incrementPositionEpoch_eq_ok.mp hs'
      refine ⟨.advance next 0, rfl, rfl, ?_⟩
      simp [PlaybackState.transport, Transport.apply, InterruptState.view,
        InterruptState.clock, hi]
    · exact endInterrupt_performs h

theorem interruptSeek_performs {position now : ℕ} (h : interruptSeek s position now = .ok r) :
    Performs now s r.1 := by
  unfold interruptSeek at h
  split at h
  · cases h
    exact .of_eq rfl
  · next interrupt hi =>
    obtain ⟨s', hs', h⟩ := bind_eq_ok.mp h
    cases h
    obtain ⟨-, rfl⟩ := incrementPositionEpoch_eq_ok.mp hs'
    refine ⟨.advance interrupt.currentTrackId (min position maxPositionMs), rfl, rfl, ?_⟩
    simp [PlaybackState.transport, Transport.apply, InterruptState.view,
      InterruptState.clock, hi]

theorem reportPosition_transport (s : PlaybackState) (device : String) (position : ℕ)
    (clock : ClockSample) :
    (reportPosition s device position clock).transport =
      s.transport.apply clock.monotonicMs (.report position) := by
  unfold reportPosition
  cases hi : s.interrupt with
  | some interrupt => simp [PlaybackState.transport, Transport.apply, InterruptState.view,
      InterruptState.clock, hi]
  | none => simp [PlaybackState.transport, Transport.apply, AmbientState.clock, hi]


/-! ## The reducer -/

theorem setActiveMode_transport (s : PlaybackState) (modeId : Option String) :
    (setActiveMode s modeId).1.transport = s.transport := by
  unfold setActiveMode
  split <;> rfl

theorem registerDevice_transport (s : PlaybackState) (device : String) (activate : Bool) :
    (registerDevice s device activate).1.transport = s.transport := by
  have hknown : (ensureDeviceVolume s device).1.transport = s.transport := by
    unfold ensureDeviceVolume
    split <;> rfl
  unfold registerDevice
  simp only
  split
  · exact hknown
  · exact hknown

theorem setDeviceVolume_transport (s : PlaybackState) (device : String)
    (volume : UnitInterval) : (setDeviceVolume s device volume).1.transport = s.transport := by
  unfold setDeviceVolume
  split <;> rfl

theorem setActivePresets_transport (s : PlaybackState) (presetIds : List String)
    (crossfade : Option ℕ) : (setActivePresets s presetIds crossfade).1.transport = s.transport := by
  cases crossfade with
  | none => rfl
  | some milliseconds =>
    simp only [setActivePresets]
    split <;> rfl

theorem presetsChanged_transport {presetIds : Option (List String)} {crossfade : Option ℕ}
    (h : presetsChanged s presetIds crossfade = .ok r) : r.1.transport = s.transport := by
  unfold presetsChanged at h
  split at h
  · cases h
  · cases h
    rfl

theorem setCrossfade_transport (s : PlaybackState) (crossfade : ℕ)
    (crossfadeType : Option CrossfadeType) :
    (setCrossfade s crossfade crossfadeType).1.transport = s.transport := by
  unfold setCrossfade
  simp only
  split <;> rfl

theorem ambientSetQueue_transport (s : PlaybackState) (trackIds : List TrackId) :
    (ambientSetQueue s trackIds).1.transport = s.transport := by
  unfold ambientSetQueue
  split <;> rfl

theorem ambientClearQueue_transport (s : PlaybackState) :
    (ambientClearQueue s).1.transport = s.transport := by
  unfold ambientClearQueue
  split <;> rfl

theorem applyCuePreset_transport (s : PlaybackState) (preset : Option CuePreset) :
    (applyCuePreset s preset).1.transport = s.transport := by
  cases preset with
  | none => rfl
  | some preset => exact setActivePresets_transport s _ _

theorem applyCuePlaylist_performs {playlist : Option CuePlaylist}
    (htracks : playlist.all (fun playlist => !playlist.trackIds.isEmpty) = true)
    (h : applyCuePlaylist s playlist now = .ok r) : Performs now s r.1 := by
  unfold applyCuePlaylist at h
  split at h
  · cases h
    exact .of_eq rfl
  · next playlist =>
    obtain ⟨⟨s', loaded⟩, hs', h⟩ := bind_eq_ok.mp h
    rcases ambientPlaySequence_performs hs' with ⟨hnil, -⟩ | ⟨track, htrack⟩
    · simp [hnil] at htracks
    · have hplaying : s'.isPlaying = true := congrArg Transport.isPlaying htrack
      have hanchor : ambientAnchor s' now = s.transport.anchorAt true now := by
        have hsame : s'.transport = s.transport.apply now (.load track true 0) := htrack
        rw [ambientAnchor_eq, hplaying, hsame]
        rfl
      simp only at h
      split at h
      · cases h
        refine .load track true (min playlist.startMs maxPositionMs) ?_
        have hset : ∀ position anchor, PlaybackState.transport { s' with
            ambient.positionMs := position, ambient.positionAnchorMs := anchor } =
              { s'.transport with clock := ⟨position, anchor⟩ } := fun _ _ => rfl
        rw [hset, htrack, hanchor]
        rfl
      · cases h
        exact .load track true 0 htrack

theorem cueIsValid_tracks {cue : CuePlayback} (h : cueIsValid s cue = true) :
    cue.playlist.all (fun playlist => !playlist.trackIds.isEmpty) = true := by
  simp only [cueIsValid, Bool.and_eq_true] at h
  cases hplaylist : cue.playlist with
  | none => rfl
  | some playlist =>
    have := h.1.1.2
    rw [hplaylist, Option.all_some, Bool.and_eq_true] at this
    exact this.1

theorem fireCue_performs {cue : CuePlayback} {r : PlaybackState × Bool × List DomainEvent}
    (h : fireCue s cue now = .ok r) :
    Performs now s r.1 := by
  unfold fireCue at h
  split at h
  · next hvalid =>
    obtain ⟨loaded, hloaded, h⟩ := bind_eq_ok.mp h
    cases h
    obtain ⟨act, hfires, hreport, hact⟩ :=
      applyCuePlaylist_performs (cueIsValid_tracks hvalid) hloaded
    rw [applyCuePreset_transport] at hact
    exact ⟨act, hfires, hreport, hact⟩
  · cases h

/-- Every successful match branch performs a transport act: the one that fires an
interrupt belongs to `FireInterruptSequence`, the report to `ReportPosition`, and every
other command performs neither. -/
theorem applyCommand_transport {command : PlaybackCommand} {r : Reduction}
    (h : applyCommand s command context = .ok r) :
    ∃ act : TransportAct, act.fires = command.fires ∧ act.isReport = command.isReport ∧
      r.nextState.transport = s.transport.apply context.clock.monotonicMs act := by
  cases command with
  | setPlaying playing =>
    cases h
    exact ⟨.setPlaying playing, rfl, rfl, transport_setPlaying s playing _⟩
  | setActiveMode modeId =>
    cases h
    exact Performs.of_eq (setActiveMode_transport s modeId)
  | setActiveOutputs deviceIds | removeActiveOutput deviceId | setActiveSoundboard soundboardId
  | ambientEnqueue trackId position | ambientSetLoop loopMode | ambientSetShuffle shuffle
  | fireSfx soundboardId itemPath volume | startLoop loopingSfx | stopLoop id =>
    cases h
    exact Performs.of_eq rfl
  | registerDevice deviceId activate =>
    cases h
    exact Performs.of_eq (registerDevice_transport s deviceId activate)
  | setDeviceVolume deviceId volume =>
    cases h
    exact Performs.of_eq (setDeviceVolume_transport s deviceId volume)
  | setActivePresets presetIds crossfadeMs =>
    cases h
    exact Performs.of_eq (setActivePresets_transport s presetIds crossfadeMs)
  | presetsChanged activePresetIds crossfadeMs =>
    obtain ⟨result, hresult, h⟩ := bind_eq_ok.mp h
    cases h
    exact Performs.of_eq (presetsChanged_transport hresult)
  | setCrossfade crossfadeMs crossfadeType =>
    cases h
    exact Performs.of_eq (setCrossfade_transport s crossfadeMs crossfadeType)
  | reportPosition deviceId positionMs =>
    cases h
    exact ⟨.report _, rfl, rfl, reportPosition_transport s deviceId _ _⟩
  | ambientPlayTrack trackId =>
    obtain ⟨result, hresult, h⟩ := bind_eq_ok.mp h
    cases h
    exact ambientPlayTrack_performs hresult
  | ambientSetQueue trackIds =>
    cases h
    exact Performs.of_eq (ambientSetQueue_transport s trackIds)
  | ambientJumpQueue position =>
    obtain ⟨result, hresult, h⟩ := bind_eq_ok.mp h
    cases h
    exact ambientJumpQueue_performs hresult
  | ambientClearQueue =>
    cases h
    exact Performs.of_eq (ambientClearQueue_transport s)
  | ambientSkipNext followNextId expectedTrackId =>
    obtain ⟨result, hresult, h⟩ := bind_eq_ok.mp h
    cases h
    exact ambientSkipNext_performs hresult
  | ambientSkipPrevious =>
    obtain ⟨result, hresult, h⟩ := bind_eq_ok.mp h
    cases h
    exact ambientSkipPrevious_performs hresult
  | ambientSeek positionMs =>
    obtain ⟨result, hresult, h⟩ := bind_eq_ok.mp h
    cases h
    exact ambientSeek_performs hresult
  | ambientStop =>
    obtain ⟨result, hresult, h⟩ := bind_eq_ok.mp h
    cases h
    exact ambientStop_performs hresult
  | ambientPlaySequence trackIds startIndex sourcePlaylistId =>
    obtain ⟨result, hresult, h⟩ := bind_eq_ok.mp h
    cases h
    rcases ambientPlaySequence_performs hresult with ⟨-, rfl⟩ | ⟨track, htrack⟩
    · exact Performs.of_eq rfl
    · exact Performs.load track true 0 htrack
  | fireInterruptSequence trackIds fade =>
    obtain ⟨result, hresult, h⟩ := bind_eq_ok.mp h
    cases h
    cases trackIds with
    | nil =>
      cases hresult
      exact Performs.of_eq rfl
    | cons track rest =>
      exact ⟨.fire track fade.duckTo.isSome, rfl, rfl, fireInterrupt_transport hresult⟩
  | interruptSkipNext expectedTrackId =>
    obtain ⟨result, hresult, h⟩ := bind_eq_ok.mp h
    cases h
    exact interruptSkipNext_performs hresult
  | interruptSeek positionMs =>
    obtain ⟨result, hresult, h⟩ := bind_eq_ok.mp h
    cases h
    exact interruptSeek_performs hresult
  | cancelInterrupt =>
    obtain ⟨result, hresult, h⟩ := bind_eq_ok.mp h
    cases h
    exact endInterrupt_performs hresult
  | fireCue cue =>
    obtain ⟨result, hresult, h⟩ := bind_eq_ok.mp h
    cases h
    exact fireCue_performs hresult

theorem reduce_transport {command : PlaybackCommand} {r : Reduction}
    (h : reduce s command context = .ok r) :
    ∃ act : TransportAct, act.fires = command.fires ∧ act.isReport = command.isReport ∧
      r.nextState.transport = s.transport.apply context.clock.monotonicMs act := by
  obtain ⟨r', hr', rfl⟩ := reduce_eq_ok.mp h
  rw [nextState_settle]
  exact applyCommand_transport hr'

end MusicServer
