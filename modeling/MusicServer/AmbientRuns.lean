/-
# The ambient lane over a run

After every call the lane agrees with the state, or the fade of an interrupt that is over will make
it agree, as long as no call asks for what the engine does not look at.
-/
import MusicServer.AmbientPlayback

namespace MusicServer

namespace Browser

namespace PlaybackEngine

/-! ## The lane without an interrupt -/

/-- The lane has the track, and plays as it should or will when a fade is over. -/
structure Ready (engine : PlaybackEngine) (track : Option ℕ) (isPlaying : Bool) : Prop where
  shaped : engine.Shaped
  ambientId : engine.lastAmbientId = track
  shown : engine.currentChannel.el.src = track
  lane : engine.Agrees track isPlaying ∨
    engine.Fading ∧ engine.currentChannel.el.paused = true

section Calls

variable {engine : PlaybackEngine} {track : Option ℕ} {isPlaying : Bool}

theorem Ready.aside {next : PlaybackEngine} (h : engine.Ready track isPlaying)
    (haside : engine.Aside next) (hgrows : engine.Grows next) : next.Ready track isPlaying := by
  refine ⟨haside.shaped h.shaped, haside.ambientId.trans h.ambientId, ?_, ?_⟩
  · rw [haside.currentChannel]
    exact h.shown
  · rw [haside.agrees, haside.currentChannel]
    exact h.lane.imp id fun hfade => ⟨hfade.1.grows hgrows, hfade.2⟩

theorem rampDuck_grows (engine : PlaybackEngine) (now toLevel ms : ℚ) :
    engine.Grows (engine.rampDuck now toLevel ms) := by
  unfold rampDuck
  dsimp only
  split
  · exact ⟨rfl, fun _ hmem => hmem⟩
  · exact ⟨rfl, fun _ hmem => List.mem_append_left _ hmem⟩

theorem liftDuck_grows (engine : PlaybackEngine) (now ms : ℚ) :
    engine.Grows (engine.liftDuck now ms) := by
  unfold liftDuck
  split
  · exact (engine.rampDuck_grows now 1 ms).trans ⟨rfl, fun _ hmem => hmem⟩
  · exact Grows.refl

theorem fadeOutInterrupt_fading (engine : PlaybackEngine) (now : ℚ) {ms : ℚ} (hms : ms > 0) :
    (engine.fadeOutInterrupt now ms).Fading := by
  unfold fadeOutInterrupt rampInterrupt
  dsimp only
  rw [if_neg (not_le.mpr hms)]
  exact ⟨now, engine.interrupt.gain, 0, ms, List.mem_append_right _ (List.mem_singleton_self _)⟩

theorem stopInterrupt_lane (hshaped : engine.Shaped)
    (hshown : engine.currentChannel.el.src = engine.lastAmbientId)
    (hlane : engine.Agrees engine.lastAmbientId engine.lastIsPlaying ∨
      engine.currentChannel.el.paused = true) :
    engine.stopInterrupt.Shaped ∧ engine.stopInterrupt.lastAmbientId = engine.lastAmbientId ∧
      engine.stopInterrupt.Agrees engine.lastAmbientId engine.lastIsPlaying := by
  have haside : engine.Aside
      (engine.updateInterrupt fun ch => { ch.unloadElement with gain := 0 }) :=
    engine.updateInterrupt_aside _ le_rfl
  unfold stopInterrupt
  dsimp only
  rw [haside.isPlaying]
  cases hplaying : engine.lastIsPlaying with
  | true =>
    rw [if_pos rfl]
    refine ⟨(haside.shaped hshaped).playCurrent, ?_, ?_⟩
    · unfold playCurrent updateCurrent
      rw [updateChannel_lastAmbientId]
      rfl
    · exact playCurrent_agrees (haside.shaped hshaped) (by rw [haside.currentChannel, hshown])
  | false =>
    rw [if_neg (by decide)]
    refine ⟨haside.shaped hshaped, haside.ambientId, ?_⟩
    rw [haside.agrees]
    rcases hlane with hagrees | hpaused
    · rw [hplaying] at hagrees
      exact hagrees
    · exact agrees_of_paused hshown hpaused (by simp)

theorem endInterrupt_ready (hshaped : engine.Shaped)
    (hshown : engine.currentChannel.el.src = engine.lastAmbientId)
    (hlane : engine.Agrees engine.lastAmbientId engine.lastIsPlaying ∨
      engine.currentChannel.el.paused = true) (now : ℚ) :
    (engine.endInterrupt now).Ready engine.lastAmbientId engine.lastIsPlaying := by
  unfold endInterrupt
  split
  · rename_i hms
    have hfade : engine.Aside (engine.fadeOutInterrupt now engine.lastInterruptFadeOut) :=
      engine.rampInterrupt_aside _ _ _ _ fun _ => not_le.mpr hms
    have hfading := engine.fadeOutInterrupt_fading now hms
    refine Ready.aside ⟨hfade.shaped hshaped, hfade.ambientId, ?_, ?_⟩
      (liftDuck_aside _ now _) (liftDuck_grows _ now _)
    · rw [hfade.currentChannel]
      exact hshown
    · rw [hfade.agrees, hfade.currentChannel]
      exact hlane.imp id fun hpaused => ⟨hfading, hpaused⟩
  · obtain ⟨hstopped, hid, hagrees⟩ := stopInterrupt_lane hshaped hshown hlane
    exact Ready.aside ⟨hstopped, hid, hagrees.1, Or.inl hagrees⟩ (liftDuck_aside _ now _)
      (liftDuck_grows _ now _)

theorem swapAmbient_lane (h : engine.Shaped) (now : ℚ) (trackId : ℕ) (ms startAtMs : ℚ) :
    (engine.swapAmbient now trackId ms startAtMs).Shaped ∧
      ((engine.swapAmbient now trackId ms startAtMs).Agrees (some trackId) engine.lastIsPlaying ∨
        ms > 0 ∧ (engine.swapAmbient now trackId ms startAtMs).Agrees (some trackId) true) := by
  unfold swapAmbient
  split
  · exact ⟨h.cutAmbient trackId startAtMs, Or.inl (cutAmbient_agrees h trackId startAtMs)⟩
  · rename_i hms
    exact ⟨h.crossfadeAmbient now trackId hms startAtMs,
      Or.inr ⟨not_le.mp hms, crossfadeAmbient_agrees h now trackId hms startAtMs⟩⟩

theorem applyAmbientTrack_ready (h : engine.Ready track engine.lastIsPlaying) (now : ℚ)
    (state : PlayerState) :
    (engine.applyAmbientTrack now state).Ready state.ambient.currentTrackId engine.lastIsPlaying ∨
      state.isPlaying = true ∧
        (engine.applyAmbientTrack now state).Ready state.ambient.currentTrackId true := by
  have hremember : ∀ (other : PlaybackEngine) (playing : Bool), other.Shaped →
      other.Agrees state.ambient.currentTrackId playing →
      Ready { other with lastAmbientId := state.ambient.currentTrackId }
        state.ambient.currentTrackId playing :=
    fun other playing hshaped hagrees =>
      ⟨⟨⟨hshaped.tidy.loaded, hshaped.tidy.silent, hshaped.tidy.gainTokens,
        hshaped.tidy.interruptTokens⟩, hshaped.noPauser⟩, rfl, hagrees.1, Or.inl hagrees⟩
  unfold applyAmbientTrack
  split
  · cases htrack : state.ambient.currentTrackId with
    | none =>
      rw [htrack] at hremember
      exact Or.inl (hremember _ _ h.shaped.stopAmbient (stopAmbient_agrees _))
    | some trackId =>
      rw [htrack] at hremember
      dsimp only
      obtain ⟨hshaped, hagrees | ⟨hms, hagrees⟩⟩ := swapAmbient_lane h.shaped now trackId
        (if engine.lastAmbientId ≠ none ∧ state.isPlaying = true ∧ engine.crossfadeMs > 0 ∧
          engine.crossfadeType ≠ CrossfadeType.cut then engine.crossfadeMs else 0)
        state.ambient.positionMs
      · exact Or.inl (hremember _ _ hshaped hagrees)
      · have hcrossfade : state.isPlaying = true := by
          by_contra hpaused
          rw [if_neg (by simp [hpaused])] at hms
          exact absurd hms (lt_irrefl 0)
        exact Or.inr ⟨hcrossfade, hremember _ _ hshaped hagrees⟩
  · rename_i hsame
    simp only [ne_eq, not_not] at hsame
    rw [hsame, h.ambientId]
    exact Or.inl h

theorem applyAmbientTrack_isPlaying (engine : PlaybackEngine) (now : ℚ) (state : PlayerState) :
    (engine.applyAmbientTrack now state).lastIsPlaying = engine.lastIsPlaying := by
  unfold applyAmbientTrack
  split
  · cases state.ambient.currentTrackId with
    | none => exact engine.stopAmbient_undisturbed.isPlaying
    | some trackId => exact (engine.swapAmbient_undisturbed _ _ _ _).isPlaying
  · rfl

theorem applyAmbientTrack_interruptId (engine : PlaybackEngine) (now : ℚ) (state : PlayerState) :
    (engine.applyAmbientTrack now state).lastInterruptId = engine.lastInterruptId := by
  unfold applyAmbientTrack
  split
  · cases state.ambient.currentTrackId with
    | none => exact engine.stopAmbient_undisturbed.interruptId
    | some trackId => exact (engine.swapAmbient_undisturbed _ _ _ _).interruptId
  · rfl

theorem applyIsPlaying_ready (h : engine.Ready track isPlaying) (state : PlayerState)
    (hid : engine.lastInterruptId = none)
    (hflag : isPlaying = engine.lastIsPlaying ∨ isPlaying = state.isPlaying) :
    (engine.applyIsPlaying state).Ready track state.isPlaying := by
  unfold applyIsPlaying
  split
  · cases hplaying : state.isPlaying with
    | true =>
      rw [if_pos rfl]
      unfold resumeAmbient
      rw [if_neg (by simp [hid])]
      have hagrees := playCurrent_agrees h.shaped h.shown
      refine ⟨h.shaped.playCurrent, ?_, hagrees.1, Or.inl hagrees⟩
      unfold playCurrent updateCurrent
      rw [updateChannel_lastAmbientId]
      exact h.ambientId
    | false =>
      rw [if_neg (by decide)]
      have hagrees := pauseAmbient_agrees h.shown
      exact ⟨h.shaped.pauseAmbient, h.ambientId, hagrees.1, Or.inl hagrees⟩
  · rename_i hsame
    simp only [ne_eq, not_not] at hsame
    have hflag' : isPlaying = state.isPlaying := by
      rcases hflag with hflag | hflag
      · rw [hflag, hsame]
      · exact hflag
    rw [← hflag']
    exact h

theorem updateCurrent_seek_ready (h : engine.Ready track isPlaying)
    {change : MediaElement → MediaElement}
    (hchange : ∀ el, (change el).src = el.src ∧ (change el).paused = el.paused) :
    (engine.updateCurrent (·.onElement change)).Ready track isPlaying := by
  have hsrc := (hchange engine.currentChannel.el).1
  have hpaused := (hchange engine.currentChannel.el).2
  have hcurrent : (engine.updateCurrent (·.onElement change)).currentChannel.el =
      change engine.currentChannel.el := by
    rw [currentChannel_updateCurrent]
    rfl
  have hshaped : (engine.updateCurrent (·.onElement change)).Shaped := by
    refine h.shaped.updateChannel _ _ ⟨?_, ?_, le_rfl⟩
    · exact (h.shaped.tidy.loaded _).trans hsrc.symm
    · intro hnone
      exact hpaused.trans (h.shaped.tidy.silent _ (hsrc.symm.trans hnone))
  refine ⟨hshaped, ?_, ?_, ?_⟩
  · unfold updateCurrent
    rw [updateChannel_lastAmbientId]
    exact h.ambientId
  · rw [hcurrent, hsrc]
    exact h.shown
  · unfold Agrees
    rw [hcurrent, hsrc, hpaused]
    exact h.lane.imp id fun hfade => ⟨hfade.1.grows (updateChannel_grows _ _ _), hfade.2⟩

theorem nudgeAmbient_ready (h : engine.Ready track true) (now : ℚ) :
    (engine.nudgeAmbient now).Ready track true := by
  unfold nudgeAmbient
  split
  · exact h.aside (engine.fireAmbientAdvance_aside now) (engine.fireAmbientAdvance_grows now)
  · split
    · have hagrees := playCurrent_agrees h.shaped h.shown
      refine ⟨h.shaped.playCurrent, ?_, hagrees.1, Or.inl hagrees⟩
      unfold playCurrent updateCurrent
      rw [updateChannel_lastAmbientId]
      exact h.ambientId
    · exact h

theorem applySameTrack_ready (h : engine.Ready track isPlaying) (now : ℚ) (prev : PlaybackEngine)
    {state : PlayerState} (hinterrupt : state.interrupt = none)
    (hplaying : state.isPlaying = isPlaying) :
    (engine.applySameTrack now prev state).Ready track isPlaying := by
  unfold applySameTrack
  simp only [hinterrupt]
  split
  · have hseek := updateCurrent_seek_ready h fun el =>
      applyEpochSeek_keeps el prev.lastEpoch state.positionEpoch state.ambient.positionMs
    split
    · rename_i hnudge
      rw [← hplaying, hnudge.1] at hseek ⊢
      exact nudgeAmbient_ready hseek now
    · exact hseek
  · exact h

end Calls

/-! ## What a call leaves -/

/-- The engine after a call that made the device an output. -/
structure Follows (engine : PlaybackEngine) (state : PlayerState) : Prop where
  output : engine.isMyOutput = true
  isPlaying : engine.lastIsPlaying = state.isPlaying
  interruptId : engine.lastInterruptId = state.interrupt.map (·.currentTrackId)
  lane : match state.interrupt with
    | none => engine.lastAmbientId = state.ambient.currentTrackId ∧
        (engine.Agrees state.ambient.currentTrackId state.isPlaying ∨
          engine.Fading ∧ engine.currentChannel.el.paused = true)
    | some lane =>
      if lane.duckTo = none then engine.currentChannel.el.paused = true
      else engine.Agrees state.ambient.currentTrackId state.isPlaying

/-- The engine on a device that is no output. -/
structure Released (engine : PlaybackEngine) : Prop where
  output : engine.isMyOutput = false
  isPlaying : engine.lastIsPlaying = false
  interruptId : engine.lastInterruptId = none
  sources : ∀ slot, (engine.channel slot).el.src = none

def After (engine : PlaybackEngine) : Option (PlayerState × Bool) → Prop
  | some (state, true) => engine.Follows state
  | _ => engine.Released

structure LaneRight (engine : PlaybackEngine) (last : Option (PlayerState × Bool)) : Prop where
  shaped : engine.Shaped
  shown : engine.currentChannel.el.src = engine.lastAmbientId
  after : engine.After last

theorem wired_laneRight (clientId : String) : (wired clientId).LaneRight none :=
  ⟨wired_shaped clientId, rfl, ⟨rfl, rfl, rfl, fun slot => by cases slot <;> rfl⟩⟩

section Interrupts

variable {engine : PlaybackEngine} {last : Option (PlayerState × Bool)}

/-- Whatever the last call was, the lane agrees with what the engine remembers or is paused, and
where no interrupt is heard it is paused only while a fade is running. -/
theorem LaneRight.settling (h : engine.LaneRight last) :
    (engine.Agrees engine.lastAmbientId engine.lastIsPlaying ∨
        engine.currentChannel.el.paused = true) ∧
      (engine.lastInterruptId = none →
        engine.Agrees engine.lastAmbientId engine.lastIsPlaying ∨
          engine.Fading ∧ engine.currentChannel.el.paused = true) := by
  have hreleased : engine.Released →
      engine.Agrees engine.lastAmbientId engine.lastIsPlaying := by
    intro hafter
    have hsrc : engine.currentChannel.el.src = none := hafter.sources engine.currentSlot
    have hpaused := h.shaped.tidy.silent engine.currentSlot hsrc
    rw [hafter.isPlaying]
    exact agrees_of_paused h.shown hpaused (by simp)
  have hafter := h.after
  match last with
  | none => exact ⟨Or.inl (hreleased hafter), fun _ => Or.inl (hreleased hafter)⟩
  | some (state, false) => exact ⟨Or.inl (hreleased hafter), fun _ => Or.inl (hreleased hafter)⟩
  | some (state, true) =>
    have hfollows : engine.Follows state := hafter
    have hlane := hfollows.lane
    have hid := hfollows.interruptId
    cases hinterrupt : state.interrupt with
    | none =>
      simp only [hinterrupt] at hlane
      obtain ⟨hambientId, hlane⟩ := hlane
      rw [hambientId, hfollows.isPlaying]
      exact ⟨hlane.imp id fun hfade => hfade.2, fun _ => hlane⟩
    | some lane =>
      simp only [hinterrupt] at hlane
      rw [hinterrupt] at hid
      refine ⟨?_, fun hnone => ?_⟩
      · split at hlane
        · exact Or.inr hlane
        · left
          rw [← h.shown, hfollows.isPlaying, hlane.1]
          exact hlane
      · rw [hid] at hnone
        cases hnone

theorem pauseAmbient_paused (hshaped : engine.Shaped) :
    engine.pauseAmbient.Shaped ∧
      engine.pauseAmbient.currentChannel.el.src = engine.currentChannel.el.src ∧
      engine.pauseAmbient.lastAmbientId = engine.lastAmbientId ∧
      engine.pauseAmbient.currentChannel.el.paused = true := by
  refine ⟨hshaped.pauseAmbient, ?_, rfl, ?_⟩
  · rw [pauseAmbient_current]
    rfl
  · rw [pauseAmbient_current]
    rfl

theorem applyInterrupt_aside {state : PlayerState} {lane : InterruptLane}
    (hinterrupt : state.interrupt = some lane) (now : ℚ)
    (hlane : lane.duckTo ≠ none ∨ engine.lastInterruptId = some lane.currentTrackId) :
    engine.Aside (engine.applyInterrupt now state) := by
  unfold applyInterrupt changeInterrupt
  simp only [hinterrupt, Option.map_some]
  split
  · rename_i hnew
    have hducks : lane.duckTo ≠ none := by
      rcases hlane with hducks | hsame
      · exact hducks
      · exact absurd hsame.symm hnew
    obtain ⟨duckTo, hduckTo⟩ := Option.ne_none_iff_exists'.mp hducks
    have hstarted := engine.startInterrupt_aside now lane.currentTrackId lane.fadeInMs
      lane.positionMs
    unfold beginInterrupt
    simp only [hduckTo]
    exact (hstarted.trans (rampDuck_aside _ now (clamp01 duckTo) lane.fadeInMs)).trans
      (Aside.of_same (fun slot => by cases slot <;> rfl) rfl rfl rfl rfl le_rfl)
  · exact Aside.refl engine

theorem applyInterrupt_pauses {state : PlayerState} {lane : InterruptLane}
    (hinterrupt : state.interrupt = some lane) (now : ℚ) (hpauses : lane.duckTo = none)
    (hnew : engine.lastInterruptId ≠ some lane.currentTrackId) (hshaped : engine.Shaped) :
    (engine.applyInterrupt now state).Shaped ∧
      (engine.applyInterrupt now state).currentChannel.el.src = engine.currentChannel.el.src ∧
      (engine.applyInterrupt now state).lastAmbientId = engine.lastAmbientId ∧
      (engine.applyInterrupt now state).currentChannel.el.paused = true := by
  have hstarted := engine.startInterrupt_aside now lane.currentTrackId lane.fadeInMs
    lane.positionMs
  obtain ⟨hpaused, hsrc, hambientId, hquiet⟩ := pauseAmbient_paused (hstarted.shaped hshaped)
  have hremember : ∀ other : PlaybackEngine, other.Shaped →
      Shaped { other with
        currentDuckTo := none
        lastInterruptId := some lane.currentTrackId } :=
    fun other hother => ⟨⟨hother.tidy.loaded, hother.tidy.silent, hother.tidy.gainTokens,
      hother.tidy.interruptTokens⟩, hother.noPauser⟩
  unfold applyInterrupt changeInterrupt beginInterrupt
  simp only [hinterrupt, Option.map_some, hpauses]
  rw [if_pos (Ne.symm hnew)]
  refine ⟨hremember _ hpaused, ?_, hambientId.trans hstarted.ambientId, hquiet⟩
  exact hsrc.trans (by rw [hstarted.currentChannel])

theorem applySameTrack_aside (engine : PlaybackEngine) {state : PlayerState}
    {lane : InterruptLane} (hinterrupt : state.interrupt = some lane) (now : ℚ)
    (prev : PlaybackEngine) :
    engine.Aside ((engine.applyAmbient now state).applySameTrack now prev state) := by
  unfold applyAmbient applySameTrack
  simp only [hinterrupt, reduceCtorEq, if_false]
  split
  · exact engine.updateInterrupt_aside _ le_rfl
  · exact Aside.refl engine

end Interrupts

/-! ## Calls -/

section Calls

variable {engine : PlaybackEngine} {last : Option (PlayerState × Bool)}

theorem ready_grows (engine : PlaybackEngine) (state : PlayerState) :
    engine.Grows (engine.ready state) := by
  have hsettings : engine.Grows (engine.takeSettings state true) := by
    unfold takeSettings
    dsimp only
    split <;> exact ⟨rfl, fun _ hmem => hmem⟩
  refine hsettings.trans ?_
  unfold ready rememberFadeOut
  split <;> exact ⟨rfl, fun _ hmem => hmem⟩

theorem endInterrupt_isPlaying (engine : PlaybackEngine) (now : ℚ) :
    (engine.endInterrupt now).lastIsPlaying = engine.lastIsPlaying := by
  unfold endInterrupt
  split
  · rw [(liftDuck_aside _ now _).isPlaying]
    exact (engine.rampInterrupt_undisturbed _ _ _ _ _).isPlaying
  · rw [(liftDuck_aside _ now _).isPlaying]
    exact engine.stopInterrupt_undisturbed.isPlaying

variable {state : PlayerState}

theorem applyInterrupt_ready (h : engine.LaneRight last) (hinterrupt : state.interrupt = none)
    (now : ℚ) :
    ((engine.ready state).applyInterrupt now state).Ready engine.lastAmbientId
        engine.lastIsPlaying ∧
      ((engine.ready state).applyInterrupt now state).lastIsPlaying = engine.lastIsPlaying := by
  obtain ⟨hlane, hidle⟩ := h.settling
  have haside := engine.ready_aside state
  have hid := (engine.ready_undisturbed state).interruptId
  have hshown : (engine.ready state).currentChannel.el.src =
      (engine.ready state).lastAmbientId := by
    rw [haside.currentChannel, haside.ambientId]
    exact h.shown
  have hlane' : (engine.ready state).Agrees (engine.ready state).lastAmbientId
      (engine.ready state).lastIsPlaying ∨
        (engine.ready state).currentChannel.el.paused = true := by
    rw [haside.agrees, haside.currentChannel, haside.ambientId, haside.isPlaying]
    exact hlane
  unfold applyInterrupt changeInterrupt
  simp only [hinterrupt, Option.map_none]
  split
  · have hready := endInterrupt_ready (haside.shaped h.shaped) hshown hlane' now
    rw [haside.ambientId, haside.isPlaying] at hready
    have hremember : ∀ other : PlaybackEngine,
        other.Ready engine.lastAmbientId engine.lastIsPlaying →
        Ready { other with lastInterruptId := none } engine.lastAmbientId engine.lastIsPlaying :=
      fun other hother => hother.aside
        (Aside.of_same (fun slot => by cases slot <;> rfl) rfl rfl rfl rfl le_rfl)
        ⟨rfl, fun _ hmem => hmem⟩
    exact ⟨hremember _ hready, (endInterrupt_isPlaying _ now).trans haside.isPlaying⟩
  · rename_i hsame
    simp only [ne_eq, not_not] at hsame
    have hnone : engine.lastInterruptId = none := hid.symm.trans hsame.symm
    refine ⟨?_, haside.isPlaying⟩
    exact Ready.aside ⟨h.shaped, rfl, h.shown, hidle hnone⟩ haside (engine.ready_grows state)

theorem applyState_idle (h : engine.LaneRight last) (now : ℚ) (hinterrupt : state.interrupt = none) :
    (engine.applyState now state true).LaneRight (some (state, true)) := by
  obtain ⟨hready, hplaying⟩ := applyInterrupt_ready h hinterrupt now
  obtain ⟨houtput, hrole⟩ := engine.applyState_role now state
  have hid : ((engine.ready state).applyInterrupt now state).lastInterruptId = none := by
    rw [applyInterrupt_interruptId, hinterrupt]
    rfl
  have hambient : (((engine.ready state).applyInterrupt now state).applyAmbient now state).Ready
      state.ambient.currentTrackId state.isPlaying := by
    unfold applyAmbient
    rw [if_pos hinterrupt]
    have htrackId := applyAmbientTrack_interruptId
      ((engine.ready state).applyInterrupt now state) now state
    have htrackPlaying := applyAmbientTrack_isPlaying
      ((engine.ready state).applyInterrupt now state) now state
    rw [← hplaying] at hready
    rcases applyAmbientTrack_ready hready now state with htrack | ⟨hstate, htrack⟩
    · exact applyIsPlaying_ready htrack state (htrackId.trans hid) (Or.inl htrackPlaying.symm)
    · exact applyIsPlaying_ready htrack state (htrackId.trans hid) (Or.inr hstate.symm)
  have hsame := applySameTrack_ready hambient now engine hinterrupt rfl
  have hremember : ∀ other : PlaybackEngine,
      other.Ready state.ambient.currentTrackId state.isPlaying →
      Ready { other with lastIsPlaying := state.isPlaying } state.ambient.currentTrackId
        state.isPlaying :=
    fun other hother => ⟨⟨⟨hother.shaped.tidy.loaded, hother.shaped.tidy.silent,
      hother.shaped.tidy.gainTokens, hother.shaped.tidy.interruptTokens⟩, hother.shaped.noPauser⟩,
      hother.ambientId, hother.shown, hother.lane⟩
  have hdone : (engine.applyState now state true).Ready state.ambient.currentTrackId
      state.isPlaying := hremember _ hsame
  refine ⟨hdone.shaped, hdone.shown.trans hdone.ambientId.symm, ⟨houtput, rfl, hrole, ?_⟩⟩
  simp only [hinterrupt]
  exact ⟨hdone.ambientId, hdone.lane⟩

/-- What a call asks, and the engine does not look at: under an interrupt that ducks the lane is as
it was, and an interrupt that goes on does not begin to pause. -/
def Expects (engine : PlaybackEngine) (state : PlayerState) : Prop :=
  match state.interrupt with
  | none => True
  | some lane =>
    if lane.duckTo = none then
      engine.lastInterruptId = some lane.currentTrackId → engine.currentChannel.el.paused = true
    else engine.Agrees state.ambient.currentTrackId state.isPlaying

theorem applyState_aside {lane : InterruptLane} (hinterrupt : state.interrupt = some lane) (now : ℚ)
    (hlane : lane.duckTo ≠ none ∨ engine.lastInterruptId = some lane.currentTrackId) :
    engine.Aside { engine.applyState now state true with
      lastIsPlaying := engine.lastIsPlaying } := by
  have hid := (engine.ready_undisturbed state).interruptId
  have hlane' : lane.duckTo ≠ none ∨
      (engine.ready state).lastInterruptId = some lane.currentTrackId :=
    hlane.imp id fun hsame => hid.trans hsame
  have hall := (engine.ready_aside state).trans
    ((applyInterrupt_aside hinterrupt now hlane').trans
      (applySameTrack_aside _ hinterrupt now engine))
  exact ⟨hall.channels, hall.currentSlot, hall.ambientId, rfl, hall.gains, hall.token,
    hall.interrupts⟩

theorem applyState_pauses {lane : InterruptLane} (hshaped : engine.Shaped)
    (hinterrupt : state.interrupt = some lane) (now : ℚ) (hpauses : lane.duckTo = none)
    (hnew : engine.lastInterruptId ≠ some lane.currentTrackId) :
    (engine.applyState now state true).Shaped ∧
      (engine.applyState now state true).currentChannel.el.src = engine.currentChannel.el.src ∧
      (engine.applyState now state true).lastAmbientId = engine.lastAmbientId ∧
      (engine.applyState now state true).currentChannel.el.paused = true := by
  have haside := engine.ready_aside state
  have hid := (engine.ready_undisturbed state).interruptId
  obtain ⟨hpaused, hsrc, hambientId, hquiet⟩ := applyInterrupt_pauses hinterrupt now hpauses
    (fun hsame => hnew (hid.symm.trans hsame)) (haside.shaped hshaped)
  have hrest := applySameTrack_aside ((engine.ready state).applyInterrupt now state) hinterrupt now
    engine
  have hremember : ∀ other : PlaybackEngine, other.Shaped →
      Shaped { other with lastIsPlaying := state.isPlaying } :=
    fun other hother => ⟨⟨hother.tidy.loaded, hother.tidy.silent, hother.tidy.gainTokens,
      hother.tidy.interruptTokens⟩, hother.noPauser⟩
  refine ⟨hremember _ (hrest.shaped hpaused), ?_, ?_, ?_⟩
  · exact (congrArg (fun ch : Channel => ch.el.src) hrest.currentChannel).trans
      (hsrc.trans (congrArg (fun ch : Channel => ch.el.src) haside.currentChannel))
  · exact hrest.ambientId.trans (hambientId.trans haside.ambientId)
  · exact (congrArg (fun ch : Channel => ch.el.paused) hrest.currentChannel).trans hquiet

theorem applyState_heard (h : engine.LaneRight last) (now : ℚ) {lane : InterruptLane}
    (hinterrupt : state.interrupt = some lane) :
    ((engine.applyState now state true).Plays state → engine.Expects state) ∧
      (engine.Expects state →
        (engine.applyState now state true).LaneRight (some (state, true))) := by
  obtain ⟨houtput, hrole⟩ := engine.applyState_role now state
  have hforget : ∀ {other : PlaybackEngine} {playing : Bool},
      Shaped { other with lastIsPlaying := playing } → other.Shaped :=
    fun hother => ⟨⟨hother.tidy.loaded, hother.tidy.silent, hother.tidy.gainTokens,
      hother.tidy.interruptTokens⟩, hother.noPauser⟩
  unfold Plays Expects
  simp only [hinterrupt]
  by_cases hpauses : lane.duckTo = none
  · simp only [hpauses, if_true]
    by_cases hnew : engine.lastInterruptId = some lane.currentTrackId
    · have haside := applyState_aside hinterrupt now (Or.inr hnew)
      have hchannel : (engine.applyState now state true).currentChannel = engine.currentChannel :=
        haside.currentChannel
      rw [hchannel]
      refine ⟨fun hpaused _ => hpaused, fun hpaused => ⟨hforget (haside.shaped h.shaped), ?_,
        ⟨houtput, rfl, hrole, ?_⟩⟩⟩
      · rw [hchannel]
        exact h.shown.trans haside.ambientId.symm
      · simp only [hinterrupt, hpauses, if_true]
        rw [hchannel]
        exact hpaused hnew
    · refine ⟨fun _ hsame => absurd hsame hnew, fun _ => ?_⟩
      obtain ⟨hshaped, hsrc, hambientId, hpaused⟩ :=
        applyState_pauses h.shaped hinterrupt now hpauses hnew
      refine ⟨hshaped, hsrc.trans (h.shown.trans hambientId.symm), ⟨houtput, rfl, hrole, ?_⟩⟩
      simp only [hinterrupt, hpauses, if_true]
      exact hpaused
  · simp only [hpauses, if_false]
    have haside : engine.Aside { engine.applyState now state true with
        lastIsPlaying := engine.lastIsPlaying } := applyState_aside hinterrupt now (Or.inl hpauses)
    have hchannel : (engine.applyState now state true).currentChannel = engine.currentChannel :=
      haside.currentChannel
    have hagrees : (engine.applyState now state true).Agrees state.ambient.currentTrackId
        state.isPlaying ↔ engine.Agrees state.ambient.currentTrackId state.isPlaying := by
      unfold Agrees
      rw [hchannel]
    refine ⟨hagrees.mp, fun hexpects => ⟨hforget (haside.shaped h.shaped), ?_,
      ⟨houtput, rfl, hrole, ?_⟩⟩⟩
    · rw [hchannel]
      exact h.shown.trans haside.ambientId.symm
    · simp only [hinterrupt, hpauses, if_false]
      exact hagrees.mpr hexpects

theorem applyState_silent (h : engine.LaneRight last) (now : ℚ) (state : PlayerState) :
    (engine.applyState now state false).LaneRight (some (state, false)) := by
  have haside := engine.takeSettings_aside state false
  have hforget : ∀ other : PlaybackEngine, other.Shaped →
      (∀ slot, (other.channel slot).el.src = none) → other.isMyOutput = false →
      LaneRight { other with
        lastAmbientId := none
        lastInterruptId := none
        lastIsPlaying := false
        lastEpoch := none } (some (state, false)) :=
    fun other hother hsources houtput =>
      ⟨⟨⟨hother.tidy.loaded, hother.tidy.silent, hother.tidy.gainTokens,
          hother.tidy.interruptTokens⟩, hother.noPauser⟩,
        hsources other.currentSlot, ⟨houtput, rfl, rfl, hsources⟩⟩
  have houtput := (engine.takeSettings_undisturbed state false).output
  have hshape : engine.applyState now state false =
      (engine.takeSettings state false).standDown engine.isMyOutput := rfl
  rw [hshape]
  unfold standDown
  dsimp only
  split
  · have hunloaded : (engine.takeSettings state false).unloadAll.Shaped := by
      unfold unloadAll
      exact (updateInterrupt_aside _ _ le_rfl).shaped (haside.shaped h.shaped).pauseAmbient.unload
    have hreleased : ∀ other : PlaybackEngine, other.Shaped →
        Shaped { other with
          duckRampToken := other.duckRampToken + 1
          ambientDuck := 1
          currentDuckTo := none
          lastEpoch := none } :=
      fun other hother => ⟨⟨hother.tidy.loaded, hother.tidy.silent, hother.tidy.gainTokens,
        hother.tidy.interruptTokens⟩, hother.noPauser⟩
    refine hforget _ (hreleased _ hunloaded) (fun slot => ?_)
      ((unloadAll_undisturbed _).output.trans houtput)
    have hgone := congrArg (fun ch : Channel => ch.el.src)
      (unloadAll_channel (engine.takeSettings state false) slot)
    cases slot <;> exact hgone
  · rename_i hwas
    refine hforget _ (haside.shaped h.shaped) (fun slot => ?_) houtput
    rw [haside.channels]
    have hafter := h.after
    match last with
    | none => exact Released.sources hafter slot
    | some (_, false) => exact Released.sources hafter slot
    | some (_, true) => exact absurd (Follows.output hafter) hwas

end Calls

/-! ## Frames and media events -/

section Events

variable {engine next : PlaybackEngine} {last : Option (PlayerState × Bool)}

theorem Shaped.of_frames (h : engine.Shaped)
    (hframes : ∀ frame ∈ next.frames, frame ∈ engine.frames)
    (hslot : next.currentSlot = engine.currentSlot)
    (hloaded : ∀ slot, (next.channel slot).loadedUrl = (next.channel slot).el.src)
    (hsilent : ∀ slot, (next.channel slot).el.src = none → (next.channel slot).el.paused = true)
    (htoken : ∀ slot, (next.channel slot).rampToken = (engine.channel slot).rampToken)
    (hinterrupt : next.interrupt.rampToken = engine.interrupt.rampToken) : next.Shaped := by
  refine ⟨⟨hloaded, hsilent, ?_, ?_⟩, ?_⟩
  · intro slot token start fromLevel toLevel ms pauses hmem
    rw [htoken]
    exact h.tidy.gainTokens _ _ _ _ _ _ _ (hframes _ hmem)
  · intro token start fromLevel toLevel ms stops hmem
    rw [hinterrupt]
    exact h.tidy.interruptTokens _ _ _ _ _ _ (hframes _ hmem)
  · intro token start fromLevel toLevel ms hmem
    rw [htoken]
    rw [hslot] at hmem ⊢
    exact h.noPauser _ _ _ _ _ (hframes _ hmem)

/-- The role, the play flag and the interrupt are remembered. -/
structure SameRole (engine next : PlaybackEngine) : Prop where
  output : next.isMyOutput = engine.isMyOutput
  isPlaying : next.lastIsPlaying = engine.lastIsPlaying
  interruptId : next.lastInterruptId = engine.lastInterruptId

theorem Undisturbed.sameRole (h : engine.Undisturbed next) : engine.SameRole next :=
  ⟨h.output, h.isPlaying, h.interruptId⟩

theorem LaneRight.keep (h : engine.LaneRight last) (hshaped : next.Shaped)
    (hrole : engine.SameRole next) (hambientId : next.lastAmbientId = engine.lastAmbientId)
    (hslot : next.currentSlot = engine.currentSlot)
    (hsources : ∀ slot, (next.channel slot).el.src = (engine.channel slot).el.src)
    (hpaused : next.currentChannel.el.paused = engine.currentChannel.el.paused)
    (hfading : engine.Fading → next.Fading) : next.LaneRight last := by
  have hsrc : next.currentChannel.el.src = engine.currentChannel.el.src := by
    unfold currentChannel
    rw [hslot]
    exact hsources engine.currentSlot
  have hagrees : ∀ track isPlaying,
      next.Agrees track isPlaying ↔ engine.Agrees track isPlaying := by
    intro track isPlaying
    unfold Agrees
    rw [hsrc, hpaused]
  have hreleased : engine.Released → next.Released := fun hafter =>
    ⟨hrole.output.trans hafter.output, hrole.isPlaying.trans hafter.isPlaying,
      hrole.interruptId.trans hafter.interruptId,
      fun slot => (hsources slot).trans (hafter.sources slot)⟩
  refine ⟨hshaped, hsrc.trans (h.shown.trans hambientId.symm), ?_⟩
  have hafter := h.after
  match last with
  | none => exact hreleased hafter
  | some (state, false) => exact hreleased hafter
  | some (state, true) =>
    have hfollows : engine.Follows state := hafter
    have hlane := hfollows.lane
    refine ⟨hrole.output.trans hfollows.output, hrole.isPlaying.trans hfollows.isPlaying,
      hrole.interruptId.trans hfollows.interruptId, ?_⟩
    cases hinterrupt : state.interrupt with
    | none =>
      simp only [hinterrupt] at hlane ⊢
      rw [hambientId, hagrees, hpaused]
      exact ⟨hlane.1, hlane.2.imp id fun hfade => ⟨hfading hfade.1, hfade.2⟩⟩
    | some lane =>
      simp only [hinterrupt] at hlane ⊢
      rw [hagrees, hpaused]
      exact hlane

/-- What a frame may do while a pausing interrupt is heard: not end a fade that would play. -/
def Permits (engine : PlaybackEngine) (last : Option (PlayerState × Bool)) : EngineEvent → Prop
  | .applyState _ state true => engine.Expects state
  | .frame (.interrupt token start _ _ ms true) now =>
    (∃ lane, heard last = some lane ∧ lane.duckTo = none) →
      token = engine.interrupt.rampToken → ¬ progress now start ms < 1 →
      engine.lastIsPlaying = true → engine.lastAmbientId = none
  | _ => True

theorem mem_rerequested {frames : List Frame} {frame : Frame} (hframe : frame ∈ frames)
    (other : Frame) : other ∈ frames.erase frame ++ [frame] ↔ other ∈ frames := by
  rw [List.mem_append, List.mem_singleton]
  constructor
  · rintro (hmem | rfl)
    · exact List.mem_of_mem_erase hmem
    · exact hframe
  · intro hmem
    by_cases hsame : other = frame
    · exact Or.inr hsame
    · exact Or.inl ((List.mem_erase_of_ne hsame).mpr hmem)

theorem Fading.erase {frame : Frame} (h : engine.Fading) (hinterrupt :
      next.interrupt.rampToken = engine.interrupt.rampToken)
    (hframes : ∀ other ∈ engine.frames.erase frame, other ∈ next.frames)
    (hframe : ∀ start fromLevel toLevel ms,
      frame ≠ .interrupt engine.interrupt.rampToken start fromLevel toLevel ms true) :
    next.Fading := by
  obtain ⟨start, fromLevel, toLevel, ms, hmem⟩ := h
  refine ⟨start, fromLevel, toLevel, ms, hframes _ ?_⟩
  rw [hinterrupt]
  exact (List.mem_erase_of_ne (Ne.symm (hframe start fromLevel toLevel ms))).mpr hmem

theorem LaneRight.frames (h : engine.LaneRight last)
    (hframes : ∀ frame ∈ next.frames, frame ∈ engine.frames)
    (hchannels : ∀ slot, next.channel slot = engine.channel slot)
    (hslot : next.currentSlot = engine.currentSlot)
    (hinterrupt : next.interrupt.rampToken = engine.interrupt.rampToken)
    (hrole : engine.SameRole next) (hambientId : next.lastAmbientId = engine.lastAmbientId)
    (hfading : engine.Fading → next.Fading) : next.LaneRight last := by
  refine h.keep ?_ hrole hambientId hslot (fun slot => by rw [hchannels]) ?_ hfading
  · exact h.shaped.of_frames hframes hslot
      (fun slot => by rw [hchannels]; exact h.shaped.tidy.loaded slot)
      (fun slot => by rw [hchannels]; exact h.shaped.tidy.silent slot)
      (fun slot => by rw [hchannels]) hinterrupt
  · unfold currentChannel
    rw [hslot, hchannels]

variable {fromLevel : ℚ}

theorem LaneRight.tick_duck (h : engine.LaneRight last) (halfSine : ℚ → ℚ) {token : ℕ}
    {start toLevel ms : ℚ} (hmem : .duck token start fromLevel toLevel ms ∈ engine.frames) (now : ℚ) :
    (engine.tick halfSine (.duck token start fromLevel toLevel ms) now).LaneRight last := by
  have hfading : ∀ other : PlaybackEngine, other.interrupt.rampToken = engine.interrupt.rampToken →
      (∀ frame ∈ engine.frames.erase (.duck token start fromLevel toLevel ms),
        frame ∈ other.frames) → engine.Fading → other.Fading :=
    fun other hinterrupt hframes hfade => hfade.erase hinterrupt hframes fun _ _ _ _ => by simp
  unfold tick
  dsimp only
  split
  · split
    · exact h.frames (fun frame hframe => (mem_rerequested hmem frame).mp hframe)
        (fun slot => by cases slot <;> rfl) rfl rfl ⟨rfl, rfl, rfl⟩ rfl
        (hfading _ rfl fun frame hframe => List.mem_append_left _ hframe)
    · exact h.frames (fun frame hframe => List.mem_of_mem_erase hframe)
        (fun slot => by cases slot <;> rfl) rfl rfl ⟨rfl, rfl, rfl⟩ rfl
        (hfading _ rfl fun frame hframe => hframe)
  · exact h.frames (fun frame hframe => List.mem_of_mem_erase hframe)
      (fun slot => by cases slot <;> rfl) rfl rfl ⟨rfl, rfl, rfl⟩ rfl
      (hfading _ rfl fun frame hframe => hframe)

theorem LaneRight.updateChannel (h : engine.LaneRight last) (slot : Slot)
    (change : Channel → Channel)
    (hsane : Sane (engine.channel slot) (change (engine.channel slot)))
    (hsrc : (change (engine.channel slot)).el.src = (engine.channel slot).el.src)
    (hpaused : slot = engine.currentSlot →
      (change (engine.channel slot)).el.paused = (engine.channel slot).el.paused) :
    (engine.updateChannel slot change).LaneRight last := by
  refine h.keep (h.shaped.updateChannel slot change hsane)
    (engine.updateChannel_undisturbed slot change).sameRole (by simp) (by simp) (fun other => ?_) ?_
    fun hfade => hfade.grows (engine.updateChannel_grows slot change)
  · rw [updateChannel_channel]
    split
    · rename_i hsame
      rw [hsame]
      exact hsrc
    · rfl
  · unfold currentChannel
    rw [updateChannel_currentSlot, updateChannel_channel]
    split
    · rename_i hsame
      rw [hsame]
      exact hpaused hsame.symm
    · rfl

theorem LaneRight.tick_gain (h : engine.LaneRight last) (halfSine : ℚ → ℚ) {slot : Slot} {token : ℕ}
    {start toLevel ms : ℚ} {pauses : Bool}
    (hmem : .gain slot token start fromLevel toLevel ms pauses ∈ engine.frames) (now : ℚ) :
    (engine.tick halfSine (.gain slot token start fromLevel toLevel ms pauses) now).LaneRight
      last := by
  have hfading : ∀ other : PlaybackEngine, other.interrupt.rampToken = engine.interrupt.rampToken →
      (∀ frame ∈ engine.frames.erase (.gain slot token start fromLevel toLevel ms pauses),
        frame ∈ other.frames) → engine.Fading → other.Fading :=
    fun other hinterrupt hframes hfade => hfade.erase hinterrupt hframes fun _ _ _ _ => by simp
  have hgain : ∀ (other : PlaybackEngine) (value : ℚ), other.LaneRight last →
      (other.updateChannel slot fun ch => { ch with gain := value }).LaneRight last :=
    fun other value hother => hother.updateChannel slot _
      ⟨hother.shaped.tidy.loaded slot, hother.shaped.tidy.silent slot, le_rfl⟩ rfl fun _ => rfl
  have herased : LaneRight { engine with
      frames := engine.frames.erase (.gain slot token start fromLevel toLevel ms pauses) } last :=
    h.frames (fun frame hframe => List.mem_of_mem_erase hframe)
      (fun slot => by cases slot <;> rfl) rfl rfl ⟨rfl, rfl, rfl⟩ rfl
      (hfading _ rfl fun frame hframe => hframe)
  unfold tick
  dsimp only
  split
  · rename_i hlive
    split
    · -- the frame is asked for again
      have hback : LaneRight { engine with
          frames := engine.frames.erase (.gain slot token start fromLevel toLevel ms pauses) ++
            [.gain slot token start fromLevel toLevel ms pauses] } last :=
        h.frames (fun frame hframe => (mem_rerequested hmem frame).mp hframe)
          (fun slot => by cases slot <;> rfl) rfl rfl ⟨rfl, rfl, rfl⟩ rfl
          (hfading _ rfl fun frame hframe => List.mem_append_left _ hframe)
      have hmoved := hgain _ (clamp01 (fromLevel + (toLevel - fromLevel) *
        ease halfSine { engine with
          frames := engine.frames.erase (.gain slot token start fromLevel toLevel ms pauses) }
          (progress now start ms))) hback
      cases slot <;> exact hmoved
    · have hmoved := hgain _ (clamp01 (fromLevel + (toLevel - fromLevel) *
        ease halfSine { engine with
          frames := engine.frames.erase (.gain slot token start fromLevel toLevel ms pauses) }
          (progress now start ms))) herased
      split
      · rename_i hpauses
        subst hpauses
        have hother : slot ≠ engine.currentSlot := by
          rintro rfl
          have hdead := h.shaped.noPauser token start fromLevel toLevel ms hmem
          refine hdead ?_
          simp only [live, decide_eq_true_eq] at hlive
          rw [hlive]
          cases engine.currentSlot <;> rfl
        refine hmoved.updateChannel slot (·.onElement (·.pause))
          (Sane.pause (hmoved.shaped.tidy.loaded slot)) rfl fun hsame => ?_
        rw [updateChannel_currentSlot] at hsame
        exact absurd hsame hother
      · exact hmoved
  · exact herased

theorem LaneRight.tick_interrupt (h : engine.LaneRight last) (halfSine : ℚ → ℚ) {token : ℕ}
    {start toLevel ms : ℚ} {stops : Bool}
    (hmem : .interrupt token start fromLevel toLevel ms stops ∈ engine.frames) (now : ℚ)
    (hgoes : stops = true → token = engine.interrupt.rampToken → progress now start ms < 1) :
    (engine.tick halfSine (.interrupt token start fromLevel toLevel ms stops) now).LaneRight
      last := by
  unfold tick
  dsimp only
  split
  · rename_i hlive
    have htoken : token = engine.interrupt.rampToken := by simpa [live] using hlive
    split
    · refine h.frames (fun frame hframe => (mem_rerequested hmem frame).mp hframe)
        (fun slot => by cases slot <;> rfl) rfl rfl ⟨rfl, rfl, rfl⟩ rfl ?_
      rintro ⟨start', from', to', ms', hfade⟩
      exact ⟨start', from', to', ms', (mem_rerequested hmem _).mpr hfade⟩
    · rename_i hdone
      have hstops : stops = false := by
        by_contra hstops
        exact hdone (hgoes (by simpa using hstops) htoken)
      subst hstops
      rw [if_neg (by decide)]
      refine h.frames (fun frame hframe => List.mem_of_mem_erase hframe)
        (fun slot => by cases slot <;> rfl) rfl rfl ⟨rfl, rfl, rfl⟩ rfl fun hfade => ?_
      exact hfade.erase rfl (fun frame hframe => hframe) fun _ _ _ _ => by simp
  · rename_i hdead
    refine h.frames (fun frame hframe => List.mem_of_mem_erase hframe)
      (fun slot => by cases slot <;> rfl) rfl rfl ⟨rfl, rfl, rfl⟩ rfl fun hfade => ?_
    refine hfade.erase rfl (fun frame hframe => hframe) fun start' from' to' ms' hsame => ?_
    simp only [Frame.interrupt.injEq] at hsame
    exact hdead (by simp [live, hsame.1])

theorem LaneRight.aside (h : engine.LaneRight last) (haside : engine.Aside next)
    (hrole : engine.SameRole next) (hfading : engine.Fading → next.Fading) :
    next.LaneRight last :=
  h.keep (haside.shaped h.shaped) hrole haside.ambientId haside.currentSlot
    (fun slot => by rw [haside.channels]) (by rw [haside.currentChannel]) hfading

/-- The engine at the last tick of the interrupt, before it is stopped. -/
def lastTick (engine : PlaybackEngine) (frame : Frame) (level : ℚ) : PlaybackEngine :=
  updateInterrupt { engine with frames := engine.frames.erase frame } fun ch =>
    { ch with gain := clamp01 level }

theorem lastTick_aside (engine : PlaybackEngine) (frame : Frame) (level : ℚ) :
    engine.Aside (engine.lastTick frame level) :=
  ⟨fun slot => by cases slot <;> rfl, rfl, rfl, rfl,
    fun _ _ _ _ _ _ _ hmem => List.mem_of_mem_erase hmem, le_rfl,
    fun _ _ _ _ _ _ hmem => Or.inl (List.mem_of_mem_erase hmem)⟩

theorem tick_stops (h : engine.LaneRight last) (halfSine : ℚ → ℚ) {start toLevel ms : ℚ} (now : ℚ)
    (hdone : ¬ progress now start ms < 1) :
    let next := engine.tick halfSine
      (.interrupt engine.interrupt.rampToken start fromLevel toLevel ms true) now
    next.Shaped ∧ next.lastAmbientId = engine.lastAmbientId ∧
      next.Agrees engine.lastAmbientId engine.lastIsPlaying ∧ engine.SameRole next ∧
      (engine.lastIsPlaying = false → ∀ slot, next.channel slot = engine.channel slot) := by
  intro next
  have hnext : next = (engine.lastTick
      (.interrupt engine.interrupt.rampToken start fromLevel toLevel ms true)
      (fromLevel + (toLevel - fromLevel) * progress now start ms)).stopInterrupt := by
    simp only [next, tick, live, decide_true, if_true]
    rw [if_neg hdone]
    rfl
  have haside := engine.lastTick_aside
    (.interrupt engine.interrupt.rampToken start fromLevel toLevel ms true)
    (fromLevel + (toLevel - fromLevel) * progress now start ms)
  obtain ⟨hshaped, hambientId, hagrees⟩ := stopInterrupt_lane (haside.shaped h.shaped)
    (by rw [haside.currentChannel, haside.ambientId]; exact h.shown)
    (by rw [haside.agrees, haside.currentChannel, haside.ambientId, haside.isPlaying]
        exact h.settling.1)
  have hrole := (stopInterrupt_undisturbed (engine.lastTick
    (.interrupt engine.interrupt.rampToken start fromLevel toLevel ms true)
    (fromLevel + (toLevel - fromLevel) * progress now start ms))).sameRole
  rw [haside.ambientId, haside.isPlaying] at hagrees
  rw [hnext]
  refine ⟨hshaped, hambientId.trans haside.ambientId, hagrees,
    ⟨hrole.output, hrole.isPlaying, hrole.interruptId⟩, fun hquiet slot => ?_⟩
  unfold stopInterrupt
  dsimp only [updateInterrupt, lastTick]
  rw [if_neg (by simp [hquiet])]
  cases slot <;> rfl

theorem Agrees.paused_iff {track : Option ℕ} {isPlaying : Bool}
    (h : engine.Agrees track isPlaying) :
    engine.currentChannel.el.paused = true ↔ (isPlaying = true → track = none) := by
  constructor
  · intro hpaused hplaying
    by_contra htrack
    have hplays := h.2.mpr ⟨hplaying, htrack⟩
    rw [hpaused] at hplays
    cases hplays
  · intro hquiet
    by_contra hplays
    obtain ⟨hplaying, htrack⟩ := h.2.mp (by simpa using hplays)
    exact htrack (hquiet hplaying)

theorem LaneRight.tick_stops (h : engine.LaneRight last) (halfSine : ℚ → ℚ) {start toLevel ms : ℚ}
    (now : ℚ) (hdone : ¬ progress now start ms < 1)
    (hpermits : (∃ lane, heard last = some lane ∧ lane.duckTo = none) →
      engine.lastIsPlaying = true → engine.lastAmbientId = none) :
    (engine.tick halfSine (.interrupt engine.interrupt.rampToken start fromLevel toLevel ms true)
      now).LaneRight last := by
  obtain ⟨hshaped, hambientId, hagrees, hrole, hquiet⟩ :=
    PlaybackEngine.tick_stops h halfSine now hdone
  refine ⟨hshaped, hagrees.1.trans hambientId.symm, ?_⟩
  have hafter := h.after
  have hreleased : engine.Released → Released (engine.tick halfSine
      (.interrupt engine.interrupt.rampToken start fromLevel toLevel ms true) now) := fun hafter =>
    ⟨hrole.output.trans hafter.output, hrole.isPlaying.trans hafter.isPlaying,
      hrole.interruptId.trans hafter.interruptId, fun slot => by
        rw [hquiet hafter.isPlaying]
        exact hafter.sources slot⟩
  match last with
  | none => exact hreleased hafter
  | some (state, false) => exact hreleased hafter
  | some (state, true) =>
    have hfollows : engine.Follows state := hafter
    have hlane := hfollows.lane
    refine ⟨hrole.output.trans hfollows.output, hrole.isPlaying.trans hfollows.isPlaying,
      hrole.interruptId.trans hfollows.interruptId, ?_⟩
    rw [hfollows.isPlaying] at hagrees
    cases hinterrupt : state.interrupt with
    | none =>
      simp only [hinterrupt] at hlane ⊢
      rw [hlane.1] at hagrees
      exact ⟨hambientId.trans hlane.1, Or.inl hagrees⟩
    | some lane =>
      simp only [hinterrupt] at hlane ⊢
      by_cases hpauses : lane.duckTo = none
      · simp only [hpauses, if_true] at hlane ⊢
        refine hagrees.paused_iff.mpr fun hplaying => hpermits ⟨lane, ?_, hpauses⟩ ?_
        · simp [heard, hinterrupt]
        · rw [hfollows.isPlaying]
          exact hplaying
      · simp only [hpauses, if_false] at hlane ⊢
        rw [← h.shown, hlane.1] at hagrees
        exact hagrees

theorem LaneRight.step (h : engine.LaneRight last) {halfSine : ℚ → ℚ} {event : EngineEvent}
    (hevent : ∀ now state isMyOutput, event ≠ .applyState now state isMyOutput)
    (hstep : engine.step halfSine event = some next) (hpermits : engine.Permits last event) :
    next.LaneRight last := by
  cases event with
  | applyState now state isMyOutput => exact absurd rfl (hevent now state isMyOutput)
  | frame frame now =>
    simp only [PlaybackEngine.step, Option.ite_none_right_eq_some, Option.some.injEq] at hstep
    obtain ⟨hmem, rfl⟩ := hstep
    cases frame with
    | duck token start fromLevel toLevel ms => exact h.tick_duck halfSine hmem now
    | gain slot token start fromLevel toLevel ms pauses => exact h.tick_gain halfSine hmem now
    | interrupt token start fromLevel toLevel ms stops =>
      by_cases hends : stops = true ∧ token = engine.interrupt.rampToken ∧
          ¬ progress now start ms < 1
      · obtain ⟨rfl, rfl, hdone⟩ := hends
        exact h.tick_stops halfSine now hdone fun hpausing => hpermits hpausing rfl hdone
      · refine h.tick_interrupt halfSine hmem now fun hstops htoken => ?_
        by_contra hdone
        exact hends ⟨hstops, htoken, hdone⟩
  | ambientEnded slot now =>
    simp only [PlaybackEngine.step, Option.some.injEq] at hstep
    subst hstep
    have hended := h.updateChannel slot (·.onElement fun el => { el with ended := true })
      ⟨h.shaped.tidy.loaded slot, h.shaped.tidy.silent slot, le_rfl⟩ rfl fun _ => rfl
    unfold handleAmbientEnded
    dsimp only
    split
    · exact hended.aside (fireAmbientAdvance_aside _ now)
        (fireAmbientAdvance_undisturbed _ now).sameRole
        fun hfade => hfade.grows (fireAmbientAdvance_grows _ now)
    · exact hended
  | interruptEnded now =>
    simp only [PlaybackEngine.step, Option.some.injEq] at hstep
    subst hstep
    have hended : LaneRight (engine.updateInterrupt
        (·.onElement fun el => { el with ended := true })) last :=
      h.aside (engine.updateInterrupt_aside _ le_rfl) ⟨rfl, rfl, rfl⟩ fun hfade => hfade
    have hskip : ∀ other : PlaybackEngine, other.LaneRight last →
        other.fireInterruptSkip.LaneRight last := fun other hother =>
      hother.aside (Aside.of_same (fun slot => by cases slot <;> rfl) rfl rfl rfl rfl le_rfl)
        ⟨rfl, rfl, rfl⟩ fun hfade => hfade
    unfold handleInterruptEnded
    dsimp only
    split
    · rename_i hms
      refine hskip _ (hended.aside (rampInterrupt_aside _ _ _ _ _ fun _ => not_le.mpr hms)
        (rampInterrupt_undisturbed _ _ _ _ _ _).sameRole fun _ => ?_)
      exact fadeOutInterrupt_fading _ now hms
    · exact hskip _ hended
  | ambientProgress slot time =>
    simp only [PlaybackEngine.step, Option.some.injEq] at hstep
    subst hstep
    exact h.updateChannel slot (·.onElement fun el => { el with currentTime := time })
      ⟨h.shaped.tidy.loaded slot, h.shaped.tidy.silent slot, le_rfl⟩ rfl fun _ => rfl
  | interruptProgress time =>
    simp only [PlaybackEngine.step, Option.some.injEq] at hstep
    subst hstep
    exact h.aside (engine.updateInterrupt_aside _ le_rfl) ⟨rfl, rfl, rfl⟩ fun hfade => hfade

end Events

/-! ## The lane follows the server -/

theorem LaneRight.plays {engine : PlaybackEngine} {state : PlayerState}
    (h : engine.LaneRight (some (state, true))) : engine.Plays state := by
  have hlane := Follows.lane h.after
  unfold Plays
  cases hinterrupt : state.interrupt with
  | none =>
    simp only [hinterrupt] at hlane ⊢
    intro hsettled
    rcases hlane.2 with hagrees | ⟨⟨start, fromLevel, toLevel, ms, hmem⟩, _⟩
    · exact hagrees
    · have hdead := hsettled _ hmem
      simp [live] at hdead
  | some lane =>
    simp only [hinterrupt] at hlane ⊢
    exact hlane

theorem LaneRight.event {halfSine : ℚ → ℚ} {engine next : PlaybackEngine}
    {before : List EngineEvent} (h : engine.LaneRight (lastCall before)) {event : EngineEvent}
    (hstep : engine.step halfSine event = some next)
    (hpermits : engine.Permits (lastCall before) event) :
    next.LaneRight (lastCall (before ++ [event])) := by
  by_cases hevent : ∀ now state isMyOutput, event ≠ .applyState now state isMyOutput
  · rw [lastCall_other before hevent]
    exact h.step hevent hstep hpermits
  · push Not at hevent
    obtain ⟨now, state, isMyOutput, rfl⟩ := hevent
    rw [lastCall_call]
    simp only [PlaybackEngine.step, Option.some.injEq] at hstep
    subst hstep
    cases isMyOutput with
    | true =>
      cases hinterrupt : state.interrupt with
      | none => exact applyState_idle h now hinterrupt
      | some lane => exact (applyState_heard h now hinterrupt).2 hpermits
    | false => exact applyState_silent h now state

theorem LaneRight.permitted {halfSine : ℚ → ℚ} {engine next : PlaybackEngine}
    {before : List EngineEvent} (h : engine.LaneRight (lastCall before)) {event : EngineEvent}
    (hstep : engine.step halfSine event = some next)
    (hplays : ∀ state, lastCall (before ++ [event]) = some (state, true) → next.Plays state) :
    engine.Permits (lastCall before) event := by
  cases event with
  | applyState now state isMyOutput =>
    simp only [PlaybackEngine.step, Option.some.injEq] at hstep
    subst hstep
    cases isMyOutput with
    | false => trivial
    | true =>
      have hplays' := hplays state (lastCall_call before now state true)
      cases hinterrupt : state.interrupt with
      | none => simp [Permits, Expects, hinterrupt]
      | some lane => exact (applyState_heard h now hinterrupt).1 hplays'
  | frame frame now =>
    simp only [PlaybackEngine.step, Option.ite_none_right_eq_some, Option.some.injEq] at hstep
    obtain ⟨hmem, rfl⟩ := hstep
    cases frame with
    | duck token start fromLevel toLevel ms => trivial
    | gain slot token start fromLevel toLevel ms pauses => trivial
    | interrupt token start fromLevel toLevel ms stops =>
      cases stops with
      | false => trivial
      | true =>
        rintro ⟨lane, hheard, hpauses⟩ rfl hdone hplaying
        obtain ⟨_, _, hagrees, _, _⟩ := PlaybackEngine.tick_stops h halfSine now hdone
        -- the last call made the device an output, with that interrupt
        have hlast : ∃ state, lastCall before = some (state, true) ∧
            state.interrupt = some lane := by
          rcases hcall : lastCall before with _ | ⟨state, _ | _⟩
          · simp [heard, hcall] at hheard
          · simp [heard, hcall] at hheard
          · exact ⟨state, rfl, by simpa [heard, hcall] using hheard⟩
        obtain ⟨state, hcall, hinterrupt⟩ := hlast
        have hplays' := hplays state ((lastCall_other before fun _ _ _ => by simp).trans hcall)
        simp only [Plays, hinterrupt, hpauses, if_true] at hplays'
        exact hagrees.paused_iff.mp hplays' hplaying
  | _ => trivial

/-- Wherever a run has come, the ambient lane plays what the last state says once the ramps are done
(under an interrupt at once), if and only if every call and every frame is permitted: a state with
an interrupt that ducks finds the lane as it asks for it, an interrupt that goes on does not begin
to pause, and no fade ends under an interrupt that pauses while a track should play. -/
theorem lane_plays_iff (halfSine : ℚ → ℚ) (clientId : String) (events : List EngineEvent)
    {last : PlaybackEngine} (hrun : (wired clientId).run halfSine events = some last) :
    (∀ before after state engine, events = before ++ after → lastCall before = some (state, true) →
      (wired clientId).run halfSine before = some engine → engine.Plays state) ↔
    (∀ before event after engine, events = before ++ event :: after →
      (wired clientId).run halfSine before = some engine →
      engine.Permits (lastCall before) event) := by
  constructor
  · intro hplays
    have hone : ∀ before event after engine next, events = before ++ event :: after →
        (wired clientId).run halfSine before = some engine → engine.LaneRight (lastCall before) →
        engine.step halfSine event = some next → engine.Permits (lastCall before) event := by
      intro before event after engine next hevents hengine hright hstep
      refine hright.permitted hstep fun state hcall => ?_
      refine hplays (before ++ [event]) after state next (by simp [hevents]) hcall ?_
      rw [run_append, hengine]
      simp [run, hstep]
    intro before event after engine hevents hengine
    have hright := run_keeps (wired_laneRight clientId)
      (fun before event after engine next hevents hengine hright hstep =>
        hright.event hstep (hone before event after engine next hevents hengine hright hstep))
      before _ engine hevents hengine
    rw [hevents, List.append_cons] at hrun
    obtain ⟨next, hnext⟩ := run_starts hrun
    obtain ⟨middle, hmiddle, hstep⟩ := run_concat hnext
    rw [hengine] at hmiddle
    cases hmiddle
    exact hone before event after engine next hevents hengine hright hstep
  · intro hpermits before after state engine hevents hcall hengine
    have hright := run_keeps (wired_laneRight clientId)
      (fun before event after engine next hevents hengine hright hstep =>
        hright.event hstep (hpermits before event after engine hevents hengine))
      before after engine hevents hengine
    rw [hcall] at hright
    exact hright.plays

/-- A state with the fifth track in the ambient lane. -/
def tableState (isPlaying : Bool) (interrupt : Option InterruptLane) : PlayerState where
  positionEpoch := 0
  isPlaying := isPlaying
  crossfadeMs := 0
  crossfadeType := .linear
  deviceVolumes := []
  defaultDeviceVolume := 1
  ambient := ⟨some 5, 0⟩
  interrupt := interrupt

/-- Music, an interrupt that pauses it, and music again. -/
def pausedCalls : List EngineEvent :=
  [.applyState 0 (tableState true none) true,
    .applyState 1 (tableState true (some ⟨1, 0, 0, 0, none⟩)) true,
    .applyState 2 (tableState true none) true]

theorem lane_plays_iff_paused :
    ((wired "table").run (fun t => t) pausedCalls).isSome = true ∧
      ∀ before after state engine, pausedCalls = before ++ after →
        lastCall before = some (state, true) →
        (wired "table").run (fun t => t) before = some engine → engine.Plays state := by
  refine ⟨rfl, (lane_plays_iff (fun t => t) "table" _ (Option.some_get ?_).symm).mpr ?_⟩
  · rfl
  · intro before event after engine hevents hengine
    match before with
    | [] =>
      cases hevents
      trivial
    | [_] =>
      cases hevents
      cases hengine
      intro hsame
      cases hsame
    | [_, _] =>
      cases hevents
      trivial
    | _ :: _ :: _ :: _ => simp [pausedCalls] at hevents

/-- The music is paused while an interrupt ducks it: it plays on, and still does when the interrupt
is over. -/
theorem lane_plays_on :
    ¬ ∀ (events : List EngineEvent) (state : PlayerState) (engine : PlaybackEngine),
      lastCall events = some (state, true) →
      (wired "table").run (fun t => t) events = some engine → engine.Plays state := by
  intro hclaim
  have hplays := hclaim [.applyState 0 (tableState true none) true,
    .applyState 1 (tableState true (some ⟨1, 0, 0, 0, some (1 / 4)⟩)) true,
    .applyState 2 (tableState false (some ⟨1, 0, 0, 0, some (1 / 4)⟩)) true,
    .applyState 3 (tableState false none) true] (tableState false none) _ rfl rfl
  obtain ⟨_, hagrees⟩ := hplays (by unfold Settled; decide +kernel)
  have hsounds := (hagrees.mp (by decide +kernel)).1
  cases hsounds

end PlaybackEngine

end Browser

end MusicServer
