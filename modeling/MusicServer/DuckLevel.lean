/-
# The level of the duck

The duck gain is not computed from a state: an interrupt that starts with a level ramps to it, the
end of an interrupt lifts what the engine remembers, and nothing else touches the gain.  So the
level sticks where an interrupt that pauses takes the place of one that ducks.
-/
import MusicServer.PlaybackEngine

namespace MusicServer

namespace Browser

/-- What the duck gain should be at, or ramping to. -/
def wantedDuck (interrupt : Option InterruptLane) : ℚ :=
  match interrupt.bind (·.duckTo) with
  | some duckTo => clamp01 duckTo
  | none => 1

/-- The level a ramp of the duck gain leads to, where it has the token. -/
def Frame.duckLevel (current : ℕ) : Frame → Option ℚ
  | .duck token _ _ toLevel _ => if token = current then some toLevel else none
  | _ => none

namespace PlaybackEngine

def liveDuck (engine : PlaybackEngine) (frame : Frame) : Option ℚ :=
  frame.duckLevel engine.duckRampToken

/-- The level the duck gain is at or ramping to. -/
def duckTarget (engine : PlaybackEngine) : ℚ :=
  (engine.frames.findSome? engine.liveDuck).getD engine.ambientDuck

/-- The duck gain is at a level or ramping to it, and no older ramp can come back. -/
structure DuckAt (engine : PlaybackEngine) (level : ℚ) : Prop where
  tokens : ∀ token start fromLevel toLevel ms,
    .duck token start fromLevel toLevel ms ∈ engine.frames → token ≤ engine.duckRampToken
  target : ∀ frame ∈ engine.frames, ∀ toLevel, engine.liveDuck frame = some toLevel →
    toLevel = level
  settled : (∃ frame ∈ engine.frames, engine.liveDuck frame ≠ none) ∨ engine.ambientDuck = level

variable {engine : PlaybackEngine} {level : ℚ}

theorem DuckAt.duckTarget (h : engine.DuckAt level) :
    engine.duckTarget = level := by
  unfold PlaybackEngine.duckTarget
  cases hfound : engine.frames.findSome? engine.liveDuck with
  | none =>
    rcases h.settled with ⟨frame, hframe, hlive⟩ | hgain
    · rw [List.findSome?_eq_none_iff] at hfound
      exact absurd (hfound frame hframe) hlive
    · exact hgain
  | some toLevel =>
    obtain ⟨frame, hframe, hlive⟩ := List.exists_of_findSome?_eq_some hfound
    exact h.target frame hframe toLevel hlive

theorem wired_duckAt (clientId : String) : (wired clientId).DuckAt 1 :=
  ⟨by simp [wired], by simp [wired], Or.inr rfl⟩

/-! ## What leaves the duck alone -/

structure Undisturbed (engine next : PlaybackEngine) : Prop where
  ducks : ∀ token start fromLevel toLevel ms, Frame.duck token start fromLevel toLevel ms ∈
    next.frames ↔ Frame.duck token start fromLevel toLevel ms ∈ engine.frames
  token : next.duckRampToken = engine.duckRampToken
  gain : next.ambientDuck = engine.ambientDuck
  duckTo : next.currentDuckTo = engine.currentDuckTo
  interruptId : next.lastInterruptId = engine.lastInterruptId
  isPlaying : next.lastIsPlaying = engine.lastIsPlaying
  output : next.isMyOutput = engine.isMyOutput

theorem Undisturbed.trans {engine middle next : PlaybackEngine} (hfirst : engine.Undisturbed middle)
    (hthen : middle.Undisturbed next) : engine.Undisturbed next :=
  ⟨fun token start fromLevel toLevel ms =>
    (hthen.ducks token start fromLevel toLevel ms).trans
      (hfirst.ducks token start fromLevel toLevel ms),
    hthen.token.trans hfirst.token, hthen.gain.trans hfirst.gain,
    hthen.duckTo.trans hfirst.duckTo, hthen.interruptId.trans hfirst.interruptId,
    hthen.isPlaying.trans hfirst.isPlaying, hthen.output.trans hfirst.output⟩

theorem Undisturbed.of_same {engine next : PlaybackEngine} (hframes : next.frames = engine.frames)
    (htoken : next.duckRampToken = engine.duckRampToken)
    (hgain : next.ambientDuck = engine.ambientDuck)
    (hduckTo : next.currentDuckTo = engine.currentDuckTo)
    (hinterruptId : next.lastInterruptId = engine.lastInterruptId)
    (hisPlaying : next.lastIsPlaying = engine.lastIsPlaying)
    (houtput : next.isMyOutput = engine.isMyOutput) : engine.Undisturbed next :=
  ⟨fun _ _ _ _ _ => by rw [hframes], htoken, hgain, hduckTo, hinterruptId, hisPlaying, houtput⟩

theorem Undisturbed.refl (engine : PlaybackEngine) : engine.Undisturbed engine :=
  Undisturbed.of_same rfl rfl rfl rfl rfl rfl rfl

theorem Undisturbed.liveDuck {engine next : PlaybackEngine} (h : engine.Undisturbed next)
    (frame : Frame) : next.liveDuck frame = engine.liveDuck frame := by
  unfold PlaybackEngine.liveDuck
  rw [h.token]

theorem Undisturbed.mem_iff {engine next : PlaybackEngine} (h : engine.Undisturbed next)
    {frame : Frame} (hframe : engine.liveDuck frame ≠ none) :
    frame ∈ next.frames ↔ frame ∈ engine.frames := by
  cases frame with
  | duck token start fromLevel toLevel ms => exact h.ducks token start fromLevel toLevel ms
  | gain slot token start fromLevel toLevel ms pauses
  | interrupt token start fromLevel toLevel ms stops => exact absurd rfl hframe

theorem DuckAt.undisturbed {engine next : PlaybackEngine} (h : engine.DuckAt level)
    (hnext : engine.Undisturbed next) : next.DuckAt level := by
  refine ⟨?_, ?_, ?_⟩
  · intro token start fromLevel toLevel ms hmem
    rw [hnext.token]
    exact h.tokens token start fromLevel toLevel ms
      ((hnext.ducks token start fromLevel toLevel ms).mp hmem)
  · intro frame hframe toLevel hlive
    rw [hnext.liveDuck] at hlive
    have hsome : engine.liveDuck frame ≠ none := by simp [hlive]
    exact h.target frame ((hnext.mem_iff hsome).mp hframe) toLevel hlive
  · rcases h.settled with ⟨frame, hframe, hlive⟩ | hgain
    · refine Or.inl ⟨frame, (hnext.mem_iff hlive).mpr hframe, ?_⟩
      rw [hnext.liveDuck]
      exact hlive
    · exact Or.inr (hnext.gain.trans hgain)

section Undisturbing

variable (engine : PlaybackEngine)

theorem updateChannel_undisturbed (slot : Slot) (change : Channel → Channel) :
    engine.Undisturbed (engine.updateChannel slot change) :=
  Undisturbed.of_same (by simp) (by simp) (by simp) (by simp) (by simp) (by simp) (by simp)

theorem updateInterrupt_undisturbed (change : Channel → Channel) :
    engine.Undisturbed (engine.updateInterrupt change) :=
  Undisturbed.of_same rfl rfl rfl rfl rfl rfl rfl

theorem request_undisturbed {frame : Frame}
    (hframe : ∀ token start fromLevel toLevel ms, frame ≠ .duck token start fromLevel toLevel ms) :
    engine.Undisturbed (engine.request frame) := by
  refine ⟨fun token start fromLevel toLevel ms => ?_, rfl, rfl, rfl, rfl, rfl, rfl⟩
  simp only [request, List.mem_append, List.mem_singleton, or_iff_left_iff_imp]
  exact fun h => absurd h.symm (hframe token start fromLevel toLevel ms)

theorem pauseChannel_undisturbed (slot : Slot) : engine.Undisturbed (engine.pauseChannel slot) :=
  engine.updateChannel_undisturbed slot _

theorem rampGain_undisturbed (slot : Slot) (now fromLevel toLevel ms : ℚ) (pauses : Bool) :
    engine.Undisturbed (engine.rampGain slot now fromLevel toLevel ms pauses) := by
  have hstart := engine.updateChannel_undisturbed slot (·.setGainNow fromLevel)
  unfold rampGain
  dsimp only
  split
  · have hdone := hstart.trans
      (updateChannel_undisturbed _ slot fun ch => { ch with gain := clamp01 toLevel })
    split
    · exact hdone.trans (pauseChannel_undisturbed _ slot)
    · exact hdone
  · exact hstart.trans (request_undisturbed _ fun _ _ _ _ _ => by simp)

theorem pauseAmbient_undisturbed : engine.Undisturbed engine.pauseAmbient :=
  (engine.pauseChannel_undisturbed .A).trans (pauseChannel_undisturbed _ .B)

theorem stopAmbient_undisturbed : engine.Undisturbed engine.stopAmbient :=
  engine.pauseAmbient_undisturbed.trans
    ((updateChannel_undisturbed _ _ _).trans (updateChannel_undisturbed _ _ _))

theorem playCurrent_undisturbed : engine.Undisturbed engine.playCurrent :=
  engine.updateChannel_undisturbed engine.currentSlot (·.onElement MediaElement.safePlay)

theorem resumeAmbient_undisturbed : engine.Undisturbed engine.resumeAmbient := by
  unfold resumeAmbient
  split
  · exact Undisturbed.refl engine
  · exact engine.playCurrent_undisturbed

theorem cutAmbient_undisturbed (trackId : ℕ) (startAtMs : ℚ) :
    engine.Undisturbed (engine.cutAmbient trackId startAtMs) := by
  have hcut : ∀ other : PlaybackEngine, engine.Undisturbed other →
      engine.Undisturbed (if other.lastIsPlaying then other.playCurrent else other) := by
    intro other hother
    split
    · exact hother.trans other.playCurrent_undisturbed
    · exact hother
  refine hcut _ ?_
  exact (engine.updateChannel_undisturbed _ _).trans ((updateChannel_undisturbed _ _ _).trans
    (updateChannel_undisturbed _ _ _))

theorem crossfadeAmbient_undisturbed (now : ℚ) (trackId : ℕ) (crossfadeMs startAtMs : ℚ) :
    engine.Undisturbed (engine.crossfadeAmbient now trackId crossfadeMs startAtMs) := by
  have hswitch : ∀ other : PlaybackEngine, engine.Undisturbed other →
      engine.Undisturbed other.switchSlot :=
    fun other hother => hother.trans (Undisturbed.of_same rfl rfl rfl rfl rfl rfl rfl)
  refine hswitch _ ?_
  exact (engine.updateChannel_undisturbed _ _).trans ((updateChannel_undisturbed _ _ _).trans
    ((rampGain_undisturbed _ _ _ _ _ _ _).trans (rampGain_undisturbed _ _ _ _ _ _ _)))

theorem swapAmbient_undisturbed (now : ℚ) (trackId : ℕ) (crossfadeMs startAtMs : ℚ) :
    engine.Undisturbed (engine.swapAmbient now trackId crossfadeMs startAtMs) := by
  unfold swapAmbient
  split
  · exact engine.cutAmbient_undisturbed trackId startAtMs
  · exact engine.crossfadeAmbient_undisturbed now trackId crossfadeMs startAtMs

theorem stopInterrupt_undisturbed : engine.Undisturbed engine.stopInterrupt := by
  have hgone := engine.updateInterrupt_undisturbed fun ch => { ch.unloadElement with gain := 0 }
  unfold stopInterrupt
  dsimp only
  split
  · exact hgone.trans (playCurrent_undisturbed _)
  · exact hgone

theorem rampInterrupt_undisturbed (now fromLevel toLevel ms : ℚ) (stops : Bool) :
    engine.Undisturbed (engine.rampInterrupt now fromLevel toLevel ms stops) := by
  have hstart := engine.updateInterrupt_undisturbed (·.setGainNow fromLevel)
  unfold rampInterrupt
  dsimp only
  split
  · have hdone := hstart.trans
      (updateInterrupt_undisturbed _ fun ch => { ch with gain := clamp01 toLevel })
    split
    · exact hdone.trans (stopInterrupt_undisturbed _)
    · exact hdone
  · exact hstart.trans (request_undisturbed _ fun _ _ _ _ _ => by simp)

theorem startInterrupt_undisturbed (now : ℚ) (trackId : ℕ) (fadeInMs startAtMs : ℚ) :
    engine.Undisturbed (engine.startInterrupt now trackId fadeInMs startAtMs) := by
  have hplay : ∀ other : PlaybackEngine, engine.Undisturbed other →
      engine.Undisturbed (other.updateInterrupt (·.onElement MediaElement.safePlay)) :=
    fun other hother => hother.trans (updateInterrupt_undisturbed _ _)
  refine hplay _ ?_
  exact (engine.updateInterrupt_undisturbed _).trans ((updateInterrupt_undisturbed _ _).trans
    (rampInterrupt_undisturbed _ _ _ _ _ _))

theorem fireAmbientAdvance_undisturbed (now : ℚ) :
    engine.Undisturbed (engine.fireAmbientAdvance now) := by
  unfold fireAmbientAdvance
  split
  · exact Undisturbed.refl engine
  · exact Undisturbed.of_same rfl rfl rfl rfl rfl rfl rfl

theorem takeSettings_undisturbed (state : PlayerState) (isMyOutput : Bool) :
    Undisturbed { engine with isMyOutput := isMyOutput }
      (engine.takeSettings state isMyOutput) := by
  unfold takeSettings
  dsimp only
  split <;> exact Undisturbed.of_same rfl rfl rfl rfl rfl rfl rfl

theorem applyAmbient_undisturbed (now : ℚ) (state : PlayerState) :
    engine.Undisturbed (engine.applyAmbient now state) := by
  have htrack : engine.Undisturbed (engine.applyAmbientTrack now state) := by
    unfold applyAmbientTrack
    split
    · dsimp only
      split
      · exact engine.stopAmbient_undisturbed.trans (Undisturbed.of_same rfl rfl rfl rfl rfl rfl rfl)
      · exact (engine.swapAmbient_undisturbed _ _ _ _).trans
          (Undisturbed.of_same rfl rfl rfl rfl rfl rfl rfl)
    · exact Undisturbed.refl engine
  unfold applyAmbient
  split
  · refine htrack.trans ?_
    unfold applyIsPlaying
    split
    · split
      · exact resumeAmbient_undisturbed _
      · exact pauseAmbient_undisturbed _
    · exact Undisturbed.refl _
  · exact Undisturbed.refl engine

theorem applySameTrack_undisturbed (now : ℚ) (prev : PlaybackEngine) (state : PlayerState) :
    engine.Undisturbed (engine.applySameTrack now prev state) := by
  unfold applySameTrack
  split
  · split
    · exact engine.updateInterrupt_undisturbed _
    · exact Undisturbed.refl engine
  · split
    · dsimp only
      have hseek : engine.Undisturbed (engine.updateCurrent (·.onElement
          (·.applyEpochSeek prev.lastEpoch state.positionEpoch state.ambient.positionMs))) :=
        engine.updateChannel_undisturbed _ _
      split
      · refine hseek.trans ?_
        unfold nudgeAmbient
        split
        · exact fireAmbientAdvance_undisturbed _ now
        · split
          · exact playCurrent_undisturbed _
          · exact Undisturbed.refl _
      · exact hseek
    · exact Undisturbed.refl engine

end Undisturbing

/-! ## What moves the duck -/

theorem rampDuck_duckAt (h : engine.DuckAt level) (now toLevel ms : ℚ) :
    (engine.rampDuck now toLevel ms).DuckAt toLevel := by
  have hdead : ∀ frame ∈ engine.frames, frame.duckLevel (engine.duckRampToken + 1) = none := by
    intro frame hframe
    cases frame with
    | duck token start fromLevel toLevel ms =>
      have htoken := h.tokens token start fromLevel toLevel ms hframe
      have hold : ¬ token = engine.duckRampToken + 1 := by omega
      simp [Frame.duckLevel, hold]
    | gain slot token start fromLevel toLevel ms pauses => rfl
    | interrupt token start fromLevel toLevel ms stops => rfl
  unfold rampDuck
  dsimp only
  split
  · refine ⟨fun token start fromLevel toLevel ms hmem => ?_, fun frame hframe other hlive => ?_,
      Or.inr rfl⟩
    · exact Nat.le_succ_of_le (h.tokens token start fromLevel toLevel ms hmem)
    · have hlive' : frame.duckLevel (engine.duckRampToken + 1) = some other := hlive
      rw [hdead frame hframe] at hlive'
      cases hlive'
  · refine ⟨fun token start fromLevel other ms hmem => ?_, fun frame hframe other hlive => ?_,
      Or.inl ⟨_, List.mem_append_right _ (List.mem_singleton_self _), ?_⟩⟩
    · rcases List.mem_append.mp hmem with hmem | hmem
      · exact Nat.le_succ_of_le (h.tokens token start fromLevel other ms hmem)
      · simp only [List.mem_singleton, Frame.duck.injEq] at hmem
        simp only [request]
        omega
    · have hlive' : frame.duckLevel (engine.duckRampToken + 1) = some other := hlive
      rcases List.mem_append.mp hframe with hframe | hframe
      · rw [hdead frame hframe] at hlive'
        cases hlive'
      · rw [List.mem_singleton.mp hframe] at hlive'
        simpa [Frame.duckLevel] using hlive'.symm
    · simp [liveDuck, Frame.duckLevel, request]

theorem beginInterrupt_duckAt (h : engine.DuckAt level) (now : ℚ) (interrupt : InterruptLane) :
    (engine.beginInterrupt now interrupt).DuckAt
        (if interrupt.duckTo = none then level else wantedDuck (some interrupt)) ∧
      (engine.beginInterrupt now interrupt).currentDuckTo = interrupt.duckTo := by
  have hstarted := h.undisturbed (engine.startInterrupt_undisturbed now interrupt.currentTrackId
    interrupt.fadeInMs interrupt.positionMs)
  unfold beginInterrupt
  dsimp only
  cases hduck : interrupt.duckTo with
  | none =>
    have hpaused := hstarted.undisturbed (pauseAmbient_undisturbed _)
    exact ⟨⟨hpaused.tokens, hpaused.target, hpaused.settled⟩, rfl⟩
  | some duckTo =>
    have hducked := rampDuck_duckAt hstarted now (clamp01 duckTo) interrupt.fadeInMs
    have hwanted : wantedDuck (some interrupt) = clamp01 duckTo := by simp [wantedDuck, hduck]
    rw [if_neg (by simp), hwanted]
    exact ⟨⟨hducked.tokens, hducked.target, hducked.settled⟩, rfl⟩

theorem endInterrupt_duckAt (h : engine.DuckAt level)
    (hremembers : engine.currentDuckTo = none → level = 1) (now : ℚ) :
    (engine.endInterrupt now).DuckAt 1 ∧ (engine.endInterrupt now).currentDuckTo = none := by
  have hlift : ∀ (other : PlaybackEngine) (ms : ℚ), engine.Undisturbed other →
      (other.liftDuck now ms).DuckAt 1 ∧ (other.liftDuck now ms).currentDuckTo = none := by
    intro other ms hother
    unfold liftDuck
    split
    · have hlifted := rampDuck_duckAt (h.undisturbed hother) now 1 ms
      exact ⟨⟨hlifted.tokens, hlifted.target, hlifted.settled⟩, rfl⟩
    · rename_i hnone
      simp only [ne_eq, not_not] at hnone
      refine ⟨?_, hnone⟩
      rw [← hremembers (hother.duckTo.symm.trans hnone)]
      exact h.undisturbed hother
  unfold endInterrupt
  split
  · exact hlift _ _ (engine.rampInterrupt_undisturbed _ _ _ _ _)
  · exact hlift _ _ engine.stopInterrupt_undisturbed

/-! ## Calls -/

/-- What a call leaves of the interrupt: none on a device that is no output. -/
def heard (last : Option (PlayerState × Bool)) : Option InterruptLane :=
  last.bind fun call => if call.2 then call.1.interrupt else none

/-- An interrupt follows what was heard before without a trace of an older level: the same one keeps
its level, and another one ducks itself or finds the level up. -/
def DuckFollows (before : Option InterruptLane) (interrupt : InterruptLane) : Prop :=
  if before.map (·.currentTrackId) = some interrupt.currentTrackId then
    wantedDuck (some interrupt) = wantedDuck before
  else interrupt.duckTo ≠ none ∨ wantedDuck before = 1

/-- The engine after a run whose last call is known, while nothing stuck. -/
structure DuckRight (engine : PlaybackEngine) (before : Option InterruptLane) : Prop where
  level : engine.DuckAt (wantedDuck before)
  interruptId : engine.lastInterruptId = before.map (·.currentTrackId)
  duckTo : engine.currentDuckTo = none → wantedDuck before = 1
  output : before ≠ none → engine.isMyOutput = true

theorem wired_duckRight (clientId : String) : (wired clientId).DuckRight none :=
  ⟨wired_duckAt clientId, rfl, fun _ => rfl, fun h => absurd rfl h⟩

def duckAfter (before interrupt : Option InterruptLane) : ℚ :=
  match interrupt with
  | none => 1
  | some lane =>
    if before.map (·.currentTrackId) = some lane.currentTrackId ∨ lane.duckTo = none then
      wantedDuck before
    else wantedDuck (some lane)

theorem wantedDuck_pausing {lane : InterruptLane} (hlane : lane.duckTo = none) :
    wantedDuck (some lane) = 1 := by
  simp [wantedDuck, hlane]

theorem duckAfter_eq_iff (before : Option InterruptLane) (lane : InterruptLane) :
    duckAfter before (some lane) = wantedDuck (some lane) ↔ DuckFollows before lane := by
  unfold duckAfter DuckFollows
  by_cases hsame : before.map (·.currentTrackId) = some lane.currentTrackId
  · simp only [hsame, true_or, if_true]
    exact eq_comm
  · by_cases hpause : lane.duckTo = none
    · simp [hsame, hpause, wantedDuck_pausing hpause]
    · simp [hsame, hpause]

theorem applyInterrupt_interruptId (engine : PlaybackEngine) (now : ℚ) (state : PlayerState) :
    (engine.applyInterrupt now state).lastInterruptId =
      state.interrupt.map (·.currentTrackId) := by
  unfold applyInterrupt
  dsimp only
  split
  · rfl
  · rename_i hsame
    simp only [ne_eq, not_not] at hsame
    exact hsame.symm

variable {before : Option InterruptLane}

theorem applyInterrupt_duckAt (h : engine.DuckAt (wantedDuck before))
    (hid : engine.lastInterruptId = before.map (·.currentTrackId))
    (hduckTo : engine.currentDuckTo = none → wantedDuck before = 1) (now : ℚ) (state : PlayerState) :
    (engine.applyInterrupt now state).DuckAt (duckAfter before state.interrupt) ∧
      ((engine.applyInterrupt now state).currentDuckTo = none →
        (∀ lane, state.interrupt = some lane → DuckFollows before lane) →
        wantedDuck state.interrupt = 1) := by
  unfold applyInterrupt
  cases hinterrupt : state.interrupt with
  | none =>
    simp only [Option.map_none, changeInterrupt, hinterrupt]
    split
    · obtain ⟨hat, hnone⟩ := endInterrupt_duckAt h hduckTo now
      exact ⟨⟨hat.tokens, hat.target, hat.settled⟩, fun _ _ => rfl⟩
    · rename_i hsame
      simp only [ne_eq, not_not] at hsame
      have hbefore : before = none := by
        rw [hid] at hsame
        exact Option.map_eq_none_iff.mp hsame.symm
      rw [hbefore] at h
      exact ⟨h, fun _ _ => rfl⟩
  | some lane =>
    simp only [Option.map_some, changeInterrupt, hinterrupt]
    split
    · rename_i hnew
      have hother : ¬ before.map (·.currentTrackId) = some lane.currentTrackId := by
        rw [← hid]
        exact fun hsame => hnew hsame.symm
      obtain ⟨hat, hto⟩ := beginInterrupt_duckAt h now lane
      have hlevel : duckAfter before (some lane) =
          if lane.duckTo = none then wantedDuck before else wantedDuck (some lane) := by
        simp [duckAfter, hother]
      rw [hlevel]
      refine ⟨⟨hat.tokens, hat.target, hat.settled⟩, fun hnone _ => ?_⟩
      exact wantedDuck_pausing (hto.symm.trans hnone)
    · rename_i hsame
      simp only [ne_eq, not_not] at hsame
      have hheard : before.map (·.currentTrackId) = some lane.currentTrackId := by
        rw [← hid]
        exact hsame.symm
      have hlevel : duckAfter before (some lane) = wantedDuck before := by
        simp [duckAfter, hheard]
      rw [hlevel]
      refine ⟨h, fun hnone hfollows => ?_⟩
      have hkept := hfollows lane rfl
      unfold DuckFollows at hkept
      rw [if_pos hheard] at hkept
      rw [hkept]
      exact hduckTo hnone

theorem rememberFadeOut_undisturbed (engine : PlaybackEngine) (state : PlayerState) :
    engine.Undisturbed (engine.rememberFadeOut state) := by
  unfold rememberFadeOut
  split <;> exact Undisturbed.of_same rfl rfl rfl rfl rfl rfl rfl

theorem rampDuck_output (engine : PlaybackEngine) (now toLevel ms : ℚ) :
    (engine.rampDuck now toLevel ms).isMyOutput = engine.isMyOutput := by
  unfold rampDuck
  dsimp only
  split <;> rfl

theorem liftDuck_output (engine : PlaybackEngine) (now ms : ℚ) :
    (engine.liftDuck now ms).isMyOutput = engine.isMyOutput := by
  unfold liftDuck unduckAmbient
  split
  · exact engine.rampDuck_output now 1 ms
  · rfl

theorem changeInterrupt_output (engine : PlaybackEngine) (now : ℚ) (state : PlayerState) :
    (engine.changeInterrupt now state).isMyOutput = engine.isMyOutput := by
  unfold changeInterrupt
  split
  · rename_i lane _
    have hstarted := (engine.startInterrupt_undisturbed now lane.currentTrackId lane.fadeInMs
      lane.positionMs).output
    unfold beginInterrupt
    dsimp only
    split
    · rw [← hstarted]
      exact rampDuck_output _ _ _ _
    · rw [← hstarted]
      exact (pauseAmbient_undisturbed _).output
  · unfold endInterrupt
    split
    · rw [liftDuck_output]
      exact (engine.rampInterrupt_undisturbed _ _ _ _ _).output
    · rw [liftDuck_output]
      exact engine.stopInterrupt_undisturbed.output

theorem applyInterrupt_output (engine : PlaybackEngine) (now : ℚ) (state : PlayerState) :
    (engine.applyInterrupt now state).isMyOutput = engine.isMyOutput := by
  unfold applyInterrupt
  split
  · exact engine.changeInterrupt_output now state
  · rfl

theorem unloadAll_undisturbed (engine : PlaybackEngine) :
    engine.Undisturbed engine.unloadAll := by
  unfold unloadAll
  exact engine.pauseAmbient_undisturbed.trans ((updateChannel_undisturbed _ _ _).trans
    ((updateChannel_undisturbed _ _ _).trans (updateInterrupt_undisturbed _ _)))

/-- The engine of a state that makes the device an output, before the interrupt is looked at. -/
def ready (engine : PlaybackEngine) (state : PlayerState) : PlaybackEngine :=
  ((engine.takeSettings state true).setLastEpoch state.positionEpoch).rememberFadeOut state

theorem ready_undisturbed (engine : PlaybackEngine) (state : PlayerState) :
    Undisturbed { engine with isMyOutput := true } (engine.ready state) := by
  have hepoch : (engine.takeSettings state true).Undisturbed
      ((engine.takeSettings state true).setLastEpoch state.positionEpoch) :=
    Undisturbed.of_same rfl rfl rfl rfl rfl rfl rfl
  exact (engine.takeSettings_undisturbed state true).trans
    (hepoch.trans (rememberFadeOut_undisturbed _ state))

theorem applyState_rest (engine : PlaybackEngine) (now : ℚ) (state : PlayerState) :
    ((engine.ready state).applyInterrupt now state).Undisturbed
      ((((engine.ready state).applyInterrupt now state).applyAmbient now state).applySameTrack now
        engine state) :=
  (applyAmbient_undisturbed _ now state).trans (applySameTrack_undisturbed _ now engine state)

theorem applyState_role (engine : PlaybackEngine) (now : ℚ) (state : PlayerState) :
    (engine.applyState now state true).isMyOutput = true ∧
      (engine.applyState now state true).lastInterruptId =
        state.interrupt.map (·.currentTrackId) := by
  have hrest := engine.applyState_rest now state
  exact ⟨hrest.output.trans
      ((applyInterrupt_output _ now state).trans (engine.ready_undisturbed state).output),
    hrest.interruptId.trans (applyInterrupt_interruptId _ now state)⟩

theorem applyState_duckAt (h : engine.DuckRight before) (now : ℚ) (state : PlayerState) :
    (engine.applyState now state true).DuckAt (duckAfter before state.interrupt) ∧
      ((∀ lane, state.interrupt = some lane → DuckFollows before lane) →
        (engine.applyState now state true).DuckRight state.interrupt) := by
  have hready := engine.ready_undisturbed state
  have hlevel : DuckAt { engine with isMyOutput := true } (wantedDuck before) :=
    ⟨h.level.tokens, h.level.target, h.level.settled⟩
  obtain ⟨hat, hremembers⟩ := applyInterrupt_duckAt (hlevel.undisturbed hready)
    (hready.interruptId.trans h.interruptId)
    (fun hnone => h.duckTo (hready.duckTo.symm.trans hnone)) now state
  have hrest := engine.applyState_rest now state
  obtain ⟨houtput, hid⟩ := engine.applyState_role now state
  have hlast := hat.undisturbed hrest
  have happlied : (engine.applyState now state true).DuckAt (duckAfter before state.interrupt) :=
    ⟨hlast.tokens, hlast.target, hlast.settled⟩
  refine ⟨happlied, fun hfollows => ⟨?_, hid, fun hnone => ?_, fun _ => houtput⟩⟩
  · have hwanted : duckAfter before state.interrupt = wantedDuck state.interrupt := by
      cases hinterrupt : state.interrupt with
      | none => rfl
      | some lane => exact (duckAfter_eq_iff before lane).mpr (hfollows lane hinterrupt)
    rw [← hwanted]
    exact happlied
  · exact hremembers (hrest.duckTo.symm.trans hnone) hfollows

theorem applyState_released (h : engine.DuckRight before) (now : ℚ) (state : PlayerState) :
    (engine.applyState now state false).DuckRight none := by
  have hsettings := takeSettings_undisturbed engine state false
  have hlevel : DuckAt { engine with isMyOutput := false } (wantedDuck before) :=
    ⟨h.level.tokens, h.level.target, h.level.settled⟩
  have hset := hlevel.undisturbed hsettings
  have hshape : engine.applyState now state false =
      (engine.takeSettings state false).standDown engine.isMyOutput := rfl
  rw [hshape]
  unfold standDown
  dsimp only
  split
  · -- the token moves on and the gain is up, as at the end of a ramp that takes no time
    have hup := rampDuck_duckAt (hset.undisturbed (unloadAll_undisturbed _)) now 1 0
    have hup' : DuckAt (releaseOutput (engine.takeSettings state false)) 1 := by
      unfold rampDuck at hup
      rw [if_pos le_rfl] at hup
      exact ⟨hup.tokens, hup.target, hup.settled⟩
    exact ⟨⟨hup'.tokens, hup'.target, hup'.settled⟩, rfl, fun _ => rfl, fun hne => absurd rfl hne⟩
  · rename_i hwas
    have hnone : before = none := by
      by_contra hsome
      exact hwas (h.output hsome)
    rw [hnone] at hset
    exact ⟨⟨hset.tokens, hset.target, hset.settled⟩, rfl, fun _ => rfl, fun hne => absurd rfl hne⟩

/-! ## Frames and media events -/

theorem DuckRight.undisturbed {engine next : PlaybackEngine} (h : engine.DuckRight before)
    (hnext : engine.Undisturbed next) : next.DuckRight before :=
  ⟨h.level.undisturbed hnext, hnext.interruptId.trans h.interruptId,
    fun hnone => h.duckTo (hnext.duckTo.symm.trans hnone),
    fun hsome => hnext.output.trans (h.output hsome)⟩

theorem erase_undisturbed (engine : PlaybackEngine) {frame : Frame}
    (hframe : ∀ token start fromLevel toLevel ms, frame ≠ .duck token start fromLevel toLevel ms) :
    engine.Undisturbed { engine with frames := engine.frames.erase frame } := by
  refine ⟨fun token start fromLevel toLevel ms => ?_, rfl, rfl, rfl, rfl, rfl, rfl⟩
  exact List.mem_erase_of_ne (Ne.symm (hframe token start fromLevel toLevel ms))

theorem tick_duckAt (halfSine : ℚ → ℚ) (h : engine.DuckAt level) {token : ℕ}
    {start fromLevel toLevel ms : ℚ}
    (hframe : .duck token start fromLevel toLevel ms ∈ engine.frames) (now : ℚ) :
    (engine.tick halfSine (.duck token start fromLevel toLevel ms) now).DuckAt level := by
  have hold : ∀ frame ∈ engine.frames.erase (.duck token start fromLevel toLevel ms),
      frame ∈ engine.frames := fun frame hmem => List.mem_of_mem_erase hmem
  unfold tick
  dsimp only
  split
  · rename_i hlive
    have hsome : engine.liveDuck (.duck token start fromLevel toLevel ms) = some toLevel := by
      simpa [liveDuck, Frame.duckLevel, live] using hlive
    have hlevel := h.target _ hframe toLevel hsome
    split
    · have hback : ∀ frame ∈ engine.frames.erase (.duck token start fromLevel toLevel ms) ++
          [.duck token start fromLevel toLevel ms], frame ∈ engine.frames := by
        intro frame hmem
        rcases List.mem_append.mp hmem with hmem | hmem
        · exact hold frame hmem
        · rw [List.mem_singleton.mp hmem]
          exact hframe
      refine ⟨fun other start' from' to' ms' hmem => ?_, fun frame hmem to' hto => ?_,
        Or.inl ⟨_, List.mem_append_right _ (List.mem_singleton_self _), ?_⟩⟩
      · exact h.tokens other start' from' to' ms' (hback _ hmem)
      · exact h.target frame (hback frame hmem) to' hto
      · have hsame : Frame.duckLevel engine.duckRampToken
            (.duck token start fromLevel toLevel ms) ≠ none := by
          rw [show Frame.duckLevel _ _ = _ from hsome]
          exact Option.some_ne_none toLevel
        exact hsame
    · rename_i hdone
      have hprogress : progress now start ms = 1 := le_antisymm (min_le_left _ _) (not_lt.mp hdone)
      refine ⟨fun other start' from' to' ms' hmem => ?_, fun frame hmem to' hto => ?_, Or.inr ?_⟩
      · exact h.tokens other start' from' to' ms' (hold _ hmem)
      · exact h.target frame (hold frame hmem) to' hto
      · simp only [hprogress, mul_one, add_sub_cancel]
        exact hlevel
  · rename_i hdead
    refine ⟨fun other start' from' to' ms' hmem => ?_, fun frame hmem to' hto => ?_, ?_⟩
    · exact h.tokens other start' from' to' ms' (hold _ hmem)
    · exact h.target frame (hold frame hmem) to' hto
    · rcases h.settled with ⟨frame, hmem, hlive⟩ | hgain
      · refine Or.inl ⟨frame, ?_, hlive⟩
        have hne : frame ≠ .duck token start fromLevel toLevel ms := by
          rintro rfl
          simp only [live, decide_eq_true_eq] at hdead
          simp [liveDuck, Frame.duckLevel, hdead] at hlive
        exact (List.mem_erase_of_ne hne).mpr hmem
      · exact Or.inr hgain

theorem tick_undisturbed (halfSine : ℚ → ℚ) (engine : PlaybackEngine) {frame : Frame}
    (hframe : ∀ token start fromLevel toLevel ms, frame ≠ .duck token start fromLevel toLevel ms)
    (now : ℚ) : engine.Undisturbed (engine.tick halfSine frame now) := by
  have herase := engine.erase_undisturbed hframe
  unfold tick
  dsimp only
  split
  · cases frame with
    | duck token start fromLevel toLevel ms => exact absurd rfl (hframe _ _ _ _ _)
    | gain slot token start fromLevel toLevel ms pauses =>
      refine herase.trans ?_
      dsimp only
      split
      · exact (updateChannel_undisturbed _ _ _).trans
          (request_undisturbed _ fun _ _ _ _ _ => by simp)
      · split
        · exact (updateChannel_undisturbed _ _ _).trans (pauseChannel_undisturbed _ _)
        · exact updateChannel_undisturbed _ _ _
    | interrupt token start fromLevel toLevel ms stops =>
      refine herase.trans ?_
      dsimp only
      split
      · exact (updateInterrupt_undisturbed _ _).trans
          (request_undisturbed _ fun _ _ _ _ _ => by simp)
      · split
        · exact (updateInterrupt_undisturbed _ _).trans (stopInterrupt_undisturbed _)
        · exact updateInterrupt_undisturbed _ _
  · exact herase

theorem DuckRight.step {halfSine : ℚ → ℚ} {engine next : PlaybackEngine}
    (h : engine.DuckRight before) {event : EngineEvent}
    (hevent : ∀ now state isMyOutput, event ≠ .applyState now state isMyOutput)
    (hstep : engine.step halfSine event = some next) : next.DuckRight before := by
  cases event with
  | applyState now state isMyOutput => exact absurd rfl (hevent now state isMyOutput)
  | frame frame now =>
    simp only [PlaybackEngine.step, Option.ite_none_right_eq_some, Option.some.injEq] at hstep
    obtain ⟨hmem, rfl⟩ := hstep
    cases frame with
    | duck token start fromLevel toLevel ms =>
      have hlevel := tick_duckAt halfSine h.level hmem now
      have hkept : ∀ other : PlaybackEngine, other.lastInterruptId = engine.lastInterruptId →
          other.currentDuckTo = engine.currentDuckTo → other.isMyOutput = engine.isMyOutput →
          other.DuckAt (wantedDuck before) → other.DuckRight before :=
        fun other hid hduckTo houtput hat =>
          ⟨hat, hid.trans h.interruptId, fun hnone => h.duckTo (hduckTo.symm.trans hnone),
            fun hsome => houtput.trans (h.output hsome)⟩
      refine hkept _ ?_ ?_ ?_ hlevel
      all_goals
        unfold tick
        dsimp only
        split
        · split <;> rfl
        · rfl
    | gain slot token start fromLevel toLevel ms pauses
    | interrupt token start fromLevel toLevel ms stops =>
      exact h.undisturbed (tick_undisturbed halfSine engine (fun _ _ _ _ _ => by simp) now)
  | ambientEnded slot now =>
    simp only [PlaybackEngine.step, Option.some.injEq] at hstep
    subst hstep
    refine h.undisturbed ?_
    unfold handleAmbientEnded
    dsimp only
    split
    · exact (engine.updateChannel_undisturbed _ _).trans (fireAmbientAdvance_undisturbed _ now)
    · exact engine.updateChannel_undisturbed _ _
  | interruptEnded now =>
    simp only [PlaybackEngine.step, Option.some.injEq] at hstep
    subst hstep
    refine h.undisturbed ?_
    have hskip : ∀ other : PlaybackEngine, engine.Undisturbed other →
        engine.Undisturbed other.fireInterruptSkip :=
      fun other hother => hother.trans (Undisturbed.of_same rfl rfl rfl rfl rfl rfl rfl)
    unfold handleInterruptEnded
    dsimp only
    split
    · exact hskip _ ((engine.updateInterrupt_undisturbed _).trans
        (rampInterrupt_undisturbed _ _ _ _ _ _))
    · exact hskip _ (engine.updateInterrupt_undisturbed _)
  | ambientProgress slot time =>
    simp only [PlaybackEngine.step, Option.some.injEq] at hstep
    subst hstep
    exact h.undisturbed (engine.updateChannel_undisturbed _ _)
  | interruptProgress time =>
    simp only [PlaybackEngine.step, Option.some.injEq] at hstep
    subst hstep
    exact h.undisturbed (engine.updateInterrupt_undisturbed _)

/-! ## Ducking and its sticking -/

/-- A run in which every interrupt follows, wherever the engine was right before, keeps the engine
right. -/
theorem run_duckRight {halfSine : ℚ → ℚ} {clientId : String} {events : List EngineEvent}
    (hfollows : ∀ before now state after engine,
      events = before ++ .applyState now state true :: after →
      (wired clientId).run halfSine before = some engine →
      engine.DuckRight (heard (lastCall before)) →
      ∀ lane, state.interrupt = some lane → DuckFollows (heard (lastCall before)) lane)
    (first rest : List EngineEvent) (engine : PlaybackEngine) (hevents : events = first ++ rest)
    (hrun : (wired clientId).run halfSine first = some engine) :
    engine.DuckRight (heard (lastCall first)) := by
  refine run_keeps (Q := fun engine last => engine.DuckRight (heard last))
    (wired_duckRight clientId) ?_ first rest engine hevents hrun
  intro before event after engine next hevents hrun hright hstep
  by_cases hevent : ∀ now state isMyOutput, event ≠ .applyState now state isMyOutput
  · rw [lastCall_other before hevent]
    exact hright.step hevent hstep
  · push Not at hevent
    obtain ⟨now, state, isMyOutput, rfl⟩ := hevent
    rw [lastCall_call]
    simp only [step, Option.some.injEq] at hstep
    subst hstep
    cases isMyOutput with
    | true =>
      exact (applyState_duckAt hright now state).2
        (hfollows before now state after engine hevents hrun hright)
    | false => exact applyState_released hright now state

/-- After every call of a run that makes the device an output the duck gain is at the level of the
interrupt or ramping to it, if and only if every interrupt follows the one heard before. -/
theorem duck_never_sticks_iff (halfSine : ℚ → ℚ) (clientId : String) (events : List EngineEvent)
    {last : PlaybackEngine} (hrun : (wired clientId).run halfSine events = some last) :
    (∀ before now state after engine, events = before ++ .applyState now state true :: after →
      (wired clientId).run halfSine (before ++ [.applyState now state true]) = some engine →
      engine.duckTarget = wantedDuck state.interrupt) ↔
    (∀ before now state after lane, events = before ++ .applyState now state true :: after →
      state.interrupt = some lane → DuckFollows (heard (lastCall before)) lane) := by
  have hreaches : ∀ first rest, events = first ++ rest →
      ∃ engine, (wired clientId).run halfSine first = some engine := by
    intro first rest hevents
    rw [hevents] at hrun
    exact run_starts hrun
  have hcall : ∀ before now state engine, (wired clientId).run halfSine before = some engine →
      (wired clientId).run halfSine (before ++ [.applyState now state true]) =
        some (engine.applyState now state true) := by
    intro before now state engine hengine
    rw [run_append, hengine]
    rfl
  constructor
  · intro hright before now state after lane hevents hlane
    -- the level after a call is the wanted one only where the interrupt follows
    have hone : ∀ before now state after engine,
        events = before ++ .applyState now state true :: after →
        (wired clientId).run halfSine before = some engine →
        engine.DuckRight (heard (lastCall before)) →
        ∀ lane, state.interrupt = some lane → DuckFollows (heard (lastCall before)) lane := by
      intro before now state after engine hevents hengine hbefore lane hlane
      have hwanted := hright before now state after _ hevents
        (hcall before now state engine hengine)
      rw [(applyState_duckAt hbefore now state).1.duckTarget, hlane] at hwanted
      exact (duckAfter_eq_iff _ lane).mp hwanted
    obtain ⟨engine, hengine⟩ := hreaches before _ hevents
    exact hone before now state after engine hevents hengine
      (run_duckRight hone before _ engine hevents hengine) lane hlane
  · intro hfollows before now state after engine hevents hengine
    have hall : ∀ before now state after engine,
        events = before ++ .applyState now state true :: after →
        (wired clientId).run halfSine before = some engine →
        engine.DuckRight (heard (lastCall before)) →
        ∀ lane, state.interrupt = some lane → DuckFollows (heard (lastCall before)) lane :=
      fun before now state after _ hevents _ _ lane hlane =>
        hfollows before now state after lane hevents hlane
    have hfirst : events = (before ++ [.applyState now state true]) ++ after := by
      rw [hevents]
      simp
    have hright := run_duckRight hall _ _ engine hfirst hengine
    rw [lastCall_call] at hright
    exact hright.level.duckTarget

/-- A state without music, with an interrupt or not. -/
def soloState (interrupt : Option InterruptLane) : PlayerState where
  positionEpoch := 0
  isPlaying := true
  crossfadeMs := 0
  crossfadeType := .linear
  deviceVolumes := []
  defaultDeviceVolume := 1
  ambient := ⟨none, 0⟩
  interrupt := interrupt

/-- A duck to a quarter that another duck and the end of the interrupt follow. -/
def replacedCalls : List EngineEvent :=
  [.applyState 0 (soloState (some ⟨1, 0, 0, 0, some (1 / 4)⟩)) true,
    .applyState 1 (soloState (some ⟨2, 0, 0, 0, some (1 / 2)⟩)) true,
    .applyState 2 (soloState none) true]

theorem duck_never_sticks_iff_replaced :
    ((wired "table").run (fun t => t) replacedCalls).isSome = true ∧
      ∀ before now state after engine,
        replacedCalls = before ++ .applyState now state true :: after →
        (wired "table").run (fun t => t) (before ++ [.applyState now state true]) = some engine →
        engine.duckTarget = wantedDuck state.interrupt := by
  refine ⟨rfl, (duck_never_sticks_iff (fun t => t) "table" _ (Option.some_get ?_).symm).mpr ?_⟩
  · rfl
  · intro before now state after lane hevents hlane
    match before with
    | [] =>
      cases hevents
      cases hlane
      exact Or.inl (Option.some_ne_none _)
    | [_] =>
      cases hevents
      cases hlane
      exact Or.inl (Option.some_ne_none _)
    | [_, _] =>
      cases hevents
      cases hlane
    | _ :: _ :: _ :: _ => simp [replacedCalls] at hevents

/-- An interrupt that pauses, in the place of one that ducked: the duck stays down. -/
theorem duck_sticks :
    ¬ ∀ (events : List EngineEvent) (now : ℚ) (state : PlayerState) (engine : PlaybackEngine),
      (wired "table").run (fun t => t) (events ++ [.applyState now state true]) = some engine →
      engine.duckTarget = wantedDuck state.interrupt := by
  intro hclaim
  have hstuck := hclaim [.applyState 0 (soloState (some ⟨1, 0, 0, 0, some (1 / 4)⟩)) true] 1
    (soloState (some ⟨2, 0, 0, 0, none⟩)) _ rfl
  revert hstuck
  decide +kernel

end PlaybackEngine

end Browser

end MusicServer
