/-
# What the ambient lane plays

The engine follows the server through differences alone, and never looks at the ambient lane while
an interrupt is heard.  What one call leaves, the frames and the media events keep, so the lane
agrees with the last state wherever no call and no late fade asks for more than the engine does.
-/
import MusicServer.DuckLevel

namespace MusicServer

namespace Browser

namespace PlaybackEngine

/-- The current ambient element holds the track, and plays where it should. -/
def Agrees (engine : PlaybackEngine) (track : Option ℕ) (isPlaying : Bool) : Prop :=
  engine.currentChannel.el.src = track ∧
    (engine.currentChannel.el.paused = false ↔ isPlaying = true ∧ track ≠ none)

def Settled (engine : PlaybackEngine) : Prop := ∀ frame ∈ engine.frames, engine.live frame = false

def Plays (engine : PlaybackEngine) (state : PlayerState) : Prop :=
  match state.interrupt with
  | none => engine.Settled → engine.Agrees state.ambient.currentTrackId state.isPlaying
  | some lane =>
    if lane.duckTo = none then engine.currentChannel.el.paused = true
    else engine.Agrees state.ambient.currentTrackId state.isPlaying

/-! ## Channels -/

section Channels

variable (engine : PlaybackEngine)

@[simp] theorem currentChannel_updateCurrent (change : Channel → Channel) :
    (engine.updateCurrent change).currentChannel = change engine.currentChannel := by
  unfold currentChannel updateCurrent
  rw [updateChannel_currentSlot, channel_updateChannel_same]

theorem Slot.other_ne (slot : Slot) : slot.other ≠ slot := by cases slot <;> decide

theorem updateChannel_channel (slot other : Slot) (change : Channel → Channel) :
    (engine.updateChannel slot change).channel other =
      if other = slot then change (engine.channel other) else engine.channel other := by
  by_cases hsame : other = slot
  · subst hsame
    rw [if_pos rfl, channel_updateChannel_same]
  · rw [if_neg hsame, channel_updateChannel_other _ _ _ hsame]

@[simp] theorem pauseAmbient_channel (slot : Slot) :
    engine.pauseAmbient.channel slot = (engine.channel slot).onElement (·.pause) := by
  cases slot <;> rfl

@[simp] theorem stopAmbient_channel (slot : Slot) :
    engine.stopAmbient.channel slot =
      ((engine.channel slot).onElement (·.pause)).unloadElement := by
  cases slot <;> rfl

@[simp] theorem unloadAll_channel (slot : Slot) :
    engine.unloadAll.channel slot =
      ((engine.channel slot).onElement (·.pause)).unloadElement := by
  cases slot <;> rfl

@[simp] theorem pauseAmbient_currentSlot :
    engine.pauseAmbient.currentSlot = engine.currentSlot := rfl

@[simp] theorem stopAmbient_currentSlot :
    engine.stopAmbient.currentSlot = engine.currentSlot := rfl

end Channels

/-! ## The lane is tidy -/

/-- What holds of the channels and the frames whatever comes. -/
structure Tidy (engine : PlaybackEngine) : Prop where
  loaded : ∀ slot, (engine.channel slot).loadedUrl = (engine.channel slot).el.src
  silent : ∀ slot, (engine.channel slot).el.src = none → (engine.channel slot).el.paused = true
  gainTokens : ∀ slot token start fromLevel toLevel ms pauses,
    .gain slot token start fromLevel toLevel ms pauses ∈ engine.frames →
      token ≤ (engine.channel slot).rampToken
  interruptTokens : ∀ token start fromLevel toLevel ms stops,
    .interrupt token start fromLevel toLevel ms stops ∈ engine.frames →
      token ≤ engine.interrupt.rampToken

/-- No running cross-fade pauses the channel at its end. -/
def NoPauser (engine : PlaybackEngine) (slot : Slot) : Prop :=
  ∀ token start fromLevel toLevel ms,
    .gain slot token start fromLevel toLevel ms true ∈ engine.frames →
      token ≠ (engine.channel slot).rampToken

/-- The fade at the end of an interrupt is running. -/
def Fading (engine : PlaybackEngine) : Prop :=
  ∃ start fromLevel toLevel ms,
    .interrupt engine.interrupt.rampToken start fromLevel toLevel ms true ∈ engine.frames

theorem wired_tidy (clientId : String) : (wired clientId).Tidy := by
  refine ⟨?_, ?_, by simp [wired], by simp [wired]⟩
  · intro slot
    cases slot <;> rfl
  · intro slot _
    cases slot <;> rfl

/-- A change of a channel that keeps it sane and moves its token forward only. -/
structure Sane (before after : Channel) : Prop where
  loaded : after.loadedUrl = after.el.src
  silent : after.el.src = none → after.el.paused = true
  token : before.rampToken ≤ after.rampToken

theorem Tidy.updateChannel {engine : PlaybackEngine} (h : engine.Tidy) (slot : Slot)
    (change : Channel → Channel)
    (hsane : Sane (engine.channel slot) (change (engine.channel slot))) :
    (engine.updateChannel slot change).Tidy := by
  refine ⟨fun other => ?_, fun other => ?_, ?_, ?_⟩
  · rw [updateChannel_channel]
    split
    · rename_i hsame
      subst hsame
      exact hsane.loaded
    · exact h.loaded other
  · rw [updateChannel_channel]
    split
    · rename_i hsame
      subst hsame
      exact hsane.silent
    · exact h.silent other
  · intro other token start fromLevel toLevel ms pauses hmem
    rw [updateChannel_frames] at hmem
    have hold := h.gainTokens other token start fromLevel toLevel ms pauses hmem
    rw [updateChannel_channel]
    split
    · rename_i hsame
      subst hsame
      exact hold.trans hsane.token
    · exact hold
  · rw [updateChannel_frames, updateChannel_interrupt]
    exact h.interruptTokens

theorem NoPauser.updateChannel {engine : PlaybackEngine} {slot : Slot} (h : engine.NoPauser slot)
    (htidy : engine.Tidy) (other : Slot) {change : Channel → Channel}
    (htoken : (engine.channel other).rampToken ≤ (change (engine.channel other)).rampToken) :
    (engine.updateChannel other change).NoPauser slot := by
  intro token start fromLevel toLevel ms hmem
  rw [updateChannel_frames] at hmem
  have hold := htidy.gainTokens slot token start fromLevel toLevel ms true hmem
  have hdead := h token start fromLevel toLevel ms hmem
  rw [updateChannel_channel]
  split
  · rename_i hsame
    subst hsame
    omega
  · exact hdead

section Sanity

variable {ch : Channel}

theorem Sane.pause (hloaded : ch.loadedUrl = ch.el.src) : Sane ch (ch.onElement (·.pause)) :=
  ⟨hloaded, fun _ => rfl, le_rfl⟩

theorem Sane.safePlay (hloaded : ch.loadedUrl = ch.el.src)
    (hsilent : ch.el.src = none → ch.el.paused = true) :
    Sane ch (ch.onElement MediaElement.safePlay) := by
  by_cases hnone : ch.el.src = none
  · have hsame : ch.onElement MediaElement.safePlay = ch := by
      simp [Channel.onElement, MediaElement.safePlay, hnone]
    rw [hsame]
    exact ⟨hloaded, hsilent, le_rfl⟩
  · have hplay : ch.onElement MediaElement.safePlay = ch.onElement MediaElement.play := by
      simp [Channel.onElement, MediaElement.safePlay, hnone]
    rw [hplay]
    exact ⟨hloaded, fun h => absurd h hnone, le_rfl⟩

theorem Sane.setGainNow (hloaded : ch.loadedUrl = ch.el.src)
    (hsilent : ch.el.src = none → ch.el.paused = true) (value : ℚ) :
    Sane ch (ch.setGainNow value) := ⟨hloaded, hsilent, Nat.le_succ _⟩

theorem Sane.unloadElement : Sane ch ch.unloadElement := ⟨rfl, fun _ => rfl, le_rfl⟩

theorem positionElement_keeps (el : MediaElement) (startS : ℚ) :
    (el.positionElement startS).src = el.src ∧ (el.positionElement startS).paused = el.paused := by
  unfold MediaElement.positionElement
  split <;> exact ⟨rfl, rfl⟩

theorem applyEpochSeek_keeps (el : MediaElement) (prevEpoch : Option ℕ) (epoch : ℕ)
    (targetMs : ℚ) : (el.applyEpochSeek prevEpoch epoch targetMs).src = el.src ∧
      (el.applyEpochSeek prevEpoch epoch targetMs).paused = el.paused := by
  unfold MediaElement.applyEpochSeek
  split <;> exact ⟨rfl, rfl⟩

theorem receive_holds (hloaded : ch.loadedUrl = ch.el.src) (trackId : ℕ) (startAtMs : ℚ) :
    (receive trackId startAtMs ch).el.src = some trackId ∧
      (receive trackId startAtMs ch).el.paused = true ∧
      (receive trackId startAtMs ch).loadedUrl = some trackId ∧
      (receive trackId startAtMs ch).rampToken = ch.rampToken := by
  have hposition := positionElement_keeps (ch.loadInto trackId).el (startSeconds startAtMs)
  have hload : (ch.loadInto trackId).el.src = some trackId ∧
      (ch.loadInto trackId).el.paused = true ∧ (ch.loadInto trackId).loadedUrl = some trackId ∧
      (ch.loadInto trackId).rampToken = ch.rampToken := by
    unfold Channel.loadInto
    split
    · exact ⟨rfl, rfl, rfl, rfl⟩
    · rename_i hsame
      simp only [ne_eq, not_not] at hsame
      exact ⟨hloaded.symm.trans hsame, rfl, hsame, rfl⟩
  exact ⟨hposition.1.trans hload.1, hposition.2.trans hload.2.1, hload.2.2.1, hload.2.2.2⟩

theorem Sane.receive (hloaded : ch.loadedUrl = ch.el.src) (trackId : ℕ) (startAtMs : ℚ) :
    Sane ch (receive trackId startAtMs ch) := by
  obtain ⟨hsrc, hpaused, hurl, htoken⟩ := receive_holds hloaded trackId startAtMs
  exact ⟨hurl.trans hsrc.symm, fun _ => hpaused, htoken.ge⟩

end Sanity

/-! ## What does not concern the lane -/

/-- The ambient channels are as they were, and so are the cross-fades. -/
structure Aside (engine next : PlaybackEngine) : Prop where
  channels : ∀ slot, next.channel slot = engine.channel slot
  currentSlot : next.currentSlot = engine.currentSlot
  ambientId : next.lastAmbientId = engine.lastAmbientId
  isPlaying : next.lastIsPlaying = engine.lastIsPlaying
  gains : ∀ slot token start fromLevel toLevel ms pauses,
    .gain slot token start fromLevel toLevel ms pauses ∈ next.frames →
      .gain slot token start fromLevel toLevel ms pauses ∈ engine.frames
  token : engine.interrupt.rampToken ≤ next.interrupt.rampToken
  interrupts : ∀ token start fromLevel toLevel ms stops,
    .interrupt token start fromLevel toLevel ms stops ∈ next.frames →
      .interrupt token start fromLevel toLevel ms stops ∈ engine.frames ∨
        token ≤ next.interrupt.rampToken

/-- The engine after a call, whatever was called. -/
structure Shaped (engine : PlaybackEngine) : Prop where
  tidy : engine.Tidy
  noPauser : engine.NoPauser engine.currentSlot

theorem wired_shaped (clientId : String) : (wired clientId).Shaped :=
  ⟨wired_tidy clientId, by simp [NoPauser, wired]⟩

namespace Aside

variable {engine middle next : PlaybackEngine}

theorem trans (hfirst : engine.Aside middle) (hthen : middle.Aside next) : engine.Aside next := by
  refine ⟨fun slot => (hthen.channels slot).trans (hfirst.channels slot),
    hthen.currentSlot.trans hfirst.currentSlot, hthen.ambientId.trans hfirst.ambientId,
    hthen.isPlaying.trans hfirst.isPlaying, ?_, hfirst.token.trans hthen.token, ?_⟩
  · intro slot token start fromLevel toLevel ms pauses hmem
    exact hfirst.gains _ _ _ _ _ _ _ (hthen.gains _ _ _ _ _ _ _ hmem)
  · intro token start fromLevel toLevel ms stops hmem
    rcases hthen.interrupts _ _ _ _ _ _ hmem with hmem | htoken
    · rcases hfirst.interrupts _ _ _ _ _ _ hmem with hmem | htoken
      · exact Or.inl hmem
      · exact Or.inr (htoken.trans hthen.token)
    · exact Or.inr htoken

theorem of_same (hchannels : ∀ slot, next.channel slot = engine.channel slot)
    (hslot : next.currentSlot = engine.currentSlot)
    (hambientId : next.lastAmbientId = engine.lastAmbientId)
    (hisPlaying : next.lastIsPlaying = engine.lastIsPlaying)
    (hframes : next.frames = engine.frames)
    (htoken : engine.interrupt.rampToken ≤ next.interrupt.rampToken) : engine.Aside next :=
  ⟨hchannels, hslot, hambientId, hisPlaying, fun _ _ _ _ _ _ _ hmem => by rwa [hframes] at hmem,
    htoken, fun _ _ _ _ _ _ hmem => Or.inl (by rwa [hframes] at hmem)⟩

theorem refl (engine : PlaybackEngine) : engine.Aside engine :=
  of_same (fun _ => rfl) rfl rfl rfl rfl le_rfl

theorem currentChannel (h : engine.Aside next) : next.currentChannel = engine.currentChannel := by
  unfold PlaybackEngine.currentChannel
  rw [h.currentSlot, h.channels]

theorem agrees (h : engine.Aside next) {track : Option ℕ} {isPlaying : Bool} :
    next.Agrees track isPlaying ↔ engine.Agrees track isPlaying := by
  unfold Agrees
  rw [h.currentChannel]

theorem shaped (h : engine.Aside next) (hshaped : engine.Shaped) : next.Shaped := by
  refine ⟨⟨fun slot => ?_, fun slot => ?_, ?_, ?_⟩, ?_⟩
  · rw [h.channels]
    exact hshaped.tidy.loaded slot
  · rw [h.channels]
    exact hshaped.tidy.silent slot
  · intro slot token start fromLevel toLevel ms pauses hmem
    rw [h.channels]
    exact hshaped.tidy.gainTokens _ _ _ _ _ _ _ (h.gains _ _ _ _ _ _ _ hmem)
  · intro token start fromLevel toLevel ms stops hmem
    rcases h.interrupts _ _ _ _ _ _ hmem with hmem | htoken
    · exact (hshaped.tidy.interruptTokens _ _ _ _ _ _ hmem).trans h.token
    · exact htoken
  · intro token start fromLevel toLevel ms hmem
    rw [h.channels]
    rw [h.currentSlot] at hmem ⊢
    exact hshaped.noPauser _ _ _ _ _ (h.gains _ _ _ _ _ _ _ hmem)

end Aside

section Asides

variable (engine : PlaybackEngine)

theorem updateInterrupt_aside (change : Channel → Channel)
    (htoken : engine.interrupt.rampToken ≤ (change engine.interrupt).rampToken) :
    engine.Aside (engine.updateInterrupt change) :=
  Aside.of_same (fun slot => by cases slot <;> rfl) rfl rfl rfl rfl htoken

theorem request_duck_aside (token : ℕ) (start fromLevel toLevel ms : ℚ) :
    engine.Aside (engine.request (.duck token start fromLevel toLevel ms)) := by
  refine ⟨fun slot => by cases slot <;> rfl, rfl, rfl, rfl, ?_, le_rfl, ?_⟩
  · intro slot token start fromLevel toLevel ms pauses hmem
    simpa [request] using hmem
  · intro token start fromLevel toLevel ms stops hmem
    exact Or.inl (by simpa [request] using hmem)

theorem request_interrupt_aside (start fromLevel toLevel ms : ℚ) (stops : Bool) :
    engine.Aside (engine.request
      (.interrupt engine.interrupt.rampToken start fromLevel toLevel ms stops)) := by
  refine ⟨fun slot => by cases slot <;> rfl, rfl, rfl, rfl, ?_, le_rfl, ?_⟩
  · intro slot token start fromLevel toLevel ms pauses hmem
    simpa [request] using hmem
  · intro token start fromLevel toLevel ms stops hmem
    simp only [request, List.mem_append, List.mem_singleton, Frame.interrupt.injEq] at hmem
    rcases hmem with hmem | ⟨htoken, _⟩
    · exact Or.inl hmem
    · exact Or.inr htoken.le

theorem rampDuck_aside (now toLevel ms : ℚ) : engine.Aside (engine.rampDuck now toLevel ms) := by
  have hbump : engine.Aside { engine with duckRampToken := engine.duckRampToken + 1 } :=
    Aside.of_same (fun slot => by cases slot <;> rfl) rfl rfl rfl rfl le_rfl
  unfold rampDuck
  dsimp only
  split
  · exact Aside.of_same (fun slot => by cases slot <;> rfl) rfl rfl rfl rfl le_rfl
  · exact hbump.trans (request_duck_aside _ _ _ _ _ _)

theorem liftDuck_aside (now ms : ℚ) : engine.Aside (engine.liftDuck now ms) := by
  unfold liftDuck
  split
  · exact (engine.rampDuck_aside now 1 ms).trans
      (Aside.of_same (fun slot => by cases slot <;> rfl) rfl rfl rfl rfl le_rfl)
  · exact Aside.refl engine

theorem rampInterrupt_aside (now fromLevel toLevel ms : ℚ) {stops : Bool}
    (hstops : stops = true → ¬ ms ≤ 0) :
    engine.Aside (engine.rampInterrupt now fromLevel toLevel ms stops) := by
  have hstart : engine.Aside (engine.updateInterrupt (·.setGainNow fromLevel)) :=
    engine.updateInterrupt_aside _ (Nat.le_succ _)
  unfold rampInterrupt
  dsimp only
  split
  · rename_i hms
    split
    · rename_i hstop
      exact absurd hms (hstops hstop)
    · exact hstart.trans (updateInterrupt_aside _ _ le_rfl)
  · exact hstart.trans (request_interrupt_aside _ _ _ _ _ _)

theorem startInterrupt_aside (now : ℚ) (trackId : ℕ) (fadeInMs startAtMs : ℚ) :
    engine.Aside (engine.startInterrupt now trackId fadeInMs startAtMs) := by
  have hload : engine.Aside (engine.updateInterrupt (loadInterrupt trackId)) := by
    refine engine.updateInterrupt_aside _ ?_
    unfold loadInterrupt
    split <;> exact le_rfl
  have hplay : ∀ other : PlaybackEngine, engine.Aside other →
      engine.Aside (other.updateInterrupt (·.onElement MediaElement.safePlay)) :=
    fun other hother => hother.trans (updateInterrupt_aside _ _ le_rfl)
  have hposition : (engine.updateInterrupt (loadInterrupt trackId)).Aside
      ((engine.updateInterrupt (loadInterrupt trackId)).updateInterrupt
        (·.onElement (·.positionElement (startSeconds startAtMs)))) :=
    updateInterrupt_aside _ _ le_rfl
  exact hplay _ (hload.trans (hposition.trans (rampInterrupt_aside _ _ _ _ _ (by simp))))

theorem fireAmbientAdvance_aside (now : ℚ) : engine.Aside (engine.fireAmbientAdvance now) := by
  unfold fireAmbientAdvance
  split
  · exact Aside.refl engine
  · exact Aside.of_same (fun slot => by cases slot <;> rfl) rfl rfl rfl rfl le_rfl

theorem takeSettings_aside (state : PlayerState) (isMyOutput : Bool) :
    engine.Aside (engine.takeSettings state isMyOutput) := by
  unfold takeSettings
  dsimp only
  split <;> exact Aside.of_same (fun slot => by cases slot <;> rfl) rfl rfl rfl rfl le_rfl

theorem ready_aside (state : PlayerState) : engine.Aside (engine.ready state) := by
  have hepoch : (engine.takeSettings state true).Aside
      ((engine.takeSettings state true).setLastEpoch state.positionEpoch) :=
    Aside.of_same (fun slot => by cases slot <;> rfl) rfl rfl rfl rfl le_rfl
  refine (engine.takeSettings_aside state true).trans (hepoch.trans ?_)
  unfold ready rememberFadeOut
  split
  · exact Aside.of_same (fun slot => by cases slot <;> rfl) rfl rfl rfl rfl le_rfl
  · exact Aside.refl _

end Asides

/-! ## What moves the lane -/

section Lane

variable {engine : PlaybackEngine}

theorem Shaped.updateChannel (h : engine.Shaped) (slot : Slot) (change : Channel → Channel)
    (hsane : Sane (engine.channel slot) (change (engine.channel slot))) :
    (engine.updateChannel slot change).Shaped := by
  refine ⟨h.tidy.updateChannel slot change hsane, ?_⟩
  rw [updateChannel_currentSlot]
  exact h.noPauser.updateChannel h.tidy slot hsane.token

theorem Shaped.pauseAmbient (h : engine.Shaped) : engine.pauseAmbient.Shaped := by
  have hfirst : (engine.pauseChannel .A).Shaped :=
    h.updateChannel .A _ (Sane.pause (h.tidy.loaded .A))
  exact hfirst.updateChannel .B (·.onElement (·.pause)) (Sane.pause (hfirst.tidy.loaded .B))

theorem Shaped.unload (h : engine.Shaped) :
    ((engine.updateChannel .A Channel.unloadElement).updateChannel .B
      Channel.unloadElement).Shaped :=
  (h.updateChannel .A _ Sane.unloadElement).updateChannel .B _ Sane.unloadElement

theorem Shaped.stopAmbient (h : engine.Shaped) : engine.stopAmbient.Shaped :=
  h.pauseAmbient.unload

theorem Shaped.playCurrent (h : engine.Shaped) : engine.playCurrent.Shaped :=
  h.updateChannel engine.currentSlot (·.onElement MediaElement.safePlay)
    (Sane.safePlay (h.tidy.loaded engine.currentSlot) (h.tidy.silent engine.currentSlot))

theorem Shaped.setGainNow (h : engine.Shaped) (slot : Slot) (gain : ℚ) :
    (engine.updateChannel slot (·.setGainNow gain)).Shaped :=
  h.updateChannel _ _ (Sane.setGainNow (h.tidy.loaded _) (h.tidy.silent _) gain)

theorem Shaped.received (h : engine.Shaped) (trackId : ℕ) (startAtMs : ℚ) :
    (engine.updateCurrent (receive trackId startAtMs)).Shaped :=
  h.updateChannel _ _ (Sane.receive (h.tidy.loaded _) trackId startAtMs)

theorem Shaped.cutAmbient (h : engine.Shaped) (trackId : ℕ) (startAtMs : ℚ) :
    (engine.cutAmbient trackId startAtMs).Shaped := by
  have hreceived := h.received trackId startAtMs
  unfold PlaybackEngine.cutAmbient
  dsimp only
  split
  · exact ((hreceived.setGainNow _ 1).setGainNow _ 0).playCurrent
  · exact (hreceived.setGainNow _ 1).setGainNow _ 0

theorem Tidy.rampGain (h : engine.Tidy) (slot : Slot) (now fromLevel toLevel : ℚ) {ms : ℚ}
    (hms : ¬ ms ≤ 0) (pauses : Bool) :
    (engine.rampGain slot now fromLevel toLevel ms pauses).Tidy := by
  have hstart : (engine.updateChannel slot (·.setGainNow fromLevel)).Tidy :=
    h.updateChannel slot _ (Sane.setGainNow (h.loaded slot) (h.silent slot) fromLevel)
  unfold PlaybackEngine.rampGain
  dsimp only
  rw [if_neg hms]
  refine ⟨hstart.loaded, hstart.silent, ?_, ?_⟩
  · intro other token start from' to' ms' pauses' hmem
    simp only [request, List.mem_append, List.mem_singleton, Frame.gain.injEq] at hmem
    rcases hmem with hmem | ⟨rfl, rfl, _⟩
    · exact hstart.gainTokens _ _ _ _ _ _ _ hmem
    · exact le_rfl
  · intro token start from' to' ms' stops hmem
    simp only [request, List.mem_append, List.mem_singleton, reduceCtorEq, or_false] at hmem
    exact hstart.interruptTokens _ _ _ _ _ _ hmem

theorem Tidy.rampGain_noPauser (h : engine.Tidy) (slot : Slot) (now fromLevel toLevel : ℚ)
    {ms : ℚ} (hms : ¬ ms ≤ 0) :
    (engine.rampGain slot now fromLevel toLevel ms false).NoPauser slot := by
  intro token start from' to' ms' hmem
  unfold PlaybackEngine.rampGain at hmem ⊢
  dsimp only at hmem ⊢
  rw [if_neg hms] at hmem ⊢
  simp only [request, updateChannel_frames, List.mem_append, List.mem_singleton,
    Frame.gain.injEq, Bool.true_eq_false, and_false, or_false] at hmem
  have hold := h.gainTokens slot token start from' to' ms' true hmem
  have htoken : (request (engine.updateChannel slot (·.setGainNow fromLevel))
      (.gain slot ((engine.updateChannel slot (·.setGainNow fromLevel)).channel slot).rampToken now
        fromLevel toLevel ms false)).channel slot =
      (engine.channel slot).setGainNow fromLevel := by
    cases slot <;> rfl
  rw [htoken]
  simp only [Channel.setGainNow]
  omega

theorem rampGain_channel (slot other : Slot) (now fromLevel toLevel : ℚ) {ms : ℚ}
    (hms : ¬ ms ≤ 0) (pauses : Bool) :
    ((engine.rampGain slot now fromLevel toLevel ms pauses).channel other).el =
      (engine.channel other).el := by
  unfold PlaybackEngine.rampGain
  dsimp only
  rw [if_neg hms]
  cases slot <;> cases other <;> rfl

theorem rampGain_currentSlot (slot : Slot) (now fromLevel toLevel : ℚ) {ms : ℚ}
    (hms : ¬ ms ≤ 0) (pauses : Bool) :
    (engine.rampGain slot now fromLevel toLevel ms pauses).currentSlot = engine.currentSlot := by
  unfold PlaybackEngine.rampGain
  dsimp only
  rw [if_neg hms]
  cases slot <;> rfl

theorem Shaped.crossfadeAmbient (h : engine.Shaped) (now : ℚ) (trackId : ℕ) {crossfadeMs : ℚ}
    (hms : ¬ crossfadeMs ≤ 0) (startAtMs : ℚ) :
    (engine.crossfadeAmbient now trackId crossfadeMs startAtMs).Shaped := by
  have hreceived : (engine.updateChannel engine.currentSlot.other
      (receive trackId startAtMs)).Tidy :=
    h.tidy.updateChannel _ _ (Sane.receive (h.tidy.loaded _) trackId startAtMs)
  have hplayed := hreceived.updateChannel engine.currentSlot.other
    (·.onElement MediaElement.safePlay) (Sane.safePlay (hreceived.loaded _) (hreceived.silent _))
  have hout := hplayed.rampGain engine.currentSlot now
    (((engine.updateChannel engine.currentSlot.other (receive trackId startAtMs)).updateChannel
      engine.currentSlot.other (·.onElement MediaElement.safePlay)).channel
        engine.currentSlot).gain 0 hms true
  have hin := hout.rampGain engine.currentSlot.other now 0 1 hms false
  have hquiet := hout.rampGain_noPauser engine.currentSlot.other now 0 1 hms
  have hslot : ∀ other : PlaybackEngine, other.currentSlot = engine.currentSlot → other.Tidy →
      other.NoPauser engine.currentSlot.other → other.switchSlot.Shaped := by
    intro other hother htidy hnoPauser
    have hcurrent : other.switchSlot.currentSlot = engine.currentSlot.other := by
      rw [← hother]
      rfl
    refine ⟨⟨htidy.loaded, htidy.silent, htidy.gainTokens, htidy.interruptTokens⟩, ?_⟩
    rw [hcurrent]
    exact hnoPauser
  refine hslot _ ?_ hin hquiet
  rw [rampGain_currentSlot _ _ _ _ hms, rampGain_currentSlot _ _ _ _ hms]
  simp

/-! ## What the lane shows -/

theorem agrees_of_paused {track : Option ℕ} {isPlaying : Bool}
    (hsrc : engine.currentChannel.el.src = track)
    (hpaused : engine.currentChannel.el.paused = true)
    (hquiet : isPlaying = true → track = none) : engine.Agrees track isPlaying := by
  refine ⟨hsrc, ?_⟩
  rw [hpaused]
  exact ⟨fun h => absurd h (by decide), fun h => absurd (hquiet h.1) h.2⟩

theorem agrees_of_playing {track : Option ℕ} (hsrc : engine.currentChannel.el.src = track)
    (hpaused : engine.currentChannel.el.paused = false) (hsome : track ≠ none) :
    engine.Agrees track true := ⟨hsrc, fun _ => ⟨rfl, hsome⟩, fun _ => hpaused⟩

theorem playCurrent_agrees (h : engine.Shaped) {track : Option ℕ}
    (hsrc : engine.currentChannel.el.src = track) : engine.playCurrent.Agrees track true := by
  have hcurrent : engine.playCurrent.currentChannel =
      engine.currentChannel.onElement MediaElement.safePlay := by
    unfold playCurrent
    rw [currentChannel_updateCurrent]
  have hsilent := h.tidy.silent engine.currentSlot
  cases track with
  | none =>
    refine agrees_of_paused ?_ ?_ fun _ => rfl
    · simp [hcurrent, Channel.onElement, MediaElement.safePlay, hsrc]
    · rw [hcurrent]
      simp only [Channel.onElement, MediaElement.safePlay, hsrc, if_true]
      exact hsilent hsrc
  | some trackId =>
    refine agrees_of_playing ?_ ?_ (Option.some_ne_none trackId)
    · simp [hcurrent, Channel.onElement, MediaElement.safePlay, MediaElement.play, hsrc]
    · simp [hcurrent, Channel.onElement, MediaElement.safePlay, MediaElement.play, hsrc]

theorem pauseAmbient_current :
    engine.pauseAmbient.currentChannel = engine.currentChannel.onElement (·.pause) := by
  unfold currentChannel
  rw [pauseAmbient_currentSlot, pauseAmbient_channel]

theorem pauseAmbient_agrees {track : Option ℕ} (hsrc : engine.currentChannel.el.src = track) :
    engine.pauseAmbient.Agrees track false := by
  refine agrees_of_paused ?_ ?_ (by simp)
  · rw [pauseAmbient_current]
    exact hsrc
  · rw [pauseAmbient_current]
    rfl

theorem stopAmbient_agrees (isPlaying : Bool) : engine.stopAmbient.Agrees none isPlaying := by
  have hcurrent : engine.stopAmbient.currentChannel =
      (engine.currentChannel.onElement (·.pause)).unloadElement := by
    unfold currentChannel
    rw [stopAmbient_currentSlot, stopAmbient_channel]
  refine agrees_of_paused ?_ ?_ fun _ => rfl
  · rw [hcurrent]
    rfl
  · rw [hcurrent]
    rfl

theorem cutAmbient_agrees (h : engine.Shaped) (trackId : ℕ) (startAtMs : ℚ) :
    (engine.cutAmbient trackId startAtMs).Agrees (some trackId) engine.lastIsPlaying := by
  have hloaded : engine.currentChannel.loadedUrl = engine.currentChannel.el.src :=
    h.tidy.loaded engine.currentSlot
  obtain ⟨hsrc, hpaused, _, _⟩ := receive_holds hloaded trackId startAtMs
  -- the current channel before it may be played
  have hlane : ∀ other : PlaybackEngine, other.currentChannel.el =
      (receive trackId startAtMs engine.currentChannel).el → other.Shaped →
      other.lastIsPlaying = engine.lastIsPlaying →
      (if other.lastIsPlaying then other.playCurrent else other).Agrees (some trackId)
        engine.lastIsPlaying := by
    intro other hother hshaped hsame
    rw [hsame]
    cases hplaying : engine.lastIsPlaying with
    | true =>
      rw [if_pos rfl]
      exact playCurrent_agrees hshaped (by rw [hother, hsrc])
    | false =>
      rw [if_neg (by simp)]
      exact agrees_of_paused (by rw [hother, hsrc]) (by rw [hother, hpaused]) (by simp)
  refine hlane _ ?_ (((h.received trackId startAtMs).setGainNow _ 1).setGainNow _ 0) ?_
  · have hne : engine.currentSlot ≠ engine.currentSlot.other := (Slot.other_ne _).symm
    simp [currentChannel, updateCurrent, updateChannel_channel, hne, Channel.setGainNow]
  · unfold updateCurrent
    simp

theorem crossfadeAmbient_agrees (h : engine.Shaped) (now : ℚ) (trackId : ℕ) {crossfadeMs : ℚ}
    (hms : ¬ crossfadeMs ≤ 0) (startAtMs : ℚ) :
    (engine.crossfadeAmbient now trackId crossfadeMs startAtMs).Agrees (some trackId) true := by
  obtain ⟨hsrc, _, _, _⟩ := receive_holds (h.tidy.loaded engine.currentSlot.other) trackId startAtMs
  have hlane : (engine.crossfadeAmbient now trackId crossfadeMs startAtMs).currentChannel.el =
      (receive trackId startAtMs (engine.channel engine.currentSlot.other)).el.safePlay := by
    unfold crossfadeAmbient
    dsimp only
    have hswitch : ∀ other : PlaybackEngine, other.currentSlot = engine.currentSlot →
        other.switchSlot.currentChannel = other.channel engine.currentSlot.other := by
      intro other hother
      unfold currentChannel
      rw [← hother]
      rfl
    rw [hswitch]
    · rw [rampGain_channel _ _ _ _ _ hms, rampGain_channel _ _ _ _ _ hms,
        channel_updateChannel_same, channel_updateChannel_same]
      rfl
    · rw [rampGain_currentSlot _ _ _ _ hms, rampGain_currentSlot _ _ _ _ hms]
      simp
  refine agrees_of_playing ?_ ?_ (Option.some_ne_none trackId)
  · rw [hlane]
    simp [MediaElement.safePlay, MediaElement.play, hsrc]
  · rw [hlane]
    simp [MediaElement.safePlay, MediaElement.play, hsrc]

/-! ## The fade of the interrupt goes on -/

/-- The interrupt channel is as it was, and no frame was taken. -/
structure Grows (engine next : PlaybackEngine) : Prop where
  interrupt : next.interrupt = engine.interrupt
  frames : ∀ frame ∈ engine.frames, frame ∈ next.frames

theorem Fading.grows {next : PlaybackEngine} (h : engine.Fading) (hnext : engine.Grows next) :
    next.Fading := by
  obtain ⟨start, fromLevel, toLevel, ms, hmem⟩ := h
  refine ⟨start, fromLevel, toLevel, ms, ?_⟩
  rw [hnext.interrupt]
  exact hnext.frames _ hmem

theorem Grows.trans {middle next : PlaybackEngine} (hfirst : engine.Grows middle)
    (hthen : middle.Grows next) : engine.Grows next :=
  ⟨hthen.interrupt.trans hfirst.interrupt, fun frame hmem =>
    hthen.frames frame (hfirst.frames frame hmem)⟩

theorem Grows.refl : engine.Grows engine := ⟨rfl, fun _ hmem => hmem⟩

theorem updateChannel_grows (engine : PlaybackEngine) (slot : Slot) (change : Channel → Channel) :
    engine.Grows (engine.updateChannel slot change) :=
  ⟨by simp, fun _ hmem => by rwa [updateChannel_frames]⟩

theorem fireAmbientAdvance_grows (engine : PlaybackEngine) (now : ℚ) :
    engine.Grows (engine.fireAmbientAdvance now) := by
  unfold fireAmbientAdvance
  split
  · exact Grows.refl
  · exact ⟨rfl, fun _ hmem => hmem⟩

end Lane

end PlaybackEngine

end Browser

end MusicServer
