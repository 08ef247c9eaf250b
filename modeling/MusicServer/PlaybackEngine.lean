/-
# The playback engine of a browser

`core/playbackEngine.ts`: two ambient channels that cross-fade, one interrupt channel, and a gain
that ducks the ambient ones.  The engine never computes what should play from a state: it compares
every state with what it remembers of the last one, and frames of running fades act on their own.
Elements obey: `play` and `pause` take effect at once.
-/
import Mathlib.Algebra.Order.Field.Rat
import Mathlib.Algebra.Order.Group.Unbundled.Abs
import Mathlib.Data.List.Induction

namespace MusicServer

namespace Browser

/-! ## The state a server sends -/

inductive CrossfadeType where
  | linear
  | equalPower
  | cut
  deriving DecidableEq

structure AmbientLane where
  currentTrackId : Option ℕ
  positionMs : ℚ
  deriving DecidableEq

structure InterruptLane where
  currentTrackId : ℕ
  positionMs : ℚ
  fadeInMs : ℚ
  fadeOutMs : ℚ
  duckTo : Option ℚ
  deriving DecidableEq

/-- What the engine reads of a player state. -/
structure PlayerState where
  positionEpoch : ℕ
  isPlaying : Bool
  crossfadeMs : ℚ
  crossfadeType : CrossfadeType
  deviceVolumes : List (String × ℚ)
  defaultDeviceVolume : ℚ
  ambient : AmbientLane
  interrupt : Option InterruptLane
  deriving DecidableEq

/-! ## Elements and channels -/

/-- An audio element; `src` is the track whose stream it has. -/
structure MediaElement where
  src : Option ℕ
  paused : Bool
  ended : Bool
  currentTime : ℚ
  deriving DecidableEq

structure Channel where
  el : MediaElement
  gain : ℚ
  rampToken : ℕ
  loadedUrl : Option ℕ
  deriving DecidableEq

inductive Slot where
  | A
  | B
  deriving DecidableEq

def Slot.other : Slot → Slot
  | .A => .B
  | .B => .A

def seekApplyEpsilonMs : ℚ := 300

def advanceDebounceMs : ℚ := 2000

def clamp01 (v : ℚ) : ℚ := max 0 (min 1 v)

namespace MediaElement

def pause (el : MediaElement) : MediaElement := { el with paused := true }

/-- `play`; an element that ended starts again. -/
def play (el : MediaElement) : MediaElement :=
  { el with
    paused := false
    ended := false
    currentTime := if el.ended then 0 else el.currentTime }

/-- Another source is set, or none, and loaded. -/
def load (el : MediaElement) (src : Option ℕ) : MediaElement :=
  { el with src := src, paused := true, ended := false, currentTime := 0 }

def seek (el : MediaElement) (time : ℚ) : MediaElement :=
  { el with currentTime := time, ended := false }

def safePlay (el : MediaElement) : MediaElement := if el.src = none then el else el.play

def positionElement (el : MediaElement) (startS : ℚ) : MediaElement :=
  if |el.currentTime - startS| * 1000 ≤ seekApplyEpsilonMs then el else el.seek startS

end MediaElement

namespace Channel

def unloadElement (ch : Channel) : Channel :=
  { ch with el := ch.el.pause.load none, loadedUrl := none }

def loadInto (ch : Channel) (trackId : ℕ) : Channel :=
  if ch.loadedUrl ≠ some trackId then
    { ch with el := ch.el.pause.load (some trackId), loadedUrl := some trackId }
  else { ch with el := ch.el.pause }

def setGainNow (ch : Channel) (value : ℚ) : Channel :=
  { ch with rampToken := ch.rampToken + 1, gain := clamp01 value }

def onElement (ch : Channel) (change : MediaElement → MediaElement) : Channel :=
  { ch with el := change ch.el }

end Channel

def shouldApplyEpochSeek (prevEpoch : Option ℕ) (epoch : ℕ) (elapsedMs targetMs : ℚ) : Bool :=
  match prevEpoch with
  | none => false
  | some prev => prev ≠ epoch ∧ ¬ |targetMs - elapsedMs| ≤ seekApplyEpsilonMs

def MediaElement.applyEpochSeek (el : MediaElement) (prevEpoch : Option ℕ) (epoch : ℕ)
    (targetMs : ℚ) : MediaElement :=
  if shouldApplyEpochSeek prevEpoch epoch (el.currentTime * 1000) targetMs then
    el.seek (max 0 (targetMs / 1000))
  else el

/-! ## The engine -/

/-- A frame that was requested: the next tick of a ramp.  A cross-fade may pause its channel at the
end, and the fade of the interrupt may stop it. -/
inductive Frame where
  | duck (token : ℕ) (start fromLevel toLevel ms : ℚ)
  | gain (slot : Slot) (token : ℕ) (start fromLevel toLevel ms : ℚ) (pauses : Bool)
  | interrupt (token : ℕ) (start fromLevel toLevel ms : ℚ) (stops : Bool)
  deriving DecidableEq

structure PlaybackEngine where
  ambientA : Channel
  ambientB : Channel
  currentSlot : Slot
  interrupt : Channel
  ambientDuck : ℚ
  ambientMaster : ℚ
  interruptMaster : ℚ
  clientId : String
  lastAmbientId : Option ℕ
  lastInterruptId : Option ℕ
  lastIsPlaying : Bool
  lastVolume : ℚ
  lastInterruptFadeOut : ℚ
  lastEpoch : Option ℕ
  lastAdvanceAt : Option ℚ
  currentDuckTo : Option ℚ
  duckRampToken : ℕ
  isMyOutput : Bool
  crossfadeMs : ℚ
  crossfadeType : CrossfadeType
  frames : List Frame
  /-- The requests to advance, with the track that ended. -/
  skips : List (Option ℕ)
  interruptSkips : List (Option ℕ)
  deriving DecidableEq

/-- The engine with its elements, before the first state. -/
def PlaybackEngine.wired (clientId : String) : PlaybackEngine where
  ambientA := ⟨⟨none, true, false, 0⟩, 1, 0, none⟩
  ambientB := ⟨⟨none, true, false, 0⟩, 0, 0, none⟩
  currentSlot := .A
  interrupt := ⟨⟨none, true, false, 0⟩, 0, 0, none⟩
  ambientDuck := 1
  ambientMaster := 1
  interruptMaster := 1
  clientId := clientId
  lastAmbientId := none
  lastInterruptId := none
  lastIsPlaying := false
  lastVolume := 1
  lastInterruptFadeOut := 0
  lastEpoch := none
  lastAdvanceAt := none
  currentDuckTo := none
  duckRampToken := 0
  isMyOutput := false
  crossfadeMs := 0
  crossfadeType := .linear
  frames := []
  skips := []
  interruptSkips := []

namespace PlaybackEngine

def channel (engine : PlaybackEngine) : Slot → Channel
  | .A => engine.ambientA
  | .B => engine.ambientB

def setChannel (engine : PlaybackEngine) (slot : Slot) (ch : Channel) : PlaybackEngine :=
  match slot with
  | .A => { engine with ambientA := ch }
  | .B => { engine with ambientB := ch }

def updateChannel (engine : PlaybackEngine) (slot : Slot) (change : Channel → Channel) :
    PlaybackEngine :=
  engine.setChannel slot (change (engine.channel slot))

def currentChannel (engine : PlaybackEngine) : Channel := engine.channel engine.currentSlot

def updateCurrent (engine : PlaybackEngine) (change : Channel → Channel) : PlaybackEngine :=
  engine.updateChannel engine.currentSlot change

def updateInterrupt (engine : PlaybackEngine) (change : Channel → Channel) : PlaybackEngine :=
  { engine with interrupt := change engine.interrupt }

def request (engine : PlaybackEngine) (frame : Frame) : PlaybackEngine :=
  { engine with frames := engine.frames ++ [frame] }

/-! ### Ramps -/

def rampDuck (engine : PlaybackEngine) (now toLevel ms : ℚ) : PlaybackEngine :=
  let engine := { engine with duckRampToken := engine.duckRampToken + 1 }
  if ms ≤ 0 then { engine with ambientDuck := toLevel }
  else engine.request (.duck engine.duckRampToken now engine.ambientDuck toLevel ms)

def duckAmbient (engine : PlaybackEngine) (now toLevel ms : ℚ) : PlaybackEngine :=
  engine.rampDuck now (clamp01 toLevel) ms

def unduckAmbient (engine : PlaybackEngine) (now ms : ℚ) : PlaybackEngine :=
  engine.rampDuck now 1 ms

def pauseChannel (engine : PlaybackEngine) (slot : Slot) : PlaybackEngine :=
  engine.updateChannel slot (·.onElement (·.pause))

def rampGain (engine : PlaybackEngine) (slot : Slot) (now fromLevel toLevel ms : ℚ)
    (pauses : Bool) : PlaybackEngine :=
  let engine := engine.updateChannel slot (·.setGainNow fromLevel)
  if ms ≤ 0 then
    let engine := engine.updateChannel slot fun ch => { ch with gain := clamp01 toLevel }
    if pauses then engine.pauseChannel slot else engine
  else
    engine.request (.gain slot (engine.channel slot).rampToken now fromLevel toLevel ms pauses)

/-! ### Ambient -/

def pauseAmbient (engine : PlaybackEngine) : PlaybackEngine :=
  (engine.pauseChannel .A).pauseChannel .B

def stopAmbient (engine : PlaybackEngine) : PlaybackEngine :=
  (engine.pauseAmbient.updateChannel .A Channel.unloadElement).updateChannel .B
    Channel.unloadElement

def playCurrent (engine : PlaybackEngine) : PlaybackEngine :=
  engine.updateCurrent (·.onElement MediaElement.safePlay)

def resumeAmbient (engine : PlaybackEngine) : PlaybackEngine :=
  if engine.lastInterruptId ≠ none then engine else engine.playCurrent

/-- Where the incoming track starts, in seconds. -/
def startSeconds (startAtMs : ℚ) : ℚ :=
  if startAtMs > seekApplyEpsilonMs then startAtMs / 1000 else 0

/-- The channel has the incoming track, at its place. -/
def receive (trackId : ℕ) (startAtMs : ℚ) (ch : Channel) : Channel :=
  (ch.loadInto trackId).onElement (·.positionElement (startSeconds startAtMs))

/-- The incoming track takes the place of the current one. -/
def cutAmbient (engine : PlaybackEngine) (trackId : ℕ) (startAtMs : ℚ) : PlaybackEngine :=
  let engine := engine.updateCurrent (receive trackId startAtMs)
  let engine := engine.updateCurrent (·.setGainNow 1)
  let engine := engine.updateChannel engine.currentSlot.other (·.setGainNow 0)
  if engine.lastIsPlaying then engine.playCurrent else engine

def switchSlot (engine : PlaybackEngine) : PlaybackEngine :=
  { engine with currentSlot := engine.currentSlot.other }

/-- The incoming track comes up in the other channel, which is the current one from now on. -/
def crossfadeAmbient (engine : PlaybackEngine) (now : ℚ) (trackId : ℕ)
    (crossfadeMs startAtMs : ℚ) : PlaybackEngine :=
  let current := engine.currentSlot
  let engine := engine.updateChannel current.other (receive trackId startAtMs)
  let engine := engine.updateChannel current.other (·.onElement MediaElement.safePlay)
  let engine := engine.rampGain current now (engine.channel current).gain 0 crossfadeMs true
  (engine.rampGain current.other now 0 1 crossfadeMs false).switchSlot

def swapAmbient (engine : PlaybackEngine) (now : ℚ) (trackId : ℕ) (crossfadeMs startAtMs : ℚ) :
    PlaybackEngine :=
  if crossfadeMs ≤ 0 then engine.cutAmbient trackId startAtMs
  else engine.crossfadeAmbient now trackId crossfadeMs startAtMs

/-! ### Interrupt -/

/-- The interrupt is gone: the ambient lane plays on, where it should. -/
def stopInterrupt (engine : PlaybackEngine) : PlaybackEngine :=
  let engine := engine.updateInterrupt fun ch => { ch.unloadElement with gain := 0 }
  if engine.lastIsPlaying then engine.playCurrent else engine

def rampInterrupt (engine : PlaybackEngine) (now fromLevel toLevel ms : ℚ) (stops : Bool) :
    PlaybackEngine :=
  let engine := engine.updateInterrupt (·.setGainNow fromLevel)
  if ms ≤ 0 then
    let engine := engine.updateInterrupt fun ch => { ch with gain := clamp01 toLevel }
    if stops then engine.stopInterrupt else engine
  else engine.request (.interrupt engine.interrupt.rampToken now fromLevel toLevel ms stops)

def loadInterrupt (trackId : ℕ) (ch : Channel) : Channel :=
  if ch.loadedUrl ≠ some trackId then
    { ch with el := ch.el.load (some trackId), loadedUrl := some trackId }
  else ch

def startInterrupt (engine : PlaybackEngine) (now : ℚ) (trackId : ℕ) (fadeInMs startAtMs : ℚ) :
    PlaybackEngine :=
  let engine := engine.updateInterrupt (loadInterrupt trackId)
  let engine := engine.updateInterrupt
    (·.onElement (·.positionElement (startSeconds startAtMs)))
  let engine := engine.rampInterrupt now 0 1 fadeInMs false
  engine.updateInterrupt (·.onElement MediaElement.safePlay)

def fadeOutInterrupt (engine : PlaybackEngine) (now ms : ℚ) : PlaybackEngine :=
  engine.rampInterrupt now engine.interrupt.gain 0 ms true

/-! ### Output role, volume and advances -/

def unloadAll (engine : PlaybackEngine) : PlaybackEngine :=
  let engine := engine.pauseAmbient
  let engine := (engine.updateChannel .A Channel.unloadElement).updateChannel .B
    Channel.unloadElement
  engine.updateInterrupt fun ch => { ch.unloadElement with gain := 0 }

def releaseOutput (engine : PlaybackEngine) : PlaybackEngine :=
  let engine := engine.unloadAll
  { engine with
    duckRampToken := engine.duckRampToken + 1
    ambientDuck := 1
    currentDuckTo := none
    lastEpoch := none }

def applyMasterVolume (engine : PlaybackEngine) : PlaybackEngine :=
  { engine with
    ambientMaster := clamp01 engine.lastVolume
    interruptMaster := clamp01 engine.lastVolume }

def fireAmbientAdvance (engine : PlaybackEngine) (now : ℚ) : PlaybackEngine :=
  if engine.lastAdvanceAt.any fun last => now - last < advanceDebounceMs then engine
  else { engine with
    lastAdvanceAt := some now
    skips := engine.skips ++ [engine.lastAmbientId] }

/-! ### A state is applied -/

/-- The role, the cross-fade and the volume of this device. -/
def takeSettings (engine : PlaybackEngine) (state : PlayerState) (isMyOutput : Bool) :
    PlaybackEngine :=
  let effective := clamp01
    ((state.deviceVolumes.lookup engine.clientId).getD state.defaultDeviceVolume)
  let engine := { engine with
    isMyOutput := isMyOutput
    crossfadeMs := state.crossfadeMs
    crossfadeType := state.crossfadeType }
  if effective ≠ engine.lastVolume then
    ({ engine with lastVolume := effective } : PlaybackEngine).applyMasterVolume
  else engine

def standDown (engine : PlaybackEngine) (wasMyOutput : Bool) : PlaybackEngine :=
  let engine := if wasMyOutput then engine.releaseOutput else engine
  { engine with
    lastAmbientId := none
    lastInterruptId := none
    lastIsPlaying := false
    lastEpoch := none }

/-- An interrupt starts, in the place of another or not. -/
def beginInterrupt (engine : PlaybackEngine) (now : ℚ) (interrupt : InterruptLane) :
    PlaybackEngine :=
  let engine := engine.startInterrupt now interrupt.currentTrackId interrupt.fadeInMs
    interrupt.positionMs
  match interrupt.duckTo with
  | some duckTo =>
    { engine.duckAmbient now duckTo interrupt.fadeInMs with currentDuckTo := some duckTo }
  | none => { engine.pauseAmbient with currentDuckTo := none }

def liftDuck (engine : PlaybackEngine) (now ms : ℚ) : PlaybackEngine :=
  if engine.currentDuckTo ≠ none then
    { engine.unduckAmbient now ms with currentDuckTo := none }
  else engine

def endInterrupt (engine : PlaybackEngine) (now : ℚ) : PlaybackEngine :=
  if engine.lastInterruptFadeOut > 0 then
    (engine.fadeOutInterrupt now engine.lastInterruptFadeOut).liftDuck now
      engine.lastInterruptFadeOut
  else engine.stopInterrupt.liftDuck now 0

def setLastEpoch (engine : PlaybackEngine) (epoch : ℕ) : PlaybackEngine :=
  { engine with lastEpoch := some epoch }

def rememberFadeOut (engine : PlaybackEngine) (state : PlayerState) : PlaybackEngine :=
  match state.interrupt with
  | some interrupt => { engine with lastInterruptFadeOut := interrupt.fadeOutMs }
  | none => engine

def changeInterrupt (engine : PlaybackEngine) (now : ℚ) (state : PlayerState) : PlaybackEngine :=
  match state.interrupt with
  | some interrupt => engine.beginInterrupt now interrupt
  | none => engine.endInterrupt now

def applyInterrupt (engine : PlaybackEngine) (now : ℚ) (state : PlayerState) : PlaybackEngine :=
  if state.interrupt.map (·.currentTrackId) ≠ engine.lastInterruptId then
    { engine.changeInterrupt now state with
      lastInterruptId := state.interrupt.map (·.currentTrackId) }
  else engine

def applyAmbientTrack (engine : PlaybackEngine) (now : ℚ) (state : PlayerState) :
    PlaybackEngine :=
  if state.ambient.currentTrackId ≠ engine.lastAmbientId then
    let engine : PlaybackEngine := match state.ambient.currentTrackId with
      | none => engine.stopAmbient
      | some trackId =>
        let useCrossfade := engine.lastAmbientId ≠ none ∧ state.isPlaying = true ∧
          engine.crossfadeMs > 0 ∧ engine.crossfadeType ≠ CrossfadeType.cut
        engine.swapAmbient now trackId (if useCrossfade then engine.crossfadeMs else 0)
          state.ambient.positionMs
    { engine with lastAmbientId := state.ambient.currentTrackId }
  else engine

def applyIsPlaying (engine : PlaybackEngine) (state : PlayerState) : PlaybackEngine :=
  if state.isPlaying ≠ engine.lastIsPlaying then
    if state.isPlaying then engine.resumeAmbient else engine.pauseAmbient
  else engine

def applyAmbient (engine : PlaybackEngine) (now : ℚ) (state : PlayerState) : PlaybackEngine :=
  if state.interrupt = none then (engine.applyAmbientTrack now state).applyIsPlaying state
  else engine

/-- The current ambient element is nudged: it missed a resume, or it ended and nobody knows. -/
def nudgeAmbient (engine : PlaybackEngine) (now : ℚ) : PlaybackEngine :=
  if engine.currentChannel.el.ended then engine.fireAmbientAdvance now
  else if engine.currentChannel.el.paused then engine.playCurrent
  else engine

/-- The track is the one the state before had: seeks, and nudges. -/
def applySameTrack (engine : PlaybackEngine) (now : ℚ) (prev : PlaybackEngine)
    (state : PlayerState) : PlaybackEngine :=
  match state.interrupt with
  | some interrupt =>
    if prev.lastInterruptId = some interrupt.currentTrackId then
      engine.updateInterrupt
        (·.onElement (·.applyEpochSeek prev.lastEpoch state.positionEpoch interrupt.positionMs))
    else engine
  | none =>
    if state.ambient.currentTrackId ≠ none ∧ state.ambient.currentTrackId = prev.lastAmbientId then
      let engine := engine.updateCurrent
        (·.onElement (·.applyEpochSeek prev.lastEpoch state.positionEpoch state.ambient.positionMs))
      if state.isPlaying = true ∧ prev.lastInterruptId = none then engine.nudgeAmbient now
      else engine
    else engine

def applyState (engine : PlaybackEngine) (now : ℚ) (state : PlayerState) (isMyOutput : Bool) :
    PlaybackEngine :=
  let prev := engine
  let engine := engine.takeSettings state isMyOutput
  if isMyOutput then
    let engine := (engine.setLastEpoch state.positionEpoch).rememberFadeOut state
    let engine := (engine.applyInterrupt now state).applyAmbient now state
    { engine.applySameTrack now prev state with lastIsPlaying := state.isPlaying }
  else engine.standDown prev.isMyOutput

/-! ### Frames and media events -/

def progress (now start ms : ℚ) : ℚ := min 1 ((now - start) / ms)

/-- `halfSine` is the sine of so many quarter turns. -/
def ease (halfSine : ℚ → ℚ) (engine : PlaybackEngine) (t : ℚ) : ℚ :=
  match engine.crossfadeType with
  | .cut => if t < 1 then 0 else 1
  | .equalPower => halfSine t
  | .linear => t

def live (engine : PlaybackEngine) : Frame → Bool
  | .duck token .. => token = engine.duckRampToken
  | .gain slot token .. => token = (engine.channel slot).rampToken
  | .interrupt token .. => token = engine.interrupt.rampToken

/-- A tick: the level moves on, and the last tick ends the ramp. -/
def tick (halfSine : ℚ → ℚ) (engine : PlaybackEngine) (frame : Frame) (now : ℚ) :
    PlaybackEngine :=
  let engine := { engine with frames := engine.frames.erase frame }
  if engine.live frame then
    match frame with
    | .duck _ start fromLevel toLevel ms =>
      let t := progress now start ms
      let engine := { engine with ambientDuck := fromLevel + (toLevel - fromLevel) * t }
      if t < 1 then engine.request frame else engine
    | .gain slot _ start fromLevel toLevel ms pauses =>
      let t := progress now start ms
      let eased := ease halfSine engine t
      let engine := engine.updateChannel slot fun ch =>
        { ch with gain := clamp01 (fromLevel + (toLevel - fromLevel) * eased) }
      if t < 1 then engine.request frame
      else if pauses then engine.pauseChannel slot
      else engine
    | .interrupt _ start fromLevel toLevel ms stops =>
      let t := progress now start ms
      let engine := engine.updateInterrupt fun ch =>
        { ch with gain := clamp01 (fromLevel + (toLevel - fromLevel) * t) }
      if t < 1 then engine.request frame
      else if stops then engine.stopInterrupt
      else engine
  else engine

def handleAmbientEnded (engine : PlaybackEngine) (slot : Slot) (now : ℚ) : PlaybackEngine :=
  let engine := engine.updateChannel slot (·.onElement fun el => { el with ended := true })
  if slot = engine.currentSlot then engine.fireAmbientAdvance now else engine

def fireInterruptSkip (engine : PlaybackEngine) : PlaybackEngine :=
  { engine with interruptSkips := engine.interruptSkips ++ [engine.lastInterruptId] }

def handleInterruptEnded (engine : PlaybackEngine) (now : ℚ) : PlaybackEngine :=
  let engine := engine.updateInterrupt (·.onElement fun el => { el with ended := true })
  if engine.lastInterruptFadeOut > 0 then
    (engine.fadeOutInterrupt now engine.lastInterruptFadeOut).fireInterruptSkip
  else engine.fireInterruptSkip

end PlaybackEngine

/-! ## Runs -/

inductive EngineEvent where
  | applyState (now : ℚ) (state : PlayerState) (isMyOutput : Bool)
  | frame (frame : Frame) (now : ℚ)
  | ambientEnded (slot : Slot) (now : ℚ)
  | interruptEnded (now : ℚ)
  | ambientProgress (slot : Slot) (time : ℚ)
  | interruptProgress (time : ℚ)

/-- What happens to an engine; only a frame that was requested can come. -/
def PlaybackEngine.step (halfSine : ℚ → ℚ) (engine : PlaybackEngine) :
    EngineEvent → Option PlaybackEngine
  | .applyState now state isMyOutput => some (engine.applyState now state isMyOutput)
  | .frame frame now =>
    if frame ∈ engine.frames then some (engine.tick halfSine frame now) else none
  | .ambientEnded slot now => some (engine.handleAmbientEnded slot now)
  | .interruptEnded now => some (engine.handleInterruptEnded now)
  | .ambientProgress slot time =>
    some (engine.updateChannel slot (·.onElement fun el => { el with currentTime := time }))
  | .interruptProgress time =>
    some (engine.updateInterrupt (·.onElement fun el => { el with currentTime := time }))

/-- The events of an engine, one after another. -/
def PlaybackEngine.run (halfSine : ℚ → ℚ) :
    PlaybackEngine → List EngineEvent → Option PlaybackEngine
  | engine, [] => some engine
  | engine, event :: rest =>
    match engine.step halfSine event with
    | some next => next.run halfSine rest
    | none => none

/-- The last call of a run: its state, and whether it made the device an output. -/
def lastCall : List EngineEvent → Option (PlayerState × Bool) :=
  List.foldl (fun last event => match event with
    | .applyState _ state isMyOutput => some (state, isMyOutput)
    | _ => last) none

theorem PlaybackEngine.run_append (halfSine : ℚ → ℚ) (engine : PlaybackEngine)
    (first rest : List EngineEvent) :
    engine.run halfSine (first ++ rest) =
      (engine.run halfSine first).bind fun next => next.run halfSine rest := by
  induction first generalizing engine with
  | nil => rfl
  | cons event first ih =>
    simp only [List.cons_append, PlaybackEngine.run]
    split
    · exact ih _
    · rfl

theorem PlaybackEngine.run_concat {halfSine : ℚ → ℚ} {engine last : PlaybackEngine}
    {events : List EngineEvent} {event : EngineEvent}
    (h : engine.run halfSine (events ++ [event]) = some last) :
    ∃ middle, engine.run halfSine events = some middle ∧
      middle.step halfSine event = some last := by
  rw [PlaybackEngine.run_append, Option.bind_eq_some_iff] at h
  obtain ⟨middle, hmiddle, hlast⟩ := h
  refine ⟨middle, hmiddle, ?_⟩
  simp only [PlaybackEngine.run] at hlast
  split at hlast
  · rename_i next hnext
    rw [hnext]
    exact hlast
  · cases hlast

theorem lastCall_call (events : List EngineEvent) (now : ℚ) (state : PlayerState)
    (isMyOutput : Bool) :
    lastCall (events ++ [.applyState now state isMyOutput]) = some (state, isMyOutput) := by
  simp [lastCall]

theorem lastCall_other (events : List EngineEvent) {event : EngineEvent}
    (hevent : ∀ now state isMyOutput, event ≠ .applyState now state isMyOutput) :
    lastCall (events ++ [event]) = lastCall events := by
  cases event with
  | applyState now state isMyOutput => exact absurd rfl (hevent now state isMyOutput)
  | _ => simp [lastCall]

theorem PlaybackEngine.run_keeps {halfSine : ℚ → ℚ} {clientId : String}
    {Q : PlaybackEngine → Option (PlayerState × Bool) → Prop} {events : List EngineEvent}
    (hwired : Q (wired clientId) none)
    (hstep : ∀ before event after engine next, events = before ++ event :: after →
      (wired clientId).run halfSine before = some engine → Q engine (lastCall before) →
      engine.step halfSine event = some next → Q next (lastCall (before ++ [event])))
    (first : List EngineEvent) :
    ∀ rest engine, events = first ++ rest → (wired clientId).run halfSine first = some engine →
      Q engine (lastCall first) := by
  induction first using List.reverseRecOn with
  | nil =>
    intro rest engine _ hrun
    cases hrun
    exact hwired
  | append_singleton first event ih =>
    intro rest engine hevents hrun
    obtain ⟨middle, hmiddle, hnext⟩ := run_concat hrun
    rw [List.append_assoc] at hevents
    exact hstep first event rest middle engine hevents hmiddle (ih _ middle hevents hmiddle) hnext

theorem PlaybackEngine.run_starts {halfSine : ℚ → ℚ} {engine last : PlaybackEngine}
    {first rest : List EngineEvent} (h : engine.run halfSine (first ++ rest) = some last) :
    ∃ middle, engine.run halfSine first = some middle := by
  rw [PlaybackEngine.run_append, Option.bind_eq_some_iff] at h
  obtain ⟨middle, hmiddle, _⟩ := h
  exact ⟨middle, hmiddle⟩

/-! ## Small facts -/

namespace PlaybackEngine

section Facts

variable (engine : PlaybackEngine) (slot : Slot) (change : Channel → Channel)

@[simp] theorem updateChannel_frames :
    (engine.updateChannel slot change).frames = engine.frames := by
  cases slot <;> rfl

@[simp] theorem updateChannel_duckRampToken :
    (engine.updateChannel slot change).duckRampToken = engine.duckRampToken := by
  cases slot <;> rfl

@[simp] theorem updateChannel_ambientDuck :
    (engine.updateChannel slot change).ambientDuck = engine.ambientDuck := by
  cases slot <;> rfl

@[simp] theorem updateChannel_currentDuckTo :
    (engine.updateChannel slot change).currentDuckTo = engine.currentDuckTo := by
  cases slot <;> rfl

@[simp] theorem updateChannel_lastInterruptId :
    (engine.updateChannel slot change).lastInterruptId = engine.lastInterruptId := by
  cases slot <;> rfl

@[simp] theorem updateChannel_lastIsPlaying :
    (engine.updateChannel slot change).lastIsPlaying = engine.lastIsPlaying := by
  cases slot <;> rfl

@[simp] theorem updateChannel_lastAmbientId :
    (engine.updateChannel slot change).lastAmbientId = engine.lastAmbientId := by
  cases slot <;> rfl

@[simp] theorem updateChannel_isMyOutput :
    (engine.updateChannel slot change).isMyOutput = engine.isMyOutput := by
  cases slot <;> rfl

@[simp] theorem updateChannel_currentSlot :
    (engine.updateChannel slot change).currentSlot = engine.currentSlot := by
  cases slot <;> rfl

@[simp] theorem updateChannel_interrupt :
    (engine.updateChannel slot change).interrupt = engine.interrupt := by
  cases slot <;> rfl

@[simp] theorem channel_updateChannel_same :
    (engine.updateChannel slot change).channel slot = change (engine.channel slot) := by
  cases slot <;> rfl

theorem channel_updateChannel_other {other : Slot} (hother : other ≠ slot) :
    (engine.updateChannel slot change).channel other = engine.channel other := by
  cases slot <;> cases other <;> first | rfl | exact absurd rfl hother

end Facts

end PlaybackEngine

end Browser

end MusicServer
