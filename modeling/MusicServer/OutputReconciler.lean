/-
# The headless output

`music-output`: the reconciler, which turns what the server says and what is switched on the
device into commands for mpv, and the runtime around it.  Commands are computed under the
lock of the reconciler and sent under that of the player, so that lists of commands may wait
and be sent in another order; so is the position, which is asked for once a second.  A file
that ends is unloaded by mpv.  Times are in seconds.
-/
import MusicServer.GuestProjection
import MusicServer.Transition

namespace MusicServer.Output

open Protocol Transition

/-! ## The reconciler -/

inductive PlaybackCommand where
  | setVolume (volume : ℚ)
  | load (url : String) (startSeconds : ℚ)
  | setPaused (paused : Bool)
  | stop
  | seekAbsolute (seconds : ℚ)
  deriving DecidableEq

structure Reconciler where
  serverUrl : String
  clientId : String
  respectConsole : Bool
  localOn : Bool
  localVolume : ℚ
  state : Option PlayerState
  loadedUrl : Option String
  lastEpoch : Option ℤ
  hasStateThisConnection : Bool
  deriving DecidableEq

def clamp01 (value : ℚ) : ℚ := max 0 (min value 1)

def nonnegativeSeconds (positionMs : ℤ) : ℚ := (max positionMs 0 : ℤ) / 1000

def trimSlashes (url : String) : String :=
  .ofList (url.toList.reverse.dropWhile (· = '/')).reverse

/-- The track of the active lane, whether it plays, and its position. -/
def lane (state : PlayerState) : Option ℤ × Bool × ℤ :=
  match state.interrupt with
  | some interrupt => (some interrupt.currentTrackId, true, interrupt.positionMs)
  | none => (state.ambient.currentTrackId, state.isPlaying, state.ambient.positionMs)

namespace Reconciler

def new (serverUrl clientId : String) (respectConsole localOn : Bool) (localVolume : ℚ) :
    Reconciler where
  serverUrl := trimSlashes serverUrl
  clientId
  respectConsole
  localOn
  localVolume := clamp01 localVolume
  state := none
  loadedUrl := none
  lastEpoch := none
  hasStateThisConnection := false

def outputVolume (r : Reconciler) (eventVolume : ℚ) : ℚ :=
  let serverVolume := match r.state with
    | none => 1
    | some state => (state.deviceVolumes[r.clientId]?).getD state.defaultDeviceVolume
  clamp01 eventVolume * clamp01 serverVolume * r.localVolume

def streamUrl (r : Reconciler) (trackId : ℤ) : String :=
  r.serverUrl ++ "/api/library/tracks/" ++ toString trackId ++ "/stream"

def on (r : Reconciler) (state : PlayerState) : Bool :=
  r.localOn && (!r.respectConsole || state.activeOutputDeviceIds.contains r.clientId)

/-- The epoch of the position has changed since it was last followed. -/
def epochChanged (r : Reconciler) (state : PlayerState) : Bool :=
  r.lastEpoch.any (· ≠ state.positionEpoch)

def reconcile (r : Reconciler) : Reconciler × List PlaybackCommand :=
  match r.state with
  | none => (r, [])
  | some state =>
    let volume := PlaybackCommand.setVolume (r.outputVolume 1)
    match lane state with
    | (none, _, _) => ({ r with loadedUrl := none }, [volume, .stop])
    | (some trackId, playing, positionMs) =>
      if !r.on state || !playing then (r, [volume, .setPaused true])
      else
        let url := r.streamUrl trackId
        let startSeconds := nonnegativeSeconds positionMs
        if r.loadedUrl ≠ some url then
          ({ r with loadedUrl := some url, lastEpoch := some state.positionEpoch },
            [volume, .load url startSeconds])
        else if r.epochChanged state then
          ({ r with lastEpoch := some state.positionEpoch },
            [volume, .seekAbsolute startSeconds, .setPaused false])
        else
          ({ r with lastEpoch := some state.positionEpoch }, [volume, .setPaused false])

def beginConnection (r : Reconciler) : Reconciler := { r with hasStateThisConnection := false }

/-- An older state of the same connection is passed over. -/
def accepts (r : Reconciler) (state : PlayerState) : Bool :=
  !(r.hasStateThisConnection && r.state.any fun current => state.revision < current.revision)

/-- A state that is accepted, before what follows from it. -/
def withState (r : Reconciler) (state : PlayerState) : Reconciler :=
  { r with state := some state, hasStateThisConnection := true }

def onState (r : Reconciler) (state : PlayerState) : Reconciler × Bool × List PlaybackCommand :=
  if r.accepts state then
    let result := (r.withState state).reconcile
    (result.1, true, result.2)
  else (r, false, [])

def withLocal (r : Reconciler) (on : Option Bool) (volume : Option ℚ) : Reconciler :=
  { r with localOn := on.getD r.localOn, localVolume := (volume.map clamp01).getD r.localVolume }

def mayReportPosition (r : Reconciler) : Bool :=
  r.state.any fun state =>
    r.localOn && (lane state).2.1 && (lane state).1.isSome &&
      state.activeOutputDeviceIds.contains r.clientId

def setLocal (r : Reconciler) (on : Option Bool) (volume : Option ℚ) :
    Reconciler × List PlaybackCommand := (r.withLocal on volume).reconcile

end Reconciler

/-! ## The player -/

/-- The file that is loaded and its position, and whether a command was refused. -/
structure Mpv where
  loaded : Option (String × ℚ)
  paused : Bool
  volume : ℚ
  refused : Bool
  deriving DecidableEq

namespace Mpv

def idle : Mpv := ⟨none, false, 100, false⟩

/-- The process ends with the first command that is refused. -/
def execute (mpv : Mpv) (command : PlaybackCommand) : Mpv :=
  if mpv.refused then mpv
  else
    match command with
    | .setVolume volume => { mpv with volume := volume * 100 }
    | .load url startSeconds => { mpv with loaded := some (url, max startSeconds 0), paused := false }
    | .setPaused paused => { mpv with paused }
    | .stop => { mpv with loaded := none }
    | .seekAbsolute seconds =>
      match mpv.loaded with
      | some (url, _) => { mpv with loaded := some (url, max seconds 0) }
      | none => { mpv with refused := true }

def executeAll (mpv : Mpv) (commands : List PlaybackCommand) : Mpv := commands.foldl execute mpv

def timePosition (mpv : Mpv) : Mpv :=
  if mpv.loaded.isSome then mpv else { mpv with refused := true }

def advance (mpv : Mpv) (seconds : ℚ) : Mpv :=
  if mpv.paused then mpv
  else { mpv with loaded := mpv.loaded.map fun file => (file.1, file.2 + seconds) }

end Mpv

/-! ## The runtime -/

/-- The lists that wait for the player, what is left of the one being sent, when the last
state came, and how many reports wait for the player to read the position. -/
structure OutputState where
  reconciler : Reconciler
  running : List PlaybackCommand
  waiting : List (List PlaybackCommand)
  mpv : Mpv
  clock : ℚ
  stateAt : ℚ
  reports : ℕ

inductive OutputLabel where
  | connected
  | received (state : PlayerState)
  | localSet (on : Option Bool) (volume : Option ℚ)
  -- a list that waits gets the player
  | started (index : ℕ)
  | executed
  | ended
  | elapsed (seconds : ℚ)
  -- a report is due, and gets the player
  | reportDue
  | reportRead

namespace OutputState

def idle (s : OutputState) : Bool := s.running.isEmpty && s.waiting.isEmpty

def exec (s : OutputState) (label : OutputLabel) : Option OutputState :=
  if s.mpv.refused then none
  else
    match label with
    | .connected => some { s with reconciler := s.reconciler.beginConnection }
    | .received state =>
      match s.reconciler.onState state with
      | (_, false, _) => some s
      | (reconciler, true, commands) =>
        some { s with reconciler, waiting := s.waiting ++ [commands], stateAt := s.clock }
    | .localSet on volume =>
      let result := s.reconciler.setLocal on volume
      some { s with reconciler := result.1, waiting := s.waiting ++ [result.2] }
    | .started index =>
      match s.waiting[index]? with
      | some commands =>
        if s.running.isEmpty then
          some { s with running := commands, waiting := s.waiting.eraseIdx index }
        else none
      | none => none
    | .executed =>
      match s.running with
      | command :: rest => some { s with running := rest, mpv := s.mpv.execute command }
      | [] => none
    | .ended =>
      if s.mpv.loaded.isSome && !s.mpv.paused then
        some { s with mpv := { s.mpv with loaded := none } }
      else none
    | .elapsed seconds =>
      if 0 ≤ seconds then
        some { s with mpv := s.mpv.advance seconds, clock := s.clock + seconds }
      else none
    | .reportDue =>
      some (if s.reconciler.mayReportPosition then { s with reports := s.reports + 1 } else s)
    | .reportRead =>
      if s.reports ≠ 0 && s.running.isEmpty then
        some { s with reports := s.reports - 1, mpv := s.mpv.timePosition }
      else none

end OutputState

def outputSystem : System OutputState OutputLabel where
  init s := ∃ serverUrl clientId respectConsole localOn localVolume,
    s = ⟨.new serverUrl clientId respectConsole localOn localVolume, [], [], .idle, 0, 0, 0⟩
  step s label s' := s.exec label = some s'

/-! ## What the server says -/

inductive Wanted where
  | stopped
  | paused
  | playing (url : String) (startSeconds : ℚ)
  deriving DecidableEq

/-- What the device is to do, from the last state and its own switch. -/
def Reconciler.wanted (r : Reconciler) : Option Wanted :=
  r.state.map fun state =>
    match lane state with
    | (none, _, _) => .stopped
    | (some trackId, playing, positionMs) =>
      if r.on state && playing then
        .playing (r.streamUrl trackId) (nonnegativeSeconds positionMs)
      else .paused

/-- A player does what it is to do; a lane that plays has gone on since the state came. -/
def Mpv.Follows (mpv : Mpv) (r : Reconciler) (since : ℚ) : Prop :=
  ∀ wanted, r.wanted = some wanted →
    mpv.volume = r.outputVolume 1 * 100 ∧
      match wanted with
      | .stopped => mpv.loaded = none
      | .paused => mpv.paused = true
      | .playing url startSeconds =>
        mpv.loaded = some (url, startSeconds + since) ∧ mpv.paused = false

/-- No command was refused; and once all commands are executed, the player follows. -/
def OutputState.Right (s : OutputState) : Prop :=
  s.mpv.refused = false ∧ (s.idle → s.mpv.Follows s.reconciler (s.clock - s.stateAt))

end MusicServer.Output
