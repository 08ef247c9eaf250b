/-
# What the headless output plays

`settled` is the player after everything that waits has been sent in turn.  It follows the
server as long as every step is `Careful`: a file the reconciler remembers is still there and
where the server is, a load or a seek is made with a state that has just come, a file is loaded
when its position is read, and a file that ends, like all that happens before the commands are
sent, changes nothing of what they lead to.
-/
import MusicServer.OutputReconciler

namespace MusicServer.Output

open Protocol Transition

/-! ## Careful steps -/

def OutputState.settled (s : OutputState) : Mpv :=
  s.mpv.executeAll (s.running ++ s.waiting.flatten)

/-- Two players that do the same of what is wanted. -/
def Mpv.Same (wanted : Option Wanted) (mpv other : Mpv) : Bool :=
  mpv.refused = other.refused && mpv.paused = other.paused && mpv.volume = other.volume &&
    (wanted = some .paused || mpv.loaded = other.loaded)

/-- Commands computed for a lane that plays lead to it: a load or a seek with a state that came
just now; a seek or a mere resumption with the remembered file still loaded, and the latter with
its position the server's. -/
def Reconciler.Ready (r : Reconciler) (mpv : Mpv) (since : ℚ) : Bool :=
  match r.state, r.wanted with
  | some state, some (.playing url startSeconds) =>
    if r.loadedUrl ≠ some url then since = 0
    else if r.epochChanged state then mpv.loaded.any (fun file => file.1 = url) && since = 0
    else mpv.loaded = some (url, startSeconds + since)
  | _, _ => true

def OutputState.Careful (s : OutputState) : OutputLabel → Bool
  | .received state =>
    !s.reconciler.accepts state || (s.reconciler.withState state).Ready s.settled 0
  | .localSet on volume =>
    (s.reconciler.withLocal on volume).Ready s.settled (s.clock - s.stateAt)
  | .started index =>
    (s.mpv.executeAll ((s.waiting[index]?).getD [] ++ (s.waiting.eraseIdx index).flatten)).Same
      s.reconciler.wanted s.settled
  | .ended =>
    ({ s with mpv := { s.mpv with loaded := none } } : OutputState).settled.Same
      s.reconciler.wanted s.settled
  | .elapsed seconds =>
    s.idle || ({ s with mpv := s.mpv.advance seconds } : OutputState).settled.Same
      s.reconciler.wanted (s.settled.advance seconds)
  | .reportRead => s.mpv.loaded.isSome
  | _ => true

/-! ## Commands -/

namespace Mpv

variable {mpv other : Mpv} {r : Reconciler} {since : ℚ}

theorem executeAll_append (mpv : Mpv) (first second : List PlaybackCommand) :
    mpv.executeAll (first ++ second) = (mpv.executeAll first).executeAll second :=
  List.foldl_append

theorem executeAll_refused (h : mpv.refused = true) (commands : List PlaybackCommand) :
    (mpv.executeAll commands).refused = true := by
  induction commands generalizing mpv with
  | nil => exact h
  | cons command rest ih =>
    have hstays : mpv.execute command = mpv := if_pos h
    show ((mpv.execute command).executeAll rest).refused = true
    rw [hstays]
    exact ih h

theorem Follows.of_same (h : other.Follows r since) (hsame : mpv.Same r.wanted other) :
    mpv.Follows r since := by
  intro wanted hwanted
  obtain ⟨hvolume, htarget⟩ := h wanted hwanted
  unfold Same at hsame
  rw [hwanted] at hsame
  simp only [Bool.and_eq_true, Bool.or_eq_true, decide_eq_true_eq] at hsame
  obtain ⟨⟨⟨-, hpaused⟩, hsamevolume⟩, hloaded⟩ := hsame
  refine ⟨hsamevolume.trans hvolume, ?_⟩
  cases wanted with
  | stopped =>
    have hloaded : mpv.loaded = other.loaded := hloaded.resolve_left (by simp)
    exact hloaded.trans htarget
  | paused => exact hpaused.trans htarget
  | playing url startSeconds =>
    have hloaded : mpv.loaded = other.loaded := hloaded.resolve_left (by simp)
    exact ⟨hloaded.trans htarget.1, hpaused.trans htarget.2⟩

theorem refused_of_same (hsame : mpv.Same r.wanted other) : mpv.refused = other.refused := by
  unfold Same at hsame
  simp only [Bool.and_eq_true, decide_eq_true_eq] at hsame
  exact hsame.1.1.1

theorem Follows.advance (h : mpv.Follows r since) (seconds : ℚ) :
    (mpv.advance seconds).Follows r (since + seconds) := by
  intro wanted hwanted
  obtain ⟨hvolume, htarget⟩ := h wanted hwanted
  unfold Mpv.advance
  cases wanted with
  | stopped =>
    have hloaded : mpv.loaded = none := htarget
    split
    · exact ⟨hvolume, hloaded⟩
    · exact ⟨hvolume, by rw [hloaded]; rfl⟩
  | paused =>
    have hpaused : mpv.paused = true := htarget
    rw [if_pos hpaused]
    exact ⟨hvolume, hpaused⟩
  | playing url startSeconds =>
    obtain ⟨hloaded, hpaused⟩ := htarget
    rw [if_neg (by simp [hpaused])]
    refine ⟨hvolume, ?_, hpaused⟩
    show mpv.loaded.map _ = _
    rw [hloaded]
    show some (url, startSeconds + since + seconds) = _
    rw [add_assoc]

theorem refused_advance (seconds : ℚ) : (mpv.advance seconds).refused = mpv.refused := by
  unfold Mpv.advance
  split <;> rfl

end Mpv

theorem nonnegativeSeconds_nonneg (positionMs : ℤ) : 0 ≤ nonnegativeSeconds positionMs := by
  unfold nonnegativeSeconds
  have hmax : (0 : ℤ) ≤ max positionMs 0 := le_max_right _ _
  positivity

theorem reconcile_cases (r : Reconciler) {state : PlayerState} (hstate : r.state = some state) :
    (r.wanted = some .stopped ∧ r.reconcile =
      ({ r with loadedUrl := none }, [.setVolume (r.outputVolume 1), .stop])) ∨
    (r.wanted = some .paused ∧
      r.reconcile = (r, [.setVolume (r.outputVolume 1), .setPaused true])) ∨
    ∃ url startSeconds, 0 ≤ startSeconds ∧ r.wanted = some (.playing url startSeconds) ∧
      r.reconcile =
        if r.loadedUrl ≠ some url then
          ({ r with loadedUrl := some url, lastEpoch := some state.positionEpoch },
            [.setVolume (r.outputVolume 1), .load url startSeconds])
        else if r.epochChanged state then
          ({ r with lastEpoch := some state.positionEpoch },
            [.setVolume (r.outputVolume 1), .seekAbsolute startSeconds, .setPaused false])
        else
          ({ r with lastEpoch := some state.positionEpoch },
            [.setVolume (r.outputVolume 1), .setPaused false]) := by
  unfold Reconciler.wanted Reconciler.reconcile
  rw [hstate]
  dsimp only [Option.map_some]
  rcases lane state with ⟨track, playing, positionMs⟩
  cases track with
  | none => exact .inl ⟨rfl, rfl⟩
  | some trackId =>
    dsimp only
    by_cases hplays : r.on state && playing
    · have hon : ¬ (!r.on state || !playing) := by simpa using hplays
      rw [if_pos hplays, if_neg hon]
      exact .inr (.inr ⟨_, _, nonnegativeSeconds_nonneg positionMs, rfl, rfl⟩)
    · have hoff : !r.on state || !playing := by
        rw [← Bool.not_and, Bool.not_eq_true']
        exact Bool.eq_false_iff.mpr hplays
      rw [if_neg hplays, if_pos hoff]
      exact .inr (.inl ⟨rfl, rfl⟩)

/-- A second reconciliation leaves the player as it is, wherever the file has got to by then. -/
theorem reconcile_settles (r : Reconciler) : ∃ commands,
    r.reconcile.1.reconcile = (r.reconcile.1, commands) ∧ ∀ (mpv : Mpv) seconds,
      ((mpv.executeAll r.reconcile.2).advance seconds).executeAll commands =
        (mpv.executeAll r.reconcile.2).advance seconds := by
  cases hstate : r.state with
  | none =>
    refine ⟨[], ?_, fun _ _ => rfl⟩
    simp only [Reconciler.reconcile, hstate]
  | some state =>
    rcases hlane : lane state with ⟨_ | trackId, playing, positionMs⟩
    · refine ⟨[.setVolume (r.outputVolume 1), .stop], ?_, ?_⟩ <;>
        simp only [Reconciler.reconcile, hstate, hlane, Reconciler.outputVolume]
      rintro ⟨loaded, _ | _, volume, _ | _⟩ seconds <;>
        simp [Mpv.executeAll, Mpv.execute, Mpv.advance]
    by_cases hoff : !r.on state || !playing
    · have hpaused : r.reconcile = (r, [.setVolume (r.outputVolume 1), .setPaused true]) := by
        simp only [Reconciler.reconcile, hstate, hlane, if_pos hoff]
      rw [hpaused]
      refine ⟨_, hpaused, ?_⟩
      rintro ⟨loaded, _ | _, volume, _ | _⟩ seconds <;>
        simp [Mpv.executeAll, Mpv.execute, Mpv.advance]
    · refine ⟨[.setVolume (r.outputVolume 1), .setPaused false], ?_, ?_⟩ <;>
        simp only [Reconciler.reconcile, hstate, hlane, if_neg hoff]
      · split_ifs <;> simp_all [Reconciler.on, Reconciler.outputVolume, Reconciler.streamUrl,
          Reconciler.epochChanged]
      · rintro ⟨_ | loaded, _ | _, volume, _ | _⟩ seconds <;> split_ifs <;>
          simp [Mpv.executeAll, Mpv.execute, Mpv.advance]

theorem follows_reconcile {r : Reconciler} {mpv : Mpv} {since : ℚ} (hready : r.Ready mpv since)
    (hrefused : mpv.refused = false) :
    (mpv.executeAll r.reconcile.2).refused = false ∧
      (mpv.executeAll r.reconcile.2).Follows r.reconcile.1 since := by
  obtain ⟨loaded, paused, volume, refused⟩ := mpv
  have hrefused : refused = false := hrefused
  subst hrefused
  cases hstate : r.state with
  | none =>
    have hnothing : r.reconcile = (r, []) := by
      unfold Reconciler.reconcile
      rw [hstate]
    rw [hnothing]
    refine ⟨rfl, fun wanted hwanted => ?_⟩
    unfold Reconciler.wanted at hwanted
    rw [hstate] at hwanted
    cases hwanted
  | some state =>
    rcases reconcile_cases r hstate with ⟨hwanted, heq⟩ | ⟨hwanted, heq⟩ |
      ⟨url, startSeconds, hstart, hwanted, heq⟩
    · rw [heq]
      refine ⟨rfl, fun wanted h => ?_⟩
      obtain rfl := Option.some.inj (hwanted.symm.trans h)
      exact ⟨rfl, rfl⟩
    · rw [heq]
      refine ⟨rfl, fun wanted h => ?_⟩
      obtain rfl := Option.some.inj (hwanted.symm.trans h)
      exact ⟨rfl, rfl⟩
    · unfold Reconciler.Ready at hready
      rw [hstate, hwanted] at hready
      dsimp only at hready
      have hzero : max startSeconds 0 = startSeconds := max_eq_left hstart
      rw [heq]
      split at hready
      · next hload =>
        have hsince : since = 0 := by simpa using hready
        rw [if_pos hload]
        refine ⟨rfl, fun wanted h => ?_⟩
        obtain rfl := Option.some.inj (hwanted.symm.trans h)
        refine ⟨rfl, ?_, rfl⟩
        show some (url, max startSeconds 0) = _
        rw [hzero, hsince, add_zero]
      · next hkeep =>
        rw [if_neg hkeep]
        split at hready
        · next hseek =>
          obtain ⟨hfile, hsince⟩ := Bool.and_eq_true_iff.mp hready
          have hsince : since = 0 := by simpa using hsince
          rw [if_pos hseek]
          cases loaded with
          | none => cases hfile
          | some file =>
            obtain ⟨name, position⟩ := file
            have hname : name = url := by simpa using hfile
            subst hname
            refine ⟨rfl, fun wanted h => ?_⟩
            obtain rfl := Option.some.inj (hwanted.symm.trans h)
            refine ⟨rfl, ?_, rfl⟩
            show some (name, max startSeconds 0) = _
            rw [hzero, hsince, add_zero]
        · next hresume =>
          have hloaded : loaded = some (url, startSeconds + since) := by simpa using hready
          rw [if_neg hresume]
          refine ⟨rfl, fun wanted h => ?_⟩
          obtain rfl := Option.some.inj (hwanted.symm.trans h)
          exact ⟨rfl, hloaded, rfl⟩

theorem ready_of_follows {r : Reconciler} {mpv : Mpv} {since : ℚ} (hrefused : mpv.refused = false)
    (htaken : (mpv.executeAll r.reconcile.2).refused = false)
    (hfollows : (mpv.executeAll r.reconcile.2).Follows r.reconcile.1 since) :
    r.Ready mpv since := by
  obtain ⟨loaded, paused, volume, refused⟩ := mpv
  have hrefused : refused = false := hrefused
  subst hrefused
  unfold Reconciler.Ready
  cases hstate : r.state with
  | none => rfl
  | some state =>
    rcases reconcile_cases r hstate with ⟨hwanted, heq⟩ | ⟨hwanted, heq⟩ |
      ⟨url, startSeconds, hstart, hwanted, heq⟩
    · rw [hwanted]
    · rw [hwanted]
    · have hzero : max startSeconds 0 = startSeconds := max_eq_left hstart
      rw [hwanted]
      dsimp only
      rw [heq] at htaken hfollows
      split
      · next hload =>
        rw [if_pos hload] at hfollows
        obtain ⟨-, hloaded, -⟩ := hfollows _ hwanted
        have hloaded : some (url, max startSeconds 0) = some (url, startSeconds + since) := hloaded
        have hposition := (Prod.mk.inj (Option.some.inj hloaded)).2
        rw [hzero] at hposition
        simpa using hposition
      · next hkeep =>
        rw [if_neg hkeep] at htaken hfollows
        split
        · next hseek =>
          rw [if_pos hseek] at htaken hfollows
          cases loaded with
          | none => cases htaken
          | some file =>
            obtain ⟨name, position⟩ := file
            obtain ⟨-, hloaded, -⟩ := hfollows _ hwanted
            have hloaded : some (name, max startSeconds 0) = some (url, startSeconds + since) :=
              hloaded
            obtain ⟨hname, hposition⟩ := Prod.mk.inj (Option.some.inj hloaded)
            rw [hzero] at hposition
            have hsince : since = 0 := by simpa using hposition
            simp [hname, hsince]
        · next hresume =>
          rw [if_neg hresume] at hfollows
          obtain ⟨-, hloaded, -⟩ := hfollows _ hwanted
          have hloaded : loaded = some (url, startSeconds + since) := hloaded
          simpa using hloaded

theorem ready_iff {r : Reconciler} {mpv : Mpv} {since : ℚ} (hrefused : mpv.refused = false) :
    r.Ready mpv since ↔ (mpv.executeAll r.reconcile.2).refused = false ∧
      (mpv.executeAll r.reconcile.2).Follows r.reconcile.1 since :=
  ⟨fun hready => follows_reconcile hready hrefused,
    fun h => ready_of_follows hrefused h.1 h.2⟩

/-! ## Steps -/

namespace OutputState

variable {s s' : OutputState} {label : OutputLabel}

/-- What holds while every step is careful. -/
structure Sound (s : OutputState) : Prop where
  taken : s.settled.refused = false
  follows : s.settled.Follows s.reconciler (s.clock - s.stateAt)

theorem settled_of_idle (h : s.idle) : s.settled = s.mpv := by
  unfold OutputState.idle at h
  obtain ⟨hrunning, hwaiting⟩ := Bool.and_eq_true_iff.mp h
  unfold settled
  rw [List.isEmpty_iff.mp hrunning, List.isEmpty_iff.mp hwaiting]
  rfl

theorem Sound.right (h : s.Sound) : s.Right := by
  constructor
  · by_contra hrefused
    have hrefused : s.mpv.refused = true := by simpa using hrefused
    have hsettled : s.settled.refused = true := Mpv.executeAll_refused hrefused _
    rw [h.taken] at hsettled
    cases hsettled
  · intro hidle
    have hfollows := h.follows
    rwa [settled_of_idle hidle] at hfollows

theorem wanted_of_mayReport {r : Reconciler} (h : r.mayReportPosition) :
    ∃ url startSeconds, r.wanted = some (.playing url startSeconds) := by
  unfold Reconciler.mayReportPosition at h
  obtain ⟨state, hstate, h⟩ := (Option.any_eq_true ..).mp h
  unfold Reconciler.wanted
  rw [hstate, Option.map_some]
  simp only [Bool.and_eq_true] at h
  obtain ⟨⟨⟨hon, hplaying⟩, htrack⟩, hactive⟩ := h
  rcases hlane : lane state with ⟨_ | trackId, playing, positionMs⟩
  · rw [hlane] at htrack
    cases htrack
  · rw [hlane] at hplaying
    refine ⟨r.streamUrl trackId, nonnegativeSeconds positionMs, ?_⟩
    have hon : (r.on state && playing) = true := by
      simp only [Reconciler.on, hon, hactive, Bool.or_true, Bool.and_self, Bool.true_and]
      exact hplaying
    dsimp only
    rw [if_pos hon]

theorem Sound.readable (h : s.Sound) (hidle : s.idle) (hreport : s.reconciler.mayReportPosition) :
    s.mpv.loaded.isSome := by
  obtain ⟨url, startSeconds, hwanted⟩ := wanted_of_mayReport hreport
  obtain ⟨-, hloaded, -⟩ := h.right.2 hidle _ hwanted
  rw [hloaded]
  rfl

theorem Sound.push (h : s.Sound) {r : Reconciler} {stateAt : ℚ}
    (hready : r.Ready s.settled (s.clock - stateAt)) :
    ({ s with
        reconciler := r.reconcile.1, waiting := s.waiting ++ [r.reconcile.2]
        stateAt := stateAt } : OutputState).Sound := by
  have hsettled : ({ s with
      reconciler := r.reconcile.1, waiting := s.waiting ++ [r.reconcile.2]
      stateAt := stateAt } : OutputState).settled = s.settled.executeAll r.reconcile.2 := by
    unfold settled
    rw [List.flatten_append, List.flatten_singleton, ← List.append_assoc, Mpv.executeAll_append]
  obtain ⟨htaken, hfollows⟩ := (ready_iff h.taken).mp hready
  exact ⟨by rwa [hsettled], by rwa [hsettled]⟩

theorem Sound.exec (h : s.Sound) (hcareful : s.Careful label) (hstep : s.exec label = some s') :
    s'.Sound := by
  unfold OutputState.exec at hstep
  split at hstep
  · cases hstep
  · cases label with
    | connected =>
      cases hstep
      exact ⟨h.taken, h.follows⟩
    | received state =>
      simp only [Reconciler.onState] at hstep
      by_cases haccepts : s.reconciler.accepts state
      · rw [if_pos haccepts] at hstep
        cases hstep
        have hready : (!s.reconciler.accepts state ||
            (s.reconciler.withState state).Ready s.settled 0) = true := hcareful
        rw [haccepts, Bool.not_true, Bool.false_or] at hready
        refine h.push ?_
        rwa [sub_self]
      · rw [if_neg haccepts] at hstep
        cases hstep
        exact h
    | localSet on volume =>
      cases hstep
      exact h.push hcareful
    | started index =>
      simp only at hstep
      split at hstep
      · next commands hcommands =>
        split at hstep
        · next hfree =>
          cases hstep
          have hsame : (OutputState.settled { s with
              running := commands, waiting := s.waiting.eraseIdx index }).Same
              s.reconciler.wanted s.settled := by
            have hcommon : ((s.mpv.executeAll ((s.waiting[index]?).getD [] ++
                (s.waiting.eraseIdx index).flatten)).Same s.reconciler.wanted s.settled) = true :=
              hcareful
            rw [hcommands] at hcommon
            exact hcommon
          refine ⟨?_, h.follows.of_same hsame⟩
          rw [Mpv.refused_of_same hsame]
          exact h.taken
        · cases hstep
      · cases hstep
    | executed =>
      simp only at hstep
      split at hstep
      · next command rest hrunning =>
        cases hstep
        have hsettled : ({ s with running := rest, mpv := s.mpv.execute command } :
            OutputState).settled = s.settled := by
          unfold settled
          rw [hrunning]
          rfl
        constructor
        · rw [hsettled]
          exact h.taken
        · rw [hsettled]
          exact h.follows
      · cases hstep
    | ended =>
      simp only at hstep
      split at hstep
      · cases hstep
        have hsame : (OutputState.settled { s with mpv := { s.mpv with loaded := none } }).Same
            s.reconciler.wanted s.settled := hcareful
        exact ⟨(Mpv.refused_of_same hsame).trans h.taken, h.follows.of_same hsame⟩
      · cases hstep
    | elapsed seconds =>
      simp only at hstep
      split at hstep
      · cases hstep
        have htime : s.clock + seconds - s.stateAt = s.clock - s.stateAt + seconds := by ring
        by_cases hidle : s.idle
        · have hsettled : (OutputState.settled { s with
              mpv := s.mpv.advance seconds, clock := s.clock + seconds }) =
              s.settled.advance seconds := by
            rw [settled_of_idle (s := { s with
              mpv := s.mpv.advance seconds, clock := s.clock + seconds }) hidle,
              settled_of_idle hidle]
          constructor
          · rw [hsettled, Mpv.refused_advance]
            exact h.taken
          · show Mpv.Follows _ s.reconciler (s.clock + seconds - s.stateAt)
            rw [hsettled, htime]
            exact h.follows.advance seconds
        · have hnotidle : s.idle = false := by simpa using hidle
          have hsame : (OutputState.settled { s with mpv := s.mpv.advance seconds }).Same
              s.reconciler.wanted (s.settled.advance seconds) := by
            have hboth : (s.idle || (OutputState.settled { s with
              mpv := s.mpv.advance seconds }).Same s.reconciler.wanted
                (s.settled.advance seconds)) = true := hcareful
            rwa [hnotidle, Bool.false_or] at hboth
          constructor
          · exact (Mpv.refused_of_same hsame).trans ((Mpv.refused_advance seconds).trans h.taken)
          · show Mpv.Follows _ s.reconciler (s.clock + seconds - s.stateAt)
            rw [htime]
            exact (h.follows.advance seconds).of_same hsame
      · cases hstep
    | reportDue =>
      simp only at hstep
      split at hstep
      · cases hstep
        exact ⟨h.taken, h.follows⟩
      · cases hstep
        exact h
    | reportRead =>
      simp only at hstep
      split at hstep
      · cases hstep
        have hread : s.mpv.timePosition = s.mpv := if_pos hcareful
        rw [hread]
        exact ⟨h.taken, h.follows⟩
      · cases hstep

end OutputState

/-! ## Runs -/

/-- One track is played, from this position. -/
def playingState (revision epoch trackId positionMs : ℤ) : PlayerState where
  revision := revision
  positionEpoch := epoch
  isPlaying := true
  activeModeId := none
  activeOutputDeviceIds := ["device"]
  multipleOutputs := false
  defaultDeviceVolume := 1
  deviceVolumes := ∅
  activeSoundboardId := none
  activePresetIds := []
  presetRevision := 0
  crossfadeMs := 0
  crossfadeType := .equalPower
  ambient := ⟨some trackId, [], [], positionMs, none, .track, .off, none⟩
  interrupt := none
  loopingSfx := []
  lastPositionReport := none
  connectedDevices := []

def startState : OutputState :=
  ⟨.new "http://music.test/" "device" false true 1, [], [], .idle, 0, 0, 0⟩

def outputRun (labels : List OutputLabel) : List (OutputLabel × OutputState) :=
  System.replay OutputState.exec startState labels

theorem outputRun_isRun (labels : List OutputLabel) :
    outputSystem.IsRun startState (outputRun labels) :=
  System.isRun_replay (fun _ _ _ h => h) _ labels

/-- A track is played and its position reported, the device switched off, and on again as the
next track comes. -/
def switchingLabels : List OutputLabel :=
  [.received (playingState 1 2 7 5000), .started 0, .executed, .executed, .elapsed 20,
    .reportDue, .reportRead, .localSet (some false) none, .started 0, .executed, .executed,
    .elapsed 30, .received (playingState 2 3 8 0), .localSet (some true) none, .started 0,
    .executed, .executed, .started 0, .executed, .executed, .elapsed 4, .reportDue]

/-- A track reaches its end; the server starts it again. -/
def loopingLabels : List OutputLabel :=
  [.received (playingState 1 2 7 5000), .started 0, .executed, .executed, .elapsed 30, .ended,
    .received (playingState 2 3 7 0), .started 0, .executed, .executed]

end MusicServer.Output
