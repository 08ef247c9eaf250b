/-
# When the ambient clock ticks

The ambient lane carries an anchor exactly while its track should be advancing: playing,
a track loaded, and no interrupt that silences it.  Every act on the transport keeps
this but one: firing a ducking interrupt leaves the anchor as it finds it, also where it
starts playback or takes over from an interrupt that had silenced the lane.
-/
import MusicServer.Persistence
import MusicServer.Transition
import MusicServer.Transport

namespace MusicServer

open Transition (System)
open Transition.System (states steps)

/-! ## The invariant of the transport -/

/-- The ambient clock ticks exactly while a loaded track should be advancing. -/
def Transport.Steady (t : Transport) : Prop :=
  t.clock.anchor.isSome = (t.isPlaying && t.track.isSome && t.unsilenced)

theorem isSome_anchorAt (t : Transport) (playing : Bool) (now : ℕ) :
    (t.anchorAt playing now).isSome = (playing && t.unsilenced) := by
  unfold Transport.anchorAt
  cases playing && t.unsilenced <;> rfl

/-- A ducking fire keeps the clock steady where there is nothing to start: no track, or
one that is already advancing. -/
def Transport.DuckKeepsClock (t : Transport) (fires : Option Bool) : Prop :=
  fires = some true → t.track = none ∨ (t.isPlaying = true ∧ t.unsilenced = true)

/-- An act keeps a steady transport steady, unless it fires a ducking interrupt over a
lane that should not have been advancing. -/
theorem steady_apply_iff {t : Transport} (ht : t.Steady) (now : ℕ) (act : TransportAct) :
    (t.apply now act).Steady ↔ t.DuckKeepsClock act.fires := by
  unfold Transport.Steady at ht
  have hquiet : act.fires ≠ some true → (t.DuckKeepsClock act.fires ↔ True) := fun hne =>
    ⟨fun _ => trivial, fun _ heq => absurd heq hne⟩
  cases act with
  | stay => exact (iff_true_intro ht).trans (hquiet (by simp [TransportAct.fires])).symm
  | setPlaying playing =>
    refine Iff.trans (iff_true_intro ?_) (hquiet (by simp [TransportAct.fires])).symm
    cases playing with
    | true =>
      by_cases hp : t.isPlaying = true
      · simpa [Transport.apply, hp, Transport.Steady] using ht
      · by_cases htrack : t.track.isSome = true
        · simp [Transport.apply, hp, htrack, Transport.Steady, isSome_anchorAt,
            Transport.unsilenced]
        · simp [Transport.apply, hp, htrack, Transport.Steady, ht]
    | false =>
      by_cases hp : t.isPlaying = true
      · simp [Transport.apply, hp, Transport.Steady]
      · simpa [Transport.apply, hp, Transport.Steady] using ht
  | load track playing position =>
    refine Iff.trans (iff_true_intro ?_) (hquiet (by simp [TransportAct.fires])).symm
    simp only [Transport.apply, Transport.Steady, isSome_anchorAt, Option.isSome_some,
      Bool.and_true]
    rfl
  | unload playing =>
    refine Iff.trans (iff_true_intro ?_) (hquiet (by simp [TransportAct.fires])).symm
    simp [Transport.apply, Transport.Steady]
  | fire track ducks =>
    cases ducks with
    | true =>
      simp only [Transport.apply, Transport.Steady, if_true, Transport.DuckKeepsClock,
        TransportAct.fires, Transport.unsilenced, Option.all_some, Bool.and_true,
        Bool.true_and, forall_const]
      rw [ht]
      cases t.track <;> cases t.isPlaying <;> simp [Transport.unsilenced]
    | false =>
      refine Iff.trans (iff_true_intro ?_) (hquiet (by simp [TransportAct.fires])).symm
      simp [Transport.apply, Transport.Steady, Transport.unsilenced]
  | advance track position =>
    refine Iff.trans (iff_true_intro ?_) (hquiet (by simp [TransportAct.fires])).symm
    simp only [Transport.apply, Transport.Steady, ht, Transport.unsilenced, Option.all_map]
  | endInterrupt returnToAmbient =>
    refine Iff.trans (iff_true_intro ?_) (hquiet (by simp [TransportAct.fires])).symm
    cases returnToAmbient with
    | true =>
      -- Ambient resumes: the anchor of a lane the interrupt silenced is set again.
      cases hp : t.isPlaying <;> cases htrack : t.track <;> cases hanchor : t.clock.anchor <;>
        simp_all [Transport.apply, Transport.Steady, Transport.unsilenced]
    | false => simp [Transport.apply, Transport.Steady]
  | report position =>
    refine Iff.trans (iff_true_intro ?_) (hquiet (by simp [TransportAct.fires])).symm
    cases hi : t.interrupt with
    | some interrupt =>
      simpa [Transport.apply, hi, Transport.Steady, Transport.unsilenced] using ht
    | none => simpa [Transport.apply, hi, Transport.Steady, Transport.unsilenced] using ht

/-! ## Runs of the reducer -/

/-- The reducer as a system: a state with the last monotonic reading, and commands with
their contexts.  Clock samples never go back. -/
def reducerSystem : System (PlaybackState × ℕ) (PlaybackCommand × ReductionContext) where
  init p := p.1 = .default ∨ ∃ persisted : PersistedPlaybackState, persisted.toState = .ok p.1
  step p a p' :=
    p.2 ≤ a.2.clock.monotonicMs ∧ p'.2 = a.2.clock.monotonicMs ∧
      ∃ r, reduce p.1 a.1 a.2 = .ok r ∧ p'.1 = r.nextState

/-- `position_anchor_ms` is set exactly when `ambient_anchor` would tick for a loaded
track. -/
def PlaybackState.AmbientClockTicks (state : PlaybackState) : Prop :=
  state.ambient.positionAnchorMs.isSome ↔
    state.isPlaying ∧ state.ambient.currentTrackId.isSome ∧
      ∀ interrupt, state.interrupt = some interrupt → interrupt.duckTo.isSome

theorem ambientClockTicks_iff (state : PlaybackState) :
    state.AmbientClockTicks ↔ state.transport.Steady := by
  have hsilence : (∀ interrupt, state.interrupt = some interrupt → interrupt.duckTo.isSome) ↔
      state.interrupt.all (·.duckTo.isSome) = true := by
    cases state.interrupt <;> simp
  rw [Transport.Steady, unsilenced_transport, Bool.eq_iff_iff, Bool.and_eq_true,
    Bool.and_eq_true, ← hsilence, and_assoc]
  rfl

/-- A ducking `FireInterruptSequence` comes where no ambient track is loaded, or the one
there is already advancing: playing, and under no interrupt that pauses it. -/
def PlaybackState.DuckKeepsClock (state : PlaybackState) (command : PlaybackCommand) : Prop :=
  command.fires = some true →
    state.ambient.currentTrackId = none ∨
      (state.isPlaying ∧
        ∀ interrupt, state.interrupt = some interrupt → interrupt.duckTo.isSome)

theorem duckKeepsClock_iff (state : PlaybackState) (command : PlaybackCommand) :
    state.DuckKeepsClock command ↔ state.transport.DuckKeepsClock command.fires := by
  have hsilence : (∀ interrupt, state.interrupt = some interrupt → interrupt.duckTo.isSome) ↔
      state.interrupt.all (·.duckTo.isSome) = true := by
    cases state.interrupt <;> simp
  rw [Transport.DuckKeepsClock, unsilenced_transport, ← hsilence]
  rfl

/-- One reduction keeps the clock invariant exactly when it is not a ducking fire over a
lane that was standing still. -/
theorem reduce_ambientClock_iff {s : PlaybackState} {command : PlaybackCommand}
    {context : ReductionContext} {r : Reduction} (hs : s.AmbientClockTicks)
    (h : reduce s command context = .ok r) :
    r.nextState.AmbientClockTicks ↔ s.DuckKeepsClock command := by
  obtain ⟨act, hfires, -, hact⟩ := reduce_transport h
  rw [ambientClockTicks_iff, duckKeepsClock_iff, hact, ← hfires]
  exact steady_apply_iff ((ambientClockTicks_iff s).mp hs) _ act

theorem default_ambientClockTicks : PlaybackState.default.AmbientClockTicks := by
  simp [PlaybackState.AmbientClockTicks, PlaybackState.default, AmbientState.default]

theorem toState_ambientClockTicks {persisted : PersistedPlaybackState} {s : PlaybackState}
    (h : persisted.toState = .ok s) : s.AmbientClockTicks := by
  rw [← toState_normalized h]
  simp [PlaybackState.AmbientClockTicks, PlaybackState.normalizeForStartup]

theorem init_ambientClockTicks {p : PlaybackState × ℕ} (h : reducerSystem.init p) :
    p.1.AmbientClockTicks := by
  rcases h with h | ⟨persisted, h⟩
  · rw [h]
    exact default_ambientClockTicks
  · exact toState_ambientClockTicks h

/-- A run of the reducer keeps the ambient clock invariant in every state exactly when
each of its ducking interrupts is fired where no ambient track is loaded or the loaded
one is advancing. -/
theorem ambientClock_run {p : PlaybackState × ℕ}
    {run : List ((PlaybackCommand × ReductionContext) × (PlaybackState × ℕ))}
    (hinit : reducerSystem.init p) (hrun : reducerSystem.IsRun p run) :
    (∀ q ∈ states p run, q.1.AmbientClockTicks) ↔
      ∀ t ∈ steps p run, t.1.1.DuckKeepsClock t.2.1.1 := by
  refine hrun.forall_states_iff (P := fun q => q.1.AmbientClockTicks)
    (G := fun q a => q.1.DuckKeepsClock a.1) ?_ (init_ambientClockTicks hinit)
  rintro q a q' hq ⟨-, -, r, hr, hnext⟩
  rw [hnext]
  exact reduce_ambientClock_iff hq hr

/-! ## A ducking interrupt over a paused track -/

/-- One step of the reducer, as far as it succeeds. -/
def reducerExec (p : PlaybackState × ℕ) (a : PlaybackCommand × ReductionContext) :
    Option (PlaybackState × ℕ) :=
  if p.2 ≤ a.2.clock.monotonicMs then
    (reduce p.1 a.1 a.2).toOption.map fun r => (r.nextState, a.2.clock.monotonicMs)
  else none

theorem reducerExec_step (p : PlaybackState × ℕ) (a : PlaybackCommand × ReductionContext)
    (p' : PlaybackState × ℕ) (h : reducerExec p a = some p') : reducerSystem.step p a p' := by
  unfold reducerExec at h
  split at h
  · next hclock =>
    obtain ⟨r, hr, rfl⟩ := Option.map_eq_some_iff.mp h
    refine ⟨hclock, rfl, r, ?_, rfl⟩
    cases hreduce : reduce p.1 a.1 a.2 with
    | error error => rw [hreduce] at hr; cases hr
    | ok r' =>
      rw [hreduce] at hr
      cases hr
      rfl
  · cases h

def commandAt (monotonicMs : ℕ) (command : PlaybackCommand) :
    PlaybackCommand × ReductionContext :=
  (command, ⟨⟨monotonicMs, 0, le_refl 0⟩, none⟩)

def duckingFade : InterruptFade where
  returnToAmbient := true
  fadeInMs := 0
  fadeOutMs := 0
  duckTo := some ⟨1 / 4, by norm_num, by norm_num⟩

/-- Play a track, pause it, and fire another as a ducking interrupt. -/
def duckOverPaused : List (PlaybackCommand × ReductionContext) :=
  [commandAt 0 (.ambientPlayTrack ⟨1, Int.one_pos⟩),
   commandAt 1000 (.setPlaying false),
   commandAt 2000 (.fireInterruptSequence [⟨2, TrackId.two_pos⟩] duckingFade)]

instance (t : Transport) : Decidable t.Steady := inferInstanceAs (Decidable (_ = _))

/-- Firing a ducking interrupt while ambient is paused starts playback and leaves the
ambient track standing. -/
theorem ambientClock_not_invariant :
    ¬ ∀ (p : PlaybackState × ℕ)
        (run : List ((PlaybackCommand × ReductionContext) × (PlaybackState × ℕ))),
      reducerSystem.init p → reducerSystem.IsRun p run →
        ∀ q ∈ states p run, q.1.AmbientClockTicks := by
  intro h
  have hrun := Transition.System.isRun_replay reducerExec_step (.default, 0) duckOverPaused
  have hticks := h _ _ (.inl rfl) hrun _ (Transition.System.finish_mem_states _ _)
  rw [ambientClockTicks_iff] at hticks
  revert hticks
  decide +kernel

/-- The condition at work: without the pause, the ducking interrupt of the same commands
keeps the clock. -/
theorem ambientClock_run_duckOverPlaying :
    (∀ q ∈ states (PlaybackState.default, 0)
        (Transition.System.replay reducerExec (.default, 0)
          (duckOverPaused.eraseIdx 1)), q.1.AmbientClockTicks) ↔
      ∀ t ∈ steps (PlaybackState.default, 0)
        (Transition.System.replay reducerExec (.default, 0)
          (duckOverPaused.eraseIdx 1)), t.1.1.DuckKeepsClock t.2.1.1 :=
  ambientClock_run (.inl rfl) (Transition.System.isRun_replay reducerExec_step _ _)

end MusicServer
