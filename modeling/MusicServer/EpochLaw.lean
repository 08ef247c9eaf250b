/-
# The epoch law

Outputs seek when the position epoch changes and at no other time.  So a reduction that
keeps the epoch must not move what they hear: at the instant of the reduction both lanes
show the same track at the same position as before.  The one act that would break this
is a resume over a running anchor, and the auxiliary invariant `Transport.Rests` rules
it out: an ambient lane that is not playing carries no anchor.
-/
import MusicServer.Catalog
import MusicServer.Persistence
import MusicServer.Transition
import MusicServer.Transport

namespace MusicServer

open DeadReckoning (Clock)
open Transition (System)

/-! ## What the transport shows -/

/-- A listener at `now` finds both lanes where they were. -/
structure Transport.SameReading (now : ℕ) (t t' : Transport) : Prop where
  track : t'.track = t.track
  position : t'.clock.read maxPositionMs now = t.clock.read maxPositionMs now
  interruptTrack : t'.interrupt.map (·.track) = t.interrupt.map (·.track)
  interruptPosition : t'.interrupt.map (·.clock.read maxPositionMs now) =
    t.interrupt.map (·.clock.read maxPositionMs now)

theorem Transport.SameReading.refl (now : ℕ) (t : Transport) : t.SameReading now t :=
  ⟨rfl, rfl, rfl, rfl⟩

/-- An ambient lane that is not playing stands still. -/
def Transport.Rests (t : Transport) : Prop :=
  t.isPlaying = false → t.clock.anchor = none

theorem apply_epoch_law {t : Transport} (ht : t.Rests) (now : ℕ) {act : TransportAct}
    (hact : act.isReport = false) :
    ((t.apply now act).epoch = t.epoch ∧ t.SameReading now (t.apply now act)) ∨
      (t.apply now act).epoch = t.epoch + 1 := by
  cases act with
  | stay => exact .inl ⟨rfl, .refl now t⟩
  | setPlaying playing =>
    refine .inl ?_
    cases hp : t.isPlaying <;> cases playing
    · simp only [Transport.apply, hp]
      exact ⟨rfl, .refl now t⟩
    · -- A resume finds no anchor to drop.
      have hstopped : t.clock.anchor = none := ht hp
      by_cases htrack : t.track.isSome = true
      · simp only [Transport.apply, hp, htrack, if_true]
        refine ⟨rfl, rfl, ?_, rfl, rfl⟩
        change Clock.read maxPositionMs ⟨t.clock.position, t.anchorAt true now⟩ now = _
        unfold Transport.anchorAt
        cases t.unsilenced with
        | true => exact Clock.read_start hstopped now
        | false =>
          have hclock : t.clock = ⟨t.clock.position, none⟩ := by rw [← hstopped]
          rw [hclock]
          rfl
      · simp only [Transport.apply, hp, htrack]
        exact ⟨rfl, rfl, rfl, rfl, rfl⟩
    · simp only [Transport.apply, hp, if_true]
      exact ⟨trivial, rfl, Clock.read_freeze t.clock now now, rfl, rfl⟩
    · simp only [Transport.apply, hp, if_true]
      exact ⟨trivial, .refl now t⟩
  | load track playing position | unload playing | fire track ducks | advance track position =>
    exact .inr rfl
  | endInterrupt returnToAmbient => cases returnToAmbient <;> exact .inr rfl
  | report position => cases hact

theorem rests_apply {t : Transport} (ht : t.Rests) (now : ℕ) (act : TransportAct) :
    (t.apply now act).Rests := by
  unfold Transport.Rests at ht ⊢
  cases act with
  | stay => exact ht
  | setPlaying playing =>
    cases hp : t.isPlaying <;> cases playing <;> cases htrack : t.track.isSome <;>
      simp_all [Transport.apply]
  | load track playing position =>
    rintro (rfl : playing = false)
    rfl
  | unload playing => exact fun _ => rfl
  | fire track ducks => rintro ⟨⟩
  | advance track position => exact ht
  | endInterrupt returnToAmbient =>
    cases returnToAmbient with
    | true =>
      intro hp
      have hp' : t.isPlaying = false := hp
      simp [Transport.apply, hp', ht hp']
    | false => exact fun _ => rfl
  | report position =>
    cases hi : t.interrupt with
    | some interrupt => simpa only [Transport.apply, hi] using ht
    | none =>
      simp only [Transport.apply, hi]
      intro hp
      rw [ht hp]
      rfl

/-! ## Pruning, as the transport sees it -/

/-- Take an ambient track off that a catalog does not know. -/
def Transport.pruneAmbient (known : TrackId → Bool) (t : Transport) : Transport :=
  if t.track.any fun track => !known track then
    { t with isPlaying := false, track := none, clock := ⟨0, none⟩ }
  else t

/-- Drop an interrupt whose track a catalog does not know; ambient resumes. -/
def Transport.pruneInterrupt (known : TrackId → Bool) (now : ℕ) (t : Transport) : Transport :=
  if t.interrupt.any fun interrupt => !known interrupt.track then
    { t with
      interrupt := none
      clock :=
        if t.isPlaying && t.track.isSome then ⟨t.clock.position, some now⟩ else t.clock }
  else t

def Transport.prune (known : TrackId → Bool) (now : ℕ) (t : Transport) : Transport :=
  (t.pruneAmbient known).pruneInterrupt known now

def CatalogSnapshot.knows (catalog : CatalogSnapshot) (track : TrackId) : Bool :=
  catalog.tracks.all (·.contains track)

theorem pruneAmbient_transport (s : PlaybackState) (tracks : BTreeMap TrackId CatalogTrack) :
    (pruneAmbient s tracks).1.transport = s.transport.pruneAmbient tracks.contains := by
  by_cases hgone : (s.ambient.currentTrackId.any fun track => !tracks.contains track) = true
  · simp only [pruneAmbient, Transport.pruneAmbient, PlaybackState.transport, hgone, if_true]
    rfl
  · simp only [pruneAmbient, Transport.pruneAmbient, PlaybackState.transport, hgone]
    rfl

theorem pruneInterrupt_transport (s : PlaybackState) (tracks : BTreeMap TrackId CatalogTrack)
    (now : ℕ) : (pruneInterrupt s tracks now).1.transport =
      s.transport.pruneInterrupt tracks.contains now := by
  cases hi : s.interrupt with
  | none => simp [pruneInterrupt, Transport.pruneInterrupt, PlaybackState.transport, hi]
  | some interrupt =>
    by_cases hknown : tracks.contains interrupt.currentTrackId = true
    · simp [pruneInterrupt, Transport.pruneInterrupt, PlaybackState.transport, hi,
        InterruptState.view, hknown, InterruptState.clock]
    · by_cases hresume : (s.isPlaying && s.ambient.currentTrackId.isSome) = true
      · simp [pruneInterrupt, Transport.pruneInterrupt, PlaybackState.transport, hi,
          InterruptState.view, hknown, hresume, AmbientState.clock]
      · simp [pruneInterrupt, Transport.pruneInterrupt, PlaybackState.transport, hi,
          InterruptState.view, hknown, hresume]

theorem pruneTracks_transport (s : PlaybackState)
    (tracks : BTreeMap TrackId CatalogTrack) (now : ℕ) :
    (pruneTracks s (some tracks) now).1.transport = s.transport.prune tracks.contains now := by
  simp only [pruneTracks, Transport.prune]
  rw [pruneInterrupt_transport, pruneAmbient_transport]

theorem applyOutputPolicy_transport (s : PlaybackState) (multipleOutputs : Bool) :
    (s.applyOutputPolicy multipleOutputs).1.transport = s.transport := by
  unfold PlaybackState.applyOutputPolicy
  simp only
  split <;> rfl

theorem pruneModes_transport (s : PlaybackState)
    (modes : Option (BTreeMap String CatalogMode)) :
    (pruneModes s modes).1.transport = s.transport := by
  cases modes with
  | none => rfl
  | some modes =>
    have hactive : (pruneActiveMode s modes).1.transport = s.transport := by
      unfold pruneActiveMode
      split <;> rfl
    simp only [pruneModes]
    rw [applyOutputPolicy_transport]
    exact hactive

theorem pruneForCatalog_transport {s : PlaybackState} {catalog : CatalogSnapshot} {now : ℕ}
    {presets : Bool} {r : PlaybackState × Bool}
    (h : pruneForCatalog s catalog now presets = .ok r) :
    r.1.transport = s.transport.prune catalog.knows now := by
  obtain ⟨revision, hr, -⟩ := pruneForCatalog_eq h
  have hmodes : r.1.transport = (pruneTracks s catalog.tracks now).1.transport := by
    rw [hr, ← pruneModes_transport (pruneTracks s catalog.tracks now).1 catalog.modes]
    rfl
  rw [hmodes]
  unfold CatalogSnapshot.knows
  cases catalog.tracks with
  | none => simp [pruneTracks, Transport.prune, Transport.pruneAmbient, Transport.pruneInterrupt]
  | some tracks => exact pruneTracks_transport s tracks now

theorem rests_prune {t : Transport} (ht : t.Rests) (known : TrackId → Bool) (now : ℕ) :
    (t.prune known now).Rests := by
  have hambient : (t.pruneAmbient known).Rests := by
    unfold Transport.pruneAmbient
    split
    · exact fun _ => rfl
    · exact ht
  unfold Transport.prune Transport.pruneInterrupt
  split
  · intro hp
    have hp' : (t.pruneAmbient known).isPlaying = false := hp
    simp [hp', hambient hp']
  · exact hambient

/-! ## The states playback can be in -/

/-- What happens to the live state: commands, catalog replacements, the output policy
that goes with a mode, and publications. -/
inductive LiveEvent where
  | command (command : PlaybackCommand) (context : ReductionContext)
  | prune (catalog : CatalogSnapshot) (nowMs : ℕ) (activePresetContentChanged : Bool)
  | outputPolicy (multipleOutputs : Bool)
  | published (publicationRevision : ℕ)

/-- The live playback state as a system, from the default or a decoded state. -/
def liveSystem : System PlaybackState LiveEvent where
  init s := s = .default ∨ ∃ persisted : PersistedPlaybackState, persisted.toState = .ok s
  step s event s' :=
    match event with
    | .command command context => ∃ r, reduce s command context = .ok r ∧ s' = r.nextState
    | .prune catalog nowMs presets =>
      ∃ r, pruneForCatalog s catalog nowMs presets = .ok r ∧ s' = r.1
    | .outputPolicy multipleOutputs => s' = (s.applyOutputPolicy multipleOutputs).1
    | .published publicationRevision => s' = { s with publicationRevision }

/-- In every state playback can be in, an ambient lane that is not playing stands
still. -/
theorem live_rests {s : PlaybackState} (hs : liveSystem.Reachable s) : s.transport.Rests := by
  refine hs.invariant (P := fun s => s.transport.Rests) ?_ ?_
  · rintro s (rfl | ⟨persisted, hpersisted⟩)
    · exact fun _ => rfl
    · rw [← toState_normalized hpersisted]
      exact fun _ => rfl
  · intro s event s' hs hstep
    cases event with
    | command command context =>
      obtain ⟨r, hr, rfl⟩ := hstep
      obtain ⟨act, -, -, hact⟩ := reduce_transport hr
      rw [hact]
      exact rests_apply hs _ act
    | prune catalog nowMs presets =>
      obtain ⟨r, hr, rfl⟩ := hstep
      rw [pruneForCatalog_transport hr]
      exact rests_prune hs _ nowMs
    | outputPolicy multipleOutputs =>
      cases hstep
      rw [applyOutputPolicy_transport]
      exact hs
    | published publicationRevision =>
      cases hstep
      exact hs

/-! ## The law -/

/-- Materialised at `nowMs`, both lanes show the same track at the same position. -/
structure PlaybackState.SamePositions (nowMs : ℕ) (before after : PlaybackState) : Prop where
  ambientTrack : after.ambient.currentTrackId = before.ambient.currentTrackId
  ambientPosition : (materializePositions after nowMs).ambient.positionMs =
    (materializePositions before nowMs).ambient.positionMs
  interruptTrack : after.interrupt.map (·.currentTrackId) =
    before.interrupt.map (·.currentTrackId)
  interruptPosition : (materializePositions after nowMs).interrupt.map (·.positionMs) =
    (materializePositions before nowMs).interrupt.map (·.positionMs)

theorem materialized_ambientPosition (s : PlaybackState) (now : ℕ) :
    (materializePositions s now).ambient.positionMs =
      s.transport.clock.read maxPositionMs now := by
  simp only [materializePositions, materializeAmbient_eq]
  rfl

theorem materialized_interruptPosition (s : PlaybackState) (now : ℕ) :
    (materializePositions s now).interrupt.map (·.positionMs) =
      s.transport.interrupt.map (·.clock.read maxPositionMs now) := by
  simp only [materializePositions, PlaybackState.transport, Option.map_map]
  congr 1
  funext interrupt
  simp only [Function.comp_apply, materializeInterrupt_eq]
  rfl

theorem samePositions_of_transport {now : ℕ} {before after : PlaybackState}
    (h : before.transport.SameReading now after.transport) : before.SamePositions now after where
  ambientTrack := h.track
  ambientPosition := by
    rw [materialized_ambientPosition, materialized_ambientPosition, h.position]
  interruptTrack := by
    have htrack := h.interruptTrack
    simp only [PlaybackState.transport, Option.map_map] at htrack
    exact htrack
  interruptPosition := by
    rw [materialized_interruptPosition, materialized_interruptPosition, h.interruptPosition]

/-- A reduction other than a position report either keeps the epoch and, at the reading
of its clock, both tracks and both positions, or advances the epoch by exactly one. -/
theorem reduce_epochLaw {s : PlaybackState} (hs : liveSystem.Reachable s)
    {command : PlaybackCommand} (hcommand : command.isReport = false)
    {context : ReductionContext} {r : Reduction} (h : reduce s command context = .ok r) :
    (r.nextState.positionEpoch = s.positionEpoch ∧
        s.SamePositions context.clock.monotonicMs r.nextState) ∨
      r.nextState.positionEpoch = s.positionEpoch + 1 := by
  obtain ⟨act, -, hreport, hact⟩ := reduce_transport h
  have hlaw := apply_epoch_law (live_rests hs) context.clock.monotonicMs
    (hreport.trans hcommand)
  rw [← hact] at hlaw
  rcases hlaw with ⟨hepoch, hsame⟩ | hepoch
  · exact .inl ⟨hepoch, samePositions_of_transport hsame⟩
  · exact .inr hepoch

/-- The law at a pause half a minute into a track. -/
theorem reduce_epochLaw_pause :
    ∃ s r, liveSystem.Reachable s ∧
      reduce s (.setPlaying false) ⟨⟨30000, 30, by norm_num⟩, none⟩ = .ok r ∧
      ((r.nextState.positionEpoch = s.positionEpoch ∧ s.SamePositions 30000 r.nextState) ∨
        r.nextState.positionEpoch = s.positionEpoch + 1) := by
  have hplay : ∃ r, reduce .default (.ambientPlayTrack ⟨1, by decide⟩)
      ⟨⟨0, 0, le_refl 0⟩, none⟩ = .ok r ∧
        ∃ r', reduce r.nextState (.setPlaying false) ⟨⟨30000, 30, by norm_num⟩, none⟩ = .ok r' :=
    ⟨_, rfl, _, rfl⟩
  obtain ⟨r, hr, r', hr'⟩ := hplay
  have hreach : liveSystem.Reachable r.nextState :=
    .step (a := .command _ _) (.init (.inl rfl)) ⟨r, hr, rfl⟩
  exact ⟨r.nextState, r', hreach, hr', reduce_epochLaw hreach rfl hr'⟩

end MusicServer
