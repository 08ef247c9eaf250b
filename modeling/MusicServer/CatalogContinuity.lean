/-
# The ambient clock across a catalog replacement

Pruning for a new catalog never advances the position epoch, so outputs do not seek
after it.  The ambient track that survives goes on where it was, but for one case: an
interrupt that ducked it is dropped, and the lane is anchored anew at the present
although it had been running, so the time since its old anchor is lost.
-/
import MusicServer.LiveSession

namespace MusicServer

open DeadReckoning (Clock)

/-- A prune that keeps the ambient track keeps what its clock shows, unless it drops an
interrupt over a running clock. -/
theorem prune_read_iff {t : Transport} {known : TrackId → Bool} {now : ℕ} {track : TrackId}
    (hbefore : t.track = some track) (hafter : (t.prune known now).track = some track) :
    (t.prune known now).clock.read maxPositionMs now = t.clock.read maxPositionMs now ↔
      ¬ ((t.interrupt.any fun interrupt => !known interrupt.track) = true ∧
        t.isPlaying = true ∧
        ∃ anchor, t.clock.anchor = some anchor ∧ anchor < now ∧
          t.clock.position ≠ maxPositionMs) := by
  have hkept : t.pruneAmbient known = t := by
    unfold Transport.prune Transport.pruneInterrupt at hafter
    unfold Transport.pruneAmbient at hafter ⊢
    split
    · next hgone =>
      rw [if_pos hgone] at hafter
      split at hafter <;> cases hafter
    · rfl
  unfold Transport.prune
  rw [hkept]
  unfold Transport.pruneInterrupt
  by_cases hdropped : (t.interrupt.any fun interrupt => !known interrupt.track) = true
  · by_cases hplaying : t.isPlaying = true
    · simp only [hdropped, hplaying, hbefore, if_true, Option.isSome_some, Bool.and_self,
        true_and]
      generalize t.clock = clock
      obtain ⟨position, anchor⟩ := clock
      cases anchor with
      | none => simp
      | some anchor =>
        rw [Clock.read_reanchor_eq_iff]
        simp only [Option.some.injEq, exists_eq_left']
        constructor
        · rintro (hle | hcap) ⟨hlt, hne⟩
          · omega
          · omega
        · intro h
          by_cases hlt : anchor < now
          · have hcap : position = maxPositionMs := by
              by_contra hne
              exact h ⟨hlt, hne⟩
            exact .inr (by omega)
          · exact .inl (by omega)
    · simp [hdropped, hplaying]
  · simp [hdropped]

/-- Pruning drops the interrupt over an ambient lane whose clock has run on since its
anchor. -/
def PlaybackState.DropsInterruptOverRunningAmbient (state : PlaybackState)
    (catalog : CatalogSnapshot) (nowMs : ℕ) : Prop :=
  (∃ interrupt, state.interrupt = some interrupt ∧
    catalog.knows interrupt.currentTrackId = false) ∧
  state.isPlaying = true ∧
  ∃ anchor, state.ambient.positionAnchorMs = some anchor ∧ anchor < nowMs ∧
    state.ambient.positionMs ≠ maxPositionMs

/-- A catalog replacement that keeps the ambient track keeps its materialised position,
exactly unless it drops an interrupt over a running ambient clock. -/
theorem pruneForCatalog_continuous_iff {s : PlaybackState} {catalog : CatalogSnapshot}
    {now : ℕ} {presets : Bool} {r : PlaybackState × Bool} {track : TrackId}
    (h : pruneForCatalog s catalog now presets = .ok r)
    (hbefore : s.ambient.currentTrackId = some track)
    (hafter : r.1.ambient.currentTrackId = some track) :
    (materializePositions r.1 now).ambient.positionMs =
        (materializePositions s now).ambient.positionMs ↔
      ¬ s.DropsInterruptOverRunningAmbient catalog now := by
  have hpruned := pruneForCatalog_transport h
  have hafter' : (s.transport.prune catalog.knows now).track = some track := by
    rw [← hpruned]
    exact hafter
  rw [materialized_ambientPosition, materialized_ambientPosition, hpruned,
    prune_read_iff hbefore hafter']
  have hinterrupt : (s.transport.interrupt.any fun interrupt =>
      !catalog.knows interrupt.track) = true ↔
        ∃ interrupt, s.interrupt = some interrupt ∧
          catalog.knows interrupt.currentTrackId = false := by
    simp [PlaybackState.transport, Option.any_eq_true, InterruptState.view]
  rw [hinterrupt]
  rfl

/-! ## A ducking interrupt whose track is deleted -/

def libraryOf (trackIds : List TrackId) : BTreeMap TrackId CatalogTrack :=
  trackIds.foldl (fun known trackId => known.insert trackId ⟨some 600000, some trackId⟩) ∅

/-- Track 1 plays, and half a minute later track 2 interrupts it, ducking. -/
def duckingSession : List Turn :=
  [turnAt 0 (.replaceLibraryCatalog 1 (libraryOf [⟨1, Int.one_pos⟩, ⟨2, TrackId.two_pos⟩])),
   turnAt 0 (.execute (.atGeneration (.ambientPlayTrack ⟨1, Int.one_pos⟩) ⟨1, 0⟩)),
   turnAt 30000 (.execute (.atGeneration (.fireInterruptSequence [⟨2, TrackId.two_pos⟩]
     ⟨true, 0, 0, some ⟨1 / 8, by norm_num, by norm_num⟩⟩) ⟨1, 0⟩))]

def withoutInterrupt : CatalogSnapshot := ⟨⟨2, 0⟩, some (libraryOf [⟨1, Int.one_pos⟩]), none⟩

/-- Deleting the interrupting track a minute in sets the ambient position back to the
start of the track, under an unchanged epoch. -/
theorem catalog_replacement_not_continuous :
    ¬ ∀ (w : World PersistedPlaybackState) (catalog : CatalogSnapshot) (now : ℕ)
        (r : PlaybackState × Bool) (track : TrackId),
      (actorSystem documentCodec .default .default).Reachable w →
      pruneForCatalog w.actor.state catalog now false = .ok r →
      w.actor.state.ambient.currentTrackId = some track →
      r.1.ambient.currentTrackId = some track →
      r.1.positionEpoch = w.actor.state.positionEpoch →
      (materializePositions r.1 now).ambient.positionMs =
        (materializePositions w.actor.state now).ambient.positionMs := by
  intro h
  have hpruned : ∃ r, pruneForCatalog (ownerAfter duckingSession).actor.state withoutInterrupt
      60000 false = .ok r ∧
      (ownerAfter duckingSession).actor.state.ambient.currentTrackId = some ⟨1, by decide⟩ ∧
      r.1.ambient.currentTrackId = some ⟨1, by decide⟩ ∧
      r.1.positionEpoch = (ownerAfter duckingSession).actor.state.positionEpoch ∧
      (materializePositions r.1 60000).ambient.positionMs ≠
        (materializePositions (ownerAfter duckingSession).actor.state 60000).ambient.positionMs := by
    refine ⟨_, rfl, ?_⟩
    decide +kernel
  obtain ⟨r, hr, hbefore, hafter, hepoch, hne⟩ := hpruned
  exact hne (h _ _ _ r _ (ownerAfter_reachable duckingSession) hr hbefore hafter hepoch)

/-- The condition at work: the same deletion the moment the interrupt fires finds the
clock half a minute on. -/
theorem pruneForCatalog_continuous_iff_duckingSession :
    ∃ r, pruneForCatalog (ownerAfter duckingSession).actor.state withoutInterrupt 30000 false =
        .ok r ∧
      ((materializePositions r.1 30000).ambient.positionMs =
          (materializePositions (ownerAfter duckingSession).actor.state 30000).ambient.positionMs ↔
        ¬ (ownerAfter duckingSession).actor.state.DropsInterruptOverRunningAmbient
          withoutInterrupt 30000) := by
  have hpruned : ∃ r, pruneForCatalog (ownerAfter duckingSession).actor.state withoutInterrupt
      30000 false = .ok r ∧
      (ownerAfter duckingSession).actor.state.ambient.currentTrackId = some ⟨1, by decide⟩ ∧
      r.1.ambient.currentTrackId = some ⟨1, by decide⟩ := by
    refine ⟨_, rfl, ?_⟩
    decide +kernel
  obtain ⟨r, hr, hbefore, hafter⟩ := hpruned
  exact ⟨r, hr, pruneForCatalog_continuous_iff hr hbefore hafter⟩

end MusicServer
