/-
# Known tracks and the advance at the end of one

A track that ends is advanced past by the owner itself, through the same checks a client's
command passes; a rejection there would end the owner.  The main result,
`tracks_known_and_advance_safe`, says that in every run whose catalogs are indices of the
library the lanes refer to known tracks only, that the owner's own advance passes every
check, and that the lane is not due again at the sample it was advanced at.
-/
import MusicServer.LiveSession
import MusicServer.Tracks

namespace MusicServer

open Transition (System)

/-! ## Known tracks -/

/-- The tracks of a catalog, once loaded, are the index of a library. -/
def CatalogSnapshot.Indexed (catalog : CatalogSnapshot) : Prop :=
  ∀ tracks, catalog.tracks = some tracks →
    ∃ library : List LibraryCatalogTrack, tracks = playbackCatalogTracks library

structure PlaybackActor.TracksKnown (a : PlaybackActor) : Prop where
  indexed : a.catalog.Indexed
  closed : ∀ tracks, a.catalog.tracks = some tracks → a.state.TracksIn (· ∈ tracks)

theorem PlaybackState.UpToRevision.tracksIn {next state : PlaybackState} {p : TrackId → Prop}
    (h : next.UpToRevision state) (hnext : next.TracksIn p) : state.TracksIn p := by
  unfold PlaybackState.UpToRevision at h
  rw [h]
  exact hnext.congr rfl rfl

theorem withOutputPolicy_tracksIn {reduction : Reduction} {p : TrackId → Prop}
    (h : reduction.nextState.TracksIn p) (catalog : CatalogSnapshot) :
    (withOutputPolicy catalog reduction).nextState.TracksIn p := by
  unfold withOutputPolicy PlaybackState.applyOutputPolicy
  split
  · exact h
  · simp only
    split <;> exact h.congr rfl rfl

theorem tracksKnown_step {a a' : PlaybackActor} {label : LiveLabel} (h : a.TracksKnown)
    (hstep : LiveStep a a' label)
    (hadopts : ∀ catalog, label = .adopted catalog → catalog.Indexed) : a'.TracksKnown := by
  have hsame : ∀ a' : PlaybackActor, a'.catalog = a.catalog →
      (∀ tracks, a.catalog.tracks = some tracks → a'.state.TracksIn (· ∈ tracks)) →
      a'.TracksKnown := by
    intro a' hcatalog hclosed
    refine ⟨?_, ?_⟩
    · rw [hcatalog]
      exact h.indexed
    · rw [hcatalog]
      exact hclosed
  cases hstep with
  | idle hstate hcatalog | opened hstate hcatalog | refreshed hstate hcatalog =>
    apply hsame a' hcatalog
    rw [hstate]
    exact h.closed
  | command hadmission hstate hcatalog =>
    apply hsame a' hcatalog
    intro tracks htracks
    obtain ⟨-, -, hreferences, r, hr, rfl⟩ := decideCommand_eq_ok hadmission
    apply hstate.tracksIn
    apply withOutputPolicy_tracksIn
    exact reduce_tracksIn (h.closed tracks htracks) (trackIds_known hreferences htracks) hr
  | @registered connectionId registration current sample _ _ _ _ hregistered hstate hcatalog =>
    apply hsame a' hcatalog
    intro tracks htracks
    obtain ⟨removed, hremoved, heq⟩ := registeredState_eq a.state a'.connections connectionId
      current.registration registration sample
    rw [heq] at hregistered
    obtain ⟨rfl, -⟩ := Prod.mk.inj (Except.ok.inj hregistered)
    apply hstate.tracksIn
    apply PlaybackState.TracksIn.registerDevice
    rcases hremoved with ⟨rfl, -⟩ | ⟨previous, -, -, rfl⟩
    · exact h.closed tracks htracks
    · exact (h.closed tracks htracks).congr rfl rfl
  | @disconnected _ record sample state _ _ _ hdisconnected hstate hcatalog =>
    apply hsame a' hcatalog
    intro tracks htracks
    obtain ⟨removed, heq, hremoved⟩ := disconnectedState_eq a.state a'.connections
      record.registration sample
    rw [heq] at hdisconnected
    cases hdisconnected
    apply hstate.tracksIn
    rcases hremoved with ⟨hkept, -⟩ | ⟨gone, -, hgone⟩
    · rw [show state = a.state from congrArg Prod.fst hkept]
      exact h.closed tracks htracks
    · rw [show state = _ from congrArg Prod.fst hgone]
      exact (h.closed tracks htracks).congr rfl rfl
  | @adopted catalog _ _ _ _ hpruned hstate hcatalog =>
    refine ⟨?_, ?_⟩
    · rw [hcatalog]
      exact hadopts catalog rfl
    · intro tracks htracks
      rw [hcatalog] at htracks
      exact hstate.tracksIn (pruneForCatalog_tracksIn hpruned htracks)

variable {config : PlaybackActorConfig} {catalog : CatalogSnapshot}

theorem tracksKnown_start {Text : Type} {codec : JsonCodec Text}
    {row : Option (StoredPlaybackSnapshot Text)} {draw : StartDraw} {w : World Text}
    (h : startPlaybackActor codec config row catalog draw = .ok w) (hindexed : catalog.Indexed) :
    w.actor.TracksKnown := by
  obtain ⟨⟨loaded, nowMs, changed, -, hpruned⟩, hcatalog, -⟩ := start_live h
  refine ⟨?_, ?_⟩
  · rw [hcatalog]
    exact hindexed
  · rw [hcatalog]
    intro tracks htracks
    exact pruneForCatalog_tracksIn hpruned htracks

/-! ## The checks an advance passes -/

theorem bind_eq_error {ε α β : Type} {x : Except ε α} {f : α → Except ε β} {e : ε} :
    x >>= f = .error e ↔ x = .error e ∨ ∃ a, x = .ok a ∧ f a = .error e := by
  cases x <;> simp [bind, Except.bind]

/-- A rejection by the checks, or for want of a shuffle choice. -/
def PlaybackActorError.rejectsAdvance : PlaybackActorError → Bool
  | .staleCatalog _ _ => true
  | .missingCatalogResolution => true
  | .invalidCatalogReference => true
  | .domain .randomChoiceRequired => true
  | .domain .randomChoiceOutOfRange => true
  | _ => false

variable {a : PlaybackActor}

theorem admit_eq_error {resolved : ResolvedPlaybackCommand} {draw : Draw}
    {error : PlaybackActorError} (h : decideCommand a resolved draw = .error error) :
    validateResolvedCommand a resolved = .error error ∨
      validateLiveReferences a resolved.command = .error error ∨
      draw.sample = .error error ∨
      ∃ sample failure, reduce a.state resolved.command
          ⟨sample, randomQueueIndex a.state resolved.command draw.random⟩ = .error failure ∧
        error = .domain failure := by
  rcases bind_eq_error.mp h with hresolved | ⟨⟨⟩, -, h⟩
  · exact .inl hresolved
  rcases bind_eq_error.mp h with hlive | ⟨⟨⟩, -, h⟩
  · exact .inr (.inl hlive)
  rcases bind_eq_error.mp h with hsample | ⟨sample, -, h⟩
  · exact .inr (.inr (.inl hsample))
  simp only at h
  split at h
  · cases h
  · next failure hreduce =>
    cases h
    exact .inr (.inr (.inr ⟨sample, failure, hreduce, rfl⟩))

variable {error : PlaybackError} {s : PlaybackState}

theorem incrementPositionEpoch_eq_error (h : incrementPositionEpoch s = .error error) :
    error = .positionEpochOverflow := by
  unfold incrementPositionEpoch at h
  split at h
  · cases h
  · cases h
    rfl

theorem reduce_eq_error {command : PlaybackCommand} {context : ReductionContext}
    (h : reduce s command context = .error error) :
    applyCommand s command context = .error error := by
  rcases bind_eq_error.mp h with h | ⟨r, -, h⟩
  · exact h
  · cases h

theorem incremented_eq_error {flag : Bool}
    (h : (do let s' ← incrementPositionEpoch s; return (s', flag) :
      Except PlaybackError (PlaybackState × Bool)) = .error error) :
    error = .positionEpochOverflow := by
  rcases bind_eq_error.mp h with h | ⟨s', -, h⟩
  · exact incrementPositionEpoch_eq_error h
  · cases h

theorem interruptSkipNext_eq_error {expected : Option TrackId} {nowMs : ℕ}
    (h : interruptSkipNext s expected nowMs = .error error) :
    error = .positionEpochOverflow := by
  unfold interruptSkipNext at h
  split at h
  · cases h
  split at h
  · cases h
  split at h
  · exact incremented_eq_error h
  · unfold endInterrupt at h
    split at h
    · cases h
    · exact incremented_eq_error h

theorem nextQueueIndex_of_drawn (s : PlaybackState) (follow expected : Option TrackId)
    (random : QueueRandom) (hqueue : s.ambient.queue ≠ []) :
    ∃ index, nextQueueIndex s.ambient
      (randomQueueIndex s (.ambientSkipNext follow expected) random) = .ok index := by
  have hlength : 0 < s.ambient.queue.length := List.length_pos_of_ne_nil hqueue
  have hempty : (!s.ambient.queue.isEmpty) = true := by
    cases hq : s.ambient.queue with
    | nil => exact absurd hq hqueue
    | cons track queue => rfl
  unfold nextQueueIndex randomQueueIndex
  cases hshuffle : s.ambient.shuffle with
  | off => exact ⟨0, rfl⟩
  | random =>
    have hlt := random.index_lt s.ambient.queue.length hlength
    simp only [hempty, and_self, if_true]
    rw [if_neg (by omega)]
    exact ⟨_, rfl⟩

theorem ambientSkipNext_eq_error {follow expected : Option TrackId} {clock : ClockSample}
    {random : QueueRandom} (h : ambientSkipNext s follow expected
      ⟨clock, randomQueueIndex s (.ambientSkipNext follow expected) random⟩ = .error error) :
    error = .positionEpochOverflow := by
  unfold ambientSkipNext at h
  split at h
  · cases h
  split at h
  · cases h
  rcases bind_eq_error.mp h with h | ⟨counted, hcounted, h⟩
  · exact incrementPositionEpoch_eq_error h
  obtain ⟨-, rfl⟩ := incrementPositionEpoch_eq_ok.mp hcounted
  rcases bind_eq_error.mp h with h | ⟨advanced, -, h⟩
  · unfold ambientAdvance at h
    split at h
    · cases h
    split at h
    · next hqueue =>
      have hqueue : s.ambient.queue ≠ [] := by simpa using hqueue
      obtain ⟨index, hindex⟩ := nextQueueIndex_of_drawn s follow expected random hqueue
      rcases bind_eq_error.mp h with h | ⟨index', -, h⟩
      · rw [show nextQueueIndex _ _ = _ from hindex] at h
        cases h
      · cases h
    split at h
    · cases h
    split at h
    · cases h
    · cases h
  · cases h

theorem followNextId_known (h : a.TracksKnown) {current : Option TrackId} {next : TrackId}
    (hnext : followNextId a current = some next) :
    a.catalog.tracksValid [next] = true := by
  unfold followNextId at hnext
  split at hnext
  · obtain ⟨trackId, -, hnext⟩ := Option.bind_eq_some_iff.mp hnext
    obtain ⟨track, htrack, hnext⟩ := Option.bind_eq_some_iff.mp hnext
    obtain ⟨tracks, htracks, htrack⟩ := Option.bind_eq_some_iff.mp htrack
    obtain ⟨library, rfl⟩ := h.indexed tracks htracks
    have hknown := playbackCatalogTracks_followed library htrack hnext
    simp only [CatalogSnapshot.tracksValid, htracks, Option.any_some, List.all_cons,
      List.all_nil, Bool.and_true]
    exact hknown
  · cases hnext

theorem admit_dueCommand (h : a.TracksKnown) (plan : TrackEffectPlan) {draw : Draw}
    {error : PlaybackActorError}
    (hadmission : decideCommand a (World.dueCommand a plan) draw = .error error)
    (hrejects : error.rejectsAdvance = true) : draw.sample = .error error := by
  unfold World.dueCommand at hadmission
  cases hlane : plan.lane with
  | interrupt =>
    rw [hlane] at hadmission
    rcases admit_eq_error hadmission with hresolved | hlive | hsample | ⟨sample, failure, hr, rfl⟩
    · cases hresolved
    · cases hlive
    · exact hsample
    · rcases bind_eq_error.mp (reduce_eq_error hr) with hr | ⟨next, -, hr⟩
      · rw [interruptSkipNext_eq_error hr] at hrejects
        cases hrejects
      · cases hr
  | ambient =>
    rw [hlane] at hadmission
    rcases admit_eq_error hadmission with hresolved | hlive | hsample | ⟨sample, failure, hr, rfl⟩
    · -- The advance is resolved at the generation the owner holds.
      unfold validateResolvedCommand at hresolved
      simp only [ResolvedPlaybackCommand.atGeneration, if_true] at hresolved
      split at hresolved <;> cases hresolved
    · have hvalid : catalogReferencesValid
          (.ambientSkipNext (followNextId a (some plan.trackId)) (some plan.trackId)) a.catalog
          a.state = true := by
        cases hnext : followNextId a (some plan.trackId) with
        | none => rfl
        | some next => exact followNextId_known h hnext
      unfold validateLiveReferences at hlive
      simp only [ResolvedPlaybackCommand.atGeneration, hvalid, if_true] at hlive
      cases hlive
    · exact hsample
    · rcases bind_eq_error.mp (reduce_eq_error hr) with hr | ⟨next, -, hr⟩
      · rw [ambientSkipNext_eq_error hr] at hrejects
        cases hrejects
      · cases hr

/-! ## The lane after its advance -/

def laneEffectPlan (config : PlaybackActorConfig) (actor : PlaybackActor) (sample : ClockSample) :
    TrackLane → Option TrackEffectPlan
  | .interrupt => interruptEffectPlan config actor sample
  | .ambient => ambientEffectPlan config actor sample

variable {plan : TrackEffectPlan} {sample : ClockSample}

theorem lane_of_trackEffectPlan (h : trackEffectPlan config a sample = some plan) :
    laneEffectPlan config a sample plan.lane = some plan := by
  have hinterrupt : ∀ plan, interruptEffectPlan config a sample = some plan →
      plan.lane = .interrupt := by
    intro plan hplan
    obtain ⟨interrupt, -, rfl⟩ := Option.map_eq_some_iff.mp hplan
    rfl
  have hambient : ∀ plan, ambientEffectPlan config a sample = some plan →
      plan.lane = .ambient := by
    intro plan hplan
    obtain ⟨trackId, -, hplan⟩ := Option.bind_eq_some_iff.mp hplan
    obtain ⟨duration, -, rfl⟩ := Option.map_eq_some_iff.mp hplan
    rfl
  have hcases : interruptEffectPlan config a sample = some plan ∨
      ambientEffectPlan config a sample = some plan := by
    unfold trackEffectPlan at h
    split at h
    · next hi ha =>
      split at h
      · cases h
        exact .inr ha
      · cases h
        exact .inl hi
    · next hi _ =>
      cases h
      exact .inl hi
    · exact .inr h
  rcases hcases with hplan | hplan
  · rw [hinterrupt plan hplan]
    exact hplan
  · rw [hambient plan hplan]
    exact hplan

theorem knownDurationMs_pos {trackId : TrackId} {duration : ℕ}
    (h : catalog.knownDurationMs trackId = some duration) : 0 < duration := by
  obtain ⟨-, hpositive⟩ := Option.filter_eq_some_iff.mp h
  simpa using hpositive

theorem remainingTrackMs_start {duration grace : ℕ} (h : 0 < duration + grace) :
    0 < remainingTrackMs duration grace 0 := by
  have hmax : 0 < u64Max := by decide
  unfold remainingTrackMs saturatingAdd
  omega

theorem materializeAmbient_start {ambient : AmbientState} {now : ℕ}
    (hanchor : ∀ anchor, ambient.positionAnchorMs = some anchor → now ≤ anchor) :
    materializeAmbient ambient now = ambient := by
  unfold materializeAmbient
  split
  · rfl
  · next anchor hsome =>
    have hle := hanchor anchor hsome
    simp only
    rw [if_neg (by omega)]

theorem materializeInterrupt_start {interrupt : InterruptState} {now : ℕ}
    (hanchor : ∀ anchor, interrupt.positionAnchorMs = some anchor → now ≤ anchor) :
    materializeInterrupt interrupt now = interrupt := by
  unfold materializeInterrupt
  split
  · rfl
  · next anchor hsome =>
    have hle := hanchor anchor hsome
    simp only
    rw [if_neg (by omega)]

theorem ambientEffectPlan_start (hposition : a.state.ambient.positionMs = 0)
    (hanchor : ∀ anchor, a.state.ambient.positionAnchorMs = some anchor →
      sample.monotonicMs ≤ anchor) (hplan : ambientEffectPlan config a sample = some plan) :
    0 < plan.remainingMs := by
  unfold ambientEffectPlan at hplan
  obtain ⟨trackId, -, hplan⟩ := Option.bind_eq_some_iff.mp hplan
  obtain ⟨duration, hduration, rfl⟩ := Option.map_eq_some_iff.mp hplan
  have hpositive := knownDurationMs_pos hduration
  simp only [materializePositions, materializeAmbient_start hanchor, hposition]
  apply remainingTrackMs_start
  omega

/-- An interrupt track that starts is not due, where a track of unknown duration is given
at least a millisecond. -/
theorem interruptEffectPlan_start
    (hconfig : 0 < durationMs config.interruptUnknownDuration + durationMs config.trackEndGrace)
    (hstart : ∀ interrupt, a.state.interrupt = some interrupt → interrupt.positionMs = 0 ∧
      ∀ anchor, interrupt.positionAnchorMs = some anchor → sample.monotonicMs ≤ anchor)
    (hplan : interruptEffectPlan config a sample = some plan) : 0 < plan.remainingMs := by
  unfold interruptEffectPlan at hplan
  obtain ⟨materialized, hmaterialized, rfl⟩ := Option.map_eq_some_iff.mp hplan
  obtain ⟨hmaterialized, -⟩ := Option.filter_eq_some_iff.mp hmaterialized
  obtain ⟨interrupt, hinterrupt, rfl⟩ := Option.map_eq_some_iff.mp hmaterialized
  obtain ⟨hposition, hanchor⟩ := hstart interrupt hinterrupt
  rw [materializeInterrupt_start hanchor]
  simp only [hposition]
  apply remainingTrackMs_start
  cases hduration : a.catalog.knownDurationMs interrupt.currentTrackId with
  | none => exact hconfig
  | some duration =>
    have hpositive := knownDurationMs_pos hduration
    simp only [Option.getD_some]
    omega

theorem interruptSkipNext_start {s s' : PlaybackState} {interrupt : InterruptState} {nowMs : ℕ}
    {changed : Bool} (hinterrupt : s.interrupt = some interrupt)
    (h : interruptSkipNext s (some interrupt.currentTrackId) nowMs = .ok (s', changed)) :
    changed = true ∧ ∀ next, s'.interrupt = some next →
      next.positionMs = 0 ∧ ∀ anchor, next.positionAnchorMs = some anchor → nowMs ≤ anchor := by
  unfold interruptSkipNext at h
  rw [hinterrupt] at h
  simp only [ne_eq, not_true_eq_false, and_false, if_false] at h
  split at h
  · obtain ⟨counted, hcounted, h⟩ := bind_eq_ok.mp h
    obtain ⟨-, rfl⟩ := incrementPositionEpoch_eq_ok.mp hcounted
    cases h
    refine ⟨rfl, ?_⟩
    rintro _ ⟨⟩
    refine ⟨rfl, ?_⟩
    rintro _ ⟨⟩
    exact le_refl nowMs
  · unfold endInterrupt at h
    rw [hinterrupt] at h
    obtain ⟨counted, hcounted, h⟩ := bind_eq_ok.mp h
    obtain ⟨-, rfl⟩ := incrementPositionEpoch_eq_ok.mp hcounted
    cases h
    refine ⟨rfl, ?_⟩
    intro next hnext
    have hnone : ∀ (c₁ c₂ : Bool) (s₁ s₂ s₃ : PlaybackState), s₁.interrupt = none →
        s₂.interrupt = none → s₃.interrupt = none →
        (if c₁ then if c₂ then s₁ else s₂ else s₃).interrupt = none := by
      intro c₁ c₂ s₁ s₂ s₃ h₁ h₂ h₃
      cases c₁ <;> cases c₂ <;> assumption
    rw [show (_ : Option InterruptState) = none from hnone _ _ _ _ _ rfl rfl rfl] at hnext
    cases hnext

theorem ambientSkipNext_start {s s' : PlaybackState} {observed : TrackId}
    {follow : Option TrackId} {context : ReductionContext} {changed : Bool}
    (hcurrent : s.ambient.currentTrackId = some observed)
    (h : ambientSkipNext s follow (some observed) context = .ok (s', changed)) :
    changed = true ∧ s'.ambient.positionMs = 0 ∧
      ∀ anchor, s'.ambient.positionAnchorMs = some anchor →
        context.clock.monotonicMs ≤ anchor := by
  unfold ambientSkipNext at h
  simp only [hcurrent, ne_eq, not_true_eq_false, and_false, if_false, Option.isNone_some,
    Bool.false_eq_true, false_and] at h
  obtain ⟨counted, hcounted, h⟩ := bind_eq_ok.mp h
  obtain ⟨-, rfl⟩ := incrementPositionEpoch_eq_ok.mp hcounted
  obtain ⟨⟨ambient, playsOn⟩, hadvanced, h⟩ := bind_eq_ok.mp h
  cases h
  refine ⟨rfl, ?_⟩
  have hclock : ∀ anchor, ambient.clock = ⟨0, anchor⟩ →
      ambient.positionMs = 0 ∧ ambient.positionAnchorMs = anchor := by
    intro anchor hclock
    exact ⟨congrArg (·.position) hclock, congrArg (·.anchor) hclock⟩
  rcases ambientAdvance_clock hadvanced with ⟨track, -, hstart, -⟩ | ⟨-, hstop, -⟩
  · obtain ⟨hposition, hanchor⟩ := hclock _ hstart
    refine ⟨hposition, ?_⟩
    intro anchor hsome
    rw [show ambient.positionAnchorMs = _ from hanchor] at hsome
    unfold ambientAnchor at hsome
    split at hsome
    · cases hsome
      exact le_refl _
    · cases hsome
  · obtain ⟨hposition, hanchor⟩ := hclock _ hstop
    refine ⟨hposition, ?_⟩
    intro anchor hsome
    rw [show ambient.positionAnchorMs = none from hanchor] at hsome
    cases hsome

/-! ## The turn that advances -/

theorem isFatal_of_rejectsAdvance {error : PlaybackActorError}
    (h : error.rejectsAdvance = true) : isFatal error = false := by
  unfold PlaybackActorError.rejectsAdvance at h
  split at h <;> first | rfl | cases h

theorem execute_dueCommand_error {Text : Type} {codec : JsonCodec Text} {w w' : World Text}
    (h : w.actor.TracksKnown) (plan : TrackEffectPlan) {draw : Draw}
    {error : PlaybackActorError}
    (hexecute : w.execute codec (World.dueCommand w.actor plan) draw = (w', .error error))
    (hrejects : error.rejectsAdvance = true) : draw.sample = .error error := by
  unfold World.execute at hexecute
  split at hexecute
  · next hadmission =>
    cases hexecute
    exact admit_dueCommand h plan hadmission hrejects
  · have hfatal := commit_eq_error hexecute
    rw [isFatal_of_rejectsAdvance hrejects] at hfatal
    cases hfatal

theorem execute_dueCommand_start {Text : Type} {codec : JsonCodec Text} {w w' : World Text}
    (hconfig : 0 < durationMs config.interruptUnknownDuration + durationMs config.trackEndGrace)
    (hplan : trackEffectPlan config w.actor sample = some plan) {draw : Draw}
    {sample' : ClockSample} (hsample : draw.sample = .ok sample') {result : PlaybackCommandResult}
    (hexecute : w.execute codec (World.dueCommand w.actor plan) draw = (w', .ok result))
    {now : ClockSample} (hnow : now.monotonicMs ≤ sample'.monotonicMs) {next : TrackEffectPlan}
    (hnext : laneEffectPlan config w'.actor now plan.lane = some next) : 0 < next.remainingMs := by
  have hlane := lane_of_trackEffectPlan hplan
  unfold World.execute at hexecute
  split at hexecute
  · cases hexecute
  next drawn reduction hadmission =>
  obtain ⟨hdrawn, r, hr, rfl⟩ := sample_of_decide hadmission
  rw [hsample] at hdrawn
  cases hdrawn
  obtain ⟨hambient, hinterrupt, hpolicy, hpersistence⟩ := lanes_withOutputPolicy w.actor.catalog r
  have hstored : ∀ changed, r.changed = changed → changed = true →
      r.persistence = .immediate →
      (withOutputPolicy w.actor.catalog r).nextState.UpToRevision w'.actor.state := by
    intro changed hchanged htrue himmediate
    refine (commit_stored hexecute ?_ (hpolicy (hchanged.trans htrue))).1
    rw [hpersistence, himmediate]
  obtain ⟨r', hr', rfl⟩ := reduce_eq_ok.mp hr
  rw [nextState_settle] at hambient hinterrupt
  cases hkind : plan.lane with
  | interrupt =>
    rw [hkind] at hlane hnext
    obtain ⟨materialized, hmaterialized, hplan'⟩ := Option.map_eq_some_iff.mp hlane
    obtain ⟨hmaterialized, -⟩ := Option.filter_eq_some_iff.mp hmaterialized
    obtain ⟨interrupt, hcurrent, rfl⟩ := Option.map_eq_some_iff.mp hmaterialized
    have htrack : plan.trackId = interrupt.currentTrackId := by
      rw [← hplan', materializeInterrupt_eq]
    simp only [World.dueCommand, hkind, ResolvedPlaybackCommand.direct, htrack] at hr'
    obtain ⟨⟨state, changed⟩, hadvanced, hr'⟩ := bind_eq_ok.mp hr'
    cases hr'
    obtain ⟨rfl, hstart⟩ := interruptSkipNext_start hcurrent hadvanced
    have hlive := hstored true rfl rfl rfl
    refine interruptEffectPlan_start hconfig ?_ hnext
    intro interrupt' hinterrupt'
    rw [show w'.actor.state = _ from hlive] at hinterrupt'
    rw [show (withOutputPolicy w.actor.catalog _).nextState.interrupt = some interrupt' from
      hinterrupt'] at hinterrupt
    obtain ⟨hposition, hanchor⟩ := hstart interrupt' hinterrupt.symm
    refine ⟨hposition, ?_⟩
    intro anchor hsome
    exact hnow.trans (hanchor anchor hsome)
  | ambient =>
    rw [hkind] at hlane hnext
    obtain ⟨trackId, hcurrent, hplan'⟩ := Option.bind_eq_some_iff.mp hlane
    obtain ⟨hcurrent, -⟩ := Option.filter_eq_some_iff.mp hcurrent
    obtain ⟨duration, -, hplan'⟩ := Option.map_eq_some_iff.mp hplan'
    have htrack : w.actor.state.ambient.currentTrackId = some plan.trackId := by
      rw [← hplan', ← hcurrent]
      simp only [materializePositions, materializeAmbient_eq]
    simp only [World.dueCommand, hkind, ResolvedPlaybackCommand.atGeneration] at hr'
    obtain ⟨⟨state, changed⟩, hadvanced, hr'⟩ := bind_eq_ok.mp hr'
    cases hr'
    obtain ⟨rfl, hposition, hanchor⟩ := ambientSkipNext_start htrack hadvanced
    have hlive := hstored true rfl rfl rfl
    have hlane' : w'.actor.state.ambient = state.ambient := by
      rw [show w'.actor.state = _ from hlive]
      exact hambient
    refine ambientEffectPlan_start ?_ ?_ hnext
    · rw [hlane']
      exact hposition
    · rw [hlane']
      intro anchor hsome
      exact hnow.trans (hanchor anchor hsome)

/-! ## Runs -/

/-- The turn loads no track catalog, or the index of a library. -/
def Turn.LoadsIndex : Turn → Prop
  | .message (.replaceCatalog catalog _) _ => catalog.Indexed
  | .message (.replaceLibraryCatalog _ tracks) _ =>
    ∃ library : List LibraryCatalogTrack, tracks = playbackCatalogTracks library
  | _ => True

theorem performs_adopted {Text : Type} {w : World Text} {t : Turn}
    (h : t.Performs config w (.adopted catalog)) (hknown : w.actor.catalog.Indexed)
    (hloads : t.LoadsIndex) : catalog.Indexed := by
  cases h with
  | adopted => exact hloads
  | adoptedTracks =>
    rintro _ ⟨⟩
    exact hloads
  | adoptedModes => exact hknown

/-- **Track closure and self-advance**: in a run whose track catalogs are indices of the
library, both lanes refer to known tracks only.  The advance the owner makes at the end of
a track is refused by no check and lacks no shuffle choice; where it goes through, its
lane is not due again by the sample it was made at. -/
theorem tracks_known_and_advance_safe {Text : Type} {codec : JsonCodec Text}
    {config : PlaybackActorConfig} {catalog : CatalogSnapshot} {w₀ : World Text}
    {run : List (Turn × World Text)}
    (hconfig : 0 < durationMs config.interruptUnknownDuration + durationMs config.trackEndGrace)
    (hindexed : catalog.Indexed) (hstart : (actorSystem codec config catalog).init w₀)
    (hrun : (actorSystem codec config catalog).IsRun w₀ run)
    (hloads : ∀ t ∈ System.steps w₀ run, t.2.1.LoadsIndex) :
    ∀ w ∈ System.states w₀ run,
      (∀ tracks, w.actor.catalog.tracks = some tracks → w.actor.state.TracksIn (· ∈ tracks)) ∧
      ∀ sample plan, trackEffectPlan config w.actor sample = some plan → plan.remainingMs ≤ 0 →
        ∀ draw,
          (∀ error, (w.turn codec config (.dueEffects (.ok sample) draw)).2 = .error error →
            error.rejectsAdvance = true → draw.sample = .error error) ∧
          ∀ sample', draw.sample = .ok sample' →
            (w.turn codec config (.dueEffects (.ok sample) draw)).2 = .ok () →
            ∀ now : ClockSample, now.monotonicMs ≤ sample'.monotonicMs → ∀ next,
              laneEffectPlan config (w.turn codec config (.dueEffects (.ok sample) draw)).1.actor
                now plan.lane = some next → 0 < next.remainingMs := by
  have hinvariant : ∀ w ∈ System.states w₀ run, w.actor.TracksKnown := by
    refine hrun.forall_states (P := fun w => w.actor.TracksKnown)
      (G := fun _ t => t.LoadsIndex) ?_ ?_ hloads
    · intro w t w' h hstep hguard
      rcases actorStep_live hstep with hidle | ⟨label, hperforms, hlabel⟩
      · exact tracksKnown_step h hidle (fun catalog hlabel => nomatch hlabel)
      · apply tracksKnown_step h hlabel
        rintro catalog rfl
        exact performs_adopted hperforms h.indexed hguard
    · obtain ⟨row, draw, hstart⟩ := hstart
      exact tracksKnown_start hstart hindexed
  intro w hw
  have h := hinvariant w hw
  refine ⟨h.closed, ?_⟩
  intro sample plan hplan hdue draw
  -- Firing the loops that are due changes nothing the advance looks at.
  obtain ⟨deadlines, hactor⟩ := World.actor_fireDueLoops w sample
  have hknown : (w.fireDueLoops sample).actor.TracksKnown := by
    rw [hactor]
    exact ⟨h.indexed, h.closed⟩
  have hplan' : trackEffectPlan config (w.fireDueLoops sample).actor sample = some plan := by
    rw [hactor]
    exact hplan
  have hturn : w.turn codec config (.dueEffects (.ok sample) draw) =
      (((w.fireDueLoops sample).execute codec
          (World.dueCommand (w.fireDueLoops sample).actor plan) draw).1,
        ((w.fireDueLoops sample).execute codec
          (World.dueCommand (w.fireDueLoops sample).actor plan) draw).2.map fun _ => ()) := by
    have hfilter : (some plan).filter (fun plan : TrackEffectPlan =>
        decide (plan.remainingMs ≤ 0)) = some plan := by
      rw [Option.filter_some, if_pos (decide_eq_true hdue)]
    simp only [World.turn, World.runDueEffects, hplan', hfilter]
  rw [hturn]
  cases hexecute : (w.fireDueLoops sample).execute codec
      (World.dueCommand (w.fireDueLoops sample).actor plan) draw with
  | mk w' outcome =>
    refine ⟨?_, ?_⟩
    · intro error herror hrejects
      cases outcome with
      | ok result => cases herror
      | error failure =>
        cases herror
        exact execute_dueCommand_error hknown plan hexecute hrejects
    · intro sample' hsample hok now hnow next hnext
      cases outcome with
      | error failure => cases hok
      | ok result =>
        exact execute_dueCommand_start hconfig hplan' hsample hexecute hnow hnext

def twoTrackLibrary : List LibraryCatalogTrack :=
  [⟨⟨1, Int.one_pos⟩, "a.flac", 60 * 10 ^ 9⟩, ⟨⟨2, TrackId.two_pos⟩, "b.flac", 60 * 10 ^ 9⟩]

/-- The index of the two tracks: each is followed by the other. -/
def twoTrackIndex : BTreeMap TrackId CatalogTrack :=
  ((∅ : BTreeMap TrackId CatalogTrack).insert ⟨1, Int.one_pos⟩
    ⟨some 60000, some ⟨2, TrackId.two_pos⟩⟩).insert ⟨2, TrackId.two_pos⟩
      ⟨some 60000, some ⟨1, Int.one_pos⟩⟩

theorem twoTrackIndex_eq : twoTrackIndex = playbackCatalogTracks twoTrackLibrary := by
  have hsorted : twoTrackLibrary.mergeSort LibraryCatalogTrack.le = twoTrackLibrary :=
    List.mergeSort_of_pairwise (by decide +kernel)
  unfold playbackCatalogTracks
  rw [hsorted]
  decide +kernel

/-- The first of the two tracks plays in follow mode. -/
def followingTurns : List Turn :=
  [turnAt 0 (.replaceLibraryCatalog 1 twoTrackIndex),
    turnAt 0 (.execute (.direct (.ambientSetLoop .follow))),
    turnAt 0 (.execute (.atGeneration (.ambientPlayTrack ⟨1, Int.one_pos⟩) ⟨1, 0⟩))]

theorem tracks_known_and_advance_safe_following :
    (trackEffectPlan .default (ownerAfter followingTurns).actor ⟨60750, 0, le_refl 0⟩ =
        some ⟨0, .ambient, ⟨1, by decide⟩⟩) ∧
    ∀ w ∈ System.states freshWorld (ownerRun followingTurns),
      (∀ tracks, w.actor.catalog.tracks = some tracks → w.actor.state.TracksIn (· ∈ tracks)) ∧
      ∀ sample plan, trackEffectPlan .default w.actor sample = some plan →
        plan.remainingMs ≤ 0 → ∀ draw,
          (∀ error, (w.turn documentCodec .default (.dueEffects (.ok sample) draw)).2 =
              .error error → error.rejectsAdvance = true → draw.sample = .error error) ∧
          ∀ sample', draw.sample = .ok sample' →
            (w.turn documentCodec .default (.dueEffects (.ok sample) draw)).2 = .ok () →
            ∀ now : ClockSample, now.monotonicMs ≤ sample'.monotonicMs → ∀ next,
              laneEffectPlan .default
                (w.turn documentCodec .default (.dueEffects (.ok sample) draw)).1.actor
                now plan.lane = some next → 0 < next.remainingMs := by
  have hloads : ∀ t ∈ System.steps freshWorld (ownerRun followingTurns), t.2.1.LoadsIndex := by
    intro t ht
    have hlabel := System.label_mem_of_replay t ht
    simp only [followingTurns, turnAt, List.mem_cons, List.not_mem_nil, or_false] at hlabel
    rcases hlabel with hlabel | hlabel | hlabel
    · rw [hlabel]
      exact ⟨twoTrackLibrary, twoTrackIndex_eq⟩
    · rw [hlabel]
      trivial
    · rw [hlabel]
      trivial
  have hindexed : CatalogSnapshot.default.Indexed := by
    intro tracks htracks
    cases htracks
  exact ⟨by decide +kernel,
    tracks_known_and_advance_safe (by decide) hindexed freshWorld_init
      (ownerRun_isRun followingTurns) hloads⟩

end MusicServer
