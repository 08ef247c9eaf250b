/-
# What is on disk is what is live

The owner holds the state in memory and one document in the store.  Were it to crash
between two turns, it would start again from that document.  The main result,
`stored_document_restores`, says that between any two turns of any run the document
decodes to the live state as a restart would see it, its volumes perhaps as the JSON library
reads them back, that the storage revision the owner remembers is the one of the row, and
that nothing is shown to a subscriber before the document that restores it is stored.

Every turn is a chain of a few moves: a write, a publication, events, and changes of
memory that keep the durable part of the state.  There is one lemma for each move, and
one for each way the owner puts them together.
-/
import MusicServer.LiveSession
import MusicServer.Trace

namespace MusicServer

open Transition (System)

/-! ## The document and what it restores -/

section

variable {Text : Type}

/-- The row that an effect leaves in the store, where it is one of the store's. -/
def ActorEffect.snapshot? : ActorEffect Text → Option (StoredPlaybackSnapshot Text)
  | .loaded snapshot => some snapshot
  | .stored snapshot => some snapshot
  | _ => none

def ActorEffect.publication? : ActorEffect Text → Option PlaybackPublication
  | .published publication => some publication
  | .answered publication => some publication
  | _ => none

def lastStored (effects : List (ActorEffect Text)) : Option (StoredPlaybackSnapshot Text) :=
  (effects.filterMap ActorEffect.snapshot?).getLast?

theorem lastStored_append {effects more : List (ActorEffect Text)}
    (h : ∀ effect ∈ more, effect.snapshot? = none) :
    lastStored (effects ++ more) = lastStored effects := by
  have hnone : more.filterMap ActorEffect.snapshot? = [] := List.filterMap_eq_nil_iff.mpr h
  rw [lastStored, List.filterMap_append, hnone, List.append_nil, ← lastStored]

theorem lastStored_concat_stored (effects : List (ActorEffect Text))
    (snapshot : StoredPlaybackSnapshot Text) :
    lastStored (effects ++ [.stored snapshot]) = some snapshot := by
  rw [lastStored, List.filterMap_append]
  exact List.getLast?_concat

variable (codec : JsonCodec Text)

/-- A restart from the row gives the state back, as far as it is durable: as it was loaded,
or as the numbers that were written are read. -/
def StoredPlaybackSnapshot.Restores (snapshot : StoredPlaybackSnapshot Text)
    (state : PlaybackState) : Prop :=
  ∃ decoded, decodePersistedState codec snapshot.stateJson = .ok decoded ∧
    (decoded.AgreesDurably state ∨ decoded.AgreesDurably (state.reread codec.reading))

/-- What the effect shows was stored by the effects before it. -/
def Backed (before : List (ActorEffect Text)) (effect : ActorEffect Text) : Prop :=
  ∀ publication, effect.publication? = some publication →
    ∃ snapshot, lastStored before = some snapshot ∧ snapshot.Restores codec publication.state

variable {codec}

theorem StoredPlaybackSnapshot.Restores.congr {snapshot : StoredPlaybackSnapshot Text}
    {state state' : PlaybackState} (h : snapshot.Restores codec state)
    (hdurable : state.durable = state'.durable) : snapshot.Restores codec state' := by
  obtain ⟨decoded, hdecoded, hagrees⟩ := h
  have hnormal := decodePersistedState_normalized hdecoded
  refine ⟨decoded, hdecoded, ?_⟩
  rw [agreesDurably_iff hnormal, agreesDurably_iff hnormal] at hagrees ⊢
  rwa [← hdurable, ← durable_reread hdurable]

theorem backed_of_publication?_none {before : List (ActorEffect Text)}
    {effect : ActorEffect Text} (h : effect.publication? = none) : Backed codec before effect := by
  intro publication hsome
  rw [h] at hsome
  cases hsome

end

/-! ## Changes that leave the durable part alone -/

theorem PlaybackState.UpToRevision.durable {next state : PlaybackState}
    (h : next.UpToRevision state) : state.durable = next.durable := by
  unfold PlaybackState.UpToRevision at h
  rw [h]
  rfl

theorem durable_applyOutputPolicy (state : PlaybackState) (multipleOutputs : Bool) :
    (state.applyOutputPolicy multipleOutputs).1.durable = state.durable := by
  unfold PlaybackState.applyOutputPolicy
  simp only
  split <;> rfl

theorem durable_withOutputPolicy (catalog : CatalogSnapshot) (reduction : Reduction) :
    (withOutputPolicy catalog reduction).nextState.durable = reduction.nextState.durable := by
  unfold withOutputPolicy
  split
  · rfl
  · exact durable_applyOutputPolicy _ _

theorem persistence_withOutputPolicy (catalog : CatalogSnapshot) (reduction : Reduction) :
    (withOutputPolicy catalog reduction).persistence = reduction.persistence := by
  unfold withOutputPolicy
  split <;> rfl

theorem durable_reportPosition (state : PlaybackState) (deviceId : String) (positionMs : ℕ)
    (clock : ClockSample) : (reportPosition state deviceId positionMs clock).durable =
      state.durable := by
  unfold reportPosition
  simp only
  split <;> rfl

variable {context : ReductionContext} {command : PlaybackCommand}

theorem applyCommand_throttled_report {state : PlaybackState} {r : Reduction}
    (h : applyCommand state command context = .ok r) (hthrottled : r.persistence = .throttled) :
    ∃ deviceId positionMs, command = .reportPosition deviceId positionMs := by
  cases command with
  | reportPosition deviceId positionMs => exact ⟨deviceId, positionMs, rfl⟩
  | fireCue cue =>
    obtain ⟨fired, -, h⟩ := bind_eq_ok.mp h
    cases h
    simp only at hthrottled
    split at hthrottled <;> cases hthrottled
  | fireSfx soundboardId itemPath volume =>
    cases h
    cases hthrottled
  | presetsChanged | ambientPlayTrack | ambientJumpQueue | ambientSkipNext | ambientSkipPrevious
  | ambientSeek | ambientStop | ambientPlaySequence | fireInterruptSequence | interruptSkipNext
  | interruptSeek | cancelInterrupt =>
    obtain ⟨next, -, h⟩ := bind_eq_ok.mp h
    cases h
    cases hthrottled
  | _ =>
    cases h
    cases hthrottled

theorem applyCommand_throttled {state : PlaybackState} {r : Reduction}
    (h : applyCommand state command context = .ok r) (hthrottled : r.persistence = .throttled) :
    r.nextState.durable = state.durable := by
  obtain ⟨deviceId, positionMs, rfl⟩ := applyCommand_throttled_report h hthrottled
  cases h
  exact durable_reportPosition _ _ _ _

theorem reduce_throttled {state : PlaybackState} {r : Reduction}
    (h : reduce state command context = .ok r) (hthrottled : r.persistence = .throttled) :
    r.nextState.durable = state.durable := by
  obtain ⟨r', hr', rfl⟩ := reduce_eq_ok.mp h
  rw [nextState_settle]
  apply applyCommand_throttled hr'
  unfold Reduction.settle at hthrottled
  split at hthrottled
  · cases hthrottled
  · exact hthrottled

theorem decideCommand_throttled {a : PlaybackActor} {resolved : ResolvedPlaybackCommand} {draw : Draw}
    {sample : ClockSample} {reduction : Reduction}
    (h : decideCommand a resolved draw = .ok (sample, reduction))
    (hthrottled : reduction.persistence = .throttled) :
    reduction.nextState.durable = a.state.durable := by
  obtain ⟨-, -, -, r, hr, rfl⟩ := decideCommand_eq_ok h
  rw [durable_withOutputPolicy]
  rw [persistence_withOutputPolicy] at hthrottled
  exact reduce_throttled hr hthrottled

/-! ## The store in step with the owner -/

namespace World

variable {Text : Type} (codec : JsonCodec Text)

/-- The row is the one the owner last wrote or loaded, and it restores `state`. -/
def StoreHolds (w : World Text) (state : PlaybackState) : Prop :=
  ∃ snapshot, w.row = some snapshot ∧ lastStored w.effects = some snapshot ∧
    snapshot.storageRevision = w.actor.storageRevision ∧ snapshot.Restores codec state

/-- Nothing has been shown before it was stored. -/
def NothingAhead (w : World Text) : Prop := Trace.Causal (Backed codec) w.effects

structure CrashConsistent (w : World Text) : Prop where
  stored : w.StoreHolds codec w.actor.state
  causal : w.NothingAhead codec

/-- How a step of the owner ends: in a world that is crash consistent, or with an error
that stops the owner before it shows anything more. -/
structure Settles {α : Type} (r : World Text × Except PlaybackActorError α) : Prop where
  causal : r.1.NothingAhead codec
  stored : r.1.StoreHolds codec r.1.actor.state ∨ ∃ error, r.2 = .error error ∧ isFatal error

variable {codec}
variable {w : World Text}

theorem CrashConsistent.settles {α : Type} (h : w.CrashConsistent codec)
    (result : Except PlaybackActorError α) : Settles codec (w, result) :=
  ⟨h.causal, .inl h.stored⟩

theorem CrashConsistent.congr (h : w.CrashConsistent codec) (actor : PlaybackActor)
    (hrevision : actor.storageRevision = w.actor.storageRevision)
    (hdurable : w.actor.state.durable = actor.state.durable) :
    ({ w with actor := actor } : World Text).CrashConsistent codec := by
  obtain ⟨snapshot, hrow, hlast, hsnapshot, hrestores⟩ := h.stored
  refine ⟨⟨snapshot, hrow, hlast, ?_, hrestores.congr hdurable⟩, h.causal⟩
  rw [hsnapshot, hrevision]

/-! ## The moves -/

theorem CrashConsistent.emitEvents (h : w.CrashConsistent codec) (events : List DomainEvent) :
    (w.emitEvents events).CrashConsistent codec := by
  obtain ⟨snapshot, hrow, hlast, hsnapshot, hrestores⟩ := h.stored
  refine ⟨⟨snapshot, hrow, ?_, hsnapshot, hrestores⟩, ?_⟩
  · rw [← hlast]
    apply lastStored_append
    intro effect heffect
    obtain ⟨event, -, rfl⟩ := List.mem_map.mp heffect
    rfl
  · apply h.causal.append
    intro before effect heffect
    obtain ⟨event, -, rfl⟩ := List.mem_map.mp heffect
    exact backed_of_publication?_none rfl

variable {sample : ClockSample}

theorem CrashConsistent.show (h : w.CrashConsistent codec) {effect : ActorEffect Text}
    (hsnapshot : effect.snapshot? = none)
    (hshows : effect.publication? = some (publication w.actor sample)) :
    ({ w with effects := w.effects ++ [effect] } : World Text).CrashConsistent codec := by
  obtain ⟨snapshot, hrow, hlast, hrevision, hrestores⟩ := h.stored
  constructor
  · refine ⟨snapshot, hrow, ?_, hrevision, hrestores⟩
    rw [← hlast]
    exact lastStored_append (by simpa using hsnapshot)
  · refine Trace.causal_concat.mpr ⟨h.causal, ?_⟩
    intro shown hshown
    rw [hshows] at hshown
    cases hshown
    refine ⟨snapshot, hlast, hrestores.congr ?_⟩
    exact (durable_materializePositions w.actor.state sample.monotonicMs).symm

theorem CrashConsistent.publish (h : w.CrashConsistent codec) (sample : ClockSample) :
    (w.publish sample).CrashConsistent codec :=
  h.show rfl rfl

/-- A write that succeeds leaves the new document in the row, one revision later; one
that fails may have left it there, but stops the owner. -/
theorem persistCandidate_spec (hcodec : codec.Reads) (hcausal : w.NothingAhead codec)
    (state : PlaybackState) (nowMs : ℕ) (fault : StoreFault) :
    let r := w.persistCandidate codec state nowMs fault
    r.1.NothingAhead codec ∧
      ((r.2 = .ok () ∧ r.1.StoreHolds codec state) ∨
        ∃ error, r.2 = .error error ∧ isFatal error = true) := by
  have hstored : ∀ snapshot : StoredPlaybackSnapshot Text,
      Trace.Causal (Backed codec) (w.effects ++ [.stored snapshot]) := by
    intro snapshot
    exact Trace.causal_concat.mpr ⟨hcausal, backed_of_publication?_none rfl⟩
  unfold persistCandidate compareAndSwap
  simp only
  by_cases hrefused : fault = .lostRequest ∨ w.actor.storageRevision < 0 ∨
      w.actor.storageRevision ≥ 2 ^ 63 - 1
  · rw [if_pos hrefused]
    exact ⟨hcausal, .inr ⟨_, rfl, rfl⟩⟩
  rw [if_neg hrefused]
  by_cases hexpected : w.row.map (·.storageRevision) = some w.actor.storageRevision
  · rw [if_pos hexpected]
    by_cases hreply : fault = .lostReply
    · rw [if_pos hreply]
      exact ⟨hstored _, .inr ⟨_, rfl, rfl⟩⟩
    · rw [if_neg hreply]
      refine ⟨hstored _, .inl ⟨rfl, ?_⟩⟩
      refine ⟨_, rfl, lastStored_concat_stored _ _, rfl, ?_⟩
      obtain ⟨decoded, hdecoded, hagrees⟩ := decode_encode hcodec state nowMs
      exact ⟨decoded, hdecoded, .inr hagrees⟩
  · rw [if_neg hexpected]
    by_cases hreply : fault = .lostReply
    · rw [if_pos hreply]
      exact ⟨hcausal, .inr ⟨_, rfl, rfl⟩⟩
    · rw [if_neg hreply]
      exact ⟨hcausal, .inr ⟨_, rfl, rfl⟩⟩

variable {state : PlaybackState} {fault : StoreFault}

theorem persistCandidate_adopt (hcodec : codec.Reads) {w w' : World Text}
    (hcausal : w.NothingAhead codec) {nowMs : ℕ}
    (h : w.persistCandidate codec state nowMs fault = (w', .ok ())) {actor : PlaybackActor}
    (hrevision : actor.storageRevision = w'.actor.storageRevision) (hstate : actor.state = state) :
    ({ w' with actor := actor } : World Text).CrashConsistent codec := by
  have hspec := persistCandidate_spec hcodec hcausal state nowMs fault
  rw [h] at hspec
  obtain ⟨hcausal', ⟨-, hstored⟩ | ⟨error, herror, -⟩⟩ := hspec
  · obtain ⟨snapshot, hrow, hlast, hsnapshot, hrestores⟩ := hstored
    refine ⟨⟨snapshot, hrow, hlast, ?_, ?_⟩, hcausal'⟩
    · rw [hsnapshot, hrevision]
    · rw [hstate]
      exact hrestores
  · cases herror

theorem persistCandidate_settles (hcodec : codec.Reads) {α : Type} {w w' : World Text}
    (hcausal : w.NothingAhead codec) {nowMs : ℕ} {error : PlaybackActorError}
    (h : w.persistCandidate codec state nowMs fault = (w', .error error)) :
    Settles (α := α) codec (w', .error error) := by
  have hspec := persistCandidate_spec hcodec hcausal state nowMs fault
  rw [h] at hspec
  obtain ⟨hcausal', ⟨hok, -⟩ | ⟨error', herror, hfatal⟩⟩ := hspec
  · cases hok
  · cases herror
    exact ⟨hcausal', .inr ⟨error, rfl, hfatal⟩⟩

/-! ## The turns -/

theorem commit_settles (hcodec : codec.Reads) (h : w.CrashConsistent codec)
    {reduction : Reduction} (hthrottled : reduction.persistence = .throttled →
      reduction.nextState.durable = w.actor.state.durable) (fault : StoreFault) :
    Settles codec (w.commit codec sample reduction fault) := by
  unfold commit
  split
  · exact (h.emitEvents _).settles _
  · next hpersistence =>
    have hchanged := h.congr { w.actor with state := reduction.nextState, dirtyPosition := true }
      rfl (hthrottled hpersistence).symm
    exact (hchanged.emitEvents _).settles _
  · split
    · exact (h.emitEvents _).settles _
    split
    · exact h.settles _
    next candidate _ =>
    split
    · next hpersist => exact persistCandidate_settles hcodec h.causal hpersist
    · next w' hpersist =>
      -- The document is in the row; memory follows, and then the subscribers.
      simp only
      split
      · apply CrashConsistent.settles
        apply CrashConsistent.emitEvents
        apply CrashConsistent.publish
        exact persistCandidate_adopt hcodec h.causal hpersist rfl rfl
      · apply CrashConsistent.settles
        apply CrashConsistent.emitEvents
        exact persistCandidate_adopt hcodec h.causal hpersist rfl rfl

theorem execute_settles (hcodec : codec.Reads) (h : w.CrashConsistent codec)
    (resolved : ResolvedPlaybackCommand) (draw : Draw) :
    Settles codec (w.execute codec resolved draw) := by
  unfold execute
  split
  · exact h.settles _
  · next sample reduction hadmission =>
    exact commit_settles hcodec h (decideCommand_throttled hadmission) draw.store

/-- The write of an external change, with the adoption that follows it.  Where nothing is
written, the candidate differs from the live state in nothing durable. -/
theorem persistExternalChange_adopt (hcodec : codec.Reads) {w w' : World Text}
    (h : w.CrashConsistent codec) {durableChanged : Bool}
    (hpersist : w.persistExternalChange codec state durableChanged sample fault = (w', .ok ()))
    (hunchanged : durableChanged = false → state.durable = w.actor.state.durable)
    (connections : Connections) :
    ({ w' with actor := { w'.actor with state := state, connections := connections } } :
      World Text).CrashConsistent codec := by
  unfold persistExternalChange at hpersist
  split at hpersist
  · split at hpersist
    · next w'' hwrite =>
      cases hpersist
      exact persistCandidate_adopt hcodec h.causal hwrite rfl rfl
    · cases hpersist
  · next hquiet =>
    cases hpersist
    rw [Bool.or_eq_true, not_or, Bool.not_eq_true] at hquiet
    exact h.congr _ rfl (hunchanged hquiet.1).symm

theorem persistExternalChange_settles (hcodec : codec.Reads) {α : Type} {w w' : World Text}
    (h : w.CrashConsistent codec) {durableChanged : Bool} {error : PlaybackActorError}
    (hpersist : w.persistExternalChange codec state durableChanged sample fault =
      (w', .error error)) : Settles (α := α) codec (w', .error error) := by
  unfold persistExternalChange at hpersist
  split at hpersist
  · split at hpersist
    · cases hpersist
    · next hwrite =>
      cases hpersist
      exact persistCandidate_settles hcodec h.causal hwrite
  · cases hpersist

theorem commitExternalChange_settles (hcodec : codec.Reads) (h : w.CrashConsistent codec)
    (state : PlaybackState) (connections : Connections) (durableChanged presenceChanged : Bool)
    (sample : ClockSample) (fault : StoreFault)
    (hunchanged : durableChanged = false → state = w.actor.state) :
    Settles codec (w.commitExternalChange codec state connections durableChanged presenceChanged
      sample fault) := by
  unfold commitExternalChange
  split
  · exact (h.congr { w.actor with connections := connections } rfl rfl).settles _
  split
  · exact h.settles _
  next candidate hcandidate =>
  have hdurable := (bumpPublicationRevision_upToRevision hcandidate).durable
  split
  · next hpersist => exact persistExternalChange_settles hcodec h hpersist
  · next w' hpersist =>
    apply CrashConsistent.settles
    apply CrashConsistent.publish
    apply persistExternalChange_adopt hcodec h hpersist
    intro hquiet
    rw [hdurable, hunchanged hquiet]

theorem registerConnection_settles (hcodec : codec.Reads) (h : w.CrashConsistent codec)
    (connectionId : ConnectionId) (registration : ClientRegistration) (draw : Draw) :
    Settles codec (w.registerConnection codec connectionId registration draw) := by
  unfold registerConnection
  split
  · exact h.settles _
  split
  · exact h.settles _
  split
  · exact h.settles _
  split
  · exact h.settles _
  simp only
  split
  · exact h.settles _
  next state durableChanged hregistered =>
  apply commitExternalChange_settles hcodec h
  rintro rfl
  exact registeredState_unchanged hregistered

theorem disconnect_settles (hcodec : codec.Reads) (h : w.CrashConsistent codec)
    (connectionId : ConnectionId) (draw : Draw) :
    Settles codec (w.disconnect codec connectionId draw) := by
  unfold disconnect
  split
  · exact h.settles _
  split
  · exact h.settles _
  simp only
  split
  · exact h.settles _
  next state durableChanged hdisconnected =>
  apply commitExternalChange_settles hcodec h
  rintro rfl
  exact disconnectedState_unchanged hdisconnected

theorem refreshClientMetadata_consistent (h : w.CrashConsistent codec) (clientId : String)
    (rememberedName : Option String) (isDefaultOutput : Bool) (draw : Draw) :
    (w.refreshClientMetadata clientId rememberedName isDefaultOutput draw).1.CrashConsistent
      codec := by
  have hrefreshed := h.congr
    { w.actor with
      connections :=
        refreshedConnections w.actor.connections clientId rememberedName isDefaultOutput } rfl rfl
  unfold refreshClientMetadata
  split
  · exact h
  simp only
  split
  · split
    · exact hrefreshed
    · exact hrefreshed.publish _
  · exact hrefreshed

theorem openConnection_consistent (h : w.CrashConsistent codec) :
    w.openConnection.1.CrashConsistent codec := by
  unfold openConnection
  simp only
  split
  · exact h
  · exact h.congr _ rfl rfl

theorem replaceCatalog_settles (hcodec : codec.Reads) (h : w.CrashConsistent codec)
    (catalog : CatalogSnapshot) (presets : Bool) (draw : Draw) :
    Settles codec (w.replaceCatalog codec catalog presets draw) := by
  unfold replaceCatalog
  split
  · exact h.settles _
  split
  · exact h.settles _
  split
  · exact h.settles _
  split
  · exact h.settles _
  split
  · exact (h.congr { w.actor with catalog := catalog } rfl rfl).settles _
  split
  · exact h.settles _
  split
  · next hpersist => exact persistCandidate_settles hcodec h.causal hpersist
  · next w' hpersist =>
    apply CrashConsistent.settles
    apply CrashConsistent.publish
    exact persistCandidate_adopt hcodec h.causal hpersist rfl rfl

theorem flushPosition_settles (hcodec : codec.Reads) (h : w.CrashConsistent codec)
    (draw : Draw) : Settles codec (w.flushPosition codec draw) := by
  unfold flushPosition
  split
  · exact h.settles _
  split
  · exact h.settles _
  split
  · next hpersist => exact persistCandidate_settles hcodec h.causal hpersist
  · next sample _ _ w' hpersist =>
    have hsame := sameSession_persistCandidate codec w w.actor.state sample.monotonicMs draw.store
    rw [hpersist] at hsame
    apply CrashConsistent.settles
    exact persistCandidate_adopt hcodec h.causal hpersist rfl hsame.state

theorem fireDueLoop_consistent (h : w.CrashConsistent codec) (sample : ClockSample) (id : String) :
    (fireDueLoop sample w id).CrashConsistent codec := by
  unfold fireDueLoop
  split
  · exact h.congr _ rfl rfl
  · apply CrashConsistent.emitEvents
    exact h.congr _ rfl rfl

theorem fireDueLoops_consistent (h : w.CrashConsistent codec) (sample : ClockSample) :
    (w.fireDueLoops sample).CrashConsistent codec := by
  unfold fireDueLoops
  simp only
  induction (w.actor.loopDeadlinesMs.toList.filter (·.2 ≤ sample.monotonicMs)).map (·.1)
    generalizing w with
  | nil => exact h
  | cons id ids ih => exact ih (fireDueLoop_consistent h sample id)

theorem runDueEffects_settles (hcodec : codec.Reads) (config : PlaybackActorConfig)
    (h : w.CrashConsistent codec) (sample : Except PlaybackActorError ClockSample) (draw : Draw) :
    Settles codec (w.runDueEffects codec config sample draw) := by
  unfold runDueEffects
  split
  · exact h.settles _
  next sample =>
  have hfired := fireDueLoops_consistent h sample
  simp only
  split
  · exact hfired.settles _
  · next plan _ =>
    obtain ⟨hcausal, hstored⟩ := execute_settles hcodec hfired (dueCommand _ plan) draw
    refine ⟨hcausal, ?_⟩
    rcases hstored with hstored | ⟨error, herror, hfatal⟩
    · exact .inl hstored
    · refine .inr ⟨error, ?_, hfatal⟩
      rw [herror]
      rfl

theorem Settles.survive {α : Type} {r : World Text × Except PlaybackActorError α}
    (h : Settles codec r) : Settles codec (World.survive r) := by
  refine ⟨h.causal, ?_⟩
  rcases h.stored with hstored | ⟨error, herror, hfatal⟩
  · exact .inl hstored
  · refine .inr ⟨error, ?_, hfatal⟩
    simp only [World.survive, herror, hfatal, if_true]

theorem turn_settles (hcodec : codec.Reads) (config : PlaybackActorConfig)
    (h : w.CrashConsistent codec) (t : Turn) : Settles codec (w.turn codec config t) := by
  cases t with
  | flush draw => exact flushPosition_settles hcodec h draw
  | dueEffects sample draw => exact runDueEffects_settles hcodec config h sample draw
  | message message draw =>
    cases message with
    | execute resolved => exact (execute_settles hcodec h resolved draw).survive
    | snapshot =>
      simp only [turn, handleMessage]
      split
      · apply CrashConsistent.settles
        exact h.show rfl rfl
      · exact h.settles _
    | ambientSkipNext expectedTrackId => exact (execute_settles hcodec h _ draw).survive
    | openConnection => exact (openConnection_consistent h).settles _
    | registerConnection connectionId registration =>
      exact (registerConnection_settles hcodec h connectionId registration draw).survive
    | refreshClientMetadata clientId rememberedName isDefaultOutput =>
      exact (refreshClientMetadata_consistent h clientId rememberedName isDefaultOutput
        draw).settles _
    | disconnect connectionId => exact (disconnect_settles hcodec h connectionId draw).survive
    | replaceCatalog catalog presets =>
      exact (replaceCatalog_settles hcodec h catalog presets draw).survive
    | replaceLibraryCatalog generation tracks =>
      exact (replaceCatalog_settles hcodec h _ false draw).survive
    | replaceModeCatalog publication =>
      exact (replaceCatalog_settles hcodec h _ _ draw).survive

end World

/-! ## Starts and runs -/

section

variable {Text : Type} {codec : JsonCodec Text}
variable {catalog : CatalogSnapshot}

/-- Loading leaves the store in step: the document decodes to the state, or is written
anew from it. -/
theorem loadOrInitialize_consistent (hcodec : codec.Reads)
    {row : Option (StoredPlaybackSnapshot Text)} {nowMs : ℕ} {draw : StartDraw} {w : World Text}
    (h : loadOrInitialize codec row catalog nowMs draw = .ok w) : w.CrashConsistent codec := by
  have hstart : ∀ first : ActorEffect Text, first.publication? = none →
      Trace.Causal (Backed codec) [first] := by
    intro first hfirst
    rw [← List.nil_append [first]]
    exact Trace.causal_concat.mpr ⟨Trace.causal_nil, backed_of_publication?_none hfirst⟩
  unfold loadOrInitialize at h
  split at h
  · cases h
  split at h
  · next snapshot =>
    split at h
    · cases h
    next state hstate =>
    simp only at h
    split at h
    · cases h
      refine ⟨⟨snapshot, rfl, rfl, rfl, state, hstate, ?_⟩, hstart _ rfl⟩
      exact .inl ((agreesDurably_iff (decodePersistedState_normalized hstate)).mpr rfl)
    split at h
    · next w' hpersist =>
      let loaded : World Text :=
        ⟨initialActor state snapshot.storageRevision catalog nowMs, some snapshot,
          [.loaded snapshot]⟩
      have hcausal : loaded.NothingAhead codec := hstart _ rfl
      have hsame := World.sameSession_persistCandidate codec loaded state nowMs draw.firstWrite
      rw [hpersist] at hsame
      cases h
      exact World.persistCandidate_adopt hcodec hcausal hpersist rfl hsame.state
    · cases h
  · split at h
    · cases h
    cases h
    refine ⟨⟨_, rfl, rfl, rfl, ?_⟩, hstart _ rfl⟩
    obtain ⟨decoded, hdecoded, hagrees⟩ := decode_encode hcodec .default nowMs
    exact ⟨decoded, hdecoded, .inr hagrees⟩

theorem start_consistent (hcodec : codec.Reads) {config : PlaybackActorConfig}
    {row : Option (StoredPlaybackSnapshot Text)} {draw : StartDraw} {w : World Text}
    (h : startPlaybackActor codec config row catalog draw = .ok w) :
    w.CrashConsistent codec := by
  obtain ⟨-, -, h⟩ := bind_eq_ok.mp h
  obtain ⟨sample, -, h⟩ := bind_eq_ok.mp h
  obtain ⟨loaded, hloaded, h⟩ := bind_eq_ok.mp h
  have hconsistent := loadOrInitialize_consistent hcodec hloaded
  split at h
  · cases h
  next state pruned hpruned =>
  split at h
  · cases h
  next w' hpersist =>
  cases h
  apply World.CrashConsistent.publish
  unfold World.persistPruned at hpersist
  split at hpersist
  · exact World.persistCandidate_adopt hcodec hconsistent.causal hpersist rfl rfl
  · next hkept =>
    cases hpersist
    rw [Bool.not_eq_true] at hkept
    have hsame : state = loaded.actor.state := pruneForCatalog_unchanged hpruned hkept
    have hdurable : loaded.actor.state.durable = state.durable := by rw [hsame]
    exact hconsistent.congr
      (initialActor state loaded.actor.storageRevision catalog sample.monotonicMs) rfl hdurable

theorem crashConsistent_of_reachable (hcodec : codec.Reads) {config : PlaybackActorConfig}
    {w : World Text} (hw : (actorSystem codec config catalog).Reachable w) :
    w.CrashConsistent codec := by
  refine hw.invariant (P := fun w => w.CrashConsistent codec) ?_ ?_
  · rintro w ⟨row, draw, hstart⟩
    exact start_consistent hcodec hstart
  · intro w t w' hw hstep
    have hsettles := World.turn_settles hcodec config hw t
    rw [show w.turn codec config t = (w', .ok ()) from hstep] at hsettles
    rcases hsettles.stored with hstored | ⟨error, herror, -⟩
    · exact ⟨hstored, hsettles.causal⟩
    · cases herror

/-- **Crash consistency**: between any two turns the document in the row decodes to the
live state as a restart would see it, except for the fields that are not durable; where it
was written by this owner, its volumes are as the JSON library reads them back.  The row has
the storage revision the owner remembers.  Within every turn, also one that ends the owner,
what is shown to the clients is restored by the document stored last. -/
theorem stored_document_restores (hcodec : codec.Reads) {config : PlaybackActorConfig}
    {catalog : CatalogSnapshot} {w : World Text}
    (hw : (actorSystem codec config catalog).Reachable w) :
    (∃ snapshot decoded, w.row = some snapshot ∧
        snapshot.storageRevision = w.actor.storageRevision ∧
        decodePersistedState codec snapshot.stateJson = .ok decoded ∧
        (decoded.AgreesDurably w.actor.state ∨
          decoded.AgreesDurably (w.actor.state.reread codec.reading))) ∧
      lastStored w.effects = w.row ∧
      ∀ t, Trace.Causal (Backed codec) (w.turn codec config t).1.effects := by
  have hconsistent := crashConsistent_of_reachable hcodec hw
  obtain ⟨snapshot, hrow, hlast, hrevision, decoded, hdecoded, hagrees⟩ := hconsistent.stored
  refine ⟨⟨snapshot, decoded, hrow, hrevision, hdecoded, hagrees⟩, ?_, ?_⟩
  · rw [hlast, hrow]
  · intro t
    exact (World.turn_settles hcodec config hconsistent t).causal

end

/-! ## A volume that is read back as its neighbour -/

/-- The double that is written as 0.9195961073233087. -/
def writtenVolume : UnitInterval :=
  ⟨8282985372545223 / 9007199254740992, by norm_num, by norm_num⟩

/-- The double that is read from that text: its digits are rounded before they are divided. -/
def neighbourVolume : UnitInterval :=
  ⟨1035373171568153 / 1125899906842624, by norm_num, by norm_num⟩

def readBack (volume : UnitInterval) : UnitInterval :=
  if volume = writtenVolume then neighbourVolume else volume

/-- A store that keeps the documents, read as its JSON library reads this volume. -/
def roundingCodec : JsonCodec PersistedPlaybackState :=
  let reread : Float64 → Float64 := fun volume =>
    if volume = .finite writtenVolume.get then .finite neighbourVolume.get else volume
  { documentCodec with
    parse := fun document => some
      { document with
        defaultDeviceVolume := reread document.defaultDeviceVolume
        deviceVolumes := document.deviceVolumes.map fun _ volume => reread volume }
    reading := ⟨readBack, id⟩ }

theorem roundingCodec_reads : roundingCodec.Reads := by
  intro state
  have hvolume : ∀ volume : UnitInterval, (if Float64.finite volume.get =
      .finite writtenVolume.get then Float64.finite neighbourVolume.get else .finite volume.get) =
        .finite (readBack volume).get := by
    intro volume
    by_cases h : volume = writtenVolume
    · rw [readBack, if_pos h, if_pos (by rw [h])]
    · rw [readBack, if_neg h, if_neg]
      intro hget
      obtain ⟨get, hnonneg, hone⟩ := volume
      cases hget
      exact h rfl
  simp only [roundingCodec, documentCodec, PersistedPlaybackState.from, PlaybackState.reread,
    Std.ExtTreeMap.map_map, hvolume, id_eq, Option.map_id']

/-- An output joins, is given that volume, and reports where it is. -/
def loudTurns : List Turn :=
  [turnAt 0 .openConnection,
    turnAt 10 (.registerConnection 1 ⟨"hall", "Hall", none, true⟩),
    turnAt 20 (.execute (.direct (.setDeviceVolume "hall" writtenVolume))),
    turnAt 30 (.execute (.direct (.setPlaying true))),
    turnAt 500 (.execute (.direct (.reportPosition "hall" 480)))]

/-- The owner whose documents are read so, after these turns. -/
def loudWorld : World PersistedPlaybackState :=
  System.finish freshWorld (System.replay (ownerExec roundingCodec) freshWorld loudTurns)

theorem loudWorld_reachable : (actorSystem roundingCodec .default .default).Reachable loudWorld :=
  (System.isRun_replay (ownerExec_step roundingCodec) freshWorld loudTurns).reachable
    (.init ⟨none, ⟨.ok ⟨0, 0, le_refl 0⟩, .none, .none, .none⟩, rfl⟩) _
    (System.finish_mem_states _ _)

theorem stored_document_restores_loudTurns :
    loudWorld.actor.dirtyPosition = true ∧
      (∃ snapshot decoded, loudWorld.row = some snapshot ∧
        snapshot.storageRevision = loudWorld.actor.storageRevision ∧
        decodePersistedState roundingCodec snapshot.stateJson = .ok decoded ∧
        (decoded.AgreesDurably loudWorld.actor.state ∨
          decoded.AgreesDurably (loudWorld.actor.state.reread roundingCodec.reading))) ∧
      lastStored loudWorld.effects = loudWorld.row ∧
      ∀ t, Trace.Causal (Backed roundingCodec)
        (loudWorld.turn roundingCodec .default t).1.effects :=
  ⟨by decide +kernel, stored_document_restores roundingCodec_reads loudWorld_reachable⟩

theorem stored_volume_not_restored :
    ¬ ∀ w, (actorSystem roundingCodec .default .default).Reachable w →
      ∃ snapshot decoded, w.row = some snapshot ∧
        decodePersistedState roundingCodec snapshot.stateJson = .ok decoded ∧
        decoded.AgreesDurably w.actor.state := by
  intro h
  obtain ⟨snapshot, decoded, hrow, hdecoded, hagrees⟩ := h _ loudWorld_reachable
  have hread : (loudWorld.row.bind fun snapshot =>
      (decodePersistedState roundingCodec snapshot.stateJson).toOption).bind
        (fun decoded => decoded.deviceVolumes["hall"]?) = some neighbourVolume := by
    decide +kernel
  have hlive : loudWorld.actor.state.deviceVolumes["hall"]? = some writtenVolume := by
    decide +kernel
  have hvolumes : decoded.deviceVolumes = loudWorld.actor.state.deviceVolumes := by
    rw [hagrees]
    rfl
  rw [hrow, Option.bind_some, hdecoded, Except.toOption, Option.bind_some, hvolumes, hlive] at hread
  exact absurd hread (by decide +kernel)

end MusicServer
