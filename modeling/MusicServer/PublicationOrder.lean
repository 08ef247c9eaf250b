/-
# The order of publications

Clients discard what they receive by its publication revision.  A turn of the owner sends
nothing and keeps the revision, or sends one state under the next revision
(`World.Sends`); only a refresh of the metadata of a client sends a changed client list
under the revision it already had.  In a run without such a refresh each publication
supersedes the one before (`publications_ordered`).
-/
import MusicServer.CrashConsistency

namespace MusicServer

open Transition

/-! ## What is sent -/

section

variable {Text : Type}

/-- What an effect sends to the watch channel. -/
def ActorEffect.sent? : ActorEffect Text → Option PlaybackPublication
  | .published publication => some publication
  | _ => none

/-- The values the watch channel has been sent, in order. -/
def World.sent (w : World Text) : List PlaybackPublication :=
  w.effects.filterMap ActorEffect.sent?

def PlaybackPublication.revision (publication : PlaybackPublication) : ℕ :=
  publication.state.publicationRevision

/-- Two publications differ, and not only because their positions were read at different
times. -/
def PlaybackPublication.Differs (earlier later : PlaybackPublication) : Prop :=
  earlier.connectedClients ≠ later.connectedClients ∨
    ¬ ∃ (state : PlaybackState) (readMs rereadMs : ℕ),
      earlier.state = materializePositions state readMs ∧
        later.state = materializePositions state rereadMs

/-- Of two consecutive publications that differ the later one has the greater revision. -/
def World.PublishesInOrder (w : World Text) : Prop :=
  ∀ before earlier later after, w.sent = before ++ earlier :: later :: after →
    earlier.Differs later → earlier.revision < later.revision

end

namespace World

variable {Text : Type}

/-- A turn sends nothing under the revision it found, or one publication under the
next. -/
inductive Sends (w w' : World Text) : Prop where
  | nothing (hsent : w'.sent = w.sent)
      (hrevision : w'.actor.state.publicationRevision = w.actor.state.publicationRevision)
  | next (publication : PlaybackPublication) (hsent : w'.sent = w.sent ++ [publication])
      (hpublication : publication.revision = w'.actor.state.publicationRevision)
      (hrevision : w'.actor.state.publicationRevision = w.actor.state.publicationRevision + 1)

theorem Sends.refl (w : World Text) : Sends w w := .nothing rfl rfl

theorem sent_publish (w : World Text) (sample : ClockSample) :
    (w.publish sample).sent = w.sent ++ [publication w.actor sample] := by
  unfold sent publish
  rw [List.filterMap_append]
  rfl

theorem sent_emitEvents (w : World Text) (events : List DomainEvent) :
    (w.emitEvents events).sent = w.sent := by
  have hnone : (events.map (@ActorEffect.emitted Text)).filterMap ActorEffect.sent? =
      [] := by
    rw [List.filterMap_map]
    exact List.filterMap_eq_nil_iff.mpr fun _ _ => rfl
  unfold sent emitEvents
  rw [List.filterMap_append, hnone, List.append_nil]

variable (codec : JsonCodec Text)

theorem effects_persistCandidate (w : World Text) (state : PlaybackState) (nowMs : ℕ)
    (fault : StoreFault) :
    ∃ stored : List (StoredPlaybackSnapshot Text),
      (w.persistCandidate codec state nowMs fault).1.effects = w.effects ++ stored.map .stored := by
  unfold persistCandidate compareAndSwap
  simp only
  by_cases hrefused : fault = .lostRequest ∨ w.actor.storageRevision < 0 ∨
      w.actor.storageRevision ≥ 2 ^ 63 - 1
  · rw [if_pos hrefused]
    exact ⟨[], (List.append_nil _).symm⟩
  rw [if_neg hrefused]
  by_cases hrow : w.row.map (·.storageRevision) = some w.actor.storageRevision
  · rw [if_pos hrow]
    by_cases hlost : fault = .lostReply
    · rw [if_pos hlost]
      exact ⟨[_], rfl⟩
    · rw [if_neg hlost]
      exact ⟨[_], rfl⟩
  · rw [if_neg hrow]
    by_cases hlost : fault = .lostReply
    · rw [if_pos hlost]
      exact ⟨[], (List.append_nil _).symm⟩
    · rw [if_neg hlost]
      exact ⟨[], (List.append_nil _).symm⟩

theorem filterMap_persistCandidate {α : Type} {view : ActorEffect Text → Option α}
    (hview : ∀ snapshot, view (.stored snapshot) = none) (w : World Text)
    (state : PlaybackState) (nowMs : ℕ) (fault : StoreFault) :
    (w.persistCandidate codec state nowMs fault).1.effects.filterMap view =
      w.effects.filterMap view := by
  obtain ⟨stored, heffects⟩ := effects_persistCandidate codec w state nowMs fault
  have hnone : (stored.map ActorEffect.stored).filterMap view = [] := by
    rw [List.filterMap_map]
    exact List.filterMap_eq_nil_iff.mpr fun snapshot _ => hview snapshot
  rw [heffects, List.filterMap_append, hnone, List.append_nil]

theorem sent_persistCandidate (w : World Text) (state : PlaybackState) (nowMs : ℕ)
    (fault : StoreFault) : (w.persistCandidate codec state nowMs fault).1.sent = w.sent :=
  filterMap_persistCandidate codec (fun _ => rfl) w state nowMs fault

theorem sends_persistCandidate {w w' : World Text} {state : PlaybackState} {nowMs : ℕ}
    {fault : StoreFault} {result : Except PlaybackActorError Unit}
    (h : w.persistCandidate codec state nowMs fault = (w', result)) : Sends w w' := by
  have hsent := sent_persistCandidate codec w state nowMs fault
  have hsame := sameSession_persistCandidate codec w state nowMs fault
  rw [h] at hsent hsame
  exact .nothing hsent (congrArg PlaybackState.publicationRevision hsame.state)

end World

/-! ## Reductions -/

theorem applyCommand_throttled_revision {state : PlaybackState} {command : PlaybackCommand}
    {context : ReductionContext} {r : Reduction}
    (h : applyCommand state command context = .ok r) (hthrottled : r.persistence = .throttled) :
    r.nextState.publicationRevision = state.publicationRevision := by
  obtain ⟨deviceId, positionMs, rfl⟩ := applyCommand_throttled_report h hthrottled
  cases h
  unfold reportPosition
  simp only
  split <;> rfl

theorem applyCommand_immediate {state : PlaybackState} {command : PlaybackCommand}
    {context : ReductionContext} {r : Reduction}
    (h : applyCommand state command context = .ok r) (himmediate : r.persistence = .immediate) :
    r.publishState = true := by
  cases command with
  | fireCue cue =>
    obtain ⟨fired, -, h⟩ := bind_eq_ok.mp h
    cases h
    simp only at himmediate ⊢
    split at himmediate
    · assumption
    · cases himmediate
  | reportPosition | fireSfx =>
    cases h
    cases himmediate
  | presetsChanged | ambientPlayTrack | ambientJumpQueue | ambientSkipNext | ambientSkipPrevious
  | ambientSeek | ambientStop | ambientPlaySequence | fireInterruptSequence | interruptSkipNext
  | interruptSeek | cancelInterrupt =>
    obtain ⟨next, -, h⟩ := bind_eq_ok.mp h
    cases h
    rfl
  | _ =>
    cases h
    rfl

theorem persistence_settle {r : Reduction} (h : r.settle.persistence ≠ .none) :
    r.settle = r := by
  unfold Reduction.settle at h ⊢
  split at h
  · exact absurd rfl h
  · next hkept => rw [if_neg hkept]

theorem publicationRevision_applyOutputPolicy (state : PlaybackState) (multipleOutputs : Bool) :
    (state.applyOutputPolicy multipleOutputs).1.publicationRevision =
      state.publicationRevision := by
  unfold PlaybackState.applyOutputPolicy
  simp only
  split <;> rfl

theorem publicationRevision_withOutputPolicy (catalog : CatalogSnapshot) (reduction : Reduction) :
    (withOutputPolicy catalog reduction).nextState.publicationRevision =
      reduction.nextState.publicationRevision := by
  unfold withOutputPolicy
  split
  · rfl
  · exact publicationRevision_applyOutputPolicy _ _

theorem publishState_withOutputPolicy (catalog : CatalogSnapshot) (reduction : Reduction) :
    (withOutputPolicy catalog reduction).publishState = reduction.publishState := by
  unfold withOutputPolicy
  split <;> rfl

theorem decideCommand_revision {a : PlaybackActor} {resolved : ResolvedPlaybackCommand}
    {draw : Draw} {sample : ClockSample} {reduction : Reduction}
    (h : decideCommand a resolved draw = .ok (sample, reduction)) :
    (reduction.persistence = .throttled →
        reduction.nextState.publicationRevision = a.state.publicationRevision) ∧
      (reduction.persistence = .immediate → reduction.publishState = true) := by
  obtain ⟨-, -, -, r, hr, rfl⟩ := decideCommand_eq_ok h
  obtain ⟨applied, happlied, rfl⟩ := reduce_eq_ok.mp hr
  rw [persistence_withOutputPolicy, publicationRevision_withOutputPolicy,
    publishState_withOutputPolicy, nextState_settle]
  constructor
  · intro hthrottled
    rw [persistence_settle (by rw [hthrottled]; decide)] at hthrottled
    exact applyCommand_throttled_revision happlied hthrottled
  · intro himmediate
    have hkept := persistence_settle (r := applied) (by rw [himmediate]; decide)
    rw [hkept] at himmediate ⊢
    exact applyCommand_immediate happlied himmediate

theorem bumpPublicationRevision_revision {next state : PlaybackState} {revision : ℕ}
    (h : bumpPublicationRevision next revision = .ok state) :
    state.publicationRevision = revision + 1 := by
  unfold bumpPublicationRevision at h
  split at h
  · next bumped hbumped =>
    cases h
    exact checkedIncrement_eq_some hbumped
  · cases h

/-! ## Turns -/

namespace World

variable {Text : Type} (codec : JsonCodec Text)

theorem Sends.publish {w : World Text} {shown : World Text} (sample : ClockSample)
    (hsent : shown.sent = w.sent)
    (hrevision : shown.actor.state.publicationRevision =
      w.actor.state.publicationRevision + 1) : Sends w (shown.publish sample) := by
  refine .next (publication shown.actor sample) ?_ rfl hrevision
  rw [sent_publish, hsent]

theorem Sends.emitEvents {w w' : World Text} (h : Sends w w') (events : List DomainEvent) :
    Sends w (w'.emitEvents events) := by
  rcases h with ⟨hsent, hrevision⟩ | ⟨publication, hsent, hpublication, hrevision⟩
  · refine .nothing ?_ hrevision
    rw [sent_emitEvents, hsent]
  · refine .next publication ?_ hpublication hrevision
    rw [sent_emitEvents, hsent]

theorem Sends.of_nothing {w w' w'' : World Text} (hsent : w'.sent = w.sent)
    (hrevision : w'.actor.state.publicationRevision = w.actor.state.publicationRevision)
    (h : Sends w' w'') : Sends w w'' := by
  rcases h with ⟨hsent', hrevision'⟩ | ⟨publication, hsent', hpublication, hrevision'⟩
  · exact .nothing (hsent'.trans hsent) (hrevision'.trans hrevision)
  · refine .next publication ?_ hpublication ?_
    · rw [hsent', hsent]
    · rw [hrevision', hrevision]

theorem commit_sends {w : World Text} {sample : ClockSample} {reduction : Reduction}
    {fault : StoreFault}
    (hthrottled : reduction.persistence = .throttled →
      reduction.nextState.publicationRevision = w.actor.state.publicationRevision)
    (himmediate : reduction.persistence = .immediate → reduction.publishState = true) :
    Sends w (w.commit codec sample reduction fault).1 := by
  unfold commit
  split
  · exact (Sends.refl w).emitEvents _
  · next hthrottle =>
    simp only
    refine Sends.emitEvents (.nothing ?_ ?_) _
    · rfl
    · exact hthrottled hthrottle
  next himmediately =>
  have hpublished := himmediate himmediately
  split
  · exact (Sends.refl w).emitEvents _
  split
  · exact .refl w
  next candidate hcandidate =>
  have hrevision : candidate.publicationRevision = w.actor.state.publicationRevision + 1 := by
    unfold commitCandidate at hcandidate
    rw [if_pos hpublished] at hcandidate
    exact bumpPublicationRevision_revision hcandidate
  split
  · next hpersist => exact sends_persistCandidate codec hpersist
  · next stored hpersist =>
    have hsent := sent_persistCandidate codec w candidate sample.monotonicMs fault
    rw [hpersist] at hsent
    simp only
    refine Sends.emitEvents (.publish sample ?_ ?_) _
    · exact hsent
    · exact hrevision

theorem execute_sends (w : World Text) (resolved : ResolvedPlaybackCommand) (draw : Draw) :
    Sends w (w.execute codec resolved draw).1 := by
  unfold execute
  split
  · exact .refl w
  · next sample reduction hdecided =>
    obtain ⟨hthrottled, himmediate⟩ := decideCommand_revision hdecided
    exact commit_sends codec hthrottled himmediate

theorem commitExternalChange_sends (w : World Text) (state : PlaybackState)
    (connections : Connections) (durableChanged presenceChanged : Bool) (sample : ClockSample)
    (fault : StoreFault) :
    Sends w (w.commitExternalChange codec state connections durableChanged presenceChanged
      sample fault).1 := by
  unfold commitExternalChange
  split
  · exact .nothing rfl rfl
  split
  · exact .refl w
  next candidate hcandidate =>
  have hrevision := bumpPublicationRevision_revision hcandidate
  unfold persistExternalChange
  split
  · next hpersist =>
    split at hpersist
    · split at hpersist
      · cases hpersist
      · next hwritten =>
        cases hpersist
        exact sends_persistCandidate codec hwritten
    · cases hpersist
  · next stored hpersist =>
    have hsent : stored.sent = w.sent := by
      split at hpersist
      · split at hpersist
        · next written hwritten =>
          cases hpersist
          have hsent := sent_persistCandidate codec w candidate sample.monotonicMs fault
          rw [hwritten] at hsent
          exact hsent
        · cases hpersist
      · cases hpersist
        rfl
    exact .publish sample hsent hrevision

theorem registerConnection_sends (w : World Text) (connectionId : ConnectionId)
    (registration : ClientRegistration) (draw : Draw) :
    Sends w (w.registerConnection codec connectionId registration draw).1 := by
  unfold registerConnection
  split
  · exact .refl w
  split
  · exact .refl w
  split
  · exact .refl w
  split
  · exact .refl w
  simp only
  split
  · exact .refl w
  exact commitExternalChange_sends codec w _ _ _ _ _ draw.store

theorem disconnect_sends (w : World Text) (connectionId : ConnectionId) (draw : Draw) :
    Sends w (w.disconnect codec connectionId draw).1 := by
  unfold disconnect
  split
  · exact .refl w
  split
  · exact .refl w
  simp only
  split
  · exact .refl w
  exact commitExternalChange_sends codec w _ _ _ _ _ draw.store

theorem replaceCatalog_sends (w : World Text) (catalog : CatalogSnapshot) (presets : Bool)
    (draw : Draw) : Sends w (w.replaceCatalog codec catalog presets draw).1 := by
  unfold replaceCatalog
  split
  · exact .refl w
  split
  · exact .refl w
  split
  · exact .refl w
  next sample _ =>
  split
  · exact .refl w
  split
  · exact .nothing rfl rfl
  split
  · exact .refl w
  next candidate hcandidate =>
  have hrevision := bumpPublicationRevision_revision hcandidate
  split
  · next hpersist => exact sends_persistCandidate codec hpersist
  · next stored hpersist =>
    have hsent := sent_persistCandidate codec w candidate sample.monotonicMs draw.store
    rw [hpersist] at hsent
    exact .publish sample hsent hrevision

theorem flushPosition_sends (w : World Text) (draw : Draw) :
    Sends w (w.flushPosition codec draw).1 := by
  unfold flushPosition
  split
  · exact .refl w
  split
  · exact .refl w
  split
  · next hpersist => exact sends_persistCandidate codec hpersist
  · next hpersist =>
    have hsends := sends_persistCandidate codec hpersist
    rcases hsends with ⟨hsent, hrevision⟩ | ⟨publication, hsent, hpublication, hrevision⟩
    · exact .nothing hsent hrevision
    · exact .next publication hsent hpublication hrevision

theorem openConnection_sends (w : World Text) : Sends w w.openConnection.1 := by
  unfold openConnection
  simp only
  split
  · exact .refl w
  · exact .nothing rfl rfl

theorem sent_fireDueLoops (w : World Text) (sample : ClockSample) :
    (w.fireDueLoops sample).sent = w.sent := by
  have hloop : ∀ (w : World Text) (id : String), (fireDueLoop sample w id).sent = w.sent := by
    intro w id
    unfold fireDueLoop
    split
    · rfl
    · exact sent_emitEvents _ _
  unfold fireDueLoops
  simp only
  generalize (w.actor.loopDeadlinesMs.toList.filter (·.2 ≤ sample.monotonicMs)).map (·.1) = ids
  induction ids generalizing w with
  | nil => rfl
  | cons id rest ih => rw [List.foldl_cons, ih, hloop]

theorem runDueEffects_sends (config : PlaybackActorConfig) (w : World Text)
    (sample : Except PlaybackActorError ClockSample) (draw : Draw) :
    Sends w (w.runDueEffects codec config sample draw).1 := by
  unfold runDueEffects
  split
  · exact .refl w
  next sample =>
  have hsent := sent_fireDueLoops w sample
  have hrevision : (w.fireDueLoops sample).actor.state.publicationRevision =
      w.actor.state.publicationRevision := by
    obtain ⟨deadlines, hactor⟩ := actor_fireDueLoops w sample
    rw [hactor]
  simp only
  split
  · exact .nothing hsent hrevision
  · exact .of_nothing hsent hrevision (execute_sends codec _ _ draw)

end World

/-! ## Metadata -/

/-- The turn refreshes the metadata of a client, changes the client list that is shown, and
can read the clock to publish it. -/
def Turn.RefreshesClients {Text : Type} (w : World Text) (t : Turn) : Prop :=
  ∃ clientId rememberedName isDefaultOutput draw sample,
    t = .message (.refreshClientMetadata clientId rememberedName isDefaultOutput) draw ∧
    draw.sample = .ok sample ∧
    connectedClients w.actor.connections ≠ connectedClients
      (refreshedConnections w.actor.connections clientId rememberedName isDefaultOutput)

namespace World

variable {Text : Type} (codec : JsonCodec Text)

theorem refreshClientMetadata_sends {w : World Text} {clientId : String}
    {rememberedName : Option String} {isDefaultOutput : Bool} {draw : Draw}
    (h : ¬ Turn.RefreshesClients w
      (.message (.refreshClientMetadata clientId rememberedName isDefaultOutput) draw)) :
    Sends w (w.refreshClientMetadata clientId rememberedName isDefaultOutput draw).1 := by
  unfold refreshClientMetadata
  split
  · exact .refl w
  simp only
  split
  · next hchanged =>
    split
    · exact .nothing rfl rfl
    · next sample hsample =>
      rw [bne_iff_ne] at hchanged
      exact absurd ⟨clientId, rememberedName, isDefaultOutput, draw, sample, rfl, hsample,
        hchanged⟩ h
  · exact .nothing rfl rfl

theorem handleMessage_sends {w : World Text} {message : ActorMessage} {draw : Draw}
    (h : ¬ Turn.RefreshesClients w (.message message draw)) :
    Sends w (w.handleMessage codec message draw).1 := by
  cases message with
  | execute command => exact execute_sends codec w command draw
  | snapshot =>
    unfold handleMessage
    simp only
    split
    · refine .nothing ?_ rfl
      unfold sent
      rw [List.filterMap_append]
      exact List.append_nil _
    · exact .refl w
  | ambientSkipNext expectedTrackId => exact execute_sends codec w _ draw
  | openConnection => exact openConnection_sends w
  | registerConnection connectionId registration =>
    exact registerConnection_sends codec w connectionId registration draw
  | refreshClientMetadata clientId rememberedName isDefaultOutput =>
    exact refreshClientMetadata_sends h
  | disconnect connectionId => exact disconnect_sends codec w connectionId draw
  | replaceCatalog catalog presets => exact replaceCatalog_sends codec w catalog presets draw
  | replaceLibraryCatalog generation tracks | replaceModeCatalog publication =>
    exact replaceCatalog_sends codec w _ _ draw

theorem turn_sends (config : PlaybackActorConfig) {w : World Text} {t : Turn}
    (h : ¬ t.RefreshesClients w) : Sends w (w.turn codec config t).1 := by
  cases t with
  | message message draw => exact handleMessage_sends codec h
  | dueEffects sample draw => exact runDueEffects_sends codec config w sample draw
  | flush draw => exact flushPosition_sends codec w draw

/-! ## Runs -/

/-- The publications so far have increasing revisions, none above the current one. -/
structure InOrder (w : World Text) : Prop where
  increasing : w.sent.Pairwise (·.revision < ·.revision)
  current : ∀ publication ∈ w.sent,
    publication.revision ≤ w.actor.state.publicationRevision

theorem InOrder.sends {w w' : World Text} (h : InOrder w) (hsends : Sends w w') : InOrder w' := by
  rcases hsends with ⟨hsent, hrevision⟩ | ⟨publication, hsent, hpublication, hrevision⟩
  · refine ⟨?_, ?_⟩
    · rw [hsent]
      exact h.increasing
    · rw [hsent, hrevision]
      exact h.current
  · refine ⟨?_, ?_⟩
    · rw [hsent, List.pairwise_append]
      refine ⟨h.increasing, List.pairwise_singleton _ _, ?_⟩
      intro earlier hearlier later hlater
      rw [List.mem_singleton.mp hlater, hpublication, hrevision]
      have hle := h.current earlier hearlier
      omega
    · intro shown hshown
      rw [hsent, List.mem_append, List.mem_singleton] at hshown
      rcases hshown with hshown | rfl
      · have hle := h.current shown hshown
        omega
      · rw [hpublication]

theorem InOrder.publishesInOrder {w : World Text} (h : InOrder w) : w.PublishesInOrder := by
  intro before earlier later after hsent _
  have hincreasing := h.increasing
  rw [hsent, List.pairwise_append] at hincreasing
  exact List.rel_of_pairwise_cons hincreasing.2.1 List.mem_cons_self

variable {config : PlaybackActorConfig} {row : Option (StoredPlaybackSnapshot Text)}
  {catalog : CatalogSnapshot} {draw : StartDraw} {w : World Text}

theorem sent_loadOrInitialize {nowMs : ℕ}
    (h : loadOrInitialize codec row catalog nowMs draw = .ok w) : w.sent = [] := by
  unfold loadOrInitialize at h
  split at h
  · cases h
  split at h
  · split at h
    · cases h
    next snapshot _ state _ =>
    simp only at h
    split at h
    · cases h
      rfl
    split at h
    · next written hwritten =>
      cases h
      have hsent := sent_persistCandidate codec
        ⟨initialActor state snapshot.storageRevision catalog nowMs, some snapshot,
          [.loaded snapshot]⟩ state nowMs draw.firstWrite
      rw [hwritten] at hsent
      exact hsent
    · cases h
  · split at h
    · cases h
    · cases h
      rfl

theorem start_sent (h : startPlaybackActor codec config row catalog draw = .ok w) :
    ∃ shown, w.sent = [shown] ∧ shown.revision = w.actor.state.publicationRevision := by
  obtain ⟨-, -, h⟩ := bind_eq_ok.mp h
  obtain ⟨sample, -, h⟩ := bind_eq_ok.mp h
  obtain ⟨loaded, hloaded, h⟩ := bind_eq_ok.mp h
  have hempty := sent_loadOrInitialize codec hloaded
  split at h
  · cases h
  next state pruned hpruned =>
  split at h
  · cases h
  next stored hstored =>
  cases h
  have hsent : stored.sent = [] := by
    unfold persistPruned at hstored
    split at hstored
    · have hsent := sent_persistCandidate codec loaded state sample.monotonicMs draw.pruneWrite
      rw [hstored] at hsent
      exact hsent.trans hempty
    · cases hstored
      exact hempty
  let actor := initialActor state stored.actor.storageRevision catalog sample.monotonicMs
  refine ⟨publication actor sample, ?_, rfl⟩
  rw [sent_publish]
  exact congrArg (· ++ [publication actor sample]) hsent

theorem start_inOrder (h : startPlaybackActor codec config row catalog draw = .ok w) :
    InOrder w := by
  obtain ⟨shown, hsent, hrevision⟩ := start_sent codec h
  refine ⟨?_, ?_⟩
  · rw [hsent]
    exact List.pairwise_singleton _ _
  · intro publication hmem
    rw [hsent, List.mem_singleton] at hmem
    rw [hmem]
    exact hrevision.le

end World

/-- **Publication order**: in a run in which no refresh of metadata changes the client list
that is shown, each publication has a greater revision than the one it supersedes. -/
theorem publications_ordered {Text : Type} {codec : JsonCodec Text}
    {config : PlaybackActorConfig} {catalog : CatalogSnapshot} {w₀ : World Text}
    {run : List (Turn × World Text)} (hstart : (actorSystem codec config catalog).init w₀)
    (hrun : (actorSystem codec config catalog).IsRun w₀ run)
    (hmetadata : ∀ t ∈ System.steps w₀ run, ¬ t.2.1.RefreshesClients t.1) :
    ∀ w ∈ System.states w₀ run, w.PublishesInOrder := by
  have hordered : ∀ w ∈ System.states w₀ run, w.InOrder := by
    refine hrun.forall_states (P := World.InOrder)
      (G := fun w t => ¬ t.RefreshesClients w) ?_ ?_ hmetadata
    · intro w t w' h hstep hguard
      have hsends := World.turn_sends codec config hguard
      rw [show w.turn codec config t = (w', .ok ()) from hstep] at hsends
      exact h.sends hsends
    · obtain ⟨row, draw, hstart⟩ := hstart
      exact World.start_inOrder codec hstart
  intro w hw
  exact (hordered w hw).publishesInOrder

/-! ## Metadata changes included -/

/-- Each publication has the revision of the one before it or the next one, and the last has the
revision that the owner is at. -/
structure World.Gapless {Text : Type} (w : World Text) : Prop where
  chained : w.sent.IsChain fun earlier later =>
    later.revision = earlier.revision ∨ later.revision = earlier.revision + 1
  last : ∀ shown ∈ w.sent.getLast?, shown.revision = w.actor.state.publicationRevision

namespace World.Gapless

variable {Text : Type} {w w' : World Text}

theorem publish (h : w.Gapless) {publication : PlaybackPublication}
    (hsent : w'.sent = w.sent ++ [publication])
    (hpublication : publication.revision = w'.actor.state.publicationRevision)
    (hrevision : w'.actor.state.publicationRevision = w.actor.state.publicationRevision ∨
      w'.actor.state.publicationRevision = w.actor.state.publicationRevision + 1) :
    w'.Gapless := by
  refine ⟨?_, ?_⟩
  · rw [hsent, List.isChain_append]
    refine ⟨h.chained, List.isChain_singleton _, ?_⟩
    intro earlier hearlier later hlater
    obtain rfl : publication = later := by simpa using hlater
    rw [hpublication, h.last earlier hearlier]
    exact hrevision
  · intro shown hshown
    rw [hsent, List.getLast?_concat, Option.mem_some] at hshown
    rw [← hshown, hpublication]

theorem sends (h : w.Gapless) (hsends : w.Sends w') : w'.Gapless := by
  rcases hsends with ⟨hsent, hrevision⟩ | ⟨publication, hsent, hpublication, hrevision⟩
  · refine ⟨?_, ?_⟩
    · rw [hsent]
      exact h.chained
    · rw [hsent, hrevision]
      exact h.last
  · exact h.publish hsent hpublication (.inr hrevision)

theorem turn (h : w.Gapless) (codec : JsonCodec Text) (config : PlaybackActorConfig) (t : Turn) :
    (w.turn codec config t).1.Gapless := by
  by_cases hrefreshes : t.RefreshesClients w
  · obtain ⟨clientId, rememberedName, isDefaultOutput, draw, sample, rfl, hsample, hchanged⟩ :=
      hrefreshes
    unfold World.turn handleMessage refreshClientMetadata
    simp only [hsample, bne_iff_ne.mpr hchanged, if_true]
    split
    · exact h
    · exact h.publish (sent_publish _ sample) rfl (.inl rfl)
  · exact h.sends (turn_sends codec config hrefreshes)

end World.Gapless

/-- **Published revisions**: in every run of the owner, changes of metadata included, no
publication goes back to an earlier revision and none skips one. -/
theorem revisions_gapless {Text : Type} {codec : JsonCodec Text} {config : PlaybackActorConfig}
    {catalog : CatalogSnapshot} {w₀ : World Text} {run : List (Turn × World Text)}
    (hstart : (actorSystem codec config catalog).init w₀)
    (hrun : (actorSystem codec config catalog).IsRun w₀ run) :
    ∀ w ∈ System.states w₀ run, w.Gapless := by
  refine hrun.forall_states (P := World.Gapless) (G := fun _ _ => True) ?_ ?_ fun _ _ => trivial
  · intro w t w' h hstep _
    have hturn := h.turn codec config t
    rw [show w.turn codec config t = (w', .ok ()) from hstep] at hturn
    exact hturn
  · obtain ⟨row, draw, hstart⟩ := hstart
    obtain ⟨shown, hsent, hrevision⟩ := World.start_sent codec hstart
    refine ⟨?_, ?_⟩
    · rw [hsent]
      exact List.isChain_singleton _
    · rw [hsent]
      rintro _ ⟨⟩
      exact hrevision

/-! ## A client that is renamed -/

def registeringTurns : List Turn :=
  [turnAt 0 .openConnection,
    turnAt 1 (.registerConnection 1 ⟨"hall", "Hall", none, false⟩),
    turnAt 2 (.execute (.direct (.setPlaying true)))]

/-- A speaker registers and is given a name. -/
def renamingTurns : List Turn :=
  [turnAt 0 .openConnection,
    turnAt 1 (.registerConnection 1 ⟨"hall", "Hall", none, false⟩),
    turnAt 2 (.refreshClientMetadata "hall" (some "Great hall") false)]

theorem publications_ordered_registering :
    (ownerAfter registeringTurns).sent.length = 3 ∧
    ∀ w ∈ System.states freshWorld (ownerRun registeringTurns), w.PublishesInOrder :=
  ⟨by decide +kernel,
    publications_ordered freshWorld_init (ownerRun_isRun registeringTurns) (by
      rintro t ht ⟨clientId, rememberedName, isDefaultOutput, draw, sample, hturn, -⟩
      have hturns : t.2.1 ∈ registeringTurns := System.label_mem_of_replay t ht
      rw [hturn] at hturns
      simp [registeringTurns, turnAt] at hturns)⟩

theorem revisions_gapless_renaming :
    (ownerAfter renamingTurns).sent.length = 3 ∧
    ∀ w ∈ System.states freshWorld (ownerRun renamingTurns), w.Gapless :=
  ⟨by decide +kernel, revisions_gapless freshWorld_init (ownerRun_isRun renamingTurns)⟩

/-- What a run of the concrete owner sends at an index. -/
def sentAt (turns : List Turn) (index : ℕ) : PlaybackPublication :=
  (ownerAfter turns).sent.getD index (publication freshWorld.actor ⟨0, 0, epoch_nonneg⟩)

/-- The list with the speaker, before and after it is given its name. -/
def renamedFrom : PlaybackPublication := sentAt renamingTurns 1
def renamedTo : PlaybackPublication := sentAt renamingTurns 2

/-- The renamed client is published under the revision of the list before it. -/
theorem renamed_client_not_superseding :
    (actorSystem documentCodec .default .default).init freshWorld ∧
    (actorSystem documentCodec .default .default).IsRun freshWorld (ownerRun renamingTurns) ∧
    ¬ ∀ w ∈ System.states freshWorld (ownerRun renamingTurns), w.PublishesInOrder := by
  refine ⟨freshWorld_init, ownerRun_isRun renamingTurns, ?_⟩
  intro h
  have hordered := h (ownerAfter renamingTurns) (System.finish_mem_states _ _)
  have hsent : (ownerAfter renamingTurns).sent =
      (ownerAfter renamingTurns).sent.take 1 ++ renamedFrom :: renamedTo :: [] := by
    decide +kernel
  have hlist : renamedFrom.connectedClients ≠ renamedTo.connectedClients := by decide +kernel
  have hlt := hordered _ renamedFrom renamedTo [] hsent (.inl hlist)
  have hsame : renamedFrom.revision = renamedTo.revision := by decide +kernel
  omega
end MusicServer
