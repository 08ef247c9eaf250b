/-
# The live session behind the owner

Seen without its storage and its effects, the owner is a small machine over the live
state, the catalog and the connections.  `LiveStep` lists what it can do: run an admitted
command, open, register, refresh or drop a connection, or adopt a catalog.  The main
result, `turn_live`, says that a turn the owner survives performs one of these, and
`start_live` what it starts from; the invariants of a session are proved over them.
-/
import MusicServer.Actor
import MusicServer.EpochLaw
import MusicServer.Transition

namespace MusicServer

open Transition (System)

/-! ## Steps of a session -/

inductive LiveLabel where
  | idle
  | command (resolved : ResolvedPlaybackCommand) (draw : Draw)
  | opened
  | registered (connectionId : ConnectionId) (registration : ClientRegistration)
  | refreshed (clientId : String)
  | disconnected (connectionId : ConnectionId)
  | adopted (catalog : CatalogSnapshot)

/-- The publication revision is bumped apart from what a step does to the state. -/
def PlaybackState.UpToRevision (next state : PlaybackState) : Prop :=
  state = { next with publicationRevision := state.publicationRevision }

inductive LiveStep (a a' : PlaybackActor) : LiveLabel → Prop where
  | idle (hstate : a'.state = a.state) (hcatalog : a'.catalog = a.catalog)
      (hconnections : a'.connections = a.connections)
      (hnext : a'.nextConnectionId = a.nextConnectionId) : LiveStep a a' .idle
  | command {resolved : ResolvedPlaybackCommand} {draw : Draw} {sample : ClockSample}
      {reduction : Reduction} (hadmission : decideCommand a resolved draw = .ok (sample, reduction))
      (hstate : reduction.nextState.UpToRevision a'.state) (hcatalog : a'.catalog = a.catalog)
      (hconnections : a'.connections = a.connections)
      (hnext : a'.nextConnectionId = a.nextConnectionId) : LiveStep a a' (.command resolved draw)
  | opened (hstate : a'.state = a.state) (hcatalog : a'.catalog = a.catalog)
      (hconnections : a'.connections = a.connections.insert a.nextConnectionId ⟨none⟩)
      (hnext : a'.nextConnectionId = a.nextConnectionId + 1) : LiveStep a a' .opened
  | registered {connectionId : ConnectionId} {registration : ClientRegistration}
      {current : ConnectionRecord} {sample : ClockSample} {state : PlaybackState}
      {durableChanged : Bool}
      (hcurrent : a.connections[connectionId]? = some current)
      (hconnections : a'.connections = a.connections.insert connectionId ⟨some registration⟩)
      (hregistered : registeredState a.state a'.connections connectionId current.registration
        registration sample = .ok (state, durableChanged))
      (hstate : state.UpToRevision a'.state) (hcatalog : a'.catalog = a.catalog)
      (hnext : a'.nextConnectionId = a.nextConnectionId) :
      LiveStep a a' (.registered connectionId registration)
  | refreshed {clientId : String} {rememberedName : Option String} {isDefaultOutput : Bool}
      (hstate : a'.state = a.state) (hcatalog : a'.catalog = a.catalog)
      (hconnections : a'.connections =
        refreshedConnections a.connections clientId rememberedName isDefaultOutput)
      (hnext : a'.nextConnectionId = a.nextConnectionId) : LiveStep a a' (.refreshed clientId)
  | disconnected {connectionId : ConnectionId} {record : ConnectionRecord}
      {sample : ClockSample} {state : PlaybackState} {durableChanged : Bool}
      (hrecord : a.connections[connectionId]? = some record)
      (hconnections : a'.connections = a.connections.erase connectionId)
      (hdisconnected : disconnectedState a.state a'.connections record.registration sample =
        .ok (state, durableChanged))
      (hstate : state.UpToRevision a'.state) (hcatalog : a'.catalog = a.catalog)
      (hnext : a'.nextConnectionId = a.nextConnectionId) :
      LiveStep a a' (.disconnected connectionId)
  | adopted {catalog : CatalogSnapshot} {nowMs : ℕ} {presets changed : Bool}
      {state : PlaybackState}
      (hpruned : pruneForCatalog a.state catalog nowMs presets = .ok (state, changed))
      (hstate : state.UpToRevision a'.state) (hcatalog : a'.catalog = catalog)
      (hconnections : a'.connections = a.connections)
      (hnext : a'.nextConnectionId = a.nextConnectionId) : LiveStep a a' (.adopted catalog)

/-! ## Reductions the owner runs for itself -/

variable {s : PlaybackState}

theorem removeActiveOutput_unchanged {deviceId : String}
    (h : (removeActiveOutput s deviceId).2 = false) : (removeActiveOutput s deviceId).1 = s := by
  unfold removeActiveOutput at h ⊢
  simp only at h ⊢
  rw [bne_comm] at h
  rw [length_filter_eq h]

theorem registerDevice_unchanged {deviceId : String} {activate : Bool}
    (h : (registerDevice s deviceId activate).2 = false) :
    (registerDevice s deviceId activate).1 = s := by
  unfold registerDevice at h ⊢
  simp only at h ⊢
  split at h
  · cases h
  · next hactivate =>
    rw [if_neg hactivate]
    unfold ensureDeviceVolume at h ⊢
    split at h
    · next hknown => rw [if_pos hknown]
    · cases h

theorem reduceDirect_removeActiveOutput (s : PlaybackState) (deviceId : String)
    (sample : ClockSample) :
    reduceDirect s (.removeActiveOutput deviceId) sample = .ok (removeActiveOutput s deviceId) := by
  simp [reduceDirect, reduce, applyCommand, bind, Except.bind, pure, Except.pure,
    Reduction.durable]

theorem reduceDirect_registerDevice (s : PlaybackState) (deviceId : String) (activate : Bool)
    (sample : ClockSample) :
    reduceDirect s (.registerDevice deviceId activate) sample =
      .ok (registerDevice s deviceId activate) := by
  simp [reduceDirect, reduce, applyCommand, bind, Except.bind, pure, Except.pure,
    Reduction.durable]

theorem registeredState_eq (s : PlaybackState) (connections : Connections)
    (connectionId : ConnectionId) (previous : Option ClientRegistration)
    (registration : ClientRegistration) (sample : ClockSample) :
    ∃ removed : PlaybackState × Bool,
      (removed = (s, false) ∧ (∀ p, previous = some p → p.clientId = registration.clientId ∨
          hasRegisteredSibling connections connectionId p.clientId) ∨
        ∃ p, previous = some p ∧ p.clientId ≠ registration.clientId ∧
          removed = removeActiveOutput s p.clientId) ∧
      registeredState s connections connectionId previous registration sample =
        .ok ((registerDevice removed.1 registration.clientId registration.isDefaultOutput).1,
          removed.2 ||
            (registerDevice removed.1 registration.clientId registration.isDefaultOutput).2) := by
  unfold registeredState
  cases previous with
  | none =>
    refine ⟨(s, false), .inl ⟨rfl, fun p hp => nomatch hp⟩, ?_⟩
    simp only [bind, Except.bind, reduceDirect_registerDevice]
    rfl
  | some p =>
    by_cases hgone : (p.clientId != registration.clientId &&
        !hasRegisteredSibling connections connectionId p.clientId) = true
    · refine ⟨removeActiveOutput s p.clientId, .inr ⟨p, rfl, ?_, rfl⟩, ?_⟩
      · rw [Bool.and_eq_true] at hgone
        exact bne_iff_ne.mp hgone.1
      · simp only [hgone, if_true, reduceDirect_removeActiveOutput, bind, Except.bind,
          reduceDirect_registerDevice]
        rfl
    · refine ⟨(s, false), .inl ⟨rfl, ?_⟩, ?_⟩
      · rintro q ⟨⟩
        rw [Bool.and_eq_true, not_and_or] at hgone
        rcases hgone with hsame | hsibling
        · exact .inl (by simpa using hsame)
        · exact .inr (by simpa using hsibling)
      · simp only [hgone, bind, Except.bind, reduceDirect_registerDevice]
        rfl

theorem disconnectedState_eq (s : PlaybackState) (connections : Connections)
    (registration : Option ClientRegistration) (sample : ClockSample) :
    ∃ removed : PlaybackState × Bool,
      disconnectedState s connections registration sample = .ok removed ∧
      (removed = (s, false) ∧ (∀ p, registration = some p →
          connections.values.any fun candidate =>
            candidate.registration.any (·.clientId == p.clientId)) ∨
        ∃ p, registration = some p ∧ removed = removeActiveOutput s p.clientId) := by
  unfold disconnectedState
  cases registration with
  | none => exact ⟨(s, false), rfl, .inl ⟨rfl, fun p hp => nomatch hp⟩⟩
  | some p =>
    simp only
    split
    · exact ⟨_, reduceDirect_removeActiveOutput s p.clientId sample, .inr ⟨p, rfl, rfl⟩⟩
    · next hsibling =>
      refine ⟨_, rfl, .inl ⟨rfl, ?_⟩⟩
      rintro q ⟨⟩
      simpa using hsibling

variable {sample : ClockSample} {state : PlaybackState}

theorem registeredState_unchanged {connections : Connections} {connectionId : ConnectionId}
    {previous : Option ClientRegistration} {registration : ClientRegistration}
    (h : registeredState s connections connectionId previous registration sample =
      .ok (state, false)) : state = s := by
  obtain ⟨removed, hremoved, heq⟩ :=
    registeredState_eq s connections connectionId previous registration sample
  rw [heq] at h
  obtain ⟨rfl, hchanged⟩ := Prod.mk.inj (Except.ok.inj h)
  rw [Bool.or_eq_false_iff] at hchanged
  rw [registerDevice_unchanged hchanged.2]
  rcases hremoved with ⟨rfl, -⟩ | ⟨p, -, -, rfl⟩
  · rfl
  · exact removeActiveOutput_unchanged hchanged.1

theorem disconnectedState_unchanged {connections : Connections}
    {registration : Option ClientRegistration}
    (h : disconnectedState s connections registration sample = .ok (state, false)) :
    state = s := by
  obtain ⟨removed, heq, hremoved⟩ := disconnectedState_eq s connections registration sample
  rw [heq] at h
  cases h
  rcases hremoved with ⟨hsame, -⟩ | ⟨p, -, hremoved⟩
  · exact congrArg Prod.fst hsame
  · have hunchanged : (removeActiveOutput s p.clientId).2 = false := by rw [← hremoved]
    rw [← removeActiveOutput_unchanged hunchanged, ← hremoved]

/-! ## What each turn does -/

structure SameSession (a a' : PlaybackActor) : Prop where
  state : a'.state = a.state
  catalog : a'.catalog = a.catalog
  connections : a'.connections = a.connections
  next : a'.nextConnectionId = a.nextConnectionId

theorem SameSession.refl (a : PlaybackActor) : SameSession a a := ⟨rfl, rfl, rfl, rfl⟩

theorem SameSession.idle {a a' : PlaybackActor} (h : SameSession a a') : LiveStep a a' .idle :=
  .idle h.state h.catalog h.connections h.next

theorem bumpPublicationRevision_upToRevision {next state : PlaybackState} {revision : ℕ}
    (h : bumpPublicationRevision next revision = .ok state) : next.UpToRevision state := by
  unfold bumpPublicationRevision at h
  split at h
  · cases h
    rfl
  · cases h

variable {reduction : Reduction}

theorem commitCandidate_upToRevision {current candidate : PlaybackState}
    (h : commitCandidate current reduction = .ok candidate) :
    reduction.nextState.UpToRevision candidate := by
  unfold commitCandidate at h
  split at h
  · exact bumpPublicationRevision_upToRevision h
  · cases h
    rfl

/-- The labels a turn may perform, besides doing nothing. -/
inductive Turn.Performs {Text : Type} (config : PlaybackActorConfig) (w : World Text) :
    Turn → LiveLabel → Prop where
  | execute (resolved : ResolvedPlaybackCommand) (draw : Draw) :
      Performs config w (.message (.execute resolved) draw) (.command resolved draw)
  | skipNext (expectedTrackId : Option TrackId) (draw : Draw) :
      Performs config w (.message (.ambientSkipNext expectedTrackId) draw)
        (.command (.atGeneration
          (.ambientSkipNext (followNextId w.actor w.actor.state.ambient.currentTrackId)
            expectedTrackId) w.actor.catalog.generation) draw)
  | opened (draw : Draw) : Performs config w (.message .openConnection draw) .opened
  | registered (connectionId : ConnectionId) (registration : ClientRegistration) (draw : Draw) :
      Performs config w (.message (.registerConnection connectionId registration) draw)
        (.registered connectionId registration)
  | refreshed (clientId : String) (rememberedName : Option String) (isDefaultOutput : Bool)
      (draw : Draw) :
      Performs config w
        (.message (.refreshClientMetadata clientId rememberedName isDefaultOutput) draw)
        (.refreshed clientId)
  | disconnected (connectionId : ConnectionId) (draw : Draw) :
      Performs config w (.message (.disconnect connectionId) draw) (.disconnected connectionId)
  | adopted (catalog : CatalogSnapshot) (presets : Bool) (draw : Draw) :
      Performs config w (.message (.replaceCatalog catalog presets) draw) (.adopted catalog)
  | adoptedTracks (generation : ℕ) (tracks : BTreeMap TrackId CatalogTrack) (draw : Draw) :
      Performs config w (.message (.replaceLibraryCatalog generation tracks) draw)
        (.adopted { w.actor.catalog with
          generation := { w.actor.catalog.generation with library := generation }
          tracks := some tracks })
  | adoptedModes (publication : ModeCatalogPublication) (draw : Draw) :
      Performs config w (.message (.replaceModeCatalog publication) draw)
        (.adopted { w.actor.catalog with
          generation := { w.actor.catalog.generation with modes := publication.generation }
          modes := some publication.modes })
  | advanced (sample : ClockSample) (plan : TrackEffectPlan)
      (hplan : trackEffectPlan config w.actor sample = some plan)
      (hdue : plan.remainingMs ≤ 0) (draw : Draw) :
      Performs config w (.dueEffects (.ok sample) draw)
        (.command (World.dueCommand w.actor plan) draw)

namespace World

variable {Text : Type} (codec : JsonCodec Text)

theorem actor_compareAndSwap (w : World Text) (stateJson : Text) (fault : StoreFault) :
    (w.compareAndSwap stateJson fault).1.actor = w.actor := by
  unfold compareAndSwap
  simp only
  split
  · rfl
  · split
    · split <;> rfl
    · split <;> rfl

theorem actor_persistCandidate (w : World Text) (state : PlaybackState) (nowMs : ℕ)
    (fault : StoreFault) :
    ∃ revision, (w.persistCandidate codec state nowMs fault).1.actor =
      { w.actor with storageRevision := revision } := by
  have hactor := actor_compareAndSwap w (encodePersistedState codec state nowMs) fault
  unfold persistCandidate
  split
  · next w' revision hswap =>
    rw [hswap] at hactor
    exact ⟨revision, by rw [← hactor]⟩
  · next w' error hswap =>
    rw [hswap] at hactor
    exact ⟨w.actor.storageRevision, hactor⟩

theorem sameSession_persistCandidate (w : World Text) (state : PlaybackState) (nowMs : ℕ)
    (fault : StoreFault) :
    SameSession w.actor (w.persistCandidate codec state nowMs fault).1.actor := by
  obtain ⟨revision, hactor⟩ := actor_persistCandidate codec w state nowMs fault
  rw [hactor]
  exact ⟨rfl, rfl, rfl, rfl⟩

theorem commit_live (w : World Text) (sample : ClockSample) (reduction : Reduction)
    (fault : StoreFault) :
    SameSession w.actor (w.commit codec sample reduction fault).1.actor ∨
      (reduction.nextState.UpToRevision (w.commit codec sample reduction fault).1.actor.state ∧
        SameSession { w.actor with state := reduction.nextState }
          { (w.commit codec sample reduction fault).1.actor with
            state := reduction.nextState }) := by
  unfold commit
  split
  · exact .inl (.refl _)
  · exact .inr ⟨rfl, rfl, rfl, rfl, rfl⟩
  · split
    · exact .inl (.refl _)
    · split
      · exact .inl (.refl _)
      · next candidate hcandidate =>
        have hrevision := commitCandidate_upToRevision hcandidate
        have hsame := sameSession_persistCandidate codec w candidate sample.monotonicMs fault
        split
        · next hpersist =>
          rw [hpersist] at hsame
          exact .inl hsame
        · next w' hpersist =>
          rw [hpersist] at hsame
          refine .inr ?_
          simp only
          split
          · exact ⟨hrevision, rfl, hsame.catalog, hsame.connections, hsame.next⟩
          · exact ⟨hrevision, rfl, hsame.catalog, hsame.connections, hsame.next⟩

theorem execute_live (w : World Text) (resolved : ResolvedPlaybackCommand) (draw : Draw) :
    LiveStep w.actor (w.execute codec resolved draw).1.actor .idle ∨
      LiveStep w.actor (w.execute codec resolved draw).1.actor (.command resolved draw) := by
  unfold execute
  split
  · exact .inl (SameSession.refl _).idle
  · next sample reduction hadmission =>
    rcases commit_live codec w sample reduction draw.store with hsame | ⟨hstate, hsame⟩
    · exact .inl hsame.idle
    · exact .inr (.command hadmission hstate hsame.catalog hsame.connections hsame.next)

theorem sameSession_persistExternalChange (w : World Text) (state : PlaybackState)
    (durableChanged : Bool) (sample : ClockSample) (fault : StoreFault) :
    SameSession w.actor
      (w.persistExternalChange codec state durableChanged sample fault).1.actor := by
  have hsame := sameSession_persistCandidate codec w state sample.monotonicMs fault
  unfold persistExternalChange
  split
  · split
    · next w' hpersist =>
      rw [hpersist] at hsame
      exact ⟨hsame.state, hsame.catalog, hsame.connections, hsame.next⟩
    · next hpersist =>
      rw [hpersist] at hsame
      exact hsame
  · exact .refl _

theorem commitExternalChange_live (w : World Text) (state : PlaybackState)
    (connections : Connections) (durableChanged presenceChanged : Bool) (sample : ClockSample)
    (fault : StoreFault) (hunchanged : durableChanged = false → state = w.actor.state) :
    let w' := (w.commitExternalChange codec state connections durableChanged presenceChanged
      sample fault).1
    SameSession w.actor w'.actor ∨
      (state.UpToRevision w'.actor.state ∧ w'.actor.catalog = w.actor.catalog ∧
        w'.actor.connections = connections ∧
        w'.actor.nextConnectionId = w.actor.nextConnectionId) := by
  unfold commitExternalChange
  simp only
  split
  · next hquiet =>
    rw [Bool.and_eq_true, Bool.not_eq_true'] at hquiet
    rw [hunchanged hquiet.1]
    exact .inr ⟨rfl, rfl, rfl, rfl⟩
  · split
    · exact .inl (.refl _)
    · next candidate hcandidate =>
      have hrevision := bumpPublicationRevision_upToRevision hcandidate
      have hsame := sameSession_persistExternalChange codec w candidate durableChanged sample fault
      split
      · next hpersist =>
        rw [hpersist] at hsame
        exact .inl hsame
      · next w' hpersist =>
        rw [hpersist] at hsame
        exact .inr ⟨hrevision, hsame.catalog, rfl, hsame.next⟩

theorem registerConnection_live (w : World Text) (connectionId : ConnectionId)
    (registration : ClientRegistration) (draw : Draw) :
    let w' := (w.registerConnection codec connectionId registration draw).1
    LiveStep w.actor w'.actor .idle ∨
      LiveStep w.actor w'.actor (.registered connectionId registration) := by
  unfold registerConnection
  simp only
  split
  · exact .inl (SameSession.refl _).idle
  split
  · exact .inl (SameSession.refl _).idle
  next current hcurrent =>
  split
  · exact .inl (SameSession.refl _).idle
  split
  · exact .inl (SameSession.refl _).idle
  next sample _ =>
  split
  · exact .inl (SameSession.refl _).idle
  next state durableChanged hregistered =>
  have hunchanged : durableChanged = false → state = w.actor.state := by
    rintro rfl
    exact registeredState_unchanged hregistered
  rcases commitExternalChange_live codec w state _ durableChanged _ sample draw.store hunchanged
    with hsame | ⟨hstate, hcatalog, hconnections, hnext⟩
  · exact .inl hsame.idle
  · refine .inr (@LiveStep.registered w.actor _ connectionId registration current sample state
      durableChanged hcurrent hconnections ?_ hstate hcatalog hnext)
    rw [hconnections]
    exact hregistered

theorem disconnect_live (w : World Text) (connectionId : ConnectionId) (draw : Draw) :
    let w' := (w.disconnect codec connectionId draw).1
    LiveStep w.actor w'.actor .idle ∨ LiveStep w.actor w'.actor (.disconnected connectionId) := by
  unfold disconnect
  simp only
  split
  · exact .inl (SameSession.refl _).idle
  next record hrecord =>
  split
  · exact .inl (SameSession.refl _).idle
  next sample _ =>
  split
  · exact .inl (SameSession.refl _).idle
  next state durableChanged hdisconnected =>
  have hunchanged : durableChanged = false → state = w.actor.state := by
    rintro rfl
    exact disconnectedState_unchanged hdisconnected
  rcases commitExternalChange_live codec w state _ durableChanged _ sample draw.store hunchanged
    with hsame | ⟨hstate, hcatalog, hconnections, hnext⟩
  · exact .inl hsame.idle
  · refine .inr (@LiveStep.disconnected w.actor _ connectionId record sample state
      durableChanged hrecord hconnections ?_ hstate hcatalog hnext)
    rw [hconnections]
    exact hdisconnected

theorem refreshClientMetadata_live (w : World Text) (clientId : String)
    (rememberedName : Option String) (isDefaultOutput : Bool) (draw : Draw) :
    let w' := (w.refreshClientMetadata clientId rememberedName isDefaultOutput draw).1
    LiveStep w.actor w'.actor .idle ∨ LiveStep w.actor w'.actor (.refreshed clientId) := by
  unfold refreshClientMetadata
  simp only
  split
  · exact .inl (SameSession.refl _).idle
  split
  · split
    · exact .inr (.refreshed rfl rfl rfl rfl)
    · exact .inr (.refreshed rfl rfl rfl rfl)
  · exact .inr (.refreshed rfl rfl rfl rfl)

theorem replaceCatalog_live (w : World Text) (catalog : CatalogSnapshot) (presets : Bool)
    (draw : Draw) :
    let w' := (w.replaceCatalog codec catalog presets draw).1
    LiveStep w.actor w'.actor .idle ∨ LiveStep w.actor w'.actor (.adopted catalog) := by
  unfold replaceCatalog
  simp only
  split
  · exact .inl (SameSession.refl _).idle
  split
  · exact .inl (SameSession.refl _).idle
  split
  · exact .inl (SameSession.refl _).idle
  next sample _ =>
  split
  · exact .inl (SameSession.refl _).idle
  next candidate changed hpruned =>
  split
  · next hunchanged =>
    rw [Bool.not_eq_true'] at hunchanged
    have hsame : candidate = w.actor.state := pruneForCatalog_unchanged hpruned hunchanged
    refine .inr (.adopted hpruned ?_ rfl rfl rfl)
    rw [hsame]
    rfl
  split
  · exact .inl (SameSession.refl _).idle
  next bumped hbumped =>
  have hsame := sameSession_persistCandidate codec w bumped sample.monotonicMs draw.store
  split
  · next hpersist =>
    rw [hpersist] at hsame
    exact .inl hsame.idle
  · next w' hpersist =>
    rw [hpersist] at hsame
    exact .inr (.adopted hpruned (bumpPublicationRevision_upToRevision hbumped) rfl
      hsame.connections hsame.next)

theorem flushPosition_live (w : World Text) (draw : Draw) :
    SameSession w.actor (w.flushPosition codec draw).1.actor := by
  unfold flushPosition
  split
  · exact .refl _
  split
  · exact .refl _
  next sample _ =>
  have hsame := sameSession_persistCandidate codec w w.actor.state sample.monotonicMs draw.store
  split
  · next hpersist =>
    rw [hpersist] at hsame
    exact hsame
  · next w' hpersist =>
    rw [hpersist] at hsame
    exact ⟨hsame.state, hsame.catalog, hsame.connections, hsame.next⟩

theorem openConnection_live (w : World Text) :
    LiveStep w.actor w.openConnection.1.actor .idle ∨
      LiveStep w.actor w.openConnection.1.actor .opened := by
  unfold openConnection
  simp only
  split
  · exact .inl (SameSession.refl _).idle
  · next next hnext => exact .inr (.opened rfl rfl rfl (checkedIncrement_eq_some hnext))

theorem actor_fireDueLoops (w : World Text) (sample : ClockSample) :
    ∃ deadlines, (w.fireDueLoops sample).actor = { w.actor with loopDeadlinesMs := deadlines } := by
  have hloop : ∀ (w : World Text) (id : String), ∃ deadlines,
      (fireDueLoop sample w id).actor = { w.actor with loopDeadlinesMs := deadlines } := by
    intro w id
    unfold fireDueLoop
    split
    · exact ⟨_, rfl⟩
    · exact ⟨_, rfl⟩
  have hfold : ∀ (ids : List String) (w : World Text), ∃ deadlines,
      (ids.foldl (fireDueLoop sample) w).actor =
        { w.actor with loopDeadlinesMs := deadlines } := by
    intro ids
    induction ids with
    | nil => exact fun w => ⟨w.actor.loopDeadlinesMs, rfl⟩
    | cons id ids ih =>
      intro w
      obtain ⟨deadlines, hrest⟩ := ih (fireDueLoop sample w id)
      obtain ⟨_, hfirst⟩ := hloop w id
      exact ⟨deadlines, by rw [List.foldl_cons, hrest, hfirst]⟩
  exact hfold _ w

theorem runDueEffects_live (config : PlaybackActorConfig) (w : World Text)
    (sample : ClockSample) (draw : Draw) :
    let w' := (w.runDueEffects codec config (.ok sample) draw).1
    LiveStep w.actor w'.actor .idle ∨
      ∃ plan, trackEffectPlan config w.actor sample = some plan ∧ plan.remainingMs ≤ 0 ∧
        LiveStep w.actor w'.actor (.command (dueCommand w.actor plan) draw) := by
  obtain ⟨deadlines, hactor⟩ := actor_fireDueLoops w sample
  have hplan : trackEffectPlan config (w.fireDueLoops sample).actor sample =
      trackEffectPlan config w.actor sample := by
    rw [hactor]
    rfl
  unfold runDueEffects
  simp only
  split
  · left
    rw [hactor]
    exact .idle rfl rfl rfl rfl
  · next plan hdue =>
    obtain ⟨hsome, hremaining⟩ := Option.filter_eq_some_iff.mp hdue
    have hcommand : dueCommand (w.fireDueLoops sample).actor plan = dueCommand w.actor plan := by
      rw [hactor]
      rfl
    have hlive := execute_live codec (w.fireDueLoops sample) (dueCommand w.actor plan) draw
    have hstep : LiveStep w.actor
          (execute codec (w.fireDueLoops sample) (dueCommand w.actor plan) draw).1.actor .idle ∨
        LiveStep w.actor
          (execute codec (w.fireDueLoops sample) (dueCommand w.actor plan) draw).1.actor
          (.command (dueCommand w.actor plan) draw) := by
      rw [hactor] at hlive
      rcases hlive with ⟨hstate, hcatalog, hconnections, hnext⟩ | hcommand
      · exact .inl (.idle hstate hcatalog hconnections hnext)
      · cases hcommand with
        | command hadmission hstate hcatalog hconnections hnext =>
          exact .inr (.command hadmission hstate hcatalog hconnections hnext)
    rw [hcommand]
    rcases hstep with hidle | hcommand
    · exact .inl hidle
    · exact .inr ⟨plan, by rw [← hplan, hsome], by simpa using hremaining, hcommand⟩

theorem survive_fst {α : Type} (turn : World Text × Except PlaybackActorError α) :
    (survive turn).1 = turn.1 := rfl

/-- Every turn of the owner, also one that ends it, performs at most one step of the
session, and one that belongs to the turn. -/
theorem turn_live (config : PlaybackActorConfig) (w : World Text) (t : Turn) :
    LiveStep w.actor (w.turn codec config t).1.actor .idle ∨
      ∃ label, t.Performs config w label ∧
        LiveStep w.actor (w.turn codec config t).1.actor label := by
  cases t with
  | flush draw => exact .inl (flushPosition_live codec w draw).idle
  | dueEffects sample draw =>
    cases sample with
    | error error => exact .inl (SameSession.refl _).idle
    | ok sample =>
      rcases runDueEffects_live codec config w sample draw with hidle | ⟨plan, hplan, hdue, hstep⟩
      · exact .inl hidle
      · exact .inr ⟨_, .advanced sample plan hplan hdue draw, hstep⟩
  | message message draw =>
    simp only [turn, handleMessage]
    cases message with
    | execute resolved =>
      simp only [survive_fst]
      exact (execute_live codec w resolved draw).imp_right fun h => ⟨_, .execute resolved draw, h⟩
    | snapshot =>
      simp only
      split <;> exact .inl (SameSession.refl _).idle
    | ambientSkipNext expectedTrackId =>
      simp only [survive_fst]
      exact (execute_live codec w _ draw).imp_right fun h => ⟨_, .skipNext expectedTrackId draw, h⟩
    | openConnection =>
      exact (openConnection_live w).imp_right fun h => ⟨_, .opened draw, h⟩
    | registerConnection connectionId registration =>
      simp only [survive_fst]
      exact (registerConnection_live codec w connectionId registration draw).imp_right
        fun h => ⟨_, .registered connectionId registration draw, h⟩
    | refreshClientMetadata clientId rememberedName isDefaultOutput =>
      exact (refreshClientMetadata_live w clientId rememberedName isDefaultOutput draw).imp_right
        fun h => ⟨_, .refreshed clientId rememberedName isDefaultOutput draw, h⟩
    | disconnect connectionId =>
      simp only [survive_fst]
      exact (disconnect_live codec w connectionId draw).imp_right
        fun h => ⟨_, .disconnected connectionId draw, h⟩
    | replaceCatalog catalog presets =>
      simp only [survive_fst]
      exact (replaceCatalog_live codec w catalog presets draw).imp_right
        fun h => ⟨_, .adopted catalog presets draw, h⟩
    | replaceLibraryCatalog generation tracks =>
      simp only [survive_fst]
      exact (replaceCatalog_live codec w _ false draw).imp_right
        fun h => ⟨_, .adoptedTracks generation tracks draw, h⟩
    | replaceModeCatalog publication =>
      simp only [survive_fst]
      exact (replaceCatalog_live codec w _ _ draw).imp_right
        fun h => ⟨_, .adoptedModes publication draw, h⟩

end World

/-! ## Runs of the owner -/

/-- The owner as a system, started over any stored row with a first catalog.  A turn
that ends the owner ends the run. -/
def actorSystem {Text : Type} (codec : JsonCodec Text) (config : PlaybackActorConfig)
    (catalog : CatalogSnapshot) : System (World Text) Turn where
  init w := ∃ row draw, startPlaybackActor codec config row catalog draw = .ok w
  step w t w' := w.turn codec config t = (w', .ok ())

variable {catalog : CatalogSnapshot} {Text : Type}
variable {codec : JsonCodec Text}

theorem actorStep_live {config : PlaybackActorConfig} {w w' : World Text} {t : Turn}
    (h : (actorSystem codec config catalog).step w t w') :
    LiveStep w.actor w'.actor .idle ∨
      ∃ label, t.Performs config w label ∧ LiveStep w.actor w'.actor label := by
  have hlive := World.turn_live codec config w t
  rw [show w.turn codec config t = (w', .ok ()) from h] at hlive
  exact hlive

def LoadedState (state : PlaybackState) : Prop :=
  state = .default ∨ ∃ persisted : PersistedPlaybackState, persisted.toState = .ok state

theorem decodePersistedState_loaded {text : Text} (h : decodePersistedState codec text = .ok state) :
    LoadedState state := by
  unfold decodePersistedState at h
  split at h
  · cases h
  · next persisted _ =>
    split at h
    · next hstate =>
      cases h
      exact .inr ⟨persisted, hstate⟩
    · cases h

theorem LoadedState.normalized (h : LoadedState state) :
    state.normalizeForStartup = state := by
  rcases h with rfl | ⟨persisted, h⟩
  · rfl
  · exact toState_normalized h

theorem loadOrInitialize_actor {row : Option (StoredPlaybackSnapshot Text)} {nowMs : ℕ}
    {draw : StartDraw} {w : World Text} (h : loadOrInitialize codec row catalog nowMs draw = .ok w) :
    LoadedState w.actor.state := by
  unfold loadOrInitialize at h
  split at h
  · cases h
  split at h
  · next snapshot =>
    split at h
    · cases h
    · next state hstate =>
      have hloaded := decodePersistedState_loaded hstate
      simp only at h
      split at h
      · cases h
        exact hloaded
      · have hsame := World.sameSession_persistCandidate codec
          ⟨initialActor state snapshot.storageRevision catalog nowMs, some snapshot,
            [.loaded snapshot]⟩ state nowMs draw.firstWrite
        split at h
        · next hpersist =>
          rw [hpersist] at hsame
          cases h
          rw [hsame.state]
          exact hloaded
        · cases h
  · split at h
    · cases h
    · cases h
      exact .inl rfl

theorem start_live {config : PlaybackActorConfig} {row : Option (StoredPlaybackSnapshot Text)}
    {draw : StartDraw} {w : World Text}
    (h : startPlaybackActor codec config row catalog draw = .ok w) :
    (∃ loaded nowMs changed, LoadedState loaded ∧
        pruneForCatalog loaded catalog nowMs false = .ok (w.actor.state, changed)) ∧
      w.actor.catalog = catalog ∧ w.actor.connections = ∅ ∧ w.actor.nextConnectionId = 1 := by
  obtain ⟨-, -, h⟩ := bind_eq_ok.mp h
  obtain ⟨sample, -, h⟩ := bind_eq_ok.mp h
  obtain ⟨loaded, hloaded, h⟩ := bind_eq_ok.mp h
  split at h
  · cases h
  · next state changed hpruned =>
    split at h
    · cases h
    · cases h
      exact ⟨⟨loaded.actor.state, sample.monotonicMs, changed, loadOrInitialize_actor hloaded,
        hpruned⟩, rfl, rfl, rfl⟩

/-! ## The session reaches no state the reducer and the catalog do not -/

theorem sample_of_decide {a : PlaybackActor} {resolved : ResolvedPlaybackCommand} {draw : Draw}
    (h : decideCommand a resolved draw = .ok (sample, reduction)) :
    draw.sample = .ok sample ∧ ∃ r, reduce a.state resolved.command
        ⟨sample, randomQueueIndex a.state resolved.command draw.random⟩ = .ok r ∧
      reduction = withOutputPolicy a.catalog r := by
  obtain ⟨⟨⟩, -, h⟩ := bind_eq_ok.mp h
  obtain ⟨⟨⟩, -, h⟩ := bind_eq_ok.mp h
  obtain ⟨drawn, hdrawn, h⟩ := bind_eq_ok.mp h
  simp only at h
  split at h
  · next r hr =>
    cases h
    exact ⟨hdrawn, r, hr, rfl⟩
  · cases h

theorem commit_stored {w w' : World Text} {fault : StoreFault} {result : PlaybackCommandResult}
    (h : w.commit codec sample reduction fault = (w', .ok result))
    (hpersistence : reduction.persistence = .immediate) (hchanged : reduction.changed = true) :
    reduction.nextState.UpToRevision w'.actor.state ∧ w'.actor.catalog = w.actor.catalog := by
  unfold World.commit at h
  rw [hpersistence, hchanged] at h
  simp only [Bool.not_true, Bool.false_eq_true, if_false] at h
  split at h
  · cases h
  next candidate hcandidate =>
  have hrevision := commitCandidate_upToRevision hcandidate
  have hsame := World.sameSession_persistCandidate codec w candidate sample.monotonicMs fault
  split at h
  · cases h
  next stored hpersist =>
  rw [hpersist] at hsame
  split at h
  · cases h
    exact ⟨hrevision, hsame.catalog⟩
  · cases h
    exact ⟨hrevision, hsame.catalog⟩

theorem commit_eq_error {w w' : World Text} {fault : StoreFault} {error : PlaybackActorError}
    (h : w.commit codec sample reduction fault = (w', .error error)) :
    isFatal error = true := by
  have hwrite : ∀ (state : PlaybackState) (w' : World Text),
      w.persistCandidate codec state sample.monotonicMs fault = (w', .error error) →
      isFatal error = true := by
    intro state w' hpersist
    unfold World.persistCandidate World.compareAndSwap at hpersist
    simp only at hpersist
    split at hpersist
    · cases hpersist
    · next hswap =>
      cases hpersist
      split at hswap
      · cases hswap
        rfl
      split at hswap
      · split at hswap <;> cases hswap
        rfl
      · split at hswap <;> cases hswap <;> rfl
  unfold World.commit at h
  split at h
  · cases h
  · cases h
  split at h
  · cases h
  split at h
  · next hcandidate =>
    cases h
    unfold commitCandidate bumpPublicationRevision at hcandidate
    split at hcandidate
    · split at hcandidate <;> cases hcandidate
      rfl
    · cases hcandidate
  split at h
  · next hpersist =>
    cases h
    exact hwrite _ _ hpersist
  · cases h

theorem lanes_withOutputPolicy (catalog : CatalogSnapshot) (reduction : Reduction) :
    (withOutputPolicy catalog reduction).nextState.ambient = reduction.nextState.ambient ∧
      (withOutputPolicy catalog reduction).nextState.interrupt = reduction.nextState.interrupt ∧
      (reduction.changed = true → (withOutputPolicy catalog reduction).changed = true) ∧
      (withOutputPolicy catalog reduction).persistence = reduction.persistence := by
  unfold withOutputPolicy
  split
  · exact ⟨rfl, rfl, fun h => h, rfl⟩
  · next modes _ =>
    have hlanes : ∀ multipleOutputs,
        (reduction.nextState.applyOutputPolicy multipleOutputs).1.ambient =
            reduction.nextState.ambient ∧
          (reduction.nextState.applyOutputPolicy multipleOutputs).1.interrupt =
            reduction.nextState.interrupt := by
      intro multipleOutputs
      unfold PlaybackState.applyOutputPolicy
      simp only
      split <;> exact ⟨rfl, rfl⟩
    refine ⟨(hlanes _).1, (hlanes _).2, ?_, rfl⟩
    intro hchanged
    simp only [hchanged, Bool.true_or]

theorem decideCommand_eq_ok {a : PlaybackActor} {resolved : ResolvedPlaybackCommand} {draw : Draw}
    (h : decideCommand a resolved draw = .ok (sample, reduction)) :
    validateResolvedCommand a resolved = .ok () ∧ checkOutputs a resolved.command = .ok () ∧
      catalogReferencesValid resolved.command a.catalog a.state = true ∧
      ∃ r, reduce a.state resolved.command
          ⟨sample, randomQueueIndex a.state resolved.command draw.random⟩ = .ok r ∧
        reduction = withOutputPolicy a.catalog r := by
  obtain ⟨⟨⟩, hresolved, h⟩ := bind_eq_ok.mp h
  obtain ⟨⟨⟩, hlive, h⟩ := bind_eq_ok.mp h
  obtain ⟨sample', -, h⟩ := bind_eq_ok.mp h
  obtain ⟨⟨⟩, houtputs, hlive⟩ := bind_eq_ok.mp hlive
  obtain ⟨⟨⟩, -, hlive⟩ := bind_eq_ok.mp hlive
  have hreferences : catalogReferencesValid resolved.command a.catalog a.state = true := by
    split at hlive
    · next hvalid => exact hvalid
    · cases hlive
  simp only at h
  split at h
  · next r hr =>
    cases h
    exact ⟨hresolved, houtputs, hreferences, r, hr, rfl⟩
  · cases h

/-! ## A concrete owner -/

/-- A draw at a monotonic reading, the first of the queue, from a store that answers. -/
def drawAt (monotonicMs : ℕ) : Draw where
  sample := .ok ⟨monotonicMs, 0, epoch_nonneg⟩
  random := ⟨fun _ => 0, fun _ h => h⟩
  store := .none

def turnAt (monotonicMs : ℕ) (message : ActorMessage) : Turn :=
  .message message (drawAt monotonicMs)

def freshWorld : World PersistedPlaybackState :=
  let snapshot : StoredPlaybackSnapshot PersistedPlaybackState :=
    ⟨encodePersistedState documentCodec .default 0, 0⟩
  World.publish
    ⟨initialActor .default 0 .default 0, some snapshot, [.stored snapshot]⟩
    ⟨0, 0, epoch_nonneg⟩

theorem freshWorld_init :
    (actorSystem documentCodec .default .default).init freshWorld :=
  ⟨none, ⟨.ok ⟨0, 0, le_refl 0⟩, .none, .none, .none⟩, rfl⟩

/-- One turn of the concrete owner, as far as it goes on. -/
def ownerExec (codec : JsonCodec PersistedPlaybackState) (w : World PersistedPlaybackState)
    (t : Turn) : Option (World PersistedPlaybackState) :=
  match w.turn codec .default t with
  | (w', .ok ()) => some w'
  | (_, .error _) => none

theorem ownerExec_step (codec : JsonCodec PersistedPlaybackState)
    (w : World PersistedPlaybackState) (t : Turn) (w' : World PersistedPlaybackState)
    (h : ownerExec codec w t = some w') : (actorSystem codec .default .default).step w t w' := by
  unfold ownerExec at h
  split at h
  · next hturn =>
    cases h
    exact hturn
  · cases h

/-- The run of the concrete owner over some turns. -/
def ownerRun (turns : List Turn) : List (Turn × World PersistedPlaybackState) :=
  System.replay (ownerExec documentCodec) freshWorld turns

theorem ownerRun_isRun (turns : List Turn) :
    (actorSystem documentCodec .default .default).IsRun freshWorld (ownerRun turns) :=
  System.isRun_replay (ownerExec_step documentCodec) freshWorld turns

/-- Where the concrete owner ends up after some turns. -/
def ownerAfter (turns : List Turn) : World PersistedPlaybackState :=
  System.finish freshWorld (ownerRun turns)

theorem ownerAfter_reachable (turns : List Turn) :
    (actorSystem documentCodec .default .default).Reachable (ownerAfter turns) :=
  (ownerRun_isRun turns).reachable (.init freshWorld_init) _ (System.finish_mem_states _ _)

end MusicServer
