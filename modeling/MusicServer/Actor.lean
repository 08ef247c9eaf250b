/-
# The playback owner

`playback/actor.rs`: the one task that owns the live playback state, the connections and
the catalog, and the row of the store it keeps in step.  A `World` is the owner with
what lies outside its memory: that row, and the effects others have seen, in order.
Every function that takes `&mut self` takes a world and gives the world back, also when
it fails.  What a turn draws from outside (the clock, the random index, the way the
store answers) comes with the message as a `Draw`.
-/
import MusicServer.Catalog
import MusicServer.Persistence

namespace MusicServer

/-! ## Types -/

def maxClientIdLength : ℕ := 64
def maxClientNameLength : ℕ := 128

/-- The configuration of the owner; durations are in nanoseconds. -/
structure PlaybackActorConfig where
  stateId : ℤ
  mailboxCapacity : ℕ
  eventCapacity : ℕ
  positionFlushInterval : ℕ
  trackEndGrace : ℕ
  interruptUnknownDuration : ℕ
  deriving DecidableEq

def PlaybackActorConfig.default : PlaybackActorConfig where
  stateId := 1
  mailboxCapacity := 128
  eventCapacity := 128
  positionFlushInterval := 5 * 10 ^ 9
  trackEndGrace := 750 * 10 ^ 6
  interruptUnknownDuration := 300 * 10 ^ 9

/-- The id of a connection, counted from one. -/
abbrev ConnectionId := ℕ

inductive PlaybackActorError where
  | invalidConfiguration (detail : String)
  | invalidRegistration (detail : String)
  | unknownConnection (connectionId : ConnectionId)
  | missingCatalogResolution
  | staleCatalog (resolved current : CatalogGeneration)
  | invalidCatalogReference
  | catalogGenerationRegressed
  | disconnectedOutput (deviceIds : List String)
  | inactivePositionReporter (deviceId : String)
  | publicationRevisionOverflow
  | connectionIdOverflow
  | persistence
  | persistenceConflict
  | clockUnavailable
  | domain (error : PlaybackError)
  deriving DecidableEq

def isFatal : PlaybackActorError → Bool
  | .persistence => true
  | .persistenceConflict => true
  | .publicationRevisionOverflow => true
  | .connectionIdOverflow => true
  | .clockUnavailable => true
  | _ => false

structure ResolvedPlaybackCommand where
  command : PlaybackCommand
  catalogGeneration : Option CatalogGeneration
  deriving DecidableEq

def ResolvedPlaybackCommand.direct (command : PlaybackCommand) : ResolvedPlaybackCommand :=
  ⟨command, none⟩

def ResolvedPlaybackCommand.atGeneration (command : PlaybackCommand)
    (catalogGeneration : CatalogGeneration) : ResolvedPlaybackCommand :=
  ⟨command, some catalogGeneration⟩

structure ClientRegistration where
  clientId : String
  name : String
  rememberedName : Option String
  isDefaultOutput : Bool
  deriving DecidableEq

structure ConnectionRecord where
  registration : Option ClientRegistration
  deriving DecidableEq

abbrev Connections := BTreeMap ConnectionId ConnectionRecord

structure ConnectedClient where
  clientId : String
  name : String
  isDefaultOutput : Bool
  deriving DecidableEq

structure PlaybackPublication where
  state : PlaybackState
  connectedClients : List ConnectedClient
  sampledAt : ClockSample
  deriving DecidableEq

structure PlaybackCommandResult where
  changed : Bool
  publicationRevision : ℕ
  deriving DecidableEq

/-- A preset whose content an edit of the mode catalog changed. -/
structure ModePresetKey where
  modeId : String
  presetId : String
  deriving DecidableEq

structure ModeCatalogPublication where
  generation : ℕ
  modes : BTreeMap String CatalogMode
  changedPresets : List ModePresetKey
  deriving DecidableEq

structure StoredPlaybackSnapshot (Text : Type) where
  stateJson : Text
  storageRevision : ℤ
  deriving DecidableEq

structure PlaybackActor where
  state : PlaybackState
  storageRevision : ℤ
  dirtyPosition : Bool
  loopDeadlinesMs : BTreeMap String ℕ
  catalog : CatalogSnapshot
  connections : Connections
  nextConnectionId : ConnectionId
  deriving DecidableEq

/-- What passes between the owner and the outside: the row it was started over, writes of
the store, publications, answers to a snapshot request, and domain events. -/
inductive ActorEffect (Text : Type) where
  | loaded (snapshot : StoredPlaybackSnapshot Text)
  | stored (snapshot : StoredPlaybackSnapshot Text)
  | published (publication : PlaybackPublication)
  | answered (publication : PlaybackPublication)
  | emitted (event : DomainEvent)
  deriving DecidableEq

structure World (Text : Type) where
  actor : PlaybackActor
  row : Option (StoredPlaybackSnapshot Text)
  effects : List (ActorEffect Text)
  deriving DecidableEq

/-- How the store answers a write: it does, or the request or the reply is lost. -/
inductive StoreFault where
  | none | lostRequest | lostReply
  deriving DecidableEq

/-- A source of random indices below a bound, as `SystemQueueRandom` is one. -/
structure QueueRandom where
  index : ℕ → ℕ
  index_lt : ∀ upperExclusive, 0 < upperExclusive → index upperExclusive < upperExclusive

structure Draw where
  sample : Except PlaybackActorError ClockSample
  random : QueueRandom
  store : StoreFault

/-! ## Connections -/

def connectedClients (connections : Connections) : List ConnectedClient :=
  let clients : BTreeMap String ConnectedClient := connections.values.foldl
    (fun clients record =>
      match record.registration with
      | some registration => clients.insert registration.clientId {
          clientId := registration.clientId
          name := registration.rememberedName.getD registration.name
          isDefaultOutput := registration.isDefaultOutput }
      | none => clients) ∅
  clients.values

def connectedClientIds (connections : Connections) : List String :=
  connections.values.filterMap fun record => record.registration.map (·.clientId)

def hasRegisteredSibling (connections : Connections) (connectionId : ConnectionId)
    (clientId : String) : Bool :=
  connections.toList.any fun candidate =>
    candidate.1 != connectionId && candidate.2.registration.any (·.clientId == clientId)

def validateClientId (clientId : String) : Except PlaybackActorError Unit :=
  if 1 ≤ clientId.length ∧ clientId.length ≤ maxClientIdLength then .ok ()
  else .error (.invalidRegistration "client_id must contain 1 to 64 characters")

def validateRememberedName (rememberedName : Option String) : Except PlaybackActorError Unit :=
  if rememberedName.all fun name => 1 ≤ name.length ∧ name.length ≤ maxClientNameLength then
    .ok ()
  else .error (.invalidRegistration "remembered name must contain 1 to 128 characters")

def validateRegistration (registration : ClientRegistration) : Except PlaybackActorError Unit := do
  validateClientId registration.clientId
  if ¬ (1 ≤ registration.name.length ∧ registration.name.length ≤ maxClientNameLength) then
    .error (.invalidRegistration "name must contain 1 to 128 characters")
  validateRememberedName registration.rememberedName

def validateConfig (config : PlaybackActorConfig) : Except PlaybackActorError Unit :=
  if config.stateId ≤ 0 then
    .error (.invalidConfiguration "state_id must be positive")
  else if config.mailboxCapacity = 0 then
    .error (.invalidConfiguration "mailbox_capacity must be positive")
  else if config.eventCapacity = 0 then
    .error (.invalidConfiguration "event_capacity must be positive")
  else if config.positionFlushInterval = 0 then
    .error (.invalidConfiguration "position_flush_interval must be positive")
  else if config.interruptUnknownDuration = 0 then
    .error (.invalidConfiguration "interrupt_unknown_duration must be positive")
  else .ok ()

/-! ## Loops and deadlines -/

/-- The nearest integer, ties to the even one. -/
def roundHalfEven (value : ℚ) : ℕ :=
  let below := value.floor.toNat
  let rest := value - below
  if rest < 1 / 2 ∨ (rest = 1 / 2 ∧ below % 2 = 0) then below else below + 1

/-- `Duration::try_from_secs_f64`, in nanoseconds. -/
def durationFromSeconds : Float64 → Option ℕ
  | .finite seconds =>
    let nanoseconds := roundHalfEven (seconds * 10 ^ 9)
    if 0 ≤ seconds ∧ nanoseconds < 2 ^ 64 * 10 ^ 9 then some nanoseconds else none
  | .nonFinite => none

def loopIntervalMs (loopingSfx : LoopingSfx) : ℕ :=
  max (((durationFromSeconds loopingSfx.intervalSeconds).map durationMs).getD u64Max) 1

def initialLoopDeadlines (loopingSfx : List LoopingSfx) (nowMs : ℕ) : BTreeMap String ℕ :=
  loopingSfx.foldl (fun deadlines loopingSfx =>
    deadlines.insert loopingSfx.id (saturatingAdd nowMs (loopIntervalMs loopingSfx))) ∅

def reconcileLoopDeadlines (deadlines : BTreeMap String ℕ) (previous current : List LoopingSfx)
    (restartedIds : List String) (nowMs : ℕ) : BTreeMap String ℕ :=
  let kept := deadlines.filter fun id _ =>
    !restartedIds.contains id &&
      (current.find? (·.id == id)).any fun loopingSfx =>
        previous.find? (·.id == id) == some loopingSfx
  current.foldl (fun deadlines loopingSfx =>
    deadlines.insertIfNew loopingSfx.id
      (saturatingAdd nowMs (loopIntervalMs loopingSfx))) kept

/-! ## The end of a track -/

inductive TrackLane where
  | interrupt | ambient
  deriving DecidableEq

structure TrackEffectPlan where
  remainingMs : ℤ
  lane : TrackLane
  trackId : TrackId
  deriving DecidableEq

def remainingTrackMs (durationMs graceMs positionMs : ℕ) : ℤ :=
  (saturatingAdd durationMs graceMs : ℤ) - positionMs

/-- The duration a catalog has for a track, where it has a positive one. -/
def CatalogSnapshot.knownDurationMs (catalog : CatalogSnapshot) (trackId : TrackId) : Option ℕ :=
  (((catalog.tracks.bind (·[trackId]?)).bind (·.durationMs))).filter (0 < ·)

/-- When the interrupt's track ends, while it advances. -/
def interruptEffectPlan (config : PlaybackActorConfig) (actor : PlaybackActor)
    (sample : ClockSample) : Option TrackEffectPlan :=
  let materialized := materializePositions actor.state sample.monotonicMs
  (materialized.interrupt.filter (·.positionAnchorMs.isSome)).map fun interrupt => {
    remainingMs := remainingTrackMs
      ((actor.catalog.knownDurationMs interrupt.currentTrackId).getD
        (durationMs config.interruptUnknownDuration))
      (durationMs config.trackEndGrace) interrupt.positionMs
    lane := .interrupt
    trackId := interrupt.currentTrackId }

/-- When the ambient track ends, while it advances and its duration is known. -/
def ambientEffectPlan (config : PlaybackActorConfig) (actor : PlaybackActor)
    (sample : ClockSample) : Option TrackEffectPlan :=
  let ambient := (materializePositions actor.state sample.monotonicMs).ambient
  (ambient.currentTrackId.filter fun _ => ambient.positionAnchorMs.isSome).bind fun trackId =>
    (actor.catalog.knownDurationMs trackId).map fun duration => {
      remainingMs :=
        remainingTrackMs duration (durationMs config.trackEndGrace) ambient.positionMs
      lane := .ambient
      trackId }

/-- The end that comes first; the interrupt's where both come at once. -/
def trackEffectPlan (config : PlaybackActorConfig) (actor : PlaybackActor)
    (sample : ClockSample) : Option TrackEffectPlan :=
  match interruptEffectPlan config actor sample, ambientEffectPlan config actor sample with
  | some interrupt, some ambient =>
    if ambient.remainingMs < interrupt.remainingMs then some ambient else some interrupt
  | some interrupt, none => some interrupt
  | none, ambient => ambient

/-- The successor of a track in follow mode, once the queue is empty. -/
def followNextId (actor : PlaybackActor) (current : Option TrackId) : Option TrackId :=
  if actor.state.ambient.loopMode = .follow ∧ actor.state.ambient.queue.isEmpty then
    current.bind fun trackId =>
      (actor.catalog.tracks.bind (·[trackId]?)).bind (·.followNextId)
  else none

/-! ## Publishing and storing -/

def directContext (clock : ClockSample) : ReductionContext := ⟨clock, none⟩

def publication (actor : PlaybackActor) (sample : ClockSample) : PlaybackPublication where
  state := materializePositions actor.state sample.monotonicMs
  connectedClients := connectedClients actor.connections
  sampledAt := sample

def bumpPublicationRevision (state : PlaybackState) (currentRevision : ℕ) :
    Except PlaybackActorError PlaybackState :=
  match checkedIncrement currentRevision with
  | some publicationRevision => .ok { state with publicationRevision }
  | none => .error .publicationRevisionOverflow

namespace World

variable {Text : Type}

def result (w : World Text) (changed : Bool) : PlaybackCommandResult :=
  ⟨changed, w.actor.state.publicationRevision⟩

def publish (w : World Text) (sample : ClockSample) : World Text :=
  { w with effects := w.effects ++ [.published (publication w.actor sample)] }

def emitEvents (w : World Text) (events : List DomainEvent) : World Text :=
  { w with effects := w.effects ++ events.map .emitted }

/-- The compare-and-swap of the store on its one row, as one step. -/
def compareAndSwap (w : World Text) (stateJson : Text) (fault : StoreFault) :
    World Text × Except PlaybackActorError ℤ :=
  let expected := w.actor.storageRevision
  if fault = .lostRequest ∨ expected < 0 ∨ expected ≥ 2 ^ 63 - 1 then (w, .error .persistence)
  else if w.row.map (·.storageRevision) = some expected then
    let snapshot : StoredPlaybackSnapshot Text := ⟨stateJson, expected + 1⟩
    let w := { w with row := some snapshot, effects := w.effects ++ [.stored snapshot] }
    if fault = .lostReply then (w, .error .persistence) else (w, .ok (expected + 1))
  else if fault = .lostReply then (w, .error .persistence)
  else (w, .error .persistenceConflict)

/-- `persist_candidate`, with the assignment of the new storage revision. -/
def persistCandidate (codec : JsonCodec Text) (w : World Text) (state : PlaybackState)
    (nowMs : ℕ) (fault : StoreFault) : World Text × Except PlaybackActorError Unit :=
  match w.compareAndSwap (encodePersistedState codec state nowMs) fault with
  | (w, .ok storageRevision) => ({ w with actor.storageRevision := storageRevision }, .ok ())
  | (w, .error error) => (w, .error error)

end World

/-! ## Commands -/

def validateResolvedCommand (actor : PlaybackActor) (resolved : ResolvedPlaybackCommand) :
    Except PlaybackActorError Unit :=
  if commandRequiresCatalog resolved.command then
    match resolved.catalogGeneration with
    | none => .error .missingCatalogResolution
    | some generation =>
      if generation = actor.catalog.generation then .ok ()
      else .error (.staleCatalog generation actor.catalog.generation)
  else .ok ()

/-- Outputs have to be connected, unless they are active already. -/
def checkOutputs (actor : PlaybackActor) : PlaybackCommand → Except PlaybackActorError Unit
  | .setActiveOutputs deviceIds =>
    let disconnected := deviceIds.filter fun deviceId =>
      !actor.state.activeOutputDeviceIds.contains deviceId &&
        !(connectedClientIds actor.connections).contains deviceId
    if disconnected.isEmpty then .ok () else .error (.disconnectedOutput disconnected)
  | _ => .ok ()

/-- Only an active output reports a position. -/
def checkReporter (actor : PlaybackActor) : PlaybackCommand → Except PlaybackActorError Unit
  | .reportPosition deviceId _ =>
    if actor.state.activeOutputDeviceIds.contains deviceId then .ok ()
    else .error (.inactivePositionReporter deviceId)
  | _ => .ok ()

def validateLiveReferences (actor : PlaybackActor) (command : PlaybackCommand) :
    Except PlaybackActorError Unit := do
  checkOutputs actor command
  checkReporter actor command
  if catalogReferencesValid command actor.catalog actor.state then .ok ()
  else .error .invalidCatalogReference

def randomQueueIndex (state : PlaybackState) (command : PlaybackCommand) (random : QueueRandom) :
    Option ℕ :=
  match command with
  | .ambientSkipNext _ _ =>
    if state.ambient.shuffle = .random ∧ !state.ambient.queue.isEmpty then
      some (random.index state.ambient.queue.length)
    else none
  | _ => none

/-- A mode switch also switches the output policy, in the same commit. -/
def withOutputPolicy (catalog : CatalogSnapshot) (reduction : Reduction) : Reduction :=
  match catalog.modes with
  | none => reduction
  | some modes =>
    let policy := reduction.nextState.applyOutputPolicy
      (activeModeAllowsMultipleOutputs reduction.nextState modes)
    { reduction with nextState := policy.1, changed := reduction.changed || policy.2 }

/-- The part of `execute` that decides: the checks, the clock, the reduction. -/
def decideCommand (actor : PlaybackActor) (resolved : ResolvedPlaybackCommand) (draw : Draw) :
    Except PlaybackActorError (ClockSample × Reduction) := do
  validateResolvedCommand actor resolved
  validateLiveReferences actor resolved.command
  let sample ← draw.sample
  let context : ReductionContext :=
    ⟨sample, randomQueueIndex actor.state resolved.command draw.random⟩
  match reduce actor.state resolved.command context with
  | .ok reduction => .ok (sample, withOutputPolicy actor.catalog reduction)
  | .error error => .error (.domain error)

/-- The loops an accepted command started anew. -/
def restartedLoopIds (events : List DomainEvent) : List String :=
  events.filterMap fun event =>
    match event with
    | .loopStarted loopingSfx => some loopingSfx.id
    | _ => none

/-- `reduce` on behalf of the owner itself, with what it changed. -/
def reduceDirect (state : PlaybackState) (command : PlaybackCommand) (sample : ClockSample) :
    Except PlaybackActorError (PlaybackState × Bool) :=
  match reduce state command (directContext sample) with
  | .ok reduction => .ok (reduction.nextState, reduction.changed)
  | .error error => .error (.domain error)

/-- The state once a connection has registered: an id it gave up is no output any more,
unless another connection carries it, and its device is known. -/
def registeredState (state : PlaybackState) (connections : Connections)
    (connectionId : ConnectionId) (previous : Option ClientRegistration)
    (registration : ClientRegistration) (sample : ClockSample) :
    Except PlaybackActorError (PlaybackState × Bool) := do
  let removed ←
    match previous with
    | some previous =>
      if previous.clientId != registration.clientId &&
          !hasRegisteredSibling connections connectionId previous.clientId then
        reduceDirect state (.removeActiveOutput previous.clientId) sample
      else .ok (state, false)
    | none => .ok (state, false)
  let registered ← reduceDirect removed.1
    (.registerDevice registration.clientId registration.isDefaultOutput) sample
  return (registered.1, removed.2 || registered.2)

/-- The state once a connection is gone: its client is no output any more, unless
another connection carries it. -/
def disconnectedState (state : PlaybackState) (connections : Connections)
    (registration : Option ClientRegistration) (sample : ClockSample) :
    Except PlaybackActorError (PlaybackState × Bool) :=
  match registration with
  | some registration =>
    if !connections.values.any fun candidate =>
        candidate.registration.any (·.clientId == registration.clientId) then
      reduceDirect state (.removeActiveOutput registration.clientId) sample
    else .ok (state, false)
  | none => .ok (state, false)

/-- The connections once the metadata of a client changed. -/
def refreshedConnections (connections : Connections) (clientId : String)
    (rememberedName : Option String) (isDefaultOutput : Bool) : Connections :=
  connections.map fun _ record =>
    { record with
      registration := record.registration.map fun registration =>
        if registration.clientId = clientId then
          { registration with rememberedName, isDefaultOutput }
        else registration }

/-- The state a commit is about to store: a published one has the next revision. -/
def commitCandidate (current : PlaybackState) (reduction : Reduction) :
    Except PlaybackActorError PlaybackState :=
  if reduction.publishState then
    bumpPublicationRevision reduction.nextState current.publicationRevision
  else .ok reduction.nextState

/-! ## Turns of the owner -/

namespace World

variable {Text : Type} (codec : JsonCodec Text)

/-- The part of `execute` that commits an admitted reduction. -/
def commit (w : World Text) (sample : ClockSample) (reduction : Reduction)
    (fault : StoreFault) : World Text × Except PlaybackActorError PlaybackCommandResult :=
  match reduction.persistence with
  | .none =>
    let w := w.emitEvents reduction.events
    (w, .ok (w.result reduction.changed))
  | .throttled =>
    let w := { w with actor.state := reduction.nextState, actor.dirtyPosition := true }
    let w := w.emitEvents reduction.events
    (w, .ok (w.result reduction.changed))
  | .immediate =>
    if !reduction.changed then
      let w := w.emitEvents reduction.events
      (w, .ok (w.result false))
    else
      match commitCandidate w.actor.state reduction with
      | .error error => (w, .error error)
      | .ok candidate =>
        match w.persistCandidate codec candidate sample.monotonicMs fault with
        | (w, .error error) => (w, .error error)
        | (w, .ok ()) =>
          let w := { w with actor := { w.actor with
            state := candidate
            loopDeadlinesMs := reconcileLoopDeadlines w.actor.loopDeadlinesMs
              w.actor.state.loopingSfx candidate.loopingSfx
              (restartedLoopIds reduction.events) sample.monotonicMs
            dirtyPosition := false } }
          let w := if reduction.publishState then w.publish sample else w
          let w := w.emitEvents reduction.events
          (w, .ok (w.result true))

def execute (w : World Text) (resolved : ResolvedPlaybackCommand) (draw : Draw) :
    World Text × Except PlaybackActorError PlaybackCommandResult :=
  match decideCommand w.actor resolved draw with
  | .error error => (w, .error error)
  | .ok (sample, reduction) => w.commit codec sample reduction draw.store

def executeAmbientSkipNext (w : World Text) (expectedTrackId : Option TrackId) (draw : Draw) :
    World Text × Except PlaybackActorError PlaybackCommandResult :=
  w.execute codec
    (.atGeneration
      (.ambientSkipNext (followNextId w.actor w.actor.state.ambient.currentTrackId)
        expectedTrackId)
      w.actor.catalog.generation) draw

def openConnection (w : World Text) : World Text × Except PlaybackActorError ConnectionId :=
  let connectionId := w.actor.nextConnectionId
  match checkedIncrement connectionId with
  | none => (w, .error .connectionIdOverflow)
  | some nextConnectionId =>
    ({ w with actor := { w.actor with
      nextConnectionId
      connections := w.actor.connections.insert connectionId ⟨none⟩ } }, .ok connectionId)

/-- The write of an external change: what changed durably, or a reported position that
was not stored yet. -/
def persistExternalChange (w : World Text) (candidateState : PlaybackState)
    (durableChanged : Bool) (sample : ClockSample) (fault : StoreFault) :
    World Text × Except PlaybackActorError Unit :=
  if durableChanged || w.actor.dirtyPosition then
    match w.persistCandidate codec candidateState sample.monotonicMs fault with
    | (w, .ok ()) => ({ w with actor.dirtyPosition := false }, .ok ())
    | (w, .error error) => (w, .error error)
  else (w, .ok ())

def commitExternalChange (w : World Text) (candidateState : PlaybackState)
    (candidateConnections : Connections) (durableChanged presenceChanged : Bool)
    (sample : ClockSample) (fault : StoreFault) :
    World Text × Except PlaybackActorError PlaybackCommandResult :=
  if !durableChanged && !presenceChanged then
    let w := { w with actor.connections := candidateConnections }
    (w, .ok (w.result false))
  else
    match bumpPublicationRevision candidateState w.actor.state.publicationRevision with
    | .error error => (w, .error error)
    | .ok candidateState =>
      match w.persistExternalChange codec candidateState durableChanged sample fault with
      | (w, .error error) => (w, .error error)
      | (w, .ok ()) =>
        let w := { w with actor := { w.actor with
          state := candidateState
          connections := candidateConnections } }
        let w := w.publish sample
        (w, .ok (w.result true))

def registerConnection (w : World Text) (connectionId : ConnectionId)
    (registration : ClientRegistration) (draw : Draw) :
    World Text × Except PlaybackActorError PlaybackCommandResult :=
  match validateRegistration registration with
  | .error error => (w, .error error)
  | .ok () =>
    match w.actor.connections[connectionId]? with
    | none => (w, .error (.unknownConnection connectionId))
    | some current =>
      if current.registration = some registration then (w, .ok (w.result false))
      else
        match draw.sample with
        | .error error => (w, .error error)
        | .ok sample =>
          let connections := w.actor.connections.insert connectionId ⟨some registration⟩
          match registeredState w.actor.state connections connectionId current.registration
              registration sample with
          | .error error => (w, .error error)
          | .ok (state, durableChanged) =>
            w.commitExternalChange codec state connections durableChanged
              (connectedClients w.actor.connections != connectedClients connections)
              sample draw.store

def disconnect (w : World Text) (connectionId : ConnectionId) (draw : Draw) :
    World Text × Except PlaybackActorError PlaybackCommandResult :=
  match w.actor.connections[connectionId]? with
  | none => (w, .error (.unknownConnection connectionId))
  | some record =>
    match draw.sample with
    | .error error => (w, .error error)
    | .ok sample =>
      let connections := w.actor.connections.erase connectionId
      match disconnectedState w.actor.state connections record.registration sample with
      | .error error => (w, .error error)
      | .ok (state, durableChanged) =>
        w.commitExternalChange codec state connections durableChanged
          (connectedClients w.actor.connections != connectedClients connections)
          sample draw.store

/-- The metadata changes even where the clock then fails, and only the publication is
lost. -/
def refreshClientMetadata (w : World Text) (clientId : String)
    (rememberedName : Option String) (isDefaultOutput : Bool) (draw : Draw) :
    World Text × Except PlaybackActorError PlaybackCommandResult :=
  match (do validateClientId clientId; validateRememberedName rememberedName :
      Except PlaybackActorError Unit) with
  | .error error => (w, .error error)
  | .ok () =>
    let before := connectedClients w.actor.connections
    let w := { w with actor.connections :=
      refreshedConnections w.actor.connections clientId rememberedName isDefaultOutput }
    if before != connectedClients w.actor.connections then
      match draw.sample with
      | .error error => (w, .error error)
      | .ok sample =>
        let w := w.publish sample
        (w, .ok (w.result true))
    else (w, .ok (w.result false))

def replaceCatalog (w : World Text) (catalog : CatalogSnapshot)
    (activePresetContentChanged : Bool) (draw : Draw) :
    World Text × Except PlaybackActorError PlaybackCommandResult :=
  if catalog.generation.library < w.actor.catalog.generation.library ∨
      catalog.generation.modes < w.actor.catalog.generation.modes then
    (w, .error .catalogGenerationRegressed)
  else if catalog = w.actor.catalog ∧ !activePresetContentChanged then
    (w, .ok (w.result false))
  else
    match draw.sample with
    | .error error => (w, .error error)
    | .ok sample =>
      match pruneForCatalog w.actor.state catalog sample.monotonicMs
          activePresetContentChanged with
      | .error error => (w, .error (.domain error))
      | .ok (candidate, changed) =>
        if !changed then
          let w := { w with actor.catalog := catalog }
          (w, .ok (w.result false))
        else
          match bumpPublicationRevision candidate w.actor.state.publicationRevision with
          | .error error => (w, .error error)
          | .ok candidate =>
            match w.persistCandidate codec candidate sample.monotonicMs draw.store with
            | (w, .error error) => (w, .error error)
            | (w, .ok ()) =>
              let w := { w with actor := { w.actor with
                catalog
                state := candidate
                loopDeadlinesMs := reconcileLoopDeadlines w.actor.loopDeadlinesMs
                  w.actor.state.loopingSfx candidate.loopingSfx [] sample.monotonicMs
                dirtyPosition := false } }
              let w := w.publish sample
              (w, .ok (w.result true))

def flushPosition (w : World Text) (draw : Draw) :
    World Text × Except PlaybackActorError Unit :=
  if !w.actor.dirtyPosition then (w, .ok ())
  else
    match draw.sample with
    | .error error => (w, .error error)
    | .ok sample =>
      match w.persistCandidate codec w.actor.state sample.monotonicMs draw.store with
      | (w, .error error) => (w, .error error)
      | (w, .ok ()) => ({ w with actor.dirtyPosition := false }, .ok ())

/-- One loop whose deadline has come: it fires, or its deadline is dropped with it. -/
def fireDueLoop (sample : ClockSample) (w : World Text) (id : String) : World Text :=
  match w.actor.state.loopingSfx.find? (·.id == id) with
  | none => { w with actor.loopDeadlinesMs := w.actor.loopDeadlinesMs.erase id }
  | some loopingSfx =>
    let deadline := saturatingAdd sample.monotonicMs (loopIntervalMs loopingSfx)
    let w := { w with actor.loopDeadlinesMs := w.actor.loopDeadlinesMs.insert id deadline }
    w.emitEvents [.sfxFired loopingSfx.soundboardId loopingSfx.itemPath loopingSfx.volume]

def fireDueLoops (w : World Text) (sample : ClockSample) : World Text :=
  let dueLoopIds := (w.actor.loopDeadlinesMs.toList.filter
    (·.2 ≤ sample.monotonicMs)).map (·.1)
  dueLoopIds.foldl (fireDueLoop sample) w

/-- The command the owner issues for itself where a track has ended. -/
def dueCommand (actor : PlaybackActor) (plan : TrackEffectPlan) : ResolvedPlaybackCommand :=
  match plan.lane with
  | .interrupt => .direct (.interruptSkipNext (some plan.trackId))
  | .ambient =>
    .atGeneration
      (.ambientSkipNext (followNextId actor (some plan.trackId)) (some plan.trackId))
      actor.catalog.generation

/-- The due effects at one sample; the advance of a track that has ended samples the
clock again. -/
def runDueEffects (config : PlaybackActorConfig) (w : World Text)
    (sample : Except PlaybackActorError ClockSample) (draw : Draw) :
    World Text × Except PlaybackActorError Unit :=
  match sample with
  | .error error => (w, .error error)
  | .ok sample =>
    let w := w.fireDueLoops sample
    match (trackEffectPlan config w.actor sample).filter (·.remainingMs ≤ 0) with
    | none => (w, .ok ())
    | some plan =>
      let turn := w.execute codec (dueCommand w.actor plan) draw
      (turn.1, turn.2.map fun _ => ())

end World

/-! ## Messages -/

inductive ActorMessage where
  | execute (command : ResolvedPlaybackCommand)
  | snapshot
  | ambientSkipNext (expectedTrackId : Option TrackId)
  | openConnection
  | registerConnection (connectionId : ConnectionId) (registration : ClientRegistration)
  | refreshClientMetadata (clientId : String) (rememberedName : Option String)
      (isDefaultOutput : Bool)
  | disconnect (connectionId : ConnectionId)
  | replaceCatalog (catalog : CatalogSnapshot) (activePresetContentChanged : Bool)
  | replaceLibraryCatalog (generation : ℕ) (tracks : BTreeMap TrackId CatalogTrack)
  | replaceModeCatalog (publication : ModeCatalogPublication)

/-- What wakes the owner: a message, a due effect, or the flush timer. -/
inductive Turn where
  | message (message : ActorMessage) (draw : Draw)
  | dueEffects (sample : Except PlaybackActorError ClockSample) (draw : Draw)
  | flush (draw : Draw)

/-- Whether a mode publication changed the content of a preset that is active. -/
def activePresetContentChanged (state : PlaybackState) (publication : ModeCatalogPublication) :
    Bool :=
  state.activeModeId.any fun activeModeId =>
    publication.changedPresets.any fun key =>
      key.modeId == activeModeId && state.activePresetIds.contains key.presetId

namespace World

variable {Text : Type} (codec : JsonCodec Text)

/-- An error a client is told about and the owner survives becomes a success of the
turn. -/
def survive {α : Type} (turn : World Text × Except PlaybackActorError α) :
    World Text × Except PlaybackActorError Unit :=
  (turn.1,
    match turn.2 with
    | .ok _ => .ok ()
    | .error error => if isFatal error then .error error else .ok ())

def handleMessage (w : World Text) (message : ActorMessage) (draw : Draw) :
    World Text × Except PlaybackActorError Unit :=
  match message with
  | .execute command => survive (w.execute codec command draw)
  | .snapshot =>
    match draw.sample with
    | .ok sample =>
      ({ w with effects := w.effects ++ [.answered (publication w.actor sample)] }, .ok ())
    | .error _ => (w, .ok ())
  | .ambientSkipNext expectedTrackId =>
    survive (w.executeAmbientSkipNext codec expectedTrackId draw)
  | .openConnection => (w.openConnection.1, .ok ())
  | .registerConnection connectionId registration =>
    survive (w.registerConnection codec connectionId registration draw)
  | .refreshClientMetadata clientId rememberedName isDefaultOutput =>
    ((w.refreshClientMetadata clientId rememberedName isDefaultOutput draw).1, .ok ())
  | .disconnect connectionId => survive (w.disconnect codec connectionId draw)
  | .replaceCatalog catalog activePresetContentChanged =>
    survive (w.replaceCatalog codec catalog activePresetContentChanged draw)
  | .replaceLibraryCatalog generation tracks =>
    let catalog : CatalogSnapshot := { w.actor.catalog with
      generation := { w.actor.catalog.generation with library := generation }
      tracks := some tracks }
    survive (w.replaceCatalog codec catalog false draw)
  | .replaceModeCatalog publication =>
    let catalog : CatalogSnapshot := { w.actor.catalog with
      generation := { w.actor.catalog.generation with modes := publication.generation }
      modes := some publication.modes }
    survive (w.replaceCatalog codec catalog
      (activePresetContentChanged w.actor.state publication) draw)

/-- One turn of the owner's loop.  An error ends the loop. -/
def turn (config : PlaybackActorConfig) (w : World Text) :
    Turn → World Text × Except PlaybackActorError Unit
  | .message message draw => w.handleMessage codec message draw
  | .dueEffects sample draw => w.runDueEffects codec config sample draw
  | .flush draw => w.flushPosition codec draw

end World

/-! ## Starting -/

/-- What starting the owner draws from outside: the clock, and the answers of the store
to the load and to the two writes it may make. -/
structure StartDraw where
  sample : Except PlaybackActorError ClockSample
  load : StoreFault
  firstWrite : StoreFault
  pruneWrite : StoreFault

/-- The owner as it is built from a loaded state. -/
def initialActor (state : PlaybackState) (storageRevision : ℤ) (catalog : CatalogSnapshot)
    (nowMs : ℕ) : PlaybackActor where
  state := state
  storageRevision := storageRevision
  dirtyPosition := false
  loopDeadlinesMs := initialLoopDeadlines state.loopingSfx nowMs
  catalog := catalog
  connections := ∅
  nextConnectionId := 1

/-- Load the stored state, or store the default one where there is none.  A document
that is not written the way the owner writes it is written anew. -/
def loadOrInitialize {Text : Type} (codec : JsonCodec Text)
    (row : Option (StoredPlaybackSnapshot Text)) (catalog : CatalogSnapshot) (nowMs : ℕ)
    (draw : StartDraw) : Except PlaybackActorError (World Text) :=
  if draw.load ≠ .none then .error .persistence
  else
    match row with
    | some snapshot =>
      match decodePersistedState codec snapshot.stateJson with
      | .error _ => .error .persistence
      | .ok state =>
        let w : World Text :=
          ⟨initialActor state snapshot.storageRevision catalog nowMs, row, [.loaded snapshot]⟩
        if codec.equivalent snapshot.stateJson (encodePersistedState codec state nowMs) then
          .ok w
        else
          match w.persistCandidate codec state nowMs draw.firstWrite with
          | (w, .ok ()) => .ok w
          | (_, .error error) => .error error
    | none =>
      if draw.firstWrite ≠ .none then .error .persistence
      else
        let snapshot : StoredPlaybackSnapshot Text :=
          ⟨encodePersistedState codec .default nowMs, 0⟩
        .ok ⟨initialActor .default 0 catalog nowMs, some snapshot, [.stored snapshot]⟩

/-- The write of the state a first catalog pruned. -/
def World.persistPruned {Text : Type} (codec : JsonCodec Text) (w : World Text)
    (state : PlaybackState) (pruned : Bool) (nowMs : ℕ) (fault : StoreFault) :
    World Text × Except PlaybackActorError Unit :=
  if pruned then w.persistCandidate codec state nowMs fault else (w, .ok ())

def startPlaybackActor {Text : Type} (codec : JsonCodec Text) (config : PlaybackActorConfig)
    (row : Option (StoredPlaybackSnapshot Text)) (catalog : CatalogSnapshot)
    (draw : StartDraw) : Except PlaybackActorError (World Text) := do
  validateConfig config
  let sample ← draw.sample
  let w ← loadOrInitialize codec row catalog sample.monotonicMs draw
  match pruneForCatalog w.actor.state catalog sample.monotonicMs false with
  | .error error => .error (.domain error)
  | .ok (state, pruned) =>
    match w.persistPruned codec state pruned sample.monotonicMs draw.pruneWrite with
    | (_, .error error) => .error error
    | (w, .ok ()) =>
      let w := { w with
        actor := initialActor state w.actor.storageRevision catalog sample.monotonicMs }
      return w.publish sample

end MusicServer
