/-
# One WebSocket session

`websocket.rs`: the two tasks of a session.  The reader rechecks the authorization before
each action and executes it; the writer sends projected states and queued messages.  They
share the session's projection and a queue of commands.  A `Socket` is both tasks with what
they share, `Socket.exec` one step of either, up to its next await point, or of the world
around them: time, the session table, the playback owner.  What the owner, the table and the
clock answer comes with the label of the step.  The `log` keeps what happened, in order.
-/
import MusicServer.ClientActions
import MusicServer.GuestProjection
import MusicServer.Transition

namespace MusicServer.WebSocket

open Protocol

/-! ## Types -/

/-- `SESSION_RECHECK_INTERVAL`, in milliseconds. -/
def sessionRecheckInterval : ℕ := 10000

def writerCommandCapacity : ℕ := 16

structure SessionProjection where
  clientId : Option String
  authenticated : Bool
  deriving DecidableEq

inductive WriterCommand where
  | error (detail : String) (code : Option ErrorCode)
  | pong (bytes : List UInt8)
  deriving DecidableEq

/-- A session as the upgrade request found it. -/
structure CurrentSession where
  token : String
  expiresAt : ℤ
  deriving DecidableEq

structure SessionAuthorization where
  token : Option String
  expiresAt : Option ℤ
  lastDatabaseCheck : ℕ
  deriving DecidableEq

def SessionAuthorization.fromSession (session : Option CurrentSession) (instant : ℕ) :
    SessionAuthorization where
  token := session.map (·.token)
  expiresAt := session.map (·.expiresAt)
  lastDatabaseCheck := instant

def SessionAuthorization.authenticated (authorization : SessionAuthorization) : Bool :=
  authorization.token.isSome

def SessionAuthorization.downgrade (authorization : SessionAuthorization) :
    SessionAuthorization :=
  { authorization with token := none, expiresAt := none }

inductive SessionAnswer where
  | authenticated (expiresAt : ℤ)
  | expired
  | missing
  | failed
  deriving DecidableEq

structure Device where
  name : String
  isOutput : Bool
  deriving DecidableEq

/-- What an action asks of the owner, which decides how a refusal is told. -/
inductive Asked where
  | report
  | outputs
  | skip
  | direct
  | catalog
  deriving DecidableEq

/-- How an action fails: the owner refuses it, or the catalogs do, with their text. -/
inductive ExecutionFailure where
  | owner (error : PlaybackActorError)
  | catalog (detail : String)
  deriving DecidableEq

def failureDetail : Asked → ExecutionFailure → String
  | .report, _ => "only active outputs may report position"
  | .outputs, .owner (.disconnectedOutput deviceIds) =>
    "device(s) not connected: " ++ ", ".intercalate deviceIds
  | .catalog, .catalog detail => detail
  | _, _ => "playback action failed"

/-- A state of the owner, numbered in the order of sampling. -/
structure Sample where
  number : ℕ
  publication : PlaybackPublication
  deriving DecidableEq

/-- The await points of the reader, each with what is left to do. -/
inductive ReaderPhase where
  | waiting
  | lookingUp (pending : Option ClientAction)
  | queueing (command : WriterCommand) (pending : Option ClientAction)
  | findingDevice (name clientId : String)
  | registering (session : SessionProjection)
  | executing (asked : Asked)
  | finished
  deriving DecidableEq

/-- The await points of the writer, and the moments between two reads of what it shares. -/
inductive WriterPhase where
  | starting (initial : Sample)
  | waiting
  | publicationTaken (sample : Sample)
  | snapshotRequested (session : SessionProjection)
  | snapshotTaken (session : SessionProjection) (sample : Sample)
  | sending
  | finished
  deriving DecidableEq

/-- What happens to a session.  A check has the time of the clock, which may be unknown; a
connection and a confirmation have the expiry the database gave. -/
inductive SocketEvent where
  | connected (instant : ℕ) (expiresAt : Option ℤ)
  | checked (now : Option ℤ) (instant : ℕ)
  | confirmed (instant : ℕ) (expiresAt : ℤ)
  | downgraded
  | executed (request : PlaybackRequest)
  | skipped (expectedTrackId : Option TrackId)
  | reported (deviceId : String) (positionMs : ℕ)
  | sampled (sample : Sample)
  | sentState (sample : Sample) (snapshot : Bool) (state : PlayerState)
  | sent (message : ServerMessage)
  deriving DecidableEq

structure Socket where
  hasAuth : Bool
  hasDevices : Bool
  hasCatalog : Bool
  instant : ℕ
  authorization : SessionAuthorization
  projection : SessionProjection
  projectionChanged : Bool
  latest : Sample
  publicationChanged : Bool
  samples : ℕ
  commands : List WriterCommand
  cancelled : Bool
  reader : ReaderPhase
  writer : WriterPhase
  log : List SocketEvent
  deriving DecidableEq

def Socket.record (s : Socket) (event : SocketEvent) : Socket :=
  { s with log := s.log ++ [event] }

/-! ## The reader -/

/-- How a recheck begins: it is settled, perhaps with the message of a lost session, or
the session is looked up. -/
inductive Recheck where
  | settled (authorization : SessionAuthorization) (lost : Option (String × ErrorCode))
  | lookup (authorization : SessionAuthorization)
  deriving DecidableEq

/-- `refresh_authorization` up to the lookup. -/
def refreshAuthorization (hasAuth : Bool) (authorization : SessionAuthorization)
    (now : Option ℤ) (instant : ℕ) : Recheck :=
  if authorization.token.isNone then .settled authorization none
  else
    match now with
    | none =>
      .settled authorization.downgrade
        (some ("session could not be verified — please sign in again", .sessionRevoked))
    | some now =>
      if authorization.expiresAt.any (· ≤ now) then
        .settled authorization.downgrade
          (some ("session expired — please sign in again", .sessionExpired))
      else if instant - authorization.lastDatabaseCheck < sessionRecheckInterval then
        .settled authorization none
      else
        let authorization := { authorization with lastDatabaseCheck := instant }
        if hasAuth then .lookup authorization
        else
          .settled authorization.downgrade
            (some ("session revoked — please sign in again", .sessionRevoked))

/-- `refresh_authorization` from the answer of the lookup on. -/
def finishRefresh (authorization : SessionAuthorization) :
    SessionAnswer → SessionAuthorization × Option (String × ErrorCode)
  | .authenticated expiresAt => ({ authorization with expiresAt := some expiresAt }, none)
  | .expired =>
    (authorization.downgrade, some ("session expired — please sign in again", .sessionExpired))
  | .missing =>
    (authorization.downgrade, some ("session revoked — please sign in again", .sessionRevoked))
  | .failed =>
    (authorization.downgrade,
      some ("session could not be verified — please sign in again", .sessionRevoked))

namespace Socket

/-- `queue_error`: the reader waits for room in the queue. -/
def queueError (s : Socket) (detail : String) : Socket :=
  { s with reader := .queueing (.error detail none) none }

def sendProjection (s : Socket) (session : SessionProjection) : Socket :=
  { s with projection := session, projectionChanged := true }

/-- The reader asks the owner to register its connection. -/
def startRegistration (s : Socket) (clientId : String) : Socket :=
  { s with reader := .registering ⟨some clientId, s.authorization.authenticated⟩ }

/-- A request of an authenticated session goes to the owner or to the catalogs. -/
def request (s : Socket) : PlaybackRequest → Socket
  | .direct command => { s.record (.executed (.direct command)) with reader := .executing .direct }
  | .catalog request =>
    if s.hasCatalog then
      { s.record (.executed (.catalog request)) with reader := .executing .catalog }
    else s.queueError "the required library or mode catalog is not ready"

def handleAction (s : Socket) (action : ClientAction) : Socket :=
  match action with
  | .register name clientId =>
    if s.hasDevices then { s with reader := .findingDevice name clientId }
    else s.startRegistration clientId
  | .positionReport positionMs =>
    match s.projection.clientId with
    | none => s.queueError "register before reporting position"
    | some clientId =>
      { s.record (.reported clientId positionMs) with reader := .executing .report }
  | action =>
    if !s.authorization.authenticated then
      s.queueError "guest sessions cannot mutate state — please sign in"
    else
      match action with
      | .setActiveOutputs deviceIds =>
        { s.record (.executed (.direct (.setActiveOutputs deviceIds))) with
          reader := .executing .outputs }
      | .ambientSkipNext fromTrackId =>
        match Protocol.optionally Protocol.trackId fromTrackId with
        | .error detail => s.queueError detail
        | .ok expectedTrackId =>
          { s.record (.skipped expectedTrackId) with reader := .executing .skip }
      | action =>
        match playbackRequest action with
        | .error detail => s.queueError detail
        | .ok request => s.request request

def proceed (s : Socket) : Option ClientAction → Socket
  | none => { s with reader := .waiting }
  | some action => s.handleAction action

/-- The end of `refresh_session_projection`: a lost session is projected as a guest's, and
its client is told. -/
def settle (s : Socket) (authorization : SessionAuthorization)
    (lost : Option (String × ErrorCode)) (pending : Option ClientAction) : Socket :=
  let s := { s with authorization }
  match lost with
  | none => s.proceed pending
  | some (detail, code) =>
    let s := (s.sendProjection { s.projection with authenticated := false }).record .downgraded
    { s with reader := .queueing (.error detail (some code)) pending }

/-- `refresh_session_projection`, up to the lookup. -/
def refresh (s : Socket) (now : Option ℤ) (pending : Option ClientAction) : Socket :=
  let s := s.record (.checked now s.instant)
  match refreshAuthorization s.hasAuth s.authorization now s.instant with
  | .settled authorization lost => s.settle authorization lost pending
  | .lookup authorization => { s with authorization, reader := .lookingUp pending }

def answer (s : Socket) (result : SessionAnswer) (pending : Option ClientAction) : Socket :=
  let s :=
    match result with
    | .authenticated expiresAt => s.record (.confirmed s.instant expiresAt)
    | _ => s
  let refreshed := finishRefresh s.authorization result
  s.settle refreshed.1 refreshed.2 pending

/-! ## The writer -/

def sample (s : Socket) (publication : PlaybackPublication) : Socket × Sample :=
  let sample := ⟨s.samples, publication⟩
  ({ s.record (.sampled sample) with samples := s.samples + 1 }, sample)

/-- `send_projected_state` up to the send, of a `state_snapshot` or a `state_changed`. -/
def sendProjectedState (s : Socket) (sample : Sample) (session : SessionProjection)
    (snapshot : Bool) : Socket :=
  match canonicalState sample.publication with
  | .error _ => { s with writer := .finished, cancelled := true }
  | .ok canonical =>
    let projected :=
      if session.authenticated then canonical else guestState canonical session.clientId
    { s.record (.sentState sample snapshot projected) with writer := .sending }

end Socket

/-! ## Steps -/

inductive SocketLabel where
  -- the world around the session
  | elapsed (milliseconds : ℕ)
  | shutdown
  | published (publication : PlaybackPublication)
  -- the reader
  | ticked (now : Option ℤ)
  | received (action : ClientAction) (now : Option ℤ)
  | receivedInvalid
  | receivedPing (bytes : List UInt8)
  | closed
  | answered (result : SessionAnswer)
  | queued
  | queueTimedOut
  | deviceFound (device : Except Unit (Option Device))
  | registered (accepted : Bool)
  | executed (result : Except ExecutionFailure Unit)
  | readerCancelled
  -- the writer
  | started
  | tookCommand
  | tookPublication
  | projectedPublication
  | tookProjection
  | snapshotSampled (publication : PlaybackPublication)
  | snapshotFailed
  | projectedSnapshot
  | tookSfx (soundboardId itemPath : String) (volume : UnitInterval)
  | lagged
  | sendFinished (delivered : Bool)
  | writerCancelled

/-- One step, where the session can take it. -/
def Socket.exec (s : Socket) : SocketLabel → Option Socket
  | .elapsed milliseconds => some { s with instant := s.instant + milliseconds }
  | .shutdown => some { s with cancelled := true }
  | .published publication =>
    let sampled := s.sample publication
    some { sampled.1 with latest := sampled.2, publicationChanged := true }
  | .ticked now =>
    if s.reader = .waiting ∧ s.authorization.authenticated then some (s.refresh now none)
    else none
  | .received action now =>
    if s.reader = .waiting then some (s.refresh now (some action)) else none
  | .receivedInvalid => if s.reader = .waiting then some (s.queueError "invalid action") else none
  | .receivedPing bytes =>
    if s.reader = .waiting then some { s with reader := .queueing (.pong bytes) none } else none
  | .closed =>
    if s.reader = .waiting then some { s with reader := .finished, cancelled := true } else none
  | .answered result =>
    match s.reader with
    | .lookingUp pending => some (s.answer result pending)
    | _ => none
  | .queued =>
    match s.reader with
    | .queueing command pending =>
      if s.commands.length < writerCommandCapacity then
        some ({ s with commands := s.commands ++ [command] }.proceed pending)
      else none
    | _ => none
  | .queueTimedOut =>
    match s.reader with
    | .queueing _ pending => some ({ s with cancelled := true }.proceed pending)
    | _ => none
  | .deviceFound device =>
    match s.reader with
    | .findingDevice _ clientId =>
      match device with
      | .error () => some (s.queueError "device registration failed")
      | .ok _ => some (s.startRegistration clientId)
    | _ => none
  | .registered accepted =>
    match s.reader with
    | .registering session =>
      if accepted then some { s.sendProjection session with reader := .waiting }
      else some (s.queueError "device registration failed")
    | _ => none
  | .executed result =>
    match s.reader with
    | .executing asked =>
      match result with
      | .ok () => some { s with reader := .waiting }
      | .error failure => some (s.queueError (failureDetail asked failure))
    | _ => none
  | .readerCancelled =>
    if s.reader = .waiting ∧ s.cancelled then some { s with reader := .finished } else none
  | .started =>
    match s.writer with
    | .starting initial => some (s.sendProjectedState initial s.projection true)
    | _ => none
  | .tookCommand =>
    match s.writer, s.commands with
    | .waiting, .error detail code :: rest =>
      some { s.record (.sent (.error detail code)) with commands := rest, writer := .sending }
    | .waiting, .pong _ :: rest => some { s with commands := rest, writer := .sending }
    | _, _ => none
  | .tookPublication =>
    if s.writer = .waiting ∧ s.publicationChanged then
      some { s with publicationChanged := false, writer := .publicationTaken s.latest }
    else none
  | .projectedPublication =>
    match s.writer with
    | .publicationTaken sample => some (s.sendProjectedState sample s.projection false)
    | _ => none
  | .tookProjection =>
    if s.writer = .waiting ∧ s.projectionChanged then
      some { s with projectionChanged := false, writer := .snapshotRequested s.projection }
    else none
  | .snapshotSampled publication =>
    match s.writer with
    | .snapshotRequested session =>
      let sampled := s.sample publication
      some { sampled.1 with writer := .snapshotTaken session sampled.2 }
    | _ => none
  | .snapshotFailed =>
    match s.writer with
    | .snapshotRequested _ => some { s with writer := .finished, cancelled := true }
    | _ => none
  | .projectedSnapshot =>
    match s.writer with
    | .snapshotTaken session sample => some (s.sendProjectedState sample session false)
    | _ => none
  | .tookSfx soundboardId itemPath volume =>
    if s.writer = .waiting then
      some { s.record (.sent (.sfxFired soundboardId itemPath volume.get)) with
        writer := .sending }
    else none
  | .lagged =>
    if s.writer = .waiting then some { s with writer := .finished, cancelled := true } else none
  | .sendFinished delivered =>
    if s.writer = .sending then
      if delivered then some { s with writer := .waiting }
      else some { s with writer := .finished, cancelled := true }
    else none
  | .writerCancelled =>
    if s.writer = .waiting ∧ s.cancelled then some { s with writer := .finished } else none

/-- What a session begins with: the initial snapshot, and the publication of the owner at
that time, which may have changed already. -/
structure Connected where
  session : Option CurrentSession
  hasAuth : Bool
  hasDevices : Bool
  hasCatalog : Bool
  instant : ℕ
  initial : PlaybackPublication
  latest : PlaybackPublication
  publicationChanged : Bool

def Connected.socket (c : Connected) : Socket :=
  let authorization := SessionAuthorization.fromSession c.session c.instant
  { hasAuth := c.hasAuth
    hasDevices := c.hasDevices
    hasCatalog := c.hasCatalog
    instant := c.instant
    authorization
    projection := ⟨none, authorization.authenticated⟩
    projectionChanged := false
    latest := ⟨0, c.latest⟩
    publicationChanged := c.publicationChanged
    samples := 2
    commands := []
    cancelled := false
    reader := .waiting
    writer := .starting ⟨1, c.initial⟩
    log := [.sampled ⟨0, c.latest⟩, .sampled ⟨1, c.initial⟩,
      .connected c.instant authorization.expiresAt] }

/-- The runs of a session, in any order of the steps of its tasks and of the world. -/
def socketSystem : Transition.System Socket SocketLabel where
  init s := ∃ c : Connected, s = c.socket
  step s label s' := s.exec label = some s'

end MusicServer.WebSocket
