/-
# The master key and the stored credentials

`provider_credentials.rs` with its callers in `providers.rs` and `cleanup_sources.rs`: the key
file, the two tables of ciphertexts and the lock between them.  A request is a task that stops
at its await points: it asks for the lock, seals a key under the master key that is configured
then, hands its transaction over and waits for it.  A transaction that was handed over is
committed or rolled back whether its request is still there or not; SQLite admits one at a time.
-/
import MusicServer.FairRwLock
import MusicServer.ProviderService

namespace MusicServer.Credentials

open FairRwLock Providers

/-! ## The key -/

/-- The cipher: a key read from its encoded form, and the encryption of an API key for a
connection or a source, under a nonce. -/
structure Vault (Key : Type) where
  fromEncodedKey : String → Option Key
  encrypt : Key → String → String → String → Except String EncryptedProviderCredential

/-- The key of the environment, trimmed and not empty, and whether a key file is configured. -/
structure CredentialConfig where
  environmentKey : Option String
  hasKeyFile : Bool

def maxEncodedKeyBytes : ℕ := 128

variable {Key : Type} (vault : Vault Key) (config : CredentialConfig)

/-- `read_key_file`, where the file is there and may be read. -/
def readKeyFile (content : String) : Option String :=
  if content.utf8ByteSize ≤ maxEncodedKeyBytes ∧ content.toList.all (·.val < 128) then
    some (Enrichment.trim content)
  else none

/-- `configured_vault_unlocked`: the key of the environment, else the one of the file. -/
def configuredVault (keyFile : Option String) : Option Key :=
  match config.environmentKey with
  | some encoded => vault.fromEncodedKey encoded
  | none =>
    if config.hasKeyFile then (keyFile.bind readKeyFile).bind vault.fromEncodedKey else none

/-- The conditions of `status_unlocked` for `can_initialize`; `target` is whether a file may be
made at the path. -/
def canInitialize (keyFile : Option String) (saved target : Bool) : Bool :=
  (configuredVault vault config keyFile).isNone && config.environmentKey.isNone &&
    config.hasKeyFile && keyFile.isNone && !saved && target

/-! ## What is stored -/

structure SourceCredential where
  sourceId : String
  credential : EncryptedProviderCredential
  deriving DecidableEq

/-- The two tables of ciphertexts, the providers with all their rows. -/
structure CredentialTables where
  providers : ProviderStore
  sources : List SourceCredential
  deriving DecidableEq

def cleanupSourceCredentialSubject (sourceId : String) : Option String :=
  if sourceId = "acoustid" ∨ sourceId = "lastfm" then some ("cleanup-source:" ++ sourceId)
  else none

def maxCredentialChars : ℕ := 4096

def CredentialTables.savedCredentialsExist (tables : CredentialTables) : Bool :=
  (tables.providers.connections.any fun connection =>
    connection.encryptedApiKey ≠ "" || connection.apiKeyNonce ≠ "") || !tables.sources.isEmpty

/-- The transactions; a replacement comes with the record it was worked out from. -/
inductive StoreWrite where
  | createConnection (record : Providers.ProviderConnectionRecord)
  | replaceConnection (read replacement : Providers.ProviderConnectionRecord) (reset : Bool)
  | clearCredential (id : String)
  | deleteConnection (id : String)
  | storeSource (source : SourceCredential)
  | clearSource (sourceId : String)
  | resetCredentials
  deriving DecidableEq

variable (env : ProviderEnvironment)

/-- A transaction, with the model jobs that are active when it looks, and whether it applied. -/
def CredentialTables.transact (tables : CredentialTables) (jobs : ActiveModelJobs) :
    StoreWrite → CredentialTables × Bool
  | .createConnection record =>
    let result := tables.providers.createProviderConnection env record
    ({ tables with providers := result.1 }, result.2 = .applied)
  | .replaceConnection read replacement reset =>
    let result := tables.providers.replaceProviderConnection env jobs (read.fingerprint env)
      replacement reset
    ({ tables with providers := result.1 }, result.2 = .applied)
  | .clearCredential id =>
    let result := tables.providers.clearProviderCredential jobs id
    ({ tables with providers := result.1 }, result.2 = .applied)
  | .deleteConnection id =>
    let result := tables.providers.deleteProviderConnection jobs id
    ({ tables with providers := result.1 }, result.2 = .applied)
  | .storeSource source =>
    ({ tables with sources := KeyedRows.upsert (·.sourceId) source tables.sources }, true)
  | .clearSource sourceId =>
    ({ tables with sources := KeyedRows.delete (·.sourceId) sourceId tables.sources }, true)
  | .resetCredentials =>
    let result := tables.providers.resetProviderCredentials jobs
    if result.2 = .applied then (⟨result.1, []⟩, true) else (tables, false)

/-! ## Requests -/

inductive CredentialRequest where
  | createConnection (id : String) (request : ProviderConnectionCreate)
  | updateConnection (id : String) (patch : ProviderConnectionPatch)
  | deleteConnection (id : String)
  | deleteConnectionCredential (id : String)
  | saveCredential (sourceId apiKey : String)
  | deleteCredential (sourceId : String)
  | initializeStorage
  | resetStorage

/-- What is to be sealed once there is a cipher. -/
inductive Sealing where
  | create (id : String) (request : ProviderConnectionCreate)
  | update (current : Providers.ProviderConnectionRecord) (patch : ProviderConnectionPatch)
  | source (sourceId apiKey : String)

/-- The await points of a request, and the steps between them that a crash can separate. -/
inductive Phase where
  | requested (request : CredentialRequest)
  | sealing (sealing : Sealing)
  | initializing (saved : Bool)
  | resetting
  | writing (write : StoreWrite)
  | awaiting
  | installing (encoded : String)
  | removing
  | finished

/-- A credential that stands for one that is not there yet: what is refused with it is refused
before the cipher is asked for. -/
def noCredential : Except String EncryptedProviderCredential := .ok ⟨"", "", ""⟩

/-- A request up to its first wait for the lock or for a transaction. -/
def CredentialRequest.begin (tables : CredentialTables) : CredentialRequest → Phase
  | .createConnection id request =>
    match request.record env id noCredential with
    | .error _ => .finished
    | .ok _ => .sealing (.create id request)
  | .updateConnection id patch =>
    match validateIdentifier id 32, patch.normalize with
    | .ok (), .ok patch =>
      match tables.providers.connection id with
      | none => .finished
      | some current =>
        match patch.replacement env current noCredential with
        | .error _ => .finished
        | .ok (replacement, resets) =>
          if patch.apiKey.isSome then .sealing (.update current patch)
          else .writing (.replaceConnection current replacement resets)
    | _, _ => .finished
  | .deleteConnection id =>
    match validateIdentifier id 32 with
    | .error _ => .finished
    | .ok () => .writing (.deleteConnection id)
  | .deleteConnectionCredential id =>
    match validateIdentifier id 32 with
    | .error _ => .finished
    | .ok () => .writing (.clearCredential id)
  | .saveCredential sourceId apiKey =>
    match cleanupSourceCredentialSubject sourceId with
    | none => .finished
    | some _ =>
      let length := (Enrichment.trim apiKey).length
      if 1 ≤ length ∧ length ≤ maxCredentialChars then .sealing (.source sourceId apiKey)
      else .finished
  | .deleteCredential sourceId =>
    match cleanupSourceCredentialSubject sourceId with
    | none => .finished
    | some _ => .writing (.clearSource sourceId)
  | .initializeStorage => .initializing tables.savedCredentialsExist
  | .resetStorage => .resetting

/-- What a request writes with the cipher of a key. -/
def Sealing.write (key : Key) (nonce : String) : Sealing → Except Unit StoreWrite
  | .create id request =>
    match request.record env id (vault.encrypt key id request.apiKey nonce) with
    | .error _ => .error ()
    | .ok record => .ok (.createConnection record)
  | .update current patch =>
    match patch.replacement env current
      (vault.encrypt key current.id (patch.apiKey.getD "") nonce) with
    | .error _ => .error ()
    | .ok (replacement, reset) => .ok (.replaceConnection current replacement reset)
  | .source sourceId apiKey =>
    match cleanupSourceCredentialSubject sourceId with
    | none => .error ()
    | some subject =>
      match vault.encrypt key subject apiKey nonce with
      | .error _ => .error ()
      | .ok credential => .ok (.storeSource ⟨sourceId, credential⟩)

/-! ## Steps -/

/-- The server: the key file, the tables, the transaction that was handed over and by which
task, the lock and the tasks. -/
structure KeyState where
  keyFile : Option String
  tables : CredentialTables
  pending : Option (ℕ × StoreWrite)
  lock : Lock ℕ
  tasks : List Phase

inductive KeyLabel where
  | requested (request : CredentialRequest)
  | begun (task : ℕ)
  | asked (task : ℕ)
  -- the cipher of the configured key, where the key can be read, seals
  | sealed (task : ℕ) (readable : Bool) (nonce : String)
  -- `initialize` has the lock: whether a file may be made, and the key drawn
  | keyCreated (task : ℕ) (target : Bool) (encoded : String)
  | keyWritten (task : ℕ) (count : ℕ)
  | keyInstalled (task : ℕ)
  | keyFailed (task : ℕ) (removed : Bool)
  -- `reset` has the lock: whether the key file may be removed
  | preflighted (task : ℕ) (safe : Bool)
  | handedOver (task : ℕ)
  | committed (jobs : ActiveModelJobs)
  | rolledBack
  | keyRemoved (task : ℕ) (deleted : Bool)
  | dropped (task : ℕ)
  | crashed

namespace KeyState

/-- A task is at another point, under another state of the lock. -/
def move (s : KeyState) (task : ℕ) (phase : Phase) (lock : Lock ℕ) : KeyState :=
  { s with lock, tasks := s.tasks.set task phase }

/-- A task is over: it drops what it has of the lock and what it waits for. -/
def finish (s : KeyState) (task : ℕ) : KeyState := s.move task .finished (s.lock.abandon task)

def idle (s : KeyState) (task : ℕ) : Bool :=
  !s.lock.readers.contains task && s.lock.writer ≠ some task &&
    !s.lock.queue.any fun entry => entry.1 = task

/-- The task whose transaction ended goes on, where it is still there. -/
def resume (s : KeyState) (task : ℕ) (write : StoreWrite) (applied : Bool) : KeyState :=
  match s.tasks[task]? with
  | some .awaiting =>
    if write = .resetCredentials ∧ applied then s.move task .removing s.lock else s.finish task
  | _ => s

def exec (s : KeyState) : KeyLabel → Option KeyState
  | .requested request => some { s with tasks := s.tasks ++ [.requested request] }
  | .begun task =>
    match s.tasks[task]? with
    | some (.requested request) => some (s.move task (request.begin env s.tables) s.lock)
    | _ => none
  | .asked task =>
    if s.idle task then
      match s.tasks[task]? with
      | some (.sealing sealing) => some (s.move task (.sealing sealing) (s.lock.acquire task .read))
      | some (.initializing saved) =>
        some (s.move task (.initializing saved) (s.lock.acquire task .write))
      | some .resetting => some (s.move task .resetting (s.lock.acquire task .write))
      | _ => none
    else none
  | .sealed task readable nonce =>
    match s.tasks[task]? with
    | some (.sealing sealing) =>
      if task ∈ s.lock.readers then
        match (if readable then configuredVault vault config s.keyFile else none) with
        | none => some (s.finish task)
        | some key =>
          match sealing.write vault env key nonce with
          | .error () => some (s.finish task)
          | .ok write => some (s.move task (.writing write) s.lock)
      else none
    | _ => none
  | .keyCreated task target encoded =>
    match s.tasks[task]? with
    | some (.initializing saved) =>
      if s.lock.writer = some task then
        if canInitialize vault config s.keyFile saved target then
          some { s.move task (.installing encoded) s.lock with keyFile := some "" }
        else some (s.finish task)
      else none
    | _ => none
  | .keyWritten task count =>
    match s.tasks[task]? with
    | some (.installing encoded) =>
      some { s with keyFile := some (.ofList (encoded.toList.take count)) }
    | _ => none
  | .keyInstalled task =>
    match s.tasks[task]? with
    | some (.installing encoded) => some { s.finish task with keyFile := some encoded }
    | _ => none
  | .keyFailed task removed =>
    match s.tasks[task]? with
    | some (.installing _) =>
      some { s.finish task with keyFile := if removed then none else s.keyFile }
    | _ => none
  | .preflighted task safe =>
    match s.tasks[task]? with
    | some .resetting =>
      if s.lock.writer = some task then
        if config.environmentKey.isNone && config.hasKeyFile && safe then
          some (s.move task (.writing .resetCredentials) s.lock)
        else some (s.finish task)
      else none
    | _ => none
  | .handedOver task =>
    match s.tasks[task]?, s.pending with
    | some (.writing write), none =>
      some { s.move task .awaiting s.lock with pending := some (task, write) }
    | _, _ => none
  | .committed jobs =>
    match s.pending with
    | some (task, write) =>
      let result := s.tables.transact env jobs write
      some (resume { s with tables := result.1, pending := none } task write result.2)
    | none => none
  | .rolledBack =>
    match s.pending with
    | some (task, write) => some (resume { s with pending := none } task write false)
    | none => none
  | .keyRemoved task deleted =>
    match s.tasks[task]? with
    | some .removing =>
      some { s.finish task with keyFile := if deleted then none else s.keyFile }
    | _ => none
  | .dropped task =>
    match s.tasks[task]? with
    -- the key file is written between two await points
    | some (.installing _) | none => none
    | some _ => some (s.finish task)
  | .crashed => some { s with pending := none, lock := .free, tasks := [] }

end KeyState

end MusicServer.Credentials
