/-
# The provider settings service

A mutation of `ProviderService` reads, works out what to write and hands it to one transaction;
between the two, other calls may write.  A run is any interleaving of such calls.
-/
import MusicServer.ProviderStore

namespace MusicServer

namespace Providers

/-! ## Requests -/

structure ProviderConnectionCreate where
  name : String
  adapterId : String
  baseUrl : String
  apiKey : String
  allowPrivateNetwork : Bool

structure ProviderConnectionPatch where
  name : Option String
  adapterId : Option String
  baseUrl : Option String
  apiKey : Option String
  allowPrivateNetwork : Option Bool
  deriving DecidableEq

structure ModelRoleUpdate where
  connectionId : String
  modelId : String
  enabled : Bool
  timeoutSeconds : ℕ
  maxOutputTokens : ℕ
  thinkingMode : ThinkingMode
  deriving DecidableEq

structure EncryptedProviderCredential where
  ciphertext : String
  nonce : String
  hint : String
  deriving DecidableEq

structure ProviderVerificationResult where
  verified : Bool
  errorCode : Option String
  models : List String

structure ProviderConformanceResult where
  passed : Bool
  errorCode : Option String

variable (env : ProviderEnvironment)

def refuseIf (condition : Bool) (error : ProviderServiceError) : Except ProviderServiceError Unit :=
  if condition then .error error else .ok ()

/-! ## Connections -/

/-- The record of a new connection, under an id that was drawn for it. -/
def ProviderConnectionCreate.record (request : ProviderConnectionCreate) (id : String)
    (encrypted : Except String EncryptedProviderCredential) :
    Except ProviderServiceError ProviderConnectionRecord := do
  let name ← normalizeRequired request.name 128
  let adapterId ← normalizeRequired request.adapterId 64
  let baseUrl ← normalizeRequired request.baseUrl 2048
  validateApiKey request.apiKey
  let _ ← requireAdapter adapterId
  let baseUrl ←
    (env.normalizeBaseUrl adapterId baseUrl request.allowPrivateNetwork).mapError mapPolicyError
  let encrypted ← encrypted.mapError mapCredentialError
  return {
    id := id
    name := name
    adapterId := adapterId
    baseUrl := baseUrl
    encryptedApiKey := encrypted.ciphertext
    apiKeyNonce := encrypted.nonce
    apiKeyHint := encrypted.hint
    allowPrivateNetwork := request.allowPrivateNetwork
    verificationStatus := "never"
    verificationErrorCode := none
    verifiedModels := []
    verifiedCapabilityIds := []
    lastVerifiedAt := none }

namespace ProviderConnectionPatch

def normalize (patch : ProviderConnectionPatch) :
    Except ProviderServiceError ProviderConnectionPatch := do
  let name ← patch.name.mapM (normalizeRequired · 128)
  let adapterId ← patch.adapterId.mapM (normalizeRequired · 64)
  let baseUrl ← patch.baseUrl.mapM (normalizeRequired · 2048)
  let _ ← patch.apiKey.mapM validateApiKey
  return { patch with name := name, adapterId := adapterId, baseUrl := baseUrl }

/-- The fields of a patch over those of a record. -/
def merged (patch : ProviderConnectionPatch) (current : ProviderConnectionRecord)
    (baseUrl : String) (encrypted : EncryptedProviderCredential) : ProviderConnectionRecord :=
  { current with
    name := patch.name.getD current.name
    adapterId := patch.adapterId.getD current.adapterId
    baseUrl := baseUrl
    allowPrivateNetwork := patch.allowPrivateNetwork.getD current.allowPrivateNetwork
    encryptedApiKey := if patch.apiKey.isSome then encrypted.ciphertext
      else current.encryptedApiKey
    apiKeyNonce := if patch.apiKey.isSome then encrypted.nonce else current.apiKeyNonce
    apiKeyHint := if patch.apiKey.isSome then encrypted.hint else current.apiKeyHint }

/-- The URL and the credential of the record to come. -/
def plan (patch : ProviderConnectionPatch) (current : ProviderConnectionRecord)
    (encrypted : Except String EncryptedProviderCredential) :
    Except ProviderServiceError (String × EncryptedProviderCredential) :=
  if patch.apiKey.isSome && current.credentialSaved then .error credentialAlreadySaved
  else
    match requireAdapter (patch.adapterId.getD current.adapterId) with
    | .error error => .error error
    | .ok _ =>
      match env.normalizeBaseUrl (patch.adapterId.getD current.adapterId)
        (patch.baseUrl.getD current.baseUrl)
        (patch.allowPrivateNetwork.getD current.allowPrivateNetwork) with
      | .error code => .error (mapPolicyError code)
      | .ok baseUrl =>
        if patch.apiKey.isSome then
          match encrypted with
          | .error code => .error (mapCredentialError code)
          | .ok credential => .ok (baseUrl, credential)
        else .ok (baseUrl, ⟨"", "", ""⟩)

/-- The record that replaces one that was read, and whether what was verified is reset. -/
def replacement (patch : ProviderConnectionPatch) (current : ProviderConnectionRecord)
    (encrypted : Except String EncryptedProviderCredential) :
    Except ProviderServiceError (ProviderConnectionRecord × Bool) :=
  match patch.plan env current encrypted with
  | .error error => .error error
  | .ok (baseUrl, encrypted) =>
    let merged := patch.merged current baseUrl encrypted
    if merged.settings ≠ current.settings then .ok (merged.resetVerification, true)
    else .ok (merged, false)

/-- What an update takes over from the record it read. -/
def taken (patch : ProviderConnectionPatch) (reset : Bool) (record : ProviderConnectionRecord) :
    ProviderConnectionRecord :=
  let record := if reset then record.resetVerification else record
  { record with name := if patch.name.isSome then "" else record.name }

end ProviderConnectionPatch

def verificationWrite (read : ProviderConnectionRecord) (result : ProviderVerificationResult) :
    ProviderVerificationWrite :=
  let errorCode := normalizeVerificationError result.errorCode
  let verified := result.verified && errorCode.isNone
  { connectionId := read.id
    expectedFingerprint := read.fingerprint env
    verified := verified
    errorCode := if verified then none else some (errorCode.getD "verification_failed")
    models := if verified then boundedUniqueStrings result.models 200 else []
    capabilityIds := [] }

/-! ## Roles -/

def ensureSharedMoodConfiguration (store : ProviderStore) (role : ModelRoleRecord) :
    Except ProviderServiceError Unit :=
  if role.roleId ≠ "tag_cleanup" then .ok ()
  else if (store.role "music_tagger").map (·.settings) = some role.settings then .ok ()
  else .error sharedMoodModelRequired

/-- The checks of `prepare_role_conformance` on the records it was given. -/
def checkConformance (definition : ModelRoleDefinition) (connection : ProviderConnectionRecord) :
    Except ProviderServiceError Unit := do
  refuseIf (ProviderVerificationStatus.parse connection.verificationStatus ≠ .verified)
    (connectionNotVerified "Verify this provider connection before testing the model.")
  refuseIf (!capabilitiesSatisfy (declaredConnectionCapabilities connection)
    definition.requiredCapabilityIds) incompatibleConnection
  let _ ← decryptCredential env connection

def conformanceWrite (role : ModelRoleRecord) (connection : ProviderConnectionRecord)
    (result : ProviderConformanceResult) : ProviderConformanceWrite :=
  let errorCode := normalizeVerificationError result.errorCode
  let passed := result.passed && errorCode.isNone
  { roleId := role.roleId
    expectedRoleConfigurationFingerprint := role.configurationFingerprint env
    expectedConnectionFingerprint := connection.fingerprint env
    runtimeFingerprint := roleRuntimeFingerprint env role connection
    passed := passed
    errorCode := if passed then none else some (errorCode.getD "conformance_failed") }

namespace ModelRoleUpdate

def normalize (request : ModelRoleUpdate) : Except ProviderServiceError ModelRoleUpdate := do
  let connectionId ← normalizeRequired request.connectionId 32
  let modelId ← normalizeRequired request.modelId 256
  refuseIf (¬ (5 ≤ request.timeoutSeconds ∧ request.timeoutSeconds ≤ 300) ∨
    ¬ (128 ≤ request.maxOutputTokens ∧ request.maxOutputTokens ≤ 65536)) validationError
  return { request with connectionId := connectionId, modelId := modelId }

/-- The checks on the connection that was read. -/
def checkConnection (request : ModelRoleUpdate) (definition : ModelRoleDefinition)
    (connection : ProviderConnectionRecord) : Except ProviderServiceError Unit := do
  let adapter ← requireAdapter connection.adapterId
  validateRoleModelSettings env connection request.modelId request.thinkingMode
    request.maxOutputTokens
  refuseIf (!capabilitiesSatisfy adapter.capabilityIds definition.requiredCapabilityIds)
    incompatibleConnection
  refuseIf (request.enabled &&
      ProviderVerificationStatus.parse connection.verificationStatus ≠ .verified)
    (connectionNotVerified "Verify this provider connection before enabling the role.")
  refuseIf (request.enabled && !capabilitiesSatisfy (declaredConnectionCapabilities connection)
    definition.requiredCapabilityIds) incompatibleConnection
  if request.enabled then
    let _ ← decryptCredential env connection

def runtimeChanged (request : ModelRoleUpdate) : Option ModelRoleRecord → Bool
  | none => true
  | some current =>
    current.connectionId ≠ request.connectionId || current.modelId ≠ request.modelId ||
      current.timeoutSeconds ≠ request.timeoutSeconds ||
      current.maxOutputTokens ≠ request.maxOutputTokens ||
      ThinkingMode.parse current.thinkingMode ≠ request.thinkingMode

def checkTested (request : ModelRoleUpdate) (connection : ProviderConnectionRecord)
    (current : Option ModelRoleRecord) : Except ProviderServiceError Unit :=
  if request.enabled && !(current.any fun record => !request.runtimeChanged current &&
      currentConformanceStatus env record connection = .passed) then
    .error (modelNotTested "Save and test this model configuration before enabling it.")
  else .ok ()

/-- The record to be saved: a conformance result stays with the settings it was got with. -/
def record (request : ModelRoleUpdate) (roleId : String) (current : Option ModelRoleRecord) :
    ModelRoleRecord :=
  let kept := if request.runtimeChanged current then none else current
  { roleId := roleId
    connectionId := request.connectionId
    modelId := request.modelId
    enabled := request.enabled
    timeoutSeconds := request.timeoutSeconds
    maxOutputTokens := request.maxOutputTokens
    thinkingMode := request.thinkingMode.asStr
    conformanceStatus := (kept.map (·.conformanceStatus)).getD "never"
    conformanceErrorCode := kept.bind (·.conformanceErrorCode)
    conformanceFingerprint := kept.bind (·.conformanceFingerprint)
    lastConformanceAt := kept.bind (·.lastConformanceAt) }

/-- What an update takes over from the role it read. -/
def taken (request : ModelRoleUpdate) (current : Option ModelRoleRecord) :
    Option (String × Option String × Option String × Option ℤ) :=
  if request.runtimeChanged current then none
  else current.map fun record => (record.conformanceStatus, record.conformanceErrorCode,
    record.conformanceFingerprint, record.lastConformanceAt)

end ModelRoleUpdate

/-! ## Calls -/

inductive ProviderRequest where
  | createConnection (id : String) (request : ProviderConnectionCreate)
  | updateConnection (id : String) (patch : ProviderConnectionPatch)
  | deleteConnection (id : String)
  | deleteConnectionCredential (id : String)
  | verifyConnection (id : String)
  | testRole (roleId : String)
  | updateModelRole (roleId : String) (request : ModelRoleUpdate)
  | deleteModelRole (roleId : String)
  | resetCredentials

/-- Where a call stands between two things others can see. -/
inductive ProviderCall where
  | requested (request : ProviderRequest)
  | replacing (patch : ProviderConnectionPatch) (read replacement : ProviderConnectionRecord)
      (reset : Bool) (encrypted : Except String EncryptedProviderCredential)
  /-- The verification target was prepared from a record, and the provider is asked. -/
  | verifying (read : ProviderConnectionRecord)
  | sharing (role : ModelRoleRecord) (connection : ProviderConnectionRecord)
  /-- The model is tested. -/
  | testing (role : ModelRoleRecord) (connection : ProviderConnectionRecord)
  | readingRoles (roleId : String) (request : ModelRoleUpdate)
      (connection : ProviderConnectionRecord)
  | sharingRole (roleId : String) (request : ModelRoleUpdate)
      (connection : ProviderConnectionRecord) (read : Option ModelRoleRecord)
  | savingRole (roleId : String) (request : ModelRoleUpdate)
      (connection : ProviderConnectionRecord) (read : Option ModelRoleRecord)
  | finished (result : Except ProviderServiceError Unit)

/-- A write that was reported as applied, by what was asked for. -/
inductive ProviderWrite where
  | createConnection (record : ProviderConnectionRecord)
  | replaceConnection (id : String) (patch : ProviderConnectionPatch)
      (encrypted : Except String EncryptedProviderCredential)
  | deleteConnection (id : String)
  | clearCredential (id : String)
  | verifyConnection (write : ProviderVerificationWrite) (now : ℤ)
  | testRole (write : ProviderConformanceWrite) (now : ℤ)
  | saveRole (roleId : String) (request : ModelRoleUpdate)
  | deleteRole (roleId : String)
  | resetCredentials
  deriving DecidableEq

structure ProviderInput where
  jobs : ActiveModelJobs
  now : ℤ
  encrypted : Except String EncryptedProviderCredential
  verification : ProviderVerificationResult
  conformance : ProviderConformanceResult

structure ProviderStep where
  store : ProviderStore
  call : ProviderCall
  applied : Option ProviderWrite

def commit (transaction : ProviderStore × ProviderMutationOutcome) (write : ProviderWrite)
    (refusal : ProviderMutationOutcome → ProviderServiceError) : ProviderStep :=
  if transaction.2 = .applied then ⟨transaction.1, .finished (.ok ()), some write⟩
  else ⟨transaction.1, .finished (.error (refusal transaction.2)), none⟩

/-- A read leaves the store, and the call goes on or is refused. -/
def proceed (store : ProviderStore) (next : Except ProviderServiceError ProviderCall) :
    ProviderStep :=
  match next with
  | .ok call => ⟨store, call, none⟩
  | .error error => ⟨store, .finished (.error error), none⟩

def connectionRefusal (changed : String) : ProviderMutationOutcome → ProviderServiceError
  | .notFound => connectionNotFound
  | .duplicateName => duplicateName
  | .connectionInUse => connectionInUse
  | .connectionModelJobActive => connectionJobActive
  | .modelJobActive => connectionJobActive
  | .changed => Providers.connectionChanged changed
  | _ => unexpectedMutation

def roleRefusal : ProviderMutationOutcome → ProviderServiceError
  | .notFound => connectionNotFound
  | .roleModelJobActive => roleJobActive
  | .changed => Providers.connectionChanged
    "The provider connection changed while the role was being updated. Refresh and try again."
  | _ => unexpectedMutation

def conformanceRefusal : ProviderMutationOutcome → ProviderServiceError
  | .modelJobActive => roleJobActive
  | _ => Providers.roleChanged

/-- The read of a request, or its one transaction. -/
def ProviderRequest.step (store : ProviderStore) (input : ProviderInput) :
    ProviderRequest → ProviderStep
  | .createConnection id request =>
    match request.record env id input.encrypted with
    | .error error => ⟨store, .finished (.error error), none⟩
    | .ok record =>
      commit (store.createProviderConnection env record) (.createConnection record)
        (connectionRefusal "")
  | .updateConnection id patch =>
    proceed store do
      validateIdentifier id 32
      let patch ← patch.normalize
      match store.connection id with
      | none => throw connectionNotFound
      | some current =>
        let (replacement, reset) ← patch.replacement env current input.encrypted
        return .replacing patch current replacement reset input.encrypted
  | .deleteConnection id =>
    match validateIdentifier id 32 with
    | .error error => ⟨store, .finished (.error error), none⟩
    | .ok () =>
      commit (store.deleteProviderConnection input.jobs id) (.deleteConnection id)
        (connectionRefusal "")
  | .deleteConnectionCredential id =>
    match validateIdentifier id 32 with
    | .error error => ⟨store, .finished (.error error), none⟩
    | .ok () =>
      commit (store.clearProviderCredential input.jobs id) (.clearCredential id)
        (connectionRefusal "")
  | .verifyConnection id =>
    proceed store do
      validateIdentifier id 32
      match store.connection id with
      | none => throw connectionNotFound
      | some connection =>
        refuseIf (input.jobs.connection id) connectionJobActive
        let _ ← decryptCredential env connection
        let _ ← requireAdapter connection.adapterId
        return .verifying connection
  | .testRole roleId =>
    proceed store do
      let _ ← configurableRole roleId
      match store.role roleId with
      | none => throw roleNotConfigured
      | some role =>
        refuseIf (input.jobs.role roleId) roleJobActive
        match store.connection role.connectionId with
        | none => throw connectionNotFound
        | some connection =>
          validateRoleModelSettings env connection role.modelId (.parse role.thinkingMode)
            role.maxOutputTokens
          return .sharing role connection
  | .updateModelRole roleId request =>
    proceed store do
      let definition ← configurableRole roleId
      let request ← request.normalize
      match store.connection request.connectionId with
      | none => throw connectionNotFound
      | some connection =>
        request.checkConnection env definition connection
        return .readingRoles roleId request connection
  | .deleteModelRole roleId =>
    match modelRole roleId with
    | none => ⟨store, .finished (.error roleNotFound), none⟩
    | some _ =>
      let transaction := store.deleteModelRole input.jobs roleId
      -- a role that is not there is as good as deleted
      if transaction.2 = .notFound then ⟨transaction.1, .finished (.ok ()), none⟩
      else commit transaction (.deleteRole roleId) fun outcome =>
        if outcome = .roleModelJobActive then roleJobActive else unexpectedMutation
  | .resetCredentials =>
    commit (store.resetProviderCredentials input.jobs) .resetCredentials fun _ =>
      ⟨.conflict, "model_job_active", ""⟩

def ProviderCall.step (store : ProviderStore) (input : ProviderInput) :
    ProviderCall → Option ProviderStep
  | .requested request => some (request.step env store input)
  | .replacing patch read replacement reset encrypted =>
    some (commit (store.replaceProviderConnection env input.jobs (read.fingerprint env)
      replacement reset) (.replaceConnection read.id patch encrypted)
      (connectionRefusal
        "The connection changed while it was being updated. Refresh and try again."))
  | .verifying read =>
    let write := verificationWrite env read input.verification
    some (commit (store.finishProviderVerification env input.jobs write input.now)
      (.verifyConnection write input.now)
      (connectionRefusal
        "The connection changed while verification was running. Verify it again."))
  | .sharing role connection =>
    some (proceed store do
      let definition ← configurableRole role.roleId
      ensureSharedMoodConfiguration store role
      checkConformance env definition connection
      return .testing role connection)
  | .testing role connection =>
    let write := conformanceWrite env role connection input.conformance
    some (commit (store.finishRoleConformance env input.jobs write input.now)
      (.testRole write input.now) conformanceRefusal)
  | .readingRoles roleId request connection =>
    some (proceed store do
      request.checkTested env connection (store.role roleId)
      return .sharingRole roleId request connection (store.role roleId))
  | .sharingRole roleId request connection read =>
    some (proceed store do
      ensureSharedMoodConfiguration store (request.record roleId read)
      return .savingRole roleId request connection read)
  | .savingRole roleId request connection read =>
    some (commit (store.saveModelRole env input.jobs (connection.fingerprint env)
      (request.record roleId read) (request.runtimeChanged read)) (.saveRole roleId request)
      roleRefusal)
  | .finished _ => none

/-! ## Runs -/

structure AppliedWrite where
  write : ProviderWrite
  before : ProviderStore
  after : ProviderStore
  deriving DecidableEq

structure ProviderWorld where
  store : ProviderStore
  calls : List ProviderCall
  /-- The writes reported as applied, in their order. -/
  applied : List AppliedWrite

inductive ProviderEvent where
  | request (request : ProviderRequest)
  | step (index : ℕ) (input : ProviderInput)

namespace ProviderWorld

def initial : ProviderWorld := ⟨.empty, [], []⟩

def step (world : ProviderWorld) : ProviderEvent → Option ProviderWorld
  | .request request => some { world with calls := world.calls ++ [.requested request] }
  | .step index input =>
    match world.calls[index]? with
    | none => none
    | some call =>
      match call.step env world.store input with
      | none => none
      | some next => some
        { store := next.store
          calls := world.calls.set index next.call
          applied := world.applied ++
            (next.applied.map fun write => ⟨write, world.store, next.store⟩).toList }

def run : ProviderWorld → List ProviderEvent → Option ProviderWorld
  | world, [] => some world
  | world, event :: rest =>
    match world.step env event with
    | some next => run next rest
    | none => none

end ProviderWorld

/-! ## Writes that go over nothing unseen -/

/-- A write that is applied finds what it took from its read as it was. -/
def ProviderCall.Careful (store : ProviderStore) (input : ProviderInput) : ProviderCall → Prop
  | .replacing patch read replacement reset _ =>
    (store.replaceProviderConnection env input.jobs (read.fingerprint env) replacement
        reset).2 = .applied →
      (store.connection read.id).map (patch.taken reset) = some (patch.taken reset read)
  | .savingRole roleId request connection read =>
    (store.saveModelRole env input.jobs (connection.fingerprint env) (request.record roleId read)
        (request.runtimeChanged read)).2 = .applied →
      request.taken (store.role roleId) = request.taken read
  | _ => True

def ProviderWorld.Careful (world : ProviderWorld) : ProviderEvent → Prop
  | .request _ => True
  | .step index input => ∀ call ∈ world.calls[index]?, call.Careful env world.store input

instance decidableCallCareful (store : ProviderStore) (input : ProviderInput) :
    ∀ call, Decidable (ProviderCall.Careful env store input call)
  | .replacing _ _ _ _ _ => inferInstanceAs (Decidable (_ → _))
  | .savingRole _ _ _ _ => inferInstanceAs (Decidable (_ → _))
  | .requested _ => isTrue trivial
  | .verifying _ => isTrue trivial
  | .sharing _ _ => isTrue trivial
  | .testing _ _ => isTrue trivial
  | .readingRoles _ _ _ => isTrue trivial
  | .sharingRole _ _ _ _ => isTrue trivial
  | .finished _ => isTrue trivial

instance decidableWorldCareful (world : ProviderWorld) :
    ∀ event, Decidable (ProviderWorld.Careful env world event)
  | .request _ => isTrue trivial
  | .step index input =>
    inferInstanceAs (Decidable (∀ call ∈ world.calls[index]?, call.Careful env world.store input))

def ProviderWorld.CarefulRun : ProviderWorld → List ProviderEvent → Prop
  | _, [] => True
  | world, event :: rest =>
    world.Careful env event ∧ ∀ next ∈ world.step env event, next.CarefulRun rest

instance decidableWorldCarefulRun :
    ∀ (world : ProviderWorld) (events : List ProviderEvent),
      Decidable (ProviderWorld.CarefulRun env world events)
  | _, [] => isTrue trivial
  | world, event :: rest =>
    have (next : ProviderWorld) := decidableWorldCarefulRun next rest
    inferInstanceAs (Decidable (world.Careful env event ∧
      ∀ next ∈ world.step env event, next.CarefulRun env rest))

end Providers

end MusicServer
