/-
# Provider connections and model roles

The stored records of the model providers, the adapters and roles there are, and the fingerprints
that tell whether a record is still the one that was looked at.
-/
import MusicServer.CatalogEvidence
import MusicServer.KeyedRows

namespace MusicServer

namespace Providers

/-! ## Adapters and roles -/

def typedDecisionsCapability : String := "typed-decisions/v1"

def moodDecisionsCapability : String := "mood-decisions/v1"

def structuredTextCapability : String := "structured-text/v1"

def strictJsonSchemaCapability : String := "strict-json-schema/v1"

def audioInputCapability : String := "audio-input/v1"

structure ProviderAdapterDefinition where
  id : String
  capabilityIds : List String

structure ModelRoleDefinition where
  id : String
  requiredCapabilityIds : List String
  configurationAvailable : Bool
  runtimeContract : String

def providerAdapters : List ProviderAdapterDefinition :=
  [⟨"deepseek-chat/v1", [structuredTextCapability, moodDecisionsCapability]⟩,
    ⟨"deepseek-responses/v1",
      [structuredTextCapability, strictJsonSchemaCapability, moodDecisionsCapability]⟩,
    ⟨"openai-responses/v1",
      [structuredTextCapability, strictJsonSchemaCapability, moodDecisionsCapability]⟩,
    ⟨"openai-compatible/v1", [structuredTextCapability, moodDecisionsCapability]⟩,
    ⟨"openai-compatible-json-schema/v1",
      [structuredTextCapability, strictJsonSchemaCapability, moodDecisionsCapability]⟩,
    ⟨"google-gemini-openai/v1",
      [structuredTextCapability, strictJsonSchemaCapability, moodDecisionsCapability]⟩,
    ⟨"google-gemini-openai-json-schema/v1",
      [structuredTextCapability, strictJsonSchemaCapability, moodDecisionsCapability]⟩,
    ⟨"typesafe-systemone/v1", [typedDecisionsCapability, moodDecisionsCapability]⟩]

def modelRoles : List ModelRoleDefinition :=
  [⟨"music_tagger", [moodDecisionsCapability], true,
      "assistant-music-tagger-input/v26+output/v5+local-context/v3"⟩,
    ⟨"playlist_planner", [structuredTextCapability], true,
      "assistant-playlist-planner-input/v5+output/v1+closed-ids/v1"⟩,
    ⟨"tag_cleanup", [structuredTextCapability], true,
      "assistant-model-tag-cleanup-input/v3+output/v2+incidental-text-bounds/v1"⟩,
    ⟨"library_cleanup", [structuredTextCapability], true,
      "assistant-library-cleanup-input/v1+output/v1+closed-evidence/v1+edition-advice/v1"⟩,
    ⟨"eq_assistant", [structuredTextCapability], true,
      "assistant-eq-draft-input/v2+output/v1+incidental-text-bounds/v1"⟩,
    ⟨"audio_analyzer", [audioInputCapability], false, "reserved-audio-analyzer/v1"⟩]

def providerAdapter (adapterId : String) : Option ProviderAdapterDefinition :=
  providerAdapters.find? (·.id = adapterId)

def modelRole (roleId : String) : Option ModelRoleDefinition := modelRoles.find? (·.id = roleId)

inductive ProviderVerificationStatus where
  | never
  | verified
  | failed
  deriving DecidableEq

def ProviderVerificationStatus.parse (value : String) : ProviderVerificationStatus :=
  if value = "verified" then .verified else if value = "failed" then .failed else .never

inductive ModelConformanceStatus where
  | never
  | passed
  | failed
  deriving DecidableEq

def ModelConformanceStatus.parse (value : String) : ModelConformanceStatus :=
  if value = "passed" then .passed else if value = "failed" then .failed else .never

inductive ThinkingMode where
  | providerDefault
  | enabled
  | disabled
  | low
  | medium
  | high
  | xhigh
  | max
  deriving DecidableEq

def ThinkingMode.asStr : ThinkingMode → String
  | .providerDefault => "provider_default"
  | .enabled => "enabled"
  | .disabled => "disabled"
  | .low => "low"
  | .medium => "medium"
  | .high => "high"
  | .xhigh => "xhigh"
  | .max => "max"

def ThinkingMode.parse (value : String) : ThinkingMode :=
  if value = "enabled" then .enabled else if value = "disabled" then .disabled
  else if value = "low" then .low else if value = "medium" then .medium
  else if value = "high" then .high else if value = "xhigh" then .xhigh
  else if value = "max" then .max else .providerDefault

@[simp] theorem ThinkingMode.parse_asStr (mode : ThinkingMode) : parse mode.asStr = mode := by
  cases mode <;> rfl

/-! ## Records -/

structure ProviderConnectionRecord where
  id : String
  name : String
  adapterId : String
  baseUrl : String
  encryptedApiKey : String
  apiKeyNonce : String
  apiKeyHint : String
  allowPrivateNetwork : Bool
  verificationStatus : String
  verificationErrorCode : Option String
  verifiedModels : List String
  verifiedCapabilityIds : List String
  lastVerifiedAt : Option ℤ
  deriving DecidableEq

structure ModelRoleRecord where
  roleId : String
  connectionId : String
  modelId : String
  enabled : Bool
  timeoutSeconds : ℕ
  maxOutputTokens : ℕ
  thinkingMode : String
  conformanceStatus : String
  conformanceErrorCode : Option String
  conformanceFingerprint : Option String
  lastConformanceAt : Option ℤ
  deriving DecidableEq

structure ModelEvaluationRecord where
  roleId : String
  evaluationId : String
  deriving DecidableEq

/-- What the service is built with: the digest, the JSON of a list, the lower case of a text, the
policy for URLs, the model profiles, the reviewed contracts and the cipher of the credentials. -/
structure ProviderEnvironment where
  sha256Hex : String → String
  jsonOfStrings : List String → String
  toLowercase : String → String
  normalizeBaseUrl : String → String → Bool → Except String String
  validateModelSettings : String → String → ThinkingMode → ℕ → Except String Unit
  modelProfile : String → String → String × String
  contractDigest : String → String
  decrypt : String → String → String → Except String String

variable (env : ProviderEnvironment)

/-- The digest of the parts, joined by a character that none of them is expected to hold. -/
def ProviderEnvironment.digest (parts : List String) : String :=
  env.sha256Hex ("\x00".intercalate parts)

def flag (value : Bool) : String := if value then "1" else "0"

namespace ProviderConnectionRecord

def credentialSaved (connection : ProviderConnectionRecord) : Bool :=
  connection.encryptedApiKey ≠ "" && connection.apiKeyNonce ≠ ""

def fingerprint (connection : ProviderConnectionRecord) : String :=
  env.digest [connection.id, connection.adapterId, connection.baseUrl, connection.encryptedApiKey,
    connection.apiKeyNonce, env.jsonOfStrings connection.verifiedCapabilityIds,
    flag connection.allowPrivateNetwork]

def resetVerification (connection : ProviderConnectionRecord) : ProviderConnectionRecord :=
  { connection with
    verificationStatus := "never"
    verificationErrorCode := none
    verifiedModels := []
    verifiedCapabilityIds := []
    lastVerifiedAt := none }

def clearCredential (connection : ProviderConnectionRecord) : ProviderConnectionRecord :=
  { connection.resetVerification with
    encryptedApiKey := ""
    apiKeyNonce := ""
    apiKeyHint := "" }

/-- The adapter, the URL, the credential and the network policy. -/
def settings (connection : ProviderConnectionRecord) : String × String × String × String × Bool :=
  (connection.adapterId, connection.baseUrl, connection.encryptedApiKey, connection.apiKeyNonce,
    connection.allowPrivateNetwork)

end ProviderConnectionRecord

namespace ModelRoleRecord

def configurationFingerprint (role : ModelRoleRecord) : String :=
  env.digest [role.roleId, role.connectionId, role.modelId, flag role.enabled,
    toString role.timeoutSeconds, toString role.maxOutputTokens,
    (ThinkingMode.parse role.thinkingMode).asStr]

def resetConformance (role : ModelRoleRecord) : ModelRoleRecord :=
  { role with
    conformanceStatus := "never"
    conformanceErrorCode := none
    conformanceFingerprint := none
    lastConformanceAt := none }

def settings (role : ModelRoleRecord) : String × String × ℕ × ℕ × String :=
  (role.connectionId, role.modelId, role.timeoutSeconds, role.maxOutputTokens, role.thinkingMode)

end ModelRoleRecord

def roleRuntimeFingerprint (role : ModelRoleRecord) (connection : ProviderConnectionRecord) :
    String :=
  let profile := env.modelProfile connection.adapterId role.modelId
  env.digest ["assistant-model-profiles/v1", profile.1, profile.2,
    "assistant-provider-conformance-challenge/v5", "assistant-structured-harness/v3",
    connection.fingerprint env, role.roleId,
    ((modelRole role.roleId).map (·.runtimeContract)).getD "unknown-role/v1",
    env.contractDigest role.roleId, role.modelId, toString role.timeoutSeconds,
    toString role.maxOutputTokens, (ThinkingMode.parse role.thinkingMode).asStr]

def currentConformanceStatus (role : ModelRoleRecord) (connection : ProviderConnectionRecord) :
    ModelConformanceStatus :=
  if role.conformanceFingerprint ≠ some (roleRuntimeFingerprint env role connection) then .never
  else .parse role.conformanceStatus

def declaredConnectionCapabilities (connection : ProviderConnectionRecord) : List String :=
  if ProviderVerificationStatus.parse connection.verificationStatus ≠ .verified then []
  else ((providerAdapter connection.adapterId).map (·.capabilityIds)).getD []

def capabilitiesSatisfy (available required : List String) : Bool :=
  required.all fun value => value ∈ available

/-! ## Errors -/

inductive ProviderServiceErrorKind where
  | invalid
  | notFound
  | conflict
  | unavailable
  | dependency
  deriving DecidableEq

structure ProviderServiceError where
  kind : ProviderServiceErrorKind
  code : String
  message : String
  deriving DecidableEq

def validationError : ProviderServiceError :=
  ⟨.invalid, "validation_error", "The provider request is invalid."⟩

def unsupportedAdapter : ProviderServiceError :=
  ⟨.invalid, "unsupported_adapter", "That provider adapter is not supported."⟩

def mapPolicyError (code : String) : ProviderServiceError :=
  ⟨.invalid, if code = "unsupported_adapter" then "unsupported_adapter" else "invalid_provider_url",
    "The provider URL is invalid for this connection type."⟩

def mapCredentialError (code : String) : ProviderServiceError :=
  ⟨.unavailable,
    if code ∈ ["master_key_not_configured", "invalid_master_key", "master_key_file_unreadable",
      "master_key_file_unsafe", "master_key_file_permissions"] then code
    else "credential_unreadable",
    "Provider credential storage is unavailable."⟩

def credentialMissing : ProviderServiceError :=
  ⟨.conflict, "credential_missing",
    "Save an API key for this provider connection before using it."⟩

def credentialAlreadySaved : ProviderServiceError :=
  ⟨.conflict, "credential_already_saved",
    "Delete the saved API key before adding a different one."⟩

def duplicateName : ProviderServiceError :=
  ⟨.conflict, "duplicate_connection_name",
    "A provider connection with that name already exists."⟩

def connectionNotFound : ProviderServiceError :=
  ⟨.notFound, "connection_not_found", "Provider connection not found."⟩

def connectionInUse : ProviderServiceError :=
  ⟨.conflict, "connection_in_use",
    "Remove this connection from its model roles before deleting it."⟩

def connectionJobActive : ProviderServiceError :=
  ⟨.conflict, "connection_model_job_active",
    "Wait for or cancel active model work before changing this connection."⟩

def roleJobActive : ProviderServiceError :=
  ⟨.conflict, "role_model_job_active",
    "Wait for or cancel active model work before changing this role."⟩

def connectionChanged (message : String) : ProviderServiceError :=
  ⟨.conflict, "connection_changed", message⟩

def roleChanged : ProviderServiceError :=
  ⟨.conflict, "role_changed",
    "The model role changed while its test was running. Test it again."⟩

def roleNotFound : ProviderServiceError := ⟨.notFound, "role_not_found", "Model role not found."⟩

def roleNotAvailable : ProviderServiceError :=
  ⟨.conflict, "role_not_available", "This model task is planned but is not available yet."⟩

def roleNotConfigured : ProviderServiceError :=
  ⟨.conflict, "role_not_configured", "Save a model configuration before testing it."⟩

def roleNotEnabled : ProviderServiceError :=
  ⟨.conflict, "role_not_enabled", "This model role is not enabled."⟩

def connectionNotVerified (message : String) : ProviderServiceError :=
  ⟨.conflict, "connection_not_verified", message⟩

def modelNotTested (message : String) : ProviderServiceError :=
  ⟨.conflict, "model_not_tested", message⟩

def incompatibleConnection : ProviderServiceError :=
  ⟨.conflict, "incompatible_connection",
    "This connection does not support the capabilities required by this task."⟩

def sharedMoodModelRequired : ProviderServiceError :=
  ⟨.conflict, "shared_mood_model_required",
    "Save the shared model in Music tagging before testing or enabling tag cleanup."⟩

def unexpectedMutation : ProviderServiceError :=
  ⟨.dependency, "provider_storage_failed", "Provider storage failed."⟩

/-! ## Checks -/

def normalizeRequired (value : String) (maximum : ℕ) : Except ProviderServiceError String :=
  let value := Enrichment.trim value
  if value = "" ∨ maximum < value.length then .error validationError else .ok value

def validateIdentifier (value : String) (maximum : ℕ) : Except ProviderServiceError Unit :=
  if value = "" ∨ maximum < value.length then .error validationError else .ok ()

def validateApiKey (value : String) : Except ProviderServiceError Unit :=
  if value = "" ∨ 4096 < value.length then .error validationError else .ok ()

def requireAdapter (adapterId : String) : Except ProviderServiceError ProviderAdapterDefinition :=
  match providerAdapter adapterId with
  | some adapter => .ok adapter
  | none => .error unsupportedAdapter

def configurableRole (roleId : String) : Except ProviderServiceError ModelRoleDefinition :=
  match modelRole roleId with
  | none => .error roleNotFound
  | some definition =>
    if definition.configurationAvailable then .ok definition else .error roleNotAvailable

def validateRoleModelSettings (connection : ProviderConnectionRecord) (modelId : String)
    (mode : ThinkingMode) (outputTokens : ℕ) : Except ProviderServiceError Unit :=
  match env.validateModelSettings connection.adapterId modelId mode outputTokens with
  | .ok () => .ok ()
  | .error code =>
    .error ⟨.invalid, code,
      if code = "pinned_model_required" then
        "Choose a pinned Jev version, such as jev-1.13.0, instead of a moving alias."
      else "The selected model does not support these reasoning or output settings. " ++
        "Choose a supported setting."⟩

def decryptCredential (connection : ProviderConnectionRecord) :
    Except ProviderServiceError String :=
  if connection.credentialSaved then
    match env.decrypt connection.id connection.encryptedApiKey connection.apiKeyNonce with
    | .ok apiKey => .ok apiKey
    | .error code => .error (mapCredentialError code)
  else .error credentialMissing

def normalizeVerificationError (value : Option String) : Option String :=
  value.map fun value =>
    let value := Enrichment.trim value
    if value = "" ∨ 64 < value.utf8ByteSize ∨
        ¬ value.toList.all (fun c => ('a' ≤ c && c ≤ 'z') || ('0' ≤ c && c ≤ '9') || c = '_') then
      "verification_failed"
    else value

def boundedUniqueStrings (values : List String) (limit : ℕ) : List String :=
  ((values.filter fun value => value ≠ "" && value.utf8ByteSize ≤ 256).foldl
    (fun seen value => if value ∈ seen then seen else seen ++ [value]) []).take limit

end Providers

end MusicServer
