/-
# The gate of the model execution

`prepare_role_execution` lets a role run where its stored statuses and fingerprints say so.  In a
history of admitted writes these statuses are true: a role that passed was tested last, under its
fingerprint, after every change of what was tested.
-/
import MusicServer.SettingsKept

namespace MusicServer

namespace Providers

open ProviderStore

variable {env : ProviderEnvironment} {store : ProviderStore}

/-! ## The gate -/

structure ProviderExecutionTarget where
  adapterId : String
  baseUrl : String
  apiKey : String
  allowPrivateNetwork : Bool
  modelId : String
  timeoutSeconds : ℕ
  maxOutputTokens : ℕ
  thinkingMode : ThinkingMode
  deriving DecidableEq

structure ResolvedRoleExecution where
  connectionId : String
  roleId : String
  execution : ProviderExecutionTarget
  fingerprint : String
  roleConfigurationFingerprint : String
  connectionFingerprint : String
  connectionName : String
  deriving DecidableEq

/-- The checks on the connection that was read. -/
def checkExecution (env : ProviderEnvironment) (definition : ModelRoleDefinition)
    (role : ModelRoleRecord) (connection : ProviderConnectionRecord) :
    Except ProviderServiceError Unit := do
  refuseIf (ProviderVerificationStatus.parse connection.verificationStatus ≠ .verified)
    (connectionNotVerified "Verify this provider connection before using the role.")
  refuseIf (!capabilitiesSatisfy (declaredConnectionCapabilities connection)
    definition.requiredCapabilityIds) incompatibleConnection
  validateRoleModelSettings env connection role.modelId (.parse role.thinkingMode)
    role.maxOutputTokens
  refuseIf (currentConformanceStatus env role connection ≠ .passed)
    (modelNotTested "Test this model configuration before using the role.")

def resolvedRoleExecution (env : ProviderEnvironment) (role : ModelRoleRecord)
    (connection : ProviderConnectionRecord) (apiKey : String) : ResolvedRoleExecution where
  connectionId := role.connectionId
  roleId := role.roleId
  execution := {
    adapterId := connection.adapterId
    baseUrl := connection.baseUrl
    apiKey := apiKey
    allowPrivateNetwork := connection.allowPrivateNetwork
    modelId := role.modelId
    timeoutSeconds := role.timeoutSeconds
    maxOutputTokens := role.maxOutputTokens
    thinkingMode := .parse role.thinkingMode }
  fingerprint := roleRuntimeFingerprint env role connection
  roleConfigurationFingerprint := role.configurationFingerprint env
  connectionFingerprint := connection.fingerprint env
  connectionName := connection.name

/-- Where a `prepare_role_execution` stands: each of its awaits lets others write. -/
inductive RoleExecution where
  | requested (roleId : String)
  | sharing (definition : ModelRoleDefinition) (role : ModelRoleRecord)
  /-- The code drops the `music_tagger` row it compared with; `Careful` asks for it. -/
  | connecting (definition : ModelRoleDefinition) (role : ModelRoleRecord)
      (tagger : Option ModelRoleRecord)
  | decrypting (role : ModelRoleRecord) (connection : ProviderConnectionRecord)
      (tagger : Option ModelRoleRecord)
  | finished (result : Except ProviderServiceError ResolvedRoleExecution)

namespace RoleExecution

def proceed : Except ProviderServiceError RoleExecution → RoleExecution
  | .ok next => next
  | .error error => .finished (.error error)

/-- `prepare_role_execution`, from one of its reads to the next. -/
def step (env : ProviderEnvironment) (store : ProviderStore) :
    RoleExecution → Option RoleExecution
  | .requested roleId =>
    some (proceed do
      let definition ← configurableRole roleId
      match store.role roleId with
      | none => throw roleNotEnabled
      | some role => return .sharing definition role)
  | .sharing definition role =>
    some (proceed do
      ensureSharedMoodConfiguration store role
      refuseIf (!role.enabled) roleNotEnabled
      return .connecting definition role (store.role "music_tagger"))
  | .connecting definition role tagger =>
    some (proceed do
      match store.connection role.connectionId with
      | none => throw connectionNotFound
      | some connection =>
        checkExecution env definition role connection
        return .decrypting role connection tagger)
  | .decrypting role connection _ =>
    some (.finished ((decryptCredential env connection).map
      (resolvedRoleExecution env role connection)))
  | .finished _ => none

def target : RoleExecution → Option ResolvedRoleExecution
  | .finished result => result.toOption
  | _ => none

end RoleExecution

theorem not_of_refuseIf {condition : Bool} {error : ProviderServiceError} {result : Unit}
    (h : refuseIf condition error = .ok result) : condition = false := by
  unfold refuseIf at h
  split at h
  · cases h
  · rename_i hnot
    exact Bool.eq_false_iff.mpr hnot

/-- What a call that waits for its credential has found. -/
structure Resolves (env : ProviderEnvironment) (role : ModelRoleRecord)
    (connection : ProviderConnectionRecord) (tagger : Option ModelRoleRecord) : Prop where
  ofConnection : connection.id = role.connectionId
  verified : connection.verificationStatus = "verified"
  passed : role.conformanceStatus = "passed"
  tested : role.conformanceFingerprint = some (roleRuntimeFingerprint env role connection)
  shared : role.roleId = "tag_cleanup" → tagger.map (·.settings) = some role.settings

theorem parse_eq_verified {value : String}
    (h : ProviderVerificationStatus.parse value = .verified) : value = "verified" := by
  unfold ProviderVerificationStatus.parse at h
  split at h
  · rename_i hstatus
    exact hstatus
  · split at h
    · cases h
    · cases h

theorem parse_eq_passed {value : String} (h : ModelConformanceStatus.parse value = .passed) :
    value = "passed" := by
  unfold ModelConformanceStatus.parse at h
  split at h
  · rename_i hstatus
    exact hstatus
  · split at h
    · cases h
    · cases h

variable {role : ModelRoleRecord}

theorem passed_of_current {connection : ProviderConnectionRecord}
    (h : currentConformanceStatus env role connection = .passed) :
    role.conformanceFingerprint = some (roleRuntimeFingerprint env role connection) ∧
      role.conformanceStatus = "passed" := by
  unfold currentConformanceStatus at h
  split at h
  · cases h
  · rename_i hsame
    exact ⟨of_not_not hsame, parse_eq_passed h⟩

theorem shared_of_ensure {result : Unit} (h : ensureSharedMoodConfiguration store role = .ok result)
    (hcleanup : role.roleId = "tag_cleanup") :
    (store.role "music_tagger").map (·.settings) = some role.settings := by
  unfold ensureSharedMoodConfiguration at h
  rw [if_neg (not_not.mpr hcleanup)] at h
  split at h
  · rename_i hsettings
    exact hsettings
  · cases h

theorem resolves_of_check {definition : ModelRoleDefinition}
    {connection : ProviderConnectionRecord} {tagger : Option ModelRoleRecord} {result : Unit}
    (h : checkExecution env definition role connection = .ok result)
    (hconnection : store.connection role.connectionId = some connection)
    (hshared : role.roleId = "tag_cleanup" → tagger.map (·.settings) = some role.settings) :
    Resolves env role connection tagger := by
  unfold checkExecution at h
  obtain ⟨_, hverified, h⟩ := bind_eq_ok.mp h
  obtain ⟨_, _, h⟩ := bind_eq_ok.mp h
  obtain ⟨_, _, h⟩ := bind_eq_ok.mp h
  have hverified := of_not_not (of_decide_eq_false (not_of_refuseIf hverified))
  have hpassed := of_not_not (of_decide_eq_false (not_of_refuseIf h))
  obtain ⟨htested, hstatus⟩ := passed_of_current hpassed
  exact ⟨connection_id hconnection, parse_eq_verified hverified, hstatus, htested, hshared⟩

namespace RoleExecution

/-- What the checks a call has passed say of the rows it holds. -/
def Sound (env : ProviderEnvironment) : RoleExecution → Prop
  | .connecting _ role tagger =>
    role.roleId = "tag_cleanup" → tagger.map (·.settings) = some role.settings
  | .decrypting role connection tagger => Resolves env role connection tagger
  | _ => True

theorem ok_of_target {result : Except ProviderServiceError RoleExecution}
    {resolved : ResolvedRoleExecution} (h : (proceed result).target = some resolved) :
    result = .ok (.finished (.ok resolved)) := by
  cases result with
  | error error => cases h
  | ok next =>
    cases next with
    | finished result =>
      cases result with
      | error error => cases h
      | ok other => rw [Option.some.inj h]
    | _ => cases h

theorem sound_of_proceed {result : Except ProviderServiceError RoleExecution}
    (h : ∀ next, result = .ok next → next.Sound env) : (proceed result).Sound env := by
  cases result with
  | error error => trivial
  | ok next => exact h next rfl

theorem Sound.step {call next : RoleExecution} (h : call.Sound env)
    (hstep : call.step env store = some next) : next.Sound env := by
  cases call with
  | requested roleId =>
    cases hstep
    refine sound_of_proceed fun next hnext => ?_
    obtain ⟨definition, _, hnext⟩ := bind_eq_ok.mp hnext
    split at hnext
    · cases hnext
    · cases hnext
      trivial
  | sharing definition role =>
    cases hstep
    refine sound_of_proceed fun next hnext => ?_
    obtain ⟨_, hshared, hnext⟩ := bind_eq_ok.mp hnext
    obtain ⟨_, _, hnext⟩ := bind_eq_ok.mp hnext
    cases hnext
    exact shared_of_ensure hshared
  | connecting definition role tagger =>
    cases hstep
    refine sound_of_proceed fun next hnext => ?_
    split at hnext
    · cases hnext
    · rename_i connection hconnection
      obtain ⟨_, hcheck, hnext⟩ := bind_eq_ok.mp hnext
      cases hnext
      exact resolves_of_check hcheck hconnection h
  | decrypting role connection tagger =>
    cases hstep
    trivial
  | finished result => cases hstep

theorem decrypting_of_target {call next : RoleExecution} {resolved : ResolvedRoleExecution}
    (hstep : call.step env store = some next) (htarget : next.target = some resolved) :
    ∃ role connection tagger apiKey, call = .decrypting role connection tagger ∧
      decryptCredential env connection = .ok apiKey ∧
      resolved = resolvedRoleExecution env role connection apiKey := by
  cases call with
  | requested roleId =>
    cases hstep
    obtain ⟨definition, _, h⟩ := bind_eq_ok.mp (ok_of_target htarget)
    split at h <;> cases h
  | sharing definition role =>
    cases hstep
    obtain ⟨_, _, h⟩ := bind_eq_ok.mp (ok_of_target htarget)
    obtain ⟨_, _, h⟩ := bind_eq_ok.mp h
    cases h
  | connecting definition role tagger =>
    cases hstep
    have h := ok_of_target htarget
    split at h
    · cases h
    · obtain ⟨_, _, h⟩ := bind_eq_ok.mp h
      cases h
  | decrypting role connection tagger =>
    cases hstep
    cases hdecrypt : decryptCredential env connection with
    | error error =>
      rw [hdecrypt] at htarget
      cases htarget
    | ok apiKey =>
      rw [hdecrypt] at htarget
      exact ⟨role, connection, tagger, apiKey, rfl, hdecrypt, (Option.some.inj htarget).symm⟩
  | finished result => cases hstep

end RoleExecution

/-! ## What a history says -/

/-- The settings that a test of the model is about. -/
def ModelRoleRecord.testedSettings (role : ModelRoleRecord) :
    String × String × ℕ × ℕ × ThinkingMode :=
  (role.connectionId, role.modelId, role.timeoutSeconds, role.maxOutputTokens,
    .parse role.thinkingMode)

namespace AppliedWrite

/-- A conformance result of a role, under a runtime fingerprint. -/
def Tests (entry : AppliedWrite) (roleId fingerprint : String) : Prop :=
  ∃ write now, entry.write = .testRole write now ∧ write.roleId = roleId ∧
    write.runtimeFingerprint = fingerprint

def Passes (entry : AppliedWrite) (roleId fingerprint : String) : Prop :=
  ∃ write now, entry.write = .testRole write now ∧ write.roleId = roleId ∧
    write.runtimeFingerprint = fingerprint ∧ write.passed = true

def Verifies (entry : AppliedWrite) (id : String) : Prop :=
  ∃ write now, entry.write = .verifyConnection write now ∧ write.connectionId = id

def Succeeds (entry : AppliedWrite) (id : String) : Prop :=
  ∃ write now, entry.write = .verifyConnection write now ∧ write.connectionId = id ∧
    write.verified = true

def ChangesRole (entry : AppliedWrite) (roleId : String) : Prop :=
  (entry.before.role roleId).map (·.testedSettings) ≠
    (entry.after.role roleId).map (·.testedSettings)

def ChangesConnection (entry : AppliedWrite) (id : String) : Prop :=
  (entry.before.connection id).map (·.settings) ≠ (entry.after.connection id).map (·.settings)

end AppliedWrite

/-- The latest result of a role under a fingerprint is a pass, and nothing it is about has changed
since. -/
def LatestTestPassed (applied : List AppliedWrite) (roleId connectionId fingerprint : String) :
    Prop :=
  ∃ before entry after, applied = before ++ entry :: after ∧ entry.Passes roleId fingerprint ∧
    ∀ later ∈ after, ¬ later.Tests roleId fingerprint ∧ ¬ later.ChangesRole roleId ∧
      ¬ later.ChangesConnection connectionId

def LatestVerificationSucceeded (applied : List AppliedWrite) (id : String) : Prop :=
  ∃ before entry after, applied = before ++ entry :: after ∧ entry.Succeeds id ∧
    ∀ later ∈ after, ¬ later.Verifies id

variable {applied : List AppliedWrite}

theorem LatestTestPassed.append {roleId connectionId fingerprint : String}
    (h : LatestTestPassed applied roleId connectionId fingerprint) {last : AppliedWrite}
    (htests : ¬ last.Tests roleId fingerprint) (hrole : ¬ last.ChangesRole roleId)
    (hconnection : ¬ last.ChangesConnection connectionId) :
    LatestTestPassed (applied ++ [last]) roleId connectionId fingerprint := by
  obtain ⟨before, entry, after, happlied, hpasses, hafter⟩ := h
  refine ⟨before, entry, after ++ [last], ?_, hpasses, fun later hlater => ?_⟩
  · rw [happlied, List.append_assoc, List.cons_append]
  · rcases List.mem_append.mp hlater with hold | hnew
    · exact hafter later hold
    · rw [List.mem_singleton.mp hnew]
      exact ⟨htests, hrole, hconnection⟩

variable {id : String}

theorem LatestVerificationSucceeded.append (h : LatestVerificationSucceeded applied id)
    {last : AppliedWrite} (hverifies : ¬ last.Verifies id) :
    LatestVerificationSucceeded (applied ++ [last]) id := by
  obtain ⟨before, entry, after, happlied, hsucceeds, hafter⟩ := h
  refine ⟨before, entry, after ++ [last], ?_, hsucceeds, fun later hlater => ?_⟩
  · rw [happlied, List.append_assoc, List.cons_append]
  · rcases List.mem_append.mp hlater with hold | hnew
    · exact hafter later hold
    · rw [List.mem_singleton.mp hnew]
      exact hverifies

/-! ## The statuses are true -/

/-- The roles of a store have their connections. -/
def Referenced (store : ProviderStore) : Prop :=
  ∀ roleId role, store.role roleId = some role →
    ∃ connection, store.connection role.connectionId = some connection

/-- Each role has its connection, and the statuses say what the history says. -/
structure Truthful (applied : List AppliedWrite) (store : ProviderStore) : Prop where
  referenced : Referenced store
  tested : ∀ roleId role fingerprint, store.role roleId = some role →
    role.conformanceStatus = "passed" → role.conformanceFingerprint = some fingerprint →
      LatestTestPassed applied roleId role.connectionId fingerprint
  verified : ∀ id connection, store.connection id = some connection →
    connection.verificationStatus = "verified" → LatestVerificationSucceeded applied id

theorem not_passed_of_reset (role : ModelRoleRecord) :
    role.resetConformance.conformanceStatus ≠ "passed" := by
  show "never" ≠ "passed"
  decide

theorem not_verified_of_reset (connection : ProviderConnectionRecord) :
    connection.resetVerification.verificationStatus ≠ "verified" := by
  show "never" ≠ "verified"
  decide

variable {before after : ProviderStore}

theorem ProviderStore.RolesReset.passed {id roleId : String} (h : RolesReset id before after)
    (hrole : after.role roleId = some role) (hpassed : role.conformanceStatus = "passed") :
    before.role roleId = some role ∧ role.connectionId ≠ id := by
  rw [h roleId] at hrole
  obtain ⟨old, hold, hsame⟩ := Option.map_eq_some_iff.mp hrole
  split at hsame
  · rw [← hsame] at hpassed
    exact absurd hpassed (not_passed_of_reset old)
  · rename_i hother
    rw [← hsame]
    exact ⟨hold, hother⟩

theorem ProviderStore.RolesReset.connectionId {id roleId : String} (h : RolesReset id before after)
    (hrole : after.role roleId = some role) :
    ∃ old, before.role roleId = some old ∧ old.connectionId = role.connectionId := by
  rw [h roleId] at hrole
  obtain ⟨old, hold, hsame⟩ := Option.map_eq_some_iff.mp hrole
  refine ⟨old, hold, ?_⟩
  rw [← hsame]
  split <;> rfl

/-- A passed role that a write leaves: its status, its settings and those of its connection. -/
structure RoleStays (before after : ProviderStore) (roleId : String) (role : ModelRoleRecord) :
    Prop where
  had : ∃ old, before.role roleId = some old ∧ old.conformanceStatus = "passed" ∧
    old.conformanceFingerprint = role.conformanceFingerprint ∧
    old.testedSettings = role.testedSettings
  unchanged : (before.connection role.connectionId).map (·.settings) =
    (after.connection role.connectionId).map (·.settings)

theorem RoleStays.of_same (hrole : before.role roleId = some role)
    (hpassed : role.conformanceStatus = "passed")
    (hconnection : after.connection role.connectionId = before.connection role.connectionId) :
    RoleStays before after roleId role :=
  ⟨⟨role, hrole, hpassed, rfl, rfl⟩, by rw [hconnection]⟩

variable {request : ModelRoleUpdate}

theorem testedSettings_of_runtimeChanged (h : request.runtimeChanged (some role) = false)
    (roleId : String) :
    role.testedSettings = (request.record roleId (some role)).testedSettings := by
  simp only [ModelRoleUpdate.runtimeChanged, Bool.or_eq_false_iff, decide_eq_false_iff_not,
    not_not] at h
  obtain ⟨⟨⟨⟨hconnection, hmodel⟩, htimeout⟩, htokens⟩, hthinking⟩ := h
  simp only [ModelRoleRecord.testedSettings, ModelRoleUpdate.record, hconnection, hmodel, htimeout,
    htokens, hthinking, ThinkingMode.parse_asStr]

theorem roleStays_saveRole {other : String}
    (hrole : (ProviderWrite.apply env store (.saveRole roleId request)).role other = some role)
    (hpassed : role.conformanceStatus = "passed") :
    RoleStays store (ProviderWrite.apply env store (.saveRole roleId request)) other role := by
  obtain ⟨written, hself, hkeeps, hconnections, hothers, hsibling, _⟩ :=
    @keeps_saveRole env store roleId request
  by_cases hsaved : other = roleId
  · subst hsaved
    rw [hself] at hrole
    cases hrole
    refine ⟨?_, by rw [hconnections]⟩
    cases hchanged : request.runtimeChanged (store.role other) with
    | true =>
      rw [← hkeeps.reset hchanged] at hpassed
      exact absurd hpassed (not_passed_of_reset role)
    | false =>
      cases hfound : store.role other with
      | none =>
        rw [hfound] at hchanged
        cases hchanged
      | some found =>
        obtain ⟨hstatus, _, hfingerprint, _⟩ := hkeeps.conformance found hfound hchanged
        refine ⟨found, rfl, hstatus.symm.trans hpassed, hfingerprint.symm, ?_⟩
        rw [hfound] at hchanged
        have hsettings := testedSettings_of_runtimeChanged hchanged other
        have hwritten := hkeeps.settings
        simp only [ModelRoleRecord.settings, Prod.mk.injEq] at hwritten
        obtain ⟨hconnection, hmodel, htimeout, htokens, hthinking⟩ := hwritten
        rw [hsettings]
        simp only [ModelRoleRecord.testedSettings, ModelRoleUpdate.record, hconnection, hmodel,
          htimeout, htokens, hthinking]
  · by_cases hlinked : siblingRole roleId = some other
    · have hafter := hsibling other hlinked
      rw [hrole] at hafter
      split at hafter
      · exact .of_same hafter.symm hpassed (hconnections _)
      · cases hafter
        exact absurd hpassed (not_passed_of_reset written)
    · rw [hothers other hsaved hlinked] at hrole
      exact .of_same hrole hpassed (hconnections _)

/-- What one write does to the roles and the connections that a gate lets through. -/
structure AppliedWrite.Truthful (entry : AppliedWrite) : Prop where
  referenced : Referenced entry.after
  tested : ∀ roleId role fingerprint, entry.after.role roleId = some role →
    role.conformanceStatus = "passed" → role.conformanceFingerprint = some fingerprint →
      entry.Passes roleId fingerprint ∨
        RoleStays entry.before entry.after roleId role ∧ ¬ entry.Tests roleId fingerprint
  verified : ∀ id connection, entry.after.connection id = some connection →
    connection.verificationStatus = "verified" →
      entry.Succeeds id ∨ (∃ old, entry.before.connection id = some old ∧
        old.verificationStatus = "verified") ∧ ¬ entry.Verifies id

theorem Truthful.snoc {entry : AppliedWrite} (h : Truthful applied entry.before)
    (hentry : entry.Truthful) :
    Truthful (applied ++ [entry]) entry.after where
  referenced := hentry.referenced
  tested := by
    intro roleId role fingerprint hrole hpassed hfingerprint
    rcases hentry.tested roleId role fingerprint hrole hpassed hfingerprint with
      hpasses | ⟨hstays, htests⟩
    · exact ⟨applied, entry, [], rfl, hpasses, fun later hlater => by cases hlater⟩
    · obtain ⟨old, hold, holdPassed, hsame, hsettings⟩ := hstays.had
      have hconnection : old.connectionId = role.connectionId := congrArg Prod.fst hsettings
      have hlatest := h.tested roleId old fingerprint hold holdPassed (hsame.trans hfingerprint)
      rw [hconnection] at hlatest
      refine hlatest.append htests (fun hchanges => hchanges ?_) fun hchanges => ?_
      · rw [hold, hrole, Option.map_some, Option.map_some, hsettings]
      · exact hchanges hstays.unchanged
  verified := by
    intro id connection hconnection hverified
    rcases hentry.verified id connection hconnection hverified with
      hsucceeds | ⟨⟨old, hold, holdVerified⟩, hverifies⟩
    · exact ⟨applied, entry, [], rfl, hsucceeds, fun later hlater => by cases hlater⟩
    · exact (h.verified id old hold holdVerified).append hverifies

theorem tested_of_stays {entry : AppliedWrite}
    (hother : ∀ write now, entry.write ≠ .testRole write now)
    (hstays : ∀ roleId role, entry.after.role roleId = some role →
      role.conformanceStatus = "passed" → RoleStays entry.before entry.after roleId role)
    (roleId : String) (role : ModelRoleRecord) (fingerprint : String)
    (hrole : entry.after.role roleId = some role) (hpassed : role.conformanceStatus = "passed") :
    entry.Passes roleId fingerprint ∨
      RoleStays entry.before entry.after roleId role ∧ ¬ entry.Tests roleId fingerprint := by
  refine Or.inr ⟨hstays roleId role hrole hpassed, ?_⟩
  rintro ⟨write, now, hwrite, _⟩
  exact hother write now hwrite

theorem verified_of_stays {entry : AppliedWrite}
    (hother : ∀ write now, entry.write ≠ .verifyConnection write now)
    (hstays : ∀ id connection, entry.after.connection id = some connection →
      connection.verificationStatus = "verified" → ∃ old, entry.before.connection id = some old ∧
        old.verificationStatus = "verified")
    (id : String) (connection : ProviderConnectionRecord)
    (hconnection : entry.after.connection id = some connection)
    (hverified : connection.verificationStatus = "verified") :
    entry.Succeeds id ∨ (∃ old, entry.before.connection id = some old ∧
      old.verificationStatus = "verified") ∧ ¬ entry.Verifies id := by
  refine Or.inr ⟨hstays id connection hconnection hverified, ?_⟩
  rintro ⟨write, now, hwrite, _⟩
  exact hother write now hwrite

theorem reset_truthful (href : Referenced before) (hroles : RolesReset id before after)
    (hbut : ConnectionsBut id before after) {written : ProviderConnectionRecord}
    (hwritten : after.connection id = some written) :
    Referenced after ∧ ∀ roleId role, after.role roleId = some role →
      role.conformanceStatus = "passed" → RoleStays before after roleId role := by
  refine ⟨fun roleId role hrole => ?_, fun roleId role hrole hpassed => ?_⟩
  · obtain ⟨old, hold, hsame⟩ := hroles.connectionId hrole
    by_cases hid : role.connectionId = id
    · exact ⟨written, hid ▸ hwritten⟩
    · rw [hbut _ hid, ← hsame]
      exact href roleId old hold
  · obtain ⟨hold, hid⟩ := hroles.passed hrole hpassed
    exact .of_same hold hpassed (hbut _ hid)

theorem same_truthful (href : Referenced before) (hroles : SameRoles before after)
    (hconnections : ∀ roleId role, before.role roleId = some role →
      (after.connection role.connectionId).map (·.settings) =
        (before.connection role.connectionId).map (·.settings)) :
    Referenced after ∧ ∀ roleId role, after.role roleId = some role →
      role.conformanceStatus = "passed" → RoleStays before after roleId role := by
  refine ⟨fun roleId role hrole => ?_, fun roleId role hrole hpassed => ?_⟩
  · rw [hroles] at hrole
    obtain ⟨connection, hconnection⟩ := href roleId role hrole
    have hsettings := hconnections roleId role hrole
    rw [hconnection, Option.map_some] at hsettings
    obtain ⟨written, hwritten, _⟩ := Option.map_eq_some_iff.mp hsettings
    exact ⟨written, hwritten⟩
  · rw [hroles] at hrole
    exact ⟨⟨role, hrole, hpassed, rfl, rfl⟩, (hconnections roleId role hrole).symm⟩

variable (href : Referenced store)

include href

theorem truthful_createConnection {record : ProviderConnectionRecord}
    (hadmitted : (ProviderWrite.createConnection record).Admitted env store) :
    AppliedWrite.Truthful ⟨.createConnection record, store,
      (ProviderWrite.createConnection record).apply env store⟩ := by
  obtain ⟨hnew, hnever, _⟩ := hadmitted
  have hother : ∀ roleId role, store.role roleId = some role → role.connectionId ≠ record.id := by
    intro roleId role hrole hid
    obtain ⟨connection, hconnection⟩ := href roleId role hrole
    rw [hid, hnew] at hconnection
    cases hconnection
  have hroles : SameRoles store (store.createConnection record) := fun _ => rfl
  obtain ⟨hafter, hstays⟩ := same_truthful href hroles fun roleId role hrole => by
    rw [connection_createConnection_of_ne (hother roleId role hrole)]
  refine ⟨hafter, fun roleId role fingerprint hrole hpassed _ => ?_,
    verified_of_stays (by simp) fun id connection hconnection hverified => ?_⟩
  · exact tested_of_stays (by simp) hstays roleId role fingerprint hrole hpassed
  · change (store.createConnection record).connection id = some connection at hconnection
    by_cases hid : id = record.id
    · rw [hid, connection_createConnection_self hnew] at hconnection
      cases hconnection
      rw [hnever] at hverified
      exact absurd hverified (by decide)
    · rw [connection_createConnection_of_ne hid] at hconnection
      exact ⟨connection, hconnection, hverified⟩

theorem truthful_replaceConnection {patch : ProviderConnectionPatch}
    {encrypted : Except String EncryptedProviderCredential}
    (hadmitted : (ProviderWrite.replaceConnection id patch encrypted).Admitted env store) :
    AppliedWrite.Truthful ⟨.replaceConnection id patch encrypted, store,
      (ProviderWrite.replaceConnection id patch encrypted).apply env store⟩ := by
  obtain ⟨found, next, reset, hfound, hnext⟩ := hadmitted
  have happly : ProviderWrite.apply env store (.replaceConnection id patch encrypted) =
      store.replaceConnection next reset := by
    simp only [ProviderWrite.apply, hfound, hnext]
  rw [happly]
  obtain ⟨hself, hothers, hsame, hchanged⟩ := replaceConnection_spec hfound hnext
  obtain ⟨_, _, hkept, hcleared⟩ := ProviderConnectionPatch.verification_of_replacement hnext
  have hroles : Referenced (store.replaceConnection next reset) ∧
      ∀ roleId role, (store.replaceConnection next reset).role roleId = some role →
        role.conformanceStatus = "passed" →
          RoleStays store (store.replaceConnection next reset) roleId role := by
    by_cases hsettings : next.settings = found.settings
    · refine same_truthful href (hsame hsettings).1 fun roleId role _ => ?_
      by_cases hid : role.connectionId = id
      · rw [hid, hself, hfound, Option.map_some, Option.map_some, hsettings]
      · rw [hothers _ hid]
    · exact reset_truthful href (hchanged hsettings).1 hothers hself
  refine ⟨hroles.1, fun roleId role fingerprint hrole hpassed _ => ?_,
    verified_of_stays (by simp) fun other connection hconnection hverified => ?_⟩
  · exact tested_of_stays (by simp) hroles.2 roleId role fingerprint hrole hpassed
  · by_cases hid : other = id
    · subst hid
      rw [hself] at hconnection
      cases hconnection
      by_cases hsettings : next.settings = found.settings
      · exact ⟨found, hfound, (hkept hsettings).1.symm.trans hverified⟩
      · rw [← hcleared hsettings] at hverified
        exact absurd hverified (not_verified_of_reset next)
    · exact ⟨connection, (hothers other hid).symm.trans hconnection, hverified⟩

theorem truthful_deleteConnection
    (hadmitted : (ProviderWrite.deleteConnection id).Admitted env store) :
    AppliedWrite.Truthful ⟨.deleteConnection id, store,
      (ProviderWrite.deleteConnection id).apply env store⟩ := by
  have hothers : ∀ other, other ≠ id →
      (store.deleteConnection id).connection other = store.connection other :=
    fun other hother => KeyedRows.find_delete_of_ne hother store.connections
  have hroles : SameRoles store (store.deleteConnection id) := fun _ => rfl
  obtain ⟨hafter, hstays⟩ := same_truthful href hroles fun roleId role hrole => by
    rw [hothers _ (hadmitted role (KeyedRows.mem_of_find hrole))]
  refine ⟨hafter, fun roleId role fingerprint hrole hpassed _ => ?_,
    verified_of_stays (by simp) fun other connection hconnection hverified => ?_⟩
  · exact tested_of_stays (by simp) hstays roleId role fingerprint hrole hpassed
  · change (store.deleteConnection id).connection other = some connection at hconnection
    by_cases hid : other = id
    · have hgone : (store.deleteConnection id).connection id = none :=
        KeyedRows.find_delete_self store.connections
      rw [hid, hgone] at hconnection
      cases hconnection
    · exact ⟨connection, (hothers other hid).symm.trans hconnection, hverified⟩

theorem truthful_clearCredential (hadmitted : (ProviderWrite.clearCredential id).Admitted env store) :
    AppliedWrite.Truthful ⟨.clearCredential id, store,
      (ProviderWrite.clearCredential id).apply env store⟩ := by
  obtain ⟨found, hfound⟩ := hadmitted
  have hself : (store.clearCredential id).connection id = some found.clearCredential := by
    refine (connection_updateConnection_self (·.clearCredential) fun _ hsame => hsame).trans ?_
    rw [hfound, Option.map_some]
  have hothers : ConnectionsBut id store (store.clearCredential id) := fun other hother =>
    connection_updateConnection_of_ne (·.clearCredential) (fun _ hsame => hsame) hother
  have hroles : RolesReset id store (store.clearCredential id) :=
    rolesReset_resetRolesForConnection id rfl
  obtain ⟨hafter, hstays⟩ := reset_truthful href hroles hothers hself
  refine ⟨hafter, fun roleId role fingerprint hrole hpassed _ => ?_,
    verified_of_stays (by simp) fun other connection hconnection hverified => ?_⟩
  · exact tested_of_stays (by simp) hstays roleId role fingerprint hrole hpassed
  · change (store.clearCredential id).connection other = some connection at hconnection
    by_cases hid : other = id
    · rw [hid, hself] at hconnection
      cases hconnection
      exact absurd hverified (not_verified_of_reset found)
    · exact ⟨connection, (hothers other hid).symm.trans hconnection, hverified⟩

theorem truthful_verifyConnection {write : ProviderVerificationWrite} {now : ℤ}
    (hadmitted : (ProviderWrite.verifyConnection write now).Admitted env store) :
    AppliedWrite.Truthful ⟨.verifyConnection write now, store,
      (ProviderWrite.verifyConnection write now).apply env store⟩ := by
  obtain ⟨found, hfound⟩ := hadmitted
  have hself : (store.verifyConnection write now).connection write.connectionId =
      some (write.onto now found) := by
    refine (connection_updateConnection_self (write.onto now) fun _ hsame => hsame).trans ?_
    rw [hfound, Option.map_some]
  have hothers : ConnectionsBut write.connectionId store (store.verifyConnection write now) :=
    fun other hother =>
      connection_updateConnection_of_ne (write.onto now) (fun _ hsame => hsame) hother
  have hroles : RolesReset write.connectionId store (store.verifyConnection write now) :=
    rolesReset_resetRolesForConnection write.connectionId rfl
  obtain ⟨hafter, hstays⟩ := reset_truthful href hroles hothers hself
  refine ⟨hafter, fun roleId role fingerprint hrole hpassed _ => ?_,
    fun other connection hconnection hverified => ?_⟩
  · exact tested_of_stays (by simp) hstays roleId role fingerprint hrole hpassed
  · change (store.verifyConnection write now).connection other = some connection at hconnection
    by_cases hid : other = write.connectionId
    · subst hid
      rw [hself] at hconnection
      cases hconnection
      cases hresult : write.verified with
      | true => exact Or.inl ⟨write, now, rfl, rfl, hresult⟩
      | false =>
        simp only [ProviderVerificationWrite.onto, hresult, Bool.false_eq_true, if_false]
          at hverified
        exact absurd hverified (by decide)
    · refine Or.inr ⟨⟨connection, (hothers other hid).symm.trans hconnection, hverified⟩, ?_⟩
      rintro ⟨other', now', hwrite, hsame⟩
      cases hwrite
      exact hid hsame.symm

theorem truthful_testRole {write : ProviderConformanceWrite} {now : ℤ}
    (hadmitted : (ProviderWrite.testRole write now).Admitted env store) :
    AppliedWrite.Truthful ⟨.testRole write now, store,
      (ProviderWrite.testRole write now).apply env store⟩ := by
  obtain ⟨found, hfound⟩ := hadmitted
  have hself : (store.testRole write now).role write.roleId = some (write.onto now found) :=
    (role_testRole_self write now).trans (by rw [hfound, Option.map_some])
  refine ⟨fun roleId role hrole => ?_, fun roleId role fingerprint hrole hpassed htested => ?_,
    verified_of_stays (by simp) fun id connection hconnection hverified =>
      ⟨connection, hconnection, hverified⟩⟩
  · change (store.testRole write now).role roleId = some role at hrole
    by_cases hid : roleId = write.roleId
    · rw [hid, hself] at hrole
      cases hrole
      exact href write.roleId found hfound
    · rw [role_testRole_of_ne now hid] at hrole
      exact href roleId role hrole
  · change (store.testRole write now).role roleId = some role at hrole
    by_cases hid : roleId = write.roleId
    · subst hid
      rw [hself] at hrole
      cases hrole
      refine Or.inl ⟨write, now, rfl, rfl, Option.some.inj htested, ?_⟩
      cases hresult : write.passed with
      | true => rfl
      | false =>
        simp only [ProviderConformanceWrite.onto, hresult, Bool.false_eq_true, if_false]
          at hpassed
        exact absurd hpassed (by decide)
    · rw [role_testRole_of_ne now hid] at hrole
      refine Or.inr ⟨.of_same hrole hpassed rfl, ?_⟩
      rintro ⟨other, now', hwrite, hsame, _⟩
      cases hwrite
      exact hid hsame.symm

theorem truthful_saveRole (hadmitted : (ProviderWrite.saveRole roleId request).Admitted env store) :
    AppliedWrite.Truthful ⟨.saveRole roleId request, store,
      (ProviderWrite.saveRole roleId request).apply env store⟩ := by
  obtain ⟨written, hself, hkeeps, hconnections, hothers, hsibling, _⟩ :=
    @keeps_saveRole env store roleId request
  have hconnection : written.connectionId = request.connectionId :=
    congrArg Prod.fst hkeeps.settings
  have hwritten : ∃ connection, store.connection written.connectionId = some connection :=
    hconnection ▸ hadmitted
  refine ⟨fun other role hrole => ?_, fun other role fingerprint hrole hpassed _ => ?_,
    verified_of_stays (by simp) fun id connection hconnection hverified =>
      ⟨connection, (hconnections id).symm.trans hconnection, hverified⟩⟩
  · change (ProviderWrite.apply env store (.saveRole roleId request)).role other = some role
      at hrole
    show ∃ connection, (ProviderWrite.apply env store (.saveRole roleId request)).connection
      role.connectionId = some connection
    rw [hconnections]
    by_cases hsaved : other = roleId
    · rw [hsaved, hself] at hrole
      cases hrole
      exact hwritten
    · by_cases hlinked : siblingRole roleId = some other
      · rw [hsibling other hlinked] at hrole
        split at hrole
        · exact href other role hrole
        · cases hrole
          exact hwritten
      · rw [hothers other hsaved hlinked] at hrole
        exact href other role hrole
  · have hstays : ∀ other role,
        (ProviderWrite.apply env store (.saveRole roleId request)).role other = some role →
          role.conformanceStatus = "passed" → RoleStays store
            (ProviderWrite.apply env store (.saveRole roleId request)) other role :=
      fun _ _ => roleStays_saveRole
    exact tested_of_stays (by simp) hstays other role fingerprint hrole hpassed

theorem truthful_deleteRole :
    AppliedWrite.Truthful ⟨.deleteRole roleId, store,
      (ProviderWrite.deleteRole roleId).apply env store⟩ := by
  have hold : ∀ other role, (store.deleteRole roleId).role other = some role →
      store.role other = some role := by
    intro other role hrole
    by_cases hid : other = roleId
    · have hgone : (store.deleteRole roleId).role roleId = none :=
        KeyedRows.find_delete_self store.roles
      rw [hid, hgone] at hrole
      cases hrole
    · have hkept : (store.deleteRole roleId).role other = store.role other :=
        KeyedRows.find_delete_of_ne hid store.roles
      exact hkept.symm.trans hrole
  refine ⟨fun other role hrole => href other role (hold other role hrole),
    fun other role fingerprint hrole hpassed _ => ?_,
    verified_of_stays (by simp) fun id connection hconnection hverified =>
      ⟨connection, hconnection, hverified⟩⟩
  exact tested_of_stays (by simp)
    (fun other role hrole hpassed => .of_same (hold other role hrole) hpassed rfl) other role
    fingerprint hrole hpassed

theorem truthful_resetCredentials :
    AppliedWrite.Truthful ⟨.resetCredentials, store,
      ProviderWrite.resetCredentials.apply env store⟩ := by
  refine ⟨fun roleId role hrole => ?_, fun roleId role fingerprint hrole hpassed _ => ?_,
    verified_of_stays (by simp) fun id connection hconnection hverified => ?_⟩
  · change store.resetCredentials.role roleId = some role at hrole
    rw [role_resetCredentials] at hrole
    obtain ⟨old, hold, hsame⟩ := Option.map_eq_some_iff.mp hrole
    obtain ⟨connection, hconnection⟩ := href roleId old hold
    refine ⟨connection.clearCredential, ?_⟩
    show store.resetCredentials.connection role.connectionId = some connection.clearCredential
    rw [connection_resetCredentials, ← hsame]
    exact congrArg (Option.map (·.clearCredential)) hconnection
  · change store.resetCredentials.role roleId = some role at hrole
    rw [role_resetCredentials] at hrole
    obtain ⟨old, _, hsame⟩ := Option.map_eq_some_iff.mp hrole
    rw [← hsame] at hpassed
    exact absurd hpassed (not_passed_of_reset old)
  · change store.resetCredentials.connection id = some connection at hconnection
    rw [connection_resetCredentials] at hconnection
    obtain ⟨old, _, hsame⟩ := Option.map_eq_some_iff.mp hconnection
    rw [← hsame] at hverified
    exact absurd hverified (not_verified_of_reset old)

theorem truthful_of_admitted {write : ProviderWrite} (hadmitted : write.Admitted env store) :
    AppliedWrite.Truthful ⟨write, store, write.apply env store⟩ := by
  cases write with
  | createConnection record => exact truthful_createConnection href hadmitted
  | replaceConnection id patch encrypted => exact truthful_replaceConnection href hadmitted
  | deleteConnection id => exact truthful_deleteConnection href hadmitted
  | clearCredential id => exact truthful_clearCredential href hadmitted
  | verifyConnection write now => exact truthful_verifyConnection href hadmitted
  | testRole write now => exact truthful_testRole href hadmitted
  | saveRole roleId request => exact truthful_saveRole href hadmitted
  | deleteRole roleId => exact truthful_deleteRole href
  | resetCredentials => exact truthful_resetCredentials href

omit href

/-! ## Runs -/

theorem ProviderHistory.truthful (h : ProviderHistory env applied store) :
    Truthful applied store := by
  induction h with
  | nil =>
    refine ⟨fun roleId role hrole => ?_, fun roleId role _ hrole => ?_,
      fun id connection hconnection => ?_⟩
    · cases hrole
    · cases hrole
    · cases hconnection
  | snoc _ hadmitted ih => exact ih.snoc (truthful_of_admitted ih.referenced hadmitted)

/-- The settings with their calls, and the executions that are prepared beside them. -/
structure ExecutionWorld where
  settings : ProviderWorld
  executions : List RoleExecution

inductive ExecutionEvent where
  | settings (event : ProviderEvent)
  | prepare (roleId : String)
  | read (index : ℕ)

/-- What the gate rests on in the row of a role. -/
structure GatedRole where
  settings : String × String × ℕ × ℕ × String
  conformanceStatus : String
  conformanceFingerprint : Option String
  deriving DecidableEq

structure GatedConnection where
  settings : String × String × String × String × Bool
  verificationStatus : String
  verifiedCapabilityIds : List String
  deriving DecidableEq

def ModelRoleRecord.gated (role : ModelRoleRecord) : GatedRole :=
  ⟨role.settings, role.conformanceStatus, role.conformanceFingerprint⟩

def ProviderConnectionRecord.gated (connection : ProviderConnectionRecord) : GatedConnection :=
  ⟨connection.settings, connection.verificationStatus, connection.verifiedCapabilityIds⟩

/-- A target is returned while what was read for it is still stored. -/
def RoleExecution.Careful (env : ProviderEnvironment) (store : ProviderStore) :
    RoleExecution → Prop
  | .decrypting role connection tagger =>
    (decryptCredential env connection).isOk = true →
      (store.role role.roleId).map (·.gated) = some role.gated ∧
        (store.connection role.connectionId).map (·.gated) = some connection.gated ∧
        (role.roleId = "tag_cleanup" →
          (store.role "music_tagger").map (·.settings) = tagger.map (·.settings))
  | _ => True

instance decidableExecutionCareful (env : ProviderEnvironment) (store : ProviderStore) :
    ∀ call : RoleExecution, Decidable (call.Careful env store)
  | .decrypting role connection tagger => inferInstanceAs (Decidable
      ((decryptCredential env connection).isOk = true →
        (store.role role.roleId).map (·.gated) = some role.gated ∧
          (store.connection role.connectionId).map (·.gated) = some connection.gated ∧
          (role.roleId = "tag_cleanup" →
            (store.role "music_tagger").map (·.settings) = tagger.map (·.settings))))
  | .requested _ => isTrue trivial
  | .sharing _ _ => isTrue trivial
  | .connecting _ _ _ => isTrue trivial
  | .finished _ => isTrue trivial

namespace ExecutionWorld

def initial : ExecutionWorld := ⟨.initial, []⟩

def step (env : ProviderEnvironment) (world : ExecutionWorld) :
    ExecutionEvent → Option ExecutionWorld
  | .settings event =>
    (world.settings.step env event).map fun settings => { world with settings := settings }
  | .prepare roleId =>
    some { world with executions := world.executions ++ [.requested roleId] }
  | .read index =>
    world.executions[index]?.bind fun call =>
      (call.step env world.settings.store).map fun next =>
        { world with executions := world.executions.set index next }

def run (env : ProviderEnvironment) : ExecutionWorld → List ExecutionEvent → Option ExecutionWorld
  | world, [] => some world
  | world, event :: rest => (world.step env event).bind fun next => next.run env rest

/-- No write goes over one it has not seen, and no target rests on rows that have changed. -/
def Careful (env : ProviderEnvironment) (world : ExecutionWorld) : ExecutionEvent → Prop
  | .settings event => world.settings.Careful env event
  | .prepare _ => True
  | .read index => ∀ call ∈ world.executions[index]?, call.Careful env world.settings.store

instance decidableCareful (env : ProviderEnvironment) (world : ExecutionWorld) :
    ∀ event, Decidable (world.Careful env event)
  | .settings event => inferInstanceAs (Decidable (world.settings.Careful env event))
  | .prepare _ => isTrue trivial
  | .read index => inferInstanceAs
    (Decidable (∀ call ∈ world.executions[index]?, call.Careful env world.settings.store))

def CarefulRun (env : ProviderEnvironment) : ExecutionWorld → List ExecutionEvent → Prop
  | _, [] => True
  | world, event :: rest =>
    world.Careful env event ∧ ∀ next ∈ world.step env event, next.CarefulRun env rest

instance decidableGateCarefulRun (env : ProviderEnvironment) :
    ∀ (world : ExecutionWorld) (events : List ExecutionEvent),
      Decidable (world.CarefulRun env events)
  | _, [] => isTrue trivial
  | world, event :: rest =>
    have (next : ExecutionWorld) := decidableGateCarefulRun env next rest
    inferInstanceAs (Decidable (world.Careful env event ∧
      ∀ next ∈ world.step env event, next.CarefulRun env rest))

/-- What a call returns at its next read, if this is its last. -/
def returned (env : ProviderEnvironment) (world : ExecutionWorld) (index : ℕ) :
    Option ResolvedRoleExecution :=
  (world.executions[index]?.bind (·.step env world.settings.store)).bind (·.target)

structure Lawful (env : ProviderEnvironment) (world : ExecutionWorld) : Prop where
  settings : world.settings.Lawful env
  executions : ∀ call ∈ world.executions, call.Sound env

theorem initial_lawful : ExecutionWorld.initial.Lawful env where
  settings := ProviderWorld.initial_lawful
  executions := by simp [ExecutionWorld.initial]

theorem Lawful.step {world next : ExecutionWorld} {event : ExecutionEvent}
    (h : world.Lawful env) (hcareful : world.Careful env event)
    (hstep : world.step env event = some next) : next.Lawful env := by
  cases event with
  | settings event =>
    obtain ⟨settings, hsettings, hnext⟩ := Option.map_eq_some_iff.mp hstep
    rw [← hnext]
    exact ⟨h.settings.step hcareful hsettings, h.executions⟩
  | prepare roleId =>
    cases hstep
    refine ⟨h.settings, fun call hcall => ?_⟩
    rcases List.mem_append.mp hcall with hcall | hcall
    · exact h.executions call hcall
    · rw [List.mem_singleton.mp hcall]
      trivial
  | read index =>
    obtain ⟨call, hcall, hstep⟩ := Option.bind_eq_some_iff.mp hstep
    obtain ⟨later, hlater, hnext⟩ := Option.map_eq_some_iff.mp hstep
    rw [← hnext]
    refine ⟨h.settings, fun other hother => ?_⟩
    rcases List.mem_or_eq_of_mem_set hother with hold | hnew
    · exact h.executions other hold
    · rw [hnew]
      exact (h.executions call (List.mem_of_getElem? hcall)).step hlater

theorem Lawful.run {events : List ExecutionEvent} :
    ∀ {world last : ExecutionWorld}, world.Lawful env → world.CarefulRun env events →
      world.run env events = some last → last.Lawful env := by
  induction events with
  | nil =>
    intro world last h _ hrun
    cases hrun
    exact h
  | cons event rest ih =>
    intro world last h hcareful hrun
    obtain ⟨next, hnext, hrest⟩ := Option.bind_eq_some_iff.mp hrun
    exact ih (h.step hcareful.1 hnext) (hcareful.2 next hnext) hrest

end ExecutionWorld

theorem ProviderConnectionRecord.fingerprint_of_gated {connection stored : ProviderConnectionRecord}
    (hid : stored.id = connection.id) (h : stored.gated = connection.gated) :
    stored.fingerprint env = connection.fingerprint env := by
  simp only [gated, settings, GatedConnection.mk.injEq, Prod.mk.injEq] at h
  obtain ⟨⟨hadapter, hurl, hkey, hnonce, hnetwork⟩, _, hcapabilities⟩ := h
  simp only [fingerprint, hid, hadapter, hurl, hkey, hnonce, hnetwork, hcapabilities]

theorem roleRuntimeFingerprint_of_gated {stored : ModelRoleRecord}
    {connection found : ProviderConnectionRecord} (hrole : stored.roleId = role.roleId)
    (hsame : stored.gated = role.gated) (hid : found.id = connection.id)
    (hfound : found.gated = connection.gated) :
    roleRuntimeFingerprint env stored found = roleRuntimeFingerprint env role connection := by
  have hfingerprint : found.fingerprint env = connection.fingerprint env :=
    ProviderConnectionRecord.fingerprint_of_gated hid hfound
  have hadapter : found.adapterId = connection.adapterId :=
    congrArg (fun gated => gated.settings.1) hfound
  simp only [ModelRoleRecord.gated, ModelRoleRecord.settings, GatedRole.mk.injEq,
    Prod.mk.injEq] at hsame
  obtain ⟨⟨_, hmodel, htimeout, htokens, hthinking⟩, _⟩ := hsame
  simp only [roleRuntimeFingerprint, hfingerprint, hadapter, hrole, hmodel, htimeout, htokens,
    hthinking]

/-- In a run whose writes find what they took as it was, a call that returns a target while what it
read is still stored: the role passed its latest test under its fingerprint, nothing the test was
about has changed since, its connection was verified last, and the mood roles share their
settings. -/
theorem execution_gate (env : ProviderEnvironment) {events : List ExecutionEvent}
    {world : ExecutionWorld} (hrun : ExecutionWorld.initial.run env events = some world)
    (hcareful : ExecutionWorld.initial.CarefulRun env events) {index : ℕ}
    {resolved : ResolvedRoleExecution} (hreturned : world.returned env index = some resolved)
    (hlast : world.Careful env (.read index)) :
    ∃ role connection, world.settings.store.role resolved.roleId = some role ∧
      world.settings.store.connection resolved.connectionId = some connection ∧
      resolved.fingerprint = roleRuntimeFingerprint env role connection ∧
      LatestTestPassed world.settings.applied resolved.roleId resolved.connectionId
        resolved.fingerprint ∧
      LatestVerificationSucceeded world.settings.applied resolved.connectionId ∧
      (resolved.roleId = "tag_cleanup" →
        (world.settings.store.role "music_tagger").map (·.settings) = some role.settings) := by
  have hlawful := ExecutionWorld.initial_lawful.run hcareful hrun
  have htruthful := hlawful.settings.history.truthful
  obtain ⟨next, hnext, htarget⟩ := Option.bind_eq_some_iff.mp hreturned
  obtain ⟨call, hcall, hstep⟩ := Option.bind_eq_some_iff.mp hnext
  obtain ⟨role, connection, tagger, apiKey, rfl, hdecrypt, rfl⟩ :=
    RoleExecution.decrypting_of_target hstep htarget
  have h : Resolves env role connection tagger :=
    hlawful.executions _ (List.mem_of_getElem? hcall)
  obtain ⟨hrole, hconnection, htagger⟩ := hlast _ hcall (by rw [hdecrypt]; rfl)
  obtain ⟨stored, hstored, hsame⟩ := Option.map_eq_some_iff.mp hrole
  obtain ⟨found, hfound, hkept⟩ := Option.map_eq_some_iff.mp hconnection
  have hfingerprint : roleRuntimeFingerprint env stored found =
      roleRuntimeFingerprint env role connection :=
    roleRuntimeFingerprint_of_gated (role_id hstored) hsame
      ((connection_id hfound).trans h.ofConnection.symm) hkept
  have hsettings : stored.settings = role.settings := congrArg GatedRole.settings hsame
  have hof : stored.connectionId = role.connectionId := congrArg Prod.fst hsettings
  have hpassed : stored.conformanceStatus = "passed" :=
    (congrArg GatedRole.conformanceStatus hsame).trans h.passed
  have htested : stored.conformanceFingerprint =
      some (roleRuntimeFingerprint env role connection) :=
    (congrArg GatedRole.conformanceFingerprint hsame).trans h.tested
  have hverified : found.verificationStatus = "verified" :=
    (congrArg GatedConnection.verificationStatus hkept).trans h.verified
  have hlatest := htruthful.tested role.roleId stored _ hstored hpassed htested
  rw [hof] at hlatest
  refine ⟨stored, found, hstored, hfound, hfingerprint.symm, hlatest,
    htruthful.verified _ found hfound hverified, fun hcleanup => ?_⟩
  rw [hsettings]
  exact (htagger hcleanup).trans (h.shared hcleanup)

def planner (enabled : Bool) : ModelRoleUpdate := ⟨"c", "model", enabled, 30, 1024, .providerDefault⟩

/-- A planner that was tested and then turned on. -/
def plannedEvents : List ProviderEvent :=
  createEvents ++ [.request (.verifyConnection "c"), .step 1 calmInput, .step 1 calmInput,
    .request (.updateModelRole "playlist_planner" (planner false)), .step 2 calmInput,
    .step 2 calmInput, .step 2 calmInput, .step 2 calmInput,
    .request (.testRole "playlist_planner"), .step 3 calmInput, .step 3 calmInput,
    .step 3 calmInput,
    .request (.updateModelRole "playlist_planner" (planner true)), .step 4 calmInput,
    .step 4 calmInput, .step 4 calmInput, .step 4 calmInput]

def plannedRole : ModelRoleRecord :=
  let role := (planner true).record "playlist_planner" none
  { role with
    conformanceStatus := "passed"
    conformanceFingerprint := some (roleRuntimeFingerprint plainEnvironment role verifiedHome)
    lastConformanceAt := some 0 }

/-- The planner is prepared while its connection gets another name. -/
def preparedEvents : List ExecutionEvent :=
  plannedEvents.map .settings ++ [.prepare "playlist_planner", .read 0,
    .settings (.request (.updateConnection "c" (rename "Studio"))), .settings (.step 5 calmInput),
    .read 0, .read 0, .settings (.step 5 calmInput)]

theorem execution_gate_planner :
    ∃ world resolved role connection,
      ExecutionWorld.initial.run plainEnvironment preparedEvents = some world ∧
      world.returned plainEnvironment 0 = some resolved ∧
      world.settings.store.role "playlist_planner" = some role ∧
      world.settings.store.connection "c" = some connection ∧
      resolved.fingerprint = roleRuntimeFingerprint plainEnvironment role connection ∧
      LatestTestPassed world.settings.applied "playlist_planner" "c" resolved.fingerprint ∧
      LatestVerificationSucceeded world.settings.applied "c" := by
  have hreturned : (ExecutionWorld.initial.run plainEnvironment preparedEvents).bind
      (·.returned plainEnvironment 0) =
      some (resolvedRoleExecution plainEnvironment plannedRole verifiedHome "sealed") := by
    decide +kernel
  obtain ⟨world, hworld, hresolved⟩ := Option.bind_eq_some_iff.mp hreturned
  have hcareful : (ExecutionWorld.initial.run plainEnvironment preparedEvents).all
      (fun world => decide (world.Careful plainEnvironment (.read 0))) = true := by
    decide +kernel
  have hlast : world.Careful plainEnvironment (.read 0) :=
    of_decide_eq_true ((Option.all_eq_true ..).mp hcareful world hworld)
  obtain ⟨role, connection, hrole, hconnection, hfingerprint, hlatest, hverified, _⟩ :=
    execution_gate plainEnvironment hworld (by decide +kernel) hresolved hlast
  exact ⟨world, _, role, connection, hworld, hresolved, hrole, hconnection, hfingerprint, hlatest,
    hverified⟩

theorem not_latestTestPassed {front rest : List AppliedWrite} {failed : AppliedWrite}
    {roleId connectionId fingerprint : String} (htests : failed.Tests roleId fingerprint)
    (hfailed : ∀ entry ∈ failed :: rest, ¬ entry.Passes roleId fingerprint) :
    ¬ LatestTestPassed (front ++ failed :: rest) roleId connectionId fingerprint := by
  rintro ⟨before, entry, after, happlied, hpasses, hlater⟩
  rcases List.append_eq_append_iff.mp happlied with ⟨middle, _, hrest⟩ | ⟨middle, _, hrest⟩
  · -- the pass is the failure or comes after it
    refine hfailed entry ?_ hpasses
    rw [hrest]
    exact List.mem_append_right middle (List.mem_cons_self ..)
  · -- the failure comes after the pass, or is it
    cases middle with
    | nil =>
      cases hrest
      exact hfailed _ (List.mem_cons_self ..) hpasses
    | cons first others =>
      cases hrest
      refine (hlater failed ?_).1 htests
      exact List.mem_append_right others (List.mem_cons_self ..)

/-- The planner is prepared once it was saved while it was tested again: the save reads before the
test fails, and writes after. -/
def untestedEvents : List ExecutionEvent :=
  (plannedEvents ++ [ProviderEvent.request (.updateModelRole "playlist_planner" (planner true)),
    .step 5 calmInput, .step 5 calmInput, .step 5 calmInput,
    .request (.testRole "playlist_planner"), .step 6 calmInput, .step 6 calmInput,
    .step 6 { calmInput with conformance := ⟨false, none⟩ },
    .step 5 calmInput]).map .settings ++ [.prepare "playlist_planner", .read 0, .read 0, .read 0]

/-- The planner is prepared while its test fails. -/
def failingEvents : List ExecutionEvent :=
  (plannedEvents ++ [ProviderEvent.request (.testRole "playlist_planner"), .step 5 calmInput,
    .step 5 calmInput]).map .settings ++
  [.prepare "playlist_planner", .read 0,
    .settings (.step 5 { calmInput with conformance := ⟨false, none⟩ }), .read 0, .read 0]

def failedWrite : ProviderConformanceWrite :=
  conformanceWrite plainEnvironment plannedRole verifiedHome ⟨false, none⟩

def failedRole : ModelRoleRecord := failedWrite.onto 0 plannedRole

/-- The planner is let through though it failed last. -/
def LetsThroughFailed (events : List ExecutionEvent) : Prop :=
  ∃ world resolved role, ExecutionWorld.initial.run plainEnvironment events = some world ∧
    world.returned plainEnvironment 0 = some resolved ∧
    world.settings.store.role "playlist_planner" = some role ∧
    world.settings.store.connection "c" = some verifiedHome ∧
    resolved.fingerprint = roleRuntimeFingerprint plainEnvironment role verifiedHome ∧
    ¬ LatestTestPassed world.settings.applied "playlist_planner" "c" resolved.fingerprint

theorem letsThroughFailed_of_run {events : List ExecutionEvent} {role : ModelRoleRecord}
    {resolved : ResolvedRoleExecution} {writes : List ProviderWrite}
    (hrun : (ExecutionWorld.initial.run plainEnvironment events).map (fun world =>
      (world.settings.store, world.returned plainEnvironment 0,
        (world.settings.applied.drop 5).map (·.write))) =
      some (⟨[verifiedHome], [role], []⟩, some resolved, .testRole failedWrite 0 :: writes))
    (hrole : role.roleId = "playlist_planner")
    (hfingerprint : resolved.fingerprint = failedWrite.runtimeFingerprint)
    (hsame : resolved.fingerprint = roleRuntimeFingerprint plainEnvironment role verifiedHome)
    (hwrites : ∀ write ∈ writes, ∀ test now, write ≠ .testRole test now) :
    LetsThroughFailed events := by
  obtain ⟨world, hworld, hparts⟩ := Option.map_eq_some_iff.mp hrun
  simp only [Prod.mk.injEq] at hparts
  obtain ⟨hstore, hreturned, hlast⟩ := hparts
  obtain ⟨failed, rest, happlied, hfailed, hrest⟩ := List.map_eq_cons_iff.mp hlast
  refine ⟨world, resolved, role, hworld, hreturned, ?_, ?_, hsame, ?_⟩
  · rw [hstore]
    simp [ProviderStore.role, KeyedRows.find, hrole]
  · rw [hstore]
    rfl
  · rw [← List.take_append_drop 5 world.settings.applied, happlied]
    refine not_latestTestPassed ⟨_, _, hfailed, rfl, hfingerprint.symm⟩ fun entry hentry => ?_
    rcases List.mem_cons.mp hentry with hsame | hlater
    · rintro ⟨write, now, hwrite, _, _, hpassed⟩
      rw [hsame, hfailed] at hwrite
      cases hwrite
      exact absurd hpassed (by decide)
    · rintro ⟨write, now, hwrite, _⟩
      refine hwrites entry.write ?_ write now hwrite
      rw [← hrest]
      exact List.mem_map_of_mem hlater

theorem stale_save_lets_through :
    LetsThroughFailed untestedEvents ∧ LetsThroughFailed failingEvents := by
  have hsaved := @letsThroughFailed_of_run untestedEvents plannedRole
    (resolvedRoleExecution plainEnvironment plannedRole verifiedHome "sealed")
    [.saveRole "playlist_planner" (planner true)] (by decide +kernel) rfl rfl rfl
  have hread := @letsThroughFailed_of_run failingEvents failedRole
    (resolvedRoleExecution plainEnvironment plannedRole verifiedHome "sealed") []
    (by decide +kernel) rfl rfl rfl
  refine ⟨hsaved ?_, hread ?_⟩
  · intro write hwrite test now
    rw [List.mem_singleton.mp hwrite]
    rintro ⟨⟩
  · intro write hwrite
    cases hwrite

end Providers

end MusicServer
