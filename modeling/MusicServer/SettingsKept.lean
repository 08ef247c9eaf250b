/-
# Provider settings without lost updates

Every applied write leaves what its request does not set, except for what is documented to be
reset: the verification of a connection whose settings change, the conformance and the evaluations
of a role, and the settings of the other mood role.
-/
import MusicServer.ProviderUpdates

namespace MusicServer

namespace Providers

/-! ## What is kept -/

namespace ProviderStore

def ConnectionsBut (id : String) (before after : ProviderStore) : Prop :=
  ∀ other, other ≠ id → after.connection other = before.connection other

/-- The roles of a connection lose their conformance, and nothing else of the roles changes. -/
def RolesReset (id : String) (before after : ProviderStore) : Prop :=
  ∀ roleId, after.role roleId = (before.role roleId).map fun role =>
    if role.connectionId = id then role.resetConformance else role

def SameRoles (before after : ProviderStore) : Prop :=
  ∀ roleId, after.role roleId = before.role roleId

def SameConnections (before after : ProviderStore) : Prop :=
  ∀ id, after.connection id = before.connection id

/-- The evaluations are kept, but for those of some roles. -/
def EvaluationsBut (dropped : String → Prop) (before after : ProviderStore) : Prop :=
  ∀ evaluation ∈ before.evaluations, ¬ dropped evaluation.roleId →
    evaluation ∈ after.evaluations

def Assigned (store : ProviderStore) (id roleId : String) : Prop :=
  ∃ role ∈ store.roles, role.roleId = roleId ∧ role.connectionId = id

end ProviderStore

open ProviderStore

/-- An updated connection has what the patch does not set, and keeps its verification with its
settings. -/
structure ProviderConnectionPatch.Keeps (patch : ProviderConnectionPatch)
    (found written : ProviderConnectionRecord) : Prop where
  id : written.id = found.id
  name : patch.name = none → written.name = found.name
  adapterId : patch.adapterId = none → written.adapterId = found.adapterId
  baseUrl : patch.baseUrl = none → written.baseUrl = found.baseUrl
  allowPrivateNetwork : patch.allowPrivateNetwork = none →
    written.allowPrivateNetwork = found.allowPrivateNetwork
  credential : patch.apiKey = none → written.encryptedApiKey = found.encryptedApiKey ∧
    written.apiKeyNonce = found.apiKeyNonce ∧ written.apiKeyHint = found.apiKeyHint
  verification : written.settings = found.settings →
    written.verificationStatus = found.verificationStatus ∧
    written.verificationErrorCode = found.verificationErrorCode ∧
    written.verifiedModels = found.verifiedModels ∧
    written.verifiedCapabilityIds = found.verifiedCapabilityIds ∧
    written.lastVerifiedAt = found.lastVerifiedAt
  reset : written.settings ≠ found.settings → written.resetVerification = written

/-- An updated role has what was asked for, and keeps its conformance with its settings. -/
structure ModelRoleUpdate.Keeps (request : ModelRoleUpdate) (found : Option ModelRoleRecord)
    (written : ModelRoleRecord) : Prop where
  settings : written.settings = (request.connectionId, request.modelId, request.timeoutSeconds,
    request.maxOutputTokens, request.thinkingMode.asStr)
  enabled : written.enabled = request.enabled
  conformance : ∀ record, found = some record → request.runtimeChanged found = false →
    written.conformanceStatus = record.conformanceStatus ∧
    written.conformanceErrorCode = record.conformanceErrorCode ∧
    written.conformanceFingerprint = record.conformanceFingerprint ∧
    written.lastConformanceAt = record.lastConformanceAt
  reset : request.runtimeChanged found = true → written.resetConformance = written

def ProviderWrite.Keeps (before after : ProviderStore) : ProviderWrite → Prop
  | .createConnection record => after.connection record.id = some record ∧
      ConnectionsBut record.id before after ∧ SameRoles before after ∧
      after.evaluations = before.evaluations
  | .replaceConnection id patch _ => ∃ found written, before.connection id = some found ∧
      after.connection id = some written ∧ patch.Keeps found written ∧
      ConnectionsBut id before after ∧
      (written.settings = found.settings →
        SameRoles before after ∧ after.evaluations = before.evaluations) ∧
      (written.settings ≠ found.settings →
        RolesReset id before after ∧ EvaluationsBut (before.Assigned id) before after)
  | .deleteConnection id => after.connection id = none ∧ ConnectionsBut id before after ∧
      SameRoles before after ∧ after.evaluations = before.evaluations
  | .clearCredential id => (∃ found, before.connection id = some found ∧
      after.connection id = some found.clearCredential) ∧ ConnectionsBut id before after ∧
      RolesReset id before after ∧ EvaluationsBut (before.Assigned id) before after
  | .verifyConnection write now => (∃ found, before.connection write.connectionId = some found ∧
      after.connection write.connectionId = some (write.onto now found)) ∧ ConnectionsBut write.connectionId before after ∧
      RolesReset write.connectionId before after ∧
      EvaluationsBut (before.Assigned write.connectionId) before after
  | .testRole write now => (∃ found, before.role write.roleId = some found ∧
      after.role write.roleId = some (write.onto now found)) ∧
      (∀ other, other ≠ write.roleId → after.role other = before.role other) ∧
      SameConnections before after ∧ after.evaluations = before.evaluations
  | .saveRole roleId request => ∃ written, after.role roleId = some written ∧
      request.Keeps (before.role roleId) written ∧ SameConnections before after ∧
      (∀ other, other ≠ roleId → siblingRole roleId ≠ some other →
        after.role other = before.role other) ∧
      (∀ sibling, siblingRole roleId = some sibling →
        after.role sibling = if (before.role sibling).map (·.settings) = some written.settings then
          before.role sibling
        else some { written.resetConformance with roleId := sibling, enabled := false }) ∧
      EvaluationsBut (fun id => id = roleId ∧ request.runtimeChanged (before.role roleId) = true ∨
        siblingRole roleId = some id ∧
          (before.role id).map (·.settings) ≠ some written.settings) before after
  | .deleteRole roleId => after.role roleId = none ∧
      (∀ other, other ≠ roleId → after.role other = before.role other) ∧
      SameConnections before after ∧ EvaluationsBut (· = roleId) before after
  | .resetCredentials =>
      (∀ id, after.connection id = (before.connection id).map (·.clearCredential)) ∧
      ∀ roleId, after.role roleId = (before.role roleId).map (·.resetConformance)

/-! ## URLs -/

/-- A URL that the policy made is made of itself again, or refused. -/
def ProviderEnvironment.NormalizesOnce (env : ProviderEnvironment) : Prop :=
  ∀ adapterId raw network url, env.normalizeBaseUrl adapterId raw network = .ok url →
    ∀ adapterId' network' url', env.normalizeBaseUrl adapterId' url network' = .ok url' → url' = url

def ProviderStore.Normal (env : ProviderEnvironment) (store : ProviderStore) : Prop :=
  ∀ connection ∈ store.connections, ∃ adapterId raw network,
    env.normalizeBaseUrl adapterId raw network = .ok connection.baseUrl

variable {env : ProviderEnvironment} {store : ProviderStore}
variable {encrypted : Except String EncryptedProviderCredential} {patch : ProviderConnectionPatch}

theorem baseUrl_of_replacement {current next : ProviderConnectionRecord} {reset : Bool}
    (h : patch.replacement env current encrypted = .ok (next, reset)) :
    env.normalizeBaseUrl (patch.adapterId.getD current.adapterId)
      (patch.baseUrl.getD current.baseUrl)
      (patch.allowPrivateNetwork.getD current.allowPrivateNetwork) = .ok next.baseUrl := by
  obtain ⟨baseUrl, credential, hplan, _, hnext⟩ := ProviderConnectionPatch.replacement_ok h
  rw [ProviderConnectionPatch.baseUrl_of_plan hplan, hnext]
  cases reset <;> rfl

theorem ProviderStore.Normal.update {id : String}
    {change : ProviderConnectionRecord → ProviderConnectionRecord} (h : store.Normal env)
    (hchange : ∀ connection ∈ store.connections, ∃ adapterId raw network,
      env.normalizeBaseUrl adapterId raw network = .ok (change connection).baseUrl) :
    (store.updateConnection id change).Normal env := by
  intro connection hconnection
  obtain ⟨old, hold, hsame⟩ := List.mem_map.mp hconnection
  rw [← hsame]
  split
  · exact hchange old hold
  · exact h old hold

theorem ProviderStore.Normal.apply (h : store.Normal env) {write : ProviderWrite}
    (hadmitted : write.Admitted env store) : (write.apply env store).Normal env := by
  cases write with
  | createConnection record =>
    intro connection hconnection
    rcases List.mem_append.mp hconnection with hold | hnew
    · exact h connection hold
    · rw [List.mem_singleton.mp hnew]
      exact hadmitted.2.2
  | replaceConnection id patch encrypted =>
    obtain ⟨found, next, reset, hfound, hnext⟩ := hadmitted
    have hupdated : (store.updateConnection next.id fun _ => next).Normal env :=
      h.update fun _ _ => ⟨_, _, _, baseUrl_of_replacement hnext⟩
    simp only [ProviderWrite.apply, hfound, hnext, replaceConnection]
    split
    · exact hupdated
    · exact hupdated
  | deleteConnection id =>
    exact fun connection hconnection => h connection (List.mem_filter.mp hconnection).1
  | clearCredential id => exact @ProviderStore.Normal.update _ _ id _ h fun connection hold => h connection hold
  | verifyConnection write now => exact h.update fun connection hold => h connection hold
  | testRole write now => exact h
  | saveRole roleId request =>
    have hsame : (ProviderWrite.apply env store (.saveRole roleId request)).connections =
        store.connections := by
      simp only [ProviderWrite.apply, saveRole, syncSibling]
      repeat' split
      all_goals rfl
    intro connection hconnection
    rw [hsame] at hconnection
    exact h connection hconnection
  | deleteRole roleId => exact h
  | resetCredentials =>
    intro connection hconnection
    obtain ⟨old, hold, hsame⟩ := List.mem_map.mp hconnection
    rw [← hsame]
    exact h old hold

/-! ## Each write keeps the rest -/

theorem evaluations_resetRolesForConnection {other : ProviderStore} (id : String)
    (hroles : other.roles = store.roles) (hevaluations : other.evaluations = store.evaluations) :
    EvaluationsBut (store.Assigned id) store (other.resetRolesForConnection id) := by
  intro evaluation hevaluation hfree
  refine List.mem_filter.mpr ⟨hevaluations ▸ hevaluation, ?_⟩
  rw [hroles]
  simp only [decide_eq_true_eq, List.any_eq_true, Bool.and_eq_true, not_exists, not_and]
  intro role hrole hsame hassigned
  exact hfree ⟨role, hrole, hsame, hassigned⟩

theorem rolesReset_resetRolesForConnection {other : ProviderStore} (id : String)
    (hroles : other.roles = store.roles) :
    RolesReset id store (other.resetRolesForConnection id) := by
  intro roleId
  have hsame : other.role roleId = store.role roleId := by
    unfold ProviderStore.role
    rw [hroles]
  rw [role_resetRolesForConnection, hsame]

theorem ProviderConnectionPatch.verification_of_replacement {found next : ProviderConnectionRecord}
    {reset : Bool} (h : patch.replacement env found encrypted = .ok (next, reset)) :
    next.id = found.id ∧ reset = decide (next.settings ≠ found.settings) ∧
      (next.settings = found.settings →
        next.verificationStatus = found.verificationStatus ∧
        next.verificationErrorCode = found.verificationErrorCode ∧
        next.verifiedModels = found.verifiedModels ∧
        next.verifiedCapabilityIds = found.verifiedCapabilityIds ∧
        next.lastVerifiedAt = found.lastVerifiedAt) ∧
      (next.settings ≠ found.settings → next.resetVerification = next) := by
  obtain ⟨baseUrl, credential, _, hreset, hnext⟩ := ProviderConnectionPatch.replacement_ok h
  have hsettings : next.settings = (patch.merged found baseUrl credential).settings := by
    rw [hnext]
    cases reset <;> rfl
  rw [← hsettings] at hreset
  refine ⟨?_, hreset, fun hsame => ?_, fun hchanged => ?_⟩
  · rw [hnext]
    cases reset <;> rfl
  · have hcalm : reset = false := by rw [hreset, decide_eq_false_iff_not, not_not, hsame]
    rw [hnext, hcalm]
    exact ⟨rfl, rfl, rfl, rfl, rfl⟩
  · have hloud : reset = true := by rw [hreset, decide_eq_true_eq]; exact hchanged
    rw [hnext, hloud]
    rfl

theorem ProviderConnectionPatch.keeps_of_replacement (honce : env.NormalizesOnce)
    {found next : ProviderConnectionRecord} {reset : Bool} (hnormal : ∃ adapterId raw network,
      env.normalizeBaseUrl adapterId raw network = .ok found.baseUrl)
    (h : patch.replacement env found encrypted = .ok (next, reset)) : patch.Keeps found next := by
  have hurl := baseUrl_of_replacement h
  obtain ⟨hid, _, hkept, hcleared⟩ := ProviderConnectionPatch.verification_of_replacement h
  obtain ⟨baseUrl, credential, _, _, hnext⟩ := ProviderConnectionPatch.replacement_ok h
  have hmerged : ∀ {α : Type} (field : ProviderConnectionRecord → α),
      (∀ record, field record.resetVerification = field record) →
        field next = field (patch.merged found baseUrl credential) := by
    intro α field hfield
    rw [hnext]
    split
    · exact hfield _
    · rfl
  refine ⟨hid, fun hname => ?_, fun hadapter => ?_, fun hraw => ?_, fun hnetwork => ?_,
    fun hkey => ⟨?_, ?_, ?_⟩, hkept, hcleared⟩
  · rw [hmerged (·.name) fun _ => rfl]
    simp only [merged, hname, Option.getD_none]
  · rw [hmerged (·.adapterId) fun _ => rfl]
    simp only [merged, hadapter, Option.getD_none]
  · -- the stored URL is normalized again
    obtain ⟨adapterId, raw, network, hmade⟩ := hnormal
    rw [hraw, Option.getD_none] at hurl
    exact honce _ _ _ _ hmade _ _ _ hurl
  · rw [hmerged (·.allowPrivateNetwork) fun _ => rfl]
    simp only [merged, hnetwork, Option.getD_none]
  · rw [hmerged (·.encryptedApiKey) fun _ => rfl]
    simp only [merged, hkey, Option.isSome_none, Bool.false_eq_true, if_false]
  · rw [hmerged (·.apiKeyNonce) fun _ => rfl]
    simp only [merged, hkey, Option.isSome_none, Bool.false_eq_true, if_false]
  · rw [hmerged (·.apiKeyHint) fun _ => rfl]
    simp only [merged, hkey, Option.isSome_none, Bool.false_eq_true, if_false]

theorem replaceConnection_spec {id : String} {found next : ProviderConnectionRecord} {reset : Bool}
    (hfound : store.connection id = some found)
    (hnext : patch.replacement env found encrypted = .ok (next, reset)) :
    (store.replaceConnection next reset).connection id = some next ∧
      ConnectionsBut id store (store.replaceConnection next reset) ∧
      (next.settings = found.settings → SameRoles store (store.replaceConnection next reset) ∧
        (store.replaceConnection next reset).evaluations = store.evaluations) ∧
      (next.settings ≠ found.settings → RolesReset id store (store.replaceConnection next reset) ∧
        EvaluationsBut (store.Assigned id) store (store.replaceConnection next reset)) := by
  obtain ⟨hsame, hreset, _⟩ := ProviderConnectionPatch.verification_of_replacement hnext
  have hid : next.id = id := hsame.trans (connection_id hfound)
  have hconnection : ∀ other, (store.replaceConnection next reset).connection other =
      (store.updateConnection next.id fun _ => next).connection other := by
    intro other
    unfold replaceConnection
    dsimp only
    split <;> rfl
  refine ⟨?_, fun other hother => ?_, fun hsame => ?_, fun hchanged => ?_⟩
  · rw [hconnection, ← hid, connection_updateConnection_self _ fun _ _ => rfl, hid, hfound,
      Option.map_some]
  · rw [hconnection]
    exact connection_updateConnection_of_ne _ (fun _ _ => rfl) (by rw [hid]; exact hother)
  · have hcalm : reset = false := by rw [hreset, decide_eq_false_iff_not, not_not, hsame]
    subst hcalm
    exact ⟨fun _ => rfl, rfl⟩
  · have hloud : reset = true := by rw [hreset, decide_eq_true_eq]; exact hchanged
    subst hloud
    rw [← hid]
    exact ⟨rolesReset_resetRolesForConnection next.id rfl,
      evaluations_resetRolesForConnection next.id rfl rfl⟩

theorem ModelRoleUpdate.keeps_record (request : ModelRoleUpdate) (roleId : String)
    (found : Option ModelRoleRecord) : request.Keeps found (request.record roleId found) where
  settings := rfl
  enabled := rfl
  conformance := fun record hrecord hsame => by
    subst hrecord
    simp only [ModelRoleUpdate.record, hsame, Bool.false_eq_true, if_false, Option.map_some,
      Option.getD_some, Option.bind_some, and_self]
  reset := fun hchanged => by
    simp only [ModelRoleUpdate.record, hchanged, if_true, Option.map_none, Option.getD_none,
      Option.bind_none, ModelRoleRecord.resetConformance]

theorem siblingRole_ne {roleId sibling : String} (h : siblingRole roleId = some sibling) :
    sibling ≠ roleId := by
  unfold siblingRole at h
  split at h
  · rename_i htagger
    cases h
    rw [htagger]
    decide
  · split at h
    · rename_i hcleanup
      cases h
      rw [hcleanup]
      decide
    · cases h

theorem role_saveRole_self (role : ModelRoleRecord) (resetEvaluations : Bool) :
    (store.saveRole role resetEvaluations).role role.roleId = some role := by
  unfold saveRole
  dsimp only
  split
  · exact role_putRole_self role
  · exact role_putRole_self role

variable {role : ModelRoleRecord}

theorem role_saveRole_of_ne (resetEvaluations : Bool) {other : String}
    (hother : other ≠ role.roleId) :
    (store.saveRole role resetEvaluations).role other = (store.syncSibling role).role other := by
  unfold saveRole
  dsimp only
  split
  · exact role_putRole_of_ne hother
  · exact role_putRole_of_ne hother

theorem role_syncSibling {sibling : String} (hsibling : siblingRole role.roleId = some sibling) :
    (store.syncSibling role).role sibling =
      if (store.role sibling).map (·.settings) = some role.settings then store.role sibling
      else some { role.resetConformance with roleId := sibling, enabled := false } := by
  unfold syncSibling
  rw [hsibling]
  dsimp only
  split
  · rfl
  · exact role_putRole_self { role.resetConformance with roleId := sibling, enabled := false }

theorem role_syncSibling_of_ne {other : String} (hother : siblingRole role.roleId ≠ some other) :
    (store.syncSibling role).role other = store.role other := by
  unfold syncSibling
  split
  · rfl
  · rename_i sibling hsibling
    split
    · rfl
    · refine role_putRole_of_ne ?_
      intro hsame
      exact hother (by rw [hsibling, hsame])

theorem evaluations_saveRole {resetEvaluations : Bool} {evaluation : ModelEvaluationRecord}
    (hevaluation : evaluation ∈ store.evaluations)
    (hself : ¬ (evaluation.roleId = role.roleId ∧ resetEvaluations = true))
    (hsibling : ¬ (siblingRole role.roleId = some evaluation.roleId ∧
      (store.role evaluation.roleId).map (·.settings) ≠ some role.settings)) :
    evaluation ∈ (store.saveRole role resetEvaluations).evaluations := by
  have hsynced : evaluation ∈ (store.syncSibling role).evaluations := by
    unfold syncSibling
    split
    · exact hevaluation
    · rename_i sibling hrole
      split
      · exact hevaluation
      · rename_i hchanged
        refine List.mem_filter.mpr ⟨hevaluation, decide_eq_true fun hsame => ?_⟩
        exact hsibling ⟨by rw [hrole, hsame], by rw [hsame]; exact hchanged⟩
  unfold saveRole
  dsimp only
  split
  · rename_i hreset
    exact List.mem_filter.mpr ⟨hsynced, decide_eq_true fun hsame => hself ⟨hsame, hreset⟩⟩
  · exact hsynced

theorem keeps_saveRole (roleId : String) (request : ModelRoleUpdate) :
    ProviderWrite.Keeps store (ProviderWrite.apply env store (.saveRole roleId request))
      (.saveRole roleId request) := by
  have hid : (request.record roleId (store.role roleId)).roleId = roleId := rfl
  refine ⟨request.record roleId (store.role roleId), role_saveRole_self _ _,
    request.keeps_record roleId _, fun id => ?_, fun other hother hapart => ?_,
    fun sibling hsibling => ?_, fun evaluation hevaluation hfree => ?_⟩
  · simp only [ProviderWrite.apply, saveRole, syncSibling]
    repeat' split
    all_goals rfl
  · exact (role_saveRole_of_ne _ (hid ▸ hother)).trans (role_syncSibling_of_ne (hid ▸ hapart))
  · have hne : sibling ≠ (request.record roleId (store.role roleId)).roleId :=
      hid ▸ siblingRole_ne hsibling
    exact (role_saveRole_of_ne _ hne).trans (role_syncSibling (hid ▸ hsibling))
  · refine evaluations_saveRole hevaluation (fun hself => hfree (Or.inl hself)) fun hsibling => ?_
    exact hfree (Or.inr hsibling)

theorem ProviderWrite.keeps_of_admitted (honce : env.NormalizesOnce) (hnormal : store.Normal env)
    {write : ProviderWrite} (hadmitted : write.Admitted env store) :
    write.Keeps store (write.apply env store) := by
  cases write with
  | createConnection record =>
    refine ⟨?_, fun other hother => ?_, fun _ => rfl, rfl⟩
    · exact connection_createConnection_self hadmitted.1
    · exact connection_createConnection_of_ne hother
  | replaceConnection id patch encrypted =>
    obtain ⟨found, next, reset, hfound, hnext⟩ := hadmitted
    have happly : ProviderWrite.apply env store (.replaceConnection id patch encrypted) =
        store.replaceConnection next reset := by
      simp only [ProviderWrite.apply, hfound, hnext]
    obtain ⟨hself, hothers, hsame, hchanged⟩ := replaceConnection_spec hfound hnext
    rw [happly]
    exact ⟨found, next, hfound, hself, ProviderConnectionPatch.keeps_of_replacement honce
      (hnormal found (KeyedRows.mem_of_find hfound)) hnext, hothers, hsame, hchanged⟩
  | deleteConnection id =>
    exact ⟨KeyedRows.find_delete_self store.connections,
      fun other hother => KeyedRows.find_delete_of_ne hother store.connections, fun _ => rfl, rfl⟩
  | clearCredential id =>
    obtain ⟨found, hfound⟩ := hadmitted
    refine ⟨⟨found, hfound, ?_⟩, fun other hother => ?_,
      rolesReset_resetRolesForConnection id rfl, evaluations_resetRolesForConnection id rfl rfl⟩
    · refine (connection_updateConnection_self (·.clearCredential) fun _ hsame => hsame).trans ?_
      rw [hfound, Option.map_some]
    · exact connection_updateConnection_of_ne (·.clearCredential) (fun _ hsame => hsame) hother
  | verifyConnection write now =>
    obtain ⟨found, hfound⟩ := hadmitted
    refine ⟨⟨found, hfound, ?_⟩, fun other hother => ?_,
      rolesReset_resetRolesForConnection _ rfl, evaluations_resetRolesForConnection _ rfl rfl⟩
    · have hwritten : (store.updateConnection write.connectionId (write.onto now)).connection
          write.connectionId = _ :=
        connection_updateConnection_self (write.onto now) fun _ hsame => hsame
      rw [hfound] at hwritten
      exact hwritten
    · exact connection_updateConnection_of_ne (write.onto now) (fun _ hsame => hsame) hother
  | testRole write now =>
    obtain ⟨found, hfound⟩ := hadmitted
    refine ⟨⟨found, hfound, ?_⟩, fun other hother => ?_, fun _ => rfl, rfl⟩
    · exact (role_testRole_self write now).trans (by rw [hfound, Option.map_some])
    · exact role_testRole_of_ne now hother
  | saveRole roleId request => exact keeps_saveRole roleId request
  | deleteRole roleId =>
    refine ⟨KeyedRows.find_delete_self store.roles,
      fun other hother => KeyedRows.find_delete_of_ne hother store.roles, fun _ => rfl,
      fun evaluation hevaluation hfree => ?_⟩
    exact List.mem_filter.mpr ⟨hevaluation, decide_eq_true hfree⟩
  | resetCredentials =>
    exact ⟨fun _ => connection_resetCredentials, fun _ => role_resetCredentials⟩

/-! ## Histories -/

theorem ProviderHistory.normal {applied : List AppliedWrite}
    (h : ProviderHistory env applied store) : store.Normal env := by
  induction h with
  | nil =>
    intro connection hconnection
    cases hconnection
  | snoc _ hadmitted ih => exact ih.apply hadmitted

theorem ProviderHistory.kept (honce : env.NormalizesOnce) {applied : List AppliedWrite}
    (h : ProviderHistory env applied store) {before after : List AppliedWrite}
    {entry : AppliedWrite} (happlied : applied = before ++ entry :: after) :
    entry.before = before.foldl (fun store entry => entry.write.apply env store) .empty ∧
      entry.after = entry.write.apply env entry.before ∧
      entry.write.Keeps entry.before entry.after := by
  induction h generalizing after with
  | nil =>
    have hempty := congrArg List.length happlied
    simp at hempty
  | @snoc applied store write h hadmitted ih =>
    rcases List.eq_nil_or_concat after with hlast | ⟨rest, last, hrest⟩
    · rw [hlast] at happlied
      obtain ⟨hbefore, hentry⟩ := List.append_inj' happlied rfl
      cases hentry
      subst hbefore
      exact ⟨h.store_eq, rfl, ProviderWrite.keeps_of_admitted honce h.normal hadmitted⟩
    · rw [hrest, List.concat_eq_append, ← List.cons_append, ← List.append_assoc] at happlied
      exact ih (List.append_inj' happlied rfl).1

/-! ## Runs -/

/-- In a run whose writes find what they took as it was, every applied write is made on what the
writes before it made and keeps what its request does not set, and the store is what the applied
writes make one after another. -/
theorem provider_writes_keep (env : ProviderEnvironment) (honce : env.NormalizesOnce)
    {events : List ProviderEvent} {world : ProviderWorld}
    (hrun : ProviderWorld.initial.run env events = some world)
    (hcareful : ProviderWorld.initial.CarefulRun env events) :
    (∀ before entry after, world.applied = before ++ entry :: after →
      entry.before = before.foldl (fun store entry => entry.write.apply env store) .empty ∧
        entry.after = entry.write.apply env entry.before ∧
        entry.write.Keeps entry.before entry.after) ∧
      world.store = world.applied.foldl (fun store entry => entry.write.apply env store) .empty := by
  have hlawful := ProviderWorld.initial_lawful.run hcareful hrun
  exact ⟨fun _ _ _ happlied => hlawful.history.kept honce happlied, hlawful.history.store_eq⟩

def plainEnvironment : ProviderEnvironment where
  sha256Hex := id
  jsonOfStrings := fun values => ",".intercalate values
  toLowercase := id
  normalizeBaseUrl := fun _ raw _ => .ok raw
  validateModelSettings := fun _ _ _ _ => .ok ()
  modelProfile := fun _ _ => ("generic", "1")
  contractDigest := fun _ => "contract"
  decrypt := fun _ ciphertext _ => .ok ciphertext

def calmInput : ProviderInput where
  jobs := ⟨false, fun _ => false, fun _ => false⟩
  now := 0
  encrypted := .ok ⟨"sealed", "nonce", "hint"⟩
  verification := ⟨true, none, ["model"]⟩
  conformance := ⟨true, none⟩

def rename (name : String) : ProviderConnectionPatch := ⟨some name, none, none, none, none⟩

def createEvents : List ProviderEvent :=
  [.request (.createConnection "c"
      ⟨"Home", "openai-compatible/v1", "https://example.test/v1", "key", false⟩),
    .step 0 calmInput]

/-- A connection is verified while it is renamed: the rename reads before and writes after. -/
def overtakenEvents : List ProviderEvent :=
  createEvents ++ [.request (.updateConnection "c" (rename "Studio")), .step 1 calmInput,
    .request (.verifyConnection "c"), .step 2 calmInput, .step 2 calmInput, .step 1 calmInput]

def home : ProviderConnectionRecord where
  id := "c"
  name := "Home"
  adapterId := "openai-compatible/v1"
  baseUrl := "https://example.test/v1"
  encryptedApiKey := "sealed"
  apiKeyNonce := "nonce"
  apiKeyHint := "hint"
  allowPrivateNetwork := false
  verificationStatus := "never"
  verificationErrorCode := none
  verifiedModels := []
  verifiedCapabilityIds := []
  lastVerifiedAt := none

def verifiedHome : ProviderConnectionRecord :=
  { home with
    verificationStatus := "verified"
    verifiedModels := ["model"]
    lastVerifiedAt := some 0 }

/-- The verification goes with the rename. -/
theorem rename_reverts_verification :
    (ProviderWorld.initial.run plainEnvironment overtakenEvents).bind (·.applied[2]?) =
      some ⟨.replaceConnection "c" (rename "Studio") calmInput.encrypted,
        ⟨[verifiedHome], [], []⟩, ⟨[{ home with name := "Studio" }], [], []⟩⟩ ∧
    ¬ (ProviderWrite.replaceConnection "c" (rename "Studio") calmInput.encrypted).Keeps
      ⟨[verifiedHome], [], []⟩ ⟨[{ home with name := "Studio" }], [], []⟩ := by
  refine ⟨by decide +kernel, ?_⟩
  rintro ⟨found, written, hfound, hwritten, hkeeps, _⟩
  have hhome : found = verifiedHome := by
    have hrow : (⟨[verifiedHome], [], []⟩ : ProviderStore).connection "c" = some verifiedHome := by
      decide +kernel
    exact Option.some.inj (hfound.symm.trans hrow)
  have hstudio : written = { home with name := "Studio" } := by
    have hrow : (⟨[{ home with name := "Studio" }], [], []⟩ : ProviderStore).connection "c" =
        some { home with name := "Studio" } := by
      decide +kernel
    exact Option.some.inj (hwritten.symm.trans hrow)
  subst hhome hstudio
  have hstatus := (hkeeps.verification (by decide +kernel)).1
  exact absurd hstatus (by decide +kernel)

def renamedEvents : List ProviderEvent :=
  createEvents ++ [.request (.verifyConnection "c"), .step 1 calmInput, .step 1 calmInput,
    .request (.updateConnection "c" (rename "Studio")), .step 2 calmInput, .step 2 calmInput]

theorem provider_writes_keep_renamed :
    ∃ world, ProviderWorld.initial.run plainEnvironment renamedEvents = some world ∧
      world.store.connection "c" = some { verifiedHome with name := "Studio" } ∧
      world.store =
        world.applied.foldl (fun store entry => entry.write.apply plainEnvironment store) .empty := by
  have honce : plainEnvironment.NormalizesOnce := by
    intro _ _ _ url _ _ _ other hother
    cases hother
    rfl
  have hsome : (ProviderWorld.initial.run plainEnvironment renamedEvents).isSome = true := by
    decide +kernel
  obtain ⟨world, hworld⟩ := Option.isSome_iff_exists.mp hsome
  refine ⟨world, hworld, ?_, ?_⟩
  · have hrow : (ProviderWorld.initial.run plainEnvironment renamedEvents).bind
        (·.store.connection "c") = some { verifiedHome with name := "Studio" } := by
      decide +kernel
    rwa [hworld] at hrow
  · exact (provider_writes_keep plainEnvironment honce hworld (by decide +kernel)).2

end Providers

end MusicServer
