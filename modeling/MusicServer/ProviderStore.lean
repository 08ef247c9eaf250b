/-
# The storage of the model providers

Each mutation is one transaction under the write gate: it looks at the row it is about to replace,
refuses where the fingerprint is another one or a model job is active, and writes.
-/
import MusicServer.ProviderRecords

namespace MusicServer

namespace Providers

structure ProviderStore where
  connections : List ProviderConnectionRecord
  roles : List ModelRoleRecord
  evaluations : List ModelEvaluationRecord
  deriving DecidableEq

/-- The model jobs that are active when a transaction looks. -/
structure ActiveModelJobs where
  anywhere : Bool
  connection : String → Bool
  role : String → Bool

inductive ProviderMutationOutcome where
  | applied
  | notFound
  | duplicateName
  | connectionInUse
  | connectionModelJobActive
  | roleModelJobActive
  | changed
  | modelJobActive
  | roleChanged
  | connectionChanged
  | failed
  deriving DecidableEq

structure ProviderVerificationWrite where
  connectionId : String
  expectedFingerprint : String
  verified : Bool
  errorCode : Option String
  models : List String
  capabilityIds : List String
  deriving DecidableEq

structure ProviderConformanceWrite where
  roleId : String
  expectedRoleConfigurationFingerprint : String
  expectedConnectionFingerprint : String
  runtimeFingerprint : String
  passed : Bool
  errorCode : Option String
  deriving DecidableEq

/-- The row of a connection after its verification. -/
def ProviderVerificationWrite.onto (write : ProviderVerificationWrite) (now : ℤ)
    (connection : ProviderConnectionRecord) : ProviderConnectionRecord :=
  { connection with
    verificationStatus := if write.verified then "verified" else "failed"
    verificationErrorCode := write.errorCode
    verifiedModels := write.models
    verifiedCapabilityIds := write.capabilityIds
    lastVerifiedAt := some now }

def ProviderConformanceWrite.onto (write : ProviderConformanceWrite) (now : ℤ)
    (role : ModelRoleRecord) : ModelRoleRecord :=
  { role with
    conformanceStatus := if write.passed then "passed" else "failed"
    conformanceErrorCode := write.errorCode
    conformanceFingerprint := some write.runtimeFingerprint
    lastConformanceAt := some now }

namespace ProviderStore

def empty : ProviderStore := ⟨[], [], []⟩

def connection (store : ProviderStore) (id : String) : Option ProviderConnectionRecord :=
  KeyedRows.find (·.id) store.connections id

def role (store : ProviderStore) (roleId : String) : Option ModelRoleRecord :=
  KeyedRows.find (·.roleId) store.roles roleId

/-! ## Statements -/

def resetRolesForConnection (store : ProviderStore) (connectionId : String) : ProviderStore :=
  { store with
    evaluations := store.evaluations.filter fun evaluation => ¬ store.roles.any fun role =>
      role.roleId = evaluation.roleId && role.connectionId = connectionId
    roles := store.roles.map fun role =>
      if role.connectionId = connectionId then role.resetConformance else role }

def updateConnection (store : ProviderStore) (id : String)
    (change : ProviderConnectionRecord → ProviderConnectionRecord) : ProviderStore :=
  { store with connections := KeyedRows.update (·.id) id change store.connections }

def putRole (store : ProviderStore) (role : ModelRoleRecord) : ProviderStore :=
  { store with roles := KeyedRows.upsert (·.roleId) role store.roles }

def deleteEvaluations (store : ProviderStore) (roleId : String) : ProviderStore :=
  { store with evaluations := store.evaluations.filter fun evaluation =>
      evaluation.roleId ≠ roleId }

def createConnection (store : ProviderStore) (record : ProviderConnectionRecord) : ProviderStore :=
  { store with connections := store.connections ++ [record] }

def replaceConnection (store : ProviderStore) (record : ProviderConnectionRecord)
    (resetDependents : Bool) : ProviderStore :=
  let store := store.updateConnection record.id fun _ => record
  if resetDependents then store.resetRolesForConnection record.id else store

def deleteConnection (store : ProviderStore) (id : String) : ProviderStore :=
  { store with connections := KeyedRows.delete (·.id) id store.connections }

def clearCredential (store : ProviderStore) (id : String) : ProviderStore :=
  (store.updateConnection id (·.clearCredential)).resetRolesForConnection id

def verifyConnection (store : ProviderStore) (write : ProviderVerificationWrite) (now : ℤ) :
    ProviderStore :=
  (store.updateConnection write.connectionId (write.onto now)).resetRolesForConnection
    write.connectionId

def testRole (store : ProviderStore) (write : ProviderConformanceWrite) (now : ℤ) :
    ProviderStore :=
  { store with
    roles := KeyedRows.update (·.roleId) write.roleId (write.onto now) store.roles }

def siblingRole (roleId : String) : Option String :=
  if roleId = "music_tagger" then some "tag_cleanup"
  else if roleId = "tag_cleanup" then some "music_tagger" else none

/-- The sibling is given the settings of a role, off and untested, where it has others. -/
def syncSibling (store : ProviderStore) (role : ModelRoleRecord) : ProviderStore :=
  match siblingRole role.roleId with
  | none => store
  | some sibling =>
    if (store.role sibling).map (·.settings) = some role.settings then store
    else
      (store.putRole { role.resetConformance with
        roleId := sibling
        enabled := false }).deleteEvaluations sibling

def saveRole (store : ProviderStore) (role : ModelRoleRecord) (resetEvaluations : Bool) :
    ProviderStore :=
  let store := (store.syncSibling role).putRole role
  if resetEvaluations then store.deleteEvaluations role.roleId else store

def deleteRole (store : ProviderStore) (roleId : String) : ProviderStore :=
  ({ store with roles := KeyedRows.delete (·.roleId) roleId store.roles } :
    ProviderStore).deleteEvaluations roleId

def resetCredentials (store : ProviderStore) : ProviderStore where
  connections := store.connections.map (·.clearCredential)
  roles := store.roles.map (·.resetConformance)
  evaluations := []

/-! ## Transactions -/

variable (env : ProviderEnvironment) (jobs : ActiveModelJobs)

def hasName (store : ProviderStore) (name : String) (excludingId : Option String) : Bool :=
  store.connections.any fun connection => some connection.id ≠ excludingId &&
    env.toLowercase connection.name = env.toLowercase name

def createProviderConnection (store : ProviderStore) (record : ProviderConnectionRecord) :
    ProviderStore × ProviderMutationOutcome :=
  if store.hasName env record.name none then (store, .duplicateName)
  else if (store.connection record.id).isSome then (store, .failed)
  else (store.createConnection record, .applied)

def replaceProviderConnection (store : ProviderStore) (expectedFingerprint : String)
    (record : ProviderConnectionRecord) (resetDependents : Bool) :
    ProviderStore × ProviderMutationOutcome :=
  match store.connection record.id with
  | none => (store, .notFound)
  | some current =>
    if current.fingerprint env ≠ expectedFingerprint then (store, .changed)
    else if store.hasName env record.name (some record.id) then (store, .duplicateName)
    else if resetDependents && jobs.connection record.id then (store, .connectionModelJobActive)
    else (store.replaceConnection record resetDependents, .applied)

def deleteProviderConnection (store : ProviderStore) (id : String) :
    ProviderStore × ProviderMutationOutcome :=
  if (store.connection id).isNone then (store, .notFound)
  else if jobs.connection id then (store, .connectionModelJobActive)
  else if store.roles.any fun role => role.connectionId = id then (store, .connectionInUse)
  else (store.deleteConnection id, .applied)

def clearProviderCredential (store : ProviderStore) (id : String) :
    ProviderStore × ProviderMutationOutcome :=
  if (store.connection id).isNone then (store, .notFound)
  else if jobs.connection id then (store, .connectionModelJobActive)
  else (store.clearCredential id, .applied)

def finishProviderVerification (store : ProviderStore) (write : ProviderVerificationWrite)
    (now : ℤ) : ProviderStore × ProviderMutationOutcome :=
  match store.connection write.connectionId with
  | none => (store, .notFound)
  | some current =>
    if current.fingerprint env ≠ write.expectedFingerprint then (store, .changed)
    else if jobs.connection write.connectionId then (store, .modelJobActive)
    else (store.verifyConnection write now, .applied)

def finishRoleConformance (store : ProviderStore) (write : ProviderConformanceWrite) (now : ℤ) :
    ProviderStore × ProviderMutationOutcome :=
  match store.role write.roleId with
  | none => (store, .roleChanged)
  | some role =>
    if role.configurationFingerprint env ≠ write.expectedRoleConfigurationFingerprint then
      (store, .roleChanged)
    else
      match store.connection role.connectionId with
      | none => (store, .connectionChanged)
      | some connection =>
        if connection.fingerprint env ≠ write.expectedConnectionFingerprint then
          (store, .connectionChanged)
        else if jobs.role write.roleId then (store, .modelJobActive)
        else (store.testRole write now, .applied)

def saveModelRole (store : ProviderStore) (expectedConnectionFingerprint : String)
    (role : ModelRoleRecord) (resetEvaluations : Bool) : ProviderStore × ProviderMutationOutcome :=
  match store.connection role.connectionId with
  | none => (store, .notFound)
  | some connection =>
    if connection.fingerprint env ≠ expectedConnectionFingerprint then (store, .changed)
    else if jobs.role role.roleId || (siblingRole role.roleId).any jobs.role then
      (store, .roleModelJobActive)
    else (store.saveRole role resetEvaluations, .applied)

def deleteModelRole (store : ProviderStore) (roleId : String) :
    ProviderStore × ProviderMutationOutcome :=
  if (store.role roleId).isNone then (store, .notFound)
  else if jobs.role roleId then (store, .roleModelJobActive)
  else (store.deleteRole roleId, .applied)

def resetProviderCredentials (store : ProviderStore) : ProviderStore × ProviderMutationOutcome :=
  if jobs.anywhere then (store, .modelJobActive) else (store.resetCredentials, .applied)

/-! ## What the statements leave -/

section Queries

variable {store : ProviderStore} {id other : String}

theorem connection_id {connection : ProviderConnectionRecord}
    (h : store.connection id = some connection) : connection.id = id :=
  KeyedRows.key_of_find h

theorem role_id {role : ModelRoleRecord} (h : store.role id = some role) : role.roleId = id :=
  KeyedRows.key_of_find h

@[simp] theorem role_resetRolesForConnection :
    (store.resetRolesForConnection other).role id = (store.role id).map fun role =>
      if role.connectionId = other then role.resetConformance else role := by
  refine KeyedRows.find_map _ (fun role => ?_) store.roles id
  split
  · rfl
  · rfl

theorem connection_updateConnection_self
    (change : ProviderConnectionRecord → ProviderConnectionRecord)
    (hchange : ∀ connection, connection.id = id → (change connection).id = id) :
    (store.updateConnection id change).connection id = (store.connection id).map change :=
  KeyedRows.find_update_self change hchange store.connections

theorem connection_updateConnection_of_ne
    (change : ProviderConnectionRecord → ProviderConnectionRecord)
    (hchange : ∀ connection, connection.id = id → (change connection).id = id)
    (hother : other ≠ id) :
    (store.updateConnection id change).connection other = store.connection other :=
  KeyedRows.find_update_of_ne change hchange hother store.connections

theorem role_putRole_self (role : ModelRoleRecord) :
    (store.putRole role).role role.roleId = some role :=
  KeyedRows.find_upsert_self role store.roles

theorem role_putRole_of_ne {role : ModelRoleRecord} (hother : other ≠ role.roleId) :
    (store.putRole role).role other = store.role other :=
  KeyedRows.find_upsert_of_ne role store.roles hother

theorem connection_createConnection_self {record : ProviderConnectionRecord}
    (hnew : store.connection record.id = none) :
    (store.createConnection record).connection record.id = some record := by
  unfold connection createConnection at *
  rw [KeyedRows.find_append_new, hnew, if_pos rfl, Option.none_or]

theorem connection_createConnection_of_ne {record : ProviderConnectionRecord}
    (hother : other ≠ record.id) :
    (store.createConnection record).connection other = store.connection other := by
  unfold connection createConnection
  rw [KeyedRows.find_append_new, if_neg hother.symm, Option.or_none]

theorem role_testRole_self (write : ProviderConformanceWrite) (now : ℤ) :
    (store.testRole write now).role write.roleId =
      (store.role write.roleId).map (write.onto now) := by
  unfold role testRole
  refine KeyedRows.find_update_self (write.onto now) ?_ store.roles
  exact fun _ hsame => hsame

theorem role_testRole_of_ne {write : ProviderConformanceWrite} (now : ℤ)
    (hother : other ≠ write.roleId) : (store.testRole write now).role other = store.role other := by
  unfold role testRole
  refine KeyedRows.find_update_of_ne (write.onto now) ?_ hother store.roles
  exact fun _ hsame => hsame

theorem connection_resetCredentials :
    store.resetCredentials.connection id = (store.connection id).map (·.clearCredential) := by
  unfold connection resetCredentials
  refine KeyedRows.find_map (·.clearCredential) ?_ store.connections id
  exact fun _ => rfl

theorem role_resetCredentials :
    store.resetCredentials.role id = (store.role id).map (·.resetConformance) := by
  unfold role resetCredentials
  refine KeyedRows.find_map (·.resetConformance) ?_ store.roles id
  exact fun _ => rfl

end Queries

/-! ## What the transactions do -/

section Outcomes

variable {env : ProviderEnvironment} {jobs : ActiveModelJobs} (store : ProviderStore)

/-- A transaction writes and is applied, or leaves the store. -/
def Commits (store : ProviderStore) (transaction : ProviderStore × ProviderMutationOutcome)
    (admitted : Prop) (written : ProviderStore) : Prop :=
  transaction.2 = .applied ∧ admitted ∧ transaction.1 = written ∨
    transaction.2 ≠ .applied ∧ transaction.1 = store

theorem createProviderConnection_commits (record : ProviderConnectionRecord) :
    store.Commits (store.createProviderConnection env record)
      (store.connection record.id = none) (store.createConnection record) := by
  unfold createProviderConnection
  split
  · exact Or.inr ⟨by simp, rfl⟩
  · split
    · exact Or.inr ⟨by simp, rfl⟩
    · rename_i hnew
      exact Or.inl ⟨rfl, by simpa using hnew, rfl⟩

theorem replaceProviderConnection_commits (expectedFingerprint : String)
    (record : ProviderConnectionRecord) (resetDependents : Bool) :
    store.Commits
      (store.replaceProviderConnection env jobs expectedFingerprint record resetDependents)
      (∃ current, store.connection record.id = some current)
      (store.replaceConnection record resetDependents) := by
  unfold replaceProviderConnection
  split
  · exact Or.inr ⟨by simp, rfl⟩
  · rename_i current hcurrent
    repeat' split
    · exact Or.inr ⟨by simp, rfl⟩
    · exact Or.inr ⟨by simp, rfl⟩
    · exact Or.inr ⟨by simp, rfl⟩
    · exact Or.inl ⟨rfl, ⟨current, hcurrent⟩, rfl⟩

theorem deleteProviderConnection_commits (id : String) :
    store.Commits (store.deleteProviderConnection jobs id)
      (∀ role ∈ store.roles, role.connectionId ≠ id) (store.deleteConnection id) := by
  unfold deleteProviderConnection
  repeat' split
  · exact Or.inr ⟨by simp, rfl⟩
  · exact Or.inr ⟨by simp, rfl⟩
  · exact Or.inr ⟨by simp, rfl⟩
  · rename_i hassigned
    exact Or.inl ⟨rfl, by simpa using hassigned, rfl⟩

theorem clearProviderCredential_commits (id : String) :
    store.Commits (store.clearProviderCredential jobs id)
      (∃ current, store.connection id = some current) (store.clearCredential id) := by
  unfold clearProviderCredential
  repeat' split
  · exact Or.inr ⟨by simp, rfl⟩
  · exact Or.inr ⟨by simp, rfl⟩
  · rename_i hsome _
    exact Or.inl ⟨rfl, by simpa [Option.isNone_iff_eq_none, Option.ne_none_iff_exists'] using hsome,
      rfl⟩

theorem finishProviderVerification_commits (write : ProviderVerificationWrite) (now : ℤ) :
    store.Commits (store.finishProviderVerification env jobs write now)
      (∃ current, store.connection write.connectionId = some current)
      (store.verifyConnection write now) := by
  unfold finishProviderVerification
  split
  · exact Or.inr ⟨by simp, rfl⟩
  · rename_i current hcurrent
    repeat' split
    · exact Or.inr ⟨by simp, rfl⟩
    · exact Or.inr ⟨by simp, rfl⟩
    · exact Or.inl ⟨rfl, ⟨current, hcurrent⟩, rfl⟩

theorem finishRoleConformance_commits (write : ProviderConformanceWrite) (now : ℤ) :
    store.Commits (store.finishRoleConformance env jobs write now)
      (∃ current, store.role write.roleId = some current) (store.testRole write now) := by
  unfold finishRoleConformance
  split
  · exact Or.inr ⟨by simp, rfl⟩
  · rename_i current hcurrent
    split
    · exact Or.inr ⟨by simp, rfl⟩
    · split
      · exact Or.inr ⟨by simp, rfl⟩
      · repeat' split
        · exact Or.inr ⟨by simp, rfl⟩
        · exact Or.inr ⟨by simp, rfl⟩
        · exact Or.inl ⟨rfl, ⟨current, hcurrent⟩, rfl⟩

theorem saveModelRole_commits (expectedConnectionFingerprint : String) (role : ModelRoleRecord)
    (resetEvaluations : Bool) :
    store.Commits
      (store.saveModelRole env jobs expectedConnectionFingerprint role resetEvaluations)
      (∃ connection, store.connection role.connectionId = some connection)
      (store.saveRole role resetEvaluations) := by
  unfold saveModelRole
  split
  · exact Or.inr ⟨by simp, rfl⟩
  · rename_i connection hconnection
    repeat' split
    · exact Or.inr ⟨by simp, rfl⟩
    · exact Or.inr ⟨by simp, rfl⟩
    · exact Or.inl ⟨rfl, ⟨connection, hconnection⟩, rfl⟩

theorem deleteModelRole_commits (roleId : String) :
    store.Commits (store.deleteModelRole jobs roleId) True (store.deleteRole roleId) := by
  unfold deleteModelRole
  repeat' split
  · exact Or.inr ⟨by simp, rfl⟩
  · exact Or.inr ⟨by simp, rfl⟩
  · exact Or.inl ⟨rfl, trivial, rfl⟩

theorem resetProviderCredentials_commits :
    store.Commits (store.resetProviderCredentials jobs) True store.resetCredentials := by
  unfold resetProviderCredentials
  split
  · exact Or.inr ⟨by simp, rfl⟩
  · exact Or.inl ⟨rfl, trivial, rfl⟩

end Outcomes

end ProviderStore

end Providers

end MusicServer
