/-
# Every stored key can be decrypted

Each ciphertext was made with the master key that is configured, for its own connection or
source.  The key file changes only in the hands of `initialize` and `reset`, which have the lock
to write, and then no ciphertext is stored, handed over or about to be.
-/
import MusicServer.CredentialKeys
import MusicServer.ProviderUpdates
import MusicServer.Transition

namespace MusicServer.Credentials

open FairRwLock Providers Transition

variable {Key : Type} (vault : Vault Key)

/-! ## Ciphertexts and keys -/

/-- The ciphertext was made under this nonce with the key, for the connection or source. -/
def Made (key : Option Key) (subject ciphertext nonce : String) : Prop :=
  ∃ key', key = some key' ∧ ∃ apiKey drawn credential,
    vault.encrypt key' subject apiKey drawn = .ok credential ∧
    credential.ciphertext = ciphertext ∧ credential.nonce = nonce

def ConnectionMatches (key : Option Key) (connection : Providers.ProviderConnectionRecord) : Prop :=
  connection.encryptedApiKey ≠ "" ∨ connection.apiKeyNonce ≠ "" →
    Made vault key connection.id connection.encryptedApiKey connection.apiKeyNonce

def SourceMatches (key : Option Key) (source : SourceCredential) : Prop :=
  ∃ subject, cleanupSourceCredentialSubject source.sourceId = some subject ∧
    Made vault key subject source.credential.ciphertext source.credential.nonce

/-- Every stored ciphertext was made with the key, for its own connection or source. -/
structure TablesMatch (key : Option Key) (tables : CredentialTables) : Prop where
  connections : ∀ connection ∈ tables.providers.connections, ConnectionMatches vault key connection
  sources : ∀ source ∈ tables.sources, SourceMatches vault key source

/-- A transaction brings in no ciphertext of another key. -/
def WriteMatches (key : Option Key) : StoreWrite → Prop
  | .createConnection record => ConnectionMatches vault key record
  | .replaceConnection read replacement _ =>
    replacement.id = read.id ∧
      (replacement.encryptedApiKey = read.encryptedApiKey ∧
          replacement.apiKeyNonce = read.apiKeyNonce ∨
        ConnectionMatches vault key replacement)
  | .storeSource source => SourceMatches vault key source
  | _ => True

variable {vault}

theorem not_made_none {subject ciphertext nonce : String} :
    ¬ Made vault none subject ciphertext nonce := by
  rintro ⟨key, hkey, -⟩
  cases hkey

theorem ConnectionMatches.of_none {connection : Providers.ProviderConnectionRecord}
    (h : ConnectionMatches vault none connection) (key : Option Key) :
    ConnectionMatches vault key connection := fun hsaved => absurd (h hsaved) not_made_none

theorem TablesMatch.of_none {tables : CredentialTables} (h : TablesMatch vault none tables)
    (key : Option Key) : TablesMatch vault key tables := by
  refine ⟨fun connection hmem => (h.connections connection hmem).of_none key, fun source hmem => ?_⟩
  obtain ⟨subject, -, hmade⟩ := h.sources source hmem
  exact absurd hmade not_made_none

theorem WriteMatches.of_none {write : StoreWrite} (h : WriteMatches vault none write)
    (key : Option Key) : WriteMatches vault key write := by
  cases write with
  | createConnection record => exact ConnectionMatches.of_none h key
  | replaceConnection read replacement resets =>
    exact ⟨h.1, h.2.imp_right fun hrecord => hrecord.of_none key⟩
  | storeSource source =>
    obtain ⟨subject, -, hmade⟩ := h
    exact absurd hmade not_made_none
  | clearCredential id | deleteConnection id | clearSource sourceId | resetCredentials => trivial

theorem TablesMatch.savedCredentialsExist {tables : CredentialTables}
    (h : TablesMatch vault none tables) : tables.savedCredentialsExist = false := by
  have hconnections : ∀ connection ∈ tables.providers.connections,
      connection.encryptedApiKey = "" ∧ connection.apiKeyNonce = "" := by
    intro connection hmem
    by_contra hsaved
    exact not_made_none (h.connections connection hmem (by
      by_cases hkey : connection.encryptedApiKey = ""
      · exact .inr fun hnonce => hsaved ⟨hkey, hnonce⟩
      · exact .inl hkey))
  have hsources : tables.sources = [] := by
    refine List.eq_nil_iff_forall_not_mem.mpr fun source hmem => ?_
    obtain ⟨subject, -, hmade⟩ := h.sources source hmem
    exact not_made_none hmade
  unfold CredentialTables.savedCredentialsExist
  rw [hsources, List.isEmpty_nil, Bool.not_true, Bool.or_false]
  refine List.any_eq_false.mpr fun connection hmem => ?_
  obtain ⟨hkey, hnonce⟩ := hconnections connection hmem
  simp [hkey, hnonce]

/-! ## Transactions -/

section Transactions

variable {env : ProviderEnvironment} {key : Option Key} {tables : CredentialTables}

/-- The digest keeps apart what a replacement was worked out from and what it replaces. -/
def Distinct (env : ProviderEnvironment) (tables : CredentialTables) : StoreWrite → Prop
  | .replaceConnection read replacement _ =>
    ∀ current, tables.providers.connection replacement.id = some current →
      current.fingerprint env = read.fingerprint env →
        current.encryptedApiKey = read.encryptedApiKey ∧ current.apiKeyNonce = read.apiKeyNonce
  | _ => True

theorem mem_update {ρ κ : Type} [DecidableEq κ] {keyOf : ρ → κ} {k : κ} {change : ρ → ρ}
    {rows : List ρ} {row : ρ} (h : row ∈ KeyedRows.update keyOf k change rows) :
    row ∈ rows ∨ ∃ before ∈ rows, keyOf before = k ∧ row = change before := by
  obtain ⟨before, hmem, hrow⟩ := List.mem_map.mp h
  split at hrow
  · next hkey => exact .inr ⟨before, hmem, hkey, hrow.symm⟩
  · exact .inl (hrow ▸ hmem)

theorem matches_clearCredential (connection : Providers.ProviderConnectionRecord) :
    ConnectionMatches vault key connection.clearCredential := fun hsaved =>
  hsaved.elim (fun h => absurd rfl h) fun h => absurd rfl h

theorem TablesMatch.of_connections {connections : List Providers.ProviderConnectionRecord}
    {providers : ProviderStore} (h : TablesMatch vault key tables)
    (heq : providers.connections = connections)
    (hconnections : ∀ connection ∈ connections, ConnectionMatches vault key connection) :
    TablesMatch vault key { tables with providers := providers } :=
  ⟨by rw [heq]; exact hconnections, h.sources⟩

theorem TablesMatch.createConnection (h : TablesMatch vault key tables)
    {record : Providers.ProviderConnectionRecord} (hrecord : ConnectionMatches vault key record) :
    TablesMatch vault key
      { tables with providers := (tables.providers.createProviderConnection env record).1 } := by
  unfold ProviderStore.createProviderConnection
  split
  · exact h
  · split
    · exact h
    · refine h.of_connections rfl fun connection hmem => ?_
      rcases List.mem_append.mp hmem with hmem | hmem
      · exact h.connections connection hmem
      · rw [List.mem_singleton.mp hmem]
        exact hrecord

theorem TablesMatch.replaceConnection (h : TablesMatch vault key tables)
    {read replacement : Providers.ProviderConnectionRecord} {resets : Bool}
    (hwrite : WriteMatches vault key (.replaceConnection read replacement resets))
    (hdistinct : Distinct env tables (.replaceConnection read replacement resets))
    (jobs : ActiveModelJobs) :
    TablesMatch vault key { tables with
      providers := (tables.providers.replaceProviderConnection env jobs (read.fingerprint env)
        replacement resets).1 } := by
  unfold ProviderStore.replaceProviderConnection
  split
  · exact h
  · next current hcurrent =>
    split
    · exact h
    · next hfingerprint =>
      have hsame : current.fingerprint env = read.fingerprint env := by
        by_contra hne
        exact hfingerprint hne
      have hrecord : ConnectionMatches vault key replacement := by
        rcases hwrite.2 with ⟨hkey, hnonce⟩ | hrecord
        · obtain ⟨hkey', hnonce'⟩ := hdistinct current hcurrent hsame
          have hid : current.id = replacement.id := ProviderStore.connection_id hcurrent
          have hmatches := h.connections current (KeyedRows.mem_of_find hcurrent)
          unfold ConnectionMatches at hmatches ⊢
          rwa [hkey, hnonce, ← hkey', ← hnonce', ← hid]
        · exact hrecord
      split
      · exact h
      · split
        · exact h
        · have hrows : (tables.providers.replaceConnection replacement resets).connections =
              KeyedRows.update (·.id) replacement.id (fun _ => replacement)
                tables.providers.connections := by
            unfold ProviderStore.replaceConnection
            cases resets <;> rfl
          refine h.of_connections hrows fun connection hmem => ?_
          rcases mem_update hmem with hmem | ⟨before, -, -, rfl⟩
          · exact h.connections connection hmem
          · exact hrecord

theorem TablesMatch.clearConnection (h : TablesMatch vault key tables) (jobs : ActiveModelJobs)
    (id : String) :
    TablesMatch vault key
      { tables with providers := (tables.providers.clearProviderCredential jobs id).1 } := by
  unfold ProviderStore.clearProviderCredential
  split
  · exact h
  · split
    · exact h
    · refine h.of_connections rfl fun connection hmem => ?_
      rcases mem_update hmem with hmem | ⟨before, -, -, rfl⟩
      · exact h.connections connection hmem
      · exact matches_clearCredential before

theorem TablesMatch.deleteConnection (h : TablesMatch vault key tables) (jobs : ActiveModelJobs)
    (id : String) :
    TablesMatch vault key
      { tables with providers := (tables.providers.deleteProviderConnection jobs id).1 } := by
  unfold ProviderStore.deleteProviderConnection
  split
  · exact h
  · split
    · exact h
    · split
      · exact h
      · exact h.of_connections rfl fun connection hmem =>
          h.connections connection (List.mem_of_mem_filter hmem)

theorem TablesMatch.transact (h : TablesMatch vault key tables) {write : StoreWrite}
    (hwrite : WriteMatches vault key write) (hdistinct : Distinct env tables write)
    (jobs : ActiveModelJobs) : TablesMatch vault key (tables.transact env jobs write).1 := by
  cases write with
  | createConnection record => exact h.createConnection hwrite
  | replaceConnection read replacement resets => exact h.replaceConnection hwrite hdistinct jobs
  | clearCredential id => exact h.clearConnection jobs id
  | deleteConnection id => exact h.deleteConnection jobs id
  | storeSource source =>
    refine ⟨h.connections, fun other hmem => ?_⟩
    have hmem : other ∈ KeyedRows.upsert (·.sourceId) source tables.sources := hmem
    unfold KeyedRows.upsert at hmem
    split at hmem
    · rcases mem_update hmem with hmem | ⟨before, -, -, rfl⟩
      · exact h.sources other hmem
      · exact hwrite
    · rcases List.mem_append.mp hmem with hmem | hmem
      · exact h.sources other hmem
      · rw [List.mem_singleton.mp hmem]
        exact hwrite
  | clearSource sourceId =>
    exact ⟨h.connections, fun other hmem => h.sources other (List.mem_of_mem_filter hmem)⟩
  | resetCredentials =>
    unfold CredentialTables.transact ProviderStore.resetProviderCredentials
    cases jobs.anywhere with
    | true => exact h
    | false =>
      refine ⟨fun connection hmem => ?_, fun source hmem => by cases hmem⟩
      obtain ⟨before, -, rfl⟩ := List.mem_map.mp hmem
      exact matches_clearCredential before

theorem matches_of_reset (jobs : ActiveModelJobs)
    (happlied : (tables.transact env jobs .resetCredentials).2 = true) :
    TablesMatch vault none (tables.transact env jobs .resetCredentials).1 := by
  unfold CredentialTables.transact ProviderStore.resetProviderCredentials at happlied ⊢
  cases hjobs : jobs.anywhere with
  | true => simp [hjobs] at happlied
  | false =>
    refine ⟨fun connection hmem => ?_, fun source hmem => by cases hmem⟩
    obtain ⟨before, -, rfl⟩ := List.mem_map.mp hmem
    exact matches_clearCredential before

end Transactions

/-! ## What requests write -/

section Requests

variable {env : ProviderEnvironment} {key : Key}

theorem record_credential {request : ProviderConnectionCreate} {id : String}
    {encrypted : Except String EncryptedProviderCredential} {record : Providers.ProviderConnectionRecord}
    (h : request.record env id encrypted = .ok record) :
    ∃ credential, encrypted = .ok credential ∧ record.id = id ∧
      record.encryptedApiKey = credential.ciphertext ∧ record.apiKeyNonce = credential.nonce := by
  unfold ProviderConnectionCreate.record at h
  obtain ⟨name, -, h⟩ := bind_eq_ok.mp h
  obtain ⟨adapterId, -, h⟩ := bind_eq_ok.mp h
  obtain ⟨baseUrl, -, h⟩ := bind_eq_ok.mp h
  obtain ⟨-, -, h⟩ := bind_eq_ok.mp h
  obtain ⟨-, -, h⟩ := bind_eq_ok.mp h
  obtain ⟨url, -, h⟩ := bind_eq_ok.mp h
  obtain ⟨credential, hcredential, h⟩ := bind_eq_ok.mp h
  cases encrypted with
  | error code => cases hcredential
  | ok sealed =>
    cases hcredential
    cases h
    exact ⟨credential, rfl, rfl, rfl, rfl⟩

theorem replacement_credential {patch : ProviderConnectionPatch}
    {current next : Providers.ProviderConnectionRecord} {resets : Bool}
    {encrypted : Except String EncryptedProviderCredential}
    (h : patch.replacement env current encrypted = .ok (next, resets)) :
    next.id = current.id ∧
      (next.encryptedApiKey = current.encryptedApiKey ∧ next.apiKeyNonce = current.apiKeyNonce ∨
        patch.apiKey.isSome ∧ ∃ credential, encrypted = .ok credential ∧
          next.encryptedApiKey = credential.ciphertext ∧
          next.apiKeyNonce = credential.nonce) := by
  obtain ⟨baseUrl, credential, hplan, -, rfl⟩ := ProviderConnectionPatch.replacement_ok h
  have hmerged : (if resets then (patch.merged current baseUrl credential).resetVerification
      else patch.merged current baseUrl credential).id = current.id ∧
      (if resets then (patch.merged current baseUrl credential).resetVerification
        else patch.merged current baseUrl credential).encryptedApiKey =
        (patch.merged current baseUrl credential).encryptedApiKey ∧
      (if resets then (patch.merged current baseUrl credential).resetVerification
        else patch.merged current baseUrl credential).apiKeyNonce =
        (patch.merged current baseUrl credential).apiKeyNonce := by
    cases resets <;> exact ⟨rfl, rfl, rfl⟩
  refine ⟨hmerged.1, ?_⟩
  rw [hmerged.2.1, hmerged.2.2]
  unfold ProviderConnectionPatch.merged
  by_cases hkey : patch.apiKey.isSome
  · have hencrypted : encrypted = .ok credential := by
      unfold ProviderConnectionPatch.plan at hplan
      split at hplan
      · cases hplan
      · split at hplan
        · cases hplan
        · split at hplan
          · cases hplan
          · split at hplan
            · cases hplan
            · cases hplan
              rfl
    exact .inr ⟨hkey, credential, hencrypted, by simp [hkey], by simp [hkey]⟩
  · exact .inl ⟨by simp [hkey], by simp [hkey]⟩

theorem matches_of_sealing {sealing : Sealing} {nonce : String} {write : StoreWrite}
    (h : sealing.write vault env key nonce = .ok write) :
    WriteMatches vault (some key) write ∧ write ≠ .resetCredentials := by
  cases sealing with
  | create id request =>
    simp only [Sealing.write] at h
    split at h
    · cases h
    · next record hrecord =>
      cases h
      obtain ⟨credential, hsealed, hid, hkey, hnonce⟩ := record_credential hrecord
      refine ⟨fun _ => ⟨key, rfl, request.apiKey, nonce, credential, ?_, hkey.symm, hnonce.symm⟩,
        by simp⟩
      rw [hid]
      exact hsealed
  | update current patch =>
    simp only [Sealing.write] at h
    split at h
    · cases h
    · next replacement resets hreplacement =>
      cases h
      obtain ⟨hid, hkept | ⟨-, credential, hsealed, hkey, hnonce⟩⟩ :=
        replacement_credential hreplacement
      · exact ⟨⟨hid, .inl hkept⟩, by simp⟩
      · refine ⟨⟨hid, .inr fun _ =>
          ⟨key, rfl, patch.apiKey.getD "", nonce, credential, ?_, hkey.symm, hnonce.symm⟩⟩,
          by simp⟩
        rw [hid]
        exact hsealed
  | source sourceId apiKey =>
    simp only [Sealing.write] at h
    split at h
    · cases h
    · next subject hsubject =>
      split at h
      · cases h
      · next credential hsealed =>
        cases h
        exact ⟨⟨subject, hsubject, key, rfl, apiKey, nonce, credential, hsealed, rfl, rfl⟩,
          by simp⟩

/-- The phases in which a task has nothing to do with the tables or the key file. -/
def Phase.Plain : Phase → Prop
  | .writing _ | .awaiting | .installing _ | .removing => False
  | _ => True

theorem begin_cases (tables : CredentialTables) (request : CredentialRequest) :
    (request.begin env tables).Plain ∨
      ∃ write, request.begin env tables = .writing write ∧ WriteMatches vault none write ∧
        write ≠ .resetCredentials := by
  cases request with
  | createConnection id request =>
    simp only [CredentialRequest.begin]
    split
    · exact .inl trivial
    · exact .inl trivial
  | updateConnection id patch =>
    simp only [CredentialRequest.begin]
    split
    · next patch _ _ =>
      split
      · exact .inl trivial
      · next current _ =>
        split
        · exact .inl trivial
        · next replacement resets hreplacement =>
          split
          · exact .inl trivial
          · next hkey =>
            refine .inr ⟨_, rfl, ?_, by simp⟩
            obtain ⟨hid, hkept | ⟨hsome, -⟩⟩ := replacement_credential hreplacement
            · exact ⟨hid, .inl hkept⟩
            · exact absurd hsome hkey
    · exact .inl trivial
  | deleteConnection id | deleteConnectionCredential id | deleteCredential sourceId =>
    simp only [CredentialRequest.begin]
    split
    · exact .inl trivial
    · exact .inr ⟨_, rfl, trivial, by simp⟩
  | saveCredential sourceId apiKey =>
    simp only [CredentialRequest.begin]
    split
    · exact .inl trivial
    · split
      · exact .inl trivial
      · exact .inl trivial
  | initializeStorage | resetStorage => exact .inl trivial

end Requests

end MusicServer.Credentials
