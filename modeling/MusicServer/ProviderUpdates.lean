/-
# What a provider mutation leaves as it was

A mutation whose write finds what it took from its read as it was is one atomic change of the
record it replaces: every field that its request does not set is left, and the writes applied in a
run are the same as if each had been made alone, one after another.
-/
import MusicServer.ProviderService
import MusicServer.Reduce

namespace MusicServer

namespace Providers

variable {env : ProviderEnvironment}

/-! ## The replacement of a connection -/

namespace ProviderConnectionPatch

variable {patch : ProviderConnectionPatch} {current : ProviderConnectionRecord}
  {encrypted : Except String EncryptedProviderCredential}

theorem plan_congr {found read : ProviderConnectionRecord} (hadapter : found.adapterId = read.adapterId)
    (hurl : found.baseUrl = read.baseUrl) (hkey : found.encryptedApiKey = read.encryptedApiKey)
    (hnonce : found.apiKeyNonce = read.apiKeyNonce)
    (hnetwork : found.allowPrivateNetwork = read.allowPrivateNetwork) :
    patch.plan env found encrypted = patch.plan env read encrypted := by
  unfold plan ProviderConnectionRecord.credentialSaved
  rw [hadapter, hurl, hkey, hnonce, hnetwork]

theorem fields_of_taken {found read : ProviderConnectionRecord} {reset : Bool}
    (htaken : patch.taken reset found = patch.taken reset read) :
    found.id = read.id ∧ found.adapterId = read.adapterId ∧ found.baseUrl = read.baseUrl ∧
      found.encryptedApiKey = read.encryptedApiKey ∧ found.apiKeyNonce = read.apiKeyNonce ∧
      found.apiKeyHint = read.apiKeyHint ∧
      found.allowPrivateNetwork = read.allowPrivateNetwork ∧
      patch.name.getD found.name = patch.name.getD read.name := by
  have hname : patch.name.getD found.name = patch.name.getD read.name := by
    have htext := congrArg (·.name) htaken
    cases hset : patch.name with
    | none =>
      cases reset <;>
        simpa [taken, hset, ProviderConnectionRecord.resetVerification] using htext
    | some name => rfl
  cases reset
  · refine ⟨congrArg (·.id) htaken, congrArg (·.adapterId) htaken, congrArg (·.baseUrl) htaken,
      congrArg (·.encryptedApiKey) htaken, congrArg (·.apiKeyNonce) htaken,
      congrArg (·.apiKeyHint) htaken, congrArg (·.allowPrivateNetwork) htaken, hname⟩
  · refine ⟨congrArg (·.id) htaken, congrArg (·.adapterId) htaken, congrArg (·.baseUrl) htaken,
      congrArg (·.encryptedApiKey) htaken, congrArg (·.apiKeyNonce) htaken,
      congrArg (·.apiKeyHint) htaken, congrArg (·.allowPrivateNetwork) htaken, hname⟩

theorem replacement_of_taken {found read next : ProviderConnectionRecord} {reset : Bool}
    (hread : patch.replacement env read encrypted = .ok (next, reset))
    (htaken : patch.taken reset found = patch.taken reset read) :
    patch.replacement env found encrypted = .ok (next, reset) := by
  obtain ⟨hid, hadapter, hurl, hkey, hnonce, hhint, hnetwork, hname⟩ := fields_of_taken htaken
  have hplan : patch.plan env found encrypted = patch.plan env read encrypted :=
    plan_congr hadapter hurl hkey hnonce hnetwork
  unfold replacement at hread ⊢
  rw [hplan]
  split at hread
  · cases hread
  · rename_i baseUrl credential _
    dsimp only at hread ⊢
    have hsettings : (patch.merged found baseUrl credential).settings =
        (patch.merged read baseUrl credential).settings := by
      simp only [merged, ProviderConnectionRecord.settings, hadapter, hkey, hnonce, hnetwork]
    have hcurrent : found.settings = read.settings := by
      simp only [ProviderConnectionRecord.settings, hadapter, hurl, hkey, hnonce, hnetwork]
    rw [hsettings, hcurrent]
    split at hread
    · rename_i hchanged
      cases hread
      rw [if_pos hchanged]
      simp only [merged, ProviderConnectionRecord.resetVerification, hid, hname, hadapter, hkey,
        hnonce, hhint, hnetwork]
    · rename_i hsame
      cases hread
      rw [if_neg hsame]
      have hstatus := congrArg (·.verificationStatus) htaken
      have herror := congrArg (·.verificationErrorCode) htaken
      have hmodels := congrArg (·.verifiedModels) htaken
      have hcapabilities := congrArg (·.verifiedCapabilityIds) htaken
      have hlast := congrArg (·.lastVerifiedAt) htaken
      simp only [taken, Bool.false_eq_true, if_false] at hstatus herror hmodels hcapabilities hlast
      simp only [merged, hid, hname, hadapter, hkey, hnonce, hhint, hnetwork, hstatus, herror,
        hmodels, hcapabilities, hlast]

theorem replacement_ok {next : ProviderConnectionRecord} {reset : Bool}
    (h : patch.replacement env current encrypted = .ok (next, reset)) :
    ∃ baseUrl credential, patch.plan env current encrypted = .ok (baseUrl, credential) ∧
      reset = decide ((patch.merged current baseUrl credential).settings ≠ current.settings) ∧
      next = if reset then (patch.merged current baseUrl credential).resetVerification
        else patch.merged current baseUrl credential := by
  unfold replacement at h
  split at h
  · cases h
  · rename_i baseUrl credential hplan
    dsimp only at h
    refine ⟨baseUrl, credential, hplan, ?_⟩
    split at h
    · rename_i hchanged
      cases h
      exact ⟨(decide_eq_true hchanged).symm, rfl⟩
    · rename_i hsame
      cases h
      exact ⟨(decide_eq_false hsame).symm, rfl⟩

theorem baseUrl_of_plan {baseUrl : String} {credential : EncryptedProviderCredential}
    (h : patch.plan env current encrypted = .ok (baseUrl, credential)) :
    env.normalizeBaseUrl (patch.adapterId.getD current.adapterId)
      (patch.baseUrl.getD current.baseUrl)
      (patch.allowPrivateNetwork.getD current.allowPrivateNetwork) = .ok baseUrl := by
  unfold plan at h
  split at h
  · cases h
  · split at h
    · cases h
    · split at h
      · cases h
      · rename_i url hurl
        split at h
        · split at h
          · cases h
          · cases h
            exact hurl
        · cases h
          exact hurl

end ProviderConnectionPatch

theorem ModelRoleUpdate.runtimeChanged_of_taken {request : ModelRoleUpdate}
    {found read : Option ModelRoleRecord} (htaken : request.taken found = request.taken read) :
    request.runtimeChanged found = request.runtimeChanged read := by
  have hsome : ∀ current, request.runtimeChanged current = !(request.taken current).isSome := by
    intro current
    cases current with
    | none => rfl
    | some record => cases hchanged : request.runtimeChanged (some record) <;> simp [taken, hchanged]
  rw [hsome, hsome, htaken]

theorem ModelRoleUpdate.record_of_taken {request : ModelRoleUpdate} {roleId : String}
    {found read : Option ModelRoleRecord} (htaken : request.taken found = request.taken read) :
    request.record roleId found = request.record roleId read := by
  have hchanged := runtimeChanged_of_taken htaken
  unfold record
  rw [hchanged]
  cases hread : request.runtimeChanged read with
  | true => rfl
  | false =>
    rw [hread] at hchanged
    simp only [taken, hchanged, hread, Bool.false_eq_true, if_false] at htaken ⊢
    cases found with
    | none => cases hchanged
    | some found =>
      cases read with
      | none => cases hread
      | some read =>
        simp only [Option.map_some, Option.some.injEq, Prod.mk.injEq] at htaken
        obtain ⟨hstatus, herror, hfingerprint, hlast⟩ := htaken
        simp only [Option.map_some, Option.bind_some, hstatus, herror, hfingerprint, hlast]

/-! ## The writes alone -/

/-- A write made alone: what was asked for, worked out from the store it is made on. -/
def ProviderWrite.apply (env : ProviderEnvironment) (store : ProviderStore) :
    ProviderWrite → ProviderStore
  | .createConnection record => store.createConnection record
  | .replaceConnection id patch encrypted =>
    match store.connection id with
    | none => store
    | some found =>
      match patch.replacement env found encrypted with
      | .error _ => store
      | .ok (next, reset) => store.replaceConnection next reset
  | .deleteConnection id => store.deleteConnection id
  | .clearCredential id => store.clearCredential id
  | .verifyConnection write now => store.verifyConnection write now
  | .testRole write now => store.testRole write now
  | .saveRole roleId request =>
    store.saveRole (request.record roleId (store.role roleId))
      (request.runtimeChanged (store.role roleId))
  | .deleteRole roleId => store.deleteRole roleId
  | .resetCredentials => store.resetCredentials

/-- What a store meets when a write is applied to it. -/
def ProviderWrite.Admitted (env : ProviderEnvironment) (store : ProviderStore) :
    ProviderWrite → Prop
  | .createConnection record => store.connection record.id = none ∧
      record.verificationStatus = "never" ∧
      ∃ adapterId raw network, env.normalizeBaseUrl adapterId raw network = .ok record.baseUrl
  | .replaceConnection id patch encrypted => ∃ found next reset, store.connection id = some found ∧
      patch.replacement env found encrypted = .ok (next, reset)
  | .deleteConnection id => ∀ role ∈ store.roles, role.connectionId ≠ id
  | .clearCredential id => ∃ found, store.connection id = some found
  | .verifyConnection write _ => ∃ found, store.connection write.connectionId = some found
  | .testRole write _ => ∃ found, store.role write.roleId = some found
  | .saveRole _ request => ∃ connection, store.connection request.connectionId = some connection
  | .deleteRole _ => True
  | .resetCredentials => True

/-- A replacement that waits to be written was worked out from the record that was read. -/
def ProviderCall.Sound (env : ProviderEnvironment) : ProviderCall → Prop
  | .replacing patch read next reset encrypted =>
    patch.replacement env read encrypted = .ok (next, reset)
  | _ => True

/-- What a step does: the store is left, or an admitted write is made as if alone. -/
structure ProviderStep.Lawful (env : ProviderEnvironment) (store : ProviderStore)
    (step : ProviderStep) : Prop where
  sound : step.call.Sound env
  kept : step.applied = none → step.store = store
  made : ∀ write, step.applied = some write →
    write.Admitted env store ∧ step.store = write.apply env store

theorem lawful_finished (store : ProviderStore) (result : Except ProviderServiceError Unit) :
    ProviderStep.Lawful env store ⟨store, .finished result, none⟩ :=
  ⟨trivial, fun _ => rfl, fun write hwrite => by cases hwrite⟩

theorem lawful_proceed {store : ProviderStore} {next : Except ProviderServiceError ProviderCall}
    (hnext : ∀ call, next = .ok call → call.Sound env) :
    (proceed store next).Lawful env store := by
  unfold proceed
  split
  · rename_i call
    exact ⟨hnext call rfl, fun _ => rfl, fun write hwrite => by cases hwrite⟩
  · exact lawful_finished store _

theorem lawful_commit {store : ProviderStore}
    {transaction : ProviderStore × ProviderMutationOutcome} {admitted : Prop}
    {written : ProviderStore} (h : store.Commits transaction admitted written)
    {write : ProviderWrite} (refusal : ProviderMutationOutcome → ProviderServiceError)
    (hwrite : transaction.2 = .applied → admitted →
      write.Admitted env store ∧ written = write.apply env store) :
    (commit transaction write refusal).Lawful env store := by
  unfold commit
  rcases h with ⟨happlied, hadmitted, hwritten⟩ | ⟨hrefused, hkept⟩
  · rw [if_pos happlied]
    refine ⟨trivial, fun hnone => (by cases hnone), fun other hother => ?_⟩
    cases hother
    obtain ⟨hadmits, hsame⟩ := hwrite happlied hadmitted
    exact ⟨hadmits, hwritten.trans hsame⟩
  · rw [if_neg hrefused]
    exact ⟨trivial, fun _ => hkept, fun other hother => by cases hother⟩

theorem record_of_create {request : ProviderConnectionCreate} {id : String}
    {encrypted : Except String EncryptedProviderCredential} {record : ProviderConnectionRecord}
    (h : request.record env id encrypted = .ok record) :
    record.verificationStatus = "never" ∧
      ∃ adapterId raw network,
        env.normalizeBaseUrl adapterId raw network = .ok record.baseUrl := by
  unfold ProviderConnectionCreate.record at h
  obtain ⟨name, _, h⟩ := bind_eq_ok.mp h
  obtain ⟨adapterId, _, h⟩ := bind_eq_ok.mp h
  obtain ⟨raw, _, h⟩ := bind_eq_ok.mp h
  obtain ⟨_, _, h⟩ := bind_eq_ok.mp h
  obtain ⟨_, _, h⟩ := bind_eq_ok.mp h
  obtain ⟨baseUrl, hurl, h⟩ := bind_eq_ok.mp h
  obtain ⟨credential, _, h⟩ := bind_eq_ok.mp h
  cases h
  refine ⟨rfl, adapterId, raw, request.allowPrivateNetwork, ?_⟩
  cases hnormal : env.normalizeBaseUrl adapterId raw request.allowPrivateNetwork with
  | error code =>
    rw [hnormal] at hurl
    cases hurl
  | ok url =>
    rw [hnormal] at hurl
    cases hurl
    rfl

theorem lawful_request (store : ProviderStore) (input : ProviderInput) (request : ProviderRequest) :
    (request.step env store input).Lawful env store := by
  cases request with
  | createConnection id request =>
    simp only [ProviderRequest.step]
    split
    · exact lawful_finished store _
    · rename_i record hrecord
      exact lawful_commit (store.createProviderConnection_commits record) _ fun _ hnew =>
        ⟨⟨hnew, record_of_create hrecord⟩, rfl⟩
  | updateConnection id patch =>
    refine lawful_proceed fun call hcall => ?_
    obtain ⟨_, _, hcall⟩ := bind_eq_ok.mp hcall
    obtain ⟨patch, _, hcall⟩ := bind_eq_ok.mp hcall
    split at hcall
    · cases hcall
    · obtain ⟨⟨next, reset⟩, hnext, hcall⟩ := bind_eq_ok.mp hcall
      cases hcall
      exact hnext
  | deleteConnection id =>
    simp only [ProviderRequest.step]
    split
    · exact lawful_finished store _
    · exact lawful_commit (store.deleteProviderConnection_commits id) _ fun _ hfree => ⟨hfree, rfl⟩
  | deleteConnectionCredential id =>
    simp only [ProviderRequest.step]
    split
    · exact lawful_finished store _
    · exact lawful_commit (store.clearProviderCredential_commits id) _ fun _ hfound =>
        ⟨hfound, rfl⟩
  | verifyConnection id =>
    refine lawful_proceed fun call hcall => ?_
    obtain ⟨_, _, hcall⟩ := bind_eq_ok.mp hcall
    split at hcall
    · cases hcall
    · obtain ⟨_, _, hcall⟩ := bind_eq_ok.mp hcall
      obtain ⟨_, _, hcall⟩ := bind_eq_ok.mp hcall
      obtain ⟨_, _, hcall⟩ := bind_eq_ok.mp hcall
      cases hcall
      trivial
  | testRole roleId =>
    refine lawful_proceed fun call hcall => ?_
    obtain ⟨_, _, hcall⟩ := bind_eq_ok.mp hcall
    split at hcall
    · cases hcall
    · obtain ⟨_, _, hcall⟩ := bind_eq_ok.mp hcall
      split at hcall
      · cases hcall
      · obtain ⟨_, _, hcall⟩ := bind_eq_ok.mp hcall
        cases hcall
        trivial
  | updateModelRole roleId request =>
    refine lawful_proceed fun call hcall => ?_
    obtain ⟨_, _, hcall⟩ := bind_eq_ok.mp hcall
    obtain ⟨_, _, hcall⟩ := bind_eq_ok.mp hcall
    split at hcall
    · cases hcall
    · obtain ⟨_, _, hcall⟩ := bind_eq_ok.mp hcall
      cases hcall
      trivial
  | deleteModelRole roleId =>
    simp only [ProviderRequest.step]
    split
    · exact lawful_finished store _
    · have hcommits := @ProviderStore.deleteModelRole_commits input.jobs store roleId
      split
      · rename_i hnone
        rcases hcommits with ⟨happlied, _⟩ | ⟨_, hkept⟩
        · rw [hnone] at happlied
          cases happlied
        · rw [hkept]
          exact lawful_finished store _
      · refine lawful_commit hcommits _ fun _ _ => ?_
        exact ⟨trivial, rfl⟩
  | resetCredentials =>
    simp only [ProviderRequest.step]
    refine lawful_commit store.resetProviderCredentials_commits _ fun _ _ => ?_
    exact ⟨trivial, rfl⟩

theorem lawful_step {store : ProviderStore} {input : ProviderInput} {call : ProviderCall}
    {step : ProviderStep} (hsound : call.Sound env) (hcareful : call.Careful env store input)
    (hstep : call.step env store input = some step) : step.Lawful env store := by
  cases call with
  | requested request =>
    cases hstep
    exact lawful_request store input request
  | replacing patch read next reset encrypted =>
    cases hstep
    refine lawful_commit (store.replaceProviderConnection_commits _ next reset) _
      fun happlied _ => ?_
    have htaken := hcareful happlied
    cases hfound : store.connection read.id with
    | none =>
      rw [hfound] at htaken
      cases htaken
    | some found =>
      rw [hfound, Option.map_some] at htaken
      have hnext := patch.replacement_of_taken hsound (Option.some.inj htaken)
      refine ⟨⟨found, next, reset, hfound, hnext⟩, ?_⟩
      simp only [ProviderWrite.apply, hfound, hnext]
  | verifying read =>
    cases hstep
    exact lawful_commit (store.finishProviderVerification_commits _ input.now) _
      fun _ hfound => ⟨hfound, rfl⟩
  | sharing role connection =>
    cases hstep
    refine lawful_proceed fun call hcall => ?_
    obtain ⟨_, _, hcall⟩ := bind_eq_ok.mp hcall
    obtain ⟨_, _, hcall⟩ := bind_eq_ok.mp hcall
    obtain ⟨_, _, hcall⟩ := bind_eq_ok.mp hcall
    cases hcall
    trivial
  | testing role connection =>
    cases hstep
    exact lawful_commit (store.finishRoleConformance_commits _ input.now) _
      fun _ hfound => ⟨hfound, rfl⟩
  | readingRoles roleId request connection | sharingRole roleId request connection read =>
    cases hstep
    refine lawful_proceed fun call hcall => ?_
    obtain ⟨_, _, hcall⟩ := bind_eq_ok.mp hcall
    cases hcall
    trivial
  | savingRole roleId request connection read =>
    cases hstep
    refine lawful_commit (store.saveModelRole_commits _ _ _) _ fun happlied hfound => ?_
    have htaken := hcareful happlied
    refine ⟨hfound, ?_⟩
    simp only [ProviderWrite.apply, ModelRoleUpdate.record_of_taken htaken,
      ModelRoleUpdate.runtimeChanged_of_taken htaken]
  | finished result => cases hstep

/-! ## Histories -/

/-- The stores that admitted writes make, one after another, from an empty one. -/
inductive ProviderHistory (env : ProviderEnvironment) : List AppliedWrite → ProviderStore → Prop
  | nil : ProviderHistory env [] .empty
  | snoc {applied : List AppliedWrite} {store : ProviderStore} {write : ProviderWrite} :
    ProviderHistory env applied store → write.Admitted env store →
      ProviderHistory env (applied ++ [⟨write, store, write.apply env store⟩])
        (write.apply env store)

theorem ProviderHistory.store_eq {applied : List AppliedWrite} {store : ProviderStore}
    (h : ProviderHistory env applied store) :
    store = applied.foldl (fun store entry => entry.write.apply env store) .empty := by
  induction h with
  | nil => rfl
  | snoc h _ ih =>
    rw [List.foldl_append, ← ih]
    rfl

/-- The calls of a world wait for lawful writes, and its store is that of a history. -/
structure ProviderWorld.Lawful (env : ProviderEnvironment) (world : ProviderWorld) : Prop where
  sound : ∀ call ∈ world.calls, call.Sound env
  history : ProviderHistory env world.applied world.store

theorem ProviderWorld.initial_lawful : ProviderWorld.initial.Lawful env where
  sound := by simp [ProviderWorld.initial]
  history := .nil

theorem ProviderWorld.Lawful.step {world next : ProviderWorld} {event : ProviderEvent}
    (h : world.Lawful env) (hcareful : world.Careful env event)
    (hstep : world.step env event = some next) : next.Lawful env := by
  cases event with
  | request request =>
    cases hstep
    refine ⟨fun call hcall => ?_, h.history⟩
    rcases List.mem_append.mp hcall with hcall | hcall
    · exact h.sound call hcall
    · rw [List.mem_singleton.mp hcall]
      trivial
  | step index input =>
    simp only [ProviderWorld.step] at hstep
    split at hstep
    · cases hstep
    · rename_i call hcall
      split at hstep
      · cases hstep
      · rename_i made hmade
        cases hstep
        have hlawful := lawful_step (h.sound call (List.mem_of_getElem? hcall))
          (hcareful call hcall) hmade
        refine ⟨fun other hother => ?_, ?_⟩
        · rcases List.mem_or_eq_of_mem_set hother with hold | hnew
          · exact h.sound other hold
          · rw [hnew]
            exact hlawful.sound
        · dsimp only
          cases happlied : made.applied with
          | none =>
            rw [hlawful.kept happlied, Option.map_none, Option.toList_none, List.append_nil]
            exact h.history
          | some write =>
            obtain ⟨hadmitted, hstore⟩ := hlawful.made write happlied
            rw [hstore, Option.map_some, Option.toList_some]
            exact h.history.snoc hadmitted

theorem ProviderWorld.Lawful.run {events : List ProviderEvent} :
    ∀ {world last : ProviderWorld}, world.Lawful env → world.CarefulRun env events →
      world.run env events = some last → last.Lawful env := by
  induction events with
  | nil =>
    intro world last h _ hrun
    cases hrun
    exact h
  | cons event rest ih =>
    intro world last h hcareful hrun
    simp only [ProviderWorld.run] at hrun
    split at hrun
    · rename_i next hnext
      exact ih (h.step hcareful.1 hnext) (hcareful.2 next hnext) hrun
    · cases hrun

end Providers

end MusicServer
