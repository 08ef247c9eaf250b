/-
# The life of the master key

Who writes or removes the key file has the lock to write, and while it does nothing is stored
under a key, handed over or about to be; whoever wrote a ciphertext down still has the lock to
read, or is over.  So the tables match the configured key in every state.
-/
import MusicServer.StoredKeys
import MusicServer.SettingsKept

namespace MusicServer.Credentials

open FairRwLock Providers Transition

variable {Key : Type} (vault : Vault Key) (config : CredentialConfig)

namespace KeyState

/-! ## The invariant -/

def key (s : KeyState) : Option Key := configuredVault vault config s.keyFile

/-- A task has the lock to write, and no ciphertext is stored or handed over. -/
structure Unkeyed (s : KeyState) (task : ℕ) : Prop where
  writer : s.lock.writer = some task
  tables : TablesMatch vault none s.tables
  pending : ∀ waiting write, s.pending = some (waiting, write) → WriteMatches vault none write

/-- What holds of a task at each of its points. -/
def TaskSound (s : KeyState) (task : ℕ) : Phase → Prop
  | .writing write =>
    WriteMatches vault (s.key vault config) write ∧
      (WriteMatches vault none write ∨ task ∈ s.lock.readers) ∧
      (write = .resetCredentials → s.lock.writer = some task)
  | .awaiting => s.pending = some (task, .resetCredentials) → s.lock.writer = some task
  | .installing _ | .removing => s.Unkeyed vault task
  | _ => True

structure Sound (s : KeyState) : Prop where
  exclusive : s.lock.Exclusive
  tables : TablesMatch vault (s.key vault config) s.tables
  pending : ∀ task write, s.pending = some (task, write) →
    WriteMatches vault (s.key vault config) write
  tasks : ∀ task phase, s.tasks[task]? = some phase → s.TaskSound vault config task phase

variable {vault config} {s : KeyState} {task : ℕ}

theorem taskSound_of_plain {phase : Phase} (h : phase.Plain) :
    s.TaskSound vault config task phase := by
  cases phase with
  | writing write | awaiting | installing encoded | removing => exact h.elim
  | _ => trivial

/-! ## What changes one task -/

theorem TaskSound.relock {phase : Phase} {lock : Lock ℕ}
    (h : s.TaskSound vault config task phase)
    (hreaders : task ∈ s.lock.readers → task ∈ lock.readers)
    (hwriter : s.lock.writer = some task → lock.writer = some task) (tasks : List Phase) :
    ({ s with lock, tasks } : KeyState).TaskSound vault config task phase := by
  cases phase with
  | writing write =>
    obtain ⟨hmatches, hlease, hreset⟩ := h
    exact ⟨hmatches, hlease.imp_right hreaders, fun hwrite => hwriter (hreset hwrite)⟩
  | awaiting => exact fun hpending => hwriter (h hpending)
  | installing encoded | removing => exact ⟨hwriter h.writer, h.tables, h.pending⟩
  | _ => trivial

theorem Sound.move (h : s.Sound vault config) {next : Phase} {lock : Lock ℕ}
    (hlock : s.lock.Keeps lock task)
    (hnext : (s.move task next lock).TaskSound vault config task next) :
    (s.move task next lock).Sound vault config := by
  refine ⟨hlock.exclusive, h.tables, h.pending, fun other phase hphase => ?_⟩
  have hset : (s.tasks.set task next)[other]? = some phase := hphase
  by_cases hother : task = other
  · subst hother
    rw [List.getElem?_set_self'] at hset
    obtain ⟨before, -, hsame⟩ := Option.map_eq_some_iff.mp hset
    have hsame : next = phase := hsame
    rwa [← hsame]
  · rw [List.getElem?_set_ne hother] at hset
    have hne : other ≠ task := Ne.symm hother
    exact (h.tasks other phase hset).relock (hlock.readers other hne) (hlock.writer other hne) _

theorem Sound.finish (h : s.Sound vault config) (task : ℕ) :
    (s.finish task).Sound vault config :=
  h.move (Lock.keeps_abandon h.exclusive task) trivial

/-! ## The key file -/

/-- While a task has the lock to write, no other task holds a lease: what it writes holds no
ciphertext. -/
theorem Sound.writes_none (h : s.Sound vault config) (hwriter : s.lock.writer = some task)
    {other : ℕ} {write : StoreWrite} (hother : s.tasks[other]? = some (.writing write)) :
    WriteMatches vault none write := by
  obtain ⟨-, hnone | hlease, -⟩ := h.tasks other _ hother
  · exact hnone
  · have hreaders : s.lock.readers = [] := h.exclusive (by rw [hwriter]; simp)
    rw [hreaders] at hlease
    cases hlease

theorem Sound.setKeyFile (h : s.Sound vault config) (hunkeyed : s.Unkeyed vault task)
    (keyFile : Option String) : ({ s with keyFile } : KeyState).Sound vault config := by
  refine ⟨h.exclusive, hunkeyed.tables.of_none _, fun waiting write hpending =>
    (hunkeyed.pending waiting write hpending).of_none _, fun other phase hphase => ?_⟩
  have hsound := h.tasks other phase hphase
  cases phase with
  | writing write =>
    have hnone := h.writes_none hunkeyed.writer hphase
    exact ⟨hnone.of_none _, .inl hnone, hsound.2.2⟩
  | awaiting => exact hsound
  | installing encoded | removing => exact ⟨hsound.writer, hsound.tables, hsound.pending⟩
  | _ => trivial

theorem Sound.unkeyed_of_canInitialize (h : s.Sound vault config)
    (hwriter : s.lock.writer = some task) {saved target : Bool}
    (hcan : canInitialize vault config s.keyFile saved target) : s.Unkeyed vault task := by
  unfold canInitialize at hcan
  simp only [Bool.and_eq_true] at hcan
  have hkey : s.key vault config = none := Option.isNone_iff_eq_none.mp hcan.1.1.1.1.1
  have htables := h.tables
  have hpending := h.pending
  rw [hkey] at htables hpending
  exact ⟨hwriter, htables, hpending⟩

/-! ## Transactions -/

theorem Sound.handOver (h : s.Sound vault config) {write : StoreWrite}
    (htask : s.tasks[task]? = some (.writing write)) :
    ({ s.move task .awaiting s.lock with pending := some (task, write) } : KeyState).Sound
      vault config := by
  obtain ⟨hmatches, -, hreset⟩ := h.tasks task _ htask
  refine ⟨h.exclusive, h.tables, fun waiting write' hwrite => ?_, fun other phase hphase => ?_⟩
  · obtain ⟨-, rfl⟩ := Prod.mk.inj (Option.some.inj hwrite)
    exact hmatches
  · have hset : (s.tasks.set task .awaiting)[other]? = some phase := hphase
    by_cases hother : task = other
    · subst hother
      rw [List.getElem?_set_self'] at hset
      obtain ⟨before, -, hsame⟩ := Option.map_eq_some_iff.mp hset
      have hsame : Phase.awaiting = phase := hsame
      subst hsame
      exact fun hwrite => hreset (congrArg Prod.snd (Option.some.inj hwrite))
    · rw [List.getElem?_set_ne hother] at hset
      have hsound := h.tasks other phase hset
      have hunkeyed : s.Unkeyed vault other →
          ({ s.move task .awaiting s.lock with pending := some (task, write) } :
            KeyState).Unkeyed vault other := by
        intro hother
        refine ⟨hother.writer, hother.tables, fun waiting write' hwrite => ?_⟩
        obtain ⟨-, rfl⟩ := Prod.mk.inj (Option.some.inj hwrite)
        exact h.writes_none hother.writer htask
      cases phase with
      | writing write => exact hsound
      | awaiting => exact fun hwrite => absurd (congrArg Prod.fst (Option.some.inj hwrite)) hother
      | installing encoded | removing => exact hunkeyed hsound
      | _ => trivial

theorem Sound.settle (h : s.Sound vault config) {tables : CredentialTables}
    (htables : TablesMatch vault (s.key vault config) tables)
    (hnone : TablesMatch vault none s.tables →
      (∀ waiting write, s.pending = some (waiting, write) → WriteMatches vault none write) →
      TablesMatch vault none tables) :
    ({ s with tables, pending := none } : KeyState).Sound vault config := by
  refine ⟨h.exclusive, htables, fun waiting write hwrite => ?_, fun other phase hphase => ?_⟩
  · cases hwrite
  · have hsound := h.tasks other phase hphase
    have hunkeyed : s.Unkeyed vault other →
        ({ s with tables, pending := none } : KeyState).Unkeyed vault other := fun hother =>
      ⟨hother.writer, hnone hother.tables hother.pending, fun waiting write hwrite => by
        cases hwrite⟩
    cases phase with
    | writing write => exact hsound
    | awaiting => exact fun hwrite => by cases hwrite
    | installing encoded | removing => exact hunkeyed hsound
    | _ => trivial

theorem Sound.resume (h : s.Sound vault config) {write : StoreWrite} {applied : Bool}
    (hreset : s.tasks[task]? = some .awaiting → write = .resetCredentials → applied = true →
      s.Unkeyed vault task) :
    (s.resume task write applied).Sound vault config := by
  unfold KeyState.resume
  split
  · next htask =>
    split
    · next happlied =>
      refine h.move (Lock.keeps_self h.exclusive task) ?_
      have hunkeyed := hreset htask happlied.1 happlied.2
      exact ⟨hunkeyed.writer, hunkeyed.tables, hunkeyed.pending⟩
    · exact h.finish task
  · exact h

theorem Sound.commit {env : ProviderEnvironment} (h : s.Sound vault config) {write : StoreWrite}
    (hpending : s.pending = some (task, write)) (hdistinct : Distinct env s.tables write)
    (jobs : ActiveModelJobs) :
    (KeyState.resume { s with tables := (s.tables.transact env jobs write).1, pending := none }
      task write (s.tables.transact env jobs write).2).Sound vault config := by
  have hwrite := h.pending task write hpending
  refine (h.settle (h.tables.transact hwrite hdistinct jobs) fun htables hnone =>
    htables.transact (hnone task write hpending) hdistinct jobs).resume
      fun htask hreset happlied => ?_
  subst hreset
  have hwriter : s.lock.writer = some task := h.tasks task .awaiting htask hpending
  exact ⟨hwriter, matches_of_reset jobs happlied, fun waiting write hnone => by cases hnone⟩

/-! ## Steps -/

section Steps

variable {env : ProviderEnvironment} {s' : KeyState} {label : KeyLabel}

/-- A commit finds no digest that stands for two credentials. -/
def NoCollision (env : ProviderEnvironment) (s : KeyState) : KeyLabel → Prop
  | .committed _ => ∀ task write, s.pending = some (task, write) → Distinct env s.tables write
  | _ => True

theorem Sound.exec (h : s.Sound vault config) (hdistinct : s.NoCollision env label)
    (hstep : s.exec vault config env label = some s') : s'.Sound vault config := by
  cases label with
  | requested request =>
    cases hstep
    refine ⟨h.exclusive, h.tables, h.pending, fun other phase hphase => ?_⟩
    have hphase : (s.tasks ++ [Phase.requested request])[other]? = some phase := hphase
    rw [List.getElem?_append] at hphase
    split at hphase
    · exact (h.tasks other phase hphase).relock id id _
    · rw [List.getElem?_singleton] at hphase
      obtain ⟨-, hphase⟩ := Option.ite_none_right_eq_some.mp hphase
      cases hphase
      trivial
  | begun task =>
    simp only [KeyState.exec] at hstep
    split at hstep
    · next request _ =>
      cases hstep
      refine h.move (Lock.keeps_self h.exclusive task) ?_
      rcases @begin_cases _ vault _ s.tables request with hplain | ⟨write, hbegin, hnone, hreset⟩
      · exact taskSound_of_plain hplain
      · rw [hbegin]
        exact ⟨hnone.of_none _, .inl hnone, fun hwrite => absurd hwrite hreset⟩
    · cases hstep
  | asked task =>
    simp only [KeyState.exec] at hstep
    split at hstep
    · split at hstep
      · cases hstep
        exact h.move (Lock.keeps_acquire h.exclusive task _) trivial
      · cases hstep
        exact h.move (Lock.keeps_acquire h.exclusive task _) trivial
      · cases hstep
        exact h.move (Lock.keeps_acquire h.exclusive task _) trivial
      · cases hstep
    · cases hstep
  | sealed task readable nonce =>
    simp only [KeyState.exec] at hstep
    split at hstep
    · split at hstep
      · next hlease =>
        split at hstep
        · cases hstep
          exact h.finish task
        · next key hkey =>
          split at hstep
          · cases hstep
            exact h.finish task
          · next write hwrite =>
            cases hstep
            obtain ⟨-, hkey⟩ := Option.ite_none_right_eq_some.mp hkey
            obtain ⟨hmatches, hreset⟩ := matches_of_sealing hwrite
            have hmatches : WriteMatches vault (s.key vault config) write := by
              unfold KeyState.key
              rwa [hkey]
            exact h.move (Lock.keeps_self h.exclusive task)
              ⟨hmatches, .inr hlease, fun hwrite => absurd hwrite hreset⟩
      · cases hstep
    · cases hstep
  | keyCreated task target encoded =>
    simp only [KeyState.exec] at hstep
    split at hstep
    · split at hstep
      · next hwriter =>
        split at hstep
        · next hcan =>
          cases hstep
          have hunkeyed := h.unkeyed_of_canInitialize hwriter hcan
          exact (h.setKeyFile hunkeyed _).move (Lock.keeps_self h.exclusive task)
            ⟨hwriter, hunkeyed.tables, hunkeyed.pending⟩
        · cases hstep
          exact h.finish task
      · cases hstep
    · cases hstep
  | keyWritten task count =>
    simp only [KeyState.exec] at hstep
    split at hstep
    · next encoded htask =>
      cases hstep
      exact h.setKeyFile (h.tasks task _ htask) _
    · cases hstep
  | keyInstalled task =>
    simp only [KeyState.exec] at hstep
    split at hstep
    · next encoded htask =>
      cases hstep
      exact (h.setKeyFile (h.tasks task _ htask) (some encoded)).finish task
    · cases hstep
  | keyFailed task removed =>
    simp only [KeyState.exec] at hstep
    split at hstep
    · next encoded htask =>
      cases hstep
      exact (h.setKeyFile (h.tasks task _ htask) (if removed then none else s.keyFile)).finish task
    · cases hstep
  | preflighted task safe =>
    simp only [KeyState.exec] at hstep
    split at hstep
    · split at hstep
      · next hwriter =>
        split at hstep
        · cases hstep
          -- the reset brings in no ciphertext
          exact h.move (Lock.keeps_self h.exclusive task) ⟨trivial, .inl trivial, fun _ => hwriter⟩
        · cases hstep
          exact h.finish task
      · cases hstep
    · cases hstep
  | handedOver task =>
    simp only [KeyState.exec] at hstep
    split at hstep
    · next write htask _ =>
      cases hstep
      exact h.handOver htask
    · cases hstep
  | committed jobs =>
    simp only [KeyState.exec] at hstep
    split at hstep
    · next task write hpending =>
      cases hstep
      exact h.commit hpending (hdistinct task write hpending) jobs
    · cases hstep
  | rolledBack =>
    simp only [KeyState.exec] at hstep
    split at hstep
    · cases hstep
      exact (h.settle h.tables fun htables _ => htables).resume fun _ _ happlied => by
        cases happlied
    · cases hstep
  | keyRemoved task deleted =>
    simp only [KeyState.exec] at hstep
    split at hstep
    · next htask =>
      cases hstep
      exact (h.setKeyFile (h.tasks task _ htask) (if deleted then none else s.keyFile)).finish task
    · cases hstep
  | dropped task =>
    simp only [KeyState.exec] at hstep
    split at hstep
    · cases hstep
    · cases hstep
    · cases hstep
      exact h.finish task
  | crashed =>
    cases hstep
    have hfree : Lock.Exclusive (.free : Lock ℕ) := fun _ => rfl
    refine ⟨hfree, h.tables, fun task write hwrite => ?_, fun other phase hphase => ?_⟩
    · cases hwrite
    · simp at hphase

@[simp] theorem keyFile_resume (s : KeyState) (task : ℕ) (write : StoreWrite) (applied : Bool) :
    (s.resume task write applied).keyFile = s.keyFile := by
  unfold KeyState.resume
  split
  · split <;> rfl
  · rfl

theorem Sound.unkeyed_of_change (h : s.Sound vault config)
    (hstep : s.exec vault config env label = some s') (hchange : s'.keyFile ≠ s.keyFile) :
    TablesMatch vault none s.tables := by
  cases label with
  | keyCreated task target encoded =>
    simp only [KeyState.exec] at hstep
    split at hstep
    · split at hstep
      · next hwriter =>
        split at hstep
        · next hcan => exact (h.unkeyed_of_canInitialize hwriter hcan).tables
        · cases hstep
          exact absurd rfl hchange
      · cases hstep
    · cases hstep
  | keyWritten task count | keyInstalled task | keyFailed task removed | keyRemoved task deleted =>
    simp only [KeyState.exec] at hstep
    split at hstep
    · next htask => exact (h.tasks task _ htask).tables
    · cases hstep
  | requested request | crashed => cases hstep; exact absurd rfl hchange
  | committed jobs | rolledBack =>
    simp only [KeyState.exec] at hstep
    split at hstep
    · cases hstep
      exact absurd (keyFile_resume _ _ _ _) hchange
    · cases hstep
  | begun task | handedOver task | dropped task =>
    simp only [KeyState.exec] at hstep
    split at hstep <;> cases hstep
    exact absurd rfl hchange
  | asked task =>
    simp only [KeyState.exec] at hstep
    split at hstep
    · split at hstep <;> cases hstep <;> exact absurd rfl hchange
    · cases hstep
  | sealed task readable nonce =>
    simp only [KeyState.exec] at hstep
    split at hstep
    · split at hstep
      · split at hstep
        · cases hstep
          exact absurd rfl hchange
        · split at hstep <;> cases hstep <;> exact absurd rfl hchange
      · cases hstep
    · cases hstep
  | preflighted task safe =>
    simp only [KeyState.exec] at hstep
    split at hstep
    · split at hstep
      · split at hstep <;> cases hstep <;> exact absurd rfl hchange
      · cases hstep
    · cases hstep

end Steps

end KeyState

/-! ## Runs -/

/-- The server from an empty database, whatever the key file is. -/
def keySystem (vault : Vault Key) (config : CredentialConfig) (env : ProviderEnvironment) :
    System KeyState KeyLabel where
  init s := s.tables = ⟨.empty, []⟩ ∧ s.pending = none ∧ s.lock = .free ∧ s.tasks = []
  step s label s' := s.exec vault config env label = some s'

variable {vault config}

theorem KeyState.sound_init {env : ProviderEnvironment} {s : KeyState}
    (hinit : (keySystem vault config env).init s) : s.Sound vault config := by
  obtain ⟨htables, hpending, hlock, htasks⟩ := hinit
  have hfree : Lock.Exclusive (.free : Lock ℕ) := fun _ => rfl
  refine ⟨by rwa [hlock], ?_, fun task write hwrite => ?_, fun other phase hphase => ?_⟩
  · rw [htables]
    exact ⟨fun connection hmem => (List.not_mem_nil hmem).elim,
      fun source hmem => (List.not_mem_nil hmem).elim⟩
  · rw [hpending] at hwrite
    cases hwrite
  · rw [htasks] at hphase
    simp at hphase

/-- In every run the tables match the configured key, and the key file changes only while no
credential is saved. -/
theorem stored_keys_decrypt {env : ProviderEnvironment} {s : KeyState}
    {run : List (KeyLabel × KeyState)} (hinit : (keySystem vault config env).init s)
    (hrun : (keySystem vault config env).IsRun s run)
    (hdistinct : ∀ t ∈ System.steps s run, t.1.NoCollision env t.2.1) :
    (∀ q ∈ System.states s run,
      TablesMatch vault (configuredVault vault config q.keyFile) q.tables) ∧
    ∀ t ∈ System.steps s run, t.2.2.keyFile ≠ t.1.keyFile →
      t.1.tables.savedCredentialsExist = false := by
  have hsound : ∀ q ∈ System.states s run, q.Sound vault config :=
    hrun.forall_states (G := fun q label => q.NoCollision env label)
      (fun _ _ _ h hstep hguard => h.exec hguard hstep) (KeyState.sound_init hinit) hdistinct
  refine ⟨fun q hq => (hsound q hq).tables, fun t ht hchange => ?_⟩
  have hsource := hsound t.1 (System.source_mem_states t ht)
  exact (hsource.unkeyed_of_change (hrun.step_of_mem t ht) hchange).savedCredentialsExist

/-! ## A key that is installed, used and removed -/

/-- A cipher that puts the key, the subject and the nonce beside what it seals. -/
def plainVault : Vault String where
  fromEncodedKey encoded := if encoded = "" then none else some encoded
  encrypt key subject apiKey nonce := .ok ⟨"|".intercalate [key, subject, nonce, apiKey], nonce, ""⟩

def fileConfig : CredentialConfig := ⟨none, true⟩

def keyRun (labels : List KeyLabel) : List (KeyLabel × KeyState) :=
  System.replay (KeyState.exec plainVault fileConfig Providers.plainEnvironment)
    ⟨none, ⟨.empty, []⟩, none, .free, []⟩ labels

def noJobs : ActiveModelJobs := ⟨false, fun _ => false, fun _ => false⟩

def homeRequest : ProviderConnectionCreate :=
  ⟨"Home", "openai-compatible/v1", "https://example.test/v1", "first", false⟩

def renewal : ProviderConnectionPatch := ⟨none, none, none, some "second", none⟩

/-- A key is installed, a connection is made and its key removed and renewed, a source's key is
saved, and all are removed. -/
def savingLabels : List KeyLabel :=
  [.requested .initializeStorage, .begun 0, .asked 0, .keyCreated 0 true "KEY", .keyInstalled 0,
    .requested (.createConnection "home" homeRequest), .begun 1, .asked 1, .sealed 1 true "one",
    .handedOver 1, .committed noJobs,
    .requested (.deleteConnectionCredential "home"), .begun 2, .handedOver 2, .committed noJobs,
    .requested (.updateConnection "home" renewal), .begun 3, .asked 3, .sealed 3 true "two",
    .handedOver 3, .committed noJobs,
    .requested (.saveCredential "lastfm" "secret"), .begun 4, .asked 4, .sealed 4 true "three",
    .handedOver 4, .requested .resetStorage, .begun 5, .asked 5, .dropped 4, .committed noJobs,
    .preflighted 5 true, .handedOver 5, .committed noJobs, .keyRemoved 5 true]

theorem replaces_what_was_read :
    (System.steps ⟨none, ⟨.empty, []⟩, none, .free, []⟩ (keyRun savingLabels)).all fun t =>
      match t.1.pending with
      | some (_, .replaceConnection read replacement _) =>
        t.1.tables.providers.connection replacement.id = some read
      | _ => true := by
  decide +kernel

theorem stored_keys_decrypt_saving :
    (keyRun savingLabels).map (fun t => (t.2.keyFile,
        t.2.tables.providers.connections.map (·.apiKeyNonce), t.2.tables.sources.length)) =
      List.replicate 3 (none, [], 0) ++ [(some "", [], 0)] ++
        List.replicate 6 (some "KEY", [], 0) ++ List.replicate 4 (some "KEY", ["one"], 0) ++
        List.replicate 6 (some "KEY", [""], 0) ++ List.replicate 10 (some "KEY", ["two"], 0) ++
        List.replicate 3 (some "KEY", ["two"], 1) ++
        [(some "KEY", [""], 0), (none, [""], 0)] ∧
    ∀ q ∈ System.states ⟨none, ⟨.empty, []⟩, none, .free, []⟩ (keyRun savingLabels),
      TablesMatch plainVault (configuredVault plainVault fileConfig q.keyFile) q.tables := by
  have hrun : (keySystem plainVault fileConfig Providers.plainEnvironment).IsRun
      ⟨none, ⟨.empty, []⟩, none, .free, []⟩ (keyRun savingLabels) :=
    System.isRun_replay (fun _ _ _ h => h) _ _
  refine ⟨by decide +kernel, (stored_keys_decrypt ⟨rfl, rfl, rfl, rfl⟩ hrun fun t ht => ?_).1⟩
  have hread := List.all_eq_true.mp replaces_what_was_read t ht
  unfold KeyState.NoCollision
  split
  · intro task write hpending
    rw [hpending] at hread
    cases write with
    | replaceConnection read replacement resets =>
      intro current hcurrent _
      obtain rfl := Option.some.inj ((of_decide_eq_true hread).symm.trans hcurrent)
      exact ⟨rfl, rfl⟩
    | _ => trivial
  · trivial

end MusicServer.Credentials
