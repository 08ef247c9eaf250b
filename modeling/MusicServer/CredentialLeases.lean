/-
# Leases of the credential store

`provider_credentials.rs`: `current_cipher` takes a read lease that lives as long as the cipher
and every secret it decrypts; `initialize` and `reset` take the lock to write.  Each kind of
work of the server is written down as what it takes, keeps and drops, in order; it may end at
any step, dropping everything.
-/
import MusicServer.FairRwLock
import MusicServer.Transition

namespace MusicServer.Credentials

open FairRwLock Transition

/-! ## Work -/

/-- Taking a read lease, dropping the last one taken, and the lock for writing. -/
inductive LeaseStep where
  | take
  | drop
  | lock
  | unlock
  deriving DecidableEq

/-- A source with a credential of its own, as the enrichment finds it. -/
structure SourceUse where
  saved : Bool
  enabled : Bool
  deriving DecidableEq

/-- The requests and jobs that use the credential store.  The numbers and flags are what the
work finds: batches to run, credentials that are saved, whether a role is enabled. -/
inductive Work where
  -- requests
  | status
  | initializeStorage
  | resetStorage
  | createConnection
  | updateConnection (apiKey : Bool)
  | verifyConnection
  | testRoleModel
  | listModelRoles
  | updateModelRole (enabled : Bool)
  | listSources (acoustid lastfm : Bool)
  | saveSourceCredential
  | deleteSourceCredential (saved : Bool)
  | updateSource (saved : Bool)
  | modelRoleAvailability
  | startModelJob
  -- jobs
  | evaluation
  | tagging (batches : ℕ)
  | submitTaggingBatch
  | collectTaggingBatch
  | playlist
  | eqDraft
  | tagCleanup (batches : ℕ)
  | libraryCleanup
  | enrichment (acoustid lastfm : SourceUse)
  deriving DecidableEq

/-- A lease for one use: of the cipher alone, or of a secret that is dropped at once. -/
def leased : List LeaseStep := [.take, .drop]

/-- `credential_state` looks at the cipher where a credential is saved. -/
def credentialState (saved : Bool) : List LeaseStep := if saved then leased else []

/-- `ensure_feature_role_unchanged`: the role is resolved again and dropped. -/
def ensureFeatureRoleUnchanged : List LeaseStep := leased

/-- `saved_credential` of a source that is enabled: the secret is kept. -/
def savedCredential (source : SourceUse) : List LeaseStep :=
  if source.enabled && source.saved then [.take] else []

/-- What a kind of work asks of the lock where it runs to its end. -/
def Work.script : Work → List LeaseStep
  | .status => leased
  | .initializeStorage | .resetStorage => [.lock, .unlock]
  | .createConnection => leased
  | .updateConnection apiKey => if apiKey then leased else []
  -- the target is kept for the whole request
  | .verifyConnection | .testRoleModel => [.take]
  | .listModelRoles => leased
  -- the credential is checked where the role is enabled; the view lists the roles
  | .updateModelRole enabled => (if enabled then leased else []) ++ leased
  | .listSources acoustid lastfm => credentialState acoustid ++ credentialState lastfm
  | .saveSourceCredential => leased ++ credentialState true
  | .deleteSourceCredential saved | .updateSource saved => credentialState saved
  -- the roles are listed, then the role is resolved and kept
  | .modelRoleAvailability => leased ++ [.take]
  | .startModelJob => [.take]
  | .evaluation => [.take]
  -- the role is checked again before and after each batch
  | .tagging batches =>
    .take :: (List.replicate batches
      (ensureFeatureRoleUnchanged ++ ensureFeatureRoleUnchanged)).flatten
  | .submitTaggingBatch => [.take]
  | .collectTaggingBatch => [.take]
  | .playlist | .eqDraft => .take :: ensureFeatureRoleUnchanged
  | .tagCleanup batches =>
    .take :: (List.replicate batches ensureFeatureRoleUnchanged).flatten ++
      ensureFeatureRoleUnchanged
  -- the role that is resolved again is kept too
  | .libraryCleanup => [.take, .take]
  | .enrichment acoustid lastfm =>
    credentialState acoustid.saved ++ credentialState lastfm.saved ++
      savedCredential acoustid ++ savedCredential lastfm

/-! ## Steps -/

structure Holder where
  number : ℕ
  work : Work
  deriving DecidableEq

/-- Work that was started, with what it still asks for. -/
structure Task where
  work : Work
  script : List LeaseStep
  deriving DecidableEq

structure LeaseState where
  lock : Lock Holder
  tasks : List Task
  deriving DecidableEq

inductive LeaseLabel where
  | started (work : Work)
  | asked (number : ℕ)
  | dropped (number : ℕ)
  | unlocked (number : ℕ)
  | ended (number : ℕ)
  deriving DecidableEq

namespace LeaseState

def waiting (s : LeaseState) (holder : Holder) : Bool :=
  s.lock.queue.any fun entry => entry.1 = holder

/-- The task goes on with the rest of its script. -/
def advance (s : LeaseState) (number : ℕ) (work : Work) (script : List LeaseStep)
    (lock : Lock Holder) : LeaseState :=
  ⟨lock, s.tasks.set number ⟨work, script⟩⟩

/-- One step of the next kind of a task that does not wait. -/
def turn (s : LeaseState) (number : ℕ) (step : LeaseStep) (change : Holder → Lock Holder) :
    Option LeaseState :=
  match s.tasks[number]? with
  | some ⟨work, next :: script⟩ =>
    if next = step ∧ ¬ s.waiting ⟨number, work⟩ then
      some (s.advance number work script (change ⟨number, work⟩))
    else none
  | _ => none

/-- A step of the system, where a task can take it.  A task asks for what comes next in its
script; while it waits it does nothing.  Work that returns, fails or is cancelled has ended. -/
def exec (s : LeaseState) : LeaseLabel → Option LeaseState
  | .started work => some { s with tasks := s.tasks ++ [⟨work, work.script⟩] }
  | .asked number =>
    (s.turn number .take fun holder => s.lock.acquire holder .read).or
      (s.turn number .lock fun holder => s.lock.acquire holder .write)
  | .dropped number => s.turn number .drop fun holder => s.lock.releaseRead holder
  | .unlocked number => s.turn number .unlock fun _ => s.lock.releaseWrite
  | .ended number =>
    match s.tasks[number]? with
    | some task => some (s.advance number task.work [] (s.lock.abandon ⟨number, task.work⟩))
    | none => none

/-- A reset waits for a holder of a lease that waits for a further one. -/
def Deadlocked (s : LeaseState) : Prop :=
  Lock.Nested (fun holder => holder.work = .resetStorage) s.lock

end LeaseState

/-- The server at its start, and everything its requests and jobs may do. -/
def leaseSystem : System LeaseState LeaseLabel where
  init s := s = ⟨.free, []⟩
  step s label s' := s.exec label = some s'

end MusicServer.Credentials
