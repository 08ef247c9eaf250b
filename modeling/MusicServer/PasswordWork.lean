/-
# The work of the password calls

`RuntimeAuth::login` and `reauthenticate` check the throttle, take a slot, verify the password on a
blocking thread and record the outcome.  The calls run on many threads, and a request may go away at
any await point while its verification runs on.
-/
import MusicServer.LoginThrottle

namespace MusicServer

namespace Auth

/-! ## The calls -/

def argon2Concurrency : ℕ := 2

inductive PasswordCallKind where
  | login
  | reauthenticate
  deriving DecidableEq

inductive VerifierAnswer where
  | verified
  | rejected
  | failed
  deriving DecidableEq

inductive CallOutcome where
  | succeeded
  | throttled
  | invalidCredentials
  | internal
  | dropped
  deriving DecidableEq

inductive CallPhase where
  | arrived
  /-- `Instant::now()` is read, and the throttle not locked yet. -/
  | checking (now : ℕ)
  | checked
  /-- The slot is taken. -/
  | admitted
  | lookingUp
  | verifying
  | answered (answer : VerifierAnswer)
  | creatingSession
  | accepted
  | refused
  /-- The failure is to be recorded at an instant that was read. -/
  | recording (now : ℕ)
  /-- The outcome is recorded, and the slot not given back yet. -/
  | leaving (outcome : CallOutcome)
  /-- The request is gone, and the verification runs on. -/
  | abandoned
  | over (outcome : CallOutcome)
  deriving DecidableEq

structure PasswordCall where
  kind : PasswordCallKind
  throttleKey : String
  username : String
  password : String
  phase : CallPhase
  /-- When the verification started. -/
  startedAt : Option ℕ
  deriving DecidableEq

structure VerificationStart where
  key : String
  instant : ℕ
  deriving DecidableEq

/-- What the calls share, and what has happened so far. -/
structure RuntimeAuth where
  failures : Failures
  passwordSlots : ℕ
  clock : ℕ
  started : List VerificationStart
  succeeded : List ℕ
  deriving DecidableEq

def RuntimeAuth.new : RuntimeAuth where
  failures := []
  passwordSlots := argon2Concurrency
  clock := 0
  started := []
  succeeded := []

inductive CallMove where
  /-- The call runs up to the next thing others can see. -/
  | resume
  | lookup (found : Bool)
  | verification (answer : VerifierAnswer)
  | session (created : Bool)
  | drop
  deriving DecidableEq

namespace PasswordCall

def enter (call : PasswordCall) (phase : CallPhase) : PasswordCall := { call with phase := phase }

def startVerification (call : PasswordCall) (clock : ℕ) : PasswordCall :=
  { call with phase := .verifying, startedAt := some clock }

/-- The lengths, in characters, that `verified_user` looks at. -/
def wellFormed (call : PasswordCall) : Bool :=
  1 ≤ call.username.length && call.username.length ≤ 64 &&
    1 ≤ call.password.length && call.password.length ≤ 256

end PasswordCall

namespace RuntimeAuth

def releaseSlot (auth : RuntimeAuth) : RuntimeAuth :=
  { auth with passwordSlots := auth.passwordSlots + 1 }

def startVerification (auth : RuntimeAuth) (throttleKey : String) : RuntimeAuth :=
  { auth with started := auth.started ++ [⟨throttleKey, auth.clock⟩] }

def finish (auth : RuntimeAuth) (call : PasswordCall) (outcome : CallOutcome) :
    RuntimeAuth × PasswordCall :=
  (auth.releaseSlot, call.enter (.over outcome))

def move (config : LoginThrottleConfig) (auth : RuntimeAuth) (call : PasswordCall) :
    CallMove → Option (RuntimeAuth × PasswordCall)
  | .resume =>
    match call.phase with
    | .arrived => some (auth, call.enter (.checking auth.clock))
    | .checking now =>
      let (blocked, failures) := config.blockedAt auth.failures call.throttleKey now
      some ({ auth with failures := failures },
        call.enter (if blocked then .over .throttled else .checked))
    | .checked =>
      if 0 < auth.passwordSlots then
        some ({ auth with passwordSlots := auth.passwordSlots - 1 }, call.enter .admitted)
      else some (auth, call.enter (.over .throttled))
    | .admitted => some (auth, call.enter (if call.wellFormed then .lookingUp else .refused))
    | .answered .verified =>
      some (auth, call.enter (if call.kind = .login then .creatingSession else .accepted))
    | .answered .rejected => some (auth, call.enter .refused)
    | .answered .failed => some (auth.finish call .internal)
    | .accepted =>
      some ({ auth with
        failures := recordSuccess auth.failures call.throttleKey
        succeeded := auth.succeeded ++ [auth.clock] }, call.enter (.leaving .succeeded))
    | .refused => some (auth, call.enter (.recording auth.clock))
    | .recording now =>
      some ({ auth with
        failures := config.recordFailureAt auth.failures call.throttleKey now },
        call.enter (.leaving .invalidCredentials))
    | .leaving outcome => some (auth.finish call outcome)
    | _ => none
  | .lookup found =>
    if call.phase = .lookingUp then
      if found then
        some (auth.startVerification call.throttleKey, call.startVerification auth.clock)
      else some (auth.finish call .internal)
    else none
  | .verification answer =>
    match call.phase with
    | .verifying => some (auth, call.enter (.answered answer))
    | .abandoned => some (auth, call.enter (.over .dropped))
    | _ => none
  | .session created =>
    if call.phase = .creatingSession then
      if created then some (auth, call.enter .accepted) else some (auth.finish call .internal)
    else none
  | .drop =>
    match call.phase with
    | .lookingUp | .answered _ | .creatingSession => some (auth.finish call .dropped)
    | .verifying => some (auth.releaseSlot, call.enter .abandoned)
    | _ => none

end RuntimeAuth

/-! ## Runs -/

structure PasswordWorld where
  auth : RuntimeAuth
  calls : List PasswordCall
  deriving DecidableEq

def PasswordWorld.new : PasswordWorld := ⟨RuntimeAuth.new, []⟩

inductive PasswordEvent where
  | tick (elapsed : ℕ)
  | arrive (kind : PasswordCallKind) (throttleKey username password : String)
  | call (index : ℕ) (move : CallMove)
  deriving DecidableEq

namespace PasswordWorld

def step (config : LoginThrottleConfig) (world : PasswordWorld) :
    PasswordEvent → Option PasswordWorld
  | .tick elapsed =>
    some { world with auth := { world.auth with clock := world.auth.clock + elapsed } }
  | .arrive kind throttleKey username password =>
    some { world with
      calls := world.calls ++ [⟨kind, throttleKey, username, password, .arrived, none⟩] }
  | .call index move =>
    match world.calls[index]? with
    | some call =>
      match world.auth.move config call move with
      | some (auth, next) => some ⟨auth, world.calls.set index next⟩
      | none => none
    | none => none

def run (config : LoginThrottleConfig) :
    PasswordWorld → List PasswordEvent → Option PasswordWorld
  | world, [] => some world
  | world, event :: rest =>
    match world.step config event with
    | some next => next.run config rest
    | none => none

def running (world : PasswordWorld) : ℕ :=
  world.calls.countP fun call => call.phase = .verifying || call.phase = .abandoned

/-- The verifications of a scope that started within the window from an instant on. -/
def startedWithin (config : LoginThrottleConfig) (world : PasswordWorld) (scope : Scope)
    (start : ℕ) : ℕ :=
  world.auth.started.countP fun verification => scope.covers verification.key &&
    (start ≤ verification.instant && verification.instant < start + config.window)

/-- No call succeeds within the window from an instant on. -/
def NoSuccess (config : LoginThrottleConfig) (world : PasswordWorld) (start : ℕ) : Prop :=
  ∀ instant ∈ world.auth.succeeded, ¬ (start ≤ instant ∧ instant < start + config.window)

end PasswordWorld

/-- A move that loses no verification: a call goes from a verification it started to a recorded
outcome, and one that takes a slot is still under the limits it was checked against. -/
def RuntimeAuth.Accounts (config : LoginThrottleConfig) (auth : RuntimeAuth)
    (call : PasswordCall) : CallMove → Prop
  | .resume =>
    call.phase ≠ .answered .failed ∧
      (call.phase = .checked → 0 < auth.passwordSlots →
        config.overLimit auth.failures call.throttleKey = false)
  | .session created => created = true
  | .drop => call.phase = .lookingUp
  | _ => True

def PasswordWorld.Accounts (config : LoginThrottleConfig) (world : PasswordWorld) :
    PasswordEvent → Prop
  | .call index move =>
    ∀ call ∈ world.calls[index]?, world.auth.Accounts config call move
  | _ => True

instance decidableMoveAccounts (config : LoginThrottleConfig) (auth : RuntimeAuth)
    (call : PasswordCall) : ∀ move, Decidable (auth.Accounts config call move)
  | .resume => inferInstanceAs (Decidable (_ ∧ (_ → _ → _)))
  | .lookup _ => isTrue trivial
  | .verification _ => isTrue trivial
  | .session created => inferInstanceAs (Decidable (created = true))
  | .drop => inferInstanceAs (Decidable (call.phase = .lookingUp))

instance decidableAccounts (config : LoginThrottleConfig) (world : PasswordWorld) :
    ∀ event, Decidable (world.Accounts config event)
  | .tick _ => isTrue trivial
  | .arrive _ _ _ _ => isTrue trivial
  | .call index move =>
    inferInstanceAs (Decidable (∀ call ∈ world.calls[index]?, world.auth.Accounts config call move))

/-- Every event of a run accounts for what it does. -/
def PasswordWorld.AccountsRun (config : LoginThrottleConfig) :
    PasswordWorld → List PasswordEvent → Prop
  | _, [] => True
  | world, event :: rest =>
    world.Accounts config event ∧
      ∀ next ∈ world.step config event, next.AccountsRun config rest

instance decidableAccountsRun (config : LoginThrottleConfig) :
    ∀ (world : PasswordWorld) (events : List PasswordEvent),
      Decidable (world.AccountsRun config events)
  | _, [] => isTrue trivial
  | world, event :: rest =>
    have (next : PasswordWorld) := decidableAccountsRun config next rest
    inferInstanceAs (Decidable (world.Accounts config event ∧
      ∀ next ∈ world.step config event, next.AccountsRun config rest))

end Auth

end MusicServer
