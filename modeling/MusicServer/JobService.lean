/-
# The job service and its lanes

Clients enqueue, retry and cancel; each lane claims a job, runs its handler, and writes what
the handler came to; a restart recovers what the last process left.  Any of these may come
between any two others, and an execution that lost its job may still try to write to it.
-/
import MusicServer.JobTable
import MusicServer.Transition

namespace MusicServer

open JobTable Transition

/-! ## The registry -/

/-- The definitions a process registered: valid, one for each kind. -/
structure JobRegistry where
  definitions : List JobDefinition
  validated : ∀ definition ∈ definitions, definition.validate = .ok ()
  distinct : (definitions.map JobDefinition.kind).Nodup

namespace JobRegistry

def empty : JobRegistry := ⟨[], fun _ h => absurd h List.not_mem_nil, List.nodup_nil⟩

def definition (registry : JobRegistry) (kind : String) : Option JobDefinition :=
  registry.definitions.find? fun definition => definition.kind = kind

theorem definition_kind {registry : JobRegistry} {kind : String} {found : JobDefinition}
    (h : registry.definition kind = some found) : found.kind = kind := by
  have := List.find?_some h
  simpa using this

def insert (registry : JobRegistry) (added : JobDefinition) :
    Except JobValidationError JobRegistry :=
  match hvalid : added.validate with
  | .error error => .error error
  | .ok () =>
    if hnew : added.kind ∈ registry.definitions.map JobDefinition.kind then .error .duplicateKind
    else
      .ok
        { definitions := added :: registry.definitions
          validated := by
            intro definition hmem
            rcases List.mem_cons.mp hmem with rfl | hmem
            · exact hvalid
            · exact registry.validated definition hmem
          distinct := by
            rw [List.map_cons, List.nodup_cons]
            exact ⟨hnew, registry.distinct⟩ }

def new (handlers : List JobDefinition) : Except JobValidationError JobRegistry :=
  handlers.foldlM insert empty

end JobRegistry

/-! ## What clients ask for -/

inductive JobServiceError where
  | unknownKind
  | jobNotFound
  | notRetryable
  | alreadyTerminal (status : JobStatus)
  | invalidParameters
  | dependency
  deriving DecidableEq

namespace JobService

def newJob (registry : JobRegistry) (id kind : String) (parameters : Json)
    (retryOfId : Option String) : Except JobServiceError NewJob :=
  match registry.definition kind, parameters with
  | none, _ => .error .unknownKind
  | some definition, .object parameters => .ok ⟨id, definition, parameters, retryOfId⟩
  | some _, _ => .error .invalidParameters

/-- An error of the store, as its caller reports it. -/
def serviceDependency {α : Type} (result : Except StorageError α) : Except JobServiceError α :=
  result.mapError fun _ => .dependency

def enqueueWithRetry (registry : JobRegistry) (table : JobTable) (id kind : String)
    (parameters : Json) (retryOfId : Option String) (now : ℤ) :
    Except JobServiceError (JobTable × JobRecord) := do
  let job ← newJob registry id kind parameters retryOfId
  serviceDependency (create table job now)

def enqueue (registry : JobRegistry) (table : JobTable) (id kind : String) (parameters : Json)
    (now : ℤ) : Except JobServiceError (JobTable × JobRecord) :=
  enqueueWithRetry registry table id kind parameters none now

def enqueueUniqueActive (registry : JobRegistry) (table : JobTable) (id kind : String)
    (parameters : Json) (now : ℤ) : Except JobServiceError (JobTable × JobRecord × Bool) := do
  let job ← newJob registry id kind parameters none
  serviceDependency (createUniqueActive table job now)

def cancel (table : JobTable) (id : String) (now : ℤ) :
    JobTable × Except JobServiceError JobRecord :=
  let (table', answer) := requestCancellation table id now
  (table',
    match answer with
    | none => .error .jobNotFound
    | some (job, changed) => if changed then .ok job else .error (.alreadyTerminal job.status))

/-- What a retry reads before it enqueues: the job to be run again. -/
def retryable (registry : JobRegistry) (table : JobTable) (id : String) :
    Except JobServiceError JobRecord := do
  match readJob table id with
  | none => .error .jobNotFound
  | some previous =>
    ensure (previous.status.canRetry = true) .notRetryable
    ensure ((registry.definition previous.kind).isSome = true) .unknownKind
    return previous

def retryOf (registry : JobRegistry) (table : JobTable) (id : String) (previous : JobRecord)
    (now : ℤ) : Except JobServiceError (JobTable × JobRecord) :=
  enqueueWithRetry registry table id previous.kind (.object previous.parameters)
    (some previous.id) now

end JobService

/-! ## What an execution comes to -/

inductive JobHandlerErrorKind where
  | failed
  | cancelled
  | stopping
  | leaseLost
  | dependency
  deriving DecidableEq

structure JobHandlerError where
  detail : String
  kind : JobHandlerErrorKind
  deriving DecidableEq

inductive JobExecutionError where
  | cancelled
  | stopping
  | leaseLost
  | dependency
  deriving DecidableEq

def ensureActive (shutdown : Bool) (state : JobLeaseState) : Except JobExecutionError Unit :=
  if shutdown then .error .stopping
  else
    match state with
    | .active => .ok ()
    | .cancellationRequested => .error .cancelled
    | .lost => .error .leaseLost

def checkCancelled (shutdown : Bool) (table : JobTable) (claim : JobClaim) :
    Except JobExecutionError Unit :=
  ensureActive shutdown (leaseState table claim.job.id claim.executionId)

/-- How the handler's future ends: with its result, or dropped by the shutdown. -/
inductive ExecutionEnd where
  | returned (result : Except JobHandlerError Json)
  | shutdown

/-- What a finished handler means for its job, where `checked` is the last look at the lease.
`none` leaves the job as it is. -/
def finishOf (definition : JobDefinition) (checked : Except JobExecutionError Unit) :
    ExecutionEnd → Option JobFinish
  | .returned (.ok (.object result)) =>
    match checked with
    | .ok () => some (.succeeded result)
    | .error .cancelled => some .cancelled
    | .error .stopping => some (.interrupted definition.restartable)
    | .error .leaseLost => none
    | .error .dependency => none
  | .returned (.ok _) => some (.failed "Job handler returned a non-object result.")
  | .returned (.error error) =>
    match error.kind with
    | .failed => some (.failed error.detail)
    | .cancelled => some .cancelled
    | .stopping => some (.interrupted definition.restartable)
    | .leaseLost => none
    | .dependency => none
  | .shutdown => some (.interrupted definition.restartable)

/-- What `execute_claim` writes at the end of the execution of a claim. -/
def executeClaim (registry : JobRegistry) (claim : JobClaim)
    (checked : Except JobExecutionError Unit) (ended : ExecutionEnd) : Option JobFinish :=
  match registry.definition claim.job.kind with
  | none => some (.failed "No handler is registered for this job type.")
  | some definition =>
    if definition.schemaVersion ≠ claim.job.schemaVersion ∨ definition.lane ≠ claim.job.lane ∨
        definition.restartable ≠ claim.job.restartable then
      some (.failed "Stored job contract is no longer available.")
    else finishOf definition checked ended

/-! ## Everything that happens to the table -/

/-- The table, the running process, and what its clients and executions have in hand. -/
structure JobWorld where
  table : JobTable
  registry : JobRegistry
  shutdown : Bool
  /-- How many identifiers have been drawn. -/
  drawn : ℕ
  /-- Every claim ever handed out. -/
  claims : List JobClaim
  /-- The jobs that a retry has read and is about to enqueue again. -/
  retries : List JobRecord
  /-- What executions have come to and not yet written. -/
  endings : List (JobClaim × JobFinish)

inductive JobAction where
  | enqueue (kind : String) (parameters : Json) (now : ℤ)
  | enqueueUniqueActive (kind : String) (parameters : Json) (now : ℤ)
  | readForRetry (id : String)
  | retry (turn : ℕ) (now : ℤ)
  | cancel (id : String) (now : ℤ)
  | claim (lane : JobLane) (now : ℤ)
  | progress (turn : ℕ) (progress : JobProgress) (now : ℤ)
  | checkpoint (turn : ℕ) (result : JsonObject) (now : ℤ)
  | executionEnds (turn : ℕ) (ended : ExecutionEnd) (unreadable : Bool)
  | finish (turn : ℕ) (now : ℤ)
  | shutdown
  | restart (registry : JobRegistry) (now : ℤ)

namespace JobWorld

variable (uuid : ℕ → String)

/-- The world after a statement that may have inserted a job under a new identifier. -/
def inserted {α : Type} (w : JobWorld) (result : Except JobServiceError (JobTable × α)) :
    JobWorld :=
  match result with
  | .ok (table, _) => { w with table, drawn := w.drawn + 1 }
  | .error _ => { w with drawn := w.drawn + 1 }

/-- One event.  A statement that fails changes nothing; what a client or an execution has in
hand outlives a restart, as it does in a process that is still winding down. -/
def next (w : JobWorld) : JobAction → Option JobWorld
  | .enqueue kind parameters now =>
    some (w.inserted (JobService.enqueue w.registry w.table (uuid w.drawn) kind parameters now))
  | .enqueueUniqueActive kind parameters now =>
    some (w.inserted
      (JobService.enqueueUniqueActive w.registry w.table (uuid w.drawn) kind parameters now))
  | .readForRetry id =>
    match JobService.retryable w.registry w.table id with
    | .ok previous => some { w with retries := w.retries ++ [previous] }
    | .error _ => some w
  | .retry turn now =>
    w.retries[turn]?.map fun previous =>
      w.inserted (JobService.retryOf w.registry w.table (uuid w.drawn) previous now)
  | .cancel id now => some { w with table := (JobService.cancel w.table id now).1 }
  | .claim lane now =>
    let (table, answer) := claimNext w.table lane (uuid w.drawn) now
    some { w with table, claims := w.claims ++ answer.toList, drawn := w.drawn + 1 }
  | .progress turn progress now =>
    w.claims[turn]?.map fun claim =>
      match updateProgress w.table claim progress now with
      | .ok (table, _) => { w with table }
      | .error _ => w
  | .checkpoint turn result now =>
    w.claims[turn]?.map fun claim =>
      { w with table := (JobTable.checkpoint w.table claim result now).1 }
  | .executionEnds turn ended unreadable =>
    w.claims[turn]?.bind fun claim =>
      let checked := if unreadable then .error .dependency
        else checkCancelled w.shutdown w.table claim
      match ended, w.shutdown with
      -- The select takes the branch of the shutdown only once it was asked for.
      | .shutdown, false => none
      | _, _ =>
        some { w with
          endings := w.endings ++
            ((executeClaim w.registry claim checked ended).map fun ending =>
              (claim, ending)).toList }
  | .finish turn now =>
    w.endings[turn]?.map fun (claim, ending) =>
      { w with table := JobTable.finish w.table claim ending now }
  | .shutdown => some { w with shutdown := true }
  | .restart registry now =>
    some { w with
      table := (recoverInterrupted w.table registry.definition now).1
      registry
      shutdown := false }

end JobWorld

/-- A server with no jobs yet, started again and again, under all it can be asked to do. -/
def jobSystem (uuid : ℕ → String) : System JobWorld JobAction where
  init w := w.table = [] ∧ w.claims = [] ∧ w.retries = [] ∧ w.endings = []
  step w action w' := w.next uuid action = some w'

namespace JobWorld

/-- The execution on whose behalf an action writes to the table. -/
def writer (w : JobWorld) : JobAction → Option JobClaim
  | .progress turn _ _ => w.claims[turn]?
  | .checkpoint turn _ _ => w.claims[turn]?
  | .finish turn _ => w.endings[turn]?.map Prod.fst
  | _ => none

variable {uuid : ℕ → String} {w w' : JobWorld}

/-! ## What one event does to the table -/

def Inserts (id kind : String) (table table' : JobTable) : Prop :=
  ∃ (job : NewJob) (now : ℤ) (row : JobRecord),
    job.id = id ∧ job.definition.kind = kind ∧ insertJob table job now = .ok (table', row)

theorem Inserts.extended {id kind : String} {table table' : JobTable}
    (h : Inserts id kind table table') : Extends table table' := by
  obtain ⟨job, now, row, _, _, hinsert⟩ := h
  rw [(insertJob_ok hinsert).2.1]
  exact extends_append table [row]

theorem Inserts.valid {id kind : String} {table table' : JobTable}
    (h : Inserts id kind table table') (hvalid : Valid table) : Valid table' := by
  obtain ⟨job, now, row, _, _, hinsert⟩ := h
  exact insertJob_valid hvalid hinsert

theorem newJob_ok {registry : JobRegistry} {id kind : String} {parameters : Json}
    {retryOfId : Option String} {job : NewJob}
    (h : JobService.newJob registry id kind parameters retryOfId = .ok job) :
    job.id = id ∧ job.definition.kind = kind := by
  unfold JobService.newJob at h
  split at h
  · cases h
  · next hdefinition =>
    cases h
    exact ⟨rfl, JobRegistry.definition_kind hdefinition⟩
  · cases h

theorem serviceDependency_ok {α : Type} {result : Except StorageError α} {value : α}
    (h : JobService.serviceDependency result = .ok value) : result = .ok value := by
  cases result with
  | ok found =>
    cases h
    rfl
  | error error => cases h

theorem enqueueWithRetry_ok {registry : JobRegistry} {table table' : JobTable}
    {id kind : String} {parameters : Json} {retryOfId : Option String} {now : ℤ}
    {row : JobRecord}
    (h : JobService.enqueueWithRetry registry table id kind parameters retryOfId now
      = .ok (table', row)) : Inserts id kind table table' := by
  unfold JobService.enqueueWithRetry at h
  obtain ⟨job, hjob, hcreate⟩ := bind_eq_ok.mp h
  obtain ⟨hid, hkind⟩ := newJob_ok hjob
  exact ⟨job, now, row, hid, hkind, serviceDependency_ok hcreate⟩

theorem enqueueUniqueActive_ok {registry : JobRegistry} {table table' : JobTable}
    {id kind : String} {parameters : Json} {now : ℤ} {answer : JobRecord × Bool}
    (h : JobService.enqueueUniqueActive registry table id kind parameters now
      = .ok (table', answer)) :
    table' = table ∨ table.countP (activeOf kind) = 0 ∧ Inserts id kind table table' := by
  unfold JobService.enqueueUniqueActive at h
  obtain ⟨job, hjob, hcreate⟩ := bind_eq_ok.mp h
  obtain ⟨hid, hkind⟩ := newJob_ok hjob
  rcases createUniqueActive_ok (serviceDependency_ok hcreate) with ⟨_, hsame⟩ | ⟨_, hnone, hinsert⟩
  · exact Or.inl hsame
  · rw [hkind] at hnone
    exact Or.inr ⟨hnone, job, now, _, hid, hkind, hinsert⟩

theorem inserted_table {α : Type} (w : JobWorld)
    (result : Except JobServiceError (JobTable × α)) :
    (w.inserted result).table = w.table ∨
      ∃ table value, result = .ok (table, value) ∧ (w.inserted result).table = table := by
  unfold inserted
  split
  · next table value => exact Or.inr ⟨table, value, rfl, rfl⟩
  · exact Or.inl rfl

theorem inserted_drawn {α : Type} (w : JobWorld)
    (result : Except JobServiceError (JobTable × α)) : (w.inserted result).drawn = w.drawn + 1 := by
  unfold inserted
  split <;> rfl

def mayInsert : JobAction → Bool
  | .enqueue _ _ _ | .enqueueUniqueActive _ _ _ | .retry _ _ => true
  | _ => false

/-- What one event does to the table: nothing, a new row, a write of the row of one claim, or
an update that asks nothing of the past. -/
theorem next_table (hvalid : Valid w.table) {action : JobAction}
    (h : w.next uuid action = some w') :
    (w.writer action = none ∧ mayInsert action = true ∧ w'.drawn = w.drawn + 1 ∧
        ∃ kind, Inserts (uuid w.drawn) kind w.table w'.table) ∨
      (∃ claim, w.writer action = some claim ∧ WrittenBy claim w.table w'.table) ∨
      (w.writer action = none ∧ Kept w.table w'.table ∧ Valid w'.table) := by
  have hsame : ∀ {w'' : JobWorld}, w''.table = w.table →
      Kept w.table w''.table ∧ Valid w''.table := by
    intro w'' heq
    rw [heq]
    exact ⟨.refl _, hvalid⟩
  cases action with
  | enqueue kind parameters now =>
    cases h
    rcases inserted_table w (JobService.enqueue w.registry w.table (uuid w.drawn) kind parameters
      now) with heq | ⟨table, row, hok, heq⟩
    · exact Or.inr (Or.inr ⟨rfl, hsame heq⟩)
    · rw [heq]
      exact Or.inl ⟨rfl, rfl, inserted_drawn w _, kind, enqueueWithRetry_ok hok⟩
  | enqueueUniqueActive kind parameters now =>
    cases h
    rcases inserted_table w (JobService.enqueueUniqueActive w.registry w.table (uuid w.drawn) kind
      parameters now) with heq | ⟨table, answer, hok, heq⟩
    · exact Or.inr (Or.inr ⟨rfl, hsame heq⟩)
    · rcases enqueueUniqueActive_ok hok with hold | ⟨_, hinserts⟩
      · exact Or.inr (Or.inr ⟨rfl, hsame (heq.trans hold)⟩)
      · rw [heq]
        exact Or.inl ⟨rfl, rfl, inserted_drawn w _, kind, hinserts⟩
  | readForRetry id =>
    simp only [next] at h
    split at h <;> cases h <;> exact Or.inr (Or.inr ⟨rfl, hsame rfl⟩)
  | retry turn now =>
    obtain ⟨previous, _, rfl⟩ := Option.map_eq_some_iff.mp h
    rcases inserted_table w (JobService.retryOf w.registry w.table (uuid w.drawn) previous now)
      with heq | ⟨table, row, hok, heq⟩
    · exact Or.inr (Or.inr ⟨rfl, hsame heq⟩)
    · rw [heq]
      exact Or.inl ⟨rfl, rfl, inserted_drawn w _, _, enqueueWithRetry_ok hok⟩
  | cancel id now =>
    cases h
    exact Or.inr (Or.inr ⟨rfl, requestCancellation_kept w.table id now,
      requestCancellation_valid hvalid id now⟩)
  | claim lane now =>
    cases h
    exact Or.inr (Or.inr ⟨rfl, claimNext_kept w.table lane _ now,
      claimNext_valid hvalid lane _ now⟩)
  | progress turn progress now =>
    obtain ⟨claim, hclaim, rfl⟩ := Option.map_eq_some_iff.mp h
    refine Or.inr (Or.inl ⟨claim, hclaim, ?_⟩)
    split
    · next hok => exact writtenBy_updateProgress hok
    · exact Or.inl rfl
  | checkpoint turn result now =>
    obtain ⟨claim, hclaim, rfl⟩ := Option.map_eq_some_iff.mp h
    exact Or.inr (Or.inl ⟨claim, hclaim, writtenBy_checkpoint w.table claim result now⟩)
  | executionEnds turn ended unreadable =>
    obtain ⟨claim, _, hnext⟩ := Option.bind_eq_some_iff.mp h
    simp only at hnext
    split at hnext
    · cases hnext
    · cases hnext
      exact Or.inr (Or.inr ⟨rfl, hsame rfl⟩)
  | finish turn now =>
    obtain ⟨⟨claim, ending⟩, hending, rfl⟩ := Option.map_eq_some_iff.mp h
    refine Or.inr (Or.inl ⟨claim, ?_, writtenBy_finish hvalid claim ending now⟩)
    simp only [writer, hending, Option.map_some]
  | shutdown =>
    cases h
    exact Or.inr (Or.inr ⟨rfl, hsame rfl⟩)
  | restart registry now =>
    cases h
    exact Or.inr (Or.inr ⟨rfl, recoverInterrupted_kept w.table registry.definition now,
      recoverInterrupted_valid hvalid registry.definition now⟩)

theorem next_extends (hvalid : Valid w.table) {action : JobAction}
    (h : w.next uuid action = some w') : Extends w.table w'.table ∧ Valid w'.table := by
  rcases next_table hvalid h with ⟨_, _, _, kind, hinserts⟩ | ⟨claim, _, hwritten⟩ | ⟨_, hkept⟩
  · exact ⟨hinserts.extended, hinserts.valid hvalid⟩
  · exact ⟨hwritten.kept.extended, hwritten.valid hvalid⟩
  · exact ⟨hkept.1.extended, hkept.2⟩

end JobWorld

end MusicServer
