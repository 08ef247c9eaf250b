/-
# The table of background jobs

Jobs are rows that are only ever added; a row keeps its place, its contract and the second
it was created in, and moves from status to status under guards on its status and on the
execution that holds it.

* `JobRecord.Later` says all that may happen to one row;
* `JobTable.Extends` lifts it to the table: every row goes on, new rows come last.
-/
import MusicServer.JsonValue
import MusicServer.RecoveryJournal

namespace MusicServer

/-! ## The data of a job -/

inductive JobStatus where
  | queued
  | running
  | cancelRequested
  | succeeded
  | failed
  | cancelled
  deriving DecidableEq

namespace JobStatus

def isActive : JobStatus → Bool
  | .queued | .running | .cancelRequested => true
  | .succeeded | .failed | .cancelled => false

def canRetry : JobStatus → Bool
  | .failed | .cancelled => true
  | .queued | .running | .cancelRequested | .succeeded => false

/-- `status IN ('running', 'cancel_requested')`: some execution is at work. -/
def isExecuting : JobStatus → Bool
  | .running | .cancelRequested => true
  | .queued | .succeeded | .failed | .cancelled => false

theorem isActive_of_isExecuting {status : JobStatus} (h : status.isExecuting = true) :
    status.isActive = true := by
  cases status <;> first | rfl | exact absurd h (by decide)

end JobStatus

inductive JobLane where
  | localLane
  | providerLane
  deriving DecidableEq

inductive JobCheckpointPolicy where
  | replace
  deriving DecidableEq

structure JobDefinition where
  kind : String
  schemaVersion : ℕ
  lane : JobLane
  restartable : Bool
  checkpointPolicy : JobCheckpointPolicy
  deriving DecidableEq

inductive JobValidationError where
  | invalidKind
  | invalidSchemaVersion
  | invalidProgress
  | duplicateKind
  deriving DecidableEq

def maxJobKindBytes : ℕ := 128

def JobDefinition.validate (definition : JobDefinition) : Except JobValidationError Unit := do
  ensure (¬ (definition.kind.isEmpty = true ∨ maxJobKindBytes < definition.kind.utf8ByteSize))
    .invalidKind
  ensure (definition.schemaVersion ≠ 0) .invalidSchemaVersion

structure JobRecord where
  id : String
  kind : String
  status : JobStatus
  parameters : JsonObject
  result : Option JsonObject
  error : Option String
  progressCurrent : ℕ
  progressTotal : Option ℕ
  progressPhase : String
  progressMessage : String
  attempts : ℕ
  retryOfId : Option String
  createdAtUnixSeconds : ℤ
  updatedAtUnixSeconds : ℤ
  startedAtUnixSeconds : Option ℤ
  finishedAtUnixSeconds : Option ℤ
  lane : JobLane
  schemaVersion : ℕ
  restartable : Bool
  checkpointPolicy : JobCheckpointPolicy
  executionId : Option String

structure NewJob where
  id : String
  definition : JobDefinition
  parameters : JsonObject
  retryOfId : Option String

structure JobClaim where
  job : JobRecord
  executionId : String

inductive JobLeaseState where
  | active
  | cancellationRequested
  | lost
  deriving DecidableEq

/-- Progress as its constructor admits it: never past its total. -/
structure JobProgress where
  current : ℕ
  total : Option ℕ
  phase : String
  message : String
  current_le : ∀ bound ∈ total, current ≤ bound

inductive JobFinish where
  | succeeded (result : JsonObject)
  | failed (error : String)
  | cancelled
  | interrupted (restartable : Bool)

/-- The rows of the table in the order of their `rowid`. -/
abbrev JobTable := List JobRecord

namespace JobTable

/-! ## The statements of the repository -/

def readJob (table : JobTable) (id : String) : Option JobRecord :=
  table.find? fun row => row.id = id

def updateWhere (table : JobTable) (matching : JobRecord → Bool)
    (update : JobRecord → JobRecord) : JobTable :=
  table.map fun row => if matching row then update row else row

def insertJob (table : JobTable) (job : NewJob) (now : ℤ) :
    Except StorageError (JobTable × JobRecord) := do
  ensure ((readJob table job.id).isNone = true) .constraintViolation
  let row : JobRecord :=
    { id := job.id
      kind := job.definition.kind
      status := .queued
      parameters := job.parameters
      result := none
      error := none
      progressCurrent := 0
      progressTotal := none
      progressPhase := "Queued"
      progressMessage := ""
      attempts := 0
      retryOfId := job.retryOfId
      createdAtUnixSeconds := now
      updatedAtUnixSeconds := now
      startedAtUnixSeconds := none
      finishedAtUnixSeconds := none
      lane := job.definition.lane
      schemaVersion := job.definition.schemaVersion
      restartable := job.definition.restartable
      checkpointPolicy := job.definition.checkpointPolicy
      executionId := none }
  return (table ++ [row], row)

def create (table : JobTable) (job : NewJob) (now : ℤ) :
    Except StorageError (JobTable × JobRecord) :=
  insertJob table job now

/-- `WHERE kind = ? AND status IN ('queued', 'running', 'cancel_requested')`. -/
def activeOf (kind : String) (row : JobRecord) : Bool :=
  row.kind = kind && row.status.isActive

/-- `ORDER BY created_at DESC, rowid DESC LIMIT 1`. -/
def newest : JobTable → Option JobRecord
  | [] => none
  | row :: rest =>
    match newest rest with
    | none => some row
    | some later =>
      if later.createdAtUnixSeconds < row.createdAtUnixSeconds then some row else some later

def oldest : JobTable → Option JobRecord
  | [] => none
  | row :: rest =>
    match oldest rest with
    | none => some row
    | some later =>
      if later.createdAtUnixSeconds < row.createdAtUnixSeconds then some later else some row

def createUniqueActive (table : JobTable) (job : NewJob) (now : ℤ) :
    Except StorageError (JobTable × JobRecord × Bool) := do
  match newest (table.filter (activeOf job.definition.kind)) with
  | some row => return (table, row, false)
  | none =>
    let (table', row) ← insertJob table job now
    return (table', row, true)

/-- A queued job is cancelled at once; a running one is asked to stop. -/
def cancelQueued (now : ℤ) (row : JobRecord) : JobRecord :=
  { row with
    status := .cancelled
    progressPhase := "Cancelled"
    updatedAtUnixSeconds := now
    finishedAtUnixSeconds := some now
    executionId := none }

def cancelRunning (now : ℤ) (row : JobRecord) : JobRecord :=
  { row with
    status := .cancelRequested
    progressPhase := "Cancelling"
    updatedAtUnixSeconds := now }

/-- The update a request makes on a job it found in the given status. -/
def cancelWhere (table : JobTable) (id : String) (now : ℤ) : JobStatus → JobTable × Bool
  | .queued =>
    (updateWhere table (fun row => row.id = id && row.status = .queued) (cancelQueued now), true)
  | .running =>
    (updateWhere table (fun row => row.id = id && row.status = .running) (cancelRunning now), true)
  | .cancelRequested | .succeeded | .failed | .cancelled => (table, false)

/-- The answer is the job as it is now and whether the request changed it. -/
def requestCancellation (table : JobTable) (id : String) (now : ℤ) :
    JobTable × Option (JobRecord × Bool) :=
  match readJob table id with
  | none => (table, none)
  | some before =>
    let (table', changed) := cancelWhere table id now before.status
    (table', (readJob table' id).map fun current => (current, changed))

def startExecution (executionId : String) (now : ℤ) (row : JobRecord) : JobRecord :=
  { row with
    status := .running
    executionId := some executionId
    startedAtUnixSeconds := some now
    finishedAtUnixSeconds := none
    error := none
    progressPhase := "Starting"
    updatedAtUnixSeconds := now
    attempts := row.attempts + 1 }

def claimable (lane : JobLane) (row : JobRecord) : Bool :=
  row.status = .queued && row.lane = lane

def claimNext (table : JobTable) (lane : JobLane) (executionId : String) (now : ℤ) :
    JobTable × Option JobClaim :=
  match oldest (table.filter (claimable lane)) with
  | none => (table, none)
  | some next =>
    let table' := updateWhere table (fun row => row.id = next.id && row.status = .queued)
      (startExecution executionId now)
    (table', (readJob table' next.id).map fun job => ⟨job, executionId⟩)

def leaseState (table : JobTable) (id executionId : String) : JobLeaseState :=
  match readJob table id with
  | none => .lost
  | some row =>
    if row.executionId = some executionId then
      match row.status with
      | .running => .active
      | .cancelRequested => .cancellationRequested
      | .queued | .succeeded | .failed | .cancelled => .lost
    else .lost

/-- `WHERE id = ? AND execution_id = ? AND status IN ('running', 'cancel_requested')`. -/
def heldBy (claim : JobClaim) (row : JobRecord) : Bool :=
  row.id = claim.job.id && row.executionId = some claim.executionId && row.status.isExecuting

def setProgress (progress : JobProgress) (now : ℤ) (row : JobRecord) : JobRecord :=
  { row with
    progressCurrent := progress.current
    progressTotal := progress.total
    progressPhase := progress.phase
    progressMessage := progress.message
    updatedAtUnixSeconds := now }

def updateProgress (table : JobTable) (claim : JobClaim) (progress : JobProgress) (now : ℤ) :
    Except StorageError (JobTable × JobLeaseState) := do
  ensure (progress.current < 2 ^ 63) (.invalidLibraryRecord "progress current overflow")
  ensure (∀ total ∈ progress.total, total < 2 ^ 63)
    (.invalidLibraryRecord "progress total overflow")
  let table' := updateWhere table (heldBy claim) (setProgress progress now)
  return (table', leaseState table' claim.job.id claim.executionId)

def setCheckpoint (result : JsonObject) (now : ℤ) (row : JobRecord) : JobRecord :=
  { row with
    result := some result
    updatedAtUnixSeconds := now }

def checkpoint (table : JobTable) (claim : JobClaim) (result : JsonObject) (now : ℤ) :
    JobTable × JobLeaseState :=
  let table' := updateWhere table (heldBy claim) (setCheckpoint result now)
  (table', leaseState table' claim.job.id claim.executionId)

/-- What the end of an execution writes beside the two timestamps. -/
structure FinishedColumns where
  status : JobStatus
  phase : String
  result : Option JsonObject
  error : Option String
  clearStarted : Bool
  finished : Bool

/-- A requested cancellation wins over whatever the handler came to. -/
def finishedColumns (finish : JobFinish) (state : JobLeaseState) : FinishedColumns :=
  if state = .cancellationRequested then ⟨.cancelled, "Cancelled", none, none, false, true⟩
  else
    match finish with
    | .succeeded result => ⟨.succeeded, "Complete", some result, none, false, true⟩
    | .failed error => ⟨.failed, "Failed", none, some error, false, true⟩
    | .cancelled => ⟨.cancelled, "Cancelled", none, none, false, true⟩
    | .interrupted true => ⟨.queued, "Queued for restart", none, none, true, false⟩
    | .interrupted false =>
      ⟨.failed, "Interrupted", none, some "Job was interrupted during server shutdown.", false,
        true⟩

def finishRow (columns : FinishedColumns) (now : ℤ) (row : JobRecord) : JobRecord :=
  { row with
    status := columns.status
    progressPhase := columns.phase
    result := columns.result.or row.result
    error := columns.error
    startedAtUnixSeconds := if columns.clearStarted then none else row.startedAtUnixSeconds
    finishedAtUnixSeconds := if columns.finished then some now else none
    updatedAtUnixSeconds := now
    executionId := none }

def applyFinish (table : JobTable) (claim : JobClaim) (finish : JobFinish)
    (state : JobLeaseState) (now : ℤ) : JobTable :=
  updateWhere table (heldBy claim) (finishRow (finishedColumns finish state) now)

def finish (table : JobTable) (claim : JobClaim) (finish : JobFinish) (now : ℤ) : JobTable :=
  let state := leaseState table claim.job.id claim.executionId
  if state = .lost then table else applyFinish table claim finish state now

/-- Whether a job that a restart interrupted can be run again. -/
def canRestart (definition : Option JobDefinition) (row : JobRecord) : Bool :=
  definition.any fun definition =>
    definition.restartable && row.restartable && definition.schemaVersion = row.schemaVersion &&
      definition.lane = row.lane

def recoverRow (definitions : String → Option JobDefinition) (now : ℤ) (row : JobRecord) :
    JobRecord :=
  if row.status = .cancelRequested then
    { row with
      status := .cancelled
      progressPhase := "Cancelled"
      finishedAtUnixSeconds := some now
      updatedAtUnixSeconds := now
      executionId := none }
  else if canRestart (definitions row.kind) row then
    { row with
      status := .queued
      progressPhase := "Queued after server restart"
      startedAtUnixSeconds := none
      updatedAtUnixSeconds := now
      executionId := none }
  else
    { row with
      status := .failed
      error := some "Job was interrupted by a server restart."
      progressPhase := "Interrupted"
      finishedAtUnixSeconds := some now
      updatedAtUnixSeconds := now
      executionId := none }

def recoverInterrupted (table : JobTable) (definitions : String → Option JobDefinition)
    (now : ℤ) : JobTable × ℕ :=
  (updateWhere table (fun row => row.status.isExecuting) (recoverRow definitions now),
    (table.filter fun row => row.status.isExecuting).length)

end JobTable

/-! ## What may happen to a row -/

/-- The columns that are written once, when the job is created. -/
structure JobContract where
  id : String
  kind : String
  parameters : JsonObject
  retryOfId : Option String
  createdAtUnixSeconds : ℤ
  lane : JobLane
  schemaVersion : ℕ
  restartable : Bool
  checkpointPolicy : JobCheckpointPolicy

namespace JobRecord

def contract (row : JobRecord) : JobContract :=
  ⟨row.id, row.kind, row.parameters, row.retryOfId, row.createdAtUnixSeconds, row.lane,
    row.schemaVersion, row.restartable, row.checkpointPolicy⟩

/-- `row'` is `row` some time later. -/
structure Later (row row' : JobRecord) : Prop where
  contract : row'.contract = row.contract
  attempts : row.attempts ≤ row'.attempts
  /-- A job that has ended never changes again. -/
  ended : row.status.isActive = false → row' = row
  /-- A job asked to stop can only be cancelled. -/
  cancelling : row.status = .cancelRequested →
    row'.status = .cancelRequested ∨ row'.status = .cancelled

theorem Later.refl (row : JobRecord) : Later row row :=
  ⟨rfl, le_refl _, fun _ => rfl, Or.inl⟩

theorem Later.trans {first second third : JobRecord} (h : Later first second)
    (h' : Later second third) : Later first third where
  contract := h'.contract.trans h.contract
  attempts := le_trans h.attempts h'.attempts
  ended hfirst := by
    have hsame := h.ended hfirst
    subst hsame
    exact h'.ended hfirst
  cancelling hfirst := by
    rcases h.cancelling hfirst with hsecond | hsecond
    · exact h'.cancelling hsecond
    · have hsame : third = second := h'.ended (by rw [hsecond]; rfl)
      right
      rw [hsame, hsecond]

namespace Later

variable {row row' : JobRecord}

theorem id (h : Later row row') : row'.id = row.id := congrArg JobContract.id h.contract

theorem kind (h : Later row row') : row'.kind = row.kind := congrArg JobContract.kind h.contract

theorem of_active (hactive : row.status.isActive = true) (hcontract : row'.contract = row.contract)
    (hattempts : row.attempts ≤ row'.attempts)
    (hcancelling : row.status = .cancelRequested →
      row'.status = .cancelRequested ∨ row'.status = .cancelled) : Later row row' where
  contract := hcontract
  attempts := hattempts
  ended hended := by
    rw [hactive] at hended
    exact absurd hended (by decide)
  cancelling := hcancelling

theorem activeOf_left {kind : String} (h : Later row row')
    (hactive : JobTable.activeOf kind row' = true) : JobTable.activeOf kind row = true := by
  by_cases hrow : row.status.isActive = true
  · unfold JobTable.activeOf at hactive ⊢
    rw [Bool.and_eq_true, h.kind] at hactive
    rw [Bool.and_eq_true]
    exact ⟨hactive.1, hrow⟩
  · have hsame : row' = row := h.ended (by simpa using hrow)
    rwa [hsame] at hactive

end Later

/-- A row that no execution ever claimed waits, or was cancelled while it waited. -/
def Started (row : JobRecord) : Prop :=
  row.attempts = 0 → row.status = .queued ∨ row.status = .cancelled

theorem Started.attempts_pos {row : JobRecord} (h : Started row)
    (hexecuting : row.status.isExecuting = true) : 0 < row.attempts := by
  rcases Nat.eq_zero_or_pos row.attempts with hzero | hpos
  · rcases h hzero with hstatus | hstatus <;> rw [hstatus] at hexecuting <;>
      exact absurd hexecuting (by decide)
  · exact hpos

end JobRecord

open JobRecord

namespace JobTable

/-! ### What each statement makes of a row it matches -/

variable {row : JobRecord} {now : ℤ}

theorem later_cancelQueued (h : row.status = .queued) :
    Later row (cancelQueued now row) := by
  refine .of_active (by rw [h]; rfl) rfl (le_refl _) ?_
  intro _
  exact Or.inr rfl

theorem later_cancelRunning (h : row.status = .running) :
    Later row (cancelRunning now row) := by
  refine .of_active (by rw [h]; rfl) rfl (le_refl _) ?_
  intro _
  exact Or.inl rfl

theorem later_startExecution {executionId : String} (h : row.status = .queued) :
    Later row (startExecution executionId now row) := by
  refine .of_active (by rw [h]; rfl) rfl (Nat.le_succ _) ?_
  intro hcancelling
  rw [h] at hcancelling
  exact absurd hcancelling (by decide)

theorem later_setProgress {progress : JobProgress} (h : row.status.isExecuting = true) :
    Later row (setProgress progress now row) := by
  refine .of_active (JobStatus.isActive_of_isExecuting h) rfl (le_refl _) ?_
  intro hcancelling
  exact Or.inl hcancelling

theorem later_setCheckpoint {result : JsonObject} (h : row.status.isExecuting = true) :
    Later row (setCheckpoint result now row) := by
  refine .of_active (JobStatus.isActive_of_isExecuting h) rfl (le_refl _) ?_
  intro hcancelling
  exact Or.inl hcancelling

theorem later_finishRow {finish : JobFinish} {state : JobLeaseState}
    (h : row.status.isExecuting = true)
    (hstate : row.status = .cancelRequested → state = .cancellationRequested) :
    Later row (finishRow (finishedColumns finish state) now row) := by
  refine .of_active (JobStatus.isActive_of_isExecuting h) rfl (le_refl _) ?_
  intro hcancelling
  right
  have hcolumns : (finishedColumns finish state).status = .cancelled := by
    unfold finishedColumns
    rw [if_pos (hstate hcancelling)]
  exact hcolumns

theorem later_recoverRow {definitions : String → Option JobDefinition}
    (h : row.status.isExecuting = true) :
    Later row (recoverRow definitions now row) := by
  have hactive := JobStatus.isActive_of_isExecuting h
  unfold recoverRow
  split
  · exact .of_active hactive rfl (le_refl _) fun _ => Or.inr rfl
  · next hnot =>
    split
    · exact .of_active hactive rfl (le_refl _) fun hcancelling => absurd hcancelling hnot
    · exact .of_active hactive rfl (le_refl _) fun hcancelling => absurd hcancelling hnot

/-! ## What may happen to the table -/

def Kept (table table' : JobTable) : Prop :=
  ∃ follow : JobRecord → JobRecord,
    table' = table.map follow ∧ ∀ row ∈ table, Later row (follow row)

theorem Kept.refl (table : JobTable) : Kept table table := by
  refine ⟨id, ?_, fun row _ => Later.refl row⟩
  rw [List.map_id]

/-- `table'` is `table` some time later: its rows went on, new rows come after them. -/
def Extends (table table' : JobTable) : Prop :=
  ∃ (follow : JobRecord → JobRecord) (added : JobTable),
    table' = table.map follow ++ added ∧ ∀ row ∈ table, Later row (follow row)

theorem Extends.refl (table : JobTable) : Extends table table := by
  refine ⟨id, [], ?_, fun row _ => Later.refl row⟩
  rw [List.map_id, List.append_nil]

variable {table table' : JobTable}

theorem Kept.extended (h : Kept table table') :
    Extends table table' := by
  obtain ⟨follow, rfl, hfollow⟩ := h
  exact ⟨follow, [], (List.append_nil _).symm, hfollow⟩

theorem Extends.trans {first second third : JobTable} (h : Extends first second)
    (h' : Extends second third) : Extends first third := by
  obtain ⟨follow, added, rfl, hfollow⟩ := h
  obtain ⟨follow', added', rfl, hfollow'⟩ := h'
  refine ⟨follow' ∘ follow, added.map follow' ++ added', ?_, ?_⟩
  · rw [List.map_append, List.map_map, List.append_assoc]
  · intro row hrow
    have hmem : follow row ∈ first.map follow ++ added :=
      List.mem_append_left _ (List.mem_map_of_mem hrow)
    exact (hfollow row hrow).trans (hfollow' _ hmem)

theorem extends_append (table added : JobTable) : Extends table (table ++ added) := by
  refine ⟨id, added, ?_, fun row _ => Later.refl row⟩
  rw [List.map_id]

variable {table : JobTable} {update : JobRecord → JobRecord} {matching : JobRecord → Bool}

theorem kept_updateWhere (h : ∀ row ∈ table, matching row = true → Later row (update row)) :
    Kept table (updateWhere table matching update) := by
  refine ⟨fun row => if matching row then update row else row, rfl, ?_⟩
  intro row hrow
  by_cases hmatch : matching row = true
  · simp only [hmatch, if_true]
    exact h row hrow hmatch
  · simp only [hmatch]
    exact Later.refl row

variable {id : String}

theorem Extends.readJob (h : Extends table table') (hrow : readJob table id = some row) :
    ∃ row', JobTable.readJob table' id = some row' ∧ Later row row' := by
  obtain ⟨follow, added, rfl, hfollow⟩ := h
  refine ⟨follow row, ?_, hfollow row (List.mem_of_find?_eq_some hrow)⟩
  unfold JobTable.readJob at hrow ⊢
  rw [List.find?_append, List.find?_map]
  have hsame : table.find? ((fun row => decide (row.id = id)) ∘ follow)
      = table.find? fun row => decide (row.id = id) := by
    clear hrow
    induction table with
    | nil => rfl
    | cons head rest ih =>
      have hhead := (hfollow head List.mem_cons_self).id
      rw [List.find?_cons, List.find?_cons,
        ih fun row hrow => hfollow row (List.mem_cons_of_mem _ hrow), Function.comp_apply, hhead]
  rw [hsame, hrow]
  rfl

theorem Kept.countP_le (h : Kept table table') (kind : String) :
    table'.countP (activeOf kind) ≤ table.countP (activeOf kind) := by
  obtain ⟨follow, rfl, hfollow⟩ := h
  rw [List.countP_map]
  refine List.countP_mono_left ?_
  intro row hrow hactive
  exact (hfollow row hrow).activeOf_left hactive

theorem Kept.ids (h : Kept table table') :
    table'.map JobRecord.id = table.map JobRecord.id := by
  obtain ⟨follow, rfl, hfollow⟩ := h
  rw [List.map_map]
  refine List.map_congr_left ?_
  intro row hrow
  exact (hfollow row hrow).id

/-- The ids are a primary key, and what was never claimed was never run. -/
structure Valid (table : JobTable) : Prop where
  distinct : (table.map JobRecord.id).Nodup
  started : ∀ row ∈ table, Started row

theorem valid_nil : Valid [] :=
  ⟨List.nodup_nil, fun _ h => absurd h List.not_mem_nil⟩

theorem Valid.readJob_of_mem (h : Valid table) (hrow : row ∈ table) :
    readJob table row.id = some row := by
  have hdistinct := h.distinct
  clear h
  induction table with
  | nil => exact absurd hrow List.not_mem_nil
  | cons head rest ih =>
    rw [List.map_cons, List.nodup_cons] at hdistinct
    unfold readJob
    rw [List.find?_cons]
    rcases List.mem_cons.mp hrow with rfl | hrest
    · simp
    · have hne : head.id ≠ row.id := by
        intro heq
        rw [heq] at hdistinct
        exact hdistinct.1 (List.mem_map_of_mem hrest)
      simp only [hne, decide_false]
      exact ih hrest hdistinct.2

theorem readJob_id (h : readJob table id = some row) : row.id = id := by
  have := List.find?_some h
  simpa using this

theorem readJob_mem (h : readJob table id = some row) : row ∈ table :=
  List.mem_of_find?_eq_some h

theorem valid_updateWhere (h : Valid table) (hid : ∀ row, (update row).id = row.id)
    (hstarted : ∀ row ∈ table, matching row = true → Started (update row)) :
    Valid (updateWhere table matching update) where
  distinct := by
    have hids : (updateWhere table matching update).map JobRecord.id = table.map JobRecord.id := by
      unfold updateWhere
      rw [List.map_map]
      refine List.map_congr_left ?_
      intro row _
      rw [Function.comp_apply]
      split
      · exact hid row
      · rfl
    rw [hids]
    exact h.distinct
  started := by
    intro row' hrow'
    obtain ⟨row, hrow, rfl⟩ := List.mem_map.mp hrow'
    split
    · next hmatch => exact hstarted row hrow hmatch
    · exact h.started row hrow

theorem updateWhere_eq_self (h : ∀ row ∈ table, matching row = false) :
    updateWhere table matching update = table := by
  unfold updateWhere
  conv_rhs => rw [← List.map_id table]
  refine List.map_congr_left ?_
  intro row hrow
  rw [h row hrow]
  rfl

theorem readJob_updateWhere (hid : ∀ row, (update row).id = row.id) (id : String) :
    readJob (updateWhere table matching update) id
      = (readJob table id).map fun row => if matching row then update row else row := by
  unfold readJob updateWhere
  rw [List.find?_map]
  congr 2
  funext row
  rw [Function.comp_apply]
  split
  · rw [hid]
  · rfl

theorem readJob_updateWhere_found (hid : ∀ row, (update row).id = row.id)
    (hfound : readJob table id = some row) (hmatch : matching row = true) :
    readJob (updateWhere table matching update) id = some (update row) := by
  rw [readJob_updateWhere hid, hfound, Option.map_some, if_pos hmatch]

theorem readJob_updateWhere_other {key id : String}
    (hmatching : ∀ row, matching row = true → row.id = key) (hid : ∀ row, (update row).id = row.id)
    (hne : id ≠ key) :
    readJob (updateWhere table matching update) id = readJob table id := by
  rw [readJob_updateWhere hid]
  rcases hfound : readJob table id with _ | row
  · rfl
  · rw [Option.map_some, if_neg]
    intro hmatch
    have hrow := readJob_id hfound
    rw [hmatching row hmatch] at hrow
    exact hne hrow.symm

/-! ## What each statement does -/

theorem insertJob_ok {job : NewJob} (h : insertJob table job now = .ok (table', row)) :
    readJob table job.id = none ∧ table' = table ++ [row] ∧ row.id = job.id ∧
      row.kind = job.definition.kind ∧ row.status = .queued ∧ row.lane = job.definition.lane ∧
      row.createdAtUnixSeconds = now ∧ row.executionId = none ∧ row.attempts = 0 := by
  unfold insertJob at h
  obtain ⟨_, hfree, h⟩ := bind_eq_ok.mp h
  rw [ensure_eq_ok, Option.isNone_iff_eq_none] at hfree
  cases h
  exact ⟨hfree, rfl, rfl, rfl, rfl, rfl, rfl, rfl, rfl⟩

theorem insertJob_valid {job : NewJob} (hvalid : Valid table)
    (h : insertJob table job now = .ok (table', row)) : Valid table' := by
  obtain ⟨hfree, rfl, hid, _, hqueued, _⟩ := insertJob_ok h
  constructor
  · rw [List.map_append, List.nodup_append]
    refine ⟨hvalid.distinct, List.nodup_singleton _, ?_⟩
    intro id hold id' hnew heq
    rw [List.map_cons, List.map_nil, List.mem_singleton, hid] at hnew
    obtain ⟨old, hmem, rfl⟩ := List.mem_map.mp hold
    have hfound := hvalid.readJob_of_mem hmem
    rw [heq, hnew, hfree] at hfound
    cases hfound
  · intro other hother
    rcases List.mem_append.mp hother with hold | hnew
    · exact hvalid.started other hold
    · rw [List.mem_singleton] at hnew
      intro _
      left
      rw [hnew, hqueued]

theorem newest_eq_none {rows : JobTable} (h : newest rows = none) : rows = [] := by
  cases rows with
  | nil => rfl
  | cons row rest =>
    unfold newest at h
    split at h
    · cases h
    · split at h <;> cases h

theorem createUniqueActive_ok {job : NewJob} {created : Bool}
    (h : createUniqueActive table job now = .ok (table', row, created)) :
    (created = false ∧ table' = table) ∨
      (created = true ∧ table.countP (activeOf job.definition.kind) = 0 ∧
        insertJob table job now = .ok (table', row)) := by
  unfold createUniqueActive at h
  split at h
  · cases h
    exact Or.inl ⟨rfl, rfl⟩
  · next hnone =>
    obtain ⟨⟨inserted, record⟩, hinsert, h⟩ := bind_eq_ok.mp h
    cases h
    have hempty := newest_eq_none hnone
    refine Or.inr ⟨rfl, ?_, hinsert⟩
    rw [List.countP_eq_length_filter, hempty, List.length_nil]

theorem cancelWhere_kept (table : JobTable) (id : String) (now : ℤ) (status : JobStatus) :
    Kept table (cancelWhere table id now status).1 := by
  cases status with
  | queued =>
    refine kept_updateWhere ?_
    intro row _ hmatch
    rw [Bool.and_eq_true, decide_eq_true_eq, decide_eq_true_eq] at hmatch
    exact later_cancelQueued hmatch.2
  | running =>
    refine kept_updateWhere ?_
    intro row _ hmatch
    rw [Bool.and_eq_true, decide_eq_true_eq, decide_eq_true_eq] at hmatch
    exact later_cancelRunning hmatch.2
  | cancelRequested | succeeded | failed | cancelled => exact .refl table

theorem cancelWhere_valid (hvalid : Valid table) (id : String) (now : ℤ) (status : JobStatus) :
    Valid (cancelWhere table id now status).1 := by
  cases status with
  | queued =>
    refine valid_updateWhere hvalid (fun _ => rfl) ?_
    intro row _ _ _
    exact Or.inr rfl
  | running =>
    refine valid_updateWhere hvalid (fun _ => rfl) ?_
    intro row hrow hmatch hzero
    rw [Bool.and_eq_true, decide_eq_true_eq, decide_eq_true_eq] at hmatch
    have hpos := (hvalid.started row hrow).attempts_pos (by rw [hmatch.2]; rfl)
    exact absurd hzero (Nat.ne_of_gt hpos)
  | cancelRequested | succeeded | failed | cancelled => exact hvalid

theorem requestCancellation_kept (table : JobTable) (id : String) (now : ℤ) :
    Kept table (requestCancellation table id now).1 := by
  unfold requestCancellation
  split
  · exact .refl table
  · exact cancelWhere_kept table id now _

theorem requestCancellation_valid (hvalid : Valid table) (id : String) (now : ℤ) :
    Valid (requestCancellation table id now).1 := by
  unfold requestCancellation
  split
  · exact hvalid
  · exact cancelWhere_valid hvalid id now _

theorem requestCancellation_changed {job : JobRecord}
    (h : (requestCancellation table id now).2 = some (job, true)) :
    readJob (requestCancellation table id now).1 id = some job ∧
      (job.status = .cancelRequested ∨ job.status = .cancelled) := by
  unfold requestCancellation at h ⊢
  rcases hfound : readJob table id with _ | before
  · rw [hfound] at h
    cases h
  · rw [hfound] at h
    have hid := readJob_id hfound
    have hcancel : (cancelWhere table id now before.status).2 = true →
        ∃ after, readJob (cancelWhere table id now before.status).1 id = some after ∧
          (after.status = .cancelRequested ∨ after.status = .cancelled) := by
      intro hchanged
      rcases hstatus : before.status <;> rw [hstatus] at hchanged
      · refine ⟨cancelQueued now before, ?_, Or.inr rfl⟩
        refine readJob_updateWhere_found ?_ hfound ?_
        · exact fun _ => rfl
        · simp [hid, hstatus]
      · refine ⟨cancelRunning now before, ?_, Or.inl rfl⟩
        refine readJob_updateWhere_found ?_ hfound ?_
        · exact fun _ => rfl
        · simp [hid, hstatus]
      all_goals cases hchanged
    simp only [Option.map_eq_some_iff, Prod.mk.injEq] at h
    obtain ⟨current, hcurrent, rfl, hchanged⟩ := h
    obtain ⟨after, hafter, hstatus⟩ := hcancel hchanged
    rw [hafter] at hcurrent
    cases hcurrent
    exact ⟨hafter, hstatus⟩

/-! ### Claims -/

theorem oldest_split {rows : JobTable} (h : oldest rows = some row) :
    ∃ before after, rows = before ++ row :: after ∧
      (∀ other ∈ before, row.createdAtUnixSeconds < other.createdAtUnixSeconds) ∧
      (∀ other ∈ after, row.createdAtUnixSeconds ≤ other.createdAtUnixSeconds) := by
  induction rows generalizing row with
  | nil => cases h
  | cons head rest ih =>
    unfold oldest at h
    rcases hrest : oldest rest with _ | later
    · simp only [hrest] at h
      cases h
      have hempty : rest = [] := by
        cases rest with
        | nil => rfl
        | cons next others =>
          unfold oldest at hrest
          split at hrest
          · cases hrest
          · split at hrest <;> cases hrest
      subst hempty
      exact ⟨[], [], rfl, fun _ h => absurd h List.not_mem_nil, fun _ h => absurd h List.not_mem_nil⟩
    · simp only [hrest] at h
      obtain ⟨before, after, hsplit, hbefore, hafter⟩ := ih hrest
      split at h
      · next hlt =>
        cases h
        refine ⟨head :: before, after, by rw [hsplit]; rfl, ?_, hafter⟩
        intro other hother
        rcases List.mem_cons.mp hother with rfl | hother
        · exact hlt
        · exact hbefore other hother
      · next hge =>
        cases h
        refine ⟨[], rest, rfl, fun _ h => absurd h List.not_mem_nil, ?_⟩
        intro other hother
        rw [hsplit] at hother
        have hle := not_lt.mp hge
        rcases List.mem_append.mp hother with hother | hother
        · exact le_trans hle (le_of_lt (hbefore other hother))
        · rcases List.mem_cons.mp hother with rfl | hother
          · exact hle
          · exact le_trans hle (hafter other hother)

theorem oldest_mem {rows : JobTable} (h : oldest rows = some row) :
    row ∈ rows := by
  obtain ⟨before, after, rfl, _⟩ := oldest_split h
  exact List.mem_append_right _ List.mem_cons_self

theorem mem_claimable {lane : JobLane} (h : oldest (table.filter (claimable lane)) = some row) :
    row ∈ table ∧ row.status = .queued ∧ row.lane = lane := by
  obtain ⟨hmem, hclaimable⟩ := List.mem_filter.mp (oldest_mem h)
  unfold claimable at hclaimable
  rw [Bool.and_eq_true, decide_eq_true_eq, decide_eq_true_eq] at hclaimable
  exact ⟨hmem, hclaimable⟩

variable {claim : JobClaim}

theorem claimNext_some (hvalid : Valid table) {lane : JobLane} {executionId : String}
    (h : (claimNext table lane executionId now).2 = some claim) :
    ∃ row, oldest (table.filter (claimable lane)) = some row ∧
      claim = ⟨startExecution executionId now row, executionId⟩ := by
  unfold claimNext at h
  rcases holdest : oldest (table.filter (claimable lane)) with _ | row
  · rw [holdest] at h
    cases h
  · rw [holdest] at h
    obtain ⟨hmem, hqueued, _⟩ := mem_claimable holdest
    have hnow : readJob (updateWhere table (fun other => other.id = row.id && other.status = .queued)
        (startExecution executionId now)) row.id = some (startExecution executionId now row) := by
      refine readJob_updateWhere_found ?_ (hvalid.readJob_of_mem hmem) ?_
      · exact fun _ => rfl
      · simp [hqueued]
    simp only [hnow, Option.map_some, Option.some.injEq] at h
    exact ⟨row, rfl, h.symm⟩

theorem claimNext_table (table : JobTable) (lane : JobLane) (executionId : String) (now : ℤ) :
    (claimNext table lane executionId now).1 = table ∨
      ∃ row, oldest (table.filter (claimable lane)) = some row ∧
        (claimNext table lane executionId now).1
          = updateWhere table (fun other => other.id = row.id && other.status = .queued)
              (startExecution executionId now) := by
  unfold claimNext
  split
  · exact Or.inl rfl
  · next row hrow => exact Or.inr ⟨row, hrow, rfl⟩

theorem claimNext_kept (table : JobTable) (lane : JobLane) (executionId : String) (now : ℤ) :
    Kept table (claimNext table lane executionId now).1 := by
  rcases claimNext_table table lane executionId now with htable | ⟨row, _, htable⟩ <;> rw [htable]
  · exact .refl table
  · refine kept_updateWhere ?_
    intro other _ hmatch
    rw [Bool.and_eq_true, decide_eq_true_eq, decide_eq_true_eq] at hmatch
    exact later_startExecution hmatch.2

theorem claimNext_valid (hvalid : Valid table) (lane : JobLane) (executionId : String) (now : ℤ) :
    Valid (claimNext table lane executionId now).1 := by
  rcases claimNext_table table lane executionId now with htable | ⟨row, _, htable⟩ <;> rw [htable]
  · exact hvalid
  · refine valid_updateWhere hvalid (fun _ => rfl) ?_
    intro other _ _ hzero
    exact absurd hzero (Nat.succ_ne_zero _)

/-! ### Writes under a lease -/

/-- The claim still holds the lease of its job. -/
def HoldsLease (table : JobTable) (claim : JobClaim) : Prop :=
  leaseState table claim.job.id claim.executionId ≠ .lost

theorem heldBy_eq_true :
    heldBy claim row = true ↔ row.id = claim.job.id ∧
      row.executionId = some claim.executionId ∧ row.status.isExecuting = true := by
  unfold heldBy
  rw [Bool.and_eq_true, Bool.and_eq_true, decide_eq_true_eq, decide_eq_true_eq, and_assoc]

theorem holdsLease_iff :
    HoldsLease table claim ↔
      ∃ row, readJob table claim.job.id = some row ∧ heldBy claim row = true := by
  unfold HoldsLease leaseState
  rcases hfound : readJob table claim.job.id with _ | row
  · simp
  · have hid := readJob_id hfound
    simp only [Option.some.injEq, exists_eq_left', heldBy_eq_true, hid, true_and]
    by_cases hexecution : row.executionId = some claim.executionId
    · rcases hstatus : row.status <;> simp [hexecution, JobStatus.isExecuting]
    · simp [hexecution]

theorem Valid.holdsLease (h : Valid table) (hrow : row ∈ table) (hheld : heldBy claim row = true) :
    HoldsLease table claim := by
  have hfound := h.readJob_of_mem hrow
  rw [(heldBy_eq_true.mp hheld).1] at hfound
  exact holdsLease_iff.mpr ⟨row, hfound, hheld⟩

theorem Valid.leaseState_cancelling (h : Valid table) (hrow : row ∈ table)
    (hheld : heldBy claim row = true) (hcancelling : row.status = .cancelRequested) :
    leaseState table claim.job.id claim.executionId = .cancellationRequested := by
  obtain ⟨hid, hexecution, _⟩ := heldBy_eq_true.mp hheld
  have hfound := h.readJob_of_mem hrow
  rw [hid] at hfound
  unfold leaseState
  rw [hfound]
  simp only [hexecution, if_true, hcancelling]

/-- An update of the row that `claim` holds, or nothing. -/
def WrittenBy (claim : JobClaim) (table table' : JobTable) : Prop :=
  table' = table ∨
    ∃ update : JobRecord → JobRecord, table' = updateWhere table (heldBy claim) update ∧
      (∀ row, (update row).id = row.id) ∧ (∀ row, (update row).attempts = row.attempts) ∧
      ∀ row ∈ table, heldBy claim row = true → Later row (update row)

namespace WrittenBy

variable {claim : JobClaim} {table table' : JobTable}

theorem holdsLease (h : WrittenBy claim table table') (hvalid : Valid table)
    (hne : table' ≠ table) : HoldsLease table claim := by
  rcases h with h | ⟨update, rfl, _⟩
  · exact absurd h hne
  · by_contra hlost
    apply hne
    refine updateWhere_eq_self ?_
    intro row hrow
    rw [Bool.eq_false_iff]
    intro hheld
    exact hlost (hvalid.holdsLease hrow hheld)

theorem other (h : WrittenBy claim table table') {id : String} (hne : id ≠ claim.job.id) :
    readJob table' id = readJob table id := by
  rcases h with rfl | ⟨update, rfl, hid, _⟩
  · rfl
  · exact readJob_updateWhere_other (fun row hheld => (heldBy_eq_true.mp hheld).1) hid hne

theorem kept (h : WrittenBy claim table table') : Kept table table' := by
  rcases h with rfl | ⟨update, rfl, _, _, hlater⟩
  · exact .refl _
  · exact kept_updateWhere hlater

theorem valid (h : WrittenBy claim table table') (hvalid : Valid table) : Valid table' := by
  rcases h with rfl | ⟨update, rfl, hid, hattempts, _⟩
  · exact hvalid
  · refine valid_updateWhere hvalid hid ?_
    intro row hrow hheld hzero
    have hpos := (hvalid.started row hrow).attempts_pos (heldBy_eq_true.mp hheld).2.2
    rw [hattempts] at hzero
    exact absurd hzero (Nat.ne_of_gt hpos)

end WrittenBy

theorem writtenBy_updateProgress {progress : JobProgress} {state : JobLeaseState}
    (h : updateProgress table claim progress now = .ok (table', state)) :
    WrittenBy claim table table' := by
  unfold updateProgress at h
  obtain ⟨_, _, h⟩ := bind_eq_ok.mp h
  obtain ⟨_, _, h⟩ := bind_eq_ok.mp h
  cases h
  refine Or.inr ⟨setProgress progress now, rfl, fun _ => rfl, fun _ => rfl, ?_⟩
  intro row _ hheld
  exact later_setProgress (heldBy_eq_true.mp hheld).2.2

theorem writtenBy_checkpoint (table : JobTable) (claim : JobClaim) (result : JsonObject)
    (now : ℤ) : WrittenBy claim table (checkpoint table claim result now).1 := by
  refine Or.inr ⟨setCheckpoint result now, rfl, fun _ => rfl, fun _ => rfl, ?_⟩
  intro row _ hheld
  exact later_setCheckpoint (heldBy_eq_true.mp hheld).2.2

theorem writtenBy_finish (hvalid : Valid table) (claim : JobClaim) (ending : JobFinish) (now : ℤ) :
    WrittenBy claim table (finish table claim ending now) := by
  unfold finish
  simp only
  split
  · exact Or.inl rfl
  · refine Or.inr ⟨_, rfl, fun _ => rfl, fun _ => rfl, ?_⟩
    intro row hrow hheld
    refine later_finishRow (heldBy_eq_true.mp hheld).2.2 ?_
    intro hcancelling
    exact hvalid.leaseState_cancelling hrow hheld hcancelling

/-! ### Recovery -/

theorem recoverInterrupted_kept (table : JobTable)
    (definitions : String → Option JobDefinition) (now : ℤ) :
    Kept table (recoverInterrupted table definitions now).1 :=
  kept_updateWhere fun _ _ hexecuting => later_recoverRow hexecuting

theorem recoverRow_attempts (definitions : String → Option JobDefinition) (now : ℤ)
    (row : JobRecord) : (recoverRow definitions now row).attempts = row.attempts := by
  unfold recoverRow
  split
  · rfl
  · split <;> rfl

theorem recoverRow_id (definitions : String → Option JobDefinition) (now : ℤ)
    (row : JobRecord) : (recoverRow definitions now row).id = row.id := by
  unfold recoverRow
  split
  · rfl
  · split <;> rfl

theorem recoverInterrupted_valid (hvalid : Valid table)
    (definitions : String → Option JobDefinition) (now : ℤ) :
    Valid (recoverInterrupted table definitions now).1 := by
  refine valid_updateWhere hvalid (recoverRow_id definitions now) ?_
  intro row hrow hexecuting hzero
  have hpos := (hvalid.started row hrow).attempts_pos hexecuting
  rw [recoverRow_attempts] at hzero
  exact absurd hzero (Nat.ne_of_gt hpos)

end JobTable

end MusicServer
