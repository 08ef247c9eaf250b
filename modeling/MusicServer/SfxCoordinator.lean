/-
# The sound effects coordinator

Requests run in the handlers that received them: each takes the one gate, looks at the flag
that asks for recovery, and goes on from await point to await point, at any of which it may be
dropped.  A mutation has a journal, which is created, moved to applying, and moved to its end
once its files are there; what is unfinished when the process starts is replayed.
-/
import MusicServer.Futures
import MusicServer.RecoveryRows

namespace MusicServer

open Futures

/-! ## Mutations -/

/-- A path under the root of the sound effects; the checks are those of every media path. -/
abbrev SfxPath := LibraryPath

structure SfxFileRecord where
  name : String
  path : SfxPath
  sizeBytes : ℕ
  modifiedAtUnixSeconds : ℤ
  deriving DecidableEq

structure SfxFolderRecord where
  name : String
  path : SfxPath
  fileCount : ℕ
  hasChildren : Bool
  deriving DecidableEq

inductive SfxUploadConflictPolicy where
  | rename
  | overwrite
  | skip
  deriving DecidableEq

inductive SfxUploadResolution where
  | publish (destination : SfxPath) (replaceExisting : Bool)
  | skip
  deriving DecidableEq

structure StagedSfxUpload where
  requested : SfxPath
  staged : SfxPath
  deriving DecidableEq

inductive SfxUploadBatchItem where
  | published (file : SfxFileRecord)
  | skipped (requested : SfxPath)
  deriving DecidableEq

inductive SfxMutation where
  | createFolder (path : SfxPath)
  | renameFolder (source destination : SfxPath)
  | deleteFolder (path : SfxPath) (recursive : Bool)
  | moveFile (source destination : SfxPath)
  | deleteFile (path : SfxPath)
  | publishUpload (staged destination : SfxPath) (replaceExisting : Bool)
  deriving DecidableEq

inductive SfxMutationValidationError where
  | invalidJournalDomain
  | invalidJournalOperation
  | invalidJournalPlan
  | unknownJournalOperation
  deriving DecidableEq

namespace SfxMutation

def operation (mutation : SfxMutation) : Except SfxMutationValidationError String :=
  (parseOperation (match mutation with
    | .createFolder _ => "create_folder"
    | .renameFolder _ _ => "rename_folder"
    | .deleteFolder _ _ => "delete_folder"
    | .moveFile _ _ => "move_file"
    | .deleteFile _ => "delete_file"
    | .publishUpload _ _ _ => "publish_upload")).mapError fun _ => .invalidJournalOperation

def plan : SfxMutation → Json
  | .createFolder path | .deleteFile path => .object [("path", .string path.asStr)]
  | .deleteFolder path recursive =>
    .object [("path", .string path.asStr), ("recursive", .bool recursive)]
  | .renameFolder source destination | .moveFile source destination =>
    .object [("destination", .string destination.asStr), ("source", .string source.asStr)]
  | .publishUpload staged destination replaceExisting =>
    .object [("destination", .string destination.asStr), ("replace_existing", .bool replaceExisting),
      ("staged", .string staged.asStr)]

end SfxMutation

def planField (plan : Json) (name : String) : Option Json :=
  plan.asObject.bind fun fields => JsonObject.get fields name

def parseSfxPath (plan : Json) (name : String) : Except SfxMutationValidationError SfxPath :=
  match (planField plan name).bind Json.asString with
  | none => .error .invalidJournalPlan
  | some value => (LibraryPath.parse value.toList).mapError fun _ => .invalidJournalPlan

def parseSfxFlag (plan : Json) (name : String) : Except SfxMutationValidationError Bool :=
  match (planField plan name).bind Json.asBool with
  | none => .error .invalidJournalPlan
  | some value => .ok value

def SfxMutation.fromJournal (row : JournalRow) : Except SfxMutationValidationError SfxMutation :=
  if row.domain ≠ .sfx then .error .invalidJournalDomain
  else
    match row.operation with
    | "create_folder" => (parseSfxPath row.plan "path").map .createFolder
    | "rename_folder" => do
      let source ← parseSfxPath row.plan "source"
      let destination ← parseSfxPath row.plan "destination"
      return .renameFolder source destination
    | "delete_folder" => do
      let path ← parseSfxPath row.plan "path"
      let recursive ← parseSfxFlag row.plan "recursive"
      return .deleteFolder path recursive
    | "move_file" => do
      let source ← parseSfxPath row.plan "source"
      let destination ← parseSfxPath row.plan "destination"
      return .moveFile source destination
    | "delete_file" => (parseSfxPath row.plan "path").map .deleteFile
    | "publish_upload" => do
      let staged ← parseSfxPath row.plan "staged"
      let destination ← parseSfxPath row.plan "destination"
      let replaceExisting ← parseSfxFlag row.plan "replace_existing"
      return .publishUpload staged destination replaceExisting
    | _ => .error .unknownJournalOperation

inductive SfxMutationOutcome where
  | folder (folder : SfxFolderRecord)
  | file (file : SfxFileRecord)
  | deleted
  deriving DecidableEq

inductive SfxMutationFailureKind where
  | notFound
  | conflict
  | notEmpty
  | invalid
  | capacity
  | io
  deriving DecidableEq

/-- Why the files refuse; the code is one of a few short texts. -/
structure SfxMutationFailure where
  kind : SfxMutationFailureKind
  code : String
  recoveryRequired : Bool
  code_short : code.utf8ByteSize ≤ 64
  deriving DecidableEq

inductive SfxCoordinatorError where
  | invalidMutation (error : SfxMutationValidationError)
  | mutation (failure : SfxMutationFailure)
  | dependency (operation : String)
  | recoveryConflict
  deriving DecidableEq

/-! ## The shared state -/

/-- What was done to the files, newest first: a journal was created, its mutation applied by its
request, or replayed at a start. -/
inductive SfxEvent where
  | created (id : String)
  | applied (id : String)
  | replayed (id : String)
  deriving DecidableEq

/-- The task that starts the coordinator, or a request. -/
inductive SfxTask where
  | startup
  | request (number : ℕ)
  deriving DecidableEq

structure SfxWorld where
  journals : JournalTable
  /-- There is a coordinator, and its flag. -/
  serving : Bool
  recoveryRequired : Bool
  /-- Who has the gate; before there is a coordinator, the task that starts it. -/
  gate : Option SfxTask
  log : List SfxEvent

/-- What decides the answer of a point: a call goes through, is lost before or after it was done,
or answers what its files make of it. -/
inductive SfxDraw where
  | go (now : ℤ)
  | lost (done : Bool) (now : ℤ)
  | fresh (id : String)
  | files (answer : Except SfxCoordinatorError (List SfxFileRecord))
  | folders (answer : Except SfxCoordinatorError (List SfxFolderRecord))
  | found (answer : Except SfxCoordinatorError Bool)
  | resolved (answer : Except SfxMutationFailure SfxUploadResolution)
  | discarded (answer : Except SfxMutationFailure Unit)
  | applied (answer : Except SfxMutationFailure SfxMutationOutcome)

inductive SfxPoint where
  /-- The flag is read or set, the coordinator built, or an id drawn; nothing waits here. -/
  | step
  /-- The flag is read with the gate held: the request is admitted, or refused. -/
  | admission
  | lock
  | loadUnfinished
  | createJournal
  | transition (next : RecoveryState)
  | apply
  | files
  deriving DecidableEq

abbrev SfxFuture (α : Type) := Future SfxPoint SfxDraw SfxWorld SfxCoordinatorError α

/-- A task may be dropped wherever it waits. -/
def SfxPoint.droppable : SfxPoint → Bool
  | .step | .admission => false
  | _ => true

def sfxLock : LockRules SfxTask SfxPoint SfxWorld where
  holder world := world.gate
  release task world := if world.gate = some task then { world with gate := none } else world
  droppable := SfxPoint.droppable
  holder_release world task h := by
    rw [if_pos h]
  release_other world task h := by
    rw [if_neg h]

section

variable (floatLength : BitVec 64 → ℕ) (task : SfxTask)

/-! ## Points -/

def loadFlag (point : SfxPoint) : SfxFuture Bool :=
  .ask point fun _ world => some (.ok world.recoveryRequired, world)

def storeFlag : SfxFuture Unit :=
  .ask .step fun _ world => some (.ok (), { world with recoveryRequired := true })

/-- Waits until the gate of the coordinator is free. -/
def lockGate : SfxFuture Unit :=
  .ask .lock fun _ world =>
    if world.serving = true ∧ world.gate = none then
      some (.ok (), { world with gate := some task })
    else none

/-- A look at the files, which may answer anything. -/
def readFiles {α : Type} (answer : SfxDraw → Option (Except SfxCoordinatorError α)) :
    SfxFuture α :=
  .ask .files fun draw world => (answer draw).map fun result => (result, world)

def resolveUpload (_requested : SfxPath) (_policy : SfxUploadConflictPolicy) :
    SfxFuture (Except SfxMutationFailure SfxUploadResolution) :=
  .ask .files fun draw world =>
    match draw with
    | .resolved answer => some (.ok answer, world)
    | _ => none

def discardUpload (_staged : SfxPath) : SfxFuture (Except SfxMutationFailure Unit) :=
  .ask .files fun draw world =>
    match draw with
    | .discarded answer => some (.ok answer, world)
    | _ => none

def freshId : SfxFuture String :=
  .ask .step fun draw world =>
    match draw with
    | .fresh id => some (.ok id, world)
    | _ => none

/-- A write to the table, and what it answers once it is done. -/
def journalCall {α : Type} (point : SfxPoint) (operation : String)
    (write : JournalTable → ℤ → Except JournalError JournalTable)
    (answer : JournalTable → JournalTable → Except JournalError α)
    (event : List SfxEvent) : SfxFuture α :=
  .ask point fun draw world =>
    match draw with
    | .go now =>
      match write world.journals now with
      | .error _ => some (.error (.dependency operation), world)
      | .ok journals =>
        some ((answer world.journals journals).mapError fun _ => .dependency operation,
          { world with journals := journals, log := event ++ world.log })
    | .lost false _ => some (.error (.dependency operation), world)
    | .lost true now =>
      match write world.journals now with
      | .error _ => some (.error (.dependency operation), world)
      | .ok journals =>
        some (.error (.dependency operation),
          { world with journals := journals, log := event ++ world.log })
    | _ => none

def createRecoveryJournal (draft : JournalDraft) : SfxFuture JournalRow :=
  journalCall .createJournal "create an SFX recovery journal"
    (fun journals now => journals.insert floatLength draft now)
    (fun _ journals =>
      match journals.readEntry floatLength draft.id with
      | .error error => .error error
      | .ok none => .error .invalidRecoveryJournalRecord
      | .ok (some row) => .ok row)
    [.created draft.id]

def transitionRecoveryJournal (id : String) (expected next : RecoveryState) (progress : Json) :
    SfxFuture JournalTransition :=
  journalCall (.transition next) "transition an SFX recovery journal"
    (fun journals now => (JournalTable.checkTransition floatLength expected next progress).map
      fun _ => journals.update id expected next progress now)
    (fun journals journals' => JournalTable.transitionAnswer floatLength journals journals' id expected)
    []

def unfinishedRecoveryJournals : SfxFuture (List JournalRow) :=
  .ask .loadUnfinished fun draw world =>
    match draw with
    | .go _ => some ((world.journals.unfinished floatLength .sfx).mapError
        fun _ => .dependency "load unfinished SFX mutations", world)
    | .lost _ _ => some (.error (.dependency "load unfinished SFX mutations"), world)
    | _ => none

/-- The files are changed, wholly or in part, or refuse; the log says for which journal. -/
def applyEffects (id : String) (_mutation : SfxMutation) (replay : Bool) :
    SfxFuture (Except SfxMutationFailure SfxMutationOutcome) :=
  .ask .apply fun draw world =>
    match draw with
    | .applied answer => some (.ok answer, { world with
        log := (if replay = true then .replayed id else .applied id) :: world.log })
    | _ => none

/-! ## Mutations under a journal -/

def stageJson (stage : String) : Json := .object [("stage", .string stage)]

def codeJson (code : String) : Json := .object [("error_code", .string code)]

def transition (current : JournalRow) (next : RecoveryState) (progress : Json) :
    SfxFuture JournalRow := do
  let answer ← transitionRecoveryJournal floatLength current.id current.state next progress
  match answer with
  | .applied row => return row
  | .conflict _ => .fail .recoveryConflict

def draftOf (id : String) (mutation : SfxMutation) : Except SfxCoordinatorError JournalDraft :=
  match mutation.operation with
  | .error error => .error (.invalidMutation error)
  | .ok operation =>
    (JournalDraft.new floatLength id .sfx operation mutation.plan).mapError
      fun _ => .invalidMutation .invalidJournalPlan

/-- The flag is set before the error goes on. -/
def requireRecovery {α : Type} (error : SfxCoordinatorError) : SfxFuture α := do
  storeFlag
  .fail error

/-- What is left of a mutation once its files have answered. -/
def finishMutation (applying : JournalRow) :
    Except SfxMutationFailure SfxMutationOutcome → SfxFuture SfxMutationOutcome
  | .error failure =>
    if failure.recoveryRequired = false then do
      let failed ← (transition floatLength applying .failed (codeJson failure.code)).attempt
      match failed with
      | .error _ => requireRecovery .recoveryConflict
      | .ok _ => .fail (.mutation failure)
    else requireRecovery (.mutation failure)
  | .ok outcome => do
    let committed ← (transition floatLength applying .committed (stageJson "committed")).attempt
    match committed with
    | .error error => requireRecovery error
    | .ok _ => return outcome

def executeMutation (mutation : SfxMutation) : SfxFuture SfxMutationOutcome := do
  let id ← freshId
  let draft ← .ofExcept (draftOf floatLength id mutation)
  let planned ← createRecoveryJournal floatLength draft
  let applying ← (transition floatLength planned .applying (stageJson "applying")).attempt
  match applying with
  | .error error => requireRecovery error
  | .ok applying => do
    let answer ← applyEffects applying.id mutation false
    finishMutation floatLength applying answer

/-! ## Requests -/

/-- Refuses where the flag is set, before the gate is taken and once it is. -/
def beginAccess : SfxFuture Unit := do
  let required ← loadFlag .step
  if required = true then .fail .recoveryConflict
  else do
    lockGate task
    let required ← loadFlag .admission
    if required = true then .fail .recoveryConflict else return ()

def mutate (mutation : SfxMutation) : SfxFuture SfxMutationOutcome := do
  beginAccess task
  executeMutation floatLength mutation

/-- Whether each is discarded does not matter. -/
def discardUploads : List StagedSfxUpload → SfxFuture Unit
  | [] => return ()
  | upload :: rest => do
    let _ ← discardUpload upload.staged
    discardUploads rest

/-- After an error of a mutation its upload goes, unless a recovery will want it. -/
def discardAfterError (upload : StagedSfxUpload) (rest : List StagedSfxUpload)
    (error : SfxCoordinatorError) : SfxFuture (List SfxUploadBatchItem) := do
  let required ← loadFlag .step
  if required = false then do
    let _ ← discardUpload upload.staged
    discardUploads rest
    .fail error
  else do
    discardUploads rest
    .fail error

def publishStaged : List SfxUploadBatchItem → SfxUploadConflictPolicy → List StagedSfxUpload →
    SfxFuture (List SfxUploadBatchItem)
  | results, _, [] => return results
  | results, policy, upload :: rest => do
    let resolution ← resolveUpload upload.requested policy
    match resolution with
    | .error failure => do
      discardUploads (upload :: rest)
      .fail (.mutation failure)
    | .ok .skip => do
      let discarded ← discardUpload upload.staged
      match discarded with
      | .error failure => do
        discardUploads rest
        .fail (.mutation failure)
      | .ok _ => publishStaged (results ++ [.skipped upload.requested]) policy rest
    | .ok (.publish destination replaceExisting) => do
      let outcome ← (executeMutation floatLength
        (.publishUpload upload.staged destination replaceExisting)).attempt
      match outcome with
      | .ok (.file file) => publishStaged (results ++ [.published file]) policy rest
      | .ok _ => do
        storeFlag
        discardUploads rest
        .fail .recoveryConflict
      | .error error => discardAfterError upload rest error

inductive SfxRequest where
  | listFiles
  | listFolders
  | listDirectory (path : Option SfxPath)
  | targetExists (path : SfxPath)
  | createFolder (path : SfxPath)
  | renameFolder (source destination : SfxPath)
  | deleteFolder (path : SfxPath) (recursive : Bool)
  | moveFile (source destination : SfxPath)
  | deleteFile (path : SfxPath)
  | publishUploads (uploads : List StagedSfxUpload) (policy : SfxUploadConflictPolicy)
  deriving DecidableEq

inductive SfxResponse where
  | files (files : List SfxFileRecord)
  | folders (folders : List SfxFolderRecord)
  | found (exists_ : Bool)
  | folder (folder : SfxFolderRecord)
  | file (file : SfxFileRecord)
  | deleted
  | batch (items : List SfxUploadBatchItem)
  | started
  deriving DecidableEq

def expectFolder : SfxMutationOutcome → Except SfxCoordinatorError SfxResponse
  | .folder folder => .ok (.folder folder)
  | _ => .error .recoveryConflict

def expectFile : SfxMutationOutcome → Except SfxCoordinatorError SfxResponse
  | .file file => .ok (.file file)
  | _ => .error .recoveryConflict

def expectDeleted : SfxMutationOutcome → Except SfxCoordinatorError SfxResponse
  | .deleted => .ok .deleted
  | _ => .error .recoveryConflict

/-- A mutation whose outcome has to be of one kind. -/
def mutateFor (mutation : SfxMutation)
    (expected : SfxMutationOutcome → Except SfxCoordinatorError SfxResponse) :
    SfxFuture SfxResponse := do
  let outcome ← mutate floatLength task mutation
  .ofExcept (expected outcome)

def readFor {α : Type} (answer : SfxDraw → Option (Except SfxCoordinatorError α))
    (response : α → SfxResponse) : SfxFuture SfxResponse := do
  beginAccess task
  let found ← readFiles answer
  return response found

def filesAnswer : SfxDraw → Option (Except SfxCoordinatorError (List SfxFileRecord))
  | .files answer => some answer
  | _ => none

def foldersAnswer : SfxDraw → Option (Except SfxCoordinatorError (List SfxFolderRecord))
  | .folders answer => some answer
  | _ => none

def foundAnswer : SfxDraw → Option (Except SfxCoordinatorError Bool)
  | .found answer => some answer
  | _ => none

def SfxRequest.future : SfxRequest → SfxFuture SfxResponse
  | .listFiles => readFor task filesAnswer .files
  | .listFolders => readFor task foldersAnswer .folders
  | .listDirectory _ => readFor task filesAnswer .files
  | .targetExists _ => readFor task foundAnswer .found
  | .createFolder path => mutateFor floatLength task (.createFolder path) expectFolder
  | .renameFolder source destination =>
    mutateFor floatLength task (.renameFolder source destination) expectFolder
  | .deleteFolder path recursive =>
    mutateFor floatLength task (.deleteFolder path recursive) expectDeleted
  | .moveFile source destination =>
    mutateFor floatLength task (.moveFile source destination) expectFile
  | .deleteFile path => mutateFor floatLength task (.deleteFile path) expectDeleted
  | .publishUploads uploads policy => do
    beginAccess task
    let items ← publishStaged floatLength [] policy uploads
    return .batch items

/-! ## The start -/

def settleReplay (applying : JournalRow) :
    Except SfxMutationFailure SfxMutationOutcome → SfxFuture Unit
  | .ok _ => do
    let _ ← transition floatLength applying .committed (stageJson "startup_committed")
    return ()
  | .error failure =>
    if failure.recoveryRequired = false then do
      let _ ← transition floatLength applying .failed (codeJson failure.code)
      return ()
    else .fail (.mutation failure)

/-- The journal of a replay, in the state of one. -/
def beginReplay (row : JournalRow) : SfxFuture JournalRow :=
  match row.state with
  | .planned => transition floatLength row .applying (stageJson "startup_replay")
  | .applying => return row
  | _ => .fail .recoveryConflict

def replayEntry (row : JournalRow) : SfxFuture Unit := do
  let mutation ← .ofExcept ((SfxMutation.fromJournal row).mapError .invalidMutation)
  let applying ← beginReplay floatLength row
  let answer ← applyEffects applying.id mutation true
  settleReplay floatLength applying answer

def replayEntries : List JournalRow → SfxFuture Unit
  | [] => return ()
  | row :: rest => do
    replayEntry floatLength row
    replayEntries rest

def cleanupOrphans : SfxFuture Unit :=
  .ask .files fun draw world =>
    match draw with
    | .discarded answer => some (answer.mapError .mutation, world)
    | _ => none

def recoverSfxMutations : SfxFuture Unit := do
  let entries ← unfinishedRecoveryJournals floatLength
  replayEntries floatLength entries
  cleanupOrphans

/-- Recovers, and builds the coordinator, with its flag down. -/
def startCoordinator : SfxFuture SfxResponse := do
  recoverSfxMutations floatLength
  .ask .step fun _ world =>
    some (.ok .started, { world with serving := true, recoveryRequired := false })

/-! ## Sessions -/

abbrev SfxPool := Pool SfxTask SfxPoint SfxDraw SfxWorld SfxCoordinatorError SfxResponse

/-- A process begins with its start, over the table and the files there are. -/
def beginProcess (world : SfxWorld) : SfxPool where
  shared := { world with serving := false, recoveryRequired := false, gate := some .startup }
  tasks task := if task = .startup then some (startCoordinator floatLength) else none

/-- Requests come in once there is a coordinator. -/
def sfxStarts (world : SfxWorld) (task : SfxTask)
    (future : Future SfxPoint SfxDraw SfxWorld SfxCoordinatorError SfxResponse) : Prop :=
  world.serving = true ∧ task ≠ .startup ∧ ∃ request : SfxRequest,
    future = request.future floatLength task

def emptySfxWorld : SfxWorld := ⟨[], false, false, none, []⟩

/-- Requests side by side, over any number of processes. -/
def sfxSystem : Transition.System SfxPool
    (Event SfxTask SfxPoint SfxDraw SfxWorld SfxCoordinatorError SfxResponse) :=
  poolSystem sfxLock (fun pool => pool = beginProcess floatLength emptySfxWorld)
    (sfxStarts floatLength) (beginProcess floatLength)

end

end MusicServer
