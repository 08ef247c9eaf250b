/-
# The journal table

Journals are rows that are only ever added and moved from state to state, so the table
lists them in the order they were created.
-/
import MusicServer.LibraryMutation
import MusicServer.Reduce

namespace MusicServer

/-- A check of the code: passes, or fails with its error. -/
def ensure {ε : Type} (condition : Prop) [Decidable condition] (error : ε) : Except ε Unit :=
  if condition then .ok () else .error error

theorem ensure_eq_ok {ε : Type} {condition : Prop} [Decidable condition] {error : ε} {u : Unit} :
    ensure condition error = .ok u ↔ condition := by
  unfold ensure
  split <;> simp_all

inductive StorageError where
  | recoveryJournalCapacityExceeded
  | invalidRecoveryTransition
  | invalidRecoveryJournal
  | invalidRecoveryJournalRecord
  | invalidLibraryRecord (message : String)
  | invalidLibraryState (message : String)
  | invalidLibraryPath (error : MediaPathError)
  /-- A unique index or a primary key refuses the row. -/
  | constraintViolation
  deriving DecidableEq

def LibraryFileMutation.operation : LibraryFileMutation → String
  | .createFolder _ => "create_folder"
  | .renameFolder _ _ => "rename_folder"
  | .deleteFolder _ _ => "delete_folder"
  | .moveTrack _ _ _ => "move_track"
  | .deleteTrack _ _ => "delete_track"
  | .updateTrackMetadata _ _ _ => "update_track_metadata"
  | .publishUpload _ _ _ => "publish_upload"
  | .convertTrack _ _ _ _ => "convert_track"
  | .restoreTrack _ _ _ => "restore_track"

def RecoveryPlan.operation : RecoveryPlan → String
  | .mutation m => m.operation
  | .cleanupBatch _ m => m.operation
  | .cleanupRevert _ m => m.operation
  | .revertBatch _ => "revert_batch"

structure RecoveryJournalDraft where
  id : String
  domain : RecoveryDomain
  plan : RecoveryPlan
  deriving DecidableEq

structure RecoveryJournalEntry where
  id : String
  domain : RecoveryDomain
  state : RecoveryState
  plan : RecoveryPlan
  createdAtUnixSeconds : ℤ
  updatedAtUnixSeconds : ℤ
  completedAtUnixSeconds : Option ℤ
  deriving DecidableEq

namespace RecoveryJournalEntry

/-- Moves the journal to another state, completing it where that state is terminal. -/
def moveTo (entry : RecoveryJournalEntry) (next : RecoveryState) (now : ℤ) :
    RecoveryJournalEntry :=
  { entry with
    state := next
    updatedAtUnixSeconds := now
    completedAtUnixSeconds := if next.isTerminal then some now else none }

end RecoveryJournalEntry

open RecoveryJournalEntry

/-- What a change of state found: the journal in its new state, or what is there instead. -/
inductive RecoveryTransition where
  | applied (entry : RecoveryJournalEntry)
  | conflict (entry : Option RecoveryJournalEntry)
  deriving DecidableEq

abbrev RecoveryJournals := List RecoveryJournalEntry

namespace RecoveryJournals

def maxUnfinishedJournals : ℕ := 1000

def readEntry (journals : RecoveryJournals) (id : String) : Option RecoveryJournalEntry :=
  journals.find? fun entry => entry.id = id

def createRecoveryJournal (journals : RecoveryJournals) (draft : RecoveryJournalDraft) (now : ℤ) :
    Except StorageError (RecoveryJournals × RecoveryJournalEntry) := do
  ensure ((readEntry journals draft.id).isNone = true) .constraintViolation
  let entry : RecoveryJournalEntry := ⟨draft.id, draft.domain, .planned, draft.plan, now, now, none⟩
  return (journals ++ [entry], entry)

def updateWhere (journals : RecoveryJournals) (matching : RecoveryJournalEntry → Bool)
    (update : RecoveryJournalEntry → RecoveryJournalEntry) : RecoveryJournals :=
  journals.map fun entry => if matching entry then update entry else entry

def transitionRecoveryJournal (journals : RecoveryJournals) (id : String)
    (expected next : RecoveryState) (now : ℤ) :
    Except StorageError (RecoveryJournals × RecoveryTransition) := do
  ensure (expected.allows next = true) .invalidRecoveryTransition
  let matching := fun entry : RecoveryJournalEntry => entry.id = id && entry.state = expected
  let journals' := updateWhere journals matching fun entry => entry.moveTo next now
  match journals.any matching, readEntry journals' id with
  | true, some entry => return (journals', .applied entry)
  | true, none => .error .invalidRecoveryJournalRecord
  | false, current => return (journals', .conflict current)

end RecoveryJournals

end MusicServer
