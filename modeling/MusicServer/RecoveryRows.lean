/-
# The rows of the journal table

What a repository of journals stores and reads back: the plan and the progress of a journal are
JSON within limits, an id names one row, and a row moves from state to state.
-/
import MusicServer.RecoveryJournal
import MusicServer.JsonValue

namespace MusicServer

/-! ## The limits of JSON in a journal -/

inductive RecoveryValidationError where
  | invalidId
  | invalidDomain
  | invalidOperation
  | invalidState
  | invalidTransition
  | invalidCompletion
  | jsonTooLarge
  | jsonTooDeep
  | jsonTooComplex
  deriving DecidableEq

def maxOperationLength : ℕ := 64

def maxJsonBytes : ℕ := 64 * 1024

def maxJsonDepth : ℕ := 64

def maxJsonNodes : ℕ := 16384

/-- The length of a number as it is written; `floatLength` is that of a double. -/
def JsonNumber.encodedLength (floatLength : BitVec 64 → ℕ) : JsonNumber → ℕ
  | .integer value => CleanupItem.integerLength value
  | .float bits => floatLength bits

mutual

/-- The length of a value as it is written, without blanks. -/
def Json.encodedLength (floatLength : BitVec 64 → ℕ) : Json → ℕ
  | .null => 4
  | .bool true => 4
  | .bool false => 5
  | .number value => value.encodedLength floatLength
  | .string value => CleanupItem.textLength value.toList
  | .array items => 2 + itemsLength floatLength items + (items.length - 1)
  | .object fields => 2 + fieldsLength floatLength fields + (fields.length - 1)

/-- The items of an array, their commas apart. -/
def itemsLength (floatLength : BitVec 64 → ℕ) : List Json → ℕ
  | [] => 0
  | item :: rest => item.encodedLength floatLength + itemsLength floatLength rest

/-- The fields of an object, their commas apart. -/
def fieldsLength (floatLength : BitVec 64 → ℕ) : List (String × Json) → ℕ
  | [] => 0
  | (key, value) :: rest =>
    CleanupItem.textLength key.toList + 1 + value.encodedLength floatLength +
      fieldsLength floatLength rest

end

mutual

/-- Counts the nodes of a value, the last children first. -/
def Json.visit (depth nodes : ℕ) : Json → Except RecoveryValidationError ℕ
  | .array items =>
    if maxJsonNodes < nodes + 1 then .error .jsonTooComplex
    else if maxJsonDepth < depth then .error .jsonTooDeep
    else visitItems (depth + 1) (nodes + 1) items
  | .object fields =>
    if maxJsonNodes < nodes + 1 then .error .jsonTooComplex
    else if maxJsonDepth < depth then .error .jsonTooDeep
    else visitFields (depth + 1) (nodes + 1) fields
  | _ =>
    if maxJsonNodes < nodes + 1 then .error .jsonTooComplex
    else if maxJsonDepth < depth then .error .jsonTooDeep
    else .ok (nodes + 1)

def visitItems (depth nodes : ℕ) : List Json → Except RecoveryValidationError ℕ
  | [] => .ok nodes
  | item :: rest =>
    match visitItems depth nodes rest with
    | .ok nodes => item.visit depth nodes
    | .error error => .error error

def visitFields (depth nodes : ℕ) : List (String × Json) → Except RecoveryValidationError ℕ
  | [] => .ok nodes
  | (_, value) :: rest =>
    match visitFields depth nodes rest with
    | .ok nodes => value.visit depth nodes
    | .error error => .error error

end

def validateJson (floatLength : BitVec 64 → ℕ) (value : Json) :
    Except RecoveryValidationError Unit :=
  if maxJsonBytes < value.encodedLength floatLength then .error .jsonTooLarge
  else (value.visit 0 0).map fun _ => ()

def parseOperation (value : String) : Except RecoveryValidationError String :=
  if value = "" ∨ maxOperationLength < value.utf8ByteSize ∨
      (value.toList.all fun c => ('a' ≤ c && c ≤ 'z') || c.isDigit || c = '_') = false then
    .error .invalidOperation
  else .ok value

/-! ## Rows -/

structure JournalDraft where
  id : String
  domain : RecoveryDomain
  operation : String
  plan : Json
  progress : Json

structure JournalRow where
  id : String
  domain : RecoveryDomain
  operation : String
  state : RecoveryState
  plan : Json
  progress : Json
  createdAtUnixSeconds : ℤ
  updatedAtUnixSeconds : ℤ
  completedAtUnixSeconds : Option ℤ

def JournalDraft.new (floatLength : BitVec 64 → ℕ) (id : String) (domain : RecoveryDomain)
    (operation : String) (plan : Json) : Except RecoveryValidationError JournalDraft := do
  validateJson floatLength plan
  return ⟨id, domain, operation, plan, .object []⟩

namespace JournalRow

def validate (floatLength : BitVec 64 → ℕ) (row : JournalRow) :
    Except RecoveryValidationError Unit := do
  validateJson floatLength row.plan
  validateJson floatLength row.progress
  ensure (row.state.isTerminal = row.completedAtUnixSeconds.isSome) .invalidCompletion

def moveTo (row : JournalRow) (next : RecoveryState) (progress : Json) (now : ℤ) : JournalRow :=
  { row with
    state := next
    progress := progress
    updatedAtUnixSeconds := now
    completedAtUnixSeconds := if next.isTerminal = true then some now else none }

def precedes (left right : JournalRow) : Prop :=
  left.createdAtUnixSeconds < right.createdAtUnixSeconds ∨
    left.createdAtUnixSeconds = right.createdAtUnixSeconds ∧ left.id ≤ right.id

instance : DecidableRel precedes := fun left right => by
  unfold precedes
  infer_instance

def unfinishedIn (domain : RecoveryDomain) (row : JournalRow) : Bool :=
  row.domain = domain && !row.state.isTerminal

end JournalRow

inductive JournalTransition where
  | applied (row : JournalRow)
  | conflict (row : Option JournalRow)

inductive JournalError where
  | invalidRecoveryJournal (error : RecoveryValidationError)
  | invalidRecoveryTransition
  | invalidRecoveryJournalRecord
  | recoveryJournalCapacityExceeded
  | constraintViolation
  deriving DecidableEq

abbrev JournalTable := List JournalRow

namespace JournalTable

variable (floatLength : BitVec 64 → ℕ)

def readEntry (table : JournalTable) (id : String) : Except JournalError (Option JournalRow) :=
  match table.find? fun row => row.id = id with
  | none => .ok none
  | some row =>
    match row.validate floatLength with
    | .ok _ => .ok (some row)
    | .error error => .error (.invalidRecoveryJournal error)

/-- The table with a row for the draft, if its JSON is within the limits and its id new. -/
def insert (table : JournalTable) (draft : JournalDraft) (now : ℤ) :
    Except JournalError JournalTable := do
  (validateJson floatLength draft.plan).mapError .invalidRecoveryJournal
  (validateJson floatLength draft.progress).mapError .invalidRecoveryJournal
  ensure (draft.id ∉ table.map JournalRow.id) .constraintViolation
  return table ++ [⟨draft.id, draft.domain, draft.operation, .planned, draft.plan, draft.progress,
    now, now, none⟩]

/-- `UPDATE … WHERE id = ? AND state = ?`. -/
def update (table : JournalTable) (id : String) (expected next : RecoveryState) (progress : Json)
    (now : ℤ) : JournalTable :=
  table.map fun row =>
    if row.id = id ∧ row.state = expected then row.moveTo next progress now else row

def matched (table : JournalTable) (id : String) (expected : RecoveryState) : ℕ :=
  table.countP fun row => row.id = id && row.state = expected

def checkTransition (expected next : RecoveryState) (progress : Json) :
    Except JournalError Unit := do
  ensure (expected.allows next = true) .invalidRecoveryTransition
  (validateJson floatLength progress).mapError .invalidRecoveryJournal

def transitionAnswer (table after : JournalTable) (id : String) (expected : RecoveryState) :
    Except JournalError JournalTransition := do
  let current ← readEntry floatLength after id
  if matched table id expected = 1 then
    match current with
    | some row => return .applied row
    | none => .error .invalidRecoveryJournalRecord
  else return .conflict current

def unfinished (table : JournalTable) (domain : RecoveryDomain) :
    Except JournalError (List JournalRow) := do
  let rows := ((table.filter (JournalRow.unfinishedIn domain)).insertionSort
    JournalRow.precedes).take (RecoveryJournals.maxUnfinishedJournals + 1)
  ensure (rows.length ≤ RecoveryJournals.maxUnfinishedJournals) .recoveryJournalCapacityExceeded
  rows.forM fun row => (row.validate floatLength).mapError .invalidRecoveryJournal
  return rows

end JournalTable

end MusicServer
