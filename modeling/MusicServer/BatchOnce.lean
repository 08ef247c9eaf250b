/-
# A batch is submitted at most once

Jobs that submit and jobs that collect, cancel or abandon run side by side, and any of them may
die or lose a reply at any call.  A row only leaves its local states for good, and only the
execution that created it sends it, once it has moved it to `submitting`.
-/
import MusicServer.BatchMoves

namespace MusicServer

open CrashProgram Program Transition ProviderUsageAccumulator

section

variable {δ : Type}

/-! ## What the rows and the calls keep -/

def ProviderCall.isSubmit (call : ProviderCall) : Bool :=
  match call.kind with
  | .submit _ => true
  | _ => false

def ModelWorld.submits (world : ModelWorld δ) : List ProviderCall :=
  world.calls.filter ProviderCall.isSubmit

/-- The row was about to be submitted, and was not closed as one that never was. -/
structure Past (row : ModelBatchRow δ) : Prop where
  not_uploading : row.state ≠ "uploading"
  not_uploaded : row.state ≠ "uploaded"
  not_closed : ∀ id, row.document ≠ .closed (.noInferenceSubmitted id)

def localStates : List String := ["uploading", "uploaded", "submitting"]

/-- An open row without a number at the provider is in a local state, an open row is not closed
by its document, and saved results name a terminal state. -/
structure RowValid (row : ModelBatchRow δ) : Prop where
  numbered : BatchState.isOpen row.state = true → row.remoteBatchId = none →
    row.state ∈ localStates
  opened : BatchState.isOpen row.state = true → ∀ result, row.document ≠ .closed result
  results : ∀ result terminal output error, row.document = .results result terminal output error →
    terminal.isTerminal = true

structure BatchInvariant (world : ModelWorld δ) : Prop where
  ids : (world.batches.map ModelBatchRow.id).Nodup
  oneOpen : world.batches.countP (fun row => BatchState.isOpen row.state) ≤ 1
  rows : ∀ row ∈ world.batches, RowValid row
  created : ∀ entry ∈ world.creators, entry.1 ∈ world.batches.map ModelBatchRow.id
  creators : (world.creators.map Prod.fst).Nodup
  submitted : ∀ call ∈ world.submits, ∀ id, call.kind = .submit id →
    (id, call.execution) ∈ world.creators ∧ ∃ row ∈ world.batches, row.id = id ∧ Past row
  once : ∀ id, world.submits.countP (fun call => call.kind = .submit id) ≤ 1

/-- Rows stay, and what is past its local states stays so. -/
structure Onward (world world' : ModelWorld δ) : Prop where
  rows : ∀ row ∈ world.batches, ∃ row' ∈ world'.batches, row'.id = row.id ∧ (Past row → Past row')
  creators : ∀ entry ∈ world.creators, entry ∈ world'.creators

/-- What an execution relies on: nobody else submits in its name. -/
structure BatchRely (execution : String) (world world' : ModelWorld δ) : Prop
    extends Onward world world' where
  submits : world'.submits.filter (fun call => call.execution = execution)
    = world.submits.filter (fun call => call.execution = execution)

/-- A row is new only where every other row was closed. -/
def CreatesAlone (world world' : ModelWorld δ) : Prop :=
  ∀ row ∈ world'.batches, row.id ∉ world.batches.map ModelBatchRow.id →
    ∀ old ∈ world.batches, BatchState.isOpen old.state = false

/-- What an execution guarantees: it submits in its own name only, and creates a row only where
none is open. -/
structure BatchGuarantee (execution : String) (world world' : ModelWorld δ) : Prop
    extends Onward world world' where
  submits : ∀ other, other ≠ execution →
    world'.submits.filter (fun call => call.execution = other)
      = world.submits.filter (fun call => call.execution = other)
  alone : CreatesAlone world world'

/-- A call that touches neither rows nor submissions. -/
structure Quiet (world world' : ModelWorld δ) : Prop where
  batches : world'.batches = world.batches
  creators : world'.creators = world.creators
  submits : world'.submits = world.submits

theorem Onward.refl (world : ModelWorld δ) : Onward world world :=
  ⟨fun row hrow => ⟨row, hrow, rfl, id⟩, fun _ hentry => hentry⟩

variable {world : ModelWorld δ}

theorem Onward.trans {world' world'' : ModelWorld δ} (h : Onward world world')
    (h' : Onward world' world'') : Onward world world'' := by
  refine ⟨?_, fun entry hentry => h'.creators entry (h.creators entry hentry)⟩
  intro row hrow
  obtain ⟨row', hrow', hid, hpast⟩ := h.rows row hrow
  obtain ⟨row'', hrow'', hid', hpast'⟩ := h'.rows row' hrow'
  exact ⟨row'', hrow'', hid'.trans hid, fun hp => hpast' (hpast hp)⟩

variable {world world' : ModelWorld δ}

theorem createsAlone_of_ids
    (h : world'.batches.map ModelBatchRow.id = world.batches.map ModelBatchRow.id) :
    CreatesAlone world world' := by
  intro row hrow hnew
  rw [← h] at hnew
  exact absurd (List.mem_map_of_mem hrow) hnew

theorem Quiet.refl (world : ModelWorld δ) : Quiet world world := ⟨rfl, rfl, rfl⟩

theorem Quiet.onward (h : Quiet world world') :
    Onward world world' := by
  refine ⟨?_, ?_⟩
  · intro row hrow
    rw [← h.batches] at hrow
    exact ⟨row, hrow, rfl, id⟩
  · intro entry hentry
    rw [h.creators]
    exact hentry

theorem Quiet.invariant (h : Quiet world world') (hinv : BatchInvariant world) :
    BatchInvariant world' := by
  refine ⟨?_, ?_, ?_, ?_, ?_, ?_, ?_⟩
  · rw [h.batches]
    exact hinv.ids
  · rw [h.batches]
    exact hinv.oneOpen
  · rw [h.batches]
    exact hinv.rows
  · rw [h.creators, h.batches]
    exact hinv.created
  · rw [h.creators]
    exact hinv.creators
  · rw [h.submits, h.creators, h.batches]
    exact hinv.submitted
  · rw [h.submits]
    exact hinv.once

theorem Quiet.guarantee (h : Quiet world world') (execution : String) :
    BatchGuarantee execution world world' :=
  ⟨h.onward, fun _ _ => by rw [h.submits], createsAlone_of_ids (by rw [h.batches])⟩

theorem Quiet.rely (h : Quiet world world') (execution : String) :
    BatchRely execution world world' :=
  ⟨h.onward, by rw [h.submits]⟩

/-! ## Calls that touch neither rows nor submissions -/

theorem submits_cons {call : ProviderCall} (hkind : ∀ id, call.kind ≠ .submit id)
    (calls : List ProviderCall) :
    (call :: calls).filter ProviderCall.isSubmit = calls.filter ProviderCall.isSubmit := by
  refine List.filter_cons_of_neg ?_
  unfold ProviderCall.isSubmit
  split
  · next id hsubmit => exact absurd hsubmit (hkind id)
  · exact Bool.false_ne_true

variable {execution : String}

theorem Aside.quiet (h : Aside execution world world') : Quiet world world' := by
  refine ⟨h.batches, h.creators, ?_⟩
  unfold ModelWorld.submits
  rcases h.calls with hsame | ⟨kind, checkpoint, hkind, hcalls⟩
  · rw [hsame]
  · rw [hcalls]
    refine submits_cons ?_ _
    rintro id hsubmit
    rw [show kind = .submit id from hsubmit] at hkind
    exact absurd hkind.symm Bool.false_ne_true

theorem moves_quiet {β : Type} {p : ModelProgram δ β} (h : p.Moves (Aside execution)) :
    p.Moves Quiet := h.mono fun _ _ => Aside.quiet

theorem moves_checkpointCall (execution : String) (usage : ProviderUsageAccumulator) :
    (checkpointCall execution usage : ModelProgram δ Unit).Moves Quiet := by
  refine moves_syscallTorn Quiet.refl ?_ ?_
  · intro progress world
    split
    · exact Quiet.refl world
    · exact ⟨rfl, rfl, rfl⟩
  · intro world b world' h
    cases h
    exact ⟨rfl, rfl, rfl⟩

theorem moves_upload (execution : String) (target : ProviderExecutionTarget) (batchId : String)
    (attempts : List (ℕ × String)) :
    (Transport.upload execution target batchId attempts : ModelProgram δ String).Moves Quiet := by
  have hcalled : ∀ world : ModelWorld δ,
      Quiet world (world.called execution (.upload batchId) attempts) := fun world =>
    ⟨rfl, rfl, submits_cons (fun _ h => by cases h) _⟩
  refine Moves.bind (moves_ofExcept _) fun _ => Moves.bind ?_ fun _ => moves_ofExcept _
  exact moves_providerCall Quiet.refl hcalled hcalled

variable (rules : TaggingRules δ)

theorem moves_reserveSubmission (execution : String) (planned : PlannedBatch δ) :
    (reserveSubmission rules execution planned).Moves Quiet := by
  refine Moves.bind ?_ fun _ => moves_ofExcept _
  refine Moves.bind (moves_ofExcept _) fun _ => ?_
  exact Moves.bind (moves_checkpointCall _ _) fun _ => moves_pure _

theorem moves_storeResponse (execution : String) (voice : Option String)
    (frozen : BatchSubmission δ) (tally : CollectionTally δ) (range : ℕ × ℕ)
    (outputs : TrackId → Option (ModelTagTrackOutput δ)) :
    (storeResponse rules execution voice frozen tally range outputs).Moves Quiet := by
  refine Moves.bind (moves_ofExcept _) fun _ => Moves.bind (moves_ofExcept _) fun _ => ?_
  refine Moves.bind ?_ fun _ => ?_
  · exact Moves.bind (moves_quiet (@moves_vocabularyCall _ execution rules)) fun _ =>
      moves_ofExcept _
  · refine Moves.bind (moves_quiet (@moves_storeModelAnalysis _ execution rules _ _ _))
      fun _ => ?_
    exact Moves.bind (moves_checkpointCall _ _) fun _ => moves_pure _

theorem moves_collectResponse (execution : String) (voice : Option String)
    (vocabulary : TagVocabularyDocument) (current : Bool) (frozen : BatchSubmission δ)
    (tally : CollectionTally δ) (response : ℕ × StructuredModelResult) :
    (collectResponse rules execution voice vocabulary current frozen tally response).Moves
      Quiet := by
  refine Moves.bind (moves_quiet (moves_aside (@moves_checkCancelledCall _ execution))) fun _ =>
    Moves.bind (moves_checkpointCall _ _) fun _ =>
    Moves.bind (moves_ofExcept _) fun entry => Moves.bind (moves_ofExcept _) fun _ => ?_
  obtain ⟨inputs, range⟩ := entry
  dsimp only
  split
  · split
    · exact moves_storeResponse rules execution voice frozen _ range _
    · exact moves_pure _
  · exact moves_pure _

theorem moves_collectResponses (execution : String) (voice : Option String)
    (vocabulary : TagVocabularyDocument) (current : Bool) (frozen : BatchSubmission δ)
    (tally : CollectionTally δ) (responses : List (ℕ × StructuredModelResult)) :
    (collectResponses rules execution voice vocabulary current frozen tally responses).Moves
      Quiet := by
  induction responses generalizing tally with
  | nil => exact moves_pure tally
  | cons response rest ih =>
    exact Moves.bind (moves_collectResponse rules execution voice vocabulary current frozen tally
      response) fun tally => ih tally

/-! ## Updating a row -/

/-- An update that may be made: it is of an open row, makes a valid row of it, and does not take
a row back that was about to be submitted. -/
structure Forward (record : ModelBatchRecord δ) (next : BatchState) : Prop where
  opened : BatchState.isOpen record.state.asStr = true
  valid : RowValid ({ record with state := next } : ModelBatchRecord δ).encode
  past : Past ({ record with state := next } : ModelBatchRecord δ).encode ∨
    record.state.asStr = "uploading" ∨ record.state.asStr = "uploaded"

variable {record : ModelBatchRecord δ}

theorem open_updatedRows {next : BatchState} (h : Forward record next)
    (batches : List (ModelBatchRow δ)) :
    (updatedRows record next batches).countP (fun row => BatchState.isOpen row.state)
      ≤ batches.countP (fun row => BatchState.isOpen row.state) := by
  unfold updatedRows
  rw [List.countP_map]
  refine List.countP_mono_left ?_
  intro row _ hopen
  rw [Function.comp_apply] at hopen
  split at hopen
  · next hmatches =>
    rw [(matchesUpdate_iff.mp hmatches).2.2]
    exact h.opened
  · exact hopen

theorem onward_updatedWorld {next : BatchState} (h : Forward record next) (world : ModelWorld δ) :
    Onward world (updatedWorld record next world) := by
  refine ⟨?_, fun _ hentry => hentry⟩
  intro row hrow
  refine ⟨_, List.mem_map_of_mem hrow, ?_, ?_⟩
  · split
    · next hmatches => exact (matchesUpdate_iff.mp hmatches).1.symm
    · rfl
  · intro hpast
    split
    · next hmatches =>
      have hstate := (matchesUpdate_iff.mp hmatches).2.2
      rcases h.past with hnew | hlocal | hlocal
      · exact hnew
      · exact absurd (hstate.trans hlocal) hpast.not_uploading
      · exact absurd (hstate.trans hlocal) hpast.not_uploaded
    · exact hpast

theorem invariant_updatedWorld {next : BatchState} (h : Forward record next)
    (hinv : BatchInvariant world) :
    BatchInvariant (updatedWorld record next world) := by
  refine ⟨?_, ?_, ?_, ?_, hinv.creators, ?_, hinv.once⟩
  · show ((updatedRows record next world.batches).map ModelBatchRow.id).Nodup
    rw [ids_updatedRows]
    exact hinv.ids
  · exact le_trans (open_updatedRows h _) hinv.oneOpen
  · intro row hrow
    obtain ⟨old, hold, rfl⟩ := List.mem_map.mp hrow
    split
    · exact h.valid
    · exact hinv.rows old hold
  · intro entry hentry
    show entry.1 ∈ (updatedRows record next world.batches).map ModelBatchRow.id
    rw [ids_updatedRows]
    exact hinv.created entry hentry
  · intro call hcall id hkind
    obtain ⟨hcreated, row, hrow, hid, hpast⟩ := hinv.submitted call hcall id hkind
    obtain ⟨row', hrow', hid', hpast'⟩ := (onward_updatedWorld h world).rows row hrow
    exact ⟨hcreated, row', hrow', hid'.trans hid, hpast' hpast⟩

/-- What an execution knows: that it created the batch, and has not submitted anything. -/
structure Holds (execution id : String) (world : ModelWorld δ) : Prop where
  created : (id, execution) ∈ world.creators
  unsent : world.submits.filter (fun call => call.execution = execution) = []

theorem Holds.rely {execution id : String} (h : Holds execution id world)
    (hrely : BatchRely execution world world') :
    Holds execution id world' :=
  ⟨hrely.creators _ h.created, hrely.submits.trans h.unsent⟩

theorem guarded_persist {next : BatchState} (h : Forward record next) {K : ModelWorld δ → Prop}
    (hrely : ∀ world world', BatchRely execution world world' → K world → K world')
    (hkept : ∀ world, K world → K (updatedWorld record next world)) (hK : K world) :
    (persist rules record next).Guarded BatchInvariant (BatchRely execution)
      (BatchGuarantee execution)
      (fun result world => ∀ record', result = .ok record' →
        record' = { record with state := next } ∧ K world ∧ record'.encode ∈ world.batches)
      world := by
  have hupdate : ∀ world, BatchInvariant world →
      BatchInvariant (updatedWorld record next world) ∧
        BatchGuarantee execution world (updatedWorld record next world) := fun world hinv =>
    ⟨invariant_updatedWorld h hinv, ⟨onward_updatedWorld h world, fun _ _ => rfl,
      createsAlone_of_ids (ids_updatedRows record next world.batches)⟩⟩
  have hrefl : ∀ world : ModelWorld δ, BatchGuarantee execution world world :=
    fun world => (Quiet.refl world).guarantee execution
  refine Guarded.bind (guarded_syscallTorn hrefl ?_ ?_ ?_)
  · intro world' hothers hinv progress
    refine ⟨?_, ?_, fun _ hresult => by cases hresult⟩
    · split
      · exact hinv
      · split
        · next hwrite =>
          split at hwrite
          · cases hwrite
          · cases hwrite
            exact (hupdate world' hinv).1
        · exact hinv
    · split
      · exact hrefl world'
      · split
        · next hwrite =>
          split at hwrite
          · cases hwrite
          · cases hwrite
            exact (hupdate world' hinv).2
        · exact hrefl world'
  · intro world' kind _ _ _ record' hresult
    cases hresult
  · intro world' changed world'' hothers hinv hwrite
    split at hwrite
    · cases hwrite
    · cases hwrite
      refine ⟨(hupdate world' hinv).1, (hupdate world' hinv).2, ?_⟩
      by_cases hchanged : world'.batches.countP
          (matchesUpdate record.state { record with state := next }) = 1
      · rw [decide_eq_true hchanged]
        intro record' hresult
        cases hresult
        refine ⟨rfl, hkept world' (hrely _ _ hothers hK), ?_⟩
        obtain ⟨row, hrow, hmatches⟩ := List.countP_pos_iff.mp (by rw [hchanged]; exact Nat.one_pos)
        refine List.mem_map.mpr ⟨row, hrow, ?_⟩
        rw [if_pos hmatches]
      · rw [decide_eq_false hchanged]
        intro record' hresult
        cases hresult

/-! ## The jobs under interference -/

/-- The program is guarded, whatever it ends with. -/
abbrev Safe {β : Type} (execution : String) (program : ModelProgram δ β) (world : ModelWorld δ) :
    Prop :=
  program.Guarded BatchInvariant (BatchRely execution) (BatchGuarantee execution)
    (fun _ _ => True) world

section

variable {β γ : Type} {execution : String}
variable {p : ModelProgram δ β}

theorem guarded_quiet (h : p.Moves Quiet) {K : ModelWorld δ → Prop}
    (hrely : ∀ world world', BatchRely execution world world' → K world → K world')
    {world : ModelWorld δ} (hK : K world) :
    p.Guarded BatchInvariant (BatchRely execution) (BatchGuarantee execution)
      (fun _ world => K world) world :=
  h.guarded (fun _ _ hquiet hinv => hquiet.invariant hinv)
    (fun _ _ hquiet _ => hquiet.guarantee execution) hrely
    (fun _ _ hquiet _ => hrely _ _ (hquiet.rely execution)) hK

variable {f : β → ModelProgram δ γ}

theorem guarded_quiet_bind {Q : Except JobHandlerError γ → ModelWorld δ → Prop}
    (herror : ∀ e world, Q (.error e) world) (h : p.Moves Quiet) {K : ModelWorld δ → Prop}
    (hrely : ∀ world world', BatchRely execution world world' → K world → K world')
    {world : ModelWorld δ} (hK : K world)
    (hf : ∀ b world, K world → (f b).Guarded BatchInvariant (BatchRely execution)
      (BatchGuarantee execution) Q world) :
    (p >>= f).Guarded BatchInvariant (BatchRely execution) (BatchGuarantee execution) Q world := by
  refine Guarded.bind ((guarded_quiet h hrely hK).mono ?_)
  intro result world hK
  cases result with
  | error e => exact herror e world
  | ok b => exact hf b world hK

theorem guarded_quiet_then {Q : Except JobHandlerError γ → ModelWorld δ → Prop}
    (herror : ∀ e world, Q (.error e) world) (h : p.Moves Quiet) (world : ModelWorld δ)
    (hf : ∀ b world, (f b).Guarded BatchInvariant (BatchRely execution)
      (BatchGuarantee execution) Q world) :
    (p >>= f).Guarded BatchInvariant (BatchRely execution) (BatchGuarantee execution) Q world :=
  guarded_quiet_bind herror h (K := fun _ => True) (fun _ _ _ => id) trivial
    fun b world _ => hf b world

theorem safe_quiet_then (h : p.Moves Quiet) (world : ModelWorld δ)
    (hf : ∀ b world, Safe execution (f b) world) :
    Safe execution (p >>= f) world :=
  guarded_quiet_then (fun _ _ => trivial) h world hf

theorem safe_returns_bind {P : β → Prop} (h : p.Moves Quiet) (hreturns : p.Returns P)
    (world : ModelWorld δ) (hf : ∀ b world, P b → Safe execution (f b) world) :
    Safe execution (p >>= f) world := by
  refine Guarded.bind (((guarded_quiet h (K := fun _ => True) (fun _ _ _ => id)
    trivial).returns hreturns).mono ?_)
  rintro result world ⟨_, hP⟩
  cases result with
  | error e => trivial
  | ok b => exact hf b world (hP b rfl)

theorem safe_readCall_bind {code : String} {read : ModelWorld δ → β} {P : β → Prop}
    (hread : ∀ world, BatchInvariant world → P (read world))
    (hf : ∀ b world, P b → Safe execution (f b) world) (world : ModelWorld δ) :
    Safe execution (readCall code read >>= f) world := by
  refine Guarded.bind (guarded_syscallTorn (fun world => (Quiet.refl world).guarantee execution)
    ?_ ?_ ?_)
  · exact fun world' _ hinv _ => ⟨hinv, (Quiet.refl world').guarantee execution, trivial⟩
  · exact fun _ _ _ _ _ => trivial
  · intro world' b world'' _ hinv hact
    cases hact
    exact ⟨hinv, (Quiet.refl world').guarantee execution, hf _ _ (hread world' hinv)⟩

theorem safe_persist_bind {record : ModelBatchRecord δ} {next : BatchState}
    {f : ModelBatchRecord δ → ModelProgram δ γ} (h : Forward record next)
    (hf : ∀ world, Safe execution (f { record with state := next }) world)
    (world : ModelWorld δ) : Safe execution (persist rules record next >>= f) world := by
  refine Guarded.bind ((guarded_persist rules h (K := fun _ => True) (fun _ _ _ => id)
    (fun _ => id) trivial).mono ?_)
  intro result world hresult
  cases result with
  | error e => trivial
  | ok record' =>
    obtain ⟨rfl, _⟩ := hresult record' rfl
    exact hf world

end

/-- A record that a job works on: of an open, valid row, read from its text. -/
structure Working (record : ModelBatchRecord δ) : Prop where
  opened : BatchState.isOpen record.state.asStr = true
  valid : RowValid record.encode
  canonical : BatchState.parse record.state.asStr = record.state

theorem Working.document (h : Working record) (result : BatchOutcome δ) :
    record.document ≠ .closed result :=
  h.valid.opened h.opened result

theorem Working.forward (h : Working record) (hremote : record.remoteBatchId ≠ none)
    {next : BatchState} (huploading : next.asStr ≠ "uploading")
    (huploaded : next.asStr ≠ "uploaded") : Forward record next where
  opened := h.opened
  valid := ⟨fun _ hnone => absurd hnone hremote, fun _ => h.document, h.valid.results⟩
  past := Or.inl ⟨huploading, huploaded, fun _ => h.document _⟩

theorem Working.next {next : BatchState} (h : Forward record next)
    (hopen : BatchState.isOpen next.asStr = true) (hcanonical : BatchState.parse next.asStr = next) :
    Working ({ record with state := next } : ModelBatchRecord δ) := ⟨hopen, h.valid, hcanonical⟩

theorem providerState_ne {state : String} (h : state ∈ providerStates) :
    state ≠ "uploading" ∧ state ≠ "uploaded" := by
  constructor
  · rintro rfl
    exact absurd h (by decide)
  · rintro rfl
    exact absurd h (by decide)

theorem asStr_of_isTerminal {state : BatchState} (h : state.isTerminal = true) :
    state.asStr ≠ "uploading" ∧ state.asStr ≠ "uploaded" ∧ BatchState.isOpen state.asStr = false := by
  cases state <;> first | exact absurd h Bool.false_ne_true | decide

theorem returns_status (execution : String) (target : ProviderExecutionTarget) (batchId : String) :
    (Transport.status execution target batchId : ModelProgram δ ProviderBatchStatus).Returns
      (fun status => status.state.asStr ∈ providerStates) := by
  refine Returns.bind fun batchId => Returns.bind fun _ => Returns.bind fun answer => ?_
  refine returns_ofExcept ?_
  intro status h
  cases hread : readStatus batchId answer with
  | error code =>
    rw [hread] at h
    cases h
  | ok status' =>
    rw [hread] at h
    cases h
    unfold readStatus at hread
    obtain ⟨_, _, hread⟩ := bind_eq_ok.mp hread
    obtain ⟨state, _, hread⟩ := bind_eq_ok.mp hread
    obtain ⟨_, hstate, hread⟩ := bind_eq_ok.mp hread
    obtain ⟨_, _, hread⟩ := bind_eq_ok.mp hread
    obtain ⟨_, _, hread⟩ := bind_eq_ok.mp hread
    obtain ⟨_, _, hread⟩ := bind_eq_ok.mp hread
    obtain ⟨_, _, hread⟩ := bind_eq_ok.mp hread
    cases hread
    show (BatchState.parse state).asStr ∈ providerStates
    rw [BatchState.asStr_parse]
    exact (ensure_eq_ok.mp hstate)

variable {execution : String}
variable {target : ProviderExecutionTarget}

theorem safe_closeCollected (h : Working record) (hremote : record.remoteBatchId ≠ none)
    (world : ModelWorld δ) :
    Safe execution (closeCollected rules execution target record) world := by
  unfold closeCollected
  split
  · next result terminal output error hdocument =>
    have hterminal := asStr_of_isTerminal (h.valid.results _ _ _ _ hdocument)
    refine safe_quiet_then (moves_quiet (moves_aside (moves_deleteFiles execution target _))) world fun _ world => ?_
    refine safe_persist_bind rules (h.forward hremote hterminal.1 hterminal.2.1) ?_ world
    exact fun _ => trivial
  · refine safe_quiet_then (moves_quiet (moves_aside (moves_deleteFiles execution target _))) world ?_
    exact fun _ _ => trivial

variable {status : ProviderBatchStatus}

theorem safe_reportWaiting {cancel : Bool} {remote : String} (h : Working record)
    (hremote : record.remoteBatchId ≠ none) (hstatus : status.state.asStr ∈ providerStates)
    (world : ModelWorld δ) :
    Safe execution (reportWaiting rules execution target cancel record remote status) world := by
  have hquiet : (cancelRemote execution target cancel remote status.state :
      ModelProgram δ Unit).Moves Quiet := by
    exact moves_quiet (moves_aside (moves_cancelRemote execution target cancel remote status.state))
  have hstate := providerState_ne hstatus
  have hforward : Forward record (if cancel = true then .cancelling else status.state) := by
    refine h.forward hremote ?_ ?_
    · split
      · decide
      · exact hstate.1
    · split
      · decide
      · exact hstate.2
  refine safe_quiet_then hquiet world fun _ world => ?_
  refine safe_persist_bind rules hforward ?_ world
  exact fun _ => trivial

theorem forward_saved (h : Working record) (hremote : record.remoteBatchId ≠ none)
    (hterminal : status.state.isTerminal = true) (result : BatchResult δ) :
    Forward ({ record with
      document := .results result status.state status.outputFileId status.errorFileId } :
      ModelBatchRecord δ) .resultsSaved where
  opened := h.opened
  valid := by
    refine ⟨fun _ hnone => absurd hnone hremote, ?_, ?_⟩
    · intro _ outcome hdocument
      cases hdocument
    · intro result' terminal output error hdocument
      cases hdocument
      exact hterminal
  past := by
    refine Or.inl ⟨?_, ?_, ?_⟩
    · exact fun hstate => absurd (show "results_saved" = "uploading" from hstate) (by decide)
    · exact fun hstate => absurd (show "results_saved" = "uploaded" from hstate) (by decide)
    · intro id hdocument
      cases hdocument

theorem guarded_saveResults {voice : Option String} (h : Working record)
    (hremote : record.remoteBatchId ≠ none) (hterminal : status.state.isTerminal = true)
    (world : ModelWorld δ) :
    (saveResults rules execution voice target record status).Guarded BatchInvariant
      (BatchRely execution) (BatchGuarantee execution)
      (fun result _ => ∀ record', result = .ok record' →
        Working record' ∧ record'.remoteBatchId ≠ none) world := by
  have herror : ∀ (e : JobHandlerError) (_ : ModelWorld δ), ∀ record' : ModelBatchRecord δ,
      (Except.error e : Except JobHandlerError _) = .ok record' →
        Working record' ∧ record'.remoteBatchId ≠ none := by
    intro e _ record' hresult
    cases hresult
  unfold saveResults
  split
  · refine guarded_quiet_then herror (moves_quiet (moves_aside (moves_fetchResponses execution target _ _ _))) world
      fun _ world => ?_
    refine guarded_quiet_then herror (moves_quiet (@moves_vocabularyCall _ execution rules)) world fun _ world => ?_
    refine guarded_quiet_then herror (moves_quiet (moves_aside (@moves_currentInferenceFingerprint _ execution rules))) world
      fun _ world => ?_
    refine guarded_quiet_then herror (moves_collectResponses rules execution voice _ _ _ _ _) world
      fun tally world => ?_
    have hforward := forward_saved h hremote hterminal
    refine (guarded_persist rules (hforward _) (K := fun _ => True) (fun _ _ _ => id)
      (fun _ => id) trivial).mono ?_
    intro result world hresult record' hrecord
    obtain ⟨rfl, _⟩ := hresult record' hrecord
    exact ⟨Working.next (hforward _) (by decide) (by decide), hremote⟩
  · intro record' hresult
    cases hresult

theorem safe_collectIdentified {voice : Option String} {cancel : Bool} {remote : String}
    (h : Working record) (hremote : record.remoteBatchId ≠ none) (world : ModelWorld δ) :
    Safe execution (collectIdentified rules execution voice target cancel record remote) world := by
  unfold collectIdentified
  split
  · exact safe_closeCollected rules h hremote world
  · refine safe_quiet_then (moves_quiet (moves_aside (@moves_checkCancelledCall _ execution))) world fun _ world => ?_
    refine safe_returns_bind (moves_quiet (moves_aside (Transport.moves_status execution target remote)))
      (returns_status execution target remote) world fun status world hstatus => ?_
    refine safe_quiet_then (moves_ofExcept _) world fun _ world => ?_
    split
    · exact safe_reportWaiting rules h hremote hstatus world
    · next hterminal =>
      rw [Bool.not_eq_false] at hterminal
      refine Guarded.bind ((guarded_saveResults rules h hremote hterminal world).mono ?_)
      intro result world hresult
      cases result with
      | error e => trivial
      | ok record' =>
        obtain ⟨hworking, hremote'⟩ := hresult record' rfl
        exact safe_closeCollected rules hworking hremote' world

/-- A batch may be closed as one that never was submitted only where it is in one of the first
two states. -/
theorem forward_notSubmitted (h : Working record) (hremote : record.remoteBatchId = none)
    (hsubmitting : record.state ≠ .submitting) (result : BatchOutcome δ) :
    Forward ({ record with document := .closed result } : ModelBatchRecord δ) .cancelled where
  opened := h.opened
  valid := by
    refine ⟨?_, ?_, ?_⟩
    · exact fun hopen => absurd (show BatchState.isOpen "cancelled" = true from hopen) (by decide)
    · exact fun hopen => absurd (show BatchState.isOpen "cancelled" = true from hopen) (by decide)
    · intro result' terminal output error hdocument
      cases hdocument
  past := by
    right
    have hlocal := h.valid.numbered h.opened hremote
    simp only [localStates, List.mem_cons, List.not_mem_nil, or_false] at hlocal
    rcases hlocal with huploading | huploaded | hsubmit
    · exact Or.inl huploading
    · exact Or.inr huploaded
    · refine absurd ?_ hsubmitting
      rw [← h.canonical, show record.state.asStr = "submitting" from hsubmit]
      decide

theorem forward_abandoned (h : Working record) (id : String) (usage : Option ProviderUsageSummary) :
    Forward ({ record with document := .closed (.submissionStillUncertain id usage) } :
      ModelBatchRecord δ) .cancelled where
  opened := h.opened
  valid := by
    refine ⟨?_, ?_, ?_⟩
    · exact fun hopen => absurd (show BatchState.isOpen "cancelled" = true from hopen) (by decide)
    · exact fun hopen => absurd (show BatchState.isOpen "cancelled" = true from hopen) (by decide)
    · intro result' terminal output error hdocument
      cases hdocument
  past := by
    refine Or.inl ⟨?_, ?_, ?_⟩
    · exact fun hstate => absurd (show "cancelled" = "uploading" from hstate) (by decide)
    · exact fun hstate => absurd (show "cancelled" = "uploaded" from hstate) (by decide)
    · intro id' hdocument
      cases hdocument

theorem forward_recovered (h : Working record) (remote : String) :
    Forward ({ record with remoteBatchId := some remote } : ModelBatchRecord δ) .submitted where
  opened := h.opened
  valid := by
    refine ⟨?_, fun _ => h.document, h.valid.results⟩
    intro _ hnone
    cases hnone
  past := by
    refine Or.inl ⟨?_, ?_, fun _ => h.document _⟩
    · exact fun hstate => absurd (show "submitted" = "uploading" from hstate) (by decide)
    · exact fun hstate => absurd (show "submitted" = "uploaded" from hstate) (by decide)

theorem safe_collectUnidentified {voice : Option String} {action : BatchAction} (h : Working record)
    (hremote : record.remoteBatchId = none) (world : ModelWorld δ) :
    Safe execution (collectUnidentified rules execution voice target action record) world := by
  unfold collectUnidentified
  split
  · refine safe_persist_bind rules (forward_abandoned h _ _) ?_ world
    exact fun _ => trivial
  · split
    · split
      · trivial
      · next remote _ =>
        refine safe_quiet_then (moves_quiet (moves_aside (Transport.moves_status execution target remote))) world
          fun status world => ?_
        refine safe_quiet_then (moves_ofExcept _) world fun _ world => ?_
        refine safe_persist_bind rules (forward_recovered h remote) (fun world => ?_) world
        exact safe_collectIdentified rules
          (Working.next (forward_recovered h remote) (by decide) (by decide))
          (Option.some_ne_none remote) world
    · next hsubmitting =>
      split
      · refine safe_quiet_then (moves_quiet (moves_aside (moves_deleteFiles execution target _))) world fun _ world => ?_
        refine safe_persist_bind rules (forward_notSubmitted h hremote hsubmitting _) ?_ world
        exact fun _ => trivial
      · trivial

theorem safe_collectTaggingBatch (voice : Option String) (action : BatchAction)
    (world : ModelWorld δ) :
    Safe execution (collectTaggingBatch rules execution voice action) world := by
  refine safe_quiet_then (moves_ofExcept _) world fun _ world => ?_
  refine safe_readCall_bind (P := fun found => ∀ record ∈ found,
    RowValid record.encode ∧ BatchState.parse record.state.asStr = record.state) ?_ ?_ world
  · intro world hinv record hrecord
    obtain ⟨row, hrow, rfl⟩ := Option.map_eq_some_iff.mp hrecord
    have hvalid := hinv.rows row (List.mem_of_find?_eq_some hrow)
    have hencode : (ModelBatchRecord.decode row).encode = row := by
      unfold ModelBatchRecord.decode ModelBatchRecord.encode
      simp only [BatchState.asStr_parse]
    refine ⟨by rw [hencode]; exact hvalid, ?_⟩
    unfold ModelBatchRecord.decode
    simp only [BatchState.asStr_parse]
  · intro found world hfound
    cases found with
    | none => trivial
    | some record =>
      obtain ⟨hvalid, hcanonical⟩ := hfound record rfl
      dsimp only
      split
      · trivial
      · next hpending =>
        have hopen : BatchState.isOpen record.state.asStr = true := by
          have hterminal := BatchState.isTerminal_parse record.state.asStr
          rw [hcanonical] at hterminal
          unfold ModelBatchRecord.pending at hpending
          rw [hterminal, Bool.not_not, Bool.not_eq_false] at hpending
          exact hpending
        have hworking : Working record := ⟨hopen, hvalid, hcanonical⟩
        refine safe_quiet_then (moves_quiet (moves_aside (@moves_prepareBatchManagement _ execution rules _))) world fun target world => ?_
        split
        · next hremote => exact safe_collectUnidentified rules hworking hremote world
        · next remote hremote =>
          refine safe_collectIdentified rules hworking ?_ world
          rw [hremote]
          exact Option.some_ne_none remote

/-! ## Creating a row -/

def createdWorld (record : ModelBatchRecord δ) (execution : String) (world : ModelWorld δ) :
    ModelWorld δ :=
  { world with
    batches := world.batches ++
      [{ record.encode with inputFileId := none, remoteBatchId := none }]
    creators := (record.id, execution) :: world.creators }

theorem createModelBatch_written {created : Bool}
    (h : (if maxBatchDocumentBytes < rules.documentBytes record.document then
        Except.error IoErrorKind.invalidInput
      else if (pendingModelBatch world.batches).isSome = true then .ok (false, world)
      else if record.id ∈ world.batches.map ModelBatchRow.id then .error .alreadyExists
      else .ok (true, createdWorld record execution world)) = .ok (created, world')) :
    (created = false ∧ world' = world) ∨
      (pendingModelBatch world.batches = none ∧ record.id ∉ world.batches.map ModelBatchRow.id ∧
        created = true ∧ world' = createdWorld record execution world) := by
  split at h
  · cases h
  · split at h
    · cases h
      exact Or.inl ⟨rfl, rfl⟩
    · next hpending =>
      split at h
      · cases h
      · next hid =>
        cases h
        exact Or.inr ⟨Option.not_isSome_iff_eq_none.mp hpending, hid, rfl, rfl⟩

theorem closed_of_pendingModelBatch {batches : List (ModelBatchRow δ)}
    (h : pendingModelBatch batches = none) (row : ModelBatchRow δ) (hrow : row ∈ batches) :
    BatchState.isOpen row.state = false :=
  Bool.eq_false_of_not_eq_true (List.find?_eq_none.mp (Option.map_eq_none_iff.mp h) row hrow)

theorem countP_open_of_pendingModelBatch {batches : List (ModelBatchRow δ)}
    (h : pendingModelBatch batches = none) :
    batches.countP (fun row => BatchState.isOpen row.state) = 0 := by
  rw [List.countP_eq_zero]
  intro row hrow hopen
  rw [closed_of_pendingModelBatch h row hrow] at hopen
  exact absurd hopen Bool.false_ne_true

/-- A record of a batch that is being submitted. -/
structure Local (record : ModelBatchRecord δ) : Prop where
  document : ∀ result, record.document ≠ .closed result
  results : ∀ result terminal output error, record.document ≠ .results result terminal output error

theorem Local.rowValid (h : Local record)
    (hstate : record.state.asStr ∈ localStates ∨ record.remoteBatchId ≠ none) :
    RowValid record.encode := by
  refine ⟨?_, fun _ => h.document, ?_⟩
  · intro _ hnone
    rcases hstate with hlocal | hremote
    · exact hlocal
    · exact absurd hnone hremote
  · intro result terminal output error hdocument
    exact absurd hdocument (h.results result terminal output error)

theorem invariant_createdWorld (hlocal : Local record) (hstate : record.state.asStr ∈ localStates)
    (hpending : pendingModelBatch world.batches = none)
    (hid : record.id ∉ world.batches.map ModelBatchRow.id) (hinv : BatchInvariant world) :
    BatchInvariant (createdWorld record execution world) := by
  refine ⟨?_, ?_, ?_, ?_, ?_, ?_, hinv.once⟩
  · show ((world.batches ++ [_]).map ModelBatchRow.id).Nodup
    rw [List.map_append, List.nodup_append]
    refine ⟨hinv.ids, List.nodup_singleton _, ?_⟩
    rintro id hmem _ hnew rfl
    rw [List.map_singleton, List.mem_singleton] at hnew
    rw [hnew] at hmem
    exact hid hmem
  · show (world.batches ++ [_]).countP _ ≤ 1
    rw [List.countP_append, countP_open_of_pendingModelBatch hpending, Nat.zero_add]
    exact List.countP_le_length
  · intro row hrow
    rcases List.mem_append.mp hrow with hold | hnew
    · exact hinv.rows row hold
    · rw [List.mem_singleton] at hnew
      subst hnew
      exact ⟨fun _ _ => hstate, fun _ => hlocal.document,
        (hlocal.rowValid (Or.inl hstate)).results⟩
  · intro entry hentry
    show entry.1 ∈ (world.batches ++ [_]).map ModelBatchRow.id
    rw [List.map_append, List.mem_append]
    rcases List.mem_cons.mp hentry with rfl | hold
    · exact Or.inr (List.mem_singleton.mpr rfl)
    · exact Or.inl (hinv.created entry hold)
  · show (((record.id, execution) :: world.creators).map Prod.fst).Nodup
    rw [List.map_cons, List.nodup_cons]
    refine ⟨?_, hinv.creators⟩
    intro hmem
    obtain ⟨entry, hentry, heq⟩ := List.mem_map.mp hmem
    have hcreated := hinv.created entry hentry
    rw [heq] at hcreated
    exact hid hcreated
  · intro call hcall id hkind
    obtain ⟨hcreated, row, hrow, hrowId, hpast⟩ := hinv.submitted call hcall id hkind
    exact ⟨List.mem_cons_of_mem _ hcreated, row, List.mem_append_left _ hrow, hrowId, hpast⟩

theorem onward_createdWorld (record : ModelBatchRecord δ) (world : ModelWorld δ) :
    Onward world (createdWorld record execution world) :=
  ⟨fun row hrow => ⟨row, List.mem_append_left _ hrow, rfl, id⟩,
    fun _ hentry => List.mem_cons_of_mem _ hentry⟩

theorem guarded_createModelBatch (hlocal : Local record) (hstate : record.state.asStr ∈ localStates)
    (hunsent : world.submits.filter (fun call => call.execution = execution) = []) :
    (createModelBatch rules execution record).Guarded BatchInvariant (BatchRely execution)
      (BatchGuarantee execution)
      (fun result world => result = .ok true → Holds execution record.id world) world := by
  have hwrite : ∀ world created world', BatchInvariant world →
      (created = false ∧ world' = world) ∨
        (pendingModelBatch world.batches = none ∧
          record.id ∉ world.batches.map ModelBatchRow.id ∧
          created = true ∧ world' = createdWorld record execution world) →
      BatchInvariant world' ∧ BatchGuarantee execution world world' := by
    rintro world created world' hinv (⟨-, rfl⟩ | ⟨hpending, hid, -, rfl⟩)
    · exact ⟨hinv, (Quiet.refl _).guarantee execution⟩
    · exact ⟨invariant_createdWorld hlocal hstate hpending hid hinv,
        onward_createdWorld record world, fun _ _ => rfl,
        fun _ _ _ => closed_of_pendingModelBatch hpending⟩
  refine guarded_syscallTorn (fun world => (Quiet.refl world).guarantee execution) ?_ ?_ ?_
  · intro world' _ hinv progress
    refine and_assoc.mp ⟨?_, fun hresult => by cases hresult⟩
    split
    · exact ⟨hinv, (Quiet.refl _).guarantee execution⟩
    · split
      · next created world'' hact =>
        exact hwrite world' created world'' hinv (createModelBatch_written rules hact)
      · exact ⟨hinv, (Quiet.refl _).guarantee execution⟩
  · intro world' kind _ _ _ hresult
    cases hresult
  · intro world' created world'' hothers hinv hact
    have hcases := createModelBatch_written rules hact
    refine and_assoc.mp ⟨hwrite world' created world'' hinv hcases, ?_⟩
    intro hresult
    cases hresult
    rcases hcases with ⟨hfalse, _⟩ | ⟨_, _, _, rfl⟩
    · cases hfalse
    · exact ⟨List.mem_cons_self, hothers.submits.trans hunsent⟩

/-! ## Sending a batch -/

theorem answered_id {β : Type} {kind : ProviderCallKind} {attempts : List (ℕ × String)}
    {answer : ModelWorld δ → Except String β} (world : ModelWorld δ) :
    answered execution kind attempts answer id world = world.called execution kind attempts := by
  unfold answered
  split <;> rfl

theorem submits_called (id : String) (attempts : List (ℕ × String)) (world : ModelWorld δ) :
    (world.called execution (.submit id) attempts).submits =
      ⟨execution, .submit id, attempts, world.lastCheckpoint execution⟩ :: world.submits := rfl

def IsPast (id : String) (world : ModelWorld δ) : Prop :=
  ∃ row ∈ world.batches, row.id = id ∧ Past row

theorem IsPast.onward {id : String} (h : IsPast id world) (honward : Onward world world') :
    IsPast id world' := by
  obtain ⟨row, hrow, hid, hpast⟩ := h
  obtain ⟨row', hrow', hid', hpast'⟩ := honward.rows row hrow
  exact ⟨row', hrow', hid'.trans hid, hpast' hpast⟩

theorem Holds.countP_submits {id : String} (hinv : BatchInvariant world)
    (h : Holds execution id world) :
    world.submits.countP (fun call => call.kind = .submit id) = 0 := by
  rw [List.countP_eq_zero]
  intro call hcall hkind
  have hcreated := (hinv.submitted call hcall id (of_decide_eq_true hkind)).1
  have hcreator : call.execution = execution :=
    (Prod.mk.inj (List.inj_on_of_nodup_map hinv.creators hcreated h.created rfl)).2
  have hmine : call ∈ world.submits.filter (fun call => call.execution = execution) :=
    List.mem_filter.mpr ⟨hcall, decide_eq_true hcreator⟩
  rw [h.unsent] at hmine
  exact absurd hmine List.not_mem_nil

theorem invariant_submitCalled {id : String} {attempts : List (ℕ × String)}
    (h : Holds execution id world) (hpast : IsPast id world) (hinv : BatchInvariant world) :
    BatchInvariant (world.called execution (.submit id) attempts) := by
  refine ⟨hinv.ids, hinv.oneOpen, hinv.rows, hinv.created, hinv.creators, ?_, ?_⟩
  · intro call hcall id' hkind
    rw [submits_called] at hcall
    rcases List.mem_cons.mp hcall with rfl | hold
    · cases hkind
      exact ⟨h.created, hpast⟩
    · exact hinv.submitted call hold id' hkind
  · intro id'
    rw [submits_called, List.countP_cons]
    by_cases hid : id = id'
    · subst hid
      rw [h.countP_submits hinv, Nat.zero_add]
      split <;> decide
    · rw [if_neg]
      · exact hinv.once id'
      · intro hkind
        exact hid (ProviderCallKind.submit.inj (of_decide_eq_true hkind))

theorem guarantee_submitCalled (id : String) (attempts : List (ℕ × String))
    (world : ModelWorld δ) :
    BatchGuarantee execution world (world.called execution (.submit id) attempts) := by
  refine ⟨⟨(Onward.refl world).rows, (Onward.refl world).creators⟩, ?_,
    createsAlone_of_ids rfl⟩
  intro other hother
  rw [submits_called, List.filter_cons_of_neg]
  intro hsame
  exact hother (of_decide_eq_true hsame).symm

theorem guarded_submit (target : ProviderExecutionTarget) (file batchId : String)
    (attempts : List (ℕ × String)) (h : Holds execution batchId world)
    (hpast : IsPast batchId world) :
    Safe execution (Transport.submit execution target file batchId attempts) world := by
  have hcall : ∀ world', BatchRely execution world world' → BatchInvariant world' →
      BatchInvariant (world'.called execution (.submit batchId) attempts) ∧
        BatchGuarantee execution world' (world'.called execution (.submit batchId) attempts) :=
    fun world' hothers hinv =>
      ⟨invariant_submitCalled (h.rely hothers) (hpast.onward hothers.toOnward) hinv,
        guarantee_submitCalled batchId attempts world'⟩
  refine CrashProgram.Program.guarded_ofExcept_bind (fun _ => trivial) fun _ _ => ?_
  refine CrashProgram.Program.guarded_ofExcept_bind (fun _ => trivial) fun _ _ => ?_
  refine Guarded.bind (Guarded.bind (guarded_syscallTorn
    (fun world => (Quiet.refl world).guarantee execution) ?_ ?_ ?_))
  · intro world' hothers hinv progress
    refine and_assoc.mp ⟨?_, trivial⟩
    split
    · exact ⟨hinv, (Quiet.refl _).guarantee execution⟩
    · rw [answered_id]
      exact hcall world' hothers hinv
  · exact fun _ _ _ _ _ => trivial
  · intro world' answer world'' hothers hinv hact
    cases hact
    refine and_assoc.mp ⟨?_, ?_⟩
    · rw [answered_id]
      exact hcall world' hothers hinv
    · refine guardedThen_of (fun _ _ => trivial) fun answer world => ?_
      exact guardedThen_of (fun _ _ => trivial) fun _ _ => trivial

section

variable {batch : PlannedBatch δ} {usage : ProviderUsageAccumulator}
variable {record : ModelBatchRecord δ}

theorem Local.forward (h : Local record) {next : BatchState}
    (hstate : record.state = .uploading ∨ record.state = .uploaded)
    (hnext : next.asStr ∈ localStates) : Forward record next where
  opened := by
    rcases hstate with hstate | hstate
    · rw [hstate]
      decide
    · rw [hstate]
      decide
  valid := Local.rowValid ⟨h.document, h.results⟩ (Or.inl hnext)
  past := by
    right
    rcases hstate with hstate | hstate
    · rw [hstate]
      exact Or.inl (by decide)
    · rw [hstate]
      exact Or.inr (by decide)

theorem Local.submitted (h : Local record) (hstate : record.state = .submitting)
    (hremote : record.remoteBatchId ≠ none) :
    Forward record .submitted where
  opened := by
    rw [hstate]
    decide
  valid := Local.rowValid ⟨h.document, h.results⟩ (Or.inr hremote)
  past := by
    refine Or.inl ⟨?_, ?_, fun _ => h.document _⟩
    · exact fun hstate => absurd (show "submitted" = "uploading" from hstate) (by decide)
    · exact fun hstate => absurd (show "submitted" = "uploaded" from hstate) (by decide)

theorem Local.past (h : Local record) (hstate : record.state = .submitting) :
    Past record.encode := by
  refine ⟨?_, ?_, fun _ => h.document _⟩
  · intro huploading
    rw [show record.encode.state = record.state.asStr from rfl, hstate] at huploading
    exact absurd huploading (by decide)
  · intro huploaded
    rw [show record.encode.state = record.state.asStr from rfl, hstate] at huploaded
    exact absurd huploaded (by decide)

theorem safe_persist_holds {γ : Type} {next : BatchState}
    {f : ModelBatchRecord δ → ModelProgram δ γ} (h : Forward record next) {batchId : String}
    (hf : ∀ world, Holds execution batchId world →
      ({ record with state := next } : ModelBatchRecord δ).encode ∈ world.batches →
        Safe execution (f { record with state := next }) world) {world : ModelWorld δ}
    (hholds : Holds execution batchId world) :
    Safe execution (persist rules record next >>= f) world := by
  refine Guarded.bind ((guarded_persist rules h (K := Holds execution batchId)
    (fun _ _ hothers hK => hK.rely hothers) (fun _ hK => ⟨hK.created, hK.unsent⟩) hholds).mono ?_)
  intro result world hresult
  cases result with
  | error e => trivial
  | ok record' =>
    obtain ⟨rfl, hK, hmem⟩ := hresult record' rfl
    exact hf world hK hmem

theorem safe_sendBatch (h : Local record) (hstate : record.state = .uploading)
    {world : ModelWorld δ} (hholds : Holds execution record.id world) :
    Safe execution (sendBatch rules execution batch record) world := by
  have hrely : ∀ world world' : ModelWorld δ, BatchRely execution world world' →
      Holds execution record.id world → Holds execution record.id world' :=
    fun _ _ hothers hK => hK.rely hothers
  refine guarded_quiet_bind (fun _ _ => trivial)
    (moves_upload execution _ record.id _) hrely hholds fun file world hholds => ?_
  have huploading : Local { record with inputFileId := some file } := ⟨h.document, h.results⟩
  refine safe_persist_holds rules (huploading.forward (Or.inl hstate) (by decide))
    (fun world hholds _ => ?_) hholds
  refine guarded_quiet_bind (fun _ _ => trivial)
    (moves_quiet (moves_aside (@moves_checkCancelledCall _ execution))) hrely hholds
    fun _ world hholds => ?_
  have huploaded : Local { record with inputFileId := some file, state := .uploaded } :=
    ⟨h.document, h.results⟩
  refine safe_persist_holds rules (huploaded.forward (Or.inr rfl) (by decide))
    (fun world hholds hmem => ?_) hholds
  have hsubmitting : Local { record with inputFileId := some file, state := .submitting } :=
    ⟨h.document, h.results⟩
  refine Guarded.bind ((guarded_submit batch.role.execution file record.id _ hholds
    ⟨_, hmem, rfl, hsubmitting.past rfl⟩).mono ?_)
  intro result world _
  cases result with
  | error e => trivial
  | ok remote =>
    have hsent : Local { record with
        inputFileId := some file, state := .submitting, remoteBatchId := some remote } :=
      ⟨h.document, h.results⟩
    refine safe_persist_bind rules (hsent.submitted rfl (Option.some_ne_none remote)) ?_ world
    exact fun _ => trivial

theorem safe_submitTaggingBatch {world : ModelWorld δ}
    (hunsent : world.submits.filter (fun call => call.execution = execution) = []) :
    Safe execution (submitTaggingBatch rules execution batch) world := by
  have hrely : ∀ world world' : ModelWorld δ, BatchRely execution world world' →
      world.submits.filter (fun call => call.execution = execution) = [] →
        world'.submits.filter (fun call => call.execution = execution) = [] :=
    fun _ _ hothers hK => hothers.submits.trans hK
  refine CrashProgram.Program.guarded_ofExcept_bind (fun _ => trivial) fun _ _ => ?_
  refine guarded_quiet_bind (fun _ _ => trivial) (moves_reserveSubmission rules execution batch)
    hrely hunsent fun usage world hunsent => ?_
  have hlocal : Local (submissionRecord batch usage) := by
    refine ⟨?_, ?_⟩
    · intro result hdocument
      cases hdocument
    · intro result terminal output error hdocument
      cases hdocument
  have hstate : (submissionRecord batch usage).state.asStr ∈ localStates :=
    show "uploading" ∈ localStates from List.mem_cons_self
  refine guarded_quiet_bind (fun _ _ => trivial)
    (moves_quiet (moves_aside (@moves_checkCancelledCall _ execution))) hrely hunsent
    fun _ world hunsent => ?_
  refine Guarded.bind ((guarded_createModelBatch rules hlocal hstate hunsent).mono ?_)
  intro result world hcreated
  cases result with
  | error e => trivial
  | ok created =>
    refine CrashProgram.Program.guarded_ofExcept_bind (fun _ => trivial) fun _ hensure => ?_
    have htrue : created = true := ensure_eq_ok.mp hensure
    subst htrue
    refine guarded_quiet_bind (fun _ _ => trivial) (moves_checkpointCall execution usage)
      (fun _ _ hothers hK => Holds.rely hK hothers) (hcreated rfl) fun _ world hholds => ?_
    exact safe_sendBatch rules hlocal rfl hholds

end

/-! ## Side by side -/

/-- Submissions, collections, cancellations and abandonments, each a run of its own, among
other calls to the provider and any change of the other tables. -/
def batchSystem : System (Pool (ModelWorld δ) JobHandlerError (BatchOutcome δ) String)
    (PoolAction (ModelWorld δ) JobHandlerError (BatchOutcome δ) String) :=
  poolSystem (fun world => world.batches = [] ∧ world.calls = [] ∧ world.creators = [])
    (fun world execution program =>
      (∀ call ∈ world.calls, call.execution ≠ execution) ∧
        ((∃ batch, program = submitTaggingBatch rules execution batch) ∨
          ∃ voice action, program = collectTaggingBatch rules execution voice action))
    Quiet

theorem batchInvariant_init (hbatches : world.batches = []) (hcalls : world.calls = [])
    (hcreators : world.creators = []) : BatchInvariant world := by
  have hsubmits : world.submits = [] := by
    unfold ModelWorld.submits
    rw [hcalls, List.filter_nil]
  refine ⟨?_, ?_, ?_, ?_, ?_, ?_, ?_⟩
  · rw [hbatches]
    exact List.nodup_nil
  · rw [hbatches]
    exact Nat.zero_le 1
  · rw [hbatches]
    exact fun row hrow => absurd hrow List.not_mem_nil
  · rw [hcreators]
    exact fun entry hentry => absurd hentry List.not_mem_nil
  · rw [hcreators]
    exact List.nodup_nil
  · rw [hsubmits]
    exact fun call hcall => absurd hcall List.not_mem_nil
  · rw [hsubmits]
    exact fun id => Nat.zero_le 1

theorem BatchGuarantee.rely {execution other : String} (hne : execution ≠ other)
    (h : BatchGuarantee execution world world') :
    BatchRely other world world' :=
  ⟨h.toOnward, h.submits other hne.symm⟩

theorem BatchRely.trans {world' world'' : ModelWorld δ} (h : BatchRely execution world world')
    (h' : BatchRely execution world' world'') :
    BatchRely execution world world'' :=
  ⟨h.toOnward.trans h'.toOnward, h'.submits.trans h.submits⟩

theorem batchSystem_invariant
    {pool : Pool (ModelWorld δ) JobHandlerError (BatchOutcome δ) String}
    (h : (batchSystem rules).Reachable pool) :
    PoolInvariant BatchInvariant BatchRely BatchGuarantee pool := by
  refine pool_invariant (fun t world => (Quiet.refl world).rely t) (fun t _ _ _ => BatchRely.trans)
    (fun t world => (Quiet.refl world).guarantee t) (fun t u _ _ hne _ => BatchGuarantee.rely hne)
    (fun _ _ hquiet hinv => ⟨hquiet.invariant hinv, hquiet.rely⟩) ?_ ?_ h
  · rintro world execution program _ ⟨hfresh, ⟨batch, rfl⟩ | ⟨voice, action, rfl⟩⟩
    · refine safe_submitTaggingBatch rules (List.filter_eq_nil_iff.mpr ?_)
      intro call hcall hsame
      exact hfresh call (List.mem_of_mem_filter hcall) (of_decide_eq_true hsame)
    · exact safe_collectTaggingBatch rules voice action world
  · rintro world ⟨hbatches, hcalls, hcreators⟩
    exact batchInvariant_init hbatches hcalls hcreators

/-- However submissions, collections, cancellations, restarts, crashes and lost replies fall: a
batch is submitted at most once, a row is created only where none is open, and no row is closed
as one that never was submitted whose submission may have been started. -/
theorem paid_batch_submitted_once
    {pool : Pool (ModelWorld δ) JobHandlerError (BatchOutcome δ) String}
    (h : (batchSystem rules).Reachable pool) :
    (∀ id, pool.shared.calls.countP (fun call => call.kind = .submit id) ≤ 1) ∧
      (∀ action pool', (batchSystem rules).step pool action pool' →
        ∀ row ∈ pool'.shared.batches, row.id ∉ pool.shared.batches.map ModelBatchRow.id →
          ∀ old ∈ pool.shared.batches, BatchState.isOpen old.state = false) ∧
      ∀ row ∈ pool.shared.batches, ∀ id, row.document = .closed (.noInferenceSubmitted id) →
        ∀ call ∈ pool.shared.calls, call.kind ≠ .submit row.id := by
  have hpool := batchSystem_invariant rules h
  have hsubmit : ∀ call ∈ pool.shared.calls, ∀ id, call.kind = .submit id →
      call ∈ pool.shared.submits := by
    intro call hcall id hkind
    refine List.mem_filter.mpr ⟨hcall, ?_⟩
    unfold ProviderCall.isSubmit
    rw [hkind]
  refine ⟨?_, ?_, ?_⟩
  · intro id
    refine le_trans (le_of_eq ?_) (hpool.shared.once id)
    unfold ModelWorld.submits
    rw [List.countP_filter]
    refine List.countP_congr ?_
    intro call hcall
    simp only [decide_eq_true_eq, Bool.and_eq_true, iff_self_and]
    exact fun hkind => (List.mem_filter.mp (hsubmit call hcall id hkind)).2
  · intro action pool' hstep
    rcases pool_guarantee (fun t world => (Quiet.refl world).rely t)
      (fun t world => (Quiet.refl world).guarantee t) hpool hstep with
      ⟨execution, hguarantee⟩ | hquiet | hsame
    · exact hguarantee.alone
    · exact createsAlone_of_ids (by rw [hquiet.batches])
    · exact createsAlone_of_ids (by rw [hsame])
  · intro row hrow id hdocument call hcall hkind
    obtain ⟨_, row', hrow', hid, hpast⟩ :=
      hpool.shared.submitted call (hsubmit call hcall _ hkind) row.id hkind
    have hsame : row' = row := List.inj_on_of_nodup_map hpool.shared.ids hrow' hrow hid
    exact hpast.not_closed id (hsame ▸ hdocument)

end

/-- The reply to the submission is lost; the batch stays submitted once. -/
theorem paid_batch_submitted_once_lostReply :
    ((submitTaggingBatch freeRules "run-1" oneRequest).run
        (List.replicate 8 .proceed ++ [.crash 1]) emptyModelWorld).2.calls.countP
      (fun call => call.kind = .submit "job-1") = 1 := by
  have hinit : (batchSystem freeRules).Reachable ⟨emptyModelWorld, []⟩ :=
    .init ⟨⟨rfl, rfl, rfl⟩, rfl⟩
  have hstart : (batchSystem freeRules).Reachable
      ⟨emptyModelWorld, [("run-1", submitTaggingBatch freeRules "run-1" oneRequest)]⟩ := by
    refine hinit.step (a := .start "run-1" (submitTaggingBatch freeRules "run-1" oneRequest))
      ⟨?_, ⟨?_, ?_⟩, rfl⟩
    · exact List.not_mem_nil
    · exact fun call hcall => absurd hcall List.not_mem_nil
    · exact Or.inl ⟨oneRequest, rfl⟩
  have honce := (paid_batch_submitted_once freeRules (reachable_run hstart
    (List.replicate 8 .proceed ++ [.crash 1]))).1 "job-1"
  refine le_antisymm honce ?_
  decide +kernel

end MusicServer
