/-
# Calls beside the rows

Most calls of a batch job read, write other tables, or ask the provider about what it already has.
None of them touches a row, a checkpoint or the requests that were sent.
-/
import MusicServer.BatchJobs
import MusicServer.Interleaving

namespace MusicServer

open CrashProgram Program ProviderUsageAccumulator

/-- Calls that send requests, or make the provider work on them. -/
def ProviderCallKind.sends : ProviderCallKind → Bool
  | .structured | .upload _ | .submit _ => true
  | .status | .results | .cancel | .deleteFile => false

section

variable {δ β : Type}

/-- Rows and checkpoints stay, and the provider is at most asked about what it has. -/
structure Aside (execution : String) (world world' : ModelWorld δ) : Prop where
  batches : world'.batches = world.batches
  creators : world'.creators = world.creators
  checkpoints : world'.checkpoints = world.checkpoints
  calls : world'.calls = world.calls ∨
    ∃ kind checkpoint, kind.sends = false ∧
      world'.calls = ⟨execution, kind, [], checkpoint⟩ :: world.calls

/-- The same, and the other tables stay too. -/
structure Idle (execution : String) (world world' : ModelWorld δ) : Prop
    extends Aside execution world world' where
  tables : world'.tables = world.tables

variable {execution : String}

theorem Aside.refl (world : ModelWorld δ) : Aside execution world world :=
  ⟨rfl, rfl, rfl, Or.inl rfl⟩

theorem Idle.refl (world : ModelWorld δ) : Idle execution world world := ⟨Aside.refl world, rfl⟩

theorem moves_aside {p : ModelProgram δ β} (h : p.Moves (Idle execution)) :
    p.Moves (Aside execution) := h.mono fun _ _ hidle => hidle.toAside

theorem moves_readCall (code : String) (read : ModelWorld δ → β) :
    (readCall code read).Moves (Idle execution) := by
  refine moves_syscall Idle.refl ?_
  intro world b world' h
  cases h
  exact Idle.refl world

theorem moves_checkCancelledCall :
    (checkCancelledCall : ModelProgram δ Unit).Moves (Idle execution) := by
  refine moves_syscall Idle.refl ?_
  intro world b world' h
  cases h
  exact Idle.refl world

theorem moves_writeCall {N : ModelWorld δ → ModelWorld δ → Prop} (hrefl : ∀ world, N world world)
    {code : String} {write : ModelWorld δ → Except IoErrorKind (β × ModelWorld δ)}
    (h : ∀ world b world', write world = .ok (b, world') → N world world') :
    (writeCall code write).Moves N := by
  refine moves_syscallTorn hrefl ?_ h
  intro progress world
  split
  · exact hrefl world
  · split
    · next b world' hwrite => exact h world b world' hwrite
    · exact hrefl world

theorem moves_providerCall {N : ModelWorld δ → ModelWorld δ → Prop} (hrefl : ∀ world, N world world)
    {kind : ProviderCallKind} {attempts : List (ℕ × String)}
    {answer : ModelWorld δ → Except String β} {effect : ModelWorld δ → ModelWorld δ}
    (hcalled : ∀ world, N world (world.called execution kind attempts))
    (heffect : ∀ world, N world (effect (world.called execution kind attempts))) :
    (providerCall execution kind attempts answer effect).Moves N := by
  have hanswered : ∀ world, N world (answered execution kind attempts answer effect world) := by
    intro world
    unfold answered
    split
    · exact heffect world
    · exact hcalled world
  refine Moves.bind (moves_syscallTorn hrefl ?_ ?_) fun _ => moves_ofExcept _
  · intro progress world
    split
    · exact hrefl world
    · exact hanswered world
  · intro world b world' h
    cases h
    exact hanswered world

theorem idle_called {kind : ProviderCallKind} (hkind : kind.sends = false)
    (world : ModelWorld δ) : Idle execution world (world.called execution kind []) :=
  ⟨⟨rfl, rfl, rfl, Or.inr ⟨kind, _, hkind, rfl⟩⟩, rfl⟩

theorem moves_management {kind : ProviderCallKind} {answer : ModelWorld δ → Except String β}
    (hkind : kind.sends = false) :
    (providerCall execution kind [] answer id).Moves (Idle execution) :=
  moves_providerCall Idle.refl (idle_called hkind) (idle_called hkind)

namespace Transport

variable (execution) (target : ProviderExecutionTarget)

theorem moves_status (batchId : String) :
    (status execution target batchId : ModelProgram δ ProviderBatchStatus).Moves
      (Idle execution) := by
  refine Moves.bind (moves_ofExcept _) fun _ => Moves.bind (moves_ofExcept _) fun _ => ?_
  exact Moves.bind (moves_management rfl) fun _ => moves_ofExcept _

theorem moves_results (fileId : String) :
    (results execution target fileId : ModelProgram δ (List ProviderBatchResult)).Moves
      (Idle execution) := by
  refine Moves.bind (moves_ofExcept _) fun _ => Moves.bind (moves_ofExcept _) fun _ => ?_
  exact Moves.bind (moves_management rfl) fun _ => moves_ofExcept _

theorem moves_cancel (batchId : String) :
    (cancel execution target batchId : ModelProgram δ Unit).Moves (Idle execution) := by
  refine Moves.bind (moves_ofExcept _) fun _ => Moves.bind (moves_ofExcept _) fun _ => ?_
  exact moves_management rfl

theorem moves_deleteFile (fileId : String) :
    (deleteFile execution target fileId : ModelProgram δ Unit).Moves (Idle execution) := by
  refine Moves.bind (moves_ofExcept _) fun _ => Moves.bind (moves_ofExcept _) fun _ => ?_
  refine moves_providerCall Idle.refl (idle_called rfl) fun world => ?_
  have hcalled : Idle execution world (world.called execution .deleteFile []) := idle_called rfl world
  exact ⟨⟨hcalled.batches, hcalled.creators, hcalled.checkpoints, hcalled.calls⟩, hcalled.tables⟩

end Transport

variable (rules : TaggingRules δ)

theorem moves_deleteFiles (execution : String) (target : ProviderExecutionTarget)
    (files : List String) :
    (deleteFiles execution target files : ModelProgram δ Unit).Moves (Idle execution) := by
  induction files with
  | nil => exact moves_pure ()
  | cons file rest ih => exact Moves.bind (Transport.moves_deleteFile execution target file) fun _ => ih

theorem moves_vocabularyCall : (vocabularyCall rules).Moves (Aside execution) := by
  refine Moves.bind (moves_aside (moves_readCall _ _)) fun found => ?_
  cases found with
  | some document => exact moves_pure document
  | none =>
    refine moves_writeCall Aside.refl ?_
    intro world document world' h
    cases h
    exact ⟨rfl, rfl, rfl, Or.inl rfl⟩

theorem moves_storeModelAnalysis (parameters : ModelTaggingJobParameters) (voice : Option String)
    (profiles : List (AnalysisWrite δ)) :
    (storeModelAnalysis rules parameters voice profiles).Moves (Aside execution) := by
  refine moves_writeCall Aside.refl ?_
  intro world count world' h
  split at h
  · cases h
  · cases hstore : storeProfiles rules parameters voice world.tables profiles with
    | error kind =>
      rw [hstore] at h
      cases h
    | ok result =>
      rw [hstore] at h
      cases h
      exact ⟨rfl, rfl, rfl, Or.inl rfl⟩

theorem moves_prepareBatchManagement (connectionId : String) :
    (prepareBatchManagement rules connectionId).Moves (Idle execution) := by
  refine Moves.bind (moves_readCall _ _) fun found => ?_
  cases found with
  | none => exact moves_fail _
  | some connection => exact moves_ofExcept _

theorem moves_currentInferenceFingerprint :
    (currentInferenceFingerprint rules).Moves (Idle execution) := by
  refine Moves.bind (moves_readCall _ _) fun found => ?_
  cases found with
  | none => exact moves_pure _
  | some role => exact Moves.bind (moves_readCall _ _) fun _ => moves_pure _

theorem moves_fetchResponses (execution : String) (target : ProviderExecutionTarget) (count : ℕ)
    (responses : List (ℕ × StructuredModelResult)) (files : List String) :
    (fetchResponses execution target count responses files : ModelProgram δ _).Moves
      (Idle execution) := by
  induction files generalizing responses with
  | nil => exact moves_pure responses
  | cons file rest ih =>
    refine Moves.bind (Transport.moves_results execution target file) fun items => ?_
    exact Moves.bind (moves_ofExcept _) fun responses => ih responses

theorem moves_cancelRemote (execution : String) (target : ProviderExecutionTarget) (cancel : Bool)
    (remote : String) (state : BatchState) :
    (cancelRemote execution target cancel remote state : ModelProgram δ Unit).Moves
      (Idle execution) := by
  unfold cancelRemote
  split
  · exact Transport.moves_cancel execution target remote
  · exact moves_pure ()

/-! ## Updated rows -/

def updatedRows (record : ModelBatchRecord δ) (next : BatchState)
    (batches : List (ModelBatchRow δ)) : List (ModelBatchRow δ) :=
  batches.map fun row =>
    if matchesUpdate record.state { record with state := next } row = true then
      ({ record with state := next } : ModelBatchRecord δ).encode
    else row

theorem matchesUpdate_iff {expected : BatchState} {record : ModelBatchRecord δ}
    {row : ModelBatchRow δ} : matchesUpdate expected record row = true ↔
      row.id = record.id ∧ row.connectionId = record.connectionId ∧ row.state = expected.asStr := by
  unfold matchesUpdate
  simp only [Bool.and_eq_true, decide_eq_true_eq, and_assoc]

theorem ids_updatedRows (record : ModelBatchRecord δ) (next : BatchState)
    (batches : List (ModelBatchRow δ)) :
    (updatedRows record next batches).map ModelBatchRow.id = batches.map ModelBatchRow.id := by
  unfold updatedRows
  rw [List.map_map]
  refine List.map_congr_left ?_
  intro row _
  rw [Function.comp_apply]
  split
  · next hmatches => exact (matchesUpdate_iff.mp hmatches).1.symm
  · rfl

def updatedWorld (record : ModelBatchRecord δ) (next : BatchState) (world : ModelWorld δ) :
    ModelWorld δ :=
  { world with batches := updatedRows record next world.batches }

end

end MusicServer
