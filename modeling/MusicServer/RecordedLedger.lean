/-
# Every request is announced

Model jobs, submissions and collections run side by side, and each may die at any call.  A stored
checkpoint is balanced, and a call that sends requests finds them counted as uncertain in the last
checkpoint of its execution:

* an execution writes its own checkpoints only, so what it stored last is still there when its
  call goes out;
* a collection starts from the ledger its submission froze, in which every attempt is uncertain.
-/
import MusicServer.BatchMoves
import MusicServer.RecordedRequests

namespace MusicServer

open CrashProgram Program Transition ProviderUsageAccumulator

/-! ## Announced calls -/

/-- The numbers of the attempts that go out with a call: the last one, or a whole batch. -/
def sentNumbers (kind : ProviderCallKind) (attempted : ℕ) : List ℕ :=
  match kind with
  | .structured => [attempted]
  | _ => List.range' 1 attempted

/-- What a stored ledger says of the attempts that go out. -/
structure AnnouncedBy (kind : ProviderCallKind) (usage : ProviderUsageSummary)
    (attempts : List (ℕ × String)) : Prop where
  balanced : Balanced usage
  numbers : attempts.map Prod.fst = sentNumbers kind usage.attemptedRequests
  counted : attempts.length ≤ usage.uncertainRequests
  recorded : ∀ attempt ∈ attempts, attempt.1 ∈ lastAttempts usage.attemptedRequests →
    ∃ record ∈ usage.attempts, record.key = attempt ∧ record.outcome = .uncertain

/-- A call that sends requests has them in the last checkpoint of its execution. -/
def Announced (call : ProviderCall) : Prop :=
  call.kind.sends = true → ∃ checkpoint, call.checkpoint = some checkpoint ∧
    AnnouncedBy call.kind checkpoint.usage call.attempts

theorem announcedBy_begun {rules : UsageRules} {usage usage' : ProviderUsageAccumulator}
    {role : ResolvedRoleExecution} {request : StructuredModelRequest}
    (h : begin rules usage role request = .ok usage') (hbalanced : Balanced usage.summary) :
    AnnouncedBy .structured usage'.summary
      [(usage'.summary.attemptedRequests, rules.requestFingerprint request)] := by
  obtain ⟨_, hbalanced', hlast, hattempted, _, _⟩ := begin_ok h hbalanced
  obtain ⟨kept, record, _, hattempts, hkey, houtcome⟩ := begin_recorded h
  refine ⟨hbalanced', rfl, hlast.1, ?_⟩
  intro attempt hattempt _
  rw [List.mem_singleton] at hattempt
  refine ⟨record, ?_, ?_, houtcome⟩
  · rw [hattempts]
    exact List.mem_append_right _ (List.mem_singleton.mpr rfl)
  · rw [hattempt, hkey, hattempted]

/-- The ledger of a batch of which every request is reserved. -/
structure Reserved (rules : UsageRules) (requests : List StructuredModelRequest)
    (usage : ProviderUsageSummary) : Prop where
  balanced : Balanced usage
  uncertain : AllUncertain usage
  attempted : usage.attemptedRequests = requests.length
  recorded : usage.attempts.map ProviderAttemptRecord.key <:+ announcedFrom rules 0 requests

theorem Reserved.announcedBy {rules : UsageRules} {requests : List StructuredModelRequest}
    {usage : ProviderUsageSummary} (h : Reserved rules requests usage) {kind : ProviderCallKind}
    (hkind : kind ≠ .structured) : AnnouncedBy kind usage (announcedFrom rules 0 requests) := by
  have hnumbers := numbers_announcedFrom rules 0 requests
  rw [Nat.zero_add] at hnumbers
  refine ⟨h.balanced, ?_, ?_, ?_⟩
  · rw [hnumbers, h.attempted]
    cases kind with
    | structured => exact absurd rfl hkind
    | _ => rfl
  · rw [h.uncertain.1, h.attempted, ← List.length_map Prod.fst, hnumbers, List.length_range']
  · intro attempt hattempt hlast
    have hnodup : ((announcedFrom rules 0 requests).map Prod.fst).Nodup := by
      rw [hnumbers]
      exact List.nodup_range'
    obtain ⟨record, hrecord, hkey⟩ := exists_record h.balanced h.recorded hnodup hattempt hlast
    exact ⟨record, hrecord, hkey, h.uncertain.2 record hrecord⟩

/-! ## What the checkpoints, the rows and the calls keep -/

section

variable {δ : Type}

/-- A frozen submission has every attempt uncertain. -/
structure Frozen (frozen : BatchSubmission δ) : Prop where
  balanced : Balanced frozen.submissionUsage
  uncertain : AllUncertain frozen.submissionUsage
  attempted : frozen.submissionUsage.attemptedRequests = frozen.ranges.length

def FrozenDocument (document : BatchDocument δ) : Prop :=
  ∀ frozen, document = .submission frozen → Frozen frozen

structure LedgerInvariant (world : ModelWorld δ) : Prop where
  checkpoints : ∀ entry ∈ world.checkpoints, Balanced entry.2.usage
  documents : ∀ row ∈ world.batches, FrozenDocument row.document
  calls : ∀ call ∈ world.calls, Announced call

structure LedgerStill (world world' : ModelWorld δ) : Prop where
  checkpoints : world'.checkpoints = world.checkpoints
  documents : ∀ row ∈ world'.batches, row ∈ world.batches ∨ FrozenDocument row.document
  calls : ∀ call ∈ world'.calls, call ∈ world.calls ∨ Announced call

/-- A step of an execution, which stores checkpoints of its own only. -/
structure LedgerMove (execution : String) (world world' : ModelWorld δ) : Prop where
  checkpoints : ∀ entry ∈ world'.checkpoints, entry ∈ world.checkpoints ∨ Balanced entry.2.usage
  documents : ∀ row ∈ world'.batches, row ∈ world.batches ∨ FrozenDocument row.document
  calls : ∀ call ∈ world'.calls, call ∈ world.calls ∨ Announced call
  others : ∀ other, other ≠ execution → world'.lastCheckpoint other = world.lastCheckpoint other

/-- What an execution relies on: its last checkpoint stays. -/
def LedgerRely (execution : String) (world world' : ModelWorld δ) : Prop :=
  world'.lastCheckpoint execution = world.lastCheckpoint execution

variable {execution : String} {world world' : ModelWorld δ}

theorem LedgerStill.refl (world : ModelWorld δ) : LedgerStill world world :=
  ⟨rfl, fun _ => Or.inl, fun _ => Or.inl⟩

theorem LedgerStill.last (h : LedgerStill world world') (execution : String) :
    world'.lastCheckpoint execution = world.lastCheckpoint execution := by
  unfold ModelWorld.lastCheckpoint
  rw [h.checkpoints]

theorem LedgerStill.move (h : LedgerStill world world') (execution : String) :
    LedgerMove execution world world' := by
  refine ⟨?_, h.documents, h.calls, fun other _ => h.last other⟩
  intro entry hentry
  rw [h.checkpoints] at hentry
  exact Or.inl hentry

theorem LedgerMove.refl (execution : String) (world : ModelWorld δ) :
    LedgerMove execution world world := (LedgerStill.refl world).move execution

theorem LedgerMove.invariant (h : LedgerMove execution world world')
    (hinv : LedgerInvariant world) : LedgerInvariant world' := by
  refine ⟨?_, ?_, ?_⟩
  · intro entry hentry
    exact (h.checkpoints entry hentry).elim (hinv.checkpoints entry) id
  · intro row hrow
    exact (h.documents row hrow).elim (hinv.documents row) id
  · intro call hcall
    exact (h.calls call hcall).elim (hinv.calls call) id

theorem Aside.still (h : Aside execution world world') : LedgerStill world world' := by
  refine ⟨h.checkpoints, ?_, ?_⟩
  · rw [h.batches]
    exact fun _ => Or.inl
  · intro call hcall
    rcases h.calls with hsame | ⟨kind, checkpoint, hkind, hcalls⟩
    · rw [hsame] at hcall
      exact Or.inl hcall
    · rw [hcalls] at hcall
      rcases List.mem_cons.mp hcall with rfl | hold
      · right
        intro hsends
        rw [hkind] at hsends
        exact absurd hsends Bool.false_ne_true
      · exact Or.inl hold

theorem moves_still {β : Type} {p : ModelProgram δ β} (h : p.Moves (Aside execution)) :
    p.Moves LedgerStill := h.mono fun _ _ => Aside.still

theorem moves_of_still {β : Type} {p : ModelProgram δ β} (h : p.Moves LedgerStill) :
    p.Moves (LedgerMove execution) := h.mono fun _ _ hstep => hstep.move execution

theorem moves_of_aside {β : Type} {p : ModelProgram δ β} (h : p.Moves (Aside execution)) :
    p.Moves (LedgerMove execution) := moves_of_still (moves_still h)

variable {usage : ProviderUsageAccumulator}

theorem move_checkpointed (h : Balanced usage.summary) (world : ModelWorld δ) :
    LedgerMove execution world (world.checkpointed execution usage) := by
  refine ⟨?_, fun _ => Or.inl, fun _ => Or.inl, ?_⟩
  · intro entry hentry
    rcases List.mem_cons.mp hentry with rfl | hold
    · exact Or.inr h
    · exact Or.inl hold
  · intro other hother
    unfold ModelWorld.lastCheckpoint ModelWorld.checkpointed
    rw [List.lookup_cons, beq_false_of_ne hother]

theorem lastCheckpoint_checkpointed (execution : String) (usage : ProviderUsageAccumulator)
    (world : ModelWorld δ) :
    (world.checkpointed execution usage).lastCheckpoint execution
      = some ⟨usage.summary, usage.featureProgress⟩ := by
  unfold ModelWorld.lastCheckpoint ModelWorld.checkpointed
  rw [List.lookup_cons, beq_self_eq_true]

theorem moves_checkpoint (h : Balanced usage.summary) :
    (checkpointCall execution usage : ModelProgram δ Unit).Moves (LedgerMove execution) := by
  refine moves_syscallTorn (LedgerMove.refl execution) ?_ ?_
  · intro progress world
    split
    · exact LedgerMove.refl execution world
    · exact move_checkpointed h world
  · intro world b world' hact
    cases hact
    exact move_checkpointed h world

/-! ## Steps with what is known of the last checkpoint -/

section

variable {β γ : Type} {c : Option UsageCheckpoint}

/-- The program keeps the ledgers, whatever the others do, and ends in `Q`. -/
abbrev Recording (execution : String) (program : ModelProgram δ β)
    (Q : Except JobHandlerError β → ModelWorld δ → Prop) (world : ModelWorld δ) : Prop :=
  program.Guarded LedgerInvariant (LedgerRely execution) (LedgerMove execution) Q world

variable {p : ModelProgram δ β}

theorem recording_moves (h : p.Moves (LedgerMove execution)) (world : ModelWorld δ) :
    Recording execution p (fun _ _ => True) world :=
  h.guarded (fun _ _ hmove => hmove.invariant) (fun _ _ hmove _ => hmove) (fun _ _ _ => id)
    (fun _ _ _ _ => id) trivial

theorem recording_still (h : p.Moves LedgerStill) (hc : world.lastCheckpoint execution = c) :
    Recording execution p (fun _ world => world.lastCheckpoint execution = c) world := by
  refine h.guarded (K := fun world => world.lastCheckpoint execution = c)
    (fun _ _ hstill => (hstill.move execution).invariant)
    (fun _ _ hstill _ => hstill.move execution) ?_ ?_ hc
  · exact fun _ _ hothers hK => hothers.trans hK
  · exact fun _ _ hstill _ hK => (hstill.last execution).trans hK

theorem recording_still_bind {f : β → ModelProgram δ γ}
    {Q : Except JobHandlerError γ → ModelWorld δ → Prop} (herror : ∀ e world, Q (.error e) world)
    (h : p.Moves LedgerStill) (hc : world.lastCheckpoint execution = c)
    (hf : ∀ b world, world.lastCheckpoint execution = c → Recording execution (f b) Q world) :
    Recording execution (p >>= f) Q world := by
  refine Guarded.bind ((recording_still h hc).mono ?_)
  intro result world hc
  cases result with
  | error e => exact herror e world
  | ok b => exact hf b world hc

theorem recording_checkpoint {usage : ProviderUsageAccumulator} (h : Balanced usage.summary)
    (world : ModelWorld δ) :
    Recording execution (checkpointCall execution usage)
      (fun result world => result = .ok () →
        world.lastCheckpoint execution = some ⟨usage.summary, usage.featureProgress⟩) world := by
  have hmove : ∀ world : ModelWorld δ, LedgerMove execution world
      (world.checkpointed execution usage) := move_checkpointed h
  refine guarded_syscallTorn (LedgerMove.refl execution) ?_ ?_ ?_
  · intro world' _ hinv progress
    refine and_assoc.mp ⟨?_, fun hresult => by cases hresult⟩
    split
    · exact ⟨hinv, LedgerMove.refl execution world'⟩
    · exact ⟨(hmove world').invariant hinv, hmove world'⟩
  · intro world' kind _ _ _ hresult
    cases hresult
  · intro world' b world'' _ hinv hact
    cases hact
    exact ⟨(hmove world').invariant hinv, hmove world',
      fun _ => lastCheckpoint_checkpointed execution usage world'⟩

theorem recording_announced {kind : ProviderCallKind} {attempts : List (ℕ × String)}
    {answer : ModelWorld δ → Except String β} {checkpoint : UsageCheckpoint}
    (hc : world.lastCheckpoint execution = some checkpoint)
    (h : AnnouncedBy kind checkpoint.usage attempts) :
    Recording execution (providerCall execution kind attempts answer id)
      (fun _ world => world.lastCheckpoint execution = some checkpoint) world := by
  have hcalled : ∀ world' : ModelWorld δ, world'.lastCheckpoint execution = some checkpoint →
      LedgerStill world' (answered execution kind attempts answer id world') := by
    intro world' hc
    have hanswered : answered execution kind attempts answer id world'
        = world'.called execution kind attempts := by
      unfold answered
      split <;> rfl
    rw [hanswered]
    refine ⟨rfl, fun _ => Or.inl, ?_⟩
    intro call hcall
    rcases List.mem_cons.mp hcall with rfl | hold
    · exact Or.inr fun _ => ⟨checkpoint, hc, h⟩
    · exact Or.inl hold
  refine Guarded.bind (guarded_syscallTorn (LedgerMove.refl execution) ?_ ?_ ?_)
  · intro world' hothers hinv progress
    have hc' := hothers.trans hc
    split
    · exact ⟨hinv, LedgerMove.refl execution world', hc'⟩
    · have hstill := hcalled world' hc'
      exact ⟨(hstill.move execution).invariant hinv, hstill.move execution,
        (hstill.last execution).trans hc'⟩
  · intro world' kind hothers _ _
    exact hothers.trans hc
  · intro world' b world'' hothers hinv hact
    cases hact
    have hc' := hothers.trans hc
    have hstill := hcalled world' hc'
    refine ⟨(hstill.move execution).invariant hinv, hstill.move execution, ?_⟩
    have hlast := (hstill.last execution).trans hc'
    cases hanswer : answer world' with
    | error code => exact hlast
    | ok b => exact hlast

end

/-! ## Model jobs -/

/-- A recorded request hands a balanced ledger back, whatever came of it. -/
abbrev Kept (result : Except JobHandlerError Recorded) (_ : ModelWorld δ) : Prop :=
  ∀ recorded, result = .ok recorded → Balanced recorded.2.summary

theorem kept_ok {recorded : Recorded} (h : Balanced recorded.2.summary) (world : ModelWorld δ) :
    Kept (.ok recorded) world := by
  rintro _ hresult
  cases hresult
  exact h

theorem recording_settleRecorded (h : Balanced usage.summary)
    (huncertain : 1 ≤ usage.summary.uncertainRequests) (result : StructuredModelResult)
    (elapsedMs : ℕ) (world : ModelWorld δ) :
    Recording execution (settleRecorded execution usage result elapsedMs) Kept world := by
  have hsettled := balanced_finishAt h huncertain usage.summary.attemptedRequests result elapsedMs
  refine Guarded.bind (Guarded.attempt ((recording_checkpoint hsettled world).mono ?_))
  exact fun stored world _ => kept_ok hsettled world

/-- What a job knows of its ledger once an attempt is begun. -/
structure Begun (fingerprint : String) (usage : ProviderUsageAccumulator) : Prop where
  balanced : Balanced usage.summary
  uncertain : 1 ≤ usage.summary.uncertainRequests
  announced : AnnouncedBy .structured usage.summary
    [(usage.summary.attemptedRequests, fingerprint)]

theorem recording_sendAnnounced {fingerprint : String} (h : Begun fingerprint usage)
    (hc : world.lastCheckpoint execution = some ⟨usage.summary, usage.featureProgress⟩) :
    Recording execution (sendAnnounced execution fingerprint usage) Kept world := by
  refine Guarded.bind (Guarded.attempt ((recording_still
    (moves_still (moves_aside (@moves_checkCancelledCall δ execution))) hc).mono ?_))
  intro checked world hc
  cases checked with
  | error error => exact kept_ok h.balanced world
  | ok _ =>
    refine Guarded.bind (Guarded.bind (Guarded.attempt ((recording_announced hc h.announced).mono ?_)))
    exact fun answer world _ => recording_settleRecorded h.balanced h.uncertain _ _ world

theorem recording_announceAndSend {fingerprint : String} (h : Begun fingerprint usage)
    (world : ModelWorld δ) :
    Recording execution (announceAndSend execution fingerprint usage) Kept world := by
  refine Guarded.bind (Guarded.attempt ((recording_checkpoint h.balanced world).mono ?_))
  intro stored world hstored
  cases stored with
  | error error => exact kept_ok h.balanced world
  | ok _ => exact recording_sendAnnounced h (hstored rfl)

theorem recording_executeRecorded (rules : RecordedRules δ) (role : ResolvedRoleExecution)
    (accounting : StructuredModelRequest) (validated : Except String Unit)
    (h : Balanced usage.summary) (world : ModelWorld δ) :
    Recording execution (executeRecorded rules execution role accounting validated usage) Kept
      world := by
  refine Guarded.bind (Guarded.attempt ((recording_still
    (moves_still (moves_aside (@moves_checkCancelledCall δ execution))) rfl).mono ?_))
  intro checked world _
  cases checked with
  | error error => exact kept_ok h world
  | ok _ =>
    cases hbegin : begin rules.toUsageRules usage role accounting with
    | error error =>
      simp only [GuardedThen]
      exact kept_ok h world
    | ok begun =>
      have hbegun : Begun (rules.requestFingerprint accounting) begun :=
        ⟨(begin_ok hbegin h).2.1, (begin_ok hbegin h).2.2.1.1, announcedBy_begun hbegin h⟩
      simp only [GuardedThen]
      cases validated with
      | error code =>
        exact recording_settleRecorded hbegun.balanced hbegun.uncertain _ _ world
      | ok _ => exact recording_announceAndSend hbegun world

theorem recording_runModelJob (rules : RecordedRules δ) (job : ModelJob)
    (h : Balanced usage.summary) (world : ModelWorld δ) :
    Recording execution (runModelJob rules execution job usage) (fun _ _ => True) world := by
  induction job generalizing usage world with
  | finish => trivial
  | structured role request next ih =>
    refine Guarded.bind ((recording_executeRecorded rules role request _ h world).mono ?_)
    intro result world hkept
    cases result with
    | error error => trivial
    | ok recorded => exact ih _ (hkept recorded rfl) world
  | typed role request next ih =>
    refine Guarded.bind ((recording_executeRecorded rules role _ _ h world).mono ?_)
    intro result world hkept
    cases result with
    | error error => trivial
    | ok recorded => exact ih _ (hkept recorded rfl) world
  | report progress next ih =>
    have hset : Balanced (usage.setFeatureProgress progress).summary := h
    refine Guarded.bind (Guarded.attempt ((recording_checkpoint hset world).mono ?_))
    exact fun stored world _ => ih stored hset world

theorem recording_startModelRun (jobId : String) (queueWaitSeconds : Option ℕ)
    (role : ResolvedRoleExecution) (purpose : ModelRunPurpose) (world : ModelWorld δ) :
    Recording execution (startModelRun execution jobId queueWaitSeconds role purpose)
      (fun result _ => ∀ usage, result = .ok usage → ∃ manifest : ModelRunManifest,
        manifest.maxTokenReservation = none ∧ usage = forRun manifest) world := by
  refine CrashProgram.Program.guarded_ofExcept_bind (fun _ _ hresult => by cases hresult)
    fun manifest hmanifest => ?_
  have hnone := (maxTokenReservation_new hmanifest).1
  refine Guarded.bind ((recording_checkpoint (balanced_forRun manifest hnone) world).mono ?_)
  intro result world _
  cases result with
  | error error =>
    intro usage hresult
    cases hresult
  | ok _ =>
    intro usage hresult
    cases hresult
    exact ⟨manifest, hnone, rfl⟩

theorem balanced_limitRun {manifest : ModelRunManifest} (h : manifest.maxTokenReservation = none)
    (maximum : ℕ) : Balanced ((forRun manifest).limitTokenReservation maximum).summary :=
  balanced_limit (balanced_forRun manifest h) rfl maximum

theorem recording_modelJobRun (rules : RecordedRules δ) (jobId : String)
    (queueWaitSeconds : Option ℕ) (role : ResolvedRoleExecution) (purpose : ModelRunPurpose)
    (limit : Option ℕ) (job : ModelJob) (world : ModelWorld δ) :
    Recording execution
      (modelJobRun rules execution jobId queueWaitSeconds role purpose limit job)
      (fun _ _ => True) world := by
  refine Guarded.bind ((recording_startModelRun jobId queueWaitSeconds role purpose world).mono ?_)
  intro result world hstarted
  cases result with
  | error error => trivial
  | ok usage =>
    obtain ⟨manifest, hnone, rfl⟩ := hstarted usage rfl
    cases limit with
    | none => exact recording_runModelJob rules job (balanced_forRun manifest hnone) world
    | some maximum =>
      have hlimited := balanced_limitRun hnone maximum
      refine Guarded.bind (Guarded.bind ((recording_checkpoint hlimited world).mono ?_))
      intro result world _
      cases result with
      | error error => trivial
      | ok _ => exact recording_runModelJob rules job hlimited world

/-! ## Submissions -/

theorem allUncertain_forRun (manifest : ModelRunManifest) (maximum : ℕ) :
    AllUncertain ((forRun manifest).limitTokenReservation maximum).summary :=
  ⟨rfl, fun _ hrecord => absurd hrecord List.not_mem_nil⟩

theorem recording_reserveSubmission (rules : TaggingRules δ) (batch : PlannedBatch δ)
    (world : ModelWorld δ) :
    Recording execution (reserveSubmission rules execution batch)
      (fun result _ => ∀ usage, result = .ok usage →
        Reserved rules.toUsageRules batch.requests usage.summary) world := by
  refine Guarded.bind ((recording_startModelRun _ _ _ _ world).mono ?_)
  intro result world hstarted
  cases result with
  | error error =>
    intro usage hresult
    cases hresult
  | ok usage =>
    obtain ⟨manifest, hnone, rfl⟩ := hstarted usage rfl
    intro usage hreserve
    have hlimited := balanced_limitRun hnone batch.parameters.limits.maxTokenReservation
    obtain ⟨hbalanced, huncertain, hattempted⟩ :=
      reserveBatch_ok hreserve hlimited (allUncertain_forRun manifest _)
    refine ⟨hbalanced, huncertain, hattempted.trans (Nat.zero_add _), ?_⟩
    have hempty : ((forRun manifest).limitTokenReservation
        batch.parameters.limits.maxTokenReservation).summary.attempts.map
          ProviderAttemptRecord.key <:+ [] := List.suffix_refl []
    exact reserveBatch_recorded hreserve hlimited hempty

variable {record : ModelBatchRecord δ}

theorem moves_createModelBatch (rules : TaggingRules δ) (h : FrozenDocument record.document) :
    (createModelBatch rules execution record).Moves LedgerStill := by
  refine moves_writeCall LedgerStill.refl ?_
  intro world created world' hwrite
  split at hwrite
  · cases hwrite
  · split at hwrite
    · cases hwrite
      exact LedgerStill.refl world
    · split at hwrite
      · cases hwrite
      · cases hwrite
        refine ⟨rfl, ?_, fun _ => Or.inl⟩
        intro row hrow
        rcases List.mem_append.mp hrow with hold | hnew
        · exact Or.inl hold
        · rw [List.mem_singleton] at hnew
          subst hnew
          exact Or.inr h

theorem moves_persist (rules : TaggingRules δ) {next : BatchState}
    (h : FrozenDocument record.document) : (persist rules record next).Moves LedgerStill := by
  refine Moves.bind (moves_writeCall LedgerStill.refl ?_) fun changed => ?_
  · intro world changed world' hwrite
    split at hwrite
    · cases hwrite
    · cases hwrite
      refine ⟨rfl, ?_, fun _ => Or.inl⟩
      intro row hrow
      obtain ⟨old, hold, rfl⟩ := List.mem_map.mp hrow
      split
      · exact Or.inr h
      · exact Or.inl hold
  · split
    · exact moves_pure _
    · exact moves_fail _

theorem recording_persist_bind (rules : TaggingRules δ) {γ : Type} {next : BatchState}
    {f : ModelBatchRecord δ → ModelProgram δ γ} (h : FrozenDocument record.document)
    {c : Option UsageCheckpoint} (hc : world.lastCheckpoint execution = c)
    (hf : ∀ (record' : ModelBatchRecord δ) world, record' = { record with state := next } →
      world.lastCheckpoint execution = c →
        Recording execution (f record') (fun _ _ => True) world) :
    Recording execution (persist rules record next >>= f) (fun _ _ => True) world := by
  have hreturns : (persist rules record next).Returns
      (fun record' => record' = { record with state := next }) := by
    refine Returns.bind fun changed => ?_
    split
    · rfl
    · trivial
  refine Guarded.bind (((recording_still (moves_persist rules h) hc).returns hreturns).mono ?_)
  rintro result world ⟨hc, hrecord⟩
  cases result with
  | error error => trivial
  | ok record' => exact hf record' world (hrecord record' rfl) hc

variable {checkpoint : UsageCheckpoint}

theorem recording_upload {target : ProviderExecutionTarget} {batchId : String}
    {attempts : List (ℕ × String)} (hc : world.lastCheckpoint execution = some checkpoint)
    (h : AnnouncedBy (.upload batchId) checkpoint.usage attempts) :
    Recording execution (Transport.upload execution target batchId attempts)
      (fun _ world => world.lastCheckpoint execution = some checkpoint) world := by
  refine CrashProgram.Program.guarded_ofExcept_bind (fun _ => hc) fun _ _ => ?_
  refine Guarded.bind ((recording_announced hc h).mono ?_)
  intro result world hc
  cases result with
  | error error => exact hc
  | ok id => exact hc

theorem recording_submit {target : ProviderExecutionTarget} {file batchId : String}
    {attempts : List (ℕ × String)} (hc : world.lastCheckpoint execution = some checkpoint)
    (h : AnnouncedBy (.submit batchId) checkpoint.usage attempts) :
    Recording execution (Transport.submit execution target file batchId attempts)
      (fun _ world => world.lastCheckpoint execution = some checkpoint) world := by
  refine CrashProgram.Program.guarded_ofExcept_bind (fun _ => hc) fun _ _ => ?_
  refine CrashProgram.Program.guarded_ofExcept_bind (fun _ => hc) fun _ _ => ?_
  refine Guarded.bind ((recording_announced hc h).mono ?_)
  intro result world hc
  cases result with
  | error error => exact hc
  | ok id => exact hc

theorem recording_sendBatch (rules : TaggingRules δ) {batch : PlannedBatch δ}
    (hdocument : FrozenDocument record.document)
    (hc : world.lastCheckpoint execution = some checkpoint)
    (h : Reserved rules.toUsageRules batch.requests checkpoint.usage) :
    Recording execution (sendBatch rules execution batch record) (fun _ _ => True) world := by
  have hupload := @Reserved.announcedBy _ _ _ h (.upload record.id) (fun hkind => by cases hkind)
  have hsubmit := @Reserved.announcedBy _ _ _ h (.submit record.id) (fun hkind => by cases hkind)
  refine Guarded.bind ((recording_upload hc hupload).mono ?_)
  intro result world hc
  cases result with
  | error error => trivial
  | ok file =>
    refine recording_persist_bind rules hdocument hc ?_
    rintro _ world rfl hc
    refine recording_still_bind (fun _ _ => trivial)
      (moves_still (moves_aside (@moves_checkCancelledCall δ execution))) hc fun _ world hc => ?_
    refine recording_persist_bind rules hdocument hc ?_
    rintro _ world rfl hc
    refine Guarded.bind ((recording_submit hc hsubmit).mono ?_)
    intro result world hc
    cases result with
    | error error => trivial
    | ok remote =>
      refine recording_persist_bind rules hdocument hc ?_
      rintro _ world rfl _
      trivial

theorem recording_submitTaggingBatch (rules : TaggingRules δ) (batch : PlannedBatch δ)
    (world : ModelWorld δ) :
    Recording execution (submitTaggingBatch rules execution batch) (fun _ _ => True) world := by
  refine CrashProgram.Program.guarded_ofExcept_bind (fun _ => trivial) fun _ _ => ?_
  refine Guarded.bind ((recording_reserveSubmission rules batch world).mono ?_)
  intro result world hreserved
  cases result with
  | error error => trivial
  | ok usage =>
    have hreserved := hreserved usage rfl
    have hdocument : FrozenDocument (submissionRecord batch usage).document := by
      intro frozen hfrozen
      cases hfrozen
      exact ⟨hreserved.balanced, hreserved.uncertain,
        hreserved.attempted.trans batch.same_length.symm⟩
    refine recording_still_bind (fun _ _ => trivial)
      (moves_still (moves_aside (@moves_checkCancelledCall δ execution))) rfl fun _ world _ => ?_
    refine recording_still_bind (fun _ _ => trivial) (moves_createModelBatch rules hdocument) rfl
      fun created world _ => ?_
    refine CrashProgram.Program.guarded_ofExcept_bind (fun _ => trivial) fun _ _ => ?_
    refine Guarded.bind ((recording_checkpoint hreserved.balanced world).mono ?_)
    intro result world hstored
    cases result with
    | error error => trivial
    | ok _ => exact recording_sendBatch rules hdocument (hstored rfl) hreserved

/-! ## Collections -/

theorem observeBatchResult_kept (h : Balanced usage.summary) {left : ℕ}
    (hleft : left + 1 ≤ usage.summary.uncertainRequests) (sequence : ℕ)
    (result : StructuredModelResult) :
    Balanced (usage.observeBatchResult sequence result).summary ∧
      left ≤ (usage.observeBatchResult sequence result).summary.uncertainRequests := by
  have huncertain := uncertain_finishAt usage sequence result 0
  refine ⟨balanced_finishAt h (le_trans (Nat.le_add_left 1 left) hleft) sequence result 0, ?_⟩
  unfold observeBatchResult
  omega

theorem moves_storeResponse_ledger (rules : TaggingRules δ) (voice : Option String)
    (frozen : BatchSubmission δ) {tally : CollectionTally δ} (h : Balanced tally.usage.summary)
    (range : ℕ × ℕ) (outputs : TrackId → Option (ModelTagTrackOutput δ)) :
    (storeResponse rules execution voice frozen tally range outputs).Moves
      (LedgerMove execution) := by
  refine Moves.bind (moves_ofExcept _) fun _ => Moves.bind (moves_ofExcept _) fun _ => ?_
  refine Moves.bind (Moves.bind (moves_of_aside (moves_vocabularyCall rules)) fun _ =>
    moves_ofExcept _) fun _ => ?_
  refine Moves.bind (moves_of_aside (moves_storeModelAnalysis rules _ _ _)) fun _ => ?_
  exact Moves.bind (moves_checkpoint h) fun _ => moves_pure _

theorem returns_collectResponse (rules : TaggingRules δ) (voice : Option String)
    (vocabulary : TagVocabularyDocument) (current : Bool) (frozen : BatchSubmission δ)
    (tally : CollectionTally δ) (response : ℕ × StructuredModelResult) :
    (collectResponse rules execution voice vocabulary current frozen tally response).Returns
      (fun tally' => tally'.usage.summary
        = (tally.usage.observeBatchResult (response.1 + 1) response.2).summary) := by
  refine Returns.bind fun _ => Returns.bind fun _ => Returns.bind fun entry =>
    Returns.bind fun _ => ?_
  obtain ⟨inputs, range⟩ := entry
  dsimp only
  split
  · split
    · refine Returns.bind fun _ => Returns.bind fun _ => Returns.bind fun _ => Returns.bind fun _ =>
        Returns.bind fun _ => ?_
      rfl
    · rfl
  · rfl

theorem moves_collectResponse_ledger (rules : TaggingRules δ) (voice : Option String)
    (vocabulary : TagVocabularyDocument) (current : Bool) (frozen : BatchSubmission δ)
    (tally : CollectionTally δ) (response : ℕ × StructuredModelResult)
    (h : Balanced (tally.usage.observeBatchResult (response.1 + 1) response.2).summary) :
    (collectResponse rules execution voice vocabulary current frozen tally response).Moves
      (LedgerMove execution) := by
  refine Moves.bind (moves_of_aside (moves_aside moves_checkCancelledCall)) fun _ => ?_
  refine Moves.bind (moves_checkpoint h) fun _ => Moves.bind (moves_ofExcept _) fun entry =>
    Moves.bind (moves_ofExcept _) fun _ => ?_
  obtain ⟨inputs, range⟩ := entry
  dsimp only
  split
  · split
    · exact moves_storeResponse_ledger rules voice frozen h range _
    · exact moves_pure _
  · exact moves_pure _

theorem moves_collectResponses_ledger (rules : TaggingRules δ) (voice : Option String)
    (vocabulary : TagVocabularyDocument) (current : Bool) (frozen : BatchSubmission δ)
    (tally : CollectionTally δ) (responses : List (ℕ × StructuredModelResult))
    (h : Balanced tally.usage.summary)
    (hleft : responses.length ≤ tally.usage.summary.uncertainRequests) :
    (collectResponses rules execution voice vocabulary current frozen tally responses).Moves
      (LedgerMove execution) := by
  induction responses generalizing tally with
  | nil => exact moves_pure tally
  | cons response rest ih =>
    rw [List.length_cons] at hleft
    obtain ⟨hbalanced, hleft'⟩ := observeBatchResult_kept h hleft (response.1 + 1) response.2
    refine Moves.bind_returns
      (moves_collectResponse_ledger rules voice vocabulary current frozen tally response hbalanced)
      (returns_collectResponse rules voice vocabulary current frozen tally response) ?_
    intro tally' hsummary
    rw [← hsummary] at hbalanced hleft'
    exact ih tally' hbalanced hleft'

theorem length_inOrder_le (count : ℕ) (responses : List (ℕ × StructuredModelResult)) :
    (inOrder count responses).length ≤ count := by
  unfold inOrder
  exact le_trans (List.length_filterMap_le _ _) (le_of_eq List.length_range)

theorem frozenDocument_closed (result : BatchOutcome δ) :
    FrozenDocument (.closed result) := by
  intro frozen hfrozen
  cases hfrozen

theorem frozenDocument_results (result : BatchResult δ) (terminal : BatchState)
    (output error : Option String) :
    FrozenDocument (.results result terminal output error) := by
  intro frozen hfrozen
  cases hfrozen

theorem moves_saveResults (rules : TaggingRules δ) (voice : Option String)
    (target : ProviderExecutionTarget) (status : ProviderBatchStatus)
    (h : FrozenDocument record.document) :
    (saveResults rules execution voice target record status).Moves (LedgerMove execution) := by
  unfold saveResults
  split
  · next frozen hdocument =>
    obtain ⟨hbalanced, huncertain, hattempted⟩ := h frozen hdocument
    refine Moves.bind (moves_of_aside (moves_aside (moves_fetchResponses execution target _ _ _)))
      fun responses => ?_
    refine Moves.bind (moves_of_aside (moves_vocabularyCall rules)) fun vocabulary => ?_
    refine Moves.bind (moves_of_aside (moves_aside (moves_currentInferenceFingerprint rules)))
      fun inference => ?_
    have hleft : (inOrder frozen.ranges.length responses).length
        ≤ frozen.submissionUsage.uncertainRequests := by
      rw [huncertain.1, hattempted]
      exact length_inOrder_le _ _
    refine Moves.bind (moves_collectResponses_ledger rules voice _ _ frozen _ _ hbalanced hleft)
      fun tally => ?_
    exact moves_of_still (moves_persist rules (frozenDocument_results _ _ _ _))
  · exact moves_fail _

theorem moves_closeCollected (rules : TaggingRules δ) (target : ProviderExecutionTarget)
    (h : FrozenDocument record.document) :
    (closeCollected rules execution target record).Moves (LedgerMove execution) := by
  unfold closeCollected
  split
  · refine Moves.bind (moves_of_aside (moves_aside (moves_deleteFiles execution target _))) fun _ => ?_
    exact Moves.bind (moves_of_still (moves_persist rules h)) fun _ => moves_pure _
  · exact Moves.bind (moves_of_aside (moves_aside (moves_deleteFiles execution target _))) fun _ => moves_fail _

theorem returns_saveResults (rules : TaggingRules δ) (voice : Option String)
    (target : ProviderExecutionTarget) (record : ModelBatchRecord δ)
    (status : ProviderBatchStatus) :
    (saveResults rules execution voice target record status).Returns
      (fun record' => FrozenDocument record'.document) := by
  unfold saveResults
  split
  · refine Returns.bind fun _ => Returns.bind fun _ => Returns.bind fun _ => Returns.bind fun _ =>
      Returns.bind fun changed => ?_
    split
    · exact frozenDocument_results _ _ _ _
    · trivial
  · trivial

theorem moves_collectIdentified (rules : TaggingRules δ) (voice : Option String)
    (target : ProviderExecutionTarget) (cancel : Bool) (remote : String)
    (h : FrozenDocument record.document) :
    (collectIdentified rules execution voice target cancel record remote).Moves
      (LedgerMove execution) := by
  unfold collectIdentified
  split
  · exact moves_closeCollected rules target h
  · refine Moves.bind (moves_of_aside (moves_aside moves_checkCancelledCall)) fun _ => ?_
    refine Moves.bind (moves_of_aside (moves_aside (Transport.moves_status execution target remote)))
      fun status => ?_
    refine Moves.bind (moves_ofExcept _) fun _ => ?_
    split
    · refine Moves.bind (moves_of_aside (moves_aside (moves_cancelRemote execution target _ _ _))) fun _ => ?_
      exact Moves.bind (moves_of_still (moves_persist rules h)) fun _ => moves_pure _
    · refine Moves.bind_returns (moves_saveResults rules voice target status h)
        (returns_saveResults rules voice target record status) ?_
      exact fun record' hdocument => moves_closeCollected rules target hdocument

theorem moves_collectUnidentified (rules : TaggingRules δ) (voice : Option String)
    (target : ProviderExecutionTarget) (action : BatchAction) (h : FrozenDocument record.document) :
    (collectUnidentified rules execution voice target action record).Moves
      (LedgerMove execution) := by
  have hclosed : ∀ result : BatchOutcome δ, FrozenDocument
      ({ record with document := .closed result } : ModelBatchRecord δ).document :=
    frozenDocument_closed
  unfold collectUnidentified
  split
  · exact Moves.bind (moves_of_still (moves_persist rules (hclosed _))) fun _ => moves_pure _
  · split
    · split
      · exact moves_fail _
      · next remote _ =>
        refine Moves.bind (moves_of_aside (moves_aside (Transport.moves_status execution target remote)))
          fun status => ?_
        refine Moves.bind (moves_ofExcept _) fun _ => ?_
        refine Moves.bind_returns (moves_of_still (moves_persist rules h)) (P := fun record' =>
          FrozenDocument record'.document) ?_ ?_
        · refine Returns.bind fun changed => ?_
          split
          · exact h
          · trivial
        · exact fun record' hdocument =>
            moves_collectIdentified rules voice target action.cancel remote hdocument
    · split
      · refine Moves.bind (moves_of_aside (moves_aside (moves_deleteFiles execution target _))) fun _ => ?_
        exact Moves.bind (moves_of_still (moves_persist rules (hclosed _))) fun _ => moves_pure _
      · exact moves_fail _

theorem recording_collectTaggingBatch (rules : TaggingRules δ) (voice : Option String)
    (action : BatchAction) (world : ModelWorld δ) :
    Recording execution (collectTaggingBatch rules execution voice action) (fun _ _ => True)
      world := by
  refine CrashProgram.Program.guarded_ofExcept_bind (fun _ => trivial) fun _ _ => ?_
  refine Guarded.bind (guarded_syscallTorn (LedgerMove.refl execution) ?_ ?_ ?_)
  · exact fun world' _ hinv _ => ⟨hinv, LedgerMove.refl execution world', trivial⟩
  · exact fun _ _ _ _ _ => trivial
  · intro world' found world'' _ hinv hact
    cases hact
    refine ⟨hinv, LedgerMove.refl execution world', ?_⟩
    refine recording_moves ?_ world'
    dsimp only
    cases hfound : modelBatch world'.batches action.batchId with
    | none => exact moves_fail _
    | some record =>
      obtain ⟨row, hrow, rfl⟩ := Option.map_eq_some_iff.mp hfound
      have hdocument : FrozenDocument (ModelBatchRecord.decode row).document :=
        hinv.documents row (List.mem_of_find?_eq_some hrow)
      dsimp only
      split
      · exact moves_pure _
      · refine Moves.bind (moves_of_aside (moves_aside (moves_prepareBatchManagement rules _))) fun target => ?_
        split
        · exact moves_collectUnidentified rules voice target action hdocument
        · exact moves_collectIdentified rules voice target action.cancel _ hdocument

/-! ## Side by side -/

/-- Model jobs, submissions and collections among any other changes. -/
def ledgerSystem (rules : RecordedRules δ) :
    System (Pool (ModelWorld δ) JobHandlerError (BatchOutcome δ) String)
      (PoolAction (ModelWorld δ) JobHandlerError (BatchOutcome δ) String) :=
  poolSystem (fun world => world.batches = [] ∧ world.calls = [] ∧ world.checkpoints = [])
    (fun _ execution program =>
      (∃ jobId queueWaitSeconds role purpose limit job, program = do
        modelJobRun rules execution jobId queueWaitSeconds role purpose limit job
        return .null) ∨
      (∃ batch, program = submitTaggingBatch rules.toTaggingRules execution batch) ∨
        ∃ voice action, program = collectTaggingBatch rules.toTaggingRules execution voice action)
    (fun world world' => world'.batches = world.batches ∧ world'.calls = world.calls ∧
      world'.checkpoints = world.checkpoints)

/-- In every run of model jobs, submissions and collections, with crashes, lost replies and
cancellations anywhere: each stored checkpoint is balanced and within its limits, and each call
that sends requests finds them as uncertain in the last checkpoint of its execution. -/
theorem provider_usage_ledger (rules : RecordedRules δ)
    {pool : Pool (ModelWorld δ) JobHandlerError (BatchOutcome δ) String}
    (h : (ledgerSystem rules).Reachable pool) :
    (∀ entry ∈ pool.shared.checkpoints, Balanced entry.2.usage) ∧
      ∀ call ∈ pool.shared.calls, Announced call := by
  have hpool : PoolInvariant LedgerInvariant LedgerRely LedgerMove pool := by
    refine pool_invariant (R := LedgerRely) (fun _ _ => rfl) (fun _ _ _ _ hst htu => htu.trans hst)
      LedgerMove.refl (fun t u _ _ hne _ hmove => hmove.others u hne.symm) ?_ ?_ ?_ h
    · rintro world world' ⟨hbatches, hcalls, hcheckpoints⟩ hinv
      have hstill : LedgerStill world world' := by
        refine ⟨hcheckpoints, ?_, ?_⟩
        · rw [hbatches]
          exact fun _ => Or.inl
        · rw [hcalls]
          exact fun _ => Or.inl
      exact ⟨(hstill.move "").invariant hinv, hstill.last⟩
    · rintro world execution program _ (⟨_, _, _, _, limit, job, rfl⟩ | ⟨batch, rfl⟩ |
        ⟨voice, action, rfl⟩)
      · refine Guarded.bind ((recording_modelJobRun rules _ _ _ _ limit job world).mono ?_)
        exact fun result world _ => guardedThen_of (fun _ _ => trivial) fun _ _ => trivial
      · exact recording_submitTaggingBatch rules.toTaggingRules batch world
      · exact recording_collectTaggingBatch rules.toTaggingRules voice action world
    · rintro world ⟨hbatches, hcalls, hcheckpoints⟩
      refine ⟨?_, ?_, ?_⟩
      · rw [hcheckpoints]
        exact fun _ hentry => absurd hentry List.not_mem_nil
      · rw [hbatches]
        exact fun _ hrow => absurd hrow List.not_mem_nil
      · rw [hcalls]
        exact fun _ hcall => absurd hcall List.not_mem_nil
  exact ⟨hpool.shared.checkpoints, hpool.shared.calls⟩

end

/-- Rules under which every request is valid. -/
def freeRecordedRules : RecordedRules Unit where
  toTaggingRules := freeRules
  validateRequest _ _ := .ok ()
  validateTypedRequest _ _ := .ok ()

def oneRequestRun : ModelProgram Unit (BatchOutcome Unit) := do
  modelJobRun freeRecordedRules "run-1" "job-1" none oneRequest.role
    ⟨"", none, "", "", 1, .playlistPreview⟩ none
    (.structured oneRequest.role ⟨"", "", 100, none, none⟩ fun _ => .finish)
  return .null

/-- The job dies with its request, which its last checkpoint counts as uncertain. -/
theorem provider_usage_ledger_crashed :
    (oneRequestRun.run (List.replicate 4 .proceed ++ [.crash 1]) emptyModelWorld).2.calls ≠ [] ∧
      ∀ call ∈ (oneRequestRun.run (List.replicate 4 .proceed ++ [.crash 1])
        emptyModelWorld).2.calls, call.attempts = [(1, "")] ∧ Announced call := by
  have hinit : (ledgerSystem freeRecordedRules).Reachable ⟨emptyModelWorld, []⟩ :=
    .init ⟨⟨rfl, rfl, rfl⟩, rfl⟩
  have hstart : (ledgerSystem freeRecordedRules).Reachable
      ⟨emptyModelWorld, [("run-1", oneRequestRun)]⟩ := by
    refine hinit.step (a := .start "run-1" oneRequestRun) ⟨List.not_mem_nil, Or.inl ?_, rfl⟩
    exact ⟨"job-1", none, oneRequest.role, _, none, _, rfl⟩
  have hattempts : (oneRequestRun.run (List.replicate 4 .proceed ++ [.crash 1])
      emptyModelWorld).2.calls.map ProviderCall.attempts = [[(1, "")]] := by
    decide +kernel
  have hledger := provider_usage_ledger freeRecordedRules (reachable_run hstart
    (List.replicate 4 .proceed ++ [.crash 1]))
  refine ⟨?_, ?_⟩
  · intro hnone
    rw [hnone] at hattempts
    cases hattempts
  · intro call hcall
    refine ⟨List.mem_singleton.mp ?_, hledger.2 call hcall⟩
    rw [← hattempts]
    exact List.mem_map_of_mem hcall

end MusicServer
