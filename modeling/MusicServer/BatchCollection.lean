/-
# Every result of a batch counts once

The results of the files of a batch are taken by the number of their request, and the ledger and
the counts of the saved document are those of each of them taken once.  Together with the plan
that every collection follows, this makes a collection safe to restart.
-/
import MusicServer.BatchRestart

namespace MusicServer

open CrashProgram Program EvidenceTables ProviderUsageAccumulator

/-! ## The results by their requests -/

/-- The responses under the identifiers they came with. -/
def namedResponses (responses : List (ℕ × StructuredModelResult)) :
    List (String × StructuredModelResult) :=
  responses.map fun response => (s!"request-{response.1}", response.2)

/-- The results of a file under their identifiers. -/
def namedResults (items : List ProviderBatchResult) : List (String × StructuredModelResult) :=
  items.map fun item => (item.customId, item.result)

theorem requestIndex_eq_some {count index : ℕ} {customId : String}
    (h : requestIndex count customId = some index) :
    index < count ∧ customId = s!"request-{index}" := by
  unfold requestIndex at h
  refine ⟨?_, ?_⟩
  · exact List.mem_range.mp (List.mem_of_find?_eq_some h)
  · exact of_decide_eq_true
      (List.find?_some (p := fun index : ℕ => decide (customId = s!"request-{index}")) h)

/-- Responses to some of the requests, no two to the same one. -/
structure Distinct (count : ℕ) (responses : List (ℕ × StructuredModelResult)) : Prop where
  nodup : (responses.map Prod.fst).Nodup
  below : ∀ response ∈ responses, response.1 < count

theorem insertResults_ok {count : ℕ} {responses final : List (ℕ × StructuredModelResult)}
    {items : List ProviderBatchResult} (hdistinct : Distinct count responses)
    (h : insertResults count responses items = .ok final) :
    Distinct count final ∧
      (namedResponses final).Perm (namedResponses responses ++ namedResults items) := by
  induction items generalizing responses with
  | nil =>
    cases h
    refine ⟨hdistinct, ?_⟩
    rw [namedResults, List.map_nil, List.append_nil]
  | cons item rest ih =>
    rw [insertResults] at h
    split at h
    · cases h
    · next index hindex =>
      split at h
      · cases h
      · next hfresh =>
        obtain ⟨hbelow, hname⟩ := requestIndex_eq_some hindex
        have hnext : Distinct count ((index, item.result) :: responses) := by
          refine ⟨?_, ?_⟩
          · rw [List.map_cons, List.nodup_cons]
            exact ⟨hfresh, hdistinct.nodup⟩
          · intro response hresponse
            rcases List.mem_cons.mp hresponse with rfl | hresponse
            · exact hbelow
            · exact hdistinct.below response hresponse
        obtain ⟨hfinal, hperm⟩ := ih hnext h
        refine ⟨hfinal, hperm.trans ?_⟩
        have hcons : namedResults (item :: rest)
            = (s!"request-{index}", item.result) :: namedResults rest := by
          rw [← hname]
          rfl
        rw [hcons]
        exact List.perm_middle.symm

theorem mem_iff_lookup {responses : List (ℕ × StructuredModelResult)}
    (h : (responses.map Prod.fst).Nodup) (index : ℕ) (result : StructuredModelResult) :
    responses.lookup index = some result ↔ (index, result) ∈ responses := by
  induction responses with
  | nil => simp
  | cons response rest ih =>
    rw [List.map_cons, List.nodup_cons] at h
    rw [List.lookup_cons, List.mem_cons]
    by_cases hhead : index = response.1
    · subst hhead
      simp only [beq_self_eq_true]
      have hrest : (response.1, result) ∉ rest :=
        fun hmem => h.1 (List.mem_map.mpr ⟨_, hmem, rfl⟩)
      constructor
      · intro hresult
        cases hresult
        exact Or.inl rfl
      · rintro (hresult | hmem)
        · rw [← hresult]
        · exact absurd hmem hrest
    · rw [beq_eq_false_iff_ne.mpr hhead]
      dsimp only
      rw [ih h.2]
      constructor
      · exact Or.inr
      · rintro (rfl | hmem)
        · exact absurd rfl hhead
        · exact hmem

theorem fst_inOrder_aux (responses : List (ℕ × StructuredModelResult)) (indices : List ℕ) :
    ((indices.filterMap fun index => (responses.lookup index).map fun result =>
      (index, result)).map Prod.fst).Sublist indices := by
  induction indices with
  | nil => exact List.Sublist.refl _
  | cons index rest ih =>
    rw [List.filterMap_cons]
    cases responses.lookup index with
    | none => exact ih.cons index
    | some result => exact ih.cons_cons index

theorem fst_inOrder (count : ℕ) (responses : List (ℕ × StructuredModelResult)) :
    ((inOrder count responses).map Prod.fst).Pairwise (· < ·) :=
  List.pairwise_lt_range.sublist (fst_inOrder_aux responses (List.range count))

theorem inOrder_perm {count : ℕ} {responses : List (ℕ × StructuredModelResult)}
    (h : Distinct count responses) : (inOrder count responses).Perm responses := by
  refine (List.perm_ext_iff_of_nodup ?_ (List.Nodup.of_map Prod.fst h.nodup)).mpr ?_
  · exact List.Nodup.of_map Prod.fst ((fst_inOrder count responses).imp fun hlt => hlt.ne)
  · rintro ⟨index, result⟩
    unfold inOrder
    rw [List.mem_filterMap]
    constructor
    · rintro ⟨other, _, hother⟩
      obtain ⟨found, hfound, heq⟩ := Option.map_eq_some_iff.mp hother
      cases heq
      exact (mem_iff_lookup h.nodup _ _).mp hfound
    · intro hmem
      refine ⟨index, List.mem_range.mpr (h.below _ hmem), ?_⟩
      rw [(mem_iff_lookup h.nodup _ _).mpr hmem]
      rfl

theorem responsesOf_ok {provider : Provider} {deleted : List String}
    {target : ProviderExecutionTarget} {count : ℕ}
    {responses final : List (ℕ × StructuredModelResult)} {files : List String}
    (hdistinct : Distinct count responses)
    (h : responsesOf provider deleted target count responses files = .ok final) :
    Distinct count final ∧ ∃ contents : List (List ProviderBatchResult),
      List.Forall₂ (fun file items => resultsOf provider deleted target file = .ok items) files
        contents ∧
      (namedResponses final).Perm (namedResponses responses ++ namedResults contents.flatten) := by
  induction files generalizing responses with
  | nil =>
    cases h
    refine ⟨hdistinct, [], List.Forall₂.nil, ?_⟩
    rw [List.flatten_nil, namedResults, List.map_nil, List.append_nil]
  | cons file rest ih =>
    obtain ⟨items, hitems, h⟩ := bind_eq_ok.mp h
    obtain ⟨next, hnext, h⟩ := bind_eq_ok.mp h
    obtain ⟨hnextDistinct, hnextPerm⟩ := insertResults_ok hdistinct hnext
    obtain ⟨hfinal, contents, hcontents, hperm⟩ := ih hnextDistinct h
    refine ⟨hfinal, items :: contents, List.Forall₂.cons hitems hcontents, hperm.trans ?_⟩
    have hsplit : namedResults (items :: contents).flatten
        = namedResults items ++ namedResults contents.flatten := List.map_append
    rw [hsplit, ← List.append_assoc]
    exact hnextPerm.append_right _

/-! ## What is counted -/

section

variable {δ : Type}

/-- The ledger with the responses observed, one after the other. -/
def observeAll (usage : ProviderUsageAccumulator) (responses : List (ℕ × StructuredModelResult)) :
    ProviderUsageAccumulator :=
  responses.foldl (fun usage response => usage.observeBatchResult (response.1 + 1) response.2) usage

theorem summary_observeAll {usage usage' : ProviderUsageAccumulator}
    (h : usage.summary = usage'.summary) (responses : List (ℕ × StructuredModelResult)) :
    (observeAll usage responses).summary = (observeAll usage' responses).summary := by
  induction responses generalizing usage usage' with
  | nil => exact h
  | cons response rest ih =>
    refine ih ?_
    dsimp only [observeBatchResult, finishAt]
    rw [h]

/-- How many tracks a request of the submission is about. -/
def tracksOf (frozen : BatchSubmission δ) (index : ℕ) : ℕ :=
  (frozen.ranges[index]?.map fun range => range.2 - range.1).getD 0

/-- The tally with the responses counted once each. -/
structure Counted (frozen : BatchSubmission δ) (start : CollectionTally δ)
    (responses : List (ℕ × StructuredModelResult)) (tally : CollectionTally δ) : Prop where
  usage : tally.usage.summary = (observeAll start.usage responses).summary
  tracks : tally.processed + tally.rejected
    = start.processed + start.rejected + (responses.map fun response =>
        tracksOf frozen response.1).sum
  results : tally.trackResults.length + start.processed
    = start.trackResults.length + tally.processed

theorem andThen_ok {α β : Type} {plan : CollectionPlan δ α} {next : α → CollectionPlan δ β} {b : β}
    (h : (andThen plan next).2 = .ok b) : ∃ a, plan.2 = .ok a ∧ (next a).2 = .ok b := by
  unfold andThen at h
  split at h
  · cases h
  · next a ha => exact ⟨a, ha, h⟩

theorem length_slice {α : Type} {list part : List α} {range : ℕ × ℕ}
    (h : slice list range = some part) : part.length = range.2 - range.1 := by
  unfold slice at h
  split at h
  · next hrange =>
    cases h
    rw [List.length_drop, List.length_take]
    omega
  · cases h

theorem length_profilesOf {outputs : TrackId → Option (ModelTagTrackOutput δ)}
    {templates profiles : List (AnalysisWrite δ)} (h : profilesOf outputs templates = .ok profiles) :
    profiles.length = templates.length := by
  induction templates generalizing profiles with
  | nil =>
    cases h
    rfl
  | cons template rest ih =>
    rw [profilesOf] at h
    split at h
    · cases h
    · obtain ⟨others, hothers, h⟩ := bind_eq_ok.mp h
      cases h
      rw [List.length_cons, List.length_cons, ih hothers]

theorem frozenRequest_ok {frozen : BatchSubmission δ} {index : ℕ} {inputs : List Json}
    {range : ℕ × ℕ} (h : frozenRequest frozen index = .ok (inputs, range)) :
    tracksOf frozen index = range.2 - range.1 := by
  unfold frozenRequest at h
  split at h
  · next found _ hrange _ =>
    cases h
    unfold tracksOf
    rw [hrange]
    rfl
  · cases h

variable {rules : TaggingRules δ} {voice : Option String} {tables : EvidenceTables δ}
  {vocabulary : TagVocabularyDocument} {current : Bool} {frozen : BatchSubmission δ}

theorem planResponse_counted {tally final : CollectionTally δ} {response : ℕ × StructuredModelResult}
    (h : (planResponse rules voice tables vocabulary current frozen tally response).2 = .ok final) :
    Counted frozen tally [response] final := by
  obtain ⟨⟨inputs, range⟩, hrequest, h⟩ := andThen_ok h
  obtain ⟨_, _, h⟩ := andThen_ok h
  have htracks := frozenRequest_ok hrequest
  have hrejected : Counted frozen tally [response] { tally with
      usage := tally.usage.observeBatchResult (response.1 + 1) response.2
      rejected := tally.rejected + (range.2 - range.1) } := by
    refine ⟨rfl, ?_, rfl⟩
    rw [List.map_singleton, List.sum_singleton, htracks]
    exact (Nat.add_assoc _ _ _).symm
  split at h
  · next outputs _ =>
    split at h
    · obtain ⟨templates, htemplates, h⟩ := andThen_ok h
      obtain ⟨profiles, hprofiles, h⟩ := andThen_ok h
      obtain ⟨_, _, h⟩ := andThen_ok h
      obtain ⟨stored, _, h⟩ := andThen_ok h
      cases h
      have hlength : profiles.length = range.2 - range.1 := by
        rw [length_profilesOf hprofiles]
        cases hslice : slice frozen.templates range with
        | none =>
          rw [hslice] at htemplates
          cases htemplates
        | some part =>
          rw [hslice] at htemplates
          cases htemplates
          exact length_slice hslice
      refine ⟨rfl, ?_, ?_⟩
      · rw [List.map_singleton, List.sum_singleton, htracks]
        show tally.processed + profiles.length + tally.rejected = _
        omega
      · show (tally.trackResults ++ profiles.map _).length + tally.processed
          = tally.trackResults.length + (tally.processed + profiles.length)
        rw [List.length_append, List.length_map]
        omega
    · cases h
      exact hrejected
  · cases h
    exact hrejected

theorem Counted.cons {start middle final : CollectionTally δ} {response : ℕ × StructuredModelResult}
    {rest : List (ℕ × StructuredModelResult)} (hfirst : Counted frozen start [response] middle)
    (hrest : Counted frozen middle rest final) : Counted frozen start (response :: rest) final := by
  refine ⟨?_, ?_, ?_⟩
  · rw [hrest.usage]
    exact summary_observeAll hfirst.usage rest
  · have htracks := hfirst.tracks
    rw [List.map_singleton, List.sum_singleton] at htracks
    rw [hrest.tracks, htracks, List.map_cons, List.sum_cons]
    omega
  · have hresults := hfirst.results
    have hresults' := hrest.results
    omega

theorem planResponses_counted {tally final : CollectionTally δ}
    {responses : List (ℕ × StructuredModelResult)}
    (h : (planResponses rules voice tables vocabulary current frozen tally responses).2
      = .ok final) : Counted frozen tally responses final := by
  induction responses generalizing tally with
  | nil =>
    cases h
    refine ⟨rfl, ?_, Nat.add_comm _ _ |>.trans ?_⟩
    · rw [List.map_nil, List.sum_nil, Nat.add_zero]
    · omega
  | cons response rest ih =>
    obtain ⟨middle, hmiddle, h⟩ := andThen_ok h
    exact (planResponse_counted hmiddle).cons (ih h)

end

/-! ## A collection may be restarted -/

section

variable {δ : Type} (rules : TaggingRules δ)

/-- One job that collects, and what happens to its calls. -/
structure CollectionRun where
  execution : String
  action : BatchAction
  draws : List CrashProgram.Draw

/-- The world after the jobs, one after the other. -/
def collections (voice : Option String) (world : ModelWorld δ) (history : List CollectionRun) :
    ModelWorld δ :=
  history.foldl (fun world run =>
    ((collectTaggingBatch rules run.execution voice run.action).run run.draws world).2) world

/-- The world after a job whose calls all go through. -/
def collected (execution : String) (voice : Option String) (action : BatchAction)
    (world : ModelWorld δ) : ModelWorld δ :=
  ((collectTaggingBatch rules execution voice action).finish world).2

def savedDocument (world : ModelWorld δ) (id : String) : Option (BatchDocument δ) :=
  (modelBatch world.batches id).map ModelBatchRecord.document

/-- The result counts each result in the files of the batch once, over the ledger of its
submission. -/
def CountsEachOnce (base : ModelWorld δ) (record : ModelBatchRecord δ) (remote : String)
    (result : BatchResult δ) : Prop :=
  ∃ frozen target status contents responses,
    record.document = .submission frozen ∧
    managementTarget rules base.tables record.connectionId = .ok target ∧
    statusOf base.provider target remote = .ok status ∧
    List.Forall₂ (fun file items => resultsOf base.provider base.deleted target file = .ok items)
      (status.outputFileId.toList ++ status.errorFileId.toList) contents ∧
    (responses.map Prod.fst).Pairwise (· < ·) ∧
    (namedResponses responses).Perm (namedResults contents.flatten) ∧
    result.usage = (observeAll (resume frozen.submissionUsage) responses).summary ∧
    result.processedTracks + result.rejectedTracks
      = (responses.map fun response => tracksOf frozen response.1).sum ∧
    result.trackResults.length = result.processedTracks

variable {rules} {voice : Option String} {base : ModelWorld δ} {record : ModelBatchRecord δ}
  {remote : String}

theorem planFetch_ok {fetched : Fetched δ} (h : planFetch rules base record remote = .ok fetched) :
    ∃ target, record.document = .submission fetched.frozen ∧
      managementTarget rules base.tables record.connectionId = .ok target ∧
      statusOf base.provider target remote = .ok fetched.status ∧
      responsesOf base.provider base.deleted target fetched.frozen.ranges.length []
        (fetched.status.outputFileId.toList ++ fetched.status.errorFileId.toList)
          = .ok fetched.responses := by
  obtain ⟨_, _, h⟩ := bind_eq_ok.mp h
  obtain ⟨target, htarget, h⟩ := bind_eq_ok.mp h
  obtain ⟨status, hstatus, h⟩ := bind_eq_ok.mp h
  obtain ⟨_, _, h⟩ := bind_eq_ok.mp h
  split at h
  · next frozen hdocument _ =>
    obtain ⟨responses, hresponses, h⟩ := bind_eq_ok.mp h
    cases h
    exact ⟨target, hdocument, htarget, hstatus, hresponses⟩
  · cases h

theorem planCollection_counts {frozen : BatchSubmission δ}
    (hsubmission : record.document = .submission frozen) {result : BatchResult δ}
    {terminal : BatchState} {output error : Option String}
    (h : (planCollection rules voice base record remote).2 = .results result terminal output error) :
    CountsEachOnce rules base record remote result := by
  cases hfetch : planFetch rules base record remote with
  | error e =>
    rw [planCollection_error hfetch, hsubmission] at h
    cases h
  | ok fetched =>
    rw [planCollection_fetched hfetch] at h
    dsimp only at h
    split at h
    · rw [hsubmission] at h
      cases h
    · next tally htally =>
      split at h
      · rw [hsubmission] at h
        cases h
      · cases h
        obtain ⟨target, hdocument, htarget, hstatus, hresponses⟩ := planFetch_ok hfetch
        have hcounted := planResponses_counted htally
        have hnone : Distinct fetched.frozen.ranges.length [] :=
          ⟨List.nodup_nil, fun _ h => absurd h List.not_mem_nil⟩
        obtain ⟨hdistinct, contents, hcontents, hperm⟩ := responsesOf_ok hnone hresponses
        refine ⟨fetched.frozen, target, fetched.status, contents,
          inOrder fetched.frozen.ranges.length fetched.responses, hdocument, htarget, hstatus,
          hcontents, fst_inOrder _ _, ?_, hcounted.usage, ?_, ?_⟩
        · exact ((inOrder_perm hdistinct).map _).trans hperm
        · refine hcounted.tracks.trans ?_
          show 0 + 0 + _ = _
          omega
        · have hresults := hcounted.results
          show tally.trackResults.length = tally.processed
          exact hresults.trans (Nat.zero_add _)

theorem between_base (hrecord : modelBatch base.batches record.id = some record)
    (hremote : record.remoteBatchId = some remote) :
    Between rules voice base record remote base := by
  by_cases hopen : record.pending = true ∧ record.state ≠ .resultsSaved
  · refine Or.inl ⟨record.state, ⟨hopen, ?_, hopen.2⟩, ?_⟩
    · have hpending := hopen.1
      unfold ModelBatchRecord.pending at hpending
      exact Bool.not_eq_true' _ ▸ hpending
    · exact ⟨rfl, rfl, rfl, rfl, Or.inl ⟨rfl, rfl⟩, Agree.refl _ _, hrecord⟩
  · have hfetch : planFetch rules base record remote
        = .error (.new "batch_record_invalid") := by
      unfold planFetch ensure
      rw [if_neg hopen]
      rfl
    have hplan := @planCollection_error _ _ voice _ _ _ _ hfetch
    refine Or.inr ⟨?_, record, hrecord, ?_, ?_, ?_⟩
    · intro track analyzerId
      rw [hplan]
      rfl
    · rw [hplan]
    · rw [hremote]
      exact Option.some_ne_none remote
    · by_cases hsaved : record.state = .resultsSaved
      · exact Or.inl hsaved
      · refine Or.inr (Or.inl ?_)
        by_contra hpending
        exact hopen ⟨Bool.eq_true_of_not_eq_false hpending, hsaved⟩

theorem state_of_stops {α : Type} {C : ModelWorld δ → Prop}
    {Q : Except JobHandlerError α → ModelWorld δ → Prop} (hQ : ∀ result world, Q result world → C world)
    {stopped : Outcome JobHandlerError α × ModelWorld δ} (h : Stops C Q stopped) : C stopped.2 := by
  obtain ⟨outcome, world⟩ := stopped
  cases outcome with
  | finished result => exact hQ result world h
  | crashed => exact h

theorem permitted_true (draws : List CrashProgram.Draw) : Permitted true draws := by
  intro h
  cases h

theorem between_collections (hsteady : base.provider.Steady)
    (hids : (base.batches.map ModelBatchRow.id).Nodup) (hremote : record.remoteBatchId = some remote)
    {history : List CollectionRun} (hhistory : ∀ run ∈ history, run.action.batchId = record.id)
    {world : ModelWorld δ} (h : Between rules voice base record remote world) :
    Between rules voice base record remote (collections rules voice world history) := by
  induction history generalizing world with
  | nil => exact h
  | cons run rest ih =>
    refine ih (fun other hother => hhistory other (List.mem_cons_of_mem _ hother)) ?_
    exact state_of_stops (fun _ _ hend => hend.1) (run_of_wp (wp_collectTaggingBatch hsteady hids
      hremote (hhistory run List.mem_cons_self) h) (permitted_true run.draws))

theorem saved_collections (rules : TaggingRules δ) (voice : Option String)
    {P : List (AnalysisRow δ) → Prop} {id : String} {document : BatchDocument δ}
    {history : List CollectionRun} (hhistory : ∀ run ∈ history, run.action.batchId = id)
    {world : ModelWorld δ} (h : Saved P id document world) :
    P (collections rules voice world history).tables.analyses ∧
      savedDocument (collections rules voice world history) id = some document := by
  induction history generalizing world with
  | nil =>
    obtain ⟨record, hrecord, hdocument, _⟩ := h.row
    refine ⟨h.analyses, ?_⟩
    unfold savedDocument collections
    rw [List.foldl_nil, hrecord, Option.map_some, hdocument]
  | cons run rest ih =>
    refine ih (fun other hother => hhistory other (List.mem_cons_of_mem _ hother)) ?_
    have hstops := run_of_wp (@leaves_collectTaggingBatch _ rules _ _ _ _ _ run.execution voice _
      (hhistory run List.mem_cons_self) h) (permitted_true run.draws)
    exact state_of_stops (C := Saved P id document) (fun _ _ hend => hend) hstops

theorem asPlanned_collected (hsteady : base.provider.Steady)
    (hids : (base.batches.map ModelBatchRow.id).Nodup) (hremote : record.remoteBatchId = some remote)
    {action : BatchAction} (haction : action.batchId = record.id)
    (hrole : action.roleId = "music_tagger") (execution : String) {world : ModelWorld δ}
    (h : Between rules voice base record remote world) :
    AsPlanned rules voice base record remote (collected rules execution voice action world) :=
  (finish_of_wp (wp_collectTaggingBatch hsteady hids hremote haction h)).2 rfl hrole

/-- However many collections of a batch died, failed or were cancelled, at whatever calls: the
next one that comes through ends with the analyses and the document of one that was never
disturbed; the document counts each result once; and once the results are saved no collection
stores an analysis or changes the document. -/
theorem batch_collection_restart_safe (rules : TaggingRules δ) (voice : Option String)
    {base : ModelWorld δ} {record : ModelBatchRecord δ} {id remote : String}
    (hsteady : base.provider.Steady) (hids : (base.batches.map ModelBatchRow.id).Nodup)
    (hrecord : modelBatch base.batches id = some record)
    (hremote : record.remoteBatchId = some remote) (history : List CollectionRun)
    (hhistory : ∀ run ∈ history, run.action.batchId = id) (again fresh : BatchAction)
    (hagain : again.batchId = id ∧ again.roleId = "music_tagger")
    (hfresh : fresh.batchId = id ∧ fresh.roleId = "music_tagger")
    (execution execution' : String) :
    let interrupted := collections rules voice base history
    let restarted := collected rules execution voice again interrupted
    let undisturbed := collected rules execution' voice fresh base
    (∀ track analyzerId, restarted.tables.analysisOf track analyzerId
      = undisturbed.tables.analysisOf track analyzerId) ∧
    savedDocument restarted id = savedDocument undisturbed id ∧
    (∀ frozen result terminal output error, record.document = .submission frozen →
      savedDocument restarted id = some (.results result terminal output error) →
        CountsEachOnce rules base record remote result) ∧
    ∀ world record', modelBatch world.batches id = some record' → record'.remoteBatchId ≠ none →
      (record'.state = .resultsSaved ∨ record'.pending = false) → ∀ later : List CollectionRun,
        (∀ run ∈ later, run.action.batchId = id) →
          (collections rules voice world later).tables.analyses = world.tables.analyses ∧
            savedDocument (collections rules voice world later) id = some record'.document := by
  intro interrupted restarted undisturbed
  obtain rfl := id_of_modelBatch hrecord
  have hbetween : Between rules voice base record remote interrupted :=
    between_collections hsteady hids hremote hhistory (between_base hrecord hremote)
  have hrestarted : AsPlanned rules voice base record remote restarted :=
    asPlanned_collected hsteady hids hremote hagain.1 hagain.2 execution hbetween
  have hundisturbed : AsPlanned rules voice base record remote undisturbed :=
    asPlanned_collected hsteady hids hremote hfresh.1 hfresh.2 execution'
      (between_base hrecord hremote)
  refine ⟨?_, hrestarted.2.trans hundisturbed.2.symm, ?_, ?_⟩
  · intro track analyzerId
    exact (hrestarted.1 track analyzerId).trans (hundisturbed.1 track analyzerId).symm
  · intro frozen result terminal output error hsubmission hsaved
    have hplan := Option.some.inj (hrestarted.2.symm.trans hsaved)
    exact planCollection_counts hsubmission hplan
  · intro world record' hrow hnumber hfinal later hlater
    have hsaved : Saved (· = world.tables.analyses) record.id record'.document world :=
      ⟨rfl, record', hrow, rfl, hnumber, hfinal.imp_right Or.inl⟩
    exact saved_collections rules voice hlater hsaved

end

/-- A provider with one result for the batch. -/
def answeringProvider : Provider :=
  { willingProvider with
    status := fun _ _ =>
      .ok ⟨"batch-1", "/v1/responses", "completed", "job-1", "file-1", some "file-2", none⟩
    results := fun _ _ => .ok [⟨10, "request-0", willingProvider.structured 0⟩] }

def batchConnection : ProviderConnectionRecord where
  id := "connection-1"
  adapterId := openaiResponsesAdapter
  baseUrl := openaiApiBaseUrl
  encryptedApiKey := ""
  apiKeyNonce := ""
  allowPrivateNetwork := false
  verifiedCapabilityIds := []
  id_plain := by unfold Plain; decide
  adapterId_plain := by unfold Plain; decide
  baseUrl_plain := by unfold Plain; decide

/-- A world with a batch that was submitted and is answered. -/
def answeredWorld : ModelWorld Unit :=
  ((submitTaggingBatch freeRules "run-1" oneRequest).finish { emptyModelWorld with
    provider := answeringProvider
    tables := { emptyModelWorld.tables with connections := [batchConnection] } }).2

def collectJob : BatchAction := ⟨"job-1", "music_tagger", false, none, false⟩

/-- A first job dies with its result observed, a second one once the results are saved. -/
def twoCrashes : List CollectionRun :=
  [⟨"run-2", collectJob, List.replicate 9 .proceed ++ [.crash 1]⟩,
    ⟨"run-3", collectJob, List.replicate 9 .proceed ++ [.crash 1]⟩]

theorem steady_answeredWorld : answeredWorld.provider.Steady := ⟨fun _ _ => rfl, fun _ _ => rfl⟩

/-- The job after the two ends as one that was never disturbed. -/
theorem batch_collection_restart_safe_twoCrashes :
    (modelBatch (collections freeRules none answeredWorld twoCrashes).batches "job-1").map
        ModelBatchRecord.state = some .resultsSaved ∧
      savedDocument (collected freeRules "run-4" none collectJob
          (collections freeRules none answeredWorld twoCrashes)) "job-1"
        = savedDocument (collected freeRules "run-4" none collectJob answeredWorld) "job-1" := by
  refine ⟨by decide +kernel, ?_⟩
  cases hrecord : modelBatch answeredWorld.batches "job-1" with
  | none => exact absurd hrecord (by decide +kernel)
  | some record =>
    have hremote : (modelBatch answeredWorld.batches "job-1").bind ModelBatchRecord.remoteBatchId
        = some "batch-1" := by decide +kernel
    rw [hrecord] at hremote
    have hhistory : ∀ run ∈ twoCrashes, run.action.batchId = "job-1" := by decide
    exact (batch_collection_restart_safe freeRules none steady_answeredWorld (by decide +kernel)
      hrecord hremote twoCrashes hhistory collectJob collectJob ⟨rfl, rfl⟩ ⟨rfl, rfl⟩ "run-4"
      "run-4").2.1

end MusicServer
