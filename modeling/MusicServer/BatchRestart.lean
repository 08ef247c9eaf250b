/-
# A collection may be restarted

However often a collection of a batch died, or failed, or lost a reply, the next one that comes
through ends as the first one would have: until the results are saved only rows were stored that
the next one stores again, and once they are saved no collection stores anything.
-/
import MusicServer.BatchMoves
import MusicServer.BatchPlan

namespace MusicServer

open CrashProgram Program EvidenceTables ProviderUsageAccumulator

section

variable {δ : Type} (rules : TaggingRules δ)

/-! ## Rows of the table of batches -/

variable {batches : List (ModelBatchRow δ)}

theorem id_of_find {id : String} {row : ModelBatchRow δ}
    (h : (batches.find? fun row => row.id = id) = some row) : row.id = id :=
  of_decide_eq_true (List.find?_some (p := fun row : ModelBatchRow δ => decide (row.id = id)) h)

theorem id_of_modelBatch {id : String} {record : ModelBatchRecord δ}
    (h : modelBatch batches id = some record) : record.id = id := by
  obtain ⟨row, hrow, rfl⟩ := Option.map_eq_some_iff.mp h
  exact id_of_find hrow

theorem countP_matchesUpdate (hids : (batches.map ModelBatchRow.id).Nodup)
    {current record : ModelBatchRecord δ} (hcurrent : modelBatch batches record.id = some current)
    (hconnection : current.connectionId = record.connectionId) (next : BatchState) :
    batches.countP (matchesUpdate current.state { record with state := next }) = 1 := by
  obtain ⟨row, hrow, rfl⟩ := Option.map_eq_some_iff.mp hcurrent
  have hmem := List.mem_of_find?_eq_some hrow
  have hid : row.id = record.id := id_of_find hrow
  have hmatches : matchesUpdate (ModelBatchRecord.decode row).state { record with state := next }
      row = true := by
    rw [matchesUpdate_iff]
    exact ⟨hid, hconnection, (BatchState.asStr_parse row.state).symm⟩
  obtain ⟨before, after, hsplit⟩ := List.append_of_mem hmem
  rw [hsplit, List.map_append, List.map_cons, List.nodup_middle, List.nodup_cons,
    List.mem_append, not_or] at hids
  have hother : ∀ others : List (ModelBatchRow δ), row.id ∉ others.map ModelBatchRow.id →
      others.countP (matchesUpdate (ModelBatchRecord.decode row).state
        { record with state := next }) = 0 := by
    intro others hnot
    rw [List.countP_eq_zero]
    intro other hother hmatches
    refine hnot (List.mem_map.mpr ⟨other, hother, ?_⟩)
    exact (matchesUpdate_iff.mp hmatches).1.trans hid.symm
  rw [hsplit, List.countP_append, List.countP_cons, hother _ hids.1.1, hother _ hids.1.2,
    if_pos hmatches]

theorem find_updatedRows (record : ModelBatchRecord δ) (next : BatchState) (id : String)
    (batches : List (ModelBatchRow δ)) :
    (updatedRows record next batches).find? (fun row => row.id = id)
      = (batches.find? fun row => row.id = id).map fun row =>
        if matchesUpdate record.state { record with state := next } row = true then
          ({ record with state := next } : ModelBatchRecord δ).encode
        else row := by
  unfold updatedRows
  rw [List.find?_map]
  congr 2
  funext other
  rw [Function.comp_apply]
  split
  · next hother =>
    rw [(matchesUpdate_iff.mp hother).1]
    rfl
  · rfl

theorem modelBatch_updatedRows {current record : ModelBatchRecord δ}
    (hcurrent : modelBatch batches record.id = some current)
    (hconnection : current.connectionId = record.connectionId)
    (hstate : current.state = record.state) (next : BatchState) :
    modelBatch (updatedRows record next batches) record.id
      = some { record with state := BatchState.parse next.asStr } := by
  obtain ⟨row, hrow, rfl⟩ := Option.map_eq_some_iff.mp hcurrent
  have hid : row.id = record.id := id_of_find hrow
  have hmatches : matchesUpdate record.state { record with state := next } row = true := by
    rw [matchesUpdate_iff, ← hstate]
    exact ⟨hid, hconnection, (BatchState.asStr_parse row.state).symm⟩
  unfold modelBatch
  rw [find_updatedRows, hrow, Option.map_some, Option.map_some, if_pos hmatches]
  rfl

theorem wp_writeCall {β : Type} {faulty : Bool} {C : ModelWorld δ → Prop} {code : String}
    {write : ModelWorld δ → Except IoErrorKind (β × ModelWorld δ)}
    {Q : Except JobHandlerError β → ModelWorld δ → Prop} {world : ModelWorld δ}
    (hcrash : C world) (hwritten : ∀ b world', write world = .ok (b, world') → C world')
    (hfault : faulty = true → ∀ e, Q (.error e) world)
    (hlost : faulty = true → ∀ b world', write world = .ok (b, world') → ∀ e, Q (.error e) world')
    (herror : ∀ kind, write world = .error kind → Q (.error (.new code)) world)
    (hok : ∀ b world', write world = .ok (b, world') → Q (.ok b) world') :
    (writeCall code write).wp faulty C Q world := by
  refine wp_syscallTorn ?_ ?_ herror hok
  · intro progress
    split
    · exact hcrash
    · split
      · next b world' hwrite => exact hwritten b world' hwrite
      · exact hcrash
  · intro hfaulty progress
    split
    · exact hfault hfaulty _
    · split
      · next b world' hwrite => exact hlost hfaulty b world' hwrite _
      · exact hfault hfaulty _

/-- A row is moved on: the write may be too large, may be lost, and may be lost after it was
made. -/
theorem wp_persist {faulty : Bool} {C : ModelWorld δ → Prop}
    {Q : Except JobHandlerError (ModelBatchRecord δ) → ModelWorld δ → Prop}
    {record current : ModelBatchRecord δ} {next : BatchState} {world : ModelWorld δ}
    (hids : (world.batches.map ModelBatchRow.id).Nodup)
    (hcurrent : modelBatch world.batches record.id = some current)
    (hconnection : current.connectionId = record.connectionId)
    (hstate : current.state = record.state) (hcrash : C world)
    (hwritten : rules.documentBytes record.document ≤ maxBatchDocumentBytes →
      C (updatedWorld record next world))
    (hfault : faulty = true → ∀ e, Q (.error e) world)
    (hlost : faulty = true → rules.documentBytes record.document ≤ maxBatchDocumentBytes →
      ∀ e, Q (.error e) (updatedWorld record next world))
    (hlarge : maxBatchDocumentBytes < rules.documentBytes record.document →
      ∀ e, Q (.error e) world)
    (hok : rules.documentBytes record.document ≤ maxBatchDocumentBytes →
      Q (.ok { record with state := next }) (updatedWorld record next world)) :
    (persist rules record next).wp faulty C Q world := by
  have hcount := countP_matchesUpdate hids hcurrent hconnection next
  rw [hstate] at hcount
  have hact : ∀ {result : Except IoErrorKind (Bool × ModelWorld δ)},
      (if maxBatchDocumentBytes < rules.documentBytes record.document then
        Except.error IoErrorKind.invalidInput
      else .ok (decide (world.batches.countP
        (matchesUpdate record.state { record with state := next }) = 1),
        updatedWorld record next world)) = result →
      (maxBatchDocumentBytes < rules.documentBytes record.document ∧
        result = .error .invalidInput) ∨
      (rules.documentBytes record.document ≤ maxBatchDocumentBytes ∧
        result = .ok (true, updatedWorld record next world)) := by
    rintro result rfl
    split
    · next hsize => exact Or.inl ⟨hsize, rfl⟩
    · next hsize =>
      refine Or.inr ⟨not_lt.mp hsize, ?_⟩
      rw [hcount]
      rfl
  refine wp_bind (wp_writeCall hcrash ?_ hfault ?_ ?_ ?_)
  · intro changed world' h
    rcases hact h with ⟨_, hresult⟩ | ⟨hfits, hresult⟩
    · cases hresult
    · cases hresult
      exact hwritten hfits
  · intro hfaulty changed world' h e
    rcases hact h with ⟨_, hresult⟩ | ⟨hfits, hresult⟩
    · cases hresult
    · cases hresult
      exact hlost hfaulty hfits e
  · intro kind h
    rcases hact h with ⟨hsize, _⟩ | ⟨_, hresult⟩
    · exact hlarge hsize _
    · cases hresult
  · intro changed world' h
    rcases hact h with ⟨_, hresult⟩ | ⟨hfits, hresult⟩
    · cases hresult
    · cases hresult
      exact hok hfits

/-! ## Before the results are saved -/

/-- A world between `base` and saved results: only analyses under some keys, the vocabulary and
the state of the row may have changed. -/
structure Collecting (base : ModelWorld δ) (record : ModelBatchRecord δ)
    (keys : List (TrackId × String)) (state : BatchState) (settled : Bool) (world : ModelWorld δ) :
    Prop where
  provider : world.provider = base.provider
  deleted : world.deleted = base.deleted
  ids : world.batches.map ModelBatchRow.id = base.batches.map ModelBatchRow.id
  tables : world.tables =
    { base.tables with analyses := world.tables.analyses, vocabulary := world.tables.vocabulary }
  vocabulary : (settled = false ∧ world.tables.vocabulary = base.tables.vocabulary) ∨
    world.tables.vocabulary = some (vocabularyOf rules base)
  agree : Agree keys base.tables world.tables
  row : modelBatch world.batches record.id = some { record with state := state }

section

variable {rules} {base : ModelWorld δ} {record : ModelBatchRecord δ}
  {keys : List (TrackId × String)} {state : BatchState} {settled : Bool} {world : ModelWorld δ}

theorem Collecting.early (h : Collecting rules base record keys state settled world) :
    Collecting rules base record keys state false world := by
  refine ⟨h.provider, h.deleted, h.ids, h.tables, ?_, h.agree, h.row⟩
  rcases h.vocabulary with ⟨_, hsame⟩ | hsome
  · exact Or.inl ⟨rfl, hsame⟩
  · exact Or.inr hsome

theorem Collecting.called (h : Collecting rules base record keys state settled world)
    (execution : String) (kind : ProviderCallKind) (attempts : List (ℕ × String)) :
    Collecting rules base record keys state settled (world.called execution kind attempts) :=
  ⟨h.provider, h.deleted, h.ids, h.tables, h.vocabulary, h.agree, h.row⟩

theorem Collecting.checkpointed (h : Collecting rules base record keys state settled world)
    (execution : String) (usage : ProviderUsageAccumulator) :
    Collecting rules base record keys state settled (world.checkpointed execution usage) :=
  ⟨h.provider, h.deleted, h.ids, h.tables, h.vocabulary, h.agree, h.row⟩

theorem Collecting.stored (h : Collecting rules base record keys state settled world)
    {rows : List (AnalysisRow δ)} (hrows : ∀ row ∈ rows, row.key ∈ keys) :
    Collecting rules base record keys state settled
      { world with tables := storeRows rows world.tables } := by
  refine ⟨h.provider, h.deleted, h.ids, ?_, h.vocabulary, agree_storeRows h.agree hrows, h.row⟩
  have htables := h.tables
  unfold storeRows
  dsimp only
  rw [htables]

end

/-! ## Programs that follow a plan -/

/-- The program ended as the plan says, with the rows of the plan stored; where calls may fail,
any error will do. -/
def Followed {β : Type} (base : ModelWorld δ) (record : ModelBatchRecord δ)
    (keys : List (TrackId × String)) (state : BatchState) (settled faulty : Bool) (plan : CollectionPlan δ β)
    (world : ModelWorld δ) : Except JobHandlerError β → ModelWorld δ → Prop
  | .ok b, world' => Collecting rules base record keys state settled world' ∧ plan.2 = .ok b ∧
    world'.tables.analyses = (storeRows plan.1 world.tables).analyses
  | .error e, world' => Collecting rules base record keys state false world' ∧
    (faulty = true ∨ plan.2 = .error e ∧
      world'.tables.analyses = (storeRows plan.1 world.tables).analyses)

/-- Whatever happens to its calls, the program stays before the results and follows the plan. -/
def Follows {β : Type} (base : ModelWorld δ) (record : ModelBatchRecord δ)
    (keys : List (TrackId × String)) (state : BatchState) (settled faulty : Bool) (program : ModelProgram δ β)
    (plan : CollectionPlan δ β) (world : ModelWorld δ) : Prop :=
  program.wp faulty (Collecting rules base record keys state false)
    (Followed rules base record keys state settled faulty plan world) world

section

variable {rules} {base : ModelWorld δ} {record : ModelBatchRecord δ}
  {keys : List (TrackId × String)} {state : BatchState} {settled faulty : Bool}
  {world : ModelWorld δ} {β γ : Type}

theorem follows_ofExcept (h : Collecting rules base record keys state settled world)
    (result : Except JobHandlerError β) :
    Follows rules base record keys state settled faulty (ofExcept result) (planOf result) world := by
  cases result with
  | error e => exact ⟨h.early, Or.inr ⟨rfl, rfl⟩⟩
  | ok b => exact ⟨h, rfl, rfl⟩

variable {f : β → ModelProgram δ γ} {p : ModelProgram δ β}

theorem Follows.bind {plan : CollectionPlan δ β} {next : β → CollectionPlan δ γ} {settled' : Bool}
    (hp : Follows rules base record keys state settled' faulty p plan world)
    (hf : ∀ b, plan.2 = .ok b → ∀ world, Collecting rules base record keys state settled' world →
      Follows rules base record keys state settled faulty (f b) (next b) world) :
    Follows rules base record keys state settled faulty (p >>= f) (andThen plan next) world := by
  refine wp_bind (wp_mono hp ?_)
  intro result world' hresult
  cases result with
  | error e =>
    obtain ⟨hcollecting, hresult⟩ := hresult
    refine ⟨hcollecting, hresult.imp_right ?_⟩
    rintro ⟨hplan, hanalyses⟩
    unfold andThen
    rw [hplan]
    exact ⟨rfl, hanalyses⟩
  | ok b =>
    obtain ⟨hcollecting, hplan, hanalyses⟩ := hresult
    have hrows : ∀ tables : EvidenceTables δ,
        tables.analyses = (storeRows (next b).1 world'.tables).analyses →
          tables.analyses = (storeRows (plan.1 ++ (next b).1) world.tables).analyses := by
      intro tables htables
      rw [htables]
      unfold storeRows at hanalyses ⊢
      dsimp only at hanalyses ⊢
      rw [List.foldl_append, hanalyses]
    have hthen : andThen plan next = (plan.1 ++ (next b).1, (next b).2) := by
      unfold andThen
      rw [hplan]
    rw [hthen]
    refine wp_mono (hf b hplan world' hcollecting) ?_
    intro result' world'' hresult'
    cases result' with
    | error e =>
      obtain ⟨hcollecting', hresult'⟩ := hresult'
      exact ⟨hcollecting', hresult'.imp_right fun h => ⟨h.1, hrows _ h.2⟩⟩
    | ok c =>
      obtain ⟨hcollecting', hplan', hanalyses'⟩ := hresult'
      exact ⟨hcollecting', hplan', hrows _ hanalyses'⟩

theorem Follows.ok_bind {b : β} {plan : CollectionPlan δ γ} {settled' : Bool}
    (hp : Follows rules base record keys state settled' faulty p (planOf (.ok b)) world)
    (hf : ∀ world, Collecting rules base record keys state settled' world →
      Follows rules base record keys state settled faulty (f b) plan world) :
    Follows rules base record keys state settled faulty (p >>= f) plan world := by
  have hplan : andThen (planOf (.ok b) : CollectionPlan δ β) (fun _ => plan) = plan := rfl
  rw [← hplan]
  refine hp.bind ?_
  rintro b' hok world hcollecting
  cases hok
  exact hf world hcollecting

theorem Follows.bind_planOf {result : Except JobHandlerError β}
    {next : β → Except JobHandlerError γ} {settled' : Bool}
    (hp : Follows rules base record keys state settled' faulty p (planOf result) world)
    (hf : ∀ b, result = .ok b → ∀ world, Collecting rules base record keys state settled' world →
      Follows rules base record keys state settled faulty (f b) (planOf (next b)) world) :
    Follows rules base record keys state settled faulty (p >>= f) (planOf (result >>= next)) world := by
  have hplan : andThen (planOf result : CollectionPlan δ β) (fun b => planOf (next b)) =
      planOf (result >>= next) := by
    cases result <;> rfl
  rw [← hplan]
  exact hp.bind hf

theorem follows_syscall {onError : IoErrorKind → JobHandlerError} {b : β}
    {act : ModelWorld δ → Except IoErrorKind (β × ModelWorld δ)}
    (h : Collecting rules base record keys state settled world) (hact : act world = .ok (b, world)) :
    Follows rules base record keys state settled faulty (syscall onError act) (planOf (.ok b)) world := by
  refine wp_syscall h.early (fun hfaulty => ⟨h.early, Or.inl hfaulty⟩) ?_ ?_
  · intro kind herror
    rw [hact] at herror
    cases herror
  · intro b' world' hok
    rw [hact] at hok
    cases hok
    exact ⟨h, rfl, rfl⟩

theorem follows_checkCancelled (h : Collecting rules base record keys state settled world) :
    Follows rules base record keys state settled faulty checkCancelledCall (planOf (.ok ())) world :=
  follows_syscall h rfl

theorem follows_readCall {code : String} {read : ModelWorld δ → β}
    (h : Collecting rules base record keys state settled world) :
    Follows rules base record keys state settled faulty (readCall code read) (planOf (.ok (read world)))
      world :=
  follows_syscall h rfl

theorem follows_checkpoint (h : Collecting rules base record keys state settled world)
    (execution : String) (usage : ProviderUsageAccumulator) :
    Follows rules base record keys state settled faulty (checkpointCall execution usage)
      (planOf (.ok ())) world := by
  have hstored := h.checkpointed execution usage
  refine wp_syscallTorn ?_ ?_ ?_ ?_
  · intro progress
    split
    · exact h.early
    · exact hstored.early
  · intro hfaulty progress
    split
    · exact ⟨h.early, Or.inl hfaulty⟩
    · exact ⟨hstored.early, Or.inl hfaulty⟩
  · intro kind hact
    cases hact
  · intro b world' hact
    cases hact
    exact ⟨hstored, rfl, rfl⟩

theorem follows_providerCall (h : Collecting rules base record keys state settled world)
    {execution : String} {kind : ProviderCallKind} {answer : ModelWorld δ → Except String β} :
    Follows rules base record keys state settled faulty (providerCall execution kind [] answer id)
      (planOf ((answer world).mapError .new)) world := by
  have hanswered : answered execution kind [] answer id world = world.called execution kind [] := by
    unfold answered
    split <;> rfl
  have hcalled := h.called execution kind []
  refine wp_bind (wp_syscallTorn ?_ ?_ ?_ ?_)
  · intro progress
    rw [hanswered]
    split
    · exact h.early
    · exact hcalled.early
  · intro hfaulty progress
    rw [hanswered]
    split
    · exact ⟨h.early, Or.inl hfaulty⟩
    · exact ⟨hcalled.early, Or.inl hfaulty⟩
  · intro kind hact
    cases hact
  · intro result world' hact
    cases hact
    rw [hanswered]
    cases hanswer : answer world with
    | error code => exact ⟨hcalled.early, Or.inr ⟨rfl, rfl⟩⟩
    | ok b => exact ⟨hcalled, rfl, rfl⟩

/-! ### Looking and asking -/

theorem Collecting.loadConnection (h : Collecting rules base record keys state settled world)
    (id : String) : world.tables.loadConnection id = base.tables.loadConnection id := by
  rw [h.tables]
  rfl

theorem Collecting.loadRole (h : Collecting rules base record keys state settled world)
    (id : String) : world.tables.loadRole id = base.tables.loadRole id := by
  rw [h.tables]
  rfl

theorem follows_prepareBatchManagement (h : Collecting rules base record keys state settled world)
    (connectionId : String) :
    Follows rules base record keys state settled faulty (prepareBatchManagement rules connectionId)
      (planOf (managementTarget rules base.tables connectionId)) world := by
  refine (follows_readCall h).ok_bind fun world' h' => ?_
  rw [h.loadConnection]
  unfold managementTarget
  cases base.tables.loadConnection connectionId with
  | none | some connection => exact follows_ofExcept h' _

theorem follows_status (hsteady : base.provider.Steady)
    (h : Collecting rules base record keys state settled world) (execution : String)
    (target : ProviderExecutionTarget) (remote : String) :
    Follows rules base record keys state settled faulty (Transport.status execution target remote)
      (planOf (statusOf base.provider target remote)) world := by
  refine (follows_ofExcept h _).bind_planOf fun batchId _ world h => ?_
  refine (follows_ofExcept h _).bind_planOf fun _ _ world h => ?_
  have hanswer : world.provider.status world.calls.length batchId
      = base.provider.status 0 batchId := by
    rw [h.provider]
    exact hsteady.status _ _
  rw [← hanswer]
  refine (follows_providerCall h).bind_planOf fun answer _ world h => ?_
  exact follows_ofExcept h _

theorem follows_results (hsteady : base.provider.Steady)
    (h : Collecting rules base record keys state settled world) (execution : String)
    (target : ProviderExecutionTarget) (fileId : String) :
    Follows rules base record keys state settled faulty (Transport.results execution target fileId)
      (planOf (resultsOf base.provider base.deleted target fileId)) world := by
  refine (follows_ofExcept h _).bind_planOf fun fileId _ world h => ?_
  refine (follows_ofExcept h _).bind_planOf fun _ _ world h => ?_
  have hanswer : (if fileId ∈ world.deleted then .error "batch_not_found"
      else world.provider.results world.calls.length fileId)
      = if fileId ∈ base.deleted then .error "batch_not_found"
        else base.provider.results 0 fileId := by
    rw [h.provider, h.deleted, hsteady.results]
  rw [← hanswer]
  refine (follows_providerCall h).bind_planOf fun answer _ world h => ?_
  exact follows_ofExcept h _

theorem follows_fetchResponses (hsteady : base.provider.Steady)
    (h : Collecting rules base record keys state settled world) (execution : String)
    (target : ProviderExecutionTarget) (count : ℕ) (responses : List (ℕ × StructuredModelResult))
    (files : List String) :
    Follows rules base record keys state settled faulty
      (fetchResponses execution target count responses files)
      (planOf (responsesOf base.provider base.deleted target count responses files)) world := by
  induction files generalizing responses world with
  | nil => exact follows_ofExcept h _
  | cons file rest ih =>
    refine (follows_results hsteady h execution target file).bind_planOf fun items _ world h => ?_
    refine (follows_ofExcept h _).bind_planOf fun responses _ world h => ?_
    exact ih h responses

theorem follows_currentInferenceFingerprint
    (h : Collecting rules base record keys state settled world) :
    Follows rules base record keys state settled faulty (currentInferenceFingerprint rules)
      (planOf (.ok (inferenceOf rules base.tables))) world := by
  refine (follows_readCall h).ok_bind fun world' h' => ?_
  rw [h.loadRole]
  unfold inferenceOf
  cases base.tables.loadRole "music_tagger" with
  | none => exact follows_ofExcept h' _
  | some role =>
    refine (follows_readCall h').ok_bind fun world'' h'' => ?_
    rw [h'.loadConnection]
    exact follows_ofExcept h'' _

theorem Collecting.getD_vocabulary (h : Collecting rules base record keys state settled world) :
    world.tables.vocabulary.getD rules.defaultVocabulary = vocabularyOf rules base := by
  rcases h.vocabulary with ⟨_, hsame⟩ | hsome
  · rw [hsame]
    rfl
  · rw [hsome, Option.getD_some]

theorem Collecting.settle (h : Collecting rules base record keys state settled world)
    {vocabulary : Option TagVocabularyDocument}
    (hvocabulary : vocabulary = some (vocabularyOf rules base)) :
    Collecting rules base record keys state true
      { world with tables := { world.tables with vocabulary := vocabulary } } := by
  refine ⟨h.provider, h.deleted, h.ids, ?_, Or.inr hvocabulary, h.agree, h.row⟩
  have htables := h.tables
  dsimp only
  rw [htables]

theorem follows_vocabularyCall (h : Collecting rules base record keys state settled world) :
    Follows rules base record keys state true faulty (vocabularyCall rules)
      (planOf (.ok (vocabularyOf rules base))) world := by
  have hgetD := h.getD_vocabulary
  cases hfound : world.tables.vocabulary with
  | some document =>
    rw [hfound, Option.getD_some] at hgetD
    have hsettled : Collecting rules base record keys state true world := by
      have hsettle := h.settle (hfound.trans (congrArg some hgetD))
      exact hsettle
    refine (follows_readCall hsettled).ok_bind fun world' h' => ?_
    rw [hfound, ← hgetD]
    exact follows_ofExcept h' (.ok document)
  | none =>
    refine (follows_readCall h).ok_bind fun world' h' => ?_
    rw [hfound]
    have hsettled : Collecting rules base record keys state true { world' with
        tables := { world'.tables with
          vocabulary := some (world'.tables.vocabulary.getD rules.defaultVocabulary) } } :=
      h'.settle (congrArg some h'.getD_vocabulary)
    refine wp_writeCall h'.early ?_ (fun hfaulty _ => ⟨h'.early, Or.inl hfaulty⟩) ?_ ?_ ?_
    · intro document world'' hwrite
      cases hwrite
      exact hsettled.early
    · intro hfaulty document world'' hwrite e
      cases hwrite
      exact ⟨hsettled.early, Or.inl hfaulty⟩
    · intro kind hwrite
      cases hwrite
    · intro document world'' hwrite
      cases hwrite
      exact ⟨hsettled, congrArg Except.ok h'.getD_vocabulary.symm, rfl⟩

/-! ### Storing -/

theorem Collecting.rowsToStore (h : Collecting rules base record keys state settled world)
    (parameters : ModelTaggingJobParameters) (voice : Option String)
    (profiles : List (AnalysisWrite δ)) :
    MusicServer.rowsToStore rules parameters voice world.tables profiles
      = MusicServer.rowsToStore rules parameters voice base.tables profiles := by
  rw [h.tables]
  exact rowsToStore_evidence rules parameters voice base.tables _ _ profiles

theorem follows_storeModelAnalysis (h : Collecting rules base record keys state settled world)
    (parameters : ModelTaggingJobParameters) (voice : Option String)
    (profiles : List (AnalysisWrite δ))
    (hkeys : ∀ row ∈ (planStore rules voice base.tables parameters profiles).1, row.key ∈ keys) :
    Follows rules base record keys state settled faulty
      (storeModelAnalysis rules parameters voice profiles)
      (planStore rules voice base.tables parameters profiles) world := by
  have hstore := storeProfiles_eq rules parameters voice world.tables profiles
  rw [h.rowsToStore] at hstore
  unfold planStore at hkeys ⊢
  by_cases hcontract : validHexDigest parameters.inferenceFingerprint = false ∨
      validHexDigest parameters.vocabularyFingerprint = false
  · rw [if_pos hcontract]
    refine wp_writeCall h.early ?_ (fun hfaulty _ => ⟨h.early, Or.inl hfaulty⟩) ?_ ?_ ?_
    · intro count world' hwrite
      rw [if_pos hcontract] at hwrite
      cases hwrite
    · intro _ count world' hwrite
      rw [if_pos hcontract] at hwrite
      cases hwrite
    · exact fun _ _ => ⟨h.early, Or.inr ⟨rfl, rfl⟩⟩
    · intro count world' hwrite
      rw [if_pos hcontract] at hwrite
      cases hwrite
  · rw [if_neg hcontract] at hkeys ⊢
    cases hrows : MusicServer.rowsToStore rules parameters voice base.tables profiles with
    | error kind =>
      rw [hrows] at hstore
      have hwrite : ∀ {result}, (if validHexDigest parameters.inferenceFingerprint = false ∨
            validHexDigest parameters.vocabularyFingerprint = false then .error .invalidInput
          else (storeProfiles rules parameters voice world.tables profiles).map fun entry =>
            (entry.1, { world with tables := entry.2 })) = result → result = .error kind := by
        rintro result rfl
        rw [if_neg hcontract, hstore]
        rfl
      refine wp_writeCall h.early ?_ (fun hfaulty _ => ⟨h.early, Or.inl hfaulty⟩) ?_ ?_ ?_
      · intro count world' hact
        cases hwrite hact
      · intro _ count world' hact
        cases hwrite hact
      · exact fun _ _ => ⟨h.early, Or.inr ⟨rfl, rfl⟩⟩
      · intro count world' hact
        cases hwrite hact
    | ok rows =>
      rw [hrows] at hstore hkeys
      have hstored := h.stored hkeys
      have hwrite : ∀ {result}, (if validHexDigest parameters.inferenceFingerprint = false ∨
            validHexDigest parameters.vocabularyFingerprint = false then .error .invalidInput
          else (storeProfiles rules parameters voice world.tables profiles).map fun entry =>
            (entry.1, { world with tables := entry.2 })) = result →
          result = .ok (rows.length, { world with tables := storeRows rows world.tables }) := by
        rintro result rfl
        rw [if_neg hcontract, hstore]
        rfl
      refine wp_writeCall h.early ?_ (fun hfaulty _ => ⟨h.early, Or.inl hfaulty⟩) ?_ ?_ ?_
      · intro count world' hact
        cases hwrite hact
        exact hstored.early
      · intro hfaulty count world' hact e
        cases hwrite hact
        exact ⟨hstored.early, Or.inl hfaulty⟩
      · intro kind hact
        cases hwrite hact
      · intro count world' hact
        cases hwrite hact
        exact ⟨hstored, rfl, rfl⟩

theorem follows_ensureVocabularyUnchanged
    (h : Collecting rules base record keys state settled world) (fingerprint : String) :
    Follows rules base record keys state true faulty (ensureVocabularyUnchanged rules fingerprint)
      (planOf (ensure (rules.vocabularyFingerprint (vocabularyOf rules base) = fingerprint)
        (.new "tag_vocabulary_changed"))) world :=
  (follows_vocabularyCall h).ok_bind fun _ h' => follows_ofExcept h' _

theorem follows_storeResponse (h : Collecting rules base record keys state true world)
    (execution : String) (voice : Option String) (frozen : BatchSubmission δ)
    (tally : CollectionTally δ) (range : ℕ × ℕ) (outputs : TrackId → Option (ModelTagTrackOutput δ))
    (hkeys : ∀ row ∈ (planStored rules voice base.tables (vocabularyOf rules base) frozen tally
      range outputs).1, row.key ∈ keys) :
    Follows rules base record keys state true faulty
      (storeResponse rules execution voice frozen tally range outputs)
      (planStored rules voice base.tables (vocabularyOf rules base) frozen tally range outputs)
      world := by
  refine (follows_ofExcept h _).bind fun templates htemplates world h => ?_
  refine (follows_ofExcept h _).bind fun profiles hprofiles world h => ?_
  refine (follows_ensureVocabularyUnchanged h _).bind fun _ hvocabulary world h => ?_
  have hrows : ∀ row ∈ (planStore rules voice base.tables frozen.parameters profiles).1,
      row.key ∈ keys := fun row hrow => hkeys row (mem_andThen_next htemplates
    (mem_andThen_next hprofiles (mem_andThen_next hvocabulary (mem_andThen_first hrow))))
  refine (follows_storeModelAnalysis h _ voice profiles hrows).bind fun stored _ world h => ?_
  exact (follows_checkpoint h execution _).ok_bind fun world h => follows_ofExcept h _

theorem follows_collectResponse (h : Collecting rules base record keys state true world)
    (execution : String) (voice : Option String) (current : Bool) (frozen : BatchSubmission δ)
    (tally : CollectionTally δ) (response : ℕ × StructuredModelResult)
    (hkeys : ∀ row ∈ (planResponse rules voice base.tables (vocabularyOf rules base) current frozen
      tally response).1, row.key ∈ keys) :
    Follows rules base record keys state true faulty
      (collectResponse rules execution voice (vocabularyOf rules base) current frozen tally
        response)
      (planResponse rules voice base.tables (vocabularyOf rules base) current frozen tally response)
      world := by
  refine (follows_checkCancelled h).ok_bind fun world h => ?_
  refine (follows_checkpoint h execution _).ok_bind fun world h => ?_
  refine (follows_ofExcept h _).bind fun entry hentry world h => ?_
  refine (follows_ofExcept h _).bind fun _ htask world h => ?_
  obtain ⟨inputs, range⟩ := entry
  have hrest := fun row hrow => hkeys row (mem_andThen_next hentry (mem_andThen_next htask hrow))
  dsimp only at hrest ⊢
  cases hfinish : rules.finishTask inputs (vocabularyOf rules base) response.2 with
  | error error => exact follows_ofExcept h _
  | ok outputs =>
    rw [hfinish] at hrest
    dsimp only at hrest ⊢
    by_cases hcurrent : current = true
    · rw [if_pos hcurrent] at hrest ⊢
      rw [if_pos hcurrent]
      exact follows_storeResponse h execution voice frozen _ range outputs hrest
    · rw [if_neg hcurrent, if_neg hcurrent]
      exact follows_ofExcept h _

theorem follows_collectResponses (h : Collecting rules base record keys state true world)
    (execution : String) (voice : Option String) (current : Bool) (frozen : BatchSubmission δ)
    (tally : CollectionTally δ) (responses : List (ℕ × StructuredModelResult))
    (hkeys : ∀ row ∈ (planResponses rules voice base.tables (vocabularyOf rules base) current
      frozen tally responses).1, row.key ∈ keys) :
    Follows rules base record keys state true faulty
      (collectResponses rules execution voice (vocabularyOf rules base) current frozen tally
        responses)
      (planResponses rules voice base.tables (vocabularyOf rules base) current frozen tally
        responses) world := by
  induction responses generalizing tally world with
  | nil => exact follows_ofExcept h _
  | cons response rest ih =>
    refine (follows_collectResponse h execution voice current frozen tally response
      fun row hrow => hkeys row (mem_andThen_first hrow)).bind fun tally' htally world h => ?_
    exact ih h tally' fun row hrow => hkeys row (mem_andThen_next htally hrow)

end

/-! ## Once the results are saved -/

/-- The document of the batch is final: its row is closed, or about to be, or holds no
submission any more. -/
structure Saved (P : List (AnalysisRow δ) → Prop) (id : String) (document : BatchDocument δ)
    (world : ModelWorld δ) : Prop where
  analyses : P world.tables.analyses
  row : ∃ record, modelBatch world.batches id = some record ∧ record.document = document ∧
    record.remoteBatchId ≠ none ∧
    (record.state = .resultsSaved ∨ record.pending = false ∨
      ∀ frozen, document ≠ .submission frozen)

section

variable {rules} {P : List (AnalysisRow δ) → Prop} {id : String} {document : BatchDocument δ}
  {world : ModelWorld δ} {faulty : Bool} {β γ : Type} {execution : String}

theorem Saved.idle {world' : ModelWorld δ} (h : Saved P id document world)
    (hidle : Idle execution world world') : Saved P id document world' := by
  refine ⟨?_, ?_⟩
  · rw [hidle.tables]
    exact h.analyses
  · rw [hidle.batches]
    exact h.row

/-- The program leaves the analyses and the document alone. -/
abbrev Leaves (P : List (AnalysisRow δ) → Prop) (id : String) (document : BatchDocument δ)
    (faulty : Bool) (program : ModelProgram δ β) (world : ModelWorld δ) : Prop :=
  program.wp faulty (Saved P id document) (fun _ => Saved P id document) world

theorem leaves_idle_bind {p : ModelProgram δ β} {f : β → ModelProgram δ γ}
    (hp : p.Moves (Idle execution)) (h : Saved P id document world)
    (hf : ∀ b world, Saved P id document world → Leaves P id document faulty (f b) world) :
    Leaves P id document faulty (p >>= f) world := by
  refine wp_bind (wp_mono (hp.wp (fun _ _ hidle hsaved => hsaved.idle hidle) h) ?_)
  intro result world h
  cases result with
  | error e => exact h
  | ok b => exact hf b world h

variable {record : ModelBatchRecord δ}

theorem Saved.updated {next : BatchState} (h : Saved P id document world)
    (hdocument : record.document = document) (hremote : record.remoteBatchId ≠ none)
    (hnot : ∀ frozen, document ≠ .submission frozen) :
    Saved P id document (updatedWorld record next world) := by
  refine ⟨h.analyses, ?_⟩
  obtain ⟨current, hcurrent, hrest⟩ := h.row
  obtain ⟨row, hrow, hdecode⟩ := Option.map_eq_some_iff.mp hcurrent
  have hfound : modelBatch (updatedWorld record next world).batches id
      = some (ModelBatchRecord.decode
        (if matchesUpdate record.state { record with state := next } row = true then
          ({ record with state := next } : ModelBatchRecord δ).encode
        else row)) := by
    unfold modelBatch updatedWorld
    rw [find_updatedRows, hrow, Option.map_some, Option.map_some]
  rw [hfound]
  split
  · exact ⟨_, rfl, hdocument, hremote, Or.inr (Or.inr hnot)⟩
  · exact ⟨_, rfl, hdecode ▸ hrest⟩

theorem leaves_persist {next : BatchState} (h : Saved P id document world)
    (hdocument : record.document = document) (hremote : record.remoteBatchId ≠ none)
    (hnot : ∀ frozen, document ≠ .submission frozen) :
    Leaves P id document faulty (persist rules record next) world := by
  have hwrite : ∀ changed world', (if maxBatchDocumentBytes < rules.documentBytes record.document
      then Except.error IoErrorKind.invalidInput
      else .ok (decide (world.batches.countP
        (matchesUpdate record.state { record with state := next }) = 1),
        updatedWorld record next world)) = .ok (changed, world') →
      Saved P id document world' := by
    intro changed world' hact
    split at hact
    · cases hact
    · cases hact
      exact h.updated hdocument hremote hnot
  refine wp_bind (wp_writeCall h hwrite (fun _ _ => h) ?_ (fun _ _ => h) ?_)
  · exact fun _ changed world' hact _ => hwrite changed world' hact
  · intro changed world' hact
    have hsaved := hwrite changed world' hact
    cases changed with
    | true | false => exact hsaved

theorem leaves_closeCollected (target : ProviderExecutionTarget) (h : Saved P id document world)
    (hdocument : record.document = document) (hremote : record.remoteBatchId ≠ none) :
    Leaves P id document faulty (closeCollected rules execution target record) world := by
  unfold closeCollected
  split
  · next result terminal output error hresults =>
    refine leaves_idle_bind (moves_deleteFiles execution target _) h fun _ world h => ?_
    have hnot : ∀ frozen, document ≠ .submission frozen := by
      intro frozen hsubmission
      rw [← hdocument, hresults] at hsubmission
      cases hsubmission
    refine wp_bind (wp_mono (leaves_persist h hdocument hremote hnot) ?_)
    intro result world h
    cases result with
    | error e => exact h
    | ok _ => exact h
  · exact leaves_idle_bind (moves_deleteFiles execution target _) h fun _ _ h => h

theorem leaves_collectIdentified (voice : Option String) (target : ProviderExecutionTarget)
    (cancel : Bool) (remote : String) (h : Saved P id document world)
    (hdocument : record.document = document) (hremote : record.remoteBatchId ≠ none)
    (hfinal : record.state = .resultsSaved ∨ ∀ frozen, document ≠ .submission frozen) :
    Leaves P id document faulty
      (collectIdentified rules execution voice target cancel record remote) world := by
  unfold collectIdentified
  split
  · exact leaves_closeCollected target h hdocument hremote
  · next hstate =>
    have hnot := hfinal.resolve_left hstate
    refine leaves_idle_bind (@moves_checkCancelledCall _ execution) h fun _ world h => ?_
    refine leaves_idle_bind (Transport.moves_status execution target remote) h
      fun status world h => ?_
    refine leaves_idle_bind (@moves_ofExcept _ _ _ (Idle execution) _) h fun _ world h => ?_
    split
    · refine leaves_idle_bind (moves_cancelRemote execution target cancel remote _) h
        fun _ world h => ?_
      refine wp_bind (wp_mono (leaves_persist h hdocument hremote hnot) ?_)
      intro result world h
      cases result with
      | error e => exact h
      | ok _ => exact h
    · unfold saveResults
      split
      · next frozen hsubmission => exact absurd (hdocument ▸ hsubmission) (hnot frozen)
      · exact h

theorem leaves_collectTaggingBatch (voice : Option String) {action : BatchAction}
    (haction : action.batchId = id) (h : Saved P id document world) :
    Leaves P id document faulty (collectTaggingBatch rules execution voice action) world := by
  refine leaves_idle_bind (@moves_ofExcept _ _ _ (Idle execution) _) h fun _ world h => ?_
  obtain ⟨record, hrecord, hdocument, hremote, hfinal⟩ := h.row
  refine wp_bind (wp_syscall h (fun _ => h) (fun _ _ => h) ?_)
  intro found world' hact
  obtain ⟨rfl, rfl⟩ := Prod.mk.inj (Except.ok.inj hact)
  rw [haction]
  dsimp only [Then]
  rw [hrecord]
  dsimp only
  split
  · exact h
  · next hpending =>
    refine leaves_idle_bind (@moves_prepareBatchManagement _ execution rules _) h
      fun target world h => ?_
    split
    · next hnone => exact absurd hnone hremote
    · next remote _ =>
      exact leaves_collectIdentified voice target action.cancel remote h hdocument hremote
        (hfinal.imp_right fun hrest => hrest.resolve_left hpending)

end

/-! ## From one run to the next -/

/-- The analyses are those of `base` with the rows of the plan stored. -/
def AnalysesPlanned (voice : Option String) (base : ModelWorld δ) (record : ModelBatchRecord δ)
    (remote : String) (analyses : List (AnalysisRow δ)) : Prop :=
  ∀ track analyzerId, { base.tables with analyses := analyses }.analysisOf track analyzerId
    = (storeRows (planCollection rules voice base record remote).1 base.tables).analysisOf track
      analyzerId

/-- The row of the batch was open, with its results not saved, and still is in a state of this
kind. -/
structure OpenState (record : ModelBatchRecord δ) (state : BatchState) : Prop where
  start : record.pending = true ∧ record.state ≠ .resultsSaved
  running : state.isTerminal = false
  unsaved : state ≠ .resultsSaved

/-- The keys of the rows that a collection stores. -/
def plannedKeys (voice : Option String) (base : ModelWorld δ) (record : ModelBatchRecord δ)
    (remote : String) : List (TrackId × String) :=
  (planCollection rules voice base record remote).1.map AnalysisRow.key

/-- Where a run may leave the world: before the results, or with the results of the plan. -/
def Between (voice : Option String) (base : ModelWorld δ) (record : ModelBatchRecord δ)
    (remote : String) (world : ModelWorld δ) : Prop :=
  (∃ state, OpenState record state ∧
      Collecting rules base record (plannedKeys rules voice base record remote) state false
        world) ∨
    Saved (AnalysesPlanned rules voice base record remote) record.id
      (planCollection rules voice base record remote).2 world

/-- The world is as an undisturbed collection leaves it. -/
def AsPlanned (voice : Option String) (base : ModelWorld δ) (record : ModelBatchRecord δ)
    (remote : String) (world : ModelWorld δ) : Prop :=
  AnalysesPlanned rules voice base record remote world.tables.analyses ∧
    (modelBatch world.batches record.id).map ModelBatchRecord.document
      = some (planCollection rules voice base record remote).2

def Left (voice : Option String) (base : ModelWorld δ) (record : ModelBatchRecord δ)
    (remote : String) (faulty : Bool) (world : ModelWorld δ) : Prop :=
  Between rules voice base record remote world ∧
    (faulty = false → AsPlanned rules voice base record remote world)

def SaveEnds (voice : Option String) (base : ModelWorld δ) (record : ModelBatchRecord δ)
    (remote : String) (faulty : Bool) :
    Except JobHandlerError (ModelBatchRecord δ) → ModelWorld δ → Prop
  | .error _, world => Left rules voice base record remote faulty world
  | .ok record', world =>
    Saved (AnalysesPlanned rules voice base record remote) record.id
        (planCollection rules voice base record remote).2 world ∧
      record'.document = (planCollection rules voice base record remote).2 ∧
      record'.remoteBatchId ≠ none

section

variable {rules} {voice : Option String} {base : ModelWorld δ} {record : ModelBatchRecord δ}
  {remote : String} {world : ModelWorld δ} {state : BatchState} {faulty : Bool} {β γ : Type}
  {execution : String}

theorem Saved.asPlanned
    (h : Saved (AnalysesPlanned rules voice base record remote) record.id
      (planCollection rules voice base record remote).2 world) :
    AsPlanned rules voice base record remote world := by
  refine ⟨h.analyses, ?_⟩
  obtain ⟨current, hcurrent, hdocument, _⟩ := h.row
  rw [hcurrent, Option.map_some, hdocument]

variable {settled : Bool}

/-- Before the results the document is the one of the submission; the analyses are as planned
once every row of the plan was stored. -/
theorem Collecting.asPlanned {before : ModelWorld δ}
    (h : Collecting rules base record (plannedKeys rules voice base record remote) state settled world)
    (hbefore : Collecting rules base record (plannedKeys rules voice base record remote) state settled
      before) (hanalyses : world.tables.analyses
      = (storeRows (planCollection rules voice base record remote).1 before.tables).analyses)
    (hdocument : (planCollection rules voice base record remote).2 = record.document) :
    AsPlanned rules voice base record remote world := by
  refine ⟨?_, ?_⟩
  · intro track analyzerId
    rw [hanalyses]
    exact analysisOf_storeRows hbefore.agree track analyzerId
  · rw [h.row, hdocument]
    rfl

variable {error : JobHandlerError}

theorem planCollection_error (h : planFetch rules base record remote = .error error) :
    planCollection rules voice base record remote = ([], record.document) := by
  unfold planCollection
  rw [h]

theorem Collecting.asPlanned_error
    (h : Collecting rules base record (plannedKeys rules voice base record remote) state settled world)
    (herror : planFetch rules base record remote = .error error) :
    AsPlanned rules voice base record remote world := by
  have hplan := @planCollection_error _ _ voice _ _ _ _ herror
  refine h.asPlanned h ?_ ?_
  · rw [hplan]
    rfl
  · rw [hplan]

theorem Follows.before {p : ModelProgram δ β} {result : Except JobHandlerError β}
    {f : β → ModelProgram δ γ} {Q : Except JobHandlerError γ → ModelWorld δ → Prop}
    (hopen : OpenState record state)
    (hp : Follows rules base record (plannedKeys rules voice base record remote) state settled faulty p
      (planOf result) world)
    (herror : ∀ e world, Collecting rules base record (plannedKeys rules voice base record remote)
      state false world → (faulty = true ∨ result = .error e) → Q (.error e) world)
    (hok : ∀ b world, result = .ok b →
      Collecting rules base record (plannedKeys rules voice base record remote) state settled world →
        (f b).wp faulty (Between rules voice base record remote) Q world) :
    (p >>= f).wp faulty (Between rules voice base record remote) Q world := by
  refine wp_bind (wp_weaken hp (fun world h => Or.inl ⟨state, hopen, h⟩) ?_)
  intro result' world' hresult
  cases result' with
  | error e =>
    obtain ⟨hcollecting, hresult⟩ := hresult
    exact herror e world' hcollecting (hresult.imp_right And.left)
  | ok b =>
    obtain ⟨hcollecting, hplan, _⟩ := hresult
    exact hok b world' hplan hcollecting

theorem ensure_open (h : record.pending = true ∧ record.state ≠ .resultsSaved) :
    ensure (record.pending = true ∧ record.state ≠ .resultsSaved)
      (JobHandlerError.new "batch_record_invalid") = .ok () := ensure_eq_ok.mpr h

theorem Follows.before_ok {p : ModelProgram δ β} {b : β} {f : β → ModelProgram δ γ}
    {Q : Except JobHandlerError γ → ModelWorld δ → Prop} (hopen : OpenState record state)
    (hp : Follows rules base record (plannedKeys rules voice base record remote) state settled faulty p
      (planOf (.ok b)) world) (hfault : faulty = true → ∀ e world, Collecting rules base record
      (plannedKeys rules voice base record remote) state false world → Q (.error e) world)
    (hok : ∀ world, Collecting rules base record (plannedKeys rules voice base record remote)
      state settled world → (f b).wp faulty (Between rules voice base record remote) Q world) :
    (p >>= f).wp faulty (Between rules voice base record remote) Q world := by
  refine hp.before hopen ?_ ?_
  · intro e world h herror
    rcases herror with hfaulty | herror
    · exact hfault hfaulty e world h
    · cases herror
  · intro b' world hresult h
    cases hresult
    exact hok world h

theorem Collecting.left_fault (hopen : OpenState record state) (hfaulty : faulty = true)
    (h : Collecting rules base record (plannedKeys rules voice base record remote) state false world) :
    Left rules voice base record remote faulty world := by
  refine ⟨Or.inl ⟨state, hopen, h⟩, ?_⟩
  intro hreliable
  rw [hfaulty] at hreliable
  cases hreliable

theorem Collecting.left_error (hopen : OpenState record state)
    (h : Collecting rules base record (plannedKeys rules voice base record remote) state false world)
    (herror : faulty = true ∨ ∃ error, planFetch rules base record remote = .error error) :
    Left rules voice base record remote faulty world := by
  rcases herror with hfaulty | ⟨error, herror⟩
  · exact h.left_fault hopen hfaulty
  · exact ⟨Or.inl ⟨state, hopen, h⟩, fun _ => h.asPlanned_error herror⟩

variable {target : ProviderExecutionTarget} {status : ProviderBatchStatus}

theorem planFetch_status (hopen : OpenState record state)
    (htarget : managementTarget rules base.tables record.connectionId = .ok target)
    (hstatus : statusOf base.provider target remote = .ok status) :
    planFetch rules base record remote = (do
      sameBatch record status
      match record.document, status.state.isTerminal with
      | .submission frozen, true => do
        let responses ← responsesOf base.provider base.deleted target frozen.ranges.length []
          (status.outputFileId.toList ++ status.errorFileId.toList)
        return ⟨frozen, status, responses⟩
      | _, _ => .error (.new "batch_record_invalid")) := by
  unfold planFetch
  rw [ensure_open hopen.start, htarget]
  dsimp only [Bind.bind, Except.bind]
  exact hstatus ▸ rfl

theorem planFetch_target_error (hopen : OpenState record state)
    (htarget : managementTarget rules base.tables record.connectionId = .error error) :
    planFetch rules base record remote = .error error := by
  unfold planFetch
  rw [ensure_open hopen.start, htarget]
  rfl

theorem planFetch_status_error (hopen : OpenState record state)
    (htarget : managementTarget rules base.tables record.connectionId = .ok target)
    (hstatus : statusOf base.provider target remote = .error error) :
    planFetch rules base record remote = .error error := by
  unfold planFetch
  rw [ensure_open hopen.start, htarget]
  dsimp only [Bind.bind, Except.bind]
  rw [hstatus]

theorem planCollection_fetched {fetched : Fetched δ}
    (h : planFetch rules base record remote = .ok fetched) :
    planCollection rules voice base record remote =
      ((planTally rules voice base fetched).1,
        match (planTally rules voice base fetched).2 with
        | .error _ => record.document
        | .ok tally =>
          if maxBatchDocumentBytes
              < rules.documentBytes (planDocument rules base record fetched tally) then
            record.document
          else planDocument rules base record fetched tally) := by
  unfold planCollection
  rw [h]
  dsimp only
  cases (planTally rules voice base fetched).2 <;> rfl

theorem wp_saveTally (hids : (base.batches.map ModelBatchRow.id).Nodup)
    (hopen : OpenState record state) (hremote : record.remoteBatchId = some remote)
    {fetched : Fetched δ} (hfetch : planFetch rules base record remote = .ok fetched)
    (h : Collecting rules base record (plannedKeys rules voice base record remote) state true
      world) :
    (collectResponses rules execution voice (vocabularyOf rules base)
        (currentBatch rules base fetched.frozen) fetched.frozen (firstTally fetched.frozen)
        (inOrder fetched.frozen.ranges.length fetched.responses) >>= fun tally =>
      persist rules { record with
        state := state, document := planDocument rules base record fetched tally }
        .resultsSaved).wp faulty (Between rules voice base record remote)
      (SaveEnds rules voice base record remote faulty) world := by
  have hplan := @planCollection_fetched _ _ voice _ _ _ _ hfetch
  have hkeys : ∀ row ∈ (planTally rules voice base fetched).1,
      row.key ∈ plannedKeys rules voice base record remote := by
    intro row hrow
    unfold plannedKeys
    rw [hplan]
    exact List.mem_map_of_mem hrow
  refine wp_bind (wp_weaken (follows_collectResponses h execution voice _ fetched.frozen _ _ hkeys)
    (fun world h => Or.inl ⟨state, hopen, h⟩) ?_)
  intro result world' hresult
  cases result with
  | error e =>
    obtain ⟨hcollecting, hresult⟩ := hresult
    rcases hresult with hfaulty | ⟨herror, hanalyses⟩
    · exact hcollecting.left_fault hopen hfaulty
    · refine ⟨Or.inl ⟨state, hopen, hcollecting⟩, fun _ => hcollecting.asPlanned h.early ?_ ?_⟩
      · rw [hplan]
        exact hanalyses
      · rw [hplan]
        dsimp only
        rw [show (planTally rules voice base fetched).2 = .error e from herror]
  | ok tally =>
    obtain ⟨hcollecting, htally, hanalyses⟩ := hresult
    have htally : (planTally rules voice base fetched).2 = .ok tally := htally
    rw [htally] at hplan
    have hbetween : Between rules voice base record remote world' :=
      Or.inl ⟨state, hopen, hcollecting.early⟩
    have hids' : (world'.batches.map ModelBatchRow.id).Nodup := by
      rw [hcollecting.ids]
      exact hids
    have hrows : world'.tables.analyses
        = (storeRows (planCollection rules voice base record remote).1 world.tables).analyses := by
      rw [hplan]
      exact hanalyses
    let saved : ModelBatchRecord δ := { record with
      state := state, document := planDocument rules base record fetched tally }
    have hsaved : rules.documentBytes saved.document ≤ maxBatchDocumentBytes →
        saved.document = (planCollection rules voice base record remote).2 ∧
          Saved (AnalysesPlanned rules voice base record remote) record.id
            (planCollection rules voice base record remote).2
            (updatedWorld saved .resultsSaved world') := by
      intro hfits
      have hdocument : saved.document = (planCollection rules voice base record remote).2 := by
        rw [hplan]
        exact (if_neg (not_lt.mpr hfits)).symm
      have hrow : modelBatch (updatedRows saved .resultsSaved world'.batches) record.id
          = some { saved with state := .resultsSaved } :=
        @modelBatch_updatedRows _ _ _ saved hcollecting.row rfl rfl .resultsSaved
      refine ⟨hdocument, ?_, _, hrow, hdocument, ?_, Or.inl rfl⟩
      · intro track analyzerId
        show ({ base.tables with analyses := world'.tables.analyses } :
          EvidenceTables δ).analysisOf track analyzerId = _
        rw [hrows]
        exact analysisOf_storeRows h.agree track analyzerId
      · show record.remoteBatchId ≠ none
        rw [hremote]
        exact Option.some_ne_none remote
    refine @wp_persist _ rules _ _ _ saved _ _ _ hids' hcollecting.row rfl rfl hbetween
      (fun hfits => Or.inr (hsaved hfits).2) ?_ ?_ ?_ ?_
    · exact fun hfaulty _ => hcollecting.early.left_fault hopen hfaulty
    · exact fun hfaulty hfits _ => ⟨Or.inr (hsaved hfits).2, fun _ => (hsaved hfits).2.asPlanned⟩
    · intro hlarge _
      refine ⟨hbetween, fun _ => hcollecting.asPlanned h hrows ?_⟩
      rw [hplan]
      exact if_pos hlarge
    · intro hfits
      obtain ⟨hdocument, hworld⟩ := hsaved hfits
      refine ⟨hworld, hdocument, ?_⟩
      show record.remoteBatchId ≠ none
      rw [hremote]
      exact Option.some_ne_none remote

theorem wp_saveResults (hsteady : base.provider.Steady)
    (hids : (base.batches.map ModelBatchRow.id).Nodup) (hopen : OpenState record state)
    (hremote : record.remoteBatchId = some remote) (hreach : planFetch rules base record remote =
      match record.document with
      | .submission frozen => do
        let responses ← responsesOf base.provider base.deleted target frozen.ranges.length []
          (status.outputFileId.toList ++ status.errorFileId.toList)
        return ⟨frozen, status, responses⟩
      | _ => .error (.new "batch_record_invalid"))
    (h : Collecting rules base record (plannedKeys rules voice base record remote) state false
      world) :
    (saveResults rules execution voice target { record with state := state } status).wp faulty
      (Between rules voice base record remote)
      (SaveEnds rules voice base record remote faulty)
      world := by
  unfold saveResults
  cases hdocument : record.document with
  | closed result | results result terminal output error =>
    rw [hdocument] at hreach
    exact h.left_error hopen (Or.inr ⟨_, hreach⟩)
  | submission frozen =>
    rw [hdocument] at hreach
    dsimp only at hreach ⊢
    refine (follows_fetchResponses hsteady h execution target frozen.ranges.length [] _).before hopen
      ?_ ?_
    · intro e world h herror
      refine h.left_error hopen (herror.imp_right fun herror => ⟨e, hreach.trans ?_⟩)
      rw [herror]
      rfl
    · intro responses world hresponses h
      have hfetch : planFetch rules base record remote = .ok ⟨frozen, status, responses⟩ := by
        rw [hreach, hresponses]
        rfl
      refine (follows_vocabularyCall h).before_ok hopen
        (fun hfaulty e world h => h.left_fault hopen hfaulty) fun world h => ?_
      refine (follows_currentInferenceFingerprint h).before_ok hopen
        (fun hfaulty e world h => h.left_fault hopen hfaulty) fun world h => ?_
      exact wp_saveTally hids hopen hremote hfetch h

theorem wp_closeCollected {record' : ModelBatchRecord δ}
    (h : Saved (AnalysesPlanned rules voice base record remote) record.id
      (planCollection rules voice base record remote).2 world)
    (hdocument : record'.document = (planCollection rules voice base record remote).2)
    (hremote : record'.remoteBatchId ≠ none) :
    (closeCollected rules execution target record').wp faulty
      (Between rules voice base record remote)
      (fun _ => Left rules voice base record remote faulty) world :=
  wp_weaken (leaves_closeCollected target h hdocument hremote) (fun _ h => Or.inr h)
    fun _ _ h => ⟨Or.inr h, fun _ => h.asPlanned⟩

/-! ### A batch the provider is not through with -/

variable {keys : List (TrackId × String)}

theorem Followed.early {plan : CollectionPlan δ β} {before : ModelWorld δ}
    {result : Except JobHandlerError β}
    (h : Followed rules base record keys state settled faulty plan before result world) :
    Collecting rules base record keys state false world := by
  cases result with
  | error e => exact h.1
  | ok b => exact h.1.early

theorem wp_cancelRemote {cancel : Bool} {current : BatchState}
    (h : Collecting rules base record keys state false world) :
    (cancelRemote execution target cancel remote current).wp faulty
      (Collecting rules base record keys state false)
      (fun _ => Collecting rules base record keys state false) world := by
  unfold cancelRemote
  split
  · refine wp_bind (wp_mono (follows_ofExcept h ((identifier remote).mapError .new)) ?_)
    intro result world h
    cases result with
    | error e => exact h.early
    | ok batchId =>
      refine wp_bind (wp_mono (follows_ofExcept h.early ((batchTarget target).mapError .new)) ?_)
      intro result world h
      cases result with
      | error e => exact h.early
      | ok _ => exact wp_mono (follows_providerCall h.early) fun _ _ h => h.early
  · exact h

theorem Collecting.persisted (next : BatchState)
    (h : Collecting rules base record keys state false world) :
    Collecting rules base record keys (BatchState.parse next.asStr) false
      (updatedWorld { record with state := state } next world) := by
  have hrow : modelBatch (updatedRows { record with state := state } next world.batches) record.id
      = some { record with state := BatchState.parse next.asStr } :=
    @modelBatch_updatedRows _ _ _ { record with state := state } h.row rfl rfl next
  refine ⟨h.provider, h.deleted, ?_, h.tables, h.vocabulary, h.agree, hrow⟩
  rw [← h.ids]
  exact ids_updatedRows _ _ _

theorem statusOf_state (h : statusOf base.provider target remote = .ok status) :
    ∃ value ∈ providerStates, status.state = BatchState.parse value := by
  obtain ⟨batchId, _, h⟩ := bind_eq_ok.mp h
  obtain ⟨_, _, h⟩ := bind_eq_ok.mp h
  obtain ⟨answer, _, h⟩ := bind_eq_ok.mp h
  cases hread : readStatus batchId answer with
  | error code =>
    rw [hread] at h
    cases h
  | ok status' =>
    rw [hread] at h
    cases h
    unfold readStatus at hread
    obtain ⟨_, _, hread⟩ := bind_eq_ok.mp hread
    obtain ⟨value, _, hread⟩ := bind_eq_ok.mp hread
    obtain ⟨_, hvalue, hread⟩ := bind_eq_ok.mp hread
    obtain ⟨_, _, hread⟩ := bind_eq_ok.mp hread
    obtain ⟨_, _, hread⟩ := bind_eq_ok.mp hread
    obtain ⟨_, _, hread⟩ := bind_eq_ok.mp hread
    obtain ⟨_, _, hread⟩ := bind_eq_ok.mp hread
    cases hread
    exact ⟨value, ensure_eq_ok.mp hvalue, rfl⟩

theorem OpenState.reported (hopen : OpenState record state) (cancel : Bool) {value : String}
    (hvalue : value ∈ providerStates) (hrunning : (BatchState.parse value).isTerminal = false) :
    OpenState record (BatchState.parse
      (if cancel = true then BatchState.cancelling else BatchState.parse value).asStr) := by
  refine ⟨hopen.start, ?_, ?_⟩
  · split
    · rfl
    · rw [BatchState.asStr_parse]
      exact hrunning
  · split
    · exact fun h => BatchState.noConfusion h
    · rw [BatchState.asStr_parse]
      have hnone : ∀ value ∈ providerStates, BatchState.parse value ≠ .resultsSaved := by decide
      exact hnone value hvalue

theorem wp_reportWaiting (hids : (base.batches.map ModelBatchRow.id).Nodup)
    (hopen : OpenState record state) {cancel : Bool}
    (hstatus : statusOf base.provider target remote = .ok status)
    (hrunning : status.state.isTerminal = false)
    (hreach : ∃ error, planFetch rules base record remote = .error error)
    (h : Collecting rules base record (plannedKeys rules voice base record remote) state false
      world) :
    (reportWaiting rules execution target cancel { record with state := state } remote
      status).wp faulty (Between rules voice base record remote)
      (fun _ => Left rules voice base record remote faulty) world := by
  obtain ⟨value, hvalue, hstate⟩ := statusOf_state hstatus
  rw [hstate] at hrunning
  unfold reportWaiting
  rw [hstate]
  refine wp_bind (wp_weaken (wp_cancelRemote h) (fun world h => Or.inl ⟨state, hopen, h⟩) ?_)
  intro result world h
  cases result with
  | error e => exact h.left_error hopen (Or.inr hreach)
  | ok _ =>
    have hids' : (world.batches.map ModelBatchRow.id).Nodup := by
      rw [h.ids]
      exact hids
    have hnext := hopen.reported cancel hvalue hrunning
    have hpersisted := h.persisted
      (if cancel = true then BatchState.cancelling else BatchState.parse value)
    have hleft := @Collecting.left_error _ _ _ _ _ _ _ _ faulty hnext hpersisted (Or.inr hreach)
    refine wp_bind (@wp_persist _ rules _ _ _ { record with state := state } _ _ _ hids' h.row rfl rfl
      (Or.inl ⟨state, hopen, h⟩) ?_ ?_ ?_ ?_ ?_)
    · exact fun _ => hleft.1
    · exact fun _ _ => h.left_error hopen (Or.inr hreach)
    · exact fun _ _ _ => hleft
    · exact fun _ _ => h.left_error hopen (Or.inr hreach)
    · exact fun _ => hleft

/-! ### The whole collection -/

theorem wp_collectIdentified (hsteady : base.provider.Steady)
    (hids : (base.batches.map ModelBatchRow.id).Nodup) (hopen : OpenState record state)
    (hremote : record.remoteBatchId = some remote)
    (htarget : managementTarget rules base.tables record.connectionId = .ok target) (cancel : Bool)
    (h : Collecting rules base record (plannedKeys rules voice base record remote) state false
      world) :
    (collectIdentified rules execution voice target cancel { record with state := state }
      remote).wp faulty (Between rules voice base record remote)
      (fun _ => Left rules voice base record remote faulty) world := by
  unfold collectIdentified
  rw [if_neg hopen.unsaved]
  refine (follows_checkCancelled h).before_ok hopen
    (fun hfaulty e world h => h.left_fault hopen hfaulty) fun world h => ?_
  refine (follows_status hsteady h execution target remote).before hopen ?_ ?_
  · intro e world h herror
    exact h.left_error hopen (herror.imp_right fun hstatus =>
      ⟨e, planFetch_status_error hopen htarget hstatus⟩)
  · intro status world hstatus h
    have hreach := planFetch_status hopen htarget hstatus
    refine (follows_ofExcept h (sameBatch { record with state := state } status)).before hopen ?_ ?_
    · intro e world h herror
      refine h.left_error hopen (herror.imp_right fun hsame => ⟨e, hreach.trans ?_⟩)
      rw [show sameBatch record status = .error e from hsame]
      rfl
    · intro _ world hsame h
      rw [show sameBatch record status = .ok () from hsame] at hreach
      dsimp only [Bind.bind, Except.bind] at hreach
      by_cases hrunning : status.state.isTerminal = false
      · rw [if_pos hrunning]
        have herror : planFetch rules base record remote = .error (.new "batch_record_invalid") := by
          rw [hreach, hrunning]
          cases record.document <;> rfl
        exact wp_reportWaiting hids hopen hstatus hrunning ⟨_, herror⟩ h
      · rw [if_neg hrunning]
        rw [Bool.not_eq_false] at hrunning
        rw [hrunning] at hreach
        have hdocument : planFetch rules base record remote =
            match record.document with
            | .submission frozen => do
              let responses ← responsesOf base.provider base.deleted target frozen.ranges.length []
                (status.outputFileId.toList ++ status.errorFileId.toList)
              return ⟨frozen, status, responses⟩
            | _ => .error (.new "batch_record_invalid") := by
          rw [hreach]
          cases record.document <;> rfl
        refine wp_bind (wp_mono (wp_saveResults hsteady hids hopen hremote hdocument h) ?_)
        intro result world hsaved
        cases result with
        | error e => exact hsaved
        | ok record' => exact wp_closeCollected hsaved.1 hsaved.2.1 hsaved.2.2

theorem wp_collectTaggingBatch (hsteady : base.provider.Steady)
    (hids : (base.batches.map ModelBatchRow.id).Nodup) (hremote : record.remoteBatchId = some remote)
    {action : BatchAction} (haction : action.batchId = record.id)
    (h : Between rules voice base record remote world) :
    (collectTaggingBatch rules execution voice action).wp faulty
      (Between rules voice base record remote)
      (fun _ world => Between rules voice base record remote world ∧
        (faulty = false → action.roleId = "music_tagger" →
          AsPlanned rules voice base record remote world)) world := by
  rcases h with ⟨state, hopen, h⟩ | h
  · have hbetween : Between rules voice base record remote world := Or.inl ⟨state, hopen, h⟩
    refine (follows_ofExcept h (ensure (action.roleId = "music_tagger")
      (.new "invalid_batch_action"))).before hopen ?_ ?_
    · intro e world h hrole
      refine ⟨Or.inl ⟨state, hopen, h⟩, ?_⟩
      intro hreliable htagger
      rcases hrole with hfaulty | hrole
      · rw [hfaulty] at hreliable
        cases hreliable
      · have hpassed : ensure (action.roleId = "music_tagger")
            (JobHandlerError.new "invalid_batch_action") = .ok () := ensure_eq_ok.mpr htagger
        rw [hpassed] at hrole
        cases hrole
    · intro _ world _ h
      refine wp_mono (Q := fun _ => Left rules voice base record remote faulty) ?_
        fun _ _ hleft => ⟨hleft.1, fun hreliable _ => hleft.2 hreliable⟩
      refine (follows_readCall h).before_ok hopen
        (fun hfaulty e world h => h.left_fault hopen hfaulty) fun world' h' => ?_
      rw [haction, h.row]
      dsimp only
      have hpending : ({ record with state := state } : ModelBatchRecord δ).pending ≠ false := by
        unfold ModelBatchRecord.pending
        rw [hopen.running]
        exact Bool.noConfusion
      rw [if_neg hpending]
      refine (follows_prepareBatchManagement h' record.connectionId).before hopen ?_ ?_
      · intro e world h herror
        exact h.left_error hopen (herror.imp_right fun htarget =>
          ⟨e, planFetch_target_error hopen htarget⟩)
      · intro target world htarget h
        split
        · next hnone => exact absurd (hremote.symm.trans hnone) (Option.some_ne_none remote)
        · next found hfound =>
          obtain rfl : remote = found := Option.some.inj (hremote.symm.trans hfound)
          exact wp_collectIdentified hsteady hids hopen hremote htarget action.cancel h
  · exact wp_weaken (leaves_collectTaggingBatch voice haction h) (fun _ h => Or.inr h)
      fun _ _ h => ⟨Or.inr h, fun _ _ => h.asPlanned⟩

end

end

end MusicServer
