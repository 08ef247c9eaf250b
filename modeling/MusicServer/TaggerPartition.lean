/-
# Tagging batches partition their inputs

The inputs of a tagging run are cut from the front into batches that are as wide as the transport
takes them, and the tracks of a batch are numbered until its answer is read.  The main result,
`batches_partition`, is that no track is lost, repeated or swapped on the way: the batches cover
the inputs once, or some single track is too large, and what is recorded in the end has the ids of
the inputs, each with evidence of its own input.

* `new_numbers`: a batch numbers its tracks in their order;
* `widestBatch_spec`: halving finds the widest batch;
* `planModelTaggerBatches_spec`: the batches cover the inputs;
* `finish_spec`: an answer is put back to the tracks it is about.
-/
import MusicServer.CleanupRuns
import MusicServer.TaggerAnswers

namespace MusicServer.Tagging

open LibraryIndex

section Inputs

variable (doubles : Doubles) (predictionKinds : Json → Option (List String))

/-- The id of an input that is acceptable by itself. -/
def inputId (input : Json) : Option ℤ :=
  match normalizeTrackInput doubles predictionKinds input with
  | .error _ => none
  | .ok track => ((track.get "track_id").bind Json.asInteger).filter fun id => 0 < id

/-- Every input is acceptable by itself, and no id comes twice. -/
structure Acceptable (inputs : List Json) : Prop where
  numbered : ∀ input ∈ inputs, (inputId doubles predictionKinds input).isSome = true
  distinct : (inputs.map (inputId doubles predictionKinds)).Nodup

/-- The evidence that an input has when it is sent. -/
def ownEvidence (input : Json) : List String :=
  match normalizeTrackInput doubles predictionKinds input with
  | .error _ => []
  | .ok track => evidenceIds predictionKinds (.object track)

/-- A track as it is sent, with its number in place of its id. -/
def numberedTrack (input : Json) (number : ℕ) : Json :=
  match normalizeTrackInput doubles predictionKinds input with
  | .error _ => .null
  | .ok track => .object (track.insert "track_id" (.naturalJson number))

/-- A batch has the tracks of these inputs, numbered in their order. -/
structure Numbers (inputs : List Json) (batch : ModelTaggerBatch) : Prop where
  ids : inputs.map (inputId doubles predictionKinds) = batch.trackIds.map some
  tracks : batch.tracks = (inputs.zipIdx 1).map fun entry =>
    numberedTrack doubles predictionKinds entry.1 entry.2

variable {doubles predictionKinds} {inputs : List Json} {batch : ModelTaggerBatch}

theorem Acceptable.sublist {taken : List Json} (h : Acceptable doubles predictionKinds inputs)
    (hsub : taken.Sublist inputs) : Acceptable doubles predictionKinds taken :=
  ⟨fun input hmem => h.numbered input (hsub.subset hmem), (hsub.map _).nodup h.distinct⟩

theorem Numbers.length (h : Numbers doubles predictionKinds inputs batch) :
    batch.trackIds.length = inputs.length := by
  have hlength := congrArg List.length h.ids
  rw [List.length_map, List.length_map] at hlength
  exact hlength.symm

theorem Numbers.append (h : Numbers doubles predictionKinds inputs batch) {input : Json}
    {track : JsonObject} {id : ℤ}
    (htrack : normalizeTrackInput doubles predictionKinds input = .ok track)
    (hid : inputId doubles predictionKinds input = some id) :
    Numbers doubles predictionKinds (inputs ++ [input])
      ⟨batch.tracks ++ [.object (track.insert "track_id"
        (.naturalJson (batch.trackIds ++ [id]).length))], batch.trackIds ++ [id]⟩ := by
  refine ⟨?_, ?_⟩
  · rw [List.map_append, List.map_append, h.ids, List.map_singleton, List.map_singleton, hid]
  · have hnumber : (batch.trackIds ++ [id]).length = 1 + inputs.length := by
      rw [List.length_append, h.length, List.length_singleton, Nat.add_comm]
    rw [List.zipIdx_append, List.map_append, ← h.tracks, hnumber]
    unfold numberedTrack
    rw [List.zipIdx_singleton, List.map_singleton, htrack]

theorem addTracks_numbers {front : List Json}
    (hacceptable : Acceptable doubles predictionKinds (front ++ inputs))
    (hbatch : Numbers doubles predictionKinds front batch) :
    ∃ full, addTracks doubles predictionKinds batch inputs = .ok full ∧
      Numbers doubles predictionKinds (front ++ inputs) full := by
  induction inputs generalizing front batch with
  | nil => exact ⟨batch, rfl, by rwa [List.append_nil]⟩
  | cons input rest ih =>
    obtain ⟨id, hid⟩ := Option.isSome_iff_exists.mp
      (hacceptable.numbered input (List.mem_append_right _ List.mem_cons_self))
    have hsplit : front ++ input :: rest = front ++ [input] ++ rest := by simp
    unfold addTracks
    cases htrack : normalizeTrackInput doubles predictionKinds input with
    | error error =>
      unfold inputId at hid
      rw [htrack] at hid
      cases hid
    | ok track =>
      have hnew : id ∉ batch.trackIds := by
        intro hmem
        have hdistinct := hacceptable.distinct
        rw [List.map_append, List.map_cons, hbatch.ids, hid] at hdistinct
        exact (List.disjoint_of_nodup_append hdistinct) (List.mem_map_of_mem hmem)
          List.mem_cons_self
      have hnext := hbatch.append htrack hid
      unfold inputId at hid
      rw [htrack] at hid
      dsimp only at hid ⊢
      rw [hid]
      dsimp only
      rw [if_neg hnew, hsplit]
      exact ih (hsplit ▸ hacceptable) hnext

theorem new_numbers (hacceptable : Acceptable doubles predictionKinds inputs) (hne : inputs ≠ [])
    (hmany : inputs.length ≤ modelTagBatchSize) :
    ∃ full, ModelTaggerBatch.new doubles predictionKinds inputs = .ok full ∧
      Numbers doubles predictionKinds inputs full := by
  unfold ModelTaggerBatch.new
  rw [if_neg (by simp [hne, hmany])]
  exact @addTracks_numbers doubles predictionKinds inputs ⟨[], []⟩ [] hacceptable ⟨rfl, rfl⟩

end Inputs

/-! ## Planning -/

section Planning

variable (doubles : Doubles) (predictionKinds : Json → Option (List String))
  (validate : ModelTaggerBatch → Bool → Except ModelTaskError Unit)

/-- The inputs make a batch whose requests are both taken. -/
def BatchFits (inputs : List Json) : Prop :=
  ∃ task, ModelTaggerBatch.new doubles predictionKinds inputs = .ok task ∧
    validate task false = .ok () ∧ validate task true = .ok ()

/-- The transport refuses for the size only, and what it takes of a batch it takes of a shorter
one. -/
structure SizeLimited : Prop where
  only : ∀ task correction error, validate task correction = .error error →
    error = requestTooLarge
  shortened : ∀ inputs taken, taken ≠ [] → taken <:+: inputs →
    BatchFits doubles predictionKinds validate inputs →
      BatchFits doubles predictionKinds validate taken

variable {doubles predictionKinds validate} {inputs : List Json}

theorem validated_eq_ok {task : ModelTaggerBatch} :
    validated validate task = .ok () ↔ validate task false = .ok () ∧
      validate task true = .ok () := by
  unfold validated
  cases h : validate task false with
  | error error => simp
  | ok taken => exact ⟨fun hok => ⟨rfl, hok⟩, And.right⟩

theorem validated_eq_error (hlimited : SizeLimited doubles predictionKinds validate)
    {task : ModelTaggerBatch} {error : ModelTaskError}
    (h : validated validate task = .error error) : error = requestTooLarge := by
  unfold validated at h
  split at h
  · next first hfirst =>
    cases h
    exact hlimited.only task false error hfirst
  · exact hlimited.only task true error h

theorem batchFits_iff {task : ModelTaggerBatch}
    (hnew : ModelTaggerBatch.new doubles predictionKinds inputs = .ok task) :
    BatchFits doubles predictionKinds validate inputs ↔ validated validate task = .ok () := by
  rw [validated_eq_ok]
  constructor
  · rintro ⟨task', hnew', hvalid⟩
    rw [hnew] at hnew'
    cases hnew'
    exact hvalid
  · exact fun hvalid => ⟨task, hnew, hvalid⟩

theorem batchFits_take (hlimited : SizeLimited doubles predictionKinds validate)
    {shorter longer : ℕ} (hpos : 0 < shorter) (hle : shorter ≤ longer) (hne : inputs ≠ [])
    (h : BatchFits doubles predictionKinds validate (inputs.take longer)) :
    BatchFits doubles predictionKinds validate (inputs.take shorter) := by
  refine hlimited.shortened _ _ ?_ ?_ h
  · rw [ne_eq, List.take_eq_nil_iff]
    rintro (hzero | hnil)
    · omega
    · exact hne hnil
  · have hprefix : inputs.take shorter <+: inputs.take longer :=
      List.take_prefix_take_left hle
    exact hprefix.isInfix

/-- The search between two lengths: below its range it has selected the widest batch, above it
none fits. -/
structure Searching (doubles : Doubles) (predictionKinds : Json → Option (List String))
    (validate : ModelTaggerBatch → Bool → Except ModelTaskError Unit) (inputs : List Json)
    (cap lower upper : ℕ) (selected : Option SelectedBatch) : Prop where
  range : lower ≤ upper + 1
  capped : upper ≤ cap
  none : selected = none → lower = 1
  some : ∀ found, selected = some found → found.length + 1 = lower ∧
    ModelTaggerBatch.new doubles predictionKinds (inputs.take found.length) = .ok found.task ∧
      validated validate found.task = .ok ()
  above : ∀ length, upper < length → length ≤ cap →
    ¬ BatchFits doubles predictionKinds validate (inputs.take length)

/-- The widest batch up to a length, if one fits. -/
structure Widest (doubles : Doubles) (predictionKinds : Json → Option (List String))
    (validate : ModelTaggerBatch → Bool → Except ModelTaskError Unit) (inputs : List Json)
    (cap : ℕ) (found : Option SelectedBatch) : Prop where
  none : found = none → ∀ length, 0 < length → length ≤ cap →
    ¬ BatchFits doubles predictionKinds validate (inputs.take length)
  some : ∀ widest, found = some widest → widest.length ≤ cap ∧
    ModelTaggerBatch.new doubles predictionKinds (inputs.take widest.length) = .ok widest.task ∧
      validated validate widest.task = .ok () ∧
      ∀ length, widest.length < length → length ≤ cap →
        ¬ BatchFits doubles predictionKinds validate (inputs.take length)

theorem widestBatch_spec (hlimited : SizeLimited doubles predictionKinds validate)
    (hacceptable : Acceptable doubles predictionKinds inputs) (hne : inputs ≠ []) {cap : ℕ}
    (hcap : cap ≤ modelTagBatchSize) (lower upper : ℕ) (hlower : 0 < lower)
    (selected : Option SelectedBatch)
    (hsearch : Searching doubles predictionKinds validate inputs cap lower upper selected) :
    ∃ found, widestBatch doubles predictionKinds validate inputs lower upper hlower selected =
      .ok found ∧ Widest doubles predictionKinds validate inputs cap found := by
  induction hspan : upper + 1 - lower using Nat.strong_induction_on
    generalizing lower upper selected with
  | _ span ih =>
    rw [widestBatch]
    by_cases hle : lower ≤ upper
    · rw [if_pos hle]
      dsimp only
      have hmiddle : 0 < lower + (upper - lower) / 2 := by omega
      have hbound : lower + (upper - lower) / 2 ≤ upper := by omega
      have hupper := hsearch.capped
      obtain ⟨task, htask, -⟩ := @new_numbers doubles predictionKinds
        (inputs.take (lower + (upper - lower) / 2))
        (hacceptable.sublist (List.take_sublist _ inputs))
        (by
          rw [ne_eq, List.take_eq_nil_iff]
          rintro (hzero | hnil)
          · omega
          · exact hne hnil)
        (by
          have htake := List.length_take_le (lower + (upper - lower) / 2) inputs
          omega)
      rw [htask]
      dsimp only
      cases hvalid : validated validate task with
      | ok taken =>
        refine ih (upper + 1 - (lower + (upper - lower) / 2 + 1)) (by omega)
          (lower + (upper - lower) / 2 + 1) upper _ _ ?_ rfl
        refine ⟨by omega, hupper, by rintro ⟨⟩, ?_, hsearch.above⟩
        rintro found ⟨⟩
        exact ⟨rfl, htask, hvalid⟩
      | error error =>
        dsimp only
        rw [if_pos (validated_eq_error hlimited hvalid)]
        have hrefused : ¬ BatchFits doubles predictionKinds validate
            (inputs.take (lower + (upper - lower) / 2)) := by
          rw [batchFits_iff htask, hvalid]
          exact fun h => by cases h
        refine ih (lower + (upper - lower) / 2 - 1 + 1 - lower) (by omega) lower
          (lower + (upper - lower) / 2 - 1) _ _ ?_ rfl
        refine ⟨by omega, by omega, hsearch.none, hsearch.some,
          fun longer hlonger hlast hfits => ?_⟩
        exact hrefused (batchFits_take hlimited hmiddle (by omega) hne hfits)
    · rw [if_neg hle]
      have hrange := hsearch.range
      refine ⟨selected, rfl, fun hnone longer hpos hlast => ?_, fun widest hsome => ?_⟩
      · have hone := hsearch.none hnone
        exact hsearch.above longer (by omega) hlast
      · obtain ⟨hlength, hnew, hvalid⟩ := hsearch.some widest hsome
        have hupper := hsearch.capped
        refine ⟨by omega, hnew, hvalid, fun longer hlonger hlast => ?_⟩
        exact hsearch.above longer (by omega) hlast

/-- Batches from a place on: they cover what is left once and in order, none is too wide, both
requests of each are taken, and each is as wide as it can be where it starts. -/
structure Covers (doubles : Doubles) (predictionKinds : Json → Option (List String))
    (validate : ModelTaggerBatch → Bool → Except ModelTaskError Unit) (inputs : List Json)
    (start : ℕ) (plans : List PlannedTaggerBatch) : Prop where
  ranges : plans.flatMap (fun plan => List.range' plan.start plan.length) =
    List.range' start (inputs.length - start)
  sizes : ∀ plan ∈ plans, 1 ≤ plan.length ∧ plan.length ≤ modelTagBatchSize
  made : ∀ plan ∈ plans, ModelTaggerBatch.new doubles predictionKinds
    ((inputs.drop plan.start).take plan.length) = .ok plan.task
  valid : ∀ plan ∈ plans, validate plan.task false = .ok () ∧ validate plan.task true = .ok ()
  widest : ∀ plan ∈ plans, ∀ length, plan.length < length → length ≤ modelTagBatchSize →
    plan.start + length ≤ inputs.length →
      ¬ BatchFits doubles predictionKinds validate ((inputs.drop plan.start).take length)

theorem covers_nil {start : ℕ} (h : inputs.length ≤ start) :
    Covers doubles predictionKinds validate inputs start [] := by
  refine ⟨?_, fun _ hmem => absurd hmem List.not_mem_nil,
    fun _ hmem => absurd hmem List.not_mem_nil,
    fun _ hmem => absurd hmem List.not_mem_nil, fun _ hmem => absurd hmem List.not_mem_nil⟩
  rw [show inputs.length - start = 0 by omega]
  rfl

theorem Covers.cons {start : ℕ} {selected : SelectedBatch} {plans : List PlannedTaggerBatch}
    (hstart : start < inputs.length)
    (hwidest : Widest doubles predictionKinds validate (inputs.drop start)
      (min modelTagBatchSize (inputs.length - start)) (some selected))
    (h : Covers doubles predictionKinds validate inputs (start + selected.length) plans) :
    Covers doubles predictionKinds validate inputs start
      (⟨start, selected.length, selected.task⟩ :: plans) := by
  obtain ⟨hlength, hnew, hvalid, hlongest⟩ := hwidest.some selected rfl
  have hpositive := selected.positive
  refine ⟨?_, ?_, ?_, ?_, ?_⟩
  · rw [List.flatMap_cons, h.ranges, List.range'_append_1]
    congr 1
    dsimp only
    omega
  · intro plan hplan
    rcases List.mem_cons.mp hplan with rfl | hrest
    · exact ⟨hpositive, by
        dsimp only
        omega⟩
    · exact h.sizes plan hrest
  · intro plan hplan
    rcases List.mem_cons.mp hplan with rfl | hrest
    · exact hnew
    · exact h.made plan hrest
  · intro plan hplan
    rcases List.mem_cons.mp hplan with rfl | hrest
    · exact validated_eq_ok.mp hvalid
    · exact h.valid plan hrest
  · intro plan hplan
    rcases List.mem_cons.mp hplan with rfl | hrest
    · intro longer hlonger hmany hend
      exact hlongest longer hlonger (by
        dsimp only at hend
        omega)
    · exact h.widest plan hrest

theorem planModelTaggerBatches_spec (hlimited : SizeLimited doubles predictionKinds validate)
    (hacceptable : Acceptable doubles predictionKinds inputs) (start : ℕ) :
    (∃ plans, planModelTaggerBatches doubles predictionKinds validate start (inputs.drop start) =
        .ok plans ∧ Covers doubles predictionKinds validate inputs start plans) ∨
      planModelTaggerBatches doubles predictionKinds validate start (inputs.drop start) =
        .error requestTooLarge ∧
      ∃ input ∈ inputs, ¬ BatchFits doubles predictionKinds validate [input] := by
  induction hleft : inputs.length - start using Nat.strong_induction_on generalizing start with
  | _ left ih =>
    rw [planModelTaggerBatches]
    by_cases hnil : inputs.drop start = []
    · rw [if_pos hnil]
      exact .inl ⟨[], rfl, covers_nil (List.drop_eq_nil_iff.mp hnil)⟩
    · rw [if_neg hnil]
      have hstart : start < inputs.length := by
        by_contra hend
        exact hnil (List.drop_eq_nil_iff.mpr (by omega))
      have hlength : (inputs.drop start).length = inputs.length - start := List.length_drop
      have habove : ∀ length, min modelTagBatchSize (inputs.drop start).length < length →
          length ≤ min modelTagBatchSize (inputs.length - start) →
            ¬ BatchFits doubles predictionKinds validate ((inputs.drop start).take length) := by
        intro length hlong hcap
        rw [hlength] at hlong
        omega
      obtain ⟨found, hfound, hwidest⟩ := widestBatch_spec hlimited
        (hacceptable.sublist (List.drop_sublist start inputs)) hnil
        (Nat.min_le_left modelTagBatchSize (inputs.length - start)) 1
        (min modelTagBatchSize (inputs.drop start).length) Nat.one_pos none
        ⟨by omega, hlength ▸ Nat.le_refl _, fun _ => rfl, by rintro _ ⟨⟩, habove⟩
      rw [hfound]
      cases found with
      | none =>
        refine .inr ⟨rfl, inputs[start], List.getElem_mem hstart, ?_⟩
        have hone := hwidest.none rfl 1 Nat.one_pos (by
          rw [Nat.le_min]
          exact ⟨by decide, by omega⟩)
        rwa [List.drop_eq_getElem_cons hstart, List.take_succ_cons, List.take_zero] at hone
      | some selected =>
        have hpositive := selected.positive
        dsimp only
        rw [List.drop_drop]
        rcases ih (inputs.length - (start + selected.length)) (by omega) (start + selected.length)
          rfl with ⟨plans, hplans, hcovers⟩ | ⟨herror, hlarge⟩
        · rw [hplans]
          exact .inl ⟨_, rfl, hcovers.cons hstart hwidest⟩
        · rw [herror]
          exact .inr ⟨rfl, hlarge⟩

end Planning

/-! ## Answers -/

section Answers

variable {doubles : Doubles} {predictionKinds : Json → Option (List String)}
  {entries : List (String × String)} {decode : Json → Except String ModelTaggerOutput}
  {inputs : List Json} {batch : ModelTaggerBatch}

theorem evidenceIds_insert (track : JsonObject) (number : Json) :
    evidenceIds predictionKinds (.object (track.insert "track_id" number)) =
      evidenceIds predictionKinds (.object track) := by
  have hget : ∀ key, key ≠ "track_id" →
      (Json.object (track.insert "track_id" number)).get key = (Json.object track).get key := by
    intro key hkey
    change (track.insert "track_id" number).get key = track.get key
    rw [JsonObject.get_insert, if_neg hkey]
  have hmetadata : metadataIds (.object (track.insert "track_id" number)) =
      metadataIds (.object track) := by
    unfold metadataIds
    congr 1
    refine List.filter_congr fun key hkey => ?_
    rw [hget key]
    rintro rfl
    exact absurd hkey (by decide)
  unfold evidenceIds suppliedIds predictionIds contextIds catalogIds
  rw [hmetadata, hget "audio_predictions" (by decide), hget "context_evidence" (by decide),
    hget "catalog_evidence" (by decide)]

theorem evidenceIds_numberedTrack {input : Json}
    (h : (inputId doubles predictionKinds input).isSome = true) (number : ℕ) :
    evidenceIds predictionKinds (numberedTrack doubles predictionKinds input number) =
      ownEvidence doubles predictionKinds input := by
  unfold inputId at h
  unfold numberedTrack ownEvidence
  cases htrack : normalizeTrackInput doubles predictionKinds input with
  | error error =>
    rw [htrack] at h
    cases h
  | ok track => exact evidenceIds_insert track _

/-- What is cited for a tag is evidence of the track. -/
def Cites (available : List String) (output : ModelTagTrackOutput) : Prop :=
  ∀ decision ∈ output.decisions, ∀ id ∈ decision.evidenceIds ++ decision.contradictionIds,
    id ∈ available

theorem nameDecisions_cites {available : List String} {index : ℕ}
    {choices : List ModelTagDecisionChoice} {decisions : List TagDecision}
    (h : nameDecisions entries index choices = .ok decisions)
    (hchoices : ∀ choice ∈ choices, ∀ id ∈ choice.evidenceIds ++ choice.contradictionIds,
      id ∈ available) :
    ∀ decision ∈ decisions, ∀ id ∈ decision.evidenceIds ++ decision.contradictionIds,
      id ∈ available := by
  induction choices generalizing decisions with
  | nil =>
    cases h
    exact fun _ hmem => absurd hmem List.not_mem_nil
  | cons choice rest ih =>
    unfold nameDecisions at h
    split at h
    · cases h
    · cases hrest : nameDecisions entries index rest with
      | error error =>
        rw [hrest] at h
        cases h
      | ok others =>
        rw [hrest] at h
        cases h
        intro decision hmem
        rcases List.mem_cons.mp hmem with rfl | hother
        · exact hchoices choice List.mem_cons_self
        · exact ih hrest (fun choice hmem => hchoices choice (List.mem_cons_of_mem _ hmem))
            decision hother

theorem validateTrackChoice_cites {choice : ModelTagTrackChoice} {input : Json}
    (h : validateTrackChoice predictionKinds choice input = .ok ()) :
    ∀ decision ∈ choice.decisions, ∀ id ∈ decision.evidenceIds ++ decision.contradictionIds,
      id ∈ evidenceIds predictionKinds input := by
  unfold validateTrackChoice at h
  dsimp only at h
  have hany : (choice.decisions.any fun decision => !validSupport decision.evidence
      decision.evidenceIds decision.contradictionIds
        (evidenceIds predictionKinds input)) = false := by
    by_contra hsome
    rw [Bool.not_eq_false] at hsome
    rw [hsome, Bool.or_true, if_pos rfl] at h
    cases h
  intro decision hdecision id hid
  have hsupport : validSupport decision.evidence decision.evidenceIds decision.contradictionIds
      (evidenceIds predictionKinds input) = true := by
    have hunsupported := List.any_eq_false.mp hany decision hdecision
    simpa using hunsupported
  unfold validSupport refsValid at hsupport
  simp only [Bool.and_eq_true, List.all_eq_true, decide_eq_true_iff] at hsupport
  rcases List.mem_append.mp hid with hid | hid
  · exact hsupport.1.1.2.2 id hid
  · exact hsupport.1.2.2 id hid

/-- The choices so far are recorded under the ids of their slots, and nothing else is. -/
structure Resolved (batch : ModelTaggerBatch) (predictionKinds : Json → Option (List String))
    (choices : List ModelTagTrackChoice) (resolved : BTreeMap ℤ ModelTagTrackOutput) : Prop where
  keys : ∀ id, id ∈ resolved ↔ ∃ choice ∈ choices,
    (batch.trackIds[(choice.trackId - 1).toNat]?).getD 0 = id
  outputs : ∀ id output, resolved[id]? = some output → output.trackId = id ∧
    ∃ choice ∈ choices, (batch.trackIds[(choice.trackId - 1).toNat]?).getD 0 = id ∧
      Cites (evidenceIds predictionKinds
        ((batch.tracks[(choice.trackId - 1).toNat]?).getD .null)) output

theorem resolveTracks_spec {front choices : List ModelTagTrackChoice} {index : ℕ}
    {start resolved : BTreeMap ℤ ModelTagTrackOutput}
    (hstart : Resolved batch predictionKinds front start)
    (h : resolveTracks predictionKinds entries batch index choices start = .ok resolved) :
    Resolved batch predictionKinds (front ++ choices) resolved := by
  induction choices generalizing front index start with
  | nil =>
    cases h
    rwa [List.append_nil]
  | cons choice rest ih =>
    have hsplit : front ++ choice :: rest = front ++ [choice] ++ rest := by simp
    unfold resolveTracks at h
    dsimp only at h
    split at h
    · cases h
    · next hvalid =>
      split at h
      · cases h
      · next decisions hdecisions =>
        rw [hsplit]
        refine ih ⟨fun id => ?_, fun id output hget => ?_⟩ h
        · rw [Std.ExtTreeMap.mem_insert, Std.compare_eq_iff_eq, hstart.keys]
          simp only [List.mem_append, List.mem_singleton, or_and_right, exists_or,
            exists_eq_left]
          exact or_comm
        · rw [Std.ExtTreeMap.getElem?_insert] at hget
          split at hget
          · next hid =>
            rw [Std.compare_eq_iff_eq] at hid
            cases hget
            refine ⟨hid, choice, List.mem_append_right _ (List.mem_singleton_self choice), hid, ?_⟩
            exact nameDecisions_cites hdecisions (validateTrackChoice_cites hvalid)
          · obtain ⟨hown, earlier, hmem, hslot⟩ := hstart.outputs id output hget
            exact ⟨hown, earlier, List.mem_append_left _ hmem, hslot⟩

theorem Numbers.id (h : Numbers doubles predictionKinds inputs batch) {slot : ℕ} {id : ℤ} :
    batch.trackIds[slot]? = some id ↔
      ∃ input, inputs[slot]? = some input ∧ inputId doubles predictionKinds input = some id := by
  have hget := congrArg (·[slot]?) h.ids
  rw [List.getElem?_map, List.getElem?_map] at hget
  cases hinput : inputs[slot]? with
  | none =>
    rw [hinput, Option.map_none, eq_comm, Option.map_eq_none_iff] at hget
    simp [hget]
  | some input =>
    rw [hinput, Option.map_some, eq_comm, Option.map_eq_some_iff] at hget
    obtain ⟨other, hother, hid⟩ := hget
    rw [hother]
    simp [← hid]

theorem Numbers.track (h : Numbers doubles predictionKinds inputs batch) {slot : ℕ} {input : Json}
    (hinput : inputs[slot]? = some input) :
    batch.tracks[slot]? = some (numberedTrack doubles predictionKinds input (1 + slot)) := by
  rw [h.tracks, List.getElem?_map, List.getElem?_zipIdx, hinput]
  rfl

theorem eq_of_inputId (hacceptable : Acceptable doubles predictionKinds inputs) {left right : Json}
    (hleft : left ∈ inputs) (hright : right ∈ inputs)
    (hid : inputId doubles predictionKinds left = inputId doubles predictionKinds right) :
    left = right :=
  List.inj_on_of_nodup_map hacceptable.distinct hleft hright hid

/-- What is recorded has the ids of the inputs, each with evidence of its own input. -/
structure Recorded (doubles : Doubles) (predictionKinds : Json → Option (List String))
    (inputs : List Json) (recorded : BTreeMap ℤ ModelTagTrackOutput) : Prop where
  keys : ∀ id, id ∈ recorded ↔ some id ∈ inputs.map (inputId doubles predictionKinds)
  own : ∀ input ∈ inputs, ∀ id output, inputId doubles predictionKinds input = some id →
    recorded[id]? = some output →
      output.trackId = id ∧ Cites (ownEvidence doubles predictionKinds input) output

theorem mem_slots {choices : List ModelTagTrackChoice} {count : ℕ}
    (h : (.ofList (choices.map (·.trackId)) : BTreeSet ℤ).toList =
      (.ofList ((List.range' 1 count).map fun slot : ℕ => (slot : ℤ)) : BTreeSet ℤ).toList)
    (slot : ℕ) :
    (∃ choice ∈ choices, 0 < choice.trackId ∧ (choice.trackId - 1).toNat = slot) ↔
      slot < count := by
  have hmem : ∀ id : ℤ, (∃ choice ∈ choices, choice.trackId = id) ↔
      ∃ number, (1 ≤ number ∧ number < 1 + count) ∧ (number : ℤ) = id := by
    intro id
    have hboth : id ∈ (.ofList (choices.map (·.trackId)) : BTreeSet ℤ) ↔
        id ∈ (.ofList ((List.range' 1 count).map fun slot : ℕ => (slot : ℤ)) : BTreeSet ℤ) := by
      rw [← Std.ExtTreeSet.mem_toList, h, Std.ExtTreeSet.mem_toList]
    rw [Std.ExtTreeSet.mem_ofList, Std.ExtTreeSet.mem_ofList, List.contains_iff_mem,
      List.contains_iff_mem, List.mem_map, List.mem_map] at hboth
    simpa only [List.mem_range'_1] using hboth
  constructor
  · rintro ⟨choice, hchoice, hpos, rfl⟩
    obtain ⟨number, hnumber, hid⟩ := (hmem choice.trackId).mp ⟨choice, hchoice, rfl⟩
    omega
  · intro hslot
    obtain ⟨choice, hchoice, hid⟩ := (hmem (slot + 1)).mpr ⟨slot + 1, by omega, by omega⟩
    exact ⟨choice, hchoice, by omega, by omega⟩

theorem finish_eq_ok {answer : StructuredModelResult} {recorded : BTreeMap ℤ ModelTagTrackOutput}
    (h : batch.finish predictionKinds entries decode answer = .ok recorded) :
    ∃ choices : List ModelTagTrackChoice,
      (.ofList (choices.map (·.trackId)) : BTreeSet ℤ).toList =
        (.ofList ((List.range' 1 batch.trackIds.length).map fun slot : ℕ => (slot : ℤ)) :
          BTreeSet ℤ).toList ∧
      Resolved batch predictionKinds choices recorded := by
  unfold ModelTaggerBatch.finish at h
  split at h
  · cases h
  · split at h
    · cases h
    · split at h
      · cases h
      · split at h
        · cases h
        · next output _ =>
          split at h
          · cases h
          · dsimp only at h
            split at h
            · cases h
            · next hslots =>
              rw [not_or, not_not, not_not] at hslots
              have hempty : Resolved batch predictionKinds [] ∅ := by
                refine ⟨fun id => ?_, fun id output hget => ?_⟩
                · simp
                · rw [Std.ExtTreeMap.getElem?_empty] at hget
                  cases hget
              have hresolved := resolveTracks_spec hempty h
              exact ⟨output.tracks, hslots.2, hresolved⟩

theorem finish_spec (hacceptable : Acceptable doubles predictionKinds inputs)
    (hbatch : Numbers doubles predictionKinds inputs batch) {answer : StructuredModelResult}
    {recorded : BTreeMap ℤ ModelTagTrackOutput}
    (h : batch.finish predictionKinds entries decode answer = .ok recorded) :
    Recorded doubles predictionKinds inputs recorded := by
  obtain ⟨choices, hslots, hresolved⟩ := finish_eq_ok h
  -- the slot of a choice is one of the batch, so its id and its track are there
  have hslot : ∀ choice ∈ choices, (choice.trackId - 1).toNat < batch.trackIds.length := by
    intro choice hchoice
    have hpos : 0 < choice.trackId := by
      have hmem : choice.trackId ∈ (.ofList (choices.map (·.trackId)) : BTreeSet ℤ) := by
        rw [Std.ExtTreeSet.mem_ofList, List.contains_iff_mem]
        exact List.mem_map_of_mem hchoice
      rw [← Std.ExtTreeSet.mem_toList, hslots, Std.ExtTreeSet.mem_toList,
        Std.ExtTreeSet.mem_ofList, List.contains_iff_mem, List.mem_map] at hmem
      obtain ⟨number, hnumber, hid⟩ := hmem
      rw [List.mem_range'_1] at hnumber
      omega
    exact (mem_slots hslots _).mp ⟨choice, hchoice, hpos, rfl⟩
  have hat : ∀ choice ∈ choices, ∃ input id, inputs[(choice.trackId - 1).toNat]? = some input ∧
      inputId doubles predictionKinds input = some id ∧
        (batch.trackIds[(choice.trackId - 1).toNat]?).getD 0 = id := by
    intro choice hchoice
    have hget := List.getElem?_eq_getElem (hslot choice hchoice)
    obtain ⟨input, hinput, hid⟩ := hbatch.id.mp hget
    exact ⟨input, _, hinput, hid, by rw [hget]; rfl⟩
  refine ⟨fun id => ?_, fun input hinput id output hid hget => ?_⟩
  · rw [hresolved.keys, List.mem_map]
    constructor
    · rintro ⟨choice, hchoice, rfl⟩
      obtain ⟨input, id, hinput, hid, hslotId⟩ := hat choice hchoice
      exact ⟨input, List.mem_of_getElem? hinput, hslotId ▸ hid⟩
    · rintro ⟨input, hinput, hid⟩
      obtain ⟨slot, hinput⟩ := List.mem_iff_getElem?.mp hinput
      have hget := hbatch.id.mpr ⟨input, hinput, hid⟩
      obtain ⟨hlt, -⟩ := List.getElem?_eq_some_iff.mp hget
      obtain ⟨choice, hchoice, -, rfl⟩ := (mem_slots hslots slot).mpr hlt
      exact ⟨choice, hchoice, by rw [hget]; rfl⟩
  · obtain ⟨hown, choice, hchoice, hslotId, hcites⟩ := hresolved.outputs id output hget
    obtain ⟨other, otherId, hother, hotherId, hsame⟩ := hat choice hchoice
    have heq : other = input := by
      refine eq_of_inputId hacceptable (List.mem_of_getElem? hother) hinput ?_
      rw [hotherId, hid, ← hsame, hslotId]
    subst heq
    rw [hbatch.track hother, Option.getD_some,
      evidenceIds_numberedTrack (hacceptable.numbered other hinput)] at hcites
    exact ⟨hown, hcites⟩

def unionOf (results : List (BTreeMap ℤ ModelTagTrackOutput)) : BTreeMap ℤ ModelTagTrackOutput :=
  results.foldl (fun recorded result => recorded ∪ result) ∅

theorem mem_unionOf {results : List (BTreeMap ℤ ModelTagTrackOutput)} {id : ℤ} :
    id ∈ unionOf results ↔ ∃ result ∈ results, id ∈ result := by
  induction results using List.reverseRecOn with
  | nil => simp [unionOf]
  | append_singleton results result ih =>
    unfold unionOf at *
    rw [List.foldl_append, List.foldl_cons, List.foldl_nil, Std.ExtTreeMap.mem_union_iff, ih]
    simp only [List.mem_append, List.mem_singleton, or_and_right, exists_or, exists_eq_left]

theorem getElem?_unionOf {results : List (BTreeMap ℤ ModelTagTrackOutput)} {id : ℤ}
    {output : ModelTagTrackOutput} (h : (unionOf results)[id]? = some output) :
    ∃ result ∈ results, result[id]? = some output := by
  induction results using List.reverseRecOn with
  | nil => simp [unionOf] at h
  | append_singleton results result ih =>
    unfold unionOf at *
    rw [List.foldl_append, List.foldl_cons, List.foldl_nil, Std.ExtTreeMap.getElem?_union,
      Option.or_eq_some_iff] at h
    rcases h with hlast | ⟨-, hearlier⟩
    · exact ⟨result, List.mem_append_right _ (List.mem_singleton_self result), hlast⟩
    · obtain ⟨earlier, hmem, hget⟩ := ih hearlier
      exact ⟨earlier, List.mem_append_left _ hmem, hget⟩

end Answers

/-! ## The whole run -/

section Run

variable {doubles : Doubles} {predictionKinds : Json → Option (List String)}
  {validate : ModelTaggerBatch → Bool → Except ModelTaskError Unit}
  {entries : List (String × String)} {decode : Json → Except String ModelTaggerOutput}
  {inputs : List Json} {plans : List PlannedTaggerBatch}

def sliceOf (inputs : List Json) (plan : PlannedTaggerBatch) : List Json :=
  (inputs.drop plan.start).take plan.length

theorem sliceOf_sublist (plan : PlannedTaggerBatch) : (sliceOf inputs plan).Sublist inputs :=
  (List.take_sublist _ _).trans (List.drop_sublist _ _)

theorem mem_sliceOf {plan : PlannedTaggerBatch} {input : Json} :
    input ∈ sliceOf inputs plan ↔
      ∃ place ∈ List.range' plan.start plan.length, inputs[place]? = some input := by
  unfold sliceOf
  rw [List.mem_iff_getElem?]
  simp only [List.getElem?_take, List.getElem?_drop, List.mem_range'_1]
  constructor
  · rintro ⟨offset, hget⟩
    split at hget
    · exact ⟨plan.start + offset, by omega, hget⟩
    · cases hget
  · rintro ⟨place, hplace, hget⟩
    refine ⟨place - plan.start, ?_⟩
    rw [if_pos (by omega), show plan.start + (place - plan.start) = place by omega, hget]

theorem Covers.mem (h : Covers doubles predictionKinds validate inputs 0 plans) {input : Json} :
    input ∈ inputs ↔ ∃ plan ∈ plans, input ∈ sliceOf inputs plan := by
  constructor
  · intro hinput
    obtain ⟨place, hget⟩ := List.mem_iff_getElem?.mp hinput
    obtain ⟨hlt, -⟩ := List.getElem?_eq_some_iff.mp hget
    have hplace : place ∈ plans.flatMap fun plan => List.range' plan.start plan.length := by
      rw [h.ranges, List.mem_range'_1]
      omega
    obtain ⟨plan, hplan, hrange⟩ := List.mem_flatMap.mp hplace
    exact ⟨plan, hplan, mem_sliceOf.mpr ⟨place, hrange, hget⟩⟩
  · rintro ⟨plan, -, hslice⟩
    exact (sliceOf_sublist plan).subset hslice

theorem Covers.numbers (hacceptable : Acceptable doubles predictionKinds inputs)
    (h : Covers doubles predictionKinds validate inputs 0 plans) {plan : PlannedTaggerBatch}
    (hplan : plan ∈ plans) : Numbers doubles predictionKinds (sliceOf inputs plan) plan.task := by
  have hmade := h.made plan hplan
  have hslice : (sliceOf inputs plan) ≠ [] := by
    intro hnil
    unfold sliceOf at hnil
    rw [hnil] at hmade
    cases hmade
  obtain ⟨task, htask, hnumbers⟩ := new_numbers (hacceptable.sublist (sliceOf_sublist plan)) hslice
    ((List.length_take_le _ _).trans (h.sizes plan hplan).2)
  unfold sliceOf at htask
  rw [hmade] at htask
  cases htask
  exact hnumbers

theorem Covers.single (hlimited : SizeLimited doubles predictionKinds validate)
    (h : Covers doubles predictionKinds validate inputs 0 plans) {input : Json}
    (hinput : input ∈ inputs) : BatchFits doubles predictionKinds validate [input] := by
  obtain ⟨plan, hplan, hslice⟩ := h.mem.mp hinput
  refine hlimited.shortened (sliceOf inputs plan) [input] (List.cons_ne_nil _ _) ?_
    ⟨plan.task, h.made plan hplan, h.valid plan hplan⟩
  obtain ⟨front, back, hsplit⟩ := List.append_of_mem hslice
  exact ⟨front, back, by rw [hsplit, List.append_assoc, List.singleton_append]⟩

theorem Covers.recorded (hacceptable : Acceptable doubles predictionKinds inputs)
    (h : Covers doubles predictionKinds validate inputs 0 plans)
    {results : List (BTreeMap ℤ ModelTagTrackOutput)}
    (hresults : List.Forall₂ (fun (plan : PlannedTaggerBatch) result =>
      ∃ answer, plan.task.finish predictionKinds entries decode answer = .ok result) plans
        results) :
    Recorded doubles predictionKinds inputs (unionOf results) := by
  have hrecorded : List.Forall₂ (fun (plan : PlannedTaggerBatch) result =>
      plan ∈ plans ∧ Recorded doubles predictionKinds (sliceOf inputs plan) result)
        plans results := by
    refine List.forall₂_iff_zip.mpr ⟨hresults.length_eq, fun {plan result} hpair => ?_⟩
    obtain ⟨answer, hanswer⟩ := (List.forall₂_iff_zip.mp hresults).2 hpair
    have hplan := (List.of_mem_zip hpair).1
    exact ⟨hplan, finish_spec (hacceptable.sublist (sliceOf_sublist plan))
      (h.numbers hacceptable hplan) hanswer⟩
  have hof : ∀ result ∈ results, ∃ plan ∈ plans,
      Recorded doubles predictionKinds (sliceOf inputs plan) result := by
    intro result hresult
    obtain ⟨plan, hplan, -, hslice⟩ := Cleanup.forall₂_mem_right hrecorded hresult
    exact ⟨plan, hplan, hslice⟩
  refine ⟨fun id => ?_, fun input hinput id output hid hget => ?_⟩
  · rw [mem_unionOf]
    constructor
    · rintro ⟨result, hresult, hmem⟩
      obtain ⟨plan, -, hslice⟩ := hof result hresult
      obtain ⟨input, hinput, hid⟩ := List.mem_map.mp ((hslice.keys id).mp hmem)
      exact List.mem_map.mpr ⟨input, (sliceOf_sublist plan).subset hinput, hid⟩
    · intro hmem
      obtain ⟨input, hinput, hid⟩ := List.mem_map.mp hmem
      obtain ⟨plan, hplan, hslice⟩ := h.mem.mp hinput
      obtain ⟨result, hresult, -, hrecords⟩ :=
        Cleanup.forall₂_mem_right hrecorded.flip hplan
      exact ⟨result, hresult, (hrecords.keys id).mpr (List.mem_map.mpr ⟨input, hslice, hid⟩)⟩
  · obtain ⟨result, hresult, hget⟩ := getElem?_unionOf hget
    obtain ⟨plan, -, hslice⟩ := hof result hresult
    have hmem : id ∈ result := Std.ExtTreeMap.mem_iff_isSome_getElem?.mpr (by rw [hget]; rfl)
    obtain ⟨other, hother, hotherId⟩ := List.mem_map.mp ((hslice.keys id).mp hmem)
    have heq : other = input := eq_of_inputId hacceptable ((sliceOf_sublist plan).subset hother)
      hinput (hotherId.trans hid.symm)
    exact hslice.own input (heq ▸ hother) id output hid hget

/-- The batches partition the inputs, or some single track is too large; and the answers that the
batches take record every input once, with evidence of its own. -/
theorem batches_partition (hlimited : SizeLimited doubles predictionKinds validate)
    (hacceptable : Acceptable doubles predictionKinds inputs) :
    ((∃ plans, planModelTaggerBatches doubles predictionKinds validate 0 inputs = .ok plans ∧
        Covers doubles predictionKinds validate inputs 0 plans ∧
        ∀ results, List.Forall₂ (fun (plan : PlannedTaggerBatch) result =>
            ∃ answer, plan.task.finish predictionKinds entries decode answer = .ok result)
          plans results → Recorded doubles predictionKinds inputs (unionOf results)) ∨
      planModelTaggerBatches doubles predictionKinds validate 0 inputs = .error requestTooLarge) ∧
    (planModelTaggerBatches doubles predictionKinds validate 0 inputs = .error requestTooLarge ↔
      ∃ input ∈ inputs, ¬ BatchFits doubles predictionKinds validate [input]) := by
  have hspec := planModelTaggerBatches_spec hlimited hacceptable 0
  rw [List.drop_zero] at hspec
  rcases hspec with ⟨plans, hplans, hcovers⟩ | ⟨herror, hlarge⟩
  · refine ⟨.inl ⟨plans, hplans, hcovers, fun results => hcovers.recorded hacceptable⟩, ?_⟩
    rw [hplans]
    exact ⟨nofun, fun ⟨input, hinput, hlarge⟩ => absurd (hcovers.single hlimited hinput) hlarge⟩
  · exact ⟨.inr herror, fun _ => hlarge, fun _ => herror⟩

end Run

/-! ## One track a request -/

def sendsSingles : ModelTaggerBatch → Bool → Except ModelTaskError Unit :=
  fun task _ => if task.trackIds.length ≤ 1 then .ok () else .error requestTooLarge

theorem addTracks_length {doubles : Doubles} {predictionKinds : Json → Option (List String)}
    {inputs : List Json} {batch full : ModelTaggerBatch}
    (h : addTracks doubles predictionKinds batch inputs = .ok full) :
    full.trackIds.length = batch.trackIds.length + inputs.length := by
  induction inputs generalizing batch with
  | nil =>
    obtain rfl := Except.ok.inj h
    rfl
  | cons input rest ih =>
    unfold addTracks at h
    split at h
    · cases h
    · split at h
      · cases h
      · split at h
        · cases h
        · have hrest := ih h
          rw [List.length_append, List.length_singleton] at hrest
          rw [hrest, List.length_cons]
          omega

theorem sendsSingles_limited (doubles : Doubles) (predictionKinds : Json → Option (List String)) :
    SizeLimited doubles predictionKinds sendsSingles := by
  refine ⟨fun task correction error h => ?_, fun inputs taken hne hinfix hfits => ?_⟩
  · unfold sendsSingles at h
    split at h
    · cases h
    · exact (Except.error.inj h).symm
  · obtain ⟨task, hnew, hfirst, -⟩ := id hfits
    have hlength : inputs.length ≤ 1 := by
      unfold ModelTaggerBatch.new at hnew
      split at hnew
      · cases hnew
      · have hfull := addTracks_length hnew
        unfold sendsSingles at hfirst
        split at hfirst
        · next hroom => rw [hfull] at hroom; exact (Nat.zero_add inputs.length) ▸ hroom
        · cases hfirst
    have hpos : 0 < taken.length := List.length_pos_of_ne_nil hne
    have hsame : taken = inputs := hinfix.eq_of_length_le (by omega)
    exact hsame ▸ hfits

def twoInputs : List Json :=
  [shortArtist.input plainDoubles noPredictions plainPolicy,
    (artistTrack ⟨2, TrackId.two_pos⟩ ⟨"d.mp3".toList, by decide⟩ "Other").input plainDoubles
      noPredictions plainPolicy]

/-- Two tracks where a request has room for one. -/
theorem batches_partition_singles :
    ∃ plans, planModelTaggerBatches plainDoubles noPredictions sendsSingles 0 twoInputs =
      .ok plans ∧
      Covers plainDoubles noPredictions sendsSingles twoInputs 0 plans := by
  have hacceptable : Acceptable plainDoubles noPredictions twoInputs :=
    ⟨by decide +kernel, by decide +kernel⟩
  obtain ⟨⟨plans, hplans, hcovers, -⟩ | herror, hlarge⟩ :=
    @batches_partition plainDoubles noPredictions sendsSingles [] (fun _ => .error "") twoInputs
      (sendsSingles_limited _ _) hacceptable
  · exact ⟨plans, hplans, hcovers⟩
  · obtain ⟨input, hinput, hsingle⟩ := hlarge.mp herror
    have halone : Acceptable plainDoubles noPredictions [input] :=
      hacceptable.sublist (List.singleton_sublist.mpr hinput)
    obtain ⟨task, hnew, hnumbers⟩ := new_numbers halone (List.cons_ne_nil _ _)
      (by rw [List.length_singleton]; decide)
    have hroom : task.trackIds.length ≤ 1 := by rw [hnumbers.length]; rfl
    exact absurd ⟨task, hnew, if_pos hroom, if_pos hroom⟩ hsingle

end MusicServer.Tagging
