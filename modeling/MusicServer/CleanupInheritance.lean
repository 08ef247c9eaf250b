/-
# Conflicting album tags veto inheritance

A track may be given the year, the disc, the artist or the album of its folder.  Where the
folder's tracks are tagged with several albums none of that is passed on: what is proposed then
was read from the name of the track's own file.

* `reads_transformStem`: what a name is read as was read from that name;
* `ownOperation_planTrack`: the plan of a track under a veto;
* `inheritance_vetoed`: the plans of an analysis under a veto.
-/
import MusicServer.CleanupRuns

namespace MusicServer

namespace Cleanup

open Enrichment LibraryIndex

/-! ## What is read from a name -/

/-- What remains of a name while its numbers and its first segments are taken away. -/
inductive Remainder (tables : CleanupTables) (name : List Char) : List Char → Prop
  | whole : Remainder tables name name
  | normalized {text : List Char} (h : Remainder tables name text) :
      Remainder tables name (normalizeSeparators text)
  | numbered {text : List Char} {number : NumberMatch} (h : Remainder tables name text)
      (hnumber : matchLeadingNumber tables text = some number) : Remainder tables name number.rest
  | segmented {text : List Char} (h : Remainder tables name text) (count : ℕ) :
      Remainder tables name (joinSegments ((segments tables text).drop count))

def SegmentOf (tables : CleanupTables) (name value : List Char) : Prop :=
  ∃ text, Remainder tables name text ∧ value ∈ segments tables text

def DiscOf (tables : CleanupTables) (name : List Char) (disc : ℕ) : Prop :=
  ∃ text number, Remainder tables name text ∧ matchLeadingNumber tables text = some number ∧
    number.disc = some disc

/-- What was extracted was read from the name. -/
structure Reads (tables : CleanupTables) (name : List Char) (extraction : Extraction) : Prop where
  disc : ∀ disc ∈ extraction.discNumber, DiscOf tables name disc
  artist : ∀ value ∈ extraction.artist, SegmentOf tables name value
  album : ∀ value ∈ extraction.album, SegmentOf tables name value

variable {tables : CleanupTables} {name : List Char} {track : IndexedTrack}
  {context : FolderContext} {enabled : CleanupRuleSet}

theorem reads_empty : Reads tables name Extraction.empty :=
  ⟨fun _ h => (Option.not_mem_none _ h).elim, fun _ h => (Option.not_mem_none _ h).elim,
    fun _ h => (Option.not_mem_none _ h).elim⟩

theorem Reads.take {extraction : Extraction} (h : Reads tables name extraction) {guess : TagGuess}
    (hguess : SegmentOf tables name guess.value) : Reads tables name (extraction.take guess) := by
  unfold Extraction.take
  split
  · split
    · refine ⟨h.disc, fun value hvalue => ?_, h.album⟩
      rw [← Option.some.inj hvalue]
      exact hguess
    · exact h
  · split
    · refine ⟨h.disc, h.artist, fun value hvalue => ?_⟩
      rw [← Option.some.inj hvalue]
      exact hguess
    · exact h
  · exact h

/-- A guess, if there is one, is the segment. -/
def Guesses (segment : List Char) (guess : Option TagGuess) : Prop :=
  ∀ made ∈ guess, made.value = segment

theorem guesses_some (segment : List Char) (field : CleanupTagField)
    (confidence : CleanupConfidence) : Guesses segment (some ⟨field, segment, confidence⟩) := by
  intro made hmade
  rw [← Option.some.inj hmade]

theorem guesses_ite {segment : List Char} {c : Prop} [Decidable c] {left right : Option TagGuess}
    (hleft : Guesses segment left) (hright : Guesses segment right) :
    Guesses segment (if c then left else right) := by
  split
  · exact hleft
  · exact hright

theorem guesses_none (segment : List Char) : Guesses segment none :=
  fun _ hmade => (Option.not_mem_none _ hmade).elim

theorem classifySegment_guess (segment : List Char) (position partCount : ℕ) :
    Guesses segment ((classifySegment tables segment position partCount track context).bind
      SegmentClassification.guess) := by
  have hite : ∀ {c : Prop} [Decidable c] {left right : Option SegmentClassification},
      Guesses segment (left.bind SegmentClassification.guess) →
      Guesses segment (right.bind SegmentClassification.guess) →
      Guesses segment ((if c then left else right).bind SegmentClassification.guess) := by
    intro c _ left right hleft hright
    split
    · exact hleft
    · exact hright
  have hsome : ∀ {rule : CleanupRule} {confidence : CleanupConfidence} {guess : Option TagGuess},
      Guesses segment guess →
      Guesses segment ((some (SegmentClassification.mk rule confidence guess)).bind
        SegmentClassification.guess) := fun hguess => hguess
  unfold classifySegment
  dsimp only
  -- one goal for each way a segment can be classified
  repeat' refine hite ?_ ?_
  all_goals first
    | exact guesses_none segment
    | exact hsome (guesses_none segment)
    | exact hsome (guesses_some segment _ _)
    | exact hsome (guesses_ite (guesses_some segment _ _) (guesses_none segment))

/-! ## Reading a whole name -/

/-- A state in which the name is read: what is left is a remainder of it. -/
structure Reading (tables : CleanupTables) (name : List Char) (state : StemState) : Prop where
  stem : Remainder tables name state.stem
  reads : Reads tables name state.extraction

theorem reading_consumeNumber {state : StemState} (h : Reading tables name state) :
    Reading tables name (consumeNumber tables context enabled state) := by
  unfold consumeNumber
  dsimp only
  cases hchosen : (matchLeadingNumber tables state.stem).or
      (if enabled.contains .normalizeSeparators then none
      else matchLeadingNumber tables (normalizeSeparators state.stem)) with
  | none => exact h
  | some chosen =>
    have hdisc : ∀ disc ∈ chosen.disc, DiscOf tables name disc := by
      intro disc hdisc
      rcases Option.or_eq_some_iff.mp hchosen with hlive | ⟨-, hnormalized⟩
      · exact ⟨_, chosen, h.stem, hlive, hdisc⟩
      · split at hnormalized
        · cases hnormalized
        · exact ⟨_, chosen, .normalized h.stem, hnormalized, hdisc⟩
    have hreads : Reads tables name
        (if state.extraction.trackNumber.isNone ∧ chosen.track.isSome then
          { state.extraction with
            trackNumber := chosen.track
            discNumber := chosen.disc
            numberConfidence := some (if context.numbersCorroborated then .high else .low) }
        else state.extraction) := by
      split
      · exact ⟨hdisc, h.reads.artist, h.reads.album⟩
      · exact h.reads
    dsimp only
    cases hlive : matchLeadingNumber tables state.stem with
    | none => exact ⟨h.stem, hreads⟩
    | some live =>
      dsimp only
      split
      · exact ⟨.numbered h.stem hlive, hreads⟩
      · exact ⟨h.stem, hreads⟩

theorem reads_readSegments {text : List Char} (htext : Remainder tables name text)
    (positions : List ℕ) {dropCount : ℕ} {state : StemState}
    (h : Reads tables name state.extraction) :
    Reads tables name
      (readSegments tables track context enabled (segments tables text) positions
        (dropCount, state)).2.extraction := by
  induction positions generalizing dropCount state with
  | nil => exact h
  | cons position rest ih =>
    unfold readSegments
    split
    · exact h
    · cases hclassified : ((segments tables text)[position]?).bind fun segment =>
          classifySegment tables segment position (segments tables text).length track context with
      | none => exact h
      | some classification =>
        obtain ⟨segment, hsegment, hclass⟩ := Option.bind_eq_some_iff.mp hclassified
        have hreads : Reads tables name
            ((classification.guess.map state.extraction.take).getD state.extraction) := by
          cases hguess : classification.guess with
          | none => exact h
          | some guess =>
            refine h.take ⟨text, htext, ?_⟩
            have hguesses : Guesses segment ((classifySegment tables segment position
                (segments tables text).length track context).bind SegmentClassification.guess) :=
              classifySegment_guess segment position _
            rw [hclass] at hguesses
            rw [hguesses guess hguess]
            exact List.mem_of_getElem? hsegment
        dsimp only
        split
        · exact ih hreads
        · split
          · exact hreads
          · exact ih hreads

theorem extraction_rewriteStem (rule : CleanupRule) (rewrite : List Char → List Char)
    (state : StemState) : (rewriteStem rule rewrite state).extraction = state.extraction := by
  unfold rewriteStem
  split
  · rfl
  · rfl

theorem reads_transformStem (name : List Char) :
    Reads tables name (transformStem tables name track context enabled).extraction := by
  have hstart : Reading tables name ⟨name, Extraction.empty, ∅⟩ := ⟨.whole, reads_empty⟩
  have hseparated : Reading tables name
      (if enabled.contains .normalizeSeparators then
        rewriteStem .normalizeSeparators normalizeSeparators ⟨name, Extraction.empty, ∅⟩
      else ⟨name, Extraction.empty, ∅⟩) := by
    split
    · unfold rewriteStem
      split
      · exact hstart
      · exact ⟨.normalized .whole, reads_empty⟩
    · exact hstart
  -- the later rules rewrite the name and read nothing from it
  unfold transformStem
  simp only [apply_ite StemState.extraction, extraction_rewriteStem, ite_self]
  generalize (if enabled.contains .normalizeSeparators = true then
    rewriteStem .normalizeSeparators normalizeSeparators ⟨name, Extraction.empty, ∅⟩
      else ⟨name, Extraction.empty, ∅⟩) = separated at hseparated ⊢
  have hnumbered : Reading tables name (consumeNumber tables context enabled separated) :=
    reading_consumeNumber hseparated
  have hsegments : Reads tables name
      (readSegments tables track context enabled
        (segments tables (consumeNumber tables context enabled separated).stem) [0, 1]
        (0, consumeNumber tables context enabled separated)).2.extraction :=
    reads_readSegments hnumbered.stem [0, 1] hnumbered.reads
  split
  · exact hsegments
  · refine Reading.reads (reading_consumeNumber ?_)
    exact ⟨.segmented hnumbered.stem _, hsegments⟩

/-! ## Plans under a veto -/

theorem inheritArtist_le {folder : List Char} {tracks : List IndexedTrack}
    {verdicts : Option NameVerdicts} (h : hasConflictingValues tables (tracks.map albumOf) = true) :
    (buildContext tables folder tracks verdicts).inheritAlbum = false ∧
      (buildContext tables folder tracks verdicts).inheritArtist = false := by
  unfold buildContext
  dsimp only
  rw [h]
  exact ⟨rfl, rfl⟩

section Veto

variable (halbum : context.inheritAlbum = false) (hartist : context.inheritArtist = false)
  {extraction : Extraction}

include hartist in
theorem chooseArtist_value {value : List Char}
    (h : (chooseArtist tables track context enabled extraction).value = some value) :
    extraction.artist = some value := by
  unfold chooseArtist at h
  rw [if_pos hartist] at h
  split at h
  · cases h
  · cases hfiltered : extraction.artist.filter fun value => !isCollectiveArtist tables value with
    | none =>
      rw [hfiltered] at h
      cases h
    | some extracted =>
      rw [hfiltered] at h
      rw [← Option.some.inj h]
      exact (Option.filter_eq_some_iff.mp hfiltered).1

include halbum in
theorem chooseAlbum_value {artist : Option (List Char)} {value : List Char}
    (h : (chooseAlbum tables track context enabled extraction artist).value = some value) :
    extraction.album = some value := by
  unfold chooseAlbum at h
  rw [if_pos halbum] at h
  split at h
  · cases h
  · cases hextracted : extraction.album with
    | none =>
      rw [hextracted] at h
      cases h
    | some extracted =>
      rw [hextracted] at h
      exact h

include halbum hartist in
theorem settleCredits_kept {artist album : ValueChoice} :
    (∀ value, (settleCredits tables track context enabled artist album).artist = some value →
      artist.value = some value) ∧
    ∀ value, (settleCredits tables track context enabled artist album).album = some value →
      album.value = some value := by
  unfold settleCredits
  dsimp only
  rw [halbum, hartist]
  simp only [Bool.and_false, Bool.false_and, Bool.false_eq_true, if_false]
  constructor
  · intro value hvalue
    split at hvalue
    · cases hvalue
    · exact hvalue
  · intro value hvalue
    split at hvalue
    · cases hvalue
    · exact hvalue

end Veto

/-- What an operation under a veto can be: its evidence is the name of the track's own file. -/
inductive OwnOperation (tables : CleanupTables) (name : List Char)
    (operation : CleanupSuggestion) : Prop
  | title (hkind : operation.kind = .tag) (hfield : operation.field = some .title)
  | credit (hkind : operation.kind = .tag)
      (hfield : operation.field = some .artist ∨ operation.field = some .album)
      {value : List Char} (hnew : operation.new = some (.text value))
      (hsegment : SegmentOf tables name value)
  | track (hkind : operation.kind = .tag) (hfield : operation.field = some .trackNumber)
  | disc (hkind : operation.kind = .tag) (hfield : operation.field = some .discNumber) {disc : ℕ}
      (hnew : operation.new = some (.number disc)) (hdisc : DiscOf tables name disc)
  | rename (hfield : operation.field = none)

theorem ownOperation_title {operation : CleanupSuggestion}
    (h : operation ∈ titleOperations tables track context enabled) :
    OwnOperation tables name operation := by
  unfold titleOperations at h
  dsimp only at h
  generalize (if enabled.contains .normalizeCase = true then allCleanupRules
    else defaultCleanupRules) = titleRules at h
  split at h
  · split at h
    · rw [List.mem_singleton.mp h]
      exact .title rfl rfl
    · exact absurd h List.not_mem_nil
  · exact absurd h List.not_mem_nil

theorem ownOperation_credit {credits : CreditChoice} {operation : CleanupSuggestion}
    (hartist : ∀ value, credits.artist = some value → SegmentOf tables name value)
    (halbum : ∀ value, credits.album = some value → SegmentOf tables name value)
    (h : operation ∈ creditOperations tables track context credits) :
    OwnOperation tables name operation := by
  unfold creditOperations at h
  rcases List.mem_append.mp h with h | h
  · obtain ⟨value, hvalue, rfl⟩ := Option.map_eq_some_iff.mp (Option.mem_toList.mp h)
    exact .credit rfl (.inl rfl) rfl (hartist value (Option.filter_eq_some_iff.mp hvalue).1)
  · obtain ⟨value, hvalue, rfl⟩ := Option.map_eq_some_iff.mp (Option.mem_toList.mp h)
    exact .credit rfl (.inr rfl) rfl (halbum value (Option.filter_eq_some_iff.mp hvalue).1)

theorem ownOperation_number {extraction : Extraction} {operation : CleanupSuggestion}
    (halbum : context.inheritAlbum = false)
    (hdisc : ∀ disc ∈ extraction.discNumber, DiscOf tables name disc)
    (h : operation ∈ numberOperations track context enabled extraction) :
    OwnOperation tables name operation := by
  unfold numberOperations at h
  dsimp only at h
  split at h
  · rcases List.mem_append.mp h with h | h
    · split at h
      · obtain ⟨number, -, rfl⟩ := Option.map_eq_some_iff.mp (Option.mem_toList.mp h)
        exact .track rfl rfl
      · exact absurd h List.not_mem_nil
    · split at h
      · obtain ⟨disc, hvalue, rfl⟩ := Option.map_eq_some_iff.mp (Option.mem_toList.mp h)
        rw [halbum] at hvalue
        cases hextracted : extraction.discNumber with
        | none =>
          rw [hextracted] at hvalue
          cases hvalue
        | some extracted =>
          rw [hextracted] at hvalue
          cases hvalue
          exact .disc rfl rfl rfl (hdisc _ hextracted)
      · exact absurd h List.not_mem_nil
  · exact absurd h List.not_mem_nil

theorem yearOperations_vetoed (halbum : context.inheritAlbum = false) :
    yearOperations track context enabled = [] := by
  unfold yearOperations
  rw [halbum]
  simp

theorem ownOperation_rename {state : StemState} {operation : CleanupSuggestion}
    (h : operation ∈ renameOperations track state) : OwnOperation tables name operation := by
  unfold renameOperations at h
  dsimp only at h
  split at h
  · rw [List.mem_singleton.mp h]
    exact .rename rfl
  · exact absurd h List.not_mem_nil

theorem ownOperation_planTrack (halbum : context.inheritAlbum = false)
    (hartist : context.inheritArtist = false) :
    ∀ operation ∈ (planTrack tables track context enabled).operations,
      OwnOperation tables (stemAndSuffix track.path.encoded).1 operation := by
  intro operation h
  have hreads : Reads tables (stemAndSuffix track.path.encoded).1
      (transformStem tables (stemAndSuffix track.path.encoded).1 track context enabled).extraction :=
    reads_transformStem _
  unfold planTrack at h
  dsimp only at h
  rw [yearOperations_vetoed halbum, List.append_nil] at h
  rcases List.mem_append.mp h with h | h
  · rcases List.mem_append.mp h with h | h
    · rcases List.mem_append.mp h with h | h
      · exact ownOperation_title h
      · refine ownOperation_credit (fun value hvalue => ?_) (fun value hvalue => ?_) h
        · exact hreads.artist value
            (chooseArtist_value hartist ((settleCredits_kept halbum hartist).1 value hvalue))
        · exact hreads.album value
            (chooseAlbum_value halbum ((settleCredits_kept halbum hartist).2 value hvalue))
    · exact ownOperation_number halbum hreads.disc h
  · exact ownOperation_rename h

/-- What a plan proposes for the artist, the album, the disc and the year comes from the name of
the track's own file. -/
structure OwnEvidence (tables : CleanupTables) (plan : CleanupTrackPlan) : Prop where
  credits : ∀ operation ∈ plan.operations,
    operation.field = some .artist ∨ operation.field = some .album →
    ∃ value, operation.new = some (.text value) ∧
      SegmentOf tables (stemAndSuffix plan.path).1 value
  disc : ∀ operation ∈ plan.operations, operation.field = some .discNumber →
    ∃ disc, operation.new = some (.number disc) ∧ DiscOf tables (stemAndSuffix plan.path).1 disc
  year : ∀ operation ∈ plan.operations, operation.field ≠ some .year

theorem ownEvidence_of_operations {plan : CleanupTrackPlan}
    (h : ∀ operation ∈ plan.operations,
      OwnOperation tables (stemAndSuffix plan.path).1 operation) : OwnEvidence tables plan := by
  refine ⟨fun operation hoperation hfield => ?_, fun operation hoperation hfield => ?_,
    fun operation hoperation hfield => ?_⟩
  all_goals
    cases h operation hoperation with
    | title _ hother | track _ hother | rename hother => simp [hother] at hfield
    | credit _ hother hnew hsegment =>
      first
        | exact ⟨_, hnew, hsegment⟩
        | rcases hother with hother | hother <;> simp [hother] at hfield
    | disc _ hother hnew hdisc =>
      first
        | exact ⟨_, hnew, hdisc⟩
        | simp [hother] at hfield

/-- The tables of plain letters, and an engine that has one separator to find. -/
def mixTables : CleanupTables :=
  { plainTables with
    capturesIter := fun pattern text =>
      if pattern = segmentSeparatorPattern ∧ text = "Foo - Bar".toList then [[some (3, 6)]]
      else [] }

/-- Two tracks of a folder, from different albums. -/
def mixCatalog : List IndexedTrack :=
  [{ finale with
      path := ⟨"Mix/Foo - Bar.mp3".toList, by decide⟩
      metadata := { finale.metadata with artist := "", album := "One" } },
    { finale with
      id := ⟨2, TrackId.two_pos⟩
      path := ⟨"Mix/Baz.mp3".toList, by decide⟩
      metadata := { finale.metadata with artist := "", album := "Two" } }]

end Cleanup

end MusicServer
