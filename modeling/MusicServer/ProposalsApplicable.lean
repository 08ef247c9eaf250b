/-
# Proposals and what a cleanup accepts

Which proposals of an enrichment result the preparation of a tag edit takes up.  One operation
is accepted if and only if its field is one that a cleanup edits, its old value is the track's
and its new value fits (`accepted_iff`); what each producer proposes then says which recordings,
editions, imports and choices are applicable.
-/
import MusicServer.TagProposals

namespace MusicServer

namespace Enrichment

open LibraryIndex

/-! ## Texts and dates -/

theorem length_le_utf8ByteSize (text : String) : text.length ≤ text.utf8ByteSize := by
  rw [← String.ofList_toList (s := text), String.length_ofList]
  induction text.toList with
  | nil => exact Nat.zero_le _
  | cons c rest ih =>
    have hsize : (String.ofList (c :: rest)).utf8ByteSize
        = c.utf8Size + (String.ofList rest).utf8ByteSize := by
      rw [← List.singleton_append, String.ofList_append, String.utf8ByteSize_append]
      congr 1
      exact String.utf8ByteSize_singleton
    have hpos := Char.utf8Size_pos c
    rw [hsize, List.length_cons]
    omega

/-- The text can be the value of a tag: it is not too long and has no zero character. -/
def Storable (text : String) : Prop :=
  '\x00' ∉ text.toList ∧ text.length ≤ TrackMetadataPatch.maxTextLength

theorem length_intercalate_dash (parts : List (List Char)) :
    (['-'].intercalate parts).length ≤ (parts.map List.length).sum + parts.length := by
  induction parts with
  | nil => simp
  | cons part rest ih =>
    cases rest with
    | nil => simp
    | cons next others =>
      rw [List.intercalate_cons_cons]
      simp only [List.length_append, List.map_cons, List.sum_cons, List.length_cons,
        List.length_nil] at ih ⊢
      omega

theorem mem_intercalate_dash {c : Char} {parts : List (List Char)}
    (h : c ∈ ['-'].intercalate parts) : c = '-' ∨ ∃ part ∈ parts, c ∈ part := by
  induction parts with
  | nil => simp at h
  | cons part rest ih =>
    cases rest with
    | nil =>
      rw [List.intercalate_singleton] at h
      exact Or.inr ⟨part, List.mem_cons_self, h⟩
    | cons next others =>
      rw [List.intercalate_cons_cons, List.mem_append, List.mem_append, List.mem_singleton] at h
      rcases h with (h | h) | h
      · exact Or.inr ⟨part, List.mem_cons_self, h⟩
      · exact Or.inl h
      · rcases ih h with hdash | ⟨part', hmem, hc⟩
        · exact Or.inl hdash
        · exact Or.inr ⟨part', List.mem_cons_of_mem part hmem, hc⟩

theorem storable_of_metadataDateYear {text : String} (h : (metadataDateYear text).isSome) :
    Storable text := by
  have hjoin : ['-'].intercalate (text.toList.splitOn '-') = text.toList :=
    List.intercalate_splitOn '-'
  unfold metadataDateYear at h
  dsimp only at h
  split at h
  · simp at h
  · next hdigits =>
    rw [Decidable.not_not, List.all_eq_true] at hdigits
    constructor
    · intro hzero
      rw [← hjoin] at hzero
      rcases mem_intercalate_dash hzero with hdash | ⟨part, hpart, hmem⟩
      · exact absurd hdash (by decide)
      · have hdigit := List.all_eq_true.mp (hdigits part hpart) _ hmem
        exact absurd hdigit (by decide)
    · have hlength := length_intercalate_dash (text.toList.splitOn '-')
      rw [hjoin, String.length_toList] at hlength
      have hcount : (text.toList.splitOn '-').length
          = ((text.toList.splitOn '-').map List.length).length := List.length_map _ |>.symm
      rw [hcount] at hlength
      unfold TrackMetadataPatch.maxTextLength
      split at h
      · next hparts _ =>
        rw [hparts] at hlength
        simp only [List.sum_cons, List.sum_nil, List.length_cons, List.length_nil] at hlength
        omega
      · next hparts _ =>
        rw [hparts] at hlength
        simp only [List.sum_cons, List.sum_nil, List.length_cons, List.length_nil] at hlength
        omega
      · next hparts _ =>
        rw [hparts] at hlength
        simp only [List.sum_cons, List.sum_nil, List.length_cons, List.length_nil] at hlength
        omega
      · simp at h

theorem parseU32_toString {number : ℕ} (h : number < 2 ^ 32) :
    parseU32 (toString number).toList = some number := by
  have hdigits : (toString number).toList = Nat.toDigits 10 number := Nat.toList_repr
  have hall : (Nat.toDigits 10 number).all Char.isDigit = true := by
    rw [List.all_eq_true]
    exact fun c hc => Nat.isDigit_of_mem_toDigits (by decide) (by decide) hc
  have hplus : ∀ rest, Nat.toDigits 10 number ≠ '+' :: rest := by
    intro rest hplus
    rw [hplus, List.all_cons] at hall
    exact absurd hall (by simp [Char.isDigit])
  have hvalue : (Nat.toDigits 10 number).foldl
      (fun value c => value * 10 + (c.toNat - '0'.toNat)) 0 = number := by
    have hread := Nat.ofDigitChars_ten_toDigits (n := number)
    rw [Nat.ofDigitChars_eq_foldl] at hread
    simpa only [Nat.mul_comm] using hread
  rw [hdigits]
  unfold parseU32
  split
  next digits _ hmatch => exact absurd hmatch (hplus _)
  dsimp only
  rw [if_neg (by simp [Nat.toDigits_ne_nil, hall]), hvalue, if_pos h]

/-! ## One operation -/

/-- What a preparation may rely on: the track is as the proposal saw it, its file can be read
and the request itself is valid. -/
structure Ready (reads : CleanupReads) (batchId : Option ℤ) (scopeLabel : String)
    (track : IndexedTrack) : Prop where
  found : reads.track track.id = .ok (some track)
  readable : ∀ field, ∃ value, reads.readFileTag track.path field = .ok value
  batch : ∀ id, batchId = some id → 0 < id
  label : scopeLabel.length ≤ maxCleanupScopeLabelChars

def submitted (op : TagOperation) (path : String) : CleanupApplyOperation :=
  ⟨op.trackId.get, .tag, some op.field, op.old, op.new, path⟩

/-- The change of a patch that a proposed value stands for. -/
def proposedChange : Option CleanupInputValue → Option TrackMetadataPatchValue
  | some (.text text) => some (.text text)
  | some (.integer number) => some (.number number.toNat)
  | none => none

/-- The patch sets the field to the proposed value, and no other. -/
def SetsExactly (patch : TrackMetadataPatch) (field : TrackMetadataField)
    (new : Option CleanupInputValue) : Prop :=
  ∃ value, proposedChange new = some value ∧ patch.changes = [(field, value)]

/-- The preparation takes the operation up, and its patch does what the operation says. -/
def Accepted (rules : TextRules) (track : IndexedTrack) (op : TagOperation) : Prop :=
  ∀ reads batchId scopeLabel path, Ready reads batchId scopeLabel track →
    ∃ prepared field patch,
      prepareCleanupTag rules reads batchId scopeLabel (submitted op path) = .ok prepared ∧
        prepared.mutation = .updateTrackMetadata track.id track.path patch ∧
        field.asStr = op.field ∧ SetsExactly patch field op.new

def Applies (track : IndexedTrack) (name : String) (old new : Option CleanupInputValue) : Prop :=
  ∃ field patch, cleanupTagField name = some field ∧
    cleanupValuesMatch (cleanupTrackValue track field) old = true ∧
    cleanupTagPatch field new = .ok patch ∧ SetsExactly patch field new

variable {rules : TextRules} {track : IndexedTrack}
variable {field : TrackMetadataField}

theorem asStr_of_cleanupTagField {name : String} (h : cleanupTagField name = some field) :
    field.asStr = name := by
  unfold cleanupTagField at h
  split_ifs at h <;> (cases h; symm; assumption)

theorem trackIdOf_get (id : TrackId) : trackIdOf id.get = some id := by
  rw [trackIdOf, dif_pos id.positive]

theorem prepareCleanupTag_found {reads : CleanupReads} {batchId : Option ℤ} {scopeLabel : String}
    (hready : Ready reads batchId scopeLabel track) {op : TagOperation} (hid : op.trackId = track.id)
    (path : String) :
    prepareCleanupTag rules reads batchId scopeLabel (submitted op path) =
      match cleanupTagField op.field with
      | none => cleanupSkip op.trackId.get ("unsupported tag field: " ++ rules.debug op.field)
      | some field =>
        prepareTagOf reads batchId scopeLabel (submitted op path) track.id track field := by
  unfold prepareCleanupTag
  rw [show (submitted op path).trackId = track.id.get from congrArg TrackId.get hid, trackIdOf_get]
  dsimp only
  rw [hready.found]
  dsimp only [submitted, Option.getD_some]
  cases cleanupTagField op.field with
  | none | some field => exact hid ▸ rfl

theorem prepareTagOf_eq_ok {reads : CleanupReads} {batchId : Option ℤ} {scopeLabel : String}
    (hready : Ready reads batchId scopeLabel track) {operation : CleanupApplyOperation}
    {field : TrackMetadataField} {patch : TrackMetadataPatch}
    (hold : cleanupValuesMatch (cleanupTrackValue track field) operation.old = true)
    (hpatch : cleanupTagPatch field operation.new = .ok patch) :
    ∃ prepared, prepareTagOf reads batchId scopeLabel operation track.id track field = .ok prepared ∧
      prepared.mutation = .updateTrackMetadata track.id track.path patch := by
  obtain ⟨fileOld, hfile⟩ := hready.readable field
  have hbatch : ¬ (batchId.any fun id => id ≤ 0) = true := by
    rw [Option.any_eq_true]
    rintro ⟨id, hid, hle⟩
    have := hready.batch id hid
    have := of_decide_eq_true hle
    omega
  have hlabel : ¬ maxCleanupScopeLabelChars < scopeLabel.length := not_lt.mpr hready.label
  unfold prepareTagOf
  rw [if_neg (by rw [hold]; decide), hpatch]
  dsimp only
  rw [hfile]
  dsimp only
  rw [CleanupBatchAppend.check, if_neg hbatch, if_neg hlabel]
  exact ⟨_, rfl, rfl⟩

theorem prepareTagOf_ok {reads : CleanupReads} {batchId : Option ℤ} {scopeLabel : String}
    {operation : CleanupApplyOperation} {trackId : TrackId} {prepared : PreparedCleanupTag}
    (h : prepareTagOf reads batchId scopeLabel operation trackId track field = .ok prepared) :
    cleanupValuesMatch (cleanupTrackValue track field) operation.old = true ∧
      ∃ patch, cleanupTagPatch field operation.new = .ok patch ∧
        prepared.mutation = .updateTrackMetadata trackId track.path patch := by
  unfold prepareTagOf at h
  split at h
  · cases h
  · next hold =>
    rw [Bool.not_eq_false] at hold
    refine ⟨hold, ?_⟩
    split at h
    · cases h
    · next patch hpatch =>
      refine ⟨patch, hpatch, ?_⟩
      split at h
      · cases h
      · dsimp only at h
        split at h
        · cases h
        · cases h
          rfl

/-- An index that holds the track and nothing else, and files whose tags are empty. -/
def onlyTrack (track : IndexedTrack) : CleanupReads where
  track id := .ok (if id = track.id then some track else none)
  readFileTag _ _ := .ok none

theorem onlyTrack_ready (track : IndexedTrack) : Ready (onlyTrack track) none "" track where
  found := congrArg Except.ok (if_pos rfl)
  readable _ := ⟨none, rfl⟩
  batch := nofun
  label := Nat.zero_le _

theorem accepted_iff {op : TagOperation} (hid : op.trackId = track.id) :
    Accepted rules track op ↔ Applies track op.field op.old op.new := by
  constructor
  · intro h
    obtain ⟨prepared, field', patch', hprepare, hmutation', hname, hsets⟩ :=
      h _ _ _ "" (onlyTrack_ready track)
    rw [prepareCleanupTag_found (onlyTrack_ready track) hid] at hprepare
    split at hprepare
    · cases hprepare
    · next field hfield =>
      obtain ⟨hold, patch, hpatch, hmutation⟩ := prepareTagOf_ok hprepare
      rw [hmutation'] at hmutation
      cases hmutation
      have hsame : field' = field := by
        have hnames : field'.asStr = field.asStr := by rw [hname, asStr_of_cleanupTagField hfield]
        cases field' <;> cases field <;> first | rfl | exact absurd hnames (by decide)
      rw [hsame] at hsets
      exact ⟨field, patch', hfield, hold, hpatch, hsets⟩
  · rintro ⟨field, patch, hfield, hold, hpatch, hsets⟩ reads batchId scopeLabel path hready
    obtain ⟨prepared, hprepare, hmutation⟩ := @prepareTagOf_eq_ok _ _ _ _ hready
      (submitted op path) _ _ hold hpatch
    refine ⟨prepared, field, patch, ?_, hmutation, asStr_of_cleanupTagField hfield, hsets⟩
    rw [prepareCleanupTag_found hready hid, hfield]
    exact hprepare

/-! ## Values -/

/-- A text goes into a field of texts unless it is too long, has a zero character or is to be a
date and is none. -/
theorem applies_text {name old new : String} (hfield : cleanupTagField name = some field)
    (htext : field.isNumeric = false) (hgenre : field ≠ .genre)
    (hcurrent : cleanupTrackValue track field = some (.text old)) (hnew : new ≠ "") :
    Applies track name (some (.text old)) (some (.text new)) ↔
      Storable new ∧ (TrackMetadataPatch.isDate field = true → (metadataDateYear new).isSome) := by
  have hmaximum : TrackMetadataPatch.maxLength field = TrackMetadataPatch.maxTextLength :=
    if_neg hgenre
  have hpatch : cleanupTagPatch field (some (.text new)) =
      TrackMetadataPatch.empty.insertText field (some new) := by
    rw [cleanupTagPatch, if_neg (by rw [htext]; decide)]
    dsimp only [cleanupInputText]
    rw [if_neg hnew]
  constructor
  · rintro ⟨field', patch, hfield', _, hok, _⟩
    rw [hfield] at hfield'
    cases hfield'
    rw [hpatch, TrackMetadataPatch.insertText, if_neg (by rw [htext]; decide)] at hok
    split_ifs at hok with hzero hdate hlong
    rw [hmaximum, not_lt] at hlong
    refine ⟨⟨hzero, hlong⟩, ?_⟩
    intro hisDate
    rw [Option.isSome_iff_ne_none]
    intro hnone
    exact hdate ⟨hisDate, hnew, hnone⟩
  · rintro ⟨⟨hzero, hlong⟩, hdate⟩
    have hnotDate : ¬ (TrackMetadataPatch.isDate field = true ∧ new ≠ "" ∧
        metadataDateYear new = none) := by
      rintro ⟨hisDate, _, hnone⟩
      have hsome := hdate hisDate
      rw [hnone] at hsome
      cases hsome
    refine ⟨field, ⟨[(field, .text new)], by simp⟩, hfield, ?_, ?_, .text new, rfl, rfl⟩
    · rw [hcurrent, cleanupValuesMatch, decide_eq_true rfl, Bool.true_or]
    · rw [hpatch, TrackMetadataPatch.insertText, if_neg (by rw [htext]; decide)]
      rw [if_neg hzero, if_neg hnotDate, if_neg (by rw [hmaximum]; exact not_lt.mpr hlong)]
      rfl

theorem applies_number {name : String} {old : Option ℕ} {new : ℕ}
    (hfield : cleanupTagField name = some field) (hnumeric : field.isNumeric = true)
    (hcurrent : cleanupTrackValue track field = numberValue old) :
    Applies track name (numberValue old) (some (.integer new)) ↔
      new ≤ TrackMetadataPatch.maxNumericValue := by
  have hpatch : new < 2 ^ 32 → cleanupTagPatch field (some (.integer new)) =
      TrackMetadataPatch.empty.insertNumber field (some new) := by
    intro hsmall
    rw [cleanupTagPatch, if_pos hnumeric, cleanupInputNumber, if_pos (by omega), Int.toNat_natCast]
    rfl
  constructor
  · rintro ⟨field', patch, hfield', _, hok, _⟩
    rw [hfield] at hfield'
    cases hfield'
    by_cases hsmall : new < 2 ^ 32
    · rw [hpatch hsmall, TrackMetadataPatch.insertNumber, if_neg (by rw [hnumeric]; decide)] at hok
      split at hok
      · cases hok
      · next hlarge => exact not_lt.mp hlarge
    · rw [cleanupTagPatch, if_pos hnumeric, cleanupInputNumber, if_neg (by omega)] at hok
      cases hok
  · intro hle
    have hsmall : new < 2 ^ 32 := by
      unfold TrackMetadataPatch.maxNumericValue at hle
      omega
    refine ⟨field, ⟨[(field, .number new)], by simp⟩, hfield, ?_, ?_, .number new, ?_, rfl⟩
    · rw [hcurrent, cleanupValuesMatch, decide_eq_true rfl, Bool.true_or]
    · rw [hpatch hsmall, TrackMetadataPatch.insertNumber, if_neg (by rw [hnumeric]; decide)]
      rw [if_neg (not_lt.mpr hle)]
      rfl
    · rw [proposedChange, Int.toNat_natCast]

theorem not_applies_genre (old new : Option CleanupInputValue) :
    ¬ Applies track "genre" old new := by
  rintro ⟨field, _, hfield, _⟩
  have hnone : cleanupTagField "genre" = none := by decide
  rw [hnone] at hfield
  cases hfield

/-! ## What the catalog proposes -/

/-- The catalog's text is put forward for the field. -/
def TextProposed (rules : TextRules) (name old new : String) : Prop :=
  trim new ≠ "" ∧ old ≠ new ∧
    ¬ (name = "title" ∧ titleSpelling rules old = titleSpelling rules new)

theorem not_textProposed_empty {name old : String} : ¬ TextProposed rules name old "" := by
  rintro ⟨hblank, _⟩
  exact hblank rfl

theorem TextProposed.ne_empty {name old new : String} (h : TextProposed rules name old new) :
    new ≠ "" := by
  rintro rfl
  exact not_textProposed_empty h

variable {kept : String → Bool} {name recordingId : String}

theorem forall_pushTextOperation {old new : String} :
    (∀ op ∈ pushTextOperation rules track name old new recordingId, kept op.field = true →
      Accepted rules track op) ↔
    (kept name = true → TextProposed rules name old new →
      Applies track name (some (.text old)) (some (.text new))) := by
  have hone := @accepted_iff rules track
    (catalogOperation track name (some (.text old)) (some (.text new)) recordingId) rfl
  unfold pushTextOperation
  split
  · next hskip =>
    constructor
    · rintro _ _ ⟨hblank, hne, _⟩
      exact absurd hskip (not_or.mpr ⟨hblank, hne⟩)
    · intro _ op hop
      cases hop
  · next hskip =>
    rw [not_or] at hskip
    split
    · next hspelling =>
      constructor
      · rintro _ _ ⟨_, _, hnot⟩
        exact absurd hspelling hnot
      · intro _ op hop
        cases hop
    · next hspelling =>
      rw [List.forall_mem_singleton, hone]
      exact ⟨fun h hkept _ => h hkept, fun h hkept => h hkept ⟨hskip.1, hskip.2, hspelling⟩⟩

theorem forall_pushNumberOperation {old new : Option ℕ} :
    (∀ op ∈ pushNumberOperation track name old new recordingId, kept op.field = true →
      Accepted rules track op) ↔
    (kept name = true → ∀ number, new = some number → old ≠ some number →
      Applies track name (numberValue old) (some (.integer number))) := by
  unfold pushNumberOperation
  split
  · next hskip =>
    constructor
    · rintro _ _ number rfl hne
      rcases hskip with hskip | hskip
      · cases hskip
      · exact absurd hskip hne
    · intro _ op hop
      cases hop
  · next hskip =>
    rw [not_or] at hskip
    obtain ⟨number, rfl⟩ := Option.ne_none_iff_exists'.mp hskip.1
    rw [List.forall_mem_singleton, accepted_iff rfl]
    constructor
    · rintro h hkept number' hnumber _
      cases hnumber
      exact h hkept
    · intro h hkept
      exact h hkept number rfl hskip.2

/-- What the operations of the recording's own fields rest on. -/
structure RecordingApplies (rules : TextRules) (track : IndexedTrack) (kept : String → Bool)
    (recording : Recording) : Prop where
  genre : kept "genre" = true →
    ¬ TextProposed rules "genre" track.metadata.genre (joinGenres recording.genres)
  title : kept "title" = true →
    TextProposed rules "title" track.metadata.title recording.title → Storable recording.title
  artist : kept "artist" = true →
    TextProposed rules "artist" track.metadata.artist recording.artist → Storable recording.artist
  composer : kept "composer" = true → trim track.metadata.composer = "" →
    TextProposed rules "composer" track.metadata.composer (joinComposers recording.composers) →
      Storable (joinComposers recording.composers)

/-- What the operations of the release's fields rest on. -/
structure ReleaseApplies (rules : TextRules) (track : IndexedTrack) (kept : String → Bool)
    (release : ReleaseDetail) : Prop where
  albumArtist : kept "album_artist" = true →
    TextProposed rules "album_artist" track.metadata.albumArtist release.artist →
      Storable release.artist
  album : kept "album" = true →
    TextProposed rules "album" track.metadata.album release.title → Storable release.title
  trackNo : kept "track_no" = true → ∀ number, release.trackNo = some number →
    track.metadata.trackNo ≠ some number → number ≤ TrackMetadataPatch.maxNumericValue
  discNo : kept "disc_no" = true → ∀ number, release.discNo = some number →
    track.metadata.discNo ≠ some number → number ≤ TrackMetadataPatch.maxNumericValue

theorem forall_pushText_storable (field : TrackMetadataField) {old new : String}
    (hfield : cleanupTagField name = some field) (htext : field.isNumeric = false)
    (hgenre : field ≠ .genre) (hdate : TrackMetadataPatch.isDate field = false)
    (hcurrent : cleanupTrackValue track field = some (.text old)) :
    (∀ op ∈ pushTextOperation rules track name old new recordingId, kept op.field = true →
      Accepted rules track op) ↔
    (kept name = true → TextProposed rules name old new → Storable new) := by
  rw [forall_pushTextOperation]
  refine forall_congr' fun _ => forall_congr' fun hproposed => ?_
  rw [applies_text hfield htext hgenre hcurrent hproposed.ne_empty, hdate]
  simp

theorem forall_pushNumber_small (field : TrackMetadataField) {old new : Option ℕ}
    (hfield : cleanupTagField name = some field) (hnumeric : field.isNumeric = true)
    (hcurrent : cleanupTrackValue track field = numberValue old) :
    (∀ op ∈ pushNumberOperation track name old new recordingId, kept op.field = true →
      Accepted rules track op) ↔
    (kept name = true → ∀ number, new = some number → old ≠ some number →
      number ≤ TrackMetadataPatch.maxNumericValue) := by
  rw [forall_pushNumberOperation]
  refine forall_congr' fun _ => forall_congr' fun number => ?_
  rw [applies_number hfield hnumeric hcurrent]

theorem keptDate_isSome {date : Option String} (h : keptDate date ≠ "") :
    (metadataDateYear (keptDate date)).isSome := by
  unfold keptDate at h ⊢
  cases hfilter : date.filter fun date => (metadataDateYear date).isSome with
  | none =>
    rw [hfilter] at h
    exact absurd rfl h
  | some kept =>
    exact (Option.filter_eq_some_iff.mp hfilter).2

theorem forall_pushDate (field : TrackMetadataField) {old : String} {date : Option String}
    (hfield : cleanupTagField name = some field) (htext : field.isNumeric = false)
    (hgenre : field ≠ .genre) (hcurrent : cleanupTrackValue track field = some (.text old)) :
    ∀ op ∈ pushDateOperation rules track name old (keptDate date) recordingId,
      kept op.field = true → Accepted rules track op := by
  unfold pushDateOperation
  split
  · intro op hop
    cases hop
  · rw [forall_pushTextOperation]
    intro _ hproposed
    have hsome := keptDate_isSome hproposed.ne_empty
    rw [applies_text hfield htext hgenre hcurrent hproposed.ne_empty]
    exact ⟨storable_of_metadataDateYear hsome, fun _ => hsome⟩

theorem metadataOperations_accepted_iff {recording : Recording} {selected : Option ReleaseDetail} :
    (∀ op ∈ metadataOperations rules track (canonicalMetadata recording selected) recordingId,
      kept op.field = true → Accepted rules track op) ↔
    RecordingApplies rules track kept recording ∧
      ∀ release, selected = some release → ReleaseApplies rules track kept release := by
  unfold metadataOperations
  simp only [List.forall_mem_append]
  constructor
  · rintro ⟨⟨⟨⟨⟨⟨⟨⟨⟨hgenre, htitle⟩, hartist⟩, halbumArtist⟩, halbum⟩, htrackNo⟩, hdiscNo⟩, _⟩, _⟩,
      hcomposer⟩
    refine ⟨⟨?_, (forall_pushText_storable .title (by decide) rfl (by decide) rfl rfl).mp htitle,
      (forall_pushText_storable .artist (by decide) rfl (by decide) rfl rfl).mp hartist, ?_⟩, ?_⟩
    · intro hkept hproposed
      exact not_applies_genre _ _ (forall_pushTextOperation.mp hgenre hkept hproposed)
    · intro hkept hblank
      rw [if_pos hblank] at hcomposer
      exact (forall_pushText_storable .composer (by decide) rfl (by decide) rfl rfl).mp hcomposer hkept
    · rintro release rfl
      exact ⟨(forall_pushText_storable .albumArtist (by decide) rfl (by decide) rfl rfl).mp halbumArtist,
        (forall_pushText_storable .album (by decide) rfl (by decide) rfl rfl).mp halbum,
        (forall_pushNumber_small .trackNumber (by decide) rfl rfl).mp htrackNo,
        (forall_pushNumber_small .discNumber (by decide) rfl rfl).mp hdiscNo⟩
  · rintro ⟨hrecording, hrelease⟩
    refine ⟨⟨⟨⟨⟨⟨⟨⟨⟨?_, ?_⟩, ?_⟩, ?_⟩, ?_⟩, ?_⟩, ?_⟩, ?_⟩, ?_⟩, ?_⟩
    · exact forall_pushTextOperation.mpr fun hkept hproposed =>
        absurd hproposed (hrecording.genre hkept)
    · exact (forall_pushText_storable .title (by decide) rfl (by decide) rfl rfl).mpr hrecording.title
    · exact (forall_pushText_storable .artist (by decide) rfl (by decide) rfl rfl).mpr hrecording.artist
    · rw [forall_pushText_storable .albumArtist (by decide) rfl (by decide) rfl rfl]
      rcases selected with _ | release
      · exact fun _ hproposed => absurd hproposed not_textProposed_empty
      · exact (hrelease release rfl).albumArtist
    · rw [forall_pushText_storable .album (by decide) rfl (by decide) rfl rfl]
      rcases selected with _ | release
      · exact fun _ hproposed => absurd hproposed not_textProposed_empty
      · exact (hrelease release rfl).album
    · rw [forall_pushNumber_small .trackNumber (by decide) rfl rfl]
      rcases selected with _ | release
      · nofun
      · exact (hrelease release rfl).trackNo
    · rw [forall_pushNumber_small .discNumber (by decide) rfl rfl]
      rcases selected with _ | release
      · nofun
      · exact (hrelease release rfl).discNo
    · exact forall_pushDate .releaseDate (by decide) rfl (by decide) rfl
    · exact forall_pushDate .originalReleaseDate (by decide) rfl (by decide) rfl
    · split
      · next hblank =>
        rw [forall_pushText_storable .composer (by decide) rfl (by decide) rfl rfl]
        exact fun hkept => hrecording.composer hkept hblank
      · intro op hop
        cases hop

theorem forall_relabelled {operations : List TagOperation} {keep : TagOperation → Bool}
    {relabel : TagOperation → TagOperation}
    (hid : ∀ op, (relabel op).trackId = op.trackId) (hfield : ∀ op, (relabel op).field = op.field)
    (hold : ∀ op, (relabel op).old = op.old) (hnew : ∀ op, (relabel op).new = op.new) :
    (∀ op ∈ (operations.filter keep).map relabel, Accepted rules track op) ↔
      ∀ op ∈ operations, keep op = true → Accepted rules track op := by
  have hsame : ∀ op, Accepted rules track (relabel op) ↔ Accepted rules track op := by
    intro op
    have hsubmitted : ∀ path, submitted (relabel op) path = submitted op path := by
      intro path
      rw [submitted, hid, hfield, hold, hnew, submitted]
    unfold Accepted
    simp only [hsubmitted, hfield, hnew]
  constructor
  · intro h op hop hkeep
    exact (hsame op).mp (h _ (List.mem_map_of_mem (List.mem_filter.mpr ⟨hop, hkeep⟩)))
  · intro h op hop
    obtain ⟨op', hop', rfl⟩ := List.mem_map.mp hop
    obtain ⟨hmem, hkeep⟩ := List.mem_filter.mp hop'
    exact (hsame op').mpr (h op' hmem hkeep)

/-- The fields of an identified track whose operations are kept. -/
def keptIdentified (keepArtist keepAlbumArtist : Bool) (field : String) : Bool :=
  !(keepArtist && field = "artist" || keepAlbumArtist && field = "album_artist")

/-- The fields of an edition whose operations are kept. -/
def keptEdition (keepAlbumArtist : Bool) (field : String) : Bool :=
  !(keepAlbumArtist && field = "album_artist") && isEditionField field

theorem identifiedOperations_accepted_iff {method : IdentityMethod} {recording : Recording}
    {selected : Option ReleaseDetail} {keepArtist keepAlbumArtist : Bool} :
    (∀ op ∈ identifiedOperations rules track recordingId method recording selected keepArtist
      keepAlbumArtist, Accepted rules track op) ↔
    RecordingApplies rules track (keptIdentified keepArtist keepAlbumArtist) recording ∧
      ∀ release, selected = some release →
        ReleaseApplies rules track (keptIdentified keepArtist keepAlbumArtist) release := by
  rw [← @metadataOperations_accepted_iff _ _ _ recordingId]
  exact forall_relabelled (fun _ => rfl) (fun _ => rfl) (fun _ => rfl) fun _ => rfl

theorem recordingApplies_edition {recording : Recording} {keepAlbumArtist : Bool} :
    RecordingApplies rules track (keptEdition keepAlbumArtist) recording := by
  have hother : ∀ field, isEditionField field = false →
      keptEdition keepAlbumArtist field = true → False := by
    intro field hfield hkept
    rw [keptEdition, hfield, Bool.and_false] at hkept
    cases hkept
  exact ⟨fun hkept => (hother _ (by decide) hkept).elim, fun hkept => (hother _ (by decide) hkept).elim,
    fun hkept => (hother _ (by decide) hkept).elim, fun hkept => (hother _ (by decide) hkept).elim⟩

theorem editionOperations_accepted_iff {recording : Recording} {detail : ReleaseDetail}
    {slotId : Option String} {keepAlbumArtist : Bool} :
    (∀ op ∈ editionOperations rules track recordingId recording detail slotId keepAlbumArtist,
      Accepted rules track op) ↔
    ReleaseApplies rules track (keptEdition keepAlbumArtist) detail := by
  have hrelabelled : (∀ op ∈ editionOperations rules track recordingId recording detail slotId
      keepAlbumArtist, Accepted rules track op) ↔
      ∀ op ∈ metadataOperations rules track (canonicalMetadata recording (some detail)) recordingId,
        keptEdition keepAlbumArtist op.field = true → Accepted rules track op :=
    forall_relabelled (fun _ => rfl) (fun _ => rfl) (fun _ => rfl) fun _ => rfl
  rw [hrelabelled, metadataOperations_accepted_iff]
  constructor
  · rintro ⟨_, hrelease⟩
    exact hrelease detail rfl
  · intro hrelease
    refine ⟨recordingApplies_edition, ?_⟩
    rintro release hsome
    cases hsome
    exact hrelease

/-! ## Imported sources -/

variable {text value : String}

theorem normalizedValue_eq_some {field : EvidenceField}
    (h : normalizedValue rules field text = some value) :
    trim text ≠ "" ∧ (trim text).utf8ByteSize ≤ 512 ∧ (trim text).toList.any isControl = false := by
  unfold normalizedValue at h
  dsimp only at h
  split at h
  · cases h
  · next hgood =>
    simp only [not_or, not_lt, Bool.not_eq_true] at hgood
    exact hgood

theorem storable_of_normalized {text : String} (hsize : text.utf8ByteSize ≤ 512)
    (hcontrol : text.toList.any isControl = false) : Storable text := by
  constructor
  · intro hzero
    have hany := List.any_eq_true.mpr ⟨_, hzero, (by decide : isControl '\x00' = true)⟩
    rw [hcontrol] at hany
    cases hany
  · exact (length_le_utf8ByteSize text).trans hsize

/-- What the operations of an import rest on: it proposes no genre of its own. -/
def ImportApplies (track : IndexedTrack) (rules : TextRules) (imported : ImportedTrackEvidence) :
    Prop :=
  imported.propose = true → imported.valid rules = true → imported.trackId = track.id.get →
    ∀ field ∈ imported.fields, field.1 = .genre → (trim field.2).utf8ByteSize ≤ 128 →
      trim field.2 = track.metadata.genre

theorem normalizedPosition_eq_some (h : normalizedPosition text = some value) :
    ∃ number, value = toString number ∧ number ≤ TrackMetadataPatch.maxNumericValue ∧
      parseU32 value.toList = some number := by
  unfold normalizedPosition at h
  obtain ⟨number, hnumber, rfl⟩ := Option.map_eq_some_iff.mp h
  have hrange := (Option.filter_eq_some_iff.mp hnumber).2
  rw [decide_eq_true_eq] at hrange
  refine ⟨number, rfl, hrange.2, parseU32_toString ?_⟩
  omega

theorem applies_importedText (field : TrackMetadataField) {old value : String}
    (hfield : cleanupTagField field.asStr = some field) (htext : field.isNumeric = false)
    (hgenre : field ≠ .genre) (hcurrent : cleanupTrackValue track field = some (.text old))
    (hdate : TrackMetadataPatch.isDate field = true → (metadataDateYear value).isSome)
    (hgood : value ≠ "" ∧ value.utf8ByteSize ≤ 512 ∧ value.toList.any isControl = false) :
    Applies track field.asStr (some (.text old)) (some (.text value)) :=
  (applies_text hfield htext hgenre hcurrent hgood.1).mpr
    ⟨storable_of_normalized hgood.2.1 hgood.2.2, hdate⟩

theorem applies_importedNumber (field : TrackMetadataField) {old : Option ℕ}
    (hfield : cleanupTagField field.asStr = some field) (hnumeric : field.isNumeric = true)
    (hcurrent : cleanupTrackValue track field = numberValue old)
    (hvalue : normalizedPosition text = some value) :
    Applies track field.asStr (numberValue old) (numberValue (parseU32 value.toList)) := by
  obtain ⟨number, _, hle, hparse⟩ := normalizedPosition_eq_some hvalue
  rw [hparse]
  exact (applies_number hfield hnumeric hcurrent).mpr hle

theorem importedProposal_applies {kind : EvidenceField} (hgenre : kind ≠ .genre)
    (hvalue : normalizedValue rules kind text = some value)
    (hdate : ImportedTrackEvidence.isDate kind = true → (metadataDateYear (trim text)).isSome)
    {proposal : String × Option CleanupInputValue × Option CleanupInputValue}
    (hproposal : importedProposal track kind value = some proposal) :
    Applies track proposal.1 proposal.2.1 proposal.2.2 := by
  have hgood := normalizedValue_eq_some hvalue
  unfold normalizedValue at hvalue
  dsimp only at hvalue
  generalize trim text = trimmed at hvalue hgood hdate
  rw [if_neg (by rw [not_or, not_or, not_lt, hgood.2.2]; exact ⟨hgood.1, hgood.2.1, nofun⟩)] at hvalue
  unfold importedProposal at hproposal
  cases kind with
  | title =>
    cases hvalue
    cases hproposal
    exact applies_importedText .title (by decide) rfl (by decide) rfl nofun hgood
  | artist =>
    cases hvalue
    cases hproposal
    exact applies_importedText .artist (by decide) rfl (by decide) rfl nofun hgood
  | albumArtist =>
    cases hvalue
    cases hproposal
    exact applies_importedText .albumArtist (by decide) rfl (by decide) rfl nofun hgood
  | album =>
    cases hvalue
    cases hproposal
    exact applies_importedText .album (by decide) rfl (by decide) rfl nofun hgood
  | composer =>
    cases hvalue
    cases hproposal
    exact applies_importedText .composer (by decide) rfl (by decide) rfl nofun hgood
  | date =>
    cases hvalue
    cases hproposal
    exact applies_importedText .releaseDate (by decide) rfl (by decide) rfl hdate hgood
  | originalDate =>
    cases hvalue
    cases hproposal
    exact applies_importedText .originalReleaseDate (by decide) rfl (by decide) rfl hdate hgood
  | trackNo =>
    cases hproposal
    exact applies_importedNumber .trackNumber (by decide) rfl rfl hvalue
  | discNo =>
    cases hproposal
    exact applies_importedNumber .discNumber (by decide) rfl rfl hvalue
  | genre => exact absurd rfl hgenre
  | recordingMbid | releaseMbid | releaseTrackMbid | releaseGroupMbid | isrc | barcode
  | catalogNumber => cases hproposal

theorem importedOperation_eq_some {digest : String} {imported : ImportedTrackEvidence}
    {field : EvidenceField × String} {op : TagOperation} :
    importedOperation rules track digest imported field = some op →
      op.trackId = track.id ∧ op.old ≠ op.new ∧ ∃ value, normalizedValue rules field.1 field.2 = some value ∧
        importedProposal track field.1 value = some (op.field, op.old, op.new) := by
  intro h
  unfold importedOperation at h
  obtain ⟨value, hvalue, h⟩ := Option.bind_eq_some_iff.mp h
  obtain ⟨⟨name, old, new⟩, hproposal, h⟩ := Option.bind_eq_some_iff.mp h
  dsimp only at h
  split at h
  · cases h
  · next hchange =>
    cases h
    exact ⟨rfl, fun hsame => hchange (Or.inl hsame), value, hvalue, hproposal⟩

theorem importedOperation_genre {digest : String} {imported : ImportedTrackEvidence} {text : String}
    (hvalue : normalizedValue rules .genre text = some (trim text))
    (hsize : (trim text).utf8ByteSize ≤ 128) (hne : trim text ≠ track.metadata.genre) :
    ∃ op, importedOperation rules track digest imported (.genre, text) = some op ∧
      op.trackId = track.id ∧ op.field = "genre" := by
  have hproposal : importedProposal track .genre (trim text) =
      some ("genre", some (.text track.metadata.genre), some (.text (trim text))) := if_pos hsize
  have hchange : ¬ ((some (CleanupInputValue.text track.metadata.genre) : Option CleanupInputValue)
      = some (.text (trim text)) ∨ (some (CleanupInputValue.text (trim text))
        : Option CleanupInputValue) = none) := by
    rintro (h | h)
    · rw [Option.some.injEq, CleanupInputValue.text.injEq] at h
      exact hne h.symm
    · cases h
  unfold importedOperation
  simp only [hvalue, hproposal, Option.bind_eq_bind, Option.bind_some]
  rw [if_neg hchange]
  exact ⟨_, rfl, rfl, rfl⟩

theorem normalizedValue_genre (h : normalizedValue rules .genre text = some value) :
    value = trim text := by
  unfold normalizedValue at h
  dsimp only at h
  split at h
  · cases h
  · exact (Option.some.inj h).symm

theorem importedOperations_accepted_iff {digest : String} {imported : ImportedTrackEvidence} :
    (∀ op ∈ importedOperations rules track digest imported, Accepted rules track op) ↔
      ImportApplies track rules imported := by
  constructor
  · rintro h hpropose hvalid hid ⟨_, text⟩ hmem rfl hsize
    by_contra hne
    have hfields := (Bool.and_eq_true _ _).mp hvalid
    have hfield := List.all_eq_true.mp hfields.2 _ hmem
    rw [ImportedTrackEvidence.validField, Bool.and_eq_true, Option.isSome_iff_exists] at hfield
    obtain ⟨⟨value, hvalue⟩, _⟩ := hfield
    rw [normalizedValue_genre hvalue] at hvalue
    obtain ⟨op, hop, htrack, hname⟩ :=
      @importedOperation_genre _ _ digest imported _ hvalue hsize hne
    have haccepted : Accepted rules track op := by
      apply h
      rw [importedOperations, hpropose, hvalid, hid, if_pos (by simp)]
      exact List.mem_filterMap.mpr ⟨_, hmem, hop⟩
    rw [accepted_iff htrack, hname] at haccepted
    exact not_applies_genre _ _ haccepted
  · intro h op hop
    unfold importedOperations at hop
    split at hop
    · next hused =>
      simp only [Bool.and_eq_true, decide_eq_true_eq] at hused
      obtain ⟨⟨hpropose, hvalid⟩, hid⟩ := hused
      obtain ⟨⟨kind, text⟩, hmem, hop⟩ := List.mem_filterMap.mp hop
      obtain ⟨htrack, hchange, value, hvalue, hproposal⟩ := importedOperation_eq_some hop
      have hfield := List.all_eq_true.mp ((Bool.and_eq_true _ _).mp hvalid).2 _ hmem
      rw [accepted_iff htrack]
      by_cases hgenre : kind = .genre
      · subst hgenre
        unfold importedProposal at hproposal
        dsimp only at hproposal
        split at hproposal
        · next hsize =>
          rw [normalizedValue_genre hvalue] at hproposal hsize
          have hgenre := h hpropose hvalid hid _ hmem rfl hsize
          dsimp only at hgenre
          rw [hgenre, Option.some.injEq, Prod.mk.injEq, Prod.mk.injEq] at hproposal
          exact absurd (hproposal.2.1.symm.trans hproposal.2.2) hchange
        · cases hproposal
      · refine importedProposal_applies hgenre hvalue ?_ hproposal
        intro hisDate
        rw [ImportedTrackEvidence.validField, Bool.and_eq_true, hpropose, hisDate] at hfield
        exact hfield.2
    · cases hop

/-! ## The choice of a model -/

/-- What the operations of a choice rest on: the names that are new have no zero character. -/
def ChoiceApplies (track : IndexedTrack) (candidates : List Candidate) (chosen : String) : Prop :=
  reviewableCandidates candidates = true →
    ∀ candidate, reviewedCandidate candidates chosen = some candidate →
      (track.metadata.title ≠ candidate.title → '\x00' ∉ candidate.title.toList) ∧
        (track.metadata.artist ≠ candidate.artist → '\x00' ∉ candidate.artist.toList)

theorem reviewedCandidate_mem {candidates : List Candidate} {chosen : String} {candidate : Candidate}
    (h : reviewedCandidate candidates chosen = some candidate) : candidate ∈ candidates := by
  obtain ⟨⟨_, index⟩, hentry, rfl⟩ := Option.map_eq_some_iff.mp h
  have hmem := List.mem_of_find?_eq_some hentry
  exact List.fst_mem_of_mem_zipIdx hmem

theorem forall_modelOperation (field : TrackMetadataField) {jobId : String} {candidate : Candidate}
    {old new : String} (hfield : cleanupTagField field.asStr = some field)
    (htext : field.isNumeric = false) (hgenre : field ≠ .genre)
    (hdate : TrackMetadataPatch.isDate field = false)
    (hcurrent : cleanupTrackValue track field = some (.text old)) (hsize : new.utf8ByteSize ≤ 512) :
    (∀ op ∈ modelOperation track jobId candidate field.asStr old new, Accepted rules track op) ↔
      (old ≠ new → '\x00' ∉ new.toList) := by
  unfold modelOperation
  split
  · next hchange =>
    rw [List.forall_mem_singleton, accepted_iff rfl,
      applies_text hfield htext hgenre hcurrent hchange.2, hdate]
    have hlength : new.length ≤ TrackMetadataPatch.maxTextLength :=
      (length_le_utf8ByteSize new).trans hsize
    exact ⟨fun h _ => h.1.1, fun h => ⟨⟨h hchange.1, hlength⟩, nofun⟩⟩
  · next hchange =>
    rw [not_and_or, Decidable.not_not, Decidable.not_not] at hchange
    constructor
    · rintro _ hne
      rcases hchange with hsame | rfl
      · exact absurd hsame hne
      · exact nofun
    · intro _ op hop
      cases hop

theorem modelOperations_accepted_iff {jobId : String} {candidates : List Candidate}
    {chosen : String} :
    (∀ op ∈ modelOperations track jobId candidates chosen, Accepted rules track op) ↔
      ChoiceApplies track candidates chosen := by
  unfold modelOperations ChoiceApplies
  by_cases hreviewable : reviewableCandidates candidates = true
  · rw [if_pos hreviewable]
    cases hchosen : reviewedCandidate candidates chosen with
    | none => simp
    | some candidate =>
      have hsizes : candidate.title.utf8ByteSize ≤ 512 ∧ candidate.artist.utf8ByteSize ≤ 512 := by
        unfold reviewableCandidates at hreviewable
        simp only [Bool.and_eq_true, List.all_eq_true, decide_eq_true_eq] at hreviewable
        exact hreviewable.1.2 candidate (reviewedCandidate_mem hchosen)
      dsimp only
      rw [List.forall_mem_append]
      refine (and_congr
        (forall_modelOperation .title (by decide) rfl (by decide) rfl rfl hsizes.1)
        (forall_modelOperation .artist (by decide) rfl (by decide) rfl rfl hsizes.2)).trans ?_
      simp [hreviewable]
  · rw [if_neg hreviewable]
    simp [hreviewable]

/-! ## All producers -/

/-- The operations of each producer are accepted if and only if what they were made from fits:
no genre is proposed, and the proposed texts and numbers are ones that a tag can hold. -/
theorem catalog_proposals_accepted_iff (rules : TextRules) (track : IndexedTrack) :
    (∀ (recordingId : String) (method : IdentityMethod) (recording : Recording)
      (selected : Option ReleaseDetail) (keepArtist keepAlbumArtist : Bool),
      (∀ op ∈ identifiedOperations rules track recordingId method recording selected keepArtist
        keepAlbumArtist, Accepted rules track op) ↔
      RecordingApplies rules track (keptIdentified keepArtist keepAlbumArtist) recording ∧
        ∀ release, selected = some release →
          ReleaseApplies rules track (keptIdentified keepArtist keepAlbumArtist) release) ∧
    (∀ (recordingId : String) (recording : Recording) (detail : ReleaseDetail)
      (slotId : Option String) (keepAlbumArtist : Bool),
      (∀ op ∈ editionOperations rules track recordingId recording detail slotId keepAlbumArtist,
        Accepted rules track op) ↔
      ReleaseApplies rules track (keptEdition keepAlbumArtist) detail) ∧
    (∀ (digest : String) (imported : ImportedTrackEvidence),
      (∀ op ∈ importedOperations rules track digest imported, Accepted rules track op) ↔
        ImportApplies track rules imported) ∧
    ∀ (jobId : String) (candidates : List Candidate) (chosen : String),
      (∀ op ∈ modelOperations track jobId candidates chosen, Accepted rules track op) ↔
        ChoiceApplies track candidates chosen :=
  ⟨fun _ _ _ _ _ _ => identifiedOperations_accepted_iff,
    fun _ _ _ _ _ => editionOperations_accepted_iff, fun _ _ => importedOperations_accepted_iff,
    fun _ _ _ => modelOperations_accepted_iff⟩

/-- A track without a genre, and a recording with one. -/
def untaggedTrack : IndexedTrack where
  id := ⟨1, Int.one_pos⟩
  path := ⟨"drone.mp3".toList, by decide⟩
  metadata := ⟨"Drone", "Composer", "", "", "", "", "", none, none, none, "", none⟩
  duration := 60 * 10 ^ 9
  displayTitle := "Drone"
  origin := "library"
  sizeBytes := 1
  mtimeUnixSeconds := 0
  addedAtUnixSeconds := 0
  original := none

def ambientRecording : Recording :=
  ⟨"Drone", "Composer", [], [], none, [], true, ["ambient"], [], [], some 60000⟩

/-- The genre of an identified recording is proposed and then skipped. -/
theorem genre_proposal_not_accepted :
    ¬ ∀ (rules : TextRules) (track : IndexedTrack) (recordingId : String) (method : IdentityMethod)
      (recording : Recording) (selected : Option ReleaseDetail) (keepArtist keepAlbumArtist : Bool),
      ∀ op ∈ identifiedOperations rules track recordingId method recording selected keepArtist
        keepAlbumArtist, Accepted rules track op := by
  intro h
  have plain : TextRules :=
    ⟨id, fun _ => false, fun c => [c], Char.isAlphanum, id, id, fun _ => none⟩
  have hrecording := identifiedOperations_accepted_iff.mp
    (h plain untaggedTrack "id" .metadata ambientRecording none false false)
  exact hrecording.1.genre rfl ⟨by decide, by decide, fun htitle => absurd htitle.1 (by decide)⟩

end Enrichment

end MusicServer
