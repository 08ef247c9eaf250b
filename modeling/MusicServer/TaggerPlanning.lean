/-
# Which tracks a tagging job can be planned with

A track's own input is refused exactly where one of its texts is too long or its catalog
claims take too many bytes; discovery and the enrichment bound neither.  A job is planned
exactly where every track fits.
-/
import MusicServer.TaggerInput

namespace MusicServer

/-! ## Objects -/

namespace JsonObject

theorem get_cons (name : String) (value : Json) (rest : JsonObject) (key : String) :
    JsonObject.get ((name, value) :: rest) key = if key = name then some value else rest.get key := by
  unfold get
  by_cases h : key = name
  · subst h
    rw [List.lookup_cons_self, if_pos rfl]
  · have hne : (key == name) = false := beq_false_of_ne h
    rw [List.lookup_cons, hne, if_neg h]

theorem get_insert (object : JsonObject) (key : String) (value : Json) (other : String) :
    (object.insert key value).get other = if other = key then some value else object.get other := by
  induction object with
  | nil => exact get_cons key value [] other
  | cons entry rest ih =>
    obtain ⟨name, old⟩ := entry
    unfold insert
    dsimp only
    split
    · next hname =>
      rw [get_cons, get_cons, hname]
      by_cases h : other = key
      · rw [if_pos h, if_pos h]
      · rw [if_neg h, if_neg h, if_neg h]
    · next hname =>
      split
      · rw [get_cons]
      · rw [get_cons, get_cons, ih]
        by_cases h : other = name
        · have hne : ¬ other = key := fun hkey => hname (h.symm.trans hkey)
          rw [if_pos h, if_neg hne, if_pos h]
        · rw [if_neg h, if_neg h]

theorem mem_insert {object : JsonObject} {key : String} {value : Json} {entry : String × Json}
    (h : entry ∈ object.insert key value) : entry = (key, value) ∨ entry ∈ object := by
  induction object with
  | nil => exact .inl (List.mem_singleton.mp h)
  | cons first rest ih =>
    unfold insert at h
    split at h
    · rcases List.mem_cons.mp h with h | h
      · exact .inl h
      · exact .inr (List.mem_cons_of_mem _ h)
    · split at h
      · exact List.mem_cons.mp h
      · rcases List.mem_cons.mp h with h | h
        · exact .inr (h ▸ List.mem_cons_self)
        · exact (ih h).imp_right (List.mem_cons_of_mem _)

theorem isSome_get {object : JsonObject} {key : String} {value : Json} (h : (key, value) ∈ object) :
    (object.get key).isSome := by
  induction object with
  | nil => cases h
  | cons entry rest ih =>
    obtain ⟨name, other⟩ := entry
    rw [get_cons]
    split
    · rfl
    · next hne =>
      rcases List.mem_cons.mp h with h | h
      · exact absurd (congrArg Prod.fst h) hne
      · exact ih h

end JsonObject

namespace Tagging

open LibraryIndex

section Track

variable {doubles : Doubles} {predictionKinds : Json → Option (List String)}
  {track : IndexedTrack} {context : Option CurrentTrackContext} {catalog : Option Json}

/-! ## One track -/

/-- What a model is shown of a track, without its ids. -/
def trackFields (doubles : Doubles) (track : IndexedTrack) (context : Option CurrentTrackContext)
    (catalog : Option Json) : JsonObject :=
  [("album", .string track.metadata.album), ("artist", .string track.metadata.artist),
    ("bpm", (track.metadata.bpm.map Json.naturalJson).getD .null),
    ("catalog_evidence", (catalog.map withoutRecordingIds).getD .null),
    ("context_evidence", (context.map (compactContextProjection doubles)).getD .null),
    ("evidence_contract", .string "song-evidence/v1"), ("genre", .string track.metadata.genre),
    ("length_s", doubles.seconds track.duration), ("origin", .string track.origin),
    ("track_id", .number (.integer track.id.get))]

theorem modelTagTrackInput_eq :
    ∃ ids, modelTagTrackInput doubles predictionKinds track context catalog =
      .object ((trackFields doubles track context catalog).insert "evidence_ids" ids) :=
  ⟨_, rfl⟩

/-- The texts of a track that a batch bounds. -/
def texts (track : IndexedTrack) : List String :=
  [track.metadata.artist, track.metadata.album, track.origin, track.metadata.genre]

theorem get_compactField {object : JsonObject} {key : String} (hkey : key ≠ "context_evidence") :
    (compactField doubles object).get key = object.get key := by
  unfold compactField
  split
  · rfl
  · rfl
  · rw [JsonObject.get_insert, if_neg hkey]

theorem get_orNull {object : JsonObject} {key other : String} (hkey : other ≠ key) :
    (orNull key object).get other = object.get other := by
  unfold orNull
  split
  · rfl
  · rw [JsonObject.get_insert, if_neg hkey]

/-- What a batch makes of an object before it looks at its texts. -/
def prepared (doubles : Doubles) (object : JsonObject) : JsonObject :=
  compactField doubles (orNull "bpm" (orNull "context_evidence"
    (object.insert "evidence_contract" (.string "song-evidence/v1"))))

theorem get_prepared {object : JsonObject} {key : String} (hcontract : key ≠ "evidence_contract")
    (hcontext : key ≠ "context_evidence") (hbpm : key ≠ "bpm") :
    (prepared doubles object).get key = object.get key := by
  unfold prepared
  rw [get_compactField hcontext, get_orNull hbpm, get_orNull hcontext, JsonObject.get_insert,
    if_neg hcontract]

theorem get_trackInput {ids : Json} {key : String} (hkey : key ≠ "evidence_ids") :
    JsonObject.get ((trackFields doubles track context catalog).insert "evidence_ids" ids) key =
      (trackFields doubles track context catalog).get key := by
  rw [JsonObject.get_insert, if_neg hkey]

theorem allowed_trackInput (ids : Json) :
    ((trackFields doubles track context catalog).insert "evidence_ids" ids).any
      (fun field => field.1 ∉ allowedFields) = false := by
  have hkeys : ∀ key ∈ (trackFields doubles track context catalog).map Prod.fst,
      key ∈ allowedFields := by
    show ∀ key ∈ ["album", "artist", "bpm", "catalog_evidence", "context_evidence",
      "evidence_contract", "genre", "length_s", "origin", "track_id"], key ∈ allowedFields
    decide
  refine List.any_eq_false.mpr fun field hmem => ?_
  have hallowed : field.1 ∈ allowedFields := by
    rcases JsonObject.mem_insert hmem with rfl | hmem
    · show "evidence_ids" ∈ allowedFields
      decide
    · exact hkeys field.1 (List.mem_map_of_mem hmem)
  simpa using hallowed

theorem textsFit_trackInput (ids : Json) :
    textsFit (prepared doubles
      ((trackFields doubles track context catalog).insert "evidence_ids" ids)) =
      (texts track).all fun text => text.length ≤ 512 := by
  unfold textsFit texts
  simp only [List.all_cons, List.all_nil, Bool.and_true]
  rw [get_prepared (by decide) (by decide) (by decide), get_trackInput (by decide),
    get_prepared (by decide) (by decide) (by decide), get_trackInput (by decide),
    get_prepared (by decide) (by decide) (by decide), get_trackInput (by decide),
    get_prepared (by decide) (by decide) (by decide), get_trackInput (by decide)]
  rfl

/-- The bytes of a catalog as it is shown; null where there is none. -/
def shownLength (doubles : Doubles) (catalog : Option Json) : ℕ :=
  ((catalog.map withoutRecordingIds).getD .null).jsonLength doubles.length

/-- What a batch keeps of an object that passes. -/
def kept (doubles : Doubles) (predictionKinds : Json → Option (List String))
    (object : JsonObject) : JsonObject :=
  (prepared doubles object).insert "evidence_ids"
    (.strings (evidenceIds predictionKinds (.object (prepared doubles object))))

theorem normalizeTrackInput_object {object : JsonObject}
    (hallowed : object.any (fun field => field.1 ∉ allowedFields) = false)
    (hpredictions : object.get "audio_predictions" = none) :
    normalizeTrackInput doubles predictionKinds (.object object) =
      if (object.get "catalog_evidence").any fun value =>
          8192 < value.jsonLength doubles.length then .error inputInvalid
      else if !textsFit (prepared doubles object) then .error inputInvalid
      else .ok (kept doubles predictionKinds object) := by
  have hkept (key : String) (hkey : key ≠ "evidence_contract") :
      (object.insert "evidence_contract" (.string "song-evidence/v1")).get key = object.get key := by
    rw [JsonObject.get_insert, if_neg hkey]
  unfold normalizeTrackInput
  simp only [Json.asObject, hallowed, Bool.false_eq_true, if_false]
  rw [hkept "audio_predictions" (by decide), hkept "catalog_evidence" (by decide), hpredictions]
  rfl

/-- A track fits where its texts and what is shown of its catalog are short enough. -/
def Short (doubles : Doubles) (track : IndexedTrack) (catalog : Option Json) : Prop :=
  (∀ text ∈ texts track, text.length ≤ 512) ∧ shownLength doubles catalog ≤ 8192

theorem normalizeTrackInput_track :
    ∃ object : JsonObject, object.get "track_id" = some (.number (.integer track.id.get)) ∧
      object.get "audio_predictions" = none ∧
      (Short doubles track catalog →
        normalizeTrackInput doubles predictionKinds
          (modelTagTrackInput doubles predictionKinds track context catalog) =
          .ok (kept doubles predictionKinds object)) ∧
      (¬ Short doubles track catalog →
        normalizeTrackInput doubles predictionKinds
          (modelTagTrackInput doubles predictionKinds track context catalog) =
          .error inputInvalid) := by
  obtain ⟨ids, hinput⟩ := @modelTagTrackInput_eq doubles predictionKinds track context catalog
  have hpredictions : JsonObject.get ((trackFields doubles track context catalog).insert
      "evidence_ids" ids) "audio_predictions" = none := by
    rw [get_trackInput (by decide)]
    rfl
  have hcatalog : JsonObject.get ((trackFields doubles track context catalog).insert
      "evidence_ids" ids) "catalog_evidence" =
      some ((catalog.map withoutRecordingIds).getD .null) := by
    rw [get_trackInput (by decide)]
    rfl
  have hid : JsonObject.get ((trackFields doubles track context catalog).insert
      "evidence_ids" ids) "track_id" = some (.number (.integer track.id.get)) := by
    rw [get_trackInput (by decide)]
    rfl
  have hnormalize := @normalizeTrackInput_object doubles predictionKinds _
    (@allowed_trackInput doubles track context catalog ids) hpredictions
  rw [hcatalog, textsFit_trackInput] at hnormalize
  refine ⟨_, hid, hpredictions, fun ⟨htexts, hcatalog⟩ => ?_, fun hshort => ?_⟩
  · have hover : ¬ 8192 < shownLength doubles catalog := Nat.not_lt.mpr hcatalog
    have hfit : ((texts track).all fun text => text.length ≤ 512) = true := by simpa using htexts
    rw [hinput, hnormalize, hfit]
    simpa [shownLength] using hover
  · rw [hinput, hnormalize]
    by_cases hover : 8192 < shownLength doubles catalog
    · have hany : Option.any (fun value : Json => decide (8192 < value.jsonLength doubles.length))
          (some ((catalog.map withoutRecordingIds).getD .null)) = true := by
        simpa [shownLength] using hover
      rw [hany]
      rfl
    · have hany : Option.any (fun value : Json => decide (8192 < value.jsonLength doubles.length))
          (some ((catalog.map withoutRecordingIds).getD .null)) = false := by
        simpa [shownLength] using hover
      have hfit : ((texts track).all fun text => text.length ≤ 512) = false := by
        rw [Bool.eq_false_iff]
        intro hall
        exact hshort ⟨by simpa using hall, Nat.not_lt.mp hover⟩
      rw [hany, hfit]
      rfl

end Track

/-! ## Observations -/

section Observations

variable {input : Json}

theorem stripPrefix_append (start rest : String) : stripPrefix (start ++ rest) start = some rest := by
  unfold stripPrefix
  rw [String.toList_append, if_pos (List.prefix_append _ _), List.drop_left]
  rw [String.ofList_toList]

theorem stripPrefix_apart {start other : String} (hstart : ¬ start.toList <+: other.toList)
    (hother : ¬ other.toList <+: start.toList) (rest : String) :
    stripPrefix (other ++ rest) start = none := by
  unfold stripPrefix
  rw [String.toList_append]
  refine if_neg fun hprefix => ?_
  rcases List.prefix_or_prefix_of_prefix hprefix (List.prefix_append _ _) with h | h
  · exact hstart h
  · exact hother h

theorem eq_of_stripPrefix {text start : String} (h : (stripPrefix text start).isSome) :
    ∃ rest, text = start ++ rest := by
  unfold stripPrefix at h
  split at h
  · next hprefix =>
    obtain ⟨rest, hrest⟩ := hprefix
    refine ⟨.ofList rest, ?_⟩
    rw [← String.toList_inj, String.toList_append, String.toList_ofList, hrest]
  · cases h

theorem mem_insertId {id other : String} {ids : List String} (h : other ∈ insertId id ids) :
    other = id ∨ other ∈ ids := by
  induction ids with
  | nil => exact .inl (List.mem_singleton.mp h)
  | cons first rest ih =>
    unfold insertId at h
    split at h
    · exact .inr h
    · split at h
      · exact List.mem_cons.mp h
      · rcases List.mem_cons.mp h with h | h
        · exact .inr (h ▸ List.mem_cons_self)
        · exact (ih h).imp_right (List.mem_cons_of_mem _)

theorem mem_foldl_insertId {id : String} {supplied ids : List String}
    (h : id ∈ supplied.foldl (fun ids id => insertId id ids) ids) : id ∈ supplied ∨ id ∈ ids := by
  induction supplied generalizing ids with
  | nil => exact .inr h
  | cons first rest ih =>
    rcases ih h with h | h
    · exact .inl (List.mem_cons_of_mem _ h)
    · rcases mem_insertId h with rfl | h
      · exact .inl List.mem_cons_self
      · exact .inr h

theorem observation_metadata {id : String} (h : id ∈ metadataIds input) :
    (observation input id).isSome := by
  obtain ⟨key, hkey, rfl⟩ := List.mem_map.mp h
  have hstated := (List.mem_filter.mp hkey).2
  unfold observation
  rw [stripPrefix_apart (by decide) (by decide), stripPrefix_append]
  exact Option.isSome_of_any hstated

theorem isSome_namedItem {list : Option Json} {items : List Json} {item : Json} {key name : String}
    (hlist : list.bind Json.asArray = some items) (hmem : item ∈ items)
    (hname : (item.get key).bind Json.asString = some name) :
    (namedItem list key name).isSome := by
  unfold namedItem
  rw [hlist, Option.bind_some]
  refine List.find?_isSome.mpr ⟨item, hmem, ?_⟩
  obtain ⟨value, hvalue, hstring⟩ := Option.bind_eq_some_iff.mp hname
  unfold Json.index
  rw [hvalue]
  simpa using hstring

theorem apart_contextKey : ∀ key ∈ contextKeys,
    stripPrefix ("audio." ++ key) "audio.trajectories." = none ∧
      stripPrefix ("audio." ++ key) "audio.sections." = none := by
  decide

theorem observation_context {id : String} (h : id ∈ contextIds input) :
    (observation input id).isSome := by
  unfold contextIds at h
  split at h
  · next context hcontext =>
    simp only [List.mem_append] at h
    unfold observation
    rcases h with (h | h) | h
    · obtain ⟨key, hkey, rfl⟩ := List.mem_map.mp h
      obtain ⟨hkey, hsupplied⟩ := List.mem_filter.mp hkey
      obtain ⟨htrajectories, hsections⟩ := apart_contextKey key hkey
      rw [stripPrefix_apart (by decide) (by decide), stripPrefix_apart (by decide) (by decide),
        htrajectories, hsections, stripPrefix_append, hcontext]
      exact Option.isSome_of_any hsupplied
    · obtain ⟨⟨axis, value⟩, haxis, rfl⟩ := List.mem_map.mp h
      rw [stripPrefix_apart (by decide) (by decide), stripPrefix_apart (by decide) (by decide),
        stripPrefix_append, hcontext]
      simp only [Option.bind_some]
      cases hfields : ((Json.object context).get "trajectories").bind Json.asObject with
      | none =>
        rw [hfields] at haxis
        cases haxis
      | some fields =>
        rw [hfields] at haxis
        obtain ⟨trajectories, htrajectories, hobject⟩ := Option.bind_eq_some_iff.mp hfields
        rw [htrajectories]
        show (trajectories.asObject.bind (JsonObject.get · axis)).isSome
        rw [hobject]
        exact JsonObject.isSome_get haxis
    · obtain ⟨part, hpart, hid⟩ := List.mem_filterMap.mp h
      obtain ⟨name, hname, rfl⟩ := Option.map_eq_some_iff.mp hid
      rw [stripPrefix_apart (by decide) (by decide), stripPrefix_apart (by decide) (by decide),
        stripPrefix_apart (by decide) (by decide), stripPrefix_append, hcontext]
      cases hitems : ((Json.object context).get "sections").bind Json.asArray with
      | none =>
        rw [hitems] at hpart
        cases hpart
      | some items =>
        rw [hitems] at hpart
        exact isSome_namedItem hitems hpart hname
  · cases h

theorem observation_catalog {id : String} (h : id ∈ catalogIds input) :
    (observation input id).isSome := by
  obtain ⟨claim, hclaim, hid⟩ := List.mem_filterMap.mp h
  obtain ⟨hname, hcatalog⟩ := Option.filter_eq_some_iff.mp hid
  obtain ⟨rest, rfl⟩ := eq_of_stripPrefix (Bool.and_eq_true_iff.mp hcatalog).1
  unfold observation
  rw [stripPrefix_apart (by decide) (by decide), stripPrefix_apart (by decide) (by decide),
    stripPrefix_apart (by decide) (by decide), stripPrefix_apart (by decide) (by decide),
    stripPrefix_apart (by decide) (by decide)]
  cases hitems : ((input.get "catalog_evidence").bind fun catalog => catalog.get "claims").bind
      Json.asArray with
  | none =>
    rw [hitems] at hclaim
    cases hclaim
  | some items =>
    rw [hitems] at hclaim
    exact isSome_namedItem hitems hclaim hname

theorem observation_evidenceIds {predictionKinds : Json → Option (List String)}
    (hpredictions : input.get "audio_predictions" = none) {id : String}
    (h : id ∈ evidenceIds predictionKinds input) : (observation input id).isSome := by
  rcases mem_foldl_insertId h with h | h
  · unfold suppliedIds predictionIds at h
    rw [hpredictions] at h
    simp only [Option.bind_none, Option.getD_none, List.map_nil, List.nil_append,
      List.mem_append] at h
    rcases h with (h | h) | h
    · exact observation_metadata h
    · exact observation_context h
    · exact observation_catalog h
  · cases h

theorem observations_ok {ids : List String} (h : ∀ id ∈ ids, (observation input id).isSome) :
    ∃ observed, observations input ids = .ok observed := by
  induction ids with
  | nil => exact ⟨[], rfl⟩
  | cons id rest ih =>
    obtain ⟨observed, hobserved⟩ := ih fun other hmem => h other (List.mem_cons_of_mem id hmem)
    obtain ⟨value, hvalue⟩ := Option.isSome_iff_exists.mp (h id List.mem_cons_self)
    refine ⟨(id, value) :: observed, ?_⟩
    unfold observations
    rw [hvalue, hobserved]

end Observations

/-! ## Batches -/

/-- A track of a job with what is stored about it. -/
structure TaggedTrack where
  track : IndexedTrack
  context : Option CurrentTrackContext
  record : Option CleanupEnrichmentRecord

/-- What the catalog evidence rests on: the signature of a track, and which sources are on. -/
structure CatalogPolicy where
  sourceSignature : IndexedTrack → Option String
  musicbrainzEnabled : Bool
  lastfmEnabled : Bool

section Batches

variable (doubles : Doubles) (predictionKinds : Json → Option (List String))
  (policy : CatalogPolicy)

namespace TaggedTrack

def catalog (tagged : TaggedTrack) : Option Json :=
  tagged.record.bind fun record => songCatalogEvidence policy.sourceSignature tagged.track record
    policy.musicbrainzEnabled policy.lastfmEnabled

def input (tagged : TaggedTrack) : Json :=
  modelTagTrackInput doubles predictionKinds tagged.track tagged.context (tagged.catalog policy)

/-- The texts take 512 characters each at most, and what its record supports 8192 bytes. -/
def Fits (tagged : TaggedTrack) : Prop :=
  (∀ text ∈ texts tagged.track, text.length ≤ 512) ∧
    ∀ record, tagged.record = some record →
      catalogLength doubles.length policy.sourceSignature tagged.track record
        policy.musicbrainzEnabled policy.lastfmEnabled ≤ 8192

end TaggedTrack

variable {doubles predictionKinds policy} {tagged : TaggedTrack}

theorem catalogLength_of_none {record : CleanupEnrichmentRecord} {track : IndexedTrack}
    (h : songCatalogEvidence policy.sourceSignature track record policy.musicbrainzEnabled
      policy.lastfmEnabled = none) :
    catalogLength doubles.length policy.sourceSignature track record policy.musicbrainzEnabled
      policy.lastfmEnabled = 0 := by
  unfold songCatalogEvidence at h
  unfold catalogLength
  cases hrecording : identifiedRecording policy.sourceSignature track record
      policy.musicbrainzEnabled with
  | none => rfl
  | some recording =>
    obtain ⟨recordingId, retrievedAt⟩ := recording
    rw [hrecording] at h
    dsimp only at h ⊢
    split at h
    · next hclaims =>
      have hlengths := @shownLengths_claims doubles.length (.object record.result)
        recordingId retrievedAt record.evidenceRevision policy.lastfmEnabled
      have hempty : (claimLengths doubles.length (.object record.result) recordingId retrievedAt
          record.evidenceRevision policy.lastfmEnabled).isEmpty := by
        rw [← hlengths]
        unfold shownLengths
        rwa [List.isEmpty_map, List.isEmpty_map]
      rw [if_pos hempty]
    · cases h

theorem short_iff_fits :
    Short doubles tagged.track (tagged.catalog policy) ↔ tagged.Fits doubles policy := by
  refine and_congr_right fun _ => ?_
  unfold shownLength TaggedTrack.catalog
  cases hrecord : tagged.record with
  | none =>
    refine ⟨fun _ record h => (by cases h), fun _ => ?_⟩
    show 4 ≤ 8192
    decide
  | some record =>
    rw [Option.bind_some]
    have honly : (∀ other, some record = some other →
        catalogLength doubles.length policy.sourceSignature tagged.track other
          policy.musicbrainzEnabled policy.lastfmEnabled ≤ 8192) ↔
        catalogLength doubles.length policy.sourceSignature tagged.track record
          policy.musicbrainzEnabled policy.lastfmEnabled ≤ 8192 :=
      ⟨fun h => h record rfl, fun h other hother => Option.some.inj hother ▸ h⟩
    rw [honly]
    cases hcatalog : songCatalogEvidence policy.sourceSignature tagged.track record
        policy.musicbrainzEnabled policy.lastfmEnabled with
    | none =>
      rw [catalogLength_of_none hcatalog]
      exact ⟨fun _ => Nat.zero_le _, fun _ => show 4 ≤ 8192 by decide⟩
    | some catalog =>
      have hlength := @jsonLength_songCatalogEvidence doubles.length _ _ _ _ _ _ hcatalog
      rw [← hlength]
      rfl

theorem get_kept {object : JsonObject} {key : String} (hids : key ≠ "evidence_ids")
    (hcontract : key ≠ "evidence_contract") (hcontext : key ≠ "context_evidence")
    (hbpm : key ≠ "bpm") : (kept doubles predictionKinds object).get key = object.get key := by
  unfold kept
  rw [JsonObject.get_insert, if_neg hids, get_prepared hcontract hcontext hbpm]

theorem number_kept {object : JsonObject} {id : TrackId}
    (hid : object.get "track_id" = some (.number (.integer id.get))) :
    (((kept doubles predictionKinds object).get "track_id").bind Json.asInteger).filter
      (fun number => 0 < number) = some id.get := by
  rw [get_kept (by decide) (by decide) (by decide) (by decide), hid]
  simp [Json.asInteger, id.positive]

variable {tracks : List TaggedTrack}

theorem addTracks_ok (hfits : ∀ tagged ∈ tracks, tagged.Fits doubles policy)
    (hids : (tracks.map (·.track.id.get)).Nodup) (batch : ModelTaggerBatch)
    (hnew : ∀ tagged ∈ tracks, tagged.track.id.get ∉ batch.trackIds) :
    ∃ full, addTracks doubles predictionKinds batch
      (tracks.map (·.input doubles predictionKinds policy)) = .ok full := by
  induction tracks generalizing batch with
  | nil => exact ⟨batch, rfl⟩
  | cons tagged rest ih =>
    obtain ⟨object, hid, -, hok, -⟩ := @normalizeTrackInput_track doubles predictionKinds tagged.track
      tagged.context (tagged.catalog policy)
    have hobject := hok (short_iff_fits.mpr (hfits tagged List.mem_cons_self))
    rw [List.map_cons, List.nodup_cons] at hids
    rw [List.map_cons]
    unfold addTracks TaggedTrack.input
    rw [hobject]
    dsimp only
    rw [number_kept hid]
    dsimp only
    rw [if_neg (hnew tagged List.mem_cons_self)]
    refine ih (fun other hmem => hfits other (List.mem_cons_of_mem _ hmem)) hids.2 _
      fun other hmem hin => ?_
    rcases List.mem_append.mp hin with hin | hin
    · exact hnew other (List.mem_cons_of_mem _ hmem) hin
    · have hsame : other.track.id.get = tagged.track.id.get := List.mem_singleton.mp hin
      exact hids.1 (hsame ▸ List.mem_map_of_mem hmem)

theorem addTracks_error (hlong : ∃ tagged ∈ tracks, ¬ tagged.Fits doubles policy)
    (batch : ModelTaggerBatch) :
    addTracks doubles predictionKinds batch
      (tracks.map (·.input doubles predictionKinds policy)) = .error inputInvalid := by
  induction tracks generalizing batch with
  | nil =>
    obtain ⟨tagged, hmem, -⟩ := hlong
    cases hmem
  | cons tagged rest ih =>
    obtain ⟨object, -, -, hok, herror⟩ := @normalizeTrackInput_track doubles predictionKinds
      tagged.track tagged.context (tagged.catalog policy)
    rw [List.map_cons]
    unfold addTracks TaggedTrack.input
    by_cases hfits : tagged.Fits doubles policy
    · rw [hok (short_iff_fits.mpr hfits)]
      dsimp only
      have hrest : ∃ other ∈ rest, ¬ other.Fits doubles policy := by
        obtain ⟨other, hmem, hother⟩ := hlong
        rcases List.mem_cons.mp hmem with rfl | hmem
        · exact absurd hfits hother
        · exact ⟨other, hmem, hother⟩
      split
      · rfl
      · split
        · rfl
        · exact ih hrest _
    · rw [herror fun h => hfits (short_iff_fits.mp h)]

theorem new_ok {tracks : List TaggedTrack} (hne : tracks ≠ [])
    (hlength : tracks.length ≤ modelTagBatchSize)
    (hfits : ∀ tagged ∈ tracks, tagged.Fits doubles policy)
    (hids : (tracks.map (·.track.id.get)).Nodup) :
    ∃ batch, ModelTaggerBatch.new doubles predictionKinds
      (tracks.map (·.input doubles predictionKinds policy)) = .ok batch := by
  unfold ModelTaggerBatch.new
  have hsize : ¬ ((tracks.map (·.input doubles predictionKinds policy)).isEmpty ||
      decide ((tracks.map (·.input doubles predictionKinds policy)).length > modelTagBatchSize)) := by
    simp [hne, hlength]
  rw [if_neg hsize]
  exact addTracks_ok hfits hids ⟨[], []⟩ fun tagged _ h => by cases h

theorem new_error {tracks : List TaggedTrack}
    (hlong : ∃ tagged ∈ tracks, ¬ tagged.Fits doubles policy) :
    ModelTaggerBatch.new doubles predictionKinds
      (tracks.map (·.input doubles predictionKinds policy)) = .error inputInvalid := by
  unfold ModelTaggerBatch.new
  split
  · rfl
  · exact addTracks_error hlong _

theorem new_single (hfits : tagged.Fits doubles policy) :
    ∃ (object : JsonObject) (ids : List ℤ), object.get "audio_predictions" = none ∧
      ModelTaggerBatch.new doubles predictionKinds [tagged.input doubles predictionKinds policy] =
        .ok ⟨[.object object], ids⟩ := by
  obtain ⟨object, hid, hpredictions, hok, -⟩ := @normalizeTrackInput_track doubles predictionKinds
    tagged.track tagged.context (tagged.catalog policy)
  refine ⟨(kept doubles predictionKinds object).insert "track_id" (.naturalJson 1),
    [tagged.track.id.get], ?_, ?_⟩
  · rw [JsonObject.get_insert, if_neg (by decide),
      get_kept (by decide) (by decide) (by decide) (by decide), hpredictions]
  · unfold ModelTaggerBatch.new
    show addTracks doubles predictionKinds ⟨[], []⟩ [tagged.input doubles predictionKinds policy] = _
    unfold addTracks TaggedTrack.input
    rw [hok (short_iff_fits.mpr hfits)]
    dsimp only
    rw [number_kept hid]
    dsimp only
    rw [if_neg List.not_mem_nil]
    rfl

/-! ## Planning -/

variable {validate : ModelTaggerBatch → Bool → Except ModelTaskError Unit}
  {questions : ModelTaggerBatch → List (String × Json) → Except TypedRequestError ℕ}

/-- The transport refuses no request as an invalid input. -/
def Sends (validate : ModelTaggerBatch → Bool → Except ModelTaskError Unit) : Prop :=
  ∀ batch correction, validate batch correction ≠ .error inputInvalid

theorem ne_inputInvalid {α : Type} {error : ModelTaskError} (h : error ≠ inputInvalid) :
    (.error error : Except ModelTaskError α) ≠ .error inputInvalid :=
  fun heq => h (Except.error.inj heq)

theorem validated_ne (hsends : Sends validate) (batch : ModelTaggerBatch) :
    validated validate batch ≠ .error inputInvalid := by
  unfold validated
  split
  · next error herror =>
    intro h
    cases h
    exact hsends batch false herror
  · exact hsends batch true

section Search

variable {inputs : List Json} {lower upper : ℕ} {hlower : 0 < lower}
  {selected : Option SelectedBatch}

theorem widestBatch_refused (hle : lower ≤ upper) {error : ModelTaskError}
    (hnew : ModelTaggerBatch.new doubles predictionKinds
      (inputs.take (lower + (upper - lower) / 2)) = .error error) :
    widestBatch doubles predictionKinds validate inputs lower upper hlower selected =
      .error error := by
  rw [widestBatch, if_pos hle]
  dsimp only
  rw [hnew]

theorem widestBatch_taken (hle : lower ≤ upper) {task : ModelTaggerBatch}
    (hnew : ModelTaggerBatch.new doubles predictionKinds
      (inputs.take (lower + (upper - lower) / 2)) = .ok task)
    (hvalid : validated validate task = .ok ()) :
    ∃ selected', widestBatch doubles predictionKinds validate inputs lower upper hlower selected =
      widestBatch doubles predictionKinds validate inputs (lower + (upper - lower) / 2 + 1) upper
        (Nat.succ_pos _) (some selected') := by
  refine ⟨⟨lower + (upper - lower) / 2, Nat.lt_of_lt_of_le hlower (Nat.le_add_right _ _), task⟩, ?_⟩
  rw [widestBatch, if_pos hle]
  dsimp only
  rw [hnew]
  dsimp only
  rw [hvalid]

end Search

theorem widestBatch_ne (hsends : Sends validate) {tracks : List TaggedTrack} (hne : tracks ≠ [])
    (hfits : ∀ tagged ∈ tracks, tagged.Fits doubles policy)
    (hids : (tracks.map (·.track.id.get)).Nodup) (lower upper : ℕ) (hlower : 0 < lower)
    (hupper : upper ≤ modelTagBatchSize) (selected : Option SelectedBatch) :
    widestBatch doubles predictionKinds validate
      (tracks.map (·.input doubles predictionKinds policy)) lower upper hlower selected ≠
      .error inputInvalid := by
  induction hspan : upper + 1 - lower using Nat.strong_induction_on
    generalizing lower upper selected with
  | _ span ih =>
    rw [widestBatch]
    split
    · next hle =>
      dsimp only
      have hlength : 0 < lower + (upper - lower) / 2 := by omega
      have htake : (tracks.take (lower + (upper - lower) / 2)).length ≤ modelTagBatchSize := by
        rw [List.length_take]
        omega
      obtain ⟨task, htask⟩ := @new_ok doubles predictionKinds policy
        (tracks.take (lower + (upper - lower) / 2))
        (by
          rw [ne_eq, List.take_eq_nil_iff]
          rintro (h | h)
          · omega
          · exact hne h)
        htake (fun tagged hmem => hfits tagged (List.mem_of_mem_take hmem))
        ((List.take_sublist _ _ |>.map _).nodup hids)
      rw [← List.map_take, htask]
      dsimp only
      split
      · exact ih _ (by omega) _ _ _ hupper _ rfl
      · next error herror =>
        split
        · exact ih _ (by omega) _ _ _ (by omega) _ rfl
        · intro h
          cases h
          exact validated_ne hsends task herror
    · intro h
      cases h

theorem planModelTaggerBatches_ne (hsends : Sends validate) (tracks : List TaggedTrack)
    (hfits : ∀ tagged ∈ tracks, tagged.Fits doubles policy)
    (hids : (tracks.map (·.track.id.get)).Nodup) (start : ℕ) :
    planModelTaggerBatches doubles predictionKinds validate start
      (tracks.map (·.input doubles predictionKinds policy)) ≠ .error inputInvalid := by
  induction hspan : tracks.length using Nat.strong_induction_on generalizing tracks start with
  | _ span ih =>
    rw [planModelTaggerBatches]
    split
    · intro h
      cases h
    · next hinputs =>
      have hne : tracks ≠ [] := fun h => hinputs (by rw [h]; rfl)
      have hwidest := @widestBatch_ne doubles predictionKinds policy validate hsends tracks hne
        hfits hids 1 (min modelTagBatchSize (tracks.map
          (·.input doubles predictionKinds policy)).length) Nat.one_pos (Nat.min_le_left _ _) none
      split
      · next error herror =>
        intro h
        cases h
        exact hwidest herror
      · exact ne_inputInvalid (by decide)
      · next selected _ =>
        have hpositive := selected.positive
        have hlength := List.length_pos_iff.mpr hne
        have hrest := ih (tracks.drop selected.length).length
          (by rw [List.length_drop]; omega) (tracks.drop selected.length)
          (fun tagged hmem => hfits tagged (List.mem_of_mem_drop hmem))
          ((List.drop_sublist _ _ |>.map _).nodup hids) (start + selected.length) rfl
        rw [← List.map_drop]
        split
        · next error herror =>
          intro h
          cases h
          exact hrest herror
        · intro h
          cases h

theorem jevTask_ne (hfits : tagged.Fits doubles policy) :
    JevTaggerTask.new doubles predictionKinds questions
      (tagged.input doubles predictionKinds policy) ≠ .error inputInvalid := by
  obtain ⟨object, ids, hpredictions, hnew⟩ := @new_single doubles predictionKinds policy tagged hfits
  obtain ⟨ids', hinput⟩ := @modelTagTrackInput_eq doubles predictionKinds tagged.track tagged.context
    (tagged.catalog policy)
  have hid : ((tagged.input doubles predictionKinds policy).index "track_id").asInteger =
      some tagged.track.id.get := by
    unfold TaggedTrack.input
    rw [hinput]
    show ((JsonObject.get _ "track_id").getD .null).asInteger = _
    rw [get_trackInput (by decide)]
    rfl
  obtain ⟨observed, hobserved⟩ := @observations_ok (.object object)
    (evidenceIds predictionKinds (.object object)) fun id hmem =>
      @observation_evidenceIds (.object object) predictionKinds hpredictions id hmem
  unfold JevTaggerTask.new
  rw [hid]
  dsimp only
  rw [hnew]
  dsimp only [List.headD_cons]
  rw [hobserved]
  dsimp only
  split
  · next error _ =>
    cases error with
    | invalidRequest | requestTooLarge => exact ne_inputInvalid (by decide)
  · intro h
    cases h

theorem addJevTasks_ne (hfits : ∀ tagged ∈ tracks, tagged.Fits doubles policy) (requests : ℕ) :
    addJevTasks doubles predictionKinds questions requests
      (tracks.map (·.input doubles predictionKinds policy)) ≠ .error inputInvalid := by
  induction tracks generalizing requests with
  | nil => exact fun h => by cases h
  | cons tagged rest ih =>
    rw [List.map_cons]
    unfold addJevTasks
    split
    · next error herror =>
      intro h
      cases h
      exact jevTask_ne (hfits tagged List.mem_cons_self) herror
    · next task _ =>
      dsimp only
      split
      · exact ne_inputInvalid (by decide)
      · have hrest := ih (fun other hmem => hfits other (List.mem_cons_of_mem _ hmem))
          (requests + task.maxRequests)
        split
        · next error herror =>
          intro h
          cases h
          exact hrest herror
        · intro h
          cases h

theorem nativeBatches_ne (hfits : ∀ tagged ∈ tracks, tagged.Fits doubles policy) (start : ℕ) :
    nativeBatches doubles predictionKinds start
      (tracks.map (·.input doubles predictionKinds policy)) ≠ .error inputInvalid := by
  induction tracks generalizing start with
  | nil => exact fun h => by cases h
  | cons tagged rest ih =>
    obtain ⟨object, ids, -, hnew⟩ := @new_single doubles predictionKinds policy tagged
      (hfits tagged List.mem_cons_self)
    rw [List.map_cons]
    unfold nativeBatches
    rw [hnew]
    dsimp only
    have hrest := ih (fun other hmem => hfits other (List.mem_cons_of_mem _ hmem)) (start + 1)
    split
    · next error herror =>
      intro h
      cases h
      exact hrest herror
    · intro h
      cases h

theorem planTaggerEngineBatches_ne (hsends : Sends validate)
    (hfits : ∀ tagged ∈ tracks, tagged.Fits doubles policy)
    (hids : (tracks.map (·.track.id.get)).Nodup) (adapterId : String) :
    planTaggerEngineBatches doubles predictionKinds validate questions adapterId
      (tracks.map (·.input doubles predictionKinds policy)) ≠ .error inputInvalid := by
  unfold planTaggerEngineBatches
  split
  · exact planModelTaggerBatches_ne hsends tracks hfits hids 0
  · split
    · next error herror =>
      intro h
      obtain rfl := Except.error.inj h
      unfold planJevTagging at herror
      split at herror
      · exact ne_inputInvalid (by decide) herror
      · exact addJevTasks_ne hfits 0 herror
    · exact nativeBatches_ne hfits 0

/-- Every track of a job is accepted, and the job is planned with every adapter, exactly where
every track fits. -/
theorem tagging_plans_iff (hsends : Sends validate) {tracks : List TaggedTrack}
    (hids : (tracks.map (·.track.id.get)).Nodup) :
    ((∀ tagged ∈ tracks, ∃ batch, ModelTaggerBatch.new doubles predictionKinds
        [tagged.input doubles predictionKinds policy] = .ok batch) ∧
      ∀ adapterId, planTaggerEngineBatches doubles predictionKinds validate questions adapterId
        (tracks.map (·.input doubles predictionKinds policy)) ≠ .error inputInvalid) ↔
      ∀ tagged ∈ tracks, tagged.Fits doubles policy := by
  refine ⟨fun ⟨haccepted, _⟩ tagged hmem => ?_, fun hfits => ⟨fun tagged hmem => ?_, fun adapterId =>
    planTaggerEngineBatches_ne hsends hfits hids adapterId⟩⟩
  · by_contra hlong
    obtain ⟨batch, hbatch⟩ := haccepted tagged hmem
    have herror := @new_error doubles predictionKinds policy [tagged]
      ⟨tagged, List.mem_singleton.mpr rfl, hlong⟩
    rw [List.map_singleton, hbatch] at herror
    cases herror
  · obtain ⟨object, ids, -, hnew⟩ := @new_single doubles predictionKinds policy tagged
      (hfits tagged hmem)
    exact ⟨_, hnew⟩

end Batches

/-! ## One long artist -/

def plainDoubles : Doubles := ⟨fun duration => .naturalJson duration, fun _ => .null, fun _ => 1⟩

def plainPolicy : CatalogPolicy := ⟨fun _ => some "signature", true, false⟩

def artistTrack (id : TrackId) (path : LibraryPath) (artist : String) : TaggedTrack where
  track :=
    { id, path, duration := 120, displayTitle := "", origin := "", sizeBytes := 10,
      mtimeUnixSeconds := 20, addedAtUnixSeconds := 0, original := none,
      metadata :=
        { title := "Song", artist, albumArtist := artist, album := "Album", releaseDate := "",
          originalReleaseDate := "", composer := "", trackNo := none, discNo := none, year := none,
          genre := "folk", bpm := none } }
  context := none
  record := some ⟨id, 1, "signature", [
    ("identity", .object [("recording_mbid", .string "recording-1")]),
    ("recording_observations", .object [("genres", .strings ["chamber music"])]),
    ("retrieved_at", .naturalJson 1800000000), ("status", .string "identified")]⟩

def shortArtist : TaggedTrack := artistTrack ⟨1, Int.one_pos⟩ ⟨"a.mp3".toList, by decide⟩ "Artist"

/-- An artist tag of 513 characters, as discovery reads it. -/
def longArtist : TaggedTrack :=
  artistTrack ⟨2, TrackId.two_pos⟩ ⟨"b.mp3".toList, by decide⟩ (.ofList (List.replicate 513 'a'))

def noPredictions : Json → Option (List String) := fun _ => none

def sendsAll : ModelTaggerBatch → Bool → Except ModelTaskError Unit := fun _ _ => .ok ()

def asksOnce : ModelTaggerBatch → List (String × Json) → Except TypedRequestError ℕ :=
  fun _ _ => .ok 1

theorem tagging_plans_short :
    shortArtist.Fits plainDoubles plainPolicy ∧
    ∀ adapterId, planTaggerEngineBatches plainDoubles noPredictions sendsAll asksOnce adapterId
      [shortArtist.input plainDoubles noPredictions plainPolicy] ≠ .error inputInvalid := by
  have hfits : shortArtist.Fits plainDoubles plainPolicy := by
    refine ⟨by decide +kernel, fun record hrecord => ?_⟩
    obtain rfl := Option.some.inj hrecord
    decide +kernel
  refine ⟨hfits, ?_⟩
  have hplans := (@tagging_plans_iff plainDoubles noPredictions plainPolicy sendsAll asksOnce
    (fun _ _ h => by cases h) [shortArtist] (List.nodup_singleton _)).mpr
    fun tagged hmem => List.mem_singleton.mp hmem ▸ hfits
  exact hplans.2

/-- The track with the long artist stops the job for the other one too. -/
theorem long_artist_stops_tagging :
    shortArtist.Fits plainDoubles plainPolicy ∧
    (∀ batch, ModelTaggerBatch.new plainDoubles noPredictions
      [longArtist.input plainDoubles noPredictions plainPolicy] ≠ .ok batch) ∧
    planTaggerEngineBatches plainDoubles noPredictions sendsAll asksOnce "openai-compatible/v1"
      [shortArtist.input plainDoubles noPredictions plainPolicy,
        longArtist.input plainDoubles noPredictions plainPolicy] = .error inputInvalid := by
  have hfits : shortArtist.Fits plainDoubles plainPolicy := by
    refine ⟨by decide +kernel, fun record hrecord => ?_⟩
    obtain rfl := Option.some.inj hrecord
    decide +kernel
  have hlong : ¬ longArtist.Fits plainDoubles plainPolicy := by
    rintro ⟨htexts, -⟩
    have hartist : (String.ofList (List.replicate 513 'a')).length ≤ 512 :=
      htexts _ List.mem_cons_self
    rw [String.length_ofList, List.length_replicate] at hartist
    omega
  have hsingle := @new_error plainDoubles noPredictions plainPolicy [longArtist]
    ⟨longArtist, List.mem_singleton.mpr rfl, hlong⟩
  have hboth := @new_error plainDoubles noPredictions plainPolicy [shortArtist, longArtist]
    ⟨longArtist, by simp, hlong⟩
  obtain ⟨object, ids, -, hshort⟩ := @new_single plainDoubles noPredictions plainPolicy shortArtist
    hfits
  refine ⟨hfits, fun batch hbatch => ?_, ?_⟩
  · rw [List.map_singleton, hbatch] at hsingle
    cases hsingle
  · unfold planTaggerEngineBatches
    rw [if_pos (by decide), planModelTaggerBatches, if_neg (by simp)]
    -- the first half of the search takes the short track, the second both
    have hfirst : widestBatch plainDoubles noPredictions sendsAll
        [shortArtist.input plainDoubles noPredictions plainPolicy,
          longArtist.input plainDoubles noPredictions plainPolicy] 1 2 Nat.one_pos none =
        .error inputInvalid := by
      obtain ⟨selected, htaken⟩ := @widestBatch_taken plainDoubles noPredictions sendsAll
        [shortArtist.input plainDoubles noPredictions plainPolicy,
          longArtist.input plainDoubles noPredictions plainPolicy] 1 2 Nat.one_pos none (by decide)
        _ hshort rfl
      rw [htaken]
      exact widestBatch_refused (by decide) hboth
    have hmin : min modelTagBatchSize [shortArtist.input plainDoubles noPredictions plainPolicy,
        longArtist.input plainDoubles noPredictions plainPolicy].length = 2 := rfl
    simp only [hmin, hfirst]

end Tagging

end MusicServer
