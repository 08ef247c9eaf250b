/-
# No identity against the evidence

Whatever the catalog answers, an identity stands on one recording id at most, agrees with the
duration and, where it was found by text, with the title and the artist.  The retrieval stages
look up no recording and give no identity (`retrieveStages_keeps`), so both come from the two
lookups that `resolveIdentity` checks itself.
-/
import MusicServer.IdentityResolution

namespace MusicServer

namespace Enrichment

open LibraryIndex Dialogue

/-! ## The retrieval stages -/

/-- The exchange does not look up a recording. -/
def NoLookup (exchange : Exchange CatalogAnswer) : Prop :=
  ∀ id, exchange.1 ≠ CatalogQuestion.recording id

def Retrieval.Open (state : Retrieval) : Prop := state.result.identity = none

variable {rules : TextRules} {track hypothesis : IndexedTrack} {evidence : LocalEvidence}

theorem keeps_search {α : Type} {promised : α → Prop} {q : CatalogQuestion}
    {f : CatalogAnswer q → CatalogDialogue α} (hq : ∀ id, q ≠ CatalogQuestion.recording id)
    (hf : ∀ answer, (f answer).Keeps NoLookup promised) :
    (question q >>= f).Keeps NoLookup promised :=
  keeps_question_bind (fun _ => hq) hf

variable {state : Retrieval}

theorem keeps_isrcTurn (h : state.Open) (isrc : String) :
    (isrcTurn state isrc).Keeps NoLookup Retrieval.Open := by
  refine keeps_search (q := .searchIsrc isrc) nofun fun answer => ?_
  rcases answer with error | values
  · exact keeps_pure h
  · exact keeps_pure h

theorem keeps_isrcStage (h : state.Open) :
    (isrcStage rules track evidence state).Keeps NoLookup Retrieval.Open := by
  refine (Keeps.foldlM (fun _ isrc hstate => keeps_isrcTurn hstate isrc) _ h).bind ?_
  intro state hstate
  exact keeps_pure hstate

theorem keeps_retrieveAlbumTurn {releaseId : Option String}
    {turn : Retrieval × Bool × List (String × String)} (h : turn.1.Open) (query : IndexedTrack) :
    (retrieveAlbumTurn rules releaseId turn query).Keeps NoLookup fun turn => turn.1.Open := by
  obtain ⟨state, complete, seen⟩ := turn
  unfold retrieveAlbumTurn
  dsimp only
  split
  · exact keeps_pure h
  · refine keeps_search (q := .searchAlbumMetadata query releaseId) nofun fun answer => ?_
    rcases answer with error | values
    · exact keeps_pure h
    · exact keeps_pure h

theorem keeps_retrieveAlbumCandidates {releaseId : Option String} (h : state.Open) :
    (retrieveAlbumCandidates rules track hypothesis releaseId state).Keeps NoLookup
      fun turn => turn.1.Open := by
  have hturn : ∀ (turn : Retrieval × Bool × List (String × String)) (query : IndexedTrack),
      turn.1.Open →
        (retrieveAlbumTurn rules releaseId turn query).Keeps NoLookup fun turn => turn.1.Open :=
    fun turn query hopen => keeps_retrieveAlbumTurn hopen query
  refine (Keeps.foldlM hturn [track, hypothesis] h).bind fun turn hopen => ?_
  exact keeps_pure hopen

theorem keeps_releaseStage (h : state.Open) :
    (releaseStage rules track hypothesis evidence state).Keeps NoLookup Retrieval.Open := by
  unfold releaseStage
  split
  · exact (keeps_retrieveAlbumCandidates h).bind fun turn hopen => keeps_pure hopen
  · exact keeps_pure h

theorem keeps_metadataTurn {turn : Retrieval × List (String × String)} (h : turn.1.Open)
    (query : IndexedTrack) :
    (metadataTurn turn query).Keeps NoLookup fun turn => turn.1.Open := by
  obtain ⟨state, seen⟩ := turn
  unfold metadataTurn
  dsimp only
  split
  · exact keeps_pure h
  · refine keeps_search (q := .searchMetadata query) nofun fun answer => ?_
    rcases answer with error | values
    · exact keeps_pure h
    · exact keeps_pure h

theorem keeps_metadataStage (h : state.Open) :
    (metadataStage rules track hypothesis state).Keeps NoLookup Retrieval.Open := by
  unfold metadataStage
  split
  · exact keeps_pure h
  · have hturn : ∀ (turn : Retrieval × List (String × String)) (query : IndexedTrack),
        turn.1.Open → (metadataTurn turn query).Keeps NoLookup fun turn => turn.1.Open :=
      fun turn query hopen => keeps_metadataTurn hopen query
    refine (Keeps.foldlM hturn [track, hypothesis] h).bind fun turn hopen => ?_
    exact keeps_pure hopen

theorem keeps_albumStage (h : state.Open) :
    (albumStage rules track hypothesis evidence state).Keeps NoLookup Retrieval.Open := by
  unfold albumStage
  dsimp only
  split
  · exact keeps_pure h
  · split
    · exact (keeps_retrieveAlbumCandidates h).bind fun turn hopen => keeps_pure hopen
    · split
      · exact keeps_pure h
      · exact keeps_pure h

theorem keeps_anchorTurn {album : String} (state : AnchorState) (anchor : IndexedTrack) :
    (anchorTurn rules album state anchor).Keeps NoLookup fun _ => True := by
  refine keeps_search (q := .searchMetadata anchor) nofun fun answer => ?_
  rcases answer with error | values
  · exact keeps_pure trivial
  · dsimp only
    split
    · exact keeps_pure trivial
    · split
      · exact keeps_pure trivial
      · exact keeps_pure trivial

theorem keeps_discoverReleases (siblings : List IndexedTrack) :
    (discoverReleases rules track hypothesis evidence siblings).Keeps NoLookup fun _ => True := by
  unfold discoverReleases
  split
  · exact keeps_pure trivial
  · dsimp only
    split
    · exact keeps_pure trivial
    · split
      · exact keeps_pure trivial
      · split
        · exact keeps_pure trivial
        · refine (Keeps.foldlM (fun state anchor _ => keeps_anchorTurn state anchor) _ trivial).bind
            fun state _ => ?_
          exact keeps_pure trivial

theorem keeps_discoveryStage (siblings : List IndexedTrack) (h : state.Open) :
    (discoveryStage rules track hypothesis evidence siblings state).Keeps NoLookup
      Retrieval.Open := by
  unfold discoveryStage
  split
  · exact keeps_pure h
  · refine (keeps_discoverReleases siblings).bind fun discovery _ => ?_
    have hturn : ∀ (turn : Retrieval × Bool) (id : String), turn.1.Open →
        (discoveredTurn rules track hypothesis turn id).Keeps NoLookup fun turn => turn.1.Open :=
      fun turn id hopen => (keeps_retrieveAlbumCandidates hopen).bind fun _ hopen => keeps_pure hopen
    refine (Keeps.foldlM hturn discovery.releases h).bind fun turn hopen => ?_
    refine keeps_pure ?_
    split
    · exact hopen
    · exact hopen

theorem keeps_artistTurn (state : AliasRetrieval × BTreeMap String (BTreeSet String))
    (name : String) : (artistTurn rules state name).Keeps NoLookup fun _ => True := by
  refine keeps_search (q := .searchArtists name) nofun fun answer => ?_
  rcases answer with error | values
  · exact keeps_pure trivial
  · exact keeps_pure trivial

theorem keeps_artistRecordingsTurn {id : String} {artist : Artist} {verified : BTreeSet String}
    (state : AliasRetrieval × List (String × String)) (query : IndexedTrack) :
    (artistRecordingsTurn rules id artist verified state query).Keeps NoLookup fun _ => True := by
  unfold artistRecordingsTurn
  dsimp only
  split
  · exact keeps_pure trivial
  · refine keeps_search (q := .searchArtistRecordings query id) nofun fun answer => ?_
    rcases answer with error | values
    · exact keeps_pure trivial
    · exact keeps_pure trivial

theorem keeps_aliasTurn {queries : List IndexedTrack}
    (state : AliasRetrieval × List (String × String)) (entry : String × BTreeSet String) :
    (aliasTurn rules queries state entry).Keeps NoLookup fun _ => True := by
  refine keeps_search (q := .artist entry.1) nofun fun answer => ?_
  rcases answer with error | artist
  · exact keeps_pure trivial
  · dsimp only
    split
    · exact keeps_pure trivial
    · exact Keeps.foldlM (fun state query _ => keeps_artistRecordingsTurn state query) _ trivial

theorem keeps_retrieveAliasCandidates :
    (retrieveAliasCandidates rules track hypothesis).Keeps NoLookup fun _ => True := by
  refine (Keeps.foldlM (fun state name _ => keeps_artistTurn state name) _ trivial).bind
    fun found _ => ?_
  dsimp only
  split
  · exact keeps_pure trivial
  · refine (Keeps.foldlM (fun state entry _ => keeps_aliasTurn state entry) _ trivial).bind
      fun state _ => ?_
    exact keeps_pure trivial

theorem keeps_aliasStage (h : state.Open) :
    (aliasStage rules track hypothesis state).Keeps NoLookup Retrieval.Open := by
  unfold aliasStage
  split
  · exact keeps_pure h
  · refine keeps_retrieveAliasCandidates.bind fun aliases _ => keeps_pure ?_
    split
    · exact h
    · exact h

variable {acoustidKey : Option String}

theorem keeps_fingerprintStage (h : state.Open) :
    (fingerprintStage track acoustidKey state).Keeps NoLookup Retrieval.Open := by
  unfold fingerprintStage
  split
  · next _ _ key _ =>
    refine keeps_search (q := .fingerprintCandidates track key) nofun fun answer => ?_
    rcases answer with error | candidates
    · exact keeps_pure h
    · exact keeps_pure h
  · exact keeps_pure h

variable {result : IdentityResolution}

theorem retrieveStages_keeps (siblings : List IndexedTrack) (h : result.identity = none) :
    (retrieveStages rules track hypothesis evidence siblings acoustidKey result).Keeps NoLookup
      Retrieval.Open := by
  have hstart : Retrieval.Open ⟨∅, result, none⟩ := h
  refine (keeps_isrcStage hstart).bind fun state hstate => ?_
  refine (keeps_releaseStage hstate).bind fun state hstate => ?_
  refine (keeps_metadataStage hstate).bind fun state hstate => ?_
  refine (keeps_albumStage hstate).bind fun state hstate => ?_
  refine (keeps_discoveryStage siblings hstate).bind fun state hstate => ?_
  refine (keeps_aliasStage hstate).bind fun state hstate => ?_
  exact keeps_fingerprintStage hstate

/-! ## The lookups -/

/-- What speaks for an identity: the duration and, where it was found by text, the names. -/
structure Supported (rules : TextRules) (track hypothesis : IndexedTrack) (identity : Identity) :
    Prop where
  duration : track.duration ≠ 0 → ∀ length, identity.recording.lengthMs = some length →
    ((durationMs track : ℤ) - (length : ℤ)).natAbs ≤ 10000
  text : identity.method = .metadata ∨ identity.method = .localHypothesis →
    ∃ query ∈ [track, hypothesis],
      looseEqual rules (queryTitle query) identity.recording.title = true ∧
        looseEqual rules query.metadata.artist identity.recording.artist = true

/-- The recording that was looked up is the identity, or it is gone from the result. -/
def Settled (rules : TextRules) (track hypothesis : IndexedTrack) (result : IdentityResolution)
    (id : String) (recording : Recording) : Prop :=
  (∃ identity, result.identity = some identity ∧ identity.id = id ∧
      identity.recording = recording ∧ Supported rules track hypothesis identity) ∨
    (result.identity = none ∧ ∀ candidate ∈ result.candidates, candidate.id ≠ id)

theorem durationCompatible_sound {lengthMs : Option ℕ}
    (h : durationCompatible track lengthMs = true) (hknown : track.duration ≠ 0) :
    ∀ length, lengthMs = some length →
      ((durationMs track : ℤ) - (length : ℤ)).natAbs ≤ 10000 := by
  rintro length rfl
  simpa [durationCompatible, hknown] using h

theorem textAgrees_sound {recording : Recording}
    (h : textAgrees rules track hypothesis recording = true) :
    ∃ query ∈ [track, hypothesis], looseEqual rules (queryTitle query) recording.title = true ∧
      looseEqual rules query.metadata.artist recording.artist = true := by
  obtain ⟨query, hmem, hquery⟩ := List.any_eq_true.mp h
  rw [Bool.and_eq_true] at hquery
  exact ⟨query, hmem, hquery⟩

/-- What the last lookup leaves: every recording that was looked up is settled, and only a
looked up recording becomes the identity. -/
theorem confirmStage_settles (hopen : state.Open) {trace : List (Exchange CatalogAnswer)}
    (h : (confirmStage rules track hypothesis state).Runs trace result) :
    (∀ id recording, ⟨CatalogQuestion.recording id, Except.ok recording⟩ ∈ trace →
      Settled rules track hypothesis result id recording) ∧
    ∀ identity, result.identity = some identity → Supported rules track hypothesis identity := by
  unfold confirmStage at h
  split at h
  · obtain ⟨rfl, rfl⟩ := runs_done.mp h
    refine ⟨by simp, ?_⟩
    intro identity hidentity
    rw [hopen] at hidentity
    cases hidentity
  · next found _ =>
    obtain ⟨answer, rest, rfl, hrest⟩ := runs_question_bind.mp h
    rcases answer with error | recording
    · obtain ⟨rfl, rfl⟩ := runs_done.mp hrest
      refine ⟨?_, ?_⟩
      · intro id recording hmem
        rw [List.mem_singleton] at hmem
        cases hmem
      · intro identity hidentity
        have hnone : state.result.identity = some identity := hidentity
        rw [hopen] at hnone
        cases hnone
    · dsimp only at hrest
      split at hrest
      · obtain ⟨rfl, rfl⟩ := runs_done.mp hrest
        refine ⟨?_, ?_⟩
        · intro id recording' hmem
          rw [List.mem_singleton] at hmem
          cases hmem
          right
          refine ⟨hopen, ?_⟩
          intro candidate hcandidate
          exact of_decide_eq_true (List.mem_filter.mp hcandidate).2
        · intro identity hidentity
          have hnone : state.result.identity = some identity := hidentity
          rw [hopen] at hnone
          cases hnone
      · next hagrees =>
        obtain ⟨rfl, rfl⟩ := runs_done.mp hrest
        rw [Bool.not_eq_true, Bool.or_eq_false_iff, Bool.not_eq_false'] at hagrees
        have hsupported : Supported rules track hypothesis
            ⟨found.id, found.method, found.score, recording⟩ := by
          refine ⟨durationCompatible_sound hagrees.2, ?_⟩
          intro hmethod
          apply textAgrees_sound
          have htext : found.method.isText = true := by
            rcases hmethod with hmethod | hmethod
            · exact congrArg IdentityMethod.isText hmethod
            · exact congrArg IdentityMethod.isText hmethod
          simpa [htext] using hagrees.1
        refine ⟨?_, ?_⟩
        · intro id recording' hmem
          rw [List.mem_singleton] at hmem
          cases hmem
          exact Or.inl ⟨_, rfl, rfl, rfl, hsupported⟩
        · rintro identity hidentity
          cases hidentity
          exact hsupported

theorem resolveFromCatalog_settles {siblings : List IndexedTrack} {start : IdentityResolution}
    (hstart : start.identity = none) {trace : List (Exchange CatalogAnswer)}
    (h : (resolveFromCatalog rules track hypothesis evidence siblings acoustidKey start).Runs trace
      result) :
    (∀ id recording, ⟨CatalogQuestion.recording id, Except.ok recording⟩ ∈ trace →
      Settled rules track hypothesis result id recording) ∧
    ∀ identity, result.identity = some identity → Supported rules track hypothesis identity := by
  obtain ⟨first, state, second, rfl, hfirst, hsecond⟩ := runs_bind.mp h
  obtain ⟨hnoLookup, hopen⟩ := retrieveStages_keeps siblings hstart first state hfirst
  obtain ⟨hsettled, hsupported⟩ := confirmStage_settles hopen hsecond
  refine ⟨?_, hsupported⟩
  intro id recording hmem
  rcases List.mem_append.mp hmem with hmem | hmem
  · exact absurd rfl (hnoLookup _ hmem id)
  · exact hsettled id recording hmem

/-! ## The result -/

theorem values_of_size_le_one {ids : BTreeSet String} (hsize : ¬ 1 < ids.size) :
    ids.toList.head? = none ∧ (∀ id, id ∉ ids) ∨
      ∃ id, ids.toList.head? = some id ∧ ∀ id', id' ∈ ids ↔ id' = id := by
  have hlength : ids.toList.length = ids.size := Std.ExtTreeSet.length_toList
  rcases hlist : ids.toList with _ | ⟨id, _ | ⟨id', rest⟩⟩
  · left
    refine ⟨rfl, ?_⟩
    intro id hid
    rw [← Std.ExtTreeSet.mem_toList, hlist] at hid
    cases hid
  · right
    refine ⟨id, rfl, ?_⟩
    intro id'
    rw [← Std.ExtTreeSet.mem_toList, hlist, List.mem_singleton]
  · rw [hlist] at hlength
    simp only [List.length_cons] at hlength
    omega

/-- In every run an identity goes with the evidence: the ids at hand do not disagree, a
successful lookup of the one id is the identity, its duration and, for a text match, its names
agree; and a recording that was looked up without becoming the identity is no candidate. -/
theorem resolveIdentity_respects_evidence (rules : TextRules) (track hypothesis : IndexedTrack)
    (evidence : LocalEvidence) (siblings : List IndexedTrack) (acoustidKey : Option String)
    {trace : List (Exchange CatalogAnswer)} {result : IdentityResolution}
    (h : (resolveIdentity rules track hypothesis evidence siblings acoustidKey).Runs trace result) :
    (∀ identity, result.identity = some identity →
      (evidence.values rules .recordingMbid).size ≤ 1 ∧
      (∀ id ∈ evidence.values rules .recordingMbid, ∃ answer rest,
        trace = ⟨CatalogQuestion.recording id, answer⟩ :: rest ∧
          ∀ recording, answer = Except.ok recording →
            identity = ⟨id, .identifier, 1, recording⟩) ∧
      Supported rules track hypothesis identity) ∧
    ∀ id recording, ⟨CatalogQuestion.recording id, Except.ok recording⟩ ∈ trace →
      Settled rules track hypothesis result id recording := by
  unfold resolveIdentity at h
  dsimp only at h
  split at h
  · obtain ⟨rfl, rfl⟩ := runs_done.mp h
    exact ⟨nofun, by simp⟩
  · next hsize =>
    rcases values_of_size_le_one hsize with ⟨hhead, hnone⟩ | ⟨id, hhead, honly⟩
    · rw [hhead] at h
      obtain ⟨hsettled, hsupported⟩ := resolveFromCatalog_settles rfl h
      refine ⟨?_, hsettled⟩
      intro identity hidentity
      exact ⟨by omega, fun id hid => absurd hid (hnone id), hsupported identity hidentity⟩
    · rw [hhead] at h
      obtain ⟨answer, rest, rfl, hrest⟩ := runs_question_bind.mp h
      rcases answer with error | recording
      · obtain ⟨hsettled, hsupported⟩ := resolveFromCatalog_settles rfl hrest
        refine ⟨?_, ?_⟩
        · intro identity hidentity
          refine ⟨by omega, ?_, hsupported identity hidentity⟩
          intro id' hid'
          rw [(honly id').mp hid']
          exact ⟨_, _, rfl, nofun⟩
        · intro id' recording hmem
          rcases List.mem_cons.mp hmem with hmem | hmem
          · cases hmem
          · exact hsettled id' recording hmem
      · dsimp only at hrest
        split at hrest
        · next hduration =>
          obtain ⟨rfl, rfl⟩ := runs_done.mp hrest
          have hsupported : Supported rules track hypothesis ⟨id, .identifier, 1, recording⟩ :=
            ⟨durationCompatible_sound hduration, by simp⟩
          refine ⟨?_, ?_⟩
          · rintro identity hidentity
            cases hidentity
            refine ⟨by omega, ?_, hsupported⟩
            intro id' hid'
            obtain rfl := (honly id').mp hid'
            refine ⟨_, _, rfl, ?_⟩
            rintro recording' hanswer
            cases hanswer
            rfl
          · intro id' recording' hmem
            rw [List.mem_singleton] at hmem
            cases hmem
            exact Or.inl ⟨_, rfl, rfl, rfl, hsupported⟩
        · obtain ⟨rfl, rfl⟩ := runs_done.mp hrest
          refine ⟨nofun, ?_⟩
          intro id' recording' hmem
          exact Or.inr ⟨rfl, nofun⟩

/-- Texts compared letter by letter, for one file and one identifier. -/
def plainRules : TextRules where
  nfkd := id
  isCombiningMark _ := false
  toLowercase c := [c.toLower]
  isAlphanumeric := Char.isAlphanum
  lowercase := String.toLower
  debug := id
  parseUuid _ := some 1

def finale : IndexedTrack where
  id := ⟨1, Int.one_pos⟩
  path := ⟨"finale.mp3".toList, by decide⟩
  metadata := ⟨"Finale", "Composer", "", "", "", "", "", none, none, none, "", none⟩
  duration := 120 * 10 ^ 9
  displayTitle := "Finale"
  origin := "library"
  sizeBytes := 1
  mtimeUnixSeconds := 0
  addedAtUnixSeconds := 0
  original := none

def finaleRecording : Recording :=
  ⟨"Finale", "Composer", [], [], none, [], true, [], [], [], some 121000⟩

def finaleEvidence : LocalEvidence := ⟨[⟨.recordingMbid, "1", "ID3v2"⟩], []⟩

theorem resolveIdentity_respects_evidence_finale :
    Supported plainRules finale finale
      ⟨"00000000-0000-0000-0000-000000000001", .identifier, 1, finaleRecording⟩ := by
  have hrun : (resolveIdentity plainRules finale finale finaleEvidence [] none).Runs
      [⟨.recording "00000000-0000-0000-0000-000000000001", .ok finaleRecording⟩] _ :=
    .ask _ (.done _)
  have hresult := (resolveIdentity_respects_evidence plainRules finale finale finaleEvidence []
    none hrun).1
  exact (hresult _ rfl).2.2

end Enrichment

end MusicServer
