/-
# The releases that siblings agree on

What `discover_releases` concludes depends on the recordings its searches are matched to and on
nothing else of them: each recording counts once, and the releases are those that all counted
recordings list.  A search that failed leaves no conclusion.

* `anchors_runs`: the searches of a run, and the state they lead to;
* `releases_agreed`: a conclusion is the agreement of the counted recordings;
* `discovery_agreed`: what a conclusion says about siblings, recordings and disc folders.
-/
import MusicServer.CandidateSelection
import MusicServer.IdentityEvidence

namespace MusicServer

namespace Enrichment

open LibraryIndex Dialogue

/-! ## Searches -/

/-- A sibling and what the catalog answered to the search for it. -/
abbrev Search := IndexedTrack × Except CatalogError (List Candidate)

def traceOf (searches : List Search) : List (Exchange CatalogAnswer) :=
  searches.map fun search => ⟨.searchMetadata search.1, search.2⟩

def Search.failed (search : Search) : Bool :=
  match search.2 with
  | .error _ => true
  | .ok _ => false

variable (rules : TextRules)

/-- The candidate that a search is matched to. -/
def pick (search : Search) : Option Candidate :=
  match search.2 with
  | .error _ => none
  | .ok values => (selectCandidate rules search.1 (values.take 25)).map Prod.fst

/-! ## Counting recordings -/

/-- A sibling and the recording it stands for. -/
abbrev Matched := IndexedTrack × Candidate

/-- A recording counts for the first sibling that is matched to it. -/
def countMatch (counted : List Matched) (picked : IndexedTrack × Option Candidate) :
    List Matched :=
  match picked.2 with
  | none => counted
  | some candidate =>
    if candidate.id ∈ counted.map fun item => item.2.id then counted
    else counted ++ [(picked.1, candidate)]

def countedOf (picks : List (IndexedTrack × Option Candidate)) : List Matched :=
  picks.foldl countMatch []

def recordingsOf (counted : List Matched) : BTreeSet String :=
  counted.foldl (fun recordings item => recordings.insert item.2.id) ∅

/-- One more recording narrows what is shared. -/
def narrow (album : String) (common : Option (BTreeSet String)) (item : Matched) :
    Option (BTreeSet String) :=
  some (match common with
    | none => eligibleReleases rules album item.2
    | some previous => previous.filter fun id => id ∈ eligibleReleases rules album item.2)

def sharedOf (album : String) (counted : List Matched) : Option (BTreeSet String) :=
  counted.foldl (narrow rules album) none

/-- The releases that the counted recordings agree on. -/
def agreement (album : String) (counted : List Matched) : List String :=
  if counted.length < 2 then []
  else
    let releases := (sharedOf rules album counted).getD ∅
    if releases.size = 0 ∨ maxReleases < releases.size then [] else releases.toList

def concluded (album : String) (searches : List Search) : List String :=
  if searches.any Search.failed then []
  else agreement rules album (countedOf (searches.map fun search => (search.1, pick rules search)))

variable {rules}
variable {counted : List Matched}

theorem countMatch_nodup (h : (counted.map fun item => item.2.id).Nodup)
    (picked : IndexedTrack × Option Candidate) :
    ((countMatch counted picked).map fun item => item.2.id).Nodup := by
  unfold countMatch
  split
  · exact h
  · next candidate hpicked =>
    split
    · exact h
    · next hnew =>
      rw [List.map_append, List.nodup_append]
      refine ⟨h, List.nodup_singleton _, fun id hid other hother => ?_⟩
      rw [List.map_singleton, List.mem_singleton] at hother
      rw [hother]
      exact fun heq => hnew (heq ▸ hid)

theorem countedOf_nodup (picks : List (IndexedTrack × Option Candidate)) :
    ((countedOf picks).map fun item => item.2.id).Nodup := by
  unfold countedOf
  refine List.foldlRecOn (motive := fun counted : List Matched =>
    (counted.map fun item => item.2.id).Nodup) _ _ ?_ ?_
  · exact List.nodup_nil
  · intro counted h picked _
    exact countMatch_nodup h picked

theorem mem_recordingsOf {id : String} :
    id ∈ recordingsOf counted ↔ id ∈ counted.map fun item => item.2.id := by
  unfold recordingsOf
  induction counted using List.reverseRecOn with
  | nil => simp
  | append_singleton counted item ih =>
    rw [List.foldl_append, List.foldl_cons, List.foldl_nil, Std.ExtTreeSet.mem_insert, ih,
      List.map_append, List.mem_append, List.map_singleton, List.mem_singleton,
      Std.compare_eq_iff_eq]
    tauto

theorem size_recordingsOf (h : (counted.map fun item => item.2.id).Nodup) :
    (recordingsOf counted).size = counted.length := by
  induction counted using List.reverseRecOn with
  | nil => rfl
  | append_singleton counted item ih =>
    rw [List.map_append, List.nodup_append] at h
    have hnew : item.2.id ∉ recordingsOf counted := by
      rw [mem_recordingsOf]
      exact fun hmem => h.2.2 _ hmem _ (List.mem_singleton_self _) rfl
    have hinsert : recordingsOf (counted ++ [item]) = (recordingsOf counted).insert item.2.id := by
      unfold recordingsOf
      rw [List.foldl_append]
      rfl
    rw [hinsert, Std.ExtTreeSet.size_insert, if_neg (by rwa [Std.ExtTreeSet.contains_iff_mem]),
      ih h.1, List.length_append]
    rfl

theorem mem_filter_set {ids : BTreeSet String} {keep : String → Bool} {id : String} :
    id ∈ ids.filter keep ↔ id ∈ ids ∧ keep id = true := by
  rw [Std.ExtTreeSet.mem_filter]
  constructor
  · rintro ⟨hmem, hkeep⟩
    rw [Std.ExtTreeSet.get_eq] at hkeep
    exact ⟨hmem, hkeep⟩
  · rintro ⟨hmem, hkeep⟩
    refine ⟨hmem, ?_⟩
    rwa [Std.ExtTreeSet.get_eq]

variable {album : String}

theorem mem_sharedOf {shared : BTreeSet String} (h : sharedOf rules album counted = some shared)
    (id : String) :
    id ∈ shared ↔ ∀ item ∈ counted, id ∈ eligibleReleases rules album item.2 := by
  induction counted using List.reverseRecOn generalizing shared with
  | nil => cases h
  | append_singleton counted item ih =>
    unfold sharedOf at h ih
    rw [List.foldl_append, List.foldl_cons, List.foldl_nil] at h
    obtain rfl := Option.some.inj h
    simp only [List.mem_append, List.mem_singleton, or_imp, forall_and, forall_eq]
    split
    · next hnone =>
      have hempty : counted = [] := by
        cases hcounted : counted using List.reverseRecOn with
        | nil => rfl
        | append_singleton front last =>
          rw [hcounted, List.foldl_append] at hnone
          cases hnone
      subst hempty
      simp
    · next previous hprevious =>
      rw [← ih hprevious, mem_filter_set, decide_eq_true_iff]

/-! ## The searches of a run -/

/-- The state after the answer to one search. -/
def afterSearch (rules : TextRules) (album : String) (state : AnchorState) (search : Search) :
    AnchorState :=
  match search.2 with
  | .error error =>
    let text := error.annotate ("Sibling lookup for track " ++ toString search.1.id.get ++
      " was unavailable; no album hint will be inferred from this incomplete lookup.")
    { state with discovery := { state.discovery.note text with incomplete := true } }
  | .ok values =>
    match selectCandidate rules search.1 (values.take 25) with
    | none =>
      { state with discovery := state.discovery.note (trackLabel rules search.1 ++
        " returned " ++ toString (min values.length 25) ++
        " candidates but no unambiguous title/artist/duration match.") }
    | some (candidate, _) =>
      if candidate.id ∈ state.recordings then state
      else
        let releases := eligibleReleases rules album candidate
        let discovery := state.discovery.note (trackLabel rules search.1 ++ " matched recording " ++
          candidate.id ++ " and supplied " ++ toString releases.size ++
          " eligible release hints for album " ++ rules.debug album ++ ".")
        let common := match state.common with
          | none => releases
          | some previous => previous.filter fun id => id ∈ releases
        ⟨discovery, state.recordings.insert candidate.id, some common⟩

theorem anchorTurn_eq (album : String) (state : AnchorState) (anchor : IndexedTrack) :
    anchorTurn rules album state anchor =
      (question (.searchMetadata anchor) >>= fun answer =>
        pure (afterSearch rules album state (anchor, answer))) := by
  refine congrArg (Dialogue.ask _) (funext fun answer => ?_)
  unfold afterSearch
  rcases answer with error | values
  · rfl
  · dsimp only [Dialogue.bind]
    cases selectCandidate rules anchor (values.take 25) with
    | none => rfl
    | some selected =>
      by_cases hseen : selected.1.id ∈ state.recordings
      · simp only [if_pos hseen]
      · cases hcommon : state.common <;> simp only [if_neg hseen]

theorem anchors_runs {anchors : List IndexedTrack} {state last : AnchorState}
    {trace : List (Exchange CatalogAnswer)} :
    (anchors.foldlM (anchorTurn rules album) state).Runs trace last ↔
      ∃ searches : List Search, searches.map Prod.fst = anchors ∧ trace = traceOf searches ∧
        last = searches.foldl (afterSearch rules album) state := by
  induction anchors generalizing state trace with
  | nil =>
    rw [List.foldlM_nil]
    constructor
    · intro h
      obtain ⟨rfl, rfl⟩ := runs_done.mp h
      exact ⟨[], rfl, rfl, rfl⟩
    · rintro ⟨searches, hnil, rfl, rfl⟩
      rw [List.map_eq_nil_iff] at hnil
      subst hnil
      exact .done _
  | cons anchor rest ih =>
    rw [List.foldlM_cons, anchorTurn_eq]
    constructor
    · intro h
      obtain ⟨first, next, second, rfl, hfirst, hsecond⟩ := runs_bind.mp h
      obtain ⟨answer, empty, rfl, hanswer⟩ := runs_question_bind.mp hfirst
      obtain ⟨rfl, rfl⟩ := runs_done.mp hanswer
      obtain ⟨searches, rfl, rfl, rfl⟩ := ih.mp hsecond
      exact ⟨(anchor, answer) :: searches, rfl, rfl, rfl⟩
    · rintro ⟨searches, hanchors, rfl, rfl⟩
      cases searches with
      | nil => cases hanchors
      | cons search searches =>
        obtain ⟨rfl, hrest⟩ := List.cons.inj hanchors
        refine runs_bind.mpr ⟨[⟨.searchMetadata search.1, search.2⟩],
          afterSearch rules album state search, traceOf searches, rfl, ?_,
          ih.mpr ⟨searches, hrest, rfl, rfl⟩⟩
        exact runs_question_bind.mpr ⟨search.2, [], rfl, .done _⟩

/-- What a state has counted, beside its notes. -/
structure Tallied (rules : TextRules) (album : String) (state : AnchorState)
    (counted : List Matched) (failed : Bool) : Prop where
  recordings : state.recordings = recordingsOf counted
  common : state.common = sharedOf rules album counted
  incomplete : state.discovery.incomplete = failed
  releases : state.discovery.releases = []

theorem tallied_afterSearch {state : AnchorState} {failed : Bool}
    (h : Tallied rules album state counted failed) (search : Search) :
    Tallied rules album (afterSearch rules album state search)
      (countMatch counted (search.1, pick rules search)) (failed || search.failed) := by
  unfold afterSearch pick Search.failed
  cases hanswer : search.2 with
  | error error => exact ⟨h.recordings, h.common, (Bool.or_true _).symm, h.releases⟩
  | ok values =>
    dsimp only
    rw [Bool.or_false]
    cases hselected : selectCandidate rules search.1 (values.take 25) with
    | none => exact ⟨h.recordings, h.common, h.incomplete, h.releases⟩
    | some selected =>
      obtain ⟨candidate, score⟩ := selected
      dsimp only [Option.map_some, countMatch]
      have hmem : candidate.id ∈ state.recordings ↔
          candidate.id ∈ counted.map fun item => item.2.id := by
        rw [h.recordings, mem_recordingsOf]
      by_cases hseen : candidate.id ∈ state.recordings
      · rw [if_pos hseen, if_pos (hmem.mp hseen)]
        exact h
      · rw [if_neg hseen, if_neg fun hcounted => hseen (hmem.mpr hcounted)]
        refine ⟨?_, ?_, h.incomplete, h.releases⟩
        · unfold recordingsOf
          rw [List.foldl_append, h.recordings]
          rfl
        · unfold sharedOf
          rw [List.foldl_append, h.common]
          rfl

theorem tallied_searches {state : AnchorState} {failed : Bool}
    (h : Tallied rules album state counted failed) (searches : List Search) :
    Tallied rules album (searches.foldl (afterSearch rules album) state)
      ((searches.map fun search => (search.1, pick rules search)).foldl countMatch counted)
      (failed || searches.any Search.failed) := by
  induction searches generalizing state counted failed with
  | nil =>
    rw [List.any_nil, Bool.or_false]
    exact h
  | cons search rest ih =>
    rw [List.any_cons, ← Bool.or_assoc]
    exact ih (tallied_afterSearch h search)

theorem agreedReleases_releases {state : AnchorState} {failed : Bool}
    (h : Tallied rules album state counted failed)
    (hnodup : (counted.map fun item => item.2.id).Nodup) :
    (agreedReleases state).releases = if failed then [] else agreement rules album counted := by
  unfold agreedReleases agreement
  rw [h.recordings, size_recordingsOf hnodup, h.incomplete, h.common]
  cases failed with
  | true => simpa using h.releases
  | false =>
    by_cases hfew : counted.length < 2
    · rw [if_pos (.inl hfew), if_pos hfew]
      exact h.releases
    · rw [if_neg (by simpa using hfew), if_neg hfew]
      dsimp only
      split
      · exact h.releases
      · rfl

theorem searches_concluded {discovery : Discovery} (hincomplete : discovery.incomplete = false)
    (hreleases : discovery.releases = []) (searches : List Search) :
    (agreedReleases (searches.foldl (afterSearch rules album) ⟨discovery, ∅, none⟩)).releases =
      concluded rules album searches := by
  have hstart : Tallied rules album ⟨discovery, ∅, none⟩ [] false :=
    ⟨rfl, rfl, hincomplete, hreleases⟩
  have hlast := tallied_searches hstart searches
  rw [agreedReleases_releases hlast (countedOf_nodup _), Bool.false_or]
  rfl

/-! ## What is asked -/

/-- The album and the siblings that the catalog is asked for, if it is asked at all. -/
def askedAnchors (rules : TextRules) (track hypothesis : IndexedTrack) (evidence : LocalEvidence)
    (indexedSiblings : List IndexedTrack) : Option (String × List IndexedTrack) :=
  if parentOf track = [] then none
  else
    let (siblings, acrossDiscs, _) := siblingGroup rules track hypothesis evidence indexedSiblings
    match (siblings.map fun sibling => trim sibling.metadata.album).find? fun album =>
        album ≠ "" with
    | none => none
    | some album =>
      let disagrees (other : String) := trim other ≠ "" && !looseEqual rules album other
      if siblings.any (fun sibling => disagrees sibling.metadata.album) ∨
          disagrees hypothesis.metadata.album then none
      else
        let anchors := chooseAnchors rules (anchorsOf rules track acrossDiscs album siblings)
          maxAnchors [] ∅
        if anchors.length < 2 then none else some (album, anchors)

section Runs

variable {track hypothesis : IndexedTrack} {evidence : LocalEvidence}
  {indexedSiblings : List IndexedTrack} {trace : List (Exchange CatalogAnswer)}
  {result : Discovery}

theorem siblingGroup_quiet :
    (siblingGroup rules track hypothesis evidence indexedSiblings).2.2.incomplete = false ∧
      (siblingGroup rules track hypothesis evidence indexedSiblings).2.2.releases = [] := by
  unfold siblingGroup
  dsimp only
  split
  · split
    · exact ⟨rfl, rfl⟩
    · exact ⟨rfl, rfl⟩
  · exact ⟨rfl, rfl⟩

theorem discoverReleases_quiet
    (hasked : askedAnchors rules track hypothesis evidence indexedSiblings = none) :
    ∃ quiet, quiet.releases = [] ∧
      discoverReleases rules track hypothesis evidence indexedSiblings = .done quiet := by
  have hreleases : (siblingGroup rules track hypothesis evidence indexedSiblings).2.2.releases = [] :=
    siblingGroup_quiet.2
  unfold askedAnchors at hasked
  unfold discoverReleases
  split
  · exact ⟨_, rfl, rfl⟩
  · next hfolder =>
    rw [if_neg hfolder] at hasked
    dsimp only at hasked ⊢
    split
    · exact ⟨_, hreleases, rfl⟩
    · next album halbum =>
      rw [halbum] at hasked
      dsimp only at hasked
      split
      · refine ⟨_, ?_, rfl⟩
        exact hreleases
      · next hagree =>
        rw [if_neg hagree] at hasked
        split
        · exact ⟨_, hreleases, rfl⟩
        · next hmany =>
          rw [if_neg hmany] at hasked
          cases hasked

theorem discoverReleases_asked {album : String} {anchors : List IndexedTrack}
    (hasked : askedAnchors rules track hypothesis evidence indexedSiblings =
      some (album, anchors)) :
    ∃ discovery, discovery.incomplete = false ∧ discovery.releases = [] ∧
      discoverReleases rules track hypothesis evidence indexedSiblings =
        (anchors.foldlM (anchorTurn rules album) ⟨discovery, ∅, none⟩ >>= fun state =>
          pure (agreedReleases state)) := by
  have hquiet :
      (siblingGroup rules track hypothesis evidence indexedSiblings).2.2.incomplete = false ∧
        (siblingGroup rules track hypothesis evidence indexedSiblings).2.2.releases = [] :=
    siblingGroup_quiet
  refine ⟨_, hquiet.1, hquiet.2, ?_⟩
  unfold askedAnchors at hasked
  unfold discoverReleases
  split
  · next hfolder =>
    rw [if_pos hfolder] at hasked
    cases hasked
  · next hfolder =>
    rw [if_neg hfolder] at hasked
    dsimp only at hasked ⊢
    split
    · next halbum =>
      rw [halbum] at hasked
      cases hasked
    · next album' halbum =>
      rw [halbum] at hasked
      dsimp only at hasked
      split
      · next hagree =>
        rw [if_pos hagree] at hasked
        cases hasked
      · next hagree =>
        rw [if_neg hagree] at hasked
        split
        · next hmany =>
          rw [if_pos hmany] at hasked
          cases hasked
        · next hmany =>
          rw [if_neg hmany] at hasked
          cases hasked
          rfl

theorem discoverReleases_runs {album : String} {anchors : List IndexedTrack}
    (hasked : askedAnchors rules track hypothesis evidence indexedSiblings =
      some (album, anchors))
    (hruns : (discoverReleases rules track hypothesis evidence indexedSiblings).Runs trace result) :
    ∃ searches : List Search, searches.map Prod.fst = anchors ∧ trace = traceOf searches ∧
      result.releases = concluded rules album searches := by
  obtain ⟨discovery, hincomplete, hreleases, hloop⟩ := discoverReleases_asked hasked
  rw [hloop] at hruns
  obtain ⟨first, state, second, rfl, hfirst, hsecond⟩ := runs_bind.mp hruns
  obtain ⟨searches, hanchors, rfl, rfl⟩ := anchors_runs.mp hfirst
  obtain ⟨rfl, rfl⟩ := runs_done.mp hsecond
  exact ⟨searches, hanchors, List.append_nil _, searches_concluded hincomplete hreleases searches⟩

theorem discoverReleases_run {album : String} {searches : List Search}
    (hasked : askedAnchors rules track hypothesis evidence indexedSiblings =
      some (album, searches.map Prod.fst)) :
    ∃ result, (discoverReleases rules track hypothesis evidence indexedSiblings).Runs
      (traceOf searches) result ∧ result.releases = concluded rules album searches := by
  obtain ⟨discovery, hincomplete, hreleases, hloop⟩ := discoverReleases_asked hasked
  rw [hloop]
  refine ⟨_, runs_bind.mpr ⟨traceOf searches, _, [], (List.append_nil _).symm,
    anchors_runs.mpr ⟨searches, rfl, rfl, rfl⟩, .done _⟩, ?_⟩
  exact searches_concluded hincomplete hreleases searches

end Runs

/-! ## Who is asked -/

theorem mem_chooseAnchors {anchors chosen : List IndexedTrack} {count : ℕ}
    {folders : BTreeSet (List Char)} {anchor : IndexedTrack}
    (h : anchor ∈ chooseAnchors rules anchors count chosen folders) :
    anchor ∈ chosen ∨ anchor ∈ anchors := by
  induction count generalizing chosen folders with
  | zero => exact .inl h
  | succ count ih =>
    unfold chooseAnchors at h
    dsimp only at h
    split at h
    · exact .inl h
    · next next hnext =>
      rcases ih h with hchosen | hanchor
      · rcases List.mem_append.mp hchosen with hold | hnew
        · exact .inl hold
        · rw [List.mem_singleton.mp hnew]
          rcases Option.or_eq_some_iff.mp hnext with hfresh | ⟨-, hfirst⟩
          · exact .inr (List.mem_of_mem_filter (List.mem_of_find?_eq_some hfresh))
          · exact .inr (List.mem_of_mem_filter (List.mem_of_head? hfirst))
      · exact .inr hanchor

theorem chooseAnchors_pairwise {anchors chosen : List IndexedTrack} {count : ℕ}
    {folders : BTreeSet (List Char)}
    (h : chosen.Pairwise fun left right =>
      looseEqual rules left.metadata.title right.metadata.title = false) :
    (chooseAnchors rules anchors count chosen folders).Pairwise fun left right =>
      looseEqual rules left.metadata.title right.metadata.title = false := by
  induction count generalizing chosen folders with
  | zero => exact h
  | succ count ih =>
    unfold chooseAnchors
    dsimp only
    split
    · exact h
    · next next hnext =>
      have hdistinct : next ∈ anchors.filter fun sibling =>
          !chosen.any fun seen => looseEqual rules seen.metadata.title sibling.metadata.title := by
        rcases Option.or_eq_some_iff.mp hnext with hfresh | ⟨-, hfirst⟩
        · exact List.mem_of_find?_eq_some hfresh
        · exact List.mem_of_head? hfirst
      have hnew := (List.mem_filter.mp hdistinct).2
      rw [Bool.not_eq_true', List.any_eq_false] at hnew
      refine ih (List.pairwise_append.mpr ⟨h, List.pairwise_singleton _ _, ?_⟩)
      intro seen hseen other hother
      rw [List.mem_singleton.mp hother]
      exact Bool.eq_false_iff.mpr (hnew seen hseen)

/-- The folder of the sibling has the number, which its disc tag does not contradict. -/
def OnDisc (sibling : IndexedTrack) (disc : ℕ) : Prop :=
  (discLocation sibling).map Prod.snd = some disc ∧ ∀ number ∈ sibling.metadata.discNo, number = disc

theorem validateDiscSibling_ok {folders folders' : BTreeMap ℕ (List Char)} {sibling : IndexedTrack}
    (h : validateDiscSibling rules album folders sibling = .ok folders') :
    ∃ disc, OnDisc sibling disc ∧ folders' = folders.insert disc (parentOf sibling) ∧
      ∀ previous ∈ folders[disc]?, previous = parentOf sibling := by
  unfold validateDiscSibling at h
  split at h
  · cases h
  · next folder disc hlocation =>
    dsimp only at h
    split at h
    · cases h
    · next hclaimed =>
      split at h
      · cases h
      · split at h
        · cases h
        · next htag =>
          split at h
          · cases h
          · cases h
            refine ⟨disc, ⟨?_, ?_⟩, rfl, ?_⟩
            · rw [hlocation]
              rfl
            · intro number hnumber
              rw [hnumber] at htag
              simpa using htag
            · intro previous hprevious
              rw [hprevious] at hclaimed
              simpa using hclaimed

/-- The folders that have been seen, by their numbers. -/
def Claimed (folders : BTreeMap ℕ (List Char)) (seen : List IndexedTrack) : Prop :=
  ∀ sibling ∈ seen, ∃ disc, OnDisc sibling disc ∧ folders[disc]? = some (parentOf sibling)

theorem claimed_siblings {folders folders' : BTreeMap ℕ (List Char)}
    {seen siblings : List IndexedTrack} (h : Claimed folders seen)
    (hok : siblings.foldlM (validateDiscSibling rules album) folders = .ok folders') :
    Claimed folders' (seen ++ siblings) := by
  induction siblings generalizing folders seen with
  | nil =>
    cases hok
    rw [List.append_nil]
    exact h
  | cons sibling rest ih =>
    rw [List.foldlM_cons] at hok
    obtain ⟨next, hnext, hrest⟩ := bind_eq_ok.mp hok
    obtain ⟨disc, hdisc, rfl, hprevious⟩ := validateDiscSibling_ok hnext
    have hclaimed : Claimed (folders.insert disc (parentOf sibling)) (seen ++ [sibling]) := by
      intro other hother
      rcases List.mem_append.mp hother with hold | hnew
      · obtain ⟨number, hnumber, hfolder⟩ := h other hold
        refine ⟨number, hnumber, ?_⟩
        rw [Std.ExtTreeMap.getElem?_insert]
        by_cases hsame : disc = number
        · subst hsame
          rw [if_pos (by simp), hprevious _ hfolder]
        · rw [if_neg (by simpa using hsame)]
          exact hfolder
      · rw [List.mem_singleton.mp hnew]
        exact ⟨disc, hdisc, by simp⟩
    have hlast := ih hclaimed hrest
    rwa [List.append_assoc] at hlast

/-- Every folder has its own number, and its tracks' tags agree with it. -/
def Numbered (participants : List IndexedTrack) : Prop :=
  ∀ sibling ∈ participants, ∃ disc, OnDisc sibling disc ∧
    ∀ other ∈ participants, (discLocation other).map Prod.snd = some disc →
      parentOf other = parentOf sibling

theorem numbered_of_claimed {folders : BTreeMap ℕ (List Char)} {participants : List IndexedTrack}
    (h : Claimed folders participants) : Numbered participants := by
  intro sibling hsibling
  obtain ⟨disc, hdisc, hfolder⟩ := h sibling hsibling
  refine ⟨disc, hdisc, fun other hother hsame => ?_⟩
  obtain ⟨number, hnumber, hclaimed⟩ := h other hother
  have heq : number = disc := Option.some.inj (hnumber.1.symm.trans hsame)
  rw [heq, hfolder] at hclaimed
  exact (Option.some.inj hclaimed).symm

theorem validateDiscGroup_ok {hypothesis : IndexedTrack} {evidence : LocalEvidence}
    {siblings : List IndexedTrack}
    (h : validateDiscGroup rules hypothesis evidence siblings = .ok ()) :
    Numbered (siblings ++ [hypothesis]) := by
  unfold validateDiscGroup at h
  dsimp only at h
  split at h
  · cases h
  · split at h
    · cases h
    · split at h
      · cases h
      · split at h
        · cases h
        · have hnone : Claimed ∅ ([] : List IndexedTrack) :=
            fun sibling hsibling => absurd hsibling List.not_mem_nil
          cases hfolders : (siblings ++ [hypothesis]).foldlM (validateDiscSibling rules
              (trim hypothesis.metadata.album)) ∅ with
          | error reason =>
            rw [hfolders] at h
            cases h
          | ok folders =>
            have hall := claimed_siblings hnone hfolders
            rw [List.nil_append] at hall
            exact numbered_of_claimed hall

/-- The siblings that take part: those of the track's folder, or all of the disc folders. -/
def participants (rules : TextRules) (track hypothesis : IndexedTrack) (evidence : LocalEvidence)
    (indexedSiblings : List IndexedTrack) : List IndexedTrack :=
  (siblingGroup rules track hypothesis evidence indexedSiblings).1

section Agreement

variable {track hypothesis : IndexedTrack} {evidence : LocalEvidence}
  {indexedSiblings : List IndexedTrack}

theorem participants_numbered (hfar : ∃ sibling ∈ participants rules track hypothesis evidence
      indexedSiblings, parentOf sibling ≠ parentOf track) :
    Numbered (participants rules track hypothesis evidence indexedSiblings ++ [hypothesis]) := by
  obtain ⟨sibling, hsibling, hfar⟩ := hfar
  unfold participants siblingGroup at hsibling ⊢
  dsimp only at hsibling ⊢
  split at hsibling
  · next hany =>
    split at hsibling
    · have hnear := (List.mem_filter.mp hsibling).2
      exact absurd (of_decide_eq_true hnear) hfar
    · next hvalid =>
      rw [if_pos hany]
      exact validateDiscGroup_ok hvalid
  · next hnear =>
    refine absurd (List.any_eq_true.mpr ⟨sibling, hsibling, ?_⟩) hnear
    exact decide_eq_true hfar

/-- The tagged siblings and the hypothesis are of one album. -/
structure OneAlbum (rules : TextRules) (hypothesis : IndexedTrack) (siblings : List IndexedTrack)
    (album : String) : Prop where
  tagged : album ≠ "" ∧ ∃ sibling ∈ siblings, trim sibling.metadata.album = album
  siblings : ∀ sibling ∈ siblings, trim sibling.metadata.album ≠ "" →
    looseEqual rules album sibling.metadata.album = true
  hypothesis : trim hypothesis.metadata.album ≠ "" →
    looseEqual rules album hypothesis.metadata.album = true

theorem askedAnchors_spec {album : String} {anchors : List IndexedTrack}
    (h : askedAnchors rules track hypothesis evidence indexedSiblings = some (album, anchors)) :
    OneAlbum rules hypothesis (participants rules track hypothesis evidence indexedSiblings)
        album ∧
      (∀ anchor ∈ anchors,
        anchor ∈ participants rules track hypothesis evidence indexedSiblings ∧
          anchor.id ≠ track.id) ∧
      anchors.Pairwise fun left right =>
        looseEqual rules left.metadata.title right.metadata.title = false := by
  unfold askedAnchors at h
  split at h
  · cases h
  · dsimp only at h
    split at h
    · cases h
    · next album' halbum =>
      split at h
      · cases h
      · next hagree =>
        split at h
        · cases h
        · cases h
          rw [not_or, Bool.not_eq_true, Bool.not_eq_true, List.any_eq_false] at hagree
          have hsame : ∀ other : String, ¬ (trim other ≠ "" && !looseEqual rules album other) = true →
              trim other ≠ "" → looseEqual rules album other = true := by
            intro other hother htagged
            simpa [htagged] using hother
          have hfound := List.find?_some halbum
          obtain ⟨sibling, hsibling, htrim⟩ := List.mem_map.mp (List.mem_of_find?_eq_some halbum)
          refine ⟨⟨⟨of_decide_eq_true hfound, sibling, hsibling, htrim⟩,
            fun sibling hsibling => hsame _ (hagree.1 sibling hsibling),
            hsame _ (Bool.eq_false_iff.mp hagree.2)⟩, ?_, chooseAnchors_pairwise .nil⟩
          intro anchor hanchor
          rcases mem_chooseAnchors hanchor with hnone | hanchor
          · exact absurd hnone List.not_mem_nil
          · unfold anchorsOf at hanchor
            rw [List.mem_mergeSort] at hanchor
            obtain ⟨hmem, hother⟩ := List.mem_filter.mp hanchor
            simp only [Bool.and_eq_true, decide_eq_true_iff] at hother
            exact ⟨hmem, hother.1.1.1⟩

/-! ## Conclusions -/

theorem mem_countMatch {counted : List Matched} {picked : IndexedTrack × Option Candidate}
    {item : Matched} (h : item ∈ countMatch counted picked) :
    item ∈ counted ∨ picked = (item.1, some item.2) := by
  obtain ⟨anchor, candidate⟩ := picked
  unfold countMatch at h
  dsimp only at h
  split at h
  · exact .inl h
  · split at h
    · exact .inl h
    · rcases List.mem_append.mp h with hold | hnew
      · exact .inl hold
      · rw [List.mem_singleton.mp hnew]
        exact .inr rfl

theorem countedOf_append (picks : List (IndexedTrack × Option Candidate))
    (picked : IndexedTrack × Option Candidate) :
    countedOf (picks ++ [picked]) = countMatch (countedOf picks) picked := by
  unfold countedOf
  rw [List.foldl_append]
  rfl

theorem mem_countedOf {picks : List (IndexedTrack × Option Candidate)} {item : Matched}
    (h : item ∈ countedOf picks) : (item.1, some item.2) ∈ picks := by
  induction picks using List.reverseRecOn with
  | nil => exact absurd h List.not_mem_nil
  | append_singleton picks picked ih =>
    rw [countedOf_append] at h
    rcases mem_countMatch h with hold | hnew
    · exact List.mem_append_left _ (ih hold)
    · rw [hnew]
      exact List.mem_append_right _ (List.mem_singleton_self _)

theorem countedOf_complete {picks : List (IndexedTrack × Option Candidate)}
    {anchor : IndexedTrack} {candidate : Candidate} (h : (anchor, some candidate) ∈ picks) :
    ∃ item ∈ countedOf picks, item.2.id = candidate.id := by
  induction picks using List.reverseRecOn with
  | nil => exact absurd h List.not_mem_nil
  | append_singleton picks picked ih =>
    rw [countedOf_append]
    have hkept : ∀ item ∈ countedOf picks, item ∈ countMatch (countedOf picks) picked := by
      intro item hitem
      unfold countMatch
      split
      · exact hitem
      · split
        · exact hitem
        · exact List.mem_append_left _ hitem
    rcases List.mem_append.mp h with hold | hnew
    · obtain ⟨item, hitem, hid⟩ := ih hold
      exact ⟨item, hkept item hitem, hid⟩
    · obtain rfl := List.mem_singleton.mp hnew
      by_cases hseen : candidate.id ∈ (countedOf picks).map fun item => item.2.id
      · obtain ⟨item, hitem, hid⟩ := List.mem_map.mp hseen
        exact ⟨item, hkept item hitem, hid⟩
      · have hcounted : countMatch (countedOf picks) (anchor, some candidate)
            = countedOf picks ++ [(anchor, candidate)] := if_neg hseen
        rw [hcounted]
        exact ⟨_, List.mem_append_right _ (List.mem_singleton_self _), rfl⟩

theorem countedOf_sublist (picks : List (IndexedTrack × Option Candidate)) :
    ((countedOf picks).map Prod.fst).Sublist (picks.map Prod.fst) := by
  induction picks using List.reverseRecOn with
  | nil => exact .refl _
  | append_singleton picks picked ih =>
    rw [countedOf_append, List.map_append]
    unfold countMatch
    split
    · exact ih.trans (List.sublist_append_left _ _)
    · split
      · exact ih.trans (List.sublist_append_left _ _)
      · rw [List.map_append]
        exact ih.append (.refl _)

theorem agreement_spec {album : String} {counted : List Matched}
    (h : agreement rules album counted ≠ []) :
    2 ≤ counted.length ∧ (agreement rules album counted).length ≤ maxReleases ∧
      ∀ id ∈ agreement rules album counted, ∀ item ∈ counted,
        id ∈ eligibleReleases rules album item.2 := by
  unfold agreement at h ⊢
  split at h
  · exact absurd rfl h
  · next hmany =>
    rw [if_neg hmany]
    dsimp only at h ⊢
    split at h
    · exact absurd rfl h
    · next hsize =>
      rw [if_neg hsize]
      rw [not_or, not_lt] at hsize
      refine ⟨not_lt.mp hmany, ?_, fun id hid => ?_⟩
      · rw [Std.ExtTreeSet.length_toList]
        exact hsize.2
      · cases hshared : sharedOf rules album counted with
        | none =>
          rw [hshared] at hid
          simp at hid
        | some shared =>
          rw [hshared, Std.ExtTreeSet.mem_toList] at hid
          exact (mem_sharedOf hshared id).mp hid

/-- The recording lists the release for the album, as official or without a status. -/
def Lists (rules : TextRules) (album : String) (candidate : Candidate) (id : String) : Prop :=
  ∃ release ∈ candidate.releases.take 100, (release.status = none ∨ release.status = some "Official") ∧
    looseEqual rules album release.title = true ∧
    normalizedValue rules .releaseMbid release.id = some id

theorem lists_of_eligible {album : String} {candidate : Candidate} {id : String}
    (h : id ∈ eligibleReleases rules album candidate) : Lists rules album candidate id := by
  unfold eligibleReleases at h
  rw [Std.ExtTreeSet.mem_ofList, List.contains_iff_mem] at h
  obtain ⟨release, hrelease, hid⟩ := List.mem_filterMap.mp h
  obtain ⟨hmem, heligible⟩ := List.mem_filter.mp hrelease
  rw [Bool.and_eq_true] at heligible
  refine ⟨release, hmem, ?_, heligible.2, hid⟩
  cases hstatus : release.status with
  | none => exact .inl rfl
  | some status =>
    rw [hstatus] at heligible
    exact .inr (congrArg some (of_decide_eq_true heligible.1))

/-- What a conclusion stands on: the siblings that took part, the one album, and the matched
siblings whose recordings were counted. -/
structure AgreedDiscovery (rules : TextRules) (track hypothesis : IndexedTrack)
    (siblings : List IndexedTrack) (trace : List (Exchange CatalogAnswer)) (releases : List String)
    (album : String) (counted : List Matched) : Prop where
  answered : ∀ exchange ∈ trace, ∃ anchor values,
    exchange = ⟨.searchMetadata anchor, (.ok values : Except CatalogError (List Candidate))⟩
  oneAlbum : OneAlbum rules hypothesis siblings album
  matched : ∀ item ∈ counted, item.1 ∈ siblings ∧ item.1.id ≠ track.id ∧ ∃ values score,
    ⟨.searchMetadata item.1, (.ok values : Except CatalogError (List Candidate))⟩ ∈ trace ∧
      selectCandidate rules item.1 (values.take 25) = some (item.2, score)
  complete : ∀ anchor values candidate score,
    ⟨.searchMetadata anchor, (.ok values : Except CatalogError (List Candidate))⟩ ∈ trace →
      selectCandidate rules anchor (values.take 25) = some (candidate, score) →
      ∃ item ∈ counted, item.2.id = candidate.id
  several : 2 ≤ counted.length
  distinct : counted.Pairwise fun left right =>
    looseEqual rules left.1.metadata.title right.1.metadata.title = false ∧
      left.2.id ≠ right.2.id
  listed : ∀ id ∈ releases, ∀ item ∈ counted, Lists rules album item.2 id
  few : releases.length ≤ maxReleases
  discs : (∃ sibling ∈ siblings, parentOf sibling ≠ parentOf track) →
    Numbered (siblings ++ [hypothesis])

theorem mem_traceOf {searches : List Search} {anchor : IndexedTrack} {values : List Candidate} :
    ⟨.searchMetadata anchor, (.ok values : Except CatalogError (List Candidate))⟩
        ∈ traceOf searches ↔ (anchor, .ok values) ∈ searches := by
  unfold traceOf
  rw [List.mem_map]
  constructor
  · rintro ⟨⟨anchor', answer⟩, hsearch, heq⟩
    obtain ⟨hquery, hanswer⟩ := Sigma.mk.inj heq
    obtain rfl := CatalogQuestion.searchMetadata.inj hquery
    obtain rfl := eq_of_heq hanswer
    exact hsearch
  · exact fun h => ⟨_, h, rfl⟩

theorem mem_picks {searches : List Search} {anchor : IndexedTrack} {candidate : Candidate} :
    (anchor, some candidate) ∈ searches.map (fun search => (search.1, pick rules search)) ↔
      ∃ values score, (anchor, .ok values) ∈ searches ∧
        selectCandidate rules anchor (values.take 25) = some (candidate, score) := by
  rw [List.mem_map]
  constructor
  · rintro ⟨⟨anchor', answer⟩, hsearch, heq⟩
    obtain ⟨rfl, hpick⟩ := Prod.mk.inj heq
    cases answer with
    | error error => cases hpick
    | ok values =>
      obtain ⟨⟨candidate', score⟩, hselected, rfl⟩ := Option.map_eq_some_iff.mp hpick
      exact ⟨values, score, hsearch, hselected⟩
  · rintro ⟨values, score, hsearch, hselected⟩
    refine ⟨_, hsearch, Prod.ext rfl ?_⟩
    show (selectCandidate rules anchor (values.take 25)).map Prod.fst = some candidate
    rw [hselected]
    rfl

theorem discovery_agreed {trace : List (Exchange CatalogAnswer)} {result : Discovery}
    (hruns : (discoverReleases rules track hypothesis evidence indexedSiblings).Runs trace result)
    (hsome : result.releases ≠ []) :
    ∃ album counted, AgreedDiscovery rules track hypothesis
      (participants rules track hypothesis evidence indexedSiblings) trace result.releases album
      counted := by
  cases hasked : askedAnchors rules track hypothesis evidence indexedSiblings with
  | none =>
    obtain ⟨quiet, hquiet, hdone⟩ := discoverReleases_quiet hasked
    rw [hdone] at hruns
    obtain ⟨-, rfl⟩ := runs_done.mp hruns
    exact absurd hquiet hsome
  | some asked =>
    obtain ⟨album, anchors⟩ := asked
    obtain ⟨searches, rfl, rfl, hreleases⟩ := discoverReleases_runs hasked hruns
    obtain ⟨halbum, hanchors, htitles⟩ := askedAnchors_spec hasked
    rw [hreleases] at hsome ⊢
    unfold concluded at hsome ⊢
    split at hsome
    · exact absurd rfl hsome
    · next hanswered =>
      rw [if_neg hanswered]
      obtain ⟨hseveral, hfew, hlisted⟩ := agreement_spec hsome
      have hsub := countedOf_sublist (searches.map fun search => (search.1, pick rules search))
      have hmatched : ∀ item ∈ countedOf (searches.map fun search => (search.1, pick rules search)),
          ∃ values score, (item.1, .ok values) ∈ searches ∧
            selectCandidate rules item.1 (values.take 25) = some (item.2, score) :=
        fun item hitem => mem_picks.mp (mem_countedOf hitem)
      refine ⟨album, countedOf (searches.map fun search => (search.1, pick rules search)),
        ⟨?_, halbum, ?_, ?_, hseveral, ?_, fun id hid item hitem =>
          lists_of_eligible (hlisted id hid item hitem), hfew, participants_numbered⟩⟩
      · intro exchange hexchange
        obtain ⟨⟨anchor, answer⟩, hsearch, rfl⟩ := List.mem_map.mp hexchange
        cases answer with
        | error error => exact absurd (List.any_eq_true.mpr ⟨_, hsearch, rfl⟩) hanswered
        | ok values => exact ⟨anchor, values, rfl⟩
      · intro item hitem
        obtain ⟨values, score, hsearch, hselected⟩ := hmatched item hitem
        obtain ⟨hmem, hother⟩ := hanchors item.1 (List.mem_map_of_mem hsearch)
        exact ⟨hmem, hother, values, score, mem_traceOf.mpr hsearch, hselected⟩
      · intro anchor values candidate score htrace hselected
        exact countedOf_complete (mem_picks.mpr ⟨values, score, mem_traceOf.mp htrace, hselected⟩)
      · have hcountedTitles : (countedOf (searches.map fun search =>
            (search.1, pick rules search))).Pairwise fun left right =>
              looseEqual rules left.1.metadata.title right.1.metadata.title = false := by
          have hanchorsSub : ((countedOf (searches.map fun search =>
              (search.1, pick rules search))).map Prod.fst).Sublist (searches.map Prod.fst) := by
            rw [List.map_map] at hsub
            exact hsub
          exact List.pairwise_map.mp (htitles.sublist hanchorsSub)
        exact hcountedTitles.and (List.pairwise_map.mp (countedOf_nodup _))

/-- A piece of one album, by its place in the folder. -/
def opening : IndexedTrack :=
  { finale with
    path := ⟨"suite/a.mp3".toList, by decide⟩
    metadata := { finale.metadata with title := "Opening", album := "Suite" } }

def interlude : IndexedTrack :=
  { opening with
    id := ⟨2, TrackId.two_pos⟩
    path := ⟨"suite/b.mp3".toList, by decide⟩
    metadata := { opening.metadata with title := "Interlude" } }

def closing : IndexedTrack :=
  { opening with
    id := ⟨4, by decide⟩
    path := ⟨"suite/c.mp3".toList, by decide⟩
    metadata := { opening.metadata with title := "Closing" } }

def suiteRelease : ReleaseSummary :=
  ⟨"00000000-0000-0000-0000-000000000001", "Suite", some "Official"⟩

def openingFound : Candidate := ⟨"opening", "Opening", "Composer", none, [suiteRelease], 1⟩

def interludeFound : Candidate := ⟨"interlude", "Interlude", "Composer", none, [suiteRelease], 1⟩

def suiteSearches : List Search := [(opening, .ok [openingFound]), (interlude, .ok [interludeFound])]

theorem suite_asked :
    askedAnchors plainRules closing closing ⟨[], []⟩ [opening, interlude] =
      some ("Suite", suiteSearches.map Prod.fst) := by
  have hcontext : indexedContext closing [opening, interlude] = [opening, interlude] := by
    unfold indexedContext
    have hall : ([opening, interlude].filter fun sibling =>
        parentOf sibling = parentOf closing ||
          (discLocation closing).any fun disc =>
            (rsplitOnce '/' (parentOf sibling)).any fun folders =>
              folders.1 = disc.1 && (cleanupDiscFolderNumber (String.ofList folders.2)).isSome) =
        [opening, interlude] := by
      decide +kernel
    rw [hall]
    exact List.mergeSort_of_pairwise (by decide +kernel)
  have hanchors : anchorsOf plainRules closing false "Suite" [opening, interlude] =
      [opening, interlude] := by
    unfold anchorsOf
    have hall : ([opening, interlude].filter fun sibling =>
        sibling.id ≠ closing.id && trim sibling.metadata.title ≠ "" &&
          trim sibling.metadata.artist ≠ "" && looseEqual plainRules "Suite" sibling.metadata.album) =
        [opening, interlude] := by
      decide +kernel
    dsimp only
    rw [hall]
    exact List.mergeSort_of_pairwise (by decide +kernel)
  have hgroup : siblingGroup plainRules closing closing ⟨[], []⟩ [opening, interlude] =
      ([opening, interlude], false, Discovery.empty) := by
    unfold siblingGroup
    rw [hcontext]
    decide +kernel
  unfold askedAnchors
  rw [hgroup, if_neg (by decide)]
  have halbum : ([opening, interlude].map fun sibling => trim sibling.metadata.album).find?
      (fun album => album ≠ "") = some "Suite" := by
    decide +kernel
  dsimp only
  rw [halbum]
  dsimp only
  rw [hanchors]
  decide +kernel

theorem suite_picked : suiteSearches.map (fun search => (search.1, pick plainRules search)) =
    [(opening, some openingFound), (interlude, some interludeFound)] := by
  have hopening : selectCandidate plainRules opening [openingFound] = some (openingFound, 95 / 100) := by
    rw [selectCandidate_eq]
    decide +kernel
  have hinterlude : selectCandidate plainRules interlude [interludeFound] =
      some (interludeFound, 95 / 100) := by
    rw [selectCandidate_eq]
    decide +kernel
  simp [suiteSearches, pick, hopening, hinterlude]

theorem suite_concluded :
    concluded plainRules "Suite" suiteSearches = ["00000000-0000-0000-0000-000000000001"] := by
  unfold concluded
  rw [if_neg (by decide), suite_picked]
  decide +kernel

theorem discovery_agreed_suite :
    ∃ trace result, (discoverReleases plainRules closing closing ⟨[], []⟩
        [opening, interlude]).Runs trace result ∧
      ∃ album counted, AgreedDiscovery plainRules closing closing
        (participants plainRules closing closing ⟨[], []⟩ [opening, interlude]) trace
        result.releases album counted := by
  obtain ⟨result, hruns, hreleases⟩ := discoverReleases_run suite_asked
  have hsome : result.releases ≠ [] := by
    rw [hreleases, suite_concluded]
    decide
  exact ⟨_, result, hruns, discovery_agreed hruns hsome⟩

end Agreement

end Enrichment

end MusicServer
