/-
# Comparing the editions of an album

`edition_review.rs`: a folder of tracks is compared with the track lists of several releases, and
one of them may be recommended.  Nothing in the code keeps a second one from being recommended.
It follows from what a recommendation needs: all titles of the release are titles of the folder,
and one of them is on no other release (`compareEditions_recommended`).
-/
import MusicServer.IdentityResolution

namespace MusicServer.Album

open Enrichment

-- names and titles are compared as lists of characters
local instance lawfulNames : LawfulBEq (List Char) := inferInstance

export LibraryIndex (IndexedTrack)

/-! ## The source -/

structure ReleaseSlot where
  id : String
  recordingId : String
  title : String
  artist : String
  lengthMs : Option ℕ
  trackNo : Option ℕ
  discNo : Option ℕ
  deriving DecidableEq, Inhabited

structure ReleaseDetail where
  disambiguation : String
  formats : List String
  labels : List String
  tracklistComplete : Bool
  id : String
  title : String
  slots : List ReleaseSlot
  deriving DecidableEq

structure DistinguishingTrack where
  title : String
  discNo : Option ℕ
  trackNo : Option ℕ
  present : Bool
  durationAgrees : Bool
  deriving DecidableEq

structure EditionReview where
  releaseId : String
  comparedReleaseIds : List String
  title : String
  description : String
  formats : List String
  labels : List String
  folderTracks : ℕ
  comparedTracks : ℕ
  releaseTracks : ℕ
  titleMatches : ℕ
  durationMatches : ℕ
  durationConflicts : ℕ
  distinguishingTracks : List DistinguishingTrack
  distinguishingTracksTotal : ℕ
  missingTitles : List String
  missingTitlesTotal : ℕ
  complete : Bool
  recommended : Bool
  deriving DecidableEq

/-- How far the duration of a track is from a length, where both are known. -/
def delta (track : IndexedTrack) (slot : ReleaseSlot) : Option ℕ :=
  (slot.lengthMs.filter fun _ => track.duration ≠ 0).map fun length =>
    ((Enrichment.durationMs track : ℤ) - (length : ℤ)).natAbs

section Source

variable (rules : TextRules)

def trackKey (track : IndexedTrack) : List Char := cleanupLooseKey rules track.metadata.title

def slotKey (slot : ReleaseSlot) : List Char := cleanupLooseKey rules slot.title

def titled (tracks : List IndexedTrack) (key : List Char) : List IndexedTrack :=
  tracks.filter fun track => trackKey rules track = key

/-- The slot of a track; repeated titles, here or there, are not guessed at. -/
def slotOf (tracks : List IndexedTrack) (slots : List ReleaseSlot) (track : IndexedTrack) :
    Option ReleaseSlot :=
  let key := trackKey rules track
  match slots.filter fun slot => key ≠ [] && slotKey rules slot = key with
  | [slot] => if (titled rules tracks key).length ≠ 1 then none else some slot
  | _ => none

/-- A slot whose title is on no other release. -/
def difference (releases : List ReleaseDetail) (tracks : List IndexedTrack) (index : ℕ)
    (slot : ReleaseSlot) : Option DistinguishingTrack :=
  let key := slotKey rules slot
  let keys := releases.map fun release => (release.slots.take 500).map (slotKey rules)
  if key = [] then none
  else if 1 < releases.length && keys.zipIdx.all fun other => other.2 = index || key ∉ other.1 then
    let found := titled rules tracks key
    some ⟨slot.title, slot.discNo, slot.trackNo, found.length = 1,
      match found with
      | [track] => (delta track slot).any fun delta => delta ≤ 2000
      | _ => false⟩
  else none

def reviewEdition (releases : List ReleaseDetail) (tracks : List IndexedTrack)
    (alternativesComplete : Bool) (release : ReleaseDetail) (index : ℕ) : EditionReview :=
  let locals := tracks.take 100
  let slots := release.slots.take 500
  let matched := locals.filterMap fun track =>
    (slotOf rules locals slots track).map fun slot => (track, slot)
  let durationMatches := matched.countP fun pair => (delta pair.1 pair.2).any (· ≤ 2000)
  let missing := slots.filter fun slot =>
    slotKey rules slot ≠ [] && (titled rules locals (slotKey rules slot)).isEmpty
  let differences := slots.filterMap (difference rules releases locals index)
  let complete := alternativesComplete && tracks.length ≤ 100 &&
    releases.all fun release => release.tracklistComplete && release.slots.length ≤ 500
  { releaseId := release.id
    comparedReleaseIds := releases.map (·.id)
    title := release.title
    description := release.disambiguation
    formats := release.formats
    labels := release.labels
    folderTracks := tracks.length
    comparedTracks := locals.length
    releaseTracks := release.slots.length
    titleMatches := matched.length
    durationMatches
    durationConflicts := matched.countP fun pair => (delta pair.1 pair.2).any (10000 < ·)
    -- Useful distinctions come first.
    distinguishingTracks := (differences.mergeSort fun left right =>
      (left.present && left.durationAgrees) || !(right.present && right.durationAgrees)).take 8
    distinguishingTracksTotal := differences.length
    missingTitles := (missing.map (·.title)).take 8
    missingTitlesTotal := missing.length
    complete
    recommended := complete && !locals.isEmpty && locals.length = release.slots.length &&
      durationMatches = locals.length &&
      differences.any fun difference => difference.present && difference.durationAgrees }

def compareEditions (releases : List ReleaseDetail) (tracks : List IndexedTrack)
    (alternativesComplete : Bool) : List EditionReview :=
  releases.zipIdx.map fun entry =>
    reviewEdition rules releases tracks alternativesComplete entry.1 entry.2

end Source

/-! ## What a recommendation needs -/

section Recommended

variable {rules : TextRules} {releases : List ReleaseDetail} {tracks : List IndexedTrack}
  {slots : List ReleaseSlot}

variable {slot : ReleaseSlot}

theorem slotOf_eq_some {track : IndexedTrack} :
    slotOf rules tracks slots track = some slot ↔
      (slots.filter fun slot => trackKey rules track ≠ [] && slotKey rules slot =
           trackKey rules track) =
        [slot] ∧ (titled rules tracks (trackKey rules track)).length = 1 := by
  unfold slotOf
  dsimp only
  generalize slots.filter _ = found
  constructor
  · intro h
    split at h
    · split at h
      · cases h
      · next hone =>
        obtain rfl := Option.some.inj h
        exact ⟨rfl, not_not.mp hone⟩
    · cases h
  · rintro ⟨rfl, hone⟩
    exact if_neg (not_not.mpr hone)

theorem slotOf_mem {track : IndexedTrack} (h : slotOf rules tracks slots track = some slot) :
    slot ∈ slots ∧ trackKey rules track ≠ [] ∧ slotKey rules slot = trackKey rules track := by
  have hmem : slot ∈ slots.filter _ := (slotOf_eq_some.mp h).1 ▸ List.mem_singleton_self slot
  obtain ⟨hslot, hkey⟩ := List.mem_filter.mp hmem
  exact ⟨hslot, by simpa using hkey⟩

/-- A track has a slot for its title and agrees with its length. -/
def Agrees (rules : TextRules) (tracks : List IndexedTrack) (slots : List ReleaseSlot)
    (track : IndexedTrack) : Prop :=
  ∃ slot, slotOf rules tracks slots track = some slot ∧ ∃ d, delta track slot = some d ∧ d ≤ 2000

/-- The title is on one of the releases, there are others, and one track has it and agrees. -/
def Distinguishes (rules : TextRules) (releases : List ReleaseDetail) (tracks : List IndexedTrack)
    (slot : ReleaseSlot) : Prop :=
  slotKey rules slot ≠ [] ∧ 1 < releases.length ∧
    (releases.countP fun release => slotKey rules slot ∈ release.slots.map (slotKey rules)) = 1 ∧
    ∃ track, titled rules tracks (slotKey rules slot) = [track] ∧
      ∃ d, delta track slot = some d ∧ d ≤ 2000

/-- What the recommendation of a release needs, whatever the order of releases and tracks. -/
structure Recommends (rules : TextRules) (releases : List ReleaseDetail)
    (tracks : List IndexedTrack) (alternativesComplete : Bool) (release : ReleaseDetail) :
    Prop where
  known : alternativesComplete = true
  folder : tracks.length ≤ 100 ∧ tracks ≠ []
  complete : ∀ other ∈ releases, other.tracklistComplete = true ∧ other.slots.length ≤ 500
  size : tracks.length = release.slots.length
  agrees : ∀ track ∈ tracks, Agrees rules tracks release.slots track
  distinct : ∃ slot ∈ release.slots, Distinguishes rules releases tracks slot

theorem any_le_iff {value : Option ℕ} {limit : ℕ} :
    (value.any fun d => decide (d ≤ limit)) = true ↔ ∃ d, value = some d ∧ d ≤ limit := by
  cases value <;> simp

theorem durationMatches_eq_iff : ((tracks.filterMap fun track =>
      (slotOf rules tracks slots track).map fun slot => (track, slot)).countP fun pair =>
        (delta pair.1 pair.2).any (· ≤ 2000)) = tracks.length ↔
    ∀ track ∈ tracks, Agrees rules tracks slots track := by
  rw [List.countP_filterMap, List.countP_eq_length]
  refine forall₂_congr fun track _ => ?_
  unfold Agrees
  cases hslot : slotOf rules tracks slots track with
  | none => simp
  | some slot => simp [any_le_iff]

theorem only_iff_countP {α : Type} {P : α → Bool} {xs : List α} {index : ℕ} {x : α}
    (hx : xs[index]? = some x) (hP : P x = true) :
    (∀ place other, xs[place]? = some other → place = index ∨ P other = false) ↔
      xs.countP P = 1 := by
  induction xs generalizing index with
  | nil => cases hx
  | cons y ys ih =>
    cases index with
    | zero =>
      obtain rfl := Option.some.inj hx
      rw [List.countP_cons_of_pos hP, Nat.add_eq_right, List.countP_eq_zero]
      constructor
      · intro h other hother
        obtain ⟨place, hplace⟩ := List.getElem?_of_mem hother
        have hout := (h (place + 1) other hplace).resolve_left (Nat.succ_ne_zero place)
        rw [hout]
        exact Bool.false_ne_true
      · rintro h (_ | place) other hother
        · exact .inl rfl
        · exact .inr (Bool.not_eq_true _ ▸ h other (List.mem_of_getElem? hother))
    | succ index =>
      have hx' : ys[index]? = some x := hx
      have hpos : 0 < ys.countP P := List.countP_pos_iff.mpr ⟨x, List.mem_of_getElem? hx', hP⟩
      constructor
      · intro h
        have hhead := (h 0 y rfl).resolve_left (Nat.succ_ne_zero index).symm
        rw [List.countP_cons_of_neg (by rw [hhead]; exact Bool.false_ne_true)]
        refine (ih hx').mp fun place other hother => ?_
        exact (h (place + 1) other hother).imp_left Nat.succ.inj
      · intro h
        rw [List.countP_cons] at h
        have hhead : P y = false := by
          by_contra hy
          rw [if_pos (Bool.eq_true_of_not_eq_false hy)] at h
          omega
        have hrest : ys.countP P = 1 := by
          rw [hhead] at h
          exact h
        rintro (_ | place) other hother
        · obtain rfl := Option.some.inj hother
          exact .inr hhead
        · exact ((ih hx').mpr hrest place other hother).imp_left (congrArg Nat.succ)

variable {release : ReleaseDetail}

theorem others_iff {index : ℕ} (hrelease : releases[index]? = some release)
    (hslot : slot ∈ release.slots) (hsizes : ∀ other ∈ releases, other.slots.length ≤ 500) :
    (((releases.map fun release => (release.slots.take 500).map (slotKey rules)).zipIdx.all
        fun other => other.2 = index || slotKey rules slot ∉ other.1) = true) ↔
      (releases.countP fun release => 
        slotKey rules slot ∈ release.slots.map (slotKey rules)) = 1 := by
  rw [← only_iff_countP hrelease (by simpa using ⟨slot, hslot, rfl⟩), List.all_eq_true]
  constructor
  · intro h place other hother
    have hentry := h ((other.slots.take 500).map (slotKey rules), place)
      (List.mk_mem_zipIdx_iff_getElem?.mpr (by rw [List.getElem?_map, hother]; rfl))
    rw [List.take_of_length_le (hsizes other (List.mem_of_getElem? hother))] at hentry
    simpa using hentry
  · rintro h ⟨keys, place⟩ hentry
    rw [List.mk_mem_zipIdx_iff_getElem?, List.getElem?_map, Option.map_eq_some_iff] at hentry
    obtain ⟨other, hother, rfl⟩ := hentry
    rw [List.take_of_length_le (hsizes other (List.mem_of_getElem? hother))]
    simpa using h place other hother

theorem difference_eq_some {index : ℕ} (hrelease : releases[index]? = some release)
    (hslot : slot ∈ release.slots) (hsizes : ∀ other ∈ releases, other.slots.length ≤ 500) :
    ((difference rules releases tracks index slot).any fun found =>
      found.present && found.durationAgrees) = true ↔ Distinguishes rules releases tracks slot := by
  unfold difference Distinguishes
  rw [← others_iff hrelease hslot hsizes]
  dsimp only
  by_cases hkey : slotKey rules slot = []
  · simp [hkey]
  · rw [if_neg hkey]
    split
    · next hothers =>
      rw [Bool.and_eq_true, decide_eq_true_eq] at hothers
      cases htitled : titled rules tracks (slotKey rules slot) with
      | nil => simp
      | cons track rest =>
        cases rest with
        | nil =>
          change ((true : Bool) && (delta track slot).any fun d => decide (d ≤ 2000)) = true ↔ _
          rw [Bool.true_and, any_le_iff]
          constructor
          · intro h
            exact ⟨hkey, hothers.1, hothers.2, track, rfl, h⟩
          · rintro ⟨-, -, -, other, hother, h⟩
            cases hother
            exact h
        | cons other rest => simp
    · next hothers =>
      rw [Bool.and_eq_true, decide_eq_true_eq] at hothers
      constructor
      · intro h
        cases h
      · rintro ⟨-, hmany, hall, -⟩
        exact absurd ⟨hmany, hall⟩ hothers

variable {alternativesComplete : Bool}

theorem reviewEdition_recommended {index : ℕ} (hrelease : releases[index]? = some release) :
    (reviewEdition rules releases tracks alternativesComplete release index).recommended = true ↔
      Recommends rules releases tracks alternativesComplete release := by
  have hmem := List.mem_of_getElem? hrelease
  unfold reviewEdition
  simp only [Bool.and_eq_true, decide_eq_true_eq, List.all_eq_true, List.any_filterMap,
    Bool.not_eq_true', List.isEmpty_eq_false_iff]
  constructor
  · rintro ⟨⟨⟨⟨⟨⟨hknown, hfew⟩, hcomplete⟩, hne⟩, hsize⟩, hagrees⟩, hdistinct⟩
    have hslots : release.slots.take 500 = release.slots :=
      List.take_of_length_le (hcomplete release hmem).2
    rw [List.take_of_length_le hfew, hslots] at hagrees
    rw [List.take_of_length_le hfew] at hne hsize
    rw [List.take_of_length_le hfew, hslots, List.any_eq_true] at hdistinct
    obtain ⟨slot, hslot, hdifference⟩ := hdistinct
    exact ⟨hknown, ⟨hfew, hne⟩, hcomplete, hsize, durationMatches_eq_iff.mp hagrees, slot, hslot,
      (difference_eq_some hrelease hslot fun other hother => (hcomplete other hother).2).mp
        hdifference⟩
  · rintro ⟨hknown, ⟨hfew, hne⟩, hcomplete, hsize, hagrees, slot, hslot, hdistinct⟩
    rw [List.take_of_length_le hfew, List.take_of_length_le (hcomplete release hmem).2]
    refine ⟨⟨⟨⟨⟨⟨hknown, hfew⟩, hcomplete⟩, hne⟩, hsize⟩, durationMatches_eq_iff.mpr hagrees⟩, ?_⟩
    exact List.any_eq_true.mpr ⟨slot, hslot, (difference_eq_some hrelease hslot fun other hother =>
      (hcomplete other hother).2).mpr hdistinct⟩

/-! ## Titles and slots, one to one -/

/-- Tracks and slots in pairs of one title and about one length, and no title twice. -/
structure Corresponds (rules : TextRules) (tracks : List IndexedTrack) (slots : List ReleaseSlot)
    (pairs : List (IndexedTrack × ReleaseSlot)) : Prop where
  folder : pairs.map Prod.fst = tracks
  release : (pairs.map Prod.snd).Perm slots
  titles : ∀ pair ∈ pairs, trackKey rules pair.1 ≠ [] ∧ slotKey rules pair.2 = trackKey rules pair.1
  distinct : (tracks.map (trackKey rules)).Nodup
  durations : ∀ pair ∈ pairs, ∃ d, delta pair.1 pair.2 = some d ∧ d ≤ 2000

theorem trackKey_nodup (h : ∀ track ∈ tracks, Agrees rules tracks slots track) :
    (tracks.map (trackKey rules)).Nodup := by
  refine List.nodup_iff_count_le_one.mpr fun key => ?_
  by_cases hmem : key ∈ tracks.map (trackKey rules)
  · obtain ⟨track, htrack, rfl⟩ := List.mem_map.mp hmem
    obtain ⟨slot, hslot, -⟩ := h track htrack
    have hone := (slotOf_eq_some.mp hslot).2
    unfold titled at hone
    rw [← List.countP_eq_length_filter] at hone
    rw [List.count_eq_countP, List.countP_map]
    refine le_of_eq (Eq.trans ?_ hone)
    refine List.countP_congr fun other _ => ?_
    simp
  · rw [List.count_eq_zero_of_not_mem hmem]
    exact Nat.zero_le 1

theorem Recommends.corresponds (h : Recommends rules releases tracks alternativesComplete release) :
    ∃ pairs, Corresponds rules tracks release.slots pairs := by
  have hdistinct := trackKey_nodup h.agrees
  choose! slot hslot using h.agrees
  have hkeys : ∀ track ∈ tracks, slotKey rules (slot track) = trackKey rules track :=
    fun track htrack => (slotOf_mem (hslot track htrack).1).2.2
  have hnodup : (tracks.map slot).Nodup := by
    refine List.Nodup.of_map (slotKey rules) ?_
    have hsame : (tracks.map slot).map (slotKey rules) = tracks.map (trackKey rules) := by
      rw [List.map_map]
      exact List.map_congr_left hkeys
    rwa [hsame]
  have hsub : tracks.map slot ⊆ release.slots := by
    intro s hs
    obtain ⟨track, htrack, rfl⟩ := List.mem_map.mp hs
    exact (slotOf_mem (hslot track htrack).1).1
  refine ⟨tracks.map fun track => (track, slot track), ?_, ?_, fun pair hpair => ?_, hdistinct,
    fun pair hpair => ?_⟩
  · rw [List.map_map]
    exact List.map_id tracks
  · rw [List.map_map]
    exact (hnodup.subperm hsub).perm_of_length_le (by rw [List.length_map, h.size])
  · obtain ⟨track, htrack, rfl⟩ := List.mem_map.mp hpair
    exact (slotOf_mem (hslot track htrack).1).2
  · obtain ⟨track, htrack, rfl⟩ := List.mem_map.mp hpair
    exact (hslot track htrack).2

theorem Recommends.mem_keys (h : Recommends rules releases tracks alternativesComplete release)
    {key : List Char} :
    key ∈ release.slots.map (slotKey rules) ↔ key ∈ tracks.map (trackKey rules) := by
  obtain ⟨pairs, hpairs⟩ := h.corresponds
  have hsame : (pairs.map Prod.snd).map (slotKey rules) =
      (pairs.map Prod.fst).map (trackKey rules) := by
    rw [List.map_map, List.map_map]
    exact List.map_congr_left fun pair hpair => (hpairs.titles pair hpair).2
  rw [← (hpairs.release.map (slotKey rules)).mem_iff, hsame, hpairs.folder]

theorem Recommends.index_unique {left right : ℕ} {a b : ReleaseDetail}
    (hleft : releases[left]? = some a) (hright : releases[right]? = some b)
    (ha : Recommends rules releases tracks alternativesComplete a)
    (hb : Recommends rules releases tracks alternativesComplete b) : left = right := by
  obtain ⟨slot, hslot, -, -, hcount, -⟩ := ha.distinct
  have hkey : slotKey rules slot ∈ a.slots.map (slotKey rules) := List.mem_map_of_mem hslot
  have hother : slotKey rules slot ∈ b.slots.map (slotKey rules) :=
    hb.mem_keys.mpr (ha.mem_keys.mp hkey)
  rcases (only_iff_countP hleft (by simpa using hkey)).mpr hcount right b hright with heq | hout
  · exact heq.symm
  · exact absurd hother (by simpa using hout)

/-! ## Other orders -/

variable {releases' : List ReleaseDetail} {tracks' : List IndexedTrack}

theorem titled_perm (htracks : tracks.Perm tracks') (key : List Char) :
    (titled rules tracks key).Perm (titled rules tracks' key) := htracks.filter _

theorem slotOf_perm (htracks : tracks.Perm tracks') (track : IndexedTrack) :
    slotOf rules tracks slots track = slotOf rules tracks' slots track := by
  have hlength := (@titled_perm rules tracks tracks' htracks (trackKey rules track)).length_eq
  unfold slotOf
  dsimp only
  rw [hlength]

theorem Recommends.perm (hreleases : releases.Perm releases') (htracks : tracks.Perm tracks')
    (h : Recommends rules releases tracks alternativesComplete release) :
    Recommends rules releases' tracks' alternativesComplete release := by
  obtain ⟨slot, hslot, hkey, hmany, hcount, track, htitled, hlength⟩ := h.distinct
  refine ⟨h.known, ⟨htracks.length_eq ▸ h.folder.1, fun hnil => h.folder.2 ?_⟩,
    fun other hother => h.complete other (hreleases.mem_iff.mpr hother),
    htracks.length_eq ▸ h.size, fun other hother => ?_, slot, hslot, hkey,
    hreleases.length_eq ▸ hmany, (hreleases.countP_eq _).symm.trans hcount, track, ?_, hlength⟩
  · exact List.perm_nil.mp (hnil ▸ htracks)
  · obtain ⟨found, hfound, hagrees⟩ := h.agrees other (htracks.mem_iff.mpr hother)
    exact ⟨found, (slotOf_perm htracks other).symm.trans hfound, hagrees⟩
  · exact List.perm_singleton.mp (htitled ▸ (titled_perm htracks _).symm)

end Recommended

/-! ## The recommended release -/

/-- The releases whose reviews recommend them. -/
def recommendedReleases (rules : TextRules) (releases : List ReleaseDetail)
    (tracks : List IndexedTrack) (alternativesComplete : Bool) : List ReleaseDetail :=
  ((releases.zip (compareEditions rules releases tracks alternativesComplete)).filter
    fun entry => entry.2.recommended).map Prod.fst

section Main

variable {rules : TextRules} {releases : List ReleaseDetail} {tracks : List IndexedTrack}
  {alternativesComplete : Bool}

theorem recommendedReleases_eq :
    recommendedReleases rules releases tracks alternativesComplete =
      (releases.zipIdx.filter fun entry =>
        (reviewEdition rules releases tracks alternativesComplete entry.1 entry.2).recommended).map
          Prod.fst := by
  have hzip : ∀ (review : ReleaseDetail × ℕ → EditionReview)
      (listed : List ReleaseDetail) (start : ℕ),
      listed.zip ((listed.zipIdx start).map review) =
        (listed.zipIdx start).map fun entry => (entry.1, review entry) := by
    intro review listed
    induction listed with
    | nil => exact fun _ => rfl
    | cons release rest ih =>
      intro start
      rw [List.zipIdx_cons, List.map_cons, List.map_cons, List.zip_cons_cons, ih]
  unfold recommendedReleases compareEditions
  rw [hzip, List.filter_map, List.map_map]
  rfl

open scoped Classical in
theorem recommendedReleases_filter :
    recommendedReleases rules releases tracks alternativesComplete =
      releases.filter fun release =>
        decide (Recommends rules releases tracks alternativesComplete release) := by
  have hsame : (releases.zipIdx.filter fun entry =>
      (reviewEdition rules releases tracks alternativesComplete entry.1 entry.2).recommended) =
        releases.zipIdx.filter ((fun release => decide
          (Recommends rules releases tracks alternativesComplete release)) ∘ Prod.fst) := by
    refine List.filter_congr fun entry hentry => ?_
    rw [Bool.eq_iff_iff, Function.comp_apply, decide_eq_true_eq]
    exact reviewEdition_recommended (List.mk_mem_zipIdx_iff_getElem?.mp hentry)
  rw [recommendedReleases_eq, hsame, ← List.filter_map, List.zipIdx_map_fst]

theorem recommendedReleases_length :
    (recommendedReleases rules releases tracks alternativesComplete).length ≤ 1 := by
  rw [recommendedReleases_eq, List.length_map]
  have hnodup : (releases.zipIdx.filter fun entry =>
      (reviewEdition rules releases tracks alternativesComplete entry.1
        entry.2).recommended).Nodup := by
    refine List.Nodup.filter _ (List.Nodup.of_map Prod.snd ?_)
    rw [List.zipIdx_map_snd]
    exact List.nodup_range'
  have hsame : ∀ entry ∈ releases.zipIdx.filter fun entry =>
      (reviewEdition rules releases tracks alternativesComplete entry.1 entry.2).recommended,
      ∀ other ∈ releases.zipIdx.filter fun entry =>
        (reviewEdition rules releases tracks alternativesComplete entry.1 entry.2).recommended,
        entry = other := by
    intro entry hentry other hother
    obtain ⟨hentry, hrecommended⟩ := List.mem_filter.mp hentry
    obtain ⟨hother, hrecommended'⟩ := List.mem_filter.mp hother
    have hleft := List.mk_mem_zipIdx_iff_getElem?.mp hentry
    have hright := List.mk_mem_zipIdx_iff_getElem?.mp hother
    have hindex := Recommends.index_unique hleft hright
      ((reviewEdition_recommended hleft).mp hrecommended)
      ((reviewEdition_recommended hright).mp hrecommended')
    rw [hindex, hright] at hleft
    exact Prod.ext (Option.some.inj hleft).symm hindex
  generalize releases.zipIdx.filter _ = entries at hnodup hsame
  match entries with
  | [] => exact Nat.zero_le 1
  | [_] => exact le_rfl
  | entry :: other :: rest =>
    have heq := hsame entry List.mem_cons_self other (List.mem_cons_of_mem _ List.mem_cons_self)
    exact absurd (heq ▸ List.mem_cons_self) (List.nodup_cons.mp hnodup).1

/-- At most one release is recommended; its titles are those of the folder, with lengths within
two seconds, and one of them is on no other release; the order of releases and tracks does not
matter. -/
theorem compareEditions_recommended (rules : TextRules) (releases : List ReleaseDetail)
    (tracks : List IndexedTrack) (alternativesComplete : Bool) :
    (recommendedReleases rules releases tracks alternativesComplete).length ≤ 1 ∧
    (∀ (index : ℕ) (release : ReleaseDetail) (review : EditionReview),
      releases[index]? = some release →
      (compareEditions rules releases tracks alternativesComplete)[index]? = some review →
      review.recommended = true →
        release.slots.length = tracks.length ∧
        (∃ pairs, Corresponds rules tracks release.slots pairs) ∧
        ∃ slot ∈ release.slots, ∀ (place : ℕ) (other : ReleaseDetail),
          releases[place]? = some other → place ≠ index →
          ∀ found ∈ other.slots, slotKey rules found ≠ slotKey rules slot) ∧
    ∀ releases' tracks', releases.Perm releases' → tracks.Perm tracks' →
      recommendedReleases rules releases' tracks' alternativesComplete =
        recommendedReleases rules releases tracks alternativesComplete := by
  refine ⟨recommendedReleases_length, fun index release review hrelease hreview hrecommended => ?_,
    fun releases' tracks' hreleases htracks => ?_⟩
  · unfold compareEditions at hreview
    rw [List.getElem?_map, List.getElem?_zipIdx, hrelease] at hreview
    obtain rfl := Option.some.inj hreview
    rw [Nat.zero_add] at hrecommended
    have hneeds := (reviewEdition_recommended hrelease).mp hrecommended
    obtain ⟨slot, hslot, -, -, hcount, -⟩ := hneeds.distinct
    refine ⟨hneeds.size.symm, hneeds.corresponds, slot, hslot, ?_⟩
    intro place other hother hne found hfound hsame
    have honly := (only_iff_countP hrelease (by simpa using ⟨slot, hslot, rfl⟩)).mpr hcount place
      other hother
    have hout := honly.resolve_left hne
    rw [decide_eq_false_iff_not, ← hsame] at hout
    exact hout (List.mem_map_of_mem hfound)
  · have hperm : (recommendedReleases rules releases' tracks' alternativesComplete).Perm
        (recommendedReleases rules releases tracks alternativesComplete) := by
      classical
      rw [recommendedReleases_filter, recommendedReleases_filter]
      have hneeds : ∀ release ∈ releases',
          decide (Recommends rules releases' tracks' alternativesComplete release) =
            decide (Recommends rules releases tracks alternativesComplete release) :=
        fun release _ => decide_eq_decide.mpr
          ⟨.perm hreleases.symm htracks.symm, .perm hreleases htracks⟩
      rw [List.filter_congr hneeds]
      exact hreleases.symm.filter _
    have hlength := @recommendedReleases_length rules releases tracks alternativesComplete
    match hfound : recommendedReleases rules releases tracks alternativesComplete with
    | [] => exact List.perm_nil.mp (hfound ▸ hperm)
    | [release] => exact List.perm_singleton.mp (hfound ▸ hperm)
    | _ :: _ :: _ =>
      rw [hfound] at hlength
      exact absurd hlength (by simp)

end Main

end MusicServer.Album
