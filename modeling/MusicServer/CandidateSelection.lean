/-
# The candidate that a track is matched to

`select_candidate` keeps the best candidate of each id and judges the best of these.  Of several
candidates of one id with equal scores it keeps the first.  The main result,
`selectCandidate_eq`, says which candidate of an answer is judged: the first that no other one
beats, whatever the ids are.
-/
import MusicServer.IdentityResolution
import MusicServer.OutputMembership

namespace MusicServer

namespace Enrichment

open LibraryIndex

-- the tracks of the library's index, not those of the live catalog
export LibraryIndex (IndexedTrack)

def judged (candidates : List Candidate) : List Candidate :=
  candidates.filter fun candidate => inUnitRange candidate.providerScore

variable (rules : TextRules) (track : IndexedTrack)

def leads (candidates : List Candidate) (candidate : Candidate) : Bool :=
  (judged candidates).all fun other =>
    candidateScore rules track other ≤ candidateScore rules track candidate

/-- The candidate is good enough, far enough ahead of the other recordings, and agrees with the
track. -/
def accepts (candidates : List Candidate) (candidate : Candidate) : Bool :=
  let score := candidateScore rules track candidate
  metadataMinScore ≤ score &&
    ((judged candidates).all fun other =>
      other.id = candidate.id || metadataMinMargin ≤ score - candidateScore rules track other) &&
    looseEqual rules (queryTitle track) candidate.title &&
    looseEqual rules track.metadata.artist candidate.artist &&
    durationCompatible track candidate.lengthMs

/-- The first of the best candidates of an id. -/
def FirstBest (candidates : List Candidate) (best : Candidate) : Prop :=
  ∃ before after, candidates = before ++ best :: after ∧
    (∀ other ∈ before, other.id = best.id →
      candidateScore rules track other < candidateScore rules track best) ∧
    ∀ other ∈ after, other.id = best.id →
      candidateScore rules track other ≤ candidateScore rules track best

variable {rules track}

namespace FirstBest

variable {candidates : List Candidate} {best : Candidate}

theorem mem (h : FirstBest rules track candidates best) : best ∈ candidates := by
  obtain ⟨before, after, rfl, -, -⟩ := h
  exact List.mem_append_right _ List.mem_cons_self

theorem le (h : FirstBest rules track candidates best) {other : Candidate}
    (hother : other ∈ candidates) (hid : other.id = best.id) :
    candidateScore rules track other ≤ candidateScore rules track best := by
  obtain ⟨before, after, rfl, hbefore, hafter⟩ := h
  rcases List.mem_append.mp hother with hmem | hmem
  · exact (hbefore other hmem hid).le
  · rcases List.mem_cons.mp hmem with rfl | hmem
    · exact le_refl _
    · exact hafter other hmem hid

theorem append (h : FirstBest rules track candidates best) {candidate : Candidate}
    (hle : candidate.id = best.id →
      candidateScore rules track candidate ≤ candidateScore rules track best) :
    FirstBest rules track (candidates ++ [candidate]) best := by
  obtain ⟨before, after, rfl, hbefore, hafter⟩ := h
  refine ⟨before, after ++ [candidate], ?_, hbefore, ?_⟩
  · rw [List.append_assoc, List.cons_append]
  · intro other hother hid
    rcases List.mem_append.mp hother with hmem | hmem
    · exact hafter other hmem hid
    · rw [List.mem_singleton.mp hmem] at hid ⊢
      exact hle hid

theorem last {candidate : Candidate} (h : ∀ other ∈ candidates, other.id = candidate.id →
      candidateScore rules track other < candidateScore rules track candidate) :
    FirstBest rules track (candidates ++ [candidate]) candidate :=
  ⟨candidates, [], rfl, h, fun _ hother => absurd hother List.not_mem_nil⟩

end FirstBest

/-- One more candidate for the map of the best. -/
def keepBest (rules : TextRules) (track : IndexedTrack) (unique : BTreeMap String Candidate)
    (candidate : Candidate) : BTreeMap String Candidate :=
  let current := (unique[candidate.id]?).getD candidate
  unique.insert candidate.id
    (if candidateScore rules track current < candidateScore rules track candidate then candidate
    else current)

/-- The map holds the first of the best candidates of every id. -/
def Kept (rules : TextRules) (track : IndexedTrack) (candidates : List Candidate)
    (unique : BTreeMap String Candidate) : Prop :=
  (∀ candidate ∈ candidates, ∃ best, unique[candidate.id]? = some best) ∧
    ∀ (id : String) (best : Candidate), unique[id]? = some best →
      best.id = id ∧ FirstBest rules track candidates best

variable {candidates : List Candidate}

theorem kept_keepBest {unique : BTreeMap String Candidate} (h : Kept rules track candidates unique)
    (candidate : Candidate) :
    Kept rules track (candidates ++ [candidate]) (keepBest rules track unique candidate) := by
  obtain ⟨hhas, hbest⟩ := h
  unfold keepBest
  constructor
  · intro other hother
    rw [Std.ExtTreeMap.getElem?_insert]
    split
    · exact ⟨_, rfl⟩
    · next hdiffers =>
      rcases List.mem_append.mp hother with hmem | hmem
      · exact hhas other hmem
      · rw [List.mem_singleton.mp hmem] at hdiffers
        exact absurd (Std.compare_eq_iff_eq.mpr rfl) hdiffers
  · intro id best hget
    rw [Std.ExtTreeMap.getElem?_insert] at hget
    split at hget
    · next hsame =>
      obtain rfl := Std.compare_eq_iff_eq.mp hsame
      have hbest' := Option.some.inj hget
      cases hcurrent : unique[candidate.id]? with
      | none =>
        -- no candidate of this id came before
        rw [hcurrent, Option.getD_none, ite_self] at hbest'
        subst hbest'
        refine ⟨rfl, .last fun other hother hid => ?_⟩
        obtain ⟨kept, hkept⟩ := hhas other hother
        rw [hid, hcurrent] at hkept
        cases hkept
      | some current =>
        obtain ⟨hid, hfirst⟩ := hbest _ _ hcurrent
        rw [hcurrent, Option.getD_some] at hbest'
        split at hbest'
        · next hless =>
          subst hbest'
          exact ⟨rfl, .last fun other hother hsame =>
            (hfirst.le hother (hsame.trans hid.symm)).trans_lt hless⟩
        · next hnotless =>
          subst hbest'
          exact ⟨hid, hfirst.append fun _ => not_lt.mp hnotless⟩
    · next hdiffers =>
      obtain ⟨hid, hfirst⟩ := hbest _ _ hget
      refine ⟨hid, hfirst.append fun hsame => absurd ?_ hdiffers⟩
      rw [hsame, hid]
      exact Std.compare_eq_iff_eq.mpr rfl

theorem uniqueCandidates_kept (candidates : List Candidate) :
    Kept rules track (judged candidates) (uniqueCandidates rules track candidates) := by
  have hfold : ∀ values : List Candidate,
      Kept rules track values (values.foldl (keepBest rules track) ∅) := by
    intro values
    induction values using List.reverseRecOn with
    | nil =>
      refine ⟨fun candidate hcandidate => absurd hcandidate List.not_mem_nil, ?_⟩
      intro id best hget
      rw [List.foldl_nil, Std.ExtTreeMap.getElem?_empty] at hget
      cases hget
    | append_singleton values value ih =>
      rw [List.foldl_append]
      exact kept_keepBest ih value
  exact hfold (judged candidates)

theorem accepts_iff {candidate : Candidate} :
    accepts rules track candidates candidate = true ↔
      metadataMinScore ≤ candidateScore rules track candidate ∧
        (∀ other ∈ judged candidates, other.id ≠ candidate.id → metadataMinMargin ≤
          candidateScore rules track candidate - candidateScore rules track other) ∧
        looseEqual rules (queryTitle track) candidate.title = true ∧
        looseEqual rules track.metadata.artist candidate.artist = true ∧
        durationCompatible track candidate.lengthMs = true := by
  unfold accepts
  simp only [Bool.and_eq_true, decide_eq_true_iff, List.all_eq_true, Bool.or_eq_true, and_assoc,
    or_iff_not_imp_left, ne_eq]

/-! ## Ranking -/

theorem mem_uniqueCandidates {candidate : Candidate} :
    candidate ∈ (uniqueCandidates rules track candidates).values ↔
      (uniqueCandidates rules track candidates)[candidate.id]? = some candidate := by
  rw [values_eq_map_snd, List.mem_map]
  constructor
  · rintro ⟨⟨id, candidate⟩, hmem, rfl⟩
    have hget := Std.ExtTreeMap.mem_toList_iff_getElem?_eq_some.mp hmem
    obtain ⟨rfl, -⟩ := (uniqueCandidates_kept candidates).2 _ _ hget
    exact hget
  · exact fun hget => ⟨_, Std.ExtTreeMap.mem_toList_iff_getElem?_eq_some.mpr hget, rfl⟩

theorem uniqueCandidates_nodup (candidates : List Candidate) :
    ((uniqueCandidates rules track candidates).values.map Candidate.id).Nodup := by
  have hids : (uniqueCandidates rules track candidates).values.map Candidate.id =
      (uniqueCandidates rules track candidates).keys := by
    rw [values_eq_map_snd, List.map_map, ← Std.ExtTreeMap.map_fst_toList_eq_keys]
    refine List.map_congr_left fun entry hentry => ?_
    exact ((uniqueCandidates_kept candidates).2 _ _
      (Std.ExtTreeMap.mem_toList_iff_getElem?_eq_some.mp hentry)).1
  rw [hids]
  exact Std.ExtTreeMap.nodup_keys

/-- The candidate that is ranked first, and the recordings behind it. -/
structure RankedFirst (rules : TextRules) (track : IndexedTrack) (candidates : List Candidate)
    (best : Candidate) (others : List (Candidate × ℚ)) : Prop where
  first : FirstBest rules track (judged candidates) best
  leads : leads rules track candidates best = true
  margin : metadataMinMargin ≤ leadOf (candidateScore rules track best) others ↔
    ∀ other ∈ judged candidates, other.id ≠ best.id →
      metadataMinMargin ≤ candidateScore rules track best - candidateScore rules track other

theorem leadOf_sorted {score margin : ℚ} {others : List (Candidate × ℚ)} (hone : margin ≤ 1)
    (hsorted : others.Pairwise fun left right => right.2 ≤ left.2) :
    margin ≤ leadOf score others ↔ ∀ other ∈ others, margin ≤ score - other.2 := by
  cases others with
  | nil => exact ⟨fun _ other hother => absurd hother List.not_mem_nil, fun _ => hone⟩
  | cons next rest =>
    obtain ⟨hnext, -⟩ := List.pairwise_cons.mp hsorted
    constructor
    · intro hmargin other hother
      rcases List.mem_cons.mp hother with rfl | hrest
      · exact hmargin
      · have hle := hnext other hrest
        have hlead : margin ≤ score - next.2 := hmargin
        linarith
    · exact fun hall => hall next List.mem_cons_self

theorem rankedFirst {best : Candidate} {score : ℚ} {others : List (Candidate × ℚ)}
    (h : (((uniqueCandidates rules track candidates).values.map fun candidate =>
        (candidate, candidateScore rules track candidate)).mergeSort
          fun left right => right.2 ≤ left.2) = (best, score) :: others) :
    score = candidateScore rules track best ∧ RankedFirst rules track candidates best others := by
  obtain ⟨hhas, hkept⟩ : Kept rules track (judged candidates)
      (uniqueCandidates rules track candidates) := uniqueCandidates_kept candidates
  have hperm := List.mergeSort_perm ((uniqueCandidates rules track candidates).values.map
    fun candidate => (candidate, candidateScore rules track candidate))
      fun left right => right.2 ≤ left.2
  rw [h] at hperm
  have hsorted : ((best, score) :: others).Pairwise fun left right => right.2 ≤ left.2 := by
    rw [← h]
    refine (List.pairwise_mergeSort ?_ ?_ _).imp fun hle => of_decide_eq_true hle
    · intro a b c hab hbc
      exact decide_eq_true ((of_decide_eq_true hbc).trans (of_decide_eq_true hab))
    · intro a b
      rcases le_total b.2 a.2 with hle | hle
      · simp [hle]
      · simp [hle]
  obtain ⟨hbehind, hrest⟩ := List.pairwise_cons.mp hsorted
  have hmem : ∀ entry : Candidate × ℚ, entry ∈ (best, score) :: others ↔
      entry.1 ∈ (uniqueCandidates rules track candidates).values ∧
        entry.2 = candidateScore rules track entry.1 := by
    intro entry
    rw [hperm.mem_iff, List.mem_map]
    constructor
    · rintro ⟨candidate, hcandidate, rfl⟩
      exact ⟨hcandidate, rfl⟩
    · rintro ⟨hcandidate, hscore⟩
      exact ⟨entry.1, hcandidate, Prod.ext rfl hscore.symm⟩
  obtain ⟨hbest, hscore⟩ := (hmem (best, score)).mp List.mem_cons_self
  dsimp only at hbest hscore
  subst hscore
  obtain ⟨-, hfirst⟩ := hkept _ _ (mem_uniqueCandidates.mp hbest)
  -- every judged candidate has its recording among the ranked ones
  have hranked : ∀ other ∈ judged candidates, ∃ kept, kept.id = other.id ∧
      candidateScore rules track other ≤ candidateScore rules track kept ∧
      (kept, candidateScore rules track kept) ∈
        (best, candidateScore rules track best) :: others := by
    intro other hother
    obtain ⟨kept, hget⟩ := hhas other hother
    obtain ⟨hid, hkeptFirst⟩ := hkept _ _ hget
    refine ⟨kept, hid, hkeptFirst.le hother hid.symm, (hmem _).mpr ⟨?_, rfl⟩⟩
    rw [mem_uniqueCandidates, hid]
    exact hget
  refine ⟨rfl, hfirst, ?_, ?_⟩
  · refine List.all_eq_true.mpr fun other hother => decide_eq_true ?_
    obtain ⟨kept, -, hle, hentry⟩ := hranked other hother
    rcases List.mem_cons.mp hentry with heq | hin
    · rw [(Prod.mk.inj heq).1] at hle
      exact hle
    · exact hle.trans (hbehind _ hin)
  · have hone : metadataMinMargin ≤ 1 := by
      unfold metadataMinMargin
      norm_num
    rw [leadOf_sorted hone hrest]
    constructor
    · intro hmargin other hother hdiffers
      obtain ⟨kept, hid, hle, hentry⟩ := hranked other hother
      rcases List.mem_cons.mp hentry with heq | hin
      · exact absurd (hid.symm.trans (congrArg Candidate.id (Prod.mk.inj heq).1)) hdiffers
      · have hlead : metadataMinMargin ≤
            candidateScore rules track best - candidateScore rules track kept := hmargin _ hin
        linarith
    · rintro hmargin ⟨other, otherScore⟩ hother
      obtain ⟨hother', hotherScore⟩ := (hmem _).mp (List.mem_cons_of_mem _ hother)
      dsimp only at hother' hotherScore
      subst hotherScore
      obtain ⟨-, hotherFirst⟩ := hkept _ _ (mem_uniqueCandidates.mp hother')
      refine hmargin other hotherFirst.mem fun hid => ?_
      -- a second entry of the same id would be the same entry
      have hnodup : (((best, candidateScore rules track best) :: others).map
          fun entry => entry.1.id).Nodup := by
        rw [(hperm.map fun entry => entry.1.id).nodup_iff, List.map_map]
        exact uniqueCandidates_nodup candidates
      rw [List.map_cons, List.nodup_cons] at hnodup
      exact hnodup.1 (List.mem_map.mpr ⟨_, hother, hid⟩)

/-- The first of the best candidates of its recording is the first of those that lead, unless
another recording leads before it. -/
theorem find_leads {best found : Candidate}
    (hfirst : FirstBest rules track (judged candidates) best)
    (hleads : leads rules track candidates best = true)
    (hfound : (judged candidates).find? (leads rules track candidates) = some found)
    (hid : found.id = best.id) : found = best := by
  obtain ⟨before, after, hsplit, hbefore, -⟩ := hfirst
  have hfoundLeads := List.find?_some hfound
  have hbest : best ∈ judged candidates := by
    rw [hsplit]
    exact List.mem_append_right _ List.mem_cons_self
  have hle : candidateScore rules track best ≤ candidateScore rules track found :=
    of_decide_eq_true (List.all_eq_true.mp hfoundLeads best hbest)
  rw [hsplit, List.find?_append, List.find?_cons_of_pos hleads] at hfound
  cases hearly : before.find? (leads rules track candidates) with
  | none =>
    rw [hearly] at hfound
    exact (Option.some.inj hfound).symm
  | some early =>
    rw [hearly] at hfound
    obtain rfl := Option.some.inj hfound
    exact absurd hle (not_le.mpr (hbefore _ (List.mem_of_find?_eq_some hearly) hid))

theorem selectCandidate_eq (candidates : List Candidate) :
    selectCandidate rules track candidates =
      (((judged candidates).find? (leads rules track candidates)).filter
        (accepts rules track candidates)).map fun candidate =>
          (candidate, candidateScore rules track candidate) := by
  unfold selectCandidate
  dsimp only
  split
  · next hnone =>
    have hempty : judged candidates = [] := by
      rw [List.eq_nil_iff_forall_not_mem]
      intro candidate hcandidate
      have hkept : Kept rules track (judged candidates) (uniqueCandidates rules track candidates) :=
        uniqueCandidates_kept candidates
      obtain ⟨best, hget⟩ := hkept.1 candidate hcandidate
      obtain ⟨hid, -⟩ := hkept.2 _ _ hget
      rw [← hid] at hget
      have hnil := (hnone ▸ List.mergeSort_perm _ _).nil_eq.symm
      rw [List.map_eq_nil_iff] at hnil
      have hmem := mem_uniqueCandidates.mpr hget
      rw [hnil] at hmem
      exact absurd hmem List.not_mem_nil
    rw [hempty]
    rfl
  · next best score others hranked =>
    obtain ⟨rfl, hfirst, hleads, hmargin⟩ := rankedFirst hranked
    obtain ⟨found, hfound⟩ := Option.isSome_iff_exists.mp
      (List.find?_isSome.mpr ⟨best, hfirst.mem, hleads⟩)
    rw [hfound]
    by_cases hid : found.id = best.id
    · obtain rfl := find_leads hfirst hleads hfound hid
      by_cases haccepts : accepts rules track candidates found = true
      · rw [Option.filter_some_pos haccepts, if_pos]
        · rfl
        · rwa [hmargin, ← accepts_iff]
      · rw [Option.filter_some_neg (Bool.eq_false_iff.mpr haccepts), if_neg]
        · rfl
        · rwa [hmargin, ← accepts_iff]
    · -- two recordings share the lead: none of them is far enough ahead
      have hfoundMem := List.mem_of_find?_eq_some hfound
      have hfoundLeads := List.find?_some hfound
      have hnoMargin : ¬ metadataMinMargin ≤ (0 : ℚ) := by
        unfold metadataMinMargin
        norm_num
      have hequal : candidateScore rules track found = candidateScore rules track best :=
        le_antisymm (of_decide_eq_true (List.all_eq_true.mp hleads found hfoundMem))
          (of_decide_eq_true (List.all_eq_true.mp hfoundLeads best hfirst.mem))
      rw [Option.filter_some_neg, if_neg]
      · rfl
      · rintro ⟨-, hlead, -⟩
        have hbehind := hmargin.mp hlead found hfoundMem hid
        rw [hequal, sub_self] at hbehind
        exact hnoMargin hbehind
      · refine Bool.eq_false_iff.mpr fun haccepts => ?_
        obtain ⟨-, hahead, -⟩ := accepts_iff.mp haccepts
        have hbehind := hahead best hfirst.mem (Ne.symm hid)
        rw [hequal, sub_self] at hbehind
        exact hnoMargin hbehind

end Enrichment

end MusicServer
