/-
# What depends on the order of the answers

Identification gathers candidates from several searches.  The map that they are merged into does
not depend on their order, nor does a discovery depend on the order of the siblings, which it
sorts.  Inside the answer to one search the candidates are not merged: of several that share the
best score and the id, `select_candidate` takes the first.

* `indexedContext_perm`: the siblings may be listed in any order;
* `pick_matches`, `matches_pick`: in some order any leading candidate of an answer is judged, and
  in every order one of them is;
* `orderFree_iff`: the order does not matter exactly where no tie inside an answer is decisive.
-/
import MusicServer.CandidateMerging
import MusicServer.SiblingAgreement

namespace MusicServer

namespace Enrichment

open LibraryIndex Dialogue

/-! ## The order of the siblings -/

theorem pathIdLe_iff (left right : IndexedTrack) :
    pathIdLe left right = true ↔ left.path.asStr < right.path.asStr ∨
      (left.path = right.path ∧ left.id.get ≤ right.id.get) := by
  unfold pathIdLe
  rw [Bool.or_eq_true, Bool.and_eq_true, textLt_iff, decide_eq_true_iff, decide_eq_true_iff]

theorem asStr_injective {left right : LibraryPath} (h : left.asStr = right.asStr) :
    left = right := by
  have hencoded : left.encoded = right.encoded := String.ofList_injective h
  cases left
  cases right
  congr

theorem pathIdLe_trans (a b c : IndexedTrack) (hab : pathIdLe a b = true)
    (hbc : pathIdLe b c = true) : pathIdLe a c = true := by
  rw [pathIdLe_iff] at hab hbc ⊢
  rcases hab with hab | ⟨hpath, hid⟩
  · rcases hbc with hbc | ⟨hpath', -⟩
    · exact .inl (hab.trans hbc)
    · exact .inl (hpath' ▸ hab)
  · rw [hpath]
    rcases hbc with hbc | ⟨hpath', hid'⟩
    · exact .inl hbc
    · exact .inr ⟨hpath', hid.trans hid'⟩

theorem pathIdLe_total (a b : IndexedTrack) : (pathIdLe a b || pathIdLe b a) = true := by
  rw [Bool.or_eq_true, pathIdLe_iff, pathIdLe_iff]
  rcases lt_trichotomy a.path.asStr b.path.asStr with hless | hequal | hgreater
  · exact .inl (.inl hless)
  · have hpath := asStr_injective hequal
    rcases le_total a.id.get b.id.get with hid | hid
    · exact .inl (.inr ⟨hpath, hid⟩)
    · exact .inr (.inr ⟨hpath.symm, hid⟩)
  · exact .inr (.inl hgreater)

theorem id_eq_of_pathIdLe {a b : IndexedTrack} (hab : pathIdLe a b = true)
    (hba : pathIdLe b a = true) : a.id = b.id := by
  rw [pathIdLe_iff] at hab hba
  have hget : a.id.get = b.id.get := by
    rcases hab with hless | ⟨hpath, hid⟩
    · rcases hba with hgreater | ⟨hpath, -⟩
      · exact absurd hless hgreater.asymm
      · exact absurd hless (hpath ▸ lt_irrefl _)
    · rcases hba with hgreater | ⟨-, hid'⟩
      · exact absurd hgreater (hpath ▸ lt_irrefl _)
      · exact le_antisymm hid hid'
  cases ha : a.id
  cases hb : b.id
  rw [ha, hb] at hget
  congr

def UniqueIds (tracks : List IndexedTrack) : Prop :=
  ∀ a ∈ tracks, ∀ b ∈ tracks, a.id = b.id → a = b

theorem indexedContext_perm {track : IndexedTrack} {siblings siblings' : List IndexedTrack}
    (h : siblings.Perm siblings') (hids : UniqueIds siblings) :
    indexedContext track siblings' = indexedContext track siblings := by
  unfold indexedContext
  refine List.Perm.eq_of_pairwise ?_ (List.pairwise_mergeSort pathIdLe_trans pathIdLe_total _)
    (List.pairwise_mergeSort pathIdLe_trans pathIdLe_total _) ?_
  · intro a b ha hb hab hba
    rw [List.mem_mergeSort] at ha hb
    exact hids a (h.mem_iff.mpr (List.mem_of_mem_filter ha)) b (List.mem_of_mem_filter hb)
      (id_eq_of_pathIdLe hab hba)
  · exact ((List.mergeSort_perm _ _).trans (h.symm.filter _)).trans (List.mergeSort_perm _ _).symm

section Order

variable {rules : TextRules} {track hypothesis : IndexedTrack} {evidence : LocalEvidence}
  {siblings siblings' : List IndexedTrack}

theorem discoverReleases_perm (h : siblings.Perm siblings') (hids : UniqueIds siblings) :
    discoverReleases rules track hypothesis evidence siblings' =
      discoverReleases rules track hypothesis evidence siblings := by
  unfold discoverReleases siblingGroup
  rw [indexedContext_perm h hids]

/-- The album of the siblings that take part. -/
def albumOf (rules : TextRules) (track hypothesis : IndexedTrack) (evidence : LocalEvidence)
    (siblings : List IndexedTrack) : String :=
  (((participants rules track hypothesis evidence siblings).map fun sibling =>
    trim sibling.metadata.album).find? fun album => album ≠ "").getD ""

theorem albumOf_asked {album : String} {anchors : List IndexedTrack}
    (h : askedAnchors rules track hypothesis evidence siblings = some (album, anchors)) :
    albumOf rules track hypothesis evidence siblings = album := by
  unfold askedAnchors at h
  unfold albumOf participants
  split at h
  · cases h
  · dsimp only at h
    split at h
    · cases h
    · next album' halbum =>
      split at h
      · cases h
      · split at h
        · cases h
        · cases h
          rw [halbum]
          rfl

end Order

/-! ## The order inside an answer -/

/-- The candidates in another order, or the same failure. -/
def SameAnswer : (left right : Except CatalogError (List Candidate)) → Prop
  | .ok values, .ok values' => values.Perm values'
  | .error error, .error error' => error = error'
  | _, _ => False

theorem sameAnswer_refl (answer : Except CatalogError (List Candidate)) :
    SameAnswer answer answer := by
  cases answer with
  | error error => rfl
  | ok values => exact List.Perm.refl values

/-- The same search, with its candidates in another order. -/
def SameSearch (left right : Search) : Prop := left.1 = right.1 ∧ SameAnswer left.2 right.2

section Answers

variable {rules : TextRules} {track : IndexedTrack} {values values' : List Candidate}

theorem judged_perm (h : values.Perm values') : (judged values).Perm (judged values') := h.filter _

theorem leads_perm (h : values.Perm values') : leads rules track values = leads rules track values' :=
  funext fun _ => (judged_perm h).all_eq

theorem accepts_perm (h : values.Perm values') :
    accepts rules track values = accepts rules track values' := by
  funext candidate
  unfold accepts
  dsimp only
  rw [(judged_perm h).all_eq]

/-- What a search is matched to if this one of its leading candidates is judged. -/
def Matches (rules : TextRules) (search : Search) (picked : IndexedTrack × Option Candidate) :
    Prop :=
  picked.1 = search.1 ∧
    match search.2 with
    | .error _ => picked.2 = none
    | .ok values =>
      (judged values = [] ∧ picked.2 = none) ∨
        ∃ candidate ∈ judged values, leads rules search.1 values candidate = true ∧
          picked.2 = (some candidate).filter (accepts rules search.1 values)

/-- An answer is as short as the searches ask for. -/
def Short (search : Search) : Prop := ∀ values, search.2 = .ok values → values.length ≤ 25

theorem pick_eq {anchor : IndexedTrack} (hshort : values.length ≤ 25) :
    pick rules (anchor, .ok values) =
      ((judged values).find? (leads rules anchor values)).filter (accepts rules anchor values) := by
  have hmap : ∀ found : Option Candidate, (found.map fun candidate =>
      (candidate, candidateScore rules anchor candidate)).map Prod.fst = found := by
    intro found
    rw [Option.map_map]
    exact Option.map_id'
  unfold pick
  dsimp only
  rw [List.take_of_length_le hshort, selectCandidate_eq, hmap]

theorem exists_leads (h : judged values ≠ []) :
    ∃ candidate ∈ judged values, leads rules track values candidate = true := by
  obtain ⟨best, hbest, hmax⟩ := (judged values).toFinset.exists_max_image
    (candidateScore rules track) ((judged values).toFinset_nonempty_iff.mpr h)
  refine ⟨best, List.mem_toFinset.mp hbest, List.all_eq_true.mpr fun other hother => ?_⟩
  exact decide_eq_true (hmax other (List.mem_toFinset.mpr hother))

theorem pick_matches {search search' : Search} (hshort : Short search)
    (h : SameSearch search search') : Matches rules search (search'.1, pick rules search') := by
  obtain ⟨anchor, answer⟩ := search
  obtain ⟨anchor', answer'⟩ := search'
  obtain ⟨rfl, hanswer⟩ := h
  refine ⟨rfl, ?_⟩
  cases answer with
  | error error =>
    cases answer' with
    | error error' => rfl
    | ok values' => exact absurd hanswer id
  | ok values =>
    cases answer' with
    | error error' => exact absurd hanswer id
    | ok values' =>
      have hperm : values.Perm values' := hanswer
      have hlength := hshort values rfl
      rw [hperm.length_eq] at hlength
      dsimp only
      rw [pick_eq hlength, ← leads_perm hperm, ← accepts_perm hperm]
      cases hfound : (judged values').find? (leads rules anchor values) with
      | none =>
        refine .inl ⟨?_, rfl⟩
        by_contra hsome
        obtain ⟨candidate, hcandidate, hleads⟩ := @exists_leads rules anchor _ hsome
        exact absurd hleads
          (List.find?_eq_none.mp hfound candidate ((judged_perm hperm).mem_iff.mp hcandidate))
      | some candidate =>
        exact .inr ⟨candidate,
          (judged_perm hperm).mem_iff.mpr (List.mem_of_find?_eq_some hfound),
          List.find?_some hfound, rfl⟩

theorem matches_pick {search : Search} {picked : IndexedTrack × Option Candidate}
    (hshort : Short search) (h : Matches rules search picked) :
    ∃ search', SameSearch search search' ∧ picked = (search'.1, pick rules search') := by
  obtain ⟨anchor, answer⟩ := search
  obtain ⟨anchor', found⟩ := picked
  obtain ⟨rfl, hfound⟩ := h
  cases answer with
  | error error => exact ⟨_, ⟨rfl, rfl⟩, Prod.ext rfl hfound⟩
  | ok values =>
    have hlength := hshort values rfl
    dsimp only at hfound hlength
    rcases hfound with ⟨hnone, rfl⟩ | ⟨candidate, hcandidate, hleads, rfl⟩
    · refine ⟨_, ⟨rfl, List.Perm.refl values⟩, Prod.ext rfl ?_⟩
      dsimp only
      rw [pick_eq hlength, hnone]
      rfl
    · obtain ⟨hmem, hrange⟩ := List.mem_filter.mp hcandidate
      have hperm : values.Perm (candidate :: values.erase candidate) := List.perm_cons_erase hmem
      refine ⟨(anchor', .ok (candidate :: values.erase candidate)), ⟨rfl, hperm⟩, Prod.ext rfl ?_⟩
      have hlength' : (candidate :: values.erase candidate).length ≤ 25 := by
        rwa [← hperm.length_eq]
      have hjudged : judged (candidate :: values.erase candidate) =
          candidate :: judged (values.erase candidate) := List.filter_cons_of_pos hrange
      dsimp only
      rw [pick_eq hlength', ← leads_perm hperm, ← accepts_perm hperm, hjudged,
        List.find?_cons_of_pos hleads]

theorem failed_of_same {search search' : Search} (h : SameSearch search search') :
    search'.failed = search.failed := by
  obtain ⟨anchor, answer⟩ := search
  obtain ⟨anchor', answer'⟩ := search'
  obtain ⟨-, hanswer⟩ := h
  unfold Search.failed
  cases answer with
  | error error =>
    cases answer' with
    | error error' => rfl
    | ok values' => exact absurd hanswer id
  | ok values =>
    cases answer' with
    | error error' => exact absurd hanswer id
    | ok values' => rfl

end Answers

/-! ## The order of a discovery -/

/-- The same exchange, with the candidates in another order. -/
def Shuffled (left right : Exchange CatalogAnswer) : Prop :=
  ∃ anchor answer answer', left = ⟨.searchMetadata anchor, answer⟩ ∧
    right = ⟨.searchMetadata anchor, answer'⟩ ∧ SameAnswer answer answer'

def searchesOf (trace : List (Exchange CatalogAnswer)) : List Search :=
  trace.filterMap fun exchange =>
    match exchange with
    | ⟨.searchMetadata anchor, answer⟩ => some (anchor, answer)
    | _ => none

theorem searchesOf_traceOf (searches : List Search) : searchesOf (traceOf searches) = searches := by
  unfold searchesOf traceOf
  rw [List.filterMap_map]
  exact List.filterMap_some

theorem shuffled_traceOf {searches searches' : List Search} :
    List.Forall₂ Shuffled (traceOf searches) (traceOf searches') ↔
      List.Forall₂ SameSearch searches searches' := by
  unfold traceOf
  rw [List.forall₂_map_left_iff, List.forall₂_map_right_iff]
  have hsame : ∀ left right : Search,
      Shuffled ⟨.searchMetadata left.1, left.2⟩ ⟨.searchMetadata right.1, right.2⟩ ↔
        SameSearch left right := by
    rintro ⟨anchor, answer⟩ ⟨anchor', answer'⟩
    constructor
    · rintro ⟨other, first, second, hfirst, hsecond, hanswer⟩
      obtain ⟨hquery, hleft⟩ := Sigma.mk.inj hfirst
      obtain rfl := CatalogQuestion.searchMetadata.inj hquery
      obtain ⟨hquery', hright⟩ := Sigma.mk.inj hsecond
      obtain rfl := CatalogQuestion.searchMetadata.inj hquery'
      obtain rfl := eq_of_heq hleft
      obtain rfl := eq_of_heq hright
      exact ⟨rfl, hanswer⟩
    · rintro ⟨rfl, hanswer⟩
      exact ⟨anchor, answer, answer', rfl, rfl, hanswer⟩
  simp only [hsame]

variable (rules : TextRules)

/-- A tie is decisive if taking another of the leading candidates of one answer, and the same of
the others, changes what is agreed on. -/
def Decisive (album : String) (searches : List Search) : Prop :=
  ∃ before picked picked' after,
    List.Forall₂ (Matches rules) searches (before ++ picked :: after) ∧
    List.Forall₂ (Matches rules) searches (before ++ picked' :: after) ∧
    agreement rules album (countedOf (before ++ picked :: after)) ≠
      agreement rules album (countedOf (before ++ picked' :: after))

variable {rules}

theorem agreement_of_not_decisive {album : String} {searches : List Search}
    (h : ¬ Decisive rules album searches) {picks picks' : List (IndexedTrack × Option Candidate)}
    (hpicks : List.Forall₂ (Matches rules) searches picks)
    (hpicks' : List.Forall₂ (Matches rules) searches picks') :
    agreement rules album (countedOf picks) = agreement rules album (countedOf picks') := by
  -- exchange the picks one by one, from the front
  have hexchange : ∀ (back : List Search) (front : List Search)
      (done rest rest' : List (IndexedTrack × Option Candidate)), searches = front ++ back →
      List.Forall₂ (Matches rules) front done → List.Forall₂ (Matches rules) back rest →
      List.Forall₂ (Matches rules) back rest' →
      agreement rules album (countedOf (done ++ rest)) =
        agreement rules album (countedOf (done ++ rest')) := by
    intro back
    induction back with
    | nil =>
      intro front done rest rest' _ _ hrest hrest'
      cases hrest
      cases hrest'
      rfl
    | cons search back ih =>
      intro front done rest rest' hsearches hdone hrest hrest'
      cases hrest with
      | cons hpicked hback =>
        cases hrest' with
        | cons hpicked' hback' =>
          rename_i picked after picked' after'
          have hone : agreement rules album (countedOf (done ++ picked :: after)) =
              agreement rules album (countedOf (done ++ picked' :: after)) := by
            by_contra hdiffers
            refine h ⟨done, picked, picked', after, ?_, ?_, hdiffers⟩
            · rw [hsearches]
              exact List.rel_append hdone (.cons hpicked hback)
            · rw [hsearches]
              exact List.rel_append hdone (.cons hpicked' hback)
          have hfront : List.Forall₂ (Matches rules) (front ++ [search]) (done ++ [picked']) :=
            List.rel_append hdone (.cons hpicked' .nil)
          have hlater := ih (front ++ [search]) (done ++ [picked']) after after'
            (by rw [hsearches, List.append_assoc, List.singleton_append]) hfront hback hback'
          rw [hone, ← List.singleton_append, ← List.append_assoc, hlater, List.append_assoc,
            List.singleton_append]
  exact hexchange searches [] [] picks picks' rfl .nil hpicks hpicks'

/-- What the agreement reads of a candidate. -/
def evidenceOf (rules : TextRules) (album : String) (candidate : Candidate) :
    String × BTreeSet String :=
  (candidate.id, eligibleReleases rules album candidate)

def evidencesOf (rules : TextRules) (album : String) (counted : List Matched) :
    List (String × BTreeSet String) :=
  counted.map fun item => evidenceOf rules album item.2

theorem countMatch_congr {album : String} {counted counted' : List Matched}
    {picked picked' : IndexedTrack × Option Candidate}
    (hcounted : evidencesOf rules album counted = evidencesOf rules album counted')
    (hpicked : picked.2.map (evidenceOf rules album) = picked'.2.map (evidenceOf rules album)) :
    evidencesOf rules album (countMatch counted picked) =
      evidencesOf rules album (countMatch counted' picked') := by
  have hids : counted.map (fun item => item.2.id) = counted'.map fun item => item.2.id := by
    have hfirst := congrArg (List.map Prod.fst) hcounted
    rwa [evidencesOf, evidencesOf, List.map_map, List.map_map] at hfirst
  obtain ⟨anchor, found⟩ := picked
  obtain ⟨anchor', found'⟩ := picked'
  unfold countMatch
  cases found with
  | none =>
    cases found' with
    | none => exact hcounted
    | some candidate' => cases hpicked
  | some candidate =>
    cases found' with
    | none => cases hpicked
    | some candidate' =>
      have heq : evidenceOf rules album candidate = evidenceOf rules album candidate' :=
        Option.some.inj hpicked
      have hid : candidate.id = candidate'.id := congrArg Prod.fst heq
      dsimp only
      rw [hids, hid]
      split
      · exact hcounted
      · unfold evidencesOf at hcounted ⊢
        rw [List.map_append, List.map_append, hcounted, List.map_singleton, List.map_singleton,
          heq]

theorem countedOf_congr {album : String} {picks picks' : List (IndexedTrack × Option Candidate)}
    (h : List.Forall₂ (fun picked picked' => picked.2.map (evidenceOf rules album) =
      picked'.2.map (evidenceOf rules album)) picks picks') :
    evidencesOf rules album (countedOf picks) = evidencesOf rules album (countedOf picks') := by
  have hfold : ∀ counted counted' : List Matched,
      evidencesOf rules album counted = evidencesOf rules album counted' →
        evidencesOf rules album (picks.foldl countMatch counted) =
          evidencesOf rules album (picks'.foldl countMatch counted') := by
    induction h with
    | nil => exact fun _ _ hcounted => hcounted
    | cons hpicked _ ih => exact fun _ _ hcounted => ih _ _ (countMatch_congr hcounted hpicked)
  exact hfold [] [] rfl

theorem agreement_congr {album : String} {counted counted' : List Matched}
    (h : evidencesOf rules album counted = evidencesOf rules album counted') :
    agreement rules album counted = agreement rules album counted' := by
  have hlength : counted.length = counted'.length := by
    simpa only [evidencesOf, List.length_map] using congrArg List.length h
  have hshared : ∀ counted : List Matched, sharedOf rules album counted =
      (evidencesOf rules album counted).foldl
        (fun common evidence => some (common.elim evidence.2 fun previous : BTreeSet String =>
          previous.filter fun id => id ∈ evidence.2)) none := by
    intro counted
    have hnarrow : narrow rules album = fun common item =>
        some (common.elim (evidenceOf rules album item.2).2 fun previous =>
          previous.filter fun id => id ∈ (evidenceOf rules album item.2).2) := by
      funext common item
      cases common <;> rfl
    rw [evidencesOf, List.foldl_map, sharedOf, hnarrow]
  unfold agreement
  rw [hlength, hshared, hshared, h]

theorem id_eq_of_accepts {track : IndexedTrack} {values : List Candidate} {a b : Candidate}
    (ha : a ∈ judged values) (hb : b ∈ judged values) (hleads : leads rules track values b = true)
    (haccepts : accepts rules track values a = true) : b.id = a.id := by
  by_contra hdiffers
  obtain ⟨-, hmargin, -⟩ := accepts_iff.mp haccepts
  have hahead := hmargin b hb hdiffers
  have hbehind : candidateScore rules track a ≤ candidateScore rules track b :=
    of_decide_eq_true (List.all_eq_true.mp hleads a ha)
  have hpositive : 0 < metadataMinMargin := by
    unfold metadataMinMargin
    norm_num
  linarith

/-- Candidates of one answer that lead it, for one recording, are accepted alike, with the same
eligible releases. -/
def AlikeLeaders (rules : TextRules) (album : String) (search : Search) : Prop :=
  ∀ values, search.2 = .ok values → ∀ a ∈ judged values, ∀ b ∈ judged values,
    leads rules search.1 values a = true → leads rules search.1 values b = true → a.id = b.id →
      accepts rules search.1 values a = accepts rules search.1 values b ∧
        eligibleReleases rules album a = eligibleReleases rules album b

theorem matches_alike {album : String} {search : Search}
    {picked picked' : IndexedTrack × Option Candidate}
    (halike : AlikeLeaders rules album search) (h : Matches rules search picked)
    (h' : Matches rules search picked') :
    picked.2.map (evidenceOf rules album) = picked'.2.map (evidenceOf rules album) := by
  obtain ⟨-, hfound⟩ := h
  obtain ⟨-, hfound'⟩ := h'
  cases hanswer : search.2 with
  | error error =>
    rw [hanswer] at hfound hfound'
    rw [show picked.2 = none from hfound, show picked'.2 = none from hfound']
  | ok values =>
    rw [hanswer] at hfound hfound'
    rcases hfound with ⟨hnone, hfound⟩ | ⟨a, ha, hleads, hfound⟩
    · rcases hfound' with ⟨-, hfound'⟩ | ⟨b, hb, -, -⟩
      · rw [hfound, hfound']
      · rw [hnone] at hb
        exact absurd hb List.not_mem_nil
    · rcases hfound' with ⟨hnone, -⟩ | ⟨b, hb, hleads', hfound'⟩
      · rw [hnone] at ha
        exact absurd ha List.not_mem_nil
      · rw [hfound, hfound', Option.filter_some, Option.filter_some]
        by_cases hid : a.id = b.id
        · obtain ⟨haccepts, hreleases⟩ := halike values hanswer a ha b hb hleads hleads' hid
          have heq : evidenceOf rules album a = evidenceOf rules album b :=
            Prod.ext hid hreleases
          rw [haccepts]
          split
          · exact congrArg some heq
          · rfl
        · rw [if_neg fun h => hid (id_eq_of_accepts ha hb hleads' h).symm,
            if_neg fun h => hid (id_eq_of_accepts hb ha hleads h)]

theorem not_decisive_of_alike {album : String} {searches : List Search}
    (h : ∀ search ∈ searches, AlikeLeaders rules album search) : ¬ Decisive rules album searches := by
  rintro ⟨before, picked, picked', after, hfirst, hsecond, hdiffers⟩
  refine hdiffers (agreement_congr (countedOf_congr ?_))
  clear hdiffers
  generalize before ++ picked :: after = picks at hfirst
  generalize before ++ picked' :: after = picks' at hsecond
  induction searches generalizing picks picks' with
  | nil =>
    cases hfirst
    cases hsecond
    exact .nil
  | cons search rest ih =>
    cases hfirst with
    | cons hone hrest =>
      cases hsecond with
      | cons hone' hrest' =>
        exact .cons (matches_alike (h search List.mem_cons_self) hone hone')
          (ih (fun search hmem => h search (List.mem_cons_of_mem _ hmem)) _ hrest _ hrest')

theorem not_decisive_of_unique {album : String} {searches : List Search}
    (h : ∀ search ∈ searches, ∀ values, search.2 = .ok values →
      ∀ a ∈ judged values, ∀ b ∈ judged values, leads rules search.1 values a = true →
        leads rules search.1 values b = true → a = b) : ¬ Decisive rules album searches := by
  refine not_decisive_of_alike fun search hmem values hvalues a ha b hb hleads hleads' _ => ?_
  rw [h search hmem values hvalues a ha b hb hleads hleads']
  exact ⟨rfl, rfl⟩

section Discovery

variable {track hypothesis : IndexedTrack} {evidence : LocalEvidence}
  {siblings : List IndexedTrack}

/-- Identification of this input does not depend on the order of what it retrieves: neither what
the candidates are merged into and the winner among them, nor the releases of this discovery. -/
def OrderFree (rules : TextRules) (candidates : List Candidate) (track hypothesis : IndexedTrack)
    (evidence : LocalEvidence) (siblings : List IndexedTrack)
    (trace : List (Exchange CatalogAnswer)) (releases : List String) : Prop :=
  (∀ candidates', candidates.Perm candidates' →
    mergeCandidates ∅ candidates' = mergeCandidates ∅ candidates ∧
      ∀ query other, selectTextIdentity rules query other (mergeCandidates ∅ candidates').values =
        selectTextIdentity rules query other (mergeCandidates ∅ candidates).values) ∧
  ∀ siblings' trace' result', siblings.Perm siblings' → List.Forall₂ Shuffled trace trace' →
    (discoverReleases rules track hypothesis evidence siblings').Runs trace' result' →
    result'.releases = releases

/-- A search that failed settles that there is no conclusion. -/
def SomeFailed (searches : List Search) : Prop := searches.any Search.failed = true

variable {searches searches' : List Search}

theorem any_failed_same (h : List.Forall₂ SameSearch searches searches') :
    searches'.any Search.failed = searches.any Search.failed := by
  induction h with
  | nil => rfl
  | cons hsearch _ ih => rw [List.any_cons, List.any_cons, failed_of_same hsearch, ih]

theorem picks_matches (hshort : ∀ search ∈ searches, Short search)
    (h : List.Forall₂ SameSearch searches searches') :
    List.Forall₂ (Matches rules) searches
      (searches'.map fun search => (search.1, pick rules search)) := by
  induction h with
  | nil => exact .nil
  | cons hsearch _ ih =>
    exact .cons (pick_matches (hshort _ List.mem_cons_self) hsearch)
      (ih fun search hmem => hshort search (List.mem_cons_of_mem _ hmem))

theorem matches_picks {picks : List (IndexedTrack × Option Candidate)}
    (hshort : ∀ search ∈ searches, Short search) (h : List.Forall₂ (Matches rules) searches picks) :
    ∃ searches', List.Forall₂ SameSearch searches searches' ∧
      picks = searches'.map fun search => (search.1, pick rules search) := by
  induction h with
  | nil => exact ⟨[], .nil, rfl⟩
  | cons hpicked _ ih =>
    obtain ⟨search', hsame, rfl⟩ := matches_pick (hshort _ List.mem_cons_self) hpicked
    obtain ⟨searches', hrest, rfl⟩ := ih fun search hmem => hshort search (List.mem_cons_of_mem _ hmem)
    exact ⟨search' :: searches', .cons hsame hrest, rfl⟩

theorem anchors_of_same (h : List.Forall₂ SameSearch searches searches') :
    searches'.map Prod.fst = searches.map Prod.fst := by
  induction h with
  | nil => rfl
  | cons hsearch _ ih => rw [List.map_cons, List.map_cons, ih, hsearch.1]

theorem concluded_of_answered {album : String} (h : List.Forall₂ SameSearch searches searches')
    (hanswered : searches.any Search.failed = false) :
    concluded rules album searches' =
      agreement rules album (countedOf (searches'.map fun search => (search.1, pick rules search))) := by
  unfold concluded
  rw [any_failed_same h, hanswered]
  exact if_neg Bool.false_ne_true

theorem concluded_same {album : String} (hshort : ∀ search ∈ searches, Short search)
    (h : List.Forall₂ SameSearch searches searches')
    (hsettled : SomeFailed searches ∨ ¬ Decisive rules album searches) :
    concluded rules album searches' = concluded rules album searches := by
  have hself : List.Forall₂ SameSearch searches searches :=
    List.forall₂_same.mpr fun search _ => ⟨rfl, sameAnswer_refl search.2⟩
  cases hfailed : searches.any Search.failed with
  | true =>
    unfold concluded
    rw [any_failed_same h, hfailed]
    rfl
  | false =>
    rw [concluded_of_answered h hfailed, concluded_of_answered hself hfailed]
    rcases hsettled with hsome | hfree
    · exact absurd hsome (Bool.eq_false_iff.mp hfailed)
    · exact agreement_of_not_decisive hfree (picks_matches hshort h) (picks_matches hshort hself)

theorem not_decisive_of_same {album : String} (hshort : ∀ search ∈ searches, Short search)
    (hanswered : searches.any Search.failed = false) {releases : List String}
    (h : ∀ searches', List.Forall₂ SameSearch searches searches' →
      concluded rules album searches' = releases) : ¬ Decisive rules album searches := by
  rintro ⟨before, picked, picked', after, hfirst, hsecond, hdiffers⟩
  obtain ⟨first, hsame, hpicks⟩ := matches_picks hshort hfirst
  obtain ⟨second, hsame', hpicks'⟩ := matches_picks hshort hsecond
  rw [hpicks, hpicks', ← concluded_of_answered hsame hanswered,
    ← concluded_of_answered hsame' hanswered, h first hsame, h second hsame'] at hdiffers
  exact hdiffers rfl

/-- The order does not matter exactly where a search failed or no tie is decisive. -/
theorem orderFree_iff {candidates : List Candidate} {trace : List (Exchange CatalogAnswer)}
    {result : Discovery}
    (hruns : (discoverReleases rules track hypothesis evidence siblings).Runs trace result)
    (hids : UniqueIds siblings) (hshort : ∀ search ∈ searchesOf trace, Short search) :
    OrderFree rules candidates track hypothesis evidence siblings trace result.releases ↔
      SomeFailed (searchesOf trace) ∨
        ¬ Decisive rules (albumOf rules track hypothesis evidence siblings) (searchesOf trace) := by
  have hmerged : ∀ candidates', candidates.Perm candidates' →
      mergeCandidates ∅ candidates' = mergeCandidates ∅ candidates :=
    fun candidates' hperm => (mergeCandidates_perm hperm ∅).symm
  cases hasked : askedAnchors rules track hypothesis evidence siblings with
  | none =>
    obtain ⟨quiet, -, hdone⟩ := discoverReleases_quiet hasked
    rw [hdone] at hruns
    obtain ⟨rfl, rfl⟩ := runs_done.mp hruns
    constructor
    · rintro -
      refine .inr ?_
      rintro ⟨before, picked, picked', after, hfirst, -⟩
      have hlength := hfirst.length_eq
      simp [searchesOf] at hlength
    · refine fun _ => ⟨fun candidates' hperm => ?_, ?_⟩
      · rw [hmerged candidates' hperm]
        exact ⟨rfl, fun _ _ => rfl⟩
      · intro siblings' trace' result' hperm _ hruns'
        rw [discoverReleases_perm hperm hids, hdone] at hruns'
        rw [(runs_done.mp hruns').2]
  | some asked =>
    obtain ⟨album, anchors⟩ := asked
    obtain ⟨searches, rfl, rfl, hreleases⟩ := discoverReleases_runs hasked hruns
    rw [searchesOf_traceOf] at hshort ⊢
    rw [albumOf_asked hasked, hreleases]
    constructor
    · rintro ⟨-, hfree⟩
      cases hfailed : searches.any Search.failed with
      | true => exact .inl hfailed
      | false =>
        have hsame : ∀ searches', List.Forall₂ SameSearch searches searches' →
            concluded rules album searches' = concluded rules album searches := by
          intro searches' hsame
          rw [← anchors_of_same hsame] at hasked
          obtain ⟨result', hruns', hreleases'⟩ := discoverReleases_run hasked
          rw [← hreleases']
          exact hfree siblings _ result' (.refl _) (shuffled_traceOf.mpr hsame) hruns'
        exact .inr (not_decisive_of_same hshort hfailed hsame)
    · refine fun hsettled => ⟨fun candidates' hperm => ?_, ?_⟩
      · rw [hmerged candidates' hperm]
        exact ⟨rfl, fun _ _ => rfl⟩
      · intro siblings' trace' result' hperm hshuffled hruns'
        rw [discoverReleases_perm hperm hids] at hruns'
        obtain ⟨searches', -, rfl, hreleases'⟩ := discoverReleases_runs hasked hruns'
        rw [hreleases']
        exact concluded_same hshort (shuffled_traceOf.mp hshuffled) hsettled

theorem orderFree_iff_suite :
    OrderFree plainRules [openingFound, interludeFound] closing closing ⟨[], []⟩
      [opening, interlude] (traceOf suiteSearches) ["00000000-0000-0000-0000-000000000001"] := by
  obtain ⟨result, hruns, hreleases⟩ := discoverReleases_run suite_asked
  rw [suite_concluded] at hreleases
  rw [← hreleases]
  have hsearches : searchesOf (traceOf suiteSearches) = suiteSearches := searchesOf_traceOf _
  refine (orderFree_iff hruns ?_ ?_).mpr (.inr ?_)
  · intro a ha b hb hid
    fin_cases ha <;> fin_cases hb <;> first | rfl | exact absurd hid (by decide)
  · rw [hsearches]
    intro search hsearch values hvalues
    fin_cases hsearch <;> cases hvalues <;> decide
  · rw [hsearches]
    refine not_decisive_of_unique fun search hsearch values hvalues a ha b hb _ _ => ?_
    have hlone : ∃ candidate, values = [candidate] := by
      fin_cases hsearch <;> cases hvalues <;> exact ⟨_, rfl⟩
    obtain ⟨candidate, rfl⟩ := hlone
    rw [List.mem_singleton.mp (List.mem_of_mem_filter ha),
      List.mem_singleton.mp (List.mem_of_mem_filter hb)]

/-- The same recording, reported once more with a bootleg. -/
def openingBootleg : Candidate :=
  { openingFound with releases := [{ suiteRelease with status := some "Bootleg" }] }

/-- The opening is found twice, with equal scores and different releases. -/
def doubledSearches (values : List Candidate) : List Search :=
  [(opening, .ok values), (interlude, .ok [interludeFound])]

theorem doubled_concluded :
    concluded plainRules "Suite" (doubledSearches [openingFound, openingBootleg]) =
        ["00000000-0000-0000-0000-000000000001"] ∧
      concluded plainRules "Suite" (doubledSearches [openingBootleg, openingFound]) = [] := by
  have hfirst : pick plainRules (opening, .ok [openingFound, openingBootleg]) = some openingFound := by
    rw [pick_eq (by decide)]
    decide +kernel
  have hsecond : pick plainRules (opening, .ok [openingBootleg, openingFound]) =
      some openingBootleg := by
    rw [pick_eq (by decide)]
    decide +kernel
  have hother : pick plainRules (interlude, .ok [interludeFound]) = some interludeFound := by
    rw [pick_eq (by decide)]
    decide +kernel
  unfold concluded doubledSearches
  constructor
  · rw [if_neg (by decide), List.map_cons, List.map_cons, List.map_nil, hfirst, hother]
    decide +kernel
  · rw [if_neg (by decide), List.map_cons, List.map_cons, List.map_nil, hsecond, hother]
    decide +kernel

/-- A recording that an answer lists twice: which entry comes first decides about the hint. -/
theorem order_decides :
    ∃ result, (discoverReleases plainRules closing closing ⟨[], []⟩ [opening, interlude]).Runs
        (traceOf (doubledSearches [openingFound, openingBootleg])) result ∧
      ¬ OrderFree plainRules [] closing closing ⟨[], []⟩ [opening, interlude]
        (traceOf (doubledSearches [openingFound, openingBootleg])) result.releases := by
  have hasked : ∀ values, askedAnchors plainRules closing closing ⟨[], []⟩ [opening, interlude] =
      some ("Suite", (doubledSearches values).map Prod.fst) := fun _ => suite_asked
  obtain ⟨result, hruns, hreleases⟩ :=
    discoverReleases_run (hasked [openingFound, openingBootleg])
  obtain ⟨other, hother, hotherReleases⟩ :=
    discoverReleases_run (hasked [openingBootleg, openingFound])
  refine ⟨result, hruns, fun hfree => ?_⟩
  have hsame : List.Forall₂ SameSearch (doubledSearches [openingFound, openingBootleg])
      (doubledSearches [openingBootleg, openingFound]) :=
    .cons ⟨rfl, List.Perm.swap _ _ _⟩ (.cons ⟨rfl, sameAnswer_refl _⟩ .nil)
  have hequal := hfree.2 _ _ other (.refl _) (shuffled_traceOf.mpr hsame) hother
  rw [hreleases, hotherReleases, doubled_concluded.1, doubled_concluded.2] at hequal
  cases hequal

end Discovery

end Enrichment

end MusicServer
