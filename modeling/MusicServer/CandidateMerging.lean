/-
# Merged candidates do not depend on their order

`merge_candidate` unites what several searches found of one recording: the identity fields of the
best response, and the first hundred of all the releases.  The main result,
`mergeCandidates_perm`, says that the responses may arrive in any order.

* `mergeReleases_take`: releases that were cut off earlier would be cut off later;
* `mergeCandidate_right_comm`: two responses may change places.
-/
import MusicServer.IdentityResolution
import MusicServer.LeastEntries
import MusicServer.OutputMembership

namespace MusicServer

namespace Enrichment

open LeastEntries

/-! ## Releases -/

/-- An optional value in the order that has nothing first. -/
def noneFirst {α : Type} : Option α → WithBot α
  | none => ⊥
  | some a => a

theorem noneFirst_injective {α : Type} {left right : Option α}
    (h : noneFirst left = noneFirst right) : left = right := by
  cases left with
  | none =>
    cases right with
    | none => rfl
    | some b => exact absurd h.symm (WithBot.coe_ne_bot)
  | some a =>
    cases right with
    | none => exact absurd h (WithBot.coe_ne_bot)
    | some b => exact congrArg some (WithBot.coe_injective h)

theorem optionLt_iff {α : Type} [LinearOrder α] {lt : α → α → Bool}
    (hlt : ∀ a b, lt a b = true ↔ a < b) (left right : Option α) :
    optionLt lt left right = true ↔ noneFirst left < noneFirst right := by
  cases left with
  | none =>
    cases right with
    | none => exact ⟨fun h => Bool.noConfusion h, fun h => absurd h (lt_irrefl _)⟩
    | some b => exact ⟨fun _ => WithBot.bot_lt_coe b, fun _ => rfl⟩
  | some a =>
    cases right with
    | none => exact ⟨fun h => Bool.noConfusion h, fun h => absurd h not_lt_bot⟩
    | some b => exact (hlt a b).trans WithBot.coe_lt_coe.symm

theorem textLt_iff (left right : String) : textLt left right = true ↔ left < right := by
  unfold textLt
  exact decide_eq_true_iff

/-- The order of the titles and then of the states. -/
def releaseKey (release : ReleaseSummary) : String ×ₗ WithBot String :=
  toLex (release.title, noneFirst release.status)

theorem releaseKey_lt (left right : ReleaseSummary) :
    (textLt left.title right.title || (left.title = right.title &&
      optionLt textLt left.status right.status)) = true ↔ releaseKey left < releaseKey right := by
  unfold releaseKey
  rw [Prod.Lex.toLex_lt_toLex, Bool.or_eq_true, Bool.and_eq_true, textLt_iff, decide_eq_true_iff,
    optionLt_iff textLt_iff]

theorem releaseKey_injective {left right : ReleaseSummary} (hid : left.id = right.id)
    (hkey : releaseKey left = releaseKey right) : left = right := by
  obtain ⟨htitle, hstatus⟩ := Prod.mk.inj (toLex.injective hkey)
  have hstatus' := noneFirst_injective hstatus
  cases left
  cases right
  congr

def keepRelease (kept : Option ReleaseSummary) (release : ReleaseSummary) :
    Option ReleaseSummary :=
  some (keepLess releaseKey (kept.getD release) release)

def mergeRelease (merged : BTreeMap String ReleaseSummary) (release : ReleaseSummary) :
    BTreeMap String ReleaseSummary :=
  merged.insert release.id (keepLess releaseKey ((merged[release.id]?).getD release) release)

theorem mergeReleases_eq (releases : List ReleaseSummary) :
    mergeReleases releases = releases.foldl mergeRelease ∅ := by
  unfold mergeReleases mergeRelease keepLess
  refine congrArg (fun step => releases.foldl step ∅) (funext fun merged => funext fun release => ?_)
  simp only [releaseKey_lt]

theorem keepRelease_right_comm {kept : Option ReleaseSummary} {left right : ReleaseSummary}
    (hid : left.id = right.id) :
    keepRelease (keepRelease kept left) right = keepRelease (keepRelease kept right) left := by
  have hself : ∀ release : ReleaseSummary, keepLess releaseKey release release = release :=
    fun release => ite_self _
  unfold keepRelease
  cases kept with
  | none =>
    rw [Option.getD_none, Option.getD_none, Option.getD_some, Option.getD_some, hself, hself]
    exact keepLess_comm fun hkey => congrArg some (releaseKey_injective hid hkey)
  | some kept =>
    rw [Option.getD_some, Option.getD_some, Option.getD_some, Option.getD_some]
    exact keepLess_right_comm fun hkey => congrArg some (releaseKey_injective hid hkey)

theorem mergeRelease_getElem? (merged : BTreeMap String ReleaseSummary) (release : ReleaseSummary)
    (id : String) :
    (mergeRelease merged release)[id]? =
      if release.id = id then keepRelease merged[id]? release else merged[id]? := by
  unfold mergeRelease
  rw [Std.ExtTreeMap.getElem?_insert]
  simp only [Std.compare_eq_iff_eq]
  split
  · next hid =>
    rw [hid]
    rfl
  · rfl

theorem foldl_mergeRelease_getElem? (releases : List ReleaseSummary)
    (merged : BTreeMap String ReleaseSummary) (id : String) :
    (releases.foldl mergeRelease merged)[id]? =
      (releases.filter fun release => release.id = id).foldl keepRelease merged[id]? := by
  induction releases generalizing merged with
  | nil => rfl
  | cons release rest ih =>
    rw [List.foldl_cons, ih, mergeRelease_getElem?]
    by_cases hid : release.id = id
    · rw [if_pos hid, List.filter_cons_of_pos (by simpa using hid), List.foldl_cons]
    · rw [if_neg hid, List.filter_cons_of_neg (by simpa using hid)]

theorem mergeReleases_append (first second : List ReleaseSummary) (id : String) :
    (mergeReleases (first ++ second))[id]? =
      (second.filter fun release => release.id = id).foldl keepRelease
        (mergeReleases first)[id]? := by
  rw [mergeReleases_eq, mergeReleases_eq, List.foldl_append, foldl_mergeRelease_getElem?]

theorem mergeReleases_perm {left right : List ReleaseSummary} (h : left.Perm right) :
    mergeReleases left = mergeReleases right := by
  rw [mergeReleases_eq, mergeReleases_eq]
  refine h.foldl_eq' (fun a _ b _ merged => ?_) ∅
  refine Std.ExtTreeMap.ext_getElem? fun id => ?_
  simp only [mergeRelease_getElem?]
  by_cases ha : a.id = id
  · by_cases hb : b.id = id
    · simp only [if_pos ha, if_pos hb]
      exact (keepRelease_right_comm (ha.trans hb.symm))
    · simp only [if_pos ha, if_neg hb]
  · simp only [if_neg ha]

theorem foldl_keepRelease_isSome (releases : List ReleaseSummary) (kept : Option ReleaseSummary) :
    (releases.foldl keepRelease kept).isSome = true ↔ kept.isSome = true ∨ releases ≠ [] := by
  induction releases generalizing kept with
  | nil => simp
  | cons release rest ih =>
    rw [List.foldl_cons, ih]
    simp [keepRelease]

variable {releases : List ReleaseSummary}

theorem mem_mergeReleases {id : String} :
    id ∈ mergeReleases releases ↔ ∃ release ∈ releases, release.id = id := by
  rw [mergeReleases_eq, Std.ExtTreeMap.mem_iff_isSome_getElem?, foldl_mergeRelease_getElem?,
    foldl_keepRelease_isSome]
  simp [List.filter_eq_nil_iff]

theorem mergeReleases_get {id : String} {release : ReleaseSummary}
    (h : (mergeReleases releases)[id]? = some release) :
    release.id = id ∧ release ∈ releases := by
  rw [mergeReleases_eq, foldl_mergeRelease_getElem?, Std.ExtTreeMap.getElem?_empty] at h
  have hfold : ∀ (rest : List ReleaseSummary) (kept : Option ReleaseSummary),
      rest.foldl keepRelease kept = some release → kept = some release ∨ release ∈ rest := by
    intro rest
    induction rest with
    | nil => exact fun kept hkept => .inl hkept
    | cons next rest ih =>
      intro kept hfold
      rcases ih _ hfold with hnext | hmem
      · unfold keepRelease keepLess at hnext
        split at hnext
        · exact .inr (Option.some.inj hnext ▸ List.mem_cons_self)
        · cases kept with
          | none => exact .inr (Option.some.inj hnext ▸ List.mem_cons_self)
          | some kept => exact .inl hnext
      · exact .inr (List.mem_cons_of_mem _ hmem)
  rcases hfold _ _ h with hnone | hmem
  · cases hnone
  · obtain ⟨hmem, hid⟩ := List.mem_filter.mp hmem
    exact ⟨of_decide_eq_true hid, hmem⟩

/-- The first hundred of the united releases. -/
def firstReleases (releases : List ReleaseSummary) : List ReleaseSummary :=
  (mergeReleases releases).values.take 100

theorem firstReleases_eq (releases : List ReleaseSummary) :
    firstReleases releases = ((mergeReleases releases).toList.take 100).map Prod.snd := by
  unfold firstReleases
  rw [values_eq_map_snd, List.map_take]

theorem mem_firstReleases {release : ReleaseSummary} :
    release ∈ firstReleases releases ↔
      (mergeReleases releases)[release.id]? = some release ∧
        rank (mergeReleases releases) release.id < 100 := by
  rw [firstReleases_eq, List.mem_map]
  constructor
  · rintro ⟨⟨id, release⟩, hentry, rfl⟩
    obtain ⟨hget, hfew⟩ := mem_take_toList.mp hentry
    dsimp only at hget hfew ⊢
    obtain ⟨rfl, -⟩ := mergeReleases_get hget
    exact ⟨hget, hfew⟩
  · exact fun h => ⟨(release.id, release), mem_take_toList.mpr h, rfl⟩

theorem foldl_keepRelease_same {release : ReleaseSummary} (h : ∀ other ∈ releases, other = release)
    (hsome : releases ≠ []) :
    releases.foldl keepRelease none = some release := by
  have hfold : ∀ rest : List ReleaseSummary, (∀ other ∈ rest, other = release) →
      rest.foldl keepRelease (some release) = some release := by
    intro rest
    induction rest with
    | nil => exact fun _ => rfl
    | cons next rest ih =>
      intro hall
      have hnext : keepRelease (some release) next = some release := by
        rw [hall next List.mem_cons_self]
        exact congrArg some (ite_self _)
      rw [List.foldl_cons, hnext]
      exact ih fun other hother => hall other (List.mem_cons_of_mem _ hother)
  cases releases with
  | nil => exact absurd rfl hsome
  | cons next rest =>
    have hnext : keepRelease none next = some release := by
      rw [h next List.mem_cons_self]
      exact congrArg some (ite_self _)
    rw [List.foldl_cons, hnext]
    exact hfold rest fun other hother => h other (List.mem_cons_of_mem _ hother)

theorem mergeReleases_first {id : String} (hfew : rank (mergeReleases releases) id < 100) :
    (mergeReleases (firstReleases releases))[id]? = (mergeReleases releases)[id]? := by
  cases hget : (mergeReleases releases)[id]? with
  | none =>
    refine Std.ExtTreeMap.getElem?_eq_none fun hmem => ?_
    obtain ⟨release, hrelease, rfl⟩ := mem_mergeReleases.mp hmem
    rw [(mem_firstReleases.mp hrelease).1] at hget
    cases hget
  | some release =>
    obtain ⟨rfl, -⟩ := mergeReleases_get hget
    rw [mergeReleases_eq (firstReleases releases), foldl_mergeRelease_getElem?,
      Std.ExtTreeMap.getElem?_empty]
    refine foldl_keepRelease_same (fun other hother => ?_) ?_
    · obtain ⟨hmem, hid⟩ := List.mem_filter.mp hother
      have hother' := (mem_firstReleases.mp hmem).1
      rw [of_decide_eq_true hid, hget] at hother'
      exact (Option.some.inj hother').symm
    · refine List.ne_nil_of_mem (a := release) (List.mem_filter.mpr ⟨?_, decide_eq_true rfl⟩)
      exact mem_firstReleases.mpr ⟨hget, hfew⟩

theorem mergeReleases_take (first second : List ReleaseSummary) :
    firstReleases (firstReleases first ++ second) = firstReleases (first ++ second) := by
  have hids : ∀ id, id ∈ mergeReleases first → id ∈ mergeReleases (first ++ second) := by
    intro id hid
    obtain ⟨release, hrelease, rfl⟩ := mem_mergeReleases.mp hid
    exact mem_mergeReleases.mpr ⟨release, List.mem_append_left _ hrelease, rfl⟩
  rw [firstReleases_eq, firstReleases_eq (first ++ second)]
  refine congrArg (List.map Prod.snd) (take_toList_congr (fun id hid => ?_) fun id hfew => ?_)
  · obtain ⟨release, hrelease, rfl⟩ := mem_mergeReleases.mp hid
    rcases List.mem_append.mp hrelease with hfirst | hsecond
    · have hget := (mem_firstReleases.mp hfirst).1
      exact mem_mergeReleases.mpr
        ⟨release, List.mem_append_left _ (mergeReleases_get hget).2, rfl⟩
    · exact mem_mergeReleases.mpr ⟨release, List.mem_append_right _ hsecond, rfl⟩
  · rw [mergeReleases_append, mergeReleases_append,
      mergeReleases_first ((rank_mono hids id).trans_lt hfew)]

/-! ## Candidates -/

/-- The order of the scores, from the best, and then of the titles, artists and lengths. -/
def candidateKey (candidate : Candidate) : ℚᵒᵈ ×ₗ String ×ₗ String ×ₗ WithBot ℕ :=
  toLex (OrderDual.toDual candidate.providerScore, toLex (candidate.title,
    toLex (candidate.artist, noneFirst candidate.lengthMs)))

theorem preferIncoming_iff (current incoming : Candidate) :
    preferIncoming current incoming = true ↔ candidateKey incoming < candidateKey current := by
  have hlength : ∀ left right : ℕ, decide (left < right) = true ↔ left < right :=
    fun _ _ => decide_eq_true_iff
  unfold preferIncoming candidateKey
  rw [Prod.Lex.toLex_lt_toLex, Prod.Lex.toLex_lt_toLex, Prod.Lex.toLex_lt_toLex,
    OrderDual.toDual_lt_toDual, OrderDual.toDual_inj]
  simp only [Bool.or_eq_true, Bool.and_eq_true, decide_eq_true_iff, textLt_iff,
    optionLt_iff hlength]

def withReleases (releases : List ReleaseSummary) (candidate : Candidate) : Candidate :=
  { candidate with releases := releases }

theorem withReleases_injective {left right : Candidate} (hid : left.id = right.id)
    (hkey : candidateKey left = candidateKey right) (releases : List ReleaseSummary) :
    withReleases releases left = withReleases releases right := by
  obtain ⟨hscore, hrest⟩ := Prod.mk.inj (toLex.injective hkey)
  obtain ⟨htitle, hrest⟩ := Prod.mk.inj (toLex.injective hrest)
  obtain ⟨hartist, hlength⟩ := Prod.mk.inj (toLex.injective hrest)
  have hscore' := OrderDual.toDual.injective hscore
  have hlength' := noneFirst_injective hlength
  cases left
  cases right
  unfold withReleases
  congr

/-- What two responses for one recording become. -/
def united (current incoming : Candidate) : Candidate :=
  withReleases (firstReleases (current.releases ++ incoming.releases))
    (keepLess candidateKey current incoming)

theorem united_comm {left right : Candidate} (hid : left.id = right.id) :
    united left right = united right left := by
  unfold united firstReleases
  rw [mergeReleases_perm List.perm_append_comm]
  exact keepLess_comm fun hkey => withReleases_injective hid hkey _

theorem united_united (current left right : Candidate) :
    united (united current left) right =
      withReleases (firstReleases (current.releases ++ left.releases ++ right.releases))
        (keepLess candidateKey (keepLess candidateKey current left) right) := by
  have hreleases : firstReleases ((united current left).releases ++ right.releases) =
      firstReleases (current.releases ++ left.releases ++ right.releases) :=
    mergeReleases_take _ _
  have hkept : ∀ releases, withReleases releases (keepLess candidateKey (united current left) right) =
      withReleases releases (keepLess candidateKey (keepLess candidateKey current left) right) := by
    intro releases
    by_cases hless : candidateKey right < candidateKey (keepLess candidateKey current left)
    · have hunited : keepLess candidateKey (united current left) right = right := if_pos hless
      have hplain : keepLess candidateKey (keepLess candidateKey current left) right = right :=
        if_pos hless
      rw [hunited, hplain]
    · have hunited : keepLess candidateKey (united current left) right = united current left :=
        if_neg hless
      have hplain : keepLess candidateKey (keepLess candidateKey current left) right =
          keepLess candidateKey current left := if_neg hless
      rw [hunited, hplain]
      rfl
  rw [united, hreleases, hkept]

theorem united_right_comm {current left right : Candidate} (hid : left.id = right.id) :
    united (united current left) right = united (united current right) left := by
  have hperm : (current.releases ++ left.releases ++ right.releases).Perm
      (current.releases ++ right.releases ++ left.releases) := by
    rw [List.append_assoc, List.append_assoc]
    exact List.perm_append_comm.append_left _
  rw [united_united, united_united, firstReleases, mergeReleases_perm hperm]
  exact keepLess_right_comm fun hkey => withReleases_injective hid hkey _

/-! ## The map of the candidates -/

def uniteCandidate (current : Option Candidate) (incoming : Candidate) : Candidate :=
  match current with
  | none => incoming
  | some current => united current incoming

theorem mergeCandidate_eq (candidates : BTreeMap String Candidate) (incoming : Candidate) :
    mergeCandidate candidates incoming =
      if inUnitRange incoming.providerScore then
        candidates.insert incoming.id (uniteCandidate candidates[incoming.id]? incoming)
      else candidates := by
  unfold mergeCandidate
  cases inUnitRange incoming.providerScore with
  | false => rfl
  | true =>
    rw [if_neg Bool.noConfusion, if_pos rfl]
    cases hcurrent : candidates[incoming.id]? with
    | none => rfl
    | some current =>
      dsimp only [uniteCandidate, united, keepLess]
      simp only [preferIncoming_iff]
      split
      · rfl
      · rfl

theorem mergeCandidate_getElem? {incoming : Candidate}
    (hrange : inUnitRange incoming.providerScore = true)
    (candidates : BTreeMap String Candidate) (id : String) :
    (mergeCandidate candidates incoming)[id]? =
      if incoming.id = id then some (uniteCandidate candidates[id]? incoming)
      else candidates[id]? := by
  rw [mergeCandidate_eq, if_pos hrange, Std.ExtTreeMap.getElem?_insert]
  simp only [Std.compare_eq_iff_eq]
  split
  · next hid => rw [hid]
  · rfl

theorem mergeCandidate_right_comm (candidates : BTreeMap String Candidate)
    (left right : Candidate) :
    mergeCandidate (mergeCandidate candidates left) right =
      mergeCandidate (mergeCandidate candidates right) left := by
  have hdropped : ∀ (map : BTreeMap String Candidate) {incoming : Candidate},
      ¬ inUnitRange incoming.providerScore = true → mergeCandidate map incoming = map := by
    intro map incoming hout
    rw [mergeCandidate_eq, if_neg hout]
  by_cases hleft : inUnitRange left.providerScore = true
  · by_cases hright : inUnitRange right.providerScore = true
    · refine Std.ExtTreeMap.ext_getElem? fun id => ?_
      simp only [mergeCandidate_getElem? hleft, mergeCandidate_getElem? hright]
      by_cases hl : left.id = id
      · by_cases hr : right.id = id
        · simp only [if_pos hl, if_pos hr]
          cases candidates[id]? with
          | none => exact congrArg some (united_comm (hl.trans hr.symm))
          | some current => exact congrArg some (united_right_comm (hl.trans hr.symm))
        · simp only [if_pos hl, if_neg hr]
      · simp only [if_neg hl]
    · rw [hdropped _ hright, hdropped _ hright]
  · rw [hdropped _ hleft, hdropped _ hleft]

theorem mergeCandidates_perm {left right : List Candidate} (h : left.Perm right)
    (candidates : BTreeMap String Candidate) :
    mergeCandidates candidates left = mergeCandidates candidates right :=
  h.foldl_eq' (fun a _ b _ map => mergeCandidate_right_comm map a b) candidates

end Enrichment

end MusicServer
