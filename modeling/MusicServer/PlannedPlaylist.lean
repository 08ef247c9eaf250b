/-
# What the planner suggests

Ranking, diversification, selection and sequencing each hand on a list of the same tracks.  The
search for a closer duration ends, so the planner does; its plan is well formed and does not depend
on the order of the source (`suggestLocalPlaylist_wellFormed`).

* `diversify_subperm`, `sequenceDefaultPool_perm`: the candidates are ranked tracks, each once;
* `defaultPool_ends`: the selection ends where no single change comes closer to the target;
* `sortedRanking_perm`: the ranking of a permuted source.
-/
import MusicServer.PlaylistPlanner

namespace MusicServer.Planner

open LocalSearch

/-! ## Diversification -/

section Order

variable {rules : PromptRules} {taken : Taken} {limit : ℕ} {remaining items : List RankedTrack}

theorem exists_winner {replaces : RankedTrack → RankedTrack → Bool} (h : remaining ≠ []) :
    ∃ index item, bestIndex replaces remaining = some index ∧ remaining[index]? = some item := by
  obtain ⟨index, hindex⟩ := Option.isSome_iff_exists.mp (@bestIndex_isSome _ replaces _ h)
  exact ⟨index, _, hindex, List.getElem?_eq_getElem (bestIndex_lt hindex)⟩

theorem cons_eraseIdx_perm {index : ℕ} {item : RankedTrack} (h : remaining[index]? = some item) :
    (item :: remaining.eraseIdx index).Perm remaining := by
  obtain ⟨hlt, rfl⟩ := List.getElem?_eq_some_iff.mp h
  exact List.getElem_cons_eraseIdx_perm hlt

theorem diversify_subperm : (diversify rules taken limit remaining).Subperm remaining := by
  induction limit generalizing taken remaining with
  | zero => exact List.nil_subperm
  | succ limit ih =>
    unfold diversify
    dsimp only
    split
    · exact List.nil_subperm
    · next item hitem =>
      exact (List.subperm_cons item |>.mpr ih).trans (cons_eraseIdx_perm hitem).subperm

theorem length_diversify :
    (diversify rules taken limit remaining).length = min limit remaining.length := by
  induction limit generalizing taken remaining with
  | zero => exact (Nat.zero_min _).symm
  | succ limit ih =>
    by_cases hempty : remaining = []
    · subst hempty
      rfl
    · obtain ⟨index, item, hindex, hitem⟩ := @exists_winner _
        (fun next kept => adjustedLe rules taken kept next) hempty
      have hlength := (cons_eraseIdx_perm hitem).length_eq
      rw [List.length_cons] at hlength
      unfold diversify
      simp only [hindex, Option.getD_some, hitem, List.length_cons, ih]
      omega

/-! ## Sequencing -/

theorem followTargets_perm {rank : BTreeMap ℤ ℕ} {targets : List ℚ}
    (h : targets.length = items.length) : (followTargets rank targets items).Perm items := by
  induction targets generalizing items with
  | nil =>
    rw [List.length_eq_zero_iff.mp h.symm]
    exact .nil
  | cons target targets ih =>
    have hne : items ≠ [] := List.ne_nil_of_length_pos (by rw [← h]; exact Nat.succ_pos _)
    unfold followTargets
    obtain ⟨index, item, hindex, hitem⟩ := @exists_winner _ (fun next kept =>
      |next.planningEnergy - target| < |kept.planningEnergy - target| ||
        (|next.planningEnergy - target| = |kept.planningEnergy - target| &&
          rankOf rank next < rankOf rank kept)) hne
    simp only [hindex, Option.getD_some, hitem]
    have hperm := cons_eraseIdx_perm hitem
    refine ((ih ?_).cons item).trans hperm
    have hlength := hperm.length_eq
    rw [List.length_cons] at h hlength
    omega

theorem length_arcTargets : (arcTargets items).length = items.length := by
  unfold arcTargets
  split
  · rfl
  · dsimp only
    split
    · exact List.length_replicate
    · rw [List.length_map, List.length_range]

theorem sequenceDefaultPool_perm (curve : EnergyCurve) :
    (sequenceDefaultPool items curve).Perm items := by
  unfold sequenceDefaultPool
  split
  · exact .refl _
  · cases curve with
    | rising | falling => exact List.mergeSort_perm _ _
    | steady | arc => exact followTargets_perm length_arcTargets

end Order

/-! ## Selection -/

section Selection

variable {durations : List ℚ} {target : ℚ} {selection : Selection}

def secondsAt (durations : List ℚ) (selected : Finset ℕ) : ℚ := ∑ i ∈ selected, durations.getD i 0

def selections (durations : List ℚ) : Finset Selection :=
  ((Finset.range durations.length).powerset.image fun selected =>
    (selected, secondsAt durations selected)).filter fun selection => selection.1.Nonempty

theorem mem_selections : selection ∈ selections durations ↔
    (∀ i ∈ selection.1, i < durations.length) ∧ selection.2 = secondsAt durations selection.1 ∧
      selection.1.Nonempty := by
  obtain ⟨selected, seconds⟩ := selection
  unfold selections
  simp only [Finset.mem_filter, Finset.mem_image, Finset.mem_powerset, Prod.mk.injEq]
  constructor
  · rintro ⟨⟨other, hsub, rfl, rfl⟩, hne⟩
    exact ⟨fun i hi => Finset.mem_range.mp (hsub hi), rfl, hne⟩
  · rintro ⟨hsub, rfl, hne⟩
    exact ⟨⟨selected, fun i hi => Finset.mem_range.mpr (hsub i hi), rfl, rfl⟩, hne⟩

theorem secondsAt_insert {selected : Finset ℕ} {i : ℕ} (h : i ∉ selected) :
    secondsAt durations (insert i selected) =
      secondsAt durations selected + durations.getD i 0 := by
  unfold secondsAt
  rw [Finset.sum_insert h, add_comm]

theorem secondsAt_erase {selected : Finset ℕ} {i : ℕ} (h : i ∈ selected) :
    secondsAt durations (selected.erase i) = secondsAt durations selected - durations.getD i 0 :=
  Finset.sum_erase_eq_sub h

theorem getD_of_mem_zipIdx {duration : ℚ} {i : ℕ} (h : (duration, i) ∈ durations.zipIdx) :
    i < durations.length ∧ duration = durations.getD i 0 := by
  have hget := List.mk_mem_zipIdx_iff_getElem?.mp h
  obtain ⟨hlt, -⟩ := List.getElem?_eq_some_iff.mp hget
  exact ⟨hlt, by rw [List.getD_eq_getElem?_getD, hget, Option.getD_some]⟩

theorem mem_singleMoves {next : Selection} : next ∈ singleMoves durations selection ↔
    (∃ i < durations.length, i ∈ selection.1 ∧ selection.1.card ≠ 1 ∧
        next = (selection.1.erase i, selection.2 - durations.getD i 0)) ∨
      ∃ i < durations.length, i ∉ selection.1 ∧
        next = (insert i selection.1, selection.2 + durations.getD i 0) := by
  unfold singleMoves
  rw [List.mem_filterMap]
  constructor
  · rintro ⟨⟨duration, i⟩, hentry, hnext⟩
    obtain ⟨hlt, rfl⟩ := getD_of_mem_zipIdx hentry
    dsimp only at hnext
    split at hnext
    · next hmem =>
      split at hnext
      · cases hnext
      · next hmore => exact .inl ⟨i, hlt, hmem, hmore, (Option.some.inj hnext).symm⟩
    · next hnot => exact .inr ⟨i, hlt, hnot, (Option.some.inj hnext).symm⟩
  · have hentry : ∀ i < durations.length, (durations.getD i 0, i) ∈ durations.zipIdx := by
      intro i hlt
      rw [List.mk_mem_zipIdx_iff_getElem?, List.getD_eq_getElem?_getD,
        List.getElem?_eq_getElem hlt]
      rfl
    rintro (⟨i, hlt, hmem, hmore, rfl⟩ | ⟨i, hlt, hnot, rfl⟩)
    · exact ⟨_, hentry i hlt, by simp [hmem, hmore]⟩
    · exact ⟨_, hentry i hlt, by simp [hnot]⟩

theorem mem_swapMoves {next : Selection} : next ∈ swapMoves durations selection ↔
    ∃ i < durations.length, i ∈ selection.1 ∧ ∃ j < durations.length, j ∉ selection.1 ∧
      next = (insert j (selection.1.erase i),
        selection.2 - durations.getD i 0 + durations.getD j 0) := by
  unfold swapMoves
  simp only [List.mem_flatMap, List.mem_filter, List.mem_range, decide_eq_true_eq,
    List.mem_filterMap, Prod.exists]
  constructor
  · rintro ⟨i, ⟨hlt, hmem⟩, duration, j, hentry, hnext⟩
    obtain ⟨hj, rfl⟩ := getD_of_mem_zipIdx hentry
    split at hnext
    · cases hnext
    · next hnot => exact ⟨i, hlt, hmem, j, hj, hnot, (Option.some.inj hnext).symm⟩
  · rintro ⟨i, hlt, hmem, j, hj, hnot, rfl⟩
    refine ⟨i, ⟨hlt, hmem⟩, durations.getD j 0, j, ?_, by rw [if_neg hnot]⟩
    rw [List.mk_mem_zipIdx_iff_getElem?, List.getD_eq_getElem?_getD, List.getElem?_eq_getElem hj]
    rfl

theorem poolMoves_mem {next : Selection} (h : selection ∈ selections durations)
    (hnext : next ∈ poolMoves durations selection) : next ∈ selections durations := by
  obtain ⟨hbound, hseconds, hne⟩ := mem_selections.mp h
  rw [mem_selections]
  rcases List.mem_append.mp hnext with hsingle | hswap
  · rcases mem_singleMoves.mp hsingle with ⟨i, hlt, hmem, hmore, rfl⟩ | ⟨i, hlt, hnot, rfl⟩
    · refine ⟨fun j hj => hbound j (Finset.mem_of_mem_erase hj), ?_, ?_⟩
      · rw [secondsAt_erase hmem, hseconds]
      · rw [← Finset.card_pos, Finset.card_erase_of_mem hmem]
        have := hne.card_pos
        omega
    · refine ⟨?_, ?_, Finset.insert_nonempty _ _⟩
      · intro j hj
        rcases Finset.mem_insert.mp hj with rfl | hj
        · exact hlt
        · exact hbound j hj
      · rw [secondsAt_insert hnot, hseconds]
  · obtain ⟨i, hlt, hmem, j, hj, hnot, rfl⟩ := mem_swapMoves.mp hswap
    have hnot' : j ∉ selection.1.erase i := fun hmem' => hnot (Finset.mem_of_mem_erase hmem')
    refine ⟨?_, ?_, Finset.insert_nonempty _ _⟩
    · intro k hk
      rcases Finset.mem_insert.mp hk with rfl | hk
      · exact hj
      · exact hbound k (Finset.mem_of_mem_erase hk)
    · rw [secondsAt_insert hnot', secondsAt_erase hmem, hseconds]

theorem foldl_addCloser {entries : List (ℚ × ℕ)}
    (hentries : ∀ entry ∈ entries, entry ∈ durations.zipIdx)
    (hdistinct : (entries.map Prod.snd).Nodup)
    (hbound : ∀ i ∈ selection.1, i < durations.length)
    (hseconds : selection.2 = secondsAt durations selection.1)
    (hnew : ∀ entry ∈ entries, entry.2 ∉ selection.1) :
    (∀ i ∈ (entries.foldl (addCloser target) selection).1, i < durations.length) ∧
      (entries.foldl (addCloser target) selection).2 =
        secondsAt durations (entries.foldl (addCloser target) selection).1 := by
  induction entries generalizing selection with
  | nil => exact ⟨hbound, hseconds⟩
  | cons entry rest ih =>
    obtain ⟨hapart, hdistinct⟩ := List.nodup_cons.mp hdistinct
    obtain ⟨hlt, hduration⟩ := @getD_of_mem_zipIdx durations entry.1 entry.2
      (hentries entry List.mem_cons_self)
    have hrest := fun other hother => hentries other (List.mem_cons_of_mem _ hother)
    rw [List.foldl_cons]
    unfold addCloser
    split
    · refine ih hrest hdistinct ?_ ?_ ?_
      · intro i hi
        rcases Finset.mem_insert.mp hi with rfl | hi
        · exact hlt
        · exact hbound i hi
      · rw [secondsAt_insert (hnew entry List.mem_cons_self), ← hduration, hseconds]
      · intro other hother hmem
        rcases Finset.mem_insert.mp hmem with hsame | hmem
        · exact hapart (hsame ▸ List.mem_map_of_mem hother)
        · exact hnew other (List.mem_cons_of_mem _ hother) hmem
    · exact ih hrest hdistinct hbound hseconds fun other hother =>
        hnew other (List.mem_cons_of_mem _ hother)

theorem greedyPool_mem (h : durations ≠ []) :
    greedyPool durations target ∈ selections durations := by
  have hdistinct : (durations.zipIdx.map Prod.snd).Nodup := by
    rw [List.zipIdx_map_snd]
    exact List.nodup_range'
  obtain ⟨hbound, hseconds⟩ := @foldl_addCloser durations target (∅, 0) _ (fun _ h => h) hdistinct
    (fun _ hi => absurd hi (Finset.notMem_empty _)) rfl (fun _ _ => Finset.notMem_empty _)
  rw [mem_selections]
  unfold greedyPool
  dsimp only
  split
  · obtain ⟨index, hindex⟩ := Option.isSome_iff_exists.mp (@bestIndex_isSome _
      (fun next kept => decide (|next - target| < |kept - target|)) _ h)
    simp only [hindex, Option.getD_some]
    refine ⟨?_, ?_, Finset.singleton_nonempty _⟩
    · intro i hi
      rw [Finset.mem_singleton.mp hi]
      exact bestIndex_lt hindex
    · exact (Finset.sum_singleton _ _).symm
  · next hne => exact ⟨hbound, hseconds, Finset.nonempty_iff_ne_empty.mpr hne⟩

def itemsAt (ranked : List RankedTrack) (selected : Finset ℕ) : List RankedTrack :=
  (ranked.zipIdx.filter fun entry => entry.2 ∈ selected).map Prod.fst

theorem defaultPool_ends {ranked : List RankedTrack} (h : ranked ≠ []) (target : ℚ) :
    ∃ selection ∈ selections (ranked.map planningDuration),
      (∀ next ∈ poolMoves (ranked.map planningDuration) selection,
        poolError target selection ≤ poolError target next) ∧
      ∃ enough, ∀ fuel, enough < fuel →
        defaultPool fuel ranked target = some (itemsAt ranked selection.1, selection.2) := by
  have hstart := @greedyPool_mem (ranked.map planningDuration) target
    (mt List.map_eq_nil_iff.mp h)
  obtain ⟨selection, hmem, hbest, hends⟩ := @search_ends _ _ _ (poolError target)
    (poolMoves (ranked.map planningDuration)) _ _ (fun s hs next => poolMoves_mem hs) hstart
  refine ⟨selection, hmem, hbest, (selections (ranked.map planningDuration)).card,
    fun fuel hfuel => ?_⟩
  unfold defaultPool
  rw [if_neg h]
  dsimp only
  rw [hends fuel hfuel]
  rfl

theorem sum_itemsAt {value : RankedTrack → ℚ} {ranked : List RankedTrack} {selected : Finset ℕ}
    (h : ∀ i ∈ selected, i < ranked.length) :
    ((itemsAt ranked selected).map value).sum = secondsAt (ranked.map value) selected := by
  induction ranked using List.reverseRecOn generalizing selected with
  | nil =>
    rw [Finset.eq_empty_of_forall_notMem fun i hi => Nat.not_lt_zero _ (h i hi)]
    rfl
  | append_singleton rest last ih =>
    have hrest := @ih (selected.erase rest.length) fun i hi => by
      have hlt := h i (Finset.mem_of_mem_erase hi)
      have hne := Finset.ne_of_mem_erase hi
      rw [List.length_append, List.length_singleton] at hlt
      omega
    have hsame : itemsAt rest selected = itemsAt rest (selected.erase rest.length) := by
      unfold itemsAt
      refine congrArg (List.map Prod.fst) (List.filter_congr fun entry hentry => ?_)
      have hne : entry.2 ≠ rest.length := (List.mem_zipIdx' hentry).1.ne
      simp [hne]
    have hvalues : secondsAt ((rest ++ [last]).map value) (selected.erase rest.length) =
        secondsAt (rest.map value) (selected.erase rest.length) := by
      refine Finset.sum_congr rfl fun i hi => ?_
      have hlt := h i (Finset.mem_of_mem_erase hi)
      have hne := Finset.ne_of_mem_erase hi
      rw [List.length_append, List.length_singleton] at hlt
      rw [List.map_append, List.getD_append _ _ _ _ (by rw [List.length_map]; omega)]
    have hsplit : itemsAt (rest ++ [last]) selected =
        itemsAt rest selected ++ if rest.length ∈ selected then [last] else [] := by
      unfold itemsAt
      rw [List.zipIdx_append, List.filter_append, List.map_append]
      by_cases hlast : rest.length ∈ selected <;> simp [hlast]
    rw [hsplit, List.map_append, List.sum_append, hsame, hrest, ← hvalues]
    by_cases hlast : rest.length ∈ selected
    · rw [if_pos hlast, secondsAt_erase hlast]
      simp
    · rw [if_neg hlast, Finset.erase_eq_of_notMem hlast]
      simp

theorem length_itemsAt {ranked : List RankedTrack} {selected : Finset ℕ}
    (h : ∀ i ∈ selected, i < ranked.length) : (itemsAt ranked selected).length = selected.card := by
  have hsum := @sum_itemsAt (fun _ => 1) ranked selected h
  have hones : secondsAt (ranked.map fun _ => (1 : ℚ)) selected = selected.card := by
    rw [← nsmul_one selected.card]
    refine Finset.sum_eq_card_nsmul fun i hi => ?_
    rw [List.getD_eq_getElem?_getD, List.getElem?_map, List.getElem?_eq_getElem (h i hi)]
    rfl
  rw [hones, List.map_const', List.sum_replicate, nsmul_one] at hsum
  exact_mod_cast hsum

end Selection

/-! ## Candidates -/

section Candidates

variable {diversified : List RankedTrack} {selected : Finset ℕ}

theorem itemsAt_sublist : (itemsAt diversified selected).Sublist diversified := by
  have h := (List.filter_sublist (p := fun entry : RankedTrack × ℕ => decide (entry.2 ∈ selected))
    (l := diversified.zipIdx)).map Prod.fst
  rwa [List.zipIdx_map_fst] at h

theorem mem_ids_itemsAt (hids : (diversified.map (·.track.id)).Nodup) {i : ℕ} {item : RankedTrack}
    (hitem : diversified[i]? = some item) :
    item.track.id ∈ (itemsAt diversified selected).map (·.track.id) ↔ i ∈ selected := by
  unfold itemsAt
  simp only [List.mem_map, List.mem_filter, decide_eq_true_eq, Prod.exists]
  constructor
  · rintro ⟨other, ⟨kept, j, ⟨hentry, hj⟩, rfl⟩, hsame⟩
    have hother := List.mk_mem_zipIdx_iff_getElem?.mp hentry
    have hi : (diversified.map (·.track.id))[i]? = some item.track.id := by
      rw [List.getElem?_map, hitem]
      rfl
    have hj' : (diversified.map (·.track.id))[j]? = some item.track.id := by
      rw [List.getElem?_map, hother]
      exact congrArg some hsame
    obtain ⟨hlt, -⟩ := List.getElem?_eq_some_iff.mp hi
    rwa [(List.getElem?_inj hlt hids).mp (hi.trans hj'.symm)]
  · intro hi
    exact ⟨item, ⟨item, i, ⟨List.mk_mem_zipIdx_iff_getElem?.mpr hitem, hi⟩, rfl⟩, rfl⟩

theorem filter_ids_eq {listed kept : List RankedTrack} (h : kept.Sublist listed)
    (hids : (listed.map (·.track.id)).Nodup) :
    listed.filter (fun item => item.track.id ∈ kept.map (·.track.id)) = kept := by
  induction h with
  | slnil => rfl
  | cons item hsub ih =>
    obtain ⟨hnew, hids⟩ := List.nodup_cons.mp hids
    rw [List.filter_cons_of_neg, ih hids]
    have hkept := fun hmem => hnew ((hsub.map (·.track.id)).subset hmem)
    simpa using hkept
  | @cons_cons kept listed item hsub ih =>
    obtain ⟨hnew, hids⟩ := List.nodup_cons.mp hids
    rw [List.filter_cons_of_pos (by simp)]
    refine congrArg (item :: ·) ((List.filter_congr fun other hother => ?_).trans (ih hids))
    have hne : other.track.id ≠ item.track.id := fun hsame =>
      hnew (List.mem_map.mpr ⟨other, hother, hsame⟩)
    simp [hne]

/-- The items in the order of the candidates. -/
def listedItems (diversified pool planned : List RankedTrack) : List RankedTrack :=
  planned ++ diversified.filter fun item => item.track.id ∉ pool.map (·.track.id)

variable {pool planned : List RankedTrack}

theorem listedItems_perm (hpool : pool.Sublist diversified) (hplanned : planned.Perm pool)
    (hids : (diversified.map (·.track.id)).Nodup) :
    (listedItems diversified pool planned).Perm diversified := by
  have hsplit := List.filter_append_perm
    (fun item : RankedTrack => decide (item.track.id ∈ pool.map (·.track.id))) diversified
  rw [filter_ids_eq hpool hids] at hsplit
  have hothers : (diversified.filter fun item => item.track.id ∉ pool.map (·.track.id)) =
      diversified.filter fun item => !decide (item.track.id ∈ pool.map (·.track.id)) := by
    simp only [decide_not]
  unfold listedItems
  rw [hothers]
  exact (hplanned.append_right _).trans hsplit

theorem positions_iff (hids : (planned.map (·.track.id)).Nodup) {key : ℤ} {place : ℕ} :
    (MapInserts.insertAll (planned.zipIdx.map fun entry =>
        (entry.1.track.id.get, entry.2 + 1)) (∅ : BTreeMap ℤ ℕ))[key]? = some place ↔
      ∃ i item, planned[i]? = some item ∧ item.track.id.get = key ∧ place = i + 1 := by
  rw [MapInserts.getElem?_insertAll ?_ ∅ fun _ _ => Std.ExtTreeMap.not_mem_empty]
  · simp only [List.mem_map, Prod.exists, Prod.mk.injEq, Std.ExtTreeMap.getElem?_empty,
      reduceCtorEq, or_false]
    constructor
    · rintro ⟨item, i, hentry, hkey, hplace⟩
      exact ⟨i, item, List.mk_mem_zipIdx_iff_getElem?.mp hentry, hkey, hplace.symm⟩
    · rintro ⟨i, item, hitem, hkey, hplace⟩
      exact ⟨item, i, List.mk_mem_zipIdx_iff_getElem?.mpr hitem, hkey, hplace.symm⟩
  · have hkeys : (planned.zipIdx.map fun entry =>
        (entry.1.track.id.get, entry.2 + 1)).map Prod.fst =
          (planned.map (·.track.id)).map (·.get) := by
      rw [List.map_map, List.map_map]
      conv_rhs => rw [← List.zipIdx_map_fst 0 planned, List.map_map]
      rfl
    rw [hkeys]
    exact hids.map fun a b hsame => TrackId.ext hsame

theorem flags_of_listed (hpool : pool.Sublist diversified) (hplanned : planned.Perm pool)
    (hids : (diversified.map (·.track.id)).Nodup) {i : ℕ} {candidate : PlaylistCandidate}
    (h : (plannedCandidates diversified pool planned)[i]? = some candidate) :
    candidate.defaultSelected = decide (i < pool.length) ∧
      candidate.sequencePosition = if i < pool.length then some (i + 1) else none := by
  have hplannedIds : (planned.map (·.track.id)).Nodup :=
    (hplanned.map (·.track.id)).nodup_iff.mpr (hids.sublist (hpool.map (·.track.id)))
  unfold plannedCandidates at h
  rw [List.getElem?_map] at h
  obtain ⟨item, hitem, rfl⟩ := Option.map_eq_some_iff.mp h
  rw [List.getElem?_append, hplanned.length_eq] at hitem
  dsimp only [candidateOf]
  split at hitem
  · next hlt =>
    have hmem : item ∈ pool := hplanned.mem_iff.mp (List.mem_of_getElem? hitem)
    refine ⟨?_, ?_⟩
    · rw [decide_eq_true hlt, decide_eq_true]
      exact List.mem_map_of_mem hmem
    · rw [if_pos hlt]
      exact (positions_iff hplannedIds).mpr ⟨i, item, hitem, rfl, rfl⟩
  · next hge =>
    obtain ⟨-, hout⟩ := List.mem_filter.mp (List.mem_of_getElem? hitem)
    have hnot : item.track.id ∉ pool.map (·.track.id) := of_decide_eq_true hout
    refine ⟨?_, ?_⟩
    · rw [decide_eq_false hge, decide_eq_false hnot]
    · rw [if_neg hge]
      refine Option.eq_none_iff_forall_ne_some.mpr fun place hplace => hnot ?_
      obtain ⟨j, other, hother, hsame, -⟩ := (positions_iff hplannedIds).mp hplace
      rw [← TrackId.ext hsame]
      exact List.mem_map_of_mem (hplanned.mem_iff.mp (List.mem_of_getElem? hother))

theorem selected_candidates (hpool : pool.Sublist diversified) (hplanned : planned.Perm pool)
    (hids : (diversified.map (·.track.id)).Nodup) :
    (((plannedCandidates diversified pool planned).filter (·.defaultSelected)).map fun candidate =>
      planningSeconds candidate.lengthS).Perm (pool.map planningDuration) := by
  have hlisted := listedItems_perm hpool hplanned hids
  unfold plannedCandidates
  rw [List.filter_map, List.map_map]
  have hkept := (hlisted.filter fun item => item.track.id ∈ pool.map (·.track.id)).map
    planningDuration
  rw [filter_ids_eq hpool hids] at hkept
  refine .trans (.of_eq ?_) hkept
  refine List.map_congr_left fun item _ => ?_
  have hpositive : 0 ≤ secondsOf item.track := by
    unfold secondsOf
    positivity
  simp only [Function.comp_apply, candidateOf, max_eq_left hpositive]
  rfl

end Candidates

/-! ## The suggestion -/

/-- The planning duration of the selected candidates. -/
def selectedSeconds (candidates : List PlaylistCandidate) : ℚ :=
  ((candidates.filter (·.defaultSelected)).map fun candidate =>
    planningSeconds candidate.lengthS).sum

/-- No single change of the selection comes strictly closer to the target. -/
structure NoBetterChange (target : ℚ) (candidates : List PlaylistCandidate) : Prop where
  addition : ∀ candidate ∈ candidates, candidate.defaultSelected = false →
    |selectedSeconds candidates - target| ≤
      |selectedSeconds candidates + planningSeconds candidate.lengthS - target|
  removal : ∀ candidate ∈ candidates, candidate.defaultSelected = true →
    (candidates.filter (·.defaultSelected)).length ≠ 1 →
      |selectedSeconds candidates - target| ≤
        |selectedSeconds candidates - planningSeconds candidate.lengthS - target|
  swap : ∀ removed ∈ candidates, removed.defaultSelected = true →
    ∀ added ∈ candidates, added.defaultSelected = false →
      |selectedSeconds candidates - target| ≤ |selectedSeconds candidates -
        planningSeconds removed.lengthS + planningSeconds added.lengthS - target|

structure WellFormed (source : List AssistantTrackEvidence) (request : PlaylistSuggestionRequest)
    (suggestion : PlaylistSuggestion) : Prop where
  eligibleCount : suggestion.eligibleTracks =
    (source.filter fun evidence => eligible request evidence.track).length
  count : suggestion.candidates.length = min request.candidateLimit suggestion.eligibleTracks
  distinct : (suggestion.candidates.map (·.trackId)).Nodup
  eligible : ∀ candidate ∈ suggestion.candidates, ∃ evidence ∈ source,
    eligible request evidence.track = true ∧ candidate.trackId = evidence.track.id ∧
      candidate.lengthS = secondsOf evidence.track
  positions : ∀ (i : ℕ) (candidate : PlaylistCandidate),
    suggestion.candidates[i]? = some candidate →
    candidate.defaultSelected = decide (i < suggestion.plan.selectedTracks) ∧
      candidate.sequencePosition =
        if i < suggestion.plan.selectedTracks then some (i + 1) else none
  selected : suggestion.plan.selectedTracks ≤ suggestion.candidates.length ∧
    (suggestion.candidates ≠ [] → 1 ≤ suggestion.plan.selectedTracks)
  duration : suggestion.plan.selectedDurationS = roundTo (selectedSeconds suggestion.candidates) 3
  closest : NoBetterChange (request.targetMinutes * 60) suggestion.candidates

section Suggestion

variable {rules : PromptRules} {request : PlaylistSuggestionRequest}
  {source source' : List AssistantTrackEvidence}

theorem rankedLe_iff {left right : RankedTrack} : rankedLe left right = true ↔
    right.score < left.score ∨
      (left.score = right.score ∧ left.track.id.get ≤ right.track.id.get) := by
  unfold rankedLe
  rw [Bool.or_eq_true, Bool.and_eq_true, decide_eq_true_iff, decide_eq_true_iff,
    decide_eq_true_iff]

theorem rankedLe_trans (a b c : RankedTrack) (hab : rankedLe a b = true)
    (hbc : rankedLe b c = true) : rankedLe a c = true := by
  rw [rankedLe_iff] at hab hbc ⊢
  rcases hab with hab | ⟨hab, hid⟩
  · rcases hbc with hbc | ⟨hbc, -⟩
    · exact .inl (hbc.trans hab)
    · exact .inl (hbc ▸ hab)
  · rcases hbc with hbc | ⟨hbc, hid'⟩
    · exact .inl (hab ▸ hbc)
    · exact .inr ⟨hab.trans hbc, hid.trans hid'⟩

theorem rankedLe_total (a b : RankedTrack) : (rankedLe a b || rankedLe b a) = true := by
  rw [Bool.or_eq_true, rankedLe_iff, rankedLe_iff]
  rcases lt_trichotomy a.score b.score with hless | hequal | hgreater
  · exact .inr (.inl hless)
  · rcases le_total a.track.id.get b.track.id.get with hid | hid
    · exact .inl (.inr ⟨hequal, hid⟩)
    · exact .inr (.inr ⟨hequal.symm, hid⟩)
  · exact .inl (.inl hgreater)

theorem id_eq_of_rankedLe {a b : RankedTrack} (hab : rankedLe a b = true)
    (hba : rankedLe b a = true) : a.track.id = b.track.id := by
  rw [rankedLe_iff] at hab hba
  apply TrackId.ext
  rcases hab with hab | ⟨hab, hid⟩
  · rcases hba with hba | ⟨hba, -⟩
    · exact absurd hab hba.asymm
    · exact absurd hab (hba ▸ lt_irrefl _)
  · rcases hba with hba | ⟨-, hid'⟩
    · exact absurd hba (hab ▸ lt_irrefl _)
    · exact le_antisymm hid hid'

theorem rankedTracks_ids : (rankedTracks rules request source).map (·.track.id) =
    (source.filter fun evidence => eligible request evidence.track).map (·.track.id) := by
  unfold rankedTracks
  rw [List.map_map]
  rfl

theorem rankedTracks_ids_nodup (hids : (source.map (·.track.id)).Nodup) :
    ((rankedTracks rules request source).map (·.track.id)).Nodup := by
  rw [rankedTracks_ids]
  exact hids.sublist (List.filter_sublist.map _)

theorem sortedRanking_perm (h : source'.Perm source) (hids : (source.map (·.track.id)).Nodup) :
    (rankedTracks rules request source').mergeSort rankedLe =
      (rankedTracks rules request source).mergeSort rankedLe := by
  have hranked : (rankedTracks rules request source').Perm (rankedTracks rules request source) :=
    (h.filter _).map _
  refine List.Perm.eq_of_pairwise ?_ (List.pairwise_mergeSort rankedLe_trans rankedLe_total _)
    (List.pairwise_mergeSort rankedLe_trans rankedLe_total _) ?_
  · intro a b ha hb hab hba
    have ha' := hranked.mem_iff.mp (List.mem_mergeSort.mp ha)
    exact List.inj_on_of_nodup_map (rankedTracks_ids_nodup hids) ha' (List.mem_mergeSort.mp hb)
      (id_eq_of_rankedLe hab hba)
  · exact ((List.mergeSort_perm _ _).trans hranked).trans (List.mergeSort_perm _ _).symm

theorem suggestLocalPlaylist_perm (h : source'.Perm source)
    (hids : (source.map (·.track.id)).Nodup) (fuel : ℕ) :
    suggestLocalPlaylist rules fuel source' request =
      suggestLocalPlaylist rules fuel source request := by
  unfold suggestLocalPlaylist
  rw [sortedRanking_perm h hids, h.length_eq]

theorem noBetterChange {diversified planned : List RankedTrack} {target : ℚ}
    {selection : Selection} (hids : (diversified.map (·.track.id)).Nodup)
    (hmem : selection ∈ selections (diversified.map planningDuration))
    (hbest : ∀ next ∈ poolMoves (diversified.map planningDuration) selection,
      poolError target selection ≤ poolError target next)
    (hplanned : planned.Perm (itemsAt diversified selection.1)) :
    NoBetterChange target
      (plannedCandidates diversified (itemsAt diversified selection.1) planned) := by
  obtain ⟨hbound, hseconds, -⟩ := mem_selections.mp hmem
  have hindexes : ∀ i ∈ selection.1, i < diversified.length := by
    simpa only [List.length_map] using hbound
  have hperm := selected_candidates itemsAt_sublist hplanned hids
  have htotal : selectedSeconds (plannedCandidates diversified (itemsAt diversified selection.1)
      planned) = selection.2 := by
    unfold selectedSeconds
    rw [hperm.sum_eq, sum_itemsAt hindexes, hseconds]
  -- a candidate is the track at some index, and it is selected where the index is
  have hcandidate : ∀ candidate ∈ plannedCandidates diversified
      (itemsAt diversified selection.1) planned, ∃ i < (diversified.map planningDuration).length,
        planningSeconds candidate.lengthS = (diversified.map planningDuration).getD i 0 ∧
          candidate.defaultSelected = decide (i ∈ selection.1) := by
    intro candidate hcandidate
    obtain ⟨item, hitem, rfl⟩ := List.mem_map.mp hcandidate
    have hlisted := (listedItems_perm itemsAt_sublist hplanned hids).mem_iff.mp hitem
    obtain ⟨i, hi⟩ := List.getElem?_of_mem hlisted
    obtain ⟨hlt, -⟩ := List.getElem?_eq_some_iff.mp hi
    refine ⟨i, by rwa [List.length_map], ?_, ?_⟩
    · rw [List.getD_eq_getElem?_getD, List.getElem?_map, hi]
      have hpositive : 0 ≤ secondsOf item.track := by
        unfold secondsOf
        positivity
      dsimp only [candidateOf]
      rw [max_eq_left hpositive]
      rfl
    · dsimp only [candidateOf]
      rw [decide_eq_decide]
      exact mem_ids_itemsAt hids hi
  constructor
  · intro candidate hcandidates hout
    obtain ⟨i, hlt, hvalue, hselected⟩ := hcandidate candidate hcandidates
    rw [hout, eq_comm, decide_eq_false_iff_not] at hselected
    rw [htotal, hvalue]
    have hmove := mem_singleMoves.mpr (.inr ⟨i, hlt, hselected, rfl⟩)
    have hworse := hbest _ (List.mem_append_left _ hmove)
    exact hworse
  · intro candidate hcandidates hin hmore
    obtain ⟨i, hlt, hvalue, hselected⟩ := hcandidate candidate hcandidates
    rw [hin, eq_comm, decide_eq_true_iff] at hselected
    have hcount := hperm.length_eq
    rw [List.length_map, List.length_map, length_itemsAt hindexes] at hcount
    rw [htotal, hvalue]
    have hmove := mem_singleMoves.mpr (.inl ⟨i, hlt, hselected, fun hone =>
      hmore (hcount.trans hone), rfl⟩)
    have hworse := hbest _ (List.mem_append_left _ hmove)
    exact hworse
  · intro removed hremoved hin added hadded hout
    obtain ⟨i, hlt, hvalue, hselected⟩ := hcandidate removed hremoved
    obtain ⟨j, hlt', hvalue', hselected'⟩ := hcandidate added hadded
    rw [hin, eq_comm, decide_eq_true_iff] at hselected
    rw [hout, eq_comm, decide_eq_false_iff_not] at hselected'
    rw [htotal, hvalue, hvalue']
    have hmove := mem_swapMoves.mpr ⟨i, hlt, hselected, j, hlt', hselected', rfl⟩
    have hworse := hbest _ (List.mem_append_right _ hmove)
    exact hworse

/-- What the selection from a list of candidates comes to. -/
structure Pool (diversified : List RankedTrack) (target : ℚ) (pool : List RankedTrack)
    (seconds : ℚ) : Prop where
  sublist : pool.Sublist diversified
  nonempty : diversified ≠ [] → pool ≠ []
  seconds : seconds = (pool.map planningDuration).sum
  closest : ∀ planned : List RankedTrack, planned.Perm pool →
    NoBetterChange target (plannedCandidates diversified pool planned)

theorem exists_pool {diversified : List RankedTrack} (hids : (diversified.map (·.track.id)).Nodup)
    (target : ℚ) : ∃ pool seconds, Pool diversified target pool seconds ∧
      ∃ enough, ∀ fuel, enough < fuel →
        defaultPool fuel diversified target = some (pool, seconds) := by
  by_cases hempty : diversified = []
  · subst hempty
    refine ⟨[], 0, ⟨.slnil, fun hne => absurd rfl hne, rfl, ?_⟩, 0, fun _ _ => rfl⟩
    intro planned hplanned
    obtain rfl := hplanned.eq_nil
    exact ⟨nofun, nofun, nofun⟩
  · obtain ⟨selection, hmem, hbest, hends⟩ := defaultPool_ends hempty target
    obtain ⟨hbound, hseconds, hne⟩ := mem_selections.mp hmem
    have hindexes : ∀ i ∈ selection.1, i < diversified.length := by
      simpa only [List.length_map] using hbound
    refine ⟨_, _, ⟨itemsAt_sublist, fun _ hnil => ?_, ?_, ?_⟩, hends⟩
    · have hcard := length_itemsAt hindexes
      rw [hnil, List.length_nil] at hcard
      exact hne.card_pos.ne hcard
    · rw [sum_itemsAt hindexes, hseconds]
    · exact fun planned hplanned => noBetterChange hids hmem hbest hplanned

/-- The planner ends, with a well-formed plan that no order of the source changes. -/
theorem suggestLocalPlaylist_wellFormed (rules : PromptRules) (request : PlaylistSuggestionRequest)
    (source : List AssistantTrackEvidence) (hids : (source.map (·.track.id)).Nodup)
    (hvalid : request.validate = .ok ()) :
    ∃ suggestion, WellFormed source request suggestion ∧
      ∃ enough, ∀ fuel, enough < fuel → ∀ source' : List AssistantTrackEvidence,
        source'.Perm source →
          suggestLocalPlaylist rules fuel source' request = some (.ok suggestion) := by
  obtain ⟨ranked, hranked⟩ : ∃ ranked, (rankedTracks rules request source).mergeSort rankedLe =
    ranked := ⟨_, rfl⟩
  obtain ⟨diversified, hdiversified⟩ : ∃ diversified,
    diversify rules ⟨∅, ∅, ∅⟩ request.candidateLimit ranked = diversified := ⟨_, rfl⟩
  have hsorted : ranked.Perm (rankedTracks rules request source) :=
    hranked ▸ List.mergeSort_perm _ _
  have hsub : diversified.Subperm (rankedTracks rules request source) :=
    (hdiversified ▸ diversify_subperm).trans hsorted.subperm
  have hdistinct : (diversified.map (·.track.id)).Nodup := by
    obtain ⟨kept, hperm, hkept⟩ := hsub
    have hnodup := (rankedTracks_ids_nodup hids).sublist (hkept.map (·.track.id))
    exact (hperm.map (·.track.id)).nodup_iff.mp hnodup
  obtain ⟨pool, seconds, hpool, enough, hends⟩ :=
    exists_pool hdistinct (request.targetMinutes * 60)
  have hplanned := @sequenceDefaultPool_perm pool request.energyCurve
  have hlisted := listedItems_perm hpool.sublist hplanned hdistinct
  have hcandidates : (plannedCandidates diversified pool
      (sequenceDefaultPool pool request.energyCurve)).length = diversified.length :=
    (List.length_map _).trans hlisted.length_eq
  refine ⟨⟨"local-planner/v3", source.length, ranked.length,
      interpretPrompt rules (Enrichment.trim request.prompt),
      ⟨request.energyCurve, pool.length, roundTo seconds 3⟩,
      plannedCandidates diversified pool (sequenceDefaultPool pool request.energyCurve)⟩,
    ?_, enough, fun fuel hfuel source' hsource => ?_⟩
  · constructor
    case eligibleCount => exact hsorted.length_eq.trans (List.length_map _)
    case count =>
      refine hcandidates.trans ?_
      rw [← hdiversified]
      exact length_diversify
    case distinct =>
      have hmap : (plannedCandidates diversified pool
          (sequenceDefaultPool pool request.energyCurve)).map (·.trackId) =
            (listedItems diversified pool
              (sequenceDefaultPool pool request.energyCurve)).map (·.track.id) :=
        List.map_map
      rw [hmap]
      exact (hlisted.map (·.track.id)).nodup_iff.mpr hdistinct
    case eligible =>
      intro candidate hcandidate
      obtain ⟨item, hitem, rfl⟩ := List.mem_map.mp hcandidate
      obtain ⟨evidence, hevidence, rfl⟩ :=
        List.mem_map.mp (hsub.subset (hlisted.mem_iff.mp hitem))
      obtain ⟨hmem, heligible⟩ := List.mem_filter.mp hevidence
      refine ⟨evidence, hmem, heligible, rfl, max_eq_left ?_⟩
      unfold secondsOf
      positivity
    case positions => exact fun i candidate => flags_of_listed hpool.sublist hplanned hdistinct
    case selected =>
      refine ⟨hcandidates ▸ hpool.sublist.length_le, fun hne => ?_⟩
      have hsome : diversified ≠ [] := fun hnil => hne (List.length_eq_zero_iff.mp
        (hcandidates.trans (List.length_eq_zero_iff.mpr hnil)))
      exact List.length_pos_of_ne_nil (hpool.nonempty hsome)
    case duration =>
      unfold selectedSeconds
      rw [(selected_candidates hpool.sublist hplanned hdistinct).sum_eq, hpool.seconds]
    case closest => exact hpool.closest _ hplanned
  · rw [suggestLocalPlaylist_perm hsource hids]
    unfold suggestLocalPlaylist
    rw [hvalid]
    dsimp only
    rw [hranked, hdiversified, hends fuel hfuel]
    rfl

end Suggestion

def plainPrompts : PromptRules := ⟨String.toLower, id, fun _ => false⟩

def quietRest : IndexedTrack where
  id := ⟨1, Int.one_pos⟩
  path := ⟨"quiet.mp3".toList, by decide⟩
  metadata := ⟨"Quiet Rest", "", "", "", "", "", "", none, none, none, "ambient", some 60⟩
  duration := 180 * 10 ^ 9
  displayTitle := "Quiet Rest"
  origin := ""
  sizeBytes := 1
  mtimeUnixSeconds := 1
  addedAtUnixSeconds := 1
  original := none

def finalBattle : IndexedTrack :=
  { quietRest with
    id := ⟨2, TrackId.two_pos⟩
    metadata := ⟨"Final Battle", "", "", "", "", "", "", none, none, none, "metal", some 160⟩
    displayTitle := "Final Battle" }

def calmRequest : PlaylistSuggestionRequest := ⟨"calm music", 5, 40, none, none, true, [], .steady⟩

theorem suggestLocalPlaylist_wellFormed_calm :
    ∃ suggestion, WellFormed [⟨quietRest, []⟩, ⟨finalBattle, []⟩] calmRequest suggestion ∧
      ∃ enough, ∀ fuel, enough < fuel → ∀ source' : List AssistantTrackEvidence,
        source'.Perm [⟨quietRest, []⟩, ⟨finalBattle, []⟩] →
          suggestLocalPlaylist plainPrompts fuel source' calmRequest = some (.ok suggestion) :=
  suggestLocalPlaylist_wellFormed plainPrompts calmRequest [⟨quietRest, []⟩, ⟨finalBattle, []⟩]
    (by decide) (by decide +kernel)

end MusicServer.Planner
