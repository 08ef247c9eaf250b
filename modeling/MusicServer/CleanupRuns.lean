/-
# What an analysis leaves of the plans

An analysis plans the tracks of each folder by themselves and then goes over the names.  Every
plan that comes out is the plan of one track, with its rename changed or dropped at most.

* `mem_analyzeCleanup`: where a plan of an analysis comes from;
* `groupByFolder_getElem?`: a folder has its tracks in the order of the list;
* `adjusted_resolvePlans`: what going over the names can change.
-/
import MusicServer.CleanupAnalysis
import MusicServer.IdentityEvidence

namespace MusicServer

namespace Cleanup

open Enrichment LibraryIndex

/-! ## Folders -/

/-- The tracks of the list that lie in the folder. -/
def tracksIn (tracks : List IndexedTrack) (folder : List Char) : List IndexedTrack :=
  tracks.filter fun track => parent track.path.encoded = folder

theorem groupByFolder_getElem? (tracks : List IndexedTrack) (folder : List Char) :
    (groupByFolder tracks)[folder]? =
      if tracksIn tracks folder = [] then none else some (tracksIn tracks folder) := by
  induction tracks using List.reverseRecOn with
  | nil => rfl
  | append_singleton tracks track ih =>
    unfold groupByFolder tracksIn at *
    rw [List.foldl_append, List.foldl_cons, List.foldl_nil, Std.ExtTreeMap.getElem?_insert,
      List.filter_append]
    simp only [Std.compare_eq_iff_eq]
    by_cases hfolder : parent track.path.encoded = folder
    · subst hfolder
      rw [if_pos rfl, ih]
      by_cases hnone : tracks.filter (fun other =>
          parent other.path.encoded = parent track.path.encoded) = []
      · simp [hnone]
      · simp [hnone]
    · rw [if_neg hfolder, ih]
      simp [hfolder]

theorem contextTracks_of_mem {all group : List IndexedTrack} {folder : List Char}
    (h : tracksIn all folder ≠ []) : contextTracks all folder group = tracksIn all folder := by
  unfold contextTracks
  rw [groupByFolder_getElem?, if_neg h]
  rfl

variable {tables : CleanupTables}

/-! ## Going over the names -/

theorem renameOf_eq {plan : CleanupTrackPlan} {index : ℕ} {stem : List Char}
    (h : renameOf plan = some (index, stem)) :
    ∃ rename, plan.operations[index]? = some rename ∧ rename.kind = .rename ∧
      rename.new = some (.text stem) := by
  unfold renameOf at h
  obtain ⟨found, hfound, hrest⟩ := Option.bind_eq_some_iff.mp h
  obtain ⟨rename, hrename, hnew⟩ := Option.bind_eq_some_iff.mp hrest
  have hkind : rename.kind = .rename := by
    obtain ⟨hlt, hkind, -⟩ := List.findIdx?_eq_some_iff_getElem.mp hfound
    rw [List.getElem?_eq_getElem hlt] at hrename
    rw [Option.some.inj hrename] at hkind
    exact of_decide_eq_true hkind
  split at hnew
  · next value hvalue =>
    obtain ⟨rfl, rfl⟩ := Prod.mk.inj (Option.some.inj hnew)
    exact ⟨rename, hrename, hkind, hvalue⟩
  · cases hnew

/-- What going over the names leaves of a plan. -/
structure Adjusted (original plan : CleanupTrackPlan) : Prop where
  trackId : plan.trackId = original.trackId
  path : plan.path = original.path
  operations : ∀ operation ∈ plan.operations, operation ∈ original.operations ∨
    ∃ rename ∈ original.operations, rename.kind = .rename ∧ operation.kind = .rename ∧
      operation.field = rename.field

theorem Adjusted.refl (plan : CleanupTrackPlan) : Adjusted plan plan :=
  ⟨rfl, rfl, fun _ hoperation => .inl hoperation⟩

theorem adjusted_withStem {plan : CleanupTrackPlan} {index : ℕ} {stem : List Char}
    (hrename : renameOf plan = some (index, stem)) (resolved : List Char) :
    Adjusted plan (withStem plan index stem resolved) := by
  unfold withStem
  split
  · exact .refl plan
  · refine ⟨rfl, rfl, fun operation hoperation => ?_⟩
    obtain ⟨rename, hget, hkind, -⟩ := renameOf_eq hrename
    obtain ⟨position, hposition⟩ := List.mem_iff_getElem?.mp hoperation
    rw [List.getElem?_modify] at hposition
    split at hposition
    · next hsame =>
      subst hsame
      rw [hget] at hposition
      obtain rfl := Option.some.inj hposition
      exact .inr ⟨rename, List.mem_of_getElem? hget, hkind, hkind, rfl⟩
    · exact .inl (List.mem_of_getElem? (by simpa using hposition))

variable {inUse : TrackId → List Char → Bool} {files : List IndexedTrack}
  {owners : BTreeMap (List Char) (List TrackId)} {proposed : BTreeMap (List Char) TrackId}

theorem adjusted_resolvePlan {original plan : CleanupTrackPlan}
    {proposed' : BTreeMap (List Char) TrackId}
    (h : resolvePlan tables inUse files owners proposed original = some (plan, proposed')) :
    Adjusted original plan := by
  unfold resolvePlan at h
  split at h
  · cases h
    exact .refl _
  · next index stem hrename =>
    obtain ⟨resolved, -, hresolved⟩ := Option.map_eq_some_iff.mp h
    cases resolved with
    | none =>
      cases hresolved
      exact ⟨rfl, rfl, fun operation hoperation => .inl (List.mem_of_mem_eraseIdx hoperation)⟩
    | some resolved =>
      cases hresolved
      exact adjusted_withStem hrename resolved

theorem adjusted_resolvePlans {plans resolved : List CleanupTrackPlan}
    (h : resolvePlans tables inUse files owners plans proposed = some resolved) :
    List.Forall₂ Adjusted plans resolved := by
  induction plans generalizing proposed resolved with
  | nil =>
    cases h
    exact .nil
  | cons plan rest ih =>
    unfold resolvePlans at h
    obtain ⟨⟨first, proposed'⟩, hfirst, hrest⟩ := Option.bind_eq_some_iff.mp h
    obtain ⟨others, hothers, rfl⟩ := Option.map_eq_some_iff.mp hrest
    exact .cons (adjusted_resolvePlan hfirst) (ih hothers)

/-! ## The plans of an analysis -/

variable {scope all : List IndexedTrack} {enabled : CleanupRuleSet}
  {verdicts : Option NameVerdicts}

theorem mapM_eq_some_iff {α β : Type} {f : α → Option β} {l : List α} {results : List β} :
    l.mapM f = some results ↔ List.Forall₂ (fun a b => f a = some b) l results := by
  induction l generalizing results with
  | nil =>
    rw [List.mapM_nil, List.forall₂_nil_left_iff]
    exact ⟨fun h => (Option.some.inj h).symm, fun h => congrArg some h.symm⟩
  | cons a rest ih =>
    rw [List.mapM_cons, List.forall₂_cons_left_iff]
    constructor
    · intro h
      obtain ⟨b, hb, hrest⟩ := Option.bind_eq_some_iff.mp h
      obtain ⟨bs, hbs, hresults⟩ := Option.bind_eq_some_iff.mp hrest
      exact ⟨b, bs, hb, ih.mp hbs, (Option.some.inj hresults).symm⟩
    · rintro ⟨b, bs, hb, hbs, rfl⟩
      exact Option.bind_eq_some_iff.mpr ⟨b, hb, Option.bind_eq_some_iff.mpr ⟨bs, ih.mpr hbs, rfl⟩⟩

theorem forall₂_mem_right {α β : Type} {r : α → β → Prop} {l : List α} {results : List β}
    (h : List.Forall₂ r l results) {b : β} (hb : b ∈ results) : ∃ a ∈ l, r a b := by
  induction h with
  | nil => exact absurd hb List.not_mem_nil
  | cons hab _ ih =>
    rcases List.mem_cons.mp hb with rfl | hmem
    · exact ⟨_, List.mem_cons_self, hab⟩
    · obtain ⟨a, ha, hr⟩ := ih hmem
      exact ⟨a, List.mem_cons_of_mem _ ha, hr⟩

theorem mem_groupByFolder {tracks group : List IndexedTrack} {folder : List Char} :
    (folder, group) ∈ (groupByFolder tracks).toList ↔
      tracksIn tracks folder ≠ [] ∧ group = tracksIn tracks folder := by
  rw [Std.ExtTreeMap.mem_toList_iff_getElem?_eq_some, groupByFolder_getElem?]
  split
  · next hnone => simp [hnone]
  · next hsome =>
    rw [Option.some.injEq]
    exact ⟨fun h => ⟨hsome, h.symm⟩, fun h => h.2.symm⟩

theorem mem_analyzeCleanup {plans : List CleanupTrackPlan} {plan : CleanupTrackPlan}
    (h : analyzeCleanup tables scope all enabled verdicts = some plans) (hplan : plan ∈ plans) :
    ∃ folder resolved, tracksIn scope folder ≠ [] ∧
      analyzeFolder tables enabled verdicts all folder (tracksIn scope folder) = some resolved ∧
      plan ∈ resolved := by
  unfold analyzeCleanup at h
  obtain ⟨folders, hfolders, rfl⟩ := Option.map_eq_some_iff.mp h
  obtain ⟨resolved, hresolved, hmem⟩ := List.mem_flatten.mp hplan
  obtain ⟨⟨folder, group⟩, hentry, hanalyzed⟩ :=
    forall₂_mem_right (mapM_eq_some_iff.mp hfolders) hresolved
  obtain ⟨hsome, rfl⟩ := mem_groupByFolder.mp hentry
  exact ⟨folder, resolved, hsome, hanalyzed, hmem⟩

theorem mem_analyzeFolder {folder : List Char} {group : List IndexedTrack}
    {resolved : List CleanupTrackPlan} {plan : CleanupTrackPlan}
    (h : analyzeFolder tables enabled verdicts all folder group = some resolved)
    (hplan : plan ∈ resolved) :
    ∃ track ∈ group, Adjusted (planTrack tables track
      (buildContext tables folder (contextTracks all folder group) verdicts) enabled) plan := by
  unfold analyzeFolder at h
  obtain ⟨plans, hplans, rfl⟩ := Option.map_eq_some_iff.mp h
  obtain ⟨hmem, -⟩ := List.mem_filter.mp hplan
  obtain ⟨original, horiginal, hadjusted⟩ := forall₂_mem_right (adjusted_resolvePlans hplans) hmem
  obtain ⟨track, htrack, rfl⟩ := List.mem_map.mp horiginal
  exact ⟨track, (List.mem_insertionSort _).mp htrack, hadjusted⟩

/-- The tables of plain letters, and an engine that finds nothing. -/
def plainTables : CleanupTables :=
  { plainRules with
    toUppercase := fun c => [c.toUpper]
    isAlphabetic := Char.isAlpha
    isUppercase := Char.isUpper
    isLowercase := Char.isLower
    capturesIter := fun _ _ => [] }

def untagged (id : TrackId) (path : LibraryPath) : IndexedTrack :=
  { finale with
    id := id
    path := path
    metadata := { finale.metadata with title := "", artist := "" } }

end Cleanup

end MusicServer
