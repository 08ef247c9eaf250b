/-
# The file names that a cleanup proposes

A rename that meets a name in use, or one proposed before in its folder, gives way to a name with
a tag of the track or with a number.  What is in use is looked up in a map with one file for each
folded name.  Of two files whose names fold alike the map shows one, and to the plan of that file
the name of the other looks free.  The main result, `collisionFree_iff`, says when the proposed
names differ and are free: exactly where no plan comes past such a name.

* `resolvePlan_spec`: what a plan is given, and how the names proposed so far grow;
* `resolvePlans_apart`: the names of a folder differ, whatever the look-up;
* `resolvePlans_free_iff`: they are free where no plan is deceived, over the whole folder;
* `hidden_variant`: two files whose names differ in case, one of which is given the other's name.
-/
import MusicServer.CleanupNumbers

namespace MusicServer

namespace Cleanup

open Enrichment LibraryIndex

/-- The complete look-up of a folded name: whether another of the files has it. -/
def otherFile (tables : CleanupTables) (files : List IndexedTrack) (id : TrackId)
    (key : List Char) : Bool :=
  files.any fun file => file.id ≠ id && caseKey tables (leaf file.path.encoded) = key

/-- The proposed names of a folder differ, and none is that of another file there. -/
structure CollisionFree (tables : CleanupTables) (all : List IndexedTrack)
    (plans : List CleanupTrackPlan) : Prop where
  apart : plans.Pairwise fun left right => parent left.path = parent right.path →
    ∀ name ∈ targetName left, ∀ other ∈ targetName right,
      caseKey tables name ≠ caseKey tables other
  free : ∀ plan ∈ plans, ∀ name ∈ targetName plan, ∀ file ∈ all,
    parent file.path.encoded = parent plan.path → file.id ≠ plan.trackId →
      caseKey tables name ≠ caseKey tables (leaf file.path.encoded)

instance (tables : CleanupTables) (all : List IndexedTrack) (plans : List CleanupTrackPlan) :
    Decidable (CollisionFree tables all plans) :=
  decidable_of_iff
    ((plans.Pairwise fun left right => parent left.path = parent right.path →
        ∀ name ∈ targetName left, ∀ other ∈ targetName right,
          caseKey tables name ≠ caseKey tables other) ∧
      ∀ plan ∈ plans, ∀ name ∈ targetName plan, ∀ file ∈ all,
        parent file.path.encoded = parent plan.path → file.id ≠ plan.trackId →
          caseKey tables name ≠ caseKey tables (leaf file.path.encoded))
    ⟨fun h => ⟨h.1, h.2⟩, fun h => ⟨h.apart, h.free⟩⟩

variable {tables : CleanupTables} {inUse : TrackId → List Char → Bool}
  {files : List IndexedTrack} {owners : BTreeMap (List Char) (List TrackId)}
  {proposed : BTreeMap (List Char) TrackId}

/-! ## The names that are tried -/

/-- The stems that can be given to a rename, in the order in which they are tried. -/
def stemsToTry (labelled : List (List Char)) (stem suffix : List Char) : List (List Char) :=
  stem :: if 208 < byteLength suffix then []
    else labelled ++ (List.range' 2 counterRoom).map (numberedStem stem suffix)

theorem countNames_eq (occupied : List Char → Bool) (stem suffix : List Char) (room counter : ℕ)
    (resolved : List Char) :
    countNames occupied stem suffix room counter resolved =
      (resolved :: (List.range' counter room).map (numberedStem stem suffix)).find?
        fun name => !occupied name := by
  induction room generalizing counter resolved with
  | zero =>
    rw [countNames]
    cases h : occupied resolved <;> simp [h]
  | succ room ih =>
    rw [countNames, List.range'_succ, List.map_cons, List.find?_cons]
    cases h : occupied resolved with
    | false => rfl
    | true => exact ih (counter + 1) _

/-- The first free stem is taken; with none free the rename is given up, if there is no room for
another name, and else the counter has run over. -/
theorem resolveStem_eq (occupied : List Char → Bool) (labelled : List (List Char))
    (stem suffix : List Char) :
    resolveStem occupied labelled stem suffix =
      match (stemsToTry labelled stem suffix).find? fun name => !occupied name with
      | some name => some (some name)
      | none => if 208 < byteLength suffix then some none else none := by
  unfold resolveStem stemsToTry
  rw [List.find?_cons]
  cases hstem : occupied stem with
  | false => rfl
  | true =>
    by_cases hroom : 208 < byteLength suffix
    · simp [hroom]
    · simp only [hroom, if_false, Bool.not_true, Bool.true_eq_false]
      rw [countNames_eq, List.find?_append]
      cases hlabelled : labelled.find? fun name => !occupied name with
      | none =>
        rw [Option.getD_none, Option.none_or, List.find?_cons_of_neg (by simp [hstem])]
        cases List.find? (fun name => !occupied name)
          ((List.range' 2 counterRoom).map (numberedStem stem suffix)) <;> rfl
      | some name =>
        rw [Option.getD_some, Option.some_or, List.find?_cons_of_pos (List.find?_some hlabelled)]
        rfl

/-! ## The look-ups -/

theorem existingNames_getElem? (key : List Char) :
    (existingNames tables files)[key]? = ((files.filter fun file =>
      caseKey tables (leaf file.path.encoded) = key).getLast?).map (·.id) := by
  induction files using List.reverseRecOn with
  | nil => rfl
  | append_singleton files file ih =>
    unfold existingNames at *
    rw [List.foldl_append, List.foldl_cons, List.foldl_nil, Std.ExtTreeMap.getElem?_insert,
      List.filter_append]
    simp only [Std.compare_eq_iff_eq]
    by_cases hkey : caseKey tables (leaf file.path.encoded) = key
    · rw [if_pos hkey, List.filter_cons_of_pos (by simpa using hkey), List.filter_nil,
        List.getLast?_concat]
      rfl
    · rw [if_neg hkey, ih, List.filter_cons_of_neg (by simpa using hkey), List.filter_nil,
        List.append_nil]

theorem otherFile_eq_true {id : TrackId} {key : List Char} :
    otherFile tables files id key = true ↔
      ∃ file ∈ files, file.id ≠ id ∧ caseKey tables (leaf file.path.encoded) = key := by
  unfold otherFile
  rw [List.any_eq_true]
  simp

theorem otherFile_of_mapped {id : TrackId} {key : List Char}
    (h : mappedToOther tables files id key = true) : otherFile tables files id key = true := by
  unfold mappedToOther at h
  rw [existingNames_getElem?, Option.any_map, Option.any_eq_true] at h
  obtain ⟨file, hlast, hother⟩ := h
  obtain ⟨hmem, hkey⟩ := List.mem_filter.mp (List.mem_of_getLast? hlast)
  exact otherFile_eq_true.mpr
    ⟨file, hmem, of_decide_eq_true hother, of_decide_eq_true hkey⟩

theorem own_of_unmapped {id : TrackId} {key : List Char}
    (h : otherFile tables files id key = true) :
    mappedToOther tables files id key = false ↔ (existingNames tables files)[key]? = some id := by
  unfold mappedToOther
  cases hget : (existingNames tables files)[key]? with
  | some owner => simp
  | none =>
    obtain ⟨file, hfile, -, hkey⟩ := otherFile_eq_true.mp h
    rw [existingNames_getElem?, Option.map_eq_none_iff, List.getLast?_eq_none_iff,
      List.filter_eq_nil_iff] at hget
    exact absurd (decide_eq_true hkey) (hget file hfile)

/-- Of the names that are not proposed yet, the map has the plan's own file under this one, though
another file has it too. -/
def Hidden (tables : CleanupTables) (files : List IndexedTrack)
    (proposed : BTreeMap (List Char) TrackId) (plan : CleanupTrackPlan) (stem : List Char) : Prop :=
  caseKey tables (stem ++ suffixOf plan) ∉ proposed ∧
    (existingNames tables files)[caseKey tables (stem ++ suffixOf plan)]? = some plan.trackId ∧
    otherFile tables files plan.trackId (caseKey tables (stem ++ suffixOf plan)) = true

variable {plan : CleanupTrackPlan} {stem : List Char}

theorem hidden_iff :
    Hidden tables files proposed plan stem ↔
      (!occupiedFor tables (mappedToOther tables files) proposed plan stem) = true ∧
        (!occupiedFor tables (otherFile tables files) proposed plan stem) = false := by
  unfold Hidden occupiedFor
  rw [Bool.not_eq_true', Bool.or_eq_false_iff, Bool.not_eq_false', Bool.or_eq_true,
    ← Bool.not_eq_true (proposed.contains _), Std.ExtTreeMap.contains_iff_mem]
  constructor
  · rintro ⟨hproposed, hown, hother⟩
    exact ⟨⟨(own_of_unmapped hother).mpr hown, hproposed⟩, .inl hother⟩
  · rintro ⟨⟨hunmapped, hproposed⟩, hother | hother⟩
    · exact ⟨hproposed, (own_of_unmapped hother).mp hunmapped, hother⟩
    · exact absurd hother hproposed

theorem lenient_of_strict (stem : List Char)
    (h : (!occupiedFor tables (otherFile tables files) proposed plan stem) = true) :
    (!occupiedFor tables (mappedToOther tables files) proposed plan stem) = true := by
  unfold occupiedFor at *
  rw [Bool.not_eq_true', Bool.or_eq_false_iff] at *
  refine ⟨Bool.eq_false_iff.mpr fun hmapped => ?_, h.2⟩
  rw [otherFile_of_mapped hmapped] at h
  exact absurd h.1 (by decide)

/-! ## One plan -/

/-- The stems that the rename of a plan can be given. -/
def triedStems (tables : CleanupTables) (files : List IndexedTrack)
    (owners : BTreeMap (List Char) (List TrackId)) (plan : CleanupTrackPlan) : List (List Char) :=
  match renameOf plan with
  | none => []
  | some (_, stem) => stemsToTry (labelledStems tables files owners plan stem) stem (suffixOf plan)

/-- A plan comes past a hidden name, and all names before it are in use or proposed. -/
def Deceived (tables : CleanupTables) (files : List IndexedTrack)
    (owners : BTreeMap (List Char) (List TrackId)) (proposed : BTreeMap (List Char) TrackId)
    (plan : CleanupTrackPlan) : Prop :=
  ∃ before stem after, triedStems tables files owners plan = before ++ stem :: after ∧
    (∀ earlier ∈ before,
      occupiedFor tables (otherFile tables files) proposed plan earlier = true) ∧
    Hidden tables files proposed plan stem

theorem deceived_iff :
    Deceived tables files owners proposed plan ↔
      FirstFree.Misled
        (fun stem => !occupiedFor tables (mappedToOther tables files) proposed plan stem)
        (fun stem => !occupiedFor tables (otherFile tables files) proposed plan stem)
        (triedStems tables files owners plan) := by
  unfold Deceived FirstFree.Misled
  simp only [hidden_iff, Bool.not_eq_false']

def OneRename (plan : CleanupTrackPlan) : Prop :=
  ∀ i j : ℕ, ∀ left right : CleanupSuggestion, plan.operations[i]? = some left →
    plan.operations[j]? = some right → left.kind = .rename → right.kind = .rename → i = j

theorem renameOf_withStem {index : ℕ} (h : renameOf plan = some (index, stem))
    (resolved : List Char) :
    renameOf (withStem plan index stem resolved) = some (index, resolved) := by
  unfold withStem
  split
  · next hsame => rw [h, hsame]
  · obtain ⟨rename, hget, hkind, -⟩ := renameOf_eq h
    unfold renameOf at h ⊢
    obtain ⟨found, hfound, hrest⟩ := Option.bind_eq_some_iff.mp h
    have hindex : found = index := by
      obtain ⟨operation, -, hnew⟩ := Option.bind_eq_some_iff.mp hrest
      split at hnew
      · exact (Prod.mk.inj (Option.some.inj hnew)).1
      · cases hnew
    subst hindex
    obtain ⟨hlt, hrename, hbefore⟩ := List.findIdx?_eq_some_iff_getElem.mp hfound
    have hagain : (plan.operations.modify found fun rename =>
        { rename with
          new := some (.text resolved)
          rules := rename.rules ++ ["resolve_name_collision"]
          confidence := .low }).findIdx? (fun operation => operation.kind = .rename)
          = some found := by
      rw [List.findIdx?_eq_some_iff_getElem]
      refine ⟨by rwa [List.length_modify], ?_, fun i hi => ?_⟩
      · rw [List.getElem_modify, if_pos rfl]
        exact hrename
      · rw [List.getElem_modify, if_neg (by omega)]
        exact hbefore i hi
    dsimp only
    rw [hagain]
    simp [hget]

theorem renameOf_eraseIdx (hone : OneRename plan) {index : ℕ}
    (h : renameOf plan = some (index, stem)) (notes : List String) :
    renameOf { plan with operations := plan.operations.eraseIdx index, notes := notes } = none := by
  obtain ⟨rename, hget, hkind, -⟩ := renameOf_eq h
  have hnone : (plan.operations.eraseIdx index).findIdx?
      (fun operation => operation.kind = .rename) = none := by
    rw [List.findIdx?_eq_none_iff]
    intro operation hoperation
    obtain ⟨position, hne, hposition⟩ := List.mem_eraseIdx_iff_getElem?.mp hoperation
    refine decide_eq_false fun hrename => hne ?_
    exact hone position index operation rename hposition hget hrename hkind
  unfold renameOf
  dsimp only
  rw [hnone]
  rfl

variable {proposed' : BTreeMap (List Char) TrackId}

theorem resolvePlan_spec {original plan : CleanupTrackPlan} (hone : OneRename original)
    (h : resolvePlan tables inUse files owners proposed original = some (plan, proposed')) :
    plan.trackId = original.trackId ∧ plan.path = original.path ∧
      match (triedStems tables files owners original).find? fun stem =>
          !occupiedFor tables inUse proposed original stem with
      | none => targetName plan = none ∧ proposed' = proposed
      | some stem => targetName plan = some (stem ++ suffixOf original) ∧
          proposed' = proposed.insert (caseKey tables (stem ++ suffixOf original))
            original.trackId := by
  have hadjusted := adjusted_resolvePlan h
  refine ⟨hadjusted.trackId, hadjusted.path, ?_⟩
  unfold resolvePlan at h
  unfold triedStems
  cases hrename : renameOf original with
  | none =>
    rw [hrename] at h
    cases h
    exact ⟨by rw [targetName, hrename]; rfl, rfl⟩
  | some rename =>
    obtain ⟨index, stem⟩ := rename
    rw [hrename] at h
    dsimp only at h ⊢
    rw [resolveStem_eq] at h
    cases hfind : (stemsToTry (labelledStems tables files owners original stem) stem
        (suffixOf original)).find? fun stem => !occupiedFor tables inUse proposed original stem with
    | none =>
      rw [hfind] at h
      dsimp only at h
      split at h
      · cases h
        refine ⟨?_, rfl⟩
        unfold targetName
        rw [renameOf_eraseIdx hone hrename]
        rfl
      · cases h
    | some resolved =>
      rw [hfind] at h
      cases h
      refine ⟨?_, rfl⟩
      unfold targetName
      rw [renameOf_withStem hrename, Option.map_some]
      unfold suffixOf
      rw [(adjusted_withStem hrename resolved).path]

theorem resolvePlan_eq_some (h : ((triedStems tables files owners plan).find? fun stem =>
      !occupiedFor tables inUse proposed plan stem) = some stem) :
    ∃ resolved, resolvePlan tables inUse files owners proposed plan = some resolved := by
  unfold triedStems at h
  unfold resolvePlan
  cases hrename : renameOf plan with
  | none => exact ⟨_, rfl⟩
  | some rename =>
    rw [hrename] at h
    dsimp only at h ⊢
    rw [resolveStem_eq, h]
    exact ⟨_, rfl⟩

theorem resolvePlan_congr {inUse' : TrackId → List Char → Bool}
    (h : ((triedStems tables files owners plan).find? fun stem =>
        !occupiedFor tables inUse proposed plan stem) =
      (triedStems tables files owners plan).find? fun stem =>
        !occupiedFor tables inUse' proposed plan stem) :
    resolvePlan tables inUse files owners proposed plan =
      resolvePlan tables inUse' files owners proposed plan := by
  unfold triedStems at h
  unfold resolvePlan
  cases hrename : renameOf plan with
  | none => rfl
  | some rename =>
    rw [hrename] at h
    dsimp only at h ⊢
    rw [resolveStem_eq, resolveStem_eq, h]

def FreeName (tables : CleanupTables) (files : List IndexedTrack) (plan : CleanupTrackPlan) : Prop :=
  ∀ name ∈ targetName plan, otherFile tables files plan.trackId (caseKey tables name) = false

theorem strict_iff
    (h : (!occupiedFor tables (mappedToOther tables files) proposed plan stem) = true) :
    (!occupiedFor tables (otherFile tables files) proposed plan stem) = true ↔
      otherFile tables files plan.trackId (caseKey tables (stem ++ suffixOf plan)) = false := by
  unfold occupiedFor at *
  rw [Bool.not_eq_true', Bool.or_eq_false_iff] at *
  exact ⟨And.left, fun hother => ⟨hother, h.2⟩⟩

theorem resolvePlan_free_iff {plan : CleanupTrackPlan} (hone : OneRename plan) :
    ¬ Deceived tables files owners proposed plan ↔
      ∀ resolved, resolvePlan tables (mappedToOther tables files) files owners proposed plan =
        some resolved → FreeName tables files resolved.1 := by
  rw [deceived_iff, FirstFree.not_misled_iff fun stem => lenient_of_strict stem]
  constructor
  · rintro h ⟨resolved, proposed'⟩ hresolved name hname
    obtain ⟨hid, -, hspec⟩ := resolvePlan_spec hone hresolved
    split at hspec
    · rw [hspec.1] at hname
      cases hname
    · next stem hfind =>
      rw [hspec.1] at hname
      obtain rfl := Option.mem_some.mp hname
      have hclear := List.find?_some hfind
      rw [hid]
      exact (strict_iff hclear).mp (h stem hfind)
  · intro h stem hfind
    obtain ⟨⟨resolved, proposed'⟩, hresolved⟩ := resolvePlan_eq_some hfind
    obtain ⟨hid, -, hspec⟩ := resolvePlan_spec hone hresolved
    rw [hfind] at hspec
    have hclear := List.find?_some hfind
    have hfree := h _ hresolved _ hspec.1
    rw [hid] at hfree
    exact (strict_iff hclear).mpr hfree

theorem resolvePlan_complete (h : ¬ Deceived tables files owners proposed plan) :
    resolvePlan tables (mappedToOther tables files) files owners proposed plan =
      resolvePlan tables (otherFile tables files) files owners proposed plan := by
  rw [deceived_iff] at h
  exact resolvePlan_congr (FirstFree.find?_eq (fun stem => lenient_of_strict stem) h)

theorem resolvePlan_proposed {original plan : CleanupTrackPlan} (hone : OneRename original)
    (h : resolvePlan tables inUse files owners proposed original = some (plan, proposed')) :
    (∀ name ∈ targetName plan, caseKey tables name ∉ proposed) ∧
      ∀ key, key ∈ proposed' ↔
        key ∈ proposed ∨ ∃ name ∈ targetName plan, caseKey tables name = key := by
  obtain ⟨-, -, hspec⟩ := resolvePlan_spec hone h
  split at hspec
  · rw [hspec.1, hspec.2]
    simp
  · next stem hfind =>
    rw [hspec.1, hspec.2]
    have hfree := List.find?_some hfind
    unfold occupiedFor at hfree
    rw [Bool.not_eq_true', Bool.or_eq_false_iff, ← Bool.not_eq_true (proposed.contains _),
      Std.ExtTreeMap.contains_iff_mem] at hfree
    constructor
    · intro name hname
      obtain rfl := Option.mem_some.mp hname
      exact hfree.2
    · intro key
      rw [Std.ExtTreeMap.mem_insert, Std.compare_eq_iff_eq, or_comm]
      simp

/-! ## The plans of a folder -/

/-- Whatever the look-up, the names of a folder differ from each other and from those proposed
before. -/
theorem resolvePlans_apart {plans resolved : List CleanupTrackPlan}
    (hone : ∀ plan ∈ plans, OneRename plan)
    (h : resolvePlans tables inUse files owners plans proposed = some resolved) :
    (∀ plan ∈ resolved, ∀ name ∈ targetName plan, caseKey tables name ∉ proposed) ∧
      resolved.Pairwise fun left right => ∀ name ∈ targetName left, ∀ other ∈ targetName right,
        caseKey tables name ≠ caseKey tables other := by
  induction plans generalizing proposed resolved with
  | nil =>
    cases h
    exact ⟨fun _ hplan => absurd hplan List.not_mem_nil, .nil⟩
  | cons plan rest ih =>
    unfold resolvePlans at h
    obtain ⟨⟨first, proposed'⟩, hfirst, hrest⟩ := Option.bind_eq_some_iff.mp h
    obtain ⟨others, hothers, rfl⟩ := Option.map_eq_some_iff.mp hrest
    obtain ⟨hnew, hgrown⟩ := resolvePlan_proposed (hone plan List.mem_cons_self) hfirst
    obtain ⟨hlater, hapart⟩ := ih (fun plan hplan => hone plan (List.mem_cons_of_mem _ hplan)) hothers
    refine ⟨fun plan hplan name hname => ?_, List.pairwise_cons.mpr ⟨?_, hapart⟩⟩
    · rcases List.mem_cons.mp hplan with rfl | hmem
      · exact hnew name hname
      · exact fun hin => hlater plan hmem name hname ((hgrown _).mpr (.inl hin))
    · intro later hmem name hname other hother hsame
      exact hlater later hmem other hother ((hgrown _).mpr (.inr ⟨name, hname, hsame⟩))

/-- With every name looked up completely, each plan is given a name or gives up its rename, and
none is deceived at its turn. -/
def Undeceived (tables : CleanupTables) (files : List IndexedTrack)
    (owners : BTreeMap (List Char) (List TrackId)) :
    List CleanupTrackPlan → BTreeMap (List Char) TrackId → Prop
  | [], _ => True
  | plan :: rest, proposed =>
    ¬ Deceived tables files owners proposed plan ∧
      ∃ resolved, resolvePlan tables (otherFile tables files) files owners proposed plan =
        some resolved ∧ Undeceived tables files owners rest resolved.2

variable {plans : List CleanupTrackPlan}

theorem resolvePlans_free_iff (hone : ∀ plan ∈ plans, OneRename plan) :
    (∃ resolved, resolvePlans tables (mappedToOther tables files) files owners plans proposed =
        some resolved ∧ ∀ plan ∈ resolved, FreeName tables files plan) ↔
      Undeceived tables files owners plans proposed := by
  induction plans generalizing proposed with
  | nil =>
    exact ⟨fun _ => trivial, fun _ => ⟨[], rfl, fun _ hplan => absurd hplan List.not_mem_nil⟩⟩
  | cons plan rest ih =>
    have hfirst := @resolvePlan_free_iff tables files owners proposed plan
      (hone plan List.mem_cons_self)
    unfold resolvePlans Undeceived
    constructor
    · rintro ⟨resolved, hresolved, hfree⟩
      obtain ⟨⟨first, proposed'⟩, hplan, hlater⟩ := Option.bind_eq_some_iff.mp hresolved
      obtain ⟨others, hothers, rfl⟩ := Option.map_eq_some_iff.mp hlater
      have hundeceived : ¬ Deceived tables files owners proposed plan := by
        refine hfirst.mpr fun other hother => ?_
        rw [hplan] at hother
        cases hother
        exact hfree first List.mem_cons_self
      refine ⟨hundeceived, (first, proposed'), resolvePlan_complete hundeceived ▸ hplan, ?_⟩
      exact (ih fun plan hplan => hone plan (List.mem_cons_of_mem _ hplan)).mp
        ⟨others, hothers, fun plan hplan => hfree plan (List.mem_cons_of_mem _ hplan)⟩
    · rintro ⟨hundeceived, ⟨first, proposed'⟩, hplan, hothers⟩
      rw [← resolvePlan_complete hundeceived] at hplan
      obtain ⟨others, hrun, hfree⟩ :=
        (ih fun plan hplan => hone plan (List.mem_cons_of_mem _ hplan)).mpr hothers
      refine ⟨first :: others, ?_, fun plan hmem => ?_⟩
      · rw [hplan, Option.bind_some, hrun]
        rfl
      · rcases List.mem_cons.mp hmem with rfl | hmem
        · exact hfirst.mp hundeceived _ hplan
        · exact hfree plan hmem

/-! ## Counting ends -/

theorem exists_resolved (hascii : KeepsAscii tables)
    (hshown : ∀ id key, inUse id key = true →
      key ∈ files.map fun file => caseKey tables (leaf file.path.encoded))
    (hfew : files.length + proposed.size < counterRoom) (plan : CleanupTrackPlan) :
    ∃ resolved, resolvePlan tables inUse files owners proposed plan = some resolved := by
  cases hfind : (triedStems tables files owners plan).find? fun stem =>
      !occupiedFor tables inUse proposed plan stem with
  | some stem => exact resolvePlan_eq_some hfind
  | none =>
    unfold triedStems at hfind
    unfold resolvePlan
    cases hrename : renameOf plan with
    | none => exact ⟨_, rfl⟩
    | some rename =>
      obtain ⟨index, stem⟩ := rename
      rw [hrename] at hfind
      dsimp only at hfind ⊢
      rw [resolveStem_eq, hfind]
      dsimp only
      by_cases hroom : 208 < byteLength (suffixOf plan)
      · rw [if_pos hroom]
        exact ⟨_, rfl⟩
      · -- there is room for a number, and not every number is in use
        exfalso
        have hlength : (files.map (fun file => caseKey tables (leaf file.path.encoded)) ++
            proposed.keys).length < counterRoom := by
          rwa [List.length_append, List.length_map, Std.ExtTreeMap.length_keys]
        obtain ⟨name, hname, hfree⟩ :=
          @exists_free_number tables hascii stem (suffixOf plan) (by omega) _ hlength
        rw [List.mem_append, not_or, Std.ExtTreeMap.mem_keys] at hfree
        have htried : name ∈ stemsToTry (labelledStems tables files owners plan stem) stem
            (suffixOf plan) := by
          unfold stemsToTry
          rw [if_neg hroom]
          exact List.mem_cons_of_mem _ (List.mem_append_right _ hname)
        have hoccupied := List.find?_eq_none.mp hfind name htried
        unfold occupiedFor at hoccupied
        rw [Bool.not_eq_true', Bool.not_eq_false, Bool.or_eq_true,
          Std.ExtTreeMap.contains_iff_mem] at hoccupied
        exact hoccupied.elim (fun hused => hfree.1 (hshown _ _ hused)) hfree.2

theorem size_resolvePlan {original plan : CleanupTrackPlan} (hone : OneRename original)
    (h : resolvePlan tables inUse files owners proposed original = some (plan, proposed')) :
    proposed'.size ≤ proposed.size + 1 := by
  obtain ⟨-, -, hspec⟩ := resolvePlan_spec hone h
  split at hspec
  · rw [hspec.2]
    omega
  · rw [hspec.2]
    exact Std.ExtTreeMap.size_insert_le

theorem resolvePlans_isSome (hascii : KeepsAscii tables)
    (hshown : ∀ id key, inUse id key = true →
      key ∈ files.map fun file => caseKey tables (leaf file.path.encoded))
    {plans : List CleanupTrackPlan} (hone : ∀ plan ∈ plans, OneRename plan)
    (hfew : files.length + proposed.size + plans.length ≤ counterRoom) :
    ∃ resolved, resolvePlans tables inUse files owners plans proposed = some resolved := by
  induction plans generalizing proposed with
  | nil => exact ⟨[], rfl⟩
  | cons plan rest ih =>
    rw [List.length_cons] at hfew
    obtain ⟨⟨first, proposed'⟩, hfirst⟩ :=
      @exists_resolved tables inUse files owners proposed hascii hshown (by omega) plan
    have hsize := size_resolvePlan (hone plan List.mem_cons_self) hfirst
    obtain ⟨others, hothers⟩ := @ih proposed'
      (fun plan hplan => hone plan (List.mem_cons_of_mem _ hplan)) (by omega)
    refine ⟨first :: others, ?_⟩
    unfold resolvePlans
    rw [hfirst, Option.bind_some, hothers]
    rfl

/-! ## The plans of a catalog -/

variable {scope all : List IndexedTrack} {enabled : CleanupRuleSet}
  {verdicts : Option NameVerdicts}

theorem oneRename_of_append {tags renames : List CleanupSuggestion}
    (h : plan.operations = tags ++ renames) (htags : ∀ tag ∈ tags, tag.kind = .tag)
    (hrenames : renames.length ≤ 1) : OneRename plan := by
  have hindex : ∀ (i : ℕ) (operation : CleanupSuggestion), plan.operations[i]? = some operation →
      operation.kind = .rename → i = tags.length := by
    intro i operation hget hkind
    obtain ⟨hlt, -⟩ := List.getElem?_eq_some_iff.mp hget
    rw [h, List.length_append] at hlt
    rw [h] at hget
    by_cases hi : i < tags.length
    · rw [List.getElem?_append_left hi] at hget
      have htag := htags operation (List.mem_of_getElem? hget)
      rw [htag] at hkind
      cases hkind
    · omega
  intro i j left right hleft hright hleftKind hrightKind
  rw [hindex i left hleft hleftKind, hindex j right hright hrightKind]

theorem oneRename_planTrack (track : IndexedTrack) (context : FolderContext)
    (enabled : CleanupRuleSet) : OneRename (planTrack tables track context enabled) := by
  refine oneRename_of_append rfl (fun operation h => ?_) ?_
  · rcases List.mem_append.mp h with h | h
    · rcases List.mem_append.mp h with h | h
      · rcases List.mem_append.mp h with h | h
        · unfold titleOperations at h
          dsimp only at h
          split at h
          · generalize transformStem tables (titleOf track) track context _ = state at h
            split at h
            · rw [List.mem_singleton.mp h]
              rfl
            · exact absurd h List.not_mem_nil
          · exact absurd h List.not_mem_nil
        · unfold creditOperations at h
          rcases List.mem_append.mp h with h | h
          · obtain ⟨value, -, rfl⟩ := Option.map_eq_some_iff.mp (Option.mem_toList.mp h)
            rfl
          · obtain ⟨value, -, rfl⟩ := Option.map_eq_some_iff.mp (Option.mem_toList.mp h)
            rfl
      · unfold numberOperations at h
        dsimp only at h
        split at h
        · rcases List.mem_append.mp h with h | h
          · split at h
            · obtain ⟨number, -, rfl⟩ := Option.map_eq_some_iff.mp (Option.mem_toList.mp h)
              rfl
            · exact absurd h List.not_mem_nil
          · split at h
            · obtain ⟨disc, -, rfl⟩ := Option.map_eq_some_iff.mp (Option.mem_toList.mp h)
              rfl
            · exact absurd h List.not_mem_nil
        · exact absurd h List.not_mem_nil
    · unfold yearOperations at h
      split at h
      · obtain ⟨year, -, rfl⟩ := Option.map_eq_some_iff.mp (Option.mem_toList.mp h)
        rfl
      · exact absurd h List.not_mem_nil
  · unfold renameOperations
    dsimp only
    split
    · exact Nat.le_refl 1
    · exact Nat.zero_le 1

variable {folder : List Char}

theorem oneRename_folderPlans {group : List IndexedTrack} :
    ∀ plan ∈ folderPlans tables enabled verdicts all folder group, OneRename plan := by
  intro plan hplan
  unfold folderPlans at hplan
  obtain ⟨track, -, rfl⟩ := List.mem_map.mp hplan
  exact oneRename_planTrack track _ enabled

/-- The plans of a folder of the scope go over it undeceived. -/
def UndeceivedFolder (tables : CleanupTables) (scope all : List IndexedTrack)
    (enabled : CleanupRuleSet) (verdicts : Option NameVerdicts) (folder : List Char) : Prop :=
  Undeceived tables (tracksIn all folder)
    (targetOwners tables
      (folderPlans tables enabled verdicts all folder (tracksIn scope folder)))
    (folderPlans tables enabled verdicts all folder (tracksIn scope folder)) ∅

theorem tracksIn_ne_nil (hscope : ∀ track ∈ scope, track ∈ all) (h : tracksIn scope folder ≠ []) :
    tracksIn all folder ≠ [] := by
  obtain ⟨track, htrack⟩ := List.exists_mem_of_ne_nil _ h
  obtain ⟨hmem, hfolder⟩ := List.mem_filter.mp htrack
  exact List.ne_nil_of_mem (List.mem_filter.mpr ⟨hscope track hmem, hfolder⟩)

theorem analyzeFolder_eq_some (hscope : ∀ track ∈ scope, track ∈ all)
    (hfolder : tracksIn scope folder ≠ []) :
    analyzeFolder tables enabled verdicts all folder (tracksIn scope folder) = some plans ↔
      ∃ resolved, resolvePlans tables (mappedToOther tables (tracksIn all folder))
          (tracksIn all folder) (targetOwners tables
            (folderPlans tables enabled verdicts all folder (tracksIn scope folder)))
          (folderPlans tables enabled verdicts all folder (tracksIn scope folder)) ∅ =
            some resolved ∧ plans = resolved.filter fun plan => !plan.isIdle := by
  unfold analyzeFolder
  dsimp only
  rw [contextTracks_of_mem (tracksIn_ne_nil hscope hfolder), Option.map_eq_some_iff]
  simp only [eq_comm]

theorem freeName_of_idle (h : plan.isIdle = true) :
    FreeName tables files plan := by
  unfold CleanupTrackPlan.isIdle at h
  rw [Bool.and_eq_true, Bool.and_eq_true] at h
  intro name hname
  have hnone : targetName plan = none := by
    unfold targetName renameOf
    rw [List.isEmpty_iff.mp h.1.1]
    rfl
  rw [hnone] at hname
  cases hname

theorem analyzeFolder_free_iff (hscope : ∀ track ∈ scope, track ∈ all)
    (hfolder : tracksIn scope folder ≠ []) :
    (∃ plans, analyzeFolder tables enabled verdicts all folder (tracksIn scope folder) =
        some plans ∧ ∀ plan ∈ plans, FreeName tables (tracksIn all folder) plan) ↔
      UndeceivedFolder tables scope all enabled verdicts folder := by
  unfold UndeceivedFolder
  rw [← resolvePlans_free_iff oneRename_folderPlans]
  constructor
  · rintro ⟨plans, hplans, hfree⟩
    obtain ⟨resolved, hresolved, rfl⟩ := (analyzeFolder_eq_some hscope hfolder).mp hplans
    refine ⟨resolved, hresolved, fun plan hplan => ?_⟩
    by_cases hidle : plan.isIdle = true
    · exact freeName_of_idle hidle
    · exact hfree plan (List.mem_filter.mpr ⟨hplan, by simpa using hidle⟩)
  · rintro ⟨resolved, hresolved, hfree⟩
    exact ⟨_, (analyzeFolder_eq_some hscope hfolder).mpr ⟨resolved, hresolved, rfl⟩,
      fun plan hplan => hfree plan (List.mem_filter.mp hplan).1⟩

theorem analyzeFolder_apart (hscope : ∀ track ∈ scope, track ∈ all)
    (hfolder : tracksIn scope folder ≠ [])
    (h : analyzeFolder tables enabled verdicts all folder (tracksIn scope folder) = some plans) :
    (∀ plan ∈ plans, parent plan.path = folder) ∧
      plans.Pairwise fun left right => ∀ name ∈ targetName left, ∀ other ∈ targetName right,
        caseKey tables name ≠ caseKey tables other := by
  constructor
  · intro plan hplan
    obtain ⟨track, htrack, hadjusted⟩ := mem_analyzeFolder h hplan
    rw [hadjusted.path]
    exact of_decide_eq_true (List.mem_filter.mp htrack).2
  · obtain ⟨resolved, hresolved, rfl⟩ := (analyzeFolder_eq_some hscope hfolder).mp h
    exact (resolvePlans_apart oneRename_folderPlans hresolved).2.sublist List.filter_sublist

theorem analyzeCleanup_eq_some :
    analyzeCleanup tables scope all enabled verdicts = some plans ↔
      ∃ folders, List.Forall₂ (fun entry found =>
          analyzeFolder tables enabled verdicts all entry.1 entry.2 = some found)
        (groupByFolder scope).toList folders ∧ plans = folders.flatten := by
  unfold analyzeCleanup
  rw [Option.map_eq_some_iff]
  simp only [mapM_eq_some_iff]
  exact exists_congr fun _ => and_congr_right' eq_comm

theorem forall₂_mem_left {α β : Type} {r : α → β → Prop} {l : List α} {results : List β}
    (h : List.Forall₂ r l results) {a : α} (ha : a ∈ l) : ∃ b ∈ results, r a b :=
  forall₂_mem_right h.flip ha

theorem exists_forall₂ {α β : Type} {r : α → β → Prop} {l : List α}
    (h : ∀ a ∈ l, ∃ b, r a b) : ∃ results, List.Forall₂ r l results := by
  induction l with
  | nil => exact ⟨[], .nil⟩
  | cons a rest ih =>
    obtain ⟨b, hb⟩ := h a List.mem_cons_self
    obtain ⟨bs, hbs⟩ := ih fun a ha => h a (List.mem_cons_of_mem _ ha)
    exact ⟨b :: bs, .cons hb hbs⟩

theorem pairwise_of_forall₂ {α β : Type} {r : α → β → Prop} {s : α → α → Prop} {t : β → β → Prop}
    (hst : ∀ {a a' b b'}, r a b → r a' b' → s a a' → t b b') {l : List α} {results : List β}
    (h : List.Forall₂ r l results) (hl : l.Pairwise s) : results.Pairwise t := by
  induction h with
  | nil => exact .nil
  | cons hab hrest ih =>
    obtain ⟨hhead, htail⟩ := List.pairwise_cons.mp hl
    refine List.pairwise_cons.mpr ⟨fun b' hb' => ?_, ih htail⟩
    obtain ⟨a', ha', hab'⟩ := forall₂_mem_right hrest hb'
    exact hst hab hab' (hhead a' ha')

theorem analyzeCleanup_apart (hscope : ∀ track ∈ scope, track ∈ all)
    (h : analyzeCleanup tables scope all enabled verdicts = some plans) :
    plans.Pairwise fun left right => parent left.path = parent right.path →
      ∀ name ∈ targetName left, ∀ other ∈ targetName right,
        caseKey tables name ≠ caseKey tables other := by
  obtain ⟨folders, hfolders, rfl⟩ := analyzeCleanup_eq_some.mp h
  have hentry : ∀ {entry : List Char × List IndexedTrack}, entry ∈ (groupByFolder scope).toList →
      tracksIn scope entry.1 ≠ [] ∧ entry.2 = tracksIn scope entry.1 := fun hmem =>
    mem_groupByFolder.mp hmem
  have hkeys : (groupByFolder scope).toList.Pairwise fun left right => left.1 ≠ right.1 :=
    Std.ExtTreeMap.distinct_keys_toList.imp fun hne heq => hne (by rw [heq, Std.compare_self])
  rw [List.pairwise_flatten]
  constructor
  · intro found hfound
    obtain ⟨⟨folder, group⟩, hmem, hanalyzed⟩ := forall₂_mem_right hfolders hfound
    obtain ⟨hne, rfl⟩ := mem_groupByFolder.mp hmem
    refine (analyzeFolder_apart hscope hne hanalyzed).2.imp ?_
    intro left right hapart _
    exact hapart
  · have hpaths : List.Forall₂ (fun (entry : List Char × List IndexedTrack)
        (found : List CleanupTrackPlan) => ∀ plan ∈ found, parent plan.path = entry.1)
        (groupByFolder scope).toList folders := by
      refine List.forall₂_iff_zip.mpr ⟨hfolders.length_eq, fun {entry found} hpair => ?_⟩
      have hanalyzed := (List.forall₂_iff_zip.mp hfolders).2 hpair
      obtain ⟨hne, hgroup⟩ := hentry (List.of_mem_zip hpair).1
      rw [hgroup] at hanalyzed
      exact (analyzeFolder_apart hscope hne hanalyzed).1
    refine pairwise_of_forall₂ (fun hleft hright hne => ?_) hpaths hkeys
    intro left hl right hr hsame
    rw [hleft left hl, hright right hr] at hsame
    exact absurd hsame hne

/-- The counting ends, and the names that are proposed differ and are free exactly where the
plans of each folder are gone over undeceived. -/
theorem collisionFree_iff (hascii : KeepsAscii tables) (hscope : ∀ track ∈ scope, track ∈ all) :
    (all.length + scope.length ≤ counterRoom →
        (analyzeCleanup tables scope all enabled verdicts).isSome = true) ∧
      ((∃ plans, analyzeCleanup tables scope all enabled verdicts = some plans ∧
          CollisionFree tables all plans) ↔
        ∀ folder, tracksIn scope folder ≠ [] →
          UndeceivedFolder tables scope all enabled verdicts folder) := by
  refine ⟨fun hfew => ?_, ?_, ?_⟩
  · have hruns : ∀ entry ∈ (groupByFolder scope).toList, ∃ found,
        analyzeFolder tables enabled verdicts all entry.1 entry.2 = some found := by
      rintro ⟨folder, group⟩ hmem
      obtain ⟨hne, rfl⟩ := mem_groupByFolder.mp hmem
      have hfiles : (tracksIn all folder).length ≤ all.length := List.length_filter_le _ _
      have hgroup : (tracksIn scope folder).length ≤ scope.length := List.length_filter_le _ _
      have hplans : (folderPlans tables enabled verdicts all folder
          (tracksIn scope folder)).length = (tracksIn scope folder).length := by
        unfold folderPlans
        rw [List.length_map, List.length_insertionSort]
      obtain ⟨resolved, hresolved⟩ := @resolvePlans_isSome tables
        (mappedToOther tables (tracksIn all folder)) (tracksIn all folder)
        (targetOwners tables
          (folderPlans tables enabled verdicts all folder (tracksIn scope folder))) ∅ hascii
        (fun id key hmapped => by
          obtain ⟨file, hfile, -, hkey⟩ := otherFile_eq_true.mp (otherFile_of_mapped hmapped)
          exact List.mem_map.mpr ⟨file, hfile, hkey⟩)
        _ oneRename_folderPlans (by
          rw [hplans, Std.ExtTreeMap.size_empty]
          omega)
      exact ⟨_, (analyzeFolder_eq_some hscope hne).mpr ⟨resolved, hresolved, rfl⟩⟩
    obtain ⟨folders, hfolders⟩ := exists_forall₂ hruns
    rw [analyzeCleanup_eq_some.mpr ⟨folders, hfolders, rfl⟩]
    rfl
  · rintro ⟨plans, hplans, hfree⟩ folder hne
    obtain ⟨folders, hfolders, rfl⟩ := analyzeCleanup_eq_some.mp hplans
    obtain ⟨found, hfound, hanalyzed⟩ :=
      forall₂_mem_left hfolders (mem_groupByFolder.mpr ⟨hne, rfl⟩)
    refine (analyzeFolder_free_iff hscope hne).mp ⟨found, hanalyzed, fun plan hplan name hname => ?_⟩
    have hpath := (analyzeFolder_apart hscope hne hanalyzed).1 plan hplan
    refine Bool.eq_false_iff.mpr fun hother => ?_
    obtain ⟨file, hfile, hid, hkey⟩ := otherFile_eq_true.mp hother
    obtain ⟨hmem, hparent⟩ := List.mem_filter.mp hfile
    exact hfree.free plan (List.mem_flatten.mpr ⟨found, hfound, hplan⟩) name hname file hmem
      (hpath ▸ of_decide_eq_true hparent) hid hkey.symm
  · intro hundeceived
    have hruns : ∀ entry ∈ (groupByFolder scope).toList, ∃ found,
        analyzeFolder tables enabled verdicts all entry.1 entry.2 = some found := by
      rintro ⟨folder, group⟩ hmem
      obtain ⟨hne, rfl⟩ := mem_groupByFolder.mp hmem
      obtain ⟨found, hfound, -⟩ := (analyzeFolder_free_iff hscope hne).mpr (hundeceived folder hne)
      exact ⟨found, hfound⟩
    obtain ⟨folders, hfolders⟩ := exists_forall₂ hruns
    have hplans := analyzeCleanup_eq_some.mpr ⟨folders, hfolders, rfl⟩
    refine ⟨_, hplans, analyzeCleanup_apart hscope hplans, ?_⟩
    intro plan hplan name hname file hfile hparent hid hkey
    obtain ⟨found, hfound, hmem⟩ := List.mem_flatten.mp hplan
    obtain ⟨⟨folder, group⟩, hentry, hanalyzed⟩ := forall₂_mem_right hfolders hfound
    obtain ⟨hne, rfl⟩ := mem_groupByFolder.mp hentry
    obtain ⟨found', hfound', hfree⟩ :=
      (analyzeFolder_free_iff hscope hne).mpr (hundeceived folder hne)
    have hsame : found' = found := Option.some.inj (hfound'.symm.trans hanalyzed)
    have hpath := (analyzeFolder_apart hscope hne hanalyzed).1 plan hmem
    have hunused := hfree plan (hsame ▸ hmem) name hname
    have hused : otherFile tables (tracksIn all folder) plan.trackId (caseKey tables name) = true :=
      otherFile_eq_true.mpr ⟨file, List.mem_filter.mpr
        ⟨hfile, decide_eq_true (hparent.trans hpath)⟩, hid, hkey.symm⟩
    rw [hunused] at hused
    cases hused

theorem keepsAscii_plainTables : KeepsAscii plainTables := by
  intro c _ hupper
  change [c.toLower] = [c]
  unfold Char.isUpper at hupper
  unfold Char.toLower
  grind

/-- Two files, of which the first is to change into the name of the second. -/
def shoutedFiles : List IndexedTrack :=
  [untagged ⟨1, Int.one_pos⟩ ⟨"Misc/FOO.mp3".toList, by decide⟩,
    untagged ⟨2, TrackId.two_pos⟩ ⟨"Misc/Foo.mp3".toList, by decide⟩]

/-- It is given a number instead. -/
theorem collisionFree_iff_shouted :
    UndeceivedFolder plainTables shoutedFiles shoutedFiles (.ofList [.normalizeCase]) none
        "Misc".toList ∧
      (analyzeCleanup plainTables shoutedFiles shoutedFiles (.ofList [.normalizeCase])
        none).isSome = true := by
  have hrun : ((analyzeCleanup plainTables shoutedFiles shoutedFiles (.ofList [.normalizeCase])
      none).any fun plans => CollisionFree plainTables shoutedFiles plans) = true := by
    decide +kernel
  obtain ⟨plans, hplans, hfree⟩ := Option.any_eq_true _ _ |>.mp hrun
  have hiff := @collisionFree_iff plainTables shoutedFiles shoutedFiles (.ofList [.normalizeCase])
    none keepsAscii_plainTables fun _ => id
  exact ⟨hiff.2.mp ⟨plans, hplans, of_decide_eq_true hfree⟩ _ (by decide), hiff.1 (by decide)⟩

def variantFiles : List IndexedTrack :=
  [untagged ⟨1, Int.one_pos⟩ ⟨"Misc/Foo.mp3".toList, by decide⟩,
    untagged ⟨2, TrackId.two_pos⟩ ⟨"Misc/foo.mp3".toList, by decide⟩]

/-- The map shows the second only, which is given the name of the first. -/
theorem hidden_variant :
    ¬ ∃ plans, analyzeCleanup plainTables variantFiles variantFiles (.ofList [.normalizeCase])
        none = some plans ∧ CollisionFree plainTables variantFiles plans := by
  rintro ⟨plans, hplans, hfree⟩
  have hrun : ((analyzeCleanup plainTables variantFiles variantFiles (.ofList [.normalizeCase])
      none).any fun plans => CollisionFree plainTables variantFiles plans) = false := by
    decide +kernel
  rw [hplans, Option.any_some, decide_eq_true hfree] at hrun
  cases hrun

end Cleanup

end MusicServer
