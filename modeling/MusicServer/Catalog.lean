/-
# The catalog the playback owner holds

The catalog types of `playback/actor.rs`, the index built from the library's tracks,
the reference checks a command has to pass, and `prune_for_catalog`, which takes out of
the live state what a new catalog no longer has.
-/
import MusicServer.Reduce

namespace MusicServer

/-! ## Catalogs -/

structure CatalogGeneration where
  library : ℕ
  modes : ℕ
  deriving DecidableEq

structure CatalogMode where
  soundboardItems : BTreeMap String (BTreeSet String)
  cueIds : BTreeSet String
  presetIds : BTreeSet String
  multipleOutputs : Bool
  deriving DecidableEq

structure CatalogTrack where
  durationMs : Option ℕ
  followNextId : Option TrackId
  deriving DecidableEq

/-- A catalog.  `none` means not loaded yet; a loaded empty catalog prunes every
reference. -/
structure CatalogSnapshot where
  generation : CatalogGeneration
  tracks : Option (BTreeMap TrackId CatalogTrack)
  modes : Option (BTreeMap String CatalogMode)
  deriving DecidableEq

def CatalogSnapshot.default : CatalogSnapshot := ⟨⟨0, 0⟩, none, none⟩

/-- A track as the library hands it over; its duration is in nanoseconds. -/
structure LibraryCatalogTrack where
  id : TrackId
  path : String
  duration : ℕ
  deriving DecidableEq

/-- `as_millis` of a duration, at most `u64::MAX`. -/
def durationMs (nanoseconds : ℕ) : ℕ := min (nanoseconds / 1000000) u64Max

/-- The order of the library: by path, then by id. -/
def LibraryCatalogTrack.le (left right : LibraryCatalogTrack) : Bool :=
  ((compare left.path right.path).then (compare left.id right.id)).isLE

/-- The index of the library's tracks.  Each track is followed by the next one in path
order, and the last one by the first. -/
def playbackCatalogTracks (tracks : List LibraryCatalogTrack) : BTreeMap TrackId CatalogTrack :=
  let tracks := tracks.mergeSort LibraryCatalogTrack.le
  let orderedIds := tracks.map (·.id)
  let entry := fun (track : LibraryCatalogTrack) (index : ℕ) => ({
    durationMs := if track.duration = 0 then none else some (durationMs track.duration)
    followNextId := orderedIds[index + 1]?.or orderedIds.head? } : CatalogTrack)
  tracks.zipIdx.foldl (fun known track => known.insert track.1.id (entry track.1 track.2)) ∅

/-! ## The references of a command -/

def commandRequiresCatalog : PlaybackCommand → Bool
  | .setActiveMode _ => true
  | .setActiveSoundboard _ => true
  | .setActivePresets _ _ => true
  | .presetsChanged _ _ => true
  | .ambientPlayTrack _ => true
  | .ambientSetQueue _ => true
  | .ambientEnqueue _ _ => true
  | .ambientPlaySequence _ _ _ => true
  | .fireInterruptSequence _ _ => true
  | .fireCue _ => true
  | .fireSfx _ _ _ => true
  | .startLoop _ => true
  | .ambientSkipNext (some _) _ => true
  | _ => false

/-- The mode that is active in a state, where the catalog has it. -/
def activeMode (state : PlaybackState) (modes : BTreeMap String CatalogMode) :
    Option CatalogMode :=
  state.activeModeId.bind fun modeId => modes[modeId]?

def CatalogSnapshot.tracksValid (catalog : CatalogSnapshot) (trackIds : List TrackId) : Bool :=
  trackIds.isEmpty || catalog.tracks.any fun known => trackIds.all known.contains

def CatalogMode.itemValid (mode : CatalogMode) (soundboardId itemPath : String) : Bool :=
  mode.soundboardItems[soundboardId]?.any (·.contains itemPath)

def CatalogMode.presetsValid (mode : Option CatalogMode) (presetIds : List String) : Bool :=
  presetIds.isEmpty || mode.any fun mode => presetIds.all mode.presetIds.contains

def cueReferencesValid (catalog : CatalogSnapshot) (mode : CatalogMode) (cue : CuePlayback) :
    Bool :=
  mode.cueIds.contains cue.cueId &&
    cue.preset.all (fun preset => mode.presetIds.contains preset.presetId) &&
    cue.playlist.all (fun playlist =>
      !playlist.trackIds.isEmpty && catalog.tracksValid playlist.trackIds) &&
    cue.loops.all (fun loopingSfx =>
      mode.itemValid loopingSfx.soundboardId loopingSfx.itemPath) &&
    cue.sfx.all (fun sfx => mode.itemValid sfx.soundboardId sfx.itemPath)

def catalogReferencesValid (command : PlaybackCommand) (catalog : CatalogSnapshot)
    (state : PlaybackState) : Bool :=
  let mode := catalog.modes.bind (activeMode state)
  match command with
  | .setActiveMode none => true
  | .setActiveSoundboard none => true
  | .setActiveMode (some modeId) => catalog.modes.any (·.contains modeId)
  | .setActiveSoundboard (some soundboardId) =>
    mode.any (·.soundboardItems.contains soundboardId)
  | .fireCue cue =>
    state.activeModeId == some cue.modeId &&
      (catalog.modes.bind (·[cue.modeId]?)).any (cueReferencesValid catalog · cue)
  | .fireSfx soundboardId itemPath _ => mode.any (·.itemValid soundboardId itemPath)
  | .setActivePresets presetIds _ => CatalogMode.presetsValid mode presetIds
  | .presetsChanged (some presetIds) _ => CatalogMode.presetsValid mode presetIds
  | .ambientPlayTrack trackId => catalog.tracksValid [trackId]
  | .ambientEnqueue trackId _ => catalog.tracksValid [trackId]
  | .ambientSetQueue trackIds => catalog.tracksValid trackIds
  | .ambientPlaySequence trackIds _ _ => catalog.tracksValid trackIds
  | .fireInterruptSequence trackIds _ => catalog.tracksValid trackIds
  | .ambientSkipNext (some trackId) _ => catalog.tracksValid [trackId]
  | .startLoop loopingSfx =>
    mode.any (·.itemValid loopingSfx.soundboardId loopingSfx.itemPath)
  | _ => true

/-! ## Pruning -/

/-- Without an active mode the room plays through one output. -/
def activeModeAllowsMultipleOutputs (state : PlaybackState)
    (modes : BTreeMap String CatalogMode) : Bool :=
  (activeMode state modes).any (·.multipleOutputs)

/-- The ambient lane without the tracks a catalog does not know. -/
def pruneAmbient (state : PlaybackState) (tracks : BTreeMap TrackId CatalogTrack) :
    PlaybackState × Bool :=
  let queue := state.ambient.queue.filter tracks.contains
  let history := state.ambient.history.filter tracks.contains
  let changed := state.ambient.queue.length != queue.length ||
    state.ambient.history.length != history.length
  let ambient : AmbientState := { state.ambient with queue, history }
  if ambient.currentTrackId.any fun id => !tracks.contains id then
    ({ state with
      ambient := { ambient with
        currentTrackId := none
        positionMs := 0
        positionAnchorMs := none }
      isPlaying := false }, true)
  else ({ state with ambient }, changed)

/-- The interrupt lane without the tracks a catalog does not know.  An interrupt whose
current track is gone ends here. -/
def pruneInterrupt (state : PlaybackState) (tracks : BTreeMap TrackId CatalogTrack)
    (nowMs : ℕ) : PlaybackState × Bool :=
  match state.interrupt with
  | none => (state, false)
  | some interrupt =>
    if tracks.contains interrupt.currentTrackId then
      let queue := interrupt.queue.filter tracks.contains
      ({ state with interrupt := some { interrupt with queue } },
        interrupt.queue.length != queue.length)
    else if state.isPlaying && state.ambient.currentTrackId.isSome then
      ({ state with interrupt := none, ambient.positionAnchorMs := some nowMs }, true)
    else ({ state with interrupt := none }, true)

def pruneTracks (state : PlaybackState) (tracks : Option (BTreeMap TrackId CatalogTrack))
    (nowMs : ℕ) : PlaybackState × Bool :=
  match tracks with
  | none => (state, false)
  | some tracks =>
    let ambient := pruneAmbient state tracks
    let interrupt := pruneInterrupt ambient.1 tracks nowMs
    (interrupt.1, ambient.2 || interrupt.2)

def pruneActiveMode (state : PlaybackState) (modes : BTreeMap String CatalogMode) :
    PlaybackState × Bool :=
  if state.activeModeId.any fun modeId => !modes.contains modeId then
    ({ state with
      activeModeId := none
      activeSoundboardId := none
      activePresetIds := []
      loopingSfx := [] }, true)
  else (state, false)

/-- Leave the soundboard, the presets and the loops the active mode does not have. -/
def pruneModeReferences (state : PlaybackState) (mode : Option CatalogMode) :
    PlaybackState × Bool :=
  let soundboardGone := state.activeSoundboardId.any fun soundboardId =>
    mode.all fun mode => !mode.soundboardItems.contains soundboardId
  let presets := state.activePresetIds.filter fun presetId =>
    mode.any (·.presetIds.contains presetId)
  let loops := state.loopingSfx.filter fun loopingSfx =>
    mode.any (·.itemValid loopingSfx.soundboardId loopingSfx.itemPath)
  ({ state with
    activeSoundboardId := if soundboardGone then none else state.activeSoundboardId
    activePresetIds := presets
    loopingSfx := loops },
    soundboardGone || state.activePresetIds.length != presets.length ||
      state.loopingSfx.length != loops.length)

def pruneModes (state : PlaybackState) (modes : Option (BTreeMap String CatalogMode)) :
    PlaybackState × Bool :=
  match modes with
  | none => (state, false)
  | some modes =>
    let mode := pruneActiveMode state modes
    let references := pruneModeReferences mode.1 (activeMode mode.1 modes)
    let policy := references.1.applyOutputPolicy
      (activeModeAllowsMultipleOutputs references.1 modes)
    (policy.1, mode.2 || references.2 || policy.2)

def pruneForCatalog (state : PlaybackState) (catalog : CatalogSnapshot) (nowMs : ℕ)
    (activePresetContentChanged : Bool) : Except PlaybackError (PlaybackState × Bool) :=
  let tracks := pruneTracks state catalog.tracks nowMs
  let modes := pruneModes tracks.1 catalog.modes
  if activePresetContentChanged then
    match checkedIncrement modes.1.presetRevision with
    | none => .error .presetRevisionOverflow
    | some presetRevision => .ok ({ modes.1 with presetRevision }, true)
  else .ok (modes.1, tracks.2 || modes.2)

/-! ## What pruning leaves alone -/

variable {s : PlaybackState}

theorem pruneForCatalog_eq {catalog : CatalogSnapshot} {now : ℕ} {presets : Bool}
    {r : PlaybackState × Bool} (h : pruneForCatalog s catalog now presets = .ok r) :
    ∃ revision, r.1 = { (pruneModes (pruneTracks s catalog.tracks now).1 catalog.modes).1 with
        presetRevision := revision } ∧
      (r.2 = false → presets = false ∧ (pruneTracks s catalog.tracks now).2 = false ∧
        (pruneModes (pruneTracks s catalog.tracks now).1 catalog.modes).2 = false ∧
        r.1 = (pruneModes (pruneTracks s catalog.tracks now).1 catalog.modes).1) := by
  unfold pruneForCatalog at h
  cases presets with
  | true =>
    simp only [if_true] at h
    split at h
    · cases h
    · cases h
      exact ⟨_, rfl, fun hchanged => by cases hchanged⟩
  | false =>
    cases h
    refine ⟨_, rfl, fun hchanged => ⟨rfl, ?_⟩⟩
    rw [Bool.or_eq_false_iff] at hchanged
    exact ⟨hchanged.1, hchanged.2, rfl⟩

theorem length_filter_eq {α : Type} {p : α → Bool} {l : List α}
    (h : (l.length != (l.filter p).length) = false) : l.filter p = l := by
  rw [bne_eq_false_iff_eq] at h
  exact List.filter_eq_self.mpr (List.length_filter_eq_length_iff.mp h.symm)

theorem pruneAmbient_unchanged {tracks : BTreeMap TrackId CatalogTrack}
    (h : (pruneAmbient s tracks).2 = false) : (pruneAmbient s tracks).1 = s := by
  unfold pruneAmbient at h ⊢
  simp only at h ⊢
  split at h
  · cases h
  · next hcurrent =>
    rw [Bool.or_eq_false_iff] at h
    rw [if_neg hcurrent, length_filter_eq h.1, length_filter_eq h.2]

theorem pruneInterrupt_unchanged {tracks : BTreeMap TrackId CatalogTrack} {now : ℕ}
    (h : (pruneInterrupt s tracks now).2 = false) :
    (pruneInterrupt s tracks now).1 = s := by
  unfold pruneInterrupt at h ⊢
  cases hi : s.interrupt with
  | none => rfl
  | some interrupt =>
    simp only [hi] at h ⊢
    split at h
    · next hcurrent =>
      rw [if_pos hcurrent]
      simp only at h ⊢
      rw [length_filter_eq h, ← hi]
    · split at h <;> cases h

theorem pruneTracks_unchanged {tracks : Option (BTreeMap TrackId CatalogTrack)} {now : ℕ}
    (h : (pruneTracks s tracks now).2 = false) : (pruneTracks s tracks now).1 = s := by
  cases tracks with
  | none => rfl
  | some tracks =>
    simp only [pruneTracks, Bool.or_eq_false_iff] at h ⊢
    rw [pruneInterrupt_unchanged h.2, pruneAmbient_unchanged h.1]

theorem pruneActiveMode_unchanged {modes : BTreeMap String CatalogMode}
    (h : (pruneActiveMode s modes).2 = false) : (pruneActiveMode s modes).1 = s := by
  unfold pruneActiveMode at h ⊢
  split at h
  · cases h
  · next hmode => rw [if_neg hmode]

theorem pruneModeReferences_unchanged {mode : Option CatalogMode}
    (h : (pruneModeReferences s mode).2 = false) : (pruneModeReferences s mode).1 = s := by
  unfold pruneModeReferences at h ⊢
  simp only [Bool.or_eq_false_iff] at h ⊢
  obtain ⟨⟨hsoundboard, hpresets⟩, hloops⟩ := h
  rw [length_filter_eq hpresets, length_filter_eq hloops, hsoundboard]
  rfl

theorem applyOutputPolicy_unchanged {multipleOutputs : Bool}
    (h : (s.applyOutputPolicy multipleOutputs).2 = false) :
    (s.applyOutputPolicy multipleOutputs).1 = s ∧ s.multipleOutputs = multipleOutputs := by
  unfold PlaybackState.applyOutputPolicy at h ⊢
  simp only at h ⊢
  split at h
  · cases h
  · next hlength =>
    rw [bne_eq_false_iff_eq] at h
    subst h
    rw [if_neg hlength]
    exact ⟨rfl, rfl⟩

theorem pruneModes_unchanged {modes : Option (BTreeMap String CatalogMode)}
    (h : (pruneModes s modes).2 = false) : (pruneModes s modes).1 = s := by
  cases modes with
  | none => rfl
  | some modes =>
    simp only [pruneModes, Bool.or_eq_false_iff] at h ⊢
    obtain ⟨⟨hmode, hreferences⟩, hpolicy⟩ := h
    rw [(applyOutputPolicy_unchanged hpolicy).1, pruneModeReferences_unchanged hreferences,
      pruneActiveMode_unchanged hmode]

theorem pruneForCatalog_unchanged {catalog : CatalogSnapshot} {now : ℕ} {presets : Bool}
    {r : PlaybackState × Bool} (h : pruneForCatalog s catalog now presets = .ok r)
    (hr : r.2 = false) : r.1 = s := by
  obtain ⟨-, -, hunchanged⟩ := pruneForCatalog_eq h
  obtain ⟨-, htracks, hmodes, hstate⟩ := hunchanged hr
  rw [hstate, pruneModes_unchanged hmodes, pruneTracks_unchanged htracks]

end MusicServer
