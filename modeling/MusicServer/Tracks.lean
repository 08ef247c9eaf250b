/-
# The tracks a state refers to

A lane refers to tracks: the current one, the queue, and the history.  `TracksIn` says
that all of them have a property, and `reduce_tracksIn` that a command brings in no track
but those it names.  A catalog the owner is given knows every track that one of its
tracks is followed by (`playbackCatalogTracks_followed`), so the successor of a known
track is known.
-/
import MusicServer.Catalog

namespace MusicServer

/-! ## The view -/

structure AmbientState.TracksIn (ambient : AmbientState) (p : TrackId → Prop) : Prop where
  current : ∀ id, ambient.currentTrackId = some id → p id
  queue : ∀ id ∈ ambient.queue, p id
  history : ∀ id ∈ ambient.history, p id

structure InterruptState.TracksIn (interrupt : InterruptState) (p : TrackId → Prop) : Prop where
  current : p interrupt.currentTrackId
  queue : ∀ id ∈ interrupt.queue, p id

/-- Every track of the two lanes has the property. -/
structure PlaybackState.TracksIn (state : PlaybackState) (p : TrackId → Prop) : Prop where
  ambient : state.ambient.TracksIn p
  interrupt : ∀ interrupt, state.interrupt = some interrupt → interrupt.TracksIn p

def PlaybackCommand.trackIds : PlaybackCommand → List TrackId
  | .ambientPlayTrack trackId => [trackId]
  | .ambientSetQueue trackIds => trackIds
  | .ambientEnqueue trackId _ => [trackId]
  | .ambientSkipNext followNextId _ => followNextId.toList
  | .ambientPlaySequence trackIds _ _ => trackIds
  | .fireInterruptSequence trackIds _ => trackIds
  | .fireCue cue => (cue.playlist.map (·.trackIds)).getD []
  | _ => []

variable {p : TrackId → Prop}

/-! ## The ambient lane -/

theorem AmbientState.TracksIn.congr {ambient next : AmbientState} (h : ambient.TracksIn p)
    (hcurrent : next.currentTrackId = ambient.currentTrackId)
    (hqueue : next.queue = ambient.queue) (hhistory : next.history = ambient.history) :
    next.TracksIn p := by
  refine ⟨?_, ?_, ?_⟩
  · rw [hcurrent]
    exact h.current
  · rw [hqueue]
    exact h.queue
  · rw [hhistory]
    exact h.history

variable {ambient : AmbientState}

theorem AmbientState.TracksIn.freeze (h : ambient.TracksIn p) (nowMs : ℕ) :
    (freezeAmbient ambient nowMs).TracksIn p := by
  rw [freezeAmbient_eq]
  exact h.congr rfl rfl rfl

theorem tracksIn_empty (loopMode : LoopMode) (shuffle : ShuffleMode) :
    AmbientState.TracksIn { AmbientState.default with loopMode, shuffle } p :=
  ⟨(fun _ h => nomatch h), (fun _ h => nomatch h), (fun _ h => nomatch h)⟩

theorem AmbientState.TracksIn.withCurrent (h : ambient.TracksIn p) :
    ∀ id ∈ ambient.withCurrent, p id := by
  intro id hid
  unfold AmbientState.withCurrent at hid
  rw [List.mem_append, Option.mem_toList] at hid
  exact hid.elim (h.history id) (h.current id)

/-- An advance takes the next track from the queue, the sequence, or the successor it is
given. -/
theorem ambientAdvance_tracksIn {ambient next : AmbientState} {anchor : Option ℕ}
    {follow : Option TrackId} {random : Option ℕ} {playsOn : Bool} (h : ambient.TracksIn p)
    (hfollow : ∀ id, follow = some id → p id)
    (hnext : ambientAdvance ambient anchor follow random = .ok (next, playsOn)) :
    next.TracksIn p := by
  unfold ambientAdvance at hnext
  split at hnext
  · cases hnext
    exact h.congr rfl rfl rfl
  split at hnext
  · obtain ⟨index, -, hnext⟩ := bind_eq_ok.mp hnext
    cases hnext
    refine ⟨?_, ?_, h.withCurrent⟩
    · intro id hid
      exact h.queue id (List.mem_of_getElem? hid)
    · intro id hid
      exact h.queue id (List.mem_of_mem_eraseIdx hid)
  split at hnext
  · cases hnext
    refine ⟨?_, ?_, (fun _ hid => nomatch hid)⟩
    · intro id hid
      exact h.withCurrent id (List.mem_of_head? hid)
    · intro id hid
      exact h.withCurrent id (List.mem_of_mem_tail hid)
  split at hnext
  · cases hnext
    exact ⟨hfollow, (fun _ hid => nomatch hid), h.withCurrent⟩
  · cases hnext
    exact ⟨(fun _ hid => nomatch hid), h.queue, h.history⟩

theorem ambientRewind_tracksIn (h : ambient.TracksIn p) (anchor : Option ℕ) :
    (ambientRewind ambient anchor).TracksIn p := by
  unfold ambientRewind
  split
  · next previous hlast =>
    refine ⟨?_, ?_, ?_⟩
    · rintro id ⟨⟩
      exact h.history _ (List.mem_of_getLast? hlast)
    · intro id hid
      simp only [List.mem_append, Option.mem_toList] at hid
      exact hid.elim (h.current id) (h.queue id)
    · intro id hid
      exact h.history id (List.mem_of_mem_dropLast hid)
  · exact h.congr rfl rfl rfl

/-! ## Commands -/

namespace PlaybackState.TracksIn

variable {s : PlaybackState}

theorem congr {next : PlaybackState} (h : s.TracksIn p) (hambient : next.ambient = s.ambient)
    (hinterrupt : next.interrupt = s.interrupt) : next.TracksIn p := by
  refine ⟨?_, ?_⟩
  · rw [hambient]
    exact h.ambient
  · rw [hinterrupt]
    exact h.interrupt

theorem withAmbient {next : PlaybackState} (h : s.TracksIn p) (hambient : next.ambient.TracksIn p)
    (hinterrupt : next.interrupt = s.interrupt) :
    next.TracksIn p := by
  refine ⟨hambient, ?_⟩
  rw [hinterrupt]
  exact h.interrupt

variable {s s' : PlaybackState}

theorem increment (hs' : incrementPositionEpoch s = .ok s') (h : s.TracksIn p) : s'.TracksIn p := by
  obtain ⟨-, rfl⟩ := incrementPositionEpoch_eq_ok.mp hs'
  exact h.congr rfl rfl

theorem incremented {changed flag : Bool}
    (hs' : (do let s₂ ← incrementPositionEpoch s; return (s₂, flag) :
      Except PlaybackError (PlaybackState × Bool)) = .ok (s', changed)) (h : s.TracksIn p) :
    s'.TracksIn p := by
  obtain ⟨s₂, hs₂, hs'⟩ := bind_eq_ok.mp hs'
  cases hs'
  exact increment hs₂ h

theorem setPlaying (h : s.TracksIn p) (playing : Bool) (nowMs : ℕ) :
    (MusicServer.setPlaying s playing nowMs).1.TracksIn p := by
  unfold MusicServer.setPlaying
  simp only
  split
  · exact h
  split
  · split
    · exact h.withAmbient (h.ambient.congr rfl rfl rfl) rfl
    · exact h.congr rfl rfl
  · exact h.withAmbient (h.ambient.freeze nowMs) rfl

theorem reportPosition (h : s.TracksIn p) (deviceId : String) (positionMs : ℕ) (clock : ClockSample) :
    (MusicServer.reportPosition s deviceId positionMs clock).TracksIn p := by
  unfold MusicServer.reportPosition
  simp only
  split
  · next interrupt hinterrupt =>
    have hlane := h.interrupt interrupt hinterrupt
    refine ⟨h.ambient, ?_⟩
    rintro _ ⟨⟩
    exact ⟨hlane.current, hlane.queue⟩
  · exact h.withAmbient (h.ambient.congr rfl rfl rfl) rfl

variable {nowMs : ℕ}

theorem ambientPlayTrack {trackId : TrackId} (h : s.TracksIn p) (htrack : p trackId)
    (hs' : MusicServer.ambientPlayTrack s trackId nowMs = .ok s') : s'.TracksIn p := by
  refine increment hs' (h.withAmbient ⟨?_, (fun _ hid => nomatch hid), (fun _ hid => nomatch hid)⟩ rfl)
  rintro id ⟨⟩
  exact htrack

variable {trackIds : List TrackId}

theorem ambientSetQueue (h : s.TracksIn p) (htracks : ∀ id ∈ trackIds, p id) :
    (MusicServer.ambientSetQueue s trackIds).1.TracksIn p := by
  unfold MusicServer.ambientSetQueue
  split
  · exact h
  · exact h.withAmbient ⟨h.ambient.current, htracks, h.ambient.history⟩ rfl

variable {changed : Bool}

theorem ambientJumpQueue {position nowMs : ℕ} (h : s.TracksIn p)
    (hs' : MusicServer.ambientJumpQueue s position nowMs = .ok (s', changed)) :
    s'.TracksIn p := by
  unfold MusicServer.ambientJumpQueue at hs'
  split at hs'
  · cases hs'
    exact h
  · next track htrack =>
    refine incremented hs' (h.withAmbient ⟨?_, ?_, h.ambient.withCurrent⟩ rfl)
    · rintro id ⟨⟩
      exact h.ambient.queue _ (List.mem_of_getElem? htrack)
    · intro id hid
      exact h.ambient.queue id (List.mem_of_mem_drop hid)

theorem ambientEnqueue (h : s.TracksIn p) {trackId : TrackId} (htrack : p trackId)
    (position : Option ℕ) :
    (MusicServer.ambientEnqueue s trackId position).TracksIn p := by
  refine h.withAmbient ⟨h.ambient.current, ?_, h.ambient.history⟩ rfl
  intro id hid
  rcases List.eq_or_mem_of_mem_insertIdx hid with rfl | hid
  · exact htrack
  · exact h.ambient.queue id hid

theorem ambientClearQueue (h : s.TracksIn p) :
    (MusicServer.ambientClearQueue s).1.TracksIn p := by
  unfold MusicServer.ambientClearQueue
  split
  · exact h
  · exact h.withAmbient ⟨h.ambient.current, (fun _ hid => nomatch hid), h.ambient.history⟩ rfl

theorem ambientSkipNext {follow expected : Option TrackId} {context : ReductionContext}
    (h : s.TracksIn p) (hfollow : ∀ id, follow = some id → p id)
    (hs' : MusicServer.ambientSkipNext s follow expected context = .ok (s', changed)) :
    s'.TracksIn p := by
  unfold MusicServer.ambientSkipNext at hs'
  split at hs'
  · cases hs'
    exact h
  split at hs'
  · cases hs'
    exact h
  · obtain ⟨counted, hcounted, hs'⟩ := bind_eq_ok.mp hs'
    obtain ⟨⟨ambient, playsOn⟩, hadvanced, hs'⟩ := bind_eq_ok.mp hs'
    cases hs'
    have hcounted := increment hcounted h
    exact hcounted.withAmbient (ambientAdvance_tracksIn hcounted.ambient hfollow hadvanced) rfl

theorem ambientSkipPrevious (h : s.TracksIn p)
    (hs' : MusicServer.ambientSkipPrevious s nowMs = .ok (s', changed)) :
    s'.TracksIn p := by
  unfold MusicServer.ambientSkipPrevious at hs'
  split at hs'
  · cases hs'
    exact h
  · exact incremented hs' (h.withAmbient (ambientRewind_tracksIn h.ambient _) rfl)

theorem ambientSeek {positionMs nowMs : ℕ} (h : s.TracksIn p)
    (hs' : MusicServer.ambientSeek s positionMs nowMs = .ok (s', changed)) :
    s'.TracksIn p := by
  unfold MusicServer.ambientSeek at hs'
  split at hs'
  · cases hs'
    exact h
  · exact incremented hs' (h.withAmbient (h.ambient.congr rfl rfl rfl) rfl)

theorem ambientStop (h : s.TracksIn p) (hs' : MusicServer.ambientStop s = .ok (s', changed)) :
    s'.TracksIn p := by
  unfold MusicServer.ambientStop at hs'
  split at hs'
  · cases hs'
    exact h
  · exact incremented hs' (h.withAmbient (tracksIn_empty _ _) rfl)

theorem ambientPlaySequence {startIndex : ℕ} {source : Option ℤ} (h : s.TracksIn p)
    (htracks : ∀ id ∈ trackIds, p id)
    (hs' : MusicServer.ambientPlaySequence s trackIds startIndex source nowMs = .ok (s', changed)) :
    s'.TracksIn p := by
  unfold MusicServer.ambientPlaySequence at hs'
  split at hs'
  · cases hs'
    exact h
  · refine incremented hs' (h.withAmbient ⟨?_, ?_, ?_⟩ rfl)
    · intro id hid
      exact htracks id (List.mem_of_getElem? hid)
    · intro id hid
      exact htracks id (List.mem_of_mem_drop hid)
    · intro id hid
      exact htracks id (List.mem_of_mem_take hid)

theorem fireInterrupt {fade : InterruptFade} (h : s.TracksIn p) (htracks : ∀ id ∈ trackIds, p id)
    (hs' : MusicServer.fireInterrupt s trackIds fade nowMs = .ok (s', changed)) :
    s'.TracksIn p := by
  unfold MusicServer.fireInterrupt at hs'
  split at hs'
  · cases hs'
    exact h
  · next current queue =>
    refine incremented hs' ⟨?_, ?_⟩
    · change (if fade.duckTo.isNone then freezeAmbient s.ambient nowMs else s.ambient).TracksIn p
      split
      · exact h.ambient.freeze nowMs
      · exact h.ambient
    · rintro _ ⟨⟩
      refine ⟨htracks current List.mem_cons_self, ?_⟩
      intro id hid
      exact htracks id (List.mem_cons_of_mem current hid)

theorem endInterrupt (h : s.TracksIn p) (hs' : MusicServer.endInterrupt s nowMs = .ok (s', changed)) :
    s'.TracksIn p := by
  unfold MusicServer.endInterrupt at hs'
  split at hs'
  · cases hs'
    exact h
  · refine incremented hs' ?_
    split
    · split
      · exact ⟨h.ambient.congr rfl rfl rfl, (fun _ hi => nomatch hi)⟩
      · exact ⟨h.ambient, (fun _ hi => nomatch hi)⟩
    · exact ⟨h.ambient.freeze nowMs, (fun _ hi => nomatch hi)⟩

theorem interruptSkipNext {expected : Option TrackId} (h : s.TracksIn p)
    (hs' : MusicServer.interruptSkipNext s expected nowMs = .ok (s', changed)) :
    s'.TracksIn p := by
  unfold MusicServer.interruptSkipNext at hs'
  split at hs'
  · cases hs'
    exact h
  next interrupt hinterrupt =>
  have hlane := h.interrupt interrupt hinterrupt
  split at hs'
  · cases hs'
    exact h
  split at hs'
  · next track queue hqueue =>
    refine incremented hs' ⟨h.ambient, ?_⟩
    have hqueued := hlane.queue
    rw [hqueue] at hqueued
    rintro _ ⟨⟩
    refine ⟨hqueued track List.mem_cons_self, ?_⟩
    intro id hid
    exact hqueued id (List.mem_cons_of_mem track hid)
  · exact h.endInterrupt hs'

theorem interruptSeek {positionMs nowMs : ℕ} (h : s.TracksIn p)
    (hs' : MusicServer.interruptSeek s positionMs nowMs = .ok (s', changed)) :
    s'.TracksIn p := by
  unfold MusicServer.interruptSeek at hs'
  split at hs'
  · cases hs'
    exact h
  · next interrupt hinterrupt =>
    have hlane := h.interrupt interrupt hinterrupt
    refine incremented hs' ⟨h.ambient, ?_⟩
    rintro _ ⟨⟩
    exact ⟨hlane.current, hlane.queue⟩

theorem setActivePresets (h : s.TracksIn p) (presetIds : List String) (crossfadeMs : Option ℕ) :
    (MusicServer.setActivePresets s presetIds crossfadeMs).1.TracksIn p := by
  unfold MusicServer.setActivePresets
  simp only
  split
  · split <;> exact h.congr rfl rfl
  · exact h.congr rfl rfl

theorem registerDevice (h : s.TracksIn p) (deviceId : String) (activate : Bool) :
    (MusicServer.registerDevice s deviceId activate).1.TracksIn p := by
  have hknown : (ensureDeviceVolume s deviceId).1.TracksIn p := by
    unfold ensureDeviceVolume
    split
    · exact h
    · exact h.congr rfl rfl
  unfold MusicServer.registerDevice
  simp only
  split
  · exact hknown.congr rfl rfl
  · exact hknown

theorem applyCuePlaylist {playlist : Option CuePlaylist} (h : s.TracksIn p)
    (htracks : ∀ id ∈ (playlist.map (·.trackIds)).getD [], p id)
    (hs' : MusicServer.applyCuePlaylist s playlist nowMs = .ok (s', changed)) :
    s'.TracksIn p := by
  unfold MusicServer.applyCuePlaylist at hs'
  split at hs'
  · cases hs'
    exact h
  · obtain ⟨⟨played, flag⟩, hplayed, hs'⟩ := bind_eq_ok.mp hs'
    have hplayed := h.ambientPlaySequence htracks hplayed
    simp only at hs'
    split at hs'
    · cases hs'
      exact hplayed.withAmbient (hplayed.ambient.congr rfl rfl rfl) rfl
    · cases hs'
      exact hplayed

theorem fireCue {cue : CuePlayback} {events : List DomainEvent} (h : s.TracksIn p)
    (htracks : ∀ id ∈ (cue.playlist.map (·.trackIds)).getD [], p id)
    (hs' : MusicServer.fireCue s cue nowMs = .ok (s', changed, events)) : s'.TracksIn p := by
  unfold MusicServer.fireCue at hs'
  split at hs'
  · obtain ⟨⟨played, flag⟩, hplayed, hs'⟩ := bind_eq_ok.mp hs'
    cases hs'
    have hpreset : (applyCuePreset s cue.preset).1.TracksIn p := by
      unfold applyCuePreset
      split
      · exact h.setActivePresets _ _
      · exact h
    exact (hpreset.applyCuePlaylist htracks hplayed).congr rfl rfl
  · cases hs'

end PlaybackState.TracksIn

variable {command : PlaybackCommand}

theorem applyCommand_tracksIn {s : PlaybackState} {context : ReductionContext} {r : Reduction}
    (h : s.TracksIn p) (htracks : ∀ id ∈ command.trackIds, p id)
    (hr : applyCommand s command context = .ok r) : r.nextState.TracksIn p := by
  cases command with
  | setPlaying playing =>
    cases hr
    exact h.setPlaying playing _
  | reportPosition deviceId positionMs =>
    cases hr
    exact h.reportPosition deviceId _ _
  | ambientSetQueue trackIds =>
    cases hr
    exact h.ambientSetQueue htracks
  | ambientEnqueue trackId position =>
    cases hr
    exact h.ambientEnqueue (htracks trackId List.mem_cons_self) position
  | ambientClearQueue =>
    cases hr
    exact h.ambientClearQueue
  | ambientPlayTrack trackId =>
    obtain ⟨next, hnext, hr⟩ := bind_eq_ok.mp hr
    cases hr
    exact h.ambientPlayTrack (htracks trackId List.mem_cons_self) hnext
  | ambientJumpQueue position =>
    obtain ⟨next, hnext, hr⟩ := bind_eq_ok.mp hr
    cases hr
    exact h.ambientJumpQueue hnext
  | ambientSkipNext follow expected =>
    obtain ⟨next, hnext, hr⟩ := bind_eq_ok.mp hr
    cases hr
    refine h.ambientSkipNext ?_ hnext
    intro id hid
    exact htracks id (Option.mem_toList.mpr hid)
  | ambientSkipPrevious =>
    obtain ⟨next, hnext, hr⟩ := bind_eq_ok.mp hr
    cases hr
    exact h.ambientSkipPrevious hnext
  | ambientSeek positionMs =>
    obtain ⟨next, hnext, hr⟩ := bind_eq_ok.mp hr
    cases hr
    exact h.ambientSeek hnext
  | ambientStop =>
    obtain ⟨next, hnext, hr⟩ := bind_eq_ok.mp hr
    cases hr
    exact h.ambientStop hnext
  | ambientPlaySequence trackIds startIndex source =>
    obtain ⟨next, hnext, hr⟩ := bind_eq_ok.mp hr
    cases hr
    exact h.ambientPlaySequence htracks hnext
  | fireInterruptSequence trackIds fade =>
    obtain ⟨next, hnext, hr⟩ := bind_eq_ok.mp hr
    cases hr
    exact h.fireInterrupt htracks hnext
  | interruptSkipNext expected =>
    obtain ⟨next, hnext, hr⟩ := bind_eq_ok.mp hr
    cases hr
    exact h.interruptSkipNext hnext
  | interruptSeek positionMs =>
    obtain ⟨next, hnext, hr⟩ := bind_eq_ok.mp hr
    cases hr
    exact h.interruptSeek hnext
  | cancelInterrupt =>
    obtain ⟨next, hnext, hr⟩ := bind_eq_ok.mp hr
    cases hr
    exact h.endInterrupt hnext
  | fireCue cue =>
    obtain ⟨next, hnext, hr⟩ := bind_eq_ok.mp hr
    cases hr
    exact h.fireCue htracks hnext
  | presetsChanged presetIds crossfadeMs =>
    obtain ⟨next, hnext, hr⟩ := bind_eq_ok.mp hr
    cases hr
    unfold presetsChanged at hnext
    split at hnext
    · cases hnext
    · cases hnext
      exact h.congr rfl rfl
  | ambientSetLoop | ambientSetShuffle =>
    cases hr
    exact h.withAmbient (h.ambient.congr rfl rfl rfl) rfl
  | setActiveMode modeId =>
    cases hr
    change (setActiveMode s modeId).1.TracksIn p
    unfold setActiveMode
    split <;> exact h.congr rfl rfl
  | registerDevice deviceId activate =>
    cases hr
    exact h.registerDevice deviceId activate
  | setDeviceVolume deviceId volume =>
    cases hr
    change (setDeviceVolume s deviceId volume).1.TracksIn p
    unfold setDeviceVolume
    split <;> exact h.congr rfl rfl
  | setActivePresets presetIds crossfadeMs =>
    cases hr
    exact h.setActivePresets presetIds crossfadeMs
  | setCrossfade crossfadeMs crossfadeType =>
    cases hr
    change (setCrossfade s crossfadeMs crossfadeType).1.TracksIn p
    unfold setCrossfade
    simp only
    split <;> exact h.congr rfl rfl
  | setActiveOutputs | removeActiveOutput | setActiveSoundboard | fireSfx | startLoop
  | stopLoop =>
    cases hr
    exact h.congr rfl rfl

theorem reduce_tracksIn {s : PlaybackState} {context : ReductionContext} {r : Reduction}
    (h : s.TracksIn p) (htracks : ∀ id ∈ command.trackIds, p id)
    (hr : reduce s command context = .ok r) :
    r.nextState.TracksIn p := by
  obtain ⟨r', hr', rfl⟩ := reduce_eq_ok.mp hr
  rw [nextState_settle]
  exact applyCommand_tracksIn h htracks hr'

/-! ## Catalogs -/

theorem trackIds_known {catalog : CatalogSnapshot} {state : PlaybackState}
    (h : catalogReferencesValid command catalog state = true)
    {tracks : BTreeMap TrackId CatalogTrack} (htracks : catalog.tracks = some tracks) :
    ∀ id ∈ command.trackIds, id ∈ tracks := by
  have hvalid : ∀ trackIds, catalog.tracksValid trackIds = true →
      ∀ id ∈ trackIds, id ∈ tracks := by
    intro trackIds hknown id hid
    unfold CatalogSnapshot.tracksValid at hknown
    rw [htracks, Bool.or_eq_true] at hknown
    rcases hknown with hempty | hknown
    · rw [List.isEmpty_iff.mp hempty] at hid
      cases hid
    · exact (List.all_eq_true.mp hknown) id hid
  cases command with
  | ambientPlayTrack | ambientSetQueue | ambientEnqueue | ambientPlaySequence
  | fireInterruptSequence => exact hvalid _ h
  | ambientSkipNext follow expected =>
    cases follow with
    | none => exact fun id hid => nomatch hid
    | some followed => exact hvalid _ h
  | fireCue cue =>
    simp only [catalogReferencesValid, Bool.and_eq_true] at h
    obtain ⟨mode, -, hcue⟩ := (Option.any_eq_true _ _).mp h.2
    simp only [cueReferencesValid, Bool.and_eq_true] at hcue
    obtain ⟨⟨⟨-, hplaylist⟩, -⟩, -⟩ := hcue
    simp only [PlaybackCommand.trackIds]
    cases hsome : cue.playlist with
    | none => exact fun id hid => nomatch hid
    | some playlist =>
      rw [hsome, Option.all_some, Bool.and_eq_true] at hplaylist
      exact hvalid playlist.trackIds hplaylist.2
  | _ => exact fun id hid => nomatch hid

section

variable {α : Type} (key : α → TrackId) (value : α → CatalogTrack)

theorem mem_foldl_insert (l : List α) (known : BTreeMap TrackId CatalogTrack) {id : TrackId} :
    id ∈ l.foldl (fun known x => known.insert (key x) (value x)) known ↔
      id ∈ known ∨ ∃ x ∈ l, key x = id := by
  induction l generalizing known with
  | nil => simp
  | cons x rest ih =>
    rw [List.foldl_cons, ih, Std.ExtTreeMap.mem_insert, Std.LawfulEqCmp.compare_eq_iff_eq]
    constructor
    · rintro ((hid | hid) | ⟨y, hy, hid⟩)
      · exact .inr ⟨x, List.mem_cons_self, hid⟩
      · exact .inl hid
      · exact .inr ⟨y, List.mem_cons_of_mem x hy, hid⟩
    · rintro (hid | ⟨y, hy, hid⟩)
      · exact .inl (.inr hid)
      · rcases List.mem_cons.mp hy with rfl | hy
        · exact .inl (.inl hid)
        · exact .inr ⟨y, hy, hid⟩

theorem value_of_foldl_insert (l : List α) (known : BTreeMap TrackId CatalogTrack) {id : TrackId}
    {track : CatalogTrack}
    (h : (l.foldl (fun known x => known.insert (key x) (value x)) known)[id]? = some track) :
    known[id]? = some track ∨ ∃ x ∈ l, value x = track := by
  induction l generalizing known with
  | nil => exact .inl h
  | cons x rest ih =>
    rcases ih (known.insert (key x) (value x)) h with h | ⟨y, hy, htrack⟩
    · rw [Std.ExtTreeMap.getElem?_insert] at h
      split at h
      · cases h
        exact .inr ⟨x, List.mem_cons_self, rfl⟩
      · exact .inl h
    · exact .inr ⟨y, List.mem_cons_of_mem x hy, htrack⟩

end

theorem playbackCatalogTracks_followed (library : List LibraryCatalogTrack) {id next : TrackId}
    {track : CatalogTrack} (htrack : (playbackCatalogTracks library)[id]? = some track)
    (hnext : track.followNextId = some next) : next ∈ playbackCatalogTracks library := by
  unfold playbackCatalogTracks at htrack ⊢
  simp only at htrack ⊢
  obtain hempty | ⟨⟨entry, index⟩, -, rfl⟩ := value_of_foldl_insert _ _ _ _ htrack
  · rw [Std.ExtTreeMap.getElem?_empty] at hempty
    cases hempty
  simp only at hnext
  have hordered : next ∈ (library.mergeSort LibraryCatalogTrack.le).map (·.id) := by
    rcases Option.or_eq_some_iff.mp hnext with hsucc | ⟨-, hfirst⟩
    · exact List.mem_of_getElem? hsucc
    · exact List.mem_of_head? hfirst
  obtain ⟨successor, hsuccessor, rfl⟩ := List.mem_map.mp hordered
  rw [← List.zipIdx_map_fst 0 (library.mergeSort LibraryCatalogTrack.le)] at hsuccessor
  obtain ⟨indexed, hindexed, rfl⟩ := List.mem_map.mp hsuccessor
  exact (mem_foldl_insert _ _ _ _).mpr (.inr ⟨indexed, hindexed, rfl⟩)

/-! ## Pruning -/

theorem pruneAmbient_tracksIn (s : PlaybackState) (known : BTreeMap TrackId CatalogTrack) :
    (pruneAmbient s known).1.ambient.TracksIn (· ∈ known) := by
  have hqueue : ∀ id ∈ s.ambient.queue.filter known.contains, id ∈ known := by
    intro id hid
    exact (List.mem_filter.mp hid).2
  have hhistory : ∀ id ∈ s.ambient.history.filter known.contains, id ∈ known := by
    intro id hid
    exact (List.mem_filter.mp hid).2
  unfold pruneAmbient
  simp only
  split
  · exact ⟨(fun id hid => nomatch hid), hqueue, hhistory⟩
  · next hcurrent =>
    refine ⟨?_, hqueue, hhistory⟩
    intro id hid
    have hid : s.ambient.currentTrackId = some id := hid
    rw [hid, Option.any_some, Bool.not_eq_true', Bool.not_eq_false] at hcurrent
    exact hcurrent

theorem pruneInterrupt_tracksIn {s : PlaybackState} {known : BTreeMap TrackId CatalogTrack}
    (h : s.ambient.TracksIn (· ∈ known)) (nowMs : ℕ) :
    (pruneInterrupt s known nowMs).1.TracksIn (· ∈ known) := by
  unfold pruneInterrupt
  split
  · next hnone =>
    refine ⟨h, ?_⟩
    rw [hnone]
    exact fun _ hinterrupt => nomatch hinterrupt
  split
  · next interrupt _ hcurrent =>
    refine ⟨h, ?_⟩
    rintro _ ⟨⟩
    refine ⟨hcurrent, ?_⟩
    intro id hid
    exact (List.mem_filter.mp hid).2
  split
  · exact ⟨h.congr rfl rfl rfl, (fun _ hinterrupt => nomatch hinterrupt)⟩
  · exact ⟨h, (fun _ hinterrupt => nomatch hinterrupt)⟩

theorem pruneModes_tracksIn {s : PlaybackState} (h : s.TracksIn p)
    (modes : Option (BTreeMap String CatalogMode)) : (pruneModes s modes).1.TracksIn p := by
  cases modes with
  | none => exact h
  | some modes =>
    have hmode : (pruneActiveMode s modes).1.TracksIn p := by
      unfold pruneActiveMode
      split
      · exact h.congr rfl rfl
      · exact h
    have hreferences : (pruneModeReferences (pruneActiveMode s modes).1
        (activeMode (pruneActiveMode s modes).1 modes)).1.TracksIn p := hmode.congr rfl rfl
    change (PlaybackState.applyOutputPolicy _ _).1.TracksIn p
    unfold PlaybackState.applyOutputPolicy
    simp only
    split
    · exact hreferences.congr rfl rfl
    · exact hreferences.congr rfl rfl

theorem pruneForCatalog_tracksIn {s state : PlaybackState} {catalog : CatalogSnapshot}
    {nowMs : ℕ} {presets changed : Bool}
    (hpruned : pruneForCatalog s catalog nowMs presets = .ok (state, changed))
    {tracks : BTreeMap TrackId CatalogTrack} (htracks : catalog.tracks = some tracks) :
    state.TracksIn (· ∈ tracks) := by
  obtain ⟨revision, hstate, -⟩ := pruneForCatalog_eq hpruned
  rw [htracks] at hstate
  have hlanes : (pruneTracks s (some tracks) nowMs).1.TracksIn (· ∈ tracks) :=
    pruneInterrupt_tracksIn (pruneAmbient_tracksIn s tracks) nowMs
  rw [show state = _ from hstate]
  exact (pruneModes_tracksIn hlanes catalog.modes).congr rfl rfl

end MusicServer
