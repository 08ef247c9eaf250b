/-
# The crossfade of selected presets

A request that selects presets computes its crossfade from the mode that was active when
it read the playback state, and the owner applies it in the mode that is active then.
The generation a command carries makes sure that the documents are still the same; it
says nothing of the active mode.

The main result, `presets_crossfade_iff`, says that a run installs the crossfade of the
active mode with every selection exactly when the presets bring the same crossfade in
the mode the request has read.
-/
import MusicServer.CatalogCommands
import MusicServer.Setup

namespace MusicServer

open Transition (System)

/-! ## What a room agrees on -/

/-- A catalog that was issued: no newer than what the sink accepted last, and the same
where their generations are. -/
def ModeCoordinator.Issued (coordinator : ModeCoordinator) (catalog : ModeCatalog) : Prop :=
  catalog.generation ≤ catalogGeneration coordinator.documents ∧
    (catalog.generation = catalogGeneration coordinator.documents →
      coordinator.documents = some catalog)

/-- A resolved request holds an issued catalog, and the command it gives. -/
def InFlight.Faithful (r : InFlight) (coordinator : ModeCoordinator) : Prop :=
  ∀ state catalog command generation,
    r.progress = .resolved state catalog command generation →
    coordinator.Issued catalog ∧ generation.modes = catalog.generation ∧
      ∃ reads, r.request.resolve state (some catalog) reads = .ok (some (command, catalog))

/-- The owner holds what the sink accepted last, and the requests what was issued. -/
structure Room.Coherent {Text : Type} (room : Room Text) : Prop where
  generation : room.owner.actor.catalog.generation.modes =
    catalogGeneration room.coordinator.documents
  references : room.owner.actor.catalog.modes =
    room.coordinator.documents.map fun catalog => playbackReferences catalog.modes
  current : ∀ catalog, room.coordinator.current = some catalog →
    room.coordinator.Issued catalog
  requests : ∀ (id : RequestId) (r : InFlight), room.requests[id]? = some r →
    r.Faithful room.coordinator

/-! ## Steps of a request -/

variable {catalog : ModeCatalog}

theorem modeCatalog_eq_ok {snapshot : Option ModeCatalog} (h : modeCatalog snapshot = .ok catalog) :
    snapshot = some catalog := by
  unfold modeCatalog at h
  split at h
  · cases h
  · cases h
    rfl

variable {state : Option PlaybackState} {command : PlaybackCommand}

theorem resolve_snapshot {request : CatalogRequest} {snapshot : Option ModeCatalog}
    {reads : CatalogReads}
    (h : request.resolve state snapshot reads = .ok (some (command, catalog))) :
    snapshot = some catalog := by
  unfold CatalogRequest.resolve at h
  split at h
  · obtain ⟨resolved, -, h⟩ := bind_eq_ok.mp h
    cases resolved with
    | none => cases h
    | some command =>
      obtain ⟨catalog, hcatalog, h⟩ := bind_eq_ok.mp h
      cases h
      exact modeCatalog_eq_ok hcatalog
  · obtain ⟨trackIds, -, h⟩ := bind_eq_ok.mp h
    obtain ⟨catalog, hcatalog, h⟩ := bind_eq_ok.mp h
    cases h
    exact modeCatalog_eq_ok hcatalog
  · obtain ⟨trackIds, -, h⟩ := bind_eq_ok.mp h
    obtain ⟨catalog, hcatalog, h⟩ := bind_eq_ok.mp h
    cases h
    exact modeCatalog_eq_ok hcatalog
  · cases h
  · obtain ⟨modeId, -, h⟩ := bind_eq_ok.mp h
    obtain ⟨catalog, hcatalog, h⟩ := bind_eq_ok.mp h
    obtain ⟨command, -, h⟩ := bind_eq_ok.mp h
    cases h
    exact modeCatalog_eq_ok hcatalog
  · obtain ⟨modeId, -, h⟩ := bind_eq_ok.mp h
    obtain ⟨catalog, hcatalog, h⟩ := bind_eq_ok.mp h
    obtain ⟨⟨⟩, -, h⟩ := bind_eq_ok.mp h
    cases h
    exact modeCatalog_eq_ok hcatalog
  · obtain ⟨modeId, -, h⟩ := bind_eq_ok.mp h
    obtain ⟨catalog, hcatalog, h⟩ := bind_eq_ok.mp h
    obtain ⟨⟨⟩, -, h⟩ := bind_eq_ok.mp h
    cases h
    exact modeCatalog_eq_ok hcatalog
  · obtain ⟨catalog, hcatalog, h⟩ := bind_eq_ok.mp h
    obtain ⟨command, -, h⟩ := bind_eq_ok.mp h
    cases h
    exact modeCatalog_eq_ok hcatalog

variable {coordinator : ModeCoordinator} {r : InFlight}

theorem faithful_of_unresolved (h : ∀ state catalog command generation,
      r.progress ≠ .resolved state catalog command generation) : r.Faithful coordinator :=
  fun state catalog command generation hprogress =>
    absurd hprogress (h state catalog command generation)

theorem retry_faithful (r : InFlight) (coordinator : ModeCoordinator) :
    r.retry.Faithful coordinator := by
  unfold InFlight.retry
  split <;> exact faithful_of_unresolved (fun _ _ _ _ h => nomatch h)

theorem observe_faithful {answer : Option PlaybackState} :
    (r.observe answer).Faithful coordinator := by
  unfold InFlight.observe
  split
  · split <;> exact faithful_of_unresolved (fun _ _ _ _ h => nomatch h)
  · exact faithful_of_unresolved (fun _ _ _ _ h => nomatch h)
  · exact faithful_of_unresolved (fun _ _ _ _ h => nomatch h)

theorem resolve_faithful
    (hcurrent : ∀ catalog, coordinator.current = some catalog → coordinator.Issued catalog)
    (state : Option PlaybackState) (reads : CatalogReads) :
    (r.resolve state coordinator.current reads).Faithful coordinator := by
  unfold InFlight.resolve
  split
  · exact faithful_of_unresolved (fun _ _ _ _ h => nomatch h)
  · exact retry_faithful r coordinator
  · next command catalog hresolve =>
    rintro _ _ _ _ ⟨⟩
    have hsnapshot := resolve_snapshot hresolve
    refine ⟨hcurrent catalog hsnapshot, rfl, reads, ?_⟩
    rw [← hsnapshot]
    exact hresolve

theorem refused_faithful (r : InFlight) (coordinator : ModeCoordinator)
    (state : Option PlaybackState) : (r.refused state).Faithful coordinator := by
  unfold InFlight.refused
  split
  · exact faithful_of_unresolved (fun _ _ _ _ h => nomatch h)
  · exact faithful_of_unresolved (fun _ _ _ _ h => nomatch h)
  · exact retry_faithful r coordinator
  · exact faithful_of_unresolved (fun _ _ _ _ h => nomatch h)
  · exact faithful_of_unresolved (fun _ _ _ _ h => nomatch h)
  · exact faithful_of_unresolved (fun _ _ _ _ h => nomatch h)
  · split
    · exact faithful_of_unresolved (fun _ _ _ _ h => nomatch h)
    · exact retry_faithful r coordinator

theorem answered_faithful (r : InFlight) (coordinator : ModeCoordinator)
    (state : Option PlaybackState)
    (outcome : Except PlaybackActorError PlaybackCommandResult) :
    (r.answered state outcome).Faithful coordinator := by
  unfold InFlight.answered
  split
  · exact faithful_of_unresolved (fun _ _ _ _ h => nomatch h)
  · exact retry_faithful r coordinator
  · exact refused_faithful r coordinator state
  · exact faithful_of_unresolved (fun _ _ _ _ h => nomatch h)

/-! ## Steps of the owner -/

/-- The owner holds the same modes, of the same generation. -/
structure SameModes (a a' : PlaybackActor) : Prop where
  generation : a'.catalog.generation.modes = a.catalog.generation.modes
  modes : a'.catalog.modes = a.catalog.modes

theorem SameModes.of_catalog {a a' : PlaybackActor} (h : a'.catalog = a.catalog) :
    SameModes a a' := by
  constructor
  · rw [h]
  · rw [h]

theorem sameModes_liveStep {a a' : PlaybackActor} {label : LiveLabel}
    (h : LiveStep a a' label) :
    SameModes a a' ∨ ∃ catalog, label = .adopted catalog ∧ a'.catalog = catalog := by
  cases h with
  | idle _ hcatalog | command _ _ hcatalog | opened _ hcatalog | registered _ _ _ _ hcatalog
  | refreshed _ hcatalog | disconnected _ _ _ _ hcatalog => exact .inl (.of_catalog hcatalog)
  | adopted _ _ hcatalog => exact .inr ⟨_, rfl, hcatalog⟩

variable {Text : Type}

theorem sameModes_turn (codec : JsonCodec Text) (config : PlaybackActorConfig) (w : World Text)
    {t : Turn} (hspares : t.sparesModes = true) :
    SameModes w.actor (w.turn codec config t).1.actor := by
  rcases World.turn_live codec config w t with hidle | ⟨label, hperforms, hlabel⟩
  · rcases sameModes_liveStep hidle with hsame | ⟨catalog, hlabel, -⟩
    · exact hsame
    · cases hlabel
  · rcases sameModes_liveStep hlabel with hsame | ⟨catalog, rfl, hcatalog⟩
    · exact hsame
    · cases hperforms with
      | adopted | adoptedModes => cases hspares
      | adoptedTracks generation tracks draw =>
        constructor
        · rw [hcatalog]
        · rw [hcatalog]

theorem sameModes_execute (codec : JsonCodec Text) (w : World Text)
    (resolved : ResolvedPlaybackCommand) (draw : Draw) :
    SameModes w.actor (w.execute codec resolved draw).1.actor := by
  rcases World.execute_live codec w resolved draw with hstep | hstep
  · rcases sameModes_liveStep hstep with hsame | ⟨catalog, hlabel, -⟩
    · exact hsame
    · cases hlabel
  · rcases sameModes_liveStep hstep with hsame | ⟨catalog, hlabel, -⟩
    · exact hsame
    · cases hlabel

theorem sameModes_snapshot (w : World Text) (draw : Draw) :
    SameModes w.actor (Room.snapshot w draw).1.actor := by
  unfold Room.snapshot
  split <;> exact ⟨rfl, rfl⟩

/-! ## Steps of the room -/

variable {id : RequestId}
variable {room : Room Text}

/-- A room stays coherent where the coordinator and the modes of the owner stay, and one
request moves on. -/
theorem coherent_update (h : room.Coherent) {owner : World Text}
    (hsame : SameModes room.owner.actor owner.actor) (hr : r.Faithful room.coordinator) :
    (({ room with owner } : Room Text).update id r).Coherent := by
  refine ⟨hsame.generation.trans h.generation, hsame.modes.trans h.references, h.current, ?_⟩
  intro id' r' hr'
  unfold Room.update at hr'
  simp only [Std.ExtTreeMap.getElem?_insert] at hr'
  split at hr'
  · cases hr'
    exact hr
  · exact h.requests id' r' hr'

theorem issued_next {next : ModeCatalog} {modes : BTreeMap String ModeBundle}
    (hidle : coordinator.accepted = none) (hnext : coordinator.next modes = some next)
    (h : coordinator.Issued catalog) :
    ({ coordinator with accepted := some next } : ModeCoordinator).Issued catalog := by
  have hdocuments : coordinator.documents = coordinator.current := by
    unfold ModeCoordinator.documents
    rw [hidle]
    rfl
  have hgeneration : next.generation = catalogGeneration coordinator.current + 1 := by
    unfold ModeCoordinator.next at hnext
    obtain ⟨generation, hincrement, rfl⟩ := Option.map_eq_some_iff.mp hnext
    exact checkedIncrement_eq_some hincrement
  have holder : catalog.generation < next.generation := by
    have hle := h.1
    rw [hdocuments] at hle
    omega
  constructor
  · exact Nat.le_of_lt holder
  · intro heq
    exact absurd heq (Nat.ne_of_lt holder)

variable {codec : JsonCodec Text}

theorem coherent_publish (h : room.Coherent) {modes : BTreeMap String ModeBundle} {draw : Draw}
    {published : ModeCoordinator × World Text}
    (hpublish : room.coordinator.publish codec room.owner modes draw = some published) :
    ({ room with coordinator := published.1, owner := published.2 } : Room Text).Coherent := by
  unfold ModeCoordinator.publish at hpublish
  split at hpublish
  · cases hpublish
  next hidle =>
  have hidle : room.coordinator.accepted = none := by
    rw [not_or] at hidle
    exact Option.not_isSome_iff_eq_none.mp hidle.2
  split at hpublish
  · cases hpublish
    exact ⟨h.generation, h.references, h.current, h.requests⟩
  next next hnext =>
  split at hpublish
  · next owner result hreplaced =>
    cases hpublish
    obtain ⟨hgeneration, hmodes⟩ := replaceModeCatalog_accepted hreplaced
    refine ⟨hgeneration, hmodes, ?_, ?_⟩
    · intro catalog hcurrent
      exact issued_next hidle hnext (h.current catalog hcurrent)
    · intro id r hr state catalog command generation hprogress
      obtain ⟨hissued, hresolved⟩ := h.requests id r hr state catalog command generation hprogress
      exact ⟨issued_next hidle hnext hissued, hresolved⟩
  · next owner error hreplaced =>
    split at hpublish
    · cases hpublish
    · cases hpublish
      have hcatalog := replaceModeCatalog_refused hreplaced
      refine ⟨?_, ?_, h.current, h.requests⟩
      · rw [hcatalog]
        exact h.generation
      · rw [hcatalog]
        exact h.references

theorem coherent_announce (h : room.Coherent)
    (hannounce : room.coordinator.announce = some coordinator) :
    ({ room with coordinator } : Room Text).Coherent := by
  obtain ⟨next, haccepted, rfl⟩ := Option.map_eq_some_iff.mp hannounce
  have hdocuments : room.coordinator.documents = some next := by
    unfold ModeCoordinator.documents
    rw [haccepted]
    rfl
  refine ⟨?_, ?_, ?_, ?_⟩
  · rw [h.generation, hdocuments]
    rfl
  · rw [h.references, hdocuments]
    rfl
  · rintro catalog ⟨⟩
    exact ⟨le_refl _, fun _ => rfl⟩
  · intro id r hr state catalog command generation hprogress
    obtain ⟨hissued, hresolved⟩ := h.requests id r hr state catalog command generation hprogress
    unfold ModeCoordinator.Issued at hissued
    rw [hdocuments] at hissued
    exact ⟨hissued, hresolved⟩

/-- What a submission does: the owner executes the command of the request, and the
request takes its answer. -/
theorem submit_eq_some {room' : Room Text} {draw : Draw}
    (h : room.submit codec id draw = some room') :
    ∃ (r : InFlight) (state : Option PlaybackState) (catalog : ModeCatalog)
      (command : PlaybackCommand) (generation : CatalogGeneration),
      room.requests[id]? = some r ∧ r.progress = .resolved state catalog command generation ∧
        room' =
          let turn := room.owner.execute codec (.atGeneration command generation) draw
          { room with owner := turn.1 }.update id (r.answered state turn.2) := by
  unfold Room.submit at h
  split at h
  · cases h
  next r hr =>
  split at h
  · next state catalog command generation hprogress =>
    dsimp only at h
    split at h
    · cases h
    · cases h
      exact ⟨r, state, catalog, command, generation, hr, hprogress, rfl⟩
  · cases h

variable {config : PlaybackActorConfig}

theorem coherent_step {room' : Room Text} {label : RoomLabel} (h : room.Coherent)
    (hstep : (roomSystem codec config).step room label room') :
    room'.Coherent := by
  change room.exec codec config label = some room' at hstep
  cases label with
  | owner turn =>
    have hsame := sameModes_turn codec config room.owner (t := turn)
    simp only [Room.exec] at hstep
    split at hstep
    · next owner hturn =>
      split at hstep
      · next hspares =>
        cases hstep
        rw [hturn] at hsame
        have hsame := hsame hspares
        exact ⟨hsame.generation.trans h.generation, hsame.modes.trans h.references, h.current,
          h.requests⟩
      · cases hstep
    · cases hstep
  | publish modes draw =>
    obtain ⟨published, hpublish, rfl⟩ := Option.map_eq_some_iff.mp hstep
    exact coherent_publish h hpublish
  | announce =>
    obtain ⟨coordinator, hannounce, rfl⟩ := Option.map_eq_some_iff.mp hstep
    exact coherent_announce h hannounce
  | arrive id request =>
    simp only [Room.exec] at hstep
    split at hstep
    · cases hstep
    · cases hstep
      exact coherent_update h (.of_catalog rfl)
        (faithful_of_unresolved (fun _ _ _ _ hprogress => nomatch hprogress))
  | observe id draw =>
    simp only [Room.exec, Room.observe] at hstep
    split at hstep
    · cases hstep
    split at hstep
    · split at hstep
      · cases hstep
        exact coherent_update h (sameModes_snapshot room.owner draw) observe_faithful
      · cases hstep
    · cases hstep
      exact coherent_update h (sameModes_snapshot room.owner draw) observe_faithful
    · cases hstep
  | resolve id reads =>
    simp only [Room.exec, Room.resolve] at hstep
    split at hstep
    · cases hstep
    split at hstep
    · split at hstep
      · cases hstep
      · cases hstep
        exact coherent_update h (.of_catalog rfl) (resolve_faithful h.current none reads)
    · cases hstep
      exact coherent_update h (.of_catalog rfl) (resolve_faithful h.current _ reads)
    · cases hstep
  | submit id draw =>
    obtain ⟨r, state, catalog, command, generation, -, -, rfl⟩ := submit_eq_some hstep
    exact coherent_update h (sameModes_execute codec room.owner _ draw)
      (answered_faithful r room.coordinator state _)

theorem coherent_init (h : (roomSystem codec config).init room) : room.Coherent := by
  obtain ⟨⟨row, draw, hstart⟩, hcoordinator, hrequests⟩ := h
  obtain ⟨-, hcatalog, -⟩ := start_live hstart
  refine ⟨?_, ?_, ?_, ?_⟩
  · rw [hcatalog, hcoordinator]
    rfl
  · rw [hcatalog, hcoordinator]
    rfl
  · intro catalog hcurrent
    rw [hcoordinator] at hcurrent
    cases hcurrent
  · intro id r hr
    rw [hrequests] at hr
    simp at hr

/-- In every state of a room, a command in flight whose generation the owner has not left
was resolved against the documents the owner holds. -/
theorem resolved_documents (h : room.Coherent) (hr : room.requests[id]? = some r)
    {generation : CatalogGeneration}
    (hprogress : r.progress = .resolved state catalog command generation)
    (hcurrent : generation = room.owner.actor.catalog.generation) :
    room.coordinator.documents = some catalog := by
  obtain ⟨hissued, hgeneration, -⟩ := h.requests id r hr state catalog command generation hprogress
  apply hissued.2
  rw [← hgeneration, hcurrent]
  exact h.generation

/-! ## Selecting presets -/

/-- The crossfade that is in force once some presets are selected in a mode: that of the
last one that sets one there, or the one in force before. -/
def Room.crossfadeIn {Text : Type} (room : Room Text) (modeId : Option String)
    (presetIds : List String) : ℕ :=
  ((room.coordinator.documents.bind (·.activeMode modeId)).bind
    (·.lastCrossfade presetIds)).getD room.owner.actor.state.crossfadeMs

/-- The step applies the presets a request has selected, out of a state with the active
mode `observedModeId`. -/
inductive Room.AppliesPresets {Text : Type} (room room' : Room Text) :
    RoomLabel → List String → Option String → Prop where
  | submit {id : RequestId} {draw : Draw} {r r' : InFlight} {presetIds : List String}
      {observed : PlaybackState} {catalog : ModeCatalog} {command : PlaybackCommand}
      {generation : CatalogGeneration} (hr : room.requests[id]? = some r)
      (hrequest : r.request = .setActivePresets presetIds)
      (hprogress : r.progress = .resolved (some observed) catalog command generation)
      (hr' : room'.requests[id]? = some r') (hdone : r'.progress = .done (.ok ())) :
      AppliesPresets room room' (.submit id draw) presetIds observed.activeModeId

theorem retry_not_done (r : InFlight) : r.retry.progress ≠ .done (.ok ()) := by
  unfold InFlight.retry
  split
  · intro h
    cases h
  · intro h
    cases h

theorem answered_done {outcome : Except PlaybackActorError PlaybackCommandResult}
    (h : (r.answered state outcome).progress = .done (.ok ())) :
    ∃ result, outcome = .ok result := by
  unfold InFlight.answered at h
  split at h
  · next result => exact ⟨result, rfl⟩
  · exact absurd h (retry_not_done r)
  · unfold InFlight.refused at h
    split at h
    · cases h
    · cases h
    · exact absurd h (retry_not_done r)
    · cases h
    · cases h
    · cases h
    · split at h
      · cases h
      · exact absurd h (retry_not_done r)
  · cases h

variable {presetIds : List String}

theorem setActivePresets_unchanged {s : PlaybackState} {crossfadeMs : Option ℕ}
    (h : (setActivePresets s presetIds crossfadeMs).2 = false) :
    crossfadeMs.getD s.crossfadeMs = s.crossfadeMs := by
  unfold setActivePresets at h
  simp only at h
  split at h
  · next milliseconds =>
    split at h
    · cases h
    · next hsame =>
      rw [bne_iff_ne, not_not] at hsame
      exact hsame.symm
  · rfl

theorem crossfade_withOutputPolicy (catalog : CatalogSnapshot) (reduction : Reduction) :
    (withOutputPolicy catalog reduction).nextState.crossfadeMs =
      reduction.nextState.crossfadeMs := by
  unfold withOutputPolicy
  split
  · rfl
  · unfold PlaybackState.applyOutputPolicy
    simp only
    split <;> rfl

theorem execute_setActivePresets {w w' : World Text} {crossfadeMs : Option ℕ}
    {generation : CatalogGeneration} {draw : Draw} {result : PlaybackCommandResult}
    (h : w.execute codec (.atGeneration (.setActivePresets presetIds crossfadeMs) generation)
      draw = (w', .ok result)) :
    generation = w.actor.catalog.generation ∧
      w'.actor.state.crossfadeMs = crossfadeMs.getD w.actor.state.crossfadeMs := by
  unfold World.execute at h
  split at h
  · cases h
  next sample reduction hadmission =>
  obtain ⟨hresolved, -, -, r, hr, rfl⟩ := decideCommand_eq_ok hadmission
  have hgeneration : generation = w.actor.catalog.generation := by
    simp only [validateResolvedCommand, commandRequiresCatalog, if_true,
      ResolvedPlaybackCommand.atGeneration] at hresolved
    split at hresolved
    · next hsame => exact hsame
    · cases hresolved
  refine ⟨hgeneration, ?_⟩
  have hnext : r.nextState.crossfadeMs = crossfadeMs.getD w.actor.state.crossfadeMs :=
    congrArg Setup.crossfadeMs (reduce_setup hr)
  obtain ⟨r', hr', rfl⟩ := reduce_eq_ok.mp hr
  cases hr'
  obtain ⟨-, -, hpolicy, hpersistence⟩ := lanes_withOutputPolicy w.actor.catalog
    (Reduction.durable (setActivePresets w.actor.state presetIds crossfadeMs) []).settle
  cases hchanged : (setActivePresets w.actor.state presetIds crossfadeMs).2 with
  | false =>
    -- Nothing is stored, and nothing had to be.
    have hsettled : (Reduction.durable (setActivePresets w.actor.state presetIds crossfadeMs)
        []).settle.persistence = .none := by
      simp only [Reduction.settle, Reduction.durable, hchanged, Bool.not_false, Bool.true_and,
        List.isEmpty_nil, if_true]
    unfold World.commit at h
    rw [hpersistence, hsettled] at h
    cases h
    exact (setActivePresets_unchanged hchanged).symm
  | true =>
    have hsettled : (Reduction.durable (setActivePresets w.actor.state presetIds crossfadeMs)
        []).settle = Reduction.durable (setActivePresets w.actor.state presetIds crossfadeMs)
          [] := by
      simp only [Reduction.settle, Reduction.durable, hchanged, Bool.not_true, Bool.false_and,
        Bool.false_eq_true, if_false]
    rw [hsettled] at h hpolicy hpersistence hnext
    obtain ⟨hstate, -⟩ := commit_stored h hpersistence (hpolicy hchanged)
    rw [show w'.actor.state = _ from hstate]
    exact (crossfade_withOutputPolicy _ _).trans hnext

theorem resolve_setActivePresets {observed : PlaybackState} {reads : CatalogReads}
    (h : (CatalogRequest.setActivePresets presetIds).resolve (some observed) (some catalog) reads =
      .ok (some (command, catalog))) :
    command = .setActivePresets presetIds
      ((catalog.activeMode observed.activeModeId).bind (·.lastCrossfade presetIds)) := by
  obtain ⟨catalog, hcatalog, h⟩ := bind_eq_ok.mp h
  cases hcatalog
  obtain ⟨resolved, hresolved, h⟩ := bind_eq_ok.mp h
  cases h
  change resolvePresets _ presetIds = _ at hresolved
  unfold resolvePresets crossfadeU32 at hresolved
  dsimp only at hresolved
  split at hresolved
  · split at hresolved
    · next hnone =>
      cases hresolved
      rw [hnone]
    · next milliseconds hsome =>
      split at hresolved
      · cases hresolved
        rw [hsome]
      · cases hresolved
  · cases hresolved

/-- What a step that applies presets puts in force: the crossfade of the mode the request
has observed, in the documents the owner holds. -/
theorem crossfade_of_appliesPresets {room' : Room Text} {label : RoomLabel} (h : room.Coherent)
    (hstep : (roomSystem codec config).step room label room') {observedModeId : Option String}
    (happlies : room.AppliesPresets room' label presetIds observedModeId) :
    room'.owner.actor.state.crossfadeMs = room.crossfadeIn observedModeId presetIds := by
  obtain ⟨hr, hrequest, hprogress, hr', hdone⟩ := happlies
  next id draw r r' observed catalog command generation =>
  obtain ⟨_, _, _, _, _, hsubmitted, hresolved, rfl⟩ := submit_eq_some hstep
  rw [hr] at hsubmitted
  cases hsubmitted
  rw [hprogress] at hresolved
  cases hresolved
  simp only [Room.update, Std.ExtTreeMap.getElem?_insert_self, Option.some.injEq] at hr'
  rw [← hr'] at hdone
  obtain ⟨result, hresult⟩ := answered_done hdone
  obtain ⟨-, -, reads, hresolve⟩ := h.requests id r hr _ _ _ _ hprogress
  rw [hrequest] at hresolve
  have hcommand := resolve_setActivePresets hresolve
  subst hcommand
  have hexecute : room.owner.execute codec (.atGeneration (.setActivePresets presetIds
      ((catalog.activeMode observed.activeModeId).bind (·.lastCrossfade presetIds))) generation)
      draw = (_, .ok result) := Prod.ext rfl hresult
  obtain ⟨hgeneration, hcrossfade⟩ := execute_setActivePresets hexecute
  have hdocuments := resolved_documents h hr hprogress hgeneration
  rw [Room.crossfadeIn, hdocuments]
  exact hcrossfade

/-- **Preset selection**: a run installs the crossfade of the mode that is active whenever
it applies selected presets, exactly when these presets bring the same crossfade in the
mode that was active when their request read the playback state. -/
theorem presets_crossfade_iff {Text : Type} {codec : JsonCodec Text}
    {config : PlaybackActorConfig} {room₀ : Room Text} {run : List (RoomLabel × Room Text)}
    (hstart : (roomSystem codec config).init room₀)
    (hrun : (roomSystem codec config).IsRun room₀ run) :
    (∀ t ∈ System.steps room₀ run, ∀ presetIds observedModeId,
        t.1.AppliesPresets t.2.2 t.2.1 presetIds observedModeId →
        t.2.2.owner.actor.state.crossfadeMs =
          t.1.crossfadeIn t.1.owner.actor.state.activeModeId presetIds) ↔
      ∀ t ∈ System.steps room₀ run, ∀ presetIds observedModeId,
        t.1.AppliesPresets t.2.2 t.2.1 presetIds observedModeId →
        t.1.crossfadeIn observedModeId presetIds =
          t.1.crossfadeIn t.1.owner.actor.state.activeModeId presetIds := by
  have hcoherent : ∀ t ∈ System.steps room₀ run, t.1.Coherent := by
    intro t ht
    have hreachable := hrun.reachable (.init hstart) t.1 (System.source_mem_states t ht)
    refine hreachable.invariant (P := Room.Coherent) ?_ ?_
    · intro room hinit
      exact coherent_init hinit
    · intro room label room' h hstep
      exact coherent_step h hstep
  have hinstalled : ∀ t ∈ System.steps room₀ run, ∀ presetIds observedModeId,
      t.1.AppliesPresets t.2.2 t.2.1 presetIds observedModeId →
      t.2.2.owner.actor.state.crossfadeMs = t.1.crossfadeIn observedModeId presetIds := by
    intro t ht presetIds observedModeId happlies
    exact crossfade_of_appliesPresets (hcoherent t ht) (hrun.step_of_mem t ht) happlies
  constructor
  · intro h t ht presetIds observedModeId happlies
    rw [← hinstalled t ht presetIds observedModeId happlies]
    exact h t ht presetIds observedModeId happlies
  · intro h t ht presetIds observedModeId happlies
    rw [hinstalled t ht presetIds observedModeId happlies]
    exact h t ht presetIds observedModeId happlies

/-! ## A mode switch between resolution and submission -/

def freshRoom : Room PersistedPlaybackState := ⟨freshWorld, .default, ∅⟩

theorem freshRoom_init : (roomSystem documentCodec .default).init freshRoom :=
  ⟨freshWorld_init, rfl, rfl⟩

/-- The run of the concrete room over some steps. -/
def roomRun (labels : List RoomLabel) : List (RoomLabel × Room PersistedPlaybackState) :=
  System.replay (Room.exec documentCodec .default) freshRoom labels

theorem roomRun_isRun (labels : List RoomLabel) :
    (roomSystem documentCodec .default).IsRun freshRoom (roomRun labels) :=
  System.isRun_replay (fun _ _ _ h => h) freshRoom labels

/-- Where the concrete room ends up after some steps. -/
def roomAfter (labels : List RoomLabel) : Room PersistedPlaybackState :=
  System.finish freshRoom (roomRun labels)

theorem roomAfter_reachable (labels : List RoomLabel) :
    (roomSystem documentCodec .default).Reachable (roomAfter labels) :=
  (roomRun_isRun labels).reachable (.init freshRoom_init) _ (System.finish_mem_states _ _)

/-- A mode with one preset, `calm`, that sets the crossfade. -/
def calmMode (crossfadeMs : ℕ) : ModeBundle where
  manifest := ⟨false⟩
  soundboards := ∅
  cues := ∅
  presets := (∅ : BTreeMap String PresetDocument).insert "calm"
    ⟨some "calm", "Calm", none, [], some crossfadeMs, ∅⟩

def quietReads : CatalogReads where
  libraryBefore := 0
  library := 0
  tracks := none
  playlists := .ok []
  playlistTracks _ := .ok []

/-- A request from its arrival to its resolution. -/
def resolvedRequest (id : RequestId) (request : CatalogRequest) : List RoomLabel :=
  [.arrive id request, .observe id (drawAt 0), .resolve id quietReads]

/-- The presets are resolved in one mode; then another client switches to the other. -/
def switchedLabels : List RoomLabel :=
  [.publish (((∅ : BTreeMap String ModeBundle).insert "camp" (calmMode 500)).insert "cave"
      (calmMode 4000)) (drawAt 0), .announce] ++
    resolvedRequest 1 (.setActiveMode (some "camp")) ++ [.submit 1 (drawAt 0)] ++
    resolvedRequest 2 (.setActivePresets ["calm"]) ++
    resolvedRequest 3 (.setActiveMode (some "cave")) ++ [.submit 3 (drawAt 0)]

theorem appliesPresets_of_submit {room' : Room Text} {draw : Draw} {observedModeId : Option String}
    (hbefore : room.requests[id]?.any (fun r => r.request == .setActivePresets presetIds &&
      match r.progress with
      | .resolved (some observed) _ _ _ => observed.activeModeId == observedModeId
      | _ => false) = true) (hafter : room'.requests[id]?.any (fun r =>
      match r.progress with
      | .done (.ok ()) => true
      | _ => false) = true) :
    room.AppliesPresets room' (.submit id draw) presetIds observedModeId := by
  obtain ⟨r, hr, hresolved⟩ := (Option.any_eq_true _ _).mp hbefore
  obtain ⟨r', hr', hdone⟩ := (Option.any_eq_true _ _).mp hafter
  rw [Bool.and_eq_true, beq_iff_eq] at hresolved
  obtain ⟨hrequest, hresolved⟩ := hresolved
  split at hresolved
  · next hprogress =>
    rw [← beq_iff_eq.mp hresolved]
    split at hdone
    · next hfinished => exact .submit hr hrequest hprogress hr' hfinished
    · cases hdone
  · cases hresolved

theorem switched_submits : ((roomAfter switchedLabels).exec documentCodec .default
    (.submit 2 (drawAt 0))).isSome = true := by
  decide +kernel

/-- The room once the presets are submitted. -/
def submittedRoom : Room PersistedPlaybackState :=
  ((roomAfter switchedLabels).exec documentCodec .default (.submit 2 (drawAt 0))).get
    switched_submits

theorem submittedRoom_step : (roomSystem documentCodec .default).step (roomAfter switchedLabels)
    (.submit 2 (drawAt 0)) submittedRoom :=
  (Option.some_get switched_submits).symm

theorem submittedRoom_applies : (roomAfter switchedLabels).AppliesPresets submittedRoom
    (.submit 2 (drawAt 0)) ["calm"] (some "camp") :=
  appliesPresets_of_submit (by decide +kernel) (by decide +kernel)

/-- The presets bring the crossfade of the mode that was left. -/
theorem selected_presets_not_of_activeMode :
    ¬ ∀ room label room' presetIds observedModeId,
      (roomSystem documentCodec .default).Reachable room →
      (roomSystem documentCodec .default).step room label room' →
      room.AppliesPresets room' label presetIds observedModeId →
      room'.owner.actor.state.crossfadeMs =
        room.crossfadeIn room.owner.actor.state.activeModeId presetIds := by
  intro h
  have hinstalled : submittedRoom.owner.actor.state.crossfadeMs = 500 := by decide +kernel
  have hactive : (roomAfter switchedLabels).crossfadeIn
      (roomAfter switchedLabels).owner.actor.state.activeModeId ["calm"] = 4000 := by
    decide +kernel
  have hcrossfade := h _ _ _ _ _ (roomAfter_reachable switchedLabels) submittedRoom_step
    submittedRoom_applies
  rw [hinstalled, hactive] at hcrossfade
  omega

theorem presets_crossfade_iff_switched :
    (roomRun (switchedLabels ++ [.submit 2 (drawAt 0)])).length = 14 ∧
      ((∀ t ∈ System.steps freshRoom (roomRun (switchedLabels ++ [.submit 2 (drawAt 0)])),
          ∀ presetIds observedModeId, t.1.AppliesPresets t.2.2 t.2.1 presetIds observedModeId →
          t.2.2.owner.actor.state.crossfadeMs =
            t.1.crossfadeIn t.1.owner.actor.state.activeModeId presetIds) ↔
        ∀ t ∈ System.steps freshRoom (roomRun (switchedLabels ++ [.submit 2 (drawAt 0)])),
          ∀ presetIds observedModeId, t.1.AppliesPresets t.2.2 t.2.1 presetIds observedModeId →
          t.1.crossfadeIn observedModeId presetIds =
            t.1.crossfadeIn t.1.owner.actor.state.activeModeId presetIds) :=
  ⟨by decide +kernel, presets_crossfade_iff freshRoom_init (roomRun_isRun _)⟩

end MusicServer
