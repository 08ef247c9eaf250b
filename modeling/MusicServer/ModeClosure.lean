/-
# What a session refers to in the active mode

The mode part of a pruning takes out of the state what the active mode does not have: the
mode itself, its soundboard, its presets, and the loops that play its items.  Every
command that is checked against the catalog brings in references of the active mode only,
and a mode switch clears the soundboard and the presets; it leaves the loops running.

The main result, `modes_closed_iff`, says that a run stays closed, so that pruning with
the catalog at hand changes nothing, exactly when every loop that runs through a mode
switch plays an item of the new mode as well.
-/
import MusicServer.OutputMembership

namespace MusicServer

open Transition (System)

/-! ## Closed setups -/

/-- The active mode of a setup, where the modes have it. -/
def Setup.mode (d : Setup) (modes : BTreeMap String CatalogMode) : Option CatalogMode :=
  d.activeModeId.bind fun modeId => modes[modeId]?

/-- What is set up belongs to the active mode. -/
structure Setup.ReferencesClosed (d : Setup) (modes : BTreeMap String CatalogMode) : Prop where
  mode : ∀ modeId, d.activeModeId = some modeId → modeId ∈ modes
  soundboard : ∀ soundboardId, d.activeSoundboardId = some soundboardId →
    (d.mode modes).any (·.soundboardItems.contains soundboardId) = true
  presets : ∀ presetId ∈ d.activePresetIds,
    (d.mode modes).any (·.presetIds.contains presetId) = true
  loops : ∀ loopingSfx ∈ d.loopingSfx,
    (d.mode modes).any (·.itemValid loopingSfx.soundboardId loopingSfx.itemPath) = true

structure Setup.ModeClosed (d : Setup) (modes : BTreeMap String CatalogMode) : Prop where
  references : d.ReferencesClosed modes
  policy : d.FollowsPolicy (some modes)
  single : d.Single

/-! ## Pruning as a fixed point -/

theorem pruneActiveMode_quiet_iff (s : PlaybackState) (modes : BTreeMap String CatalogMode) :
    (pruneActiveMode s modes).2 = false ↔
      ∀ modeId, s.activeModeId = some modeId → modeId ∈ modes := by
  unfold pruneActiveMode
  cases s.activeModeId with
  | none => simp
  | some modeId =>
    rw [Option.any_some]
    by_cases hknown : modeId ∈ modes
    · have hcontains : modes.contains modeId = true := hknown
      simp [hcontains, hknown]
    · have hcontains : modes.contains modeId = false := by
        rw [Bool.eq_false_iff]
        exact hknown
      simp [hcontains, hknown]

theorem filter_length_eq_iff {α : Type} {p : α → Bool} {l : List α} :
    (l.length != (l.filter p).length) = false ↔ ∀ a ∈ l, p a = true := by
  rw [bne_eq_false_iff_eq, eq_comm]
  exact List.length_filter_eq_length_iff

theorem pruneModeReferences_quiet_iff (s : PlaybackState) (mode : Option CatalogMode) :
    (pruneModeReferences s mode).2 = false ↔
      (∀ soundboardId, s.activeSoundboardId = some soundboardId →
        mode.any (·.soundboardItems.contains soundboardId) = true) ∧
      (∀ presetId ∈ s.activePresetIds, mode.any (·.presetIds.contains presetId) = true) ∧
      ∀ loopingSfx ∈ s.loopingSfx,
        mode.any (·.itemValid loopingSfx.soundboardId loopingSfx.itemPath) = true := by
  have hsoundboard : (s.activeSoundboardId.any fun soundboardId =>
        mode.all fun mode => !mode.soundboardItems.contains soundboardId) = false ↔
      ∀ soundboardId, s.activeSoundboardId = some soundboardId →
        mode.any (·.soundboardItems.contains soundboardId) = true := by
    cases s.activeSoundboardId with
    | none => simp
    | some soundboardId => cases mode <;> simp
  unfold pruneModeReferences
  simp only [Bool.or_eq_false_iff]
  rw [hsoundboard, filter_length_eq_iff, filter_length_eq_iff, and_assoc]

theorem applyOutputPolicy_quiet_iff (s : PlaybackState) (multipleOutputs : Bool) :
    (s.applyOutputPolicy multipleOutputs).2 = false ↔
      s.multipleOutputs = multipleOutputs ∧ s.setup.Single := by
  unfold PlaybackState.applyOutputPolicy
  simp only
  split
  · next hmany =>
    rw [Bool.and_eq_true, Bool.not_eq_true', decide_eq_true_eq] at hmany
    refine iff_of_false (fun hquiet => nomatch hquiet) ?_
    rintro ⟨hsame, hsingle⟩
    have hlength := hsingle (show s.multipleOutputs = false by rw [hsame, hmany.1])
    have hlength : s.activeOutputDeviceIds.length ≤ 1 := hlength
    omega
  · next hfew =>
    rw [bne_eq_false_iff_eq]
    refine ⟨fun hsame => ⟨hsame, ?_⟩, fun h => h.1⟩
    intro hsingle
    rw [Bool.and_eq_true, Bool.not_eq_true', decide_eq_true_eq, not_and, ← hsame] at hfew
    exact Nat.le_of_not_lt (hfew hsingle)

theorem pruneModes_noop_iff (s : PlaybackState) (modes : BTreeMap String CatalogMode) :
    pruneModes s (some modes) = (s, false) ↔ s.setup.ModeClosed modes := by
  have hquiet : pruneModes s (some modes) = (s, false) ↔
      (pruneModes s (some modes)).2 = false := by
    constructor
    · intro h
      rw [h]
    · intro h
      exact Prod.ext (pruneModes_unchanged h) h
  rw [hquiet]
  simp only [pruneModes, Bool.or_eq_false_iff]
  constructor
  · rintro ⟨⟨hmode, hreferences⟩, hpolicy⟩
    rw [pruneActiveMode_unchanged hmode] at hreferences hpolicy
    rw [pruneModeReferences_unchanged hreferences] at hpolicy
    obtain ⟨hsoundboard, hpresets, hloops⟩ := (pruneModeReferences_quiet_iff _ _).mp hreferences
    obtain ⟨hsame, hsingle⟩ := (applyOutputPolicy_quiet_iff _ _).mp hpolicy
    refine ⟨⟨(pruneActiveMode_quiet_iff s modes).mp hmode, hsoundboard, hpresets, hloops⟩, ?_,
      hsingle⟩
    rintro _ ⟨⟩
    exact hsame
  · intro h
    have hmode := (pruneActiveMode_quiet_iff s modes).mpr h.references.mode
    have hreferences := (pruneModeReferences_quiet_iff s (activeMode s modes)).mpr
      ⟨h.references.soundboard, h.references.presets, h.references.loops⟩
    have hpolicy := (applyOutputPolicy_quiet_iff s (activeModeAllowsMultipleOutputs s modes)).mpr
      ⟨h.policy modes rfl, h.single⟩
    rw [pruneActiveMode_unchanged hmode, pruneModeReferences_unchanged hreferences]
    exact ⟨⟨hmode, hreferences⟩, hpolicy⟩

variable {modes : BTreeMap String CatalogMode}

theorem closed_applyOutputPolicy {s : PlaybackState} (h : s.setup.ReferencesClosed modes) :
    (s.applyOutputPolicy (activeModeAllowsMultipleOutputs s modes)).1.setup.ModeClosed
      modes := by
  refine ⟨?_, followsPolicy_applyOutputPolicy s modes, single_applyOutputPolicy s _⟩
  unfold PlaybackState.applyOutputPolicy
  simp only
  split <;> exact ⟨h.mode, h.soundboard, h.presets, h.loops⟩

theorem pruneModes_closed (s : PlaybackState) (modes : BTreeMap String CatalogMode) :
    (pruneModes s (some modes)).1.setup.ModeClosed modes := by
  have hmode : ∀ modeId, (pruneActiveMode s modes).1.activeModeId = some modeId →
      modeId ∈ modes := by
    intro modeId hmodeId
    unfold pruneActiveMode at hmodeId
    split at hmodeId
    · cases hmodeId
    · next hknown =>
      rw [hmodeId, Option.any_some, Bool.not_eq_true', Bool.not_eq_false] at hknown
      exact hknown
  apply closed_applyOutputPolicy
  refine ⟨hmode, ?_, ?_, ?_⟩
  · intro soundboardId hsoundboard
    change (if _ then none else _) = some soundboardId at hsoundboard
    split at hsoundboard
    · cases hsoundboard
    · next hkept =>
      rw [hsoundboard, Option.any_some] at hkept
      change (activeMode (pruneActiveMode s modes).1 modes).any _ = true
      cases hactive : activeMode (pruneActiveMode s modes).1 modes with
      | none =>
        rw [hactive] at hkept
        exact absurd rfl hkept
      | some mode =>
        rw [hactive, Option.all_some, Bool.not_eq_true', Bool.not_eq_false] at hkept
        exact hkept
  · intro presetId hpreset
    exact (List.mem_filter.mp hpreset).2
  · intro loopingSfx hloop
    exact (List.mem_filter.mp hloop).2

variable {catalog : CatalogSnapshot}

theorem pruneForCatalog_modeClosed {s state : PlaybackState} {nowMs : ℕ} {presets changed : Bool}
    (hpruned : pruneForCatalog s catalog nowMs presets = .ok (state, changed))
    (hmodes : catalog.modes = some modes) : state.setup.ModeClosed modes := by
  obtain ⟨revision, hstate, -⟩ := pruneForCatalog_eq hpruned
  rw [hmodes] at hstate
  rw [show state = _ from hstate]
  exact pruneModes_closed (pruneTracks s catalog.tracks nowMs).1 modes

/-! ## Commands -/

theorem mem_of_mem_deduplicate {presetIds : List String} {presetId : String}
    (h : presetId ∈ deduplicate presetIds) : presetId ∈ presetIds := by
  have hfold : ∀ (rest kept : List String),
      presetId ∈ rest.foldl (fun deduplicated presetId =>
        if deduplicated.contains presetId then deduplicated
        else deduplicated ++ [presetId]) kept → presetId ∈ kept ∨ presetId ∈ rest := by
    intro rest
    induction rest with
    | nil => exact fun kept hkept => .inl hkept
    | cons first rest ih =>
      intro kept hkept
      rcases ih _ hkept with hkept | hrest
      · dsimp only at hkept
        split at hkept
        · exact .inl hkept
        · rw [List.mem_append, List.mem_singleton] at hkept
          rcases hkept with hkept | rfl
          · exact .inl hkept
          · exact .inr List.mem_cons_self
      · exact .inr (List.mem_cons_of_mem first hrest)
  exact (hfold presetIds [] h).resolve_left (List.not_mem_nil)

theorem presetsValid_mem {mode : Option CatalogMode} {presetIds : List String}
    (h : CatalogMode.presetsValid mode presetIds = true) :
    ∀ presetId ∈ presetIds, mode.any (·.presetIds.contains presetId) = true := by
  intro presetId hpreset
  unfold CatalogMode.presetsValid at h
  rw [Bool.or_eq_true] at h
  rcases h with hempty | hknown
  · rw [List.isEmpty_iff.mp hempty] at hpreset
    cases hpreset
  · obtain ⟨mode, rfl, hall⟩ := (Option.any_eq_true _ _).mp hknown
    exact List.all_eq_true.mp hall presetId hpreset

/-- An accepted command brings in references of the active mode only.  Where it switches
the mode, the loops that run have to play items of the new one. -/
theorem referencesClosed_apply {s : PlaybackState} (hmodes : catalog.modes = some modes)
    (h : s.setup.ReferencesClosed modes) {command : PlaybackCommand}
    (hvalid : catalogReferencesValid command catalog s = true)
    (hloops : ∀ modeId, command = .setActiveMode modeId → s.activeModeId ≠ modeId →
      ∀ loopingSfx ∈ s.loopingSfx, (modeId.bind fun modeId => modes[modeId]?).any
        (·.itemValid loopingSfx.soundboardId loopingSfx.itemPath) = true) :
    (s.setup.apply command).ReferencesClosed modes := by
  have hactive : catalog.modes.bind (activeMode s) = s.setup.mode modes := by
    rw [hmodes]
    rfl
  cases command with
  | setActiveMode modeId =>
    change (s.setup.switchMode modeId).ReferencesClosed modes
    unfold Setup.switchMode
    split
    · exact h
    · next hswitch =>
      refine ⟨?_, (fun _ hnone => nomatch hnone), (fun _ hnone => nomatch hnone),
        hloops modeId rfl hswitch⟩
      rintro known ⟨⟩
      simp only [catalogReferencesValid, hmodes, Option.any_some] at hvalid
      exact hvalid
  | setActiveSoundboard soundboardId =>
    refine ⟨h.mode, ?_, h.presets, h.loops⟩
    rintro known ⟨⟩
    simp only [catalogReferencesValid, hactive] at hvalid
    exact hvalid
  | setActivePresets presetIds crossfadeMs =>
    simp only [catalogReferencesValid, hactive] at hvalid
    refine ⟨h.mode, h.soundboard, ?_, h.loops⟩
    intro presetId hpreset
    exact presetsValid_mem hvalid presetId (mem_of_mem_deduplicate hpreset)
  | presetsChanged activePresetIds crossfadeMs =>
    refine ⟨h.mode, h.soundboard, ?_, h.loops⟩
    cases activePresetIds with
    | none => exact h.presets
    | some presetIds =>
      simp only [catalogReferencesValid, hactive] at hvalid
      exact presetsValid_mem hvalid
  | fireCue cue =>
    simp only [catalogReferencesValid, Bool.and_eq_true, beq_iff_eq, hmodes] at hvalid
    obtain ⟨hmodeId, hcue⟩ := hvalid
    have hmode : s.setup.mode modes = modes[cue.modeId]? := by
      rw [Setup.mode, show s.setup.activeModeId = some cue.modeId from hmodeId]
      rfl
    obtain ⟨mode, hsome, hcue⟩ := (Option.any_eq_true _ _).mp hcue
    have hmode : s.setup.mode modes = some mode := hmode.trans hsome
    simp only [cueReferencesValid, Bool.and_eq_true] at hcue
    obtain ⟨⟨⟨⟨-, hpreset⟩, -⟩, hcueLoops⟩, -⟩ := hcue
    have hplayed : ∀ loopingSfx ∈ s.setup.loopingSfx.filter (fun loopingSfx =>
          !loopingSfx.id.startsWith (cueLoopPrefix cue.cueId)) ++ cue.loops,
        (s.setup.mode modes).any
          (·.itemValid loopingSfx.soundboardId loopingSfx.itemPath) = true := by
      intro loopingSfx hloop
      rcases List.mem_append.mp hloop with hkept | hnew
      · exact h.loops loopingSfx (List.mem_of_mem_filter hkept)
      · rw [hmode]
        exact List.all_eq_true.mp hcueLoops loopingSfx hnew
    change (s.setup.applyCue cue).ReferencesClosed modes
    unfold Setup.applyCue
    cases hchosen : cue.preset with
    | none => exact ⟨h.mode, h.soundboard, h.presets, hplayed⟩
    | some preset =>
      refine ⟨h.mode, h.soundboard, ?_, hplayed⟩
      intro presetId hpresetId
      have hsame := mem_of_mem_deduplicate hpresetId
      rw [List.mem_singleton] at hsame
      rw [hchosen, Option.all_some] at hpreset
      rw [hsame]
      change (s.setup.mode modes).any _ = true
      rw [hmode]
      exact hpreset
  | startLoop loopingSfx =>
    refine ⟨h.mode, h.soundboard, h.presets, ?_⟩
    intro playing hplaying
    simp only [catalogReferencesValid, hactive] at hvalid
    rcases List.mem_append.mp hplaying with hkept | hnew
    · exact h.loops playing (List.mem_of_mem_filter hkept)
    · rw [List.mem_singleton.mp hnew]
      exact hvalid
  | stopLoop id =>
    refine ⟨h.mode, h.soundboard, h.presets, ?_⟩
    intro playing hplaying
    exact h.loops playing (List.mem_of_mem_filter hplaying)
  | _ => exact ⟨h.mode, h.soundboard, h.presets, h.loops⟩

/-! ## Steps of a session -/

/-- The session is closed in the modes it holds. -/
def PlaybackActor.ModesClosed (a : PlaybackActor) : Prop :=
  ∀ modes, a.catalog.modes = some modes → a.state.setup.ModeClosed modes

theorem pruneModes_noop_iff_modesClosed (a : PlaybackActor) :
    pruneModes a.state a.catalog.modes = (a.state, false) ↔ a.ModesClosed := by
  unfold PlaybackActor.ModesClosed
  cases hmodes : a.catalog.modes with
  | none => exact iff_of_true rfl (fun modes hnone => nomatch hnone)
  | some modes =>
    rw [pruneModes_noop_iff]
    constructor
    · rintro h _ ⟨⟩
      exact h
    · intro h
      exact h modes rfl

/-- Every loop that runs plays an item of the mode, among the modes the owner holds. -/
def PlaybackActor.LoopsFit (a : PlaybackActor) (modeId : Option String) : Prop :=
  ∀ modes, a.catalog.modes = some modes → ∀ loopingSfx ∈ a.state.loopingSfx,
    (modeId.bind fun modeId => modes[modeId]?).any
      (·.itemValid loopingSfx.soundboardId loopingSfx.itemPath) = true

theorem modeClosed_outputs {s : PlaybackState} {command : PlaybackCommand}
    (h : s.setup.ModeClosed modes)
    (hcommand : (∃ deviceId activate, command = .registerDevice deviceId activate) ∨
      ∃ deviceId, command = .removeActiveOutput deviceId) :
    (s.setup.apply command).ModeClosed modes := by
  refine ⟨?_, ?_, h.single.apply command⟩
  · rcases hcommand with ⟨deviceId, activate, rfl⟩ | ⟨deviceId, rfl⟩
    · exact ⟨h.references.mode, h.references.soundboard, h.references.presets,
        h.references.loops⟩
    · exact ⟨h.references.mode, h.references.soundboard, h.references.presets,
        h.references.loops⟩
  · rcases hcommand with ⟨deviceId, activate, rfl⟩ | ⟨deviceId, rfl⟩
    · exact h.policy
    · exact h.policy

variable {resolved : ResolvedPlaybackCommand}

theorem modesClosed_decide {a : PlaybackActor} {draw : Draw} {sample : ClockSample}
    {reduction : Reduction} (hmodes : a.catalog.modes = some modes)
    (h : a.state.setup.ModeClosed modes)
    (hadmission : decideCommand a resolved draw = .ok (sample, reduction))
    (hloops : ∀ modeId, resolved.command = .setActiveMode modeId →
      a.state.activeModeId ≠ modeId → a.LoopsFit modeId) :
    reduction.nextState.setup.ModeClosed modes := by
  obtain ⟨-, -, hreferences, r, hr, rfl⟩ := decideCommand_eq_ok hadmission
  have hsetup := reduce_setup hr
  have hclosed : r.nextState.setup.ReferencesClosed modes := by
    rw [hsetup]
    apply referencesClosed_apply hmodes h.references hreferences
    intro modeId hcommand hswitch
    exact hloops modeId hcommand hswitch modes hmodes
  unfold withOutputPolicy
  rw [hmodes]
  exact closed_applyOutputPolicy hclosed

/-- A step of the session keeps it closed, as long as the loops that run through a mode
switch fit the new mode. -/
theorem modesClosed_step {a a' : PlaybackActor} {label : LiveLabel} (h : a.ModesClosed)
    (hstep : LiveStep a a' label)
    (hloops : ∀ resolved draw modeId, label = .command resolved draw →
      resolved.command = .setActiveMode modeId → a.state.activeModeId ≠ modeId →
      validateResolvedCommand a resolved = .ok () →
      catalogReferencesValid resolved.command a.catalog a.state = true →
      (∃ sample, draw.sample = .ok sample) → a.LoopsFit modeId) : a'.ModesClosed := by
  intro modes hmodes
  cases hstep with
  | idle hstate hcatalog | opened hstate hcatalog | refreshed hstate hcatalog =>
    rw [hcatalog] at hmodes
    rw [hstate]
    exact h modes hmodes
  | @command resolved draw _ _ hadmission hstate hcatalog =>
    rw [hcatalog] at hmodes
    rw [hstate.setup]
    apply modesClosed_decide hmodes (h modes hmodes) hadmission
    intro modeId hcommand hswitch
    obtain ⟨hresolved, -, hreferences, -⟩ := decideCommand_eq_ok hadmission
    obtain ⟨hsample, -⟩ := sample_of_decide hadmission
    exact hloops resolved draw modeId rfl hcommand hswitch hresolved hreferences ⟨_, hsample⟩
  | @registered connectionId registration current sample _ _ _ _ hregistered hstate hcatalog =>
    rw [hcatalog] at hmodes
    rw [hstate.setup]
    obtain ⟨removed, hremoved, heq⟩ := registeredState_eq a.state a'.connections connectionId
      current.registration registration sample
    rw [heq] at hregistered
    obtain ⟨rfl, -⟩ := Prod.mk.inj (Except.ok.inj hregistered)
    rw [registerDevice_setup]
    apply modeClosed_outputs _ (.inl ⟨_, _, rfl⟩)
    rcases hremoved with ⟨rfl, -⟩ | ⟨previous, -, -, rfl⟩
    · exact h modes hmodes
    · exact modeClosed_outputs (h modes hmodes) (.inr ⟨previous.clientId, rfl⟩)
  | @disconnected _ record sample state _ _ _ hdisconnected hstate hcatalog =>
    rw [hcatalog] at hmodes
    rw [hstate.setup]
    obtain ⟨removed, heq, hremoved⟩ := disconnectedState_eq a.state a'.connections
      record.registration sample
    rw [heq] at hdisconnected
    cases hdisconnected
    rcases hremoved with ⟨hkept, -⟩ | ⟨gone, -, hgone⟩
    · rw [show state = a.state from congrArg Prod.fst hkept]
      exact h modes hmodes
    · rw [show state = _ from congrArg Prod.fst hgone]
      exact modeClosed_outputs (h modes hmodes) (.inr ⟨gone.clientId, rfl⟩)
  | adopted hpruned hstate hcatalog =>
    rw [hcatalog] at hmodes
    rw [hstate.setup]
    exact pruneForCatalog_modeClosed hpruned hmodes

variable {config : PlaybackActorConfig}

theorem modesClosed_start {Text : Type} {codec : JsonCodec Text}
    {row : Option (StoredPlaybackSnapshot Text)} {draw : StartDraw} {w : World Text}
    (h : startPlaybackActor codec config row catalog draw = .ok w) :
    w.actor.ModesClosed := by
  obtain ⟨⟨loaded, nowMs, changed, -, hpruned⟩, hcatalog, -⟩ := start_live h
  intro modes hmodes
  rw [hcatalog] at hmodes
  exact pruneForCatalog_modeClosed hpruned hmodes

/-! ## Runs -/

/-- The turn carries no command that switches to another mode, or one the owner refuses,
or one to a mode whose items every loop that runs plays. -/
def Turn.FitsLoops {Text : Type} (w : World Text) : Turn → Prop
  | .message (.execute ⟨.setActiveMode modeId, generation⟩) draw =>
    w.actor.state.activeModeId ≠ modeId →
    validateResolvedCommand w.actor ⟨.setActiveMode modeId, generation⟩ = .ok () →
    catalogReferencesValid (.setActiveMode modeId) w.actor.catalog w.actor.state = true →
    (∃ sample, draw.sample = .ok sample) →
    w.actor.LoopsFit modeId
  | _ => True

theorem performs_setActiveMode {Text : Type} {w : World Text} {t : Turn} {draw : Draw}
    {modeId : Option String} (h : t.Performs config w (.command resolved draw))
    (hfits : t.FitsLoops w) (hcommand : resolved.command = .setActiveMode modeId)
    (hswitch : w.actor.state.activeModeId ≠ modeId)
    (hresolved : validateResolvedCommand w.actor resolved = .ok ())
    (hreferences : catalogReferencesValid resolved.command w.actor.catalog w.actor.state = true)
    (hsample : ∃ sample, draw.sample = .ok sample) : w.actor.LoopsFit modeId := by
  cases h with
  | execute =>
    obtain ⟨command, generation⟩ := resolved
    simp only at hcommand
    subst hcommand
    exact hfits hswitch hresolved hreferences hsample
  | skipNext => cases hcommand
  | advanced sample plan =>
    unfold World.dueCommand at hcommand
    split at hcommand <;> cases hcommand

theorem decide_of_checks {a : PlaybackActor} {draw : Draw} {sample : ClockSample} {r : Reduction}
    (hresolved : validateResolvedCommand a resolved = .ok ())
    (hlive : validateLiveReferences a resolved.command = .ok ())
    (hsample : draw.sample = .ok sample) (hr : reduce a.state resolved.command
      ⟨sample, randomQueueIndex a.state resolved.command draw.random⟩ = .ok r) :
    decideCommand a resolved draw = .ok (sample, withOutputPolicy a.catalog r) := by
  refine bind_eq_ok.mpr ⟨(), hresolved, ?_⟩
  refine bind_eq_ok.mpr ⟨(), hlive, ?_⟩
  refine bind_eq_ok.mpr ⟨sample, hsample, ?_⟩
  simp only [hr]

theorem withOutputPolicy_keeps (catalog : CatalogSnapshot) (reduction : Reduction) :
    (withOutputPolicy catalog reduction).nextState.activeModeId =
        reduction.nextState.activeModeId ∧
      (withOutputPolicy catalog reduction).nextState.loopingSfx =
        reduction.nextState.loopingSfx := by
  unfold withOutputPolicy
  split
  · exact ⟨rfl, rfl⟩
  · unfold PlaybackState.applyOutputPolicy
    simp only
    split <;> exact ⟨rfl, rfl⟩

/-- A mode switch that the owner accepts is live after a turn it survives, with the loops
as they were. -/
theorem setActiveMode_live {Text : Type} {codec : JsonCodec Text} {w w' : World Text}
    {modeId : Option String} {generation : Option CatalogGeneration} {draw : Draw}
    (h : World.survive (w.execute codec ⟨.setActiveMode modeId, generation⟩ draw) = (w', .ok ()))
    (hswitch : w.actor.state.activeModeId ≠ modeId)
    (hresolved : validateResolvedCommand w.actor ⟨.setActiveMode modeId, generation⟩ = .ok ())
    (hreferences : catalogReferencesValid (.setActiveMode modeId) w.actor.catalog w.actor.state =
      true)
    (hsample : ∃ sample, draw.sample = .ok sample) :
    w'.actor.state.activeModeId = modeId ∧ w'.actor.state.loopingSfx = w.actor.state.loopingSfx ∧
      w'.actor.catalog = w.actor.catalog := by
  obtain ⟨sample, hsample⟩ := hsample
  have hlive : validateLiveReferences w.actor (.setActiveMode modeId) = .ok () := by
    unfold validateLiveReferences
    rw [hreferences]
    rfl
  have hswitched : setActiveMode w.actor.state modeId =
      ({ w.actor.state with
        activeModeId := modeId, activePresetIds := [], activeSoundboardId := none }, true) :=
    if_neg hswitch
  let r := Reduction.durable (setActiveMode w.actor.state modeId) []
  have hreduce : reduce w.actor.state (.setActiveMode modeId)
      ⟨sample, randomQueueIndex w.actor.state (.setActiveMode modeId) draw.random⟩ = .ok r := by
    refine reduce_eq_ok.mpr ⟨r, rfl, ?_⟩
    simp only [r, hswitched]
    rfl
  have hadmission : decideCommand w.actor ⟨.setActiveMode modeId, generation⟩ draw =
      .ok (sample, withOutputPolicy w.actor.catalog r) :=
    decide_of_checks hresolved hlive hsample hreduce
  obtain ⟨-, -, hpolicy, hpersistence⟩ := lanes_withOutputPolicy w.actor.catalog r
  unfold World.execute at h
  rw [hadmission] at h
  cases hcommit : w.commit codec sample (withOutputPolicy w.actor.catalog r) draw.store with
  | mk stored outcome =>
    simp only [hcommit] at h
    cases outcome with
    | error error =>
      have hfatal := commit_eq_error hcommit
      simp only [World.survive, hfatal, if_true] at h
      cases h
    | ok result =>
      cases h
      have hchanged : r.changed = true := by
        simp only [r, hswitched]
        rfl
      obtain ⟨hstate, hcatalog⟩ := commit_stored hcommit (hpersistence.trans rfl)
        (hpolicy hchanged)
      have hsetup := hstate.setup
      obtain ⟨hmode, hloops⟩ := withOutputPolicy_keeps w.actor.catalog r
      refine ⟨?_, ?_, hcatalog⟩
      · have hlive := congrArg Setup.activeModeId hsetup
        refine hlive.trans (hmode.trans ?_)
        simp only [r, hswitched]
        rfl
      · have hlive := congrArg Setup.loopingSfx hsetup
        refine hlive.trans (hloops.trans ?_)
        simp only [r, hswitched]
        rfl

theorem modesClosed_step_iff {Text : Type} {codec : JsonCodec Text} {w w' : World Text} {t : Turn}
    (h : w.actor.ModesClosed) (hstep : (actorSystem codec config catalog).step w t w') :
    w'.actor.ModesClosed ↔ t.FitsLoops w := by
  constructor
  · intro hclosed
    cases t with
    | flush draw => trivial
    | dueEffects sample draw => trivial
    | message message draw =>
      cases message with
      | execute resolved =>
        obtain ⟨command, generation⟩ := resolved
        cases command with
        | setActiveMode modeId =>
          intro hswitch hresolved hreferences hsample modes hmodes
          obtain ⟨hmode, hloops, hcatalog⟩ :=
            setActiveMode_live hstep hswitch hresolved hreferences hsample
          rw [← hcatalog] at hmodes
          have hplayed := (hclosed modes hmodes).references.loops
          intro loopingSfx hloop
          rw [← hloops] at hloop
          have hplays := hplayed loopingSfx hloop
          rw [Setup.mode, show w'.actor.state.setup.activeModeId = modeId from hmode] at hplays
          exact hplays
        | _ => trivial
      | _ => trivial
  · intro hfits
    rcases actorStep_live hstep with hidle | ⟨label, hperforms, hlabel⟩
    · exact modesClosed_step h hidle (fun _ _ _ hlabel => nomatch hlabel)
    · apply modesClosed_step h hlabel
      rintro resolved draw modeId rfl hcommand hswitch hresolved hreferences hsample
      exact performs_setActiveMode hperforms hfits hcommand hswitch hresolved hreferences hsample

/-- **Mode closure**: pruning with the catalog at hand is a no-op throughout a run exactly
when every accepted switch to another mode finds the loops within that mode. -/
theorem modes_closed_iff {Text : Type} {codec : JsonCodec Text} {config : PlaybackActorConfig}
    {catalog : CatalogSnapshot} {w₀ : World Text} {run : List (Turn × World Text)}
    (hstart : (actorSystem codec config catalog).init w₀)
    (hrun : (actorSystem codec config catalog).IsRun w₀ run) :
    (∀ w ∈ System.states w₀ run,
        pruneModes w.actor.state w.actor.catalog.modes = (w.actor.state, false)) ↔
      ∀ t ∈ System.steps w₀ run, t.2.1.FitsLoops t.1 := by
  simp only [pruneModes_noop_iff_modesClosed]
  refine hrun.forall_states_iff (P := fun w => w.actor.ModesClosed)
    (G := fun w t => t.FitsLoops w) ?_ ?_
  · intro w t w' h hstep
    exact modesClosed_step_iff h hstep
  · obtain ⟨row, draw, hstart⟩ := hstart
    exact modesClosed_start hstart

/-! ## A loop that outlives its mode -/

def rainMode : CatalogMode where
  soundboardItems := (∅ : BTreeMap String (BTreeSet String)).insert "weather"
    ((∅ : BTreeSet String).insert "rain.ogg")
  cueIds := ∅
  presetIds := ∅
  multipleOutputs := false

def silentMode : CatalogMode where
  soundboardItems := ∅
  cueIds := ∅
  presetIds := ∅
  multipleOutputs := false

def rainLoop : LoopingSfx :=
  ⟨"rain", "Rain", "weather", "rain.ogg", .finite 20, .default⟩

/-- Rain loops in a mode that has it, and the mode is left for one that has not. -/
def rainyTurns : List Turn :=
  [turnAt 0 (.replaceModeCatalog ⟨1, ((∅ : BTreeMap String CatalogMode).insert "camp"
      rainMode).insert "cave" silentMode, []⟩),
    turnAt 10 (.execute (.atGeneration (.setActiveMode (some "camp")) ⟨0, 1⟩)),
    turnAt 20 (.execute (.atGeneration (.startLoop rainLoop) ⟨0, 1⟩)),
    turnAt 30 (.execute (.atGeneration (.setActiveMode (some "cave")) ⟨0, 1⟩))]

/-- The loop still runs in the mode that does not have its soundboard. -/
theorem mode_switch_not_closed :
    ¬ ∀ w, (actorSystem documentCodec .default .default).Reachable w →
      pruneModes w.actor.state w.actor.catalog.modes = (w.actor.state, false) := by
  intro h
  have hopen : pruneModes (ownerAfter rainyTurns).actor.state
      (ownerAfter rainyTurns).actor.catalog.modes ≠ ((ownerAfter rainyTurns).actor.state, false) := by
    decide +kernel
  exact hopen (h _ (ownerAfter_reachable rainyTurns))

theorem modes_closed_iff_rainy :
    (ownerAfter rainyTurns).actor.state.loopingSfx = [rainLoop] ∧
      ((∀ w ∈ System.states freshWorld (ownerRun rainyTurns),
          pruneModes w.actor.state w.actor.catalog.modes = (w.actor.state, false)) ↔
        ∀ t ∈ System.steps freshWorld (ownerRun rainyTurns), t.2.1.FitsLoops t.1) :=
  ⟨by decide +kernel, modes_closed_iff freshWorld_init (ownerRun_isRun rainyTurns)⟩

end MusicServer
