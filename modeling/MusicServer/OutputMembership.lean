/-
# The active outputs are registered clients

The list of active outputs is kept by five operations: a client registers, registers under
another id, disconnects, is selected, or the mode stops allowing several outputs.  Each
looks at the other connections by itself.  The main result, `activeOutputs_registered`,
says that in every run the list names registered clients only, that each of them has a
volume, that there is one at most where the mode asks for one, and that the mode in
question is the active one.

The invariant is one about the setup and the set of registered clients; every step of the
session changes both in step.
-/
import MusicServer.LiveSession
import MusicServer.Setup

namespace MusicServer

open Transition (System)

/-! ## Registered clients -/

theorem values_eq_map_snd {α β : Type} {cmp : α → α → Ordering} [Std.TransCmp cmp]
    (t : Std.ExtTreeMap α β cmp) : t.values = t.toList.map Prod.snd := by
  obtain ⟨⟨q⟩⟩ := t
  induction q using Quotient.inductionOn with
  | h m =>
    change m.inner.values = (Std.DTreeMap.Internal.Impl.Const.toList m.inner).map Prod.snd
    rw [Std.DTreeMap.Internal.Impl.values_eq_map_snd,
      Std.DTreeMap.Internal.Impl.Const.toList_eq_toListModel_map, List.map_map]
    rfl

/-- A registered connection carries the client. -/
def Connections.Carries (connections : Connections) (clientId : String) : Prop :=
  ∃ (connectionId : ConnectionId) (registration : ClientRegistration),
    connections[connectionId]? = some ⟨some registration⟩ ∧ registration.clientId = clientId

variable {connections : Connections} {record : ConnectionRecord}

theorem mem_values :
    record ∈ connections.values ↔ ∃ connectionId : ConnectionId,
      connections[connectionId]? = some record := by
  rw [values_eq_map_snd, List.mem_map]
  constructor
  · rintro ⟨⟨connectionId, record⟩, hmem, rfl⟩
    exact ⟨connectionId, Std.ExtTreeMap.mem_toList_iff_getElem?_eq_some.mp hmem⟩
  · rintro ⟨connectionId, hrecord⟩
    exact ⟨(connectionId, record), Std.ExtTreeMap.mem_toList_iff_getElem?_eq_some.mpr hrecord, rfl⟩

variable {clientId : String}

theorem mem_connectedClientIds :
    clientId ∈ connectedClientIds connections ↔ connections.Carries clientId := by
  rw [connectedClientIds, List.mem_filterMap]
  constructor
  · rintro ⟨⟨registration⟩, hrecord, hclient⟩
    obtain ⟨connectionId, hrecord⟩ := mem_values.mp hrecord
    obtain ⟨registration, rfl, rfl⟩ := Option.map_eq_some_iff.mp hclient
    exact ⟨connectionId, registration, hrecord, rfl⟩
  · rintro ⟨connectionId, registration, hrecord, rfl⟩
    exact ⟨⟨some registration⟩, mem_values.mpr ⟨connectionId, hrecord⟩, rfl⟩

theorem any_values_iff :
    (connections.values.any fun candidate =>
      candidate.registration.any (·.clientId == clientId)) = true ↔
      connections.Carries clientId := by
  rw [List.any_eq_true]
  constructor
  · rintro ⟨⟨registration⟩, hrecord, hclient⟩
    obtain ⟨connectionId, hrecord⟩ := mem_values.mp hrecord
    cases registration with
    | none => simp at hclient
    | some registration => exact ⟨connectionId, registration, hrecord, by simpa using hclient⟩
  · rintro ⟨connectionId, registration, hrecord, rfl⟩
    exact ⟨⟨some registration⟩, mem_values.mpr ⟨connectionId, hrecord⟩, by simp⟩

variable {connectionId : ConnectionId}

/-- The check that a registration makes: a connection other than its own carries the
client. -/
theorem carries_of_sibling (h : hasRegisteredSibling connections connectionId clientId = true) :
    connections.Carries clientId := by
  rw [hasRegisteredSibling, List.any_eq_true] at h
  obtain ⟨⟨other, ⟨registration⟩⟩, hmem, hclient⟩ := h
  rw [Bool.and_eq_true] at hclient
  cases registration with
  | none => simp at hclient
  | some registration =>
    exact ⟨other, registration, Std.ExtTreeMap.mem_toList_iff_getElem?_eq_some.mp hmem,
      by simpa using hclient.2⟩

/-! ## How the connections change -/

theorem carries_empty : ¬ Connections.Carries ∅ clientId := by
  rintro ⟨connectionId, registration, hrecord, -⟩
  simp at hrecord

theorem carries_opened (hfresh : connections[connectionId]? = none) :
    Connections.Carries (connections.insert connectionId ⟨none⟩) clientId ↔
      connections.Carries clientId := by
  constructor
  · rintro ⟨other, registration, hrecord, hclient⟩
    rw [Std.ExtTreeMap.getElem?_insert] at hrecord
    split at hrecord
    · cases hrecord
    · exact ⟨other, registration, hrecord, hclient⟩
  · rintro ⟨other, registration, hrecord, hclient⟩
    refine ⟨other, registration, ?_, hclient⟩
    rw [Std.ExtTreeMap.getElem?_insert, if_neg, hrecord]
    intro hsame
    rw [← Std.LawfulEqCmp.eq_of_compare hsame, hfresh] at hrecord
    cases hrecord

variable {registration : ClientRegistration}

/-- A connection that registers carries its client; who was carried before is carried
still, unless by this connection alone. -/
theorem carries_registered :
    Connections.Carries (connections.insert connectionId ⟨some registration⟩)
      registration.clientId :=
  ⟨connectionId, registration, by simp, rfl⟩

theorem carries_of_registered
    (h : Connections.Carries (connections.insert connectionId ⟨some registration⟩) clientId) :
    clientId = registration.clientId ∨ connections.Carries clientId := by
  obtain ⟨other, registration', hrecord, hclient⟩ := h
  rw [Std.ExtTreeMap.getElem?_insert] at hrecord
  split at hrecord
  · cases hrecord
    exact .inl hclient.symm
  · exact .inr ⟨other, registration', hrecord, hclient⟩

theorem registered_of_carries {current : ConnectionRecord}
    (hcurrent : connections[connectionId]? = some current) (h : connections.Carries clientId)
    (registration : ClientRegistration) :
    (∃ previous, current.registration = some previous ∧ previous.clientId = clientId) ∨
      Connections.Carries (connections.insert connectionId ⟨some registration⟩) clientId := by
  obtain ⟨other, registration', hrecord, hclient⟩ := h
  by_cases hsame : other = connectionId
  · rw [hsame, hcurrent] at hrecord
    cases hrecord
    exact .inl ⟨registration', rfl, hclient⟩
  · refine .inr ⟨other, registration', ?_, hclient⟩
    rw [Std.ExtTreeMap.getElem?_insert, if_neg, hrecord]
    intro hcompare
    exact hsame (Std.LawfulEqCmp.eq_of_compare hcompare).symm

theorem carries_refreshed {rememberedName : Option String} {isDefaultOutput : Bool} {id : String} :
    Connections.Carries (refreshedConnections connections clientId rememberedName isDefaultOutput)
      id ↔ connections.Carries id := by
  unfold Connections.Carries refreshedConnections
  constructor
  · rintro ⟨connectionId, registration, hrecord, rfl⟩
    rw [Std.ExtTreeMap.getElem?_map, Option.map_eq_some_iff] at hrecord
    obtain ⟨⟨current⟩, hcurrent, hrecord⟩ := hrecord
    cases current with
    | none => cases hrecord
    | some current =>
      refine ⟨connectionId, current, hcurrent, ?_⟩
      cases hrecord
      dsimp only
      split <;> rfl
  · rintro ⟨connectionId, registration, hrecord, rfl⟩
    refine ⟨connectionId, if registration.clientId = clientId then
      { registration with rememberedName, isDefaultOutput } else registration, ?_, ?_⟩
    · rw [Std.ExtTreeMap.getElem?_map, hrecord]
      rfl
    · split <;> rfl

theorem carries_of_disconnected (h : Connections.Carries (connections.erase connectionId) clientId) :
    connections.Carries clientId := by
  obtain ⟨other, registration, hrecord, hclient⟩ := h
  rw [Std.ExtTreeMap.getElem?_erase] at hrecord
  split at hrecord
  · cases hrecord
  · exact ⟨other, registration, hrecord, hclient⟩

theorem disconnected_of_carries (hrecord : connections[connectionId]? = some record)
    (h : connections.Carries clientId) :
    (∃ registration, record.registration = some registration ∧
        registration.clientId = clientId) ∨
      Connections.Carries (connections.erase connectionId) clientId := by
  obtain ⟨other, registration, hother, hclient⟩ := h
  by_cases hsame : other = connectionId
  · rw [hsame, hrecord] at hother
    cases hother
    exact .inl ⟨registration, rfl, hclient⟩
  · refine .inr ⟨other, registration, ?_, hclient⟩
    rw [Std.ExtTreeMap.getElem?_erase, if_neg, hother]
    intro hcompare
    exact hsame (Std.LawfulEqCmp.eq_of_compare hcompare).symm

/-! ## Outputs and clients in step -/

/-- The active outputs are among the clients, every client has a volume, and a room with
one output has one at most. -/
structure Setup.Wired (d : Setup) (clients : String → Prop) : Prop where
  connected : ∀ id ∈ d.activeOutputDeviceIds, clients id
  volumes : ∀ id, clients id → id ∈ d.deviceVolumes
  single : d.Single

/-- Whether several outputs play is up to the active mode, once there are modes. -/
def Setup.FollowsPolicy (d : Setup) (modes : Option (BTreeMap String CatalogMode)) : Prop :=
  ∀ known, modes = some known →
    d.multipleOutputs = (d.activeModeId.bind fun modeId => known[modeId]?).any (·.multipleOutputs)

variable {clients : String → Prop}

/-- A command keeps the outputs in step, unless it registers a device behind the back of
the connections; the outputs it selects must be clients or active already. -/
theorem Setup.Wired.apply {d : Setup} (h : d.Wired clients) (command : PlaybackCommand)
    (hdevice : ∀ deviceId activate, command ≠ .registerDevice deviceId activate)
    (houtputs : ∀ deviceIds, command = .setActiveOutputs deviceIds →
      ∀ id ∈ deviceIds, id ∈ d.activeOutputDeviceIds ∨ clients id) :
    (d.apply command).Wired clients := by
  refine ⟨?_, ?_, h.single.apply command⟩
  · cases command with
    | registerDevice deviceId activate => exact absurd rfl (hdevice deviceId activate)
    | setActiveOutputs deviceIds =>
      have hknown : ∀ id ∈ deviceIds, clients id := by
        intro id hid
        exact (houtputs deviceIds rfl id hid).elim (h.connected id) (fun hclient => hclient)
      intro id hid
      change id ∈ (if d.multipleOutputs then deviceIds
        else newestOutput d.activeOutputDeviceIds deviceIds) at hid
      split at hid
      · exact hknown id hid
      · exact hknown id (mem_newestOutput hid)
    | removeActiveOutput deviceId =>
      intro id hid
      exact h.connected id (List.mem_of_mem_filter hid)
    | setActiveMode modeId =>
      rw [Setup.apply, activeOutputs_switchMode]
      exact h.connected
    | fireCue cue =>
      rw [Setup.apply, activeOutputs_applyCue]
      exact h.connected
    | _ => exact h.connected
  · cases command with
    | registerDevice deviceId activate => exact absurd rfl (hdevice deviceId activate)
    | setDeviceVolume deviceId volume =>
      intro id hid
      exact Std.ExtTreeMap.mem_insert.mpr (.inr (h.volumes id hid))
    | setActiveMode modeId =>
      rw [Setup.apply, deviceVolumes_switchMode]
      exact h.volumes
    | fireCue cue =>
      rw [Setup.apply, deviceVolumes_applyCue]
      exact h.volumes
    | _ => exact h.volumes

/-- A client registers: it is one of the clients from now on, and those that were may
only have lost what is no output any more. -/
theorem Setup.Wired.register {d : Setup} {clients clients' : String → Prop} (h : d.Wired clients)
    (activate : Bool) (hclient : clients' clientId)
    (hkept : ∀ id ∈ d.activeOutputDeviceIds, clients' id)
    (hnew : ∀ id, clients' id → id = clientId ∨ clients id) :
    (d.apply (.registerDevice clientId activate)).Wired clients' := by
  refine ⟨?_, ?_, h.single.apply (.registerDevice clientId activate)⟩
  · intro id hid
    change id ∈ d.registerOutput clientId activate at hid
    unfold Setup.registerOutput at hid
    split at hid
    · rw [List.mem_append, List.mem_singleton] at hid
      rcases hid with hid | rfl
      · exact hkept id hid
      · exact hclient
    · exact hkept id hid
  · intro id hid
    refine Std.ExtTreeMap.mem_insertIfNew.mpr ?_
    rcases hnew id hid with rfl | hid
    · exact .inl (Std.ReflCmp.compare_self)
    · exact .inr (h.volumes id hid)

theorem Setup.Wired.change {d : Setup} {clients clients' : String → Prop} (h : d.Wired clients)
    (hkept : ∀ id ∈ d.activeOutputDeviceIds, clients' id)
    (hnew : ∀ id, clients' id → clients id) : d.Wired clients' :=
  ⟨hkept, fun id hid => h.volumes id (hnew id hid), h.single⟩

theorem Setup.Wired.applyOutputPolicy {s : PlaybackState} (h : s.setup.Wired clients)
    (multipleOutputs : Bool) :
    (s.applyOutputPolicy multipleOutputs).1.setup.Wired clients := by
  refine ⟨?_, ?_, single_applyOutputPolicy s multipleOutputs⟩
  · unfold PlaybackState.applyOutputPolicy
    simp only
    split
    · intro id hid
      exact h.connected id (List.mem_of_mem_take hid)
    · exact h.connected
  · unfold PlaybackState.applyOutputPolicy
    simp only
    split <;> exact h.volumes

theorem activeModeAllowsMultipleOutputs_congr {s s' : PlaybackState}
    (h : s'.activeModeId = s.activeModeId) (modes : BTreeMap String CatalogMode) :
    activeModeAllowsMultipleOutputs s' modes = activeModeAllowsMultipleOutputs s modes := by
  rw [activeModeAllowsMultipleOutputs, activeMode, h]
  rfl

theorem followsPolicy_applyOutputPolicy (s : PlaybackState)
    (modes : BTreeMap String CatalogMode) :
    (s.applyOutputPolicy (activeModeAllowsMultipleOutputs s modes)).1.setup.FollowsPolicy
      (some modes) := by
  have hpolicy : ∀ multipleOutputs,
      (s.applyOutputPolicy multipleOutputs).1.multipleOutputs = multipleOutputs ∧
        (s.applyOutputPolicy multipleOutputs).1.activeModeId = s.activeModeId := by
    intro multipleOutputs
    unfold PlaybackState.applyOutputPolicy
    simp only
    split <;> exact ⟨rfl, rfl⟩
  obtain ⟨hmultiple, hactive⟩ := hpolicy (activeModeAllowsMultipleOutputs s modes)
  have hallows := activeModeAllowsMultipleOutputs_congr hactive modes
  rintro known ⟨⟩
  exact hmultiple.trans hallows.symm

/-! ## Pruning and the setup -/

theorem pruneTracks_setup (s : PlaybackState) (tracks : Option (BTreeMap TrackId CatalogTrack))
    (nowMs : ℕ) : (pruneTracks s tracks nowMs).1.setup = s.setup := by
  have hambient : ∀ known, (pruneAmbient s known).1.setup = s.setup := by
    intro known
    unfold pruneAmbient
    simp only
    split <;> rfl
  have hinterrupt : ∀ (s : PlaybackState) (known : BTreeMap TrackId CatalogTrack),
      (pruneInterrupt s known nowMs).1.setup = s.setup := by
    intro s known
    unfold pruneInterrupt
    split
    · rfl
    split
    · rfl
    split <;> rfl
  cases tracks with
  | none => rfl
  | some known =>
    change (pruneInterrupt (pruneAmbient s known).1 known nowMs).1.setup = s.setup
    rw [hinterrupt, hambient]

/-- A pruning keeps the outputs in step with the clients, and brings them in step with the
modes of the catalog. -/
theorem wired_pruneForCatalog {s state : PlaybackState} {catalog : CatalogSnapshot} {nowMs : ℕ}
    {presets changed : Bool} (h : s.setup.Wired clients)
    (hpruned : pruneForCatalog s catalog nowMs presets = .ok (state, changed)) :
    state.setup.Wired clients ∧ state.setup.FollowsPolicy catalog.modes := by
  obtain ⟨revision, hstate, -⟩ := pruneForCatalog_eq hpruned
  rw [← pruneTracks_setup s catalog.tracks nowMs] at h
  generalize (pruneTracks s catalog.tracks nowMs).1 = pruned at h hstate
  have hsetup : state.setup = (pruneModes pruned catalog.modes).1.setup := by
    rw [show state = _ from hstate]
    rfl
  rw [hsetup]
  cases catalog.modes with
  | none => exact ⟨h, fun known hknown => nomatch hknown⟩
  | some modes =>
    have hmode : (pruneActiveMode pruned modes).1.setup.Wired clients := by
      unfold pruneActiveMode
      split
      · exact ⟨h.connected, h.volumes, h.single⟩
      · exact h
    let references := (pruneModeReferences (pruneActiveMode pruned modes).1
      (activeMode (pruneActiveMode pruned modes).1 modes)).1
    have hreferences : references.setup.Wired clients :=
      ⟨hmode.connected, hmode.volumes, hmode.single⟩
    exact ⟨hreferences.applyOutputPolicy _, followsPolicy_applyOutputPolicy references modes⟩

/-! ## The invariant of a session -/

structure PlaybackActor.OutputsWired (a : PlaybackActor) : Prop where
  wired : a.state.setup.Wired a.connections.Carries
  policy : a.state.setup.FollowsPolicy a.catalog.modes
  fresh : ∀ connectionId : ConnectionId, a.nextConnectionId ≤ connectionId →
    a.connections[connectionId]? = none

theorem PlaybackState.UpToRevision.setup {next state : PlaybackState}
    (h : next.UpToRevision state) : state.setup = next.setup := by
  unfold PlaybackState.UpToRevision at h
  rw [h]
  rfl

theorem wired_admit {a : PlaybackActor} {resolved : ResolvedPlaybackCommand} {draw : Draw}
    {sample : ClockSample} {reduction : Reduction} (h : a.OutputsWired)
    (hdevice : ∀ deviceId activate, resolved.command ≠ .registerDevice deviceId activate)
    (hadmission : decideCommand a resolved draw = .ok (sample, reduction)) :
    reduction.nextState.setup.Wired a.connections.Carries ∧
      reduction.nextState.setup.FollowsPolicy a.catalog.modes := by
  obtain ⟨-, houtputs, -, r, hr, rfl⟩ := decideCommand_eq_ok hadmission
  have hsetup := reduce_setup hr
  have hselected : ∀ deviceIds, resolved.command = .setActiveOutputs deviceIds →
      ∀ id ∈ deviceIds, id ∈ a.state.setup.activeOutputDeviceIds ∨ a.connections.Carries id := by
    intro deviceIds hcommand id hid
    rw [hcommand] at houtputs
    simp only [checkOutputs] at houtputs
    split at houtputs
    · next hempty =>
      rw [List.isEmpty_iff, List.filter_eq_nil_iff] at hempty
      have hchecked := hempty id hid
      rw [Bool.and_eq_true, not_and_or] at hchecked
      rcases hchecked with hactive | hconnected
      · left
        have hactive : id ∈ a.state.activeOutputDeviceIds := by simpa using hactive
        exact hactive
      · right
        rw [← mem_connectedClientIds]
        simpa using hconnected
    · cases houtputs
  have hwired : r.nextState.setup.Wired a.connections.Carries := by
    rw [hsetup]
    exact h.wired.apply resolved.command hdevice hselected
  unfold withOutputPolicy
  cases hmodes : a.catalog.modes with
  | none => exact ⟨hwired, fun known hknown => nomatch hknown⟩
  | some modes =>
    exact ⟨hwired.applyOutputPolicy _, followsPolicy_applyOutputPolicy r.nextState modes⟩

/-- A registration keeps the outputs in step: an id the connection gives up is no output
any more unless a sibling carries it, and the new one has a volume. -/
theorem wired_registered {a : PlaybackActor} {current : ConnectionRecord} {sample : ClockSample}
    {state : PlaybackState} {durableChanged : Bool} (h : a.OutputsWired)
    (hcurrent : a.connections[connectionId]? = some current) (hregistered : registeredState a.state
      (a.connections.insert connectionId ⟨some registration⟩) connectionId current.registration
      registration sample = .ok (state, durableChanged)) :
    state.setup.Wired (Connections.Carries (a.connections.insert connectionId ⟨some registration⟩)) ∧
      state.setup.FollowsPolicy a.catalog.modes := by
  obtain ⟨removed, hremoved, heq⟩ := registeredState_eq a.state
    (a.connections.insert connectionId ⟨some registration⟩) connectionId current.registration
    registration sample
  rw [heq] at hregistered
  obtain ⟨rfl, -⟩ := Prod.mk.inj (Except.ok.inj hregistered)
  rw [registerDevice_setup]
  have hwired : removed.1.setup.Wired a.connections.Carries := by
    rcases hremoved with ⟨rfl, -⟩ | ⟨previous, -, -, rfl⟩
    · exact h.wired
    · exact h.wired.apply (.removeActiveOutput previous.clientId)
        (fun _ _ hcommand => nomatch hcommand) (fun _ hcommand => nomatch hcommand)
  refine ⟨hwired.register registration.isDefaultOutput carries_registered ?_ ?_, ?_⟩
  · intro id hid
    rcases registered_of_carries hcurrent (hwired.connected id hid) registration with
      ⟨previous, hprevious, rfl⟩ | hcarried
    · -- The id is the one this connection carried before.
      rcases hremoved with ⟨rfl, hkept⟩ | ⟨gone, hgone, -, rfl⟩
      · rcases hkept previous hprevious with hsame | hsibling
        · rw [hsame]
          exact carries_registered
        · exact carries_of_sibling hsibling
      · rw [hprevious] at hgone
        cases hgone
        have hfiltered := (List.mem_filter.mp hid).2
        simp at hfiltered
    · exact hcarried
  · intro id hid
    exact carries_of_registered hid
  · intro known hknown
    have hpolicy := h.policy known hknown
    rcases hremoved with ⟨rfl, -⟩ | ⟨previous, -, -, rfl⟩
    · exact hpolicy
    · exact hpolicy

theorem wired_disconnected {a : PlaybackActor} {sample : ClockSample} {state : PlaybackState}
    {durableChanged : Bool} (h : a.OutputsWired)
    (hrecord : a.connections[connectionId]? = some record)
    (hdisconnected : disconnectedState a.state (a.connections.erase connectionId)
      record.registration sample = .ok (state, durableChanged)) :
    state.setup.Wired (Connections.Carries (a.connections.erase connectionId)) ∧
      state.setup.FollowsPolicy a.catalog.modes := by
  obtain ⟨removed, heq, hremoved⟩ := disconnectedState_eq a.state
    (a.connections.erase connectionId) record.registration sample
  rw [heq] at hdisconnected
  cases hdisconnected
  have hwired : state.setup.Wired a.connections.Carries := by
    rcases hremoved with ⟨hsame, -⟩ | ⟨gone, -, hgone⟩
    · rw [show state = a.state from congrArg Prod.fst hsame]
      exact h.wired
    · rw [show state = _ from congrArg Prod.fst hgone]
      exact h.wired.apply (.removeActiveOutput gone.clientId)
        (fun _ _ hcommand => nomatch hcommand) (fun _ hcommand => nomatch hcommand)
  refine ⟨hwired.change ?_ ?_, ?_⟩
  · intro id hid
    rcases disconnected_of_carries hrecord (hwired.connected id hid) with
      ⟨registration, hregistration, rfl⟩ | hcarried
    · rcases hremoved with ⟨-, hkept⟩ | ⟨gone, hgone, hstate⟩
      · exact any_values_iff.mp (hkept registration hregistration)
      · rw [hregistration] at hgone
        cases hgone
        rw [show state = _ from congrArg Prod.fst hstate] at hid
        have hfiltered := (List.mem_filter.mp hid).2
        simp at hfiltered
    · exact hcarried
  · intro id hid
    exact carries_of_disconnected hid
  · intro known hknown
    have hpolicy := h.policy known hknown
    rcases hremoved with ⟨hsame, -⟩ | ⟨gone, -, hgone⟩
    · rw [show state = a.state from congrArg Prod.fst hsame]
      exact hpolicy
    · rw [show state = _ from congrArg Prod.fst hgone]
      exact hpolicy

/-- A step of the session keeps the invariant; only a command that registers a device
behind the back of the connections could break it. -/
theorem outputsWired_step {a a' : PlaybackActor} {label : LiveLabel} (h : a.OutputsWired)
    (hstep : LiveStep a a' label)
    (hdevice : ∀ resolved draw, label = .command resolved draw →
      ∀ deviceId activate, resolved.command ≠ .registerDevice deviceId activate) :
    a'.OutputsWired := by
  cases hstep with
  | idle hstate hcatalog hconnections hnext =>
    refine ⟨?_, ?_, ?_⟩
    · rw [hstate, hconnections]
      exact h.wired
    · rw [hstate, hcatalog]
      exact h.policy
    · rw [hconnections, hnext]
      exact h.fresh
  | command hadmission hstate hcatalog hconnections hnext =>
    obtain ⟨hwired, hpolicy⟩ := wired_admit h (hdevice _ _ rfl) hadmission
    refine ⟨?_, ?_, ?_⟩
    · rw [hstate.setup, hconnections]
      exact hwired
    · rw [hstate.setup, hcatalog]
      exact hpolicy
    · rw [hconnections, hnext]
      exact h.fresh
  | opened hstate hcatalog hconnections hnext =>
    have hfresh := h.fresh a.nextConnectionId (le_refl _)
    refine ⟨?_, ?_, ?_⟩
    · rw [hstate, hconnections]
      apply h.wired.change
      · intro id hid
        exact (carries_opened hfresh).mpr (h.wired.connected id hid)
      · intro id hid
        exact (carries_opened hfresh).mp hid
    · rw [hstate, hcatalog]
      exact h.policy
    · intro connectionId hle
      rw [hnext] at hle
      rw [hconnections, Std.ExtTreeMap.getElem?_insert, if_neg]
      · exact h.fresh connectionId (Nat.le_of_succ_le hle)
      · intro hcompare
        rw [Std.LawfulEqCmp.eq_of_compare hcompare] at hle
        exact Nat.not_succ_le_self connectionId hle
  | @registered connectionId _ _ _ _ _ hcurrent hconnections hregistered hstate hcatalog hnext =>
    rw [hconnections] at hregistered
    obtain ⟨hwired, hpolicy⟩ := wired_registered h hcurrent hregistered
    refine ⟨?_, ?_, ?_⟩
    · rw [hstate.setup, hconnections]
      exact hwired
    · rw [hstate.setup, hcatalog]
      exact hpolicy
    · intro other hle
      rw [hnext] at hle
      have hnone := h.fresh other hle
      rw [hconnections, Std.ExtTreeMap.getElem?_insert, if_neg]
      · exact hnone
      · intro hcompare
        rw [← Std.LawfulEqCmp.eq_of_compare hcompare, hcurrent] at hnone
        cases hnone
  | refreshed hstate hcatalog hconnections hnext =>
    refine ⟨?_, ?_, ?_⟩
    · rw [hstate, hconnections]
      apply h.wired.change
      · intro id hid
        exact carries_refreshed.mpr (h.wired.connected id hid)
      · intro id hid
        exact carries_refreshed.mp hid
    · rw [hstate, hcatalog]
      exact h.policy
    · intro connectionId hle
      rw [hnext] at hle
      rw [hconnections, refreshedConnections, Std.ExtTreeMap.getElem?_map,
        h.fresh connectionId hle]
      rfl
  | disconnected hrecord hconnections hdisconnected hstate hcatalog hnext =>
    rw [hconnections] at hdisconnected
    obtain ⟨hwired, hpolicy⟩ := wired_disconnected h hrecord hdisconnected
    refine ⟨?_, ?_, ?_⟩
    · rw [hstate.setup, hconnections]
      exact hwired
    · rw [hstate.setup, hcatalog]
      exact hpolicy
    · intro other hle
      rw [hnext] at hle
      rw [hconnections, Std.ExtTreeMap.getElem?_erase]
      split
      · rfl
      · exact h.fresh other hle
  | adopted hpruned hstate hcatalog hconnections hnext =>
    obtain ⟨hwired, hpolicy⟩ := wired_pruneForCatalog h.wired hpruned
    refine ⟨?_, ?_, ?_⟩
    · rw [hstate.setup, hconnections]
      exact hwired
    · rw [hstate.setup, hcatalog]
      exact hpolicy
    · rw [hconnections, hnext]
      exact h.fresh

theorem outputsWired_start {Text : Type} {codec : JsonCodec Text} {config : PlaybackActorConfig}
    {row : Option (StoredPlaybackSnapshot Text)} {catalog : CatalogSnapshot} {draw : StartDraw}
    {w : World Text} (h : startPlaybackActor codec config row catalog draw = .ok w) :
    w.actor.OutputsWired := by
  obtain ⟨⟨loaded, nowMs, changed, hloaded, hpruned⟩, hcatalog, hconnections, hnext⟩ :=
    start_live h
  have hnone : loaded.activeOutputDeviceIds = [] := by
    rw [← hloaded.normalized]
    rfl
  have hwired : loaded.setup.Wired w.actor.connections.Carries := by
    rw [hconnections]
    refine ⟨?_, ?_, ?_⟩
    · intro id hid
      rw [show loaded.setup.activeOutputDeviceIds = [] from hnone] at hid
      cases hid
    · intro id hid
      exact absurd hid carries_empty
    · intro _
      rw [show loaded.setup.activeOutputDeviceIds = [] from hnone]
      exact Nat.zero_le 1
  obtain ⟨hpruned, hpolicy⟩ := wired_pruneForCatalog hwired hpruned
  refine ⟨hpruned, ?_, ?_⟩
  · rw [hcatalog]
    exact hpolicy
  · intro connectionId _
    rw [hconnections]
    exact Std.ExtTreeMap.getElem?_empty

/-! ## Runs -/

/-- The turn carries a command to register a device.  The owner runs that command for a
connection that registers; no client sends it. -/
def Turn.sendsRegistration : Turn → Bool
  | .message (.execute ⟨.registerDevice _ _, _⟩) _ => true
  | _ => false

theorem performs_registration {Text : Type} {config : PlaybackActorConfig} {w : World Text}
    {t : Turn} {resolved : ResolvedPlaybackCommand} {draw : Draw}
    (h : t.Performs config w (.command resolved draw))
    (hsent : t.sendsRegistration = false) (deviceId : String) (activate : Bool) :
    resolved.command ≠ .registerDevice deviceId activate := by
  intro hcommand
  cases h with
  | execute =>
    obtain ⟨command, generation⟩ := resolved
    simp only at hcommand
    rw [hcommand] at hsent
    cases hsent
  | skipNext => cases hcommand
  | advanced sample plan =>
    unfold World.dueCommand at hcommand
    split at hcommand <;> cases hcommand

/-- **Output membership**: throughout a run the active outputs are clients of registered
connections, each with a volume; a room with one output has one at most, and whether it is
such a room is up to the active mode once the modes are loaded. -/
theorem activeOutputs_registered {Text : Type} {codec : JsonCodec Text}
    {config : PlaybackActorConfig} {catalog : CatalogSnapshot} {w₀ : World Text}
    {run : List (Turn × World Text)} (hstart : (actorSystem codec config catalog).init w₀)
    (hrun : (actorSystem codec config catalog).IsRun w₀ run)
    (hsent : ∀ t ∈ System.steps w₀ run, t.2.1.sendsRegistration = false) :
    ∀ w ∈ System.states w₀ run,
      (∀ id ∈ w.actor.state.activeOutputDeviceIds,
        (∃ (connectionId : ConnectionId) (registration : ClientRegistration),
          w.actor.connections[connectionId]? = some ⟨some registration⟩ ∧
            registration.clientId = id) ∧
        id ∈ w.actor.state.deviceVolumes) ∧
      (w.actor.state.multipleOutputs = false →
        w.actor.state.activeOutputDeviceIds.length ≤ 1) ∧
      ∀ modes, w.actor.catalog.modes = some modes →
        w.actor.state.multipleOutputs = activeModeAllowsMultipleOutputs w.actor.state modes := by
  have hinvariant : ∀ w ∈ System.states w₀ run, w.actor.OutputsWired := by
    refine hrun.forall_states (P := fun w => w.actor.OutputsWired)
      (G := fun _ t => t.sendsRegistration = false) ?_ ?_ hsent
    · intro w t w' h hstep hguard
      rcases actorStep_live hstep with hidle | ⟨label, hperforms, hlabel⟩
      · exact outputsWired_step h hidle (fun resolved draw hlabel => nomatch hlabel)
      · apply outputsWired_step h hlabel
        rintro resolved draw rfl
        exact performs_registration hperforms hguard
    · obtain ⟨row, draw, hstart⟩ := hstart
      exact outputsWired_start hstart
  intro w hw
  have h := hinvariant w hw
  refine ⟨?_, h.wired.single, h.policy⟩
  intro id hid
  have hcarried := h.wired.connected id hid
  exact ⟨hcarried, h.wired.volumes id hcarried⟩

/-- Two sockets of one client, and a second client that takes the room over. -/
def sharedClientTurns : List Turn :=
  [turnAt 0 .openConnection,
    turnAt 1 .openConnection,
    turnAt 2 (.registerConnection 1 ⟨"hall", "Hall", none, true⟩),
    turnAt 3 (.registerConnection 2 ⟨"hall", "Hall", none, false⟩),
    turnAt 4 (.disconnect 1),
    turnAt 5 .openConnection,
    turnAt 6 (.registerConnection 3 ⟨"attic", "Attic", none, false⟩),
    turnAt 7 (.execute (.direct (.setActiveOutputs ["hall", "attic"])))]

theorem activeOutputs_registered_sharedClient :
    (ownerAfter sharedClientTurns).actor.state.activeOutputDeviceIds = ["attic"] ∧
    ∀ w ∈ System.states freshWorld (ownerRun sharedClientTurns),
      (∀ id ∈ w.actor.state.activeOutputDeviceIds,
        (∃ (connectionId : ConnectionId) (registration : ClientRegistration),
          w.actor.connections[connectionId]? = some ⟨some registration⟩ ∧
            registration.clientId = id) ∧
        id ∈ w.actor.state.deviceVolumes) ∧
      (w.actor.state.multipleOutputs = false →
        w.actor.state.activeOutputDeviceIds.length ≤ 1) ∧
      ∀ modes, w.actor.catalog.modes = some modes →
        w.actor.state.multipleOutputs = activeModeAllowsMultipleOutputs w.actor.state modes :=
  ⟨by decide +kernel,
    activeOutputs_registered freshWorld_init (ownerRun_isRun sharedClientTurns)
      (by decide +kernel)⟩

end MusicServer
