/-
# The runs of a browser's page

What an event can change, and what follows for every order of events: late events of old sockets
change nothing, a client that was disconnected stays so, and the store follows one connection at a
time.
-/
import MusicServer.BrowserSocket

namespace MusicServer

namespace Browser

variable {S : Type}

/-! ## What an event can change -/

/-- What every event keeps, a frame of the current socket apart: nothing reaches the store, and the
current socket is a new one, or the one that was current, whose states the store still holds. -/
structure Page.Keeps (page next : Page S) : Prop where
  delivered : next.delivered = page.delivered
  state : next.store.state = page.store.state
  count : page.sockets.length ≤ next.sockets.length
  held : ∀ id, next.client.ws = some id → page.sockets.length ≤ id ∨
    page.client.ws = some id ∧ (page.listening = true → page.store.hasStateThisConnection = true →
      next.listening = true ∧ next.store.hasStateThisConnection = true)

theorem Page.Keeps.refl (page : Page S) : page.Keeps page :=
  ⟨rfl, rfl, le_rfl, fun _ hid => Or.inr ⟨hid, fun hlistening hflag => ⟨hlistening, hflag⟩⟩⟩

theorem Page.Keeps.trans {page middle next : Page S} (hfirst : page.Keeps middle)
    (hthen : middle.Keeps next) : page.Keeps next := by
  refine ⟨hthen.delivered.trans hfirst.delivered, hthen.state.trans hfirst.state,
    hfirst.count.trans hthen.count, fun id hid => ?_⟩
  rcases hthen.held id hid with hnew | ⟨hmiddle, hlater⟩
  · exact Or.inl (hfirst.count.trans hnew)
  · rcases hfirst.held id hmiddle with hnew | ⟨hws, hsooner⟩
    · exact Or.inl hnew
    · refine Or.inr ⟨hws, fun hlistening hflag => ?_⟩
      obtain ⟨hlistening', hflag'⟩ := hsooner hlistening hflag
      exact hlater hlistening' hflag'

section Kept

variable (page : Page S)

theorem Page.setStatus_keeps {status : WsStatus} (hstatus : status ≠ .connecting) :
    page.Keeps (page.setStatus status) := by
  refine ⟨by simp, by simp, by simp, fun id hid => Or.inr ⟨by simpa using hid, ?_⟩⟩
  intro hlistening hflag
  rw [page.setStatus_flag hstatus]
  exact ⟨by simpa using hlistening, hflag⟩

theorem Page.openSocket_keeps : page.Keeps page.openSocket := by
  unfold Page.openSocket
  refine ⟨by simp, by simp, by simp, fun id hid => Or.inl ?_⟩
  simp only [Page.setStatus_sockets, Option.some.injEq] at hid
  omega

theorem Page.updateSocket_keeps (id : ℕ) (change : Socket → Socket) :
    page.Keeps (page.updateSocket id change) :=
  ⟨rfl, rfl, by simp [Page.updateSocket], fun _ hid => Or.inr ⟨hid, fun hl hf => ⟨hl, hf⟩⟩⟩

theorem Page.setWs_none_keeps : page.Keeps (page.setWs none) :=
  ⟨rfl, rfl, le_rfl, fun _ hid => by cases hid⟩

theorem Page.clearReconnect_keeps (value : Bool) :
    page.Keeps (page.setIntentionallyClosed value).clearReconnect := by
  refine ⟨?_, ?_, ?_, fun id hid => Or.inr ⟨?_, fun hlistening hflag => ⟨?_, ?_⟩⟩⟩
  · rw [Page.clearReconnect_delivered]
    rfl
  · rw [Page.clearReconnect_store]
    rfl
  · rw [Page.clearReconnect_sockets]
    rfl
  · rw [Page.clearReconnect_client] at hid
    exact hid
  · rw [Page.clearReconnect_listening]
    exact hlistening
  · rw [Page.clearReconnect_store]
    exact hflag

theorem Page.resetAttempts_keeps : page.Keeps page.resetAttempts :=
  ⟨rfl, rfl, le_rfl, fun _ hid => Or.inr ⟨hid, fun hl hf => ⟨hl, hf⟩⟩⟩

theorem Page.scheduleReconnect_keeps (delay : ℕ) : page.Keeps (page.scheduleReconnect delay) :=
  ⟨rfl, rfl, le_rfl, fun _ hid => Or.inr ⟨hid, fun hl hf => ⟨hl, hf⟩⟩⟩

theorem Page.connect_keeps_state : page.Keeps page.connect := by
  have hclear := page.clearReconnect_keeps false
  have hopen := hclear.trans ((Page.resetAttempts_keeps _).trans (Page.openSocket_keeps _))
  unfold Page.connect
  dsimp only
  split
  · split
    · exact hclear
    · exact hopen
  · exact hopen

theorem Page.disconnect_ws : page.disconnect.client.ws = none := by
  unfold Page.disconnect
  dsimp only
  rw [Page.setStatus_ws]
  split
  · rfl
  · assumption

theorem Page.disconnect_away : page.disconnect.client.intentionallyClosed = true := by
  unfold Page.disconnect
  dsimp only
  rw [Page.setStatus_intentionallyClosed]
  split
  · simp [Page.setWs, Page.closeSocket, Page.updateSocket, Page.clearReconnect_client,
      Page.setIntentionallyClosed]
  · simp [Page.clearReconnect_client, Page.setIntentionallyClosed]

theorem Page.disconnect_keeps : page.Keeps page.disconnect := by
  have hclear := page.clearReconnect_keeps true
  unfold Page.disconnect
  dsimp only
  split
  · exact hclear.trans ((Page.updateSocket_keeps _ _ _).trans
      ((Page.setWs_none_keeps _).trans (Page.setStatus_keeps _ (by decide))))
  · exact hclear.trans (Page.setStatus_keeps _ (by decide))

theorem Page.disconnect_sockets_length : page.disconnect.sockets.length = page.sockets.length := by
  unfold Page.disconnect
  dsimp only
  rw [Page.setStatus_sockets]
  split
  · simp [Page.setWs, Page.closeSocket, Page.updateSocket, Page.clearReconnect_sockets,
      Page.setIntentionallyClosed]
  · rw [Page.clearReconnect_sockets]
    rfl

theorem Page.wake_keeps : page.Keeps page.wake := by
  unfold Page.wake
  split
  · exact Page.Keeps.refl page
  · split
    · split
      · exact Page.Keeps.refl page
      · exact page.setWs_none_keeps.trans
          ((Page.updateSocket_keeps _ _ _).trans (Page.connect_keeps_state _))
    · exact page.connect_keeps_state

theorem Page.onOpen_keeps (id : ℕ) : page.Keeps (page.onOpen id) := by
  unfold Page.onOpen
  split
  · exact page.updateSocket_keeps id _
  · exact page.resetAttempts_keeps.trans (Page.setStatus_keeps _ (by decide))

theorem Page.onClose_keeps (id delay : ℕ) : page.Keeps (page.onClose id delay) := by
  have hlost := page.setWs_none_keeps.trans
    (Page.setStatus_keeps _ (show WsStatus.disconnected ≠ .connecting by decide))
  unfold Page.onClose
  split
  · exact Page.Keeps.refl page
  · dsimp only
    split
    · exact hlost
    · exact hlost.trans (Page.scheduleReconnect_keeps _ delay)

end Kept

variable {clientId : String} {revision : S → ℕ} {event : PageEvent S} {page next : Page S}

theorem Page.step_keeps (h : page.step revision clientId event = some next)
    (hevent : ∀ id frame now, event ≠ .message id frame now) : page.Keeps next := by
  cases event with
  | mount =>
    simp only [Page.step, Option.ite_none_left_eq_some, Option.some.injEq] at h
    obtain ⟨hdeaf, rfl⟩ := h
    have hlistens : page.Keeps { page with
        listening := true
        store := page.store.setStatus page.client.status } :=
      ⟨rfl, rfl, le_rfl, fun id hid => Or.inr ⟨hid, fun hlistening => absurd hlistening hdeaf⟩⟩
    exact hlistens.trans (Page.connect_keeps_state _)
  | unmount =>
    simp only [Page.step, Option.ite_none_right_eq_some, Option.some.injEq] at h
    obtain ⟨_, rfl⟩ := h
    obtain ⟨hdelivered, hstate, hcount, _⟩ :=
      ({ page with listening := false } : Page S).disconnect_keeps
    refine ⟨hdelivered, hstate, hcount, fun id hid => ?_⟩
    rw [show page.unmount.client.ws = none from Page.disconnect_ws _] at hid
    cases hid
  | connect =>
    simp only [Page.step, Option.ite_none_right_eq_some, Option.some.injEq] at h
    obtain ⟨_, rfl⟩ := h
    exact page.connect_keeps_state
  | disconnect =>
    simp only [Page.step, Option.ite_none_right_eq_some, Option.some.injEq] at h
    obtain ⟨_, rfl⟩ := h
    exact page.disconnect_keeps
  | wake =>
    simp only [Page.step, Option.some.injEq] at h
    subst h
    exact page.wake_keeps
  | timer timer =>
    simp only [Page.step, Option.ite_none_right_eq_some, Option.some.injEq] at h
    obtain ⟨_, rfl⟩ := h
    have hfired : page.Keeps { page with
        timers := page.timers.filter fun other => other ≠ timer } :=
      ⟨rfl, rfl, le_rfl, fun id hid => Or.inr ⟨hid, fun hl hf => ⟨hl, hf⟩⟩⟩
    exact hfired.trans (Page.openSocket_keeps _)
  | opened id =>
    simp only [Page.step] at h
    obtain ⟨socket, _, _, _, rfl⟩ := Page.fire_eq_some h
    exact (page.updateSocket_keeps id _).trans (Page.onOpen_keeps _ id)
  | message id frame now => exact absurd rfl (hevent id frame now)
  | errored id | died id =>
    simp only [Page.step] at h
    obtain ⟨socket, _, _, _, rfl⟩ := Page.fire_eq_some h
    exact page.updateSocket_keeps id _
  | closed id delay =>
    simp only [Page.step, Option.ite_none_right_eq_some] at h
    obtain ⟨socket, _, _, _, rfl⟩ := Page.fire_eq_some h.2
    exact (page.updateSocket_keeps id _).trans (Page.onClose_keeps _ id delay)

theorem Page.Steady.step_away (hpage : page.Steady) (haway : page.client.intentionallyClosed = true)
    (h : page.step revision clientId event = some next) (hconnect : event ≠ .connect)
    (hmount : event ≠ .mount) :
    next.client.intentionallyClosed = true ∧ next.sockets.length = page.sockets.length := by
  obtain ⟨hws, htimers⟩ := hpage.away haway
  cases event with
  | mount => exact absurd rfl hmount
  | connect => exact absurd rfl hconnect
  | unmount =>
    simp only [Page.step, Option.ite_none_right_eq_some, Option.some.injEq] at h
    obtain ⟨_, rfl⟩ := h
    exact ⟨Page.disconnect_away _, Page.disconnect_sockets_length _⟩
  | disconnect =>
    simp only [Page.step, Option.ite_none_right_eq_some, Option.some.injEq] at h
    obtain ⟨_, rfl⟩ := h
    exact ⟨page.disconnect_away, page.disconnect_sockets_length⟩
  | wake =>
    simp only [Page.step, Option.some.injEq] at h
    subst h
    simp [Page.wake, haway]
  | timer timer => simp [Page.step, htimers] at h
  | opened id =>
    simp only [Page.step] at h
    obtain ⟨socket, _, _, _, rfl⟩ := Page.fire_eq_some h
    simp [Page.onOpen, Page.closeSocket, Page.updateSocket, hws, haway]
  | message id frame now =>
    simp only [Page.step] at h
    obtain ⟨socket, _, _, _, rfl⟩ := Page.fire_eq_some h
    cases frame <;> simp [Page.onMessage, hws, haway]
  | errored id =>
    simp only [Page.step] at h
    obtain ⟨socket, _, _, _, rfl⟩ := Page.fire_eq_some h
    simp [Page.closeSocket, Page.updateSocket, haway]
  | died id =>
    simp only [Page.step] at h
    obtain ⟨socket, _, _, _, rfl⟩ := Page.fire_eq_some h
    simp [Page.updateSocket, haway]
  | closed id delay =>
    simp only [Page.step, Option.ite_none_right_eq_some] at h
    obtain ⟨socket, _, _, _, rfl⟩ := Page.fire_eq_some h.2
    simp [Page.onClose, Page.updateSocket, hws, haway]

variable {events : List (PageEvent S)}

theorem Page.Steady.run_away {page last : Page S} (hpage : page.Steady)
    (haway : page.client.intentionallyClosed = true)
    (h : page.run revision clientId events = some last) (hconnect : .connect ∉ events)
    (hmount : .mount ∉ events) : last.sockets.length = page.sockets.length := by
  refine (Page.run_keeps (P := fun next => next.Steady ∧ next.client.intentionallyClosed = true ∧
    next.sockets.length = page.sockets.length) ?_ ⟨hpage, haway, rfl⟩ h).2.2
  rintro event hevent before after ⟨hsteady, hclosed, hcount⟩ hstep
  have hquiet : event ≠ .connect ∧ event ≠ .mount := by
    refine ⟨?_, ?_⟩ <;> rintro rfl
    · exact hconnect hevent
    · exact hmount hevent
  obtain ⟨hclosed', hcount'⟩ := hsteady.step_away hclosed hstep hquiet.1 hquiet.2
  exact ⟨hsteady.step hstep, hclosed', hcount'.trans hcount⟩

theorem Page.step_cases (h : page.step revision clientId event = some next) :
    page.Keeps next ∨ ∃ id message now, id < page.sockets.length ∧ page.client.ws = some id ∧
      page.listening = true ∧ next = { page with
        store := page.store.applyMessage revision clientId now message
        delivered := page.delivered ++ [(id, message)] } := by
  by_cases hevent : ∀ other frame now, event ≠ .message other frame now
  · exact .inl (Page.step_keeps h hevent)
  · push Not at hevent
    obtain ⟨id, frame, now, rfl⟩ := hevent
    simp only [Page.step] at h
    obtain ⟨socket, hsocket, _, _, rfl⟩ := Page.fire_eq_some h
    unfold Page.onMessage
    split
    · exact .inl (.refl page)
    · next message =>
      split
      · exact .inl (.refl page)
      · next hheard =>
        push Not at hheard
        exact .inr ⟨id, message, now, (List.getElem?_eq_some_iff.mp hsocket).1, hheard.1,
          by simpa using hheard.2, rfl⟩

theorem PlayerStore.applyMessage_grows (revision : S → ℕ) (clientId : String) (now : ℕ)
    (store : PlayerStore S) (message : WsMessage S) {held : S} (hheld : store.state = some held)
    (hflag : store.hasStateThisConnection = true) :
    ∃ state, (store.applyMessage revision clientId now message).state = some state ∧
      revision held ≤ revision state ∧
      (store.applyMessage revision clientId now message).hasStateThisConnection = true := by
  have hsame : ∃ state, store.state = some state ∧ revision held ≤ revision state ∧
      store.hasStateThisConnection = true := ⟨held, hheld, Nat.le_refl _, hflag⟩
  have hfresh : ∀ state, ¬ store.outdated revision state = true →
      revision held ≤ revision state := by
    intro state hstate
    simpa [PlayerStore.outdated, hflag, hheld] using hstate
  cases message with
  | stateSnapshot state | stateChanged state =>
    unfold PlayerStore.applyMessage
    dsimp only
    split
    · exact hsame
    · rename_i hstate
      exact ⟨state, rfl, hfresh state hstate, rfl⟩
  | sfxFired | error => exact hsame

/-- While a socket is current and has told a state, the store holds one at least as recent. -/
def Page.Reached (revision : S → ℕ) (id floor : ℕ) (page : Page S) : Prop :=
  id < page.sockets.length ∧ (page.client.ws = some id → page.listening = true ∧
    page.store.hasStateThisConnection = true ∧
    ∃ held, page.store.state = some held ∧ floor ≤ revision held)

theorem Page.Reached.step {id floor : ℕ} (hreached : page.Reached revision id floor)
    (h : page.step revision clientId event = some next) : next.Reached revision id floor := by
  obtain ⟨hold, hheld⟩ := hreached
  obtain ⟨_, hstate, hcount, hkept⟩ | ⟨other, message, now, _, _, _, rfl⟩ := Page.step_cases h
  · refine ⟨by omega, fun hid => ?_⟩
    rcases hkept id hid with hnew | ⟨hws, hkept⟩
    · omega
    · obtain ⟨hlistening, hflag, held, hsome, hfloor⟩ := hheld hws
      obtain ⟨hlistening', hflag'⟩ := hkept hlistening hflag
      exact ⟨hlistening', hflag', held, hstate.trans hsome, hfloor⟩
  · refine ⟨hold, fun hid => ?_⟩
    obtain ⟨hlistening, hflag, held, hsome, hfloor⟩ := hheld hid
    obtain ⟨state, hstate, hgrows, hflag'⟩ :=
      PlayerStore.applyMessage_grows revision clientId now page.store message hsome hflag
    exact ⟨hlistening, hflag', state, hstate, Nat.le_trans hfloor hgrows⟩

theorem Page.Reached.run {id floor : ℕ} {page last : Page S}
    (hreached : page.Reached revision id floor) (h : page.run revision clientId events = some last) :
    last.Reached revision id floor :=
  Page.run_keeps (fun _ _ _ _ hbefore hstep => hbefore.step hstep) hreached h

theorem Page.Steady.first_taken {page : Page S} (hpage : page.Steady)
    (hlistening : page.listening = true) {id : ℕ} (hid : page.client.ws = some id)
    (hfirst : ∀ message, (id, message) ∈ page.delivered → message.state? = none)
    {message : WsMessage S} {state : S} (hstate : message.state? = some state) (now : ℕ) :
    (page.onMessage revision clientId now id (some message)).store.state = some state := by
  have hflag : page.store.hasStateThisConnection = false := by
    by_contra hflag
    obtain ⟨earlier, hmem, hcarries⟩ := hpage.told (by simpa using hflag) id hid
    exact hcarries (hfirst earlier hmem)
  have hfresh : page.store.outdated revision state = false := by
    simp [PlayerStore.outdated, hflag]
  unfold Page.onMessage
  dsimp only
  rw [if_neg (by simp [hid, hlistening])]
  cases message with
  | stateSnapshot other | stateChanged other =>
    cases hstate
    simp [PlayerStore.applyMessage, hfresh, PlayerStore.accept]
  | sfxFired | error => cases hstate

/-- A state of the current socket that was delivered is held, and no socket speaks before it is
made. -/
structure Page.Known (page : Page S) : Prop where
  past : ∀ id message, (id, message) ∈ page.delivered → id < page.sockets.length
  holds : ∀ id message, (id, message) ∈ page.delivered → message.state? ≠ none →
    page.client.ws = some id → page.listening = true ∧
      page.store.hasStateThisConnection = true ∧ ∃ held, page.store.state = some held

theorem PlayerStore.applyMessage_told (revision : S → ℕ) (clientId : String) (now : ℕ)
    (store : PlayerStore S) {message : WsMessage S} (hmessage : message.state? ≠ none) :
    (store.applyMessage revision clientId now message).hasStateThisConnection = true ∧
      ∃ held, (store.applyMessage revision clientId now message).state = some held := by
  have hold : ∀ state, store.outdated revision state = true →
      store.hasStateThisConnection = true ∧ ∃ held, store.state = some held := by
    intro state hstate
    simp only [PlayerStore.outdated, Bool.and_eq_true] at hstate
    cases hheld : store.state with
    | none => simp [hheld] at hstate
    | some held => exact ⟨hstate.1, held, rfl⟩
  cases message with
  | stateSnapshot state | stateChanged state =>
    unfold PlayerStore.applyMessage
    dsimp only
    split
    · rename_i hstate
      exact hold state hstate
    · exact ⟨rfl, state, rfl⟩
  | sfxFired | error => exact absurd rfl hmessage

theorem Page.Known.step (hknown : page.Known) (h : page.step revision clientId event = some next) :
    next.Known := by
  obtain ⟨hdelivered, hstate, hcount, hkept⟩ | ⟨other, message, now, hother, hid, hlistening, rfl⟩ :=
    Page.step_cases h
  · refine ⟨fun id message hmem => ?_, fun id message hmem hcarries hid => ?_⟩
    · rw [hdelivered] at hmem
      exact Nat.lt_of_lt_of_le (hknown.past id message hmem) hcount
    · rw [hdelivered] at hmem
      have hold := hknown.past id message hmem
      rcases hkept id hid with hnew | ⟨hws, hkept⟩
      · omega
      · obtain ⟨hlistening, hflag, held, hsome⟩ := hknown.holds id message hmem hcarries hws
        obtain ⟨hlistening', hflag'⟩ := hkept hlistening hflag
        exact ⟨hlistening', hflag', held, hstate.trans hsome⟩
  · refine ⟨fun id sent hmem => ?_, fun id sent hmem hcarries hws => ⟨hlistening, ?_⟩⟩
    · rcases List.mem_append.mp hmem with hmem | hmem
      · exact hknown.past id sent hmem
      · simp only [List.mem_singleton, Prod.mk.injEq] at hmem
        rw [hmem.1]
        exact hother
    · rcases List.mem_append.mp hmem with hmem | hmem
      · obtain ⟨_, hflag, held, hsome⟩ := hknown.holds id sent hmem hcarries hws
        obtain ⟨state, hstate, _, hflag'⟩ :=
          PlayerStore.applyMessage_grows revision clientId now page.store message hsome hflag
        exact ⟨hflag', state, hstate⟩
      · simp only [List.mem_singleton, Prod.mk.injEq] at hmem
        rw [hmem.2] at hcarries
        exact PlayerStore.applyMessage_told revision clientId now page.store hcarries

theorem Page.Known.run {page last : Page S} (hknown : page.Known)
    (h : page.run revision clientId events = some last) : last.Known :=
  Page.run_keeps (fun _ _ _ _ hbefore hstep => hbefore.step hstep) hknown h

theorem initialPage_known : (initialPage S).Known where
  past := by simp [initialPage]
  holds := by simp [initialPage]

theorem Page.step_count (h : page.step revision clientId event = some next) :
    page.sockets.length ≤ next.sockets.length := by
  obtain hkept | ⟨id, message, now, _, _, _, rfl⟩ := Page.step_cases h
  · exact hkept.count
  · exact le_rfl

theorem initialPage_dials {next : Page S}
    (h : (initialPage S).step revision clientId event = some next) :
    0 < next.sockets.length := by
  cases event with
  | mount =>
    simp only [Page.step, Option.ite_none_left_eq_some, Option.some.injEq] at h
    obtain ⟨_, rfl⟩ := h
    simp [Page.mount, Page.connect, initialPage, Page.setIntentionallyClosed, Page.clearReconnect,
      Page.openSocket]
  | wake =>
    simp only [Page.step, Option.some.injEq] at h
    subst h
    simp [Page.wake, Page.connect, initialPage, Page.setIntentionallyClosed, Page.clearReconnect,
      Page.openSocket]
  | _ => simp [Page.step, Page.fire, initialPage] at h

theorem initialPage_run_dials {page : Page S} (hevents : events ≠ [])
    (h : (initialPage S).run revision clientId events = some page) : 0 < page.sockets.length := by
  cases events with
  | nil => exact absurd rfl hevents
  | cons event rest =>
    simp only [Page.run] at h
    split at h
    · rename_i next hnext
      refine Page.run_keeps (P := fun page => 0 < page.sockets.length) ?_
        (initialPage_dials hnext) h
      exact fun _ _ _ _ hsome hstep => Nat.lt_of_lt_of_le hsome (Page.step_count hstep)
    · cases h

/-! ## The socket never splits or gets stuck -/

def PageEvent.socket? : PageEvent S → Option ℕ
  | .opened id | .message id _ _ | .errored id | .died id | .closed id _ => some id
  | _ => none

theorem Page.step_superseded (h : page.step revision clientId event = some next) {id : ℕ}
    (hevent : event.socket? = some id) (hid : page.client.ws ≠ some id) :
    next.client = page.client ∧ next.timers = page.timers ∧ next.store = page.store ∧
      next.delivered = page.delivered ∧ next.sockets.length = page.sockets.length := by
  cases event with
  | opened other =>
    cases hevent
    simp only [Page.step] at h
    obtain ⟨socket, _, _, _, rfl⟩ := Page.fire_eq_some h
    simp [Page.onOpen, Page.closeSocket, Page.updateSocket, hid]
  | message other frame now =>
    cases hevent
    simp only [Page.step] at h
    obtain ⟨socket, _, _, _, rfl⟩ := Page.fire_eq_some h
    cases frame <;> simp [Page.onMessage, hid]
  | errored other =>
    cases hevent
    simp only [Page.step] at h
    obtain ⟨socket, _, _, _, rfl⟩ := Page.fire_eq_some h
    simp [Page.closeSocket, Page.updateSocket]
  | died other =>
    cases hevent
    simp only [Page.step] at h
    obtain ⟨socket, _, _, _, rfl⟩ := Page.fire_eq_some h
    simp [Page.updateSocket]
  | closed other delay =>
    cases hevent
    simp only [Page.step, Option.ite_none_right_eq_some] at h
    obtain ⟨socket, _, _, _, rfl⟩ := Page.fire_eq_some h.2
    simp [Page.onClose, Page.updateSocket, hid]
  | _ => cases hevent

theorem Page.step_delivered (h : page.step revision clientId event = some next) :
    next.delivered = page.delivered ∨
      ∃ id message, page.client.ws = some id ∧
        next.delivered = page.delivered ++ [(id, message)] := by
  obtain hkept | ⟨id, message, now, _, hid, _, rfl⟩ := Page.step_cases h
  · exact .inl hkept.delivered
  · exact .inr ⟨id, message, hid, rfl⟩

theorem Page.Steady.one_timer {page : Page S} (hpage : page.Steady) : page.timers.length ≤ 1 := by
  rcases hpage.tracked with hnone | ⟨handle, delay, _, hone⟩
  · simp [hnone]
  · simp [hone]

/-- After any run: one socket at most is current and only its frames reach the listeners, one timer
at most is pending and only without a socket, and once anything has happened a client that is not
meant to be closed has one of the two.  A client that was disconnected opens nothing until it is
connected, and the store never goes back while a connection lasts, but takes the first state of the
next one. -/
theorem socket_never_splits (revision : S → ℕ) (clientId : String) {events : List (PageEvent S)}
    {page : Page S} (h : (initialPage S).run revision clientId events = some page) :
    (page.timers.length ≤ 1 ∧ (page.timers ≠ [] → page.client.ws = none)) ∧
    (events ≠ [] → page.client.intentionallyClosed = false →
      (∃ id socket, page.client.ws = some id ∧ page.sockets[id]? = some socket ∧
        socket.closeFired = false) ∨ page.timers ≠ []) ∧
    (∀ event next, page.step revision clientId event = some next →
      (next.delivered = page.delivered ∨ ∃ id message, page.client.ws = some id ∧
        next.delivered = page.delivered ++ [(id, message)]) ∧
      (∀ id, event.socket? = some id → page.client.ws ≠ some id →
        next.client = page.client ∧ next.timers = page.timers ∧ next.store = page.store ∧
          next.delivered = page.delivered ∧ next.sockets.length = page.sockets.length)) ∧
    (∀ event closed rest last, event = .disconnect ∨ event = .unmount →
      page.step revision clientId event = some closed →
      closed.run revision clientId rest = some last → .connect ∉ rest → .mount ∉ rest →
      last.sockets.length = page.sockets.length) ∧
    (∀ id message held rest last, (id, message) ∈ page.delivered → message.state? ≠ none →
      page.client.ws = some id → page.store.state = some held →
      page.run revision clientId rest = some last → last.client.ws = some id →
      ∃ state, last.store.state = some state ∧ revision held ≤ revision state) ∧
    (∀ id message state now next, (∀ earlier, (id, earlier) ∈ page.delivered →
        earlier.state? = none) →
      page.listening = true → page.client.ws = some id → message.state? = some state →
      page.step revision clientId (.message id (some message) now) = some next →
      next.store.state = some state) := by
  have hsteady : page.Steady := initialPage_steady.run h
  have hknown : page.Known := initialPage_known.run h
  refine ⟨⟨hsteady.one_timer, hsteady.waiting⟩, ?_, ?_, ?_, ?_, ?_⟩
  · intro hevents hopen
    have hsockets := initialPage_run_dials hevents h
    rcases hsteady.alive (List.ne_nil_of_length_pos hsockets) hopen with hws | htimers
    · obtain ⟨id, hid⟩ := Option.ne_none_iff_exists'.mp hws
      obtain ⟨socket, hsocket, hlive, _⟩ := hsteady.current id hid
      exact Or.inl ⟨id, socket, hid, hsocket, hlive⟩
    · exact Or.inr htimers
  · intro event next hstep
    exact ⟨Page.step_delivered hstep, fun id hevent hid => Page.step_superseded hstep hevent hid⟩
  · intro event closed rest last hevent hstep hrun hconnect hmount
    have haway : closed.client.intentionallyClosed = true ∧
        closed.sockets.length = page.sockets.length := by
      rcases hevent with rfl | rfl
      · simp only [Page.step, Option.ite_none_right_eq_some, Option.some.injEq] at hstep
        obtain ⟨_, rfl⟩ := hstep
        exact ⟨page.disconnect_away, page.disconnect_sockets_length⟩
      · simp only [Page.step, Option.ite_none_right_eq_some, Option.some.injEq] at hstep
        obtain ⟨_, rfl⟩ := hstep
        exact ⟨Page.disconnect_away _, Page.disconnect_sockets_length _⟩
    rw [(hsteady.step hstep).run_away haway.1 hrun hconnect hmount, haway.2]
  · intro id message held rest last hmem hcarries hid hheld hrun hlast
    obtain ⟨hlistening, hflag, _⟩ := hknown.holds id message hmem hcarries hid
    have hreached : page.Reached revision id (revision held) :=
      ⟨hknown.past id message hmem, fun _ => ⟨hlistening, hflag, held, hheld, le_rfl⟩⟩
    exact ((hreached.run hrun).2 hlast).2.2
  · intro id message state now next hfirst hlistening hid hstate hstep
    simp only [Page.step] at hstep
    obtain ⟨socket, _, _, _, rfl⟩ := Page.fire_eq_some hstep
    exact hsteady.first_taken hlistening hid hfirst hstate now

/-- Two connections: the second one's first state is older than what the store held. -/
theorem socket_never_splits_reconnect :
    ∃ page : Page ℕ, (initialPage ℕ).run id "dm"
        [.mount, .opened 0, .message 0 (some (.stateSnapshot 7)) 1, .closed 0 500,
          .timer ⟨0, 500⟩, .opened 1] = some page ∧
      page.store.state = some 7 ∧
      ∀ next, page.step id "dm" (.message 1 (some (.stateSnapshot 3)) 2) = some next →
        next.store.state = some 3 := by
  refine ⟨_, rfl, rfl, fun next hstep => ?_⟩
  have hrun : (initialPage ℕ).run id "dm"
      [.mount, .opened 0, .message 0 (some (.stateSnapshot 7)) 1, .closed 0 500,
        .timer ⟨0, 500⟩, .opened 1] = some _ := rfl
  refine (socket_never_splits id "dm" hrun).2.2.2.2.2 1 (.stateSnapshot 3) 3 2 next ?_ rfl rfl
    rfl hstep
  intro earlier hmem
  simp [Page.openSocket, Page.onOpen, Page.onMessage, Page.mount, Page.connect, initialPage,
    Page.setStatus, Page.updateSocket, Page.resetAttempts, Page.onClose, Page.scheduleReconnect,
    Page.setWs, Page.setIntentionallyClosed, Page.clearReconnect] at hmem

/-- Before anything happens to a page, its client is not meant to be closed and has neither a socket
nor a timer. -/
theorem initialPage_idle :
    ¬ ∀ (events : List (PageEvent ℕ)) (page : Page ℕ),
      (initialPage ℕ).run id "dm" events = some page →
      page.client.intentionallyClosed = false →
      (∃ id socket, page.client.ws = some id ∧ page.sockets[id]? = some socket ∧
        socket.closeFired = false) ∨ page.timers ≠ [] := by
  intro hclaim
  rcases hclaim [] (initialPage ℕ) rfl rfl with ⟨id, socket, hid, _⟩ | htimers
  · cases hid
  · exact htimers rfl

end Browser

end MusicServer
