/-
# The socket of a browser

`core/ws.ts` and `core/playerStore.ts`: a page holds one WebSocket at a time, dials again when it
is lost, and keeps the latest player state it was told.  Every socket the page ever made can still
fire events, and whoever closed the last one may not want another.
-/
import Mathlib

namespace MusicServer

namespace Browser

/-! ## Sockets, messages and the store -/

inductive WsStatus where
  | disconnected
  | connecting
  | connected
  deriving DecidableEq

inductive ReadyState where
  | connecting
  | «open»
  | closing
  | closed
  deriving DecidableEq

/-- A WebSocket, with the events it has fired. -/
structure Socket where
  readyState : ReadyState
  opened : Bool
  closeFired : Bool
  deriving DecidableEq

/-- A frame that passed `validateWsMessage`; the last ones do not concern the store. -/
inductive WsMessage (S : Type) where
  | stateSnapshot (state : S)
  | stateChanged (state : S)
  | sfxFired
  | error

def WsMessage.state? {S : Type} : WsMessage S → Option S
  | stateSnapshot state => some state
  | stateChanged state => some state
  | _ => none

structure PlayerStore (S : Type) where
  state : Option S
  myDeviceId : Option String
  wsStatus : WsStatus
  stateReceivedAt : ℕ
  hasStateThisConnection : Bool

structure WsClient where
  ws : Option ℕ
  reconnectTimeout : Option ℕ
  reconnectAttempts : ℕ
  intentionallyClosed : Bool
  status : WsStatus

/-- A timer that was set and has not fired. -/
structure Timer where
  id : ℕ
  delay : ℕ
  deriving DecidableEq

/-- A page: its client, all its sockets, its timers, and the store, which listens while the shell is
mounted. -/
structure Page (S : Type) where
  client : WsClient
  sockets : List Socket
  timers : List Timer
  nextTimer : ℕ
  listening : Bool
  store : PlayerStore S
  /-- What reached the store, and from which socket. -/
  delivered : List (ℕ × WsMessage S)

variable {S : Type}

def initialPage (S : Type) : Page S where
  client := ⟨none, none, 0, false, .disconnected⟩
  sockets := []
  timers := []
  nextTimer := 0
  listening := false
  store := ⟨none, none, .disconnected, 0, false⟩
  delivered := []

namespace PlayerStore

/-- A state older than one of this connection is dropped. -/
def outdated (revision : S → ℕ) (store : PlayerStore S) (state : S) : Bool :=
  store.hasStateThisConnection && store.state.any fun held => revision state < revision held

def accept (store : PlayerStore S) (state : S) (device : Option String) (now : ℕ) :
    PlayerStore S :=
  { store with
    state := some state
    myDeviceId := device
    stateReceivedAt := now
    hasStateThisConnection := true }

def applyMessage (revision : S → ℕ) (clientId : String) (now : ℕ) (store : PlayerStore S)
    (message : WsMessage S) : PlayerStore S :=
  match message with
  | .stateSnapshot state =>
    if store.outdated revision state then store else store.accept state (some clientId) now
  | .stateChanged state =>
    if store.outdated revision state then store else store.accept state store.myDeviceId now
  | .sfxFired | .error => store

def setStatus (store : PlayerStore S) (status : WsStatus) : PlayerStore S :=
  { store with
    wsStatus := status
    hasStateThisConnection :=
      if status = .connecting then false else store.hasStateThisConnection }

end PlayerStore

/-! ## The client -/

namespace Page

def reconnectBaseMs : ℕ := 1000

def reconnectMaxMs : ℕ := 30000

/-- The longest delay after so many attempts. -/
def backoff (attempts : ℕ) : ℕ := min reconnectMaxMs (reconnectBaseMs * 2 ^ attempts)

def setStatus (page : Page S) (status : WsStatus) : Page S :=
  if page.client.status = status then page
  else { page with
    client := { page.client with status := status }
    store := if page.listening then page.store.setStatus status else page.store }

def setWs (page : Page S) (ws : Option ℕ) : Page S :=
  { page with client := { page.client with ws := ws } }

def openSocket (page : Page S) : Page S :=
  let page := page.setStatus .connecting
  { page with
    sockets := page.sockets ++ [⟨.connecting, false, false⟩]
    client := { page.client with ws := some page.sockets.length } }

def updateSocket (page : Page S) (id : ℕ) (change : Socket → Socket) : Page S :=
  { page with sockets := page.sockets.modify id change }

def closeSocket (page : Page S) (id : ℕ) : Page S :=
  page.updateSocket id fun socket =>
    { socket with
      readyState := match socket.readyState with
        | .connecting | .open => .closing
        | other => other }

def readyState (page : Page S) (id : ℕ) : Option ReadyState :=
  page.sockets[id]?.map (·.readyState)

def clearReconnect (page : Page S) : Page S :=
  match page.client.reconnectTimeout with
  | none => page
  | some handle => { page with
    timers := page.timers.filter fun timer => timer.id ≠ handle
    client := { page.client with reconnectTimeout := none } }

def setIntentionallyClosed (page : Page S) (value : Bool) : Page S :=
  { page with client := { page.client with intentionallyClosed := value } }

def resetAttempts (page : Page S) : Page S :=
  { page with client := { page.client with reconnectAttempts := 0 } }

def connect (page : Page S) : Page S :=
  let page := (page.setIntentionallyClosed false).clearReconnect
  match page.client.ws with
  | some id =>
    if page.readyState id ≠ some .closed then page else page.resetAttempts.openSocket
  | none => page.resetAttempts.openSocket

def disconnect (page : Page S) : Page S :=
  let page := (page.setIntentionallyClosed true).clearReconnect
  let page := match page.client.ws with
    | some id => (page.closeSocket id).setWs none
    | none => page
  page.setStatus .disconnected

def wake (page : Page S) : Page S :=
  if page.client.intentionallyClosed then page
  else
    match page.client.ws with
    | some id =>
      if page.readyState id = some .open then page
      else ((page.setWs none).closeSocket id).connect
    | none => page.connect

/-! ## Handlers -/

def onOpen (page : Page S) (id : ℕ) : Page S :=
  if page.client.ws ≠ some id then page.closeSocket id
  else page.resetAttempts.setStatus .connected

/-- A frame that did not pass the validation reaches nobody. -/
def onMessage (revision : S → ℕ) (clientId : String) (now : ℕ) (page : Page S) (id : ℕ)
    (frame : Option (WsMessage S)) : Page S :=
  match frame with
  | none => page
  | some message =>
    if page.client.ws ≠ some id ∨ page.listening = false then page
    else { page with
      store := page.store.applyMessage revision clientId now message
      delivered := page.delivered ++ [(id, message)] }

def scheduleReconnect (page : Page S) (delay : ℕ) : Page S :=
  { page with
    client := { page.client with
      reconnectAttempts := page.client.reconnectAttempts + 1
      reconnectTimeout := some page.nextTimer }
    timers := page.timers ++ [⟨page.nextTimer, delay⟩]
    nextTimer := page.nextTimer + 1 }

def onClose (page : Page S) (id delay : ℕ) : Page S :=
  if page.client.ws ≠ some id then page
  else
    let page := (page.setWs none).setStatus .disconnected
    if page.client.intentionallyClosed then page else page.scheduleReconnect delay

/-- The effect of the shell: it listens, is told the status, and connects. -/
def mount (page : Page S) : Page S :=
  ({ page with
    listening := true
    store := page.store.setStatus page.client.status } : Page S).connect

def unmount (page : Page S) : Page S := ({ page with listening := false } : Page S).disconnect

end Page

/-! ## Events -/

/-- What can happen to a page.  Whoever calls `connect` and `disconnect` is the shell, while it is
mounted; any socket that has not fired its last event can fire. -/
inductive PageEvent (S : Type) where
  | mount
  | unmount
  | connect
  | disconnect
  | wake
  | timer (timer : Timer)
  | opened (id : ℕ)
  | message (id : ℕ) (frame : Option (WsMessage S)) (now : ℕ)
  | errored (id : ℕ)
  | died (id : ℕ)
  | closed (id delay : ℕ)

/-- The handshake is over; where the page closed the socket meanwhile, the event may still come. -/
def Socket.fireOpen (socket : Socket) : Socket :=
  { socket with
    readyState := if socket.readyState = .connecting then .open else socket.readyState
    opened := true }

def Socket.die (socket : Socket) : Socket := { socket with readyState := .closed }

def Socket.fireClose (socket : Socket) : Socket :=
  { socket with readyState := .closed, closeFired := true }

/-- An event of a socket that has not fired its last. -/
def Page.fire (page : Page S) (id : ℕ) (allowed : Socket → Bool) (handle : Page S → Page S) :
    Option (Page S) :=
  match page.sockets[id]? with
  | some socket =>
    if socket.closeFired = false ∧ allowed socket = true then some (handle page) else none
  | none => none

def Page.step (revision : S → ℕ) (clientId : String) (page : Page S) :
    PageEvent S → Option (Page S)
  | .mount => if page.listening then none else some page.mount
  | .unmount => if page.listening then some page.unmount else none
  | .connect => if page.listening then some page.connect else none
  | .disconnect => if page.listening then some page.disconnect else none
  | .wake => some page.wake
  | .timer timer =>
    if timer ∈ page.timers then
      some ({ page with
        timers := page.timers.filter fun other => other ≠ timer } : Page S).openSocket
    else none
  | .opened id =>
    page.fire id (fun socket => !socket.opened && socket.readyState ≠ .closed) fun page =>
      (page.updateSocket id Socket.fireOpen).onOpen id
  | .message id frame now =>
    page.fire id (·.opened) fun page => page.onMessage revision clientId now id frame
  | .errored id => page.fire id (fun _ => true) fun page => page.closeSocket id
  | .died id => page.fire id (fun _ => true) fun page => page.updateSocket id Socket.die
  | .closed id delay =>
    if delay ≤ Page.backoff page.client.reconnectAttempts then
      page.fire id (fun _ => true) fun page =>
        (page.updateSocket id Socket.fireClose).onClose id delay
    else none

/-- The events of a page, one after another. -/
def Page.run (revision : S → ℕ) (clientId : String) :
    Page S → List (PageEvent S) → Option (Page S)
  | page, [] => some page
  | page, event :: rest =>
    match page.step revision clientId event with
    | some next => next.run revision clientId rest
    | none => none

/-! ## What each operation leaves alone -/

section Operations

variable (page : Page S)

@[simp] theorem Page.setStatus_status (status : WsStatus) :
    (page.setStatus status).client.status = status := by
  unfold Page.setStatus
  split
  · assumption
  · rfl

@[simp] theorem Page.setStatus_ws (status : WsStatus) :
    (page.setStatus status).client.ws = page.client.ws := by
  unfold Page.setStatus; split <;> rfl

@[simp] theorem Page.setStatus_intentionallyClosed (status : WsStatus) :
    (page.setStatus status).client.intentionallyClosed = page.client.intentionallyClosed := by
  unfold Page.setStatus; split <;> rfl

@[simp] theorem Page.setStatus_reconnectTimeout (status : WsStatus) :
    (page.setStatus status).client.reconnectTimeout = page.client.reconnectTimeout := by
  unfold Page.setStatus; split <;> rfl

@[simp] theorem Page.setStatus_sockets (status : WsStatus) :
    (page.setStatus status).sockets = page.sockets := by
  unfold Page.setStatus; split <;> rfl

@[simp] theorem Page.setStatus_timers (status : WsStatus) :
    (page.setStatus status).timers = page.timers := by
  unfold Page.setStatus; split <;> rfl

@[simp] theorem Page.setStatus_listening (status : WsStatus) :
    (page.setStatus status).listening = page.listening := by
  unfold Page.setStatus; split <;> rfl

@[simp] theorem Page.setStatus_delivered (status : WsStatus) :
    (page.setStatus status).delivered = page.delivered := by
  unfold Page.setStatus; split <;> rfl

@[simp] theorem Page.setStatus_state (status : WsStatus) :
    (page.setStatus status).store.state = page.store.state := by
  unfold Page.setStatus
  split
  · rfl
  · dsimp only
    split <;> rfl

theorem Page.setStatus_flag {status : WsStatus} (hstatus : status ≠ .connecting) :
    (page.setStatus status).store.hasStateThisConnection = page.store.hasStateThisConnection := by
  unfold Page.setStatus PlayerStore.setStatus
  simp only [if_neg hstatus]
  split
  · rfl
  · dsimp only
    split <;> rfl

theorem Page.setStatus_connecting
    (hfresh : page.store.hasStateThisConnection = true → page.client.status ≠ .connecting)
    (hheard : page.store.hasStateThisConnection = true → page.listening = true) :
    (page.setStatus .connecting).store.hasStateThisConnection = false := by
  unfold Page.setStatus PlayerStore.setStatus
  split
  · rename_i hsame
    exact Bool.eq_false_iff.mpr fun hflag => hfresh hflag hsame
  · dsimp only
    split
    · simp
    · rename_i hdeaf
      exact Bool.eq_false_iff.mpr fun hflag => hdeaf (hheard hflag)

theorem Page.clearReconnect_client :
    page.clearReconnect.client = { page.client with reconnectTimeout := none } := by
  unfold Page.clearReconnect
  split
  · rename_i hnone
    rw [← hnone]
  · rfl

theorem Page.clearReconnect_store : page.clearReconnect.store = page.store := by
  unfold Page.clearReconnect; split <;> rfl

theorem Page.clearReconnect_sockets : page.clearReconnect.sockets = page.sockets := by
  unfold Page.clearReconnect; split <;> rfl

theorem Page.clearReconnect_listening : page.clearReconnect.listening = page.listening := by
  unfold Page.clearReconnect; split <;> rfl

theorem Page.clearReconnect_delivered : page.clearReconnect.delivered = page.delivered := by
  unfold Page.clearReconnect; split <;> rfl

/-- The only timer there can be is the one the client remembers. -/
def Page.Tracked : Prop :=
  page.timers = [] ∨
    ∃ handle delay, page.client.reconnectTimeout = some handle ∧
      page.timers = [⟨handle, delay⟩]

theorem Page.clearReconnect_timers (htracked : page.Tracked) : page.clearReconnect.timers = [] := by
  unfold Page.clearReconnect
  rcases htracked with hnone | ⟨handle, delay, hhandle, htimers⟩
  · split
    · exact hnone
    · simp [hnone]
  · simp [hhandle, htimers]

end Operations

/-! ## The invariant -/

/-- What holds of every page, whatever has happened to it. -/
structure Page.Steady (page : Page S) : Prop where
  tracked : page.Tracked
  waiting : page.timers ≠ [] → page.client.ws = none
  current : ∀ id, page.client.ws = some id →
    ∃ socket, page.sockets[id]? = some socket ∧ socket.closeFired = false ∧
      (socket.opened = true → page.client.status = .connected)
  away : page.client.intentionallyClosed = true → page.client.ws = none ∧ page.timers = []
  fresh : page.store.hasStateThisConnection = true → page.client.status ≠ .connecting
  heard : page.store.hasStateThisConnection = true → page.client.intentionallyClosed = false →
    page.listening = true
  alive : page.sockets ≠ [] → page.client.intentionallyClosed = false →
    page.client.ws ≠ none ∨ page.timers ≠ []
  told : page.store.hasStateThisConnection = true → ∀ id, page.client.ws = some id →
    ∃ message, (id, message) ∈ page.delivered ∧ message.state? ≠ none

theorem initialPage_steady : (initialPage S).Steady where
  tracked := Or.inl rfl
  waiting := fun _ => rfl
  current := by simp [initialPage]
  away := by simp [initialPage]
  fresh := by simp [initialPage]
  heard := by simp [initialPage]
  alive := by simp [initialPage]
  told := by simp [initialPage]

variable {page : Page S}

theorem Page.openSocket_steady (htimers : page.timers = [])
    (hopen : page.client.intentionallyClosed = false)
    (hfresh : page.store.hasStateThisConnection = true → page.client.status ≠ .connecting)
    (hheard : page.store.hasStateThisConnection = true → page.listening = true) :
    page.openSocket.Steady := by
  have hflag := page.setStatus_connecting hfresh hheard
  unfold Page.openSocket
  refine ⟨Or.inl ?_, ?_, ?_, ?_, ?_, ?_, ?_, ?_⟩
  · simpa using htimers
  · simp [htimers]
  · intro id hid
    simp only [Page.setStatus_sockets, Option.some.injEq] at hid
    subst hid
    simp
  · simp [hopen]
  · simp [hflag]
  · simp [hflag]
  · simp
  · simp [hflag]

theorem Page.connect_opens (htracked : page.Tracked)
    (hfresh : page.store.hasStateThisConnection = true → page.client.status ≠ .connecting)
    (hheard : page.store.hasStateThisConnection = true → page.listening = true)
    (hlost : ∀ id, page.client.ws = some id → page.readyState id = some .closed) :
    page.connect.Steady := by
  have hdial :
      (page.setIntentionallyClosed false).clearReconnect.resetAttempts.openSocket.Steady := by
    refine Page.openSocket_steady ?_ ?_ ?_ ?_
    · exact Page.clearReconnect_timers _ htracked
    · simp [Page.resetAttempts, Page.clearReconnect_client, Page.setIntentionallyClosed]
    · simpa [Page.resetAttempts, Page.clearReconnect_client, Page.clearReconnect_store,
        Page.setIntentionallyClosed] using hfresh
    · simpa [Page.resetAttempts, Page.clearReconnect_listening, Page.clearReconnect_store,
        Page.setIntentionallyClosed] using hheard
  unfold Page.connect
  dsimp only
  split
  · rename_i id hid
    have hclosed :
        (page.setIntentionallyClosed false).clearReconnect.readyState id = some .closed := by
      have hws : page.client.ws = some id := by
        simpa [Page.clearReconnect_client, Page.setIntentionallyClosed] using hid
      simpa [Page.readyState, Page.clearReconnect_sockets, Page.setIntentionallyClosed]
        using hlost id hws
    rw [if_neg (by simpa using hclosed)]
    exact hdial
  · exact hdial

theorem Page.connect_keeps {id : ℕ} (hid : page.client.ws = some id)
    (hready : page.readyState id ≠ some .closed) :
    page.connect = (page.setIntentionallyClosed false).clearReconnect := by
  have hws : (page.setIntentionallyClosed false).clearReconnect.client.ws = some id := by
    simpa [Page.clearReconnect_client, Page.setIntentionallyClosed] using hid
  have hstate :
      (page.setIntentionallyClosed false).clearReconnect.readyState id ≠ some .closed := by
    simpa [Page.readyState, Page.clearReconnect_sockets, Page.setIntentionallyClosed] using hready
  unfold Page.connect
  simp only [hws]
  rw [if_pos hstate]

theorem Page.Steady.connect (hpage : page.Steady) (hlistening : page.listening = true) :
    page.connect.Steady := by
  by_cases hlost : ∀ id, page.client.ws = some id → page.readyState id = some .closed
  · exact Page.connect_opens hpage.tracked hpage.fresh (fun _ => hlistening) hlost
  · push Not at hlost
    obtain ⟨id, hid, hready⟩ := hlost
    rw [Page.connect_keeps hid hready]
    have htimers : (page.setIntentionallyClosed false).clearReconnect.timers = [] :=
      Page.clearReconnect_timers _ hpage.tracked
    refine ⟨Or.inl htimers, fun h => absurd htimers h, ?_, ?_, ?_, ?_, ?_, ?_⟩
    · simpa [Page.clearReconnect_client, Page.clearReconnect_sockets, Page.setIntentionallyClosed]
        using hpage.current
    · simp [Page.clearReconnect_client, Page.setIntentionallyClosed]
    · simpa [Page.clearReconnect_client, Page.clearReconnect_store, Page.setIntentionallyClosed]
        using hpage.fresh
    · simp [Page.clearReconnect_listening, Page.setIntentionallyClosed, hlistening]
    · simp [Page.clearReconnect_client, Page.setIntentionallyClosed, hid]
    · simpa [Page.clearReconnect_client, Page.clearReconnect_store, Page.clearReconnect_delivered,
        Page.setIntentionallyClosed] using hpage.told

theorem Page.disconnect_steady (htracked : page.Tracked) :
    page.disconnect.Steady := by
  have htimers : (page.setIntentionallyClosed true).clearReconnect.timers = [] :=
    Page.clearReconnect_timers _ htracked
  -- the socket is let go, then the status is told: both branches meet here
  have hoff : ∀ off : Page S, off.timers = [] → off.client.ws = none →
      off.client.intentionallyClosed = true → (off.setStatus .disconnected).Steady := by
    intro off hoffTimers hoffWs hoffClosed
    refine ⟨Or.inl (by simpa using hoffTimers), by simp [hoffWs], by simp [hoffWs],
      by simp [hoffWs, hoffTimers], by simp, by simp [hoffClosed], by simp [hoffClosed],
      by simp [hoffWs]⟩
  unfold Page.disconnect
  dsimp only
  split
  · refine hoff _ ?_ rfl ?_
    · exact htimers
    · simp [Page.setWs, Page.closeSocket, Page.updateSocket, Page.clearReconnect_client,
        Page.setIntentionallyClosed]
  · rename_i hnone
    refine hoff _ htimers hnone ?_
    simp [Page.clearReconnect_client, Page.setIntentionallyClosed]

theorem Page.Steady.updateSocket (hpage : page.Steady) {id : ℕ} {change : Socket → Socket}
    (hchange : page.client.ws = some id → ∀ socket,
      (change socket).closeFired = socket.closeFired ∧
      (change socket).opened = socket.opened) :
    (page.updateSocket id change).Steady := by
  refine ⟨hpage.tracked, hpage.waiting, ?_, hpage.away, hpage.fresh, hpage.heard, ?_, hpage.told⟩
  · intro other hother
    obtain ⟨socket, hsocket, hlive, hopened⟩ := hpage.current other hother
    by_cases hsame : id = other
    · subst hsame
      obtain ⟨hclose, hopen⟩ := hchange hother socket
      refine ⟨change socket, ?_, hclose.trans hlive, ?_⟩
      · simp [Page.updateSocket, hsocket]
      · rw [hopen]
        exact hopened
    · refine ⟨socket, ?_, hlive, hopened⟩
      simp [Page.updateSocket, hsocket, hsame]
  · intro hsockets
    refine hpage.alive fun hempty => hsockets ?_
    simp [Page.updateSocket, hempty]

theorem Page.Steady.closeSocket (hpage : page.Steady) (id : ℕ) :
    (page.closeSocket id).Steady :=
  hpage.updateSocket fun _ _ => ⟨rfl, rfl⟩

theorem Page.Steady.wake (hpage : page.Steady) : page.wake.Steady := by
  unfold Page.wake
  split
  · exact hpage
  · rename_i hopen
    have hheard : page.store.hasStateThisConnection = true → page.listening = true :=
      fun hflag => hpage.heard hflag (by simpa using hopen)
    split
    · rename_i id hid
      split
      · exact hpage
      · exact Page.connect_opens hpage.tracked hpage.fresh hheard fun _ h => by cases h
    · rename_i hnone
      refine Page.connect_opens hpage.tracked hpage.fresh hheard fun id hid => ?_
      rw [hnone] at hid
      cases hid

theorem Page.Steady.timer (hpage : page.Steady) {timer : Timer} (htimer : timer ∈ page.timers) :
    ({ page with
      timers := page.timers.filter fun other => other ≠ timer } : Page S).openSocket.Steady := by
  have hopen : page.client.intentionallyClosed = false := by
    by_contra haway
    have hempty := (hpage.away (by simpa using haway)).2
    rw [hempty] at htimer
    cases htimer
  refine Page.openSocket_steady ?_ hopen hpage.fresh fun hflag => hpage.heard hflag hopen
  rcases hpage.tracked with hnone | ⟨handle, delay, _, hone⟩
  · rw [hnone] at htimer
    cases htimer
  · rw [hone, List.mem_singleton] at htimer
    simp [hone, htimer]

theorem Page.Steady.onOpen (hpage : page.Steady) (id : ℕ) :
    ((page.updateSocket id Socket.fireOpen).onOpen id).Steady := by
  by_cases hid : page.client.ws = some id
  · obtain ⟨socket, hsocket, hlive, hopened⟩ := hpage.current id hid
    have hws : (page.updateSocket id Socket.fireOpen).client.ws = some id := hid
    have hshape : (page.updateSocket id Socket.fireOpen).onOpen id =
        (page.updateSocket id Socket.fireOpen).resetAttempts.setStatus .connected := by
      unfold Page.onOpen
      rw [if_neg (by simpa using hws)]
    have hflag := (page.updateSocket id Socket.fireOpen).resetAttempts.setStatus_flag
      (show WsStatus.connected ≠ .connecting by decide)
    rw [hshape]
    refine ⟨?_, ?_, ?_, ?_, ?_, ?_, ?_, ?_⟩
    · have htracked := hpage.tracked
      simp only [Page.Tracked, Page.setStatus_timers, Page.setStatus_reconnectTimeout]
      exact htracked
    · rw [Page.setStatus_timers, Page.setStatus_ws]
      exact hpage.waiting
    · intro other hother
      rw [Page.setStatus_ws] at hother
      have hsame : id = other := Option.some.inj (hid.symm.trans hother)
      subst hsame
      refine ⟨socket.fireOpen, ?_, hlive, fun _ => Page.setStatus_status _ _⟩
      simp [Page.updateSocket, Page.resetAttempts, hsocket]
    · rw [Page.setStatus_timers, Page.setStatus_ws, Page.setStatus_intentionallyClosed]
      exact hpage.away
    · simp
    · rw [hflag, Page.setStatus_intentionallyClosed, Page.setStatus_listening]
      exact hpage.heard
    · intro _ _
      rw [Page.setStatus_ws]
      left
      simp [Page.resetAttempts, hws]
    · rw [hflag, Page.setStatus_ws, Page.setStatus_delivered]
      exact hpage.told
  · have hother : (page.updateSocket id Socket.fireOpen).client.ws ≠ some id := hid
    unfold Page.onOpen
    rw [if_pos hother]
    exact (hpage.updateSocket fun h => absurd h hid).closeSocket id

theorem Page.Steady.onClose (hpage : page.Steady) (id delay : ℕ) :
    ((page.updateSocket id Socket.fireClose).onClose id delay).Steady := by
  by_cases hid : page.client.ws = some id
  · have hws : (page.updateSocket id Socket.fireClose).client.ws = some id := hid
    have hnone : page.timers = [] := by
      by_contra hsome
      rw [hpage.waiting hsome] at hid
      cases hid
    have hopen : page.client.intentionallyClosed = false := by
      by_contra haway
      rw [(hpage.away (by simpa using haway)).1] at hid
      cases hid
    have hflag := ((page.updateSocket id Socket.fireClose).setWs none).setStatus_flag
      (show WsStatus.disconnected ≠ .connecting by decide)
    unfold Page.onClose
    rw [if_neg (by simpa using hws)]
    dsimp only
    rw [if_neg (by simpa [Page.setWs, Page.updateSocket] using hopen)]
    refine ⟨Or.inr ⟨_, delay, rfl, ?_⟩, ?_, ?_, ?_, ?_, ?_, ?_, ?_⟩
    · simp [Page.scheduleReconnect, Page.setWs, Page.updateSocket, hnone]
    · simp [Page.scheduleReconnect, Page.setWs]
    · simp [Page.scheduleReconnect, Page.setWs]
    · simp [Page.scheduleReconnect, Page.setWs, Page.updateSocket, hopen]
    · simp [Page.scheduleReconnect]
    · intro hstate hclosed
      have hstate' : page.store.hasStateThisConnection = true := by
        rw [← hstate]
        exact hflag.symm
      simpa [Page.scheduleReconnect, Page.setWs, Page.updateSocket] using
        hpage.heard hstate' hopen
    · simp [Page.scheduleReconnect]
    · simp [Page.scheduleReconnect, Page.setWs]
  · have hother : (page.updateSocket id Socket.fireClose).client.ws ≠ some id := hid
    unfold Page.onClose
    rw [if_pos hother]
    exact hpage.updateSocket fun h => absurd h hid

variable {clientId : String} {revision : S → ℕ}

theorem Page.Steady.onMessage {now : ℕ} (hpage : page.Steady) {id : ℕ}
    (hopened : ∀ socket, page.sockets[id]? = some socket → socket.opened = true)
    (frame : Option (WsMessage S)) :
    (page.onMessage revision clientId now id frame).Steady := by
  unfold Page.onMessage
  split
  · exact hpage
  · rename_i message
    split
    · exact hpage
    · rename_i hheard
      push Not at hheard
      obtain ⟨hid, hlistening⟩ := hheard
      obtain ⟨socket, hsocket, _, hconnected⟩ := hpage.current id hid
      have hstatus := hconnected (hopened socket hsocket)
      refine ⟨hpage.tracked, hpage.waiting, hpage.current, hpage.away, ?_, ?_, hpage.alive, ?_⟩
      · simp [hstatus]
      · simpa using fun _ _ => hlistening
      · intro hflag other hother
        have hsame : id = other := Option.some.inj (hid.symm.trans hother)
        subst hsame
        -- either the state is the first of this connection, or one was there before
        by_cases hstate : message.state? = none
        · have hsilent : page.store.applyMessage revision clientId now message = page.store := by
            cases message with
            | stateSnapshot state | stateChanged state => cases hstate
            | sfxFired => rfl
            | error => rfl
          rw [hsilent] at hflag
          obtain ⟨first, hfirst, hcarries⟩ := hpage.told hflag id hid
          exact ⟨first, List.mem_append_left _ hfirst, hcarries⟩
        · exact ⟨message, by simp, hstate⟩

theorem Page.fire_eq_some {page next : Page S} {id : ℕ} {allowed : Socket → Bool}
    {handle : Page S → Page S} (h : page.fire id allowed handle = some next) :
    ∃ socket, page.sockets[id]? = some socket ∧ socket.closeFired = false ∧
      allowed socket = true ∧ next = handle page := by
  unfold Page.fire at h
  split at h
  · rename_i socket hsocket
    split at h
    · rename_i hallowed
      exact ⟨socket, hsocket, hallowed.1, hallowed.2, (Option.some.inj h).symm⟩
    · cases h
  · cases h

theorem Page.Steady.step {page next : Page S} (hpage : page.Steady) {event : PageEvent S}
    (h : page.step revision clientId event = some next) :
    next.Steady := by
  cases event with
  | mount =>
    simp only [Page.step, Option.ite_none_left_eq_some, Option.some.injEq] at h
    obtain ⟨_, rfl⟩ := h
    have hstore : (page.store.setStatus page.client.status).hasStateThisConnection = true →
        page.store.hasStateThisConnection = true := by
      simp only [PlayerStore.setStatus]
      split <;> simp
    refine Page.Steady.connect ⟨hpage.tracked, hpage.waiting, hpage.current, hpage.away, ?_, ?_,
      hpage.alive, ?_⟩ rfl
    · exact fun hflag => hpage.fresh (hstore hflag)
    · exact fun _ _ => rfl
    · exact fun hflag => hpage.told (hstore hflag)
  | unmount | disconnect =>
    simp only [Page.step, Option.ite_none_right_eq_some, Option.some.injEq] at h
    obtain ⟨_, rfl⟩ := h
    exact Page.disconnect_steady hpage.tracked
  | connect =>
    simp only [Page.step, Option.ite_none_right_eq_some, Option.some.injEq] at h
    obtain ⟨hlistening, rfl⟩ := h
    exact hpage.connect hlistening
  | wake =>
    simp only [Page.step, Option.some.injEq] at h
    subst h
    exact hpage.wake
  | timer timer =>
    simp only [Page.step, Option.ite_none_right_eq_some, Option.some.injEq] at h
    obtain ⟨htimer, rfl⟩ := h
    exact hpage.timer htimer
  | opened id =>
    simp only [Page.step] at h
    obtain ⟨socket, _, _, _, rfl⟩ := Page.fire_eq_some h
    exact hpage.onOpen id
  | message id frame now =>
    simp only [Page.step] at h
    obtain ⟨socket, hsocket, _, hopened, rfl⟩ := Page.fire_eq_some h
    refine hpage.onMessage (fun other hother => ?_) frame
    rw [hsocket] at hother
    cases hother
    exact hopened
  | errored id =>
    simp only [Page.step] at h
    obtain ⟨socket, _, _, _, rfl⟩ := Page.fire_eq_some h
    exact hpage.closeSocket id
  | died id =>
    simp only [Page.step] at h
    obtain ⟨socket, _, _, _, rfl⟩ := Page.fire_eq_some h
    exact hpage.updateSocket fun _ _ => ⟨rfl, rfl⟩
  | closed id delay =>
    simp only [Page.step, Option.ite_none_right_eq_some] at h
    obtain ⟨socket, _, _, _, rfl⟩ := Page.fire_eq_some h.2
    exact hpage.onClose id delay

theorem Page.run_keeps {P : Page S → Prop} {events : List (PageEvent S)}
    (hstep : ∀ event ∈ events, ∀ page next : Page S, P page →
      page.step revision clientId event = some next → P next) {page last : Page S} (hpage : P page)
    (h : page.run revision clientId events = some last) :
    P last := by
  induction events generalizing page with
  | nil =>
    cases h
    exact hpage
  | cons event rest ih =>
    simp only [Page.run] at h
    split at h
    · rename_i next hnext
      refine ih (fun other hother => hstep other (List.mem_cons_of_mem _ hother)) ?_ h
      exact hstep event List.mem_cons_self page next hpage hnext
    · cases h

theorem Page.Steady.run {events : List (PageEvent S)} {page last : Page S} (hpage : page.Steady)
    (h : page.run revision clientId events = some last) : last.Steady :=
  Page.run_keeps (fun _ _ _ _ hsteady hstep => hsteady.step hstep) hpage h

end Browser

end MusicServer
